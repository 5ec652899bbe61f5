import TicTacToe.Theorems.Listeners
import TicTacToe.Theorems.RoomRecords

/-! # What a command tells about slots and marks

A handler that changes the slots or the marks of a room answers the asking player, and tells the opponent. With what they
have known before both then know the new roster, unless a game starts. -/

namespace TicTacToe

/-! ### Rosters of a record -/

namespace RoomRecord
variable {room room' : RoomRecord} {now : Millis} {p q : PlayerId} {x : PlayerSymbol} {slot : PlayerSlot}

theorem slotHolds_eq (slot : Option PlayerSlot) (q : PlayerId) :
    slotHolds slot q = true ↔ slot.map PlayerSlot.playerId = some q := by
  cases slot <;> simp [slotHolds]

/-- The roster names those who hold a slot. -/
theorem holds_iff : room.Holds q ↔ room.roster.players.X = some q ∨ room.roster.players.O = some q := by
  constructor
  · rintro ⟨x, hx⟩
    cases x with
    | X => exact Or.inl ((slotHolds_eq _ q).mp hx)
    | O => exact Or.inr ((slotHolds_eq _ q).mp hx)
  · rintro (h | h)
    · exact ⟨.X, (slotHolds_eq room.playerX q).mpr h⟩
    · exact ⟨.O, (slotHolds_eq room.playerO q).mpr h⟩

theorem holds_of_roster (h : room'.roster = room.roster) (hq : room'.Holds q) : room.Holds q := by
  rw [holds_iff] at hq ⊢
  rwa [← h]

theorem roster_addPlayer {name : Option PlayerName} (h : room.addPlayer now p name = some (x, room')) :
    room'.roster = room.roster.seat x (some p) := by
  unfold addPlayer at h
  split at h
  · obtain ⟨rfl, rfl⟩ := Prod.mk.inj (Option.some.inj h)
    rfl
  · split at h
    · obtain ⟨rfl, rfl⟩ := Prod.mk.inj (Option.some.inj h)
      rfl
    · cases h

theorem roster_removePlayer (hsymbol : getSymbolForPlayer room p = some x) :
    (room.removePlayer now p).roster =
      { room.roster.seat x none with ready := room.roster.ready.filter (· ≠ x) } := by
  unfold getSymbolForPlayer at hsymbol
  unfold removePlayer
  split at hsymbol
  · rename_i hX
    obtain rfl := Option.some.inj hsymbol
    rw [if_pos hX]
    rfl
  · rename_i hX
    split at hsymbol
    · rename_i hO
      obtain rfl := Option.some.inj hsymbol
      rw [if_neg hX, if_pos hO]
      rfl
    · cases hsymbol

/-- Who holds a slot besides `p` is the opponent of `p`. -/
theorem opponent_of_holds (hp : room.Holds p) (hq : room.Holds q) (hne : q ≠ p) :
    ∃ slot, getOpponentSlot room p = some slot ∧ slot.playerId = q := by
  have hother : ∀ {x : PlayerSymbol}, slotHolds (room.slot x) p = true → slotHolds (room.slot x) q ≠ true :=
    fun h h' => hne (slotHolds_unique h' h)
  obtain ⟨y, hy⟩ := hq
  unfold getOpponentSlot
  split
  · rename_i hX
    cases y with
    | X => exact absurd hy (hother (x := .X) hX)
    | O => exact slotHolds_iff.mp hy
  · rename_i hX
    obtain ⟨x, hx⟩ := hp
    cases x with
    | X => exact absurd hx hX
    | O =>
      have hO : slotHolds room.playerO p = true := hx
      rw [if_pos hO]
      cases y with
      | X => exact slotHolds_iff.mp hy
      | O => exact absurd hy (hother (x := .O) hO)

/-- The slot of a player and its symbol. -/
theorem Sound.symbol_of_slot (h : room.Sound) (hslot : getSlotByPlayerId room p = some slot) :
    getSymbolForPlayer room p = some slot.symbol := by
  obtain ⟨rfl, x, hx⟩ := getSlotByPlayerId_some hslot
  rw [h.symbols x slot hx]
  exact getSymbolForPlayer_of_slot h.distinct (slotHolds_iff.mpr ⟨slot, hx, rfl⟩)

end RoomRecord

/-! ### Turns -/

/-- What is known about room `r` is the roster of its record, if player `q` holds a slot. -/
def Right (r : RoomId) (room : RoomRecord) (q : PlayerId) (known : Option (RoomId × Roster)) : Prop :=
  ∀ v, known = some (r, v) → room.Holds q → v = room.roster

/-- A command of player `p` turns the record of room `r`. The player gets the answers, and the opponent the news. -/
structure Turn (r : RoomId) (p : PlayerId) (room room' : RoomRecord) (answers : List RoomEvent)
    (news : Option (PlayerId × RoomEvent)) : Prop where
  seated : room.Holds p ∨ room'.Holds p
  answered : room'.Holds p → ∀ known, Right r room p known →
    Right r room' p ((answers.map Event.room).foldl learn known)
  others : ∀ q, q ≠ p → room'.Holds q → room.Holds q ∧ ((∃ event, news = some (q, event) ∧
    room.roster.hear event.payload = room'.roster) ∨ news = none ∧ room'.roster = room.roster)
  told : ∀ n, news = some n → n.1 ≠ p ∧ room.Holds n.1 ∧ n.2.payload.admits = false
  lobby : ∀ event ∈ answers ++ news.toList.map Prod.snd, event.payload.lobby

namespace Turn
variable {r : RoomId} {p q : PlayerId} {room room' : RoomRecord} {now : Millis} {event : RoomEvent} {x : PlayerSymbol}
  {name : Option PlayerName} {answers : List RoomEvent} {news : Option (PlayerId × RoomEvent)}

theorem right_joined {roomState : RoomStateSnapshot} {seq : Nat} {id : CommandId} (h : roomState.roster = room.roster)
    (known : Option (RoomId × Roster)) :
    Right r room p (learn known (.room (makeRoomJoined r p x roomState seq id))) := by
  intro v hv hq
  have hlearned : some (r, roomState.roster) = some (r, v) := hv
  rw [← h]
  exact (Prod.mk.inj (Option.some.inj hlearned)).2.symm

/-- An event that is heard by those who know the roster. -/
theorem right_heard {known : Option (RoomId × Roster)} (hright : ∀ v, known = some (r, v) → v = room.roster)
    (hjoined : event.payload.admits = false) (hheard : room.roster.hear event.payload = room'.roster) (v : Roster)
    (hv : learn known (.room event) = some (r, v)) : v = room'.roster := by
  rw [learn, if_neg (by simp [hjoined])] at hv
  obtain ⟨⟨r', v₀⟩, hknown, hk⟩ := Option.map_eq_some_iff.mp hv
  obtain ⟨rfl, rfl⟩ := Prod.mk.inj hk
  rw [hright v₀ hknown]
  exact hheard

/-- An event that tells those who know the roster nothing new. -/
theorem right_confirmed {known : Option (RoomId × Roster)} (hright : ∀ v, known = some (r, v) → v = room.roster)
    (hheard : (event.payload.admits = true → event.roomId = r) → room.roster.hear event.payload = room.roster) (v : Roster)
    (hv : learn known (.room event) = some (r, v)) : v = room.roster := by
  cases hadmits : event.payload.admits with
  | false => exact right_heard hright hadmits (hheard fun h => by rw [hadmits] at h; cases h) v hv
  | true =>
    -- The state of the room replaces what has been known.
    obtain ⟨roomId, seq, id, payload⟩ := event
    cases payload with
    | roomJoined playerId symbol roomState | reconnectAck playerId symbol roomState =>
      have hlearned : some (roomId, roomState.roster) = some (r, v) := hv
      obtain ⟨hr, rfl⟩ := Prod.mk.inj (Option.some.inj hlearned)
      exact hheard fun _ => hr
    | _ => cases hadmits

/-- A command after which the record has the same roster: only the player is answered. -/
theorem same (hp : room.Holds p) (hroster : room'.roster = room.roster)
    (hanswers : ∀ event ∈ answers, event.payload.lobby ∧ room.roster.hear event.payload = room.roster) :
    Turn r p room room' answers none := by
  refine ⟨Or.inl hp, fun _ known hright => ?_, fun q hne hq => ?_, fun n hn => (by cases hn), fun event he => ?_⟩
  · intro v hv hq
    rw [hroster]
    have hright' : ∀ v, known = some (r, v) → v = room.roster := fun v hv => hright v hv hp
    clear hright
    induction answers generalizing known with
    | nil => exact hright' v hv
    | cons event answers ih =>
      obtain ⟨-, hheard⟩ := hanswers event List.mem_cons_self
      refine ih (fun e he => hanswers e (List.mem_cons_of_mem _ he)) (learn known (.room event)) hv fun v hv => ?_
      exact right_confirmed hright' (fun _ => hheard) v hv
  · exact ⟨RoomRecord.holds_of_roster hroster hq, Or.inr ⟨rfl, hroster⟩⟩
  · rw [Option.toList_none, List.map_nil, List.append_nil] at he
    exact (hanswers event he).1

/-- Only the roster of the new record matters. -/
theorem congr {room'' : RoomRecord} (h : Turn r p room room' answers news) (hroster : room''.roster = room'.roster) :
    Turn r p room room'' answers news := by
  have hholds : ∀ {q}, room''.Holds q → room'.Holds q := RoomRecord.holds_of_roster hroster
  refine ⟨h.seated.imp_right (RoomRecord.holds_of_roster hroster.symm), fun hp known hright => ?_, fun q hne hq => ?_,
    h.told, h.lobby⟩
  · intro v hv hq
    rw [hroster]
    exact h.answered (hholds hp) known hright v hv (hholds hq)
  · rw [hroster]
    exact h.others q hne (hholds hq)

theorem ne_opponent (x : PlayerSymbol) : opponent x ≠ x := by cases x <;> simp [opponent]

theorem eq_opponent {y : PlayerSymbol} (h : y ≠ x) : y = opponent x := by
  cases x <;> cases y <;> first | exact absurd rfl h | rfl

/-- The player of a slot knows who comes in by the other one. -/
theorem entered {roomState : RoomStateSnapshot} {seq : Nat} {id : CommandId} (hslot : getSlotByPlayerId room p = none)
    (hadd : room.addPlayer now p name = some (x, room')) (hstate : roomState.roster = room'.roster)
    (hhear : room.roster.hear event.payload = room.roster.seat x (some p)) (hlobby : event.payload.lobby)
    (hjoined : event.payload.admits = false) :
    Turn r p room room' [makeRoomJoined r p x roomState seq id]
      ((room'.slot (opponent x)).map fun slot => (slot.playerId, event)) := by
  obtain ⟨-, hslots⟩ := RoomRecord.addPlayer_slot hadd
  have hother : room'.slot (opponent x) = room.slot (opponent x) := by rw [hslots, if_neg (ne_opponent x)]
  have hnone := RoomRecord.getSlotByPlayerId_none.mp hslot
  refine ⟨Or.inr ⟨x, ?_⟩, fun _ known _ => right_joined hstate known, fun q hne hq => ?_, fun n hn => ?_,
    fun e he => ?_⟩
  · rw [hslots, if_pos rfl]
    exact decide_eq_true rfl
  · obtain ⟨y, hy⟩ := hq
    rw [hslots] at hy
    split at hy
    · exact absurd (of_decide_eq_true hy).symm hne
    · rename_i hyx
      obtain rfl := eq_opponent hyx
      obtain ⟨slot, hslot', hq⟩ := RoomRecord.slotHolds_iff.mp hy
      refine ⟨⟨_, hy⟩, Or.inl ⟨event, ?_, hhear.trans (RoomRecord.roster_addPlayer hadd).symm⟩⟩
      rw [hother, hslot', Option.map_some, hq]
  · obtain ⟨slot, hslot', rfl⟩ := Option.map_eq_some_iff.mp hn
    rw [hother] at hslot'
    refine ⟨fun he => ?_, RoomRecord.holds_of_slot hslot', hjoined⟩
    have hfree := hnone (opponent x)
    rw [RoomRecord.slotHolds_iff.mpr ⟨slot, hslot', he⟩] at hfree
    cases hfree
  · rcases List.mem_append.mp he with he | he
    · rw [List.mem_singleton.mp he]
      trivial
    · obtain ⟨n, hn, rfl⟩ := List.mem_map.mp he
      obtain ⟨slot, -, rfl⟩ := Option.map_eq_some_iff.mp (Option.mem_toList.mp hn)
      exact hlobby

theorem opponent_ne (hd : room.Distinct) {slot : PlayerSlot} (h : getOpponentSlot room p = some slot) :
    slot.playerId ≠ p := by
  intro he
  unfold getOpponentSlot at h
  split at h
  · rename_i hX
    have hO := hd p hX
    rw [RoomRecord.slotHolds_iff.mpr ⟨slot, h, he⟩] at hO
    cases hO
  · rename_i hX
    split at h
    · exact hX (RoomRecord.slotHolds_iff.mpr ⟨slot, h, he⟩)
    · cases h

/-- The opponent hears who leaves. -/
theorem left {slot : PlayerSlot} {answer : RoomEvent} {reason : PlayerLeftReason} (hs : room.Sound)
    (hslot : getSlotByPlayerId room p = some slot) (hanswer : answer.payload = .roomLeft)
    (hevent : event.payload = .playerLeft p slot.symbol reason) :
    Turn r p room (room.removePlayer now p) [answer]
      ((getOpponentSlot room p).map fun opponentSlot => (opponentSlot.playerId, event)) := by
  have hp : room.Holds p := RoomRecord.holds_of_getSlot hslot
  refine ⟨Or.inl hp, fun hstays => ?_, fun q hne hq => ?_, fun n hn => ?_, fun e he => ?_⟩
  · obtain ⟨y, hy⟩ := hstays
    rw [RoomRecord.removePlayer_not_held hs.distinct] at hy
    cases hy
  · have hq' : room.Holds q := by
      obtain ⟨y, hy⟩ := hq
      rw [RoomRecord.removePlayer_slot hs.distinct] at hy
      split at hy
      · cases hy
      · exact ⟨y, hy⟩
    obtain ⟨opponentSlot, hopponent, rfl⟩ := RoomRecord.opponent_of_holds hp hq' hne
    refine ⟨hq', Or.inl ⟨event, ?_, ?_⟩⟩
    · rw [hopponent, Option.map_some]
    · rw [hevent, RoomRecord.roster_removePlayer (hs.symbol_of_slot hslot)]
      rfl
  · obtain ⟨opponentSlot, hopponent, rfl⟩ := Option.map_eq_some_iff.mp hn
    exact ⟨opponent_ne hs.distinct hopponent, RoomRecord.holds_opponent hopponent, by rw [hevent]; rfl⟩
  · rcases List.mem_append.mp he with he | he
    · rw [List.mem_singleton.mp he, hanswer]
      trivial
    · obtain ⟨n, hn, rfl⟩ := List.mem_map.mp he
      obtain ⟨opponentSlot, -, rfl⟩ := Option.map_eq_some_iff.mp (Option.mem_toList.mp hn)
      rw [hevent]
      trivial

/-- Both are told the new marks. -/
theorem readied {answer : RoomEvent} (hd : room.Distinct) (hsymbol : getSymbolForPlayer room p = some x)
    (hanswer : answer.payload = .playerReadyAck (room.markReady x).readySymbols)
    (hevent : event.payload = .opponentReady x (room.markReady x).readySymbols) :
    Turn r p room (room.markReady x) [answer]
      ((room.slot (opponent x)).map fun slot => (slot.playerId, event)) := by
  have hheld := RoomRecord.slotHolds_of_symbol hsymbol
  have hp : room.Holds p := ⟨x, hheld⟩
  have hslots : ∀ y, (room.markReady x).slot y = room.slot y := fun y => by cases y <;> rfl
  refine ⟨Or.inl hp, fun _ known hright v hv _ => ?_, fun q hne hq => ?_, fun n hn => ?_, fun e he => ?_⟩
  · refine right_heard (fun v hv => hright v hv hp) ?_ ?_ v hv
    · rw [hanswer]
      rfl
    · rw [hanswer]
      rfl
  · obtain ⟨y, hy⟩ := hq
    rw [hslots] at hy
    have hyx : y ≠ x := by
      rintro rfl
      exact hne (slotHolds_unique hy hheld)
    obtain rfl := eq_opponent hyx
    obtain ⟨slot, hslot, rfl⟩ := RoomRecord.slotHolds_iff.mp hy
    refine ⟨⟨_, hy⟩, Or.inl ⟨event, ?_, ?_⟩⟩
    · rw [hslot, Option.map_some]
    · rw [hevent]
      rfl
  · obtain ⟨slot, hslot, rfl⟩ := Option.map_eq_some_iff.mp hn
    refine ⟨fun he => ?_, RoomRecord.holds_of_slot hslot, by rw [hevent]; rfl⟩
    -- The player would hold both slots.
    have hboth : slotHolds (room.slot (opponent x)) p = true := RoomRecord.slotHolds_iff.mpr ⟨slot, hslot, he⟩
    have hsame := RoomRecord.getSymbolForPlayer_of_slot hd hboth
    exact ne_opponent x (Option.some.inj (hsame.symm.trans hsymbol))
  · rcases List.mem_append.mp he with he | he
    · rw [List.mem_singleton.mp he, hanswer]
      trivial
    · obtain ⟨n, hn, rfl⟩ := List.mem_map.mp he
      obtain ⟨slot, -, rfl⟩ := Option.map_eq_some_iff.mp (Option.mem_toList.mp hn)
      rw [hevent]
      trivial

end Turn

end TicTacToe
