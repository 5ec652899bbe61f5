import TicTacToe.Theorems.Authenticity
import TicTacToe.Theorems.DeadRooms

/-! # Whose seat it is

A seat is taken by its holder's own `JOIN_ROOM`, under the name that this command gives, and it is lost by the holder's
own `LEAVE_ROOM` or by the holder's own reconnect window. -/

namespace TicTacToe

/-! ### Names -/

/-- A name as it is stored: short, and without the characters that have a meaning in HTML. -/
structure PlayerName.Sanitised (name : PlayerName) : Prop where
  short : name.length ≤ MAX_PLAYER_NAME_LENGTH
  plain : ∀ unit ∈ name, unit ∉ ([60, 62, 34, 39, 38] : List UInt16)

theorem sanitiseName_sanitised {raw : Option PlayerName} {name : PlayerName} (h : sanitiseName raw = some name) :
    name.Sanitised := by
  obtain ⟨text, -, rfl⟩ := Option.map_eq_some_iff.mp h
  constructor
  · calc _ ≤ ((trimName text).take MAX_PLAYER_NAME_LENGTH).length := List.length_filter_le _ _
      _ ≤ MAX_PLAYER_NAME_LENGTH := List.length_take_le _ _
  · intro unit hunit
    obtain ⟨-, hplain⟩ := List.mem_filter.mp hunit
    simpa using hplain

/-- The player holds slot `x` of the room under a name. -/
def RoomView.Seats (v : RoomView) (x : PlayerSymbol) (p : PlayerId) (name : Option PlayerName) : Prop :=
  ∃ room slot, v.room = some room ∧ room.slot x = some slot ∧ slot.playerId = p ∧ slot.name = name

theorem RoomView.Seats.holds {v : RoomView} {x : PlayerSymbol} {p : PlayerId} {name : Option PlayerName}
    (h : v.Seats x p name) : v.Holds p := by
  obtain ⟨room, slot, hroom, hslot, hp, -⟩ := h
  exact ⟨room, x, hroom, RoomRecord.slotHolds_iff.mpr ⟨slot, hslot, hp⟩⟩

/-- A slot that an action leaves has its player and its name from before. -/
theorem slotAfter_some {now : Millis} {a : RoomAction} {slot : Option PlayerSlot} {slot' : PlayerSlot}
    (h : slotAfter now a slot = some slot') :
    ∃ old, slot = some old ∧ old.playerId = slot'.playerId ∧ old.name = slot'.name := by
  have hpresence : ∀ (holds connected : Bool),
      (if holds then slot.map fun slot => { slot with connected := connected, lastSeenAt := now } else slot) = some slot' →
      ∃ old, slot = some old ∧ old.playerId = slot'.playerId ∧ old.name = slot'.name := by
    intro holds connected h
    split at h
    · obtain ⟨old, hold, rfl⟩ := Option.map_eq_some_iff.mp h
      exact ⟨old, hold, rfl, rfl⟩
    · exact ⟨slot', h, rfl, rfl⟩
  cases a with
  | left p | windowFired p =>
    simp only [slotAfter] at h
    split at h
    · cases h
    · exact ⟨slot', h, rfl, rfl⟩
  | reconnected p | disconnected p => exact hpresence _ _ h
  | _ => exact ⟨slot', h, rfl, rfl⟩

/-- Only a player's entering seats a player. -/
theorem RoomStep.seats {G : IdSource} {now : Millis} {r : RoomId} {lo hi : Nat} {v v' : RoomView} {a : RoomAction}
    {sends : List SendCall} {x : PlayerSymbol} {p : PlayerId} {name : Option PlayerName}
    (h : RoomStep G now r lo hi v a sends v') (hd : v.Distinct) (hentered : ∀ q, a ≠ .entered q)
    (hseats : v'.Seats x p name) : v.Seats x p name := by
  obtain ⟨room', slot', hroom', hslot', rfl, rfl⟩ := hseats
  by_cases ha : a = .created
  · subst ha
    cases h with
    | created =>
      obtain rfl := Option.some.inj hroom'
      cases x <;> cases hslot'
  obtain ⟨room, hroom, hslots⟩ := h.slots hd ha hroom'
  cases hslots with
  | entered ha => exact absurd ha (hentered _)
  | other _ hsame =>
    obtain ⟨old, hold, hp, hname⟩ := slotAfter_some ((hsame x).symm.trans hslot')
    exact ⟨room, old, hroom, hold, hp, hname⟩
  | dead _ hsame => exact ⟨room, slot', hroom, hsame ▸ hslot', rfl, rfl⟩

namespace Server
variable {s t : Server} {G : IdSource} {i : Input} {r : RoomId} {p : PlayerId} {c : ConnectionId} {id : CommandId}
  {token : SessionToken}

/-! ### Joining -/

/-- A processed `JOIN_ROOM` leaves the room, or adds the player of the session to it under the sanitised name. -/
theorem handleJoinRoom_seats (s : Server) (c : ConnectionId) (id : CommandId) (r : RoomId) (name : Option PlayerName)
    (token : SessionToken) :
    Handling s c id token (resend c) (fun p result => (result.server.view r).room = (s.view r).room ∨
      ∃ room x room', s.getRoom r = some room ∧ room.addPlayer s.now p (sanitiseName name) = some (x, room') ∧
        (result.server.view r).room = some (room'.touch s.now))
      (s.handleJoinRoom c id r name token) := by
  unfold handleJoinRoom
  refine sessionCommand_handling _ fun session hs hc => ?_
  have hq := afterLookup_quiet s id
  have hw : (s.afterLookup id).wire = s.wire := rfl
  generalize s.afterLookup id = x at hq hw
  have hcx : x.cached id = none := (hq.cached id).trans hc
  split
  · exact Or.inl (.refuse hq hw _)
  rcases withRoom_cases x c id r _ with ⟨-, h⟩ | ⟨room, hroom, he⟩
  · exact Or.inl (h.of_quiet hq hw)
  rw [he]
  cases hslot : getSlotByPlayerId room session.playerId with
  | some slot =>
    obtain ⟨sends, hstep, -⟩ := (rejoinRoom_acts (G := tallies) (c := c) hcx hroom hslot).step
    exact Or.inr (Or.inl (hstep.rejoined_room.1.trans (congrArg RoomView.room (hq.view r))))
  | none =>
    dsimp only
    split
    · exact Or.inl (.refuse hq hw _)
    cases hadd : room.addPlayer x.now session.playerId (sanitiseName name) with
    | none => exact Or.inl (.refuse hq hw _)
    | some added =>
      obtain ⟨symbol, room'⟩ := added
      obtain ⟨u, roomState, seq, others, he, hroom', -⟩ :=
        enterRoom_responds x c id r token session.playerId (sanitiseName name) symbol room'
      have hentered : ((x.enterRoom c id r token session.playerId (sanitiseName name) symbol room').server.view r).room =
          some (room'.touch x.now) := by
        rw [he]
        exact view_room_of_getRoom hroom'
      rw [hq.now] at hadd hentered
      exact Or.inr (Or.inr ⟨room, symbol, room', (hq.getRoom r).symm.trans hroom, hadd, hentered⟩)

/-- The seats after a processed `JOIN_ROOM`. -/
theorem Handles.joined {name name' : Option PlayerName} {q : PlayerId} {x : PlayerSymbol}
    (h : s.Handles i ⟨id, .joinRoom r name⟩ p) (hstep : s.step G i = some t) (hold : ¬(s.view r).Seats x q name')
    (hnew : (t.view r).Seats x q name') : q = p ∧ name' = sanitiseName name := by
  obtain ⟨c, rec, token, htoken, hp, ht⟩ := h.step hstep
  have hq := arrived_quiet s c rec
  have hdispatch : (s.arrived c rec).dispatch G c rec ⟨id, .joinRoom r name⟩ i.diskFails =
      (s.arrived c rec).handleJoinRoom c id r name token := by simp only [dispatch, htoken]
  rw [hdispatch] at ht
  have hlast := (conclude_quiet G c id ((s.arrived c rec).handleJoinRoom c id r name token)).view r
  rw [← ht] at hlast
  have hkept : ((s.arrived c rec).handleJoinRoom c id r name token).server.view r = s.view r → False := fun hsame =>
    hold (hsame ▸ hlast ▸ hnew)
  have hroom := hq.view r
  cases handleJoinRoom_seats (s.arrived c rec) c id r name token with
  | refused h => exact absurd ((h.still (G := G)).view r |>.trans hroom) hkept
  | recalled hs hc he =>
    rw [he] at hkept
    exact absurd hroom hkept
  | processed hp' hjoins =>
    obtain rfl := hp'.unique hp
    obtain ⟨room₁, slot, hroom₁, hslot, rfl, rfl⟩ := hnew
    rw [hlast] at hroom₁
    rcases hjoins with hsame | ⟨room, y, room', hlive, hadd, hjoined⟩
    · rw [hsame, hroom] at hroom₁
      exact absurd ⟨room₁, slot, hroom₁, hslot, rfl, rfl⟩ hold
    · obtain rfl := Option.some.inj (hjoined.symm.trans hroom₁)
      obtain ⟨-, hslots⟩ := RoomRecord.addPlayer_slot hadd
      have hslot' : room'.slot x = some slot := by
        cases x <;> exact hslot
      rw [hslots] at hslot'
      split at hslot'
      · obtain rfl := Option.some.inj hslot'
        exact ⟨rfl, rfl⟩
      · have hview : (s.view r).room = some room := (congrArg RoomView.room hroom).symm.trans (view_room_of_getRoom hlive)
        exact absurd ⟨room, slot, hview, hslot', rfl, rfl⟩ hold

/-! ### Steps of the server -/

/-- A new seat is that of a player whose `JOIN_ROOM` is processed. -/
theorem step_seats {x : PlayerSymbol} {name : Option PlayerName} (hs : s.Seats G) (h : s.step G i = some t)
    (hold : ¬(s.view r).Seats x p name) (hnew : (t.view r).Seats x p name) :
    ∃ id raw, s.Handles i ⟨id, .joinRoom r raw⟩ p ∧ name = sanitiseName raw := by
  rcases step_view hs.keyed h r with hview | ⟨a, hacts, hcause⟩
  · rw [hview] at hnew
    exact absurd hnew hold
  obtain ⟨sends, hstep, -⟩ := hacts.step
  by_cases ha : ∃ q, a = .entered q
  · obtain ⟨q, rfl⟩ := ha
    obtain ⟨id, raw, hjoin⟩ := hcause
    obtain ⟨rfl, rfl⟩ := hjoin.joined h hold hnew
    exact ⟨id, raw, hjoin, rfl⟩
  · exact absurd (hstep.seats (hs.distinct r) (fun q hq => ha ⟨q, hq⟩) hnew) hold

/-- A seat is lost by a `LEAVE_ROOM` of its player, or when a window of its player is due. -/
theorem step_unseats (hn : G.NeverRepeats) (hs : s.Seats G) (h : s.step G i = some t) (hold : (s.view r).Holds p)
    (hnew : ¬(t.view r).Holds p) :
    (∃ id, s.Handles i ⟨id, .leaveRoom r⟩ p) ∨
      ∃ diskFails timer, i = .reconnectWindow r p diskFails ∧ s.window r p = some timer ∧ timer.deadline ≤ s.now := by
  rcases step_view hs.keyed h r with hview | ⟨a, hacts, hcause⟩
  · rw [hview] at hnew
    exact absurd hold hnew
  obtain ⟨sends, hstep, -⟩ := hacts.step
  have hcreated : a ≠ .created := by
    rintro rfl
    obtain ⟨room, x, hroom, -⟩ := hold
    rw [(hs.created_fresh hn hacts).1] at hroom
    cases hroom
  by_cases hleft : a = .left p
  · subst hleft
    exact Or.inl hcause
  by_cases hfired : a = .windowFired p
  · subst hfired
    obtain ⟨diskFails, rfl⟩ := hcause
    obtain ⟨timer, htimer, hdue⟩ := hstep.window_due
    exact Or.inr ⟨diskFails, timer, rfl, htimer, hdue⟩
  · exact absurd (hstep.holds (hs.distinct r) hcreated hold hleft hfired) hnew

end Server

open Server

/-- Whoever holds a slot has taken it by a `JOIN_ROOM` and held a slot of the room ever since; the name in the slot is
the sanitised name of that command. Between a state in which a player holds a slot and a later one in which the player
holds none, the player has left the room or a reconnect window of the player was due. -/
theorem seats_authentic {G : IdSource} (hn : G.NeverRepeats) {C : Server → Input → Prop} {now : Millis}
    {version : String} {repository : HistoryRepository} {s : Server} (hrun : Runs G C (start now version repository) s)
    (r : RoomId) :
    (∀ room x slot, (s.view r).room = some room → room.slot x = some slot →
      (∀ name, slot.name = some name → name.Sanitised) ∧
      ∃ u i t id raw, Runs G C (start now version repository) u ∧ C u i ∧ u.step G i = some t ∧
        Runs G (fun s i => C s i ∧ (s.view r).Holds slot.playerId) t s ∧
        u.Handles i ⟨id, .joinRoom r raw⟩ slot.playerId ∧ slot.name = sanitiseName raw) ∧
    ∀ p t, (s.view r).Holds p → Runs G C s t → ¬(t.view r).Holds p →
      ∃ u i v, Runs G C s u ∧ C u i ∧ u.step G i = some v ∧ Runs G C v t ∧
        ((∃ id, u.Handles i ⟨id, .leaveRoom r⟩ p) ∨
          ∃ diskFails timer, i = .reconnectWindow r p diskFails ∧ u.window r p = some timer ∧
            timer.deadline ≤ u.now) := by
  constructor
  · intro room x slot hroom hslot
    obtain ⟨u, i, t, hu, hc, hstep, ht, hold, hnew⟩ :=
      hrun.brought_about (P := fun s => (s.view r).Seats x slot.playerId slot.name)
        (by rintro ⟨room, slot, hroom, -⟩; cases hroom) ⟨room, slot, hroom, hslot, rfl, rfl⟩
    obtain ⟨id, raw, hjoin, hname⟩ := step_seats (runs_seats hn hu) hstep hold hnew
    refine ⟨fun name hsome => sanitiseName_sanitised (hname.symm.trans hsome), u, i, t, id, raw, hu, hc, hstep, ?_, hjoin,
      hname⟩
    exact ht.mono fun s i h => ⟨h.1, h.2.holds⟩
  · intro p t hold hlater hnew
    obtain ⟨u, i, v, hu, hc, hstep, hv, hnot, hlost⟩ :=
      hlater.brought_about (P := fun s => ¬(s.view r).Holds p) (fun h => h hold) hnew
    exact ⟨u, i, v, hu, hc, hstep, hv.mono fun _ _ h => h.1,
      step_unseats hn (runs_seats hn (hrun.trans hu)) hstep (Classical.not_not.mp hnot) hlost⟩

/-- The seat of player 1, who plays the game of the opening and leaves. -/
theorem seats_authentic_leave : ∃ s t, ∃ slot : PlayerSlot, Runs tallies (fun _ _ => True) fresh s ∧
    Runs tallies (fun _ _ => True) s t ∧
    (∃ u i id raw, Server.Handles u i ⟨id, .joinRoom (tally 'r' 4) raw⟩ slot.playerId ∧ slot.name = sanitiseName raw) ∧
    ∃ u i, (∃ id, Server.Handles u i ⟨id, .leaveRoom (tally 'r' 4)⟩ slot.playerId) ∨
      ∃ diskFails, i = .reconnectWindow (tally 'r' 4) slot.playerId diskFails := by
  have hcheck : (Transition.run (step tallies) (fun _ _ => true) fresh opening).any (fun s =>
      ((s.view (tally 'r' 4)).room.any fun room => room.playerX.any fun slot => slot.playerId = tally 'p' 1) &&
      (s.step tallies (asks 0 "leave1" (.leaveRoom (tally 'r' 4)))).any fun t =>
        (t.view (tally 'r' 4)).slotOf (tally 'p' 1) |>.isNone) = true := by decide +kernel
  obtain ⟨s, hrun, hs⟩ := Transition.exists_run (C := fun _ _ => True) (fun _ _ _ => trivial) hcheck
  simp only [Bool.and_eq_true, Option.any_eq_true, decide_eq_true_eq, Option.isNone_iff_eq_none] at hs
  obtain ⟨⟨room, hroom, slot, hslot, hp⟩, t, hstep, hgone⟩ := hs
  obtain ⟨hseats, hlost⟩ := seats_authentic tallies_neverRepeats hrun (tally 'r' 4)
  obtain ⟨-, u, i, -, id, raw, -, -, -, -, hjoin, hname⟩ := hseats room .X slot hroom hslot
  have hold : (s.view (tally 'r' 4)).Holds slot.playerId :=
    ⟨room, .X, hroom, RoomRecord.slotHolds_iff.mpr ⟨slot, hslot, rfl⟩⟩
  have hlater : Runs tallies (fun _ _ => True) s t := .tail .refl trivial hstep
  obtain ⟨u', i', -, -, -, -, -, hleft⟩ := hlost slot.playerId t hold hlater
    (fun hholds => RoomView.holds_iff.mp hholds (hp ▸ hgone))
  exact ⟨s, t, slot, hrun, hlater, ⟨u, i, id, raw, hjoin, hname⟩, u', i',
    hleft.imp_right fun ⟨diskFails, _, hi, _⟩ => ⟨diskFails, hi⟩⟩

end TicTacToe
