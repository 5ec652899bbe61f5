import TicTacToe.Theorems.GameStep

/-! # What a step does to slots and windows

The slots of a room change by entering, leaving and changes of presence only; a reconnect window is armed by
a disconnect during a game and goes when its player reconnects or it fires. -/

namespace TicTacToe

/-- The slot after action `a`, if the action is not a player's entering. -/
def slotAfter (now : Millis) (a : RoomAction) (slot : Option PlayerSlot) : Option PlayerSlot :=
  match a with
  | .left p => if slotHolds slot p then none else slot
  | .windowFired p => if slotHolds slot p then none else slot
  | .reconnected p =>
    if slotHolds slot p then slot.map fun slot => { slot with connected := true, lastSeenAt := now } else slot
  | .disconnected p =>
    if slotHolds slot p then slot.map fun slot => { slot with connected := false, lastSeenAt := now } else slot
  | _ => slot

namespace RoomRecord

/-- No player holds both slots. -/
def Distinct (room : RoomRecord) : Prop := ∀ p, slotHolds room.playerX p = true → slotHolds room.playerO p = false

theorem slotHolds_iff {slot : Option PlayerSlot} {p : PlayerId} :
    slotHolds slot p = true ↔ ∃ x, slot = some x ∧ x.playerId = p := by
  cases slot <;> simp [slotHolds]

theorem getSlotByPlayerId_none {room : RoomRecord} {p : PlayerId} :
    getSlotByPlayerId room p = none ↔ ∀ x, slotHolds (room.slot x) p = false := by
  unfold getSlotByPlayerId
  constructor
  · intro h x
    split at h
    · rename_i hX
      simp [h, slotHolds] at hX
    · rename_i hX
      split at h
      · rename_i hO
        simp [h, slotHolds] at hO
      · rename_i hO
        cases x
        · exact Bool.eq_false_iff.mpr hX
        · exact Bool.eq_false_iff.mpr hO
  · intro h
    simp [show slotHolds room.playerX p = false from h .X, show slotHolds room.playerO p = false from h .O]

theorem getSlotByPlayerId_some {room : RoomRecord} {p : PlayerId} {slot : PlayerSlot}
    (h : getSlotByPlayerId room p = some slot) : slot.playerId = p ∧ ∃ x, room.slot x = some slot := by
  unfold getSlotByPlayerId at h
  split at h
  · rename_i hX
    obtain ⟨y, hy, hp⟩ := slotHolds_iff.mp hX
    obtain rfl := Option.some.inj (hy.symm.trans h)
    exact ⟨hp, .X, hy⟩
  · split at h
    · rename_i hO
      obtain ⟨y, hy, hp⟩ := slotHolds_iff.mp hO
      obtain rfl := Option.some.inj (hy.symm.trans h)
      exact ⟨hp, .O, hy⟩
    · cases h

theorem getSlotByPlayerId_of_slot {room : RoomRecord} {p : PlayerId} {x : PlayerSymbol} {slot : PlayerSlot}
    (hd : room.Distinct) (h : room.slot x = some slot) (hp : slot.playerId = p) :
    getSlotByPlayerId room p = some slot := by
  have hx : slotHolds (room.slot x) p = true := slotHolds_iff.mpr ⟨slot, h, hp⟩
  unfold getSlotByPlayerId
  cases x with
  | X =>
    have hX : slotHolds room.playerX p = true := hx
    rw [if_pos hX]
    exact h
  | O =>
    have hO : slotHolds room.playerO p = true := hx
    have hX : slotHolds room.playerX p = false := by
      cases hX : slotHolds room.playerX p with
      | false => rfl
      | true => exact nomatch (hd p hX).symm.trans hO
    rw [if_neg (by simp [hX]), if_pos hO]
    exact h

theorem slotHolds_of_symbol {room : RoomRecord} {p : PlayerId} {x : PlayerSymbol}
    (h : getSymbolForPlayer room p = some x) : slotHolds (room.slot x) p = true := by
  unfold getSymbolForPlayer at h
  split at h
  · rename_i hX
    exact Option.some.inj h ▸ hX
  · split at h
    · rename_i hO
      exact Option.some.inj h ▸ hO
    · cases h

theorem getSymbolForPlayer_of_slot {room : RoomRecord} {p : PlayerId} {x : PlayerSymbol} (hd : room.Distinct)
    (h : slotHolds (room.slot x) p = true) : getSymbolForPlayer room p = some x := by
  unfold getSymbolForPlayer
  cases x with
  | X => exact if_pos h
  | O =>
    have hO : slotHolds room.playerO p = true := h
    have hX : ¬slotHolds room.playerX p = true := by
      intro hX
      rw [hd p hX] at hO
      cases hO
    rw [if_neg hX, if_pos hO]

theorem getSymbolForPlayer_none {room : RoomRecord} {p : PlayerId} :
    getSymbolForPlayer room p = none ↔ getSlotByPlayerId room p = none := by
  unfold getSymbolForPlayer getSlotByPlayerId
  split
  · rename_i hX
    obtain ⟨y, hy, -⟩ := slotHolds_iff.mp hX
    simp [hy]
  · split
    · rename_i hO
      obtain ⟨y, hy, -⟩ := slotHolds_iff.mp hO
      simp [hy]
    · simp

theorem removePlayer_slot {room : RoomRecord} (hd : room.Distinct) (now : Millis) (p : PlayerId) (x : PlayerSymbol) :
    (room.removePlayer now p).slot x = if slotHolds (room.slot x) p then none else room.slot x := by
  unfold removePlayer
  have hO := hd p
  cases hX : slotHolds room.playerX p <;> cases hO' : slotHolds room.playerO p <;> cases x <;>
    simp_all [slot, touch]

theorem setConnected_slot {room : RoomRecord} (hd : room.Distinct) (now : Millis) (p : PlayerId) (b : Bool)
    (x : PlayerSymbol) : (room.setConnected now p b).slot x = if slotHolds (room.slot x) p then
      (room.slot x).map fun slot => { slot with connected := b, lastSeenAt := now } else room.slot x := by
  unfold setConnected
  have hO := hd p
  cases hX : slotHolds room.playerX p <;> cases hO' : slotHolds room.playerO p <;> cases x <;>
    simp_all [slot]

theorem addPlayer_slot {room room' : RoomRecord} {now : Millis} {p : PlayerId} {name : Option PlayerName}
    {symbol : PlayerSymbol} (h : room.addPlayer now p name = some (symbol, room')) :
    room.slot symbol = none ∧
      ∀ x, room'.slot x = if x = symbol then some ⟨p, symbol, name, true, now⟩ else room.slot x := by
  unfold addPlayer at h
  split at h
  · rename_i hX
    obtain ⟨rfl, rfl⟩ := Prod.mk.inj (Option.some.inj h)
    exact ⟨hX, fun x => by cases x <;> rfl⟩
  · split at h
    · rename_i hO
      obtain ⟨rfl, rfl⟩ := Prod.mk.inj (Option.some.inj h)
      exact ⟨hO, fun x => by cases x <;> rfl⟩
    · cases h

end RoomRecord

/-! ### Slots -/

namespace RoomView

/-- No player holds both slots of the room. -/
def Distinct (v : RoomView) : Prop := ∀ room, v.room = some room → room.Distinct

/-- The pending reconnect window of a player. -/
def pending (v : RoomView) (p : PlayerId) : Option ReconnectTimer := v.game.bind fun gs => gs.reconnectTimers.get p

/-- A game is running. -/
def active (v : RoomView) : Bool := v.state.any fun state => state.status = .active

theorem active_of_game {v : RoomView} {gs : GameSession} (h : v.game = some gs) : v.active = gs.isActive := by
  simp [active, GameSession.isActive, state_of_game h]

theorem active_iff {v : RoomView} : v.active = true ↔ ∃ state, v.state = some state ∧ state.status = .active := by
  simp [active, Option.any_eq_true]

end RoomView

/-- The slots of a room after a step. -/
inductive SlotStep (now : Millis) (a : RoomAction) (room room' : RoomRecord) : Prop
  | entered {p : PlayerId} {name : Option PlayerName} {symbol : PlayerSymbol} (ha : a = .entered p)
    (hnew : ∀ x, slotHolds (room.slot x) p = false) (hfree : room.slot symbol = none)
    (hslot : ∀ x, room'.slot x = if x = symbol then some ⟨p, symbol, name, true, now⟩ else room.slot x)
  | other (ha : ∀ p, a ≠ .entered p) (hslot : ∀ x, room'.slot x = slotAfter now a (room.slot x))
  /-- A window fires in a room that has expired. -/
  | dead {p : PlayerId} (ha : a = .windowFired p) (hroom : room' = room)

theorem RoomStep.slots {G : IdSource} {now : Millis} {r : RoomId} {lo hi : Nat} {v v' : RoomView} {a : RoomAction}
    {sends : List SendCall} (hd : v.Distinct) (h : RoomStep G now r lo hi v a sends v') (ha : a ≠ .created)
    {room' : RoomRecord} (hroom' : v'.room = some room') : ∃ room, v.room = some room ∧ SlotStep now a room room' := by
  cases h with
  | created => exact absurd rfl ha
  | idle | rejoined | readiedAgain | rematchFired =>
    exact ⟨room', hroom', .other (by simp) fun _ => rfl⟩
  | @entered p room room₁ name symbol k hroom hslot hadd =>
    obtain rfl := Option.some.inj hroom'
    obtain ⟨hfree, hslots⟩ := RoomRecord.addPlayer_slot hadd
    have htouch : ∀ x, (room₁.touch now).slot x = room₁.slot x := fun x => by cases x <;> rfl
    exact ⟨room, hroom, .entered rfl (RoomRecord.getSlotByPlayerId_none.mp hslot) hfree fun x =>
      (htouch x).trans (hslots x)⟩
  | leftIdleRoom hroom hslot hgame =>
    obtain rfl := Option.some.inj hroom'
    exact ⟨_, hroom, .other (by simp) (RoomRecord.removePlayer_slot (hd _ hroom) now _)⟩
  | left hroom hslot hgame hload hthrew =>
    obtain rfl := Option.some.inj hroom'
    exact ⟨_, hroom, .other (by simp) (RoomRecord.removePlayer_slot (hd _ hroom) now _)⟩
  | leaveThrew hroom | moved hroom | moveThrew hroom => exact ⟨room', hroom', .other (by simp) fun _ => rfl⟩
  | readied hroom | startedReady hroom =>
    obtain rfl := Option.some.inj hroom'
    exact ⟨_, hroom, .other (by simp) fun x => by cases x <;> rfl⟩
  | @rematchRequested p room gs gameId hroom hgame =>
    obtain rfl := Option.some.inj hroom'
    refine ⟨room, hroom, .other (by simp) fun x => ?_⟩
    rcases GameSession.handleRematchRequest_cases gs now room p gameId with h | ⟨symbol, -, -, -, h⟩ <;> rw [h] <;> rfl
  | @rematchAccepted p room gs gameId unused n hroom hgame hlo hhi =>
    obtain rfl := Option.some.inj hroom'
    refine ⟨room, hroom, .other (by simp) fun x => ?_⟩
    rcases GameSession.handleRematchAccept_cases gs now (unused, G.gameId n) room p gameId with
      h | ⟨_, _, _, -, -, -, -, -, ⟨-, h⟩ | ⟨-, h⟩⟩ <;> rw [h] <;> cases x <;> rfl
  | @rematchDeclined p room gs gameId hroom hgame =>
    obtain rfl := Option.some.inj hroom'
    refine ⟨room, hroom, .other (by simp) fun x => ?_⟩
    rcases GameSession.handleRematchDecline_cases gs room p gameId with h | ⟨symbol, -, -, h⟩ <;> rw [h] <;> rfl
  | reconnectedIdle hroom | reconnected hroom | disconnected hroom | windowArmed hroom =>
    obtain rfl := Option.some.inj hroom'
    exact ⟨_, hroom, .other (by simp) (RoomRecord.setConnected_slot (hd _ hroom) now _ _)⟩
  | windowFired hgame htimer hdue hload hroom hthrew =>
    rcases hroom with rfl | ⟨room, hroom, rfl⟩
    · exact ⟨room', hroom', .dead rfl rfl⟩
    · obtain rfl := Option.some.inj hroom'
      exact ⟨room, hroom, .other (by simp) (RoomRecord.removePlayer_slot (hd _ hroom) now _)⟩

/-- A step forgets neither the room nor its session. -/
theorem RoomStep.keeps {G : IdSource} {now : Millis} {r : RoomId} {lo hi : Nat} {v v' : RoomView} {a : RoomAction}
    {sends : List SendCall} (h : RoomStep G now r lo hi v a sends v') :
    (v.room ≠ none → v'.room ≠ none) ∧ (v.game ≠ none → v'.game ≠ none) ∧ (v'.room ≠ none → v.room ≠ none ∨ a = .created) ∧
      (v'.game ≠ none → v.game ≠ none ∨ v.room ≠ none) := by
  cases h with
  | windowFired hgame htimer hdue hload hroom hthrew =>
    rcases hroom with rfl | ⟨room, hroom, rfl⟩ <;> simp_all
  | _ => simp_all

/-! ### Reconnect windows -/

namespace RoomView
variable {v v' : RoomView} {gs : GameSession}

theorem pending_of_game (h : v.game = some gs) (q : PlayerId) : v.pending q = gs.reconnectTimers.get q := by
  simp [pending, h]

theorem bump_reconnectTimers (v : RoomView) (r : RoomId) (k : Nat) (q : PlayerId) :
    ((v.gameOrNew r).bump k).reconnectTimers.get q = v.pending q := by
  unfold gameOrNew pending GameSession.bump
  cases v.game <;> rfl

end RoomView

namespace GameSession
variable {gs : GameSession} {now : Millis} {repository : HistoryRepository} {diskFails : Bool} {p : PlayerId}

theorem startGame_timers (gs : GameSession) (now : Millis) (gameId : GameId) (room : RoomRecord)
    (firstTurn : PlayerSymbol) : (gs.startGame now gameId room firstTurn).session.reconnectTimers = gs.reconnectTimers := by
  rcases startGame_cases gs now gameId room firstTurn with h | ⟨_, _, -, -, h⟩ <;> rw [h]
  exact (emit_same _ _ _ _).reconnectTimers

theorem handleEnd_timers (outcome : GameOutcome) (reason : GameEndReason) :
    (gs.handleEnd repository diskFails p fun state => endGame state outcome reason p now).session.reconnectTimers =
      gs.reconnectTimers := by
  rcases handleEnd_cases gs repository diskFails p outcome reason now with ⟨-, h⟩ | ⟨_, _, -, -, -, h⟩
  · rw [h]
  · exact h.fields.2.2.2

theorem handleMove_timers (gameId : GameId) (position : RawPosition) (commandId : CommandId) :
    (gs.handleMove now repository diskFails p gameId position commandId).session.reconnectTimers = gs.reconnectTimers := by
  have hm := handleMove_moving gs now repository diskFails p gameId position commandId
  generalize gs.handleMove now repository diskFails p gameId position commandId = o at hm
  cases hm with
  | refused => rfl
  | rejected => exact (emit_same _ _ _ _).reconnectTimers
  | continued => exact (announced_same _ _ _ _ _ _).reconnectTimers
  | finished hstate hid hmove hresult he => exact he.fields.2.2.2.trans (announced_same _ _ _ _ _ _).reconnectTimers

theorem expireReconnectWindow_timers (symbol : Option PlayerSymbol) (q : PlayerId)
    (hthrew : (gs.expireReconnectWindow now repository diskFails p symbol).threw = false) :
    (gs.expireReconnectWindow now repository diskFails p symbol).session.reconnectTimers.get q =
      if p = q then none else gs.reconnectTimers.get q := by
  have ha : (gs.handleAbandon now repository diskFails p).session.reconnectTimers = gs.reconnectTimers :=
    handleEnd_timers _ _
  rcases expireReconnectWindow_cases gs now repository diskFails p symbol with ⟨ht, he⟩ | ⟨-, -, he⟩ | ⟨x, -, -, he⟩
  · exact nomatch (he ▸ hthrew : _ = false).symm.trans ht
  · rw [he]
    simp only [clearReconnectWindow_get, ha]
  · rw [he]
    simp only [clearReconnectWindow_get]
    rw [(emit_same _ _ _ _).reconnectTimers, (nextSeq_same _).reconnectTimers, ha]

end GameSession

/-- The player whose presence an action changes. -/
def RoomAction.presence : RoomAction → Option PlayerId
  | .reconnected p => some p
  | .disconnected p => some p
  | .windowFired p => some p
  | _ => none

/-- The window of player `q` after action `a`. -/
inductive WindowStep (now : Millis) (v : RoomView) (a : RoomAction) (v' : RoomView) (q : PlayerId) : Prop
  | cleared (ha : a = .reconnected q ∨ a = .windowFired q) (h : v'.pending q = none)
  | armed (ha : a = .disconnected q) (hactive : v.active = true)
    (h : ∃ symbol, v'.pending q = some ⟨symbol, now + RECONNECT_WINDOW_MS⟩)
  | same (hback : a ≠ .reconnected q) (hfired : a ≠ .windowFired q) (harmed : a = .disconnected q → v.active = false)
    (h : v'.pending q = v.pending q)

namespace WindowStep
variable {now : Millis} {v v' : RoomView} {a : RoomAction} {q : PlayerId}

/-- An action that neither clears nor arms a window. -/
theorem of_presence (ha : a.presence ≠ some q) (h : v'.pending q = v.pending q) : WindowStep now v a v' q := by
  refine .same ?_ ?_ ?_ h
  · rintro rfl
    exact ha rfl
  · rintro rfl
    exact ha rfl
  · rintro rfl
    exact absurd rfl ha

theorem of_timers {gs gs' : GameSession} (ha : a.presence ≠ some q) (hgame : v.game = some gs)
    (hgame' : v'.game = some gs') (h : gs'.reconnectTimers = gs.reconnectTimers) : WindowStep now v a v' q := by
  refine of_presence ha ?_
  rw [RoomView.pending_of_game hgame', RoomView.pending_of_game hgame, h]

end WindowStep

theorem RoomStep.windows {G : IdSource} {now : Millis} {r : RoomId} {lo hi : Nat} {v v' : RoomView} {a : RoomAction}
    {sends : List SendCall} (h : RoomStep G now r lo hi v a sends v') (q : PlayerId) : WindowStep now v a v' q := by
  cases h with
  | idle | created | leftIdleRoom => exact .of_presence (by simp [RoomAction.presence]) rfl
  | rejoined hroom hslot =>
    refine .of_presence (by simp [RoomAction.presence]) ?_
    cases hg : v.game <;> simp [RoomView.pending, hg, GameSession.bump]
  | entered => exact .of_presence (by simp [RoomAction.presence]) (RoomView.bump_reconnectTimers v r _ q)
  | left hroom hslot hgame hload hthrew | leaveThrew hroom hslot hgame hload hthrew =>
    exact .of_timers (by simp [RoomAction.presence]) hgame rfl (GameSession.handleEnd_timers _ _)
  | readiedAgain => exact .of_presence (by simp [RoomAction.presence]) (RoomView.bump_reconnectTimers v r 0 q)
  | readied => exact .of_presence (by simp [RoomAction.presence]) (RoomView.bump_reconnectTimers v r _ q)
  | startedReady =>
    refine .of_presence (by simp [RoomAction.presence]) ?_
    rw [RoomView.pending_of_game rfl, GameSession.startGame_timers]
    exact RoomView.bump_reconnectTimers v r _ q
  | moved hroom hgame | moveThrew hroom hgame =>
    exact .of_timers (by simp [RoomAction.presence]) hgame rfl (GameSession.handleMove_timers _ _ _)
  | @rematchRequested p room gs gameId hroom hgame =>
    refine .of_timers (by simp [RoomAction.presence]) hgame rfl ?_
    rcases GameSession.handleRematchRequest_cases gs now room p gameId with h | ⟨symbol, -, -, -, h⟩ <;> rw [h] <;> rfl
  | @rematchAccepted p room gs gameId unused n hroom hgame hlo hhi =>
    refine .of_timers (by simp [RoomAction.presence]) hgame rfl ?_
    rcases GameSession.handleRematchAccept_cases gs now (unused, G.gameId n) room p gameId with
      h | ⟨_, _, _, -, -, -, -, -, ⟨-, h⟩ | ⟨-, h⟩⟩ <;> rw [h]
    · rfl
    · exact GameSession.startGame_timers _ _ _ _ _
  | @rematchDeclined p room gs gameId hroom hgame =>
    refine .of_timers (by simp [RoomAction.presence]) hgame rfl ?_
    rcases GameSession.handleRematchDecline_cases gs room p gameId with h | ⟨symbol, -, -, h⟩ <;> rw [h] <;> rfl
  | @reconnectedIdle p room hroom hslot hgame =>
    by_cases hp : p = q
    · exact .cleared (Or.inl (hp ▸ rfl)) (by simp [RoomView.pending, hgame])
    · exact .of_presence (by simp [RoomAction.presence, hp]) rfl
  | @reconnected p room gs hroom hslot hgame =>
    have ht := (GameSession.tellOpponent_same (gs.clearReconnectWindow p) (room.setConnected now p true) p
      fun symbol seq => makeOpponentReconnected gs.roomId symbol seq).reconnectTimers
    have hq : ∀ m : JsMap PlayerId ReconnectTimer, m = (gs.clearReconnectWindow p).reconnectTimers →
        m.get q = if p = q then none else gs.reconnectTimers.get q := by
      rintro m rfl
      exact GameSession.clearReconnectWindow_get gs p q
    have hv := hq _ ht
    by_cases hp : p = q
    · refine .cleared (Or.inl (hp ▸ rfl)) ?_
      rw [RoomView.pending_of_game rfl]
      rw [if_pos hp] at hv
      exact hv
    · refine .of_presence (by simp [RoomAction.presence, hp]) ?_
      rw [RoomView.pending_of_game rfl, RoomView.pending_of_game hgame]
      rw [if_neg hp] at hv
      exact hv
  | @disconnected p room hroom hgame =>
    refine .same (by simp) (by simp) (fun _ => ?_) rfl
    cases hg : v.game with
    | none => simp [RoomView.active, RoomView.state, hg]
    | some gs => rw [RoomView.active_of_game hg, hgame gs hg]
  | @windowArmed p room gs hroom hgame hactive =>
    obtain ⟨-, -, -, -, htimers⟩ := GameSession.startReconnectWindow_fields gs now (room.setConnected now p false) p
    by_cases hp : p = q
    · exact .armed (hp ▸ rfl) ((RoomView.active_of_game hgame).trans hactive)
        ⟨_, by rw [RoomView.pending_of_game rfl, htimers, if_pos hp]⟩
    · refine .of_presence (by simp [RoomAction.presence, hp]) ?_
      rw [RoomView.pending_of_game rfl, RoomView.pending_of_game hgame, htimers, if_neg hp]
  | @windowFired p gs timer repository diskFails room' hgame htimer hdue hload hroom hthrew =>
    have htimers := GameSession.expireReconnectWindow_timers timer.symbol q hthrew
    by_cases hp : p = q
    · refine .cleared (Or.inr (hp ▸ rfl)) ?_
      rw [RoomView.pending_of_game rfl, htimers, if_pos hp]
    · refine .of_presence (by simp [RoomAction.presence, hp]) ?_
      rw [RoomView.pending_of_game rfl, RoomView.pending_of_game hgame, htimers, if_neg hp]
  | @rematchFired gs room proposal hroom hgame hproposal hdue =>
    refine .of_timers (by simp [RoomAction.presence]) hgame rfl ?_
    rcases GameSession.expireRematch_cases gs room proposal.gameId with h | h | ⟨anyPlayer, h⟩ <;> rw [h]
    exact (GameSession.emit_same _ _ _ _).reconnectTimers

end TicTacToe
