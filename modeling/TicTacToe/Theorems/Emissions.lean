import TicTacToe.Theorems.Runs

/-! # What a room's session sends

Each action makes the session of its room send events of a few kinds only. -/

namespace TicTacToe

/-- Whether action `a` may make the session send an event of this kind. -/
def RoomAction.emits (a : RoomAction) : RoomPayload → Bool
  | .gameStarted .. => (a matches .readied _ | .rematchAccepted ..)
  | .moveAck .. => (a matches .moved .. | .moveThrew ..)
  | .moveBroadcast .. => (a matches .moved .. | .moveThrew ..)
  | .moveRejected .. => (a matches .moved .. | .moveThrew ..)
  | .gameFinished .. => (a matches .left _ | .leaveThrew _ | .moved .. | .moveThrew .. | .windowFired _)
  | .playerLeft .. => (a matches .windowFired _)
  | .rematchRequested .. => (a matches .rematchRequested ..)
  | .rematchDeclined .. => (a matches .rematchDeclined ..)
  | .rematchExpired .. => (a matches .rematchFired)
  | .opponentDisconnected .. => (a matches .disconnected _)
  | .opponentReconnected .. => (a matches .reconnected _)
  | _ => false

/-- The kind of a room event, with its data. -/
def SendCall.payload (call : SendCall) : Option RoomPayload :=
  match call.event with
  | .room event => some event.payload
  | _ => none

/-- The calls send room events of the allowed kinds only. -/
def SendsOnly (allowed : RoomPayload → Bool) (sends : List SendCall) : Prop :=
  ∀ call ∈ sends, ∀ x, call.payload = some x → allowed x = true

namespace SendsOnly
variable {allowed : RoomPayload → Bool} {sends sends' : List SendCall}

theorem nil : SendsOnly allowed [] := fun call h => by simp at h

theorem one {target : SendTarget} {p : PlayerId} {event : RoomEvent} (h : allowed event.payload = true) :
    SendsOnly allowed [⟨target, p, .room event⟩] := by
  intro call hcall x hx
  obtain rfl := List.mem_singleton.mp hcall
  exact Option.some.inj hx ▸ h

theorem append (h : SendsOnly allowed sends) (h' : SendsOnly allowed sends') : SendsOnly allowed (sends ++ sends') := by
  intro call hcall
  rcases List.mem_append.mp hcall with hcall | hcall
  · exact h call hcall
  · exact h' call hcall

end SendsOnly

namespace GameSession
variable {gs : GameSession} {now : Millis} {repository : HistoryRepository} {diskFails : Bool} {p : PlayerId}
  {allowed : RoomPayload → Bool}

theorem Ending.sendsOnly {t : GameState} {result : GameResult} {e : GameEffect}
    (h : Ending gs repository diskFails p t result e)
    (hfinished : ∀ gameId result board history stats, allowed (.gameFinished gameId result board history stats) = true) :
    SendsOnly allowed e.sends := by
  cases h with
  | failed => exact .nil
  | known | recorded => exact .one (hfinished _ _ _ _ _)

theorem handleEnd_sendsOnly (outcome : GameOutcome) (reason : GameEndReason)
    (hfinished : ∀ gameId result board history stats, allowed (.gameFinished gameId result board history stats) = true) :
    SendsOnly allowed
      (gs.handleEnd repository diskFails p fun state => endGame state outcome reason p now).sends := by
  rcases handleEnd_cases gs repository diskFails p outcome reason now with ⟨-, h⟩ | ⟨_, _, -, -, -, h⟩
  · rw [h]
    exact .nil
  · exact h.sendsOnly hfinished

theorem tellOpponent_sendsOnly (gs : GameSession) (room : RoomRecord) (p : PlayerId)
    (makeEvent : PlayerSymbol → Nat → RoomEvent) (h : ∀ symbol seq, allowed (makeEvent symbol seq).payload = true) :
    SendsOnly allowed (gs.tellOpponent room p makeEvent).sends := by
  rcases tellOpponent_cases gs room p makeEvent with he | ⟨_, _, -, -, -, he⟩ <;> rw [he]
  · exact .nil
  · exact .one (h _ _)

theorem startGame_sendsOnly (gs : GameSession) (now : Millis) (gameId : GameId) (room : RoomRecord)
    (firstTurn : PlayerSymbol)
    (hstarted : ∀ gameId board firstTurn players startedAt,
      allowed (.gameStarted gameId board firstTurn players startedAt) = true) :
    SendsOnly allowed (gs.startGame now gameId room firstTurn).sends := by
  rcases startGame_cases gs now gameId room firstTurn with h | ⟨_, _, -, -, h⟩ <;> rw [h]
  · exact .nil
  · exact .one (hstarted _ _ _ _ _)

theorem handleMove_sendsOnly (gameId : GameId) (position : RawPosition) (commandId : CommandId) {a : RoomAction}
    (ha : a = .moved p commandId gameId position ∨ a = .moveThrew p commandId gameId position) :
    SendsOnly a.emits (gs.handleMove now repository diskFails p gameId position commandId).sends := by
  have hallowed : ∀ x : RoomPayload, (RoomAction.moved p commandId gameId position).emits x = true →
      a.emits x = true := by
    intro x hx
    rcases ha with rfl | rfl
    · exact hx
    · cases x <;> first | rfl | exact hx
  have hm := handleMove_moving gs now repository diskFails p gameId position commandId
  generalize gs.handleMove now repository diskFails p gameId position commandId = o at hm
  have hannounced : ∀ (gs : GameSession) made, SendsOnly a.emits (gs.announced p gameId position commandId made).sends :=
    fun gs made => (SendsOnly.one (hallowed _ rfl)).append (.one (hallowed _ rfl))
  cases hm with
  | refused =>
    intro call hcall x hx
    obtain rfl := List.mem_singleton.mp hcall
    cases hx
  | rejected => exact .one (hallowed _ rfl)
  | continued => exact hannounced _ _
  | finished hstate hid hmove hresult he =>
    exact (hannounced _ _).append (he.sendsOnly fun _ _ _ _ _ => hallowed _ rfl)

end GameSession

/-- A step sends events of the kinds of its action. -/
theorem RoomStep.sendsOnly {G : IdSource} {now : Millis} {r : RoomId} {lo hi : Nat} {v v' : RoomView} {a : RoomAction}
    {sends : List SendCall} (h : RoomStep G now r lo hi v a sends v') : SendsOnly a.emits sends := by
  cases h with
  | idle | created | rejoined | entered | leftIdleRoom | readiedAgain | readied | reconnectedIdle | disconnected =>
    exact .nil
  | left | leaveThrew => exact GameSession.handleEnd_sendsOnly _ _ fun _ _ _ _ _ => rfl
  | startedReady => exact GameSession.startGame_sendsOnly _ _ _ _ _ fun _ _ _ _ _ => rfl
  | moved => exact GameSession.handleMove_sendsOnly _ _ _ (Or.inl rfl)
  | moveThrew => exact GameSession.handleMove_sendsOnly _ _ _ (Or.inr rfl)
  | @rematchRequested p room gs gameId =>
    rcases GameSession.handleRematchRequest_cases gs now room p gameId with h | ⟨symbol, -, -, -, h⟩ <;> rw [h]
    · exact .nil
    · exact .one rfl
  | @rematchAccepted p room gs gameId unused n =>
    rcases GameSession.handleRematchAccept_cases gs now (unused, G.gameId n) room p gameId with
      h | ⟨_, _, _, -, -, -, -, -, ⟨-, h⟩ | ⟨-, h⟩⟩ <;> rw [h]
    · exact .nil
    · exact .nil
    · exact GameSession.startGame_sendsOnly _ _ _ _ _ fun _ _ _ _ _ => rfl
  | @rematchDeclined p room gs gameId =>
    rcases GameSession.handleRematchDecline_cases gs room p gameId with h | ⟨symbol, -, -, h⟩ <;> rw [h]
    · exact .nil
    · exact .one rfl
  | reconnected => exact GameSession.tellOpponent_sendsOnly _ _ _ _ fun _ _ => rfl
  | windowArmed => exact GameSession.tellOpponent_sendsOnly _ _ _ _ fun _ _ => rfl
  | @windowFired p gs timer repository diskFails =>
    have ha : SendsOnly (RoomAction.windowFired p).emits (gs.handleAbandon now repository diskFails p).sends :=
      GameSession.handleEnd_sendsOnly _ _ fun _ _ _ _ _ => rfl
    rcases GameSession.expireReconnectWindow_cases gs now repository diskFails p timer.symbol with
      ⟨-, he⟩ | ⟨-, -, he⟩ | ⟨x, -, -, he⟩
    · rw [he]
      exact ha
    · rw [he]
      exact ha
    · rw [he]
      exact ha.append (.one rfl)
  | @rematchFired gs room proposal =>
    rcases GameSession.expireRematch_cases gs room proposal.gameId with h | h | ⟨anyPlayer, h⟩ <;> rw [h]
    · exact .nil
    · exact .nil
    · exact .one rfl

end TicTacToe
