import TicTacToe.Theorems.Postings
import TicTacToe.Theorems.Seats

/-! # To whom a session's calls go

Every event of a session carries the id of its room. It is for the slots of the room, or for one player: the one whom the
method is called for, or a connected opponent. -/

namespace TicTacToe

/-- The call carries the id of room `r`, and a single addressee meets `P`. -/
structure SendCall.For (r : RoomId) (P : PlayerId → Prop) (call : SendCall) : Prop where
  room : ∀ event, call.roomEvent = some event → event.roomId = r
  player : call.target = .player → P call.playerId

def SendsFor (r : RoomId) (P : PlayerId → Prop) (sends : List SendCall) : Prop := ∀ call ∈ sends, call.For r P

namespace SendsFor
variable {r : RoomId} {P Q : PlayerId → Prop} {sends sends' : List SendCall} {p : PlayerId} {event : RoomEvent}

theorem nil : SendsFor r P [] := fun call h => by simp at h

theorem one {target : SendTarget} (hroom : event.roomId = r) (hplayer : target = .player → P p) :
    SendsFor r P [⟨target, p, .room event⟩] := by
  intro call hcall
  obtain rfl := List.mem_singleton.mp hcall
  exact ⟨fun e he => Option.some.inj he ▸ hroom, hplayer⟩

theorem broadcast (hroom : event.roomId = r) : SendsFor r P [⟨.broadcast, p, .room event⟩] :=
  one hroom fun h => by cases h

theorem append (h : SendsFor r P sends) (h' : SendsFor r P sends') : SendsFor r P (sends ++ sends') := by
  intro call hcall
  rcases List.mem_append.mp hcall with hcall | hcall
  · exact h call hcall
  · exact h' call hcall

theorem mono (h : SendsFor r P sends) (hPQ : ∀ q, P q → Q q) : SendsFor r Q sends :=
  fun call hcall => ⟨(h call hcall).room, fun ht => hPQ _ ((h call hcall).player ht)⟩

end SendsFor

namespace RoomRecord

/-- The player holds a slot of the record. -/
def Holds (room : RoomRecord) (p : PlayerId) : Prop := ∃ x, slotHolds (room.slot x) p = true

/-- The slots are held by the same players. -/
def SamePlayers (room room' : RoomRecord) : Prop := ∀ x q, slotHolds (room'.slot x) q = slotHolds (room.slot x) q

variable {room room' : RoomRecord} {p q : PlayerId} {x : PlayerSymbol} {slot : PlayerSlot} {now : Millis}

theorem holds_of_slot (h : room.slot x = some slot) : room.Holds slot.playerId := ⟨x, slotHolds_iff.mpr ⟨slot, h, rfl⟩⟩

theorem holds_of_getSlot (h : getSlotByPlayerId room p = some slot) : room.Holds p := by
  obtain ⟨hp, x, hx⟩ := getSlotByPlayerId_some h
  exact hp ▸ holds_of_slot hx

theorem holds_of_symbol (h : getSymbolForPlayer room p = some x) : room.Holds p := ⟨x, slotHolds_of_symbol h⟩

theorem holds_opponent (h : getOpponentSlot room p = some slot) : room.Holds slot.playerId := by
  unfold getOpponentSlot at h
  split at h
  · exact holds_of_slot (x := .O) h
  · split at h
    · exact holds_of_slot (x := .X) h
    · cases h

theorem SamePlayers.refl (room : RoomRecord) : room.SamePlayers room := fun _ _ => rfl

theorem SamePlayers.of_slots (hX : room'.playerX = room.playerX) (hO : room'.playerO = room.playerO) :
    room.SamePlayers room' := by
  intro x q
  cases x with
  | X => exact congrArg (slotHolds · q) hX
  | O => exact congrArg (slotHolds · q) hO

theorem SamePlayers.holds (h : room.SamePlayers room') (hq : room'.Holds q) : room.Holds q := by
  obtain ⟨x, hx⟩ := hq
  exact ⟨x, (h x q).symm.trans hx⟩

theorem SamePlayers.distinct (h : room.SamePlayers room') (hd : room.Distinct) : room'.Distinct := by
  intro q hq
  exact (h .O q).trans (hd q ((h .X q).symm.trans hq))

theorem setConnected_samePlayers (room : RoomRecord) (now : Millis) (p : PlayerId) (b : Bool) :
    room.SamePlayers (room.setConnected now p b) := by
  intro x q
  unfold setConnected
  dsimp only
  split
  · cases x with
    | X => exact slotHolds_setConnected _ _ _ _
    | O => rfl
  · split
    · cases x with
      | X => rfl
      | O => exact slotHolds_setConnected _ _ _ _
    · rfl

/-- The sends of a room reach its slots and single addressees. -/
theorem recipients_holds {call : SendCall} {r : RoomId} {P : PlayerId → Prop} (h : call.For r P)
    (hq : q ∈ Server.recipients room call) : P q ∨ room.Holds q := by
  have hslots : ∀ q ∈ (([room.playerX, room.playerO].filterMap id).filter PlayerSlot.connected).map PlayerSlot.playerId,
      room.Holds q := by
    intro q hq
    obtain ⟨slot, hslot, rfl⟩ := List.mem_map.mp hq
    obtain ⟨found, hfound, hsome⟩ := List.mem_filterMap.mp (List.mem_of_mem_filter hslot)
    simp only [List.mem_cons, List.not_mem_nil, or_false] at hfound
    rcases hfound with rfl | rfl
    · exact holds_of_slot (x := .X) hsome
    · exact holds_of_slot (x := .O) hsome
  unfold Server.recipients at hq
  cases htarget : call.target with
  | player =>
    rw [htarget] at hq
    exact Or.inl (List.mem_singleton.mp hq ▸ h.player htarget)
  | broadcast =>
    rw [htarget] at hq
    exact Or.inr (hslots q hq)
  | others =>
    rw [htarget] at hq
    exact Or.inr (hslots q (List.mem_of_mem_filter hq))

end RoomRecord

namespace GameSession
variable {gs : GameSession} {now : Millis} {repository : HistoryRepository} {diskFails : Bool} {p : PlayerId}
  {room : RoomRecord} {P : PlayerId → Prop} {log : List BufferEntry}

/-! ### One lemma for each method -/

theorem tellOpponent_for (gs : GameSession) (room : RoomRecord) (p : PlayerId)
    (makeEvent : PlayerSymbol → Nat → RoomEvent) (h : ∀ symbol seq, (makeEvent symbol seq).roomId = gs.roomId) :
    SendsFor gs.roomId room.Holds (gs.tellOpponent room p makeEvent).sends := by
  rcases tellOpponent_cases gs room p makeEvent with he | ⟨symbol, opponent, -, hopponent, -, he⟩ <;> rw [he]
  · exact .nil
  · exact .one (h _ _) fun _ => RoomRecord.holds_opponent hopponent

theorem startGame_for (gs : GameSession) (now : Millis) (gameId : GameId) (room : RoomRecord)
    (firstTurn : PlayerSymbol) : SendsFor gs.roomId P (gs.startGame now gameId room firstTurn).sends := by
  rcases startGame_cases gs now gameId room firstTurn with h | ⟨_, _, -, -, h⟩ <;> rw [h]
  · exact .nil
  · exact .broadcast rfl

theorem Ending.for {t : GameState} {result : GameResult} {e : GameEffect}
    (h : Ending gs repository diskFails p t result e) : SendsFor gs.roomId P e.sends := by
  cases h with
  | failed => exact .nil
  | known | recorded => exact .broadcast rfl

theorem handleEnd_for (gs : GameSession) (repository : HistoryRepository) (diskFails : Bool) (p : PlayerId)
    (outcome : GameOutcome) (reason : GameEndReason) (now : Millis) :
    SendsFor gs.roomId P (gs.handleEnd repository diskFails p fun state => endGame state outcome reason p now).sends := by
  rcases handleEnd_cases gs repository diskFails p outcome reason now with ⟨-, h⟩ | ⟨_, _, -, -, -, h⟩
  · rw [h]
    exact .nil
  · exact h.for

theorem handleMove_for (gs : GameSession) (now : Millis) (repository : HistoryRepository) (diskFails : Bool)
    (p : PlayerId) (gameId : GameId) (position : RawPosition) (commandId : CommandId) (hp : P p) :
    SendsFor gs.roomId P (gs.handleMove now repository diskFails p gameId position commandId).sends := by
  have hm := handleMove_moving gs now repository diskFails p gameId position commandId
  generalize gs.handleMove now repository diskFails p gameId position commandId = o at hm
  have hannounced : ∀ (t : GameSession) made, SendsFor t.roomId P (t.announced p gameId position commandId made).sends :=
    fun t made => SendsFor.append (.one rfl fun _ => hp) (.one rfl fun h => by cases h)
  cases hm with
  | refused =>
    intro call hcall
    obtain rfl := List.mem_singleton.mp hcall
    refine ⟨fun event h => ?_, fun _ => hp⟩
    cases h
  | rejected => exact .one rfl fun _ => hp
  | continued => exact hannounced _ _
  | @finished state t made ended result e hstate hid hmove hresult he =>
    have hroom : ({ gs with gameState := some t }.announced p gameId position commandId made).session.roomId = gs.roomId :=
      (announced_same _ _ _ _ _ _).roomId
    exact (hannounced _ _).append (hroom ▸ he.for)

theorem handleRematchRequest_for (gs : GameSession) (now : Millis) (room : RoomRecord) (p : PlayerId) (gameId : GameId) :
    SendsFor gs.roomId P (gs.handleRematchRequest now room p gameId).sends := by
  rcases handleRematchRequest_cases gs now room p gameId with h | ⟨_, -, -, -, h⟩ <;> rw [h]
  · exact .nil
  · exact .broadcast rfl

theorem handleRematchAccept_for (gs : GameSession) (now : Millis) (gameIds : GameId × GameId) (room : RoomRecord)
    (p : PlayerId) (gameId : GameId) : SendsFor gs.roomId P (gs.handleRematchAccept now gameIds room p gameId).sends := by
  rcases handleRematchAccept_cases gs now gameIds room p gameId with h | ⟨_, _, _, -, -, -, -, -, ⟨-, h⟩ | ⟨-, h⟩⟩ <;>
    rw [h]
  · exact .nil
  · exact .nil
  · exact startGame_for { gs with rematch := none } now _ _ _

theorem handleRematchDecline_for (gs : GameSession) (room : RoomRecord) (p : PlayerId) (gameId : GameId) :
    SendsFor gs.roomId P (gs.handleRematchDecline room p gameId).sends := by
  rcases handleRematchDecline_cases gs room p gameId with h | ⟨_, -, -, h⟩ <;> rw [h]
  · exact .nil
  · exact .broadcast rfl

theorem expireRematch_for (gs : GameSession) (room : RoomRecord) (gameId : GameId) :
    SendsFor gs.roomId P (gs.expireRematch room gameId).sends := by
  rcases expireRematch_cases gs room gameId with h | h | ⟨_, h⟩ <;> rw [h]
  · exact .nil
  · exact .nil
  · exact .broadcast rfl

theorem handleEnd_roomId (gs : GameSession) (repository : HistoryRepository) (diskFails : Bool) (p : PlayerId)
    (outcome : GameOutcome) (reason : GameEndReason) (now : Millis) :
    (gs.handleEnd repository diskFails p fun state => endGame state outcome reason p now).session.roomId = gs.roomId := by
  rcases handleEnd_cases gs repository diskFails p outcome reason now with ⟨-, h⟩ | ⟨_, _, -, -, -, h⟩
  · rw [h]
  · exact h.fields.1

theorem expireReconnectWindow_for (gs : GameSession) (now : Millis) (repository : HistoryRepository) (diskFails : Bool)
    (p : PlayerId) (symbol : Option PlayerSymbol) :
    SendsFor gs.roomId P (gs.expireReconnectWindow now repository diskFails p symbol).sends := by
  have habandoned : SendsFor gs.roomId P (gs.handleAbandon now repository diskFails p).sends :=
    handleEnd_for gs repository diskFails p _ _ now
  rcases expireReconnectWindow_cases gs now repository diskFails p symbol with ⟨-, h⟩ | ⟨-, -, h⟩ | ⟨x, -, -, h⟩ <;> rw [h]
  · exact habandoned
  · exact habandoned
  · exact habandoned.append (.broadcast (handleEnd_roomId gs repository diskFails p _ _ now))

end GameSession
end TicTacToe
