import TicTacToe.Theorems.FreshEvents
import TicTacToe.Theorems.Roster

/-! # Rooms without a game

As long as no `PLAYER_READY` completes a pair, no room has a game. Then there is nothing to move in, to play again or to
wait for: no reconnect window runs, and the sessions tell of presence at most. -/

namespace TicTacToe

/-- The event tells nothing about slots and marks; an `AUTH_ACK` makes a client forget its room. -/
def Event.idle : Event → Bool
  | .room event => event.payload.passive
  | _ => true

theorem RoomPayload.admits_of_passive {payload : RoomPayload} (h : payload.passive = true) :
    payload.admits = false := by
  cases payload with
  | roomJoined | reconnectAck => cases h
  | _ => rfl

theorem learn_idle {event : Event} (h : event.idle = true) (known : Option (RoomId × Roster)) :
    learn known event = known ∨ learn known event = none := by
  cases event with
  | authAck => exact Or.inr rfl
  | pong | error => exact Or.inl rfl
  | room event =>
    have hpassive : event.payload.passive = true := h
    left
    rw [learn, RoomPayload.admits_of_passive hpassive, if_neg Bool.false_ne_true]
    cases known with
    | none => rfl
    | some k => rw [Option.map_some, Roster.hear_passive hpassive]

theorem learn_idles {events : List Event} (h : ∀ event ∈ events, event.idle = true) (known : Option (RoomId × Roster)) :
    events.foldl learn known = known ∨ events.foldl learn known = none := by
  induction events generalizing known with
  | nil => exact Or.inl rfl
  | cons event events ih =>
    have hrest := ih fun e he => h e (List.mem_cons_of_mem _ he)
    rw [List.foldl_cons]
    rcases learn_idle (h event List.mem_cons_self) known with hlearn | hlearn
    · rw [hlearn]
      exact hrest known
    · rw [hlearn]
      exact Or.inr ((hrest none).elim id id)

/-! ### Sessions -/

namespace GameSession
variable {gs : GameSession} {now : Millis} {repository : HistoryRepository} {diskFails : Bool} {room : RoomRecord}
  {p : PlayerId}

/-- The session has neither a game nor a proposal, and its buffer is not about slots and marks. -/
structure Unplayed (gs : GameSession) : Prop where
  gameState : gs.gameState = none
  rematch : gs.rematch = none
  buffer : ∀ entry ∈ gs.replayBuffer, entry.event.payload.passive = true

namespace Unplayed

theorem bump (h : gs.Unplayed) (k : Nat) : (gs.bump k).Unplayed := ⟨h.gameState, h.rematch, h.buffer⟩

theorem isActive (h : gs.Unplayed) : gs.isActive = false := by
  rw [GameSession.isActive, h.gameState]
  rfl

theorem emit (h : gs.Unplayed) {event : RoomEvent} (hevent : event.payload.passive = true) (target : SendTarget)
    (p : PlayerId) : (gs.emit target p event).session.Unplayed := by
  have hsame := emit_same gs target p event
  have hbuffer : ∀ entry ∈ (gs.emit target p event).session.replayBuffer, entry.event.payload.passive = true := by
    intro entry hentry
    simp only [GameSession.emit, push, trimBuffer] at hentry
    rcases List.mem_append.mp (List.mem_of_mem_drop hentry) with hold | hnew
    · exact h.buffer entry hold
    · rw [List.mem_singleton.mp hnew]
      exact hevent
  generalize gs.emit target p event = emitted at hsame hbuffer ⊢
  exact ⟨hsame.gameState.trans h.gameState, hsame.rematch.trans h.rematch, hbuffer⟩

theorem handleEnd (h : gs.Unplayed) (endWith : GameState → EndResult) :
    gs.handleEnd repository diskFails p endWith = ⟨⟨gs, []⟩, repository, false⟩ := by
  rw [GameSession.handleEnd, h.gameState]

theorem handleForfeit (h : gs.Unplayed) :
    gs.handleForfeit now repository diskFails p = ⟨⟨gs, []⟩, repository, false⟩ := h.handleEnd _

theorem handleMove (h : gs.Unplayed) (gameId : GameId) (position : RawPosition) (commandId : CommandId) :
    gs.handleMove now repository diskFails p gameId position commandId =
      gs.refuseMove repository p .GAME_NOT_ACTIVE "GAME_NOT_ACTIVE" commandId := by
  rw [GameSession.handleMove, h.gameState]

theorem handleRematchRequest (h : gs.Unplayed) (gameId : GameId) :
    gs.handleRematchRequest now room p gameId = gs.notTaken room := by
  rw [GameSession.handleRematchRequest, hasFinished, h.gameState]
  rfl

theorem handleRematchAccept (h : gs.Unplayed) (gameIds : GameId × GameId) (gameId : GameId) :
    gs.handleRematchAccept now gameIds room p gameId = gs.notTaken room := by
  rw [GameSession.handleRematchAccept, h.gameState]

theorem handleRematchDecline (h : gs.Unplayed) (gameId : GameId) :
    gs.handleRematchDecline room p gameId = gs.notTaken room := by
  rw [GameSession.handleRematchDecline, h.rematch]
  rfl

/-- A connected opponent is told that the player is back. -/
theorem notifyOpponentReconnected (h : gs.Unplayed) (room : RoomRecord) (p : PlayerId) :
    (gs.notifyOpponentReconnected room p).session.Unplayed ∧
      ∀ call ∈ (gs.notifyOpponentReconnected room p).sends, call.event.idle = true := by
  unfold GameSession.notifyOpponentReconnected
  rcases tellOpponent_cases gs room p (fun symbol seq => makeOpponentReconnected gs.roomId symbol seq) with
    he | ⟨symbol, opponent, -, -, -, he⟩
  · rw [he]
    exact ⟨h, fun call hcall => absurd hcall List.not_mem_nil⟩
  · rw [he]
    have hnext : gs.nextSeq.Unplayed := ⟨h.gameState, h.rematch, h.buffer⟩
    refine ⟨hnext.emit rfl _ _, fun call hcall => ?_⟩
    rw [emit_sends] at hcall
    rw [List.mem_singleton.mp hcall]
    rfl

/-- What a player gets replayed is not about slots and marks. -/
theorem getReplayEvents (h : gs.Unplayed) {fromSeq : Nat} {events : List RoomEvent}
    (he : gs.getReplayEvents fromSeq p = some events) : ∀ event ∈ events, event.payload.passive = true := by
  intro event hevent
  unfold GameSession.getReplayEvents at he
  split at he
  · obtain rfl := Option.some.inj he
    exact absurd hevent List.not_mem_nil
  · dsimp only at he
    split at he
    · obtain rfl := Option.some.inj he
      exact absurd hevent List.not_mem_nil
    · split at he
      · cases he
      · obtain rfl := Option.some.inj he
        obtain ⟨entry, hentry, rfl⟩ := List.mem_map.mp hevent
        exact h.buffer entry (List.mem_filter.mp hentry).1

end Unplayed
end GameSession

/-- The room has no game and no pending window. -/
structure RoomView.Unplayed (v : RoomView) : Prop where
  game : ∀ gs, v.game = some gs → gs.Unplayed
  pending : ∀ q, v.pending q = none

/-! ### Steps of a room -/

section Steps
variable {G : IdSource} {now : Millis} {r : RoomId} {lo hi : Nat} {v v' : RoomView} {a : RoomAction}
  {sends : List SendCall}

/-- A `PLAYER_READY` that starts a game. -/
def Completes (v : RoomView) (a : RoomAction) : Prop :=
  ∃ p room symbol, a = .readied p ∧ v.room = some room ∧ 2 ≤ playerCount room ∧ getSymbolForPlayer room p = some symbol ∧
    symbol ∉ room.readySymbols ∧ (room.markReady symbol).bothReady = true

theorem RoomView.Unplayed.gameOrNew (h : v.Unplayed) (r : RoomId) : (v.gameOrNew r).Unplayed := by
  unfold RoomView.gameOrNew
  cases hg : v.game with
  | none => exact ⟨rfl, rfl, fun entry he => absurd he List.not_mem_nil⟩
  | some gs => exact h.game gs hg

theorem RoomView.Unplayed.active (h : v.Unplayed) : v.active = false := by
  cases hg : v.game with
  | none => rw [RoomView.active, RoomView.state, hg]; rfl
  | some gs => rw [RoomView.active_of_game hg]; exact (h.game gs hg).isActive

theorem RoomStep.unplayed_game (h : RoomStep G now r lo hi v a sends v') (hu : v.Unplayed) (ha : ¬Completes v a) :
    (∀ gs, v'.game = some gs → gs.Unplayed) ∧ ∀ call ∈ sends, call.event.idle = true := by
  have hnone : ∀ call ∈ ([] : List SendCall), call.event.idle = true := fun call hcall => absurd hcall List.not_mem_nil
  have hone : ∀ {gs' : GameSession}, gs'.Unplayed → ∀ gs, some gs' = some gs → gs.Unplayed := by
    intro gs' hgs' gs hgs
    exact Option.some.inj hgs ▸ hgs'
  cases h with
  | idle | created | leftIdleRoom | reconnectedIdle | disconnected => exact ⟨hu.game, hnone⟩
  | rejoined =>
    refine ⟨fun gs hgs => ?_, hnone⟩
    obtain ⟨gs₀, hgs₀, rfl⟩ := Option.map_eq_some_iff.mp hgs
    exact (hu.game gs₀ hgs₀).bump 1
  | entered => exact ⟨hone ((hu.gameOrNew r).bump _), hnone⟩
  | readiedAgain => exact ⟨hone (hu.gameOrNew r), hnone⟩
  | readied => exact ⟨hone ((hu.gameOrNew r).bump _), hnone⟩
  | startedReady hroom hcount hsymbol hready hboth =>
    exact absurd ⟨_, _, _, rfl, hroom, hcount, hsymbol, hready, hboth⟩ ha
  | left hroom hslot hgame =>
    rw [(hu.game _ hgame).handleForfeit]
    exact ⟨hone ((hu.game _ hgame).bump 2), hnone⟩
  | leaveThrew hroom hslot hgame hload hthrew =>
    rw [(hu.game _ hgame).handleForfeit] at hthrew
    cases hthrew
  | moved hroom hgame =>
    rw [(hu.game _ hgame).handleMove]
    refine ⟨hone (hu.game _ hgame), fun call hcall => ?_⟩
    rw [List.mem_singleton.mp hcall]
    rfl
  | moveThrew hroom hgame hload hthrew =>
    rw [(hu.game _ hgame).handleMove] at hthrew
    cases hthrew
  | rematchRequested hroom hgame =>
    rw [(hu.game _ hgame).handleRematchRequest]
    exact ⟨hone (hu.game _ hgame), hnone⟩
  | rematchAccepted hroom hgame =>
    rw [(hu.game _ hgame).handleRematchAccept]
    exact ⟨hone (hu.game _ hgame), hnone⟩
  | rematchDeclined hroom hgame =>
    rw [(hu.game _ hgame).handleRematchDecline]
    exact ⟨hone (hu.game _ hgame), hnone⟩
  | @reconnected p room gs hroom hslot hgame =>
    have hgs := hu.game _ hgame
    have hcleared : (gs.clearReconnectWindow p).Unplayed := ⟨hgs.gameState, hgs.rematch, hgs.buffer⟩
    obtain ⟨htold, hsends⟩ := hcleared.notifyOpponentReconnected (room.setConnected now p true) p
    exact ⟨hone (htold.bump 1), hsends⟩
  | windowArmed hroom hgame hactive =>
    rw [(hu.game _ hgame).isActive] at hactive
    cases hactive
  | windowFired hgame htimer =>
    rw [← RoomView.pending_of_game hgame, hu.pending] at htimer
    cases htimer
  | rematchFired hroom hgame hproposal =>
    rw [(hu.game _ hgame).rematch] at hproposal
    cases hproposal

theorem RoomStep.unplayed (h : RoomStep G now r lo hi v a sends v') (hu : v.Unplayed) (ha : ¬Completes v a) :
    v'.Unplayed := by
  refine ⟨(h.unplayed_game hu ha).1, fun q => ?_⟩
  cases h.windows q with
  | cleared ha hcleared => exact hcleared
  | armed ha hactive =>
    rw [hu.active] at hactive
    cases hactive
  | same _ _ _ hsame => rw [hsame, hu.pending]

/-- Only a pending window fires. -/
theorem RoomStep.fired_pending {p : PlayerId} (h : RoomStep G now r lo hi v (.windowFired p) sends v') :
    v.pending p ≠ none := by
  cases h with
  | windowFired hgame htimer => simp [RoomView.pending_of_game hgame, htimer]

/-- Slots and marks change by entering, leaving and getting ready. -/
def RoomAction.reseats : RoomAction → Bool
  | .created => true
  | .entered _ => true
  | .left _ => true
  | .readied _ => true
  | .windowFired _ => true
  | _ => false

theorem roster_setConnected (room : RoomRecord) (now : Millis) (p : PlayerId) (connected : Bool) :
    (room.setConnected now p connected).roster = room.roster := by
  unfold RoomRecord.setConnected RoomRecord.roster
  dsimp only
  split
  · simp [Function.comp_def]
  · split
    · simp [Function.comp_def]
    · rfl

theorem RoomStep.roster_kept (h : RoomStep G now r lo hi v a sends v') (hu : v.Unplayed) (ha : a.reseats = false)
    {room' : RoomRecord} (hroom' : v'.room = some room') : ∃ room, v.room = some room ∧ room'.roster = room.roster := by
  cases h with
  | created | entered | leftIdleRoom | left | readiedAgain | readied | startedReady | windowFired => cases ha
  | idle | rejoined | leaveThrew | moved | moveThrew | rematchFired => exact ⟨room', hroom', rfl⟩
  | rematchRequested hroom hgame =>
    rw [(hu.game _ hgame).handleRematchRequest] at hroom'
    exact ⟨_, hroom, Option.some.inj hroom' ▸ rfl⟩
  | rematchAccepted hroom hgame =>
    rw [(hu.game _ hgame).handleRematchAccept] at hroom'
    exact ⟨_, hroom, Option.some.inj hroom' ▸ rfl⟩
  | rematchDeclined hroom hgame =>
    rw [(hu.game _ hgame).handleRematchDecline] at hroom'
    exact ⟨_, hroom, Option.some.inj hroom' ▸ rfl⟩
  | reconnectedIdle hroom | reconnected hroom | disconnected hroom | windowArmed hroom =>
    exact ⟨_, hroom, Option.some.inj hroom' ▸ roster_setConnected _ _ _ _⟩

end Steps

/-! ### Steps of the server -/

namespace Server
variable {s t : Server} {G : IdSource} {i : Input} {r : RoomId} {a : RoomAction}

/-- A `PLAYER_READY` is processed that makes both players of its room ready. -/
def completesPair (s : Server) (i : Input) : Bool :=
  (s.processed i).any fun handled =>
    match handled.1.body with
    | .playerReady roomId => (s.getRoom roomId).any fun room =>
      2 ≤ playerCount room && (getSymbolForPlayer room handled.2).any fun symbol =>
        decide (symbol ∉ room.readySymbols) && (room.markReady symbol).bothReady
    | _ => false

theorem Acts.not_completes (hacts : Acts G s t r a) (hcause : s.Cause i r a) (hi : s.completesPair i = false) :
    ¬Completes (s.view r) a := by
  rintro ⟨p, room, symbol, rfl, hroom, hcount, hsymbol, hready, hboth⟩
  obtain ⟨id, room', hprocessed, hlive, hview⟩ := hacts.readied hcause
  obtain rfl := Option.some.inj (hview.symm.trans hroom)
  simp [completesPair, hprocessed, hlive, hcount, hsymbol, hready, hboth] at hi

/-- No room has a game or a pending window. -/
def Unplayed (s : Server) : Prop := ∀ r, (s.view r).Unplayed

theorem start_unplayed (now : Millis) (version : String) (repository : HistoryRepository) :
    (start now version repository).Unplayed := by
  intro r
  refine ⟨fun gs hgs => ?_, fun q => rfl⟩
  cases hgs

namespace Unplayed

theorem session {gs : GameSession} (hu : s.Unplayed) (h : s.gameSessions.get r = some gs) : gs.Unplayed :=
  (hu r).game gs h

theorem step (hu : s.Unplayed) (hk : s.Keyed) (hi : s.completesPair i = false) (h : s.step G i = some t) :
    t.Unplayed := by
  intro r
  rcases step_view hk h r with hview | ⟨a, hacts, hcause⟩
  · rw [hview]
    exact hu r
  · obtain ⟨sends, hstep, -⟩ := hacts.step
    exact hstep.unplayed (hu r) (hacts.not_completes hcause hi)

/-- No window is pending that could expire. -/
theorem no_window {p : PlayerId} {diskFails : Bool} (hu : s.Unplayed) (hk : s.Keyed) :
    s.step G (.reconnectWindow r p diskFails) ≠ some t := by
  intro h
  obtain ⟨sends, hstep, -⟩ := (reconnectWindow_acts hk h).step
  exact hstep.fired_pending ((hu r).pending p)

theorem expiresAway (hu : s.Unplayed) (hk : s.Keyed) (h : s.step G i = some t) : s.expiresAway i = false := by
  cases i with
  | reconnectWindow r p diskFails => exact absurd h (hu.no_window hk)
  | _ => rfl

end Unplayed
end Server

end TicTacToe
