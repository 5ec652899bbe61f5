import TicTacToe.Theorems.ReceivedSeq
import TicTacToe.Theorems.StalePresence
import TicTacToe.Theorems.StoreRuns

/-! # Events that are handled again

The transport hands a duplicate to the hook, and the reducer applies it as if it were new. What it changes depends on
what has happened since it was handled first. -/

namespace TicTacToe
namespace Client
variable {uuid : Nat → CommandId} {tab tab' : Tab} {state : ClientState} {event : RoomEvent}

/-- The part of the store that shows the game. -/
structure GameView where
  confirmedBoard : BoardSnapshot
  confirmedTurn : PlayerSymbol
  gameStatus : GameStatus
  gameResult : Option GameResult
  pendingMove : Option PendingMove
  optimisticBoard : Option BoardSnapshot
  phase : GamePhase
  rematch : RematchState

def ClientState.gameView (state : ClientState) : GameView where
  confirmedBoard := state.confirmedBoard
  confirmedTurn := state.confirmedTurn
  gameStatus := state.gameStatus
  gameResult := state.gameResult
  pendingMove := state.pendingMove
  optimisticBoard := state.optimisticBoard
  phase := state.phase
  rematch := state.rematch

/-- The board and the turn are the confirmed ones. -/
def Confirms (state : ClientState) (board : BoardSnapshot) (nextTurn : Option PlayerSymbol) : Prop :=
  board = state.confirmedBoard ∧ ∀ turn ∈ nextTurn, turn = state.confirmedTurn

/-- The condition under which an event that starts or resumes no game shows nothing new. -/
def Repeats (state : ClientState) : RoomPayload → Prop
  | .roomJoined _ symbol roomState =>
    let fields := Tab.roomFields symbol roomState
    Confirms state fields.confirmedBoard (some fields.confirmedTurn) ∧ fields.gameStatus = state.gameStatus ∧
      fields.gameResult = state.gameResult ∧ state.pendingMove = none ∧
      state.phase = roomPhase .waiting fields.players ∧ state.rematch = .none
  | .playerJoined _ symbol _ _ =>
    state.phase = if (opponentSlot state.players symbol).isSome then .readyCheck else .waitingForPlayer
  | .playerLeft .. => state.phase = .waitingForPlayer
  | .moveAck _ _ _ _ board nextTurn => Confirms state board nextTurn ∧ state.pendingMove = none
  | .moveBroadcast _ _ _ _ _ board nextTurn => Confirms state board nextTurn
  | .moveRejected _ _ _ board currentTurn => Confirms state board (some currentTurn) ∧ state.pendingMove = none
  | .gameFinished _ result finalBoard _ _ =>
    finalBoard = state.confirmedBoard ∧ state.gameStatus = .finished ∧ state.gameResult = some result ∧
      state.pendingMove = none ∧ state.phase = .finished
  | .rematchRequested _ requestedBy expiresAt =>
    state.rematch = if some requestedBy = state.mySymbol then .requestedByMe expiresAt else .requestedByThem expiresAt
  | .rematchDeclined .. => state.rematch = .declined
  | .rematchExpired _ => state.rematch = .expired
  | _ => True

/-- The event starts or resumes a game: `GAME_STARTED`, `STATE_SYNC` or `RECONNECT_ACK`. -/
def setsGame (payload : RoomPayload) : Bool := payload.isStart || payload.isSync || payload matches .reconnectAck ..

/-! ### One event -/

theorem receive_room_same (uuid : Nat → CommandId) (tab : Tab) (event : RoomEvent) :
    (tab.receive uuid (.room event)).state = tab.state ∧ (tab.receive uuid (.room event)).queue = tab.queue := by
  obtain ⟨hstate, actions, hqueue, hnone⟩ := receive_room_queues (P := fun _ => False) uuid tab event
  obtain rfl : actions = [] := List.eq_nil_iff_forall_not_mem.mpr hnone
  exact ⟨hstate, hqueue.trans (List.append_nil _)⟩

theorem render_dispatch (hempty : tab.queue = []) (a : GameAction) :
    (tab.dispatch a).render.state = gameReducer tab.state a := by
  rw [Tab.dispatch, Tab.render, hempty]
  rfl

/-- The actions of an event are applied to the rendered state. -/
theorem handled_state (uuid : Nat → CommandId) (hempty : tab.queue = []) (event : RoomEvent) :
    ∃ u : Tab, u.state = tab.state ∧ u.queue = [] ∧
    (tab.handled uuid (.room event)).state = gameReducer
      (Tab.dispatchPayload event.payload event.roomId event.sessionSeq event.correlationId u).render.state
      (.seqAdvanced event.sessionSeq) := by
  obtain ⟨roomId, seq, correlationId, payload⟩ := event
  obtain ⟨hstate, hqueue⟩ := receive_room_same uuid tab ⟨roomId, seq, correlationId, payload⟩
  refine ⟨tab.receive uuid (.room ⟨roomId, seq, correlationId, payload⟩), hstate, hqueue.trans hempty, ?_⟩
  obtain ⟨hstate', hqueue'⟩ :=
    restoreHead_same ((tab.receive uuid (.room ⟨roomId, seq, correlationId, payload⟩)).dispatchEvent
    (.room ⟨roomId, seq, correlationId, payload⟩)) (.room ⟨roomId, seq, correlationId, payload⟩)
  rw [Tab.handled, Tab.render, Tab.handleFrame, hstate', hqueue', Tab.dispatchEvent, Tab.dispatchRoomEvent, Tab.dispatch,
    List.foldl_append]
  rfl

theorem gameView_eq_iff {state' : ClientState} : state'.gameView = state.gameView ↔
    state'.confirmedBoard = state.confirmedBoard ∧ state'.confirmedTurn = state.confirmedTurn ∧
    state'.gameStatus = state.gameStatus ∧ state'.gameResult = state.gameResult ∧
    state'.pendingMove = state.pendingMove ∧ state'.optimisticBoard = state.optimisticBoard ∧
    state'.phase = state.phase ∧ state'.rematch = state.rematch := by
  simp [ClientState.gameView]

theorem confirms_iff {board : BoardSnapshot} {nextTurn : Option PlayerSymbol} : Confirms state board nextTurn ↔
    board = state.confirmedBoard ∧ nextTurn.getD state.confirmedTurn = state.confirmedTurn := by
  cases nextTurn <;> simp [Confirms]

theorem lobbyPhase_eq (players : Players (Option PlayerInfo)) :
    (if players.X.isSome && players.O.isSome then GamePhase.readyCheck else .waitingForPlayer) =
      roomPhase .waiting players := by
  simp [roomPhase]

/-- The phase after a player has taken a slot depends on the other one. -/
theorem roomPhase_setPlayer (players : Players (Option PlayerInfo)) (symbol : PlayerSymbol) (info : PlayerInfo) :
    roomPhase .waiting (setPlayer players symbol (some info)) =
      if (opponentSlot players symbol).isSome then .readyCheck else .waitingForPlayer := by
  cases symbol with
  | X => cases hslot : players.O <;> simp [roomPhase, setPlayer, opponentSlot, hslot]
  | O => cases hslot : players.X <;> simp [roomPhase, setPlayer, opponentSlot, hslot]

section Actions
variable {board : BoardSnapshot} {nextTurn : Option PlayerSymbol}

/-- What an answer to the pending move writes. -/
theorem answer_iff (hs : Overlaid state) {state' : ClientState} (hboard : state'.confirmedBoard = board)
    (hturn : state'.confirmedTurn = nextTurn.getD state.confirmedTurn) (hcleared : state'.pendingMove = none)
    (hoverlay : state'.optimisticBoard = none) (hstatus : state'.gameStatus = state.gameStatus)
    (hresult : state'.gameResult = state.gameResult) (hphase : state'.phase = state.phase)
    (hrematch : state'.rematch = state.rematch) :
    state'.gameView = state.gameView ↔ Confirms state board nextTurn ∧ state.pendingMove = none := by
  rw [gameView_eq_iff, confirms_iff, hboard, hturn, hcleared, hoverlay]
  constructor
  · rintro ⟨hb, ht, -, -, hpending, -⟩
    exact ⟨⟨hb, ht⟩, hpending.symm⟩
  · rintro ⟨⟨hb, ht⟩, hpending⟩
    exact ⟨hb, ht, hstatus, hresult, hpending.symm, (hs.mpr hpending).symm, hphase, hrematch⟩

theorem roomJoined_view_iff (hs : Overlaid state) (roomId : RoomId) (fields : RoomFields) :
    (gameReducer state (.roomJoined roomId fields)).gameView = state.gameView ↔
      Confirms state fields.confirmedBoard (some fields.confirmedTurn) ∧ fields.gameStatus = state.gameStatus ∧
      fields.gameResult = state.gameResult ∧ state.pendingMove = none ∧
      state.phase = roomPhase .waiting fields.players ∧ state.rematch = .none := by
  rw [gameView_eq_iff, confirms_iff]
  constructor
  · rintro ⟨hboard, hturn, hstatus, hresult, hpending, -, hphase, hrematch⟩
    exact ⟨⟨hboard, hturn⟩, hstatus, hresult, hpending.symm, hphase.symm.trans (lobbyPhase_eq _), hrematch.symm⟩
  · rintro ⟨⟨hboard, hturn⟩, hstatus, hresult, hpending, hphase, hrematch⟩
    exact ⟨hboard, hturn, hstatus, hresult, hpending.symm, (hs.mpr hpending).symm,
      (lobbyPhase_eq _).trans hphase.symm, hrematch.symm⟩

theorem gameFinished_view_iff (hs : Overlaid state) (result : GameResult) (moveHistory : List MoveRecord)
    (line : Option WinningLine) :
    (gameReducer state (.gameFinished result board moveHistory line)).gameView = state.gameView ↔
      board = state.confirmedBoard ∧ state.gameStatus = .finished ∧ state.gameResult = some result ∧
      state.pendingMove = none ∧ state.phase = .finished := by
  rw [gameView_eq_iff]
  constructor
  · rintro ⟨hboard, -, hstatus, hresult, hpending, -, hphase, -⟩
    exact ⟨hboard, hstatus.symm, hresult.symm, hpending.symm, hphase.symm⟩
  · rintro ⟨hboard, hstatus, hresult, hpending, hphase⟩
    exact ⟨hboard, rfl, hstatus.symm, hresult.symm, hpending.symm, (hs.mpr hpending).symm, hphase.symm, rfl⟩

/-- The overlay of the pending move stays, and there is none without it. -/
theorem moveBroadcast_view_iff (hs : Overlaid state) (symbol : PlayerSymbol) (position : RawPosition) :
    (gameReducer state (.moveBroadcast board nextTurn symbol position)).gameView = state.gameView ↔
      Confirms state board nextTurn := by
  have hoverlay : (if state.pendingMove.isSome then state.optimisticBoard else none) = state.optimisticBoard := by
    split
    · rfl
    · rename_i hpending
      exact (hs.mpr (Option.not_isSome_iff_eq_none.mp hpending)).symm
  rw [gameView_eq_iff, confirms_iff]
  constructor
  · rintro ⟨hboard, hturn, -⟩
    exact ⟨hboard, hturn⟩
  · rintro ⟨hboard, hturn⟩
    exact ⟨hboard, hturn, rfl, rfl, rfl, hoverlay, rfl, rfl⟩

/-- An action that writes nothing of the view but the phase. -/
theorem phase_view_iff {state' : ClientState} {phase : GamePhase}
    (h : state'.gameView = { state.gameView with phase := phase }) :
    state'.gameView = state.gameView ↔ state.phase = phase := by
  rw [h]
  simp [ClientState.gameView, eq_comm]

/-- An action that writes nothing of the view but the rematch. -/
theorem rematch_view_iff {state' : ClientState} {rematch : RematchState}
    (h : state'.gameView = { state.gameView with rematch := rematch }) :
    state'.gameView = state.gameView ↔ state.rematch = rematch := by
  rw [h]
  simp [ClientState.gameView, eq_comm]

end Actions

/-- Handling an event that starts or resumes no game leaves the view of the game alone exactly under its condition. -/
theorem repeats_iff (hempty : tab.queue = []) (hs : Overlaid tab.state) (h : setsGame event.payload = false) :
    (tab.handled uuid (.room event)).state.gameView = tab.state.gameView ↔ Repeats tab.state event.payload := by
  obtain ⟨u, hstate, hqueue, hhandled⟩ := handled_state uuid hempty event
  rw [← hstate] at hs
  rw [hhandled, ← hstate]
  -- The number that comes last is no part of the view.
  show (Tab.dispatchPayload _ _ _ _ u).render.state.gameView = _ ↔ _
  obtain ⟨roomId, seq, correlationId, payload⟩ := event
  cases payload with
  | gameStarted | stateSyncReplay | stateSyncSnapshot | reconnectAck => cases h
  | roomJoined playerId symbol roomState =>
    have hupdated : (u.updateClient (·.setRoom (some roomId))).queue = [] := hqueue
    rw [Tab.dispatchPayload, render_dispatch hupdated]
    exact roomJoined_view_iff hs _ _
  | playerJoined playerId symbol =>
    rw [Tab.dispatchPayload, render_dispatch hqueue, Repeats, ← roomPhase_setPlayer, ← lobbyPhase_eq]
    exact phase_view_iff rfl
  | roomLeft =>
    rw [Tab.dispatchPayload, Tab.render, hqueue]
    exact iff_of_true rfl trivial
  | playerLeft =>
    rw [Tab.dispatchPayload, render_dispatch hqueue]
    exact phase_view_iff rfl
  | moveAck | moveRejected =>
    rw [Tab.dispatchPayload, render_dispatch hqueue]
    exact answer_iff hs rfl rfl rfl rfl rfl rfl rfl rfl
  | moveBroadcast =>
    rw [Tab.dispatchPayload, render_dispatch hqueue]
    exact moveBroadcast_view_iff hs _ _
  | gameFinished =>
    rw [Tab.dispatchPayload, render_dispatch hqueue]
    exact gameFinished_view_iff hs _ _ _
  | rematchRequested | rematchDeclined | rematchExpired =>
    rw [Tab.dispatchPayload, render_dispatch hqueue]
    exact rematch_view_iff rfl
  | playerReadyAck | opponentReady | opponentDisconnected | opponentReconnected =>
    rw [Tab.dispatchPayload, render_dispatch hqueue]
    exact iff_of_true rfl trivial

theorem Repeats.numbered {payload : RoomPayload} (h : Repeats state payload) {seq : Nat} :
    Repeats (gameReducer state (.seqAdvanced seq)) payload := by
  cases payload <;> exact h

theorem confirms_getD {board : BoardSnapshot} {nextTurn : Option PlayerSymbol} (turn : PlayerSymbol)
    (hboard : state.confirmedBoard = board) (hturn : state.confirmedTurn = nextTurn.getD turn) :
    Confirms state board nextTurn := by
  refine ⟨hboard.symm, fun next hnext => ?_⟩
  rw [hturn, Option.mem_def.mp hnext, Option.getD_some]

theorem opponentSlot_setPlayer (players : Players (Option PlayerInfo)) (symbol : PlayerSymbol)
    (value : Option PlayerInfo) : opponentSlot (setPlayer players symbol value) symbol = opponentSlot players symbol := by
  cases symbol <;> rfl

/-- An event has its condition right after it has been handled: handling it twice in a row is harmless. -/
theorem repeats_handled (hempty : tab.queue = []) (h : setsGame event.payload = false) :
    Repeats (tab.handled uuid (.room event)).state event.payload := by
  obtain ⟨u, -, hqueue, hhandled⟩ := handled_state uuid hempty event
  rw [hhandled]
  apply Repeats.numbered
  obtain ⟨roomId, seq, correlationId, payload⟩ := event
  cases payload with
  | gameStarted | stateSyncReplay | stateSyncSnapshot | reconnectAck => cases h
  | roomJoined playerId symbol roomState =>
    have hupdated : (u.updateClient (·.setRoom (some roomId))).queue = [] := hqueue
    rw [Tab.dispatchPayload, render_dispatch hupdated]
    exact ⟨confirms_getD u.state.confirmedTurn rfl rfl, rfl, rfl, rfl, lobbyPhase_eq _, rfl⟩
  | playerJoined playerId symbol =>
    rw [Tab.dispatchPayload, render_dispatch hqueue, Repeats]
    show _ = if (opponentSlot (setPlayer u.state.players symbol _) symbol).isSome then _ else _
    rw [opponentSlot_setPlayer]
    exact (lobbyPhase_eq _).trans (roomPhase_setPlayer u.state.players symbol _)
  | roomLeft => trivial
  | playerLeft =>
    rw [Tab.dispatchPayload, render_dispatch hqueue]
    rfl
  | moveAck | moveRejected =>
    rw [Tab.dispatchPayload, render_dispatch hqueue]
    exact ⟨confirms_getD u.state.confirmedTurn rfl rfl, rfl⟩
  | moveBroadcast =>
    rw [Tab.dispatchPayload, render_dispatch hqueue]
    exact confirms_getD u.state.confirmedTurn rfl rfl
  | gameFinished =>
    rw [Tab.dispatchPayload, render_dispatch hqueue]
    exact ⟨rfl, rfl, rfl, rfl, rfl⟩
  | rematchRequested | rematchDeclined | rematchExpired =>
    rw [Tab.dispatchPayload, render_dispatch hqueue]
    rfl
  | playerReadyAck | opponentReady | opponentDisconnected | opponentReconnected => trivial

/-! ### Runs -/

theorem dispatches_any {payload : RoomPayload} (h : payload.isReplay = false) : Dispatches (fun _ => True) payload := by
  intro roomId seq correlationId tab
  cases payload with
  | stateSyncReplay => cases h
  | roomLeft => exact .refl tab
  | roomJoined => exact (Queues.updateClient tab _).trans (.dispatch _ trivial)
  | gameStarted => exact (Queues.updateClient tab _).trans (.dispatch _ trivial)
  | _ => exact .dispatch tab trivial

/-- What every action of the reducer keeps is kept by a step. -/
theorem step_keeps {I : ClientState → Prop} {i : TabInput} (hempty : tab.queue = [])
    (hstep : ∀ state a, I state → I (gameReducer state a)) (hs : I tab.state) (h : tab.step uuid i = some tab') :
    I tab'.state := by
  obtain ⟨u, hu, rfl⟩ := Option.map_eq_some_iff.mp h
  have hqueues : Queues (fun _ => True) tab u := by
    refine callback_queues (fun _ => trivial) trivial (fun event t _ => ?_) (fun _ => trivial)
      (fun _ _ _ _ _ => trivial) hu
    cases event with
    | authAck token playerId version existingRoom id =>
      cases existingRoom with
      | none => exact .dispatch t trivial
      | some room => exact (Queues.dispatch t trivial).trans (.of_same rfl rfl)
    | pong | error => exact .refl t
    | room event => exact dispatchRoomEvent_queues (fun _ => trivial) event t fun _ _ hreplay => dispatches_any hreplay
  exact hqueues.render hempty hs fun state a hstate _ => hstep state a hstate

theorem runs_overlaid {C : Tab → TabInput → Prop} {config : WsClientConfig} {now : Millis} {token : Option SessionToken}
    {room : Option RoomId} (hrun : Tab.Runs uuid C (.load config now token room) tab) : Overlaid tab.state := by
  have hboth := hrun.invariant (P := fun tab => tab.queue = [] ∧ Overlaid tab.state) ⟨rfl, iff_of_true rfl rfl⟩
    fun t u i ht _ hstep => ⟨step_queue hstep, step_keeps ht.1 (fun _ a hs => hs.reducer a) ht.2 hstep⟩
  exact hboth.2

end Client

open Client
open Server (tally)

/-- In every state reached, an event that starts or resumes no game, whether it is new or handled again, leaves the
board, the turn, the status, the result, the pending move, the phase and the rematch alone if and only if it meets its
condition there. -/
theorem duplicates_harmless_iff {uuid : Nat → CommandId} {config : WsClientConfig} {now : Millis}
    {storedToken : Option SessionToken} {storedRoom : Option RoomId} {tab tab' : Tab} {event : RoomEvent}
    (hrun : Tab.Runs uuid (fun _ _ => True) (.load config now storedToken storedRoom) tab)
    (hevent : setsGame event.payload = false) (hstep : tab.step uuid (.received (some (.room event))) = some tab') :
    tab'.state.gameView = tab.state.gameView ↔ Repeats tab.state event.payload := by
  rw [step_received_room hstep]
  exact repeats_iff (runs_queue hrun) (runs_overlaid hrun) hevent

/-- The opponent has marked the cell in the middle. -/
def firstReply : RoomEvent :=
  ⟨"ABCDEFGH", 3, none, .moveBroadcast "00000000-0000-4000-8000-000000000001" ⟨.ofNat 1, .ofNat 1⟩ .O
    "00000000-0000-4000-8000-000000000003" 2
    (fun index => if index.val = 0 then .mark .X else if index.val = 4 then .mark .O else .empty) (some .X)⟩

/-- A game with two moves; the sync that the client has asked for comes between them. -/
def twoMoves : List TabInput :=
  [.connect false, .opened, .received (some greeting), .received (some (.room firstStart)),
    .received (some (.room firstAck)),
    .received (some (.room ⟨"ABCDEFGH", 2, some "s", .stateSyncReplay 1 2 [firstStart, firstAck]⟩)),
    .received (some (.room firstReply))]

/-- The reply is heard twice in a row. -/
theorem duplicates_harmless_reply : ∃ tab tab' : Tab,
    tab.step (tally 'u') (.received (some (.room firstReply))) = some tab' ∧ firstReply.sessionSeq ≤ tab.client.lastSeq ∧
    tab'.state.gameView = tab.state.gameView := by
  have hcheck : (after (tally 'u') (.load .default 0 none none) twoMoves).any (fun tab =>
      (tab.step (tally 'u') (.received (some (.room firstReply)))).isSome && firstReply.sessionSeq ≤ tab.client.lastSeq &&
        (fun index => if index.val = 0 then .mark .X else if index.val = 4 then .mark .O else .empty) =
          tab.state.confirmedBoard &&
        tab.state.confirmedTurn = .X) = true := by decide +kernel
  obtain ⟨tab, hrun, htab⟩ := Transition.exists_run (C := fun _ _ => True) (fun _ _ _ => trivial) hcheck
  simp only [Bool.and_eq_true, decide_eq_true_eq] at htab
  obtain ⟨⟨⟨hstep, hold⟩, hboard⟩, hturn⟩ := htab
  obtain ⟨tab', hstep⟩ := Option.isSome_iff_exists.mp hstep
  refine ⟨tab, tab', hstep, hold, (duplicates_harmless_iff hrun rfl hstep).mpr ⟨hboard, fun turn h => ?_⟩⟩
  rw [hturn, ← Option.mem_some_iff.mp h]

/-- The server sends the acknowledgement of the first move again, as the answer to a retried command, after the reply of
the opponent: the mark of the opponent goes, and it is the opponent's turn again. -/
theorem old_ack_reverts : ∃ tab tab' : Tab,
    after (tally 'u') (.load .default 0 none none) twoMoves = some tab ∧
    tab.step (tally 'u') (.received (some (.room firstAck))) = some tab' ∧ firstAck.sessionSeq ≤ tab.client.lastSeq ∧
    tab.state.confirmedBoard 4 = .mark .O ∧ tab'.state.confirmedBoard 4 = .empty ∧
    tab.state.confirmedTurn = .X ∧ tab'.state.confirmedTurn = .O ∧ tab'.state.gameView ≠ tab.state.gameView := by
  have hcheck : (after (tally 'u') (.load .default 0 none none) twoMoves).any (fun tab =>
      (tab.step (tally 'u') (.received (some (.room firstAck)))).any fun tab' =>
        firstAck.sessionSeq ≤ tab.client.lastSeq && tab.state.confirmedBoard 4 = .mark .O &&
          tab'.state.confirmedBoard 4 = .empty && tab.state.confirmedTurn = .X &&
          tab'.state.confirmedTurn = .O) = true := by
    decide +kernel
  simp only [Option.any_eq_true, Bool.and_eq_true, decide_eq_true_eq] at hcheck
  obtain ⟨tab, htab, tab', hstep, ⟨⟨⟨hold, hmark⟩, hempty⟩, hturn⟩, hturn'⟩ := hcheck
  refine ⟨tab, tab', htab, hstep, hold, hmark, hempty, hturn, hturn', fun h => ?_⟩
  have hsame : tab'.state.confirmedTurn = tab.state.confirmedTurn := congrArg GameView.confirmedTurn h
  rw [hturn, hturn'] at hsame
  cases hsame

end TicTacToe
