import TicTacToe.Theorems.ClientTab

/-! # The store over its whole history

The states that the reducer reaches from `INITIAL_STATE`: the overlay and the pending move are written in pairs, and the
phase is written by some cases and derived by others. -/

namespace TicTacToe
namespace Client
variable {state : ClientState} {wsState : WsState} {actions : List GameAction}

/-- The state after a history of actions. -/
def afterActions (actions : List GameAction) : ClientState := actions.foldl gameReducer INITIAL_STATE

/-! ### The overlay -/

/-- There is an overlay exactly while a move is in flight. -/
def Overlaid (state : ClientState) : Prop := state.optimisticBoard = none ↔ state.pendingMove = none

theorem Overlaid.reducer (hs : Overlaid state) (a : GameAction) : Overlaid (gameReducer state a) := by
  cases a with
  | moveOptimistic id row col board =>
    unfold gameReducer
    dsimp only
    split
    · exact hs
    · simp [Overlaid]
  | moveBroadcast board nextTurn symbol position =>
    cases hpending : state.pendingMove with
    | none => simp [gameReducer, Overlaid, hpending]
    | some move =>
      have hboard : state.optimisticBoard ≠ none := by
        intro hnone
        rw [hs.mp hnone] at hpending
        cases hpending
      simp [gameReducer, Overlaid, hpending, hboard]
  -- These clear both.
  | roomJoined | gameStarted | moveAck | moveRejected | gameFinished | reconnectAck | leaveRoom =>
    exact iff_of_true rfl rfl
  | _ => exact hs

theorem afterActions_overlaid (actions : List GameAction) : Overlaid (afterActions actions) :=
  foldl_keeps (P := fun _ => True) (iff_of_true rfl rfl) (fun _ a hs _ => hs.reducer a) fun _ _ => trivial

theorem Overlaid.displayBoard (hs : Overlaid state) (h : hasPendingMove state = false) :
    displayBoard state = state.confirmedBoard := by
  have hnone : state.optimisticBoard = none := hs.mpr (Option.isSome_eq_false_iff.mp h |> Option.isNone_iff_eq_none.mp)
  rw [Client.displayBoard, hnone, Option.getD_none]

theorem moveOptimistic_pending (h : state.pendingMove ≠ none) (id : CommandId) (row col : JsNumber)
    (board : BoardSnapshot) : gameReducer state (.moveOptimistic id row col board) = state :=
  if_pos (Option.isSome_iff_ne_none.mpr h)

/-- After every history: an overlay exactly while a move is in flight, the confirmed board shown otherwise, and no
second move while there is one. -/
theorem overlay_of_actions (actions : List GameAction) :
    ((afterActions actions).optimisticBoard = none ↔ (afterActions actions).pendingMove = none) ∧
    (hasPendingMove (afterActions actions) = false →
      displayBoard (afterActions actions) = (afterActions actions).confirmedBoard) ∧
    ∀ commandId row col predictedBoard, (afterActions actions).pendingMove ≠ none →
      gameReducer (afterActions actions) (.moveOptimistic commandId row col predictedBoard) = afterActions actions := by
  have hs := afterActions_overlaid actions
  refine ⟨hs, hs.displayBoard, ?_⟩
  intro commandId row col predictedBoard hpending
  exact moveOptimistic_pending hpending commandId row col predictedBoard

/-! ### The phase -/

/-- The socket is lost, and then in another state. -/
def blip (state : ClientState) (wsState : WsState) : ClientState :=
  gameReducer (gameReducer state (.wsStateChanged .reconnecting)) (.wsStateChanged wsState)

/-- A blip ends on the screen that was shown before. -/
def BlipKeeps (state : ClientState) : Prop :=
  state.phase ≠ .reconnecting → ∀ wsState, wsState ≠ .reconnecting → (blip state wsState).phase = state.phase

/-- The phase is the one that the other fields give, unless the socket is recovering. -/
def PhaseDerived (state : ClientState) : Prop := state.phase ≠ .reconnecting → derivePhase state = state.phase

theorem blip_phase (h : wsState ≠ .reconnecting) : (blip state wsState).phase = derivePhase state := by
  simp [blip, gameReducer, h, derivePhase]

theorem blipKeeps_iff : BlipKeeps state ↔ PhaseDerived state := by
  constructor
  · intro h hphase
    have hconnected : WsState.connected ≠ .reconnecting := by decide
    rw [← blip_phase hconnected]
    exact h hphase .connected hconnected
  · intro h hphase wsState hws
    rw [blip_phase hws]
    exact h hphase

/-- A room is known. -/
def inRoom (state : ClientState) : Bool := (present state.roomId).isSome

/-- The condition under which an action leaves the phase and the fields in agreement: an `AUTH_ACK` names no room to a
client without one, a room joined has no game yet, players come and go in a room without a game, and a game starts, ends
or is resumed in a room. -/
def PhaseSafe (state : ClientState) : GameAction → Prop
  | .authAck _ _ existingRoom =>
    ∀ room ∈ existingRoom, state.phase ≠ .reconnecting → (present (some room.roomId)).isSome = inRoom state
  | .roomJoined roomId fields => roomId ≠ "" ∧ fields.gameStatus = .waiting
  | .playerJoined .. => inRoom state = true ∧ state.gameStatus = .waiting
  | .playerLeft _ => inRoom state = true ∧ state.gameStatus = .waiting
  | .gameStarted .. => inRoom state = true
  | .gameFinished .. => inRoom state = true
  | .reconnectAck .. => inRoom state = true
  | _ => True

/-- The phase of a room with its game and its players, as the reducer and `derivePhase` decide it. -/
def roomPhase (gameStatus : GameStatus) (players : Players (Option PlayerInfo)) : GamePhase :=
  if gameStatus = .active then .active
  else if gameStatus = .finished then .finished
  else if players.X.isSome && players.O.isSome then .readyCheck
  else .waitingForPlayer

theorem derivePhase_eq : derivePhase state = if inRoom state then roomPhase state.gameStatus state.players else .lobby := by
  unfold derivePhase inRoom roomPhase
  cases present state.roomId <;> rfl

theorem roomPhase_ne (gameStatus : GameStatus) (players : Players (Option PlayerInfo)) :
    roomPhase gameStatus players ≠ .lobby ∧ roomPhase gameStatus players ≠ .reconnecting := by
  unfold roomPhase
  repeat' split
  all_goals simp

theorem roomPhase_inj {status status' : GameStatus} {players : Players (Option PlayerInfo)}
    (h : roomPhase status players = roomPhase status' players) : status = status' := by
  revert h
  unfold roomPhase
  cases status <;> cases status' <;> cases players.X.isSome && players.O.isSome <;> simp

/-- A phase set for a status of the game is derived again if the client is in a room and the game has that status. -/
theorem phaseDerived_iff (status : GameStatus) (h : state.phase = roomPhase status state.players) :
    PhaseDerived state ↔ inRoom state = true ∧ state.gameStatus = status := by
  have hshown : state.phase ≠ .reconnecting := h ▸ (roomPhase_ne status state.players).2
  rw [PhaseDerived, derivePhase_eq, h]
  cases hroom : inRoom state with
  | false => simpa [h ▸ hshown] using (roomPhase_ne status state.players).1.symm
  | true =>
    refine ⟨fun hderived => ⟨rfl, roomPhase_inj (hderived (h ▸ hshown))⟩, ?_⟩
    rintro ⟨-, rfl⟩ -
    rfl

/-- A slot that has been emptied. -/
theorem setPlayer_none (players : Players (Option PlayerInfo)) (symbol : PlayerSymbol) :
    roomPhase .waiting (setPlayer players symbol none) = .waitingForPlayer := by
  cases symbol <;> simp [roomPhase, setPlayer]

/-- An action keeps the agreement of phase and fields exactly under its condition. -/
theorem PhaseDerived.reducer_iff (hs : PhaseDerived state) (a : GameAction) :
    PhaseDerived (gameReducer state a) ↔ PhaseSafe state a := by
  cases a with
  | wsStateChanged wsState =>
    refine iff_of_true (fun hshown => ?_) trivial
    by_cases hws : wsState = .reconnecting
    · simp [gameReducer, hws] at hshown
    · by_cases hphase : state.phase = .reconnecting
      · simp [gameReducer, hws, hphase, derivePhase]
      · simpa [gameReducer, hws, hphase, derivePhase] using hs hphase
  | authAck token playerId existingRoom =>
    cases existingRoom with
    | none => exact iff_of_true hs fun _ h => by cases h
    | some room =>
      simp only [PhaseSafe, Option.mem_some_iff, forall_eq']
      refine forall_congr' fun hshown => ?_
      have hphase : state.phase = if inRoom state then roomPhase state.gameStatus state.players else .lobby :=
        (hs hshown).symm.trans derivePhase_eq
      have hne := (roomPhase_ne state.gameStatus state.players).1
      rw [derivePhase_eq]
      show (if (present (some room.roomId)).isSome then _ else _) = state.phase ↔ _
      rw [hphase]
      cases (present (some room.roomId)).isSome <;> cases inRoom state <;> simp [hne, hne.symm, gameReducer]
  | roomJoined roomId fields =>
    refine (phaseDerived_iff .waiting rfl).trans (and_congr_left fun _ => ?_)
    simp [inRoom, gameReducer, present]
  | playerJoined => exact phaseDerived_iff _ rfl
  | playerLeft symbol => exact phaseDerived_iff _ (setPlayer_none state.players symbol).symm
  | gameStarted => exact (phaseDerived_iff .active rfl).trans (and_iff_left rfl)
  | gameFinished => exact (phaseDerived_iff .finished rfl).trans (and_iff_left rfl)
  | reconnectAck fields seq => exact (phaseDerived_iff fields.gameStatus rfl).trans (and_iff_left rfl)
  | moveOptimistic id row col board =>
    refine iff_of_true ?_ trivial
    unfold gameReducer
    dsimp only
    split
    · exact hs
    · exact hs
  | leaveRoom => exact iff_of_true (fun _ => rfl) trivial
  | _ => exact iff_of_true hs trivial

/-- From a state whose phase is derived: it stays so exactly if every action meets its condition. -/
theorem phaseDerived_runs_iff (hs : PhaseDerived state) :
    (∀ before behind, actions = before ++ behind → PhaseDerived (before.foldl gameReducer state)) ↔
    ∀ before a behind, actions = before ++ a :: behind → PhaseSafe (before.foldl gameReducer state) a := by
  constructor
  · intro h before a behind hactions
    have hbefore := h before (a :: behind) hactions
    refine (hbefore.reducer_iff a).mp ?_
    have hnext := h (before ++ [a]) behind (by rw [hactions, List.append_assoc, List.singleton_append])
    rwa [List.foldl_append] at hnext
  · intro h before
    induction before using List.reverseRecOn with
    | nil => exact fun _ _ => hs
    | append_singleton before a ih =>
      intro behind hactions
      rw [List.append_assoc, List.singleton_append] at hactions
      rw [List.foldl_append]
      exact ((ih (a :: behind) hactions).reducer_iff a).mpr (h before a behind hactions)

end Client

open Client

/-- A blip changes no screen along a history if and only if every action of it meets its condition. -/
theorem blip_keeps_screen_iff (actions : List GameAction) :
    (∀ before behind, actions = before ++ behind → BlipKeeps (afterActions before)) ↔
    ∀ before a behind, actions = before ++ a :: behind → PhaseSafe (afterActions before) a := by
  simp only [blipKeeps_iff]
  exact phaseDerived_runs_iff fun _ => rfl

/-- The opponent forfeits the first game in a room: `GAME_FINISHED` comes first, and `PLAYER_LEFT` after it. -/
def forfeited : List GameAction :=
  let info : PlayerSymbol → PlayerInfo := fun symbol => ⟨symbol.text, symbol, none, .connected, 0⟩
  [.wsStateChanged .authenticated, .authAck "t" "X" none,
    .roomJoined "r" ⟨.X, ⟨some (info .X), some (info .O)⟩, [], EMPTY_BOARD, .X, .waiting, none, none⟩,
    .gameStarted "g" EMPTY_BOARD .X ⟨info .X, info .O⟩ 0,
    .gameFinished ⟨.forfeit, some .X, none, .playerForfeited, 1⟩ EMPTY_BOARD [] none, .playerLeft .O]

/-- The room waits for another player, and after a blip it shows the result again. -/
theorem blip_after_forfeit : (afterActions forfeited).phase = .waitingForPlayer ∧
    (blip (afterActions forfeited) .authenticated).phase = .finished ∧ ¬BlipKeeps (afterActions forfeited) := by
  have hblip : (blip (afterActions forfeited) .authenticated).phase = .finished := rfl
  refine ⟨rfl, hblip, ?_⟩
  intro h
  have hkept := h (by decide) .authenticated (by decide)
  rw [hblip] at hkept
  cases hkept

end TicTacToe
