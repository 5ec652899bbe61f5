import TicTacToe.Theorems.LeftRoom

/-! # Whether the opponent is there

The client keeps the presence of its opponent apart from the players that it shows. Two events set it, and only leaving
the room resets it: a snapshot brings the players up to date and leaves the presence as it is. -/

namespace TicTacToe

def PlayerInfo.isConnected (info : PlayerInfo) : Bool := info.connectionState = .connected

namespace Client
variable {state : ClientState} {actions : List GameAction}

/-- The slot that the opponent of `symbol` has. -/
def opponentSlot {α : Type} (players : Players α) : PlayerSymbol → α
  | .X => players.O
  | .O => players.X

/-- A snapshot that shows the opponent of this client as connected. -/
def showsOpponent (state : ClientState) : GameAction → Bool
  | .gameStarted _ _ _ players _ => state.mySymbol.any fun symbol => (opponentSlot players symbol).isConnected
  | .roomJoined _ fields => (opponentSlot fields.players fields.symbol).any PlayerInfo.isConnected
  | .reconnectAck fields _ => (opponentSlot fields.players fields.symbol).any PlayerInfo.isConnected
  | _ => false

/-- The actions that the presence depends on. -/
def GameAction.isPresence : GameAction → Bool
  | .opponentDisconnected _ => true
  | .opponentReconnected => true
  | .leaveRoom => true
  | _ => false

def GameAction.isDisconnect : GameAction → Bool
  | .opponentDisconnected _ => true
  | _ => false

/-- The last of the actions that the presence depends on is a disconnect. -/
def awayAfter (actions : List GameAction) : Bool :=
  (actions.filter GameAction.isPresence).getLast?.any GameAction.isDisconnect

theorem awayAfter_append (actions : List GameAction) (a : GameAction) :
    awayAfter (actions ++ [a]) = if a.isPresence then a.isDisconnect else awayAfter actions := by
  unfold awayAfter
  rw [List.filter_append]
  cases ha : a.isPresence with
  | true => simp [ha]
  | false => simp [ha]

/-- The other actions leave the presence alone. -/
theorem reducer_presence (state : ClientState) (a : GameAction) : opponentDisconnected (gameReducer state a) =
    if a.isPresence then a.isDisconnect else opponentDisconnected state := by
  cases a with
  | moveOptimistic id row col board =>
    unfold gameReducer
    dsimp only
    split <;> rfl
  | _ => rfl

/-- The presence after a run of the reducer, by induction on its last action. -/
theorem opponentDisconnected_eq (actions : List GameAction) :
    opponentDisconnected (actions.foldl gameReducer INITIAL_STATE) = awayAfter actions := by
  induction actions using List.reverseRecOn with
  | nil => rfl
  | append_singleton actions a ih =>
    rw [List.foldl_append, List.foldl_cons, List.foldl_nil, reducer_presence, ih, awayAfter_append]

theorem isPresence_of_showsOpponent {a : GameAction} (h : showsOpponent state a = true) : a.isPresence = false := by
  cases a with
  | opponentDisconnected | opponentReconnected | leaveRoom => cases h
  | _ => rfl

/-- Whoever moves first can do so, unless the opponent is taken to be away. -/
theorem canMove_gameStarted {gameId : GameId} {board : BoardSnapshot} {firstTurn : PlayerSymbol}
    {players : Players PlayerInfo} {startedAt : Millis} (hsymbol : state.mySymbol = some firstTurn)
    (hws : state.wsState = .authenticated) :
    canMove (gameReducer state (.gameStarted gameId board firstTurn players startedAt)) = !opponentDisconnected state := by
  have hpresence : opponentDisconnected (gameReducer state (.gameStarted gameId board firstTurn players startedAt)) =
      opponentDisconnected state := reducer_presence state _
  rw [canMove, hpresence]
  simp [gameReducer, hsymbol, hws]

/-- The frame is a `GAME_STARTED` that shows both players as connected. -/
def startsConnected : TabInput → Bool
  | .received (some (.room ⟨_, _, _, .gameStarted _ _ _ players _⟩)) => players.X.isConnected && players.O.isConnected
  | _ => false

end Client

open Client
open Server (tally tallies fresh opening asks)

/-- At a snapshot that shows the opponent as connected, the opponent is not taken to be away if and only if the last
`OPPONENT_DISCONNECTED` has been followed by an `OPPONENT_RECONNECTED` or by leaving the room; at the start of a game
between connected players, this decides whether the first player can move. -/
theorem presence_at_snapshot_iff (actions : List GameAction) :
    let state := actions.foldl gameReducer INITIAL_STATE
    (∀ a, showsOpponent state a = true → (opponentDisconnected (gameReducer state a) = false ↔ awayAfter actions = false)) ∧
    ∀ gameId board firstTurn players startedAt,
      players.X.connectionState = .connected → players.O.connectionState = .connected →
      state.mySymbol = some firstTurn → state.wsState = .authenticated →
      (canMove (gameReducer state (.gameStarted gameId board firstTurn players startedAt)) = true ↔
        awayAfter actions = false) := by
  intro state
  have haway : opponentDisconnected state = awayAfter actions := opponentDisconnected_eq actions
  constructor
  · intro a ha
    rw [reducer_presence, isPresence_of_showsOpponent ha, haway]
    rfl
  · intro gameId board firstTurn players startedAt _ _ hsymbol hws
    rw [canMove_gameStarted hsymbol hws, haway, Bool.not_eq_true']

/-- The first game in a room. -/
theorem presence_at_snapshot_first :
    let info : PlayerSymbol → PlayerInfo := fun symbol => ⟨symbol.text, symbol, none, .connected, 0⟩
    let fields : RoomFields := ⟨.X, ⟨some (info .X), some (info .O)⟩, [], EMPTY_BOARD, .X, .waiting, none, none⟩
    let state := [GameAction.roomJoined "r" fields, .wsStateChanged .authenticated].foldl gameReducer INITIAL_STATE
    canMove (gameReducer state (.gameStarted "g" EMPTY_BOARD .X ⟨info .X, info .O⟩ 0)) = true :=
  ((presence_at_snapshot_iff _).2 _ _ _ _ _ rfl rfl rfl rfl).mpr rfl

/-- Player 1 is away until the window has passed; player 6 takes the slot and is ready for a game with player 3. -/
def replaced : List Input := opening ++ [.socketClosed (tally 'c' 0)] ++
  (List.replicate 6 [.tick 50000, asks 2 "ping" (.ping (.ofNat 1))]).flatten ++
  [.reconnectWindow (tally 'r' 4) (tally 'p' 1) false, .connect, asks 6 "auth6" (.auth none),
    asks 6 "join6" (.joinRoom (tally 'r' 4) none), asks 6 "ready6" (.playerReady (tally 'r' 4))]

/-- The game between the connected players 6 and 3 starts with player 3, whose board is locked: player 1, who has gone,
is still taken to be away. -/
theorem locked_after_replacement : ∃ (s s' : Server) (a b : Tab) (i : TabInput),
    Server.Runs tallies (fun _ _ => True) fresh s ∧
    s.step tallies (asks 2 "ready3b" (.playerReady (tally 'r' 4))) = some s' ∧
    (heard (tally 'c' 2) (s'.wire.drop s.wire.length)).head? = some i ∧ startsConnected i = true ∧
    after (tally 'u') (.load .default 0 none none) ([.connect false, .opened] ++ heard (tally 'c' 2) s.wire) = some a ∧
    a.step (tally 'u') i = some b ∧ opponentDisconnected b.state = true ∧
    b.state.mySymbol = some b.state.confirmedTurn ∧ b.state.wsState = .authenticated ∧ canMove b.state = false := by
  have hcheck : (Transition.run (Server.step tallies) (fun _ _ => true) fresh replaced).any (fun s =>
      (s.step tallies (asks 2 "ready3b" (.playerReady (tally 'r' 4)))).any fun s' =>
        (heard (tally 'c' 2) (s'.wire.drop s.wire.length)).head?.any fun i => startsConnected i &&
          (after (tally 'u') (.load .default 0 none none) ([.connect false, .opened] ++ heard (tally 'c' 2) s.wire)).any
            fun a => (a.step (tally 'u') i).any fun b =>
              opponentDisconnected b.state && b.state.mySymbol = some b.state.confirmedTurn &&
                b.state.wsState = .authenticated && !canMove b.state) = true := by decide +kernel
  obtain ⟨s, hrun, hs⟩ := Transition.exists_run (C := fun _ _ => True) (fun _ _ _ => trivial) hcheck
  simp only [Option.any_eq_true, Bool.and_eq_true, Bool.not_eq_true', decide_eq_true_eq] at hs
  obtain ⟨s', hstep, i, hi, hstarts, a, ha, b, hb, ⟨⟨haway, hturn⟩, hws⟩, hlocked⟩ := hs
  exact ⟨s, s', a, b, i, hrun, hstep, hi, hstarts, ha, hb, haway, hturn, hws, hlocked⟩

end TicTacToe
