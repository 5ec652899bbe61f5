import TicTacToe.Lib.Transition
import TicTacToe.Protocol.Commands
import TicTacToe.Client.OptimisticEngine
import TicTacToe.Client.WsClient

/-! # A client tab

The hooks of `src/client/hooks/` around the transport and the store. A callback reads the state of the last render; the
actions that it dispatches are applied before the next callback. -/

namespace TicTacToe
namespace Client

/-- A command in its envelope (`src/client/lib/commandBuilder.ts`). -/
structure Message where
  sessionToken : Option SessionToken
  command : Command

structure Tab where
  client : WsClient
  /-- The state of the last render. -/
  state : ClientState
  /-- The actions dispatched since. -/
  queue : List GameAction
  /-- Every message sent so far. -/
  sent : List Message
  /-- The number of ids drawn so far. -/
  nextId : Nat
  now : Millis

namespace Tab

/-- The page as it is loaded, with what `sessionStorage` has. -/
def load (config : WsClientConfig) (now : Millis) (storedToken : Option SessionToken) (storedRoom : Option RoomId) :
    Tab where
  client := .create config storedToken storedRoom
  state := INITIAL_STATE
  queue := []
  sent := []
  nextId := 0
  now := now

def dispatch (tab : Tab) (action : GameAction) : Tab := { tab with queue := tab.queue ++ [action] }

/-- Apply the dispatched actions. -/
def render (tab : Tab) : Tab := { tab with state := tab.queue.foldl gameReducer tab.state, queue := [] }

def updateClient (tab : Tab) (f : WsClient → WsClient) : Tab := { tab with client := f tab.client }

/-- `WsClient.send`: nothing is sent while the socket is not open. -/
def send (tab : Tab) (message : Message) : Tab :=
  if tab.client.isOpen then { tab with sent := tab.sent ++ [message] } else tab

/-- Build a command with a new id and send it. -/
def sendNew (uuid : Nat → CommandId) (tab : Tab) (sessionToken : Option SessionToken) (body : CommandBody) : Tab :=
  { tab with nextId := tab.nextId + 1 }.send ⟨sessionToken, uuid tab.nextId, body⟩

/-! ### Callbacks of the transport -/

def onStateChange (uuid : Nat → CommandId) (tab : Tab) (wsState : WsState) : Tab :=
  let tab := tab.dispatch (.wsStateChanged wsState)
  if wsState = .authenticated then
    match present tab.state.roomId, present tab.state.sessionToken with
    | some roomId, some token => tab.sendNew uuid (some token) (.reconnect roomId tab.state.lastReceivedSeq)
    | _, _ => tab
  else tab

def onSequenceGap (uuid : Nat → CommandId) (tab : Tab) (fromSeq : Nat) : Tab :=
  match present tab.state.roomId, present tab.state.sessionToken with
  | some roomId, some token => tab.sendNew uuid (some token) (.syncRequest roomId fromSeq)
  | _, _ => tab

/-! ### Events -/

/-- The fields of an action from the snapshot of a room. -/
def roomFields (symbol : PlayerSymbol) (rs : RoomStateSnapshot) : RoomFields where
  symbol := symbol
  players := rs.players
  readyPlayers := rs.readyPlayers
  confirmedBoard := (rs.currentGame.map CurrentGame.board).getD EMPTY_BOARD
  confirmedTurn := (rs.currentGame.map CurrentGame.currentTurn).getD .X
  gameStatus := (rs.currentGame.map CurrentGame.status).getD .waiting
  gameId := rs.currentGame.map CurrentGame.gameId
  gameResult := rs.currentGame.bind CurrentGame.result

mutual

/-- `dispatchEvent` for a room event. -/
def dispatchRoomEvent : EventEnvelope RoomPayload → Tab → Tab
  | ⟨roomId, sessionSeq, correlationId, payload⟩, tab =>
    (dispatchPayload payload roomId sessionSeq correlationId tab).dispatch (.seqAdvanced sessionSeq)

def dispatchPayload : RoomPayload → RoomId → Nat → Option CommandId → Tab → Tab
  | .roomJoined _ symbol roomState, roomId, _, _, tab =>
    (tab.updateClient (·.setRoom (some roomId))).dispatch (.roomJoined roomId (roomFields symbol roomState))
  | .playerJoined playerId symbol playerName _, _, _, _, tab =>
    tab.dispatch (.playerJoined symbol ⟨playerId, symbol, playerName, .connected, tab.now⟩)
  | .roomLeft, _, _, _, tab => tab
  | .playerLeft _ symbol _, _, _, _, tab => tab.dispatch (.playerLeft symbol)
  | .playerReadyAck readyPlayers, _, _, _, tab => tab.dispatch (.playerReadyAck readyPlayers)
  | .opponentReady _ readyPlayers, _, _, _, tab => tab.dispatch (.opponentReady readyPlayers)
  | .gameStarted gameId board firstTurn players startedAt, _, _, _, tab =>
    (tab.updateClient (·.resetSequence)).dispatch (.gameStarted gameId board firstTurn players startedAt)
  | .moveAck _ _ _ sequenceInGame board nextTurn, _, _, correlationId, tab =>
    tab.dispatch (.moveAck board nextTurn sequenceInGame (correlationId.getD ""))
  | .moveBroadcast _ position symbol _ _ board nextTurn, _, _, _, tab =>
    tab.dispatch (.moveBroadcast board nextTurn symbol position)
  | .moveRejected _ _ _ board currentTurn, _, _, correlationId, tab =>
    tab.dispatch (.moveRejected board currentTurn (correlationId.getD ""))
  | .gameFinished _ result finalBoard moveHistory _, _, _, _, tab =>
    tab.dispatch (.gameFinished result finalBoard moveHistory result.winningLine)
  | .rematchRequested _ requestedBy expiresAt, _, _, _, tab => tab.dispatch (.rematchRequested requestedBy expiresAt)
  | .rematchDeclined _ declinedBy, _, _, _, tab => tab.dispatch (.rematchDeclined declinedBy)
  | .rematchExpired _, _, _, _, tab => tab.dispatch .rematchExpired
  | .opponentDisconnected _ reconnectDeadlineAt, _, _, _, tab => tab.dispatch (.opponentDisconnected reconnectDeadlineAt)
  | .opponentReconnected _, _, _, _, tab => tab.dispatch .opponentReconnected
  | .reconnectAck _ symbol roomState, _, sessionSeq, _, tab =>
    tab.dispatch (.reconnectAck (roomFields symbol roomState) sessionSeq)
  | .stateSyncReplay _ _ events, _, _, _, tab => dispatchEach events tab
  | .stateSyncSnapshot roomState, _, sessionSeq, _, tab =>
    tab.dispatch (.reconnectAck (roomFields (tab.state.mySymbol.getD .X) roomState) sessionSeq)

/-- The events of a replay, one after the other. -/
def dispatchEach : List (EventEnvelope RoomPayload) → Tab → Tab
  | [], tab => tab
  | event :: events, tab => dispatchEach events (dispatchRoomEvent event tab)

end

def dispatchEvent (tab : Tab) : Event → Tab
  | .authAck sessionToken playerId _ existingRoom _ =>
    let tab := tab.dispatch (.authAck sessionToken playerId existingRoom)
    match existingRoom with
    | none => tab
    | some room => tab.updateClient (·.setRoom (some room.roomId))
  | .pong .. => tab
  | .error .. => tab
  | .room event => dispatchRoomEvent event tab

/-! ### The transport -/

def setState (uuid : Nat → CommandId) (tab : Tab) (next : WsState) : Tab :=
  if tab.client.state = next then tab
  else (tab.updateClient fun client => { client with state := next }).onStateChange uuid next

def scheduleRetry (uuid : Nat → CommandId) (tab : Tab) : Tab :=
  if tab.client.destroyed then tab
  else if tab.client.retryCount ≥ tab.client.config.maxRetries then tab.setState uuid .closed
  else (tab.setState uuid .reconnecting).updateClient fun client =>
    { client with retryTimer := some client.retryDelay, retryCount := client.retryCount + 1 }

/-- `openSocket`; the constructor of the socket may throw. -/
def openSocket (uuid : Nat → CommandId) (tab : Tab) (throws : Bool) : Tab :=
  let tab := tab.setState uuid (if tab.client.retryCount = 0 then .connecting else .reconnecting)
  if throws then tab.scheduleRetry uuid
  else tab.updateClient fun client => { client with ws := some ⟨.connecting, none⟩ }

def sendAuth (uuid : Nat → CommandId) (tab : Tab) : Tab :=
  tab.sendNew uuid none (.auth tab.client.sessionToken)

def onOpen (uuid : Nat → CommandId) (tab : Tab) : Tab :=
  let tab := tab.updateClient fun client => { client with ws := some ⟨.open, none⟩, retryCount := 0 }
  ((tab.setState uuid .connected).sendAuth uuid).updateClient (·.startHeartbeat)

/-- The codes after which nothing is retried. -/
def isTerminal (code : Nat) : Bool := code = 4001 || code = 4006 || code = 1008

def onClose (uuid : Nat → CommandId) (tab : Tab) (code : Nat) : Tab :=
  let tab := tab.updateClient fun client =>
    { client.stopHeartbeat with ws := client.ws.map fun ws => { ws with readyState := .closed } }
  if tab.client.destroyed then tab
  else if isTerminal code then tab.setState uuid .closed
  else tab.scheduleRetry uuid

def sendPing (uuid : Nat → CommandId) (tab : Tab) : Tab :=
  if tab.client.state ≠ .authenticated then tab
  else (tab.sendNew uuid tab.client.sessionToken (.ping (.finite tab.now))).updateClient (·.awaitPong)

/-- The parts of `handleFrame` before the event goes to the hook. -/
def receive (uuid : Nat → CommandId) (tab : Tab) : Event → Tab
  | .authAck token _ _ _ _ =>
    (tab.updateClient fun client => { client with sessionToken := some token }).setState uuid .authenticated
  | .pong .. => (tab.updateClient (·.clearPongTimer)).dispatch .latencyMeasured
  | .error .. => tab
  | .room event =>
    match tab.client.gapBefore event with
    | some fromSeq => tab.onSequenceGap uuid fromSeq
    | none => tab.updateClient (·.track event)

/-- After a replay, the sync head is restored. -/
def restoreHead (tab : Tab) : Event → Tab
  | .room ⟨_, seq, _, .stateSyncReplay ..⟩ => tab.updateClient fun client => { client with lastSeq := seq }
  | .room ⟨_, seq, _, .stateSyncSnapshot _⟩ => tab.updateClient fun client => { client with lastSeq := seq }
  | _ => tab

def handleFrame (uuid : Nat → CommandId) (tab : Tab) (event : Event) : Tab :=
  ((tab.receive uuid event).dispatchEvent event).restoreHead event

def destroy (uuid : Nat → CommandId) (tab : Tab) : Tab :=
  (tab.updateClient fun client =>
    { client.stopHeartbeat.cancelRetry with destroyed := true, ws := none }).setState uuid .closed

/-! ### The commands of the user (`useGame.ts`) -/

/-- The session token that commands carry. -/
def token (tab : Tab) : Option SessionToken := present (tab.client.sessionToken.or tab.state.sessionToken)

/-- A command about the room of the state. -/
def roomCommand (tab : Tab) (act : SessionToken → RoomId → Tab) : Tab :=
  match tab.token, present tab.state.roomId with
  | some t, some r => act t r
  | _, _ => tab

/-- A command about the game of the state. -/
def gameCommand (tab : Tab) (act : SessionToken → RoomId → GameId → Tab) : Tab :=
  tab.roomCommand fun t r =>
    match present tab.state.gameId with
    | some g => act t r g
    | none => tab

def joinRoom (uuid : Nat → CommandId) (tab : Tab) (roomId : RoomId) : Tab :=
  match tab.token with
  | some t => tab.sendNew uuid (some t) (.joinRoom roomId none)
  | none => tab

def leaveRoom (uuid : Nat → CommandId) (tab : Tab) : Tab :=
  tab.roomCommand fun t r =>
    ((tab.sendNew uuid (some t) (.leaveRoom r)).dispatch .leaveRoom).updateClient (·.setRoom none)

def playerReady (uuid : Nat → CommandId) (tab : Tab) : Tab :=
  tab.roomCommand fun t r => tab.sendNew uuid (some t) (.playerReady r)

def makeMove (uuid : Nat → CommandId) (tab : Tab) (row col : JsNumber) : Tab :=
  if !canMove tab.state then tab
  else tab.gameCommand fun t r g =>
    match tab.state.mySymbol with
    | none => tab
    | some s =>
      match prevalidateMove tab.state.confirmedBoard tab.state.confirmedTurn (tab.state.gameStatus = .active) s row col with
      | .invalid _ => tab
      | .valid predictedBoard =>
        (tab.dispatch (.moveOptimistic (uuid tab.nextId) row col predictedBoard)).sendNew uuid (some t)
          (.makeMove r g ⟨row, col⟩)

def requestRematch (uuid : Nat → CommandId) (tab : Tab) : Tab :=
  tab.gameCommand fun t r g => tab.sendNew uuid (some t) (.requestRematch r g)

def acceptRematch (uuid : Nat → CommandId) (tab : Tab) : Tab :=
  tab.gameCommand fun t r g => tab.sendNew uuid (some t) (.acceptRematch r g)

def declineRematch (uuid : Nat → CommandId) (tab : Tab) : Tab :=
  tab.gameCommand fun t r g => tab.sendNew uuid (some t) (.declineRematch r g)

end Tab

/-! ### Runs -/

/-- What can happen next in a tab. -/
inductive TabInput where
  | tick (elapsed : Nat)
  /-- The effect of the hook has created the client and connects it. -/
  | connect (throws : Bool)
  | opened
  /-- A frame, with the event that `parseEvent` has found in it. -/
  | received (event : Option Event)
  | socketClosed (code : Nat)
  | retry (throws : Bool)
  | pingDue
  | pongMissing
  /-- The timeout of an earlier `PING` that no `PONG` clears. -/
  | lostPongMissing
  | unmount
  | joinRoom (roomId : RoomId)
  | leaveRoom
  | playerReady
  | makeMove (row col : JsNumber)
  | requestRematch
  | acceptRematch
  | declineRematch

namespace Tab

/-- The callback of an input, if it can run. -/
def callback (uuid : Nat → CommandId) (tab : Tab) : TabInput → Option Tab
  | .tick elapsed => some { tab with now := tab.now + elapsed }
  | .connect throws => if tab.client.state = .idle then some (tab.openSocket uuid throws) else none
  | .opened => if tab.client.ws.any fun ws => ws.readyState = .connecting then some (tab.onOpen uuid) else none
  | .received event => if tab.client.isOpen then some (event.elim tab (tab.handleFrame uuid)) else none
  | .socketClosed code =>
    if tab.client.ws.any fun ws => ws.readyState ≠ .closed then some (tab.onClose uuid code) else none
  | .retry throws =>
    if tab.client.retryTimer.isSome then some ((tab.updateClient (·.cancelRetry)).openSocket uuid throws) else none
  | .pingDue => if tab.client.pingTimer then some (tab.sendPing uuid) else none
  | .pongMissing =>
    if tab.client.pongTimer then
      some (tab.updateClient fun client => { client with pongTimer := false }.closeSocket 4006)
    else none
  | .lostPongMissing =>
    if tab.client.lostPongTimers ≠ 0 then
      some (tab.updateClient fun client =>
        { client with lostPongTimers := client.lostPongTimers - 1 }.closeSocket 4006)
    else none
  | .unmount => some (tab.destroy uuid)
  | .joinRoom roomId => some (tab.joinRoom uuid roomId)
  | .leaveRoom => some (tab.leaveRoom uuid)
  | .playerReady => some (tab.playerReady uuid)
  | .makeMove row col => some (tab.makeMove uuid row col)
  | .requestRematch => some (tab.requestRematch uuid)
  | .acceptRematch => some (tab.acceptRematch uuid)
  | .declineRematch => some (tab.declineRematch uuid)

/-- A callback runs, and what it has dispatched is applied. -/
def step (uuid : Nat → CommandId) (tab : Tab) (i : TabInput) : Option Tab := (tab.callback uuid i).map render

/-- The tabs reached from `s` by steps that meet `C`. -/
abbrev Runs (uuid : Nat → CommandId) (C : Tab → TabInput → Prop) : Tab → Tab → Prop := Transition.Runs (step uuid) C

end Tab
end Client
end TicTacToe
