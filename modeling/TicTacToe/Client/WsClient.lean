import TicTacToe.Client.GameStore

/-! # The client's transport

The fields of `WsClient` in `src/client/lib/wsClient.ts`, with the methods that call nothing back. The copies in
`sessionStorage` of the token and the room are what a new client starts with. -/

namespace TicTacToe
namespace Client

inductive ReadyState where
  | connecting
  | open
  | closing
  | closed
  deriving DecidableEq, Repr

structure Socket where
  readyState : ReadyState
  /-- The code of a close that the client has asked for. -/
  closeCode : Option Nat
  deriving DecidableEq

structure WsClientConfig where
  maxRetries : Nat
  baseDelayMs : Nat
  maxDelayMs : Nat

def WsClientConfig.default : WsClientConfig := ⟨8, 500, 30000⟩

structure WsClient where
  config : WsClientConfig
  ws : Option Socket
  state : WsState
  retryCount : Nat
  /-- The base delay of the pending retry; up to a second of jitter is added. -/
  retryTimer : Option Nat
  pingTimer : Bool
  /-- The timeout of the latest `PING` is pending. -/
  pongTimer : Bool
  /-- Pending timeouts of earlier `PING`s, which nothing clears any more. -/
  lostPongTimers : Nat
  lastSeq : Nat
  destroyed : Bool
  sessionToken : Option SessionToken
  roomId : Option RoomId

namespace WsClient

/-- The constructor, with what `sessionStorage` has. -/
def create (config : WsClientConfig) (storedToken : Option SessionToken) (storedRoom : Option RoomId) : WsClient where
  config := config
  ws := none
  state := .idle
  retryCount := 0
  retryTimer := none
  pingTimer := false
  pongTimer := false
  lostPongTimers := 0
  lastSeq := 0
  destroyed := false
  sessionToken := present storedToken
  roomId := present storedRoom

def setRoom (client : WsClient) (roomId : Option RoomId) : WsClient := { client with roomId := roomId }

def resetSequence (client : WsClient) : WsClient := { client with lastSeq := 0 }

def isOpen (client : WsClient) : Bool := client.ws.any fun ws => ws.readyState = .open

def stopHeartbeat (client : WsClient) : WsClient := { client with pingTimer := false, pongTimer := false }

def startHeartbeat (client : WsClient) : WsClient := { client.stopHeartbeat with pingTimer := true }

def clearPongTimer (client : WsClient) : WsClient := { client with pongTimer := false }

def cancelRetry (client : WsClient) : WsClient := { client with retryTimer := none }

/-- Arm the timeout of a `PING`. -/
def awaitPong (client : WsClient) : WsClient :=
  { client with
    pongTimer := true
    lostPongTimers := if client.pongTimer then client.lostPongTimers + 1 else client.lostPongTimers }

/-- `ws.close(code)`: the close is reported later. -/
def closeSocket (client : WsClient) (code : Nat) : WsClient :=
  { client with
    ws := client.ws.map fun ws =>
      match ws.readyState with
      | .connecting => ⟨.closing, some code⟩
      | .open => ⟨.closing, some code⟩
      | .closing => ws
      | .closed => ws }

/-- The delay before the next retry, without its jitter. -/
def retryDelay (client : WsClient) : Nat :=
  min (client.config.baseDelayMs * 2 ^ client.retryCount) client.config.maxDelayMs

/-- An event that establishes a new authoritative sequence. -/
def resetsSequence : RoomPayload → Bool
  | .gameStarted .. => true
  | .stateSyncReplay .. => true
  | .stateSyncSnapshot _ => true
  | _ => false

/-- The number from which on events are missing, before a room event. -/
def gapBefore (client : WsClient) (event : RoomEvent) : Option Nat :=
  if resetsSequence event.payload then none
  else if event.sessionSeq > client.lastSeq + 1 then some (client.lastSeq + 1) else none

/-- Sequence tracking for a room event. -/
def track (client : WsClient) (event : RoomEvent) : WsClient :=
  if resetsSequence event.payload then { client with lastSeq := event.sessionSeq }
  else if event.sessionSeq = client.lastSeq + 1 then { client with lastSeq := event.sessionSeq } else client

end WsClient
end Client
end TicTacToe
