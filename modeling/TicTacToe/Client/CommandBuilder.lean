import TicTacToe.Protocol.Encoding
import TicTacToe.Client.OptimisticEngine

/-! # Commands on the wire

The builders of `src/client/lib/commandBuilder.ts`, and the commands that `sendAuth` and `sendPing` of
`src/client/lib/wsClient.ts` write. -/

namespace TicTacToe
namespace Client
open Json

inductive LeaveReason where
  | voluntary
  | closingTab

def LeaveReason.text : LeaveReason → String
  | voluntary => "VOLUNTARY"
  | closingTab => "CLOSING_TAB"

def envelope (stamp : Stamp) (type : CommandType) (commandId : CommandId) (sessionToken : Option SessionToken) :
    List (String × Json) :=
  baseFields stamp type.text ++ [("commandId", text commandId), ("sessionToken", orNull (sessionToken.map text))]

def buildJoinRoom (stamp : Stamp) (commandId : CommandId) (sessionToken : SessionToken) (roomId : RoomId)
    (playerName : Option PlayerName) : Json :=
  .object (envelope stamp .JOIN_ROOM commandId (some sessionToken) ++
    [("roomId", text roomId), ("playerName", orNull (playerName.map string))])

def buildLeaveRoom (stamp : Stamp) (commandId : CommandId) (sessionToken : SessionToken) (roomId : RoomId)
    (reason : LeaveReason) : Json :=
  .object (envelope stamp .LEAVE_ROOM commandId (some sessionToken) ++
    [("roomId", text roomId), ("reason", text reason.text)])

def buildPlayerReady (stamp : Stamp) (commandId : CommandId) (sessionToken : SessionToken) (roomId : RoomId) : Json :=
  .object (envelope stamp .PLAYER_READY commandId (some sessionToken) ++ [("roomId", text roomId)])

def buildMakeMove (stamp : Stamp) (commandId : CommandId) (sessionToken : SessionToken) (roomId : RoomId)
    (gameId : GameId) (row col : JsNumber) : Json :=
  .object (envelope stamp .MAKE_MOVE commandId (some sessionToken) ++
    [("roomId", text roomId), ("gameId", text gameId), ("position", RawPosition.json ⟨row, col⟩)])

/-- The three commands about a rematch. -/
def buildRematch (type : CommandType) (stamp : Stamp) (commandId : CommandId) (sessionToken : SessionToken)
    (roomId : RoomId) (gameId : GameId) : Json :=
  .object (envelope stamp type commandId (some sessionToken) ++ [("roomId", text roomId), ("gameId", text gameId)])

def buildRequestRematch : Stamp → CommandId → SessionToken → RoomId → GameId → Json := buildRematch .REQUEST_REMATCH

def buildAcceptRematch : Stamp → CommandId → SessionToken → RoomId → GameId → Json := buildRematch .ACCEPT_REMATCH

def buildDeclineRematch : Stamp → CommandId → SessionToken → RoomId → GameId → Json := buildRematch .DECLINE_REMATCH

def buildReconnect (stamp : Stamp) (commandId : CommandId) (sessionToken : SessionToken) (roomId : RoomId)
    (lastReceivedSeq : JsNumber) : Json :=
  .object (envelope stamp .RECONNECT commandId (some sessionToken) ++
    [("roomId", text roomId), ("lastReceivedSeq", .number lastReceivedSeq)])

def buildSyncRequest (stamp : Stamp) (commandId : CommandId) (sessionToken : SessionToken) (roomId : RoomId)
    (fromSeq : JsNumber) : Json :=
  .object (envelope stamp .SYNC_REQUEST commandId (some sessionToken) ++
    [("roomId", text roomId), ("fromSeq", .number fromSeq)])

/-- `sendAuth`, with the stored token. -/
def authMessage (stamp : Stamp) (commandId : CommandId) (sessionToken : Option SessionToken) (clientVersion : String) :
    Json :=
  .object (envelope stamp .AUTH commandId none ++
    [("guestToken", orNull (sessionToken.map text)), ("clientVersion", text clientVersion)])

/-- `sendPing`: the time of the message is the client's time. -/
def pingMessage (stamp : Stamp) (commandId : CommandId) (sessionToken : Option SessionToken) : Json :=
  .object (envelope stamp .PING commandId sessionToken ++ [("clientTime", int stamp.timestamp)])

end Client
end TicTacToe
