import TicTacToe.Protocol.Events
import TicTacToe.Protocol.Guards
import TicTacToe.Game.Engine

/-! # Protocol values as JSON

The objects that are handed to `JSON.stringify`, with the fields in their order. -/

namespace TicTacToe
open Json

/-- What a message gets when it is built: a fresh UUID and the time. -/
structure Stamp where
  messageId : String
  timestamp : Millis

/-- A fresh id is a UUID v4, and the clock is positive. -/
structure Stamp.Valid (stamp : Stamp) : Prop where
  messageId : isUuid (utf16 stamp.messageId) = true
  timestamp : 0 < stamp.timestamp

/-- The fields of a `BaseEnvelope`. -/
def baseFields (stamp : Stamp) (type : String) : List (String × Json) :=
  [("protocolVersion", nat PROTOCOL_VERSION), ("messageId", text stamp.messageId), ("timestamp", int stamp.timestamp),
    ("type", text type)]

def PlayerSymbol.json (symbol : PlayerSymbol) : Json := .text symbol.text

def RawPosition.json (position : RawPosition) : Json :=
  .object [("row", .number position.row), ("col", .number position.col)]

end TicTacToe
