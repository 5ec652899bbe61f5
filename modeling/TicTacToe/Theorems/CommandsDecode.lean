import TicTacToe.Client.CommandBuilder
import TicTacToe.Theorems.Envelopes

/-! # Commands decode

A command that the client builds passes the guard of its own type on the server and no other, and `parseCommand` gives
it back. -/

namespace TicTacToe
open Json

namespace Client

/-! ### Built commands -/

section Envelope
variable {stamp : Stamp} {type : CommandType} {commandId : CommandId} {sessionToken : Option SessionToken}

theorem isNullOr_token (token : Option SessionToken) : isNullOr isString (some (orNull (token.map text))) = true := by
  cases token <;> rfl

theorem isCommandEnvelope_envelope (hs : stamp.Valid) (hc : isUuid (utf16 commandId) = true)
    (fields : List (String × Json)) :
    isCommandEnvelope (some (object (envelope stamp type commandId sessionToken ++ fields))) = true := by
  have hbase := isBaseEnvelope_base hs type.text_ne_nil
    ([("commandId", text commandId), ("sessionToken", orNull (sessionToken.map text))] ++ fields)
  rw [envelope, List.append_assoc, isCommandEnvelope, hbase, field_base (by simp [baseFields]),
    field_base (by simp [baseFields])]
  simp [find, isUuidLike, stringWith, text, hc]
  exact isNullOr_token sessionToken

/-- A built command passes the guard of its type when its own fields do. -/
theorem commandGuard_envelope (hs : stamp.Valid) (hc : isUuid (utf16 commandId) = true)
    (fields : List (String × Json)) (check : Option Json → Bool)
    (hcheck : check (some (object (envelope stamp type commandId sessionToken ++ fields))) = true) :
    commandGuard type check (some (object (envelope stamp type commandId sessionToken ++ fields))) = true := by
  have htype : isText type.text
      (field (some (object (envelope stamp type commandId sessionToken ++ fields))) "type") = true := by
    rw [envelope, List.append_assoc, field_type]
    simp [isText, stringWith, text]
  rw [commandGuard, isCommandEnvelope_envelope hs hc, htype, hcheck]
  rfl

theorem stable_envelope {fields : List (String × Json)}
    (hnames : ((envelope stamp type commandId sessionToken ++ fields).map Prod.fst).Nodup)
    (h : ∀ e ∈ fields, e.2.stable = true) :
    (object (envelope stamp type commandId sessionToken ++ fields)).stable = true := by
  refine stable_object hnames fun e he => ?_
  rcases List.mem_append.mp he with he | he
  · rcases List.mem_append.mp he with he | he
    · exact stable_base stamp type.text e he
    · simp only [List.mem_cons, List.not_mem_nil, or_false] at he
      rcases he with rfl | rfl
      · rfl
      · cases sessionToken <;> rfl
  · exact h e he

end Envelope

/-- A command that the client sends, as the server reads it, and the object that is sent for it. -/
inductive Builds (stamp : Stamp) (commandId : CommandId) : CommandBody → Json → Prop
  | auth (sessionToken : Option SessionToken) (clientVersion : String) :
    Builds stamp commandId (.auth sessionToken) (authMessage stamp commandId sessionToken clientVersion)
  | ping (sessionToken : Option SessionToken) :
    Builds stamp commandId (.ping (.finite stamp.timestamp)) (pingMessage stamp commandId sessionToken)
  | joinRoom (sessionToken : SessionToken) (roomId : RoomId) (playerName : Option PlayerName)
    (hroom : isRoomCode (utf16 roomId) = true) :
    Builds stamp commandId (.joinRoom roomId playerName)
      (buildJoinRoom stamp commandId sessionToken roomId playerName)
  | leaveRoom (sessionToken : SessionToken) (roomId : RoomId) (reason : LeaveReason)
    (hroom : isRoomCode (utf16 roomId) = true) :
    Builds stamp commandId (.leaveRoom roomId) (buildLeaveRoom stamp commandId sessionToken roomId reason)
  | playerReady (sessionToken : SessionToken) (roomId : RoomId) (hroom : isRoomCode (utf16 roomId) = true) :
    Builds stamp commandId (.playerReady roomId) (buildPlayerReady stamp commandId sessionToken roomId)
  | makeMove (sessionToken : SessionToken) (roomId : RoomId) (gameId : GameId) (row col : JsNumber)
    (hroom : isRoomCode (utf16 roomId) = true) (hgame : isUuid (utf16 gameId) = true)
    {board predictedBoard : BoardSnapshot} {turn symbol : PlayerSymbol} {active : Bool}
    (hmove : prevalidateMove board turn active symbol row col = .valid predictedBoard) :
    Builds stamp commandId (.makeMove roomId gameId ⟨row, col⟩)
      (buildMakeMove stamp commandId sessionToken roomId gameId row col)
  | requestRematch (sessionToken : SessionToken) (roomId : RoomId) (gameId : GameId)
    (hroom : isRoomCode (utf16 roomId) = true) (hgame : isUuid (utf16 gameId) = true) :
    Builds stamp commandId (.requestRematch roomId gameId)
      (buildRequestRematch stamp commandId sessionToken roomId gameId)
  | acceptRematch (sessionToken : SessionToken) (roomId : RoomId) (gameId : GameId)
    (hroom : isRoomCode (utf16 roomId) = true) (hgame : isUuid (utf16 gameId) = true) :
    Builds stamp commandId (.acceptRematch roomId gameId)
      (buildAcceptRematch stamp commandId sessionToken roomId gameId)
  | declineRematch (sessionToken : SessionToken) (roomId : RoomId) (gameId : GameId)
    (hroom : isRoomCode (utf16 roomId) = true) (hgame : isUuid (utf16 gameId) = true) :
    Builds stamp commandId (.declineRematch roomId gameId)
      (buildDeclineRematch stamp commandId sessionToken roomId gameId)
  | reconnect (sessionToken : SessionToken) (roomId : RoomId) (lastReceivedSeq : Nat)
    (hroom : isRoomCode (utf16 roomId) = true) :
    Builds stamp commandId (.reconnect roomId lastReceivedSeq)
      (buildReconnect stamp commandId sessionToken roomId (.ofNat lastReceivedSeq))
  | syncRequest (sessionToken : SessionToken) (roomId : RoomId) (fromSeq : Nat)
    (hroom : isRoomCode (utf16 roomId) = true) (hfrom : 1 ≤ fromSeq) :
    Builds stamp commandId (.syncRequest roomId fromSeq)
      (buildSyncRequest stamp commandId sessionToken roomId (.ofNat fromSeq))

/-- An index that the client accepts is one for the server. -/
theorem isBoardIndex_of_inBounds {row col : JsNumber} (h : isOutOfBounds row col = false) :
    isBoardIndex (some (.number row)) = true ∧ isBoardIndex (some (.number col)) = true := by
  simp only [isOutOfBounds, Bool.or_eq_false_iff, Bool.not_eq_false'] at h
  obtain ⟨⟨⟨⟨⟨hrow, hcol⟩, hrowlo⟩, hrowhi⟩, hcollo⟩, hcolhi⟩ := h
  constructor
  · obtain rfl | rfl | rfl := JsNumber.eq_of_le_two hrow hrowlo hrowhi <;> decide
  · obtain rfl | rfl | rfl := JsNumber.eq_of_le_two hcol hcollo hcolhi <;> decide

theorem inBounds_of_prevalidate {board predictedBoard : BoardSnapshot} {turn symbol : PlayerSymbol} {active : Bool}
    {row col : JsNumber} (h : prevalidateMove board turn active symbol row col = .valid predictedBoard) :
    isOutOfBounds row col = false := by
  unfold prevalidateMove at h
  split at h
  · cases h
  split at h
  · cases h
  split at h
  · cases h
  · rename_i hin
    simpa using hin

section Guards
variable {v : Option Json} {name : String}

theorem isRoomId_text {roomId : RoomId} (h : isRoomCode (utf16 roomId) = true) :
    isRoomId (some (text roomId)) = true := h

theorem isUuidLike_text {id : String} (h : isUuid (utf16 id) = true) : isUuidLike (some (text id)) = true := h

end Guards

/-- The shape of a built command. -/
structure Built (stamp : Stamp) (commandId : CommandId) (body : CommandBody) (v : Json) : Prop where
  envelope : ∃ sessionToken fields, v = object (envelope stamp body.type commandId sessionToken ++ fields)
  stable : v.stable = true
  guard : body.type.guard (some v) = true
  reads : body.ReadFrom (some v)

theorem Built.of_fields {stamp : Stamp} {commandId : CommandId} {body : CommandBody} {type : CommandType}
    {sessionToken : Option SessionToken} {fields : List (String × Json)} {check : Option Json → Bool}
    (hs : stamp.Valid) (hc : isUuid (utf16 commandId) = true) (htype : body.type = type)
    (hguard : type.guard = commandGuard type check)
    (hnames : ((Client.envelope stamp type commandId sessionToken ++ fields).map Prod.fst).Nodup)
    (hstable : ∀ e ∈ fields, e.2.stable = true)
    (hcheck : check (some (object (Client.envelope stamp type commandId sessionToken ++ fields))) = true)
    (hreads : body.ReadFrom (some (object (Client.envelope stamp type commandId sessionToken ++ fields)))) :
    Built stamp commandId body (object (Client.envelope stamp type commandId sessionToken ++ fields)) := by
  subst htype
  refine ⟨⟨_, _, rfl⟩, stable_envelope hnames hstable, ?_, hreads⟩
  rw [hguard]
  exact commandGuard_envelope hs hc fields check hcheck

theorem Builds.built {stamp : Stamp} {commandId : CommandId} {body : CommandBody} {v : Json}
    (h : Builds stamp commandId body v) (hs : stamp.Valid) (hc : isUuid (utf16 commandId) = true) :
    Built stamp commandId body v := by
  cases h with
  | auth sessionToken clientVersion =>
    refine .of_fields hs hc rfl rfl (by simp [envelope, baseFields]) ?_ ?_ ?_
    · cases sessionToken <;> simp [orNull, stable]
    · cases sessionToken <;> simp [envelope, baseFields, field, find, orNull, isNull, isNullOr, isString, text]
    · simp [CommandBody.ReadFrom, envelope, baseFields, field, find]
  | ping sessionToken =>
    refine .of_fields hs hc rfl rfl (by simp [envelope, baseFields]) (by simp) ?_ ?_
    · simp [envelope, baseFields, field, find, isPositiveNumber, int, numberWith, JsNumber.isFinite,
        JsNumber.zero_lt_int, hs.timestamp]
    · simp [CommandBody.ReadFrom, envelope, baseFields, field, find, int]
  | joinRoom sessionToken roomId playerName hroom =>
    refine .of_fields hs hc rfl rfl (by simp [envelope, baseFields]) ?_ ?_ ?_
    · cases playerName <;> simp [orNull, stable]
    · cases playerName <;>
        simp [envelope, baseFields, field, find, orNull, isNull, isNullOr, isString, isRoomId_text hroom]
    · simp [CommandBody.ReadFrom, envelope, baseFields, field, find]
  | leaveRoom sessionToken roomId reason hroom =>
    refine .of_fields hs hc rfl rfl (by simp [envelope, baseFields]) (by simp) ?_ ?_
    · have hreason : isOneOf ["VOLUNTARY", "CLOSING_TAB"] (some (text reason.text)) = true := by
        cases reason <;> decide
      simp [envelope, baseFields, field, find, isRoomId_text hroom, hreason]
    · simp [CommandBody.ReadFrom, envelope, baseFields, field, find]
  | playerReady sessionToken roomId hroom =>
    refine .of_fields hs hc rfl rfl (by simp [envelope, baseFields]) (by simp) ?_ ?_
    · simp [envelope, baseFields, field, find, isRoomId_text hroom]
    · simp [CommandBody.ReadFrom, envelope, baseFields, field, find]
  | makeMove sessionToken roomId gameId row col hroom hgame hmove =>
    have hin := inBounds_of_prevalidate hmove
    obtain ⟨hrow, hcol⟩ := isBoardIndex_of_inBounds hin
    simp only [isOutOfBounds, Bool.or_eq_false_iff, Bool.not_eq_false'] at hin
    refine .of_fields hs hc rfl rfl (by simp [envelope, baseFields]) ?_ ?_ ?_
    · simp [RawPosition.json, stable, stableFields, JsNumber.isFinite_of_isInteger hin.1.1.1.1.1,
        JsNumber.isFinite_of_isInteger hin.1.1.1.1.2]
    · simp [envelope, baseFields, field, find, RawPosition.json, isBoardPosition, isObject, isRoomId_text hroom,
        isUuidLike_text hgame, hrow, hcol]
    · simp [CommandBody.ReadFrom, envelope, baseFields, field, find, RawPosition.json]
  | requestRematch sessionToken roomId gameId hroom hgame | acceptRematch sessionToken roomId gameId hroom hgame
  | declineRematch sessionToken roomId gameId hroom hgame =>
    refine .of_fields hs hc rfl rfl (by simp [envelope, baseFields]) (by simp) ?_ ?_
    · simp [envelope, baseFields, field, find, isRoomId_text hroom, isUuidLike_text hgame]
    · simp [CommandBody.ReadFrom, envelope, baseFields, field, find]
  | reconnect sessionToken roomId lastReceivedSeq hroom =>
    refine .of_fields hs hc rfl rfl (by simp [envelope, baseFields])
      (by simp [stable, JsNumber.ofNat, JsNumber.isFinite]) ?_ ?_
    · simp [envelope, baseFields, field, find, isRoomId_text hroom, isNonNegativeInteger, numberWith,
        JsNumber.isFinite_of_isInteger]
    · simp [CommandBody.ReadFrom, envelope, baseFields, field, find, nat]
  | syncRequest sessionToken roomId fromSeq hroom hfrom =>
    refine .of_fields hs hc rfl rfl (by simp [envelope, baseFields])
      (by simp [stable, JsNumber.ofNat, JsNumber.isFinite]) ?_ ?_
    · simp [envelope, baseFields, field, find, isRoomId_text hroom, isPositiveInteger, numberWith, hfrom,
        JsNumber.isFinite_of_isInteger]
    · simp [CommandBody.ReadFrom, envelope, baseFields, field, find, nat]

/-- Every command that the client builds is given back by `parseCommand`, passes `isAnyCommand` by the guard of its own
type and no other concrete guard, and is read by the server as it was meant. -/
theorem commands_decode {Text : Type} {J : JsonTexts Text} {stamp : Stamp} {commandId : CommandId} {body : CommandBody}
    {v : Json} (hs : stamp.Valid) (hc : isUuid (utf16 commandId) = true) (h : Builds stamp commandId body v)
    (hJ : J.Undoes v) :
    parseCommand J (J.stringify v) = .ok v ∧ isAnyCommand (some v) = true ∧ commandTypeOf (some v) = some body.type ∧
    (∀ type : CommandType, type.guard (some v) = true ↔ type = body.type) ∧
    Command.ReadFrom ⟨commandId, body⟩ (some v) := by
  obtain ⟨⟨sessionToken, fields, rfl⟩, hstable, hguard, hreads⟩ := h.built hs hc
  have htype : field (some (object (envelope stamp body.type commandId sessionToken ++ fields))) "type" =
      some (text body.type.text) := by
    rw [envelope, List.append_assoc, field_type]
  have hid : field (some (object (envelope stamp body.type commandId sessionToken ++ fields))) "commandId" =
      some (text commandId) := by simp [envelope, baseFields, field, find]
  have henvelope := @isCommandEnvelope_envelope stamp body.type commandId sessionToken hs hc fields
  have hany : isAnyCommand (some (object (envelope stamp body.type commandId sessionToken ++ fields))) = true := by
    rw [isAnyCommand, henvelope, commandTypeOf_eq htype, Option.any_some, hguard]
    rfl
  have hversion : isNat PROTOCOL_VERSION
      (field (some (object (envelope stamp body.type commandId sessionToken ++ fields))) "protocolVersion") = true := by
    simp [envelope, baseFields, field, find, isNat, nat, numberWith]
    rfl
  refine ⟨?_, hany, commandTypeOf_eq htype, fun type => ?_, ⟨htype, hid, hreads⟩⟩
  · rw [parseCommand, hJ hstable]
    simp only [isObject, hversion, henvelope, hany, Bool.not_true, Bool.false_eq_true, ↓reduceIte]
  · refine ⟨fun hother => CommandType.guard_unique htype hother, fun he => ?_⟩
    rw [he]
    exact hguard

/-- A `JSON` that knows one value and its text. -/
def soleText (content : String) (v : Json) : JsonTexts String where
  stringify _ := content
  parse raw := if raw = content then some v else none

theorem soleText_undoes (content : String) (v : Json) : (soleText content v).Undoes v := fun _ => if_pos rfl

/-- A move in the middle of the right column, on the empty board. -/
theorem commands_decode_move : ∃ (J : JsonTexts String) (v : Json),
    J.stringify v = "\x7b\"protocolVersion\":1,\"messageId\":\"0b7a3f52-9c1d-4e8a-b6f0-2d4c5e6f7a81\"," ++
      "\"timestamp\":1700000000000,\"type\":\"MAKE_MOVE\"," ++
      "\"commandId\":\"5d2c1b0a-3f4e-4d6c-8b7a-9f8e7d6c5b4a\"," ++
      "\"sessionToken\":\"c1d2e3f4-a5b6-4788-99aa-bbccddeeff00\",\"roomId\":\"ABCD2345\"," ++
      "\"gameId\":\"7e6d5c4b-3a29-4817-a605-f4e3d2c1b0af\",\"position\":\x7b\"row\":1,\"col\":2\x7d\x7d" ∧
    parseCommand J (J.stringify v) = .ok v ∧ isMakeMoveCommand (some v) = true ∧ isAnyCommand (some v) = true ∧
    isPingCommand (some v) = false := by
  have hs : Stamp.Valid ⟨"0b7a3f52-9c1d-4e8a-b6f0-2d4c5e6f7a81", 1700000000000⟩ := ⟨by decide +kernel, by decide⟩
  have hmove : prevalidateMove EMPTY_BOARD .X true .X (.ofNat 1) (.ofNat 2) =
      .valid (Function.update EMPTY_BOARD 5 (.mark .X)) := by decide +kernel
  have hbuilt := @Builds.makeMove ⟨"0b7a3f52-9c1d-4e8a-b6f0-2d4c5e6f7a81", 1700000000000⟩
    "5d2c1b0a-3f4e-4d6c-8b7a-9f8e7d6c5b4a" "c1d2e3f4-a5b6-4788-99aa-bbccddeeff00" "ABCD2345"
    "7e6d5c4b-3a29-4817-a605-f4e3d2c1b0af" (.ofNat 1) (.ofNat 2) (by decide +kernel) (by decide +kernel) _ _ _ _ _ hmove
  obtain ⟨hparse, hany, -, hguards, -⟩ := commands_decode hs (by decide +kernel) hbuilt (soleText_undoes _ _)
  refine ⟨_, _, rfl, hparse, (hguards .MAKE_MOVE).mpr rfl, hany, Bool.eq_false_iff.mpr fun hping => ?_⟩
  cases (hguards .PING).mp hping

end Client
end TicTacToe
