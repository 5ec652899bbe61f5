import TicTacToe.Server.EventFactory
import TicTacToe.Theorems.Envelopes

/-! # Events decode

An event whose ids have their formats and whose numbers are finite passes the guard of its own type on the client and no
other, and `parseEvent` gives it back. -/

namespace TicTacToe
open Json

/-! ### Carried values survive -/

section Values

@[simp] theorem stable_symbol (symbol : PlayerSymbol) : symbol.json.stable = true := rfl

theorem stable_map {α : Type} {json : α → Json} (h : ∀ a, (json a).stable = true) (as : List α) :
    (array (as.map json)).stable = true := by
  refine stable_array fun v hv => ?_
  obtain ⟨a, -, rfl⟩ := List.mem_map.mp hv
  exact h a

theorem stable_option {α : Type} {json : α → Json} (h : ∀ a, (json a).stable = true) (a : Option α) :
    (orNull (a.map json)).stable = true := by
  cases a with
  | none => rfl
  | some a => exact h a

@[simp] theorem stable_board (board : BoardSnapshot) : (boardJson board).stable = true := stable_map (fun _ => rfl) _

@[simp] theorem stable_symbols (symbols : List PlayerSymbol) : (symbolsJson symbols).stable = true :=
  stable_map stable_symbol symbols

@[simp] theorem stable_nextTurn (turn : Option PlayerSymbol) :
    (orNull (turn.map PlayerSymbol.json)).stable = true := stable_option stable_symbol turn

@[simp] theorem stable_name (name : Option PlayerName) : (orNull (name.map string)).stable = true :=
  stable_option (fun _ => rfl) name

theorem BoardPosition.stable (position : BoardPosition) : position.json.stable = true := rfl

@[simp] theorem WinningLine.stable (line : WinningLine) : line.json.stable = true :=
  stable_object (by simp) (by simp [stable_map BoardPosition.stable])

@[simp] theorem GameResult.stable (result : GameResult) : result.json.stable = true :=
  stable_object (by simp) (by simp [stable_option WinningLine.stable])

@[simp] theorem MoveRecord.stable (record : MoveRecord) : record.json.stable = true := rfl

@[simp] theorem PlayerInfo.stable (info : PlayerInfo) : info.json.stable = true := stable_object (by simp) (by simp)

@[simp] theorem GameStats.stable (stats : GameStats) : stats.json.stable = true :=
  stable_object (by simp) (by simp [stable_option stable_int])

@[simp] theorem CompletedGameRecord.stable (record : CompletedGameRecord) : record.json.stable = true :=
  stable_object (by simp) (by simp [stable_map MoveRecord.stable])

@[simp] theorem CurrentGame.stable (game : CurrentGame) : game.json.stable = true :=
  stable_object (by simp) (by simp [stable_option GameResult.stable])

@[simp] theorem stable_players (players : Players (Option PlayerInfo)) : (playersJson players).stable = true :=
  stable_object (by simp) (by simp [stable_option PlayerInfo.stable])

@[simp] theorem RoomStateSnapshot.stable (records : List CompletedGameRecord) (snapshot : RoomStateSnapshot) :
    (snapshot.json records).stable = true :=
  stable_object (by simp) (by simp [stable_map CompletedGameRecord.stable, stable_option CurrentGame.stable])

@[simp] theorem ExistingRoom.stable (room : ExistingRoom) : room.json.stable = true := rfl

end Values

/-! ### Sound events -/

/-- Both indices are finite. -/
structure RawPosition.Finite (position : RawPosition) : Prop where
  row : position.row.isFinite = true
  col : position.col.isFinite = true

theorem RawPosition.Finite.stable {position : RawPosition} (h : position.Finite) : position.json.stable = true :=
  stable_object (by simp) (by simp [Json.stable, h.row, h.col])

/-- The ids are UUIDs, positions are finite, and what is replayed survives. -/
def RoomPayload.Sound : RoomPayload → Prop
  | roomJoined playerId _ _ => isUuid (utf16 playerId) = true
  | playerJoined playerId _ _ _ => isUuid (utf16 playerId) = true
  | roomLeft => True
  | playerLeft playerId _ _ => isUuid (utf16 playerId) = true
  | playerReadyAck _ => True
  | opponentReady _ _ => True
  | gameStarted gameId _ _ _ _ => isUuid (utf16 gameId) = true
  | moveAck gameId position _ _ _ _ => isUuid (utf16 gameId) = true ∧ position.Finite
  | moveBroadcast gameId position _ playerId _ _ _ =>
    isUuid (utf16 gameId) = true ∧ position.Finite ∧ isUuid (utf16 playerId) = true
  | moveRejected gameId position _ _ _ => isUuid (utf16 gameId) = true ∧ position.Finite
  | gameFinished gameId _ _ _ _ => isUuid (utf16 gameId) = true
  | rematchRequested gameId _ _ => isUuid (utf16 gameId) = true
  | rematchDeclined gameId _ => isUuid (utf16 gameId) = true
  | rematchExpired gameId => isUuid (utf16 gameId) = true
  | opponentDisconnected _ _ => True
  | opponentReconnected _ => True
  | reconnectAck playerId _ _ => isUuid (utf16 playerId) = true
  | stateSyncReplay _ _ events => ∀ event ∈ events, ∀ v, RoomEvent.Writes event v → v.stable = true
  | stateSyncSnapshot _ => True

structure RoomEvent.Sound (event : RoomEvent) : Prop where
  roomId : isRoomCode (utf16 event.roomId) = true
  numbered : 1 ≤ event.sessionSeq
  payload : event.payload.Sound

def Event.Sound : Event → Prop
  | authAck _ playerId _ existingRoom _ =>
    isUuid (utf16 playerId) = true ∧ ∀ room, existingRoom = some room → isRoomCode (utf16 room.roomId) = true
  | pong clientTime _ _ => clientTime.isFinite = true
  | error _ _ _ _ _ => True
  | room event => RoomEvent.Sound event

/-! ### Room events survive -/

section Room
variable {event : RoomEvent} {stamp : Stamp} {records : List CompletedGameRecord} {replayed : List Json}

theorem stable_correlation (id : Option CommandId) : ∀ e ∈ correlationFields id, e.2.stable = true := by
  cases id <;> simp [correlationFields]

/-- The names of the fields before the payload. -/
def roomNames : List String :=
  ["protocolVersion", "messageId", "timestamp", "type", "roomId", "sessionSeq", "correlationId"]

theorem roomBase_names : ((roomBase stamp event).map Prod.fst).Sublist roomNames := by
  unfold roomBase correlationFields
  cases event.correlationId with
  | none => exact (List.Sublist.refl _).trans (List.dropLast_sublist roomNames)
  | some id => exact .refl _

theorem stable_roomBase : ∀ e ∈ roomBase stamp event, e.2.stable = true := by
  intro e he
  rcases List.mem_append.mp he with he | he
  · rcases List.mem_append.mp he with he | he
    · exact stable_base stamp _ e he
    · simp only [List.mem_cons, List.not_mem_nil, or_false] at he
      rcases he with rfl | rfl <;> rfl
  · exact stable_correlation _ e he

/-- No field of a payload has the name of one before it. -/
theorem roomNames_fields (payload : RoomPayload) :
    (roomNames ++ (payload.fields records replayed).map Prod.fst).Nodup := by
  cases payload <;> simp [roomNames, RoomPayload.fields]

theorem exists_of_forall₂ {α β : Type} {R : α → β → Prop} {as : List α} {bs : List β} {b : β}
    (h : List.Forall₂ R as bs) (hb : b ∈ bs) : ∃ a ∈ as, R a b := by
  induction h with
  | nil => cases hb
  | cons hab _ ih =>
    rcases List.mem_cons.mp hb with rfl | hb
    · exact ⟨_, List.mem_cons_self, hab⟩
    · obtain ⟨a, ha, hR⟩ := ih hb
      exact ⟨a, List.mem_cons_of_mem _ ha, hR⟩

theorem stable_fields {payload : RoomPayload} (h : payload.Sound)
    (hreplayed : List.Forall₂ RoomEvent.Writes payload.replayed replayed) :
    ∀ e ∈ payload.fields records replayed, e.2.stable = true := by
  cases payload with
  | moveAck gameId position => simp [RoomPayload.fields, h.2.stable]
  | moveBroadcast gameId position => simp [RoomPayload.fields, h.2.1.stable]
  | moveRejected gameId position => simp [RoomPayload.fields, h.2.stable]
  | stateSyncReplay fromSeq toSeq events =>
    have hall : ∀ v ∈ replayed, v.stable = true := by
      intro v hv
      obtain ⟨event, hevent, hw⟩ := exists_of_forall₂ hreplayed hv
      exact h event hevent v hw
    simp [RoomPayload.fields, stable_array hall]
  | gameFinished => simp [RoomPayload.fields, stable_map MoveRecord.stable]
  | _ => simp [RoomPayload.fields]

theorem RoomEvent.Sound.stable {v : Json} (h : event.Sound) (hw : event.Writes v) : v.stable = true := by
  cases hw with
  | mk hstamp hrecords hreplayed =>
    refine stable_object ?_ fun e he => ?_
    · rw [List.map_append]
      exact (roomNames_fields event.payload).sublist (roomBase_names.append_right _)
    · exact (List.mem_append.mp he).elim (stable_roomBase e) (stable_fields h.payload hreplayed e)

end Room

/-! ### The types of events -/

namespace EventType

theorem mem_all (type : EventType) : type ∈ all := by cases type <;> decide

theorem text_injective {a b : EventType} (h : utf16 a.text = utf16 b.text) : a = b := by
  have hall : ∀ a ∈ all, ∀ b ∈ all, utf16 a.text = utf16 b.text → a = b := by decide +kernel
  exact hall a a.mem_all b b.mem_all h

theorem text_ne_nil (type : EventType) : utf16 type.text ≠ [] := by cases type <;> decide

theorem isText_of_roomGuard {type : EventType} {check : Option Json → Bool} {v : Option Json}
    (h : roomGuard type check v = true) : isText type.text (field v "type") = true := by
  simp only [roomGuard, Bool.and_eq_true] at h
  exact h.1.1.2

theorem isText_of_globalGuard {type : EventType} {check : Option Json → Bool} {v : Option Json}
    (h : globalGuard type check v = true) : isText type.text (field v "type") = true := by
  simp only [globalGuard, Bool.and_eq_true] at h
  exact h.1.2

/-- Every guard checks the type. -/
theorem isText_of_guard {type : EventType} {v : Option Json} (h : type.guard v = true) :
    isText type.text (field v "type") = true := by
  unfold guard at h
  cases type with
  | AUTH_ACK | PONG | ERROR => exact isText_of_globalGuard h
  | STATE_SYNC => exact (Bool.or_eq_true_iff.mp h).elim isText_of_roomGuard isText_of_roomGuard
  | _ => exact isText_of_roomGuard h

/-- A value passes no guard but that of its type. -/
theorem guard_unique {v : Option Json} {type type' : EventType} (hv : field v "type" = some (Json.text type.text))
    (h : type'.guard v = true) : type' = type := by
  have htype := isText_of_guard h
  rw [isText_type hv, decide_eq_true_eq] at htype
  exact (text_injective htype).symm

end EventType

/-- The switch of `isAnyEvent` finds the type that the value has. -/
theorem eventTypeOf_eq {v : Option Json} {type : EventType} (hv : field v "type" = some (text type.text)) :
    eventTypeOf v = some type := find_type type.mem_all (fun _ _ => EventType.text_injective) hv

/-! ### Room events pass their guards -/

section Room
variable {event : RoomEvent} {stamp : Stamp} {fields : List (String × Json)} {v : Json}

theorem field_room {name : String} (hname : name ∉ roomNames) :
    field (some (object (roomBase stamp event ++ fields))) name = find name fields := by
  simp only [roomNames, List.mem_cons, List.not_mem_nil, or_false, not_or] at hname
  obtain ⟨h₁, h₂, h₃, h₄, h₅, h₆, h₇⟩ := hname
  rw [roomBase, List.append_assoc, List.append_assoc, field_base (by simp [baseFields, h₁, h₂, h₃, h₄])]
  cases hid : event.correlationId <;> simp [find, correlationFields, Ne.symm h₅, Ne.symm h₆, Ne.symm h₇]

theorem field_roomId :
    field (some (object (roomBase stamp event ++ fields))) "roomId" = some (text event.roomId) := by
  simp [roomBase, baseFields, field, find]

theorem field_sessionSeq :
    field (some (object (roomBase stamp event ++ fields))) "sessionSeq" = some (nat event.sessionSeq) := by
  simp [roomBase, baseFields, field, find]

theorem isBaseEnvelope_room (hs : stamp.Valid) :
    isBaseEnvelope (some (object (roomBase stamp event ++ fields))) = true := by
  rw [roomBase, List.append_assoc, List.append_assoc]
  exact isBaseEnvelope_base hs (EventType.text_ne_nil _) _

/-- A room event passes the guard of its type when its payload does. -/
theorem roomGuard_room {type : EventType} {check : Option Json → Bool} (hs : stamp.Valid) (h : event.Sound)
    (htype : event.payload.type = type)
    (hcheck : check (some (object (roomBase stamp event ++ fields))) = true) :
    roomGuard type check (some (object (roomBase stamp event ++ fields))) = true := by
  have hroom : isRoomId (field (some (object (roomBase stamp event ++ fields))) "roomId") = true := by
    rw [field_roomId]
    exact h.roomId
  have hseq : isPositiveInteger (field (some (object (roomBase stamp event ++ fields))) "sessionSeq") = true := by
    rw [field_sessionSeq]
    simp [isPositiveInteger, nat, numberWith, JsNumber.isFinite_of_isInteger, h.numbered]
  have hnamed : isText type.text (field (some (object (roomBase stamp event ++ fields))) "type") = true := by
    rw [roomBase, List.append_assoc, List.append_assoc, field_type, ← htype]
    simp [isText, stringWith, text]
  simp [roomGuard, isEventEnvelope, isBaseEnvelope_room hs, hroom, hseq, hnamed, hcheck]

end Room

section Checks

theorem isUuidLike_of_isUuid {id : String} (h : isUuid (utf16 id) = true) : isUuidLike (some (text id)) = true := h

theorem isRoomId_of_isRoomCode {id : String} (h : isRoomCode (utf16 id) = true) : isRoomId (some (text id)) = true := h

@[simp] theorem isPlayerSymbol_json (symbol : PlayerSymbol) : isPlayerSymbol (some symbol.json) = true := by
  cases symbol <;> decide

@[simp] theorem isNullOr_turn (turn : Option PlayerSymbol) :
    isNullOr isPlayerSymbol (some (orNull (turn.map PlayerSymbol.json))) = true := by
  cases turn with
  | none => rfl
  | some symbol => simp [isNullOr, orNull]

@[simp] theorem isNullOr_name (name : Option PlayerName) :
    isNullOr isString (some (orNull (name.map string))) = true := by cases name <;> rfl

@[simp] theorem isBoardSnapshot_json (board : BoardSnapshot) : isBoardSnapshot (some (boardJson board)) = true := by
  have hcell : ∀ cell : CellValue, isCellValue (some cell.json) = true := by
    intro cell
    cases cell with
    | empty => decide
    | mark symbol => cases symbol <;> decide
  simp [isBoardSnapshot, boardJson, isArray, items, hcell]

@[simp] theorem isSymbolArray_json (symbols : List PlayerSymbol) : isSymbolArray (some (symbolsJson symbols)) = true := by
  simp [isSymbolArray, symbolsJson, isArray, items]

@[simp] theorem isNumber_int (n : Int) : isNumber (some (int n)) = true := rfl

@[simp] theorem isNumber_nat (n : Nat) : isNumber (some (nat n)) = true := rfl

@[simp] theorem isNonNegativeInteger_nat (n : Nat) : isNonNegativeInteger (some (nat n)) = true := by
  simp [isNonNegativeInteger, nat, numberWith, JsNumber.isFinite_of_isInteger]

end Checks

/-- A value with the fields of a sound payload passes the guard of its type. -/
theorem RoomPayload.Sound.guard {payload : RoomPayload} {records : List CompletedGameRecord} {replayed : List Json}
    {v : Option Json} {n : Nat} (h : payload.Sound)
    (hfield : ∀ name, name ∉ roomNames → field v name = find name (payload.fields records replayed))
    (hseq : field v "sessionSeq" = some (nat n))
    (hroom : ∀ check : Option Json → Bool, check v = true → roomGuard payload.type check v = true) :
    payload.type.guard v = true := by
  have hguard : ∀ {guard check : Option Json → Bool}, guard = roomGuard payload.type check → check v = true →
      guard v = true := by
    intro guard check he hcheck
    rw [he]
    exact hroom check hcheck
  cases payload with
  | roomJoined playerId symbol roomState =>
    refine hguard rfl ?_
    simp [hfield, roomNames, RoomPayload.fields, find, isUuidLike_of_isUuid h, RoomStateSnapshot.json, isObject]
  | playerJoined playerId =>
    refine hguard rfl ?_
    simp [hfield, roomNames, RoomPayload.fields, find, isUuidLike_of_isUuid h]
  | roomLeft => exact hguard rfl rfl
  | playerLeft playerId symbol reason =>
    have hreason : isOneOf ["VOLUNTARY", "DISCONNECT_TIMEOUT", "FORFEIT"] (some (text reason.text)) = true := by
      cases reason <;> decide
    refine hguard rfl ?_
    simp [hfield, roomNames, RoomPayload.fields, find, isUuidLike_of_isUuid h, hreason]
  | playerReadyAck | opponentReady | opponentDisconnected | opponentReconnected =>
    refine hguard rfl ?_
    simp [hfield, roomNames, RoomPayload.fields, find]
  | gameStarted | rematchRequested | rematchDeclined | rematchExpired =>
    refine hguard rfl ?_
    simp [hfield, roomNames, RoomPayload.fields, find, isUuidLike_of_isUuid h, playersJson, isObject]
  | moveAck gameId position =>
    refine hguard rfl ?_
    simp [hfield, roomNames, RoomPayload.fields, find, isUuidLike_of_isUuid h.1, RawPosition.json, isObject]
  | moveBroadcast gameId position symbol playerId =>
    refine hguard rfl ?_
    simp [hfield, roomNames, RoomPayload.fields, find, isUuidLike_of_isUuid h.1, isUuidLike_of_isUuid h.2.2,
      RawPosition.json, isObject]
  | moveRejected gameId position reason =>
    have hreason : isOneOf ["NOT_YOUR_TURN", "CELL_OCCUPIED", "OUT_OF_BOUNDS", "GAME_NOT_ACTIVE", "GAME_ID_MISMATCH"]
        (some (text reason.text)) = true := by cases reason <;> decide
    refine hguard rfl ?_
    simp [hfield, roomNames, RoomPayload.fields, find, isUuidLike_of_isUuid h.1, hreason, RawPosition.json, isObject]
  | gameFinished =>
    refine hguard rfl ?_
    simp [hfield, roomNames, RoomPayload.fields, find, isUuidLike_of_isUuid h, GameResult.json, GameStats.json, isObject,
      isArray]
  | reconnectAck =>
    refine hguard rfl ?_
    simp [hfield, hseq, roomNames, RoomPayload.fields, find, isUuidLike_of_isUuid h, RoomStateSnapshot.json, isObject]
  | stateSyncReplay =>
    refine Bool.or_eq_true_iff.mpr (Or.inl (hguard rfl ?_))
    simp [hfield, roomNames, RoomPayload.fields, find, isText, stringWith, text, isArray]
  | stateSyncSnapshot =>
    refine Bool.or_eq_true_iff.mpr (Or.inr (hguard rfl ?_))
    simp [hfield, roomNames, RoomPayload.fields, find, isText, stringWith, text, RoomStateSnapshot.json, isObject]

/-- The objects of a room event pass the guard of its type. -/
theorem RoomEvent.Sound.guard {event : RoomEvent} {v : Json} (h : event.Sound) (hw : event.Writes v) :
    event.payload.type.guard (some v) = true := by
  cases hw with
  | mk hs _ _ => exact h.payload.guard (fun _ => field_room) field_sessionSeq fun _ => roomGuard_room hs h rfl

/-! ### All events -/

namespace Event

section Global
variable {stamp : Stamp} {type : EventType} {correlationId : Option CommandId} {fields : List (String × Json)}

/-- The names of the fields that every event may begin with. -/
def globalNames : List String := ["protocolVersion", "messageId", "timestamp", "type", "correlationId"]

theorem globalBase_names : ((globalBase stamp type correlationId).map Prod.fst).Sublist globalNames := by
  cases correlationId with
  | none => exact (List.Sublist.refl _).trans (List.dropLast_sublist globalNames)
  | some id => exact .refl _

theorem field_global {name : String} (hname : name ∉ globalNames) :
    field (some (object (globalBase stamp type correlationId ++ fields))) name = find name fields := by
  simp only [globalNames, List.mem_cons, List.not_mem_nil, or_false, not_or] at hname
  obtain ⟨h₁, h₂, h₃, h₄, h₅⟩ := hname
  rw [globalBase, List.append_assoc, field_base (by simp [baseFields, h₁, h₂, h₃, h₄])]
  cases correlationId <;> simp [find, correlationFields, Ne.symm h₅]

/-- A global event passes the guard of its type when its own fields do. -/
theorem guard_global {guard check : Option Json → Bool} (he : guard = globalGuard type check) (hs : stamp.Valid)
    (hcheck : check (some (object (globalBase stamp type correlationId ++ fields))) = true) :
    guard (some (object (globalBase stamp type correlationId ++ fields))) = true := by
  rw [he, globalGuard, hcheck, globalBase, List.append_assoc, isGlobalEventEnvelope,
    isBaseEnvelope_base hs type.text_ne_nil, field_type]
  simp [isText, stringWith, text]

theorem stable_global (hnames : (globalNames ++ fields.map Prod.fst).Nodup) (h : ∀ e ∈ fields, e.2.stable = true) :
    (object (globalBase stamp type correlationId ++ fields)).stable = true := by
  refine stable_object ?_ fun e he => ?_
  · rw [List.map_append]
    exact hnames.sublist (globalBase_names.append_right _)
  · rcases List.mem_append.mp he with he | he
    · exact (List.mem_append.mp he).elim (stable_base stamp _ e) (stable_correlation _ e)
    · exact h e he

end Global

variable {e : Event} {v : Json}

theorem Sound.stable (h : e.Sound) (hw : e.Writes v) : v.stable = true := by
  cases hw with
  | authAck hs => exact stable_global (by simp [globalNames]) (by simp [stable_option ExistingRoom.stable])
  | pong hs =>
    have hclient := h
    simp only [Sound] at hclient
    exact stable_global (by simp [globalNames]) (by simp [Json.stable, hclient])
  | @error code detail recoverable correlationId traceId stamp hs =>
    cases traceId with
    | none => exact stable_global (by simp [globalNames, traceFields]) (by simp [traceFields, Json.stable])
    | some id =>
      refine stable_global (by simp [globalNames, traceFields]) ?_
      simp [traceFields, Json.stable, stableFields]
  | room hw => exact RoomEvent.Sound.stable h hw

/-- Every error code is a key of `ERROR_META`. -/
theorem inErrorMeta_text (code : ErrorCode) : inErrorMeta (some (text code.text)) = true := by
  have htext : isText code.text (some (text code.text)) = true := by simp [isText, stringWith, text]
  refine List.any_eq_true.mpr ⟨code.text, List.mem_append_left _ (List.mem_map_of_mem ?_), htext⟩
  cases code <;> decide

/-- The objects of an event pass the guard of its type. -/
theorem Sound.guard (h : e.Sound) (hw : e.Writes v) : e.type.guard (some v) = true := by
  cases hw with
  | @authAck sessionToken playerId serverVersion existingRoom correlationId stamp hs =>
    obtain ⟨hplayer, hroom⟩ := h
    have hexisting : isNullOr isExistingRoom (some (orNull (existingRoom.map ExistingRoom.json))) = true := by
      cases existingRoom with
      | none => rfl
      | some room =>
        have hstatus : isOneOf ["WAITING", "ACTIVE", "FINISHED"] (some (text room.gameStatus.text)) = true := by
          cases room.gameStatus <;> decide
        simp [isNullOr, orNull, isExistingRoom, ExistingRoom.json, isObject, field, find, hstatus,
          isRoomId_of_isRoomCode (hroom room rfl)]
    refine guard_global rfl hs ?_
    simp [field_global, globalNames, find, isString, text, hexisting]
    exact hplayer
  | pong hs =>
    have hclient := h
    simp only [Sound] at hclient
    refine guard_global rfl hs ?_
    simp [field_global, globalNames, find, isNumber, numberWith, hclient, int]
    rfl
  | @error code detail recoverable correlationId traceId stamp hs =>
    refine guard_global rfl hs ?_
    simp [field_global, globalNames, find, isString, isBoolean, inErrorMeta_text]
    exact ⟨rfl, rfl⟩
  | room hw => exact RoomEvent.Sound.guard h hw

/-- An object of an event begins with an envelope that names the event's type. -/
theorem Writes.base (hw : e.Writes v) :
    ∃ stamp fields, stamp.Valid ∧ v = .object (baseFields stamp e.type.text ++ fields) := by
  cases hw with
  | authAck hs | pong hs | error hs => exact ⟨_, _, hs, congrArg Json.object (List.append_assoc _ _ _)⟩
  | room hw =>
    cases hw with
    | mk hs =>
      rw [roomBase, List.append_assoc, List.append_assoc]
      exact ⟨_, _, hs, rfl⟩

/-- `parseEvent` gives the object back, and `isAnyEvent` accepts it by the guard of the event's type and no other. -/
structure DecodesTo {Text : Type} (J : JsonTexts Text) (e : Event) (v : Json) : Prop where
  parsed : parseEvent J (J.stringify v) = some v
  accepted : isAnyEvent (some v) = true
  type : eventTypeOf (some v) = some e.type
  guards : ∀ type : EventType, type.guard (some v) = true ↔ type = e.type

theorem Sound.decodes {Text : Type} {J : JsonTexts Text} (h : e.Sound) (hw : e.Writes v) (hJ : J.Undoes v) :
    e.DecodesTo J v := by
  have hguard := h.guard hw
  obtain ⟨stamp, fields, hs, hv⟩ := hw.base
  have htype : field (some v) "type" = some (text e.type.text) := by rw [hv, field_type]
  have hany : isAnyEvent (some v) = true := by
    rw [isAnyEvent, eventTypeOf_eq htype, Option.any_some, hguard, hv, isBaseEnvelope_base hs e.type.text_ne_nil]
    rfl
  refine ⟨?_, hany, eventTypeOf_eq htype, fun type => ⟨EventType.guard_unique htype, fun he => he ▸ hguard⟩⟩
  rw [parseEvent, hJ (h.stable hw), Option.filter_some, hany, Bool.or_true]
  rfl

end Event
end TicTacToe
