import TicTacToe.Lib.Transition
import TicTacToe.Server.HistoryRepository

/-! # The file of the history repository

`JsonHistoryRepository` of `src/server/app/historyRepository.ts` with the files it reads and writes. A flush is taken
apart into its calls of `node:fs`, each of which may throw: a crash may come between any two of them, and in the middle
of the write. -/

namespace TicTacToe

/-- `JSON.stringify` of a history and `JSON.parse` of a text. `parse` is `none` when it throws or yields no object; an
entry of the object is `none` when its value is no array. -/
structure JsonCodec (Text : Type) where
  stringify : JsMap RoomId (List CompletedGameRecord) → Text
  parse : Text → Option (JsMap RoomId (Option (List CompletedGameRecord)))

/-- `JSON.parse` undoes `JSON.stringify`, up to the order of the keys. -/
structure JsonCodec.Undoes {Text : Type} (J : JsonCodec Text) : Prop where
  parse_stringify : ∀ history, ∃ persisted, J.parse (J.stringify history) = some persisted ∧
    ∀ r, persisted.get r = (history.get r).map some

/-- What `flushToDisk` does next. -/
inductive FlushStep where
  | mkdir
  | write
  | rename
  deriving DecidableEq

structure JsonHistoryRepository (Text : Type) where
  filePath : String
  /-- The in-memory map. -/
  memory : HistoryRepository
  flushing : Option FlushStep
  /-- The contents of the files. -/
  files : JsMap String Text

/-- What happens to the repository. -/
inductive DiskInput (Text : Type) where
  | saveCompletedGame (roomId : RoomId) (game : CompletedGameRecord)
  | mkdir (fails : Bool)
  /-- The write has got as far as `content`; the file may also be missing. -/
  | writing (content : Option Text)
  | written
  | writeFails
  | rename (fails : Bool)
  /-- The process ends, and a new repository is made on the file. -/
  | restart

namespace JsonHistoryRepository
variable {Text : Type}

/-- Set the entries of a parsed object whose values are arrays. -/
def setArrays (history : JsMap RoomId (List CompletedGameRecord)) :
    List (RoomId × Option (List CompletedGameRecord)) → JsMap RoomId (List CompletedGameRecord)
  | [] => history
  | (_, none) :: entries => setArrays history entries
  | (roomId, some games) :: entries => setArrays (history.set roomId games) entries

/-- `loadFromDisk`: a missing file is no error. -/
def loadFromDisk (J : JsonCodec Text) (filePath : String) (files : JsMap String Text) : Option HistoryRepository :=
  match files.get filePath with
  | none => some .empty
  | some raw => (J.parse raw).map fun persisted => ⟨setArrays .empty persisted.entries⟩

/-- The constructor; `none` when it throws. -/
def new (J : JsonCodec Text) (filePath : String) (files : JsMap String Text) : Option (JsonHistoryRepository Text) :=
  if filePath = ":memory:" then some ⟨filePath, .empty, none, files⟩
  else (loadFromDisk J filePath files).map fun history => ⟨filePath, history, none, files⟩

def temporaryPath (filePath : String) : String := filePath ++ ".tmp"

/-- Replace the contents of a file. -/
def put (x : JsonHistoryRepository Text) (path : String) (content : Option Text) : JsonHistoryRepository Text :=
  { x with files := match content with
      | none => x.files.delete path
      | some text => x.files.set path text }

/-- One step. A failing call throws out of `saveCompletedGame`, and leaves the rest of the flush undone. -/
def step (J : JsonCodec Text) (x : JsonHistoryRepository Text) : DiskInput Text → Option (JsonHistoryRepository Text)
  | .saveCompletedGame roomId game =>
    if x.flushing.isSome then none
    else if (x.memory.loadCompletedGames roomId).any fun existing => existing.gameId = game.gameId then some x
    else some { x with
      memory := ⟨x.memory.history.set roomId (game :: x.memory.loadCompletedGames roomId)⟩
      flushing := if x.filePath = ":memory:" then none else some .mkdir }
  | .mkdir fails =>
    if x.flushing = some .mkdir then some { x with flushing := if fails then none else some .write } else none
  | .writing content =>
    if x.flushing = some .write then some (x.put (temporaryPath x.filePath) content) else none
  | .written =>
    if x.flushing = some .write then
      some { x.put (temporaryPath x.filePath) (some (J.stringify x.memory.history)) with flushing := some .rename }
    else none
  | .writeFails => if x.flushing = some .write then some { x with flushing := none } else none
  | .rename fails =>
    if x.flushing = some .rename then
      if fails then some { x with flushing := none }
      else match x.files.get (temporaryPath x.filePath) with
        | none => some { x with flushing := none }
        | some text => some { (x.put x.filePath (some text)).put (temporaryPath x.filePath) none with flushing := none }
    else none
  | .restart => new J x.filePath x.files

end JsonHistoryRepository

/-! ### Whole calls -/

/-- What becomes of a flush. -/
inductive Flush (Text : Type) where
  | mkdirThrows
  /-- `left` is the temporary file afterwards. -/
  | writeThrows (left : Option Text)
  | renameThrows
  | succeeds

def Flush.throws {Text : Type} : Flush Text → Bool
  | .succeeds => false
  | _ => true

/-- The steps of the flush. -/
def Flush.steps {Text : Type} : Flush Text → List (DiskInput Text)
  | .mkdirThrows => [.mkdir true]
  | .writeThrows left => [.mkdir false, .writing left, .writeFails]
  | .renameThrows => [.mkdir false, .written, .rename true]
  | .succeeds => [.mkdir false, .written, .rename false]

/-- A call of `saveCompletedGame`, and what becomes of its flush if it comes to that. -/
structure SaveCall (Text : Type) where
  roomId : RoomId
  game : CompletedGameRecord
  flush : Flush Text

/-- How a call ends. -/
inductive SaveResult where
  /-- It returns early: the game is in memory already. -/
  | known
  | flushed
  | threw
  deriving DecidableEq

namespace JsonHistoryRepository
variable {Text : Type}

/-- A whole call, from one repository to the next. -/
def saveCall (J : JsonCodec Text) (x : JsonHistoryRepository Text) (call : SaveCall Text) :
    Option (JsonHistoryRepository Text × SaveResult) :=
  (step J x (.saveCompletedGame call.roomId call.game)).bind fun y =>
    if y.flushing.isNone then some (y, .known)
    else (Transition.run (step J) (fun _ _ => true) y call.flush.steps).map fun z =>
      (z, if call.flush.throws then .threw else .flushed)

end JsonHistoryRepository
end TicTacToe
