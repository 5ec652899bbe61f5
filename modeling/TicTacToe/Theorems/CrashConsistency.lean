import TicTacToe.Server.HistoryFile

/-! # The history file survives crashes

The memory of the repository runs ahead of the file when a flush fails. A chronicle beside the repository remembers the
history of the last successful flush; the file always holds that history, and a restart comes back to it. -/

namespace TicTacToe

/-- The text of a file holds a history: it parses to an object with the history's entries. -/
def JsonCodec.Holds {Text : Type} (J : JsonCodec Text) (text : Text) (repository : HistoryRepository) : Prop :=
  ∃ persisted, J.parse text = some persisted ∧ ∀ r, (persisted.get r).join = repository.history.get r

namespace JsonHistoryRepository
variable {Text : Type} {J : JsonCodec Text} {x y : JsonHistoryRepository Text} {filePath : String}
  {files : JsMap String Text} {r : RoomId}

/-! ### Loading -/

theorem setArrays_get (history : JsMap RoomId (List CompletedGameRecord))
    (entries : List (RoomId × Option (List CompletedGameRecord))) (hnodup : (entries.map Prod.fst).Nodup) (r : RoomId) :
    (setArrays history entries).get r = (JsMap.find r entries).join.or (history.get r) := by
  induction entries generalizing history with
  | nil => rfl
  | cons entry entries ih =>
    obtain ⟨r', games⟩ := entry
    obtain ⟨hnew, hrest⟩ := List.nodup_cons.mp hnodup
    have ih := fun history => ih history hrest
    by_cases hr : r' = r
    · subst hr
      have hnone : JsMap.find r' entries = none := JsMap.find_eq_none hnew
      cases games <;> simp [setArrays, ih, JsMap.find, hnone]
    · cases games <;> simp [setArrays, ih, JsMap.find, hr, JsMap.get_set]

theorem setArrays_empty_get (persisted : JsMap RoomId (Option (List CompletedGameRecord))) (r : RoomId) :
    (setArrays .empty persisted.entries).get r = (persisted.get r).join :=
  (setArrays_get .empty persisted.entries persisted.nodup r).trans Option.or_none

/-- What is loaded from a file that holds a history. -/
theorem loadFromDisk_of_holds {text : Text} {repository : HistoryRepository} (hfile : files.get filePath = some text)
    (hholds : J.Holds text repository) : ∃ loaded, loadFromDisk J filePath files = some loaded ∧
      ∀ r, loaded.history.get r = repository.history.get r := by
  obtain ⟨persisted, hparse, hget⟩ := hholds
  refine ⟨⟨setArrays .empty persisted.entries⟩, ?_, fun r => (setArrays_empty_get persisted r).trans (hget r)⟩
  rw [loadFromDisk, hfile]
  simp only [hparse, Option.map_some]

end JsonHistoryRepository

open JsonHistoryRepository

/-! ### The chronicle -/

/-- What has been saved and flushed so far: the history of the last successful flush, the saved games since the first
load, oldest first, and those of them that the last successful flush has written. -/
structure Chronicle where
  flushed : HistoryRepository
  saved : List (RoomId × CompletedGameRecord)
  durable : List (RoomId × CompletedGameRecord)

namespace Chronicle
variable {Text : Type}

def begin (loaded : HistoryRepository) : Chronicle := ⟨loaded, [], []⟩

/-- The chronicle after a step from `x`. -/
def after (c : Chronicle) (x : JsonHistoryRepository Text) : DiskInput Text → Chronicle
  | .saveCompletedGame roomId game =>
    if (x.memory.loadCompletedGames roomId).any fun existing => existing.gameId = game.gameId then c
    else { c with saved := c.saved ++ [(roomId, game)] }
  | .rename fails =>
    if !fails && (x.files.get (temporaryPath x.filePath)).isSome then { c with flushed := x.memory, durable := c.saved }
    else c
  | .restart => { c with saved := c.durable }
  | _ => c

/-- The games of room `r` among the saved ones, newest first, before those that were there at first. -/
def newestFirst (saved : List (RoomId × CompletedGameRecord)) (games : List CompletedGameRecord) (r : RoomId) :
    List CompletedGameRecord := ((saved.filter fun entry => entry.1 = r).map Prod.snd).reverse ++ games

theorem newestFirst_append (saved : List (RoomId × CompletedGameRecord)) (roomId r : RoomId)
    (game : CompletedGameRecord) (games : List CompletedGameRecord) :
    newestFirst (saved ++ [(roomId, game)]) games r =
      if roomId = r then game :: newestFirst saved games r else newestFirst saved games r := by
  unfold newestFirst
  split
  · rename_i hr
    simp [List.filter_append, hr]
  · rename_i hr
    simp [List.filter_append, hr]

theorem after_rename {c : Chronicle} {x : JsonHistoryRepository Text} {text : Text}
    (htext : x.files.get (temporaryPath x.filePath) = some text) :
    c.after x (.rename false) = { c with flushed := x.memory, durable := c.saved } := by
  simp [after, htext]

end Chronicle

/-- The repository with its chronicle. -/
def chronicled {Text : Type} (J : JsonCodec Text) (s : JsonHistoryRepository Text × Chronicle) (i : DiskInput Text) :
    Option (JsonHistoryRepository Text × Chronicle) :=
  (step J s.1 i).map fun y => (y, s.2.after s.1 i)

/-! ### The invariant -/

/-- The state of the file at `filePath`: it holds the history, or the history is empty and the file is missing. -/
def FileHolds {Text : Type} (J : JsonCodec Text) (files : JsMap String Text) (filePath : String)
    (repository : HistoryRepository) : Prop :=
  (files.get filePath = none ∧ ∀ r, repository.history.get r = none) ∨
    ∃ text, files.get filePath = some text ∧ J.Holds text repository

/-- Memory and files agree with the chronicle. -/
structure DiskInv {Text : Type} (J : JsonCodec Text) (filePath : String) (loaded : HistoryRepository)
    (s : JsonHistoryRepository Text × Chronicle) : Prop where
  path : s.1.filePath = filePath
  memory : ∀ r, s.1.memory.loadCompletedGames r =
    Chronicle.newestFirst s.2.saved (loaded.loadCompletedGames r) r
  flushed : ∀ r, s.2.flushed.loadCompletedGames r =
    Chronicle.newestFirst s.2.durable (loaded.loadCompletedGames r) r
  file : FileHolds J s.1.files filePath s.2.flushed
  /-- The temporary file is complete when it is renamed. -/
  temporary : s.1.flushing = some .rename →
    s.1.files.get (temporaryPath filePath) = some (J.stringify s.1.memory.history)

section
variable {Text : Type} {J : JsonCodec Text} {filePath : String} {files : JsMap String Text}
  {loaded repository : HistoryRepository} {s t : JsonHistoryRepository Text × Chronicle} {i : DiskInput Text}

theorem temporaryPath_ne (filePath : String) : temporaryPath filePath ≠ filePath := by
  intro h
  have hlength := congrArg String.length h
  simp [temporaryPath] at hlength

/-- A new repository loads the history that the file holds. -/
theorem FileHolds.load (h : FileHolds J files filePath repository) :
    ∃ loaded, loadFromDisk J filePath files = some loaded ∧ ∀ r, loaded.history.get r = repository.history.get r := by
  rcases h with ⟨hfile, hempty⟩ | ⟨text, hfile, hholds⟩
  · exact ⟨.empty, by rw [loadFromDisk, hfile], fun r => (hempty r).symm⟩
  · exact loadFromDisk_of_holds hfile hholds

/-- The history is loaded from the file at first. -/
theorem FileHolds.of_load (h : loadFromDisk J filePath files = some loaded) : FileHolds J files filePath loaded := by
  unfold loadFromDisk at h
  split at h
  · rename_i hfile
    obtain rfl := Option.some.inj h
    exact Or.inl ⟨hfile, fun r => rfl⟩
  · rename_i text hfile
    obtain ⟨persisted, hparse, rfl⟩ := Option.map_eq_some_iff.mp h
    exact Or.inr ⟨text, hfile, persisted, hparse, fun r => (setArrays_empty_get persisted r).symm⟩

theorem FileHolds.of_stringify (hJ : J.Undoes) {text : Text} (hfile : files.get filePath = some text)
    (htext : text = J.stringify repository.history) : FileHolds J files filePath repository := by
  obtain ⟨persisted, hparse, hget⟩ := hJ.parse_stringify repository.history
  refine Or.inr ⟨text, hfile, persisted, htext ▸ hparse, fun r => ?_⟩
  rw [hget r]
  cases repository.history.get r <;> rfl

theorem FileHolds.congr {files' : JsMap String Text} (h : FileHolds J files filePath repository)
    (hsame : files'.get filePath = files.get filePath) : FileHolds J files' filePath repository := by
  rwa [FileHolds, hsame]

theorem put_get (x : JsonHistoryRepository Text) (path path' : String) (content : Option Text) :
    (x.put path content).files.get path' = if path = path' then content else x.files.get path' := by
  cases content with
  | none => exact JsMap.get_delete _ _ _
  | some text => exact JsMap.get_set _ _ _ _

theorem loadCompletedGames_congr {repository' : HistoryRepository}
    (h : ∀ r, repository'.history.get r = repository.history.get r) (r : RoomId) :
    repository'.loadCompletedGames r = repository.loadCompletedGames r := by
  rw [HistoryRepository.loadCompletedGames, h r, HistoryRepository.loadCompletedGames]

namespace DiskInv

/-- A step that changes neither the memory nor the file, and no part of the chronicle. -/
theorem of_same (h : DiskInv J filePath loaded s) (hpath : t.1.filePath = s.1.filePath)
    (hmemory : t.1.memory = s.1.memory) (hfile : t.1.files.get filePath = s.1.files.get filePath)
    (hchronicle : t.2 = s.2) (htemporary : t.1.flushing = some .rename →
      t.1.files.get (temporaryPath filePath) = some (J.stringify t.1.memory.history)) :
    DiskInv J filePath loaded t where
  path := hpath.trans h.path
  memory := by rw [hmemory, hchronicle]; exact h.memory
  flushed := by rw [hchronicle]; exact h.flushed
  file := by rw [hchronicle]; exact h.file.congr hfile
  temporary := htemporary

theorem save (h : DiskInv J filePath loaded s) {roomId : RoomId} {game : CompletedGameRecord}
    (hstep : chronicled J s (.saveCompletedGame roomId game) = some t) : DiskInv J filePath loaded t := by
  obtain ⟨y, hy, rfl⟩ := Option.map_eq_some_iff.mp hstep
  simp only [JsonHistoryRepository.step] at hy
  split at hy
  · cases hy
  split at hy
  · rename_i hknown
    obtain rfl := Option.some.inj hy
    simpa only [Chronicle.after, hknown, ↓reduceIte] using h
  · rename_i hnew
    obtain rfl := Option.some.inj hy
    refine ⟨h.path, fun r => ?_, ?_, ?_, fun hflushing => ?_⟩
    · simp only [Chronicle.after, hnew, Bool.false_eq_true, ↓reduceIte]
      rw [Chronicle.newestFirst_append, ← h.memory r, HistoryRepository.loadCompletedGames, JsMap.get_set]
      split
      · rename_i hr
        subst hr
        rfl
      · rfl
    · simp only [Chronicle.after, hnew, Bool.false_eq_true, ↓reduceIte]
      exact h.flushed
    · simp only [Chronicle.after, hnew, Bool.false_eq_true, ↓reduceIte]
      exact h.file
    · dsimp only at hflushing
      split at hflushing <;> cases hflushing

theorem rename (hJ : J.Undoes) (h : DiskInv J filePath loaded s) {fails : Bool}
    (hstep : chronicled J s (.rename fails) = some t) : DiskInv J filePath loaded t := by
  obtain ⟨y, hy, rfl⟩ := Option.map_eq_some_iff.mp hstep
  simp only [JsonHistoryRepository.step] at hy
  split at hy
  swap
  · cases hy
  rename_i hflushing
  have htext := h.temporary hflushing
  rw [← h.path] at htext
  split at hy
  · rename_i hfails
    obtain rfl := Option.some.inj hy
    exact h.of_same rfl rfl rfl (by simp [Chronicle.after, hfails]) fun hnone => by cases hnone
  · rename_i hfails
    obtain rfl := Bool.eq_false_iff.mpr hfails
    rw [htext] at hy
    obtain rfl := Option.some.inj hy
    rw [Chronicle.after_rename htext]
    refine ⟨h.path, h.memory, h.memory, .of_stringify hJ ?_ rfl, fun hnone => by cases hnone⟩
    dsimp only
    rw [put_get, if_neg (h.path ▸ temporaryPath_ne _), put_get, if_pos h.path]

theorem restart (hpath : filePath ≠ ":memory:") (h : DiskInv J filePath loaded s)
    (hstep : chronicled J s .restart = some t) : DiskInv J filePath loaded t := by
  obtain ⟨y, hy, rfl⟩ := Option.map_eq_some_iff.mp hstep
  obtain ⟨history, hload, hsame⟩ := h.file.load
  simp only [JsonHistoryRepository.step, JsonHistoryRepository.new, h.path, hpath, ↓reduceIte, hload,
    Option.map_some] at hy
  obtain rfl := Option.some.inj hy
  refine ⟨rfl, fun r => ?_, h.flushed, h.file, fun hnone => by cases hnone⟩
  exact (loadCompletedGames_congr hsame r).trans (h.flushed r)

/-- Every step keeps memory and files in agreement with the chronicle. -/
theorem step (hJ : J.Undoes) (hpath : filePath ≠ ":memory:") (h : DiskInv J filePath loaded s)
    (hstep : chronicled J s i = some t) : DiskInv J filePath loaded t := by
  have hother : ∀ content, (s.1.put (temporaryPath s.1.filePath) content).files.get filePath = s.1.files.get filePath :=
    fun content => by rw [put_get, if_neg (h.path ▸ temporaryPath_ne _)]
  cases i with
  | saveCompletedGame roomId game => exact h.save hstep
  | rename fails => exact h.rename hJ hstep
  | restart => exact h.restart hpath hstep
  | mkdir fails =>
    obtain ⟨y, hy, rfl⟩ := Option.map_eq_some_iff.mp hstep
    simp only [JsonHistoryRepository.step] at hy
    split at hy
    · obtain rfl := Option.some.inj hy
      refine h.of_same rfl rfl rfl rfl fun hrename => ?_
      cases fails <;> cases hrename
    · cases hy
  | writing content =>
    obtain ⟨y, hy, rfl⟩ := Option.map_eq_some_iff.mp hstep
    simp only [JsonHistoryRepository.step] at hy
    split at hy
    · rename_i hflushing
      obtain rfl := Option.some.inj hy
      refine h.of_same rfl rfl (hother content) rfl fun hrename => ?_
      cases hflushing.symm.trans hrename
    · cases hy
  | written =>
    obtain ⟨y, hy, rfl⟩ := Option.map_eq_some_iff.mp hstep
    simp only [JsonHistoryRepository.step] at hy
    split at hy
    · obtain rfl := Option.some.inj hy
      refine h.of_same rfl rfl (hother (some (J.stringify s.1.memory.history))) rfl fun _ => ?_
      dsimp only
      rw [put_get, if_pos (congrArg temporaryPath h.path)]
      rfl
    · cases hy
  | writeFails =>
    obtain ⟨y, hy, rfl⟩ := Option.map_eq_some_iff.mp hstep
    simp only [JsonHistoryRepository.step] at hy
    split at hy
    · obtain rfl := Option.some.inj hy
      exact h.of_same rfl rfl rfl rfl fun hrename => by cases hrename
    · cases hy

end DiskInv

/-! ### One call of `saveCompletedGame` -/

/-- The calls of a flush that fails at the given step, or at none. -/
def flushCalls : Option FlushStep → List (DiskInput Text)
  | none => [.mkdir false, .written, .rename false]
  | some .mkdir => [.mkdir true]
  | some .write => [.mkdir false, .writeFails]
  | some .rename => [.mkdir false, .written, .rename true]

theorem written_step (J : JsonCodec Text) {x : JsonHistoryRepository Text} (h : x.flushing = some .write) :
    ∃ y, step J x .written = some y ∧ y.flushing = some .rename ∧ y.memory = x.memory ∧ y.filePath = x.filePath ∧
      y.files.get (temporaryPath x.filePath) = some (J.stringify x.memory.history) := by
  refine ⟨{ x.put (temporaryPath x.filePath) (some (J.stringify x.memory.history)) with flushing := some .rename },
    by rw [step, if_pos h], rfl, rfl, rfl, ?_⟩
  dsimp only
  rw [put_get, if_pos rfl]

theorem rename_step (J : JsonCodec Text) {x : JsonHistoryRepository Text} {text : Text} (fails : Bool)
    (h : x.flushing = some .rename) (htext : x.files.get (temporaryPath x.filePath) = some text) :
    ∃ y, step J x (.rename fails) = some y ∧ y.flushing = none ∧ y.memory = x.memory := by
  simp only [step, h, ↓reduceIte, htext]
  cases fails with
  | true => exact ⟨_, rfl, rfl, rfl⟩
  | false => exact ⟨_, rfl, rfl, rfl⟩

/-- A flush leaves the memory, and no step of it is left. -/
theorem flush_run (J : JsonCodec Text) {x : JsonHistoryRepository Text} (h : x.flushing = some .mkdir)
    (failed : Option FlushStep) : ∃ y, Transition.run (step J) (fun _ _ => true) x (flushCalls failed) = some y ∧
      y.flushing = none ∧ y.memory = x.memory := by
  have hmkdir : ∀ fails, step J x (.mkdir fails) = some { x with flushing := if fails then none else some .write } :=
    fun fails => by rw [step, if_pos h]
  obtain ⟨y, hy, hrename, hmemory, hpath, htext⟩ :=
    written_step J (x := { x with flushing := some .write }) rfl
  rw [← hpath] at htext
  have hlast : ∀ fails, ∃ z, step J y (.rename fails) = some z ∧ z.flushing = none ∧ z.memory = x.memory := by
    intro fails
    obtain ⟨z, hz, hidle, hsame⟩ := rename_step J fails hrename htext
    exact ⟨z, hz, hidle, hsame.trans hmemory⟩
  rcases failed with - | (- | - | -)
  · obtain ⟨z, hz, hidle⟩ := hlast false
    exact ⟨z, by simp [flushCalls, Transition.run, hmkdir, hy, hz], hidle⟩
  · exact ⟨{ x with flushing := none }, by simp [flushCalls, Transition.run, hmkdir], rfl, rfl⟩
  · have hfails : step J { x with flushing := some .write } .writeFails = some { x with flushing := none } := by
      simp only [step, ↓reduceIte]
    exact ⟨{ x with flushing := none }, by simp [flushCalls, Transition.run, hmkdir, hfails], rfl, rfl⟩
  · obtain ⟨z, hz, hidle⟩ := hlast true
    exact ⟨z, by simp [flushCalls, Transition.run, hmkdir, hy, hz], hidle⟩

/-- A call that runs to its end is a call on the memory alone that throws if its flush fails. -/
theorem saveCompletedGame_call (J : JsonCodec Text) {x : JsonHistoryRepository Text} (hidle : x.flushing = none)
    (hpath : x.filePath ≠ ":memory:") {roomId : RoomId} {game : CompletedGameRecord} (failed : Option FlushStep)
    (hnew : game.gameId ∉ (x.memory.loadCompletedGames roomId).map (·.gameId)) :
    ∃ y, Transition.run (step J) (fun _ _ => true) x (.saveCompletedGame roomId game :: flushCalls failed) = some y ∧
      y.flushing = none ∧ (y.memory, failed.isSome) = x.memory.saveCompletedGame roomId game failed.isSome := by
  have hany : ((x.memory.loadCompletedGames roomId).any fun existing => existing.gameId = game.gameId) = false := by
    simpa [List.any_eq_false] using hnew
  have hsave : step J x (.saveCompletedGame roomId game) = some { x with
      memory := ⟨x.memory.history.set roomId (game :: x.memory.loadCompletedGames roomId)⟩
      flushing := some .mkdir } := by
    simp only [step, hidle, hany, hpath, Option.isSome_none, Bool.false_eq_true, ↓reduceIte]
  obtain ⟨y, hrun, hdone, hmemory⟩ := flush_run J (x := { x with
      memory := ⟨x.memory.history.set roomId (game :: x.memory.loadCompletedGames roomId)⟩
      flushing := some .mkdir }) rfl failed
  refine ⟨y, ?_, hdone, ?_⟩
  · rw [Transition.run, if_pos rfl, hsave]
    exact hrun
  · rw [HistoryRepository.saveCompletedGame, hmemory]
    simp only [hany, Bool.false_eq_true, ↓reduceIte]

end

/-! ### The history file -/

/-- At every moment of every run, over failing calls and restarts, the file is missing or holds the in-memory history as
of the last successful flush, and a new repository loads this history, in every room the newest game first. -/
theorem history_file_consistent {Text : Type} {J : JsonCodec Text} (hJ : J.Undoes) {filePath : String}
    (hpath : filePath ≠ ":memory:") {files : JsMap String Text}
    (hfile : ∀ text, files.get filePath = some text → (J.parse text).isSome) :
    ∃ x₀, new J filePath files = some x₀ ∧ ∀ x c,
      Transition.Runs (chronicled J) (fun _ _ => True) (x₀, .begin x₀.memory) (x, c) →
      FileHolds J x.files filePath c.flushed ∧
      ∃ y, new J filePath x.files = some y ∧ ∀ r,
        y.memory.loadCompletedGames r = c.flushed.loadCompletedGames r ∧
        c.flushed.loadCompletedGames r = Chronicle.newestFirst c.durable (x₀.memory.loadCompletedGames r) r := by
  have hload : ∃ loaded, loadFromDisk J filePath files = some loaded := by
    unfold loadFromDisk
    cases htext : files.get filePath with
    | none => exact ⟨_, rfl⟩
    | some text =>
      obtain ⟨persisted, hparse⟩ := Option.isSome_iff_exists.mp (hfile text htext)
      exact ⟨_, congrArg (Option.map _) hparse⟩
  obtain ⟨loaded, hload⟩ := hload
  refine ⟨⟨filePath, loaded, none, files⟩, by simp [JsonHistoryRepository.new, hpath, hload], fun x c hrun => ?_⟩
  have hstart : DiskInv J filePath loaded (⟨filePath, loaded, none, files⟩, .begin loaded) :=
    ⟨rfl, fun _ => rfl, fun _ => rfl, .of_load hload, fun hnone => by cases hnone⟩
  have h := hrun.invariant (P := DiskInv J filePath loaded) hstart fun _ _ _ h _ hstep => h.step hJ hpath hstep
  obtain ⟨reloaded, hreload, hsame⟩ := h.file.load
  refine ⟨h.file, ⟨filePath, reloaded, none, x.files⟩, ?_, fun r => ?_⟩
  · simp [JsonHistoryRepository.new, hpath, hreload]
  · exact ⟨loadCompletedGames_congr hsame r, h.flushed r⟩

/-- Texts up to what they parse to; `none` is a text that is no JSON, such as the beginning of one. -/
def parsedTexts : JsonCodec (Option (JsMap RoomId (Option (List CompletedGameRecord)))) where
  stringify history := some ⟨history.entries.map fun entry => (entry.1, some entry.2), by
    rw [List.map_map]
    exact history.nodup⟩
  parse text := text

theorem parsedTexts_undoes : parsedTexts.Undoes := by
  refine ⟨fun history => ⟨_, rfl, fun r => ?_⟩⟩
  simp only [JsMap.get]
  induction history.entries with
  | nil => rfl
  | cons entry entries ih =>
    by_cases hr : entry.1 = r
    · simp [JsMap.find, hr]
    · simpa [JsMap.find, hr] using ih

/-- A game that O has resigned at once. -/
def resigned (gameId : GameId) : CompletedGameRecord :=
  let result : GameResult := ⟨.forfeit, some .X, none, .playerForfeited, 200⟩
  ⟨⟨gameId, result.outcome, result.winner, 0, 100, 200⟩, EMPTY_BOARD, result, []⟩

/-- Of two games, the second is lost: its flush dies in the middle of the write. -/
theorem history_file_consistent_half : ∃ x₀, new parsedTexts "data/history.json" .empty = some x₀ ∧ ∃ x c,
    Transition.Runs (chronicled parsedTexts) (fun _ _ => True) (x₀, .begin x₀.memory) (x, c) ∧
    (x.memory.loadCompletedGames "r").map (·.gameId) = ["g2", "g1"] ∧
    FileHolds parsedTexts x.files "data/history.json" c.flushed ∧
    ∃ y, new parsedTexts "data/history.json" x.files = some y ∧
      (y.memory.loadCompletedGames "r").map (·.gameId) = ["g1"] := by
  obtain ⟨x₀, hnew, h⟩ := @history_file_consistent _ _ parsedTexts_undoes "data/history.json" (by decide) .empty
    fun text htext => by cases htext
  obtain rfl : ⟨"data/history.json", .empty, none, .empty⟩ = x₀ := Option.some.inj hnew
  have hcheck : (Transition.run (chronicled parsedTexts) (fun _ _ => true)
      (⟨"data/history.json", .empty, none, .empty⟩, .begin .empty)
      [.saveCompletedGame "r" (resigned "g1"), .mkdir false, .written, .rename false,
        .saveCompletedGame "r" (resigned "g2"), .mkdir false, .writing (some none)]).any (fun s =>
      (s.1.memory.loadCompletedGames "r").map (·.gameId) = ["g2", "g1"] &&
        (s.2.flushed.loadCompletedGames "r").map (·.gameId) = ["g1"]) = true := by decide
  obtain ⟨⟨x, c⟩, hrun, hs⟩ := Transition.exists_run (C := fun _ _ => True) (fun _ _ _ => trivial) hcheck
  simp only [Bool.and_eq_true, decide_eq_true_eq] at hs
  obtain ⟨hfile, y, hy, hload⟩ := h x c hrun
  exact ⟨_, hnew, x, c, hrun, hs.1, hfile, y, hy, by rw [(hload "r").1]; exact hs.2⟩

end TicTacToe
