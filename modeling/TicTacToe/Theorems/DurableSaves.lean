import TicTacToe.Theorems.CrashConsistency

/-! # Whether a save that returns is on disk

A flush that throws leaves its game in memory, where the next call for the game finds it and returns. The games that
are in memory and not in the file are exactly those whose save has thrown since the last flush. -/

namespace TicTacToe
open JsonHistoryRepository

/-- A call that has ended. -/
structure SaveRecord where
  roomId : RoomId
  gameId : GameId
  result : SaveResult
  deriving DecidableEq

/-- What a call makes of the games whose save has thrown since the last flush. -/
def SaveRecord.leaves (record : SaveRecord) (games : List (RoomId × GameId)) : List (RoomId × GameId) :=
  match record.result with
  | .known => games
  | .flushed => []
  | .threw => (record.roomId, record.gameId) :: games

/-- The games whose save has thrown since the last flush. -/
def unflushed (records : List SaveRecord) : List (RoomId × GameId) :=
  records.foldl (fun games record => record.leaves games) []

/-- The repository with the calls so far. -/
def saving {Text : Type} (J : JsonCodec Text) (s : JsonHistoryRepository Text × List SaveRecord)
    (call : SaveCall Text) : Option (JsonHistoryRepository Text × List SaveRecord) :=
  (saveCall J s.1 call).map fun ended => (ended.1, s.2 ++ [⟨call.roomId, call.game.gameId, ended.2⟩])

section
variable {Text : Type} {J : JsonCodec Text} {x y x₀ : JsonHistoryRepository Text} {filePath : String}
  {files : JsMap String Text} {repository repository' : HistoryRepository} {call : SaveCall Text} {result : SaveResult}
  {records : List SaveRecord} {roomId r : RoomId} {game : CompletedGameRecord} {g : GameId}
  {s t : JsonHistoryRepository Text × List SaveRecord}

theorem unflushed_append (records : List SaveRecord) (record : SaveRecord) :
    unflushed (records ++ [record]) = record.leaves (unflushed records) := List.foldl_concat ..

namespace HistoryRepository

/-- The game is in the history of the room. -/
def Has (repository : HistoryRepository) (roomId : RoomId) (gameId : GameId) : Prop :=
  gameId ∈ (repository.loadCompletedGames roomId).map (·.gameId)

instance (repository : HistoryRepository) (roomId : RoomId) (gameId : GameId) :
    Decidable (repository.Has roomId gameId) := inferInstanceAs (Decidable (_ ∈ _))

/-- The map after `set` in `saveCompletedGame`. -/
def add (repository : HistoryRepository) (roomId : RoomId) (game : CompletedGameRecord) : HistoryRepository :=
  ⟨repository.history.set roomId (game :: repository.loadCompletedGames roomId)⟩

theorem has_congr (h : ∀ r, repository'.history.get r = repository.history.get r) :
    repository'.Has r g ↔ repository.Has r g := by
  rw [Has, Has, loadCompletedGames_congr h r]

theorem has_add : (repository.add roomId game).Has r g ↔ (r, g) = (roomId, game.gameId) ∨ repository.Has r g := by
  unfold Has
  rw [add, loadCompletedGames, JsMap.get_set]
  by_cases hr : roomId = r
  · subst hr
    simp
  · simp [hr, Ne.symm hr, loadCompletedGames]

theorem has_iff_any : repository.Has roomId game.gameId ↔
    ((repository.loadCompletedGames roomId).any fun existing => existing.gameId = game.gameId) = true := by
  simp [Has, List.any_eq_true, List.mem_map]

end HistoryRepository

/-! ### One call -/

theorem rename_eq {text : Text} (hflushing : x.flushing = some .rename)
    (htext : x.files.get (temporaryPath x.filePath) = some text) : step J x (.rename false) =
      some { (x.put x.filePath (some text)).put (temporaryPath x.filePath) none with flushing := none } := by
  rw [step, if_pos hflushing, if_neg Bool.false_ne_true, htext]

/-- The steps of a flush leave the memory; the file stays as it is, or holds the text of the memory. -/
theorem flush_steps (hflushing : x.flushing = some .mkdir) (flush : Flush Text) :
    ∃ y, Transition.run (step J) (fun _ _ => true) x flush.steps = some y ∧ y.flushing = none ∧
      y.filePath = x.filePath ∧ y.memory = x.memory ∧
      y.files.get x.filePath =
        if flush.throws then x.files.get x.filePath else some (J.stringify x.memory.history) := by
  have hmkdir : ∀ fails, step J x (.mkdir fails) = some { x with flushing := if fails then none else some .write } := by
    intro fails
    rw [step, if_pos hflushing]
  have hother : ∀ content, (x.put (temporaryPath x.filePath) content).files.get x.filePath = x.files.get x.filePath := by
    intro content
    rw [put_get, if_neg (temporaryPath_ne _)]
  have hwriting : ∀ left, step J { x with flushing := some .write } (.writing left) =
      some { x.put (temporaryPath x.filePath) left with flushing := some .write } := by
    intro left
    rw [step, if_pos rfl]
    rfl
  have hwritten : step J { x with flushing := some .write } .written =
      some { x.put (temporaryPath x.filePath) (some (J.stringify x.memory.history)) with flushing := some .rename } := by
    rw [step, if_pos rfl]
    rfl
  cases flush with
  | mkdirThrows =>
    refine ⟨{ x with flushing := none }, ?_, rfl, rfl, rfl, rfl⟩
    simp [Flush.steps, Transition.run, hmkdir]
  | writeThrows left =>
    refine ⟨{ x.put (temporaryPath x.filePath) left with flushing := none }, ?_, rfl, rfl, rfl, hother left⟩
    have hthrows : ∀ z : JsonHistoryRepository Text,
        step J { z with flushing := some .write } .writeFails = some { z with flushing := none } := by
      intro z
      rw [step, if_pos rfl]
    simp [Flush.steps, Transition.run, hmkdir, hwriting, hthrows]
  | renameThrows =>
    refine ⟨{ x.put (temporaryPath x.filePath) (some (J.stringify x.memory.history)) with flushing := none }, ?_, rfl,
      rfl, rfl, hother (some (J.stringify x.memory.history))⟩
    have hthrows : ∀ z : JsonHistoryRepository Text,
        step J { z with flushing := some .rename } (.rename true) = some { z with flushing := none } := by
      intro z
      rw [step, if_pos rfl, if_pos rfl]
    simp [Flush.steps, Transition.run, hmkdir, hwritten, hthrows]
  | succeeds =>
    obtain ⟨v, hv⟩ : ∃ v : JsonHistoryRepository Text,
        v = { x.put (temporaryPath x.filePath) (some (J.stringify x.memory.history)) with flushing := some .rename } :=
      ⟨_, rfl⟩
    have hpath : v.filePath = x.filePath := by rw [hv]; rfl
    have htext : v.files.get (temporaryPath v.filePath) = some (J.stringify x.memory.history) := by
      rw [hpath, hv]
      dsimp only
      rw [put_get, if_pos rfl]
    refine ⟨{ (v.put v.filePath (some (J.stringify x.memory.history))).put (temporaryPath v.filePath) none with
      flushing := none }, ?_, rfl, hpath, by rw [hv]; rfl, ?_⟩
    · simp [Flush.steps, Transition.run, hmkdir, hwritten, ← hv, rename_eq (hv ▸ rfl) htext]
    · dsimp only
      rw [← hpath, put_get, if_neg (temporaryPath_ne _), put_get, if_pos rfl]
      rfl

/-- What a call does, however its flush goes. -/
theorem saveCall_spec (hidle : x.flushing = none) (hpath : x.filePath ≠ ":memory:") (call : SaveCall Text) :
    ∃ y result, saveCall J x call = some (y, result) ∧ y.flushing = none ∧ y.filePath = x.filePath ∧
      ((x.memory.Has call.roomId call.game.gameId ∧ y = x ∧ result = .known) ∨
        (¬x.memory.Has call.roomId call.game.gameId ∧ y.memory = x.memory.add call.roomId call.game ∧
          ((result = .threw ∧ y.files.get x.filePath = x.files.get x.filePath) ∨
            (result = .flushed ∧ y.files.get x.filePath = some (J.stringify y.memory.history))))) := by
  by_cases hhas : x.memory.Has call.roomId call.game.gameId
  · have hstep : step J x (.saveCompletedGame call.roomId call.game) = some x := by
      simp only [step, hidle, HistoryRepository.has_iff_any.mp hhas, Option.isSome_none, Bool.false_eq_true, ↓reduceIte]
    refine ⟨x, .known, ?_, hidle, rfl, Or.inl ⟨hhas, rfl, rfl⟩⟩
    simp [saveCall, hstep, hidle]
  · have hstep : step J x (.saveCompletedGame call.roomId call.game) =
        some { x with memory := x.memory.add call.roomId call.game, flushing := some .mkdir } := by
      simp only [step, hidle, mt HistoryRepository.has_iff_any.mpr hhas, hpath, Option.isSome_none, Bool.false_eq_true,
        ↓reduceIte]
      rfl
    obtain ⟨y, hrun, hdone, hsame, hmemory, hfile⟩ := flush_steps (J := J)
      (x := { x with memory := x.memory.add call.roomId call.game, flushing := some .mkdir }) rfl call.flush
    refine ⟨y, if call.flush.throws then .threw else .flushed, ?_, hdone, hsame, Or.inr ⟨hhas, hmemory, ?_⟩⟩
    · simp [saveCall, hstep, hrun]
    · rw [hmemory]
      cases hthrows : call.flush.throws with
      | true => exact Or.inl ⟨rfl, by simpa [hthrows] using hfile⟩
      | false => exact Or.inr ⟨rfl, by simpa [hthrows] using hfile⟩

/-! ### Sequences of calls -/

/-- The file has what memory has, but for the games whose save has thrown since the last flush. -/
structure SavesInv (J : JsonCodec Text) (filePath : String) (s : JsonHistoryRepository Text × List SaveRecord) :
    Prop where
  path : s.1.filePath = filePath
  idle : s.1.flushing = none
  file : ∃ flushed, FileHolds J s.1.files filePath flushed ∧
    ∀ r g, flushed.Has r g ↔ s.1.memory.Has r g ∧ (r, g) ∉ unflushed s.2
  unflushed : ∀ game ∈ unflushed s.2, s.1.memory.Has game.1 game.2

namespace SavesInv

theorem of_new (hpath : filePath ≠ ":memory:") (hnew : new J filePath files = some x) :
    SavesInv J filePath (x, []) := by
  rw [JsonHistoryRepository.new, if_neg hpath] at hnew
  obtain ⟨history, hload, rfl⟩ := Option.map_eq_some_iff.mp hnew
  exact ⟨rfl, rfl, ⟨history, .of_load hload, fun r g => by simp [TicTacToe.unflushed]⟩,
    fun game hgame => by cases hgame⟩

/-- A new repository on the file. -/
theorem reload (hpath : filePath ≠ ":memory:") (h : SavesInv J filePath s) :
    ∃ z, new J filePath s.1.files = some z ∧
      ∀ r g, z.memory.Has r g ↔ s.1.memory.Has r g ∧ (r, g) ∉ TicTacToe.unflushed s.2 := by
  obtain ⟨flushed, hfile, hflushed⟩ := h.file
  obtain ⟨loaded, hload, hsame⟩ := hfile.load
  refine ⟨⟨filePath, loaded, none, s.1.files⟩, by simp [JsonHistoryRepository.new, hpath, hload], fun r g => ?_⟩
  exact (HistoryRepository.has_congr hsame).trans (hflushed r g)

/-- Every call keeps the file level with memory, up to the flushes that have thrown. -/
theorem step (hJ : J.Undoes) (hpath : filePath ≠ ":memory:") (h : SavesInv J filePath s)
    (hstep : saving J s call = some t) : SavesInv J filePath t := by
  obtain ⟨y, result, hcall, hidle, hsame, hcases⟩ := saveCall_spec (J := J) h.idle (h.path.symm ▸ hpath) call
  rw [saving, hcall, Option.map_some, Option.some.injEq] at hstep
  obtain rfl := hstep
  obtain ⟨flushed, hfile, hflushed⟩ := h.file
  rw [h.path] at hsame hcases
  obtain ⟨-, rfl, rfl⟩ | ⟨hnew, hmemory, ⟨rfl, hfiles⟩ | ⟨rfl, hfiles⟩⟩ := hcases
  · refine ⟨hsame, hidle, ⟨flushed, hfile, ?_⟩, ?_⟩
    all_goals rw [unflushed_append]
    · exact hflushed
    · exact h.unflushed
  · refine ⟨hsame, hidle, ⟨flushed, hfile.congr hfiles, fun r g => ?_⟩, fun game hgame => ?_⟩
    all_goals dsimp only
    · rw [unflushed_append, hmemory, HistoryRepository.has_add, hflushed]
      simp only [SaveRecord.leaves, List.mem_cons, not_or]
      constructor
      · rintro ⟨hhas, hnot⟩
        refine ⟨Or.inr hhas, fun heq => ?_, hnot⟩
        obtain ⟨rfl, rfl⟩ := Prod.mk.inj heq
        exact hnew hhas
      · rintro ⟨heq | hhas, hne, hnot⟩
        · exact absurd heq hne
        · exact ⟨hhas, hnot⟩
    · rw [unflushed_append, SaveRecord.leaves, List.mem_cons] at hgame
      rw [hmemory, HistoryRepository.has_add]
      exact hgame.imp id (h.unflushed game)
  · refine ⟨hsame, hidle, ⟨y.memory, .of_stringify hJ hfiles rfl, fun r g => ?_⟩, fun game hgame => ?_⟩
    · rw [unflushed_append]
      simp [SaveRecord.leaves]
    · rw [unflushed_append] at hgame
      cases hgame

end SavesInv

/-- A call that returns has its game on disk exactly if the save of this game has not thrown since the last flush. -/
theorem saves_durable_iff (hJ : J.Undoes) (hpath : filePath ≠ ":memory:") (hnew : new J filePath files = some x₀)
    (hrun : Transition.Runs (saving J) (fun _ _ => True) (x₀, []) (x, records))
    (hcall : saveCall J x call = some (y, result)) (hreturns : result ≠ .threw) :
    (∃ z, new J filePath y.files = some z ∧ z.memory.Has call.roomId call.game.gameId) ↔
      (call.roomId, call.game.gameId) ∉ unflushed records := by
  have h : SavesInv J filePath (x, records) :=
    hrun.invariant (.of_new hpath hnew) fun _ _ _ h _ hstep => h.step hJ hpath hstep
  have hafter : SavesInv J filePath (y, records ++ [⟨call.roomId, call.game.gameId, result⟩]) :=
    h.step hJ hpath (by rw [saving, hcall, Option.map_some])
  obtain ⟨z, hz, hload⟩ := hafter.reload hpath
  have hmeans : (∃ z, new J filePath y.files = some z ∧ z.memory.Has call.roomId call.game.gameId) ↔
      y.memory.Has call.roomId call.game.gameId ∧ (call.roomId, call.game.gameId) ∉
        unflushed (records ++ [⟨call.roomId, call.game.gameId, result⟩]) := by
    rw [← hload]
    constructor
    · rintro ⟨z', hz', hhas⟩
      obtain rfl := Option.some.inj (hz.symm.trans hz')
      exact hhas
    · intro hhas
      exact ⟨z, hz, hhas⟩
  rw [hmeans, unflushed_append]
  obtain ⟨y', result', hcall', -, -, hcases⟩ := saveCall_spec (J := J) h.idle (h.path.symm ▸ hpath) call
  obtain ⟨rfl, rfl⟩ := Prod.mk.inj (Option.some.inj (hcall.symm.trans hcall'))
  obtain ⟨hknown, rfl, rfl⟩ | ⟨hnew, hmemory, ⟨rfl, -⟩ | ⟨rfl, -⟩⟩ := hcases
  · exact and_iff_right hknown
  · exact absurd rfl hreturns
  · rw [hmemory, HistoryRepository.has_add]
    constructor
    · intro _ hthrown
      exact hnew (h.unflushed _ hthrown)
    · intro _
      exact ⟨Or.inl rfl, by simp [SaveRecord.leaves]⟩

end

/-- A game whose save has thrown is on disk after the save of another game. -/
theorem saves_durable_iff_repaired : ∃ x₀, new parsedTexts "data/history.json" .empty = some x₀ ∧ ∃ x records,
    Transition.Runs (saving parsedTexts) (fun _ _ => True) (x₀, []) (x, records) ∧
    records = [⟨"r", "g1", .threw⟩, ⟨"r", "g2", .flushed⟩] ∧
    ∃ y, saveCall parsedTexts x ⟨"r", resigned "g1", .mkdirThrows⟩ = some (y, .known) ∧
      ∃ z, new parsedTexts "data/history.json" y.files = some z ∧ z.memory.Has "r" "g1" := by
  have hcheck : (Transition.run (saving parsedTexts) (fun _ _ => true)
      (⟨"data/history.json", .empty, none, .empty⟩, [])
      [⟨"r", resigned "g1", .writeThrows (some none)⟩, ⟨"r", resigned "g2", .succeeds⟩]).any (fun s =>
        s.2 = [⟨"r", "g1", .threw⟩, ⟨"r", "g2", .flushed⟩] &&
          (saveCall parsedTexts s.1 ⟨"r", resigned "g1", .mkdirThrows⟩).any (·.2 = .known)) = true := by decide
  obtain ⟨⟨x, records⟩, hrun, hs⟩ := Transition.exists_run (C := fun _ _ => True) (fun _ _ _ => trivial) hcheck
  simp only [Bool.and_eq_true, decide_eq_true_eq, Option.any_eq_true] at hs
  obtain ⟨rfl, ⟨y, _⟩, hcall, rfl⟩ := hs
  have hnew : new parsedTexts "data/history.json" .empty = some ⟨"data/history.json", .empty, none, .empty⟩ := rfl
  exact ⟨_, hnew, x, _, hrun, rfl, y, hcall,
    (saves_durable_iff parsedTexts_undoes (by decide) hnew hrun hcall (by decide)).mpr (by decide)⟩

/-- The flush of a save throws; the save is repeated on a sound disk, and returns with nothing written. -/
theorem repeated_save_lost : ∃ x₀, new parsedTexts "data/history.json" .empty = some x₀ ∧ ∃ x records,
    Transition.Runs (saving parsedTexts) (fun _ _ => True) (x₀, []) (x, records) ∧
    records = [⟨"r", "g1", .threw⟩] ∧
    ∃ y, saveCall parsedTexts x ⟨"r", resigned "g1", .succeeds⟩ = some (y, .known) ∧
      ¬∃ z, new parsedTexts "data/history.json" y.files = some z ∧ z.memory.Has "r" "g1" := by
  have hcheck : (Transition.run (saving parsedTexts) (fun _ _ => true)
      (⟨"data/history.json", .empty, none, .empty⟩, []) [⟨"r", resigned "g1", .mkdirThrows⟩]).any (fun s =>
        s.2 = [⟨"r", "g1", .threw⟩] &&
          (saveCall parsedTexts s.1 ⟨"r", resigned "g1", .succeeds⟩).any fun ended =>
            ended.2 = .known && !(new parsedTexts "data/history.json" ended.1.files).any fun z =>
              z.memory.Has "r" "g1") = true := by decide
  obtain ⟨⟨x, records⟩, hrun, hs⟩ := Transition.exists_run (C := fun _ _ => True) (fun _ _ _ => trivial) hcheck
  simp only [Bool.and_eq_true, Bool.not_eq_true', decide_eq_true_eq, Option.any_eq_true] at hs
  obtain ⟨rfl, ⟨y, _⟩, hcall, rfl, hlost⟩ := hs
  refine ⟨_, rfl, x, _, hrun, rfl, y, hcall, ?_⟩
  rintro ⟨z, hz, hhas⟩
  rw [hz, Option.any_some] at hlost
  exact of_decide_eq_false hlost hhas

end TicTacToe
