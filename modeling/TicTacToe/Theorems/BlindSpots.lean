import TicTacToe.Theorems.EngineDecided

/-! # What the verifier does not see

`verifyInvariants` compares a state with its history. That the positions of the history are distinct follows from two of
its checks together; nothing that it checks ties the status to the lines of the board, or a result to an unfinished
game. -/

namespace TicTacToe
variable {s : GameState} {board : BoardSnapshot} {history : List MoveRecord}

/-- The cells of `line` are those of one of the eight lines. -/
def FormsLine (line : WinningLine) : Prop := ∃ l ∈ ALL_WINNING_LINES, ∀ p, p ∈ line.cells ↔ p ∈ l.cells

/-- What an empty list of violations stands for. -/
structure Sound (s : GameState) : Prop where
  active : s.status = .active → s.result = none ∧ (∃ i, s.board i = .empty) ∧ ∀ symbol, ¬HasLine s.board symbol
  finished : s.status = .finished → s.result ≠ none
  win : ∀ r, s.result = some r → r.outcome = .win → ∃ line, r.winningLine = some line ∧ FormsLine line
  draw : ∀ r, s.result = some r → r.outcome = .draw → ∀ symbol, ¬HasLine s.board symbol
  distinct : (s.moveHistory.map MoveRecord.position).Nodup

/-- The states that the verifier takes for valid although they are not. -/
inductive BlindSpot (s : GameState) : Prop
  /-- A running game has a result already. -/
  | early (hs : s.status = .active) (hr : s.result ≠ none)
  /-- A running game has had all its nine moves. -/
  | exhausted (hs : s.status = .active) (hn : s.moveHistory.length = 9)
  /-- A running game is won. -/
  | won (hs : s.status = .active) (symbol : PlayerSymbol) (hw : detectWin s.board symbol ≠ none)
  /-- A finished game has no result. -/
  | missing (hs : s.status = .finished) (hr : s.result = none)
  /-- A game that is not finished has a win without a line. -/
  | lineless (r : GameResult) (hr : s.result = some r) (ho : r.outcome = .win) (hs : s.status ≠ .finished)
    (hl : r.winningLine = none)
  /-- The winning line is none of the eight. -/
  | crooked (r : GameResult) (line : WinningLine) (hr : s.result = some r) (ho : r.outcome = .win)
    (hl : r.winningLine = some line) (hf : ¬FormsLine line)
  /-- A draw has a line. -/
  | drawn (r : GameResult) (hr : s.result = some r) (ho : r.outcome = .draw) (symbol : PlayerSymbol)
    (hw : detectWin s.board symbol ≠ none)

/-! ### Distinct positions -/

/-- A cell of the board of a history is empty exactly when no record is about it. -/
theorem boardFromHistory_empty_iff (history : List MoveRecord) (p : BoardPosition) :
    boardAt (boardFromHistory history) p = .empty ↔ p ∉ history.map MoveRecord.position := by
  induction history using List.reverseRecOn with
  | nil => simp [boardFromHistory, boardAt, EMPTY_BOARD]
  | append_singleton history record ih =>
    rw [boardFromHistory_append, List.map_append, List.mem_append, not_or, ← ih]
    by_cases hp : p = record.position
    · subst hp
      simp [boardAt]
    · have hne : positionToIndex p.row p.col ≠ positionToIndex record.position.row record.position.col :=
        fun h => hp (positionToIndex_inj h)
      simp [boardAt, applyMarkToBoard_of_ne hne, hp]

/-- A mark on an occupied cell is not counted again. -/
theorem markCount_applyMarkToBoard_occupied {row col : BoardIndex} {symbol : PlayerSymbol}
    (hcell : boardAt board ⟨row, col⟩ ≠ .empty) : markCount (applyMarkToBoard board row col symbol) = markCount board := by
  have hsame : ∀ i, applyMarkToBoard board row col symbol i ≠ .empty ↔ board i ≠ .empty := fun i => by
    by_cases hi : i = positionToIndex row col
    · subst hi
      simpa [boardAt] using hcell
    · rw [applyMarkToBoard_of_ne hi]
  simp only [markCount, hsame]

theorem markCount_boardFromHistory_le (history : List MoveRecord) :
    markCount (boardFromHistory history) ≤ history.length := by
  induction history using List.reverseRecOn with
  | nil => simp [boardFromHistory, markCount, EMPTY_BOARD]
  | append_singleton history record ih =>
    rw [boardFromHistory_append, List.length_append, List.length_singleton]
    by_cases hcell : boardAt (boardFromHistory history) record.position = .empty
    · rw [markCount_applyMarkToBoard hcell]
      omega
    · rw [markCount_applyMarkToBoard_occupied hcell]
      omega

/-- With a mark for every record no position comes twice: a second mark on a cell would be lost for the count. -/
theorem positions_nodup (h : markCount (boardFromHistory history) = history.length) :
    (history.map MoveRecord.position).Nodup := by
  induction history using List.reverseRecOn with
  | nil => exact List.nodup_nil
  | append_singleton history record ih =>
    rw [boardFromHistory_append, List.length_append, List.length_singleton] at h
    have hle := markCount_boardFromHistory_le history
    by_cases hcell : boardAt (boardFromHistory history) record.position = .empty
    · rw [markCount_applyMarkToBoard hcell] at h
      have hnew := (boardFromHistory_empty_iff history record.position).mp hcell
      rw [List.map_append, List.map_singleton, List.nodup_append]
      refine ⟨ih (by omega), List.nodup_singleton _, fun p hp q hq => ?_⟩
      rw [List.mem_singleton.mp hq]
      exact fun he => hnew (he ▸ hp)
    · rw [markCount_applyMarkToBoard_occupied hcell] at h
      omega

/-! ### Completeness -/

/-- A board has an empty cell as long as it has less than nine marks. -/
theorem exists_empty_iff : (∃ i, board i = .empty) ↔ markCount board ≠ 9 := by
  constructor
  · rintro ⟨i, hi⟩ hn
    have hall : (List.finRange 9).filter (fun i => decide (board i ≠ .empty)) = List.finRange 9 := by
      refine List.filter_sublist.eq_of_length ?_
      simpa [markCount] using hn
    have hmem := List.mem_finRange i
    rw [← hall, List.mem_filter] at hmem
    simp [hi] at hmem
  · intro hn
    by_contra hnone
    refine hn ?_
    have hfull : ∀ i, board i ≠ .empty := fun i hi => hnone ⟨i, hi⟩
    simp [markCount, hfull]

theorem hasLine_iff {symbol : PlayerSymbol} : HasLine board symbol ↔ detectWin board symbol ≠ none :=
  not_iff_comm.mp detectWin_eq_none.symm |>.symm

/-- A state that passes every check is valid, unless it is in a blind spot. -/
theorem verified_sound_iff (h : verifyInvariants s = []) : Sound s ↔ ¬BlindSpot s := by
  have hc : Consistent s := verifyInvariants_eq_nil_iff.mp h
  have hempty : (∃ i, s.board i = .empty) ↔ s.moveHistory.length ≠ 9 := by rw [exists_empty_iff, hc.marks]
  constructor
  · rintro hs hb
    cases hb with
    | early ha hr => exact hr (hs.active ha).1
    | exhausted ha hn => exact hempty.mp (hs.active ha).2.1 hn
    | won ha symbol hw => exact (hs.active ha).2.2 symbol (hasLine_iff.mpr hw)
    | missing hf hr => exact hs.finished hf hr
    | lineless r hr ho _ hl =>
      obtain ⟨line, hline, -⟩ := hs.win r hr ho
      rw [hl] at hline
      cases hline
    | crooked r line hr ho hl hf =>
      obtain ⟨line', hline, hforms⟩ := hs.win r hr ho
      obtain rfl : line = line' := Option.some.inj (hl.symm.trans hline)
      exact hf hforms
    | drawn r hr ho symbol hw => exact hs.draw r hr ho symbol (hasLine_iff.mpr hw)
  · intro hb
    refine ⟨fun ha => ⟨?_, ?_, ?_⟩, fun hf hr => hb (.missing hf hr), fun r hr ho => ?_, fun r hr ho symbol hw => ?_, ?_⟩
    · by_contra hr
      exact hb (.early ha hr)
    · exact hempty.mpr fun hn => hb (.exhausted ha hn)
    · intro symbol hw
      exact hb (.won ha symbol (hasLine_iff.mp hw))
    · cases hl : r.winningLine with
      | none =>
        -- Without a line the game is not finished, as the verifier asks for one.
        refine absurd (.lineless r hr ho (fun hf => ?_) hl) hb
        obtain ⟨line, winner, hline, -⟩ := (hc.result hf r hr).win ho
        rw [hl] at hline
        cases hline
      | some line =>
        refine ⟨line, rfl, ?_⟩
        by_contra hf
        exact hb (.crooked r line hr ho hl hf)
    · exact hb (.drawn r hr ho symbol (hasLine_iff.mp hw))
    · exact positions_nodup (by rw [hc.board, hc.marks])

/-- X has won with the upper row. -/
def upperRow : GameState :=
  runMoves (startGame ⟨"g", "r", "p", "q", .X, 1⟩).newState
    [⟨"p", .ofNat 0, .ofNat 0, "a", 2⟩, ⟨"q", .ofNat 1, .ofNat 0, "b", 3⟩, ⟨"p", .ofNat 0, .ofNat 1, "c", 4⟩,
     ⟨"q", .ofNat 1, .ofNat 1, "d", 5⟩, ⟨"p", .ofNat 0, .ofNat 2, "e", 6⟩]

/-- X has the upper row, and the game is still running. -/
def wonButActive : GameState :=
  { upperRow with status := .active, result := none, endedAt := none, currentTurn := .O }

/-- The verifier passes a running game that is won. -/
theorem verifier_misses_win : verifyInvariants wonButActive = [] ∧ ¬Sound wonButActive := by
  refine ⟨by decide, fun h => ?_⟩
  obtain ⟨-, -, hno⟩ := h.active rfl
  have hrow : detectWin wonButActive.board .X ≠ none := by decide
  exact hno .X (hasLine_iff.mpr hrow)

/-- The won game passes, and is valid: it is in none of the blind spots. -/
theorem verified_sound_won : verifyInvariants upperRow = [] ∧ upperRow.status = .finished ∧
    upperRow.moveHistory.length = 5 ∧ Sound upperRow := by
  have hpasses : verifyInvariants upperRow = [] := by decide
  have hstatus : upperRow.status = .finished := by decide
  have hresult : upperRow.result = some ⟨.win, some .X, detectWin upperRow.board .X, .threeInARow, 6⟩ := by decide
  refine ⟨hpasses, hstatus, by decide, (verified_sound_iff hpasses).mpr fun h => ?_⟩
  cases h with
  | early hactive | exhausted hactive | won hactive =>
    rw [hstatus] at hactive
    cases hactive
  | missing _ hnone =>
    rw [hresult] at hnone
    cases hnone
  | lineless _ _ _ hother => exact hother hstatus
  | crooked result line hr _ hline hnone =>
    obtain rfl := Option.some.inj (hresult.symm.trans hr)
    have hfound : detectWin upperRow.board .X = some line := hline
    exact hnone ⟨line, List.mem_of_find?_eq_some hfound, fun p => Iff.rfl⟩
  | drawn result hr hdraw =>
    obtain rfl := Option.some.inj (hresult.symm.trans hr)
    cases hdraw

end TicTacToe
