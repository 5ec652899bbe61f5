import Mathlib.Data.List.Nodup
import Mathlib.Data.List.FinRange
import TicTacToe.Game.Engine

/-! # The engine's states are valid

`verifyInvariants` returns the empty list exactly on the states that satisfy `Consistent`, and every
transition of the engine keeps `Consistent`. -/

namespace TicTacToe
variable {s t : GameState}

/-! ### What the verifier checks -/

/-- The shape of a result against the final board. -/
structure ResultConsistent (board : BoardSnapshot) (r : GameResult) : Prop where
  win : r.outcome = .win → ∃ line winner, r.winningLine = some line ∧ r.winner = some winner ∧
    ∀ p ∈ line.cells, boardAt board p = .mark winner
  draw : r.outcome = .draw → r.winner = none ∧ isBoardFull board = true
  ended : r.outcome = .forfeit ∨ r.outcome = .abandoned → r.winner ≠ none

/-- The history determines the board, numbers its moves and alternates the symbols. -/
structure HistoryConsistent (s : GameState) : Prop where
  marks : markCount s.board = s.moveHistory.length
  numbered : ∀ i r, s.moveHistory[i]? = some r →
    r.sequenceInGame = i + 1 ∧ r.symbol = expectedSymbol s.firstTurn i
  board : boardFromHistory s.moveHistory = s.board
  firstMove : s.moveHistory = [] ↔ s.firstMoveAt = none

/-- A valid state. -/
structure Consistent (s : GameState) : Prop extends HistoryConsistent s where
  turn : s.status = .active → s.currentTurn = expectedSymbol s.firstTurn s.moveHistory.length
  result : s.status = .finished → ∀ r, s.result = some r → ResultConsistent s.board r
  endedAt : s.status = .finished ↔ s.endedAt ≠ none

theorem violationIf_eq_nil {bad : Prop} [Decidable bad] {i d : String} : violationIf bad i d = [] ↔ ¬ bad := by
  unfold violationIf
  split <;> simp_all

theorem cellViolations_eq_nil (s : GameState) : cellViolations s = [] := by
  simp only [cellViolations, List.flatMap_eq_nil_iff, violationIf_eq_nil]
  intro i _ ⟨h, hX, hO⟩
  cases hc : s.board i with
  | empty => exact h hc
  | mark symbol =>
    cases symbol
    · exact hX hc
    · exact hO hc

theorem historyViolations_eq_nil : historyViolations s = [] ↔ ∀ i r, s.moveHistory[i]? = some r →
    r.sequenceInGame = i + 1 ∧ r.symbol = expectedSymbol s.firstTurn i := by
  simp only [historyViolations, List.flatMap_eq_nil_iff, List.append_eq_nil_iff, violationIf_eq_nil,
    Decidable.not_not, Prod.forall, List.mem_zipIdx_iff_getElem?]
  exact ⟨fun h i r hr => h r i hr, fun h r i hr => h i r hr⟩

theorem boardViolations_eq_nil : boardViolations s = [] ↔ boardFromHistory s.moveHistory = s.board := by
  simp only [boardViolations, List.flatMap_eq_nil_iff, violationIf_eq_nil, Decidable.not_not]
  exact ⟨fun h => funext fun i => h i (List.mem_finRange i), fun h i _ => congrFun h i⟩

theorem winningLineViolations_eq_nil {line : WinningLine} {winner : PlayerSymbol} :
    winningLineViolations s line winner = [] ↔ ∀ p ∈ line.cells, boardAt s.board p = .mark winner := by
  simp only [winningLineViolations, List.flatMap_eq_nil_iff, violationIf_eq_nil, Decidable.not_not]

theorem finishedResultViolations_eq_nil {r : GameResult} :
    finishedResultViolations s r = [] ↔ ResultConsistent s.board r := by
  simp only [finishedResultViolations, List.append_eq_nil_iff, violationIf_eq_nil, and_assoc]
  constructor
  · rintro ⟨hline, hdraw, hended, hwinner, hfull, hcells⟩
    refine ⟨fun ho => ?_, fun ho => ⟨by simpa [ho] using hdraw, by simpa [ho] using hfull⟩, fun ho hw => hended ⟨ho, hw⟩⟩
    cases hl : r.winningLine with
    | none => exact absurd ⟨ho, hl⟩ hline
    | some line =>
      cases hw : r.winner with
      | none => exact absurd ⟨ho, hw⟩ hwinner
      | some winner =>
        simp only [ho, hl, hw] at hcells
        exact ⟨line, winner, rfl, rfl, winningLineViolations_eq_nil.mp hcells⟩
  · rintro ⟨hwin, hdraw, hended⟩
    refine ⟨?_, ?_, fun h => hended h.1 h.2, ?_, ?_, ?_⟩
    · rintro ⟨ho, hl⟩
      obtain ⟨line, winner, hl', -⟩ := hwin ho
      simp [hl] at hl'
    · rintro ⟨ho, hw⟩
      exact hw (hdraw ho).1
    · rintro ⟨ho, hw⟩
      obtain ⟨line, winner, -, hw', -⟩ := hwin ho
      simp [hw] at hw'
    · rintro ⟨ho, hf⟩
      simp [(hdraw ho).2] at hf
    · split
      · rename_i line winner ho hl hw
        obtain ⟨line', winner', hl', hw', hc⟩ := hwin ho
        obtain rfl : line = line' := Option.some.inj (hl.symm.trans hl')
        obtain rfl : winner = winner' := Option.some.inj (hw.symm.trans hw')
        exact winningLineViolations_eq_nil.mpr hc
      · rfl

theorem resultViolations_eq_nil : resultViolations s = [] ↔
    (s.status = .finished → ∀ r, s.result = some r → ResultConsistent s.board r) := by
  unfold resultViolations
  split
  · rename_i r hs hr
    simp [hs, hr, finishedResultViolations_eq_nil]
  · rename_i hno
    exact ⟨fun _ hs r hr => absurd hr (hno r hs), fun _ => rfl⟩

theorem firstMoveViolations_eq_nil :
    firstMoveViolations s = [] ↔ (s.moveHistory = [] ↔ s.firstMoveAt = none) := by
  simp only [firstMoveViolations, List.append_eq_nil_iff, violationIf_eq_nil, List.length_eq_zero_iff,
    List.length_pos_iff]
  tauto

theorem endedAtViolations_eq_nil : endedAtViolations s = [] ↔ (s.status = .finished ↔ s.endedAt ≠ none) := by
  simp only [endedAtViolations, List.append_eq_nil_iff, violationIf_eq_nil]
  tauto

/-- The verifier reports nothing exactly on the consistent states. -/
theorem verifyInvariants_eq_nil_iff : verifyInvariants s = [] ↔ Consistent s := by
  simp only [verifyInvariants, List.append_eq_nil_iff, cellViolations_eq_nil, historyLengthViolations,
    historyViolations_eq_nil, turnViolations, boardViolations_eq_nil, firstMoveViolations_eq_nil,
    endedAtViolations_eq_nil, resultViolations_eq_nil, violationIf_eq_nil, Decidable.not_not, true_and, not_and]
  exact ⟨fun ⟨⟨⟨⟨⟨⟨hm, hn⟩, ht⟩, hb⟩, hr⟩, hf⟩, he⟩ => ⟨⟨hm, hn, hb, hf⟩, ht, hr, he⟩,
    fun ⟨⟨hm, hn, hb, hf⟩, ht, hr, he⟩ => ⟨⟨⟨⟨⟨⟨hm, hn⟩, ht⟩, hb⟩, hr⟩, hf⟩, he⟩⟩

/-! ### The board -/

theorem boardFromHistory_append (history : List MoveRecord) (record : MoveRecord) :
    boardFromHistory (history ++ [record]) =
      applyMarkToBoard (boardFromHistory history) record.position.row record.position.col record.symbol := by
  simp [boardFromHistory]

theorem applyMarkToBoard_of_ne {board : BoardSnapshot} {row col : BoardIndex} {symbol : PlayerSymbol} {i : Fin 9}
    (h : i ≠ positionToIndex row col) : applyMarkToBoard board row col symbol i = board i := by
  simp [applyMarkToBoard, h]

@[simp] theorem applyMarkToBoard_self (board : BoardSnapshot) (row col : BoardIndex) (symbol : PlayerSymbol) :
    applyMarkToBoard board row col symbol (positionToIndex row col) = .mark symbol := by
  simp [applyMarkToBoard]

/-- A mark on an unoccupied cell keeps every mark of the board. -/
theorem applyMarkToBoard_keeps {board : BoardSnapshot} {row col : BoardIndex} {symbol : PlayerSymbol} {i : Fin 9}
    (hcell : boardAt board ⟨row, col⟩ = .empty) (hi : board i ≠ .empty) :
    applyMarkToBoard board row col symbol i = board i :=
  applyMarkToBoard_of_ne fun h => hi (h ▸ hcell)

theorem markCount_applyMarkToBoard {board : BoardSnapshot} {row col : BoardIndex} {symbol : PlayerSymbol}
    (hcell : boardAt board ⟨row, col⟩ = .empty) :
    markCount (applyMarkToBoard board row col symbol) = markCount board + 1 := by
  -- The marked cells of the new board are the new one and those of the old board.
  have hperm : ((List.finRange 9).filter fun i => applyMarkToBoard board row col symbol i ≠ .empty).Perm
      (positionToIndex row col :: (List.finRange 9).filter fun i => board i ≠ .empty) := by
    refine (List.perm_ext_iff_of_nodup ((List.nodup_finRange 9).filter _) ?_).mpr fun i => ?_
    · simpa [List.nodup_cons, List.nodup_finRange, List.Nodup.filter, boardAt] using hcell
    · by_cases hi : i = positionToIndex row col
      · simp [hi]
      · simp [hi, applyMarkToBoard_of_ne]
  simpa [markCount] using hperm.length_eq

theorem markCount_le (board : BoardSnapshot) : markCount board ≤ 9 := by
  simpa [markCount] using List.length_filter_le (fun i => decide (board i ≠ .empty)) (List.finRange 9)

theorem isBoardFull_iff {board : BoardSnapshot} : isBoardFull board = true ↔ ∀ i, board i ≠ .empty := by
  simp only [isBoardFull, List.all_eq_true, List.mem_ofFn, decide_eq_true_eq]
  exact ⟨fun h i => h _ ⟨i, rfl⟩, fun h _ ⟨i, hi⟩ => hi ▸ h i⟩

theorem detectWin_some {board : BoardSnapshot} {symbol : PlayerSymbol} {line : WinningLine}
    (h : detectWin board symbol = some line) :
    line ∈ ALL_WINNING_LINES ∧ ∀ p ∈ line.cells, boardAt board p = .mark symbol := by
  refine ⟨List.mem_of_find?_eq_some h, ?_⟩
  simpa [List.all_eq_true] using List.find?_some h

/-! ### The transitions -/

theorem expectedSymbol_succ (firstTurn : PlayerSymbol) (n : Nat) :
    expectedSymbol firstTurn (n + 1) = opponent (expectedSymbol firstTurn n) := by
  unfold expectedSymbol
  rcases Nat.mod_two_eq_zero_or_one n with h | h
  · simp [h, show (n + 1) % 2 = 1 by omega]
  · have : opponent (opponent firstTurn) = firstTurn := by cases firstTurn <;> rfl
    simp [h, show (n + 1) % 2 = 0 by omega, this]

/-- What `applyMove` has checked when it accepts a move. -/
structure LegalMove (s : GameState) (symbol : PlayerSymbol) (row col : BoardIndex) : Prop where
  active : s.status = .active
  turn : symbol = s.currentTurn
  cell : boardAt s.board ⟨row, col⟩ = .empty

/-- A move is rejected and changes nothing, or it is legal and carried out. -/
theorem applyMove_cases (s : GameState) (c : MakeMoveCommand) :
    (∃ reason, applyMove s c = .rejected s reason) ∨
    ∃ symbol, resolveSymbol s c.playerId = some symbol ∧ isValidPosition c.row c.col = true ∧
      LegalMove s symbol (toBoardIndex c.row) (toBoardIndex c.col) ∧
      applyMove s c = acceptMove s symbol (toBoardIndex c.row) (toBoardIndex c.col) c.timestamp := by
  unfold applyMove
  split
  · exact Or.inl ⟨_, rfl⟩
  · rename_i hs
    cases hp : resolveSymbol s c.playerId with
    | none => exact Or.inl ⟨_, rfl⟩
    | some symbol =>
      simp only
      split
      · exact Or.inl ⟨_, rfl⟩
      · rename_i ht
        split
        · exact Or.inl ⟨_, rfl⟩
        · rename_i hv
          split
          · exact Or.inl ⟨_, rfl⟩
          · rename_i hc
            exact Or.inr ⟨symbol, rfl, by simpa using hv,
              ⟨Decidable.not_not.mp hs, Decidable.not_not.mp ht, Decidable.not_not.mp hc⟩, rfl⟩

/-- The three outcomes of a legal move. -/
theorem acceptMove_cases (s : GameState) (symbol : PlayerSymbol) (row col : BoardIndex) (ts : Millis) :
    (∃ line, detectWin (applyMarkToBoard s.board row col symbol) symbol = some line ∧
      acceptMove s symbol row col ts = finishMove s symbol row col ts
        (buildEndResult .win .threeInARow (some symbol) (some line) ts)) ∨
    (detectWin (applyMarkToBoard s.board row col symbol) symbol = none ∧
      isBoardFull (applyMarkToBoard s.board row col symbol) = true ∧
      acceptMove s symbol row col ts = finishMove s symbol row col ts
        (buildEndResult .draw .boardFull none none ts)) ∨
    (detectWin (applyMarkToBoard s.board row col symbol) symbol = none ∧
      isBoardFull (applyMarkToBoard s.board row col symbol) = false ∧
      acceptMove s symbol row col ts = .accepted (placeMark s symbol row col ts (opponent symbol))
        [.moveMade (moveEvent s symbol row col (some (opponent symbol)))]) := by
  unfold acceptMove
  dsimp only
  cases hw : detectWin (applyMarkToBoard s.board row col symbol) symbol with
  | some line => exact Or.inl ⟨line, rfl, rfl⟩
  | none =>
    cases hf : isBoardFull (applyMarkToBoard s.board row col symbol)
    · exact Or.inr (Or.inr ⟨rfl, rfl, rfl⟩)
    · exact Or.inr (Or.inl ⟨rfl, rfl, rfl⟩)

/-! ### Every transition keeps the state consistent -/

theorem startGame_consistent (c : StartGameCommand) : Consistent (startGame c).newState where
  marks := rfl
  numbered i r h := by simp [startGame] at h
  board := rfl
  firstMove := by simp [startGame]
  turn _ := by simp [startGame, expectedSymbol]
  result h := by simp [startGame] at h
  endedAt := by simp [startGame]

/-- The board is the one that the history leads to. -/
def GameState.Replays (s : GameState) : Prop := boardFromHistory s.moveHistory = s.board

theorem GameState.Replays.placeMark (h : s.Replays) (symbol : PlayerSymbol) (row col : BoardIndex) (ts : Millis)
    (turn : PlayerSymbol) : (placeMark s symbol row col ts turn).Replays := by
  unfold GameState.Replays TicTacToe.placeMark
  rw [boardFromHistory_append, h]
  rfl

theorem HistoryConsistent.placeMark (h : HistoryConsistent s) {symbol : PlayerSymbol} {row col : BoardIndex}
    (ts : Millis) (turn : PlayerSymbol) (hsymbol : symbol = expectedSymbol s.firstTurn s.moveHistory.length)
    (hcell : boardAt s.board ⟨row, col⟩ = .empty) : HistoryConsistent (placeMark s symbol row col ts turn) where
  marks := by
    simp only [TicTacToe.placeMark, List.length_append, List.length_singleton]
    rw [markCount_applyMarkToBoard hcell, h.marks]
  numbered i r hr := by
    simp only [TicTacToe.placeMark, List.getElem?_append] at hr ⊢
    by_cases hi : i < s.moveHistory.length
    · simp only [hi, ↓reduceIte] at hr
      exact h.numbered i r hr
    · simp only [hi, ↓reduceIte] at hr
      -- Only the new record is left, at the old length.
      have h0 : i = s.moveHistory.length := by
        have := (List.getElem?_eq_some_iff.mp hr).1
        simp at this
        omega
      subst h0
      simp only [Nat.sub_self, List.getElem?_cons_zero, Option.some.injEq] at hr
      subst hr
      exact ⟨rfl, hsymbol⟩
  board := GameState.Replays.placeMark h.board symbol row col ts turn
  firstMove := by simp [TicTacToe.placeMark]

theorem HistoryConsistent.finish (h : HistoryConsistent s) {r : GameResult} (hr : ResultConsistent s.board r)
    (ts : Millis) : Consistent (buildFinishedState s r ts) where
  marks := h.marks
  numbered := h.numbered
  board := h.board
  firstMove := h.firstMove
  turn hs := by simp [buildFinishedState] at hs
  result _ r' hr' := by
    obtain rfl : r = r' := Option.some.inj hr'
    exact hr
  endedAt := by simp [buildFinishedState]

theorem ResultConsistent.of_win {board : BoardSnapshot} {symbol : PlayerSymbol} {line : WinningLine}
    (h : ∀ p ∈ line.cells, boardAt board p = .mark symbol) (ts : Millis) :
    ResultConsistent board (buildEndResult .win .threeInARow (some symbol) (some line) ts) where
  win _ := ⟨line, symbol, rfl, rfl, h⟩
  draw ho := by cases ho
  ended ho := by rcases ho with ho | ho <;> cases ho

theorem ResultConsistent.of_draw {board : BoardSnapshot} (h : isBoardFull board = true) (ts : Millis) :
    ResultConsistent board (buildEndResult .draw .boardFull none none ts) where
  win ho := by cases ho
  draw _ := ⟨rfl, h⟩
  ended ho := by rcases ho with ho | ho <;> cases ho

theorem acceptMove_consistent (h : Consistent s) {symbol : PlayerSymbol} {row col : BoardIndex}
    (hl : LegalMove s symbol row col) (ts : Millis) : Consistent (acceptMove s symbol row col ts).newState := by
  have hsymbol : symbol = expectedSymbol s.firstTurn s.moveHistory.length := hl.turn.trans (h.turn hl.active)
  have hplaced := fun turn => h.toHistoryConsistent.placeMark ts turn hsymbol hl.cell
  rcases acceptMove_cases s symbol row col ts with ⟨line, hw, he⟩ | ⟨-, hf, he⟩ | ⟨-, -, he⟩
  · rw [he]
    exact (hplaced symbol).finish (.of_win (detectWin_some hw).2 ts) ts
  · rw [he]
    exact (hplaced symbol).finish (.of_draw hf ts) ts
  · rw [he]
    have hactive : (placeMark s symbol row col ts (opponent symbol)).status = .active := hl.active
    refine ⟨hplaced (opponent symbol), fun _ => ?_, fun hs => ?_, ?_⟩
    · calc opponent symbol = opponent (expectedSymbol s.firstTurn s.moveHistory.length) := by rw [← hsymbol]
        _ = expectedSymbol s.firstTurn (s.moveHistory.length + 1) := (expectedSymbol_succ _ _).symm
        _ = _ := by simp [MakeMoveResult.newState, placeMark]
    · exact absurd (hactive.symm.trans hs) (by decide)
    · have hend := h.endedAt
      simpa [MakeMoveResult.newState, placeMark, hl.active] using hend

theorem applyMove_consistent (h : Consistent s) (c : MakeMoveCommand) : Consistent (applyMove s c).newState := by
  rcases applyMove_cases s c with ⟨reason, he⟩ | ⟨symbol, -, -, hl, he⟩
  · rw [he]
    exact h
  · rw [he]
    exact acceptMove_consistent h hl c.timestamp

/-- Ending a running game on behalf of one of its players. -/
theorem endGame_consistent (h : Consistent s) {outcome : GameOutcome} {reason : GameEndReason} {p : PlayerId}
    (ho : outcome = .forfeit ∨ outcome = .abandoned) (hp : p = s.playerX ∨ p = s.playerO) (ts : Millis) :
    Consistent (endGame s outcome reason p ts).newState := by
  have hwinner : (resolveSymbol s p).map opponent ≠ none := by
    unfold resolveSymbol
    by_cases hX : p = s.playerX
    · simp [hX]
    · have hO : p = s.playerO := hp.resolve_left hX
      rw [if_neg hX, if_pos hO]
      simp
  refine h.toHistoryConsistent.finish ⟨fun hw => ?_, fun hd => ?_, fun _ => hwinner⟩ ts
  · rcases ho with rfl | rfl <;> cases hw
  · rcases ho with rfl | rfl <;> cases hd

theorem GameState.Replays.applyMove (h : s.Replays) (c : MakeMoveCommand) : (applyMove s c).newState.Replays := by
  rcases applyMove_cases s c with ⟨reason, he⟩ | ⟨symbol, -, -, -, he⟩
  · rw [he]
    exact h
  · rw [he]
    rcases acceptMove_cases s symbol (toBoardIndex c.row) (toBoardIndex c.col) c.timestamp with
      ⟨line, -, ha⟩ | ⟨-, -, ha⟩ | ⟨-, -, ha⟩
    · rw [ha]
      exact h.placeMark symbol _ _ c.timestamp symbol
    · rw [ha]
      exact h.placeMark symbol _ _ c.timestamp symbol
    · rw [ha]
      exact h.placeMark symbol _ _ c.timestamp (opponent symbol)

/-! ### Runs of the engine -/

/-- One call of the engine on a game: any move, or a forfeit or an abandon that one of the two players
issues while the game runs. -/
inductive EngineStep (s : GameState) : GameState → Prop
  | move (c : MakeMoveCommand) : EngineStep s (applyMove s c).newState
  | forfeit (c : ForfeitCommand) (hs : s.status = .active) (hp : c.playerId = s.playerX ∨ c.playerId = s.playerO) :
    EngineStep s (forfeit s c).newState
  | abandon (c : AbandonCommand) (hs : s.status = .active) (hp : c.playerId = s.playerX ∨ c.playerId = s.playerO) :
    EngineStep s (abandon s c).newState

/-- The states of the games that the engine starts. -/
inductive EngineReachable : GameState → Prop
  | start (c : StartGameCommand) : EngineReachable (startGame c).newState
  | rematch (previous : GameState) (gameId : GameId) (ts : Millis) :
    EngineReachable (createRematch previous gameId ts).newState
  | step {s t : GameState} (hr : EngineReachable s) (hs : EngineStep s t) : EngineReachable t

theorem EngineStep.consistent (hs : EngineStep s t) (h : Consistent s) : Consistent t := by
  cases hs with
  | move c => exact applyMove_consistent h c
  | forfeit c _ hp => exact endGame_consistent h (Or.inl rfl) hp c.timestamp
  | abandon c _ hp => exact endGame_consistent h (Or.inr rfl) hp c.timestamp

theorem EngineReachable.consistent (h : EngineReachable s) : Consistent s := by
  induction h with
  | start c => exact startGame_consistent c
  | rematch previous gameId ts => exact startGame_consistent _
  | step _ hs ih => exact hs.consistent ih

/-- An extension of a game: the history grows at its end and marks stay where they are. -/
structure GameState.Extends (s t : GameState) : Prop where
  history : s.moveHistory <+: t.moveHistory
  cells : ∀ i, s.board i ≠ .empty → t.board i = s.board i

theorem GameState.Extends.refl (s : GameState) : s.Extends s := ⟨List.prefix_refl _, fun _ _ => rfl⟩

theorem acceptMove_extends {symbol : PlayerSymbol} {row col : BoardIndex} (hl : LegalMove s symbol row col)
    (ts : Millis) : s.Extends (acceptMove s symbol row col ts).newState := by
  have hplaced : ∀ turn, s.Extends (placeMark s symbol row col ts turn) := fun turn =>
    ⟨List.prefix_append _ _, fun i hi => applyMarkToBoard_keeps hl.cell hi⟩
  rcases acceptMove_cases s symbol row col ts with ⟨line, -, he⟩ | ⟨-, -, he⟩ | ⟨-, -, he⟩ <;> rw [he] <;>
    exact ⟨(hplaced symbol).history, (hplaced symbol).cells⟩

theorem EngineStep.extends (hs : EngineStep s t) : s.Extends t := by
  cases hs with
  | move c =>
    rcases applyMove_cases s c with ⟨reason, he⟩ | ⟨symbol, -, -, hl, he⟩
    · rw [he]
      exact .refl s
    · rw [he]
      exact acceptMove_extends hl c.timestamp
  | forfeit c => exact ⟨List.prefix_refl _, fun _ _ => rfl⟩
  | abandon c => exact ⟨List.prefix_refl _, fun _ _ => rfl⟩

/-- The verifier accepts every state of every run; each step only appends to the history and never
changes a mark on the board. -/
theorem engine_run_valid (h : EngineReachable s) : verifyInvariants s = [] ∧ ∀ t, EngineStep s t →
    verifyInvariants t = [] ∧ s.moveHistory <+: t.moveHistory ∧ ∀ i, s.board i ≠ .empty → t.board i = s.board i :=
  ⟨verifyInvariants_eq_nil_iff.mpr h.consistent, fun _ hs =>
    ⟨verifyInvariants_eq_nil_iff.mpr (hs.consistent h.consistent), hs.extends.history, hs.extends.cells⟩⟩

/-- A game of one move, then a forfeit. -/
theorem engine_run_valid_opening :
    let s₀ := (startGame ⟨"g", "r", "p", "q", .X, 1⟩).newState
    let s₁ := (applyMove s₀ ⟨"p", .ofNat 1, .ofNat 1, "c", 2⟩).newState
    verifyInvariants s₁ = [] ∧ ∀ t, EngineStep s₁ t →
      verifyInvariants t = [] ∧ s₁.moveHistory <+: t.moveHistory ∧ ∀ i, s₁.board i ≠ .empty → t.board i = s₁.board i :=
  engine_run_valid (.step (.start _) (.move _))

end TicTacToe
