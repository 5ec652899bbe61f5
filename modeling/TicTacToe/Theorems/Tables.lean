import Mathlib.Data.Fintype.Prod
import TicTacToe.Lib.Table
import TicTacToe.Theorems.Authenticity
import TicTacToe.Theorems.Proposals
import TicTacToe.Theorems.RoomRecords

/-! # The table of a room

A room seen as a table: who sits where, who is ready, and the match. What the room's record, its proposal and its game go
through is what can be done at a table. -/

namespace TicTacToe

/-! ### Matches -/

/-- Three in a row; the players open in turn, and `X` opens the first match. -/
def tableRules : Table.Rules (BoardIndex × BoardIndex) PlayerSymbol := ⟨Table.gridLines 3, opponent, .X⟩

/-- The marks on a board. -/
def marksOf (board : BoardSnapshot) (c : BoardIndex × BoardIndex) : Option PlayerSymbol :=
  match boardAt board ⟨c.1, c.2⟩ with
  | .empty => none
  | .mark x => some x

def GameResult.verdict (result : GameResult) : Table.Verdict PlayerSymbol :=
  match result.outcome, result.winner with
  | .win, some x => .won x
  | .win, none => .drawn
  | .draw, _ => .drawn
  | .forfeit, winner => .resigned (winner.map opponent)
  | .abandoned, winner => .away (winner.map opponent)

def GameState.toMatch (state : GameState) : Table.Match (BoardIndex × BoardIndex) PlayerSymbol PlayerId where
  holder := state.holder
  first := state.firstTurn
  turn := state.currentTurn
  board := marksOf state.board
  verdict := state.result.map GameResult.verdict

section Marks
variable {board : BoardSnapshot} {c : BoardIndex × BoardIndex} {x : PlayerSymbol} {row col : BoardIndex}

theorem marksOf_eq_some : marksOf board c = some x ↔ boardAt board ⟨c.1, c.2⟩ = .mark x := by
  unfold marksOf
  cases boardAt board ⟨c.1, c.2⟩ <;> simp

theorem marksOf_eq_none : marksOf board c = none ↔ boardAt board ⟨c.1, c.2⟩ = .empty := by
  unfold marksOf
  cases boardAt board ⟨c.1, c.2⟩ <;> simp

theorem marksOf_applyMark : marksOf (applyMarkToBoard board row col x) =
    Table.assign (marksOf board) (row, col) (some x) := by
  funext c
  by_cases hc : c = (row, col)
  · subst hc
    rw [Table.assign_self, marksOf_eq_some, boardAt]
    simp [applyMarkToBoard]
  · rw [Table.assign_of_ne hc]
    have hother : positionToIndex c.1 c.2 ≠ positionToIndex row col := by
      intro he
      obtain ⟨hrow, hcol⟩ := BoardPosition.mk.inj (positionToIndex_inj (p := ⟨c.1, c.2⟩) (q := ⟨row, col⟩) he)
      exact hc (Prod.ext hrow hcol)
    simp only [marksOf, boardAt, applyMarkToBoard, if_neg hother]

/-- The engine's lines are those of the board. -/
theorem mem_gridLines_iff {line : Set (BoardIndex × BoardIndex)} : line ∈ Table.gridLines 3 ↔
    ∃ l ∈ ALL_WINNING_LINES, line = {c | (⟨c.1, c.2⟩ : BoardPosition) ∈ l.cells} := by
  have hcells : ∀ (l : WinningLine) (P : BoardIndex × BoardIndex → Prop),
      (∀ c, P c ↔ (⟨c.1, c.2⟩ : BoardPosition) ∈ l.cells) → {c | P c} = {c | (⟨c.1, c.2⟩ : BoardPosition) ∈ l.cells} :=
    fun l P h => Set.ext h
  constructor
  · rintro (⟨i, rfl⟩ | ⟨j, rfl⟩ | rfl | rfl)
    · refine ⟨⟨.row, ⟨i, 0⟩, ⟨i, 1⟩, ⟨i, 2⟩⟩, ?_, hcells _ _ ?_⟩
      · revert i
        decide
      · revert i
        decide
    · refine ⟨⟨.col, ⟨0, j⟩, ⟨1, j⟩, ⟨2, j⟩⟩, ?_, hcells _ _ ?_⟩
      · revert j
        decide
      · revert j
        decide
    · exact ⟨⟨.diagonal, ⟨0, 0⟩, ⟨1, 1⟩, ⟨2, 2⟩⟩, by decide, hcells _ _ (by decide)⟩
    · exact ⟨⟨.diagonal, ⟨0, 2⟩, ⟨1, 1⟩, ⟨2, 0⟩⟩, by decide, hcells _ _ (by decide)⟩
  · rintro ⟨l, hl, rfl⟩
    have hshape : ∀ l ∈ ALL_WINNING_LINES,
        (∃ i, ∀ c : BoardIndex × BoardIndex, (⟨c.1, c.2⟩ : BoardPosition) ∈ l.cells ↔ c.1 = i) ∨
        (∃ j, ∀ c : BoardIndex × BoardIndex, (⟨c.1, c.2⟩ : BoardPosition) ∈ l.cells ↔ c.2 = j) ∨
        (∀ c : BoardIndex × BoardIndex, (⟨c.1, c.2⟩ : BoardPosition) ∈ l.cells ↔ c.1 = c.2) ∨
        ∀ c : BoardIndex × BoardIndex, (⟨c.1, c.2⟩ : BoardPosition) ∈ l.cells ↔ c.1.rev = c.2 := by
      decide
    rcases hshape l hl with ⟨i, h⟩ | ⟨j, h⟩ | h | h
    · exact Or.inl ⟨i, Set.ext h⟩
    · exact Or.inr (Or.inl ⟨j, Set.ext h⟩)
    · exact Or.inr (Or.inr (Or.inl (Set.ext h)))
    · exact Or.inr (Or.inr (Or.inr (Set.ext h)))

/-- Who has a line for the engine owns a line of the board. -/
theorem hasLine_iff_owns : HasLine board x ↔ ∃ line ∈ Table.gridLines 3, Table.Owns (marksOf board) x line := by
  constructor
  · rintro ⟨l, hl, hoccupied⟩
    exact ⟨_, mem_gridLines_iff.mpr ⟨l, hl, rfl⟩, fun c hc => marksOf_eq_some.mpr (hoccupied _ hc)⟩
  · rintro ⟨line, hline, howns⟩
    obtain ⟨l, hl, rfl⟩ := mem_gridLines_iff.mp hline
    exact ⟨l, hl, fun p hp => marksOf_eq_some.mp (howns (p.row, p.col) hp)⟩

theorem marksOf_full : isBoardFull board = true ↔ ∀ c, marksOf board c ≠ none := by
  rw [isBoardFull_iff]
  constructor
  · intro h c hc
    exact h _ (marksOf_eq_none.mp hc)
  · intro h i hi
    have hcover : ∀ i, ∃ row col, positionToIndex row col = i := by decide
    obtain ⟨row, col, rfl⟩ := hcover i
    exact h (row, col) (marksOf_eq_none.mpr hi)

/-- What the engine makes of a new mark. -/
theorem judge_eq : tableRules.judge (marksOf board) x = if (detectWin board x).isSome then some (.won x)
    else if isBoardFull board then some .drawn else none := by
  cases hwin : detectWin board x with
  | some line =>
    obtain ⟨hline, hoccupied⟩ := detectWin_some hwin
    obtain ⟨cells, hcells, howns⟩ := hasLine_iff_owns.mp ⟨line, hline, hoccupied⟩
    exact Table.Rules.judge_won hcells howns
  | none =>
    have hno : ∀ line ∈ Table.gridLines 3, ¬Table.Owns (marksOf board) x line := fun line hline howns =>
      detectWin_eq_none.mp hwin (hasLine_iff_owns.mpr ⟨line, hline, howns⟩)
    cases hfull : isBoardFull board with
    | true => exact Table.Rules.judge_drawn hno (marksOf_full.mp hfull)
    | false =>
      obtain ⟨c, hc⟩ := not_forall_not.mp fun h => Bool.eq_false_iff.mp hfull (marksOf_full.mpr h)
      exact Table.Rules.judge_open hno hc

end Marks

section Moves
variable {s t : GameState} {c : MakeMoveCommand} {made : MoveMade} {ended : Option GameEnded}

theorem AcceptedMove.legal (h : AcceptedMove s c t made ended) :
    LegalMove s made.symbol (toBoardIndex c.row) (toBoardIndex c.col) := by
  rcases applyMove_cases s c with ⟨reason, he⟩ | ⟨symbol, hsymbol, -, hlegal, -⟩
  · have hsame : t = s := by rw [h.state, he]; rfl
    exact absurd h.free (hsame ▸ h.cell)
  · obtain rfl := Option.some.inj (hsymbol.symm.trans h.mover)
    exact hlegal

/-- An accepted move is a mark in the match, of the player whose turn it is. -/
theorem AcceptedMove.mark (h : AcceptedMove s c t made ended) (hresult : s.result = none) :
    t.toMatch = s.toMatch.mark tableRules (toBoardIndex c.row, toBoardIndex c.col) := by
  have hlegal := h.legal
  obtain ⟨-, rfl⟩ := h.accepts
  generalize toBoardIndex c.row = row at hlegal ⊢
  generalize toBoardIndex c.col = col at hlegal ⊢
  generalize made.symbol = x at hlegal ⊢
  obtain rfl := hlegal.turn
  have hjudge : tableRules.judge (marksOf (applyMarkToBoard s.board row col s.currentTurn)) s.currentTurn = _ := judge_eq
  rw [marksOf_applyMark] at hjudge
  have hmark : ∀ verdict, tableRules.judge (Table.assign (marksOf s.board) (row, col) (some s.currentTurn)) s.currentTurn =
      verdict → s.toMatch.mark tableRules (row, col) = { s.toMatch with
        board := Table.assign (marksOf s.board) (row, col) (some s.currentTurn)
        turn := if verdict = none then opponent s.currentTurn else s.currentTurn
        verdict := verdict } := fun verdict hv => hv ▸ rfl
  rcases acceptMove_cases s s.currentTurn row col c.timestamp with ⟨line, hwin, he⟩ | ⟨hno, hfull, he⟩ | ⟨hno, hfull, he⟩
  · rw [hwin, Option.isSome_some, if_pos rfl] at hjudge
    rw [he, hmark _ hjudge, ← marksOf_applyMark]
    rfl
  · rw [hno, Option.isSome_none, if_neg Bool.false_ne_true, if_pos hfull] at hjudge
    rw [he, hmark _ hjudge, ← marksOf_applyMark]
    rfl
  · rw [hno, Option.isSome_none, if_neg Bool.false_ne_true, if_neg (Bool.eq_false_iff.mp hfull)] at hjudge
    rw [he, hmark _ hjudge, ← marksOf_applyMark]
    simp only [MakeMoveResult.newState, GameState.toMatch, placeMark, hresult, Option.map_none]
    rfl

end Moves

/-! ### Tables -/

/-- The table that a room is. -/
def RoomView.table (v : RoomView) : Table.State (BoardIndex × BoardIndex) PlayerSymbol PlayerId where
  seat x := (v.room.bind (RoomRecord.slot · x)).map PlayerSlot.playerId
  ready := {x | ∃ room, v.room = some room ∧ x ∈ room.readySymbols}
  agreed := {x | ∃ proposal, v.proposal = some proposal ∧ x ∈ proposal.acceptedBy}
  current := v.state.map GameState.toMatch

/-- What the server keeps in order about a room: nobody sits twice, the players of a running game are seated, a proposal
counts each symbol once, and a game has a result when it is over. -/
structure RoomView.Tidy (v : RoomView) : Prop where
  distinct : v.Distinct
  seated : v.Seated
  counted : ∀ proposal, v.proposal = some proposal → proposal.acceptedBy ≠ [] ∧ proposal.acceptedBy.Nodup
  decided : ∀ state, v.state = some state →
    (state.status = .active ∧ state.result = none) ∨ (state.status = .finished ∧ state.result ≠ none)

namespace GameSession
variable {gs : GameSession} {now : Millis} {g : GameId} {room : RoomRecord} {firstTurn : PlayerSymbol}

theorem startGame_vacant {x : PlayerSymbol} (h : room.slot x = none) : gs.startGame now g room firstTurn = ⟨gs, []⟩ := by
  rcases startGame_cases gs now g room firstTurn with he | ⟨_, _, hX, hO, -⟩
  · exact he
  · cases x with
    | X => cases hX.symm.trans h
    | O => cases hO.symm.trans h

end GameSession

namespace RoomView
variable {v v' : RoomView} {room room' : RoomRecord} {state : GameState} {p : PlayerId} {x : PlayerSymbol} {now : Millis}

theorem table_congr (hroom : v'.room = v.room) (hproposal : v'.proposal = v.proposal) (hstate : v'.state = v.state) :
    v'.table = v.table := by
  simp only [table, hroom, hproposal, hstate]

theorem table_seat (hroom : v.room = some room) (x : PlayerSymbol) :
    v.table.seat x = (room.slot x).map PlayerSlot.playerId := by
  simp only [table, hroom, Option.bind_some]

theorem table_ready (hroom : v.room = some room) : v.table.ready = {x | x ∈ room.readySymbols} := by
  ext x
  simp [table, hroom]

theorem table_agreed {proposal : RematchProposal} (h : v.proposal = some proposal) :
    v.table.agreed = {x | x ∈ proposal.acceptedBy} := by
  ext x
  simp [table, h]

theorem table_agreed_none (h : v.proposal = none) : v.table.agreed = ∅ := by
  ext x
  simp [table, h]

theorem table_current (h : v.state = some state) : v.table.current = some state.toMatch := by
  simp only [table, h, Option.map_some]

/-- The player of a slot sits on its side. -/
theorem table_seat_iff (hroom : v.room = some room) : v.table.seat x = some p ↔ slotHolds (room.slot x) p = true := by
  rw [table_seat hroom, RoomRecord.slotHolds_iff, Option.map_eq_some_iff]

theorem table_seat_of_symbol (hroom : v.room = some room) (h : getSymbolForPlayer room p = some x) :
    v.table.seat x = some p := (table_seat_iff hroom).mpr (RoomRecord.slotHolds_of_symbol h)

theorem Tidy.running (hv : v.Tidy) (hstate : v.state = some state) (hactive : state.status = .active) :
    v.table.running = some state.toMatch := by
  rcases hv.decided state hstate with ⟨-, hnone⟩ | ⟨hfinished, -⟩
  · simp [Table.State.running, table_current hstate, GameState.toMatch, hnone]
  · rw [hactive] at hfinished
    cases hfinished

theorem Tidy.over (hv : v.Tidy) (hstate : v.state = some state) (hfinished : state.status = .finished) :
    v.table.Over := by
  rcases hv.decided state hstate with ⟨hactive, -⟩ | ⟨-, hsome⟩
  · rw [hactive] at hfinished
    cases hfinished
  · exact ⟨state.toMatch, table_current hstate, by simpa [GameState.toMatch] using hsome⟩

theorem Tidy.idle (hv : v.Tidy) (hidle : v.active = false) : v.table.running = none := by
  cases hstate : v.state with
  | none => simp [Table.State.running, table, hstate]
  | some state =>
    rcases hv.decided state hstate with ⟨hactive, -⟩ | ⟨-, hsome⟩
    · simp [active, hstate, hactive] at hidle
    · obtain ⟨result, hresult⟩ := Option.ne_none_iff_exists'.mp hsome
      simp [Table.State.running, table, hstate, GameState.toMatch, hresult]

/-! ### Seats -/

/-- Connections and times are no part of the table. -/
theorem table_eq (hroom : v.room = some room) (hroom' : v'.room = some room')
    (hslots : ∀ x, (room'.slot x).map PlayerSlot.playerId = (room.slot x).map PlayerSlot.playerId)
    (hready : room'.readySymbols = room.readySymbols) (hproposal : v'.proposal = v.proposal)
    (hstate : v'.state = v.state) : v'.table = v.table := by
  refine Table.State.ext (funext fun x => ?_) ?_ (by simp only [table, hproposal]) (by simp only [table, hstate])
  · rw [table_seat hroom, table_seat hroom', hslots]
  · rw [table_ready hroom, table_ready hroom', hready]

theorem table_setConnected (hd : room.Distinct) (b : Bool) (hroom : v.room = some room)
    (hroom' : v'.room = some (room.setConnected now p b)) (hproposal : v'.proposal = v.proposal)
    (hstate : v'.state = v.state) : v'.table = v.table := by
  refine table_eq hroom hroom' (fun x => ?_) (RoomRecord.readySymbols_setConnected _ _ _ _) hproposal hstate
  rw [RoomRecord.setConnected_slot hd]
  split
  · rw [Option.map_map]
    rfl
  · rfl

theorem table_addPlayer {name : Option PlayerName} (hroom : v.room = some room) (hslot : getSlotByPlayerId room p = none)
    (hadd : room.addPlayer now p name = some (x, room')) (hroom' : v'.room = some (room'.touch now))
    (hproposal : v'.proposal = v.proposal) (hstate : v'.state = v.state) :
    Table.Step tableRules v.table (.sit p x) v'.table := by
  obtain ⟨hfree, hslots⟩ := RoomRecord.addPlayer_slot hadd
  have hnew : ∀ y, v.table.seat y ≠ some p := fun y hy => by
    have hempty := RoomRecord.getSlotByPlayerId_none.mp hslot y
    rw [(table_seat_iff hroom).mp hy] at hempty
    cases hempty
  have hvacant : v.table.seat x = none := by rw [table_seat hroom, hfree, Option.map_none]
  have hseat : v'.table.seat = Table.assign v.table.seat x (some p) := by
    funext y
    have hsame : (room'.touch now).slot y = room'.slot y := by cases y <;> rfl
    rw [table_seat hroom', hsame, hslots]
    split
    · rename_i hy
      rw [hy, Table.assign_self]
      rfl
    · rename_i hy
      rw [Table.assign_of_ne hy, table_seat hroom]
  have hready : v'.table.ready = v.table.ready := by
    have hsame : (room'.touch now).readySymbols = room'.readySymbols := rfl
    rw [table_ready hroom', table_ready hroom, hsame, RoomRecord.readySymbols_addPlayer hadd]
  have htable : v'.table = { v.table with seat := Table.assign v.table.seat x (some p) } :=
    Table.State.ext hseat hready (by simp only [table, hproposal]) (by simp only [table, hstate])
  rw [htable]
  exact .sit hnew hvacant

theorem removePlayer_of_stranger (hslot : getSlotByPlayerId room p = none) (now : Millis) :
    room.removePlayer now p = room.touch now := by
  have hX : slotHolds room.playerX p = false := RoomRecord.getSlotByPlayerId_none.mp hslot .X
  have hO : slotHolds room.playerO p = false := RoomRecord.getSlotByPlayerId_none.mp hslot .O
  rw [RoomRecord.removePlayer, if_neg (Bool.eq_false_iff.mp hX), if_neg (Bool.eq_false_iff.mp hO)]

theorem readySymbols_removePlayer (hd : room.Distinct) (now : Millis) (hx : slotHolds (room.slot x) p = true) :
    (room.removePlayer now p).readySymbols = JsSet.delete room.readySymbols x := by
  cases x with
  | X =>
    have hX : slotHolds room.playerX p = true := hx
    rw [RoomRecord.removePlayer, if_pos hX]
  | O =>
    have hO : slotHolds room.playerO p = true := hx
    have hX : slotHolds room.playerX p = false := by
      cases hX : slotHolds room.playerX p with
      | false => rfl
      | true => rw [hd p hX] at hO; cases hO
    rw [RoomRecord.removePlayer, if_neg (by simp [hX]), if_pos hO]

/-- A slot that is freed while no game runs. -/
theorem table_removePlayer (hd : room.Distinct) (hroom : v.room = some room) (hslot : getSlotByPlayerId room p ≠ none)
    (hidle : v.table.running = none) (hroom' : v'.room = some (room.removePlayer now p))
    (hproposal : v'.proposal = v.proposal) (hstate : v'.state = v.state) :
    Table.Step tableRules v.table (.stand p) v'.table := by
  obtain ⟨x, hx⟩ : ∃ x, slotHolds (room.slot x) p = true := by
    by_contra hnone
    refine hslot (RoomRecord.getSlotByPlayerId_none.mpr fun x => ?_)
    exact Bool.eq_false_iff.mpr fun hx => hnone ⟨x, hx⟩
  have hseat : v'.table.seat = Table.assign v.table.seat x none := by
    funext y
    rw [table_seat hroom', RoomRecord.removePlayer_slot hd]
    by_cases hy : y = x
    · subst hy
      rw [if_pos hx, Table.assign_self]
      rfl
    · have hother : slotHolds (room.slot y) p = false := by
        cases hheld : slotHolds (room.slot y) p with
        | false => rfl
        | true =>
          have hsymbol := RoomRecord.getSymbolForPlayer_of_slot hd hheld
          exact absurd (Option.some.inj (hsymbol.symm.trans (RoomRecord.getSymbolForPlayer_of_slot hd hx))) hy
      rw [hother, if_neg Bool.false_ne_true, Table.assign_of_ne hy, table_seat hroom]
  have hready : v'.table.ready = v.table.ready \ {x} := by
    rw [table_ready hroom', table_ready hroom, readySymbols_removePlayer hd now hx]
    ext y
    simp
  have htable : v'.table = { v.table with seat := Table.assign v.table.seat x none, ready := v.table.ready \ {x} } :=
    Table.State.ext hseat hready (by simp only [table, hproposal]) (by simp only [table, hstate])
  rw [htable]
  exact .stand ((table_seat_iff hroom).mpr hx) hidle

/-! ### The end of a match -/

theorem resolveSymbol_of_stranger (h : resolveSymbol state p = none) (y : PlayerSymbol) : state.holder y ≠ p := by
  unfold resolveSymbol at h
  split at h
  · cases h
  · rename_i hX
    split at h
    · cases h
    · rename_i hO
      cases y with
      | X => exact fun he => hX he.symm
      | O => exact fun he => hO he.symm

/-- A running game that a player ends by leaving or by staying away. -/
theorem table_ended {outcome : GameOutcome} {reason : GameEndReason} (hroom : v'.room = v.room)
    (hproposal : v'.proposal = v.proposal) (hstate' : v'.state = some (endGame state outcome reason p now).newState) :
    v'.table = { v.table with current := some { state.toMatch with
      verdict := some (GameResult.verdict ⟨outcome, (resolveSymbol state p).map opponent, none, reason, now⟩) } } := by
  refine Table.State.ext ?_ ?_ (by simp only [table, hproposal]) ?_
  · simp only [table, hroom]
  · simp only [table, hroom]
  · rw [table_current hstate']
    rfl

theorem opponent_opponent_map (x : Option PlayerSymbol) : (x.map opponent).map opponent = x := by
  rw [Option.map_map]
  cases x with
  | none => rfl
  | some x => cases x <;> rfl

theorem running_ended {outcome : GameOutcome} {reason : GameEndReason}
    (hstate' : v'.state = some (endGame state outcome reason p now).newState) : v'.table.running = none := by
  rw [Table.State.running, table_current hstate']
  rfl

theorem table_resigned (hv : v.Tidy) (hholds : v.Holds p) (hroom : v'.room = v.room)
    (hproposal : v'.proposal = v.proposal) (hstate : v.state = some state) (hactive : state.status = .active)
    (hstate' : v'.state = some (endGame state .forfeit .playerForfeited p now).newState) :
    Table.Step tableRules v.table (.resign p) v'.table := by
  obtain ⟨x, hx⟩ : ∃ x, resolveSymbol state p = some x := by
    cases h : resolveSymbol state p with
    | some x => exact ⟨x, rfl⟩
    | none =>
      rcases hv.seated.player hstate hactive hholds with he | he
      · exact absurd he.symm (resolveSymbol_of_stranger h .X)
      · exact absurd he.symm (resolveSymbol_of_stranger h .O)
  rw [table_ended hroom hproposal hstate', hx]
  have hverdict : GameResult.verdict ⟨.forfeit, (some x).map opponent, none, .playerForfeited, now⟩ = .resigned (some x) :=
    congrArg _ (opponent_opponent_map (some x))
  rw [hverdict]
  exact .resign (hv.running hstate hactive) (GameState.holder_of_resolve hx)

theorem table_away (hv : v.Tidy) (hroom : v'.room = v.room) (hproposal : v'.proposal = v.proposal)
    (hstate : v.state = some state) (hactive : state.status = .active)
    (hstate' : v'.state = some (endGame state .abandoned .playerAbandoned p now).newState) :
    Table.Step tableRules v.table (.away p) v'.table := by
  have hverdict : GameResult.verdict ⟨.abandoned, (resolveSymbol state p).map opponent, none, .playerAbandoned, now⟩ =
      .away (resolveSymbol state p) := congrArg _ (opponent_opponent_map _)
  rw [table_ended hroom hproposal hstate', hverdict]
  exact .away (hv.running hstate hactive) (fun y hy => GameState.holder_of_resolve hy)
    fun hnone y => resolveSymbol_of_stranger hnone y

theorem table_marked {id : CommandId} {position : RawPosition} {t : GameState} {made : MoveMade}
    {ended : Option GameEnded} (hv : v.Tidy) (hroom : v'.room = v.room) (hproposal : v'.proposal = v.proposal)
    (hstate : v.state = some state) (hmove : AcceptedMove state ⟨p, position.row, position.col, id, now⟩ t made ended)
    (hstate' : v'.state = some t) :
    Table.Step tableRules v.table (.mark p (toBoardIndex position.row, toBoardIndex position.col)) v'.table := by
  have hnone : state.result = none := by
    rcases hv.decided state hstate with ⟨-, hnone⟩ | ⟨hfinished, -⟩
    · exact hnone
    · rw [hmove.active] at hfinished
      cases hfinished
  have htable : v'.table = { v.table with current := some (state.toMatch.mark tableRules
      (toBoardIndex position.row, toBoardIndex position.col)) } := by
    refine Table.State.ext ?_ ?_ (by simp only [table, hproposal]) ?_
    · simp only [table, hroom]
    · simp only [table, hroom]
    · rw [table_current hstate', hmove.mark hnone]
  rw [htable]
  refine .mark (hv.running hstate hmove.active) ?_ (marksOf_eq_none.mpr hmove.free)
  have hholder := GameState.holder_of_resolve hmove.mover
  rw [hmove.legal.turn] at hholder
  exact hholder

/-! ### The start of a match -/

theorem nextFirst_eq (v : RoomView) : v.table.nextFirst tableRules = Server.readyFirstTurn v.state := by
  unfold Table.State.nextFirst table
  cases v.state with
  | none => rfl
  | some state => cases h : state.firstTurn <;> simp [Server.readyFirstTurn, GameState.toMatch, tableRules, opponent, h]

/-- A game that starts between the players of a room. -/
theorem table_dealt {gs : GameSession} {g : GameId} {playerX playerO : PlayerSlot} {first : PlayerSymbol}
    {agreed : Set PlayerSymbol} (hfirst : v.table.nextFirst tableRules = first)
    (hroom : v.room = some room) (hX : room.playerX = some playerX) (hO : room.playerO = some playerO)
    (hroom' : v'.room = some room') (hslots : ∀ x, room'.slot x = room.slot x) (hready : room'.readySymbols = [])
    (hagreed : v'.table.agreed = agreed) (hstate' : v'.state = some (gs.openingState now g playerX playerO first)) :
    ∃ holder, (∀ x, v.table.seat x = some (holder x)) ∧
      v'.table = { v.table.deal tableRules holder with agreed := agreed } := by
  subst hfirst
  refine ⟨(gs.openingState now g playerX playerO (v.table.nextFirst tableRules)).holder, fun x => ?_, ?_⟩
  · rw [table_seat hroom]
    cases x with
    | X => exact congrArg (Option.map PlayerSlot.playerId) hX
    | O => exact congrArg (Option.map PlayerSlot.playerId) hO
  · refine Table.State.ext (funext fun x => ?_) ?_ hagreed ?_
    · exact (table_seat hroom' x).trans ((congrArg _ (hslots x)).trans (table_seat hroom x).symm)
    · rw [table_ready hroom', hready]
      ext x
      simp [Table.State.deal]
    · rw [table_current hstate']
      rfl

theorem setOf_add (symbols : JsSet PlayerSymbol) (x : PlayerSymbol) :
    {y | y ∈ JsSet.add symbols x} = insert x {y | y ∈ symbols} := by
  ext y
  simp

theorem markReady_ready (room : RoomRecord) (x : PlayerSymbol) :
    {y | y ∈ (room.markReady x).readySymbols} = insert x {y | y ∈ room.readySymbols} := setOf_add _ _

theorem bothReady_iff : room.bothReady = true ↔ ∀ y, y ∈ room.readySymbols := by
  constructor
  · intro h y
    obtain ⟨hX, hO⟩ : .X ∈ room.readySymbols ∧ .O ∈ room.readySymbols := by simpa [RoomRecord.bothReady] using h
    cases y with
    | X => exact hX
    | O => exact hO
  · intro h
    simp [RoomRecord.bothReady, h]

theorem table_readied (hroom : v.room = some room) (hsymbol : getSymbolForPlayer room p = some x)
    (hready : x ∉ room.readySymbols) (hboth : (room.markReady x).bothReady = false)
    (hroom' : v'.room = some (room.markReady x)) (hproposal : v'.proposal = v.proposal) (hstate : v'.state = v.state) :
    Table.Step tableRules v.table (.ready p) v'.table := by
  have htable : v'.table = { v.table with ready := insert x v.table.ready } := by
    refine Table.State.ext (funext fun y => ?_) ?_ (by simp only [table, hproposal]) (by simp only [table, hstate])
    · exact (table_seat hroom' y).trans ((table_seat hroom y).trans (by cases y <;> rfl)).symm
    · rw [table_ready hroom', markReady_ready, ← table_ready hroom]
  have hwait : ∃ y, y ∉ insert x v.table.ready := by
    by_contra hall
    refine Bool.eq_false_iff.mp hboth (bothReady_iff.mpr fun y => ?_)
    have hy : y ∈ {y | y ∈ (room.markReady x).readySymbols} := by
      rw [markReady_ready, ← table_ready hroom]
      exact not_not.mp fun hy => hall ⟨y, hy⟩
    exact hy
  rw [htable]
  refine .ready (table_seat_of_symbol hroom hsymbol) ?_ hwait
  rw [table_ready hroom]
  exact hready

theorem table_started {gs : GameSession} {g : GameId} {playerX playerO : PlayerSlot} {first : PlayerSymbol}
    (hfirst : v.table.nextFirst tableRules = first) (hroom : v.room = some room)
    (hX : room.playerX = some playerX) (hO : room.playerO = some playerO) (hsymbol : getSymbolForPlayer room p = some x)
    (hready : x ∉ room.readySymbols) (hboth : (room.markReady x).bothReady = true)
    (hroom' : v'.room = some (room.markReady x).resetReady) (hproposal : v'.proposal = v.proposal)
    (hstate' : v'.state = some (gs.openingState now g playerX playerO first)) :
    Table.Step tableRules v.table (.ready p) v'.table := by
  have hslots : ∀ y, (room.markReady x).resetReady.slot y = room.slot y := fun y => by cases y <;> rfl
  have hagreed : v'.table.agreed = v.table.agreed := by simp only [table, hproposal]
  obtain ⟨holder, hfull, htable⟩ := table_dealt hfirst hroom hX hO hroom' hslots rfl hagreed hstate'
  have hall : ∀ y, y ∈ insert x v.table.ready := fun y => by
    rw [table_ready hroom, ← markReady_ready]
    exact bothReady_iff.mp hboth y
  rw [htable]
  refine .start (table_seat_of_symbol hroom hsymbol) ?_ hall hfull
  rw [table_ready hroom]
  exact hready

/-! ### Rematches -/

theorem Tidy.finished {g : GameId} (hv : v.Tidy) (h : v.Finished g) : v.table.Over := by
  obtain ⟨state, hstate, hfinished, -⟩ := h
  exact hv.over hstate hfinished

/-- Two symbols are all. -/
theorem length_eq_two_iff {symbols : JsSet PlayerSymbol} (hn : symbols.Nodup) : symbols.length = 2 ↔ ∀ y, y ∈ symbols := by
  constructor
  · intro h y
    obtain ⟨a, b, rfl⟩ := List.length_eq_two.mp h
    cases a <;> cases b <;> cases y <;> simp_all
  · intro h
    have hle : symbols.length ≤ [PlayerSymbol.X, .O].length :=
      (List.subperm_of_subset hn fun y _ => by cases y <;> simp).length_le
    have hge : [PlayerSymbol.X, .O].length ≤ symbols.length :=
      (List.subperm_of_subset (by simp) fun y _ => h y).length_le
    exact Nat.le_antisymm hle hge

theorem Tidy.asked {proposal : RematchProposal} (hv : v.Tidy) (h : v.proposal = some proposal) :
    v.table.agreed.Nonempty := by
  obtain ⟨y, hy⟩ := List.exists_mem_of_ne_nil _ (hv.counted proposal h).1
  exact ⟨y, (table_agreed h).symm ▸ hy⟩

theorem table_asked {g : GameId} {proposal : RematchProposal} (hv : v.Tidy) (hroom : v.room = some room)
    (hsymbol : getSymbolForPlayer room p = some x) (hfinished : v.Finished g) (hnone : v.proposal = none)
    (hroom' : v'.room = v.room) (hproposal' : v'.proposal = some proposal) (haccepted : proposal.acceptedBy = [x])
    (hstate : v'.state = v.state) : Table.Step tableRules v.table (.ask p) v'.table := by
  have htable : v'.table = { v.table with agreed := {x} } := by
    refine Table.State.ext (by simp only [table, hroom']) (by simp only [table, hroom']) ?_ (by simp only [table, hstate])
    rw [table_agreed hproposal', haccepted]
    ext y
    simp
  rw [htable]
  exact .ask (table_seat_of_symbol hroom hsymbol) (hv.finished hfinished) (table_agreed_none hnone)

theorem table_noted {g : GameId} {proposal proposal' : RematchProposal} (hv : v.Tidy) (hroom : v.room = some room)
    (hsymbol : getSymbolForPlayer room p = some x) (hfinished : v.Finished g) (hproposal : v.proposal = some proposal)
    (hboth : (JsSet.add proposal.acceptedBy x).length ≠ 2) (hroom' : v'.room = v.room)
    (hproposal' : v'.proposal = some proposal') (haccepted : proposal'.acceptedBy = JsSet.add proposal.acceptedBy x)
    (hstate : v'.state = v.state) : Table.Step tableRules v.table (.agree p) v'.table := by
  have hagreed : v'.table.agreed = insert x v.table.agreed := by
    rw [table_agreed hproposal', haccepted, setOf_add, ← table_agreed hproposal]
  have htable : v'.table = { v.table with agreed := insert x v.table.agreed } :=
    Table.State.ext (by simp only [table, hroom']) (by simp only [table, hroom']) hagreed (by simp only [table, hstate])
  have hwait : ∃ y, y ∉ insert x v.table.agreed := by
    by_contra hall
    refine hboth ((length_eq_two_iff (JsSet.nodup_add (hv.counted proposal hproposal).2)).mpr fun y => ?_)
    have hy : y ∈ {y | y ∈ JsSet.add proposal.acceptedBy x} := by
      rw [setOf_add, ← table_agreed hproposal]
      exact not_not.mp fun hy => hall ⟨y, hy⟩
    exact hy
  rw [htable]
  exact .agree (table_seat_of_symbol hroom hsymbol) (hv.finished hfinished) (hv.asked hproposal) hwait

/-- The accept that completes the proposal: another match begins, if nobody has left. -/
theorem table_accepted {gs : GameSession} {g : GameId} {proposal : RematchProposal} {gameId : GameId}
    {first : PlayerSymbol} (hv : v.Tidy) (hfirst : v.table.nextFirst tableRules = first)
    (hroom : v.room = some room) (hsymbol : getSymbolForPlayer room p = some x) (hfinished : v.Finished g)
    (hproposal : v.proposal = some proposal) (hboth : (JsSet.add proposal.acceptedBy x).length = 2)
    (hrematch : gs.rematch = none) (hold : gs.gameState = v.state) (hroom' : v'.room = some room.resetReady)
    (hgame' : v'.game = some (gs.startGame now gameId room.resetReady first).session) :
    Table.Step tableRules v.table (.agree p) v'.table := by
  have hseat := table_seat_of_symbol hroom hsymbol
  have hall : ∀ y, y ∈ insert x v.table.agreed := fun y => by
    rw [table_agreed hproposal, ← setOf_add]
    exact (length_eq_two_iff (JsSet.nodup_add (hv.counted proposal hproposal).2)).mp hboth y
  have hslots : ∀ y, room.resetReady.slot y = room.slot y := fun y => by cases y <;> rfl
  have hproposal' : v'.proposal = none := by
    rw [proposal_of_game hgame', GameSession.startGame_rematch, hrematch]
  have hagreed : v'.table.agreed = ∅ := table_agreed_none hproposal'
  by_cases hfull : ∃ playerX playerO, room.playerX = some playerX ∧ room.playerO = some playerO
  · obtain ⟨playerX, playerO, hX, hO⟩ := hfull
    have hstate' : v'.state = some (gs.openingState now gameId playerX playerO first) := by
      have hX' : room.resetReady.playerX = some playerX := hX
      rw [state_of_game hgame', (GameSession.startGame_started _ _ _ _ hX' hO).1]
    obtain ⟨holder, hseats, htable⟩ := table_dealt hfirst hroom hX hO hroom' hslots rfl hagreed hstate'
    rw [htable]
    exact .again hseat (hv.finished hfinished) (hv.asked hproposal) hall hseats
  · obtain ⟨y, hy⟩ : ∃ y, room.slot y = none := by
      by_contra hnone
      obtain ⟨playerX, hX⟩ := Option.ne_none_iff_exists'.mp fun h => hnone ⟨.X, h⟩
      obtain ⟨playerO, hO⟩ := Option.ne_none_iff_exists'.mp fun h => hnone ⟨.O, h⟩
      exact hfull ⟨playerX, playerO, hX, hO⟩
    have hstate' : v'.state = v.state := by
      rw [state_of_game hgame', GameSession.startGame_vacant ((hslots y).trans hy), hold]
    have htable : v'.table = { v.table with ready := ∅, agreed := ∅ } := by
      refine Table.State.ext (funext fun z => ?_) ?_ hagreed (by simp only [table, hstate'])
      · exact (table_seat hroom' z).trans ((congrArg _ (hslots z)).trans (table_seat hroom z).symm)
      · rw [table_ready hroom']
        ext z
        simp [RoomRecord.resetReady]
    have hvacant : v.table.seat y = none := by rw [table_seat hroom, hy, Option.map_none]
    rw [htable]
    exact .fizzle hseat (hv.finished hfinished) (hv.asked hproposal) hall hvacant

theorem table_dropped (hroom' : v'.room = v.room) (hproposal' : v'.proposal = none) (hstate : v'.state = v.state) :
    v'.table = { v.table with agreed := ∅ } :=
  Table.State.ext (by simp only [table, hroom']) (by simp only [table, hroom']) (table_agreed_none hproposal')
    (by simp only [table, hstate])

theorem table_declined (hroom : v.room = some room) (hsymbol : getSymbolForPlayer room p = some x)
    (hasked : v.table.agreed.Nonempty) (hroom' : v'.room = v.room) (hproposal' : v'.proposal = none)
    (hstate : v'.state = v.state) : Table.Step tableRules v.table (.decline p) v'.table := by
  rw [table_dropped hroom' hproposal' hstate]
  exact .decline (table_seat_of_symbol hroom hsymbol) hasked

theorem table_lapsed (hasked : v.table.agreed.Nonempty) (hroom' : v'.room = v.room) (hproposal' : v'.proposal = none)
    (hstate : v'.state = v.state) : Table.Step tableRules v.table .lapse v'.table := by
  rw [table_dropped hroom' hproposal' hstate]
  exact .lapse hasked

end RoomView

end TicTacToe
