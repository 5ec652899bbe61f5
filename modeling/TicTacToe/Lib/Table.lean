import Mathlib.Data.Set.Insert

/-! # Tables

Players take the sides of a table and agree on a match. In a match the sides put marks on free cells in turn; the first
side that owns a line has won, and a full board is a draw. A match also ends when a player resigns or stays away. -/

namespace Table

structure Rules (Cell Side : Type) where
  lines : Set (Set Cell)
  /-- The side that moves after another one, and that opens the match after one that the other has opened. -/
  next : Side → Side
  /-- The side that opens the first match. -/
  opens : Side

/-- How a match has ended: `side` is the one that has resigned or stayed away, if it is known. -/
inductive Verdict (Side : Type) where
  | won (side : Side)
  | drawn
  | resigned (side : Option Side)
  | away (side : Option Side)

structure Match (Cell Side Player : Type) where
  holder : Side → Player
  first : Side
  turn : Side
  board : Cell → Option Side
  verdict : Option (Verdict Side)

@[ext] structure State (Cell Side Player : Type) where
  seat : Side → Option Player
  /-- The sides that are ready for a match. -/
  ready : Set Side
  /-- The sides that have agreed on another match after the last one; none as long as nobody has asked. -/
  agreed : Set Side
  /-- The match that runs, or the last one. -/
  current : Option (Match Cell Side Player)

variable {Cell Side Player : Type}

section Assign
variable {α β : Type} {f : α → Option β} {a a' : α} {b : Option β}

open Classical in
/-- The function with another value at one place. -/
noncomputable def assign (f : α → Option β) (a : α) (b : Option β) (a' : α) : Option β := if a' = a then b else f a'

@[simp] theorem assign_self : assign f a b a = b := if_pos rfl

theorem assign_of_ne (h : a' ≠ a) : assign f a b a' = f a' := if_neg h

end Assign

/-! ### Matches -/

def Owns (board : Cell → Option Side) (x : Side) (cells : Set Cell) : Prop := ∀ c ∈ cells, board c = some x

open Classical in
/-- The verdict when side `x` has put a mark on what is now the board. -/
noncomputable def Rules.judge (R : Rules Cell Side) (board : Cell → Option Side) (x : Side) : Option (Verdict Side) :=
  if ∃ line ∈ R.lines, Owns board x line then some (.won x)
  else if ∀ c, board c ≠ none then some .drawn
  else none

namespace Rules
variable {R : Rules Cell Side} {board : Cell → Option Side} {x : Side}

theorem judge_won {line : Set Cell} (hline : line ∈ R.lines) (h : Owns board x line) : R.judge board x = some (.won x) :=
  if_pos ⟨line, hline, h⟩

theorem judge_drawn (hno : ∀ line ∈ R.lines, ¬Owns board x line) (hfull : ∀ c, board c ≠ none) :
    R.judge board x = some .drawn := by
  rw [judge, if_neg (by simpa using hno), if_pos hfull]

theorem judge_open {c : Cell} (hno : ∀ line ∈ R.lines, ¬Owns board x line) (hfree : board c = none) :
    R.judge board x = none := by
  rw [judge, if_neg (by simpa using hno), if_neg (fun hfull => hfull c hfree)]

end Rules

/-- A match before its first mark. -/
def opening (holder : Side → Player) (first : Side) : Match Cell Side Player := ⟨holder, first, first, fun _ => none, none⟩

open Classical in
/-- The match after a mark of the side whose turn it is. The turn stays with the side that has ended the match. -/
noncomputable def Match.mark (R : Rules Cell Side) (m : Match Cell Side Player) (c : Cell) : Match Cell Side Player :=
  let board := assign m.board c (some m.turn)
  { m with
    board := board
    turn := if R.judge board m.turn = none then R.next m.turn else m.turn
    verdict := R.judge board m.turn }

/-- A mark of side `mark.1` on cell `mark.2`, in turn. -/
def Match.Marks (R : Rules Cell Side) (m : Match Cell Side Player) (mark : Side × Cell) (m' : Match Cell Side Player) :
    Prop := m.verdict = none ∧ m.turn = mark.1 ∧ m.board mark.2 = none ∧ m' = m.mark R mark.2

/-! ### Steps -/

/-- What happens at a table, with the player who does it. -/
inductive Action (Cell Side Player : Type) where
  | sit (player : Player) (side : Side)
  | stand (player : Player)
  | ready (player : Player)
  | mark (player : Player) (cell : Cell)
  | resign (player : Player)
  /-- The player has stayed away for too long. -/
  | away (player : Player)
  /-- Ask for another match. -/
  | ask (player : Player)
  | agree (player : Player)
  | decline (player : Player)
  /-- Nobody has answered for too long. -/
  | lapse

namespace State
variable (T : State Cell Side Player)

/-- The match, if it runs. -/
def running : Option (Match Cell Side Player) := T.current.filter fun m => m.verdict.isNone

/-- The last match is over. -/
def Over : Prop := ∃ m, T.current = some m ∧ m.verdict ≠ none

/-- The side that opens the next match. -/
def nextFirst (R : Rules Cell Side) : Side := (T.current.map fun m => R.next m.first).getD R.opens

/-- A match between the players at the table begins. -/
def deal (R : Rules Cell Side) (holder : Side → Player) : State Cell Side Player :=
  { T with ready := ∅, current := some (opening holder (T.nextFirst R)) }

end State

inductive Step (R : Rules Cell Side) (T : State Cell Side Player) : Action Cell Side Player → State Cell Side Player → Prop
  | sit {p : Player} {x : Side} (hnew : ∀ y, T.seat y ≠ some p) (hfree : T.seat x = none) :
    Step R T (.sit p x) { T with seat := assign T.seat x (some p) }
  /-- Nobody gets up during a match. -/
  | stand {p : Player} {x : Side} (hseat : T.seat x = some p) (hidle : T.running = none) :
    Step R T (.stand p) { T with seat := assign T.seat x none, ready := T.ready \ {x} }
  | ready {p : Player} {x : Side} (hseat : T.seat x = some p) (hnew : x ∉ T.ready) (hwait : ∃ y, y ∉ insert x T.ready) :
    Step R T (.ready p) { T with ready := insert x T.ready }
  /-- The last player is ready. -/
  | start {p : Player} {x : Side} {holder : Side → Player} (hseat : T.seat x = some p) (hnew : x ∉ T.ready)
    (hall : ∀ y, y ∈ insert x T.ready) (hfull : ∀ y, T.seat y = some (holder y)) : Step R T (.ready p) (T.deal R holder)
  | mark {p : Player} {c : Cell} {m : Match Cell Side Player} (hmatch : T.running = some m) (hturn : m.holder m.turn = p)
    (hfree : m.board c = none) : Step R T (.mark p c) { T with current := some (m.mark R c) }
  | resign {p : Player} {x : Side} {m : Match Cell Side Player} (hmatch : T.running = some m) (hholder : m.holder x = p) :
    Step R T (.resign p) { T with current := some { m with verdict := some (.resigned (some x)) } }
  | away {p : Player} {x : Option Side} {m : Match Cell Side Player} (hmatch : T.running = some m)
    (hholder : ∀ y, x = some y → m.holder y = p) (hstranger : x = none → ∀ y, m.holder y ≠ p) :
    Step R T (.away p) { T with current := some { m with verdict := some (.away x) } }
  | ask {p : Player} {x : Side} (hseat : T.seat x = some p) (hover : T.Over) (hnone : T.agreed = ∅) :
    Step R T (.ask p) { T with agreed := {x} }
  | agree {p : Player} {x : Side} (hseat : T.seat x = some p) (hover : T.Over) (hasked : T.agreed.Nonempty)
    (hwait : ∃ y, y ∉ insert x T.agreed) : Step R T (.agree p) { T with agreed := insert x T.agreed }
  /-- All sides have agreed. -/
  | again {p : Player} {x : Side} {holder : Side → Player} (hseat : T.seat x = some p) (hover : T.Over)
    (hasked : T.agreed.Nonempty) (hall : ∀ y, y ∈ insert x T.agreed) (hfull : ∀ y, T.seat y = some (holder y)) :
    Step R T (.agree p) { T.deal R holder with agreed := ∅ }
  /-- All sides have agreed, but one of them is vacant by now. -/
  | fizzle {p : Player} {x y : Side} (hseat : T.seat x = some p) (hover : T.Over) (hasked : T.agreed.Nonempty)
    (hall : ∀ y, y ∈ insert x T.agreed) (hvacant : T.seat y = none) :
    Step R T (.agree p) { T with ready := ∅, agreed := ∅ }
  | decline {p : Player} {x : Side} (hseat : T.seat x = some p) (hasked : T.agreed.Nonempty) :
    Step R T (.decline p) { T with agreed := ∅ }
  | lapse (hasked : T.agreed.Nonempty) : Step R T .lapse { T with agreed := ∅ }

/-- A table at which nobody has sat down yet. -/
def empty : State Cell Side Player := ⟨fun _ => none, ∅, ∅, none⟩

/-- The rows, the columns and the two diagonals of a square board. -/
def gridLines (n : Nat) : Set (Set (Fin n × Fin n)) :=
  {line | (∃ i, line = {c | c.1 = i}) ∨ (∃ j, line = {c | c.2 = j}) ∨ line = {c | c.1 = c.2} ∨ line = {c | c.1.rev = c.2}}

end Table
