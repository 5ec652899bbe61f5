import Mathlib.Tactic.Common
import Mathlib.Data.List.TakeWhile

/-! # Restarted logs

Some entries of a log are starts: they begin a segment, which lasts until the next start. A log is in order when every
segment is numbered from 1 on, strictly increasing. -/

namespace TicTacToe
variable {α : Type} {isStart : α → Bool} {num : α → Nat} {bound : Nat} {log log' : List α} {a : α}

/-- From every start to the next the numbers increase strictly, beginning with 1. -/
def InOrder (isStart : α → Bool) (num : α → Nat) : List α → Prop
  | [] => True
  | a :: log => (isStart a = true → num a = 1 ∧
      (a :: log.takeWhile fun b => !isStart b).Pairwise fun a b => num a < num b) ∧ InOrder isStart num log

instance InOrder.decidable (isStart : α → Bool) (num : α → Nat) : ∀ log, Decidable (InOrder isStart num log)
  | [] => .isTrue trivial
  | _ :: log =>
    have := decidable isStart num log
    inferInstanceAs (Decidable (_ ∧ _))

/-- The entries from the latest start on; there are none before the first start. -/
def lastSegment (isStart : α → Bool) : List α → List α
  | [] => []
  | a :: log => if log.any isStart then lastSegment isStart log else if isStart a then a :: log else []

theorem lastSegment_eq_nil (h : log.any isStart = false) : lastSegment isStart log = [] := by
  cases log with
  | nil => rfl
  | cons a log =>
    rw [List.any_cons, Bool.or_eq_false_iff] at h
    simp [lastSegment, h.1, h.2]

theorem mem_of_mem_lastSegment (h : a ∈ lastSegment isStart log) : a ∈ log := by
  induction log with
  | nil => exact h
  | cons b log ih =>
    unfold lastSegment at h
    split at h
    · exact List.mem_cons_of_mem _ (ih h)
    · split at h
      · exact h
      · cases h

/-- The latest segment of a longer log is new, or continues the one before. -/
theorem mem_lastSegment_append (h : a ∈ lastSegment isStart (log ++ log')) :
    a ∈ lastSegment isStart log ∨ a ∈ log' := by
  induction log with
  | nil => exact Or.inr (mem_of_mem_lastSegment h)
  | cons b log ih =>
    rw [List.cons_append, lastSegment, List.any_append] at h
    rw [lastSegment]
    cases hold : log.any isStart with
    | true =>
      rw [hold, Bool.true_or, if_pos rfl] at h
      exact ih h
    | false =>
      rw [hold, Bool.false_or] at h
      have hnew := ih
      rw [lastSegment_eq_nil hold] at hnew
      split at h
      · exact Or.inr ((hnew h).resolve_left (by simp))
      · split at h
        · rename_i hb
          rw [if_neg Bool.false_ne_true, if_pos hb, ← List.mem_append]
          exact h
        · cases h

theorem any_start_eq_false : log.any isStart = false ↔ ∀ a ∈ log, isStart a = false := by simp

/-- What follows another start does not belong to a segment. -/
theorem takeWhile_append_start (hstart : isStart a = true) (log log' : List α) :
    ((log ++ a :: log').takeWhile fun b => !isStart b) = log.takeWhile fun b => !isStart b := by
  induction log with
  | nil => simp [hstart]
  | cons b log ih =>
    cases hb : isStart b with
    | true => simp [hb]
    | false => simp [hb, ih]

/-- A segment that has ended is not continued. -/
theorem takeWhile_append_of_any (h : log.any isStart = true) (log' : List α) :
    ((log ++ log').takeWhile fun b => !isStart b) = log.takeWhile fun b => !isStart b := by
  induction log with
  | nil => cases h
  | cons b log ih =>
    cases hb : isStart b with
    | true => simp [hb]
    | false =>
      rw [List.any_cons, hb, Bool.false_or] at h
      simp [hb, ih h]

theorem takeWhile_of_no_start (h : ∀ a ∈ log, isStart a = false) : (log.takeWhile fun b => !isStart b) = log :=
  List.takeWhile_eq_self_iff.mpr fun a ha => by simp [h a ha]

namespace InOrder

/-- Nothing is required before the first start. -/
theorem of_no_start (h : ∀ a ∈ log, isStart a = false) : InOrder isStart num log := by
  induction log with
  | nil => trivial
  | cons a log ih =>
    refine ⟨fun hstart => ?_, ih fun b hb => h b (List.mem_cons_of_mem _ hb)⟩
    rw [h a List.mem_cons_self] at hstart
    cases hstart

/-- Entries with numbers above those of the latest segment. -/
theorem append (h : InOrder isStart num log) (hlast : ∀ a ∈ lastSegment isStart log, num a ≤ bound)
    (hstarts : ∀ a ∈ log', isStart a = false) (hincreasing : log'.Pairwise fun a b => num a < num b)
    (habove : ∀ a ∈ log', bound < num a) : InOrder isStart num (log ++ log') := by
  induction log with
  | nil => exact .of_no_start hstarts
  | cons a log ih =>
    obtain ⟨hsegment, hrest⟩ := h
    rw [List.cons_append]
    cases hany : log.any isStart with
    | true =>
      rw [lastSegment, if_pos hany] at hlast
      refine ⟨fun hstart => ?_, ih hrest hlast⟩
      rw [takeWhile_append_of_any hany]
      exact hsegment hstart
    | false =>
      refine ⟨fun hstart => ?_, ih hrest fun b hb => ?_⟩
      · rw [lastSegment, if_neg (by simp [hany]), if_pos hstart] at hlast
        have hnone := any_start_eq_false.mp hany
        have hall : ∀ b ∈ log ++ log', isStart b = false := by
          intro b hb
          exact (List.mem_append.mp hb).elim (hnone b) (hstarts b)
        obtain ⟨hone, hold⟩ := hsegment hstart
        rw [takeWhile_of_no_start hnone] at hold
        rw [takeWhile_of_no_start hall, ← List.cons_append]
        exact ⟨hone, List.pairwise_append.mpr ⟨hold, hincreasing, fun b hb b' hb' =>
          Nat.lt_of_le_of_lt (hlast b hb) (habove b' hb')⟩⟩
      · rw [lastSegment_eq_nil hany] at hb
        cases hb

/-- A new segment. -/
theorem append_segment (h : InOrder isStart num log) (hstart : isStart a = true) (hone : num a = 1)
    (hstarts : ∀ b ∈ log', isStart b = false) (hincreasing : (a :: log').Pairwise fun a b => num a < num b) :
    InOrder isStart num (log ++ a :: log') := by
  induction log with
  | nil =>
    refine ⟨fun _ => ⟨hone, ?_⟩, .of_no_start hstarts⟩
    rwa [takeWhile_of_no_start hstarts]
  | cons b log ih =>
    rw [List.cons_append]
    refine ⟨fun hb => ?_, ih h.2⟩
    rw [takeWhile_append_start hstart]
    exact h.1 hb

end InOrder
end TicTacToe
