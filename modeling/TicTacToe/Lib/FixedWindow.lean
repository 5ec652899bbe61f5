import Mathlib.Data.List.Basic
import Mathlib.Tactic.Linarith

/-! # Fixed windows

A limiter that admits the first `max` hits of a window. A hit that finds no window running opens one, which runs for
`length`. How many hits it admits in an arbitrary stretch of time, and why it refuses one. -/

namespace FixedWindow

structure Window where
  start : Int
  count : Nat

/-- The window that a hit at time `t` is counted in, if window `w` was the last. -/
def hit (length : Int) (w : Option Window) (t : Int) : Window :=
  match w with
  | none => ⟨t, 1⟩
  | some w => if length ≤ t - w.start then ⟨t, 1⟩ else ⟨w.start, w.count + 1⟩

/-- A history of hits, each with its time and whether it was admitted, after which `w` is the last window. -/
inductive Counts (max : Nat) (length : Int) (first : Option Window) : List (Int × Bool) → Option Window → Prop
  | nil : Counts max length first [] first
  | snoc {log : List (Int × Bool)} {w : Option Window} {t : Int} (h : Counts max length first log w)
    (hlast : ∀ e ∈ log, e.1 ≤ t) (hstart : ∀ x, w = some x → x.start ≤ t) :
    Counts max length first (log ++ [(t, decide ((hit length w t).count ≤ max))]) (some (hit length w t))

variable {max : Nat} {length : Int} {first w : Option Window} {x : Window} {log : List (Int × Bool)} {t a b : Int}

/-! ### Refused hits -/

/-- The hits from time `a` on. -/
def since (log : List (Int × Bool)) (a : Int) : List (Int × Bool) := log.filter fun e => a ≤ e.1

theorem since_append (log : List (Int × Bool)) (e : Int × Bool) (a : Int) :
    since (log ++ [e]) a = since log a ++ if a ≤ e.1 then [e] else [] := by
  rw [since, List.filter_append]
  congr 1
  by_cases h : a ≤ e.1 <;> simp [h]

/-- A window counts hits that have been made since its start. -/
theorem Counts.count_le (h : Counts max length first log w) (hfirst : ∀ x, first = some x → x.count = 0)
    (hw : w = some x) : x.count ≤ (since log x.start).length := by
  induction h generalizing x with
  | nil => simp [hfirst x hw]
  | @snoc log w t h hlast hstart ih =>
    obtain rfl := Option.some.inj hw
    rw [since_append, List.length_append]
    unfold hit
    split
    · simp
    · rename_i y
      split
      · simp
      · have hy : y.start ≤ t := hstart y rfl
        have hcount := ih rfl
        simp only [hy, ↓reduceIte, List.length_singleton]
        omega

/-- A hit is refused only if `max` others have been made within the length of a window before it. -/
theorem Counts.refused (h : Counts max length first log w) (hfirst : ∀ x, first = some x → x.count = 0)
    {before after : List (Int × Bool)} (hlog : log = before ++ (t, false) :: after) :
    max ≤ (before.filter fun e => t - e.1 < length).length := by
  induction h generalizing after with
  | nil => simp at hlog
  | @snoc log w t' h hlast hstart ih =>
    rcases List.eq_nil_or_concat after with rfl | ⟨rest, e, rfl⟩
    · obtain ⟨rfl, he⟩ := List.append_inj' hlog rfl
      obtain ⟨rfl, hrefused⟩ := Prod.mk.inj (List.cons.inj he).1
      have hover : max < (hit length w t').count := by simpa using hrefused
      unfold hit at hover
      split at hover
      · dsimp only at hover
        omega
      · rename_i y
        split at hover
        · dsimp only at hover
          omega
        · rename_i hrunning
          have hcount := h.count_le hfirst rfl
          refine Nat.le_trans (Nat.le_trans (Nat.le_of_lt_succ hover) hcount) ?_
          refine (List.monotone_filter_right _ fun e he => ?_).length_le
          simp only [decide_eq_true_eq] at he ⊢
          omega
    · rw [List.concat_eq_append, ← List.cons_append, ← List.append_assoc] at hlog
      exact ih (List.append_inj' hlog rfl).1

/-! ### Admitted hits -/

/-- The number of hits that have been admitted from time `a` on. -/
def admittedSince (log : List (Int × Bool)) (a : Int) : Nat := ((since log a).filter Prod.snd).length

theorem admittedSince_append (log : List (Int × Bool)) (t : Int) (ok : Bool) (a : Int) :
    admittedSince (log ++ [(t, ok)]) a = admittedSince log a + if a ≤ t ∧ ok = true then 1 else 0 := by
  rw [admittedSince, since_append, List.filter_append, List.length_append, admittedSince]
  by_cases h : a ≤ t <;> cases ok <;> simp [h]

theorem admittedSince_eq_zero (hlast : ∀ e ∈ log, e.1 < a) : admittedSince log a = 0 := by
  rw [admittedSince, List.length_eq_zero_iff, since, List.filter_filter, List.filter_eq_nil_iff]
  intro e he
  have hlt := hlast e he
  simp only [Bool.and_eq_true, decide_eq_true_eq, not_and]
  omega

theorem Counts.eq_nil (h : Counts max length first log none) : log = [] := by
  cases h
  rfl

/-- The windows that have been opened from time `a` on before the one that started at `start`, with the one that was
running at `a`. -/
def windowsBefore (length a start : Int) : Int := if start < a then 0 else 1 + (start - a) / length

theorem windowsBefore_nonneg (hpos : 0 < length) (a start : Int) : 0 ≤ windowsBefore length a start := by
  unfold windowsBefore
  split
  · exact Int.le_refl 0
  · have hdiv : 0 ≤ (start - a) / length := Int.ediv_nonneg (by omega) (Int.le_of_lt hpos)
    omega

/-- A window that starts after another one has run out. -/
theorem windowsBefore_next (hpos : 0 < length) {start : Int} (h : length ≤ t - start) (ht : a ≤ t) :
    windowsBefore length a start + 1 ≤ windowsBefore length a t := by
  have hnext : windowsBefore length a t = 1 + (t - a) / length := by rw [windowsBefore, if_neg (Int.not_lt.mpr ht)]
  rw [hnext]
  unfold windowsBefore
  split
  · have hdiv : 0 ≤ (t - a) / length := Int.ediv_nonneg (by omega) (Int.le_of_lt hpos)
    omega
  · have hstep : (start - a + 1 * length) / length = (start - a) / length + 1 :=
      Int.add_mul_ediv_right _ _ (Int.ne_of_gt hpos)
    have hmono : (start - a + 1 * length) / length ≤ (t - a) / length := Int.ediv_le_ediv hpos (by omega)
    omega

/-- Every window before the last one has admitted `max` hits at most, and the last one what it has counted. -/
theorem Counts.admittedSince_le (h : Counts max length first log w) (hpos : 0 < length) (hw : w = some x) (a : Int) :
    (admittedSince log a : Int) ≤ max * windowsBefore length a x.start + (min x.count max : Nat) := by
  have hnonneg : ∀ start, 0 ≤ (max : Int) * windowsBefore length a start := fun start =>
    Int.mul_nonneg (Int.natCast_nonneg max) (windowsBefore_nonneg hpos a start)
  induction h generalizing x with
  | nil =>
    have hold := hnonneg x.start
    simp only [admittedSince, since, List.filter_nil, List.length_nil]
    omega
  | @snoc log w t h hlast hstart ih =>
    obtain rfl := Option.some.inj hw
    rw [admittedSince_append]
    -- A hit that opens a window.
    have hopened : (admittedSince log a : Int) ≤ max * windowsBefore length a t →
        ((admittedSince log a + if a ≤ t ∧ decide (1 ≤ max) = true then 1 else 0 : Nat) : Int) ≤
          max * windowsBefore length a t + ((min 1 max : Nat) : Int) := by
      intro hle
      split
      · rename_i hok
        have hroom := of_decide_eq_true hok.2
        omega
      · omega
    unfold hit
    split
    · refine hopened ?_
      rw [h.eq_nil]
      exact hnonneg t
    · rename_i y
      have hold := ih rfl
      split
      · rename_i hover
        refine hopened ?_
        by_cases ht : a ≤ t
        · have hnext := Int.mul_le_mul_of_nonneg_left (windowsBefore_next hpos hover ht) (Int.natCast_nonneg max)
          rw [Int.mul_add, Int.mul_one] at hnext
          omega
        · rw [admittedSince_eq_zero fun e he => Int.lt_of_le_of_lt (hlast e he) (Int.not_le.mp ht)]
          exact hnonneg t
      · dsimp only
        split <;> rename_i hok <;> simp only [decide_eq_true_eq] at hok <;> omega

/-- The number of hits that have been admitted from time `a` to time `b`. -/
def admittedBetween (log : List (Int × Bool)) (a b : Int) : Nat :=
  (log.filter fun e => e.2 && decide (a ≤ e.1) && decide (e.1 ≤ b)).length

theorem admittedBetween_eq (hlast : ∀ e ∈ log, e.1 ≤ b) : admittedBetween log a b = admittedSince log a := by
  rw [admittedBetween, admittedSince, since, List.filter_filter]
  refine congrArg _ (List.filter_congr fun e he => ?_)
  simp [hlast e he]

/-- In a stretch of time no more is admitted than by the windows that can begin in it, and one that was running before. -/
theorem Counts.admittedBetween_le (h : Counts max length first log w) (hpos : 0 < length) (hab : a ≤ b) :
    (admittedBetween log a b : Int) ≤ max * (2 + (b - a) / length) := by
  have hspan : 0 ≤ (b - a) / length := Int.ediv_nonneg (by omega) (Int.le_of_lt hpos)
  induction h with
  | nil => exact Int.mul_nonneg (Int.natCast_nonneg max) (by omega)
  | @snoc log w t h hlast hstart ih =>
    by_cases ht : t ≤ b
    · have hall : ∀ e ∈ log ++ [(t, decide ((hit length w t).count ≤ max))], e.1 ≤ b := by
        intro e he
        rcases List.mem_append.mp he with he | he
        · exact Int.le_trans (hlast e he) ht
        · rw [List.mem_singleton.mp he]
          exact ht
      have hbound := (h.snoc hlast hstart).admittedSince_le hpos rfl a
      have hwindows : windowsBefore length a (hit length w t).start ≤ 1 + (b - a) / length := by
        have hle : (hit length w t).start ≤ b := by
          unfold hit
          split
          · exact ht
          · rename_i y
            split
            · exact ht
            · exact Int.le_trans (hstart y rfl) ht
        unfold windowsBefore
        split
        · omega
        · have hdiv : ((hit length w t).start - a) / length ≤ (b - a) / length := Int.ediv_le_ediv hpos (by omega)
          omega
      have hmul := Int.mul_le_mul_of_nonneg_left hwindows (Int.natCast_nonneg max)
      rw [admittedBetween_eq hall]
      have hsplit : (max : Int) * (2 + (b - a) / length) = max * (1 + (b - a) / length) + max := by
        rw [show 2 + (b - a) / length = 1 + (b - a) / length + 1 by omega, Int.mul_add _ _ 1, Int.mul_one]
      omega
    · have hdrop : admittedBetween (log ++ [(t, decide ((hit length w t).count ≤ max))]) a b = admittedBetween log a b := by
        simp [admittedBetween, List.filter_append, ht]
      rw [hdrop]
      exact ih

end FixedWindow
