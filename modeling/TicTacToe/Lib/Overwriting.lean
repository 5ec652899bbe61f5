import Mathlib.Tactic.Common
import Mathlib.Data.List.Infix

/-! # Overwriting events

Each event sets some parts of a state and leaves the others. What an event has done before does not matter once it
happens again, so a log can be applied once more to the state that it has led to. -/

namespace TicTacToe
variable {σ ε ι : Type} {apply : σ → ε → σ} {log log' : List ε} {v : σ}

/-- A second time an event does nothing, and an event that happens again need not have happened before. -/
structure Overwriting (apply : σ → ε → σ) : Prop where
  again : ∀ v a, apply (apply v a) a = apply v a
  latest : ∀ v a b, apply (apply (apply v a) b) a = apply (apply v b) a

namespace Overwriting

/-- The same with any events between. -/
theorem foldl_latest (h : Overwriting apply) (log : List ε) (v : σ) (a : ε) :
    apply (log.foldl apply (apply v a)) a = apply (log.foldl apply v) a := by
  induction log using List.reverseRecOn with
  | nil => exact h.again v a
  | append_singleton log b ih =>
    rw [List.foldl_concat, List.foldl_concat, ← h.latest, ih, h.latest]

theorem foldl_again (h : Overwriting apply) (log : List ε) (v : σ) :
    log.foldl apply (log.foldl apply v) = log.foldl apply v := by
  induction log using List.reverseRecOn with
  | nil => rfl
  | append_singleton log a ih =>
    rw [List.foldl_concat, List.foldl_concat, h.foldl_latest, ih]

/-- Events that consist of several. -/
theorem lists (h : Overwriting apply) : Overwriting fun v log => List.foldl apply v log := by
  refine ⟨fun v log => h.foldl_again log v, fun v log between => ?_⟩
  induction log using List.reverseRecOn with
  | nil => rfl
  | append_singleton log a ih =>
    have hlatest := h.foldl_latest (between ++ log) (log.foldl apply v) a
    rw [List.foldl_append, List.foldl_append] at hlatest
    simp only [List.foldl_concat]
    rw [hlatest, ih]

theorem comap (h : Overwriting apply) (f : ι → ε) : Overwriting fun v i => apply v (f i) :=
  ⟨fun v i => h.again v (f i), fun v i j => h.latest v (f i) (f j)⟩

/-- Some events are not noticed. -/
theorem noticed (h : Overwriting apply) (p : ε → Bool) : Overwriting fun v a => if p a then apply v a else v := by
  refine ⟨fun v a => ?_, fun v a b => ?_⟩
  · split
    · exact h.again v a
    · rfl
  · split
    · split
      · exact h.latest v a b
      · exact h.again v a
    · rfl

end Overwriting

/-- Every end of the log leads from the state to itself. -/
def Retold (apply : σ → ε → σ) (log : List ε) (v : σ) : Prop := ∀ rest, rest <:+ log → rest.foldl apply v = v

namespace Retold

theorem nil : Retold apply [] v := fun rest h => by rw [List.suffix_nil.mp h]; rfl

theorem suffix (h : Retold apply log v) (hs : log' <:+ log) : Retold apply log' v :=
  fun rest hrest => h rest (hrest.trans hs)

/-- The log goes on. -/
theorem concat (h : Retold apply log v) (ho : Overwriting apply) (a : ε) : Retold apply (log ++ [a]) (apply v a) := by
  intro rest hrest
  rcases List.suffix_concat_iff.mp hrest with rfl | ⟨before, rfl, hbefore⟩
  · rfl
  · rw [List.foldl_concat, ho.foldl_latest, h before hbefore]

/-- An event that nobody notices need not be in the log. -/
theorem filter {p : ε → Bool} (h : Retold apply log v) (hp : ∀ v a, p a = false → apply v a = v) :
    Retold apply (log.filter p) v := by
  intro rest hrest
  obtain ⟨whole, hwhole, rfl⟩ := List.suffix_filter_iff.mp hrest
  have hsame : (fun v a => if p a = true then apply v a else v) = apply := by
    funext v a
    cases ha : p a with
    | true => rfl
    | false => exact (hp v a ha).symm
  rw [List.foldl_filter, hsame]
  exact h whole hwhole

end Retold

end TicTacToe
