import TicTacToe.Lib.Transition

/-! # Labelled runs

A system whose steps bear labels, and how the runs of a deterministic system are runs of it. -/

namespace TicTacToe
namespace Labelled
variable {σ α : Type} {step : σ → α → σ → Prop} {s t u : σ} {a : α} {as bs : List α}

/-- The states reached from `s` by steps whose labels are those of the list. -/
inductive Run (step : σ → α → σ → Prop) (s : σ) : List α → σ → Prop
  | nil : Run step s [] s
  | snoc {as : List α} {t u : σ} {a : α} (h : Run step s as t) (hs : step t a u) : Run step s (as ++ [a]) u

theorem Run.one (h : step s a t) : Run step s [a] t := Run.nil.snoc h

theorem Run.append (h₁ : Run step s as t) (h₂ : Run step t bs u) : Run step s (as ++ bs) u := by
  induction h₂ with
  | nil => rwa [List.append_nil]
  | snoc _ hs ih =>
    rw [← List.append_assoc]
    exact ih.snoc hs

/-- Where every step of a deterministic system, seen through `f`, is a run of the labelled one, so is every run. -/
theorem Run.of_runs {τ ι : Type} {cstep : τ → ι → Option τ} {C : τ → ι → Prop} {I : τ → Prop} {f : τ → σ} {x y : τ}
    (h : Transition.Runs cstep C x y) (hx : I x) (hkeep : ∀ x y i, I x → cstep x i = some y → I y)
    (hstep : ∀ x y i, I x → cstep x i = some y → ∃ as, Run step (f x) as (f y)) : ∃ as, Run step (f x) as (f y) := by
  suffices I y ∧ ∃ as, Run step (f x) as (f y) from this.2
  refine h.invariant (P := fun y => I y ∧ ∃ as, Run step (f x) as (f y)) ⟨hx, [], .nil⟩ fun y z i hy _ hyz => ?_
  obtain ⟨hI, as, has⟩ := hy
  obtain ⟨bs, hbs⟩ := hstep y z i hI hyz
  exact ⟨hkeep y z i hI hyz, as ++ bs, has.append hbs⟩

end Labelled
end TicTacToe
