import Mathlib.Tactic.Common

/-! # Runs of a transition system

A deterministic system takes inputs, some of which it refuses. A run is conditioned by a predicate on the
state and the input of each of its steps. -/

namespace TicTacToe
namespace Transition
variable {σ ι : Type} {step : σ → ι → Option σ} {C D : σ → ι → Prop} {P : σ → Prop} {s t u : σ}

/-- The states reached from `s` by steps that meet `C`. -/
inductive Runs (step : σ → ι → Option σ) (C : σ → ι → Prop) (s : σ) : σ → Prop
  | refl : Runs step C s s
  | tail {t u : σ} {i : ι} (h : Runs step C s t) (hc : C t i) (hs : step t i = some u) : Runs step C s u

/-- What holds at first and is preserved by the steps of a run holds along it. -/
theorem Runs.invariant (h : Runs step C s t) (hs : P s)
    (hstep : ∀ t u i, P t → C t i → step t i = some u → P u) : P t := by
  induction h with
  | refl => exact hs
  | tail _ hc hstep' ih => exact hstep _ _ _ ih hc hstep'

theorem Runs.trans (h₁ : Runs step C s t) (h₂ : Runs step C t u) : Runs step C s u := by
  induction h₂ with
  | refl => exact h₁
  | tail _ hc hs ih => exact ih.tail hc hs

theorem Runs.mono (h : Runs step C s t) (hCD : ∀ s i, C s i → D s i) : Runs step D s t := by
  induction h with
  | refl => exact .refl
  | tail _ hc hs ih => exact ih.tail (hCD _ _ hc) hs

/-- What holds at the end of a run and did not at first has been brought about by a step of the run, and has held from
then on. -/
theorem Runs.brought_about (h : Runs step C s t) (hs : ¬P s) (ht : P t) :
    ∃ u i v, Runs step C s u ∧ C u i ∧ step u i = some v ∧ Runs step (fun s i => C s i ∧ P s) v t ∧ ¬P u ∧ P v := by
  induction h with
  | refl => exact absurd ht hs
  | @tail u v i hu hc hstep ih =>
    by_cases hPu : P u
    · obtain ⟨u', i', v', hu', hc', hstep', hv', hnot, hholds⟩ := ih hPu
      exact ⟨u', i', v', hu', hc', hstep', hv'.tail ⟨hc, hPu⟩ hstep, hnot, hholds⟩
    · exact ⟨u, i, v, hu, hc, hstep, .refl, hPu, ht⟩

/-- Run a list of inputs; a step that does not pass the check ends the run without a result. -/
def run (step : σ → ι → Option σ) (ok : σ → ι → Bool) : σ → List ι → Option σ
  | s, [] => some s
  | s, i :: inputs => if ok s i then (step s i).bind fun t => run step ok t inputs else none

theorem run_append {ok : σ → ι → Bool} {inputs inputs' : List ι} (s : σ) :
    run step ok s (inputs ++ inputs') = (run step ok s inputs).bind fun t => run step ok t inputs' := by
  induction inputs generalizing s with
  | nil => rfl
  | cons i inputs ih =>
    rw [List.cons_append, run, run]
    split
    · simp only [ih, Option.bind_assoc]
    · rfl

theorem runs_of_run {ok : σ → ι → Bool} {inputs : List ι} (hok : ∀ s i, ok s i = true → C s i)
    (h : run step ok s inputs = some t) : Runs step C s t := by
  induction inputs generalizing s with
  | nil => exact Option.some.inj h ▸ .refl
  | cons i inputs ih =>
    simp only [run] at h
    split at h
    · rename_i hi
      obtain ⟨u, hu, h⟩ := Option.bind_eq_some_iff.mp h
      exact (Runs.tail .refl (hok s i hi) hu).trans (ih h)
    · cases h

/-- A run on given inputs, each of which meets the condition in every state. -/
theorem runs_of_inputs {inputs : List ι} (hC : ∀ i ∈ inputs, ∀ s, C s i)
    (h : run step (fun _ _ => true) s inputs = some t) :
    Runs step C s t := by
  induction inputs generalizing s with
  | nil => exact Option.some.inj h ▸ .refl
  | cons i inputs ih =>
    obtain ⟨u, hu, h⟩ := Option.bind_eq_some_iff.mp h
    exact (Runs.tail .refl (hC i List.mem_cons_self s) hu).trans (ih (fun j hj => hC j (List.mem_cons_of_mem i hj)) h)

/-- A run whose last state passes a check. -/
theorem exists_run {ok : σ → ι → Bool} {inputs : List ι} {check : σ → Bool} (hok : ∀ s i, ok s i = true → C s i)
    (h : (run step ok s inputs).any check = true) : ∃ t, Runs step C s t ∧ check t = true := by
  obtain ⟨t, ht, hcheck⟩ := (Option.any_eq_true _ _).mp h
  exact ⟨t, runs_of_run hok ht, hcheck⟩

/-! ### Logged runs -/

section Logged
variable {α : Type} {observe : σ → ι → σ → List α} {x y : σ × List α} {i : ι}

/-- The system that also keeps a log of what is observed of each step. -/
def logged (step : σ → ι → Option σ) (observe : σ → ι → σ → List α) (x : σ × List α) (i : ι) : Option (σ × List α) :=
  (step x.1 i).map fun t => (t, x.2 ++ observe x.1 i t)

theorem logged_eq_some :
    logged step observe x i = some y ↔ step x.1 i = some y.1 ∧ y.2 = x.2 ++ observe x.1 i y.1 := by
  unfold logged
  constructor
  · intro h
    obtain ⟨t, ht, rfl⟩ := Option.map_eq_some_iff.mp h
    exact ⟨ht, rfl⟩
  · rintro ⟨hs, hlog⟩
    rw [hs, Option.map_some, ← hlog]

/-- A log from which a part of the state follows: where every step acts on the part by what is observed of the step,
the part is at the end of a run what the log leads to. -/
theorem Runs.eq_foldl {β : Type} {f : σ → β} {apply : β → α → β} {I : σ → Prop} {C : σ × List α → ι → Prop}
    {log : List α} (h : Runs (logged step observe) C (s, []) (t, log)) (hs : I s)
    (hkeep : ∀ t u i, I t → step t i = some u → I u)
    (hstep : ∀ t u i, I t → step t i = some u → f u = (observe t i u).foldl apply (f t)) :
    f t = log.foldl apply (f s) := by
  suffices ∀ x, Runs (logged step observe) C (s, []) x → I x.1 ∧ f x.1 = x.2.foldl apply (f s) from
    (this _ h).2
  intro x hx
  refine hx.invariant (P := fun x => I x.1 ∧ f x.1 = x.2.foldl apply (f s)) ⟨hs, rfl⟩ fun x y i hi _ hxy => ?_
  obtain ⟨hxy, hlog⟩ := logged_eq_some.mp hxy
  refine ⟨hkeep _ _ i hi.1 hxy, ?_⟩
  rw [hlog, List.foldl_append, ← hi.2]
  exact hstep _ _ i hi.1 hxy

end Logged

end Transition
end TicTacToe
