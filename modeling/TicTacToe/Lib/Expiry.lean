import Mathlib.Order.Defs.PartialOrder
import TicTacToe.Lib.JsMap

/-! # Maps whose entries expire

An entry that has expired stays expired. From the time of a purge or an eviction on, nobody who looks entries up can tell
that it has happened, whatever is stored, changed or deleted afterwards. -/

namespace TicTacToe
namespace JsMap

section
variable {κ ν τ : Type} [DecidableEq κ] [LE τ]

/-- What has expired stays expired. -/
def Expires (expired : τ → ν → Bool) : Prop := ∀ t t' v, t ≤ t' → expired t v = true → expired t' v = true

/-- From a time on, looking up gives the same in both maps. -/
def AgreeFrom (expired : τ → ν → Bool) (t : τ) (m m' : JsMap κ ν) : Prop :=
  ∀ t', t ≤ t' → ∀ k, m.lookup (expired t') k = m'.lookup (expired t') k

end

variable {κ ν τ : Type} [DecidableEq κ] [Preorder τ] {expired : τ → ν → Bool} {m m' m'' : JsMap κ ν} {t t' : τ} {k : κ}
  {v : ν}

/-- What is not expired later is not expired now. -/
theorem filter_live (hexpires : Expires expired) (h : t ≤ t') (x : Option ν) :
    (x.filter fun v => !expired t v).filter (fun v => !expired t' v) = x.filter fun v => !expired t' v := by
  cases x with
  | none => rfl
  | some v =>
    cases hv : expired t v with
    | false => simp [Option.filter, hv]
    | true => simp [Option.filter, hv, hexpires t t' v h hv]

theorem purge_agree (hexpires : Expires expired) (m : JsMap κ ν) (t : τ) :
    AgreeFrom expired t (m.purge (expired t)) m := by
  intro t' ht k
  rw [lookup, get_purge]
  exact filter_live hexpires ht (m.get k)

theorem evict_agree (hexpires : Expires expired) (m : JsMap κ ν) (t : τ) (k : κ) :
    AgreeFrom expired t (m.evict (expired t) k) m := by
  intro t' ht k'
  rw [lookup, get_evict]
  split
  · rename_i hk
    exact hk ▸ filter_live hexpires ht (m.get k)
  · rfl

namespace AgreeFrom

theorem refl (t : τ) (m : JsMap κ ν) : AgreeFrom expired t m m := fun _ _ _ => rfl

theorem symm (h : AgreeFrom expired t m m') : AgreeFrom expired t m' m := fun t' ht k => (h t' ht k).symm

theorem trans (h₁ : AgreeFrom expired t m m') (h₂ : AgreeFrom expired t m' m'') : AgreeFrom expired t m m'' :=
  fun t' ht k => (h₁ t' ht k).trans (h₂ t' ht k)

theorem mono (h : AgreeFrom expired t m m') (ht : t ≤ t') : AgreeFrom expired t' m m' :=
  fun u hu => h u (le_trans ht hu)

theorem lookup_eq (h : AgreeFrom expired t m m') (k : κ) : m.lookup (expired t) k = m'.lookup (expired t) k :=
  h t (le_refl t) k

/-- Purges and evictions on either side do not matter. -/
theorem purge (hexpires : Expires expired) (h : AgreeFrom expired t m m') :
    AgreeFrom expired t (m.purge (expired t)) m' := (purge_agree hexpires m t).trans h

theorem evict (hexpires : Expires expired) (h : AgreeFrom expired t m m') (k : κ) :
    AgreeFrom expired t (m.evict (expired t) k) (m'.evict (expired t) k) :=
  ((evict_agree hexpires m t k).trans h).trans (evict_agree hexpires m' t k).symm

theorem set (h : AgreeFrom expired t m m') (k : κ) (v : ν) : AgreeFrom expired t (m.set k v) (m'.set k v) := by
  intro t' ht k'
  rw [lookup, lookup, get_set, get_set]
  split
  · rfl
  · exact h t' ht k'

theorem delete (h : AgreeFrom expired t m m') (k : κ) : AgreeFrom expired t (m.delete k) (m'.delete k) := by
  intro t' ht k'
  rw [lookup, lookup, get_delete, get_delete]
  split
  · rfl
  · exact h t' ht k'

/-- A change that does not concern the expiry: an entry that has expired is not revived by it. -/
theorem modify {f : ν → ν} (hf : ∀ t v, expired t (f v) = expired t v) (h : AgreeFrom expired t m m') (k : κ) :
    AgreeFrom expired t (m.modify k f) (m'.modify k f) := by
  have hfilter : ∀ (t : τ) (x : Option ν),
      (x.map f).filter (fun v => !expired t v) = (x.filter fun v => !expired t v).map f := by
    intro t x
    cases x with
    | none => rfl
    | some v => cases hv : expired t v <;> simp [Option.filter, hf, hv]
  intro t' ht k'
  rw [lookup, lookup, get_modify, get_modify]
  split
  · rw [hfilter, hfilter]
    exact congrArg (Option.map f) (h t' ht k')
  · exact h t' ht k'

end AgreeFrom
end JsMap
end TicTacToe
