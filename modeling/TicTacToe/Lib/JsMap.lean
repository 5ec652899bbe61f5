import Mathlib.Tactic.Common
import Mathlib.Data.List.Nodup

/-! # Insertion-ordered maps and sets

The collections of a JavaScript program: a `Map` keeps its entries in the order in which their keys
were first set, and a `Set` is a list without repetitions in insertion order. Setting a key that is
present keeps its place. All reasoning goes through `get`. -/

namespace TicTacToe

/-- A finite map with distinct keys, in insertion order. -/
structure JsMap (κ ν : Type) where
  entries : List (κ × ν)
  nodup : (entries.map Prod.fst).Nodup

namespace JsMap
variable {κ ν : Type}

def empty : JsMap κ ν := ⟨[], List.nodup_nil⟩

instance : Inhabited (JsMap κ ν) := ⟨empty⟩

def keys (m : JsMap κ ν) : List κ := m.entries.map Prod.fst

/-- Keep the entries that satisfy `p`. -/
def filter (m : JsMap κ ν) (p : κ → ν → Bool) : JsMap κ ν :=
  ⟨m.entries.filter fun e => p e.1 e.2, m.nodup.sublist (List.filter_sublist.map _)⟩

variable [DecidableEq κ]

/-- The value of the first entry with key `k`. -/
def find (k : κ) : List (κ × ν) → Option ν
  | [] => none
  | (k', v) :: es => if k' = k then some v else find k es

def get (m : JsMap κ ν) (k : κ) : Option ν := find k m.entries

def has (m : JsMap κ ν) (k : κ) : Bool := (m.get k).isSome

/-- Store `v` under `k`, in the place of an entry with key `k` or else at the end. -/
def put (k : κ) (v : ν) : List (κ × ν) → List (κ × ν)
  | [] => [(k, v)]
  | (k', v') :: es => if k' = k then (k, v) :: es else (k', v') :: put k v es

theorem mem_map_put {k x : κ} {v : ν} {es : List (κ × ν)} (h : x ∈ (put k v es).map Prod.fst) :
    x = k ∨ x ∈ es.map Prod.fst := by
  induction es with
  | nil => exact Or.inl (by simpa [put] using h)
  | cons e es ih =>
    obtain ⟨k', v'⟩ := e
    by_cases hk : k' = k
    · simp only [put, hk, ↓reduceIte, List.map_cons, List.mem_cons] at h ⊢
      exact h.elim Or.inl fun h => Or.inr (Or.inr h)
    · simp only [put, hk, ↓reduceIte, List.map_cons, List.mem_cons] at h ⊢
      rcases h with h | h
      · exact Or.inr (Or.inl h)
      · exact (ih h).imp_right Or.inr

theorem nodup_put {k : κ} {v : ν} {es : List (κ × ν)} (h : (es.map Prod.fst).Nodup) :
    ((put k v es).map Prod.fst).Nodup := by
  induction es with
  | nil => simp [put]
  | cons e es ih =>
    obtain ⟨k', v'⟩ := e
    simp only [List.map_cons, List.nodup_cons] at h
    by_cases hk : k' = k
    · simpa only [put, hk, ↓reduceIte, List.map_cons, List.nodup_cons] using hk ▸ h
    · simp only [put, hk, ↓reduceIte, List.map_cons, List.nodup_cons]
      refine ⟨fun hm => ?_, ih h.2⟩
      rcases mem_map_put hm with rfl | hm
      · exact hk rfl
      · exact h.1 hm

def set (m : JsMap κ ν) (k : κ) (v : ν) : JsMap κ ν := ⟨put k v m.entries, nodup_put m.nodup⟩

def delete (m : JsMap κ ν) (k : κ) : JsMap κ ν := m.filter fun k' _ => k' ≠ k

/-- Update the object stored under `k` in place; nothing happens when there is none. -/
def modify (m : JsMap κ ν) (k : κ) (f : ν → ν) : JsMap κ ν :=
  match m.get k with
  | none => m
  | some v => m.set k (f v)

/-! ### Reading -/

@[simp] theorem get_empty (k : κ) : (empty : JsMap κ ν).get k = none := rfl

theorem find_put (k k' : κ) (v : ν) (es : List (κ × ν)) :
    find k' (put k v es) = if k = k' then some v else find k' es := by
  induction es with
  | nil => rfl
  | cons e es ih =>
    obtain ⟨x, w⟩ := e
    by_cases hx : x = k
    · subst hx
      by_cases hk : x = k' <;> simp [put, find, hk]
    · by_cases hk : k = k'
      · subst hk
        simpa [put, find, hx] using ih
      · simp only [hk, ↓reduceIte] at ih
        simp [put, find, hx, hk, ih]

theorem get_set (m : JsMap κ ν) (k k' : κ) (v : ν) :
    (m.set k v).get k' = if k = k' then some v else m.get k' := find_put k k' v m.entries

@[simp] theorem get_set_self (m : JsMap κ ν) (k : κ) (v : ν) : (m.set k v).get k = some v := by
  simp [get_set]

theorem get_set_of_ne (m : JsMap κ ν) {k k' : κ} (v : ν) (h : k ≠ k') : (m.set k v).get k' = m.get k' := by
  simp [get_set, h]

theorem find_eq_none {k : κ} {es : List (κ × ν)} (h : k ∉ es.map Prod.fst) : find k es = none := by
  induction es with
  | nil => rfl
  | cons e es ih =>
    obtain ⟨x, w⟩ := e
    simp only [List.map_cons, List.mem_cons, not_or] at h
    simp [find, Ne.symm h.1, ih h.2]

theorem find_filter {p : κ → ν → Bool} {k : κ} {es : List (κ × ν)} (h : (es.map Prod.fst).Nodup) :
    find k (es.filter fun e => p e.1 e.2) = (find k es).filter (p k) := by
  induction es with
  | nil => rfl
  | cons e es ih =>
    obtain ⟨x, w⟩ := e
    simp only [List.map_cons, List.nodup_cons] at h
    have ih := ih h.2
    by_cases hx : x = k
    · subst hx
      have hnone : find x es = none := find_eq_none h.1
      by_cases hp : p x w = true
      · simp [find, hp, Option.filter]
      · simp [find, hp, ih, hnone, Option.filter]
    · by_cases hp : p x w = true <;> simp [find, hp, hx, ih]

theorem get_filter (m : JsMap κ ν) (p : κ → ν → Bool) (k : κ) : (m.filter p).get k = (m.get k).filter (p k) :=
  find_filter m.nodup

theorem get_delete (m : JsMap κ ν) (k k' : κ) : (m.delete k).get k' = if k = k' then none else m.get k' := by
  by_cases hk : k = k'
  · subst hk
    cases h : m.get k <;> simp [delete, get_filter, h, Option.filter]
  · cases h : m.get k' <;> simp [delete, get_filter, h, Option.filter, hk, Ne.symm hk]

@[simp] theorem get_delete_self (m : JsMap κ ν) (k : κ) : (m.delete k).get k = none := by simp [get_delete]

theorem get_delete_of_ne (m : JsMap κ ν) {k k' : κ} (h : k ≠ k') : (m.delete k).get k' = m.get k' := by
  simp [get_delete, h]

theorem get_modify (m : JsMap κ ν) (k k' : κ) (f : ν → ν) :
    (m.modify k f).get k' = if k = k' then (m.get k').map f else m.get k' := by
  unfold modify
  by_cases hk : k = k'
  · subst hk
    cases h : m.get k <;> simp [h]
  · cases h : m.get k <;> simp [hk, get_set]

/-! ### Lazy expiry

A cache looks an entry up by deleting it when it has expired; a purge deletes all expired entries. -/

section expiry
variable (expired : ν → Bool)

/-- The entry under `k` unless it has expired. -/
def lookup (m : JsMap κ ν) (k : κ) : Option ν := (m.get k).filter fun v => !expired v

/-- Delete the entry under `k` if it has expired. -/
def evict (m : JsMap κ ν) (k : κ) : JsMap κ ν :=
  if (m.get k).any expired then m.delete k else m

/-- Delete every expired entry. -/
def purge (m : JsMap κ ν) : JsMap κ ν := m.filter fun _ v => !expired v

variable {expired}

theorem lookup_eq_some {m : JsMap κ ν} {k : κ} {v : ν} :
    m.lookup expired k = some v ↔ m.get k = some v ∧ expired v = false := by
  simp [lookup, Option.filter_eq_some_iff]

theorem get_evict (m : JsMap κ ν) (k k' : κ) :
    (m.evict expired k).get k' = if k = k' then m.lookup expired k else m.get k' := by
  unfold evict
  by_cases hk : k = k'
  · subst hk
    cases hm : m.get k with
    | none => simp [hm, lookup]
    | some v => cases hv : expired v <;> simp [hm, hv, lookup, Option.filter]
  · cases hm : (m.get k).any expired <;> simp [hk, get_delete_of_ne]

/-- Eviction is not observable by looking up. -/
theorem lookup_evict (m : JsMap κ ν) (k k' : κ) : (m.evict expired k).lookup expired k' = m.lookup expired k' := by
  rw [lookup, get_evict]
  by_cases hk : k = k'
  · subst hk
    simp [lookup]
  · simp [hk, lookup]

theorem get_of_get_evict {m : JsMap κ ν} {k k' : κ} {v : ν} (h : (m.evict expired k).get k' = some v) :
    m.get k' = some v := by
  rw [get_evict] at h
  split at h
  · rename_i hk
    exact hk ▸ (lookup_eq_some.mp h).1
  · exact h

/-- Eviction does nothing to an entry that is still valid. -/
theorem evict_eq_self {m : JsMap κ ν} {k : κ} {v : ν} (h : m.lookup expired k = some v) : m.evict expired k = m := by
  obtain ⟨hm, hv⟩ := lookup_eq_some.mp h
  simp [evict, hm, hv]

theorem get_purge (m : JsMap κ ν) (k : κ) : (m.purge expired).get k = m.lookup expired k := get_filter m _ k

theorem get_of_get_purge {m : JsMap κ ν} {k : κ} {v : ν} (h : (m.purge expired).get k = some v) : m.get k = some v :=
  (lookup_eq_some.mp ((get_purge m k).symm.trans h)).1

/-- A purge is not observable by looking up. -/
theorem lookup_purge (m : JsMap κ ν) (k : κ) : (m.purge expired).lookup expired k = m.lookup expired k := by
  rw [lookup, get_purge]
  simp [lookup]

end expiry

theorem mem_of_find {k : κ} {v : ν} {es : List (κ × ν)} (h : find k es = some v) : (k, v) ∈ es := by
  induction es with
  | nil => simp [find] at h
  | cons e es ih =>
    obtain ⟨x, w⟩ := e
    by_cases hx : x = k
    · simp only [find, hx, ↓reduceIte, Option.some.injEq] at h
      simp [hx, h]
    · simp only [find, hx, ↓reduceIte] at h
      exact List.mem_cons_of_mem _ (ih h)

theorem find_of_mem {k : κ} {v : ν} {es : List (κ × ν)} (hn : (es.map Prod.fst).Nodup) (h : (k, v) ∈ es) :
    find k es = some v := by
  induction es with
  | nil => simp at h
  | cons e es ih =>
    obtain ⟨x, w⟩ := e
    simp only [List.map_cons, List.nodup_cons] at hn
    rcases List.mem_cons.mp h with h | h
    · obtain ⟨rfl, rfl⟩ := Prod.mk.inj h
      simp [find]
    · have hx : x ≠ k := fun hx => hn.1 (hx ▸ List.mem_map_of_mem (f := Prod.fst) h)
      simp [find, hx, ih hn.2 h]

theorem mem_entries_iff (m : JsMap κ ν) {k : κ} {v : ν} : (k, v) ∈ m.entries ↔ m.get k = some v :=
  ⟨find_of_mem m.nodup, mem_of_find⟩

/-! ### Size -/

def size (m : JsMap κ ν) : Nat := m.entries.length

theorem length_put {k : κ} {v : ν} {es : List (κ × ν)} (h : (es.map Prod.fst).Nodup) :
    (put k v es).length = (es.filter fun e => e.1 ≠ k).length + 1 := by
  induction es with
  | nil => rfl
  | cons e es ih =>
    obtain ⟨k', v'⟩ := e
    simp only [List.map_cons, List.nodup_cons] at h
    by_cases hk : k' = k
    · subst hk
      have hothers : es.filter (fun e => e.1 ≠ k') = es := by
        refine List.filter_eq_self.mpr fun e he => decide_eq_true fun hk => h.1 ?_
        exact hk ▸ List.mem_map_of_mem he
      rw [put, if_pos rfl, List.filter_cons_of_neg (by simp), hothers]
      rfl
    · simp [put, hk, ih h.2]

/-- Setting adds at most the entry of its key to the others. -/
theorem size_set (m : JsMap κ ν) (k : κ) (v : ν) : (m.set k v).size = (m.delete k).size + 1 := length_put m.nodup

theorem size_delete_le (m : JsMap κ ν) (k : κ) : (m.delete k).size ≤ m.size := List.length_filter_le ..

/-- A map is no larger than a list of all its keys. -/
theorem size_le_length {m : JsMap κ ν} {ks : List κ} (h : ∀ k v, m.get k = some v → k ∈ ks) : m.size ≤ ks.length := by
  have hsub : m.keys ⊆ ks := by
    intro k hk
    obtain ⟨⟨k, v⟩, hmem, rfl⟩ := List.mem_map.mp hk
    exact h k v (m.mem_entries_iff.mp hmem)
  have hle : m.keys.length ≤ ks.length := m.nodup.length_le_of_subset hsub
  rwa [keys, List.length_map] at hle

end JsMap

/-- A set as the list of its elements in insertion order. -/
abbrev JsSet (α : Type) := List α

namespace JsSet
variable {α : Type} [DecidableEq α]

def add (s : JsSet α) (a : α) : JsSet α := if a ∈ s then s else s ++ [a]

def delete (s : JsSet α) (a : α) : JsSet α := s.filter (· ≠ a)

@[simp] theorem mem_add {s : JsSet α} {a b : α} : b ∈ add s a ↔ b = a ∨ b ∈ s := by
  unfold add
  split
  · rename_i h
    exact ⟨Or.inr, fun hb => hb.elim (fun hb => hb ▸ h) id⟩
  · simp [or_comm]

@[simp] theorem mem_delete {s : JsSet α} {a b : α} : b ∈ delete s a ↔ b ∈ s ∧ b ≠ a := by
  simp [delete]

theorem add_of_mem {s : JsSet α} {a : α} (h : a ∈ s) : add s a = s := if_pos h

theorem nodup_add {s : JsSet α} {a : α} (h : s.Nodup) : (add s a).Nodup := by
  unfold add
  split
  · exact h
  · rename_i ha
    exact List.nodup_append.mpr ⟨h, by simp, fun x hx y hy => by
      rw [List.mem_singleton.mp hy]
      exact fun e => ha (e ▸ hx)⟩

end JsSet
end TicTacToe
