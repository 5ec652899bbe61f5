import Mathlib.Tactic.Common
import Mathlib.Data.List.DropRight
import Mathlib.Data.List.Nodup

/-! # Numbered logs

The entries of a log carry increasing numbers. A buffer that keeps the last `n` entries of such a log has
everything from the number of any of its entries on. -/

namespace TicTacToe
variable {α : Type} {num : α → Nat} {bound n : Nat} {log : List α} {a b : α}

/-- The numbers increase strictly and are at most `bound`. -/
structure Numbered (num : α → Nat) (bound : Nat) (log : List α) : Prop where
  increasing : log.Pairwise fun a b => num a < num b
  le : ∀ a ∈ log, num a ≤ bound

namespace Numbered

theorem nil : Numbered num bound [] := ⟨.nil, fun a h => by simp at h⟩

theorem one (h : num a ≤ bound) : Numbered num bound [a] :=
  ⟨List.pairwise_singleton _ _, fun b hb => by rwa [List.mem_singleton.mp hb]⟩

theorem mono {bound' : Nat} (h : Numbered num bound log) (hb : bound ≤ bound') : Numbered num bound' log :=
  ⟨h.increasing, fun a ha => (h.le a ha).trans hb⟩

theorem sublist {log' : List α} (h : Numbered num bound log) (hs : log'.Sublist log) : Numbered num bound log' :=
  ⟨h.increasing.sublist hs, fun a ha => h.le a (hs.subset ha)⟩

/-- Two logs, the second of which goes on where the first has ended. -/
theorem append {log' : List α} {bound' : Nat} (h : Numbered num bound log) (h' : Numbered num bound' log')
    (hle : bound ≤ bound') (hlt : ∀ a ∈ log', bound < num a) : Numbered num bound' (log ++ log') := by
  refine ⟨List.pairwise_append.mpr ⟨h.increasing, h'.increasing, fun a ha b hb => ?_⟩, fun a ha => ?_⟩
  · exact Nat.lt_of_le_of_lt (h.le a ha) (hlt b hb)
  · rcases List.mem_append.mp ha with ha | ha
    · exact (h.le a ha).trans hle
    · exact h'.le a ha

theorem concat (h : Numbered num bound log) (hlt : bound < num a) : Numbered num (num a) (log ++ [a]) :=
  h.append (.one (Nat.le_refl _)) hlt.le fun b hb => by rwa [List.mem_singleton.mp hb]

/-- An entry is found by its number. -/
theorem inj (h : Numbered num bound log) (ha : a ∈ log) (hb : b ∈ log) (hab : num a = num b) : a = b := by
  induction log with
  | nil => simp at ha
  | cons c log ih =>
    obtain ⟨hlt, htail⟩ := List.pairwise_cons.mp h.increasing
    have hrest : Numbered num bound log := ⟨htail, fun x hx => h.le x (List.mem_cons_of_mem _ hx)⟩
    rcases List.mem_cons.mp ha with rfl | ha' <;> rcases List.mem_cons.mp hb with rfl | hb'
    · rfl
    · exact absurd hab (Nat.ne_of_lt (hlt b hb'))
    · exact absurd hab (Nat.ne_of_gt (hlt a ha'))
    · exact ih hrest ha' hb'

/-- The entries from a number on are the end of the log. -/
theorem filter_from (h : Numbered num bound log) (n : Nat) : log.filter (fun a => decide (n ≤ num a)) <:+ log := by
  induction log with
  | nil => exact List.suffix_refl []
  | cons a log ih =>
    obtain ⟨hlt, htail⟩ := List.pairwise_cons.mp h.increasing
    by_cases ha : n ≤ num a
    · have hall : ∀ b ∈ a :: log, decide (n ≤ num b) = true := by
        intro b hb
        rcases List.mem_cons.mp hb with rfl | hb
        · exact decide_eq_true ha
        · exact decide_eq_true (ha.trans (hlt b hb).le)
      exact ⟨[], List.filter_eq_self.mpr hall⟩
    · rw [List.filter_cons_of_neg (by simpa using ha)]
      exact (ih ⟨htail, fun b hb => h.le b (List.mem_cons_of_mem a hb)⟩).trans (List.suffix_cons a log)

end Numbered

/-! ### The last entries -/

/-- Trimming after every append keeps the last entries of the whole log. -/
theorem rtake_append_rtake (log : List α) (n : Nat) (a : α) : (log.rtake n ++ [a]).rtake n = (log ++ [a]).rtake n := by
  simp only [List.rtake, List.length_append, List.length_drop, List.length_singleton, List.drop_append, List.drop_drop]
  by_cases hn : log.length ≤ n
  · have hzero : log.length - n = 0 := by omega
    simp [hzero]
  · have hsum : log.length - n + (log.length - (log.length - n) + 1 - n) = log.length + 1 - n := by omega
    have hnil : log.length - (log.length - n) + 1 - n - (log.length - (log.length - n)) =
        log.length + 1 - n - log.length := by omega
    rw [hsum, hnil]

theorem mem_of_mem_rtake (h : a ∈ log.rtake n) : a ∈ log := List.mem_of_mem_drop h

theorem length_rtake (log : List α) (n : Nat) : (log.rtake n).length = min log.length n := by
  simp only [List.rtake, List.length_drop]
  omega

/-- A log is what has been dropped and what is kept of it. -/
theorem rdrop_append_rtake (log : List α) (n : Nat) : log.rdrop n ++ log.rtake n = log := List.take_append_drop _ _

namespace Numbered

/-- The numbers of the kept entries are above those of the dropped ones. -/
theorem dropped_lt (h : Numbered num bound log) (ha : a ∈ log.rdrop n) (hb : b ∈ log.rtake n) : num a < num b := by
  have hsplit := h.increasing
  rw [← rdrop_append_rtake log n] at hsplit
  exact (List.pairwise_append.mp hsplit).2.2 a ha b hb

/-- Nothing that comes after a kept entry has been dropped. -/
theorem mem_rtake_of_le (h : Numbered num bound log) (ha : a ∈ log.rtake n) (hb : b ∈ log) (hab : num a ≤ num b) :
    b ∈ log.rtake n := by
  rw [← rdrop_append_rtake log n] at hb
  rcases List.mem_append.mp hb with hb | hb
  · exact absurd (h.dropped_lt hb ha) (Nat.not_lt.mpr hab)
  · exact hb

/-- A dropped entry has been followed by `n` others. -/
theorem length_later (h : Numbered num bound log) (ha : a ∈ log) (hdropped : a ∉ log.rtake n) :
    n ≤ (log.filter fun b => num a < num b).length := by
  have ha' := ha
  rw [← rdrop_append_rtake log n] at ha'
  have hold : a ∈ log.rdrop n := (List.mem_append.mp ha').resolve_right hdropped
  have hlong : n < log.length := by
    by_contra hshort
    refine hdropped ?_
    rwa [List.rtake, Nat.sub_eq_zero_of_le (Nat.not_lt.mp hshort), List.drop_zero]
  have hall : (log.rtake n).filter (fun b => num a < num b) = log.rtake n :=
    List.filter_eq_self.mpr fun b hb => decide_eq_true (h.dropped_lt hold hb)
  have hle : (log.rtake n).length ≤ (log.filter fun b => num a < num b).length := by
    rw [← hall]
    exact (List.Sublist.filter _ (List.drop_sublist _ _)).length_le
  rw [length_rtake] at hle
  omega

/-- A selection that has lost nothing is the same in the buffer and in the log. -/
theorem filter_rtake (h : Numbered num bound log) {p : α → Bool} (hkept : ∀ a ∈ log, p a = true → a ∈ log.rtake n) :
    (log.rtake n).filter p = log.filter p := by
  have hnone : (log.rdrop n).filter p = [] := by
    refine List.filter_eq_nil_iff.mpr fun a ha hp => ?_
    have hmem : a ∈ log := (List.take_sublist _ _).subset ha
    exact absurd (h.dropped_lt ha (hkept a hmem hp)) (Nat.lt_irrefl _)
  conv_rhs => rw [← rdrop_append_rtake log n]
  rw [List.filter_append, hnone, List.nil_append]

end Numbered
end TicTacToe
