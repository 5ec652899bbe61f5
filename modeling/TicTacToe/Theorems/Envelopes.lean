import TicTacToe.Protocol.Encoding

/-! # Envelopes

The fields that every message begins with, as the guards read them, and the types that tell messages apart. -/

namespace TicTacToe
open Json

/-! ### The first four fields -/

section Base
variable {stamp : Stamp} {type : String}

/-- The guard of the first four fields, whatever follows. -/
theorem isBaseEnvelope_base (hs : stamp.Valid) (htype : utf16 type ≠ []) (fields : List (String × Json)) :
    isBaseEnvelope (some (object (baseFields stamp type ++ fields))) = true := by
  have hclock : (JsNumber.ofNat 0).lt (.finite stamp.timestamp) = true := by
    rw [JsNumber.zero_lt_int, decide_eq_true hs.timestamp]
  simp [isBaseEnvelope, baseFields, isObject, field, find, isNat, isUuidLike, isPositiveNumber, numberWith, stringWith,
    nat, text, int, JsNumber.isFinite, hs.messageId, hclock, htype]
  rfl

theorem stable_base (stamp : Stamp) (type : String) : ∀ e ∈ baseFields stamp type, e.2.stable = true := by
  simp [baseFields]

theorem field_type (stamp : Stamp) (type : String) (fields : List (String × Json)) :
    field (some (object (baseFields stamp type ++ fields))) "type" = some (text type) := by
  simp [baseFields, field, find]

/-- The other fields of an object follow those of the envelope. -/
theorem field_base {name : String} (hname : name ∉ (baseFields stamp type).map Prod.fst)
    (fields : List (String × Json)) :
    field (some (object (baseFields stamp type ++ fields))) name = find name fields := by
  simp only [baseFields, List.map_cons, List.map_nil, List.mem_cons, List.not_mem_nil, or_false, not_or] at hname
  obtain ⟨h₁, h₂, h₃, h₄⟩ := hname
  simp [baseFields, field, find, Ne.symm h₁, Ne.symm h₂, Ne.symm h₃, Ne.symm h₄]

end Base

/-! ### Types -/

theorem isText_type {v : Option Json} {type : String} (hv : field v "type" = some (text type)) (type' : String) :
    isText type' (field v "type") = decide (utf16 type = utf16 type') := by
  rw [hv]
  rfl

/-- The first type with the text of a value is the value's own. -/
theorem find_type {T : Type} {all : List T} {texts : T → String} {v : Option Json} {type : T} (hmem : type ∈ all)
    (hinj : ∀ a ∈ all, utf16 (texts a) = utf16 (texts type) → a = type)
    (hv : field v "type" = some (text (texts type))) :
    (all.find? fun a => isText (texts a) (field v "type")) = some type := by
  induction all with
  | nil => cases hmem
  | cons a all ih =>
    rw [List.find?_cons, isText_type hv]
    by_cases ha : utf16 (texts type) = utf16 (texts a)
    · rw [decide_eq_true ha, hinj a List.mem_cons_self ha.symm]
    · rw [decide_eq_false ha]
      refine ih ((List.mem_cons.mp hmem).resolve_left fun he => ha (he ▸ rfl)) fun b hb => ?_
      exact hinj b (List.mem_cons_of_mem _ hb)

/-! ### The types of commands -/

namespace CommandType

theorem mem_all (type : CommandType) : type ∈ all := by cases type <;> decide

theorem text_injective {a b : CommandType} (h : utf16 a.text = utf16 b.text) : a = b := by
  have hall : ∀ a ∈ all, ∀ b ∈ all, utf16 a.text = utf16 b.text → a = b := by decide +kernel
  exact hall a a.mem_all b b.mem_all h

theorem text_ne_nil (type : CommandType) : utf16 type.text ≠ [] := by cases type <;> decide

theorem isText_of_commandGuard {type : CommandType} {check : Option Json → Bool} {v : Option Json}
    (h : commandGuard type check v = true) : isText type.text (field v "type") = true := by
  simp only [commandGuard, Bool.and_eq_true] at h
  exact h.1.2

/-- Every concrete guard checks the type. -/
theorem isText_of_guard {type : CommandType} {v : Option Json} (h : type.guard v = true) :
    isText type.text (field v "type") = true := by
  unfold guard at h
  cases type <;> exact isText_of_commandGuard h

end CommandType

/-- The switch of `isAnyCommand` finds the type that the value has. -/
theorem commandTypeOf_eq {v : Option Json} {type : CommandType} (hv : field v "type" = some (text type.text)) :
    commandTypeOf v = some type := find_type type.mem_all (fun _ _ => CommandType.text_injective) hv

/-- A value passes no guard but that of its type. -/
theorem CommandType.guard_unique {v : Option Json} {type type' : CommandType}
    (hv : field v "type" = some (Json.text type.text)) (h : type'.guard v = true) : type' = type := by
  have htype := isText_of_guard h
  rw [isText_type hv, decide_eq_true_eq] at htype
  exact (text_injective htype).symm

end TicTacToe
