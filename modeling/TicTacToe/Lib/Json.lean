import TicTacToe.Lib.JsNumber

/-! # JSON values

The values that `JSON.parse` returns, and the reading of their fields. A missing field is `undefined`, so what a program
reads is an optional value. -/

namespace TicTacToe

/-- A string as its UTF-16 code units. -/
abbrev JsString := List UInt16

/-- The code units of a character: one, or a surrogate pair. -/
def utf16Units (c : Char) : JsString :=
  if c.toNat < 0x10000 then [c.toNat.toUInt16]
  else [(0xD800 + (c.toNat - 0x10000) / 0x400).toUInt16, (0xDC00 + (c.toNat - 0x10000) % 0x400).toUInt16]

/-- The code units of a text. -/
def utf16 (text : String) : JsString := text.toList.flatMap utf16Units

/-- A value of JSON. The fields of an object stand in the order of their creation; none is named like an array index. -/
inductive Json where
  | null
  | boolean (b : Bool)
  | number (x : JsNumber)
  | string (s : JsString)
  | array (items : List Json)
  | object (fields : List (String × Json))

namespace Json

def text (s : String) : Json := string (utf16 s)

def nat (n : Nat) : Json := number (.ofNat n)

def int (n : Int) : Json := number (.finite n)

def orNull : Option Json → Json
  | none => null
  | some v => v

/-! ### Values that survive -/

mutual

/-- Every number is finite and no object has a field twice, so `JSON.parse` gives the value back. -/
def stable : Json → Bool
  | null => true
  | boolean _ => true
  | number x => x.isFinite
  | string _ => true
  | array items => stableItems items
  | object fields => (fields.map Prod.fst).Nodup && stableFields fields

def stableItems : List Json → Bool
  | [] => true
  | v :: items => v.stable && stableItems items

def stableFields : List (String × Json) → Bool
  | [] => true
  | (_, v) :: fields => v.stable && stableFields fields

end

theorem stableItems_iff {items : List Json} : stableItems items = true ↔ ∀ v ∈ items, v.stable = true := by
  induction items with
  | nil => simp [stableItems]
  | cons v items ih => simp [stableItems, ih]

theorem stableFields_iff {fields : List (String × Json)} :
    stableFields fields = true ↔ ∀ e ∈ fields, e.2.stable = true := by
  induction fields with
  | nil => simp [stableFields]
  | cons e fields ih => simp [stableFields, ih]

@[simp] theorem stable_text (s : String) : (text s).stable = true := rfl

@[simp] theorem stable_nat (n : Nat) : (nat n).stable = true := rfl

@[simp] theorem stable_int (n : Int) : (int n).stable = true := rfl

theorem stable_array {items : List Json} (h : ∀ v ∈ items, v.stable = true) : (array items).stable = true :=
  stableItems_iff.mpr h

theorem stable_object {fields : List (String × Json)} (hnames : (fields.map Prod.fst).Nodup)
    (h : ∀ e ∈ fields, e.2.stable = true) : (object fields).stable = true := by
  rw [stable, stableFields_iff.mpr h, decide_eq_true hnames]
  rfl

/-! ### Reading -/

/-- The value of a field. -/
def find (name : String) : List (String × Json) → Option Json
  | [] => none
  | (name', v) :: fields => if name' = name then some v else find name fields

/-- `v[name]`, for a name that no prototype has. -/
def field (v : Option Json) (name : String) : Option Json :=
  match v with
  | some (object fields) => find name fields
  | _ => none

def isNull : Option Json → Bool
  | some null => true
  | _ => false

/-- `typeof v === 'object'`, and neither null nor an array. -/
def isObject : Option Json → Bool
  | some (object _) => true
  | _ => false

def isArray : Option Json → Bool
  | some (array _) => true
  | _ => false

/-- The items of an array. -/
def items : Option Json → List Json
  | some (array items) => items
  | _ => []

def isString : Option Json → Bool
  | some (string _) => true
  | _ => false

def isBoolean : Option Json → Bool
  | some (boolean _) => true
  | _ => false

/-- A string with a property. -/
def stringWith (p : JsString → Bool) : Option Json → Bool
  | some (string s) => p s
  | _ => false

/-- `v === text`. -/
def isText (text : String) : Option Json → Bool := stringWith (· = utf16 text)

/-- A finite number with a property. -/
def numberWith (p : JsNumber → Bool) : Option Json → Bool
  | some (number x) => x.isFinite && p x
  | _ => false

end Json

/-! ### Texts -/

/-- `JSON.stringify` and `JSON.parse`; a text on which `parse` throws is parsed to `none`. -/
structure JsonTexts (Text : Type) where
  stringify : Json → Text
  parse : Text → Option Json

/-- `JSON.parse` undoes `JSON.stringify` on `v`, if `v` is a value that can survive. -/
def JsonTexts.Undoes {Text : Type} (J : JsonTexts Text) (v : Json) : Prop :=
  v.stable = true → J.parse (J.stringify v) = some v

end TicTacToe
