/-
The Python values the watchdog's own values are made of: the exceptions that
can leave a call, floats with their special values, and parsed JSON.
-/
import Mathlib.Algebra.Order.Ring.Rat
import Mathlib.Data.Int.Log
import Mathlib.Data.Rat.Floor

namespace Foundation

/-- The exception classes a modelled call can raise. -/
inductive PyError where
  | attributeError
  | indexError
  | keyError
  | osError
  | overflowError
  | recursionError
  | runtimeError
  | typeError
  | valueError
deriving Repr, DecidableEq

/-- A Python float.  Finite floats are kept as the rational they denote, and
arithmetic on them is exact: clock readings of this century and whole seconds
add and subtract without rounding. -/
inductive PyFloat where
  | finite (value : ℚ)
  | posInf
  | negInf
  | nan
deriving Repr, DecidableEq

namespace PyFloat

/-- `left <= right`, false as soon as one side is NaN. -/
def le : PyFloat → PyFloat → Bool
  | .nan, _ => false
  | _, .nan => false
  | .negInf, _ => true
  | _, .posInf => true
  | .finite left, .finite right => decide (left ≤ right)
  | .posInf, _ => false
  | .finite _, .negInf => false

/-- `left < right`. -/
def lt (left right : PyFloat) : Bool :=
  left.le right && !right.le left

def sub : PyFloat → PyFloat → PyFloat
  | .finite left, .finite right => .finite (left - right)
  | .nan, _ => .nan
  | _, .nan => .nan
  | .posInf, .posInf => .nan
  | .negInf, .negInf => .nan
  | .posInf, _ => .posInf
  | .negInf, _ => .negInf
  | .finite _, .posInf => .negInf
  | .finite _, .negInf => .posInf

/-- `max(left, right)`: the first argument unless the second is greater. -/
def max (left right : PyFloat) : PyFloat :=
  if left.lt right then right else left

/-- Rounding towards zero. -/
def truncate (value : ℚ) : Int :=
  if 0 ≤ value then ⌊value⌋ else ⌈value⌉

/-- Round to the nearest integer, ties to the even one. -/
def roundHalfEven (value : ℚ) : Int :=
  let below := ⌊value⌋
  let rest := value - below
  if rest < 1 / 2 then below
  else if 1 / 2 < rest then below + 1
  else if below % 2 = 0 then below
  else below + 1

/-- The double nearest to an exact value: 53 binary digits, of which none stands
for less than the least positive double. -/
def nearest (value : ℚ) : ℚ :=
  let unit : ℚ := 2 ^ Max.max (Int.log 2 |value| - 52) (-1074)
  roundHalfEven (value / unit) * unit

example : nearest (2 ^ 53 + 1) = 2 ^ 53 ∧ nearest (2 ^ 53 - 1) = 2 ^ 53 - 1 := by
  decide +kernel

/-- `int(x)`. -/
def toInt : PyFloat → Except PyError Int
  | .finite value => .ok (truncate value)
  | .nan => .error .valueError
  | .posInf => .error .overflowError
  | .negInf => .error .overflowError

@[simp]
theorem le_finite (left right : ℚ) :
    le (.finite left) (.finite right) = decide (left ≤ right) := rfl

@[simp]
theorem sub_finite (left right : ℚ) :
    sub (.finite left) (.finite right) = .finite (left - right) := rfl

@[simp]
theorem lt_finite (left right : ℚ) :
    lt (.finite left) (.finite right) = decide (left < right) := by
  by_cases hlt : left < right
  · simp [lt, hlt, hlt.le]
  · simp [lt, hlt, not_lt.mp hlt]

theorem max_finite (left right : ℚ) :
    max (.finite left) (.finite right) = .finite (Max.max left right) := by
  by_cases hlt : left < right
  · simp [max, hlt, max_eq_right hlt.le]
  · simp [max, hlt, max_eq_left (not_lt.mp hlt)]

end PyFloat

/-- A parsed JSON document.  Integers and floats are kept apart, as the parser
does; an object keeps its members in document order. -/
inductive Json where
  | null
  | bool (value : Bool)
  | int (value : Int)
  | float (value : PyFloat)
  | str (value : String)
  | arr (items : List Json)
  | obj (members : List (String × Json))
deriving Repr

namespace Json

/-- `document.get(key)`; only an object has that method. -/
def get? : Json → String → Except PyError (Option Json)
  | .obj members, key => .ok (members.lookup key)
  | _, _ => .error .attributeError

/-- `document[key]` for a string key. -/
def index : Json → String → Except PyError Json
  | .obj members, key =>
      match members.lookup key with
      | some value => .ok value
      | none => .error .keyError
  | _, _ => .error .typeError

/-- `document.get(key, default)`. -/
def getD (document : Json) (key : String) (default : Json) :
    Except PyError Json := do
  let found ← document.get? key
  return found.getD default

/-- `bool(document)`. -/
def truthy : Json → Bool
  | .null => false
  | .bool value => value
  | .int value => value != 0
  | .float value => value != .finite 0
  | .str value => value != ""
  | .arr items => !items.isEmpty
  | .obj members => !members.isEmpty

/-- `document or default`. -/
def orElse (document default : Json) : Json :=
  if document.truthy then document else default

/-- What `for item in document` goes through. -/
def iterate : Json → Except PyError (List Json)
  | .arr items => .ok items
  | .obj members => .ok (members.map fun member => .str member.1)
  | .str value => .ok (value.toList.map fun c => .str (String.singleton c))
  | _ => .error .typeError

/-- `document == text` for a string. -/
def isStr : Json → String → Bool
  | .str value, text => value == text
  | _, _ => false

@[simp]
theorem isStr_str (value text : String) :
    isStr (.str value) text = (value == text) := rfl

theorem eq_str_of_isStr {document : Json} {text : String}
    (hstr : document.isStr text = true) : document = .str text := by
  cases document with
  | str value =>
      rw [isStr_str, beq_iff_eq] at hstr
      rw [hstr]
  | _ => cases hstr

/-- What a document holds at the end of a path of keys, `null` where it holds
nothing. -/
def look : Json → List String → Json
  | document, [] => document
  | .obj members, key :: path => ((members.lookup key).getD .null).look path
  | _, _ :: _ => .null

/-- The `get` methods of a document can be called once `or {}` follows it. -/
def Maps (document : Json) : Prop :=
  document.truthy = true → ∃ members, document = .obj members

theorem look_null (path : List String) : null.look path = .null := by
  cases path <;> rfl

theorem look_cons (document : Json) (key : String) (path : List String) :
    document.look (key :: path) = (document.look [key]).look path := by
  cases document with
  | obj members => rfl
  | _ => exact (look_null path).symm

theorem getD_eq_ok {document found : Json} {key : String} :
    document.getD key .null = .ok found ↔
      (∃ members, document = .obj members) ∧ found = document.look [key] := by
  constructor
  · intro hget
    cases document with
    | obj members => exact ⟨⟨members, rfl⟩, (Except.ok.inj hget).symm⟩
    | _ => cases hget
  · rintro ⟨⟨members, rfl⟩, rfl⟩
    rfl

/-- `(document or {}).get(key)` reads what the document has there, and raises on
anything but an object. -/
theorem orElse_getD_eq_ok {document found : Json} {key : String} :
    (document.orElse (.obj [])).getD key .null = .ok found ↔
      document.Maps ∧ found = document.look [key] := by
  by_cases htruthy : document.truthy = true
  · rw [orElse, if_pos htruthy, getD_eq_ok, Maps, forall_prop_of_true htruthy]
  · have hnothing : document.look [key] = .null := by
      cases document with
      | obj members =>
          cases members with
          | nil => rfl
          | cons member rest => exact absurd rfl htruthy
      | _ => rfl
    rw [orElse, if_neg htruthy, hnothing]
    simp [getD, get?, Maps, htruthy, eq_comm]

end Json

end Foundation
