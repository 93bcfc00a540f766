/-
The Python values a YAML document can parse to with the safe loader, and the
operations of Python's own that programs use on a value of unknown type.
-/
import TeslamateWatchdog.Foundation.PyValue
import TeslamateWatchdog.Foundation.Raising

namespace Foundation

/-- The hashable values of a document: what a key of a mapping can be. -/
inductive YamlScalar where
  | null
  | bool (value : Bool)
  | int (value : Int)
  | float (value : PyFloat)
  | str (value : String)
  | bytes (value : List UInt8)
  | date (iso : String)
  | datetime (iso : String)
deriving Repr, DecidableEq

/-- A parsed document.  A mapping keeps its members in document order; a pair
is an entry of an ordered mapping.  An alias stands for the value it names,
unfolded as far as a program looks into it. -/
inductive Yaml where
  | scalar (value : YamlScalar)
  | seq (items : List Yaml)
  | map (members : List (YamlScalar × Yaml))
  | set (items : List YamlScalar)
  | pair (first second : Yaml)
deriving Repr

namespace YamlScalar

/-- `bool(value)`. -/
def truthy : YamlScalar → Bool
  | .null => false
  | .bool value => value
  | .int value => value != 0
  | .float value => value != .finite 0
  | .str value => value != ""
  | .bytes value => !value.isEmpty
  | .date _ => true
  | .datetime _ => true

/-- A number, truth values among them. -/
def isNumber : YamlScalar → Bool
  | .bool _ => true
  | .int _ => true
  | .float _ => true
  | _ => false

/-- `number >= value` of an integer on the left. -/
def reachedBy (number : Int) : YamlScalar → Except PyError Bool
  | .bool value => .ok (decide ((if value then 1 else 0) ≤ number))
  | .int value => .ok (decide (value ≤ number))
  | .float value => .ok (value.le (.finite number))
  | _ => .error .typeError

theorem reachedBy_isOk (number : Int) (value : YamlScalar) :
    (value.reachedBy number).isOk = value.isNumber := by
  cases value <;> rfl

end YamlScalar

namespace Yaml

/-- What stands for a value that a mapping does not hold. -/
abbrev null : Yaml := .scalar .null

/-- `bool(document)`. -/
def truthy : Yaml → Bool
  | .scalar value => value.truthy
  | .seq items => !items.isEmpty
  | .map members => !members.isEmpty
  | .set items => !items.isEmpty
  | .pair _ _ => true

/-- `document or default`. -/
def orElse (document default : Yaml) : Yaml :=
  if document.truthy then document else default

/-- `document.get(key)` for a string key; only a mapping has that method. -/
def get? : Yaml → String → Except PyError (Option Yaml)
  | .map members, key => .ok (members.lookup (.str key))
  | _, _ => .error .attributeError

/-- `document.get(key, default)`. -/
def getD (document : Yaml) (key : String) (default : Yaml) :
    Except PyError Yaml := do
  let found ← document.get? key
  return found.getD default

/-- `document.items()`; only a mapping has that method. -/
def items : Yaml → Except PyError (List (YamlScalar × Yaml))
  | .map members => .ok members
  | _ => .error .attributeError

/-- `{**document}`. -/
def unpack : Yaml → Except PyError (List (YamlScalar × Yaml))
  | .map members => .ok members
  | _ => .error .typeError

/-- What `for item in document` goes through. -/
def iterate : Yaml → Except PyError (List Yaml)
  | .seq items => .ok items
  | .map members => .ok (members.map fun member => .scalar member.1)
  | .set items => .ok (items.map .scalar)
  | .pair first second => .ok [first, second]
  | .scalar (.str value) =>
      .ok (value.toList.map fun c => .scalar (.str (String.singleton c)))
  | .scalar (.bytes value) =>
      .ok (value.map fun byte => .scalar (.int byte.toNat))
  | .scalar _ => .error .typeError

/-- `number >= document` of an integer on the left. -/
def reachedBy (number : Int) : Yaml → Except PyError Bool
  | .scalar value => value.reachedBy number
  | _ => .error .typeError

/-- A number, truth values among them. -/
def isNumber : Yaml → Bool
  | .scalar value => value.isNumber
  | _ => false

/-- A loop can go through the document. -/
def Iterable (document : Yaml) : Prop :=
  document.iterate.isOk = true

/-- The members of a mapping; anything else has none. -/
def members : Yaml → List (YamlScalar × Yaml)
  | .map members => members
  | _ => []

/-- What a mapping holds under a string key, `null` where it holds nothing. -/
def look (document : Yaml) (key : String) : Yaml :=
  (document.members.lookup (.str key)).getD null

/-- The methods of a mapping can be called once `or {}` follows the document. -/
def Maps (document : Yaml) : Prop :=
  document.truthy = true → ∃ members, document = .map members

theorem reachedBy_isOk (number : Int) (document : Yaml) :
    (document.reachedBy number).isOk = document.isNumber := by
  cases document with
  | scalar value => exact value.reachedBy_isOk number
  | _ => rfl

@[simp]
theorem orElse_idem (document default : Yaml) :
    (document.orElse default).orElse default = document.orElse default := by
  by_cases htruthy : document.truthy = true
  · rw [orElse, orElse, if_pos htruthy, if_pos htruthy]
  · rw [orElse, orElse, if_neg htruthy, ite_self]

theorem members_of_not_truthy {document : Yaml}
    (hfalsy : ¬document.truthy = true) : document.members = [] := by
  cases document with
  | map members =>
      cases members with
      | nil => rfl
      | cons member rest => exact absurd rfl hfalsy
  | _ => rfl

/-- `document or {}` is a mapping when the document can stand for one, and then
it has the document's members. -/
theorem orElse_eq_map {document : Yaml} {found : List (YamlScalar × Yaml)} :
    document.orElse (.map []) = .map found ↔
      document.Maps ∧ found = document.members := by
  by_cases htruthy : document.truthy = true
  · rw [orElse, if_pos htruthy, Maps, forall_prop_of_true htruthy]
    constructor
    · rintro rfl
      exact ⟨⟨found, rfl⟩, rfl⟩
    · rintro ⟨⟨members, rfl⟩, rfl⟩
      rfl
  · rw [orElse, if_neg htruthy, members_of_not_truthy htruthy]
    simp [Maps, htruthy, eq_comm]

/-- `(document or {}).get(key)`. -/
theorem orElse_getD_eq_ok {document found : Yaml} {key : String} :
    (document.orElse (.map [])).getD key null = .ok found ↔
      document.Maps ∧ found = document.look key := by
  constructor
  · intro hget
    cases hraw : document.orElse (.map []) with
    | map members =>
        obtain ⟨hmaps, rfl⟩ := orElse_eq_map.mp hraw
        rw [hraw] at hget
        exact ⟨hmaps, (Except.ok.inj hget).symm⟩
    | _ =>
        rw [hraw] at hget
        cases hget
  · rintro ⟨hmaps, rfl⟩
    rw [orElse_eq_map.mpr ⟨hmaps, rfl⟩]
    rfl

/-- `(document or {}).items()`. -/
theorem orElse_items_eq_ok {document : Yaml}
    {found : List (YamlScalar × Yaml)} :
    (document.orElse (.map [])).items = .ok found ↔
      document.Maps ∧ found = document.members := by
  rw [← orElse_eq_map]
  cases document.orElse (.map []) <;> simp [items]

/-- `{**(document or {})}`. -/
theorem orElse_unpack_eq_ok {document : Yaml}
    {found : List (YamlScalar × Yaml)} :
    (document.orElse (.map [])).unpack = .ok found ↔
      document.Maps ∧ found = document.members := by
  rw [← orElse_eq_map]
  cases document.orElse (.map []) <;> simp [unpack]

end Yaml

end Foundation
