/-
Turning texts and parsed JSON into Python numbers and strings: `int(x)`,
`float(x)` and `str(x)`.
-/
import Mathlib.Data.Nat.Digits.Defs
import TeslamateWatchdog.Foundation.PyText
import TeslamateWatchdog.Foundation.PyValue

namespace Foundation

namespace PyText

/-- The zeros of the runs of ten decimal digits in Unicode 15. -/
def digitZeros : List Nat :=
  [0x30, 0x660, 0x6f0, 0x7c0, 0x966, 0x9e6, 0xa66, 0xae6, 0xb66, 0xbe6, 0xc66,
    0xce6, 0xd66, 0xde6, 0xe50, 0xed0, 0xf20, 0x1040, 0x1090, 0x17e0, 0x1810,
    0x1946, 0x19d0, 0x1a80, 0x1a90, 0x1b50, 0x1bb0, 0x1c40, 0x1c50, 0xa620,
    0xa8d0, 0xa900, 0xa9d0, 0xa9f0, 0xaa50, 0xabf0, 0xff10, 0x104a0, 0x10d30,
    0x11066, 0x110f0, 0x11136, 0x111d0, 0x112f0, 0x11450, 0x114d0, 0x11650,
    0x116c0, 0x11730, 0x118e0, 0x11950, 0x11c50, 0x11d50, 0x11da0, 0x11f50,
    0x16a60, 0x16ac0, 0x16b50, 0x1d7ce, 0x1d7d8, 0x1d7e2, 0x1d7ec, 0x1d7f6,
    0x1e140, 0x1e2f0, 0x1e4f0, 0x1e950, 0x1fbf0]

/-- The value of a Unicode decimal digit. -/
def digit? (c : Char) : Option Nat :=
  (digitZeros.find? fun first => first ≤ c.toNat && c.toNat < first + 10).map
    (c.toNat - ·)

/-- Read the digits at the front, with single underscores between them: their
value, their number and what follows. -/
def readDigits (value count : Nat) : List Char → Nat × Nat × List Char
  | [] => (value, count, [])
  | '_' :: c :: rest =>
      match digit? c with
      | some digit =>
          if 0 < count then readDigits (value * 10 + digit) (count + 1) rest
          else (value, count, '_' :: c :: rest)
      | none => (value, count, '_' :: c :: rest)
  | c :: rest =>
      match digit? c with
      | some digit => readDigits (value * 10 + digit) (count + 1) rest
      | none => (value, count, c :: rest)

/-- A leading sign: whether it was a minus, and what follows. -/
def readSign : List Char → Bool × List Char
  | '-' :: rest => (true, rest)
  | '+' :: rest => (false, rest)
  | rest => (false, rest)

/-- The exponent part, if it is well formed and ends the text. -/
def readExponent : List Char → Option Int
  | [] => some 0
  | c :: rest =>
      if c == 'e' || c == 'E' then
        let signed := readSign rest
        match readDigits 0 0 signed.2 with
        | (value, count, []) =>
            if count = 0 then none
            else some (if signed.1 then -value else value)
        | _ => none
      else none

/-- The most digits that `int(text)` converts. -/
def maxStrDigits : Nat := 4300

/-- `int(text)`. -/
def toInt (text : String) : Except PyError Int :=
  let signed := readSign (strip text).toList
  match readDigits 0 0 signed.2 with
  | (value, count, []) =>
      if count = 0 ∨ maxStrDigits < count then .error .valueError
      else .ok (if signed.1 then -value else value)
  | _ => .error .valueError

/-- A character that `\d` matches. -/
def isDecimal (c : Char) : Bool :=
  (digit? c).isSome

/-- The number that digits stand for, the most significant one first. -/
def decimalValue (digits : List Char) : Nat :=
  Nat.ofDigits 10 (digits.map fun c => (digit? c).getD 0).reverse

/-- What holds of every run of ten digits holds of every digit. -/
theorem of_isDecimal {p : Char → Bool}
    (hruns : (digitZeros.all fun first => (List.range 10).all fun offset =>
      p (Char.ofNat (first + offset))) = true)
    {c : Char} (hdecimal : isDecimal c = true) : p c = true := by
  rw [isDecimal, digit?, Option.isSome_map, List.find?_isSome] at hdecimal
  obtain ⟨first, hfirst, hrange⟩ := hdecimal
  rw [Bool.and_eq_true, decide_eq_true_eq, decide_eq_true_eq] at hrange
  rw [List.all_eq_true] at hruns
  have hrun := hruns first hfirst
  rw [List.all_eq_true] at hrun
  have hdigit := hrun (c.toNat - first) (by rw [List.mem_range]; omega)
  rwa [Nat.add_sub_cancel' hrange.1, Char.ofNat_toNat] at hdigit

/-- Digits are no part of the syntax around a number. -/
theorem not_mark_of_isDecimal {c : Char} (hdecimal : isDecimal c = true) :
    isSpace c = false ∧ c ≠ '_' ∧ c ≠ '-' ∧ c ≠ '+' := by
  have hmark := @of_isDecimal
    (fun c => !(isSpace c || c == '_' || c == '-' || c == '+'))
    (by decide +kernel) c hdecimal
  simpa [and_assoc] using hmark

theorem readDigits_of_decimals {digits : List Char}
    (hdecimals : ∀ c ∈ digits, isDecimal c = true) (value count : Nat) :
    readDigits value count digits =
      (digits.foldl (fun value c => value * 10 + (digit? c).getD 0) value,
        count + digits.length, []) := by
  induction digits generalizing value count with
  | nil => rfl
  | cons c rest ih =>
      rw [List.forall_mem_cons] at hdecimals
      obtain ⟨digit, hdigit⟩ := Option.isSome_iff_exists.mp hdecimals.1
      have hmark : ∀ (other : Char) (others : List Char), c = '_' →
          rest = other :: others → False :=
        fun _ _ hmark => absurd hmark (not_mark_of_isDecimal hdecimals.1).2.1
      rw [readDigits, hdigit]
      · dsimp only
        rw [ih hdecimals.2, List.foldl_cons, hdigit, Option.getD_some,
          List.length_cons, Nat.add_assoc, Nat.add_comm 1]
      · exact hmark

theorem decimalValue_eq_foldl (digits : List Char) :
    decimalValue digits =
      digits.foldl (fun value c => value * 10 + (digit? c).getD 0) 0 := by
  rw [decimalValue, Nat.ofDigits_eq_foldr, List.foldr_reverse, List.foldl_map]
  simp only [Nat.cast_id, Nat.add_comm, Nat.mul_comm]

/-- `int(text)` of a text of digits is their number. -/
theorem toInt_of_decimals {digits : List Char} (hnonempty : digits ≠ [])
    (hdecimals : ∀ c ∈ digits, isDecimal c = true)
    (hlimit : digits.length ≤ maxStrDigits) :
    toInt (String.ofList digits) = .ok (decimalValue digits) := by
  have hstrip : (strip (String.ofList digits)).toList = digits := by
    have hfront : digits.dropWhile isSpace = digits := by
      rw [List.dropWhile_eq_self_iff]
      intro hlength
      rw [(not_mark_of_isDecimal (hdecimals _ (List.getElem_mem hlength))).1]
      exact Bool.false_ne_true
    have hback : digits.rdropWhile isSpace = digits := by
      rw [List.rdropWhile_eq_self_iff]
      intro hend
      rw [(not_mark_of_isDecimal (hdecimals _ (List.getLast_mem hend))).1]
      exact Bool.false_ne_true
    rw [strip, String.toList_ofList, String.toList_ofList, hfront, hback]
  have hsign : readSign digits = (false, digits) := by
    cases digits with
    | nil => rfl
    | cons c rest =>
        have hmark := not_mark_of_isDecimal (hdecimals c List.mem_cons_self)
        rw [readSign]
        · intro other hminus
          exact hmark.2.2.1 (List.cons.inj hminus).1
        · intro other hplus
          exact hmark.2.2.2 (List.cons.inj hplus).1
  have hcount : ¬(digits.length = 0 ∨ maxStrDigits < digits.length) := by
    have hpositive := List.length_pos_of_ne_nil hnonempty
    omega
  unfold toInt
  rw [hstrip, hsign]
  dsimp only
  rw [readDigits_of_decimals hdecimals, Nat.zero_add, decimalValue_eq_foldl]
  exact if_neg hcount

end PyText

/-- From here on an exact value rounds to infinity. -/
def floatOverflow : ℚ := 2 ^ 1024 - 2 ^ 970

namespace PyFloat

/-- The float an exact value rounds to. -/
def ofRat (value : ℚ) : PyFloat :=
  if floatOverflow ≤ value then .posInf
  else if value ≤ -floatOverflow then .negInf
  else .finite (nearest value)

/-- `float(text)`. -/
def parse (text : String) : Except PyError PyFloat :=
  let signed := PyText.readSign (PyText.strip text).toList
  let name := (String.ofList signed.2).toLower
  if name = "inf" || name = "infinity" then
    .ok (if signed.1 then .negInf else .posInf)
  else if name = "nan" then .ok .nan
  else
    let whole := PyText.readDigits 0 0 signed.2
    let fraction :=
      match whole.2.2 with
      | '.' :: rest => PyText.readDigits 0 0 rest
      | rest => (0, 0, rest)
    if whole.2.1 + fraction.2.1 = 0 then .error .valueError
    else
      match PyText.readExponent fraction.2.2 with
      | none => .error .valueError
      | some exponent =>
          let mantissa : ℚ := whole.1 + fraction.1 / 10 ^ fraction.2.1
          let value : ℚ := mantissa * 10 ^ exponent
          .ok (ofRat (if signed.1 then -value else value))

end PyFloat

namespace Json

/-- `float(document)`. -/
def toFloat : Json → Except PyError PyFloat
  | .bool value => .ok (.finite (if value then 1 else 0))
  | .int value =>
      if floatOverflow ≤ |(value : ℚ)| then .error .overflowError
      else .ok (.finite (PyFloat.nearest value))
  | .float value => .ok value
  | .str text => PyFloat.parse text
  | _ => .error .typeError

/-- `repr` of a float.  Whole numbers are printed as Python does; any other
finite value as the fraction it is. -/
def reprFloat : PyFloat → String
  | .finite value => if value.den = 1 then toString value.num ++ ".0"
      else toString value
  | .posInf => "inf"
  | .negInf => "-inf"
  | .nan => "nan"

mutual

/-- `repr(document)`. -/
def repr : Json → String
  | .null => "None"
  | .bool value => if value then "True" else "False"
  | .int value => toString value
  | .float value => reprFloat value
  | .str text => PyText.repr text
  | .arr items => "[" ++ ", ".intercalate (reprItems items) ++ "]"
  | .obj members => "\x7b" ++ ", ".intercalate (reprMembers members) ++ "\x7d"

def reprItems : List Json → List String
  | [] => []
  | item :: rest => repr item :: reprItems rest

def reprMembers : List (String × Json) → List String
  | [] => []
  | (key, value) :: rest =>
      (PyText.repr key ++ ": " ++ repr value) :: reprMembers rest

end

/-- `str(document)`. -/
def toStr : Json → String
  | .str text => text
  | document => repr document

end Json

end Foundation
