/-
The strings and the numerals of a JSON text, read from its front.  What is read
does not change when the text goes on, as long as a numeral is not continued.
-/
import TeslamateWatchdog.Foundation.JsonText

namespace Foundation

namespace Json

/-- The value of a hexadecimal digit, in either case. -/
def hexValue (c : Char) : Option Nat :=
  let code := c.toNat
  if 0x30 ≤ code ∧ code ≤ 0x39 then some (code - 0x30)
  else if 0x61 ≤ code ∧ code ≤ 0x66 then some (code - 0x61 + 10)
  else if 0x41 ≤ code ∧ code ≤ 0x46 then some (code - 0x41 + 10)
  else none

/-- The code of a character escaped by one letter. -/
def escapeCode (c : Char) : Option Nat :=
  if c = '"' then some 0x22
  else if c = '\\' then some 0x5c
  else if c = '/' then some 0x2f
  else if c = 'b' then some 0x08
  else if c = 'f' then some 0x0c
  else if c = 'n' then some 0x0a
  else if c = 'r' then some 0x0d
  else if c = 't' then some 0x09
  else none

/-- The unit of four hexadecimal digits. -/
def hexUnit (first second third fourth : Char) : Option Nat := do
  let first ← hexValue first
  let second ← hexValue second
  let third ← hexValue third
  let fourth ← hexValue fourth
  return 0x1000 * first + 0x100 * second + 0x10 * third + fourth

/-- The codes of a string up to its closing quote, and what follows: characters
as they are, and one unit for each escape. -/
def readUnits : List Char → Option (List Nat × List Char)
  | [] => none
  | c :: rest =>
      if c = '"' then some ([], rest)
      else if c = '\\' then
        match rest with
        | [] => none
        | letter :: rest =>
            if letter = 'u' then
              match rest with
              | first :: second :: third :: fourth :: rest =>
                  match hexUnit first second third fourth with
                  | some unit =>
                      (readUnits rest).map fun read => (unit :: read.1, read.2)
                  | none => none
              | _ => none
            else
              match escapeCode letter with
              | some code =>
                  (readUnits rest).map fun read => (code :: read.1, read.2)
              | none => none
      else if c.toNat < 0x20 then none
      else (readUnits rest).map fun read => (c.toNat :: read.1, read.2)

/-- The characters of the codes.  Two surrogates are one character; one alone
has no place in a text. -/
def joinUnits : List Nat → Option (List Char)
  | [] => some []
  | unit :: rest =>
      if 0xd800 ≤ unit ∧ unit < 0xdc00 then
        match rest with
        | low :: rest =>
            if 0xdc00 ≤ low ∧ low < 0xe000 then
              (joinUnits rest).map (Char.ofNat
                (0x10000 + 0x400 * (unit - 0xd800) + (low - 0xdc00)) :: ·)
            else none
        | [] => none
      else if 0xdc00 ≤ unit ∧ unit < 0xe000 then none
      else (joinUnits rest).map (Char.ofNat unit :: ·)

/-- A string after its opening quote. -/
def readString (text : List Char) : Option (String × List Char) := do
  let (units, rest) ← readUnits text
  let chars ← joinUnits units
  return (String.ofList chars, rest)

/-- The codes a character is written as. -/
def unitsOf (c : Char) : List Nat :=
  if c.toNat < 0x10000 then [c.toNat]
  else [0xd800 + (c.toNat - 0x10000) / 0x400,
    0xdc00 + (c.toNat - 0x10000) % 0x400]

theorem hexValue_hexDigit : ∀ digit < 16,
    hexValue (PyText.hexDigit digit) = some digit := by
  decide

@[simp]
theorem readUnits_quote (rest : List Char) :
    readUnits ('"' :: rest) = some ([], rest) := by
  rw [readUnits.eq_def]
  simp

theorem readUnits_unit {first second third fourth : Char} {unit : Nat}
    (hunit : hexUnit first second third fourth = some unit)
    (rest : List Char) :
    readUnits ('\\' :: 'u' :: first :: second :: third :: fourth :: rest) =
      (readUnits rest).map fun read => (unit :: read.1, read.2) := by
  rw [readUnits.eq_def]
  simp [hunit]

theorem readUnits_letter {letter : Char} {code : Nat} (hletter : letter ≠ 'u')
    (hcode : escapeCode letter = some code) (rest : List Char) :
    readUnits ('\\' :: letter :: rest) =
      (readUnits rest).map fun read => (code :: read.1, read.2) := by
  rw [readUnits.eq_def]
  simp [hletter, hcode]

theorem readUnits_plain {c : Char} (hquote : c ≠ '"') (hslash : c ≠ '\\')
    (hprintable : 0x20 ≤ c.toNat) (rest : List Char) :
    readUnits (c :: rest) =
      (readUnits rest).map fun read => (c.toNat :: read.1, read.2) := by
  rw [readUnits.eq_def]
  simp [hquote, hslash, Nat.not_lt.mpr hprintable]

theorem readUnits_hexEscape {code : Nat} (hcode : code < 0x10000)
    (rest : List Char) :
    readUnits (hexEscape code ++ rest) =
      (readUnits rest).map fun read => (code :: read.1, read.2) := by
  apply readUnits_unit
  have hdigits := fun place =>
    hexValue_hexDigit (place % 0x10) (Nat.mod_lt _ (by decide))
  have hsum : 0x1000 * (code / 0x1000 % 0x10) +
      0x100 * (code / 0x100 % 0x10) + 0x10 * (code / 0x10 % 0x10) +
        code % 0x10 = code := by omega
  simp only [hexUnit, hdigits, Option.bind_eq_bind, Option.bind_some, hsum]
  rfl

/-- A character is read back as its units, however it was written. -/
theorem readUnits_escapeChar (c : Char) (rest : List Char) :
    readUnits (escapeChar c ++ rest) =
      (readUnits rest).map fun read => (unitsOf c ++ read.1, read.2) := by
  have hsmall : c.toNat < 0x10000 → unitsOf c = [c.toNat] := fun hc => if_pos hc
  by_cases hletter : c ∈ ['"', '\\', '\n', '\r', '\t', '\x08', '\x0c']
  · simp only [List.mem_cons, List.not_mem_nil, or_false] at hletter
    rcases hletter with rfl | rfl | rfl | rfl | rfl | rfl | rfl
    all_goals exact readUnits_letter (by decide) rfl rest
  · simp only [List.mem_cons, List.not_mem_nil, or_false, not_or] at hletter
    obtain ⟨hquote, hslash, hn, hr, ht, hb, hf⟩ := hletter
    rw [escapeChar, if_neg hquote, if_neg hslash, if_neg hn, if_neg hr,
      if_neg ht, if_neg hb, if_neg hf]
    by_cases hprintable : 0x20 ≤ c.toNat ∧ c.toNat ≤ 0x7e
    · rw [if_pos hprintable, hsmall (by omega)]
      exact readUnits_plain hquote hslash hprintable.1 rest
    · rw [if_neg hprintable]
      by_cases hc : c.toNat < 0x10000
      · rw [if_pos hc, hsmall hc]
        exact readUnits_hexEscape hc rest
      · have hvalid : c.toNat < 0x110000 := by
          rcases c.valid with hlow | ⟨-, hhigh⟩
          · exact Nat.lt_trans hlow (by decide)
          · exact hhigh
        rw [if_neg hc, List.append_assoc, readUnits_hexEscape (by omega),
          readUnits_hexEscape (by omega), unitsOf, if_neg hc, Option.map_map]
        rfl

theorem readUnits_escape (text : String) (rest : List Char) :
    readUnits (escape text ++ '"' :: rest) =
      some (text.toList.flatMap unitsOf, rest) := by
  rw [escape]
  induction text.toList with
  | nil => exact readUnits_quote rest
  | cons c chars ih =>
      rw [List.flatMap_cons, List.append_assoc, readUnits_escapeChar, ih]
      rfl

/-- The units of a text are joined to the text again. -/
theorem joinUnits_unitsOf (chars : List Char) :
    joinUnits (chars.flatMap unitsOf) = some chars := by
  induction chars with
  | nil => rfl
  | cons c chars ih =>
      have hvalid : c.toNat < 0xd800 ∨ 0xdfff < c.toNat ∧ c.toNat < 0x110000 :=
        c.valid
      rw [List.flatMap_cons, unitsOf]
      by_cases hc : c.toNat < 0x10000
      · rw [if_pos hc, List.singleton_append, joinUnits.eq_def]
        dsimp only
        rw [if_neg (by omega), if_neg (by omega), ih, Option.map_some,
          Char.ofNat_toNat]
      · rw [if_neg hc]
        have hcode : 0x10000 +
            0x400 * (0xd800 + (c.toNat - 0x10000) / 0x400 - 0xd800) +
            (0xdc00 + (c.toNat - 0x10000) % 0x400 - 0xdc00) = c.toNat := by
          omega
        rw [List.cons_append, List.singleton_append, joinUnits.eq_def]
        dsimp only
        rw [if_pos (by omega), if_pos (by omega), ih, Option.map_some, hcode,
          Char.ofNat_toNat]

theorem readString_escape (text : String) (rest : List Char) :
    readString (escape text ++ '"' :: rest) = some (text, rest) := by
  simp [readString, readUnits_escape, joinUnits_unitsOf]

/-- What is read from the front of a text stays the same when the text goes
on. -/
theorem readUnits_append {text rest : List Char} {units : List Nat}
    (hread : readUnits text = some (units, rest)) (more : List Char) :
    readUnits (text ++ more) = some (units, rest ++ more) ∧
      rest.length < text.length := by
  fun_induction readUnits text generalizing units with
  | case1 => cases hread
  | case2 following =>
      cases hread
      exact ⟨readUnits_quote _, Nat.lt_succ_self _⟩
  | case3 => cases hread
  | case4 first second third fourth following unit hunit _ ih =>
      obtain ⟨read, hothers, heq⟩ := Option.map_eq_some_iff.mp hread
      obtain ⟨rfl, rfl⟩ := Prod.mk.inj heq
      obtain ⟨hmore, hlength⟩ := ih hothers
      refine ⟨?_, by simp only [List.length_cons]; omega⟩
      simp only [List.cons_append]
      rw [readUnits_unit hunit, hmore, Option.map_some]
  | case5 => cases hread
  | case6 => cases hread
  | case7 letter following hletter code hcode _ ih =>
      obtain ⟨read, hothers, heq⟩ := Option.map_eq_some_iff.mp hread
      obtain ⟨rfl, rfl⟩ := Prod.mk.inj heq
      obtain ⟨hmore, hlength⟩ := ih hothers
      refine ⟨?_, by simp only [List.length_cons]; omega⟩
      simp only [List.cons_append]
      rw [readUnits_letter hletter hcode, hmore, Option.map_some]
  | case8 => cases hread
  | case9 => cases hread
  | case10 c following hquote hslash hprintable ih =>
      obtain ⟨read, hothers, heq⟩ := Option.map_eq_some_iff.mp hread
      obtain ⟨rfl, rfl⟩ := Prod.mk.inj heq
      obtain ⟨hmore, hlength⟩ := ih hothers
      refine ⟨?_, by simp only [List.length_cons]; omega⟩
      rw [List.cons_append, readUnits_plain hquote hslash
        (Nat.not_lt.mp hprintable), hmore, Option.map_some]

theorem readString_append {text rest : List Char} {value : String}
    (hread : readString text = some (value, rest)) (more : List Char) :
    readString (text ++ more) = some (value, rest ++ more) ∧
      rest.length < text.length := by
  unfold readString at hread
  obtain ⟨⟨units, left⟩, hunits, hread⟩ := Option.bind_eq_some_iff.mp hread
  obtain ⟨chars, hchars, hread⟩ := Option.bind_eq_some_iff.mp hread
  cases hread
  obtain ⟨hmore, hlength⟩ := readUnits_append hunits more
  refine ⟨?_, hlength⟩
  simp [readString, hmore, hchars]

def scanNatural (text : List Char) : Option (List Char × List Char) :=
  if text.head? = some '0' then some (['0'], text.tail)
  else if text.takeWhile Char.isDigit = [] then none
  else some (text.takeWhile Char.isDigit, text.dropWhile Char.isDigit)

def scanWhole (text : List Char) : Option (List Char × List Char) :=
  if text.head? = some '-' then
    (scanNatural text.tail).map fun scanned => ('-' :: scanned.1, scanned.2)
  else scanNatural text

/-- The point and the digits after it; nothing without digits. -/
def scanFraction (text : List Char) : List Char × List Char :=
  if text.head? = some '.' ∧ text.tail.takeWhile Char.isDigit ≠ [] then
    ('.' :: text.tail.takeWhile Char.isDigit,
      text.tail.dropWhile Char.isDigit)
  else ([], text)

def scanSign (text : List Char) : List Char × List Char :=
  if text.head? = some '+' ∨ text.head? = some '-' then
    (text.take 1, text.tail)
  else ([], text)

/-- The exponent, with its letter and sign; nothing without digits. -/
def scanExponent (text : List Char) : List Char × List Char :=
  let signed := scanSign text.tail
  if (text.head? = some 'e' ∨ text.head? = some 'E') ∧
      signed.2.takeWhile Char.isDigit ≠ [] then
    (text.take 1 ++ signed.1 ++ signed.2.takeWhile Char.isDigit,
      signed.2.dropWhile Char.isDigit)
  else ([], text)

structure Numeral where
  whole : List Char
  fraction : List Char
  exponent : List Char
deriving Repr, DecidableEq

/-- The longest numeral at the front. -/
def scanNumeral (text : List Char) : Option (Numeral × List Char) :=
  (scanWhole text).map fun whole =>
    let fraction := scanFraction whole.2
    let exponent := scanExponent fraction.2
    (⟨whole.1, fraction.1, exponent.1⟩, exponent.2)

/-- The value of a whole part. -/
def wholeValue (text : List Char) : Int :=
  if text.head? = some '-' then -(Nat.ofDigitChars 10 text.tail 0 : Nat)
  else (Nat.ofDigitChars 10 text 0 : Nat)

/-- `float.__repr__` and `float`, which reads back what that writes. -/
structure FloatText extends FloatRepr where
  value : List Char → PyFloat
  value_text : ∀ number, value (text number).toList = .finite number
  scans : ∀ number, ∃ numeral, scanNumeral (text number).toList =
    some (numeral, []) ∧ (numeral.fraction ≠ [] ∨ numeral.exponent ≠ [])

def Numeral.chars (numeral : Numeral) : List Char :=
  numeral.whole ++ numeral.fraction ++ numeral.exponent

/-- A numeral without fraction and exponent is an integer. -/
def Numeral.read (floats : FloatText) (numeral : Numeral) : Json :=
  if numeral.fraction = [] ∧ numeral.exponent = [] then
    .int (wholeValue numeral.whole)
  else .float (floats.value numeral.chars)

/-- No numeral goes on with the text. -/
def Stops (text : List Char) : Prop :=
  ∀ c ∈ text.head?, c.isDigit = false ∧ c ∉ ['.', 'e', 'E']

section Scanning

variable {text rest : List Char}

theorem Stops.not_digit (hstops : Stops text) :
    ∀ c ∈ text.head?, c.isDigit = false :=
  fun c hc => (hstops c hc).1

/-- Digits end where the next character is no digit. -/
theorem span_digits {digits : List Char} (hdigits : ∀ c ∈ digits, c.isDigit = true)
    (hrest : ∀ c ∈ rest.head?, c.isDigit = false) :
    (digits ++ rest).takeWhile Char.isDigit = digits ∧
      (digits ++ rest).dropWhile Char.isDigit = rest := by
  rw [List.takeWhile_append_of_pos hdigits, List.dropWhile_append_of_pos hdigits]
  cases rest with
  | nil => simp
  | cons c rest =>
      have hc := hrest c rfl
      simp [hc]

/-- The digits at the front are the same in a longer text, unless it only adds
digits. -/
theorem digits_append {more : List Char}
    (hmore : ∀ c ∈ (text.dropWhile Char.isDigit ++ more).head?,
      c.isDigit = false) :
    (text ++ more).takeWhile Char.isDigit = text.takeWhile Char.isDigit ∧
      (text ++ more).dropWhile Char.isDigit =
        text.dropWhile Char.isDigit ++ more := by
  have hdigits : ∀ c ∈ text.takeWhile Char.isDigit, c.isDigit = true :=
    fun c hc => List.mem_takeWhile_imp hc
  have hspan := span_digits hdigits hmore
  rwa [← List.append_assoc, List.takeWhile_append_dropWhile] at hspan

/-- What a part took came first, and what it left came after. -/
theorem scanFraction_split (text : List Char) :
    text = (scanFraction text).1 ++ (scanFraction text).2 ∧
      ∀ c ∈ (scanFraction text).1.head?, c = '.' := by
  unfold scanFraction
  split
  · rename_i hpoint
    obtain ⟨tail, rfl⟩ := List.head?_eq_some_iff.mp hpoint.1
    refine ⟨?_, by simp⟩
    rw [List.cons_append, List.tail_cons, List.takeWhile_append_dropWhile]
  · exact ⟨rfl, by simp⟩

theorem scanSign_split (text : List Char) :
    text = (scanSign text).1 ++ (scanSign text).2 := by
  unfold scanSign
  split
  · rw [← List.drop_one, List.take_append_drop]
  · rfl

theorem scanExponent_split (text : List Char) :
    text = (scanExponent text).1 ++ (scanExponent text).2 ∧
      ∀ c ∈ (scanExponent text).1.head?, c = 'e' ∨ c = 'E' := by
  unfold scanExponent
  dsimp only
  split
  · rename_i hletter
    have hsigned := scanSign_split text.tail
    constructor
    · rw [List.append_assoc, List.append_assoc,
        List.takeWhile_append_dropWhile, ← hsigned, ← List.drop_one,
        List.take_append_drop]
    · intro c hc
      rcases hletter.1 with he | he <;>
      · obtain ⟨tail, rfl⟩ := List.head?_eq_some_iff.mp he
        simp at hc
        simp [← hc]
  · exact ⟨rfl, by simp⟩

theorem scanNatural_split {taken left : List Char}
    (hscan : scanNatural text = some (taken, left)) :
    text = taken ++ left ∧ taken ≠ [] := by
  unfold scanNatural at hscan
  split at hscan
  · rename_i hzero
    obtain ⟨tail, rfl⟩ := List.head?_eq_some_iff.mp hzero
    cases hscan
    exact ⟨rfl, by simp⟩
  · split at hscan
    · cases hscan
    · rename_i hdigits
      cases hscan
      exact ⟨List.takeWhile_append_dropWhile.symm, hdigits⟩

theorem scanWhole_split {taken left : List Char}
    (hscan : scanWhole text = some (taken, left)) :
    text = taken ++ left ∧ taken ≠ [] := by
  unfold scanWhole at hscan
  split at hscan
  · rename_i hminus
    obtain ⟨tail, rfl⟩ := List.head?_eq_some_iff.mp hminus
    obtain ⟨⟨digits, rest⟩, hdigits, heq⟩ := Option.map_eq_some_iff.mp hscan
    cases heq
    exact ⟨congrArg ('-' :: ·) (scanNatural_split hdigits).1, by simp⟩
  · exact scanNatural_split hscan

/-- A numeral and what it left are the text. -/
theorem scanNumeral_split {numeral : Numeral}
    (hscan : scanNumeral text = some (numeral, rest)) :
    text = numeral.chars ++ rest ∧ numeral.chars ≠ [] := by
  obtain ⟨⟨whole, left⟩, hwhole, heq⟩ := Option.map_eq_some_iff.mp hscan
  cases heq
  obtain ⟨hsplit, hne⟩ := scanWhole_split hwhole
  have hexponent := (scanExponent_split (scanFraction left).2).1
  have hfraction := (scanFraction_split left).1
  refine ⟨?_, by simp [Numeral.chars, hne]⟩
  rw [Numeral.chars, List.append_assoc, List.append_assoc, ← hexponent,
    ← hfraction]
  exact hsplit

theorem scanNatural_append {taken left more : List Char}
    (hscan : scanNatural text = some (taken, left))
    (hmore : ∀ c ∈ (left ++ more).head?, c.isDigit = false) :
    scanNatural (text ++ more) = some (taken, left ++ more) := by
  unfold scanNatural at hscan
  split at hscan
  · rename_i hzero
    obtain ⟨tail, rfl⟩ := List.head?_eq_some_iff.mp hzero
    cases hscan
    simp [scanNatural]
  · rename_i hzero
    split at hscan
    · cases hscan
    · rename_i hdigits
      cases hscan
      obtain ⟨htake, hdrop⟩ := digits_append hmore
      have hhead : (text ++ more).head? = text.head? := by
        cases text with
        | nil => exact absurd rfl hdigits
        | cons c tail => rfl
      rw [scanNatural, hhead, if_neg hzero, htake, if_neg hdigits, hdrop]

theorem scanWhole_append {taken left more : List Char}
    (hscan : scanWhole text = some (taken, left))
    (hmore : ∀ c ∈ (left ++ more).head?, c.isDigit = false) :
    scanWhole (text ++ more) = some (taken, left ++ more) := by
  unfold scanWhole at hscan
  split at hscan
  · rename_i hminus
    obtain ⟨tail, rfl⟩ := List.head?_eq_some_iff.mp hminus
    obtain ⟨⟨digits, rest⟩, hdigits, heq⟩ := Option.map_eq_some_iff.mp hscan
    cases heq
    have happend := scanNatural_append hdigits hmore
    rw [List.tail_cons] at happend
    simp [scanWhole, happend]
  · rename_i hminus
    have hhead : (text ++ more).head? = text.head? := by
      cases text with
      | nil => cases hscan
      | cons c tail => rfl
    rw [scanWhole, hhead, if_neg hminus, scanNatural_append hscan hmore]

theorem scanFraction_append {more : List Char}
    (hmore : ∀ c ∈ ((scanFraction text).2 ++ more).head?,
      c.isDigit = false ∧ c ≠ '.') :
    scanFraction (text ++ more) =
      ((scanFraction text).1, (scanFraction text).2 ++ more) := by
  by_cases hpoint : text.head? = some '.' ∧
      text.tail.takeWhile Char.isDigit ≠ []
  · have hscan : scanFraction text = _ := if_pos hpoint
    rw [hscan] at hmore ⊢
    obtain ⟨tail, rfl⟩ := List.head?_eq_some_iff.mp hpoint.1
    obtain ⟨htake, hdrop⟩ := digits_append fun c hc => (hmore c hc).1
    rw [List.tail_cons] at htake hdrop
    have hdigits : ((tail ++ more).takeWhile Char.isDigit) ≠ [] := by
      rw [htake]
      exact hpoint.2
    rw [List.cons_append, scanFraction, List.tail_cons,
      if_pos ⟨rfl, hdigits⟩, htake, hdrop, List.tail_cons]
  · have hscan : scanFraction text = ([], text) := if_neg hpoint
    rw [hscan] at hmore ⊢
    exact if_neg fun h => (hmore '.' h.1).2 rfl

theorem scanExponent_append {more : List Char}
    (hmore : Stops ((scanExponent text).2 ++ more)) :
    scanExponent (text ++ more) =
      ((scanExponent text).1, (scanExponent text).2 ++ more) := by
  by_cases hletter : (text.head? = some 'e' ∨ text.head? = some 'E') ∧
      (scanSign text.tail).2.takeWhile Char.isDigit ≠ []
  · have hscan : scanExponent text = _ := if_pos hletter
    rw [hscan] at hmore ⊢
    obtain ⟨htake, hdrop⟩ := digits_append hmore.not_digit
    have hhead : (text ++ more).head? = text.head? ∧
        (text ++ more).tail = text.tail ++ more := by
      cases text with
      | nil => exact absurd rfl hletter.2
      | cons c tail => exact ⟨rfl, rfl⟩
    have hsign : scanSign (text.tail ++ more) =
        ((scanSign text.tail).1, (scanSign text.tail).2 ++ more) := by
      cases htail : text.tail with
      | nil =>
          rw [htail] at hletter
          exact absurd rfl hletter.2
      | cons c tail =>
          unfold scanSign
          rw [List.cons_append, List.head?_cons, List.head?_cons]
          split <;> simp
    have htext : (text ++ more).take 1 = text.take 1 := by
      cases text with
      | nil => exact absurd rfl hletter.2
      | cons c tail => simp
    unfold scanExponent
    dsimp only
    rw [hhead.1, hhead.2, hsign, htake, hdrop, htext, if_pos hletter]
  · have hscan : scanExponent text = ([], text) := if_neg hletter
    rw [hscan] at hmore ⊢
    refine if_neg fun h => ?_
    rcases h.1 with he | he
    · exact (hmore _ he).2 (by simp)
    · exact (hmore _ he).2 (by simp)

/-- A numeral that is not continued is the same in a longer text. -/
theorem scanNumeral_append {numeral : Numeral} {more : List Char}
    (hscan : scanNumeral text = some (numeral, rest))
    (hmore : Stops (rest ++ more)) :
    scanNumeral (text ++ more) = some (numeral, rest ++ more) := by
  obtain ⟨⟨whole, left⟩, hwhole, heq⟩ := Option.map_eq_some_iff.mp hscan
  cases heq
  have hexponent := scanExponent_split (scanFraction left).2
  have hfraction := scanFraction_split left
  have hafter : ∀ c ∈ ((scanFraction left).2 ++ more).head?,
      c.isDigit = false ∧ c ≠ '.' := by
    rw [hexponent.1]
    intro c hc
    cases htaken : (scanExponent (scanFraction left).2).1 with
    | nil =>
        rw [htaken, List.nil_append] at hc
        refine ⟨hmore.not_digit c hc, fun hpoint => (hmore c hc).2 ?_⟩
        simp [hpoint]
    | cons first others =>
        rw [htaken] at hc
        obtain rfl := Option.some.inj hc
        rcases hexponent.2 first (by rw [htaken]; rfl) with rfl | rfl
        · decide
        · decide
  have hbefore : ∀ c ∈ (left ++ more).head?, c.isDigit = false := by
    rw [hfraction.1]
    intro c hc
    cases htaken : (scanFraction left).1 with
    | nil =>
        rw [htaken, List.nil_append] at hc
        exact (hafter c hc).1
    | cons first others =>
        rw [htaken] at hc
        obtain rfl := Option.some.inj hc
        rw [hfraction.2 first (by rw [htaken]; rfl)]
        decide
  simp only [scanNumeral, scanWhole_append hwhole hbefore, Option.map_some,
    scanFraction_append hafter, scanExponent_append hmore]

end Scanning

theorem head?_toDigits {n : Nat} (hn : 0 < n) :
    (Nat.toDigits 10 n).head? ≠ some '0' := by
  induction n using Nat.base_induction 10 (by decide) with
  | single m hm =>
      have hdigits : ∀ m < 10, 0 < m → Nat.digitChar m ≠ '0' := by decide
      rw [Nat.toDigits_of_lt_base hm]
      exact fun hzero => hdigits m hm hn (Option.some.inj hzero)
  | digit m k hk hm ih =>
      rw [← Nat.toDigits_append_toDigits (by decide) hm hk,
        List.head?_append_of_ne_nil _ (by simp)]
      exact ih hm

theorem scanNatural_repr (n : Nat) :
    scanNatural n.repr.toList = some (n.repr.toList, []) := by
  have hdigits : ∀ c ∈ Nat.toDigits 10 n, c.isDigit = true := fun c hc =>
    Nat.isDigit_of_mem_toDigits (by decide) (by decide) hc
  rw [Nat.toList_repr]
  rcases Nat.eq_zero_or_pos n with rfl | hpos
  · rfl
  · have hspan := @span_digits [] _ hdigits (by simp)
    rw [List.append_nil] at hspan
    rw [scanNatural, if_neg (head?_toDigits hpos), hspan.1, hspan.2,
      if_neg (by simp)]

theorem scanWhole_int (value : Int) :
    scanWhole (toString value).toList = some ((toString value).toList, []) ∧
      wholeValue (toString value).toList = value := by
  rw [Int.toString_eq_repr, Int.repr_eq_if]
  by_cases hnonneg : 0 ≤ value
  · have hminus : (value.toNat.repr.toList).head? ≠ some '-' := by
      intro hhead
      have hdigit := Nat.isDigit_of_mem_toDigits (by decide) (by decide)
        (Nat.toList_repr ▸ List.mem_of_mem_head? hhead)
      exact absurd hdigit (by decide)
    rw [if_pos hnonneg, scanWhole, wholeValue, if_neg hminus, if_neg hminus,
      scanNatural_repr, Nat.toList_repr, Nat.ofDigitChars_ten_toDigits]
    exact ⟨rfl, Int.toNat_of_nonneg hnonneg⟩
  · have htext : ("-" ++ (-value).toNat.repr).toList =
        '-' :: (-value).toNat.repr.toList := by simp
    rw [if_neg hnonneg, htext, scanWhole, wholeValue, List.head?_cons,
      if_pos rfl, if_pos rfl, List.tail_cons, scanNatural_repr,
      Nat.toList_repr, Nat.ofDigitChars_ten_toDigits]
    exact ⟨rfl, by omega⟩

/-- An integer is scanned whole, and has its value. -/
theorem scanNumeral_int (value : Int) :
    scanNumeral (toString value).toList =
      some (⟨(toString value).toList, [], []⟩, []) := by
  rw [scanNumeral, (scanWhole_int value).1]
  rfl

/-- A printer that writes whole numbers as `float.__repr__` does, and other
ratios by numerator and denominator. -/
def wholeText (number : ℚ) : List Char :=
  (toString number.num).toList ++
    if number.den = 1 then ['.', '0']
    else '.' :: (number.den.repr.toList ++ ['e', '0'])

def wholeNumeral (number : ℚ) : Numeral :=
  if number.den = 1 then ⟨(toString number.num).toList, ['.', '0'], []⟩
  else ⟨(toString number.num).toList, '.' :: number.den.repr.toList,
    ['e', '0']⟩

theorem scanNumeral_wholeText (number : ℚ) :
    scanNumeral (wholeText number) = some (wholeNumeral number, []) := by
  have hwhole : ∀ (c : Char) (tail : List Char), c.isDigit = false →
      scanWhole ((toString number.num).toList ++ c :: tail) =
        some ((toString number.num).toList, c :: tail) := by
    intro c tail hc
    refine scanWhole_append (scanWhole_int number.num).1 fun first hfirst => ?_
    obtain rfl : c = first := Option.some.inj hfirst
    exact hc
  unfold wholeText wholeNumeral
  by_cases hden : number.den = 1
  · rw [if_pos hden, if_pos hden, scanNumeral, hwhole '.' _ rfl]
    rfl
  · have hdigits : ∀ c ∈ number.den.repr.toList, c.isDigit = true := by
      intro c hc
      rw [Nat.toList_repr] at hc
      exact Nat.isDigit_of_mem_toDigits (by decide) (by decide) hc
    have hne : number.den.repr.toList ≠ [] := by
      rw [Nat.toList_repr]
      simp
    have hspan := @span_digits ['e', '0'] _ hdigits
      (by intro c hc; cases hc; rfl)
    have hfraction : scanFraction
        ('.' :: (number.den.repr.toList ++ ['e', '0'])) =
          ('.' :: number.den.repr.toList, ['e', '0']) := by
      rw [scanFraction, List.head?_cons, List.tail_cons, hspan.1, hspan.2,
        if_pos ⟨rfl, hne⟩]
    rw [if_neg hden, if_neg hden, scanNumeral, hwhole '.' _ rfl,
      Option.map_some]
    simp only [hfraction]
    rfl

theorem wholeText_numeral (number : ℚ) :
    ∀ c ∈ wholeText number, c ∈ "0123456789+-.e".toList := by
  have hcodes : ∀ code : Fin 0x3a, 0x30 ≤ code.val →
      Char.ofNat code.val ∈ "0123456789+-.e".toList := by
    decide
  have hdigit : ∀ c : Char, c.isDigit = true →
      c ∈ "0123456789+-.e".toList := by
    intro c hdigit
    obtain ⟨hlow, hhigh⟩ := Char.isDigit_iff_toNat.mp hdigit
    rw [← Char.ofNat_toNat c]
    exact hcodes ⟨c.toNat, Nat.lt_succ_of_le hhigh⟩ hlow
  have hnat : ∀ n : Nat, ∀ c ∈ n.repr.toList, c ∈ "0123456789+-.e".toList := by
    intro n c hc
    rw [Nat.toList_repr] at hc
    exact hdigit c (Nat.isDigit_of_mem_toDigits (by decide) (by decide) hc)
  have hint : ∀ c ∈ (toString number.num).toList,
      c ∈ "0123456789+-.e".toList := by
    rw [Int.toString_eq_repr, Int.repr_eq_if]
    split
    · exact hnat _
    · intro c hc
      rw [String.toList_append, List.mem_append] at hc
      rcases hc with hc | hc
      · rw [List.mem_singleton.mp hc]
        decide
      · exact hnat _ c hc
  intro c hc
  unfold wholeText at hc
  rcases List.mem_append.mp hc with hc | hc
  · exact hint c hc
  · split at hc
    · have hzero : ['.', '0'] ⊆ "0123456789+-.e".toList := by decide
      exact hzero hc
    · rcases List.mem_cons.mp hc with rfl | hc
      · decide
      · rcases List.mem_append.mp hc with hc | hc
        · exact hnat _ c hc
        · have hexponent : ['e', '0'] ⊆ "0123456789+-.e".toList := by decide
          exact hexponent hc

/-- What `wholeText` wrote. -/
def wholeFloat (text : List Char) : PyFloat :=
  match scanNumeral text with
  | some (numeral, _) =>
      if numeral.exponent = [] then .finite (wholeValue numeral.whole)
      else .finite (wholeValue numeral.whole /
        (Nat.ofDigitChars 10 numeral.fraction.tail 0 : Nat))
  | none => .nan

theorem wholeFloat_wholeText (number : ℚ) :
    wholeFloat (wholeText number) = .finite number := by
  have hnum := (scanWhole_int number.num).2
  rw [wholeFloat, scanNumeral_wholeText]
  unfold wholeNumeral
  by_cases hden : number.den = 1
  · simp only [hden, if_true, hnum]
    exact congrArg PyFloat.finite (Rat.coe_int_num_of_den_eq_one hden)
  · simp only [hden, if_false, hnum, List.tail_cons, Nat.toList_repr,
      Nat.ofDigitChars_ten_toDigits]
    exact congrArg PyFloat.finite (Rat.num_div_den number)

def wholeFloats : FloatText where
  text number := String.ofList (wholeText number)
  numeral number c hc := wholeText_numeral number c
    (by rwa [String.toList_ofList] at hc)
  value := wholeFloat
  value_text number := by
    rw [String.toList_ofList, wholeFloat_wholeText]
  scans number := by
    refine ⟨wholeNumeral number, ?_, ?_⟩
    · rw [String.toList_ofList, scanNumeral_wholeText]
    · unfold wholeNumeral
      split <;> simp

end Json

end Foundation
