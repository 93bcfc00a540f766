/-
Python's string methods, as far as the watchdog calls them, on lists of
characters.
-/
import Mathlib.Data.List.DropRight

namespace Foundation

namespace PyText

/-- `c.isspace()`. -/
def isSpace (c : Char) : Bool :=
  let code := c.toNat
  (0x09 ≤ code && code ≤ 0x0d) || (0x1c ≤ code && code ≤ 0x20) ||
    code == 0x85 || code == 0xa0 || code == 0x1680 ||
    (0x2000 ≤ code && code ≤ 0x200a) || code == 0x2028 || code == 0x2029 ||
    code == 0x202f || code == 0x205f || code == 0x3000

/-- `text.strip()`. -/
def strip (text : String) : String :=
  String.ofList ((text.toList.dropWhile isSpace).rdropWhile isSpace)

/-- `text.lstrip(unwanted)` for one unwanted character. -/
def lstrip (text : String) (unwanted : Char) : String :=
  String.ofList (text.toList.dropWhile (· == unwanted))

/-- `text.rstrip(unwanted)` for one unwanted character. -/
def rstrip (text : String) (unwanted : Char) : String :=
  String.ofList (text.toList.rdropWhile (· == unwanted))

/-- `text.startswith(beginning)`. -/
def startsWith (text beginning : String) : Bool :=
  beginning.toList.isPrefixOf text.toList

/-- The line boundaries of `str.splitlines`; `\r\n` is handled there. -/
def isLineBreak (c : Char) : Bool :=
  let code := c.toNat
  (0x0a ≤ code && code ≤ 0x0d) || (0x1c ≤ code && code ≤ 0x1e) ||
    code == 0x85 || code == 0x2028 || code == 0x2029

/-- `lineChars` holds the characters of the line being read, last one first. -/
def splitLinesFrom (lineChars : List Char) : List Char → List String
  | [] => if lineChars.isEmpty then [] else [String.ofList lineChars.reverse]
  | '\r' :: '\n' :: rest =>
      String.ofList lineChars.reverse :: splitLinesFrom [] rest
  | c :: rest =>
      if isLineBreak c then
        String.ofList lineChars.reverse :: splitLinesFrom [] rest
      else splitLinesFrom (c :: lineChars) rest

/-- `text.splitlines()`. -/
def splitLines (text : String) : List String :=
  splitLinesFrom [] text.toList

/-- `wordChars` holds the characters of the word being read, last one first. -/
def splitWordsFrom (wordChars : List Char) : List Char → List String
  | [] => if wordChars.isEmpty then [] else [String.ofList wordChars.reverse]
  | c :: rest =>
      if isSpace c then
        if wordChars.isEmpty then splitWordsFrom [] rest
        else String.ofList wordChars.reverse :: splitWordsFrom [] rest
      else splitWordsFrom (c :: wordChars) rest

/-- `text.split()`: the words between runs of whitespace. -/
def splitWords (text : String) : List String :=
  splitWordsFrom [] text.toList

/-- `text.split(separator)` for one separator character. -/
def split (text : String) (separator : Char) : List String :=
  (text.toList.splitOn separator).map String.ofList

/-- `text.endswith(ending)`. -/
def endsWith (text ending : String) : Bool :=
  ending.toList.isSuffixOf text.toList

/-- The Kelvin sign is the one character beyond ASCII with an ASCII lowercase. -/
def lowerChar (c : Char) : Char :=
  if c = '\u212A' then 'k' else c.toLower

/-- `text.lower()`, as far as it can be told by comparing it with ASCII text:
letters beyond ASCII are kept as they are. -/
def lower (text : String) : String :=
  String.ofList (text.toList.map lowerChar)

/-- What a character becomes in lower case between the characters before it and
those after it. -/
abbrev CaseTable := List Char → Char → List Char → List Char

/-- Beyond ASCII a character can become several, and what it becomes can depend
on where it stands. -/
def lowerFrom (table : CaseTable) : List Char → List Char → List Char
  | _, [] => []
  | before, c :: after =>
      (if c.toNat < 0x80 then [c.toLower] else table before c after) ++
        lowerFrom table (before ++ [c]) after

/-- `text.lower()` with the case table of the interpreter. -/
def lowerBy (table : CaseTable) (text : String) : String :=
  String.ofList (lowerFrom table [] text.toList)

/-- `text[:count]`. -/
def front (text : String) (count : Nat) : String :=
  String.ofList (text.toList.take count)

/-- The decimal digits of `value`, padded with zeros to `width`. -/
def zeroPadded (width value : Nat) : String :=
  let digits := toString value
  String.ofList (List.replicate (width - digits.length) '0') ++ digits

def hexDigit (value : Nat) : Char :=
  "0123456789abcdef".toList.getD value '0'

/-- A character inside `repr(text)` that is quoted with `quote`. -/
def reprChar (quote c : Char) : List Char :=
  if c == quote || c == '\\' then ['\\', c]
  else if c == '\n' then ['\\', 'n']
  else if c == '\r' then ['\\', 'r']
  else if c == '\t' then ['\\', 't']
  else if c.toNat < 0x20 || (0x7f ≤ c.toNat && c.toNat ≤ 0xa0) ||
      c.toNat == 0xad then
    ['\\', 'x', hexDigit (c.toNat / 16), hexDigit (c.toNat % 16)]
  else [c]

/-- `repr(text)`.  Beyond Latin-1 every character counts as printable here. -/
def repr (text : String) : String :=
  let quote :=
    if text.toList.contains '\'' && !text.toList.contains '"' then '"'
    else '\''
  String.ofList
    (quote :: text.toList.flatMap (reprChar quote) ++ [quote])

/-- How an f-string shows a value that may be `None`. -/
def orNone (text : Option String) : String :=
  text.getD "None"

theorem dropWhile_of_dropWhile_append {unwanted : Char → Bool}
    {front rest : List Char}
    (hdropped : (front ++ rest).dropWhile unwanted = front ++ rest) :
    front.dropWhile unwanted = front := by
  cases front with
  | nil => rfl
  | cons c front =>
      have hwanted : ¬unwanted c = true := by
        intro hunwanted
        rw [List.cons_append, List.dropWhile_cons_of_pos hunwanted] at hdropped
        have hlength := congrArg List.length hdropped
        have hshorter := (List.dropWhile_suffix
          (l := front ++ rest) unwanted).length_le
        rw [List.length_cons] at hlength
        omega
      rw [List.dropWhile_cons_of_neg hwanted]

/-- Stripping once is enough. -/
@[simp]
theorem strip_strip (text : String) : strip (strip text) = strip text := by
  simp only [strip, String.toList_ofList]
  obtain ⟨rest, hrest⟩ :=
    List.rdropWhile_prefix isSpace (l := text.toList.dropWhile isSpace)
  have hdropped := List.dropWhile_idempotent isSpace (l := text.toList)
  rw [← hrest] at hdropped
  rw [dropWhile_of_dropWhile_append hdropped, List.rdropWhile_idempotent]

/-- What does not have a character stands on one side of it. -/
theorem infix_append_cons {c : Char} {text : List Char} (hmem : c ∉ text)
    (before after : List Char) :
    text <:+: before ++ c :: after ↔ text <:+: before ∨ text <:+: after := by
  have hstarts : ∀ {part}, part ⊆ text → part <+: c :: after → part = [] := by
    intro part hpart hstarts
    rcases List.prefix_cons_iff.mp hstarts with hempty | ⟨_, rfl, _⟩
    · exact hempty
    · exact absurd (hpart List.mem_cons_self) hmem
  constructor
  · intro hpart
    rcases List.infix_append_iff.mp hpart with
      hbefore | hafter | ⟨left, right, rfl, hleft, hright⟩
    · exact .inl hbefore
    · rcases List.infix_cons_iff.mp hafter with hstart | hafter
      · rw [hstarts (List.Subset.refl _) hstart]
        exact .inl List.nil_infix
      · exact .inr hafter
    · left
      rw [hstarts (List.subset_append_right _ _) hright, List.append_nil]
      exact hleft.isInfix
  · rintro (hbefore | hafter)
    · exact List.infix_append_of_infix_left hbefore
    · exact List.infix_append_of_infix_right (List.infix_cons hafter)

theorem lowerFrom_append (table : CaseTable) {before front : List Char}
    (hascii : ∀ c ∈ front, c.toNat < 0x80) (back : List Char) :
    lowerFrom table before (front ++ back) =
      front.map Char.toLower ++ lowerFrom table (before ++ front) back := by
  induction front generalizing before with
  | nil => rw [List.append_nil]; rfl
  | cons c front ih =>
      rw [List.forall_mem_cons] at hascii
      rw [List.cons_append, lowerFrom, if_pos hascii.1, ih hascii.2,
        List.append_assoc]
      rfl

theorem toList_lowerBy_ascii (table : CaseTable) {text : String}
    (hascii : ∀ c ∈ text.toList, c.toNat < 0x80) :
    (lowerBy table text).toList = text.toList.map Char.toLower := by
  have hlower := @lowerFrom_append table [] text.toList hascii []
  rw [List.append_nil] at hlower
  rw [lowerBy, String.toList_ofList, hlower, lowerFrom, List.append_nil]

/-- Lowering what is around an ASCII text leaves that text where it stands. -/
theorem infix_lowerFrom (table : CaseTable) {part : List Char}
    (hascii : ∀ c ∈ part, c.toNat < 0x80) (before front back : List Char) :
    part.map Char.toLower <:+: lowerFrom table before (front ++ part ++ back) := by
  induction front generalizing before with
  | nil =>
      rw [List.nil_append, lowerFrom_append table hascii]
      exact (List.prefix_append _ _).isInfix
  | cons c front ih =>
      rw [List.cons_append, List.cons_append, lowerFrom]
      exact List.infix_append_of_infix_right (ih _)

/-- The characters that have a lower case of their own. -/
theorem eq_of_toLower {c letter : Char} (hlower : c.toLower = letter) :
    c = letter ∨ c.isUpper = true ∧ c.toNat + 32 = letter.toNat := by
  by_cases hupper : 'A'.val ≤ c.val ∧ c.val ≤ 'Z'.val
  · have hvalue : c.toLower.val = c.val + ('a'.val - 'A'.val) :=
      congrArg Char.val (dif_pos hupper)
    have hcode : c.val.toNat ≤ 90 := UInt32.le_iff_toNat_le.mp hupper.2
    refine .inr ⟨decide_eq_true hupper, ?_⟩
    rw [← hlower]
    change c.val.toNat + 32 = c.toLower.val.toNat
    rw [hvalue, UInt32.toNat_add, Nat.mod_eq_of_lt (by change _ + 32 < _; omega)]
    rfl
  · have hkept : c.toLower = c := dif_neg hupper
    exact .inl (hkept.symm.trans hlower)

example : splitLines "a\r\nb\rc\n" = ["a", "b", "c"] := by decide +kernel

example : repr "it's" = "\"it's\"" := by decide +kernel

end PyText

end Foundation
