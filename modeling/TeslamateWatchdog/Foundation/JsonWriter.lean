/-
Writing JSON documents in any layout: on one line, and with `indent=2`.
-/
import TeslamateWatchdog.Foundation.JsonText

namespace Foundation

namespace Json

/-- The whitespace of JSON. -/
def isBlank (c : Char) : Bool :=
  c == ' ' || c == '\n' || c == '\r' || c == '\t'

/-- The whitespace inside brackets at each level: after the opening bracket,
after a comma and before the closing bracket. -/
structure Layout where
  opened : Nat → List Char
  separated : Nat → List Char
  closed : Nat → List Char
  opened_blank : ∀ level, ∀ c ∈ opened level, isBlank c = true
  separated_blank : ∀ level, ∀ c ∈ separated level, isBlank c = true
  closed_blank : ∀ level, ∀ c ∈ closed level, isBlank c = true

/-- One line, with a space after every comma. -/
def Layout.compact : Layout where
  opened _ := []
  separated _ := [' ']
  closed _ := []
  opened_blank := by simp
  separated_blank := by simp; decide
  closed_blank := by simp

theorem newline_blank (level : Nat) : ∀ c ∈ newline level, isBlank c = true := by
  intro c hc
  rcases List.mem_cons.mp hc with rfl | hc
  · decide
  · rw [List.eq_of_mem_replicate hc]
    decide

/-- `indent=2`. -/
def Layout.indented : Layout where
  opened := newline
  separated := newline
  closed := newline
  opened_blank := newline_blank
  separated_blank := newline_blank
  closed_blank := newline_blank

/-- The pieces between brackets. -/
def Layout.bracket (layout : Layout) (level : Nat) (left right : Char) :
    List (List Char) → List Char
  | [] => [left, right]
  | piece :: rest => left :: (layout.opened (level + 1) ++ piece ++
      rest.flatMap (fun other => ',' :: (layout.separated (level + 1) ++ other)) ++
      layout.closed level ++ [right])

def quoted (text : String) : List Char :=
  '"' :: (escape text ++ ['"'])

def writeFloat (floats : FloatRepr) : PyFloat → List Char
  | .finite value => (floats.text value).toList
  | .posInf => "Infinity".toList
  | .negInf => "-Infinity".toList
  | .nan => "NaN".toList

mutual

def write (floats : FloatRepr) (layout : Layout) (level : Nat) :
    Json → List Char
  | .null => "null".toList
  | .bool value => (if value then "true" else "false").toList
  | .int value => (toString value).toList
  | .float value => writeFloat floats value
  | .str text => quoted text
  | .arr items =>
      layout.bracket level '[' ']' (writeItems floats layout (level + 1) items)
  | .obj members => layout.bracket level '\x7b' '\x7d'
      (writeMembers floats layout (level + 1) members)

def writeItems (floats : FloatRepr) (layout : Layout) (level : Nat) :
    List Json → List (List Char)
  | [] => []
  | item :: rest => write floats layout level item ::
      writeItems floats layout level rest

def writeMembers (floats : FloatRepr) (layout : Layout) (level : Nat) :
    List (String × Json) → List (List Char)
  | [] => []
  | (key, value) :: rest =>
      (quoted key ++ ':' :: ' ' :: write floats layout level value) ::
        writeMembers floats layout level rest

end

/-- `json.dumps(document)`. -/
def dumpsCompact (floats : FloatRepr) (document : Json) : String :=
  String.ofList (write floats .compact 0 document)

mutual

/-- The lexemes of a document are its text with `indent=2`. -/
theorem chars_lexemes (floats : FloatRepr) (level : Nat) : (document : Json) →
    (lexemes floats level document).flatMap Lexeme.chars =
      write floats .indented level document
  | .null => by simp [lexemes, write, Lexeme.chars]
  | .bool _ => by simp [lexemes, write, Lexeme.chars]
  | .int _ => by simp [lexemes, write, Lexeme.chars]
  | .float value => by
      rw [write]
      cases value with
      | finite value => rw [lexemes]; exact List.flatMap_singleton _ _
      | posInf => rw [lexemes]; exact List.flatMap_singleton _ _
      | negInf => rw [lexemes]; exact List.flatMap_singleton _ _
      | nan => rw [lexemes]; exact List.flatMap_singleton _ _
  | .str _ => by simp [lexemes, write, Lexeme.chars, quoted]
  | .arr items => by
      rw [lexemes, write]
      cases items with
      | nil => simp [writeItems, Layout.bracket, Lexeme.chars]
      | cons item rest =>
          have hitem := chars_lexemes floats (level + 1) item
          have hrest := chars_lexemesItems floats (level + 1) rest
          rw [List.isEmpty_cons, if_neg Bool.false_ne_true, List.flatMap_append,
            lexemesItems, List.flatMap_cons, List.flatMap_append, hitem, hrest]
          simp [writeItems, Layout.bracket, Lexeme.chars, Layout.indented]
  | .obj members => by
      rw [lexemes, write]
      cases members with
      | nil => simp [writeMembers, Layout.bracket, Lexeme.chars]
      | cons member rest =>
          obtain ⟨key, value⟩ := member
          have hvalue := chars_lexemes floats (level + 1) value
          have hrest := chars_lexemesMembers floats (level + 1) rest
          rw [List.isEmpty_cons, if_neg Bool.false_ne_true, List.flatMap_append,
            lexemesMembers, List.flatMap_cons, List.flatMap_cons,
            List.flatMap_cons, List.flatMap_append, hvalue, hrest]
          simp [writeMembers, Layout.bracket, Lexeme.chars, Layout.indented,
            quoted]

theorem chars_lexemesItems (floats : FloatRepr) (level : Nat) :
    (items : List Json) →
      (lexemesItems floats level ',' items).flatMap Lexeme.chars =
        (writeItems floats .indented level items).flatMap fun piece =>
          ',' :: (newline level ++ piece)
  | [] => by simp [lexemesItems, writeItems]
  | item :: rest => by
      have hitem := chars_lexemes floats level item
      have hrest := chars_lexemesItems floats level rest
      rw [lexemesItems, List.flatMap_cons, List.flatMap_append, hitem, hrest]
      simp [writeItems, Lexeme.chars]

theorem chars_lexemesMembers (floats : FloatRepr) (level : Nat) :
    (members : List (String × Json)) →
      (lexemesMembers floats level ',' members).flatMap Lexeme.chars =
        (writeMembers floats .indented level members).flatMap fun piece =>
          ',' :: (newline level ++ piece)
  | [] => by simp [lexemesMembers, writeMembers]
  | (key, value) :: rest => by
      have hvalue := chars_lexemes floats level value
      have hrest := chars_lexemesMembers floats level rest
      rw [lexemesMembers, List.flatMap_cons, List.flatMap_cons,
        List.flatMap_cons, List.flatMap_append, hvalue, hrest]
      simp [writeMembers, Lexeme.chars, quoted]

end

theorem dumps_eq_write (floats : FloatRepr) (document : Json) :
    (dumps floats document).toList = write floats .indented 0 document := by
  rw [dumps, String.toList_ofList, chars_lexemes]

/-- Printable ASCII only. -/
def Printable (text : List Char) : Prop :=
  ∀ c ∈ text, 0x20 ≤ c.toNat ∧ c.toNat ≤ 0x7e

instance (text : List Char) : Decidable (Printable text) :=
  List.decidableBAll (fun c : Char => 0x20 ≤ c.toNat ∧ c.toNat ≤ 0x7e) text

theorem printable_append {left right : List Char} :
    Printable (left ++ right) ↔ Printable left ∧ Printable right := by
  simp only [Printable, List.mem_append]
  constructor
  · exact fun h => ⟨fun c hc => h c (.inl hc), fun c hc => h c (.inr hc)⟩
  · rintro ⟨hleft, hright⟩ c (hc | hc)
    · exact hleft c hc
    · exact hright c hc

theorem printable_cons {c : Char} {text : List Char} :
    Printable (c :: text) ↔
      (0x20 ≤ c.toNat ∧ c.toNat ≤ 0x7e) ∧ Printable text := by
  simp [Printable]

theorem printable_flatMap {α : Type} {items : List α} {f : α → List Char}
    (hitems : ∀ item ∈ items, Printable (f item)) :
    Printable (items.flatMap f) := by
  intro c hc
  obtain ⟨item, hitem, hc⟩ := List.mem_flatMap.mp hc
  exact hitems item hitem c hc

theorem printable_hexEscape (code : Nat) : Printable (hexEscape code) := by
  have hdigit : ∀ digit < 16, 0x20 ≤ (PyText.hexDigit digit).toNat ∧
      (PyText.hexDigit digit).toNat ≤ 0x7e := by
    decide
  have hplace : ∀ place, 0x20 ≤ (PyText.hexDigit (place % 0x10)).toNat ∧
      (PyText.hexDigit (place % 0x10)).toNat ≤ 0x7e :=
    fun place => hdigit _ (Nat.mod_lt _ (by decide))
  simp only [hexEscape, printable_cons, hplace, Char.reduceToNat]
  simp [Printable]

theorem printable_escapeChar (c : Char) : Printable (escapeChar c) := by
  by_cases hletter : c ∈ ['"', '\\', '\n', '\r', '\t', '\x08', '\x0c']
  · simp only [List.mem_cons, List.not_mem_nil, or_false] at hletter
    rcases hletter with rfl | rfl | rfl | rfl | rfl | rfl | rfl
    all_goals decide
  · simp only [List.mem_cons, List.not_mem_nil, or_false, not_or] at hletter
    obtain ⟨hquote, hslash, hn, hr, ht, hb, hf⟩ := hletter
    rw [escapeChar, if_neg hquote, if_neg hslash, if_neg hn, if_neg hr,
      if_neg ht, if_neg hb, if_neg hf]
    by_cases hprintable : 0x20 ≤ c.toNat ∧ c.toNat ≤ 0x7e
    · rw [if_pos hprintable, printable_cons]
      exact ⟨hprintable, by simp [Printable]⟩
    · rw [if_neg hprintable]
      split
      · exact printable_hexEscape _
      · exact printable_append.mpr
          ⟨printable_hexEscape _, printable_hexEscape _⟩

theorem printable_quoted (text : String) : Printable (quoted text) := by
  rw [quoted, printable_cons, printable_append]
  exact ⟨by decide, printable_flatMap fun c _ => printable_escapeChar c,
    by simp [Printable]⟩

theorem printable_of_digits {text : List Char}
    (hdigits : ∀ c ∈ text, c.isDigit = true) : Printable text := by
  intro c hc
  have hrange : 0x30 ≤ c.toNat ∧ c.toNat ≤ 0x39 :=
    Char.isDigit_iff_toNat.mp (hdigits c hc)
  omega

theorem printable_int (value : Int) : Printable (toString value).toList := by
  have hnat : ∀ n : Nat, Printable n.repr.toList := by
    intro n
    rw [Nat.toList_repr]
    exact printable_of_digits fun c hc =>
      Nat.isDigit_of_mem_toDigits (by decide) (by decide) hc
  rw [Int.toString_eq_repr, Int.repr_eq_if]
  split
  · exact hnat _
  · rw [String.toList_append, printable_append]
    exact ⟨by simp [Printable], hnat _⟩

theorem printable_float (floats : FloatRepr) (value : PyFloat) :
    Printable (writeFloat floats value) := by
  cases value with
  | finite value =>
      have hallowed : Printable "0123456789+-.e".toList := by decide
      exact fun c hc => hallowed c (floats.numeral value c hc)
  | posInf =>
      have hword : Printable "Infinity".toList := by decide
      exact hword
  | negInf =>
      have hword : Printable "-Infinity".toList := by decide
      exact hword
  | nan =>
      have hword : Printable "NaN".toList := by decide
      exact hword

theorem printable_bracket {level : Nat} {left right : Char}
    {pieces : List (List Char)} (hleft : 0x20 ≤ left.toNat ∧ left.toNat ≤ 0x7e)
    (hright : 0x20 ≤ right.toNat ∧ right.toNat ≤ 0x7e)
    (hpieces : ∀ piece ∈ pieces, Printable piece) :
    Printable (Layout.compact.bracket level left right pieces) := by
  cases pieces with
  | nil =>
      rw [Layout.bracket, printable_cons, printable_cons]
      exact ⟨hleft, hright, by simp [Printable]⟩
  | cons piece rest =>
      rw [List.forall_mem_cons] at hpieces
      simp only [Layout.bracket, Layout.compact, printable_cons,
        printable_append, List.nil_append, List.append_nil]
      refine ⟨hleft, ⟨hpieces.1, printable_flatMap fun other hother => ?_⟩,
        hright, by simp [Printable]⟩
      rw [printable_cons, List.singleton_append, printable_cons]
      exact ⟨by decide, by decide, hpieces.2 other hother⟩

mutual

/-- What is written on one line is printable ASCII. -/
theorem printable_write (floats : FloatRepr) (level : Nat) :
    (document : Json) → Printable (write floats .compact level document)
  | .null => by simp [write, Printable]
  | .bool true => by simp [write, Printable]
  | .bool false => by simp [write, Printable]
  | .int value => by
      rw [write]
      exact printable_int value
  | .float value => by
      rw [write]
      exact printable_float floats value
  | .str text => by
      rw [write]
      exact printable_quoted text
  | .arr items => by
      rw [write]
      exact printable_bracket (by decide) (by decide)
        (printable_writeItems floats (level + 1) items)
  | .obj members => by
      rw [write]
      exact printable_bracket (by decide) (by decide)
        (printable_writeMembers floats (level + 1) members)

theorem printable_writeItems (floats : FloatRepr) (level : Nat) :
    (items : List Json) →
      ∀ piece ∈ writeItems floats .compact level items, Printable piece
  | [] => by simp [writeItems]
  | item :: rest => by
      rw [writeItems, List.forall_mem_cons]
      exact ⟨printable_write floats level item,
        printable_writeItems floats level rest⟩

theorem printable_writeMembers (floats : FloatRepr) (level : Nat) :
    (members : List (String × Json)) →
      ∀ piece ∈ writeMembers floats .compact level members, Printable piece
  | [] => by simp [writeMembers]
  | (key, value) :: rest => by
      rw [writeMembers, List.forall_mem_cons, printable_append, printable_cons,
        printable_cons]
      exact ⟨⟨printable_quoted key, by decide, by decide,
        printable_write floats level value⟩,
        printable_writeMembers floats level rest⟩

end

theorem printable_dumpsCompact (floats : FloatRepr) (document : Json) :
    Printable (dumpsCompact floats document).toList := by
  rw [dumpsCompact, String.toList_ofList]
  exact printable_write floats 0 document

end Json

end Foundation
