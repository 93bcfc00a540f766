/-
`json.dumps(document, indent=2)`: how a document is written, and that a text can
stand in what is written only inside one of the document's strings.
-/
import TeslamateWatchdog.Foundation.PyText
import TeslamateWatchdog.Foundation.PyValue

namespace Foundation

namespace Json

/-- `float.__repr__`, as far as finite floats go: digits, signs, a point and an
exponent. -/
structure FloatRepr where
  text : ℚ → String
  numeral : ∀ value, ∀ c ∈ (text value).toList, c ∈ "0123456789+-.e".toList

/-- The four hexadecimal digits after `\u`. -/
def hexEscape (code : Nat) : List Char :=
  ['\\', 'u', PyText.hexDigit (code / 0x1000 % 0x10),
    PyText.hexDigit (code / 0x100 % 0x10),
    PyText.hexDigit (code / 0x10 % 0x10), PyText.hexDigit (code % 0x10)]

/-- A character inside a string literal; beyond ASCII all are escaped, as a pair
of surrogates where one escape does not do. -/
def escapeChar (c : Char) : List Char :=
  if c = '"' then ['\\', '"']
  else if c = '\\' then ['\\', '\\']
  else if c = '\n' then ['\\', 'n']
  else if c = '\r' then ['\\', 'r']
  else if c = '\t' then ['\\', 't']
  else if c = '\x08' then ['\\', 'b']
  else if c = '\x0c' then ['\\', 'f']
  else if 0x20 ≤ c.toNat ∧ c.toNat ≤ 0x7e then [c]
  else if c.toNat < 0x10000 then hexEscape c.toNat
  else hexEscape (0xd800 + (c.toNat - 0x10000) / 0x400) ++
    hexEscape (0xdc00 + (c.toNat - 0x10000) % 0x400)

def escape (text : String) : List Char :=
  text.toList.flatMap escapeChar

/-- A string literal, or anything else of a document. -/
inductive Lexeme where
  | quoted (text : String)
  | plain (text : List Char)
deriving Repr, DecidableEq

def Lexeme.chars : Lexeme → List Char
  | quoted text => '"' :: (escape text ++ ['"'])
  | plain text => text

def newline (level : Nat) : List Char :=
  '\n' :: List.replicate (2 * level) ' '

mutual

def lexemes (floats : FloatRepr) (level : Nat) : Json → List Lexeme
  | .null => [.plain "null".toList]
  | .bool value => [.plain (if value then "true" else "false").toList]
  | .int value => [.plain (toString value).toList]
  | .float (.finite value) => [.plain (floats.text value).toList]
  | .float .posInf => [.plain "Infinity".toList]
  | .float .negInf => [.plain "-Infinity".toList]
  | .float .nan => [.plain "NaN".toList]
  | .str text => [.quoted text]
  | .arr items =>
      if items.isEmpty then [.plain "[]".toList]
      else lexemesItems floats (level + 1) '[' items ++
        [.plain (newline level ++ [']'])]
  | .obj members =>
      if members.isEmpty then [.plain ['\x7b', '\x7d']]
      else lexemesMembers floats (level + 1) '\x7b' members ++
        [.plain (newline level ++ ['\x7d'])]

/-- The items, after the opening bracket and after commas. -/
def lexemesItems (floats : FloatRepr) (level : Nat) (lead : Char) :
    List Json → List Lexeme
  | [] => []
  | item :: rest => .plain (lead :: newline level) ::
      (lexemes floats level item ++ lexemesItems floats level ',' rest)

def lexemesMembers (floats : FloatRepr) (level : Nat) (lead : Char) :
    List (String × Json) → List Lexeme
  | [] => []
  | (key, value) :: rest => .plain (lead :: newline level) :: .quoted key ::
      .plain [':', ' '] ::
      (lexemes floats level value ++ lexemesMembers floats level ',' rest)

end

/-- `json.dumps(document, indent=2)`. -/
def dumps (floats : FloatRepr) (document : Json) : String :=
  String.ofList ((lexemes floats 0 document).flatMap Lexeme.chars)

mutual

/-- The strings of a document, keys included. -/
def texts : Json → List String
  | .str text => [text]
  | .arr items => textsItems items
  | .obj members => textsMembers members
  | _ => []

def textsItems : List Json → List String
  | [] => []
  | item :: rest => item.texts ++ textsItems rest

def textsMembers : List (String × Json) → List String
  | [] => []
  | (key, value) :: rest => key :: (value.texts ++ textsMembers rest)

end

/-- The characters outside string literals. -/
def plainChars : List Char :=
  "[]\x7b\x7d:, \n0123456789+-.enulltruefalseNaNInfinity".toList

section Texts

variable (floats : FloatRepr)

mutual

/-- The string literals written are the strings of the document. -/
theorem quoted_mem_lexemes (level : Nat) (text : String) :
    (document : Json) → (.quoted text ∈ lexemes floats level document ↔
      text ∈ document.texts)
  | .null => by simp [lexemes, texts]
  | .bool _ => by simp [lexemes, texts]
  | .int _ => by simp [lexemes, texts]
  | .float value => by cases value <;> simp [lexemes, texts]
  | .str _ => by simp [lexemes, texts]
  | .arr items => by
      have hitems := quoted_mem_lexemesItems (level + 1) text '[' items
      rw [lexemes, texts]
      cases items with
      | nil => simp [textsItems]
      | cons item rest =>
          rw [List.isEmpty_cons, if_neg Bool.false_ne_true, List.mem_append,
            hitems]
          simp
  | .obj members => by
      have hmembers := quoted_mem_lexemesMembers (level + 1) text '\x7b' members
      rw [lexemes, texts]
      cases members with
      | nil => simp [textsMembers]
      | cons member rest =>
          rw [List.isEmpty_cons, if_neg Bool.false_ne_true, List.mem_append,
            hmembers]
          simp

theorem quoted_mem_lexemesItems (level : Nat) (text : String) (lead : Char) :
    (items : List Json) →
      (.quoted text ∈ lexemesItems floats level lead items ↔
        text ∈ textsItems items)
  | [] => by simp [lexemesItems, textsItems]
  | item :: rest => by
      have hitem := quoted_mem_lexemes level text item
      have hrest := quoted_mem_lexemesItems level text ',' rest
      rw [lexemesItems, textsItems, List.mem_cons, List.mem_append,
        List.mem_append, hitem, hrest]
      simp

theorem quoted_mem_lexemesMembers (level : Nat) (text : String) (lead : Char) :
    (members : List (String × Json)) →
      (.quoted text ∈ lexemesMembers floats level lead members ↔
        text ∈ textsMembers members)
  | [] => by simp [lexemesMembers, textsMembers]
  | (key, value) :: rest => by
      have hvalue := quoted_mem_lexemes level text value
      have hrest := quoted_mem_lexemesMembers level text ',' rest
      rw [lexemesMembers, textsMembers, List.mem_cons, List.mem_cons,
        List.mem_cons, List.mem_append, List.mem_cons, List.mem_append, hvalue,
        hrest]
      simp

end

/-- A lexeme that is no string literal has no other characters. -/
def Lexeme.Plain (lexeme : Lexeme) : Prop :=
  ∀ text, lexeme = .plain text → ∀ c ∈ text, c ∈ plainChars

theorem plain_of_subset {text : List Char} (hsubset : text ⊆ plainChars) :
    (Lexeme.plain text).Plain := by
  intro other heq c hc
  rw [← Lexeme.plain.inj heq] at hc
  exact hsubset hc

theorem newline_subset (level : Nat) : newline level ⊆ plainChars := by
  intro c hc
  rcases List.mem_cons.mp hc with rfl | hc
  · decide
  · rw [List.eq_of_mem_replicate hc]
    decide

theorem toString_int_subset (value : Int) :
    (toString value).toList ⊆ plainChars := by
  have hcodes : ∀ code : Fin 0x3a, 0x30 ≤ code.val →
      Char.ofNat code.val ∈ plainChars := by
    decide
  have hdigit : ∀ c : Char, c.isDigit = true → c ∈ plainChars := by
    intro c hdigit
    obtain ⟨hlow, hhigh⟩ := Char.isDigit_iff_toNat.mp hdigit
    rw [← Char.ofNat_toNat c]
    exact hcodes ⟨c.toNat, Nat.lt_succ_of_le hhigh⟩ hlow
  have hnat : ∀ n : Nat, n.repr.toList ⊆ plainChars := by
    intro n c hc
    rw [Nat.toList_repr] at hc
    exact hdigit c (Nat.isDigit_of_mem_toDigits (by decide) (by decide) hc)
  rw [Int.toString_eq_repr, Int.repr_eq_if]
  by_cases hnonneg : 0 ≤ value
  · rw [if_pos hnonneg]
    exact hnat _
  · rw [if_neg hnonneg, String.toList_append]
    exact List.append_subset.mpr ⟨by decide, hnat _⟩

mutual

theorem plain_lexemes (level : Nat) : (document : Json) →
    ∀ lexeme ∈ lexemes floats level document, lexeme.Plain
  | .null => by
      rw [lexemes, List.forall_mem_singleton]
      exact plain_of_subset (by decide)
  | .bool value => by
      rw [lexemes, List.forall_mem_singleton]
      cases value
      · exact plain_of_subset (by decide)
      · exact plain_of_subset (by decide)
  | .int value => by
      rw [lexemes, List.forall_mem_singleton]
      exact plain_of_subset (toString_int_subset value)
  | .float (.finite value) => by
      rw [lexemes, List.forall_mem_singleton]
      apply plain_of_subset
      intro c hc
      have hsubset : "0123456789+-.e".toList ⊆ plainChars := by decide
      exact hsubset (floats.numeral value c hc)
  | .float .posInf => by
      rw [lexemes, List.forall_mem_singleton]
      exact plain_of_subset (by decide)
  | .float .negInf => by
      rw [lexemes, List.forall_mem_singleton]
      exact plain_of_subset (by decide)
  | .float .nan => by
      rw [lexemes, List.forall_mem_singleton]
      exact plain_of_subset (by decide)
  | .str text => by
      rw [lexemes, List.forall_mem_singleton]
      intro other heq
      cases heq
  | .arr items => by
      have hitems := plain_lexemesItems (level + 1) '[' (by decide) items
      rw [lexemes]
      by_cases hempty : items.isEmpty = true
      · rw [if_pos hempty, List.forall_mem_singleton]
        exact plain_of_subset (by decide)
      · rw [if_neg hempty, List.forall_mem_append, List.forall_mem_singleton]
        refine ⟨hitems, plain_of_subset (List.append_subset.mpr ?_)⟩
        exact ⟨newline_subset level, by decide⟩
  | .obj members => by
      have hmembers := plain_lexemesMembers (level + 1) '\x7b' (by decide)
        members
      rw [lexemes]
      by_cases hempty : members.isEmpty = true
      · rw [if_pos hempty, List.forall_mem_singleton]
        exact plain_of_subset (by decide)
      · rw [if_neg hempty, List.forall_mem_append, List.forall_mem_singleton]
        refine ⟨hmembers, plain_of_subset (List.append_subset.mpr ?_)⟩
        exact ⟨newline_subset level, by decide⟩

theorem plain_lexemesItems (level : Nat) (lead : Char)
    (hlead : lead ∈ plainChars) : (items : List Json) →
    ∀ lexeme ∈ lexemesItems floats level lead items, lexeme.Plain
  | [] => by simp [lexemesItems]
  | item :: rest => by
      have hitem := plain_lexemes level item
      have hrest := plain_lexemesItems level ',' (by decide) rest
      rw [lexemesItems, List.forall_mem_cons, List.forall_mem_append]
      refine ⟨plain_of_subset ?_, hitem, hrest⟩
      exact List.cons_subset.mpr ⟨hlead, newline_subset level⟩

theorem plain_lexemesMembers (level : Nat) (lead : Char)
    (hlead : lead ∈ plainChars) : (members : List (String × Json)) →
    ∀ lexeme ∈ lexemesMembers floats level lead members, lexeme.Plain
  | [] => by simp [lexemesMembers]
  | (key, value) :: rest => by
      have hvalue := plain_lexemes level value
      have hrest := plain_lexemesMembers level ',' (by decide) rest
      rw [lexemesMembers, List.forall_mem_cons, List.forall_mem_cons,
        List.forall_mem_cons, List.forall_mem_append]
      refine ⟨plain_of_subset ?_, ?_, plain_of_subset (by decide), hvalue,
        hrest⟩
      · exact List.cons_subset.mpr ⟨hlead, newline_subset level⟩
      · intro other heq
        cases heq

end

end Texts

/-- A piece without quotes, and with a character that only strings have, stands
between two quotes. -/
theorem infix_chars_iff {piece : List Char} (hquote : '"' ∉ piece)
    (hletter : ∃ c ∈ piece, c ∉ plainChars) {written : List Lexeme}
    (hplain : ∀ lexeme ∈ written, lexeme.Plain) :
    piece <:+: written.flatMap Lexeme.chars ↔
      ∃ text, .quoted text ∈ written ∧ piece <:+: escape text := by
  obtain ⟨letter, hletter, houtside⟩ := hletter
  have hnever : ∀ {text : List Char}, text ⊆ plainChars → ¬piece <:+: text :=
    fun hsubset hpiece => houtside (hsubset (hpiece.subset hletter))
  have hscan : ∀ before : List Char, before ⊆ plainChars →
      (piece <:+: before ++ written.flatMap Lexeme.chars ↔
        ∃ text, .quoted text ∈ written ∧ piece <:+: escape text) := by
    induction written with
    | nil =>
        intro before hbefore
        rw [List.flatMap_nil, List.append_nil]
        simp [hnever hbefore]
    | cons lexeme rest ih =>
        rw [List.forall_mem_cons] at hplain
        intro before hbefore
        rw [List.flatMap_cons]
        cases lexeme with
        | plain text =>
            have hsubset : before ++ text ⊆ plainChars :=
              List.append_subset.mpr ⟨hbefore, hplain.1 text rfl⟩
            rw [Lexeme.chars, ← List.append_assoc, ih hplain.2 _ hsubset]
            simp
        | quoted text =>
            have hsplit : before ++ ((Lexeme.quoted text).chars ++
                rest.flatMap Lexeme.chars) = before ++ '"' :: (escape text ++
                  '"' :: ([] ++ rest.flatMap Lexeme.chars)) := by
              simp [Lexeme.chars]
            rw [hsplit, PyText.infix_append_cons hquote,
              PyText.infix_append_cons hquote,
              ih hplain.2 [] (List.nil_subset _)]
            simp [hnever hbefore, or_and_right, exists_or]
  exact hscan [] (List.nil_subset _)

theorem infix_dumps_iff {piece : List Char} (hquote : '"' ∉ piece)
    (hletter : ∃ c ∈ piece, c ∉ plainChars) (floats : FloatRepr)
    (document : Json) :
    piece <:+: (dumps floats document).toList ↔
      ∃ text ∈ document.texts, piece <:+: escape text := by
  rw [dumps, String.toList_ofList, infix_chars_iff hquote hletter
    (plain_lexemes floats 0 document)]
  simp only [quoted_mem_lexemes]

end Json

end Foundation
