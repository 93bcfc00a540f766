/-
The integers of a JSON text that are too long to convert.  They are found by
going through the text once, without reading the document.
-/
import TeslamateWatchdog.Foundation.JsonScanner
import TeslamateWatchdog.Foundation.JsonWriter

namespace Foundation

namespace Json

/-- Where a text has come to: outside strings, after this many digits of a
numeral that is still an integer, or not; inside a string, or after a backslash
there; or past an integer that is too long. -/
inductive Lex where
  | outside (digits : Nat) (whole : Bool)
  | inside
  | escaped
  | long
deriving Repr, DecidableEq

namespace Lex

def start : Lex := outside 0 true

/-- The character makes a numeral one that is no integer. -/
def isPart (c : Char) : Bool :=
  c == '.' || c == 'e' || c == 'E'

def isSign (c : Char) : Bool :=
  c == '+' || c == '-'

def next (limit : Nat) : Lex → Char → Lex
  | long, _ => long
  | inside, c =>
      if c = '"' then start else if c = '\\' then escaped else inside
  | escaped, _ => inside
  | outside digits whole, c =>
      if c.isDigit then outside (if whole then digits + 1 else digits) whole
      else if isSign c then outside digits whole
      else if isPart c then outside digits false
      else if whole ∧ limit < digits then long
      else if c = '"' then inside
      else start

/-- An integer that is too long has been passed, or ends here. -/
def Long (limit : Nat) : Lex → Prop
  | outside digits whole => whole = true ∧ limit < digits
  | long => True
  | _ => False

instance (limit : Nat) (lex : Lex) : Decidable (lex.Long limit) := by
  cases lex <;> unfold Long <;> infer_instance

/-- No digits of an integer have been read. -/
def Settled : Lex → Prop
  | outside digits whole => whole = true → digits = 0
  | _ => False

end Lex

/-- The text has an integer of more than `limit` digits. -/
def HasLongInteger (limit : Nat) (text : List Char) : Prop :=
  (text.foldl (Lex.next limit) .start).Long limit

instance (limit : Nat) (text : List Char) :
    Decidable (HasLongInteger limit text) :=
  inferInstanceAs (Decidable (Lex.Long limit _))

example : HasLongInteger 3 "[1.5e10, 1234]".toList ∧
    ¬HasLongInteger 3 "[\"1234\", 1234.5]".toList := by
  decide +kernel

mutual

/-- No integer stands in the document. -/
def Integerless : Json → Prop
  | .int _ => False
  | .arr items => IntegerlessItems items
  | .obj members => IntegerlessMembers members
  | _ => True

def IntegerlessItems : List Json → Prop
  | [] => True
  | item :: rest => item.Integerless ∧ IntegerlessItems rest

def IntegerlessMembers : List (String × Json) → Prop
  | [] => True
  | (_, value) :: rest => value.Integerless ∧ IntegerlessMembers rest

end

theorem integerlessItems_iff {items : List Json} :
    IntegerlessItems items ↔ ∀ item ∈ items, item.Integerless := by
  induction items with
  | nil => simp [IntegerlessItems]
  | cons item rest ih => rw [IntegerlessItems, ih, List.forall_mem_cons]

section Writing

variable {limit : Nat}

theorem Lex.not_long {lex : Lex} (hsettled : lex.Settled) :
    ¬lex.Long limit := by
  cases lex with
  | outside digits whole =>
      rintro ⟨hwhole, hlong⟩
      rw [hsettled hwhole] at hlong
      exact absurd hlong (Nat.not_lt_zero _)
  | _ => exact hsettled.elim

/-- A character that belongs to no numeral and no string. -/
def Lex.isApart (c : Char) : Bool :=
  !(c.isDigit || isSign c || isPart c || c == '"')

theorem Lex.next_apart {lex : Lex} {c : Char} (hsettled : lex.Settled)
    (hc : isApart c = true) : next limit lex c = start := by
  simp only [isApart, Bool.not_eq_true', Bool.or_eq_false_iff,
    beq_eq_false_iff_ne] at hc
  obtain ⟨⟨⟨hdigit, hsign⟩, hpart⟩, hquote⟩ := hc
  cases lex with
  | outside digits whole =>
      have hshort : ¬(whole = true ∧ limit < digits) := not_long hsettled
      simp [next, hdigit, hsign, hpart, hshort, hquote]
  | _ => exact hsettled.elim

theorem Lex.settled_start : start.Settled := fun _ => rfl

theorem Lex.foldl_apart {lex : Lex} {text : List Char}
    (hsettled : lex.Settled) (htext : ∀ c ∈ text, isApart c = true) :
    (text.foldl (next limit) lex).Settled := by
  induction text generalizing lex with
  | nil => exact hsettled
  | cons c rest ih =>
      rw [List.forall_mem_cons] at htext
      rw [List.foldl_cons, next_apart hsettled htext.1]
      exact ih settled_start htext.2

theorem Lex.foldl_apart_cons {lex : Lex} {c : Char} {text : List Char}
    (hsettled : lex.Settled) (hc : isApart c = true)
    (htext : ∀ c ∈ text, isApart c = true) :
    (c :: text).foldl (next limit) lex = start := by
  induction text generalizing lex c with
  | nil => exact next_apart hsettled hc
  | cons d rest ih =>
      rw [List.forall_mem_cons] at htext
      rw [List.foldl_cons, next_apart hsettled hc]
      exact ih settled_start htext.1 htext.2

theorem isApart_of_isBlank {c : Char} (hblank : isBlank c = true) :
    Lex.isApart c = true := by
  simp only [isBlank, Bool.or_eq_true, beq_iff_eq] at hblank
  rcases hblank with ((rfl | rfl) | rfl) | rfl
  all_goals decide

theorem next_hexDigit (digit : Nat) :
    Lex.next limit .inside (PyText.hexDigit (digit % 0x10)) = .inside := by
  have hplain : ∀ digit < 16, PyText.hexDigit digit ≠ '"' ∧
      PyText.hexDigit digit ≠ '\\' := by
    decide
  obtain ⟨hquote, hslash⟩ := hplain _ (Nat.mod_lt digit (by decide))
  rw [Lex.next, if_neg hquote, if_neg hslash]

theorem foldl_hexEscape (code : Nat) :
    (hexEscape code).foldl (Lex.next limit) .inside = .inside := by
  simp only [hexEscape, List.foldl_cons, List.foldl_nil]
  change Lex.next limit (Lex.next limit (Lex.next limit
    (Lex.next limit .inside _) _) _) _ = .inside
  rw [next_hexDigit, next_hexDigit, next_hexDigit, next_hexDigit]

theorem foldl_escapeChar (c : Char) :
    (escapeChar c).foldl (Lex.next limit) .inside = .inside := by
  by_cases hletter : c ∈ ['"', '\\', '\n', '\r', '\t', '\x08', '\x0c']
  · simp only [List.mem_cons, List.not_mem_nil, or_false] at hletter
    rcases hletter with rfl | rfl | rfl | rfl | rfl | rfl | rfl
    all_goals rfl
  · simp only [List.mem_cons, List.not_mem_nil, or_false, not_or] at hletter
    obtain ⟨hquote, hslash, hn, hr, ht, hb, hf⟩ := hletter
    rw [escapeChar, if_neg hquote, if_neg hslash, if_neg hn, if_neg hr,
      if_neg ht, if_neg hb, if_neg hf]
    by_cases hprintable : 0x20 ≤ c.toNat ∧ c.toNat ≤ 0x7e
    · rw [if_pos hprintable, List.foldl_cons, List.foldl_nil, Lex.next,
        if_neg hquote, if_neg hslash]
    · rw [if_neg hprintable]
      split
      · exact foldl_hexEscape _
      · rw [List.foldl_append, foldl_hexEscape, foldl_hexEscape]

/-- A string is passed without anything of it being taken for a numeral. -/
theorem foldl_quoted (text : String) :
    (quoted text).foldl (Lex.next limit) .start = .start := by
  have hescape : ∀ chars : List Char,
      (chars.flatMap escapeChar).foldl (Lex.next limit) .inside = .inside := by
    intro chars
    induction chars with
    | nil => rfl
    | cons c rest ih =>
        rw [List.flatMap_cons, List.foldl_append, foldl_escapeChar, ih]
  rw [quoted, List.foldl_cons, List.foldl_append]
  change [_].foldl _ ((escape text).foldl (Lex.next limit) .inside) = _
  rw [escape, hescape]
  rfl

/-- What numerals are made of, with something in it that no integer has. -/
theorem foldl_numeral {text : List Char}
    (hchars : ∀ c ∈ text, (c.isDigit || Lex.isSign c || Lex.isPart c) = true)
    (digits : Nat) (whole : Bool) :
    ∃ digits', text.foldl (Lex.next limit) (.outside digits whole) =
      .outside digits' (whole && !text.any Lex.isPart) := by
  induction text generalizing digits whole with
  | nil => exact ⟨digits, by simp⟩
  | cons c rest ih =>
      rw [List.forall_mem_cons] at hchars
      rw [List.foldl_cons, Lex.next, List.any_cons]
      by_cases hdigit : c.isDigit = true
      · have hpart : Lex.isPart c = false := by
          by_contra hpart
          rw [Bool.not_eq_false] at hpart
          simp only [Lex.isPart, Bool.or_eq_true, beq_iff_eq] at hpart
          rcases hpart with (rfl | rfl) | rfl
          all_goals exact absurd hdigit (by decide)
        rw [if_pos hdigit, hpart, Bool.false_or]
        exact ih hchars.2 _ whole
      · rw [if_neg hdigit]
        by_cases hsign : Lex.isSign c = true
        · have hpart : Lex.isPart c = false := by
            simp only [Lex.isSign, Bool.or_eq_true, beq_iff_eq] at hsign
            rcases hsign with rfl | rfl
            all_goals decide
          rw [if_pos hsign, hpart, Bool.false_or]
          exact ih hchars.2 _ whole
        · have hpart : Lex.isPart c = true := by simpa [hdigit, hsign] using
            hchars.1
          rw [if_neg hsign, if_pos hpart, hpart]
          obtain ⟨digits', hrest⟩ := ih hchars.2 digits false
          exact ⟨digits', by rw [hrest]; simp⟩

theorem any_isPart_of_scanNumeral {text : List Char} {numeral : Numeral}
    (hscan : scanNumeral text = some (numeral, []))
    (hparts : numeral.fraction ≠ [] ∨ numeral.exponent ≠ []) :
    text.any Lex.isPart = true := by
  have htext := (scanNumeral_split hscan).1
  obtain ⟨⟨whole, left⟩, -, heq⟩ := Option.map_eq_some_iff.mp hscan
  obtain ⟨hnumeral, -⟩ := Prod.mk.inj heq
  have hfraction := (scanFraction_split left).2
  have hexponent := (scanExponent_split (scanFraction left).2).2
  rw [htext, List.append_nil, Numeral.chars, List.any_append, List.any_append]
  rw [← hnumeral] at hparts ⊢
  dsimp only at hparts ⊢
  rcases hparts with hne | hne
  · obtain ⟨c, rest, hcons⟩ := List.exists_cons_of_ne_nil hne
    rw [hcons] at hfraction ⊢
    obtain rfl := hfraction c rfl
    simp [Lex.isPart]
  · obtain ⟨c, rest, hcons⟩ := List.exists_cons_of_ne_nil hne
    rw [hcons] at hexponent ⊢
    rcases hexponent c rfl with rfl | rfl
    all_goals simp [Lex.isPart]

/-- A word without digits leaves nothing behind. -/
theorem settled_word {text : List Char}
    (htext : (text.all fun c => !(c.isDigit || c == '"')) = true) :
    (text.foldl (Lex.next limit) .start).Settled := by
  have hword : ∀ (chars : List Char) (whole : Bool),
      (chars.all fun c => !(c.isDigit || c == '"')) = true →
      ∃ whole', chars.foldl (Lex.next limit) (.outside 0 whole) =
        .outside 0 whole' := by
    intro chars
    induction chars with
    | nil => exact fun whole _ => ⟨whole, rfl⟩
    | cons c rest ih =>
        intro whole hchars
        simp only [List.all_cons, Bool.and_eq_true, Bool.not_eq_true',
          Bool.or_eq_false_iff, beq_eq_false_iff_ne] at hchars
        obtain ⟨⟨hdigit, hquote⟩, hrest⟩ := hchars
        have hrest := fun whole => ih whole (by simpa using hrest)
        rw [List.foldl_cons, Lex.next, if_neg (by simp [hdigit])]
        by_cases hsign : Lex.isSign c = true
        · rw [if_pos hsign]
          exact hrest whole
        · rw [if_neg hsign]
          by_cases hpart : Lex.isPart c = true
          · rw [if_pos hpart]
            exact hrest false
          · rw [if_neg hpart, if_neg (fun hlong => Nat.not_lt_zero _ hlong.2),
              if_neg hquote]
            exact hrest true
  obtain ⟨whole, hend⟩ := hword text true htext
  rw [Lex.start, hend]
  exact fun _ => rfl

theorem settled_finite (floats : FloatText) (value : ℚ) :
    ((floats.text value).toList.foldl (Lex.next limit) .start).Settled := by
  obtain ⟨numeral, hscan, hparts⟩ := floats.scans value
  have hallowed : ("0123456789+-.e".toList.all fun c =>
      c.isDigit || Lex.isSign c || Lex.isPart c) = true := by
    decide +kernel
  rw [List.all_eq_true] at hallowed
  obtain ⟨digits, hend⟩ := @foldl_numeral limit _
    (fun c hc => hallowed c (floats.numeral value c hc)) 0 true
  rw [Lex.start, hend, any_isPart_of_scanNumeral hscan hparts]
  exact fun hwhole => absurd hwhole (by decide)

theorem settled_float (floats : FloatText) : (value : PyFloat) →
    ((writeFloat floats.toFloatRepr value).foldl (Lex.next limit)
      .start).Settled
  | .finite value => settled_finite floats value
  | .posInf => @settled_word limit "Infinity".toList (by decide +kernel)
  | .negInf => @settled_word limit "-Infinity".toList (by decide +kernel)
  | .nan => @settled_word limit "NaN".toList (by decide +kernel)

variable (floats : FloatText) (layout : Layout)

/-- Brackets around pieces that leave no integer behind. -/
theorem foldl_bracket (level : Nat) {left right : Char}
    (hleft : Lex.isApart left = true) (hright : Lex.isApart right = true)
    {pieces : List (List Char)}
    (hpieces : ∀ piece ∈ pieces,
      (piece.foldl (Lex.next limit) .start).Settled) :
    (layout.bracket level left right pieces).foldl (Lex.next limit) .start =
      .start := by
  have hblank : ∀ {text : List Char}, (∀ c ∈ text, isBlank c = true) →
      ∀ c ∈ text, Lex.isApart c = true :=
    fun htext c hc => isApart_of_isBlank (htext c hc)
  cases pieces with
  | nil =>
      rw [Layout.bracket]
      exact Lex.foldl_apart_cons Lex.settled_start hleft (by simpa using hright)
  | cons piece rest =>
      rw [List.forall_mem_cons] at hpieces
      have hrest : ∀ {lex : Lex} {others : List (List Char)}, lex.Settled →
          (∀ other ∈ others, (other.foldl (Lex.next limit) .start).Settled) →
          ((others.flatMap fun other =>
            ',' :: (layout.separated (level + 1) ++ other)).foldl
              (Lex.next limit) lex).Settled := by
        intro lex others hlex hothers
        induction others generalizing lex with
        | nil => exact hlex
        | cons other others ih =>
            rw [List.forall_mem_cons] at hothers
            rw [List.flatMap_cons, List.foldl_append, ← List.cons_append,
              List.foldl_append, Lex.foldl_apart_cons hlex (by decide)
                (hblank (layout.separated_blank (level + 1)))]
            exact ih hothers.1 hothers.2
      have hopened := @Lex.foldl_apart_cons limit .start left _
        Lex.settled_start hleft (hblank (layout.opened_blank (level + 1)))
      rw [Layout.bracket, ← List.cons_append, ← List.cons_append,
        ← List.cons_append, ← List.cons_append, List.foldl_append,
        List.foldl_append, List.foldl_append, List.foldl_append, hopened]
      have hclosed := @Lex.foldl_apart limit _ _ (hrest hpieces.1 hpieces.2)
        (hblank (layout.closed_blank level))
      rw [List.foldl_cons, List.foldl_nil]
      exact Lex.next_apart hclosed hright

mutual

/-- A document without integers is written without any. -/
theorem settled_write (level : Nat) : (document : Json) →
    document.Integerless →
      ((write floats.toFloatRepr layout level document).foldl
        (Lex.next limit) .start).Settled
  | .null, _ => by
      rw [write]
      exact settled_word (by decide +kernel)
  | .bool true, _ => by
      rw [write]
      exact settled_word (by decide +kernel)
  | .bool false, _ => by
      rw [write]
      exact settled_word (by decide +kernel)
  | .int _, hnone => by simp [Integerless] at hnone
  | .float value, _ => by
      rw [write]
      exact settled_float floats value
  | .str text, _ => by
      rw [write, foldl_quoted]
      exact Lex.settled_start
  | .arr items, hnone => by
      rw [Integerless] at hnone
      rw [write, foldl_bracket layout level (by decide) (by decide)
        (settled_writeItems (level + 1) items hnone)]
      exact Lex.settled_start
  | .obj members, hnone => by
      rw [Integerless] at hnone
      rw [write, foldl_bracket layout level (by decide) (by decide)
        (settled_writeMembers (level + 1) members hnone)]
      exact Lex.settled_start

theorem settled_writeItems (level : Nat) : (items : List Json) →
    IntegerlessItems items →
      ∀ piece ∈ writeItems floats.toFloatRepr layout level items,
        (piece.foldl (Lex.next limit) .start).Settled
  | [], _ => by simp [writeItems]
  | item :: rest, hnone => by
      rw [IntegerlessItems] at hnone
      rw [writeItems, List.forall_mem_cons]
      exact ⟨settled_write level item hnone.1,
        settled_writeItems level rest hnone.2⟩

theorem settled_writeMembers (level : Nat) :
    (members : List (String × Json)) → IntegerlessMembers members →
      ∀ piece ∈ writeMembers floats.toFloatRepr layout level members,
        (piece.foldl (Lex.next limit) .start).Settled
  | [], _ => by simp [writeMembers]
  | (key, value) :: rest, hnone => by
      rw [IntegerlessMembers] at hnone
      rw [writeMembers, List.forall_mem_cons, List.foldl_append, foldl_quoted,
        List.foldl_cons, List.foldl_cons]
      exact ⟨settled_write level value hnone.1,
        settled_writeMembers level rest hnone.2⟩

end

theorem not_hasLongInteger_write {document : Json}
    (hnone : document.Integerless) (level : Nat) :
    ¬HasLongInteger limit (write floats.toFloatRepr layout level document) :=
  Lex.not_long (settled_write floats layout level document hnone)

end Writing

end Json

end Foundation
