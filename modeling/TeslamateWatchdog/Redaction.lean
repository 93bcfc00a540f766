/-
The redaction that log text goes through before it is written: the patterns of
token-shaped values, and which of these values the redaction overlooks.
-/
import Mathlib.Data.List.Infix
import TeslamateWatchdog.Foundation.PyText
import TeslamateWatchdog.Foundation.RegexEnds
import TeslamateWatchdog.Foundation.Substitution

namespace TeslamateWatchdog

open Foundation

/-- `\w`, given which characters beyond ASCII are alphanumeric. -/
def isWord (alphanumeric : Char → Bool) (c : Char) : Bool :=
  c.isAlphanum || c == '_' || (decide (0x80 ≤ c.toNat) && alphanumeric c)

/-- `[A-Za-z0-9_-]`. -/
def isTokenChar (c : Char) : Bool :=
  c.isAlphanum || c == '_' || c == '-'

/-- `[A-Za-z0-9._-]` where case is ignored: four letters beyond ASCII have an
ASCII letter for their other case. -/
def isValueChar (c : Char) : Bool :=
  isTokenChar c || c == '.' || c == '\u0130' || c == '\u0131' ||
    c == '\u017F' || c == '\u212A'

/-- A letter of a literal where case is ignored; the long s counts as an s. -/
def sameLetter (letter c : Char) : Bool :=
  (if c = '\u017F' then 's' else PyText.lowerChar c) == letter

/-- The characters that count as a letter: itself, its upper case, and the two
letters beyond ASCII whose other case is ASCII. -/
theorem eq_of_sameLetter {letter c : Char} (hsame : sameLetter letter c = true) :
    c = letter ∨ (c.isUpper = true ∧ c.toNat + 32 = letter.toNat) ∨
      c = '\u017F' ∧ letter = 's' ∨ c = '\u212A' ∧ letter = 'k' := by
  have hlower := eq_of_beq hsame
  by_cases hlong : c = '\u017F'
  · rw [if_pos hlong] at hlower
    exact .inr (.inr (.inl ⟨hlong, hlower.symm⟩))
  · rw [if_neg hlong, PyText.lowerChar] at hlower
    by_cases hkelvin : c = '\u212A'
    · rw [if_pos hkelvin] at hlower
      exact .inr (.inr (.inr ⟨hkelvin, hlower.symm⟩))
    · rw [if_neg hkelvin] at hlower
      rcases PyText.eq_of_toLower hlower with hself | hupper
      · exact .inl hself
      · exact .inr (.inl hupper)

namespace Redaction

def sequence : List Regex → Regex :=
  List.foldr .seq .empty

def jwtPattern : Regex :=
  sequence [.boundary, .group (sequence [
    .literal (· == ·) "eyJ".toList, .many 10 isTokenChar, .set (· == '.'),
    .many 1 isTokenChar, .set (· == '.'), .many 1 isTokenChar])]

def refreshTokenPattern : Regex :=
  sequence [.boundary, .group (sequence [
    .literal (· == ·) "qts-".toList, .many 10 isTokenChar])]

/-- `access[_ -]?token|refresh[_ -]?token|bearer`. -/
def label : Regex :=
  let separator := Regex.optional
    (.set fun c => c == '_' || c == ' ' || c == '-')
  .alt
    (sequence [.literal sameLetter "access".toList, separator,
      .literal sameLetter "token".toList])
    (.alt
      (sequence [.literal sameLetter "refresh".toList, separator,
        .literal sameLetter "token".toList])
      (.literal sameLetter "bearer".toList))

/-- What follows a label: separators, and a value of twelve characters. -/
def labelledValue : Regex :=
  sequence [.many 0 PyText.isSpace,
    .optional (.set fun c => c == ':' || c == '='),
    .many 0 PyText.isSpace, .many 12 isValueChar]

def labelledPattern : Regex :=
  sequence [.boundary, .group label, .boundary, labelledValue]

end Redaction

open Redaction Substitution

/-- `_REDACTIONS`. -/
def redactions : List Substitution :=
  [⟨jwtPattern, fun _ => [], "<jwt-redacted>".toList⟩,
    ⟨refreshTokenPattern, fun _ => [], "<refresh-token-redacted>".toList⟩,
    ⟨labelledPattern, id, " <redacted>".toList⟩]

def redact (alphanumeric : Char → Bool) (text : String) : String :=
  String.ofList (applyAll (isWord alphanumeric) redactions text.toList)

/-- The text matches one of the token patterns. -/
def TokenShaped (alphanumeric : Char → Bool) (text : List Char) : Prop :=
  ∃ s ∈ redactions, s.pattern.Accepts (isWord alphanumeric) text

/-- The token stands in a stretch of the text that no match of the three
patterns hides; the label of a match is not hidden. -/
def Overlooked (alphanumeric : Char → Bool) (text : String)
    (token : List Char) : Prop :=
  ∃ stretch ∈ stretchesAll (isWord alphanumeric) redactions text.toList,
    token <:+: stretch

instance (alphanumeric : Char → Bool) (text : List Char) :
    Decidable (TokenShaped alphanumeric text) :=
  inferInstanceAs (Decidable (∃ s ∈ redactions, _))

instance (alphanumeric : Char → Bool) (text : String) (token : List Char) :
    Decidable (Overlooked alphanumeric text token) :=
  inferInstanceAs (Decidable (∃ stretch ∈ _, _))

namespace Redaction

variable {word p : Char → Bool} {rs : List Regex} {last : Regex}

theorem derives_sequence_append {first second : List Regex}
    {text : List Char} :
    (sequence (first ++ second)).Derives text ↔ ∃ left right,
      text = left ++ right ∧ (sequence first).Derives left ∧
        (sequence second).Derives right := by
  induction first generalizing text with
  | nil =>
      constructor
      · exact fun hderives => ⟨[], text, rfl, rfl, hderives⟩
      · rintro ⟨left, right, rfl, hempty, hright⟩
        rw [show left = [] from hempty]
        exact hright
  | cons r rest ih =>
      constructor
      · rintro ⟨front, others, rfl, hfront, hothers⟩
        obtain ⟨left, right, rfl, hleft, hright⟩ := ih.mp hothers
        exact ⟨front ++ left, right, (List.append_assoc _ _ _).symm,
          ⟨front, left, rfl, hfront, hleft⟩, hright⟩
      · rintro ⟨_, right, rfl, ⟨front, left, rfl, hfront, hleft⟩, hright⟩
        exact ⟨front, left ++ right, List.append_assoc _ _ _, hfront,
          ih.mpr ⟨left, right, rfl, hleft, hright⟩⟩

theorem shortest_le_sequence (hlast : last ∈ rs) :
    last.shortest ≤ (sequence rs).shortest := by
  induction rs with
  | nil => cases hlast
  | cons r rest ih =>
      have hsum : (sequence (r :: rest)).shortest =
          r.shortest + (sequence rest).shortest := rfl
      rcases List.mem_cons.mp hlast with rfl | hlater
      · omega
      · have hrest := ih hlater
        omega

theorem sequence_ends (hlast : rs.getLast? = some last)
    (hends : last.EndsWith p) (hshortest : 0 < last.shortest) :
    (sequence rs).EndsWith p := by
  induction rs with
  | nil => cases hlast
  | cons r rest ih =>
      cases rest with
      | nil =>
          obtain rfl := Option.some.inj hlast
          exact hends.seq_empty
      | cons next rest =>
          have hrest : (next :: rest).getLast? = some last := hlast
          exact (ih hrest).seq (hshortest.trans_le
            (shortest_le_sequence (List.mem_of_getLast? hrest)))

theorem sequence_spent (hlast : rs.getLast? = some last)
    (hspent : last.Spent word p) : (sequence rs).Spent word p := by
  induction rs with
  | nil => cases hlast
  | cons r rest ih =>
      cases rest with
      | nil =>
          obtain rfl := Option.some.inj hlast
          exact Regex.spent_seq_empty hspent
      | cons next rest => exact Regex.spent_seq (ih hlast)

end Redaction

theorem mem_redactions {s : Substitution} : s ∈ redactions ↔
    s = ⟨jwtPattern, fun _ => [], "<jwt-redacted>".toList⟩ ∨
      s = ⟨refreshTokenPattern, fun _ => [],
        "<refresh-token-redacted>".toList⟩ ∨
      s = ⟨labelledPattern, id, " <redacted>".toList⟩ := by
  simp only [redactions, List.mem_cons, List.not_mem_nil, or_false]

theorem redactions_settled : ∀ s ∈ redactions, s.pattern.Settled = true := by
  decide

theorem redactions_avoid : ∀ s ∈ redactions, s.pattern.Avoids '<' ∧
    s.pattern.Avoids '>' ∧ s.pattern.Avoids '"' := by
  decide

theorem redactions_shortest : ∀ s ∈ redactions, 13 < s.pattern.shortest := by
  decide

theorem isValueChar_of_isTokenChar {c : Char} (hc : isTokenChar c = true) :
    isValueChar c = true := by
  simp only [isValueChar, hc, Bool.true_or]

/-- Every match ends with a character that may stand in a value. -/
theorem redactions_end :
    ∀ s ∈ redactions, s.pattern.EndsWith isValueChar := by
  have htoken : ∀ {r : Regex}, r.EndsWith isTokenChar →
      r.EndsWith isValueChar := fun hr front c hderives =>
    isValueChar_of_isTokenChar (hr front c hderives)
  intro s hs
  rcases mem_redactions.mp hs with rfl | rfl | rfl
  · exact htoken (sequence_ends rfl (sequence_ends rfl
      (Regex.endsWith_many 1) (by decide)) (by decide))
  · exact htoken (sequence_ends rfl (sequence_ends rfl
      (Regex.endsWith_many 10) (by decide)) (by decide))
  · exact sequence_ends rfl (sequence_ends rfl
      (Regex.endsWith_many 12) (by decide)) (by decide)

/-- No token stands anywhere in the text, which is ASCII. -/
def tokenFree (text : List Char) : Bool :=
  text.all (fun c => decide (c.toNat < 0x80)) && text.tails.all fun tail =>
    redactions.all fun s => (s.find (isWord fun _ => false) false tail).isNone

theorem isWord_of_ascii (alphanumeric other : Char → Bool) {c : Char}
    (hascii : c.toNat < 0x80) : isWord alphanumeric c = isWord other c := by
  have hbelow : decide (0x80 ≤ c.toNat) = false :=
    decide_eq_false (Nat.not_le_of_lt hascii)
  rw [isWord, isWord, hbelow, Bool.false_and, Bool.false_and]

section Tokens

variable {alphanumeric : Char → Bool} {token text : List Char}

/-- A pattern finds a token at the start of ASCII text. -/
theorem TokenShaped.found (htoken : TokenShaped alphanumeric token)
    {after : List Char} (hascii : (token ++ after).all
      (fun c => decide (c.toNat < 0x80)) = true) :
    redactions.all (fun s => (s.find (isWord fun _ => false) false
      (token ++ after)).isNone) ≠ true := by
  obtain ⟨s, hs, haccepts⟩ := htoken
  intro hnothing
  have hnone := List.all_eq_true.mp hnothing s hs
  rw [Option.isNone_iff_eq_none] at hnone
  apply find_of_accepts haccepts (redactions_settled s hs) after
  rw [← hnone]
  apply find_congr
  intro c hc
  exact isWord_of_ascii _ _ (of_decide_eq_true (List.all_eq_true.mp hascii c hc))

theorem TokenShaped.not_infix (htoken : TokenShaped alphanumeric token)
    (hfree : tokenFree text = true) : ¬token <:+: text := by
  rw [tokenFree, Bool.and_eq_true] at hfree
  obtain ⟨hascii, hfree⟩ := hfree
  rintro ⟨before, after, rfl⟩
  rw [List.append_assoc] at hascii hfree
  rw [List.all_append, Bool.and_eq_true] at hascii
  exact htoken.found hascii.2 (List.all_eq_true.mp hfree (token ++ after)
    ((List.mem_tails _ _).mpr (List.suffix_append _ _)))

/-- No token stands in the text, which is ASCII, directly after a word
character. -/
def tokenFreeInWords (text : List Char) : Bool :=
  text.all (fun c => decide (c.toNat < 0x80)) && text.tails.all fun tail =>
    !tail.head?.any (isWord fun _ => false) || redactions.all fun s =>
      (s.find (isWord fun _ => false) false tail.tail).isNone

theorem TokenShaped.not_infix_afterWord (htoken : TokenShaped alphanumeric token)
    (hfree : tokenFreeInWords text = true) {c : Char}
    (hword : isWord alphanumeric c = true) : ¬(c :: token) <:+: text := by
  rw [tokenFreeInWords, Bool.and_eq_true] at hfree
  obtain ⟨hascii, hfree⟩ := hfree
  rintro ⟨before, after, rfl⟩
  rw [List.append_assoc, List.cons_append] at hascii hfree
  rw [List.all_append, List.all_cons, Bool.and_eq_true, Bool.and_eq_true]
    at hascii
  have htail := List.all_eq_true.mp hfree (c :: (token ++ after))
    ((List.mem_tails _ _).mpr (List.suffix_append _ _))
  rw [isWord_of_ascii alphanumeric (fun _ => false)
    (of_decide_eq_true hascii.2.1)] at hword
  rw [List.head?_cons, Option.any_some, hword, Bool.not_true, Bool.false_or]
    at htail
  exact htoken.found hascii.2.2 htail

theorem Redaction.length_of_derives_literal {same : Char → Char → Bool}
    {letters : List Char} (hderives : (Regex.literal same letters).Derives text) :
    text.length = letters.length := by
  induction letters generalizing text with
  | nil =>
      rw [show text = [] from hderives]
  | cons c letters ih =>
      obtain ⟨left, right, rfl, ⟨d, _, rfl⟩, hright⟩ := hderives
      rw [List.length_append, ih hright, List.length_cons, List.length_cons]
      simp [Nat.add_comm]

/-- A label has thirteen characters at most. -/
theorem Redaction.length_le_of_derives_label (hderives : label.Derives text) :
    text.length ≤ 13 := by
  have hseparator : ∀ {accepts : Char → Bool} {text : List Char},
      (Regex.optional (.set accepts)).Derives text → text.length ≤ 1 := by
    intro accepts text hderives
    rcases hderives with ⟨c, _, rfl⟩ | hempty
    · exact Nat.le_refl 1
    · rw [show text = [] from hempty]
      exact Nat.zero_le 1
  have hcompound : ∀ {first second : List Char} {accepts : Char → Bool}
      {text : List Char}, (sequence [.literal sameLetter first,
        .optional (.set accepts), .literal sameLetter second]).Derives text →
      text.length ≤ first.length + second.length + 1 := by
    intro first second accepts text hderives
    obtain ⟨left, rest, rfl, hleft, middle, rest, rfl, hmiddle, right, rest,
      rfl, hright, hempty⟩ := hderives
    have hmiddle := hseparator hmiddle
    rw [show rest = [] from hempty, List.append_nil, List.length_append,
      List.length_append, length_of_derives_literal hleft,
      length_of_derives_literal hright]
    omega
  rcases hderives with haccess | hrefresh | hbearer
  · exact (hcompound haccess).trans (by decide)
  · exact (hcompound hrefresh).trans (by decide)
  · rw [length_of_derives_literal hbearer]
    decide

theorem redactions_keepFront (alphanumeric : Char → Bool) :
    ∀ s ∈ redactions, s.KeepsFront (isWord alphanumeric) 13 := by
  have hnothing : ∀ (pattern : Regex) (mark : List Char),
      KeepsFront (isWord alphanumeric) ⟨pattern, fun _ => [], mark⟩ 13 :=
    fun _ _ _ _ _ _ => ⟨List.nil_prefix, Nat.zero_le 13⟩
  have hlabel : KeepsFront (isWord alphanumeric)
      ⟨labelledPattern, id, " <redacted>".toList⟩ 13 := by
    intro afterWord text finish hfind
    obtain ⟨hderives, hstarts⟩ := Regex.captured_of_boundary_group
      (by decide) (List.mem_of_head? hfind)
    exact ⟨hstarts, length_le_of_derives_label hderives⟩
  intro s hs
  rcases mem_redactions.mp hs with rfl | rfl | rfl
  · exact hnothing _ _
  · exact hnothing _ _
  · exact hlabel

/-- The second and third substitution leave the marks of the ones before. -/
theorem redactions_leave (alphanumeric : Char → Bool) :
    redactions.Pairwise fun earlier later =>
      later.Leaves (isWord alphanumeric) earlier.mark := by
  have hmark : ∀ later ∈ redactions, ∀ name : List Char,
      name.all (fun c => decide (c.toNat < 0x80)) = true →
      later.sub (isWord fun _ => false) name = name →
      later.Leaves (isWord alphanumeric) ('<' :: (name ++ ['>'])) := by
    intro later hlater name hascii hname
    obtain ⟨hopening, hclosing, _⟩ := redactions_avoid later hlater
    refine leaves_of_fenced (isWord_of_ascii _ (fun _ => false) (by decide))
      (isWord_of_ascii _ (fun _ => false) (by decide)) ⟨hopening, hclosing⟩
      (Nat.zero_lt_of_lt (redactions_shortest later hlater)) ?_
    refine Eq.trans (subFrom_congr fun c hc => ?_) hname
    exact isWord_of_ascii _ _
      (of_decide_eq_true (List.all_eq_true.mp hascii c hc))
  have hjwt := fun later hlater => hmark later hlater "jwt-redacted".toList
    (by decide)
  have hrefresh := fun later hlater =>
    hmark later hlater "refresh-token-redacted".toList (by decide)
  refine .cons ?_ (.cons ?_ (.cons (by simp) .nil))
  · intro later hlater
    exact hjwt later (List.mem_cons_of_mem _ hlater) (by
      revert later
      decide +kernel)
  · intro later hlater
    exact hrefresh later
      (List.mem_cons_of_mem _ (List.mem_cons_of_mem _ hlater)) (by
      revert later
      decide +kernel)

theorem TokenShaped.derives (htoken : TokenShaped alphanumeric token) :
    ∃ s ∈ redactions, s.pattern.Derives token := by
  obtain ⟨s, hs, haccepts⟩ := htoken
  exact ⟨s, hs, Regex.derives_of_accepts haccepts⟩

theorem TokenShaped.length (htoken : TokenShaped alphanumeric token) :
    13 < token.length := by
  obtain ⟨s, hs, hderives⟩ := htoken.derives
  exact (redactions_shortest s hs).trans_le
    (Regex.shortest_le_of_derives hderives)

theorem TokenShaped.not_mem (htoken : TokenShaped alphanumeric token) :
    '<' ∉ token ∧ '>' ∉ token ∧ '"' ∉ token := by
  obtain ⟨s, hs, hderives⟩ := htoken.derives
  obtain ⟨hopening, hclosing, hquote⟩ := redactions_avoid s hs
  exact ⟨Regex.not_mem_of_avoids hopening hderives,
    Regex.not_mem_of_avoids hclosing hderives,
    Regex.not_mem_of_avoids hquote hderives⟩

theorem Redaction.exists_of_derives_literal {same : Char → Char → Bool}
    {letters : List Char} (hderives : (Regex.literal same letters).Derives text)
    {letter : Char} (hletter : letter ∈ letters) :
    ∃ c ∈ text, same letter c = true := by
  induction letters generalizing text with
  | nil => cases hletter
  | cons first letters ih =>
      obtain ⟨left, right, rfl, ⟨c, hsame, rfl⟩, hright⟩ := hderives
      rcases List.mem_cons.mp hletter with rfl | hletter
      · exact ⟨c, List.mem_cons_self, hsame⟩
      · obtain ⟨d, hd, hsame⟩ := ih hright hletter
        exact ⟨d, List.mem_append_right _ hd, hsame⟩

/-- Every label has a k or a b. -/
theorem Redaction.exists_of_derives_label {name : List Char}
    (hderives : label.Derives name) :
    ∃ c ∈ name, sameLetter 'k' c = true ∨ sameLetter 'b' c = true := by
  have hword : ∀ {first : List Char} {accepts : Char → Bool}
      {text : List Char}, (sequence [.literal sameLetter first,
        .optional (.set accepts),
        .literal sameLetter "token".toList]).Derives text →
      ∃ c ∈ text, sameLetter 'k' c = true := by
    intro first accepts text hderives
    obtain ⟨_, _, rfl, _, _, _, rfl, _, _, _, rfl, hliteral, _⟩ := hderives
    obtain ⟨c, hc, hsame⟩ := exists_of_derives_literal hliteral
      (by decide : 'k' ∈ "token".toList)
    exact ⟨c, by simp [hc], hsame⟩
  rcases hderives with haccess | hrefresh | hbearer
  · obtain ⟨c, hc, hsame⟩ := hword haccess
    exact ⟨c, hc, .inl hsame⟩
  · obtain ⟨c, hc, hsame⟩ := hword hrefresh
    exact ⟨c, hc, .inl hsame⟩
  · obtain ⟨c, hc, hsame⟩ := exists_of_derives_literal hbearer
      (by decide : 'b' ∈ "bearer".toList)
    exact ⟨c, hc, .inr hsame⟩

/-- A letter of the fixed beginning of each kind of token. -/
def isTelling (c : Char) : Bool :=
  c == 'J' || c == 'q' || sameLetter 'k' c || sameLetter 'b' c

theorem TokenShaped.exists_telling (htoken : TokenShaped alphanumeric token) :
    ∃ c ∈ token, isTelling c = true := by
  have htelling : ∀ {c : Char}, c = 'J' ∨ c = 'q' ∨ sameLetter 'k' c = true ∨
      sameLetter 'b' c = true → isTelling c = true := by
    intro c hletter
    simpa [isTelling, or_assoc] using hletter
  obtain ⟨s, hs, hderives⟩ := htoken.derives
  rcases mem_redactions.mp hs with rfl | rfl | rfl
  · obtain ⟨_, _, rfl, _, _, _, rfl, ⟨_, _, rfl, hliteral, _⟩, _⟩ := hderives
    obtain ⟨c, hc, hsame⟩ :=
      exists_of_derives_literal hliteral (by decide : 'J' ∈ "eyJ".toList)
    exact ⟨c, by simp [hc], htelling (.inl (eq_of_beq hsame).symm)⟩
  · obtain ⟨_, _, rfl, _, _, _, rfl, ⟨_, _, rfl, hliteral, _⟩, _⟩ := hderives
    obtain ⟨c, hc, hsame⟩ :=
      exists_of_derives_literal hliteral (by decide : 'q' ∈ "qts-".toList)
    exact ⟨c, by simp [hc], htelling (.inr (.inl (eq_of_beq hsame).symm))⟩
  · obtain ⟨_, _, rfl, _, _, _, rfl, hlabel, _⟩ := hderives
    obtain ⟨c, hc, hsame⟩ := exists_of_derives_label hlabel
    exact ⟨c, by simp [hc], htelling (.inr (.inr hsame))⟩

theorem TokenShaped.getLast_ne (htoken : TokenShaped alphanumeric token)
    (hnonempty : token ≠ []) : token.getLast hnonempty ≠ ' ' := by
  obtain ⟨s, hs, hderives⟩ := htoken.derives
  rw [← List.dropLast_append_getLast hnonempty] at hderives
  have hvalue := redactions_end s hs _ _ hderives
  intro hspace
  rw [hspace] at hvalue
  exact absurd hvalue (by decide)

/-- A token meets none of the marks. -/
theorem TokenShaped.clear (htoken : TokenShaped alphanumeric token) :
    ∀ s ∈ redactions, Clear token s.mark := by
  obtain ⟨hopening, hclosing, _⟩ := htoken.not_mem
  have hnonempty : token ≠ [] :=
    List.ne_nil_of_length_pos (Nat.zero_lt_of_lt htoken.length)
  have hmark : ∀ lead name : List Char, token.getLast hnonempty ∉ lead →
      tokenFree name = true → Clear token (lead ++ '<' :: (name ++ ['>'])) :=
    fun _ _ hlead hfree => clear_of_fenced hopening hclosing
      (htoken.not_infix hfree) hnonempty hlead
  have hlast : token.getLast hnonempty ∉ [' '] :=
    fun hmem => htoken.getLast_ne hnonempty (List.mem_singleton.mp hmem)
  intro s hs
  rcases mem_redactions.mp hs with rfl | rfl | rfl
  · exact hmark [] "jwt-redacted".toList List.not_mem_nil (by decide +kernel)
  · exact hmark [] "refresh-token-redacted".toList List.not_mem_nil
      (by decide +kernel)
  · exact hmark [' '] "redacted".toList hlast (by decide +kernel)

/-- Redaction leaves a token exactly where no match hides it. -/
theorem infix_redact_iff (htoken : TokenShaped alphanumeric token)
    (text : String) :
    token <:+: (redact alphanumeric text).toList ↔
      Overlooked alphanumeric text token := by
  rw [redact, String.toList_ofList]
  exact infix_applyAll_iff htoken.clear (redactions_leave alphanumeric) _

/-- A token is overlooked only directly after a word character. -/
theorem Overlooked.afterWord {text : String}
    (hoverlooked : Overlooked alphanumeric text token)
    (htoken : TokenShaped alphanumeric token) :
    ∃ c, isWord alphanumeric c = true ∧ (c :: token) <:+: text.toList :=
  afterWord_of_stretchesAll (redactions_keepFront alphanumeric)
    redactions_settled htoken.length htoken _ hoverlooked

example : Overlooked (fun _ => false) "id_qts-1234567890"
    "qts-1234567890".toList := by
  decide +kernel

end Tokens

end TeslamateWatchdog
