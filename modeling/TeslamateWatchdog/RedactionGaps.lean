/-
Which values redaction leaves in a text: over all tokens and labelled values of
the text, adjacent, nested or overlapping.
-/
import TeslamateWatchdog.Foundation.Leftovers
import TeslamateWatchdog.Redaction

namespace TeslamateWatchdog

open Foundation Redaction Substitution

namespace Redaction

/-- What may stand between a label and its value. -/
def separators : Regex :=
  sequence [.many 0 PyText.isSpace,
    .optional (.set fun c => c == ':' || c == '='),
    .many 0 PyText.isSpace]

def secret : Regex :=
  .many 12 isValueChar

end Redaction

/-- A value of a text that has the shape of a token, or stands after a label and
its separators. -/
structure Occurrence (text : List Char) where
  before : List Char
  name : List Char
  gap : List Char
  value : List Char
  after : List Char
  text_eq : text = before ++ (name ++ (gap ++ (value ++ after)))
  shaped : (name = [] ∧ gap = [] ∧
      (jwtPattern.Derives value ∨ refreshTokenPattern.Derives value)) ∨
    (label.Derives name ∧ separators.Derives gap ∧ secret.Derives value)

/-- The redacted text, in parts of the text and marks. -/
def redactedPieces (alphanumeric : Char → Bool) (text : List Char) :
    List Piece :=
  piecesAll (isWord alphanumeric) redactions ⟨0, text⟩

/-- The matches that are replaced, over all three patterns. -/
def replacedMatches (alphanumeric : Char → Bool) (text : List Char) :
    List Found :=
  foundAll (isWord alphanumeric) redactions ⟨0, text⟩

namespace Occurrence

variable {text : List Char} (o : Occurrence text)

/-- Where the occurrence begins. -/
def start : Nat :=
  o.before.length

/-- Where its value begins. -/
def valueStart : Nat :=
  o.start + o.name.length + o.gap.length

def stop : Nat :=
  o.valueStart + o.value.length

/-- The value still stands at its place in the redacted text. -/
def Survives (alphanumeric : Char → Bool) : Prop :=
  ∃ part, .kept part ∈ redactedPieces alphanumeric text ∧
    part.Covers o.valueStart o.stop

/-- A match replaces something of the value. -/
def Hidden (alphanumeric : Char → Bool) : Prop :=
  ∃ found ∈ replacedMatches alphanumeric text, found.Hides o.valueStart o.stop

/-- The occurrence begins directly after a word character, its label runs into
one, or it begins inside another one that ends before its value. -/
def Exposed (alphanumeric : Char → Bool) : Prop :=
  (∃ c ∈ o.before.getLast?, isWord alphanumeric c = true) ∨
  (o.name ≠ [] ∧ ∃ c ∈ (o.gap ++ o.value).head?, isWord alphanumeric c = true) ∨
  ∃ other : Occurrence text, other.start < o.start ∧ o.start < other.stop ∧
    other.stop ≤ o.valueStart

end Occurrence

/-- Every exposed occurrence of the text has in its value that of one that is
not exposed. -/
def Guarded (alphanumeric : Char → Bool) (text : List Char) : Prop :=
  ∀ o : Occurrence text, o.Exposed alphanumeric →
    ∃ other : Occurrence text, ¬other.Exposed alphanumeric ∧
      o.valueStart ≤ other.valueStart ∧ other.stop ≤ o.stop

theorem isTokenChar_of_isAlphanum {c : Char} (hc : c.isAlphanum = true) :
    isTokenChar c = true := by
  rw [isTokenChar, hc, Bool.true_or, Bool.true_or]

theorem isWord_of_isAlphanum (alphanumeric : Char → Bool) {c : Char}
    (hc : c.isAlphanum = true) : isWord alphanumeric c = true := by
  rw [isWord, hc, Bool.true_or, Bool.true_or]

/-- But for s and k, a letter has no other case beyond ASCII. -/
theorem isAlphanum_of_sameLetter {letter c : Char}
    (hletter : letter.isAlphanum = true) (hs : letter ≠ 's')
    (hk : letter ≠ 'k') (hsame : sameLetter letter c = true) :
    c.isAlphanum = true := by
  rcases eq_of_sameLetter hsame with
    rfl | ⟨hupper, -⟩ | ⟨-, hlong⟩ | ⟨-, hkelvin⟩
  · exact hletter
  · have hclasses : c.isAlphanum =
        (c.isUpper || c.isLower || c.isDigit) := rfl
    rw [hclasses, hupper, Bool.true_or, Bool.true_or]
  · exact absurd hlong hs
  · exact absurd hkelvin hk

/-- A token begins with the first letter of its literal. -/
theorem token_begins {letter : Char} (hletter : letter.isAlphanum = true)
    (letters : List Char) (others : List Regex) :
    (sequence [.boundary, .group (sequence
      (.literal (· == ·) (letter :: letters) :: others))]).BeginsWith
        Char.isAlphanum := by
  intro c rest hderives
  have hfirst := Regex.beginsWith_literal _ c rest
    (Regex.derives_seq_empty.mp (Regex.derives_boundary_seq.mp hderives))
  obtain rfl := eq_of_beq hfirst
  exact hletter

theorem label_begins : label.BeginsWith Char.isAlphanum := by
  rintro c rest (haccess | hrefresh | hbearer)
  · exact isAlphanum_of_sameLetter (by decide) (by decide) (by decide)
      (Regex.beginsWith_literal _ c rest haccess)
  · exact isAlphanum_of_sameLetter (by decide) (by decide) (by decide)
      (Regex.beginsWith_literal _ c rest hrefresh)
  · exact isAlphanum_of_sameLetter (by decide) (by decide) (by decide)
      (Regex.beginsWith_literal .empty c rest
        (Regex.derives_seq_empty.mpr hbearer))

theorem label_ends : label.EndsWith Char.isAlphanum := by
  have hend : ∀ {r : Regex}, r.EndsWith (sameLetter 'n') →
      r.EndsWith Char.isAlphanum := fun hr front c hderives =>
    isAlphanum_of_sameLetter (by decide) (by decide) (by decide)
      (hr front c hderives)
  have htoken : (Regex.literal sameLetter "token".toList).EndsWith
      (sameLetter 'n') := Regex.endsWith_literal "toke".toList
  rintro front c (haccess | hrefresh | hbearer)
  · exact hend (sequence_ends rfl htoken (by decide)) front c haccess
  · exact hend (sequence_ends rfl htoken (by decide)) front c hrefresh
  · exact isAlphanum_of_sameLetter (by decide) (by decide) (by decide)
      (Regex.endsWith_literal "beare".toList front c hbearer)

theorem label_ne_nil {name : List Char} (hname : label.Derives name) :
    name ≠ [] := by
  have hlength : 6 ≤ name.length := Regex.shortest_le_of_derives hname
  rintro rfl
  exact absurd hlength (by decide)

/-- Every match begins with a letter. -/
theorem redactions_begin :
    ∀ s ∈ redactions, s.pattern.BeginsWith Char.isAlphanum := by
  intro s hs
  rcases mem_redactions.mp hs with rfl | rfl | rfl
  · exact token_begins (by decide) "yJ".toList _
  · exact token_begins (by decide) "ts-".toList _
  · intro c rest hderives
    obtain ⟨name, others, htext, hlabel, _⟩ :=
      Regex.derives_boundary_seq.mp hderives
    cases name with
    | nil => exact absurd rfl (label_ne_nil hlabel)
    | cons d name =>
        obtain ⟨rfl, _⟩ := List.cons.inj htext
        exact label_begins c name hlabel

/-- A match goes on as long as token characters follow. -/
theorem redactions_spent (alphanumeric : Char → Bool) :
    ∀ s ∈ redactions, s.pattern.Spent (isWord alphanumeric) isTokenChar := by
  have hself : ∀ c, isTokenChar c = true → isTokenChar c = true :=
    fun _ hc => hc
  intro s hs
  rcases mem_redactions.mp hs with rfl | rfl | rfl
  · exact sequence_spent rfl (Regex.spent_group (sequence_spent rfl
      (Regex.spent_many hself 1)))
  · exact sequence_spent rfl (Regex.spent_group (sequence_spent rfl
      (Regex.spent_many hself 10)))
  · exact sequence_spent rfl (sequence_spent rfl
      (Regex.spent_many (fun _ => isValueChar_of_isTokenChar) 12))

theorem redactions_tidy (alphanumeric : Char → Bool) :
    ∀ s ∈ redactions, s.Tidy (isWord alphanumeric) isTokenChar 13 :=
  fun s hs => ⟨redactions_settled s hs, redactions_keepFront alphanumeric s hs,
    redactions_shortest s hs,
    fun c rest hderives =>
      isTokenChar_of_isAlphanum (redactions_begin s hs c rest hderives),
    redactions_spent alphanumeric s hs⟩

/-- No pattern has a match at a mark, on any side of it. -/
theorem redactions_keepQuiet (alphanumeric : Char → Bool) :
    ∀ t ∈ redactions, ∀ s ∈ redactions,
      t.KeepsQuiet (isWord alphanumeric) s.mark := by
  intro t ht s hs
  obtain ⟨hopening, hclosing, _⟩ := redactions_avoid t ht
  have hlonger : 1 < t.pattern.shortest :=
    Nat.lt_trans (by decide) (redactions_shortest t ht)
  have hmark : ∀ lead name : List Char, (∀ c ∈ lead, isValueChar c = false) →
      name.all (fun c => decide (c.toNat < 0x80)) = true →
      (∀ u ∈ redactions, u.Quiet (isWord fun _ => false) false name) →
      t.KeepsQuiet (isWord alphanumeric) (lead ++ '<' :: (name ++ ['>'])) := by
    intro lead name hlead hascii hname
    refine keepsQuiet_of_fenced (isWord_of_ascii _ (fun _ => false) (by decide))
      (isWord_of_ascii _ (fun _ => false) (by decide)) ⟨hopening, hclosing⟩
      (redactions_settled t ht) hlonger (fun c hc taken hderives => ?_)
      ((hname t ht).congr fun c hc => ?_)
    · have hvalue := redactions_end t ht taken c hderives
      rw [hlead c hc] at hvalue
      cases hvalue
    · exact isWord_of_ascii _ _
        (of_decide_eq_true (List.all_eq_true.mp hascii c hc))
  have hspace : ∀ c ∈ [' '], isValueChar c = false := by
    simp only [List.mem_singleton, forall_eq]
    decide
  rcases mem_redactions.mp hs with rfl | rfl | rfl
  · exact hmark [] "jwt-redacted".toList (by simp) (by decide)
      (by decide +kernel)
  · exact hmark [] "refresh-token-redacted".toList (by simp) (by decide)
      (by decide +kernel)
  · exact hmark [' '] "redacted".toList hspace (by decide) (by decide +kernel)

theorem Redaction.derives_labelledValue {text : List Char} :
    labelledValue.Derives text ↔ ∃ gap value, text = gap ++ value ∧
      separators.Derives gap ∧ secret.Derives value := by
  have hparts := @derives_sequence_append [.many 0 PyText.isSpace,
    .optional (.set fun c => c == ':' || c == '='),
    .many 0 PyText.isSpace] [secret] text
  refine hparts.trans (exists_congr fun gap => exists_congr fun value => ?_)
  exact and_congr_right' (and_congr_right' Regex.derives_seq_empty)

theorem toNat_of_isAlphanum {c : Char} (hc : c.isAlphanum = true) :
    48 ≤ c.toNat ∧ c.toNat ≤ 57 ∨ 65 ≤ c.toNat ∧ c.toNat ≤ 122 := by
  have hclasses : c.isAlphanum =
      ((decide ('A'.val ≤ c.val ∧ c.val ≤ 'Z'.val) ||
        (decide ('a'.val ≤ c.val) && decide (c.val ≤ 'z'.val))) ||
        (decide ('0'.val ≤ c.val) && decide (c.val ≤ '9'.val))) := rfl
  rw [hclasses] at hc
  simp only [Bool.or_eq_true, Bool.and_eq_true, decide_eq_true_eq,
    UInt32.le_iff_toNat_le] at hc
  change ((65 ≤ c.toNat ∧ c.toNat ≤ 90) ∨ (97 ≤ c.toNat ∧ c.toNat ≤ 122)) ∨
    (48 ≤ c.toNat ∧ c.toNat ≤ 57) at hc
  omega

theorem not_separator_of_isValueChar {c : Char} (hc : isValueChar c = true) :
    PyText.isSpace c = false ∧ (c == ':' || c == '=') = false := by
  simp only [isValueChar, isTokenChar, Bool.or_eq_true, beq_iff_eq, or_assoc]
    at hc
  rcases hc with
    hletter | rfl | rfl | rfl | rfl | rfl | rfl | rfl
  · have hcode := toNat_of_isAlphanum hletter
    constructor
    · simp only [PyText.isSpace, Bool.or_eq_false_iff, Bool.and_eq_false_iff,
        decide_eq_false_iff_not, beq_eq_false_iff_ne]
      omega
    · rw [Bool.or_eq_false_iff, beq_eq_false_iff_ne, beq_eq_false_iff_ne]
      constructor
      · rintro rfl
        exact absurd hcode (by decide)
      · rintro rfl
        exact absurd hcode (by decide)
  all_goals decide

/-- What stands between a label and its value is not part of a value. -/
theorem isValueChar_of_mem_gap {gap : List Char}
    (hgap : separators.Derives gap) {c : Char} (hc : c ∈ gap) :
    isValueChar c = false := by
  by_contra hvalue
  rw [Bool.not_eq_false] at hvalue
  obtain ⟨hspace, hcolon⟩ := not_separator_of_isValueChar hvalue
  have havoids : separators.Avoids c :=
    ⟨hspace, ⟨hcolon, trivial⟩, hspace, trivial⟩
  exact Regex.not_mem_of_avoids havoids hgap hc

section Gaps

variable {alphanumeric : Char → Bool} {text : List Char}

/-- What is matched is an occurrence. -/
theorem exists_occurrence {s : Substitution} (hs : s ∈ redactions)
    {before chars after : List Char} (htext : text = before ++ (chars ++ after))
    (hderives : s.pattern.Derives chars) : ∃ o : Occurrence text,
      o.start = before.length ∧ o.stop = before.length + chars.length := by
  have htoken : jwtPattern.Derives chars ∨ refreshTokenPattern.Derives chars →
      ∃ o : Occurrence text, o.start = before.length ∧
        o.stop = before.length + chars.length :=
    fun hshape => ⟨⟨before, [], [], chars, after, htext,
      .inl ⟨rfl, rfl, hshape⟩⟩, rfl, rfl⟩
  rcases mem_redactions.mp hs with rfl | rfl | rfl
  · exact htoken (.inl hderives)
  · exact htoken (.inr hderives)
  · obtain ⟨name, rest, rfl, hname, hrest⟩ :=
      Regex.derives_boundary_seq.mp hderives
    have hlabelled := Regex.derives_seq_empty.mp
      (Regex.derives_boundary_seq.mp hrest)
    obtain ⟨gap, value, rfl, hgap, hvalue⟩ := derives_labelledValue.mp hlabelled
    refine ⟨⟨before, name, gap, value, after, ?_, .inr ⟨hname, hgap, hvalue⟩⟩,
      rfl, ?_⟩
    · rw [htext, List.append_assoc, List.append_assoc]
    · simp [Occurrence.stop, Occurrence.valueStart, Occurrence.start,
        Nat.add_assoc]

theorem find_token_ne_none {s : Substitution} (hs : s ∈ redactions)
    {r : Regex} (hpattern : s.pattern = .seq .boundary r)
    (hboundless : r.Boundless = true) {value : List Char}
    (hvalue : s.pattern.Derives value) (tail : List Char) :
    s.find (isWord alphanumeric) false (value ++ tail) ≠ none := by
  have hlength := (redactions_shortest s hs).trans_le
    (Regex.shortest_le_of_derives hvalue)
  have hbegins := redactions_begin s hs
  cases value with
  | nil => exact absurd hlength (by decide)
  | cons c rest =>
      have hc := isWord_of_isAlphanum alphanumeric (hbegins c rest hvalue)
      rw [hpattern, Regex.derives_boundary_seq] at hvalue
      obtain ⟨finish, hfinish, _⟩ := @Regex.run_of_derives
        (isWord alphanumeric) r hboundless _ hvalue false tail []
      exact find_ne_none_of_run hpattern hc hfinish

/-- A label ends with a word character. -/
theorem wordAfter_label {name : List Char} (hname : label.Derives name) :
    Regex.wordAfter (isWord alphanumeric) false name = true := by
  obtain ⟨front, last, rfl⟩ : ∃ front last, name = front ++ [last] :=
    ⟨_, _, (List.dropLast_append_getLast (label_ne_nil hname)).symm⟩
  rw [Regex.wordAfter_append]
  exact isWord_of_isAlphanum alphanumeric (label_ends front last hname)

theorem find_labelled_ne_none {name gap value : List Char}
    (hname : label.Derives name) (hgap : separators.Derives gap)
    (hvalue : secret.Derives value)
    (hnext : ∀ c ∈ (gap ++ value).head?, isWord alphanumeric c = false)
    (tail : List Char) :
    Substitution.find (isWord alphanumeric)
      ⟨labelledPattern, id, " <redacted>".toList⟩ false
      (name ++ (gap ++ value) ++ tail) ≠ none := by
  have hne : gap ++ value ≠ [] := by
    have hlength : 12 ≤ value.length := hvalue.1
    apply List.append_ne_nil_of_right_ne_nil
    exact List.ne_nil_of_length_pos (Nat.zero_lt_of_lt hlength)
  obtain ⟨middle, hmiddle, hrest, hword⟩ := @Regex.run_of_derives
    (isWord alphanumeric) (.group label) (by decide) _ hname false
    (gap ++ value ++ tail) []
  have hboundary : Regex.boundary.run (isWord alphanumeric) middle =
      [middle] := by
    rw [Regex.run, hword, wordAfter_label hname, hrest,
      List.head?_append_of_ne_nil _ hne, if_neg]
    intro hsame
    obtain ⟨c, hc, hcWord⟩ := (Option.any_eq_true _ _).mp hsame.symm
    rw [hnext c hc] at hcWord
    cases hcWord
  have hrestDerives : (Regex.seq labelledValue .empty).Derives (gap ++ value) :=
    Regex.derives_seq_empty.mpr
      (derives_labelledValue.mpr ⟨gap, value, rfl, hgap, hvalue⟩)
  obtain ⟨finish, hfinish, _⟩ := @Regex.run_of_derives
    (isWord alphanumeric) (.seq labelledValue .empty) (by decide) _ hrestDerives
    middle.afterWord tail middle.captured
  rw [← hrest] at hfinish
  have hmatch : finish ∈ (Regex.seq (.group label) (.seq .boundary
      (.seq labelledValue .empty))).run (isWord alphanumeric)
        ⟨false, name ++ (gap ++ value) ++ tail, []⟩ := by
    rw [List.append_assoc name]
    refine List.mem_flatMap.mpr ⟨middle, hmiddle, List.mem_flatMap.mpr
      ⟨middle, ?_, hfinish⟩⟩
    rw [hboundary]
    exact List.mem_singleton_self middle
  cases name with
  | nil => exact absurd rfl (label_ne_nil hname)
  | cons c front =>
      have hc := isWord_of_isAlphanum alphanumeric (label_begins c front hname)
      exact find_ne_none_of_run rfl hc hmatch

/-- An occurrence is matched after anything but a word character, unless its
label runs into one. -/
theorem Occurrence.find_ne_none (o : Occurrence text)
    (hlabel : o.name ≠ [] → ∀ c ∈ (o.gap ++ o.value).head?,
      isWord alphanumeric c = false) (tail : List Char) :
    ∃ s ∈ redactions, s.find (isWord alphanumeric) false
      (o.name ++ (o.gap ++ o.value) ++ tail) ≠ none := by
  rcases o.shaped with ⟨hname, hgap, hjwt | hrefresh⟩ | ⟨hname, hgap, hvalue⟩
  · rw [hname, hgap]
    have hs := mem_redactions.mpr (.inl rfl)
    exact ⟨_, hs, find_token_ne_none hs rfl (by decide) hjwt tail⟩
  · rw [hname, hgap]
    have hs := mem_redactions.mpr (.inr (.inl rfl))
    exact ⟨_, hs, find_token_ne_none hs rfl (by decide) hrefresh tail⟩
  · have hs := mem_redactions.mpr (.inr (.inr rfl))
    exact ⟨_, hs, find_labelled_ne_none hname hgap hvalue
      (hlabel (label_ne_nil hname)) tail⟩

theorem Occurrence.name_length_le (o : Occurrence text) :
    o.name.length ≤ 13 := by
  rcases o.shaped with ⟨hname, _⟩ | ⟨hname, _⟩
  · rw [hname]
    exact Nat.zero_le 13
  · exact length_le_of_derives_label hname

theorem Occurrence.value_ne_nil (o : Occurrence text) : o.value ≠ [] := by
  have hlength : 0 < o.value.length := by
    rcases o.shaped with ⟨_, _, hjwt | hrefresh⟩ | ⟨_, _, hvalue⟩
    · have hshortest := Regex.shortest_le_of_derives hjwt
      exact Nat.lt_of_lt_of_le (by decide) hshortest
    · have hshortest := Regex.shortest_le_of_derives hrefresh
      exact Nat.lt_of_lt_of_le (by decide) hshortest
    · exact Nat.lt_of_lt_of_le (by decide) hvalue.1
  exact List.ne_nil_of_length_pos hlength

/-- No match begins with the label, or after it, and ends before the value. -/
theorem Occurrence.match_before_value (o : Occurrence text) {s : Substitution}
    (hs : s ∈ redactions) {before chars after : List Char}
    (htext : text = before ++ (chars ++ after))
    (hderives : s.pattern.Derives chars) (hstart : o.start ≤ before.length) :
    o.valueStart < before.length + chars.length := by
  by_contra hends
  have hlonger := (redactions_shortest s hs).trans_le
    (Regex.shortest_le_of_derives hderives)
  have hname := o.name_length_le
  obtain ⟨front, c, rfl⟩ : ∃ front c, chars = front ++ [c] :=
    ⟨_, _, (List.dropLast_append_getLast
      (List.ne_nil_of_length_pos (Nat.zero_lt_of_lt hlonger))).symm⟩
  have hvalue := redactions_end s hs front c hderives
  rw [List.length_append, List.length_singleton] at hlonger hends
  unfold valueStart at hends
  unfold start at hstart hends
  have hlast : text[before.length + front.length]? = some c := by
    rw [htext, List.getElem?_append_right (Nat.le_add_right _ _)]
    simp
  have hgap : o.gap[before.length + front.length - o.before.length -
      o.name.length]? = some c := by
    rw [o.text_eq, List.getElem?_append_right (by omega),
      List.getElem?_append_right (by omega),
      List.getElem?_append_left (by omega)] at hlast
    exact hlast
  have hmem := List.mem_of_getElem? hgap
  rcases o.shaped with ⟨_, hnone, _⟩ | ⟨_, hseparators, _⟩
  · rw [hnone] at hmem
    cases hmem
  · rw [isValueChar_of_mem_gap hseparators hmem] at hvalue
    cases hvalue

/-- A value is left only where its occurrence is exposed. -/
theorem Occurrence.Survives.exposed {o : Occurrence text}
    (hsurvives : o.Survives alphanumeric) : o.Exposed alphanumeric := by
  have htidy := redactions_tidy alphanumeric
  obtain ⟨part, hpart, hcovers⟩ := hsurvives
  have hwithin := within_of_kept htidy hpart
  by_contra hclear
  rw [Exposed, not_or, not_or] at hclear
  obtain ⟨hbefore, hnext, hother⟩ := hclear
  by_cases hstart : part.place ≤ o.start
  · have htext : text = o.before ++
        ((o.name ++ (o.gap ++ o.value)) ++ o.after) := by
      rw [List.append_assoc, List.append_assoc]
      exact o.text_eq
    rw [htext] at hwithin
    obtain ⟨front, back, hchars, outside, houtside⟩ := hwithin.split hstart (by
      have hstop := hcovers.2
      unfold stop valueStart start at hstop
      simp only [List.length_append]
      omega)
    have hfront : Regex.wordAfter (isWord alphanumeric) false front = false := by
      apply Regex.wordAfter_eq_false
      intro c hc
      by_contra hword
      rw [Bool.not_eq_false] at hword
      refine hbefore ⟨c, ?_, hword⟩
      rw [← houtside]
      exact List.mem_getLast?_append_of_mem_getLast? hc
    obtain ⟨s, hs, hfind⟩ := o.find_ne_none (fun hname c hc => by
      by_contra hword
      rw [Bool.not_eq_false] at hword
      exact hnext ⟨hname, c, hc, hword⟩) back
    have hquiet := quiet_of_kept htidy hpart s hs
    rw [hchars] at hquiet
    have hhere := hquiet.right
    rw [hfront] at hhere
    apply hfind (hhere.find_eq_none _)
    simp [o.value_ne_nil]
  · rcases place_of_kept htidy hpart with hzero | ⟨found, hfound, hstop⟩
    · rw [hzero] at hstart
      exact hstart (Nat.zero_le _)
    · obtain ⟨⟨before, after, htext, hplace⟩, s, hs, hderives⟩ :=
        derives_of_found htidy hfound
      obtain ⟨other, hotherStart, hotherStop⟩ :=
        exists_occurrence hs htext hderives
      have hvalue := hcovers.1
      unfold Part.stop at hstop
      dsimp only at hplace
      by_cases hearlier : other.start < o.start
      · exact hother ⟨other, hearlier, by omega, by omega⟩
      · have hpast := o.match_before_value hs htext hderives (by omega)
        omega

/-- A value is left exactly where no match replaces anything of it. -/
theorem Occurrence.survives_iff_not_hidden (o : Occurrence text) :
    o.Survives alphanumeric ↔ ¬ o.Hidden alphanumeric := by
  have hcovers : Part.Covers ⟨0, text⟩ o.valueStart o.stop := by
    refine ⟨Nat.zero_le _, ?_⟩
    have hlength := congrArg List.length o.text_eq
    simp only [List.length_append] at hlength
    unfold Part.stop stop valueStart start
    dsimp only
    omega
  rw [Survives, Hidden, redactedPieces,
    kept_iff (redactions_tidy alphanumeric) hcovers]
  simp only [replacedMatches, not_exists, not_and]

/-- The parts and marks are the redacted text. -/
theorem redact_pieces (text : String) :
    redact alphanumeric text = String.ofList
      ((redactedPieces alphanumeric text.toList).flatMap Piece.chars) :=
  congrArg String.ofList
    (piecesAll_chars (redactions_leave alphanumeric) ⟨0, text.toList⟩).symm

theorem redact_idempotent (text : String) :
    redact alphanumeric (redact alphanumeric text) =
      redact alphanumeric text := by
  rw [redact, redact, String.toList_ofList, applyAll_idempotent
    (redactions_tidy alphanumeric) (redactions_keepQuiet alphanumeric)]

/-- Where the exposed occurrences are guarded, redaction leaves no value behind.
What it leaves is always the pieces, and doing it again changes nothing. -/
theorem redact_leaves_none_of_guarded (text : String) :
    redact alphanumeric text = String.ofList
        ((redactedPieces alphanumeric text.toList).flatMap Piece.chars) ∧
      redact alphanumeric (redact alphanumeric text) =
        redact alphanumeric text ∧
      (Guarded alphanumeric text.toList →
        ∀ o : Occurrence text.toList, ¬o.Survives alphanumeric) := by
  refine ⟨redact_pieces text, redact_idempotent text, ?_⟩
  intro hguarded o hsurvives
  obtain ⟨other, hclear, hstart, hstop⟩ := hguarded o hsurvives.exposed
  obtain ⟨part, hpart, hcovers⟩ := hsurvives
  exact hclear (Occurrence.Survives.exposed
    ⟨part, hpart, hcovers.1.trans hstart, hstop.trans hcovers.2⟩)

/-- A refresh token with nothing around it is at the beginning of the text. -/
theorem before_of_refreshToken (o : Occurrence "qts-1234567890".toList) :
    o.before = [] ∧ o.name = [] := by
  have hmem : ∀ c, c ∈ o.before ++ (o.name ++ (o.gap ++ (o.value ++ o.after))) →
      c ∈ "qts-1234567890".toList := fun c hc => o.text_eq.symm ▸ hc
  rcases o.shaped with ⟨hname, hgap, hjwt | hrefresh⟩ | ⟨hlabel, -⟩
  · obtain ⟨_, _, hvalue, _, _, _, rfl, ⟨_, _, rfl, hliteral, _⟩, _⟩ := hjwt
    obtain ⟨c, hc, hsame⟩ :=
      exists_of_derives_literal hliteral (by decide : 'J' ∈ "eyJ".toList)
    obtain rfl := eq_of_beq hsame
    exact absurd (hmem 'J' (by simp [hvalue, hc])) (by decide)
  · refine ⟨?_, hname⟩
    obtain ⟨_, _, hvalue, _, _, _, rfl, ⟨_, _, rfl, hliteral, _⟩, _⟩ := hrefresh
    obtain ⟨c, hc, hsame⟩ :=
      exists_of_derives_literal hliteral (by decide : 'q' ∈ "qts-".toList)
    obtain rfl := eq_of_beq hsame
    have hfront : "qts-1234567890".toList = 'q' :: "ts-1234567890".toList := by
      decide
    have htext := hfront.symm.trans o.text_eq
    cases hbefore : o.before with
    | nil => rfl
    | cons first rest =>
        rw [hbefore, List.cons_append] at htext
        have hq : 'q' ∈ "ts-1234567890".toList := by
          rw [(List.cons.inj htext).2]
          simp [hvalue, hc]
        exact absurd hq (by decide)
  · obtain ⟨c, hc, hsame⟩ := exists_of_derives_label hlabel
    have hnone : ("qts-1234567890".toList.all fun c =>
        !(sameLetter 'k' c || sameLetter 'b' c)) = true := by decide +kernel
    have hother := List.all_eq_true.mp hnone c (hmem c (by simp [hc]))
    rw [Bool.not_eq_true', Bool.or_eq_false_iff] at hother
    rcases hsame with hsame | hsame
    · rw [hother.1] at hsame
      cases hsame
    · rw [hother.2] at hsame
      cases hsame

theorem guarded_refreshToken :
    Guarded alphanumeric "qts-1234567890".toList := by
  rintro o (⟨c, hc, -⟩ | ⟨hname, -⟩ | ⟨other, hstart, -⟩)
  · rw [(before_of_refreshToken o).1] at hc
    cases hc
  · exact absurd (before_of_refreshToken o).2 hname
  · rw [Occurrence.start, Occurrence.start, (before_of_refreshToken o).1]
      at hstart
    cases hstart

theorem redact_leaves_none_refreshToken :
    ∀ o : Occurrence "qts-1234567890".toList, ¬o.Survives fun _ => false :=
  (redact_leaves_none_of_guarded "qts-1234567890").2.2 guarded_refreshToken

/-- An exposed value that no other guards may be replaced all the same, as part
of a greater one: which matches are found decides. -/
example : redact (fun _ => false) "access_token=a_qts-1234567890" =
    "access_token <redacted>" := by
  decide +kernel

end Gaps

/-- A label that directly follows another one is taken for its value. -/
def labelAfterLabel : Occurrence
    "access_token refresh_token=SECRETSECRET12".toList where
  before := "access_token ".toList
  name := "refresh_token".toList
  gap := "=".toList
  value := "SECRETSECRET12".toList
  after := []
  text_eq := by decide
  shaped := by
    have hderives : ∀ {r : Regex} {text : List Char},
        r.Accepts (isWord fun _ => false) text → r.Derives text :=
      Regex.derives_of_accepts
    exact .inr ⟨hderives (by decide +kernel), hderives (by decide +kernel),
      hderives (by decide +kernel)⟩

theorem redact_leaves_labelAfterLabel :
    labelAfterLabel.Survives (fun _ => false) ∧
      redact (fun _ => false) "access_token refresh_token=SECRETSECRET12" =
        "access_token <redacted>=SECRETSECRET12" := by
  refine ⟨⟨⟨26, "=SECRETSECRET12".toList⟩, ?_, ?_⟩, ?_⟩
  · decide +kernel
  · exact ⟨by decide, by decide⟩
  · decide +kernel

end TeslamateWatchdog
