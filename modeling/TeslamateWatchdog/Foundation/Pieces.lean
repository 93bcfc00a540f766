/-
Where the parts of a text stand that several substitutions, one after the
other, leave of it, and where the matches stand that take the rest.
-/
import TeslamateWatchdog.Foundation.RegexEnds
import TeslamateWatchdog.Foundation.Substitution

namespace Foundation

/-- A part of a text, with the number of characters before it. -/
structure Part where
  place : Nat
  chars : List Char
deriving Repr, DecidableEq

/-- A match, with the number of characters that are kept of it. -/
structure Found where
  part : Part
  kept : Nat
deriving Repr, DecidableEq

/-- The result of substitutions is made of parts of the text and of marks. -/
inductive Piece where
  | kept (part : Part)
  | mark (chars : List Char)
deriving Repr, DecidableEq

namespace Part

/-- Where the part ends. -/
def stop (part : Part) : Nat :=
  part.place + part.chars.length

def Within (inner outer : Part) : Prop :=
  ∃ before after, outer.chars = before ++ (inner.chars ++ after) ∧
    inner.place = outer.place + before.length

theorem within_refl (part : Part) : part.Within part :=
  ⟨[], [], (List.append_nil _).symm, rfl⟩

theorem Within.trans {inner middle outer : Part} (hinner : inner.Within middle)
    (hmiddle : middle.Within outer) : inner.Within outer := by
  obtain ⟨front, back, hchars, hplace⟩ := hinner
  obtain ⟨before, after, houter, hmiddlePlace⟩ := hmiddle
  refine ⟨before ++ front, back ++ after, ?_, ?_⟩
  · rw [houter, hchars]
    simp only [List.append_assoc]
  · rw [hplace, hmiddlePlace, List.length_append, Nat.add_assoc]

theorem Within.bounds {inner outer : Part} (hwithin : inner.Within outer) :
    outer.place ≤ inner.place ∧ inner.stop ≤ outer.stop := by
  obtain ⟨before, after, hchars, hplace⟩ := hwithin
  have hlength := congrArg List.length hchars
  rw [List.length_append, List.length_append] at hlength
  unfold stop
  omega

/-- What a part holds as a whole stands inside its characters. -/
theorem Within.split {inner : Part} {before middle after : List Char}
    (hwithin : inner.Within ⟨0, before ++ (middle ++ after)⟩)
    (hstart : inner.place ≤ before.length)
    (hstop : before.length + middle.length ≤ inner.stop) :
    ∃ front back, inner.chars = front ++ (middle ++ back) ∧
      front <:+ before := by
  obtain ⟨outside, behind, hchars, hplace⟩ := hwithin
  have htext : before ++ (middle ++ after) =
      outside ++ (inner.chars ++ behind) := hchars
  rw [Nat.zero_add] at hplace
  obtain ⟨front, rfl⟩ : outside <+: before :=
    List.prefix_of_prefix_length_le ⟨_, htext.symm⟩ ⟨_, rfl⟩
      (hplace ▸ hstart)
  rw [List.append_assoc] at htext
  have hrest := List.append_cancel_left htext
  obtain ⟨back, hback⟩ : front ++ middle <+: inner.chars := by
    refine List.prefix_of_prefix_length_le ⟨after, ?_⟩ ⟨behind, rfl⟩ ?_
    · rw [← hrest, List.append_assoc]
    · unfold stop at hstop
      rw [List.length_append] at hstop ⊢
      omega
  exact ⟨front, back, by rw [← hback, List.append_assoc],
    List.suffix_append _ _⟩

/-- The part holds everything between two places. -/
def Covers (part : Part) (start finish : Nat) : Prop :=
  part.place ≤ start ∧ finish ≤ part.stop

end Part

/-- The match hides something between two places. -/
def Found.Hides (found : Found) (start finish : Nat) : Prop :=
  found.part.place + found.kept < finish ∧ start < found.part.stop

def Piece.chars : Piece → List Char
  | kept part => part.chars
  | mark chars => chars

namespace Substitution

/-- No match starts anywhere in the text. -/
def Quiet (word : Char → Bool) (s : Substitution) : Bool → List Char → Prop
  | _, [] => True
  | afterWord, c :: rest =>
      s.find word afterWord (c :: rest) = none ∧ Quiet word s (word c) rest

instance decidableQuiet (word : Char → Bool) (s : Substitution) :
    (afterWord : Bool) → (text : List Char) →
      Decidable (s.Quiet word afterWord text)
  | _, [] => .isTrue trivial
  | _, c :: rest =>
      have := decidableQuiet word s (word c) rest
      inferInstanceAs (Decidable (_ ∧ _))

/-- What the substitutions have in common.  A match is longer than what is kept
of its front; it begins with a character of one kind, and goes on as long as
characters of the kind follow. -/
structure Tidy (word p : Char → Bool) (bound : Nat) (s : Substitution) :
    Prop where
  settled : s.pattern.Settled = true
  keepsFront : s.KeepsFront word bound
  longer : bound < s.pattern.shortest
  begins : ∀ c rest, s.pattern.Derives (c :: rest) → p c = true
  spent : s.pattern.Spent word p

section Quiet

variable {word p : Char → Bool} {bound : Nat} {s : Substitution}

theorem quiet_cons {afterWord : Bool} {c : Char} {rest : List Char} :
    s.Quiet word afterWord (c :: rest) ↔
      s.find word afterWord (c :: rest) = none ∧ s.Quiet word (word c) rest :=
  Iff.rfl

theorem Quiet.congr {other : Char → Bool} {afterWord : Bool}
    {text : List Char} (hquiet : s.Quiet other afterWord text)
    (hsame : ∀ c ∈ text, word c = other c) : s.Quiet word afterWord text := by
  induction text generalizing afterWord with
  | nil => trivial
  | cons c rest ih =>
      obtain ⟨hnone, hrest⟩ := hquiet
      rw [quiet_cons, find_congr hsame, hsame c List.mem_cons_self]
      exact ⟨hnone, ih hrest (List.forall_mem_cons.mp hsame).2⟩

theorem Quiet.find_eq_none {afterWord : Bool} {text : List Char}
    (hquiet : s.Quiet word afterWord text) (hnonempty : text ≠ []) :
    s.find word afterWord text = none := by
  cases text with
  | nil => exact absurd rfl hnonempty
  | cons c rest => exact hquiet.1

theorem find_eq_none_of_short {afterWord : Bool} {text : List Char}
    (hshort : text.length < s.pattern.shortest) :
    s.find word afterWord text = none := by
  rw [find, List.head?_eq_none_iff, List.eq_nil_iff_forall_not_mem]
  intro finish hfinish
  obtain ⟨taken, htaken, hderives⟩ := Regex.run_derives hfinish
  have hlength := Regex.shortest_le_of_derives hderives
  have htext := congrArg List.length htaken
  rw [List.length_append] at htext
  dsimp only at htext
  omega

/-- No match starts with a character of another kind. -/
theorem Tidy.find_eq_none (htidy : s.Tidy word p bound) {afterWord : Bool}
    {c : Char} {rest : List Char} (hc : p c = false) :
    s.find word afterWord (c :: rest) = none := by
  rw [find, List.head?_eq_none_iff, List.eq_nil_iff_forall_not_mem]
  intro finish hfinish
  obtain ⟨taken, htaken, hderives⟩ := Regex.run_derives hfinish
  have hlength := Regex.shortest_le_of_derives hderives
  have hlonger := htidy.longer
  cases taken with
  | nil =>
      rw [List.length_nil] at hlength
      omega
  | cons d taken =>
      obtain ⟨rfl, _⟩ := List.cons.inj htaken
      have hbegins := htidy.begins c taken hderives
      rw [hc] at hbegins
      cases hbegins

/-- A pattern that begins with a boundary matches before a word character. -/
theorem find_ne_none_of_run {r : Regex} (hpattern : s.pattern = .seq .boundary r)
    {c : Char} {rest : List Char} (hc : word c = true) {finish : Cursor}
    (hfinish : finish ∈ r.run word ⟨false, c :: rest, []⟩) :
    s.find word false (c :: rest) ≠ none := by
  have hboundary : Regex.boundary.run word ⟨false, c :: rest, []⟩ =
      [⟨false, c :: rest, []⟩] := by
    rw [Regex.run, if_neg]
    simp [hc]
  rw [find, hpattern, Regex.run, hboundary, List.flatMap_singleton]
  intro hnone
  rw [List.head?_eq_none_iff.mp hnone] at hfinish
  cases hfinish

theorem quiet_of_short {afterWord : Bool} {text : List Char}
    (hshort : text.length < s.pattern.shortest) :
    s.Quiet word afterWord text := by
  induction text generalizing afterWord with
  | nil => trivial
  | cons c rest ih =>
      rw [List.length_cons] at hshort
      exact ⟨find_eq_none_of_short hshort, ih (Nat.lt_of_succ_lt hshort)⟩

theorem find_eq_none_of_append (hsettled : s.pattern.Settled = true)
    {afterWord : Bool} {front back : List Char}
    (hnone : s.find word afterWord (front ++ back) = none) :
    s.find word afterWord front = none := by
  rw [find, List.head?_eq_none_iff, List.eq_nil_iff_forall_not_mem]
  intro finish hfinish
  have hlonger := Regex.run_append hfinish (.inr hsettled) back
  rw [find, List.head?_eq_none_iff] at hnone
  rw [Cursor.append, hnone] at hlonger
  cases hlonger

theorem Quiet.left (hsettled : s.pattern.Settled = true) {afterWord : Bool}
    {front back : List Char}
    (hquiet : s.Quiet word afterWord (front ++ back)) :
    s.Quiet word afterWord front := by
  induction front generalizing afterWord with
  | nil => trivial
  | cons c front ih =>
      obtain ⟨hnone, hrest⟩ := hquiet
      exact ⟨find_eq_none_of_append hsettled hnone, ih hrest⟩

theorem Quiet.right {afterWord : Bool} {front back : List Char}
    (hquiet : s.Quiet word afterWord (front ++ back)) :
    s.Quiet word (Regex.wordAfter word afterWord front) back := by
  induction front generalizing afterWord with
  | nil => exact hquiet
  | cons c front ih => exact ih hquiet.2

/-- A text that no match starts with is as quiet after anything else. -/
theorem Quiet.fresh (htidy : s.Tidy word p bound) {afterWord other : Bool}
    {text : List Char} (hquiet : s.Quiet word afterWord text)
    (hhead : ∀ c ∈ text.head?, p c = false) : s.Quiet word other text := by
  cases text with
  | nil => trivial
  | cons c rest =>
      exact ⟨htidy.find_eq_none (hhead c rfl), hquiet.2⟩

/-- A text stays quiet before a character that no match ends with. -/
theorem Quiet.concat {last : Char} (hsettled : s.pattern.Settled = true)
    (hlonger : 1 < s.pattern.shortest)
    (hends : ∀ taken, ¬ s.pattern.Derives (taken ++ [last]))
    {afterWord : Bool} {text : List Char}
    (hquiet : s.Quiet word afterWord text) :
    s.Quiet word afterWord (text ++ [last]) := by
  induction text generalizing afterWord with
  | nil => exact quiet_of_short hlonger
  | cons c rest ih =>
      obtain ⟨hnone, hrest⟩ := hquiet
      refine ⟨?_, ih hrest⟩
      rw [find, List.head?_eq_none_iff, List.eq_nil_iff_forall_not_mem]
      intro finish hfinish
      obtain ⟨taken, htaken, hderives⟩ := Regex.run_derives hfinish
      rcases List.eq_nil_or_concat finish.rest with hempty | ⟨left, d, hleft⟩
      · rw [hempty, List.append_nil] at htaken
        apply hends (c :: rest)
        rw [show c :: rest ++ [last] = taken from htaken]
        exact hderives
      · rw [List.concat_eq_append] at hleft
        have hlast : [last] = [d] := by
          rw [hleft, ← List.append_assoc] at htaken
          have htext : c :: rest ++ [last] = taken ++ left ++ [d] := htaken
          exact List.append_inj_right' htext rfl
        obtain rfl := List.singleton_inj.mp hlast
        obtain ⟨shorter, hshorter, _⟩ := @Regex.run_of_append word s.pattern
          ⟨afterWord, c :: rest, []⟩ finish [last] left hfinish hleft
          (.inr hsettled)
        rw [find, List.head?_eq_none_iff] at hnone
        rw [hnone] at hshorter
        cases hshorter

/-- On both sides of a character that no match goes over. -/
theorem quiet_append_cons {fence : Char} (hfence : word fence = false)
    (havoids : s.pattern.Avoids fence) (hshortest : 0 < s.pattern.shortest)
    {afterWord : Bool} {front back : List Char} :
    s.Quiet word afterWord (front ++ fence :: back) ↔
      s.Quiet word afterWord front ∧ s.Quiet word false back := by
  have hfind : ∀ (afterWord : Bool) (text : List Char),
      s.find word afterWord (text ++ fence :: back) = none ↔
        s.find word afterWord text = none := by
    intro afterWord text
    have hrun := Regex.run_stop hfence havoids ⟨afterWord, text, []⟩ back
    rw [find, find, List.head?_eq_none_iff, List.head?_eq_none_iff]
    exact ((congrArg (· = []) hrun).to_iff).trans List.map_eq_nil_iff
  induction front generalizing afterWord with
  | nil =>
      have hnothing : s.find word afterWord ([] ++ fence :: back) = none :=
        (hfind afterWord []).mpr (find_eq_none_of_short hshortest)
      rw [List.nil_append, quiet_cons, hfence]
      exact and_congr_left fun _ => iff_of_true hnothing trivial
  | cons c front ih =>
      have hrest : s.Quiet word (word c) (front ++ fence :: back) ↔
          s.Quiet word (word c) front ∧ s.Quiet word false back := ih
      rw [List.cons_append, quiet_cons, quiet_cons, hrest, ← List.cons_append,
        hfind, and_assoc]

theorem Quiet.sub_eq {text : List Char} (hquiet : s.Quiet word false text) :
    s.sub word text = text := by
  have hcopied : ∀ afterWord, s.Quiet word afterWord text →
      s.subFrom word 0 afterWord text = text := by
    clear hquiet
    induction text with
    | nil => exact fun _ _ => by rw [subFrom]
    | cons c rest ih =>
        intro afterWord hquiet
        rw [subFrom, hquiet.1]
        exact congrArg (c :: ·) (ih (word c) hquiet.2)
  exact hcopied false hquiet

end Quiet

/-- The first stretch, and each match that is found with the stretch after it;
`skip` characters of the last match are still ahead. -/
def cutFrom (word : Char → Bool) (s : Substitution) :
    Nat → Bool → Nat → List Char → Part × List (Found × Part)
  | _, _, place, [] => (⟨place, []⟩, [])
  | skip + 1, _, place, c :: rest =>
      cutFrom word s skip (word c) (place + 1) rest
  | 0, afterWord, place, c :: rest =>
      match s.find word afterWord (c :: rest) with
      | none =>
          let later := cutFrom word s 0 (word c) (place + 1) rest
          (⟨place, c :: later.1.chars⟩, later.2)
      | some finish =>
          let left := rest.length - finish.rest.length
          let later := cutFrom word s left (word c) (place + 1) rest
          (⟨place, s.kept finish.captured⟩,
            (⟨⟨place, c :: rest.take left⟩, (s.kept finish.captured).length⟩,
              later.1) :: later.2)

def cut (word : Char → Bool) (s : Substitution) (part : Part) :
    Part × List (Found × Part) :=
  s.cutFrom word 0 false part.place part.chars

/-- How a text is cut: it has no match, or one after a quiet front, of which
some is kept and some hidden. -/
inductive Cuts (word p : Char → Bool) (bound : Nat) (s : Substitution) :
    Bool → Nat → List Char → Part → List (Found × Part) → Prop
  | whole {afterWord : Bool} {place : Nat} {text : List Char}
      (hquiet : s.Quiet word afterWord text) :
      Cuts word p bound s afterWord place text ⟨place, text⟩ []
  | found {afterWord later : Bool} {place : Nat}
      {front kept hidden back : List Char} {next : Part}
      {others : List (Found × Part)}
      (hquiet : s.Quiet word afterWord (front ++ kept))
      (hderives : s.pattern.Derives (kept ++ hidden))
      (hhidden : hidden ≠ [])
      (hspent : ∀ c ∈ back.head?, p c = false)
      (hlater : Cuts word p bound s later
        (place + front.length + (kept ++ hidden).length) back next others) :
      Cuts word p bound s afterWord place
        (front ++ (kept ++ (hidden ++ back))) ⟨place, front ++ kept⟩
        ((⟨⟨place + front.length, kept ++ hidden⟩, kept.length⟩, next) ::
          others)

section Cuts

variable {word p : Char → Bool} {bound : Nat} {s : Substitution}

/-- What is found is a text of the expression, of which some is hidden; the
match before it goes on as long as it can. -/
theorem Tidy.find_some (htidy : s.Tidy word p bound) {afterWord : Bool}
    {c : Char} {rest : List Char} {finish : Cursor}
    (hfind : s.find word afterWord (c :: rest) = some finish) :
    ∃ hidden, c :: rest.take (rest.length - finish.rest.length) =
        s.kept finish.captured ++ hidden ∧ hidden ≠ [] ∧
      rest.drop (rest.length - finish.rest.length) = finish.rest ∧
      (s.kept finish.captured).length ≤ bound ∧
      s.pattern.Derives (s.kept finish.captured ++ hidden) ∧
      ∀ d ∈ finish.rest.head?, p d = false := by
  obtain ⟨hkept, hshort⟩ := htidy.keepsFront _ _ _ hfind
  obtain ⟨taken, htaken, hderives⟩ :=
    Regex.run_derives (List.mem_of_head? hfind)
  have hlonger := htidy.longer.trans_le (Regex.shortest_le_of_derives hderives)
  cases taken with
  | nil => exact absurd hlonger (Nat.not_lt_zero _)
  | cons d taken =>
      have htext : c :: rest = d :: (taken ++ finish.rest) := htaken
      obtain ⟨rfl, rfl⟩ := List.cons.inj htext
      rw [List.length_append, Nat.add_sub_cancel_right, List.take_left,
        List.drop_left]
      have hfront : s.kept finish.captured <+: c :: taken :=
        List.prefix_of_prefix_length_le hkept
          ⟨finish.rest, rfl⟩ (hshort.trans hlonger.le)
      obtain ⟨hidden, hhidden⟩ := hfront
      refine ⟨hidden, hhidden.symm, ?_, rfl, hshort, hhidden ▸ hderives,
        htidy.spent _ _ hfind⟩
      rintro rfl
      rw [List.append_nil] at hhidden
      rw [hhidden] at hshort
      omega

theorem Cuts.cons (htidy : s.Tidy word p bound) {afterWord : Bool}
    {place : Nat} {c : Char} {rest : List Char} {first : Part}
    {others : List (Found × Part)}
    (hcuts : Cuts word p bound s (word c) (place + 1) rest first others)
    (hnone : s.find word afterWord (c :: rest) = none) :
    Cuts word p bound s afterWord place (c :: rest)
      ⟨place, c :: first.chars⟩ others := by
  cases hcuts with
  | whole hquiet => exact .whole ⟨hnone, hquiet⟩
  | @found _ later _ front kept hidden back next others hquiet hderives hhidden
      hspent hlater =>
      have hplace : place + 1 + front.length = place + (c :: front).length := by
        rw [List.length_cons]
        omega
      rw [hplace] at hlater ⊢
      have hfront : s.find word afterWord (c :: (front ++ kept)) = none := by
        apply find_eq_none_of_append htidy.settled
        rw [List.cons_append, List.append_assoc]
        exact hnone
      exact @Cuts.found word p bound s afterWord later place (c :: front) kept
        hidden back next others ⟨hfront, hquiet⟩ hderives hhidden hspent hlater

/-- The text is cut as the relation tells. -/
theorem cuts_cutFrom (htidy : s.Tidy word p bound) {text : List Char}
    {skip : Nat} {afterWord : Bool} {place : Nat} (hskip : skip ≤ text.length) :
    Cuts word p bound s (Regex.wordAfter word afterWord (text.take skip))
      (place + skip) (text.drop skip)
      (s.cutFrom word skip afterWord place text).1
      (s.cutFrom word skip afterWord place text).2 := by
  induction text generalizing skip afterWord place with
  | nil =>
      obtain rfl := Nat.le_zero.mp hskip
      rw [cutFrom]
      exact .whole trivial
  | cons c rest ih =>
      rw [List.length_cons] at hskip
      cases skip with
      | succ skip =>
          rw [cutFrom, show place + (skip + 1) = place + 1 + skip by omega]
          exact ih (Nat.le_of_succ_le_succ hskip)
      | zero =>
          rw [cutFrom]
          cases hfind : s.find word afterWord (c :: rest) with
          | none =>
              exact Cuts.cons htidy (@ih 0 (word c) (place + 1)
                (Nat.zero_le _)) hfind
          | some finish =>
              obtain ⟨hidden, htaken, hhidden, hrest, hshort, hderives,
                hspent⟩ := htidy.find_some hfind
              have hlater := @ih (rest.length - finish.rest.length) (word c)
                (place + 1) (Nat.sub_le _ _)
              have hleft : (rest.take (rest.length -
                  finish.rest.length)).length =
                    rest.length - finish.rest.length := by
                rw [List.length_take, Nat.min_eq_left (Nat.sub_le _ _)]
              have hlength := congrArg List.length htaken
              rw [List.length_cons, hleft] at hlength
              rw [hrest, show place + 1 + (rest.length - finish.rest.length) =
                place + ([] : List Char).length +
                  (s.kept finish.captured ++ hidden).length by
                    rw [← hlength, List.length_nil]; omega] at hlater
              have htext : c :: rest = [] ++ (s.kept finish.captured ++
                  (hidden ++ finish.rest)) := by
                have hsplit := List.take_append_drop
                  (rest.length - finish.rest.length) rest
                rw [hrest] at hsplit
                rw [List.nil_append, ← List.append_assoc, ← htaken,
                  List.cons_append, hsplit]
              dsimp only
              rw [htaken, List.drop_zero, htext]
              refine .found (quiet_of_short ?_) hderives hhidden hspent hlater
              exact hshort.trans_lt htidy.longer

theorem Cuts.place_eq {afterWord : Bool} {place : Nat} {text : List Char}
    {first : Part} {others : List (Found × Part)}
    (hcuts : Cuts word p bound s afterWord place text first others) :
    first.place = place := by
  cases hcuts <;> rfl

theorem Cuts.first_within {afterWord : Bool} {place : Nat} {text : List Char}
    {first : Part} {others : List (Found × Part)}
    (hcuts : Cuts word p bound s afterWord place text first others) :
    ∃ after, text = first.chars ++ after := by
  cases hcuts with
  | whole hquiet => exact ⟨[], (List.append_nil _).symm⟩
  | @found _ _ _ front kept hidden back =>
      exact ⟨hidden ++ back, (List.append_assoc front kept _).symm⟩

theorem Cuts.quiet_first {afterWord : Bool} {place : Nat} {text : List Char}
    {first : Part} {others : List (Found × Part)}
    (hcuts : Cuts word p bound s afterWord place text first others) :
    s.Quiet word afterWord first.chars := by
  cases hcuts with
  | whole hquiet => exact hquiet
  | found hquiet => exact hquiet

/-- What starts a stretch after a match starts no match. -/
theorem Cuts.quiet_others (htidy : s.Tidy word p bound) {afterWord : Bool}
    {place : Nat} {text : List Char} {first : Part}
    {others : List (Found × Part)}
    (hcuts : Cuts word p bound s afterWord place text first others) :
    ∀ next ∈ others, s.Quiet word false next.2.chars ∧
      ∀ c ∈ next.2.chars.head?, p c = false := by
  induction hcuts with
  | whole hquiet => exact fun next hnext => by cases hnext
  | @found _ _ _ _ _ _ back next others _ _ _ hspent hlater ih =>
      rw [List.forall_mem_cons]
      refine ⟨?_, ih⟩
      have hhead : ∀ c ∈ next.chars.head?, p c = false := by
        obtain ⟨after, hback⟩ := hlater.first_within
        intro c hc
        apply hspent c
        rw [hback]
        exact List.mem_head?_append_of_mem_head? hc
      exact ⟨hlater.quiet_first.fresh htidy hhead, hhead⟩

theorem Cuts.others_within {afterWord : Bool} {place : Nat} {text : List Char}
    {first : Part} {others : List (Found × Part)}
    (hcuts : Cuts word p bound s afterWord place text first others) :
    ∀ next ∈ others, next.1.part.Within ⟨place, text⟩ ∧
      next.2.Within ⟨place, text⟩ := by
  induction hcuts with
  | whole hquiet => exact fun next hnext => by cases hnext
  | @found _ _ place front kept hidden back next others _ _ _ _ hlater ih =>
      have hback : Part.Within
          ⟨place + front.length + (kept ++ hidden).length, back⟩
          ⟨place, front ++ (kept ++ (hidden ++ back))⟩ := by
        refine ⟨front ++ (kept ++ hidden), [], by simp, ?_⟩
        simp only [List.length_append]
        omega
      rw [List.forall_mem_cons]
      refine ⟨⟨⟨front, back, by simp, rfl⟩, ?_⟩, fun other hother => ?_⟩
      · obtain ⟨after, hafter⟩ := hlater.first_within
        exact Part.Within.trans ⟨[], after, hafter, hlater.place_eq⟩ hback
      · exact ⟨(ih other hother).1.trans hback, (ih other hother).2.trans hback⟩

theorem Cuts.found_derives {afterWord : Bool} {place : Nat} {text : List Char}
    {first : Part} {others : List (Found × Part)}
    (hcuts : Cuts word p bound s afterWord place text first others) :
    ∀ next ∈ others, s.pattern.Derives next.1.part.chars ∧
      next.1.part.stop = next.2.place := by
  induction hcuts with
  | whole hquiet => exact fun next hnext => by cases hnext
  | found _ hderives _ _ hlater ih =>
      rw [List.forall_mem_cons]
      exact ⟨⟨hderives, hlater.place_eq.symm⟩, ih⟩

/-- Stretches and what is hidden take turns, from the end of a stretch on. -/
def Chain : Nat → List (Found × Part) → Nat → Prop
  | reached, [], finish => reached = finish
  | reached, next :: rest, finish =>
      next.1.part.place + next.1.kept = reached ∧
        reached < next.1.part.stop ∧ next.1.part.stop = next.2.place ∧
        Chain next.2.stop rest finish

theorem Cuts.chain {afterWord : Bool} {place : Nat} {text : List Char}
    {first : Part} {others : List (Found × Part)}
    (hcuts : Cuts word p bound s afterWord place text first others) :
    Chain first.stop others (place + text.length) := by
  induction hcuts with
  | whole hquiet => rfl
  | @found _ _ place front kept hidden back next others _ _ hhidden _ hlater
      ih =>
      have hlength : 0 < hidden.length := List.length_pos_of_ne_nil hhidden
      refine ⟨?_, ?_, hlater.place_eq.symm, ?_⟩
      · simp only [Part.stop, List.length_append]
        omega
      · simp only [Part.stop, List.length_append]
        omega
      · convert ih using 1
        simp only [List.length_append]
        omega

theorem Chain.le {reached finish : Nat} {others : List (Found × Part)}
    (hchain : Chain reached others finish) :
    ∀ next ∈ others, reached ≤ next.1.part.place + next.1.kept ∧
      reached < next.2.place := by
  induction others generalizing reached with
  | nil => exact fun next hnext => by cases hnext
  | cons head rest ih =>
      obtain ⟨hkept, hhidden, hstop, hrest⟩ := hchain
      rw [List.forall_mem_cons]
      refine ⟨⟨hkept.ge, by omega⟩, fun next hnext => ?_⟩
      obtain ⟨hlater, hplace⟩ := ih hrest next hnext
      unfold Part.stop at hlater hplace
      omega

/-- A stretch holds what lies between two places exactly when no match hides
any of it. -/
theorem Chain.stretch_covers_iff {first : Part} {others : List (Found × Part)}
    {start finish last : Nat} (hchain : Chain first.stop others last)
    (hstart : first.place ≤ start) (hlast : finish ≤ last) :
    (∃ part ∈ first :: others.map Prod.snd, part.Covers start finish) ↔
      ∀ next ∈ others, ¬ next.1.Hides start finish := by
  induction others generalizing first with
  | nil =>
      have hstop : first.stop = last := hchain
      refine iff_of_true ⟨first, List.mem_cons_self, hstart, ?_⟩
        (fun next hnext => by cases hnext)
      omega
  | cons head rest ih =>
      have hlater := hchain.le
      obtain ⟨hkept, hhidden, hstop, hrest⟩ := hchain
      have hnext := @ih head.2 hrest
      rw [List.forall_mem_cons]
      constructor
      · rintro ⟨part, hpart, hcovers⟩
        rcases List.mem_cons.mp hpart with rfl | hpart
        · refine ⟨fun hhides => ?_, fun next hmem hhides => ?_⟩
          · have hbefore := hhides.1
            have hafter := hcovers.2
            omega
          · have hreached :=
              (hlater next (List.mem_cons_of_mem _ hmem)).1
            have hbefore := hhides.1
            have hafter := hcovers.2
            omega
        · have hplace : head.2.place ≤ part.place := by
            rcases List.mem_cons.mp hpart with rfl | hpart
            · exact Nat.le_refl _
            · obtain ⟨next, hmem, rfl⟩ := List.mem_map.mp hpart
              have hafter := (hrest.le next hmem).2
              unfold Part.stop at hafter
              omega
          have hcovered := (hnext (hplace.trans hcovers.1)).mp
            ⟨part, hpart, hcovers⟩
          refine ⟨fun hhides => ?_, hcovered⟩
          have hbefore := hhides.2
          have hafter := hcovers.1
          omega
      · rintro ⟨hclear, hothers⟩
        by_cases hbefore : finish ≤ first.stop
        · exact ⟨first, List.mem_cons_self, hstart, hbefore⟩
        · have hpast : head.1.part.stop ≤ start := by
            by_contra hinside
            exact hclear ⟨by omega, by omega⟩
          obtain ⟨part, hpart, hcovers⟩ :=
            (hnext (by omega)).mpr hothers
          exact ⟨part, List.mem_cons_of_mem _ hpart, hcovers⟩

end Cuts

end Substitution

end Foundation
