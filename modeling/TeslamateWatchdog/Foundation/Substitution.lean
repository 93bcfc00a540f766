/-
Replacing the matches of an expression in a text, and what several such
replacements, one after the other, leave of it.
-/
import TeslamateWatchdog.Foundation.PyText
import TeslamateWatchdog.Foundation.Regex

namespace Foundation

/-- Every match is replaced by what is kept of its group, and a mark. -/
structure Substitution where
  pattern : Regex
  kept : List Char → List Char
  mark : List Char

namespace Substitution

/-- The match that starts at a place. -/
def find (word : Char → Bool) (s : Substitution) (afterWord : Bool)
    (text : List Char) : Option Cursor :=
  (s.pattern.run word ⟨afterWord, text, []⟩).head?

/-- The text with the matches replaced, of a pattern that matches no empty
text; `skip` characters of the last match are still ahead. -/
def subFrom (word : Char → Bool) (s : Substitution) :
    Nat → Bool → List Char → List Char
  | _, _, [] => []
  | skip + 1, _, c :: rest => subFrom word s skip (word c) rest
  | 0, afterWord, c :: rest =>
      match s.find word afterWord (c :: rest) with
      | none => c :: subFrom word s 0 (word c) rest
      | some finish => s.kept finish.captured ++ (s.mark ++
          subFrom word s (rest.length - finish.rest.length) (word c) rest)

def sub (word : Char → Bool) (s : Substitution) (text : List Char) :
    List Char :=
  subFrom word s 0 false text

/-- The stretches that `subFrom` puts its marks between. -/
def stretchesFrom (word : Char → Bool) (s : Substitution) :
    Nat → Bool → List Char → List Char × List (List Char)
  | _, _, [] => ([], [])
  | skip + 1, _, c :: rest => stretchesFrom word s skip (word c) rest
  | 0, afterWord, c :: rest =>
      match s.find word afterWord (c :: rest) with
      | none =>
          let later := stretchesFrom word s 0 (word c) rest
          (c :: later.1, later.2)
      | some finish =>
          let later := stretchesFrom word s
            (rest.length - finish.rest.length) (word c) rest
          (s.kept finish.captured, later.1 :: later.2)

/-- What is left of a text between the matches, with what is kept of them. -/
def stretches (word : Char → Bool) (s : Substitution) (text : List Char) :
    List (List Char) :=
  let found := stretchesFrom word s 0 false text
  found.1 :: found.2

/-- One substitution after the other. -/
def applyAll (word : Char → Bool) (substitutions : List Substitution)
    (text : List Char) : List Char :=
  substitutions.foldl (fun text s => s.sub word text) text

/-- What is left of a text by all of them. -/
def stretchesAll (word : Char → Bool) :
    List Substitution → List Char → List (List Char)
  | [], text => [text]
  | s :: rest, text => (s.stretches word text).flatMap (stretchesAll word rest)

/-- The text meets no mark: where it stands around one, it stands on one
side. -/
def Clear (text mark : List Char) : Prop :=
  ∀ before after, text <:+: before ++ (mark ++ after) ↔
    text <:+: before ∨ text <:+: after

/-- The substitution works on both sides of a mark, and leaves the mark. -/
def Leaves (word : Char → Bool) (s : Substitution) (mark : List Char) : Prop :=
  ∀ before after, s.sub word (before ++ (mark ++ after)) =
    s.sub word before ++ (mark ++ s.sub word after)

section Marks

variable {text : List Char}

theorem infix_of_infix_append {lead : List Char} (hnonempty : text ≠ [])
    (hlead : text.getLast hnonempty ∉ lead) {before : List Char}
    (hpart : text <:+: before ++ lead) : text <:+: before := by
  induction lead generalizing before with
  | nil =>
      rw [List.append_nil] at hpart
      exact hpart
  | cons c lead ih =>
      rw [List.mem_cons, not_or] at hlead
      rw [List.append_cons] at hpart
      rcases List.infix_concat_iff.mp (ih hlead.2 hpart) with hend | hbefore
      · rcases List.suffix_concat_iff.mp hend with hempty | ⟨front, rfl, _⟩
        · exact absurd hempty hnonempty
        · rw [List.getLast_concat] at hlead
          exact absurd rfl hlead.1
      · exact hbefore

/-- A mark between two characters that the text does not have. -/
theorem clear_of_fenced {lead name : List Char} {opening closing : Char}
    (hopening : opening ∉ text) (hclosing : closing ∉ text)
    (hname : ¬text <:+: name) (hnonempty : text ≠ [])
    (hlead : text.getLast hnonempty ∉ lead) :
    Clear text (lead ++ opening :: (name ++ [closing])) := by
  intro before after
  have hassoc : before ++ ((lead ++ opening :: (name ++ [closing])) ++ after) =
      (before ++ lead) ++ opening :: (name ++ closing :: after) := by
    simp
  rw [hassoc, PyText.infix_append_cons hopening, PyText.infix_append_cons hclosing]
  constructor
  · rintro (hbefore | hmark | hafter)
    · exact .inl (infix_of_infix_append hnonempty hlead hbefore)
    · exact absurd hmark hname
    · exact .inr hafter
  · rintro (hbefore | hafter)
    · exact .inl (List.infix_append_of_infix_left hbefore)
    · exact .inr (.inr hafter)

end Marks

section Sub

variable {word : Char → Bool} {s : Substitution}

theorem subFrom_eq_stretchesFrom (skip : Nat) (afterWord : Bool)
    (text : List Char) :
    s.subFrom word skip afterWord text =
      (s.stretchesFrom word skip afterWord text).1 ++
        (s.stretchesFrom word skip afterWord text).2.flatMap
          (s.mark ++ ·) := by
  induction text generalizing skip afterWord with
  | nil => rw [subFrom, stretchesFrom]; rfl
  | cons c rest ih =>
      cases skip with
      | succ skip =>
          rw [subFrom, stretchesFrom]
          exact ih skip (word c)
      | zero =>
          rw [subFrom, stretchesFrom]
          cases s.find word afterWord (c :: rest) with
          | none => exact congrArg (c :: ·) (ih 0 (word c))
          | some finish =>
              dsimp only
              rw [ih, List.flatMap_cons]
              simp only [List.append_assoc]

theorem find_congr {other : Char → Bool} {afterWord : Bool} {text : List Char}
    (hsame : ∀ c ∈ text, word c = other c) :
    s.find word afterWord text = s.find other afterWord text := by
  rw [find, find, Regex.run_congr hsame]

theorem subFrom_congr {other : Char → Bool} {skip : Nat} {afterWord : Bool}
    {text : List Char} (hsame : ∀ c ∈ text, word c = other c) :
    s.subFrom word skip afterWord text =
      s.subFrom other skip afterWord text := by
  induction text generalizing skip afterWord with
  | nil => rw [subFrom, subFrom]
  | cons c rest ih =>
      have hrest := (List.forall_mem_cons.mp hsame).2
      cases skip with
      | succ skip =>
          rw [subFrom, subFrom, ih hrest, hsame c List.mem_cons_self]
      | zero =>
          rw [subFrom, subFrom, find_congr hsame,
            hsame c List.mem_cons_self]
          cases s.find other afterWord (c :: rest) with
          | none => exact congrArg (c :: ·) (ih hrest)
          | some finish =>
              dsimp only
              rw [ih hrest]

/-- Up to a character no match goes over, a text is treated as it is on its
own. -/
theorem subFrom_stop {stop : Char} (hstop : word stop = false)
    (havoids : s.pattern.Avoids stop) (hshortest : 0 < s.pattern.shortest)
    (skip : Nat) (afterWord : Bool) (text tail : List Char)
    (hskip : skip ≤ text.length) :
    s.subFrom word skip afterWord (text ++ stop :: tail) =
      s.subFrom word skip afterWord text ++
        stop :: s.subFrom word 0 false tail := by
  induction text generalizing skip afterWord with
  | nil =>
      obtain rfl := Nat.le_zero.mp hskip
      have hnothing : s.pattern.run word ⟨afterWord, [], []⟩ = [] := by
        apply List.eq_nil_iff_forall_not_mem.mpr
        intro finish hfinish
        obtain ⟨taken, htaken, hderives⟩ := Regex.run_derives hfinish
        have hlength := Regex.shortest_le_of_derives hderives
        rw [(List.nil_eq_append_iff.mp htaken).1, List.length_nil] at hlength
        omega
      have hfind : s.find word afterWord (stop :: tail) = none := by
        have hrun := Regex.run_stop hstop havoids ⟨afterWord, [], []⟩ tail
        rw [hnothing] at hrun
        exact congrArg List.head? hrun
      have hcopied : s.subFrom word 0 afterWord (stop :: tail) =
          stop :: s.subFrom word 0 false tail := by
        rw [subFrom, hfind, hstop]
      exact hcopied
  | cons c rest ih =>
      rw [List.length_cons] at hskip
      cases skip with
      | succ skip =>
          rw [List.cons_append, subFrom, subFrom]
          exact ih skip (word c) (by omega)
      | zero =>
          have hfind : s.find word afterWord (c :: (rest ++ stop :: tail)) =
              (s.find word afterWord (c :: rest)).map
                (·.append (stop :: tail)) := by
            have hrun := Regex.run_stop hstop havoids
              ⟨afterWord, c :: rest, []⟩ tail
            exact (congrArg List.head? hrun).trans List.head?_map
          rw [List.cons_append, subFrom, subFrom, hfind]
          cases s.find word afterWord (c :: rest) with
          | none =>
              exact congrArg (c :: ·) (ih 0 (word c) (Nat.zero_le _))
          | some finish =>
              have hleft : (rest ++ stop :: tail).length -
                  (finish.append (stop :: tail)).rest.length =
                    rest.length - finish.rest.length := by
                rw [Cursor.append, List.length_append, List.length_append,
                  Nat.add_sub_add_right]
              dsimp only [Option.map_some]
              rw [hleft, ih _ (word c) (Nat.sub_le _ _)]
              simp only [Cursor.append, List.append_assoc]

/-- A mark whose ends no match goes over, and whose name shows none. -/
theorem leaves_of_fenced {name : List Char} {opening closing : Char}
    (hopening : word opening = false) (hclosing : word closing = false)
    (havoids : s.pattern.Avoids opening ∧ s.pattern.Avoids closing)
    (hshortest : 0 < s.pattern.shortest) (hname : s.sub word name = name) :
    s.Leaves word (opening :: (name ++ [closing])) := by
  intro before after
  have hassoc : before ++ (opening :: (name ++ [closing]) ++ after) =
      before ++ opening :: (name ++ closing :: after) := by
    simp
  rw [hassoc, sub, subFrom_stop hopening havoids.1 hshortest 0 false _ _
    (Nat.zero_le _), subFrom_stop hclosing havoids.2 hshortest 0 false _ _
    (Nat.zero_le _), show s.subFrom word 0 false name = name from hname]
  simp [sub]

end Sub

section All

variable {word : Char → Bool} {substitutions : List Substitution}

theorem applyAll_mark {mark : List Char}
    (hleaves : ∀ s ∈ substitutions, s.Leaves word mark)
    (before after : List Char) :
    applyAll word substitutions (before ++ (mark ++ after)) =
      applyAll word substitutions before ++
        (mark ++ applyAll word substitutions after) := by
  induction substitutions generalizing before after with
  | nil => rfl
  | cons s rest ih =>
      rw [List.forall_mem_cons] at hleaves
      simp only [applyAll, List.foldl_cons]
      rw [hleaves.1]
      exact ih hleaves.2 _ _

/-- Where a rewriting goes round the marks, a piece that meets no mark stands in
what it makes of one of the stretches between them. -/
theorem infix_between_marks {piece mark : List Char}
    {rewrite : List Char → List Char} (hclear : Clear piece mark)
    (hround : ∀ before after, rewrite (before ++ (mark ++ after)) =
      rewrite before ++ (mark ++ rewrite after))
    (first : List Char) (others : List (List Char)) :
    piece <:+: rewrite (first ++ others.flatMap (mark ++ ·)) ↔
      ∃ stretch ∈ first :: others, piece <:+: rewrite stretch := by
  induction others generalizing first with
  | nil => simp
  | cons next others ih =>
      rw [List.flatMap_cons, List.append_assoc, hround, hclear, ih]
      simp only [List.mem_cons, exists_eq_or_imp]

/-- A piece that meets no mark stands in the result if it stands in a stretch
that all substitutions leave. -/
theorem infix_applyAll_iff {piece : List Char}
    (hclear : ∀ s ∈ substitutions, Clear piece s.mark)
    (hleaves : substitutions.Pairwise
      fun earlier later => later.Leaves word earlier.mark)
    (text : List Char) :
    piece <:+: applyAll word substitutions text ↔
      ∃ stretch ∈ stretchesAll word substitutions text, piece <:+: stretch := by
  induction substitutions generalizing text with
  | nil => simp [applyAll, stretchesAll]
  | cons s rest ih =>
      rw [List.forall_mem_cons] at hclear
      rw [List.pairwise_cons] at hleaves
      have happly : applyAll word (s :: rest) text =
          applyAll word rest (s.sub word text) := rfl
      rw [happly, sub, subFrom_eq_stretchesFrom,
        infix_between_marks hclear.1 (applyAll_mark hleaves.1), stretchesAll,
        stretches]
      simp only [List.mem_flatMap, ih hclear.2 hleaves.2]
      constructor
      · rintro ⟨middle, hmiddle, stretch, hstretch, hpiece⟩
        exact ⟨stretch, ⟨middle, hmiddle, hstretch⟩, hpiece⟩
      · rintro ⟨stretch, ⟨middle, hmiddle, hstretch⟩, hpiece⟩
        exact ⟨middle, hmiddle, stretch, hstretch, hpiece⟩

end All

/-- What is kept of a match stands at its front, and is short. -/
def KeepsFront (word : Char → Bool) (s : Substitution) (bound : Nat) : Prop :=
  ∀ afterWord text finish, s.find word afterWord text = some finish →
    s.kept finish.captured <+: text ∧ (s.kept finish.captured).length ≤ bound

section Overlooked

variable {word : Char → Bool} {s : Substitution} {bound : Nat}

theorem stretchesFrom_within (hkeeps : s.KeepsFront word bound) (skip : Nat)
    (afterWord : Bool) (text : List Char) :
    (skip = 0 → (s.stretchesFrom word skip afterWord text).1 <+: text) ∧
      (s.stretchesFrom word skip afterWord text).1 <:+: text ∧
      ∀ stretch ∈ (s.stretchesFrom word skip afterWord text).2,
        stretch <:+: text := by
  induction text generalizing skip afterWord with
  | nil => simp [stretchesFrom]
  | cons c rest ih =>
      cases skip with
      | succ skip =>
          obtain ⟨_, hfirst, hothers⟩ := ih skip (word c)
          rw [stretchesFrom]
          refine ⟨fun hzero => absurd hzero (Nat.succ_ne_zero skip),
            List.infix_cons hfirst, fun stretch hstretch => ?_⟩
          exact List.infix_cons (hothers stretch hstretch)
      | zero =>
          rw [stretchesFrom]
          cases hfind : s.find word afterWord (c :: rest) with
          | none =>
              obtain ⟨hfront, _, hothers⟩ := ih 0 (word c)
              have hstarts : (c :: (s.stretchesFrom word 0 (word c) rest).1) <+:
                  c :: rest := List.cons_prefix_cons.mpr ⟨rfl, hfront rfl⟩
              exact ⟨fun _ => hstarts, hstarts.isInfix,
                fun stretch hstretch => List.infix_cons
                  (hothers stretch hstretch)⟩
          | some finish =>
              obtain ⟨_, hfirst, hothers⟩ :=
                ih (rest.length - finish.rest.length) (word c)
              have hkept := (hkeeps _ _ _ hfind).1
              refine ⟨fun _ => hkept, hkept.isInfix, fun stretch hstretch => ?_⟩
              rcases List.mem_cons.mp hstretch with rfl | hstretch
              · exact List.infix_cons hfirst
              · exact List.infix_cons (hothers stretch hstretch)

theorem stretch_within (hkeeps : s.KeepsFront word bound) {text : List Char} :
    ∀ stretch ∈ s.stretches word text, stretch <:+: text := by
  obtain ⟨_, hfirst, hothers⟩ := stretchesFrom_within hkeeps 0 false text
  exact List.forall_mem_cons.mpr ⟨hfirst, hothers⟩

/-- A text of the pattern is found at its start, after anything but a word
character. -/
theorem find_of_accepts {piece : List Char}
    (haccepts : s.pattern.Accepts word piece)
    (hsettled : s.pattern.Settled = true) (tail : List Char) :
    s.find word false (piece ++ tail) ≠ none := by
  obtain ⟨finish, hfinish, _⟩ := haccepts
  have hlonger := Regex.run_append hfinish (.inr hsettled) tail
  intro hnone
  have hnothing : s.pattern.run word ⟨false, piece ++ tail, []⟩ = [] :=
    List.head?_eq_none_iff.mp hnone
  rw [Cursor.append, hnothing] at hlonger
  cases hlonger

/-- Where a text of the pattern is left, a word character stands before it. -/
theorem afterWord_of_stretchesFrom (hkeeps : s.KeepsFront word bound)
    (hsettled : s.pattern.Settled = true) {piece : List Char}
    (haccepts : s.pattern.Accepts word piece) (hlength : bound < piece.length)
    (skip : Nat) (afterWord : Bool) (text : List Char)
    (hleft : ∃ stretch ∈ (s.stretchesFrom word skip afterWord text).1 ::
      (s.stretchesFrom word skip afterWord text).2, piece <:+: stretch) :
    (skip = 0 ∧ piece <+: text ∧ afterWord = true) ∨
      ∃ c, word c = true ∧ (c :: piece) <:+: text := by
  induction text generalizing skip afterWord with
  | nil =>
      obtain ⟨stretch, hstretch, hpiece⟩ := hleft
      rw [stretchesFrom, List.mem_singleton] at hstretch
      rw [hstretch] at hpiece
      rw [List.infix_nil.mp hpiece, List.length_nil] at hlength
      omega
  | cons c rest ih =>
      have hlater : ∀ skip : Nat,
          (∃ stretch ∈ (s.stretchesFrom word skip (word c) rest).1 ::
            (s.stretchesFrom word skip (word c) rest).2, piece <:+: stretch) →
          ∃ c', word c' = true ∧ (c' :: piece) <:+: c :: rest := by
        intro skip hlater
        rcases ih skip (word c) hlater with
          ⟨_, hstarts, hword⟩ | ⟨c', hword, hpart⟩
        · exact ⟨c, hword,
            (List.cons_prefix_cons.mpr ⟨rfl, hstarts⟩).isInfix⟩
        · exact ⟨c', hword, List.infix_cons hpart⟩
      cases skip with
      | succ skip =>
          rw [stretchesFrom] at hleft
          exact .inr (hlater skip hleft)
      | zero =>
          rw [stretchesFrom] at hleft
          obtain ⟨stretch, hstretch, hpiece⟩ := hleft
          cases hfind : s.find word afterWord (c :: rest) with
          | some finish =>
              rw [hfind] at hstretch
              rcases List.mem_cons.mp hstretch with rfl | hstretch
              · have hkept := (hkeeps _ _ _ hfind).2
                have hpieceLength := hpiece.length_le
                dsimp only at hpieceLength
                omega
              · exact .inr (hlater _ ⟨stretch, hstretch, hpiece⟩)
          | none =>
              rw [hfind] at hstretch
              rcases List.mem_cons.mp hstretch with rfl | hstretch
              · rcases List.infix_cons_iff.mp hpiece with hstart | hinside
                · left
                  have hfront := (stretchesFrom_within hkeeps 0 (word c) rest).1
                  have hstarts : piece <+: c :: rest := hstart.trans
                    (List.cons_prefix_cons.mpr ⟨rfl, hfront rfl⟩)
                  refine ⟨rfl, hstarts, ?_⟩
                  by_contra hword
                  rw [Bool.not_eq_true] at hword
                  obtain ⟨tail, htail⟩ := hstarts
                  rw [hword, ← htail] at hfind
                  exact find_of_accepts haccepts hsettled tail hfind
                · exact .inr (hlater 0 ⟨_, List.mem_cons_self, hinside⟩)
              · exact .inr (hlater 0
                  ⟨stretch, List.mem_cons_of_mem _ hstretch, hpiece⟩)

theorem afterWord_of_stretch (hkeeps : s.KeepsFront word bound)
    (hsettled : s.pattern.Settled = true) {piece text : List Char}
    (haccepts : s.pattern.Accepts word piece) (hlength : bound < piece.length)
    (hleft : ∃ stretch ∈ s.stretches word text, piece <:+: stretch) :
    ∃ c, word c = true ∧ (c :: piece) <:+: text := by
  rcases afterWord_of_stretchesFrom hkeeps hsettled haccepts hlength 0 false
    text hleft with ⟨_, _, hword⟩ | hafter
  · cases hword
  · exact hafter

theorem stretchAll_within {substitutions : List Substitution}
    (hkeeps : ∀ s ∈ substitutions, s.KeepsFront word bound)
    {text : List Char} :
    ∀ stretch ∈ stretchesAll word substitutions text, stretch <:+: text := by
  induction substitutions generalizing text with
  | nil =>
      intro stretch hstretch
      obtain rfl := List.mem_singleton.mp hstretch
      exact List.infix_rfl
  | cons s rest ih =>
      rw [List.forall_mem_cons] at hkeeps
      intro stretch hstretch
      obtain ⟨middle, hmiddle, hlater⟩ := List.mem_flatMap.mp hstretch
      exact (ih hkeeps.2 stretch hlater).trans
        (stretch_within hkeeps.1 middle hmiddle)

/-- Several substitutions overlook a text of the pattern of one of them only
directly after a word character. -/
theorem afterWord_of_stretchesAll {substitutions : List Substitution}
    (hkeeps : ∀ s ∈ substitutions, s.KeepsFront word bound)
    (hsettled : ∀ s ∈ substitutions, s.pattern.Settled = true)
    {piece : List Char} (hlength : bound < piece.length)
    (haccepts : ∃ s ∈ substitutions, s.pattern.Accepts word piece)
    (text : List Char)
    (hleft : ∃ stretch ∈ stretchesAll word substitutions text,
      piece <:+: stretch) :
    ∃ c, word c = true ∧ (c :: piece) <:+: text := by
  induction substitutions generalizing text with
  | nil =>
      obtain ⟨s, hs, _⟩ := haccepts
      cases hs
  | cons s rest ih =>
      rw [List.forall_mem_cons] at hkeeps hsettled
      obtain ⟨stretch, hstretch, hpiece⟩ := hleft
      obtain ⟨middle, hmiddle, hlater⟩ := List.mem_flatMap.mp hstretch
      obtain ⟨own, hown, haccepts⟩ := haccepts
      rcases List.mem_cons.mp hown with rfl | hown
      · have hpart := stretchAll_within hkeeps.2 stretch hlater
        exact afterWord_of_stretch hkeeps.1 hsettled.1 haccepts hlength
          ⟨middle, hmiddle, hpiece.trans hpart⟩
      · obtain ⟨c, hword, hafter⟩ := ih hkeeps.2 hsettled.2
          ⟨own, hown, haccepts⟩ middle ⟨stretch, hlater, hpiece⟩
        exact ⟨c, hword,
          hafter.trans (stretch_within hkeeps.1 middle hmiddle)⟩

end Overlooked

end Substitution

end Foundation
