/-
Regular expressions matched by backtracking.  Running an expression from a
cursor lists the cursors it can end at, in the order a backtracking matcher
tries them, so the match that is found is the first of the list.
-/
import Mathlib.Data.List.Basic

namespace Foundation

/-- Repetitions are of character sets only, and greedy. -/
inductive Regex where
  | empty
  | set (accepts : Char → Bool)
  | boundary
  | seq (first second : Regex)
  | alt (first second : Regex)
  | many (atLeast : Nat) (accepts : Char → Bool)
  | group (inner : Regex)

/-- A place in a text: whether a word character stands before it, what follows
it, and what the group has matched. -/
structure Cursor where
  afterWord : Bool
  rest : List Char
  captured : List Char := []
deriving Repr, DecidableEq

/-- The same place, in a text that goes on. -/
def Cursor.append (cursor : Cursor) (tail : List Char) : Cursor :=
  { cursor with rest := cursor.rest ++ tail }

namespace Regex

def optional (inner : Regex) : Regex :=
  alt inner empty

/-- The characters of a literal text, each matched by `same`. -/
def literal (same : Char → Char → Bool) : List Char → Regex
  | [] => empty
  | c :: rest => seq (set (same c)) (literal same rest)

/-- A greedy run of accepted characters: the longest one is tried first. -/
def runGreedy (word accepts : Char → Bool) (captured : List Char) :
    Bool → List Char → List Cursor
  | afterWord, [] => [⟨afterWord, [], captured⟩]
  | afterWord, c :: rest =>
      if accepts c then
        runGreedy word accepts captured (word c) rest ++
          [⟨afterWord, c :: rest, captured⟩]
      else [⟨afterWord, c :: rest, captured⟩]

def runMany (word accepts : Char → Bool) (captured : List Char) :
    Nat → Bool → List Char → List Cursor
  | 0, afterWord, text => runGreedy word accepts captured afterWord text
  | _ + 1, _, [] => []
  | n + 1, _, c :: rest =>
      if accepts c then runMany word accepts captured n (word c) rest else []

/-- The ends of the matches that start at a cursor.  `word` tells the word
characters, between which and all others `boundary` matches. -/
def run (word : Char → Bool) : Regex → Cursor → List Cursor
  | empty, cursor => [cursor]
  | set accepts, cursor =>
      match cursor.rest with
      | [] => []
      | c :: rest =>
          if accepts c then [⟨word c, rest, cursor.captured⟩] else []
  | boundary, cursor =>
      if cursor.afterWord = cursor.rest.head?.any word then [] else [cursor]
  | seq first second, cursor =>
      (run word first cursor).flatMap (run word second)
  | alt first second, cursor =>
      run word first cursor ++ run word second cursor
  | many atLeast accepts, cursor =>
      runMany word accepts cursor.captured atLeast cursor.afterWord cursor.rest
  | group inner, cursor =>
      (run word inner cursor).map fun finish => { finish with
        captured :=
          cursor.rest.take (cursor.rest.length - finish.rest.length) }

/-- The whole of a text, on its own, matches. -/
def Accepts (word : Char → Bool) (r : Regex) (text : List Char) : Prop :=
  ∃ finish ∈ r.run word ⟨false, text, []⟩, finish.rest = []

instance (word : Char → Bool) (r : Regex) (text : List Char) :
    Decidable (r.Accepts word text) :=
  inferInstanceAs (Decidable (∃ finish ∈ _, _))

/-- The texts of an expression, were every boundary to hold. -/
def Derives : Regex → List Char → Prop
  | empty, text => text = []
  | set accepts, text => ∃ c, accepts c = true ∧ text = [c]
  | boundary, text => text = []
  | seq first second, text => ∃ left right, text = left ++ right ∧
      first.Derives left ∧ second.Derives right
  | alt first second, text => first.Derives text ∨ second.Derives text
  | many atLeast accepts, text =>
      atLeast ≤ text.length ∧ ∀ c ∈ text, accepts c = true
  | group inner, text => inner.Derives text

/-- No set of the expression has the character. -/
def Avoids (stop : Char) : Regex → Prop
  | empty => True
  | set accepts => accepts stop = false
  | boundary => True
  | seq first second => first.Avoids stop ∧ second.Avoids stop
  | alt first second => first.Avoids stop ∧ second.Avoids stop
  | many _ accepts => accepts stop = false
  | group inner => inner.Avoids stop

instance decidableAvoids (stop : Char) : (r : Regex) → Decidable (r.Avoids stop)
  | empty => .isTrue trivial
  | set accepts => inferInstanceAs (Decidable (accepts stop = false))
  | boundary => .isTrue trivial
  | seq first second =>
      have := decidableAvoids stop first
      have := decidableAvoids stop second
      inferInstanceAs (Decidable (_ ∧ _))
  | alt first second =>
      have := decidableAvoids stop first
      have := decidableAvoids stop second
      inferInstanceAs (Decidable (_ ∧ _))
  | many _ accepts => inferInstanceAs (Decidable (accepts stop = false))
  | group inner => decidableAvoids stop inner

/-- The length of its shortest texts. -/
def shortest : Regex → Nat
  | empty => 0
  | set _ => 1
  | boundary => 0
  | seq first second => first.shortest + second.shortest
  | alt first second => min first.shortest second.shortest
  | many atLeast _ => atLeast
  | group inner => inner.shortest

/-- A boundary is not tested where a match ends. -/
def Settled : Regex → Bool
  | boundary => false
  | seq first second =>
      second.Settled && (first.Settled || decide (0 < second.shortest))
  | alt first second => first.Settled && second.Settled
  | group inner => inner.Settled
  | _ => true

section Texts

variable {word accepts : Char → Bool} {captured : List Char}

/-- Whether a word character stands before what follows the text. -/
def wordAfter (word : Char → Bool) (afterWord : Bool) (text : List Char) :
    Bool :=
  text.foldl (fun _ c => word c) afterWord

@[simp]
theorem wordAfter_nil (afterWord : Bool) :
    wordAfter word afterWord [] = afterWord := rfl

@[simp]
theorem wordAfter_cons (afterWord : Bool) (c : Char) (rest : List Char) :
    wordAfter word afterWord (c :: rest) = wordAfter word (word c) rest := rfl

theorem wordAfter_append (afterWord : Bool) (front back : List Char) :
    wordAfter word afterWord (front ++ back) =
      wordAfter word (wordAfter word afterWord front) back :=
  List.foldl_append

theorem wordAfter_eq_false {text : List Char}
    (hlast : ∀ c ∈ text.getLast?, word c = false) :
    wordAfter word false text = false := by
  rcases List.eq_nil_or_concat text with rfl | ⟨front, c, rfl⟩
  · rfl
  · rw [List.concat_eq_append] at hlast ⊢
    rw [wordAfter_append]
    exact hlast c (List.getLast?_concat)

theorem mem_runGreedy_self (afterWord : Bool) (text : List Char) :
    ⟨afterWord, text, captured⟩ ∈
      runGreedy word accepts captured afterWord text := by
  cases text with
  | nil => exact List.mem_singleton_self _
  | cons c rest =>
      rw [runGreedy]
      by_cases haccepts : accepts c = true
      · rw [if_pos haccepts]
        exact List.mem_append_right _ (List.mem_singleton_self _)
      · rw [if_neg haccepts]
        exact List.mem_singleton_self _

theorem mem_runGreedy {afterWord : Bool} {taken rest : List Char}
    (htaken : ∀ c ∈ taken, accepts c = true) :
    ⟨wordAfter word afterWord taken, rest, captured⟩ ∈
      runGreedy word accepts captured afterWord (taken ++ rest) := by
  induction taken generalizing afterWord with
  | nil => exact mem_runGreedy_self afterWord rest
  | cons c taken ih =>
      rw [List.forall_mem_cons] at htaken
      rw [List.cons_append, runGreedy, if_pos htaken.1]
      exact List.mem_append_left _ (ih htaken.2)

theorem mem_runMany {atLeast : Nat} {afterWord : Bool} {taken rest : List Char}
    (htaken : (many atLeast accepts).Derives taken) :
    ⟨wordAfter word afterWord taken, rest, captured⟩ ∈
      runMany word accepts captured atLeast afterWord (taken ++ rest) := by
  induction atLeast generalizing afterWord taken with
  | zero => exact mem_runGreedy htaken.2
  | succ n ih =>
      obtain ⟨hlength, haccepts⟩ := htaken
      cases taken with
      | nil => exact absurd hlength (Nat.not_succ_le_zero n)
      | cons c taken =>
          rw [List.forall_mem_cons] at haccepts
          rw [List.cons_append, runMany, if_pos haccepts.1]
          exact ih ⟨Nat.le_of_succ_le_succ hlength, haccepts.2⟩

theorem runGreedy_taken {afterWord : Bool} {text : List Char} {finish : Cursor}
    (hfinish : finish ∈ runGreedy word accepts captured afterWord text) :
    ∃ taken, text = taken ++ finish.rest ∧ (∀ c ∈ taken, accepts c = true) ∧
      finish = ⟨wordAfter word afterWord taken, finish.rest, captured⟩ := by
  induction text generalizing afterWord with
  | nil =>
      obtain rfl := List.mem_singleton.mp hfinish
      exact ⟨[], rfl, by simp, rfl⟩
  | cons c rest ih =>
      have hhere : finish = ⟨afterWord, c :: rest, captured⟩ →
          ∃ taken, c :: rest = taken ++ finish.rest ∧
            (∀ c ∈ taken, accepts c = true) ∧
            finish = ⟨wordAfter word afterWord taken, finish.rest, captured⟩ := by
        rintro rfl
        exact ⟨[], rfl, by simp, rfl⟩
      rw [runGreedy] at hfinish
      by_cases haccepts : accepts c = true
      · rw [if_pos haccepts, List.mem_append, List.mem_singleton] at hfinish
        rcases hfinish with hlonger | hsame
        · obtain ⟨taken, hrest, htaken, hstate⟩ := ih hlonger
          exact ⟨c :: taken, congrArg (c :: ·) hrest,
            List.forall_mem_cons.mpr ⟨haccepts, htaken⟩, hstate⟩
        · exact hhere hsame
      · rw [if_neg haccepts, List.mem_singleton] at hfinish
        exact hhere hfinish

theorem runMany_taken {atLeast : Nat} {afterWord : Bool} {text : List Char}
    {finish : Cursor}
    (hfinish : finish ∈ runMany word accepts captured atLeast afterWord text) :
    ∃ taken, text = taken ++ finish.rest ∧
      (many atLeast accepts).Derives taken ∧
      finish = ⟨wordAfter word afterWord taken, finish.rest, captured⟩ := by
  induction atLeast generalizing afterWord text with
  | zero =>
      obtain ⟨taken, hrest, htaken, hstate⟩ := runGreedy_taken hfinish
      exact ⟨taken, hrest, ⟨Nat.zero_le _, htaken⟩, hstate⟩
  | succ n ih =>
      cases text with
      | nil => cases hfinish
      | cons c rest =>
          rw [runMany] at hfinish
          by_cases haccepts : accepts c = true
          · rw [if_pos haccepts] at hfinish
            obtain ⟨taken, hrest, ⟨hlength, htaken⟩, hstate⟩ := ih hfinish
            exact ⟨c :: taken, congrArg (c :: ·) hrest,
              ⟨Nat.succ_le_succ hlength,
                List.forall_mem_cons.mpr ⟨haccepts, htaken⟩⟩, hstate⟩
          · rw [if_neg haccepts] at hfinish
            cases hfinish

/-- A match takes a text of the expression off the front. -/
theorem run_derives {r : Regex} {cursor finish : Cursor}
    (hfinish : finish ∈ r.run word cursor) :
    ∃ taken, cursor.rest = taken ++ finish.rest ∧ r.Derives taken := by
  induction r generalizing cursor finish with
  | empty =>
      obtain rfl := List.mem_singleton.mp hfinish
      exact ⟨[], rfl, rfl⟩
  | set accepts =>
      obtain ⟨afterWord, _ | ⟨c, rest⟩, captured⟩ := cursor
      · cases hfinish
      · simp only [run] at hfinish
        by_cases haccepts : accepts c = true
        · rw [if_pos haccepts] at hfinish
          obtain rfl := List.mem_singleton.mp hfinish
          exact ⟨[c], rfl, c, haccepts, rfl⟩
        · rw [if_neg haccepts] at hfinish
          cases hfinish
  | boundary =>
      rw [run] at hfinish
      by_cases hsame : cursor.afterWord = cursor.rest.head?.any word
      · rw [if_pos hsame] at hfinish
        cases hfinish
      · rw [if_neg hsame] at hfinish
        obtain rfl := List.mem_singleton.mp hfinish
        exact ⟨[], rfl, rfl⟩
  | seq first second ihFirst ihSecond =>
      rw [run] at hfinish
      obtain ⟨middle, hmiddle, hfinish⟩ := List.mem_flatMap.mp hfinish
      obtain ⟨left, hleft, hfirst⟩ := ihFirst hmiddle
      obtain ⟨right, hright, hsecond⟩ := ihSecond hfinish
      refine ⟨left ++ right, ?_, left, right, rfl, hfirst, hsecond⟩
      rw [hleft, hright, List.append_assoc]
  | alt first second ihFirst ihSecond =>
      rw [run, List.mem_append] at hfinish
      rcases hfinish with hfinish | hfinish
      · obtain ⟨taken, htaken, hfirst⟩ := ihFirst hfinish
        exact ⟨taken, htaken, .inl hfirst⟩
      · obtain ⟨taken, htaken, hsecond⟩ := ihSecond hfinish
        exact ⟨taken, htaken, .inr hsecond⟩
  | many atLeast accepts =>
      obtain ⟨taken, htext, htaken, _⟩ := runMany_taken hfinish
      exact ⟨taken, htext, htaken⟩
  | group inner ih =>
      obtain ⟨inside, hinside, rfl⟩ := List.mem_map.mp hfinish
      obtain ⟨taken, htaken, hderives⟩ := ih hinside
      exact ⟨taken, htaken, hderives⟩

theorem derives_of_accepts {r : Regex} {text : List Char}
    (haccepts : r.Accepts word text) : r.Derives text := by
  obtain ⟨finish, hfinish, hend⟩ := haccepts
  obtain ⟨taken, htaken, hderives⟩ := run_derives hfinish
  rw [hend, List.append_nil] at htaken
  rwa [show text = taken from htaken]

theorem shortest_le_of_derives {r : Regex} {text : List Char}
    (hderives : r.Derives text) : r.shortest ≤ text.length := by
  induction r generalizing text with
  | empty => exact Nat.zero_le _
  | set accepts =>
      obtain ⟨c, _, rfl⟩ := hderives
      exact Nat.le_refl 1
  | boundary => exact Nat.zero_le _
  | seq first second ihFirst ihSecond =>
      obtain ⟨left, right, rfl, hfirst, hsecond⟩ := hderives
      rw [List.length_append]
      exact Nat.add_le_add (ihFirst hfirst) (ihSecond hsecond)
  | alt first second ihFirst ihSecond =>
      rcases hderives with hfirst | hsecond
      · exact Nat.le_trans (Nat.min_le_left _ _) (ihFirst hfirst)
      · exact Nat.le_trans (Nat.min_le_right _ _) (ihSecond hsecond)
  | many atLeast accepts => exact hderives.1
  | group inner ih => exact ih hderives

theorem not_mem_of_avoids {r : Regex} {stop : Char} (havoids : r.Avoids stop)
    {text : List Char} (hderives : r.Derives text) : stop ∉ text := by
  induction r generalizing text with
  | empty =>
      rw [show text = [] from hderives]
      exact List.not_mem_nil
  | set accepts =>
      obtain ⟨c, haccepts, rfl⟩ := hderives
      rintro hstop
      rw [List.mem_singleton.mp hstop] at havoids
      exact Bool.false_ne_true (havoids.symm.trans haccepts)
  | boundary =>
      rw [show text = [] from hderives]
      exact List.not_mem_nil
  | seq first second ihFirst ihSecond =>
      obtain ⟨left, right, rfl, hfirst, hsecond⟩ := hderives
      rw [List.mem_append, not_or]
      exact ⟨ihFirst havoids.1 hfirst, ihSecond havoids.2 hsecond⟩
  | alt first second ihFirst ihSecond =>
      rcases hderives with hfirst | hsecond
      · exact ihFirst havoids.1 hfirst
      · exact ihSecond havoids.2 hsecond
  | many atLeast accepts =>
      intro hstop
      exact Bool.false_ne_true (havoids.symm.trans (hderives.2 stop hstop))
  | group inner ih => exact ih havoids hderives

/-- What the group of an expression has matched when it comes first. -/
theorem captured_group {r : Regex} {cursor finish : Cursor}
    (hfinish : finish ∈ (group r).run word cursor) :
    r.Derives finish.captured ∧
      cursor.rest = finish.captured ++ finish.rest := by
  obtain ⟨inside, hinside, rfl⟩ := List.mem_map.mp hfinish
  obtain ⟨taken, htaken, hderives⟩ := run_derives hinside
  have hcaptured : cursor.rest.take
      (cursor.rest.length - inside.rest.length) = taken := by
    rw [htaken, List.length_append, Nat.add_sub_cancel_right, List.take_left]
  dsimp only
  rw [hcaptured]
  exact ⟨hderives, htaken⟩

end Texts

section Longer

variable {word accepts : Char → Bool} {captured : List Char}

theorem runMany_append {atLeast : Nat} {afterWord : Bool} {text : List Char}
    {finish : Cursor}
    (hfinish : finish ∈ runMany word accepts captured atLeast afterWord text)
    (tail : List Char) :
    finish.append tail ∈
      runMany word accepts captured atLeast afterWord (text ++ tail) := by
  obtain ⟨taken, htext, htaken, hstate⟩ := runMany_taken hfinish
  rw [hstate, htext, List.append_assoc]
  exact mem_runMany htaken

theorem captured_append {cursor finish : Cursor}
    (hsuffix : ∃ taken, cursor.rest = taken ++ finish.rest)
    (tail : List Char) :
    (cursor.rest ++ tail).take
        ((cursor.rest ++ tail).length - (finish.rest ++ tail).length) =
      cursor.rest.take (cursor.rest.length - finish.rest.length) := by
  obtain ⟨taken, htaken⟩ := hsuffix
  rw [htaken, List.append_assoc, List.length_append, Nat.add_sub_cancel_right,
    List.take_left, List.length_append, Nat.add_sub_cancel_right,
    List.take_left]

/-- A match is still one when the text goes on, unless it ends where a boundary
is tested. -/
theorem run_append {r : Regex} {cursor finish : Cursor}
    (hfinish : finish ∈ r.run word cursor)
    (hend : finish.rest ≠ [] ∨ r.Settled = true) (tail : List Char) :
    finish.append tail ∈ r.run word (cursor.append tail) := by
  induction r generalizing cursor finish with
  | empty =>
      obtain rfl := List.mem_singleton.mp hfinish
      exact List.mem_singleton_self _
  | set accepts =>
      obtain ⟨afterWord, _ | ⟨c, rest⟩, captured⟩ := cursor
      · cases hfinish
      · simp only [run] at hfinish
        simp only [run, Cursor.append, List.cons_append]
        by_cases haccepts : accepts c = true
        · rw [if_pos haccepts] at hfinish
          obtain rfl := List.mem_singleton.mp hfinish
          rw [if_pos haccepts]
          exact List.mem_singleton_self _
        · rw [if_neg haccepts] at hfinish
          cases hfinish
  | boundary =>
      rw [run] at hfinish
      by_cases hsame : cursor.afterWord = cursor.rest.head?.any word
      · rw [if_pos hsame] at hfinish
        cases hfinish
      · rw [if_neg hsame] at hfinish
        obtain rfl := List.mem_singleton.mp hfinish
        rcases hend with hmore | hsettled
        · obtain ⟨afterWord, _ | ⟨c, rest⟩, captured⟩ := finish
          · exact absurd rfl hmore
          · have hrun : boundary.run word
                (Cursor.append ⟨afterWord, c :: rest, captured⟩ tail) =
                  [Cursor.append ⟨afterWord, c :: rest, captured⟩ tail] :=
              if_neg hsame
            rw [hrun]
            exact List.mem_singleton_self _
        · cases hsettled
  | seq first second ihFirst ihSecond =>
      rw [run] at hfinish ⊢
      obtain ⟨middle, hmiddle, hfinish⟩ := List.mem_flatMap.mp hfinish
      rw [Settled, Bool.and_eq_true, Bool.or_eq_true,
        decide_eq_true_eq] at hend
      obtain ⟨taken, htaken, hderives⟩ := run_derives hfinish
      have hlength := shortest_le_of_derives hderives
      refine List.mem_flatMap.mpr ⟨middle.append tail, ihFirst hmiddle ?_,
        ihSecond hfinish (hend.imp id And.left)⟩
      rcases hend with hmore | ⟨_, hfirst | hlong⟩
      · left
        rw [htaken]
        exact List.append_ne_nil_of_right_ne_nil _ hmore
      · exact .inr hfirst
      · left
        rw [htaken]
        apply List.append_ne_nil_of_left_ne_nil
        exact List.ne_nil_of_length_pos (Nat.lt_of_lt_of_le hlong hlength)
  | alt first second ihFirst ihSecond =>
      rw [run, List.mem_append] at hfinish ⊢
      rw [Settled, Bool.and_eq_true] at hend
      rcases hfinish with hfinish | hfinish
      · exact .inl (ihFirst hfinish (hend.imp id And.left))
      · exact .inr (ihSecond hfinish (hend.imp id And.right))
  | many atLeast accepts => exact runMany_append hfinish tail
  | group inner ih =>
      obtain ⟨inside, hinside, rfl⟩ := List.mem_map.mp hfinish
      obtain ⟨taken, htaken, _⟩ := run_derives hinside
      refine List.mem_map.mpr ⟨inside.append tail, ih hinside hend, ?_⟩
      exact congrArg (Cursor.mk inside.afterWord (inside.rest ++ tail))
        (captured_append ⟨taken, htaken⟩ tail)

end Longer

section Stop

variable {word accepts : Char → Bool} {stop : Char} {captured : List Char}

theorem runGreedy_stop (havoids : accepts stop = false) (afterWord : Bool)
    (text tail : List Char) :
    runGreedy word accepts captured afterWord (text ++ stop :: tail) =
      (runGreedy word accepts captured afterWord text).map
        (·.append (stop :: tail)) := by
  induction text generalizing afterWord with
  | nil =>
      have hstops : ¬accepts stop = true := ne_true_of_eq_false havoids
      rw [List.nil_append, runGreedy.eq_def]
      exact if_neg hstops
  | cons c rest ih =>
      rw [List.cons_append, runGreedy, runGreedy]
      by_cases haccepts : accepts c = true
      · rw [if_pos haccepts, if_pos haccepts, ih, List.map_append]
        rfl
      · rw [if_neg haccepts, if_neg haccepts]
        rfl

theorem runMany_stop (havoids : accepts stop = false) (atLeast : Nat)
    (afterWord : Bool) (text tail : List Char) :
    runMany word accepts captured atLeast afterWord (text ++ stop :: tail) =
      (runMany word accepts captured atLeast afterWord text).map
        (·.append (stop :: tail)) := by
  induction atLeast generalizing afterWord text with
  | zero => exact runGreedy_stop havoids afterWord text tail
  | succ n ih =>
      cases text with
      | nil =>
          have hstops : ¬accepts stop = true := ne_true_of_eq_false havoids
          exact if_neg hstops
      | cons c rest =>
          rw [List.cons_append, runMany, runMany]
          by_cases haccepts : accepts c = true
          · rw [if_pos haccepts, if_pos haccepts, ih]
          · rw [if_neg haccepts, if_neg haccepts]
            rfl

/-- Up to a character that is no word character and in no set, a text matches
as it does on its own. -/
theorem run_stop {r : Regex} (hstop : word stop = false)
    (havoids : r.Avoids stop) (cursor : Cursor) (tail : List Char) :
    r.run word (cursor.append (stop :: tail)) =
      (r.run word cursor).map (·.append (stop :: tail)) := by
  induction r generalizing cursor with
  | empty => rfl
  | set accepts =>
      obtain ⟨afterWord, _ | ⟨c, rest⟩, captured⟩ := cursor
      · rw [run]
        simp only [Cursor.append, List.nil_append]
        rw [show accepts stop = false from havoids]
        rfl
      · simp only [run, Cursor.append, List.cons_append]
        by_cases haccepts : accepts c = true
        · rw [if_pos haccepts, if_pos haccepts]
          rfl
        · rw [if_neg haccepts, if_neg haccepts]
          rfl
  | boundary =>
      have hhead : ((cursor.append (stop :: tail)).rest.head?.any word) =
          cursor.rest.head?.any word := by
        obtain ⟨afterWord, _ | ⟨c, rest⟩, captured⟩ := cursor
        · exact hstop
        · rfl
      rw [run, run, hhead]
      by_cases hsame : cursor.afterWord = cursor.rest.head?.any word
      · rw [if_pos hsame]
        exact if_pos hsame
      · rw [if_neg hsame]
        exact if_neg hsame
  | seq first second ihFirst ihSecond =>
      rw [run, run, ihFirst havoids.1, List.flatMap_map, List.map_flatMap]
      apply List.flatMap_congr
      intro middle _
      exact ihSecond havoids.2 middle
  | alt first second ihFirst ihSecond =>
      rw [run, run, ihFirst havoids.1, ihSecond havoids.2, List.map_append]
  | many atLeast accepts => exact runMany_stop havoids _ _ _ _
  | group inner ih =>
      rw [run, run, ih havoids, List.map_map, List.map_map]
      apply List.map_congr_left
      intro inside hinside
      obtain ⟨taken, htaken, _⟩ := run_derives hinside
      exact congrArg (Cursor.mk inside.afterWord (inside.rest ++ stop :: tail))
        (captured_append ⟨taken, htaken⟩ _)

end Stop

section Congruence

variable {word other accepts : Char → Bool} {captured : List Char}

theorem runGreedy_congr {afterWord : Bool} {text : List Char}
    (hsame : ∀ c ∈ text, word c = other c) :
    runGreedy word accepts captured afterWord text =
      runGreedy other accepts captured afterWord text := by
  induction text generalizing afterWord with
  | nil => rfl
  | cons c rest ih =>
      rw [List.forall_mem_cons] at hsame
      rw [runGreedy, runGreedy, ih hsame.2, hsame.1]

theorem runMany_congr {atLeast : Nat} {afterWord : Bool} {text : List Char}
    (hsame : ∀ c ∈ text, word c = other c) :
    runMany word accepts captured atLeast afterWord text =
      runMany other accepts captured atLeast afterWord text := by
  induction atLeast generalizing afterWord text with
  | zero => exact runGreedy_congr hsame
  | succ n ih =>
      cases text with
      | nil => rfl
      | cons c rest =>
          rw [List.forall_mem_cons] at hsame
          rw [runMany, runMany, ih hsame.2, hsame.1]

/-- Only the characters of the text are asked about. -/
theorem run_congr {r : Regex} {cursor : Cursor}
    (hsame : ∀ c ∈ cursor.rest, word c = other c) :
    r.run word cursor = r.run other cursor := by
  induction r generalizing cursor with
  | empty => rfl
  | set accepts =>
      obtain ⟨afterWord, _ | ⟨c, rest⟩, captured⟩ := cursor
      · rfl
      · simp only [run]
        rw [hsame c List.mem_cons_self]
  | boundary =>
      have hhead : cursor.rest.head?.any word = cursor.rest.head?.any other := by
        obtain ⟨afterWord, _ | ⟨c, rest⟩, captured⟩ := cursor
        · rfl
        · exact hsame c List.mem_cons_self
      rw [run, run, hhead]
  | seq first second ihFirst ihSecond =>
      rw [run, run, ihFirst hsame]
      apply List.flatMap_congr
      intro middle hmiddle
      obtain ⟨taken, htaken, _⟩ := run_derives hmiddle
      apply ihSecond
      intro c hc
      apply hsame
      rw [htaken]
      exact List.mem_append_right _ hc
  | alt first second ihFirst ihSecond =>
      rw [run, run, ihFirst hsame, ihSecond hsame]
  | many atLeast accepts => exact runMany_congr hsame
  | group inner ih => rw [run, run, ih hsame]

end Congruence

/-- The expression has no group. -/
def Groupless : Regex → Bool
  | seq first second => first.Groupless && second.Groupless
  | alt first second => first.Groupless && second.Groupless
  | group _ => false
  | _ => true

theorem runMany_captured {word accepts : Char → Bool} {captured : List Char}
    {atLeast : Nat} {afterWord : Bool} {text : List Char} {finish : Cursor}
    (hfinish : finish ∈ runMany word accepts captured atLeast afterWord text) :
    finish.captured = captured := by
  obtain ⟨_, _, _, hstate⟩ := runMany_taken hfinish
  exact congrArg Cursor.captured hstate

theorem run_captured {word : Char → Bool} {r : Regex}
    (hgroupless : r.Groupless = true) {cursor finish : Cursor}
    (hfinish : finish ∈ r.run word cursor) :
    finish.captured = cursor.captured := by
  induction r generalizing cursor finish with
  | empty => rw [List.mem_singleton.mp hfinish]
  | set accepts =>
      obtain ⟨afterWord, _ | ⟨c, rest⟩, captured⟩ := cursor
      · cases hfinish
      · simp only [run] at hfinish
        by_cases haccepts : accepts c = true
        · rw [if_pos haccepts] at hfinish
          rw [List.mem_singleton.mp hfinish]
        · rw [if_neg haccepts] at hfinish
          cases hfinish
  | boundary =>
      rw [run] at hfinish
      by_cases hsame : cursor.afterWord = cursor.rest.head?.any word
      · rw [if_pos hsame] at hfinish
        cases hfinish
      · rw [if_neg hsame] at hfinish
        rw [List.mem_singleton.mp hfinish]
  | seq first second ihFirst ihSecond =>
      rw [Groupless, Bool.and_eq_true] at hgroupless
      rw [run] at hfinish
      obtain ⟨middle, hmiddle, hfinish⟩ := List.mem_flatMap.mp hfinish
      rw [ihSecond hgroupless.2 hfinish, ihFirst hgroupless.1 hmiddle]
  | alt first second ihFirst ihSecond =>
      rw [Groupless, Bool.and_eq_true] at hgroupless
      rw [run, List.mem_append] at hfinish
      rcases hfinish with hfinish | hfinish
      · exact ihFirst hgroupless.1 hfinish
      · exact ihSecond hgroupless.2 hfinish
  | many atLeast accepts => exact runMany_captured hfinish
  | group inner ih => cases hgroupless

/-- The group of an expression whose other parts follow a boundary and the
group. -/
theorem captured_of_boundary_group {word : Char → Bool} {r after : Regex}
    (hgroupless : after.Groupless = true) {cursor finish : Cursor}
    (hfinish : finish ∈
      (seq boundary (seq (group r) after)).run word cursor) :
    r.Derives finish.captured ∧ finish.captured <+: cursor.rest := by
  obtain ⟨start, hstart, hrest⟩ := List.mem_flatMap.mp hfinish
  obtain ⟨middle, hmiddle, hafter⟩ := List.mem_flatMap.mp hrest
  rw [run] at hstart
  by_cases hsame : cursor.afterWord = cursor.rest.head?.any word
  · rw [if_pos hsame] at hstart
    cases hstart
  · rw [if_neg hsame] at hstart
    obtain rfl := List.mem_singleton.mp hstart
    obtain ⟨hderives, htaken⟩ := captured_group hmiddle
    rw [run_captured hgroupless hafter]
    exact ⟨hderives, middle.rest, htaken.symm⟩

end Regex

end Foundation
