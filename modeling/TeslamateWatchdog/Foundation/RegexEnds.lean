/-
How the matches of an expression begin and end: with which characters, before
which characters the first choice stops, and in a text that is cut short.
-/
import TeslamateWatchdog.Foundation.Regex

namespace Foundation

namespace Regex

variable {word accepts p : Char → Bool} {captured : List Char}

/-- A match that ends before the tail is one without the tail, unless it ends
where a boundary is tested. -/
theorem run_of_append {r : Regex} {cursor finish : Cursor}
    {tail left : List Char}
    (hfinish : finish ∈ r.run word (cursor.append tail))
    (hleft : finish.rest = left ++ tail)
    (hend : left ≠ [] ∨ r.Settled = true) :
    ∃ shorter ∈ r.run word cursor, shorter.append tail = finish := by
  induction r generalizing cursor finish left with
  | empty =>
      exact ⟨cursor, List.mem_singleton_self _,
        (List.mem_singleton.mp hfinish).symm⟩
  | set accepts =>
      obtain ⟨taken, htaken, c, haccepts, rfl⟩ := run_derives hfinish
      obtain ⟨afterWord, text, captured⟩ := cursor
      have htext : text = c :: left := by
        rw [hleft, ← List.append_assoc] at htaken
        exact List.append_cancel_right htaken
      subst htext
      refine ⟨⟨word c, left, captured⟩, ?_, ?_⟩
      · simp [run, haccepts]
      · have hfull : finish = ⟨word c, left ++ tail, captured⟩ := by
          simpa [run, Cursor.append, haccepts] using hfinish
        exact hfull.symm
  | boundary =>
      rw [run] at hfinish
      by_cases hsame : (cursor.append tail).afterWord =
          (cursor.append tail).rest.head?.any word
      · rw [if_pos hsame] at hfinish
        cases hfinish
      · rw [if_neg hsame] at hfinish
        obtain rfl := List.mem_singleton.mp hfinish
        obtain ⟨afterWord, text, captured⟩ := cursor
        obtain rfl : text = left := List.append_cancel_right hleft
        rcases hend with hmore | hsettled
        · cases text with
          | nil => exact absurd rfl hmore
          | cons c rest =>
              have hrun : boundary.run word ⟨afterWord, c :: rest, captured⟩ =
                  [⟨afterWord, c :: rest, captured⟩] := if_neg hsame
              exact ⟨⟨afterWord, c :: rest, captured⟩,
                hrun ▸ List.mem_singleton_self _, rfl⟩
        · cases hsettled
  | seq first second ihFirst ihSecond =>
      rw [run] at hfinish
      obtain ⟨middle, hmiddle, hfinish⟩ := List.mem_flatMap.mp hfinish
      obtain ⟨taken, htaken, hderives⟩ := run_derives hfinish
      have hlength := shortest_le_of_derives hderives
      rw [Settled, Bool.and_eq_true, Bool.or_eq_true,
        decide_eq_true_eq] at hend
      have hfirst : taken ++ left ≠ [] ∨ first.Settled = true := by
        rcases hend with hmore | ⟨_, hfirst | hlong⟩
        · exact .inl (List.append_ne_nil_of_right_ne_nil _ hmore)
        · exact .inr hfirst
        · left
          apply List.append_ne_nil_of_left_ne_nil
          exact List.ne_nil_of_length_pos (Nat.lt_of_lt_of_le hlong hlength)
      obtain ⟨start, hstart, rfl⟩ := ihFirst hmiddle
        (by rw [htaken, hleft, List.append_assoc]) hfirst
      obtain ⟨shorter, hshorter, hsame⟩ :=
        ihSecond hfinish hleft (hend.imp id And.left)
      exact ⟨shorter, List.mem_flatMap.mpr ⟨start, hstart, hshorter⟩, hsame⟩
  | alt first second ihFirst ihSecond =>
      rw [run, List.mem_append] at hfinish
      rw [Settled, Bool.and_eq_true] at hend
      rcases hfinish with hfinish | hfinish
      · obtain ⟨shorter, hshorter, hsame⟩ :=
          ihFirst hfinish hleft (hend.imp id And.left)
        exact ⟨shorter, List.mem_append_left _ hshorter, hsame⟩
      · obtain ⟨shorter, hshorter, hsame⟩ :=
          ihSecond hfinish hleft (hend.imp id And.right)
        exact ⟨shorter, List.mem_append_right _ hshorter, hsame⟩
  | many atLeast accepts =>
      obtain ⟨taken, htaken, hderives, hstate⟩ := runMany_taken hfinish
      obtain ⟨afterWord, text, captured⟩ := cursor
      have htext : text = taken ++ left := by
        rw [hleft, ← List.append_assoc] at htaken
        exact List.append_cancel_right htaken
      subst htext
      refine ⟨⟨wordAfter word afterWord taken, left, captured⟩,
        mem_runMany hderives, ?_⟩
      rw [hstate, hleft]
      rfl
  | group inner ih =>
      obtain ⟨inside, hinside, rfl⟩ := List.mem_map.mp hfinish
      obtain ⟨shorter, hshorter, rfl⟩ := ih hinside hleft hend
      obtain ⟨taken, htaken, _⟩ := run_derives hshorter
      refine ⟨_, List.mem_map_of_mem hshorter, ?_⟩
      exact congrArg (Cursor.mk shorter.afterWord (shorter.rest ++ tail))
        (captured_append ⟨taken, htaken⟩ tail).symm

/-- No boundary is tested. -/
def Boundless : Regex → Bool
  | boundary => false
  | seq first second => first.Boundless && second.Boundless
  | alt first second => first.Boundless && second.Boundless
  | group inner => inner.Boundless
  | _ => true

/-- Without boundaries, a text of the expression is matched wherever it
stands. -/
theorem run_of_derives {r : Regex} (hboundless : r.Boundless = true)
    {text : List Char} (hderives : r.Derives text) (afterWord : Bool)
    (rest captured : List Char) :
    ∃ finish ∈ r.run word ⟨afterWord, text ++ rest, captured⟩,
      finish.rest = rest ∧
        finish.afterWord = wordAfter word afterWord text := by
  induction r generalizing text afterWord rest captured with
  | empty =>
      obtain rfl : text = [] := hderives
      exact ⟨_, List.mem_singleton_self _, rfl, rfl⟩
  | set accepts =>
      obtain ⟨c, haccepts, rfl⟩ := hderives
      refine ⟨⟨word c, rest, captured⟩, ?_, rfl, rfl⟩
      simp [run, haccepts]
  | boundary => cases hboundless
  | seq first second ihFirst ihSecond =>
      rw [Boundless, Bool.and_eq_true] at hboundless
      obtain ⟨left, right, rfl, hfirst, hsecond⟩ := hderives
      obtain ⟨middle, hmiddle, hrest, hafter⟩ :=
        ihFirst hboundless.1 hfirst afterWord (right ++ rest) captured
      obtain ⟨finish, hfinish, hend, hword⟩ :=
        ihSecond hboundless.2 hsecond middle.afterWord rest middle.captured
      rw [← hrest] at hfinish
      refine ⟨finish, ?_, hend, ?_⟩
      · rw [run, List.append_assoc]
        exact List.mem_flatMap.mpr ⟨middle, hmiddle, hfinish⟩
      · rw [hword, hafter, wordAfter_append]
  | alt first second ihFirst ihSecond =>
      rw [Boundless, Bool.and_eq_true] at hboundless
      rcases hderives with hfirst | hsecond
      · obtain ⟨finish, hfinish, hend⟩ :=
          ihFirst hboundless.1 hfirst afterWord rest captured
        exact ⟨finish, List.mem_append_left _ hfinish, hend⟩
      · obtain ⟨finish, hfinish, hend⟩ :=
          ihSecond hboundless.2 hsecond afterWord rest captured
        exact ⟨finish, List.mem_append_right _ hfinish, hend⟩
  | many atLeast accepts =>
      exact ⟨_, mem_runMany hderives, rfl, rfl⟩
  | group inner ih =>
      obtain ⟨inside, hinside, hend⟩ :=
        ih hboundless hderives afterWord rest captured
      exact ⟨_, List.mem_map_of_mem hinside, hend⟩

/-- A match starts somewhere in the text. -/
def search (word : Char → Bool) (r : Regex) : Bool → List Char → Bool
  | afterWord, [] => !(r.run word ⟨afterWord, [], []⟩).isEmpty
  | afterWord, c :: rest =>
      !(r.run word ⟨afterWord, c :: rest, []⟩).isEmpty ||
        search word r (word c) rest

/-- Without boundaries, a text of the expression is found wherever it stands. -/
theorem search_of_derives {r : Regex} (hboundless : r.Boundless = true)
    {text : List Char} (hderives : r.Derives text) (afterWord : Bool)
    (before rest : List Char) :
    r.search word afterWord (before ++ text ++ rest) = true := by
  induction before generalizing afterWord with
  | nil =>
      obtain ⟨finish, hfinish, -⟩ :=
        run_of_derives hboundless hderives afterWord rest []
      have hnonempty :
          (!(r.run word ⟨afterWord, text ++ rest, []⟩).isEmpty) = true := by
        rw [Bool.not_eq_true', List.isEmpty_eq_false_iff]
        exact List.ne_nil_of_mem hfinish
      rw [List.nil_append]
      cases htext : text ++ rest with
      | nil =>
          rw [htext] at hnonempty
          exact hnonempty
      | cons c tail =>
          rw [htext] at hnonempty
          rw [search, hnonempty, Bool.true_or]
  | cons c before ih =>
      rw [List.cons_append, List.cons_append, search, ih, Bool.or_true]

/-- The match that is tried first does not stop before such a character. -/
def Spent (word p : Char → Bool) (r : Regex) : Prop :=
  ∀ cursor finish, (r.run word cursor).head? = some finish →
    ∀ c ∈ finish.rest.head?, p c = false

theorem head_runGreedy {afterWord : Bool} {text : List Char} {finish : Cursor}
    (hfinish : (runGreedy word accepts captured afterWord text).head? =
      some finish) : ∀ c ∈ finish.rest.head?, accepts c = false := by
  induction text generalizing afterWord with
  | nil =>
      obtain rfl := Option.some.inj hfinish
      exact fun c hc => by cases hc
  | cons d rest ih =>
      rw [runGreedy] at hfinish
      by_cases haccepts : accepts d = true
      · rw [if_pos haccepts, List.head?_append_of_ne_nil _
          (List.ne_nil_of_mem (mem_runGreedy_self _ _))] at hfinish
        exact ih hfinish
      · rw [if_neg haccepts] at hfinish
        obtain rfl := Option.some.inj hfinish
        intro c hc
        obtain rfl := Option.some.inj hc
        rwa [Bool.not_eq_true] at haccepts

theorem spent_many (haccepts : ∀ c, p c = true → accepts c = true)
    (atLeast : Nat) : (many atLeast accepts).Spent word p := by
  have hstops : ∀ (afterWord : Bool) (text : List Char) (finish : Cursor),
      (runMany word accepts finish.captured atLeast afterWord text).head? =
        some finish → ∀ c ∈ finish.rest.head?, accepts c = false := by
    induction atLeast with
    | zero => exact fun _ _ _ hfinish => head_runGreedy hfinish
    | succ n ih =>
        intro afterWord text finish hfinish
        cases text with
        | nil => cases hfinish
        | cons d rest =>
            rw [runMany] at hfinish
            by_cases hd : accepts d = true
            · rw [if_pos hd] at hfinish
              exact ih _ _ _ hfinish
            · rw [if_neg hd] at hfinish
              cases hfinish
  intro cursor finish hfinish c hc
  have hcaptured := runMany_captured (List.mem_of_head? hfinish)
  rw [run, ← hcaptured] at hfinish
  have hstop := hstops _ _ _ hfinish c hc
  by_contra hp
  rw [Bool.not_eq_false] at hp
  rw [haccepts c hp] at hstop
  cases hstop

theorem spent_seq {first second : Regex} (hsecond : second.Spent word p) :
    (seq first second).Spent word p := by
  intro cursor finish hfinish
  rw [run, List.head?_flatMap] at hfinish
  obtain ⟨middle, _, hmiddle⟩ := List.exists_of_findSome?_eq_some hfinish
  exact hsecond middle finish hmiddle

theorem spent_seq_empty {first : Regex} (hfirst : first.Spent word p) :
    (seq first empty).Spent word p := by
  intro cursor finish hfinish
  apply hfirst cursor finish
  have hrun : (seq first empty).run word cursor = first.run word cursor := by
    rw [run]
    exact List.flatMap_singleton' _
  rwa [hrun] at hfinish

theorem spent_group {inner : Regex} (hinner : inner.Spent word p) :
    (group inner).Spent word p := by
  intro cursor finish hfinish
  rw [run, List.head?_map] at hfinish
  obtain ⟨inside, hinside, rfl⟩ := Option.map_eq_some_iff.mp hfinish
  exact hinner cursor inside hinside

def BeginsWith (p : Char → Bool) (r : Regex) : Prop :=
  ∀ c rest, r.Derives (c :: rest) → p c = true

def EndsWith (p : Char → Bool) (r : Regex) : Prop :=
  ∀ front c, r.Derives (front ++ [c]) → p c = true

theorem derives_boundary_seq {r : Regex} {text : List Char} :
    (seq boundary r).Derives text ↔ r.Derives text := by
  constructor
  · rintro ⟨left, right, rfl, hempty, hderives⟩
    obtain rfl : left = [] := hempty
    exact hderives
  · exact fun hderives => ⟨[], text, rfl, rfl, hderives⟩

theorem derives_seq_empty {r : Regex} {text : List Char} :
    (seq r empty).Derives text ↔ r.Derives text := by
  constructor
  · rintro ⟨left, right, rfl, hderives, hempty⟩
    obtain rfl : right = [] := hempty
    rwa [List.append_nil]
  · exact fun hderives => ⟨text, [], (List.append_nil text).symm, hderives, rfl⟩

theorem beginsWith_literal {same : Char → Char → Bool} {letter : Char}
    {letters : List Char} (r : Regex) :
    (seq (literal same (letter :: letters)) r).BeginsWith (same letter) := by
  rintro c rest ⟨_, _, htext, ⟨_, _, rfl, ⟨d, hsame, rfl⟩, _⟩, _⟩
  obtain ⟨rfl, _⟩ := List.cons.inj htext
  exact hsame

theorem endsWith_many (atLeast : Nat) : (many atLeast accepts).EndsWith accepts :=
  fun _ c hderives => hderives.2 c (List.mem_append_right _
    (List.mem_singleton_self c))

theorem EndsWith.seq {first second : Regex} (hsecond : second.EndsWith p)
    (hshortest : 0 < second.shortest) : (seq first second).EndsWith p := by
  rintro front c ⟨left, right, htext, _, hright⟩
  have hlength := Nat.lt_of_lt_of_le hshortest (shortest_le_of_derives hright)
  obtain ⟨back, d, rfl⟩ : ∃ back d, right = back ++ [d] :=
    ⟨_, _, (List.dropLast_append_getLast
      (List.ne_nil_of_length_pos hlength)).symm⟩
  rw [← List.append_assoc] at htext
  obtain rfl := List.singleton_inj.mp (List.append_inj_right' htext rfl)
  exact hsecond back c hright

theorem EndsWith.seq_empty {first : Regex} (hfirst : first.EndsWith p) :
    (Regex.seq first empty).EndsWith p :=
  fun front c hderives => hfirst front c (derives_seq_empty.mp hderives)

theorem endsWith_literal {same : Char → Char → Bool} {letter : Char}
    (letters : List Char) :
    (literal same (letters ++ [letter])).EndsWith (same letter) := by
  induction letters with
  | nil =>
      rintro front c ⟨_, _, htext, ⟨d, hsame, rfl⟩, hempty⟩
      rw [show _ = [] from hempty] at htext
      have hsingle : front ++ [c] = [] ++ [d] := htext
      obtain rfl := List.singleton_inj.mp (List.append_inj_right' hsingle rfl)
      exact hsame
  | cons first letters ih =>
      refine EndsWith.seq ih ?_
      induction letters with
      | nil => exact Nat.zero_lt_one
      | cons _ _ _ => exact Nat.add_pos_left Nat.zero_lt_one _

end Regex

end Foundation
