/-
Topic names and topic filters of MQTT.  A topic is a sequence of levels, empty
ones included; a filter may leave a level open, or everything from some level
on.
-/
import Mathlib.Data.List.Forall2
import TeslamateWatchdog.Foundation.PyText

namespace Foundation

namespace Topic

/-- The levels of a topic or of a filter. -/
def levels (text : String) : List String :=
  PyText.split text '/'

/-- A topic name that can be published to. -/
structure ValidName (topic : String) : Prop where
  nonempty : topic ≠ ""
  plus : '+' ∉ topic.toList
  hash : '#' ∉ topic.toList

/-- A filter that can be subscribed to: a wildcard takes a whole level, and `#`
the last one. -/
structure ValidFilter (filter : String) : Prop where
  nonempty : filter ≠ ""
  plus : ∀ level ∈ levels filter, '+' ∈ level.toList → level = "+"
  hash : ∀ level ∈ levels filter, '#' ∈ level.toList → level = "#"
  last : "#" ∉ (levels filter).dropLast

/-- Level-by-level matching.  `#` also matches the level above it. -/
def levelsMatch : List String → List String → Bool
  | [], topic => topic.isEmpty
  | level :: filter, topic =>
      if level = "#" then true
      else
        match topic with
        | [] => false
        | other :: topic =>
            (level == "+" || level == other) && levelsMatch filter topic

/-- The broker delivers messages on the topic to subscribers of the filter. -/
structure Matches (filter topic : String) : Prop where
  validFilter : ValidFilter filter
  validName : ValidName topic
  matched : levelsMatch (levels filter) (levels topic) = true
  reserved : topic.toList.head? = some '$' →
    (levels filter).head? ≠ some "+" ∧ (levels filter).head? ≠ some "#"

theorem levels_ne_nil (text : String) : levels text ≠ [] := by
  simp [levels, PyText.split, List.splitOn_ne_nil]

theorem intercalate_levels (text : String) :
    "/".intercalate (levels text) = text := by
  apply String.toList_injective
  rw [String.toList_intercalate, levels, PyText.split, List.map_map]
  have hsame : String.toList ∘ String.ofList = id :=
    funext fun chars => String.toList_ofList
  rw [hsame, List.map_id]
  exact List.intercalate_splitOn '/'

theorem levels_append (before after : String) :
    levels (before ++ "/" ++ after) = levels before ++ levels after := by
  have hchars : (before ++ "/" ++ after).toList =
      before.toList ++ '/' :: after.toList := by simp
  rw [levels, levels, levels, PyText.split, PyText.split, PyText.split, hchars,
    List.splitOn_append_cons_self, List.map_append]

theorem levels_eq_singleton {text : String} (hlevel : '/' ∉ text.toList) :
    levels text = [text] := by
  have hsplit : text.toList.splitOn '/' = [text.toList] := by
    rw [List.splitOn_eq_singleton]
    exact hlevel
  rw [levels, PyText.split, hsplit, List.map_singleton, String.ofList_toList]

theorem levels_intercalate {parts : List String} (hne : parts ≠ [])
    (hlevels : ∀ part ∈ parts, '/' ∉ part.toList) :
    levels ("/".intercalate parts) = parts := by
  induction parts with
  | nil => exact absurd rfl hne
  | cons part rest ih =>
      rw [List.forall_mem_cons] at hlevels
      by_cases hrest : rest = []
      · rw [hrest, String.intercalate_singleton,
          levels_eq_singleton hlevels.1]
      · rw [String.intercalate_cons_of_ne_nil hrest, levels_append,
          levels_eq_singleton hlevels.1, ih hrest hlevels.2]
        rfl

/-- Between separators stand the other characters. -/
theorem splitOn_spec (chars : List Char) :
    (∀ part ∈ chars.splitOn '/', '/' ∉ part) ∧
      ∀ c ≠ '/', c ∈ chars ↔ ∃ part ∈ chars.splitOn '/', c ∈ part := by
  induction chars with
  | nil => simp
  | cons first rest ih =>
      obtain ⟨hfree, hmem⟩ := ih
      rw [List.splitOn_cons_eq_if_modifyHead]
      by_cases hfirst : first = '/'
      · rw [if_pos (by simpa using hfirst)]
        refine ⟨by simpa using hfree, fun c hc => ?_⟩
        rw [List.mem_cons, hmem c hc, hfirst]
        simp [hc]
      · rw [if_neg (by simpa using hfirst)]
        obtain ⟨head, tail, hsplit⟩ :=
          List.exists_cons_of_ne_nil (List.splitOn_ne_nil '/' rest)
        rw [hsplit, List.forall_mem_cons] at hfree
        rw [hsplit, List.modifyHead_cons]
        constructor
        · rw [List.forall_mem_cons, List.mem_cons, not_or]
          exact ⟨⟨Ne.symm hfirst, hfree.1⟩, hfree.2⟩
        · intro c hc
          rw [List.mem_cons, hmem c hc, hsplit]
          simp [or_assoc]

theorem not_mem_of_mem_levels {text level : String}
    (hlevel : level ∈ levels text) : '/' ∉ level.toList := by
  obtain ⟨part, hpart, rfl⟩ := List.mem_map.mp hlevel
  rw [String.toList_ofList]
  exact (splitOn_spec text.toList).1 part hpart

/-- Every character but the separator belongs to a level. -/
theorem mem_toList_iff {c : Char} (hc : c ≠ '/') (text : String) :
    c ∈ text.toList ↔ ∃ level ∈ levels text, c ∈ level.toList := by
  rw [(splitOn_spec text.toList).2 c hc]
  simp [levels, PyText.split]

theorem levels_empty : levels "" = [""] :=
  levels_eq_singleton (by simp)

/-- A text is its levels. -/
theorem eq_of_levels {left right : String} (hlevels : levels left = levels right) :
    left = right := by
  rw [← intercalate_levels left, hlevels, intercalate_levels]

/-- What a text ends with after its last separator is its last level. -/
theorem endsWith_iff {last : String} (hlast : '/' ∉ last.toList)
    (text : String) :
    PyText.endsWith text ("/" ++ last) = true ↔
      ∃ front, front ≠ [] ∧ levels text = front ++ [last] := by
  rw [PyText.endsWith, List.isSuffixOf_iff_suffix]
  constructor
  · rintro ⟨before, hbefore⟩
    have htext : text = String.ofList before ++ "/" ++ last := by
      apply String.toList_injective
      rw [← hbefore]
      simp
    rw [htext, levels_append, levels_eq_singleton hlast]
    exact ⟨_, levels_ne_nil _, rfl⟩
  · rintro ⟨front, hfront, hlevels⟩
    have htext : text = "/".intercalate front ++ "/" ++ last := by
      rw [← intercalate_levels text, hlevels,
        String.intercalate_append_of_ne_nil hfront (List.cons_ne_nil _ _),
        String.intercalate_singleton]
    rw [htext]
    exact ⟨("/".intercalate front).toList, by simp⟩

/-- Without `#` a filter matches topics of as many levels, level by level. -/
theorem levelsMatch_iff {filter topic : List String} (hhash : "#" ∉ filter) :
    levelsMatch filter topic = true ↔
      List.Forall₂ (fun level other => level = "+" ∨ level = other) filter
        topic := by
  induction filter generalizing topic with
  | nil => cases topic <;> simp [levelsMatch]
  | cons level filter ih =>
      rw [List.mem_cons, not_or] at hhash
      cases topic with
      | nil => simp [levelsMatch, Ne.symm hhash.1]
      | cons other topic => simp [levelsMatch, Ne.symm hhash.1, ih hhash.2]

/-- The last levels match, and so do those before them. -/
theorem forall₂_concat_left {R : String → String → Prop} {front : List String}
    {last : String} {topic : List String} :
    List.Forall₂ R (front ++ [last]) topic →
      ∃ before other, topic = before ++ [other] ∧ List.Forall₂ R front before ∧
        R last other := by
  intro hmatched
  rw [← List.forall₂_reverse_iff, List.reverse_append,
    List.reverse_singleton, List.singleton_append,
    List.forall₂_cons_left_iff] at hmatched
  obtain ⟨other, before, hlast, hfront, htopic⟩ := hmatched
  refine ⟨before.reverse, other, ?_, ?_, hlast⟩
  · rw [← List.reverse_reverse topic, htopic, List.reverse_cons]
  · rwa [← List.forall₂_reverse_iff, List.reverse_reverse]

/-- A level that some topic has where the filter has its level. -/
def instantiate (level : String) : String :=
  if level = "+" ∨ level = "#" then "x" else level

theorem levelsMatch_instantiate (filter : List String) :
    levelsMatch filter (filter.map instantiate) = true := by
  induction filter with
  | nil => rfl
  | cons level filter ih =>
      rw [List.map_cons]
      by_cases hhash : level = "#"
      · simp [levelsMatch, hhash]
      · by_cases hplus : level = "+"
        · simp [levelsMatch, hplus, ih]
        · simp [levelsMatch, instantiate, hhash, hplus, ih]

theorem eq_of_instantiate {level other : String} (hother : other ≠ "x")
    (hsame : instantiate level = other) : level = other := by
  unfold instantiate at hsame
  by_cases hwild : level = "+" ∨ level = "#"
  · rw [if_pos hwild] at hsame
    exact absurd hsame.symm hother
  · rw [if_neg hwild] at hsame
    exact hsame

theorem ValidFilter.not_mem_instantiate {filter : String}
    (hvalid : ValidFilter filter) {level : String}
    (hlevel : level ∈ levels filter) :
    ∀ c ∈ ['+', '#', '/'], c ∉ (instantiate level).toList := by
  intro c hc hmem
  unfold instantiate at hmem
  by_cases hwild : level = "+" ∨ level = "#"
  · rw [if_pos hwild] at hmem
    simp only [String.reduceToList, List.mem_singleton] at hmem
    rw [hmem] at hc
    exact absurd hc (by decide)
  · rw [if_neg hwild] at hmem
    rw [not_or] at hwild
    simp only [List.mem_cons, List.not_mem_nil, or_false] at hc
    rcases hc with rfl | rfl | rfl
    · exact hwild.1 (hvalid.plus level hlevel hmem)
    · exact hwild.2 (hvalid.hash level hlevel hmem)
    · exact not_mem_of_mem_levels hlevel hmem

theorem prefix_of_levels {text first : String} {rest : List String}
    (hlevels : levels text = first :: rest) : first.toList <+: text.toList := by
  rw [← intercalate_levels text, hlevels]
  by_cases hrest : rest = []
  · simp [hrest]
  · rw [String.intercalate_cons_of_ne_nil hrest]
    exact ⟨("/" ++ "/".intercalate rest).toList, by simp⟩

/-- Every filter that can be subscribed to matches the topic that has an `x`
for each wildcard. -/
theorem ValidFilter.matches_instantiate {filter : String}
    (hvalid : ValidFilter filter) :
    ∃ topic, Matches filter topic ∧
      levels topic = (levels filter).map instantiate := by
  have hlevels : levels ("/".intercalate ((levels filter).map instantiate)) =
      (levels filter).map instantiate := by
    apply levels_intercalate
    · simpa using levels_ne_nil filter
    · intro part hpart
      obtain ⟨level, hlevel, rfl⟩ := List.mem_map.mp hpart
      exact hvalid.not_mem_instantiate hlevel '/' (by decide)
  generalize "/".intercalate ((levels filter).map instantiate) = topic at hlevels
  have hclean : ∀ c ∈ ['+', '#'], c ∉ topic.toList := by
    intro c hc hmem
    have hseparator : c ≠ '/' := by
      rintro rfl
      exact absurd hc (by decide)
    obtain ⟨part, hpart, hmem⟩ := (mem_toList_iff hseparator topic).mp hmem
    rw [hlevels] at hpart
    obtain ⟨level, hlevel, rfl⟩ := List.mem_map.mp hpart
    have hc : c ∈ ['+', '#', '/'] := by simp_all
    exact hvalid.not_mem_instantiate hlevel c hc hmem
  refine ⟨topic, ⟨hvalid, ⟨?_, hclean '+' (by decide), hclean '#' (by decide)⟩,
    ?_, ?_⟩, hlevels⟩
  · rintro rfl
    rw [levels_empty] at hlevels
    obtain ⟨level, hlevel, hempty⟩ := List.map_eq_singleton_iff.mp hlevels.symm
    obtain rfl := eq_of_instantiate (by decide) hempty
    exact hvalid.nonempty (eq_of_levels (hlevel.trans levels_empty.symm))
  · rw [hlevels]
    exact levelsMatch_instantiate _
  · intro hreserved
    cases hfilter : levels filter with
    | nil => simp
    | cons first rest =>
        have hfirst : first ≠ "+" ∧ first ≠ "#" := by
          rw [← not_or]
          intro hwild
          rw [hfilter, List.map_cons, instantiate, if_pos hwild] at hlevels
          obtain ⟨after, hafter⟩ := prefix_of_levels hlevels
          rw [← hafter] at hreserved
          simp at hreserved
        simpa using hfirst

end Topic

end Foundation
