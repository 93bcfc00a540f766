/-
What Python's `strip` does not see: whitespace around a text, and around the
first and the last part of one that is split.
-/
import TeslamateWatchdog.Foundation.PyText

namespace Foundation

namespace PyText

theorem strip_space_append {blank text : List Char}
    (hblank : ∀ c ∈ blank, isSpace c = true) :
    strip (String.ofList (blank ++ text)) = strip (String.ofList text) := by
  rw [strip, strip, String.toList_ofList, String.toList_ofList,
    List.dropWhile_append_of_pos hblank]

theorem strip_append_space {blank text : List Char}
    (hblank : ∀ c ∈ blank, isSpace c = true) :
    strip (String.ofList (text ++ blank)) = strip (String.ofList text) := by
  have hdrop : ∀ chars : List Char,
      (chars ++ blank).rdropWhile isSpace = chars.rdropWhile isSpace := by
    intro chars
    rw [List.rdropWhile, List.reverse_append, List.dropWhile_append_of_pos
      fun c hc => hblank c (List.mem_reverse.mp hc)]
    rfl
  rw [strip, strip, String.toList_ofList, String.toList_ofList,
    List.dropWhile_append]
  split
  · rename_i hempty
    rw [List.isEmpty_iff.mp hempty, List.dropWhile_eq_nil_iff.mpr hblank]
  · rw [hdrop]

/-- A text is what is left of it, between whitespace. -/
theorem exists_strip (text : String) : ∃ before after,
    text.toList = before ++ (strip text).toList ++ after ∧
      (∀ c ∈ before, isSpace c = true) ∧ ∀ c ∈ after, isSpace c = true := by
  refine ⟨text.toList.takeWhile isSpace,
    (text.toList.dropWhile isSpace).rtakeWhile isSpace, ?_, ?_, ?_⟩
  · rw [strip, String.toList_ofList, List.append_assoc,
      List.rdropWhile_append_rtakeWhile, List.takeWhile_append_dropWhile]
  · exact fun c hc => List.mem_takeWhile_imp hc
  · exact fun c hc => List.mem_rtakeWhile_imp hc

variable {separator : Char}

/-- Whitespace in front of a text is in front of its first part. -/
theorem strip_parts_prepend (hseparator : isSpace separator = false)
    {blank : List Char} (hblank : ∀ c ∈ blank, isSpace c = true)
    (text : List Char) :
    ((blank ++ text).splitOn separator).map (fun part =>
        strip (String.ofList part)) =
      (text.splitOn separator).map fun part => strip (String.ofList part) := by
  have hnot : separator ∉ blank := fun hmem => by
    rw [hblank _ hmem] at hseparator
    cases hseparator
  by_cases hmem : separator ∈ text
  · obtain ⟨first, rest, rfl, hfirst⟩ := List.eq_append_cons_of_mem hmem
    rw [← List.append_assoc, List.splitOn_append_cons_self_of_not_mem (by
        simp [hnot, hfirst]),
      List.splitOn_append_cons_self_of_not_mem hfirst, List.map_cons,
      List.map_cons, strip_space_append hblank]
  · have hwhole : separator ∉ blank ++ text := by simp [hnot, hmem]
    rw [List.splitOn_eq_singleton hwhole,
      List.splitOn_eq_singleton hmem, List.map_singleton,
      List.map_singleton, strip_space_append hblank]

/-- Whitespace after a text is after its last part. -/
theorem strip_parts_append (hseparator : isSpace separator = false)
    {blank : List Char} (hblank : ∀ c ∈ blank, isSpace c = true)
    (text : List Char) :
    ((text ++ blank).splitOn separator).map (fun part =>
        strip (String.ofList part)) =
      (text.splitOn separator).map fun part => strip (String.ofList part) := by
  have hnot : separator ∉ blank := fun hmem => by
    rw [hblank _ hmem] at hseparator
    cases hseparator
  induction hlength : text.length using Nat.strong_induction_on generalizing
    text with
  | h length ih =>
      by_cases hmem : separator ∈ text
      · obtain ⟨first, rest, rfl, hfirst⟩ := List.eq_append_cons_of_mem hmem
        have hshorter : rest.length < length := by
          rw [← hlength, List.length_append, List.length_cons]
          omega
        rw [List.append_assoc, List.cons_append,
          List.splitOn_append_cons_self_of_not_mem hfirst,
          List.splitOn_append_cons_self_of_not_mem hfirst, List.map_cons,
          List.map_cons, ih _ hshorter rest rfl]
      · have hwhole : separator ∉ text ++ blank := by simp [hnot, hmem]
        rw [List.splitOn_eq_singleton hwhole,
          List.splitOn_eq_singleton hmem, List.map_singleton,
          List.map_singleton, strip_append_space hblank]

/-- The parts of a text do not see the whitespace around it. -/
theorem map_strip_split (hseparator : isSpace separator = false)
    (text : String) :
    (PyText.split (strip text) separator).map strip =
      (PyText.split text separator).map strip := by
  obtain ⟨before, after, htext, hbefore, hafter⟩ := exists_strip text
  rw [PyText.split, PyText.split, List.map_map, List.map_map]
  have hparts := strip_parts_append hseparator hafter
    (before ++ (strip text).toList)
  rw [← htext, strip_parts_prepend hseparator hbefore] at hparts
  exact hparts.symm

theorem not_mem_of_mem_splitOn {chars part : List Char}
    (hpart : part ∈ chars.splitOn separator) : separator ∉ part := by
  induction chars generalizing part with
  | nil =>
      rw [List.splitOn_nil, List.mem_singleton] at hpart
      rw [hpart]
      exact List.not_mem_nil
  | cons first rest ih =>
      rw [List.splitOn_cons_eq_if_modifyHead] at hpart
      split at hpart
      · rcases List.mem_cons.mp hpart with rfl | hrest
        · exact List.not_mem_nil
        · exact ih hrest
      · rename_i hfirst
        obtain ⟨head, tail, hsplit⟩ :=
          List.exists_cons_of_ne_nil (List.splitOn_ne_nil separator rest)
        rw [hsplit] at ih hpart
        rcases List.mem_cons.mp hpart with rfl | htail
        · rw [List.mem_cons, not_or]
          exact ⟨fun heq => hfirst (beq_iff_eq.mpr heq.symm),
            ih List.mem_cons_self⟩
        · exact ih (List.mem_cons_of_mem head htail)

/-- Parts that are joined are split into the same parts. -/
theorem split_intercalate {parts : List String} (hne : parts ≠ [])
    (hparts : ∀ part ∈ parts, separator ∉ part.toList) :
    PyText.split ((String.singleton separator).intercalate parts) separator =
      parts := by
  have hsame : String.ofList ∘ String.toList = id :=
    funext fun text => String.ofList_toList
  rw [PyText.split, String.toList_intercalate, String.toList_singleton,
    List.splitOn_intercalate separator (by simpa using hparts)
      (by simpa using hne),
    List.map_map, hsame, List.map_id]

theorem toList_strip_within (text : String) :
    (strip text).toList <:+: text.toList := by
  obtain ⟨before, after, htext, -, -⟩ := exists_strip text
  exact ⟨before, after, htext.symm⟩

/-- Only whitespace strips to nothing. -/
theorem strip_ne_empty {text : String} {c : Char} (hc : isSpace c = false)
    (hmem : c ∈ text.toList) : strip text ≠ "" := by
  intro hempty
  obtain ⟨before, after, htext, hbefore, hafter⟩ := exists_strip text
  rw [hempty] at htext
  rw [htext] at hmem
  have hblank : isSpace c = true := by
    rcases List.mem_append.mp hmem with hfront | hback
    · rcases List.mem_append.mp hfront with hfront | hnone
      · exact hbefore c hfront
      · cases hnone
    · exact hafter c hback
  rw [hc] at hblank
  cases hblank

end PyText

end Foundation
