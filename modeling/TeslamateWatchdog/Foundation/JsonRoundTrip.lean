/-
What is written in any layout is read back, and no part of it that stops early
can be read at all.
-/
import TeslamateWatchdog.Foundation.JsonReader

namespace Foundation

namespace Json

mutual

/-- No object of the document has a key twice. -/
def Distinct : Json → Prop
  | .arr items => DistinctItems items
  | .obj members => (members.map Prod.fst).Nodup ∧ DistinctMembers members
  | _ => True

def DistinctItems : List Json → Prop
  | [] => True
  | item :: rest => item.Distinct ∧ DistinctItems rest

def DistinctMembers : List (String × Json) → Prop
  | [] => True
  | (_, value) :: rest => value.Distinct ∧ DistinctMembers rest

end

@[simp]
theorem distinct_null : Distinct .null := by
  simp [Distinct]

@[simp]
theorem distinct_bool (value : Bool) : Distinct (.bool value) := by
  simp [Distinct]

@[simp]
theorem distinct_int (value : Int) : Distinct (.int value) := by
  simp [Distinct]

@[simp]
theorem distinct_float (value : PyFloat) : Distinct (.float value) := by
  simp [Distinct]

@[simp]
theorem distinct_str (text : String) : Distinct (.str text) := by
  simp [Distinct]

theorem distinctItems_iff {items : List Json} :
    DistinctItems items ↔ ∀ item ∈ items, item.Distinct := by
  induction items with
  | nil => simp [DistinctItems]
  | cons item rest ih => rw [DistinctItems, ih, List.forall_mem_cons]

theorem distinctMembers_iff {members : List (String × Json)} :
    DistinctMembers members ↔ ∀ member ∈ members, member.2.Distinct := by
  induction members with
  | nil => simp [DistinctMembers]
  | cons member rest ih => rw [DistinctMembers, ih, List.forall_mem_cons]

theorem distinct_arr {items : List Json} :
    Distinct (.arr items) ↔ ∀ item ∈ items, item.Distinct := by
  rw [Distinct, distinctItems_iff]

theorem distinct_obj {members : List (String × Json)} :
    Distinct (.obj members) ↔ (members.map Prod.fst).Nodup ∧
      ∀ member ∈ members, member.2.Distinct := by
  rw [Distinct, distinctMembers_iff]

/-- A dictionary assigned member by member. -/
theorem distinct_ofMembers {members : List (String × Json)}
    (hmembers : ∀ member ∈ members, member.2.Distinct) :
    Distinct (.obj (Dict.ofMembers members)) :=
  distinct_obj.mpr ⟨Dict.nodup_ofMembers members,
    fun member hmember => hmembers member (Dict.mem_ofMembers hmember)⟩

/-- A piece is read as its entry, whatever comes after it. -/
def Writes {α : Type} (one : Reader α) (piece : List Char) (entry : α) : Prop :=
  ∀ tail, Stops tail → one (piece ++ tail) = some (entry, tail)

theorem stops_nil : Stops [] := by
  intro c hc
  cases hc

theorem stops_of_bracket {c : Char} (hc : c.isDigit = false ∧ c ∉ ['.', 'e', 'E'])
    {blank : List Char} (hblank : ∀ c ∈ blank, isBlank c = true)
    (hplain : isBlank c = false) (tail : List Char) :
    Stops (blank ++ c :: tail) := by
  have hskip : skipBlank (blank ++ [c]) = [c] := by
    rw [skipBlank_append_blank hblank, skipBlank_cons hplain]
  have hstops := stops_of_skipBlank hskip hc tail
  rwa [List.append_assoc, List.singleton_append] at hstops

section Brackets

variable {α : Type} {one : Reader α} {layout : Layout} {level fuel : Nat}
  {close : Char} {pieces : List (List Char)} {entries : List α}

/-- The pieces after the first, as a bracket has them. -/
def Layout.others (layout : Layout) (level : Nat) (close : Char)
    (pieces : List (List Char)) : List Char :=
  pieces.flatMap (fun other => ',' :: (layout.separated (level + 1) ++ other)) ++
    layout.closed level ++ [close]

theorem Layout.bracket_cons (piece : List Char) (left : Char) :
    layout.bracket level left close (piece :: pieces) =
      left :: (layout.opened (level + 1) ++ (piece ++
        layout.others level close pieces)) := by
  simp [Layout.bracket, Layout.others]

theorem Layout.others_cons (piece : List Char) :
    layout.others level close (piece :: pieces) =
      ',' :: (layout.separated (level + 1) ++ (piece ++
        layout.others level close pieces)) := by
  simp [Layout.others]

theorem not_blank_of_close (hclose : close ∈ [']', '\x7d']) :
    isBlank close = false ∧ close.isDigit = false ∧
      close ∉ ['.', 'e', 'E'] ∧ ',' ≠ close := by
  simp only [List.mem_cons, List.not_mem_nil, or_false] at hclose
  rcases hclose with rfl | rfl <;> decide

theorem stops_others (layout : Layout) (level : Nat)
    (pieces : List (List Char)) (hclose : close ∈ [']', '\x7d'])
    (tail : List Char) :
    Stops (layout.others level close pieces ++ tail) := by
  obtain ⟨hplain, hdigit, hmark, -⟩ := not_blank_of_close hclose
  cases pieces with
  | nil =>
      have hstops := stops_of_bracket ⟨hdigit, hmark⟩
        (layout.closed_blank level) hplain tail
      simpa [Layout.others] using hstops
  | cons piece rest =>
      rw [Layout.others_cons]
      intro c hc
      obtain rfl := Option.some.inj hc
      decide

/-- A piece comes first where whitespace and the piece do. -/
theorem skipBlank_piece (hone : Settled one) {piece blank tail : List Char}
    {entry : α} (hblank : ∀ c ∈ blank, isBlank c = true)
    (hread : one (piece ++ tail) = some (entry, tail)) :
    skipBlank (blank ++ (piece ++ tail)) = piece ++ tail ∧
      ∃ c rest, piece ++ tail = c :: rest ∧ c ∉ [']', '\x7d'] := by
  obtain ⟨c, rest, htext, hplain, hc⟩ := hone.begins hread
  rw [skipBlank_append_blank hblank, htext, skipBlank_cons hplain]
  exact ⟨rfl, c, rest, rfl, hc⟩

theorem readRest_others (hone : Settled one) (hclose : close ∈ [']', '\x7d'])
    (hwrites : List.Forall₂ (Writes one) pieces entries)
    (hfuel : pieces.length < fuel) (tail : List Char) :
    readRest one close fuel (layout.others level close pieces ++ tail) =
      some (entries, tail) := by
  obtain ⟨hplain, -, -, hcomma⟩ := not_blank_of_close hclose
  induction hwrites generalizing fuel with
  | nil =>
      obtain ⟨fuel, rfl⟩ : ∃ n, fuel = n + 1 :=
        Nat.exists_eq_add_of_le' (by omega)
      apply readRest_of_close
      rw [Layout.others, List.flatMap_nil, List.nil_append, List.append_assoc,
        skipBlank_append_blank (layout.closed_blank level)]
      exact skipBlank_cons hplain tail
  | @cons piece entry pieces entries hpiece hpieces ih =>
      rw [List.length_cons] at hfuel
      obtain ⟨fuel, rfl⟩ : ∃ n, fuel = n + 1 :=
        Nat.exists_eq_add_of_le' (by omega)
      have hread := hpiece _ (stops_others layout level pieces hclose tail)
      have hskip := (skipBlank_piece hone (layout.separated_blank (level + 1))
        hread).1
      rw [Layout.others_cons, List.cons_append, List.append_assoc,
        List.append_assoc]
      refine readRest_of_comma (skipBlank_cons (by decide) _) hcomma ?_
        (ih (by omega))
      rw [hskip]
      exact hread

/-- A bracket of pieces is read as the list of their entries. -/
theorem readList_bracket (hone : Settled one) (hclose : close ∈ [']', '\x7d'])
    (hwrites : List.Forall₂ (Writes one) pieces entries)
    (hfuel : pieces.length ≤ fuel) (left : Char) (tail : List Char) :
    ∃ text, layout.bracket level left close pieces ++ tail = left :: text ∧
      readList one close fuel text = some (entries, tail) := by
  obtain ⟨hplain, -, -, -⟩ := not_blank_of_close hclose
  cases hwrites with
  | nil =>
      exact ⟨close :: tail, rfl, readList_of_close (skipBlank_cons hplain tail)⟩
  | @cons piece entry pieces entries hpiece hpieces =>
      rw [List.length_cons] at hfuel
      have hread := hpiece _ (stops_others layout level pieces hclose tail)
      obtain ⟨hskip, c, rest, htext, hc⟩ := skipBlank_piece hone
        (layout.opened_blank (level + 1)) hread
      refine ⟨_, by rw [Layout.bracket_cons, List.cons_append], ?_⟩
      rw [htext] at hskip hread
      rw [List.append_assoc, List.append_assoc, htext]
      exact readList_of_entry hskip (fun heq => hc (heq ▸ hclose)) hread
        (readRest_others hone hclose hpieces (by omega) tail)

/-- The brackets take room besides the pieces. -/
theorem length_bracket (layout : Layout) (level : Nat) (left close : Char)
    (pieces : List (List Char)) :
    pieces.length < (layout.bracket level left close pieces).length ∧
      ∀ piece ∈ pieces,
        piece.length < (layout.bracket level left close pieces).length := by
  have hothers : ∀ rest : List (List Char),
      rest.length < (layout.others level close rest).length ∧
        ∀ piece ∈ rest,
          piece.length < (layout.others level close rest).length := by
    intro rest
    induction rest with
    | nil => simp [Layout.others]
    | cons piece rest ih =>
        rw [Layout.others_cons, List.forall_mem_cons]
        simp only [List.length_cons, List.length_append]
        refine ⟨by omega, by omega, fun other hother => ?_⟩
        have hlength := ih.2 other hother
        omega
  cases pieces with
  | nil => simp [Layout.bracket]
  | cons piece rest =>
      obtain ⟨hcount, hlength⟩ := hothers rest
      rw [Layout.bracket_cons, List.forall_mem_cons]
      simp only [List.length_cons, List.length_append]
      refine ⟨by omega, by omega, fun other hother => ?_⟩
      have hother := hlength other hother
      omega

end Brackets

section RoundTrip

variable (floats : FloatText) (layout : Layout)

theorem writes_literal {word : List Char} {value : Json}
    (hliteral : (word, value) ∈ literals) :
    Writes (readPlain floats) word value :=
  fun tail _ => readPlain_literal hliteral tail

theorem writes_numeral {text : List Char} {numeral : Numeral}
    (hscan : scanNumeral text = some (numeral, [])) :
    Writes (readPlain floats) text (numeral.read floats) := by
  intro tail hstops
  rw [readPlain_numeral (scanNumeral_append hscan hstops)]
  rfl

theorem writes_float (value : PyFloat) :
    Writes (readPlain floats) (writeFloat floats.toFloatRepr value)
      (.float value) := by
  cases value with
  | finite value =>
      obtain ⟨numeral, hscan, hparts⟩ := floats.scans value
      have htext := (scanNumeral_split hscan).1
      have hread : numeral.read floats = .float (.finite value) := by
        have hwhole : ¬(numeral.fraction = [] ∧ numeral.exponent = []) := by
          rintro ⟨hfraction, hexponent⟩
          rcases hparts with hpart | hpart
          · exact hpart hfraction
          · exact hpart hexponent
        have hvalue := floats.value_text value
        rw [htext, List.append_nil] at hvalue
        rw [Numeral.read, if_neg hwhole, hvalue]
      rw [← hread]
      exact writes_numeral floats hscan
  | posInf => exact writes_literal floats (@List.mem_of_getElem? _ _ 4 _ rfl)
  | negInf => exact writes_literal floats (@List.mem_of_getElem? _ _ 5 _ rfl)
  | nan => exact writes_literal floats (@List.mem_of_getElem? _ _ 3 _ rfl)

theorem writes_int (value : Int) :
    Writes (readPlain floats) (toString value).toList (.int value) := by
  have hwrites := writes_numeral floats (scanNumeral_int value)
  rwa [Numeral.read, if_pos ⟨rfl, rfl⟩, (scanWhole_int value).2] at hwrites

theorem writes_string (text : String) (fuel : Nat) :
    Writes (readValue floats (fuel + 1)) (quoted text) (.str text) := by
  intro tail _
  rw [quoted, List.cons_append, List.append_assoc]
  exact readValue_string (readString_escape text tail)

theorem Writes.member {one : Reader Json} {value : Json} {piece : List Char}
    (hone : Settled one) (hpiece : Writes one piece value) (key : String) :
    Writes (readMember one) (quoted key ++ ':' :: ' ' :: piece)
      (key, value) := by
  intro tail hstops
  have hread := hpiece tail hstops
  have hblank : ∀ c ∈ [' '], isBlank c = true := by simp [isBlank]
  have hskip := (skipBlank_piece hone hblank hread).1
  rw [quoted, List.append_assoc, List.cons_append, List.cons_append,
    List.append_assoc]
  refine readMember_of (readString_escape key _)
    (skipBlank_cons (by decide) _) ?_
  rw [← List.singleton_append, List.append_assoc, hskip]
  exact hread

theorem Writes.plain {value : Json} {piece : List Char}
    (hpiece : Writes (readPlain floats) piece value) (fuel : Nat) :
    Writes (readValue floats (fuel + 1)) piece value :=
  fun tail hstops => readValue_plain (hpiece tail hstops)

mutual

/-- What is written is read back, with fuel for what was written. -/
theorem writes_document (level fuel : Nat) : (document : Json) →
    document.Distinct →
    (write floats.toFloatRepr layout level document).length ≤ fuel →
    Writes (readValue floats (fuel + 1))
      (write floats.toFloatRepr layout level document) document
  | .null, _, _ => by
      rw [write]
      exact Writes.plain floats (writes_literal floats (by simp [literals])) fuel
  | .bool true, _, _ => by
      rw [write]
      exact Writes.plain floats (writes_literal floats (by simp [literals])) fuel
  | .bool false, _, _ => by
      rw [write]
      exact Writes.plain floats (writes_literal floats (by simp [literals])) fuel
  | .int value, _, _ => by
      rw [write]
      exact Writes.plain floats (writes_int floats value) fuel
  | .float value, _, _ => by
      rw [write]
      exact Writes.plain floats (writes_float floats value) fuel
  | .str text, _, _ => by
      rw [write]
      exact writes_string floats text fuel
  | .arr items, hdistinct, hlength => by
      rw [write] at hlength ⊢
      rw [Distinct] at hdistinct
      obtain ⟨hcount, hpieces⟩ := length_bracket layout level '[' ']'
        (writeItems floats.toFloatRepr layout (level + 1) items)
      obtain ⟨fuel, rfl⟩ : ∃ n, fuel = n + 1 :=
        Nat.exists_eq_add_of_le' (by omega)
      have hitems := writes_items (level + 1) fuel items hdistinct
        fun piece hpiece => by have := hpieces piece hpiece; omega
      intro tail _
      obtain ⟨text, htext, hread⟩ := @readList_bracket _ _ layout level
        (fuel + 1) ']' _ _ (Settled.document floats (fuel + 1)) (by decide)
        hitems (by omega) '[' tail
      rw [htext]
      exact readValue_list hread
  | .obj members, hdistinct, hlength => by
      rw [write] at hlength ⊢
      rw [Distinct] at hdistinct
      obtain ⟨hcount, hpieces⟩ := length_bracket layout level '\x7b' '\x7d'
        (writeMembers floats.toFloatRepr layout (level + 1) members)
      obtain ⟨fuel, rfl⟩ : ∃ n, fuel = n + 1 :=
        Nat.exists_eq_add_of_le' (by omega)
      have hmembers := writes_members (level + 1) fuel members hdistinct.2
        fun piece hpiece => by have := hpieces piece hpiece; omega
      intro tail _
      obtain ⟨text, htext, hread⟩ := @readList_bracket _ _ layout level
        (fuel + 1) '\x7d' _ _ (Settled.document floats (fuel + 1)).member
        (by decide) hmembers (by omega) '\x7b' tail
      rw [htext, readValue_object hread, Dict.ofMembers_of_nodup hdistinct.1]

theorem writes_items (level fuel : Nat) : (items : List Json) →
    DistinctItems items →
    (∀ piece ∈ writeItems floats.toFloatRepr layout level items,
      piece.length ≤ fuel) →
    List.Forall₂ (Writes (readValue floats (fuel + 1)))
      (writeItems floats.toFloatRepr layout level items) items
  | [], _, _ => by
      rw [writeItems]
      exact .nil
  | item :: rest, hdistinct, hlength => by
      rw [writeItems] at hlength ⊢
      rw [DistinctItems] at hdistinct
      rw [List.forall_mem_cons] at hlength
      exact .cons (writes_document level fuel item hdistinct.1 hlength.1)
        (writes_items level fuel rest hdistinct.2 hlength.2)

theorem writes_members (level fuel : Nat) :
    (members : List (String × Json)) → DistinctMembers members →
    (∀ piece ∈ writeMembers floats.toFloatRepr layout level members,
      piece.length ≤ fuel) →
    List.Forall₂ (Writes (readMember (readValue floats (fuel + 1))))
      (writeMembers floats.toFloatRepr layout level members) members
  | [], _, _ => by
      rw [writeMembers]
      exact .nil
  | (key, value) :: rest, hdistinct, hlength => by
      rw [writeMembers] at hlength ⊢
      rw [DistinctMembers] at hdistinct
      rw [List.forall_mem_cons] at hlength
      obtain ⟨hfirst, hrest⟩ := hlength
      simp only [List.length_append, List.length_cons] at hfirst
      have hvalue := writes_document level fuel value hdistinct.1 (by omega)
      exact .cons (hvalue.member (Settled.document floats (fuel + 1)) key)
        (writes_members level fuel rest hdistinct.2 hrest)

end

variable {floats layout} {level : Nat} {document : Json} {text more : List Char}

theorem loads_write (hdistinct : document.Distinct) :
    loads floats (write floats.toFloatRepr layout level document) =
      some document := by
  have hwrites := writes_document floats layout level _ document hdistinct
    (Nat.le_refl _) [] stops_nil
  rw [List.append_nil] at hwrites
  obtain ⟨c, rest, htext, hplain, -⟩ := (Settled.document _ _).begins hwrites
  have hskip : skipBlank (write floats.toFloatRepr layout level document) =
      write floats.toFloatRepr layout level document := by
    rw [htext, skipBlank_cons hplain]
  rw [loads, hskip, hwrites]
  exact if_pos rfl

theorem loads_dumps (hdistinct : document.Distinct) :
    loads floats (dumps floats.toFloatRepr document).toList = some document := by
  rw [dumps_eq_write]
  exact loads_write hdistinct

theorem loads_dumpsCompact (hdistinct : document.Distinct) :
    loads floats (dumpsCompact floats.toFloatRepr document).toList =
      some document := by
  rw [dumpsCompact, String.toList_ofList]
  exact loads_write hdistinct

/-- A document that has an end of its own. -/
def Enclosed : Json → Prop
  | .str _ => True
  | .arr _ => True
  | .obj _ => True
  | _ => False

theorem Enclosed.begins (henclosed : document.Enclosed) :
    ∃ c rest, write floats.toFloatRepr layout level document = c :: rest ∧
      c ∈ ['"', '[', '\x7b'] := by
  have hbracket : ∀ (left right : Char) (pieces : List (List Char)),
      ∃ rest, layout.bracket level left right pieces = left :: rest := by
    intro left right pieces
    cases pieces with
    | nil => exact ⟨_, rfl⟩
    | cons piece pieces => exact ⟨_, rfl⟩
  cases document with
  | str text =>
      rw [write]
      exact ⟨_, _, rfl, by decide⟩
  | arr items =>
      rw [write]
      obtain ⟨rest, hrest⟩ := hbracket '[' ']' _
      exact ⟨_, rest, hrest, by decide⟩
  | obj members =>
      rw [write]
      obtain ⟨rest, hrest⟩ := hbracket '\x7b' '\x7d' _
      exact ⟨_, rest, hrest, by decide⟩
  | _ => cases henclosed

/-- A value with an end of its own is read the same whatever comes next. -/
theorem readValue_append {c : Char} {fuel : Nat} {value : Json}
    {text rest : List Char} (hc : c ∈ ['"', '[', '\x7b'])
    (hread : readValue floats (fuel + 1) (c :: text) = some (value, rest))
    (more : List Char) :
    readValue floats (fuel + 1) (c :: text ++ more) =
      some (value, rest ++ more) := by
  rcases readValue_cases hread with ⟨after, string, htext, rfl, hstring⟩ |
    ⟨after, items, htext, rfl, hitems⟩ |
    ⟨after, members, htext, rfl, hmembers⟩ | hplain
  · rw [htext]
    exact readValue_string (readString_append hstring more).1
  · rw [htext]
    exact readValue_list
      (readList_append (Settled.document floats fuel) (by decide) hitems more).1
  · rw [htext]
    exact readValue_object (readList_append
      (Settled.document floats fuel).member (by decide) hmembers more).1
  · obtain ⟨first, tail, heq, -, hfirst⟩ := begins_of_readPlain hplain
    obtain ⟨rfl, -⟩ := List.cons.inj heq
    refine absurd ?_ hfirst
    simp only [List.mem_cons, List.not_mem_nil, or_false] at hc
    rcases hc with rfl | rfl | rfl <;> decide

/-- What is written can be read only when it is there to its end. -/
theorem loads_of_front (hdistinct : document.Distinct)
    (henclosed : document.Enclosed)
    (hsplit : text ++ more = write floats.toFloatRepr layout level document)
    (hmore : more ≠ []) : loads floats text = none := by
  cases text with
  | nil => rfl
  | cons c rest =>
      obtain ⟨first, others, hfirst, hc⟩ :=
        @Enclosed.begins floats layout level document henclosed
      obtain rfl : c = first := by
        rw [hfirst] at hsplit
        exact (List.cons.inj hsplit).1
      have hplain : isBlank c = false := by
        simp only [List.mem_cons, List.not_mem_nil, or_false] at hc
        rcases hc with rfl | rfl | rfl <;> decide
      rw [loads, skipBlank_cons hplain]
      cases hread : readValue floats ((c :: rest).length + 1) (c :: rest) with
      | none => rfl
      | some read =>
          obtain ⟨value, left⟩ := read
          -- The whole text would be read to the same place, which is not its end.
          have hwhole := readValue_append hc hread more
          rw [hsplit] at hwhole
          have hagain := Covers.document floats _
            ((write floats.toFloatRepr layout level document).length + 1) _ _ _
            hwhole (by omega)
          have hwrites := writes_document floats layout level _ document
            hdistinct (Nat.le_refl _) [] stops_nil
          rw [List.append_nil, hagain] at hwrites
          obtain ⟨-, hend⟩ := Prod.mk.inj (Option.some.inj hwrites)
          exact absurd (List.append_eq_nil_iff.mp hend).2 hmore

end RoundTrip

end Json

end Foundation
