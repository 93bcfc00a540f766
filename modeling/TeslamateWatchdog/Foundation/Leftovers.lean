/-
What several substitutions, one after the other, leave of a text: the parts
that are kept between their marks, the matches that are found, and that doing
it again changes nothing.
-/
import TeslamateWatchdog.Foundation.Pieces

namespace Foundation

namespace Substitution

/-- The stretches of a text around its matches. -/
def parts (word : Char → Bool) (s : Substitution) (part : Part) : List Part :=
  (s.cut word part).1 :: (s.cut word part).2.map Prod.snd

/-- What one substitution after the other makes of a text, in parts of the
text and marks. -/
def piecesAll (word : Char → Bool) : List Substitution → Part → List Piece
  | [], part => [.kept part]
  | s :: rest, part =>
      piecesAll word rest (s.cut word part).1 ++
        (s.cut word part).2.flatMap fun next =>
          .mark s.mark :: piecesAll word rest next.2

/-- The matches that all of them find. -/
def foundAll (word : Char → Bool) : List Substitution → Part → List Found
  | [], _ => []
  | s :: rest, part =>
      (s.cut word part).2.map Prod.fst ++
        (s.parts word part).flatMap (foundAll word rest)

/-- Two quiet texts stay quiet on the two sides of the mark. -/
def KeepsQuiet (word : Char → Bool) (s : Substitution) (mark : List Char) : Prop :=
  ∀ front back, s.Quiet word false front → s.Quiet word false back →
    s.Quiet word false (front ++ (mark ++ back))

section One

variable {word p : Char → Bool} {bound : Nat} {s t : Substitution}

theorem cutFrom_chars (skip : Nat) (afterWord : Bool) (place : Nat)
    (text : List Char) :
    s.subFrom word skip afterWord text =
      (s.cutFrom word skip afterWord place text).1.chars ++
        (s.cutFrom word skip afterWord place text).2.flatMap fun next =>
          s.mark ++ next.2.chars := by
  induction text generalizing skip afterWord place with
  | nil => rw [subFrom, cutFrom]; rfl
  | cons c rest ih =>
      cases skip with
      | succ skip =>
          rw [subFrom, cutFrom]
          exact ih skip (word c) (place + 1)
      | zero =>
          rw [subFrom, cutFrom]
          cases s.find word afterWord (c :: rest) with
          | none => exact congrArg (c :: ·) (ih 0 (word c) (place + 1))
          | some finish =>
              dsimp only
              rw [ih _ _ (place + 1), List.flatMap_cons]
              simp only [List.append_assoc]

/-- The substitution puts its marks between the stretches. -/
theorem sub_eq_cut (part : Part) :
    s.sub word part.chars = (s.cut word part).1.chars ++
      (s.cut word part).2.flatMap fun next => s.mark ++ next.2.chars :=
  cutFrom_chars 0 false part.place part.chars

theorem cuts_cut (htidy : s.Tidy word p bound) (part : Part) :
    Cuts word p bound s false part.place part.chars (s.cut word part).1
      (s.cut word part).2 := by
  have hcuts := @cuts_cutFrom word p bound s htidy part.chars 0 false
    part.place (Nat.zero_le _)
  rwa [List.take_zero, List.drop_zero, Nat.add_zero] at hcuts

theorem within_of_mem_cut (htidy : s.Tidy word p bound) {part : Part} :
    ∀ next ∈ (s.cut word part).2, next.1.part.Within part :=
  fun next hnext => ((cuts_cut htidy part).others_within next hnext).1

theorem within_of_mem_parts (htidy : s.Tidy word p bound) {part stretch : Part}
    (hstretch : stretch ∈ s.parts word part) : stretch.Within part := by
  have hcuts := cuts_cut htidy part
  rcases List.mem_cons.mp hstretch with rfl | hlater
  · obtain ⟨after, hafter⟩ := hcuts.first_within
    exact ⟨[], after, hafter, hcuts.place_eq⟩
  · obtain ⟨next, hnext, rfl⟩ := List.mem_map.mp hlater
    exact (hcuts.others_within next hnext).2

/-- A stretch begins the text, or is what a match ends before. -/
theorem place_of_mem_parts (htidy : s.Tidy word p bound) {part stretch : Part}
    (hstretch : stretch ∈ s.parts word part) :
    stretch.place = part.place ∨
      (∃ next ∈ (s.cut word part).2, next.1.part.stop = stretch.place) ∧
        ∀ c ∈ stretch.chars.head?, p c = false := by
  have hcuts := cuts_cut htidy part
  rcases List.mem_cons.mp hstretch with rfl | hlater
  · exact .inl hcuts.place_eq
  · obtain ⟨next, hnext, rfl⟩ := List.mem_map.mp hlater
    exact .inr ⟨⟨next, hnext, (hcuts.found_derives next hnext).2⟩,
      (hcuts.quiet_others htidy next hnext).2⟩

theorem quiet_of_mem_parts (htidy : s.Tidy word p bound) {part stretch : Part}
    (hstretch : stretch ∈ s.parts word part) :
    s.Quiet word false stretch.chars := by
  have hcuts := cuts_cut htidy part
  rcases List.mem_cons.mp hstretch with rfl | hlater
  · exact hcuts.quiet_first
  · obtain ⟨next, hnext, rfl⟩ := List.mem_map.mp hlater
    exact (hcuts.quiet_others htidy next hnext).1

/-- What is quiet stays so where it is cut at the matches of another. -/
theorem Quiet.part (htidy : s.Tidy word p bound)
    (hother : t.Tidy word p bound) {part stretch : Part}
    (hquiet : t.Quiet word false part.chars)
    (hstretch : stretch ∈ s.parts word part) :
    t.Quiet word false stretch.chars := by
  obtain ⟨before, after, hchars, hplace⟩ := within_of_mem_parts htidy hstretch
  rw [hchars] at hquiet
  have hhere := hquiet.right.left hother.settled
  rcases place_of_mem_parts htidy hstretch with hsame | ⟨_, hhead⟩
  · obtain rfl : before = [] := List.length_eq_zero_iff.mp (by omega)
    exact hhere
  · exact hhere.fresh hother hhead

theorem quiet_pieces (hmark : t.KeepsQuiet word s.mark) {first : List Char}
    {others : List (Found × Part)} (hfirst : t.Quiet word false first)
    (hothers : ∀ next ∈ others, t.Quiet word false next.2.chars) :
    t.Quiet word false
      (first ++ others.flatMap fun next => s.mark ++ next.2.chars) := by
  induction others generalizing first with
  | nil =>
      rw [List.flatMap_nil, List.append_nil]
      exact hfirst
  | cons head rest ih =>
      rw [List.forall_mem_cons] at hothers
      rw [List.flatMap_cons, List.append_assoc]
      exact hmark _ _ hfirst (ih hothers.1 hothers.2)

/-- After a substitution, a text is as quiet as its stretches. -/
theorem quiet_sub (hmark : t.KeepsQuiet word s.mark) {part : Part}
    (hparts : ∀ stretch ∈ s.parts word part,
      t.Quiet word false stretch.chars) :
    t.Quiet word false (s.sub word part.chars) := by
  rw [parts, List.forall_mem_cons] at hparts
  rw [sub_eq_cut]
  exact quiet_pieces hmark hparts.1 fun next hnext =>
    hparts.2 next.2 (List.mem_map_of_mem hnext)

theorem Chain.pairwise {first : Part} {others : List (Found × Part)}
    {last : Nat} (hchain : Chain first.stop others last) :
    (first :: others.map Prod.snd).Pairwise fun earlier later =>
      earlier.stop ≤ later.place := by
  induction others generalizing first with
  | nil => exact List.pairwise_singleton _ _
  | cons head rest ih =>
      have hlater := hchain.le
      obtain ⟨_, _, _, hrest⟩ := hchain
      refine List.pairwise_cons.mpr ⟨fun part hpart => ?_, ih hrest⟩
      obtain ⟨next, hnext, rfl⟩ := List.mem_map.mp hpart
      exact (hlater next hnext).2.le

/-- Two stretches are the same, or one ends where or before the other
begins. -/
theorem apart_of_mem_parts (htidy : s.Tidy word p bound)
    {part stretch other : Part} (hstretch : stretch ∈ s.parts word part)
    (hother : other ∈ s.parts word part) :
    stretch = other ∨ stretch.stop ≤ other.place ∨
      other.stop ≤ stretch.place := by
  have hpairs := (cuts_cut htidy part).chain.pairwise
  refine List.Pairwise.forall_of_forall_of_flip
    (R := fun earlier later => earlier = later ∨
      earlier.stop ≤ later.place ∨ later.stop ≤ earlier.place)
    (fun _ _ => .inl rfl) (hpairs.imp ?_) (hpairs.imp ?_) hstretch hother
  · exact fun hbefore => .inr (.inl hbefore)
  · exact fun hbefore => .inr (.inr hbefore)

theorem parts_cover_iff (htidy : s.Tidy word p bound) {part : Part}
    {start finish : Nat} (hcovers : part.Covers start finish) :
    (∃ stretch ∈ s.parts word part, stretch.Covers start finish) ↔
      ∀ next ∈ (s.cut word part).2, ¬ next.1.Hides start finish := by
  have hcuts := cuts_cut htidy part
  have hstart : (s.cut word part).1.place ≤ start :=
    hcuts.place_eq.trans_le hcovers.1
  exact hcuts.chain.stretch_covers_iff hstart hcovers.2

/-- A mark whose ends no match goes over; what stands before its first end
ends no match. -/
theorem keepsQuiet_of_fenced {lead name : List Char} {opening closing : Char}
    (hopening : word opening = false) (hclosing : word closing = false)
    (havoids : t.pattern.Avoids opening ∧ t.pattern.Avoids closing)
    (hsettled : t.pattern.Settled = true) (hlonger : 1 < t.pattern.shortest)
    (hlead : ∀ c ∈ lead, ∀ taken, ¬ t.pattern.Derives (taken ++ [c]))
    (hname : t.Quiet word false name) :
    t.KeepsQuiet word (lead ++ opening :: (name ++ [closing])) := by
  intro front back hfront hback
  have hbefore : t.Quiet word false (front ++ lead) := by
    clear hname hback
    induction lead generalizing front with
    | nil =>
        rw [List.append_nil]
        exact hfront
    | cons c lead ih =>
        rw [List.forall_mem_cons] at hlead
        rw [List.append_cons]
        exact ih hlead.2 _ (hfront.concat hsettled hlonger hlead.1)
  have hassoc : front ++ ((lead ++ opening :: (name ++ [closing])) ++ back) =
      (front ++ lead) ++ opening :: (name ++ closing :: back) := by
    simp
  have hshortest : 0 < t.pattern.shortest := Nat.zero_lt_of_lt hlonger
  rw [hassoc, quiet_append_cons hopening havoids.1 hshortest,
    quiet_append_cons hclosing havoids.2 hshortest]
  exact ⟨hbefore, hname, hback⟩

end One

section All

variable {word p : Char → Bool} {bound : Nat}
  {substitutions : List Substitution} {part : Part}

/-- The parts and marks, in a row, are the text the substitutions make. -/
theorem piecesAll_chars (hleaves : substitutions.Pairwise
    fun earlier later => later.Leaves word earlier.mark) (part : Part) :
    (piecesAll word substitutions part).flatMap Piece.chars =
      applyAll word substitutions part.chars := by
  induction substitutions generalizing part with
  | nil => simp [piecesAll, applyAll, Piece.chars]
  | cons s rest ih =>
      rw [List.pairwise_cons] at hleaves
      have hmark := applyAll_mark hleaves.1
      have hothers : ∀ (first : List Char) (others : List (Found × Part)),
          applyAll word rest (first ++ others.flatMap fun next =>
            s.mark ++ next.2.chars) =
          applyAll word rest first ++ others.flatMap fun next =>
            s.mark ++ applyAll word rest next.2.chars := by
        intro first others
        induction others generalizing first with
        | nil => simp
        | cons head others ihOthers =>
            rw [List.flatMap_cons, List.append_assoc, hmark, ihOthers,
              List.flatMap_cons, List.append_assoc]
      have happly : applyAll word (s :: rest) part.chars =
          applyAll word rest (s.sub word part.chars) := rfl
      rw [happly, sub_eq_cut, hothers, piecesAll, List.flatMap_append,
        ih hleaves.2, List.flatMap_assoc]
      congr 2
      funext next
      rw [List.flatMap_cons, ih hleaves.2, Piece.chars]

theorem kept_mem_piecesAll {s : Substitution} {rest : List Substitution}
    {kept : Part} :
    .kept kept ∈ piecesAll word (s :: rest) part ↔
      ∃ stretch ∈ s.parts word part,
        .kept kept ∈ piecesAll word rest stretch := by
  rw [piecesAll, parts, List.mem_append, List.mem_flatMap,
    List.exists_mem_cons_iff]
  refine or_congr_right ⟨?_, ?_⟩
  · rintro ⟨next, hnext, hkept⟩
    exact ⟨next.2, List.mem_map_of_mem hnext, by simpa using hkept⟩
  · rintro ⟨stretch, hstretch, hkept⟩
    obtain ⟨next, hnext, rfl⟩ := List.mem_map.mp hstretch
    exact ⟨next, hnext, List.mem_cons_of_mem _ hkept⟩

theorem mem_foundAll {s : Substitution} {rest : List Substitution}
    {found : Found} :
    found ∈ foundAll word (s :: rest) part ↔
      (∃ next ∈ (s.cut word part).2, next.1 = found) ∨
        ∃ stretch ∈ s.parts word part, found ∈ foundAll word rest stretch := by
  rw [foundAll, List.mem_append, List.mem_map, List.mem_flatMap]

theorem within_of_kept (htidy : ∀ s ∈ substitutions, s.Tidy word p bound)
    {kept : Part} (hkept : .kept kept ∈ piecesAll word substitutions part) :
    kept.Within part := by
  induction substitutions generalizing part with
  | nil =>
      obtain rfl : kept = part := by simpa [piecesAll] using hkept
      exact Part.within_refl kept
  | cons s rest ih =>
      rw [List.forall_mem_cons] at htidy
      obtain ⟨stretch, hstretch, hkept⟩ := kept_mem_piecesAll.mp hkept
      exact (ih htidy.2 hkept).trans (within_of_mem_parts htidy.1 hstretch)

/-- What is found is a text of one of the patterns, inside the text. -/
theorem derives_of_found (htidy : ∀ s ∈ substitutions, s.Tidy word p bound)
    {found : Found} (hfound : found ∈ foundAll word substitutions part) :
    found.part.Within part ∧
      ∃ s ∈ substitutions, s.pattern.Derives found.part.chars := by
  induction substitutions generalizing part with
  | nil => cases hfound
  | cons s rest ih =>
      rw [List.forall_mem_cons] at htidy
      rcases mem_foundAll.mp hfound with
        ⟨next, hnext, rfl⟩ | ⟨stretch, hstretch, hfound⟩
      · exact ⟨within_of_mem_cut htidy.1 next hnext, s, List.mem_cons_self,
          ((cuts_cut htidy.1 part).found_derives next hnext).1⟩
      · obtain ⟨hwithin, t, ht, hderives⟩ := ih htidy.2 hfound
        exact ⟨hwithin.trans (within_of_mem_parts htidy.1 hstretch), t,
          List.mem_cons_of_mem _ ht, hderives⟩

/-- A part that is kept begins the text, or is what a match ends before. -/
theorem place_of_kept (htidy : ∀ s ∈ substitutions, s.Tidy word p bound)
    {kept : Part} (hkept : .kept kept ∈ piecesAll word substitutions part) :
    kept.place = part.place ∨
      ∃ found ∈ foundAll word substitutions part,
        found.part.stop = kept.place := by
  induction substitutions generalizing part with
  | nil =>
      obtain rfl : kept = part := by simpa [piecesAll] using hkept
      exact .inl rfl
  | cons s rest ih =>
      rw [List.forall_mem_cons] at htidy
      obtain ⟨stretch, hstretch, hkept⟩ := kept_mem_piecesAll.mp hkept
      rcases ih htidy.2 hkept with hsame | ⟨found, hfound, hstop⟩
      · rcases place_of_mem_parts htidy.1 hstretch with
          hfirst | ⟨⟨next, hnext, hstop⟩, _⟩
        · exact .inl (hsame.trans hfirst)
        · exact .inr ⟨next.1, mem_foundAll.mpr (.inl ⟨next, hnext, rfl⟩),
            hstop.trans hsame.symm⟩
      · exact .inr ⟨found, mem_foundAll.mpr (.inr ⟨stretch, hstretch, hfound⟩),
          hstop⟩

theorem Quiet.kept {t : Substitution} (hother : t.Tidy word p bound)
    (htidy : ∀ s ∈ substitutions, s.Tidy word p bound)
    (hquiet : t.Quiet word false part.chars) {kept : Part}
    (hkept : .kept kept ∈ piecesAll word substitutions part) :
    t.Quiet word false kept.chars := by
  induction substitutions generalizing part with
  | nil =>
      obtain rfl : kept = part := by simpa [piecesAll] using hkept
      exact hquiet
  | cons s rest ih =>
      rw [List.forall_mem_cons] at htidy
      obtain ⟨stretch, hstretch, hkept⟩ := kept_mem_piecesAll.mp hkept
      exact ih htidy.2 (hquiet.part htidy.1 hother hstretch) hkept

/-- None of the substitutions has a match in a part that is kept. -/
theorem quiet_of_kept (htidy : ∀ s ∈ substitutions, s.Tidy word p bound)
    {kept : Part} (hkept : .kept kept ∈ piecesAll word substitutions part) :
    ∀ s ∈ substitutions, s.Quiet word false kept.chars := by
  induction substitutions generalizing part with
  | nil => exact fun s hs => by cases hs
  | cons s rest ih =>
      rw [List.forall_mem_cons] at htidy ⊢
      obtain ⟨stretch, hstretch, hkept⟩ := kept_mem_piecesAll.mp hkept
      exact ⟨(quiet_of_mem_parts htidy.1 hstretch).kept htidy.1 htidy.2 hkept,
        ih htidy.2 hkept⟩

/-- What lies between two places is kept as a whole exactly when no match
hides any of it. -/
theorem kept_iff (htidy : ∀ s ∈ substitutions, s.Tidy word p bound)
    {start finish : Nat} (hcovers : part.Covers start finish) :
    (∃ kept, .kept kept ∈ piecesAll word substitutions part ∧
        kept.Covers start finish) ↔
      ∀ found ∈ foundAll word substitutions part,
        ¬ found.Hides start finish := by
  induction substitutions generalizing part with
  | nil =>
      refine iff_of_true ⟨part, ?_, hcovers⟩ (fun found hfound => by cases hfound)
      simp [piecesAll]
  | cons s rest ih =>
      rw [List.forall_mem_cons] at htidy
      have hcut := parts_cover_iff htidy.1 hcovers
      constructor
      · rintro ⟨kept, hkept, hcovered⟩ found hfound hhides
        obtain ⟨stretch, hstretch, hkept⟩ := kept_mem_piecesAll.mp hkept
        have hinside := (within_of_kept htidy.2 hkept).bounds
        have hwhole : stretch.Covers start finish :=
          ⟨hinside.1.trans hcovered.1, hcovered.2.trans hinside.2⟩
        rcases mem_foundAll.mp hfound with
          ⟨next, hnext, rfl⟩ | ⟨other, hother, hfound⟩
        · exact hcut.mp ⟨stretch, hstretch, hwhole⟩ next hnext hhides
        · rcases apart_of_mem_parts htidy.1 hstretch hother with
            rfl | hbefore | hafter
          · exact (ih htidy.2 hwhole).mp ⟨kept, hkept, hcovered⟩ found hfound
              hhides
          · have hplace := (derives_of_found htidy.2 hfound).1.bounds.1
            have hhidden := hhides.1
            have hstop := hwhole.2
            omega
          · have hplace := (derives_of_found htidy.2 hfound).1.bounds.2
            have hhidden := hhides.2
            have hstart := hwhole.1
            omega
      · intro hclear
        obtain ⟨stretch, hstretch, hwhole⟩ := hcut.mpr fun next hnext =>
          hclear next.1 (mem_foundAll.mpr (.inl ⟨next, hnext, rfl⟩))
        obtain ⟨kept, hkept, hcovered⟩ := (ih htidy.2 hwhole).mpr
          fun found hfound => hclear found
            (mem_foundAll.mpr (.inr ⟨stretch, hstretch, hfound⟩))
        exact ⟨kept, kept_mem_piecesAll.mpr ⟨stretch, hstretch, hkept⟩, hcovered⟩

theorem applyAll_of_quiet {text : List Char}
    (hquiet : ∀ s ∈ substitutions, s.Quiet word false text) :
    applyAll word substitutions text = text := by
  induction substitutions with
  | nil => rfl
  | cons s rest ih =>
      rw [List.forall_mem_cons] at hquiet
      have happly : applyAll word (s :: rest) text =
          applyAll word rest (s.sub word text) := rfl
      rw [happly, hquiet.1.sub_eq, ih hquiet.2]

theorem Quiet.applyAll {t : Substitution} (hother : t.Tidy word p bound)
    (htidy : ∀ s ∈ substitutions, s.Tidy word p bound)
    (hmarks : ∀ s ∈ substitutions, t.KeepsQuiet word s.mark) {text : List Char}
    (hquiet : t.Quiet word false text) :
    t.Quiet word false (applyAll word substitutions text) := by
  induction substitutions generalizing text with
  | nil => exact hquiet
  | cons s rest ih =>
      rw [List.forall_mem_cons] at htidy hmarks
      apply ih htidy.2 hmarks.2
      exact @quiet_sub word s t hmarks.1 ⟨0, text⟩ fun stretch hstretch =>
        Quiet.part htidy.1 hother hquiet hstretch

theorem quiet_applyAll (htidy : ∀ s ∈ substitutions, s.Tidy word p bound)
    (hmarks : ∀ t ∈ substitutions, ∀ s ∈ substitutions,
      t.KeepsQuiet word s.mark) (text : List Char) :
    ∀ t ∈ substitutions, t.Quiet word false
      (applyAll word substitutions text) := by
  induction substitutions generalizing text with
  | nil => exact fun t ht => by cases ht
  | cons s rest ih =>
      rw [List.forall_mem_cons] at htidy ⊢
      have hself := (List.forall_mem_cons.mp
        (hmarks s List.mem_cons_self))
      constructor
      · apply Quiet.applyAll htidy.1 htidy.2 hself.2
        exact @quiet_sub word s s hself.1 ⟨0, text⟩ fun stretch hstretch =>
          quiet_of_mem_parts htidy.1 hstretch
      · exact ih htidy.2 (fun t ht u hu => hmarks t
          (List.mem_cons_of_mem _ ht) u (List.mem_cons_of_mem _ hu)) _

/-- Nothing is found in what they have made of a text. -/
theorem applyAll_idempotent (htidy : ∀ s ∈ substitutions, s.Tidy word p bound)
    (hmarks : ∀ t ∈ substitutions, ∀ s ∈ substitutions,
      t.KeepsQuiet word s.mark) (text : List Char) :
    applyAll word substitutions (applyAll word substitutions text) =
      applyAll word substitutions text :=
  applyAll_of_quiet (quiet_applyAll htidy hmarks text)

end All

end Substitution

end Foundation
