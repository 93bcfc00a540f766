/-
Reading JSON documents.  A reader takes a value off the front of a text; what it
reads is the same when the text goes on, and enough fuel is as good as any.
-/
import TeslamateWatchdog.Foundation.Dict
import TeslamateWatchdog.Foundation.JsonScanner
import TeslamateWatchdog.Foundation.JsonWriter

namespace Foundation

namespace Json

def skipBlank (text : List Char) : List Char :=
  text.dropWhile isBlank

/-- A reader takes a value off the front of a text. -/
abbrev Reader (α : Type) := List Char → Option (α × List Char)

section Readers

variable {α : Type}

/-- What follows the first entry of a list, up to the closing bracket. -/
def readRest (one : Reader α) (close : Char) : Nat → Reader (List α)
  | 0, _ => none
  | fuel + 1, text =>
      match skipBlank text with
      | [] => none
      | c :: rest =>
          if c = close then some ([], rest)
          else if c = ',' then
            match one (skipBlank rest) with
            | some (entry, rest) =>
                (readRest one close fuel rest).map fun read =>
                  (entry :: read.1, read.2)
            | none => none
          else none

/-- The entries of a list after its opening bracket. -/
def readList (one : Reader α) (close : Char) (fuel : Nat) : Reader (List α) :=
  fun text =>
    match skipBlank text with
    | [] => none
    | c :: rest =>
        if c = close then some ([], rest)
        else
          match one (c :: rest) with
          | some (entry, rest) =>
              (readRest one close fuel rest).map fun read =>
                (entry :: read.1, read.2)
          | none => none

/-- A key, a colon and a value. -/
def readMember (one : Reader α) : Reader (String × α)
  | [] => none
  | c :: rest =>
      if c = '"' then
        match readString rest with
        | some (key, rest) =>
            match skipBlank rest with
            | [] => none
            | colon :: rest =>
                if colon = ':' then
                  (one (skipBlank rest)).map fun read => ((key, read.1), read.2)
                else none
        | none => none
      else none

end Readers

/-- The words that stand for a value. -/
def literals : List (List Char × Json) :=
  [("null".toList, .null), ("true".toList, .bool true),
    ("false".toList, .bool false), ("NaN".toList, .float .nan),
    ("Infinity".toList, .float .posInf),
    ("-Infinity".toList, .float .negInf)]

/-- A word or a numeral. -/
def readPlain (floats : FloatText) : Reader Json := fun text =>
  match literals.find? fun literal => literal.1.isPrefixOf text with
  | some (word, value) => some (value, text.drop word.length)
  | none => (scanNumeral text).map fun scanned =>
      (scanned.1.read floats, scanned.2)

/-- A value; the fuel bounds the depth. -/
def readValue (floats : FloatText) : Nat → Reader Json
  | 0, _ => none
  | _ + 1, [] => none
  | fuel + 1, c :: rest =>
      if c = '"' then
        (readString rest).map fun read => (.str read.1, read.2)
      else if c = '[' then
        (readList (readValue floats fuel) ']' fuel rest).map fun read =>
          (.arr read.1, read.2)
      else if c = '\x7b' then
        (readList (readMember (readValue floats fuel)) '\x7d' fuel rest).map
          fun read => (.obj (Dict.ofMembers read.1), read.2)
      else readPlain floats (c :: rest)

/-- `json.loads(text)`: one value and nothing after it. -/
def loads (floats : FloatText) (text : List Char) : Option Json :=
  match readValue floats (text.length + 1) (skipBlank text) with
  | some (document, rest) =>
      if skipBlank rest = [] then some document else none
  | none => none

section Blanks

variable {blank text : List Char}

theorem skipBlank_append_blank (hblank : ∀ c ∈ blank, isBlank c = true)
    (text : List Char) : skipBlank (blank ++ text) = skipBlank text :=
  List.dropWhile_append_of_pos hblank

theorem skipBlank_cons {c : Char} (hc : isBlank c = false)
    (rest : List Char) : skipBlank (c :: rest) = c :: rest := by
  simp [skipBlank, hc]

theorem skipBlank_append {c : Char} {rest : List Char}
    (hskip : skipBlank text = c :: rest) (more : List Char) :
    skipBlank (text ++ more) = c :: (rest ++ more) := by
  unfold skipBlank at hskip ⊢
  rw [List.dropWhile_append, hskip]
  rfl

theorem length_skipBlank_le (text : List Char) :
    (skipBlank text).length ≤ text.length :=
  (List.dropWhile_sublist isBlank).length_le

/-- What comes first after whitespace does not go on a numeral. -/
theorem stops_of_skipBlank {c : Char} {rest : List Char}
    (hskip : skipBlank text = c :: rest)
    (hc : c.isDigit = false ∧ c ∉ ['.', 'e', 'E']) (more : List Char) :
    Stops (text ++ more) := by
  cases text with
  | nil => cases hskip
  | cons first others =>
      intro head hhead
      obtain rfl : first = head := Option.some.inj hhead
      by_cases hblank : isBlank first = true
      · simp only [isBlank, Bool.or_eq_true, beq_iff_eq] at hblank
        rcases hblank with ((rfl | rfl) | rfl) | rfl
        all_goals decide
      · rw [skipBlank_cons (Bool.eq_false_of_not_eq_true hblank)] at hskip
        obtain ⟨rfl, -⟩ := List.cons.inj hskip
        exact hc

end Blanks

/-- A reader begins at a character that is neither blank nor a closing bracket,
reads something, and reads the same when the text goes on. -/
structure Settled {α : Type} (one : Reader α) : Prop where
  begins : ∀ {text read}, one text = some read →
    ∃ c rest, text = c :: rest ∧ isBlank c = false ∧ c ∉ [']', '\x7d']
  append : ∀ {text value rest more}, one text = some (value, rest) →
    Stops (rest ++ more) → one (text ++ more) = some (value, rest ++ more)
  shorter : ∀ {text value rest}, one text = some (value, rest) →
    rest.length < text.length

/-- The second reader takes what the first took, if that was no longer than
`size`. -/
def Covers {α : Type} (one two : Reader α) (size : Nat) : Prop :=
  ∀ text value rest, one text = some (value, rest) →
    text.length ≤ rest.length + size → two text = some (value, rest)

section Lists

variable {α : Type} {one two : Reader α} {close : Char} {fuel : Nat}
  {text rest : List Char} {entries : List α}

theorem readRest_begins (hread : readRest one close fuel text =
      some (entries, rest)) :
    ∃ c after, skipBlank text = c :: after ∧ (c = close ∨ c = ',') := by
  cases fuel with
  | zero => cases hread
  | succ fuel =>
      rw [readRest] at hread
      cases hskip : skipBlank text with
      | nil => rw [hskip] at hread; cases hread
      | cons c after =>
          rw [hskip] at hread
          dsimp only at hread
          by_cases hclose : c = close
          · exact ⟨c, after, rfl, .inl hclose⟩
          · rw [if_neg hclose] at hread
            by_cases hcomma : c = ','
            · exact ⟨c, after, rfl, .inr hcomma⟩
            · rw [if_neg hcomma] at hread
              cases hread

/-- A rest of a list is empty, or begins with a comma and an entry. -/
theorem readRest_cases (hread : readRest one close (fuel + 1) text =
      some (entries, rest)) :
    skipBlank text = close :: rest ∧ entries = [] ∨
    ∃ after entry middle others, skipBlank text = ',' :: after ∧ ',' ≠ close ∧
      one (skipBlank after) = some (entry, middle) ∧
      readRest one close fuel middle = some (others, rest) ∧
      entries = entry :: others := by
  rw [readRest] at hread
  cases hskip : skipBlank text with
  | nil => rw [hskip] at hread; cases hread
  | cons c after =>
      rw [hskip] at hread
      dsimp only at hread
      by_cases hclose : c = close
      · rw [if_pos hclose] at hread
        cases hread
        exact .inl ⟨by rw [hclose], rfl⟩
      · rw [if_neg hclose] at hread
        by_cases hcomma : c = ','
        · rw [if_pos hcomma] at hread
          subst hcomma
          cases hentry : one (skipBlank after) with
          | none => rw [hentry] at hread; cases hread
          | some read =>
              obtain ⟨entry, middle⟩ := read
              rw [hentry] at hread
              obtain ⟨⟨others, left⟩, hothers, heq⟩ :=
                Option.map_eq_some_iff.mp hread
              cases heq
              exact .inr ⟨after, entry, middle, others, rfl, hclose, hentry,
                hothers, rfl⟩
        · rw [if_neg hcomma] at hread
          cases hread

theorem readRest_of_close (hskip : skipBlank text = close :: rest) :
    readRest one close (fuel + 1) text = some ([], rest) := by
  rw [readRest, hskip]
  exact if_pos rfl

theorem readRest_of_comma {after middle : List Char} {entry : α}
    (hskip : skipBlank text = ',' :: after) (hclose : ',' ≠ close)
    (hentry : one (skipBlank after) = some (entry, middle))
    (hrest : readRest one close fuel middle = some (entries, rest)) :
    readRest one close (fuel + 1) text = some (entry :: entries, rest) := by
  rw [readRest, hskip]
  dsimp only
  rw [if_neg hclose, if_pos rfl, hentry]
  dsimp only
  rw [hrest]
  rfl

/-- The brackets and the comma do not go on a numeral. -/
theorem stops_of_readRest (hclose : close ∈ [']', '\x7d'])
    (hread : readRest one close fuel text = some (entries, rest))
    (more : List Char) : Stops (text ++ more) := by
  obtain ⟨c, after, hskip, hc⟩ := readRest_begins hread
  refine stops_of_skipBlank hskip ?_ more
  simp only [List.mem_cons, List.not_mem_nil, or_false] at hclose
  rcases hc with rfl | rfl
  · rcases hclose with rfl | rfl <;> decide
  · decide

theorem readRest_append (hone : Settled one) (hclose : close ∈ [']', '\x7d'])
    (hread : readRest one close fuel text = some (entries, rest))
    (more : List Char) :
    readRest one close fuel (text ++ more) = some (entries, rest ++ more) ∧
      rest.length < text.length := by
  induction fuel generalizing text entries with
  | zero => cases hread
  | succ fuel ih =>
      have hskipped := length_skipBlank_le text
      rcases readRest_cases hread with ⟨hskip, rfl⟩ |
        ⟨after, entry, middle, others, hskip, hcomma, hentry, hothers, rfl⟩
      · rw [hskip, List.length_cons] at hskipped
        exact ⟨readRest_of_close (skipBlank_append hskip more), hskipped⟩
      · obtain ⟨hmore, hlength⟩ := ih hothers
        have hstops := stops_of_readRest hclose hothers more
        obtain ⟨c, tail, hafter, -⟩ := hone.begins hentry
        have hfirst := hone.append hentry hstops
        have hshorter := hone.shorter hentry
        have hafterskipped := length_skipBlank_le after
        rw [hskip, List.length_cons] at hskipped
        refine ⟨readRest_of_comma (skipBlank_append hskip more) hcomma ?_ hmore,
          by omega⟩
        rw [skipBlank_append hafter]
        rwa [hafter] at hfirst

theorem readRest_covers (hone : Settled one) {size again : Nat}
    (hcovers : Covers one two size)
    (hread : readRest one close fuel text = some (entries, rest))
    (hsize : text.length ≤ rest.length + size)
    (hagain : text.length ≤ rest.length + again)
    (hclose : close ∈ [']', '\x7d']) :
    readRest two close again text = some (entries, rest) := by
  induction fuel generalizing text entries again with
  | zero => cases hread
  | succ fuel ih =>
      have hshorter := (readRest_append hone hclose hread []).2
      obtain ⟨again, rfl⟩ : ∃ n, again = n + 1 :=
        Nat.exists_eq_add_of_le' (by omega)
      have hskipped := length_skipBlank_le text
      rcases readRest_cases hread with ⟨hskip, rfl⟩ |
        ⟨after, entry, middle, others, hskip, hcomma, hentry, hothers, rfl⟩
      · exact readRest_of_close hskip
      · have hlength := (readRest_append hone hclose hothers []).2
        have hfirst := hone.shorter hentry
        have hafterskipped := length_skipBlank_le after
        rw [hskip, List.length_cons] at hskipped
        refine readRest_of_comma hskip hcomma ?_ (ih hothers ?_ ?_)
        · exact hcovers _ _ _ hentry (by omega)
        · omega
        · omega

/-- A list is empty, or begins with an entry. -/
theorem readList_cases (hread : readList one close fuel text =
      some (entries, rest)) :
    skipBlank text = close :: rest ∧ entries = [] ∨
    ∃ entry middle others, (skipBlank text).head? ≠ some close ∧
      one (skipBlank text) = some (entry, middle) ∧
      readRest one close fuel middle = some (others, rest) ∧
      entries = entry :: others := by
  rw [readList] at hread
  cases hskip : skipBlank text with
  | nil => rw [hskip] at hread; cases hread
  | cons c after =>
      rw [hskip] at hread
      dsimp only at hread
      by_cases hclose : c = close
      · rw [if_pos hclose] at hread
        cases hread
        exact .inl ⟨by rw [hclose], rfl⟩
      · rw [if_neg hclose] at hread
        cases hentry : one (c :: after) with
        | none => rw [hentry] at hread; cases hread
        | some read =>
            obtain ⟨entry, middle⟩ := read
            rw [hentry] at hread
            obtain ⟨⟨others, left⟩, hothers, heq⟩ :=
              Option.map_eq_some_iff.mp hread
            cases heq
            exact .inr ⟨entry, middle, others,
              fun h => hclose (Option.some.inj h), rfl, hothers, rfl⟩

theorem readList_of_close (hskip : skipBlank text = close :: rest) :
    readList one close fuel text = some ([], rest) := by
  rw [readList, hskip]
  exact if_pos rfl

theorem readList_of_entry {c : Char} {after middle : List Char} {entry : α}
    (hskip : skipBlank text = c :: after) (hclose : c ≠ close)
    (hentry : one (c :: after) = some (entry, middle))
    (hrest : readRest one close fuel middle = some (entries, rest)) :
    readList one close fuel text = some (entry :: entries, rest) := by
  rw [readList, hskip]
  dsimp only
  rw [if_neg hclose, hentry]
  dsimp only
  rw [hrest]
  rfl

theorem readList_append (hone : Settled one) (hclose : close ∈ [']', '\x7d'])
    (hread : readList one close fuel text = some (entries, rest))
    (more : List Char) :
    readList one close fuel (text ++ more) = some (entries, rest ++ more) ∧
      rest.length < text.length := by
  have hskipped := length_skipBlank_le text
  rcases readList_cases hread with ⟨hskip, rfl⟩ |
    ⟨entry, middle, others, hhead, hentry, hothers, rfl⟩
  · rw [hskip, List.length_cons] at hskipped
    exact ⟨readList_of_close (skipBlank_append hskip more), hskipped⟩
  · obtain ⟨hmore, hlength⟩ := readRest_append hone hclose hothers more
    have hstops := stops_of_readRest hclose hothers more
    obtain ⟨c, tail, hskip, -⟩ := hone.begins hentry
    have hfirst := hone.append hentry hstops
    have hshorter := hone.shorter hentry
    rw [hskip] at hhead hfirst
    refine ⟨readList_of_entry (skipBlank_append hskip more)
      (fun h => hhead (congrArg some h)) hfirst hmore, by omega⟩

theorem readList_covers (hone : Settled one) {size : Nat}
    (hcovers : Covers one two size)
    (hread : readList one close fuel text = some (entries, rest))
    (hsize : text.length ≤ rest.length + size)
    (hclose : close ∈ [']', '\x7d']) :
    readList two close size text = some (entries, rest) := by
  have hskipped := length_skipBlank_le text
  rcases readList_cases hread with ⟨hskip, rfl⟩ |
    ⟨entry, middle, others, hhead, hentry, hothers, rfl⟩
  · exact readList_of_close hskip
  · obtain ⟨c, tail, hskip, -⟩ := hone.begins hentry
    have hlength := (readRest_append hone hclose hothers []).2
    have hshorter := hone.shorter hentry
    have hfirst := hcovers _ _ _ hentry (by omega)
    rw [hskip] at hhead hfirst
    refine readList_of_entry hskip (fun h => hhead (congrArg some h)) hfirst
      (readRest_covers hone hcovers hothers ?_ ?_ hclose)
    · omega
    · omega

end Lists

section Members

variable {α : Type} {one two : Reader α}

theorem readMember_cases {text rest : List Char} {member : String × α}
    (hread : readMember one text = some (member, rest)) :
    ∃ after middle behind, text = '"' :: after ∧
      readString after = some (member.1, middle) ∧
      skipBlank middle = ':' :: behind ∧
      one (skipBlank behind) = some (member.2, rest) := by
  cases text with
  | nil => cases hread
  | cons c after =>
      rw [readMember] at hread
      by_cases hquote : c = '"'
      · rw [if_pos hquote] at hread
        cases hkey : readString after with
        | none => rw [hkey] at hread; cases hread
        | some read =>
            obtain ⟨key, middle⟩ := read
            rw [hkey] at hread
            dsimp only at hread
            cases hskip : skipBlank middle with
            | nil => rw [hskip] at hread; cases hread
            | cons colon behind =>
                rw [hskip] at hread
                dsimp only at hread
                by_cases hcolon : colon = ':'
                · rw [if_pos hcolon] at hread
                  obtain ⟨⟨value, left⟩, hvalue, heq⟩ :=
                    Option.map_eq_some_iff.mp hread
                  cases heq
                  exact ⟨after, middle, behind, by rw [hquote], hkey,
                    by rw [hskip, hcolon], hvalue⟩
                · rw [if_neg hcolon] at hread
                  cases hread
      · rw [if_neg hquote] at hread
        cases hread

theorem readMember_of {after middle behind rest : List Char} {key : String}
    {value : α} (hkey : readString after = some (key, middle))
    (hskip : skipBlank middle = ':' :: behind)
    (hvalue : one (skipBlank behind) = some (value, rest)) :
    readMember one ('"' :: after) = some ((key, value), rest) := by
  rw [readMember, if_pos rfl, hkey]
  dsimp only
  rw [hskip]
  dsimp only
  rw [if_pos rfl, hvalue]
  rfl

theorem Settled.member (hone : Settled one) : Settled (readMember one) where
  begins := by
    rintro text ⟨member, rest⟩ hread
    obtain ⟨after, -, -, rfl, -⟩ := readMember_cases hread
    exact ⟨'"', after, rfl, by decide, by decide⟩
  append := by
    intro text member rest more hread hstops
    obtain ⟨after, middle, behind, rfl, hkey, hskip, hvalue⟩ :=
      readMember_cases hread
    obtain ⟨c, tail, hbehind, -⟩ := hone.begins hvalue
    have hmore := hone.append hvalue hstops
    rw [hbehind] at hmore
    refine readMember_of (readString_append hkey more).1
      (skipBlank_append hskip more) ?_
    rw [skipBlank_append hbehind]
    exact hmore
  shorter := by
    intro text member rest hread
    obtain ⟨after, middle, behind, rfl, hkey, hskip, hvalue⟩ :=
      readMember_cases hread
    have hmiddle := (readString_append hkey []).2
    have hskipped := length_skipBlank_le middle
    have hbehind := length_skipBlank_le behind
    have hshorter := hone.shorter hvalue
    rw [hskip, List.length_cons] at hskipped
    rw [List.length_cons]
    omega

theorem Covers.member {size : Nat} (hcovers : Covers one two size) :
    Covers (readMember one) (readMember two) size := by
  intro text member rest hread hsize
  obtain ⟨after, middle, behind, rfl, hkey, hskip, hvalue⟩ :=
    readMember_cases hread
  have hmiddle := (readString_append hkey []).2
  have hskipped := length_skipBlank_le middle
  have hbehind := length_skipBlank_le behind
  rw [hskip, List.length_cons] at hskipped
  rw [List.length_cons] at hsize
  exact readMember_of hkey hskip (hcovers _ _ _ hvalue (by omega))

end Members

section Values

variable {floats : FloatText} {text rest : List Char} {value : Json}

theorem readPlain_literal {word : List Char} (hliteral : (word, value) ∈ literals)
    (rest : List Char) :
    readPlain floats (word ++ rest) = some (value, rest) := by
  simp only [literals, List.mem_cons, Prod.mk.injEq, List.not_mem_nil,
    or_false] at hliteral
  rcases hliteral with ⟨rfl, rfl⟩ | ⟨rfl, rfl⟩ | ⟨rfl, rfl⟩ | ⟨rfl, rfl⟩ |
    ⟨rfl, rfl⟩ | ⟨rfl, rfl⟩
  all_goals rfl

/-- A numeral begins with a digit, after a minus or not. -/
theorem scanNumeral_begins {scanned : Numeral × List Char}
    (hscan : scanNumeral text = some scanned) :
    ∃ c tail, text = c :: tail ∧ (c.isDigit = true ∨
      c = '-' ∧ ∃ digit others, tail = digit :: others ∧
        digit.isDigit = true) := by
  have hnatural : ∀ {text : List Char} {scanned : List Char × List Char},
      scanNatural text = some scanned →
      ∃ c tail, text = c :: tail ∧ c.isDigit = true := by
    intro text scanned hscan
    unfold scanNatural at hscan
    split at hscan
    · rename_i hzero
      obtain ⟨tail, rfl⟩ := List.head?_eq_some_iff.mp hzero
      exact ⟨'0', tail, rfl, by decide⟩
    · split at hscan
      · cases hscan
      · rename_i hdigits
        cases text with
        | nil => exact absurd rfl hdigits
        | cons c tail =>
            refine ⟨c, tail, rfl, ?_⟩
            by_contra hc
            exact hdigits (List.takeWhile_cons_of_neg hc)
  obtain ⟨whole, hwhole, -⟩ := Option.map_eq_some_iff.mp hscan
  unfold scanWhole at hwhole
  split at hwhole
  · rename_i hminus
    obtain ⟨tail, rfl⟩ := List.head?_eq_some_iff.mp hminus
    obtain ⟨digits, hdigits, -⟩ := Option.map_eq_some_iff.mp hwhole
    exact ⟨'-', tail, rfl, .inr ⟨rfl, hnatural hdigits⟩⟩
  · obtain ⟨c, tail, rfl, hc⟩ := hnatural hwhole
    exact ⟨c, tail, rfl, .inl hc⟩

/-- No word goes before a numeral. -/
theorem not_literal_of_scan {scanned : Numeral × List Char}
    (hscan : scanNumeral text = some scanned) :
    (literals.find? fun literal => literal.1.isPrefixOf text) = none := by
  obtain ⟨c, tail, rfl, hc⟩ := scanNumeral_begins hscan
  rw [List.find?_eq_none]
  intro literal hliteral hbegins
  have hhead : ∀ first others, literal.1 = first :: others → first = c ∧
      ∀ second more, others = second :: more → tail.head? = some second := by
    intro first others hword
    rw [hword, List.isPrefixOf_iff_prefix, List.cons_prefix_cons] at hbegins
    refine ⟨hbegins.1, fun second more hothers => ?_⟩
    obtain ⟨after, hafter⟩ := hbegins.2
    rw [← hafter, hothers]
    rfl
  simp only [literals, List.mem_cons, List.not_mem_nil, or_false] at hliteral
  rcases hc with hc | ⟨rfl, digit, others, rfl, hdigit⟩
  · rcases hliteral with rfl | rfl | rfl | rfl | rfl | rfl
    all_goals
      rw [← (hhead _ _ rfl).1] at hc
      exact absurd hc (by decide)
  · rcases hliteral with rfl | rfl | rfl | rfl | rfl | rfl
    case inr.inr.inr.inr.inr =>
      have hsecond := (hhead _ _ rfl).2 _ _ rfl
      rw [Option.some.inj hsecond] at hdigit
      exact absurd hdigit (by decide)
    all_goals exact absurd (hhead _ _ rfl).1 (by decide)

theorem readPlain_numeral {scanned : Numeral × List Char}
    (hscan : scanNumeral text = some scanned) :
    readPlain floats text = some (scanned.1.read floats, scanned.2) := by
  rw [readPlain, not_literal_of_scan hscan, hscan]
  rfl

/-- What is neither string, list nor object is a word or a numeral. -/
theorem readPlain_cases (hread : readPlain floats text = some (value, rest)) :
    (∃ word, (word, value) ∈ literals ∧ text = word ++ rest) ∨
      ∃ numeral, scanNumeral text = some (numeral, rest) ∧
        value = numeral.read floats := by
  unfold readPlain at hread
  split at hread
  · rename_i word found hfound
    cases hread
    have hbegins := List.find?_some hfound
    obtain ⟨after, rfl⟩ := List.isPrefixOf_iff_prefix.mp hbegins
    refine .inl ⟨word, List.mem_of_find?_eq_some hfound, ?_⟩
    rw [List.drop_left]
  · obtain ⟨⟨numeral, left⟩, hscan, heq⟩ := Option.map_eq_some_iff.mp hread
    cases heq
    exact .inr ⟨numeral, hscan, rfl⟩

/-- The characters that end a value or begin a string, a list or an object. -/
def brackets : List Char :=
  ['"', '[', ']', '\x7b', '\x7d']

theorem literals_begin : ∀ literal ∈ literals, ∃ c others,
    literal.1 = c :: others ∧ isBlank c = false ∧ c ∉ brackets := by
  intro literal hliteral
  simp only [literals, List.mem_cons, List.not_mem_nil, or_false] at hliteral
  rcases hliteral with rfl | rfl | rfl | rfl | rfl | rfl
  all_goals exact ⟨_, _, rfl, by decide, by decide⟩

theorem not_blank_of_digit {c : Char} (hc : c.isDigit = true) :
    isBlank c = false ∧ c ∉ brackets := by
  constructor
  · rw [Bool.eq_false_iff]
    intro hblank
    simp only [isBlank, Bool.or_eq_true, beq_iff_eq] at hblank
    rcases hblank with ((rfl | rfl) | rfl) | rfl
    all_goals exact absurd hc (by decide)
  · simp only [brackets, List.mem_cons, List.not_mem_nil, or_false]
    rintro (rfl | rfl | rfl | rfl | rfl)
    all_goals exact absurd hc (by decide)

theorem begins_of_readPlain (hread : readPlain floats text = some (value, rest)) :
    ∃ c tail, text = c :: tail ∧ isBlank c = false ∧ c ∉ brackets := by
  rcases readPlain_cases hread with ⟨word, hliteral, rfl⟩ | ⟨numeral, hscan, -⟩
  · obtain ⟨c, others, hword, hc⟩ := literals_begin _ hliteral
    exact ⟨c, others ++ rest, by rw [← List.cons_append, ← hword], hc⟩
  · obtain ⟨c, tail, rfl, hc⟩ := scanNumeral_begins hscan
    refine ⟨c, tail, rfl, ?_⟩
    rcases hc with hc | ⟨rfl, -⟩
    · exact not_blank_of_digit hc
    · decide

theorem Settled.plain (floats : FloatText) : Settled (readPlain floats) where
  begins := by
    rintro text ⟨value, rest⟩ hread
    obtain ⟨c, tail, rfl, hblank, hc⟩ := begins_of_readPlain hread
    refine ⟨c, tail, rfl, hblank, fun hclose => hc ?_⟩
    simp only [List.mem_cons, List.not_mem_nil, or_false] at hclose
    rcases hclose with rfl | rfl <;> decide
  append := by
    intro text value rest more hread hstops
    rcases readPlain_cases hread with ⟨word, hliteral, rfl⟩ |
      ⟨numeral, hscan, rfl⟩
    · rw [List.append_assoc]
      exact readPlain_literal hliteral _
    · exact readPlain_numeral (scanNumeral_append hscan hstops)
  shorter := by
    intro text value rest hread
    rcases readPlain_cases hread with ⟨word, hliteral, rfl⟩ |
      ⟨numeral, hscan, rfl⟩
    · obtain ⟨c, others, hword, -⟩ := literals_begin _ hliteral
      dsimp only at hword
      rw [hword, List.length_append, List.length_cons]
      omega
    · obtain ⟨htext, hne⟩ := scanNumeral_split hscan
      have hpos := List.length_pos_iff.mpr hne
      rw [htext, List.length_append]
      omega

variable {fuel : Nat}

theorem readValue_string {string : String}
    (hread : readString text = some (string, rest)) :
    readValue floats (fuel + 1) ('"' :: text) = some (.str string, rest) := by
  rw [readValue, if_pos rfl, hread]
  rfl

theorem readValue_list {items : List Json}
    (hread : readList (readValue floats fuel) ']' fuel text =
      some (items, rest)) :
    readValue floats (fuel + 1) ('[' :: text) = some (.arr items, rest) := by
  rw [readValue, if_neg (by decide), if_pos rfl, hread]
  rfl

theorem readValue_object {members : List (String × Json)}
    (hread : readList (readMember (readValue floats fuel)) '\x7d' fuel text =
      some (members, rest)) :
    readValue floats (fuel + 1) ('\x7b' :: text) =
      some (.obj (Dict.ofMembers members), rest) := by
  rw [readValue, if_neg (by decide), if_neg (by decide), if_pos rfl, hread]
  rfl

theorem readValue_plain (hread : readPlain floats text = some (value, rest)) :
    readValue floats (fuel + 1) text = some (value, rest) := by
  obtain ⟨c, tail, rfl, -, hc⟩ := begins_of_readPlain hread
  simp only [brackets, List.mem_cons, List.not_mem_nil, or_false, not_or] at hc
  rw [readValue, if_neg hc.1, if_neg hc.2.1, if_neg hc.2.2.2.1, hread]

/-- A value is a string, a list, an object, or a word or numeral. -/
theorem readValue_cases
    (hread : readValue floats (fuel + 1) text = some (value, rest)) :
    (∃ after string, text = '"' :: after ∧ value = .str string ∧
      readString after = some (string, rest)) ∨
    (∃ after items, text = '[' :: after ∧ value = .arr items ∧
      readList (readValue floats fuel) ']' fuel after = some (items, rest)) ∨
    (∃ after members, text = '\x7b' :: after ∧
      value = .obj (Dict.ofMembers members) ∧
      readList (readMember (readValue floats fuel)) '\x7d' fuel after =
        some (members, rest)) ∨
    readPlain floats text = some (value, rest) := by
  cases text with
  | nil => cases hread
  | cons c after =>
      rw [readValue] at hread
      by_cases hquote : c = '"'
      · rw [if_pos hquote] at hread
        obtain ⟨⟨string, left⟩, hstring, heq⟩ := Option.map_eq_some_iff.mp hread
        cases heq
        exact .inl ⟨after, string, by rw [hquote], rfl, hstring⟩
      · rw [if_neg hquote] at hread
        by_cases hlist : c = '['
        · rw [if_pos hlist] at hread
          obtain ⟨⟨items, left⟩, hitems, heq⟩ := Option.map_eq_some_iff.mp hread
          cases heq
          exact .inr (.inl ⟨after, items, by rw [hlist], rfl, hitems⟩)
        · rw [if_neg hlist] at hread
          by_cases hobject : c = '\x7b'
          · rw [if_pos hobject] at hread
            obtain ⟨⟨members, left⟩, hmembers, heq⟩ :=
              Option.map_eq_some_iff.mp hread
            cases heq
            exact .inr (.inr (.inl
              ⟨after, members, by rw [hobject], rfl, hmembers⟩))
          · rw [if_neg hobject] at hread
            exact .inr (.inr (.inr hread))

theorem Settled.document (floats : FloatText) (fuel : Nat) :
    Settled (readValue floats fuel) := by
  induction fuel with
  | zero =>
      refine ⟨fun hread => ?_, fun hread => ?_, fun hread => ?_⟩ <;>
      cases hread
  | succ fuel ih =>
      refine ⟨?_, ?_, ?_⟩
      · rintro text ⟨value, rest⟩ hread
        rcases readValue_cases hread with ⟨after, -, rfl, -⟩ |
          ⟨after, -, rfl, -⟩ | ⟨after, -, rfl, -⟩ | hplain
        · exact ⟨_, _, rfl, by decide, by decide⟩
        · exact ⟨_, _, rfl, by decide, by decide⟩
        · exact ⟨_, _, rfl, by decide, by decide⟩
        · exact (Settled.plain floats).begins hplain
      · intro text value rest more hread hstops
        rcases readValue_cases hread with ⟨after, string, rfl, rfl, hstring⟩ |
          ⟨after, items, rfl, rfl, hitems⟩ |
          ⟨after, members, rfl, rfl, hmembers⟩ | hplain
        · exact readValue_string (readString_append hstring more).1
        · exact readValue_list (readList_append ih (by decide) hitems more).1
        · exact readValue_object
            (readList_append ih.member (by decide) hmembers more).1
        · exact readValue_plain ((Settled.plain floats).append hplain hstops)
      · intro text value rest hread
        rcases readValue_cases hread with ⟨after, string, rfl, rfl, hstring⟩ |
          ⟨after, items, rfl, rfl, hitems⟩ |
          ⟨after, members, rfl, rfl, hmembers⟩ | hplain
        · exact Nat.lt_succ_of_lt (readString_append hstring []).2
        · exact Nat.lt_succ_of_lt (readList_append ih (by decide) hitems []).2
        · exact Nat.lt_succ_of_lt
            (readList_append ih.member (by decide) hmembers []).2
        · exact (Settled.plain floats).shorter hplain

/-- Fuel for the characters taken is as good as any. -/
theorem Covers.document (floats : FloatText) (fuel size : Nat) :
    Covers (readValue floats fuel) (readValue floats size) size := by
  induction fuel generalizing size with
  | zero =>
      intro text value rest hread
      cases hread
  | succ fuel ih =>
      intro text value rest hread hsize
      have hshorter := (Settled.document floats (fuel + 1)).shorter hread
      obtain ⟨size, rfl⟩ : ∃ n, size = n + 1 :=
        Nat.exists_eq_add_of_le' (by omega)
      have hone := Settled.document floats fuel
      rcases readValue_cases hread with ⟨after, string, rfl, rfl, hstring⟩ |
        ⟨after, items, rfl, rfl, hitems⟩ |
        ⟨after, members, rfl, rfl, hmembers⟩ | hplain
      · exact readValue_string hstring
      · rw [List.length_cons] at hsize
        exact readValue_list
          (readList_covers hone (ih size) hitems (by omega) (by decide))
      · rw [List.length_cons] at hsize
        exact readValue_object (readList_covers hone.member (ih size).member
          hmembers (by omega) (by decide))
      · exact readValue_plain hplain

end Values

end Json

end Foundation
