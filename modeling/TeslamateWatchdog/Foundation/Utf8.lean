/-
Decoding UTF-8 with `errors="replace"`: every maximal part of an ill-formed
sequence becomes one replacement character.
-/
import Mathlib.Algebra.Group.Nat.Defs
import Mathlib.Tactic.SplitIfs

namespace Foundation

namespace Utf8

def replacement : Char := '\uFFFD'

/-- How many continuation bytes follow the lead byte, and the range of the
first of them.  `none` for a byte that cannot lead a sequence. -/
def leadRange (lead : UInt8) : Option (Nat × UInt8 × UInt8) :=
  if 0xc2 ≤ lead && lead ≤ 0xdf then some (1, 0x80, 0xbf)
  else if lead == 0xe0 then some (2, 0xa0, 0xbf)
  else if lead == 0xed then some (2, 0x80, 0x9f)
  else if 0xe1 ≤ lead && lead ≤ 0xef then some (2, 0x80, 0xbf)
  else if lead == 0xf0 then some (3, 0x90, 0xbf)
  else if 0xf1 ≤ lead && lead ≤ 0xf3 then some (3, 0x80, 0xbf)
  else if lead == 0xf4 then some (3, 0x80, 0x8f)
  else none

/-- Read `count` continuation bytes, the next one in `[low, high]` and all
later ones in `[0x80, 0xbf]`.  Returns the code point, if the sequence is
complete, and how many bytes were read. -/
def continuation (value count : Nat) (low high : UInt8) :
    List UInt8 → Option Nat × Nat
  | [] => (if count = 0 then some value else none, 0)
  | byte :: rest =>
      match count with
      | 0 => (some value, 0)
      | count + 1 =>
          if low ≤ byte && byte ≤ high then
            let next := continuation (value * 64 + (byte.toNat - 0x80)) count
              0x80 0xbf rest
            (next.1, next.2 + 1)
          else (none, 0)

/-- The first character of a non-empty byte string, and how many of the bytes
after the first one it uses. -/
def decodeFirst (lead : UInt8) (rest : List UInt8) : Char × Nat :=
  if lead < 0x80 then (Char.ofNat lead.toNat, 0)
  else
    match leadRange lead with
    | none => (replacement, 0)
    | some (count, low, high) =>
        let payload := lead.toNat % 2 ^ (6 - count)
        match continuation payload count low high rest with
        | (some value, used) => (Char.ofNat value, used)
        | (none, used) => (replacement, used)

/-- One character a round; the number of bytes is fuel enough. -/
def decodeFrom : Nat → List UInt8 → List Char
  | 0, _ => []
  | _, [] => []
  | fuel + 1, lead :: rest =>
      let first := decodeFirst lead rest
      first.1 :: decodeFrom fuel (rest.drop first.2)

/-- `bytes.decode("utf-8", errors="replace")`. -/
def decode (bytes : List UInt8) : String :=
  String.ofList (decodeFrom bytes.length bytes)

example : decode [0x68, 0xc3, 0xa9, 0xe2, 0x82, 0x41] = "hé\uFFFDA" := by
  decide +kernel

/-- The characters that bytes are decoded to. -/
def decodeChars (bytes : List UInt8) : List Char :=
  decodeFrom bytes.length bytes

theorem toList_decode (bytes : List UInt8) :
    (decode bytes).toList = decodeChars bytes :=
  String.toList_ofList

theorem continuation_used_le (value count : Nat) (low high : UInt8)
    (rest : List UInt8) :
    (continuation value count low high rest).2 ≤ rest.length := by
  induction rest generalizing value count low high with
  | nil => simp [continuation]
  | cons byte rest ih =>
      cases count with
      | zero => exact Nat.zero_le _
      | succ count =>
          rw [continuation]
          by_cases hbyte : (low ≤ byte && byte ≤ high) = true
          · rw [if_pos hbyte]
            exact Nat.succ_le_succ (ih _ _ _ _)
          · rw [if_neg hbyte]
            exact Nat.zero_le _

/-- A byte that cannot belong to a sequence ends it as the end of the text
would. -/
theorem continuation_append {value count : Nat} {low high byte : UInt8}
    (hlow : 0x80 ≤ low) (hascii : byte < 0x80) (front rest : List UInt8) :
    continuation value count low high (front ++ byte :: rest) =
      continuation value count low high front := by
  induction front generalizing value count low high with
  | nil =>
      cases count with
      | zero => rfl
      | succ count =>
          have hout : ¬(low ≤ byte && byte ≤ high) = true := by
            rw [Bool.and_eq_true, decide_eq_true_eq]
            intro hin
            exact absurd (UInt8.le_trans hlow hin.1) (UInt8.not_le.mpr hascii)
          have hstop : continuation value (count + 1) low high (byte :: rest) =
              (none, 0) := if_neg hout
          exact hstop
  | cons first front ih =>
      cases count with
      | zero => rfl
      | succ count =>
          rw [List.cons_append, continuation, continuation,
            ih (UInt8.le_refl 0x80)]

/-- What can lead a sequence: how many bytes follow, and the range of the first
of them. -/
theorem leadRange_cases {lead low high : UInt8} {count : Nat}
    (hrange : leadRange lead = some (count, low, high)) :
    (count = 1 ∧ (0xc2 ≤ lead.toNat ∧ lead.toNat ≤ 0xdf) ∧
      low.toNat = 0x80 ∧ high.toNat = 0xbf) ∨
    (count = 2 ∧ (lead.toNat = 0xe0 ∧ low.toNat = 0xa0 ∧ high.toNat = 0xbf ∨
      lead.toNat = 0xed ∧ low.toNat = 0x80 ∧ high.toNat = 0x9f ∨
      (0xe1 ≤ lead.toNat ∧ lead.toNat ≤ 0xef ∧ lead.toNat ≠ 0xed) ∧
        low.toNat = 0x80 ∧ high.toNat = 0xbf)) ∨
    (count = 3 ∧ (lead.toNat = 0xf0 ∧ low.toNat = 0x90 ∧ high.toNat = 0xbf ∨
      (0xf1 ≤ lead.toNat ∧ lead.toNat ≤ 0xf3) ∧
        low.toNat = 0x80 ∧ high.toNat = 0xbf ∨
      lead.toNat = 0xf4 ∧ low.toNat = 0x80 ∧ high.toNat = 0x8f)) := by
  simp only [leadRange, Bool.and_eq_true, decide_eq_true_eq, beq_iff_eq,
    UInt8.le_iff_toNat_le, ← UInt8.toNat_inj] at hrange
  split_ifs at hrange <;> simp only [Option.some.injEq, Prod.mk.injEq] at hrange
  all_goals
    obtain ⟨rfl, rfl, rfl⟩ := hrange
    simp_all

theorem low_of_leadRange {lead low high : UInt8} {count : Nat}
    (hrange : leadRange lead = some (count, low, high)) : 0x80 ≤ low := by
  have hcases := leadRange_cases hrange
  rw [UInt8.le_iff_toNat_le]
  have hbound : (0x80 : UInt8).toNat = 0x80 := rfl
  omega

theorem decodeFirst_used_le (lead : UInt8) (rest : List UInt8) :
    (decodeFirst lead rest).2 ≤ rest.length := by
  unfold decodeFirst
  by_cases hascii : lead < 0x80
  · rw [if_pos hascii]
    exact Nat.zero_le _
  · rw [if_neg hascii]
    cases leadRange lead with
    | none => exact Nat.zero_le _
    | some range =>
        obtain ⟨count, low, high⟩ := range
        have hused := continuation_used_le (lead.toNat % 2 ^ (6 - count)) count
          low high rest
        dsimp only
        cases hread : continuation (lead.toNat % 2 ^ (6 - count)) count low
            high rest with
        | mk value used =>
            rw [hread] at hused
            cases value <;> exact hused

theorem decodeFirst_append (lead : UInt8) {byte : UInt8} (hascii : byte < 0x80)
    (front rest : List UInt8) :
    decodeFirst lead (front ++ byte :: rest) = decodeFirst lead front := by
  unfold decodeFirst
  cases hrange : leadRange lead with
  | none => rfl
  | some range =>
      obtain ⟨count, low, high⟩ := range
      simp only [continuation_append (low_of_leadRange hrange) hascii]

/-- More rounds than there are bytes change nothing. -/
theorem decodeFrom_of_le {fuel : Nat} {bytes : List UInt8}
    (hfuel : bytes.length ≤ fuel) : decodeFrom fuel bytes = decodeChars bytes := by
  have henough : ∀ (fuel extra : Nat) (bytes : List UInt8),
      bytes.length ≤ fuel →
        decodeFrom (fuel + extra) bytes = decodeFrom fuel bytes := by
    intro fuel extra
    induction fuel with
    | zero =>
        intro bytes hempty
        rw [List.length_eq_zero_iff.mp (Nat.le_zero.mp hempty)]
        cases extra <;> rfl
    | succ fuel ih =>
        intro bytes hlength
        cases bytes with
        | nil => rw [Nat.succ_add]; rfl
        | cons lead rest =>
            rw [Nat.succ_add, decodeFrom, decodeFrom]
            congr 1
            apply ih
            rw [List.length_drop]
            rw [List.length_cons] at hlength
            omega
  obtain ⟨extra, rfl⟩ := Nat.exists_eq_add_of_le hfuel
  exact henough _ extra bytes (Nat.le_refl _)

theorem decodeChars_cons (lead : UInt8) (rest : List UInt8) :
    decodeChars (lead :: rest) = (decodeFirst lead rest).1 ::
      decodeChars (rest.drop (decodeFirst lead rest).2) := by
  have hshorter : (rest.drop (decodeFirst lead rest).2).length ≤
      rest.length := by
    rw [List.length_drop]
    exact Nat.sub_le _ _
  exact congrArg ((decodeFirst lead rest).1 :: ·) (decodeFrom_of_le hshorter)

/-- Induction along the characters that bytes are decoded to. -/
@[elab_as_elim]
theorem decode_induction {motive : List UInt8 → Prop} (nil : motive [])
    (cons : ∀ lead rest, motive (rest.drop (decodeFirst lead rest).2) →
      motive (lead :: rest)) (bytes : List UInt8) : motive bytes := by
  have hall : ∀ (bound : Nat) (bytes : List UInt8), bytes.length ≤ bound →
      motive bytes := by
    intro bound
    induction bound with
    | zero =>
        intro bytes hempty
        rw [List.length_eq_zero_iff.mp (Nat.le_zero.mp hempty)]
        exact nil
    | succ bound ih =>
        intro bytes hlength
        cases bytes with
        | nil => exact nil
        | cons lead rest =>
            apply cons
            apply ih
            rw [List.length_drop]
            rw [List.length_cons] at hlength
            omega
  exact hall bytes.length bytes (Nat.le_refl _)

/-- An ASCII byte cuts the text: what is before it and what is after it are
decoded on their own. -/
theorem decodeChars_append_ascii (front : List UInt8) {byte : UInt8}
    (hascii : byte < 0x80) (rest : List UInt8) :
    decodeChars (front ++ byte :: rest) =
      decodeChars front ++ Char.ofNat byte.toNat :: decodeChars rest := by
  induction front using decode_induction with
  | nil =>
      have hfirst : decodeFirst byte rest = (Char.ofNat byte.toNat, 0) :=
        if_pos hascii
      rw [List.nil_append, decodeChars_cons, hfirst]
      rfl
  | cons lead front ih =>
      rw [List.cons_append, decodeChars_cons, decodeChars_cons,
        decodeFirst_append lead hascii,
        List.drop_append_of_le_length (decodeFirst_used_le lead front), ih]
      rfl

theorem continuation_succ {value count code used : Nat} {low high : UInt8}
    {rest : List UInt8}
    (hread : continuation value (count + 1) low high rest = (some code, used)) :
    ∃ (byte : UInt8) (tail : List UInt8) (left : Nat),
      (low.toNat ≤ byte.toNat ∧ byte.toNat ≤ high.toNat) ∧
      continuation (value * 64 + (byte.toNat - 0x80)) count 0x80 0xbf tail =
        (some code, left) := by
  cases rest with
  | nil => simp [continuation] at hread
  | cons byte tail =>
      rw [continuation] at hread
      by_cases hbyte : (low ≤ byte && byte ≤ high) = true
      · rw [if_pos hbyte] at hread
        rw [Bool.and_eq_true, decide_eq_true_eq, decide_eq_true_eq] at hbyte
        rcases hnext : continuation (value * 64 + (byte.toNat - 0x80)) count
          0x80 0xbf tail with ⟨found, left⟩
        rw [hnext] at hread
        obtain rfl : found = some code := (Prod.mk.inj hread).1
        exact ⟨byte, tail, left, hbyte, hnext⟩
      · rw [if_neg hbyte] at hread
        cases hread

theorem continuation_value {value count code used : Nat} {rest : List UInt8}
    (hread : continuation value count 0x80 0xbf rest = (some code, used)) :
    value * 64 ^ count ≤ code ∧ code < (value + 1) * 64 ^ count := by
  induction count generalizing value rest used with
  | zero =>
      obtain rfl : value = code := by
        cases rest <;> (simp [continuation] at hread; exact hread.1)
      omega
  | succ count ih =>
      obtain ⟨byte, tail, left, ⟨-, hhigh⟩, htail⟩ := continuation_succ hread
      have hdigit : byte.toNat - 0x80 < 64 := by
        have hbound : byte.toNat ≤ 0xbf := hhigh
        omega
      obtain ⟨hleast, hmost⟩ := ih htail
      rw [Nat.pow_succ, Nat.mul_comm (64 ^ count), ← Nat.mul_assoc,
        ← Nat.mul_assoc]
      constructor
      · exact Nat.le_trans (Nat.mul_le_mul_right _ (Nat.le_add_right _ _)) hleast
      · exact Nat.lt_of_lt_of_le hmost (Nat.mul_le_mul_right _ (by omega))

/-- A complete sequence is a character beyond ASCII. -/
theorem code_of_continuation {lead low high : UInt8} {count code used : Nat}
    {rest : List UInt8} (hrange : leadRange lead = some (count, low, high))
    (hread : continuation (lead.toNat % 2 ^ (6 - count)) count low high rest =
      (some code, used)) : 0x80 ≤ code ∧ code.isValidChar := by
  have hvalid : 0x80 ≤ code ∧ (code < 0xd800 ∨ 0xdfff < code ∧ code < 0x110000) →
      0x80 ≤ code ∧ code.isValidChar := id
  apply hvalid
  rcases leadRange_cases hrange with ⟨rfl, hlead⟩ | ⟨rfl, hlead⟩ | ⟨rfl, hlead⟩
  all_goals
    obtain ⟨byte, tail, left, hbyte, htail⟩ := continuation_succ hread
    have hcode := continuation_value htail
    simp only [Nat.reduceSub, Nat.reducePow] at hcode
    omega

/-- An ASCII character stands for the byte of its code. -/
theorem decodeFirst_ascii {lead : UInt8} {rest : List UInt8}
    (hascii : (decodeFirst lead rest).1.toNat < 0x80) : lead < 0x80 := by
  have hreplacement : ¬replacement.toNat < 0x80 := by decide
  by_cases hlead : lead < 0x80
  · exact hlead
  exfalso
  unfold decodeFirst at hascii
  rw [if_neg hlead] at hascii
  cases hrange : leadRange lead with
  | none =>
      rw [hrange] at hascii
      exact hreplacement hascii
  | some range =>
      obtain ⟨count, low, high⟩ := range
      rw [hrange] at hascii
      dsimp only at hascii
      rcases hread : continuation (lead.toNat % 2 ^ (6 - count)) count low high
        rest with ⟨found, used⟩
      rw [hread] at hascii
      cases found with
      | none => exact hreplacement hascii
      | some code =>
          obtain ⟨hbeyond, hvalid⟩ := code_of_continuation hrange hread
          have hchar : Char.ofNat code = Char.ofNatAux code hvalid :=
            dif_pos hvalid
          have hcode : (Char.ofNat code).toNat < 0x80 := hascii
          rw [hchar] at hcode
          exact absurd hcode (Nat.not_lt.mpr hbeyond)

theorem decodeFirst_of_ascii {lead : UInt8} {rest : List UInt8}
    (hascii : (decodeFirst lead rest).1.toNat < 0x80) :
    decodeFirst lead rest = (Char.ofNat lead.toNat, 0) :=
  if_pos (decodeFirst_ascii hascii)

/-- A text that begins with an ASCII character begins with its byte. -/
theorem exists_cons_of_decodeChars {bytes : List UInt8} {c : Char}
    {text : List Char} (hascii : c.toNat < 0x80)
    (hdecode : decodeChars bytes = c :: text) :
    ∃ byte rest, byte < 0x80 ∧ bytes = byte :: rest := by
  cases bytes with
  | nil => cases hdecode
  | cons byte rest =>
      rw [decodeChars_cons] at hdecode
      obtain ⟨rfl, -⟩ := List.cons.inj hdecode
      exact ⟨byte, rest, decodeFirst_ascii hascii, rfl⟩

/-- A text that ends with an ASCII character ends with its byte. -/
theorem exists_concat_of_decodeChars {bytes : List UInt8} {c : Char}
    {text : List Char} (hascii : c.toNat < 0x80)
    (hdecode : decodeChars bytes = text ++ [c]) :
    ∃ front byte, byte < 0x80 ∧ bytes = front ++ [byte] := by
  induction bytes using decode_induction generalizing text with
  | nil => exact absurd hdecode.symm (List.concat_ne_nil c text)
  | cons lead rest ih =>
      rw [decodeChars_cons] at hdecode
      cases text with
      | nil =>
          obtain ⟨rfl, hrest⟩ := List.cons.inj hdecode
          have hlead := decodeFirst_ascii hascii
          rw [decodeFirst_of_ascii hascii, List.drop_zero] at hrest
          have hend : rest = [] := by
            cases rest with
            | nil => rfl
            | cons next rest =>
                rw [decodeChars_cons] at hrest
                cases hrest
          exact ⟨[], lead, hlead, by rw [hend]; rfl⟩
      | cons d text =>
          obtain ⟨-, hrest⟩ := List.cons.inj hdecode
          obtain ⟨front, byte, hbyte, htail⟩ := ih hrest
          refine ⟨lead :: rest.take (decodeFirst lead rest).2 ++ front, byte,
            hbyte, ?_⟩
          rw [List.cons_append, List.cons_append, List.append_assoc, ← htail,
            List.take_append_drop]

/-- Bytes whose text begins and ends with ASCII characters have that text
wherever they stand. -/
theorem decodeChars_between (before : List UInt8) {part : List UInt8}
    (after : List UInt8)
    (hfirst : ∀ c ∈ (decodeChars part).head?, c.toNat < 0x80)
    (hlast : ∀ c ∈ (decodeChars part).getLast?, c.toNat < 0x80) :
    ∃ left right, decodeChars (before ++ part ++ after) =
      left ++ decodeChars part ++ right := by
  cases htext : decodeChars part with
  | nil => exact ⟨_, [], by rw [List.append_nil, List.append_nil]⟩
  | cons c text =>
      rw [htext] at hfirst hlast
      obtain ⟨byte, rest, hbyte, rfl⟩ :=
        exists_cons_of_decodeChars (hfirst c rfl) htext
      rcases List.eq_nil_or_concat (c :: text) with hnil | ⟨most, d, hconcat⟩
      · cases hnil
      rw [List.concat_eq_append] at hconcat
      rw [hconcat, List.getLast?_concat] at hlast
      obtain ⟨front, last, hend, hpart⟩ :=
        exists_concat_of_decodeChars (hlast d rfl) (htext.trans hconcat)
      have hright : ∀ tail, decodeChars (byte :: rest ++ tail) =
          decodeChars (byte :: rest) ++ decodeChars tail := by
        intro tail
        rw [hpart, List.append_assoc, List.singleton_append,
          decodeChars_append_ascii front hend,
          decodeChars_append_ascii front hend []]
        simp [decodeChars, decodeFrom]
      refine ⟨decodeChars before, decodeChars after, ?_⟩
      rw [List.append_assoc, List.cons_append,
        decodeChars_append_ascii before hbyte, ← htext, List.append_assoc,
        ← hright, List.cons_append]
      exact congrArg (decodeChars before ++ ·)
        (decodeChars_append_ascii [] hbyte _).symm

end Utf8

end Foundation
