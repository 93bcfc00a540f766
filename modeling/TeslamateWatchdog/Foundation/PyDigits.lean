/-
`int` and `str` of the natural numbers: a number that is written out is read
back, as long as `int` takes that many digits, and `int` returns no others.
-/
import TeslamateWatchdog.Foundation.PyNumber

namespace Foundation

namespace PyText

/-- The numbers with no more digits than `int` takes. -/
def intLimit : Nat := 10 ^ maxStrDigits

theorem digit?_lt {c : Char} {digit : Nat} (hdigit : digit? c = some digit) :
    digit < 10 := by
  obtain ⟨first, hfind, rfl⟩ := Option.map_eq_some_iff.mp hdigit
  have hrange := List.find?_some hfind
  rw [Bool.and_eq_true, decide_eq_true_eq, decide_eq_true_eq] at hrange
  omega

theorem readDigits_lt {chars rest : List Char} {value count result read : Nat}
    (hread : readDigits value count chars = (result, read, rest))
    (hvalue : value < 10 ^ count) : result < 10 ^ read := by
  have hnext : ∀ {value count digit : Nat}, value < 10 ^ count → digit < 10 →
      value * 10 + digit < 10 ^ (count + 1) := by
    intro value count digit hvalue hdigit
    rw [Nat.pow_succ]
    omega
  fun_induction readDigits value count chars with
  | case1 => cases hread; exact hvalue
  | case2 _ _ _ _ digit hdigit _ ih =>
      exact ih hread (hnext hvalue (digit?_lt hdigit))
  | case3 => cases hread; exact hvalue
  | case4 => cases hread; exact hvalue
  | case5 _ _ _ _ _ digit hdigit ih =>
      exact ih hread (hnext hvalue (digit?_lt hdigit))
  | case6 => cases hread; exact hvalue

theorem toInt_lt {text : String} {value : Int} (hint : toInt text = .ok value) :
    value < intLimit := by
  unfold toInt at hint
  rcases hdigits : readDigits 0 0 (readSign (strip text).toList).2 with
    ⟨result, count, rest⟩
  dsimp only at hint
  rw [hdigits] at hint
  cases rest with
  | cons c rest => cases hint
  | nil =>
      have hresult := readDigits_lt hdigits (by decide)
      dsimp only at hint
      split at hint
      · cases hint
      · rename_i hcount
        have hlimit : 10 ^ count ≤ intLimit :=
          Nat.pow_le_pow_right (by decide) (by omega)
        cases hint
        split <;> omega

theorem digit?_of_isDigit {c : Char} (hdigit : c.isDigit = true) :
    digit? c = some (c.toNat - '0'.toNat) := by
  obtain ⟨hlow, hhigh⟩ : 0x30 ≤ c.toNat ∧ c.toNat < 0x30 + 10 := by
    rw [Char.isDigit, Bool.and_eq_true, decide_eq_true_eq,
      decide_eq_true_eq] at hdigit
    exact ⟨hdigit.1, Nat.lt_succ_of_le hdigit.2⟩
  rw [digit?, digitZeros, List.find?_cons_of_pos (by simp [hlow, hhigh])]
  rfl

theorem decimalValue_toDigits (n : Nat) :
    decimalValue (Nat.toDigits 10 n) = n := by
  have hfold : ∀ {chars : List Char}, (∀ c ∈ chars, c.isDigit = true) →
      ∀ value, chars.foldl (fun value c => value * 10 + (digit? c).getD 0) value =
        Nat.ofDigitChars 10 chars value := by
    intro chars hdigits
    induction chars with
    | nil => exact fun _ => rfl
    | cons c rest ih =>
        intro value
        rw [List.forall_mem_cons] at hdigits
        rw [List.foldl_cons, ih hdigits.2, Nat.ofDigitChars_cons,
          digit?_of_isDigit hdigits.1, Option.getD_some, Nat.mul_comm]
  rw [decimalValue_eq_foldl, hfold fun c hc =>
      Nat.isDigit_of_mem_toDigits (by decide) (by decide) hc,
    Nat.ofDigitChars_ten_toDigits]

/-- `int(str(n))` is `n`. -/
theorem toInt_toString {n : Nat} (hlimit : n < intLimit) :
    toInt (toString (n : Int)) = .ok (n : Int) := by
  have hlength : (Nat.toDigits 10 n).length ≤ maxStrDigits :=
    (Nat.length_toDigits_le_iff (by decide) (by decide)).mpr hlimit
  have hdecimals : ∀ c ∈ Nat.toDigits 10 n, isDecimal c = true := by
    intro c hc
    rw [isDecimal, digit?_of_isDigit
      (Nat.isDigit_of_mem_toDigits (by decide) (by decide) hc)]
    rfl
  have htext : toString (n : Int) = String.ofList (Nat.toDigits 10 n) :=
    Nat.repr_eq_ofList_toDigits
  rw [htext, toInt_of_decimals Nat.toDigits_ne_nil hdecimals hlength,
    decimalValue_toDigits]

end PyText

end Foundation
