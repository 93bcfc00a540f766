/-
Time stamps as Python's `datetime` prints them.
-/
import TeslamateWatchdog.Foundation.PyText
import TeslamateWatchdog.Foundation.PyValue

namespace Foundation

namespace PyTime

/-- A proleptic Gregorian date. -/
structure CivilDate where
  year : Int
  month : Nat
  day : Nat
deriving Repr, DecidableEq

/-- The date of a day counted from 1970-01-01.  Years start in March and are
counted in eras of 400 inside. -/
def civilFromDays (daysSinceEpoch : Int) : CivilDate :=
  let shifted := daysSinceEpoch + 719468
  let era := shifted.fdiv 146097
  let dayOfEra := (shifted - era * 146097).toNat
  let yearOfEra := (dayOfEra - dayOfEra / 1460 + dayOfEra / 36524 -
    dayOfEra / 146096) / 365
  let dayOfYear :=
    dayOfEra - (365 * yearOfEra + yearOfEra / 4 - yearOfEra / 100)
  let marchMonth := (5 * dayOfYear + 2) / 153
  let month := if marchMonth < 10 then marchMonth + 3 else marchMonth - 9
  { year := yearOfEra + era * 400 + if month ≤ 2 then 1 else 0
    month := month
    day := dayOfYear - (153 * marchMonth + 2) / 5 + 1 }

/-- The whole microseconds `datetime.fromtimestamp` keeps of a time stamp. -/
def microseconds (seconds : ℚ) : Int :=
  PyFloat.roundHalfEven (seconds * 1000000)

/-- The microsecond counts from year 1 up to and including year 9999. -/
def Representable (micros : Int) : Prop :=
  -62135596800000000 ≤ micros ∧ micros < 253402300800000000

instance (micros : Int) : Decidable (Representable micros) :=
  inferInstanceAs (Decidable (_ ∧ _))

/-- `isoformat()` of the UTC time a microsecond count stands for. -/
def isoFormat (micros : Int) : String :=
  let seconds := micros.fdiv 1000000
  let fraction := (micros - seconds * 1000000).toNat
  let date := civilFromDays (seconds.fdiv 86400)
  let second := (seconds - seconds.fdiv 86400 * 86400).toNat
  let pad := PyText.zeroPadded
  let day :=
    pad 4 date.year.toNat ++ "-" ++ pad 2 date.month ++ "-" ++ pad 2 date.day
  let time :=
    pad 2 (second / 3600) ++ ":" ++ pad 2 (second / 60 % 60) ++ ":" ++
      pad 2 (second % 60)
  let rest := if fraction = 0 then "" else "." ++ pad 6 fraction
  day ++ "T" ++ time ++ rest ++ "+00:00"

/-- `datetime.fromtimestamp(stamp, tz=timezone.utc).isoformat()`.  Outside the
years 1 to 9999 it raises: a ValueError while the year fits the C structure of
`gmtime`, an OSError beyond, an OverflowError beyond 64 bits of seconds. -/
def isoFromTimestamp : PyFloat → Except PyError String
  | .nan => .error .valueError
  | .posInf => .error .overflowError
  | .negInf => .error .overflowError
  | .finite seconds =>
      if Representable (microseconds seconds) then
        .ok (isoFormat (microseconds seconds))
      else if -67768040609740800 ≤ seconds ∧ seconds < 67768036191676800 then
        .error .valueError
      else if -2 ^ 63 ≤ seconds ∧ seconds < 2 ^ 63 then .error .osError
      else .error .overflowError

example : isoFromTimestamp (.finite (1800000000 + 1 / 2)) =
    .ok "2027-01-15T08:00:00.500000+00:00" := by decide +kernel

end PyTime

end Foundation
