import FederationObservatory.Misc.Decimal

/-!
# Timestamps

`format_timestamp` (`foundation.cpp`): nanoseconds since 1970 as a date and a time of day.
-/

namespace FederationObservatory

/-- `civil_from_days`: the year, the month and the day of a day since 1970-01-01. -/
def civilFromDays (z : Int64) : Int64 × UInt32 × UInt32 :=
  let z := z + 719468
  let era := (if 0 ≤ z then z else z - 146096) / 146097
  let doe := (z - era * 146097).toUInt64.toUInt32
  let yoe := (doe - doe / 1460 + doe / 36524 - doe / 146096) / 365
  let y := yoe.toUInt64.toInt64 + era * 400
  let doy := doe - (365 * yoe + yoe / 4 - yoe / 100)
  let mp := (5 * doy + 2) / 153
  let d := doy - (153 * mp + 2) / 5 + 1
  let month := mp.toInt32 + if mp < 10 then 3 else -9
  let m := month.toUInt32
  (y + if m ≤ 2 then 1 else 0, m, d)

/-- Division that rounds down, as `format_timestamp` corrects it: the quotient and the remainder. -/
def floorDivide (value divisor : Int64) : Int64 × Int64 :=
  let quotient := value / divisor
  let remainder := value % divisor
  if remainder < 0 then (quotient - 1, remainder + divisor) else (quotient, remainder)

/-- `format_timestamp`. -/
def formatTimestamp (nanos : Int64) : Text :=
  if nanos = 0 then .ofString "unset"
  else
    let seconds := (floorDivide nanos 1000000000).1
    let fraction := (floorDivide nanos 1000000000).2
    let days := (floorDivide seconds 86400).1
    let rem := (floorDivide seconds 86400).2
    let date := civilFromDays days
    let hours := (rem / 3600).toUInt64
    let minutes := (rem % 3600 / 60).toUInt64
    let secs := (rem % 60).toUInt64
    let millis := (fraction / 1000000).toUInt64
    Text.pad date.1.toUInt64.toNat 4 ++ Text.ofString "-" ++ Text.pad date.2.1.toNat 2 ++
      Text.ofString "-" ++ Text.pad date.2.2.toNat 2 ++ Text.ofString "T" ++
      Text.pad hours.toNat 2 ++ Text.ofString ":" ++ Text.pad minutes.toNat 2 ++
      Text.ofString ":" ++ Text.pad secs.toNat 2 ++ Text.ofString "." ++
      Text.pad millis.toNat 3 ++ Text.ofString "Z"

end FederationObservatory
