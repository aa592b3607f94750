import Mathlib.Data.List.Basic

/-!
# Instants and their RFC 3339 text

An instant with the zone offset it is displayed in, and the text `time.RFC3339Nano` gives it, which
is what Go's JSON encoder writes for a time in the years 0 to 9999.
-/

/-- Nanoseconds since the Unix epoch, and the zone offset in minutes. -/
structure Time where
  unixNano : Int
  zone : Int := 0
deriving DecidableEq, Repr

namespace Time

/-- Year, month and day of a day number counted from 1970-01-01 (proleptic Gregorian calendar,
reckoned in eras of 400 years that begin on 1 March). -/
def civil (day : Int) : Int × Int × Int :=
  let z := day + 719468
  let era := z.fdiv 146097
  let doe := z - era * 146097
  let yoe := (doe - doe / 1460 + doe / 36524 - doe / 146096) / 365
  let doy := doe - (365 * yoe + yoe / 4 - yoe / 100)
  let mp := (5 * doy + 2) / 153
  let m := if mp < 10 then mp + 3 else mp - 9
  (yoe + era * 400 + (if m ≤ 2 then 1 else 0), m, doy - (153 * mp + 2) / 5 + 1)

/-- Decimal text of at least `width` digits. -/
def padded (width : Nat) (n : Int) : String :=
  let s := toString n.toNat
  .ofList (List.replicate (width - s.length) '0' ++ s.toList)

/-- The fraction of a second without its trailing zeros, with the point. -/
def fraction (nanos : Int) : String :=
  if nanos = 0 then "" else
    "." ++ .ofList ((padded 9 nanos).toList.reverse.dropWhile (· = '0')).reverse

def zoneText (zone : Int) : String :=
  if zone = 0 then "Z" else
    (if zone < 0 then "-" else "+") ++ padded 2 (zone.natAbs / 60 : Nat) ++ ":" ++
      padded 2 (zone.natAbs % 60 : Nat)

def rfc3339Nano (t : Time) : String :=
  let nanos := t.unixNano + t.zone * 60000000000
  let secs := nanos.fdiv 1000000000
  let (y, m, d) := civil (secs.fdiv 86400)
  let sod := secs.fmod 86400
  padded 4 y ++ "-" ++ padded 2 m ++ "-" ++ padded 2 d ++ "T" ++ padded 2 (sod / 3600) ++ ":" ++
    padded 2 (sod / 60 % 60) ++ ":" ++ padded 2 (sod % 60) ++ fraction (nanos.fmod 1000000000) ++
    zoneText t.zone

end Time
