import CompilerLink.Diagnostic
import CompilerLink.Settings
import CompilerLink.Text.Numeral

/-! # Thresholds

A severity is read by its place on the scale, from 1 for errors to 5 for traces, or by its name in
letters of either case. A `Threshold` lets severities through up to the one it names; it may also
let nothing through, which is written as place 0 or `off`. -/

namespace CompilerLink

/-- Read a severity. -/
def Severity.parse? (text : String) : Option Severity :=
  match (Text.unsigned? wordMax text).bind fun n => all.find? (·.verbosity = n) with
  | some severity => some severity
  | none => all.find? (·.name = text.map Char.toUpper)

/-- The most talkative severity let through; `none` lets nothing through. -/
abbrev Threshold := Option Severity

namespace Threshold

/-- Read a threshold. -/
def parse? (text : String) : Option Threshold :=
  if Text.unsigned? wordMax text = some 0 ∨ text.map Char.toUpper = "OFF" then some none
  else (Severity.parse? text).map some

/-- Whether a severity is let through. -/
def admits (t : Threshold) (s : Severity) : Bool := t.any (s.verbosity ≤ ·.verbosity)

end Threshold

end CompilerLink
