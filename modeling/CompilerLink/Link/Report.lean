import CompilerLink.Link.Basic
import CompilerLink.Sink

/-! # The report

What the program prints after an exercise: the sums, the places that compiled code depends on and,
if wanted, the events in memory. -/

namespace CompilerLink

/-- Sums between brackets. -/
def sumsText (sums : List Int64) : String :=
  "[" ++ ", ".intercalate (sums.map fun v => toString v.toInt) ++ "]"

namespace PublishedField

/-- The width that names are filled up to. -/
def nameWidth : Nat := 24

/-- The line of a published place. -/
def line (f : PublishedField) : String :=
  "  " ++ f.name ++ "".pushn ' ' (nameWidth - f.name.length) ++ " " ++ toString f.offset ++ "\n"

end PublishedField

namespace Link

variable {η : Type}

/-- The lines of the report. -/
def summary (l : Link η) (sums : List Int64) (withEvents : Bool) : List String :=
  ["counters: " ++ sumsText sums ++ "\n", "published thread layout:\n"]
    ++ l.layout.map PublishedField.line ++ (if withEvents then l.events.report else [])

end Link

end CompilerLink
