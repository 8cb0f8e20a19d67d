/-! # When log lines are coloured

The choice is written `auto`, `always` or `never`, in letters of either case. No letter beyond ASCII
has one of theirs as its small form, so ASCII's are the only ones that count. -/

namespace CompilerLink.CommandLine

/-- When log lines are coloured. -/
inductive LogColor where
  /-- When they go to a terminal. -/
  | auto
  | always
  | never
  deriving Repr, DecidableEq

namespace LogColor

/-- How a choice is written. -/
def name : LogColor → String
  | auto => "auto"
  | always => "always"
  | never => "never"

/-- What is said of text that is no choice. -/
def unknownMessage (text : String) : String :=
  "Invalid log color '" ++ text ++ "'. Expected: auto, always, or never"

/-- Read a choice. -/
def parse (text : String) : Except String LogColor :=
  match [auto, always, never].find? fun choice => choice.name = text.map Char.toLower with
  | some choice => .ok choice
  | none => .error (unknownMessage text)

end LogColor

end CompilerLink.CommandLine
