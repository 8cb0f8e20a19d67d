import CompilerLink.Text.Blank

/-! # Switches of regular expressions

A group may turn switches on and, behind a hyphen, off: `(?i-u:…)` for itself, `(?x)` for what
follows in the group around it. A `Mode` keeps the switches that matter for how an expression is
read. In a spaced mode blanks do not count, and `#` starts a comment up to the end of its line. -/

namespace CompilerLink.Regex

/-- The switches that matter for how an expression is read. -/
structure Mode where
  /-- Characters are matched, and not bytes. -/
  unicode : Bool := true
  /-- Blanks and comments do not count. -/
  spaced : Bool := false
  deriving Repr, DecidableEq

/-- The letters of all switches. -/
def switchLetters : List Char := ['i', 'm', 's', 'U', 'u', 'R', 'x']

namespace Mode

/-- Turn a switch on or off. The other switches change what an expression matches, not how it is
read. -/
def set (m : Mode) (letter : Char) (on : Bool) : Mode :=
  match letter with
  | 'u' => { m with unicode := on }
  | 'x' => { m with spaced := on }
  | _ => m

/-- Leave out blanks and comments. -/
def skipBlanks (inComment : Bool) : List Char → List Char
  | [] => []
  | c :: cs =>
    if inComment then skipBlanks (c ≠ '\n') cs
    else if Text.isBlank c then skipBlanks false cs
    else if c = '#' then skipBlanks true cs
    else c :: cs

/-- Go on to the next character that counts. -/
def skip (m : Mode) (cs : List Char) : List Char := if m.spaced then skipBlanks false cs else cs

end Mode

/-- The end of a list of switches. -/
inductive SwitchEnd where
  /-- The switches are for what follows in the group around them. -/
  | here
  /-- The switches are for a group of their own. -/
  | group
  deriving Repr, DecidableEq

/-- Read switches up to the mark behind them. No switch may be named twice, and a hyphen has to have
one behind it. -/
def readSwitches (m : Mode) (named : List Char) (off dangling : Bool) :
    List Char → Option (Mode × SwitchEnd × List Char)
  | [] => none
  | ':' :: cs => if dangling then none else some (m, .group, cs)
  | ')' :: cs => if dangling ∨ named = [] then none else some (m, .here, cs)
  | '-' :: cs => if off then none else readSwitches m named true true cs
  | c :: cs =>
    if c ∈ switchLetters ∧ c ∉ named then readSwitches (m.set c !off) (c :: named) off false cs
    else none

end CompilerLink.Regex
