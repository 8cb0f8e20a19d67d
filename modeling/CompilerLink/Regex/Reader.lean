import CompilerLink.Regex.CharClass
import CompilerLink.Text.Alphanumeric

/-! # Regular expressions

`isUsable` tells whether text is a regular expression that an automaton over the bytes of text can
match. The expression has to be well formed; it may not match part of a character; and it may not
ask for edges of words in the sense of Unicode, because an automaton does not see far enough. In the
mode that matches bytes the edges of ASCII words are fine.

Expressions are written between braces here, so they never hold a closing brace, and a count behind
an opening brace is never finished. -/

namespace CompilerLink.Regex

/-- A part of an expression. -/
structure Piece where
  /-- How deep it is nested. -/
  depth : Nat := 0
  /-- Whether it may be repeated. -/
  repeatable : Bool := true

/-- A group whose end has not been read yet. -/
structure OpenGroup where
  /-- How deep the alternatives before the last one are nested. -/
  branches : List Nat := []
  /-- The parts of the last alternative, the latest first. -/
  pieces : List Piece := []

namespace OpenGroup

/-- How deep the last alternative is nested. -/
def branch (g : OpenGroup) : Nat := jointDepth (g.pieces.map Piece.depth)

/-- How deep the content is nested. -/
def depth (g : OpenGroup) : Nat := jointDepth (g.branch :: g.branches)

/-- Take in a part. -/
def add (g : OpenGroup) (piece : Piece) : OpenGroup := { g with pieces := piece :: g.pieces }

/-- Begin another alternative. -/
def alternative (g : OpenGroup) : OpenGroup := { branches := g.branch :: g.branches }

/-- Repeat the last part. -/
def repeatLast? (g : OpenGroup) : Option OpenGroup :=
  match g.pieces with
  | [] => none
  | piece :: rest =>
    if piece.repeatable then some { g with pieces := { depth := piece.depth + 1 } :: rest }
    else none

end OpenGroup

/-- How an expression has been read so far. -/
structure Reading where
  mode : Mode := {}
  /-- The names of groups so far. -/
  names : List (List Char) := []
  /-- The innermost open group, or the whole expression. -/
  group : OpenGroup := {}
  /-- The groups around it, each with the mode that holds in it. -/
  outer : List (Mode × OpenGroup) := []

namespace Reading

/-- Take in a part. -/
def add (r : Reading) (piece : Piece) : Reading := { r with group := r.group.add piece }

/-- Go into a group. -/
def enter (r : Reading) (mode : Mode) : Reading :=
  { r with mode, group := {}, outer := (r.mode, r.group) :: r.outer }

/-- Leave a group. -/
def leave? (r : Reading) : Option Reading :=
  match r.outer with
  | [] => none
  | (mode, group) :: outer =>
    some { r with mode, group := group.add { depth := 1 + r.group.depth }, outer }

end Reading

/-- Whether text is the name of a group. -/
def isGroupName : List Char → Bool
  | [] => false
  | c :: cs =>
    (c = '_' || Text.isLetter c)
      && cs.all fun c => c ∈ ['_', '.', '[', ']'] || Text.isAlphanumeric c

/-- Read the name of a group and go into it. -/
def readGroupName (r : Reading) (cs : List Char) : Option (Reading × List Char) :=
  let name := cs.takeWhile (· ≠ '>')
  match cs.dropWhile (· ≠ '>') with
  | [] => none
  | _ :: rest =>
    if isGroupName name ∧ name ∉ r.names then
      some ({ r with names := name :: r.names }.enter r.mode, rest)
    else none

/-- Read what stands behind an opening parenthesis. A look ahead or behind is refused. -/
def readGroup (r : Reading) (cs : List Char) : Option (Reading × List Char) :=
  match r.mode.skip cs with
  | '?' :: '=' :: _ | '?' :: '!' :: _ | '?' :: '<' :: '=' :: _ | '?' :: '<' :: '!' :: _ => none
  | '?' :: 'P' :: '<' :: rest => readGroupName r rest
  | '?' :: '<' :: rest => readGroupName r rest
  | '?' :: rest =>
    match readSwitches r.mode [] false false rest with
    | none => none
    | some (mode, .group, rest') => some (r.enter mode, rest')
    | some (mode, .here, rest') => some ({ r with mode }.add { repeatable := false }, rest')
  | rest => some (r.enter r.mode, rest)

/-- Whether an escape may stand in an expression. Where bytes are matched, a lone byte beyond ASCII
would be part of a character. -/
def Escape.isAllowed (m : Mode) : Escape → Bool
  | literal c ofByte => m.unicode || !ofByte || c.toNat < 128
  | kind negated => m.unicode || !negated
  | category _ => m.unicode
  | wordEdge => !m.unicode
  | textEdge => true

/-- Read one part, or go into or out of a group. -/
def readPiece (r : Reading) : List Char → Option (Reading × List Char)
  | [] => none
  | '(' :: cs => readGroup r cs
  | ')' :: cs => r.leave?.map (·, cs)
  | '|' :: cs => some ({ r with group := r.group.alternative }, cs)
  | '[' :: cs => do
    let start ← readClassStart r.mode cs
    let (depth, rest) ← readClass r.mode (start.length + 1) {} [] start
    return (r.add { depth }, rest)
  | '\x7b' :: _ => none
  | '\\' :: cs => do
    let (escape, rest) ← readEscape r.mode cs
    if escape.isAllowed r.mode then some (r.add {}, rest) else none
  | '.' :: cs => if r.mode.unicode then some (r.add {}, cs) else none
  | c :: cs =>
    if c ∈ ['?', '*', '+'] then
      let rest := if cs.head? = some '?' then cs.drop 1 else cs
      r.group.repeatLast?.map fun group => ({ r with group }, rest)
    else some (r.add {}, cs)

/-- Read an expression to its end, where no group may be open. Every step uses up a character and
one unit of fuel. -/
def read? : Nat → Reading → List Char → Option Reading
  | 0, _, _ => none
  | fuel + 1, r, cs =>
    match r.mode.skip cs with
    | [] => if r.outer.isEmpty then some r else none
    | rest =>
      match readPiece r rest with
      | none => none
      | some (r', rest') => read? fuel r' rest'

/-- How deep an expression may be nested. -/
def depthLimit : Nat := 250

/-- Whether text is a regular expression that an automaton over the bytes of text can match. -/
def isUsable (cs : List Char) : Bool :=
  (read? (cs.length + 1) {} cs).any (·.group.depth ≤ depthLimit)

end CompilerLink.Regex
