import CompilerLink.Regex.Escape

/-! # Character classes

A class stands between brackets: characters, ranges, escapes and further classes, among which the
operators `&&`, `--` and `~~` may stand. `[:alpha:]` and its like are classes by name, but only
inside another class. At the start of a class hyphens are characters, and so is a closing bracket.

A class that matches bytes may hold ASCII only; its complement would hold more. `readClass` tells
how deep a well-formed class is nested. -/

namespace CompilerLink.Regex

/-- How deep things that stand side by side are nested: a row of several is a level of its own. -/
def jointDepth : List Nat → Nat
  | [] => 0
  | [d] => d
  | ds => 1 + ds.foldl max 0

/-- A class whose end has not been read yet. -/
structure OpenClass where
  /-- How deep the operands before the last operator are nested. -/
  before : Option Nat := none
  /-- How deep the members since then are nested. -/
  members : List Nat := []
  /-- Whether nothing but hyphens has been read yet. -/
  atStart : Bool := true

namespace OpenClass

/-- How deep the content is nested. -/
def depth (o : OpenClass) : Nat :=
  o.before.elim (jointDepth o.members) fun d => 1 + max d (jointDepth o.members)

/-- Take in a member. -/
def add (o : OpenClass) (depth : Nat) : OpenClass := { o with members := depth :: o.members }

/-- Begin another operand. -/
def operator (o : OpenClass) : OpenClass := { before := some o.depth, atStart := false }

end OpenClass

/-- Read what stands behind an opening bracket, up to the first member. -/
def readClassStart (m : Mode) (cs : List Char) : Option (List Char) :=
  match m.skip cs with
  | '^' :: rest => if m.unicode then some rest else none
  | rest => some rest

/-- The classes that have a name. -/
def classNames : List String :=
  ["alnum", "alpha", "ascii", "blank", "cntrl", "digit", "graph", "lower", "print", "punct",
    "space", "upper", "word", "xdigit"]

/-- Read a class by name behind its opening bracket: whether it is a complement, and what
follows. -/
def readNamedClass : List Char → Option (Bool × List Char)
  | ':' :: cs =>
    let (negated, cs) := match cs with
      | '^' :: rest => (true, rest)
      | _ => (false, cs)
    match cs.dropWhile (· ≠ ':') with
    | ':' :: ']' :: rest =>
      if String.ofList (cs.takeWhile (· ≠ ':')) ∈ classNames then some (negated, rest) else none
    | _ => none
  | _ => none

/-- Read a character or an escape of a class. -/
def readMember (m : Mode) : List Char → Option (Escape × List Char)
  | [] => none
  | '\\' :: cs => readEscape m cs
  | c :: cs => some (.literal c false, cs)

/-- Whether an escape may be a member of a class. -/
def Escape.isMember (m : Mode) : Escape → Bool
  | literal c _ => m.unicode || c.toNat < 128
  | kind negated => m.unicode || !negated
  | category _ => m.unicode
  | wordEdge | textEdge => false

/-- Whether two escapes are the ends of a range. -/
def isRange : Escape → Escape → Bool
  | .literal first _, .literal last _ => first ≤ last
  | _, _ => false

/-- The character that counts next, for a look ahead from a hyphen: behind a number sign a blank is
passed over too, but the sign itself only once. -/
def lookAhead (m : Mode) (cs : List Char) : Option Char :=
  if m.spaced then
    match cs.dropWhile Text.isBlank with
    | [] => cs.head?
    | '#' :: rest => (rest.dropWhile Text.isBlank).head?.or cs.head?
    | c :: _ => some c
  else cs.head?

/-- Read a member or a range of members. -/
def readMembers (m : Mode) (cs : List Char) : Option (List Char) := do
  let (first, rest) ← readMember m cs
  if first.isMember m then
    match m.skip rest with
    | '-' :: rest' =>
      if lookAhead m rest' = some ']' ∨ lookAhead m rest' = some '-' then some ('-' :: rest')
      else
        let (last, rest'') ← readMember m (m.skip rest')
        if last.isMember m ∧ isRange first last then some rest'' else none
    | rest' => some rest'
  else none

/-- Read a class up to its closing bracket: how deep it is nested, and what follows. `outer` are the
classes around it; every step uses up a character and one unit of fuel. -/
def readClass (m : Mode) :
    Nat → OpenClass → List OpenClass → List Char → Option (Nat × List Char)
  | 0, _, _, _ => none
  | fuel + 1, o, outer, cs =>
    let inner := { o with atStart := false }
    match m.skip cs, o.atStart, o.members with
    | '-' :: rest, true, _ => readClass m fuel (o.add 0) outer rest
    | ']' :: rest, true, [] => readClass m fuel (inner.add 0) outer rest
    | ']' :: rest, _, _ =>
      match outer with
      | [] => some (1 + o.depth, rest)
      | o' :: outer' => readClass m fuel (o'.add (1 + o.depth)) outer' rest
    | '[' :: rest, _, _ =>
      match readNamedClass rest with
      | some (negated, rest') =>
        if m.unicode ∨ !negated then readClass m fuel (inner.add 0) outer rest' else none
      | none => (readClassStart m rest).bind (readClass m fuel {} (inner :: outer))
    | '&' :: '&' :: rest, _, _ => readClass m fuel o.operator outer rest
    | '-' :: '-' :: rest, _, _ => readClass m fuel o.operator outer rest
    | '~' :: '~' :: rest, _, _ => readClass m fuel o.operator outer rest
    | rest, _, _ => (readMembers m rest).bind (readClass m fuel (inner.add 0) outer)

end CompilerLink.Regex
