/-! # Names in the paths of libraries

In the path of a library the operating system's loader replaces certain names behind a dollar sign,
with or without braces, by text of its own. `Token.expand?` does so. It is structural over
the path; the characters of a name that has been replaced are counted off. -/

namespace CompilerLink.Library

/-- A name to be replaced. -/
inductive Token where
  /-- The directory of the system's libraries. -/
  | libraries
  /-- The directory of the running program. -/
  | program
  /-- The kind of the processor. -/
  | processor
  deriving Repr, DecidableEq

namespace Token

/-- All names to be replaced. -/
def all : List Token := [libraries, program, processor]

/-- How a name is written. -/
def spelling : Token → List Char
  | libraries => "LIB".toList
  | program => "ORIGIN".toList
  | processor => "PLATFORM".toList

/-- What a name is replaced by, if a library may be put there: where the program is there are no
libraries. -/
def replacement? : Token → Option (List Char)
  | libraries => some "lib/x86_64-linux-gnu".toList
  | program => none
  | processor => some "x86_64".toList

/-- How many characters of a text are a name at its start. Without braces the name may not go on. -/
def lengthIn? (text : List Char) (t : Token) : Option Nat :=
  let length := t.spelling.length
  if ('\x7b' :: t.spelling ++ ['\x7d']).isPrefixOf text then some (length + 2)
  else if t.spelling.isPrefixOf text
    ∧ (text[length]?).all fun c => !(c.isAlphanum || c = '_') then some length
  else none

/-- The name at the start of a text, and how many characters it has. -/
def find? (text : List Char) : Option (Token × Nat) :=
  all.findSome? fun t => (t.lengthIn? text).map (t, ·)

/-- Replace the names in a path from which `used` characters have been used up; there is none if one
of them cannot be replaced. -/
def expandFrom? : Nat → List Char → Option (List Char)
  | _, [] => some []
  | used + 1, _ :: cs => expandFrom? used cs
  | 0, c :: cs =>
    match if c = '$' then find? cs else none with
    | some (t, length) => do return (← t.replacement?) ++ (← expandFrom? length cs)
    | none => (expandFrom? 0 cs).map (c :: ·)

/-- Replace the names in a path. -/
def expand? (path : String) : Option String :=
  (expandFrom? 0 path.toList).map String.ofList

end Token

end CompilerLink.Library
