import CompilerLink.Regex.Mode

/-! # Escapes

What a backslash and the characters behind it stand for. Punctuation stands for itself, a few
letters have a meaning, and every other letter and all digits are refused.

Expressions are written between braces here, so they never hold a closing brace; an escape that goes
on in braces is never finished. -/

namespace CompilerLink.Regex

/-- The meaning of an escape. -/
inductive Escape where
  /-- A character; `ofByte` if it was given as the two digits of a byte. -/
  | literal (c : Char) (ofByte : Bool)
  /-- Digits, blanks or word characters, or everything else. -/
  | kind (negated : Bool)
  /-- The characters of a Unicode category, or all others. -/
  | category (negated : Bool)
  /-- A place where a word starts or ends, or one where none does. -/
  | wordEdge
  /-- The start or the end of the text. -/
  | textEdge
  deriving Repr, DecidableEq

/-- The value of a digit to base sixteen. -/
def hexDigit? (c : Char) : Option Nat :=
  if '0' ≤ c ∧ c ≤ '9' then some (c.toNat - '0'.toNat)
  else if 'a' ≤ c ∧ c ≤ 'f' then some (c.toNat - 'a'.toNat + 10)
  else if 'A' ≤ c ∧ c ≤ 'F' then some (c.toNat - 'A'.toNat + 10)
  else none

/-- Read `n` digits to base sixteen behind the value `v`. -/
def readHex (m : Mode) : Nat → Nat → List Char → Option (Nat × List Char)
  | 0, v, cs => some (v, cs)
  | n + 1, v, cs =>
    match m.skip cs with
    | [] => none
    | c :: rest => (hexDigit? c).bind fun d => readHex m n (16 * v + d) rest

/-- The character of a code point. -/
def charOf? (n : Nat) : Option Char := if n.isValidChar then some (Char.ofNat n) else none

/-- Read a character given by `digits` digits. -/
def readCodePoint (m : Mode) (digits : Nat) (cs : List Char) : Option (Escape × List Char) := do
  let (v, rest) ← readHex m digits 0 cs
  return (.literal (← charOf? v) (digits = 2), rest)

/-- The letters of the Unicode categories that have a name of one letter. -/
def categoryLetters : List Char := ['c', 'l', 'm', 'n', 'p', 's', 'z']

/-- Read the letter of a category. -/
def readCategory (m : Mode) (negated : Bool) (cs : List Char) : Option (Escape × List Char) :=
  match m.skip cs with
  | [] => none
  | c :: rest => if c.toLower ∈ categoryLetters then some (.category negated, rest) else none

/-- Whether a character is punctuation or blank in ASCII. -/
def isPlainMark (c : Char) : Bool := c.toNat < 128 && !c.isAlphanum

/-- Read what stands behind a backslash. -/
def readEscape (m : Mode) : List Char → Option (Escape × List Char)
  | [] => none
  | c :: cs =>
    match c with
    | 'x' => readCodePoint m 2 cs
    | 'u' => readCodePoint m 4 cs
    | 'U' => readCodePoint m 8 cs
    | 'p' => readCategory m false cs
    | 'P' => readCategory m true cs
    | 'd' | 's' | 'w' => some (.kind false, cs)
    | 'D' | 'S' | 'W' => some (.kind true, cs)
    | 'a' => some (.literal '\x07' false, cs)
    | 'f' => some (.literal '\x0c' false, cs)
    | 't' => some (.literal '\t' false, cs)
    | 'n' => some (.literal '\n' false, cs)
    | 'r' => some (.literal '\r' false, cs)
    | 'v' => some (.literal '\x0b' false, cs)
    | 'A' | 'z' => some (.textEdge, cs)
    | 'b' => if cs.head? = some '\x7b' then none else some (.wordEdge, cs)
    | 'B' | '<' | '>' => some (.wordEdge, cs)
    | c => if isPlainMark c then some (.literal c false, cs) else none

end CompilerLink.Regex
