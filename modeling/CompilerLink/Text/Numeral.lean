/-! # Numerals

A numeral is one or more of the ten ASCII digits, with a sign in front if the reader allows one.
Leading zeros are allowed, blanks and separators are not. A real numeral may have a point among or
beside its digits and a power of ten behind them, or be a word for infinity or for no number. -/

namespace CompilerLink.Text

/-- The value of a digit. -/
def digit? (c : Char) : Option Nat := if c.isDigit then some (c.toNat - '0'.toNat) else none

/-- The value of a row of digits, to base ten. -/
def digits? : List Char → Option Nat
  | [] => none
  | cs => cs.foldl (fun n c => n.bind fun n => (digit? c).map (n * 10 + ·)) (some 0)

/-- An unsigned numeral of at most `max`; a plus sign is allowed. -/
def unsigned? (max : Nat) (text : String) : Option Nat :=
  let digits := match text.toList with
    | '+' :: rest => digits? rest
    | cs => digits? cs
  digits.filter (· ≤ max)

/-- A numeral between zero and `max`; either sign is allowed, so zero may be negative. -/
def bounded? (max : Nat) (text : String) : Option Nat :=
  match text.toList with
  | '-' :: rest => (digits? rest).filter (· = 0)
  | _ => unsigned? max text

/-- Text without the sign in front. -/
def unsignedPart : List Char → List Char
  | '+' :: rest => rest
  | '-' :: rest => rest
  | cs => cs

/-- Whether text is a power of ten behind the digits of a real numeral, or nothing. -/
def isScale : List Char → Bool
  | [] => true
  | c :: rest =>
    let power := unsignedPart rest
    c.toLower = 'e' && power ≠ [] && power.all Char.isDigit

/-- Whether text is digits, at least one, with at most one point and with a power of ten. -/
def isScaledDecimal (cs : List Char) : Bool :=
  let whole := cs.takeWhile Char.isDigit
  match cs.dropWhile Char.isDigit with
  | '.' :: rest =>
    !(whole ++ rest.takeWhile Char.isDigit).isEmpty && isScale (rest.dropWhile Char.isDigit)
  | rest => !whole.isEmpty && isScale rest

/-- Words that stand for what is no real number. -/
def unboundedWords : List String := ["inf", "infinity", "nan"]

/-- Whether text is a real numeral. -/
def isReal (cs : List Char) : Bool :=
  let magnitude := unsignedPart cs
  isScaledDecimal magnitude || String.ofList (magnitude.map Char.toLower) ∈ unboundedWords

end CompilerLink.Text
