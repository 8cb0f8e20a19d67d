import CompilerLink.Text.Hidden

/-! # Quoted text

`quoted s` is `s` between double quotes on one line: a quote and a backslash are written with a
backslash before them, the common controls by their letter, and every other character without a
picture of its own by its code point. -/

namespace CompilerLink.Text

/-- The digits of `n` to base sixteen, in lower case and without leading zeros. -/
def hex (n : Nat) : List Char := Nat.toDigits 16 n

/-- How one character is written between double quotes. -/
def escape (c : Char) : List Char :=
  match c with
  | '"' => ['\\', '"']
  | '\\' => ['\\', '\\']
  | '\n' => ['\\', 'n']
  | '\r' => ['\\', 'r']
  | '\t' => ['\\', 't']
  | '\x00' => ['\\', '0']
  | c => if isHidden c then ['\\', 'u', '\x7b'] ++ hex c.toNat ++ ['\x7d'] else [c]

/-- `s` between double quotes, on one line. -/
def quoted (s : String) : String :=
  String.ofList ('"' :: s.toList.flatMap escape ++ ['"'])

end CompilerLink.Text
