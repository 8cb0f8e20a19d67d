/-! # Cutting text at byte places

A place in a text is the number of bytes in front of it when the text is written in UTF-8. Text can
be cut only between characters, so a cut inside a character, or beyond the end, has no answer. -/

namespace CompilerLink.Text

/-- The bytes that characters take up. -/
def byteCount : List Char → Nat
  | [] => 0
  | c :: cs => c.utf8Size + byteCount cs

/-- What is left of a text from a place on. -/
def dropBytes? : Nat → List Char → Option (List Char)
  | 0, cs => some cs
  | _ + 1, [] => none
  | n + 1, c :: cs => if c.utf8Size ≤ n + 1 then dropBytes? (n + 1 - c.utf8Size) cs else none

/-- What a text holds in front of a place. -/
def takeBytes? : Nat → List Char → Option (List Char)
  | 0, _ => some []
  | _ + 1, [] => none
  | n + 1, c :: cs =>
    if c.utf8Size ≤ n + 1 then (takeBytes? (n + 1 - c.utf8Size) cs).map (c :: ·) else none

/-- The part of a text between two places. -/
def slice? (first past : Nat) (cs : List Char) : Option (List Char) :=
  if first ≤ past then (dropBytes? first cs).bind (takeBytes? (past - first)) else none

end CompilerLink.Text
