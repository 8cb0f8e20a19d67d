/-! # Thread numbers

Fatal errors may come from threads that nobody has registered, so threads are numbered when they
first ask. Numbers start at 1, are never handed out twice, and a thread keeps its number. Only a
thread that is ending has no place left to keep one, and is given a new number whenever it asks. -/

namespace CompilerLink.Crash

/-- The numbers handed out so far. -/
structure ThreadNumbers where
  /-- The next number. -/
  next : Nat := 1
  /-- Which thread, by serial, has which number. -/
  given : List (Nat × Nat) := []
  deriving Repr, DecidableEq

namespace ThreadNumbers

/-- The number of a thread that has one. -/
def find? (n : ThreadNumbers) (serial : Nat) : Option Nat := n.given.lookup serial

/-- The number of a thread, handed out now if it has none yet. -/
def numberOf (n : ThreadNumbers) (serial : Nat) : Nat × ThreadNumbers :=
  match n.find? serial with
  | some number => (number, n)
  | none => (n.next, { next := n.next + 1, given := (serial, n.next) :: n.given })

/-- A number that is kept nowhere. -/
def fresh (n : ThreadNumbers) : Nat × ThreadNumbers := (n.next, { n with next := n.next + 1 })

end ThreadNumbers

end CompilerLink.Crash
