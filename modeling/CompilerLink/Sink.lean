/-! # Byte-limited sinks

A `Sink` collects bytes until its room is used up. A write that does not fit is taken in part, up to
the last byte of room, and fails; from then on every non-empty write fails. -/

namespace CompilerLink

/-- A place to write to. -/
structure Sink where
  /-- How many more bytes are taken; `none` for no limit. -/
  room : Option Nat := none
  /-- The bytes taken so far. -/
  written : ByteArray := ByteArray.empty

namespace Sink

/-- An empty sink that takes `room` bytes in all. -/
def ofRoom (room : Option Nat) : Sink := { room }

/-- Write one piece of text; the answer tells whether all of it was taken. -/
def write (s : Sink) (piece : String) : Sink × Bool :=
  let bytes := piece.toUTF8
  match s.room with
  | none => ({ s with written := s.written ++ bytes }, true)
  | some n =>
    if bytes.size ≤ n then
      ({ room := some (n - bytes.size), written := s.written ++ bytes }, true)
    else
      ({ room := some 0, written := s.written ++ bytes.extract 0 n }, false)

/-- Write pieces in order, up to the first that is not taken whole. -/
def writeAll (s : Sink) : List String → Sink × Bool
  | [] => (s, true)
  | piece :: rest =>
    match s.write piece with
    | (s', true) => s'.writeAll rest
    | (s', false) => (s', false)

end Sink

end CompilerLink
