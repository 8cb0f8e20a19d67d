import CompilerLink.Outcome
import CompilerLink.Sink

/-! # Consoles

Trace lines go to a console: either a sink, which may fill up, or the standard output of the
process, which takes everything. -/

namespace CompilerLink

/-- Where trace lines go. -/
inductive Console where
  /-- A sink of the embedding's. -/
  | sink (s : Sink)
  /-- The standard output of the process. -/
  | stdout

namespace Console

/-- Write pieces in order, up to the first that is not taken whole. -/
def writeAll (c : Console) (pieces : List String) : Outcome Console Bool :=
  match c with
  | sink s => ⟨(s.writeAll pieces).2, sink (s.writeAll pieces).1, []⟩
  | stdout => ⟨true, stdout, [.bytes .stdout (String.join pieces).toUTF8]⟩

/-- The bytes that a sink has collected; nothing for standard output. -/
def collected : Console → ByteArray
  | sink s => s.written
  | stdout => ByteArray.empty

end Console

end CompilerLink
