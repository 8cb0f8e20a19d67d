/-! # Headers of shared libraries

A shared library starts with a header in the Executable and Linkable Format: 16 bytes that say what
kind of file it is, and numbers of two, four or eight bytes, the lowest byte first. The header says
where the table of the segments stands.

A `Fault` is what the operating system's loader objects to. `Header.fault?` is the first thing that
it objects to in the header, in the order in which it looks. -/

namespace CompilerLink.Library

/-- What the loader objects to. -/
inductive Fault where
  | tooShort
  | noMagic
  | wrongClass
  | wrongEncoding
  | wrongIdentVersion
  | wrongSystem
  | wrongSystemVersion
  | padding
  | wrongVersion
  | wrongMachine
  | wrongType
  | wrongEntrySize
  | tableBehindEnd
  | tableOutOfRange
  | unalignedSegment
  | nothingToLoad
  | isProgram
  | notDynamic
  | noSpace
  | noZeroPages
  deriving Repr, DecidableEq

namespace Fault

/-- The wording of what the loader objects to. -/
def message : Fault → String
  | tooShort => "file too short"
  | noMagic => "invalid ELF header"
  | wrongClass => "wrong ELF class: ELFCLASS32"
  | wrongEncoding => "ELF file data encoding not little-endian"
  | wrongIdentVersion => "ELF file version ident does not match current one"
  | wrongSystem => "ELF file OS ABI invalid"
  | wrongSystemVersion => "ELF file ABI version invalid"
  | padding => "nonzero padding in e_ident"
  | wrongVersion => "ELF file version does not match current one"
  | wrongMachine => "cannot open shared object file: No such file or directory"
  | wrongType => "only ET_DYN and ET_EXEC can be loaded"
  | wrongEntrySize => "ELF file's phentsize not the expected size"
  | tableBehindEnd => "cannot read file data"
  | tableOutOfRange => "cannot read file data: Invalid argument"
  | unalignedSegment => "ELF load command address/offset not page-aligned"
  | nothingToLoad => "object file has no loadable segments"
  | isProgram => "cannot dynamically load executable"
  | notDynamic => "object file has no dynamic section"
  | noSpace => "failed to map segment from shared object"
  | noZeroPages => "cannot map zero-fill pages"

/-- Whether the loader names the file that it looked at. A file of another class or for another
machine is only passed over, and segments are looked at later; the loader then names the path that
it was asked for. -/
def namesFile : Fault → Bool
  | wrongClass | wrongMachine | unalignedSegment | nothingToLoad | isProgram | notDynamic
  | noSpace | noZeroPages => false
  | _ => true

end Fault

/-- The first fault whose check has not been passed. -/
def firstFault (checks : List (Bool × Fault)) : Option Fault :=
  (checks.find? fun (passed, _) => !passed).map (·.2)

namespace Header

/-- The first bytes of every shared library. -/
def magic : ByteArray := ByteArray.mk #[0x7f, 0x45, 0x4c, 0x46]

/-- The bytes of a header. -/
def size : Nat := 64

/-- The bytes of an entry in the table of segments. -/
def entrySize : Nat := 56

/-- Whether bytes start like a shared library. -/
def hasMagic (content : ByteArray) : Bool := content.extract 0 magic.size == magic

/-- The byte at a place; behind the end there are zeros. -/
def byte (content : ByteArray) (place : Nat) : Nat := (content.data[place]?.getD 0).toNat

/-- The number in `width` bytes from a place on. -/
def number (content : ByteArray) (place : Nat) : Nat → Nat
  | 0 => 0
  | width + 1 => byte content place + 256 * number content (place + 1) width

/-- Where the table of segments stands. -/
def tablePlace (content : ByteArray) : Nat := number content 32 8

/-- How many segments the table has. -/
def entryCount (content : ByteArray) : Nat := number content 56 2

/-- Whether a file is a program at an address of its own, and not a library. -/
def isProgram (content : ByteArray) : Bool := number content 16 2 = 2

/-- Whether a file is for the machine that the loader runs on. -/
def isForMachine (content : ByteArray) : Bool := number content 18 2 = 62

/-- What the loader objects to in the bytes that say what kind of file it is. -/
def kindFault? (content : ByteArray) : Option Fault :=
  firstFault [
    (byte content 5 = 1, .wrongEncoding),
    (byte content 6 = 1, .wrongIdentVersion),
    (byte content 7 = 0 ∨ byte content 7 = 3, .wrongSystem),
    (byte content 8 = 0 ∨ byte content 7 = 3 ∧ byte content 8 < 4, .wrongSystemVersion),
    (number content 9 7 = 0, .padding)]

/-- Places in a file lie below this. -/
def placeLimit : Nat := 0x8000000000000000

/-- What the loader objects to when it reads the table of segments. An empty table is fine at every
place that a file can have. -/
def tableFault? (content : ByteArray) : Option Fault :=
  let tableEnd := tablePlace content + entryCount content * entrySize
  firstFault [
    (tableEnd < placeLimit, .tableOutOfRange),
    (tableEnd ≤ content.size ∨ entryCount content = 0, .tableBehindEnd)]

/-- The first thing in the header that the loader objects to. A file for another machine is passed
over before its kind is found fault with. -/
def fault? (content : ByteArray) : Option Fault :=
  (firstFault [
    (size ≤ content.size, .tooShort),
    (hasMagic content, .noMagic),
    (byte content 4 = 2, .wrongClass),
    (isForMachine content ∨ kindFault? content = none, .wrongMachine)]).or <|
  (kindFault? content).or <|
  (firstFault [
    (number content 20 4 = 1, .wrongVersion),
    (isForMachine content, .wrongMachine),
    (number content 16 2 = 3 ∨ isProgram content, .wrongType),
    (number content 54 2 = entrySize, .wrongEntrySize)]).or <|
  tableFault? content

end Header

end CompilerLink.Library
