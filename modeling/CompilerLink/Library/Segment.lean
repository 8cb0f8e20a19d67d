import CompilerLink.Library.Header

/-! # Segments of shared libraries

The table of segments says which parts of a library's file go where in memory. The loader reads the
whole table, then looks for space for the segments to be loaded and for the dynamic section, which
tells how to link the library.

`Library.fault?` is the first thing that the loader objects to in a file, from the header to the
segments. -/

namespace CompilerLink.Library

/-- A segment of a library. -/
structure Segment where
  kind : Nat
  /-- What may be done with it in memory: to execute, to write and to read it are one bit each. -/
  permissions : Nat
  /-- Where it starts in the file. -/
  offset : Nat
  /-- Where it starts in memory, seen from the start of the library. -/
  address : Nat
  fileSize : Nat
  memorySize : Nat
  alignment : Nat
  deriving Repr, DecidableEq

/-- The bytes of a page of memory. -/
def pageSize : Nat := 4096

/-- Addresses lie below this and go round there. -/
def addressCount : Nat := 0x10000000000000000

/-- There is space for less than this: the running program stands above it. -/
def spaceLimit : Nat := 0x555555544000

/-- The space between a library and the end of memory. -/
def headroom : Nat := 0x10000000000

/-- There is memory for less than this. What may be written to needs memory of its own. -/
def memoryLimit : Nat := 0x1000000000

namespace Segment

/-- The segment whose entry stands at a place. -/
def read (content : ByteArray) (place : Nat) : Segment where
  kind := Header.number content place 4
  permissions := Header.number content (place + 4) 4
  offset := Header.number content (place + 8) 8
  address := Header.number content (place + 16) 8
  fileSize := Header.number content (place + 32) 8
  memorySize := Header.number content (place + 40) 8
  alignment := Header.number content (place + 48) 8

/-- Whether a segment is to be loaded. -/
def isLoaded (s : Segment) : Bool := s.kind = 1

/-- Whether a segment is the dynamic section. -/
def isDynamic (s : Segment) : Bool := s.kind = 2

/-- Whether a segment may be written to. -/
def isWritable (s : Segment) : Bool := s.permissions / 2 % 2 = 1

/-- Whether a segment starts at the same place of a page in the file and in memory. -/
def isPageAligned (s : Segment) : Bool := s.offset % pageSize = s.address % pageSize

/-- The alignment that counts: a power of two. -/
def usableAlignment (s : Segment) : Nat :=
  if s.alignment ≠ 0 ∧ s.alignment = 1 <<< s.alignment.log2 then s.alignment else 0

/-- The start of the page in memory in which a segment starts. -/
def firstPage (s : Segment) : Nat := s.address - s.address % pageSize

/-- The end of the pages in memory that the part of a segment from the file takes up. -/
def pageEnd (s : Segment) : Nat :=
  (s.address + s.fileSize + (pageSize - 1)) / pageSize * pageSize % addressCount

/-- Whether a segment can be given the addresses between two, if there is space up to a third. -/
def canTake (s : Segment) (start stop space : Nat) : Bool :=
  stop ≤ start || stop < space && (stop - start < memoryLimit || !s.isWritable)

/-- Whether there is space for the part of a segment from the file. -/
def hasFileSpace (s : Segment) (space : Nat) : Bool := s.canTake s.firstPage s.pageEnd space

/-- Whether there is space for the zeros behind that. -/
def hasZeroSpace (s : Segment) (space : Nat) : Bool :=
  s.canTake s.pageEnd (s.address + s.memorySize) space

end Segment

/-- The segments that a file's table lists. -/
def segments (content : ByteArray) : List Segment :=
  (List.range (Header.entryCount content)).map fun i =>
    Segment.read content (Header.tablePlace content + i * Header.entrySize)

/-- Whether segments have a dynamic section with something in it. -/
def hasDynamicSection (ss : List Segment) : Bool :=
  let sections := ss.filter Segment.isDynamic
  sections.all (·.fileSize ≠ 0) && sections.getLast?.any (·.address ≠ 0)

/-- The bytes from the first segment to the end of the last. -/
def extent (loaded : List Segment) : Nat :=
  match loaded.head?, loaded.getLast? with
  | some first, some last =>
    (last.address + last.memorySize + (addressCount - first.firstPage)) % addressCount
  | _, _ => 0

/-- The bytes to look for, so that the segments fit in at their alignment. -/
def neededSpace (loaded : List Segment) : Nat :=
  let alignment := (loaded.map Segment.usableAlignment).foldl max 0
  if alignment ≤ pageSize then extent loaded else alignment + max alignment (extent loaded)

/-- Whether segments stand in a row: if pages are left out between them, the last may not start
before the end of the first. -/
def standInRow (loaded : List Segment) : Bool :=
  (loaded.zip loaded.tail).all (fun (s, next) => s.pageEnd = next.firstPage)
    || loaded.head?.all fun first =>
      loaded.getLast?.all fun last => first.pageEnd ≤ last.firstPage

/-- What the loader objects to when it puts segments into memory. First it takes up the space for
all of them in the way of the first segment; then it fills in one after another. -/
def memoryFault? : List Segment → Option Fault
  | [] => none
  | first :: rest =>
    let loaded := first :: rest
    let stop := first.firstPage + extent loaded
    let space := stop + headroom
    (firstFault [
      (0 < extent loaded ∧ neededSpace loaded < spaceLimit, .noSpace),
      (first.canTake first.firstPage stop space, .noSpace),
      (standInRow loaded, .unalignedSegment),
      (first.hasZeroSpace space, .noZeroPages)]).or <|
    rest.findSome? fun s =>
      firstFault [(s.hasFileSpace space, .noSpace), (s.hasZeroSpace space, .noZeroPages)]

/-- The first thing in the segments of a file that the loader objects to. -/
def segmentFault? (content : ByteArray) : Option Fault :=
  let ss := segments content
  let loaded := ss.filter Segment.isLoaded
  (firstFault [
    (loaded.all Segment.isPageAligned, .unalignedSegment),
    (!loaded.isEmpty, .nothingToLoad),
    (!Header.isProgram content, .isProgram),
    (hasDynamicSection ss, .notDynamic)]).or <|
  memoryFault? loaded

/-- The first thing in a file that the loader objects to. -/
def fault? (content : ByteArray) : Option Fault :=
  (Header.fault? content).or (segmentFault? content)

/-! ### A library to try things with -/

/-- A number in `width` bytes, the lowest first. -/
def numberBytes : Nat → Nat → List UInt8
  | 0, _ => []
  | width + 1, n => n.toUInt8 :: numberBytes width (n / 256)

/-- A segment as it stands in the table, with its address also as the one in hardware. -/
def Segment.bytes (s : Segment) : List UInt8 :=
  numberBytes 4 s.kind ++ numberBytes 4 s.permissions ++ numberBytes 8 s.offset
    ++ numberBytes 8 s.address ++ numberBytes 8 s.address ++ numberBytes 8 s.fileSize
    ++ numberBytes 8 s.memorySize ++ numberBytes 8 s.alignment

/-- A small library in which the loader finds nothing to object to: a header with a segment to load
and a dynamic section behind it. -/
def sample : ByteArray :=
  let ss : List Segment := [⟨1, 4, 0, 0, 176, 176, pageSize⟩, ⟨2, 4, 64, 64, 112, 112, 8⟩]
  Header.magic ++ ByteArray.mk (
    [2, 1, 1] ++ numberBytes 9 0 ++ numberBytes 2 3 ++ numberBytes 2 62 ++ numberBytes 4 1
      ++ numberBytes 8 0 ++ numberBytes 8 Header.size ++ numberBytes 8 0 ++ numberBytes 4 0
      ++ numberBytes 2 Header.size ++ numberBytes 2 Header.entrySize ++ numberBytes 2 ss.length
      ++ numberBytes 6 0 ++ ss.flatMap Segment.bytes).toArray

/-- There is nothing in `sample` that the loader objects to. -/
example : fault? sample = none := by decide +kernel

end CompilerLink.Library
