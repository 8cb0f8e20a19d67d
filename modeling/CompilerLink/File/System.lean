import CompilerLink.File.Path

/-! # A file system

`FileSystem` is a tree of directories and files, together with a working directory and the name of
the directory for temporary files. A file keeps its serial for as long as it exists, so that a file
held open is told from another one put in its place.

`create` opens a file for writing and empties it; `writeAt` writes through an open file, which
reaches nothing any more once the file has been removed. -/

namespace CompilerLink

/-- The names that lead from the root to a place in the tree. -/
abbrev Location := List String

/-- What stands at a place in the tree. -/
inductive Node where
  | directory
  | file (serial : Nat) (content : ByteArray)

/-- Why a file could not be opened. -/
inductive FileFault where
  | notFound
  | notDirectory
  | isDirectory
  | nameTooLong
  | nulByte
  deriving Repr, DecidableEq

namespace FileFault

/-- What is wrong, in words. -/
def reason : FileFault → String
  | notFound => "No such file or directory"
  | notDirectory => "Not a directory"
  | isDirectory => "Is a directory"
  | nameTooLong => "File name too long"
  | nulByte => "file name contained an unexpected NUL byte"

/-- The number that the operating system gives a fault. -/
def number? : FileFault → Option Nat
  | notFound => some 2
  | notDirectory => some 20
  | isDirectory => some 21
  | nameTooLong => some 36
  | nulByte => none

/-- The wording of a file fault. -/
def message (fault : FileFault) : String :=
  match fault.number? with
  | some number => fault.reason ++ " (os error " ++ toString number ++ ")"
  | none => fault.reason

end FileFault

/-- A file held open for writing. -/
structure OpenFile where
  location : Location
  serial : Nat
  deriving Repr, DecidableEq

/-- A tree of directories and files; the root is a directory that needs no entry. -/
structure FileSystem where
  nodes : List (Location × Node) := []
  /-- Where relative paths start. -/
  workingDir : Location := []
  /-- Set once the working directory has been removed: its parent is still known, but it holds
  nothing any more. -/
  workingDirRemoved : Bool := false
  /-- The directory for temporary files. -/
  tempDir : String := "/tmp"
  /-- The serial of the next new file. -/
  nextSerial : Nat := 0

namespace FileSystem

/-! ### Nodes -/

/-- What stands at a place. -/
def find? (fs : FileSystem) (l : Location) : Option Node :=
  if l = [] then some .directory else fs.nodes.lookup l

/-- Put a node at a place, over the one that stands there. -/
def place (fs : FileSystem) (l : Location) (node : Node) : FileSystem :=
  { fs with nodes := (l, node) :: fs.nodes.filter (·.1 ≠ l) }

/-- The bytes of the file at a place, if it is one. -/
def contentAt (fs : FileSystem) (l : Location) : Option ByteArray :=
  match fs.find? l with
  | some (.file _ content) => some content
  | _ => none

/-! ### Walking paths -/

/-- A directory reached on the way along a path. -/
structure Position where
  location : Location
  /-- Whether the directory has been removed from the tree. -/
  removed : Bool := false

/-- The longest name of a file, in bytes. -/
def nameLimit : Nat := 255

/-- Paths of this many bytes or more are refused. -/
def pathLimit : Nat := 4096

/-- Where a path starts. -/
def start (fs : FileSystem) (path : String) : Position :=
  if Path.isAbsolute path then ⟨[], false⟩ else ⟨fs.workingDir, fs.workingDirRemoved⟩

/-- What a name stands for in a directory: nothing yet, or a node. -/
def entry (fs : FileSystem) (dir : Position) (name : String) : Except FileFault (Option Node) :=
  if dir.removed then .error .notFound
  else if name.utf8ByteSize > nameLimit then .error .nameTooLong
  else .ok (fs.find? (dir.location ++ [name]))

/-- Step from a directory into the one of the given name. -/
def step (fs : FileSystem) (dir : Position) (name : String) : Except FileFault Position :=
  if name = "." then .ok dir
  else if name = ".." then .ok ⟨dir.location.dropLast, false⟩
  else
    match fs.entry dir name with
    | .error fault => .error fault
    | .ok none => .error .notFound
    | .ok (some .directory) => .ok ⟨dir.location ++ [name], false⟩
    | .ok (some (.file _ _)) => .error .notDirectory

/-- Step along names, each of which has to be a directory. -/
def walk (fs : FileSystem) : Position → List String → Except FileFault Position
  | dir, [] => .ok dir
  | dir, name :: rest =>
    match fs.step dir name with
    | .ok dir' => fs.walk dir' rest
    | .error fault => .error fault

/-- What stands at the end of a path. -/
def lookup (fs : FileSystem) (path : String) : Except FileFault Node :=
  if '\x00' ∈ path.toList then .error .nulByte
  else if path = "" then .error .notFound
  else if pathLimit ≤ path.utf8ByteSize then .error .nameTooLong
  else
    match (Path.names path).getLast? with
    | none => .ok .directory
    | some name =>
      match fs.walk (fs.start path) (Path.names path).dropLast with
      | .error fault => .error fault
      | .ok dir =>
        if Path.hasTrailingSlash path ∨ name = "." ∨ name = ".." then
          (fs.step dir name).map fun _ => .directory
        else
          match fs.entry dir name with
          | .error fault => .error fault
          | .ok none => .error .notFound
          | .ok (some node) => .ok node

/-- Whether a path leads to a regular file. -/
def isFile (fs : FileSystem) (path : String) : Bool :=
  match fs.lookup path with
  | .ok (.file _ _) => true
  | _ => false

/-! ### Writing -/

/-- Open the file of a path for writing, empty; a missing file is made. -/
def create (fs : FileSystem) (path : String) : Except FileFault (OpenFile × FileSystem) :=
  if '\x00' ∈ path.toList then .error .nulByte
  else if path = "" then .error .notFound
  else if pathLimit ≤ path.utf8ByteSize then .error .nameTooLong
  else
    match (Path.names path).getLast? with
    | none => .error .isDirectory
    | some name =>
      match fs.walk (fs.start path) (Path.names path).dropLast with
      | .error fault => .error fault
      | .ok dir =>
        if Path.hasTrailingSlash path ∨ name = "." ∨ name = ".." then .error .isDirectory
        else
          let location := dir.location ++ [name]
          match fs.entry dir name with
          | .error fault => .error fault
          | .ok (some .directory) => .error .isDirectory
          | .ok (some (.file serial _)) =>
            .ok (⟨location, serial⟩, fs.place location (.file serial ByteArray.empty))
          | .ok none =>
            .ok (⟨location, fs.nextSerial⟩,
              { fs.place location (.file fs.nextSerial ByteArray.empty) with
                nextSerial := fs.nextSerial + 1 })

/-- `content` with `bytes` written at `offset`; a gap before them reads as zeros. -/
def overwrite (content : ByteArray) (offset : Nat) (bytes : ByteArray) : ByteArray :=
  if bytes.isEmpty then content
  else
    content.extract 0 offset
      ++ ByteArray.mk (Array.replicate (offset - content.size) 0)
      ++ bytes
      ++ content.extract (offset + bytes.size) content.size

/-- Write bytes at an offset of an open file. -/
def writeAt (fs : FileSystem) (file : OpenFile) (offset : Nat) (bytes : ByteArray) : FileSystem :=
  match fs.find? file.location with
  | some (.file serial content) =>
    if serial = file.serial then
      fs.place file.location (.file serial (overwrite content offset bytes))
    else fs
  | _ => fs

/-! ### Changes from outside -/

/-- Make a directory and those above it. -/
def makeDir (fs : FileSystem) (l : Location) : FileSystem :=
  (List.range l.length).foldl (fun fs depth =>
    let dir := l.take (depth + 1)
    match fs.find? dir with
    | none => fs.place dir .directory
    | some _ => fs) fs

/-- Give the file at a place new content, with the directories above it. -/
def putFile (fs : FileSystem) (l : Location) (content : ByteArray) : FileSystem :=
  let fs := fs.makeDir l.dropLast
  match fs.find? l with
  | some (.file serial _) => fs.place l (.file serial content)
  | _ => { fs.place l (.file fs.nextSerial content) with nextSerial := fs.nextSerial + 1 }

/-- Remove what stands at a place, and everything below it. -/
def remove (fs : FileSystem) (l : Location) : FileSystem :=
  { fs with
    nodes := fs.nodes.filter fun (place, _) => !(l.isPrefixOf place)
    workingDirRemoved := fs.workingDirRemoved || l.isPrefixOf fs.workingDir }

/-- The regular files below a place with their content, as paths from there. -/
def filesBelow (fs : FileSystem) (l : Location) : List (String × ByteArray) :=
  fs.nodes.filterMap fun (place, node) =>
    match node with
    | .directory => none
    | .file _ content =>
      if l.isPrefixOf place then some ("/".intercalate (place.drop l.length), content) else none

end FileSystem

end CompilerLink
