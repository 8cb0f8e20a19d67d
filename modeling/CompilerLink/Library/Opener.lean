import CompilerLink.File.System
import CompilerLink.Library.Segment
import CompilerLink.Library.Token

/-! # Opening libraries

An opener turns a path into an open library or into the reason why not. Besides the path it may go
by the files there are and by how often it has been asked before, so an `Opener` stands for any
sequence of answers. `Opener.system` is the loader of the operating system. -/

namespace CompilerLink.Library

/-- An open library: the path that a stand-in was given, or nothing for a library that the operating
system has opened. -/
structure Handle where
  openedPath : Option String
  deriving Repr, DecidableEq

/-- Answers to requests, given how many came before, the files and the path. -/
abbrev Opener := Nat → FileSystem → String → Except String Handle

namespace Opener

/-- A stand-in that opens everything. -/
def always : Opener := fun _ _ path => .ok ⟨some path⟩

/-- A stand-in that gives the listed answers in order, the last one over and over: `none` opens,
`some reason` refuses. -/
def scripted (answers : List (Option String)) : Opener := fun asked _ path =>
  match (answers[min asked (answers.length - 1)]?).join with
  | none => .ok ⟨some path⟩
  | some reason => .error reason

/-- The loader of the operating system. A name without a slash is looked for among the system's own
libraries only, never in the working directory. In a path it replaces the names that it knows. -/
def system : Opener := fun _ fs path =>
  let refused (file reason : String) : Except String Handle := .error (file ++ ": " ++ reason)
  let unopened (fault : FileFault) :=
    refused path ("cannot open shared object file: " ++ fault.reason)
  match if '/' ∈ path.toList then Token.expand? path else none with
  | none => unopened .notFound
  | some file =>
    match fs.lookup file with
    | .error fault => unopened fault
    | .ok .directory => refused file ("cannot read file data: " ++ FileFault.isDirectory.reason)
    | .ok (.file _ content) =>
      match fault? content with
      | some fault => refused (if fault.namesFile then file else path) fault.message
      | none => .ok ⟨none⟩

end Opener

end CompilerLink.Library
