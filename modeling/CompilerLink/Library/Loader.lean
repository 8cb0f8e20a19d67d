import CompilerLink.Event.Log
import CompilerLink.Fault
import CompilerLink.Library.Opener

/-! # The compiler's library

The library is opened at most once. `Loader.resolve` finds its file: with a search list, the first
of its directories that holds the file; without one, the library directory if that does.
`Loader.load` opens what was found and keeps it; after a failure the next call tries again from
the start. -/

namespace CompilerLink.Library

open Text (Dump)

/-- A library that has been opened, and where it was found. -/
structure Loaded where
  handle : Handle
  path : String
  deriving Repr, DecidableEq

/-- An open library laid out for inspection. -/
def Loaded.dump (library : Loaded) : Dump :=
  .record "LoadedLibrary"
    [("handle", .record "NativeHandle" [] false), ("path", .literal library.path)] true

/-- Finds and opens the compiler's library. -/
structure Loader where
  library : Option Loaded := none
  /-- Directories to search, separated by colons. -/
  searchPath : Option String
  /-- The directory that counts when there is no search list. -/
  defaultDir : String
  /-- Base name of the library. -/
  baseName : String := sharedLibraryName
  opener : Opener
  /-- How often the opener has been asked. -/
  attempts : Nat := 0

namespace Loader

/-- The loader that the settings ask for. -/
def ofSettings (s : Settings) (opener : Opener) : Loader where
  searchPath := s.libraryPath
  defaultDir := s.libraryDir
  opener

/-- The library's file name: `lib` in front of the base name and `.so` behind it, which is how
shared libraries are named on this system, whatever the base name is. -/
def fileName (l : Loader) : String := "lib" ++ l.baseName ++ ".so"

/-- The directories that count, in order. -/
def dirs (l : Loader) : List String := l.searchPath.elim [l.defaultDir] Path.splitList

/-- Where the library may be, in order. -/
def candidates (l : Loader) : List String := l.dirs.map fun dir => Path.join dir l.fileName

/-- Where the library is, if its file is there. -/
def resolve (l : Loader) (fs : FileSystem) : Except LibraryFault String :=
  match l.candidates.find? fs.isFile with
  | some path => .ok path
  | none => .error (.notFound l.searchPath)

/-- What is reported when the library has been opened. -/
def loadedMessage (path : String) : String := "loaded compiler shared library from " ++ path

/-- The library, opened now if it is not open yet. The caller holds the link's lock. -/
def load (l : Loader) (log : EventLog) (fs : FileSystem) (caller : Caller) :
    Outcome (Loader × EventLog) (Except LibraryFault Loaded) :=
  match l.library with
  | some library => ⟨.ok library, (l, log), []⟩
  | none =>
    match l.resolve fs with
    | .error fault => ⟨.error fault, (l, log), []⟩
    | .ok path =>
      let asked := { l with attempts := l.attempts + 1 }
      match l.opener l.attempts fs path with
      | .error reason => ⟨.error (.refused path reason), (asked, log), []⟩
      | .ok handle =>
        let library : Loaded := ⟨handle, path⟩
        let reported := log.event caller 1 (loadedMessage path)
        ⟨.ok library, ({ asked with library := some library }, reported.state),
          reported.emitted ++
            [.remark {
              severity := .info
              component := .library
              message := "Loaded compiler shared library"
              fields := [("path", .shown path)] }]⟩

/-- The library if it is open; with `wanted`, it is opened if need be. -/
def get (l : Loader) (log : EventLog) (fs : FileSystem) (caller : Caller) (wanted : Bool) :
    Outcome (Loader × EventLog) (Except LibraryFault (Option Loaded)) :=
  match l.library with
  | some library => ⟨.ok (some library), (l, log), []⟩
  | none =>
    if wanted then (l.load log fs caller).map fun answer => answer.map some
    else ⟨.ok none, (l, log), []⟩

/-- The loader laid out for inspection. -/
def dump (l : Loader) : Dump :=
  .record "LibraryLoader"
    [("library", .optional (l.library.map Loaded.dump)),
      ("search_path", .optional (l.searchPath.map .literal)),
      ("default_dir", .literal l.defaultDir), ("library_name", .literal l.baseName)] false

end Loader

end CompilerLink.Library
