import CompilerLink.Proofs.Library.Desk
import CompilerLink.Proofs.Text.Cut

/-! # Where the library is found

With a search list the library is in the first of its directories that has the file, and nothing but
these directories is asked: what is behind the first one that has it makes no difference
(`Searches.appended`), nor do those before it that have it not (`Searches.removed`), nor does the
library directory (`Searches.default_ignored`). Without a list the library directory alone
counts. -/

namespace CompilerLink.Library

open Text (IsCut)

namespace Loader

variable {l : Loader} {fs : FileSystem} {list : String} {dirs parts : List String}

/-- Where the library would be in a directory. -/
def candidate (l : Loader) (dir : String) : String := Path.join dir l.fileName

/-- The loader with another search list. -/
def among (l : Loader) (list : String) : Loader := { l with searchPath := some list }

/-- Whether a directory has the library, at its `candidate`. -/
def isIn (l : Loader) (fs : FileSystem) (dir : String) : Bool := fs.isFile (l.candidate dir)

/-- `isIn` does not depend on the search list. -/
theorem isIn_among (l : Loader) (list : String) : (l.among list).isIn = l.isIn := rfl

/-! ### Candidates -/

/-- `fileName` is relative, whatever the base name. -/
theorem isAbsolute_fileName (l : Loader) : Path.isAbsolute l.fileName = false := by
  have hfirst : l.fileName.toList.head? = some 'l' := by
    rw [fileName, String.toList_append, String.toList_append]
    rfl
  rw [Path.isAbsolute, hfirst]
  rfl

/-- `candidate` in full: as `fileName` is relative, `Path.join` never drops the directory. -/
theorem candidate_eq (l : Loader) (dir : String) :
    l.candidate dir =
      if dir = "" then l.fileName
      else if Path.hasTrailingSlash dir then dir ++ l.fileName
      else dir ++ "/" ++ l.fileName := by
  rw [candidate, Path.join, l.isAbsolute_fileName]
  simp

/-- `IsCut` at `:` determines the parts: they are those of `Path.splitList`. -/
theorem isCut_iff : IsCut ":" list parts ↔ parts = Path.splitList list :=
  @Text.isCut_singleton_iff ':' list parts

/-- `dirs` are the parts of the search list, where there is one. -/
theorem dirs_of_list (hlist : l.searchPath = some list) (hparts : IsCut ":" list parts) :
    l.dirs = parts := by
  rw [dirs, hlist, isCut_iff.1 hparts]
  rfl

/-- `dirs` are the library directory alone, where there is no search list. -/
theorem dirs_of_none (hnone : l.searchPath = none) : l.dirs = [l.defaultDir] := by
  rw [dirs, hnone]
  rfl

/-! ### The first match -/

/-- The first of some directories that has the library is number `j`. -/
structure FirstAt (l : Loader) (fs : FileSystem) (dirs : List String) (j : Nat)
    (path : String) : Prop where
  candidate_eq : (dirs[j]?).map l.candidate = some path
  isFile : fs.isFile path = true
  /-- No directory before it has the library. -/
  earlier : ∀ i < j, ∀ dir ∈ dirs[i]?, l.isIn fs dir = false

/-- `List.find?` along the candidates succeeds where `FirstAt` says. -/
theorem find?_candidates_eq_some_iff {path : String} :
    (dirs.map l.candidate).find? fs.isFile = some path ↔ ∃ j, l.FirstAt fs dirs j path := by
  rw [List.find?_eq_some_iff_getElem]
  -- `List.find?` speaks of places in the list of candidates, which are the places of the
  -- directories.
  constructor
  · rintro ⟨hfile, j, hj, hpath, hearlier⟩
    refine ⟨j, ?_, hfile, ?_⟩
    · rw [← List.getElem?_map, List.getElem?_eq_getElem hj, hpath]
    · intro i hi dir hdir
      obtain ⟨hlt, rfl⟩ := List.getElem?_eq_some_iff.1 hdir
      simpa [isIn] using hearlier i hi
  · rintro ⟨j, hpath, hfile, hearlier⟩
    rw [← List.getElem?_map] at hpath
    obtain ⟨hj, hpath⟩ := List.getElem?_eq_some_iff.1 hpath
    refine ⟨hfile, j, hj, hpath, fun i hi => ?_⟩
    have hlt : i < dirs.length := Nat.lt_trans hi (by simpa using hj)
    simpa [isIn] using hearlier i hi dirs[i] (List.getElem?_eq_getElem hlt)

/-- `List.find?` along the candidates fails iff no directory has the library. -/
theorem find?_candidates_eq_none_iff :
    (dirs.map l.candidate).find? fs.isFile = none ↔ ∀ dir ∈ dirs, l.isIn fs dir = false := by
  rw [List.find?_eq_none, List.forall_mem_map]
  simp [isIn]

/-- `List.find?` along the candidates is the first of the directories that have the library. -/
theorem find?_candidates_eq (l : Loader) (fs : FileSystem) (dirs : List String) :
    (dirs.map l.candidate).find? fs.isFile =
      ((dirs.filter (l.isIn fs)).head?).map l.candidate := by
  rw [List.find?_map, List.head?_filter]
  rfl

/-- `resolve` succeeds as `List.find?` along the candidates does. -/
theorem resolve_eq_ok_iff {path : String} :
    l.resolve fs = .ok path ↔ (l.dirs.map l.candidate).find? fs.isFile = some path := by
  have hcandidates : l.candidates = l.dirs.map l.candidate := rfl
  rw [resolve, hcandidates]
  cases (l.dirs.map l.candidate).find? fs.isFile with
  | some found => simp
  | none => simp

/-- `resolve` fails as `List.find?` along the candidates does, with the search list in the fault. -/
theorem resolve_eq_error_iff {fault : LibraryFault} :
    l.resolve fs = .error fault ↔
      fault = .notFound l.searchPath ∧ (l.dirs.map l.candidate).find? fs.isFile = none := by
  have hcandidates : l.candidates = l.dirs.map l.candidate := rfl
  rw [resolve, hcandidates]
  cases (l.dirs.map l.candidate).find? fs.isFile with
  | some found => simp
  | none => simp [eq_comm]

/-- `resolve` depends on the directories that have the library, and of these on the first only. -/
theorem resolve_eq_ok_iff_head? {path : String} :
    l.resolve fs = .ok path ↔
      ((l.dirs.filter (l.isIn fs)).head?).map l.candidate = some path := by
  rw [resolve_eq_ok_iff, find?_candidates_eq]

/-! ### Search lists -/

/-- What a search list with the given parts makes of the search. -/
structure Searches (l : Loader) (fs : FileSystem) (list : String) (parts : List String) :
    Prop where
  /-- `resolve` succeeds where the first part that has the library says. -/
  ok_iff : ∀ path, l.resolve fs = .ok path ↔ ∃ j, l.FirstAt fs parts j path
  /-- `resolve` fails iff no part has the library, and then the whole list is named. -/
  error_iff : ∀ fault, l.resolve fs = .error fault ↔
    fault = .notFound (some list) ∧ ∀ part ∈ parts, fs.isFile (l.candidate part) = false
  /-- The library directory does not count. -/
  default_ignored : ∀ dir, { l with defaultDir := dir }.resolve fs = l.resolve fs
  /-- Nor does any other file than those that the parts name. -/
  others_ignored : ∀ fs' : FileSystem,
    (∀ part ∈ parts, fs'.isFile (l.candidate part) = fs.isFile (l.candidate part)) →
      l.resolve fs' = l.resolve fs
  /-- Parts that do not have the library can be taken out, as many and wherever one likes. -/
  removed : ∀ path rest, l.resolve fs = .ok path → rest.Sublist parts →
    rest.filter (l.isIn fs) = parts.filter (l.isIn fs) →
      (l.among (":".intercalate rest)).resolve fs = .ok path
  /-- Anything may follow at the end of the list. -/
  appended : ∀ path more, l.resolve fs = .ok path →
    (l.among (list ++ ":" ++ more)).resolve fs = .ok path
  /-- An empty part is the working directory. -/
  candidate_empty : l.candidate "" = l.fileName ∧
    fs.start (l.candidate "") = ⟨fs.workingDir, fs.workingDirRemoved⟩

/-- `IsCut` survives taking parts out, as long as any is left. -/
theorem isCut_of_sublist {rest : List String} (hparts : IsCut ":" list parts)
    (hsub : rest.Sublist parts) (hne : rest ≠ []) : IsCut ":" (":".intercalate rest) rest where
  ne_nil := hne
  clean piece hpiece := hparts.clean piece (hsub.subset hpiece)
  joined := rfl

/-- `resolve` does not change if parts are taken out that do not have the library. -/
theorem resolve_among_of_removed {path : String} {rest : List String}
    (hlist : l.searchPath = some list) (hparts : IsCut ":" list parts)
    (hpath : l.resolve fs = .ok path) (hsub : rest.Sublist parts)
    (hsame : rest.filter (l.isIn fs) = parts.filter (l.isIn fs)) :
    (l.among (":".intercalate rest)).resolve fs = .ok path := by
  have hhead := resolve_eq_ok_iff_head?.1 hpath
  rw [dirs_of_list hlist hparts, ← hsame] at hhead
  -- The part that has the library is left.
  have hne : rest ≠ [] := by
    rintro rfl
    exact nomatch hhead
  apply resolve_eq_ok_iff_head?.2
  rw [dirs_of_list rfl (isCut_of_sublist hparts hsub hne)]
  exact hhead

/-- `resolve` does not change if anything follows at the end of the list. -/
theorem resolve_among_append {path : String} (hlist : l.searchPath = some list)
    (hparts : IsCut ":" list parts) (hpath : l.resolve fs = .ok path) (more : String) :
    (l.among (list ++ ":" ++ more)).resolve fs = .ok path := by
  have hmore : IsCut ":" more (Path.splitList more) := isCut_iff.2 rfl
  have hhead := resolve_eq_ok_iff_head?.1 hpath
  rw [dirs_of_list hlist hparts] at hhead
  apply resolve_eq_ok_iff_head?.2
  rw [dirs_of_list rfl (hparts.append hmore), List.filter_append, isIn_among]
  -- What follows comes after the first part that has the library.
  obtain ⟨first, hfirst, hcandidate⟩ := Option.map_eq_some_iff.1 hhead
  obtain ⟨others, hothers⟩ := List.head?_eq_some_iff.1 hfirst
  rw [hothers, List.cons_append, List.head?_cons]
  exact congrArg some hcandidate

/-- `Searches` holds for every search list that `IsCut` into parts. -/
theorem searches (hlist : l.searchPath = some list) (hparts : IsCut ":" list parts)
    (fs : FileSystem) : l.Searches fs list parts where
  ok_iff path := by
    rw [resolve_eq_ok_iff, dirs_of_list hlist hparts]
    exact find?_candidates_eq_some_iff
  error_iff fault := by
    rw [resolve_eq_error_iff, dirs_of_list hlist hparts, hlist, find?_candidates_eq_none_iff]
    rfl
  default_ignored dir := by
    simp only [resolve, candidates, dirs, hlist]
    rfl
  others_ignored fs' hsame := by
    have hfind : l.candidates.find? fs'.isFile = l.candidates.find? fs.isFile := by
      -- The search looks at the candidates of the parts, so other files may differ.
      apply List.find?_congr
      intro path hpath
      rw [candidates, dirs_of_list hlist hparts] at hpath
      obtain ⟨part, hpart, rfl⟩ := List.mem_map.1 hpath
      exact hsame part hpart
    rw [resolve, resolve, hfind]
  removed path rest := resolve_among_of_removed hlist hparts
  appended path more hpath := resolve_among_append hlist hparts hpath more
  candidate_empty := by
    have hname : l.candidate "" = l.fileName := by rw [candidate_eq, if_pos rfl]
    refine ⟨hname, ?_⟩
    rw [hname, FileSystem.start, l.isAbsolute_fileName]
    rfl

/-! ### Every search -/

/-- The library is found in the first place that counts, and nowhere else. -/
structure PicksFirst (l : Loader) (fs : FileSystem) : Prop where
  /-- A list has its parts, in one way. -/
  isCut_unique : ∀ list, ∃! parts, IsCut ":" list parts
  /-- With a list, its parts are searched. -/
  searches : ∀ list parts, l.searchPath = some list → IsCut ":" list parts →
    l.Searches fs list parts
  /-- Without a list `resolve` succeeds iff the library directory has the file. -/
  ok_iff : l.searchPath = none → ∀ path, l.resolve fs = .ok path ↔
    path = l.candidate l.defaultDir ∧ fs.isFile path = true
  /-- Otherwise it fails, and no list is named. -/
  error_iff : l.searchPath = none → ∀ fault, l.resolve fs = .error fault ↔
    fault = .notFound none ∧ fs.isFile (l.candidate l.defaultDir) = false

/-- `PicksFirst` holds for every loader and all files. -/
theorem resolve_picksFirst (l : Loader) (fs : FileSystem) : l.PicksFirst fs where
  isCut_unique list := ⟨_, isCut_iff.2 rfl, fun parts hparts => isCut_iff.1 hparts⟩
  searches list parts hlist hparts := searches hlist hparts fs
  ok_iff hnone path := by
    rw [resolve_eq_ok_iff, dirs_of_none hnone, List.map_singleton, List.find?_singleton]
    -- There is one candidate, and it is found iff it is a file.
    constructor
    · intro hfound
      split at hfound
      · rename_i hfile
        obtain rfl := Option.some.inj hfound
        exact ⟨rfl, hfile⟩
      · exact nomatch hfound
    · rintro ⟨rfl, hfile⟩
      exact if_pos hfile
  error_iff hnone fault := by
    rw [resolve_eq_error_iff, dirs_of_none hnone, hnone, find?_candidates_eq_none_iff,
      List.forall_mem_singleton]
    rfl

/-- The empty part comes first, but only the second one has the library. -/
example :
    ({ searchPath := some ":/opt", defaultDir := "/lib",
       opener := fun _ _ _ => .error "" } : Loader).resolve
      { nodes := [(["opt"], .directory),
          (["opt", "libjitcompiler.so"], .file 0 ByteArray.empty)] } =
      .ok "/opt/libjitcompiler.so" := by
  decide

end Loader

end CompilerLink.Library
