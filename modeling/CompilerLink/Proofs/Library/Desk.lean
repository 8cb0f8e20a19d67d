import CompilerLink.Library.Loader

/-! # Requests to an opener

A `Desk` is an opener behind a desk, where every request is written down together with its answer.
`Loader.loadAt` and `Loader.getAt` do what `Loader.load` and `Loader.get` do, but go to a desk and
hold the link's lock. That makes no difference as long as the loader has counted all requests, by
`loadAt_eq` and `getAt_eq`.

Proofs about loads go by `Loads`, which has a case for each thing that a load can come to. -/

namespace CompilerLink.Library

/-! ### The lock -/

/-- The link's lock. It is poisoned if a thread came to grief while it had the guard. -/
structure Lock where
  poisoned : Bool := false

/-- Whoever has the guard holds the lock. -/
structure Guard where

namespace Lock

/-- A poisoned lock gives its guard away as an error. -/
def take (lock : Lock) : Except Guard Guard := if lock.poisoned then .error {} else .ok {}

/-- The guard, whether `take` gives it as an error or not: the lock protects no data that could be
half changed. -/
def hold (lock : Lock) : Guard :=
  match lock.take with
  | .ok guard => guard
  | .error guard => guard

end Lock

/-! ### The desk -/

/-- A request to open the file at a path, with the files as they were. -/
structure Request where
  files : FileSystem
  path : String
  answer : Except String Handle

/-- The path and the reason, if the request was refused. -/
def Request.refusal? (r : Request) : Option (String × String) :=
  match r.answer with
  | .ok _ => none
  | .error reason => some (r.path, reason)

/-- The fault of a load that failed. -/
def failure? {α : Type} : Except LibraryFault α → Option LibraryFault
  | .ok _ => none
  | .error fault => some fault

/-- The path and the reason, if it was the opener that refused. -/
def refusal? : LibraryFault → Option (String × String)
  | .notFound _ => none
  | .refused path reason => some (path, reason)

/-- An opener with the requests made to it, newest first. -/
structure Desk where
  opener : Opener
  requests : List Request := []

namespace Desk

/-- The answer to a request, and the desk with the request written down. -/
def ask (desk : Desk) (fs : FileSystem) (path : String) : Except String Handle × Desk :=
  let answer := desk.opener desk.requests.length fs path
  (answer, { desk with requests := ⟨fs, path, answer⟩ :: desk.requests })

end Desk

namespace Loader

/-- The remark made when the library has been opened. -/
def loadedRemark (path : String) : Emission :=
  .remark {
    severity := .info
    component := .library
    message := "Loaded compiler shared library"
    fields := [("path", .shown path)] }

/-- `load`, for one who has the guard of the lock. -/
def loadAt (l : Loader) (desk : Desk) (log : EventLog) (fs : FileSystem) (caller : Caller)
    (_held : Guard) : Outcome (Loader × Desk × EventLog) (Except LibraryFault Loaded) :=
  match l.library with
  | some library => ⟨.ok library, (l, desk, log), []⟩
  | none =>
    match l.resolve fs with
    | .error fault => ⟨.error fault, (l, desk, log), []⟩
    | .ok path =>
      let asked := { l with attempts := l.attempts + 1 }
      let (answer, desk) := desk.ask fs path
      match answer with
      | .error reason => ⟨.error (.refused path reason), (asked, desk, log), []⟩
      | .ok handle =>
        let library : Loaded := ⟨handle, path⟩
        let reported := log.event caller 1 (loadedMessage path)
        ⟨.ok library, ({ asked with library := some library }, desk, reported.state),
          reported.emitted ++ [loadedRemark path]⟩

/-- `get`; the lock is taken only if there is something to load. -/
def getAt (l : Loader) (desk : Desk) (log : EventLog) (fs : FileSystem) (caller : Caller)
    (wanted : Bool) (lock : Lock) :
    Outcome (Loader × Desk × EventLog) (Except LibraryFault (Option Loaded)) :=
  match l.library with
  | some library => ⟨.ok (some library), (l, desk, log), []⟩
  | none =>
    if wanted then (l.loadAt desk log fs caller lock.hold).map fun answer => answer.map some
    else ⟨.ok none, (l, desk, log), []⟩

/-! ### What a load comes to -/

/-- What `loadAt` can come to. -/
inductive Loads (l : Loader) (desk : Desk) (log : EventLog) (fs : FileSystem) (caller : Caller) :
    Outcome (Loader × Desk × EventLog) (Except LibraryFault Loaded) → Prop where
  /-- The library is there already. -/
  | kept {library : Loaded} (hlibrary : l.library = some library) :
      Loads l desk log fs caller ⟨.ok library, (l, desk, log), []⟩
  /-- `resolve` finds no file, and the opener is not asked. -/
  | notFound (hlibrary : l.library = none)
      (hresolve : l.resolve fs = .error (.notFound l.searchPath)) :
      Loads l desk log fs caller ⟨.error (.notFound l.searchPath), (l, desk, log), []⟩
  /-- The opener is asked and refuses. -/
  | refused {path reason : String} (hlibrary : l.library = none)
      (hresolve : l.resolve fs = .ok path)
      (hanswer : desk.opener desk.requests.length fs path = .error reason) :
      Loads l desk log fs caller
        ⟨.error (.refused path reason),
          ({ l with attempts := l.attempts + 1 },
            { desk with requests := ⟨fs, path, .error reason⟩ :: desk.requests }, log), []⟩
  /-- The opener is asked and opens the library, which is reported. -/
  | opened {path : String} {handle : Handle} (hlibrary : l.library = none)
      (hresolve : l.resolve fs = .ok path)
      (hanswer : desk.opener desk.requests.length fs path = .ok handle) :
      Loads l desk log fs caller
        ⟨.ok ⟨handle, path⟩,
          ({ l with attempts := l.attempts + 1, library := some ⟨handle, path⟩ },
            { desk with requests := ⟨fs, path, .ok handle⟩ :: desk.requests },
            (log.event caller 1 (loadedMessage path)).state),
          (log.event caller 1 (loadedMessage path)).emitted ++ [loadedRemark path]⟩

/-- The only error of `resolve` is `notFound`, with the search list. -/
theorem resolve_eq_error {l : Loader} {fs : FileSystem} {fault : LibraryFault}
    (h : l.resolve fs = .error fault) : fault = .notFound l.searchPath := by
  rw [resolve] at h
  split at h
  · cases h
  · exact (Except.error.inj h).symm

/-- Every `loadAt` is one of the cases of `Loads`. -/
theorem loads_loadAt (l : Loader) (desk : Desk) (log : EventLog) (fs : FileSystem)
    (caller : Caller) (held : Guard) :
    Loads l desk log fs caller (l.loadAt desk log fs caller held) := by
  rw [loadAt]
  -- The branches of `loadAt` are the constructors of `Loads`, in the same order.
  split
  · rename_i library hlibrary
    exact .kept hlibrary
  · rename_i hlibrary
    split
    · rename_i fault hresolve
      obtain rfl := resolve_eq_error hresolve
      exact .notFound hlibrary hresolve
    · rename_i path hresolve
      cases hanswer : desk.opener desk.requests.length fs path with
      | error reason =>
        simp only [Desk.ask, hanswer]
        exact .refused hlibrary hresolve hanswer
      | ok handle =>
        simp only [Desk.ask, hanswer]
        exact .opened hlibrary hresolve hanswer

variable {l : Loader} {desk : Desk} {log : EventLog} {fs : FileSystem} {caller : Caller}
variable {o : Outcome (Loader × Desk × EventLog) (Except LibraryFault Loaded)}

/-- The library that `loadAt` answers is the one that the loader has afterwards. -/
theorem Loads.library_eq (h : Loads l desk log fs caller o) {library : Loaded}
    (hvalue : library ∈ o.value.toOption) : o.state.1.library = some library := by
  cases h with
  | kept hlibrary => rw [hlibrary]; exact hvalue
  | notFound hlibrary hresolve => cases hvalue
  | refused hlibrary hresolve hanswer => cases hvalue
  | opened hlibrary hresolve hanswer => exact hvalue

/-- `loadAt` keeps a library that the loader has. -/
theorem Loads.library_kept (h : Loads l desk log fs caller o) {library : Loaded}
    (hlibrary : l.library = some library) : o.state.1.library = some library := by
  cases h with
  | kept => exact hlibrary
  | notFound hnone => simp [hnone] at hlibrary
  | refused hnone => simp [hnone] at hlibrary
  | opened hnone => simp [hnone] at hlibrary

/-- `Loads` adds to the refusals at the desk exactly the `refusal?` of its answer, with the path and
the reason. -/
theorem Loads.refusals_eq (h : Loads l desk log fs caller o) :
    o.state.2.1.requests.filterMap Request.refusal? =
      ((failure? o.value).bind refusal?).toList ++ desk.requests.filterMap Request.refusal? := by
  cases h <;> simp [failure?, refusal?, Request.refusal?, List.filterMap_cons]

/-- After a `loadAt` that failed the loader has no library. -/
theorem Loads.library_of_failure (h : Loads l desk log fs caller o) {fault : LibraryFault}
    (hfailure : fault ∈ failure? o.value) : o.state.1.library = none := by
  cases h with
  | kept hlibrary => cases hfailure
  | notFound hlibrary hresolve => exact hlibrary
  | refused hlibrary hresolve hanswer => exact hlibrary
  | opened hlibrary hresolve hanswer => cases hfailure

/-- The loader has a library after `loadAt` iff it had one before or this one succeeded. -/
theorem Loads.library_iff (h : Loads l desk log fs caller o) :
    o.state.1.library ≠ none ↔ l.library ≠ none ∨ 0 < o.value.toOption.toList.length := by
  cases h <;> simp [*, Except.toOption]

/-- `loadAt` of a file that `resolve` finds succeeds or is refused, one of the two. -/
theorem Loads.one (h : Loads l desk log fs caller o) (hpresent : ∃ path, l.resolve fs = .ok path) :
    ((failure? o.value).bind refusal?).toList.length + o.value.toOption.toList.length = 1 := by
  obtain ⟨path, hpath⟩ := hpresent
  cases h with
  | kept hlibrary => rfl
  | notFound hlibrary hresolve => rw [hpath] at hresolve; cases hresolve
  | refused hlibrary hresolve hanswer => rfl
  | opened hlibrary hresolve hanswer => rfl

/-! ### Loads without a desk -/

/-- An outcome without the desk. -/
abbrev leaveDesk {α : Type} (o : Outcome (Loader × Desk × EventLog) α) :
    Outcome (Loader × EventLog) α :=
  o.within fun s => (s.1, s.2.2)

/-- `loadAt` is `load`, at a desk where all requests were counted. -/
theorem loadAt_eq (hopener : desk.opener = l.opener) (hcount : l.attempts = desk.requests.length)
    (held : Guard) : leaveDesk (l.loadAt desk log fs caller held) = l.load log fs caller := by
  have hloads := loads_loadAt l desk log fs caller held
  generalize l.loadAt desk log fs caller held = o at hloads
  rw [load]
  -- The desk asks the opener what the loader would ask it, as both have counted the same requests.
  cases hloads with
  | kept hlibrary => simp [Outcome.within, hlibrary]
  | notFound hlibrary hresolve => simp [Outcome.within, hlibrary, hresolve]
  | refused hlibrary hresolve hanswer =>
    rw [hopener, ← hcount] at hanswer
    simp [Outcome.within, hlibrary, hresolve, hanswer]
  | opened hlibrary hresolve hanswer =>
    rw [hopener, ← hcount] at hanswer
    simp [Outcome.within, hlibrary, hresolve, hanswer, loadedRemark]

/-- `getAt` is `get`, at a desk where all requests were counted. -/
theorem getAt_eq (hopener : desk.opener = l.opener) (hcount : l.attempts = desk.requests.length)
    (wanted : Bool) (lock : Lock) :
    leaveDesk (l.getAt desk log fs caller wanted lock) = l.get log fs caller wanted := by
  rw [get, getAt]
  cases l.library with
  | some library => rfl
  | none =>
    cases wanted with
    | false => rfl
    | true =>
      rw [if_pos rfl, if_pos rfl, ← loadAt_eq hopener hcount lock.hold]
      rfl

/-- `getAt` for one who wants the library is `loadAt`, whoever has the lock. -/
theorem getAt_true (l : Loader) (desk : Desk) (log : EventLog) (fs : FileSystem) (caller : Caller)
    (lock : Lock) : l.getAt desk log fs caller true lock =
      (l.loadAt desk log fs caller lock.hold).map fun answer => answer.map some := by
  rw [getAt]
  split
  · rename_i library hlibrary
    simp [loadAt, hlibrary, Outcome.map, Except.map]
  · rfl

/-- `getAt` for one who does not want the library answers what there is. -/
theorem getAt_false (l : Loader) (desk : Desk) (log : EventLog) (fs : FileSystem) (caller : Caller)
    (lock : Lock) :
    l.getAt desk log fs caller false lock = ⟨.ok l.library, (l, desk, log), []⟩ := by
  rw [getAt]
  split <;> simp [*]

end Loader

end CompilerLink.Library
