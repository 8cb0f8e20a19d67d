import CompilerLink.Host.Basic

/-! # A host that fails on demand

`ScriptedHost` does what it is told: it may be made unready, have classes initialized behind the
link's back and refuse requests with a given text. It keeps a record of the requests it got, refused
ones included. -/

namespace CompilerLink

/-- A request that a host has got. -/
inductive HostCall where
  | loadClass (name : String)
  | createCompiler (endpoint : Int32)
  deriving DecidableEq

/-- A host that fails on demand. -/
structure ScriptedHost where
  ready : Bool := true
  /-- The classes initialized so far. -/
  classes : List String := []
  /-- The classes that cannot be initialized, each with the reason. -/
  refusedClasses : List (String × String) := []
  /-- Why the compiler cannot be created, if so. -/
  refusedCompiler : Option String := none
  /-- The requests since the record was last taken. -/
  calls : List HostCall := []
  deriving DecidableEq

namespace ScriptedHost

instance : Host ScriptedHost where
  isReady host := host.ready
  hasClass host c := host.classes.contains c
  loadClass host c :=
    let asked := { host with calls := host.calls ++ [.loadClass c] }
    match host.refusedClasses.lookup c with
    | some text => ⟨.error text, asked, []⟩
    | none => ⟨.ok (), { asked with classes := asked.classes ++ [c] }, []⟩
  createCompiler host endpoint :=
    let asked := { host with calls := host.calls ++ [.createCompiler endpoint.id] }
    ⟨host.refusedCompiler.elim (.ok ()) .error, asked, []⟩

/-- Have a class initialized without being asked to. -/
def markLoaded (host : ScriptedHost) (c : String) : ScriptedHost :=
  if host.classes.contains c then host else { host with classes := host.classes ++ [c] }

/-- From now on a class is refused for the given reason, or no longer refused. -/
def refuse (host : ScriptedHost) (c : String) (reason : Option String) : ScriptedHost :=
  let others := host.refusedClasses.filter (·.1 ≠ c)
  { host with refusedClasses := reason.elim others fun text => (c, text) :: others }

end ScriptedHost

end CompilerLink
