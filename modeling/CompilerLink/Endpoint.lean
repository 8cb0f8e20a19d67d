import CompilerLink.Handle.Table

/-! # Endpoints

An endpoint is one end of the link, with a handle table of its own and a mark that it has been shut
down. A link whose compiler comes from a shared library has two ends; otherwise one end serves both
sides. `Endpoints` keeps the two cases apart, so that the shared end is never counted twice. -/

namespace CompilerLink

open Text (Dump)

/-- Which side an endpoint serves. -/
inductive Role where
  | compiler
  | managed
  | shared
  deriving Repr, DecidableEq

/-- The name of a role. -/
def Role.name : Role → String
  | compiler => "Compiler"
  | managed => "Managed"
  | shared => "Shared"

/-- One end of the link. -/
structure Endpoint where
  id : Int32
  role : Role
  handles : HandleTable := {}
  isShutDown : Bool := false
  deriving DecidableEq

namespace Endpoint

/-- Shut the endpoint down; the answer tells whether it was up before. -/
def shutdown (e : Endpoint) : Outcome Endpoint Bool :=
  if e.isShutDown then ⟨false, e, []⟩
  else
    ⟨true, { e with isShutDown := true },
      [.remark {
        severity := .info
        component := .endpoint
        message := "Runtime instance shut down"
        fields := [("id", .number e.id.toInt), ("role", .shown e.role.name)] }]⟩

/-- Empty the handles to unloaded metadata. -/
def sweep (e : Endpoint) (catalog : Catalog) : Outcome Endpoint Unit :=
  (e.handles.sweep catalog).within fun t => { e with handles := t }

/-- The endpoint laid out for inspection. -/
def dump (e : Endpoint) : Dump :=
  .record "RuntimeInstance"
    [("id", .number e.id.toInt), ("role", .plain e.role.name),
      ("handles", .number e.handles.liveCount), ("shut_down", .flag e.isShutDown)] true

end Endpoint

/-- The two sides of the link. -/
inductive Side where
  | compiler
  | managed
  deriving Repr, DecidableEq

/-- The ends of a link. -/
inductive Endpoints where
  /-- One end that serves both sides. -/
  | shared (both : Endpoint)
  /-- An end for each side. -/
  | separate (compiler managed : Endpoint)
  deriving DecidableEq

namespace Endpoints

/-- The ends of a fresh link. -/
def create (nativeLibrary : Bool) : Endpoints :=
  if nativeLibrary then separate { id := 0, role := .compiler } { id := -1, role := .managed }
  else shared { id := 0, role := .shared }

/-- Whether the sides have an end each. -/
def areSeparate : Endpoints → Bool
  | shared _ => false
  | separate _ _ => true

/-- The end that serves a side. -/
def get : Endpoints → Side → Endpoint
  | shared both, _ => both
  | separate compiler _, .compiler => compiler
  | separate _ managed, .managed => managed

/-- Replace the end that serves a side. -/
def set : Endpoints → Side → Endpoint → Endpoints
  | shared _, _, e => shared e
  | separate _ managed, .compiler, e => separate e managed
  | separate compiler _, .managed, e => separate compiler e

/-- Work on the end that serves a side. -/
def onSide {α : Type} (ends : Endpoints) (side : Side) (work : Endpoint → Outcome Endpoint α) :
    Outcome Endpoints α :=
  (work (ends.get side)).within (ends.set side)

/-- Work on every end once, the managed side first. -/
def onAll (ends : Endpoints) (work : Endpoint → Outcome Endpoint Unit) : Outcome Endpoints Unit :=
  match ends with
  | shared both => (work both).within shared
  | separate compiler managed =>
    let m := work managed
    let c := work compiler
    ⟨(), separate c.state m.state, m.emitted ++ c.emitted⟩

/-- The metadata in use on every end, the managed side first. -/
def live : Endpoints → List MetadataId
  | shared both => both.handles.live
  | separate compiler managed => managed.handles.live ++ compiler.handles.live

/-- Shut every end down. -/
def shutdown (ends : Endpoints) : Outcome Endpoints Unit :=
  ends.onAll fun e => e.shutdown.map fun _ => ()

/-- Empty the handles to unloaded metadata on every end. -/
def sweep (ends : Endpoints) (catalog : Catalog) : Outcome Endpoints Unit :=
  ends.onAll (·.sweep catalog)

end Endpoints

end CompilerLink
