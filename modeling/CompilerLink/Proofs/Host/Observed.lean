import CompilerLink.Host.Basic

/-! # Hosts that are watched

An `Observed` host answers as the host inside it does and keeps a list of what it was asked for. A
link cannot tell the two apart, so whatever is said of the requests of a link with an observed host
is said of the requests that any host gets. -/

namespace CompilerLink

/-- Something a host was asked for, with its answer. -/
inductive Host.Request where
  /-- The class is asked for by its name. -/
  | loadClass (name : String) (answer : Except String Unit)
  /-- The endpoint is named by its number. -/
  | createCompiler (endpoint : Int32) (answer : Except String Unit)

/-- A host and what it was asked for. -/
structure Observed (η : Type) where
  host : η
  /-- The requests so far, newest first. -/
  requests : List Host.Request := []

namespace Observed

variable {η α : Type}

/-- The host after a request, with the request and its answer noted. -/
def after (o : Observed η) (request : α → Host.Request) (done : Outcome η α) :
    Outcome (Observed η) α :=
  done.within fun host => ⟨host, request done.value :: o.requests⟩

instance [Host η] : Host (Observed η) where
  isReady o := Host.isReady o.host
  hasClass o c := Host.hasClass o.host c
  loadClass o c := o.after (.loadClass c) (Host.loadClass o.host c)
  createCompiler o endpoint :=
    o.after (.createCompiler endpoint.id) (Host.createCompiler o.host endpoint)

variable [Host η] {o : Observed η} {endpoint : Endpoint} {answer : Except String Unit}
  {done : Outcome (Observed η) (Except String Unit)}

/-- The host inside gives the answer to `createCompiler`. -/
theorem value_of_createCompiler (hdone : Host.createCompiler o endpoint = done)
    (hanswer : done.value = answer) : (Host.createCompiler o.host endpoint).value = answer := by
  rw [← hanswer, ← hdone]
  rfl

/-- `createCompiler` is noted in `requests`, with its answer. -/
theorem requests_of_createCompiler (hdone : Host.createCompiler o endpoint = done)
    (hanswer : done.value = answer) :
    done.state.requests = .createCompiler endpoint.id answer :: o.requests := by
  rw [← hanswer, ← hdone]
  rfl

end Observed

end CompilerLink
