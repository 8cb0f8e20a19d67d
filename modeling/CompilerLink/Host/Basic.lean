import CompilerLink.Endpoint

/-! # Hosts

The managed runtime that the link serves. `Host` is what the link needs of it; the host's own state
`η` is threaded through every request that may change it. -/

namespace CompilerLink

/-- What the link asks of the managed runtime. -/
class Host (η : Type) where
  /-- Whether modules and classes have been loaded far enough to bring the compiler up. -/
  isReady : η → Bool
  /-- Whether a class has been initialized. -/
  hasClass : η → String → Bool
  /-- Initialize a class, or tell why not. -/
  loadClass : η → String → Outcome η (Except String Unit)
  /-- Create the compiler on an endpoint, or tell why not. -/
  createCompiler : η → Endpoint → Outcome η (Except String Unit)

namespace Host

/-- Initialize those of some classes that are not, in order, up to the first failure. -/
def loadMissing {η : Type} [Host η] : η → List String → Outcome η (Except String Unit)
  | host, [] => ⟨.ok (), host, []⟩
  | host, c :: rest =>
    if hasClass host c then loadMissing host rest
    else
      let done := loadClass host c
      match done.value with
      | .ok () => (loadMissing done.state rest).after done.emitted
      | .error text => ⟨.error text, done.state, done.emitted⟩

end Host

end CompilerLink
