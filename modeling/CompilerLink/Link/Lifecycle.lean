import CompilerLink.Link.Basic

/-! # Life of a link

The compiler is brought up by `initCompiler`, which the host may refuse, or declared up by
`markInitialized`. `ensureBoxCaches` primes the classes that compiled code relies on, once. After
`shutdown` the compiler cannot be brought up any more and every endpoint is down. -/

namespace CompilerLink.Link

variable {η : Type}

/-- The classes whose caches compiled code relies on, in the order they are primed. -/
def boxCacheClasses : List String :=
  ["Boolean", "Byte$ByteCache", "Short$ShortCache", "Character$CharacterCache",
    "Integer$IntegerCache", "Long$LongCache"]

/-- Whether the host is ready for the link. -/
def canInitialize [Host η] (l : Link η) : Bool := Host.isReady l.host

/-- Declare the compiler up. -/
def markInitialized (l : Link η) : Link η := { l with isInitialized := true }

/-- Have the host create the compiler on the compiler's endpoint. -/
def initCompiler [Host η] (l : Link η) (caller : Caller) :
    Outcome (Link η) (Except LinkFault Unit) :=
  if l.inShutdown then ⟨.error .shutDown, l, []⟩
  else
    let created := Host.createCompiler l.host (l.endpoints.get .compiler)
    let l := { l with host := created.state }
    match created.value with
    | .error text => ⟨.error (.host text), l, created.emitted⟩
    | .ok () =>
      let reported := l.markInitialized.report caller 1 "initialized compiler"
      ⟨.ok (), reported.state, created.emitted ++ reported.emitted⟩

/-- Prime the box caches, unless that has been done. -/
def ensureBoxCaches [Host η] (l : Link η) (caller : Caller) :
    Outcome (Link η) (Except LinkFault Unit) :=
  if l.boxCachesReady then ⟨.ok (), l, []⟩
  else
    let primed := Host.loadMissing l.host boxCacheClasses
    let l := { l with host := primed.state }
    match primed.value with
    | .error text => ⟨.error (.host text), l, primed.emitted⟩
    | .ok () =>
      let reported := { l with boxCachesReady := true }.report caller 2 "box caches initialized"
      ⟨.ok (), reported.state, primed.emitted ++ reported.emitted⟩

/-- Take no more work for the compiler and shut every endpoint down. -/
def shutdown (l : Link η) (caller : Caller) : Outcome (Link η) Unit :=
  let reported := { l with inShutdown := true }.report caller 1 "shutting down compiler bridge"
  let down := reported.state.endpoints.shutdown
  ⟨(), { reported.state with endpoints := down.state },
    reported.emitted ++
      .remark {
        severity := .info
        component := .link
        message := "Compiler bridge shutting down" } :: down.emitted⟩

/-- Tell every endpoint that classes may have been unloaded. -/
def doUnloading (l : Link η) (catalog : Catalog) (occurred : Bool) : Outcome (Link η) Unit :=
  if occurred then (l.endpoints.sweep catalog).within fun ends => { l with endpoints := ends }
  else ⟨(), l, []⟩

/-- The metadata in use on every endpoint, the managed side first. -/
def metadataWalk (l : Link η) : List MetadataId := l.endpoints.live

end CompilerLink.Link
