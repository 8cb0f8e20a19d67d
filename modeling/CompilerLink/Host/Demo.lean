import CompilerLink.Host.Basic

/-! # A host that always works

`DemoHost` is ready at once, remembers the classes it was asked to initialize and never fails. -/

namespace CompilerLink

open Text (Dump)

/-- A host that never fails. -/
structure DemoHost where
  /-- The classes initialized so far, in order. -/
  classes : List String := []
  deriving Repr, DecidableEq

namespace DemoHost

instance : Host DemoHost where
  isReady _ := true
  hasClass host c := host.classes.contains c
  loadClass host c :=
    if host.classes.contains c then ⟨.ok (), host, []⟩
    else
      ⟨.ok (), ⟨host.classes ++ [c]⟩,
        [.remark {
          severity := .debug
          component := .exercise
          message := "Initializing class"
          fields := [("class", .text c)] }]⟩
  createCompiler host endpoint :=
    ⟨.ok (), host,
      [.remark {
        severity := .info
        component := .exercise
        message := "Compiler created"
        fields := [("runtime", .number endpoint.id.toInt)] }]⟩

/-- The host laid out for inspection. -/
def dump (host : DemoHost) : Dump :=
  .record "DemoHost" [("initialized", .guarded (.sequence (host.classes.map .literal)))] true

end DemoHost

end CompilerLink
