import CompilerLink.Diagnostic.Directive
import CompilerLink.Fault

/-! # Filters

A `LogFilter` is a list of rules, the most particular first. The first rule that covers a remark
decides on it alone; a remark that no rule covers is not let through. A rule is the more particular
the longer the target it asks for; rules equal in that are told apart by the fields they ask for. -/

namespace CompilerLink

namespace FilterRule

/-- Whether a rule speaks of a remark. Every remark has a message. -/
def covers (r : FilterRule) (d : Diagnostic) : Bool :=
  r.target.all (·.isPrefixOf d.component.target)
    && r.fields.all fun name => name = "message" || d.fields.any (·.1 = name)

/-- How particular a rule is about targets; not at all without one. -/
def reach (r : FilterRule) : Nat := r.target.elim 0 (·.utf8ByteSize + 1)

/-- Whether a rule is looked at before another one: it asks for a longer target, or for more
fields of it, or for fields whose names come later in order. -/
def isBefore (r s : FilterRule) : Bool :=
  s.reach < r.reach || r.reach = s.reach &&
    (s.fields.length < r.fields.length || r.fields.length = s.fields.length && s.fields < r.fields)

/-- Whether two rules speak of the same remarks by their words. -/
def sameScope (r s : FilterRule) : Bool := r.target = s.target && r.fields = s.fields

end FilterRule

/-- Rules, the most particular first. -/
structure LogFilter where
  rules : List FilterRule
  deriving Repr, DecidableEq

namespace LogFilter

/-- The environment variable that holds the directives. -/
def variableName : String := "RUST_LOG"

/-- Put a rule in its place, over the one of the same scope. -/
def insert (r : FilterRule) : List FilterRule → List FilterRule
  | [] => [r]
  | s :: rest =>
    if r.sameScope s then r :: rest
    else if r.isBefore s then r :: s :: rest
    else s :: insert r rest

/-- Read directives, leaving out what is none. -/
def readDirectives : List (List Char) → Except Panic (List FilterDirective)
  | [] => .ok []
  | text :: rest =>
    match FilterDirective.parse text with
    | .ok directive => (readDirectives rest).map (directive :: ·)
    | .error .malformed => readDirectives rest
    | .error .splitCharacter => .error .splitCharacter

/-- The filter of some directives. If there is no directive at all, it lets everything up to the
severity `fallback` through. -/
def ofDirectives (fallback : Severity) : List FilterDirective → LogFilter
  | [] => ⟨[{ threshold := some fallback }]⟩
  | directives =>
    ⟨(directives.filterMap FilterDirective.rule?).foldl (fun rules r => insert r rules) []⟩

/-- Read directives between commas into a filter. -/
def parse (fallback : Severity) (text : String) : Except Panic LogFilter :=
  (readDirectives (Text.splitOn ',' text.toList)).map (ofDirectives fallback)

/-- Whether a remark is let through. -/
def admits (f : LogFilter) (d : Diagnostic) : Bool :=
  match f.rules.find? (·.covers d) with
  | some r => r.threshold.admits d.severity
  | none => false

end LogFilter

end CompilerLink
