import CompilerLink.Diagnostic.Threshold
import CompilerLink.Regex.Reader
import CompilerLink.Text.Slice
import CompilerLink.Text.Split

/-! # Filter directives

A directive says how talkative a part of the program may be. It is a threshold, or a target, or a
target with `=` and a threshold behind it; behind the target there may be brackets that hold the
name of a scope, a field between braces, or both. A target alone lets everything of it through.

A scope, or a field that is to have a certain value, speaks of stretches of work and not of single
remarks. The program marks no such stretches, so a directive that asks for one is read but lets
nothing through. The value is a real numeral or a regular expression.

The marks of a directive are looked for without the blanks around it, but its parts are cut out with
those blanks, at the byte places where the marks were found. So a blank in front moves every part,
and a part may come to begin or end inside a character; that is not survived. -/

namespace CompilerLink

/-- A threshold for the remarks of some components. -/
structure FilterRule where
  /-- What the component's target starts with. -/
  target : Option String := none
  /-- Fields that the remark has to have. -/
  fields : List String := []
  threshold : Threshold
  deriving Repr, DecidableEq

/-- What a directive asks for. -/
inductive FilterDirective where
  /-- A threshold for remarks. -/
  | rule (r : FilterRule)
  /-- Something about stretches of work. -/
  | ofScope
  deriving Repr, DecidableEq

/-- Why text is not read as a directive. -/
inductive DirectiveFault where
  /-- It is none. -/
  | malformed
  /-- A part begins or ends inside a character. -/
  | splitCharacter
  deriving Repr, DecidableEq

namespace FilterDirective

/-- The rule of a directive that has one. -/
def rule? : FilterDirective → Option FilterRule
  | rule r => some r
  | ofScope => none

/-- The directive of the given parts. -/
def build (target scope field : Option String) (threshold : Threshold) : FilterDirective :=
  if scope.isSome ∨ field.any (·.toList.contains '=') then ofScope
  else rule { target, fields := field.toList, threshold }

/-- Characters that a directive without brackets may start with: letters, numbers and three
marks. -/
def isHead (c : Char) : Bool := Text.isAlphanumeric c || c ∈ ['-', ':', '_']

/-- The threshold behind `=`; if nothing stands there, everything is let through. -/
def readThreshold (text : String) : Option Threshold :=
  if text = "" then some (some .trace) else Threshold.parse? text

/-- Whether text stands for values that a field may have. -/
def isValue (text : List Char) : Bool := Text.isReal text || Regex.isUsable text

/-- Whether text is a field, with or without a value behind `=`; what stands behind a second `=`
does not count. -/
def isField (text : String) : Bool :=
  match Text.splitOn '=' text.toList with
  | _ :: value :: _ => isValue value
  | _ => text ≠ ""

/-- A place on the way through text. -/
structure Cursor where
  /-- The bytes passed. -/
  place : Nat := 0
  /-- The characters to come. -/
  rest : List Char

namespace Cursor

/-- Pass one character, if it is the given one. -/
def pass? (c : Cursor) (mark : Char) : Option Cursor :=
  match c.rest with
  | [] => none
  | m :: rest => if m = mark then some ⟨c.place + m.utf8Size, rest⟩ else none

/-- Go on to the next of some marks. -/
def find? (c : Cursor) (marks : List Char) : Option Cursor :=
  let passed := c.rest.takeWhile (· ∉ marks)
  let rest := c.rest.dropWhile (· ∉ marks)
  if rest.isEmpty then none else some ⟨c.place + Text.byteCount passed, rest⟩

end Cursor

/-- A directive, unless there is none. -/
def orMalformed {α : Type} (o : Option α) : Except DirectiveFault α :=
  o.elim (.error .malformed) .ok

/-- A part of a text, unless it is cut inside a character. -/
def part (cut : Option (List Char)) : Except DirectiveFault String :=
  match cut with
  | none => .error .splitCharacter
  | some cs => .ok (String.ofList cs)

/-- The end of a directive at a place behind its brackets: nothing, or a threshold. -/
def finish (text : List Char) (c : Cursor) (build : Threshold → FilterDirective) :
    Except DirectiveFault FilterDirective :=
  if c.rest.isEmpty then .ok (build (some .trace))
  else do
    let behind ← orMalformed (c.pass? '=')
    let threshold ← part (Text.dropBytes? behind.place text)
    orMalformed ((readThreshold threshold).map build)

/-- A directive from the inside of its brackets on. -/
def bracketed (text : List Char) (target : Option String) (c : Cursor) :
    Except DirectiveFault FilterDirective := do
  let scopeEnd ← orMalformed (c.find? [']', '\x7b'])
  let scope ← part (Text.slice? c.place scopeEnd.place text)
  match scopeEnd.pass? ']' with
  | some behind => finish text behind (build target (some scope) none)
  | none =>
    let fieldStart ← orMalformed (scopeEnd.pass? '\x7b')
    let fieldEnd ← orMalformed (fieldStart.find? ['\x7d'])
    let field ← part (Text.slice? fieldStart.place fieldEnd.place text)
    if isField field then
      let behind ← orMalformed ((fieldEnd.pass? '\x7d').bind (·.pass? ']'))
      finish text behind (build target (if scope = "" then none else some scope) (some field))
    else .error .malformed

/-- A directive without brackets and without `=`: a threshold if it reads as one, or else a
target. -/
def bare (text : String) : FilterDirective :=
  match Threshold.parse? text with
  | some threshold => rule { threshold }
  | none => rule { target := some text, threshold := some .trace }

/-- Read a directive. -/
def parse (text : List Char) : Except DirectiveFault FilterDirective :=
  let start : Cursor := { rest := Text.trim text }
  match start.pass? '[' with
  | some inside => bracketed text none inside
  | none =>
    if start.rest.head?.any isHead then
      match start.find? ['=', '['] with
      | none => .ok (bare (String.ofList text))
      | some mark => do
        let target ← part (Text.takeBytes? mark.place text)
        match mark.pass? '[' with
        | some inside => bracketed text (some target) inside
        | none => finish text mark (build (some target) none none)
    else .error .malformed

end FilterDirective

end CompilerLink
