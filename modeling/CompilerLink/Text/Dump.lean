import CompilerLink.Text.Quoted

/-! # Dumps

A `Dump` is the shape of a value as a person inspecting the program sees it. `Dump.render` writes
it on one line: records as `Name { field: value }`, with `..` in place of the fields that are not
shown, wrapped values as `Name(value)` and sequences between brackets. -/

namespace CompilerLink.Text

/-- A value laid out for inspection. -/
inductive Dump where
  /-- Text that stands for itself: a number, a truth value, a name. -/
  | plain (text : String)
  /-- Text shown between quotes. -/
  | literal (content : String)
  /-- A value inside a named wrapper. -/
  | wrapped (name : String) (value : Dump)
  /-- A sequence of values. -/
  | sequence (items : List Dump)
  /-- A record; `complete` is false if some fields are not shown. -/
  | record (name : String) (fields : List (String × Dump)) (complete : Bool)

namespace Dump

/-- A whole number. -/
def number (n : Int) : Dump := plain (toString n)

/-- A truth value. -/
def flag (b : Bool) : Dump := plain (if b then "true" else "false")

/-- A value that may be missing. -/
def optional : Option Dump → Dump
  | none => plain "None"
  | some value => wrapped "Some" value

/-- A value that is guarded by a lock nobody has broken. -/
def guarded (value : Dump) : Dump :=
  record "Mutex" [("data", value), ("poisoned", flag false)] false

mutual

/-- The dump on one line. -/
def render : Dump → String
  | plain text => text
  | literal content => quoted content
  | wrapped name value => name ++ "(" ++ value.render ++ ")"
  | sequence items => "[" ++ ", ".intercalate (renderItems items) ++ "]"
  | record name fields complete =>
    let shown := renderFields fields ++ if complete then [] else [".."]
    name ++ " \x7b " ++ ", ".intercalate shown ++ " \x7d"

/-- The items of a sequence, each on its own. -/
def renderItems : List Dump → List String
  | [] => []
  | item :: rest => item.render :: renderItems rest

/-- The fields of a record, each as `name: value`. -/
def renderFields : List (String × Dump) → List String
  | [] => []
  | (name, value) :: rest => (name ++ ": " ++ value.render) :: renderFields rest

end

end Dump

end CompilerLink.Text
