import CompilerLink.Diagnostic
import CompilerLink.Text.Quoted

/-! # Log lines

A remark is shown on one line: the time, the severity, perhaps the component, the message and the
fields. A field by the name of `message` is shown like the message, without its name. Messages are
kept from steering the terminal: `spellOut` writes the controls that could do so as text. -/

namespace CompilerLink

/-! ### Colours -/

/-- A way of showing text on a terminal. -/
inductive Shade where
  | dim
  | slanted
  | coloured (colour : Nat)
  deriving Repr, DecidableEq

/-- The number by which a terminal knows a shade. -/
def Shade.number : Shade → Nat
  | dim => 2
  | slanted => 3
  | coloured colour => 30 + colour

/-- The colour of a severity: red, yellow, green, blue, purple. -/
def Severity.shade : Severity → Shade
  | .error => .coloured 1
  | .warn => .coloured 3
  | .info => .coloured 2
  | .debug => .coloured 4
  | .trace => .coloured 5

/-! ### Messages -/

/-- Controls beyond those of ASCII. -/
def isHighControl (c : Char) : Bool := 0x80 ≤ c.toNat && c.toNat ≤ 0x9f

/-- One character as text that steers no terminal. -/
def spellOutChar (c : Char) : List Char :=
  if c ∈ ['\x07', '\x08', '\x0c', '\x1b', '\x7f'] then
    ['\\', 'x'] ++ (if c.toNat < 16 then ['0'] else []) ++ Text.hex c.toNat
  else if isHighControl c then ['\\', 'u', '\x7b'] ++ Text.hex c.toNat ++ ['\x7d']
  else [c]

/-- Text without the controls that steer a terminal. -/
def spellOut (text : String) : String := String.ofList (text.toList.flatMap spellOutChar)

/-! ### Lines -/

/-- How remarks are shown. -/
structure LineStyle where
  /-- Use the colours of a terminal. -/
  coloured : Bool
  /-- Show the component. -/
  showsTarget : Bool
  /-- The time, as it is written. -/
  time : String
  /-- Any time span, as it is written. -/
  duration : String

namespace LineStyle

/-- Text in a shade, if there are shades. -/
def paint (style : LineStyle) (shade : Shade) (text : String) : String :=
  if style.coloured then "\x1b[" ++ toString shade.number ++ "m" ++ text ++ "\x1b[0m" else text

/-- How the value of a field is shown. -/
def value (style : LineStyle) : FieldValue → String
  | .number n => toString n
  | .flag b => if b then "true" else "false"
  | .duration => style.duration
  | .text s => Text.quoted s
  | .shown s => s

/-- How a field is shown. -/
def field (style : LineStyle) (name : String) (v : FieldValue) : String :=
  if name = "message" then spellOut (style.value v)
  else style.paint .slanted name ++ style.paint .dim "=" ++ style.value v

/-- The name of a severity, five characters wide. -/
def severityName (s : Severity) : String := "".pushn ' ' (5 - s.name.length) ++ s.name

/-- What stands between the severity and the message. -/
def target (style : LineStyle) (c : Component) : List String :=
  if style.showsTarget then [style.paint .dim c.target ++ style.paint .dim ":"] else []

/-- The line of a remark. -/
def line (style : LineStyle) (d : Diagnostic) : String :=
  " ".intercalate
    ([style.paint .dim style.time, style.paint d.severity.shade (severityName d.severity)]
      ++ style.target d.component ++ [spellOut d.message]
      ++ d.fields.map fun (name, v) => style.field name v) ++ "\n"

end LineStyle

end CompilerLink
