import CompilerLink.CommandLine.Options

/-! # Reading a command line

Arguments are read from left to right. An option's value is either attached to it by `=` or is the
argument behind it; in the second case it is looked at only when the next option has been recognized
or the line ends, so an unknown argument is reported before a bad value on its left.

After the arguments, options that are not given take the value of their environment variable. -/

namespace CompilerLink.CommandLine

/-- An option whose value has not been looked at. -/
structure Pending where
  key : Key
  /-- The argument behind the option, once it has been reached. -/
  value : Option String := none
  deriving Repr, DecidableEq

/-- What has been read of a command line. -/
structure Reading where
  options : Options := {}
  /-- The options given so far. -/
  given : List Key := []
  pending : Option Pending := none
  deriving Repr, DecidableEq

namespace Reading

/-- Take an option with the text of its value. -/
def accept (r : Reading) (key : Key) (text : String) : Except UsageFault Reading :=
  if key ∈ r.given then .error .repeatedOption
  else (r.options.store key text).map fun options => { r with options, given := key :: r.given }

/-- Look at the value of the pending option. -/
def settle (r : Reading) : Except UsageFault Reading :=
  match r.pending with
  | none => .ok r
  | some ⟨_, none⟩ => .error .invalidValue
  | some ⟨key, some text⟩ => { r with pending := none }.accept key text

/-- Take an option given by name, perhaps with an attached value. -/
def long (r : Reading) (name : String) (attached : Option String) : Except UsageFault Reading :=
  match Key.find? name with
  | some key =>
    match key.isFlag, attached with
    | true, none => do (← r.settle).accept key "true"
    | true, some _ => .error .tooManyValues
    | false, some text => do (← r.settle).accept key text
    | false, none => do return { ← r.settle with pending := some { key } }
  | none =>
    if name = "help" ∨ name = "version" then
      match attached with
      | some _ => .error .tooManyValues
      | none => do
        let _ ← r.settle
        .error (if name = "help" then .helpWanted else .versionWanted)
    else .error .unknownArgument

/-- Take an argument that starts with one dash: only its first letter counts, because every letter
that is known ends the reading. -/
def short (r : Reading) (letter : Char) : Except UsageFault Reading :=
  if letter = 'h' then do
    let _ ← r.settle
    .error .helpWanted
  else if letter = 'V' then do
    let _ ← r.settle
    .error .versionWanted
  else .error .unknownArgument

/-- Take an argument that looks like no option. -/
def plain (r : Reading) (arg : String) : Except UsageFault Reading :=
  match r.pending with
  | some ⟨key, none⟩ => .ok { r with pending := some ⟨key, some arg⟩ }
  | _ => .error .unknownArgument

end Reading

/-- The text before and behind the first `=`. -/
def splitAssignment (cs : List Char) : String × Option String :=
  match cs.dropWhile (· ≠ '=') with
  | [] => (String.ofList cs, none)
  | _ :: text => (String.ofList (cs.takeWhile (· ≠ '=')), some (String.ofList text))

/-- Read arguments from left to right. -/
def readArguments : Reading → List String → Except UsageFault Reading
  | r, [] => r.settle
  | r, arg :: rest =>
    match arg.toList with
    | ['-', '-'] => if rest.isEmpty then r.settle else .error .unknownArgument
    | '-' :: '-' :: cs => do
      let (name, attached) := splitAssignment cs
      readArguments (← r.long name attached) rest
    | '-' :: letter :: _ => do readArguments (← r.short letter) rest
    | _ => do readArguments (← r.plain arg) rest

/-- Fill options that are not given from the environment, in order. -/
def readEnvironment (environment : List (String × String)) :
    Reading → List Key → Except UsageFault Reading
  | r, [] => .ok r
  | r, key :: rest =>
    match key.variableName?.bind (List.lookup · environment) with
    | some text =>
      if key ∈ r.given then readEnvironment environment r rest
      else do readEnvironment environment (← r.accept key text) rest
    | none => readEnvironment environment r rest

/-- The options that a command line and an environment choose. -/
def parse (args : List String) (environment : List (String × String)) :
    Except UsageFault Options := do
  let r ← readArguments {} args
  return (← readEnvironment environment r Key.all).options

end CompilerLink.CommandLine
