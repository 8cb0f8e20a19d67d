/-! # Names with the process id in them

The name of the crash log may hold `%p` in places where the process id belongs. -/

namespace CompilerLink.Crash

/-- `pattern` with the process id in place of every `%p`, read from the left. -/
def expand (processId : List Char) : List Char → List Char
  | [] => []
  | '%' :: 'p' :: rest => processId ++ expand processId rest
  | c :: rest => c :: expand processId rest

/-- `pattern` with the process id in place of every `%p`. -/
def expandPid (processId pattern : String) : String :=
  String.ofList (expand processId.toList pattern.toList)

end CompilerLink.Crash
