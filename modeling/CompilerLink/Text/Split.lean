/-! # Splitting text

`splitOn mark cs` is the parts of `cs` between occurrences of `mark`. Parts may be empty, and
there is always at least one. -/

namespace CompilerLink.Text

/-- The parts of `cs` between occurrences of `mark`. -/
def splitOn (mark : Char) : List Char → List (List Char)
  | [] => [[]]
  | c :: rest =>
    if c = mark then [] :: splitOn mark rest
    else
      match splitOn mark rest with
      | [] => [[c]]
      | part :: parts => (c :: part) :: parts

end CompilerLink.Text
