/- Paths, and the last name on one, which is the name of a file. -/

namespace LoxLexer.Command

/-- The names between the slashes of a path.  Two slashes in a row, or one at either
end, have an empty name beside them. -/
def pathNames (path : String) : List String :=
  (path.toList.splitOn '/').map String.ofList

def staysInPlace (name : String) : Bool :=
  name = "" || name = "."

def pathSteps (path : String) : List String :=
  (pathNames path).filter fun name => !staysInPlace name

/-- The name of the file that a path leads to, unless its last step is to a parent
directory. -/
def fileName? (path : String) : Option String :=
  match (pathSteps path).getLast? with
  | some name => if name = ".." then none else some name
  | none => none

end LoxLexer.Command
