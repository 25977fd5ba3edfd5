/-!
# Paths in the home directory

A path whose first component is a tilde lies in the home directory. What follows the tilde loses the
separators and the components that mean the same directory at either end, and is then put behind
the home directory with one separator, if that does not end in one. Every other path stays as it is.
-/

namespace RemoteDisplay.HomePath

/-- A component that means the same directory, or none at all. -/
def isVoid (component : List Char) : Bool := component.isEmpty || component = ['.']

/-- The components between separators. -/
def components (path : List Char) : List (List Char) :=
  match path with
  | [] => [[]]
  | c :: cs =>
    if c = '/' then [] :: components cs
    else
      match components cs with
      | [] => [[c]]
      | p :: ps => (c :: p) :: ps

/-- The components with separators between them. -/
def join (cs : List (List Char)) : List Char := ['/'].intercalate cs

/-- The path without void components at either end. -/
def trimmed (cs : List (List Char)) : List Char :=
  join ((cs.dropWhile isVoid).reverse.dropWhile isVoid).reverse

/-- The path behind a leading tilde, if there is one. -/
def afterTilde? (path : String) : Option String :=
  match components path.toList with
  | ['~'] :: rest => some (String.ofList (trimmed rest))
  | _ => none

/-- A relative path behind a directory. -/
def append (directory path : String) : String :=
  if directory.isEmpty || directory.endsWith "/" then directory ++ path
  else directory ++ "/" ++ path

/-- The path with the home directory in place of a leading tilde; nothing, if there is a tilde and
no home directory. -/
def expand? (home : Option String) (path : String) : Option String :=
  match afterTilde? path with
  | none => some path
  | some rest => home.map (append · rest)

/-- What is missing when a path has a tilde and there is no home directory. -/
def noHome : String := "Failed to get HOME environment variable"

end RemoteDisplay.HomePath
