/-!
# Files and directories

What a path leads to, in a tree of files that is given in full. A path is walked component by
component. Whatever is followed by a separator has to be a directory; two dots lead to the directory
above, and the root lies above itself.
-/

namespace RemoteDisplay

/-- What is found at a path. -/
inductive PathContent where
  | missing
  /-- Something that is no file of bytes. -/
  | unreadable
  | file (bytes : ByteArray)

/-- Files with their bytes and directories, each by its components from the root on. What lies above
a file or a directory is a directory as well. -/
structure FileTree where
  files : List (List String × ByteArray) := []
  directories : List (List String) := []
  /-- The directory in which relative paths start. -/
  current : List String := []

namespace FileTree

/-- The bytes of a file. -/
def bytes? (t : FileTree) (place : List String) : Option ByteArray := t.files.lookup place

/-- There is a directory. -/
def isDirectory (t : FileTree) (place : List String) : Bool :=
  place.isEmpty || t.directories.any place.isPrefixOf ||
    t.files.any fun (file, _) => place.isPrefixOf file && place ≠ file

/-- Goes one component further. -/
def step (t : FileTree) (place : List String) (component : String) : Option (List String) :=
  if !t.isDirectory place then none
  else if component = "" ∨ component = "." then some place
  else if component = ".." then some place.dropLast
  else
    let next := place ++ [component]
    if (t.bytes? next).isSome || t.isDirectory next then some next else none

/-- Where a path leads. -/
def resolve? (t : FileTree) (path : String) : Option (List String) :=
  if path = "" then none
  else (path.splitOn "/").foldlM t.step (if path.startsWith "/" then [] else t.current)

/-- What is found at a path. -/
def content (t : FileTree) (path : String) : PathContent :=
  match t.resolve? path with
  | none => .missing
  | some place => ((t.bytes? place).map .file).getD .unreadable

end FileTree

end RemoteDisplay
