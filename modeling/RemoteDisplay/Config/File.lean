import RemoteDisplay.Config.Document
import RemoteDisplay.Config.HomePath

/-!
# Settings in a file

Settings are saved to a path as it is given. They are loaded from a path in which a leading tilde
stands for the home directory. A file can be written at every path.
-/

namespace RemoteDisplay

/-- The bytes of the files at their paths. -/
abbrev Files := String → Option ByteArray

namespace Settings

/-- Saves the settings, unless a number does not fit into a document. -/
def save (s : Settings) (files : Files) (path : String) : Except Trap (Option Files) := do
  match ← s.render with
  | none => return none
  | some text => return some fun p => if p = path then some text.toUTF8 else files p

/-- Loads the settings at a path. There are none if the path needs a home directory that is not
there. -/
def loadFile (home : Option String) (files : Files) (path : String) :
    Option (Except LoadError Settings) :=
  (HomePath.expand? home path).map fun p => loadBytes (files p)

end Settings

end RemoteDisplay
