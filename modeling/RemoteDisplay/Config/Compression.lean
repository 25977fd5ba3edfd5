import RemoteDisplay.Fault
import RemoteDisplay.Text.Blank

/-!
# Image compression

The compression modes of the server, by name and by number. Reading a name is lenient: blanks around
it, the case of ASCII letters and a hyphen for an underscore do not matter.
-/

namespace RemoteDisplay

/-- How the server compresses images. -/
inductive Compression where
  | off
  | autoGlz
  | autoLz
  | quic
  | glz
  | lz
  | lz4
  deriving DecidableEq, Repr, Inhabited

namespace Compression

/-- All modes, in the order of their numbers. -/
def all : List Compression := [off, autoGlz, autoLz, quic, glz, lz, lz4]

/-- The name in settings. -/
def name : Compression → String
  | off => "off"
  | autoGlz => "auto_glz"
  | autoLz => "auto_lz"
  | quic => "quic"
  | glz => "glz"
  | lz => "lz"
  | lz4 => "lz4"

/-- The server's number for the mode. -/
def number : Compression → UInt32
  | off => 1
  | autoGlz => 2
  | autoLz => 3
  | quic => 4
  | glz => 5
  | lz => 6
  | lz4 => 7

/-- The name in diagnostics. -/
def debug : Compression → String
  | off => "Off"
  | autoGlz => "AutoGlz"
  | autoLz => "AutoLz"
  | quic => "Quic"
  | glz => "Glz"
  | lz => "Lz"
  | lz4 => "Lz4"

/-- A name as it is compared: without blanks around it, ASCII letters small, hyphens underscores. -/
def normalize (s : String) : String :=
  String.ofList ((Text.trim s.toList).map fun c => if c = '-' then '_' else c.toLower)

/-- The mode with the given name, if there is one. -/
def ofName? (s : String) : Option Compression := all.find? (·.name = normalize s)

/-- The fault that there is no mode of the given name. -/
def unknown (s : String) : Fault :=
  .invalidConfiguration
    ("unknown compression mode '" ++ s ++ "' (expected one of " ++ ", ".intercalate (all.map name) ++ ")")

/-- The mode with the given name. -/
def ofName (s : String) : Except Fault Compression :=
  match ofName? s with
  | some c => .ok c
  | none => .error (unknown s)

end Compression

end RemoteDisplay
