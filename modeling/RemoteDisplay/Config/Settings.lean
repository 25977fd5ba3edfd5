import RemoteDisplay.Colour
import RemoteDisplay.Config.Compression
import RemoteDisplay.Text.Digits

/-!
# Settings

The settings of a bridge in three sections: where the server listens, the output, and the display
with its queue and timing. Every setting has a default, and `Settings.validate` says which
combinations are refused, the first refusal winning.
-/

namespace RemoteDisplay

/-- The largest output. -/
def maxOutputWidth : UInt32 := 4096

/-- The largest output. -/
def maxOutputHeight : UInt32 := 4096

namespace Fault

def emptyAddress : Fault := .invalidConfiguration "server addr must not be empty"

def zeroPort : Fault := .invalidConfiguration "server port must be non-zero"

def ticketWithoutPassword : Fault := .invalidConfiguration "ticket_lifetime_secs requires a password"

def emptyOutput (width height : UInt32) : Fault :=
  .invalidConfiguration s!"output size {width}x{height} is empty"

def oversizeOutput (width height : UInt32) : Fault :=
  .invalidConfiguration s!"output size {width}x{height} exceeds {maxOutputWidth}x{maxOutputHeight}"

def belowOne (setting : String) : Fault := .invalidConfiguration s!"{setting} must be at least 1"

def invalidColour (text : String) : Fault :=
  .invalidConfiguration ("invalid colour '" ++ text ++ "'")

end Fault

/-- Where the server listens, and whom it lets in. -/
structure ServerSettings where
  address : String := "localhost"
  port : UInt16 := 5912
  password : Option String := none
  /-- How long a password stays good, in seconds. -/
  ticketLifetime : Option UInt32 := none
  compression : Compression := .autoGlz
  deriving DecidableEq, Repr, Inhabited

/-- Where the output lies and how large it is. -/
structure OutputSettings where
  x : Int32 := 0
  y : Int32 := 0
  width : UInt32 := 1024
  height : UInt32 := 480
  deriving DecidableEq, Repr, Inhabited

/-- The queue, the surfaces and the timing of repaints. -/
structure DisplaySettings where
  surfaceCapacity : UInt64 := 2
  ringCapacity : UInt64 := 1024
  /-- How often a command is tried again when the queue is full. -/
  enqueueAttempts : UInt32 := 10
  /-- The pause between these attempts, in microseconds. -/
  enqueueBackoff : UInt64 := 1000
  /-- The time from a repaint to the next wakeup, in milliseconds. -/
  wakeupInterval : UInt32 := 1
  /-- How far drawing times lie behind the server's clock, in milliseconds. -/
  clockSkew : UInt32 := 350
  background : String := "#000000"
  deriving DecidableEq, Repr, Inhabited

/-- All settings of a bridge. -/
structure Settings where
  server : ServerSettings := {}
  output : OutputSettings := {}
  display : DisplaySettings := {}
  deriving DecidableEq, Repr, Inhabited

/-- Reads a colour: a hash sign and six digits for an opaque one, or eight with the alpha first. -/
def parseColour (text : String) : Except Fault UInt32 :=
  match text.toList with
  | '#' :: digits =>
    if digits.all (fun c => (hexDigit? c).isSome) then
      match hexWord? digits with
      | none => .error (.invalidColour text)
      | some raw =>
        match (String.ofList digits).utf8ByteSize with
        | 6 => .ok (Colour.rgb (raw >>> 16).toUInt8 (raw >>> 8).toUInt8 raw.toUInt8)
        | 8 => .ok (Colour.argb (raw >>> 24).toUInt8 (raw >>> 16).toUInt8 (raw >>> 8).toUInt8 raw.toUInt8)
        | _ => .error (.invalidColour text)
    else
      .error (.invalidColour text)
  | _ => .error (.invalidColour text)

/-- The refusal, if the condition holds. -/
def refuseIf (condition : Bool) (f : Fault) : Except Fault Unit :=
  if condition then .error f else .ok ()

namespace ServerSettings

def validate (s : ServerSettings) : Except Fault Unit := do
  refuseIf (Text.trim s.address.toList).isEmpty .emptyAddress
  refuseIf (s.port = 0) .zeroPort
  refuseIf (s.ticketLifetime.isSome && s.password.isNone) .ticketWithoutPassword

/-- Viewers need a password. -/
def requiresPassword (s : ServerSettings) : Bool := s.password.isSome

end ServerSettings

namespace OutputSettings

def validate (s : OutputSettings) : Except Fault Unit := do
  refuseIf (s.width = 0 || s.height = 0) (.emptyOutput s.width s.height)
  refuseIf (s.width > maxOutputWidth || s.height > maxOutputHeight) (.oversizeOutput s.width s.height)

end OutputSettings

namespace DisplaySettings

/-- The colour of a fresh surface. -/
def backgroundColour (s : DisplaySettings) : Except Fault UInt32 := parseColour s.background

def validate (s : DisplaySettings) : Except Fault Unit := do
  refuseIf (s.surfaceCapacity = 0) (.belowOne "surface_capacity")
  refuseIf (s.ringCapacity = 0) (.belowOne "ring_capacity")
  refuseIf (s.wakeupInterval = 0) (.belowOne "wakeup_interval_ms")
  discard s.backgroundColour

end DisplaySettings

/-- The settings make sense together. -/
def Settings.validate (s : Settings) : Except Fault Unit := do
  s.server.validate
  s.output.validate
  s.display.validate

end RemoteDisplay
