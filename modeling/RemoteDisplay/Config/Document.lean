import RemoteDisplay.Config.Settings
import RemoteDisplay.Toml.Document
import RemoteDisplay.Toml.Writer

/-!
# Settings as a document

Settings are kept in a TOML document with one table for each section. Reading takes the settings in
the order of the document, keeps the defaults of those that are missing and ignores what it does not
know; a section may also be given as an array of its settings in their usual order. Writing puts
down every setting that has a value.
-/

namespace RemoteDisplay

open Toml (Value Entries)

/-- Why settings could not be loaded. -/
inductive LoadError where
  /-- There is no such file, or it is not text. -/
  | unreadable
  /-- The text is no document, or a setting has the wrong type or range; a name that means nothing
  comes with its own fault. -/
  | malformed (reason : Option Fault)
  /-- The settings contradict themselves. -/
  | invalid (f : Fault)
  deriving DecidableEq, Repr

/-- The largest integer of a document. -/
def maxDocumentInteger : Nat := 9223372036854775807

namespace Config

/-- A text. -/
def asText : Value → Except LoadError String
  | .string s => .ok s
  | _ => .error (.malformed none)

/-- An integer between two bounds. -/
def asInteger (least most : Int) : Value → Except LoadError Int
  | .integer n => if least ≤ n ∧ n ≤ most then .ok n else .error (.malformed none)
  | _ => .error (.malformed none)

/-- An unsigned integer below a bound. -/
def asNat (bound : Nat) (v : Value) : Except LoadError Nat := do
  return (← asInteger 0 (bound - 1) v).toNat

def asU32 (v : Value) : Except LoadError UInt32 := return UInt32.ofNat (← asNat 4294967296 v)

def asU64 (v : Value) : Except LoadError UInt64 := return UInt64.ofNat (← asNat 18446744073709551616 v)

def asI32 (v : Value) : Except LoadError Int32 :=
  return Int32.ofInt (← asInteger (-2147483648) 2147483647 v)

/-- The name of a compression mode. -/
def asCompression (v : Value) : Except LoadError Compression := do
  match Compression.ofName (← asText v) with
  | .ok c => return c
  | .error f => throw (.malformed (some f))

/-- Reads a section. `set` takes one setting by its name and leaves unknown names alone; `names` are
the names in their usual order. -/
def readSection {σ : Type} (names : List String) (set : σ → String → Value → Except LoadError σ)
    (default : σ) : Value → Except LoadError σ
  | .table _ es => es.foldlM (fun s (name, v) => set s name v) default
  | .array vs => (names.zip vs).foldlM (fun s (name, v) => set s name v) default
  | .tables ts =>
    (names.zip ts).foldlM (fun s (name, es) => set s name (.table .header es)) default
  | .dateTime _ => .ok default
  | _ => .error (.malformed none)

end Config

namespace ServerSettings

/-- The settings of the section, in their usual order. -/
def names : List String := ["addr", "port", "password", "ticket_lifetime_secs", "compression"]

/-- Takes one setting. -/
def set (s : ServerSettings) (name : String) (v : Value) : Except LoadError ServerSettings := do
  match name with
  | "addr" => return { s with address := ← Config.asText v }
  | "port" => return { s with port := UInt16.ofNat (← Config.asNat 65536 v) }
  | "password" => return { s with password := some (← Config.asText v) }
  | "ticket_lifetime_secs" => return { s with ticketLifetime := some (← Config.asU32 v) }
  | "compression" => return { s with compression := ← Config.asCompression v }
  | _ => return s

end ServerSettings

namespace OutputSettings

/-- The settings of the section, in their usual order. -/
def names : List String := ["x", "y", "width", "height"]

/-- Takes one setting. -/
def set (s : OutputSettings) (name : String) (v : Value) : Except LoadError OutputSettings := do
  match name with
  | "x" => return { s with x := ← Config.asI32 v }
  | "y" => return { s with y := ← Config.asI32 v }
  | "width" => return { s with width := ← Config.asU32 v }
  | "height" => return { s with height := ← Config.asU32 v }
  | _ => return s

end OutputSettings

namespace DisplaySettings

/-- The settings of the section, in their usual order. -/
def names : List String :=
  ["surface_capacity", "ring_capacity", "enqueue_attempts", "enqueue_backoff_us",
    "wakeup_interval_ms", "mm_time_skew_ms", "background"]

/-- Takes one setting. -/
def set (s : DisplaySettings) (name : String) (v : Value) : Except LoadError DisplaySettings := do
  match name with
  | "surface_capacity" => return { s with surfaceCapacity := ← Config.asU64 v }
  | "ring_capacity" => return { s with ringCapacity := ← Config.asU64 v }
  | "enqueue_attempts" => return { s with enqueueAttempts := ← Config.asU32 v }
  | "enqueue_backoff_us" => return { s with enqueueBackoff := ← Config.asU64 v }
  | "wakeup_interval_ms" => return { s with wakeupInterval := ← Config.asU32 v }
  | "mm_time_skew_ms" => return { s with clockSkew := ← Config.asU32 v }
  | "background" => return { s with background := ← Config.asText v }
  | _ => return s

end DisplaySettings

namespace Settings

/-- Takes one section. -/
def set (s : Settings) (name : String) (v : Value) : Except LoadError Settings := do
  match name with
  | "server" =>
    return { s with server := ← Config.readSection ServerSettings.names ServerSettings.set {} v }
  | "output" =>
    return { s with output := ← Config.readSection OutputSettings.names OutputSettings.set {} v }
  | "display" =>
    return { s with display := ← Config.readSection DisplaySettings.names DisplaySettings.set {} v }
  | _ => return s

/-- Reads settings from a document. -/
def ofDocument (text : String) : Except LoadError Settings :=
  match Toml.parse text with
  | none => .error (.malformed none)
  | some es => es.foldlM (fun s (name, v) => s.set name v) {}

/-- Reads settings from a document and checks that they make sense. -/
def load (text : String) : Except LoadError Settings := do
  let s ← ofDocument text
  match s.validate with
  | .ok () => return s
  | .error f => throw (.invalid f)

/-- Reads settings from the bytes of a file; without a file there is nothing to read. -/
def loadBytes (file : Option ByteArray) : Except LoadError Settings :=
  match file.bind String.fromUTF8? with
  | none => .error .unreadable
  | some text => load text

end Settings

namespace Config

/-- One setting on a line of its own. -/
def line (name : String) (v : List Char) : List Char := name.toList ++ [' ', '=', ' '] ++ v ++ ['\n']

/-- A text setting. -/
def textLine (name s : String) : List Char := line name (Toml.writeText s.toList)

/-- A number setting. -/
def numberLine (name : String) (n : Int) : List Char := line name (toString n).toList

/-- The header of a section. -/
def sectionHeader (name : String) : List Char := ['['] ++ name.toList ++ [']', '\n']

end Config

open Config (line textLine numberLine sectionHeader)

/-- The lines of a section, without its header. -/
def ServerSettings.render (s : ServerSettings) : List Char :=
  textLine "addr" s.address ++
    numberLine "port" s.port.toNat ++
    (match s.password with
      | some p => textLine "password" p
      | none => []) ++
    (match s.ticketLifetime with
      | some n => numberLine "ticket_lifetime_secs" n.toNat
      | none => []) ++
    textLine "compression" s.compression.name

/-- The lines of a section, without its header. -/
def OutputSettings.render (s : OutputSettings) : List Char :=
  numberLine "x" s.x.toInt ++
    numberLine "y" s.y.toInt ++
    numberLine "width" s.width.toNat ++
    numberLine "height" s.height.toNat

/-- The lines of a section, without its header. -/
def DisplaySettings.render (s : DisplaySettings) : List Char :=
  numberLine "surface_capacity" s.surfaceCapacity.toNat ++
    numberLine "ring_capacity" s.ringCapacity.toNat ++
    numberLine "enqueue_attempts" s.enqueueAttempts.toNat ++
    numberLine "enqueue_backoff_us" s.enqueueBackoff.toNat ++
    numberLine "wakeup_interval_ms" s.wakeupInterval.toNat ++
    numberLine "mm_time_skew_ms" s.clockSkew.toNat ++
    textLine "background" s.background

namespace Settings

/-- Every number fits into a document. -/
def fitsDocument (s : Settings) : Bool :=
  [s.display.surfaceCapacity, s.display.ringCapacity, s.display.enqueueBackoff].all fun n =>
    n.toNat ≤ maxDocumentInteger

/-- In every text the marks in a row can be counted. -/
def runsFit (s : Settings) : Bool :=
  (s.server.address :: s.display.background :: s.server.password.toList).all fun text =>
    Toml.runsFit text.toList

/-- The document for the settings. -/
def document (s : Settings) : String :=
  String.ofList
    (sectionHeader "server" ++ s.server.render ++ ['\n'] ++
      sectionHeader "output" ++ s.output.render ++ ['\n'] ++
      sectionHeader "display" ++ s.display.render)

/-- Writes the document for the settings, unless a number does not fit into one. Too many marks in a
row are a trap. -/
def render (s : Settings) : Except Trap (Option String) :=
  if !s.fitsDocument then return none
  else if s.runsFit then return some s.document
  else throw .addOverflow

end Settings

end RemoteDisplay
