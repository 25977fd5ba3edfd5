import RemoteDisplay.CommandLine.Files
import RemoteDisplay.CommandLine.Options
import RemoteDisplay.Compositor
import RemoteDisplay.Config.Document
import RemoteDisplay.Config.HomePath

/-!
# Launching a bridge

What happens between the command line and the running bridge. Settings come from the file that the
options name, or are the defaults if there is no such file; a file is validated as it is. The options
then take precedence, and the result is validated again. `Launch.report` says how a whole run ends.
-/

namespace RemoteDisplay

/-- Where settings come from. -/
inductive SettingsSource where
  | file
  | defaults
  deriving DecidableEq, Repr

/-- The name under which a source is reported. -/
def SettingsSource.name : SettingsSource → String
  | file => "loaded"
  | defaults => "defaults"

/-- Why a run failed. -/
inductive LaunchError where
  /-- The path of the settings needs a home directory. -/
  | noHome
  | load (e : LoadError)
  | fault (f : Fault)
  | trap (t : Trap)
  deriving DecidableEq, Repr

/-- The fault behind a failure. -/
def LaunchError.fault? : LaunchError → Option Fault
  | load (.malformed reason) => reason
  | load (.invalid f) => some f
  | fault f => some f
  | _ => none

/-- The text about settings that are refused, if they are the reason. -/
def LaunchError.refusal? (e : LaunchError) : Option String :=
  match e.fault? with
  | some (.invalidConfiguration reason) => some (Fault.invalidConfiguration reason).message
  | _ => none

/-- The code with which the program ends. -/
def LaunchError.exitCode : LaunchError → UInt32
  | trap _ => 101
  | _ => 1

/-- The text shown to a person. -/
def LaunchError.message (e : LaunchError) : String :=
  match e, e.fault? with
  | _, some f => f.message
  | noHome, _ => HomePath.noHome
  | trap t, _ => t.message
  | _, none => "Failed to load configuration"

/-- Where a server listens, whom it lets in and how it compresses. -/
def ServerSettings.endpoint (s : ServerSettings) : String :=
  let access := if s.requiresPassword then "password" else "no auth"
  s!"{s.address}:{s.port} ({access}, compression {s.compression.name})"

/-- The settings with those of the options in place. -/
def Options.override (o : Options) (s : Settings) : Settings :=
  { s with server := { s.server with
      address := o.host.getD s.server.address
      port := o.port.getD s.server.port
      password := o.password.or s.server.password
      compression := o.compression.getD s.server.compression } }

/-- The path of the settings. -/
def Options.path? (o : Options) (home : Option String) : Option String :=
  HomePath.expand? home o.config

namespace Launch

/-- The settings at the path, before the options come in. -/
def found : PathContent → Except LaunchError (SettingsSource × Settings)
  | .missing => .ok (.defaults, {})
  | .unreadable => .error (.load .unreadable)
  | .file bytes =>
    match Settings.loadBytes (some bytes) with
    | .ok s => .ok (.file, s)
    | .error e => .error (.load e)

/-- The settings to run with: those of the options come in, and the result has to make sense. -/
def settled (o : Options) (base : Settings) : Except LaunchError Settings :=
  let s := o.override base
  match s.validate with
  | .ok () => .ok s
  | .error f => .error (.fault f)

/-- The settings to run with, given what is found at their path. -/
def settings (o : Options) (content : PathContent) : Except LaunchError Settings := do
  let (_, base) ← found content
  settled o base

/-- How a run ended. What it did not get to is missing. -/
structure Report where
  source : Option SettingsSource := none
  endpoint : Option String := none
  output : Option OutputId := none
  /-- The number of frames sent. -/
  sent : Option UInt64 := none
  failure : Option LaunchError := none

/-- The run fails. -/
def Report.fail (r : Report) (e : LaunchError) : Report := { r with failure := some e }

/-- Starts a compositor with settings that make sense. -/
def start (s : Settings) : Except LaunchError Compositor :=
  match Compositor.start s with
  | .error t => .error (.trap t)
  | .ok (.error f) => .error (.fault f)
  | .ok (.ok c) => .ok c

/-- Runs a compositor until it has sent `frames` frames. -/
def run (c : Compositor) (frames : Nat) : Except LaunchError Compositor :=
  match c.run frames frames with
  | .error t => .error (.trap t)
  | .ok (.error f) => .error (.fault f)
  | .ok (.ok c) => .ok c

/-- The report of a run, given what is found at the path of the settings. -/
def report (o : Options) (content : PathContent) : Report :=
  match found content with
  | .error e => Report.fail {} e
  | .ok (source, base) =>
    let r : Report := { source := some source }
    match settled o base with
    | .error e => r.fail e
    | .ok s =>
      let r := { r with endpoint := some s.server.endpoint }
      match start s with
      | .error e => r.fail e
      | .ok c =>
        let r := { r with output := some c.output }
        match run c (o.frames.getD 0) with
        | .error e => r.fail e
        | .ok c => { r with sent := some c.sent }

end Launch

end RemoteDisplay
