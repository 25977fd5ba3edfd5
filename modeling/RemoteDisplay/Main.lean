import RemoteDisplay.CommandLine.Launch

/-!
# The command line

Runs a bridge in real time. Reports go to the standard error stream; the program ends with 0 when
all frames are sent, with 1 on a failure, with 101 on a trap and with 2 on arguments that cannot be
read.
-/

namespace RemoteDisplay.Program

/-- The code with which the host refuses to read a directory. -/
def directoryCode : UInt32 := 21

/-- What is found at a path. A path through something that is no directory leads nowhere. -/
def contentAt (path : String) : IO PathContent := do
  try
    return .file (← IO.FS.readBinFile path)
  catch e =>
    match e with
    | .noFileOrDirectory .. => return .missing
    | .inappropriateType _ code _ => return if code = directoryCode then .unreadable else .missing
    | _ => return .unreadable

/-- Reports a failure. -/
def fail (e : LaunchError) : IO UInt32 := do
  IO.eprintln s!"Error: {e.message}"
  return e.exitCode

/-- Runs a compositor in real time, one wakeup interval after the other. -/
partial def loop (o : Options) (interval : UInt32) (c : Compositor) : IO UInt32 := do
  match c.pass with
  | .error t => fail (.trap t)
  | .ok (.error f) => fail (.fault f)
  | .ok (.ok c) =>
    if o.debug then IO.eprintln s!"{c.output.label}: {c.sent} frames sent"
    if c.isDone (o.frames.getD 0) then
      IO.eprintln s!"Sent {c.sent} frames, stopping"
      return 0
    else
      IO.sleep interval
      match c.wake with
      | .error t => fail (.trap t)
      | .ok c => loop o interval c

/-- Runs a bridge with settings that make sense. -/
def runWith (o : Options) (s : Settings) : IO UInt32 := do
  IO.eprintln s!"Server endpoint {s.server.endpoint}"
  match Launch.start s with
  | .error e => fail e
  | .ok c =>
    IO.eprintln s!"qxl-bridge is running on {c.output.label}"
    loop o s.display.wakeupInterval c

/-- Runs a bridge. -/
def run (o : Options) : IO UInt32 := do
  match o.path? (← IO.getEnv "HOME") with
  | none => fail .noHome
  | some path =>
    match Launch.settings o (← contentAt path) with
    | .error e => fail e
    | .ok s => runWith o s

/-- Does what the arguments ask for. -/
def obey : Invocation → IO UInt32
  | .version => do
    IO.print CommandLine.versionText
    return 0
  | .help => do
    IO.print CommandLine.helpText
    return 0
  | .misuse cause => do
    IO.eprintln s!"error: {cause.message}"
    return 2
  | .run o => run o

end RemoteDisplay.Program

def main (arguments : List String) : IO UInt32 :=
  RemoteDisplay.Program.obey (RemoteDisplay.CommandLine.read arguments)
