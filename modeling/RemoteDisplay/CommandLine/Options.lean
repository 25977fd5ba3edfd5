import RemoteDisplay.Config.Settings

/-!
# Options of the command line

The options of a bridge, and the reading of arguments. Arguments are read from left to right, and
the first one that is wrong or asks for the version ends the reading. An option may be given once;
its value stands behind an equals sign or in the next argument, and the one-letter form may have it
attached.
-/

namespace RemoteDisplay

/-- The name of an option. -/
inductive OptionName where
  | config
  | debug
  | host
  | port
  | password
  | compression
  | frames
  deriving DecidableEq, Repr

namespace OptionName

def all : List OptionName := [config, debug, host, port, password, compression, frames]

/-- The long form, without its dashes. -/
def text : OptionName → String
  | config => "config"
  | debug => "debug"
  | host => "host"
  | port => "port"
  | password => "password"
  | compression => "compression"
  | frames => "frames"

/-- The option of a letter. -/
def ofLetter? (c : Char) : Option OptionName :=
  if c = 'c' then some config else if c = 'd' then some debug else none

/-- The option takes a value. -/
def takesValue : OptionName → Bool
  | debug => false
  | _ => true

end OptionName

/-- Why arguments cannot be read. -/
inductive Misuse where
  | unexpected (argument : String)
  | missingValue (option : OptionName)
  | repeated (option : OptionName)
  | invalidValue (option : OptionName) (value : String)
  deriving DecidableEq, Repr

/-- The text shown to a person. -/
def Misuse.message : Misuse → String
  | unexpected argument => "unexpected argument '" ++ argument ++ "' found"
  | missingValue option => "a value is required for '--" ++ option.text ++ "' but none was supplied"
  | repeated option => "the argument '--" ++ option.text ++ "' cannot be used multiple times"
  | invalidValue option value => "invalid value '" ++ value ++ "' for '--" ++ option.text ++ "'"

/-- What the command line sets. -/
structure Options where
  /-- Where the settings are kept. -/
  config : String := "~/.config/qxl-bridge/qxl-bridge.toml"
  debug : Bool := false
  host : Option String := none
  port : Option UInt16 := none
  password : Option String := none
  compression : Option Compression := none
  /-- Stop after this many frames; zero asks for no end. -/
  frames : Option Nat := none
  deriving DecidableEq, Repr, Inhabited

/-- What the arguments ask for. -/
inductive Invocation where
  | run (options : Options)
  | version
  | help
  | misuse (cause : Misuse)
  deriving DecidableEq, Repr

namespace CommandLine

/-- The name and the version of the program. -/
def versionText : String := "qxl-bridge 0.1.0\n"

/-- What the program is for, and its options. -/
def helpText : String :=
  "Feed compositor repaints to a SPICE-style server as QXL commands\n\n" ++
    "Usage: qxl-bridge [OPTIONS]\n\nOptions:\n" ++
    "  -c, --config <CONFIG>            Path to configuration file " ++
    "[default: ~/.config/qxl-bridge/qxl-bridge.toml]\n" ++
    "  -d, --debug                      Enable debug logging\n" ++
    "      --host <HOST>                Override the server listen address\n" ++
    "      --port <PORT>                Override the server port\n" ++
    "      --password <PASSWORD>        Require this password from viewers\n" ++
    "      --compression <COMPRESSION>  " ++
    "Image compression: off, auto-glz, auto-lz, quic, glz, lz, lz4\n" ++
    "      --frames <FRAMES>            " ++
    "Stop after this many frames have been sent (0 runs until Ctrl+C)\n" ++
    "  -h, --help                       Print help\n" ++
    "  -V, --version                    Print version\n"

/-- The number of at least one decimal digit. -/
def digits? (cs : List Char) : Option Nat :=
  if cs.isEmpty || !cs.all Char.isDigit then none
  else some (cs.foldl (fun n c => 10 * n + (c.toNat - '0'.toNat)) 0)

/-- A natural number, which may have a plus sign, up to a limit. -/
def natural? (limit : Nat) (s : String) : Option Nat :=
  let n :=
    match s.toList with
    | '+' :: cs => digits? cs
    | cs => digits? cs
  n.bind fun n => if n ≤ limit then some n else none

/-- A port. Minus zero is zero. -/
def port? (s : String) : Option UInt16 :=
  match s.toList with
  | '-' :: cs => if digits? cs = some 0 then some 0 else none
  | _ => (natural? 65535 s).map UInt16.ofNat

/-- The options with one value more. -/
def setValue (o : Options) (name : OptionName) (value : String) : Option Options :=
  match name with
  | .config => some { o with config := value }
  | .debug => none
  | .host => some { o with host := some value }
  | .port => (port? value).map fun p => { o with port := some p }
  | .password => some { o with password := some value }
  | .compression => (Compression.ofName? value).map fun c => { o with compression := some c }
  | .frames => (natural? 18446744073709551615 value).map fun n => { o with frames := some n }

/-- How far the arguments are read. -/
structure Reading where
  options : Options := {}
  /-- The options given so far. -/
  given : List OptionName := []
  /-- The option whose value is the next argument. -/
  pending : Option OptionName := none
  /-- The options have ended. -/
  closed : Bool := false

namespace Reading

/-- An option is given; a second time is once too often. -/
def give (r : Reading) (name : OptionName) : Except Invocation Reading :=
  if name ∈ r.given then .error (.misuse (.repeated name))
  else .ok { r with given := name :: r.given }

/-- An option without a value. -/
def flag (r : Reading) (name : OptionName) : Except Invocation Reading := do
  let r ← r.give name
  return { r with options := { r.options with debug := true } }

/-- An option with its value. -/
def value (r : Reading) (name : OptionName) (text : String) : Except Invocation Reading := do
  let r ← r.give name
  match setValue r.options name text with
  | some options => return { r with options, pending := none }
  | none => throw (.misuse (.invalidValue name text))

/-- An argument in the long form, without its dashes. -/
def long (r : Reading) (argument : String) (body : List Char) : Except Invocation Reading :=
  let name := String.ofList (body.takeWhile (· ≠ '='))
  match OptionName.all.find? (·.text = name), body.dropWhile (· ≠ '=') with
  | some option, [] =>
    if option.takesValue then .ok { r with pending := some option } else r.flag option
  | some option, _ :: text =>
    if option.takesValue then r.value option (String.ofList text)
    else .error (.misuse (.unexpected argument))
  | none, [] =>
    if name = "version" then .error .version
    else if name = "help" then .error .help
    else .error (.misuse (.unexpected argument))
  | none, _ :: _ => .error (.misuse (.unexpected argument))

/-- The letters behind one dash. A letter that takes a value takes all that follows. -/
def letters (r : Reading) (argument : String) : List Char → Except Invocation Reading
  | [] => .ok r
  | c :: cs =>
    match OptionName.ofLetter? c with
    | some option =>
      if option.takesValue then
        match cs with
        | [] => .ok { r with pending := some option }
        | '=' :: text => r.value option (String.ofList text)
        | text => r.value option (String.ofList text)
      else do
        (← r.flag option).letters argument cs
    | none =>
      if c = 'V' then .error .version
      else if c = 'h' then .error .help
      else .error (.misuse (.unexpected argument))

/-- An argument that is not read as a value: it has a dash and more. -/
def isOption (argument : String) : Bool := argument.startsWith "-" && argument ≠ "-"

/-- One argument more. -/
def step (r : Reading) (argument : String) : Except Invocation Reading :=
  match r.pending with
  | some option =>
    if isOption argument then .error (.misuse (.missingValue option)) else r.value option argument
  | none =>
    if r.closed then .error (.misuse (.unexpected argument))
    else
      match argument.toList with
      | ['-', '-'] => .ok { r with closed := true }
      | '-' :: '-' :: body => r.long argument body
      | '-' :: c :: cs => r.letters argument (c :: cs)
      | _ => .error (.misuse (.unexpected argument))

end Reading

/-- What the arguments ask for. -/
def read (arguments : List String) : Invocation :=
  match arguments.foldlM Reading.step {} with
  | .error i => i
  | .ok r =>
    match r.pending with
    | some option => .misuse (.missingValue option)
    | none => .run r.options

end CommandLine

end RemoteDisplay
