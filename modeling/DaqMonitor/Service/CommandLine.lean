/-
  DaqMonitor.Service.CommandLine

  The settings that a command line gives: `--name value` or `--name=value` for each
  of them, at most once, and the flags `--help` and `--version` with their letters.

  An argument that starts with a dash is never a value, unless it is the dash alone.
  A value that stands in an argument of its own is looked at only when the next
  option or flag comes, or the end; so of two mistakes the one that is found first
  need not be the one that is written first.

    * `readCommandLine arguments` — the settings, or the first mistake found.
-/
import DaqMonitor.Service.Settings

namespace DaqMonitor.Service

/-! ## Options -/

/-- A setting that the command line can give. -/
inductive Setting where
  | configPath
  | logDir
  | logLevel
  | topologyPath
  | flashlistDir
  | outputDir
  | intervalMs
  | maxCycles
  | levelZeroFilter
  | tcdsService
  | tcdsContext
  deriving DecidableEq, Repr

namespace Setting

/-- All settings. -/
def all : List Setting :=
  [configPath, logDir, logLevel, topologyPath, flashlistDir, outputDir, intervalMs, maxCycles,
    levelZeroFilter, tcdsService, tcdsContext]

/-- The name of the option for a setting. -/
def optionName : Setting → String
  | configPath => "config-path"
  | logDir => "log-dir"
  | logLevel => "log-level"
  | topologyPath => "topology-path"
  | flashlistDir => "flashlist-dir"
  | outputDir => "output-dir"
  | intervalMs => "interval-ms"
  | maxCycles => "max-cycles"
  | levelZeroFilter => "l0-filter"
  | tcdsService => "tcds-pm-service"
  | tcdsContext => "tcds-pm-context"

/-- What a setting is for. -/
def purpose : Setting → String
  | configPath => "Path to the JSON configuration file."
  | logDir => "Directory for log files."
  | logLevel => "Logging level (debug, info, warn, error)."
  | topologyPath => "Path to the JSON topology of the session."
  | flashlistDir => "Directory holding one LAS payload file per flashlist."
  | outputDir => "Directory completed snapshots are written to."
  | intervalMs => "Milliseconds between two cycles."
  | maxCycles => "Stop after this many cycles (runs until interrupted if unset)."
  | levelZeroFilter => "Substring identifying the level-zero instance in FMURL."
  | tcdsService => "Service name of the TCDS partition manager."
  | tcdsContext => "URL of the TCDS partition manager."

/-- The setting with the given option. -/
def ofOptionName? (name : String) : Option Setting := all.find? fun s => s.optionName == name

theorem mem_all (s : Setting) : s ∈ all := by cases s <;> decide

end Setting

/-! ## Mistakes -/

/-- Why a command line gives no settings. -/
inductive UsageError where
  /-- There is no such option, and nothing but options is taken. -/
  | unknownArgument (argument : String)
  /-- An option has no value, or a path is empty. -/
  | missingValue (setting : Setting)
  /-- A value is no number of its range. -/
  | badNumber (setting : Setting) (value : String)
  /-- An option is given twice. -/
  | repeated (setting : Setting)
  /-- A flag is given a value. -/
  | unexpectedValue (flag : String)
  /-- Help is asked for. -/
  | help
  /-- The version is asked for. -/
  | version
  deriving DecidableEq, Repr

/-- The text of the help. -/
def helpText : String :=
  "DAQ flashlist aggregator\n\nOptions:\n" ++
    String.join (Setting.all.map fun s =>
      "  --" ++ s.optionName ++ " <VALUE>  " ++ s.purpose ++ "\n") ++
    "  -h, --help  Print help\n  -V, --version  Print version\n"

/-- The message for a command line. -/
def UsageError.message : UsageError → String
  | unknownArgument argument => "unexpected argument '" ++ argument ++ "'"
  | missingValue setting => "a value is required for '--" ++ setting.optionName ++ "'"
  | badNumber setting value =>
    "invalid value '" ++ value ++ "' for '--" ++ setting.optionName ++ "'"
  | repeated setting => "the argument '--" ++ setting.optionName ++ "' is given more than once"
  | unexpectedValue flag => "the flag '--" ++ flag ++ "' takes no value"
  | help => helpText
  | version => "0.1.0"

/-! ## Values -/

/-- A path; the empty one stands for no value. -/
def readPath (setting : Setting) (value : String) : Except UsageError String :=
  if value.isEmpty then .error (.missingValue setting) else .ok value

/-- A number of 64 bits, which may have a plus sign. -/
def readNumber (setting : Setting) (value : String) : Except UsageError UInt64 :=
  match Text.readNatural? value.toList with
  | some n => if n < UInt64.size then .ok (UInt64.ofNat n) else .error (.badNumber setting value)
  | none => .error (.badNumber setting value)

/-- The settings with the value of an option. -/
def Settings.set (s : Settings) (setting : Setting) (value : String) :
    Except UsageError Settings :=
  match setting with
  | .configPath => (readPath setting value).map fun path => { s with configPath := some path }
  | .logDir => (readPath setting value).map fun path => { s with logDir := some path }
  | .logLevel => .ok { s with logLevel := some value }
  | .topologyPath => (readPath setting value).map fun path => { s with topologyPath := some path }
  | .flashlistDir => (readPath setting value).map fun path => { s with flashlistDir := some path }
  | .outputDir => (readPath setting value).map fun path => { s with outputDir := some path }
  | .intervalMs => (readNumber setting value).map fun n => { s with intervalMs := some n }
  | .maxCycles => (readNumber setting value).map fun n => { s with maxCycles := some n }
  | .levelZeroFilter => .ok { s with levelZeroFilter := some value }
  | .tcdsService => .ok { s with tcdsService := some value }
  | .tcdsContext => .ok { s with tcdsContext := some value }

/-! ## Arguments -/

/-- An argument by its form. -/
inductive Argument where
  /-- Two dashes: no option comes after it. -/
  | separator
  /-- Two dashes and a name, and what follows an equals sign. -/
  | long (name : String) (value : Option String)
  /-- A dash and letters. -/
  | letters (first : Char)
  | plain
  deriving DecidableEq, Repr

/-- The form of an argument. -/
def Argument.ofText (argument : String) : Argument :=
  match argument.toList with
  | ['-', '-'] => .separator
  | '-' :: '-' :: rest =>
    let (name, value) := Text.cutAtFirst '=' rest
    .long (String.ofList name) (value.map String.ofList)
  | '-' :: first :: _ => .letters first
  | _ => .plain

/-- What was read of a command line. -/
structure CommandLine where
  settings : Settings := {}
  /-- The settings that were given. -/
  given : List Setting := []
  /-- An option that was not looked at yet, and its value where that has come. -/
  waiting : Option (Setting × Option String) := none
  /-- Whether no more options are taken. -/
  separated : Bool := false

namespace CommandLine

/-- Takes up the value of an option. -/
def give (c : CommandLine) (setting : Setting) (value : String) :
    Except UsageError CommandLine := do
  if setting ∈ c.given then .error (.repeated setting)
  else
    let settings ← c.settings.set setting value
    .ok { c with settings, given := setting :: c.given }

/-- Looks at the option that waits for it. -/
def settle (c : CommandLine) : Except UsageError CommandLine :=
  match c.waiting with
  | none => .ok c
  | some (setting, none) => .error (.missingValue setting)
  | some (setting, some value) => { c with waiting := none }.give setting value

/-- Takes up an option or a flag. -/
def long (c : CommandLine) (argument name : String) (value : Option String) :
    Except UsageError CommandLine :=
  match Setting.ofOptionName? name with
  | some setting => do
    let c ← c.settle
    match value with
    | some value => c.give setting value
    | none => .ok { c with waiting := some (setting, none) }
  | none =>
    let flag (asked : UsageError) : Except UsageError CommandLine :=
      if value.isSome then .error (.unexpectedValue name)
      else do
        let _ ← c.settle
        .error asked
    if name == "help" then flag .help
    else if name == "version" then flag .version
    else .error (.unknownArgument argument)

/-- Takes up letters. The first one decides, since all that there are end the reading. -/
def letters (c : CommandLine) (argument : String) (first : Char) :
    Except UsageError CommandLine :=
  if first == 'h' then do
    let _ ← c.settle
    .error .help
  else if first == 'V' then do
    let _ ← c.settle
    .error .version
  else .error (.unknownArgument argument)

/-- Takes up an argument. -/
def next (c : CommandLine) (argument : String) : Except UsageError CommandLine :=
  if c.separated then .error (.unknownArgument argument)
  else
    match Argument.ofText argument with
    | .separator => .ok { c with separated := true }
    | .long name value => c.long argument name value
    | .letters first => c.letters argument first
    | .plain =>
      match c.waiting with
      | some (setting, none) => .ok { c with waiting := some (setting, some argument) }
      | _ => .error (.unknownArgument argument)

end CommandLine

/-- The settings that a command line gives. -/
def readCommandLine (arguments : List String) : Except UsageError Settings := do
  let c ← arguments.foldlM CommandLine.next {}
  let c ← c.settle
  .ok c.settings

end DaqMonitor.Service
