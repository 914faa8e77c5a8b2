import MovieCatalog.Config

/-! The command line and the variables of the environment, which change the configuration. -/
namespace MovieCatalog

/-- What a caller can set: the file of the configuration, or one of its fields. -/
inductive Setting where
  | config
  | storageDir
  | dbFile
  | httpPort
  deriving DecidableEq, Repr

namespace Setting

def all : List Setting := [.config, .storageDir, .dbFile, .httpPort]

/-- The option of the command line. -/
def option : Setting → String
  | .config => "--config"
  | .storageDir => "--storage-dir"
  | .dbFile => "--db-file"
  | .httpPort => "--http-port"

/-- The variable that counts when the option is not given. -/
def variableName : Setting → String
  | .config => "VC_CONFIG"
  | .storageDir => "VC_STORAGE_DIR"
  | .dbFile => "VC_DB_FILE"
  | .httpPort => "VC_SERVER_PORT"

/-- The setting of an option without its value. -/
def ofOption? (option : String) : Option Setting :=
  if option = "-c" then some .config else all.find? fun setting => setting.option == option

end Setting

inductive ArgumentFault where
  | unknown (argument : String)
  | noValue (setting : Setting)
  | repeated (setting : Setting)
  | badNumber (value : String)
  deriving DecidableEq, Repr

def ArgumentFault.message : ArgumentFault → String
  | .unknown argument => s!"unexpected argument {Quoted.ofText argument}"
  | .noValue setting => s!"{setting.option} needs a value"
  | .repeated setting => s!"{setting.option} cannot be used twice"
  | .badNumber value => s!"{Quoted.ofText value} is not a whole number below 65536"

/-- The settings that are given, each at most once. -/
abbrev Settings := List (Setting × String)

namespace Settings

def add (settings : Settings) (setting : Setting) (value : String) :
    Except ArgumentFault Settings :=
  match settings.lookup setting with
  | some _ => .error (.repeated setting)
  | none => .ok (settings ++ [(setting, value)])

/-- An argument and the value that follows an equals sign in it. -/
def splitArgument (argument : String) : String × Option String :=
  let name := argument.toList.takeWhile (· != '=')
  match argument.toList.dropWhile (· != '=') with
  | [] => (argument, none)
  | _ :: value => (String.ofList name, some (String.ofList value))

/-- Take in the arguments of the command line. A value follows its option, or stands behind an
equals sign. -/
def addArguments (settings : Settings) : List String → Except ArgumentFault Settings
  | [] => .ok settings
  | [argument] =>
    match Setting.ofOption? (splitArgument argument).1, (splitArgument argument).2 with
    | none, _ => .error (.unknown argument)
    | some setting, none => .error (.noValue setting)
    | some setting, some value => settings.add setting value
  | argument :: next :: rest =>
    match Setting.ofOption? (splitArgument argument).1, (splitArgument argument).2 with
    | none, _ => .error (.unknown argument)
    | some setting, none => do (← settings.add setting next).addArguments rest
    | some setting, some value => do (← settings.add setting value).addArguments (next :: rest)

/-- The value of a setting: its option counts before its variable. -/
def value? (settings presets : Settings) (setting : Setting) : Option String :=
  (settings.lookup setting).or (presets.lookup setting)

/-- A number of at most 16 bits. -/
def httpPort? (value : String) : Except ArgumentFault UInt16 :=
  match Numeral.readInt64 value.toList with
  | .ok n => if 0 ≤ n ∧ n < 0x10000 then .ok (UInt16.ofNat n.toNat) else .error (.badNumber value)
  | .error _ => .error (.badNumber value)

/-- The configuration with the given settings. -/
def apply (settings presets : Settings) (config : Config) : Except ArgumentFault Config := do
  let value := settings.value? presets
  let httpPort ← match value .httpPort with
    | none => .ok config.httpPort
    | some text => httpPort? text
  return { config with
    storageDir := (value .storageDir).getD config.storageDir
    dbFile := (value .dbFile).getD config.dbFile
    httpPort }

end Settings
end MovieCatalog
