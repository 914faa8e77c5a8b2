import MovieCatalog.CommandLine
import MovieCatalog.Http.Line

/-! The program: it reads its configuration, and answers the requests on its input line by line. -/
namespace MovieCatalog.Main

/-- The settings that variables make. -/
def readPresets : IO Settings := do
  let values ← Setting.all.mapM fun setting => do
    return (← IO.getEnv setting.variableName).map fun value => (setting, value)
  return values.filterMap fun value => value

/-- The content of a file, if the file is there. -/
def readFile? (path : String) : IO (Option Bytes) := do
  try
    return some (← IO.FS.readBinFile path).toList
  catch _ => return none

/-- The configuration of the file that is named, if one is. -/
def loadConfig (fallback : Config) : Option String → IO (Except CatalogError Config)
  | none => return .ok fallback
  | some path => return fallback.load (← readFile? path)

/-- Create the directory of the catalog, and save the configuration if none is there. -/
def prepare (config : Config) : IO Unit := do
  IO.FS.createDirAll config.storageDir
  if (← readFile? config.configPath).isNone then
    IO.FS.writeBinFile config.configPath ⟨config.save.toArray⟩

partial def answerLines (input output : IO.FS.Stream) (catalog : Catalog) : IO Catalog := do
  let line ← input.getLine
  if line.isEmpty then return catalog
  let (response, catalog) := (Catalog.respond (.ofLine line.trimAsciiEnd.toString)).run catalog
  output.putStrLn response.line
  output.flush
  answerLines input output catalog

def fail (message : String) : IO UInt32 := do
  IO.eprintln message
  return 1

def run (arguments : List String) : IO UInt32 := do
  let environment : Environment := ⟨← IO.getEnv "HOME", ← IO.getEnv "XDG_DATA_HOME"⟩
  let presets ← readPresets
  match Settings.addArguments [] arguments with
  | .error fault => fail fault.message
  | .ok settings =>
    match ← loadConfig (.default environment) (settings.value? presets .config) with
    | .error error => fail error.message
    | .ok config =>
      match settings.apply presets config with
      | .error fault => fail fault.message
      | .ok config =>
        prepare config
        let _ ← answerLines (← IO.getStdin) (← IO.getStdout) .new
        return 0

end MovieCatalog.Main

def main (arguments : List String) : IO UInt32 := MovieCatalog.Main.run arguments
