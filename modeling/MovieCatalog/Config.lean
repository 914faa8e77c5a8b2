import MovieCatalog.Error
import MovieCatalog.Path
import MovieCatalog.Toml.Printer
import MovieCatalog.Toml.Reader

/-! The configuration: where the catalog is kept and where requests are answered. It is saved as a
TOML document, in which every key may be left out. -/
namespace MovieCatalog

structure Config where
  storageDir : String
  dbFile : String
  httpPort : UInt16
  host : String
  deriving DecidableEq, Repr

/-- What the surroundings say about directories. -/
structure Environment where
  home : Option String
  dataHome : Option String
  deriving DecidableEq, Repr

/-- The directory for data of the user's programs. Only an absolute path can name it. -/
def Environment.dataDir (environment : Environment) : String :=
  match environment.dataHome.filter Path.isAbsolute with
  | some dir => dir
  | none =>
    match environment.home.filter (!·.isEmpty) with
    | some home => Path.join home ".local/share"
    | none => "."

/-- What is wrong with a configuration. -/
inductive ConfigFault where
  | malformed (fault : Toml.Fault)
  | notText (key : String)
  | notNumber (key : String)
  deriving DecidableEq, Repr

def ConfigFault.message : ConfigFault → String
  | .malformed fault => fault.message
  | .notText key => s!"{key} is not a string"
  | .notNumber key => s!"{key} is not a whole number below 65536"

namespace Config

/-- The configuration without a file. -/
def default (environment : Environment) : Config :=
  ⟨Path.join environment.dataDir "video-catalog", "catalog.db", 8080, "0.0.0.0"⟩

def textMember (members : Toml.Members) (key fallback : String) : Except ConfigFault String :=
  match members.lookup key with
  | none => .ok fallback
  | some (.value (.text value)) => .ok value
  | some _ => .error (.notText key)

def numberMember (members : Toml.Members) (key : String) (fallback : UInt16) :
    Except ConfigFault UInt16 :=
  match members.lookup key with
  | none => .ok fallback
  | some (.value (.integer value)) =>
    if 0 ≤ value ∧ value < 0x10000 then .ok (UInt16.ofNat value.toNat) else .error (.notNumber key)
  | some _ => .error (.notNumber key)

/-- The configuration that a document changes from a given one. -/
def ofToml (fallback : Config) (document : String) : Except ConfigFault Config :=
  match Toml.read document with
  | .error fault => .error (.malformed fault)
  | .ok members => do
    let storageDir ← textMember members "storage_dir" fallback.storageDir
    let dbFile ← textMember members "db_file" fallback.dbFile
    let httpPort ← numberMember members "http_port" fallback.httpPort
    let host ← textMember members "bind_host" fallback.host
    return ⟨storageDir, dbFile, httpPort, host⟩

/-- A line of a document. -/
def line (key : String) (value : List Char) : List Char :=
  key.toList ++ " = ".toList ++ value ++ ['\n']

/-- The document of a configuration. -/
def toToml (config : Config) : String :=
  String.ofList <|
    line "storage_dir" (Toml.writeText config.storageDir.toList) ++
    line "db_file" (Toml.writeText config.dbFile.toList) ++
    line "http_port" (Numeral.ofNat config.httpPort.toNat) ++
    line "bind_host" (Toml.writeText config.host.toList)

/-- Load a configuration from the content of a file, if the file is there. -/
def load (fallback : Config) (file : Option Bytes) : Except CatalogError Config :=
  match file with
  | none => .error (.file .missing)
  | some content =>
    match Utf8.decode? content with
    | none => .error (.file .notUnicode)
    | some cs =>
      match fallback.ofToml (String.ofList cs) with
      | .ok config => .ok config
      | .error fault => .error (.config fault.message)

/-- The content of the file that a configuration is saved to. -/
def save (config : Config) : Bytes := Utf8.ofText config.toToml

variable (config : Config)

def dbPath : String := Path.join config.storageDir config.dbFile

def configPath : String := Path.join config.storageDir "config.toml"

/-- The address that requests are answered at. -/
def address : String := s!"{config.host}:{Numeral.text config.httpPort.toNat}"

end Config
end MovieCatalog
