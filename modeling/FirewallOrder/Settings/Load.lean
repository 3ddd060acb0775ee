import FirewallOrder.Settings.Check
import FirewallOrder.Settings.Environment
import FirewallOrder.Toml.Reader
/-!
# Loading settings

Settings come in layers: the values that stand for none, the file, the environment. Of each setting
the highest layer that gives it counts, and only then it is looked at whether the value is of the
right kind. Settings are looked at by name, and the first with a wrong value is reported.

The file is what is found under its path by somebody who also looks in the directories above
(`Machine.searched`), unless the path is that of a directory. Of a file that is no TOML, no reason
is told.
-/

namespace FirewallOrder

/-- Why settings cannot be loaded or used. -/
inductive SettingsError
  /-- There is no TOML in the file; where it ends to be one is not told. -/
  | badFile
  | value (key : String) (fault : ValueFault)
  | directory (path : String)
  | fault (fault : SettingsFault)
  deriving DecidableEq, Repr

def SettingsError.message : SettingsError → String
  | badFile => "config loading failed: the file is no TOML"
  | value key reason => "config loading failed: " ++ reason.message ++ " for key " ++ Text.quote key
  | directory path => "invalid config: " ++ path ++ " is a directory"
  | fault reason => reason.message

namespace Settings

/-- A layer of settings. -/
abbrev Layer := List (String × SettingValue)

/-- What a layer gives for a setting. -/
def Layer.find? (layer : Layer) (key : String) : Option SettingValue :=
  (List.find? (fun e => e.1 == key) layer).map (·.2)

/-- What the highest layer gives that gives anything. -/
def lookup (layers : List Layer) (key : String) : Option SettingValue :=
  layers.findSome? fun layer => layer.find? key

/-- The kind of a value in a file. -/
def ofToml : Toml.Node → SettingValue
  | .str s => .text s
  | .int n => .integer n
  | .float x => .float x
  | .bool b => .bool b
  | .date => .table
  | .arr _ => .list
  | .table _ _ => .table
  | .tables _ => .list

/-- The layer of a file. -/
def fileLayer (text : String) : Option Layer :=
  (Toml.parse text).map fun entries => entries.map fun (key, node) => (key, ofToml node)

/-- The value of a setting, if any layer gives it. -/
def extract {α : Type} (layers : List Layer) (key : String)
    (read : SettingValue → Except ValueFault α) : Except SettingsError (Option α) :=
  match lookup layers key with
  | none => .ok none
  | some value =>
    match read value with
    | .ok a => .ok (some a)
    | .error fault => .error (.value key fault)

/-- The settings of some layers, the highest first. -/
def ofLayers (layers : List Layer) : Except SettingsError Settings := do
  let text := SettingValue.toText "a string"
  let apiUrl ← extract layers "api_url" text
  let caCert ← extract layers "ca_cert" (SettingValue.toText "path string")
  let insecure ← extract layers "insecure" SettingValue.toBool
  let password ← extract layers "password" text
  let site ← extract layers "site" text
  let timeout ← extract layers "timeout" SettingValue.toNat
  let username ← extract layers "username" text
  pure {
    apiUrl := apiUrl
    username := username
    password := password
    site := site.getD defaultSite
    insecure := insecure.getD false
    caCert := caCert
    timeout := timeout.getD defaultTimeout }

/-- The settings of a file, if there is one, and an environment. -/
def load (files : Files) (env : Environment.Variables) (path : String) :
    Except SettingsError Settings :=
  match files.read path with
  | .error .isDirectory => .error (.directory path)
  | .error .denied | .error .notText => .error .badFile
  | .error .missing | .error .notDirectory => ofLayers [Environment.settings env]
  | .ok text =>
    match fileLayer text with
    | none => .error .badFile
    | some file => ofLayers [Environment.settings env, file]

/-! ## The place of the file -/

/-- The file that is read when none is named. -/
def defaultPath (env : Environment.Variables) : String :=
  let configured := (env.get? "XDG_CONFIG_HOME").filter Files.isAbsolute
  let home := (env.get? "HOME").getD "."
  Files.below (configured.getD (Files.below home ".config")) "tfunifi/config.toml"

end Settings

end FirewallOrder
