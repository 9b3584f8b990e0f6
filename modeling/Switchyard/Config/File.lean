/-
Configuration files.

A file is YAML when its name ends in `.yaml` or `.yml`, and JSON otherwise.
-/
import Switchyard.Config.Read
import Switchyard.Config.Validate
import Switchyard.Json.Document
import Switchyard.Text.Utf8
import Switchyard.Yaml.Document

namespace Switchyard

/-- The format of a configuration. -/
inductive ConfigFormat where
  | yaml
  | json
deriving DecidableEq, Repr

/-- Why a configuration cannot be loaded. -/
inductive LoadError where
  /-- There is no such file, or it is not text. -/
  | unreadable (path : String)
  /-- The text is no configuration. -/
  | unparsable (format : ConfigFormat) (fault : Fault)
  | invalid (cause : ConfigError)
deriving DecidableEq

def LoadError.message : LoadError → String
  | .unreadable path => "Failed to read config file " ++ path
  | .unparsable .yaml _ => "Failed to parse YAML config"
  | .unparsable .json _ => "Failed to parse JSON config"
  | .invalid cause => cause.message

/-! ## File names -/

/-- What follows the last dot of a name, unless the dot comes first. -/
def extension? (name : List Char) : Option (List Char) :=
  match Text.splitOnce '.' name.reverse with
  | some (after, before) => if before.isEmpty then none else some after.reverse
  | none => none

/-- The format of a file, by the last part of its path. -/
def ConfigFormat.ofPath (path : String) : ConfigFormat :=
  let name := (Text.splitAll '/' path.toList).getLastD []
  match extension? name with
  | some e => if e = "yaml".toList ∨ e = "yml".toList then .yaml else .json
  | none => .json

/-! ## Loading -/

namespace Config

/-- Reads a configuration in a format. -/
def ofText (format : ConfigFormat) (cs : List Char) : Except LoadError Config :=
  let result := match format with
    | .yaml => Yaml.readAll read cs
    | .json => Json.readAll read cs
  match result with
  | .ok c => .ok c
  | .error fault => .error (.unparsable format fault)

/-- The valid configuration in a file, given the bytes of the file if there is one. -/
def load (path : String) (contents : Option (List UInt8)) : Except LoadError Config :=
  match contents.bind Text.Utf8.decode? with
  | none => .error (.unreadable path)
  | some cs =>
    match ofText (.ofPath path) cs with
    | .error e => .error e
    | .ok c =>
      match c.validate with
      | .ok _ => .ok c
      | .error e => .error (.invalid e)

end Config

end Switchyard
