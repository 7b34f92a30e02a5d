import EntityScene.Number.Decimal
import EntityScene.Text.Quoted
import EntityScene.Toml.Document

/-!
The configuration of a scene, given directly or read from TOML text.
-/

namespace EntityScene

/-- What the text has where a field wants something else. -/
inductive Found where
  | boolean (value : Bool)
  | integer (value : Int)
  | float (value : Double)
  | string (value : String)
  | sequence
  | map
  deriving DecidableEq, Repr, Inhabited

def Found.text : Found → String
  | .boolean value => "boolean `" ++ (if value then "true" else "false") ++ "`"
  | .integer value => s!"integer `{value}`"
  | .float value => "floating point `" ++ value.pointedText ++ "`"
  | .string value => "string " ++ Text.quoted value
  | .sequence => "sequence"
  | .map => "map"

inductive ConfigError where
  /-- The text is no TOML document. -/
  | malformed
  | unknownField (name : String)
  | invalidType (found : Found) (expected : String)
  | invalidValue (found : Found) (expected : String)
  | invalidTimeScale (scale : Single)
  deriving DecidableEq, Repr, Inhabited

/-- Whatever is wrong with the text is an error of reading it. -/
def ConfigError.name : ConfigError → String
  | .invalidTimeScale _ => "InvalidTimeScale"
  | .malformed | .unknownField _ | .invalidType _ _ | .invalidValue _ _ => "Parse"

/-- The message of an error. Malformed text has none of its own. -/
def ConfigError.message? : ConfigError → Option String
  | .malformed => none
  | .unknownField name =>
    some (s!"unknown field `{name}`, expected one of " ++
      "`game_time_scale`, `entity_capacity`, `viewport_capacity`")
  | .invalidType found expected =>
    some ("invalid type: " ++ found.text ++ ", expected " ++ expected)
  | .invalidValue found expected =>
    some ("invalid value: " ++ found.text ++ ", expected " ++ expected)
  | .invalidTimeScale scale =>
    some ("game_time_scale must be finite and > 0 (got " ++ scale.text ++ ")")

structure Config where
  /-- Game time per unit of delta time. -/
  timeScale : Single
  entityCapacity : Nat
  viewportCapacity : Nat
  deriving DecidableEq, Repr, Inhabited

namespace Config

/-- A thousandth, 1024 entities and 4 viewports. -/
def default : Config := ⟨⟨0x3a83126f⟩, 1024, 4⟩

/-- The time scale must be a positive finite number. -/
def validate (config : Config) : Except ConfigError Unit :=
  if config.timeScale.isFinite && Single.zero.lt config.timeScale then .ok ()
  else .error (.invalidTimeScale config.timeScale)

def found : Toml.Node → Found
  | .leaf (.boolean value) => .boolean value
  | .leaf (.integer value) => .integer value.toInt
  | .leaf (.float value) => .float value
  | .leaf (.text value) => .string value
  | .leaf (.array _) | .tables _ => .sequence
  | .leaf .moment | .leaf (.table _) | .table _ _ => .map

/-- A number, rounded to single precision. -/
def readScale : Toml.Node → Except ConfigError Single
  | .leaf (.float value) => .ok value.toSingle
  | .leaf (.integer value) => .ok (.ofInt64 value)
  | node => .error (.invalidType (found node) "f32")

/-- A whole number that is not negative. -/
def readCapacity : Toml.Node → Except ConfigError Nat
  | .leaf (.integer value) =>
    if value.toInt < 0 then .error (.invalidValue (.integer value.toInt) "usize")
    else .ok value.toInt.toNat
  | node => .error (.invalidType (found node) "usize")

/-- Sets the field that a key names. -/
def readField (config : Config) : String × Toml.Node → Except ConfigError Config
  | (key, node) =>
    if key = "game_time_scale" then do pure { config with timeScale := ← readScale node }
    else if key = "entity_capacity" then do pure { config with entityCapacity := ← readCapacity node }
    else if key = "viewport_capacity" then do
      pure { config with viewportCapacity := ← readCapacity node }
    else .error (.unknownField key)

/-- Reads a configuration. Fields that the text does not name keep their defaults. The text is checked
before its fields, the fields in the order of the text, and the whole at last. -/
def ofToml (text : String) : Except ConfigError Config := do
  let some entries := Toml.read? text | throw .malformed
  let config ← entries.foldlM readField default
  config.validate
  pure config

end Config

end EntityScene
