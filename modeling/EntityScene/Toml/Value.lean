import EntityScene.Number.Binary

/-!
Values of TOML text. Dates and times are read but not kept.
-/

namespace EntityScene.Toml

inductive Value where
  | text (value : String)
  | integer (value : Int64)
  | float (value : Double)
  | boolean (value : Bool)
  | moment
  | array (items : List Value)
  | table (entries : List (String × Value))
  deriving Inhabited

/-- How deep arrays, inline tables and dotted keys may go. -/
def depthLimit : Nat := 80

end EntityScene.Toml
