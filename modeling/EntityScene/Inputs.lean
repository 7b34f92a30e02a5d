import EntityScene.Fault

/-!
What a callback reads in one match: the values of the declared inputs by position, and the event,
viewport and entity of the match.
-/

namespace EntityScene

/-- Where the value of an input was found. -/
inductive Spot where
  | scene
  | viewport (identity : Identity)
  | entity (identity : Identity)
  | event (position : Nat)
  deriving DecidableEq, Repr, Inhabited

def Spot.text : Spot → String
  | .scene => "Scene"
  | .viewport identity => "Viewport(" ++ identity.text ++ ")"
  | .entity identity => "Entity(" ++ identity.text ++ ")"
  | .event position => s!"Event({position})"

structure Input where
  resource : ResourceId
  spot : Spot
  value : Value

/-- The event, viewport and entity of one call. A loop that the join does not have gives none. -/
structure Match where
  event : Option Nat
  viewport : Option Identity
  entity : Option Identity
  deriving DecidableEq, Repr, Inhabited

structure Inputs where
  values : List Input
  place : Match

namespace Inputs

def input (inputs : Inputs) (position : Nat) : Except Fault Input :=
  match inputs.values[position]? with
  | some input => .ok input
  | none => .error (.inputRange position inputs.values.length)

/-- The value of an input, which must have the wanted type. -/
def get (inputs : Inputs) (position : Nat) (type : ElementType) : Except Fault Value := do
  let input ← inputs.input position
  match input.value.as? type with
  | some value => .ok value
  | none => .error (.inputMismatch position input.resource type)

/-- The value of an input, if it has the wanted type. -/
def get? (inputs : Inputs) (position : Nat) (type : ElementType) :
    Except Fault (Option Value) := do
  let input ← inputs.input position
  pure (input.value.as? type)

end Inputs

end EntityScene
