import EntityScene.Resource.Registry

/-!
Plans of joins. A plan classifies the resources that a join reads and writes by their kinds, which
decide the loops of the join.
-/

namespace EntityScene

inductive PlanError where
  | unknownResource (resource : ResourceId)
  | invalidInput (resource : ResourceId) (kind : Kind)
  | multipleEventInputs (first second : ResourceId)
  deriving DecidableEq, Repr, Inhabited

def PlanError.name : PlanError → String
  | .unknownResource _ => "UnknownResource"
  | .invalidInput _ _ => "InvalidInput"
  | .multipleEventInputs _ _ => "MultipleEventInputs"

def PlanError.message : PlanError → String
  | .unknownResource resource => s!"resource {resource} is not registered"
  | .invalidInput resource kind =>
    s!"resource {resource} (" ++ kind.text ++ ") cannot be used as a job input"
  | .multipleEventInputs first second =>
    s!"only one event input is supported (got {first} and {second})"

/-- Resources with their kinds, in the order in which they were declared. -/
structure Plan where
  inputs : List (ResourceId × Kind)
  outputs : List (ResourceId × Kind)
  /-- The event resource that drives the outer loop. -/
  event : Option ResourceId
  /-- The join walks the viewports. -/
  viewports : Bool
  /-- The join walks the entities. -/
  entities : Bool
  deriving DecidableEq, Repr, Inhabited

namespace Plan

def kindOf (registry : Registry) (resource : ResourceId) : Except PlanError Kind :=
  match registry.get? resource with
  | some descriptor => .ok descriptor.kind
  | none => .error (.unknownResource resource)

/-- The plan walks what the kind is attached to. -/
def note (plan : Plan) : Kind → Plan
  | .viewportComponent => { plan with viewports := true }
  | .entityComponent => { plan with entities := true }
  | _ => plan

def addInput (registry : Registry) (plan : Plan) (resource : ResourceId) :
    Except PlanError Plan := do
  let kind ← kindOf registry resource
  if kind.isRequestList then throw (.invalidInput resource kind)
  let plan ←
    match kind, plan.event with
    | .event, some first => throw (.multipleEventInputs first resource)
    | .event, none => pure { plan with event := some resource }
    | _, _ => pure plan
  pure { plan.note kind with inputs := plan.inputs ++ [(resource, kind)] }

def addOutput (registry : Registry) (plan : Plan) (resource : ResourceId) :
    Except PlanError Plan := do
  let kind ← kindOf registry resource
  pure { plan.note kind with outputs := plan.outputs ++ [(resource, kind)] }

def empty : Plan := ⟨[], [], none, false, false⟩

/-- The plan of a join, or the first thing wrong with its resources: inputs before outputs, each in
the order of declaration. -/
def make (registry : Registry) (inputs outputs : List ResourceId) : Except PlanError Plan := do
  let plan ← inputs.foldlM (addInput registry) empty
  outputs.foldlM (addOutput registry) plan

end Plan

end EntityScene
