import EntityScene.Dialogue
import EntityScene.Inputs
import EntityScene.Plan
import EntityScene.Scene.Data

/-!
Joins. A join calls a callback for each combination of an event, a viewport and an entity whose inputs
all have values, and commits what the callback wrote before it goes on. A loop over something that no
resource of the plan involves has exactly one pass.
-/

namespace EntityScene

/-- What a job does in one match: it reads the inputs, writes the outputs and answers whether the join
goes on. -/
abbrev Callback (μ : Type) := Inputs → Routine μ Bool

/-- The data of a scene and the output slots during a join. -/
structure Frame (μ : Type) where
  data : Data μ
  outputs : Outputs

namespace Join

variable {μ α : Type}

def onData (act : Act (Data μ) α) : Act (Frame μ) α :=
  Act.focus Frame.data (fun data frame => { frame with data }) act

def onOutputs (act : Act Outputs α) : Act (Frame μ) α :=
  Act.focus Frame.outputs (fun outputs frame => { frame with outputs }) act

/-- The identity has a value in the storage of each input of the kind. -/
def holdsAll (data : Data μ) (kind : Kind) (identity : Identity) :
    List (ResourceId × Kind) → Except Fault Bool
  | [] => .ok true
  | (resource, inputKind) :: rest =>
    if inputKind = kind then do
      let table ← (← data.storageAt resource).indexed
      if table.contains identity then holdsAll data kind identity rest else .ok false
    else holdsAll data kind identity rest

/-- A pass without an identity is never skipped. -/
def admits (data : Data μ) (plan : Plan) (kind : Kind) : Option Identity → Except Fault Bool
  | some identity => holdsAll data kind identity plan.inputs
  | none => .ok true

/-- Some scene component among the inputs has no value. -/
def lacksScalar (data : Data μ) : List (ResourceId × Kind) → Except Fault Bool
  | [] => .ok false
  | (resource, kind) :: rest =>
    if kind = .sceneComponent then do
      let scalar ← (← data.storageAt resource).scalar
      if scalar.isSome then lacksScalar data rest else .ok true
    else lacksScalar data rest

/-- The spot of an input and the value there. -/
def lookUp (data : Data μ) (place : Match) (resource : ResourceId) (kind : Kind) :
    Except Fault (Spot × Option Value) := do
  let storage ← data.storageAt resource
  match kind, place with
  | .sceneComponent, _ => pure (.scene, ← storage.scalar)
  | .event, ⟨some position, _, _⟩ => pure (.event position, (← storage.events)[position]?)
  | .viewportComponent, ⟨_, some viewport, _⟩ =>
    pure (.viewport viewport, (← storage.indexed).component viewport)
  | .entityComponent, ⟨_, _, some entity⟩ =>
    pure (.entity entity, (← storage.indexed).component entity)
  | _, _ => .error (.inputOutsideLoop resource kind)

def resolveInput (data : Data μ) (place : Match) : ResourceId × Kind → Except Fault Input
  | (resource, kind) => do
    match ← lookUp data place resource kind with
    | (spot, some value) => pure ⟨resource, spot, value⟩
    | (_, none) => .error (.inputMissing resource kind)

/-- The inputs of a match as they are now. -/
def resolve (data : Data μ) (plan : Plan) (place : Match) : Except Fault Inputs := do
  let values ← plan.inputs.mapM (resolveInput data place)
  pure ⟨values, place⟩

/-- Carries out one call of the callback. -/
def call (callback : Callback μ) (inputs : Inputs) : Act (Frame μ) Bool := do
  let memory := (← Act.core).data.memory
  let (outcome, memory) ← onOutputs (((callback inputs).run.run memory).run)
  Act.update fun frame => { frame with data.memory := memory }
  Act.ofExcept outcome

/-- Hands a written list of spawn requests to the queue. The buffer keeps an empty list. -/
def commitSpawns (position : Nat) (requests : SpawnList) : Act (Frame μ) Unit := do
  let (added, commands, rest) := (← Act.core).data.commands.appendSpawns requests
  let slot ← Act.ofExcept ((← Act.core).outputs.slot position)
  onOutputs (Outputs.putSlot position { slot with buffer := some (.spawnList rest) })
  Act.update fun frame => { frame with data.commands := commands }
  if added then
    let count := requests.length
    Act.log .debug s!"spawning {count} entities before next frame"

/-- Copies the written value of one output to where its kind belongs. -/
def commitValue (place : Match) (position : Nat) (resource : ResourceId) (kind : Kind)
    (value : Value) : Act (Frame μ) Unit := do
  match kind, place with
  | .sceneComponent, _ =>
    onData (Data.onStorageAt resource (Storage.onScalar fun descriptor =>
      Scalar.emplace descriptor value))
  | .viewportComponent, ⟨_, some viewport, _⟩ =>
    onData (Data.onStorageAt resource (Storage.onIndexed fun descriptor =>
      Indexed.emplace descriptor viewport value))
  | .entityComponent, ⟨_, _, some entity⟩ =>
    onData (Data.onStorageAt resource (Storage.onIndexed fun descriptor =>
      Indexed.emplace descriptor entity value))
  | .entitySpawnList, _ =>
    match value with
    | .spawnList requests => commitSpawns position requests
    | _ => Act.fault (.outputNotSpawnList resource kind)
  | _, _ => Act.fault (.outputOutsideLoop resource kind)

/-- Commits the outputs from a position on. Events and despawn requests cannot be written, whether the
callback wrote them or not. -/
def commit (place : Match) : Nat → List (ResourceId × Kind) → Act (Frame μ) Unit
  | _, [] => pure ()
  | position, (resource, kind) :: rest => do
    if kind = .event || kind = .entityDespawnList then
      Act.fault (.outputUnsupported resource kind)
    match ← onOutputs (Outputs.takeWritten position) with
    | some value => commitValue place position resource kind value
    | none => pure ()
    commit place (position + 1) rest

/-- Calls the callback on one match and commits its outputs if it goes on. -/
def visit (plan : Plan) (callback : Callback μ) (place : Match) : Act (Frame μ) Bool := do
  let inputs ← Act.ofExcept (resolve (← Act.core).data plan place)
  if ← call callback inputs then
    commit place 0 plan.outputs
    pure true
  else pure false

/-- Goes through the passes that are let in, as long as the body goes on. -/
def sweep {σ π : Type} (lets body : π → Act σ Bool) : List π → Act σ Bool
  | [] => pure true
  | pass :: rest => do
    if ← lets pass then
      if ← body pass then sweep lets body rest else pure false
    else sweep lets body rest

/-- Lets in what has all its inputs of the kind at that moment. -/
def letsIn (plan : Plan) (kind : Kind) (pass : Option Identity) : Act (Frame μ) Bool := do
  Act.ofExcept (admits (← Act.core).data plan kind pass)

/-- Visits the entities that have all their inputs, as long as the visits go on. -/
def overEntities (plan : Plan) (visit : Match → Act (Frame μ) Bool) (event : Option Nat)
    (viewport : Option Identity) (entities : List (Option Identity)) : Act (Frame μ) Bool :=
  sweep (letsIn plan .entityComponent) (fun entity => visit ⟨event, viewport, entity⟩) entities

def overViewports (plan : Plan) (visit : Match → Act (Frame μ) Bool) (event : Option Nat)
    (entities viewports : List (Option Identity)) : Act (Frame μ) Bool :=
  sweep (letsIn plan .viewportComponent)
    (fun viewport => overEntities plan visit event viewport entities) viewports

/-- No event is skipped. -/
def overEvents (plan : Plan) (visit : Match → Act (Frame μ) Bool)
    (viewports entities : List (Option Identity)) (events : List (Option Nat)) :
    Act (Frame μ) Bool :=
  sweep (fun _ => pure true) (fun event => overViewports plan visit event entities viewports) events

/-- The passes of the event loop. -/
def eventPasses (data : Data μ) (plan : Plan) : Except Fault (List (Option Nat)) :=
  match plan.event with
  | some resource => do
    let events ← (← data.storageAt resource).events
    pure ((List.range events.length).map some)
  | none => .ok [none]

/-- The passes of a loop over live identities. -/
def identityPasses (involved : Bool) (pool : Pool) : List (Option Identity) :=
  if involved then pool.live.toList.map some else [none]

/-- Walks all passes. -/
def walk (plan : Plan) (visit : Match → Act (Frame μ) Bool) : Act (Frame μ) Bool := do
  let data := (← Act.core).data
  let events ← Act.ofExcept (eventPasses data plan)
  overEvents plan visit (identityPasses plan.viewports data.viewports)
    (identityPasses plan.entities data.entities) events

/-- Destroys what the output slots still hold. -/
def releaseOutputs : Act (Frame μ) Unit := do
  onOutputs (Outputs.release (← Act.core).outputs)

/-- Acts with output slots of its own, which are released however the act ends. -/
def withOutputs (outputs : Outputs) (act : Act (Frame μ) α) : Act (Data μ) α :=
  Act.focus (fun data => ⟨data, outputs⟩) (fun frame _ => frame.data)
    (Act.ensuring act releaseOutputs)

/-- Walks a plan with output slots for its outputs. Without a value for each scene component among the
inputs nothing is visited. -/
def traverse (plan : Plan) (visit : Match → Act (Frame μ) Bool) : Act (Data μ) Bool :=
  Act.span "iterate" [] do
    let data ← Act.core
    if ← Act.ofExcept (lacksScalar data plan.inputs) then pure true
    else
      let outputs ← Act.ofExcept (Outputs.prepare data.registry (plan.outputs.map Prod.fst))
      withOutputs outputs (walk plan visit)

/-- Runs a plan. The answer is false if the callback stopped the join; what was committed before
stays. -/
def run (plan : Plan) (callback : Callback μ) : Act (Data μ) Bool := traverse plan (visit plan callback)

end Join

/-- Plans and runs a join. -/
def Data.iterate {μ : Type} (inputs outputs : List ResourceId) (callback : Callback μ) :
    Act (Data μ) (Except PlanError Bool) := do
  match Plan.make (← Act.core).registry inputs outputs with
  | .error cause => pure (.error cause)
  | .ok plan => do pure (.ok (← Join.run plan callback))

end EntityScene
