import EntityScene.Schedule

/-!
Scenes. A scene is built from a registry, jobs and a configuration, and then advances tick by tick: it
applies the waiting requests, publishes the times, runs the update jobs and clears the events.
-/

namespace EntityScene

structure Scene (μ : Type) where
  data : Data μ
  updates : Schedule μ
  config : Config
  gameTime : Single

namespace Scene

variable {μ α : Type}

def onData (act : Act (Data μ) α) : Act (Scene μ) α :=
  Act.focus Scene.data (fun data scene => { scene with data }) act

/-- Runs the setup jobs on new data. A fault destroys what the data holds, aborts if that fails too, and
leaves the memory of the callbacks. -/
def setUp (setup : Schedule μ) (data : Data μ) : Act μ (Data μ) :=
  Act.focus (fun _ => data) (fun data _ => data.memory) do
    match ← Act.attempt setup.run with
    | .ok _ => Act.core
    | .error cause => Act.ensuring (Act.fault cause) Data.release

/-- Builds a scene. The configuration is checked first, then the jobs; nothing runs if either is
refused. -/
def create (registry : Registry) (jobs : List (Job μ)) (config : Config) :
    Act μ (Except SceneError (Scene μ)) := do
  match config.validate with
  | .error cause => pure (.error (.config cause))
  | .ok _ =>
    match Schedule.partition registry jobs with
    | .error cause => pure (.error cause)
    | .ok (setup, updates) =>
      let data ← Act.ofExcept
        (Data.create registry config.entityCapacity config.viewportCapacity (← Act.core))
      let resources := registry.size
      let setups := setup.size
      let updating := updates.size
      Act.log .info
        s!"scene created with {resources} resources, {setups} setup and {updating} update jobs"
      let data ← setUp setup data
      pure (.ok ⟨data, updates, config, .zero⟩)

/-- Overwrites a scene component. -/
def emplaceScalar (resource : ResourceId) (value : Value) : Act (Scene μ) Unit :=
  onData (Data.onStorage resource (Storage.onScalar fun descriptor =>
    Scalar.emplace descriptor value))

/-- Advances the scene by a delta. -/
def tick (delta : Single) : Act (Scene μ) Unit := do
  let entities := (← Act.core).data.entities.count
  Act.span "Scene::tick" [("entities", .unsigned entities.toUInt64)] do
    Act.log .trace ("tick: delta_time = " ++ delta.text)
    onData Data.applyCommands
    Act.update fun scene =>
      { scene with gameTime := scene.gameTime.add (delta.mul scene.config.timeScale) }
    emplaceScalar Registry.deltaTime (.single delta)
    emplaceScalar Registry.gameTime (.single (← Act.core).gameTime)
    onData (← Act.core).updates.run
    onData Data.endTick

/-- Makes a join of its own. -/
def iterate (inputs outputs : List ResourceId) (callback : Callback μ) :
    Act (Scene μ) (Except SceneError Bool) := do
  match ← onData (Data.iterate inputs outputs callback) with
  | .ok completed => pure (.ok completed)
  | .error cause => pure (.error (.plan cause))

/-- The value of a scene component. -/
def scalar (scene : Scene μ) (resource : ResourceId) : Except Fault Scalar := do
  (← scene.data.storage resource).scalar

/-- The storage of a component of entities or viewports. -/
def indexed (scene : Scene μ) (resource : ResourceId) : Except Fault Indexed := do
  (← scene.data.storage resource).indexed

/-- The events of a resource. -/
def events (scene : Scene μ) (resource : ResourceId) : Except Fault Events := do
  (← scene.data.storage resource).events

def request (command : Command) : Act (Scene μ) Unit :=
  Act.update fun scene => { scene with data.commands := scene.data.commands.push command }

/-- Asks for a new entity at the next tick. -/
def queueSpawn (blueprint : Blueprint) : Act (Scene μ) Unit := request (.spawn blueprint)

/-- Asks for the removal of an entity at the next tick. -/
def queueDespawn (entity : Identity) : Act (Scene μ) Unit := request (.despawn entity)

def containsEntity (scene : Scene μ) (entity : Identity) : Bool :=
  scene.data.entities.contains entity

/-- A new viewport, live at once. -/
def addViewport : Act (Scene μ) Identity := do
  let (viewport, viewports) ← Act.ofExcept (← Act.core).data.viewports.emplace
  Act.update fun scene => { scene with data.viewports := viewports }
  pure viewport

/-- Removes a viewport; the answer says whether it was live. -/
def removeViewport (viewport : Identity) : Act (Scene μ) Bool := do
  let (removed, viewports) := (← Act.core).data.viewports.remove viewport
  Act.update fun scene => { scene with data.viewports := viewports }
  pure removed

/-- The pool whose identities a kind is attached to. -/
def poolOf (scene : Scene μ) (kind : Kind) : Pool :=
  if kind = .viewportComponent then scene.data.viewports else scene.data.entities

/-- Writes a component of a live identity. -/
def emplaceIndexed (kind : Kind) (resource : ResourceId) (identity : Identity) (value : Value) :
    Act (Scene μ) Unit := do
  let scene ← Act.core
  if (scene.poolOf kind).contains identity then
    let descriptor ← Act.ofExcept (scene.data.registry.descriptor resource)
    if descriptor.kind = kind then
      onData (Data.onStorage resource (Storage.onIndexed fun descriptor =>
        Indexed.emplace descriptor identity value))
    else Act.fault (.notOfKind descriptor.label kind)
  else Act.fault (.notLive identity)

def emplaceEntityComponent (resource : ResourceId) (entity : Identity) (value : Value) :
    Act (Scene μ) Unit := emplaceIndexed .entityComponent resource entity value

def emplaceViewportComponent (resource : ResourceId) (viewport : Identity) (value : Value) :
    Act (Scene μ) Unit := emplaceIndexed .viewportComponent resource viewport value

/-- Adds an event, which lives until the end of the next tick. -/
def sendEvent (resource : ResourceId) (value : Value) : Act (Scene μ) Unit :=
  onData (Data.onStorage resource (Storage.onEvents fun descriptor => Events.push descriptor value))

def clearEvents (resource : ResourceId) : Act (Scene μ) Unit :=
  onData (Data.onStorage resource (Storage.onEvents Events.clear))

/-- Destroys every value the scene holds. -/
def release : Act (Scene μ) Unit := onData Data.release

end Scene

end EntityScene
