import EntityScene.Proofs.Join
import EntityScene.Scene

/-!
Runs of scenes. A run builds a scene and then performs operations on it one after the other; an
operation that ends in a fault leaves what it did, and the run goes on from there. What is said here of
one operation is carried over to all states of all runs.
-/

namespace EntityScene

open Act

variable {μ : Type}

/-- What the operations of a storage do to it. -/
inductive Storage.Write where
  | emplaceScalar (value : Value)
  | emplaceIndexed (identity : Identity) (value : Value)
  | removeIndexed (identity : Identity)
  | pushEvent (value : Value)
  | clearEvents
  | endTick

def Storage.Write.perform : Storage.Write → Act Storage Unit
  | .emplaceScalar value => Storage.onScalar fun descriptor => Scalar.emplace descriptor value
  | .emplaceIndexed identity value =>
    Storage.onIndexed fun descriptor => Indexed.emplace descriptor identity value
  | .removeIndexed identity => do
    let _ ← Storage.onIndexed fun descriptor => Indexed.remove descriptor identity
  | .pushEvent value => Storage.onEvents fun descriptor => Events.push descriptor value
  | .clearEvents => Storage.onEvents Events.clear
  | .endTick => Storage.endTick

namespace Scene

/-- The operations on a scene. A storage may be written directly, the waiting requests may be applied
without the rest of a tick, and what the callbacks remember may change between operations. -/
inductive Operation (μ : Type) where
  | tick (delta : Single)
  | iterate (inputs outputs : List ResourceId) (callback : Callback μ)
  | queueSpawn (blueprint : Blueprint)
  | queueDespawn (entity : Identity)
  | addViewport
  | removeViewport (viewport : Identity)
  | emplaceScalar (resource : ResourceId) (value : Value)
  | emplaceEntityComponent (resource : ResourceId) (entity : Identity) (value : Value)
  | emplaceViewportComponent (resource : ResourceId) (viewport : Identity) (value : Value)
  | sendEvent (resource : ResourceId) (value : Value)
  | clearEvents (resource : ResourceId)
  | write (resource : ResourceId) (change : Storage.Write)
  | applyCommands
  | remember (memory : μ)

def Operation.perform : Operation μ → Act (Scene μ) Unit
  | .tick delta => Scene.tick delta
  | .iterate inputs outputs callback => do let _ ← Scene.iterate inputs outputs callback
  | .queueSpawn blueprint => Scene.queueSpawn blueprint
  | .queueDespawn entity => Scene.queueDespawn entity
  | .addViewport => do let _ ← Scene.addViewport
  | .removeViewport viewport => do let _ ← Scene.removeViewport viewport
  | .emplaceScalar resource value => Scene.emplaceScalar resource value
  | .emplaceEntityComponent resource entity value => Scene.emplaceEntityComponent resource entity value
  | .emplaceViewportComponent resource viewport value =>
    Scene.emplaceViewportComponent resource viewport value
  | .sendEvent resource value => Scene.sendEvent resource value
  | .clearEvents resource => Scene.clearEvents resource
  | .write resource change => Scene.onData (Data.onStorage resource change.perform)
  | .applyCommands => Scene.onData Data.applyCommands
  | .remember memory => Act.update fun scene => { scene with data.memory := memory }

/-- The state after the operations, whatever faults they ended in. -/
def runAll (operations : List (Operation μ)) (live : Live (Scene μ)) : Live (Scene μ) :=
  operations.foldl (fun live operation => operation.perform.leaves live) live

/-- The state comes about by building a scene over the registry and performing operations on it. -/
def Reachable (registry : Registry) (live : Live (Scene μ)) : Prop :=
  ∃ (jobs : List (Job μ)) (config : Config) (start : Live μ) (scene : Scene μ) (built : Live μ)
    (operations : List (Operation μ)),
    create registry jobs config start = .ok (.ok scene) built ∧
      live = runAll operations ⟨built.journal, scene⟩

/-- What holds of a built scene and is kept by every operation holds in every reachable state. -/
theorem Reachable.induct {registry : Registry} (invariant : Scene μ → Prop)
    (built : ∀ {jobs : List (Job μ)} {config : Config} {start after : Live μ} {scene : Scene μ},
      create registry jobs config start = .ok (.ok scene) after → invariant scene)
    (keeps : ∀ operation : Operation μ, Keeps invariant operation.perform) {live : Live (Scene μ)}
    (reachable : Reachable registry live) : invariant live.core := by
  obtain ⟨jobs, config, start, scene, after, operations, created, rfl⟩ := reachable
  have begun : invariant (Live.core ⟨after.journal, scene⟩) := built created
  generalize (⟨after.journal, scene⟩ : Live (Scene μ)) = live at begun
  unfold runAll
  induction operations generalizing live with
  | nil => exact begun
  | cons operation rest ih => exact ih _ ((keeps operation).leaves begun)

end Scene

/-- The plan of the job is the one that its resources have under the registry. -/
def PlannedJob.Accepted (registry : Registry) (planned : PlannedJob μ) : Prop :=
  Plan.make registry planned.job.inputs planned.job.outputs = .ok planned.plan

section Jobs

variable {registry : Registry} {invariant : Data μ → Prop}

theorem Schedule.run_keeps {schedule : Schedule μ}
    (jobs : ∀ planned ∈ schedule.jobs, Keeps invariant (Join.run planned.plan planned.job.callback)) :
    Keeps invariant schedule.run := by
  unfold run
  generalize schedule.jobs = list at jobs
  induction list with
  | nil => exact .pure ()
  | cons planned rest ih =>
      unfold runJobs runJob
      refine .bind (.span (.bind (jobs planned List.mem_cons_self) fun completed => ?_)) fun _ =>
        ih fun other member => jobs other (List.mem_cons_of_mem _ member)
      split
      · exact .pure ()
      · exact .log _ _

theorem mem_of_mapM {α β ε : Type} {act : α → Except ε β} {items : List α} {answers : List β}
    (made : items.mapM act = .ok answers) {answer : β} (member : answer ∈ answers) :
    ∃ item ∈ items, act item = .ok answer := by
  induction items generalizing answers with
  | nil =>
      cases made
      cases member
  | cons item rest ih =>
      rw [List.mapM_cons] at made
      cases one : act item with
      | error cause => simp [one, bind, Except.bind] at made
      | ok first =>
          cases others : rest.mapM act with
          | error cause => simp [one, others, bind, Except.bind] at made
          | ok tail =>
              simp only [one, others, bind, Except.bind, pure, Except.pure, Except.ok.injEq] at made
              subst made
              rcases List.mem_cons.mp member with rfl | later
              · exact ⟨item, List.mem_cons_self, one⟩
              · obtain ⟨other, found, ended⟩ := ih others later
                exact ⟨other, List.mem_cons_of_mem _ found, ended⟩

theorem Schedule.partition_accepted {jobs : List (Job μ)} {setup updates : Schedule μ}
    (parted : Schedule.partition registry jobs = .ok (setup, updates)) :
    (∀ planned ∈ setup.jobs, planned.Accepted registry) ∧
      ∀ planned ∈ updates.jobs, planned.Accepted registry := by
  unfold partition at parted
  cases made : jobs.mapM (Job.planned registry) with
  | error cause => simp [made, bind, Except.bind] at parted
  | ok list =>
      simp only [made, bind, Except.bind, pure, Except.pure, Except.ok.injEq, Prod.mk.injEq] at parted
      obtain ⟨rfl, rfl⟩ := parted
      have accepted : ∀ planned ∈ list, planned.Accepted registry := by
        intro planned member
        obtain ⟨job, _, one⟩ := mem_of_mapM made member
        unfold Job.planned at one
        split at one
        · rename_i plan accepted
          cases one
          exact accepted
        · cases one
      exact ⟨fun planned member => accepted planned (List.mem_filter.mp member).1,
        fun planned member => accepted planned (List.mem_filter.mp member).1⟩

end Jobs

namespace Scene

section Steps

variable {α : Type} {registry : Registry} {invariant : Data μ → Prop}

/-- A built scene has what new data have and the setup jobs keep, and its update jobs are planned. -/
theorem create_built {jobs : List (Job μ)} {config : Config} {start after : Live μ} {scene : Scene μ}
    (created : create registry jobs config start = .ok (.ok scene) after)
    (initial : ∀ {entityCapacity viewportCapacity : Nat} {memory : μ} {data : Data μ},
      Data.create registry entityCapacity viewportCapacity memory = .ok data → invariant data)
    (runs : ∀ planned : PlannedJob μ, planned.Accepted registry →
      Keeps invariant (Join.run planned.plan planned.job.callback)) :
    invariant scene.data ∧ ∀ planned ∈ scene.updates.jobs, planned.Accepted registry := by
  have ends : Ends (create registry jobs config) start fun outcome _ => ∀ scene,
      outcome = .ok (.ok scene) →
        invariant scene.data ∧ ∀ planned ∈ scene.updates.jobs, planned.Accepted registry := by
    unfold create
    split
    · exact fun _ never => nomatch never
    · split
      · exact fun _ never => nomatch never
      · rename_i setup updates parted
        obtain ⟨setupAccepted, updatesAccepted⟩ := Schedule.partition_accepted parted
        rw [ends_bind, ends_core, continues_ok, ends_bind, ends_ofExcept]
        cases made : Data.create registry config.entityCapacity config.viewportCapacity start.core with
        | error cause => exact fun _ never => nomatch never
        | ok data =>
            dsimp only [continues_ok]
            rw [ends_bind, ends_log, continues_ok, ends_bind]
            unfold setUp
            rw [ends_focus, ends_bind, ends_attempt]
            refine (Schedule.run_keeps (fun planned member => runs planned (setupAccepted planned member))
              ⟨_, data⟩ (initial made)).mono ?_
            intro outcome after kept
            cases outcome with
            | ok _ =>
                rw [continues_ok, ends_core, continues_ok, ends_pure]
                intro scene same
                cases same
                exact ⟨kept, updatesAccepted⟩
            | error cause =>
                rw [continues_ok, ends_fault_ensuring]
                exact Ends.of_forall fun _ _ _ never => nomatch never
  exact (ends_of_ok created).mp ends scene rfl

theorem ends_onData {act : Act (Data μ) α} {live : Live (Scene μ)}
    {post : Except Fault α → Live (Scene μ) → Prop} :
    Ends (onData act) live post ↔
      Ends act ⟨live.journal, live.core.data⟩ fun outcome after =>
        post outcome ⟨after.journal, { live.core with data := after.core }⟩ := ends_focus

theorem onData_keeps {updates : Schedule μ} {act : Act (Data μ) α} (keeps : Keeps invariant act) :
    Keeps (fun scene : Scene μ => invariant scene.data ∧ scene.updates = updates) (onData act) := by
  rintro live ⟨holds, same⟩
  rw [ends_onData]
  exact (keeps ⟨live.journal, live.core.data⟩ holds).mono fun _ _ kept => ⟨kept, same⟩

/-- A tick first applies the waiting requests; what holds then is kept by the rest of it. -/
theorem tick_ends {begun : Data μ → Prop} {updates : Schedule μ}
    (applies : ∀ live, begun live.core → Ends Data.applyCommands live fun _ after => invariant after.core)
    (scalars : ∀ resource value, Keeps invariant
      (Data.onStorage resource (Storage.onScalar fun descriptor => Scalar.emplace descriptor value)))
    (jobs : ∀ planned ∈ updates.jobs, Keeps invariant (Join.run planned.plan planned.job.callback))
    (closes : Keeps invariant Data.endTick) (delta : Single) {live : Live (Scene μ)}
    (holds : begun live.core.data) (same : live.core.updates = updates) :
    Ends (tick delta) live fun _ after => invariant after.core.data ∧ after.core.updates = updates := by
  unfold tick
  rw [ends_bind, ends_core, continues_ok]
  dsimp only
  rw [ends_span, ends_bind, ends_log, continues_ok, ends_bind, ends_onData]
  refine (applies _ holds).mono ?_
  intro outcome after kept
  cases outcome with
  | error cause => exact ⟨kept, same⟩
  | ok _ =>
      rw [continues_ok]
      -- The jobs are read from the scene late in the tick, so the invariant holds the schedule fixed.
      have rest : Keeps (fun scene : Scene μ => invariant scene.data ∧ scene.updates = updates) (do
          Act.update fun scene =>
            { scene with gameTime := scene.gameTime.add (delta.mul scene.config.timeScale) }
          emplaceScalar Registry.deltaTime (.single delta)
          emplaceScalar Registry.gameTime (.single (← Act.core).gameTime)
          onData (← Act.core).updates.run
          onData Data.endTick) := by
        refine .bind (.update fun _ kept => kept) fun _ => .bind (onData_keeps (scalars _ _)) fun _ => ?_
        refine .bind_core fun _ _ => .bind (onData_keeps (scalars _ _)) fun _ => ?_
        refine .bind_core fun scene kept => .bind (onData_keeps (Schedule.run_keeps ?_)) fun _ => ?_
        · rw [kept.2]
          exact jobs
        · exact onData_keeps closes
      exact rest _ ⟨kept, same⟩

end Steps

section Soundness

variable {registry : Registry} {updates : Schedule μ}

theorem run_soundOver (plan : Plan) (callback : Callback μ) :
    Keeps (Data.SoundOver registry) (Join.run plan callback) := by
  have tolerates : Join.Tolerates plan (fun _ _ => True) (Data.SoundOver registry : Data μ → Prop) :=
    { viewports := fun _ _ => trivial
      entities := fun _ _ => trivial
      memory := fun _ kept => ⟨{ kept.sound with }, kept.registry⟩
      spawns := fun _ _ kept => ⟨{ kept.sound with }, kept.registry⟩
      scalar := fun value _ => Data.keeps_onStorageAt fun _ => Storage.keeps_emplaceScalar value
      indexed := fun value _ _ => Data.keeps_onStorageAt fun _ => Storage.keeps_emplaceIndexed _ value }
  exact Join.run_keeps tolerates callback

theorem write_serves (descriptor : Descriptor) (change : Storage.Write) :
    Keeps (Storage.Serves descriptor) change.perform := by
  cases change with
  | emplaceScalar value => exact Storage.keeps_emplaceScalar value
  | emplaceIndexed identity value => exact Storage.keeps_emplaceIndexed identity value
  | removeIndexed identity => exact .bind (Storage.keeps_removeIndexed identity) fun _ => .pure ()
  | pushEvent value => exact Storage.keeps_pushEvent value
  | clearEvents => exact Storage.keeps_clearEvents
  | endTick => exact Storage.keeps_endTick

/-- A direct write keeps the data sound, whichever operation of the storage it is. -/
theorem write_soundOver (resource : ResourceId) (change : Storage.Write) :
    Keeps (Data.SoundOver registry : Data μ → Prop) (Data.onStorage resource change.perform) :=
  Data.keeps_onStorage fun descriptor => write_serves descriptor change

theorem emplaceIndexed_soundOver (kind : Kind) (resource : ResourceId) (identity : Identity) (value : Value) :
    Keeps (fun scene : Scene μ => Data.SoundOver registry scene.data ∧ scene.updates = updates)
      (emplaceIndexed kind resource identity value) := by
  unfold emplaceIndexed
  refine .bind_core fun scene _ => ?_
  split
  · refine .bind (.ofExcept _) fun descriptor => ?_
    split
    · exact onData_keeps (write_soundOver resource (.emplaceIndexed identity value))
    · exact .fault _
  · exact .fault _

theorem iterate_soundOver (inputs outputs : List ResourceId) (callback : Callback μ) :
    Keeps (Data.SoundOver registry) (Data.iterate inputs outputs callback) := by
  unfold Data.iterate
  refine .bind_core fun data _ => ?_
  split
  · exact .pure _
  · exact .bind (run_soundOver _ callback) fun _ => .pure _

/-- Every operation keeps a scene sound, however it ends. -/
theorem perform_soundOver (operation : Operation μ) :
    Keeps (fun scene : Scene μ => Data.SoundOver registry scene.data ∧ scene.updates = updates)
      operation.perform := by
  cases operation with
  | tick delta =>
      rintro live ⟨sound, same⟩
      exact tick_ends (fun live sound => Data.applyCommands_soundOver registry live sound)
        (fun resource value => write_soundOver resource (.emplaceScalar value))
        (fun planned _ => run_soundOver planned.plan planned.job.callback)
        (Data.endTick_keeps fun _ => Data.keeps_onStorageAt fun _ => Storage.keeps_endTick) delta sound same
  | iterate inputs outputs callback =>
      refine .bind (.bind (onData_keeps (iterate_soundOver inputs outputs callback)) fun answer => ?_)
        fun _ => .pure ()
      split
      · exact .pure _
      · exact .pure _
  | queueSpawn blueprint => exact fun _ kept => ⟨⟨{ kept.1.sound with }, kept.1.registry⟩, kept.2⟩
  | queueDespawn entity => exact fun _ kept => ⟨⟨{ kept.1.sound with }, kept.1.registry⟩, kept.2⟩
  | addViewport =>
      refine .bind (.bind_core fun scene holds => .bind_ofExcept fun answer made => ?_) fun _ => .pure ()
      refine .bind (.update fun other kept => ⟨⟨?_, kept.1.registry⟩, kept.2⟩) fun _ => .pure _
      exact { kept.1.sound with viewports := (Pool.emplace_spec holds.1.sound.viewports made).1 }
  | removeViewport viewport =>
      refine .bind (.bind_core fun scene holds => ?_) fun _ => .pure ()
      refine .bind (.update fun other kept => ⟨⟨?_, kept.1.registry⟩, kept.2⟩) fun _ => .pure _
      exact { kept.1.sound with viewports := Pool.remove_sound holds.1.sound.viewports viewport }
  | emplaceScalar resource value => exact onData_keeps (write_soundOver resource (.emplaceScalar value))
  | emplaceEntityComponent resource entity value =>
      exact emplaceIndexed_soundOver .entityComponent resource entity value
  | emplaceViewportComponent resource viewport value =>
      exact emplaceIndexed_soundOver .viewportComponent resource viewport value
  | sendEvent resource value => exact onData_keeps (write_soundOver resource (.pushEvent value))
  | clearEvents resource => exact onData_keeps (write_soundOver resource .clearEvents)
  | write resource change => exact onData_keeps (write_soundOver resource change)
  | applyCommands => exact onData_keeps (Data.applyCommands_soundOver registry)
  | remember memory => exact fun _ kept => ⟨⟨{ kept.1.sound with }, kept.1.registry⟩, kept.2⟩

/-- The data of every reachable scene are sound over its registry. -/
theorem Reachable.soundOver {live : Live (Scene μ)} (reachable : Reachable registry live) :
    Data.SoundOver registry live.core.data := by
  refine Reachable.induct (fun scene => Data.SoundOver registry scene.data) (fun created => ?_)
    (fun operation live sound => ?_) reachable
  · refine (create_built created (fun made => ?_) fun planned _ => run_soundOver planned.plan _).1
    obtain ⟨same, sound⟩ := Data.create_sound made
    exact ⟨sound, by rw [same]⟩
  · exact (perform_soundOver operation live ⟨sound, rfl⟩).mono fun _ _ kept => kept.1

end Soundness

end Scene

namespace Sample

/-- The built-in resources and some others. -/
def registry : Registry where
  descriptors := Registry.builtin.descriptors ++
    [⟨4, "size", .viewportComponent, .plain .uint32⟩,
     ⟨5, "seen", .viewportComponent, .plain .uint32⟩,
     ⟨6, "click", .event, .plain .uint32⟩,
     ⟨7, "notes", .entitySpawnList, .plain .uint32⟩,
     ⟨8, "health", .entityComponent, .plain .uint32⟩,
     ⟨9, "armor", .entityComponent, .plain .uint32⟩]

/-- A new scene without jobs. -/
def start : Scene Unit :=
  ⟨⟨registry, registry.descriptors.map Storage.ofDescriptor, .empty, .empty, .empty, ()⟩,
    .empty .update, .default, .zero⟩

def journal : Journal := ((Scene.create registry ([] : List (Job Unit)) .default).leaves ⟨{}, ()⟩).journal

/-- Three viewports, the first and the last with a size, and two events. -/
def operations : List (Scene.Operation Unit) :=
  [.addViewport, .addViewport, .addViewport,
   .emplaceViewportComponent 4 ⟨0, 0⟩ (.uint32 1), .emplaceViewportComponent 4 ⟨2, 0⟩ (.uint32 3),
   .sendEvent 6 (.uint32 1), .sendEvent 6 (.uint32 2)]

def scene : Live (Scene Unit) := Scene.runAll operations ⟨journal, start⟩

theorem start_created : Scene.create registry [] .default ⟨{}, ()⟩ =
    .ok (.ok start) ((Scene.create registry [] .default).leaves ⟨{}, ()⟩) := rfl

theorem scene_reachable : Scene.Reachable registry scene :=
  ⟨[], .default, ⟨{}, ()⟩, start, _, operations, start_created, rfl⟩

end Sample

end EntityScene
