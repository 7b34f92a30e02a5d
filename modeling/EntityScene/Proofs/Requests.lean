import EntityScene.Proofs.Births
import EntityScene.Proofs.Joinings
import EntityScene.Proofs.ValueFlow

/-!
No request to spawn is lost, repeated or overtaken. Along every run the entities that came to life,
followed by the requests that still wait, are the requests that were recorded, in the order in which they
were: by the queue operations, and by the calls of joins whose commit came to them.
-/

namespace EntityScene

open Act

variable {μ α : Type}

/-- The requests that the committed calls of a join recorded. -/
def Joining.requests (joining : Joining μ) : SpawnList :=
  Join.recorded (Join.writings joining.start.core joining.plan (joining.calls.filter Join.Call.goesOn))

namespace Data

/-- A condition that does not speak of the storages is kept by an act on one of them. -/
theorem onStorageAt_keeps {condition : Data μ → Prop}
    (aside : ∀ data storages, condition data → condition { data with storages }) (resource : ResourceId)
    (act : Act Storage α) : Keeps condition (onStorageAt resource act) := by
  intro live kept
  refine (onStorageAt_frame resource act live).mono ?_
  intro _ after same
  rw [same]
  exact aside live.core _ kept

theorem onStorage_keeps {condition : Data μ → Prop}
    (aside : ∀ data storages, condition data → condition { data with storages }) (resource : ResourceId)
    (act : Act Storage α) : Keeps condition (onStorage resource act) :=
  fun live kept => onStorage_ends (fun _ _ => kept) (onStorageAt_keeps aside resource act live kept)

end Data

/-- A join leaves the pool of entities alone. -/
theorem Join.run_entities (pool : Pool) (plan : Plan) (callback : Callback μ) :
    Keeps (fun data : Data μ => data.entities = pool) (run plan callback) := by
  have tolerates : Tolerates plan (fun _ _ => True) fun data : Data μ => data.entities = pool :=
    { viewports := fun _ _ => trivial
      entities := fun _ _ => trivial
      memory := fun _ kept => kept
      spawns := fun _ _ kept => kept
      scalar := fun _ _ => Data.onStorageAt_keeps (fun _ _ kept => kept) _ _
      indexed := fun _ _ _ => Data.onStorageAt_keeps (fun _ _ kept => kept) _ _ }
  exact run_keeps tolerates callback

/-- The data are sound with this pool of entities, and the queue holds the base and then what the joins
recorded. -/
structure Data.Queued (registry : Registry) (pool : Pool) (base : SpawnList) (made : List (Joining μ))
    (data : Data μ) : Prop where
  based : Data.SoundOver registry data
  entities : data.entities = pool
  spawns : data.commands.spawns = base ++ made.flatMap Joining.requests

theorem queued_carried (registry : Registry) (pool : Pool) (base : SpawnList) :
    Story.Carried registry (fun made _ (data : Data μ) => data.Queued registry pool base made) := by
  constructor
  intro reads writes plan callback made live accepted queued
  have flows := (Join.run_flows queued.based accepted callback).2
  refine ((Scene.run_soundOver plan callback live queued.based).and
    ((Join.run_entities pool plan callback live queued.entities).and flows)).mono ?_
  rintro outcome after ⟨based, entities, flowed⟩
  refine ⟨based, entities, ?_⟩
  rw [flowed.spawns, queued.spawns, List.flatMap_append, List.append_assoc, List.flatMap_singleton]
  rfl

namespace Data.Queued

variable {registry : Registry} {pool : Pool} {base : SpawnList} {made : List (Joining μ)}

/-- Acts that keep the data sound and do not touch the entities or the queue. -/
theorem keeps {act : Act (Data μ) α} (sound : Keeps (Data.SoundOver registry) act)
    (aside : ∀ spawns, Keeps (fun data : Data μ => data.entities = pool ∧ data.commands.spawns = spawns) act) :
    Keeps (Data.Queued registry pool base made) act := by
  intro live queued
  refine ((sound live queued.based).and (aside _ live ⟨queued.entities, queued.spawns⟩)).mono ?_
  rintro _ after ⟨based, entities, spawns⟩
  exact ⟨based, entities, spawns⟩

theorem endTick : Keeps (Data.Queued registry pool base made) (Data.endTick : Act (Data μ) Unit) := by
  refine Data.endTick_keeps fun resource => keeps ?_ fun spawns => ?_
  · exact Data.keeps_onStorageAt fun _ => Storage.keeps_endTick
  · exact Data.onStorageAt_keeps (fun _ _ kept => kept) resource _

theorem emplaceScalar (resource : ResourceId) (value : Value) :
    Keeps (Data.Queued registry pool base made : Data μ → Prop)
      (Data.onStorage resource (Storage.onScalar fun descriptor => Scalar.emplace descriptor value)) := by
  refine keeps ?_ fun spawns => ?_
  · exact Scene.write_soundOver resource (.emplaceScalar value)
  · exact Data.onStorage_keeps (fun _ _ kept => kept) resource _

end Data.Queued

namespace Scene

section Ticks

variable {registry : Registry} {live : Live (Scene μ)}

/-- A tick whose requests can be applied leaves the entities as they are after that and the requests that
its jobs recorded in the queue. -/
theorem tick_queued (based : Data.SoundOver registry live.core.data)
    (accepted : ∀ planned ∈ live.core.updates.jobs, planned.Accepted registry)
    (applies : Data.applyCommands.fault? ⟨live.journal, live.core.data⟩ = none) (delta : Single) :
    Ends (tick delta) live fun _ after =>
      after.core.updates = live.core.updates ∧
        after.core.data.Queued registry
          (Data.applyCommands.leaves ⟨live.journal, live.core.data⟩).core.entities [] (tickJoinings delta live) := by
  obtain ⟨_, applied⟩ := exists_ok_of_fault? applies
  generalize (Data.applyCommands.leaves ⟨live.journal, live.core.data⟩) = final at applied
  have tells : Tells registry live
      (fun made _ data => data.Queued registry final.core.entities [] made)
      (fun _ made _ data => data.Queued registry final.core.entities [] made) :=
    { carried := queued_carried registry final.core.entities []
      applies := by
        intro journal _
        have alike := Data.applyCommands_uniform.blind ⟨live.journal, live.core.data⟩ ⟨journal, live.core.data⟩ rfl
        rw [applied] at alike
        obtain ⟨after, ended, same⟩ := alike.exists_ok
        have start : Data.SoundOver registry (Live.core ⟨journal, live.core.data⟩) := based
        have sound := (ends_of_ok ended).mp (Data.applyCommands_soundOver registry _ start)
        have spawned := (ends_of_ok ended).mp (Data.applyCommands_spawned start) rfl
        rw [ends_of_ok ended]
        exact ⟨sound, congrArg Data.entities (Eq.symm same), congrArg CommandQueue.spawns spawned.commands⟩
      scalars := fun resource value _ queued => Data.Queued.emplaceScalar resource value _ queued
      breaks := fun _ queued => queued
      closes := fun queued => Data.Queued.endTick _ queued }
  exact tells.tick accepted delta

/-- A join of its own leaves the entities alone and adds what it recorded to the queue. -/
theorem iterate_queued (based : Data.SoundOver registry live.core.data) (inputs outputs : List ResourceId)
    (callback : Callback μ) :
    Ends (Operation.iterate inputs outputs callback).perform live fun _ after =>
      after.core.updates = live.core.updates ∧
        after.core.data.Queued registry live.core.data.entities live.core.data.commands.spawns
          ((Operation.iterate inputs outputs callback).joinings live) := by
  have queued : live.core.data.Queued registry live.core.data.entities live.core.data.commands.spawns [] :=
    ⟨based, rfl, (List.append_nil _).symm⟩
  exact iterate_tells (queued_carried registry _ _) based.registry queued

end Ticks

section Steps

/-- The operation neither records requests nor applies them. -/
def Operation.quiet : Operation μ → Bool
  | .tick _ | .iterate _ _ _ | .queueSpawn _ | .applyCommands => false
  | _ => true

theorem write_spawns (resource : ResourceId) (change : Storage.Write) (live : Live (Scene μ)) :
    Ends (onData (Data.onStorage resource change.perform)) live fun _ after =>
      after.core.data.commands.spawns = live.core.data.commands.spawns := by
  have keeps : Keeps (fun data : Data μ => data.commands.spawns = live.core.data.commands.spawns)
      (Data.onStorage resource change.perform) := Data.onStorage_keeps (fun _ _ kept => kept) resource _
  exact ends_onData.mpr (keeps ⟨live.journal, live.core.data⟩ rfl)

theorem emplaceIndexed_spawns (kind : Kind) (resource : ResourceId) (identity : Identity) (value : Value)
    (live : Live (Scene μ)) :
    Ends (emplaceIndexed kind resource identity value) live fun _ after =>
      after.core.data.commands.spawns = live.core.data.commands.spawns := by
  rcases emplaceIndexed_or kind resource identity value live with ⟨cause, refused⟩ | written
  · exact (ends_of_error refused).mpr rfl
  · rw [ends_congr written]
    exact write_spawns resource _ live

theorem perform_quiet {operation : Operation μ} (quiet : operation.quiet = true) (live : Live (Scene μ)) :
    Ends operation.perform live fun _ after =>
      after.core.data.commands.spawns = live.core.data.commands.spawns := by
  cases operation with
  | tick | iterate | queueSpawn | applyCommands => cases quiet
  | queueDespawn | removeViewport | remember => rfl
  | addViewport =>
      unfold Operation.perform addViewport
      rw [ends_bind, ends_bind, ends_core, continues_ok, ends_bind, ends_ofExcept]
      cases live.core.data.viewports.emplace <;> rfl
  | emplaceScalar | sendEvent | clearEvents | write =>
      rw [perform_change rfl]
      exact write_spawns _ _ live
  | emplaceEntityComponent resource entity value =>
      exact emplaceIndexed_spawns _ resource entity value live
  | emplaceViewportComponent resource viewport value =>
      exact emplaceIndexed_spawns _ resource viewport value live

namespace Step

/-- The entities that the step brings to life, with their blueprints. -/
def births (step : Step μ) : List (Identity × Blueprint) :=
  match step.operation with
  | .tick _ | .applyCommands => step.before.core.data.births
  | _ => []

/-- The requests that are recorded in the step. -/
def requests (step : Step μ) : SpawnList :=
  match step.operation with
  | .queueSpawn blueprint => [blueprint]
  | _ => step.joinings.flatMap Joining.requests

/-- If the step applies the waiting requests, it gets through them. -/
def applies (step : Step μ) : Bool :=
  match step.operation with
  | .tick _ | .applyCommands =>
    (Data.applyCommands.fault? ⟨step.before.journal, step.before.core.data⟩).isNone
  | _ => true

end Step

/-- A tick brings to life what waited at its beginning, and nothing else until its end. -/
theorem Step.tick_applies {registry : Registry} {step : Step μ} (sturdy : Sturdy registry step.before.core)
    (applies : step.applies = true) {delta : Single} (ticks : step.operation = .tick delta) :
    let before := step.before.core.data
    let applied := (Data.applyCommands.leaves ⟨step.before.journal, before⟩).core
    before.Applied step.births applied ∧ step.after.core.data.entities = applied.entities ∧
      step.after.core.data.commands.spawns = step.requests := by
  obtain ⟨operation, live⟩ := step
  subst ticks
  have start : Data.SoundOver registry (Live.core ⟨live.journal, live.core.data⟩) := sturdy.based
  have fine := Option.isNone_iff_eq_none.mp applies
  obtain ⟨_, applied⟩ := exists_ok_of_fault? fine
  have spawned := (ends_of_ok applied).mp (Data.applyCommands_spawned start) rfl
  have queued := (ends_leaves.mp (tick_queued sturdy.based sturdy.accepted fine delta)).2
  exact ⟨spawned, queued.entities, queued.spawns⟩

/-- One step: what it brings to life and what waits after it are what waited before it and what it
records. -/
theorem Step.conserves {registry : Registry} {step : Step μ} (sturdy : Sturdy registry step.before.core)
    (applies : step.applies = true) :
    step.births.map Prod.snd ++ step.after.core.data.commands.spawns =
      step.before.core.data.commands.spawns ++ step.requests := by
  obtain ⟨operation, live⟩ := step
  have start : Data.SoundOver registry (Live.core ⟨live.journal, live.core.data⟩) := sturdy.based
  have aside (quiet : operation.quiet = true) :
      (Step.after ⟨operation, live⟩).core.data.commands.spawns = live.core.data.commands.spawns :=
    ends_leaves.mp (perform_quiet quiet live)
  cases operation with
  | tick delta =>
      obtain ⟨spawned, _, spawns⟩ := Step.tick_applies sturdy applies rfl
      rw [spawns]
      exact congrArg (· ++ Step.requests ⟨.tick delta, live⟩) spawned.each
  | applyCommands =>
      obtain ⟨_, applied⟩ := exists_ok_of_fault? (Option.isNone_iff_eq_none.mp applies)
      have spawned := (ends_of_ok applied).mp (Data.applyCommands_spawned start) rfl
      have emptied : Ends (onData Data.applyCommands) live fun _ after =>
          after.core.data.commands = .empty := by
        rw [ends_onData, ends_of_ok applied]
        exact spawned.commands
      change live.core.data.births.map Prod.snd ++
        ((onData Data.applyCommands).leaves live).core.data.commands.spawns = _
      rw [spawned.each, ends_leaves.mp emptied]
      rfl
  | iterate inputs outputs callback =>
      exact (ends_leaves.mp (iterate_queued sturdy.based inputs outputs callback)).2.spawns
  | queueSpawn blueprint => rfl
  | queueDespawn | addViewport | removeViewport | emplaceScalar | emplaceEntityComponent
  | emplaceViewportComponent | sendEvent | clearEvents | write | remember =>
      exact (aside rfl).trans (List.append_nil _).symm

/-- A built scene waits for what its setup jobs recorded. -/
theorem create_queued {registry : Registry} {jobs : List (Job μ)} {config : Config} {start built : Live μ}
    {scene : Scene μ} (created : create registry jobs config start = .ok (.ok scene) built) :
    scene.data.commands.spawns =
      (setupJoinings registry jobs config start).flatMap Joining.requests := by
  have queued := (create_tells (queued_carried registry .empty []) (fun data made => ?_) created).1
  · exact queued.spawns
  · obtain ⟨same, sound⟩ := Data.create_sound made
    rw [same] at sound ⊢
    exact ⟨⟨sound, rfl⟩, rfl, rfl⟩

end Steps

/-- Along every run whose requests can be applied, the blueprints that came to life, followed by the
requests that wait, are the requests that were recorded, in order. Each tick brings exactly the requests
that waited at its beginning to life, in order and with what they name; the pool of entities then stays as
it is until the end of the tick, so what the jobs of the tick record waits for the next one. -/
theorem spawn_requests_conserved {registry : Registry} {jobs : List (Job μ)} {config : Config}
    {start built : Live μ} {scene : Scene μ}
    (created : create registry jobs config start = .ok (.ok scene) built) (operations : List (Operation μ))
    (applies : ∀ step ∈ stepsOf operations ⟨built.journal, scene⟩, step.applies = true) :
    let steps := stepsOf operations ⟨built.journal, scene⟩
    (steps.flatMap Step.births).map Prod.snd ++
          (runAll operations ⟨built.journal, scene⟩).core.data.commands.spawns =
        (setupJoinings registry jobs config start).flatMap Joining.requests ++
          steps.flatMap Step.requests ∧
      ∀ step ∈ steps, ∀ delta, step.operation = .tick delta →
        let before := step.before.core.data
        let applied := (Data.applyCommands.leaves ⟨step.before.journal, before⟩).core
        before.Applied step.births applied ∧ step.after.core.data.entities = applied.entities ∧
          step.after.core.data.commands.spawns = step.requests := by
  have sturdy := create_steps_sturdy created operations
  intro steps
  refine ⟨?_, fun step member delta ticks => Step.tick_applies (sturdy step member) (applies step member) ticks⟩
  refine runAll_induct (fun done live => (done.flatMap Step.births).map Prod.snd ++ live.core.data.commands.spawns =
    (setupJoinings registry jobs config start).flatMap Joining.requests ++
      done.flatMap Step.requests) ?_ ?_
  · rw [create_queued created]
    exact (List.append_nil _).symm
  · intro done step member conserved
    have goes := Step.conserves (sturdy step member) (applies step member)
    rw [List.flatMap_append, List.flatMap_append, List.flatMap_singleton, List.flatMap_singleton,
      List.map_append, List.append_assoc, goes, ← List.append_assoc, conserved, List.append_assoc]

/-- Two ticks, with a request and a click before each. -/
def sampleTicks : List (Operation Unit) :=
  [.queueSpawn [(8, .uint32 1)], .sendEvent 6 (.uint32 1), .tick .zero,
   .queueSpawn [(9, .uint32 2)], .sendEvent 6 (.uint32 2), .tick .zero]

theorem spawn_requests_conserved_sample :
    let built := (create Sample.registry [Sample.recruits.job] .default).leaves ⟨{}, ()⟩
    let steps := stepsOf sampleTicks ⟨built.journal, Sample.barracks⟩
    let final := runAll sampleTicks ⟨built.journal, Sample.barracks⟩
    create Sample.registry [Sample.recruits.job] .default ⟨{}, ()⟩ = .ok (.ok Sample.barracks) built ∧
      (∀ step ∈ steps, step.applies = true) ∧
      steps.map (fun step => step.births.length) = [0, 0, 1, 0, 0, 2] ∧
      steps.map (fun step => step.requests.length) = [1, 0, 1, 1, 0, 1] ∧
      final.core.data.commands.spawns.length = 1 ∧
      (steps.flatMap Step.births).map Prod.snd ++ final.core.data.commands.spawns =
        (setupJoinings Sample.registry [Sample.recruits.job] .default ⟨{}, ()⟩).flatMap
            Joining.requests ++
          steps.flatMap Step.requests := by
  have applies : ∀ step ∈ stepsOf sampleTicks
      ⟨((create Sample.registry [Sample.recruits.job] .default).leaves ⟨{}, ()⟩).journal, Sample.barracks⟩,
      step.applies = true := by decide +kernel
  exact ⟨Sample.barracks_created, applies, by decide +kernel, by decide +kernel, by decide +kernel,
    (spawn_requests_conserved Sample.barracks_created sampleTicks applies).1⟩

end Scene

end EntityScene
