import EntityScene.Proofs.Registration
import EntityScene.Proofs.Requests

/-!
The game time. A scene adds the scaled delta of each tick that gets through its waiting requests to its
game time, and nothing else changes it. The times that the jobs of a tick read are published just before
the first job, over whatever was stored in their resources.
-/

namespace EntityScene

open Act

variable {μ α : Type}

/-- The game time after a tick with this delta. -/
def Config.advance (config : Config) (time delta : Single) : Single := time.add (delta.mul config.timeScale)

namespace Registry

theorem declare_get? {registry grown : Registry} {resources : List (String × Kind × Element)}
    (declared : registry.declare resources = .ok grown) {resource : ResourceId} {descriptor : Descriptor}
    (registered : registry.get? resource = some descriptor) : grown.get? resource = some descriptor :=
  get?_of_prefix (declare_extends declared) registered

/-- The resource is a scene component that takes every number. -/
def Times (registry : Registry) (resource : ResourceId) : Prop :=
  ∃ descriptor, registry.get? resource = some descriptor ∧ descriptor.kind = .sceneComponent ∧
    descriptor.element = .plain .single

theorem declare_times {registry : Registry} {resources : List (String × Kind × Element)}
    (declared : builtin.declare resources = .ok registry) :
    registry.Times deltaTime ∧ registry.Times gameTime :=
  ⟨⟨_, declare_get? declared rfl, rfl, rfl⟩, ⟨_, declare_get? declared rfl, rfl, rfl⟩⟩

end Registry

/-- A time can be published whatever is stored in its resource, and no other scene component changes. -/
theorem Data.publish_ends {registry : Registry} {resource : ResourceId} {live : Live (Data μ)}
    (based : SoundOver registry live.core) (times : registry.Times resource) (time : Single) :
    Ends (onStorage resource (Storage.onScalar fun descriptor => Scalar.emplace descriptor (.single time))) live
      fun outcome after => outcome = .ok () ∧ SoundOver registry after.core ∧
        after.core.scalar? resource = some (.single time) ∧
        ∀ other, other ≠ resource → after.core.scalar? other = live.core.scalar? other := by
  obtain ⟨descriptor, registered, kind, element⟩ := times
  rw [← based.registry] at registered
  obtain ⟨before, found, sound⟩ := based.sound.scalar registered kind
  have kept := Scene.write_soundOver resource (.emplaceScalar (.single time)) live based
  have written := (ends_onStorage found).mpr (emplaceScalar_ends found sound (.single time))
  refine (kept.and written).mono ?_
  rintro outcome after ⟨based', changed, written, same⟩
  rw [same]
  cases written with
  | refused mistyped =>
      rw [element] at mistyped
      exact absurd rfl mistyped
  | stopped typed stops =>
      rcases Descriptor.replacing_error stops with ⟨_, _, message, retains, _⟩ | ⟨message, declines, _⟩
      · rw [element] at retains
        cases retains
      · rw [element] at declines
        cases declines
  | stored =>
      rw [same] at based'
      refine ⟨rfl, based', ?_, fun other apart => ?_⟩
      · rw [scalar?_withCells found, if_pos rfl]
        rfl
      · rw [scalar?_withCells found, if_neg apart]

namespace Scene

/-- The scene differs from the frame at most in its data. -/
def Around (frame scene : Scene μ) : Prop := scene = { frame with data := scene.data }

theorem Around.times {frame scene : Scene μ} (around : Around frame scene) :
    scene.config = frame.config ∧ scene.gameTime = frame.gameTime := by
  rw [around]
  exact ⟨rfl, rfl⟩

theorem onData_around (frame : Scene μ) (act : Act (Data μ) α) : Keeps (Around frame) (onData act) := by
  intro live around
  rw [ends_onData]
  refine .of_forall fun _ after => ?_
  rw [Around, around]

/-- The operations other than ticks change nothing but the data. -/
theorem perform_around {operation : Operation μ} (stands : ∀ delta, operation ≠ .tick delta)
    (frame : Scene μ) : Keeps (Around frame) operation.perform := by
  have updates (change : Data μ → Data μ) :
      Keeps (Around frame) (Act.update fun scene => { scene with data := change scene.data }) :=
    .update fun scene around => by rw [Around, around]
  cases operation with
  | tick delta => exact absurd rfl (stands delta)
  | iterate inputs outputs callback =>
      refine .bind (.bind (onData_around frame _) fun answer => ?_) fun _ => .pure ()
      split
      · exact .pure _
      · exact .pure _
  | queueSpawn blueprint => exact updates fun data => { data with commands := data.commands.push _ }
  | queueDespawn entity => exact updates fun data => { data with commands := data.commands.push _ }
  | remember memory => exact updates fun data => { data with memory }
  | addViewport =>
      refine .bind (.bind_core fun _ _ => .bind (.ofExcept _) fun _ => ?_) fun _ => .pure ()
      exact .bind (updates fun data => { data with viewports := _ }) fun _ => .pure _
  | removeViewport viewport =>
      refine .bind (.bind_core fun _ _ => ?_) fun _ => .pure ()
      exact .bind (updates fun data => { data with viewports := _ }) fun _ => .pure _
  | emplaceEntityComponent resource identity value | emplaceViewportComponent resource identity value =>
      intro live around
      rcases emplaceIndexed_or _ resource identity value live with ⟨cause, refused⟩ | written
      · exact (ends_of_error refused).mpr around
      · exact (ends_congr written).mpr (onData_around frame _ live around)
  | emplaceScalar | sendEvent | clearEvents | write | applyCommands => exact onData_around frame _

/-- The jobs of a tick and its end change nothing but the data. -/
theorem closing_around (frame : Scene μ) : Keeps (Around frame) closing :=
  .bind_core fun _ _ => .bind (onData_around frame _) fun _ => onData_around frame _

/-- The scene with the delta of a tick in its game time. -/
def advanced (scene : Scene μ) (delta : Single) : Scene μ :=
  { scene with gameTime := scene.config.advance scene.gameTime delta }

/-- The delta and the game time can be read from their resources. -/
structure Published (delta time : Single) (data : Data μ) : Prop where
  delta : data.scalar? Registry.deltaTime = some (.single delta)
  time : data.scalar? Registry.gameTime = some (.single time)

section Ticks

variable {registry : Registry} {resources : List (String × Kind × Element)}
  (declared : Registry.builtin.declare resources = .ok registry)

include declared

/-- Before the jobs of a tick the game time advances and the times are published, unless the waiting
requests cannot be applied. -/
theorem opening_publishes (live : Live (Scene μ)) (based : Data.SoundOver registry live.core.data)
    (journal : Journal) (delta : Single) :
    Ends (opening delta) live fun outcome after =>
      outcome.isOk = (Data.applyCommands.fault? ⟨journal, live.core.data⟩).isNone ∧
        match outcome with
        | .ok _ => Around (live.core.advanced delta) after.core ∧
            Published delta (live.core.advanced delta).gameTime after.core.data
        | .error _ => Around live.core after.core := by
  obtain ⟨deltaTimes, gameTimes⟩ := Registry.declare_times declared
  unfold opening
  rw [ends_bind, ends_log, continues_ok, ends_bind, ends_onData]
  have outcomes (other : Journal) := (Data.applyCommands_uniform.blind ⟨journal, live.core.data⟩
    ⟨other, live.core.data⟩ rfl).ends (ends_isOk _ _)
  refine ((outcomes _).and (Data.applyCommands_soundOver registry ⟨_, live.core.data⟩ based)).mono ?_
  rintro outcome applied ⟨same, based⟩
  cases outcome with
  | error cause => exact ⟨same, rfl⟩
  | ok _ =>
      rw [continues_ok, ends_bind, ends_update, continues_ok, ends_bind]
      unfold emplaceScalar
      rw [ends_onData]
      refine Ends.mono (Data.publish_ends based deltaTimes delta) ?_
      rintro _ first ⟨rfl, based, published, _⟩
      rw [continues_ok, ends_bind, ends_core, continues_ok, ends_onData]
      refine Ends.mono (Data.publish_ends based gameTimes _) ?_
      rintro _ second ⟨rfl, based, published', others⟩
      refine ⟨same, rfl, ?_, published'⟩
      exact (others _ (by decide)).trans published

/-- A tick whose waiting requests cannot be applied leaves the game time alone and starts no job. -/
theorem tick_stands {live : Live (Scene μ)} (based : Data.SoundOver registry live.core.data)
    (refused : (Data.applyCommands.fault? ⟨live.journal, live.core.data⟩).isNone = false) (delta : Single) :
    tickJoinings delta live = [] ∧ Ends (tick delta) live fun _ after => Around live.core after.core := by
  have opens := opening_publishes declared (live.within "Scene::tick") based live.journal delta
  rw [ends_congr (tick_eq delta live), ends_span, ends_bind]
  change _ ∧ Ends (opening delta) (live.within "Scene::tick") _
  unfold tickJoinings
  cases opened : opening delta (live.within "Scene::tick") with
  | error cause after =>
      rw [ends_of_error opened] at opens ⊢
      exact ⟨rfl, opens.2⟩
  | ok _ after =>
      rw [ends_of_ok opened] at opens
      exact nomatch opens.1.trans refused

/-- A tick whose waiting requests can be applied advances the game time once, and its first job finds the
times of the tick. -/
theorem tick_advances {live : Live (Scene μ)} (based : Data.SoundOver registry live.core.data)
    (applies : (Data.applyCommands.fault? ⟨live.journal, live.core.data⟩).isNone = true) (delta : Single) :
    (Ends (tick delta) live fun _ after => Around (live.core.advanced delta) after.core) ∧
      ∀ first rest, live.core.updates.jobs = first :: rest → ∃ joining later,
        tickJoinings delta live = joining :: later ∧ joining.plan = first.plan ∧
          joining.callback = first.job.callback ∧
          Published delta (live.core.advanced delta).gameTime joining.start.core := by
  have opens := opening_publishes declared (live.within "Scene::tick") based live.journal delta
  rw [ends_congr (tick_eq delta live), ends_span, ends_bind]
  change Ends (opening delta) (live.within "Scene::tick") _ ∧ _
  unfold tickJoinings
  cases opened : opening delta (live.within "Scene::tick") with
  | error cause after =>
      rw [ends_of_error opened] at opens
      exact nomatch opens.1.trans applies
  | ok _ after =>
      rw [ends_of_ok opened] at opens ⊢
      obtain ⟨_, around, published⟩ := opens
      refine ⟨closing_around _ after around, fun first rest jobs => ?_⟩
      have same : after.core.updates.jobs = first :: rest := by
        rw [around]
        exact jobs
      unfold Schedule.joinings
      dsimp only
      rw [same]
      exact ⟨_, _, rfl, rfl, rfl, published⟩

end Ticks

namespace Step

/-- The delta of a tick that gets through its waiting requests. -/
def delta? (step : Step μ) : Option Single :=
  match step.operation with
  | .tick delta => if step.applies then some delta else none
  | _ => none

/-- Only ticks that get through their waiting requests change the game time, and the configuration stays. -/
theorem time_after {registry : Registry} {resources : List (String × Kind × Element)}
    (declared : Registry.builtin.declare resources = .ok registry) {step : Step μ}
    (sturdy : Sturdy registry step.before.core) :
    step.after.core.config = step.before.core.config ∧
      step.after.core.gameTime =
        step.delta?.toList.foldl step.before.core.config.advance step.before.core.gameTime := by
  obtain ⟨operation, live⟩ := step
  by_cases ticks : ∃ delta, operation = .tick delta
  · obtain ⟨delta, rfl⟩ := ticks
    cases applies : applies ⟨.tick delta, live⟩ with
    | false =>
        have around := ends_leaves.mp (tick_stands declared sturdy.based applies delta).2
        have nothing : delta? ⟨.tick delta, live⟩ = none := by simp only [delta?, applies]; rfl
        rw [nothing]
        exact around.times
    | true =>
        have around := ends_leaves.mp (tick_advances declared sturdy.based applies delta).1
        have counted : delta? ⟨.tick delta, live⟩ = some delta := by simp only [delta?, applies, if_true]
        rw [counted]
        exact around.times
  · have stands (delta : Single) : operation ≠ .tick delta := fun same => ticks ⟨delta, same⟩
    have around := ends_leaves.mp (perform_around stands live.core live rfl)
    have nothing : delta? ⟨operation, live⟩ = none := by
      cases operation <;> first | rfl | exact absurd rfl (stands _)
    rw [nothing]
    exact around.times

/-- What a tick does to the game time, and what its first job finds. -/
theorem tick_times {registry : Registry} {resources : List (String × Kind × Element)}
    (declared : Registry.builtin.declare resources = .ok registry) {step : Step μ}
    (sturdy : Sturdy registry step.before.core) {delta : Single} (ticks : step.operation = .tick delta) :
    let time := step.before.core.config.advance step.before.core.gameTime delta
    if step.applies then
      step.after.core.gameTime = time ∧
        ∀ first rest, step.before.core.updates.jobs = first :: rest → ∃ joining later,
          step.joinings = joining :: later ∧ joining.plan = first.plan ∧
            joining.callback = first.job.callback ∧ Published delta time joining.start.core
    else step.joinings = [] ∧ step.after.core.gameTime = step.before.core.gameTime := by
  obtain ⟨operation, live⟩ := step
  subst ticks
  cases applies : applies ⟨.tick delta, live⟩ with
  | false =>
      obtain ⟨nothing, ends⟩ := tick_stands declared sturdy.based applies delta
      exact ⟨nothing, (Around.times (ends_leaves.mp ends)).2⟩
  | true =>
      obtain ⟨ends, first⟩ := tick_advances declared sturdy.based applies delta
      exact ⟨(Around.times (ends_leaves.mp ends)).2, first⟩

end Step

/-- The game time after the steps of a run that began at `live`; the configuration stays as it is. -/
structure Timed (live : Live (Scene μ)) (done : List (Step μ)) (now : Live (Scene μ)) : Prop where
  config : now.core.config = live.core.config
  time : now.core.gameTime =
    (done.filterMap Step.delta?).foldl live.core.config.advance live.core.gameTime
  before : ∀ step ∈ done, step.before.core.config = live.core.config

theorem runAll_times {registry : Registry} {resources : List (String × Kind × Element)}
    (declared : Registry.builtin.declare resources = .ok registry) (operations : List (Operation μ))
    (live : Live (Scene μ)) (sturdy : Sturdy registry live.core) :
    Timed live (stepsOf operations live) (runAll operations live) := by
  apply runAll_induct (Timed live) ⟨rfl, rfl, by simp⟩
  intro done step member timed
  obtain ⟨config, time⟩ := Step.time_after declared (stepsOf_sturdy sturdy step member)
  constructor
  · exact config.trans timed.config
  · rw [time, timed.config, timed.time, List.filterMap_append, List.foldl_append]
    cases counted : step.delta? <;> simp [counted]
  · intro other later
    rcases List.mem_append.mp later with earlier | last
    · exact timed.before other earlier
    · rw [List.mem_singleton.mp last]
      exact timed.config

theorem create_times {registry : Registry} {jobs : List (Job μ)} {config : Config} {start built : Live μ}
    {scene : Scene μ} (created : create registry jobs config start = .ok (.ok scene) built) :
    scene.config = config ∧ scene.gameTime = .zero := by
  rw [create_eq] at created
  obtain ⟨result, prepared, _, created⟩ := bind_eq_ok created
  cases result with
  | error cause => cases created
  | ok parts =>
      obtain ⟨left, between, _, ended⟩ := bind_eq_ok created
      cases ended
      exact ⟨rfl, rfl⟩

/-- In every run the game time is the sum of the scaled deltas, in order and in single precision, of the
ticks that got through their waiting requests, also of those that ended in a fault later. When the first
job of such a tick begins, it finds the delta and the new game time in their resources; a tick that did not
get through its requests begins no job. -/
theorem game_time_sums_deltas {registry : Registry} {resources : List (String × Kind × Element)}
    (declared : Registry.builtin.declare resources = .ok registry) {jobs : List (Job μ)} {config : Config}
    {start built : Live μ} {scene : Scene μ}
    (created : create registry jobs config start = .ok (.ok scene) built) (operations : List (Operation μ)) :
    let steps := stepsOf operations ⟨built.journal, scene⟩
    (runAll operations ⟨built.journal, scene⟩).core.gameTime =
        (steps.filterMap Step.delta?).foldl (fun time delta => time.add (delta.mul config.timeScale)) .zero ∧
      ∀ step ∈ steps, ∀ delta, step.operation = .tick delta →
        if step.applies then
          step.after.core.gameTime = step.before.core.gameTime.add (delta.mul config.timeScale) ∧
            ∀ first rest, step.before.core.updates.jobs = first :: rest → ∃ joining later,
              step.joinings = joining :: later ∧ joining.plan = first.plan ∧
                joining.callback = first.job.callback ∧
                joining.start.core.scalar? Registry.deltaTime = some (.single delta) ∧
                joining.start.core.scalar? Registry.gameTime = some (.single step.after.core.gameTime)
        else step.joinings = [] ∧ step.after.core.gameTime = step.before.core.gameTime := by
  have sturdy := create_sturdy created
  obtain ⟨sameConfig, zero⟩ := create_times created
  intro steps
  obtain ⟨_, time, configs⟩ := runAll_times declared operations ⟨built.journal, scene⟩ sturdy
  rw [← sameConfig]
  refine ⟨?_, fun step member delta ticks => ?_⟩
  · rw [← zero]
    exact time
  · have times := Step.tick_times declared (stepsOf_sturdy sturdy step member) ticks
    rw [configs step member] at times
    split at times
    · rename_i applies
      rw [if_pos applies]
      refine ⟨times.1, fun first rest jobs => ?_⟩
      obtain ⟨joining, later, joinings, plan, callback, published⟩ := times.2 first rest jobs
      exact ⟨joining, later, joinings, plan, callback, published.delta, times.1 ▸ published.time⟩
    · rename_i refused
      rw [if_neg refused]
      exact times

/-- Overwrites the published times. -/
def sampleMeddler : PlannedJob Unit where
  job :=
    { name := "meddle", kind := .update, inputs := [], outputs := [0, 1]
      callback _ := do
        (Request.set 0 (.single ⟨0x40000000⟩)).send
        (Request.set 1 (.single ⟨0x40000000⟩)).send
        pure true }
  plan := ⟨[], [(0, .sceneComponent), (1, .sceneComponent)], none, false, false⟩

def sampleClockwork : Scene Unit :=
  ⟨⟨.builtin, Registry.builtin.descriptors.map Storage.ofDescriptor, .empty, .empty, .empty, ()⟩,
    ⟨.update, [sampleMeddler]⟩, .default, .zero⟩

/-- A tick of a second, one that cannot apply its requests, a write to the game time and a tick of two
seconds. -/
def sampleBeats : List (Operation Unit) :=
  [.tick ⟨0x3f800000⟩, .queueSpawn [(0, .unit)], .tick ⟨0x3f800000⟩, .emplaceScalar 1 (.single ⟨0x3f800000⟩),
   .tick ⟨0x40000000⟩]

theorem sampleClockwork_created : create .builtin [sampleMeddler.job] .default ⟨{}, ()⟩ =
    .ok (.ok sampleClockwork) ((create .builtin [sampleMeddler.job] .default).leaves ⟨{}, ()⟩) := rfl

theorem game_time_sums_deltas_sample :
    let built := (create .builtin [sampleMeddler.job] .default).leaves ⟨{}, ()⟩
    let steps := stepsOf sampleBeats ⟨built.journal, sampleClockwork⟩
    Registry.builtin.declare [] = .ok .builtin ∧
      create .builtin [sampleMeddler.job] .default ⟨{}, ()⟩ = .ok (.ok sampleClockwork) built ∧
      steps.map (fun step => step.joinings.length) = [1, 0, 0, 0, 1] ∧
      steps.filterMap Step.delta? = [⟨0x3f800000⟩, ⟨0x40000000⟩] ∧
      (runAll sampleBeats ⟨built.journal, sampleClockwork⟩).core.gameTime =
        (Single.zero.add (Single.mul ⟨0x3f800000⟩ ⟨0x3a83126f⟩)).add (Single.mul ⟨0x40000000⟩ ⟨0x3a83126f⟩) := by
  have counted : (stepsOf sampleBeats
      ⟨((create .builtin [sampleMeddler.job] .default).leaves ⟨{}, ()⟩).journal, sampleClockwork⟩).filterMap
        Step.delta? = [⟨0x3f800000⟩, ⟨0x40000000⟩] := by decide +kernel
  have declared : Registry.builtin.declare [] = .ok .builtin := rfl
  have sums := (game_time_sums_deltas declared sampleClockwork_created sampleBeats).1
  rw [counted] at sums
  exact ⟨declared, sampleClockwork_created, by decide +kernel, counted, sums⟩

end Scene

end EntityScene
