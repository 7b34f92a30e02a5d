import EntityScene.Proofs.Run

/-!
The joins of a run of a scene. Setup jobs, the update jobs of a tick and joins of their own all run plans;
each such join is noted with the state in which it began, and the operations of a run are noted with the
states in which they were performed. What is said of the joins so far is carried from join to join, and
what is said of the steps so far from step to step.
-/

namespace EntityScene

open Act

variable {σ μ : Type}

/-- A join that was made, with the state in which it began. -/
structure Joining (μ : Type) where
  plan : Plan
  callback : Callback μ
  start : Live (Data μ)

/-- The calls of the join. -/
def Joining.calls (joining : Joining μ) : List Join.Call :=
  Join.calls joining.plan joining.callback joining.start

/-- The state inside a span that is entered here. -/
def Live.within (live : Live σ) (name : String) : Live σ :=
  { live with journal.recorder := (live.journal.recorder.enter live.journal.thread name).2 }

/-- What the joins so far say of the ledger and the data. -/
abbrev Story (μ : Type) := List (Joining μ) → List LedgerEntry → Data μ → Prop

/-- The story goes on over every join of an accepted plan, however the join ends. -/
structure Story.Carried (registry : Registry) (story : Story μ) : Prop where
  run {reads writes : List ResourceId} {plan : Plan} (callback : Callback μ) {made : List (Joining μ)}
    {live : Live (Data μ)} : Plan.make registry reads writes = .ok plan →
    story made live.journal.ledger live.core →
      Ends (Join.run plan callback) live fun _ after =>
        story (made ++ [⟨plan, callback, live⟩]) after.journal.ledger after.core

/-- A story that goes on goes on after the joins that were made. -/
theorem Story.Carried.shift {registry : Registry} {story : Story μ} (carried : story.Carried registry)
    (made : List (Joining μ)) : Story.Carried registry fun later => story (made ++ later) where
  run callback _ _ accepted told := by
    simp only [← List.append_assoc]
    exact carried.run callback accepted told

namespace Schedule

/-- The joins of jobs that run in turn, up to the first fault. -/
def joiningsOf (kind : JobKind) : List (PlannedJob μ) → Live (Data μ) → List (Joining μ)
  | [], _ => []
  | planned :: rest, live =>
    ⟨planned.plan, planned.job.callback, live.within planned.job.name⟩ ::
      match runJob kind planned live with
      | .ok _ after => joiningsOf kind rest after
      | .error _ _ => []

/-- The joins of the schedule. -/
def joinings (schedule : Schedule μ) (live : Live (Data μ)) : List (Joining μ) :=
  joiningsOf schedule.kind schedule.jobs live

/-- A job is a join as far as the ledger and the data are concerned. -/
theorem runJob_ends {condition : List LedgerEntry → Data μ → Prop} {kind : JobKind} {planned : PlannedJob μ}
    {live : Live (Data μ)}
    (ends : Ends (Join.run planned.plan planned.job.callback) (live.within planned.job.name) fun _ after =>
      condition after.journal.ledger after.core) :
    Ends (runJob kind planned) live fun _ after => condition after.journal.ledger after.core := by
  unfold runJob
  rw [ends_span, ends_bind]
  refine ends.mono ?_
  intro outcome after holds
  cases outcome with
  | error cause => exact holds
  | ok completed => cases completed <;> exact holds

/-- The joins are those of the jobs in their order, and of all jobs if none ends in a fault. -/
theorem runJobs_plans (kind : JobKind) (jobs : List (PlannedJob μ)) (live : Live (Data μ)) :
    Ends (runJobs kind jobs) live fun outcome _ =>
      (joiningsOf kind jobs live).map Joining.plan <+: jobs.map PlannedJob.plan ∧
        (outcome = .ok () → (joiningsOf kind jobs live).map Joining.plan = jobs.map PlannedJob.plan) := by
  induction jobs generalizing live with
  | nil => exact ⟨List.prefix_refl _, fun _ => rfl⟩
  | cons planned rest ih =>
      unfold runJobs joiningsOf
      rw [ends_bind]
      cases ended : runJob kind planned live with
      | error cause after =>
          rw [ends_of_error ended]
          exact ⟨(List.prefix_cons_inj _).mpr List.nil_prefix, by rintro ⟨⟩⟩
      | ok answer after =>
          rw [ends_of_ok ended, continues_ok]
          refine (ih after).mono ?_
          rintro outcome _ ⟨first, all⟩
          exact ⟨(List.prefix_cons_inj _).mpr first, fun ok => congrArg (planned.plan :: ·) (all ok)⟩

section Stories

variable {registry : Registry} {story : Story μ} (carried : story.Carried registry)

include carried

theorem runJobs_tells (kind : JobKind) {jobs : List (PlannedJob μ)}
    (accepted : ∀ planned ∈ jobs, planned.Accepted registry) {made : List (Joining μ)} {live : Live (Data μ)}
    (told : story made live.journal.ledger live.core) :
    Ends (runJobs kind jobs) live fun _ after =>
      story (made ++ joiningsOf kind jobs live) after.journal.ledger after.core := by
  induction jobs generalizing made live with
  | nil =>
      rw [joiningsOf, List.append_nil]
      exact told
  | cons planned rest ih =>
      have first : Ends (runJob kind planned) live fun _ after =>
          story (made ++ [⟨planned.plan, planned.job.callback, live.within planned.job.name⟩])
            after.journal.ledger after.core :=
        runJob_ends (carried.run planned.job.callback (accepted planned List.mem_cons_self) told)
      unfold runJobs joiningsOf
      rw [ends_bind, List.append_cons]
      cases ended : runJob kind planned live with
      | error cause after =>
          rw [ends_of_error ended] at first ⊢
          rw [continues_error, List.append_nil]
          exact first
      | ok answer after =>
          rw [ends_of_ok ended] at first ⊢
          exact ih (fun other member => accepted other (List.mem_cons_of_mem _ member)) first

/-- A story goes on over the jobs of a schedule. -/
theorem run_tells {schedule : Schedule μ} (accepted : ∀ planned ∈ schedule.jobs, planned.Accepted registry)
    {made : List (Joining μ)} {live : Live (Data μ)} (told : story made live.journal.ledger live.core) :
    Ends schedule.run live fun _ after =>
      story (made ++ schedule.joinings live) after.journal.ledger after.core :=
  runJobs_tells carried schedule.kind accepted told

end Stories

end Schedule

namespace Scene

section Ticks

/-- The part of a tick that comes before its jobs. -/
def opening (delta : Single) : Act (Scene μ) Unit := do
  Act.log .trace ("tick: delta_time = " ++ delta.text)
  onData Data.applyCommands
  Act.update fun scene =>
    { scene with gameTime := scene.gameTime.add (delta.mul scene.config.timeScale) }
  emplaceScalar Registry.deltaTime (.single delta)
  emplaceScalar Registry.gameTime (.single (← Act.core).gameTime)

/-- The part of a tick from its jobs on. -/
def closing : Act (Scene μ) Unit := do
  onData (← Act.core).updates.run
  onData Data.endTick

theorem tick_eq (delta : Single) (live : Live (Scene μ)) :
    tick delta live =
      Act.span "Scene::tick" [("entities", .unsigned live.core.data.entities.count.toUInt64)]
        (opening delta >>= fun _ => closing) live := by
  unfold opening
  simp only [bind_assoc]
  rfl

/-- The joins of the update jobs of a tick. -/
def tickJoinings (delta : Single) (live : Live (Scene μ)) : List (Joining μ) :=
  match opening delta (live.within "Scene::tick") with
  | .ok _ opened => opened.core.updates.joinings ⟨opened.journal, opened.core.data⟩
  | .error _ _ => []

/-- What may be said of a tick: the story begins when the waiting requests have been applied and goes on
over the publishing of the times and over the jobs; a fault on the way and the end of the tick both lead
to a conclusion. -/
structure Tells (registry : Registry) (live : Live (Scene μ)) (story : Story μ)
    (conclusion : Except Fault Unit → Story μ) : Prop where
  carried : story.Carried registry
  applies (journal : Journal) : journal.ledger = live.journal.ledger →
    Ends Data.applyCommands ⟨journal, live.core.data⟩ fun outcome after =>
      match outcome with
      | .ok _ => story [] after.journal.ledger after.core
      | .error cause => conclusion (.error cause) [] after.journal.ledger after.core
  scalars (resource : ResourceId) (value : Value) {live : Live (Data μ)} :
    story [] live.journal.ledger live.core →
      Ends (Data.onStorage resource (Storage.onScalar fun descriptor => Scalar.emplace descriptor value)) live
        fun _ after => story [] after.journal.ledger after.core
  breaks {made : List (Joining μ)} {ledger : List LedgerEntry} {data : Data μ} (cause : Fault) :
    story made ledger data → conclusion (.error cause) made ledger data
  closes {made : List (Joining μ)} {live : Live (Data μ)} : story made live.journal.ledger live.core →
    Ends Data.endTick live fun outcome after => conclusion outcome made after.journal.ledger after.core

section Tells

variable {registry : Registry} {live : Live (Scene μ)} {story : Story μ}
  {conclusion : Except Fault Unit → Story μ} (tells : Tells registry live story conclusion)

include tells

theorem Tells.opening (delta : Single) :
    Ends (opening delta) (live.within "Scene::tick") fun outcome after =>
      after.core.updates = live.core.updates ∧
        match outcome with
        | .ok _ => story [] after.journal.ledger after.core.data
        | .error cause => conclusion (.error cause) [] after.journal.ledger after.core.data := by
  have publishes (resource : ResourceId) (value : Value) {scene : Live (Scene μ)}
      (told : story [] scene.journal.ledger scene.core.data) :
      Ends (emplaceScalar resource value) scene fun _ after =>
        after.core.updates = scene.core.updates ∧ story [] after.journal.ledger after.core.data := by
    unfold emplaceScalar
    rw [ends_onData]
    have told' : story [] (Live.journal ⟨scene.journal, scene.core.data⟩).ledger
        (Live.core ⟨scene.journal, scene.core.data⟩) := told
    exact (tells.scalars resource value told').mono fun _ _ kept => ⟨rfl, kept⟩
  unfold Scene.opening
  rw [ends_bind, ends_log, continues_ok, ends_bind, ends_onData]
  refine Ends.mono (tells.applies _ ?_) ?_
  · rfl
  intro outcome applied told
  cases outcome with
  | error cause => exact ⟨rfl, told⟩
  | ok _ =>
      rw [continues_ok, ends_bind, ends_update, continues_ok, ends_bind]
      refine (publishes _ _ told).mono ?_
      rintro outcome first ⟨same, told⟩
      cases outcome with
      | error cause => exact ⟨same, tells.breaks cause told⟩
      | ok _ =>
          rw [continues_ok, ends_bind, ends_core, continues_ok]
          refine (publishes _ _ told).mono ?_
          rintro outcome second ⟨same', told⟩
          cases outcome with
          | error cause => exact ⟨same'.trans same, tells.breaks cause told⟩
          | ok _ => exact ⟨same'.trans same, told⟩

/-- A tick leads to the conclusion, with the joins of its jobs. -/
theorem Tells.tick (accepted : ∀ planned ∈ live.core.updates.jobs, planned.Accepted registry) (delta : Single) :
    Ends (tick delta) live fun outcome after =>
      after.core.updates = live.core.updates ∧
        conclusion outcome (tickJoinings delta live) after.journal.ledger after.core.data := by
  have opens := tells.opening delta
  rw [ends_congr (tick_eq delta live), ends_span, ends_bind]
  change Ends (Scene.opening delta) (live.within "Scene::tick") _
  unfold tickJoinings
  cases opened : Scene.opening delta (live.within "Scene::tick") with
  | error cause after =>
      rw [ends_of_error opened] at opens ⊢
      exact opens
  | ok _ after =>
      rw [ends_of_ok opened] at opens ⊢
      obtain ⟨same, told⟩ := opens
      rw [continues_ok]
      unfold closing
      rw [ends_bind, ends_core, continues_ok, ends_bind, ends_onData]
      have told' : story [] (Live.journal ⟨after.journal, after.core.data⟩).ledger
          (Live.core ⟨after.journal, after.core.data⟩) := told
      rw [← same] at accepted
      refine (Schedule.run_tells tells.carried accepted told').mono ?_
      intro outcome final told
      rw [List.nil_append] at told
      cases outcome with
      | error cause => exact ⟨same, tells.breaks cause told⟩
      | ok _ =>
          rw [continues_ok, ends_onData]
          exact (tells.closes told).mono fun _ _ ended => ⟨same, ended⟩

end Tells

/-- The joins of a tick are those of its update jobs in their order, and of all of them if the tick
completes. -/
theorem tick_plans (delta : Single) (live : Live (Scene μ)) :
    Ends (tick delta) live fun outcome _ =>
      (tickJoinings delta live).map Joining.plan <+: live.core.updates.jobs.map PlannedJob.plan ∧
        (outcome = .ok () →
          (tickJoinings delta live).map Joining.plan = live.core.updates.jobs.map PlannedJob.plan) := by
  have tells : Tells .builtin live (fun _ _ _ => True) (fun _ _ _ _ => True) :=
    { carried := ⟨fun _ _ _ _ _ => .of_forall fun _ _ => trivial⟩
      applies := fun _ _ => .of_forall fun outcome _ => by cases outcome <;> trivial
      scalars := fun _ _ _ _ => .of_forall fun _ _ => trivial
      breaks := fun _ _ => trivial
      closes := fun _ => .of_forall fun _ _ => trivial }
  have opens := tells.opening delta
  rw [ends_congr (tick_eq delta live), ends_span, ends_bind]
  change Ends (Scene.opening delta) (live.within "Scene::tick") _
  unfold tickJoinings
  cases opened : Scene.opening delta (live.within "Scene::tick") with
  | error cause after =>
      rw [ends_of_error opened]
      exact ⟨List.nil_prefix, by rintro ⟨⟩⟩
  | ok _ after =>
      rw [ends_of_ok opened] at opens ⊢
      rw [continues_ok, ← opens.1]
      unfold closing
      rw [ends_bind, ends_core, continues_ok, ends_bind, ends_onData]
      refine (Schedule.runJobs_plans after.core.updates.kind after.core.updates.jobs _).mono ?_
      rintro outcome final ⟨first, all⟩
      cases outcome with
      | error cause => exact ⟨first, by rintro ⟨⟩⟩
      | ok _ =>
          rw [continues_ok]
          exact .of_forall fun _ _ => ⟨first, fun _ => all rfl⟩

end Ticks

section Building

variable {registry : Registry} {jobs : List (Job μ)} {config : Config} {start built : Live μ}
  {scene : Scene μ}

/-- The part of building a scene that comes before its setup jobs: the setup jobs, the update jobs and new
data. -/
def prepare (registry : Registry) (jobs : List (Job μ)) (config : Config) :
    Act μ (Except SceneError (Schedule μ × Schedule μ × Data μ)) := do
  match config.validate with
  | .error cause => pure (.error (.config cause))
  | .ok _ =>
    match Schedule.partition registry jobs with
    | .error cause => pure (.error cause)
    | .ok (setup, updates) =>
      let data ← Act.ofExcept
        (Data.create registry config.entityCapacity config.viewportCapacity (← Act.core))
      let resources := registry.size
      let setups := setup.size
      let updating := updates.size
      Act.log .info
        s!"scene created with {resources} resources, {setups} setup and {updating} update jobs"
      pure (.ok (setup, updates, data))

/-- Runs the setup jobs on what was prepared. -/
def complete (config : Config) :
    Except SceneError (Schedule μ × Schedule μ × Data μ) → Act μ (Except SceneError (Scene μ))
  | .error cause => pure (.error cause)
  | .ok (setup, updates, data) => do
    let data ← setUp setup data
    pure (.ok ⟨data, updates, config, .zero⟩)

theorem create_eq (registry : Registry) (jobs : List (Job μ)) (config : Config) :
    create registry jobs config = prepare registry jobs config >>= complete config := by
  unfold create prepare
  cases config.validate with
  | error cause => rfl
  | ok _ =>
      cases Schedule.partition registry jobs with
      | error cause => rfl
      | ok parted => simp only [bind_assoc, pure_bind, complete]

/-- The joins of the setup jobs. -/
def setupJoinings (registry : Registry) (jobs : List (Job μ)) (config : Config) (start : Live μ) :
    List (Joining μ) :=
  match prepare registry jobs config start with
  | .ok (.ok (setup, _, data)) prepared => setup.joinings ⟨prepared.journal, data⟩
  | _ => []

/-- What was prepared comes from the jobs and the configuration, and nothing was written. -/
theorem prepare_eq_ok {setup updates : Schedule μ} {data : Data μ} {prepared : Live μ}
    (ended : prepare registry jobs config start = .ok (.ok (setup, updates, data)) prepared) :
    Schedule.partition registry jobs = .ok (setup, updates) ∧
      Data.create registry config.entityCapacity config.viewportCapacity start.core = .ok data ∧
      prepared.journal.ledger = start.journal.ledger := by
  have ends : Ends (prepare registry jobs config) start fun outcome final => ∀ setup updates data,
      outcome = .ok (.ok (setup, updates, data)) → Schedule.partition registry jobs = .ok (setup, updates) ∧
        Data.create registry config.entityCapacity config.viewportCapacity start.core = .ok data ∧
        final.journal.ledger = start.journal.ledger := by
    unfold prepare
    split
    · exact fun _ _ _ never => nomatch never
    · split
      · exact fun _ _ _ never => nomatch never
      · rename_i setup updates parted
        rw [ends_bind, ends_core, continues_ok, ends_bind, ends_ofExcept]
        cases made : Data.create registry config.entityCapacity config.viewportCapacity start.core with
        | error cause => exact fun _ _ _ never => nomatch never
        | ok data =>
            rintro _ _ _ ⟨⟩
            exact ⟨parted, rfl, rfl⟩
  exact (ends_of_ok ended).mp ends setup updates data rfl

/-- A scene is built by running the setup jobs on what was prepared. -/
theorem create_eq_ok (created : create registry jobs config start = .ok (.ok scene) built) :
    ∃ setup data prepared after,
      prepare registry jobs config start = .ok (.ok (setup, scene.updates, data)) prepared ∧
        setup.run ⟨prepared.journal, data⟩ = .ok () after ∧
        built.journal = after.journal ∧ scene.data = after.core := by
  rw [create_eq] at created
  obtain ⟨result, prepared, begun, created⟩ := bind_eq_ok created
  cases result with
  | error cause => cases created
  | ok parts =>
      obtain ⟨setup, updates, data⟩ := parts
      obtain ⟨left, between, ran, ended⟩ := bind_eq_ok created
      cases ended
      have ends : Ends (setUp setup data) prepared fun outcome final => ∀ data', outcome = .ok data' →
          ∃ after, setup.run ⟨prepared.journal, data⟩ = .ok () after ∧ final.journal = after.journal ∧
            data' = after.core := by
        unfold setUp
        rw [ends_focus, ends_bind, ends_attempt]
        cases runs : setup.run ⟨prepared.journal, data⟩ with
        | ok answer after =>
            rw [ends_of_ok runs, continues_ok]
            rintro _ ⟨⟩
            exact ⟨after, rfl, rfl, rfl⟩
        | error cause after =>
            rw [ends_of_error runs, continues_ok, ends_fault_ensuring]
            exact Ends.of_forall fun _ _ _ never => nomatch never
      obtain ⟨after, runs, journal, same⟩ := (ends_of_ok ran).mp ends left rfl
      exact ⟨setup, data, prepared, after, begun, runs, journal, same⟩

/-- A story that begins with new data goes on over the setup jobs, and the update jobs are planned. -/
theorem create_tells {story : Story μ} (carried : story.Carried registry)
    (begun : ∀ data,
      Data.create registry config.entityCapacity config.viewportCapacity start.core = .ok data →
        story [] start.journal.ledger data)
    (created : create registry jobs config start = .ok (.ok scene) built) :
    story (setupJoinings registry jobs config start) built.journal.ledger scene.data ∧
      ∀ planned ∈ scene.updates.jobs, planned.Accepted registry := by
  obtain ⟨setup, data, prepared, after, ended, runs, journal, same⟩ := create_eq_ok created
  obtain ⟨parted, made, ledger⟩ := prepare_eq_ok ended
  obtain ⟨setupAccepted, updatesAccepted⟩ := Schedule.partition_accepted parted
  have told : story [] (Live.journal ⟨prepared.journal, data⟩).ledger
      (Live.core ⟨prepared.journal, data⟩) := by
    rw [ledger]
    exact begun data made
  have final := (ends_of_ok runs).mp (Schedule.run_tells carried setupAccepted told)
  refine ⟨?_, updatesAccepted⟩
  unfold setupJoinings
  rw [ended, journal, same]
  exact final

theorem prepare_ledger (registry : Registry) (jobs : List (Job μ)) (config : Config) (start : Live μ) :
    Ends (prepare registry jobs config) start fun _ after =>
      after.journal.ledger = start.journal.ledger := by
  unfold prepare
  split
  · rfl
  · split
    · rfl
    · rw [ends_bind, ends_core, continues_ok, ends_bind, ends_ofExcept]
      cases Data.create registry config.entityCapacity config.viewportCapacity start.core <;> rfl

/-- If a scene is not built because of a fault, the story ends with the release of the data. -/
theorem create_faults {story : Story μ} (conclusion : List (Joining μ) → List LedgerEntry → Prop)
    (carried : story.Carried registry)
    (begun : ∀ data,
      Data.create registry config.entityCapacity config.viewportCapacity start.core = .ok data →
        story [] start.journal.ledger data)
    (nothing : conclusion [] start.journal.ledger)
    (released : ∀ {made : List (Joining μ)} {live : Live (Data μ)}, story made live.journal.ledger live.core →
      Ends Data.release live fun _ after => conclusion made after.journal.ledger)
    {cause : Fault} {left : Live μ} (faulted : create registry jobs config start = .error cause left) :
    conclusion (setupJoinings registry jobs config start) left.journal.ledger := by
  have ends : Ends (create registry jobs config) start fun outcome after => outcome.isOk = false →
      conclusion (setupJoinings registry jobs config start) after.journal.ledger := by
    rw [create_eq, ends_bind]
    unfold setupJoinings
    have unwritten := prepare_ledger registry jobs config start
    cases ended : prepare registry jobs config start with
    | error cause after =>
        rw [ends_of_error ended] at unwritten ⊢
        rw [continues_error, unwritten]
        exact fun _ => nothing
    | ok result prepared =>
        rw [ends_of_ok ended, continues_ok]
        cases result with
        | error cause => exact nofun
        | ok parts =>
            obtain ⟨setup, updates, data⟩ := parts
            obtain ⟨parted, made, ledger⟩ := prepare_eq_ok ended
            have told : story [] (Live.journal ⟨prepared.journal, data⟩).ledger
                (Live.core ⟨prepared.journal, data⟩) := by
              rw [ledger]
              exact begun data made
            unfold complete setUp
            dsimp only
            rw [ends_bind, ends_focus, ends_bind, ends_attempt]
            refine (Schedule.run_tells carried (Schedule.partition_accepted parted).1 told).mono ?_
            intro outcome after told
            rw [continues_ok]
            cases outcome with
            | ok _ => exact nofun
            | error cause =>
                rw [List.nil_append] at told
                dsimp only
                rw [ends_fault_ensuring]
                exact (released told).mono fun _ _ ended _ => ended
  exact (ends_of_error faulted).mp ends rfl

end Building

/-- The joins that an operation makes. -/
def Operation.joinings : Operation μ → Live (Scene μ) → List (Joining μ)
  | .tick delta, live => tickJoinings delta live
  | .iterate inputs outputs callback, live =>
    match Plan.make live.core.data.registry inputs outputs with
    | .ok plan => [⟨plan, callback, ⟨live.journal, live.core.data⟩⟩]
    | .error _ => []
  | _, _ => []

/-- A story goes on over a join of its own. -/
theorem iterate_tells {registry : Registry} {story : Story μ} (carried : story.Carried registry)
    {inputs outputs : List ResourceId} {callback : Callback μ} {made : List (Joining μ)}
    {live : Live (Scene μ)} (based : live.core.data.registry = registry)
    (told : story made live.journal.ledger live.core.data) :
    Ends (Operation.iterate inputs outputs callback).perform live fun _ after =>
      after.core.updates = live.core.updates ∧
        story (made ++ (Operation.iterate inputs outputs callback).joinings live) after.journal.ledger
          after.core.data := by
  unfold Operation.perform Scene.iterate Operation.joinings
  dsimp only
  rw [ends_bind, ends_bind, ends_onData]
  unfold Data.iterate
  rw [ends_bind, ends_core, continues_ok]
  dsimp only
  cases planned : Plan.make live.core.data.registry inputs outputs with
  | error cause =>
      rw [List.append_nil]
      exact ⟨rfl, told⟩
  | ok plan =>
      have told' : story made (Live.journal ⟨live.journal, live.core.data⟩).ledger
          (Live.core ⟨live.journal, live.core.data⟩) := told
      rw [based] at planned
      dsimp only
      rw [ends_bind]
      refine (carried.run callback planned told').mono ?_
      intro outcome after told
      cases outcome <;> exact ⟨rfl, told⟩

section Writes

/-- The direct write that an operation is. -/
def Operation.change? : Operation μ → Option (ResourceId × Storage.Write)
  | .emplaceScalar resource value => some (resource, .emplaceScalar value)
  | .sendEvent resource value => some (resource, .pushEvent value)
  | .clearEvents resource => some (resource, .clearEvents)
  | .write resource change => some (resource, change)
  | _ => none

theorem perform_change {operation : Operation μ} {resource : ResourceId} {change : Storage.Write}
    (direct : operation.change? = some (resource, change)) :
    operation.perform = onData (Data.onStorage resource change.perform) := by
  cases operation <;> cases direct <;> rfl

/-- A component of an identity is written directly, or the write is refused before anything is done. -/
theorem emplaceIndexed_or (kind : Kind) (resource : ResourceId) (identity : Identity) (value : Value)
    (live : Live (Scene μ)) :
    (∃ cause, emplaceIndexed kind resource identity value live = .error cause live) ∨
      emplaceIndexed kind resource identity value live =
        onData (Data.onStorage resource (Storage.Write.emplaceIndexed identity value).perform) live := by
  simp only [emplaceIndexed, bind, EStateM.bind, Act.core]
  split
  · cases described : live.core.data.registry.descriptor resource with
    | error cause => exact .inl ⟨cause, rfl⟩
    | ok descriptor =>
        by_cases sort : descriptor.kind = kind
        · exact .inr (by simp only [Act.ofExcept, pure, EStateM.bind, EStateM.pure, sort, if_true]; rfl)
        · exact .inl ⟨_, by simp only [Act.ofExcept, pure, EStateM.bind, EStateM.pure, sort, if_false]; rfl⟩
  · exact .inl ⟨_, rfl⟩

/-- The operation speaks of identities, requests or the memory only. -/
def Operation.spares : Operation μ → Bool
  | .queueSpawn _ | .queueDespawn _ | .addViewport | .removeViewport _ | .remember _ => true
  | _ => false

theorem perform_spares {operation : Operation μ} (spares : operation.spares = true) (live : Live (Scene μ)) :
    Ends operation.perform live fun _ after =>
      after.core.data.storages = live.core.data.storages ∧ after.journal.ledger = live.journal.ledger := by
  cases operation with
  | queueSpawn | queueDespawn | remember => exact ⟨rfl, rfl⟩
  | addViewport =>
      unfold Operation.perform addViewport
      rw [ends_bind, ends_bind, ends_core, continues_ok, ends_bind, ends_ofExcept]
      cases live.core.data.viewports.emplace <;> exact ⟨rfl, rfl⟩
  | removeViewport viewport => exact ⟨rfl, rfl⟩
  | tick | iterate | emplaceScalar | emplaceEntityComponent | emplaceViewportComponent | sendEvent
  | clearEvents | write | applyCommands => cases spares

end Writes

/-- An operation with the state in which it is performed. -/
structure Step (μ : Type) where
  operation : Operation μ
  before : Live (Scene μ)

namespace Step

/-- The state that the operation leaves. -/
def after (step : Step μ) : Live (Scene μ) := step.operation.perform.leaves step.before

/-- The operation ends without a fault. -/
def completes (step : Step μ) : Bool := (step.operation.perform.fault? step.before).isNone

/-- The joins made in the step. -/
def joinings (step : Step μ) : List (Joining μ) := step.operation.joinings step.before

/-- How the operation ends is how the step does. -/
theorem of_ends (step : Step μ) {post : Except Fault Unit → Live (Scene μ) → Prop}
    (ends : Ends step.operation.perform step.before post) :
    ∃ outcome, outcome.isOk = step.completes ∧ post outcome step.after := by
  unfold completes after fault? leaves
  unfold Ends at ends
  cases ended : step.operation.perform step.before with
  | ok answer final =>
      rw [ended] at ends
      exact ⟨.ok answer, rfl, ends⟩
  | error cause final =>
      rw [ended] at ends
      exact ⟨.error cause, rfl, ends⟩

end Step

/-- The steps of a run. -/
def stepsOf : List (Operation μ) → Live (Scene μ) → List (Step μ)
  | [], _ => []
  | operation :: rest, live => ⟨operation, live⟩ :: stepsOf rest (operation.perform.leaves live)

/-- The data are sound over the registry, and the update jobs are planned. -/
structure Sturdy (registry : Registry) (scene : Scene μ) : Prop where
  based : Data.SoundOver registry scene.data
  accepted : ∀ planned ∈ scene.updates.jobs, planned.Accepted registry

theorem Sturdy.perform {registry : Registry} (operation : Operation μ) :
    Keeps (Sturdy registry) operation.perform := by
  intro live sturdy
  refine (perform_soundOver operation live ⟨sturdy.based, rfl⟩).mono ?_
  rintro _ after ⟨based, same⟩
  exact ⟨based, by rw [same]; exact sturdy.accepted⟩

theorem create_sturdy {registry : Registry} {jobs : List (Job μ)} {config : Config} {start built : Live μ}
    {scene : Scene μ} (created : create registry jobs config start = .ok (.ok scene) built) :
    Sturdy registry scene := by
  obtain ⟨based, accepted⟩ := create_built created
    (fun made => ⟨(Data.create_sound made).2, by rw [(Data.create_sound made).1]⟩)
    fun planned _ => run_soundOver planned.plan planned.job.callback
  exact ⟨based, accepted⟩

theorem runAll_sturdy {registry : Registry} {operations : List (Operation μ)} {live : Live (Scene μ)}
    (sturdy : Sturdy registry live.core) : Sturdy registry (runAll operations live).core := by
  induction operations generalizing live with
  | nil => exact sturdy
  | cons operation rest ih => exact ih ((Sturdy.perform operation).leaves sturdy)

theorem stepsOf_sturdy {registry : Registry} {operations : List (Operation μ)} {live : Live (Scene μ)}
    (sturdy : Sturdy registry live.core) :
    ∀ step ∈ stepsOf operations live, Sturdy registry step.before.core := by
  induction operations generalizing live with
  | nil => exact fun _ member => nomatch member
  | cons operation rest ih =>
      intro step member
      rcases List.mem_cons.mp member with rfl | later
      · exact sturdy
      · exact ih ((Sturdy.perform operation).leaves sturdy) step later

/-- Every step of a run begins in a sturdy state. -/
theorem create_steps_sturdy {registry : Registry} {jobs : List (Job μ)} {config : Config}
    {start built : Live μ} {scene : Scene μ}
    (created : create registry jobs config start = .ok (.ok scene) built) (operations : List (Operation μ)) :
    ∀ step ∈ stepsOf operations ⟨built.journal, scene⟩, Sturdy registry step.before.core :=
  stepsOf_sturdy (create_sturdy created)

theorem runAll_extends {story : List (Step μ) → Live (Scene μ) → Prop} {operations : List (Operation μ)}
    {done : List (Step μ)} {live : Live (Scene μ)} (begun : story done live)
    (goes : ∀ (done : List (Step μ)) (step : Step μ), step ∈ stepsOf operations live →
      story done step.before → story (done ++ [step]) step.after) :
    story (done ++ stepsOf operations live) (runAll operations live) := by
  induction operations generalizing done live with
  | nil =>
      rw [stepsOf, List.append_nil]
      exact begun
  | cons operation rest ih =>
      rw [stepsOf, List.append_cons]
      refine ih (goes done ⟨operation, live⟩ List.mem_cons_self begun) fun done step member => ?_
      exact goes done step (List.mem_cons_of_mem _ member)

/-- What each step adds to the steps so far holds of all the steps of a run. -/
theorem runAll_induct (story : List (Step μ) → Live (Scene μ) → Prop) {operations : List (Operation μ)}
    {live : Live (Scene μ)} (begun : story [] live)
    (goes : ∀ (done : List (Step μ)) (step : Step μ), step ∈ stepsOf operations live →
      story done step.before → story (done ++ [step]) step.after) :
    story (stepsOf operations live) (runAll operations live) :=
  runAll_extends begun goes

end Scene

namespace Sample

/-- Asks for an entity with full health. -/
def recruiting : Callback Unit := fun _ => do
  (Request.set 0 (.spawnList [[(8, .uint32 100)]])).send
  pure true

/-- Recruits an entity for each click. -/
def recruits : PlannedJob Unit where
  job := ⟨"recruit", .update, [6], [2], recruiting⟩
  plan := ⟨[(6, .event)], [(2, .entitySpawnList)], some 6, false, false⟩

/-- A new scene whose ticks recruit. -/
def barracks : Scene Unit := { start with updates := ⟨.update, [recruits]⟩ }

theorem barracks_created : Scene.create registry [recruits.job] .default ⟨{}, ()⟩ =
    .ok (.ok barracks) ((Scene.create registry [recruits.job] .default).leaves ⟨{}, ()⟩) := rfl

end Sample

end EntityScene
