import EntityScene.Proofs.Construction
import EntityScene.Proofs.GameTime
import EntityScene.Proofs.Lifecycle

/-!
What the setup jobs of a scene can do. They find neither identities nor events, so a setup job has one match
at most: if it reads nothing but scene components that have values by then, and writes no component of
entities or viewports. Its call can leave values of scene components, which later setup jobs read, and
requests to spawn; everything else in the new scene is empty.
-/

namespace EntityScene

open Act

variable {μ : Type}

namespace Joining

/-- What the committed calls of the join wrote. -/
def writings (joining : Joining μ) : List Join.Writing :=
  Join.writings joining.start.core joining.plan (joining.calls.filter Join.Call.goesOn)

/-- What joins that were made one after the other left of the data. -/
def leftOf (base : Data μ) (made : List (Joining μ)) : Data μ :=
  (made.getLast?.map fun joining => joining.finish.core).getD base

theorem leftOf_concat (base : Data μ) (made : List (Joining μ)) (joining : Joining μ) :
    leftOf base (made ++ [joining]) = joining.finish.core := by
  rw [leftOf, List.getLast?_concat]
  rfl

end Joining

namespace Data

/-- Nothing but scene components and requests to spawn: both pools are new, nothing waits to be removed, and
the storages of all other resources are new. -/
structure Bare (registry : Registry) (data : Data μ) : Prop where
  based : data.registry = registry
  entities : data.entities = .empty
  viewports : data.viewports = .empty
  despawns : data.commands.despawns = []
  storages {resource : ResourceId} {descriptor : Descriptor} : registry.get? resource = some descriptor →
    descriptor.kind ≠ .sceneComponent → data.storages[resource]? = some (Storage.ofDescriptor descriptor)

/-- A join needs no event and no identity: it reads nothing but scene components that have values and writes
no component of entities or viewports. -/
def Enables (registry : Registry) (data : Data μ) (reads writes : List ResourceId) : Prop :=
  (∀ resource ∈ reads,
    registry.kind? resource = some .sceneComponent ∧ (data.scalar? resource).isSome = true) ∧
  ∀ resource ∈ writes,
    registry.kind? resource ≠ some .entityComponent ∧ registry.kind? resource ≠ some .viewportComponent

namespace Bare

variable {registry : Registry} {data : Data μ} {reads writes : List ResourceId} {plan : Plan}

theorem poolOf (bare : data.Bare registry) (kind : Kind) : data.poolOf kind = .empty := by
  unfold Data.poolOf
  split
  · exact bare.viewports
  · exact bare.entities

/-- There are no events. -/
theorem events? (bare : data.Bare registry) {resource : ResourceId}
    (kind : registry.kind? resource = some .event) : data.events? resource = [] := by
  obtain ⟨descriptor, registered, sort⟩ := Registry.kind?_eq_some.mp kind
  have found := bare.storages registered (by rw [sort]; decide)
  rw [Data.events?, Data.cells, found]
  simp only [Storage.ofDescriptor, sort]
  rfl

theorem joinEvents (bare : data.Bare registry) (reads : List ResourceId) :
    data.joinEvents reads = if registry.ofKind .event reads = [] then [none] else [] := by
  unfold Data.joinEvents
  rw [bare.based]
  cases driven : registry.ofKind .event reads with
  | nil => rfl
  | cons resource rest =>
      have member : resource ∈ registry.ofKind .event reads := by
        rw [driven]
        exact List.mem_cons_self
      have kind : registry.kind? resource = some .event := by
        simpa using (List.mem_filter.mp member).2
      simp [bare.events? kind]

theorem joinIdentities (bare : data.Bare registry) (kind : Kind) (reads writes : List ResourceId) :
    data.joinIdentities kind reads writes =
      if registry.ofKind kind (reads ++ writes) = [] then [none] else [] := by
  unfold Data.joinIdentities
  rw [bare.based, bare.poolOf]
  rfl

end Bare

section Matches

variable {registry : Registry} {data : Data μ} {reads writes : List ResourceId} {plan : Plan}

theorem ofKind_eq_nil {kind : Kind} {resources : List ResourceId} :
    registry.ofKind kind resources = [] ↔ ∀ resource ∈ resources, registry.kind? resource ≠ some kind := by
  simp [Registry.ofKind]

/-- A join is enabled if its scene components have values and it walks nothing. -/
theorem enables_iff (based : data.registry = registry) (fits : plan.Fits registry reads writes) :
    data.Enables registry reads writes ↔
      data.scalarsSet reads = true ∧ registry.ofKind .event reads = [] ∧
        registry.ofKind .viewportComponent (reads ++ writes) = [] ∧
        registry.ofKind .entityComponent (reads ++ writes) = [] := by
  subst based
  have scalars := Join.scalarsSet_iff fits
  simp only [ofKind_eq_nil, List.forall_mem_append, scalars]
  constructor
  · rintro ⟨inputs, outputs⟩
    have other {kind : Kind} (apart : kind ≠ .sceneComponent) :
        ∀ resource ∈ reads, data.registry.kind? resource ≠ some kind := by
      intro resource member same
      rw [(inputs resource member).1] at same
      exact apart (Option.some.inj same).symm
    refine ⟨fun resource declared => ?_, other (by decide), ⟨other (by decide), fun resource member => ?_⟩,
      other (by decide), fun resource member => ?_⟩
    · have member : resource ∈ reads := by
        rw [← fits.reads_eq]
        exact List.mem_map_of_mem declared
      exact (inputs resource member).2
    · exact (outputs resource member).2
    · exact (outputs resource member).1
  · rintro ⟨set, event, ⟨viewport, viewport'⟩, entity, entity'⟩
    refine ⟨fun resource member => ?_, fun resource member =>
      ⟨entity' resource member, viewport' resource member⟩⟩
    have listed := member
    rw [← fits.reads_eq] at listed
    obtain ⟨⟨_, kind⟩, declared, rfl⟩ := List.mem_map.mp listed
    have registered := fits.input_kind _ declared
    have readable := fits.readable _ declared
    have scene : kind = .sceneComponent := by
      cases kind with
      | sceneComponent => rfl
      | event => exact absurd registered (event _ member)
      | viewportComponent => exact absurd registered (viewport _ member)
      | entityComponent => exact absurd registered (entity _ member)
      | entitySpawnList | entityDespawnList => cases readable
    subst scene
    exact ⟨registered, set _ declared⟩

/-- Bare data have one match for a join that is enabled and none for any other. -/
theorem Bare.staticJoin (bare : data.Bare registry) (fits : plan.Fits registry reads writes) :
    (data.Enables registry reads writes ∧ data.staticJoin reads writes = [⟨none, none, none⟩]) ∨
      (¬ data.Enables registry reads writes ∧ data.staticJoin reads writes = []) := by
  rw [enables_iff bare.based fits]
  unfold Data.staticJoin
  rw [bare.joinEvents, bare.joinIdentities, bare.joinIdentities]
  by_cases set : data.scalarsSet reads = true
  · by_cases event : registry.ofKind .event reads = []
    · by_cases viewport : registry.ofKind .viewportComponent (reads ++ writes) = []
      · by_cases entity : registry.ofKind .entityComponent (reads ++ writes) = []
        · exact .inl ⟨⟨set, event, viewport, entity⟩, by simp [set, event, viewport, entity]⟩
        · exact .inr ⟨fun enabled => entity enabled.2.2.2, by simp [entity]⟩
      · exact .inr ⟨fun enabled => viewport enabled.2.2.1, by simp [viewport]⟩
    · exact .inr ⟨fun enabled => event enabled.2.1, by simp [event]⟩
  · exact .inr ⟨fun enabled => set enabled.1, by simp [set]⟩

end Matches

section Runs

variable {registry : Registry} {reads writes : List ResourceId} {plan : Plan}

/-- A join leaves bare data bare, however it ends. -/
theorem run_bare (accepted : Plan.make registry reads writes = .ok plan) (callback : Callback μ) :
    Act.Keeps (Bare registry) (Join.run plan callback) := by
  have fits := Plan.make_fits accepted
  have tolerates : Join.Tolerates plan (fun _ _ => False) (Bare registry : Data μ → Prop) :=
    { viewports := fun bare member => by
        rw [bare.viewports] at member
        exact Array.not_mem_empty _ member
      entities := fun bare member => by
        rw [bare.entities] at member
        exact Array.not_mem_empty _ member
      memory := fun _ bare => { bare with }
      spawns := fun _ _ bare => { bare with }
      scalar := fun {resource} value declared live bare => by
        refine ((Data.onStorageAt_frame resource _ live).and (Data.onStorageAt_others resource _ live)).mono ?_
        rintro _ after ⟨same, others⟩
        rw [same]
        refine { bare with storages := fun {other descriptor} registered kind => ?_ }
        have apart : other ≠ resource := by
          rintro rfl
          have sort := Registry.kind?_eq_some.mpr ⟨descriptor, registered, rfl⟩
          rw [fits.output_kind _ declared] at sort
          exact kind (Option.some.inj sort).symm
        exact (others other apart).trans (bare.storages registered kind)
      indexed := fun _ _ unknown => unknown.elim }
  exact Join.run_keeps tolerates callback

end Runs

end Data

/-- Where there is at most one match, there are as many calls as matches. -/
theorem Join.Traversed.length_eq {registry : Registry} {plan : Plan} {places : List Match} {calls : List Join.Call}
    {outcome : Except Fault Bool} (traversed : Join.Traversed registry plan places calls outcome)
    (short : places.length ≤ 1) : calls.length = places.length := by
  cases traversed with
  | done => rfl
  | @next call rest calls _ _ others =>
      have none : rest = [] := List.length_eq_zero_iff.mp (Nat.le_zero.mp (Nat.le_of_succ_le_succ short))
      subst none
      cases others
      rfl
  | @last call rest =>
      have none : rest = [] := List.length_eq_zero_iff.mp (Nat.le_zero.mp (Nat.le_of_succ_le_succ short))
      subst none
      rfl

/-- A join of bare data makes one call if it is enabled and none otherwise. -/
theorem Data.Bare.calls {registry : Registry} {reads writes : List ResourceId} {plan : Plan} {live : Live (Data μ)}
    (bare : live.core.Bare registry) (based : live.core.SoundOver registry)
    (accepted : Plan.make registry reads writes = .ok plan) (callback : Callback μ) :
    (Join.calls plan callback live).length ≤ 1 ∧
      ((Join.calls plan callback live).length = 1 ↔ live.core.Enables registry reads writes) := by
  have lengths {places : List Match} (matched : live.core.staticJoin reads writes = places)
      (short : places.length ≤ 1) : (Join.calls plan callback live).length = places.length := by
    rw [← matched] at short ⊢
    exact ends_leaves.mp ((Join.run_traversed based accepted callback).mono
      fun _ _ ⟨_, _, traversed⟩ => traversed.length_eq short)
  rcases bare.staticJoin (Plan.make_fits accepted) with ⟨enabled, matched⟩ | ⟨disabled, matched⟩
  · have once := lengths matched (Nat.le_refl 1)
    exact ⟨Nat.le_of_eq once, fun _ => enabled, fun _ => once⟩
  · have never := lengths matched (Nat.zero_le 1)
    rw [never]
    exact ⟨Nat.zero_le 1, fun once => (Nat.zero_ne_one once).elim, fun enabled => absurd enabled disabled⟩

/-- Joins that were made in turn on new data, up to here: the data are bare, and each scene component has the
value that was written last. -/
structure Data.Seeded (registry : Registry) (base : Data μ) (made : List (Joining μ)) (data : Data μ) : Prop where
  based : data.SoundOver registry
  bare : data.Bare registry
  left : data = Joining.leftOf base made
  scalars {resource : ResourceId} : registry.kind? resource = some .sceneComponent →
    data.scalar? resource = Join.latest? (made.flatMap Joining.writings) resource .scene

/-- One join more. -/
theorem Data.Seeded.run {registry : Registry} {reads writes : List ResourceId} {plan : Plan} {base : Data μ}
    {made : List (Joining μ)} {live after : Live (Data μ)} {completed : Bool}
    (seeded : Data.Seeded registry base made live.core) (accepted : Plan.make registry reads writes = .ok plan)
    {callback : Callback μ} (ran : Join.run plan callback live = .ok completed after) :
    Data.Seeded registry base (made ++ [⟨plan, callback, live⟩]) after.core where
  based := (ends_of_ok ran).mp (Scene.run_soundOver plan callback live seeded.based)
  bare := (ends_of_ok ran).mp (Data.run_bare accepted callback live seeded.bare)
  left := by
    rw [Joining.leftOf_concat, Joining.finish, leaves_of_ok ran]
  scalars {resource} kind := by
    have reflects := ((ends_of_ok ran).mp (Join.run_flows seeded.based accepted callback).2).reflects rfl
    have attends : live.core.Attends resource .scene := by
      refine ⟨?_, by rintro _ ⟨⟩⟩
      rw [seeded.based.registry]
      exact kind
    have shown : after.core.scalar? resource = _ := reflects.shows attends
    rw [shown, List.flatMap_append, List.flatMap_singleton, Join.latest?_append, ← seeded.scalars kind]
    rfl

theorem Data.Seeded.blank (registry : Registry) (memory : μ) {data : Data μ} {entityCapacity viewportCapacity : Nat}
    (created : Data.create registry entityCapacity viewportCapacity memory = .ok data) :
    Data.Seeded registry (Scene.blankData registry memory) [] data := by
  obtain ⟨same, sound⟩ := Data.create_sound created
  have empty (resource : ResourceId) : data.scalar? resource = none := by
    obtain ⟨shape, cells⟩ := Data.create_cells created resource
    rw [Data.scalar?, cells]
    cases shape <;> rfl
  refine ⟨⟨sound, by rw [same]⟩, ?_, same, fun _ => empty _⟩
  rw [same]
  refine ⟨rfl, rfl, rfl, rfl, fun registered _ => ?_⟩
  exact List.getElem?_map.trans (congrArg (Option.map Storage.ofDescriptor) registered)

namespace Schedule

/-- A job that ends without a fault is a join that does. -/
theorem runJob_eq_ok {kind : JobKind} {planned : PlannedJob μ} {live after : Live (Data μ)}
    (ran : runJob kind planned live = .ok () after) :
    ∃ completed final,
      Join.run planned.plan planned.job.callback (live.within planned.job.name) = .ok completed final ∧
        final.core = after.core := by
  have ends : Ends (runJob kind planned) live fun outcome after => outcome = .ok () → ∃ completed final,
      Join.run planned.plan planned.job.callback (live.within planned.job.name) = .ok completed final ∧
        final.core = after.core := by
    unfold runJob
    rw [ends_span, ends_bind]
    change Ends _ (live.within planned.job.name) _
    cases joined : Join.run planned.plan planned.job.callback (live.within planned.job.name) with
    | error cause final =>
        rw [ends_of_error joined]
        rintro ⟨⟩
    | ok completed final =>
        rw [ends_of_ok joined, continues_ok]
        cases completed <;> exact fun _ => ⟨_, final, rfl, rfl⟩
  exact (ends_of_ok ran).mp ends rfl

/-- What is told of the joins so far and goes on over each join is told of every join when its turn comes,
and of all joins in the end. -/
theorem runJobs_each (story : List (Joining μ) → Data μ → Prop) {kind : JobKind} {jobs : List (PlannedJob μ)}
    (goes : ∀ planned ∈ jobs, ∀ {made : List (Joining μ)} {live after : Live (Data μ)} {completed : Bool},
      story made live.core → Join.run planned.plan planned.job.callback live = .ok completed after →
        story (made ++ [⟨planned.plan, planned.job.callback, live⟩]) after.core)
    {made : List (Joining μ)} {live after : Live (Data μ)} (told : story made live.core)
    (ran : runJobs kind jobs live = .ok () after) :
    story (made ++ joiningsOf kind jobs live) after.core ∧
      (joiningsOf kind jobs live).length = jobs.length ∧
      ∀ index planned, jobs[index]? = some planned → ∃ joining,
        (joiningsOf kind jobs live)[index]? = some joining ∧ joining.plan = planned.plan ∧
          joining.callback = planned.job.callback ∧
          story (made ++ (joiningsOf kind jobs live).take index) joining.start.core := by
  induction jobs generalizing made live with
  | nil =>
      cases ran
      refine ⟨?_, rfl, by simp⟩
      rw [joiningsOf, List.append_nil]
      exact told
  | cons planned rest ih =>
      obtain ⟨_, middle, first, later⟩ := bind_eq_ok ran
      obtain ⟨completed, final, joined, same⟩ := runJob_eq_ok first
      have begun : story made (live.within planned.job.name).core := told
      have next := goes planned List.mem_cons_self begun joined
      rw [same] at next
      obtain ⟨all, length, each⟩ := ih (fun other member => goes other (List.mem_cons_of_mem _ member)) next later
      have made_eq : joiningsOf kind (planned :: rest) live =
          ⟨planned.plan, planned.job.callback, live.within planned.job.name⟩ :: joiningsOf kind rest middle := by
        rw [joiningsOf, first]
      rw [made_eq, List.append_cons]
      refine ⟨all, congrArg (· + 1) length, fun index other found => ?_⟩
      cases index with
      | zero =>
          cases found
          refine ⟨_, rfl, rfl, rfl, ?_⟩
          rw [List.take_zero, List.append_nil]
          exact told
      | succ index =>
          obtain ⟨joining, here, plan, callback, begun⟩ := each index other found
          refine ⟨joining, here, plan, callback, ?_⟩
          rw [List.take_succ_cons, List.append_cons]
          exact begun

/-- Planning jobs keeps them and their order. -/
theorem mapM_planned {registry : Registry} {jobs : List (Job μ)} {list : List (PlannedJob μ)}
    (made : jobs.mapM (Job.planned registry) = .ok list) : list.map PlannedJob.job = jobs := by
  induction jobs generalizing list with
  | nil =>
      cases made
      rfl
  | cons job rest ih =>
      rw [List.mapM_cons] at made
      cases one : job.planned registry with
      | error cause => simp [one, bind, Except.bind] at made
      | ok planned =>
          cases others : rest.mapM (Job.planned registry) with
          | error cause => simp [one, others, bind, Except.bind] at made
          | ok tail =>
              simp only [one, others, bind, Except.bind, pure, Except.pure, Except.ok.injEq] at made
              subst made
              have same : planned.job = job := by
                unfold Job.planned at one
                split at one <;> cases one
                rfl
              rw [List.map_cons, same, ih others]

/-- The setup jobs of a partition are those of the list, in their order. -/
theorem partition_setups {registry : Registry} {jobs : List (Job μ)} {setup updates : Schedule μ}
    (parted : Schedule.partition registry jobs = .ok (setup, updates)) :
    setup.jobs.map PlannedJob.job = jobs.filter fun job => job.kind = .setup := by
  unfold partition at parted
  cases made : jobs.mapM (Job.planned registry) with
  | error cause => simp [made, bind, Except.bind] at parted
  | ok list =>
      simp only [made, bind, Except.bind, pure, Except.pure, Except.ok.injEq, Prod.mk.injEq] at parted
      obtain ⟨rfl, rfl⟩ := parted
      rw [← mapM_planned made, List.filter_map]
      rfl

end Schedule

namespace Scene

/-- In a new scene, there is one join for each setup job in order, which begins with what the joins before it
left of new data: a scene component has the value that the calls of the earlier setup jobs wrote last. The
callback is called at most once, and exactly once if all that the job reads are scene components with
values by then and it writes no component of entities or viewports. The scene is as the last join left it.
Both pools and all storages but those of scene components are new, no entity waits to be removed, the game
time is zero, and the requests to spawn are those that the calls committed, in the order of the jobs. -/
theorem setup_seeds_scalars_and_spawns {registry : Registry} {jobs : List (Job μ)} {config : Config}
    {start built : Live μ} {scene : Scene μ}
    (created : create registry jobs config start = .ok (.ok scene) built) :
    let setups := jobs.filter fun job => job.kind = .setup
    let made := setupJoinings registry jobs config start
    let base := blankData registry start.core
    made.length = setups.length ∧
      (∀ index job, setups[index]? = some job → ∃ joining, made[index]? = some joining ∧
        Plan.make registry job.inputs job.outputs = .ok joining.plan ∧ joining.callback = job.callback ∧
        joining.start.core = Joining.leftOf base (made.take index) ∧
        (∀ resource, registry.kind? resource = some .sceneComponent → joining.start.core.scalar? resource =
          Join.latest? ((made.take index).flatMap Joining.writings) resource .scene) ∧
        joining.calls.length ≤ 1 ∧
        (joining.calls.length = 1 ↔ joining.start.core.Enables registry job.inputs job.outputs)) ∧
      scene.data = Joining.leftOf base made ∧ scene.data.Bare registry ∧ scene.gameTime = .zero ∧
      (∀ resource, registry.kind? resource = some .sceneComponent → scene.data.scalar? resource =
        Join.latest? (made.flatMap Joining.writings) resource .scene) ∧
      scene.data.commands.spawns = made.flatMap Joining.requests := by
  intro setups made base
  obtain ⟨setup, data, prepared, after, ended, runs, _, same⟩ := create_eq_ok created
  obtain ⟨parted, blank, _⟩ := prepare_eq_ok ended
  have accepted := (Schedule.partition_accepted parted).1
  have joined : made = Schedule.joiningsOf setup.kind setup.jobs ⟨prepared.journal, data⟩ := by
    show setupJoinings registry jobs config start = _
    rw [setupJoinings, ended]
    rfl
  have begun : Data.Seeded registry base [] (Live.core ⟨prepared.journal, data⟩) :=
    Data.Seeded.blank registry start.core blank
  obtain ⟨all, length, each⟩ := Schedule.runJobs_each (Data.Seeded registry base)
    (fun planned member _ _ _ _ seeded ran => seeded.run (accepted planned member) ran) begun runs
  rw [← joined, List.nil_append, ← same] at all
  rw [← joined] at length each
  have listed : setup.jobs.map PlannedJob.job = setups := Schedule.partition_setups parted
  refine ⟨?_, fun index job found => ?_, all.left, all.bare, (create_times created).2,
    fun resource kind => all.scalars kind, create_queued created⟩
  · rw [length, ← listed, List.length_map]
  · rw [← listed, List.getElem?_map] at found
    obtain ⟨planned, here, rfl⟩ := Option.map_eq_some_iff.mp found
    obtain ⟨joining, turn, plan, callback, seeded⟩ := each index planned here
    rw [List.nil_append] at seeded
    have plans : Plan.make registry planned.job.inputs planned.job.outputs = .ok joining.plan := by
      rw [plan]
      exact accepted planned (List.mem_of_getElem? here)
    obtain ⟨short, once⟩ := seeded.bare.calls seeded.based plans joining.callback
    exact ⟨joining, turn, plans, callback, seeded.left, fun resource kind => seeded.scalars kind, short, once⟩

/-- Recruits an entity once the greeting is there. -/
def sampleWelcome : Job Unit := ⟨"welcome", .setup, [0], [2], Sample.recruiting⟩

/-- Gives every entity full health. -/
def sampleCare : Job Unit where
  name := "care"
  kind := .setup
  inputs := []
  outputs := [8]
  callback _ := do
    (Request.set 0 (.uint32 100)).send
    pure true

/-- The first welcome comes too early, and there is no entity to care for. -/
def sampleSetup : List (Job Unit) := [sampleWelcome, sampleGreeting, sampleEcho, sampleWelcome, sampleCare]

theorem setup_seeds_scalars_and_spawns_sample :
    let made := setupJoinings Sample.registry sampleSetup .default ⟨{}, ()⟩
    ∃ scene built, create Sample.registry sampleSetup .default ⟨{}, ()⟩ = .ok (.ok scene) built ∧
      made.map (fun joining => joining.calls.length) = [0, 1, 1, 0] ∧
      scene.data.Bare Sample.registry ∧ scene.data.scalar? 0 =
        Join.latest? (made.flatMap Joining.writings) 0 .scene ∧
      (Join.latest? (made.flatMap Joining.writings) 0 .scene).isSome = true ∧
      scene.data.commands.spawns = made.flatMap Joining.requests ∧
      (made.flatMap Joining.requests).length = 1 := by
  intro made
  have succeeds : ((create Sample.registry sampleSetup .default).answer? ⟨{}, ()⟩).any Except.isOk = true := by
    decide +kernel
  obtain ⟨answer, answered, ok⟩ := (Option.any_eq_true _ _).mp succeeds
  cases answer with
  | error cause => cases ok
  | ok scene =>
      have created := eq_ok_of_answer? answered
      obtain ⟨_, _, _, bare, _, scalars, spawns⟩ := setup_seeds_scalars_and_spawns created
      exact ⟨scene, _, created, by decide +kernel, bare, scalars 0 rfl, by decide +kernel, spawns, by decide +kernel⟩

end Scene

end EntityScene
