import EntityScene.Proofs.Application
import EntityScene.Proofs.GameTime

/-!
The waiting requests, interrupted. A component that cannot be given stops the tick before its jobs. The
entities that were to go are gone then, the blueprints before it have their entities, and one entity has the
components that stand before it; the pool is in order, and nothing waits any more.
-/

namespace EntityScene

open Act

variable {μ : Type}

namespace Data

section Spawning

variable {registry : Registry} {live : Live (Data μ)}

/-- What is left where a component of the waiting blueprints is refused: one entity for each blueprint before
it, and one with the components that stand before it. A value that is not copied or not destroyed costs this
entity what it had of the resource. -/
structure Interrupted (before : Data μ) (flaw : Flaw) (cause : Fault) (survivors : List Identity)
    (born : List (Identity × Blueprint)) (entity : Identity) (after : Data μ) : Prop where
  turnover : Turnover before survivors (born.map Prod.fst ++ [entity]) after
  each : born.map Prod.snd = flaw.earlier
  commands : after.commands = .empty
  sound : after.entities.Sound
  grows : Pool.Grows before.emptied.entities after.entities
  complete {newcomer : Identity} {blueprint : Blueprint} (resource : ResourceId) :
    (newcomer, blueprint) ∈ born → after.component? resource newcomer =
      (blueprint.last? resource).or (before.component? resource newcomer)
  begun (resource : ResourceId) : after.component? resource entity =
    if resource = flaw.component.1 ∧ cause.vacates then none
    else (flaw.given.last? resource).or (before.component? resource entity)

/-- The state in which the last entity has what its blueprint names is the state in which a further component
is refused. -/
theorem Equipped.interrupted {before middle after : Data μ} {flaw : Flaw} {cause : Fault}
    {born : List (Identity × Blueprint)} {entity : Identity} (sound : before.entities.Sound)
    (equipped : Equipped before.emptied born (flaw.earlier ++ [flaw.given]) middle)
    (last : middle.entities.live.toList.getLast? = some entity)
    (entities : after.entities = middle.entities) (commands : after.commands = middle.commands)
    (own : ∀ resource, after.component? resource entity =
      if resource = flaw.component.1 ∧ cause.vacates then none else middle.component? resource entity)
    (others : ∀ other, other.index ≠ entity.index → ∀ resource,
      after.component? resource other = middle.component? resource other) :
    ∃ survivors born, Interrupted before flaw cause survivors born entity after := by
  obtain ⟨first, final, rfl, each, named⟩ := List.map_eq_append_iff.mp equipped.each
  obtain ⟨⟨newest, given⟩, rfl, rfl⟩ := List.map_eq_singleton_iff.mp named
  have newest : newest = entity := by
    rw [equipped.live, List.map_append, ← List.append_assoc] at last
    simpa using last
  subst newest
  have turnover := equipped.turnover sound
  rw [List.map_append] at turnover
  have distinct := equipped.sound.live_indices
  rw [turnover.live, ← List.append_assoc, List.map_append, List.nodup_append] at distinct
  have apart (other : Identity) (member : other ∈ before.emptied.entities.live.toList ++ first.map Prod.fst) :
      other.index ≠ newest.index :=
    distinct.2.2 _ (List.mem_map_of_mem member) _ (List.mem_singleton.mpr rfl)
  refine ⟨_, first, ⟨?_, turnover.remaining, turnover.distinct, turnover.new, fun survivor member resource => ?_⟩,
    each, commands.trans equipped.commands, ?_, ?_, fun resource member => ?_, fun resource => ?_⟩
  · rw [entities]
    exact turnover.live
  · rw [others _ (apart _ (List.mem_append_left _ member))]
    exact turnover.kept survivor member resource
  · rw [entities]
    exact equipped.sound
  · rw [entities]
    exact equipped.grows
  · rw [others _ (apart _ (List.mem_append_right _ (List.mem_map_of_mem member)))]
    exact equipped.furnished resource (List.mem_append_left _ member)
  · rw [own]
    exact if_congr Iff.rfl rfl (equipped.furnished resource (List.mem_append_right _ List.mem_cons_self))

/-- Where there is room, a component that is refused interrupts the waiting requests. -/
theorem applyCommands_interrupted (based : SoundOver registry live.core) :
    Ends applyCommands live fun outcome after => ∀ cause, outcome = .error cause → cause ≠ .poolExhausted →
      ∃ flaw, registry.Stops flaw live.core.commands.spawns cause ∧
        ∃ survivors born entity, Interrupted live.core flaw cause survivors born entity after.core := by
  apply applyCommands_settles based
  intro journal based'
  refine (spawnAll_stops based' live.core.commands.spawns).mono ?_
  intro outcome after stopped _ cause ended roomy
  obtain ⟨flaw, entity, middle, stops, reached, last, fails⟩ := stopped cause ended roomy
  have spawns : Ends (spawnAll (flaw.earlier ++ [flaw.given])) ⟨journal, live.core.emptied⟩ _ :=
    (spawnAll_equipped based' _).and
      ((soundOver_spawns registry).spawnAll _ ⟨journal, live.core.emptied⟩ based')
  obtain ⟨equipped, based''⟩ := (ends_of_ok reached).mp spawns
  obtain ⟨_, own⟩ := (ends_of_error fails).mp (furnish_one based'' entity flaw.component)
  obtain ⟨_, entities, _⟩ := (ends_of_error fails).mp (furnish_ends based'' entity [flaw.component])
  obtain ⟨commands, others⟩ := (ends_of_error fails).mp (furnish_apart based'' entity [flaw.component])
  obtain ⟨survivors, born, interrupted⟩ :=
    (equipped rfl).interrupted based.sound.entities last entities commands own others
  exact ⟨flaw, stops, survivors, born, entity, interrupted⟩

end Spawning

end Data

namespace Scene

/-- A tick whose waiting requests are interrupted ends there, before its jobs and with the game time as it
was. -/
theorem tick_interrupted {live : Live (Scene μ)} {cause : Fault} (condition : Data μ → Prop)
    (stops : ∀ journal, Ends Data.applyCommands ⟨journal, live.core.data⟩ fun outcome after =>
      outcome = .error cause ∧ condition after.core) (delta : Single) :
    tickJoinings delta live = [] ∧ Ends (tick delta) live fun outcome after =>
      outcome = .error cause ∧ condition after.core.data ∧ Around live.core after.core := by
  have opens : Ends (opening delta) (live.within "Scene::tick") fun outcome after =>
      outcome = .error cause ∧ condition after.core.data ∧ Around live.core after.core := by
    unfold opening
    rw [ends_bind, ends_log, continues_ok, ends_bind, ends_onData]
    refine (stops _).mono ?_
    rintro _ after ⟨rfl, left⟩
    exact ⟨rfl, left, rfl⟩
  rw [ends_congr (tick_eq delta live), ends_span, ends_bind]
  change _ ∧ Ends (opening delta) (live.within "Scene::tick") _
  unfold tickJoinings
  cases opened : opening delta (live.within "Scene::tick") with
  | ok _ after => exact nomatch ((ends_of_ok opened).mp opens).1
  | error other after =>
      rw [ends_of_error opened] at opens ⊢
      exact ⟨rfl, opens⟩

section Histories

variable {registry : Registry} {history : List (Data μ)} {live : Live (Scene μ)}

/-- An entity that came to life in an application was never issued before, so nothing was there for it. -/
theorem Recorded.newcomer (recorded : Recorded registry history live) {after : Data μ}
    (grows : Pool.Grows live.core.data.emptied.entities after.entities) (sound : after.entities.Sound)
    (bounded : Bounded (after :: history)) {entity : Identity} (member : entity ∈ after.entities.live)
    (new : entity ∉ live.core.data.entities.live) {resource : ResourceId}
    (registered : registry.kind? resource = some .entityComponent) :
    live.core.data.component? resource entity = none := by
  obtain ⟨⟨earlier, rfl⟩, based, _, lineage, owned⟩ := recorded
  rw [← based.registry] at registered
  apply owned.component?_eq_none registered
  have shrinks := Pool.removeAll_shrinks based.sound.entities live.core.data.commands.despawns
  have removed := Pool.removeAll_sound based.sound.entities live.core.data.commands.despawns
  apply (lineage .entityComponent).newcomer shrinks grows removed sound (bounded .entityComponent entity.index) member
  intro stays
  have left := (Pool.removeAll_perm based.sound.entities _).mem_iff.mp (Array.mem_toList_iff.mpr stays)
  exact new (Array.mem_toList_iff.mp (List.mem_filter.mp left).1)

/-- A tick that is stopped by a component of a waiting blueprint, other than by want of room: the first
component in order that names no resource or none of entities, has a value of another type or one that is
not copied, or takes the place of a value that is not destroyed. The entities that were to go are gone, each
blueprint before it has its entity with exactly what it names, one entity has exactly the components that
stand before it, less what a refused copy or destruction vacates, and there is none for the blueprints
behind it. Nothing waits any more, no job has begun, and survivors, viewports, scene components, events and
the game time are as before. -/
theorem interrupted_tick_residue (made : History registry history live) (delta : Single) {cause : Fault}
    (panicked : Data.applyCommands.fault? ⟨live.journal, live.core.data⟩ = some cause)
    (roomy : cause ≠ .poolExhausted) (bounded : Bounded (((tick delta).leaves live).core.data :: history)) :
    let before := live.core
    let after := ((tick delta).leaves live).core
    (tick delta).fault? live = some cause ∧ tickJoinings delta live = [] ∧
    after.gameTime = before.gameTime ∧ after.data.memory = before.data.memory ∧
    after.data.commands = .empty ∧ after.data.viewports = before.data.viewports ∧
    (∀ resource, registry.kind? resource ≠ some .entityComponent →
      after.data.storages[resource]? = before.data.storages[resource]?) ∧
    after.data.entities.Sound ∧
    ∃ flaw, registry.Stops flaw before.data.commands.spawns cause ∧
      ∃ (survivors : List Identity) (born : List (Identity × Blueprint)) (entity : Identity),
        Data.Turnover before.data survivors (born.map Prod.fst ++ [entity]) after.data ∧
        born.map Prod.snd = flaw.earlier ∧
        ∀ resource, registry.kind? resource = some .entityComponent →
          (∀ newcomer blueprint, (newcomer, blueprint) ∈ born →
            after.data.component? resource newcomer = blueprint.last? resource) ∧
          after.data.component? resource entity =
            if resource = flaw.component.1 ∧ cause.vacates then none else flaw.given.last? resource := by
  intro before after
  have recorded := made.recorded
  let left (data : Data μ) : Prop :=
    (∃ flaw, registry.Stops flaw live.core.data.commands.spawns cause ∧
      ∃ survivors born entity, Data.Interrupted live.core.data flaw cause survivors born entity data) ∧
      Data.Beside registry live.core.data data
  have applies (journal : Journal) : Ends Data.applyCommands ⟨journal, live.core.data⟩ fun outcome after =>
      outcome = .error cause ∧ left after.core := by
    have fails : Ends Data.applyCommands ⟨live.journal, live.core.data⟩ fun outcome _ => outcome = .error cause :=
      (ends_of_error (eq_error_of_fault? panicked)).mpr rfl
    have same := (Data.applyCommands_uniform.blind ⟨live.journal, live.core.data⟩
      ⟨journal, live.core.data⟩ rfl).ends fails
    have interrupts : Ends Data.applyCommands ⟨journal, live.core.data⟩ _ :=
      (Data.applyCommands_interrupted recorded.based).and (Data.applyCommands_beside recorded.based)
    refine (same.and interrupts).mono ?_
    rintro _ _ ⟨rfl, interrupted, beside⟩
    exact ⟨rfl, interrupted cause rfl roomy, beside⟩
  obtain ⟨idle, ticks⟩ := tick_interrupted left applies delta
  obtain ⟨_, ended, _⟩ := eq_error_of_ends ticks
  obtain ⟨⟨⟨flaw, stops, survivors, born, entity, interrupted⟩, beside⟩, around⟩ :=
    ends_leaves.mp (ticks.mono fun _ _ ended => ended.2)
  have nothing {newcomer : Identity} (member : newcomer ∈ born.map Prod.fst ++ [entity])
      {resource : ResourceId} (registered : registry.kind? resource = some .entityComponent) :
      live.core.data.component? resource newcomer = none := by
    apply recorded.newcomer interrupted.grows interrupted.sound bounded ?_
      (interrupted.turnover.new newcomer member) registered
    rw [← Array.mem_toList_iff, interrupted.turnover.live]
    exact List.mem_append_right _ member
  refine ⟨fault?_of_error ended, idle, around.times.2, beside.memory,
    interrupted.commands, beside.viewports, beside.storages, interrupted.sound, flaw, stops, survivors, born,
    entity, interrupted.turnover, interrupted.each, fun resource registered => ⟨?_, ?_⟩⟩
  · intro newcomer blueprint member
    have new : newcomer ∈ born.map Prod.fst ++ [entity] :=
      List.mem_append_left _ (List.mem_map_of_mem (f := Prod.fst) member)
    rw [interrupted.complete resource member, nothing new registered, Option.or_none]
  · have new : entity ∈ born.map Prod.fst ++ [entity] := List.mem_append_right _ List.mem_cons_self
    rw [interrupted.begun resource, nothing new registered, Option.or_none]

/-- An entity is to go, and of three waiting blueprints the second has a component of viewports. -/
def flawedOperations : List (Operation Unit) :=
  [.queueSpawn [(8, .uint32 1)], .queueSpawn [(9, .uint32 2)], .applyCommands, .queueDespawn ⟨0, 0⟩,
   .queueSpawn [(8, .uint32 3)], .queueSpawn [(8, .uint32 4), (9, .uint32 5), (4, .uint32 6), (8, .uint32 7)],
   .queueSpawn []]

def flawedHistory : List (Data Unit) :=
  historyOf [Sample.start.data] ⟨Sample.journal, Sample.start⟩ flawedOperations

def flawedScene : Live (Scene Unit) := runAll flawedOperations ⟨Sample.journal, Sample.start⟩

/-- The second entity that comes to life is the last one, with the components before the refused one. -/
theorem interrupted_tick_residue_sample :
    History Sample.registry flawedHistory flawedScene ∧
      Data.applyCommands.fault? ⟨flawedScene.journal, flawedScene.core.data⟩ =
        some (.spawnTarget ⟨4, "size", .viewportComponent, "u32", 4, 4⟩) ∧
      Bounded (((tick .zero).leaves flawedScene).core.data :: flawedHistory) ∧
      tickJoinings .zero flawedScene = [] ∧
      ∃ flaw, Sample.registry.Stops flaw flawedScene.core.data.commands.spawns
          (.spawnTarget ⟨4, "size", .viewportComponent, "u32", 4, 4⟩) ∧
        ∃ (survivors : List Identity) (born : List (Identity × Blueprint)) (entity : Identity),
          Data.Turnover flawedScene.core.data survivors (born.map Prod.fst ++ [entity])
            ((tick .zero).leaves flawedScene).core.data ∧
          born.map Prod.snd = flaw.earlier ∧
          ((tick .zero).leaves flawedScene).core.data.component? 9 entity = flaw.given.last? 9 := by
  have made : History Sample.registry flawedHistory flawedScene :=
    (History.built Sample.start_created).runAll (by decide)
  have panicked : Data.applyCommands.fault? ⟨flawedScene.journal, flawedScene.core.data⟩ =
      some (.spawnTarget ⟨4, "size", .viewportComponent, "u32", 4, 4⟩) := by decide +kernel
  have bounded : Bounded (((tick .zero).leaves flawedScene).core.data :: flawedHistory) :=
    .of_length (by decide +kernel)
  obtain ⟨_, idle, _, _, _, _, _, _, flaw, stops, survivors, born, entity, turnover, each, components⟩ :=
    interrupted_tick_residue made .zero panicked (by decide) bounded
  have begun := (components 9 rfl).2
  rw [if_neg fun both => nomatch both.2] at begun
  exact ⟨made, panicked, bounded, idle, flaw, stops, survivors, born, entity, turnover, each, begun⟩

end Histories

end Scene

end EntityScene
