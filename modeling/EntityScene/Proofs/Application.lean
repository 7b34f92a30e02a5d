import EntityScene.Proofs.Verdict
import Mathlib.Data.List.Nodup

/-!
The waiting requests, applied to their end. The entities that are left are those that were live and are not
to go, in any order and however often they were named; the new ones stand behind them in the order of the
requests. Nothing else in the scene is touched, and whether the requests can be applied does not depend on
the order or repetition of the entities that are to go either, unless a value that they leave behind cannot
be destroyed.
-/

namespace EntityScene

open Act

variable {μ : Type}

theorem erase_middle {front back : List Identity} {identity : Identity}
    (distinct : (front ++ identity :: back).Nodup) : (front ++ identity :: back).erase identity = front ++ back := by
  have behind : identity ∉ front := fun member =>
    (List.nodup_append.mp distinct).2.2 _ member _ List.mem_cons_self rfl
  rw [List.erase_append_right _ behind, List.erase_cons_head]

/-- A removal takes one identity from a list without repetition. -/
theorem Roster.Step.erases {before after : List Identity} {identity : Identity} {answer : Pool.Answer}
    (step : Roster.Step before (.remove identity) answer after) (distinct : before.Nodup) :
    after.Perm (before.erase identity) := by
  cases step with
  | last => rw [erase_middle distinct, List.append_nil]
  | @inner front middle _ moved =>
      rw [erase_middle distinct]
      exact List.Perm.append_left front (List.perm_append_singleton moved middle).symm
  | absent absent => rw [List.erase_of_not_mem absent]

namespace Pool

section Removals

variable {pool : Pool} (sound : pool.Sound) (targets : List Identity)

include sound

theorem Sound.live_nodup : pool.live.toList.Nodup := List.Nodup.of_map _ sound.live_indices

theorem removeAll_sound : (pool.removeAll targets).Sound := by
  induction targets generalizing pool with
  | nil => exact sound
  | cons target rest ih => exact ih (remove_sound sound target)

theorem removeAll_shrinks : Shrinks pool (pool.removeAll targets) := by
  induction targets generalizing pool with
  | nil => exact .refl pool
  | cons target rest ih => exact (remove_shrinks sound target).trans (ih (remove_sound sound target))

/-- Those that are left were live and are not among the targets. -/
theorem removeAll_perm :
    (pool.removeAll targets).live.toList.Perm
      (pool.live.toList.filter fun identity => identity ∉ targets) := by
  induction targets generalizing pool with
  | nil =>
      rw [List.filter_eq_self.mpr fun _ _ => by simp]
      rfl
  | cons target rest ih =>
      have first := (remove_refines sound target).erases sound.live_nodup
      refine ((ih (remove_sound sound target)).trans (first.filter _)).trans (.of_eq ?_)
      rw [sound.live_nodup.erase_eq_filter, List.filter_filter]
      apply List.filter_congr
      intro identity _
      rw [Bool.eq_iff_iff]
      simp [and_comm]

end Removals

end Pool

namespace Data

variable {registry : Registry} {live : Live (Data μ)} {before after : Data μ}

/-- Nothing but entities, their components and the waiting requests has changed. -/
structure Beside (registry : Registry) (before after : Data μ) : Prop where
  based : SoundOver registry after
  viewports : after.viewports = before.viewports
  memory : after.memory = before.memory
  storages (resource : ResourceId) : registry.kind? resource ≠ some .entityComponent →
    after.storages[resource]? = before.storages[resource]?

theorem beside_despawns : Despawns (Beside registry before) where
  commands commands beside := ⟨(soundOver_despawns registry).commands commands beside.based, beside.viewports,
    beside.memory, beside.storages⟩
  remove entity beside := ⟨(soundOver_despawns registry).remove entity beside.based, beside.viewports,
    beside.memory, beside.storages⟩

theorem beside_spawns : Spawns registry (Beside registry before) where
  based beside := beside.based.registry
  emplace beside made := by
    obtain ⟨based, member⟩ := (soundOver_spawns registry).emplace beside.based made
    exact ⟨⟨based, beside.viewports, beside.memory, beside.storages⟩, member⟩
  component {resource descriptor} entity value described kind live holds := by
    obtain ⟨beside, member⟩ := holds
    have registered := Registry.kind?_of_descriptor described
    rw [kind] at registered
    refine (((soundOver_spawns registry).component entity value described kind live ⟨beside.based, member⟩).and
      ((onStorageAt_frame resource _ live).and (onStorageAt_others resource _ live))).mono ?_
    rintro _ after ⟨⟨based, member'⟩, same, others⟩
    refine ⟨⟨based, ?_, ?_, fun other plain => ?_⟩, member'⟩
    · rw [same]
      exact beside.viewports
    · rw [same]
      exact beside.memory
    · have apart : other ≠ resource := by
        rintro rfl
        exact plain registered
      exact (others other apart).trans (beside.storages other plain)

/-- The waiting requests leave everything else alone, however their application ends. -/
theorem applyCommands_beside (based : SoundOver registry live.core) :
    Ends applyCommands live fun _ after => Beside registry live.core after.core :=
  applyCommands_ends beside_despawns beside_spawns (fun _ beside => beside) ⟨based, rfl, rfl, fun _ _ => rfl⟩

/-- The entities that are to go are gone, and newcomers stand behind the survivors, who keep what they
have. -/
structure Turnover (before : Data μ) (survivors newcomers : List Identity) (after : Data μ) : Prop where
  live : after.entities.live.toList = survivors ++ newcomers
  remaining : survivors.Perm
    (before.entities.live.toList.filter fun entity => entity ∉ before.commands.despawns)
  distinct : newcomers.Nodup
  new : ∀ entity ∈ newcomers, entity ∉ before.entities.live
  kept : ∀ entity ∈ survivors, ∀ resource,
    after.component? resource entity = before.component? resource entity

theorem Equipped.turnover {born : List (Identity × Blueprint)} {blueprints : List Blueprint}
    (sound : before.entities.Sound) (equipped : Equipped before.emptied born blueprints after) :
    Turnover before before.emptied.entities.live.toList (born.map Prod.fst) after := by
  have distinct := equipped.sound.live_nodup
  rw [equipped.live, List.nodup_append] at distinct
  refine ⟨equipped.live, Pool.removeAll_perm sound _, distinct.2.1, fun entity new => ?_,
    fun entity member resource => equipped.others resource (Array.mem_toList_iff.mp member)⟩
  apply (Pool.removeAll_shrinks sound before.commands.despawns).newcomer equipped.grows sound
    (Pool.removeAll_sound sound _) equipped.sound
  · rw [← Array.mem_toList_iff, equipped.live]
    exact List.mem_append_right _ new
  · exact fun member => distinct.2.2 _ member.val _ new rfl

/-- The number of entities that the waiting requests leave. -/
theorem Turnover.count {survivors newcomers : List Identity}
    (turnover : Turnover before survivors newcomers after) :
    after.entities.count =
      (before.entities.live.toList.filter fun entity => entity ∉ before.commands.despawns).length +
        newcomers.length := by
  rw [Pool.count, ← Array.length_toList, turnover.live, List.length_append, turnover.remaining.length_eq]

/-- Of those that were live before, the ones that are not to go are live. -/
theorem Turnover.stays {survivors newcomers : List Identity}
    (turnover : Turnover before survivors newcomers after) {entity : Identity}
    (present : entity ∈ before.entities.live) :
    entity ∈ after.entities.live ↔ entity ∉ before.commands.despawns := by
  rw [← Array.mem_toList_iff, turnover.live, List.mem_append, turnover.remaining.mem_iff, List.mem_filter,
    decide_eq_true_iff, Array.mem_toList_iff]
  constructor
  · rintro (⟨_, stays⟩ | new)
    · exact stays
    · exact absurd present (turnover.new entity new)
  · exact fun stays => Or.inl ⟨present, stays⟩

/-- What the waiting requests come to, once they are applied to their end. -/
theorem applyCommands_turnover (based : SoundOver registry live.core) {after : Live (Data μ)}
    (applied : applyCommands live = .ok () after) :
    ∃ (survivors : List Identity) (born : List (Identity × Blueprint)),
      Turnover live.core survivors (born.map Prod.fst) after.core ∧
        born.map Prod.snd = live.core.commands.spawns ∧ after.core.commands = .empty ∧
        ∀ entity blueprint, (entity, blueprint) ∈ born → ∀ resource value,
          blueprint.last? resource = some value → after.core.component? resource entity = some value := by
  have equipped : Ends applyCommands live fun outcome after => outcome = .ok () →
      Equipped live.core.emptied (Pool.births live.core.commands.spawns live.core.emptied.entities)
        live.core.commands.spawns after.core := by
    apply applyCommands_settles based
    intro journal based'
    exact (spawnAll_equipped based' _).mono fun _ _ equipped _ => equipped
  have ended := (ends_of_ok applied).mp equipped rfl
  exact ⟨_, _, ended.turnover based.sound.entities, ended.each, ended.commands,
    fun _ _ member _ _ last => ended.spawned.furnished member last⟩

/-- Whether the waiting requests can be applied depends on the entities that are to go as a set only, unless a
value cannot be destroyed: who goes first decides what the newcomers find in their places. -/
theorem applyCommands_congr (based : SoundOver registry live.core) {after : Live (Data μ)}
    (applied : applyCommands live = .ok () after) {others : List Identity}
    (same : ∀ entity, entity ∈ others ↔ entity ∈ live.core.commands.despawns) (journal : Journal) :
    (∃ cause after', registry.Hinders live.core.commands.spawns cause ∧
      applyCommands ⟨journal, { live.core with commands.despawns := others }⟩ = .error cause after') ∨
    ∃ after', applyCommands ⟨journal, { live.core with commands.despawns := others }⟩ = .ok () after' := by
  have based' : SoundOver registry { live.core with commands.despawns := others } :=
    (soundOver_despawns registry).commands { live.core.commands with despawns := others } based
  have room : (live.core.entities.removeAll others).live.size = live.core.emptied.entities.live.size := by
    rw [← Array.length_toList, ← Array.length_toList, (Pool.removeAll_perm based.sound.entities _).length_eq]
    refine Eq.trans ?_ (Pool.removeAll_perm based.sound.entities _).length_eq.symm
    simp only [same]
  have verdict' : Ends applyCommands ⟨journal, { live.core with commands.despawns := others }⟩ _ :=
    applyCommands_verdict based'
  rcases (ends_of_ok applied).mp (applyCommands_verdict based) with verdict | ⟨_, ⟨⟩, _⟩
  rw [← room] at verdict
  cases ended : applyCommands ⟨journal, { live.core with commands.despawns := others }⟩ with
  | ok _ after' => exact .inr ⟨after', rfl⟩
  | error cause after' =>
      rw [ends_of_error ended] at verdict'
      rcases verdict' with expected | ⟨_, ⟨⟩, hinders⟩
      · exact nomatch verdict.trans expected.symm
      · exact .inl ⟨cause, after', hinders, rfl⟩

end Data

namespace Scene

/-- Applying the waiting requests leaves nothing waiting. Those that were live and are not to go stay with all
their components, and one new entity for each blueprint stands behind them, in the order of the requests and
with the last value that its blueprint gives for each resource. Viewports, their components, scene components
and events stay as they are. The same entities to go in another order or repeated make no difference to who
stays and how many there are, unless the requests then meet a value that cannot be destroyed. -/
theorem waiting_requests_settle {registry : Registry} {scene : Live (Scene μ)}
    (reachable : Reachable registry scene) {after : Live (Data μ)}
    (applied : Data.applyCommands ⟨scene.journal, scene.core.data⟩ = .ok () after) :
    let before := scene.core.data
    after.core.commands = .empty ∧
    (∃ (survivors : List Identity) (born : List (Identity × Blueprint)),
      Data.Turnover before survivors (born.map Prod.fst) after.core ∧
        born.map Prod.snd = before.commands.spawns ∧
        ∀ entity blueprint, (entity, blueprint) ∈ born → ∀ resource value,
          blueprint.last? resource = some value → after.core.component? resource entity = some value) ∧
    after.core.entities.count =
      (before.entities.live.toList.filter fun entity => entity ∉ before.commands.despawns).length +
        before.commands.spawns.length ∧
    after.core.viewports = before.viewports ∧
    (∀ resource, registry.kind? resource ≠ some .entityComponent →
      after.core.storages[resource]? = before.storages[resource]?) ∧
    ∀ others : List Identity, (∀ entity, entity ∈ others ↔ entity ∈ before.commands.despawns) →
      (∃ cause after', registry.Hinders before.commands.spawns cause ∧
        Data.applyCommands ⟨scene.journal, { before with commands.despawns := others }⟩ = .error cause after') ∨
      ∃ after', Data.applyCommands ⟨scene.journal, { before with commands.despawns := others }⟩ = .ok () after' ∧
        after'.core.entities.count = after.core.entities.count ∧
        ∀ entity ∈ before.entities.live,
          entity ∈ after'.core.entities.live ↔ entity ∈ after.core.entities.live := by
  intro before
  have based := reachable.soundOver
  obtain ⟨survivors, born, turnover, each, nothing, furnished⟩ := Data.applyCommands_turnover based applied
  have beside := (ends_of_ok applied).mp (Data.applyCommands_beside based)
  have count := turnover.count
  rw [List.length_map, ← List.length_map Prod.snd, each] at count
  refine ⟨nothing, ⟨survivors, born, turnover, each, furnished⟩, count, beside.viewports, beside.storages, ?_⟩
  intro others same
  apply (Data.applyCommands_congr based applied same scene.journal).imp id
  rintro ⟨after', applied'⟩
  obtain ⟨_, born', turnover', each', _⟩ := Data.applyCommands_turnover
    ((Data.soundOver_despawns registry).commands { before.commands with despawns := others } based) applied'
  have count' := turnover'.count
  rw [List.length_map, ← List.length_map Prod.snd, each'] at count'
  refine ⟨after', applied', ?_, fun entity present => ?_⟩
  · rw [count', count]
    simp only [same]
    rfl
  · rw [turnover'.stays present, turnover.stays present]
    exact not_congr (same entity)

/-- Of three entities one is asked to go twice, and so is one that never was; two blueprints wait. -/
def crowdOperations : List (Operation Unit) :=
  [.queueSpawn [(8, .uint32 1)], .queueSpawn [(9, .uint32 2)], .queueSpawn [], .addViewport, .applyCommands,
   .queueDespawn ⟨0, 0⟩, .queueDespawn ⟨7, 3⟩, .queueDespawn ⟨0, 0⟩,
   .queueSpawn [(8, .uint32 3), (8, .uint32 4)], .queueSpawn []]

def crowd : Live (Scene Unit) := runAll crowdOperations ⟨Sample.journal, Sample.start⟩

theorem waiting_requests_settle_sample :
    Reachable Sample.registry crowd ∧
      ∃ after, Data.applyCommands ⟨crowd.journal, crowd.core.data⟩ = .ok () after ∧
        after.core.commands = .empty ∧ after.core.entities.count = 4 ∧
        after.core.viewports = crowd.core.data.viewports ∧
        ∃ (survivors : List Identity) (born : List (Identity × Blueprint)),
          Data.Turnover crowd.core.data survivors (born.map Prod.fst) after.core ∧ born.length = 2 := by
  have reachable : Reachable Sample.registry crowd :=
    ⟨[], .default, ⟨{}, ()⟩, Sample.start, _, crowdOperations, Sample.start_created, rfl⟩
  have applied : Data.applyCommands.answer? ⟨crowd.journal, crowd.core.data⟩ = some () := by decide +kernel
  obtain ⟨nothing, ⟨survivors, born, turnover, each, _⟩, count, viewports, _⟩ :=
    waiting_requests_settle reachable (eq_ok_of_answer? applied)
  have number : born.length = crowd.core.data.commands.spawns.length := by rw [← each, List.length_map]
  refine ⟨reachable, _, eq_ok_of_answer? applied, nothing, count.trans ?_, viewports, survivors, born, turnover,
    number.trans ?_⟩
  · decide +kernel
  · decide +kernel

end Scene

end EntityScene
