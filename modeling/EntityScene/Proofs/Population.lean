import EntityScene.Proofs.Inheritance
import EntityScene.Proofs.Issuance
import EntityScene.Proofs.Occupancy
import EntityScene.Proofs.Requests

/-!
How far the indices of identities reach. A pool takes a new slot only when all its slots are in use, so it
has as many slots as identities were ever live at once. A scene stores components at the indices of the
identities they belong to, so a table of components never holds more values than that, however many
identities have come and gone.
-/

namespace EntityScene

open Act

variable {μ α : Type}

namespace Pool

/-- The most identities that were live in one of the states. -/
def peak (states : List Pool) : Nat := states.foldr (fun pool most => max pool.count most) 0

@[simp] theorem peak_cons (pool : Pool) (states : List Pool) :
    peak (pool :: states) = max pool.count (peak states) := rfl

/-- The states of a pool that goes on by calls, with the newest first. -/
def statesOf (states : List Pool) (pool : Pool) : List Operation → List Pool
  | [] => states
  | operation :: rest => statesOf ((pool.step operation).2 :: states) (pool.step operation).2 rest

theorem Sound.count_le {pool : Pool} (sound : pool.Sound) : pool.count ≤ pool.slots.size := by
  have balanced := sound.balanced
  simp only [count]
  omega

theorem Sound.index_lt {pool : Pool} (sound : pool.Sound) {identity : Identity} (live : identity ∈ pool.live) :
    identity.index.toNat < pool.slots.size := by
  obtain ⟨position, found⟩ := Array.mem_iff_getElem?.mp live
  exact (Array.getElem?_eq_some_iff.mp (sound.live_seat found)).1

/-- The pool went on without a slot more than the identities that are live needed. -/
structure Fills (before after : Pool) : Prop where
  sound : after.Sound
  slots : after.slots.size = max before.slots.size after.count

section Steps

variable {pool : Pool}

/-- No slot is added. -/
theorem Sound.fills {before : Pool} (sound : pool.Sound) (same : pool.slots.size = before.slots.size) :
    Fills before pool := by
  have fits := sound.count_le
  exact ⟨sound, by omega⟩

theorem remove_fills (sound : pool.Sound) (identity : Identity) : Fills pool (pool.remove identity).2 :=
  (remove_sound sound identity).fills (remove_slots_size pool identity)

/-- A slot is added only where none is free. -/
theorem emplace_slots {identity : Identity} {grown : Pool} (made : pool.emplace = .ok (identity, grown)) :
    grown.slots.size = if pool.free = [] then pool.slots.size + 1 else pool.slots.size := by
  unfold emplace at made
  split at made
  · rename_i index free listed
    cases made
    simp [listed]
  · rename_i listed
    split at made
    · cases made
      simp [listed]
    · cases made

theorem emplace_fills (sound : pool.Sound) {identity : Identity} {grown : Pool}
    (made : pool.emplace = .ok (identity, grown)) : Fills pool grown := by
  obtain ⟨sound', live, _⟩ := emplace_spec sound made
  have slots := emplace_slots made
  by_cases full : pool.free = []
  · -- The live identities fill all the slots that were there, and the new one needs one more.
    have balanced := sound.balanced
    simp only [full, if_true, List.length_nil] at slots balanced
    refine ⟨sound', ?_⟩
    simp only [count, live, Array.size_push]
    omega
  · rw [if_neg full] at slots
    exact sound'.fills slots

theorem step_fills (sound : pool.Sound) (operation : Operation) : Fills pool (pool.step operation).2 := by
  cases operation with
  | remove identity => exact remove_fills sound identity
  | emplace =>
      unfold step
      cases made : pool.emplace with
      | error cause => exact sound.fills rfl
      | ok answer => exact emplace_fills sound made

/-- A pool that has gone on may go on by a new identity. -/
theorem Fills.emplace {base grown : Pool} (fills : Fills base pool) {identity : Identity}
    (made : pool.emplace = .ok (identity, grown)) : Fills base grown := by
  have next := emplace_fills fills.sound made
  have live := (emplace_spec fills.sound made).2.1
  have more : pool.count ≤ grown.count := by simp [count, live]
  have slots := fills.slots
  have slots' := next.slots
  exact ⟨next.sound, by omega⟩

end Steps

/-- The states of a pool that was empty at first and never took a slot that it did not need, with the
newest first. -/
inductive Frugal : List Pool → Prop
  | start : Frugal [Pool.empty]
  | step {before after : Pool} {earlier : List Pool} (frugal : Frugal (before :: earlier))
    (fills : Fills before after) : Frugal (after :: before :: earlier)

namespace Frugal

variable {pool : Pool} {earlier states : List Pool}

theorem sound (frugal : Frugal (pool :: earlier)) : pool.Sound := by
  cases frugal with
  | start => exact empty_sound
  | step _ fills => exact fills.sound

/-- There are as many slots as identities were ever live at once. -/
theorem slots (frugal : Frugal (pool :: earlier)) : pool.slots.size = peak (pool :: earlier) := by
  induction earlier generalizing pool with
  | nil =>
      cases frugal
      rfl
  | cons before earlier ih =>
      cases frugal with
      | step frugal fills => rw [fills.slots, ih frugal, peak_cons pool, Nat.max_comm]

/-- Whatever was issued has an index below the peak. -/
theorem index_lt (frugal : Frugal states) {identity : Identity} (issued : Issued states identity) :
    identity.index.toNat < peak states := by
  obtain ⟨pool, member, live⟩ := issued
  induction frugal with
  | start => simp [Pool.empty, List.mem_singleton.mp member] at live
  | @step before after earlier frugal fills ih =>
      rcases List.mem_cons.mp member with rfl | past
      · rw [← (frugal.step fills).slots]
        exact fills.sound.index_lt live
      · have inside := ih past
        rw [peak_cons after]
        omega

theorem statesOf (frugal : Frugal (pool :: earlier)) (operations : List Operation) :
    ∃ before, Frugal (Pool.statesOf (pool :: earlier) pool operations) ∧
      Pool.statesOf (pool :: earlier) pool operations = (pool.run operations).2 :: before := by
  induction operations generalizing pool earlier with
  | nil => exact ⟨earlier, frugal, rfl⟩
  | cons operation rest ih => exact ih (frugal.step (step_fills frugal.sound operation))

end Frugal

theorem statesOf_suffix (states : List Pool) (pool : Pool) (operations : List Operation) :
    states <:+ statesOf states pool operations := by
  induction operations generalizing states pool with
  | nil => exact List.suffix_refl states
  | cons operation rest ih => exact (List.suffix_cons _ states).trans (ih _ _)

theorem step_live {pool : Pool} (sound : pool.Sound) {operation : Operation} {identity : Identity}
    (answer : (pool.step operation).1 = .issued identity) : identity ∈ (pool.step operation).2.live := by
  cases operation with
  | remove => cases answer
  | emplace =>
      unfold step at answer ⊢
      cases made : pool.emplace with
      | error cause => simp [made] at answer
      | ok given =>
          simp only [made, Answer.issued.injEq] at answer
          simp [(emplace_spec sound made).2.1, answer]

/-- What the calls give out is live in one of the states. -/
theorem issued_of_issues {pool : Pool} (sound : pool.Sound) (states : List Pool) {operations : List Operation}
    {identity : Identity} (given : identity ∈ issues (pool.run operations).1) :
    Issued (statesOf states pool operations) identity := by
  induction operations generalizing pool states with
  | nil => cases given
  | cons operation rest ih =>
      have later := ih (step_sound sound operation) ((pool.step operation).2 :: states)
      rw [run, issues, List.filterMap_cons] at given
      cases answer : (pool.step operation).1 with
      | removed wasLive =>
          rw [answer] at given
          exact later given
      | failed cause =>
          rw [answer] at given
          exact later given
      | issued first =>
          rw [answer] at given
          rcases List.mem_cons.mp given with rfl | others
          · have now := (statesOf_suffix ((pool.step operation).2 :: states) (pool.step operation).2 rest).mem
              List.mem_cons_self
            exact ⟨_, now, step_live sound answer⟩
          · exact later others

end Pool

/-- A table whose filled slots lie below the bound holds no more values than that. -/
theorem Indexed.held_le {table : Indexed} {bound : Nat}
    (inside : ∀ index entry, table.slots[index]? = some (some entry) → index < bound) : table.held ≤ bound := by
  have nothing : (table.slots.toList.drop bound).filterMap (fun slot => slot.map Prod.snd) = [] := by
    rw [List.filterMap_eq_nil_iff]
    intro slot member
    obtain ⟨position, found⟩ := List.mem_iff_getElem?.mp member
    rw [List.getElem?_drop, Array.getElem?_toList] at found
    cases slot with
    | none => rfl
    | some entry =>
        have below := inside _ entry found
        omega
  have short := List.length_filterMap_le (fun slot => slot.map Prod.snd) (table.slots.toList.take bound)
  have most := List.length_take_le bound table.slots.toList
  rw [held, values, ← List.take_append_drop bound table.slots.toList, List.filterMap_append, nothing,
    List.append_nil]
  omega

namespace Data

theorem SoundOver.cells_sound {registry : Registry} {data : Data μ} (based : SoundOver registry data)
    (resource : ResourceId) : ∃ type, (data.cells resource).Sound type := by
  unfold cells
  split
  · rename_i storage found
    obtain ⟨descriptor, _, serves⟩ := based.exists_serves found
    exact ⟨_, serves.values⟩
  · exact ⟨.uint32, trivial⟩

/-- The data are over the registry, and both pools have gone on from the base without a slot more than they
needed. -/
structure Peopled (registry : Registry) (base data : Data μ) : Prop where
  registry : data.registry = registry
  entities : Pool.Fills base.entities data.entities
  viewports : Pool.Fills base.viewports data.viewports

/-- No entity has come to life yet. -/
structure Thinned (registry : Registry) (base data : Data μ) : Prop extends Peopled registry base data where
  slots : data.entities.slots.size = base.entities.slots.size

namespace Peopled

variable {registry : Registry} {base : Data μ}

theorem refl (based : SoundOver registry base) : Peopled registry base base where
  registry := based.registry
  entities := based.sound.entities.fills rfl
  viewports := based.sound.viewports.fills rfl

theorem poolOf {data : Data μ} (peopled : Peopled registry base data) (kind : Kind) :
    Pool.Fills (base.poolOf kind) (data.poolOf kind) := by
  unfold Data.poolOf
  split
  · exact peopled.viewports
  · exact peopled.entities

theorem onStorageAt (resource : ResourceId) (act : Act Storage α) :
    Keeps (Peopled registry base) (Data.onStorageAt resource act) :=
  onStorageAt_keeps (fun _ _ peopled => { peopled with }) resource act

theorem onStorage (resource : ResourceId) (act : Act Storage α) :
    Keeps (Peopled registry base) (Data.onStorage resource act) :=
  onStorage_keeps (fun _ _ peopled => { peopled with }) resource act

theorem run (plan : Plan) (callback : Callback μ) : Keeps (Peopled registry base) (Join.run plan callback) := by
  have tolerates : Join.Tolerates plan (fun _ _ => True) (Peopled registry base) :=
    { viewports := fun _ _ => trivial
      entities := fun _ _ => trivial
      memory := fun _ peopled => { peopled with }
      spawns := fun _ _ peopled => { peopled with }
      scalar := fun _ _ => onStorageAt _ _
      indexed := fun _ _ _ => onStorageAt _ _ }
  exact Join.run_keeps tolerates callback

theorem iterate (inputs outputs : List ResourceId) (callback : Callback μ) :
    Keeps (Peopled registry base) (Data.iterate inputs outputs callback) := by
  unfold Data.iterate
  apply Keeps.bind_core
  intro data _
  split
  · exact .pure _
  · exact .bind (run _ callback) fun _ => .pure _

/-- Despawns take no slot, so the spawns after them first fill the slots that the base had. -/
theorem applyCommands {live : Live (Data μ)} (thinned : Thinned registry base live.core) :
    Ends Data.applyCommands live fun _ after => Peopled registry base after.core := by
  have despawns : Despawns (Thinned registry base) :=
    { commands := fun _ thinned => { thinned with }
      remove := by
        intro data entity thinned
        have slots := (Pool.remove_slots_size data.entities entity).trans thinned.slots
        have sound := Pool.remove_sound thinned.entities.sound entity
        exact { thinned with entities := sound.fills slots, slots } }
  have spawns : Spawns registry (Peopled registry base) :=
    { based := fun peopled => peopled.registry
      emplace := by
        intro data entity entities peopled made
        have live := (Pool.emplace_spec peopled.entities.sound made).2.1
        exact ⟨{ peopled with entities := peopled.entities.emplace made }, by simp [live]⟩
      component := by
        intro resource _ entity value _ _
        exact onStorageAt_keeps (fun _ _ kept => ⟨{ kept.1 with }, kept.2⟩) resource _ }
  exact applyCommands_ends despawns spawns (fun _ thinned => thinned.toPeopled) thinned

theorem endTick : Keeps (Peopled registry base) (Data.endTick : Act (Data μ) Unit) :=
  endTick_keeps fun resource => onStorageAt resource _

end Peopled

end Data

namespace Scene

section Steps

variable {registry : Registry} {live : Live (Scene μ)}

theorem write_peopled (based : Data.SoundOver registry live.core.data) (resource : ResourceId)
    (act : Act Storage α) :
    Ends (onData (Data.onStorage resource act)) live fun _ after =>
      Data.Peopled registry live.core.data after.core.data :=
  ends_onData.mpr (Data.Peopled.onStorage resource act _ (.refl based))

theorem emplaceIndexed_peopled (based : Data.SoundOver registry live.core.data) (kind : Kind)
    (resource : ResourceId) (identity : Identity) (value : Value) :
    Ends (emplaceIndexed kind resource identity value) live fun _ after =>
      Data.Peopled registry live.core.data after.core.data := by
  rcases emplaceIndexed_or kind resource identity value live with ⟨cause, refused⟩ | written
  · rw [ends_of_error refused]
    exact .refl based
  · rw [ends_congr written]
    exact write_peopled based resource _

/-- Every operation takes only the slots that it needs. -/
theorem perform_peopled (based : Data.SoundOver registry live.core.data) (operation : Operation μ) :
    Ends operation.perform live fun _ after => Data.Peopled registry live.core.data after.core.data := by
  have begun := Data.Peopled.refl based
  cases operation with
  | tick delta =>
      have thinned : Data.Thinned registry live.core.data live.core.data := { begun with slots := rfl }
      have ticked := tick_ends (fun _ thinned => Data.Peopled.applyCommands thinned)
        (fun resource value => Data.Peopled.onStorage resource _)
        (fun planned _ => Data.Peopled.run planned.plan planned.job.callback) Data.Peopled.endTick delta
        thinned rfl
      exact ticked.mono fun _ _ kept => kept.1
  | iterate inputs outputs callback =>
      have joined : Keeps (fun scene : Scene μ => Data.Peopled registry live.core.data scene.data ∧
          scene.updates = live.core.updates) (Operation.iterate inputs outputs callback).perform := by
        refine .bind (.bind (onData_keeps (Data.Peopled.iterate inputs outputs callback)) fun answer => ?_)
          fun _ => .pure ()
        split
        · exact .pure _
        · exact .pure _
      exact (joined live ⟨begun, rfl⟩).mono fun _ _ kept => kept.1
  | queueSpawn | queueDespawn | remember => exact { begun with }
  | addViewport =>
      unfold Operation.perform addViewport
      rw [ends_bind, ends_bind, ends_core, continues_ok, ends_bind, ends_ofExcept]
      cases made : live.core.data.viewports.emplace with
      | error cause => exact begun
      | ok answer => exact { begun with viewports := Pool.emplace_fills based.sound.viewports made }
  | removeViewport viewport =>
      exact { begun with viewports := Pool.remove_fills based.sound.viewports viewport }
  | emplaceEntityComponent resource entity value =>
      exact emplaceIndexed_peopled based _ resource entity value
  | emplaceViewportComponent resource viewport value =>
      exact emplaceIndexed_peopled based _ resource viewport value
  | emplaceScalar | sendEvent | clearEvents | write =>
      rw [perform_change rfl]
      exact write_peopled based _ _
  | applyCommands =>
      rw [Operation.perform, ends_onData]
      exact Data.Peopled.applyCommands { begun with slots := rfl }

end Steps

section Histories

variable {registry : Registry} {history : List (Data μ)} {live : Live (Scene μ)}

/-- The pools of a scene never take a slot that they do not need. -/
theorem History.frugal (made : History registry history live) (kind : Kind) :
    Pool.Frugal (poolsOf history kind) := by
  induction made with
  | @built jobs config start after scene created =>
      have lineage := (built_recorded created).lineage kind
      simp only [poolsOf, List.map_cons, List.map_nil] at lineage ⊢
      cases same : scene.data.poolOf kind
      rw [same] at lineage
      cases lineage
      exact .start
  | @step history live earlier operation regular frugal =>
      obtain ⟨⟨past, rfl⟩, based, _⟩ := earlier.recorded
      have peopled := ends_leaves.mp (perform_peopled based operation)
      exact frugal.step (peopled.poolOf kind)

/-- Every component is at the index of an identity that its pool has issued. -/
theorem History.held_le (made : History registry history live) {kind : Kind} {resource : ResourceId}
    {table : Indexed} (registered : registry.kind? resource = some kind)
    (here : live.core.data.cells resource = .indexed table) : table.held ≤ Pool.peak (poolsOf history kind) := by
  have recorded := made.recorded
  apply Indexed.held_le
  rintro index ⟨owner, value⟩ held
  obtain ⟨type, sound⟩ := recorded.based.cells_sound resource
  rw [here] at sound
  have indexed := (sound index owner value held).1
  rw [← recorded.based.registry] at registered
  have owned := recorded.owned resource kind registered
  rw [here] at owned
  rw [← indexed]
  exact (made.frugal kind).index_lt (owned index owner value held)

/-- A pool has as many slots as identities were ever live at once, and what it gives out has an index
below that. So a component of a scene never holds more values, those of removed identities included, than
there ever were entities or viewports at once. -/
theorem indices_below_peak :
    (∀ operations : List Pool.Operation,
      let peak := Pool.peak (Pool.statesOf [.empty] .empty operations)
      (Pool.empty.run operations).2.slots.size = peak ∧
        ∀ identity ∈ Pool.issues (Pool.empty.run operations).1, identity.index.toNat < peak) ∧
    ∀ (registry : Registry) (history : List (Data μ)) (live : Live (Scene μ)), History registry history live →
      ∀ (kind : Kind) (resource : ResourceId) (table : Indexed), registry.kind? resource = some kind →
        live.core.data.cells resource = .indexed table → table.held ≤ Pool.peak (poolsOf history kind) := by
  constructor
  · intro operations
    obtain ⟨before, frugal, same⟩ := Pool.Frugal.start.statesOf operations
    constructor
    · rw [same] at frugal ⊢
      exact frugal.slots
    · intro identity given
      exact frugal.index_lt (Pool.issued_of_issues Pool.empty_sound [.empty] given)
  · intro registry history live made kind resource table registered here
    exact made.held_le registered here

/-- Two entities with health are replaced by one without. -/
def sampleReplaced : List (Operation Unit) :=
  [.queueSpawn [(8, .uint32 1)], .queueSpawn [(8, .uint32 2)], .tick .zero,
   .queueDespawn ⟨0, 0⟩, .queueDespawn ⟨1, 0⟩, .queueSpawn [], .tick .zero]

/-- The pool gives out three identities with room for two. In the scene one entity is left, and the table
holds what the two before it had. -/
theorem indices_below_peak_sample :
    let operations : List Pool.Operation := [.emplace, .emplace, .remove ⟨0, 0⟩, .emplace, .remove ⟨1, 0⟩]
    let live := runAll sampleReplaced ⟨Sample.journal, Sample.start⟩
    let history := historyOf [Sample.start.data] ⟨Sample.journal, Sample.start⟩ sampleReplaced
    Pool.issues (Pool.empty.run operations).1 = [⟨0, 0⟩, ⟨1, 0⟩, ⟨0, 1⟩] ∧
      (Pool.empty.run operations).2.count = 1 ∧ (Pool.empty.run operations).2.slots.size = 2 ∧
      History Sample.registry history live ∧ live.core.data.entities.count = 1 ∧
      ∃ table, live.core.data.cells 8 = .indexed table ∧ table.held = 2 ∧
        table.held ≤ Pool.peak (poolsOf history .entityComponent) := by
  have made : History Sample.registry (historyOf [Sample.start.data] ⟨Sample.journal, Sample.start⟩ sampleReplaced)
      (runAll sampleReplaced ⟨Sample.journal, Sample.start⟩) :=
    (History.built Sample.start_created).runAll (by decide)
  obtain ⟨pools, tables⟩ := @indices_below_peak Unit
  have recorded := made.recorded
  have registered : (runAll sampleReplaced ⟨Sample.journal, Sample.start⟩).core.data.registry.get? 8 =
      some ⟨8, "health", .entityComponent, .plain .uint32⟩ := by
    rw [recorded.based.registry]
    rfl
  obtain ⟨table, found, _⟩ := recorded.based.sound.indexed registered rfl
  have here := Data.cells_of_found found
  have filled : ((runAll sampleReplaced ⟨Sample.journal, Sample.start⟩).core.data.cells 8).held.card = 2 := by
    decide +kernel
  rw [here] at filled
  exact ⟨by decide +kernel, by decide +kernel, (pools _).1.trans (by decide +kernel), made, by decide +kernel,
    table, here, filled, tables _ _ _ made _ 8 table rfl here⟩

end Histories

end Scene

end EntityScene
