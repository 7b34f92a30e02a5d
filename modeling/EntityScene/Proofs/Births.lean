import EntityScene.Proofs.Blind
import EntityScene.Proofs.Inheritance
import EntityScene.Proofs.Roster

/-!
What becomes of the waiting requests. Applying them removes the entities that are to go and then brings
one entity to life for each blueprint, in order: the new entities stand at the end of the live ones, and
each has what its blueprint names.
-/

namespace EntityScene

open Act

variable {μ : Type}

namespace Pool

/-- The pool without the identities. -/
def removeAll (pool : Pool) (identities : List Identity) : Pool :=
  identities.foldl (fun pool identity => (pool.remove identity).2) pool

/-- The identities that the pool gives to blueprints in turn, with the blueprints, up to the first
refusal. -/
def births : List Blueprint → Pool → List (Identity × Blueprint)
  | [], _ => []
  | blueprint :: rest, pool =>
    match pool.emplace with
    | .ok (identity, grown) => (identity, blueprint) :: births rest grown
    | .error _ => []

/-- A new identity has an index of its own. -/
theorem emplace_apart {pool grown : Pool} {identity other : Identity} (sound : pool.Sound)
    (made : pool.emplace = .ok (identity, grown)) (member : other ∈ pool.live) :
    other.index ≠ identity.index := by
  obtain ⟨sound', pushed, fresh⟩ := emplace_spec sound made
  intro clash
  have here : identity ∈ grown.live := by
    rw [pushed]
    exact Array.mem_push_self
  have there : other ∈ grown.live := by
    rw [pushed]
    exact Array.mem_push_of_mem identity member
  rw [sound'.live_inj there here clash] at member
  exact fresh member

end Pool

namespace Data

/-- The entities that applying the waiting requests brings to life, with their blueprints. -/
def births (data : Data μ) : List (Identity × Blueprint) :=
  Pool.births data.commands.spawns (data.entities.removeAll data.commands.despawns)

section Spawning

variable {registry : Registry} {live : Live (Data μ)}

/-- Writing a component of an entity leaves those of identities with other indices alone. -/
theorem emplaceIndexed_apart {resource : ResourceId} {descriptor : Descriptor} {table : Indexed}
    (found : live.core.storages[resource]? = some ⟨descriptor, .indexed table⟩)
    (sound : Indexed.Sound descriptor.element.type table) (entity : Identity) (value : Value) :
    Ends (onStorageAt resource (Storage.onIndexed fun descriptor => Indexed.emplace descriptor entity value)) live
      fun _ after =>
        after.core.commands = live.core.commands ∧ ∀ other, other.index ≠ entity.index → ∀ place,
          after.core.component? place other = live.core.component? place other := by
  refine (emplaceIndexed_ends found sound entity value).mono ?_
  rintro outcome after ⟨changed, wrote, same⟩
  refine ⟨by rw [same]; rfl, fun other apart place => ?_⟩
  have spared : changed.component other = table.component other := by
    have vacated := Indexed.component_vacate table entity.index.toNat other
    rw [if_neg fun equal => apart (UInt32.toNat_inj.mp equal)] at vacated
    cases wrote with
    | refused => rfl
    | stopped => exact vacated
    | stored =>
        rw [Indexed.component_store, if_neg fun equal => apart (congrArg Identity.index equal), if_neg apart]
  rw [same, component?_withCells found]
  split
  · rename_i here
    rw [here, component?, cells_of_found found]
    exact spared
  · rfl

/-- Furnishing an entity leaves the components of identities with other indices alone. -/
theorem furnish_apart (based : SoundOver registry live.core) (entity : Identity) (blueprint : Blueprint) :
    Ends (furnish entity blueprint) live fun _ after =>
      after.core.commands = live.core.commands ∧ ∀ other, other.index ≠ entity.index → ∀ resource,
        after.core.component? resource other = live.core.component? resource other := by
  induction blueprint generalizing live with
  | nil => exact ⟨rfl, fun _ _ _ => rfl⟩
  | cons component rest ih =>
      obtain ⟨resource, value⟩ := component
      unfold furnish
      rw [ends_bind, ends_core, continues_ok, ends_bind, ends_ofExcept]
      cases described : live.core.registry.descriptor resource with
      | error cause => exact ⟨rfl, fun _ _ _ => rfl⟩
      | ok descriptor =>
          rw [continues_ok]
          split
          · rename_i sort
            obtain ⟨own, registered, kind⟩ := Registry.kind?_eq_some.mp (Registry.kind?_of_descriptor described)
            obtain ⟨table, found, sound⟩ := based.sound.indexed registered (by rw [kind, sort]; rfl)
            rw [ends_bind]
            refine ((keeps_onStorageAt (fun _ => Storage.keeps_emplaceIndexed entity value) live based).and
              (emplaceIndexed_apart found sound entity value)).mono ?_
            rintro outcome after ⟨based', commands, components⟩
            cases outcome with
            | error cause => exact ⟨commands, components⟩
            | ok _ =>
                rw [continues_ok]
                refine (ih based').mono ?_
                rintro _ final ⟨commands', components'⟩
                exact ⟨commands'.trans commands, fun other apart place =>
                  (components' other apart place).trans (components other apart place)⟩
          · exact ⟨rfl, fun _ _ _ => rfl⟩

theorem despawnAll_ends (targets : List Identity) (live : Live (Data μ)) :
    Ends (despawnAll targets) live fun outcome after => ∃ count, outcome = .ok count ∧
      after.core = { live.core with entities := live.core.entities.removeAll targets } := by
  induction targets generalizing live with
  | nil => exact ⟨0, rfl, rfl⟩
  | cons entity rest ih =>
      unfold despawnAll
      rw [ends_bind, ends_core, continues_ok]
      dsimp only
      rw [ends_bind, ends_update, continues_ok, ends_bind]
      refine (ih _).mono ?_
      rintro _ after ⟨count, rfl, same⟩
      exact ⟨_, rfl, same⟩

/-- The entities of blueprints stand after those that were live before, which have what they had. -/
structure Enrolled (before : Data μ) (born : List (Identity × Blueprint)) (blueprints : List Blueprint)
    (after : Data μ) : Prop where
  each : born.map Prod.snd = blueprints
  live : after.entities.live.toList = before.entities.live.toList ++ born.map Prod.fst
  others {entity : Identity} (resource : ResourceId) : entity ∈ before.entities.live →
    after.component? resource entity = before.component? resource entity
  commands : after.commands = before.commands

/-- What has come of blueprints: their entities are there and have what the blueprints name. -/
structure Spawned (before : Data μ) (born : List (Identity × Blueprint)) (blueprints : List Blueprint)
    (after : Data μ) : Prop extends Enrolled before born blueprints after where
  furnished {entity : Identity} {blueprint : Blueprint} {resource : ResourceId} {value : Value} :
    (entity, blueprint) ∈ born → blueprint.last? resource = some value →
      after.component? resource entity = some value

/-- What has come of blueprints, said of every resource: a new entity has what its blueprint names, and where
it names nothing what was there for the identity before. -/
structure Equipped (before : Data μ) (born : List (Identity × Blueprint)) (blueprints : List Blueprint)
    (after : Data μ) : Prop extends Enrolled before born blueprints after where
  sound : after.entities.Sound
  grows : Pool.Grows before.entities after.entities
  furnished {entity : Identity} {blueprint : Blueprint} (resource : ResourceId) : (entity, blueprint) ∈ born →
    after.component? resource entity = (blueprint.last? resource).or (before.component? resource entity)

namespace Equipped

variable {before between after : Data μ} {born : List (Identity × Blueprint)} {blueprints : List Blueprint}
  {entity : Identity} {blueprint : Blueprint}

/-- The indices of new entities are not in use before. -/
theorem apart (equipped : Equipped before born blueprints after) {other : Identity}
    (member : other ∈ before.entities.live) (new : (entity, blueprint) ∈ born) : other.index ≠ entity.index := by
  have distinct := equipped.sound.live_indices
  rw [equipped.live, List.map_append, List.nodup_append] at distinct
  exact distinct.2.2 _ (List.mem_map_of_mem member.val) _
    (List.mem_map_of_mem (List.mem_map_of_mem (f := Prod.fst) new))

/-- One entity is furnished before the others come to life. -/
theorem cons (rests : Equipped between born blueprints after)
    (now : between.entities.live = before.entities.live.push entity)
    (grows : Pool.Grows before.entities between.entities)
    (own : ∀ resource, between.component? resource entity =
      (blueprint.last? resource).or (before.component? resource entity))
    (others : ∀ other, other.index ≠ entity.index → ∀ resource,
      between.component? resource other = before.component? resource other)
    (old : ∀ other ∈ before.entities.live, other.index ≠ entity.index)
    (commands : between.commands = before.commands) :
    Equipped before ((entity, blueprint) :: born) (blueprint :: blueprints) after := by
  have here : entity ∈ between.entities.live := by
    rw [now]
    exact Array.mem_push_self
  refine ⟨⟨?_, ?_, ?_, rests.commands.trans commands⟩, rests.sound, grows.trans rests.grows, ?_⟩
  · rw [List.map_cons, rests.each]
  · rw [rests.live, now, Array.toList_push, List.append_assoc]
    rfl
  · intro other resource member
    have there : other ∈ between.entities.live := by
      rw [now]
      exact Array.mem_push_of_mem entity member
    exact (rests.others resource there).trans (others other (old other member) resource)
  · intro other named resource member
    rcases List.mem_cons.mp member with same | later
    · cases same
      rw [rests.others resource here, own]
    · rw [rests.furnished resource later, others other (rests.apart here later).symm]

theorem spawned (equipped : Equipped before born blueprints after) : Spawned before born blueprints after where
  toEnrolled := equipped.toEnrolled
  furnished {entity blueprint resource value} member last := by
    rw [equipped.furnished resource member, last]
    rfl

end Equipped

/-- Creating entities for blueprints, if it gets through. -/
theorem spawnAll_equipped (based : SoundOver registry live.core) (blueprints : List Blueprint) :
    Ends (spawnAll blueprints) live fun outcome after => outcome = .ok () →
      Equipped live.core (Pool.births blueprints live.core.entities) blueprints after.core := by
  induction blueprints generalizing live with
  | nil =>
      exact fun _ => ⟨⟨rfl, (List.append_nil _).symm, fun _ _ => rfl, rfl⟩, based.sound.entities, .refl _,
        by rintro _ _ _ ⟨⟩⟩
  | cons blueprint rest ih =>
      unfold spawnAll newEntity
      rw [ends_bind, ends_bind, ends_core, continues_ok, ends_bind, ends_ofExcept]
      cases made : live.core.entities.emplace with
      | error cause => rintro ⟨⟩
      | ok answer =>
          obtain ⟨entity, entities⟩ := answer
          obtain ⟨sound, grown, _⟩ := Pool.emplace_spec based.sound.entities made
          have based' : SoundOver registry { live.core with entities } :=
            ⟨{ based.sound with entities := sound }, based.registry⟩
          rw [continues_ok, ends_bind, ends_update, continues_ok, ends_pure, continues_ok, ends_bind]
          refine ((furnish_ends based' entity blueprint).and (furnish_apart based' entity blueprint)).mono ?_
          rintro outcome after ⟨⟨based'', entities', own⟩, commands, others⟩
          cases outcome with
          | error cause => rintro ⟨⟩
          | ok _ =>
              rw [continues_ok]
              refine (ih based'').mono ?_
              intro outcome final equipped completed
              have born : Pool.births (blueprint :: rest) live.core.entities =
                  (entity, blueprint) :: Pool.births rest after.core.entities := by
                rw [Pool.births, made, entities']
              rw [born]
              refine (equipped completed).cons (by rw [entities', ← grown]) ?_ (own rfl) others ?_ commands
              · rw [entities']
                exact Pool.emplace_grows based.sound.entities made
              · exact fun other => Pool.emplace_apart based.sound.entities made

/-- The data from which the blueprints are spawned: nothing waits any more, and the entities that were to go
are gone. -/
def emptied (data : Data μ) : Data μ :=
  { data with
    entities := data.entities.removeAll data.commands.despawns
    commands := .empty }

/-- What has come of the waiting requests: the entities that were to go are gone, the blueprints have come
to life, and nothing waits any more. -/
def Applied (before : Data μ) (born : List (Identity × Blueprint)) (after : Data μ) : Prop :=
  Spawned before.emptied born before.commands.spawns after

/-- The waiting requests come down to the spawning for their blueprints. -/
theorem applyCommands_settles (based : SoundOver registry live.core)
    {post : Except Fault Unit → Live (Data μ) → Prop}
    (spawns : ∀ journal, SoundOver registry live.core.emptied →
      Ends (spawnAll live.core.commands.spawns) ⟨journal, live.core.emptied⟩ fun outcome after =>
        ∀ journal', post outcome ⟨journal', after.core⟩) :
    Ends applyCommands live post := by
  unfold applyCommands
  rw [ends_bind, ends_core, continues_ok]
  dsimp only
  rw [ends_bind, ends_update, continues_ok, ends_bind]
  have cleared : SoundOver registry { live.core with commands := .empty } :=
    ⟨{ based.sound with }, based.registry⟩
  refine ((despawnAll_ends live.core.commands.despawns _).and
    ((soundOver_despawns registry).despawnAll live.core.commands.despawns
      ⟨live.journal, { live.core with commands := .empty }⟩ cleared)).mono ?_
  rintro _ ⟨journal, data⟩ ⟨⟨count, rfl, rfl⟩, based'⟩
  rw [continues_ok, ends_bind]
  refine (spawns journal based').mono ?_
  intro outcome final holds
  cases outcome with
  | error cause => exact holds _
  | ok _ =>
      rw [continues_ok]
      split
      · exact holds _
      · exact holds _

/-- The waiting requests, if they are applied to their end. -/
theorem applyCommands_spawned (based : SoundOver registry live.core) :
    Ends applyCommands live fun outcome after => outcome = .ok () →
      live.core.Applied live.core.births after.core := by
  apply applyCommands_settles based
  intro journal based'
  refine (spawnAll_equipped based' live.core.commands.spawns).mono ?_
  exact fun _ _ equipped _ completed => (equipped completed).spawned

end Spawning

end Data

end EntityScene
