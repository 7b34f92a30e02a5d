import EntityScene.Proofs.PoolHistory
import EntityScene.Proofs.Visit

/-!
Owners of components. A slot of a component table remembers the identity that it was written for, also
after that identity is gone. Whatever is written is written for identities that are known, so only known
identities own anything.
-/

namespace EntityScene

open Act

variable {μ α σ : Type}

/-- The slots of the table were written for known identities. -/
def Indexed.OwnedBy (known : Identity → Prop) (table : Indexed) : Prop :=
  ∀ (index : Nat) (owner : Identity) (value : Value),
    table.slots[index]? = some (some (owner, value)) → known owner

def Cells.OwnedBy (known : Identity → Prop) : Cells → Prop
  | .indexed table => table.OwnedBy known
  | .scalar _ | .events _ | .requests => True

theorem Cells.OwnedBy.mono {known wider : Identity → Prop} {cells : Cells} (owned : cells.OwnedBy known)
    (widens : ∀ identity, known identity → wider identity) : cells.OwnedBy wider := by
  cases cells with
  | indexed table => exact fun index owner value held => widens owner (owned index owner value held)
  | scalar | events | requests => trivial

section Tables

variable {known : Identity → Prop} {table : Indexed}

theorem Indexed.OwnedBy.grow (owned : table.OwnedBy known) (index : Nat) : (table.grow index).OwnedBy known := by
  intro other owner value held
  unfold Indexed.grow at held
  dsimp only at held
  rw [Array.getElem?_append] at held
  split at held
  · exact owned other owner value held
  · rw [Array.getElem?_replicate] at held
    split at held
    · cases held
    · cases held

theorem Indexed.OwnedBy.putSlot (owned : table.OwnedBy known) (index : Nat)
    {slot : Option (Identity × Value)} (writer : ∀ owner value, slot = some (owner, value) → known owner) :
    (table.putSlot index slot).OwnedBy known := by
  intro other owner value held
  unfold Indexed.putSlot at held
  dsimp only at held
  rw [Array.getElem?_setIfInBounds] at held
  split at held
  · split at held
    · exact writer owner value (Option.some.inj held)
    · cases held
  · exact owned other owner value held

theorem Descriptor.check_keeps {invariant : σ → Prop} (descriptor : Descriptor) (value : Value) :
    Keeps invariant (descriptor.check value) := by
  unfold check
  split
  · exact .pure ()
  · exact .fault _

theorem Descriptor.destroy_keeps {invariant : σ → Prop} (descriptor : Descriptor) (value : Value) :
    Keeps invariant (descriptor.destroy value) := by
  unfold destroy
  split
  · split
    · exact .bind (.enter _ _) fun _ => .fault _
    · exact .enter _ _
  · exact .fault _

theorem Descriptor.copy_keeps {invariant : σ → Prop} (descriptor : Descriptor) (value : Value) :
    Keeps invariant (descriptor.copy value) := by
  unfold copy
  split
  · split
    · exact .bind (.enter _ _) fun _ => .fault _
    · exact .bind (.enter _ _) fun _ => .pure value
  · exact .fault _

/-- A component is written for a known identity, and at every moment of the writing its table is owned by
known ones. -/
theorem Indexed.emplace_ownedBy (descriptor : Descriptor) {identity : Identity} (value : Value)
    (writer : known identity) : Keeps (Indexed.OwnedBy known) (Indexed.emplace descriptor identity value) := by
  unfold Indexed.emplace
  refine .bind (descriptor.check_keeps value) fun _ => ?_
  refine .bind (.update fun _ owned => owned.grow _) fun _ => .bind_core fun table _ => ?_
  have stores : Keeps (Indexed.OwnedBy known) (do
      let copy ← descriptor.copy value
      Act.update fun table => table.putSlot identity.index.toNat (some (identity, copy))) := by
    refine .bind (descriptor.copy_keeps value) fun copy => .update fun _ owned => owned.putSlot _ ?_
    rintro _ _ ⟨⟩
    exact writer
  split
  · refine .bind (.update fun _ owned => owned.putSlot _ fun _ _ never => nomatch never) fun _ => ?_
    exact .bind (descriptor.destroy_keeps _) fun _ => stores
  · exact .bind (.update fun _ owned => owned) fun _ => stores

end Tables

namespace Storage

variable {known : Identity → Prop}

theorem emplaceIndexed_ownedBy {identity : Identity} (value : Value) (writer : known identity) :
    Keeps (fun storage : Storage => storage.cells.OwnedBy known)
      (onIndexed fun descriptor => Indexed.emplace descriptor identity value) := by
  rintro ⟨journal, descriptor, cells⟩ owned
  cases cells with
  | indexed table =>
      rw [ends_onIndexed]
      exact Indexed.emplace_ownedBy descriptor value writer ⟨journal, table⟩ owned
  | scalar | events | requests => trivial

theorem onScalar_ownedBy (act : Descriptor → Act Scalar α) :
    Keeps (fun storage : Storage => storage.cells.OwnedBy known) (onScalar act) := by
  rintro ⟨journal, descriptor, cells⟩ owned
  cases cells with
  | scalar value =>
      rw [ends_onScalar]
      exact ends_leaves.mpr trivial
  | indexed | events | requests => exact owned

theorem onEvents_ownedBy (act : Descriptor → Act Events α) :
    Keeps (fun storage : Storage => storage.cells.OwnedBy known) (onEvents act) := by
  rintro ⟨journal, descriptor, cells⟩ owned
  cases cells with
  | events list =>
      rw [ends_onEvents]
      exact ends_leaves.mpr trivial
  | scalar | indexed | requests => exact owned

theorem endTick_ownedBy : Keeps (fun storage : Storage => storage.cells.OwnedBy known) endTick := by
  rintro ⟨journal, descriptor, cells⟩ owned
  unfold endTick
  rw [ends_bind, ends_core, continues_ok]
  cases cells with
  | events list =>
      unfold within
      rw [ends_focus]
      exact ends_leaves.mpr trivial
  | scalar | indexed | requests => exact owned

end Storage

namespace Data

variable {registry : Registry} {entities viewports : Pool} {known : Kind → Identity → Prop}

/-- The components of each kind were written for known identities. -/
def Owned (known : Kind → Identity → Prop) (data : Data μ) : Prop :=
  ∀ (resource : ResourceId) (kind : Kind), data.registry.kind? resource = some kind →
    (data.cells resource).OwnedBy (known kind)

theorem Owned.mono {wider : Kind → Identity → Prop} {data : Data μ} (owned : data.Owned known)
    (widens : ∀ kind identity, known kind identity → wider kind identity) : data.Owned wider :=
  fun resource kind registered => (owned resource kind registered).mono (widens kind)

/-- An identity that is not known holds nothing. -/
theorem Owned.component?_eq_none {data : Data μ} {resource : ResourceId} {kind : Kind} {identity : Identity}
    (owned : data.Owned known) (registered : data.registry.kind? resource = some kind)
    (unknown : ¬known kind identity) : data.component? resource identity = none := by
  have writers := owned resource kind registered
  unfold component?
  cases here : data.cells resource with
  | indexed table =>
      rw [here] at writers
      change table.component identity = none
      unfold Indexed.component
      split
      · rename_i owner value found
        have other : owner ≠ identity := fun same => unknown (same ▸ writers _ owner value found)
        rw [if_neg other]
      · rfl
  | scalar | events | requests => rfl

/-- Data over the registry with these pools, whose components are owned by known identities. -/
structure Held (registry : Registry) (entities viewports : Pool) (known : Kind → Identity → Prop)
    (data : Data μ) : Prop where
  registry : data.registry = registry
  entities : data.entities = entities
  viewports : data.viewports = viewports
  owned : data.Owned known

theorem held_onStorageAt {resource : ResourceId} {act : Act Storage α}
    (keeps : ∀ kind, registry.kind? resource = some kind →
      Keeps (fun storage : Storage => storage.cells.OwnedBy (known kind)) act) :
    Keeps (Held registry entities viewports known : Data μ → Prop) (onStorageAt resource act) := by
  intro live held
  cases found : live.core.storages[resource]? with
  | none =>
      rw [ends_onStorageAt_missing found]
      exact held
  | some storage =>
      have owned := held.owned
      rw [ends_onStorageAt found]
      have changes : Ends act ⟨live.journal, storage⟩ fun _ after => ∀ kind,
          registry.kind? resource = some kind → after.core.cells.OwnedBy (known kind) := by
        -- The components of a resource that is not registered are nobody's concern.
        cases sort : registry.kind? resource with
        | none => exact .of_forall fun _ _ _ never => nomatch never
        | some kind =>
            have before := owned resource kind (by rw [held.registry]; exact sort)
            rw [Data.cells, found] at before
            refine (keeps kind sort ⟨live.journal, storage⟩ before).mono ?_
            rintro _ after owned _ ⟨⟩
            exact owned
      refine changes.mono fun _ after own => ⟨held.registry, held.entities, held.viewports, ?_⟩
      intro other kind registered
      rw [cells_set found]
      split
      · rename_i same
        refine own kind ?_
        rw [← same, ← held.registry]
        exact registered
      · exact owned other kind registered

theorem held_onStorage {resource : ResourceId} {act : Act Storage α}
    (keeps : ∀ kind, registry.kind? resource = some kind →
      Keeps (fun storage : Storage => storage.cells.OwnedBy (known kind)) act) :
    Keeps (Held registry entities viewports known : Data μ → Prop) (onStorage resource act) := by
  intro live held
  exact onStorage_ends (fun _ _ => held) (held_onStorageAt keeps live held)

/-- New data have empty pools and nothing is owned. -/
theorem create_held {entityCapacity viewportCapacity : Nat} {memory : μ} {data : Data μ}
    (made : create registry entityCapacity viewportCapacity memory = .ok data) :
    Held registry .empty .empty known data := by
  obtain ⟨rfl, _⟩ := create_sound made
  refine ⟨rfl, rfl, rfl, fun resource kind _ => ?_⟩
  obtain ⟨shape, same⟩ := create_cells made resource
  rw [same]
  cases shape with
  | indexed => exact fun index owner value held => by simp [Indexed.empty] at held
  | scalar | events | requests => trivial

/-- A run writes components of live identities only. -/
theorem run_held {reads writes : List ResourceId} {plan : Plan}
    (accepted : Plan.make registry reads writes = .ok plan)
    (ofViewports : ∀ identity ∈ viewports.live, known .viewportComponent identity)
    (ofEntities : ∀ identity ∈ entities.live, known .entityComponent identity) (callback : Callback μ) :
    Keeps (Held registry entities viewports known) (Join.run plan callback) := by
  have fits := Plan.make_fits accepted
  have tolerates : Join.Tolerates plan known (Held registry entities viewports known : Data μ → Prop) :=
    { viewports := fun held member => ofViewports _ (by rw [← held.viewports]; exact member)
      entities := fun held member => ofEntities _ (by rw [← held.entities]; exact member)
      memory := fun _ held => ⟨held.registry, held.entities, held.viewports, held.owned⟩
      spawns := fun _ _ held => ⟨held.registry, held.entities, held.viewports, held.owned⟩
      scalar := fun _ _ => held_onStorageAt fun _ _ => Storage.onScalar_ownedBy _
      indexed := fun value declared writer => held_onStorageAt fun sort registered => by
        rw [fits.output_kind _ declared] at registered
        cases registered
        exact Storage.emplaceIndexed_ownedBy value writer }
  exact Join.run_keeps tolerates callback

section Phases

variable {issued : Kind → Identity → Prop} {base : Data μ}

/-- The identity was issued before or is live now. -/
def Known (issued : Kind → Identity → Prop) (data : Data μ) (kind : Kind) (identity : Identity) : Prop :=
  issued kind identity ∨ identity ∈ (data.poolOf kind).live

/-- The data in the course of an operation that began with `base`: the pools went on as in one operation,
and the components belong to identities that were issued before the operation or are live now. -/
structure Stepped (registry : Registry) (issued : Kind → Identity → Prop) (base data : Data μ) : Prop where
  based : SoundOver registry data
  entities : Pool.Evolves base.entities data.entities
  viewports : Pool.Evolves base.viewports data.viewports
  owned : data.Owned (Known issued data)

theorem Stepped.refl (based : SoundOver registry base) (owned : base.Owned issued) :
    Stepped registry issued base base :=
  ⟨based, .refl _, .refl _, owned.mono fun _ _ earlier => Or.inl earlier⟩

theorem Stepped.held {data : Data μ} (stepped : Stepped registry issued base data) :
    Held registry data.entities data.viewports (Known issued data) data :=
  ⟨stepped.based.registry, rfl, rfl, stepped.owned⟩

/-- Data with the same pools whose components are still owned by identities known before. -/
theorem Stepped.of_held {data after : Data μ} (stepped : Stepped registry issued base data)
    (based : SoundOver registry after)
    (held : Held registry data.entities data.viewports (Known issued data) after) :
    Stepped registry issued base after where
  based := based
  entities := by
    rw [held.entities]
    exact stepped.entities
  viewports := by
    rw [held.viewports]
    exact stepped.viewports
  owned := by
    refine held.owned.mono fun kind identity known => ?_
    unfold Known Data.poolOf at known ⊢
    rw [held.entities, held.viewports]
    exact known

/-- An act that leaves the pools alone and writes components of live identities only. -/
theorem Stepped.keeps {act : Act (Data μ) α} (sound : Keeps (SoundOver registry) act)
    (holds : ∀ {entities viewports : Pool} {known : Kind → Identity → Prop},
      (∀ identity ∈ viewports.live, known .viewportComponent identity) →
      (∀ identity ∈ entities.live, known .entityComponent identity) →
      Keeps (Held registry entities viewports known) act) :
    Keeps (Stepped registry issued base) act := by
  intro live stepped
  refine ((sound live stepped.based).and
    (holds (fun _ => Or.inr) (fun _ => Or.inr) live stepped.held)).mono ?_
  rintro _ after ⟨based, held⟩
  exact stepped.of_held based held

/-- The data while entities are removed. -/
structure Despawning (registry : Registry) (issued : Kind → Identity → Prop) (base data : Data μ) : Prop where
  based : SoundOver registry data
  entities : Pool.Shrinks base.entities data.entities
  viewports : data.viewports = base.viewports
  owned : data.Owned issued

theorem despawning_despawns : Despawns (Despawning registry issued base) where
  commands _ kept :=
    ⟨⟨{ kept.based.sound with }, kept.based.registry⟩, kept.entities, kept.viewports, kept.owned⟩
  remove entity kept :=
    { based := (soundOver_despawns registry).remove entity kept.based
      entities := kept.entities.trans (Pool.remove_shrinks kept.based.sound.entities entity)
      viewports := kept.viewports
      owned := kept.owned }

theorem Despawning.stepped {data : Data μ} (despawning : Despawning registry issued base data) :
    Stepped registry issued base data where
  based := despawning.based
  entities := ⟨_, despawning.entities, .refl _⟩
  viewports := by
    rw [despawning.viewports]
    exact .refl _
  owned := despawning.owned.mono fun _ _ earlier => Or.inl earlier

theorem stepped_spawns : Spawns registry (Stepped registry issued base) where
  based kept := kept.based.registry
  emplace {data entity pool} kept made := by
    obtain ⟨based, member⟩ := (soundOver_spawns registry).emplace kept.based made
    obtain ⟨middle, shrinks, grows⟩ := kept.entities
    have grown := Pool.emplace_grows kept.based.sound.entities made
    refine ⟨⟨based, ⟨middle, shrinks, grows.trans grown⟩, kept.viewports, ?_⟩, member⟩
    refine kept.owned.mono fun kind identity known => known.imp_right fun live => ?_
    unfold Data.poolOf at live ⊢
    split
    · rename_i same
      rw [if_pos same] at live
      exact live
    · rename_i other
      rw [if_neg other] at live
      exact grown.live kept.based.sound.entities based.sound.entities live
  component {resource descriptor} entity value found kind := by
    rintro live ⟨stepped, member⟩
    have registered := Registry.kind?_of_descriptor found
    rw [kind] at registered
    have writes : ∀ sort, registry.kind? resource = some sort →
        Keeps (fun storage : Storage => storage.cells.OwnedBy (Known issued live.core sort))
          (Storage.onIndexed fun descriptor => Indexed.emplace descriptor entity value) := by
      intro sort other
      rw [registered] at other
      cases other
      exact Storage.emplaceIndexed_ownedBy value (Or.inr member)
    refine ((keeps_onStorageAt (fun _ => Storage.keeps_emplaceIndexed entity value) live stepped.based).and
      (held_onStorageAt writes live stepped.held)).mono ?_
    rintro _ after ⟨based, held⟩
    refine ⟨stepped.of_held based held, ?_⟩
    rw [held.entities]
    exact member

end Phases

end Data

end EntityScene
