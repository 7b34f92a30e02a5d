import EntityScene.Proofs.Births

/-!
How the spawning of entities ends. Whether a component can be given to an entity depends on the registry
alone, unless a value that is in its way cannot be destroyed. So the outcome is known beforehand from the
blueprints and from how many entities there is room for: the first component that is refused, or the first
blueprint without room, decides.
-/

namespace EntityScene

open Act

variable {μ : Type}

/-- A value was not copied or not destroyed, and its place is empty. -/
def Fault.vacates : Fault → Bool
  | .copyRefused _ | .destroyRefused _ => true
  | _ => false

/-- A component of a list of blueprints, with what stands before and after it. -/
structure Flaw where
  earlier : List Blueprint
  given : Blueprint
  component : ResourceId × Value
  rest : Blueprint
  later : List Blueprint

namespace Registry

/-- Why a component of a blueprint cannot be given to an entity. -/
def refusal? (registry : Registry) (component : ResourceId × Value) : Option Fault :=
  match registry.get? component.1 with
  | none => some (.noDescriptor component.1 registry.size)
  | some descriptor =>
    if descriptor.kind ≠ .entityComponent then some (.spawnTarget descriptor.label)
    else if component.2.type ≠ descriptor.element.type then some (.wrongElement descriptor.label)
    else (descriptor.element.declines component.2).map .copyRefused

/-- The component belongs to a resource with a value whose destruction fails, and this is the fault. -/
def Obstructs (registry : Registry) (component : ResourceId × Value) (cause : Fault) : Prop :=
  ∃ descriptor, registry.get? component.1 = some descriptor ∧ descriptor.kind = .entityComponent ∧
    component.2.type = descriptor.element.type ∧
    ∃ old message, descriptor.element.retains old = some message ∧ cause = .destroyRefused message

/-- The component cannot be given, or what is in its place cannot be destroyed. -/
def Refuses (registry : Registry) (component : ResourceId × Value) (cause : Fault) : Prop :=
  registry.refusal? component = some cause ∨ registry.Obstructs component cause

/-- A component of the blueprints has a value in its way whose destruction fails. -/
def Hinders (registry : Registry) (blueprints : List Blueprint) (cause : Fault) : Prop :=
  ∃ blueprint ∈ blueprints, ∃ component ∈ blueprint, registry.Obstructs component cause

/-- Every component of the blueprint can be given to an entity. -/
def Admits (registry : Registry) (blueprint : Blueprint) : Prop :=
  ∀ component ∈ blueprint, registry.refusal? component = none

/-- How the spawning for blueprints ends where there is room for so many entities. -/
def verdict (registry : Registry) : Nat → List Blueprint → Except Fault Unit
  | _, [] => .ok ()
  | 0, _ :: _ => .error .poolExhausted
  | room + 1, blueprint :: rest =>
    match blueprint.findSome? registry.refusal? with
    | some cause => .error cause
    | none => registry.verdict room rest

/-- The component of the blueprints is refused, and it is the first. -/
structure Stops (registry : Registry) (flaw : Flaw) (blueprints : List Blueprint) (cause : Fault) : Prop where
  queue : blueprints = flaw.earlier ++ (flaw.given ++ flaw.component :: flaw.rest) :: flaw.later
  admitted : ∀ blueprint ∈ flaw.earlier ++ [flaw.given], registry.Admits blueprint
  refused : registry.Refuses flaw.component cause

end Registry

namespace Data

section Spawning

variable {registry : Registry} {live : Live (Data μ)}

/-- A registered component is given to an entity or refused. Where the value is not copied, or what was there
is not destroyed, the entity has nothing of the resource any more. -/
theorem emplaceIndexed_verdict (based : SoundOver registry live.core) {resource : ResourceId}
    {descriptor : Descriptor} (registered : registry.get? resource = some descriptor)
    (kind : descriptor.kind = .entityComponent) (entity : Identity) (value : Value) :
    Ends (onStorageAt resource (Storage.onIndexed fun descriptor => Indexed.emplace descriptor entity value)) live
      fun outcome after =>
      match outcome with
      | .ok _ => registry.refusal? (resource, value) = none ∧ SoundOver registry after.core
      | .error cause => registry.Refuses (resource, value) cause ∧ ∀ place, after.core.component? place entity =
          if place = resource ∧ cause.vacates then none else live.core.component? place entity := by
  have described := based.registry ▸ registered
  obtain ⟨table, found, sound⟩ := based.sound.indexed described (by rw [kind]; rfl)
  refine ((keeps_onStorageAt (fun _ => Storage.keeps_emplaceIndexed entity value) live based).and
    (emplaceIndexed_ends found sound entity value)).mono ?_
  rintro outcome after ⟨based', changed, wrote, same⟩
  have components (place : ResourceId) : after.core.component? place entity =
      if place = resource then changed.component entity else live.core.component? place entity := by
    rw [same, component?_withCells found]
    rfl
  have judged : registry.refusal? (resource, value) =
      if value.type ≠ descriptor.element.type then some (.wrongElement descriptor.label)
      else (descriptor.element.declines value).map .copyRefused := by
    simp only [Registry.refusal?, registered, kind, ne_eq, not_true_eq_false, if_false]
  cases wrote with
  | refused mistyped =>
      refine ⟨.inl (judged.trans (if_pos mistyped)), fun place => ?_⟩
      have own : live.core.component? resource entity = table.component entity := by
        rw [component?, cells_of_found found]
        rfl
      rw [components]
      by_cases here : place = resource
      · simp [here, own, Fault.vacates]
      · simp [here]
  | @stopped cause typed stops =>
      have vacated (empties : cause.vacates = true) (place : ResourceId) :
          after.core.component? place entity =
            if place = resource ∧ cause.vacates then none else live.core.component? place entity := by
        rw [components, Indexed.component_vacate, if_pos rfl]
        simp only [empties, and_true]
      rcases Descriptor.replacing_error stops with ⟨old, _, message, retains, rfl⟩ | ⟨message, declines, rfl⟩
      · exact ⟨.inr ⟨descriptor, registered, kind, typed, old, message, retains, rfl⟩, vacated rfl⟩
      · refine ⟨.inl ?_, vacated rfl⟩
        rw [judged, if_neg (not_not.mpr typed), declines]
        rfl
  | stored typed replaces =>
      refine ⟨?_, based'⟩
      rw [judged, if_neg (not_not.mpr typed), (Descriptor.replacing_ok replaces).2]
      rfl

/-- One component of a blueprint is given or refused. The refusals that do not come from the element change
nothing. -/
theorem furnish_one (based : SoundOver registry live.core) (entity : Identity)
    (component : ResourceId × Value) :
    Ends (furnish entity [component]) live fun outcome after =>
      match outcome with
      | .ok _ => registry.refusal? component = none ∧ SoundOver registry after.core
      | .error cause => registry.Refuses component cause ∧ ∀ place, after.core.component? place entity =
          if place = component.1 ∧ cause.vacates then none else live.core.component? place entity := by
  obtain ⟨resource, value⟩ := component
  unfold furnish
  rw [ends_bind, ends_core, continues_ok, ends_bind, ends_ofExcept, based.registry, Registry.descriptor]
  have spared {cause : Fault} (plain : cause.vacates = false) (place : ResourceId) :
      live.core.component? place entity =
        if place = resource ∧ cause.vacates then none else live.core.component? place entity := by
    simp [plain]
  cases registered : registry.get? resource with
  | none =>
      refine ⟨.inl ?_, spared rfl⟩
      simp only [Registry.refusal?, registered]
  | some descriptor =>
      rw [continues_ok]
      by_cases kind : descriptor.kind = .entityComponent
      · rw [if_pos kind, ends_bind]
        refine (emplaceIndexed_verdict based registered kind entity value).mono ?_
        intro outcome after verdict
        cases outcome with
        | ok _ => exact verdict
        | error cause => exact verdict
      · rw [if_neg kind]
        refine ⟨.inl ?_, spared rfl⟩
        simp only [Registry.refusal?, registered, ne_eq, kind, not_false_eq_true, if_true]

theorem furnish_append (entity : Identity) (given rest : Blueprint) :
    (furnish entity (given ++ rest) : Act (Data μ) Unit) =
      (furnish entity given >>= fun _ => furnish entity rest) := by
  induction given with
  | nil => rfl
  | cons component others ih =>
      rw [List.cons_append, furnish, furnish, ih]
      simp only [bind_assoc]
      congr 1
      funext data
      congr 1
      funext descriptor
      split
      · rw [bind_assoc]
      · rfl

/-- Furnishing an entity ends with the first component that is refused, after what stands before it was
given. -/
theorem furnish_stops (based : SoundOver registry live.core) (entity : Identity) (blueprint : Blueprint) :
    Ends (furnish entity blueprint) live fun outcome after =>
      match outcome with
      | .ok _ => registry.Admits blueprint
      | .error cause => ∃ given component rest middle, blueprint = given ++ component :: rest ∧
          registry.Admits given ∧ registry.Refuses component cause ∧
          furnish entity given live = .ok () middle ∧ furnish entity [component] middle = .error cause after := by
  induction blueprint generalizing live with
  | nil => exact List.forall_mem_nil _
  | cons component rest ih =>
      have one := furnish_one based entity component
      rw [← List.singleton_append, furnish_append, ends_bind]
      cases gave : furnish entity [component] live with
      | error cause after =>
          rw [ends_of_error gave] at one ⊢
          exact ⟨[], component, rest, live, rfl, List.forall_mem_nil _, one.1, rfl, gave⟩
      | ok _ after =>
          rw [ends_of_ok gave] at one ⊢
          rw [continues_ok]
          refine (ih one.2).mono ?_
          intro outcome final stops
          cases outcome with
          | ok _ => exact List.forall_mem_cons.mpr ⟨one.1, stops⟩
          | error cause =>
              obtain ⟨given, refused, later, middle, rfl, admitted, refuses, reached, fails⟩ := stops
              refine ⟨component :: given, refused, later, middle, rfl,
                List.forall_mem_cons.mpr ⟨one.1, admitted⟩, refuses, ?_, fails⟩
              rw [← List.singleton_append, furnish_append, bind_of_ok gave]
              exact reached

/-- Furnishing an entity ends as the registry says, unless a value cannot be destroyed. -/
theorem furnish_verdict (based : SoundOver registry live.core) (entity : Identity) (blueprint : Blueprint) :
    Ends (furnish entity blueprint) live fun outcome _ =>
      outcome = (blueprint.findSome? registry.refusal?).elim (.ok ()) .error ∨
        ∃ cause, outcome = .error cause ∧ ∃ component ∈ blueprint, registry.Obstructs component cause := by
  refine (furnish_stops based entity blueprint).mono ?_
  intro outcome _ stops
  cases outcome with
  | ok _ =>
      rw [List.findSome?_eq_none_iff.mpr stops]
      exact .inl rfl
  | error cause =>
      obtain ⟨given, component, rest, _, rfl, admitted, refused | obstructed, _⟩ := stops
      · rw [List.findSome?_eq_some_iff.mpr ⟨given, component, rest, rfl, refused, admitted⟩]
        exact .inl rfl
      · exact .inr ⟨cause, rfl, component, List.mem_append_right _ List.mem_cons_self, obstructed⟩

/-- A new entity is the last one and takes one of the places that are left; it fails to come to life only if
there is none. -/
theorem newEntity_ends (based : SoundOver registry live.core) :
    Ends newEntity live fun outcome after =>
      match outcome with
      | .ok entity => SoundOver registry after.core ∧
          after.core.entities.live.toList.getLast? = some entity ∧
          Identity.indexCap - live.core.entities.live.size =
            Identity.indexCap - after.core.entities.live.size + 1
      | .error cause => cause = .poolExhausted ∧ live.core.entities.live.size = Identity.indexCap := by
  unfold newEntity
  rw [ends_bind, ends_core, continues_ok, ends_bind, ends_ofExcept]
  cases made : live.core.entities.emplace with
  | error cause => exact Pool.emplace_error based.sound.entities made
  | ok answer =>
      obtain ⟨entity, entities⟩ := answer
      obtain ⟨sound, grown, _⟩ := Pool.emplace_spec based.sound.entities made
      have below := Pool.emplace_room based.sound.entities made
      refine ⟨⟨{ based.sound with entities := sound }, based.registry⟩, ?_, ?_⟩
      · change entities.live.toList.getLast? = some entity
        rw [grown, Array.toList_push, List.getLast?_concat]
      · change _ = Identity.indexCap - entities.live.size + 1
        rw [grown, Array.size_push]
        omega

/-- How the spawning ends is known from the registry and the room that there is, unless a value cannot be
destroyed. -/
theorem spawnAll_verdict (based : SoundOver registry live.core) (blueprints : List Blueprint) :
    Ends (spawnAll blueprints) live fun outcome _ =>
      outcome = registry.verdict (Identity.indexCap - live.core.entities.live.size) blueprints ∨
        ∃ cause, outcome = .error cause ∧ registry.Hinders blueprints cause := by
  induction blueprints generalizing live with
  | nil =>
      unfold Registry.verdict
      exact .inl rfl
  | cons blueprint rest ih =>
      unfold spawnAll
      rw [ends_bind]
      refine (newEntity_ends based).mono ?_
      intro outcome created births
      cases outcome with
      | error cause =>
          obtain ⟨rfl, full⟩ := births
          rw [full, Nat.sub_self]
          exact .inl rfl
      | ok entity =>
          obtain ⟨based', _, room⟩ := births
          rw [continues_ok, ends_bind, room, Registry.verdict]
          refine ((furnish_ends based' entity blueprint).and (furnish_verdict based' entity blueprint)).mono ?_
          rintro _ after ⟨⟨based'', entities, _⟩, rfl | ⟨cause, rfl, component, member, obstructed⟩⟩
          · cases blueprint.findSome? registry.refusal? with
            | some cause => exact .inl rfl
            | none =>
                rw [Option.elim_none, continues_ok]
                refine (ih based'').mono ?_
                rw [entities]
                rintro _ _ (ended | ⟨cause, ended, other, later, hinders⟩)
                · exact .inl ended
                · exact .inr ⟨cause, ended, other, List.mem_cons_of_mem _ later, hinders⟩
          · exact .inr ⟨cause, rfl, blueprint, List.mem_cons_self, component, member, obstructed⟩

/-- Where there is room, the spawning stops at a component that is refused. The blueprints up to there were
spawned, and the component was to be given to the last entity. -/
theorem spawnAll_stops (based : SoundOver registry live.core) (blueprints : List Blueprint) :
    Ends (spawnAll blueprints) live fun outcome after => ∀ cause, outcome = .error cause →
      cause ≠ .poolExhausted → ∃ flaw entity middle, registry.Stops flaw blueprints cause ∧
        spawnAll (flaw.earlier ++ [flaw.given]) live = .ok () middle ∧
        middle.core.entities.live.toList.getLast? = some entity ∧
        furnish entity [flaw.component] middle = .error cause after := by
  induction blueprints generalizing live with
  | nil => exact fun _ never => nomatch never
  | cons blueprint rest ih =>
      change Ends (newEntity >>= fun entity => furnish entity blueprint >>= fun _ => spawnAll rest) live _
      rw [ends_bind]
      have births := newEntity_ends based
      cases creates : newEntity live with
      | error cause after =>
          rw [ends_of_error creates] at births ⊢
          rintro _ ⟨⟩ roomy
          exact absurd births.1 roomy
      | ok entity created =>
          rw [ends_of_ok creates] at births ⊢
          obtain ⟨based', last, _⟩ := births
          rw [continues_ok, ends_bind]
          have stops := furnish_stops based' entity blueprint
          have kept (given : Blueprint) := furnish_ends based' entity given
          cases furnishes : furnish entity blueprint created with
          | error cause after =>
              rw [ends_of_error furnishes] at stops ⊢
              obtain ⟨given, component, later, middle, rfl, admitted, refuses, reached, fails⟩ := stops
              rintro _ ⟨⟩ _
              refine ⟨⟨[], given, component, later, rest⟩, entity, middle, ⟨rfl, ?_, refuses⟩, ?_, ?_, fails⟩
              · exact List.forall_mem_cons.mpr ⟨admitted, List.forall_mem_nil _⟩
              · rw [List.nil_append, spawnAll, bind_of_ok creates, bind_of_ok reached]
                rfl
              · rw [((ends_of_ok reached).mp (kept given)).2.1]
                exact last
          | ok _ after =>
              rw [ends_of_ok furnishes] at stops ⊢
              rw [continues_ok]
              refine (ih ((ends_of_ok furnishes).mp (kept blueprint)).1).mono ?_
              intro outcome _ stopped cause ended roomy
              obtain ⟨flaw, newest, middle, found, reached, left⟩ := stopped cause ended roomy
              refine ⟨{ flaw with earlier := blueprint :: flaw.earlier }, newest, middle,
                ⟨?_, ?_, found.refused⟩, ?_, left⟩
              · exact congrArg (blueprint :: ·) found.queue
              · exact List.forall_mem_cons.mpr ⟨stops, found.admitted⟩
              · rw [List.cons_append, spawnAll, bind_of_ok creates, bind_of_ok furnishes]
                exact reached

/-- How the waiting requests end depends on the entities that are to go only through the room that they
leave, unless a value cannot be destroyed. -/
theorem applyCommands_verdict (based : SoundOver registry live.core) :
    Ends applyCommands live fun outcome _ =>
      outcome = registry.verdict (Identity.indexCap - live.core.emptied.entities.live.size)
          live.core.commands.spawns ∨
        ∃ cause, outcome = .error cause ∧ registry.Hinders live.core.commands.spawns cause := by
  apply applyCommands_settles based
  intro journal based'
  exact (spawnAll_verdict based' live.core.commands.spawns).mono fun _ _ ended _ => ended

end Spawning

end Data

end EntityScene
