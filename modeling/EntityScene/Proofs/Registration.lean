import EntityScene.Resource.Registry
import Mathlib.Data.List.Nodup

/-!
The history of a table of resources. Whatever resources are registered one after the other, refused ones
included, the table and the names lead to each other: an id is a place in the table, and a name leads to the
one place that has it. Ids are given out in turn and stay with their resources.
-/

namespace EntityScene.Registry

variable {registry : Registry} {name : String} {kind : Kind} {element : Element}

/-- The id of each resource is its place in the table. -/
def Numbered (registry : Registry) : Prop :=
  ∀ (resource : ResourceId) (descriptor : Descriptor), registry.get? resource = some descriptor →
    descriptor.id = resource

section Pushes

variable (registry name kind element)

theorem push_size : (registry.push name kind element).2.size = registry.size + 1 := by
  simp [push, size]

theorem push_get? (id : ResourceId) :
    (registry.push name kind element).2.get? id =
      if id = registry.size then some ⟨id, name, kind, element⟩ else registry.get? id := by
  unfold push get? size
  dsimp only
  rw [List.getElem?_append]
  split
  · rename_i inside
    rw [if_neg (Nat.ne_of_lt inside)]
  · rename_i outside
    by_cases last : id = registry.descriptors.length
    · simp [last]
    · have beyond : registry.descriptors.length < id :=
        Nat.lt_of_le_of_ne (Nat.not_lt.mp outside) (Ne.symm last)
      rw [if_neg last, List.getElem?_eq_none (Nat.le_of_lt beyond), List.getElem?_eq_none]
      exact Nat.sub_pos_of_lt beyond

theorem push_idOf? (other : String) :
    (registry.push name kind element).2.idOf? other =
      if other = name then some registry.size else registry.idOf? other := by
  unfold push idOf?
  rw [List.lookup_cons]
  by_cases same : other = name
  · simp [same]
  · simp [same, beq_eq_false_iff_ne.mpr same]

end Pushes

/-- The table and the names lead to each other, and the table is not too large. -/
structure Coherent (registry : Registry) : Prop where
  numbered : registry.Numbered
  named (name : String) (id : ResourceId) : registry.idOf? name = some id ↔
    ∃ descriptor, registry.get? id = some descriptor ∧ descriptor.name = name
  bounded : registry.size ≤ capacity

theorem builtin_numbered : builtin.Numbered := by
  intro resource descriptor found
  match resource with
  | 0 | 1 | 2 | 3 => cases found; rfl
  | _ + 4 => cases found

theorem Numbered.push (numbered : registry.Numbered) : (registry.push name kind element).2.Numbered := by
  intro id descriptor found
  rw [push_get?] at found
  split at found
  · cases found
    rfl
  · exact numbered id descriptor found

/-- The first of the declared resources has a new name, finds room and is added, and the others follow. -/
theorem declare_cons {grown : Registry} {resources : List (String × Kind × Element)}
    (declared : registry.declare ((name, kind, element) :: resources) = .ok grown) :
    registry.idOf? name = none ∧ registry.size < capacity ∧
      (registry.push name kind element).2.declare resources = .ok grown := by
  unfold declare register at declared
  rw [List.foldlM_cons] at declared
  cases free : registry.idOf? name with
  | some existing =>
      simp only [free] at declared
      cases declared
  | none =>
      by_cases room : registry.size < capacity
      · simp only [free, if_pos room] at declared
        exact ⟨rfl, room, declared⟩
      · simp only [free, if_neg room] at declared
        cases declared

/-- Declaring resources numbers them by their places. -/
theorem declare_numbered {grown : Registry} {resources : List (String × Kind × Element)}
    (numbered : registry.Numbered) (declared : registry.declare resources = .ok grown) : grown.Numbered := by
  induction resources generalizing registry with
  | nil =>
      cases declared
      exact numbered
  | cons resource rest ih => exact ih numbered.push (declare_cons declared).2.2

/-- Declaring resources leaves those of the table in their places. -/
theorem declare_extends {grown : Registry} {resources : List (String × Kind × Element)}
    (declared : registry.declare resources = .ok grown) : registry.descriptors <+: grown.descriptors := by
  induction resources generalizing registry with
  | nil =>
      cases declared
      exact List.prefix_refl _
  | cons resource rest ih => exact (List.prefix_append _ _).trans (ih (declare_cons declared).2.2)

theorem get?_of_prefix {last : Registry} (kept : registry.descriptors <+: last.descriptors) {id : ResourceId}
    {descriptor : Descriptor} (found : registry.get? id = some descriptor) : last.get? id = some descriptor := by
  obtain ⟨added, same⟩ := kept
  unfold get? at found ⊢
  rw [← same, List.getElem?_append_left (List.getElem?_eq_some_iff.mp found).1]
  exact found

theorem lt_size {id : ResourceId} {descriptor : Descriptor} (found : registry.get? id = some descriptor) :
    id < registry.size := (List.getElem?_eq_some_iff.mp found).1

namespace Coherent

/-- No two places have the same name, since a name leads to one place. -/
theorem names_nodup (coherent : registry.Coherent) : (registry.descriptors.map Descriptor.name).Nodup := by
  rw [List.nodup_iff_getElem?_ne_getElem?]
  intro first second before inside same
  rw [List.length_map] at inside
  have found := List.getElem?_eq_getElem inside
  rw [List.getElem?_map, List.getElem?_map, found, Option.map_some, Option.map_eq_some_iff] at same
  have here := (coherent.named _ first).mpr same
  have there := (coherent.named _ second).mpr ⟨_, found, rfl⟩
  rw [here] at there
  exact Nat.ne_of_lt before (Option.some.inj there)

/-- A resource with a new name keeps the table and the names in agreement. -/
theorem push (coherent : registry.Coherent) (free : registry.idOf? name = none) (room : registry.size < capacity) :
    (registry.push name kind element).2.Coherent where
  numbered := coherent.numbered.push
  named := by
    intro other id
    rw [push_idOf?, push_get?]
    by_cases last : id = registry.size
    · -- The new place has the new name only, and no name led there before.
      have unled : registry.idOf? other ≠ some id := by
        intro led
        obtain ⟨descriptor, found, _⟩ := (coherent.named other id).mp led
        exact Nat.ne_of_lt (lt_size found) last
      by_cases same : other = name
      · simp [same, last]
      · simp [last, same, Ne.symm same]
        rwa [← last]
    · rw [if_neg last, ← coherent.named]
      by_cases same : other = name
      · simp [same, free, Ne.symm last]
      · rw [if_neg same]
  bounded := by
    rw [push_size]
    exact room

theorem blank : Coherent ⟨[], []⟩ where
  numbered := by simp [Numbered, get?]
  named := by simp [idOf?, get?]
  bounded := by decide

/-- The built-in resources stand in the table as if they had been added in turn. -/
theorem builtin : Registry.builtin.Coherent := by
  have deltas : Coherent (Registry.push ⟨[], []⟩ "DeltaTime" .sceneComponent (.plain .single)).2 :=
    blank.push rfl (by decide)
  have times : Coherent (Registry.push _ "GameTime" .sceneComponent (.plain .single)).2 :=
    deltas.push rfl (by decide)
  have spawns : Coherent (Registry.push _ "EntitySpawnList" .entitySpawnList (.plain .spawnList)).2 :=
    times.push rfl (by decide)
  have despawns : Coherent (Registry.push _ "EntityDespawnList" .entityDespawnList (.plain .despawnList)).2 :=
    spawns.push rfl (by decide)
  exact despawns

end Coherent

section Calls

variable (registry name kind element)

/-- How a call ends. A name that leads to a resource is refused with its id, a new name is refused if the
table is full, and any other resource gets the next id. -/
inductive Attempted : Except RegistryError ResourceId → Registry → Prop
  | taken {existing : ResourceId} (leads : registry.idOf? name = some existing) :
    Attempted (.error (.duplicateName name existing)) registry
  | full (free : registry.idOf? name = none) (filled : capacity ≤ registry.size) :
    Attempted (.error (.capacityExceeded capacity)) registry
  | added (free : registry.idOf? name = none) (room : registry.size < capacity) :
    Attempted (.ok registry.size) (registry.push name kind element).2

theorem attempt_ends :
    Attempted registry name kind element (registry.attempt name kind element).1
      (registry.attempt name kind element).2 := by
  unfold attempt register
  cases leads : registry.idOf? name with
  | some existing => exact .taken leads
  | none =>
      by_cases room : registry.size < capacity
      · simp only [if_pos room]
        exact .added leads room
      · simp only [if_neg room]
        exact .full leads (Nat.not_lt.mp room)

end Calls

/-- A call to add a resource. -/
structure Registration where
  name : String
  kind : Kind
  element : Element

/-- The resource under the id that its call was given. -/
def Registration.descriptor (call : Registration) (id : ResourceId) : Descriptor :=
  ⟨id, call.name, call.kind, call.element⟩

/-- Answers the calls one after the other, past refusals. -/
def attemptAll (registry : Registry) : List Registration → List (Except RegistryError ResourceId) × Registry
  | [] => ([], registry)
  | call :: rest =>
    let (answer, next) := registry.attempt call.name call.kind call.element
    let (answers, last) := next.attemptAll rest
    (answer :: answers, last)

/-- The ids that the answers give. -/
def issued (answers : List (Except RegistryError ResourceId)) : List ResourceId :=
  answers.filterMap Except.toOption

/-- What calls make of a table: it is still coherent, it has grown by what was added, and the ids were given
in turn. -/
structure Grown (registry : Registry) (calls : List Registration)
    (answers : List (Except RegistryError ResourceId)) (last : Registry) : Prop where
  coherent : last.Coherent
  kept : registry.descriptors <+: last.descriptors
  ids : issued answers = List.range' registry.size (issued answers).length
  size : last.size = registry.size + (issued answers).length
  stays {index : Nat} {call : Registration} {id : ResourceId} : calls[index]? = some call →
    answers[index]? = some (.ok id) → last.get? id = some (call.descriptor id)

namespace Grown

theorem refl (coherent : registry.Coherent) : Grown registry [] [] registry where
  coherent := coherent
  kept := List.prefix_refl _
  ids := rfl
  size := rfl
  stays here := by simp at here

section Cons

variable {calls : List Registration} {answers : List (Except RegistryError ResourceId)} {last : Registry}
  {call : Registration}

/-- A refused call makes no difference. -/
theorem refused (grown : Grown registry calls answers last) (cause : RegistryError) :
    Grown registry (call :: calls) (.error cause :: answers) last where
  coherent := grown.coherent
  kept := grown.kept
  ids := grown.ids
  size := grown.size
  stays {index other id} here answered := by
    cases index with
    | zero => cases answered
    | succ index => exact grown.stays here answered

/-- A resource that was added has the next id, and the ids after it go to the later ones. -/
theorem added (grown : Grown (registry.push call.name call.kind call.element).2 calls answers last) :
    Grown registry (call :: calls) (.ok registry.size :: answers) last where
  coherent := grown.coherent
  kept := (List.prefix_append _ _).trans grown.kept
  ids := by
    have ids := grown.ids
    rw [push_size] at ids
    change registry.size :: issued answers = List.range' registry.size ((issued answers).length + 1)
    rw [List.range'_succ, ← ids]
  size := by
    have size := grown.size
    rw [push_size] at size
    change last.size = registry.size + ((issued answers).length + 1)
    omega
  stays {index other id} here answered := by
    cases index with
    | zero =>
        cases here
        cases answered
        apply get?_of_prefix grown.kept
        rw [push_get?, if_pos rfl]
        rfl
    | succ index => exact grown.stays here answered

end Cons

end Grown

/-- What every history of calls makes of a coherent table. -/
theorem attemptAll_grown (coherent : registry.Coherent) (calls : List Registration) :
    Grown registry calls (registry.attemptAll calls).1 (registry.attemptAll calls).2 := by
  induction calls generalizing registry with
  | nil => exact .refl coherent
  | cons call rest ih =>
      have ends := attempt_ends registry call.name call.kind call.element
      unfold attemptAll
      dsimp only
      generalize (registry.attempt call.name call.kind call.element).1 = answer at ends ⊢
      generalize (registry.attempt call.name call.kind call.element).2 = next at ends ⊢
      cases ends with
      | taken => exact (ih coherent).refused _
      | full => exact (ih coherent).refused _
      | added free room => exact (ih (coherent.push free room)).added

/-- The name is free exactly if no resource of the table has it. -/
theorem Coherent.free_iff (coherent : registry.Coherent) :
    registry.idOf? name = none ↔ ∀ descriptor ∈ registry.descriptors, descriptor.name ≠ name := by
  rw [Option.eq_none_iff_forall_ne_some]
  constructor
  · intro free descriptor member same
    obtain ⟨id, found⟩ := List.mem_iff_getElem?.mp member
    exact free id ((coherent.named name id).mpr ⟨descriptor, found, same⟩)
  · intro free id leads
    obtain ⟨descriptor, found, same⟩ := (coherent.named name id).mp leads
    exact free descriptor (List.mem_of_getElem? found) same

/-- The next call on a coherent table. -/
structure Answered (registry : Registry) (call : Registration) (answer : Except RegistryError ResourceId)
    (after : Registry) : Prop where
  /-- A taken name is refused with its owner. -/
  taken_iff (existing : ResourceId) : answer = .error (.duplicateName call.name existing) ↔
    ∃ descriptor, registry.get? existing = some descriptor ∧ descriptor.name = call.name
  /-- A new name is refused if the table is full. -/
  full_iff : answer = .error (.capacityExceeded capacity) ↔
    (∀ descriptor ∈ registry.descriptors, descriptor.name ≠ call.name) ∧ registry.size = capacity
  /-- Any other resource is added with the next id. -/
  added_iff : answer = .ok registry.size ↔
    (∀ descriptor ∈ registry.descriptors, descriptor.name ≠ call.name) ∧ registry.size < capacity
  refused : answer.isOk = false → after = registry
  added : answer.isOk = true → after.descriptors = registry.descriptors ++ [call.descriptor registry.size]

theorem Coherent.answered (coherent : registry.Coherent) (call : Registration) :
    Answered registry call (registry.attempt call.name call.kind call.element).1
      (registry.attempt call.name call.kind call.element).2 := by
  have ends := attempt_ends registry call.name call.kind call.element
  generalize (registry.attempt call.name call.kind call.element).1 = answer at ends ⊢
  generalize (registry.attempt call.name call.kind call.element).2 = after at ends ⊢
  have bounded := coherent.bounded
  constructor
  · intro existing
    rw [← coherent.named]
    cases ends with
    | taken leads => simp [leads]
    | full free => simp [free]
    | added free => simp [free]
  · rw [← coherent.free_iff]
    cases ends with
    | taken leads => simp [leads]
    | full free filled => simp [free, Nat.le_antisymm bounded filled]
    | added free room => simp [Nat.ne_of_lt room]
  · rw [← coherent.free_iff]
    cases ends with
    | taken leads => simp [leads]
    | full free filled => simp [Nat.not_lt.mpr filled]
    | added free room => simp [free, room]
  · intro failed
    cases ends with
    | taken | full => rfl
    | added => cases failed
  · intro succeeded
    cases ends with
    | taken | full => cases succeeded
    | added => rfl

/-- One call more is made on the table that the others leave. -/
theorem attemptAll_concat (registry : Registry) (calls : List Registration) (call : Registration) :
    registry.attemptAll (calls ++ [call]) =
      ((registry.attemptAll calls).1 ++
          [((registry.attemptAll calls).2.attempt call.name call.kind call.element).1],
        ((registry.attemptAll calls).2.attempt call.name call.kind call.element).2) := by
  induction calls generalizing registry with
  | nil => rfl
  | cons first rest ih =>
      rw [List.cons_append, attemptAll, attemptAll]
      dsimp only
      rw [ih]
      rfl

/-- Over every history of calls on a new table, refused ones included, an id is the place of its resource,
names are different, a name leads to the place that has it and to no other, the built-in resources stay as
they are, and the table is never too large. The ids given are the numbers from the first free one on, each
stays with what was added under it, and later calls only add to the table. The next call is refused with the
owner of the name if the name is taken, and otherwise exactly if the table is full; it then leaves the table
as it is. -/
theorem registration_history (calls : List Registration) :
    let answers := (builtin.attemptAll calls).1
    let registry := (builtin.attemptAll calls).2
    (∀ id descriptor, registry.get? id = some descriptor → descriptor.id = id) ∧
      (registry.descriptors.map Descriptor.name).Nodup ∧
      (∀ name id, registry.idOf? name = some id ↔
        ∃ descriptor, registry.get? id = some descriptor ∧ descriptor.name = name) ∧
      registry.get? deltaTime = some ⟨0, "DeltaTime", .sceneComponent, .plain .single⟩ ∧
      registry.get? gameTime = some ⟨1, "GameTime", .sceneComponent, .plain .single⟩ ∧
      registry.get? spawnRequests = some ⟨2, "EntitySpawnList", .entitySpawnList, .plain .spawnList⟩ ∧
      registry.get? despawnRequests = some ⟨3, "EntityDespawnList", .entityDespawnList, .plain .despawnList⟩ ∧
      registry.size ≤ capacity ∧
      issued answers = List.range' builtin.size (issued answers).length ∧
      registry.size = builtin.size + (issued answers).length ∧
      (∀ (index : Nat) (call : Registration) (id : ResourceId), calls[index]? = some call →
        answers[index]? = some (.ok id) → registry.get? id = some (call.descriptor id)) ∧
      (∀ more, registry.descriptors <+: (registry.attemptAll more).2.descriptors) ∧
      ∀ call : Registration, let outcome := registry.attempt call.name call.kind call.element
        builtin.attemptAll (calls ++ [call]) = (answers ++ [outcome.1], outcome.2) ∧
          Answered registry call outcome.1 outcome.2 := by
  intro answers registry
  have grown : Grown builtin calls answers registry := attemptAll_grown .builtin calls
  have coherent := grown.coherent
  refine ⟨coherent.numbered, coherent.names_nodup, coherent.named, get?_of_prefix grown.kept rfl,
    get?_of_prefix grown.kept rfl, get?_of_prefix grown.kept rfl, get?_of_prefix grown.kept rfl,
    coherent.bounded, grown.ids, grown.size, fun _ _ _ => grown.stays, ?_, ?_⟩
  · intro more
    exact (attemptAll_grown coherent more).kept
  · intro call
    exact ⟨attemptAll_concat builtin calls call, coherent.answered call⟩

end EntityScene.Registry
