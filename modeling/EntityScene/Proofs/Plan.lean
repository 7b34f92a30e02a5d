import EntityScene.Plan
import Mathlib.Tactic.Tauto

/-!
What an accepted plan says: it lists the resources in order with their registered kinds, it names the
event input, and it walks the viewports or the entities exactly if some resource is attached to them.
-/

namespace EntityScene

/-- The kind under which a resource is registered. -/
def Registry.kind? (registry : Registry) (resource : ResourceId) : Option Kind :=
  (registry.get? resource).map Descriptor.kind

theorem Registry.kind?_eq_some {registry : Registry} {resource : ResourceId} {kind : Kind} :
    registry.kind? resource = some kind ↔
      ∃ descriptor, registry.get? resource = some descriptor ∧ descriptor.kind = kind := by
  unfold kind?
  rw [Option.map_eq_some_iff]

theorem Registry.kind?_of_descriptor {registry : Registry} {resource : ResourceId} {descriptor : Descriptor}
    (found : registry.descriptor resource = .ok descriptor) :
    registry.kind? resource = some descriptor.kind := by
  unfold Registry.descriptor at found
  split at found
  · rename_i here
    cases found
    exact kind?_eq_some.mpr ⟨descriptor, here, rfl⟩
  · cases found

namespace Plan

/-- The plan is that of a join with these inputs and outputs. -/
structure Fits (registry : Registry) (reads writes : List ResourceId) (plan : Plan) : Prop where
  reads_eq : plan.inputs.map Prod.fst = reads
  writes_eq : plan.outputs.map Prod.fst = writes
  input_kind : ∀ input ∈ plan.inputs, registry.kind? input.1 = some input.2
  output_kind : ∀ output ∈ plan.outputs, registry.kind? output.1 = some output.2
  readable : ∀ input ∈ plan.inputs, input.2.isRequestList = false
  event_iff (resource : ResourceId) : plan.event = some resource ↔ (resource, .event) ∈ plan.inputs
  viewports_iff :
    plan.viewports = true ↔ ∃ resource, (resource, .viewportComponent) ∈ plan.inputs ++ plan.outputs
  entities_iff :
    plan.entities = true ↔ ∃ resource, (resource, .entityComponent) ∈ plan.inputs ++ plan.outputs

theorem empty_fits (registry : Registry) : Fits registry [] [] empty where
  reads_eq := rfl
  writes_eq := rfl
  input_kind := by simp [empty]
  output_kind := by simp [empty]
  readable := by simp [empty]
  event_iff := by simp [empty]
  viewports_iff := by simp [empty]
  entities_iff := by simp [empty]

theorem kindOf_ok {registry : Registry} {resource : ResourceId} {kind : Kind} :
    kindOf registry resource = .ok kind ↔ registry.kind? resource = some kind := by
  unfold kindOf Registry.kind?
  cases registry.get? resource <;> simp

section Notes

variable (plan : Plan) (kind : Kind)

@[simp] theorem note_inputs : (plan.note kind).inputs = plan.inputs := by cases kind <;> rfl

@[simp] theorem note_outputs : (plan.note kind).outputs = plan.outputs := by cases kind <;> rfl

@[simp] theorem note_event : (plan.note kind).event = plan.event := by cases kind <;> rfl

@[simp] theorem note_viewports :
    (plan.note kind).viewports = true ↔ plan.viewports = true ∨ kind = .viewportComponent := by
  cases kind <;> simp [note]

@[simp] theorem note_entities :
    (plan.note kind).entities = true ↔ plan.entities = true ∨ kind = .entityComponent := by
  cases kind <;> simp [note]

end Notes

theorem exists_attached {all all' : List (ResourceId × Kind)} {resource : ResourceId} {kind wanted : Kind}
    (member : ∀ entry, entry ∈ all' ↔ entry ∈ all ∨ entry = (resource, kind)) :
    (∃ other, (other, wanted) ∈ all') ↔ (∃ other, (other, wanted) ∈ all) ∨ kind = wanted := by
  constructor
  · rintro ⟨other, found⟩
    rcases (member _).mp found with old | new
    · exact Or.inl ⟨other, old⟩
    · exact Or.inr (congrArg Prod.snd new).symm
  · rintro (⟨other, old⟩ | rfl)
    · exact ⟨other, (member _).mpr (Or.inl old)⟩
    · exact ⟨resource, (member _).mpr (Or.inr rfl)⟩

/-- An input is accepted with its kind, and the first event input becomes the plan's event. -/
theorem addInput_ok {registry : Registry} {plan plan' : Plan} {resource : ResourceId}
    (accepted : addInput registry plan resource = .ok plan') :
    ∃ kind, registry.kind? resource = some kind ∧ kind.isRequestList = false ∧
      (kind = .event → plan.event = none) ∧
      plan' =
        { plan.note kind with
          inputs := plan.inputs ++ [(resource, kind)]
          event := if kind = .event then some resource else plan.event } := by
  unfold addInput at accepted
  cases found : kindOf registry resource with
  | error cause => simp [found, bind, Except.bind] at accepted
  | ok kind =>
      refine ⟨kind, kindOf_ok.mp found, ?_⟩
      cases kind <;> cases event : plan.event <;>
        simp_all [bind, Except.bind, pure, Except.pure, throw, throwThe, MonadExceptOf.throw,
          Kind.isRequestList, note]

theorem addInput_fits {registry : Registry} {reads writes : List ResourceId} {plan plan' : Plan}
    {resource : ResourceId} (fits : Fits registry reads writes plan)
    (accepted : addInput registry plan resource = .ok plan') :
    Fits registry (reads ++ [resource]) writes plan' := by
  obtain ⟨kind, registered, readable, single, rfl⟩ := addInput_ok accepted
  have attached (entry : ResourceId × Kind) :
      entry ∈ plan.inputs ++ [(resource, kind)] ++ plan.outputs ↔
        entry ∈ plan.inputs ++ plan.outputs ∨ entry = (resource, kind) := by
    simp only [List.mem_append, List.mem_singleton]
    tauto
  constructor
  · simp [fits.reads_eq]
  · simp [fits.writes_eq]
  · simp only [List.mem_append, List.mem_singleton]
    rintro input (old | rfl)
    · exact fits.input_kind input old
    · exact registered
  · simpa using fits.output_kind
  · simp only [List.mem_append, List.mem_singleton]
    rintro input (old | rfl)
    · exact fits.readable input old
    · exact readable
  · intro other
    have old := fits.event_iff other
    by_cases event : kind = .event
    · rw [single event] at old
      simp only [reduceCtorEq, false_iff] at old
      simp [event, old, eq_comm]
    · simp [event, old, Ne.symm event]
  · simp only [note_viewports, fits.viewports_iff, note_outputs]
    exact (exists_attached attached).symm
  · simp only [note_entities, fits.entities_iff, note_outputs]
    exact (exists_attached attached).symm

theorem addOutput_fits {registry : Registry} {reads writes : List ResourceId} {plan plan' : Plan}
    {resource : ResourceId} (fits : Fits registry reads writes plan)
    (accepted : addOutput registry plan resource = .ok plan') :
    Fits registry reads (writes ++ [resource]) plan' := by
  unfold addOutput at accepted
  cases found : kindOf registry resource with
  | error cause => simp [found, bind, Except.bind] at accepted
  | ok kind =>
      simp only [found, bind, Except.bind, pure, Except.pure, Except.ok.injEq] at accepted
      subst accepted
      have attached (entry : ResourceId × Kind) :
          entry ∈ plan.inputs ++ (plan.outputs ++ [(resource, kind)]) ↔
            entry ∈ plan.inputs ++ plan.outputs ∨ entry = (resource, kind) := by
        simp only [List.mem_append, List.mem_singleton]
        tauto
      constructor
      · simp [fits.reads_eq]
      · simp [fits.writes_eq]
      · simpa using fits.input_kind
      · simp only [List.mem_append, List.mem_singleton]
        rintro output (old | rfl)
        · exact fits.output_kind output old
        · exact kindOf_ok.mp found
      · simpa using fits.readable
      · simpa using fits.event_iff
      · simp only [note_viewports, fits.viewports_iff, note_inputs]
        exact (exists_attached attached).symm
      · simp only [note_entities, fits.entities_iff, note_inputs]
        exact (exists_attached attached).symm

/-- What each resource adds to a plan adds up over a list of resources. -/
theorem foldlM_fits {add : Plan → ResourceId → Except PlanError Plan}
    (fit : List ResourceId → Plan → Prop)
    (adds : ∀ done resource plan plan', fit done plan → add plan resource = .ok plan' →
      fit (done ++ [resource]) plan')
    {resources done : List ResourceId} {plan plan' : Plan} (fits : fit done plan)
    (accepted : resources.foldlM add plan = .ok plan') : fit (done ++ resources) plan' := by
  induction resources generalizing done plan with
  | nil =>
      rw [List.append_nil, ← Except.ok.inj accepted]
      exact fits
  | cons resource rest ih =>
      rw [List.foldlM_cons] at accepted
      cases first : add plan resource with
      | error cause => simp [first, bind, Except.bind] at accepted
      | ok middle =>
          simp only [first, bind, Except.bind] at accepted
          have next := ih (adds done resource plan middle fits first) accepted
          rwa [List.append_assoc] at next

theorem make_fits {registry : Registry} {reads writes : List ResourceId} {plan : Plan}
    (accepted : make registry reads writes = .ok plan) : Fits registry reads writes plan := by
  unfold make at accepted
  cases read : reads.foldlM (addInput registry) empty with
  | error cause => simp [read, bind, Except.bind] at accepted
  | ok middle =>
      simp only [read, bind, Except.bind] at accepted
      have fits := foldlM_fits (fun done => Fits registry done []) (fun _ _ _ _ => addInput_fits)
        (empty_fits registry) read
      exact foldlM_fits (Fits registry reads) (fun _ _ _ _ => addOutput_fits) fits accepted

end Plan

end EntityScene
