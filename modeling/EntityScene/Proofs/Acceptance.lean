import EntityScene.Proofs.StaticJoin

/-!
Which plans are accepted. A join can be planned exactly if its resources are registered, no list of requests
is among its inputs and at most one place among them has an event resource. Otherwise the first resource in
the order of declaration that stands in the way is reported, inputs before outputs.
-/

namespace EntityScene.Plan

variable {registry : Registry}

/-- A loop is refused by the first item that its step refuses, after the items before it. -/
theorem foldlM_error_iff {σ α ε : Type} {step : σ → α → Except ε σ} {items : List α} {start : σ} {cause : ε} :
    items.foldlM step start = .error cause ↔
      ∃ earlier item later middle, items = earlier ++ item :: later ∧
        earlier.foldlM step start = .ok middle ∧ step middle item = .error cause := by
  constructor
  · intro refused
    induction items generalizing start with
    | nil => cases refused
    | cons first rest ih =>
        rw [List.foldlM_cons] at refused
        cases begun : step start first with
        | error other =>
            rw [begun] at refused
            cases refused
            exact ⟨[], first, rest, start, rfl, rfl, begun⟩
        | ok next =>
            rw [begun] at refused
            obtain ⟨earlier, item, later, middle, rfl, accepted, failed⟩ := ih refused
            refine ⟨first :: earlier, item, later, middle, rfl, ?_, failed⟩
            rw [List.foldlM_cons, begun]
            exact accepted
  · rintro ⟨earlier, item, later, middle, rfl, accepted, failed⟩
    rw [List.foldlM_append, accepted]
    change List.foldlM step middle (item :: later) = _
    rw [List.foldlM_cons, failed]
    rfl

/-- The inputs can be joined: each is registered, none is a list of requests, and no two places have event
resources. -/
structure Joinable (registry : Registry) (inputs : List ResourceId) : Prop where
  registered : ∀ resource ∈ inputs, (registry.get? resource).isSome = true
  readable : ∀ resource ∈ inputs, ∀ kind, registry.kind? resource = some kind → kind.isRequestList = false
  single : inputs.Pairwise fun first second =>
    ¬(registry.kind? first = some .event ∧ registry.kind? second = some .event)

/-- What stands in the way of a further input after the earlier ones. -/
inductive Offends (registry : Registry) (earlier : List ResourceId) (resource : ResourceId) : PlanError → Prop
  | unknown (missing : registry.get? resource = none) : Offends registry earlier resource (.unknownResource resource)
  | requests {kind : Kind} (registered : registry.kind? resource = some kind) (requests : kind.isRequestList = true) :
    Offends registry earlier resource (.invalidInput resource kind)
  | events {first : ResourceId} (registered : registry.kind? resource = some .event) (before : first ∈ earlier)
    (event : registry.kind? first = some .event) :
    Offends registry earlier resource (.multipleEventInputs first resource)

section Inputs

variable {inputs earlier writes : List ResourceId} {resource : ResourceId} {plan : Plan} {cause : PlanError}

theorem joinable_nil (registry : Registry) : Joinable registry [] where
  registered := by simp
  readable := by simp
  single := List.Pairwise.nil

/-- One input more can be joined if nothing stands in its way. -/
theorem joinable_concat :
    Joinable registry (earlier ++ [resource]) ↔
      Joinable registry earlier ∧ ∀ cause, ¬Offends registry earlier resource cause := by
  constructor
  · rintro ⟨registered, readable, single⟩
    have last : resource ∈ earlier ++ [resource] := by simp
    rw [List.pairwise_append] at single
    refine ⟨⟨fun other member => registered other (List.mem_append_left _ member),
      fun other member => readable other (List.mem_append_left _ member), single.1⟩, ?_⟩
    intro cause offends
    cases offends with
    | unknown missing => simpa [missing] using registered resource last
    | requests known requests => simpa [requests] using readable resource last _ known
    | events known before event =>
        exact single.2.2 _ before resource (List.mem_singleton_self _) ⟨event, known⟩
  · rintro ⟨joinable, admitted⟩
    constructor
    · simp only [List.mem_append, List.mem_singleton]
      rintro other (old | rfl)
      · exact joinable.registered other old
      · cases missing : registry.get? other with
        | none => exact absurd (.unknown missing) (admitted _)
        | some descriptor => rfl
    · simp only [List.mem_append, List.mem_singleton]
      rintro other (old | rfl) kind known
      · exact joinable.readable other old kind known
      · cases requests : kind.isRequestList with
        | false => rfl
        | true => exact absurd (.requests known requests) (admitted _)
    · rw [List.pairwise_append]
      refine ⟨joinable.single, List.pairwise_singleton _ _, ?_⟩
      intro first before second here both
      rw [List.mem_singleton.mp here] at both
      exact admitted _ (.events both.2 before both.1)

theorem Joinable.of_append {later : List ResourceId} (joinable : Joinable registry (earlier ++ later)) :
    Joinable registry earlier where
  registered resource member := joinable.registered resource (List.mem_append_left _ member)
  readable resource member := joinable.readable resource (List.mem_append_left _ member)
  single := (List.pairwise_append.mp joinable.single).1

/-- What a plan that fits reads of a kind is what is registered under it. -/
theorem Fits.read_iff {kind : Kind} (fits : Fits registry earlier writes plan) :
    (resource, kind) ∈ plan.inputs ↔ resource ∈ earlier ∧ registry.kind? resource = some kind := by
  rw [← fits.mem_reads, Registry.ofKind, List.mem_filter, decide_eq_true_eq]

theorem Fits.involves_iff {kind : Kind} (fits : Fits registry earlier writes plan) :
    (∃ resource, (resource, kind) ∈ plan.inputs ++ plan.outputs) ↔
      ∃ resource ∈ earlier ++ writes, registry.kind? resource = some kind := by
  apply exists_congr
  intro resource
  rw [← fits.mem_involved, Registry.ofKind, List.mem_filter, decide_eq_true_eq]

section Steps

variable {kind : Kind} (plan)

theorem addInput_unknown (missing : registry.get? resource = none) :
    addInput registry plan resource = .error (.unknownResource resource) := by
  simp [addInput, kindOf, missing, bind, Except.bind]

theorem addInput_requests (known : registry.kind? resource = some kind) (requests : kind.isRequestList = true) :
    addInput registry plan resource = .error (.invalidInput resource kind) := by
  unfold addInput
  rw [kindOf_ok.mpr known]
  simp [requests, bind, Except.bind, throw, throwThe, MonadExceptOf.throw]

theorem addInput_second {first : ResourceId} (known : registry.kind? resource = some .event)
    (taken : plan.event = some first) :
    addInput registry plan resource = .error (.multipleEventInputs first resource) := by
  unfold addInput
  rw [kindOf_ok.mpr known, taken]
  rfl

theorem addInput_accepts (known : registry.kind? resource = some kind) (readable : kind.isRequestList = false)
    (single : kind = .event → plan.event = none) : ∃ plan', addInput registry plan resource = .ok plan' := by
  unfold addInput
  rw [kindOf_ok.mpr known]
  cases kind with
  | entitySpawnList | entityDespawnList => cases readable
  | event =>
      rw [single rfl]
      exact ⟨_, rfl⟩
  | sceneComponent | viewportComponent | entityComponent => exact ⟨_, rfl⟩

end Steps

/-- An input is refused exactly for what stands in its way after the inputs so far. -/
theorem addInput_error_iff (fits : Fits registry earlier writes plan) :
    addInput registry plan resource = .error cause ↔ Offends registry earlier resource cause := by
  constructor
  · intro refused
    cases known : registry.kind? resource with
    | none =>
        have missing : registry.get? resource = none := Option.map_eq_none_iff.mp known
        rw [addInput_unknown plan missing] at refused
        cases refused
        exact .unknown missing
    | some kind =>
        cases requests : kind.isRequestList with
        | true =>
            rw [addInput_requests plan known requests] at refused
            cases refused
            exact .requests known requests
        | false =>
            by_cases second : kind = .event ∧ ∃ first, plan.event = some first
            · obtain ⟨rfl, first, taken⟩ := second
              rw [addInput_second plan known taken] at refused
              cases refused
              obtain ⟨before, event⟩ := fits.read_iff.mp ((fits.event_iff first).mp taken)
              exact .events known before event
            · have single : kind = .event → plan.event = none := fun event =>
                Option.eq_none_iff_forall_ne_some.mpr fun first taken => second ⟨event, first, taken⟩
              obtain ⟨plan', accepted⟩ := addInput_accepts plan known requests single
              rw [accepted] at refused
              cases refused
  · intro offends
    cases offends with
    | unknown missing => exact addInput_unknown plan missing
    | requests known requests => exact addInput_requests plan known requests
    | events known before event =>
        exact addInput_second plan known ((fits.event_iff _).mpr (fits.read_iff.mpr ⟨before, event⟩))

/-- Inputs that are accepted in turn can be joined. -/
theorem foldlM_addInput_ok (accepted : inputs.foldlM (addInput registry) empty = .ok plan) :
    Fits registry inputs [] plan ∧ Joinable registry inputs := by
  apply foldlM_fits (fun done plan => Fits registry done [] plan ∧ Joinable registry done) ?_
    ⟨empty_fits registry, joinable_nil registry⟩ accepted
  rintro done resource plan plan' ⟨fits, joinable⟩ added
  refine ⟨addInput_fits fits added, joinable_concat.mpr ⟨joinable, ?_⟩⟩
  intro cause offends
  rw [(addInput_error_iff fits).mpr offends] at added
  cases added

/-- Inputs that can be joined are accepted. -/
theorem Joinable.accepted (joinable : Joinable registry inputs) :
    ∃ plan, inputs.foldlM (addInput registry) empty = .ok plan := by
  cases ended : inputs.foldlM (addInput registry) empty with
  | ok plan => exact ⟨plan, rfl⟩
  | error cause =>
      obtain ⟨earlier, resource, later, middle, rfl, accepted, refused⟩ := foldlM_error_iff.mp ended
      have offends := (addInput_error_iff (foldlM_addInput_ok accepted).1).mp refused
      rw [List.append_cons] at joinable
      exact absurd offends ((joinable_concat.mp joinable.of_append).2 cause)

/-- The inputs are refused for the first of them that something stands in the way of. -/
theorem foldlM_addInput_error_iff :
    inputs.foldlM (addInput registry) empty = .error cause ↔
      ∃ earlier resource later, inputs = earlier ++ resource :: later ∧ Joinable registry earlier ∧
        Offends registry earlier resource cause := by
  rw [foldlM_error_iff]
  constructor
  · rintro ⟨earlier, resource, later, middle, split, accepted, refused⟩
    obtain ⟨fits, joinable⟩ := foldlM_addInput_ok accepted
    exact ⟨earlier, resource, later, split, joinable, (addInput_error_iff fits).mp refused⟩
  · rintro ⟨earlier, resource, later, split, joinable, offends⟩
    obtain ⟨middle, accepted⟩ := joinable.accepted
    have fits := (foldlM_addInput_ok accepted).1
    exact ⟨earlier, resource, later, middle, split, accepted, (addInput_error_iff fits).mpr offends⟩

end Inputs

section Outputs

variable {outputs : List ResourceId} {resource : ResourceId} {plan : Plan} {cause : PlanError}

theorem addOutput_error_iff :
    addOutput registry plan resource = .error cause ↔
      registry.get? resource = none ∧ cause = .unknownResource resource := by
  unfold addOutput kindOf
  cases registry.get? resource with
  | none => simp [bind, Except.bind, eq_comm]
  | some descriptor => simp [bind, Except.bind, pure, Except.pure]

theorem addOutput_registered {plan' : Plan} (accepted : addOutput registry plan resource = .ok plan') :
    (registry.get? resource).isSome = true := by
  cases missing : registry.get? resource with
  | some descriptor => rfl
  | none =>
      rw [addOutput_error_iff.mpr ⟨missing, rfl⟩] at accepted
      cases accepted

theorem foldlM_addOutput_ok {start : Plan} (accepted : outputs.foldlM (addOutput registry) start = .ok plan) :
    ∀ resource ∈ outputs, (registry.get? resource).isSome = true := by
  have none : ∀ resource ∈ ([] : List ResourceId), (registry.get? resource).isSome = true := by simp
  apply foldlM_fits (fun done _ => ∀ resource ∈ done, (registry.get? resource).isSome = true) ?_ none accepted
  intro done resource plan plan' registered added
  simp only [List.mem_append, List.mem_singleton]
  rintro other (old | rfl)
  · exact registered other old
  · exact addOutput_registered added

/-- Registered outputs are accepted by every plan. -/
theorem foldlM_addOutput_accepts (start : Plan)
    (registered : ∀ resource ∈ outputs, (registry.get? resource).isSome = true) :
    ∃ plan, outputs.foldlM (addOutput registry) start = .ok plan := by
  cases ended : outputs.foldlM (addOutput registry) start with
  | ok plan => exact ⟨plan, rfl⟩
  | error cause =>
      obtain ⟨earlier, resource, later, middle, rfl, _, refused⟩ := foldlM_error_iff.mp ended
      have found := registered resource (by simp)
      rw [(addOutput_error_iff.mp refused).1] at found
      cases found

/-- The outputs are refused for the first of them that is not registered. -/
theorem foldlM_addOutput_error_iff (start : Plan) :
    outputs.foldlM (addOutput registry) start = .error cause ↔
      ∃ earlier resource later, outputs = earlier ++ resource :: later ∧
        (∀ other ∈ earlier, (registry.get? other).isSome = true) ∧ registry.get? resource = none ∧
        cause = .unknownResource resource := by
  rw [foldlM_error_iff]
  constructor
  · rintro ⟨earlier, resource, later, middle, split, accepted, refused⟩
    exact ⟨earlier, resource, later, split, foldlM_addOutput_ok accepted, addOutput_error_iff.mp refused⟩
  · rintro ⟨earlier, resource, later, split, registered, missing⟩
    obtain ⟨middle, accepted⟩ := foldlM_addOutput_accepts start registered
    exact ⟨earlier, resource, later, middle, split, accepted, addOutput_error_iff.mpr missing⟩

end Outputs

section Whole

variable {inputs outputs : List ResourceId} {plan : Plan} {cause : PlanError}

theorem make_ok_iff :
    make registry inputs outputs = .ok plan ↔
      ∃ middle, inputs.foldlM (addInput registry) empty = .ok middle ∧
        outputs.foldlM (addOutput registry) middle = .ok plan := by
  unfold make
  cases inputs.foldlM (addInput registry) empty <;> simp [bind, Except.bind]

theorem make_error_iff :
    make registry inputs outputs = .error cause ↔
      inputs.foldlM (addInput registry) empty = .error cause ∨
        ∃ middle, inputs.foldlM (addInput registry) empty = .ok middle ∧
          outputs.foldlM (addOutput registry) middle = .error cause := by
  unfold make
  cases inputs.foldlM (addInput registry) empty <;> simp [bind, Except.bind]

/-- The kinds of the resources, place by place. -/
theorem kinds_eq {entries : List (ResourceId × Kind)}
    (kinds : ∀ entry ∈ entries, registry.kind? entry.1 = some entry.2) :
    entries.map (fun entry => some entry.2) = (entries.map Prod.fst).map registry.kind? := by
  rw [List.map_map]
  exact List.map_congr_left fun entry member => (kinds entry member).symm

end Whole

/-- A plan is made exactly if the inputs can be joined and the outputs are registered. Otherwise the error is
that of the first input that something stands in the way of, after inputs that can be joined; and if there is
none, of the first output that is not registered. A plan that is made lists the resources in their order with
their registered kinds, its event is the one event resource among the inputs, and it walks the viewports or
the entities exactly if some resource is attached to them. -/
theorem make_exact (registry : Registry) (inputs outputs : List ResourceId) :
    ((∃ plan, make registry inputs outputs = .ok plan) ↔
        Joinable registry inputs ∧ ∀ resource ∈ outputs, (registry.get? resource).isSome = true) ∧
      (∀ cause, make registry inputs outputs = .error cause ↔
        (∃ earlier resource later, inputs = earlier ++ resource :: later ∧ Joinable registry earlier ∧
          Offends registry earlier resource cause) ∨
        Joinable registry inputs ∧ ∃ earlier resource later, outputs = earlier ++ resource :: later ∧
          (∀ other ∈ earlier, (registry.get? other).isSome = true) ∧ registry.get? resource = none ∧
          cause = .unknownResource resource) ∧
      ∀ plan, make registry inputs outputs = .ok plan →
        plan.inputs.map Prod.fst = inputs ∧ plan.outputs.map Prod.fst = outputs ∧
        plan.inputs.map (fun input => some input.2) = inputs.map registry.kind? ∧
        plan.outputs.map (fun output => some output.2) = outputs.map registry.kind? ∧
        (∀ resource, plan.event = some resource ↔ resource ∈ inputs ∧ registry.kind? resource = some .event) ∧
        (plan.viewports = true ↔
          ∃ resource ∈ inputs ++ outputs, registry.kind? resource = some .viewportComponent) ∧
        (plan.entities = true ↔
          ∃ resource ∈ inputs ++ outputs, registry.kind? resource = some .entityComponent) := by
  refine ⟨⟨?_, ?_⟩, ?_, ?_⟩
  · rintro ⟨plan, made⟩
    obtain ⟨middle, read, written⟩ := make_ok_iff.mp made
    exact ⟨(foldlM_addInput_ok read).2, foldlM_addOutput_ok written⟩
  · rintro ⟨joinable, registered⟩
    obtain ⟨middle, read⟩ := joinable.accepted
    obtain ⟨plan, written⟩ := foldlM_addOutput_accepts middle registered
    exact ⟨plan, make_ok_iff.mpr ⟨middle, read, written⟩⟩
  · intro cause
    rw [make_error_iff, foldlM_addInput_error_iff]
    apply or_congr_right
    constructor
    · rintro ⟨middle, read, refused⟩
      exact ⟨(foldlM_addInput_ok read).2, (foldlM_addOutput_error_iff middle).mp refused⟩
    · rintro ⟨joinable, missing⟩
      obtain ⟨middle, read⟩ := joinable.accepted
      exact ⟨middle, read, (foldlM_addOutput_error_iff middle).mpr missing⟩
  · intro plan made
    have fits := make_fits made
    refine ⟨fits.reads_eq, fits.writes_eq, ?_, ?_, ?_, ?_, ?_⟩
    · rw [kinds_eq fits.input_kind, fits.reads_eq]
    · rw [kinds_eq fits.output_kind, fits.writes_eq]
    · intro resource
      rw [fits.event_iff, fits.read_iff]
    · rw [fits.viewports_iff, fits.involves_iff]
    · rw [fits.entities_iff, fits.involves_iff]

end EntityScene.Plan
