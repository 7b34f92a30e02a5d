import EntityScene.Proofs.Visit

/-!
The static join: the matches of a join as the data determine them before it begins. A walk visits
exactly these, in order, although it looks at the data anew before every match.
-/

namespace EntityScene

open Act

variable {μ : Type}

/-- Those of the resources that are registered under the kind. -/
def Registry.ofKind (registry : Registry) (kind : Kind) (resources : List ResourceId) : List ResourceId :=
  resources.filter fun resource => registry.kind? resource = some kind

namespace Data

/-- The positions of the events of the event input, or a single none if there is no event input. -/
def joinEvents (data : Data μ) (reads : List ResourceId) : List (Option Nat) :=
  match data.registry.ofKind .event reads with
  | [] => [none]
  | resource :: _ => (List.range (data.events? resource).length).map some

/-- The live identities, in their order, that have a value for every input of the kind; a single none if
nothing that is read or written is of the kind. -/
def joinIdentities (data : Data μ) (kind : Kind) (reads writes : List ResourceId) :
    List (Option Identity) :=
  if data.registry.ofKind kind (reads ++ writes) = [] then [none]
  else
    ((data.poolOf kind).live.toList.filter fun identity =>
      (data.registry.ofKind kind reads).all fun resource =>
        (data.component? resource identity).isSome).map some

/-- The scene components that are read have values. -/
def scalarsSet (data : Data μ) (reads : List ResourceId) : Bool :=
  (data.registry.ofKind .sceneComponent reads).all fun resource => (data.scalar? resource).isSome

/-- The matches of a join: none if a scene component that is read has no value, and otherwise every
event, with every viewport, with every entity. -/
def staticJoin (data : Data μ) (reads writes : List ResourceId) : List Match :=
  if data.scalarsSet reads then
    (data.joinEvents reads).flatMap fun event =>
      (data.joinIdentities .viewportComponent reads writes).flatMap fun viewport =>
        (data.joinIdentities .entityComponent reads writes).map fun entity => ⟨event, viewport, entity⟩
  else []

end Data

theorem Registry.mem_ofKind {registry : Registry} {entries : List (ResourceId × Kind)}
    (kinds : ∀ entry ∈ entries, registry.kind? entry.1 = some entry.2) {kind : Kind}
    {resource : ResourceId} :
    resource ∈ registry.ofKind kind (entries.map Prod.fst) ↔ (resource, kind) ∈ entries := by
  simp only [Registry.ofKind, List.mem_filter, List.mem_map, decide_eq_true_eq]
  constructor
  · rintro ⟨⟨⟨other, sort⟩, declared, rfl⟩, registered⟩
    have same := kinds _ declared
    rw [registered, Option.some.injEq] at same
    rw [same]
    exact declared
  · intro declared
    exact ⟨⟨_, declared, rfl⟩, kinds _ declared⟩

namespace Plan.Fits

variable {registry : Registry} {reads writes : List ResourceId} {plan : Plan} {kind : Kind}
  {resource : ResourceId}

theorem mem_reads (fits : plan.Fits registry reads writes) :
    resource ∈ registry.ofKind kind reads ↔ (resource, kind) ∈ plan.inputs := by
  rw [← fits.reads_eq]
  exact Registry.mem_ofKind fits.input_kind

theorem mem_involved (fits : plan.Fits registry reads writes) :
    resource ∈ registry.ofKind kind (reads ++ writes) ↔ (resource, kind) ∈ plan.inputs ++ plan.outputs := by
  rw [← fits.reads_eq, ← fits.writes_eq, ← List.map_append]
  refine Registry.mem_ofKind fun entry member => ?_
  rcases List.mem_append.mp member with read | written
  · exact fits.input_kind entry read
  · exact fits.output_kind entry written

/-- Nothing of the kind is involved. -/
theorem involved_eq_nil (fits : plan.Fits registry reads writes) :
    registry.ofKind kind (reads ++ writes) = [] ↔
      ¬∃ resource, (resource, kind) ∈ plan.inputs ++ plan.outputs := by
  rw [List.eq_nil_iff_forall_not_mem, not_exists]
  exact forall_congr' fun resource => not_congr fits.mem_involved

end Plan.Fits

namespace Join

section Guards

variable {data : Data μ} {inputs : List (ResourceId × Kind)}

/-- Looking through the inputs finds out whether the identity has all of them. -/
theorem holdsAll_ok (sound : data.Sound)
    (kinds : ∀ input ∈ inputs, data.registry.kind? input.1 = some input.2) {kind : Kind}
    (indexed : kind.isIndexed = true) (identity : Identity) :
    ∃ holds, holdsAll data kind identity inputs = .ok holds ∧
      (holds = true ↔ ∀ resource, (resource, kind) ∈ inputs →
        (data.component? resource identity).isSome = true) := by
  induction inputs with
  | nil => exact ⟨true, rfl, by simp⟩
  | cons input rest ih =>
      obtain ⟨resource, sort⟩ := input
      obtain ⟨others, looked, iff⟩ := ih fun other member => kinds other (List.mem_cons_of_mem _ member)
      unfold holdsAll
      by_cases same : sort = kind
      · subst same
        obtain ⟨descriptor, registered, sorts⟩ :=
          Registry.kind?_eq_some.mp (kinds _ List.mem_cons_self)
        obtain ⟨table, found, _⟩ := sound.indexed registered (by rw [sorts]; exact indexed)
        have held : (data.component? resource identity).isSome = table.contains identity := by
          rw [Data.component?, Data.cells_of_found found]
          rfl
        simp only [if_true, storageAt_ok found, bind, Except.bind, Storage.indexed]
        by_cases here : table.contains identity = true
        · rw [if_pos here]
          refine ⟨others, looked, ?_⟩
          simp [iff, held, here]
        · rw [if_neg here]
          refine ⟨false, rfl, ?_⟩
          simp only [Bool.false_eq_true, false_iff]
          intro all
          apply here
          rw [← held]
          exact all resource List.mem_cons_self
      · rw [if_neg same]
        refine ⟨others, looked, ?_⟩
        simp [iff, Ne.symm same]

/-- Looking through the inputs finds out whether a scene component is missing. -/
theorem lacksScalar_ok (sound : data.Sound)
    (kinds : ∀ input ∈ inputs, data.registry.kind? input.1 = some input.2) :
    ∃ lacking, lacksScalar data inputs = .ok lacking ∧
      (lacking = false ↔ ∀ resource, (resource, .sceneComponent) ∈ inputs →
        (data.scalar? resource).isSome = true) := by
  induction inputs with
  | nil => exact ⟨false, rfl, by simp⟩
  | cons input rest ih =>
      obtain ⟨resource, sort⟩ := input
      obtain ⟨others, looked, iff⟩ := ih fun other member => kinds other (List.mem_cons_of_mem _ member)
      unfold lacksScalar
      by_cases same : sort = .sceneComponent
      · subst same
        obtain ⟨descriptor, registered, sorts⟩ :=
          Registry.kind?_eq_some.mp (kinds _ List.mem_cons_self)
        obtain ⟨scalar, found, _⟩ := sound.scalar registered sorts
        have held : data.scalar? resource = scalar := by
          rw [Data.scalar?, Data.cells_of_found found]
          rfl
        simp only [if_true, storageAt_ok found, bind, Except.bind, Storage.scalar]
        by_cases here : scalar.isSome = true
        · rw [if_pos here]
          refine ⟨others, looked, ?_⟩
          simp [iff, held, here]
        · rw [if_neg here]
          refine ⟨true, rfl, ?_⟩
          simp only [Bool.true_eq_false, false_iff]
          intro all
          apply here
          rw [← held]
          exact all resource List.mem_cons_self
      · rw [if_neg same]
        refine ⟨others, looked, ?_⟩
        simp [iff, Ne.symm same]

end Guards

section Passes

variable {reads writes : List ResourceId} {plan : Plan} {base data : Data μ} {kind : Kind}

/-- Whether a pass was let in at the beginning. -/
def admitted (base : Data μ) (reads : List ResourceId) (kind : Kind) : Option Identity → Bool
  | none => true
  | some identity =>
    (base.registry.ofKind kind reads).all fun resource => (base.component? resource identity).isSome

theorem admitted_some (fits : plan.Fits base.registry reads writes) {identity : Identity} :
    admitted base reads kind (some identity) = true ↔ ∀ resource, (resource, kind) ∈ plan.inputs →
      (base.component? resource identity).isSome = true := by
  unfold admitted
  rw [List.all_eq_true]
  exact forall_congr' fun resource => imp_congr_left fits.mem_reads

/-- The passes that are let in are those of the beginning. -/
theorem letsIn_ok (fits : plan.Fits base.registry reads writes) (indexed : kind.isIndexed = true)
    {involved : Bool} {pass : Option Identity} (member : pass ∈ identityPasses involved (base.poolOf kind))
    (live : Live (Frame μ)) (steady : Steady plan base live.core.data) :
    letsIn plan kind pass live = .ok (admitted base reads kind pass) live := by
  cases pass with
  | none => rfl
  | some identity =>
      have kinds := fits.input_kind
      rw [← steady.registry] at kinds
      obtain ⟨holds, looked, iff⟩ := holdsAll_ok steady.sound kinds indexed identity
      have same : holds = admitted base reads kind (some identity) := by
        rw [Bool.eq_iff_iff, iff, admitted_some fits]
        refine forall_congr' fun resource => imp_congr_right fun declared => ?_
        rw [steady.components declared (mem_identityPasses member)]
      rw [← same]
      unfold letsIn admits
      simp only [bind, EStateM.bind, Act.core, looked]
      rfl

theorem filter_identityPasses (fits : plan.Fits base.registry reads writes) {involved : Bool}
    (iff : involved = true ↔ ∃ resource, (resource, kind) ∈ plan.inputs ++ plan.outputs) :
    (identityPasses involved (base.poolOf kind)).filter (admitted base reads kind) =
      base.joinIdentities kind reads writes := by
  unfold identityPasses Data.joinIdentities
  by_cases here : involved = true
  · have involves : ¬base.registry.ofKind kind (reads ++ writes) = [] := by
      rw [fits.involved_eq_nil]
      exact not_not_intro (iff.mp here)
    rw [if_pos here, if_neg involves, List.filter_map]
    rfl
  · have nothing : base.registry.ofKind kind (reads ++ writes) = [] := by
      rw [fits.involved_eq_nil, ← iff]
      exact here
    rw [if_neg here, if_pos nothing]
    rfl

theorem mem_joinIdentities (fits : plan.Fits base.registry reads writes) {pass : Option Identity}
    (member : pass ∈ base.joinIdentities kind reads writes) :
    (∀ resource, (resource, kind) ∈ plan.inputs ++ plan.outputs → ∃ identity, pass = some identity) ∧
      ∀ identity, pass = some identity → identity ∈ (base.poolOf kind).live ∧
        ∀ resource, (resource, kind) ∈ plan.inputs → (base.component? resource identity).isSome = true := by
  unfold Data.joinIdentities at member
  split at member
  · rename_i nothing
    rw [fits.involved_eq_nil, not_exists] at nothing
    rw [List.mem_singleton.mp member]
    exact ⟨fun resource involved => absurd involved (nothing resource), fun _ never => nomatch never⟩
  · obtain ⟨identity, found, rfl⟩ := List.mem_map.mp member
    obtain ⟨live, holds⟩ := List.mem_filter.mp found
    refine ⟨fun _ _ => ⟨identity, rfl⟩, fun other same => ?_⟩
    rw [← Option.some.inj same]
    exact ⟨Array.mem_toList_iff.mp live, (admitted_some fits).mp holds⟩

theorem eventPasses_ok (fits : plan.Fits base.registry reads writes) (steady : Steady plan base data) :
    eventPasses data plan = .ok (base.joinEvents reads) := by
  unfold eventPasses Data.joinEvents
  cases driven : plan.event with
  | none =>
      have nothing : base.registry.ofKind .event reads = [] := by
        rw [List.eq_nil_iff_forall_not_mem]
        intro resource member
        have event := (fits.event_iff resource).mpr (fits.mem_reads.mp member)
        rw [driven] at event
        cases event
      rw [nothing]
  | some resource =>
      have declared := (fits.event_iff resource).mp driven
      obtain ⟨descriptor, registered, sort⟩ := Registry.kind?_eq_some.mp (fits.input_kind _ declared)
      rw [← steady.registry] at registered
      obtain ⟨list, found, _⟩ := steady.sound.events registered sort
      have events : base.events? resource = list := by
        rw [← steady.events, Data.events?, Data.cells_of_found found]
        rfl
      cases same : base.registry.ofKind .event reads with
      | nil =>
          have member := fits.mem_reads.mpr declared
          rw [same] at member
          cases member
      | cons other rest =>
          have member : other ∈ base.registry.ofKind .event reads := by
            rw [same]
            exact List.mem_cons_self
          have equal := (fits.event_iff other).mpr (fits.mem_reads.mp member)
          rw [driven, Option.some.injEq] at equal
          subst equal
          dsimp only
          rw [storageAt_ok found, events]
          rfl

/-- An event input gives one pass for each of its events. -/
theorem joinEvents_declared (fits : plan.Fits base.registry reads writes) {resource : ResourceId}
    (declared : (resource, .event) ∈ plan.inputs) :
    base.joinEvents reads = (List.range (base.events? resource).length).map some := by
  unfold Data.joinEvents
  have listed := fits.mem_reads.mpr declared
  split
  · rename_i nothing
    rw [nothing] at listed
    cases listed
  · rename_i first rest same
    have head : first ∈ base.registry.ofKind .event reads := by
      rw [same]
      exact List.mem_cons_self
    have one := (fits.event_iff first).mpr (fits.mem_reads.mp head)
    have two := (fits.event_iff resource).mpr declared
    rw [one, Option.some.injEq] at two
    rw [two]

theorem mem_joinEvents (fits : plan.Fits base.registry reads writes) {event : Option Nat}
    (member : event ∈ base.joinEvents reads) {resource : ResourceId}
    (declared : (resource, .event) ∈ plan.inputs) :
    ∃ position, event = some position ∧ position < (base.events? resource).length := by
  rw [joinEvents_declared fits declared] at member
  obtain ⟨position, inside, rfl⟩ := List.mem_map.mp member
  exact ⟨position, rfl, List.mem_range.mp inside⟩

end Passes

section Walks

variable {reads writes : List ResourceId} {plan : Plan} {base : Data μ}

theorem scalarsSet_iff (fits : plan.Fits base.registry reads writes) :
    base.scalarsSet reads = true ↔ ∀ resource, (resource, .sceneComponent) ∈ plan.inputs →
      (base.scalar? resource).isSome = true := by
  unfold Data.scalarsSet
  rw [List.all_eq_true]
  exact forall_congr' fun resource => imp_congr_left fits.mem_reads

/-- The matches of the static join have all that the plan needs. -/
theorem placed_of_mem (fits : plan.Fits base.registry reads writes) (set : base.scalarsSet reads = true)
    {event : Option Nat} {viewport entity : Option Identity} (eventMember : event ∈ base.joinEvents reads)
    (viewportMember : viewport ∈ base.joinIdentities .viewportComponent reads writes)
    (entityMember : entity ∈ base.joinIdentities .entityComponent reads writes) :
    Placed plan base ⟨event, viewport, entity⟩ := by
  obtain ⟨viewportThere, viewportHolds⟩ := mem_joinIdentities fits viewportMember
  obtain ⟨entityThere, entityHolds⟩ := mem_joinIdentities fits entityMember
  constructor
  · intro resource declared
    exact (scalarsSet_iff fits).mp set resource declared
  · intro resource declared
    exact mem_joinEvents fits eventMember declared
  · intro resource kind involved indexed
    cases kind with
    | viewportComponent => exact viewportThere resource involved
    | entityComponent => exact entityThere resource involved
    | sceneComponent | event | entitySpawnList | entityDespawnList => cases indexed
  · intro kind identity here
    cases kind with
    | viewportComponent => exact (viewportHolds identity here).1
    | entityComponent => exact (entityHolds identity here).1
    | sceneComponent | event | entitySpawnList | entityDespawnList => cases here
  · intro resource kind identity here declared
    cases kind with
    | viewportComponent => exact (viewportHolds identity here).2 resource declared
    | entityComponent => exact (entityHolds identity here).2 resource declared
    | sceneComponent | event | entitySpawnList | entityDespawnList => cases here

theorem mem_staticJoin {place : Match} (fits : plan.Fits base.registry reads writes)
    (set : base.scalarsSet reads = true) (member : place ∈ base.staticJoin reads writes) :
    Placed plan base place := by
  unfold Data.staticJoin at member
  rw [if_pos set] at member
  simp only [List.mem_flatMap, List.mem_map] at member
  obtain ⟨event, eventMember, viewport, viewportMember, entity, entityMember, rfl⟩ := member
  exact placed_of_mem fits set eventMember viewportMember entityMember

variable {visit : Match → Act (Frame μ) Bool} {invariant : Frame μ → Prop}

theorem overEntities_eq (fits : plan.Fits base.registry reads writes)
    (steady : ∀ frame, invariant frame → Steady plan base frame.data) {event : Option Nat}
    {viewport : Option Identity}
    (visits : ∀ entity ∈ base.joinIdentities .entityComponent reads writes,
      Advances invariant (visit ⟨event, viewport, entity⟩))
    (live : Live (Frame μ)) (holds : invariant live.core) :
    overEntities plan visit event viewport (identityPasses plan.entities (base.poolOf .entityComponent)) live =
      visitAll visit ((base.joinIdentities .entityComponent reads writes).map fun entity =>
        ⟨event, viewport, entity⟩) live := by
  have passes := filter_identityPasses fits fits.entities_iff
  rw [← passes, List.map_eq_flatMap]
  refine sweep_eq_visitAll (fun pass member live holds =>
    letsIn_ok fits rfl member live (steady _ holds)) ?_ ?_ live holds
  · intro entity _ _ live _
    exact (congrFun (visitAll_singleton visit _) live).symm
  · intro entity member shown place here
    rw [List.mem_singleton.mp here]
    refine visits entity ?_
    rw [← passes]
    exact List.mem_filter.mpr ⟨member, shown⟩

theorem overViewports_eq (fits : plan.Fits base.registry reads writes)
    (steady : ∀ frame, invariant frame → Steady plan base frame.data) {event : Option Nat}
    (visits : ∀ viewport ∈ base.joinIdentities .viewportComponent reads writes,
      ∀ entity ∈ base.joinIdentities .entityComponent reads writes,
        Advances invariant (visit ⟨event, viewport, entity⟩))
    (live : Live (Frame μ)) (holds : invariant live.core) :
    overViewports plan visit event (identityPasses plan.entities (base.poolOf .entityComponent))
        (identityPasses plan.viewports (base.poolOf .viewportComponent)) live =
      visitAll visit ((base.joinIdentities .viewportComponent reads writes).flatMap fun viewport =>
        (base.joinIdentities .entityComponent reads writes).map fun entity =>
          ⟨event, viewport, entity⟩) live := by
  have passes := filter_identityPasses fits fits.viewports_iff
  have listed {viewport : Option Identity}
      (member : viewport ∈ identityPasses plan.viewports (base.poolOf .viewportComponent))
      (shown : admitted base reads .viewportComponent viewport = true) :
      viewport ∈ base.joinIdentities .viewportComponent reads writes := by
    rw [← passes]
    exact List.mem_filter.mpr ⟨member, shown⟩
  conv => rhs; rw [← passes]
  refine sweep_eq_visitAll (fun pass member live holds =>
    letsIn_ok fits rfl member live (steady _ holds)) ?_ ?_ live holds
  · intro viewport member shown live holds
    exact overEntities_eq fits steady (visits viewport (listed member shown)) live holds
  · intro viewport member shown place here
    obtain ⟨entity, entityMember, rfl⟩ := List.mem_map.mp here
    exact visits viewport (listed member shown) entity entityMember

/-- A walk visits the static join in turn, if visits that go on keep the data steady. -/
theorem walk_eq_visitAll (fits : plan.Fits base.registry reads writes) (set : base.scalarsSet reads = true)
    (steady : ∀ frame, invariant frame → Steady plan base frame.data)
    (visits : ∀ place, Placed plan base place → Advances invariant (visit place))
    (live : Live (Frame μ)) (holds : invariant live.core) :
    walk plan visit live = visitAll visit (base.staticJoin reads writes) live := by
  have now := steady live.core holds
  have begun : walk plan visit live =
      overEvents plan visit (identityPasses plan.viewports (base.poolOf .viewportComponent))
        (identityPasses plan.entities (base.poolOf .entityComponent)) (base.joinEvents reads) live := by
    unfold walk
    simp only [bind, EStateM.bind, Act.core, eventPasses_ok fits now, Act.ofExcept, pure, EStateM.pure,
      now.viewports, now.entities]
    rfl
  have everyEvent : (base.joinEvents reads).filter (fun _ => true) = base.joinEvents reads :=
    List.filter_eq_self.mpr fun _ _ => rfl
  rw [begun]
  unfold Data.staticJoin
  rw [if_pos set]
  conv => rhs; rw [← everyEvent]
  refine sweep_eq_visitAll (fun _ _ _ _ => rfl) ?_ ?_ live holds
  · intro event eventMember _ live holds
    refine overViewports_eq fits steady ?_ live holds
    intro viewport viewportMember entity entityMember
    exact visits _ (placed_of_mem fits set eventMember viewportMember entityMember)
  · intro event eventMember _ place member
    simp only [List.mem_flatMap, List.mem_map] at member
    obtain ⟨viewport, viewportMember, entity, entityMember, rfl⟩ := member
    exact visits _ (placed_of_mem fits set eventMember viewportMember entityMember)

end Walks

end Join

end EntityScene
