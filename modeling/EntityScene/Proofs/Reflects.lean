import EntityScene.Proofs.Writings

/-!
Data that show writings. Data show a list of writings over other data if each spot has the value written
there last and the requests stand in the queue. A commit takes data that show some writings to data that
show what it writes itself as well.
-/

namespace EntityScene

open Act

variable {μ ν : Type}

/-- The kind of resources that have values at the spot. -/
def Spot.kind : Spot → Kind
  | .scene => .sceneComponent
  | .viewport _ => .viewportComponent
  | .entity _ => .entityComponent
  | .event _ => .event

def Spot.identity? : Spot → Option Identity
  | .viewport identity | .entity identity => some identity
  | .scene | .event _ => none

theorem Spot.eq_of_identity {spot other : Spot} {identity : Identity} (here : spot.identity? = some identity)
    (there : other.identity? = some identity) (kinds : spot.kind = other.kind) : spot = other := by
  cases spot <;> cases other <;> simp_all [Spot.identity?, Spot.kind]

theorem Spot.kind_of_spot? {place : Match} {kind : Kind} {spot : Spot} (here : place.spot? kind = some spot)
    (holds : kind.isRequestList = false) : spot.kind = kind := by
  cases kind with
  | sceneComponent =>
      cases here
      rfl
  | event | viewportComponent | entityComponent =>
      obtain ⟨_, _, rfl⟩ := Option.map_eq_some_iff.mp here
      rfl
  | entitySpawnList | entityDespawnList => cases holds

namespace Data

/-- The value of a resource at a spot. -/
def at? (data : Data μ) (resource : ResourceId) : Spot → Option Value
  | .scene => data.scalar? resource
  | .viewport identity => data.component? resource identity
  | .entity identity => data.component? resource identity
  | .event position => (data.events? resource)[position]?

/-- The resource has its values at such spots, and the identity of the spot is live. -/
structure Attends (data : Data μ) (resource : ResourceId) (spot : Spot) : Prop where
  kind : data.registry.kind? resource = some spot.kind
  live {identity : Identity} : spot.identity? = some identity → identity ∈ (data.poolOf spot.kind).live

theorem at?_of_cells {data : Data μ} {other : Data ν} {resource : ResourceId}
    (same : other.cells resource = data.cells resource) (spot : Spot) :
    other.at? resource spot = data.at? resource spot := by
  cases spot <;> simp only [at?, scalar?, component?, events?, same]

theorem occupant?_of_cells {data : Data μ} {other : Data ν} {resource : ResourceId}
    (same : other.cells resource = data.cells resource) (spot : Spot) :
    other.occupant? resource spot = data.occupant? resource spot := by
  unfold occupant?
  rw [same]

theorem at?_identity (data : Data μ) (resource : ResourceId) {spot : Spot} {identity : Identity}
    (here : spot.identity? = some identity) : data.at? resource spot = data.component? resource identity := by
  cases spot with
  | viewport | entity =>
      cases here
      rfl
  | scene | event => cases here

theorem occupant?_identity {data : Data μ} {resource : ResourceId} {table : Indexed}
    (shaped : data.cells resource = .indexed table) {spot : Spot} {identity : Identity}
    (here : spot.identity? = some identity) :
    data.occupant? resource spot = table.occupant? identity.index.toNat := by
  unfold occupant?
  rw [shaped]
  cases spot with
  | viewport | entity =>
      cases here
      rfl
  | scene | event => cases here

/-- Two live identities of one resource have different indices. -/
theorem Attends.eq_or_apart {data : Data μ} {resource : ResourceId} {spot other : Spot} {identity : Identity}
    (attended : data.Attends resource spot) (here : spot.identity? = some identity)
    (pool : (data.poolOf spot.kind).Sound) (also : data.Attends resource other) :
    other = spot ∨ ∃ third, other.identity? = some third ∧ third ≠ identity ∧
      third.index ≠ identity.index := by
  have kinds : spot.kind = other.kind := Option.some.inj (attended.kind.symm.trans also.kind)
  obtain ⟨third, there⟩ : ∃ third, other.identity? = some third := by
    cases spot <;> cases other <;> simp_all [Spot.identity?, Spot.kind]
  by_cases equal : third = identity
  · subst equal
    exact .inl (Spot.eq_of_identity there here kinds.symm)
  · refine .inr ⟨third, there, equal, fun clash => ?_⟩
    have live := also.live there
    rw [← kinds] at live
    exact equal (pool.live_inj live (attended.live here) clash)

end Data

namespace Join

open Data

/-- The data with a writing made: a value has taken its place in the storage of its resource, or requests
stand at the end of the queue. -/
def Writing.put (data : Data μ) : Writing → Data μ
  | .requested list => { data with commands.spawns := data.commands.spawns ++ list }
  | .stored resource spot value =>
    match data.storages[resource]?, spot.identity? with
    | some ⟨descriptor, .scalar _⟩, none => data.withCells resource descriptor (.scalar (some value))
    | some ⟨descriptor, .indexed table⟩, some identity =>
      data.withCells resource descriptor (.indexed (table.store identity value))
    | _, _ => data

/-- The data with writings made in turn. -/
def putAll (data : Data μ) (writings : List Writing) : Data μ := writings.foldl Writing.put data

theorem putAll_append (data : Data μ) (first second : List Writing) :
    putAll data (first ++ second) = putAll (putAll data first) second := List.foldl_append

/-- The data show the writings over the base: each spot that is attended has the value written there
last, which is also the one that the next value there replaces, an identity that is not live has nothing
new, and the requests are in the queue. -/
structure Reflects (base : Data μ) (writings : List Writing) (data : Data ν) : Prop where
  shows {resource : ResourceId} {spot : Spot} : base.Attends resource spot →
    data.at? resource spot = (latest? writings resource spot).or (base.at? resource spot)
  stands {resource : ResourceId} {spot : Spot} : base.Attends resource spot →
    data.occupant? resource spot = (latest? writings resource spot).or (base.occupant? resource spot)
  remains {resource : ResourceId} {kind : Kind} {identity : Identity} {value : Value} :
    base.registry.kind? resource = some kind → identity ∉ (base.poolOf kind).live →
      data.component? resource identity = some value → base.component? resource identity = some value
  spawns : data.commands.spawns = base.commands.spawns ++ recorded writings

theorem Reflects.refl (base : Data μ) : Reflects base [] base where
  shows _ := rfl
  stands _ := rfl
  remains _ _ held := held
  spawns := (List.append_nil _).symm

/-- One more writing. -/
theorem Reflects.snoc {base : Data μ} {earlier : List Writing} {data changed : Data ν}
    (reflects : Reflects base earlier data) (writing : Writing)
    (shows : ∀ {resource spot}, base.Attends resource spot →
      changed.at? resource spot = (writing.at? resource spot).or (data.at? resource spot))
    (stands : ∀ {resource spot}, base.Attends resource spot →
      changed.occupant? resource spot = (writing.at? resource spot).or (data.occupant? resource spot))
    (remains : ∀ {resource kind identity value}, base.registry.kind? resource = some kind →
      identity ∉ (base.poolOf kind).live → changed.component? resource identity = some value →
        data.component? resource identity = some value)
    (spawns : changed.commands.spawns = data.commands.spawns ++ writing.spawns) :
    Reflects base (earlier ++ [writing]) changed where
  shows attended := by
    rw [shows attended, reflects.shows attended, latest?_append, latest?_singleton, Option.or_assoc]
  stands attended := by
    rw [stands attended, reflects.stands attended, latest?_append, latest?_singleton, Option.or_assoc]
  remains registered dead held := reflects.remains registered dead (remains registered dead held)
  spawns := by
    rw [spawns, reflects.spawns, recorded_append, List.append_assoc]
    simp [recorded]

section Stores

variable {base : Data μ} {data : Data ν} {earlier : List Writing} {resource : ResourceId}
  {descriptor : Descriptor} {value : Value}

/-- A storage takes a value at a spot and keeps what it has at others; so do all other storages. -/
theorem Reflects.store (reflects : Reflects base earlier data) {before after : Cells} {spot : Spot}
    (found : data.storages[resource]? = some ⟨descriptor, before⟩)
    (shows : ∀ {other}, base.Attends resource other →
      (data.withCells resource descriptor after).at? resource other =
        if spot = other then some value else data.at? resource other)
    (stands : ∀ {other}, base.Attends resource other →
      (data.withCells resource descriptor after).occupant? resource other =
        if spot = other then some value else data.occupant? resource other)
    (remains : ∀ {kind identity held}, base.registry.kind? resource = some kind →
      identity ∉ (base.poolOf kind).live → after.component? identity = some held →
        before.component? identity = some held) :
    Reflects base (earlier ++ [.stored resource spot value]) (data.withCells resource descriptor after) := by
  have kept {other : ResourceId} (apart : resource ≠ other) :
      (data.withCells resource descriptor after).cells other = data.cells other := by
    rw [Data.cells_withCells found, if_neg apart.symm]
  refine reflects.snoc _ (fun {other third} attended => ?_) (fun {other third} attended => ?_)
    (fun {other kind identity _} registered dead held => ?_) (List.append_nil _).symm
  · rw [Writing.at?_stored]
    by_cases same : resource = other
    · subst same
      rw [shows attended]
      by_cases here : spot = third <;> simp [here]
    · rw [if_neg fun both => same both.1]
      exact Data.at?_of_cells (kept same) third
  · rw [Writing.at?_stored]
    by_cases same : resource = other
    · subst same
      rw [stands attended]
      by_cases here : spot = third <;> simp [here]
    · rw [if_neg fun both => same both.1]
      exact Data.occupant?_of_cells (kept same) third
  · rw [Data.component?_withCells found] at held
    by_cases same : other = resource
    · subst same
      rw [if_pos rfl] at held
      rw [Data.component?, Data.cells_of_found found]
      exact remains registered dead held
    · rw [if_neg same] at held
      exact held

/-- A scene component takes a value. -/
theorem Reflects.putScalar (reflects : Reflects base earlier data) {before : Scalar}
    (found : data.storages[resource]? = some ⟨descriptor, .scalar before⟩) :
    Reflects base (earlier ++ [.stored resource .scene value])
      (data.withCells resource descriptor (.scalar (some value))) := by
  have stored : (data.withCells resource descriptor (.scalar (some value))).cells resource =
      .scalar (some value) := by
    rw [Data.cells_withCells found, if_pos rfl]
  have held : data.cells resource = .scalar before := Data.cells_of_found found
  refine reflects.store found (fun {other} _ => ?_) (fun {other} _ => ?_) (fun _ _ absent => ?_)
  · cases other with
    | scene => simp [at?, scalar?, stored, Cells.scalar?]
    | viewport | entity => simp [at?, component?, stored, held, Cells.component?]
    | event => simp [at?, events?, stored, held, Cells.events?]
  · cases other with
    | scene => simp [occupant?, stored, Cells.occupant?]
    | viewport | entity | event => simp [occupant?, stored, held, Cells.occupant?]
  · cases absent

/-- A component takes a value for a live identity. Other live identities have other slots. -/
theorem Reflects.putComponent (reflects : Reflects base earlier data) {spot : Spot} {identity : Identity}
    (attended : base.Attends resource spot) (here : spot.identity? = some identity)
    (pool : (base.poolOf spot.kind).Sound) {table : Indexed}
    (found : data.storages[resource]? = some ⟨descriptor, .indexed table⟩) :
    Reflects base (earlier ++ [.stored resource spot value])
      (data.withCells resource descriptor (.indexed (table.store identity value))) := by
  have stored : (data.withCells resource descriptor (.indexed (table.store identity value))).cells resource =
      .indexed (table.store identity value) := by
    rw [Data.cells_withCells found, if_pos rfl]
  have held : data.cells resource = .indexed table := Data.cells_of_found found
  have component (third : Identity) :
      (data.withCells resource descriptor (.indexed (table.store identity value))).component? resource third =
        if third = identity then some value
        else if third.index = identity.index then none else data.component? resource third := by
    rw [Data.component?, stored, Data.component?, held]
    exact Indexed.component_store table identity value third
  have unequal {third : Spot} {identity' : Identity} (there : third.identity? = some identity')
      (other : identity' ≠ identity) : spot ≠ third := by
    intro equals
    rw [equals, there, Option.some.injEq] at here
    exact other here
  refine reflects.store found (fun {other} also => ?_) (fun {other} also => ?_)
    (fun {kind third _} registered dead absent => ?_)
  · rcases attended.eq_or_apart here pool also with rfl | ⟨identity', there, different, apart⟩
    · rw [Data.at?_identity _ _ here, component, if_pos rfl, if_pos rfl]
    · rw [Data.at?_identity _ _ there, Data.at?_identity _ _ there, component, if_neg different, if_neg apart,
        if_neg (unequal there different)]
  · rcases attended.eq_or_apart here pool also with rfl | ⟨identity', there, different, apart⟩
    · rw [Data.occupant?_identity stored here, Indexed.occupant?_store, if_pos rfl, if_pos rfl]
    · rw [Data.occupant?_identity stored there, Data.occupant?_identity held there, Indexed.occupant?_store,
        if_neg fun clash => apart (UInt32.toNat_inj.mp clash), if_neg (unequal there different)]
  · have kinds : kind = spot.kind := Option.some.inj (registered.symm.trans attended.kind)
    have other : third ≠ identity := by
      intro equal
      rw [equal, kinds] at dead
      exact dead (attended.live here)
    change (table.store identity value).component third = _ at absent
    rw [Indexed.component_store, if_neg other] at absent
    split at absent
    · cases absent
    · exact absent

/-- Requests are added to the queue. -/
theorem Reflects.appendSpawns (reflects : Reflects base earlier data) (list : SpawnList) :
    Reflects base (earlier ++ [.requested list])
      { data with commands := (data.commands.appendSpawns list).2.1 } :=
  reflects.snoc _ (fun _ => rfl) (fun _ => rfl) (fun _ _ held => held) rfl

end Stores

section Commits

variable {reads writes : List ResourceId} {plan : Plan} {base : Data μ} {place : Match}
  {descriptors : List Descriptor} {position : Nat} {resource : ResourceId} {kind : Kind}
  {earlier : List Writing} {slot : OutputSlot} {value : Value}

/-- How the commit of a slot ends after earlier writings: it is refused and nothing is requested, or its
writings are made and nothing else. -/
inductive Lands (plan : Plan) (base : Data μ) (earlier new : List Writing) (slot : OutputSlot) (blocked : Bool)
    (position : Nat) (before : Frame μ) : Except Fault Unit → Frame μ → Prop
  | refused {cause : Fault} {after : Frame μ} (stops : blocked = true)
    (commands : after.data.commands = before.data.commands)
    (named : cause.isUnsupported = !slot.descriptor.kind.commits) :
    Lands plan base earlier new slot blocked position before (.error cause) after
  | written {after : Frame μ} (free : blocked = false) (steady : Steady plan base after.data)
    (reflects : Reflects base (earlier ++ new) after.data)
    (outputs : after.outputs = List.set before.outputs position slot.settled)
    (data : after.data = putAll before.data new) :
    Lands plan base earlier new slot blocked position before (.ok ()) after

/-- The spot of a match attends the outputs of its kind. -/
theorem attends_of_placed (placed : Placed plan base place) (registered : base.registry.kind? resource = some kind)
    (holds : kind.isRequestList = false) {spot : Spot} (here : place.spot? kind = some spot) :
    base.Attends resource spot := by
  have kinds := Spot.kind_of_spot? here holds
  refine ⟨by rw [kinds]; exact registered, fun {identity} owned => ?_⟩
  rw [kinds]
  apply placed.live
  cases kind with
  | viewportComponent | entityComponent =>
      obtain ⟨_, found, rfl⟩ := Option.map_eq_some_iff.mp here
      cases owned
      exact found
  | sceneComponent =>
      cases here
      cases owned
  | event =>
      obtain ⟨_, _, rfl⟩ := Option.map_eq_some_iff.mp here
      cases owned
  | entitySpawnList | entityDespawnList => cases holds

/-- Whether the slot of a component is blocked is decided by the value that waits and by the one in its
place. -/
theorem isBlocked_component (component : slot.descriptor.kind.isComponent = true)
    (waits : slot.written? = some value) {spot : Spot} (met : place.spot? slot.descriptor.kind = some spot)
    (attended : base.Attends resource spot) {data : Data μ} (reflects : Reflects base earlier data) :
    isBlocked base.occupant? place earlier resource slot =
      !(slot.descriptor.replacing (data.occupant? resource spot).toList value).isOk := by
  have writing : slotWriting place resource slot = some (.stored resource spot value) := by
    unfold slotWriting Writing.of?
    rw [waits, Option.bind_some]
    cases sort : slot.descriptor.kind <;> rw [sort] at component met <;> cases component <;> simp [met]
  rw [Descriptor.replacing_isOk, Bool.not_not, isBlocked, OutputSlot.stuck_component component waits, writing,
    reflects.stands attended]
  rfl

theorem commitScalar_lands {live : Live (Frame μ)} (steady : Steady plan base live.core.data)
    (placed : Placed plan base place)
    (registered : base.registry.get? resource = some slot.descriptor)
    (sort : slot.descriptor.kind = .sceneComponent) (waits : slot.written? = some value)
    (typed : value.type = slot.descriptor.element.type)
    (here : live.core.outputs[position]? = some slot.settled)
    (reflects : Reflects base earlier live.core.data) :
    Ends (onData (Data.onStorageAt resource (Storage.onScalar fun descriptor =>
        Scalar.emplace descriptor value))) live fun outcome after =>
      Lands plan base earlier [.stored resource .scene value] slot
        (isBlocked base.occupant? place earlier resource slot) position live.core outcome after.core := by
  have kinds : base.registry.kind? resource = some slot.descriptor.kind :=
    Registry.kind?_eq_some.mpr ⟨_, registered, rfl⟩
  have met : place.spot? slot.descriptor.kind = some .scene := by
    rw [sort]
    rfl
  have decides := isBlocked_component (by rw [sort]; rfl) waits met
    (attends_of_placed placed kinds (by rw [sort]; rfl) met) reflects
  rw [← steady.registry] at registered
  obtain ⟨before, found, sound⟩ := steady.sound.scalar registered sort
  have stands : live.core.data.occupant? resource .scene = before := by
    rw [Data.occupant?, Data.cells_of_found found]
    rfl
  rw [stands] at decides
  rw [ends_onData]
  refine (Data.emplaceScalar_ends found sound value).mono ?_
  rintro outcome after ⟨changed, wrote, same⟩
  cases wrote with
  | refused mistyped => exact absurd typed mistyped
  | stopped _ stops =>
      refine .refused ?_ (by rw [same]; rfl) ?_
      · rw [decides, stops]
        rfl
      · rw [sort, Descriptor.replacing_supported stops]
        rfl
  | stored _ replaces =>
      refine .written ?_ (by rw [same]; exact steady.putScalar found typed)
        (by rw [same]; exact reflects.putScalar found) (Outputs.set_self here).symm ?_
      · rw [decides, replaces]
        rfl
      · simp only [same, putAll, List.foldl, Writing.put, found, Spot.identity?]

theorem commitComponent_lands {live : Live (Frame μ)} (fits : plan.Fits base.registry reads writes)
    (steady : Steady plan base live.core.data) (placed : Placed plan base place)
    (registered : base.registry.get? resource = some slot.descriptor)
    (indexed : slot.descriptor.kind.isIndexed = true) {spot : Spot} {identity : Identity}
    (met : place.spot? slot.descriptor.kind = some spot)
    (owned : spot.identity? = some identity) (waits : slot.written? = some value)
    (typed : value.type = slot.descriptor.element.type)
    (here : live.core.outputs[position]? = some slot.settled)
    (reflects : Reflects base earlier live.core.data) :
    Ends (onData (Data.onStorageAt resource (Storage.onIndexed fun descriptor =>
        Indexed.emplace descriptor identity value))) live fun outcome after =>
      Lands plan base earlier [.stored resource spot value] slot
        (isBlocked base.occupant? place earlier resource slot) position live.core outcome after.core := by
  have kinds : base.registry.kind? resource = some slot.descriptor.kind :=
    Registry.kind?_eq_some.mpr ⟨_, registered, rfl⟩
  have component := Kind.isComponent_of_isIndexed indexed
  have attended := attends_of_placed placed kinds (Kind.isRequestList_of_isComponent component) met
  have identified : identity? place slot.descriptor.kind = some identity := by
    cases sort : slot.descriptor.kind <;> rw [sort] at indexed met <;> cases indexed
    all_goals
      obtain ⟨_, found, rfl⟩ := Option.map_eq_some_iff.mp met
      cases owned
      exact found
  have pool : (base.poolOf spot.kind).Sound := by
    rw [← steady.poolOf]
    exact steady.sound.pool spot.kind
  rw [← steady.registry] at registered
  obtain ⟨table, found, sound⟩ := steady.sound.indexed registered indexed
  have decides := isBlocked_component component waits met attended reflects
  rw [Data.occupant?_identity (Data.cells_of_found found) owned] at decides
  rw [ends_onData]
  refine (Data.emplaceIndexed_ends found sound identity value).mono ?_
  rintro outcome after ⟨changed, wrote, same⟩
  cases wrote with
  | refused mistyped => exact absurd typed mistyped
  | stopped _ stops =>
      refine .refused ?_ (by rw [same]; rfl) ?_
      · rw [decides, stops]
        rfl
      · rw [Kind.commits_of_isComponent component, Descriptor.replacing_supported stops]
        rfl
  | stored _ replaces =>
      refine .written ?_ (by rw [same]; exact steady.putComponent fits placed identified kinds found sound typed)
        (by rw [same]; exact reflects.putComponent attended owned pool found) (Outputs.set_self here).symm ?_
      · rw [decides, replaces]
        rfl
      · simp only [same, putAll, List.foldl, Writing.put, found, owned]

/-- Written requests move to the queue. -/
theorem commitSpawns_lands {live : Live (Frame μ)} (steady : Steady plan base live.core.data)
    (sort : slot.descriptor.kind = .entitySpawnList) {list : SpawnList}
    (waits : slot.written? = some (.spawnList list))
    (here : live.core.outputs[position]? = some { slot with written := false })
    (reflects : Reflects base earlier live.core.data) :
    Ends (commitSpawns position list) live fun outcome after =>
      Lands plan base earlier [.requested list] slot
        (isBlocked base.occupant? place earlier resource slot) position live.core outcome after.core := by
  obtain ⟨journal, ended, _⟩ := commitSpawns_found (Outputs.slot_found here) list
  refine (ends_of_ok ended).mpr (.written ?_ (steady.aside _ live.core.data.memory)
    (reflects.appendSpawns list) ?_ rfl)
  · simp [isBlocked, slotWriting, Writing.of?, Writing.isObstructed, OutputSlot.stuck, sort, waits, Value.type]
  · simp [OutputSlot.settled, sort, waits]

/-- The commit of a written slot. -/
theorem commitValue_lands {live : Live (Frame μ)} (fits : plan.Fits base.registry reads writes)
    (steady : Steady plan base live.core.data) (placed : Placed plan base place)
    (declared : (resource, kind) ∈ plan.outputs) (supported : ¬(kind = .event ∨ kind = .entityDespawnList))
    (registered : base.registry.get? resource = some slot.descriptor) (sort : slot.descriptor.kind = kind)
    (waits : slot.written? = some value) (typed : value.type = slot.descriptor.element.type)
    (here : live.core.outputs[position]? = some { slot with written := false })
    (reflects : Reflects base earlier live.core.data) :
    Ends (commitValue place position resource kind value) live fun outcome after =>
      Lands plan base earlier (slotWriting place resource slot).toList slot
        (isBlocked base.occupant? place earlier resource slot) position live.core outcome after.core := by
  have attached := placed.attached (List.mem_append_right _ declared)
  obtain ⟨event, viewport, entity⟩ := place
  unfold commitValue slotWriting
  rw [sort, waits, Option.bind_some]
  cases kind with
  | sceneComponent =>
      rw [← OutputSlot.settled_component (by rw [sort]; rfl)] at here
      exact commitScalar_lands steady placed registered sort waits typed here reflects
  | viewportComponent =>
      obtain ⟨identity, met⟩ := attached rfl
      cases met
      rw [← OutputSlot.settled_component (by rw [sort]; rfl)] at here
      exact commitComponent_lands fits steady placed registered (by rw [sort]; rfl) (by rw [sort]; rfl) rfl
        waits typed here reflects
  | entityComponent =>
      obtain ⟨identity, met⟩ := attached rfl
      cases met
      rw [← OutputSlot.settled_component (by rw [sort]; rfl)] at here
      exact commitComponent_lands fits steady placed registered (by rw [sort]; rfl) (by rw [sort]; rfl) rfl
        waits typed here reflects
  | entitySpawnList =>
      cases value with
      | spawnList list => exact commitSpawns_lands steady sort waits here reflects
      | _ =>
          refine .refused (isBlocked_of_stuck ?_) rfl (by rw [sort]; rfl)
          simp [OutputSlot.stuck, sort, waits, Value.type]
  | event => exact absurd (Or.inl rfl) supported
  | entityDespawnList => exact absurd (Or.inr rfl) supported

/-- The commit of one output. -/
theorem commitSlot_lands {live : Live (Frame μ)} (fits : plan.Fits base.registry reads writes)
    (placed : Placed plan base place) (declared : (resource, kind) ∈ plan.outputs)
    (registered : base.registry.get? resource = some slot.descriptor) (sort : slot.descriptor.kind = kind)
    (steady : Steady plan base live.core.data) (sound : slot.Sound)
    (found : live.core.outputs[position]? = some slot) (reflects : Reflects base earlier live.core.data) :
    Ends (commitSlot place position (resource, kind)) live fun outcome after =>
      Lands plan base earlier (slotWriting place resource slot).toList slot
        (isBlocked base.occupant? place earlier resource slot) position live.core outcome after.core := by
  unfold commitSlot
  split
  · rename_i never
    refine .refused (isBlocked_of_stuck (OutputSlot.stuck_unsupported (by rw [sort]; exact never))) rfl ?_
    rw [sort, Kind.commits_eq_false.mpr never]
    rfl
  · rename_i supported
    rw [← sort] at supported
    have skipped (unwritten : slot.written? = none) : (slotWriting place resource slot).toList = [] := by
      rw [slotWriting, unwritten]
      rfl
    have free (unwritten : slot.written? = none) :
        isBlocked base.occupant? place earlier resource slot = false := by
      rw [isBlocked, OutputSlot.stuck_unwritten unwritten supported, slotWriting, unwritten]
      rfl
    have unchanged : Reflects base (earlier ++ []) live.core.data := (List.append_nil earlier).symm ▸ reflects
    rw [ends_bind, ends_onOutputs, Outputs.ends_takeWritten found]
    split
    · rename_i isWritten
      rw [continues_ok]
      have taken : slot.written? = slot.buffer := if_pos isWritten
      cases held : slot.buffer with
      | none =>
          rw [held] at taken
          rw [skipped taken]
          refine .written (free taken) steady unchanged ?_ rfl
          rw [OutputSlot.settled_unwritten taken, held]
      | some value =>
          rw [held] at taken
          refine Ends.mono (commitValue_lands fits steady placed declared (by rw [← sort]; exact supported)
            registered sort taken (sound value held)
            (by rw [held]; exact List.getElem?_set_self (List.getElem?_eq_some_iff.mp found).1) reflects) ?_
          intro outcome after lands
          cases lands with
          | refused stuck commands named => exact .refused stuck commands named
          | written free steady' reflects' changed data =>
              rw [List.set_set] at changed
              exact .written free steady' reflects' changed data
    · rename_i unwritten
      have taken : slot.written? = none := if_neg unwritten
      have same : slot.settled = slot := by
        rw [OutputSlot.settled_unwritten taken, ← Bool.eq_false_iff.mpr unwritten]
      rw [skipped taken]
      refine .written (free taken) steady unchanged ?_ rfl
      rw [same, Outputs.set_self found]

/-- How a commit ends: what it requested is in the queue, and if it gets through, the data show what it
wrote and the slots are settled. -/
structure Committed (base : Data μ) (written : List Writing) (slots : Outputs)
    (outcome : Except Fault Unit) (after : Frame μ) : Prop where
  spawns : after.data.commands.spawns = base.commands.spawns ++ recorded written
  reflects : outcome = .ok () → Reflects base written after.data
  outputs : outcome = .ok () → after.outputs = slots

/-- A commit from a position on. The induction is on the outputs that are left; the slots before the
position are settled already. -/
theorem commit_lands {live : Live (Frame μ)} (fits : plan.Fits base.registry reads writes)
    (describes : Describes base.registry plan descriptors) (placed : Placed plan base place)
    {outputs : List (ResourceId × Kind)} (left : outputs = plan.outputs.drop position)
    (steady : Steady plan base live.core.data) (sound : Outputs.Sound descriptors live.core.outputs)
    (reflects : Reflects base earlier live.core.data) :
    Ends (commit place position outputs) live fun outcome after =>
      Committed base
        (earlier ++
          committed base.occupant? place earlier (outputs.map Prod.fst) (live.core.outputs.drop position))
        (live.core.outputs.take position ++ (live.core.outputs.drop position).map OutputSlot.settled)
        outcome after.core := by
  induction outputs generalizing position live earlier with
  | nil =>
      have none : committed base.occupant? place earlier [] (live.core.outputs.drop position) = [] := rfl
      rw [List.map_nil, none, List.append_nil]
      refine ⟨reflects.spawns, fun _ => reflects, fun _ => ?_⟩
      have done : plan.outputs.length ≤ position := List.drop_eq_nil_iff.mp left.symm
      rw [← describes.length, ← sound.length] at done
      simp [List.take_of_length_le done, List.drop_of_length_le done]
  | cons output rest ih =>
      obtain ⟨resource, kind⟩ := output
      have declared : plan.outputs[position]? = some (resource, kind) := by
        rw [← List.head?_drop, ← left]
        rfl
      have remaining : rest = plan.outputs.drop (position + 1) := by
        rw [← List.tail_drop, ← left]
        rfl
      obtain ⟨slot, found, described, registered, sort⟩ := exists_slot fits describes sound declared
      obtain ⟨inside, here⟩ := List.getElem?_eq_some_iff.mp found
      have split : live.core.outputs.drop position = slot :: live.core.outputs.drop (position + 1) := by
        rw [List.drop_eq_getElem_cons inside, here]
      have typed := sound.typed slot (List.mem_of_getElem? found)
      rw [commit_cons, ends_bind, split, List.map_cons]
      refine Ends.mono (commitSlot_lands fits placed (List.mem_of_getElem? declared) registered sort steady typed
        found reflects) ?_
      intro outcome after lands
      cases lands with
      | refused stops commands =>
          rw [continues_error, List.map_cons, committed_blocked stops, List.append_nil]
          exact ⟨by rw [commands]; exact reflects.spawns, by rintro ⟨⟩, by rintro ⟨⟩⟩
      | written free steady' reflects' changed =>
          have sound' : Outputs.Sound descriptors after.core.outputs := by
            rw [changed]
            exact sound.put found slot.settled_descriptor (typed.settled (free_of_unblocked free))
          have rests := ih remaining steady' sound' reflects'
          rw [changed, List.drop_set_of_lt (Nat.lt_succ_self position), Outputs.take_set_succ inside,
            List.append_assoc, List.append_assoc] at rests
          rw [continues_ok, List.map_cons, committed_free free]
          exact rests

end Commits

end Join

end EntityScene
