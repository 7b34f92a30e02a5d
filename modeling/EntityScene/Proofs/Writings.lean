import EntityScene.Proofs.Blind
import EntityScene.Proofs.Visit
import Mathlib.Data.List.Basic

/-!
What calls write. The exchanges of a call say what its output slots hold, and the slots say what the
commit of the call writes: values at spots, and lists of requests. The calls of a join thereby determine
the list of its writings. The storages it began with matter only where a commit stops because a value in
its place is not destroyed.
-/

namespace EntityScene

open Act

variable {μ : Type}

/-- The output that the exchange fills: a value was accepted for it, or a first value was asked for
there. -/
def Exchange.target? : Exchange → Option Nat
  | ⟨.set position _, .ok _⟩ => some position
  | ⟨.getOrInit position _, _⟩ => some position
  | _ => none

/-- Values of the kind stay until others take their place. -/
def Kind.isComponent : Kind → Bool
  | .sceneComponent | .viewportComponent | .entityComponent => true
  | .event | .entitySpawnList | .entityDespawnList => false

theorem Kind.isComponent_of_isIndexed {kind : Kind} (indexed : kind.isIndexed = true) :
    kind.isComponent = true := by
  cases kind <;> first | rfl | cases indexed

theorem Kind.isRequestList_of_isComponent {kind : Kind} (component : kind.isComponent = true) :
    kind.isRequestList = false := by
  cases kind <;> first | rfl | cases component

/-- Outputs of the kind can be committed. -/
def Kind.commits : Kind → Bool
  | .event | .entityDespawnList => false
  | .sceneComponent | .viewportComponent | .entityComponent | .entitySpawnList => true

theorem Kind.commits_eq_false {kind : Kind} :
    kind.commits = false ↔ kind = .event ∨ kind = .entityDespawnList := by
  cases kind <;> simp [commits]

theorem Kind.commits_of_isComponent {kind : Kind} (component : kind.isComponent = true) :
    kind.commits = true := by
  cases kind <;> first | rfl | cases component

/-- The fault is that of an output whose kind cannot be committed. -/
def Fault.isUnsupported : Fault → Bool
  | .outputUnsupported _ _ => true
  | _ => false

theorem Descriptor.replacing_supported {descriptor : Descriptor} {held : List Value} {value : Value}
    {cause : Fault} (stops : descriptor.replacing held value = .error cause) :
    cause.isUnsupported = false := by
  rcases replacing_error stops with ⟨_, _, _, _, rfl⟩ | ⟨_, _, rfl⟩ <;> rfl

namespace OutputSlot

/-- The slot after an exchange that fills it. A refused request for a first value leaves what it found,
marked as written. -/
def filled (slot : OutputSlot) : Exchange → OutputSlot
  | ⟨.set _ value, _⟩ => { slot with buffer := some value, written := true }
  | ⟨.getOrInit _ _, .ok value⟩ => { slot with buffer := some value, written := true }
  | _ => { slot with buffer := some slot.content, written := true }

/-- The value that waits for the commit. -/
def written? (slot : OutputSlot) : Option Value := if slot.written then slot.buffer else none

/-- The slot after its commit. Written requests have moved to the queue, any other value stays in the
buffer. -/
def settled (slot : OutputSlot) : OutputSlot :=
  match slot.descriptor.kind, slot.written? with
  | .entitySpawnList, some _ => ⟨slot.descriptor, some (.spawnList []), false⟩
  | _, _ => { slot with written := false }

/-- The slot cannot be committed: its kind is never supported, or the value that waits is refused. -/
def stuck (slot : OutputSlot) : Bool :=
  match slot.descriptor.kind, slot.written? with
  | .event, _ | .entityDespawnList, _ => true
  | _, none => false
  | .entitySpawnList, some value => value.type ≠ .spawnList
  | _, some value => (slot.descriptor.element.declines value).isSome

section Components

variable {slot : OutputSlot} {value : Value}

theorem stuck_component (component : slot.descriptor.kind.isComponent = true)
    (waits : slot.written? = some value) :
    slot.stuck = (slot.descriptor.element.declines value).isSome := by
  unfold stuck
  rw [waits]
  cases sort : slot.descriptor.kind with
  | sceneComponent | viewportComponent | entityComponent => rfl
  | event | entitySpawnList | entityDespawnList =>
      rw [sort] at component
      cases component

theorem settled_component (component : slot.descriptor.kind.isComponent = true) :
    slot.settled = { slot with written := false } := by
  unfold settled
  cases sort : slot.descriptor.kind with
  | sceneComponent | viewportComponent | entityComponent | event | entityDespawnList => rfl
  | entitySpawnList =>
      rw [sort] at component
      cases component

end Components

theorem settled_descriptor (slot : OutputSlot) : slot.settled.descriptor = slot.descriptor := by
  unfold settled
  split <;> rfl

theorem stuck_unsupported {slot : OutputSlot}
    (never : slot.descriptor.kind = .event ∨ slot.descriptor.kind = .entityDespawnList) :
    slot.stuck = true := by
  unfold stuck
  rcases never with sort | sort <;> rw [sort]

section Unwritten

variable {slot : OutputSlot} (unwritten : slot.written? = none)

include unwritten

theorem stuck_unwritten (supported : ¬(slot.descriptor.kind = .event ∨ slot.descriptor.kind = .entityDespawnList)) :
    slot.stuck = false := by
  unfold stuck
  rw [unwritten]
  cases sort : slot.descriptor.kind with
  | sceneComponent | viewportComponent | entityComponent | entitySpawnList => rfl
  | event => exact absurd (Or.inl sort) supported
  | entityDespawnList => exact absurd (Or.inr sort) supported

theorem settled_unwritten : slot.settled = { slot with written := false } := by
  unfold settled
  rw [unwritten]
  cases slot.descriptor.kind <;> rfl

end Unwritten

/-- The empty list that requests leave behind has their type. -/
theorem Sound.settled {slot : OutputSlot} (sound : slot.Sound) (free : slot.stuck = false) :
    slot.settled.Sound := by
  unfold OutputSlot.settled
  split
  · rename_i value sort waits
    have held : slot.buffer = some value := by
      unfold written? at waits
      split at waits
      · exact waits
      · cases waits
    have listed : value.type = .spawnList := by
      simpa [stuck, sort, waits] using free
    intro other same
    cases same
    rw [← sound value held, listed]
    rfl
  · exact sound

end OutputSlot

namespace Outputs

/-- The slots after an exchange. -/
def told (outputs : Outputs) (exchange : Exchange) : Outputs :=
  match exchange.target? with
  | some position => outputs.modify position fun slot => slot.filled exchange
  | none => outputs

/-- The slots after some exchanges. -/
def replay (outputs : Outputs) (exchanges : List Exchange) : Outputs := exchanges.foldl told outputs

theorem set_self {outputs : Outputs} {position : Nat} {slot : OutputSlot}
    (found : outputs[position]? = some slot) : List.set outputs position slot = outputs := by
  obtain ⟨inside, rfl⟩ := List.getElem?_eq_some_iff.mp found
  exact List.set_getElem_self inside

theorem take_set_succ {outputs : Outputs} {position : Nat} (inside : position < outputs.length)
    (changed : OutputSlot) :
    (List.set outputs position changed).take (position + 1) = outputs.take position ++ [changed] := by
  rw [List.take_add_one, List.getElem?_set_self inside, List.take_set,
    List.set_eq_of_length_le (List.length_take_le position outputs)]
  rfl

section Told

variable {outputs : Outputs} {exchange : Exchange} {position : Nat}

theorem told_found (aims : exchange.target? = some position) {slot : OutputSlot}
    (found : outputs[position]? = some slot) :
    outputs.told exchange = List.set outputs position (slot.filled exchange) := by
  unfold told
  rw [aims]
  dsimp only
  rw [List.modify_eq_set_getElem?, found]
  rfl

theorem told_missing (aims : exchange.target? = some position) (missing : outputs[position]? = none) :
    outputs.told exchange = outputs := by
  unfold told
  rw [aims]
  dsimp only
  rw [List.modify_eq_set_getElem?, missing]
  rfl

end Told

end Outputs

/-- What comes back from a request tells what it has done to the slots. -/
theorem Request.perform_told (request : Request) (live : Live Outputs) :
    Ends request.perform live fun answer after => after.core = live.core.told ⟨request, answer⟩ := by
  cases request with
  | set position value =>
      unfold perform
      cases found : live.core[position]? with
      | none =>
          unfold Outputs.set
          rw [Outputs.ends_slot_missing found]
          rfl
      | some slot =>
          rw [Outputs.ends_set found]
          split
          · rw [Outputs.told_found rfl found]
            rfl
          · rfl
  | getOrInit position type =>
      unfold perform
      cases found : live.core[position]? with
      | none =>
          unfold Outputs.getOrInit
          rw [Outputs.ends_slot_missing found]
          exact (Outputs.told_missing rfl found).symm
      | some slot =>
          rw [Outputs.ends_getOrInit found]
          split <;> rw [Outputs.told_found rfl found] <;> rfl
  | get position type =>
      unfold perform
      rw [ends_bind, ends_core, continues_ok, ends_ofExcept]
      rfl
  | describe position =>
      unfold perform
      rw [ends_bind, ends_core, continues_ok, ends_bind, ends_ofExcept]
      cases live.core.slot position <;> rfl
  | count => rfl

/-- In the slots the request has the answer of the exchange and leaves what the exchange tells, whatever
the journal. -/
def Exchange.Happens (outputs : Outputs) (exchange : Exchange) : Prop :=
  ∀ journal, Ends exchange.request.perform ⟨journal, outputs⟩ fun answer after =>
    answer = exchange.answer ∧ after.core = outputs.told exchange

theorem Request.happens (request : Request) (live : Live Outputs) :
    Ends request.perform live fun answer _ => Exchange.Happens live.core ⟨request, answer⟩ := by
  have anywhere (journal : Journal) := request.perform_uniform.blind live ⟨journal, live.core⟩ rfl
  have tells (journal : Journal) := request.perform_told ⟨journal, live.core⟩
  unfold Ends at tells ⊢
  generalize request.perform live = result at anywhere
  cases result with
  | ok answer after =>
      intro journal
      obtain ⟨after', ended, _⟩ := (anywhere journal).exists_ok
      have told := tells journal
      rw [ended] at told
      exact (ends_of_ok ended).mpr ⟨rfl, told⟩
  | error cause after =>
      intro journal
      obtain ⟨after', ended, _⟩ := (anywhere journal).exists_error
      have told := tells journal
      rw [ended] at told
      exact (ends_of_error ended).mpr ⟨rfl, told⟩

/-- The exchanges happen in turn, each in the slots that those before it leave. -/
def Outputs.Conducts : Outputs → List Exchange → Prop
  | _, [] => True
  | outputs, exchange :: rest => exchange.Happens outputs ∧ (outputs.told exchange).Conducts rest

/-- The exchanges of a dialogue happen in turn and tell what it has done to the slots. -/
theorem Dialogue.transcribed_replay {α : Type} (dialogue : Dialogue α) (live : Live Outputs) :
    Ends dialogue.transcribed.run live fun outcome after =>
      ∃ result exchanges, outcome = .ok (result, exchanges) ∧ live.core.Conducts exchanges ∧
        after.core = live.core.replay exchanges := by
  induction dialogue generalizing live with
  | done result => exact ⟨result, [], rfl, trivial, rfl⟩
  | ask request next ih =>
      unfold transcribed
      rw [ends_ask]
      refine ((Request.perform_told request live).and (request.happens live)).mono ?_
      rintro answer middle ⟨told, happens⟩
      rw [run_bind, ends_bind]
      refine (ih answer middle).mono ?_
      rintro _ after ⟨result, rest, rfl, conducts, same⟩
      rw [told] at conducts same
      exact ⟨result, ⟨request, answer⟩ :: rest, rfl, ⟨happens, conducts⟩, same⟩

/-- Where a match meets the resources of a kind. Requests are met in the scene. -/
def Match.spot? (place : Match) : Kind → Option Spot
  | .sceneComponent | .entitySpawnList | .entityDespawnList => some .scene
  | .event => place.event.map .event
  | .viewportComponent => place.viewport.map .viewport
  | .entityComponent => place.entity.map .entity

/-- The value whose place a value at the spot takes. For an identity that is whatever stands at its index,
also if it belongs to another one. -/
def Cells.occupant? : Cells → Spot → Option Value
  | .scalar value, .scene => value
  | .indexed table, .viewport identity | .indexed table, .entity identity =>
    table.occupant? identity.index.toNat
  | _, _ => none

/-- The value of the resource whose place a value at the spot takes. -/
def Data.occupant? (data : Data μ) (resource : ResourceId) (spot : Spot) : Option Value :=
  (data.cells resource).occupant? spot

namespace Join

/-- What one output of a committed match leaves: a value of a resource at a spot, or requests. -/
inductive Writing where
  | stored (resource : ResourceId) (spot : Spot) (value : Value)
  | requested (list : SpawnList)

namespace Writing

/-- The value that the writing leaves for the resource at the spot. -/
def at? (resource : ResourceId) (spot : Spot) : Writing → Option Value
  | .stored other place value => if other = resource ∧ place = spot then some value else none
  | .requested _ => none

theorem at?_stored (resource other : ResourceId) (place spot : Spot) (value : Value) :
    (stored other place value).at? resource spot =
      if other = resource ∧ place = spot then some value else none := rfl

/-- The requests that the writing records. -/
def spawns : Writing → SpawnList
  | .requested list => list
  | .stored _ _ _ => []

end Writing

/-- The value that the last of the writings leaves for the resource at the spot. -/
def latest? (writings : List Writing) (resource : ResourceId) (spot : Spot) : Option Value :=
  (writings.filterMap (Writing.at? resource spot)).getLast?

/-- The requests that the writings record, in order. -/
def recorded (writings : List Writing) : SpawnList := writings.flatMap Writing.spawns

@[simp] theorem latest?_nil (resource : ResourceId) (spot : Spot) : latest? [] resource spot = none := rfl

theorem latest?_append (first second : List Writing) (resource : ResourceId) (spot : Spot) :
    latest? (first ++ second) resource spot =
      (latest? second resource spot).or (latest? first resource spot) := by
  unfold latest?
  rw [List.filterMap_append, List.getLast?_append]

theorem latest?_singleton (writing : Writing) (resource : ResourceId) (spot : Spot) :
    latest? [writing] resource spot = writing.at? resource spot := by
  unfold latest?
  cases shown : writing.at? resource spot <;> simp [shown]

@[simp] theorem recorded_nil : recorded [] = [] := rfl

theorem recorded_append (first second : List Writing) :
    recorded (first ++ second) = recorded first ++ recorded second := List.flatMap_append

/-- What the commit of a value leaves. -/
def Writing.of? (place : Match) (resource : ResourceId) (kind : Kind) (value : Value) : Option Writing :=
  match kind with
  | .entitySpawnList =>
    match value with
    | .spawnList list => some (.requested list)
    | _ => none
  | kind => (place.spot? kind).map fun spot => .stored resource spot value

/-- What the commit of a slot writes. -/
def slotWriting (place : Match) (resource : ResourceId) (slot : OutputSlot) : Option Writing :=
  slot.written?.bind (Writing.of? place resource slot.descriptor.kind)

/-- The writing stops at the value in its place, which is not destroyed. What stood there first is given by
`held`, and the earlier writings have changed it. -/
def Writing.isObstructed (held : ResourceId → Spot → Option Value) (earlier : List Writing)
    (element : Element) : Writing → Bool
  | .stored resource spot _ =>
    ((latest? earlier resource spot).or (held resource spot)).any fun old => (element.retains old).isSome
  | .requested _ => false

/-- The slot cannot be committed after the earlier writings. -/
def isBlocked (held : ResourceId → Spot → Option Value) (place : Match) (earlier : List Writing)
    (resource : ResourceId) (slot : OutputSlot) : Bool :=
  slot.stuck || (slotWriting place resource slot).any (·.isObstructed held earlier slot.descriptor.element)

/-- What a commit after the earlier writings writes, up to the first slot that cannot be committed. -/
def committed (held : ResourceId → Spot → Option Value) (place : Match) (earlier : List Writing) :
    List ResourceId → Outputs → List Writing
  | resource :: resources, slot :: slots =>
    if isBlocked held place earlier resource slot then []
    else
      (slotWriting place resource slot).toList ++
        committed held place (earlier ++ (slotWriting place resource slot).toList) resources slots
  | _, _ => []

section Blocked

variable {held : ResourceId → Spot → Option Value} {place : Match} {earlier : List Writing}
  {resource : ResourceId} {resources : List ResourceId} {slot : OutputSlot} {slots : Outputs}

theorem free_of_unblocked (free : isBlocked held place earlier resource slot = false) : slot.stuck = false :=
  (Bool.or_eq_false_iff.mp free).1

theorem isBlocked_of_stuck (stuck : slot.stuck = true) : isBlocked held place earlier resource slot = true := by
  rw [isBlocked, stuck, Bool.true_or]

/-- Where every value is destroyed, only stuck slots are not committed. -/
theorem isBlocked_releasing (releasing : slot.descriptor.element.Releasing) :
    isBlocked held place earlier resource slot = slot.stuck := by
  have clear (writing : Writing) : writing.isObstructed held earlier slot.descriptor.element = false := by
    cases writing <;> simp [Writing.isObstructed, releasing _]
  rw [isBlocked]
  cases slotWriting place resource slot <;> simp [clear]

theorem committed_blocked (blocked : isBlocked held place earlier resource slot = true) :
    committed held place earlier (resource :: resources) (slot :: slots) = [] := by
  rw [committed, if_pos blocked]

theorem committed_free (free : isBlocked held place earlier resource slot = false) :
    committed held place earlier (resource :: resources) (slot :: slots) =
      (slotWriting place resource slot).toList ++
        committed held place (earlier ++ (slotWriting place resource slot).toList) resources slots := by
  rw [committed, if_neg (by rw [free]; exact Bool.false_ne_true)]

end Blocked

/-- The callback answered that the join goes on. -/
def Call.goesOn (call : Call) : Bool :=
  match call.outcome with
  | .ok going => going
  | .error _ => false

theorem Call.goesOn_iff {call : Call} : call.goesOn = true ↔ call.outcome = .ok true := by
  unfold goesOn
  cases call.outcome <;> simp

/-- The slots after the commits of calls that went on. -/
def slotsAfter (slots : Outputs) (calls : List Call) : Outputs :=
  calls.foldl (fun slots call => (slots.replay call.exchanges).map OutputSlot.settled) slots

/-- What committed calls write after the earlier writings, the first of them into the slots and each other
one into what the commit before it leaves. -/
def writingsFrom (held : ResourceId → Spot → Option Value) (resources : List ResourceId)
    (earlier : List Writing) (slots : Outputs) : List Call → List Writing
  | [] => []
  | call :: rest =>
    let new := committed held call.place earlier resources (slots.replay call.exchanges)
    new ++ writingsFrom held resources (earlier ++ new)
      ((slots.replay call.exchanges).map OutputSlot.settled) rest

/-- The output slots that the next call of a join of the plan finds. -/
def slotsBefore (registry : Registry) (plan : Plan) (calls : List Call) : Outputs :=
  slotsAfter (Outputs.blank (plan.outputs.filterMap fun output => registry.get? output.1)) calls

/-- What the committed calls of a join of the plan write that begins with the base. -/
def writings (base : Data μ) (plan : Plan) (calls : List Call) : List Writing :=
  writingsFrom base.occupant? (plan.outputs.map Prod.fst) []
    (Outputs.blank (plan.outputs.filterMap fun output => base.registry.get? output.1)) calls

end Join

end EntityScene
