import EntityScene.Proofs.Pool
import Mathlib.Data.List.Nodup
import Mathlib.Data.List.Perm.Subperm

/-!
A pool is a roster. Whatever calls are made on a pool, with identities that it has issued or never has,
its live identities behave as a plain list does to which new entries are appended and in which the last
entry takes the place of a removed one.
-/

namespace EntityScene

section Words

attribute [ext] Identity

theorem Identity.toNat_packed (identity : Identity) :
    identity.packed.toNat = identity.version.toNat * UInt32.size + identity.index.toNat := by
  have low : identity.index.toNat < UInt32.size := identity.index.toNat_lt
  have high : identity.version.toNat < UInt32.size := identity.version.toNat_lt
  have shifted : (identity.version.toUInt64 <<< 32).toNat = identity.version.toNat <<< 32 := by
    rw [UInt64.toNat_shiftLeft]
    change identity.version.toNat <<< 32 % UInt64.size = _
    apply Nat.mod_eq_of_lt
    rw [Nat.shiftLeft_eq]
    simp only [UInt32.size] at high
    simp only [UInt64.size]
    omega
  rw [Identity.packed, UInt64.toNat_or, shifted, UInt32.toNat_toUInt64,
    ← Nat.shiftLeft_add_eq_or_of_lt low, Nat.shiftLeft_eq]

theorem Identity.toNat_ofPacked (word : UInt64) :
    (Identity.ofPacked word).index.toNat = word.toNat % UInt32.size ∧
      (Identity.ofPacked word).version.toNat = word.toNat / UInt32.size := by
  have bound : word.toNat < UInt64.size := word.toNat_lt
  have masked : word.toNat &&& 4294967295 = word.toNat % UInt32.size :=
    Nat.and_two_pow_sub_one_eq_mod word.toNat 32
  have halved : word.toNat >>> 32 = word.toNat / UInt32.size := Nat.shiftRight_eq_div_pow word.toNat 32
  constructor
  · rw [Identity.ofPacked, Identity.indexMask, UInt64.toNat_toUInt32, UInt64.toNat_and]
    change (word.toNat &&& 4294967295) % UInt32.size = _
    rw [masked, Nat.mod_mod]
  · rw [Identity.ofPacked, UInt64.toNat_toUInt32, UInt64.toNat_shiftRight]
    change word.toNat >>> 32 % UInt32.size = _
    rw [halved]
    simp only [UInt64.size] at bound
    simp only [UInt32.size]
    omega

/-- Every word is the packed form of one identity. -/
theorem Identity.packed_ofPacked (word : UInt64) : (Identity.ofPacked word).packed = word := by
  apply UInt64.toNat_inj.mp
  obtain ⟨index, version⟩ := Identity.toNat_ofPacked word
  rw [Identity.toNat_packed, index, version, Nat.div_add_mod']

theorem Identity.ofPacked_packed (identity : Identity) : Identity.ofPacked identity.packed = identity := by
  obtain ⟨index, version⟩ := Identity.toNat_ofPacked identity.packed
  have low : identity.index.toNat < UInt32.size := identity.index.toNat_lt
  rw [Identity.toNat_packed] at index version
  simp only [UInt32.size] at low index version
  apply Identity.ext
  · apply UInt32.toNat_inj.mp
    omega
  · apply UInt32.toNat_inj.mp
    omega

end Words

namespace Pool

/-- The calls that change a pool. -/
inductive Operation where
  | emplace
  | remove (identity : Identity)

/-- What a call comes back with. -/
inductive Answer where
  | issued (identity : Identity)
  | removed (wasLive : Bool)
  | failed (cause : Fault)

/-- One call. A pool that has no identity to give stays as it is. -/
def step (pool : Pool) : Operation → Answer × Pool
  | .emplace =>
    match pool.emplace with
    | .ok (identity, after) => (.issued identity, after)
    | .error cause => (.failed cause, pool)
  | .remove identity => (.removed (pool.remove identity).1, (pool.remove identity).2)

/-- The answers to a sequence of calls, and the pool after them. -/
def run (pool : Pool) : List Operation → List Answer × Pool
  | [] => ([], pool)
  | operation :: rest =>
    ((pool.step operation).1 :: ((pool.step operation).2.run rest).1, ((pool.step operation).2.run rest).2)

end Pool

namespace Roster

open Pool (Operation Answer)

/-- What a call does to a plain list. A new entry comes to the end as long as there is room. The last
entry takes the place of a removed one, unless it is that one, and an entry that is not there cannot be
removed. -/
inductive Step : List Identity → Operation → Answer → List Identity → Prop
  | issued {roster : List Identity} {identity : Identity} (room : roster.length < Identity.indexCap)
    (new : identity ∉ roster) : Step roster .emplace (.issued identity) (roster ++ [identity])
  | exhausted {roster : List Identity} (full : roster.length = Identity.indexCap) :
    Step roster .emplace (.failed .poolExhausted) roster
  | last {front : List Identity} {identity : Identity} :
    Step (front ++ [identity]) (.remove identity) (.removed true) front
  | inner {front middle : List Identity} {identity moved : Identity} :
    Step (front ++ identity :: (middle ++ [moved])) (.remove identity) (.removed true)
      (front ++ moved :: middle)
  | absent {roster : List Identity} {identity : Identity} (absent : identity ∉ roster) :
    Step roster (.remove identity) (.removed false) roster

theorem Step.removed_iff {before after : List Identity} {identity : Identity} {answer : Answer} {wasLive : Bool}
    (step : Step before (.remove identity) answer after) (same : answer = .removed wasLive) :
    wasLive = true ↔ identity ∈ before := by
  cases step with
  | last =>
      cases same
      simp
  | inner =>
      cases same
      simp
  | absent absent =>
      cases same
      simp [absent]

/-- What a sequence of calls does to a plain list. -/
inductive Run : List Identity → List Operation → List Answer → List Identity → Prop
  | done {roster : List Identity} : Run roster [] [] roster
  | next {before between after : List Identity} {operation : Operation} {answer : Answer}
    {operations : List Operation} {answers : List Answer} (first : Step before operation answer between)
    (others : Run between operations answers after) :
    Run before (operation :: operations) (answer :: answers) after

end Roster

namespace Pool

section Removal

variable {α : Type} {sequence : Array α} {front middle : List α} {entry moved : α}

theorem swapRemove_last (listed : sequence.toList = front ++ [entry]) :
    (swapRemove sequence front.length).toList = front := by
  obtain ⟨list⟩ := sequence
  change list = front ++ [entry] at listed
  subst listed
  simp [swapRemove]

theorem swapRemove_inner (listed : sequence.toList = front ++ entry :: (middle ++ [moved])) :
    (swapRemove sequence front.length).toList = front ++ moved :: middle := by
  obtain ⟨list⟩ := sequence
  change list = front ++ entry :: (middle ++ [moved]) at listed
  subst listed
  have final : (entry :: (middle ++ [moved])).getLast? = some moved := by
    rw [← List.cons_append, List.getLast?_append]
    rfl
  have shorter : (moved :: (middle ++ [moved])).dropLast = moved :: middle := by
    rw [← List.cons_append, List.dropLast_concat]
  simp [swapRemove, final, shorter]

end Removal

section Steps

variable {pool : Pool}

theorem Sound.live_indices (sound : pool.Sound) : (pool.live.toList.map Identity.index).Nodup := by
  rw [List.nodup_iff_pairwise_ne, List.pairwise_iff_getElem]
  intro position other inside inside' before same
  rw [List.getElem_map, List.getElem_map] at same
  rw [List.length_map] at inside inside'
  have equal := sound.place_inj (Array.getElem?_eq_getElem inside) (Array.getElem?_eq_getElem inside') same
  omega

/-- A pool fails to give an identity only when every slot it may have is in use. -/
theorem emplace_error (sound : pool.Sound) {cause : Fault} (failed : pool.emplace = .error cause) :
    cause = .poolExhausted ∧ pool.live.size = Identity.indexCap := by
  have balanced := sound.balanced
  have capped := sound.capped
  unfold emplace at failed
  split at failed
  · cases failed
  · rename_i none
    split at failed
    · cases failed
    · rename_i full
      rw [none, List.length_nil] at balanced
      exact ⟨(Except.error.inj failed).symm, by omega⟩

theorem emplace_room (sound : pool.Sound) {identity : Identity} {after : Pool}
    (made : pool.emplace = .ok (identity, after)) : pool.live.size < Identity.indexCap := by
  obtain ⟨sound', live, _⟩ := emplace_spec sound made
  have fits := sound'.live_le
  rw [live, Array.size_push] at fits
  omega

/-- The live identities around one of them. -/
theorem exists_split {position : Nat} {identity : Identity} (found : pool.live[position]? = some identity) :
    ∃ front back, front.length = position ∧ pool.live.toList = front ++ identity :: back := by
  obtain ⟨inside, here⟩ := Array.getElem?_eq_some_iff.mp found
  refine ⟨pool.live.toList.take position, pool.live.toList.drop (position + 1), ?_, ?_⟩
  · rw [List.length_take, Array.length_toList]
    omega
  · rw [← here, ← Array.getElem_toList, List.getElem_cons_drop, List.take_append_drop]

/-- A removal does to the live identities what it does to a plain list. -/
theorem remove_refines (sound : pool.Sound) (identity : Identity) :
    Roster.Step pool.live.toList (.remove identity) (.removed (pool.remove identity).1)
      (pool.remove identity).2.live.toList := by
  by_cases live : identity ∈ pool.live
  · obtain ⟨position, found⟩ := Array.mem_iff_getElem?.mp live
    have word := sound.word found
    obtain ⟨front, back, place, listed⟩ := exists_split found
    rw [← word] at found
    have answer : (pool.remove identity).1 = true := by rw [remove_eq sound found]
    rw [remove_live sound found, word, answer, ← place]
    -- The removed identity is the last one, or the last one of those after it moves.
    rcases List.eq_nil_or_concat' back with rfl | ⟨middle, moved, rfl⟩
    · rw [swapRemove_last listed, listed]
      exact .last
    · rw [swapRemove_inner listed, listed]
      exact .inner
  · rw [remove_absent sound live]
    exact .absent fun member => live (Array.mem_toList_iff.mp member)

theorem step_refines (sound : pool.Sound) (operation : Operation) :
    Roster.Step pool.live.toList operation (pool.step operation).1
      (pool.step operation).2.live.toList := by
  cases operation with
  | remove identity => exact remove_refines sound identity
  | emplace =>
      unfold step
      cases made : pool.emplace with
      | error cause =>
          obtain ⟨rfl, full⟩ := emplace_error sound made
          exact .exhausted full
      | ok answer =>
          obtain ⟨identity, after⟩ := answer
          obtain ⟨_, live, new⟩ := emplace_spec sound made
          simp only [live, Array.toList_push]
          exact .issued (emplace_room sound made) fun member => new (Array.mem_toList_iff.mp member)

theorem step_sound (sound : pool.Sound) (operation : Operation) : (pool.step operation).2.Sound := by
  cases operation with
  | remove identity => exact remove_sound sound identity
  | emplace =>
      unfold step
      cases made : pool.emplace with
      | error cause => exact sound
      | ok answer => exact (emplace_spec sound made).1

/-- A call that neither gives an identity nor removes one changes nothing in the pool. -/
theorem step_unchanged (sound : pool.Sound) {operation : Operation}
    (idle : (∃ cause, (pool.step operation).1 = .failed cause) ∨ (pool.step operation).1 = .removed false) :
    (pool.step operation).2 = pool := by
  cases operation with
  | remove identity =>
      rcases idle with ⟨_, never⟩ | answer
      · cases never
      · have absent : identity ∉ pool.live := by
          intro live
          have removed := (step_refines sound (.remove identity)).removed_iff answer
          exact Bool.false_ne_true (removed.mpr (Array.mem_toList_iff.mpr live))
        exact congrArg Prod.snd (remove_absent sound absent)
  | emplace =>
      unfold step at idle ⊢
      cases made : pool.emplace with
      | error cause => rfl
      | ok answer => simp [made] at idle

theorem run_refines (sound : pool.Sound) (operations : List Operation) :
    Roster.Run pool.live.toList operations (pool.run operations).1 (pool.run operations).2.live.toList := by
  induction operations generalizing pool with
  | nil => exact .done
  | cons operation rest ih => exact .next (step_refines sound operation) (ih (step_sound sound operation))

theorem run_sound (sound : pool.Sound) (operations : List Operation) : (pool.run operations).2.Sound := by
  induction operations generalizing pool with
  | nil => exact sound
  | cons operation rest ih => exact ih (step_sound sound operation)

/-- The slots are shared out among the live identities and the free slots. -/
theorem Sound.slots_shared (sound : pool.Sound) :
    ((pool.live.toList.map Identity.index ++ pool.free).map UInt32.toNat).Perm
      (List.range pool.slots.size) := by
  have seated {index : UInt32} (member : index ∈ pool.live.toList.map Identity.index) :
      ∃ version place, pool.slots[index.toNat]? = some ⟨version, some place⟩ := by
    obtain ⟨identity, live, rfl⟩ := List.mem_map.mp member
    obtain ⟨position, found⟩ := Array.mem_iff_getElem?.mp (Array.mem_toList_iff.mp live)
    exact ⟨_, _, sound.live_seat found⟩
  have apart : (pool.live.toList.map Identity.index).Disjoint pool.free := by
    intro index live free
    obtain ⟨version, place, seat⟩ := seated live
    obtain ⟨version', vacant⟩ := (sound.free_iff index).mp free
    rw [seat] at vacant
    cases vacant
  have distinct : ((pool.live.toList.map Identity.index ++ pool.free).map UInt32.toNat).Nodup := by
    apply List.Nodup.map (fun _ _ => UInt32.toNat_inj.mp)
    exact sound.live_indices.append sound.distinct apart
  have inside : (pool.live.toList.map Identity.index ++ pool.free).map UInt32.toNat ⊆
      List.range pool.slots.size := by
    intro number member
    obtain ⟨index, listed, rfl⟩ := List.mem_map.mp member
    rw [List.mem_range]
    rcases List.mem_append.mp listed with live | free
    · obtain ⟨version, place, seat⟩ := seated live
      exact (Array.getElem?_eq_some_iff.mp seat).1
    · obtain ⟨version, vacant⟩ := (sound.free_iff index).mp free
      exact (Array.getElem?_eq_some_iff.mp vacant).1
  apply (List.subperm_of_subset distinct inside).perm_of_length_le
  simp [sound.balanced]

theorem Sound.contains_word (sound : pool.Sound) (word : UInt64) :
    pool.contains (.ofPacked word) = true ↔ word ∈ pool.live.toList.map Identity.packed := by
  rw [sound.contains_iff, List.mem_map]
  constructor
  · intro live
    exact ⟨_, Array.mem_toList_iff.mpr live, Identity.packed_ofPacked word⟩
  · rintro ⟨identity, live, rfl⟩
    rw [Identity.ofPacked_packed]
    exact Array.mem_toList_iff.mp live

end Steps

/-- After any calls on an empty pool its live identities are those of a plain list after the same calls,
which were answered in the same way, and so it goes on with every further call; a call that neither gives
an identity nor removes one leaves the whole pool as it is. A word is contained exactly if it is in the
list, and no two identities of the list have one index. Inside, the live and the free indices share the
slots out among them, a slot knows the place of its identity, and sizes are not cut off in words. -/
theorem run_as_roster (operations : List Operation) :
    let answers := (Pool.empty.run operations).1
    let pool := (Pool.empty.run operations).2
    Roster.Run [] operations answers pool.live.toList ∧
      (∀ operation, Roster.Step pool.live.toList operation (pool.step operation).1
        (pool.step operation).2.live.toList) ∧
      (∀ operation, (∃ cause, (pool.step operation).1 = .failed cause) ∨
        (pool.step operation).1 = .removed false → (pool.step operation).2 = pool) ∧
      (∀ word, pool.contains (.ofPacked word) = true ↔ word ∈ pool.live.toList.map Identity.packed) ∧
      (pool.live.toList.map Identity.index).Nodup ∧
      ((pool.live.toList.map Identity.index ++ pool.free).map UInt32.toNat).Perm
        (List.range pool.slots.size) ∧
      (∀ index version place : UInt32, pool.slots[index.toNat]? = some ⟨version, some place⟩ ↔
        pool.live[place.toNat]? = some ⟨index, version⟩) ∧
      pool.slots.size.toUInt32.toNat = pool.slots.size ∧
      pool.live.size.toUInt32.toNat = pool.live.size := by
  intro answers pool
  have sound : pool.Sound := run_sound empty_sound operations
  exact ⟨run_refines empty_sound operations, step_refines sound, fun _ => step_unchanged sound,
    sound.contains_word, sound.live_indices, sound.slots_shared,
    fun index version place => (sound.live_iff index version place).symm, toNat_toUInt32 sound.capped,
    toNat_toUInt32 sound.live_le⟩

end Pool

end EntityScene
