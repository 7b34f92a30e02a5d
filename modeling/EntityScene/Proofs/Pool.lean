import EntityScene.Identity.Pool

/-!
The three tables of a pool agree: the live identities and the free slots share the slots out among
them, and a slot in use knows its identity's place.
-/

namespace EntityScene.Pool

/-- What every pool made by its operations satisfies. -/
structure Sound (pool : Pool) : Prop where
  capped : pool.slots.size ≤ Identity.indexCap
  balanced : pool.live.size + pool.free.length = pool.slots.size
  distinct : pool.free.Nodup
  free_iff (index : UInt32) :
    index ∈ pool.free ↔ ∃ version, pool.slots[index.toNat]? = some ⟨version, none⟩
  live_iff (index version place : UInt32) :
    pool.live[place.toNat]? = some ⟨index, version⟩ ↔
      pool.slots[index.toNat]? = some ⟨version, some place⟩

theorem empty_sound : Pool.empty.Sound where
  capped := Nat.zero_le _
  balanced := rfl
  distinct := List.nodup_nil
  free_iff index := by simp [Pool.empty]
  live_iff index version place := by simp [Pool.empty]

theorem withCapacity_eq {capacity : Nat} {pool : Pool} (made : withCapacity capacity = .ok pool) :
    pool = Pool.empty := by
  unfold withCapacity at made
  split at made
  · exact (Except.ok.inj made).symm
  · cases made

/-- A place below the capacity keeps its number in a word. -/
theorem toNat_toUInt32 {number : Nat} (small : number ≤ Identity.indexCap) :
    number.toUInt32.toNat = number := by
  rw [Nat.toUInt32_eq, UInt32.toNat_ofNat']
  unfold Identity.indexCap at small
  omega

theorem Sound.live_le {pool : Pool} (sound : pool.Sound) : pool.live.size ≤ Identity.indexCap := by
  have capped := sound.capped
  have balanced := sound.balanced
  omega

theorem Sound.word {pool : Pool} (sound : pool.Sound) {position : Nat} {identity : Identity}
    (found : pool.live[position]? = some identity) : position.toUInt32.toNat = position := by
  have inside : position < pool.live.size := (Array.getElem?_eq_some_iff.mp found).1
  exact toNat_toUInt32 (Nat.le_of_lt (Nat.lt_of_lt_of_le inside sound.live_le))

theorem Sound.live_seat {pool : Pool} (sound : pool.Sound) {position : Nat} {identity : Identity}
    (found : pool.live[position]? = some identity) :
    pool.slots[identity.index.toNat]? = some ⟨identity.version, some position.toUInt32⟩ := by
  rw [← sound.live_iff, sound.word found]
  exact found

/-- Live identities in one slot stand at one place. -/
theorem Sound.place_inj {pool : Pool} (sound : pool.Sound) {position other : Nat}
    {first second : Identity} (found : pool.live[position]? = some first)
    (found' : pool.live[other]? = some second) (same : first.index = second.index) :
    position = other := by
  have seat := sound.live_seat found
  rw [same, sound.live_seat found'] at seat
  have places := Option.some.inj (congrArg Slot.place (Option.some.inj seat))
  rw [← sound.word found, ← places, sound.word found']

/-- Two live identities in one slot are the same. -/
theorem Sound.live_inj {pool : Pool} (sound : pool.Sound) {first second : Identity}
    (one : first ∈ pool.live) (two : second ∈ pool.live) (same : first.index = second.index) :
    first = second := by
  obtain ⟨position, found⟩ := Array.mem_iff_getElem?.mp one
  obtain ⟨other, found'⟩ := Array.mem_iff_getElem?.mp two
  rw [sound.place_inj found found' same, found'] at found
  exact (Option.some.inj found).symm

theorem Sound.contains_iff {pool : Pool} (sound : pool.Sound) (identity : Identity) :
    pool.contains identity = true ↔ identity ∈ pool.live := by
  unfold contains
  constructor
  · intro contained
    split at contained
    · rename_i slot found
      rw [Bool.and_eq_true, beq_iff_eq, Option.isSome_iff_exists] at contained
      obtain ⟨version, place, placed⟩ := contained
      have seat : pool.slots[identity.index.toNat]? = some ⟨identity.version, some place⟩ := by
        rw [found, ← version, ← placed]
      exact Array.mem_of_getElem? ((sound.live_iff _ _ _).mpr seat)
    · cases contained
  · intro member
    obtain ⟨place, found⟩ := Array.mem_iff_getElem?.mp member
    rw [sound.live_seat found]
    simp

/-- A slot that is to be used stands open: it is in no place and no longer free. -/
structure Open (pool : Pool) (index version : UInt32) : Prop where
  capped : pool.slots.size ≤ Identity.indexCap
  balanced : pool.live.size + pool.free.length + 1 = pool.slots.size
  distinct : pool.free.Nodup
  vacant : pool.slots[index.toNat]? = some ⟨version, none⟩
  free_iff (other : UInt32) :
    other ∈ pool.free ↔ other ≠ index ∧ ∃ version, pool.slots[other.toNat]? = some ⟨version, none⟩
  live_iff (index version place : UInt32) :
    pool.live[place.toNat]? = some ⟨index, version⟩ ↔
      pool.slots[index.toNat]? = some ⟨version, some place⟩

theorem occupy_eq {pool : Pool} {index version : UInt32} (opened : pool.Open index version) :
    pool.occupy index =
      (⟨index, version⟩,
        { pool with
          slots := pool.slots.setIfInBounds index.toNat ⟨version, some pool.live.size.toUInt32⟩
          live := pool.live.push ⟨index, version⟩ }) := by
  simp [occupy, opened.vacant]

theorem occupy_sound {pool : Pool} {index version : UInt32} (opened : pool.Open index version) :
    (pool.occupy index).2.Sound := by
  rw [occupy_eq opened]
  have inside : index.toNat < pool.slots.size := (Array.getElem?_eq_some_iff.mp opened.vacant).1
  have balanced := opened.balanced
  have capped := opened.capped
  have word : pool.live.size.toUInt32.toNat = pool.live.size := toNat_toUInt32 (by omega)
  constructor
  · simpa using capped
  · simp
    omega
  · exact opened.distinct
  · intro other
    rw [opened.free_iff]
    by_cases same : other = index
    · subst same
      simp [inside]
    · have apart : index.toNat ≠ other.toNat := fun equal => same (UInt32.toNat_inj.mp equal.symm)
      simp [same, apart]
  · intro other otherVersion place
    have old := opened.live_iff other otherVersion place
    by_cases same : other = index
    · subst same
      rw [opened.vacant] at old
      have absent : pool.live[place.toNat]? ≠ some ⟨other, otherVersion⟩ := by simp [old]
      by_cases last : place.toNat = pool.live.size
      · have placeEq : place = pool.live.size.toUInt32 := UInt32.toNat_inj.mp (last.trans word.symm)
        simp [inside, last, ← placeEq]
      · have placeNe : pool.live.size.toUInt32 ≠ place := by
          intro equal
          rw [← equal, word] at last
          exact last rfl
        simp [Array.getElem?_push, inside, last, absent, placeNe]
    · have apart : index.toNat ≠ other.toNat := fun equal => same (UInt32.toNat_inj.mp equal.symm)
      by_cases last : place.toNat = pool.live.size
      · rw [last] at old
        simp only [Array.getElem?_size, false_iff, reduceCtorEq] at old
        simp [last, apart, old, Ne.symm same]
      · simp [Array.getElem?_push, last, apart, old]

/-- A pool stands open for its first free slot once that is no longer free. -/
theorem Sound.open_free {pool : Pool} {index : UInt32} {free : List UInt32} (sound : pool.Sound)
    (listed : pool.free = index :: free) : ∃ version, Open { pool with free } index version := by
  obtain ⟨version, vacant⟩ := (sound.free_iff index).mp (by simp [listed])
  have balanced := sound.balanced
  have distinct := sound.distinct
  rw [listed, List.nodup_cons] at distinct
  refine ⟨version, sound.capped, ?_, distinct.2, vacant, ?_, sound.live_iff⟩
  · rw [listed, List.length_cons] at balanced
    simpa [Nat.add_assoc] using balanced
  · intro other
    have old := sound.free_iff other
    rw [listed, List.mem_cons] at old
    constructor
    · intro member
      refine ⟨?_, old.mp (Or.inr member)⟩
      intro same
      exact distinct.1 (same ▸ member)
    · rintro ⟨different, found⟩
      exact (old.mpr found).resolve_left different

/-- A pool with room stands open for a new slot at the end of its slots. -/
theorem Sound.open_push {pool : Pool} (sound : pool.Sound) (room : pool.slots.size < Identity.indexCap) :
    Open { pool with slots := pool.slots.push Pool.Slot.fresh } pool.slots.size.toUInt32 0 := by
  have word : pool.slots.size.toUInt32.toNat = pool.slots.size := toNat_toUInt32 (Nat.le_of_lt room)
  refine ⟨by simpa using Nat.succ_le_of_lt room, ?_, sound.distinct, ?_, ?_, ?_⟩
  · simp [sound.balanced]
  · simp [word, Slot.fresh]
  · intro other
    rw [sound.free_iff]
    by_cases same : other = pool.slots.size.toUInt32
    · subst same
      simp [word]
    · have apart : other.toNat ≠ pool.slots.size := by
        intro equal
        exact same (UInt32.toNat_inj.mp (equal.trans word.symm))
      simp [same, Array.getElem?_push, apart]
  · intro index version place
    rw [sound.live_iff]
    by_cases last : index.toNat = pool.slots.size
    · simp [last, Slot.fresh]
    · simp [Array.getElem?_push, last]

/-- A new identity comes with a pool that stood open for it. -/
theorem emplace_cases {pool pool' : Pool} {identity : Identity} (sound : pool.Sound)
    (made : pool.emplace = .ok (identity, pool')) :
    ∃ opened : Pool, opened.Open identity.index identity.version ∧ opened.live = pool.live ∧
      pool' = (opened.occupy identity.index).2 ∧
      ((∃ free, pool.free = identity.index :: free ∧ opened = { pool with free }) ∨
        identity.index.toNat = pool.slots.size ∧ identity.version = 0 ∧
          opened = { pool with slots := pool.slots.push Pool.Slot.fresh }) := by
  unfold emplace at made
  split at made
  · rename_i index free listed
    obtain ⟨version, opened⟩ := sound.open_free listed
    have result := Except.ok.inj made
    rw [occupy_eq opened] at result
    obtain ⟨rfl, rfl⟩ := Prod.mk.inj result
    exact ⟨_, opened, rfl, by rw [occupy_eq opened], Or.inl ⟨free, listed, rfl⟩⟩
  · split at made
    · rename_i room
      have opened := sound.open_push room
      have result := Except.ok.inj made
      rw [occupy_eq opened] at result
      obtain ⟨rfl, rfl⟩ := Prod.mk.inj result
      exact ⟨_, opened, rfl, by rw [occupy_eq opened],
        Or.inr ⟨toNat_toUInt32 (Nat.le_of_lt room), rfl, rfl⟩⟩
    · cases made

/-- A new identity joins the live ones at their end and was not among them. -/
theorem emplace_spec {pool pool' : Pool} {identity : Identity} (sound : pool.Sound)
    (made : pool.emplace = .ok (identity, pool')) :
    pool'.Sound ∧ pool'.live = pool.live.push identity ∧ identity ∉ pool.live := by
  obtain ⟨opened, isOpen, live, rfl, _⟩ := emplace_cases sound made
  refine ⟨occupy_sound isOpen, ?_, ?_⟩
  · rw [occupy_eq isOpen, ← live]
  · rw [← live]
    intro member
    obtain ⟨place, found⟩ := Array.mem_iff_getElem?.mp member
    have inside : place < opened.live.size := (Array.getElem?_eq_some_iff.mp found).1
    have balanced := isOpen.balanced
    have capped := isOpen.capped
    have word : place.toUInt32.toNat = place := toNat_toUInt32 (by omega)
    have seat := (isOpen.live_iff identity.index identity.version place.toUInt32).mp (by rw [word]; exact found)
    rw [isOpen.vacant] at seat
    cases seat

theorem exists_back {α : Type} {sequence : Array α} {position : Nat} {entry : α}
    (found : sequence[position]? = some entry) : ∃ last, sequence.back? = some last := by
  have inside := (Array.getElem?_eq_some_iff.mp found).1
  rw [Array.back?_eq_getElem?]
  exact ⟨_, Array.getElem?_eq_getElem (by omega)⟩

/-- The last entry takes the place of the one that goes. -/
theorem getElem?_swapRemove {α : Type} {sequence : Array α} {last : α} (final : sequence.back? = some last)
    {position : Nat} (inside : position < sequence.size) (other : Nat) :
    (swapRemove sequence position)[other]? =
      if other + 1 < sequence.size then
        if other = position then some last else sequence[other]?
      else none := by
  unfold swapRemove
  rw [final]
  simp only [Array.getElem?_pop, Array.size_setIfInBounds]
  by_cases below : other + 1 < sequence.size
  · have below' : other < sequence.size - 1 := by omega
    by_cases same : other = position
    · subst same
      simp [below, below', inside]
    · simp [below, below', same, Ne.symm same]
  · have above : ¬ other < sequence.size - 1 := by omega
    simp [below, above]

section Removal

variable {pool : Pool} {identity last : Identity} {place : UInt32}

/-- Where an identity lives, it is removed. -/
theorem remove_eq (sound : pool.Sound) (found : pool.live[place.toNat]? = some identity) :
    pool.remove identity =
      (true,
        Pool.reseat
          { slots := pool.slots.setIfInBounds identity.index.toNat ⟨identity.version + 1, none⟩
            free := identity.index :: pool.free
            live := swapRemove pool.live place.toNat }
          place) := by
  have seat := (sound.live_iff identity.index identity.version place).mp found
  simp [remove, seat]

/-- Where it does not live, nothing happens. -/
theorem remove_absent (sound : pool.Sound) (absent : identity ∉ pool.live) :
    pool.remove identity = (false, pool) := by
  unfold remove
  split
  · rfl
  · rename_i slot found
    split
    · rename_i version
      split
      · rfl
      · rename_i place placed
        have seat : pool.slots[identity.index.toNat]? = some ⟨identity.version, some place⟩ := by
          rw [found, ← version, ← placed]
        exact absurd (Array.mem_of_getElem? ((sound.live_iff _ _ _).mpr seat)) absent
    · rfl

theorem remove_live (sound : pool.Sound) (found : pool.live[place.toNat]? = some identity) :
    (pool.remove identity).2.live = swapRemove pool.live place.toNat := by
  rw [remove_eq sound found]
  unfold reseat
  split <;> rfl

theorem remove_free (sound : pool.Sound) (found : pool.live[place.toNat]? = some identity) :
    (pool.remove identity).2.free = identity.index :: pool.free := by
  rw [remove_eq sound found]
  unfold reseat
  split <;> rfl

/-- The slot of the removed identity is free with a new version, and the slot of the identity that
moved knows its new place. -/
theorem remove_slots (sound : pool.Sound) (found : pool.live[place.toNat]? = some identity)
    (final : pool.live.back? = some last) (index : Nat) :
    (pool.remove identity).2.slots[index]? =
      if index = identity.index.toNat then some ⟨identity.version + 1, none⟩
      else if index = last.index.toNat then some ⟨last.version, some place⟩
      else pool.slots[index]? := by
  have seat := (sound.live_iff identity.index identity.version place).mp found
  have inside : place.toNat < pool.live.size := (Array.getElem?_eq_some_iff.mp found).1
  have within : identity.index.toNat < pool.slots.size := (Array.getElem?_eq_some_iff.mp seat).1
  have finalFound := Array.back?_eq_getElem?.symm.trans final
  have finalSeat := sound.live_seat finalFound
  have word : (pool.live.size - 1).toUInt32.toNat = pool.live.size - 1 :=
    toNat_toUInt32 (Nat.le_trans (Nat.sub_le _ _) sound.live_le)
  rw [remove_eq sound found]
  unfold reseat
  dsimp only
  rw [getElem?_swapRemove final inside]
  by_cases below : place.toNat + 1 < pool.live.size
  · have apart : last.index.toNat ≠ identity.index.toNat := by
      intro equal
      rw [equal, seat] at finalSeat
      have same := Option.some.inj (congrArg Slot.place (Option.some.inj finalSeat))
      rw [same, word] at below
      omega
    simp only [below, if_true, Array.getElem?_modify, Array.getElem?_setIfInBounds, within]
    by_cases own : index = identity.index.toNat
    · subst own
      simp [apart]
    · by_cases moved : index = last.index.toNat
      · subst moved
        simp [finalSeat, apart, Ne.symm apart]
      · simp [own, moved, Ne.symm own, Ne.symm moved]
  · have same : last = identity := by
      have atEnd : pool.live.size - 1 = place.toNat := by omega
      rw [atEnd, found] at finalFound
      exact (Option.some.inj finalFound).symm
    subst same
    simp only [below, if_false, Array.getElem?_setIfInBounds, within, if_true]
    by_cases own : index = last.index.toNat
    · simp [own]
    · simp [own, Ne.symm own]

theorem remove_slots_size (pool : Pool) (identity : Identity) :
    (pool.remove identity).2.slots.size = pool.slots.size := by
  unfold remove
  split
  · rfl
  · split
    · split
      · rfl
      · unfold reseat
        split <;> simp
    · rfl

theorem size_swapRemove {α : Type} (sequence : Array α) (position : Nat) :
    (swapRemove sequence position).size = sequence.size - 1 := by
  unfold swapRemove
  split
  · simp
  · rename_i none
    rw [Array.back?_eq_none_iff] at none
    simp [none]

/-- No remaining identity has the slot of the removed one. -/
theorem remove_live_own (sound : pool.Sound) (found : pool.live[place.toNat]? = some identity)
    (final : pool.live.back? = some last) (version : UInt32) (position : Nat) :
    (pool.remove identity).2.live[position]? ≠ some ⟨identity.index, version⟩ := by
  have inside : place.toNat < pool.live.size := (Array.getElem?_eq_some_iff.mp found).1
  rw [remove_live sound found, getElem?_swapRemove final inside]
  split
  · rename_i below
    split
    · rename_i atPlace
      intro moved
      have same : last.index = identity.index := by rw [Option.some.inj moved]
      -- The last one would be the removed one itself, which is at the end and so has not moved.
      have ends := sound.place_inj (Array.back?_eq_getElem?.symm.trans final) found same
      omega
    · rename_i elsewhere
      intro stays
      exact elsewhere (sound.place_inj stays found rfl)
  · simp

/-- The last identity takes the place of the removed one. -/
theorem remove_live_last (sound : pool.Sound) (found : pool.live[place.toNat]? = some identity)
    (final : pool.live.back? = some last) (apart : last.index ≠ identity.index) (version : UInt32)
    (position : Nat) :
    (pool.remove identity).2.live[position]? = some ⟨last.index, version⟩ ↔
      last.version = version ∧ place.toNat = position := by
  have inside : place.toNat < pool.live.size := (Array.getElem?_eq_some_iff.mp found).1
  have finalFound := Array.back?_eq_getElem?.symm.trans final
  have notLast : place.toNat ≠ pool.live.size - 1 := by
    intro ends
    rw [← ends, found] at finalFound
    exact apart (congrArg Identity.index (Option.some.inj finalFound)).symm
  rw [remove_live sound found, getElem?_swapRemove final inside]
  split
  · rename_i below
    split
    · rename_i atPlace
      cases last
      simp [atPlace]
    · rename_i elsewhere
      simp only [Ne.symm elsewhere, and_false, iff_false]
      intro stays
      have ends := sound.place_inj stays finalFound rfl
      omega
  · rename_i above
    have different : place.toNat ≠ position := by omega
    simp [different]

/-- The other identities stay where they are. -/
theorem remove_live_other (sound : pool.Sound) (found : pool.live[place.toNat]? = some identity)
    (final : pool.live.back? = some last) {other : Identity} (own : other.index ≠ identity.index)
    (moved : other.index ≠ last.index) (position : Nat) :
    (pool.remove identity).2.live[position]? = some other ↔ pool.live[position]? = some other := by
  have inside : place.toNat < pool.live.size := (Array.getElem?_eq_some_iff.mp found).1
  have notOwn : identity ≠ other := fun equal => own (congrArg Identity.index equal).symm
  have notLast : last ≠ other := fun equal => moved (congrArg Identity.index equal).symm
  rw [remove_live sound found, getElem?_swapRemove final inside]
  split
  · split
    · rename_i atPlace
      simp [atPlace, found, notOwn, notLast]
    · rfl
  · rename_i above
    simp only [reduceCtorEq, false_iff]
    intro stays
    have within : position < pool.live.size := (Array.getElem?_eq_some_iff.mp stays).1
    have ends : position = pool.live.size - 1 := by omega
    rw [ends, ← Array.back?_eq_getElem?, final] at stays
    exact notLast (Option.some.inj stays)

/-- After a removal the places of the remaining identities are again those that their slots know. -/
theorem remove_live_iff (sound : pool.Sound) (found : pool.live[place.toNat]? = some identity)
    (index version other : UInt32) :
    (pool.remove identity).2.live[other.toNat]? = some ⟨index, version⟩ ↔
      (pool.remove identity).2.slots[index.toNat]? = some ⟨version, some other⟩ := by
  obtain ⟨last, final⟩ := exists_back found
  rw [remove_slots sound found final]
  by_cases own : index = identity.index
  · subst own
    simp [remove_live_own sound found final]
  · have apart : index.toNat ≠ identity.index.toNat := fun equal => own (UInt32.toNat_inj.mp equal)
    rw [if_neg apart]
    by_cases moved : index = last.index
    · subst moved
      rw [remove_live_last sound found final own]
      simp [UInt32.toNat_inj]
    · have apart' : index.toNat ≠ last.index.toNat := fun equal => moved (UInt32.toNat_inj.mp equal)
      rw [if_neg apart', remove_live_other sound found final own moved]
      exact sound.live_iff index version other

theorem remove_sound_of_live (sound : pool.Sound) (found : pool.live[place.toNat]? = some identity) :
    (pool.remove identity).2.Sound := by
  have seat := (sound.live_iff identity.index identity.version place).mp found
  have inside : place.toNat < pool.live.size := (Array.getElem?_eq_some_iff.mp found).1
  have balanced := sound.balanced
  obtain ⟨last, final⟩ := exists_back found
  have finalFound := Array.back?_eq_getElem?.symm.trans final
  constructor
  · rw [remove_slots_size]
    exact sound.capped
  · rw [remove_live sound found, remove_free sound found, remove_slots_size, size_swapRemove, List.length_cons]
    omega
  · rw [remove_free sound found, List.nodup_cons]
    refine ⟨?_, sound.distinct⟩
    intro member
    obtain ⟨version, vacant⟩ := (sound.free_iff _).mp member
    rw [seat] at vacant
    cases vacant
  · intro index
    rw [remove_free sound found, List.mem_cons, sound.free_iff, remove_slots sound found final]
    by_cases own : index = identity.index
    · simp [own]
    · have apart : index.toNat ≠ identity.index.toNat := fun equal => own (UInt32.toNat_inj.mp equal)
      simp only [own, apart, false_or, if_false]
      by_cases moved : index = last.index
      · simp [moved, sound.live_seat finalFound]
      · have apart' : index.toNat ≠ last.index.toNat := fun equal => moved (UInt32.toNat_inj.mp equal)
        simp [apart']
  · exact remove_live_iff sound found

end Removal

theorem remove_sound {pool : Pool} (sound : pool.Sound) (identity : Identity) :
    (pool.remove identity).2.Sound := by
  by_cases live : identity ∈ pool.live
  · obtain ⟨position, found⟩ := Array.mem_iff_getElem?.mp live
    rw [← sound.word found] at found
    exact remove_sound_of_live sound found
  · rw [remove_absent sound live]
    exact sound

end EntityScene.Pool
