import EntityScene.Proofs.Pool

/-!
The history of a pool. A slot's version counts how often its identity was removed, as long as the count
fits into the version. An identity that was issued before is then live or older than its slot, and a new
identity was never issued before.
-/

namespace EntityScene.Pool

/-- The version that the next identity in a slot has. A slot that is not there yet starts at zero. -/
def version (pool : Pool) (index : UInt32) : UInt32 :=
  (pool.slots[index.toNat]?.map Slot.version).getD 0

/-- The slot is in use. -/
def seated (pool : Pool) (index : UInt32) : Bool := (pool.slots[index.toNat]?.bind Slot.place).isSome

/-- An identity in the slot was live before and is no longer. -/
def lost (before after : Pool) (index : UInt32) : Bool :=
  before.live.any fun identity => identity.index == index && !after.contains identity

/-- How often an identity in the slot was removed, over the states of a pool with the newest first. -/
def removals (index : UInt32) : List Pool → Nat
  | after :: before :: earlier =>
    (if before.lost after index then 1 else 0) + removals index (before :: earlier)
  | _ => 0

theorem removals_le_length (index : UInt32) (history : List Pool) : removals index history ≤ history.length := by
  fun_induction removals index history with
  | case1 after before earlier ih =>
      rw [List.length_cons]
      split
      · omega
      · omega
  | case2 => exact Nat.zero_le _

/-- The identity was live in one of the states. -/
def Issued (history : List Pool) (identity : Identity) : Prop := ∃ pool ∈ history, identity ∈ pool.live

theorem Sound.mem_live {pool : Pool} (sound : pool.Sound) (identity : Identity) :
    identity ∈ pool.live ↔
      pool.seated identity.index = true ∧ pool.version identity.index = identity.version := by
  rw [← sound.contains_iff, contains, seated, version]
  cases pool.slots[identity.index.toNat]? with
  | none => simp
  | some slot => simp [and_comm]

/-- The pool went on by removals: a slot stays as it is, or its identity is removed. -/
def Shrinks (before after : Pool) : Prop :=
  ∀ index, (after.seated index = before.seated index ∧ after.version index = before.version index) ∨
    before.seated index = true ∧ after.seated index = false ∧
      after.version index = before.version index + 1

/-- The pool went on by new identities. -/
def Grows (before after : Pool) : Prop :=
  ∀ index, after.version index = before.version index ∧
    (before.seated index = true → after.seated index = true)

theorem Shrinks.refl (pool : Pool) : Shrinks pool pool := fun _ => Or.inl ⟨rfl, rfl⟩

theorem Grows.refl (pool : Pool) : Grows pool pool := fun _ => ⟨rfl, fun seated => seated⟩

theorem Grows.trans {first second third : Pool} (one : Grows first second) (two : Grows second third) :
    Grows first third := fun index =>
  ⟨(two index).1.trans (one index).1, fun seated => (two index).2 ((one index).2 seated)⟩

theorem Shrinks.trans {first second third : Pool} (one : Shrinks first second) (two : Shrinks second third) :
    Shrinks first third := by
  intro index
  rcases one index with ⟨seated, version⟩ | ⟨seated, freed, version⟩
  · rw [← seated, ← version]
    exact two index
  · rcases two index with ⟨seated', version'⟩ | ⟨seated', _⟩
    · exact Or.inr ⟨seated, seated'.trans freed, version'.trans version⟩
    · rw [freed] at seated'
      cases seated'

theorem Grows.live {before after : Pool} (grows : Grows before after) (sound : before.Sound)
    (sound' : after.Sound) {identity : Identity} (member : identity ∈ before.live) : identity ∈ after.live := by
  obtain ⟨seated, version⟩ := (sound.mem_live identity).mp member
  exact (sound'.mem_live identity).mpr ⟨(grows _).2 seated, (grows _).1.trans version⟩

theorem remove_shrinks {pool : Pool} (sound : pool.Sound) (identity : Identity) :
    Shrinks pool (pool.remove identity).2 := by
  by_cases member : identity ∈ pool.live
  · obtain ⟨position, found⟩ := Array.mem_iff_getElem?.mp member
    have seat := sound.live_seat found
    have found' : pool.live[position.toUInt32.toNat]? = some identity := by
      rw [sound.word found]
      exact found
    obtain ⟨last, final⟩ := exists_back found
    have finalSeat := sound.live_seat (Array.back?_eq_getElem?.symm.trans final)
    intro index
    unfold seated version
    rw [remove_slots sound found' final]
    by_cases own : index.toNat = identity.index.toNat
    · rw [if_pos own, own, seat]
      exact Or.inr ⟨rfl, rfl, rfl⟩
    · rw [if_neg own]
      by_cases moved : index.toNat = last.index.toNat
      · rw [if_pos moved, moved, finalSeat]
        exact Or.inl ⟨rfl, rfl⟩
      · rw [if_neg moved]
        exact Or.inl ⟨rfl, rfl⟩
  · rw [remove_absent sound member]
    exact .refl pool

theorem emplace_grows {pool pool' : Pool} {identity : Identity} (sound : pool.Sound)
    (made : pool.emplace = .ok (identity, pool')) : Grows pool pool' := by
  obtain ⟨opened, isOpen, _, rfl, origin⟩ := emplace_cases sound made
  have vacant := isOpen.vacant
  have begun (index : UInt32) :
      opened.version index = pool.version index ∧ opened.seated index = pool.seated index := by
    rcases origin with ⟨free, _, rfl⟩ | ⟨_, _, rfl⟩
    · exact ⟨rfl, rfl⟩
    · unfold version seated
      dsimp only
      rw [Array.getElem?_push]
      split
      · rename_i last
        rw [last, Array.getElem?_size]
        exact ⟨rfl, rfl⟩
      · exact ⟨rfl, rfl⟩
  intro index
  rw [← (begun index).1, ← (begun index).2, occupy_eq isOpen]
  unfold version seated
  dsimp only
  rw [Array.getElem?_setIfInBounds]
  split
  · rename_i own
    have inside := (Array.getElem?_eq_some_iff.mp vacant).1
    rw [← own, vacant, if_pos inside]
    exact ⟨rfl, fun _ => rfl⟩
  · exact ⟨rfl, fun seated => seated⟩

/-- One operation on a pool: some identities are removed, and then there are some new ones. -/
def Evolves (before after : Pool) : Prop := ∃ middle, Shrinks before middle ∧ Grows middle after

theorem Evolves.refl (pool : Pool) : Evolves pool pool := ⟨pool, .refl pool, .refl pool⟩

theorem lost_iff {before after : Pool} (sound : before.Sound) (sound' : after.Sound) (index : UInt32) :
    before.lost after index = true ↔ before.seated index = true ∧
      ¬(after.seated index = true ∧ after.version index = before.version index) := by
  have stays (identity : Identity) : (!after.contains identity) = true ↔ identity ∉ after.live := by
    rw [Bool.not_eq_true', ← Bool.not_eq_true, sound'.contains_iff]
  simp only [lost, Array.any_eq_true', Bool.and_eq_true, beq_iff_eq, stays]
  constructor
  · rintro ⟨identity, member, rfl, gone⟩
    rw [sound'.mem_live] at gone
    obtain ⟨seated, version⟩ := (sound.mem_live identity).mp member
    rw [version]
    exact ⟨seated, gone⟩
  · rintro ⟨seated, gone⟩
    exact ⟨⟨index, before.version index⟩, (sound.mem_live _).mpr ⟨seated, rfl⟩, rfl,
      fun member => gone ((sound'.mem_live _).mp member)⟩

theorem version_step (version : UInt32) : version + 1 ≠ version := by
  intro same
  simp at same

/-- A version goes up exactly where an identity is lost. -/
theorem Evolves.version {before after : Pool} (evolves : Evolves before after) (sound : before.Sound)
    (sound' : after.Sound) (index : UInt32) :
    after.version index = before.version index + if before.lost after index then 1 else 0 := by
  obtain ⟨middle, shrinks, grows⟩ := evolves
  obtain ⟨version, stays⟩ := grows index
  have iff := lost_iff sound sound' index
  rcases shrinks index with ⟨seated, kept⟩ | ⟨seated, freed, raised⟩
  · have same : after.version index = before.version index := version.trans kept
    have not : ¬before.lost after index = true := by
      rw [iff]
      rintro ⟨held, gone⟩
      exact gone ⟨stays (seated.trans held), same⟩
    rw [if_neg not, same]
    exact (UInt32.add_zero _).symm
  · have step : after.version index = before.version index + 1 := version.trans raised
    have lost : before.lost after index = true := by
      rw [iff]
      refine ⟨seated, ?_⟩
      rintro ⟨_, same⟩
      exact version_step _ (step.symm.trans same)
    rw [if_pos lost, step]

/-- An identity that has come in the second half of an operation was not live before the first: where one was
removed, the version has gone up. -/
theorem Shrinks.newcomer {before middle after : Pool} (shrinks : Shrinks before middle)
    (grows : Grows middle after) (sound : before.Sound) (sound' : middle.Sound) (sound'' : after.Sound)
    {identity : Identity} (member : identity ∈ after.live) (new : identity ∉ middle.live) :
    identity ∉ before.live := by
  intro old
  obtain ⟨seated, version⟩ := (sound.mem_live identity).mp old
  have now := ((sound''.mem_live identity).mp member).2
  rw [(grows identity.index).1] at now
  rcases shrinks identity.index with ⟨stays, _⟩ | ⟨_, _, raised⟩
  · exact new ((sound'.mem_live identity).mpr ⟨stays.trans seated, now⟩)
  · rw [now, ← version] at raised
    exact version_step _ raised.symm

/-- States with the same versions have seen the same removals. -/
theorem removals_congr {before after later : Pool} {earlier : List Pool} {index : UInt32}
    (one : Evolves before after) (two : Evolves before later) (sound : before.Sound) (sound' : after.Sound)
    (sound'' : later.Sound) (same : later.version index = after.version index) :
    removals index (later :: before :: earlier) = removals index (after :: before :: earlier) := by
  rw [one.version sound sound', two.version sound sound''] at same
  unfold removals
  cases lost : before.lost after index with
  | true =>
      cases lost' : before.lost later index with
      | true => rfl
      | false => simp [lost, lost'] at same
  | false =>
      cases lost' : before.lost later index with
      | true => simp [lost, lost'] at same
      | false => rfl

/-- The states of a pool that was empty at first, with the newest first. -/
inductive Lineage : List Pool → Prop
  | start : Lineage [Pool.empty]
  | step {before after : Pool} {earlier : List Pool} (lineage : Lineage (before :: earlier))
    (sound : after.Sound) (evolves : Evolves before after) : Lineage (after :: before :: earlier)

namespace Lineage

variable {pool pool' : Pool} {earlier : List Pool} {identity : Identity}

theorem sound (lineage : Lineage (pool :: earlier)) : pool.Sound := by
  cases lineage with
  | start => exact empty_sound
  | step _ sound _ => exact sound

/-- The version of a slot is the number of removals there, if that fits. -/
theorem version (lineage : Lineage (pool :: earlier)) {index : UInt32}
    (bounded : removals index (pool :: earlier) < UInt32.size) :
    (pool.version index).toNat = removals index (pool :: earlier) := by
  induction earlier generalizing pool with
  | nil =>
      cases lineage
      rfl
  | cons before earlier ih =>
      cases lineage with
      | step lineage sound evolves =>
          unfold removals at bounded ⊢
          have old := ih lineage (by omega)
          rw [evolves.version lineage.sound sound, UInt32.toNat_add, old]
          have step : (if before.lost pool index then (1 : UInt32) else 0).toNat =
              if before.lost pool index then 1 else 0 := by split <;> rfl
          rw [step, Nat.add_comm]
          exact Nat.mod_eq_of_lt bounded

/-- An identity that was issued is live, or its slot has been used up to a later version. -/
theorem issued (lineage : Lineage (pool :: earlier))
    (bounded : removals identity.index (pool :: earlier) < UInt32.size)
    (issued : Issued (pool :: earlier) identity) :
    identity ∈ pool.live ∨ identity.version.toNat < removals identity.index (pool :: earlier) := by
  induction earlier generalizing pool with
  | nil =>
      obtain ⟨only, member, live⟩ := issued
      rw [List.mem_singleton.mp member] at live
      exact Or.inl live
  | cons before earlier ih =>
      cases lineage with
      | step lineage sound evolves =>
          by_cases now : identity ∈ pool.live
          · exact Or.inl now
          · unfold removals at bounded ⊢
            have old : Issued (before :: earlier) identity := by
              obtain ⟨state, member, live⟩ := issued
              rcases List.mem_cons.mp member with rfl | past
              · exact absurd live now
              · exact ⟨state, past, live⟩
            rcases ih lineage (by omega) old with live | older
            · obtain ⟨seated, version⟩ := (lineage.sound.mem_live identity).mp live
              -- An identity that was live until now has the version of its slot, and the slot has lost it.
              have count : (before.version identity.index).toNat = _ := lineage.version (by omega)
              rw [version] at count
              have lost : before.lost pool identity.index = true := by
                refine (lost_iff lineage.sound sound _).mpr ⟨seated, ?_⟩
                rintro ⟨seated', version'⟩
                exact now ((sound.mem_live identity).mpr ⟨seated', version'.trans version⟩)
              rw [if_pos lost]
              omega
            · omega

/-- A new identity was never issued before. -/
theorem fresh (lineage : Lineage (pool :: earlier))
    (bounded : ∀ index, removals index (pool :: earlier) < UInt32.size)
    (made : pool.emplace = .ok (identity, pool')) : ¬Issued (pool :: earlier) identity := by
  intro issued
  obtain ⟨sound, live, absent⟩ := emplace_spec lineage.sound made
  have member : identity ∈ pool'.live := by
    rw [live]
    exact Array.mem_push_self
  have own : pool.version identity.index = identity.version :=
    ((emplace_grows lineage.sound made) _).1.symm.trans ((sound.mem_live identity).mp member).2
  have count := lineage.version (bounded identity.index)
  rcases lineage.issued (bounded _) issued with now | older
  · exact absent now
  · rw [own] at count
    omega

/-- An identity that has come in the second half of an operation was never issued before. -/
theorem newcomer {middle after : Pool} (lineage : Lineage (pool :: earlier)) (shrinks : Shrinks pool middle)
    (grows : Grows middle after) (sound : middle.Sound) (sound' : after.Sound)
    (bounded : removals identity.index (after :: pool :: earlier) < UInt32.size)
    (member : identity ∈ after.live) (new : identity ∉ middle.live) : ¬Issued (pool :: earlier) identity := by
  intro issued
  have count := (lineage.step sound' ⟨middle, shrinks, grows⟩).version bounded
  rw [((sound'.mem_live identity).mp member).2] at count
  unfold removals at bounded count
  rcases lineage.issued (by omega) issued with live | older
  · exact shrinks.newcomer grows lineage.sound sound sound' member new live
  · omega

end Lineage

end EntityScene.Pool
