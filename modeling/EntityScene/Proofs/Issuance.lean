import EntityScene.Proofs.PoolHistory
import EntityScene.Proofs.Roster

/-!
Identities are issued once. As long as no slot of a pool is vacated so often that its versions start over,
the identities that the pool gives out are all different, and one that was removed stays away for good,
however often its slot is used again.
-/

namespace EntityScene

open Pool (Operation Answer)

/-- Only the removal of an identity takes it from the list. -/
theorem Roster.Step.stays {before after : List Identity} {operation : Operation} {answer : Answer}
    (step : Roster.Step before operation answer after) {identity : Identity} (member : identity ∈ before) :
    identity ∈ after ∨ operation = .remove identity ∧ answer = .removed true := by
  cases step with
  | issued _ _ => exact Or.inl (List.mem_append_left _ member)
  | exhausted _ => exact Or.inl member
  | absent _ => exact Or.inl member
  | last =>
      rcases List.mem_append.mp member with front | removed
      · exact Or.inl front
      · rw [List.mem_singleton.mp removed]
        exact Or.inr ⟨rfl, rfl⟩
  | inner =>
      rcases List.mem_append.mp member with front | rest
      · exact Or.inl (List.mem_append_left _ front)
      · rcases List.mem_cons.mp rest with rfl | back
        · exact Or.inr ⟨rfl, rfl⟩
        · have kept := List.perm_append_singleton _ _ |>.mem_iff.mp back
          exact Or.inl (List.mem_append_right _ kept)

/-- Only an identity that is given out comes to the list. -/
theorem Roster.Step.comes {before after : List Identity} {operation : Operation} {answer : Answer}
    (step : Roster.Step before operation answer after) {identity : Identity} (member : identity ∈ after) :
    identity ∈ before ∨ answer = .issued identity := by
  cases step with
  | issued _ _ =>
      rcases List.mem_append.mp member with old | new
      · exact Or.inl old
      · rw [List.mem_singleton.mp new]
        exact Or.inr rfl
  | exhausted _ => exact Or.inl member
  | absent _ => exact Or.inl member
  | last => exact Or.inl (List.mem_append_left _ member)
  | inner =>
      rcases List.mem_append.mp member with front | rest
      · exact Or.inl (List.mem_append_left _ front)
      · have back := List.perm_append_singleton _ _ |>.mem_iff.mpr rest
        exact Or.inl (List.mem_append_right _ (List.mem_cons_of_mem _ back))

namespace Pool

/-- The identity that an answer gives out. -/
def Answer.identity? : Answer → Option Identity
  | .issued identity => some identity
  | .removed _ | .failed _ => none

/-- The identities that the answers give out, in order. -/
def issues (answers : List Answer) : List Identity := answers.filterMap Answer.identity?

/-- The call removes an identity from the slot. -/
def vacates (index : UInt32) : Operation → Answer → Bool
  | .remove identity, .removed true => identity.index == index
  | _, _ => false

/-- How often a sequence of calls removes an identity from the slot. -/
def vacated (index : UInt32) (pool : Pool) : List Operation → Nat
  | [] => 0
  | operation :: rest =>
    (if vacates index operation (pool.step operation).1 then 1 else 0) +
      vacated index (pool.step operation).2 rest

theorem vacated_append (index : UInt32) (pool : Pool) (first second : List Operation) :
    pool.vacated index (first ++ second) =
      pool.vacated index first + (pool.run first).2.vacated index second := by
  induction first generalizing pool with
  | nil => simp [vacated, run]
  | cons operation rest ih =>
      simp only [List.cons_append, vacated, run, ih]
      omega

theorem vacated_le_length (index : UInt32) (pool : Pool) (operations : List Operation) :
    pool.vacated index operations ≤ operations.length := by
  induction operations generalizing pool with
  | nil => exact Nat.zero_le _
  | cons operation rest ih =>
      have others := ih (pool.step operation).2
      simp only [vacated, List.length_cons]
      split <;> omega

theorem run_append (pool : Pool) (first second : List Operation) :
    (pool.run (first ++ second)).2 = ((pool.run first).2.run second).2 := by
  induction first generalizing pool with
  | nil => rfl
  | cons operation rest ih => exact ih _

section Steps

variable {pool : Pool} {identity : Identity}

theorem step_evolves (sound : pool.Sound) (operation : Operation) : Evolves pool (pool.step operation).2 := by
  cases operation with
  | remove identity => exact ⟨_, remove_shrinks sound identity, .refl _⟩
  | emplace =>
      unfold step
      cases made : pool.emplace with
      | error cause => exact .refl pool
      | ok answer => exact ⟨pool, .refl pool, emplace_grows sound made⟩

theorem remove_not_mem (sound : pool.Sound) (live : identity ∈ pool.live) :
    identity ∉ (pool.remove identity).2.live := by
  obtain ⟨position, found⟩ := Array.mem_iff_getElem?.mp live
  obtain ⟨last, final⟩ := exists_back found
  rw [← sound.word found] at found
  intro member
  obtain ⟨place, here⟩ := Array.mem_iff_getElem?.mp member
  exact remove_live_own sound found final identity.version place here

/-- A slot loses its identity only by a call that vacates it. -/
theorem vacates_of_lost (sound : pool.Sound) {operation : Operation} {index : UInt32}
    (lost : pool.lost (pool.step operation).2 index = true) :
    vacates index operation (pool.step operation).1 = true := by
  simp only [Pool.lost, Array.any_eq_true', Bool.and_eq_true, beq_iff_eq, Bool.not_eq_true'] at lost
  obtain ⟨identity, live, slot, gone⟩ := lost
  have absent : identity ∉ (pool.step operation).2.live.toList := by
    intro member
    rw [← Bool.not_eq_true, (step_sound sound operation).contains_iff] at gone
    exact gone (Array.mem_toList_iff.mp member)
  rcases (step_refines sound operation).stays (Array.mem_toList_iff.mpr live) with stays | ⟨removed, answer⟩
  · exact absurd stays absent
  · rw [answer, removed]
    exact beq_iff_eq.mpr slot

theorem removals_step (sound : pool.Sound) (operation : Operation) (earlier : List Pool) (index : UInt32) :
    removals index ((pool.step operation).2 :: pool :: earlier) ≤
      removals index (pool :: earlier) + if vacates index operation (pool.step operation).1 then 1 else 0 := by
  rw [removals]
  split
  · rename_i lost
    rw [if_pos (vacates_of_lost sound lost)]
    omega
  · omega

end Steps

namespace Lineage

variable {pool : Pool} {earlier : List Pool} {identity : Identity}

theorem call (lineage : Lineage (pool :: earlier)) (operation : Operation) :
    Lineage ((pool.step operation).2 :: pool :: earlier) :=
  .step lineage (step_sound lineage.sound operation) (step_evolves lineage.sound operation)

/-- The calls leave room for the versions of every slot, counting the removals there so far. -/
def Room (history : List Pool) (pool : Pool) (operations : List Operation) : Prop :=
  ∀ index, removals index history + pool.vacated index operations < UInt32.size

theorem Room.next {operation : Operation} {rest : List Operation} (lineage : Lineage (pool :: earlier))
    (room : Room (pool :: earlier) pool (operation :: rest)) :
    Room ((pool.step operation).2 :: pool :: earlier) (pool.step operation).2 rest := by
  intro index
  have most := removals_step lineage.sound operation earlier index
  have all := room index
  unfold vacated at all
  omega

theorem Room.now {operations : List Operation} (room : Room (pool :: earlier) pool operations)
    (index : UInt32) : removals index (pool :: earlier) < UInt32.size := by
  have all := room index
  omega

/-- A call gives out an identity that was never issued. -/
theorem call_fresh (lineage : Lineage (pool :: earlier))
    (bounded : ∀ index, removals index (pool :: earlier) < UInt32.size) {operation : Operation}
    (answer : (pool.step operation).1 = .issued identity) :
    ¬Issued (pool :: earlier) identity ∧ identity ∈ (pool.step operation).2.live := by
  cases operation with
  | remove => cases answer
  | emplace =>
      unfold Pool.step at answer ⊢
      cases made : pool.emplace with
      | error cause =>
          rw [made] at answer
          cases answer
      | ok result =>
          obtain ⟨given, after⟩ := result
          rw [made] at answer
          cases answer
          obtain ⟨_, live, _⟩ := emplace_spec lineage.sound made
          refine ⟨lineage.fresh bounded made, ?_⟩
          simp only [live]
          exact Array.mem_push_self

/-- The identities that a run gives out are different from each other and from all that were issued
before it. -/
theorem run_issues {operations : List Operation} (lineage : Lineage (pool :: earlier))
    (room : Room (pool :: earlier) pool operations) :
    (issues (pool.run operations).1).Nodup ∧
      ∀ identity ∈ issues (pool.run operations).1, ¬Issued (pool :: earlier) identity := by
  induction operations generalizing pool earlier with
  | nil => exact ⟨List.nodup_nil, fun _ member => nomatch member⟩
  | cons operation rest ih =>
      obtain ⟨distinct, unissued⟩ := ih (lineage.call operation) (room.next lineage)
      have later : ∀ identity ∈ issues ((pool.step operation).2.run rest).1,
          ¬Issued (pool :: earlier) identity := by
        rintro identity member ⟨state, past, live⟩
        exact unissued identity member ⟨state, List.mem_cons_of_mem _ past, live⟩
      unfold Pool.run issues
      cases answer : (pool.step operation).1 with
      | removed wasLive => exact ⟨distinct, later⟩
      | failed cause => exact ⟨distinct, later⟩
      | issued identity =>
          obtain ⟨fresh, live⟩ := lineage.call_fresh room.now answer
          constructor
          · refine List.nodup_cons.mpr ⟨fun again => ?_, distinct⟩
            exact unissued identity again ⟨_, List.mem_cons_self, live⟩
          · intro other member
            rcases List.mem_cons.mp member with rfl | others
            · exact fresh
            · exact later other others

/-- An identity that was issued and is no longer live does not come back. -/
theorem run_gone {operations : List Operation} (lineage : Lineage (pool :: earlier))
    (room : Room (pool :: earlier) pool operations) (issued : Issued (pool :: earlier) identity)
    (gone : identity ∉ pool.live) : identity ∉ (pool.run operations).2.live := by
  induction operations generalizing pool earlier with
  | nil => exact gone
  | cons operation rest ih =>
      obtain ⟨state, past, live⟩ := issued
      refine ih (lineage.call operation) (room.next lineage) ⟨state, List.mem_cons_of_mem _ past, live⟩ ?_
      intro back
      have refined := step_refines lineage.sound operation
      rcases refined.comes (Array.mem_toList_iff.mpr back) with still | answer
      · exact gone (Array.mem_toList_iff.mp still)
      · exact (lineage.call_fresh room.now answer).1 ⟨state, past, live⟩

/-- The states of a run continue a lineage, with as many removals as the calls of the run vacate slots. -/
theorem run (lineage : Lineage (pool :: earlier)) (operations : List Operation) :
    ∃ states, Lineage ((pool.run operations).2 :: states) ∧ ∀ index,
      removals index ((pool.run operations).2 :: states) ≤
        removals index (pool :: earlier) + pool.vacated index operations := by
  induction operations generalizing pool earlier with
  | nil => exact ⟨earlier, lineage, fun _ => Nat.le_refl _⟩
  | cons operation rest ih =>
      obtain ⟨states, continued, most⟩ := ih (lineage.call operation)
      refine ⟨states, continued, fun index => ?_⟩
      have first := removals_step lineage.sound operation earlier index
      have others := most index
      rw [vacated]
      change removals index (((pool.step operation).2.run rest).2 :: states) ≤ _
      omega

end Lineage

/-- If no slot is vacated so often that its versions start over, the identities given out by the calls on
an empty pool are pairwise different, and an identity that was removed is neither contained nor removed
again at any later point of the run. -/
theorem issued_once {operations : List Operation}
    (bounded : ∀ index, Pool.empty.vacated index operations < UInt32.size) :
    (issues (Pool.empty.run operations).1).Nodup ∧
      ∀ (earlier between later : List Operation) (identity : Identity),
        operations = earlier ++ .remove identity :: (between ++ later) →
        ((Pool.empty.run earlier).2.remove identity).1 = true →
        let pool := (Pool.empty.run (earlier ++ .remove identity :: between)).2
        pool.contains identity = false ∧ pool.remove identity = (false, pool) := by
  have start : ∀ index, removals index [Pool.empty] = 0 := fun _ => rfl
  constructor
  · refine (Lineage.run_issues .start fun index => ?_).1
    rw [start, Nat.zero_add]
    exact bounded index
  · intro earlier between later identity split removed pool
    obtain ⟨states, lineage, most⟩ := Lineage.start.run earlier
    have refined := step_refines lineage.sound (.remove identity)
    have live : identity ∈ (Pool.empty.run earlier).2.live :=
      Array.mem_toList_iff.mp ((refined.removed_iff rfl).mp removed)
    have gone := remove_not_mem lineage.sound live
    have room : Lineage.Room ((Pool.empty.run earlier).2 :: states) (Pool.empty.run earlier).2
        (.remove identity :: between) := by
      intro index
      have whole := bounded index
      have first := most index
      rw [split, ← List.cons_append, ← List.append_assoc, vacated_append, vacated_append] at whole
      rw [start] at first
      omega
    have away : identity ∉ pool.live := by
      have later := (lineage.call (.remove identity)).run_gone (room.next lineage)
        ⟨_, List.mem_cons_of_mem _ List.mem_cons_self, live⟩ gone
      unfold pool
      rw [run_append]
      exact later
    have sound : pool.Sound := run_sound empty_sound _
    refine ⟨?_, remove_absent sound away⟩
    rw [← Bool.not_eq_true, sound.contains_iff]
    exact away

def sampleCalls : List Operation :=
  [.emplace, .emplace, .remove ⟨0, 0⟩, .emplace, .remove ⟨0, 0⟩, .remove ⟨0, 1⟩, .emplace]

/-- A slot is used three times, and its first identity is asked for in vain in between. -/
theorem issued_once_sample :
    (∀ index, Pool.empty.vacated index sampleCalls < UInt32.size) ∧
      issues (Pool.empty.run sampleCalls).1 = [⟨0, 0⟩, ⟨1, 0⟩, ⟨0, 1⟩, ⟨0, 2⟩] ∧
      (issues (Pool.empty.run sampleCalls).1).Nodup ∧
      ((Pool.empty.run [.emplace, .emplace]).2.remove ⟨0, 0⟩).1 = true ∧
      (Pool.empty.run sampleCalls).2.contains ⟨0, 0⟩ = false ∧
      ((Pool.empty.run sampleCalls).2.remove ⟨0, 0⟩).1 = false := by
  have bounded : ∀ index, Pool.empty.vacated index sampleCalls < UInt32.size := fun index =>
    Nat.lt_of_le_of_lt (vacated_le_length index _ _) (by decide)
  have removed : ((Pool.empty.run [.emplace, .emplace]).2.remove ⟨0, 0⟩).1 = true := by decide
  obtain ⟨distinct, away⟩ := issued_once bounded
  obtain ⟨absent, refused⟩ := away [.emplace, .emplace]
    [.emplace, .remove ⟨0, 0⟩, .remove ⟨0, 1⟩, .emplace] [] ⟨0, 0⟩ rfl removed
  exact ⟨bounded, by decide, distinct, removed, absent, congrArg Prod.fst refused⟩

end Pool

end EntityScene
