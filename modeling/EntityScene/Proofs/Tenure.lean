import EntityScene.Proofs.Occupancy
import Mathlib.Data.Set.Card

/-!
Whom the slots of a table belong to. A slot belongs to the identity that it was written for last, whatever
version the identity has, until exactly this identity is removed; removals of others go by without effect.
What a table holds, what it tells of a removal and how much it counts is what the changes say that took
effect last.
-/

namespace EntityScene.Indexed

open Act

namespace Change

/-- The identity for which a slot is written or emptied. -/
def identity : Change → Identity
  | .emplace identity _ | .remove identity => identity

/-- The change writes a slot. -/
def isEmplace : Change → Bool
  | .emplace _ _ => true
  | .remove _ => false

/-- The change takes effect after this one at the same index: a removal only if it names the owner. -/
def takesEffect (last : Option Change) : Change → Bool
  | .emplace _ _ => true
  | .remove identity => last.any fun change => change.isEmplace && change.identity == identity

end Change

/-- The last change at an index that took effect. -/
def latest? (index : UInt32) (changes : List Change) : Option Change :=
  changes.foldl
    (fun last change => if change.identity.index = index ∧ change.takesEffect last then some change else last)
    none

/-- Performs the changes in order, up to the first that ends in a fault. -/
def performAll (descriptor : Descriptor) : List Change → Act Indexed Unit
  | [] => pure ()
  | change :: rest => do
    change.perform descriptor
    performAll descriptor rest

section Histories

variable {changes : List Change} {identity other : Identity} {value : Value} {index : UInt32}

theorem latest?_append (index : UInt32) (changes : List Change) (change : Change) :
    latest? index (changes ++ [change]) =
      if change.identity.index = index ∧ change.takesEffect (latest? index changes) then some change
      else latest? index changes := by
  rw [latest?, List.foldl_append]
  rfl

/-- The last change at an index is about an identity with this index. -/
theorem latest?_index {change : Change} (found : latest? index changes = some change) :
    change.identity.index = index := by
  induction changes using List.reverseRecOn with
  | nil => cases found
  | append_singleton earlier last ih =>
      rw [latest?_append] at found
      split at found
      · rename_i effective
        cases found
        exact effective.1
      · exact ih found

/-- A removal takes effect where its identity was written last. -/
theorem latest?_removed (last : latest? index changes = some (.emplace identity value)) :
    latest? index (changes ++ [.remove identity]) = some (.remove identity) := by
  have here : identity.index = index := latest?_index last
  rw [latest?_append, last, if_pos]
  exact ⟨here, by simp [Change.takesEffect, Change.isEmplace, Change.identity]⟩

/-- Other removals go by. -/
theorem latest?_passed (foreign : ∀ value, latest? index changes ≠ some (.emplace identity value)) :
    latest? index (changes ++ [.remove identity]) = latest? index changes := by
  rw [latest?_append, if_neg]
  rintro ⟨_, effective⟩
  simp only [Change.takesEffect, Option.any_eq_true, Bool.and_eq_true, beq_iff_eq] at effective
  obtain ⟨last, found, writes, own⟩ := effective
  cases last with
  | remove other => cases writes
  | emplace owner value =>
      cases own
      exact foreign value found

/-- The table holds a value for an identity exactly if the last change at its index wrote it for this
identity. -/
def Holds (changes : List Change) (table : Indexed) : Prop :=
  ∀ identity value,
    table.component identity = some value ↔ latest? identity.index changes = some (.emplace identity value)

theorem holds_empty : Holds [] Indexed.empty := by
  intro identity value
  simp [latest?, component, empty]

theorem Holds.store {table : Indexed} (holds : Holds changes table) (identity : Identity) (value : Value) :
    Holds (changes ++ [.emplace identity value]) (table.store identity value) := by
  intro other found
  rw [component_store, latest?_append]
  by_cases same : other = identity
  · simp [same, Change.identity, Change.takesEffect]
  · by_cases near : other.index = identity.index
    · simp [same, near, Change.identity, Change.takesEffect, Ne.symm same]
    · simp [same, near, Change.identity, Ne.symm near, holds other found]

/-- Without the value of an identity a table holds what it held for the others. -/
theorem component_erase (table : Indexed) (identity other : Identity) :
    (table.erase identity).component other = if other = identity then none else table.component other := by
  cases held : table.component identity with
  | none =>
      simp only [erase, held]
      split
      · rename_i same
        rw [same, held]
      · rfl
  | some value =>
      have erased : (table.erase identity).slots = table.slots.setIfInBounds identity.index.toNat none := by
        simp only [erase, held, putSlot]
      have found := component_found held
      have inside := (Array.getElem?_eq_some_iff.mp found).1
      unfold component
      rw [erased, Array.getElem?_setIfInBounds]
      by_cases near : identity.index.toNat = other.index.toNat
      · rw [if_pos near, if_pos inside, ← near, found]
        simp [eq_comm]
      · have different : other ≠ identity := by
          rintro rfl
          exact near rfl
        rw [if_neg near, if_neg different]

theorem Holds.erase {table : Indexed} (holds : Holds changes table) (identity : Identity) :
    Holds (changes ++ [.remove identity]) (table.erase identity) := by
  intro other found
  rw [component_erase]
  by_cases owned : ∃ value, latest? other.index changes = some (.emplace identity value)
  · obtain ⟨value, last⟩ := owned
    rw [latest?_removed last]
    by_cases same : other = identity
    · simp [same]
    · rw [if_neg same, holds other found, last]
      simp [Ne.symm same]
  · rw [latest?_passed fun value last => owned ⟨value, last⟩]
    by_cases same : other = identity
    · subst same
      have nothing : latest? other.index changes ≠ some (.emplace other found) := fun last => owned ⟨found, last⟩
      simp [nothing]
    · rw [if_neg same, holds other found]

end Histories

/-- The table holds what the changes say, and counts as many slots as it holds. -/
structure Answers (type : ElementType) (changes : List Change) (table : Indexed) : Prop where
  counted : Counted type 0 table
  holds : Holds changes table

section Runs

variable {descriptor : Descriptor} {changes : List Change} {live : Live Indexed}

namespace Answers

theorem empty (type : ElementType) : Answers type [] Indexed.empty := ⟨.empty type, holds_empty⟩

theorem emplace (answers : Answers descriptor.element.type changes live.core) (identity : Identity)
    (value : Value) :
    Ends (Indexed.emplace descriptor identity value) live fun outcome after => outcome = .ok () →
      Answers descriptor.element.type (changes ++ [.emplace identity value]) after.core := by
  apply ((emplace_ends answers.counted.sound identity value).and (answers.counted.emplace identity value)).mono
  rintro outcome ⟨journal, table⟩ ⟨written, counted⟩ completed
  cases written with
  | refused | stopped => cases completed
  | stored typed replaces =>
      have through : ¬(Change.emplace identity value).stops descriptor live.core = true := by
        simp [Change.stops, replaces, Except.isOk, Except.toBool]
      rw [if_neg through] at counted
      exact ⟨counted, answers.holds.store identity value⟩

theorem remove (answers : Answers descriptor.element.type changes live.core) (identity : Identity) :
    Ends (Indexed.remove descriptor identity) live fun outcome after => outcome.isOk = true →
      Answers descriptor.element.type (changes ++ [.remove identity]) after.core := by
  apply ((remove_ends answers.counted.sound identity).and (answers.counted.remove identity)).mono
  rintro outcome ⟨journal, table⟩ ⟨removed, counted⟩ completed
  dsimp only at removed counted ⊢
  cases removed with
  | erased disposed =>
      have through : ¬(Change.remove identity).stops descriptor live.core = true := by
        simp [Change.stops, disposed, Except.isOk, Except.toBool]
      rw [if_neg through] at counted
      exact ⟨counted, answers.holds.erase identity⟩
  | stopped => cases completed

/-- A change that succeeds is one more that the table answers to. -/
theorem perform (answers : Answers descriptor.element.type changes live.core) (change : Change) :
    Ends (change.perform descriptor) live fun outcome after => outcome = .ok () →
      Answers descriptor.element.type (changes ++ [change]) after.core := by
  cases change with
  | emplace identity value => exact answers.emplace identity value
  | remove identity =>
      simp only [Change.perform, ends_bind]
      apply (answers.remove identity).mono
      intro outcome after kept
      cases outcome with
      | ok _ => exact fun _ => kept rfl
      | error cause =>
          intro never
          cases never

theorem performAll (answers : Answers descriptor.element.type changes live.core) (more : List Change) :
    Ends (performAll descriptor more) live fun outcome after => outcome = .ok () →
      Answers descriptor.element.type (changes ++ more) after.core := by
  induction more generalizing changes live with
  | nil =>
      rw [List.append_nil]
      exact fun _ => answers
  | cons change rest ih =>
      simp only [Indexed.performAll, ends_bind]
      apply (answers.perform change).mono
      intro outcome after answers'
      cases outcome with
      | error cause =>
          intro never
          cases never
      | ok _ =>
          rw [List.append_cons]
          exact ih (answers' rfl)

/-- A slot is in use exactly if the last change at its index wrote it. -/
theorem slot_iff {table : Indexed} {type : ElementType} (answers : Answers type changes table) (index : UInt32) :
    (∃ owner value, table.slots[index.toNat]? = some (some (owner, value))) ↔
      ∃ identity value, latest? index changes = some (.emplace identity value) := by
  constructor
  · rintro ⟨owner, value, found⟩
    have here : owner.index = index := UInt32.toNat_inj.mp (answers.counted.sound _ _ _ found).1
    subst here
    exact ⟨owner, value, (answers.holds owner value).mp (by simp [component, found])⟩
  · rintro ⟨identity, value, last⟩
    have here : identity.index = index := latest?_index last
    subst here
    exact ⟨identity, value, component_found ((answers.holds identity value).mpr last)⟩

end Answers

/-- The values that a sound table holds lie at indices of their own. -/
theorem held_eq_ncard {type : ElementType} {table : Indexed} (sound : table.Sound type) :
    table.held = {index : UInt32 | ∃ owner value, table.slots[index.toNat]? = some (some (owner, value))}.ncard := by
  have injective : Function.Injective UInt32.toNat := fun _ _ same => UInt32.toNat_inj.mp same
  rw [← Set.ncard_image_of_injective _ injective, held, values, length_filterMap_eq_card, ← Set.ncard_coe_finset]
  congr 1
  ext position
  simp only [Finset.coe_filter, Finset.mem_range, Set.mem_ofPred_eq, Set.mem_image, Array.getElem?_toList]
  constructor
  · rintro ⟨_, filled⟩
    cases found : table.slots[position]? with
    | none => simp [found] at filled
    | some slot =>
        cases slot with
        | none => simp [found] at filled
        | some entry =>
            have here := (sound _ _ _ found).1
            exact ⟨entry.1.index, ⟨entry.1, entry.2, here ▸ found⟩, here⟩
  · rintro ⟨index, ⟨owner, value, found⟩, rfl⟩
    exact ⟨(Array.getElem?_eq_some_iff.mp found).1, by simp [found]⟩

theorem component_putSlot_apart {table : Indexed} {index : Nat} {slot : Option (Identity × Value)}
    {other : Identity} (apart : other.index.toNat ≠ index) :
    (table.putSlot index slot).component other = table.component other := by
  unfold component putSlot
  rw [Array.getElem?_setIfInBounds_ne (Ne.symm apart)]

/-- A change at one index leaves what the table holds for identities with other indices alone. -/
theorem perform_apart (sound : live.core.Sound descriptor.element.type) (change : Change) {other : Identity}
    (apart : other.index ≠ change.identity.index) :
    Ends (change.perform descriptor) live fun _ after =>
      after.core.component other = live.core.component other := by
  have different : other ≠ change.identity := fun same => apart (congrArg Identity.index same)
  cases change with
  | emplace identity value =>
      apply (emplace_ends sound identity value).mono
      rintro outcome ⟨journal, table⟩ written
      cases written with
      | refused => rfl
      | stopped =>
          exact (component_vacate _ _ _).trans (if_neg fun same => apart (UInt32.toNat_inj.mp same))
      | stored => exact (component_store _ _ _ _).trans ((if_neg different).trans (if_neg apart))
  | remove identity =>
      simp only [Change.perform, ends_bind]
      apply (remove_ends sound identity).mono
      intro outcome after removed
      have spared : after.core.component other = live.core.component other := by
        generalize after.core = table at removed
        cases removed with
        | erased => exact (component_erase _ _ _).trans (if_neg different)
        | stopped => exact component_putSlot_apart fun same => apart (UInt32.toNat_inj.mp same)
      cases outcome <;> exact spared

/-- A removal tells whether there was a value, unless that value is not destroyed. -/
theorem remove_answer? (sound : live.core.Sound descriptor.element.type) (identity : Identity) :
    (Indexed.remove descriptor identity).answer? live =
      if (live.core.component identity).any fun value => (descriptor.element.retains value).isSome then none
      else some (live.core.component identity).isSome := by
  have decides := descriptor.disposal_isOk (live.core.component identity)
  unfold answer?
  cases ended : Indexed.remove descriptor identity live with
  | ok answer after =>
      have removed := (ends_of_ok ended).mp (remove_ends sound identity)
      generalize after.core = table at removed
      cases removed with
      | erased disposed =>
          rw [disposed] at decides
          rw [if_neg fun met => by rw [met] at decides; cases decides]
          rfl
  | error cause after =>
      have removed := (ends_of_error ended).mp (remove_ends sound identity)
      generalize after.core = table at removed
      cases removed with
      | stopped fails =>
          rw [fails] at decides
          rw [if_pos ((Bool.not_eq_false' _).mp decides.symm)]

end Runs

/-- A new table after changes that all succeeded. It holds a value for an identity exactly if the last change at
its index that took effect wrote this value for exactly this identity, and it counts the indices at which that
change was a write. A further change touches identities with its own index only. A removal tells whether the
table held something for its identity, unless it held a value that is not destroyed. -/
theorem table_answers_to_changes (descriptor : Descriptor) (journal : Journal) (changes : List Change)
    {live : Live Indexed} (succeeded : performAll descriptor changes ⟨journal, .empty⟩ = .ok () live) :
    (∀ identity value, live.core.component identity = some value ↔
      latest? identity.index changes = some (.emplace identity value)) ∧
    (∀ (change : Change) (other : Identity), other.index ≠ change.identity.index →
      ((change.perform descriptor).leaves live).core.component other = live.core.component other) ∧
    (∀ identity, (Indexed.remove descriptor identity).answer? live =
      if (live.core.component identity).any fun value => (descriptor.element.retains value).isSome then none
      else some (live.core.component identity).isSome) ∧
    live.core.size =
      {index : UInt32 | ∃ identity value, latest? index changes = some (.emplace identity value)}.ncard := by
  have answers : Answers descriptor.element.type ([] ++ changes) live.core :=
    (ends_of_ok succeeded).mp (Answers.performAll (.empty descriptor.element.type) changes) rfl
  rw [List.nil_append] at answers
  have sound := answers.counted.sound
  refine ⟨answers.holds, fun change other apart => ends_leaves.mp (perform_apart sound change apart),
    fun identity => ?_, ?_⟩
  · exact remove_answer? sound identity
  · rw [size, answers.counted.occupied, Nat.add_zero, held_eq_ncard sound]
    simp only [answers.slot_iff]

/-- A slot changes hands, is asked for by its former owner, and another is written and emptied. -/
def lodgings : List Change :=
  [.emplace ⟨3, 0⟩ (.uint32 1), .emplace ⟨3, 1⟩ (.uint32 2), .remove ⟨3, 0⟩, .emplace ⟨0, 5⟩ (.uint32 3),
   .remove ⟨0, 5⟩, .remove ⟨7, 0⟩]

theorem table_answers_to_changes_sample :
    ∃ live, performAll unlucky lodgings ⟨{}, .empty⟩ = .ok () live ∧
      live.core.component ⟨3, 1⟩ = some (.uint32 2) ∧
      (Indexed.remove unlucky ⟨0, 5⟩).answer? live = some (live.core.component ⟨0, 5⟩).isSome ∧
      {index : UInt32 | ∃ identity value, latest? index lodgings = some (.emplace identity value)}.ncard = 1 := by
  have succeeded : (performAll unlucky lodgings).answer? ⟨{}, .empty⟩ = some () := by decide +kernel
  have size : ((performAll unlucky lodgings).leaves ⟨{}, .empty⟩).core.size = 1 := by decide +kernel
  have destroyed (held : Option Value) :
      ¬held.any (fun value => (unlucky.element.retains value).isSome) = true := by
    cases held <;> simp [unlucky, Element.fragile, Element.plain]
  obtain ⟨holds, _, removes, counts⟩ := table_answers_to_changes unlucky {} lodgings (eq_ok_of_answer? succeeded)
  exact ⟨_, eq_ok_of_answer? succeeded, (holds ⟨3, 1⟩ (.uint32 2)).mpr rfl,
    (removes ⟨0, 5⟩).trans (if_neg (destroyed _)), counts.symm.trans size⟩

end EntityScene.Indexed
