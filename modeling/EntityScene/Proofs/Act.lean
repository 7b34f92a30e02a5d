import EntityScene.Act

/-!
How acts end. A condition on the outcome and on the state left is pushed backwards through an act, one
rule per operation, and an invariant of the state is carried through an act whatever its outcome.
-/

namespace EntityScene.Act

variable {σ τ α β : Type}

/-- The act begun at `live` ends with an outcome and a state that satisfy the condition. -/
def Ends (act : Act σ α) (live : Live σ) (post : Except Fault α → Live σ → Prop) : Prop :=
  match act live with
  | .ok answer after => post (.ok answer) after
  | .error cause after => post (.error cause) after

/-- The state that an act leaves, with an answer or with a fault. -/
def leaves (act : Act σ α) (live : Live σ) : Live σ :=
  match act live with
  | .ok _ after => after
  | .error _ after => after

/-- The answer of an act that ends with one. -/
def answer? (act : Act σ α) (live : Live σ) : Option α :=
  match act live with
  | .ok answer _ => some answer
  | .error _ _ => none

/-- The fault of an act that ends with one. -/
def fault? (act : Act σ α) (live : Live σ) : Option Fault :=
  match act live with
  | .ok _ _ => none
  | .error cause _ => some cause

theorem fault?_of_error {act : Act σ α} {live after : Live σ} {cause : Fault}
    (ended : act live = .error cause after) : act.fault? live = some cause := by
  simp only [fault?, ended]

theorem eq_ok_of_answer? {act : Act σ α} {live : Live σ} {answer : α}
    (ended : act.answer? live = some answer) : act live = .ok answer (act.leaves live) := by
  unfold answer? at ended
  unfold leaves
  cases result : act live with
  | ok other after =>
      rw [result] at ended
      rw [Option.some.inj ended]
  | error cause after =>
      rw [result] at ended
      cases ended

theorem eq_error_of_fault? {act : Act σ α} {live : Live σ} {cause : Fault}
    (ended : act.fault? live = some cause) : act live = .error cause (act.leaves live) := by
  unfold fault? at ended
  unfold leaves
  cases result : act live with
  | ok other after =>
      rw [result] at ended
      cases ended
  | error other after =>
      rw [result] at ended
      rw [Option.some.inj ended]

theorem exists_ok_of_fault? {act : Act σ α} {live : Live σ} (ended : act.fault? live = none) :
    ∃ answer, act live = .ok answer (act.leaves live) := by
  unfold fault? at ended
  unfold leaves
  cases result : act live with
  | ok answer after => exact ⟨answer, rfl⟩
  | error cause after =>
      rw [result] at ended
      cases ended

theorem leaves_of_ok {act : Act σ α} {live after : Live σ} {answer : α} (ended : act live = .ok answer after) :
    act.leaves live = after := by
  unfold leaves
  rw [ended]

theorem span_congr {name : String} {arguments : List (String × Trace.Argument)} {act other : Act σ α}
    {live : Live σ} (same : ∀ journal, act ⟨journal, live.core⟩ = other ⟨journal, live.core⟩) :
    span name arguments act live = span name arguments other live := by
  unfold span
  dsimp only
  rw [same]

theorem bind_of_ok {act : Act σ α} {next : α → Act σ β} {live after : Live σ} {answer : α}
    (ended : act live = .ok answer after) : (act >>= next) live = next answer after := by
  change EStateM.bind act next live = _
  unfold EStateM.bind
  rw [ended]

theorem bind_of_error {act : Act σ α} {next : α → Act σ β} {live after : Live σ} {cause : Fault}
    (ended : act live = .error cause after) : (act >>= next) live = .error cause after := by
  change EStateM.bind act next live = _
  unfold EStateM.bind
  rw [ended]

/-- The rest of an act matters only where the act leads. -/
theorem bind_congr_ok {act : Act σ α} {next next' : α → Act σ β} {live : Live σ}
    (same : ∀ answer after, act live = .ok answer after → next answer after = next' answer after) :
    (act >>= next) live = (act >>= next') live := by
  cases ended : act live with
  | ok answer after => rw [bind_of_ok ended, bind_of_ok ended, same answer after ended]
  | error cause after => rw [bind_of_error ended, bind_of_error ended]

theorem bind_congr_left {act other : Act σ α} {next : α → Act σ β} {live : Live σ} (same : act live = other live) :
    (act >>= next) live = (other >>= next) live := by
  cases ended : other live with
  | ok answer after => rw [bind_of_ok ended, bind_of_ok (same.trans ended)]
  | error cause after => rw [bind_of_error ended, bind_of_error (same.trans ended)]

section Parts

variable {part : σ → τ} {put : τ → σ → σ} {act : Act τ α} {live : Live σ} {after : Live τ}

theorem focus_of_ok {answer : α} (ended : act ⟨live.journal, part live.core⟩ = .ok answer after) :
    focus part put act live = .ok answer ⟨after.journal, put after.core live.core⟩ := by
  rw [focus, ended]

theorem focus_of_error {cause : Fault} (ended : act ⟨live.journal, part live.core⟩ = .error cause after) :
    focus part put act live = .error cause ⟨after.journal, put after.core live.core⟩ := by
  rw [focus, ended]

/-- An answer may be changed inside of a part or outside. -/
theorem focus_answer {other : Act τ β} {answer : β} (same : other ⟨live.journal, part live.core⟩ =
      (act >>= fun _ => pure answer) ⟨live.journal, part live.core⟩) :
    focus part put other live = (focus part put act >>= fun _ => pure answer) live := by
  cases ended : act ⟨live.journal, part live.core⟩ with
  | ok _ after =>
      rw [bind_of_ok ended] at same
      rw [focus_of_ok same, bind_of_ok (focus_of_ok ended)]
      rfl
  | error cause after =>
      rw [bind_of_error ended] at same
      rw [focus_of_error same, bind_of_error (focus_of_error ended)]

end Parts

/-- A condition on the rest of an act: the rest runs after an answer and is left out after a fault. -/
def Continues (next : α → Act σ β) (post : Except Fault β → Live σ → Prop) :
    Except Fault α → Live σ → Prop
  | .ok answer, after => Ends (next answer) after post
  | .error cause, after => post (.error cause) after

@[simp] theorem continues_ok (next : α → Act σ β) (post : Except Fault β → Live σ → Prop)
    (answer : α) (after : Live σ) :
    Continues next post (.ok answer) after = Ends (next answer) after post := rfl

@[simp] theorem continues_error (next : α → Act σ β) (post : Except Fault β → Live σ → Prop)
    (cause : Fault) (after : Live σ) :
    Continues next post (.error cause) after = post (.error cause) after := rfl

section Rules

variable {live : Live σ} {post : Except Fault α → Live σ → Prop}

theorem ends_leaves {act : Act σ α} {condition : Live σ → Prop} :
    Ends act live (fun _ after => condition after) ↔ condition (act.leaves live) := by
  unfold Ends leaves
  cases act live <;> rfl

theorem ends_at_leaves {act : Act σ α} :
    Ends act live post ↔ Ends act live fun outcome _ => post outcome (act.leaves live) := by
  unfold Ends leaves
  cases act live <;> rfl

/-- What holds when the act ends holds of one outcome and of what the act leaves. -/
theorem Ends.exists_outcome {act : Act σ α} (ends : Ends act live post) :
    ∃ outcome, (∀ answer, outcome = .ok answer → act.answer? live = some answer) ∧
      (∀ cause, outcome = .error cause → act.fault? live = some cause) ∧ post outcome (act.leaves live) := by
  unfold Ends at ends
  unfold answer? fault? leaves
  cases ended : act live with
  | ok answer after =>
      rw [ended] at ends
      exact ⟨.ok answer, fun _ same => congrArg some (Except.ok.inj same), by rintro _ ⟨⟩, ends⟩
  | error cause after =>
      rw [ended] at ends
      exact ⟨.error cause, by rintro _ ⟨⟩, fun _ same => congrArg some (Except.error.inj same), ends⟩

theorem ends_congr {act other : Act σ α} {start : Live σ} (same : act live = other start) :
    Ends act live post ↔ Ends other start post := by
  unfold Ends
  rw [same]

theorem ends_isOk (act : Act σ α) (live : Live σ) :
    Ends act live fun outcome _ => outcome.isOk = (act.fault? live).isNone := by
  unfold Ends fault?
  cases act live <;> rfl

theorem Ends.of_forall {act : Act σ α} (holds : ∀ outcome after, post outcome after) : Ends act live post := by
  unfold Ends
  cases act live <;> exact holds _ _

theorem ends_of_ok {act : Act σ α} {answer : α} {after : Live σ} (ended : act live = .ok answer after) :
    Ends act live post ↔ post (.ok answer) after := by
  simp only [Ends, ended]

theorem ends_of_error {act : Act σ α} {cause : Fault} {after : Live σ}
    (ended : act live = .error cause after) : Ends act live post ↔ post (.error cause) after := by
  simp only [Ends, ended]

theorem bind_eq_ok {act : Act σ α} {next : α → Act σ β} {answer : β} {after : Live σ}
    (ended : (act >>= next) live = .ok answer after) :
    ∃ middle between, act live = .ok middle between ∧ next middle between = .ok answer after := by
  change EStateM.bind act next live = _ at ended
  unfold EStateM.bind at ended
  cases first : act live with
  | ok middle between =>
      rw [first] at ended
      exact ⟨middle, between, rfl, ended⟩
  | error cause between =>
      rw [first] at ended
      cases ended

theorem ofExcept_eq_ok {outcome : Except Fault α} {answer : α} {after : Live σ}
    (ended : (Act.ofExcept outcome : Act σ α) live = .ok answer after) : outcome = .ok answer ∧ after = live := by
  cases outcome with
  | ok _ =>
      cases ended
      exact ⟨rfl, rfl⟩
  | error cause => cases ended

theorem eq_ok_of_ends {act : Act σ α} {answer : α} {condition : Live σ → Prop}
    (ends : Ends act live fun outcome after => outcome = .ok answer ∧ condition after) :
    ∃ after, act live = .ok answer after ∧ condition after := by
  unfold Ends at ends
  cases ended : act live with
  | ok other after =>
      rw [ended] at ends
      rw [Except.ok.inj ends.1]
      exact ⟨after, rfl, ends.2⟩
  | error cause after =>
      rw [ended] at ends
      cases ends.1

theorem eq_error_of_ends {act : Act σ α} {cause : Fault} {condition : Live σ → Prop}
    (ends : Ends act live fun outcome after => outcome = .error cause ∧ condition after) :
    ∃ after, act live = .error cause after ∧ condition after := by
  unfold Ends at ends
  cases ended : act live with
  | ok other after =>
      rw [ended] at ends
      cases ends.1
  | error other after =>
      rw [ended] at ends
      rw [Except.error.inj ends.1]
      exact ⟨after, rfl, ends.2⟩

theorem Ends.mono {act : Act σ α} {weaker : Except Fault α → Live σ → Prop}
    (ends : Ends act live post) (implies : ∀ outcome after, post outcome after → weaker outcome after) :
    Ends act live weaker := by
  unfold Ends at ends ⊢
  cases ended : act live with
  | ok answer after =>
    rw [ended] at ends
    exact implies _ _ ends
  | error cause after =>
    rw [ended] at ends
    exact implies _ _ ends

theorem Ends.and {act : Act σ α} {other : Except Fault α → Live σ → Prop}
    (first : Ends act live post) (second : Ends act live other) :
    Ends act live fun outcome after => post outcome after ∧ other outcome after := by
  unfold Ends at first second ⊢
  cases ended : act live with
  | ok answer after =>
    rw [ended] at first second
    exact ⟨first, second⟩
  | error cause after =>
    rw [ended] at first second
    exact ⟨first, second⟩

@[simp] theorem ends_pure (answer : α) : Ends (pure answer) live post ↔ post (.ok answer) live := Iff.rfl

@[simp] theorem ends_bind {post : Except Fault β → Live σ → Prop} (act : Act σ α) (next : α → Act σ β) :
    Ends (act >>= next) live post ↔ Ends act live (Continues next post) := by
  unfold Ends
  simp only [bind, EStateM.bind]
  cases act live <;> rfl

@[simp] theorem ends_core {post : Except Fault σ → Live σ → Prop} :
    Ends core live post ↔ post (.ok live.core) live := Iff.rfl

@[simp] theorem ends_setCore {post : Except Fault Unit → Live σ → Prop} (core : σ) :
    Ends (setCore core) live post ↔ post (.ok ()) ⟨live.journal, core⟩ := Iff.rfl

@[simp] theorem ends_update {post : Except Fault Unit → Live σ → Prop} (change : σ → σ) :
    Ends (update change) live post ↔ post (.ok ()) ⟨live.journal, change live.core⟩ := Iff.rfl

@[simp] theorem ends_fault (cause : Fault) :
    Ends (fault cause) live post ↔ post (.error cause) live := Iff.rfl

@[simp] theorem ends_ofExcept (outcome : Except Fault α) :
    Ends (ofExcept outcome) live post ↔ post outcome live := by
  cases outcome <;> rfl

theorem ends_log {post : Except Fault Unit → Live σ → Prop} (level : LogLevel) (text : String) :
    Ends (log level text) live post ↔
      post (.ok ()) { live with journal.logs := ⟨level, text⟩ :: live.journal.logs } := Iff.rfl

theorem ends_enter {post : Except Fault Unit → Live σ → Prop} (resource : ResourceId)
    (event : Lifecycle) :
    Ends (enter resource event) live post ↔
      post (.ok ()) { live with journal.ledger := ⟨resource, event⟩ :: live.journal.ledger } := Iff.rfl

@[simp] theorem ends_attempt {act : Act σ α} {post : Except Fault (Except Fault α) → Live σ → Prop} :
    Ends (attempt act) live post ↔ Ends act live fun outcome after => post (.ok outcome) after := by
  unfold Ends attempt
  cases act live <;> rfl

@[simp] theorem ends_focus {part : σ → τ} {put : τ → σ → σ} {act : Act τ α} :
    Ends (focus part put act) live post ↔
      Ends act ⟨live.journal, part live.core⟩ fun outcome after =>
        post outcome ⟨after.journal, put after.core live.core⟩ := by
  unfold Ends focus
  cases act ⟨live.journal, part live.core⟩ <;> rfl

/-- The outcome of an act that was cleaned up after. -/
def cleaned : Except Fault α → Except Fault Unit → Except Fault α
  | .ok answer, .ok _ => .ok answer
  | .ok _, .error cause => .error cause
  | .error cause, .ok _ => .error cause
  | .error _, .error _ => .error .aborted

theorem ends_ensuring {act : Act σ α} {clean : Act σ Unit} :
    Ends (ensuring act clean) live post ↔
      Ends act live fun outcome after => Ends clean after fun ending final =>
        post (cleaned outcome ending) final := by
  unfold Ends ensuring
  cases act live with
  | ok answer after => cases h : clean after <;> simp only [h] <;> rfl
  | error cause after => cases h : clean after <;> simp only [h] <;> rfl

/-- The fault of an act that is cleaned up after a fault. -/
def interrupted (cause : Fault) : Except Fault Unit → Fault
  | .ok _ => cause
  | .error _ => .aborted

theorem cleaned_error (cause : Fault) (ending : Except Fault Unit) :
    cleaned (.error cause : Except Fault α) ending = .error (interrupted cause ending) := by
  cases ending <;> rfl

theorem ends_fault_ensuring {cause : Fault} {clean : Act σ Unit} :
    Ends (ensuring (fault cause) clean) live post ↔
      Ends clean live fun ending final => post (.error (interrupted cause ending)) final := by
  rw [ends_ensuring]
  change Ends clean live (fun ending final => post (cleaned (.error cause) ending) final) ↔ _
  simp only [cleaned_error]

theorem ends_span {name : String} {arguments : List (String × Trace.Argument)} {act : Act σ α} :
    Ends (span name arguments act) live post ↔
      Ends act { live with journal.recorder := (live.journal.recorder.enter live.journal.thread name).2 }
        fun outcome after =>
          post outcome
            { after with
              journal.recorder := after.journal.recorder.leave
                ((live.journal.recorder.enter live.journal.thread name).1.withArgs arguments) } := by
  unfold Ends span
  dsimp only
  cases act { live with
    journal.recorder := (live.journal.recorder.enter live.journal.thread name).2 } <;> rfl

end Rules

/-- The act keeps an invariant of the state, whatever its outcome. -/
def Keeps (invariant : σ → Prop) (act : Act σ α) : Prop :=
  ∀ live, invariant live.core → Ends act live fun _ after => invariant after.core

namespace Keeps

variable {invariant : σ → Prop}

theorem leaves {act : Act σ α} (keeps : Keeps invariant act) {live : Live σ}
    (holds : invariant live.core) : invariant (act.leaves live).core :=
  ends_leaves.mp (keeps live holds)

theorem pure (answer : α) : Keeps invariant (Pure.pure answer : Act σ α) := fun _ holds => holds

theorem fault (cause : Fault) : Keeps invariant (Act.fault cause : Act σ α) := fun _ holds => holds

theorem log (level : LogLevel) (text : String) : Keeps invariant (Act.log level text) :=
  fun _ holds => holds

theorem enter (resource : ResourceId) (event : Lifecycle) : Keeps invariant (Act.enter resource event) :=
  fun _ holds => holds

theorem ofExcept (outcome : Except Fault α) : Keeps invariant (Act.ofExcept outcome : Act σ α) := by
  intro live holds
  rw [ends_ofExcept]
  exact holds

theorem update {change : σ → σ} (kept : ∀ state, invariant state → invariant (change state)) :
    Keeps invariant (Act.update change) := fun live holds => kept live.core holds

theorem bind {act : Act σ α} {next : α → Act σ β} (first : Keeps invariant act)
    (rest : ∀ answer, Keeps invariant (next answer)) : Keeps invariant (act >>= next) := by
  intro live holds
  rw [ends_bind]
  refine (first live holds).mono ?_
  intro outcome after kept
  cases outcome with
  | ok answer => exact rest answer after kept
  | error cause => exact kept

/-- The rest of an act may use that it has read a state with the invariant. -/
theorem bind_core {next : σ → Act σ β} (rest : ∀ state, invariant state → Keeps invariant (next state)) :
    Keeps invariant (core >>= next) := by
  intro live holds
  rw [ends_bind, ends_core]
  exact rest live.core holds live holds

/-- The rest of an act may use that it has read an answer. -/
theorem bind_ofExcept {outcome : Except Fault α} {next : α → Act σ β}
    (rest : ∀ answer, outcome = .ok answer → Keeps invariant (next answer)) :
    Keeps invariant (Act.ofExcept outcome >>= next) := by
  intro live holds
  rw [ends_bind, ends_ofExcept]
  cases outcome with
  | ok answer => exact rest answer rfl live holds
  | error cause => exact holds

theorem focus {part : σ → τ} {put : τ → σ → σ} {act : Act τ α} (inner : σ → τ → Prop)
    (enters : ∀ state, invariant state → inner state (part state))
    (keeps : ∀ state, invariant state → Keeps (inner state) act)
    (exits : ∀ state changed, invariant state → inner state changed → invariant (put changed state)) :
    Keeps invariant (Act.focus part put act) := by
  intro live holds
  rw [ends_focus]
  refine (keeps live.core holds _ (enters live.core holds)).mono ?_
  intro _ after kept
  exact exits live.core after.core holds kept

theorem ensuring {act : Act σ α} {clean : Act σ Unit} (keeps : Keeps invariant act)
    (cleans : Keeps invariant clean) : Keeps invariant (Act.ensuring act clean) := by
  intro live holds
  rw [ends_ensuring]
  exact (keeps live holds).mono fun _ after kept => cleans after kept

theorem span {name : String} {arguments : List (String × Trace.Argument)} {act : Act σ α}
    (keeps : Keeps invariant act) : Keeps invariant (Act.span name arguments act) := by
  intro live holds
  rw [ends_span]
  exact keeps _ holds

end Keeps

end EntityScene.Act
