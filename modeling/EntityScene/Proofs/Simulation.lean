import EntityScene.Proofs.Act

/-!
Two acts side by side. Acts on two states are alike if from related states they end with the same answer
or the same fault and again in related states; what relates the states after a fault may be weaker.
-/

namespace EntityScene.Act

variable {σ τ ρ π α β : Type}

/-- Two results are alike. -/
inductive Alike (related faulted : Live σ → Live τ → Prop) :
    EStateM.Result Fault (Live σ) α → EStateM.Result Fault (Live τ) α → Prop
  | ok {answer : α} {after : Live σ} {after' : Live τ} (kept : related after after') :
    Alike related faulted (.ok answer after) (.ok answer after')
  | error {cause : Fault} {after : Live σ} {after' : Live τ} (kept : faulted after after') :
    Alike related faulted (.error cause after) (.error cause after')

/-- From related states the two acts end alike. -/
def Similar (related faulted : Live σ → Live τ → Prop) (first : Act σ α) (second : Act τ α) : Prop :=
  ∀ live live', related live live' → Alike related faulted (first live) (second live')

section Results

variable {related related' faulted faulted' : Live σ → Live τ → Prop}

theorem Alike.bind {first : Act σ α} {second : Act τ α} {next : α → Act σ β} {next' : α → Act τ β}
    {live : Live σ} {live' : Live τ} (begun : Alike related faulted (first live) (second live'))
    (goes : ∀ answer after after', first live = .ok answer after → related after after' →
      Alike related' faulted (next answer after) (next' answer after')) :
    Alike related' faulted ((first >>= next) live) ((second >>= next') live') := by
  change Alike _ _ (EStateM.bind first next live) (EStateM.bind second next' live')
  unfold EStateM.bind
  generalize first live = result at begun goes
  generalize second live' = result' at begun
  cases begun with
  | ok kept => exact goes _ _ _ rfl kept
  | error kept => exact .error kept

theorem Alike.mono {result : EStateM.Result Fault (Live σ) α} {result' : EStateM.Result Fault (Live τ) α}
    (alike : Alike related faulted result result')
    (ok : ∀ live live', related live live' → related' live live')
    (error : ∀ live live', faulted live live' → faulted' live live') :
    Alike related' faulted' result result' := by
  cases alike with
  | ok kept => exact .ok (ok _ _ kept)
  | error kept => exact .error (error _ _ kept)

/-- An end like an answer is the same answer. -/
theorem Alike.exists_ok {result' : EStateM.Result Fault (Live τ) α} {answer : α} {after : Live σ}
    (alike : Alike related faulted (.ok answer after) result') :
    ∃ after', result' = .ok answer after' ∧ related after after' := by
  cases alike with
  | ok kept => exact ⟨_, rfl, kept⟩

/-- An end like a fault is the same fault. -/
theorem Alike.exists_error {result' : EStateM.Result Fault (Live τ) α} {cause : Fault} {after : Live σ}
    (alike : Alike related faulted (.error cause after) result') :
    ∃ after', result' = .error cause after' ∧ faulted after after' := by
  cases alike with
  | error kept => exact ⟨_, rfl, kept⟩

/-- Alike ends have the same outcome. -/
theorem Alike.ends {first : Act σ α} {second : Act τ α} {live : Live σ} {live' : Live τ}
    (alike : Alike related faulted (first live) (second live')) {condition : Except Fault α → Prop}
    (ends : Ends first live fun outcome _ => condition outcome) :
    Ends second live' fun outcome _ => condition outcome := by
  unfold Ends at ends ⊢
  generalize first live = result at alike ends
  generalize second live' = result' at alike
  cases alike with
  | ok _ => exact ends
  | error _ => exact ends

theorem Alike.leaves {first : Act σ α} {second : Act τ α} {live : Live σ} {live' : Live τ}
    (alike : Alike related related (first live) (second live')) :
    related (first.leaves live) (second.leaves live') := by
  unfold Act.leaves
  generalize first live = result at alike
  generalize second live' = result' at alike
  cases alike with
  | ok kept => exact kept
  | error kept => exact kept

theorem Alike.of_ends {first : Act σ α} {second : Act τ α} {live : Live σ} {live' : Live τ}
    (ends : Ends first live fun outcome after => Ends second live' fun outcome' after' =>
      outcome' = outcome ∧ (outcome.isOk = true → related after after') ∧
        (outcome.isOk = false → faulted after after')) :
    Alike related faulted (first live) (second live') := by
  unfold Ends at ends
  generalize first live = result at ends
  generalize second live' = result' at ends
  cases result with
  | ok answer after =>
      cases result' with
      | ok answer' after' =>
          obtain ⟨rfl⟩ := ends.1
          exact .ok (ends.2.1 rfl)
      | error cause after' => cases ends.1
  | error cause after =>
      cases result' with
      | ok answer' after' => cases ends.1
      | error cause' after' =>
          obtain ⟨rfl⟩ := ends.1
          exact .error (ends.2.2 rfl)

/-- What is known of either end may be added. -/
theorem Alike.with_ends {first : Act σ α} {second : Act τ α} {live : Live σ} {live' : Live τ}
    (alike : Alike related faulted (first live) (second live')) {held : Live σ → Prop} {held' : Live τ → Prop}
    (ends : Ends first live fun _ after => held after) (ends' : Ends second live' fun _ after => held' after) :
    Alike (fun after after' => related after after' ∧ held after ∧ held' after')
      (fun after after' => faulted after after' ∧ held after ∧ held' after') (first live) (second live') := by
  unfold Ends at ends ends'
  generalize first live = result at alike ends
  generalize second live' = result' at alike ends'
  cases alike with
  | ok kept => exact .ok ⟨kept, ends, ends'⟩
  | error kept => exact .error ⟨kept, ends, ends'⟩

theorem Alike.focus {inner innerFaulted : Live ρ → Live π → Prop} {part : σ → ρ} {put : ρ → σ → σ}
    {part' : τ → π} {put' : π → τ → τ} {first : Act ρ α} {second : Act π α} {live : Live σ} {live' : Live τ}
    (alike : Alike inner innerFaulted (first ⟨live.journal, part live.core⟩)
      (second ⟨live'.journal, part' live'.core⟩))
    (ok : ∀ after after', inner after after' →
      related ⟨after.journal, put after.core live.core⟩ ⟨after'.journal, put' after'.core live'.core⟩)
    (error : ∀ after after', innerFaulted after after' →
      faulted ⟨after.journal, put after.core live.core⟩ ⟨after'.journal, put' after'.core live'.core⟩) :
    Alike related faulted (Act.focus part put first live) (Act.focus part' put' second live') := by
  unfold Act.focus
  generalize first ⟨live.journal, part live.core⟩ = result at alike
  generalize second ⟨live'.journal, part' live'.core⟩ = result' at alike
  cases alike with
  | ok inside => exact .ok (ok _ _ inside)
  | error inside => exact .error (error _ _ inside)

theorem Alike.ensuring {first : Act σ α} {second : Act τ α} {clean : Act σ Unit} {clean' : Act τ Unit}
    {live : Live σ} {live' : Live τ} (alike : Alike related related (first live) (second live'))
    (cleans : ∀ after after', related after after' → Alike related' related' (clean after) (clean' after')) :
    Alike related' related' (Act.ensuring first clean live) (Act.ensuring second clean' live') := by
  unfold Act.ensuring
  generalize first live = result at alike
  generalize second live' = result' at alike
  cases alike with
  | @ok answer after after' kept =>
      have cleaned := cleans after after' kept
      dsimp only
      generalize clean after = result at cleaned
      generalize clean' after' = result' at cleaned
      cases cleaned with
      | ok kept => exact .ok kept
      | error kept => exact .error kept
  | @error cause after after' kept =>
      have cleaned := cleans after after' kept
      dsimp only
      generalize clean after = result at cleaned
      generalize clean' after' = result' at cleaned
      cases cleaned with
      | ok kept => exact .error kept
      | error kept => exact .error kept

end Results

namespace Similar

variable {related faulted : Live σ → Live τ → Prop}

theorem pure (answer : α) :
    Similar related faulted (Pure.pure answer : Act σ α) (Pure.pure answer : Act τ α) :=
  fun _ _ kept => .ok kept

theorem fault (cause : Fault) (weaken : ∀ live live', related live live' → faulted live live') :
    Similar related faulted (Act.fault cause : Act σ α) (Act.fault cause : Act τ α) :=
  fun _ _ kept => .error (weaken _ _ kept)

theorem ofExcept (outcome : Except Fault α)
    (weaken : ∀ live live', related live live' → faulted live live') :
    Similar related faulted (Act.ofExcept outcome : Act σ α) (Act.ofExcept outcome : Act τ α) := by
  cases outcome with
  | ok answer => exact pure answer
  | error cause => exact fault cause weaken

theorem bind {first : Act σ α} {second : Act τ α} {next : α → Act σ β} {next' : α → Act τ β}
    (begun : Similar related faulted first second)
    (goes : ∀ answer, Similar related faulted (next answer) (next' answer)) :
    Similar related faulted (first >>= next) (second >>= next') :=
  fun live live' kept => (begun live live' kept).bind fun answer after after' _ kept' =>
    goes answer after after' kept'

/-- The rest of two acts may depend on the states that they read. -/
theorem bind_core {next : σ → Act σ β} {next' : τ → Act τ β}
    (goes : ∀ live live', related live live' →
      Alike related faulted (next live.core live) (next' live'.core live')) :
    Similar related faulted (core >>= next) (core >>= next') :=
  fun live live' kept => goes live live' kept

theorem update {change : σ → σ} {change' : τ → τ}
    (kept : ∀ live live', related live live' →
      related ⟨live.journal, change live.core⟩ ⟨live'.journal, change' live'.core⟩) :
    Similar related faulted (Act.update change) (Act.update change') :=
  fun live live' holds => .ok (kept live live' holds)

theorem ensuring {first : Act σ α} {second : Act τ α} {clean : Act σ Unit} {clean' : Act τ Unit}
    (begun : Similar related related first second) (cleans : Similar related related clean clean') :
    Similar related related (Act.ensuring first clean) (Act.ensuring second clean') :=
  fun live live' kept => (begun live live' kept).ensuring cleans

end Similar

/-- The two acts end alike unless the first one ends spoilt. -/
def Parallel (spoilt : Except Fault α → Live σ → Prop) (related faulted : Live σ → Live τ → Prop)
    (first : Act σ α) (second : Act τ α) (live : Live σ) (live' : Live τ) : Prop :=
  Ends first live spoilt ∨ Alike related faulted (first live) (second live')

theorem Parallel.congr {spoilt : Except Fault α → Live σ → Prop} {related faulted : Live σ → Live τ → Prop}
    {first other : Act σ α} {second other' : Act τ α} {live start : Live σ} {live' start' : Live τ}
    (same : first live = other start) (same' : second live' = other' start')
    (parallel : Parallel spoilt related faulted other other' start start') :
    Parallel spoilt related faulted first second live live' := by
  unfold Parallel at parallel ⊢
  rw [ends_congr same, same, same']
  exact parallel

theorem Parallel.bind_core {spoilt : Except Fault α → Live σ → Prop} {related faulted : Live σ → Live τ → Prop}
    {next : σ → Act σ α} {next' : τ → Act τ α} {live : Live σ} {live' : Live τ}
    (goes : Parallel spoilt related faulted (next live.core) (next' live'.core) live live') :
    Parallel spoilt related faulted (core >>= next) (core >>= next') live live' :=
  .congr rfl rfl goes

theorem Parallel.bind_ofExcept {spoilt : Except Fault β → Live σ → Prop}
    {related faulted : Live σ → Live τ → Prop} {outcome : Except Fault α} {next : α → Act σ β}
    {next' : α → Act τ β} {live : Live σ} {live' : Live τ} (fails : faulted live live')
    (goes : ∀ answer, Parallel spoilt related faulted (next answer) (next' answer) live live') :
    Parallel spoilt related faulted (Act.ofExcept outcome >>= next) (Act.ofExcept outcome >>= next')
      live live' := by
  cases outcome with
  | ok answer => exact .congr rfl rfl (goes answer)
  | error cause => exact Or.inr (.error fails)

/-- What spoils the first part must spoil the whole. -/
theorem Parallel.bind {spoilt : Except Fault α → Live σ → Prop} {spoilt' : Except Fault β → Live σ → Prop}
    {related related' faulted : Live σ → Live τ → Prop} {first : Act σ α} {second : Act τ α}
    {next : α → Act σ β} {next' : α → Act τ β} {live : Live σ} {live' : Live τ}
    (begun : Parallel spoilt related faulted first second live live')
    (spoils : Ends first live fun outcome after =>
      spoilt outcome after → Continues next spoilt' outcome after)
    (goes : ∀ answer after after', first live = .ok answer after → second live' = .ok answer after' →
      related after after' → Parallel spoilt' related' faulted (next answer) (next' answer) after after') :
    Parallel spoilt' related' faulted (first >>= next) (second >>= next') live live' := by
  unfold Parallel at begun ⊢
  rw [ends_bind]
  change _ ∨ Alike _ _ (EStateM.bind first next live) (EStateM.bind second next' live')
  unfold Ends EStateM.bind at *
  generalize first live = result at begun spoils goes
  generalize second live' = result' at begun goes
  rcases begun with spoilt | alike
  · cases result with
    | ok answer after => exact Or.inl (spoils spoilt)
    | error cause after => exact Or.inl (spoils spoilt)
  · cases alike with
    | ok kept => exact goes _ _ _ rfl rfl kept
    | error kept => exact Or.inr (.error kept)

/-- The second state is an image of the first one, with the same journal. -/
def Image (change : σ → τ) (first : Live σ) (second : Live τ) : Prop :=
  second = ⟨first.journal, change first.core⟩

/-- The second act does to the image of a state what the first one does to the state. -/
abbrev Projects (change : σ → τ) (first : Act σ α) (second : Act τ α) : Prop :=
  Similar (Image change) (Image change) first second

namespace Projects

variable {change : σ → τ}

theorem refl (act : Act σ α) : Projects id act act := by
  rintro live _ rfl
  change Alike _ _ (act live) (act live)
  cases act live with
  | ok => exact .ok rfl
  | error => exact .error rfl

theorem ofExcept (outcome : Except Fault α) :
    Projects change (Act.ofExcept outcome : Act σ α) (Act.ofExcept outcome : Act τ α) :=
  Similar.ofExcept outcome fun _ _ kept => kept

theorem bind_core {next : σ → Act σ β} {next' : τ → Act τ β}
    (goes : ∀ state, Projects change (next state) (next' (change state))) :
    Projects change (core >>= next) (core >>= next') := by
  refine Similar.bind_core ?_
  rintro live _ rfl
  exact goes live.core live _ rfl

theorem update {first : σ → σ} {second : τ → τ} (same : ∀ state, change (first state) = second (change state)) :
    Projects change (Act.update first) (Act.update second) := by
  refine Similar.update ?_
  rintro live _ rfl
  simp only [Image, same]

theorem log (level : LogLevel) (text : String) :
    Projects change (Act.log level text) (Act.log level text) := by
  rintro live _ rfl
  exact .ok rfl

/-- Acts on parts project if the parts and the ways to put them back do. -/
theorem focus {part : σ → ρ} {put : ρ → σ → σ} {part' : τ → π} {put' : π → τ → τ} {inner : ρ → π}
    {first : Act ρ α} {second : Act π α} (projects : Projects inner first second)
    (parts : ∀ state, part' (change state) = inner (part state))
    (puts : ∀ piece state, change (put piece state) = put' (inner piece) (change state)) :
    Projects change (Act.focus part put first) (Act.focus part' put' second) := by
  rintro live _ rfl
  have alike := projects ⟨live.journal, part live.core⟩ _ rfl
  unfold Act.focus
  dsimp only
  rw [parts]
  generalize first ⟨live.journal, part live.core⟩ = result at alike
  generalize second ⟨live.journal, inner (part live.core)⟩ = result' at alike
  cases alike with
  | ok kept =>
      cases kept
      exact .ok (by simp only [Image, puts])
  | error kept =>
      cases kept
      exact .error (by simp only [Image, puts])

theorem span {name : String} {arguments : List (String × Trace.Argument)} {first : Act σ α}
    {second : Act τ α} (projects : Projects change first second) :
    Projects change (Act.span name arguments first) (Act.span name arguments second) := by
  rintro live _ rfl
  have alike := projects
    { live with journal.recorder := (live.journal.recorder.enter live.journal.thread name).2 } _ rfl
  unfold Act.span
  dsimp only at alike ⊢
  revert alike
  generalize first _ = result
  generalize second _ = result'
  intro alike
  cases alike with
  | ok kept =>
      cases kept
      exact .ok rfl
  | error kept =>
      cases kept
      exact .error rfl

/-- What is known of the end of the one act is known of the end of the other. -/
theorem ends {change : σ → τ} {first : Act σ α} {second : Act τ α} (projects : Projects change first second)
    {journal : Journal} {state : σ} {post : Except Fault α → Live τ → Prop}
    (ends : Ends first ⟨journal, state⟩ fun outcome after =>
      post outcome ⟨after.journal, change after.core⟩) :
    Ends second ⟨journal, change state⟩ post := by
  have alike := projects ⟨journal, state⟩ _ rfl
  unfold Ends at ends ⊢
  generalize first ⟨journal, state⟩ = result at alike ends
  generalize second ⟨journal, change state⟩ = result' at alike
  cases alike with
  | ok kept =>
      cases kept
      exact ends
  | error kept =>
      cases kept
      exact ends

end Projects

end EntityScene.Act
