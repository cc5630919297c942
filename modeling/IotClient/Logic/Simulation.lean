import IotClient.Logic.Program

namespace IotClient.Logic

variable {ε σ τ α β γ δ : Type}

/-- Two runs end alike: both return, with results and states that correspond, or both raise the same fault. -/
def Agree (returned : α → σ → β → τ → Prop) (faulted : σ → τ → Prop) :
    EStateM.Result ε σ α → EStateM.Result ε τ β → Prop
  | .ok first before, .ok second after => returned first before second after
  | .error first before, .error second after => first = second ∧ faulted before after
  | _, _ => False

namespace Agree

variable {returned : α → σ → β → τ → Prop} {faulted : σ → τ → Prop} {s : σ} {t : τ}

protected theorem bind {first : EStateM ε σ α} {second : EStateM ε τ β} {rest : α → EStateM ε σ γ}
    {rest' : β → EStateM ε τ δ} {finally' : γ → σ → δ → τ → Prop} (agree : Agree returned faulted (first s) (second t))
    (continued : ∀ value between value' between', returned value between value' between' →
      Agree finally' faulted (rest value between) (rest' value' between')) :
    Agree finally' faulted ((first >>= rest) s) ((second >>= rest') t) := by
  show Agree finally' faulted (EStateM.bind first rest s) (EStateM.bind second rest' t)
  unfold EStateM.bind
  cases run : first s with
  | ok value between =>
      cases run' : second t with
      | ok value' between' =>
          rw [run, run'] at agree
          exact continued value between value' between' agree
      | error fault' between' => simp [run, run', Agree] at agree
  | error fault between =>
      cases run' : second t with
      | ok value' between' => simp [run, run', Agree] at agree
      | error fault' between' =>
          rw [run, run'] at agree
          exact agree

protected theorem tryCatch {first : EStateM ε σ α} {second : EStateM ε τ β} {handler : ε → EStateM ε σ α}
    {handler' : ε → EStateM ε τ β} {raised : σ → τ → Prop} (agree : Agree returned raised (first s) (second t))
    (caught : ∀ fault between between', raised between between' →
      Agree returned faulted (handler fault between) (handler' fault between')) :
    Agree returned faulted (tryCatch first handler s) (tryCatch second handler' t) := by
  show Agree returned faulted (EStateM.tryCatch first handler s) (EStateM.tryCatch second handler' t)
  unfold EStateM.tryCatch
  cases run : first s with
  | ok value between =>
      cases run' : second t with
      | ok value' between' =>
          rw [run, run'] at agree
          exact agree
      | error fault' between' => simp [run, run', Agree] at agree
  | error fault between =>
      cases run' : second t with
      | ok value' between' => simp [run, run', Agree] at agree
      | error fault' between' =>
          rw [run, run'] at agree
          obtain ⟨rfl, related⟩ := agree
          exact caught fault between between' related

theorem weaken {returned' : α → σ → β → τ → Prop} {faulted' : σ → τ → Prop} {first : EStateM.Result ε σ α}
    {second : EStateM.Result ε τ β} (agree : Agree returned faulted first second)
    (returns : ∀ value between value' between', returned value between value' between' →
      returned' value between value' between')
    (faults : ∀ between between', faulted between between' → faulted' between between') :
    Agree returned' faulted' first second := by
  cases first with
  | ok value between =>
      cases second with
      | ok value' between' => exact returns value between value' between' agree
      | error fault' between' => exact agree
  | error fault between =>
      cases second with
      | ok value' between' => exact agree
      | error fault' between' => exact ⟨agree.1, faults between between' agree.2⟩

theorem last {related : σ → τ → Prop} {first : EStateM.Result ε σ α} {second : EStateM.Result ε τ β}
    (agree : Agree (fun _ s _ t => related s t) related first second) : related (last first) (last second) := by
  cases first with
  | ok value between =>
      cases second with
      | ok value' between' => exact agree
      | error fault' between' => exact agree.elim
  | error fault between =>
      cases second with
      | ok value' between' => exact agree.elim
      | error fault' between' => exact agree.2

end Agree

/-! ## One program from two states -/

/-- From states in `before` the program returns the same value, in states in `after`, or raises the same fault. -/
def Relates (before : σ → σ → Prop) (program : EStateM ε σ α) (after : α → σ → σ → Prop) (faulted : σ → σ → Prop) :
    Prop :=
  ∀ s t, before s t →
    Agree (fun value s value' t => value = value' ∧ after value s t) faulted (program s) (program t)

abbrev Respects (relation : σ → σ → Prop) (program : EStateM ε σ α) : Prop :=
  Relates relation program (fun _ => relation) relation

namespace Relates

variable {before faulted : σ → σ → Prop} {after : α → σ → σ → Prop}

protected theorem pure {value : α} (holds : ∀ s t, before s t → after value s t) :
    Relates before (pure value : EStateM ε σ α) after faulted :=
  fun s t related => ⟨rfl, holds s t related⟩

protected theorem throw {fault : ε} (holds : ∀ s t, before s t → faulted s t) :
    Relates before (throw fault : EStateM ε σ α) after faulted :=
  fun s t related => ⟨rfl, holds s t related⟩

protected theorem modify {change : σ → σ} {after : PUnit → σ → σ → Prop}
    (holds : ∀ s t, before s t → after ⟨⟩ (change s) (change t)) :
    Relates before (modify change : EStateM ε σ PUnit) after faulted :=
  fun s t related => ⟨rfl, holds s t related⟩

protected theorem modifyGet {change : σ → α × σ}
    (holds : ∀ s t, before s t → (change s).1 = (change t).1 ∧ after (change s).1 (change s).2 (change t).2) :
    Relates before (modifyGet change : EStateM ε σ α) after faulted :=
  fun s t related => holds s t related

protected theorem bind {program : EStateM ε σ β} {rest : β → EStateM ε σ α} {between : β → σ → σ → Prop}
    (first : Relates before program between faulted) (second : ∀ value, Relates (between value) (rest value) after faulted) :
    Relates before (program >>= rest) after faulted := by
  refine fun s t related => (first s t related).bind ?_
  rintro value middle _ middle' ⟨rfl, related⟩
  exact second value middle middle' related

/-- What the program has read is the same in both states as far as it goes on with it. -/
protected theorem get {rest : σ → EStateM ε σ α} (same : ∀ s t, before s t → rest t = rest s)
    (second : ∀ read, Relates (fun s t => s = read ∧ before s t) (rest read) after faulted) :
    Relates before (get >>= rest) after faulted := by
  intro s t related
  show Agree _ _ (rest s s) (rest t t)
  rw [same s t related]
  exact second s s t ⟨rfl, related⟩

protected theorem ite {condition : Prop} [Decidable condition] {first second : EStateM ε σ α}
    (yes : condition → Relates before first after faulted) (no : ¬condition → Relates before second after faulted) :
    Relates before (if condition then first else second) after faulted := by
  split
  · exact yes ‹_›
  · exact no ‹_›

protected theorem tryCatch {program : EStateM ε σ α} {handler : ε → EStateM ε σ α} {raised : σ → σ → Prop}
    (first : Relates before program after raised) (second : ∀ fault, Relates raised (handler fault) after faulted) :
    Relates before (tryCatch program handler) after faulted :=
  fun s t related => (first s t related).tryCatch fun fault middle middle' => second fault middle middle'

theorem weaken {program : EStateM ε σ α} {before' faulted' : σ → σ → Prop} {after' : α → σ → σ → Prop}
    (relates : Relates before program after faulted) (starts : ∀ s t, before' s t → before s t)
    (returns : ∀ value s t, after value s t → after' value s t) (faults : ∀ s t, faulted s t → faulted' s t) :
    Relates before' program after' faulted' :=
  fun s t related => (relates s t (starts s t related)).weaken
    (fun _ _ _ _ ended => ⟨ended.1, returns _ _ _ ended.2⟩) faults

theorem read {rest : σ → EStateM ε σ α} (same : ∀ s t, before s t → rest t = rest s)
    (second : ∀ read, Relates before (rest read) after faulted) : Relates before (get >>= rest) after faulted :=
  Relates.get same fun read => (second read).weaken (fun _ _ related => related.2) (fun _ _ _ ended => ended) fun _ _ raised => raised

theorem assuming {program : EStateM ε σ α} {fact : Prop} (relates : fact → Relates before program after faulted) :
    Relates (fun s t => fact ∧ before s t) program after faulted :=
  fun s t related => relates related.1 s t related.2

theorem last {program : EStateM ε σ α} {relation : σ → σ → Prop} (relates : Relates before program (fun _ => relation) relation)
    {s t : σ} (related : before s t) : relation (last (program s)) (last (program t)) :=
  ((relates s t related).weaken (fun _ _ _ _ ended => ended.2) fun _ _ raised => raised).last

end Relates

end IotClient.Logic
