instance decidableEqExcept {ε α : Type} [DecidableEq ε] [DecidableEq α] : DecidableEq (Except ε α)
  | .error fault, .error other => decidable_of_iff (fault = other) (by simp)
  | .ok value, .ok other => decidable_of_iff (value = other) (by simp)
  | .error _, .ok _ => isFalse nofun
  | .ok _, .error _ => isFalse nofun

namespace IotClient.Logic

section Except

variable {ε α β : Type}

theorem ok_bind (value : α) (next : α → Except ε β) : (.ok value : Except ε α) >>= next = next value :=
  rfl

theorem bind_eq_ok {computation : Except ε α} {next : α → Except ε β} {result : β} :
    computation >>= next = .ok result ↔ ∃ value, computation = .ok value ∧ next value = .ok result := by
  cases computation with
  | error failure => simp [bind, Except.bind]
  | ok value => simp [bind, Except.bind]

theorem bind_eq_error {computation : Except ε α} {next : α → Except ε β} {failure : ε} :
    computation >>= next = .error failure ↔
      computation = .error failure ∨ ∃ value, computation = .ok value ∧ next value = .error failure := by
  cases computation with
  | error failure => simp [bind, Except.bind]
  | ok value => simp [bind, Except.bind]

theorem map_eq_ok {computation : Except ε α} {function : α → β} {result : β} :
    function <$> computation = .ok result ↔ ∃ value, computation = .ok value ∧ function value = result := by
  cases computation with
  | error failure => simp [Functor.map, Except.map]
  | ok value => simp [Functor.map, Except.map]

theorem map_injective {function : α → β} (injective : Function.Injective function) :
    Function.Injective (Except.map function : Except ε α → Except ε β) := by
  rintro (failure | value) (failure' | value') same
  · exact congrArg Except.error (Except.error.inj same)
  · cases same
  · cases same
  · exact congrArg Except.ok (injective (Except.ok.inj same))

theorem map_eq_error {computation : Except ε α} {function : α → β} {failure : ε} :
    function <$> computation = .error failure ↔ computation = .error failure := by
  cases computation with
  | error failure => simp [Functor.map, Except.map]
  | ok value => simp [Functor.map, Except.map]

theorem forall_bind_ok {first : Except ε α} {second : α → Except ε β} {condition : β → Prop} :
    (∀ value, first >>= second = .ok value → condition value) ↔
      ∀ value, first = .ok value → ∀ result, second value = .ok result → condition result := by
  constructor
  · intro all value read result made
    exact all result (bind_eq_ok.mpr ⟨value, read, made⟩)
  · intro all result made
    obtain ⟨value, read, made⟩ := bind_eq_ok.mp made
    exact all value read result made

theorem forall_pure_ok {result : α} {condition : α → Prop} :
    (∀ value, (pure result : Except ε α) = .ok value → condition value) ↔ condition result := by
  simp [pure, Except.pure]

def Raises (condition : ε → Prop) (computation : Except ε α) : Prop :=
  ∀ failure, computation = .error failure → condition failure

variable {condition : ε → Prop}

theorem raises_ok (value : α) : Raises condition (.ok value : Except ε α) := by
  intro failure failed
  contradiction

theorem raises_error {failure : ε} (met : condition failure) :
    Raises condition (.error failure : Except ε α) := by
  intro raised failed
  cases failed
  exact met

theorem Raises.bind {computation : Except ε α} {next : α → Except ε β} (first : Raises condition computation)
    (rest : ∀ value, computation = .ok value → Raises condition (next value)) :
    Raises condition (computation >>= next) := by
  intro failure failed
  rcases bind_eq_error.mp failed with failed | ⟨value, succeeded, failed⟩
  · exact first failure failed
  · exact rest value succeeded failure failed

theorem Raises.map {computation : Except ε α} {function : α → β} (raises : Raises condition computation) :
    Raises condition (function <$> computation) := by
  intro failure failed
  exact raises failure (map_eq_error.mp failed)

theorem Raises.mono {weaker : ε → Prop} {computation : Except ε α} (raises : Raises condition computation)
    (implied : ∀ failure, condition failure → weaker failure) : Raises weaker computation := by
  intro failure failed
  exact implied failure (raises failure failed)

end Except

end IotClient.Logic
