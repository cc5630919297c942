namespace IotClient.Logic

variable {ε σ α β : Type}

/-! ## Runs that return -/

@[simp] theorem run_bind_eq_ok {program : EStateM ε σ α} {rest : α → EStateM ε σ β} {before after : σ}
    {result : β} :
    (program >>= rest) before = .ok result after ↔
      ∃ value between, program before = .ok value between ∧ rest value between = .ok result after := by
  show EStateM.bind program rest before = _ ↔ _
  unfold EStateM.bind
  cases program before with
  | ok value between =>
      constructor
      · intro run
        exact ⟨value, between, rfl, run⟩
      · rintro ⟨_, _, same, run⟩
        cases same
        exact run
  | error fault between => simp

theorem run_bind_ok {program : EStateM ε σ α} {rest : α → EStateM ε σ β} {before between : σ} {value : α}
    (first : program before = .ok value between) : (program >>= rest) before = rest value between := by
  show EStateM.bind program rest before = _
  unfold EStateM.bind
  rw [first]

@[simp] theorem run_pure_eq_ok {before after : σ} {value result : α} :
    (pure value : EStateM ε σ α) before = .ok result after ↔ value = result ∧ before = after := by
  show EStateM.Result.ok value before = _ ↔ _
  simp

@[simp] theorem run_get_eq_ok {before after result : σ} :
    (get : EStateM ε σ σ) before = .ok result after ↔ before = result ∧ before = after := by
  show EStateM.Result.ok before before = _ ↔ _
  simp

theorem run_get_bind {rest : σ → EStateM ε σ β} {before : σ} : (get >>= rest) before = rest before before :=
  rfl

@[simp] theorem run_modify_eq_ok {change : σ → σ} {before after : σ} {result : PUnit} :
    (modify change : EStateM ε σ PUnit) before = .ok result after ↔ change before = after := by
  show EStateM.Result.ok _ (change before) = _ ↔ _
  simp

@[simp] theorem run_modifyGet_eq_ok {change : σ → α × σ} {before after : σ} {result : α} :
    (modifyGet change : EStateM ε σ α) before = .ok result after ↔ change before = (result, after) := by
  show EStateM.Result.ok (change before).1 (change before).2 = _ ↔ _
  cases change before
  simp

@[simp] theorem run_throw_ne_ok {fault : ε} {before after : σ} {result : α} :
    ¬ (throw fault : EStateM ε σ α) before = .ok result after := by
  show ¬ EStateM.Result.error fault before = _
  simp

def Returns (condition : α → Prop) (program : EStateM ε σ α) : Prop :=
  ∀ before result after, program before = .ok result after → condition result

namespace Returns

variable {condition : α → Prop}

protected theorem pure {value : α} (holds : condition value) :
    Returns condition (pure value : EStateM ε σ α) := by
  intro before result after run
  obtain ⟨rfl, _⟩ := run_pure_eq_ok.mp run
  exact holds

protected theorem bind {program : EStateM ε σ β} {rest : β → EStateM ε σ α}
    (returns : ∀ value, Returns condition (rest value)) : Returns condition (program >>= rest) := by
  intro before result after run
  obtain ⟨value, between, _, run⟩ := run_bind_eq_ok.mp run
  exact returns value between result after run

protected theorem ite {test : Prop} [Decidable test] {first second : EStateM ε σ α}
    (yes : Returns condition first) (no : Returns condition second) :
    Returns condition (if test then first else second) := by
  split
  · exact yes
  · exact no

end Returns

/-! ## Runs that fault -/

theorem run_bind_eq_error {program : EStateM ε σ α} {rest : α → EStateM ε σ β} {before after : σ} {fault : ε} :
    (program >>= rest) before = .error fault after ↔
      program before = .error fault after ∨
        ∃ value between, program before = .ok value between ∧ rest value between = .error fault after := by
  show EStateM.bind program rest before = _ ↔ _
  unfold EStateM.bind
  cases program before with
  | ok value between =>
      constructor
      · intro run
        exact .inr ⟨value, between, rfl, run⟩
      · rintro (impossible | ⟨_, _, same, run⟩)
        · cases impossible
        · cases same
          exact run
  | error fault between => simp

theorem run_tryCatch_eq_ok {program : EStateM ε σ α} {handler : ε → EStateM ε σ α} {before after : σ} {result : α} :
    tryCatch program handler before = .ok result after ↔
      program before = .ok result after ∨
        ∃ fault between, program before = .error fault between ∧ handler fault between = .ok result after := by
  show EStateM.tryCatch program handler before = _ ↔ _
  unfold EStateM.tryCatch
  cases program before with
  | ok value between => simp
  | error fault between =>
      constructor
      · intro run
        exact .inr ⟨fault, between, rfl, run⟩
      · rintro (impossible | ⟨_, _, same, run⟩)
        · cases impossible
        · cases same
          exact run

theorem run_tryCatch_error {program : EStateM ε σ α} {handler : ε → EStateM ε σ α} {before between : σ} {fault : ε}
    (raised : program before = .error fault between) : tryCatch program handler before = handler fault between := by
  show EStateM.tryCatch program handler before = _
  unfold EStateM.tryCatch
  rw [raised]
  rfl

def Throws (condition : ε → Prop) (program : EStateM ε σ α) : Prop :=
  ∀ before fault after, program before = .error fault after → condition fault

namespace Throws

variable {condition : ε → Prop}

protected theorem pure (value : α) : Throws condition (pure value : EStateM ε σ α) := by
  intro before fault after run
  cases run

protected theorem get : Throws condition (get : EStateM ε σ σ) := by
  intro before fault after run
  cases run

protected theorem modify (change : σ → σ) : Throws condition (modify change : EStateM ε σ PUnit) := by
  intro before fault after run
  cases run

protected theorem modifyGet (change : σ → α × σ) : Throws condition (modifyGet change : EStateM ε σ α) := by
  intro before fault after run
  cases run

protected theorem throw {fault : ε} (met : condition fault) : Throws condition (throw fault : EStateM ε σ α) := by
  intro before raised after run
  cases run
  exact met

protected theorem bind {program : EStateM ε σ α} {rest : α → EStateM ε σ β} (first : Throws condition program)
    (second : ∀ value, Throws condition (rest value)) : Throws condition (program >>= rest) := by
  intro before fault after run
  rcases run_bind_eq_error.mp run with run | ⟨value, between, _, run⟩
  · exact first before fault after run
  · exact second value between fault after run

protected theorem ite {test : Prop} [Decidable test] {first second : EStateM ε σ α}
    (yes : Throws condition first) (no : Throws condition second) :
    Throws condition (if test then first else second) := by
  split
  · exact yes
  · exact no

theorem mono {weaker : ε → Prop} {program : EStateM ε σ α} (throws : Throws condition program)
    (implied : ∀ fault, condition fault → weaker fault) : Throws weaker program :=
  fun before fault after run => implied fault (throws before fault after run)

protected theorem tryCatch {caught : ε → Prop} {program : EStateM ε σ α} {handler : ε → EStateM ε σ α}
    (first : Throws caught program) (second : ∀ fault, caught fault → Throws condition (handler fault)) :
    Throws condition (tryCatch program handler) := by
  intro before fault after run
  replace run : EStateM.tryCatch program handler before = .error fault after := run
  unfold EStateM.tryCatch at run
  cases raised : program before with
  | ok value between =>
      rw [raised] at run
      cases run
  | error thrown between =>
      rw [raised] at run
      exact second thrown (first before thrown between raised) between fault after run

theorem ok {program : EStateM ε σ α} (throws : Throws (fun _ => False) program) (before : σ) :
    ∃ value after, program before = .ok value after := by
  cases run : program before with
  | ok value after => exact ⟨value, after, rfl⟩
  | error fault after => exact (throws before fault after run).elim

end Throws

/-! ## What a program does to the state, however it ends -/

def last : EStateM.Result ε σ α → σ
  | .ok _ after => after
  | .error _ after => after

def outcome : EStateM.Result ε σ α → Except ε α
  | .ok value _ => .ok value
  | .error fault _ => .error fault

/-- A relation that composes, so that it can be followed through a program. -/
class Following (relation : σ → σ → Prop) : Prop where
  refl : ∀ state, relation state state
  trans : ∀ {first second third}, relation first second → relation second third → relation first third

def Keeps (relation : σ → σ → Prop) (program : EStateM ε σ α) : Prop :=
  ∀ state, relation state (last (program state))

namespace Keeps

variable {relation : σ → σ → Prop}

theorem returns {program : EStateM ε σ α} (keeps : Keeps relation program) {before after : σ}
    {result : α} (run : program before = .ok result after) : relation before after := by
  have related := keeps before
  rwa [run] at related

theorem faults {program : EStateM ε σ α} (keeps : Keeps relation program) {before after : σ}
    {fault : ε} (run : program before = .error fault after) : relation before after := by
  have related := keeps before
  rwa [run] at related

protected theorem modify {change : σ → σ} (related : ∀ state, relation state (change state)) :
    Keeps relation (modify change : EStateM ε σ PUnit) :=
  fun state => related state

protected theorem modifyGet {change : σ → α × σ} (related : ∀ state, relation state (change state).2) :
    Keeps relation (modifyGet change : EStateM ε σ α) :=
  fun state => related state

protected theorem ite {condition : Prop} [Decidable condition] {first second : EStateM ε σ α}
    (yes : condition → Keeps relation first) (no : ¬ condition → Keeps relation second) :
    Keeps relation (if condition then first else second) := by
  split
  · exact yes ‹_›
  · exact no ‹_›

protected theorem and {other : σ → σ → Prop} {program : EStateM ε σ α} (first : Keeps relation program)
    (second : Keeps other program) : Keeps (fun before after => relation before after ∧ other before after) program :=
  fun state => ⟨first state, second state⟩

theorem mono {other : σ → σ → Prop} {program : EStateM ε σ α} (keeps : Keeps relation program)
    (weaker : ∀ {before after}, relation before after → other before after) : Keeps other program :=
  fun state => weaker (keeps state)

variable [Following relation]

protected theorem pure (value : α) : Keeps relation (pure value : EStateM ε σ α) :=
  fun state => Following.refl state

protected theorem throw (fault : ε) : Keeps relation (throw fault : EStateM ε σ α) :=
  fun state => Following.refl state

protected theorem get : Keeps relation (get : EStateM ε σ σ) :=
  fun state => Following.refl state

protected theorem bind {program : EStateM ε σ α} {rest : α → EStateM ε σ β}
    (first : Keeps relation program) (second : ∀ value, Keeps relation (rest value)) :
    Keeps relation (program >>= rest) := by
  intro state
  have related := first state
  show relation state (last (EStateM.bind program rest state))
  unfold EStateM.bind
  cases run : program state with
  | ok value between =>
      rw [run] at related
      exact Following.trans related (second value between)
  | error fault between =>
      rw [run] at related
      exact related

theorem bind_returns {condition : α → Prop} {program : EStateM ε σ α} {rest : α → EStateM ε σ β}
    (first : Keeps relation program) (returns : Logic.Returns condition program)
    (second : ∀ value, condition value → Keeps relation (rest value)) : Keeps relation (program >>= rest) := by
  intro state
  have related := first state
  show relation state (last (EStateM.bind program rest state))
  unfold EStateM.bind
  cases run : program state with
  | ok value between =>
      rw [run] at related
      exact Following.trans related (second value (returns state value between run) between)
  | error fault between =>
      rw [run] at related
      exact related

protected theorem tryCatch {program : EStateM ε σ α} {handler : ε → EStateM ε σ α}
    (first : Keeps relation program) (second : ∀ fault, Keeps relation (handler fault)) :
    Keeps relation (tryCatch program handler) := by
  intro state
  have related := first state
  show relation state (last (EStateM.tryCatch program handler state))
  unfold EStateM.tryCatch
  cases run : program state with
  | ok value between =>
      rw [run] at related
      exact related
  | error fault between =>
      rw [run] at related
      exact Following.trans related (second fault between)

end Keeps

/-! ## Pre- and postconditions -/

/-- From a state in `pre` the program returns as `post` says, or faults in a state in `faulty`. -/
def Triple (pre : σ → Prop) (program : EStateM ε σ α) (post : α → σ → Prop) (faulty : σ → Prop) : Prop :=
  ∀ before, pre before →
    match program before with
    | .ok result after => post result after
    | .error _ after => faulty after

abbrev Preserves (invariant : σ → Prop) (program : EStateM ε σ α) : Prop :=
  Triple invariant program (fun _ => invariant) invariant

abbrev Yields (pre : σ → Prop) (program : EStateM ε σ α) (post : α → σ → Prop) : Prop :=
  Triple pre program post fun _ => True

namespace Triple

variable {pre : σ → Prop} {post : α → σ → Prop} {faulty : σ → Prop}

theorem returns {program : EStateM ε σ α} (triple : Triple pre program post faulty) {before after : σ} {result : α}
    (holds : pre before) (run : program before = .ok result after) : post result after := by
  have outcome := triple before holds
  rwa [run] at outcome

theorem last {program : EStateM ε σ α} {after : σ → Prop} (triple : Triple pre program (fun _ => after) after)
    {before : σ} (holds : pre before) : after (last (program before)) := by
  have outcome := triple before holds
  cases run : program before with
  | ok result after => rwa [run] at outcome
  | error fault after => rwa [run] at outcome

protected theorem pure {value : α} (holds : ∀ state, pre state → post value state) :
    Triple pre (pure value : EStateM ε σ α) post faulty :=
  fun state given => holds state given

protected theorem throw {fault : ε} (holds : ∀ state, pre state → faulty state) :
    Triple pre (throw fault : EStateM ε σ α) post faulty :=
  fun state given => holds state given

protected theorem modify {change : σ → σ} {post : PUnit → σ → Prop}
    (holds : ∀ state, pre state → post ⟨⟩ (change state)) :
    Triple pre (modify change : EStateM ε σ PUnit) post faulty :=
  fun state given => holds state given

protected theorem bind {program : EStateM ε σ β} {rest : β → EStateM ε σ α} {mid : β → σ → Prop}
    (first : Triple pre program mid faulty) (second : ∀ value, Triple (mid value) (rest value) post faulty) :
    Triple pre (program >>= rest) post faulty := by
  intro before given
  have outcome := first before given
  show match EStateM.bind program rest before with
    | .ok result after => post result after
    | .error _ after => faulty after
  unfold EStateM.bind
  cases run : program before with
  | ok value between =>
      rw [run] at outcome
      exact second value between outcome
  | error fault between =>
      rw [run] at outcome
      exact outcome

protected theorem get {rest : σ → EStateM ε σ α}
    (each : ∀ read, Triple (fun state => state = read ∧ pre state) (rest read) post faulty) :
    Triple pre (get >>= rest) post faulty :=
  fun before given => each before before ⟨rfl, given⟩

theorem read {rest : σ → EStateM ε σ α} (each : ∀ read, Triple pre (rest read) post faulty) :
    Triple pre (get >>= rest) post faulty :=
  fun before given => each before before given

protected theorem ite {condition : Prop} [Decidable condition] {first second : EStateM ε σ α}
    (yes : condition → Triple pre first post faulty) (no : ¬ condition → Triple pre second post faulty) :
    Triple pre (if condition then first else second) post faulty := by
  split
  · exact yes ‹_›
  · exact no ‹_›

protected theorem tryCatch {program : EStateM ε σ α} {handler : ε → EStateM ε σ α} {broken : σ → Prop}
    (first : Triple pre program post broken) (second : ∀ fault, Triple broken (handler fault) post faulty) :
    Triple pre (tryCatch program handler) post faulty := by
  intro before given
  have outcome := first before given
  show match EStateM.tryCatch program handler before with
    | .ok result after => post result after
    | .error _ after => faulty after
  unfold EStateM.tryCatch
  cases run : program before with
  | ok value between =>
      rw [run] at outcome
      exact outcome
  | error fault between =>
      rw [run] at outcome
      exact second fault between outcome

theorem of_ok {program : EStateM ε σ α}
    (runs : ∀ before, pre before → ∃ result after, program before = .ok result after ∧ post result after) :
    Triple pre program post faulty := by
  intro before given
  obtain ⟨result, after, run, holds⟩ := runs before given
  rw [run]
  exact holds

theorem weaken {program : EStateM ε σ α} {pre' : σ → Prop} {post' : α → σ → Prop} {faulty' : σ → Prop}
    (triple : Triple pre' program post' faulty') (before : ∀ state, pre state → pre' state)
    (after : ∀ value state, post' value state → post value state)
    (fault : ∀ state, faulty' state → faulty state) : Triple pre program post faulty := by
  intro state given
  have outcome := triple state (before state given)
  cases run : program state with
  | ok value between =>
      rw [run] at outcome
      exact after value between outcome
  | error error between =>
      rw [run] at outcome
      exact fault between outcome

theorem starting {program : EStateM ε σ α} {pre' : σ → Prop} (triple : Triple pre' program post faulty)
    (before : ∀ state, pre state → pre' state) : Triple pre program post faulty :=
  fun state given => triple state (before state given)

protected theorem and {program : EStateM ε σ α} {pre' : σ → Prop} {post' : α → σ → Prop} {faulty' : σ → Prop}
    (first : Triple pre program post faulty) (second : Triple pre' program post' faulty') :
    Triple (fun state => pre state ∧ pre' state) program (fun value state => post value state ∧ post' value state)
      fun state => faulty state ∧ faulty' state := by
  intro before given
  have outcome := first before given.1
  have outcome' := second before given.2
  cases run : program before with
  | ok value after =>
      rw [run] at outcome outcome'
      exact ⟨outcome, outcome'⟩
  | error fault after =>
      rw [run] at outcome outcome'
      exact ⟨outcome, outcome'⟩

theorem constant {program : EStateM ε σ α} {fact : Prop} (triple : Triple pre program post faulty) :
    Triple (fun state => pre state ∧ fact) program (fun value state => post value state ∧ fact) faulty := by
  rintro before ⟨given, holds⟩
  have outcome := triple before given
  cases run : program before with
  | ok value after =>
      rw [run] at outcome
      exact ⟨outcome, holds⟩
  | error fault after =>
      rw [run] at outcome
      exact outcome

theorem returning {program : EStateM ε σ α} {condition : α → Prop} (triple : Triple pre program post faulty)
    (returns : Logic.Returns condition program) :
    Triple pre program (fun value state => post value state ∧ condition value) faulty := by
  intro before given
  have outcome := triple before given
  cases run : program before with
  | ok value after =>
      rw [run] at outcome
      exact ⟨outcome, returns before value after run⟩
  | error fault after =>
      rw [run] at outcome
      exact outcome

theorem keeping {program : EStateM ε σ α} {relation : σ → σ → Prop} (triple : Triple pre program post faulty)
    (keeps : Keeps relation program) {kept : σ → Prop}
    (respects : ∀ {before after}, relation before after → kept before → kept after) :
    Triple (fun state => pre state ∧ kept state) program (fun value state => post value state ∧ kept state)
      fun state => faulty state ∧ kept state := by
  intro before given
  have outcome := triple before given.1
  have related := keeps before
  cases run : program before with
  | ok value after =>
      rw [run] at outcome related
      exact ⟨outcome, respects related given.2⟩
  | error fault after =>
      rw [run] at outcome related
      exact ⟨outcome, respects related given.2⟩

end Triple

abbrev Safe (invariant : σ → Prop) (program : EStateM ε σ α) : Prop :=
  Triple invariant program (fun _ => invariant) fun _ => False

theorem Triple.preserves {invariant : σ → Prop} {program : EStateM ε σ α} (safe : Safe invariant program) :
    Preserves invariant program :=
  safe.weaken (fun _ holds => holds) (fun _ _ holds => holds) fun _ impossible => impossible.elim

theorem triple_of_returns {pre faulty : σ → Prop} {program : EStateM ε σ α} {post : α → σ → Prop}
    (returns : ∀ {before result after}, pre before → program before = .ok result after → post result after)
    (throws : Throws (fun _ => False) program) : Triple pre program post faulty := by
  intro before given
  cases run : program before with
  | ok result after => exact returns given run
  | error fault after => exact (throws before fault after run).elim

theorem Keeps.safe {relation : σ → σ → Prop} {program : EStateM ε σ α} (keeps : Keeps relation program)
    (throws : Throws (fun _ => False) program) {invariant : σ → Prop}
    (respects : ∀ {before after}, relation before after → invariant before → invariant after) :
    Safe invariant program :=
  triple_of_returns (fun holds run => respects (keeps.returns run) holds) throws

theorem yields_of_returns {pre : σ → Prop} {program : EStateM ε σ α} {post : α → σ → Prop}
    (returns : ∀ {before result after}, pre before → program before = .ok result after → post result after) :
    Yields pre program post := by
  intro before given
  cases run : program before with
  | ok result after => exact returns given run
  | error fault after => trivial

/-- A relation that every step keeps takes an invariant along when it respects it. -/
theorem Keeps.preserves {relation : σ → σ → Prop} {program : EStateM ε σ α} (keeps : Keeps relation program)
    {invariant : σ → Prop}
    (respects : ∀ {before after}, relation before after → invariant before → invariant after) :
    Preserves invariant program := by
  intro before holds
  have related := keeps before
  cases run : program before with
  | ok value after =>
      rw [run] at related
      exact respects related holds
  | error fault after =>
      rw [run] at related
      exact respects related holds

def Carries (invariant : σ → Prop) (before after : σ) : Prop := invariant before → invariant after

instance (invariant : σ → Prop) : Following (Carries invariant) where
  refl _ := id
  trans first second := second ∘ first

theorem Triple.carries {invariant : σ → Prop} {program : EStateM ε σ α} (preserves : Preserves invariant program) :
    Keeps (Carries invariant) program :=
  fun _ holds => preserves.last holds

theorem Keeps.yields {relation : σ → σ → Prop} {program : EStateM ε σ α} (keeps : Keeps relation program)
    {invariant : σ → Prop}
    (respects : ∀ {before after}, relation before after → invariant before → invariant after) :
    Yields invariant program fun _ => invariant :=
  (keeps.preserves respects).weaken (fun _ given => given) (fun _ _ given => given) fun _ _ => trivial

end IotClient.Logic
