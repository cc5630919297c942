namespace IotClient.Logic

variable {σ κ : Type}

/-- The states between the steps of a run. Each step was allowed in the state in which it was made. -/
inductive Reachable (start : σ → Prop) (allowed : σ → κ → Prop) (step : σ → κ → σ) : σ → Prop where
  | start {state : σ} (initial : start state) : Reachable start allowed step state
  | next {state : σ} (reached : Reachable start allowed step state) (call : κ) (met : allowed state call) :
      Reachable start allowed step (step state call)

def passes (step : σ → κ → σ) (test : σ → κ → Bool) : List κ → σ → Bool
  | [], _ => true
  | call :: rest, state => test state call && passes step test rest (step state call)

namespace Reachable

variable {start : σ → Prop} {allowed : σ → κ → Prop} {step : σ → κ → σ} {state : σ}

theorem invariant (holds : σ → Prop) (initial : ∀ state, start state → holds state)
    (kept : ∀ state call, holds state → allowed state call → holds (step state call))
    (reached : Reachable start allowed step state) : holds state := by
  induction reached with
  | start begins => exact initial _ begins
  | next _ call met held => exact kept _ call held met

theorem run {test : σ → κ → Bool} (sound : ∀ state call, test state call = true → allowed state call) {calls : List κ}
    (reached : Reachable start allowed step state) (passed : passes step test calls state = true) :
    Reachable start allowed step (calls.foldl step state) := by
  induction calls generalizing state with
  | nil => exact reached
  | cons call rest ih =>
      rw [passes, Bool.and_eq_true] at passed
      exact ih (reached.next call (sound state call passed.1)) passed.2

theorem snoc {calls : List κ} {call : κ} (reached : Reachable start allowed step (calls.foldl step state))
    (met : allowed (calls.foldl step state) call) : Reachable start allowed step ((calls ++ [call]).foldl step state) := by
  rw [List.foldl_append]
  exact reached.next call met

end Reachable

end IotClient.Logic
