import IotClient.Model.Timer

namespace IotClient

def TimeOfDay.micros (time : TimeOfDay) : Int :=
  time.sec * 1000000 + time.usec

theorem tdiv_tmod_cases (value : Int) :
    value = value.tdiv 1000 * 1000 + value.tmod 1000 ∧
      (0 ≤ value ∧ 0 ≤ value.tmod 1000 ∧ value.tmod 1000 < 1000 ∨
        value < 0 ∧ value.tdiv 1000 ≤ 0 ∧ value.tmod 1000 ≤ 0 ∧ (value.tmod 1000 < 0 ∨ value.tdiv 1000 < 0)) := by
  have whole := Int.tmod_add_tdiv_mul value 1000
  refine ⟨by omega, ?_⟩
  by_cases sign : 0 ≤ value
  · exact .inl ⟨sign, Int.tmod_nonneg _ sign, Int.tmod_lt_of_pos _ (by decide)⟩
  · have rest := Int.tmod_nonneg 1000 (show 0 ≤ -value by omega)
    have bound := Int.tmod_lt_of_pos (-value) (show (0 : Int) < 1000 by decide)
    rw [Int.neg_tmod] at rest bound
    exact .inr ⟨by omega, by omega, by omega, by omega⟩

namespace CountdownTimer

variable {start now later : TimeOfDay}

/-- The end of a countdown that is not negative is a time of day, so that the difference to it has one borrow at most.
A negative countdown ends at a time whose microseconds may be negative, but by then it is over. -/
theorem getLeftMicroseconds_startCountdownMs (milliSeconds : Int32) (order : start.micros ≤ now.micros) :
    (startCountdownMs start milliSeconds).getLeftMicroseconds now =
      max 0 (start.micros + milliSeconds.toInt * 1000 - now.micros) := by
  obtain ⟨whole, sign⟩ := tdiv_tmod_cases milliSeconds.toInt
  have startNormal := start.normal
  have nowNormal := now.normal
  simp only [TimeOfDay.micros] at order ⊢
  simp only [getLeftMicroseconds, startCountdownMs, timeradd, timersub]
  generalize milliSeconds.toInt.tdiv 1000 = quotient at *
  generalize milliSeconds.toInt.tmod 1000 = rest at *
  rw [whole]
  split <;> split <;> split <;> simp only at * <;> omega

theorem toInt_seconds {seconds : Int32} (range : 0 ≤ seconds.toInt ∧ seconds.toInt ≤ 65535) :
    (seconds * 1000).toInt = seconds.toInt * 1000 := by
  rw [Int32.toInt_mul, show (1000 : Int32).toInt = 1000 by decide]
  exact Int.bmod_eq_of_le (by omega) (by omega)

theorem isExpired_iff {timer : CountdownTimer} :
    timer.isExpired now ↔ timer.getLeftMicroseconds now ≤ 0 :=
  decide_eq_true_iff

theorem getLeftMilliseconds_startCountdownMs (milliSeconds : Int32) (order : start.micros ≤ now.micros) :
    ((startCountdownMs start milliSeconds).getLeftMilliseconds now).toInt =
      (startCountdownMs start milliSeconds).getLeftMicroseconds now / 1000 := by
  have left := getLeftMicroseconds_startCountdownMs milliSeconds order
  have range := milliSeconds.toInt_lt
  have small : 0 ≤ (startCountdownMs start milliSeconds).getLeftMicroseconds now ∧
      (startCountdownMs start milliSeconds).getLeftMicroseconds now < 2 ^ 31 * 1000 := by omega
  rw [getLeftMilliseconds, Int.tdiv_eq_ediv_of_nonneg small.1, Int32.toInt_ofInt]
  exact Int.bmod_eq_of_le (by simp only [Int32.size]; omega) (by simp only [Int32.size]; omega)

end CountdownTimer

theorem adapterTimeout_cases (timeoutMillisec : Int32) :
    1 ≤ (adapterTimeout timeoutMillisec).toInt ∧
      ((adapterTimeout timeoutMillisec).toInt = timeoutMillisec.toInt ∨ (adapterTimeout timeoutMillisec).toInt = 1) := by
  unfold adapterTimeout
  split
  · rename_i positive
    have positive : (0 : Int32).toInt < timeoutMillisec.toInt := Int32.lt_iff_toInt_lt.mp positive
    rw [Int32.toInt_zero] at positive
    exact ⟨by omega, .inl rfl⟩
  · exact ⟨by decide, .inr (by decide)⟩

inductive Countdown where
  | milliseconds (milliSeconds : Int32)
  | seconds (seconds : Int32) (range : 0 ≤ seconds.toInt ∧ seconds.toInt ≤ 65535)

namespace Countdown

def start (now : TimeOfDay) : Countdown → CountdownTimer
  | .milliseconds milliSeconds => .startCountdownMs now milliSeconds
  | .seconds amount _ => .startCountdown now amount

def micros : Countdown → Int
  | .milliseconds milliSeconds => milliSeconds.toInt * 1000
  | .seconds amount _ => amount.toInt * 1000000

theorem start_eq (countdown : Countdown) (now : TimeOfDay) :
    ∃ milliSeconds : Int32, countdown.start now = .startCountdownMs now milliSeconds ∧
      countdown.micros = milliSeconds.toInt * 1000 := by
  cases countdown with
  | milliseconds milliSeconds => exact ⟨milliSeconds, rfl, rfl⟩
  | seconds amount range =>
      refine ⟨amount * 1000, rfl, ?_⟩
      rw [CountdownTimer.toInt_seconds range, micros]
      omega

end Countdown

section Clock

variable {clock : Nat → TimeOfDay} (forward : ∀ {i j : Nat}, i ≤ j → (clock i).micros ≤ (clock j).micros)
include forward

theorem isExpired_stays (countdown : Countdown) {i j k : Nat} (started : i ≤ j) (later : j ≤ k)
    (expired : (countdown.start (clock i)).isExpired (clock j)) : (countdown.start (clock i)).isExpired (clock k) := by
  obtain ⟨milliSeconds, starts, _⟩ := countdown.start_eq (clock i)
  rw [starts, CountdownTimer.isExpired_iff] at expired ⊢
  rw [CountdownTimer.getLeftMicroseconds_startCountdownMs milliSeconds (forward started)] at expired
  rw [CountdownTimer.getLeftMicroseconds_startCountdownMs milliSeconds (forward (Nat.le_trans started later))]
  have order := forward later
  omega

/-- Readings `i`, `j` and `k` of a clock that does not go back: the countdown starts at the first. -/
theorem timer_exact (countdown : Countdown) {i j k : Nat} (started : i ≤ j) (later : j ≤ k) :
    (countdown.start (clock i)).getLeftMicroseconds (clock j) =
        max 0 ((clock i).micros + countdown.micros - (clock j).micros) ∧
      ((countdown.start (clock i)).isExpired (clock j) ↔
        (countdown.start (clock i)).getLeftMicroseconds (clock j) = 0) ∧
      ((countdown.start (clock i)).isExpired (clock j) → (countdown.start (clock i)).isExpired (clock k)) ∧
      ((countdown.start (clock i)).getLeftMilliseconds (clock j)).toInt =
        (countdown.start (clock i)).getLeftMicroseconds (clock j) / 1000 ∧
      1 ≤ (adapterTimeout ((countdown.start (clock i)).getLeftMilliseconds (clock j))).toInt ∧
      (adapterTimeout ((countdown.start (clock i)).getLeftMilliseconds (clock j))).toInt * 1000 ≤
        (countdown.start (clock i)).getLeftMicroseconds (clock j) + 1000 := by
  obtain ⟨milliSeconds, starts, interval⟩ := countdown.start_eq (clock i)
  have stays := isExpired_stays forward countdown started later
  rw [starts] at stays ⊢
  rw [interval]
  have left := CountdownTimer.getLeftMicroseconds_startCountdownMs milliSeconds (forward started)
  have milliseconds := CountdownTimer.getLeftMilliseconds_startCountdownMs milliSeconds (forward started)
  obtain ⟨positive, passed⟩ := adapterTimeout_cases
    ((CountdownTimer.startCountdownMs (clock i) milliSeconds).getLeftMilliseconds (clock j))
  refine ⟨left, CountdownTimer.isExpired_iff.trans (by omega), stays, milliseconds, positive, ?_⟩
  rcases passed with passed | passed
  · rw [passed, milliseconds]
    omega
  · rw [passed]
    omega

end Clock

def sampleClock (reading : Nat) : TimeOfDay := ⟨⟨reading, 999999⟩, by simp⟩

theorem timer_exact_halfSecond :
    (Countdown.start (sampleClock 0) (.milliseconds 1500)).getLeftMicroseconds (sampleClock 1) = 500000 := by
  have forward {i j : Nat} (order : i ≤ j) : (sampleClock i).micros ≤ (sampleClock j).micros := by
    simp only [TimeOfDay.micros, sampleClock]
    omega
  have exact := timer_exact forward (.milliseconds 1500) (by decide : 0 ≤ 1) (by decide : 1 ≤ 2)
  exact exact.1.trans (by decide)

end IotClient
