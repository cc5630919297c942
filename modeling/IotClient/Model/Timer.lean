import Mathlib.Data.UInt

namespace IotClient

/-! ## `struct timeval` and the macros of `sys/time.h` -/

structure Timeval where
  sec : Int
  usec : Int
  deriving DecidableEq, Repr

def timeradd (a b : Timeval) : Timeval :=
  let sec := a.sec + b.sec
  let usec := a.usec + b.usec
  if usec ≥ 1000000 then ⟨sec + 1, usec - 1000000⟩ else ⟨sec, usec⟩

def timersub (a b : Timeval) : Timeval :=
  let sec := a.sec - b.sec
  let usec := a.usec - b.usec
  if usec < 0 then ⟨sec - 1, usec + 1000000⟩ else ⟨sec, usec⟩

structure TimeOfDay extends Timeval where
  normal : 0 ≤ usec ∧ usec < 1000000

/-! ## `iot::Timer` on POSIX

Every function that asks for the time is given the answer. `/` and `%` of C round towards zero. -/

structure CountdownTimer where
  finish : Timeval
  deriving DecidableEq, Repr

namespace CountdownTimer

def startCountdownMs (now : TimeOfDay) (milliSeconds : Int32) : CountdownTimer :=
  let interval : Timeval := ⟨milliSeconds.toInt.tdiv 1000, milliSeconds.toInt.tmod 1000 * 1000⟩
  ⟨timeradd now.toTimeval interval⟩

def startCountdown (now : TimeOfDay) (seconds : Int32) : CountdownTimer :=
  startCountdownMs now (seconds * 1000)

def getLeftMicroseconds (timer : CountdownTimer) (now : TimeOfDay) : Int :=
  let res := timersub timer.finish now.toTimeval
  if res.sec < 0 then 0 else res.sec * 1000000 + res.usec

def getLeftMilliseconds (timer : CountdownTimer) (now : TimeOfDay) : Int32 :=
  Int32.ofInt ((timer.getLeftMicroseconds now).tdiv 1000)

def isExpired (timer : CountdownTimer) (now : TimeOfDay) : Bool :=
  timer.getLeftMicroseconds now ≤ 0

end CountdownTimer

/-- The timeout that `ConnectionAdapter::read` and `write` pass down, where 0 would mean no timeout. -/
def adapterTimeout (timeoutMillisec : Int32) : Int32 :=
  if timeoutMillisec > 0 then timeoutMillisec else 1

end IotClient
