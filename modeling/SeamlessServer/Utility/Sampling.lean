import Mathlib.Data.Int.Notation

/-!
# Utility.Sampling — tick based timers

The timers of `common/utility/Sampling.h`.  The source reads the clock inside each operation; here
the tick it reads is an argument.
-/

namespace SeamlessServer
namespace Utility

/-- A point in time or a duration, in milliseconds. -/
abbrev Milliseconds := Int

structure Countdown where
  delay : Milliseconds
  startTime : Milliseconds
  deriving DecidableEq

/-- `Countdown(delay)`, constructed at the tick `now`. -/
def Countdown.start (delay now : Milliseconds) : Countdown :=
  ⟨delay, now⟩

/-- `Countdown::operator bool`. -/
def Countdown.elapsed (c : Countdown) (now : Milliseconds) : Bool :=
  decide (c.startTime + c.delay < now)

structure Throttler where
  tick : Milliseconds
  lastExecutionTime : Milliseconds
  deriving DecidableEq

/-- `Throttler::operator bool`, which restarts the period when it fires. -/
def Throttler.fire (t : Throttler) (now : Milliseconds) : Bool × Throttler :=
  if t.lastExecutionTime + t.tick ≤ now then
    (true, { t with lastExecutionTime := now })
  else
    (false, t)

end Utility
end SeamlessServer
