/-
  ClusterSession: lengths of time.

  * `Duration`: a length of time, to the nanosecond.
  * `Duration.millis` rounds down to whole milliseconds; `Duration.ticks`
    rounds up: a timer that is set for a duration goes off at the first whole
    millisecond by which it has passed.
-/

namespace ClusterSession

/-- A length of time. -/
structure Duration where
  nanos : Nat
deriving DecidableEq, Repr

namespace Duration

/-- So many milliseconds. -/
def ofMillis (n : Nat) : Duration := { nanos := n * 1000000 }

/-- So many seconds. -/
def ofSeconds (n : Nat) : Duration := { nanos := n * 1000000000 }

def half (d : Duration) : Duration := { nanos := d.nanos / 2 }

/-- Whole milliseconds, rounded down. -/
def millis (d : Duration) : Nat := d.nanos / 1000000

/-- Whole milliseconds, rounded up. -/
def ticks (d : Duration) : Nat := (d.nanos + 999999) / 1000000

theorem ticks_ofMillis (n : Nat) : (ofMillis n).ticks = n := by
  simp only [ticks, ofMillis]; omega

theorem ticks_ofSeconds (n : Nat) : (ofSeconds n).ticks = 1000 * n := by
  simp only [ticks, ofSeconds]; omega

theorem ticks_half_ofMillis (n : Nat) : (ofMillis n).half.ticks = (n + 1) / 2 := by
  simp only [ticks, half, ofMillis]; omega

end Duration

end ClusterSession
