/-
  ClusterSession: what to do after a failed attempt to register.

  * `StrategyConfig`: the built-in strategies; `StrategyConfig.decide` is their
    decision after an attempt.
  * `Strategy`: any strategy, as its decision after each consultation.
-/
import ClusterSession.Duration
import ClusterSession.Failure
import ClusterSession.Wire

namespace ClusterSession

open Json

/-- Why an attempt failed. -/
inductive AttemptFailure where
  /-- The cluster rejected the request, perhaps with a reason. -/
  | rejected (reason : Option ErrorType)
  | connection (e : ConnectionError)
deriving DecidableEq, Repr

def AttemptFailure.message : AttemptFailure → String
  | rejected (some reason) => "rejected: " ++ reason.label
  | rejected none => "rejected"
  | connection e => e.message

/-- A failed attempt; attempts are numbered from one. -/
structure Attempt where
  number : UInt32
  failure : AttemptFailure
deriving DecidableEq, Repr

/-- What follows a failed attempt. -/
inductive Decision where
  | now
  | after (delay : Duration)
  | fail (error : Option SessionError)
deriving DecidableEq, Repr

/-- The built-in strategies. -/
inductive StrategyConfig where
  | once
  /-- Waits twice as long each time, up to five seconds. -/
  | exponentialBackoff
  /-- Waits 1, 1, 2, 3, 5, 5, … seconds. -/
  | fibonacciBackoff
  /-- Gives up after so many attempts. -/
  | fixedAttempts (maxAttempts : UInt32) (delayMs : UInt64)
deriving DecidableEq, Repr, Inhabited

/-- A shift to the left, which fails if it is by as many bits as there are, or more. -/
def checkedShl (x : UInt64) (n : UInt32) : Option UInt64 :=
  if n < 64 then some (x <<< n.toUInt64) else none

def maxBackoffSeconds : UInt64 := 5

/-- Seconds to wait after attempt `n`: `2 ^ n`, but at most five. -/
def exponentialSeconds (n : UInt32) : UInt64 :=
  min ((checkedShl 1 n).getD (.ofNat (UInt64.size - 1))) maxBackoffSeconds

/-- Seconds to wait after the first attempts. -/
def fibonacciTable : Vector UInt64 5 := #v[1, 1, 2, 3, 5]

/-- Seconds to wait after attempt `n`; where the table ends, they stay the same. -/
def fibonacciSeconds (n : UInt32) : UInt64 :=
  fibonacciTable[min (n.toNat - 1) (fibonacciTable.size - 1)]

namespace StrategyConfig

/-- The decision after a failed attempt. -/
def decide (c : StrategyConfig) (a : Attempt) : Decision :=
  match c with
  | once => .fail none
  | exponentialBackoff => .after (.ofSeconds (exponentialSeconds a.number).toNat)
  | fibonacciBackoff => .after (.ofSeconds (fibonacciSeconds a.number).toNat)
  | fixedAttempts maxAttempts delayMs =>
    if maxAttempts ≤ a.number then .fail none
    else if delayMs = 0 then .now
    else .after (.ofMillis delayMs.toNat)

def toValue : StrategyConfig → Value
  | once => .object [("kind", .string "once")]
  | exponentialBackoff => .object [("kind", .string "exponentialBackoff")]
  | fibonacciBackoff => .object [("kind", .string "fibonacciBackoff")]
  | fixedAttempts maxAttempts delayMs =>
    .object [("kind", .string "fixedAttempts"), ("maxAttempts", .ofNat maxAttempts.toNat),
      ("delayMs", .ofNat delayMs.toNat)]

/-- How the members of a fixed number of attempts are read. -/
def fixedRecord : Record (UInt32 × UInt64) where
  blank := (0, 0)
  fields :=
    [.must "maxAttempts" .uint32 fun v p => (v, p.2),
      .may "delayMs" .uint64 fun v p => (p.1, v)]

def decoder : Decoder StrategyConfig :=
  .tagged "kind"
    [.constant "once" once, .constant "exponentialBackoff" exponentialBackoff,
      .constant "fibonacciBackoff" fibonacciBackoff,
      .ofRecord "fixedAttempts" fixedRecord fun p => fixedAttempts p.1 p.2]

end StrategyConfig

/-- A strategy: its decision when it is consulted for the `n`-th time, counted from zero. -/
structure Strategy where
  decide : (n : Nat) → Attempt → Decision

/-- A built-in strategy decides by the attempt alone. -/
def StrategyConfig.strategy (c : StrategyConfig) : Strategy where
  decide _ a := c.decide a

end ClusterSession
