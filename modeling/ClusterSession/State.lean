/-
  ClusterSession: the client's side of one session.

  * `SessionStatus`: the four statuses; `SessionStatus.canBecome` is a step of
    the lifecycle, and the last two statuses are terminal.
  * `SessionState`: identity, status, what watchers see of the status, and the
    sequence counters.  `SessionState.assign` fixes the session's number once,
    `SessionState.moveTo` takes legal steps only, and the counters never
    decrease.
  * `SessionState.summary`: identity, number and status in one line.
-/
import ClusterSession.Text.Visible

namespace ClusterSession

/-! ## Status -/

/-- Status of a session that has been registered, or closed before. -/
inductive SessionStatus where
  | opened
  /-- Heartbeats fail; the cluster may still know the session. -/
  | unstable
  | expired
  | closed
deriving DecidableEq, Repr

namespace SessionStatus

/-- No step leads away from a terminal status. -/
def isTerminal : SessionStatus → Bool
  | expired | closed => true
  | opened | unstable => false

def canBecome : SessionStatus → SessionStatus → Bool
  | opened, unstable | unstable, opened => true
  | opened, expired | opened, closed | unstable, expired | unstable, closed => true
  | _, _ => false

def name : SessionStatus → String
  | opened => "open"
  | unstable => "unstable"
  | expired => "expired"
  | closed => "closed"

/-- The word for a status in summaries. -/
def label : SessionStatus → String
  | opened => "Open"
  | unstable => "Unstable"
  | expired => "Expired"
  | closed => "Closed"

/-- The first status of a session, or a step of the lifecycle. -/
def mayFollow : Option SessionStatus → SessionStatus → Bool
  | none, next => next = opened || next = closed
  | some current, next => current.canBecome next

end SessionStatus

/-! ## State -/

/-- Identity, status and sequence counters of one session. -/
structure SessionState where
  clientId : String
  sessionId : Option UInt64
  status : Option SessionStatus
  watched : Option SessionStatus
  notices : Nat
  commandRequest : UInt64
  /-- The highest command number that was answered. -/
  commandResponse : UInt64
  responseIndex : UInt64
  eventIndex : UInt64
  /-- The highest event that the client has processed completely. -/
  completeIndex : UInt64
deriving DecidableEq, Repr

/-- The counters that the application moves. -/
inductive Counter where
  | commandResponse | responseIndex | eventIndex | completeIndex
deriving DecidableEq, Repr

namespace SessionState

/-- The state of a session that was never registered. -/
def fresh (clientId : String) : SessionState :=
  { clientId, sessionId := none, status := none, watched := none, notices := 0
    commandRequest := 0, commandResponse := 0, responseIndex := 0, eventIndex := 0
    completeIndex := 0 }

/-- Fixes the number of the session, unless it is fixed; says whether `id` is its number. -/
def assign (s : SessionState) (id : UInt64) : Bool × SessionState :=
  match s.sessionId with
  | none => (true, { s with sessionId := some id })
  | some current => (current = id, s)

/-- A number that is fixed stays. -/
theorem assign_eq (s : SessionState) (id : UInt64) :
    s.assign id = (decide (s.sessionId.or (some id) = some id),
      { s with sessionId := s.sessionId.or (some id) }) := by
  obtain ⟨clientId, sessionId⟩ := s
  cases sessionId <;> simp [assign]

/-- Moves to `next` and notifies watchers, if the lifecycle has such a step; says whether the
    status changed. -/
def moveTo (s : SessionState) (next : SessionStatus) : Bool × SessionState :=
  if SessionStatus.mayFollow s.status next then
    (true, { s with status := some next, watched := some next, notices := s.notices + 1 })
  else (false, s)

/-- Whether the session has reached a terminal status. -/
def isEnded (s : SessionState) : Bool :=
  s.status.any SessionStatus.isTerminal

/-- Whether the session is registered and has not ended. -/
def isLive (s : SessionState) : Bool :=
  s.status = some .opened || s.status = some .unstable

def nextCommand (s : SessionState) : UInt64 × SessionState :=
  (s.commandRequest + 1, { s with commandRequest := s.commandRequest + 1 })

/-- Raises a counter to `n`, unless it is higher. -/
def raise (s : SessionState) (n : UInt64) : Counter → SessionState
  | .commandResponse => { s with commandResponse := max s.commandResponse n }
  | .responseIndex => { s with responseIndex := max s.responseIndex n }
  | .eventIndex => { s with eventIndex := max s.eventIndex n }
  | .completeIndex => { s with completeIndex := max s.completeIndex n }

/-- The five counters, the allotted command number first. -/
def counters (s : SessionState) : List UInt64 :=
  [s.commandRequest, s.commandResponse, s.responseIndex, s.eventIndex, s.completeIndex]

/-- A value that may be missing, in a summary. -/
def summaryOf : Option String → String
  | some text => "Some(" ++ text ++ ")"
  | none => "None"

/-- Identity, number and status in one line. -/
def summary (s : SessionState) : String :=
  "SessionState \x7b client_id: " ++ Text.visible s.clientId ++
    ", session_id: " ++ summaryOf (s.sessionId.map toString) ++
    ", status: " ++ summaryOf (s.status.map SessionStatus.label) ++ ", .. \x7d"

end SessionState

end ClusterSession
