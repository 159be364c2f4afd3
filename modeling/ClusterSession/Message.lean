/-
  ClusterSession: what a client and a member of the cluster say to each other.

  * `Request` and `Response`: the three calls `register`, `keep_alive` and
    `unregister`, and their answers.
  * `Verdict`: the part that all answers share.
  * `RequestFrame` and `ResponseFrame`: a request or response with the number
    that ties them together on one connection.
-/
import ClusterSession.Address

namespace ClusterSession

/-- How a member judged a request. -/
inductive ResponseStatus where
  | ok
  | error
deriving DecidableEq, Repr

/-- Why a member rejected a request. -/
inductive ErrorType where
  | noLeader
  | queryFailure
  | commandFailure
  | applicationError
  /-- The member cannot serve the request in its present role. -/
  | illegalMemberState
  /-- The cluster does not know the session, or no longer. -/
  | unknownSession
  | internal
deriving DecidableEq, Repr

/-- The word for a reason in the wording of failures. -/
def ErrorType.label : ErrorType → String
  | noLeader => "NoLeader"
  | queryFailure => "QueryFailure"
  | commandFailure => "CommandFailure"
  | applicationError => "ApplicationError"
  | illegalMemberState => "IllegalMemberState"
  | unknownSession => "UnknownSession"
  | internal => "Internal"

/-- The judgement that every answer carries. -/
structure Verdict where
  status : ResponseStatus
  error : Option ErrorType
deriving DecidableEq, Repr

namespace Verdict

def accepted : Verdict := { status := .ok, error := none }

def rejected (e : ErrorType) : Verdict := { status := .error, error := some e }

def isOk (v : Verdict) : Bool := v.status = .ok

end Verdict

/-! ## Calls -/

/-- Registers a session for `client`. -/
structure RegisterRequest where
  client : String
deriving DecidableEq, Repr

/-- Renews a session and reports how far the client is. -/
structure KeepAliveRequest where
  session : UInt64
  /-- The highest command number that was answered. -/
  commandSequence : UInt64
  /-- The highest event that the client has processed completely. -/
  eventIndex : UInt64
deriving DecidableEq, Repr

/-- Ends a session. -/
structure UnregisterRequest where
  session : UInt64
deriving DecidableEq, Repr

/-- Answer to a `RegisterRequest`. -/
structure RegisterResponse extends Verdict where
  session : UInt64
  /-- Milliseconds after which the cluster forgets a silent session. -/
  timeout : UInt64
  leader : Option Address
  members : List Address
deriving DecidableEq, Repr

/-- Answer to a `KeepAliveRequest`. -/
structure KeepAliveResponse extends Verdict where
  leader : Option Address
  members : List Address
deriving DecidableEq, Repr

/-- Answer to an `UnregisterRequest`. -/
structure UnregisterResponse extends Verdict
deriving DecidableEq, Repr

namespace RegisterResponse

def accept (session timeout : UInt64) (leader : Option Address) (members : List Address) :
    RegisterResponse :=
  { Verdict.accepted with session, timeout, leader, members }

def reject (e : ErrorType) : RegisterResponse :=
  { Verdict.rejected e with session := 0, timeout := 0, leader := none, members := [] }

end RegisterResponse

namespace KeepAliveResponse

def accept (leader : Option Address) (members : List Address) : KeepAliveResponse :=
  { Verdict.accepted with leader, members }

def reject (e : ErrorType) : KeepAliveResponse :=
  { Verdict.rejected e with leader := none, members := [] }

end KeepAliveResponse

namespace UnregisterResponse

def accept : UnregisterResponse := { Verdict.accepted with }

def reject (e : ErrorType) : UnregisterResponse := { Verdict.rejected e with }

end UnregisterResponse

/-! ## Any call -/

/-- The three calls. -/
inductive Method where
  | register
  | keepAlive
  | unregister
deriving DecidableEq, Repr

def Method.name : Method → String
  | register => "register"
  | keepAlive => "keep_alive"
  | unregister => "unregister"

/-- Any request. -/
inductive Request where
  | register (r : RegisterRequest)
  | keepAlive (r : KeepAliveRequest)
  | unregister (r : UnregisterRequest)
deriving DecidableEq, Repr

def Request.method : Request → Method
  | register _ => .register
  | keepAlive _ => .keepAlive
  | unregister _ => .unregister

/-- Any response. -/
inductive Response where
  | register (r : RegisterResponse)
  | keepAlive (r : KeepAliveResponse)
  | unregister (r : UnregisterResponse)
deriving DecidableEq, Repr

namespace Response

def method : Response → Method
  | register _ => .register
  | keepAlive _ => .keepAlive
  | unregister _ => .unregister

/-- The judgement that a response carries. -/
def verdict : Response → Verdict
  | register r => r.toVerdict
  | keepAlive r => r.toVerdict
  | unregister r => r.toVerdict

end Response

/-! ## Frames -/

/-- A request and its number on a connection. -/
structure RequestFrame where
  id : UInt32
  body : Request
deriving DecidableEq, Repr

/-- A response and the number of the request that it answers. -/
structure ResponseFrame where
  id : UInt32
  body : Response
deriving DecidableEq, Repr

end ClusterSession
