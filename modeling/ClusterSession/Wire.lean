/-
  ClusterSession: the JSON form of addresses, messages and frames.

  * `toValue`: the document of a value, its members in the order of the fields;
    a missing error or leader is left out.
  * `decoder`: reads such documents.  Members that are not declared are passed
    over; session, timeout and members may be left out of an answer.
-/
import ClusterSession.Message
import ClusterSession.Selector
import ClusterSession.State
import ClusterSession.Json.Decoder
import ClusterSession.Json.Writer

namespace ClusterSession

open Json

/-! ## Building documents -/

def Json.Value.ofNat (n : Nat) : Value := .number (.natural n)

/-- A member that is left out if there is no value. -/
def Json.optional (name : String) (v : Option Value) : List (String × Value) :=
  match v with
  | some v => [(name, v)]
  | none => []

/-- The name that stands for a value of a closed set. -/
def Json.nameOf {α : Type} [DecidableEq α] (names : List (String × α)) (a : α) : Value :=
  match names.find? (·.2 = a) with
  | some (name, _) => .string name
  | none => .null

def Json.Field.must {α β : Type} (name : String) (d : Decoder β) (set : β → α → α) : Field α :=
  { name, required := true, setter := d.map set }

def Json.Field.may {α β : Type} (name : String) (d : Decoder β) (set : β → α → α) : Field α :=
  { name, required := false, setter := d.map set }

/-! ## Addresses -/

namespace Address

def toValue (a : Address) : Value := .string a.display

def decoder : Decoder Address :=
  Decoder.text.refine fun s =>
    match parse s with
    | .ok a => .ok a
    | .error e => .error (.refused e.message)

end Address

/-- The members of a cluster, in order. -/
def membersValue (members : List Address) : Value :=
  .array (members.map Address.toValue)

/-! ## Closed sets of names -/

/-- The names of the statuses of a response. -/
def ResponseStatus.names : List (String × ResponseStatus) :=
  [("OK", .ok), ("ERROR", .error)]

/-- The names of the reasons for a rejection. -/
def ErrorType.names : List (String × ErrorType) :=
  [("NO_LEADER", .noLeader), ("QUERY_FAILURE", .queryFailure),
    ("COMMAND_FAILURE", .commandFailure), ("APPLICATION_ERROR", .applicationError),
    ("ILLEGAL_MEMBER_STATE", .illegalMemberState), ("UNKNOWN_SESSION", .unknownSession),
    ("INTERNAL", .internal)]

/-- The names of the orders in which members are tried. -/
def SelectionStrategy.names : List (String × SelectionStrategy) :=
  [("any", .any), ("leader", .leader), ("followers", .followers)]

/-- The names of the statuses of a session. -/
def SessionStatus.names : List (String × SessionStatus) :=
  [("open", .opened), ("unstable", .unstable), ("expired", .expired), ("closed", .closed)]

def ResponseStatus.decoder : Decoder ResponseStatus := .name names

def ErrorType.decoder : Decoder ErrorType := .name names

/-- Reads an order in which members are tried. -/
def SelectionStrategy.decoder : Decoder SelectionStrategy := .name names

def SessionStatus.decoder : Decoder SessionStatus := .name names

/-- The status of a response is its name. -/
def ResponseStatus.toValue (s : ResponseStatus) : Value := nameOf names s

/-- The reason for a rejection is its name. -/
def ErrorType.toValue (e : ErrorType) : Value := nameOf names e

/-- An order in which members are tried is its name. -/
def SelectionStrategy.toValue (s : SelectionStrategy) : Value := nameOf names s

/-- The status of a session is its name. -/
def SessionStatus.toValue (s : SessionStatus) : Value := nameOf names s

/-! ## Requests -/

namespace RegisterRequest

def content (r : RegisterRequest) : List (String × Value) :=
  [("client", .string r.client)]

def record : Record RegisterRequest where
  blank := { client := "" }
  fields := [.must "client" .text fun v r => { r with client := v }]

end RegisterRequest

namespace KeepAliveRequest

def content (r : KeepAliveRequest) : List (String × Value) :=
  [("session", .ofNat r.session.toNat), ("command_sequence", .ofNat r.commandSequence.toNat),
    ("event_index", .ofNat r.eventIndex.toNat)]

def record : Record KeepAliveRequest where
  blank := { session := 0, commandSequence := 0, eventIndex := 0 }
  fields :=
    [.must "session" .uint64 fun v r => { r with session := v },
      .must "command_sequence" .uint64 fun v r => { r with commandSequence := v },
      .must "event_index" .uint64 fun v r => { r with eventIndex := v }]

end KeepAliveRequest

namespace UnregisterRequest

def content (r : UnregisterRequest) : List (String × Value) :=
  [("session", .ofNat r.session.toNat)]

def record : Record UnregisterRequest where
  blank := { session := 0 }
  fields := [.must "session" .uint64 fun v r => { r with session := v }]

end UnregisterRequest

/-! ## Responses -/

def Verdict.content (v : Verdict) : List (String × Value) :=
  ("status", v.status.toValue) :: optional "error" (v.error.map ErrorType.toValue)

namespace RegisterResponse

def content (r : RegisterResponse) : List (String × Value) :=
  r.toVerdict.content ++
    [("session", .ofNat r.session.toNat), ("timeout", .ofNat r.timeout.toNat)] ++
    optional "leader" (r.leader.map Address.toValue) ++
    [("members", membersValue r.members)]

def record : Record RegisterResponse where
  blank := .accept 0 0 none []
  fields :=
    [.must "status" ResponseStatus.decoder fun v r => { r with status := v },
      .may "error" ErrorType.decoder.nullable fun v r => { r with error := v },
      .may "session" .uint64 fun v r => { r with session := v },
      .may "timeout" .uint64 fun v r => { r with timeout := v },
      .may "leader" Address.decoder.nullable fun v r => { r with leader := v },
      .may "members" Address.decoder.list fun v r => { r with members := v }]

end RegisterResponse

namespace KeepAliveResponse

def content (r : KeepAliveResponse) : List (String × Value) :=
  r.toVerdict.content ++
    optional "leader" (r.leader.map Address.toValue) ++
    [("members", membersValue r.members)]

def record : Record KeepAliveResponse where
  blank := .accept none []
  fields :=
    [.must "status" ResponseStatus.decoder fun v r => { r with status := v },
      .may "error" ErrorType.decoder.nullable fun v r => { r with error := v },
      .may "leader" Address.decoder.nullable fun v r => { r with leader := v },
      .may "members" Address.decoder.list fun v r => { r with members := v }]

end KeepAliveResponse

namespace UnregisterResponse

def content (r : UnregisterResponse) : List (String × Value) :=
  r.toVerdict.content

def record : Record UnregisterResponse where
  blank := .accept
  fields :=
    [.must "status" ResponseStatus.decoder fun v r => { r with status := v },
      .may "error" ErrorType.decoder.nullable fun v r => { r with error := v }]

end UnregisterResponse

/-! ## Any call -/

/-- A call's members after the one that names the call. -/
def callValue (m : Method) (members : List (String × Value)) : Value :=
  .object (("type", .string m.name) :: members)

namespace Request

def toValue (r : Request) : Value :=
  callValue r.method <| match r with
    | register r => r.content
    | keepAlive r => r.content
    | unregister r => r.content

/-- Reads a request; its type may stand anywhere among the members. -/
def decoder : Decoder Request :=
  .tagged "type"
    [.ofRecord Method.register.name RegisterRequest.record register,
      .ofRecord Method.keepAlive.name KeepAliveRequest.record keepAlive,
      .ofRecord Method.unregister.name UnregisterRequest.record unregister]

end Request

namespace Response

def toValue (r : Response) : Value :=
  callValue r.method <| match r with
    | register r => r.content
    | keepAlive r => r.content
    | unregister r => r.content

/-- Reads a response; its type may stand anywhere among the members. -/
def decoder : Decoder Response :=
  .tagged "type"
    [.ofRecord Method.register.name RegisterResponse.record register,
      .ofRecord Method.keepAlive.name KeepAliveResponse.record keepAlive,
      .ofRecord Method.unregister.name UnregisterResponse.record unregister]

end Response

/-! ## Frames -/

namespace RequestFrame

/-- The document of a request with its number. -/
def toValue (f : RequestFrame) : Value :=
  .object [("id", .ofNat f.id.toNat), ("body", f.body.toValue)]

def record : Record RequestFrame where
  blank := { id := 0, body := .unregister { session := 0 } }
  fields :=
    [.must "id" .uint32 fun v f => { f with id := v },
      .must "body" Request.decoder fun v f => { f with body := v }]

def decoder : Decoder RequestFrame := record.decoder

end RequestFrame

namespace ResponseFrame

/-- The document of a response with its number. -/
def toValue (f : ResponseFrame) : Value :=
  .object [("id", .ofNat f.id.toNat), ("body", f.body.toValue)]

def record : Record ResponseFrame where
  blank := { id := 0, body := .unregister .accept }
  fields :=
    [.must "id" .uint32 fun v f => { f with id := v },
      .must "body" Response.decoder fun v f => { f with body := v }]

def decoder : Decoder ResponseFrame := record.decoder

def ofValue (v : Value) : Except Mismatch ResponseFrame := decoder.ofValue .document v

end ResponseFrame

end ClusterSession
