/-
  ClusterSession: why things fail.

  * `ConnectionError`: a request did not reach a member or came back without an
    answer.  `ConnectionError.breaksLink` says which of these make the link to
    the member unusable.
  * `SessionError`: what the caller of a session, or of its configuration, gets
    to see.
  * `message`: the wording of each.
-/
import ClusterSession.Json.Value

namespace ClusterSession

open Json

/-- Why a request brought no answer. -/
inductive ConnectionError where
  /-- A message could not be delivered or received. -/
  | transport (text : String)
  /-- The connection was closed before the answer came. -/
  | connectionClosed
  /-- The wait for the answer was given up on the other side. -/
  | channelClosed
  | timeout (text : String)
  /-- The member broke the rules of the conversation. -/
  | protocol (text : String)
  | noServersAvailable
  | unreadable (fault : Fault)
  | webSocket
deriving DecidableEq, Repr

namespace ConnectionError

def message : ConnectionError → String
  | transport text => "transport error: " ++ text
  | connectionClosed => "connection closed"
  | channelClosed => "response channel closed"
  | timeout text => "timed out: " ++ text
  | protocol text => "protocol error: " ++ text
  | noServersAvailable => "no servers available"
  | unreadable fault => "serialization error: " ++ fault.message
  | webSocket => "websocket error"

def isTimeout : ConnectionError → Bool
  | timeout _ => true
  | _ => false

/-- Whether the link to the member is unusable. -/
def breaksLink : ConnectionError → Bool
  | transport _ | connectionClosed | channelClosed | webSocket | noServersAvailable => true
  | timeout _ | protocol _ | unreadable _ => false

end ConnectionError

/-- What the caller of a session gets to see. -/
inductive SessionError where
  | connection (e : ConnectionError)
  | registrationFailed (text : String)
  | sessionExpired
  | sessionClosed
  | managerStopped
  | config (text : String)
  | io (text : String)
  | json (fault : Fault)
deriving DecidableEq, Repr

namespace SessionError

def message : SessionError → String
  | connection e => e.message
  | registrationFailed text => text
  | sessionExpired => "session expired"
  | sessionClosed => "session closed"
  | managerStopped => "session manager stopped"
  | config text => "invalid configuration: " ++ text
  | io text => "I/O error: " ++ text
  | json fault => "JSON error: " ++ fault.message

/-- The error of a strategy that gives up without a cause. -/
def gaveUp : SessionError := registrationFailed "failed to register session"

def isTerminal : SessionError → Bool
  | sessionExpired | sessionClosed => true
  | _ => false

/-- The error for those who waited for the same thing as the one who gets `e` itself. -/
def echo : SessionError → SessionError
  | sessionClosed => sessionClosed
  | sessionExpired => sessionExpired
  | e => registrationFailed e.message

end SessionError

end ClusterSession
