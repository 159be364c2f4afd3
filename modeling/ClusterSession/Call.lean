/-
  ClusterSession: typed calls.

  A request for one call is answered by a response to the same call;
  `Response.toRegister`, `Response.toKeepAlive` and `Response.toUnregister` take
  the answer out of a response, or refuse the response of another call.
-/
import ClusterSession.Failure
import ClusterSession.Message

namespace ClusterSession

/-- The refusal of a response to another call. -/
def unexpected (expected : Method) (r : Response) : ConnectionError :=
  .protocol ("expected " ++ expected.name ++ " response, got " ++ r.method.name)

namespace Response

def toRegister : Response → Except ConnectionError RegisterResponse
  | register r => .ok r
  | r => .error (unexpected .register r)

/-- The answer to a `KeepAliveRequest`. -/
def toKeepAlive : Response → Except ConnectionError KeepAliveResponse
  | keepAlive r => .ok r
  | r => .error (unexpected .keepAlive r)

/-- The answer to an `UnregisterRequest`. -/
def toUnregister : Response → Except ConnectionError UnregisterResponse
  | unregister r => .ok r
  | r => .error (unexpected .unregister r)

/-- The response, if it is one to the call `m`. -/
def expecting (m : Method) (r : Response) : Except ConnectionError Response :=
  if r.method = m then .ok r else .error (unexpected m r)

end Response

end ClusterSession
