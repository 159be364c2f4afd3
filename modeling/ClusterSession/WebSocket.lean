/-
  ClusterSession: JSON messages over a web socket.

  * `Frame.document?`: the document that a frame carries.  Frames that carry
    none are passed over.
  * `receive`: reads frames up to the one that ends the socket.
  * `opens`: whether a socket is opened; `isPath` says which paths make a URL.
  * `visit`: opens a socket, sends documents, and reads to the end.
-/
import ClusterSession.Failure
import ClusterSession.Address
import ClusterSession.Json.Reader
import ClusterSession.Json.Writer

namespace ClusterSession.WebSocket

open Json

/-- What may come over a socket. -/
inductive Frame where
  | text (s : String)
  | binary (bytes : ByteArray)
  | ping
  | pong
  | close
  /-- The socket breaks: the peer is gone, or has sent what is no frame. -/
  | lost

/-- The document in a text, if it is one. -/
def document? (s : String) : Option Value :=
  match parse s with
  | .ok v => some v
  | .error _ => none

def Frame.document? : Frame → Option Value
  | text s => WebSocket.document? s
  | binary bytes => (String.fromUTF8? bytes).bind WebSocket.document?
  | ping | pong | close | lost => none

/-- How reading stands. -/
inductive Reading where
  | running
  | ended (result : Except ConnectionError Unit)

/-- The documents that the frames deliver, and how reading stands after them.  If nobody takes
    the documents, reading ends with the first. -/
def receive (taken : Bool) : List Frame → List Value × Reading
  | [] => ([], .running)
  | .close :: _ => ([], .ended (.ok ()))
  | .lost :: _ => ([], .ended (.error .webSocket))
  | f :: rest =>
    match f.document? with
    | none => receive taken rest
    | some v =>
      if taken then
        let (vs, reading) := receive taken rest
        (v :: vs, reading)
      else ([], .ended (.ok ()))

/-! ## Connecting -/

/-- Whether a path makes a URL after a host and a port. -/
def isPath (path : String) : Bool :=
  match path.toList with
  | [] => true
  | c :: rest => (c = '/' || c = '?') && rest.all fun d => 0x20 < d.toNat && d.toNat ≠ 0x7F

def requestedPath (path : String) : String :=
  match path.toList with
  | '/' :: _ => path
  | _ => "/" ++ path

/-- How those who knock are treated. -/
inductive Listener where
  | accepts
  /-- Nobody listens, or nobody can be reached. -/
  | refuses
  /-- The socket is dropped before it is opened. -/
  | hangsUp
deriving DecidableEq, Repr

def opens (listener : Listener) (path : String) : Bool :=
  listener = .accepts && isPath path

/-! ## A visit -/

/-- What comes of a socket that was opened. -/
structure Visit where
  sent : List String
  received : List Value
  /-- How reading stands after the peer's last frame. -/
  reading : Reading

/-- Opens a socket, sends documents, and reads the frames that the peer then sends. -/
def visit (listener : Listener) (documents : List Value) (taken : Bool) (frames : List Frame) :
    Except ConnectionError Visit :=
  if opens listener "" then
    let (received, reading) := receive taken frames
    .ok { sent := documents.map (·.canonical.compact), received, reading }
  else .error .webSocket

end ClusterSession.WebSocket
