/-
  ClusterSession: the configuration of a session.

  * `SessionConfig`: the settings, and their JSON form, in which every setting
    may be left out.
  * `SessionConfig.validate`: the settings that are refused.
  * `SessionConfig.parse` and `SessionConfig.load`: a configuration from a text
    or the contents of a file.
-/
import ClusterSession.Strategy

namespace ClusterSession

open Json

/-! ## Blank text -/

/-- The characters that Unicode counts as white space. -/
def isWhiteSpace (c : Char) : Bool :=
  let n := c.toNat
  (9 ≤ n && n ≤ 13) || n = 0x20 || n = 0x85 || n = 0xA0 || n = 0x1680 ||
    (0x2000 ≤ n && n ≤ 0x200A) || n = 0x2028 || n = 0x2029 || n = 0x202F || n = 0x205F ||
    n = 0x3000

/-- Whether a text holds nothing but white space. -/
def isBlankText (s : String) : Bool :=
  s.toList.all isWhiteSpace

/-! ## Settings -/

/-- The settings of a session. -/
structure SessionConfig where
  /-- Identity of the client; a random one if there is none. -/
  clientId : Option String
  /-- Milliseconds after which a request is given up. -/
  requestTimeoutMs : UInt64
  strategy : StrategyConfig
  selection : SelectionStrategy
  members : List Address
deriving DecidableEq, Repr

namespace SessionConfig

/-- The settings that hold where nothing else is said. -/
def standard : SessionConfig :=
  { clientId := none, requestTimeoutMs := 5000, strategy := .once, selection := .any
    members := [] }

/-- Refuses settings that make no sense; the first one of them is named. -/
def validate (c : SessionConfig) : Except SessionError Unit :=
  if c.requestTimeoutMs = 0 then
    .error (.config "requestTimeoutMs must be greater than zero")
  else if c.clientId.any isBlankText then
    .error (.config "clientId must not be blank")
  else match c.strategy with
    | .fixedAttempts 0 _ => .error (.config "strategy.maxAttempts must be at least 1")
    | _ => .ok ()

/-- The request timeout as a length of time. -/
def requestTimeout (c : SessionConfig) : Duration :=
  .ofMillis c.requestTimeoutMs.toNat

/-- Sets the request timeout, in whole milliseconds, to as much of `d` as fits. -/
def withRequestTimeout (c : SessionConfig) (d : Duration) : SessionConfig :=
  { c with requestTimeoutMs := UInt64.ofNat (min d.millis (UInt64.size - 1)) }

def selector (c : SessionConfig) : Selector :=
  .ofServers c.selection c.members

/-- The state of a new session; `random` is its identity if the settings have none. -/
def sessionState (c : SessionConfig) (random : String) : SessionState :=
  .fresh (c.clientId.getD random)

/-! ## JSON form -/

/-- The document of a configuration; a missing identity is left out. -/
def toValue (c : SessionConfig) : Value :=
  .object (optional "clientId" (c.clientId.map .string) ++
    [("requestTimeoutMs", .ofNat c.requestTimeoutMs.toNat), ("strategy", c.strategy.toValue),
      ("selection", c.selection.toValue), ("members", membersValue c.members)])

def record : Record SessionConfig where
  blank := standard
  fields :=
    [.may "clientId" Decoder.text.nullable fun v c => { c with clientId := v },
      .may "requestTimeoutMs" .uint64 fun v c => { c with requestTimeoutMs := v },
      .may "strategy" StrategyConfig.decoder fun v c => { c with strategy := v },
      .may "selection" SelectionStrategy.decoder fun v c => { c with selection := v },
      .may "members" Address.decoder.list fun v c => { c with members := v }]

def decoder : Decoder SessionConfig := record.decoder

/-- The configuration that a text denotes, if it makes sense. -/
def parse (s : String) : Except SessionError SessionConfig := do
  match decoder.fromText s with
  | .error fault => .error (.json fault)
  | .ok c =>
    c.validate
    .ok c

/-- The configuration in a file of these bytes; there may be no such file. -/
def load (file : Option ByteArray) : Except SessionError SessionConfig :=
  match file with
  | none => .error (.io "No such file or directory (os error 2)")
  | some bytes =>
    match String.fromUTF8? bytes with
    | none => .error (.io "stream did not contain valid UTF-8")
    | some s => parse s

end SessionConfig

end ClusterSession
