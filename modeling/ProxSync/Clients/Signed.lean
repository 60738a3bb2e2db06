import ProxSync.Agent.Binding
import ProxSync.Clients.Breaker
/-!
# The requests a client signs

Every attempt of a call is signed for itself, with the second its clock shows and a new token as
its nonce, over the path with its query and the bytes of its body as they are sent. A request that
carries such a message passes every check of the agent as long as the two clocks are not further
apart than the window, and no other text than the one that was signed reads as its fields. The
check of the agent's health is signed as well, but nobody asks for its signature, so it is no call
here.
-/
open ProxSync.Lib
open ProxSync.Agent (Digests Method Request RequestAuthenticator isAscii isHex bars bars_append
  bars_upper bars_of_isHex bars_of_float)

namespace ProxSync.Clients

/-! ## What is signed -/

/-- How the library writes the parameters of a query, in which it escapes bars. -/
structure QueryParams where
  encode : List (String × String) → String
  encode_plain : ∀ params, bars (encode params) = 0

/-- A client and an agent that are configured with one key id and one secret. -/
structure Link where
  digests : Digests
  hmac_some : ∀ secret text, digests.hmac secret text ≠ ""
  queryParams : QueryParams
  config : BreakerConfig
  auth : RequestAuthenticator
  nonceCacheSize : Nat
  keyId_some : auth.keyId ≠ ""
  keyId_ascii : isAscii auth.keyId = true

/-- The one path that the agent serves without asking for a signature. -/
def healthPath : String := "/health"

/-- A call of the client to a route that asks for a signature; its path is made of fixed words and
of names of artifacts and tasks. -/
structure Call where
  method : Method
  path : String
  params : List (String × String)
  /-- The bytes of the payload in JSON, where there is one. -/
  payload : Option (List UInt8)
  /-- The correlation id of the context, empty where there is none. -/
  correlationId : String
  plain : bars path = 0
  authenticated : path ≠ healthPath
  deriving DecidableEq

namespace Call

/-- The path with the query, where there is one. -/
def signedPath (link : Link) (call : Call) : String :=
  let query := link.queryParams.encode call.params
  if query = "" then call.path else call.path ++ "?" ++ query

/-- The bytes that are signed and sent. -/
def body (call : Call) : List UInt8 := call.payload.getD []

/-- Whether the call may be tried again. -/
def retryable (call : Call) : Bool := call.method == .get

end Call

/-- `METHOD|path?query|timestamp|nonce|sha256(body)`. -/
def buildCanonicalString (digests : Digests) (method : Method) (path timestamp nonce : String)
    (body : List UInt8) : String :=
  method.upper ++ "|" ++ path ++ "|" ++ timestamp ++ "|" ++ nonce ++ "|" ++ digests.sha256 body

/-- The keyed digest of the canonical string. -/
def sign (digests : Digests) (secret : String) (method : Method) (path timestamp nonce : String)
    (body : List UInt8) : String :=
  digests.hmac secret (buildCanonicalString digests method path timestamp nonce body)

/-- Sixteen random bytes as they are written in hexadecimal digits. -/
def isToken (nonce : String) : Bool := nonce.length == 32 && nonce.toList.all isHex

/-- What an attempt is signed with: the second of the clock, which a double holds, and a token. -/
structure Stamp where
  seconds : Nat
  nonce : String
  seconds_lt : seconds < 2 ^ 53
  nonce_token : isToken nonce = true
  deriving DecidableEq

/-- The second as a text. -/
def Stamp.timestamp (stamp : Stamp) : String := toString stamp.seconds

/-- An attempt of a call. -/
structure Message where
  /-- The number of the call. -/
  owner : Nat
  call : Call
  stamp : Stamp
  deriving DecidableEq

namespace Message

/-- The text that is signed. -/
def text (link : Link) (message : Message) : String :=
  buildCanonicalString link.digests message.call.method (message.call.signedPath link)
    message.stamp.timestamp message.stamp.nonce message.call.body

/-- The signature of a message. -/
def signature (link : Link) (message : Message) : String :=
  sign link.digests link.auth.secret message.call.method (message.call.signedPath link)
    message.stamp.timestamp message.stamp.nonce message.call.body

/-- The headers that carry the signature, with the correlation id where there is one. -/
def headers (link : Link) (message : Message) : List (String × String) :=
  [("X-ProxSync-Key", link.auth.keyId), ("X-ProxSync-Timestamp", message.stamp.timestamp),
    ("X-ProxSync-Nonce", message.stamp.nonce),
    ("X-ProxSync-Signature", message.signature link)] ++
  if message.call.correlationId = "" then []
  else [("X-Correlation-ID", message.call.correlationId)]

/-- The headers, with the type of the body where there is a payload. -/
def prepareHeaders (link : Link) (message : Message) : List (String × String) :=
  message.headers link ++
    if message.call.payload.isSome then [("Content-Type", "application/json")] else []

/-- The message as it is handed over at an instant, behind other headers of the library. -/
def received (link : Link) (message : Message) (others : List (String × String)) (now : ℚ) :
    Request where
  method := message.call.method
  urlPath := message.call.path
  urlQuery := link.queryParams.encode message.call.params
  headers := others ++ message.prepareHeaders link
  body := message.call.body
  now := now

end Message

/-- A request has the fields and the signature of a message. -/
structure Carries (link : Link) (message : Message) (request : Request) : Prop where
  method : request.method = message.call.method
  path : request.path = message.call.signedPath link
  body : request.body = message.call.body
  keyId : request.keyId = link.auth.keyId
  timestamp : request.timestamp = message.stamp.timestamp
  nonce : request.nonce = message.stamp.nonce
  signature : request.signature = message.signature link

instance (link : Link) (message : Message) (request : Request) :
    Decidable (Carries link message request) :=
  decidable_of_iff
    (request.method = message.call.method ∧ request.path = message.call.signedPath link ∧
      request.body = message.call.body ∧ request.keyId = link.auth.keyId ∧
      request.timestamp = message.stamp.timestamp ∧ request.nonce = message.stamp.nonce ∧
      request.signature = message.signature link)
    ⟨fun fields => ⟨fields.1, fields.2.1, fields.2.2.1, fields.2.2.2.1, fields.2.2.2.2.1,
      fields.2.2.2.2.2.1, fields.2.2.2.2.2.2⟩,
    fun carries => ⟨carries.method, carries.path, carries.body, carries.keyId, carries.timestamp,
      carries.nonce, carries.signature⟩⟩

/-- The clocks are not further apart than the window. -/
def Near (link : Link) (message : Message) (request : Request) : Prop :=
  |request.now - message.stamp.seconds| ≤ link.auth.windowSeconds

instance (link : Link) (message : Message) (request : Request) :
    Decidable (Near link message request) := inferInstanceAs (Decidable (_ ≤ _))

variable {link : Link} {message : Message} {request : Request}

/-! ## What a message becomes on the way -/

/-- The last header of a name is the one that counts. -/
theorem header_of_last {name value : String} (front back : List (String × String))
    (headers : request.headers = front ++ (name, value) :: back)
    (last : Lib.lower name ∉ back.map fun header => Lib.lower header.1) :
    request.header name = value := by
  have behind : back.reverse.find? (fun header => Lib.lower header.1 == Lib.lower name) = none := by
    apply List.find?_eq_none.mpr
    intro header inside found
    apply last
    rw [← beq_iff_eq.mp found]
    exact List.mem_map_of_mem (List.mem_reverse.mp inside)
  unfold Request.header
  rw [headers, List.reverse_append, List.reverse_cons, List.append_assoc, List.find?_append, behind]
  simp

/-- The headers behind those of the signature. -/
def Message.otherHeaders (message : Message) : List (String × String) :=
  (if message.call.correlationId = "" then []
    else [("X-Correlation-ID", message.call.correlationId)]) ++
  if message.call.payload.isSome then [("Content-Type", "application/json")] else []

/-- The other headers are the correlation and the content type. -/
theorem mem_otherHeaders {name : String}
    (inside : name ∈ message.otherHeaders.map fun header => Lib.lower header.1) :
    name = "x-correlation-id" ∨ name = "content-type" := by
  unfold Message.otherHeaders at inside
  rw [List.map_append, List.mem_append] at inside
  rcases inside with correlation | content
  · left
    split at correlation
    · exact absurd correlation List.not_mem_nil
    · rw [List.map_singleton, List.mem_singleton] at correlation
      exact correlation.trans (show Lib.lower "X-Correlation-ID" = _ by decide)
  · right
    split at content
    · rw [List.map_singleton, List.mem_singleton] at content
      exact content.trans (by decide)
    · exact absurd content List.not_mem_nil

/-- Whatever other headers come before it, the agent is handed the message. -/
theorem carries_received (others : List (String × String)) (now : ℚ) :
    Carries link message (message.received link others now) := by
  have behind : ∀ {name : String}, name ≠ "x-correlation-id" → name ≠ "content-type" →
      name ∉ message.otherHeaders.map fun header => Lib.lower header.1 := by
    intro name correlation content inside
    rcases mem_otherHeaders inside with other | other
    · exact correlation other
    · exact content other
  have whole : (message.received link others now).headers = others ++
      ("X-ProxSync-Key", link.auth.keyId) :: ("X-ProxSync-Timestamp", message.stamp.timestamp) ::
        ("X-ProxSync-Nonce", message.stamp.nonce) ::
        ("X-ProxSync-Signature", message.signature link) :: message.otherHeaders := by
    unfold Message.received Message.prepareHeaders Message.headers Message.otherHeaders
    simp only [List.cons_append, List.nil_append]
  constructor
  · rfl
  · rfl
  · rfl
  · apply header_of_last others _ whole
    simp only [List.map_cons, List.mem_cons, not_or]
    exact ⟨by decide, by decide, by decide, behind (by decide) (by decide)⟩
  · apply header_of_last (others ++ [_]) _ (by rw [whole, List.append_assoc]; rfl)
    simp only [List.map_cons, List.mem_cons, not_or]
    exact ⟨by decide, by decide, behind (by decide) (by decide)⟩
  · apply header_of_last (others ++ [_, _]) _ (by rw [whole, List.append_assoc]; rfl)
    simp only [List.map_cons, List.mem_cons, not_or]
    exact ⟨by decide, behind (by decide) (by decide)⟩
  · apply header_of_last (others ++ [_, _, _]) _ (by rw [whole, List.append_assoc]; rfl)
    exact behind (by decide) (by decide)

/-! ## What the agent makes of it -/

/-- A token is a text of 32 hexadecimal digits. -/
theorem isToken_iff {nonce : String} :
    isToken nonce = true ↔ nonce.length = 32 ∧ ∀ char ∈ nonce.toList, isHex char = true := by
  unfold isToken
  rw [Bool.and_eq_true, beq_iff_eq, List.all_eq_true]

/-- The signature of a message is the digest of its text. -/
theorem signature_eq : message.signature link =
    link.digests.hmac link.auth.secret (message.text link) := rfl

/-- The agent expects the signature a message has. -/
theorem Carries.expected (carries : Carries link message request) :
    link.auth.expected link.digests request = message.signature link := by
  unfold RequestAuthenticator.expected
  rw [carries.method, carries.path, carries.body, carries.timestamp, carries.nonce]
  rfl

/-- The timestamp of a carried message is read as its seconds. -/
theorem Carries.float (carries : Carries link message request) :
    Lib.float request.timestamp = some (.finite message.stamp.seconds) := by
  rw [carries.timestamp]
  exact float_toString_of_lt message.stamp.seconds_lt

/-- A request that carries a message passes every check while the clocks are near. -/
theorem checks_of_carries (carries : Carries link message request)
    (near : Near link message request) :
    link.auth.checks link.digests request = .ok () := by
  obtain ⟨size, hex⟩ := isToken_iff.mp message.stamp.nonce_token
  have signed : isAscii (message.signature link) = true := by
    rw [← carries.expected]
    exact RequestAuthenticator.isAscii_expected
  have headers : RequestAuthenticator.checkHeaders request = .ok () := by
    apply RequestAuthenticator.checkHeaders_ok.mpr
    refine ⟨?_, ?_, ?_, ?_⟩
    · rw [carries.keyId]
      exact link.keyId_some
    · intro absent
      have read := carries.float
      rw [absent, show Lib.float "" = none by decide] at read
      cases read
    · intro absent
      rw [← carries.nonce, absent] at size
      cases size
    · rw [carries.signature]
      exact link.hmac_some _ _
  have key : link.auth.checkKey request = .ok () := by
    rw [RequestAuthenticator.checkKey_of_isAscii (by rw [carries.keyId]; exact link.keyId_ascii)
      link.keyId_ascii, if_pos carries.keyId]
  have nonce : RequestAuthenticator.checkNonce request = .ok () := by
    apply RequestAuthenticator.checkNonce_ok.mpr
    rw [carries.nonce, size]
    omega
  have timestamp : link.auth.checkTimestamp request = .ok () := by
    apply RequestAuthenticator.checkTimestamp_ok.mpr
    refine ⟨_, carries.float, ?_⟩
    exact decide_eq_false (not_lt.mpr near)
  have signature : link.auth.checkSignature link.digests request = .ok () := by
    unfold RequestAuthenticator.checkSignature
    rw [carries.expected, carries.signature,
      RequestAuthenticator.compareDigest_of_isAscii signed signed]
    simp only [beq_self_eq_true]
    rfl
  unfold RequestAuthenticator.checks
  rw [headers, key, nonce, timestamp]
  exact signature

/-- The text of a request as the agent joins it. -/
def requestText (link : Link) (request : Request) : String :=
  Agent.buildCanonicalString link.digests request.method request.path request.timestamp
    request.nonce request.body

/-- A signed path has no bars. -/
theorem bars_signedPath (call : Call) : bars (call.signedPath link) = 0 := by
  unfold Call.signedPath
  dsimp only
  split
  · exact call.plain
  · rw [bars_append, bars_append, call.plain, link.queryParams.encode_plain]
    decide

/-- No other fields than those of a message read as its text. -/
theorem carries_of_text {value : PyFloat} (key : request.keyId = link.auth.keyId)
    (read : Lib.float request.timestamp = some value)
    (signed : request.signature = link.auth.expected link.digests request)
    (same : message.text link = requestText link request)
    (body : message.call.body = request.body) : Carries link message request := by
  have plain : bars message.stamp.timestamp = 0 :=
    bars_of_float (float_toString_of_lt message.stamp.seconds_lt)
  have token : bars message.stamp.nonce = 0 :=
    bars_of_isHex (isToken_iff.mp message.stamp.nonce_token).2
  have nonces : bars message.stamp.nonce = bars request.nonce := by
    have total := congrArg bars same
    unfold Message.text buildCanonicalString requestText Agent.buildCanonicalString at total
    simp only [bars_append, bars_upper, bars_signedPath, plain, token, bars_of_float read, body]
      at total
    omega
  obtain ⟨method, path, timestamp, nonce, -⟩ :=
    Agent.buildCanonicalString_inj same plain (bars_of_float read) nonces
  constructor
  · exact method.symm
  · exact path.symm
  · exact body.symm
  · exact key
  · exact timestamp.symm
  · exact nonce.symm
  · rw [signed, signature_eq, same]
    rfl

end ProxSync.Clients
