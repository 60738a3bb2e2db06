import ProxSync.Agent.Checksum
import ProxSync.Lib.Numeral
import ProxSync.Lib.OrderedDict
import ProxSync.Lib.Raising
/-!
# Signed requests

Every request to the agent but those for its health carries a key id, a timestamp, a nonce and a
signature in its headers. The signature is a keyed digest of a canonical string that joins the
method, the path with its query, the timestamp, the nonce and a digest of the body. A request that
passes the other checks claims its nonce in a bounded cache that forgets old nonces. The digests are
parameters, known only to be written in hexadecimal digits. A timestamp is the double nearest to its
numeral; the difference of two instants is exact, as that of doubles is which are within a factor of
two of each other.
-/
open ProxSync.Lib

namespace ProxSync.Agent

/-- The digests that signatures are made of. -/
structure Digests where
  sha256 : List UInt8 → String
  /-- The keyed digest of a text under a secret. -/
  hmac : String → String → String
  sha256_hex : ∀ body, ∀ char ∈ (sha256 body).toList, isHex char = true
  hmac_hex : ∀ secret text, ∀ char ∈ (hmac secret text).toList, isHex char = true

/-- The methods of the routes that ask for a signature. -/
inductive Method
  | get
  | post
  | delete
  deriving DecidableEq, Repr

/-- The method as it is written. -/
def Method.upper : Method → String
  | .get => "GET"
  | .post => "POST"
  | .delete => "DELETE"

/-- A request as the server hands it over, and the instant in seconds at which it is verified. -/
structure Request where
  method : Method
  urlPath : String
  urlQuery : String
  headers : List (String × String)
  body : List UInt8
  now : ℚ
  deriving DecidableEq, Repr

namespace Request

/-- The path with the query, where there is one. -/
def path (request : Request) : String :=
  if request.urlQuery = "" then request.urlPath else request.urlPath ++ "?" ++ request.urlQuery

/-- The last header of a name whatever its case, empty where there is none. -/
def header (request : Request) (name : String) : String :=
  ((request.headers.reverse.find? fun header => lower header.1 == lower name).map (·.2)).getD ""

/-- The key a request names. -/
def keyId (request : Request) : String := request.header "X-ProxSync-Key"
/-- The timestamp of a request. -/
def timestamp (request : Request) : String := request.header "X-ProxSync-Timestamp"
/-- The nonce of a request. -/
def nonce (request : Request) : String := request.header "X-ProxSync-Nonce"
/-- The signature of a request. -/
def signature (request : Request) : String := request.header "X-ProxSync-Signature"

end Request

/-- What is raised while a request is verified. -/
inductive Fault
  | authenticationFailed (message : String)
  | typeError (message : String)
  deriving DecidableEq, Repr

/-! ## The nonce cache -/

/-- The nonces seen, each with the instant it was claimed at. -/
structure NonceCache where
  ttlSeconds : Nat
  maxSize : Nat
  entries : OrderedDict String ℚ

namespace NonceCache

/-- An empty cache. -/
def empty (ttlSeconds maxSize : Nat) : NonceCache := ⟨ttlSeconds, maxSize, ∅⟩

/-- Forget the oldest nonces whose time has passed. -/
def purge (cache : NonceCache) (now : ℚ) : NonceCache :=
  { cache with
    entries := OrderedDict.dropOldest cache.entries fun seenAt => seenAt < now - cache.ttlSeconds }

/-- Whether a nonce is cached. -/
def contains (cache : NonceCache) (nonce : String) : Bool := (cache.entries.lookup nonce).isSome

/-- The number of cached nonces. -/
def size (cache : NonceCache) : Nat := cache.entries.entries.length

/-- Record a nonce that is not cached; the oldest ones beyond the size go. -/
def claim (cache : NonceCache) (nonce : String) (now : ℚ) : Bool × NonceCache :=
  let purged := cache.purge now
  if purged.contains nonce then (false, purged)
  else
    (true, { purged with
      entries := OrderedDict.newest (purged.entries.insert nonce now) cache.maxSize })

end NonceCache

/-! ## Verification -/

/-- `METHOD|/path?query|timestamp|nonce|sha256(body)`, the string that gets signed. -/
def buildCanonicalString (digests : Digests) (method : Method)
    (path timestamp nonce : String) (body : List UInt8) : String :=
  method.upper ++ "|" ++ path ++ "|" ++ timestamp ++ "|" ++ nonce ++ "|" ++ digests.sha256 body

/-- The signature of a request under a secret. -/
def signRequest (digests : Digests) (secret : String) (method : Method)
    (path timestamp nonce : String) (body : List UInt8) : String :=
  digests.hmac secret (buildCanonicalString digests method path timestamp nonce body)

/-- Whether all code points of a text are ASCII. -/
def isAscii (text : String) : Bool := text.toList.all fun char => char.toNat < 128

/-- Compare two texts in constant time, which is not supported for every text. -/
def compareDigest (left right : String) : Except Fault Bool :=
  if isAscii left && isAscii right then .ok (left == right)
  else .error (.typeError "comparing strings with non-ASCII characters is not supported")

/-- The distance from an instant. -/
def skewFrom (now : ℚ) : PyFloat → PyFloat
  | .nan => .nan
  | .infinite _ => .infinite false
  | .finite value => .finite |now - value|

/-- Whether a number is greater than a bound, which no number is that is not one. -/
def exceeds (bound : Nat) : PyFloat → Bool
  | .nan => false
  | .infinite negative => !negative
  | .finite value => bound < value

/-- A number without decimals. -/
def formatWhole : PyFloat → String
  | .nan => "nan"
  | .infinite negative => if negative then "-inf" else "inf"
  | .finite value => toString (roundHalfEven value)

/-- The verifier of the requests to one agent, whose secret may not be empty. -/
structure RequestAuthenticator where
  keyId : String
  secret : String
  windowSeconds : Nat
  configured : secret ≠ ""

namespace RequestAuthenticator

/-- The signature a request should have. -/
def expected (digests : Digests) (auth : RequestAuthenticator) (request : Request) : String :=
  signRequest digests auth.secret request.method request.path request.timestamp request.nonce
    request.body

/-- All four headers must be there. -/
def checkHeaders (request : Request) : Except Fault Unit :=
  if request.keyId = "" || request.timestamp = "" || request.nonce = "" || request.signature = ""
  then .error (.authenticationFailed "Missing request signature headers")
  else .ok ()

/-- The key id must be the configured one. -/
def checkKey (auth : RequestAuthenticator) (request : Request) : Except Fault Unit := do
  if ← compareDigest request.keyId auth.keyId then .ok ()
  else .error (.authenticationFailed "Unknown key id")

/-- The nonce must have from 8 to 128 code points. -/
def checkNonce (request : Request) : Except Fault Unit :=
  if 8 ≤ request.nonce.length && request.nonce.length ≤ 128 then .ok ()
  else .error (.authenticationFailed "Malformed nonce")

/-- The double nearest to the timestamp may not be further from now than the window. -/
def checkTimestamp (auth : RequestAuthenticator) (request : Request) : Except Fault Unit :=
  match float request.timestamp with
  | none => .error (.authenticationFailed "Malformed timestamp")
  | some requestTime =>
    let skew := skewFrom request.now requestTime
    if exceeds auth.windowSeconds skew then
      .error (.authenticationFailed
        (s!"Timestamp outside the permitted window ({formatWhole skew}s of " ++
          s!"{auth.windowSeconds}s). Check clock synchronisation between the dashboard and this " ++
          "host."))
    else .ok ()

/-- The signature must be the one expected. -/
def checkSignature (digests : Digests) (auth : RequestAuthenticator) (request : Request) :
    Except Fault Unit := do
  if ← compareDigest (auth.expected digests request) request.signature then .ok ()
  else .error (.authenticationFailed "Invalid request signature")

/-- The checks before the nonce is claimed, in order. -/
def checks (digests : Digests) (auth : RequestAuthenticator) (request : Request) :
    Except Fault Unit := do
  checkHeaders request
  auth.checkKey request
  checkNonce request
  auth.checkTimestamp request
  auth.checkSignature digests request

/-- Accept a request or raise, with the nonce cache afterwards. -/
def verify (digests : Digests) (auth : RequestAuthenticator) (cache : NonceCache)
    (request : Request) : Except Fault Unit × NonceCache :=
  match auth.checks digests request with
  | .error fault => (.error fault, cache)
  | .ok () =>
    let (claimed, cache) := cache.claim request.nonce request.now
    (if claimed then .ok () else .error (.authenticationFailed "Replayed nonce"), cache)

/-! ## What is accepted and what is raised -/

variable {digests : Digests} {auth : RequestAuthenticator} {cache : NonceCache} {request : Request}

/-- A comparison that answers says whether the texts are equal. -/
theorem compareDigest_ok {left right : String} {same : Bool}
    (compared : compareDigest left right = .ok same) : same = (left == right) := by
  unfold compareDigest at compared
  split at compared
  · exact (Except.ok.inj compared).symm
  · cases compared

/-- Two ASCII texts are compared. -/
theorem compareDigest_of_isAscii {left right : String} (first : isAscii left = true)
    (second : isAscii right = true) : compareDigest left right = .ok (left == right) := by
  unfold compareDigest
  rw [first, second]
  rfl

/-- A hexadecimal text is ASCII. -/
theorem isAscii_of_isHex {text : String} (hex : ∀ char ∈ text.toList, isHex char = true) :
    isAscii text = true := by
  apply List.all_eq_true.mpr
  intro char inside
  have digit : char ∈ "0123456789abcdef".toList := of_decide_eq_true (hex char inside)
  rw [show "0123456789abcdef".toList = ['0', '1', '2', '3', '4', '5', '6', '7', '8', '9', 'a', 'b',
    'c', 'd', 'e', 'f'] from rfl] at digit
  fin_cases digit <;> rfl

/-- The headers pass exactly when none of them is empty. -/
theorem checkHeaders_ok :
    checkHeaders request = .ok () ↔
      request.keyId ≠ "" ∧ request.timestamp ≠ "" ∧ request.nonce ≠ "" ∧
        request.signature ≠ "" := by
  unfold checkHeaders
  split
  · rename_i missing
    simp only [Bool.or_eq_true, decide_eq_true_eq] at missing
    constructor
    · intro refused
      cases refused
    · rintro ⟨key, timestamp, nonce, signature⟩
      rcases missing with ((absent | absent) | absent) | absent
      · exact absurd absent key
      · exact absurd absent timestamp
      · exact absurd absent nonce
      · exact absurd absent signature
  · rename_i present
    simp only [Bool.or_eq_true, decide_eq_true_eq, not_or] at present
    obtain ⟨⟨⟨key, timestamp⟩, nonce⟩, signature⟩ := present
    exact ⟨fun _ => ⟨key, timestamp, nonce, signature⟩, fun _ => rfl⟩

/-- A nonce passes exactly when its length is allowed. -/
theorem checkNonce_ok :
    checkNonce request = .ok () ↔ 8 ≤ request.nonce.length ∧ request.nonce.length ≤ 128 := by
  unfold checkNonce
  simp only [Bool.and_eq_true, decide_eq_true_eq]
  split
  · rename_i sized
    exact ⟨fun _ => sized, fun _ => rfl⟩
  · rename_i sized
    exact ⟨fun refused => (by cases refused), fun within => absurd within sized⟩

/-- A timestamp passes exactly when it is read as a number within the window. -/
theorem checkTimestamp_ok :
    auth.checkTimestamp request = .ok () ↔
      ∃ requestTime, float request.timestamp = some requestTime ∧
        exceeds auth.windowSeconds (skewFrom request.now requestTime) = false := by
  unfold checkTimestamp
  cases read : float request.timestamp with
  | none => simp
  | some requestTime =>
    simp only [Option.some.injEq, exists_eq_left']
    split
    · rename_i late
      rw [late]
      exact ⟨fun refused => (by cases refused), fun within => (by cases within)⟩
    · rename_i timely
      exact ⟨fun _ => Bool.eq_false_iff.mpr timely, fun _ => rfl⟩

/-- A signature that passes is the expected one. -/
theorem checkSignature_ok (accepted : auth.checkSignature digests request = .ok ()) :
    request.signature = auth.expected digests request := by
  obtain ⟨same, compared, chosen⟩ := bind_eq_ok.mp accepted
  have equal := compareDigest_ok compared
  split at chosen
  · rename_i found
    exact (beq_iff_eq.mp (equal.symm.trans found)).symm
  · cases chosen

/-- What holds of a request that was accepted. -/
structure Accepted (digests : Digests) (auth : RequestAuthenticator) (cache : NonceCache)
    (request : Request) : Prop where
  /-- Its signature is the one of its canonical string. -/
  signed : request.signature = auth.expected digests request
  /-- Its timestamp is read as a number that is not known to be outside the window. -/
  timed : ∃ requestTime, float request.timestamp = some requestTime ∧
    exceeds auth.windowSeconds (skewFrom request.now requestTime) = false
  /-- Its nonce was not cached. -/
  unused : (cache.purge request.now).contains request.nonce = false

/-- A request that passes passes every check. -/
theorem checks_ok (passed : auth.checks digests request = .ok ()) :
    checkHeaders request = .ok () ∧ auth.checkKey request = .ok () ∧
      checkNonce request = .ok () ∧ auth.checkTimestamp request = .ok () ∧
      auth.checkSignature digests request = .ok () := by
  obtain ⟨⟨⟩, headers, rest⟩ := bind_eq_ok.mp passed
  obtain ⟨⟨⟩, key, rest⟩ := bind_eq_ok.mp rest
  obtain ⟨⟨⟩, nonce, rest⟩ := bind_eq_ok.mp rest
  obtain ⟨⟨⟩, timestamp, signature⟩ := bind_eq_ok.mp rest
  exact ⟨headers, key, nonce, timestamp, signature⟩

/-- A request is refused by a check, or for a cached nonce, or it is accepted and its nonce is
recorded. -/
theorem verify_cases :
    (∃ fault, auth.checks digests request = .error fault ∧
      auth.verify digests cache request = (.error fault, cache)) ∨
    ((cache.purge request.now).contains request.nonce = true ∧
      auth.verify digests cache request =
        (.error (.authenticationFailed "Replayed nonce"), cache.purge request.now)) ∨
    (Accepted digests auth cache request ∧
      auth.verify digests cache request = (.ok (), { cache.purge request.now with
        entries := OrderedDict.newest
          ((cache.purge request.now).entries.insert request.nonce request.now)
          cache.maxSize })) := by
  cases passed : auth.checks digests request with
  | error fault => exact .inl ⟨fault, rfl, by simp [verify, passed]⟩
  | ok done =>
    right
    cases used : (cache.purge request.now).contains request.nonce with
    | true => exact .inl ⟨rfl, by simp [verify, passed, NonceCache.claim, used]⟩
    | false =>
      obtain ⟨-, -, -, timestamp, signature⟩ := checks_ok passed
      refine .inr ⟨⟨checkSignature_ok signature, checkTimestamp_ok.mp timestamp, used⟩, ?_⟩
      simp [verify, passed, NonceCache.claim, used]

/-- An accepted request passed every check. -/
theorem verify_ok (accepted : (auth.verify digests cache request).1 = .ok ()) :
    Accepted digests auth cache request := by
  rcases @verify_cases digests auth cache request with
    ⟨fault, -, refused⟩ | ⟨-, refused⟩ | ⟨passed, -⟩
  · rw [refused] at accepted
    cases accepted
  · rw [refused] at accepted
    cases accepted
  · exact passed

/-! ## How far a request gets -/

/-- Whether all four headers are there. -/
def present (request : Request) : Bool :=
  request.keyId != "" && request.timestamp != "" && request.nonce != "" && request.signature != ""

/-- Whether the timestamp is a number that is not known to be outside the window. -/
def timely (auth : RequestAuthenticator) (request : Request) : Bool :=
  (float request.timestamp).any fun requestTime =>
    !exceeds auth.windowSeconds (skewFrom request.now requestTime)

/-- Whether the signature of a request is looked at. -/
def reachesSignature (auth : RequestAuthenticator) (request : Request) : Bool :=
  present request && request.keyId == auth.keyId &&
    (8 ≤ request.nonce.length && request.nonce.length ≤ 128) && auth.timely request

/-- Whether a request has a valid signature and a nonce that is not cached. -/
def reachesClaim (digests : Digests) (auth : RequestAuthenticator) (cache : NonceCache)
    (request : Request) : Bool :=
  auth.reachesSignature request && request.signature == auth.expected digests request &&
    !(cache.purge request.now).contains request.nonce

/-- Headers that pass are present. -/
theorem present_of_checkHeaders (passed : checkHeaders request = .ok ()) :
    present request = true := by
  obtain ⟨key, timestamp, nonce, signature⟩ := checkHeaders_ok.mp passed
  unfold present
  simp only [bne_iff_ne, ne_eq, Bool.and_eq_true]
  exact ⟨⟨⟨key, timestamp⟩, nonce⟩, signature⟩

/-- A timestamp that passes is timely. -/
theorem timely_of_checkTimestamp (passed : auth.checkTimestamp request = .ok ()) :
    auth.timely request = true := by
  obtain ⟨requestTime, read, within⟩ := checkTimestamp_ok.mp passed
  unfold timely
  rw [read, Option.any_some, within]
  rfl

/-- Where both keys are ASCII, a key passes exactly when it is the configured one. -/
theorem checkKey_of_isAscii (key : isAscii request.keyId = true)
    (configured : isAscii auth.keyId = true) :
    auth.checkKey request =
      if request.keyId = auth.keyId then .ok () else .error (.authenticationFailed "Unknown key id")
    := by
  unfold checkKey
  rw [compareDigest_of_isAscii key configured]
  by_cases same : request.keyId = auth.keyId
  · rw [if_pos same, beq_iff_eq.mpr same]
    rfl
  · rw [if_neg same, beq_eq_false_iff_ne.mpr same]
    rfl

/-- A key that passes is the configured one. -/
theorem checkKey_ok (passed : auth.checkKey request = .ok ()) : request.keyId = auth.keyId := by
  obtain ⟨same, compared, chosen⟩ := bind_eq_ok.mp passed
  have equal := compareDigest_ok compared
  split at chosen
  · rename_i found
    exact beq_iff_eq.mp (equal.symm.trans found)
  · cases chosen

/-- The expected signature is ASCII. -/
theorem isAscii_expected : isAscii (auth.expected digests request) = true :=
  isAscii_of_isHex (digests.hmac_hex _ _)

/-- Checks on ASCII texts raise nothing but the authentication error. -/
theorem checks_error {fault : Fault} (raised : auth.checks digests request = .error fault)
    (key : present request = true → isAscii request.keyId = true ∧ isAscii auth.keyId = true)
    (signature : auth.reachesSignature request = true → isAscii request.signature = true) :
    ∃ message, fault = .authenticationFailed message := by
  rcases bind_eq_error.mp raised with headers | ⟨⟨⟩, headers, raised⟩
  · unfold checkHeaders at headers
    split at headers
    · exact ⟨_, (Except.error.inj headers).symm⟩
    · cases headers
  have there := present_of_checkHeaders headers
  obtain ⟨ascii, configured⟩ := key there
  rcases bind_eq_error.mp raised with unknown | ⟨⟨⟩, known, raised⟩
  · rw [checkKey_of_isAscii ascii configured] at unknown
    split at unknown
    · cases unknown
    · exact ⟨_, (Except.error.inj unknown).symm⟩
  rcases bind_eq_error.mp raised with malformed | ⟨⟨⟩, sized, raised⟩
  · unfold checkNonce at malformed
    split at malformed
    · cases malformed
    · exact ⟨_, (Except.error.inj malformed).symm⟩
  rcases bind_eq_error.mp raised with late | ⟨⟨⟩, timely, raised⟩
  · unfold checkTimestamp at late
    split at late
    · exact ⟨_, (Except.error.inj late).symm⟩
    · simp only at late
      split at late
      · exact ⟨_, (Except.error.inj late).symm⟩
      · cases late
  have reaches : auth.reachesSignature request = true := by
    unfold reachesSignature
    simp only [Bool.and_eq_true, decide_eq_true_eq]
    exact ⟨⟨⟨there, beq_iff_eq.mpr (checkKey_ok known)⟩, checkNonce_ok.mp sized⟩,
      timely_of_checkTimestamp timely⟩
  unfold checkSignature at raised
  rw [compareDigest_of_isAscii isAscii_expected (signature reaches)] at raised
  rcases bind_eq_error.mp raised with compared | ⟨same, -, raised⟩
  · cases compared
  · split at raised
    · cases raised
    · exact ⟨_, (Except.error.inj raised).symm⟩

/-- An accepted request reached its claim. -/
theorem reachesClaim_of_accepted (accepted : (auth.verify digests cache request).1 = .ok ()) :
    auth.reachesClaim digests cache request = true := by
  have passed := verify_ok accepted
  have checked : auth.checks digests request = .ok () := by
    unfold verify at accepted
    cases checked : auth.checks digests request with
    | error fault =>
      rw [checked] at accepted
      cases accepted
    | ok done => rfl
  obtain ⟨headers, key, nonce, timestamp, -⟩ := checks_ok checked
  unfold reachesClaim reachesSignature
  simp only [Bool.and_eq_true, decide_eq_true_eq, Bool.not_eq_true']
  exact ⟨⟨⟨⟨⟨present_of_checkHeaders headers, beq_iff_eq.mpr (checkKey_ok key)⟩,
    checkNonce_ok.mp nonce⟩, timely_of_checkTimestamp timestamp⟩,
    beq_iff_eq.mpr passed.signed⟩, passed.unused⟩

end RequestAuthenticator

/-! ## Digests of known texts -/

/-- The digest of an empty body. -/
def emptyDigest : String := "e3b0c44298fc1c149afbf4c8996fb92427ae41e4649b934ca495991b7852b855"

/-- Signatures under the secret `secret` of requests with an empty body, by what precedes the digest
of the body in their canonical strings. -/
def knownSignatures : List (String × String) :=
  [
    ("GET|/storage/status|1700000000|nonce-one|",
      "b3dafea45783cd122ce29626353f863a8ffd0e2174af761fb8806e21c57c5225"),
    ("GET|/storage/status|1700000000|nonce-two|",
      "bc98ec62d7fa392d5cf21f3e4d26dfe4cc39497003a7cd7e9a112f8043dbe6a4"),
    ("GET|/storage/status|nan|nonce-nan|",
      "9d8389f14760eaded633bf66b03a7ac5cd7aaa181eea18dddf313f9db72f3d2e"),
    ("GET|/sync/list?remote=gdrive&path=a|1700000000|1700000001|abcdefgh|",
      "b0359bd174e53cc3e89f7dd837d591b49262def4c4b6ae07adcb8ff0865ef6e3")]

/-- A digest of zeros, longer than the known ones. -/
def zeroDigest (codes : List Nat) : String :=
  .ofList (List.replicate (65 + Encodable.encode codes) '0')

/-- The known signature of a text under a secret. -/
def knownSignature (secret text : String) : Option (String × String) :=
  knownSignatures.find? fun known => secret == "secret" && text == known.1 ++ emptyDigest

/-- The sample digest is written in hexadecimal digits. -/
theorem isHex_zeroDigest (codes : List Nat) : (zeroDigest codes).toList.all isHex = true := by
  unfold zeroDigest
  rw [String.toList_ofList]
  apply List.all_eq_true.mpr
  intro char inside
  rw [List.eq_of_mem_replicate inside]
  rfl

/-- The sample signatures are written in hexadecimal digits. -/
theorem isHex_knownSignatures :
    knownSignatures.all (fun entry => entry.2.toList.all isHex) = true := by decide +kernel

/-- The digests of some known texts, and zeros without collisions for the others. -/
def knownDigests : Digests where
  sha256 body := if body = [] then emptyDigest else zeroDigest (body.map UInt8.toNat)
  hmac secret text :=
    ((knownSignature secret text).map (·.2)).getD (zeroDigest (text.toList.map Char.toNat))
  sha256_hex body := by
    apply List.all_eq_true.mp
    split
    · decide +kernel
    · exact isHex_zeroDigest _
  hmac_hex secret text := by
    apply List.all_eq_true.mp
    cases found : knownSignature secret text with
    | none => exact isHex_zeroDigest _
    | some entry =>
      exact List.all_eq_true.mp isHex_knownSignatures entry (List.mem_of_find?_eq_some found)

/-- A verifier with a window of a minute and the secret of the known signatures. -/
def minuteAuth : RequestAuthenticator := ⟨"proxsync-dashboard", "secret", 60, by decide⟩

/-- Sample digests of different texts differ. -/
theorem zeroDigest_injective {codes codes' : List Nat}
    (same : zeroDigest codes = zeroDigest codes') :
    codes = codes' := by
  have lengths := congrArg (fun text => text.toList.length) same
  simp only [zeroDigest, String.toList_ofList, List.length_replicate] at lengths
  exact Encodable.encode_injective (by omega)

/-- A sample digest is longer than any of the sample signatures. -/
theorem zeroDigest_length (codes : List Nat) : 64 < (zeroDigest codes).toList.length := by
  unfold zeroDigest
  rw [String.toList_ofList, List.length_replicate]
  omega

/-- No two bodies have one known digest. -/
theorem knownDigests_sha256_injective : Function.Injective knownDigests.sha256 := by
  intro body body' same
  have short : emptyDigest.toList.length = 64 := by decide +kernel
  have digest : ∀ {bytes}, bytes ≠ [] →
      knownDigests.sha256 bytes = zeroDigest (bytes.map UInt8.toNat) := fun some => if_neg some
  by_cases none : body = []
  · by_cases none' : body' = []
    · rw [none, none']
    · subst none
      have long := zeroDigest_length (body'.map UInt8.toNat)
      rw [← digest none', ← same, show knownDigests.sha256 [] = emptyDigest from rfl] at long
      omega
  · by_cases none' : body' = []
    · subst none'
      have long := zeroDigest_length (body.map UInt8.toNat)
      rw [← digest none, same, show knownDigests.sha256 [] = emptyDigest from rfl] at long
      omega
    · rw [digest none, digest none'] at same
      exact List.map_injective_iff.mpr (fun _ _ equal => UInt8.toNat_inj.mp equal)
        (zeroDigest_injective same)

/-- A text with a known signature is the one the signature is listed for. -/
theorem knownSignature_some {secret text : String} {entry : String × String}
    (found : knownSignature secret text = some entry) :
    entry ∈ knownSignatures ∧ text = entry.1 ++ emptyDigest := by
  have passed := List.find?_some found
  rw [Bool.and_eq_true, beq_iff_eq, beq_iff_eq] at passed
  exact ⟨List.mem_of_find?_eq_some found, passed.2⟩

/-- No two texts have one known digest under one secret. -/
theorem knownDigests_hmac_injective (secret : String) :
    Function.Injective (knownDigests.hmac secret) := by
  intro text text' same
  have lengths : knownSignatures.all (fun entry => entry.2.toList.length == 64) = true := by
    decide +kernel
  have distinct : (knownSignatures.map (·.2)).Nodup := by decide +kernel
  have value : ∀ text, knownDigests.hmac secret text =
      ((knownSignature secret text).map (·.2)).getD (zeroDigest (text.toList.map Char.toNat)) :=
    fun _ => rfl
  rw [value, value] at same
  have apart : ∀ {entry : String × String} (codes), entry ∈ knownSignatures →
      entry.2 ≠ zeroDigest codes := by
    intro entry codes inside equal
    have long := zeroDigest_length codes
    rw [← equal, beq_iff_eq.mp (List.all_eq_true.mp lengths entry inside)] at long
    omega
  cases found : knownSignature secret text with
  | none =>
    cases found' : knownSignature secret text' with
    | none =>
      rw [found, found'] at same
      have codes := zeroDigest_injective same
      exact String.toList_inj.mp (List.map_injective_iff.mpr
        (fun _ _ equal => Char.toNat_inj.mp equal) codes)
    | some entry' =>
      rw [found, found'] at same
      exact absurd same.symm (apart _ (knownSignature_some found').1)
  | some entry =>
    cases found' : knownSignature secret text' with
    | none =>
      rw [found, found'] at same
      exact absurd same (apart _ (knownSignature_some found).1)
    | some entry' =>
      rw [found, found'] at same
      obtain ⟨inside, shown⟩ := knownSignature_some found
      obtain ⟨inside', shown'⟩ := knownSignature_some found'
      rw [shown, shown', List.inj_on_of_nodup_map distinct inside inside' same]

end ProxSync.Agent
