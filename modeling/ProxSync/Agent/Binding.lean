import ProxSync.Agent.Signature
/-!
# What a signature binds

The canonical string joins its fields with a bar, which a path, a query and a nonce may hold
themselves. Two requests accepted under one signature have the same canonical string, and their
fields agree exactly when their nonces hold the same number of bars: otherwise a part of the nonce
of one request is the timestamp of the other.
-/
open ProxSync.Lib

namespace ProxSync.Agent

/-- The number of bars of a text. -/
def bars (text : String) : Nat := text.toList.count '|'

/-- The fields of two requests agree. -/
structure SameFields (first second : Request) : Prop where
  method : first.method = second.method
  path : first.path = second.path
  timestamp : first.timestamp = second.timestamp
  nonce : first.nonce = second.nonce
  body : first.body = second.body

/-- A text without the character has no bars. -/
theorem bars_eq_zero {text : String} (plain : ∀ char ∈ text.toList, char ≠ '|') : bars text = 0 :=
  List.count_eq_zero.mpr fun inside => plain _ inside rfl

/-- No number is written with a bar. -/
theorem bars_of_float {text : String} {value : PyFloat} (read : float text = some value) :
    bars text = 0 := by
  apply bars_eq_zero
  rintro _ inside rfl
  have numeral := float_chars read inside
  rw [show asciiNumeral '|' = '|' by decide] at numeral
  revert numeral
  decide

/-- No hexadecimal text has a bar. -/
theorem bars_of_isHex {text : String} (hex : ∀ char ∈ text.toList, isHex char = true) :
    bars text = 0 := by
  apply bars_eq_zero
  rintro _ inside rfl
  exact absurd (hex _ inside) (by decide)

/-- The name of a method has no bars. -/
theorem bars_upper (method : Method) : bars method.upper = 0 := by
  cases method <;> decide

/-- Methods of one name are one method. -/
theorem upper_injective {first second : Method} (same : first.upper = second.upper) :
    first = second := by
  cases first <;> cases second <;> first | rfl | exact absurd same (by decide)

/-- The bars of two joined texts are those of both. -/
theorem bars_append (first second : String) :
    bars (first ++ second) = bars first + bars second := by
  unfold bars
  rw [String.toList_append, List.count_append]

/-- Two texts joined by a bar are determined by the joined text and the number of bars in the second
one. -/
theorem join_inj {first second last other : String} (same : first ++ "|" ++ last =
    second ++ "|" ++ other) (counts : bars last = bars other) : first = second ∧ last = other := by
  have lists : first.toList ++ '|' :: last.toList = second.toList ++ '|' :: other.toList := by
    have joined := congrArg String.toList same
    simp only [String.toList_append, List.append_assoc] at joined
    exact joined
  obtain ⟨front, back⟩ := append_cons_inj_of_count lists counts
  exact ⟨String.toList_inj.mp front, String.toList_inj.mp back⟩

variable {digests : Digests} {auth : RequestAuthenticator}

/-- The canonical string determines its fields, given how many bars the nonces hold. -/
theorem buildCanonicalString_inj {method method' : Method}
    {path path' timestamp timestamp' nonce nonce' : String} {body body' : List UInt8}
    (same : buildCanonicalString digests method path timestamp nonce body =
      buildCanonicalString digests method' path' timestamp' nonce' body')
    (plain : bars timestamp = 0) (plain' : bars timestamp' = 0)
    (nonces : bars nonce = bars nonce') :
    method = method' ∧ path = path' ∧ timestamp = timestamp' ∧ nonce = nonce' ∧
      digests.sha256 body = digests.sha256 body' := by
  unfold buildCanonicalString at same
  have hashes : bars (digests.sha256 body) = bars (digests.sha256 body') := by
    rw [bars_of_isHex (digests.sha256_hex _), bars_of_isHex (digests.sha256_hex _)]
  obtain ⟨same, body⟩ := join_inj same hashes
  obtain ⟨same, nonce⟩ := join_inj same nonces
  obtain ⟨same, timestamp⟩ := join_inj same (plain.trans plain'.symm)
  have paths : bars path = bars path' := by
    have total := congrArg bars same
    simp only [bars_append, bars_upper] at total
    omega
  obtain ⟨method, path⟩ := join_inj same paths
  exact ⟨upper_injective method, path, timestamp, nonce, body⟩

/-- Requests accepted under one signature agree in their fields if and only if their nonces hold the
same number of bars, where the digests of the two do not collide. -/
theorem sameFields_iff_bars {cache cache' : NonceCache} {first second : Request}
    (accepted : (auth.verify digests cache first).1 = .ok ())
    (accepted' : (auth.verify digests cache' second).1 = .ok ())
    (signature : first.signature = second.signature)
    (bodies : digests.sha256 first.body = digests.sha256 second.body → first.body = second.body)
    (texts : auth.expected digests first = auth.expected digests second →
      buildCanonicalString digests first.method first.path first.timestamp first.nonce first.body =
        buildCanonicalString digests second.method second.path second.timestamp second.nonce
          second.body) :
    SameFields first second ↔ bars first.nonce = bars second.nonce := by
  constructor
  · intro same
    rw [same.nonce]
  · intro nonces
    have passed := RequestAuthenticator.verify_ok accepted
    have passed' := RequestAuthenticator.verify_ok accepted'
    obtain ⟨_, read, -⟩ := passed.timed
    obtain ⟨_, read', -⟩ := passed'.timed
    have canonical := texts (passed.signed.symm.trans (signature.trans passed'.signed))
    obtain ⟨method, path, timestamp, nonce, body⟩ :=
      buildCanonicalString_inj canonical (bars_of_float read) (bars_of_float read') nonces
    exact ⟨method, path, timestamp, nonce, bodies body⟩

/-- A request for the listing of a directory of a remote, with one known signature. -/
def syncListing (directory timestamp nonce : String) (now : ℚ) : Request where
  method := .get
  urlPath := "/sync/list"
  urlQuery := "remote=gdrive&path=" ++ directory
  headers := [("X-ProxSync-Key", "proxsync-dashboard"), ("X-ProxSync-Timestamp", timestamp),
    ("X-ProxSync-Nonce", nonce),
    ("X-ProxSync-Signature", "b0359bd174e53cc3e89f7dd837d591b49262def4c4b6ae07adcb8ff0865ef6e3")]
  body := []
  now := now

/-- A request that is accepted by two processes has one set of fields. -/
theorem sameFields_iff_bars_repeated :
    SameFields (syncListing "a" "1700000000" "1700000001|abcdefgh" 1700000000)
      (syncListing "a" "1700000000" "1700000001|abcdefgh" 1700000030) := by
  have accepted : (minuteAuth.verify knownDigests (.empty 120 8192)
      (syncListing "a" "1700000000" "1700000001|abcdefgh" 1700000000)).1 = .ok () := by
    decide +kernel
  have accepted' : (minuteAuth.verify knownDigests (.empty 120 8192)
      (syncListing "a" "1700000000" "1700000001|abcdefgh" 1700000030)).1 = .ok () := by
    decide +kernel
  exact (sameFields_iff_bars accepted accepted' rfl (fun _ => rfl) (fun _ => rfl)).mpr rfl

/-- Moving the first part of the nonce into the timestamp, and the timestamp into the query, keeps
the signature valid. -/
theorem not_sameFields_of_shifted :
    ¬ ∀ (digests : Digests) (auth : RequestAuthenticator) (cache cache' : NonceCache)
      (first second : Request), Function.Injective digests.sha256 →
      (∀ secret, Function.Injective (digests.hmac secret)) →
      (auth.verify digests cache first).1 = .ok () →
      (auth.verify digests cache' second).1 = .ok () → first.signature = second.signature →
      SameFields first second := by
  intro binds
  have accepted : (minuteAuth.verify knownDigests (.empty 120 8192)
      (syncListing "a" "1700000000" "1700000001|abcdefgh" 1700000000)).1 = .ok () := by
    decide +kernel
  have shifted : (minuteAuth.verify knownDigests (.empty 120 8192)
      (syncListing "a|1700000000" "1700000001" "abcdefgh" 1700000000)).1 = .ok () := by
    decide +kernel
  have same := binds _ _ _ _ _ _ knownDigests_sha256_injective knownDigests_hmac_injective accepted
    shifted rfl
  exact absurd same.timestamp (by decide +kernel)

end ProxSync.Agent
