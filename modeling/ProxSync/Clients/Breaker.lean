import Mathlib.Data.List.Count
import Mathlib.Data.List.Perm.Basic
import Mathlib.Data.Rat.Defs
import Mathlib.Algebra.Order.Ring.Rat
import ProxSync.Lib.System
/-!
# The circuit breaker of the agent client

Requests are admitted by the breaker, try the agent a few times and report a response or a last
transport error back to it. Admission and report are apart: other requests run in between, and a
request that is cancelled or raises anything else reports nothing. One flag stands for the probe of
a half-open breaker. It is kept by a probe that leaves without a report, and cleared by a report of
any other request.
-/
open ProxSync.Lib

namespace ProxSync.Clients

/-- The settings of the client the breaker depends on. -/
structure BreakerConfig where
  failureThreshold : Nat
  resetSeconds : Nat
  maxRetries : Int

/-- States of the breaker. -/
inductive CircuitState
  | closed
  | opened
  | halfOpen
  deriving DecidableEq, Repr

/-- The counters of a breaker. -/
structure CircuitBreaker where
  failures : Nat
  openedAt : Option ℚ
  halfOpenInFlight : Bool
  deriving DecidableEq

namespace CircuitBreaker

/-- A breaker that has seen no failure. -/
def fresh : CircuitBreaker := ⟨0, none, false⟩

/-- The state of a breaker at an instant. -/
def state (config : BreakerConfig) (breaker : CircuitBreaker) (now : ℚ) : CircuitState :=
  match breaker.openedAt with
  | none => .closed
  | some opened => if config.resetSeconds ≤ now - opened then .halfOpen else .opened

/-- Whether a request may proceed; half-open, it is the probe. -/
def allow (config : BreakerConfig) (breaker : CircuitBreaker) (now : ℚ) : Bool × CircuitBreaker :=
  match breaker.state config now with
  | .closed => (true, breaker)
  | .opened => (false, breaker)
  | .halfOpen =>
    if breaker.halfOpenInFlight then (false, breaker)
    else (true, { breaker with halfOpenInFlight := true })

/-- A response closes the breaker. -/
def recordSuccess (_ : CircuitBreaker) : CircuitBreaker := ⟨0, none, false⟩

/-- A failure opens the breaker, or opens it again, once there are enough of them. -/
def recordFailure (config : BreakerConfig) (breaker : CircuitBreaker) (now : ℚ) : CircuitBreaker :=
  let failures := breaker.failures + 1
  ⟨failures, if config.failureThreshold ≤ failures then some now else breaker.openedAt, false⟩

end CircuitBreaker

/-- Where a request is: its headers are made for an attempt, the attempt is awaited, or the wait
after an attempt. -/
inductive Stage
  | preparing (attempt : Nat)
  | sending (attempt : Nat)
  | backingOff (attempt : Nat)
  deriving DecidableEq, Repr

/-- A request the breaker has admitted. -/
structure AgentRequest where
  retryable : Bool
  /-- It was admitted by a half-open breaker. -/
  probe : Bool
  stage : Stage
  deriving DecidableEq, Repr

/-- Attempts of a request; only a `GET` is tried again. -/
def attempts (config : BreakerConfig) (retryable : Bool) : Nat :=
  if retryable then (config.maxRetries + 1).toNat else 1

/-- A client with the requests it has admitted and not ended. -/
structure AgentClient where
  breaker : CircuitBreaker
  now : ℚ
  inFlight : List AgentRequest
  deriving DecidableEq

namespace AgentClient

/-- Whether the next request is admitted. -/
def admits (config : BreakerConfig) (client : AgentClient) (now : ℚ) : Bool :=
  (client.breaker.allow config now).1

/-- Probes that have not ended. -/
def probes (client : AgentClient) : Nat := client.inFlight.countP (·.probe)

/-- A request goes to its next stage. -/
def goto (client : AgentClient) (index : Nat) (request : AgentRequest) (stage : Stage) :
    AgentClient :=
  { client with inFlight := client.inFlight.set index { request with stage } }

/-- A request ends and leaves a breaker behind. -/
def finish (client : AgentClient) (index : Nat) (breaker : CircuitBreaker) : AgentClient :=
  { client with breaker, inFlight := client.inFlight.eraseIdx index }

end AgentClient

/-- What happens to a client. -/
inductive ClientEvent
  | wait (later : ℚ)
  | request (retryable : Bool)
  | prepared (index : Nat)
  | respond (index : Nat)
  | transportError (index : Nat)
  | resume (index : Nat)
  /-- The caller is cancelled, or anything but a transport error is raised. -/
  | escape (index : Nat)

/-- The effect of an event on a client. -/
def clientStep (config : BreakerConfig) (client : AgentClient) : ClientEvent → Option AgentClient
  | .wait later => if later < client.now then none else some { client with now := later }
  | .request retryable =>
    let (admitted, breaker) := client.breaker.allow config client.now
    if admitted then
      let probe := client.breaker.state config client.now == .halfOpen
      some { client with
        breaker
        inFlight := client.inFlight ++ [⟨retryable, probe, .preparing 0⟩] }
    else some { client with breaker }
  | .prepared index =>
    match client.inFlight[index]? with
    | some ⟨retryable, probe, .preparing attempt⟩ =>
      -- The loop over the attempts ends; without any, it ends before the first.
      if attempt < attempts config retryable then
        some (client.goto index ⟨retryable, probe, .preparing attempt⟩ (.sending attempt))
      else some (client.finish index (client.breaker.recordFailure config client.now))
    | _ => none
  | .respond index =>
    match client.inFlight[index]? with
    | some ⟨_, _, .sending _⟩ => some (client.finish index client.breaker.recordSuccess)
    | _ => none
  | .transportError index =>
    match client.inFlight[index]? with
    | some ⟨retryable, probe, .sending attempt⟩ =>
      if attempt + 1 < attempts config retryable then
        some (client.goto index ⟨retryable, probe, .sending attempt⟩ (.backingOff attempt))
      else some (client.finish index (client.breaker.recordFailure config client.now))
    | _ => none
  | .resume index =>
    match client.inFlight[index]? with
    | some ⟨retryable, probe, .backingOff attempt⟩ =>
      some (client.goto index ⟨retryable, probe, .backingOff attempt⟩ (.preparing (attempt + 1)))
    | _ => none
  | .escape index =>
    match client.inFlight[index]? with
    | some _ => some (client.finish index client.breaker)
    | none => none

/-- A client that has been sent nothing. -/
def AgentClient.fresh : AgentClient := ⟨.fresh, 0, []⟩

/-- A client from its creation on. -/
def agentClient (config : BreakerConfig) : System AgentClient ClientEvent where
  init client := client = .fresh
  step := clientStep config

/-- No probe that still has the flag leaves without a report, and no request meets a half-open
breaker while a probe that lost the flag to another report is out. -/
def tended (config : BreakerConfig) (client : AgentClient) : ClientEvent → Bool
  | .request _ =>
    client.breaker.state config client.now != .halfOpen || client.breaker.halfOpenInFlight ||
      client.probes == 0
  | .escape index =>
    match client.inFlight[index]? with
    | some request => !(request.probe && client.breaker.halfOpenInFlight)
    | none => true
  | .wait _ | .prepared _ | .respond _ | .transportError _ | .resume _ => true

/-- An event that leaves the flag with the probe. -/
def Tended (config : BreakerConfig) (client : AgentClient) (event : ClientEvent) : Prop :=
  tended config client event = true

instance (config : BreakerConfig) (client : AgentClient) (event : ClientEvent) :
    Decidable (Tended config client event) :=
  inferInstanceAs (Decidable (_ = true))

/-- What the breaker is there for. -/
structure Live (config : BreakerConfig) (client : AgentClient) : Prop where
  /-- Half-open, at most one probe is out. -/
  single : client.breaker.state config client.now = .halfOpen → client.probes ≤ 1
  /-- Once the timeout has elapsed with no probe out, the next request is admitted. -/
  prompt : ∀ now, client.now ≤ now → client.breaker.state config now = .halfOpen →
    client.probes = 0 → client.admits config now = true
  /-- Not every later request is refused. -/
  recovers : ∃ after, ((agentClient config).startingAt client).Reachable System.unguarded after ∧
    after.admits config after.now = true

/-! ## What an event does -/

/-- An event waits, refuses or admits a request, lets one go on, or ends one with or without a
report. -/
inductive Moves (config : BreakerConfig) (client : AgentClient) : ClientEvent → AgentClient → Prop
  | wait {later : ℚ} (forward : client.now ≤ later) :
    Moves config client (.wait later) { client with now := later }
  | refuse {retryable : Bool} (spared : Tended config client (.request retryable)) :
    Moves config client (.request retryable) client
  | allow {retryable : Bool} (closed : client.breaker.state config client.now = .closed) :
    Moves config client (.request retryable)
      { client with inFlight := client.inFlight ++ [⟨retryable, false, .preparing 0⟩] }
  | probe {retryable : Bool} (due : client.breaker.state config client.now = .halfOpen)
    (unflagged : client.breaker.halfOpenInFlight = false) :
    Moves config client (.request retryable)
      { client with
        breaker := { client.breaker with halfOpenInFlight := true }
        inFlight := client.inFlight ++ [⟨retryable, true, .preparing 0⟩] }
  | goto {event : ClientEvent} {index : Nat} {request : AgentRequest} {stage : Stage}
    (spared : Tended config client event) (here : client.inFlight[index]? = some request) :
    Moves config client event (client.goto index request stage)
  | report {event : ClientEvent} {index : Nat} {request : AgentRequest} {breaker : CircuitBreaker}
    (spared : Tended config client event) (here : client.inFlight[index]? = some request)
    (cleared : breaker.halfOpenInFlight = false) :
    Moves config client event (client.finish index breaker)
  | escape {index : Nat} {request : AgentRequest} (here : client.inFlight[index]? = some request) :
    Moves config client (.escape index) (client.finish index client.breaker)

variable {config : BreakerConfig} {client after : AgentClient} {index : Nat}
variable {request : AgentRequest} {stage : Stage} {breaker : CircuitBreaker} {now : ℚ}
variable {event : ClientEvent} {retryable : Bool}

/-- A request that is made is one of the listed moves. -/
theorem request_moves (stepped : clientStep config client (.request retryable) = some after) :
    Moves config client (.request retryable) after := by
  simp only [clientStep] at stepped
  cases here : client.breaker.state config client.now with
  | closed =>
    have admitted : client.breaker.allow config client.now = (true, client.breaker) := by
      simp [CircuitBreaker.allow, here]
    simp only [admitted, here, if_true, Option.some.injEq] at stepped
    exact stepped ▸ .allow here
  | opened =>
    have refused : client.breaker.allow config client.now = (false, client.breaker) := by
      simp [CircuitBreaker.allow, here]
    simp only [refused, Bool.false_eq_true, if_false, Option.some.injEq] at stepped
    exact stepped ▸ .refuse (by simp [Tended, tended, here])
  | halfOpen =>
    cases flag : client.breaker.halfOpenInFlight with
    | true =>
      have refused : client.breaker.allow config client.now = (false, client.breaker) := by
        simp [CircuitBreaker.allow, here, flag]
      simp only [refused, Bool.false_eq_true, if_false, Option.some.injEq] at stepped
      exact stepped ▸ .refuse (by simp [Tended, tended, flag])
    | false =>
      have admitted : client.breaker.allow config client.now =
          (true, { client.breaker with halfOpenInFlight := true }) := by
        simp [CircuitBreaker.allow, here, flag]
      simp only [admitted, here, if_true, Option.some.injEq] at stepped
      exact stepped ▸ .probe here flag

/-- Every step is one of the moves. -/
theorem step_moves (stepped : clientStep config client event = some after) :
    Moves config client event after := by
  cases event with
  | wait later =>
    simp only [clientStep] at stepped
    split at stepped
    · cases stepped
    · rename_i forward
      exact Option.some.inj stepped ▸ .wait (not_lt.mp forward)
  | request retryable => exact request_moves stepped
  | prepared index | transportError index =>
    simp only [clientStep] at stepped
    split at stepped
    · rename_i here
      split at stepped
      · exact Option.some.inj stepped ▸ .goto rfl here
      · exact Option.some.inj stepped ▸ .report rfl here rfl
    · cases stepped
  | respond index =>
    simp only [clientStep] at stepped
    split at stepped
    · rename_i here
      exact Option.some.inj stepped ▸ .report rfl here rfl
    · cases stepped
  | resume index =>
    simp only [clientStep] at stepped
    split at stepped
    · rename_i here
      exact Option.some.inj stepped ▸ .goto rfl here
    · cases stepped
  | escape index =>
    simp only [clientStep] at stepped
    split at stepped
    · rename_i here
      exact Option.some.inj stepped ▸ .escape here
    · cases stepped

/-! ## Counting probes -/

/-- A request that goes on is a probe as before. -/
theorem probes_goto (here : client.inFlight[index]? = some request) :
    (client.goto index request stage).probes = client.probes := by
  have same : (client.inFlight.set index { request with stage }).map (·.probe) =
      client.inFlight.map (·.probe) := by
    rw [List.map_set]
    apply List.ext_getElem?
    intro position
    rw [List.getElem?_set]
    by_cases at_index : index = position
    · obtain ⟨bound, found⟩ := List.getElem?_eq_some_iff.mp here
      subst at_index
      rw [if_pos rfl, List.length_map, if_pos bound, List.getElem?_map, here]
      rfl
    · rw [if_neg at_index]
  have counted := congrArg (List.countP id) same
  rwa [List.countP_map, List.countP_map] at counted

/-- A request that is admitted counts if it is a probe. -/
theorem probes_allow :
    ({ client with breaker, inFlight := client.inFlight ++ [request] } : AgentClient).probes =
      client.probes + request.probe.toNat := by
  show (client.inFlight ++ [request]).countP (·.probe) = _
  rw [List.countP_append, List.countP_singleton]
  cases request.probe <;> rfl

/-- A request that ends no longer counts. -/
theorem probes_finish (here : client.inFlight[index]? = some request) (breaker : CircuitBreaker) :
    (client.finish index breaker).probes + request.probe.toNat = client.probes := by
  obtain ⟨bound, found⟩ := List.getElem?_eq_some_iff.mp here
  have same := (List.getElem_cons_eraseIdx_perm bound).countP_eq (·.probe)
  rw [found, List.countP_cons] at same
  show (client.inFlight.eraseIdx index).countP (·.probe) + _ = client.inFlight.countP (·.probe)
  rw [← same]
  cases request.probe <;> rfl

/-- A half-open breaker that refuses has its flag set. -/
theorem admits_halfOpen (due : client.breaker.state config now = .halfOpen) :
    client.admits config now = !client.breaker.halfOpenInFlight := by
  simp only [AgentClient.admits, CircuitBreaker.allow, due]
  cases client.breaker.halfOpenInFlight <;> rfl

/-- A closed breaker admits. -/
theorem admits_closed (closed : client.breaker.openedAt = none) :
    client.admits config now = true := by
  simp [AgentClient.admits, CircuitBreaker.allow, CircuitBreaker.state, closed]

/-- A half-open breaker stays half-open as long as it is not touched. -/
theorem halfOpen_mono {later : ℚ} (forward : now ≤ later)
    (due : breaker.state config now = .halfOpen) : breaker.state config later = .halfOpen := by
  unfold CircuitBreaker.state at due ⊢
  split at due
  · cases due
  · rename_i opened _
    split at due
    · rename_i elapsed
      rw [if_pos (elapsed.trans (sub_le_sub_right forward opened))]
    · cases due

/-! ## The flag and the probe -/

/-- What holds of a client whose probes keep the flag. -/
structure Sound (config : BreakerConfig) (client : AgentClient) : Prop where
  held : client.breaker.halfOpenInFlight = true → 0 < client.probes
  single : client.probes ≤ 1
  due : client.breaker.halfOpenInFlight = true →
    client.breaker.state config client.now = .halfOpen

/-- What an event that leaves the flag with the probe preserves. -/
theorem Sound.moves (sound : Sound config client) (spared : Tended config client event)
    (moves : Moves config client event after) : Sound config after := by
  cases moves with
  | wait forward =>
    exact ⟨sound.held, sound.single, fun flag => halfOpen_mono forward (sound.due flag)⟩
  | refuse _ => exact sound
  | allow closed =>
    constructor
    · intro flag
      rw [probes_allow]
      exact sound.held flag
    · rw [probes_allow]
      exact sound.single
    · exact sound.due
  | probe due unflagged =>
    have none : client.probes = 0 := by
      simpa [Tended, tended, due, unflagged] using spared
    constructor
    · intro _
      rw [probes_allow]
      exact Nat.succ_pos _
    · rw [probes_allow, none]
      exact le_rfl
    · exact fun _ => due
  | goto _ here =>
    constructor
    · intro flag
      rw [probes_goto here]
      exact sound.held flag
    · exact (probes_goto here).symm ▸ sound.single
    · exact sound.due
  | @report _ _ _ breaker _ here cleared =>
    have fewer := probes_finish here breaker
    have single := sound.single
    constructor
    · intro flag
      exact absurd (cleared.symm.trans flag) Bool.false_ne_true
    · omega
    · intro flag
      exact absurd (cleared.symm.trans flag) Bool.false_ne_true
  | @escape _ request here =>
    have fewer := probes_finish here client.breaker
    have single := sound.single
    constructor
    · intro (flag : client.breaker.halfOpenInFlight = true)
      -- The request that leaves is not the probe.
      have other : request.probe = false := by
        simpa [Tended, tended, here, flag] using spared
      rw [other, Bool.toNat_false, Nat.add_zero] at fewer
      rw [fewer]
      exact sound.held flag
    · omega
    · exact sound.due

/-- In every run whose events leave the flag with the probe the flag stands for the one probe. -/
theorem sound_of_tended (reached : (agentClient config).Reachable (Tended config) client) :
    Sound config client := by
  apply reached.invariant_alone
  constructor
  · rintro _ rfl
    exact ⟨nofun, Nat.zero_le 1, nofun⟩
  · exact fun _ _ _ _ sound spared stepped => sound.moves spared (step_moves stepped)

/-! ## Recovery -/

/-- A client from which a later one that admits is reached. -/
def Recovers (config : BreakerConfig) (client : AgentClient) : Prop :=
  ∃ after, ((agentClient config).startingAt client).Reachable System.unguarded after ∧
    after.admits config after.now = true

/-- A step to a client that recovers. -/
theorem Recovers.back (recovers : Recovers config after)
    (stepped : clientStep config client event = some after) : Recovers config client := by
  obtain ⟨last, reached, admits⟩ := recovers
  exact ⟨last, .trans (.next (.start rfl) trivial stepped) reached, admits⟩

/-- Without the flag a request is admitted when the timeout has elapsed. -/
theorem recovers_of_unflagged (unflagged : client.breaker.halfOpenInFlight = false) :
    Recovers config client := by
  cases since : client.breaker.openedAt with
  | none => exact ⟨client, .start rfl, admits_closed since⟩
  | some opened =>
    let later := max client.now (opened + config.resetSeconds)
    have stepped : clientStep config client (.wait later) = some { client with now := later } :=
      if_neg (not_lt.mpr (le_max_left _ _))
    have elapsed : (config.resetSeconds : ℚ) ≤ later - opened :=
      le_sub_iff_add_le'.mpr (le_max_right _ _)
    have due : client.breaker.state config later = .halfOpen := by
      simp only [CircuitBreaker.state, since, if_pos elapsed]
    apply Recovers.back _ stepped
    refine ⟨_, .start rfl, ?_⟩
    exact (admits_halfOpen due).trans (congrArg (!·) unflagged)

/-- A request that is awaited may be answered. -/
theorem recovers_of_sending {probe : Bool} {attempt : Nat}
    (here : client.inFlight[index]? = some ⟨retryable, probe, .sending attempt⟩) :
    Recovers config client := by
  have stepped : clientStep config client (.respond index) =
      some (client.finish index client.breaker.recordSuccess) := by
    simp only [clientStep, here]
  exact .back (recovers_of_unflagged rfl) stepped

/-- A request that is prepared may be sent. -/
theorem recovers_of_preparing {probe : Bool} {attempt : Nat}
    (here : client.inFlight[index]? = some ⟨retryable, probe, .preparing attempt⟩) :
    Recovers config client := by
  obtain ⟨bound, -⟩ := List.getElem?_eq_some_iff.mp here
  by_cases left : attempt < attempts config retryable
  · have stepped : clientStep config client (.prepared index) =
        some (client.goto index ⟨retryable, probe, .preparing attempt⟩ (.sending attempt)) := by
      simp only [clientStep, here, if_pos left]
    apply Recovers.back _ stepped
    apply recovers_of_sending
    exact List.getElem?_set_self bound
  · have stepped : clientStep config client (.prepared index) =
        some (client.finish index (client.breaker.recordFailure config client.now)) := by
      simp only [clientStep, here, if_neg left]
    exact .back (recovers_of_unflagged rfl) stepped

/-- A request that backs off may be prepared again. -/
theorem recovers_of_request (here : client.inFlight[index]? = some request) :
    Recovers config client := by
  obtain ⟨retryable, probe, stage⟩ := request
  obtain ⟨bound, -⟩ := List.getElem?_eq_some_iff.mp here
  cases stage with
  | preparing attempt => exact recovers_of_preparing here
  | sending attempt => exact recovers_of_sending here
  | backingOff attempt =>
    have stepped : clientStep config client (.resume index) =
        some (client.goto index ⟨retryable, probe, .backingOff attempt⟩
          (.preparing (attempt + 1))) := by
      simp only [clientStep, here]
    apply Recovers.back _ stepped
    apply recovers_of_preparing
    exact List.getElem?_set_self bound

/-- A client whose probe has the flag does what it is there for. -/
theorem Sound.live (sound : Sound config client) : Live config client where
  single _ := sound.single
  prompt now _ due none := by
    rw [admits_halfOpen due]
    cases flag : client.breaker.halfOpenInFlight with
    | false => rfl
    | true => exact absurd none (sound.held flag).ne'
  recovers := by
    cases flag : client.breaker.halfOpenInFlight with
    | false => exact recovers_of_unflagged flag
    | true =>
      obtain ⟨request, member, -⟩ := List.countP_pos_iff.mp (sound.held flag)
      obtain ⟨index, bound, found⟩ := List.mem_iff_getElem.mp member
      exact recovers_of_request (List.getElem?_eq_some_iff.mpr ⟨bound, found⟩)

/-- An event that does not leave the flag with the probe breaks what the breaker is there for. -/
theorem not_live_of_untended (sound : Sound config client)
    (stepped : clientStep config client event = some after)
    (untended : ¬ Tended config client event) : ¬ Live config after := by
  intro live
  cases step_moves stepped with
  | wait _ => exact untended rfl
  | allow closed =>
    apply untended
    simp [Tended, tended, closed]
  | probe due unflagged =>
    have another : client.probes ≠ 0 := by
      simpa [Tended, tended, due, unflagged] using untended
    have single := live.single due
    rw [probes_allow, Bool.toNat_true] at single
    omega
  | refuse spared | goto spared _ | report spared _ _ => exact untended spared
  | escape here =>
    obtain ⟨probe, flag⟩ : _ = true ∧ client.breaker.halfOpenInFlight = true := by
      simpa [Tended, tended, here] using untended
    have fewer := probes_finish here client.breaker
    rw [probe] at fewer
    have none : (client.finish _ client.breaker).probes = 0 :=
      Nat.le_zero.mp (Nat.le_of_succ_le_succ (fewer.le.trans sound.single))
    have admits := live.prompt client.now le_rfl (sound.due flag) none
    have refuses := (admits_halfOpen (sound.due flag)).trans (congrArg (!·) flag)
    exact Bool.false_ne_true (refuses.symm.trans admits)

/-- In every run whose events leave the flag with the probe at most one probe is out, the request
after the timeout is admitted and the client recovers; and an event after such a run keeps this
exactly when it leaves the flag with the probe. -/
theorem live_of_tended (reached : (agentClient config).Reachable (Tended config) client) :
    Live config client ∧ ∀ event after, clientStep config client event = some after →
      (Live config after ↔ Tended config client event) := by
  have sound := sound_of_tended reached
  refine ⟨sound.live, fun event after stepped => ⟨fun live => ?_, fun spared => ?_⟩⟩
  · by_contra untended
    exact not_live_of_untended sound stepped untended live
  · exact (sound.moves spared (step_moves stepped)).live

/-- Settings with one failure to open and two retries. -/
def promptBreaker : BreakerConfig := ⟨1, 30, 2⟩

/-- A request that fails opens the breaker. -/
def openedByPost : List ClientEvent :=
  [.request false, .prepared 0, .transportError 0, .wait 30]

/-- The breaker opens, a probe that is tried twice is answered, and the next request is admitted. -/
theorem live_of_tended_twice :
    ∃ client, (Live promptBreaker client ∧ client.admits promptBreaker client.now = true) ∧
      client.breaker = .fresh := by
  obtain ⟨client, reached, shown⟩ : ∃ client,
      (agentClient promptBreaker).Reachable (Tended promptBreaker) client ∧
        (client.admits promptBreaker client.now && client.breaker == .fresh) = true := by
    refine System.exists_of_runFrom rfl
      (openedByPost ++ [.request true, .prepared 0, .transportError 0, .resume 0, .prepared 0,
        .respond 0]) _ ?_
    decide +kernel
  rw [Bool.and_eq_true, beq_iff_eq] at shown
  exact ⟨client, ⟨(live_of_tended reached).1, shown.1⟩, shown.2⟩

/-- A client without requests whose flag is set refuses from its timeout on. -/
structure Stuck (config : BreakerConfig) (client : AgentClient) : Prop where
  flag : client.breaker.halfOpenInFlight = true
  due : client.breaker.state config client.now = .halfOpen
  empty : client.inFlight = []

/-- A stuck breaker refuses at any later time. -/
theorem Stuck.refuses (stuck : Stuck config client) (forward : client.now ≤ now) :
    client.admits config now = false := by
  rw [admits_halfOpen (halfOpen_mono forward stuck.due), stuck.flag]
  rfl

/-- Nothing that happens to such a client makes it allow. -/
theorem Stuck.stays (stuck : Stuck config client)
    (reached : ((agentClient config).startingAt client).Reachable System.unguarded after) :
    Stuck config after := by
  apply reached.invariant_alone
  constructor
  · rintro _ rfl
    exact stuck
  · intro client event after _ stuck _ stepped
    have nothing : ∀ index : Nat, client.inFlight[index]? = none := by
      intro index
      rw [stuck.empty]
      rfl
    cases step_moves stepped with
    | wait forward => exact ⟨stuck.flag, halfOpen_mono forward stuck.due, stuck.empty⟩
    | refuse => exact stuck
    | allow closed => exact absurd (closed.symm.trans stuck.due) nofun
    | probe _ unflagged => exact absurd (unflagged.symm.trans stuck.flag) nofun
    | goto _ here | report _ here _ | escape here =>
      exact absurd (here.symm.trans (nothing _)) nofun

/-- A probe whose caller is cancelled leaves the breaker refusing every request from then on, and
the late report of a request admitted before lets a second probe out. -/
theorem not_live :
    (∃ client, (agentClient promptBreaker).Reachable System.unguarded client ∧
      client.probes = 0 ∧ client.breaker.state promptBreaker client.now = .halfOpen ∧
      (∀ after, ((agentClient promptBreaker).startingAt client).Reachable System.unguarded after →
        after.admits promptBreaker after.now = false) ∧
      ¬ Live promptBreaker client) ∧
    ∃ client, (agentClient promptBreaker).Reachable System.unguarded client ∧
      client.breaker.state promptBreaker client.now = .halfOpen ∧ client.probes = 2 := by
  refine ⟨?_, ?_⟩
  · obtain ⟨client, reached, shown⟩ : ∃ client,
        (agentClient promptBreaker).Reachable System.unguarded client ∧
          (client.breaker.halfOpenInFlight &&
            client.breaker.state promptBreaker client.now == .halfOpen &&
            client.inFlight == []) = true := by
      refine System.exists_of_runFrom rfl
        (openedByPost ++ [.request true, .prepared 0, .escape 0]) _ ?_
      decide +kernel
    simp only [Bool.and_eq_true, beq_iff_eq] at shown
    obtain ⟨⟨flag, due⟩, empty⟩ := shown
    have stuck : Stuck promptBreaker client := ⟨flag, due, empty⟩
    have none : client.probes = 0 := by
      unfold AgentClient.probes
      rw [empty]
      rfl
    refine ⟨client, reached, none, due, fun after later => (stuck.stays later).refuses le_rfl, ?_⟩
    intro live
    exact absurd ((stuck.refuses le_rfl).symm.trans (live.prompt _ le_rfl due none)) nofun
  · obtain ⟨client, reached, shown⟩ : ∃ client,
        (agentClient promptBreaker).Reachable System.unguarded client ∧
          (client.breaker.state promptBreaker client.now == .halfOpen && client.probes == 2) =
            true := by
      refine System.exists_of_runFrom rfl
        [.request false, .prepared 0, .request false, .prepared 1, .transportError 0, .wait 30,
          .request true, .transportError 0, .wait 60, .request true] _ ?_
      decide +kernel
    rw [Bool.and_eq_true, beq_iff_eq, beq_iff_eq] at shown
    exact ⟨client, reached, shown.1, shown.2⟩

end ProxSync.Clients
