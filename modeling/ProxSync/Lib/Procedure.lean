import Mathlib.Tactic.Common
/-!
# Procedures that await calls

A procedure awaits calls one after another; each is answered or raises, and what it answers decides
how the procedure goes on. An exception that nothing catches makes the procedure fail. Sequencing
and handlers are defined on procedures, and a call remembers whether a handler made it, so that what
escapes from a procedure can be traced to the calls of its handlers.
-/
namespace ProxSync.Lib

universe u v w

/-- What is left to do: a result, an escaped exception, or a call with what follows its answer and
what follows if it raises. -/
inductive Proc (Call : Type u) (Reply : Call → Type v) (α : Type w)
  | result (value : α)
  | fail
  | await (handling : Bool) (call : Call) (next : Reply call → Proc Call Reply α)
      (raised : Proc Call Reply α)

namespace Proc

variable {Call : Type u} {Reply : Call → Type v} {α β : Type w}

/-- Await one call; an exception escapes. -/
def call (request : Call) : Proc Call Reply (Reply request) := .await false request .result .fail

/-- Go on with the result of a procedure. -/
def andThen : Proc Call Reply α → (α → Proc Call Reply β) → Proc Call Reply β
  | .result value, follow => follow value
  | .fail, _ => .fail
  | .await handling request next raised, follow =>
    .await handling request (fun reply => (next reply).andThen follow) (raised.andThen follow)

/-- Handle the exceptions that escape from a procedure. -/
def except : Proc Call Reply α → Proc Call Reply α → Proc Call Reply α
  | .result value, _ => .result value
  | .fail, handler => handler
  | .await handling request next raised, handler =>
    .await handling request (fun reply => (next reply).except handler) (raised.except handler)

/-- The procedure as a handler runs it. -/
def asHandler : Proc Call Reply α → Proc Call Reply α
  | .result value => .result value
  | .fail => .fail
  | .await _ request next raised =>
    .await true request (fun reply => (next reply).asHandler) raised.asHandler

/-- Whether the next thing is a call of a handler. -/
def atHandler : Proc Call Reply α → Bool
  | .await handling _ _ _ => handling
  | _ => false

/-- The procedure fails only where a call raises. -/
def Completes : Proc Call Reply α → Prop
  | .result _ => True
  | .fail => False
  | .await _ _ next _ => ∀ reply, (next reply).Completes

/-- The procedure fails only where a call of a handler raises. -/
def Shielded : Proc Call Reply α → Prop
  | .result _ => True
  | .fail => False
  | .await handling _ next raised =>
    (∀ reply, (next reply).Shielded) ∧ (handling = true ∨ raised.Shielded)

/-- One call completes if it does not raise. -/
theorem completes_call (request : Call) :
    (call request : Proc Call Reply (Reply request)).Completes := fun _ => trivial

/-- Procedures that complete one after another complete. -/
theorem Completes.andThen {body : Proc Call Reply α} {follow : α → Proc Call Reply β}
    (completes : body.Completes) (later : ∀ value, (follow value).Completes) :
    (body.andThen follow).Completes := by
  induction body with
  | result value => exact later value
  | fail => exact completes.elim
  | await handling request next raised ih => exact fun reply => ih reply (completes reply)

/-- What completes is shielded as a handler. -/
theorem Completes.asHandler {body : Proc Call Reply α} (completes : body.Completes) :
    body.asHandler.Shielded := by
  induction body with
  | result value => trivial
  | fail => exact completes.elim
  | await handling request next raised ih =>
    exact ⟨fun reply => ih reply (completes reply), .inl rfl⟩

/-- Shielded procedures one after another are shielded. -/
theorem Shielded.andThen {body : Proc Call Reply α} {follow : α → Proc Call Reply β}
    (shielded : body.Shielded) (later : ∀ value, (follow value).Shielded) :
    (body.andThen follow).Shielded := by
  induction body with
  | result value => exact later value
  | fail => exact shielded.elim
  | await handling request next raised ih ihRaised =>
    exact ⟨fun reply => ih reply (shielded.1 reply), shielded.2.imp_right ihRaised⟩

/-- Whatever a handler runs after, the whole is shielded if the handler is. -/
theorem Shielded.except {handler : Proc Call Reply α} (shielded : handler.Shielded)
    (body : Proc Call Reply α) : (body.except handler).Shielded := by
  induction body with
  | result value => trivial
  | fail => exact shielded
  | await handling request next raised ih ihRaised =>
    exact ⟨fun reply => ih reply, .inr ihRaised⟩

/-! ## What a procedure does on its way -/

section Effects

variable {Reply : Call → Type} {α β : Type}

/-- Run a procedure after another one, however that ends. -/
def ensure : Proc Call Reply α → Proc Call Reply Unit → Proc Call Reply α
  | .result value, cleanup => cleanup.andThen fun _ => .result value
  | .fail, cleanup => cleanup.andThen fun _ => .fail
  | .await handling request next raised, cleanup =>
    .await handling request (fun reply => (next reply).ensure cleanup) (raised.ensure cleanup)

variable {σ : Type} {effect : σ → Call → σ} {quiet : Call → Prop} {during : σ → Prop}

/-- A state that every call changes satisfies one predicate while calls are awaited and others when
the procedure has a result or fails. Quiet calls do not raise. -/
def Runs (effect : σ → Call → σ) (quiet : Call → Prop) (during : σ → Prop)
    (onResult : α → σ → Prop) (onFail : σ → Prop) : Proc Call Reply α → σ → Prop
  | .result value, state => onResult value state
  | .fail, state => onFail state
  | .await _ request next raised, state => during state ∧
    (∀ reply, (next reply).Runs effect quiet during onResult onFail (effect state request)) ∧
    (¬ quiet request → raised.Runs effect quiet during onResult onFail (effect state request))

/-- What holds at the ends can be weakened. -/
theorem Runs.mono {body : Proc Call Reply α} {onResult weaker : α → σ → Prop}
    {onFail weakerFail : σ → Prop} {state : σ}
    (runs : body.Runs effect quiet during onResult onFail state)
    (results : ∀ value state, onResult value state → weaker value state)
    (fails : ∀ state, onFail state → weakerFail state) :
    body.Runs effect quiet during weaker weakerFail state := by
  induction body generalizing state with
  | result value => exact results value state runs
  | fail => exact fails state runs
  | await handling request next raised ih ihRaised =>
    exact ⟨runs.1, fun reply => ih reply (runs.2.1 reply), fun loud => ihRaised (runs.2.2 loud)⟩

/-- A procedure goes on from the state of its result. -/
theorem Runs.andThen {body : Proc Call Reply α} {follow : α → Proc Call Reply β}
    {onResult : β → σ → Prop} {onFail : σ → Prop} {state : σ}
    (runs : body.Runs effect quiet during
      (fun value state => (follow value).Runs effect quiet during onResult onFail state) onFail
      state) :
    (body.andThen follow).Runs effect quiet during onResult onFail state := by
  induction body generalizing state with
  | result value => exact runs
  | fail => exact runs
  | await handling request next raised ih ihRaised =>
    exact ⟨runs.1, fun reply => ih reply (runs.2.1 reply), fun loud => ihRaised (runs.2.2 loud)⟩

/-- A handler goes on from the state of a failure. -/
theorem Runs.except {body handler : Proc Call Reply α} {onResult : α → σ → Prop}
    {onFail : σ → Prop} {state : σ}
    (runs : body.Runs effect quiet during onResult
      (fun state => handler.Runs effect quiet during onResult onFail state) state) :
    (body.except handler).Runs effect quiet during onResult onFail state := by
  induction body generalizing state with
  | result value => exact runs
  | fail => exact runs
  | await handling request next raised ih ihRaised =>
    exact ⟨runs.1, fun reply => ih reply (runs.2.1 reply), fun loud => ihRaised (runs.2.2 loud)⟩

/-- What is ensured goes on from the state of a result and of a failure. -/
theorem Runs.ensure {body : Proc Call Reply α} {cleanup : Proc Call Reply Unit}
    {onResult : α → σ → Prop} {onFail : σ → Prop} {state : σ}
    (runs : body.Runs effect quiet during
      (fun value state => cleanup.Runs effect quiet during (fun _ => onResult value) onFail state)
      (fun state => cleanup.Runs effect quiet during (fun _ => onFail) onFail state) state) :
    (body.ensure cleanup).Runs effect quiet during onResult onFail state := by
  induction body generalizing state with
  | result value => exact Runs.andThen runs
  | fail => exact Runs.andThen runs
  | await handling request next raised ih ihRaised =>
    exact ⟨runs.1, fun reply => ih reply (runs.2.1 reply), fun loud => ihRaised (runs.2.2 loud)⟩

/-- One call changes the state once, whether it answers or raises. -/
theorem runs_call {request : Call} {onResult : Reply request → σ → Prop} {onFail : σ → Prop}
    {state : σ} (here : during state)
    (answered : ∀ reply, onResult reply (effect state request))
    (raised : ¬ quiet request → onFail (effect state request)) :
    (call request : Proc Call Reply (Reply request)).Runs effect quiet during onResult onFail
      state :=
  ⟨here, answered, raised⟩

/-- A procedure has ended after at most as many calls as a bound. -/
def Within : Proc Call Reply α → Nat → Prop
  | .result _, _ => True
  | .fail, _ => True
  | .await _ _ next raised, bound =>
    0 < bound ∧ (∀ reply, (next reply).Within (bound - 1)) ∧ raised.Within (bound - 1)

/-- A bound can be raised. -/
theorem Within.mono {body : Proc Call Reply α} {bound larger : Nat} (within : body.Within bound)
    (le : bound ≤ larger) : body.Within larger := by
  induction body generalizing bound larger with
  | result value => trivial
  | fail => trivial
  | await handling request next raised ih ihRaised =>
    obtain ⟨positive, answered, failed⟩ := within
    exact ⟨by omega, fun reply => ih reply (answered reply) (by omega), ihRaised failed (by omega)⟩

/-- What follows adds its bound. -/
theorem Within.andThen {body : Proc Call Reply α} {follow : α → Proc Call Reply β}
    {bound more : Nat} (within : body.Within bound) (later : ∀ value, (follow value).Within more) :
    (body.andThen follow).Within (bound + more) := by
  induction body generalizing bound with
  | result value => exact (later value).mono (by omega)
  | fail => trivial
  | await handling request next raised ih ihRaised =>
    obtain ⟨positive, answered, failed⟩ := within
    refine ⟨by omega, fun reply => ?_, ?_⟩
    · exact (ih reply (answered reply)).mono (by omega)
    · exact (ihRaised failed).mono (by omega)

/-- A handler adds its bound. -/
theorem Within.except {body handler : Proc Call Reply α} {bound more : Nat}
    (within : body.Within bound) (handles : handler.Within more) :
    (body.except handler).Within (bound + more) := by
  induction body generalizing bound with
  | result value => trivial
  | fail => exact handles.mono (by omega)
  | await handling request next raised ih ihRaised =>
    obtain ⟨positive, answered, failed⟩ := within
    refine ⟨by omega, fun reply => ?_, ?_⟩
    · exact (ih reply (answered reply)).mono (by omega)
    · exact (ihRaised failed).mono (by omega)

/-- A cleanup adds its bound. -/
theorem Within.ensure {body : Proc Call Reply α} {cleanup : Proc Call Reply Unit}
    {bound more : Nat} (within : body.Within bound) (cleans : cleanup.Within more) :
    (body.ensure cleanup).Within (bound + more) := by
  induction body generalizing bound with
  | result value =>
    have done : (cleanup.andThen fun _ => .result value : Proc Call Reply α).Within (more + 0) :=
      cleans.andThen fun _ => trivial
    exact done.mono (by omega)
  | fail =>
    have done : (cleanup.andThen fun _ => .fail : Proc Call Reply α).Within (more + 0) :=
      cleans.andThen fun _ => trivial
    exact done.mono (by omega)
  | await handling request next raised ih ihRaised =>
    obtain ⟨positive, answered, failed⟩ := within
    refine ⟨by omega, fun reply => ?_, ?_⟩
    · exact (ih reply (answered reply)).mono (by omega)
    · exact (ihRaised failed).mono (by omega)

/-- One call is one call. -/
theorem within_call (request : Call) : (call request : Proc Call Reply (Reply request)).Within 1 :=
  ⟨Nat.one_pos, fun _ => trivial, trivial⟩

end Effects

/-- A result is shielded. -/
theorem shielded_result (value : α) : (result value : Proc Call Reply α).Shielded := trivial

end Proc

end ProxSync.Lib
