import CodePager.Service.Gateway
import Mathlib.Control.Basic
import Mathlib.Data.List.Infix
import Mathlib.Tactic.Common

/-! # Laws of dialogues

How attempts run, and what can be said of a run from the plan alone. `Attempt.outcome` runs an
attempt, with one equation for each way to build one. `Dialogue.Within P Q` says that a plan only
operates on the cache by `P` and only sends requests in `Q`, **whatever it is answered**: then a run
keeps every property that the operations in `P` keep (`run_preserves`), and a plan without any
operation neither changes the cache nor depends on it (`run_silent`). -/

namespace CodePager

/-- An outcome that gives a value is that value: `x = .ok a` if `x.toOption = some a`. -/
theorem eq_ok_of_toOption {ε α : Type} {x : Except ε α} {a : α} (h : x.toOption = some a) :
    x = .ok a := by
  cases x with
  | error e => cases h
  | ok b => exact congrArg Except.ok (Option.some.inj h)

namespace Dialogue

variable {α β : Type} {P P' : CacheOp → Prop} {Q Q' : Request → Prop}

/-- Dialogues in a `do` block follow each other by `Dialogue.bind`. -/
@[simp] theorem bind_eq (d : Dialogue α) (f : α → Dialogue β) : d >>= f = d.bind f := rfl

instance : LawfulMonad Dialogue :=
  LawfulMonad.mk' Dialogue (fun d => bind_done_right d) (fun _ _ => rfl)
    fun d f g => bind_assoc d f g

/-! ### What a plan may do -/

/-- Every operation of a dialogue on the cache satisfies `P` and every request of it `Q`, whatever
results and replies it gets. -/
def Within (P : CacheOp → Prop) (Q : Request → Prop) : Dialogue α → Prop
  | .done _ => True
  | .cache op next => P op ∧ ∀ r, (next r).Within P Q
  | .ask request next => Q request ∧ ∀ r, (next r).Within P Q

/-- A dialogue that has ended does nothing that could be out of bounds. -/
@[simp] theorem within_done (a : α) : (Dialogue.done a).Within P Q := trivial

/-- A dialogue that operates on the cache is within bounds if the operation is, and what follows is,
whatever the result. -/
theorem within_cache {op : CacheOp} {next : op.Result → Dialogue α} :
    (Dialogue.cache op next).Within P Q ↔ P op ∧ ∀ r, (next r).Within P Q := Iff.rfl

/-- A dialogue that sends a request is within bounds if the request is, and what follows is,
whatever the reply. -/
theorem within_ask {request : Request} {next : Reply → Dialogue α} :
    (Dialogue.ask request next).Within P Q ↔ Q request ∧ ∀ r, (next r).Within P Q := Iff.rfl

-- A plan must not be run through only to see what is claimed of it.
attribute [irreducible] Within

/-- A dialogue that does not operate on the cache. -/
def Silent (d : Dialogue α) : Prop := d.Within (fun _ => False) fun _ => True

/-- Every dialogue is within bounds that allow everything. -/
theorem within_any (d : Dialogue α) : d.Within (fun _ => True) fun _ => True := by
  induction d with
  | done a => exact within_done a
  | cache op next ih => exact within_cache.mpr ⟨trivial, ih⟩
  | ask request next ih => exact within_ask.mpr ⟨trivial, ih⟩

/-- Within narrower bounds is **within wider ones**. -/
theorem Within.mono {d : Dialogue α} (hP : ∀ op, P op → P' op) (hQ : ∀ r, Q r → Q' r)
    (h : d.Within P Q) : d.Within P' Q' := by
  induction d with
  | done a => exact within_done a
  | cache op next ih =>
    obtain ⟨hop, hnext⟩ := within_cache.mp h
    exact within_cache.mpr ⟨hP op hop, fun r => ih r (hnext r)⟩
  | ask request next ih =>
    obtain ⟨hrequest, hnext⟩ := within_ask.mp h
    exact within_ask.mpr ⟨hQ request hrequest, fun r => ih r (hnext r)⟩

/-- Dialogues one after the other stay within the bounds that **both of them** stay within. -/
theorem Within.bind {d : Dialogue α} {f : α → Dialogue β} (hd : d.Within P Q)
    (hf : ∀ a, (f a).Within P Q) : (d.bind f).Within P Q := by
  induction d with
  | done a => exact hf a
  | cache op next ih =>
    obtain ⟨hop, hnext⟩ := within_cache.mp hd
    exact within_cache.mpr ⟨hop, fun r => ih r (hnext r)⟩
  | ask request next ih =>
    obtain ⟨hrequest, hnext⟩ := within_ask.mp hd
    exact within_ask.mpr ⟨hrequest, fun r => ih r (hnext r)⟩

/-! ### What a run then does -/

section Run

variable (backend : List Request → Request → Reply)

/-- **A run keeps what its operations keep.** -/
theorem run_preserves {I : PageCache → Prop} {d : Dialogue α} (hd : d.Within P Q)
    (hop : ∀ op c, P op → I c → I (op.run c).2) {c : PageCache} (hc : I c) (sent : List Request) :
    I (d.run backend c sent).cache := by
  induction d generalizing c sent with
  | done a => exact hc
  | cache op next ih =>
    obtain ⟨hP, hnext⟩ := within_cache.mp hd
    exact ih _ (hnext _) (hop op c hP hc) sent
  | ask request next ih => exact ih _ ((within_ask.mp hd).2 _) hc _

/-- A silent dialogue runs in every cache alike. -/
theorem run_silent {d : Dialogue α} (hd : d.Silent) (c c' : PageCache) (sent : List Request) :
    d.run backend c sent =
      ⟨(d.run backend c' sent).value, c, (d.run backend c' sent).requests⟩ := by
  induction d generalizing sent with
  | done a => rfl
  -- A silent dialogue has no such step.
  | cache op next ih => exact (within_cache.mp hd).1.elim
  | ask request next ih => exact ih _ ((within_ask.mp hd).2 _) _

/-- The requests of a run are added to those before it. -/
theorem prefix_run_requests (d : Dialogue α) (c : PageCache) (sent : List Request) :
    sent <+: (d.run backend c sent).requests := by
  induction d generalizing c sent with
  | done a => exact List.prefix_rfl
  | cache op next ih => exact ih _ _ sent
  | ask request next ih => exact (List.prefix_append sent [request]).trans (ih _ c _)

end Run

end Dialogue

namespace Attempt

variable {α β : Type} (backend : List Request → Request → Reply) (c : PageCache)
  (sent : List Request) {P : CacheOp → Prop} {Q : Request → Prop}

/-! ### Running attempts -/

/-- **Runs an attempt** to its end or its failure. -/
def outcome (x : Attempt α) : Dialogue.Outcome (Except Failure α) :=
  Dialogue.run backend (ExceptT.run x) c sent

/-- A value is its own outcome, and the cache and the requests stay as they are. -/
@[simp] theorem outcome_pure (a : α) :
    (pure a : Attempt α).outcome backend c sent = ⟨.ok a, c, sent⟩ := rfl

/-- A failure is its own outcome, and the cache and the requests stay as they are. -/
@[simp] theorem outcome_throw (e : Failure) :
    (throw e : Attempt α).outcome backend c sent = ⟨.error e, c, sent⟩ := rfl

/-- The result of a step is its own outcome, and the cache and the requests stay as they are. -/
@[simp] theorem outcome_ofExcept (x : Except Failure α) :
    (ofExcept x).outcome backend c sent = ⟨x, c, sent⟩ := rfl

/-- An operation on the cache has its result and leaves what it leaves: `op.run c`. -/
@[simp] theorem outcome_onCache (op : CacheOp) :
    (onCache op).outcome backend c sent = ⟨.ok (op.run c).1, (op.run c).2, sent⟩ := rfl

/-- A request that is sent has the reply of the backend, `backend sent request`, and is the last one
that was sent. -/
@[simp] theorem outcome_send (request : Request) :
    outcome backend c sent (ExceptT.lift (Dialogue.send request)) =
      ⟨.ok (backend sent request), c, sent ++ [request]⟩ := rfl

/-- Attempts one after the other are run one after the other, up to the first failure. -/
theorem outcome_bind (x : Attempt α) (f : α → Attempt β) :
    (x >>= f).outcome backend c sent =
      match (x.outcome backend c sent).value with
      | .ok a =>
        (f a).outcome backend (x.outcome backend c sent).cache (x.outcome backend c sent).requests
      | .error e =>
        ⟨.error e, (x.outcome backend c sent).cache, (x.outcome backend c sent).requests⟩ := by
  unfold outcome
  rw [ExceptT.run_bind, Dialogue.bind_eq, Dialogue.run_bind]
  cases (Dialogue.run backend (ExceptT.run x) c sent).value <;> rfl

/-- What is made of the result of an attempt, a failure included. -/
theorem run_bind_done (x : Attempt α) (f : Except Failure α → β) :
    ((ExceptT.run x).bind fun result => .done (f result)).run backend c sent =
      ⟨f (x.outcome backend c sent).value, (x.outcome backend c sent).cache,
        (x.outcome backend c sent).requests⟩ :=
  Dialogue.run_bind backend (ExceptT.run x) _ c sent

variable {backend c sent}

/-- After an attempt that **succeeds**, the next one goes on from where it has come to. -/
theorem outcome_bind_ok {x : Attempt α} {f : α → Attempt β} {a : α} {c' : PageCache}
    {sent' : List Request} (h : x.outcome backend c sent = ⟨.ok a, c', sent'⟩) :
    (x >>= f).outcome backend c sent = (f a).outcome backend c' sent' := by
  rw [outcome_bind, h]

/-- After an attempt that **fails**, nothing else is done. -/
theorem outcome_bind_error {x : Attempt α} {f : α → Attempt β} {e : Failure} {c' : PageCache}
    {sent' : List Request} (h : x.outcome backend c sent = ⟨.error e, c', sent'⟩) :
    (x >>= f).outcome backend c sent = ⟨.error e, c', sent'⟩ := by
  rw [outcome_bind, h]

/-! ### What an attempt may do -/

/-- Every operation of an attempt on the cache satisfies `P` and every request of it `Q`. -/
def Within (P : CacheOp → Prop) (Q : Request → Prop) (x : Attempt α) : Prop :=
  Dialogue.Within P Q (ExceptT.run x)

/-- An attempt that gives a value at once is within any bounds. -/
theorem within_pure (a : α) : (pure a : Attempt α).Within P Q :=
  Dialogue.within_done _

/-- An attempt that fails at once is within any bounds. -/
theorem within_throw (e : Failure) : (throw e : Attempt α).Within P Q :=
  Dialogue.within_done _

/-- The result of a step is within any bounds. -/
theorem within_ofExcept (x : Except Failure α) : (ofExcept x).Within P Q :=
  Dialogue.within_done _

/-- An operation on the cache is within bounds if it is allowed: `P op`. -/
theorem within_onCache {op : CacheOp} (h : P op) : (onCache op).Within P Q :=
  Dialogue.within_cache.mpr ⟨h, fun _ => Dialogue.within_done _⟩

/-- A request that is sent is within bounds if it is allowed: `Q request`. -/
theorem within_send {request : Request} (h : Q request) :
    Within P Q (ExceptT.lift (Dialogue.send request) : Attempt Reply) :=
  Dialogue.within_ask.mpr ⟨h, fun _ => Dialogue.within_done _⟩

/-- Attempts one after the other stay within the bounds that **both of them** stay within. -/
theorem Within.bind {x : Attempt α} {f : α → Attempt β} (hx : x.Within P Q)
    (hf : ∀ a, (f a).Within P Q) : (x >>= f).Within P Q := by
  unfold Within
  rw [ExceptT.run_bind]
  refine Dialogue.Within.bind hx fun a => ?_
  cases a with
  | ok a => exact hf a
  | error e => exact Dialogue.within_done _

end Attempt

end CodePager
