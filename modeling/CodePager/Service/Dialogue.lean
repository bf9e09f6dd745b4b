import CodePager.Backend.Request
import CodePager.Cache.Store

/-! # Dialogues

What a tool call does: operations on the cache, requests to the backend, and in the end an answer.
A `Dialogue` is that plan as a value. It holds no lock between two steps, so calls that run at the
same time are interleaved step by step, and a call can be held at any of its requests while others
go on. `Dialogue.runUntil` runs a dialogue alone up to a request, `Dialogue.run` to its end, and
`run_bind` says that dialogues one after the other are run one after the other. -/

namespace CodePager

/-- A computation that operates on the cache and sends requests to the backend. -/
inductive Dialogue (α : Type) where
  /-- The end. -/
  | done (value : α)
  /-- One indivisible operation on the cache, and what follows its result. -/
  | cache (op : CacheOp) (next : op.Result → Dialogue α)
  /-- One request to the backend, that is one call of the HTTP client with the redirects that it
  follows, and what follows its reply. -/
  | ask (request : Request) (next : Reply → Dialogue α)

namespace Dialogue

/-- One dialogue after another. -/
def bind {α β : Type} (d : Dialogue α) (f : α → Dialogue β) : Dialogue β :=
  match d with
  | .done a => f a
  | .cache op next => .cache op fun r => (next r).bind f
  | .ask request next => .ask request fun r => (next r).bind f

instance : Monad Dialogue where
  pure := .done
  bind := bind

/-- One operation on the cache. -/
def onCache (op : CacheOp) : Dialogue op.Result := .cache op .done

/-- One request to the backend. -/
def send (request : Request) : Dialogue Reply := .ask request .done

/-- A dialogue that waits at a request, or has ended. -/
inductive Paused (α : Type) where
  | finished (value : α)
  | waiting (request : Request) (next : Reply → Dialogue α)

/-- What a run has come to: where it stands, the cache, and the requests sent, in their order, the
one it waits at included. -/
structure Progress (α : Type) where
  state : Paused α
  cache : PageCache
  requests : List Request

/-- Runs a dialogue up to the first request that `hold` picks, or to its end. The backend answers a
request by the requests before it and the request itself. -/
def runUntil {α : Type} (hold : Request → Bool) (backend : List Request → Request → Reply) :
    Dialogue α → PageCache → List Request → Progress α
  | .done a, c, sent => ⟨.finished a, c, sent⟩
  | .cache op next, c, sent =>
    let (r, c) := op.run c
    runUntil hold backend (next r) c sent
  | .ask request next, c, sent =>
    if hold request then ⟨.waiting request next, c, sent ++ [request]⟩
    else runUntil hold backend (next (backend sent request)) c (sent ++ [request])

/-- What a run to the end has come to. -/
structure Outcome (α : Type) where
  value : α
  cache : PageCache
  requests : List Request

/-- **Runs a dialogue to its end.** -/
def run {α : Type} (backend : List Request → Request → Reply) :
    Dialogue α → PageCache → List Request → Outcome α
  | .done a, c, sent => ⟨a, c, sent⟩
  | .cache op next, c, sent =>
    let (r, c) := op.run c
    run backend (next r) c sent
  | .ask request next, c, sent =>
    run backend (next (backend sent request)) c (sent ++ [request])

/-- A dialogue that ends is followed at once. -/
@[simp] theorem bind_done {α β : Type} (a : α) (f : α → Dialogue β) :
    (Dialogue.done a).bind f = f a := rfl

/-- Nothing follows a dialogue that is followed by its end. -/
theorem bind_done_right {α : Type} (d : Dialogue α) : d.bind .done = d := by
  induction d with
  | done a => rfl
  | cache op next ih => simp [bind, ih]
  | ask request next ih => simp [bind, ih]

/-- It does not matter how dialogues that follow each other are grouped. -/
theorem bind_assoc {α β γ : Type} (d : Dialogue α) (f : α → Dialogue β) (g : β → Dialogue γ) :
    (d.bind f).bind g = d.bind fun a => (f a).bind g := by
  induction d with
  | done a => rfl
  | cache op next ih => simp [bind, ih]
  | ask request next ih => simp [bind, ih]

/-- Dialogues one after the other are run one after the other. -/
theorem run_bind {α β : Type} (backend : List Request → Request → Reply) (d : Dialogue α)
    (f : α → Dialogue β) (c : PageCache) (sent : List Request) :
    (d.bind f).run backend c sent =
      (f (d.run backend c sent).value).run backend (d.run backend c sent).cache
        (d.run backend c sent).requests := by
  induction d generalizing c sent with
  | done a => rfl
  | cache op next ih => simp [bind, run, ih]
  | ask request next ih => simp [bind, run, ih]

/-- A dialogue that is held nowhere comes to its end. -/
theorem runUntil_false {α : Type} (backend : List Request → Request → Reply) (d : Dialogue α)
    (c : PageCache) (sent : List Request) :
    d.runUntil (fun _ => false) backend c sent =
      ⟨.finished (d.run backend c sent).value, (d.run backend c sent).cache,
        (d.run backend c sent).requests⟩ := by
  induction d generalizing c sent with
  | done a => rfl
  | cache op next ih => simp [runUntil, run, ih]
  | ask request next ih => simp [runUntil, run, ih]

end Dialogue

/-- A dialogue that may fail. -/
abbrev Attempt (α : Type) := ExceptT Failure Dialogue α

namespace Attempt

/-- One operation on the cache, which cannot fail as such. -/
def onCache (op : CacheOp) : Attempt op.Result := ExceptT.lift (Dialogue.onCache op)

/-- The result of a step that may fail. -/
def ofExcept {α : Type} (x : Except Failure α) : Attempt α := ExceptT.mk (.done x)

end Attempt

end CodePager
