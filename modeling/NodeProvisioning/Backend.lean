import NodeProvisioning.NodeClaim.Basic
import NodeProvisioning.RequestError
import NodeProvisioning.Time.Duration

/-!
# Backends

What answers the three calls of a run: create a claim, look at a claim, list the claims that a
selector finds. A backend has a state of any type; a call may be answered at once, after a while, or
never.

## Main definitions

* `Call`, `Answer` — a call, and what came back for it
* `Progress` — what becomes of a call that has begun
* `Backend` — how each call begins

## Design notes

A call acts on the backend twice. It begins at an instant, which may already change the state; and
where it has to wait, it finishes later, on whatever state it then finds. A call that is given up in
between has begun but never finishes.
-/

namespace NodeProvisioning

/-- A call to the backend. -/
inductive Call where
  | create (claim : NodeClaim)
  | get (key : ClaimKey)
  | list (ns selector : String)

/-- What came back for a call. -/
inductive Answer where
  | create (claim : NodeClaim) (result : Except RequestError Unit)
  | get (key : ClaimKey) (result : Except RequestError NodeClaim)
  | list (ns selector : String) (result : Except RequestError (List NodeClaim))

/-- The call that an answer is for. -/
def Answer.call : Answer → Call
  | .create claim _ => .create claim
  | .get key _ => .get key
  | .list ns selector _ => .list ns selector

/-- What becomes of a call that has begun. -/
inductive Progress (σ α : Type) where
  /-- It is answered at once. -/
  | answered (result : α)
  /-- It is never answered. -/
  | unanswered
  /-- It goes on after `delay`: it acts on the state, and then is answered or never is. Of several
  calls that go on at one instant, one with a lesser `turn` goes first. -/
  | waiting (delay turn : Nat) (finish : σ → σ × Option α)

/-- What answers the calls of a run. -/
structure Backend (σ : Type) where
  /-- Begin to create a claim. -/
  create : Instant → NodeClaim → σ → σ × Progress σ (Except RequestError Unit)
  /-- Begin to look at a claim. -/
  get : Instant → ClaimKey → σ → σ × Progress σ (Except RequestError NodeClaim)
  /-- Begin to list the claims of a namespace that a selector finds. -/
  list : Instant → String → String → σ → σ × Progress σ (Except RequestError (List NodeClaim))

end NodeProvisioning
