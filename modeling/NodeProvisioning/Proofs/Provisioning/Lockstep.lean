import NodeProvisioning.Proofs.Run.Lockstep
import NodeProvisioning.Run.Provisioning

/-!
# Provisioning in lockstep

If the two calls that provisioning makes respect a coupling of states, then so does provisioning: it
is made of waits, which do not depend on the state, and of calls.  The one thing to follow is a look
that has to wait.  It is carried along with what it does when it goes on, and this is known to
respect the coupling because of the call that it came from.

## Main definitions

* `Backend.Respects` — creations and looks respect a coupling
* `Rounds.Look.Respects` — what a look under way does respects it

## Main statements

* `submission_lockstep`, `provision_lockstep` — so does provisioning
-/

namespace NodeProvisioning

open Run (Lockstep Yields bind_cases)

variable {σ : Type} {C : Coupling σ}

/-- **The calls of provisioning** respect a coupling. -/
structure Backend.Respects (b : Backend σ) (C : Coupling σ) : Prop where
  create : ∀ t claim, C.Begins (b.create t claim)
  look : ∀ t key, C.Begins (b.get t key)

variable {b : Backend σ}

/-! ## Submissions -/

namespace Submission

variable {l : Limits} {settleDelay : Duration} {signals : Signals}

theorem Limits.pause_lockstep (due : Option Instant) :
    Lockstep C (l.pause due : Run σ Unit) := by
  refine Lockstep.now.bind fun t => (Lockstep.sleepUntil _).bind fun wake => ?_
  cases wake with
  | due => exact .pure ()
  | cancelled => exact .halt _
  | expired => cases l.deadline <;> exact .halt _
  | abandoned => exact .halt _

theorem Limits.check_lockstep : Lockstep C (l.check : Run σ Unit) := by
  refine Lockstep.now.bind fun t => ?_
  split
  · exact .halt _
  · exact .pure ()

theorem settle_lockstep (verdict : Except ProvisionError Unit) :
    Lockstep C (settle verdict : Run σ Unit) := by
  cases verdict with
  | ok _ => exact .pure ()
  | error e => exact .halt _

theorem linger_lockstep : Lockstep C (linger settleDelay l : Run σ Unit) := by
  unfold linger
  split
  · exact .pure ()
  · exact Lockstep.now.bind fun t => Limits.pause_lockstep _

/-- Submitting one claim is in lockstep if its calls respect the coupling. -/
theorem submitUntil_lockstep (respects : b.Respects C)
    (deadline : Option (Instant × ProvisionError)) (claim : NodeClaim) :
    Lockstep C (submitUntil b settleDelay signals deadline claim) := by
  refine Limits.check_lockstep.bind fun _ => ?_
  have placed : ∀ l, Lockstep C (place b l claim) := fun l =>
    (Lockstep.perform Limits.pause_lockstep fun t => respects.create t claim).bind fun _ =>
      settle_lockstep _
  have seen : ∀ l, Lockstep C (glance b l claim) := fun l =>
    (Lockstep.perform Limits.pause_lockstep fun t => respects.look t claim.key).bind fun _ =>
      settle_lockstep _
  exact (placed _).bind fun _ => linger_lockstep.bind fun _ => seen _

/-- **Submitting several claims** is in lockstep. -/
theorem submitAll_lockstep (respects : b.Respects C) (workspace : String) (deadline : Instant)
    (claims : List NodeClaim) :
    Lockstep C (submitAll b settleDelay signals workspace deadline claims) := by
  induction claims with
  | nil => exact .pure ()
  | cons claim rest ih => exact (submitUntil_lockstep respects _ claim).bind fun _ => ih

end Submission

/-! ## Waits -/

namespace Rounds

variable {l : Limits}

/-- What a look under way does when it goes on respects the coupling. -/
def Look.Respects (C : Coupling σ) (look : Look σ) : Prop := C.Respects look.finish

theorem Limits.pause_lockstep (outstanding : List ClaimKey) (due : Option Instant) :
    Lockstep C (l.pause outstanding due : Run σ Unit) := by
  refine (Lockstep.sleepUntil _).bind fun wake => ?_
  cases wake with
  | due => exact .pure ()
  | cancelled => exact .halt _
  | expired => exact .halt _
  | abandoned => exact .halt _

theorem Limits.check_lockstep (outstanding : List ClaimKey) :
    Lockstep C (l.check outstanding : Run σ Unit) := by
  refine Lockstep.now.bind fun t => ?_
  split
  · exact .halt _
  · split
    · exact .halt _
    · exact .pure ()

theorem take_lockstep (outstanding : List ClaimKey) (key : ClaimKey)
    (answer : Except RequestError NodeClaim) :
    Lockstep C (take outstanding key answer : Run σ (List ClaimKey)) := by
  refine (Lockstep.note _).bind fun _ => ?_
  split
  · exact .pure _
  · exact .halt _

/-- A look that has to wait respects the coupling as its beginning does. -/
theorem begin_yields (respects : b.Respects C) (key : ClaimKey) :
    Yields (begin b key) fun began => ∀ look, began = .inr look → look.Respects C := by
  intro w began w' ran look same
  subst same
  simp only [begin, Run.bind_apply, Run.note, Run.now_apply, Run.act] at ran
  cases progress : (b.get w.now key w.state).2 with
  | answered a =>
    rw [progress] at ran
    cases ran
  | unanswered =>
    rw [progress] at ran
    cases ran
    exact .of_id C
  | waiting delay turn finish =>
    rw [progress] at ran
    cases ran
    exact (respects.look w.now key).goesOn w.state delay turn finish progress

theorem begin_lockstep (respects : b.Respects C) (key : ClaimKey) :
    Lockstep C (begin b key) := by
  refine (Lockstep.note _).bind fun _ => Lockstep.now.bind fun t => ?_
  refine (Lockstep.act (respects.look t key).begun).bind fun progress => ?_
  cases progress with
  | answered a => exact .pure _
  | unanswered => exact .pure _
  | waiting delay turn finish => exact .pure _

/-- The looks of a round that have to wait respect the coupling. -/
theorem start_yields (respects : b.Respects C) (keys outstanding : List ClaimKey) :
    Yields (start b keys outstanding) fun found => ∀ look ∈ found.2, look.Respects C := by
  induction keys generalizing outstanding with
  | nil =>
    intro w found w' ran
    cases ran
    simp
  | cons key rest ih =>
    intro w found w' ran
    rcases bind_cases ran with ⟨a | look, w₁, began, ran⟩ | ⟨e, -, same⟩
    · rcases bind_cases ran with ⟨left, w₂, -, ran⟩ | ⟨e, -, same⟩
      · exact ih left w₂ found w' ran
      · cases same
    · rcases bind_cases ran with ⟨others, w₂, started, ran⟩ | ⟨e, -, same⟩
      · cases ran
        refine List.forall_mem_cons.2 ⟨?_, ih outstanding w₁ others _ started⟩
        exact begin_yields respects key w _ w₁ began look rfl
      · cases same
    · cases same

theorem start_lockstep (respects : b.Respects C) (keys outstanding : List ClaimKey) :
    Lockstep C (start b keys outstanding) := by
  induction keys generalizing outstanding with
  | nil => exact .pure _
  | cons key rest ih =>
    refine (begin_lockstep respects key).bind fun began => ?_
    rcases began with a | look
    · exact (take_lockstep outstanding key a).bind fun left => ih left
    · exact (ih outstanding).bind fun found => .pure _

theorem collect_lockstep (looks : List (Look σ)) (respect : ∀ look ∈ looks, look.Respects C)
    (stuck : Bool) (outstanding : List ClaimKey) :
    Lockstep C (collect l stuck outstanding looks) := by
  induction looks generalizing stuck outstanding with
  | nil =>
    cases stuck with
    | false => exact .pure _
    | true => exact (Limits.pause_lockstep _ _).bind fun _ => .halt _
  | cons look rest ih =>
    obtain ⟨first, others⟩ := List.forall_mem_cons.1 respect
    rw [collect]
    split
    · exact ih others true outstanding
    · refine (Limits.pause_lockstep _ _).bind fun _ => (Lockstep.act first).bind fun found => ?_
      cases found with
      | some a => exact (take_lockstep _ _ a).bind fun left => ih others stuck left
      | none => exact ih others true outstanding

/-- **A round** is in lockstep. -/
theorem round_lockstep (respects : b.Respects C) (outstanding : List ClaimKey) :
    Lockstep C (round b l outstanding) := by
  refine (Limits.check_lockstep outstanding).bind fun _ => ?_
  refine (start_lockstep respects _ _).bind_of_yields (start_yields respects _ _) ?_
  intro found respect
  refine collect_lockstep _ (fun look mem => ?_) _ _
  exact respect look ((Look.inOrder_perm found.2).mem_iff.1 mem)

theorem rounds_lockstep (respects : b.Respects C) {pollInterval : Duration} (fuel : Nat)
    (outstanding : List ClaimKey) :
    Lockstep C (rounds b pollInterval l fuel outstanding) := by
  induction fuel generalizing outstanding with
  | zero => exact .halt _
  | succ fuel ih =>
    refine (round_lockstep respects outstanding).bind fun left => ?_
    split
    · exact .pure ()
    · exact Lockstep.now.bind fun t => (Limits.pause_lockstep _ _).bind fun _ => ih left

/-- **A wait** is in lockstep. -/
theorem awaitUntil_lockstep (respects : b.Respects C) {pollInterval : Duration} {signals : Signals}
    {workspace : String} {deadline : Instant} (keys : List ClaimKey) :
    Lockstep C (awaitUntil b pollInterval signals workspace deadline keys) := by
  unfold awaitUntil
  dsimp only
  split
  · exact .pure ()
  · exact Lockstep.now.bind fun t => rounds_lockstep respects _ _

end Rounds

/-! ## Provisioning -/

namespace Provisioning

variable {config : RunConfig} {signals : Signals} {w : Workload}

theorem submission_lockstep (respects : b.Respects C) :
    Lockstep C (submission b config signals w) := by
  have clock : Lockstep C (Rounds.deadlineIn config.timeout : Run σ Instant) := by
    refine Lockstep.now.bind fun t => ?_
    split
    · exact .pure _
    · exact .halt _
  exact clock.bind fun deadline =>
    (Submission.submitAll_lockstep respects _ _ _).bind fun _ => .pure _

/-- **Provisioning** is in lockstep if its calls respect the coupling. -/
theorem provision_lockstep (respects : b.Respects C) :
    Lockstep C (provision b config signals w) :=
  (submission_lockstep respects).bind fun _ => Rounds.awaitUntil_lockstep respects _

end Provisioning

end NodeProvisioning
