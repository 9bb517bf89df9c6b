import NodeProvisioning.Proofs.Rounds.Tally
import NodeProvisioning.Proofs.Run.Contract

/-!
# What a wait keeps

A wait lets time pass, begins looks, and takes answers, and nothing else.  So a property of the
world survives it if it lasts up to the deadline and if looks uphold it.  While a look is under way
the property holds, other looks begin and are answered, and what the look does when it goes on
keeps the property in whatever world it then finds; this is what `Resumes` asks for, and why a look
carries it along.

Looks have to uphold the property only while the wait is open: a round does not begin, and no look
goes on, once the cancellation or the deadline has come.

## Main definitions

* `Backend.LooksUphold` — looks uphold a property of the world
* `Rounds.Look.Resumes` — what a look under way does when it goes on

## Main statements

* `Rounds.awaitUntil_contract` — what a wait keeps
-/

namespace NodeProvisioning

open Run (Contract)

variable {σ : Type}

/-- **Looks uphold `J`** at the instants at which they may begin. -/
def Backend.LooksUphold (b : Backend σ) (J : World σ → Prop) (isOpen : Instant → Prop) : Prop :=
  ∀ key, Call.Upholds J isOpen (.get key) (.get key) fun t => b.get t key

namespace Rounds

variable {b : Backend σ} {J : World σ → Prop} {l : Limits}

/-- What a look under way does when it goes on keeps `J`. -/
def Look.Resumes (J : World σ → Prop) (isOpen : Instant → Prop) (look : Look σ) : Prop :=
  NodeProvisioning.Resumes J isOpen (.get look.key) look.finish

/-- Taking an answer leaves `J` if it holds once the answer is taken. -/
theorem take_contract {outstanding : List ClaimKey} {key : ClaimKey} {a : Sighting} :
    Contract (fun w => J (w.leave (.took w.now (.get key a))) ∧ l.IsOpen w.now)
      (take outstanding key a) (fun _ w => J w ∧ l.IsOpen w.now) fun _ => J := by
  intro w before
  rw [take_eq]
  cases consume outstanding key a with
  | ok left => exact before
  | error e => exact before.1

/-- Beginning a look leaves `J` for the time after its answer, or for the time it is under way. -/
theorem begin_contract (looks : b.LooksUphold J l.IsOpen) (key : ClaimKey) :
    Contract (fun w => J w ∧ l.IsOpen w.now) (begin b key)
      (fun began w => l.IsOpen w.now ∧
        match began with
        | .inl a => J (w.leave (.took w.now (.get key a)))
        | .inr look => J w ∧ look.Resumes J l.IsOpen) fun _ => J := by
  rintro w ⟨holds, isOpen⟩
  have begun := looks key w holds isOpen
  simp only [begin, Run.bind_apply, Run.note, Run.now_apply, Run.act]
  cases progress : (b.get w.now key w.state).2 with
  | answered a =>
    rw [progress] at begun
    exact ⟨isOpen, begun⟩
  | unanswered =>
    rw [progress] at begun
    -- It never goes on, which is the same as going on without an answer or an effect.
    refine ⟨isOpen, begun, fun w' holds' _ => ⟨fun a answered => ?_, fun _ => holds'⟩⟩
    cases answered
  | waiting delay turn finish =>
    rw [progress] at begun
    exact ⟨isOpen, begun⟩

/-- Beginning the looks of a round keeps `J`, and so will those that have to wait. -/
theorem start_contract (looks : b.LooksUphold J l.IsOpen) (keys outstanding : List ClaimKey) :
    Contract (fun w => J w ∧ l.IsOpen w.now) (start b keys outstanding)
      (fun found w => J w ∧ ∀ look ∈ found.2, look.Resumes J l.IsOpen) fun _ => J := by
  suffices stronger : Contract (fun w => J w ∧ l.IsOpen w.now) (start b keys outstanding)
      (fun found w => (J w ∧ l.IsOpen w.now) ∧ ∀ look ∈ found.2, look.Resumes J l.IsOpen)
      fun _ => J from
    stronger.weaken (fun _ => id) (fun _ w h => ⟨h.1.1, h.2⟩) fun _ _ => id
  induction keys generalizing outstanding with
  | nil => exact .pure fun w before => ⟨before, by simp⟩
  | cons key rest ih =>
    refine (begin_contract looks key).bind fun began => ?_
    rcases began with a | look
    · have taken : Contract
          (fun w => l.IsOpen w.now ∧ J (w.leave (.took w.now (.get key a))))
          (take outstanding key a) (fun _ w => J w ∧ l.IsOpen w.now) fun _ => J :=
        take_contract.weaken (fun w h => h.symm) (fun _ _ => id) fun _ _ => id
      exact taken.bind fun left => ih left
    · rintro w ⟨isOpen, holds, resumes⟩
      refine ((ih outstanding).bind fun found => ?_) w ⟨holds, isOpen⟩
      obtain ⟨left, looks⟩ := found
      refine .pure fun w' h => ⟨h.1, ?_⟩
      exact List.forall_mem_cons.2 ⟨resumes, h.2⟩

/-- Taking the looks that have to wait keeps what they keep when they go on. -/
theorem collect_contract (lasts : World.Lasts J (some l.deadline)) (looks : List (Look σ))
    (resume : ∀ look ∈ looks, look.Resumes J l.IsOpen) (stuck : Bool)
    (outstanding : List ClaimKey) :
    Contract J (collect l stuck outstanding looks) (fun _ => J) fun _ => J := by
  induction looks generalizing stuck outstanding with
  | nil =>
    cases stuck with
    | false => exact .pure fun _ => id
    | true => exact (Limits.pause_contract lasts _ _).bind fun _ => .halt fun w h => h.1
  | cons look rest ih =>
    obtain ⟨first, others⟩ := List.forall_mem_cons.1 resume
    rw [collect]
    split
    · exact ih others true outstanding
    · refine (Limits.pause_contract lasts _ _).bind fun _ => ?_
      rintro w ⟨holds, isOpen⟩
      obtain ⟨answered, lost⟩ := first w holds isOpen
      simp only [Run.bind_apply, Run.act]
      cases found : (look.finish w.state).2 with
      | some a =>
        have taken : Contract (fun w => J (w.leave (.took w.now (.get look.key a))) ∧
            l.IsOpen w.now) (take outstanding look.key a >>= fun left => collect l stuck left rest)
            (fun _ => J) fun _ => J :=
          take_contract.bind fun left =>
            (ih others stuck left).weaken (fun w h => h.1) (fun _ _ => id) fun _ _ => id
        exact taken _ ⟨answered a found, isOpen⟩
      | none => exact ih others true outstanding _ (lost found)

/-- **A round** keeps what looks uphold. -/
theorem round_contract (lasts : World.Lasts J (some l.deadline))
    (looks : b.LooksUphold J l.IsOpen) (outstanding : List ClaimKey) :
    Contract J (round b l outstanding) (fun _ => J) fun _ => J := by
  refine (Limits.check_contract outstanding).bind fun _ => ?_
  refine (start_contract looks _ _).bind fun found => ?_
  refine Contract.suppose fun resume => collect_contract lasts _ (fun look mem => ?_) _ _
  exact resume look ((Look.inOrder_perm found.2).mem_iff.1 mem)

theorem rounds_contract (lasts : World.Lasts J (some l.deadline))
    (looks : b.LooksUphold J l.IsOpen) {pollInterval : Duration} (fuel : Nat)
    (outstanding : List ClaimKey) :
    Contract J (rounds b pollInterval l fuel outstanding) (fun _ => J) fun _ => J := by
  induction fuel generalizing outstanding with
  | zero => exact .halt fun _ => id
  | succ fuel ih =>
    refine (round_contract lasts looks outstanding).bind fun left => ?_
    split
    · exact .pure fun _ => id
    · refine Contract.now.bind fun t => ?_
      have paused := Limits.pause_contract lasts left (some (t + pollInterval.nanos))
      exact (paused.weaken (fun w h => h.1) (fun _ w h => h.1) fun _ _ => id).bind
        fun _ => ih left

/-- **A wait keeps what looks uphold**, however it ends. -/
theorem awaitUntil_contract {pollInterval : Duration} {signals : Signals} {workspace : String}
    {deadline : Instant} {keys : List ClaimKey} (lasts : World.Lasts J (some deadline))
    (looks : b.LooksUphold J (Limits.IsOpen ⟨signals, workspace, deadline⟩)) :
    Contract J (awaitUntil b pollInterval signals workspace deadline keys) (fun _ => J)
      fun _ => J := by
  unfold awaitUntil
  dsimp only
  split
  · exact .pure fun _ => id
  · refine Contract.now.bind fun t => ?_
    exact (rounds_contract lasts looks _ _).weaken (fun w h => h.1) (fun _ _ => id) fun _ _ => id

end Rounds

end NodeProvisioning
