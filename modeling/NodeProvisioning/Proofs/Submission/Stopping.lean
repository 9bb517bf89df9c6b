import NodeProvisioning.Proofs.Run.Contract
import NodeProvisioning.Proofs.Submission.Passage

/-!
# Why a submission stops

A submission stops because something from outside cuts it short, because the creation was refused,
or because the look at the claim was fatal.  In the last two cases the answer that stopped it is the
last event of the run, and the error of the run names the claim and carries that answer.

As a submission makes two calls for each claim and waits in between, a property of the world
survives it if the two calls uphold it and if it lasts while time passes.

## Main definitions

* `Stops` — why the submission of one claim stops, and after which event
* `Backend.Submits` — what the two calls for a claim do to a property of the world

## Main statements

* `submitUntil_contract`, `submitAll_contract` — what one submission, and several, keep
* `submitAll_stopped` — which claim a submission stops at, and after which history
-/

namespace NodeProvisioning

variable {σ : Type}

/-- **The two calls for a claim** at the instants at which they may begin: the creation leads from
`P` to `J`, and the look upholds `J`. -/
structure Backend.Submits (b : Backend σ) (P J : World σ → Prop) (isOpen : Instant → Prop)
    (claim : NodeClaim) : Prop where
  create : Call.Leads P J isOpen (.create claim) (.create claim) fun t => b.create t claim
  look : Call.Upholds J isOpen (.get claim.key) (.get claim.key) fun t => b.get t claim.key

namespace Submission

open Run (Contract bind_cases)

/-- **Why the submission of a claim stops**, and after which events, the latest first. -/
inductive Stops (l : Limits) (claim : NodeClaim) : Halt → List Event → Prop
  /-- Something from outside cut it short. -/
  | cut {e : Halt} {trace : List Event} (cuts : l.Cuts e) : Stops l claim e trace
  /-- The creation was refused. -/
  | refused {t : Instant} {e : RequestError} {trace : List Event}
      (final : e.isAlreadyExists = false) :
      Stops l claim (.failed (.submission claim.anyName e))
        (.took t (.create claim (.error e)) :: trace)
  /-- The look at the claim was fatal. -/
  | fatal {t : Instant} {a : Sighting} {e : ProvisionError} {trace : List Event}
      (fails : verdict claim.anyName a = .error e) :
      Stops l claim (.failed e) (.took t (.get claim.key a) :: trace)

section Contracts

variable {b : Backend σ} {P J : World σ → Prop} {l : Limits} {claim : NodeClaim}

/-- The submission is not cancelled. -/
def Limits.IsOpen (l : Limits) (now : Instant) : Prop := l.signals.isCancelled now = false

/-- The last event is of this instant. -/
def IsPrompt (w : World σ) : Prop := ∃ event, w.trace.head? = some event ∧ event.time = w.now

/-- **A call whose answer is judged.** -/
theorem ask_contract {α : Type} {call : Call} {took : α → Answer}
    {begin : Instant → σ → σ × Progress σ α} {judge : α → Except ProvisionError Unit}
    (lasts : World.Lasts J (l.deadline.map (·.1)))
    (leads : Call.Leads P J l.IsOpen call took begin) :
    Contract (fun w => P w ∧ l.IsOpen w.now)
      (Run.perform l.pause call took begin >>= fun a => settle (judge a))
      (fun _ w => (J w ∧ l.IsOpen w.now) ∧ IsPrompt w)
      fun e w => J w ∧ (l.Cuts e ∨ ∃ a x, w.trace.head? = some (.took w.now (took a)) ∧
        judge a = .error x ∧ e = .failed x) := by
  refine (Contract.perform (fun due => ?_) (fun w holds => ?_) leads).bind fun a => ?_
  · refine (Limits.pause_contract lasts due).weaken (fun _ => id) (fun _ _ => id) fun e w h => ?_
    exact ⟨h.1, .inl h.2⟩
  · exact ⟨holds, .inl .stalled⟩
  · cases judged : judge a with
    | ok _ => exact .pure fun w h => ⟨h.1, _, h.2, rfl⟩
    | error x => exact .halt fun w h => ⟨h.1.1, .inr ⟨a, x, h.2, judged, rfl⟩⟩

theorem place_contract (lasts : World.Lasts J (l.deadline.map (·.1)))
    (create : Call.Leads P J l.IsOpen (.create claim) (.create claim)
      fun t => b.create t claim) :
    Contract (fun w => P w ∧ l.IsOpen w.now) (place b l claim)
      (fun _ w => J w ∧ l.IsOpen w.now) fun e w => J w ∧ Stops l claim e w.trace := by
  refine (ask_contract lasts create).weaken (fun _ => id) (fun _ w h => h.1) fun e w h => ?_
  obtain ⟨holds, cuts | ⟨a, x, last, judged, rfl⟩⟩ := h
  · exact ⟨holds, .cut cuts⟩
  · obtain ⟨trace, same⟩ := List.head?_eq_some_iff.1 last
    rw [same]
    rcases a with e | _
    · cases found : e.isAlreadyExists with
      | true => simp [accepted, found] at judged
      | false =>
        simp only [accepted, found] at judged
        cases judged
        exact ⟨holds, .refused found⟩
    · cases judged

theorem linger_contract {settleDelay : Duration} (lasts : World.Lasts J (l.deadline.map (·.1))) :
    Contract (fun w => J w ∧ l.IsOpen w.now) (linger settleDelay l)
      (fun _ w => J w ∧ l.IsOpen w.now) fun e w => J w ∧ Stops l claim e w.trace := by
  unfold linger
  split
  · exact .pure fun _ => id
  · refine Contract.now.bind fun t => (Limits.pause_contract lasts _).weaken (fun w h => h.1.1)
      (fun _ _ => id) fun e w h => ⟨h.1, .cut h.2⟩

theorem glance_contract (lasts : World.Lasts J (l.deadline.map (·.1)))
    (look : Call.Upholds J l.IsOpen (.get claim.key) (.get claim.key) fun t => b.get t claim.key) :
    Contract (fun w => J w ∧ l.IsOpen w.now) (glance b l claim)
      (fun _ w => J w ∧ IsPrompt w) fun e w => J w ∧ Stops l claim e w.trace := by
  refine (ask_contract lasts look).weaken (fun _ => id) (fun _ w h => ⟨h.1.1, h.2⟩) fun e w h => ?_
  obtain ⟨holds, cuts | ⟨a, x, last, judged, rfl⟩⟩ := h
  · exact ⟨holds, .cut cuts⟩
  · obtain ⟨trace, same⟩ := List.head?_eq_some_iff.1 last
    rw [same]
    exact ⟨holds, .fatal judged⟩

theorem createAndCheck_contract {settleDelay : Duration}
    (lasts : World.Lasts J (l.deadline.map (·.1))) (submits : b.Submits P J l.IsOpen claim) :
    Contract (fun w => P w ∧ l.IsOpen w.now) (createAndCheck b settleDelay l claim)
      (fun _ w => J w ∧ IsPrompt w) fun e w => J w ∧ Stops l claim e w.trace :=
  (place_contract lasts submits.create).bind fun _ => (linger_contract lasts).bind fun _ =>
    glance_contract lasts submits.look

variable {settleDelay : Duration} {signals : Signals}

/-- **Submitting one claim** leads where its two calls lead, and leaves no time between the answer
to the look and its end. -/
theorem submitUntil_contract {deadline : Option (Instant × ProvisionError)}
    (lasts : World.Lasts J (deadline.map (·.1))) (still : ∀ w, P w → J w)
    (submits : b.Submits P J (fun t => signals.isCancelled t = false) claim) :
    Contract P (submitUntil b settleDelay signals deadline claim)
      (fun _ w => J w ∧ IsPrompt w)
      fun e w => J w ∧ Stops ⟨signals, workspaceOf claim, deadline⟩ claim e w.trace := by
  let l : Limits := ⟨signals, workspaceOf claim, deadline⟩
  have checked : Contract P l.check (fun _ w => P w ∧ l.IsOpen w.now)
      fun e w => J w ∧ Stops l claim e w.trace :=
    Limits.check_contract.weaken (fun _ => id) (fun _ _ => id)
      fun _ w h => ⟨still w h.1, .cut h.2⟩
  have rest : Contract (fun w => P w ∧ l.IsOpen w.now) (createAndCheck b settleDelay l claim)
      (fun _ w => J w ∧ IsPrompt w) fun e w => J w ∧ Stops l claim e w.trace :=
    createAndCheck_contract lasts submits
  exact checked.bind fun _ => rest

/-- **Submitting several claims**: `P` holds before each of them if it holds before the first, and
where no time has passed since the last event, `J` is enough for it. -/
theorem submitAll_contract {workspace : String} {deadline : Instant}
    (lasts : World.Lasts J (some deadline)) (still : ∀ w, P w → J w)
    (next : ∀ w, J w → IsPrompt w → P w) (claims : List NodeClaim)
    (submits : ∀ claim ∈ claims, b.Submits P J (fun t => signals.isCancelled t = false) claim) :
    Contract P (submitAll b settleDelay signals workspace deadline claims) (fun _ => P)
      fun _ => J := by
  induction claims with
  | nil => exact .pure fun _ => id
  | cons claim rest ih =>
    obtain ⟨first, others⟩ := List.forall_mem_cons.1 submits
    refine ((submitUntil_contract lasts still first).weaken (fun _ => id) (fun _ w h => ?_)
      fun e w h => h.1).bind fun _ => ih others
    exact next w h.1 h.2

end Contracts

/-! ## Where a submission stops -/

/-- **A submission of several claims that stops** does so while it submits one of them, after those
before it got through. -/
theorem submitAll_stopped {b : Backend σ} {settleDelay : Duration} {signals : Signals}
    {workspace : String} {deadline : Instant} (claims : List NodeClaim) {w w' : World σ} {e : Halt}
    (h : submitAll b settleDelay signals workspace deadline claims w = (.error e, w')) :
    ∃ done claim rest before tail p, claims = done ++ claim :: rest ∧
      w.Leads (before ++ tail) w' ∧ Cleared done before ∧ tail <+: Passage.events p claim ∧
      Stops ⟨signals, workspaceOf claim,
        some (deadline, .timeout workspace ((claim :: rest).map NodeClaim.anyName))⟩
        claim e w'.trace := by
  induction claims generalizing w with
  | nil => cases h
  | cons claim rest ih =>
    rcases bind_cases h with ⟨_, w₁, submitted, later⟩ | ⟨e, submitted, same⟩
    · obtain ⟨first, led, attempt⟩ := submitUntil_attempt submitted
      obtain ⟨done, c, rest', before, tail, p, rfl, leads, cleared, sub, stops⟩ := ih later
      cases attempt with
      | passed q passes =>
        refine ⟨claim :: done, c, rest', q.events claim ++ before, tail, p, rfl, ?_,
          cleared.cons q passes, sub, stops⟩
        rw [List.append_assoc]
        exact led.trans leads
    · cases same
      obtain ⟨tail, led, attempt⟩ := submitUntil_attempt submitted
      -- What is kept here is nothing; only the reason counts.
      have kept : ∀ {α : Type} (call : Call) (took : α → Answer)
          (begin : Instant → σ → σ × Progress σ α), Call.Upholds (fun _ => True)
            (fun t => signals.isCancelled t = false) call took begin := by
        intro α call took begin w _ _
        cases (begin w.now w.state).2 <;> simp [Progress.Upholds, Resumes]
      have nothing : b.Submits (fun _ => True) (fun _ => True)
          (fun t => signals.isCancelled t = false) claim := ⟨kept _ _ _, kept _ _ _⟩
      have lasts : World.Lasts (fun _ : World σ => True) (some deadline) :=
        fun _ _ _ _ _ => trivial
      obtain ⟨-, stops⟩ :=
        (submitUntil_contract lasts (fun _ => id) nothing).error trivial submitted
      cases attempt with
      | stopped p _ sub =>
        exact ⟨[], claim, rest, [], tail, p, rfl, led, .nil, sub, stops⟩

end Submission

end NodeProvisioning
