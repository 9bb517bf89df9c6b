import NodeProvisioning.Proofs.Run.Parallel
import NodeProvisioning.Proofs.Submission.Stopping
import NodeProvisioning.Store.Basic

/-!
# Submitting a claim again

A submission that finds its claim in the cluster already goes on as if it had created it.  This is
how work that was cut short is taken up: the claims are submitted once more, and those that are
there stand in nobody's way.  From outside the two cannot be told apart: a claim that was created
and a claim that was found are looked at at the same instant, and their submissions end alike.  Any
other refusal ends the submission with an error that names the claim, and there is no look.

A cancellation comes before everything that is due at the same instant.  So each step of a
submission, the creation, the moment to settle and the look, has one equation for the case that it
is cancelled before it ends, or then, and one for the case that it is not; what a submission does as
a whole is read off these.

## Main definitions

* `limitsOf` — what ends the waits of a submission that is not part of a run with a deadline
* `placed` — the world after a creation that was answered
* `FollowUp` — how a submission ends whose creation was accepted, and the calls it makes

## Main statements

* `submit_abreast` — two submissions whose creations are accepted at one instant
* `submit_refused` — a submission whose creation is refused
* `submit_followUp` — a submission whose creation is accepted
* `resubmission` — the three together: there already is as good as new, and nothing else is
* `not_always_looked_at` — a claim that was created may be left without a look
-/

namespace NodeProvisioning

variable {σ τ α : Type}

/-- Where only a cancellation may come, nothing comes until it has. -/
theorem Signals.silentUntil_iff {cancelAt : Option Instant} {t : Instant} :
    ({ cancelAt } : Signals).SilentUntil t ↔ ({ cancelAt } : Signals).isCancelled t = false := by
  constructor
  · exact fun silent => silent.isCancelled_eq_false (Nat.le_refl t)
  · intro running
    refine ⟨fun d isSet => ?_, nofun⟩
    obtain rfl : cancelAt = some d := isSet
    simpa [isCancelled] using running

/-- What is cancelled at some instant has a cancellation. -/
theorem Signals.ne_none_of_isCancelled {cancelAt : Option Instant} {t : Instant}
    (cancelled : ({ cancelAt } : Signals).isCancelled t = true) : cancelAt ≠ none := by
  rintro rfl
  cases cancelled

namespace Submission

open Run (Abreast)
open Signals (ne_none_of_isCancelled)

/-- The limits of the submission of a claim that is not part of a run with a deadline. -/
def limitsOf (cancelAt : Option Instant) (claim : NodeClaim) : Limits :=
  { signals := { cancelAt }, workspace := workspaceOf claim }

section Waits

variable {cancelAt : Option Instant} (claim : NodeClaim) {x : World σ} {t : Instant}

/-- A wait that is not cancelled goes on. -/
theorem pause_goesOn (ahead : x.now ≤ t)
    (running : ({ cancelAt } : Signals).isCancelled t = false) :
    (limitsOf cancelAt claim).pause (some t) x = (.ok (), x.moved t) :=
  Limits.pause_eq ahead (Signals.silentUntil_iff.2 running) nofun

/-- A wait that is cancelled before it is to go on, or then, ends so. -/
theorem pause_cancelled (running : ({ cancelAt } : Signals).isCancelled x.now = false)
    (cancelled : ({ cancelAt } : Signals).isCancelled t = true) :
    ∃ c, (limitsOf cancelAt claim).pause (some t) x =
      (.error (.failed (.cancelled (workspaceOf claim))), x.moved c) := by
  cases cancelAt with
  | none => cases cancelled
  | some c =>
    have early : c ≤ t := by simpa [Signals.isCancelled] using cancelled
    -- The cancellation stands first, so it also goes off before what is due at its instant.
    have next : Alarm.next x.now ((limitsOf (some c) claim).alarms x.now (some t)) =
        some (max x.now c, .cancelled) := by
      refine Alarm.next_append [] rfl (List.forall_mem_nil _) fun a mem d isSet => ?_
      rcases List.mem_cons.1 mem with rfl | mem
      · cases isSet
        exact Alarm.max_le_max early
      · simp only [List.mem_cons, List.not_mem_nil, or_false] at mem
        rcases mem with rfl | rfl <;> cases isSet
    refine ⟨max x.now c, ?_⟩
    unfold Limits.pause
    rw [Run.bind_of_ok (Run.now_apply x), Run.bind_of_ok (Run.sleepUntil_eq next)]
    rfl

end Waits

/-! ## One call -/

section Asking

variable {cancelAt : Option Instant} (claim : NodeClaim) (call : Call) (took : α → Answer)
variable {begin : Instant → σ → σ × Progress σ α} (judge : α → Except ProvisionError Unit)
variable {x : World σ} {a : α} {t : Instant} {after : σ}

/-- **A call that is answered** is judged by its answer, if it is not cancelled up to then. -/
theorem ask_answered (answered : Call.Answered begin x a t after)
    (running : ({ cancelAt } : Signals).isCancelled t = false) :
    (Run.perform (limitsOf cancelAt claim).pause call took begin >>= fun a => settle (judge a)) x =
      settle (judge a) ⟨t, after, .took t (took a) :: .began x.now call :: x.trace⟩ :=
  Run.bind_of_ok (Run.perform_eq answered fun _ isNow =>
    pause_goesOn claim (isNow ▸ answered.now_le) running)

/-- **A call that is cancelled** before it is answered, or then, has only begun. -/
theorem ask_cancelled (answered : Call.Answered begin x a t after)
    (running : ({ cancelAt } : Signals).isCancelled x.now = false)
    (cancelled : ({ cancelAt } : Signals).isCancelled t = true) :
    ∃ y, (Run.perform (limitsOf cancelAt claim).pause call took begin >>= fun a =>
        settle (judge a)) x = (.error (.failed (.cancelled (workspaceOf claim))), y) ∧
      x.Leads [.began x.now call] y := by
  cases answered with
  | atOnce begun =>
    -- No time passes up to the answer in which the call could be cancelled.
    rw [running] at cancelled
    cases cancelled
  | @later between after delay turn finish begun finished =>
    have began : x.Leads [.began x.now call] (x.begun call begin) := .of_trace_cons rfl
    obtain ⟨c, paused⟩ := pause_cancelled claim (x := x.begun call begin) running cancelled
    refine ⟨(x.begun call begin).moved c, Run.bind_of_error ?_, began.trans (.of_trace_eq rfl)⟩
    have whole : Run.perform (limitsOf cancelAt claim).pause call took begin x =
      Run.complete (limitsOf cancelAt claim).pause took (begin x.now x.state).2
        (x.begun call begin) := rfl
    rw [whole, begun]
    unfold Run.complete
    dsimp only
    rw [Run.bind_of_ok (Run.now_apply _)]
    exact Run.bind_of_error paused

end Asking

/-! ## One submission -/

section Submitting

variable {b : Backend σ} {settleDelay : Duration} {cancelAt : Option Instant} {claim : NodeClaim}
variable {x : World σ} {a : Except RequestError Unit} {t : Instant} {after : σ}

/-- The world after a creation that was answered. -/
def placed (x : World σ) (claim : NodeClaim) (a : Except RequestError Unit) (t : Instant)
    (after : σ) : World σ :=
  ⟨t, after, .took t (.create claim a) :: .began x.now (.create claim) :: x.trace⟩

theorem leads_placed (x : World σ) (claim : NodeClaim) (a : Except RequestError Unit) (t : Instant)
    (after : σ) :
    x.Leads [.began x.now (.create claim), .took t (.create claim a)]
      (placed x claim a t after) := by
  simp [World.Leads, World.history, placed]

/-- A submission that is not cancelled beforehand begins with the creation. -/
theorem submit_eq (running : ({ cancelAt } : Signals).isCancelled x.now = false) :
    submit b settleDelay { cancelAt } claim x =
      createAndCheck b settleDelay (limitsOf cancelAt claim) claim x := by
  have checked : (limitsOf cancelAt claim).check x = (.ok (), x) := by
    unfold Limits.check
    rw [Run.bind_of_ok (Run.now_apply x)]
    have running : (limitsOf cancelAt claim).signals.isCancelled x.now = false := running
    rw [running, if_neg Bool.false_ne_true]
    rfl
  exact Run.bind_of_ok checked

/-- A submission that is cancelled beforehand does nothing. -/
theorem submit_cancelled (cancelled : ({ cancelAt } : Signals).isCancelled x.now = true) :
    submit b settleDelay { cancelAt } claim x =
      (.error (.failed (.cancelled (workspaceOf claim))), x) := by
  have checked : (limitsOf cancelAt claim).check x =
      (.error (.failed (.cancelled (workspaceOf claim))), x) := by
    unfold Limits.check
    rw [Run.bind_of_ok (Run.now_apply x)]
    have cancelled : (limitsOf cancelAt claim).signals.isCancelled x.now = true := cancelled
    rw [cancelled, if_pos rfl]
    rfl
  exact Run.bind_of_error checked

/-- What is not cancelled by some instant was not cancelled before. -/
theorem isCancelled_mono {u : Instant} (le : t ≤ u)
    (running : ({ cancelAt } : Signals).isCancelled u = false) :
    ({ cancelAt } : Signals).isCancelled t = false :=
  Signals.silentUntil_iff.1 ((Signals.silentUntil_iff.2 running).mono le)

/-- A creation that is answered, and not cancelled up to then, is judged by its answer. -/
theorem place_answered (answered : Call.Answered (fun t => b.create t claim) x a t after)
    (running : ({ cancelAt } : Signals).isCancelled t = false) :
    place b (limitsOf cancelAt claim) claim x =
      settle (accepted claim.anyName a) (placed x claim a t after) :=
  ask_answered claim _ _ _ answered running

/-- A submission that is cancelled before the creation is answered, or then, has only begun. -/
theorem submit_cancelled_early (answered : Call.Answered (fun t => b.create t claim) x a t after)
    (cancelled : ({ cancelAt } : Signals).isCancelled t = true) :
    ∃ y events, submit b settleDelay { cancelAt } claim x =
        (.error (.failed (.cancelled (workspaceOf claim))), y) ∧
      x.Leads events y ∧ History.calls events <+: [(x.now, .create claim)] := by
  cases beforehand : ({ cancelAt } : Signals).isCancelled x.now with
  | true => exact ⟨x, [], submit_cancelled beforehand, .refl x, List.nil_prefix⟩
  | false =>
    obtain ⟨y, ended, led⟩ := ask_cancelled claim (.create claim) (.create claim)
      (accepted claim.anyName) answered beforehand cancelled
    refine ⟨y, _, ?_, led, List.prefix_refl _⟩
    rw [submit_eq beforehand]
    exact Run.bind_of_error ended

/-- A claim that is given a moment to settle has settled after it, if it is not cancelled. -/
theorem linger_goesOn (claim : NodeClaim)
    (running : ({ cancelAt } : Signals).isCancelled (x.now + settleDelay.nanos) = false) :
    linger settleDelay (limitsOf cancelAt claim) x =
      (.ok (), x.moved (x.now + settleDelay.nanos)) := by
  unfold linger
  split
  · next zero =>
    have none : settleDelay.nanos = 0 := by simpa [Duration.isZero] using zero
    rw [none]
    rfl
  · rw [Run.bind_of_ok (Run.now_apply x)]
    exact pause_goesOn claim (Nat.le_add_right _ _) running

theorem linger_cancelled (claim : NodeClaim)
    (running : ({ cancelAt } : Signals).isCancelled x.now = false)
    (cancelled : ({ cancelAt } : Signals).isCancelled (x.now + settleDelay.nanos) = true) :
    ∃ c, linger settleDelay (limitsOf cancelAt claim) x =
      (.error (.failed (.cancelled (workspaceOf claim))), x.moved c) := by
  unfold linger
  split
  · next zero =>
    have none : settleDelay.nanos = 0 := by simpa [Duration.isZero] using zero
    rw [none, Nat.add_zero, running] at cancelled
    cases cancelled
  · rw [Run.bind_of_ok (Run.now_apply x)]
    exact pause_cancelled claim running cancelled

/-- A creation that gets through was not cancelled before it was answered. -/
theorem place_ok {y : World σ} (answered : Call.Answered (fun t => b.create t claim) x a t after)
    (accepts : accepted claim.anyName a = .ok ())
    (running : ({ cancelAt } : Signals).isCancelled x.now = false)
    (ran : place b (limitsOf cancelAt claim) claim x = (.ok (), y)) :
    y = placed x claim a t after ∧ ({ cancelAt } : Signals).isCancelled t = false := by
  cases early : ({ cancelAt } : Signals).isCancelled t with
  | true =>
    obtain ⟨z, ended, -⟩ := ask_cancelled claim (.create claim) (.create claim)
      (accepted claim.anyName) answered running early
    cases ran.symm.trans ended
  | false =>
    have first := place_answered answered early
    rw [accepts] at first
    cases ran.symm.trans first
    exact ⟨rfl, rfl⟩

/-- A moment that passes was not cancelled. -/
theorem linger_ok {y : World σ} (running : ({ cancelAt } : Signals).isCancelled x.now = false)
    (ran : linger settleDelay (limitsOf cancelAt claim) x = (.ok (), y)) :
    y = x.moved (x.now + settleDelay.nanos) ∧
      ({ cancelAt } : Signals).isCancelled (x.now + settleDelay.nanos) = false := by
  cases late : ({ cancelAt } : Signals).isCancelled (x.now + settleDelay.nanos) with
  | true =>
    obtain ⟨c, ended⟩ := linger_cancelled claim running late
    cases ran.symm.trans ended
  | false =>
    cases ran.symm.trans (linger_goesOn claim late)
    exact ⟨rfl, rfl⟩

/-- **A creation that is accepted** is followed by the look, when the claim has settled. -/
theorem submit_accepted (answered : Call.Answered (fun t => b.create t claim) x a t after)
    (accepts : accepted claim.anyName a = .ok ())
    (running : ({ cancelAt } : Signals).isCancelled (t + settleDelay.nanos) = false) :
    submit b settleDelay { cancelAt } claim x = glance b (limitsOf cancelAt claim) claim
      ((placed x claim a t after).moved (t + settleDelay.nanos)) := by
  have notYet : ({ cancelAt } : Signals).isCancelled t = false :=
    isCancelled_mono (Nat.le_add_right _ _) running
  have first := place_answered answered notYet
  rw [accepts] at first
  have second := linger_goesOn claim (x := placed x claim a t after) running
  rw [submit_eq (isCancelled_mono answered.now_le notYet), createAndCheck, Run.bind_of_ok first,
    Run.bind_of_ok second]
  rfl

/-- A submission that is cancelled before the claim has settled, or then, makes no look. -/
theorem submit_accepted_cancelled
    (answered : Call.Answered (fun t => b.create t claim) x a t after)
    (accepts : accepted claim.anyName a = .ok ())
    (cancelled : ({ cancelAt } : Signals).isCancelled (t + settleDelay.nanos) = true) :
    ∃ y events, submit b settleDelay { cancelAt } claim x =
        (.error (.failed (.cancelled (workspaceOf claim))), y) ∧
      x.Leads events y ∧ History.calls events <+: [(x.now, .create claim)] := by
  cases early : ({ cancelAt } : Signals).isCancelled t with
  | true => exact submit_cancelled_early answered early
  | false =>
    have first := place_answered answered early
    rw [accepts] at first
    obtain ⟨c, second⟩ := linger_cancelled claim (x := placed x claim a t after) early cancelled
    have led : x.Leads [.began x.now (.create claim), .took t (.create claim a)]
        ((placed x claim a t after).moved c) :=
      (leads_placed x claim a t after).trans (.of_trace_eq rfl)
    refine ⟨_, _, ?_, led, List.prefix_refl _⟩
    rw [submit_eq (isCancelled_mono answered.now_le early), createAndCheck, Run.bind_of_ok first]
    exact Run.bind_of_error second

/-- **A creation that is refused** ends the submission, if it is not cancelled up to then. -/
theorem submit_refused {e : RequestError} (final : e.isAlreadyExists = false)
    (answered : Call.Answered (fun t => b.create t claim) x (.error e) t after) :
    ∃ y events, submit b settleDelay { cancelAt } claim x =
        (.error (.failed (if ({ cancelAt } : Signals).isCancelled t then
          .cancelled (workspaceOf claim) else .submission claim.anyName e)), y) ∧
      x.Leads events y ∧ History.calls events <+: [(x.now, .create claim)] := by
  cases early : ({ cancelAt } : Signals).isCancelled t with
  | true => exact submit_cancelled_early answered early
  | false =>
    have first := place_answered answered early
    have refuses : accepted claim.anyName (.error e) = .error (.submission claim.anyName e) := by
      rw [accepted, final, if_neg Bool.false_ne_true]
    rw [refuses] at first
    refine ⟨_, _, ?_, leads_placed x claim (.error e) t after, List.prefix_refl _⟩
    rw [submit_eq (isCancelled_mono answered.now_le early), createAndCheck]
    exact Run.bind_of_error first

end Submitting

/-! ## The look -/

section Looking

variable {b : Backend σ} {cancelAt : Option Instant} {claim : NodeClaim} {x : World σ}

/-- A wait for what never comes ends with the cancellation, if at all. -/
theorem pause_never (cancelAt : Option Instant) (claim : NodeClaim) (x : World σ) :
    ∃ h y, (limitsOf cancelAt claim).pause none x = (.error h, y) ∧
      (h = .stalled ∨ h = .failed (.cancelled (workspaceOf claim)) ∧ cancelAt ≠ none) := by
  unfold Limits.pause
  rw [Run.bind_of_ok (Run.now_apply x)]
  cases cancelAt with
  | none => exact ⟨.stalled, x, rfl, .inl rfl⟩
  | some c =>
    have next : Alarm.next x.now ((limitsOf (some c) claim).alarms x.now none) =
        some (max x.now c, .cancelled) := rfl
    rw [Run.bind_of_ok (Run.sleepUntil_eq next)]
    exact ⟨_, _, rfl, .inr ⟨rfl, nofun⟩⟩

/-- The look of a submission is the one call that it makes. -/
theorem glance_calls (b : Backend σ) (l : Limits) (claim : NodeClaim) (x : World σ) :
    ∃ events, x.Leads events (glance b l claim x).2 ∧
      History.calls events = [(x.now, .get claim.key)] := by
  have ran : glance b l claim x = ((glance b l claim x).1, (glance b l claim x).2) := rfl
  obtain ⟨a, t, led, -⟩ | ⟨e, -, led⟩ := ask_cases ran
  · exact ⟨_, led, rfl⟩
  · exact ⟨_, led, rfl⟩

/-- **A look that is answered** decides how the submission ends, if that is not cancelled. -/
theorem glance_answered {latest : Sighting} {v : Instant} {final : σ}
    (answered : Call.Answered (fun t => b.get t claim.key) x latest v final)
    (running : ({ cancelAt } : Signals).isCancelled x.now = false) :
    (glance b (limitsOf cancelAt claim) claim x).1 =
      if ({ cancelAt } : Signals).isCancelled v then
        .error (.failed (.cancelled (workspaceOf claim)))
      else (verdict claim.anyName latest).mapError Halt.failed := by
  cases late : ({ cancelAt } : Signals).isCancelled v with
  | true =>
    obtain ⟨y, ended, -⟩ := ask_cancelled claim (.get claim.key) (.get claim.key)
      (verdict claim.anyName) answered running late
    exact congrArg Prod.fst ended
  | false =>
    have asked := ask_answered claim (.get claim.key) (.get claim.key) (verdict claim.anyName)
      answered late
    refine (congrArg Prod.fst asked).trans ?_
    cases verdict claim.anyName latest <;> rfl

/-- What is not answered ends with the cancellation, if at all. -/
theorem complete_unanswered {p : Progress σ α} (claim : NodeClaim) (took : α → Answer)
    (silent : ∀ delay a, p.reply x.state ≠ some (delay, some a))
    (running : ({ cancelAt } : Signals).isCancelled x.now = false) :
    ∃ h y, Run.complete (limitsOf cancelAt claim).pause took p x = (.error h, y) ∧
      (h = .stalled ∨ h = .failed (.cancelled (workspaceOf claim)) ∧ cancelAt ≠ none) := by
  unfold Run.complete
  cases p with
  | answered a => exact absurd rfl (silent 0 a)
  | unanswered =>
    obtain ⟨h, y, ended, why⟩ := pause_never cancelAt claim x
    exact ⟨h, y, Run.bind_of_error ended, why⟩
  | waiting delay turn finish =>
    dsimp only
    rw [Run.bind_of_ok (Run.now_apply x)]
    cases late : ({ cancelAt } : Signals).isCancelled (x.now + delay) with
    | true =>
      obtain ⟨c, ended⟩ := pause_cancelled claim running late
      exact ⟨_, _, Run.bind_of_error ended, .inr ⟨rfl, ne_none_of_isCancelled late⟩⟩
    | false =>
      let v : World σ := { x.moved (x.now + delay) with state := (finish x.state).1 }
      have lost : (finish x.state).2 = none :=
        Option.eq_none_iff_forall_ne_some.2 fun a found => silent delay a (by rw [← found]; rfl)
      have acted : Run.act finish (x.moved (x.now + delay)) = (.ok none, v) := by
        rw [← lost]
        rfl
      obtain ⟨h, y, ended, why⟩ := pause_never cancelAt claim v
      rw [Run.bind_of_ok (pause_goesOn claim (Nat.le_add_right _ _) late), Run.bind_of_ok acted]
      exact ⟨h, y, Run.bind_of_error ended, why⟩

/-- A look that is not answered ends the submission with the cancellation, if at all. -/
theorem glance_unanswered
    (silent : ∀ delay latest, Call.reply (fun t => b.get t claim.key) x.now x.state ≠
      some (delay, some latest))
    (running : ({ cancelAt } : Signals).isCancelled x.now = false) :
    ∃ h, (glance b (limitsOf cancelAt claim) claim x).1 = .error h ∧
      (h = .stalled ∨ h = .failed (.cancelled (workspaceOf claim)) ∧ cancelAt ≠ none) := by
  obtain ⟨h, y, ended, why⟩ := complete_unanswered claim
    (x := x.begun (.get claim.key) fun t => b.get t claim.key) (.get claim.key) silent running
  exact ⟨h, congrArg Prod.fst (Run.bind_of_error ended), why⟩

end Looking

/-! ## Two submissions -/

section Two

variable {b : Backend σ} {b' : Backend τ} {settleDelay : Duration} {cancelAt : Option Instant}
variable {claim : NodeClaim} {x : World σ} {x' : World τ} {l : Limits}

theorem pause_abreast (due : Option Instant) (v : World σ) (v' : World τ)
    (sameNow : v.now = v'.now) : Abreast Eq v v' (l.pause due v) (l.pause due v') := by
  refine (Abreast.now sameNow).bind fun t _ v v' _ _ same sameNow => ?_
  subst same
  refine (Abreast.sleepUntil _ sameNow).bind fun wake _ v v' _ _ same sameNow => ?_
  subst same
  cases wake with
  | due => exact .pure rfl sameNow
  | cancelled => exact .halt _ sameNow
  | expired => cases l.deadline <;> exact .halt _ sameNow
  | abandoned => exact .halt _ sameNow

theorem linger_abreast (sameNow : x.now = x'.now) :
    Abreast Eq x x' (linger settleDelay l x) (linger settleDelay l x') := by
  unfold linger
  split
  · exact .pure rfl sameNow
  · refine (Abreast.now sameNow).bind fun t _ v v' _ _ same sameNow => ?_
    subst same
    exact pause_abreast _ v v' sameNow

/-- **The same call with the same reply**, if the answers are judged alike. -/
theorem ask_abreast {β : Type} {call : Call} {took : α → Answer} {took' : β → Answer}
    {begin : Instant → σ → σ × Progress σ α} {begin' : Instant → τ → τ × Progress τ β}
    {judge : α → Except ProvisionError Unit} {judge' : β → Except ProvisionError Unit}
    (replies : Replies (fun a a' => judge a = judge' a') (Call.reply begin x.now x.state)
      (Call.reply begin' x'.now x'.state))
    (running : ({ cancelAt } : Signals).isCancelled x.now = false) (sameNow : x.now = x'.now) :
    Abreast Eq x x'
      ((Run.perform (limitsOf cancelAt claim).pause call took begin >>= fun a =>
        settle (judge a)) x)
      ((Run.perform (limitsOf cancelAt claim).pause call took' begin' >>= fun a =>
        settle (judge' a)) x') := by
  have idle {ρ : Type} {now : Instant} (running : ({ cancelAt } : Signals).isCancelled now = false)
      (v : World ρ) (isNow : v.now = now) :
      (limitsOf cancelAt claim).pause (some now) v = (.ok (), v) := by
    rw [pause_goesOn claim (Nat.le_of_eq isNow) running, ← isNow]
    rfl
  have asked : Abreast (fun a a' => judge a = judge' a') x x'
      (Run.perform (limitsOf cancelAt claim).pause call took begin x)
      (Run.perform (limitsOf cancelAt claim).pause call took' begin' x') :=
    .perform pause_abreast (Limits.pause_quiet _) (Limits.pause_quiet _) (idle running)
      (idle (sameNow ▸ running)) replies sameNow
  refine asked.bind fun a a' v v' _ _ same sameNow => ?_
  rw [same]
  cases judge' a' with
  | ok _ => exact .pure rfl sameNow
  | error e => exact .halt _ sameNow

/-- **Two submissions whose creations are accepted** at one instant are abreast if the looks after
them have the same reply. -/
theorem submit_abreast {a a' : Except RequestError Unit} {t : Instant} {after : σ} {after' : τ}
    (sameNow : x.now = x'.now)
    (answered : Call.Answered (fun t => b.create t claim) x a t after)
    (accepts : accepted claim.anyName a = .ok ())
    (answered' : Call.Answered (fun t => b'.create t claim) x' a' t after')
    (accepts' : accepted claim.anyName a' = .ok ())
    (sameLook : Call.reply (fun t => b.get t claim.key) (t + settleDelay.nanos) after =
      Call.reply (fun t => b'.get t claim.key) (t + settleDelay.nanos) after') :
    Abreast Eq x x' (submit b settleDelay { cancelAt } claim x)
      (submit b' settleDelay { cancelAt } claim x') := by
  cases beforehand : ({ cancelAt } : Signals).isCancelled x.now with
  | true =>
    rw [submit_cancelled beforehand, submit_cancelled (sameNow ▸ beforehand)]
    exact .halt _ sameNow
  | false =>
    have beforehand' : ({ cancelAt } : Signals).isCancelled x'.now = false := sameNow ▸ beforehand
    rw [submit_eq beforehand, submit_eq beforehand']
    -- The creations are answered differently, but both answers are accepted.
    have creations : Replies (fun a a' => accepted claim.anyName a = accepted claim.anyName a')
        (Call.reply (fun t => b.create t claim) x.now x.state)
        (Call.reply (fun t => b'.create t claim) x'.now x'.state) := by
      rw [answered.reply_eq, answered'.reply_eq, sameNow]
      exact .answered _ (accepts.trans accepts'.symm)
    have first : Abreast Eq x x' (place b (limitsOf cancelAt claim) claim x)
        (place b' (limitsOf cancelAt claim) claim x') := ask_abreast creations beforehand sameNow
    refine first.bind fun _ _ v v' ran ran' _ _ => ?_
    obtain ⟨rfl, early⟩ := place_ok answered accepts beforehand ran
    obtain ⟨rfl, -⟩ := place_ok answered' accepts' beforehand' ran'
    have second : Abreast Eq (placed x claim a t after) (placed x' claim a' t after')
        (linger settleDelay (limitsOf cancelAt claim) (placed x claim a t after))
        (linger settleDelay (limitsOf cancelAt claim) (placed x' claim a' t after')) :=
      linger_abreast rfl
    refine second.bind fun _ _ v v' ran ran' _ _ => ?_
    obtain ⟨rfl, late⟩ := linger_ok early ran
    obtain ⟨rfl, -⟩ := linger_ok early ran'
    exact ask_abreast (.of_eq sameLook fun _ => rfl) late rfl

end Two

/-! ## Submitting again -/

section Again

variable {b : Backend σ} {settleDelay : Duration} {cancelAt : Option Instant} {claim : NodeClaim}
variable {x : World σ} {a : Except RequestError Unit} {t : Instant} {after : σ}

/-- **What follows a creation that was accepted**: how the submission ends, and its calls.  It was
sent at `sent`, and by `settled` the claim has settled. -/
structure FollowUp (b : Backend σ) (cancelAt : Option Instant) (claim : NodeClaim)
    (sent settled : Instant) (after : σ) (r : Except Halt Unit) (calls : List (Instant × Call)) :
    Prop where
  /-- No look is made if the submission has been cancelled by then. -/
  cut : ({ cancelAt } : Signals).isCancelled settled = true →
    r = .error (.failed (.cancelled (workspaceOf claim))) ∧ calls <+: [(sent, .create claim)]
  /-- Otherwise one look is made, exactly then. -/
  looks : ({ cancelAt } : Signals).isCancelled settled = false →
    calls = [(sent, .create claim), (settled, .get claim.key)]
  /-- It decides how the submission ends, if that has not been cancelled when it is answered. -/
  decides : ∀ delay latest,
    Call.reply (fun t => b.get t claim.key) settled after = some (delay, some latest) →
    ({ cancelAt } : Signals).isCancelled (settled + delay) = false →
    (r = .ok () ↔ Sighting.isFatal latest = false)
  /-- The submission ends with an error only if it is cancelled, or if the look is fatal. -/
  blames : ∀ e, r = .error (.failed e) →
    (e = .cancelled (workspaceOf claim) ∧ cancelAt ≠ none) ∨ ∃ delay latest,
      Call.reply (fun t => b.get t claim.key) settled after = some (delay, some latest) ∧
      Sighting.isFatal latest = true ∧ verdict claim.anyName latest = .error e

/-- A look that is answered in time decides. -/
theorem glance_ok_iff {delay : Nat} {latest : Sighting}
    (running : ({ cancelAt } : Signals).isCancelled x.now = false)
    (reply : Call.reply (fun t => b.get t claim.key) x.now x.state = some (delay, some latest))
    (inTime : ({ cancelAt } : Signals).isCancelled (x.now + delay) = false) :
    (glance b (limitsOf cancelAt claim) claim x).1 = .ok () ↔ Sighting.isFatal latest = false := by
  obtain ⟨final, answered⟩ := Call.answered_of_reply reply
  have harmless : verdict claim.anyName latest = .ok () ↔ Sighting.isFatal latest = false :=
    verdict_eq_ok_iff
  rw [glance_answered answered running, inTime, if_neg Bool.false_ne_true, ← harmless]
  cases verdict claim.anyName latest with
  | ok _ => exact ⟨fun _ => rfl, fun _ => rfl⟩
  | error e => exact ⟨(by cases ·), (by cases ·)⟩

/-- Nothing but the look and the cancellation is to blame for an error. -/
theorem glance_error {e : ProvisionError}
    (running : ({ cancelAt } : Signals).isCancelled x.now = false)
    (ended : (glance b (limitsOf cancelAt claim) claim x).1 = .error (.failed e)) :
    (e = .cancelled (workspaceOf claim) ∧ cancelAt ≠ none) ∨ ∃ delay latest,
      Call.reply (fun t => b.get t claim.key) x.now x.state = some (delay, some latest) ∧
      Sighting.isFatal latest = true ∧ verdict claim.anyName latest = .error e := by
  by_cases answers : ∃ delay latest,
      Call.reply (fun t => b.get t claim.key) x.now x.state = some (delay, some latest)
  · obtain ⟨delay, latest, reply⟩ := answers
    obtain ⟨final, answered⟩ := Call.answered_of_reply reply
    rw [glance_answered answered running] at ended
    cases late : ({ cancelAt } : Signals).isCancelled (x.now + delay) with
    | true =>
      rw [late, if_pos rfl] at ended
      cases ended
      exact .inl ⟨rfl, ne_none_of_isCancelled late⟩
    | false =>
      rw [late, if_neg Bool.false_ne_true] at ended
      cases judged : verdict claim.anyName latest with
      | ok _ =>
        rw [judged] at ended
        cases ended
      | error e' =>
        rw [judged] at ended
        cases ended
        refine .inr ⟨delay, latest, reply, ?_, judged⟩
        cases fatal : Sighting.isFatal latest with
        | true => rfl
        | false =>
          rw [verdict_eq_ok_iff.2 fatal] at judged
          cases judged
  · obtain ⟨h, same, why⟩ := glance_unanswered
      (fun delay latest reply => answers ⟨delay, latest, reply⟩) running
    rw [ended] at same
    cases same
    rcases why with stalled | ⟨same, isSet⟩
    · cases stalled
    · cases same
      exact .inl ⟨rfl, isSet⟩

/-- **What follows a creation that was accepted.** -/
theorem submit_followUp (answered : Call.Answered (fun t => b.create t claim) x a t after)
    (accepts : accepted claim.anyName a = .ok ()) :
    ∃ r y events, submit b settleDelay { cancelAt } claim x = (r, y) ∧ x.Leads events y ∧
      FollowUp b cancelAt claim x.now (t + settleDelay.nanos) after r (History.calls events) := by
  cases late : ({ cancelAt } : Signals).isCancelled (t + settleDelay.nanos) with
  | true =>
    obtain ⟨y, events, ended, led, calls⟩ := submit_accepted_cancelled answered accepts late
    refine ⟨_, y, events, ended, led, fun _ => ⟨rfl, calls⟩, fun running => ?_,
      fun delay latest _ running => ?_, fun e same => ?_⟩
    · cases late.symm.trans running
    · -- What is cancelled when the claim has settled is cancelled when the look is answered.
      have early := isCancelled_mono (Nat.le_add_right _ delay) running
      cases late.symm.trans early
    · cases same
      exact .inl ⟨rfl, ne_none_of_isCancelled late⟩
  | false =>
    let z : World σ := (placed x claim a t after).moved (t + settleDelay.nanos)
    have ended : submit b settleDelay { cancelAt } claim x =
        glance b (limitsOf cancelAt claim) claim z := submit_accepted answered accepts late
    have before : x.Leads [.began x.now (.create claim), .took t (.create claim a)] z :=
      (leads_placed x claim a t after).trans (.of_trace_eq rfl)
    obtain ⟨events, led, calls⟩ := glance_calls b (limitsOf cancelAt claim) claim z
    refine ⟨_, _, _, ended, before.trans led, fun cancelled => ?_, fun _ => ?_,
      fun delay latest reply inTime => glance_ok_iff (x := z) late reply inTime,
      fun e same => glance_error (x := z) late same⟩
    · cases late.symm.trans cancelled
    · rw [History.calls_append, calls]
      rfl

/-- **Submitting a claim again.**  Let the creation of a claim be answered at the instant `t`.

If the claim is there already, the submission is abreast of any other whose creation succeeds at
`t`, so long as the backends have the same reply to the look: it makes the same calls at the same
instants and ends with the same result at the same instant, whenever it is cancelled.

Any other refusal is the error of the submission, unless it has been cancelled by then, and no look
is made.

After a creation that succeeds, or finds the claim there already, one look is made, exactly when the
claim has settled, unless the submission has been cancelled by then; and only the cancellation or a
look that is fatal makes it end with an error. -/
theorem resubmission (settleDelay : Duration) (cancelAt : Option Instant) (claim : NodeClaim) :
    (∀ {σ τ : Type} (b : Backend σ) (b' : Backend τ) (x : World σ) (x' : World τ) (t : Instant)
      (after : σ) (after' : τ) (e : RequestError), x.now = x'.now →
      Call.Answered (fun t => b.create t claim) x (.ok ()) t after →
      e.isAlreadyExists = true →
      Call.Answered (fun t => b'.create t claim) x' (.error e) t after' →
      Call.reply (fun t => b.get t claim.key) (t + settleDelay.nanos) after =
        Call.reply (fun t => b'.get t claim.key) (t + settleDelay.nanos) after' →
      Abreast Eq x x' (submit b settleDelay { cancelAt } claim x)
        (submit b' settleDelay { cancelAt } claim x')) ∧
    (∀ {σ : Type} (b : Backend σ) (x : World σ) (t : Instant) (after : σ) (e : RequestError),
      e.isAlreadyExists = false →
      Call.Answered (fun t => b.create t claim) x (.error e) t after →
      ∃ y events, submit b settleDelay { cancelAt } claim x =
        (.error (.failed (if ({ cancelAt } : Signals).isCancelled t then
          .cancelled (workspaceOf claim) else .submission claim.anyName e)), y) ∧
        x.Leads events y ∧ History.calls events <+: [(x.now, .create claim)]) ∧
    ∀ {σ : Type} (b : Backend σ) (x : World σ) (t : Instant) (after : σ)
      (a : Except RequestError Unit),
      a = .ok () ∨ (∃ e, a = .error e ∧ e.isAlreadyExists = true) →
      Call.Answered (fun t => b.create t claim) x a t after →
      ∃ r y events, submit b settleDelay { cancelAt } claim x = (r, y) ∧ x.Leads events y ∧
        FollowUp b cancelAt claim x.now (t + settleDelay.nanos) after r (History.calls events) := by
  refine ⟨?_, ?_, ?_⟩
  · intro σ τ b b' x x' t after after' e sameNow created isThere found sameLook
    exact submit_abreast sameNow created rfl found
      (accepted_eq_ok_iff.2 (.inr ⟨e, rfl, isThere⟩)) sameLook
  · intro σ b x t after e final refused
    exact submit_refused final refused
  · intro σ b x t after a isThere answered
    exact submit_followUp answered (accepted_eq_ok_iff.2 isThere)

end Again

/-- A claim that asks for nothing in particular. -/
def bareClaim : NodeClaim where
  metadata := { name := some "testmachine", ns := some "kaito" }
  spec := {}
  status := none

/-- A store that may not be added to. -/
def readOnly : Store := { createFailure := some (403, "quota exceeded") }

/-- Where the claim is there already, it is submitted as where it is not; where it may not be
created, it is not looked at. -/
theorem resubmission_bareClaim :
    Abreast Eq (.start 0 {}) (.start 0 (({} : Store).put bareClaim))
      (submit Store.backend (.ofSeconds 2) {} bareClaim (.start 0 {}))
      (submit Store.backend (.ofSeconds 2) {} bareClaim (.start 0 (({} : Store).put bareClaim))) ∧
    (submit Store.backend (.ofSeconds 2) {} bareClaim (.start 0 {})).1 =
      (submit Store.backend (.ofSeconds 2) {} bareClaim
        (.start 0 (({} : Store).put bareClaim))).1 ∧
    (∃ y events, submit Store.backend (.ofSeconds 2) {} bareClaim (.start 0 readOnly) =
        (.error (.failed (.submission "testmachine" (refusal 403 "quota exceeded"))), y) ∧
      (World.start 0 readOnly).Leads events y ∧
      History.calls events <+: [(0, .create bareClaim)]) ∧
    ∃ r y events, submit Store.backend (.ofSeconds 2) {} bareClaim (.start 0 {}) = (r, y) ∧
      (World.start 0 ({} : Store)).Leads events y ∧
      FollowUp Store.backend none bareClaim 0 2000000000 (({} : Store).create bareClaim).1 r
        (History.calls events) := by
  obtain ⟨again, refused, followed⟩ := resubmission (.ofSeconds 2) none bareClaim
  have created : Call.Answered (fun t => Store.backend.create t bareClaim)
      (.start 0 {}) (.ok ()) 0 (({} : Store).create bareClaim).1 := .atOnce rfl
  have found : Call.Answered (fun t => Store.backend.create t bareClaim)
      (.start 0 (({} : Store).put bareClaim)) (.error (Store.alreadyExists "testmachine")) 0
      (({} : Store).put bareClaim) := .atOnce rfl
  have final : Call.Answered (fun t => Store.backend.create t bareClaim)
      (.start 0 readOnly) (.error (refusal 403 "quota exceeded")) 0 readOnly := .atOnce rfl
  have abreast := again Store.backend Store.backend (.start 0 {})
    (.start 0 (({} : Store).put bareClaim)) 0 _ _ _ rfl created (by decide) found rfl
  exact ⟨abreast, abreast.result.eq, refused _ _ _ _ _ (by decide) final,
    followed _ _ _ _ _ (.inl rfl) created⟩

/-- **Not every claim that is created is looked at**: its submission may be cancelled while it
settles. -/
theorem not_always_looked_at : ¬ ∀ (settleDelay : Duration) (cancelAt : Option Instant)
    (claim : NodeClaim) (x : World Store) (t : Instant) (after : Store),
    Call.Answered (fun t => Store.backend.create t claim) x (.ok ()) t after →
    ∃ u, (u, .get claim.key) ∈
      History.calls (submit Store.backend settleDelay { cancelAt } claim x).2.history := by
  intro looks
  obtain ⟨u, looked⟩ := looks (.ofSeconds 2) (some 1000000000) bareClaim (.start 0 {}) 0
    (({} : Store).create bareClaim).1 (.atOnce rfl)
  have calls : History.calls (submit Store.backend (.ofSeconds 2) { cancelAt := some 1000000000 }
      bareClaim (.start 0 {})).2.history = [(0, .create bareClaim)] := by rfl
  rw [calls] at looked
  simp at looked

end Submission

end NodeProvisioning
