import NodeProvisioning.Proofs.Provisioning.Convergence
import NodeProvisioning.Proofs.Provisioning.Course
import NodeProvisioning.Proofs.Run.Cancellation
import NodeProvisioning.Proofs.Selection

/-!
# Cancelling provisioning

Provisioning, waiting for listed claims and waiting for given keys obey a cancellation in the same
way.  Every wait in them looks at it before anything else that may end the wait, be it an answer,
the deadline or the end of a pause; and each of them looks at it once more before its first call.

There are two things to see to besides the waits.  A submission is cancelled in the name of the
workspace that the claim at hand carries as a label, and every claim of a workload carries the
workload's own, whatever labels were selected.  And the rounds of a wait are bounded: where time
passes between rounds, the bound is never reached, for the deadline ends the wait before.

Provisioning reads its deadline off the clock before it looks at the cancellation.  So a timeout
that the clock cannot hold ends it in another way, though it was cancelled beforehand.

## Main definitions

* `Signals.cancelledAt` — a cancellation and nothing else from outside

## Main statements

* `Submission.submitAll_cancels` — submitting claims
* `Rounds.rounds_cut`, `Rounds.awaitUntil_cancels` — waiting for given keys
* `Provisioning.obeys_cancellation` — provisioning and both waits
-/

namespace NodeProvisioning

open Run (Cancels Cut Forward)

variable {σ : Type} {b : Backend σ} {workspace : String} {c : Instant} {idle : Prop}

/-- Nothing from outside but a cancellation. -/
def Signals.cancelledAt (c : Instant) : Signals := { cancelAt := some c }

/-- Before the cancellation comes, it has not come. -/
theorem Signals.isCancelled_cancelledAt_of_lt {t : Instant} (later : t < c) :
    (Signals.cancelledAt c).isCancelled t = false :=
  decide_eq_false (Nat.not_le.2 later)

/-- A cancellation that has come is noticed. -/
theorem Signals.isCancelled_cancelledAt_of_le {t : Instant} (come : c ≤ t) :
    (Signals.cancelledAt c).isCancelled t = true :=
  decide_eq_true come

/-! ## Submissions -/

namespace Submission

section Waits

variable {deadline : Option (Instant × ProvisionError)}

/-- What the end of a wait means for the run. -/
def outcome (workspace : String) (deadline : Option (Instant × ProvisionError)) :
    Wake → Except Halt Unit
  | .due => .ok ()
  | .cancelled => .error (.failed (.cancelled workspace))
  | .expired => match deadline with
    | some (_, e) => .error (.failed e)
    | none => .error .stalled
  | .abandoned => .error .stalled

/-- The cancellation comes first of the alarms of a wait; the others do not leave it stalled. -/
theorem alarms_eq (workspace : String) (deadline : Option (Instant × ProvisionError)) (t : Instant)
    (due : Option Instant) :
    ∃ rest, (∀ signals : Signals, signals.abandonAt = none →
        (⟨signals, workspace, deadline⟩ : Limits).alarms t due =
          ⟨signals.cancelAt, .cancelled⟩ :: rest) ∧
      ∀ a ∈ rest, a.due ≠ none → outcome workspace deadline a.meaning ≠ .error .stalled := by
  have expires : deadline.map (·.1) ≠ none →
      outcome workspace deadline .expired ≠ .error .stalled := by
    intro isSet
    cases deadline with
    | none => exact absurd rfl isSet
    | some limit => nofun
  by_cases past : deadline.any (·.1 ≤ t) = true
  · refine ⟨[⟨deadline.map (·.1), .expired⟩, ⟨due, .due⟩, ⟨none, .abandoned⟩],
      fun signals never => ?_, ?_⟩
    · rw [← never]
      exact if_pos past
    · simp only [List.forall_mem_cons]
      exact ⟨expires, fun _ => nofun, fun isSet => absurd rfl isSet, List.forall_mem_nil _⟩
  · refine ⟨[⟨due, .due⟩, ⟨deadline.map (·.1), .expired⟩, ⟨none, .abandoned⟩],
      fun signals never => ?_, ?_⟩
    · rw [← never]
      exact if_neg past
    · simp only [List.forall_mem_cons]
      exact ⟨fun _ => nofun, expires, fun isSet => absurd rfl isSet, List.forall_mem_nil _⟩

theorem pause_cancels (due : Option Instant) :
    Cancels workspace c idle ((⟨{}, workspace, deadline⟩ : Limits).pause due : Run σ Unit)
      ((⟨.cancelledAt c, workspace, deadline⟩ : Limits).pause due) := by
  refine Cancels.now.bind fun t => ?_
  obtain ⟨rest, alarms, settled⟩ := alarms_eq workspace deadline t due
  rw [alarms {} rfl, alarms (.cancelledAt c) rfl]
  refine Cancels.sleepUntil (outcome workspace deadline) (fun wake w => ?_) rfl settled
  cases wake with
  | due => rfl
  | cancelled => rfl
  | expired => cases deadline <;> rfl
  | abandoned => rfl

/-- A wait for what never comes does not go on. -/
theorem pause_stuck {l : Limits} (w w₁ : World σ) : l.pause none w ≠ (.ok (), w₁) := by
  intro goesOn
  obtain ⟨t, isSet, -⟩ := Limits.due_of_pause goesOn
  cases isSet

theorem check_cancels :
    Cancels workspace c idle ((⟨{}, workspace, deadline⟩ : Limits).check : Run σ Unit)
      (⟨.cancelledAt c, workspace, deadline⟩ : Limits).check := by
  refine .of_still World.Elapses.refl (fun _ => rfl) nofun fun w later => ?_
  unfold Limits.check
  rw [Run.bind_of_ok (Run.now_apply w), Signals.isCancelled_cancelledAt_of_lt later]
  rfl

theorem settle_cancels (verdict : Except ProvisionError Unit) :
    Cancels workspace c idle (settle verdict : Run σ Unit) (settle verdict) := by
  cases verdict with
  | ok _ => exact .pure ()
  | error e => exact .fail e

theorem linger_cancels (settleDelay : Duration) :
    Cancels workspace c idle (linger settleDelay ⟨{}, workspace, deadline⟩ : Run σ Unit)
      (linger settleDelay ⟨.cancelledAt c, workspace, deadline⟩) := by
  unfold linger
  split
  · exact .pure ()
  · exact Cancels.now.bind fun t => pause_cancels _

/-- Submitting a claim of the workspace. -/
theorem submitUntil_cancels (settleDelay : Duration) {claim : NodeClaim}
    (own : workspaceOf claim = workspace) :
    Cancels workspace c idle (submitUntil b settleDelay {} deadline claim)
      (submitUntil b settleDelay (.cancelledAt c) deadline claim) := by
  subst own
  refine check_cancels.bind fun _ => ?_
  have placed : Cancels (workspaceOf claim) c idle (place b ⟨{}, workspaceOf claim, deadline⟩ claim)
      (place b ⟨.cancelledAt c, workspaceOf claim, deadline⟩ claim) :=
    (Cancels.perform pause_cancels pause_stuck _ _ _).bind fun _ => settle_cancels _
  have seen : Cancels (workspaceOf claim) c idle (glance b ⟨{}, workspaceOf claim, deadline⟩ claim)
      (glance b ⟨.cancelledAt c, workspaceOf claim, deadline⟩ claim) :=
    (Cancels.perform pause_cancels pause_stuck _ _ _).bind fun _ => settle_cancels _
  exact placed.bind fun _ => (linger_cancels settleDelay).bind fun _ => seen

end Waits

/-- **Submitting claims** of the workspace. -/
theorem submitAll_cancels (settleDelay : Duration) (deadline : Instant) (claims : List NodeClaim)
    (own : ∀ claim ∈ claims, workspaceOf claim = workspace) :
    Cancels workspace c idle (submitAll b settleDelay {} workspace deadline claims)
      (submitAll b settleDelay (.cancelledAt c) workspace deadline claims) := by
  induction claims with
  | nil => exact .pure ()
  | cons claim rest ih =>
    obtain ⟨first, others⟩ := List.forall_mem_cons.1 own
    exact (submitUntil_cancels settleDelay first).bind fun _ => ih others

/-- A submission that is cancelled beforehand does nothing. -/
theorem check_eq_cancelled {deadline : Option (Instant × ProvisionError)} {w : World σ}
    (come : c ≤ w.now) :
    (⟨.cancelledAt c, workspace, deadline⟩ : Limits).check w =
      (.error (.failed (.cancelled workspace)), w) := by
  unfold Limits.check
  rw [Run.bind_of_ok (Run.now_apply w), Signals.isCancelled_cancelledAt_of_le come]
  rfl

end Submission

/-! ## Waits -/

namespace Rounds

section Limits

variable {deadline : Instant}

/-- What the end of a wait means for the run. -/
def outcome (l : Limits) (outstanding : List ClaimKey) : Wake → Except Halt Unit
  | .due => .ok ()
  | .cancelled => .error (.failed (.cancelled l.workspace))
  | .expired => .error (.failed (l.timeout outstanding))
  | .abandoned => .error .stalled

theorem pause_cancels (outstanding : List ClaimKey) (due : Option Instant) :
    Cancels workspace c idle
      ((⟨{}, workspace, deadline⟩ : Limits).pause outstanding due : Run σ Unit)
      ((⟨.cancelledAt c, workspace, deadline⟩ : Limits).pause outstanding due) := by
  refine Cancels.sleepUntil (outcome ⟨{}, workspace, deadline⟩ outstanding)
    (fun wake w => ?_) rfl ?_
  · cases wake <;> rfl
  · simp only [List.forall_mem_cons]
    exact ⟨fun _ => nofun, fun _ => nofun, fun isSet => absurd rfl isSet, List.forall_mem_nil _⟩

/-- A wait for what never comes does not go on. -/
theorem pause_stuck {l : Limits} {outstanding : List ClaimKey} (w w₁ : World σ) :
    l.pause outstanding none w ≠ (.ok (), w₁) := by
  intro goesOn
  obtain ⟨t, isSet, -⟩ := Limits.due_of_pause goesOn
  cases isSet

theorem check_cancels (outstanding : List ClaimKey) :
    Cancels workspace c idle ((⟨{}, workspace, deadline⟩ : Limits).check outstanding : Run σ Unit)
      ((⟨.cancelledAt c, workspace, deadline⟩ : Limits).check outstanding) := by
  have checked : ∀ w : World σ, (⟨{}, workspace, deadline⟩ : Limits).check outstanding w =
      (if deadline ≤ w.now then .error (.failed (.timeout workspace (outstanding.map (·.name))))
        else .ok (), w) := by
    intro w
    show (if deadline ≤ w.now then Run.fail _ else Pure.pure () : Run σ Unit) w = _
    split <;> rfl
  refine .of_still (fun w => ?_) (fun w => ?_) (fun w stalled => ?_) fun w later => ?_
  · rw [checked]
    exact .refl w
  · rw [checked]
  · rw [checked] at stalled
    dsimp only at stalled
    split at stalled <;> cases stalled
  · unfold Limits.check
    rw [Run.bind_of_ok (Run.now_apply w), Run.bind_of_ok (Run.now_apply w),
      Signals.isCancelled_cancelledAt_of_lt later]
    rfl

end Limits

theorem take_cancels (outstanding : List ClaimKey) (key : ClaimKey)
    (answer : Except RequestError NodeClaim) :
    Cancels workspace c idle (take outstanding key answer : Run σ (List ClaimKey))
      (take outstanding key answer) := by
  refine (Cancels.note fun _ => rfl).bind fun _ => ?_
  split
  · exact .pure _
  · exact .fail _

theorem begin_cancels (key : ClaimKey) :
    Cancels workspace c idle (begin b key) (begin b key) := by
  refine (Cancels.note fun _ => rfl).bind fun _ => Cancels.now.bind fun t =>
    (Cancels.act _).bind fun progress => ?_
  cases progress with
  | answered a => exact .pure _
  | unanswered => exact .pure _
  | waiting delay turn finish => exact .pure _

theorem start_cancels (keys outstanding : List ClaimKey) :
    Cancels workspace c idle (start b keys outstanding) (start b keys outstanding) := by
  induction keys generalizing outstanding with
  | nil => exact .pure _
  | cons key rest ih =>
    refine (begin_cancels key).bind fun began => ?_
    rcases began with a | look
    · exact (take_cancels outstanding key a).bind fun left => ih left
    · exact (ih outstanding).bind fun found => .pure _

variable {deadline : Instant} {pollInterval : Duration}

theorem collect_cancels (looks : List (Look σ)) (stuck : Bool) (outstanding : List ClaimKey) :
    Cancels workspace c idle (collect ⟨{}, workspace, deadline⟩ stuck outstanding looks)
      (collect ⟨.cancelledAt c, workspace, deadline⟩ stuck outstanding looks) := by
  induction looks generalizing stuck outstanding with
  | nil =>
    cases stuck with
    | false => exact .pure _
    | true => exact Cancels.never (pause_cancels outstanding none) pause_stuck
  | cons look rest ih =>
    rw [collect, collect]
    split
    · exact ih true outstanding
    · refine (pause_cancels _ _).bind fun _ => (Cancels.act _).bind fun found => ?_
      cases found with
      | some a => exact (take_cancels _ _ a).bind fun left => ih stuck left
      | none => exact ih true outstanding

/-- **A round.** -/
theorem round_cancels (outstanding : List ClaimKey) :
    Cancels workspace c idle (round b ⟨{}, workspace, deadline⟩ outstanding)
      (round b ⟨.cancelledAt c, workspace, deadline⟩ outstanding) :=
  (check_cancels outstanding).bind fun _ => (start_cancels _ _).bind fun _ =>
    collect_cancels _ _ _

/-- A round goes forward in time, whether or not it is cancelled. -/
theorem round_forward (outstanding : List ClaimKey) :
    Forward (round b ⟨{}, workspace, deadline⟩ outstanding) :=
  (round_cancels outstanding : Cancels workspace deadline True _ _).forward

/-- What comes after a round goes forward in time if the rounds after it do. -/
theorem rest_forward {fuel : Nat} (left : List ClaimKey)
    (others : Forward (rounds b pollInterval ⟨{}, workspace, deadline⟩ fuel left)) :
    Forward (if left.isEmpty then Pure.pure () else do
      let t ← Run.now
      (⟨{}, workspace, deadline⟩ : Limits).pause left (some (t + pollInterval.nanos))
      rounds b pollInterval ⟨{}, workspace, deadline⟩ fuel left) := by
  split
  · exact World.Elapses.refl
  · refine Forward.bind World.Elapses.refl fun t => ?_
    refine Forward.bind ?_ fun _ => others
    exact (pause_cancels left _ : Cancels workspace deadline True _ _).forward

/-- Rounds go forward in time. -/
theorem rounds_forward (fuel : Nat) (outstanding : List ClaimKey) :
    Forward (rounds b pollInterval ⟨{}, workspace, deadline⟩ fuel outstanding) := by
  induction fuel generalizing outstanding with
  | zero => exact World.Elapses.refl
  | succ fuel ih =>
    exact (round_forward outstanding).bind fun left => rest_forward left (ih left)

/-- **Rounds are cut short.**  Where time passes between them, there are as many as can begin before
the deadline, so they end with it at the latest. -/
theorem rounds_cut (fuel : Nat) (outstanding : List ClaimKey) (w : World σ) (later : w.now < c)
    (enough : pollInterval.nanos = 0 ∨
      ∃ more, fuel = more + 1 ∧ deadline ≤ w.now + more * pollInterval.nanos) :
    Cut workspace c (pollInterval.nanos = 0) w
      (rounds b pollInterval ⟨{}, workspace, deadline⟩ fuel outstanding w)
      (rounds b pollInterval ⟨.cancelledAt c, workspace, deadline⟩ fuel outstanding w) := by
  induction fuel generalizing outstanding w with
  | zero =>
    rcases enough with none | ⟨more, same, -⟩
    · exact .finished later fun _ => none
    · cases same
  | succ fuel ih =>
    refine (round_cancels outstanding).cut_bind later
      (fun left => rest_forward left (rounds_forward fuel left)) fun left w₁ passed later₁ => ?_
    by_cases empty : left.isEmpty = true
    · rw [if_pos empty, if_pos empty]
      exact (Cancels.pure ()).cut w₁ later₁
    · rw [if_neg empty, if_neg empty]
      rw [Run.bind_of_ok (Run.now_apply w₁), Run.bind_of_ok (Run.now_apply w₁)]
      refine (pause_cancels _ _).cut_bind later₁ (fun _ => rounds_forward fuel left)
        fun _ w₂ paused later₂ => ih left w₂ later₂ ?_
      -- The next round begins an interval later, and before the deadline.
      refine enough.imp id fun ⟨more, same, bound⟩ => ?_
      have began : w.now ≤ w₁.now := (round_forward outstanding).now_le passed
      obtain ⟨t, isSet, due⟩ := Limits.due_of_pause paused
      cases isSet
      have early : w₂.now < deadline :=
        ((Limits.pause_contract (fun _ _ _ _ _ => trivial) left _).ok (P := fun _ => True) trivial
          paused).2.lt_deadline
      cases more with
      | zero =>
        rw [Nat.zero_mul, Nat.add_zero] at bound
        have reached : deadline ≤ w₂.now :=
          Nat.le_trans bound (Nat.le_trans began (Nat.le_trans (Nat.le_add_right _ _) due))
        exact absurd early (Nat.not_lt.2 reached)
      | succ more =>
        refine ⟨more, Nat.succ.inj same, ?_⟩
        calc deadline ≤ w.now + (more + 1) * pollInterval.nanos := bound
          _ = w.now + pollInterval.nanos + more * pollInterval.nanos := by
            rw [Nat.succ_mul, Nat.add_comm (more * _), Nat.add_assoc]
          _ ≤ w₂.now + more * pollInterval.nanos :=
            Nat.add_le_add_right (Nat.le_trans (Nat.add_le_add_right began _) due) _

/-- The rounds that a wait is allowed are as many as can begin before its deadline. -/
theorem roundLimit_enough (now : Instant) :
    pollInterval.nanos = 0 ∨ ∃ more, roundLimit pollInterval now deadline = more + 1 ∧
      deadline ≤ now + more * pollInterval.nanos := by
  rcases Nat.eq_zero_or_pos pollInterval.nanos with none | interval
  · exact .inl none
  · refine .inr ⟨(deadline - now) / pollInterval.nanos + 999999, ?_, ?_⟩
    · rw [roundLimit, Nat.max_eq_right interval]
      rfl
    · have whole : deadline - now ≤
          ((deadline - now) / pollInterval.nanos + 1) * pollInterval.nanos := by
        rw [Nat.mul_comm]
        exact Nat.le_of_lt (Nat.lt_mul_div_succ _ interval)
      have more : (deadline - now) / pollInterval.nanos + 1 ≤
          (deadline - now) / pollInterval.nanos + 999999 := Nat.add_le_add_left (by decide) _
      calc deadline ≤ now + (deadline - now) := Nat.sub_le_iff_le_add'.1 (Nat.le_refl _)
        _ ≤ _ := Nat.add_le_add_left (Nat.le_trans whole (Nat.mul_le_mul_right _ more)) _

/-- **A wait for given keys.** -/
theorem awaitUntil_cancels (keys : List ClaimKey) :
    Cancels workspace c (pollInterval.nanos = 0)
      (awaitUntil b pollInterval {} workspace deadline keys)
      (awaitUntil b pollInterval (.cancelledAt c) workspace deadline keys) := by
  unfold awaitUntil
  dsimp only
  split
  · exact .pure ()
  · refine ⟨Forward.bind World.Elapses.refl fun t => rounds_forward _ _, fun w later => ?_⟩
    rw [Run.bind_of_ok (Run.now_apply w), Run.bind_of_ok (Run.now_apply w)]
    exact rounds_cut _ _ w later (roundLimit_enough w.now)

/-- A wait that is cancelled beforehand does nothing. -/
theorem awaitUntil_eq_cancelled {keys : List ClaimKey} {w : World σ} (some : keys ≠ [])
    (come : c ≤ w.now) :
    awaitUntil b pollInterval (.cancelledAt c) workspace deadline keys w =
      (.error (.failed (.cancelled workspace)), w) := by
  have checked : (⟨.cancelledAt c, workspace, deadline⟩ : Limits).check (SortedMap.inOrder keys) w =
      (.error (.failed (.cancelled workspace)), w) := by
    unfold Limits.check
    rw [Run.bind_of_ok (Run.now_apply w), Signals.isCancelled_cancelledAt_of_le come]
    rfl
  have begins : roundLimit pollInterval w.now deadline =
      (deadline - w.now) / max 1 pollInterval.nanos + 999999 + 1 := rfl
  rw [awaitUntil_eq_rounds some, begins, rounds, round]
  exact Run.bind_of_error (Run.bind_of_error checked)

/-- The deadline is read off the clock, and no time passes. -/
theorem deadlineIn_cancels (timeout : Duration) :
    Cancels workspace c idle (deadlineIn timeout : Run σ Instant) (deadlineIn timeout) := by
  refine Cancels.now.bind fun t => ?_
  split
  · exact .pure _
  · exact .halt nofun

end Rounds

/-! ## Provisioning -/

namespace Provisioning

variable {config : RunConfig} {w : Workload}

/-- A claim of a workload names it as its workspace. -/
theorem workspaceOf_claim (options : ManifestOptions) (w : Workload) :
    ∀ claim ∈ w.claims options, Submission.workspaceOf claim = w.name := by
  intro claim mem
  obtain ⟨i, -, rfl⟩ := List.mem_map.1 mem
  show ((Manifest.labels w).find? WellKnown.workspaceLabel).getD _ = w.name
  rw [Manifest.find?_labels_workspace]
  rfl

theorem submission_cancels :
    Cancels w.name c idle (submission b config {} w) (submission b config (.cancelledAt c) w) :=
  (Rounds.deadlineIn_cancels _).bind fun _ =>
    (Submission.submitAll_cancels _ _ _ (workspaceOf_claim _ w)).bind fun _ => .pure _

/-- **Provisioning.** -/
theorem provision_cancels :
    Cancels w.name c (config.pollInterval.nanos = 0) (provision b config {} w)
      (provision b config (.cancelledAt c) w) :=
  submission_cancels.bind fun _ => Rounds.awaitUntil_cancels _

theorem listClaims_cancels :
    Cancels w.name c idle (listClaims b {} w) (listClaims b (.cancelledAt c) w) := by
  refine (Cancels.perform Submission.pause_cancels Submission.pause_stuck _ _ _).bind
    fun listed => ?_
  cases listed with
  | ok claims => exact .pure _
  | error e => exact .fail _

/-- **Waiting for listed claims.** -/
theorem waitForListed_cancels :
    Cancels w.name c (config.pollInterval.nanos = 0) (waitForListed b config {} w)
      (waitForListed b config (.cancelledAt c) w) := by
  refine Submission.check_cancels.bind fun _ => listClaims_cancels.bind fun claims => ?_
  cases triage w claims with
  | error e => exact .fail e
  | ok pending => exact (Rounds.deadlineIn_cancels _).bind fun _ => Rounds.awaitUntil_cancels _

/-- Provisioning that is cancelled beforehand does nothing, if the clock can hold its deadline. -/
theorem provision_eq_cancelled {x : World σ} (some : 0 < w.nodeCount)
    (clock : (Instant.after? x.now config.timeout).isSome) (come : c ≤ x.now) :
    provision b config (.cancelledAt c) w x = (.error (.failed (.cancelled w.name)), x) := by
  obtain ⟨deadline, later⟩ := Option.isSome_iff_exists.1 clock
  obtain ⟨claim, rest, split⟩ : ∃ claim rest, w.claims config.manifest = claim :: rest := by
    refine List.exists_cons_of_ne_nil fun nothing => Nat.lt_irrefl 0 ?_
    have length := Workload.length_claims w config.manifest
    rw [nothing] at length
    rw [← length] at some
    exact some
  have own : Submission.workspaceOf claim = w.name :=
    workspaceOf_claim config.manifest w claim (split ▸ List.mem_cons_self)
  have submitted : submission b config (.cancelledAt c) w x =
      (.error (.failed (.cancelled w.name)), x) := by
    rw [submission, Run.bind_of_ok (deadlineIn_of_after? later), split, ← own]
    refine Run.bind_of_error (Run.bind_of_error (Run.bind_of_error ?_))
    exact Submission.check_eq_cancelled come
  exact Run.bind_of_error submitted

/-- **A cancellation is obeyed** by provisioning, by a wait for listed claims, and by a wait for
given keys.  If it has come beforehand, they fail as cancelled and have changed nothing, whether or
not the deadline has passed.  If it comes while they are suspended, they fail as cancelled at that
instant, even if they were to go on or to expire then; and up to then they have done what they do
without it.  Otherwise they were over before, and it makes no difference.  In no case does anything
happen once it has come.

Only provisioning with a timeout that the clock cannot hold is not cancelled: it overflows at
once. -/
theorem obeys_cancellation (b : Backend σ) (config : RunConfig) (w : Workload) (x : World σ)
    (c : Instant) :
    let idle := config.pollInterval.nanos = 0
    ((Instant.after? x.now config.timeout).isSome → 0 < w.nodeCount →
      Run.Obeys w.name c idle x (provision b config {} w x)
        (provision b config { cancelAt := some c } w x)) ∧
    (Instant.after? x.now config.timeout = none →
      provision b config { cancelAt := some c } w x = (.error .clockOverflow, x)) ∧
    Run.Obeys w.name c idle x (waitForListed b config {} w x)
      (waitForListed b config { cancelAt := some c } w x) ∧
    ∀ (deadline : Instant) (keys : List ClaimKey), keys ≠ [] →
      Run.Obeys w.name c idle x
        (Rounds.awaitUntil b config.pollInterval {} w.name deadline keys x)
        (Rounds.awaitUntil b config.pollInterval { cancelAt := some c } w.name deadline keys
          x) := by
  intro idle
  refine ⟨fun clock some => ?_, fun overflow => ?_, ?_, fun deadline keys some => ?_⟩
  · exact provision_cancels.obeys (provision_eq_cancelled some clock)
  · have unheld : Rounds.deadlineIn config.timeout x = (.error .clockOverflow, x) := by
      rw [Rounds.deadlineIn, Run.bind_of_ok (Run.now_apply x), overflow]
      rfl
    exact Run.bind_of_error (Run.bind_of_error unheld)
  · exact waitForListed_cancels.obeys fun come =>
      Run.bind_of_error (Submission.check_eq_cancelled come)
  · exact (Rounds.awaitUntil_cancels keys).obeys (Rounds.awaitUntil_eq_cancelled some)

/-- A store in which looks at the first claim of the workload are never answered. -/
def firstHangs : Store := ({} : Store).hang (twoNodes.claimKey "0")

/-- A run that waits for such an answer up to its deadline ends as cancelled instead. -/
theorem firstHangs_cancelled :
    let run := provision Store.backend {} { cancelAt := some 3000000000 } twoNodes
      (.start 0 firstHangs)
    run.1 = .error (.failed (.cancelled "falcon")) ∧ run.2.now = 3000000000 := by
  intro run
  have late : 3000000000 ≤
      (provision Store.backend {} {} twoNodes (.start 0 firstHangs)).2.now := by decide +kernel
  obtain ⟨obeys, -⟩ := obeys_cancellation Store.backend {} twoNodes (.start 0 firstHangs) 3000000000
  have cut := (obeys (by decide) (by decide)).meanwhile (by decide)
  revert cut
  show Run.Cut _ _ _ _ _ run → _
  generalize run = ended
  intro cut
  cases cut with
  | finished ended => exact absurd ended (Nat.not_lt.2 late)
  | suspended goesOn isNow => exact ⟨rfl, isNow⟩

/-- A run with the longest timeout overflows the clock, though it was cancelled beforehand. -/
theorem longest_not_cancelled :
    (provision Store.backend { timeout := .max } { cancelAt := some 0 } twoNodes (.start 0 {})).1 =
      .error .clockOverflow := by
  decide +kernel

end Provisioning

end NodeProvisioning
