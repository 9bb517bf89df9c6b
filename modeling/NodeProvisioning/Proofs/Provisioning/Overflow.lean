import NodeProvisioning.Proofs.CommandLine.Durations
import NodeProvisioning.Proofs.Provisioning.Triage
import NodeProvisioning.Proofs.Rounds.Termination
import NodeProvisioning.Proofs.Submission.Stopping

/-!
# Timeouts that the clock cannot hold

A timeout on the command line is refused if its seconds do not fit into 64 bits.  The clock holds
half as many.  So there are timeouts which are accepted, and with which the deadline of a run lies
past the end of the clock; and nothing between the command line and the clock asks for less.

Where a deadline is read off the clock, this is the only thing that can go wrong, and it goes wrong
at once.  Provisioning does it first of all.  A wait for listed claims does it when it has found
enough claims and none that has failed, whether or not any is still to be waited for.  Everything
else ends with success or with an error, once the list call is answered, which has no deadline: no
other part of a run overflows, and that none stalls follows as for a wait by itself, by a
cancellation after the deadline that would find it suspended.

## Main definitions

* `Instant.RunsOut` — some time from an instant lies past the end of the clock
* `Run.Concludes` — success, or an error
* `Run.OverflowsIf` — a run overflows in one case, and concludes in all others

## Main statements

* `Instant.after?_eq_none_iff` — these are the instants that are not to be had
* `Provisioning.provision_overflowsIf`, `Provisioning.await_overflowsIf`,
  `Provisioning.waitForListed_overflowsIf` — the runs that have a deadline
* `Provisioning.timeout_overflows` — which of the accepted timeouts overflow, and where
-/

namespace NodeProvisioning

variable {σ : Type}

/-! ## The clock -/

namespace Instant

/-- Some time from an instant lies past the end of the clock, which holds `2 ^ 63` seconds. -/
def RunsOut (now : Instant) (d : Duration) : Prop :=
  twoTo 63 * Duration.nanosPerSecond ≤ now + d.nanos

variable {now deadline : Instant} {d : Duration}

/-- An instant that lies past the end of the clock is not to be had, and any other is. -/
theorem after?_eq_none_iff : after? now d = none ↔ now.RunsOut d := by
  have seconds : lastSecond + 1 = twoTo 63 := Nat.sub_add_cancel (twoTo_pos 63)
  rw [after?, seconds, RunsOut]
  split
  · next held => simpa using held
  · next late => simpa using late

theorem exists_after? (h : ¬ now.RunsOut d) : ∃ deadline, after? now d = some deadline :=
  Option.ne_none_iff_exists'.1 (mt after?_eq_none_iff.1 h)

theorem le_of_after? (h : after? now d = some deadline) : now ≤ deadline := by
  unfold after? at h
  split at h
  · cases h
    exact Nat.le_add_right _ _
  · cases h

end Instant

namespace Run

/-- **A run concludes**: with success, or with an error. -/
def Concludes (r : Except Halt Unit) : Prop := r = .ok () ∨ ∃ e, r = .error (.failed e)

theorem concludes_of_ne {r : Except Halt Unit} (clock : r ≠ .error .clockOverflow)
    (goesOn : r ≠ .error .stalled) : Concludes r := by
  rcases r with (e | _ | _) | _
  · exact .inr ⟨e, rfl⟩
  · exact absurd rfl clock
  · exact absurd rfl goesOn
  · exact .inl rfl

/-- **A run overflows** in the one case, in the given world, and in all others it concludes. -/
structure OverflowsIf (late : Prop) (x : World σ) (run : Except Halt Unit × World σ) : Prop where
  overflows : late → run = (.error .clockOverflow, x)
  concludes : ¬ late → Concludes run.1

/-- A run that overflows if need be overflows only then. -/
theorem OverflowsIf.iff {late : Prop} {x : World σ} {run : Except Halt Unit × World σ}
    (h : OverflowsIf late x run) : run.1 = .error .clockOverflow ↔ late := by
  constructor
  · intro overflow
    by_contra early
    rcases h.concludes early with success | ⟨e, failed⟩
    · rw [success] at overflow
      cases overflow
    · rw [failed] at overflow
      cases overflow
  · intro late
    rw [h.overflows late]

end Run

open Run (Concludes OverflowsIf concludes_of_ne)

/-! ## Submissions -/

namespace Submission

variable {b : Backend σ} {settleDelay : Duration} {signals : Signals} {workspace : String}
  {deadline : Instant} {claims : List NodeClaim} {x : World σ}

theorem Limits.Cuts.ne_clockOverflow {l : Limits} {e : Halt} (h : l.Cuts e) :
    e ≠ .clockOverflow := by
  cases h <;> nofun

/-- Whatever stops a submission, it is not the clock. -/
theorem Stops.ne_clockOverflow {l : Limits} {claim : NodeClaim} {e : Halt} {trace : List Event}
    (h : Stops l claim e trace) : e ≠ .clockOverflow := by
  cases h with
  | cut cuts => exact cuts.ne_clockOverflow
  | refused => nofun
  | fatal => nofun

theorem submitAll_ne_clockOverflow :
    (submitAll b settleDelay signals workspace deadline claims x).1 ≠ .error .clockOverflow := by
  intro overflow
  obtain ⟨_, _, _, _, _, _, -, -, -, -, stops⟩ := submitAll_stopped claims (Prod.ext overflow rfl)
  exact stops.ne_clockOverflow rfl

/-- A submission is over by its deadline, if it begins before. -/
theorem submitAll_now_le (ahead : x.now ≤ deadline) :
    (submitAll b settleDelay signals workspace deadline claims x).2.now ≤ deadline := by
  have lasts : World.Lasts (fun v : World σ => v.now ≤ deadline) (some deadline) :=
    fun v t inTime _ bound =>
      Nat.le_trans (bound deadline rfl) (Nat.max_le.2 ⟨inTime, Nat.le_refl _⟩)
  have submits (claim : NodeClaim) : b.Submits (fun v : World σ => v.now ≤ deadline)
      (fun v => v.now ≤ deadline) (fun t => signals.isCancelled t = false) claim :=
    ⟨Call.Leads.of_events (fun _ _ inTime => inTime) (fun _ inTime _ => inTime)
        fun _ _ inTime _ => inTime,
      Call.Leads.of_events (fun _ _ inTime => inTime) (fun _ inTime _ => inTime)
        fun _ _ inTime _ => inTime⟩
  exact (submitAll_contract lasts (fun _ => id) (fun _ inTime _ => inTime) claims
    fun claim _ => submits claim).holds ahead

end Submission

/-! ## Runs with a deadline -/

namespace Provisioning

variable {b : Backend σ} {config : RunConfig} {signals : Signals} {w : Workload} {x : World σ}
  {deadline : Instant} {cancelAt : Option Instant} {keys : List ClaimKey}

/-- A wait does not overflow. -/
theorem awaitUntil_ne_clockOverflow {pollInterval : Duration} {workspace : String} :
    (Rounds.awaitUntil b pollInterval signals workspace deadline keys x).1 ≠
      .error .clockOverflow := by
  rcases ran : Rounds.awaitUntil b pollInterval signals workspace deadline keys x with ⟨r, y⟩
  obtain ⟨_, -, ending⟩ := Rounds.awaitUntil_ending ran
  cases ending with
  | ready => nofun
  | fatal => nofun
  | cut tally cuts => cases cuts <;> nofun

/-- A deadline that the clock cannot hold ends the run at once. -/
theorem deadlineIn_eq_clockOverflow {timeout : Duration}
    (unheld : Instant.after? x.now timeout = none) :
    Rounds.deadlineIn timeout x = (.error .clockOverflow, x) := by
  rw [Rounds.deadlineIn, Run.bind_of_ok (Run.now_apply x), unheld]
  rfl

/-- **Provisioning whose deadline is held** is a submission up to it, and then a wait. -/
theorem provision_of_after? (held : Instant.after? x.now config.timeout = some deadline) :
    provision b config signals w x =
      (Submission.submitAll b config.settleDelay signals w.name deadline
          (w.claims config.manifest) >>= fun _ =>
        Rounds.awaitUntil b config.pollInterval signals w.name deadline
          ((w.claims config.manifest).map NodeClaim.key)) x := by
  rcases ran : Submission.submitAll b config.settleDelay signals w.name deadline
    (w.claims config.manifest) x with ⟨e | _, y⟩
  · rw [Run.bind_of_error ran]
    refine Run.bind_of_error ?_
    rw [submission, Run.bind_of_ok (deadlineIn_of_after? held), Run.bind_of_error ran]
  · rw [Run.bind_of_ok ran]
    refine Run.bind_of_ok ?_
    rw [submission, Run.bind_of_ok (deadlineIn_of_after? held), Run.bind_of_ok ran]
    rfl

theorem provision_ne_clockOverflow (held : Instant.after? x.now config.timeout = some deadline) :
    (provision b config signals w x).1 ≠ .error .clockOverflow := by
  rw [provision_of_after? held]
  have submitted : (Submission.submitAll b config.settleDelay signals w.name deadline
    (w.claims config.manifest) x).1 ≠ .error .clockOverflow := Submission.submitAll_ne_clockOverflow
  rcases ran : Submission.submitAll b config.settleDelay signals w.name deadline
    (w.claims config.manifest) x with ⟨e | _, y⟩
  · rw [ran] at submitted
    rw [Run.bind_of_error ran]
    exact fun overflow => submitted (by cases overflow; rfl)
  · rw [Run.bind_of_ok ran]
    exact awaitUntil_ne_clockOverflow

/-- Provisioning is over by its deadline. -/
theorem provision_now_le (held : Instant.after? x.now config.timeout = some deadline) :
    (provision b config signals w x).2.now ≤ deadline := by
  rw [provision_of_after? held]
  have submitted : (Submission.submitAll b config.settleDelay signals w.name deadline
    (w.claims config.manifest) x).2.now ≤ deadline :=
      Submission.submitAll_now_le (Instant.le_of_after? held)
  rcases ran : Submission.submitAll b config.settleDelay signals w.name deadline
    (w.claims config.manifest) x with ⟨e | _, y⟩ <;> rw [ran] at submitted
  · rw [Run.bind_of_error ran]
    exact submitted
  · rw [Run.bind_of_ok ran]
    exact Rounds.awaitUntil_now_le submitted

/-- Provisioning without claims succeeds at once. -/
theorem provision_of_nodeCount_eq_zero (none : w.nodeCount = 0)
    (held : Instant.after? x.now config.timeout = some deadline) :
    provision b config signals w x = (.ok (), x) := by
  have nothing : w.claims config.manifest = [] := by
    rw [← List.length_eq_zero_iff, Workload.length_claims, none]
  rw [provision_of_after? held, nothing]
  rfl

/-- **Provisioning does not stall** if time passes between its rounds.  Otherwise it would be
suspended by a cancellation after its deadline. -/
theorem provision_ne_stalled (interval : 0 < config.pollInterval.nanos)
    (held : Instant.after? x.now config.timeout = some deadline) :
    (provision b config { cancelAt } w x).1 ≠ .error .stalled := by
  have ahead : x.now < deadline + 1 := Nat.lt_succ_of_le (Instant.le_of_after? held)
  have cut := (provision_cancels : Run.Cancels w.name (deadline + 1)
    (config.pollInterval.nanos = 0) (provision b config {} w) _).cut x ahead
  have free : (provision b config {} w x).1 ≠ .error .stalled :=
    cut.free_ne_stalled (Nat.ne_of_gt interval) (Nat.lt_succ_of_le (provision_now_le held))
  cases cancelAt with
  | none => exact free
  | some c =>
    show (provision b config (.cancelledAt c) w x).1 ≠ _
    rcases Nat.lt_or_ge x.now c with later | come
    · exact (provision_cancels.cut x later).ne_stalled free
    · rcases Nat.eq_zero_or_pos w.nodeCount with none | some
      · rw [provision_of_nodeCount_eq_zero none held]
        nofun
      · rw [provision_eq_cancelled some (by rw [held]; rfl) come]
        nofun

/-- **Provisioning** overflows if its deadline lies past the end of the clock. -/
theorem provision_overflowsIf (interval : 0 < config.pollInterval.nanos) :
    OverflowsIf (x.now.RunsOut config.timeout) x (provision b config { cancelAt } w x) where
  overflows late :=
    Run.bind_of_error (Run.bind_of_error
      (deadlineIn_eq_clockOverflow (Instant.after?_eq_none_iff.2 late)))
  concludes early := by
    obtain ⟨deadline, held⟩ := Instant.exists_after? early
    exact concludes_of_ne (provision_ne_clockOverflow held) (provision_ne_stalled interval held)

/-- **A wait for some time** overflows if its deadline lies past the end of the clock, even if there
is nothing to wait for. -/
theorem await_overflowsIf (interval : 0 < config.pollInterval.nanos) {workspace : String} :
    OverflowsIf (x.now.RunsOut config.timeout) x
      (Rounds.await b config { cancelAt } workspace keys x) where
  overflows late :=
    Run.bind_of_error (deadlineIn_eq_clockOverflow (Instant.after?_eq_none_iff.2 late))
  concludes early := by
    obtain ⟨deadline, held⟩ := Instant.exists_after? early
    rw [Rounds.await, Run.bind_of_ok (deadlineIn_of_after? held)]
    exact concludes_of_ne awaitUntil_ne_clockOverflow
      (Rounds.awaitUntil_ne_stalled interval (Instant.le_of_after? held))

/-! ## Waiting for listed claims -/

section Listing

variable {answer : Except RequestError (List NodeClaim)} {t : Instant} {s : σ}

/-- A wait for listed claims goes on at least until its list call is answered. -/
theorem le_now_waitForListed
    (answered : Call.Answered (fun t => b.list t w.ns w.selector) x answer t s) :
    t ≤ (waitForListed b config {} w x).2.now := by
  rcases answer with e | claims
  · rw [waitForListed_of_refusal (.never t) answered]
    exact Nat.le_refl t
  · rw [waitForListed_of_claims (.never t) answered]
    cases triage w claims with
    | error e => exact Nat.le_refl t
    | ok pending =>
      have forward : Run.Forward (Rounds.await b config {} w.name pending) :=
        ((Rounds.deadlineIn_cancels _).bind fun _ => Rounds.awaitUntil_cancels pending :
          Run.Cancels w.name 0 _ _ (Rounds.await b config (.cancelledAt 0) w.name pending)).forward
      exact (forward (afterListing w x t s (.ok claims))).now_le

/-- A wait for listed claims that is cancelled before its list call is answered, or at that instant,
ends as cancelled. -/
theorem waitForListed_of_cancelled {c : Instant} (soon : c ≤ t)
    (answered : Call.Answered (fun t => b.list t w.ns w.selector) x answer t s) :
    (waitForListed b config (.cancelledAt c) w x).1 = .error (.failed (.cancelled w.name)) := by
  rcases Nat.lt_or_ge x.now c with later | come
  · have cut := (waitForListed_cancels : Run.Cancels w.name c _ (waitForListed b config {} w) _).cut
      x later
    generalize waitForListed b config (.cancelledAt c) w x = run at cut
    cases cut with
    | finished ended =>
      have reached : t ≤ (waitForListed b config {} w x).2.now := le_now_waitForListed answered
      exact absurd ended (Nat.not_lt.2 (Nat.le_trans soon reached))
    | suspended => rfl
  · rw [waitForListed, Run.bind_of_error (Submission.check_eq_cancelled come)]

/-- **A wait for listed claims** overflows if it is not cancelled up to the answer to its list call,
the answer is a list that it may go on with, and a deadline from then on lies past the end of the
clock. -/
theorem waitForListed_overflowsIf (interval : 0 < config.pollInterval.nanos)
    (answered : Call.Answered (fun t => b.list t w.ns w.selector) x answer t s) :
    OverflowsIf ((∀ c, cancelAt = some c → t < c) ∧
        (∃ claims pending, answer = .ok claims ∧ triage w claims = .ok pending) ∧
        t.RunsOut config.timeout)
      (afterListing w x t s answer) (waitForListed b config { cancelAt } w x) where
  overflows late := by
    obtain ⟨cancelLater, ⟨claims, pending, rfl, judged⟩, late⟩ := late
    have silent : ({ cancelAt } : Signals).SilentUntil t := ⟨cancelLater, nofun⟩
    rw [waitForListed_of_claims silent answered, judged]
    exact (await_overflowsIf interval).overflows late
  concludes early := by
    by_cases cancelLater : ∀ c, cancelAt = some c → t < c
    · have silent : ({ cancelAt } : Signals).SilentUntil t := ⟨cancelLater, nofun⟩
      rcases answer with e | claims
      · rw [waitForListed_of_refusal silent answered]
        exact .inr ⟨_, rfl⟩
      · rw [waitForListed_of_claims silent answered]
        cases judged : triage w claims with
        | error e => exact .inr ⟨e, rfl⟩
        | ok pending =>
          exact (await_overflowsIf interval).concludes fun late =>
            early ⟨cancelLater, ⟨claims, pending, rfl, judged⟩, late⟩
    · push Not at cancelLater
      obtain ⟨c, rfl, soon⟩ := cancelLater
      exact .inr ⟨_, waitForListed_of_cancelled soon answered⟩

/-- A wait whose list call is never answered does not come to set a deadline. -/
theorem waitForListed_of_unanswered
    (never : ∀ answer t s, ¬ Call.Answered (fun t => b.list t w.ns w.selector) x answer t s) :
    (waitForListed b config signals w x).1 ≠ .error .clockOverflow := by
  let limits : Submission.Limits := { signals, workspace := w.name }
  have checks : Run.Contract (fun v => v = x) limits.check (fun _ v => v = x)
      fun e _ => e ≠ .clockOverflow :=
    Submission.Limits.check_contract.weaken (fun _ => id) (fun _ _ h => h.1)
      fun _ _ h => h.2.ne_clockOverflow
  have lists : Run.Contract (fun v => v = x) (listClaims b signals w) (fun _ _ => False)
      fun e _ => e ≠ .clockOverflow := by
    rintro _ rfl
    obtain ⟨e, y, hangs, other⟩ := Run.perform_of_unanswered never
      (fun due s => (Submission.Limits.pause_contract (fun _ _ same _ _ => same) due).weaken
        (fun _ => id) (fun _ _ h => h.1) fun _ _ h => h.2.ne_clockOverflow) nofun
    rw [listClaims, Run.bind_of_error hangs]
    exact other
  have waits : Run.Contract (fun v => v = x) (waitForListed b config signals w) (fun _ _ => False)
      fun e _ => e ≠ .clockOverflow :=
    checks.bind fun _ => lists.bind fun _ _ listed => listed.elim
  intro overflow
  exact waits.error rfl (Prod.ext overflow rfl) rfl

end Listing

/-! ## Accepted timeouts -/

/-- **Which accepted timeouts overflow the clock.**  A timeout that is accepted on the command line
is some number of seconds below `2 ^ 64`.  With it, a run of which time passes between the rounds
overflows exactly where its deadline lies past the first `2 ^ 63` seconds of the clock, and in all
other cases concludes with success or with an error, whatever the backend does.  Provisioning and
waiting for some time then overflow at once, also where there is nothing to wait for.  A wait for
listed claims whose list call is answered overflows only where it may go on with the answer and has
not been cancelled by then, and one whose list call is never answered does not overflow. -/
theorem timeout_overflows {text : String}
    (accepted : CommandLine.duration text = .ok config.timeout)
    (interval : 0 < config.pollInterval.nanos) (b : Backend σ) (cancelAt : Option Instant)
    (w : Workload) :
    ∃ n, n < twoTo 64 ∧ config.timeout = .ofSeconds n ∧
      let late (t : Instant) : Prop :=
        twoTo 63 * Duration.nanosPerSecond ≤ t + n * Duration.nanosPerSecond
      (∀ x, OverflowsIf (late x.now) x (provision b config { cancelAt } w x)) ∧
      (∀ x keys, OverflowsIf (late x.now) x
        (Rounds.await b config { cancelAt } w.name keys x)) ∧
      (∀ x answer t s, Call.Answered (fun t => b.list t w.ns w.selector) x answer t s →
        let listed : World σ := ⟨t, s, .took t (.list w.ns w.selector answer) ::
          .began x.now (.list w.ns w.selector) :: x.trace⟩
        OverflowsIf ((∀ c, cancelAt = some c → t < c) ∧
            (∃ claims pending, answer = .ok claims ∧ triage w claims = .ok pending) ∧ late t)
          listed (waitForListed b config { cancelAt } w x)) ∧
      ∀ x, (∀ answer t s, ¬ Call.Answered (fun t => b.list t w.ns w.selector) x answer t s) →
        (waitForListed b config { cancelAt } w x).1 ≠ .error .clockOverflow := by
  obtain ⟨n, small, isTimeout⟩ := CommandLine.exists_ofSeconds_of_duration accepted
  refine ⟨n, small, isTimeout, fun x => ?_, fun x keys => ?_, fun x answer t s answered => ?_,
    fun x never => waitForListed_of_unanswered never⟩
  · have run : OverflowsIf (x.now.RunsOut config.timeout) x (provision b config { cancelAt } w x) :=
      provision_overflowsIf interval
    rwa [isTimeout] at run
  · have run : OverflowsIf (x.now.RunsOut config.timeout) x
        (Rounds.await b config { cancelAt } w.name keys x) := await_overflowsIf interval
    rwa [isTimeout] at run
  · have run : OverflowsIf _ _ (waitForListed b config { cancelAt } w x) :=
      waitForListed_overflowsIf interval answered
    rwa [isTimeout] at run

/-- With a quarter of an hour, provisioning concludes, though a look at the first claim is never
answered. -/
theorem quarterHour_concludes :
    CommandLine.duration "15m" = .ok ({} : RunConfig).timeout ∧
      Concludes (provision Store.backend {} {} twoNodes (.start 0 firstHangs)).1 := by
  have accepted : CommandLine.duration "15m" = .ok ({} : RunConfig).timeout := rfl
  obtain ⟨n, -, isTimeout, provisions, -⟩ :=
    timeout_overflows accepted (by decide) Store.backend none twoNodes
  obtain rfl : 900 = n := by simpa using congrArg Duration.seconds isTimeout
  exact ⟨accepted, (provisions (.start 0 firstHangs)).concludes (by decide)⟩

/-- The longest timeout that is accepted. -/
def longest : RunConfig := { timeout := .ofSeconds (twoTo 64 - 1) }

/-- A store in which both claims of the workload are ready. -/
def bothReady : Store :=
  let ready (index : String) : NodeClaim := (twoNodes.claim {} index).withConditions
    [.of "Launched" .true "Launched" "", .of "Ready" .true "Ready" ""]
  (({} : Store).put (ready "0")).put (ready "1")

/-- **Not every accepted timeout is harmless.**  The longest one overflows the clock, when claims
are to be provisioned and when all are ready and none is left to wait for. -/
theorem longest_overflows :
    CommandLine.duration "18446744073709551615" = .ok longest.timeout ∧
    (provision Store.backend longest {} twoNodes (.start 0 {})).1 = .error .clockOverflow ∧
    (∀ claim ∈ bothReady.claims.values, claim.state = .ready) ∧
    (waitForListed Store.backend longest {} twoNodes (.start 0 bothReady)).1 =
      .error .clockOverflow := by
  refine ⟨rfl, ?_, ?_, ?_⟩ <;> decide +kernel

end Provisioning

end NodeProvisioning
