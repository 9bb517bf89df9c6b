import NodeProvisioning.Http.Scripted
import NodeProvisioning.Proofs.Retry.Reading
import NodeProvisioning.Proofs.Rounds.Keeping
import NodeProvisioning.Proofs.Rounds.Promptness
import NodeProvisioning.Proofs.Submission.Reporting

/-!
# Which errors are taken to pass

One question decides in three loops whether an error is met with patience: whether it is transient.
Reading a workspace asks again after a transient error, a submission goes on after it, and a wait
looks again in the next round; any other error ends each of them at once, with that error.

Transient are the errors that may pass, of a connection that failed or of a server that is under
load or at fault (`RequestError.IsRecoverable`).  But so are those of requests that the client
itself holds back (`RequestError.IsUnsent`), though they will never be sent: no response can bring
such an error, it depends on the request alone, and every later try repeats it.  A workspace without
a name is asked for five times without a request; a wait for a claim that cannot be asked for never
succeeds, and if time runs out it names the claim among those pending
(`RequestError.emptyName_retried`).

## Main definitions

* `RequestError.IsRecoverable`, `RequestError.IsUnsent` — the errors that are transient
* `Command.GivesUp`, `Rounds.GivesUp` — an error ends the reading of a workspace, or a wait, at once

## Main statements

* `RequestError.isTransient_iff` — which errors are transient
* `Http.getRequest_isUnsent`, `Http.interpret_ne_unsent` — what is held back, and what is not
* `Command.readWorkload_unsent`, `Rounds.awaitUntil_unsent` — what comes of requests held back
* `RequestError.isTransient_decides` — what the answer decides
-/

namespace NodeProvisioning

/-! ## Which errors are transient -/

namespace RequestError

/-- **An error that may pass**: the connection failed, or the server is under load or at fault. -/
inductive IsRecoverable : RequestError → Prop
  | transport (detail : String) : IsRecoverable (.transport detail)
  | eventStream (detail : String) : IsRecoverable (.eventStream detail)
  | openLine : IsRecoverable .openLine
  | refused (r : Refusal) (passing : r.code = 408 ∨ r.code = 429 ∨ 500 ≤ r.code) :
      IsRecoverable (.refused r)

/-- **The error of a request that was not sent**: there is no way to send it, or the client does not
let it pass. -/
inductive IsUnsent : RequestError → Prop
  | tlsRequired : IsUnsent .tlsRequired
  | rejected (cause : Rejection) : IsUnsent (.rejected cause)

/-- **The transient errors** are those that may pass, and those of requests that were not sent. -/
theorem isTransient_iff {e : RequestError} :
    e.isTransient = true ↔ e.IsRecoverable ∨ e.IsUnsent := by
  constructor
  · intro transient
    cases e with
    | refused r =>
      have passing : r.code = 408 ∨ r.code = 429 ∨ 500 ≤ r.code := by
        simpa [isTransient, or_assoc] using transient
      exact .inl (.refused r passing)
    | undecodable detail => cases transient
    | transport detail => exact .inl (.transport detail)
    | eventStream detail => exact .inl (.eventStream detail)
    | openLine => exact .inl .openLine
    | tlsRequired => exact .inr .tlsRequired
    | rejected cause => exact .inr (.rejected cause)
  · rintro (recoverable | unsent)
    · cases recoverable with
      | refused r passing => simpa [isTransient, or_assoc] using passing
      | transport => rfl
      | eventStream => rfl
      | openLine => rfl
    · cases unsent <;> rfl

/-- An error that may pass is of a request that was sent. -/
theorem IsRecoverable.not_isUnsent {e : RequestError} (h : e.IsRecoverable) : ¬ e.IsUnsent := by
  cases h <;> nofun

end RequestError

/-! ## Requests that are held back -/

namespace Http

variable {τ α : Type}

/-- A request that may not be made is not sent. -/
theorem getRequest_isUnsent {type : ResourceType} {ns name : String} {e : RequestError}
    (h : getRequest type ns name = .error e) : e.IsUnsent := by
  unfold getRequest requestFor at h
  split at h
  · cases h
    exact .rejected _
  · split at h <;> cases h
    exact .rejected _

/-- No outcome of a request that was sent is the error of one that was not. -/
theorem interpret_ne_unsent {decode : Decoder α} {outcome : Outcome} {e : RequestError}
    (unsent : e.IsUnsent) : interpret decode outcome ≠ .error e := by
  intro h
  unfold interpret at h
  split at h
  · cases h
    cases unsent
  · split at h
    · cases h
      cases unsent
    · repeat' split at h
      all_goals cases h
      all_goals cases unsent

end Http

/-! ## Reading a workspace -/

namespace Command

open Retry

variable {τ : Type} {t : Http.Transport τ} {target : Target} {s : τ} {e : RequestError}

/-- **Reading gives up** where its first try meets the error: there is no second one, and it fails
with that error. -/
def GivesUp (e : RequestError) : Prop :=
  ∀ (τ : Type) (t : Http.Transport τ) (target : Target) (s : τ),
    (tryRead t target s).2 = .error e →
      ReadBy t target s 1 ∧ readWorkload t target s =
        ((tryRead t target s).1, .error (.workspaceFetch target.ns target.workspace e))

theorem givesUp_of_definitive (definitive : e.isTransient = false) : GivesUp e := by
  intro τ t target s met
  obtain ⟨k, read⟩ := exists_readBy t target s
  have single : k = 1 := by
    by_contra other
    obtain ⟨e', met', transient⟩ :=
      read.passing 1 (Nat.le_refl 1) (Nat.lt_of_le_of_ne read.few.1 (Ne.symm other))
    cases met.symm.trans met'
    cases transient.symm.trans definitive
  subst single
  exact ⟨read, (read.lost e met).2⟩

/-- **A workspace that cannot be asked for** is tried for five times, and nothing is sent. -/
theorem readWorkload_unsent
    (held : Http.getRequest .workspaces target.ns target.workspace = .error e) :
    (∃ sleeps, sleeps.length = 4 ∧
      run { maxAttempts := readAttempts } RequestError.isTransient (fun _ => 1) (tryRead t target)
        readAttempts s = (s, some ⟨.returned (.error e), 5, sleeps⟩)) ∧
    readWorkload t target s = (s, .error (.workspaceFetch target.ns target.workspace e)) := by
  have tried (s : τ) : tryRead t target s = (s, .error e) := by
    rw [tryRead, Http.getWorkspace, held]
    rfl
  have still (n : Nat) : after (tryRead t target) s n = s := by
    induction n with
    | zero => rfl
    | succ n ih => rw [after, ih, tried]
  have met (i : Nat) : result (tryRead t target) s i = .error e := by
    rw [result, tried]
  have again := RequestError.isTransient_iff.2 (.inr (Http.getRequest_isUnsent held))
  have last : IsLast { maxAttempts := readAttempts } RequestError.isTransient
      (result (tryRead t target) s) readAttempts :=
    isLast_maxAttempts (by decide) fun i _ _ => ⟨e, met i, again⟩
  have ran : run { maxAttempts := readAttempts } RequestError.isTransient (fun _ => 1)
      (tryRead t target) readAttempts s = (s, some ⟨.returned (.error e), 5,
        sleepsAfter { maxAttempts := readAttempts } (fun _ => 1) 4⟩) := by
    rw [run_isLast (by decide) (by decide) last (Nat.le_refl _), still, met]
    rfl
  refine ⟨⟨_, length_sleepsAfter _ _ _, ran⟩, ?_⟩
  rw [readWorkload, ← tryRead, ran]
  rfl

end Command

/-! ## Waiting for claims -/

namespace Rounds

open History
open Run (Contract)

variable {τ : Type} {t : Http.Transport τ} {key : ClaimKey} {e : RequestError}

/-- The only answers about a claim are that error. -/
def OnlyFails (key : ClaimKey) (e : RequestError) (w : World τ) : Prop :=
  ∀ t a, .took t (.get key a) ∈ w.trace → a = .error e

/-- An event that is no other answer about the claim makes no difference. -/
theorem OnlyFails.leave {w : World τ} (h : OnlyFails key e w) {event : Event}
    (fails : ∀ t a, event = .took t (.get key a) → a = .error e) :
    OnlyFails key e (w.leave event) := by
  intro t a mem
  rcases List.mem_cons.1 mem with same | old
  · exact fails t a same.symm
  · exact h t a old

/-- **A claim that cannot be asked for** brings nothing but the error that says so. -/
theorem looksUphold_onlyFails {isOpen : Instant → Prop}
    (held : Http.getRequest .nodeClaims key.ns key.name = .error e) :
    (Http.backend t).LooksUphold (OnlyFails key e) isOpen := by
  intro other w fails _
  have begun : OnlyFails key e (w.leave (.began w.now (.get other))) :=
    fails.leave fun t a same => by cases same
  show Progress.Upholds _ _ _ _ (Http.begin (Http.getRequest .nodeClaims other.ns other.name)
    (Http.getClaim t other) w.state).2
  cases asked : Http.getRequest .nodeClaims other.ns other.name with
  | error e' =>
    refine begun.leave fun t a same => ?_
    cases same
    cases held.symm.trans asked
    rfl
  | ok request =>
    -- A look that can be asked for is at another claim.
    refine ⟨begun, fun w' fails' _ => ⟨fun a _ => ?_, fun _ => fails'⟩⟩
    refine OnlyFails.leave fails' fun t a same => ?_
    cases same
    cases held.symm.trans asked

variable {pollInterval : Duration} {signals : Signals} {workspace : String} {deadline : Instant}
variable {keys : List ClaimKey} {now : Instant} {s : τ}

/-- **A wait for a claim that cannot be asked for** does not succeed, and if time runs out the claim
is among those that it calls pending. -/
theorem awaitUntil_unsent (mem : key ∈ keys)
    (held : Http.getRequest .nodeClaims key.ns key.name = .error e) :
    let run := awaitUntil (Http.backend t) pollInterval signals workspace deadline keys
      (.start now s)
    run.1 ≠ .ok () ∧ ∀ named pending, run.1 = .error (.failed (.timeout named pending)) →
      key.name ∈ pending := by
  intro run
  have fails : OnlyFails key e run.2 :=
    (awaitUntil_contract (fun _ _ fails _ _ => fails) (looksUphold_onlyFails held)).holds
      fun _ _ mem => absurd mem List.not_mem_nil
  have ending : Ending ⟨signals, workspace, deadline⟩ keys run.1 run.2.history :=
    awaitUntil_start_ending rfl
  have remains : key ∈ remaining keys run.2.history := by
    refine mem_remaining_iff.2 ⟨mem, fun a seen => ?_⟩
    obtain ⟨u, taken⟩ := mem_sightings_iff_took.1 seen
    rw [fails u a (List.mem_reverse.1 taken)]
    rfl
  refine ⟨fun ready => ?_, fun named pending expired => ?_⟩
  · rw [ready] at ending
    cases ending with
    | ready tally =>
      rw [← tally.outstanding_eq] at remains
      cases remains
  · obtain ⟨-, -, rfl, -⟩ := ending.timeout expired
    exact List.mem_map.2 ⟨key, remains, rfl⟩

/-- **A wait gives up** where it meets the error of a look: it ends with that error, and nothing
happens after the answer that carries it, not even time passing. -/
def GivesUp (e : RequestError) : Prop :=
  ∀ (σ : Type) (b : Backend σ) (pollInterval : Duration) (signals : Signals) (workspace : String)
    (deadline : Instant) (keys : List ClaimKey) (now : Instant) (state : σ) (t : Instant)
    (key : ClaimKey),
    let run := awaitUntil b pollInterval signals workspace deadline keys (.start now state)
    .took t (.get key (.error e)) ∈ run.2.history →
      run.1 = .error (.failed (.ofFetch key.name e)) ∧
      run.2.history.getLast? = some (.took t (.get key (.error e))) ∧ run.2.now = t

theorem givesUp_of_definitive (definitive : e.isTransient = false) : GivesUp e := by
  intro σ b pollInterval signals workspace deadline keys now state t key run met
  have terminal : Observation.of key (.error e) = .terminal (.ofFetch key.name e) :=
    Observation.of_eq_terminal_iff.2 (.inr ⟨e, rfl, definitive, rfl⟩)
  exact awaitUntil_of_terminal rfl met terminal

end Rounds

/-! ## What the answer decides -/

namespace RequestError

/-- **What is transient, and what comes of it.**  An error is transient if it may pass, or if it is
that of a request that was not sent, which no response can bring.

An error that is not transient ends all three loops with itself: the workspace is asked for once, a
submission whose look meets it reports it, and a wait is over at the instant of the answer.  An
error of a creation is reported in any case, unless it says that the claim is there.

But where a request cannot be sent at all, a workspace is tried for five times, a submission goes on
after the look, and a wait never succeeds, though it may name the claim as pending. -/
theorem isTransient_decides (e : RequestError) :
    (e.isTransient = true ↔ e.IsRecoverable ∨ e.IsUnsent) ∧
    (e.IsUnsent → ¬ e.IsRecoverable ∧ ∀ (α : Type) (decode : Decoder α) (outcome : Http.Outcome),
      Http.interpret decode outcome ≠ .error e) ∧
    (e.isTransient = false → Command.GivesUp e ∧ Rounds.GivesUp e) ∧
    (∀ (σ : Type) (b : Backend σ) (settleDelay : Duration) (signals : Signals)
      (deadline : Option (Instant × ProvisionError)) (claim : NodeClaim) (now : Instant) (state : σ),
      let run := Submission.submitUntil b settleDelay signals deadline claim (.start now state)
      Submission.Reports claim run.2.history run.1) ∧
    (∀ (τ : Type) (t : Http.Transport τ) (target : Target) (s : τ),
      Http.getRequest .workspaces target.ns target.workspace = .error e →
      e.IsUnsent ∧
      (∃ sleeps, sleeps.length = 4 ∧
        Retry.run { maxAttempts := Command.readAttempts } isTransient (fun _ => 1)
          (Command.tryRead t target) Command.readAttempts s =
            (s, some ⟨.returned (.error e), 5, sleeps⟩)) ∧
      Command.readWorkload t target s =
        (s, .error (.workspaceFetch target.ns target.workspace e))) ∧
    ∀ (τ : Type) (t : Http.Transport τ) (pollInterval : Duration) (signals : Signals)
      (workspace : String) (deadline : Instant) (keys : List ClaimKey) (now : Instant) (s : τ)
      (key : ClaimKey), key ∈ keys → Http.getRequest .nodeClaims key.ns key.name = .error e →
      let run := Rounds.awaitUntil (Http.backend t) pollInterval signals workspace deadline keys
        (.start now s)
      e.IsUnsent ∧ run.1 ≠ .ok () ∧
      ∀ named pending, run.1 = .error (.failed (.timeout named pending)) → key.name ∈ pending := by
  refine ⟨isTransient_iff, fun unsent => ⟨fun recoverable => recoverable.not_isUnsent unsent,
      fun α decode outcome => Http.interpret_ne_unsent unsent⟩,
    fun definitive => ⟨Command.givesUp_of_definitive definitive,
      Rounds.givesUp_of_definitive definitive⟩, ?_,
    fun τ t target s held => ⟨Http.getRequest_isUnsent held, Command.readWorkload_unsent held⟩,
    fun τ t pollInterval signals workspace deadline keys now s key mem held =>
      ⟨Http.getRequest_isUnsent held, Rounds.awaitUntil_unsent mem held⟩⟩
  intro σ b settleDelay signals deadline claim now state run
  obtain ⟨events, led, reports⟩ := Submission.submitUntil_reports
    (show Submission.submitUntil b settleDelay signals deadline claim (.start now state) =
      (run.1, run.2) from rfl)
  rwa [led.history_of_start]

/-- **An empty name is asked for again and again**, though no request for it is ever sent: the error
that says so is transient, but it will not pass.  So a workspace without a name is tried for five
times, and a wait of twelve seconds for a claim without a name lasts until its deadline and then
ends with a timeout that says nothing of the error. -/
theorem emptyName_retried :
    let e : RequestError := .rejected (.invalid "A non-empty name is required")
    let server : Http.Script := { outcomes := [] }
    let run := Rounds.awaitUntil (Http.backend Http.Script.transport) (.ofSeconds 5) {}
      "falcon-7b" (Duration.ofSeconds 12).nanos [⟨"kaito", ""⟩] (.start 0 server)
    Http.getRequest .workspaces "kaito" "" = .error e ∧ e.isTransient = true ∧ ¬ e.IsRecoverable ∧
    ((Retry.run { maxAttempts := Command.readAttempts } isTransient (fun _ => 1)
      (Command.tryRead Http.Script.transport ⟨"", "kaito"⟩) Command.readAttempts server).2.map
        (·.attempts)) = some 5 ∧
    Http.getRequest .nodeClaims "kaito" "" = .error e ∧
    run.1 = .error (.failed (.timeout "falcon-7b" [""])) ∧
    run.2.now = (Duration.ofSeconds 12).nanos := by
  refine ⟨rfl, rfl, nofun, ?_, rfl, ?_, ?_⟩ <;> decide +kernel

end RequestError

end NodeProvisioning
