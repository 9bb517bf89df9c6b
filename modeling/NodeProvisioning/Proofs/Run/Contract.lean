import NodeProvisioning.Proofs.Run.Alarm
import NodeProvisioning.Proofs.Run.History

/-!
# Contracts

A triple speaks of the backend's state alone.  Where the clock and the trace matter too, what a run
does is said by a *contract*: a condition on the world before the run, one on its value and the
world after it, and one on the reason and the world where it ends without a value.

Two kinds of statement are made with contracts here.  One is about waits: a wait that ends well
ends before the cancellation, and no wait goes on past the deadline.  The other is about calls: a
property of the world survives a call if it survives the beginning and, where the call has to wait,
what the call does when it goes on.  As a call is answered at once or later, the property is asked
for in the world in which the answer has been taken.

## Main definitions

* `Run.Contract` — the contract
* `World.leave`, `World.begun` — the world after an event, and after the beginning of a call
* `Call.Leads`, `Call.Upholds` — a call leads from one property of the world to another, or keeps
  one

## Main statements

* `Submission.Limits.pause_contract`, `Rounds.Limits.pause_contract` — the contracts of waits
* `Run.Contract.perform` — the contract of a call
-/

namespace NodeProvisioning

variable {σ α β : Type}

/-! ## Worlds -/

namespace World

/-- The world after one more event. -/
def leave (w : World σ) (event : Event) : World σ := { w with trace := event :: w.trace }

/-- The world at another instant. -/
def moved (w : World σ) (t : Instant) : World σ := { w with now := t }

/-- The world after the beginning of a call. -/
def begun (w : World σ) (call : Call) (begin : Instant → σ → σ × Progress σ α) : World σ :=
  ⟨w.now, (begin w.now w.state).1, .began w.now call :: w.trace⟩

variable (w : World σ) (event : Event)

@[simp] theorem history_leave : (w.leave event).history = w.history ++ [event] := by
  simp [leave, history]

@[simp] theorem now_leave : (w.leave event).now = w.now := rfl

@[simp] theorem state_leave : (w.leave event).state = w.state := rfl

@[simp] theorem trace_leave : (w.leave event).trace = event :: w.trace := rfl

end World

/-! ## The contract -/

namespace Run

/-- What holds once a run has ended: `Q` where it gave a value, `E` where it did not. -/
def Ended (Q : α → World σ → Prop) (E : Halt → World σ → Prop) : Except Halt α × World σ → Prop
  | (.ok a, w) => Q a w
  | (.error e, w) => E e w

/-- **A contract.**  Where `P` holds when the run begins, `Q` holds of its value and the world
after it; or it ends without a value, and `E` holds of the reason and the world. -/
def Contract (P : World σ → Prop) (x : Run σ α) (Q : α → World σ → Prop)
    (E : Halt → World σ → Prop) : Prop :=
  ∀ w, P w → Ended Q E (x w)

namespace Contract

variable {P P' : World σ → Prop} {Q Q' : α → World σ → Prop} {R : β → World σ → Prop}
variable {E E' : Halt → World σ → Prop} {x : Run σ α}

theorem pure {a : α} (after : ∀ w, P w → Q a w) : Contract P (Pure.pure a : Run σ α) Q E :=
  fun w before => after w before

theorem halt {h : Halt} (ended : ∀ w, P w → E h w) : Contract P (Run.halt h : Run σ α) Q E :=
  fun w before => ended w before

/-- **A sequence** goes from the first condition to the last through one in between. -/
theorem bind {f : α → Run σ β} (first : Contract P x Q E)
    (second : ∀ a, Contract (Q a) (f a) R E) : Contract P (x >>= f) R E := by
  intro w before
  have between := first w before
  rw [bind_apply]
  rcases ran : x w with ⟨e | a, w₁⟩ <;> rw [ran] at between
  · exact between
  · exact second a w₁ between

/-- Conditions may be weakened. -/
theorem weaken (h : Contract P x Q E) (before : ∀ w, P' w → P w) (after : ∀ a w, Q a w → Q' a w)
    (ended : ∀ e w, E e w → E' e w) : Contract P' x Q' E' := by
  intro w holds
  have result := h w (before w holds)
  rcases ran : x w with ⟨e | a, w₁⟩ <;> rw [ran] at result
  · exact ended e w₁ result
  · exact after a w₁ result

/-- What holds whatever the world is may be supposed. -/
theorem suppose {p : Prop} (h : p → Contract P x Q E) : Contract (fun w => P w ∧ p) x Q E :=
  fun w before => h before.2 w before.1

/-- Where both ways of ending have one condition, it holds however the run ends. -/
theorem holds {J : World σ → Prop} (h : Contract P x (fun _ => J) fun _ => J) {w : World σ}
    (before : P w) : J (x w).2 := by
  have result := h w before
  rcases ran : x w with ⟨e | a, w₁⟩ <;> rw [ran] at result <;> exact result

/-- What the contract says of a run that gave a value. -/
theorem ok (h : Contract P x Q E) {w w' : World σ} {a : α} (before : P w)
    (ran : x w = (.ok a, w')) : Q a w' := by
  have result := h w before
  rwa [ran] at result

/-- What the contract says of a run that ended without a value. -/
theorem error (h : Contract P x Q E) {w w' : World σ} {e : Halt} (before : P w)
    (ran : x w = (.error e, w')) : E e w' := by
  have result := h w before
  rwa [ran] at result

/-- Reading the clock. -/
theorem now : Contract P Run.now (fun t w => P w ∧ t = w.now) E := fun _ before => ⟨before, rfl⟩

end Contract

end Run

/-! ## Waits -/

/-- `J` lasts while time passes, up to the deadline if there is one. -/
def World.Lasts (J : World σ → Prop) (deadline : Option Instant) : Prop :=
  ∀ w t, J w → w.now ≤ t → (∀ d, deadline = some d → t ≤ max w.now d) → J (w.moved t)

/-- Where the cancellation is still to come, a run is not cancelled. -/
theorem Signals.isCancelled_eq_false {s : Signals} {now : Instant}
    (later : ∀ d, s.cancelAt = some d → now < d) : s.isCancelled now = false := by
  unfold Signals.isCancelled
  cases due : s.cancelAt with
  | none => rfl
  | some d =>
    have toCome := later d due
    simpa using toCome

section Waits

variable {J : World σ → Prop}

open Run (Contract)

/-- Sleeping keeps what lasts, and ends with the next alarm. -/
theorem Run.Contract.sleepUntil {ω : Type} {alarms : List (Alarm ω)} {deadline : Option Instant}
    (lasts : World.Lasts J deadline)
    (covered : ∀ d, deadline = some d → ∃ a ∈ alarms, a.due = some d) (t : Instant) :
    Contract (fun w => J w ∧ t = w.now) (Run.sleepUntil alarms)
      (fun meaning w => J w ∧ t ≤ w.now ∧ Alarm.next t alarms = some (w.now, meaning))
      fun e w => J w ∧ e = .stalled := by
  rintro w ⟨before, rfl⟩
  unfold Run.sleepUntil
  cases first : Alarm.next w.now alarms with
  | none => exact ⟨before, rfl⟩
  | some found =>
    obtain ⟨u, meaning⟩ := found
    obtain ⟨notPast, least⟩ := Alarm.next_le first
    refine ⟨lasts w u before notPast fun d isSet => ?_, notPast, rfl⟩
    obtain ⟨a, mem, due⟩ := covered d isSet
    exact least a mem d due

/-- What may cut a submission short from outside. -/
inductive Submission.Limits.Cuts (l : Submission.Limits) : Halt → Prop
  | cancelled : Cuts l (.failed (.cancelled l.workspace))
  | expired {d : Instant} {e : ProvisionError} (isSet : l.deadline = some (d, e)) :
      Cuts l (.failed e)
  | stalled : Cuts l .stalled

/-- **A wait during a submission** keeps what lasts up to the deadline, and goes on only if the
cancellation is still to come. -/
theorem Submission.Limits.pause_contract {l : Submission.Limits}
    (lasts : World.Lasts J (l.deadline.map (·.1))) (due : Option Instant) :
    Contract J (l.pause due) (fun _ w => J w ∧ l.signals.isCancelled w.now = false)
      fun e w => J w ∧ l.Cuts e := by
  refine Contract.now.bind fun t => ?_
  have covered : ∀ d, l.deadline.map (·.1) = some d →
      ∃ a ∈ l.alarms t due, a.due = some d := by
    intro d isSet
    refine ⟨⟨l.deadline.map (·.1), .expired⟩, ?_, isSet⟩
    unfold Submission.Limits.alarms
    split <;> simp
  refine ((Contract.sleepUntil lasts covered t).weaken (fun _ => id) (fun _ _ => id) ?_).bind
    fun wake => ?_
  · rintro e w ⟨holds, rfl⟩
    exact ⟨holds, .stalled⟩
  · cases wake with
    | due =>
      refine .pure fun w ⟨holds, notPast, next⟩ => ⟨holds, ?_⟩
      -- The cancellation comes first in the list, whichever alarms follow it.
      have later : ∀ d, l.signals.cancelAt = some d → w.now < max t d := by
        unfold Submission.Limits.alarms at next
        split at next <;> exact (Alarm.next_cons_of_ne next nofun).2
      exact Signals.isCancelled_eq_false fun d isSet => Alarm.lt_due notPast (later d isSet)
    | cancelled => exact .halt fun w h => ⟨h.1, .cancelled⟩
    | expired =>
      cases isSet : l.deadline with
      | none => exact .halt fun w h => ⟨h.1, .stalled⟩
      | some due => exact .halt fun w h => ⟨h.1, .expired isSet⟩
    | abandoned => exact .halt fun w h => ⟨h.1, .stalled⟩

theorem Submission.Limits.check_contract {l : Submission.Limits} :
    Contract J l.check (fun _ w => J w ∧ l.signals.isCancelled w.now = false)
      fun e w => J w ∧ l.Cuts e := by
  refine Contract.now.bind fun t => ?_
  split
  · exact .halt fun w h => ⟨h.1, .cancelled⟩
  · next running =>
    refine .pure fun w h => ⟨h.1, ?_⟩
    rw [← h.2]
    exact eq_false_of_ne_true running

/-- A wait for readiness is neither cancelled nor past its deadline. -/
structure Rounds.Limits.IsOpen (l : Rounds.Limits) (now : Instant) : Prop where
  notCancelled : l.signals.isCancelled now = false
  lt_deadline : now < l.deadline

/-- **A wait between looks** keeps what lasts up to the deadline, and goes on only before the
deadline and the cancellation. -/
theorem Rounds.Limits.pause_contract {l : Rounds.Limits}
    (lasts : World.Lasts J (some l.deadline)) (outstanding : List ClaimKey)
    (due : Option Instant) :
    Contract J (l.pause outstanding due) (fun _ w => J w ∧ l.IsOpen w.now) fun _ => J := by
  have covered : ∀ d, some l.deadline = some d → ∃ a ∈ l.alarms due, a.due = some d :=
    fun d same => ⟨⟨some l.deadline, .expired⟩, by simp [Rounds.Limits.alarms], same⟩
  intro w before
  refine (((Contract.sleepUntil lasts covered w.now).weaken (fun _ => id) (fun _ _ => id)
    fun e w h => h.1).bind fun wake => ?_) w ⟨before, rfl⟩
  cases wake with
  | due =>
    refine .pure fun w' ⟨holds, notPast, next⟩ => ⟨holds, ?_⟩
    obtain ⟨next, cancelLater⟩ := Alarm.next_cons_of_ne next nofun
    obtain ⟨-, deadlineLater⟩ := Alarm.next_cons_of_ne next nofun
    refine ⟨Signals.isCancelled_eq_false fun d isSet => ?_, ?_⟩
    · exact Alarm.lt_due notPast (cancelLater d isSet)
    · exact Alarm.lt_due notPast (deadlineLater l.deadline rfl)
  | cancelled => exact .halt fun w h => h.1
  | expired => exact .halt fun w h => h.1
  | abandoned => exact .halt fun w h => h.1

theorem Rounds.Limits.check_contract {l : Rounds.Limits} (outstanding : List ClaimKey) :
    Contract J (l.check outstanding) (fun _ w => J w ∧ l.IsOpen w.now) fun _ => J := by
  refine Contract.now.bind fun t => ?_
  split
  · exact .halt fun w h => h.1
  · next running =>
    split
    · exact .halt fun w h => h.1
    · next early =>
      refine .pure fun w h => ⟨h.1, ?_⟩
      rw [← h.2]
      exact ⟨eq_false_of_ne_true running, Nat.lt_of_not_le early⟩

end Waits

/-! ## Calls -/

section Calls

variable {J : World σ → Prop} {isOpen : Instant → Prop} {took : α → Answer}

/-- What a call does when it goes on keeps `J`, at the instants at which it may go on. -/
def Resumes (J : World σ → Prop) (isOpen : Instant → Prop) (took : α → Answer)
    (finish : σ → σ × Option α) : Prop :=
  ∀ w, J w → isOpen w.now →
    (∀ a, (finish w.state).2 = some a →
      J (({ w with state := (finish w.state).1 } : World σ).leave (.took w.now (took a)))) ∧
    ((finish w.state).2 = none → J { w with state := (finish w.state).1 })

/-- `J` holds after what becomes of a call that has begun, once the answer is taken that it comes
to; and if it has to wait, `J` holds meanwhile. -/
def Progress.Upholds (J : World σ → Prop) (isOpen : Instant → Prop) (took : α → Answer)
    (w : World σ) : Progress σ α → Prop
  | .answered a => J (w.leave (.took w.now (took a)))
  | .unanswered => J w
  | .waiting _ _ finish => J w ∧ Resumes J isOpen took finish

/-- **A call leads from `P` to `J`** at the instants at which it may begin: where `P` holds before,
`J` holds once it is answered, and meanwhile if it has to wait. -/
def Call.Leads (P J : World σ → Prop) (isOpen : Instant → Prop) (call : Call) (took : α → Answer)
    (begin : Instant → σ → σ × Progress σ α) : Prop :=
  ∀ w, P w → isOpen w.now →
    (begin w.now w.state).2.Upholds J isOpen took (w.begun call begin)

/-- **A call upholds `J`** at the instants at which it may begin. -/
abbrev Call.Upholds (J : World σ → Prop) (isOpen : Instant → Prop) (call : Call)
    (took : α → Answer) (begin : Instant → σ → σ × Progress σ α) : Prop :=
  Call.Leads J J isOpen call took begin

/-- What a call upholds at any time it upholds at the instants at which it may begin. -/
theorem Call.Leads.restrict {P : World σ → Prop} {call : Call}
    {begin : Instant → σ → σ × Progress σ α}
    (h : Call.Leads P J (fun _ => True) call took begin) :
    Call.Leads P J isOpen call took begin := by
  intro w before _
  have after := h w before trivial
  revert after
  cases (begin w.now w.state).2 with
  | answered a => exact id
  | unanswered => exact id
  | waiting delay turn finish =>
    exact fun ⟨holds, resumes⟩ => ⟨holds, fun w' holds' _ => resumes w' holds' trivial⟩

/-- **Where only events count**, a call leads from `P` to `J` if its beginning does and if taking
its answer keeps `J`. -/
theorem Call.Leads.of_events {P : World σ → Prop} {call : Call}
    {begin : Instant → σ → σ × Progress σ α} (forget : ∀ w state, J w → J { w with state })
    (begins : ∀ w, P w → isOpen w.now → J (w.leave (.began w.now call)))
    (takes : ∀ w a, J w → isOpen w.now → J (w.leave (.took w.now (took a)))) :
    Call.Leads P J isOpen call took begin := by
  intro w before isNow
  have begun : J (w.begun call begin) := forget _ _ (begins w before isNow)
  cases (begin w.now w.state).2 with
  | answered a => exact takes _ a begun isNow
  | unanswered => exact begun
  | waiting delay turn finish =>
    refine ⟨begun, fun w' holds isNow' => ⟨fun a _ => ?_, fun _ => forget _ _ holds⟩⟩
    exact takes _ a (forget _ _ holds) isNow'

namespace Run.Contract

variable {E : Halt → World σ → Prop} {pause : Option Instant → Run σ Unit}

/-- A call that has begun is seen through, and its answer is the last event. -/
theorem complete
    (pauses : ∀ due, Contract J (pause due) (fun _ w => J w ∧ isOpen w.now) E)
    (stalls : ∀ w, J w → E .stalled w) (progress : Progress σ α) :
    Contract (fun w => progress.Upholds J isOpen took w ∧ isOpen w.now)
      (Run.complete pause took progress)
      (fun a w => (J w ∧ isOpen w.now) ∧ w.trace.head? = some (.took w.now (took a))) E := by
  have never : Contract J (pause none >>= fun _ => (Run.halt .stalled : Run σ α))
      (fun a w => (J w ∧ isOpen w.now) ∧ w.trace.head? = some (.took w.now (took a))) E :=
    (pauses none).bind fun _ => .halt fun w h => stalls w h.1
  cases progress with
  | answered a =>
    rintro w ⟨holds, isNow⟩
    exact ⟨⟨holds, isNow⟩, rfl⟩
  | unanswered => exact never.weaken (fun w h => h.1) (fun _ _ => id) fun _ _ => id
  | waiting delay turn finish =>
    rintro w ⟨⟨holds, resumes⟩, -⟩
    unfold Run.complete
    dsimp only
    rw [bind_of_ok (now_apply w)]
    refine ((pauses (some (w.now + delay))).bind fun _ => ?_) w holds
    rintro v ⟨holds, isNow⟩
    obtain ⟨answered, lost⟩ := resumes v holds isNow
    have acted : Run.act finish v =
        (.ok (finish v.state).2, { v with state := (finish v.state).1 }) := rfl
    rw [bind_of_ok acted]
    cases found : (finish v.state).2 with
    | some a => exact ⟨⟨answered a found, isNow⟩, rfl⟩
    | none => exact never _ (lost found)

/-- **A call** that leads from `P` to `J` is seen through, and its answer is the last event; or the
run ends as a wait does. -/
theorem perform {P : World σ → Prop} {call : Call} {begin : Instant → σ → σ × Progress σ α}
    (pauses : ∀ due, Contract J (pause due) (fun _ w => J w ∧ isOpen w.now) E)
    (stalls : ∀ w, J w → E .stalled w) (leads : Call.Leads P J isOpen call took begin) :
    Contract (fun w => P w ∧ isOpen w.now) (Run.perform pause call took begin)
      (fun a w => (J w ∧ isOpen w.now) ∧ w.trace.head? = some (.took w.now (took a))) E := by
  intro w ⟨before, isNow⟩
  exact complete pauses stalls (begin w.now w.state).2 (w.begun call begin)
    ⟨leads w before isNow, isNow⟩

end Run.Contract

end Calls

end NodeProvisioning
