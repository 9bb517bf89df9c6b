import NodeProvisioning.Run.Provisioning

/-!
# Histories of runs

A run leaves its trace latest event first, because that is how it grows.  Everything that is said
about a whole run is said about its *history*, the same events in the order in which they happened,
and about a few readings of it: the claims whose creation began and when, the claims at which a look
began, the answers that were taken, and what happened to the looks at one claim.

An answer to a look is read here without reference to what a run makes of it: it shows the claim
ready, it settles nothing, or it is fatal.  `Observation.of_eq_ready_iff` and its companions say
that a wait sorts answers in exactly this way, and `Submission.verdict_eq_ok_iff` that a
submission does.

## Main definitions

* `World.start`, `World.history`, `World.Leads` — where a run begins, and what it adds to the past
* `Run.Quiet` — a run that changes nothing but the clock
* `Sighting.isReady`, `Sighting.isInconclusive`, `Sighting.isFatal` — what an answer shows
* `History.creations`, `History.sentAt`, `History.looks`, `History.sightings`,
  `History.looksAt`, `History.latest` — readings of a history

## Main statements

* `Run.Quiet.bind` and the lemmas after it — waiting changes nothing but the clock
* `Run.bind_cases` — a sequence of two runs ends in the first or in the second
* `History.split_cases` — a point of a history in two parts lies in one of them
-/

namespace NodeProvisioning

/-! ## What a run adds to the past -/

namespace World

variable {σ : Type} {w w₁ w₂ : World σ} {before after : List Event}

/-- A world in which nothing has happened yet. -/
def start (now : Instant) (state : σ) : World σ := ⟨now, state, []⟩

/-- What has happened, the earliest event first. -/
def history (w : World σ) : List Event := w.trace.reverse

/-- `w₁` has the past of `w`, and after it `events`. -/
def Leads (w : World σ) (events : List Event) (w₁ : World σ) : Prop :=
  w₁.history = w.history ++ events

@[simp] theorem history_start (now : Instant) (state : σ) : (start now state).history = [] := rfl

theorem Leads.history_of_start {now : Instant} {state : σ} {events : List Event}
    (h : (start now state).Leads events w) : w.history = events := h

theorem Leads.of_trace_eq (h : w₁.trace = w.trace) : w.Leads [] w₁ := by
  simp [Leads, history, h]

theorem Leads.refl (w : World σ) : w.Leads [] w := .of_trace_eq rfl

theorem Leads.of_trace_cons {event : Event} (h : w₁.trace = event :: w.trace) :
    w.Leads [event] w₁ := by
  simp [Leads, history, h]

theorem Leads.trans (h₁ : w.Leads before w₁) (h₂ : w₁.Leads after w₂) :
    w.Leads (before ++ after) w₂ := by
  unfold Leads at *
  rw [h₂, h₁, List.append_assoc]

end World

/-! ## Runs in sequence, and quiet runs -/

namespace Run

variable {σ α β : Type} {w w' : World σ}

/-- **A sequence of two runs**: the first gives a value and the second ends as the whole does, or
the first ends without a value and the second never begins. -/
theorem bind_cases {x : Run σ α} {f : α → Run σ β} {r : Except Halt β}
    (h : (x >>= f) w = (r, w')) :
    (∃ a w₁, x w = (.ok a, w₁) ∧ f a w₁ = (r, w')) ∨
      (∃ e, x w = (.error e, w') ∧ r = .error e) := by
  rw [bind_apply] at h
  rcases hx : x w with ⟨_ | a, w₁⟩
  · rw [hx] at h
    cases h
    exact .inr ⟨_, rfl, rfl⟩
  · rw [hx] at h
    exact .inl ⟨a, w₁, rfl, h⟩

/-- After a run that gave a value the second begins with it. -/
theorem bind_of_ok {x : Run σ α} {f : α → Run σ β} {a : α} (h : x w = (.ok a, w')) :
    (x >>= f) w = f a w' := by
  rw [bind_apply, h]

/-- After a run that gave no value nothing comes. -/
theorem bind_of_error {x : Run σ α} {f : α → Run σ β} {e : Halt} (h : x w = (.error e, w')) :
    (x >>= f) w = (.error e, w') := by
  rw [bind_apply, h]

/-- A wait without an alarm to come stalls. -/
theorem sleepUntil_error {ω : Type} {alarms : List (Alarm ω)} {e : Halt}
    (h : sleepUntil alarms w = (.error e, w')) : e = .stalled := by
  unfold sleepUntil at h
  split at h <;> cases h
  rfl

/-- **A quiet run** changes nothing but the clock. -/
def Quiet (x : Run σ α) : Prop := ∀ w, (x w).2.trace = w.trace ∧ (x w).2.state = w.state

namespace Quiet

theorem pure (a : α) : Quiet (Pure.pure a : Run σ α) := fun _ => ⟨rfl, rfl⟩

theorem halt (e : Halt) : Quiet (Run.halt e : Run σ α) := fun _ => ⟨rfl, rfl⟩

theorem now : Quiet (Run.now : Run σ Instant) := fun _ => ⟨rfl, rfl⟩

theorem sleepUntil {ω : Type} (alarms : List (Alarm ω)) :
    Quiet (Run.sleepUntil alarms : Run σ ω) := by
  intro w
  unfold Run.sleepUntil
  split <;> exact ⟨rfl, rfl⟩

theorem bind {x : Run σ α} {f : α → Run σ β} (first : Quiet x) (second : ∀ a, Quiet (f a)) :
    Quiet (x >>= f) := by
  intro w
  obtain ⟨trace, state⟩ := first w
  rw [bind_apply]
  rcases ran : x w with ⟨e | a, w₁⟩ <;> rw [ran] at trace state
  · exact ⟨trace, state⟩
  · obtain ⟨trace', state'⟩ := second a w₁
    exact ⟨trace'.trans trace, state'.trans state⟩

theorem leads {x : Run σ α} {r : Except Halt α} (h : Quiet x) (ran : x w = (r, w')) :
    w.Leads [] w' := by
  have same := (h w).1
  rw [ran] at same
  exact .of_trace_eq same

end Quiet

end Run

section Waiting

variable {σ : Type}

open Run (Quiet)

theorem Rounds.Limits.pause_quiet (l : Rounds.Limits) (outstanding : List ClaimKey)
    (due : Option Instant) : Quiet (l.pause outstanding due : Run σ Unit) := by
  refine (Quiet.sleepUntil _).bind fun wake => ?_
  cases wake with
  | due => exact .pure ()
  | cancelled => exact .halt _
  | expired => exact .halt _
  | abandoned => exact .halt _

theorem Rounds.Limits.check_quiet (l : Rounds.Limits) (outstanding : List ClaimKey) :
    Quiet (l.check outstanding : Run σ Unit) := by
  refine Quiet.now.bind fun t => ?_
  split
  · exact .halt _
  · split
    · exact .halt _
    · exact .pure ()

theorem Rounds.deadlineIn_quiet (timeout : Duration) :
    Quiet (Rounds.deadlineIn timeout : Run σ Instant) := by
  refine Quiet.now.bind fun t => ?_
  split
  · exact .pure _
  · exact .halt _

theorem Submission.Limits.pause_quiet (l : Submission.Limits) (due : Option Instant) :
    Quiet (l.pause due : Run σ Unit) := by
  refine Quiet.now.bind fun t => (Quiet.sleepUntil _).bind fun wake => ?_
  cases wake with
  | due => exact .pure ()
  | cancelled => exact .halt _
  | expired => cases l.deadline <;> exact .halt _
  | abandoned => exact .halt _

theorem Submission.Limits.check_quiet (l : Submission.Limits) : Quiet (l.check : Run σ Unit) := by
  refine Quiet.now.bind fun t => ?_
  split
  · exact .halt _
  · exact .pure ()

theorem Submission.settle_quiet (v : Except ProvisionError Unit) :
    Quiet (Submission.settle v : Run σ Unit) := by
  cases v with
  | ok _ => exact .pure ()
  | error e => exact .halt _

theorem Submission.linger_quiet (settleDelay : Duration) (l : Submission.Limits) :
    Quiet (Submission.linger settleDelay l : Run σ Unit) := by
  unfold Submission.linger
  split
  · exact .pure ()
  · exact Quiet.now.bind fun t => l.pause_quiet _

end Waiting

/-! ## What an answer shows -/

/-- What came back for a look at a claim. -/
abbrev Sighting : Type := Except RequestError NodeClaim

namespace Sighting

/-- The claim is there and ready. -/
def isReady : Sighting → Bool
  | .ok claim => claim.state = .ready
  | .error _ => false

/-- The claim is there and pending, or could not be looked at for now. -/
def isInconclusive : Sighting → Bool
  | .ok claim => claim.state = .pending
  | .error e => e.isTransient

/-- The claim has failed, or looking at it has failed for good. -/
def isFatal : Sighting → Bool
  | .ok claim => match claim.state with
    | .failed _ => true
    | _ => false
  | .error e => !e.isTransient

/-- An answer that is neither ready nor fatal settles nothing. -/
theorem isInconclusive_of_not {a : Sighting} (ready : a.isReady = false)
    (fatal : a.isFatal = false) : a.isInconclusive = true := by
  rcases a with e | claim
  · simpa [isFatal, isInconclusive] using fatal
  · cases hs : claim.state <;> simp_all [isReady, isFatal, isInconclusive]

/-- What settles nothing is not fatal. -/
theorem isFatal_of_isInconclusive {a : Sighting} (pending : a.isInconclusive = true) :
    a.isFatal = false := by
  rcases a with e | claim
  · simpa [isFatal, isInconclusive] using pending
  · simp only [isInconclusive, decide_eq_true_eq] at pending
    simp [isFatal, pending]

/-- What settles nothing does not show a claim ready. -/
theorem isReady_of_isInconclusive {a : Sighting} (pending : a.isInconclusive = true) :
    a.isReady = false := by
  rcases a with e | claim
  · rfl
  · simp only [isInconclusive, decide_eq_true_eq] at pending
    simp [isReady, pending]

/-- What shows a claim ready is not fatal. -/
theorem isFatal_of_isReady {a : Sighting} (ready : a.isReady = true) : a.isFatal = false := by
  rcases a with e | claim
  · cases ready
  · simp only [isReady, decide_eq_true_eq] at ready
    simp [isFatal, ready]

end Sighting

namespace Observation

variable {key : ClaimKey} {a : Sighting}

theorem of_eq_ready_iff : Observation.of key a = .ready ↔ Sighting.isReady a = true := by
  rcases a with e | claim
  · cases he : e.isTransient <;> simp [Observation.of, Sighting.isReady, he]
  · cases hs : claim.state <;> simp [Observation.of, Sighting.isReady, hs]

theorem of_eq_pending_iff : Observation.of key a = .pending ↔ Sighting.isInconclusive a = true := by
  rcases a with e | claim
  · cases he : e.isTransient <;> simp [Observation.of, Sighting.isInconclusive, he]
  · cases hs : claim.state <;> simp [Observation.of, Sighting.isInconclusive, hs]

theorem isFatal_of_terminal {e : ProvisionError} (h : Observation.of key a = .terminal e) :
    Sighting.isFatal a = true := by
  rcases a with e' | claim
  · cases he : e'.isTransient <;> simp_all [Observation.of, Sighting.isFatal]
  · cases hs : claim.state <;> simp_all [Observation.of, Sighting.isFatal]

end Observation

/-- A submission goes on after every look but a fatal one. -/
theorem Submission.verdict_eq_ok_iff {name : String} {a : Sighting} :
    Submission.verdict name a = .ok () ↔ Sighting.isFatal a = false := by
  rcases a with e | claim
  · cases he : e.isTransient <;> simp [Submission.verdict, Sighting.isFatal, he]
  · cases hs : claim.state <;> simp [Submission.verdict, Sighting.isFatal, hs]

/-- A look is fatal to a submission with the error that ends a wait. -/
theorem Submission.verdict_eq_error_iff (ns : String) {name : String} {a : Sighting}
    {e : ProvisionError} :
    Submission.verdict name a = .error e ↔ Observation.of ⟨ns, name⟩ a = .terminal e := by
  rcases a with source | claim
  · cases he : source.isTransient <;> simp [Submission.verdict, Observation.of, he]
  · cases hs : claim.state <;> simp [Submission.verdict, Observation.of, hs]

/-! ## Readings of a history -/

/-- What may happen to a look at a claim. -/
inductive Glimpse where
  /-- It began. -/
  | begun
  /-- Its answer was taken. -/
  | answered (a : Sighting)

/-- It was answered, and the answer shows the claim ready. -/
def Glimpse.isReady : Glimpse → Bool
  | .begun => false
  | .answered a => a.isReady

/-- What an answered look leaves. -/
def Sighting.exchange (a : Sighting) : List Glimpse := [.begun, .answered a]

namespace History

/-- The claims whose creation began, in order. -/
def creations (events : List Event) : List NodeClaim :=
  events.filterMap fun
    | .began _ (.create claim) => some claim
    | _ => none

/-- The claims at which a look began, in order. -/
def looks (events : List Event) : List ClaimKey :=
  events.filterMap fun
    | .began _ (.get key) => some key
    | _ => none

/-- The answers to looks that were taken, in order. -/
def sightings (events : List Event) : List (ClaimKey × Sighting) :=
  events.filterMap fun
    | .took _ (.get key a) => some (key, a)
    | _ => none

/-- What happened to the looks at one claim, in order. -/
def looksAt (key : ClaimKey) (events : List Event) : List Glimpse :=
  events.filterMap fun
    | .began _ (.get k) => if k = key then some .begun else none
    | .took _ (.get k a) => if k = key then some (.answered a) else none
    | _ => none

/-- The last thing that happened to the looks at one claim. -/
def latest (key : ClaimKey) (events : List Event) : Option Glimpse := (looksAt key events).getLast?

/-- The instants at which a creation began, in order. -/
def sentAt (events : List Event) : List Instant :=
  events.filterMap fun
    | .began t (.create _) => some t
    | _ => none

variable (before after : List Event) (key : ClaimKey)

@[simp] theorem creations_append :
    creations (before ++ after) = creations before ++ creations after :=
  List.filterMap_append

@[simp] theorem looks_append : looks (before ++ after) = looks before ++ looks after :=
  List.filterMap_append

@[simp] theorem sightings_append :
    sightings (before ++ after) = sightings before ++ sightings after :=
  List.filterMap_append

@[simp] theorem looksAt_append :
    looksAt key (before ++ after) = looksAt key before ++ looksAt key after :=
  List.filterMap_append

/-- What happened last happened in the second part, or nothing happened in it. -/
theorem latest_append :
    latest key (before ++ after) = (latest key after).or (latest key before) := by
  rw [latest, looksAt_append, List.getLast?_append]
  rfl

@[simp] theorem creations_nil : creations [] = [] := rfl
@[simp] theorem looks_nil : looks [] = [] := rfl
@[simp] theorem sightings_nil : sightings [] = [] := rfl
@[simp] theorem looksAt_nil : looksAt key [] = [] := rfl

/-- A point of a history that comes in two parts lies in the second or in the first. -/
theorem split_cases {first second before after : List Event} {event : Event}
    (split : first ++ second = before ++ event :: after) :
    (∃ between, before = first ++ between ∧ second = between ++ event :: after) ∨
      ∃ between, first = before ++ event :: between := by
  rcases List.append_eq_append_iff.1 split with found | ⟨between, rfl, same⟩
  · exact .inl found
  · cases between with
    | nil => exact .inl ⟨[], by simp, same.symm⟩
    | cons first between =>
      cases same
      exact .inr ⟨between, rfl⟩

/-- An answer about a claim was taken exactly when it is among what happened to the looks at it. -/
theorem mem_sightings_iff {key : ClaimKey} {a : Sighting} {events : List Event} :
    (key, a) ∈ sightings events ↔ Glimpse.answered a ∈ looksAt key events := by
  simp only [sightings, looksAt, List.mem_filterMap]
  constructor
  · rintro ⟨event, mem, found⟩
    refine ⟨event, mem, ?_⟩
    split at found <;> cases found
    simp
  · rintro ⟨event, mem, found⟩
    refine ⟨event, mem, ?_⟩
    split at found
    · split at found <;> cases found
    · split at found <;> cases found
      simp_all
    · cases found

/-- An answer about a claim is among the answers exactly when it was taken at some time. -/
theorem mem_sightings_iff_took {key : ClaimKey} {a : Sighting} {events : List Event} :
    (key, a) ∈ sightings events ↔ ∃ t, .took t (.get key a) ∈ events := by
  simp only [sightings, List.mem_filterMap]
  constructor
  · rintro ⟨event, mem, found⟩
    split at found <;> cases found
    exact ⟨_, mem⟩
  · rintro ⟨t, mem⟩
    exact ⟨_, mem, rfl⟩

end History

end NodeProvisioning
