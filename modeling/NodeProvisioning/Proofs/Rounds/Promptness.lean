import NodeProvisioning.Proofs.Rounds.Failure

/-!
# A fatal answer ends a wait at once

A step of a wait lets time pass at most once, and only before it calls the backend or takes an
answer.  So whatever a step leaves in the history it leaves at the instant at which it ends
(`Rounds.advance_prompt`).  The step that takes a fatal answer is the last one, for a wait does not
go on after it; and so the wait is over at the instant of that answer, however far the next round or
the deadline would have been.

## Main definitions

* `Run.Immediate` — a run that takes no time
* `Run.Prompt` — a run that leaves nothing before the instant at which it ends

## Main statements

* `Run.Immediate.bind`, `Run.Prompt.of_quiet_bind` — runs in sequence
* `Rounds.advance_prompt` — every step of a wait is prompt
* `Rounds.awaitUntil_of_terminal` — a fatal answer is the last thing that happens in a wait
-/

namespace NodeProvisioning

namespace Run

variable {σ α β : Type} {x : Run σ α} {f : α → Run σ β} {w w' : World σ} {r : Except Halt α}

/-- **An immediate run** takes no time, and what it leaves is of its instant. -/
def Immediate (x : Run σ α) : Prop :=
  ∀ w, (x w).2.now = w.now ∧ ∃ more, w.Leads more (x w).2 ∧ ∀ event ∈ more, event.time = w.now

/-- **A prompt run** may let time pass, but leaves nothing before the instant at which it ends. -/
def Prompt (x : Run σ α) : Prop :=
  ∀ w, ∃ more, w.Leads more (x w).2 ∧ ∀ event ∈ more, event.time = (x w).2.now

namespace Immediate

theorem pure (a : α) : Immediate (Pure.pure a : Run σ α) :=
  fun w => ⟨rfl, [], .refl w, by simp⟩

theorem halt (e : Halt) : Immediate (Run.halt e : Run σ α) :=
  fun w => ⟨rfl, [], .refl w, by simp⟩

theorem now : Immediate (Run.now : Run σ Instant) :=
  fun w => ⟨rfl, [], .refl w, by simp⟩

theorem act (f : σ → σ × α) : Immediate (Run.act f) :=
  fun _ => ⟨rfl, [], .of_trace_eq rfl, by simp⟩

/-- An event of this instant is left at this instant. -/
theorem note {f : Instant → Event} (isNow : ∀ t, (f t).time = t) :
    Immediate (Run.note f : Run σ Unit) :=
  fun w => ⟨rfl, [f w.now], .of_trace_cons rfl, by simp [isNow]⟩

/-- **Immediate runs in sequence.** -/
theorem bind (first : Immediate x) (second : ∀ a, Immediate (f a)) : Immediate (x >>= f) := by
  intro w
  obtain ⟨still, before, led, early⟩ := first w
  rw [bind_apply]
  rcases ran : x w with ⟨e | a, w₁⟩ <;> rw [ran] at still led
  · exact ⟨still, before, led, early⟩
  · obtain ⟨still', after, led', late⟩ := second a w₁
    refine ⟨still'.trans still, before ++ after, led.trans led', fun event mem => ?_⟩
    rcases List.mem_append.1 mem with mem | mem
    · exact early event mem
    · exact (late event mem).trans still

theorem prompt (h : Immediate x) : Prompt x := by
  intro w
  obtain ⟨still, more, led, isNow⟩ := h w
  exact ⟨more, led, fun event mem => (isNow event mem).trans still.symm⟩

end Immediate

namespace Prompt

/-- **Time passes first**, and nothing happens meanwhile. -/
theorem of_quiet_bind (first : Quiet x) (second : ∀ a, Immediate (f a)) : Prompt (x >>= f) := by
  intro w
  rw [bind_apply]
  rcases ran : x w with ⟨e | a, w₁⟩
  · exact ⟨[], first.leads ran, by simp⟩
  · obtain ⟨more, led, isNow⟩ := (second a).prompt w₁
    exact ⟨more, (first.leads ran).trans led, isNow⟩

/-- What a prompt run has left is of the instant at which it ended. -/
theorem time_eq {more : List Event} {event : Event} (h : Prompt x) (ran : x w = (r, w'))
    (led : w.Leads more w') (mem : event ∈ more) : event.time = w'.now := by
  obtain ⟨left, led', isNow⟩ := h w
  rw [ran] at led' isNow
  obtain rfl : left = more := List.append_cancel_left (led'.symm.trans led)
  exact isNow event mem

end Prompt

end Run

namespace Rounds

open History
open Run (Immediate Prompt)

variable {σ : Type} {b : Backend σ}

theorem take_immediate (outstanding : List ClaimKey) (key : ClaimKey) (a : Sighting) :
    Immediate (take outstanding key a : Run σ (List ClaimKey)) := by
  refine (Immediate.note fun t => rfl).bind fun _ => ?_
  cases consume outstanding key a with
  | ok left => exact .pure left
  | error e => exact .halt _

theorem begin_immediate (key : ClaimKey) : Immediate (begin b key) := by
  refine (Immediate.note fun t => rfl).bind fun _ => Immediate.now.bind fun t =>
    (Immediate.act _).bind fun progress => ?_
  cases progress <;> exact .pure _

/-- **Every step of a wait is prompt.** -/
theorem advance_prompt (pollInterval : Duration) (l : Limits) (p : Standing σ) :
    Prompt (advance b pollInterval l p) := by
  obtain ⟨outstanding, stage⟩ := p
  cases stage with
  | opening => exact .of_quiet_bind (l.check_quiet _) fun _ => .pure _
  | starting ahead looks =>
    cases ahead with
    | nil => exact (Immediate.pure _).prompt
    | cons key ahead =>
      refine ((begin_immediate key).bind fun began => ?_).prompt
      cases began with
      | inl a => exact (take_immediate outstanding key a).bind fun _ => .pure _
      | inr look => exact .pure _
  | collecting lost looks =>
    cases looks with
    | cons look looks =>
      rw [advance]
      cases look.due with
      | none => exact (Immediate.pure _).prompt
      | some t =>
        refine .of_quiet_bind (l.pause_quiet _ _) fun _ => (Immediate.act _).bind fun answer => ?_
        cases answer with
        | some a => exact (take_immediate outstanding look.key a).bind fun _ => .pure _
        | none => exact .pure _
    | nil =>
      cases lost with
      | nil => exact (Immediate.pure _).prompt
      | cons key lost => exact .of_quiet_bind (l.pause_quiet _ _) fun _ => .halt _
  | resting =>
    -- The interval is counted from the clock, so the world comes first.
    intro w
    exact Prompt.of_quiet_bind (l.pause_quiet outstanding _) (fun _ => .pure _) w

/-! ## The last answer -/

variable {pollInterval : Duration} {signals : Signals} {workspace : String} {deadline : Instant}
variable {keys : List ClaimKey} {key : ClaimKey} {a : Sighting} {e : ProvisionError} {t : Instant}

/-- Where all answers were harmless none was fatal. -/
theorem not_took_of_harmless {events : List Event}
    (harmless : ∀ s ∈ sightings events, Sighting.isFatal s.2 = false)
    (terminal : Observation.of key a = .terminal e) : .took t (.get key a) ∉ events := by
  intro mem
  have fatal := Observation.isFatal_of_terminal terminal
  rw [harmless _ (mem_sightings_iff_took.2 ⟨t, mem⟩)] at fatal
  cases fatal

/-- **A fatal answer ends a wait** as its last event, with the error that it carries. -/
theorem Ending.of_terminal {l : Limits} {r : Except Halt Unit} {events : List Event}
    (h : Ending l keys r events) (mem : .took t (.get key a) ∈ events)
    (terminal : Observation.of key a = .terminal e) :
    r = .error (.failed e) ∧ events.getLast? = some (.took t (.get key a)) := by
  cases h with
  | ready tally => exact absurd mem (not_took_of_harmless tally.harmless terminal)
  | cut tally cuts => exact absurd mem (not_took_of_harmless tally.harmless terminal)
  | fatal tally found =>
    rcases List.mem_append.1 mem with early | late
    · exact absurd early (not_took_of_harmless tally.harmless terminal)
    · cases List.mem_singleton.1 late
      cases found.symm.trans terminal
      exact ⟨rfl, List.getLast?_concat⟩

/-- **A fatal answer is the last thing that happens in a wait**: the wait ends with the error that
the answer carries, and at the instant at which the answer was taken. -/
theorem awaitUntil_of_terminal {now : Instant} {state : σ} {r : Except Halt Unit} {w : World σ}
    (ran : awaitUntil b pollInterval signals workspace deadline keys (.start now state) = (r, w))
    (mem : .took t (.get key a) ∈ w.history) (terminal : Observation.of key a = .terminal e) :
    r = .error (.failed e) ∧ w.history.getLast? = some (.took t (.get key a)) ∧ w.now = t := by
  obtain ⟨failed, last⟩ := (awaitUntil_start_ending ran).of_terminal mem terminal
  refine ⟨failed, last, ?_⟩
  -- The answer was not taken before the last step, so the last step took it.
  rcases awaitUntil_stops ran with ⟨-, -, rfl⟩ | ⟨some, ⟨y, reached, step⟩ | ⟨stalled, p, reached⟩⟩
  · cases mem
  · obtain ⟨before, led, sound⟩ := reached.sound (.first some)
    obtain ⟨more, leads, -⟩ := advance_outcome sound step
    rw [(led.trans leads).history_of_start] at mem
    rcases List.mem_append.1 mem with early | late
    · exact absurd early (not_took_of_harmless sound.tally.harmless terminal)
    · exact ((advance_prompt _ _ _).time_eq step leads late).symm
  · rw [failed] at stalled
    cases stalled

end Rounds

end NodeProvisioning
