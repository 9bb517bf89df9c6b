import NodeProvisioning.Proofs.Run.History

/-!
# How claims are submitted

A claim that gets through its submission leaves four events: its creation begins and is answered,
then a look at it begins and is answered.  A submission that stops leaves a beginning of these
four.  Claims are submitted one after the other, so what several leave is what each of them
leaves, in order, up to the one that stopped.

## Main definitions

* `Passage` — what is answered while a claim is submitted, and when
* `Cleared` — a history in which some claims, and nothing else, got through
* `Submitted` — how the submission of several claims may end, and after which history

## Main statements

* `createAndCheck_cases` — how the submission of one claim ends
* `submitAll_submitted` — how the submission of several claims ends
* `Submitted.before_creation` — what precedes the creation of a claim
-/

namespace NodeProvisioning

open Run (bind_cases)

/-! ## One call -/

section Perform

variable {σ α : Type} {w w' : World σ}

/-- Seeing a call through leaves its answer, if it comes to one. -/
theorem Run.complete_cases {pause : Option Instant → Run σ Unit} {took : α → Answer}
    (quiet : ∀ due, Run.Quiet (pause due)) (progress : Progress σ α)
    {r : Except Halt α} (h : Run.complete pause took progress w = (r, w')) :
    (∃ a t, r = .ok a ∧ w.Leads [.took t (took a)] w') ∨ ∃ e, r = .error e ∧ w.Leads [] w' := by
  cases progress with
  | answered a =>
    cases h
    exact .inl ⟨a, _, rfl, .of_trace_cons rfl⟩
  | unanswered =>
    rcases bind_cases h with ⟨_, w₁, paused, rest⟩ | ⟨e, paused, rfl⟩
    · cases rest
      exact .inr ⟨_, rfl, (quiet _).leads paused⟩
    · exact .inr ⟨e, rfl, (quiet _).leads paused⟩
  | waiting delay turn finish =>
    rcases bind_cases h with ⟨t, w₁, clock, rest⟩ | ⟨e, clock, -⟩
    · cases clock
      rcases bind_cases rest with ⟨_, w₁, paused, after⟩ | ⟨e, paused, rfl⟩
      · rcases bind_cases after with ⟨found, w₂, acted, last⟩ | ⟨e, acted, -⟩
        · cases acted
          -- Going on changes the state, but leaves no event.
          have still : w.Leads [] { w₁ with state := (finish w₁.state).1 } :=
            ((quiet _).leads paused).trans (.of_trace_eq rfl)
          cases answer : (finish w₁.state).2 with
          | some a =>
            rw [answer] at last
            cases last
            exact .inl ⟨a, _, rfl, still.trans (.of_trace_cons rfl)⟩
          | none =>
            rw [answer] at last
            rcases bind_cases last with ⟨_, w₂, stuck, end_⟩ | ⟨e, stuck, rfl⟩
            · cases end_
              exact .inr ⟨_, rfl, still.trans ((quiet _).leads stuck)⟩
            · exact .inr ⟨e, rfl, still.trans ((quiet _).leads stuck)⟩
        · cases acted
      · exact .inr ⟨e, rfl, (quiet _).leads paused⟩
    · cases clock

/-- **A call** leaves its beginning, and its answer if it comes to one. -/
theorem Run.perform_cases {pause : Option Instant → Run σ Unit} {call : Call} {took : α → Answer}
    {begin : Instant → σ → σ × Progress σ α}
    (quiet : ∀ due, Run.Quiet (pause due)) {r : Except Halt α}
    (h : Run.perform pause call took begin w = (r, w')) :
    (∃ a t, r = .ok a ∧ w.Leads [.began w.now call, .took t (took a)] w') ∨
      ∃ e, r = .error e ∧ w.Leads [.began w.now call] w' := by
  let w₁ : World σ := ⟨w.now, (begin w.now w.state).1, .began w.now call :: w.trace⟩
  have began : w.Leads [.began w.now call] w₁ := .of_trace_cons rfl
  have rest : Run.complete pause took (begin w.now w.state).2 w₁ = (r, w') := h
  rcases Run.complete_cases quiet _ rest with ⟨a, t, rfl, leads⟩ | ⟨e, rfl, leads⟩
  · exact .inl ⟨a, t, rfl, began.trans leads⟩
  · exact .inr ⟨e, rfl, began.trans leads⟩

end Perform

namespace Submission

open History

/-! ## One claim -/

/-- What is answered while a claim is submitted, and when. -/
structure Passage where
  /-- When the creation begins. -/
  sentAt : Instant
  /-- When the creation is answered. -/
  placedAt : Instant
  /-- When the look begins. -/
  lookedAt : Instant
  /-- When the look is answered. -/
  seenAt : Instant
  /-- The answer to the creation. -/
  created : Except RequestError Unit
  /-- The answer to the look. -/
  latest : Sighting

namespace Passage

/-- What a claim leaves that is submitted in this way. -/
def events (p : Passage) (claim : NodeClaim) : List Event :=
  [.began p.sentAt (.create claim), .took p.placedAt (.create claim p.created),
    .began p.lookedAt (.get claim.key), .took p.seenAt (.get claim.key p.latest)]

/-- **The claim gets through**: it was created or is there already, and the look at it was not
fatal. -/
structure Passes (p : Passage) : Prop where
  isThere : p.created = .ok () ∨ ∃ e, p.created = .error e ∧ e.isAlreadyExists = true
  harmless : Sighting.isFatal p.latest = false

@[simp] theorem creations_events (p : Passage) (claim : NodeClaim) :
    creations (p.events claim) = [claim] := rfl

/-- The creation of the claim comes first, and no other creation after it. -/
theorem creation_first {p : Passage} {claim c : NodeClaim} {before after : List Event} {t : Instant}
    (split : before ++ .began t (.create c) :: after <+: p.events claim) :
    before = [] ∧ c = claim := by
  obtain ⟨more, same⟩ := split
  -- The other three events of a passage are not the beginning of a creation.
  match before with
  | [] =>
    injection same with first
    cases first
    exact ⟨rfl, rfl⟩
  | [_] => cases same
  | [_, _] => cases same
  | [_, _, _] => cases same
  | _ :: _ :: _ :: _ :: _ =>
    have lengths := congrArg List.length same
    simp [events] at lengths

end Passage

section Steps

variable {σ : Type} {w w' : World σ} {l : Limits}

/-- A claim that is created, or is there already, is accepted. -/
theorem accepted_eq_ok_iff {name : String} {a : Except RequestError Unit} :
    accepted name a = .ok () ↔ a = .ok () ∨ ∃ e, a = .error e ∧ e.isAlreadyExists = true := by
  rcases a with e | _
  · cases found : e.isAlreadyExists <;> simp [accepted, found]
  · simp [accepted]

/-- Settling a verdict changes nothing. -/
theorem settle_cases {v : Except ProvisionError Unit} {r : Except Halt Unit}
    (h : settle v w = (r, w')) :
    w' = w ∧ (v = .ok () ∧ r = .ok () ∨ ∃ e, v = .error e ∧ r = .error (.failed e)) := by
  rcases v with e | _ <;> cases h
  · exact ⟨rfl, .inr ⟨e, rfl, rfl⟩⟩
  · exact ⟨rfl, .inl ⟨rfl, rfl⟩⟩

/-- **A call whose answer is judged** leaves its beginning, and its answer if it comes to one; the
verdict on the answer decides how it ends. -/
theorem ask_cases {α : Type} {call : Call} {took : α → Answer}
    {begin : Instant → σ → σ × Progress σ α} {judge : α → Except ProvisionError Unit}
    {r : Except Halt Unit}
    (h : (Run.perform l.pause call took begin >>= fun a => settle (judge a)) w = (r, w')) :
    (∃ a t, w.Leads [.began w.now call, .took t (took a)] w' ∧
      (judge a = .ok () ∧ r = .ok () ∨ ∃ e, judge a = .error e ∧ r = .error (.failed e))) ∨
    ∃ e, r = .error e ∧ w.Leads [.began w.now call] w' := by
  rcases bind_cases h with ⟨a, w₁, performed, rest⟩ | ⟨e, performed, rfl⟩
  · obtain ⟨rfl, verdict⟩ := settle_cases rest
    rcases Run.perform_cases l.pause_quiet performed with ⟨a, t, same, leads⟩ | ⟨e, same, -⟩
    · cases same
      exact .inl ⟨a, t, leads, verdict⟩
    · cases same
  · rcases Run.perform_cases l.pause_quiet performed with ⟨a, t, same, -⟩ | ⟨e, -, leads⟩
    · cases same
    · exact .inr ⟨_, rfl, leads⟩

end Steps

/-- How the submission of one claim may end, and after which history. -/
inductive Attempt (claim : NodeClaim) : Except Halt Unit → List Event → Prop
  /-- The claim got through. -/
  | passed (p : Passage) (passes : p.Passes) : Attempt claim (.ok ()) (p.events claim)
  /-- The submission stopped, perhaps before it began. -/
  | stopped {events : List Event} (p : Passage) (e : Halt) (sub : events <+: p.events claim) :
      Attempt claim (.error e) events

section Attempts

variable {σ : Type} {b : Backend σ} {w w' : World σ} {settleDelay : Duration} {claim : NodeClaim}
variable {r : Except Halt Unit}

/-- **How the submission of one claim ends.** -/
theorem createAndCheck_attempt {l : Limits} (h : createAndCheck b settleDelay l claim w = (r, w')) :
    ∃ events, w.Leads events w' ∧ Attempt claim r events := by
  -- What is not answered yet may be answered in any way.
  let soFar (t₁ t₂ t₃ : Instant) (a : Except RequestError Unit) : Passage :=
    ⟨t₁, t₂, t₃, 0, a, .error .openLine⟩
  rcases bind_cases h with ⟨_, w₁, placed, rest⟩ | ⟨e, placed, rfl⟩
  · obtain ⟨a, t, first, ⟨isThere, -⟩ | ⟨e, -, same⟩⟩ | ⟨e, same, -⟩ := ask_cases placed
    · rcases bind_cases rest with ⟨_, w₂, lingered, last⟩ | ⟨e, lingered, rfl⟩
      · have before := first.trans ((linger_quiet _ _).leads lingered)
        obtain ⟨latest, t', second, verdict⟩ | ⟨e, rfl, second⟩ := ask_cases last
        · refine ⟨_, before.trans second, ?_⟩
          let p : Passage := ⟨w.now, t, w₂.now, t', a, latest⟩
          obtain ⟨harmless, rfl⟩ | ⟨e, -, rfl⟩ := verdict
          · exact .passed p ⟨accepted_eq_ok_iff.1 isThere, verdict_eq_ok_iff.1 harmless⟩
          · exact .stopped p _ (List.prefix_refl _)
        · exact ⟨_, before.trans second, .stopped (soFar w.now t w₂.now a) e ⟨[_], rfl⟩⟩
      · have before := first.trans ((linger_quiet _ _).leads lingered)
        exact ⟨_, before, .stopped (soFar w.now t 0 a) e ⟨[_, _], rfl⟩⟩
    · cases same
    · cases same
  · obtain ⟨a, t, leads, -⟩ | ⟨e, -, leads⟩ := ask_cases placed
    · exact ⟨_, leads, .stopped (soFar w.now t 0 a) e ⟨[_, _], rfl⟩⟩
    · exact ⟨_, leads, .stopped (soFar w.now 0 0 (.ok ())) _ ⟨[_, _, _], rfl⟩⟩

theorem submitUntil_attempt {signals : Signals} {deadline : Option (Instant × ProvisionError)}
    (h : submitUntil b settleDelay signals deadline claim w = (r, w')) :
    ∃ events, w.Leads events w' ∧ Attempt claim r events := by
  rcases bind_cases h with ⟨_, w₁, checked, rest⟩ | ⟨e, checked, rfl⟩
  · obtain ⟨events, leads, attempt⟩ := createAndCheck_attempt rest
    exact ⟨events, ((Limits.check_quiet _).leads checked).trans leads, attempt⟩
  · let p : Passage := ⟨0, 0, 0, 0, .ok (), .error .openLine⟩
    exact ⟨[], (Limits.check_quiet _).leads checked, .stopped p e List.nil_prefix⟩

end Attempts

/-! ## Several claims -/

/-- **In the history `events` these claims got through**, one after the other, and nothing else
happened. -/
inductive Cleared : List NodeClaim → List Event → Prop
  | nil : Cleared [] []
  | cons {claim : NodeClaim} {rest : List NodeClaim} {events : List Event} (p : Passage)
      (passes : p.Passes) (later : Cleared rest events) :
      Cleared (claim :: rest) (p.events claim ++ events)

theorem Cleared.creations_eq {claims : List NodeClaim} {events : List Event}
    (h : Cleared claims events) : creations events = claims := by
  induction h with
  | nil => rfl
  | cons p passes later ih =>
    rw [creations_append, ih, Passage.creations_events, List.singleton_append]

/-- The creation of each claim that got through was answered. -/
theorem Cleared.took_creation {claims : List NodeClaim} {events : List Event}
    (h : Cleared claims events) :
    ∀ claim ∈ claims, ∃ t a, .took t (.create claim a) ∈ events := by
  induction h with
  | nil => simp
  | @cons first rest events p passes later ih =>
    refine List.forall_mem_cons.2 ⟨⟨p.placedAt, p.created, ?_⟩, fun claim mem => ?_⟩
    · exact List.mem_append_left _ (List.mem_cons_of_mem _ List.mem_cons_self)
    · obtain ⟨t, a, found⟩ := ih claim mem
      exact ⟨t, a, List.mem_append_right _ found⟩

theorem Cleared.harmless {claims : List NodeClaim} {events : List Event}
    (h : Cleared claims events) : ∀ s ∈ sightings events, Sighting.isFatal s.2 = false := by
  induction h with
  | nil => simp
  | cons p passes later ih =>
    intro s mem
    rw [sightings_append] at mem
    rcases List.mem_append.1 mem with first | rest
    · rw [List.mem_singleton.1 first]
      exact passes.harmless
    · exact ih s rest

/-- What precedes the creation of a claim that got through is the way of those before it. -/
theorem Cleared.before_creation {claims : List NodeClaim} {events before after : List Event}
    {t : Instant} {c : NodeClaim} (h : Cleared claims events)
    (split : events = before ++ .began t (.create c) :: after) :
    ∃ done, done ++ [c] <+: claims ∧ Cleared done before := by
  induction h generalizing before with
  | nil => exact absurd split.symm (List.append_ne_nil_of_right_ne_nil _ (List.cons_ne_nil _ _))
  | cons p passes later ih =>
    -- The creation is one of the later claims', or else that of the first claim.
    rcases split_cases split with ⟨between, rfl, inLater⟩ | ⟨between, inFirst⟩
    · obtain ⟨done, sub, cleared⟩ := ih inLater
      exact ⟨_ :: done, (List.prefix_cons_inj _).2 sub, cleared.cons p passes⟩
    · obtain ⟨rfl, rfl⟩ := Passage.creation_first ⟨[], by rw [List.append_nil, ← inFirst]⟩
      exact ⟨[], ⟨_, rfl⟩, .nil⟩

/-- How the submission of several claims may end, and after which history. -/
inductive Submitted (claims : List NodeClaim) : Except Halt Unit → List Event → Prop
  /-- All got through. -/
  | all {events : List Event} (cleared : Cleared claims events) : Submitted claims (.ok ()) events
  /-- Some got through, and the next one stopped. -/
  | stopped {done rest : List NodeClaim} {claim : NodeClaim} {events tail : List Event}
      {p : Passage} {e : Halt} (same : claims = done ++ claim :: rest)
      (cleared : Cleared done events) (sub : tail <+: p.events claim) :
      Submitted claims (.error e) (events ++ tail)

/-- A claim that got through may be put before the others. -/
theorem Submitted.cons {claim : NodeClaim} {rest : List NodeClaim} {r : Except Halt Unit}
    {events : List Event} (p : Passage) (passes : p.Passes) (h : Submitted rest r events) :
    Submitted (claim :: rest) r (p.events claim ++ events) := by
  cases h with
  | all cleared => exact .all (cleared.cons p passes)
  | stopped same cleared sub =>
    subst same
    rw [← List.append_assoc]
    exact .stopped rfl (cleared.cons p passes) sub

/-- **What precedes the creation of a claim** is the way of the claims before it, all of which got
through. -/
theorem Submitted.before_creation {claims : List NodeClaim} {r : Except Halt Unit}
    {events before after : List Event} {t : Instant} {c : NodeClaim} (h : Submitted claims r events)
    (split : events = before ++ .began t (.create c) :: after) :
    ∃ done, done ++ [c] <+: claims ∧ Cleared done before := by
  cases h with
  | all cleared => exact cleared.before_creation split
  | @stopped done rest claim events tail p e same cleared sub =>
    subst same
    rcases split_cases split with ⟨between, rfl, inTail⟩ | ⟨between, inEvents⟩
    · subst inTail
      obtain ⟨rfl, rfl⟩ := Passage.creation_first sub
      rw [List.append_nil]
      exact ⟨done, ⟨rest, by simp⟩, cleared⟩
    · obtain ⟨done', sub', cleared'⟩ := cleared.before_creation inEvents
      exact ⟨done', sub'.trans (List.prefix_append _ _), cleared'⟩

/-- The creations that began are those of the first claims. -/
theorem Submitted.creations_isPrefix {claims : List NodeClaim} {r : Except Halt Unit}
    {events : List Event} (h : Submitted claims r events) : creations events <+: claims := by
  cases h with
  | all cleared => exact cleared.creations_eq ▸ List.prefix_rfl
  | @stopped done rest claim events tail p e same cleared sub =>
    subst same
    rw [creations_append, cleared.creations_eq]
    refine (List.prefix_append_right_inj done).2 ?_
    exact (sub.filterMap _).trans ⟨rest, rfl⟩

/-- **How the submission of several claims ends.** -/
theorem submitAll_submitted {σ : Type} {b : Backend σ} {settleDelay : Duration} {signals : Signals}
    {workspace : String} {deadline : Instant} (claims : List NodeClaim) {w w' : World σ}
    {r : Except Halt Unit}
    (h : submitAll b settleDelay signals workspace deadline claims w = (r, w')) :
    ∃ events, w.Leads events w' ∧ Submitted claims r events := by
  induction claims generalizing w with
  | nil =>
    cases h
    exact ⟨[], .refl _, .all .nil⟩
  | cons claim rest ih =>
    rcases bind_cases h with ⟨_, w₁, submitted, later⟩ | ⟨e, submitted, rfl⟩
    · obtain ⟨first, led, attempt⟩ := submitUntil_attempt submitted
      obtain ⟨events, leads, others⟩ := ih later
      cases attempt with
      | passed p passes => exact ⟨_, led.trans leads, others.cons p passes⟩
    · obtain ⟨events, leads, attempt⟩ := submitUntil_attempt submitted
      cases attempt with
      | stopped p e sub => exact ⟨events, leads, .stopped (List.nil_append _).symm .nil sub⟩

end Submission

end NodeProvisioning
