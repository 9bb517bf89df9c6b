import NodeProvisioning.Proofs.Submission.Passage

/-!
# What a submission reports

A submission makes two calls, and each is over once its answer has been judged: a refused creation
is reported, unless the claim is there already, and so is a look that failed for good.  Nothing that
comes later can take a report back, for nothing comes later; and a look that failed for now lets the
claim through.

## Main definitions

* `Submission.Reports` — how the errors of a submission end it

## Main statements

* `Submission.ask_judged` — a call whose answer is judged
* `Submission.submitUntil_reports` — the errors of a submission
-/

namespace NodeProvisioning

namespace Submission

open Run (bind_cases)

variable {σ : Type} {b : Backend σ} {settleDelay : Duration} {claim : NodeClaim}
variable {w w' : World σ} {r : Except Halt Unit}

/-- **How the errors of a submission end it**, after the given events. -/
structure Reports (claim : NodeClaim) (events : List Event) (r : Except Halt Unit) : Prop where
  /-- A refused creation is reported, unless the claim is there already. -/
  refused : ∀ t c e, .took t (.create c (.error e)) ∈ events → e.isAlreadyExists = false →
    r = .error (.failed (.submission claim.anyName e))
  /-- A look that failed is reported, unless its error is transient. -/
  looked : ∀ t key e, .took t (.get key (.error e)) ∈ events →
    r = if e.isTransient then .ok () else .error (.failed (.ofFetch claim.anyName e))

/-- Where no answer was taken there is nothing to report. -/
theorem Reports.nil : Reports claim [] r :=
  ⟨fun _ _ _ mem => absurd mem List.not_mem_nil, fun _ _ _ mem => absurd mem List.not_mem_nil⟩

/-- What comes after a creation that got through is reported as it is by itself. -/
theorem Reports.after {before later : List Event} (first : Reports claim before (.ok ()))
    (unseen : ∀ t key a, .took t (.get key a) ∉ before) (second : Reports claim later r) :
    Reports claim (before ++ later) r where
  refused t c e mem other := by
    rcases List.mem_append.1 mem with early | late
    · cases first.refused t c e early other
    · exact second.refused t c e late other
  looked t key e mem := by
    rcases List.mem_append.1 mem with early | late
    · exact absurd early (unseen t key _)
    · exact second.looked t key e late

/-- **A call whose answer is judged** takes no answer but one, and ends as that is judged. -/
theorem ask_judged {α : Type} {l : Limits} {call : Call} {took : α → Answer}
    {begin : Instant → σ → σ × Progress σ α} {judge : α → Except ProvisionError Unit}
    (h : (Run.perform l.pause call took begin >>= fun a => settle (judge a)) w = (r, w')) :
    ∃ events, w.Leads events w' ∧ ∀ t answer, .took t answer ∈ events →
      ∃ a, answer = took a ∧ r = (judge a).mapError Halt.failed := by
  obtain ⟨a, t, led, verdict⟩ | ⟨e, -, led⟩ := ask_cases h
  · refine ⟨_, led, fun t' answer mem => ⟨a, ?_, ?_⟩⟩
    · simp only [List.mem_cons, reduceCtorEq, Event.took.injEq, List.not_mem_nil, or_false,
        false_or] at mem
      exact mem.2
    · obtain ⟨judged, rfl⟩ | ⟨e, judged, rfl⟩ := verdict <;> rw [judged] <;> rfl
  · exact ⟨_, led, fun t answer mem => by simp at mem⟩

/-- The creation reports what it is refused with, and looks at nothing. -/
theorem place_reports {l : Limits} (h : place b l claim w = (r, w')) :
    ∃ events, w.Leads events w' ∧ Reports claim events r ∧
      ∀ t key a, .took t (.get key a) ∉ events := by
  obtain ⟨events, led, judged⟩ := ask_judged h
  refine ⟨events, led, ⟨fun t c e mem other => ?_, fun t key e mem => ?_⟩, fun t key a mem => ?_⟩
  · obtain ⟨a, same, ended⟩ := judged _ _ mem
    cases same
    rw [ended, accepted, other]
    rfl
  · obtain ⟨a, same, -⟩ := judged _ _ mem
    cases same
  · obtain ⟨a, same, -⟩ := judged _ _ mem
    cases same

/-- The look reports what it failed with, and creates nothing. -/
theorem glance_reports {l : Limits} (h : glance b l claim w = (r, w')) :
    ∃ events, w.Leads events w' ∧ Reports claim events r := by
  obtain ⟨events, led, judged⟩ := ask_judged h
  refine ⟨events, led, fun t c e mem other => ?_, fun t key e mem => ?_⟩
  · obtain ⟨a, same, -⟩ := judged _ _ mem
    cases same
  · obtain ⟨a, same, ended⟩ := judged _ _ mem
    cases same
    rw [ended, verdict]
    split <;> rfl

/-- **The errors of a submission** end it as its reports say. -/
theorem submitUntil_reports {signals : Signals} {deadline : Option (Instant × ProvisionError)}
    (h : submitUntil b settleDelay signals deadline claim w = (r, w')) :
    ∃ events, w.Leads events w' ∧ Reports claim events r := by
  rcases bind_cases h with ⟨_, w₁, checked, rest⟩ | ⟨e, checked, rfl⟩
  · have start := (Limits.check_quiet _).leads checked
    rcases bind_cases rest with ⟨_, w₂, placed, rest⟩ | ⟨e, placed, rfl⟩
    · obtain ⟨before, led, first, unseen⟩ := place_reports placed
      rcases bind_cases rest with ⟨_, w₃, lingered, last⟩ | ⟨e, lingered, rfl⟩
      · obtain ⟨later, led', second⟩ := glance_reports last
        have settled := (start.trans led).trans ((linger_quiet _ _).leads lingered)
        refine ⟨_, settled.trans led', ?_⟩
        simpa using first.after unseen second
      · have settled := (start.trans led).trans ((linger_quiet _ _).leads lingered)
        refine ⟨_, settled, ?_⟩
        simpa using first.after unseen .nil
    · obtain ⟨before, led, first, -⟩ := place_reports placed
      exact ⟨_, start.trans led, first⟩
  · exact ⟨_, (Limits.check_quiet _).leads checked, .nil⟩

end Submission

end NodeProvisioning
