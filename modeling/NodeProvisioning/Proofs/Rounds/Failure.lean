import NodeProvisioning.Proofs.Rounds.Readiness

/-!
# Which failure a wait reports

A wait takes its answers one after the other and stops at the first that is fatal.  So the error
of a fatal answer is the error of the run exactly when that answer is the last one taken, and no
later answer, of the same round or of another, can hide it.  A run that reports a timeout took no
fatal answer at all, and what it calls pending are the keys that were not seen ready, those
included whose round the deadline interrupted.

## Main statements

* `Observation.of_eq_terminal_iff` and its companions — which answer carries which error
* `Ending.error_iff_last` — the error of a fatal answer is that of the run if it came last
* `Ending.timeout` — what a timeout reports
* `awaitUntil_failure` — all failures of a wait
-/

namespace NodeProvisioning

/-! ## The error of one answer -/

namespace ProvisionError

variable {claim name : String} {source e : RequestError}

theorem ofFetch_eq_claimNotFound_iff :
    ofFetch claim source = .claimNotFound name ↔ claim = name ∧ source.isNotFound = true := by
  cases gone : source.isNotFound <;> simp [ofFetch, gone]

theorem ofFetch_eq_fetch_iff :
    ofFetch claim source = .fetch name e ↔ claim = name ∧ source = e ∧ e.isNotFound = false := by
  cases gone : source.isNotFound
  · simp only [ofFetch, gone, Bool.false_eq_true, if_false, fetch.injEq]
    grind
  · simp only [ofFetch, gone, if_true]
    grind

theorem ofFetch_ne_provisioningFailed {reason : String} :
    ofFetch claim source ≠ .provisioningFailed name reason := by
  cases gone : source.isNotFound <;> simp [ofFetch, gone]

theorem ofFetch_ne_timeout {pending : List String} :
    ofFetch claim source ≠ .timeout name pending := by
  cases gone : source.isNotFound <;> simp [ofFetch, gone]

theorem ofFetch_ne_submission : ofFetch claim source ≠ .submission name e := by
  cases gone : source.isNotFound <;> simp [ofFetch, gone]

end ProvisionError

namespace Observation

variable {key : ClaimKey} {a : Sighting} {name : String}

/-- **The error of an answer**: that of a failed claim, or that of a look that failed for good. -/
theorem of_eq_terminal_iff {e : ProvisionError} :
    Observation.of key a = .terminal e ↔
      (∃ claim reason, a = .ok claim ∧ claim.state = .failed reason ∧
        .provisioningFailed key.name reason = e) ∨
      ∃ source, a = .error source ∧ source.isTransient = false ∧ .ofFetch key.name source = e := by
  rcases a with source | claim
  · cases transient : source.isTransient <;> simp [Observation.of, transient]
  · cases shown : claim.state <;> simp [Observation.of, shown]

theorem of_eq_provisioningFailed_iff {reason : String} :
    Observation.of key a = .terminal (.provisioningFailed name reason) ↔
      key.name = name ∧ ∃ claim, a = .ok claim ∧ claim.state = .failed reason := by
  rw [of_eq_terminal_iff]
  constructor
  · rintro (⟨claim, _, rfl, shown, same⟩ | ⟨source, -, -, same⟩)
    · cases same
      exact ⟨rfl, claim, rfl, shown⟩
    · exact absurd same (ProvisionError.ofFetch_ne_provisioningFailed)
  · rintro ⟨rfl, claim, rfl, shown⟩
    exact .inl ⟨claim, reason, rfl, shown, rfl⟩

theorem of_eq_claimNotFound_iff :
    Observation.of key a = .terminal (.claimNotFound name) ↔
      key.name = name ∧ ∃ source, a = .error source ∧ source.isNotFound = true := by
  rw [of_eq_terminal_iff]
  constructor
  · rintro (⟨claim, _, rfl, -, same⟩ | ⟨source, rfl, -, same⟩)
    · cases same
    · obtain ⟨named, gone⟩ := ProvisionError.ofFetch_eq_claimNotFound_iff.1 same
      exact ⟨named, source, rfl, gone⟩
  · rintro ⟨rfl, source, rfl, gone⟩
    -- What is not there is not transient, so the look failed for good.
    have final := RequestError.isTransient_eq_false_of_isNotFound gone
    exact .inr ⟨source, rfl, final, ProvisionError.ofFetch_eq_claimNotFound_iff.2 ⟨rfl, gone⟩⟩

theorem of_eq_fetch_iff {source : RequestError} :
    Observation.of key a = .terminal (.fetch name source) ↔
      key.name = name ∧ a = .error source ∧ source.isTransient = false ∧
        source.isNotFound = false := by
  rw [of_eq_terminal_iff]
  constructor
  · rintro (⟨claim, _, rfl, -, same⟩ | ⟨source, rfl, final, same⟩)
    · cases same
    · obtain ⟨named, rfl, there⟩ := ProvisionError.ofFetch_eq_fetch_iff.1 same
      exact ⟨named, rfl, final, there⟩
  · rintro ⟨rfl, rfl, final, there⟩
    exact .inr ⟨source, rfl, final, ProvisionError.ofFetch_eq_fetch_iff.2 ⟨rfl, rfl, there⟩⟩

/-- No answer is a timeout. -/
theorem of_ne_timeout {workspace : String} {pending : List String} :
    Observation.of key a ≠ .terminal (.timeout workspace pending) := by
  rw [Ne, of_eq_terminal_iff]
  rintro (⟨claim, reason, -, -, same⟩ | ⟨source, -, -, same⟩)
  · cases same
  · exact absurd same ProvisionError.ofFetch_ne_timeout

/-- No answer to a look is a refused creation. -/
theorem of_ne_submission {source : RequestError} :
    Observation.of key a ≠ .terminal (.submission name source) := by
  rw [Ne, of_eq_terminal_iff]
  rintro (⟨claim, reason, -, -, same⟩ | ⟨source', -, -, same⟩)
  · cases same
  · exact absurd same ProvisionError.ofFetch_ne_submission

end Observation

/-! ## The error of a wait -/

namespace Rounds

open History

variable {σ : Type} {l : Limits} {keys : List ClaimKey} {r : Except Halt Unit} {events : List Event}

/-- An answer taken last is read last. -/
theorem sightings_concat (before : List Event) (t : Instant) (key : ClaimKey) (a : Sighting) :
    sightings (before ++ [.took t (.get key a)]) = sightings before ++ [(key, a)] :=
  sightings_append before _

/-- All answers but the last were harmless, however the wait ended. -/
theorem Ending.harmless_before (h : Ending l keys r events) :
    ∀ s ∈ (sightings events).dropLast, Sighting.isFatal s.2 = false := by
  intro s mem
  cases h with
  | ready tally => exact tally.harmless s ((List.dropLast_sublist _).subset mem)
  | fatal tally terminal =>
    rw [sightings_concat, List.dropLast_concat] at mem
    exact tally.harmless s mem
  | cut tally cuts => exact tally.harmless s ((List.dropLast_sublist _).subset mem)

/-- **The error of a fatal answer** is that of the run exactly if the answer was taken last. -/
theorem Ending.error_iff_last (h : Ending l keys r events) {e : ProvisionError}
    (notCancelled : e.isCancelled = false) (notTimeout : e.isTimeout = false) :
    r = .error (.failed e) ↔
      ∃ key a, (sightings events).getLast? = some (key, a) ∧
        Observation.of key a = .terminal e := by
  -- Where no answer was fatal, the last one was not.
  have absurdity : (∀ s ∈ sightings events, Sighting.isFatal s.2 = false) →
      ¬ ∃ key a, (sightings events).getLast? = some (key, a) ∧
        Observation.of key a = .terminal e := by
    rintro harmless ⟨key, a, last, terminal⟩
    have fatal := Observation.isFatal_of_terminal terminal
    rw [harmless _ (List.mem_of_getLast? last)] at fatal
    cases fatal
  cases h with
  | ready tally =>
    refine ⟨fun same => ?_, fun found => absurd found (absurdity tally.harmless)⟩
    cases same
  | fatal tally terminal =>
    rw [sightings_concat, List.getLast?_concat]
    constructor
    · intro same
      cases same
      exact ⟨_, _, rfl, terminal⟩
    · rintro ⟨key, a, last, found⟩
      cases last
      cases terminal.symm.trans found
      rfl
  | cut tally cuts =>
    refine ⟨fun same => ?_, fun found => absurd found (absurdity tally.harmless)⟩
    cases cuts <;> cases same
    · cases notCancelled
    · cases notTimeout

/-- **What a timeout reports**: there was no fatal answer, and the keys not seen ready are named
in order. -/
theorem Ending.timeout {workspace : String} {pending : List String}
    (h : Ending l keys r events) (same : r = .error (.failed (.timeout workspace pending))) :
    (∀ s ∈ sightings events, Sighting.isFatal s.2 = false) ∧ workspace = l.workspace ∧
      pending = (remaining keys events).map (·.name) ∧ remaining keys events ≠ [] := by
  cases h with
  | ready tally => cases same
  | fatal tally terminal =>
    cases same
    exact absurd terminal (Observation.of_ne_timeout)
  | cut tally cuts =>
    cases cuts with
    | cancelled => cases same
    | stalled => cases same
    | expired pending =>
      cases same
      rw [tally.outstanding_eq] at pending ⊢
      exact ⟨tally.harmless, rfl, rfl, pending⟩

/-- **Which failure a wait reports.**  It reports a failed claim, a claim that is gone, or a look
that failed for good exactly if the last answer taken says so about the key of that name; the
answers before it were harmless, and all of them were about the keys waited for.  If it reports a
timeout, no answer was fatal, and what it names are the keys, in order, of which no answer showed
the claim ready; there is at least one. -/
theorem awaitUntil_failure (b : Backend σ) (pollInterval : Duration) (signals : Signals)
    (workload : Workload) (deadline : Instant) (keys : List ClaimKey) (now : Instant) (state : σ) :
    let run := awaitUntil b pollInterval signals workload.name deadline keys (.start now state)
    let answers := sightings run.2.history
    (∀ name reason, run.1 = .error (.failed (.provisioningFailed name reason)) ↔
      ∃ key claim, answers.getLast? = some (key, .ok claim) ∧ key.name = name ∧
        claim.state = .failed reason) ∧
    (∀ name, run.1 = .error (.failed (.claimNotFound name)) ↔
      ∃ key e, answers.getLast? = some (key, .error e) ∧ key.name = name ∧ e.isNotFound = true) ∧
    (∀ name e, run.1 = .error (.failed (.fetch name e)) ↔
      ∃ key, answers.getLast? = some (key, .error e) ∧ key.name = name ∧
        e.isTransient = false ∧ e.isNotFound = false) ∧
    (∀ s ∈ answers.dropLast, Sighting.isFatal s.2 = false) ∧
    (∀ s ∈ answers, s.1 ∈ keys) ∧
    (∀ workspace pending, run.1 = .error (.failed (.timeout workspace pending)) →
      (∀ s ∈ answers, Sighting.isFatal s.2 = false) ∧ workspace = workload.name ∧
        ∃ left : List ClaimKey, pending = left.map (·.name) ∧ left.Pairwise (· < ·) ∧
          (∀ k, k ∈ left ↔ k ∈ keys ∧ ∀ a, (k, a) ∈ answers → Sighting.isReady a = false) ∧
          left ≠ []) := by
  intro run answers
  have ran : awaitUntil b pollInterval signals workload.name deadline keys (.start now state) =
    (run.1, run.2) := rfl
  obtain ⟨events, led, ending⟩ := awaitUntil_ending ran
  have past : answers = sightings events := congrArg sightings led.history_of_start
  rw [past]
  refine ⟨fun name reason => ?_, fun name => ?_, fun name e => ?_, ending.harmless_before,
    fun _ => mem_keys_of_sighting ending.isLookAt, fun workspace pending same => ?_⟩
  · rw [ending.error_iff_last rfl rfl]
    constructor
    · rintro ⟨key, a, last, terminal⟩
      obtain ⟨named, claim, rfl, shown⟩ := Observation.of_eq_provisioningFailed_iff.1 terminal
      exact ⟨key, claim, last, named, shown⟩
    · rintro ⟨key, claim, last, named, shown⟩
      have terminal := Observation.of_eq_provisioningFailed_iff.2 ⟨named, claim, rfl, shown⟩
      exact ⟨key, _, last, terminal⟩
  · rw [ending.error_iff_last rfl rfl]
    constructor
    · rintro ⟨key, a, last, terminal⟩
      obtain ⟨named, e, rfl, gone⟩ := Observation.of_eq_claimNotFound_iff.1 terminal
      exact ⟨key, e, last, named, gone⟩
    · rintro ⟨key, e, last, named, gone⟩
      have terminal := Observation.of_eq_claimNotFound_iff.2 ⟨named, e, rfl, gone⟩
      exact ⟨key, _, last, terminal⟩
  · rw [ending.error_iff_last rfl rfl]
    constructor
    · rintro ⟨key, a, last, terminal⟩
      obtain ⟨named, rfl, final, there⟩ := Observation.of_eq_fetch_iff.1 terminal
      exact ⟨key, last, named, final, there⟩
    · rintro ⟨key, last, named, final, there⟩
      exact ⟨key, _, last, Observation.of_eq_fetch_iff.2 ⟨named, rfl, final, there⟩⟩
  · obtain ⟨harmless, named, rfl, nonempty⟩ := ending.timeout same
    exact ⟨harmless, named, _, rfl, remaining_pairwise keys events, fun _ => mem_remaining_iff,
      nonempty⟩

end Rounds

end NodeProvisioning
