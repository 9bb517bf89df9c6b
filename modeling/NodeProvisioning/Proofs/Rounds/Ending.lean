import NodeProvisioning.Proofs.Rounds.Tally

/-!
# How a wait ends

One step of a wait keeps the invariant `Tally`, or it ends the wait.  A wait ends because nothing
is outstanding any more, because an answer was fatal, or because something from outside cut it
short; and in each case the invariant still tells what was outstanding when it ended.

## Main definitions

* `Sound` — the invariant of a standing: its tally, and that it does not rest with nothing to wait
  for
* `Limits.Cuts`, `Ending` — how a wait may end, and after which history

## Main statements

* `advance_outcome` — what one step does
* `Reaches.sound` — the invariant holds at every point of a wait
* `awaitUntil_ending` — how a wait ends
-/

namespace NodeProvisioning.Rounds

open History
open Run (bind_cases)

variable {σ : Type}

/-- The wait is between two rounds. -/
def Stage.isIdle : Stage σ → Bool
  | .opening => true
  | .resting => true
  | _ => false

/-- **The invariant of a standing**, after the history `events`. -/
structure Sound (keys : List ClaimKey) (p : Standing σ) (events : List Event) : Prop where
  tally : Tally keys p.outstanding p.ahead p.flying events
  /-- A wait does not go on between rounds with nothing outstanding. -/
  outstanding_ne_nil : p.stage.isIdle = true → p.outstanding ≠ []

/-- What may cut a wait short while `outstanding` are outstanding. -/
inductive Limits.Cuts (l : Limits) (outstanding : List ClaimKey) : Halt → Prop
  | cancelled : Cuts l outstanding (.failed (.cancelled l.workspace))
  | expired (pending : outstanding ≠ []) : Cuts l outstanding (.failed (l.timeout outstanding))
  | stalled : Cuts l outstanding .stalled

/-- **How a wait for `keys` may end**, and after which history. -/
inductive Ending (l : Limits) (keys : List ClaimKey) : Except Halt Unit → List Event → Prop
  /-- Nothing is outstanding any more. -/
  | ready {events : List Event} (tally : Tally keys [] [] [] events) :
      Ending l keys (.ok ()) events
  /-- The last answer taken was fatal. -/
  | fatal {outstanding ahead flying : List ClaimKey} {events : List Event} {key : ClaimKey}
      {t : Instant} {a : Sighting} {e : ProvisionError}
      (tally : Tally keys outstanding ahead (key :: flying) events)
      (terminal : Observation.of key a = .terminal e) :
      Ending l keys (.error (.failed e)) (events ++ [.took t (.get key a)])
  /-- Something from outside ended it. -/
  | cut {outstanding ahead flying : List ClaimKey} {events : List Event} {h : Halt}
      (tally : Tally keys outstanding ahead flying events) (cuts : l.Cuts outstanding h) :
      Ending l keys (.error h) events

/-- A wait does nothing but look at its keys, however it ends. -/
theorem Ending.isLookAt {l : Limits} {keys : List ClaimKey} {r : Except Halt Unit}
    {events : List Event} (h : Ending l keys r events) : ∀ event ∈ events, event.IsLookAt keys := by
  cases h with
  | ready tally => exact tally.isLookAt
  | fatal tally terminal =>
    intro event mem
    rcases List.mem_append.1 mem with early | late
    · exact tally.isLookAt event early
    · rw [List.mem_singleton.1 late]
      exact tally.mem_keys (tally.outstanding_of_mem _ (by simp))
  | cut tally cuts => exact tally.isLookAt

/-- What a step may give after the history `events`. -/
def Outcome (l : Limits) (keys : List ClaimKey) (events : List Event) :
    Except Halt (Option (Standing σ)) → Prop
  | .ok (some q) => Sound keys q events
  | .ok none => Ending l keys (.ok ()) events
  | .error h => Ending l keys (.error h) events

/-! ## The parts of a step -/

section Parts

variable {b : Backend σ} {l : Limits} {outstanding : List ClaimKey} {key : ClaimKey} {a : Sighting}
variable {w w' : World σ}

/-- A wait that does not pass the check has been cancelled or has expired. -/
theorem check_error {e : Halt} (h : l.check outstanding w = (.error e, w')) :
    (l.signals.isCancelled w.now = true ∨ l.deadline ≤ w.now) ∧
      (outstanding ≠ [] → l.Cuts outstanding e) := by
  unfold Limits.check at h
  obtain ⟨t, w₁, clock, rest⟩ | ⟨e, clock, -⟩ := bind_cases h
  · cases clock
    split at rest
    · next cancelled =>
      cases rest
      exact ⟨.inl cancelled, fun _ => .cancelled⟩
    · split at rest
      · next expired =>
        cases rest
        exact ⟨.inr expired, fun pending => .expired pending⟩
      · cases rest
  · cases clock

/-- A wait that passes the check has neither been cancelled nor expired. -/
theorem check_ok (h : l.check outstanding w = (.ok (), w')) :
    ¬ (l.signals.isCancelled w.now = true ∨ l.deadline ≤ w.now) := by
  unfold Limits.check at h
  obtain ⟨t, w₁, clock, rest⟩ | ⟨e, clock, -⟩ := bind_cases h
  · cases clock
    split at rest
    · cases rest
    · next free =>
      split at rest
      · cases rest
      · next early => exact not_or.2 ⟨free, early⟩
  · cases clock

/-- A wait that ends while it lets time pass is cut short. -/
theorem pause_error {due : Option Instant} {e : Halt}
    (h : l.pause outstanding due w = (.error e, w')) (pending : outstanding ≠ []) :
    l.Cuts outstanding e := by
  unfold Limits.pause at h
  rcases bind_cases h with ⟨wake, w₁, slept, rest⟩ | ⟨e, slept, same⟩
  · cases wake <;> cases rest
    · exact .cancelled
    · exact .expired pending
    · exact .stalled
  · cases same
    rw [Run.sleepUntil_error slept]
    exact .stalled

/-- Beginning a look leaves one event, and what waits afterwards is a look at the same key. -/
theorem begin_cases {r : Except Halt (Sighting ⊕ Look σ)} (h : begin b key w = (r, w')) :
    w.Leads [.began w.now (.get key)] w' ∧
      ((∃ a, r = .ok (.inl a)) ∨ ∃ look, r = .ok (.inr look) ∧ look.key = key) := by
  have began : w.Leads [.began w.now (.get key)]
      ⟨w.now, (b.get w.now key w.state).1, .began w.now (.get key) :: w.trace⟩ :=
    .of_trace_cons rfl
  simp only [begin, Run.bind_apply, Run.note, Run.now_apply, Run.act] at h
  cases progress : (b.get w.now key w.state).2 with
  | answered a =>
    rw [progress] at h
    cases h
    exact ⟨began, .inl ⟨a, rfl⟩⟩
  | unanswered =>
    rw [progress] at h
    cases h
    exact ⟨began, .inr ⟨_, rfl, rfl⟩⟩
  | waiting delay turn finish =>
    rw [progress] at h
    cases h
    exact ⟨began, .inr ⟨_, rfl, rfl⟩⟩

/-- Taking an answer leaves one event; it settles the key or leaves it outstanding, unless the
answer is fatal. -/
theorem take_cases {r : Except Halt (List ClaimKey)} (h : take outstanding key a w = (r, w')) :
    w.Leads [.took w.now (.get key a)] w' ∧
      ((Sighting.isFatal a = false ∧ r = .ok (settled outstanding key a)) ∨
        ∃ e, Observation.of key a = .terminal e ∧ r = .error (.failed e)) := by
  have took : w.Leads [.took w.now (.get key a)]
      ⟨w.now, w.state, .took w.now (.get key a) :: w.trace⟩ := .of_trace_cons rfl
  rw [take_eq] at h
  rcases consume_cases outstanding key a with ⟨harmless, consumed⟩ | ⟨e, terminal, consumed⟩
  · rw [consumed] at h
    cases h
    exact ⟨took, .inl ⟨harmless, rfl⟩⟩
  · rw [consumed] at h
    cases h
    exact ⟨took, .inr ⟨e, terminal, rfl⟩⟩

theorem act_quiet {α : Type} {f : σ → σ × α} {r : Except Halt α} (h : Run.act f w = (r, w')) :
    w.Leads [] w' ∧ ∃ x, r = .ok x := by
  cases h
  exact ⟨.of_trace_eq rfl, _, rfl⟩

end Parts

/-! ## One step -/

section Steps

variable {b : Backend σ} {pollInterval : Duration} {l : Limits} {keys : List ClaimKey}
variable {events : List Event} {w w' : World σ}

/-- **An answer is taken** for the look that is first under way, and the wait goes on at `stage`. -/
theorem Tally.take_outcome {outstanding ahead flying : List ClaimKey} {key : ClaimKey}
    {a : Sighting} {r : Except Halt (Option (Standing σ))} (stage : Stage σ)
    (tally : Tally keys outstanding ahead (key :: flying) events)
    (isAhead : ∀ left, (Standing.mk left stage).ahead = ahead)
    (isFlying : ∀ left, (Standing.mk left stage).flying = flying) (busy : stage.isIdle = false)
    (h : (take outstanding key a >>= fun left => pure (some ⟨left, stage⟩)) w = (r, w')) :
    ∃ more, w.Leads more w' ∧ Outcome l keys (events ++ more) r := by
  rcases bind_cases h with ⟨left, w₁, taken, rest⟩ | ⟨e, taken, rfl⟩
  · obtain ⟨took, ⟨harmless, same⟩ | ⟨e, -, same⟩⟩ := take_cases taken
    · cases same
      cases rest
      refine ⟨_, took, ?_, fun idle => ?_⟩
      · rw [isAhead, isFlying]
        exact tally.answer w.now harmless
      · rw [busy] at idle
        cases idle
    · cases same
  · obtain ⟨took, ⟨-, same⟩ | ⟨e, terminal, same⟩⟩ := take_cases taken
    · cases same
    · cases same
      exact ⟨_, took, .fatal tally terminal⟩

/-- A look that is never answered is under way as before. -/
theorem Sound.lose {outstanding lost : List ClaimKey} {look : Look σ} {looks : List (Look σ)}
    (sound : Sound keys ⟨outstanding, .collecting lost (look :: looks)⟩ events) :
    Sound keys ⟨outstanding, .collecting (look.key :: lost) looks⟩ events :=
  ⟨sound.tally.reorder List.perm_middle, fun idle => nomatch idle⟩

/-- **One step** keeps the invariant, or ends the wait. -/
theorem advance_outcome {p : Standing σ} {r : Except Halt (Option (Standing σ))}
    (sound : Sound keys p events) (h : advance b pollInterval l p w = (r, w')) :
    ∃ more, w.Leads more w' ∧ Outcome l keys (events ++ more) r := by
  have quietly : ∀ {r : Except Halt (Option (Standing σ))}, w.Leads [] w' →
      Outcome l keys events r → ∃ more, w.Leads more w' ∧ Outcome l keys (events ++ more) r :=
    fun quiet outcome => ⟨[], quiet, by rwa [List.append_nil]⟩
  obtain ⟨outstanding, stage⟩ := p
  cases stage with
  | opening =>
    rw [advance] at h
    rcases bind_cases h with ⟨_, w₁, checked, rest⟩ | ⟨e, checked, rfl⟩
    · cases rest
      exact quietly ((l.check_quiet _).leads checked)
        ⟨sound.tally.openRound, fun idle => by cases idle⟩
    · have cuts := (check_error checked).2 (sound.outstanding_ne_nil rfl)
      exact quietly ((l.check_quiet _).leads checked) (.cut sound.tally cuts)
  | starting ahead looks =>
    cases ahead with
    | nil =>
      cases h
      have perm := (Look.inOrder_perm looks).symm.map (·.key)
      exact quietly (.refl _) ⟨sound.tally.reorder perm, fun idle => by cases idle⟩
    | cons key ahead =>
      rw [advance] at h
      rcases bind_cases h with ⟨began, w₁, begun, rest⟩ | ⟨e, begun, -⟩
      · have under := sound.tally.begin w.now
        obtain ⟨first, ⟨a, same⟩ | ⟨look, same, rfl⟩⟩ := begin_cases begun
        · cases same
          obtain ⟨more, second, outcome⟩ := under.take_outcome (.starting ahead looks)
            (fun _ => rfl) (fun _ => rfl) rfl rest
          refine ⟨_, first.trans second, ?_⟩
          rwa [← List.append_assoc]
        · cases same
          cases rest
          refine ⟨_, first, under.reorder ?_, fun idle => by cases idle⟩
          show (look.key :: looks.map (·.key)).Perm ((looks ++ [look]).map (·.key))
          rw [List.map_append]
          exact (List.perm_append_singleton _ _).symm
      · obtain ⟨-, ⟨a, same⟩ | ⟨look, same, -⟩⟩ := begin_cases begun <;> cases same
  | collecting lost looks =>
    cases looks with
    | cons look looks =>
      rw [advance] at h
      -- A look under way is at an outstanding key, so a timeout here has something to report.
      have pending : outstanding ≠ [] :=
        List.ne_nil_of_mem (sound.tally.outstanding_of_mem look.key (by simp [Standing.flying]))
      cases due : look.due with
      | none =>
        rw [due] at h
        cases h
        exact quietly (.refl _) sound.lose
      | some t =>
        rw [due] at h
        rcases bind_cases h with ⟨_, w₁, paused, rest⟩ | ⟨e, paused, rfl⟩
        · have first := (l.pause_quiet _ _).leads paused
          rcases bind_cases rest with ⟨_ | a, w₂, acted, last⟩ | ⟨e, acted, -⟩
          · cases last
            exact quietly (first.trans (act_quiet acted).1) sound.lose
          · have under :
                Tally keys outstanding [] (look.key :: (lost ++ looks.map (·.key))) events :=
              sound.tally.reorder List.perm_middle
            obtain ⟨more, second, outcome⟩ := under.take_outcome (.collecting lost looks)
              (fun _ => rfl) (fun _ => rfl) rfl last
            exact ⟨more, (first.trans (act_quiet acted).1).trans second, outcome⟩
          · obtain ⟨-, a, same⟩ := act_quiet acted
            cases same
        · exact quietly ((l.pause_quiet _ _).leads paused)
            (.cut sound.tally (pause_error paused pending))
    | nil =>
      cases lost with
      | nil =>
        rw [advance] at h
        cases h
        by_cases empty : outstanding.isEmpty
        · obtain rfl := List.isEmpty_iff.1 empty
          exact quietly (.refl _) (.ready sound.tally)
        · rw [if_neg empty]
          have left : outstanding ≠ [] := fun nothing => empty (List.isEmpty_iff.2 nothing)
          exact quietly (.refl _) ⟨sound.tally, fun _ => left⟩
      | cons key lost =>
        rw [advance] at h
        have pending : outstanding ≠ [] :=
          List.ne_nil_of_mem (sound.tally.outstanding_of_mem key (by simp [Standing.flying]))
        rcases bind_cases h with ⟨_, w₁, paused, rest⟩ | ⟨e, paused, rfl⟩
        · cases rest
          exact quietly ((l.pause_quiet _ _).leads paused) (.cut sound.tally .stalled)
        · exact quietly ((l.pause_quiet _ _).leads paused)
            (.cut sound.tally (pause_error paused pending))
  | resting =>
    rw [advance] at h
    rcases bind_cases h with ⟨t, w₁, clock, rest⟩ | ⟨e, clock, -⟩
    · cases clock
      rcases bind_cases rest with ⟨_, w₂, paused, last⟩ | ⟨e, paused, rfl⟩
      · cases last
        exact quietly ((l.pause_quiet _ _).leads paused)
          ⟨sound.tally, fun _ => sound.outstanding_ne_nil rfl⟩
      · have cuts := pause_error paused (sound.outstanding_ne_nil rfl)
        exact quietly ((l.pause_quiet _ _).leads paused) (.cut sound.tally cuts)
    · cases clock

/-! ## Any number of steps -/

/-- **The invariant holds at every point** of a wait. -/
theorem Reaches.sound {x y : Standing σ × World σ} (reached : Reaches b pollInterval l x y)
    (sound : Sound keys x.1 events) :
    ∃ more, x.2.Leads more y.2 ∧ Sound keys y.1 (events ++ more) := by
  induction reached with
  | refl => exact ⟨[], .refl _, by rwa [List.append_nil]⟩
  | tail _ step ih =>
    obtain ⟨before, led, sound⟩ := ih
    obtain ⟨more, leads, outcome⟩ := advance_outcome sound step
    refine ⟨before ++ more, led.trans leads, ?_⟩
    rw [← List.append_assoc]
    exact outcome

/-- At the beginning of a wait for some keys the invariant holds. -/
theorem Sound.first {keys : List ClaimKey} (some : keys ≠ []) :
    Sound keys (Standing.first (σ := σ) keys) [] :=
  ⟨.first keys, fun _ nothing => some (SortedMap.inOrder_eq_nil_iff.1 nothing)⟩

/-- **How a wait ends**, and after which history. -/
theorem awaitUntil_ending {signals : Signals} {workspace : String} {deadline : Instant}
    {r : Except Halt Unit}
    (h : awaitUntil b pollInterval signals workspace deadline keys w = (r, w')) :
    ∃ events, w.Leads events w' ∧ Ending ⟨signals, workspace, deadline⟩ keys r events := by
  rcases awaitUntil_stops h with ⟨rfl, rfl, rfl⟩ | ⟨some, ⟨y, reached, last⟩ | ⟨rfl, p, reached⟩⟩
  · exact ⟨[], .refl _, .ready (.first [])⟩
  · obtain ⟨before, led, sound⟩ := reached.sound (.first some)
    obtain ⟨more, leads, outcome⟩ := advance_outcome sound last
    refine ⟨before ++ more, led.trans leads, ?_⟩
    rcases r with e | ⟨⟩ <;> exact outcome
  · obtain ⟨events, led, sound⟩ := reached.sound (.first some)
    exact ⟨events, led, .cut sound.tally .stalled⟩

/-- **How a wait ends** with which nothing else has happened yet. -/
theorem awaitUntil_start_ending {signals : Signals} {workspace : String} {deadline : Instant}
    {now : Instant} {state : σ} {r : Except Halt Unit}
    (h : awaitUntil b pollInterval signals workspace deadline keys (.start now state) = (r, w')) :
    Ending ⟨signals, workspace, deadline⟩ keys r w'.history := by
  obtain ⟨events, led, ending⟩ := awaitUntil_ending h
  rwa [led.history_of_start]

end Steps

end NodeProvisioning.Rounds
