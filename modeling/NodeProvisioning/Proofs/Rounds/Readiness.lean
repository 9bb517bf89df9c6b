import NodeProvisioning.Proofs.Rounds.Ending
import NodeProvisioning.Store.Basic

/-!
# A wait that succeeds saw every claim ready

Two readings of a wait come together here.  At every point, what is outstanding is what the
answers so far leave outstanding; and a wait that ends well has looked at every key until the
claim was ready, and no further.

A round begins its looks in key order.  It begins all of them, with two exceptions.  If the
cancellation or the deadline has come when it opens, it begins none.  And an answer that is fatal
ends it at once, so that a look which is answered as soon as it begins may keep those after it
from ever beginning.

## Main statements

* `start_looks`, `round_looks` — at which keys a round looks
* `awaitUntil_sound` — what is outstanding, what a round looks at, and what success means
-/

namespace NodeProvisioning.Rounds

open History
open Run (bind_cases)

variable {σ : Type} {b : Backend σ} {l : Limits} {outstanding : List ClaimKey} {w w' : World σ}

/-! ## The looks of a round -/

/-- The last event is a fatal answer, and `r` is its error. -/
def EndsFatally {α : Type} (r : Except Halt α) (events : List Event) : Prop :=
  ∃ before t key a e, events = before ++ [.took t (.get key a)] ∧
    Observation.of key a = .terminal e ∧ r = .error (.failed e)

theorem EndsFatally.prepend {α β : Type} {r : Except Halt α} {r' : Except Halt β}
    {events : List Event} (h : EndsFatally r events) (more : List Event)
    (same : ∀ e, r = .error e → r' = .error e) : EndsFatally r' (more ++ events) := by
  obtain ⟨before, t, key, a, e, rfl, terminal, failed⟩ := h
  exact ⟨more ++ before, t, key, a, e, (List.append_assoc ..).symm, terminal, same _ failed⟩

/-- **Beginning the looks of a round** in order: all of them, unless an answer given at once is
fatal. -/
theorem start_looks (keys : List ClaimKey) {r : Except Halt (List ClaimKey × List (Look σ))}
    (h : start b keys outstanding w = (r, w')) :
    ∃ events, w.Leads events w' ∧ looks events <+: keys ∧
      (looks events = keys ∧ (∃ found, r = .ok found) ∨ EndsFatally r events) := by
  -- The looks that are still to begin come after the first, so the history grows at its front.
  induction keys generalizing outstanding w w' r with
  | nil =>
    cases h
    exact ⟨[], .refl _, List.nil_prefix, .inl ⟨rfl, _, rfl⟩⟩
  | cons key keys ih =>
    rw [start] at h
    rcases bind_cases h with ⟨began, w₁, begun, rest⟩ | ⟨e, begun, -⟩
    · obtain ⟨first, ⟨a, same⟩ | ⟨look, same, -⟩⟩ := begin_cases begun
      · cases same
        rcases bind_cases rest with ⟨left, w₂, taken, last⟩ | ⟨e, taken, rfl⟩
        · obtain ⟨events, led, sub, all⟩ := ih last
          refine ⟨_, (first.trans (take_cases taken).1).trans led,
            (List.prefix_cons_inj key).2 sub, ?_⟩
          rcases all with ⟨all, done⟩ | fatal
          · exact .inl ⟨congrArg (key :: ·) all, done⟩
          · exact .inr (fatal.prepend _ fun _ => id)
        · obtain ⟨took, ⟨-, same⟩ | ⟨e, terminal, same⟩⟩ := take_cases taken
          · cases same
          · cases same
            refine ⟨_, first.trans took, (List.prefix_cons_inj key).2 List.nil_prefix, ?_⟩
            exact .inr ⟨_, _, key, a, e, rfl, terminal, rfl⟩
      · cases same
        rcases bind_cases rest with ⟨⟨left, others⟩, w₂, started, last⟩ | ⟨e, started, rfl⟩
        · cases last
          obtain ⟨events, led, sub, all⟩ := ih started
          refine ⟨_, first.trans led, (List.prefix_cons_inj key).2 sub, ?_⟩
          rcases all with ⟨all, -⟩ | fatal
          · exact .inl ⟨congrArg (key :: ·) all, _, rfl⟩
          · exact .inr (fatal.prepend _ fun _ failed => by cases failed)
        · obtain ⟨events, led, sub, ⟨-, found, same⟩ | fatal⟩ := ih started
          · cases same
          · refine ⟨_, first.trans led, (List.prefix_cons_inj key).2 sub, .inr ?_⟩
            exact fatal.prepend _ fun _ failed => by cases failed; rfl
    · obtain ⟨-, ⟨a, same⟩ | ⟨look, same, -⟩⟩ := begin_cases begun <;> cases same

/-- Taking the looks that have to wait begins none. -/
theorem collect_looks (waiting : List (Look σ)) (stuck : Bool) {r : Except Halt (List ClaimKey)}
    (h : collect l stuck outstanding waiting w = (r, w')) :
    ∃ events, w.Leads events w' ∧ looks events = [] := by
  induction waiting generalizing outstanding stuck w w' r with
  | nil =>
    cases stuck with
    | false =>
      cases h
      exact ⟨[], .refl _, rfl⟩
    | true =>
      rw [collect] at h
      rcases bind_cases h with ⟨_, w₁, paused, rest⟩ | ⟨e, paused, -⟩
      · cases rest
        exact ⟨[], ((l.pause_quiet _ _).leads paused), rfl⟩
      · exact ⟨[], ((l.pause_quiet _ _).leads paused), rfl⟩
  | cons look waiting ih =>
    rw [collect] at h
    cases due : look.due with
    | none =>
      rw [due] at h
      exact ih true h
    | some t =>
      rw [due] at h
      rcases bind_cases h with ⟨_, w₁, paused, rest⟩ | ⟨e, paused, -⟩
      · have quiet := (l.pause_quiet _ _).leads paused
        rcases bind_cases rest with ⟨_ | a, w₂, acted, last⟩ | ⟨e, acted, -⟩
        · obtain ⟨events, led, none⟩ := ih true last
          exact ⟨_, (quiet.trans (act_quiet acted).1).trans led, none⟩
        · rcases bind_cases last with ⟨left, w₃, taken, after⟩ | ⟨e, taken, -⟩
          · obtain ⟨events, led, none⟩ := ih stuck after
            refine ⟨_, ((quiet.trans (act_quiet acted).1).trans (take_cases taken).1).trans led, ?_⟩
            rw [looks_append, none]
            rfl
          · exact ⟨_, (quiet.trans (act_quiet acted).1).trans (take_cases taken).1, rfl⟩
        · exact ⟨[], quiet.trans (act_quiet acted).1, rfl⟩
      · exact ⟨[], ((l.pause_quiet _ _).leads paused), rfl⟩

/-- **The looks of a round**: at outstanding keys only, in order, each once; at none if the round
opens too late; and at all of them, unless it did or was ended by a fatal answer. -/
theorem round_looks {r : Except Halt (List ClaimKey)} (h : round b l outstanding w = (r, w')) :
    ∃ events, w.Leads events w' ∧ looks events <+: outstanding ∧
      (l.signals.isCancelled w.now = true ∨ l.deadline ≤ w.now → events = []) ∧
      (looks events = outstanding ∨
        events = [] ∧ (l.signals.isCancelled w.now = true ∨ l.deadline ≤ w.now) ∨
        EndsFatally r events) := by
  rw [round] at h
  rcases bind_cases h with ⟨_, w₁, checked, rest⟩ | ⟨e, checked, -⟩
  · have opened := (l.check_quiet _).leads checked
    have early := check_ok checked
    rcases bind_cases rest with ⟨⟨left, waiting⟩, w₂, started, last⟩ | ⟨e, started, rfl⟩
    · obtain ⟨events, led, sub, all⟩ := start_looks outstanding started
      obtain ⟨more, leads, none⟩ := collect_looks _ _ last
      have same : looks (events ++ more) = looks events := by
        rw [looks_append, none, List.append_nil]
      refine ⟨_, opened.trans (led.trans leads), same ▸ sub, fun late => absurd late early, ?_⟩
      rcases all with ⟨all, -⟩ | ⟨_, _, _, _, _, -, -, same⟩
      · exact .inl (same.trans all)
      · cases same
    · obtain ⟨events, led, sub, ⟨-, found, same⟩ | fatal⟩ := start_looks outstanding started
      · cases same
      · refine ⟨events, opened.trans led, sub, fun late => absurd late early, .inr (.inr ?_)⟩
        exact fatal.prepend [] fun _ failed => by cases failed; rfl
  · have late := (check_error checked).1
    exact ⟨[], (l.check_quiet _).leads checked, List.nil_prefix, fun _ => rfl,
      .inr (.inl ⟨rfl, late⟩)⟩

/-! ## What success means -/

/-- What a wait that ended well leaves behind: every key was looked at, one look after the other,
the last look showed the claim ready and those before it settled nothing; and there was no fatal
answer. -/
def SeenReady (keys : List ClaimKey) (events : List Event) : Prop :=
  (∀ k ∈ keys, ∃ earlier last, looksAt k events = (earlier ++ [last]).flatMap Sighting.exchange ∧
    Sighting.isReady last = true ∧ ∀ a ∈ earlier, Sighting.isInconclusive a = true) ∧
  (∀ s ∈ sightings events, Sighting.isFatal s.2 = false) ∧
  ∀ event ∈ events, event.IsLookAt keys

theorem Ending.seenReady {keys : List ClaimKey} {events : List Event}
    (h : Ending l keys (.ok ()) events) : SeenReady keys events := by
  cases h with
  | ready tally =>
    refine ⟨fun k mem => ?_, tally.harmless, tally.isLookAt⟩
    exact tally.exchanges mem List.not_mem_nil

/-- **A wait that succeeds is sound.**  A run of `awaitUntil` is its steps, and with no key to
wait for it takes none.  At every point what is outstanding is what the answers so far leave
outstanding.  Every round looks at outstanding keys only, in key order and at each once.  If the
cancellation or the deadline came before it, it looks at none; otherwise it looks at all of them,
unless it ended the run with a fatal answer.  And if the run succeeds, every key was seen ready at
its last look, and there was no fatal answer. -/
theorem awaitUntil_sound (b : Backend σ) (pollInterval : Duration) (signals : Signals)
    (workspace : String) (deadline : Instant) (keys : List ClaimKey) (now : Instant) (state : σ) :
    let l : Limits := ⟨signals, workspace, deadline⟩
    let begins : Standing σ × World σ := (.first keys, .start now state)
    let run := awaitUntil b pollInterval signals workspace deadline keys begins.2
    (keys = [] → run = (.ok (), begins.2)) ∧
    (keys ≠ [] → Stops b pollInterval l begins run.1 run.2 ∧
      ∀ p w, Reaches b pollInterval l begins (p, w) →
        p.outstanding = remaining keys w.history ∧
        (p.stage = .opening → ∀ r w', round b l p.outstanding w = (r, w') →
          p.outstanding.Nodup ∧
          ∃ events, w.Leads events w' ∧ looks events <+: p.outstanding ∧
            (signals.isCancelled w.now = true ∨ deadline ≤ w.now → events = []) ∧
            (looks events = p.outstanding ∨
              events = [] ∧ (signals.isCancelled w.now = true ∨ deadline ≤ w.now) ∨
              EndsFatally r events))) ∧
    (run.1 = .ok () → SeenReady keys run.2.history) := by
  intro l begins run
  have ran : awaitUntil b pollInterval signals workspace deadline keys begins.2 =
    (run.1, run.2) := rfl
  refine ⟨?_, ?_, ?_⟩
  · rintro rfl
    rfl
  · intro some
    refine ⟨?_, fun p w reached => ?_⟩
    · rcases awaitUntil_stops ran with ⟨none, -, -⟩ | ⟨-, stops⟩
      · exact absurd none some
      · exact stops
    · obtain ⟨events, led, sound⟩ := reached.sound (.first some)
      have past : w.history = events := led.history_of_start
      rw [past]
      refine ⟨sound.tally.outstanding_eq, fun _ r w' ran => ⟨?_, round_looks ran⟩⟩
      rw [sound.tally.outstanding_eq]
      exact remaining_nodup _ _
  · intro success
    obtain ⟨events, led, ending⟩ := awaitUntil_ending ran
    have past : run.2.history = events := led.history_of_start
    rw [success] at ending
    rw [past]
    exact ending.seenReady

/-! ## A round that leaves a look out -/

/-- A store of two claims, of which the first has failed and the second is ready. -/
def oneFailedOneReady : Store :=
  let bare (name : String) : NodeClaim :=
    { metadata := { name := some name, ns := some "kaito" }, spec := {}, status := none }
  let store := (({} : Store).put (bare "a")).put (bare "b")
  (store.script ⟨"kaito", "a"⟩ [.launchFailed "quota exceeded"]).script ⟨"kaito", "b"⟩ [.ready]

/-- **Not every round looks at everything outstanding**: the look at `a` is answered as soon as it
begins, the answer is fatal, and the look at `b` never begins. -/
theorem round_stops_before_second_look :
    let keys : List ClaimKey := [⟨"kaito", "a"⟩, ⟨"kaito", "b"⟩]
    let run := awaitUntil Store.backend (.ofSeconds 5) {} "falcon" 60000000000 keys
      (.start 0 oneFailedOneReady)
    (Standing.first (σ := Store) keys).outstanding = keys ∧
      looks run.2.history = [⟨"kaito", "a"⟩] ∧
      run.1 = .error (.failed (.provisioningFailed "a" "quota exceeded")) :=
  ⟨rfl, rfl, rfl⟩

end NodeProvisioning.Rounds
