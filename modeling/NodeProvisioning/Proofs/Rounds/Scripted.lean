import Mathlib.Data.List.Nodup
import NodeProvisioning.Proofs.Rounds.Tally
import NodeProvisioning.Proofs.Run.Answering
import NodeProvisioning.Proofs.Store.Script

/-!
# A wait for scripted claims

A store answers at once.  So a wait for claims that have scripts is determined by the scripts, the
interval between rounds and the deadline, and this file computes it.

The `n + 1`-st round begins `n` intervals after the wait, and it looks at the claims that no look up
to the `n`-th settles.  It takes no time.  So the rounds that begin before the deadline are those
that `roundsWithin` counts, and a wait ends in one of three ways: in the first of these rounds in
which a look is fatal, at the first such look; in the round that finds the last claims ready; or at
the deadline.

## Main definitions

* `roundsWithin` — the rounds that begin before a deadline
* `Rounded` — the world after some rounds that all passed

## Main statements

* `start_pass` — looks none of which is fatal
* `round_pass`, `round_fail` — one round
* `rounds_pass` — several rounds that all pass
* `awaitUntil_scripted` — the wait
-/

namespace NodeProvisioning.Rounds

open History
open Store (Ahead)

/-! ## Looks -/

section Looks

variable {x : World Store} {s₀ : Store} {n : Nat} {key : ClaimKey}

/-- The world after a look that was answered with `a`. -/
def looked (x : World Store) (key : ClaimKey) (a : Sighting) : World Store :=
  ⟨x.now, (x.state.get key).1, .took x.now (.get key a) :: .began x.now (.get key) :: x.trace⟩

theorem leads_looked (a : Sighting) :
    x.Leads [.began x.now (.get key), .took x.now (.get key a)] (looked x key a) := by
  simp [World.Leads, World.history, looked]

/-- **A look that is answered at once** settles its key, leaves it outstanding, or is fatal. -/
theorem start_look {a : Sighting} (answered : (x.state.get key).2 = some a)
    (outstanding rest : List ClaimKey) :
    start Store.backend (key :: rest) outstanding x =
      match Observation.of key a with
      | .ready => start Store.backend rest (outstanding.filter (· ≠ key)) (looked x key a)
      | .pending => start Store.backend rest outstanding (looked x key a)
      | .terminal e => (.error (.failed e), looked x key a) := by
  have begun : begin Store.backend key x =
      (.ok (.inl a), ⟨x.now, (x.state.get key).1, .began x.now (.get key) :: x.trace⟩) := by
    simp only [begin, Run.bind_apply, Run.note, Run.now_apply, Run.act, Store.backend_get, answered]
    rfl
  rw [start, Run.bind_of_ok begun]
  dsimp only
  rw [Run.bind_apply, take_eq, consume]
  cases Observation.of key a <;> rfl

/-- **Looks none of which is fatal.**  Those that come up first in a round all begin and are
answered; what they show ready is outstanding no more. -/
theorem start_pass (outstanding before rest : List ClaimKey) (nodup : before.Nodup)
    (ahead : ∀ k ∈ before, Ahead s₀ n x.state k)
    (harmless : ∀ k ∈ before, ∀ e, s₀.showing k (n + 1) ≠ .terminal e) :
    ∃ y events,
      start Store.backend (before ++ rest) outstanding x =
        start Store.backend rest
          (outstanding.filter fun k => ¬(k ∈ before ∧ s₀.showing k (n + 1) = .ready)) y ∧
      x.Leads events y ∧ looks events = before ∧ y.now = x.now ∧
      (∀ k ∈ before, Ahead s₀ (n + 1) y.state k) ∧
      ∀ k ∉ before, ∀ m, Ahead s₀ m x.state k → Ahead s₀ m y.state k := by
  induction before generalizing x outstanding with
  | nil =>
    refine ⟨x, [], ?_, .refl x, rfl, rfl, List.forall_mem_nil _, fun k _ m h => h⟩
    rw [List.nil_append, List.filter_eq_self.2 fun k _ => by simp]
  | cons key before ih =>
    obtain ⟨absent, nodup⟩ := List.nodup_cons.1 nodup
    obtain ⟨own, ahead⟩ := List.forall_mem_cons.1 ahead
    obtain ⟨fine, harmless⟩ := List.forall_mem_cons.1 harmless
    obtain ⟨a, answered, seen⟩ := Store.get_scripted own.scripted
    rw [own.showing_eq 1 Nat.one_pos] at seen
    have others : ∀ k, k ≠ key → ∀ m, Ahead s₀ m x.state k →
        Ahead s₀ m (looked x key a).state k := fun k ne m h => h.other ne
    have ne_of_mem : ∀ k ∈ before, k ≠ key := fun k mem same => absent (same ▸ mem)
    -- What is outstanding after the first look, and what the rest of the list leaves of it.
    have step : ∃ left, start Store.backend (key :: (before ++ rest)) outstanding x =
          start Store.backend (before ++ rest) left (looked x key a) ∧
        left.filter (fun k => ¬(k ∈ before ∧ s₀.showing k (n + 1) = .ready)) =
          outstanding.filter fun k => ¬(k ∈ key :: before ∧ s₀.showing k (n + 1) = .ready) := by
      rw [start_look answered, seen]
      cases shown : s₀.showing key (n + 1) with
      | terminal e => exact absurd shown (fine e)
      | ready =>
        refine ⟨_, rfl, ?_⟩
        rw [List.filter_filter]
        refine List.filter_congr fun k _ => ?_
        by_cases same : k = key <;> simp [same, shown]
      | pending =>
        refine ⟨_, rfl, List.filter_congr fun k _ => ?_⟩
        by_cases same : k = key <;> simp [same, shown]
    obtain ⟨left, stepped, filtered⟩ := step
    obtain ⟨y, events, passed, led, same, clock, moved, kept⟩ :=
      ih left nodup (fun k mem => others k (ne_of_mem k mem) n (ahead k mem)) harmless
    refine ⟨y, _, ?_, (leads_looked a).trans led, ?_, clock, ?_, ?_⟩
    · rw [List.cons_append, stepped, passed, filtered]
    · rw [looks_append, same]
      rfl
    · exact List.forall_mem_cons.2 ⟨kept key absent _ own.look, moved⟩
    · intro k notMem m h
      refine kept k (List.not_mem_of_not_mem_cons notMem) m (others k ?_ m h)
      exact List.ne_of_not_mem_cons notMem

end Looks

/-! ## Rounds -/

/-- **The world after `n` rounds** of a wait for `keys` that began in `x`, all of which passed.  The
claims that are unsettled were looked at in each of them, the others up to the look that settled
them. -/
structure Rounded (x : World Store) (keys : List ClaimKey) (n : Nat) (y : World Store) : Prop where
  ahead : ∀ k ∈ keys, x.state.unsettled n k = true → Ahead x.state n y.state k
  looked : ∃ events, x.Leads events y ∧
    (∀ k ∈ keys, x.state.unsettled n k = true → (looks events).count k = n) ∧
    ∀ k ∈ keys, ∀ r ≤ n, ∀ seen, x.state.Settles k r seen → (looks events).count k = r

section Rounds

variable {x y : World Store} {keys : List ClaimKey} {n : Nat} {l : Limits}
variable {pollInterval : Duration}

namespace Rounded

theorem zero (scripted : ∀ k ∈ keys, x.state.Scripted k) : Rounded x keys 0 x where
  ahead k mem _ := .refl (scripted k mem)
  looked := by
    refine ⟨[], .refl x, fun k _ _ => rfl, fun k _ r none seen settles => ?_⟩
    exact absurd settles.pos (Nat.not_lt.2 none)

/-- Only looks count. -/
theorem moved (h : Rounded x keys n y) (t : Instant) : Rounded x keys n (y.moved t) :=
  ⟨h.ahead, h.looked⟩

/-- **One more round**, which looks at the claims that are unsettled. -/
theorem succ {z : World Store} {events : List Event} (h : Rounded x keys n y)
    (nodup : keys.Nodup) (led : y.Leads events z)
    (same : looks events = keys.filter (x.state.unsettled n))
    (ahead : ∀ k ∈ keys, x.state.unsettled n k = true → Ahead x.state (n + 1) z.state k) :
    Rounded x keys (n + 1) z := by
  obtain ⟨before, ledBefore, open', settled⟩ := h.looked
  have now : ∀ k ∈ keys, (looks events).count k = if x.state.unsettled n k then 1 else 0 := by
    intro k mem
    rw [same]
    by_cases unsettled : x.state.unsettled n k = true
    · rw [if_pos unsettled]
      exact List.count_eq_one_of_mem (nodup.filter _) (List.mem_filter.2 ⟨mem, unsettled⟩)
    · rw [if_neg unsettled]
      exact List.count_eq_zero_of_not_mem fun found => unsettled (List.mem_filter.1 found).2
  refine ⟨fun k mem unsettled => ahead k mem (Store.unsettled_succ.1 unsettled).1, _,
    ledBefore.trans led, fun k mem unsettled => ?_, fun k mem r le seen settles => ?_⟩
  · obtain ⟨unsettled, -⟩ := Store.unsettled_succ.1 unsettled
    rw [looks_append, List.count_append, open' k mem unsettled, now k mem, if_pos unsettled]
  · rw [looks_append, List.count_append, now k mem]
    rcases Nat.le_succ_iff.1 le with le | rfl
    · have settledBefore : ¬ x.state.unsettled n k = true :=
        fun unsettled => Store.unsettled_iff.1 unsettled r le seen settles
      rw [if_neg settledBefore, settled k mem r le seen settles, Nat.add_zero]
    · rw [if_pos settles.unsettled, open' k mem settles.unsettled]

end Rounded

/-- What is outstanding after a round is what it leaves unsettled, if no look is fatal. -/
theorem filter_unsettled_succ {s : Store}
    (harmless : ∀ k ∈ keys, ∀ e, ¬ s.Settles k (n + 1) (.terminal e)) :
    (keys.filter (s.unsettled n)).filter
        (fun k => ¬(k ∈ keys.filter (s.unsettled n) ∧ s.showing k (n + 1) = .ready)) =
      keys.filter (s.unsettled (n + 1)) := by
  rw [List.filter_filter]
  refine List.filter_congr fun k mem => Bool.eq_iff_iff.2 ?_
  rw [Store.unsettled_succ, Bool.and_eq_true, decide_eq_true_eq, List.mem_filter]
  constructor
  · rintro ⟨notReady, unsettled⟩
    refine ⟨unsettled, ?_⟩
    cases shown : s.showing k (n + 1) with
    | pending => rfl
    | ready => exact absurd ⟨⟨mem, unsettled⟩, shown⟩ notReady
    | terminal e =>
      exact absurd (shown ▸ .of_unsettled unsettled (by rw [shown]; nofun)) (harmless k mem e)
  · rintro ⟨unsettled, shown⟩
    refine ⟨fun ⟨_, ready⟩ => ?_, unsettled⟩
    rw [shown] at ready
    cases ready

/-- **A round that passes** looks at the unsettled claims, takes no time, and leaves those
outstanding that it does not settle. -/
theorem round_pass (rounded : Rounded x keys n y) (nodup : keys.Nodup)
    (silent : l.signals.SilentUntil l.deadline) (early : y.now < l.deadline)
    (harmless : ∀ k ∈ keys, ∀ e, ¬ x.state.Settles k (n + 1) (.terminal e)) :
    ∃ z, round Store.backend l (keys.filter (x.state.unsettled n)) y =
        (.ok (keys.filter (x.state.unsettled (n + 1))), z) ∧
      z.now = y.now ∧ Rounded x keys (n + 1) z := by
  let outstanding : List ClaimKey := keys.filter (x.state.unsettled n)
  obtain ⟨z, events, started, led, same, clock, ahead, -⟩ := start_pass outstanding outstanding []
    (x := y) (nodup.filter _)
    (fun k mem => rounded.ahead k (List.mem_filter.1 mem).1 (List.mem_filter.1 mem).2)
    (fun k mem e fatal => harmless k (List.mem_filter.1 mem).1 e
      (fatal ▸ .of_unsettled (List.mem_filter.1 mem).2 (by rw [fatal]; nofun)))
  refine ⟨z, ?_, clock, rounded.succ nodup led same fun k mem unsettled =>
    ahead k (List.mem_filter.2 ⟨mem, unsettled⟩)⟩
  have begun : start Store.backend outstanding outstanding y =
      (.ok (keys.filter (x.state.unsettled (n + 1)), []), z) := by
    rw [List.append_nil, filter_unsettled_succ harmless] at started
    exact started
  rw [round, Run.bind_of_ok (l.check_eq outstanding silent (Nat.le_of_lt early) early),
    Run.bind_of_ok begun]
  rfl

/-- **A round with a fatal look** ends at the first one. -/
theorem round_fail {before after : List ClaimKey} {key : ClaimKey} {e : ProvisionError}
    (rounded : Rounded x keys n y) (nodup : keys.Nodup)
    (silent : l.signals.SilentUntil l.deadline) (early : y.now < l.deadline)
    (split : keys.filter (x.state.unsettled n) = before ++ key :: after)
    (harmless : ∀ k ∈ before, ∀ e, x.state.showing k (n + 1) ≠ .terminal e)
    (fatal : x.state.showing key (n + 1) = .terminal e) :
    ∃ z, round Store.backend l (keys.filter (x.state.unsettled n)) y = (.error (.failed e), z) ∧
      z.now = y.now := by
  have distinct : (before ++ key :: after).Nodup := split ▸ nodup.filter _
  have ahead : ∀ k ∈ before ++ key :: after, Ahead x.state n y.state k := by
    intro k mem
    rw [← split] at mem
    exact rounded.ahead k (List.mem_filter.1 mem).1 (List.mem_filter.1 mem).2
  have absent : key ∉ before := fun mem =>
    (List.nodup_append.1 distinct).2.2 key mem key List.mem_cons_self rfl
  obtain ⟨z, -, started, -, -, clock, -, kept⟩ := start_pass (before ++ key :: after) before
    (key :: after) (List.nodup_append.1 distinct).1
    (fun k mem => ahead k (List.mem_append_left _ mem)) harmless
  have own := kept key absent n (ahead key (by simp))
  obtain ⟨a, answered, seen⟩ := Store.get_scripted own.scripted
  rw [own.showing_eq 1 Nat.one_pos, fatal] at seen
  rw [start_look answered, seen] at started
  refine ⟨looked z key a, ?_, clock⟩
  rw [round, Run.bind_of_ok (l.check_eq _ silent (Nat.le_of_lt early) early), split]
  exact Run.bind_of_error started

/-- **Several rounds that all pass.**  The round after them begins as many intervals later with what
they leave unsettled. -/
theorem rounds_pass {span : Nat} (scripted : ∀ k ∈ keys, x.state.Scripted k) (nodup : keys.Nodup)
    (silent : l.signals.SilentUntil l.deadline) (limit : l.deadline = x.now + span)
    (early : n * pollInterval.nanos < span)
    (harmless : ∀ k ∈ keys, ∀ r ≤ n, ∀ e, ¬ x.state.Settles k r (.terminal e))
    (unsettled : keys.filter (x.state.unsettled n) ≠ []) :
    ∃ y, Rounded x keys n y ∧ y.now = x.now + n * pollInterval.nanos ∧ y.now < l.deadline ∧
      ∀ fuel, rounds Store.backend pollInterval l (n + fuel) keys x =
        rounds Store.backend pollInterval l fuel (keys.filter (x.state.unsettled n)) y := by
  have inTime : x.now + n * pollInterval.nanos < l.deadline := by
    rw [limit]
    exact Nat.add_lt_add_left early _
  induction n with
  | zero =>
    refine ⟨x, .zero scripted, by simp, by simpa using inTime, fun fuel => ?_⟩
    rw [List.filter_eq_self.2 fun k _ => Store.unsettled_zero, Nat.zero_add]
  | succ n ih =>
    have next : (n + 1) * pollInterval.nanos = n * pollInterval.nanos + pollInterval.nanos :=
      Nat.succ_mul _ _
    have before : keys.filter (x.state.unsettled n) ≠ [] := by
      obtain ⟨k, mem⟩ := List.exists_mem_of_ne_nil _ unsettled
      obtain ⟨mem, holds⟩ := List.mem_filter.1 mem
      exact List.ne_nil_of_mem
        (List.mem_filter.2 ⟨mem, Store.unsettled_of_le (Nat.le_succ n) holds⟩)
    have early' : n * pollInterval.nanos < span := by omega
    obtain ⟨y, rounded, clock, opens, continued⟩ := ih early'
      (fun k mem r le => harmless k mem r (Nat.le_succ_of_le le)) before
      (by rw [limit]; exact Nat.add_lt_add_left early' _)
    obtain ⟨z, passed, same, rounded⟩ := round_pass rounded nodup silent opens
      fun k mem => harmless k mem (n + 1) (Nat.le_refl _)
    have later : z.now + pollInterval.nanos = x.now + (n + 1) * pollInterval.nanos := by
      rw [same, clock, next, Nat.add_assoc]
    have due : z.now + pollInterval.nanos < l.deadline := later ▸ inTime
    refine ⟨z.moved (z.now + pollInterval.nanos), rounded.moved _, later, due, fun fuel => ?_⟩
    · have paused := l.pause_eq (keys.filter (x.state.unsettled (n + 1)))
        (Nat.le_add_right z.now pollInterval.nanos) (silent.mono (Nat.le_of_lt due)) due
      rw [show n + 1 + fuel = n + (fuel + 1) by omega, continued, rounds, Run.bind_of_ok passed,
        if_neg (by simpa using unsettled), Run.bind_of_ok (Run.now_apply z),
        Run.bind_of_ok paused]

/-! ## How a wait ends -/

/-- **The first fatal look** ends the wait, in the round in which it comes. -/
theorem rounds_fail {span : Nat} {before after : List ClaimKey} {key : ClaimKey}
    {e : ProvisionError} (fuel : Nat) (scripted : ∀ k ∈ keys, x.state.Scripted k)
    (nodup : keys.Nodup) (silent : l.signals.SilentUntil l.deadline)
    (limit : l.deadline = x.now + span) (early : n * pollInterval.nanos < span)
    (harmless : ∀ k ∈ keys, ∀ r ≤ n, ∀ e, ¬ x.state.Settles k r (.terminal e))
    (split : keys.filter (x.state.unsettled n) = before ++ key :: after)
    (fine : ∀ k ∈ before, ∀ e, x.state.showing k (n + 1) ≠ .terminal e)
    (fatal : x.state.showing key (n + 1) = .terminal e) :
    ∃ z, rounds Store.backend pollInterval l (n + (fuel + 1)) keys x = (.error (.failed e), z) ∧
      z.now = x.now + n * pollInterval.nanos := by
  obtain ⟨y, rounded, clock, opens, continued⟩ := rounds_pass scripted nodup silent limit early
    harmless (by rw [split]; simp)
  obtain ⟨z, failed, same⟩ := round_fail rounded nodup silent opens split fine fatal
  refine ⟨z, ?_, same.trans clock⟩
  rw [continued, rounds]
  exact Run.bind_of_error failed

/-- **The round that settles the last claims** ends the wait. -/
theorem rounds_settle {span : Nat} (fuel : Nat) (scripted : ∀ k ∈ keys, x.state.Scripted k)
    (nodup : keys.Nodup) (silent : l.signals.SilentUntil l.deadline)
    (limit : l.deadline = x.now + span) (early : n * pollInterval.nanos < span)
    (harmless : ∀ k ∈ keys, ∀ r ≤ n + 1, ∀ e, ¬ x.state.Settles k r (.terminal e))
    (unsettled : keys.filter (x.state.unsettled n) ≠ [])
    (settled : keys.filter (x.state.unsettled (n + 1)) = []) :
    ∃ z, rounds Store.backend pollInterval l (n + (fuel + 1)) keys x = (.ok (), z) ∧
      z.now = x.now + n * pollInterval.nanos ∧ Rounded x keys (n + 1) z := by
  obtain ⟨y, rounded, clock, opens, continued⟩ := rounds_pass scripted nodup silent limit early
    (fun k mem r le => harmless k mem r (Nat.le_succ_of_le le)) unsettled
  obtain ⟨z, passed, same, rounded⟩ := round_pass rounded nodup silent opens
    fun k mem => harmless k mem (n + 1) (Nat.le_refl _)
  refine ⟨z, ?_, same.trans clock, rounded⟩
  rw [continued, rounds, Run.bind_of_ok passed, settled]
  rfl

/-- **The deadline** ends the wait, if rounds that pass leave claims unsettled up to it. -/
theorem rounds_expire {span : Nat} (fuel : Nat) (scripted : ∀ k ∈ keys, x.state.Scripted k)
    (nodup : keys.Nodup) (silent : l.signals.SilentUntil l.deadline)
    (limit : l.deadline = x.now + span) (early : n * pollInterval.nanos < span)
    (late : span ≤ (n + 1) * pollInterval.nanos)
    (harmless : ∀ k ∈ keys, ∀ r ≤ n + 1, ∀ e, ¬ x.state.Settles k r (.terminal e))
    (unsettled : keys.filter (x.state.unsettled (n + 1)) ≠ []) :
    ∃ z, rounds Store.backend pollInterval l (n + (fuel + 1)) keys x =
        (.error (.failed (l.timeout (keys.filter (x.state.unsettled (n + 1))))), z) ∧
      z.now = l.deadline := by
  obtain ⟨k, mem⟩ := List.exists_mem_of_ne_nil _ unsettled
  obtain ⟨mem, holds⟩ := List.mem_filter.1 mem
  have before : keys.filter (x.state.unsettled n) ≠ [] :=
    List.ne_nil_of_mem (List.mem_filter.2 ⟨mem, Store.unsettled_of_le (Nat.le_succ n) holds⟩)
  obtain ⟨y, rounded, clock, opens, continued⟩ := rounds_pass scripted nodup silent limit early
    (fun k mem r le => harmless k mem r (Nat.le_succ_of_le le)) before
  obtain ⟨z, passed, same, -⟩ := round_pass rounded nodup silent opens
    fun k mem => harmless k mem (n + 1) (Nat.le_refl _)
  have due : l.deadline ≤ z.now + pollInterval.nanos := by
    rw [limit, same, clock, Nat.add_assoc, ← Nat.succ_mul]
    exact Nat.add_le_add_left late _
  have expired := l.pause_eq_timeout (keys.filter (x.state.unsettled (n + 1)))
    (some (z.now + pollInterval.nanos)) (Nat.le_of_lt (same ▸ opens)) silent
    (fun t isSet => by cases isSet; exact due)
  refine ⟨z.moved l.deadline, ?_, rfl⟩
  rw [continued, rounds, Run.bind_of_ok passed, if_neg (by simpa using unsettled),
    Run.bind_of_ok (Run.now_apply z)]
  exact Run.bind_of_error expired

end Rounds

/-! ## The rounds of a wait -/

section Closed

variable {pollInterval : Duration} {span n : Nat}

/-- **The rounds that begin within some time**, if none of them takes time itself: the time divided
by the interval between rounds, rounded up. -/
def roundsWithin (pollInterval : Duration) (span : Nat) : Nat :=
  (span + pollInterval.nanos - 1) / pollInterval.nanos

/-- The `n + 1`-st round begins `n` intervals after the first. -/
theorem lt_roundsWithin_iff (interval : 0 < pollInterval.nanos) :
    n < roundsWithin pollInterval span ↔ n * pollInterval.nanos < span := by
  unfold roundsWithin
  rw [← Nat.succ_le_iff, Nat.le_div_iff_mul_le interval, Nat.succ_mul]
  omega

/-- A wait is allowed all rounds that begin before its deadline. -/
theorem roundLimit_eq (interval : 0 < pollInterval.nanos) (now : Instant)
    (early : n * pollInterval.nanos < span) :
    ∃ fuel, roundLimit pollInterval now (now + span) = n + (fuel + 1) := by
  have enough : n ≤ span / pollInterval.nanos :=
    (Nat.le_div_iff_mul_le interval).2 (Nat.le_of_lt early)
  have limit : roundLimit pollInterval now (now + span) =
      span / pollInterval.nanos + idleRounds := by
    rw [roundLimit, Nat.add_sub_cancel_left, Nat.max_eq_right interval]
  refine ⟨span / pollInterval.nanos - n + (idleRounds - 1), ?_⟩
  rw [limit, idleRounds]
  omega

variable {x : World Store} {keys : List ClaimKey} {signals : Signals}

/-- The first fatal look of a round, if there is one. -/
theorem exists_first_fatal {s : Store} {keys : List ClaimKey}
    (fatal : ∃ k ∈ keys, ∃ e, s.showing k (n + 1) = .terminal e) :
    ∃ before key after e, keys = before ++ key :: after ∧ s.showing key (n + 1) = .terminal e ∧
      ∀ k ∈ before, ∀ e, s.showing k (n + 1) ≠ .terminal e := by
  obtain ⟨k, mem, isFatal⟩ := fatal
  have found : (keys.find? fun k => (s.showing k (n + 1)).isTerminal).isSome = true :=
    List.find?_isSome.2 ⟨k, mem, Observation.isTerminal_iff.2 isFatal⟩
  obtain ⟨key, found⟩ := Option.isSome_iff_exists.1 found
  obtain ⟨isFatal, before, after, split, fine⟩ := List.find?_eq_some_iff_append.1 found
  obtain ⟨e, isFatal⟩ := Observation.isTerminal_iff.1 isFatal
  refine ⟨before, key, after, e, split, isFatal, fun k mem e same => ?_⟩
  have clear := fine k mem
  rw [same] at clear
  cases clear

variable {workspace : String}

/-- **A wait that fails** ends with the first fatal look, in key order where several come in the
same round. -/
theorem awaitUntil_fails (interval : 0 < pollInterval.nanos)
    (scripted : ∀ k ∈ keys, x.state.Scripted k) (silent : signals.SilentUntil (x.now + span))
    (fatal : ∃ k ∈ keys, ∃ r ≤ roundsWithin pollInterval span, ∃ e,
      x.state.Settles k r (.terminal e)) :
    ∃ key ∈ keys, ∃ r ≤ roundsWithin pollInterval span, ∃ e,
      x.state.Settles key r (.terminal e) ∧
      (∀ k ∈ keys, ∀ r' e', x.state.Settles k r' (.terminal e') →
        r < r' ∨ r = r' ∧ (key = k ∨ key < k)) ∧
      ∃ z, awaitUntil Store.backend pollInterval signals workspace (x.now + span) keys x =
          (.error (.failed e), z) ∧ z.now = x.now + (r - 1) * pollInterval.nanos := by
  obtain ⟨n, inTime, ⟨k₁, mem₁, e₁, settles₁⟩, harmless⟩ := Store.exists_first_failure fatal
  have some : keys ≠ [] := List.ne_nil_of_mem mem₁
  have early := (lt_roundsWithin_iff interval).1 inTime
  obtain ⟨before, key, after, e, split, isFatal, fine⟩ := exists_first_fatal
    ⟨k₁, List.mem_filter.2 ⟨SortedMap.mem_inOrder.2 mem₁, settles₁.unsettled⟩, e₁,
      settles₁.shows_eq⟩
  obtain ⟨mem, unsettled⟩ := List.mem_filter.1 (split ▸ List.mem_append_right before
    List.mem_cons_self : key ∈ (SortedMap.inOrder keys).filter (x.state.unsettled n))
  have settles : x.state.Settles key (n + 1) (.terminal e) :=
    isFatal ▸ .of_unsettled unsettled (by rw [isFatal]; nofun)
  refine ⟨key, SortedMap.mem_inOrder.1 mem, n + 1, inTime, e, settles, fun k mem r' e' other => ?_,
    ?_⟩
  · have notBefore : n + 1 ≤ r' := Nat.lt_of_not_le fun le => harmless k mem r' le e' other
    rcases Nat.lt_or_eq_of_le notBefore with lt | rfl
    · exact .inl lt
    · have sorted : (before ++ key :: after).Pairwise (· < ·) :=
        split ▸ (SortedMap.inOrder_pairwise keys).filter _
      have among : k ∈ before ++ key :: after :=
        split ▸ List.mem_filter.2 ⟨SortedMap.mem_inOrder.2 mem, other.unsettled⟩
      refine .inr ⟨rfl, ?_⟩
      rcases List.mem_append.1 among with early | late
      · exact absurd other.shows_eq (fine k early e')
      · rcases List.mem_cons.1 late with rfl | late
        · exact .inl rfl
        · exact .inr ((List.pairwise_cons.1 (List.pairwise_append.1 sorted).2.1).1 k late)
  · obtain ⟨fuel, limit⟩ := roundLimit_eq interval x.now early
    rw [awaitUntil_eq_rounds some, limit]
    exact rounds_fail fuel (fun k mem => scripted k (SortedMap.mem_inOrder.1 mem))
      (SortedMap.inOrder_nodup keys) silent rfl early
      (fun k mem => harmless k (SortedMap.mem_inOrder.1 mem)) split fine isFatal

/-- **A wait that succeeds** ends in the round that finds the last claims ready, and has looked at
each claim up to then. -/
theorem awaitUntil_settles (some : keys ≠ []) (interval : 0 < pollInterval.nanos)
    (scripted : ∀ k ∈ keys, x.state.Scripted k) (silent : signals.SilentUntil (x.now + span))
    (ready : ∀ k ∈ keys, ∃ r ≤ roundsWithin pollInterval span, x.state.Settles k r .ready) :
    ∃ key ∈ keys, ∃ r, x.state.Settles key r .ready ∧
      (∀ k ∈ keys, ∀ r', x.state.Settles k r' .ready → r' ≤ r) ∧
      ∃ z events, awaitUntil Store.backend pollInterval signals workspace (x.now + span) keys x =
          (.ok (), z) ∧ z.now = x.now + (r - 1) * pollInterval.nanos ∧ x.Leads events z ∧
        ∀ k ∈ keys, ∀ r', x.state.Settles k r' .ready → (looks events).count k = r' := by
  have settled : ∀ k ∈ keys, x.state.unsettled (roundsWithin pollInterval span) k = false := by
    intro k mem
    obtain ⟨r, le, settles⟩ := ready k mem
    exact eq_false_of_ne_true fun isOpen => Store.unsettled_iff.1 isOpen r le _ settles
  obtain ⟨n, inTime, ⟨key, mem, isLast⟩, isOver⟩ := Store.exists_last_settled some settled
  have latest : ∀ k ∈ keys, ∀ r', x.state.Settles k r' .ready → r' ≤ n + 1 := by
    intro k mem r' settles
    refine Nat.le_of_not_lt fun later => ?_
    exact Bool.false_ne_true ((isOver k mem).symm.trans (settles.unsettled_iff.2 later))
  obtain ⟨r, -, settles⟩ := ready key mem
  obtain rfl : r = n + 1 :=
    Nat.le_antisymm (latest key mem r settles) (settles.unsettled_iff.1 isLast)
  have harmless : ∀ k ∈ SortedMap.inOrder keys, ∀ r ≤ n + 1, ∀ e,
      ¬ x.state.Settles k r (.terminal e) := by
    intro k mem r _ e fatal
    obtain ⟨r', -, settles⟩ := ready k (SortedMap.mem_inOrder.1 mem)
    cases (fatal.unique settles).2
  have early := (lt_roundsWithin_iff interval).1 inTime
  obtain ⟨fuel, limit⟩ := roundLimit_eq interval x.now early
  obtain ⟨z, ended, clock, rounded⟩ := rounds_settle
    (l := ⟨signals, workspace, x.now + span⟩) fuel
    (fun k mem => scripted k (SortedMap.mem_inOrder.1 mem))
    (SortedMap.inOrder_nodup keys) silent rfl early harmless
    (List.ne_nil_of_mem (List.mem_filter.2 ⟨SortedMap.mem_inOrder.2 mem, isLast⟩))
    (List.filter_eq_nil_iff.2 fun k mem => by simp [isOver k (SortedMap.mem_inOrder.1 mem)])
  obtain ⟨events, led, -, counts⟩ := rounded.looked
  refine ⟨key, mem, n + 1, settles, latest, z, events, ?_, clock, led, fun k mem r' settles => ?_⟩
  · rw [awaitUntil_eq_rounds some, limit]
    exact ended
  · exact counts k (SortedMap.mem_inOrder.2 mem) r' (latest k mem r' settles) _ settles

/-- **A wait that expires** reports the claims that no look up to the deadline settles. -/
theorem awaitUntil_expires (interval : 0 < pollInterval.nanos)
    (scripted : ∀ k ∈ keys, x.state.Scripted k) (silent : signals.SilentUntil (x.now + span))
    (harmless : ∀ k ∈ keys, ∀ r ≤ roundsWithin pollInterval span, ∀ e,
      ¬ x.state.Settles k r (.terminal e))
    (pending : ∃ k ∈ keys, x.state.unsettled (roundsWithin pollInterval span) k = true) :
    ∃ z, awaitUntil Store.backend pollInterval signals workspace (x.now + span) keys x =
        (.error (.failed (.timeout workspace (((SortedMap.inOrder keys).filter
          (x.state.unsettled (roundsWithin pollInterval span))).map (·.name)))), z) ∧
      z.now = x.now + span := by
  obtain ⟨k, mem, unsettled⟩ := pending
  have some : keys ≠ [] := List.ne_nil_of_mem mem
  rw [awaitUntil_eq_rounds some]
  cases last : roundsWithin pollInterval span with
  | zero =>
    -- The deadline has come when the first round is to begin.
    have none : span = 0 := by
      refine Nat.eq_zero_of_not_pos fun pos => ?_
      have first : 0 < roundsWithin pollInterval span :=
        (lt_roundsWithin_iff interval).2 (by rwa [Nat.zero_mul])
      rw [last] at first
      exact Nat.lt_irrefl 0 first
    subst none
    have begins : 0 < roundLimit pollInterval x.now (x.now + 0) :=
      Nat.lt_of_lt_of_le (Nat.succ_pos 999999) (Nat.le_add_left idleRounds _)
    obtain ⟨fuel, limit⟩ := Nat.exists_eq_add_one.2 begins
    have expired := Limits.check_eq_timeout (l := ⟨signals, workspace, x.now + 0⟩)
      (SortedMap.inOrder keys) silent rfl
    refine ⟨x, ?_, rfl⟩
    rw [limit, List.filter_eq_self.2 fun k _ => Store.unsettled_zero, rounds, round]
    exact Run.bind_of_error (Run.bind_of_error expired)
  | succ n =>
    rw [last] at harmless unsettled
    have early : n * pollInterval.nanos < span :=
      (lt_roundsWithin_iff interval).1 (last ▸ Nat.lt_succ_self n)
    have late : span ≤ (n + 1) * pollInterval.nanos := by
      refine Nat.le_of_not_lt fun more => ?_
      have another := (lt_roundsWithin_iff interval).2 more
      rw [last] at another
      exact Nat.lt_irrefl _ another
    obtain ⟨fuel, limit⟩ := roundLimit_eq interval x.now early
    rw [limit]
    exact rounds_expire fuel (fun k mem => scripted k (SortedMap.mem_inOrder.1 mem))
      (SortedMap.inOrder_nodup keys) silent rfl early late
      (fun k mem => harmless k (SortedMap.mem_inOrder.1 mem))
      (List.ne_nil_of_mem (List.mem_filter.2 ⟨SortedMap.mem_inOrder.2 mem, unsettled⟩))

variable (pollInterval span x) in
/-- **A scripted wait in closed form.**  The claims are there, looks at them are answered and show
scripts, and nothing from outside comes up to the deadline; rounds begin at intervals until then.

If a look is fatal in one of these rounds, the first such round decides, and in it the first such
claim in key order: its error is the result.  Otherwise, if every claim is found ready in one of
these rounds, the wait succeeds in the round that finds the last one, and each claim was looked at
up to the look that found it ready and no further.  Otherwise the wait expires at its deadline, and
what is pending are the claims that none of these rounds settled, in key order. -/
theorem awaitUntil_scripted (workspace : String) (some : keys ≠ [])
    (interval : 0 < pollInterval.nanos) (scripted : ∀ k ∈ keys, x.state.Scripted k)
    (silent : signals.SilentUntil (x.now + span)) :
    let s := x.state
    let last := roundsWithin pollInterval span
    let run := awaitUntil Store.backend pollInterval signals workspace (x.now + span) keys x
    ((∃ k ∈ keys, ∃ r ≤ last, ∃ e, s.Settles k r (.terminal e)) →
      ∃ key ∈ keys, ∃ r ≤ last, ∃ e, s.Settles key r (.terminal e) ∧
        (∀ k ∈ keys, ∀ r' e', s.Settles k r' (.terminal e') →
          r < r' ∨ r = r' ∧ (key = k ∨ key < k)) ∧
        run.1 = .error (.failed e) ∧ run.2.now = x.now + (r - 1) * pollInterval.nanos) ∧
    ((∀ k ∈ keys, ∃ r ≤ last, s.Settles k r .ready) →
      run.1 = .ok () ∧
      (∃ key ∈ keys, ∃ r, s.Settles key r .ready ∧
        (∀ k ∈ keys, ∀ r', s.Settles k r' .ready → r' ≤ r) ∧
        run.2.now = x.now + (r - 1) * pollInterval.nanos) ∧
      ∃ events, x.Leads events run.2 ∧
        ∀ k ∈ keys, ∀ r, s.Settles k r .ready → (looks events).count k = r) ∧
    ((∀ k ∈ keys, ∀ r ≤ last, ∀ e, ¬ s.Settles k r (.terminal e)) →
      (∃ k ∈ keys, ∀ r ≤ last, ¬ s.Settles k r .ready) →
      run.1 = .error (.failed (.timeout workspace
        (((SortedMap.inOrder keys).filter (s.unsettled last)).map (·.name)))) ∧
      run.2.now = x.now + span) := by
  intro s last run
  refine ⟨fun fatal => ?_, fun ready => ?_, fun harmless pending => ?_⟩
  · obtain ⟨key, mem, r, le, e, settles, least, z, ended, clock⟩ :=
      awaitUntil_fails interval scripted silent fatal
    have same : run = _ := ended
    exact ⟨key, mem, r, le, e, settles, least, congrArg Prod.fst same, same ▸ clock⟩
  · obtain ⟨key, mem, r, settles, latest, z, events, ended, clock, led, counts⟩ :=
      awaitUntil_settles some interval scripted silent ready
    have same : run = _ := ended
    exact ⟨congrArg Prod.fst same, ⟨key, mem, r, settles, latest, same ▸ clock⟩, events,
      same ▸ led, counts⟩
  · obtain ⟨k, mem, notReady⟩ := pending
    have unsettled : s.unsettled last k = true := by
      refine Store.unsettled_iff.2 fun r le seen settles => ?_
      cases seen with
      | pending => exact settles.ne_pending rfl
      | ready => exact notReady r le settles
      | terminal e => exact harmless k mem r le e settles
    obtain ⟨z, ended, clock⟩ := awaitUntil_expires interval scripted silent harmless
      ⟨k, mem, unsettled⟩
    have same : run = _ := ended
    exact ⟨congrArg Prod.fst same, same ▸ clock⟩

/-- A claim of which nothing is known but its key. -/
def bareClaim (name : String) : NodeClaim := ⟨{ name, ns := some "kaito" }, {}, none⟩

/-- A store with two claims, the first ready at once, the second at the third look. -/
def staggered : Store :=
  ((({} : Store).put (bareClaim "a")).put (bareClaim "b")).script ⟨"kaito", "a"⟩ [.ready]
    |>.script ⟨"kaito", "b"⟩ [.pending, .refusal 503 "unavailable", .ready]

/-- A wait of twelve seconds with a round every five finds both ready, and looks at the second
claim three times. -/
theorem staggered_ready :
    let keys : List ClaimKey := [⟨"kaito", "b"⟩, ⟨"kaito", "a"⟩]
    let run := awaitUntil Store.backend (.ofSeconds 5) {} "falcon"
      (0 + (Duration.ofSeconds 12).nanos) keys (.start 0 staggered)
    run.1 = .ok () ∧ (looks run.2.history).count ⟨"kaito", "a"⟩ = 1 ∧
      (looks run.2.history).count ⟨"kaito", "b"⟩ = 3 := by
  intro keys run
  have both {P : ClaimKey → Prop} (b : P ⟨"kaito", "b"⟩) (a : P ⟨"kaito", "a"⟩) :
      ∀ k ∈ keys, P k :=
    List.forall_mem_cons.2 ⟨b, List.forall_mem_cons.2 ⟨a, List.forall_mem_nil _⟩⟩
  have a : staggered.Settles ⟨"kaito", "a"⟩ 1 .ready :=
    ⟨by decide, by decide +kernel, nofun, by decide +kernel⟩
  have b : staggered.Settles ⟨"kaito", "b"⟩ 3 .ready :=
    ⟨by decide, by decide +kernel, nofun, by decide +kernel⟩
  have scripted : ∀ k ∈ keys, staggered.Scripted k :=
    both ⟨by decide +kernel, List.not_mem_nil, _, rfl, by decide⟩
      ⟨by decide +kernel, List.not_mem_nil, _, rfl, by decide⟩
  obtain ⟨-, success, -⟩ := awaitUntil_scripted (.ofSeconds 5) (Duration.ofSeconds 12).nanos
    (.start 0 staggered) "falcon" (List.cons_ne_nil _ _) (by decide) scripted (.never _)
  obtain ⟨ok, -, events, led, counts⟩ :=
    success (both ⟨3, by decide, b⟩ ⟨1, by decide, a⟩)
  rw [← led.history_of_start] at counts
  refine ⟨ok, ?_, ?_⟩
  · exact counts _ (List.mem_cons_of_mem _ List.mem_cons_self) 1 a
  · exact counts _ List.mem_cons_self 3 b

end Closed

end NodeProvisioning.Rounds
