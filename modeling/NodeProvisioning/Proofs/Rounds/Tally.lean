import Mathlib.Tactic.ByContra
import NodeProvisioning.Proofs.Rounds.Standing

/-!
# What a wait has seen

A wait carries the set of outstanding keys along and changes it in place, in the middle of a
round, as answers come in.  This file relates that set, at every point of the wait, to the history
so far.

The invariant is `Tally`.  Its first clause is the one of interest: what is outstanding is exactly
what the history leaves `remaining`.  It is not inductive alone.  An answer may only be taken for
a look that is under way, and only one look at a key may be under way at a time; so the invariant
also follows the keys still to be looked at in this round and the looks under way, and says that
these are different keys, all of them outstanding.

## Main definitions

* `Rounds.remaining` — the keys for which no answer showed the claim ready
* `Tally` — the invariant

## Main statements

* `consume_cases` — an answer settles its key, leaves it outstanding, or is fatal
* `Tally.begin`, `Tally.answer` — a look begins, and an answer that is not fatal is taken
* `Tally.exchanges` — a key that is not outstanding was seen ready at its last look
-/

namespace NodeProvisioning

/-- The event is about a look at one of the keys. -/
def Event.IsLookAt (keys : List ClaimKey) : Event → Prop
  | .began _ (.get k) => k ∈ keys
  | .took _ (.get k _) => k ∈ keys
  | _ => False

namespace Rounds

open History
open Run (bind_cases)

variable {σ : Type}

/-- The keys, in order, for which no answer showed the claim ready. -/
def remaining (keys : List ClaimKey) (events : List Event) : List ClaimKey :=
  (SortedMap.inOrder keys).filter fun k =>
    !(sightings events).any fun s => decide (s.1 = k) && Sighting.isReady s.2

theorem mem_remaining_iff {keys : List ClaimKey} {events : List Event} {k : ClaimKey} :
    k ∈ remaining keys events ↔
      k ∈ keys ∧ ∀ a, (k, a) ∈ sightings events → Sighting.isReady a = false := by
  simp only [remaining, List.mem_filter, SortedMap.mem_inOrder, Bool.not_eq_true',
    List.any_eq_false, Bool.and_eq_true, decide_eq_true_eq, not_and, Bool.not_eq_true]
  refine and_congr_right fun _ => ⟨fun h a mem => h (k, a) mem rfl, fun h s mem same => ?_⟩
  subst same
  exact h s.2 mem

theorem remaining_nodup (keys : List ClaimKey) (events : List Event) :
    (remaining keys events).Nodup :=
  (SortedMap.inOrder_nodup keys).filter _

/-- What remains is in key order. -/
theorem remaining_pairwise (keys : List ClaimKey) (events : List Event) :
    (remaining keys events).Pairwise (· < ·) :=
  (SortedMap.inOrder_pairwise keys).filter _

@[simp] theorem remaining_nil (keys : List ClaimKey) :
    remaining keys [] = SortedMap.inOrder keys := by
  simp [remaining]

theorem remaining_append_of_no_sighting {keys : List ClaimKey} {events more : List Event}
    (none : sightings more = []) : remaining keys (events ++ more) = remaining keys events := by
  simp [remaining, none]

/-- Where all events are about looks at some keys, so are the answers. -/
theorem mem_keys_of_sighting {keys : List ClaimKey} {events : List Event}
    (isLookAt : ∀ event ∈ events, event.IsLookAt keys) {s : ClaimKey × Sighting}
    (mem : s ∈ sightings events) : s.1 ∈ keys := by
  obtain ⟨t, found⟩ := mem_sightings_iff_took.1 mem
  exact isLookAt _ found

/-- Where all events are about looks, nothing is created. -/
theorem creations_eq_nil {keys : List ClaimKey} {events : List Event}
    (isLookAt : ∀ event ∈ events, event.IsLookAt keys) : creations events = [] := by
  refine List.filterMap_eq_nil_iff.2 fun event mem => ?_
  have about := isLookAt event mem
  split
  · cases about
  · rfl

/-! ## Taking an answer -/

/-- The keys outstanding after an answer that is not fatal. -/
def settled (outstanding : List ClaimKey) (key : ClaimKey) (a : Sighting) : List ClaimKey :=
  if a.isReady then outstanding.filter (· ≠ key) else outstanding

/-- **Consuming an answer** settles the key or leaves it outstanding, unless the answer is fatal. -/
theorem consume_cases (outstanding : List ClaimKey) (key : ClaimKey) (a : Sighting) :
    (Sighting.isFatal a = false ∧ consume outstanding key a = .ok (settled outstanding key a)) ∨
      ∃ e, Observation.of key a = .terminal e ∧ consume outstanding key a = .error e := by
  unfold consume settled
  cases seen : Observation.of key a with
  | ready =>
    have ready := Observation.of_eq_ready_iff.1 seen
    exact .inl ⟨Sighting.isFatal_of_isReady ready, by rw [if_pos ready]⟩
  | pending =>
    have pending := Observation.of_eq_pending_iff.1 seen
    refine .inl ⟨Sighting.isFatal_of_isInconclusive pending, ?_⟩
    rw [Sighting.isReady_of_isInconclusive pending, if_neg Bool.false_ne_true]
  | terminal e => exact .inr ⟨e, rfl, rfl⟩

/-- Taking an answer does what consuming it does, takes no time, and leaves one event. -/
theorem take_eq {σ : Type} (outstanding : List ClaimKey) (key : ClaimKey) (a : Sighting)
    (x : World σ) :
    take outstanding key a x = ((consume outstanding key a).mapError Halt.failed,
      ⟨x.now, x.state, .took x.now (.get key a) :: x.trace⟩) := by
  simp only [take, Run.bind_apply, Run.note]
  cases consume outstanding key a <;> rfl

theorem remaining_append_took (keys : List ClaimKey) (events : List Event) (t : Instant)
    (key : ClaimKey) (a : Sighting) :
    remaining keys (events ++ [.took t (.get key a)]) = settled (remaining keys events) key a := by
  have taken : sightings [.took t (.get key a)] = [(key, a)] := rfl
  unfold settled remaining
  rw [sightings_append, taken]
  cases ready : Sighting.isReady a with
  | false => simp [ready]
  | true =>
    rw [if_pos rfl, List.filter_filter]
    refine List.filter_congr fun k _ => ?_
    by_cases same : key = k <;> simp [same, ready, Ne.symm, eq_comm]

/-! ## The invariant -/

/-- **The invariant of a wait** for `keys`, after the history `events`: `outstanding` is what the
wait carries along, `ahead` the keys at which a look is still to begin in this round, and `flying`
those at which one is under way. -/
structure Tally (keys outstanding ahead flying : List ClaimKey) (events : List Event) : Prop where
  /-- Nothing is outstanding but the keys that were not seen ready. -/
  outstanding_eq : outstanding = remaining keys events
  /-- No two looks of a round are at one key. -/
  nodup : (ahead ++ flying).Nodup
  /-- Every look of a round is at an outstanding key. -/
  outstanding_of_mem : ∀ k ∈ ahead ++ flying, k ∈ outstanding
  /-- The wait does nothing but look at its keys. -/
  isLookAt : ∀ event ∈ events, event.IsLookAt keys
  /-- No answer was fatal. -/
  harmless : ∀ s ∈ sightings events, Sighting.isFatal s.2 = false
  /-- Every look at a key but one under way was answered before the next began, and every answer but
  the last settled nothing. -/
  exchanged : ∀ k, ∃ answers : List Sighting,
    looksAt k events = answers.flatMap Sighting.exchange ++ (if k ∈ flying then [.begun] else []) ∧
      ∀ a ∈ answers.dropLast, Sighting.isInconclusive a = true

namespace Tally

variable {keys outstanding ahead flying : List ClaimKey} {events : List Event}

/-- At the beginning every key is outstanding. -/
theorem first (keys : List ClaimKey) : Tally keys (SortedMap.inOrder keys) [] [] [] where
  outstanding_eq := (remaining_nil keys).symm
  nodup := .nil
  outstanding_of_mem := by simp
  isLookAt := by simp
  harmless := by simp
  exchanged k := ⟨[], by simp, by simp⟩

/-- A round is to look at everything outstanding. -/
theorem openRound (h : Tally keys outstanding [] [] events) :
    Tally keys outstanding outstanding [] events where
  outstanding_eq := h.outstanding_eq
  nodup := by
    rw [List.append_nil, h.outstanding_eq]
    exact remaining_nodup keys events
  outstanding_of_mem := by simp
  isLookAt := h.isLookAt
  harmless := h.harmless
  exchanged := h.exchanged

/-- The order of the looks under way does not matter. -/
theorem reorder {flying' : List ClaimKey} (h : Tally keys outstanding ahead flying events)
    (perm : flying.Perm flying') : Tally keys outstanding ahead flying' events where
  outstanding_eq := h.outstanding_eq
  nodup := (perm.append_left ahead).nodup_iff.1 h.nodup
  outstanding_of_mem k mem :=
    h.outstanding_of_mem k ((perm.append_left ahead).mem_iff.2 mem)
  isLookAt := h.isLookAt
  harmless := h.harmless
  exchanged k := by
    simpa only [perm.mem_iff] using h.exchanged k

/-- An outstanding key is one of those waited for. -/
theorem mem_keys (h : Tally keys outstanding ahead flying events) {k : ClaimKey}
    (mem : k ∈ outstanding) : k ∈ keys := by
  rw [h.outstanding_eq] at mem
  exact (mem_remaining_iff.1 mem).1

/-- **A look begins** at the next key. -/
theorem begin {key : ClaimKey} (h : Tally keys outstanding (key :: ahead) flying events)
    (t : Instant) :
    Tally keys outstanding ahead (key :: flying) (events ++ [.began t (.get key)]) where
  outstanding_eq := by
    rw [remaining_append_of_no_sighting rfl, h.outstanding_eq]
  nodup := (List.perm_middle.nodup_iff).2 h.nodup
  outstanding_of_mem k mem := h.outstanding_of_mem k (List.perm_middle.mem_iff.1 mem)
  isLookAt event mem := by
    rcases List.mem_append.1 mem with old | new
    · exact h.isLookAt event old
    · rw [List.mem_singleton.1 new]
      exact h.mem_keys (h.outstanding_of_mem key (by simp))
  harmless := by
    rw [sightings_append, show sightings [.began t (.get key)] = [] from rfl, List.append_nil]
    exact h.harmless
  exchanged k := by
    obtain ⟨answers, same, settled⟩ := h.exchanged k
    refine ⟨answers, ?_, settled⟩
    rw [looksAt_append, same]
    by_cases hk : key = k
    · subst hk
      have fresh : key ∉ flying := by
        have := (List.nodup_cons.1 h.nodup).1
        exact fun mem => this (List.mem_append_right _ mem)
      simp [fresh, looksAt]
    · simp [hk, Ne.symm hk, looksAt]

/-- **An answer that is not fatal is taken** for a look under way. -/
theorem answer {key : ClaimKey} (h : Tally keys outstanding ahead (key :: flying) events)
    (t : Instant) {a : Sighting} (harmless : Sighting.isFatal a = false) :
    Tally keys (settled outstanding key a) ahead flying (events ++ [.took t (.get key a)]) where
  outstanding_eq := by
    rw [remaining_append_took, h.outstanding_eq]
  nodup := (List.nodup_cons.1 (List.perm_middle.nodup_iff.1 h.nodup)).2
  outstanding_of_mem k mem := by
    have old := h.outstanding_of_mem k (List.perm_middle.mem_iff.2 (List.mem_cons_of_mem _ mem))
    have other : k ≠ key := by
      rintro rfl
      exact (List.nodup_cons.1 (List.perm_middle.nodup_iff.1 h.nodup)).1 mem
    unfold settled
    split
    · exact List.mem_filter.2 ⟨old, by simpa using other⟩
    · exact old
  isLookAt event mem := by
    rcases List.mem_append.1 mem with old | new
    · exact h.isLookAt event old
    · rw [List.mem_singleton.1 new]
      exact h.mem_keys (h.outstanding_of_mem key (by simp))
  harmless s mem := by
    rw [sightings_append] at mem
    rcases List.mem_append.1 mem with old | new
    · exact h.harmless s old
    · rw [List.mem_singleton.1 new]
      exact harmless
  exchanged k := by
    obtain ⟨answers, same, earlier⟩ := h.exchanged k
    by_cases hk : key = k
    · subst hk
      have fresh : key ∉ flying := by
        have := (List.nodup_cons.1 (List.perm_middle.nodup_iff.1 h.nodup)).1
        exact fun mem => this (List.mem_append_right _ mem)
      refine ⟨answers ++ [a], ?_, ?_⟩
      · rw [looksAt_append, same]
        simp [fresh, looksAt, Sighting.exchange]
      · -- The key was outstanding, so no answer about it before this one showed it ready.
        rw [List.dropLast_concat]
        intro a' mem
        have seen : (key, a') ∈ sightings events := by
          rw [mem_sightings_iff, same]
          refine List.mem_append_left _ (List.mem_flatMap.2 ⟨a', mem, ?_⟩)
          simp [Sighting.exchange]
        have out := h.outstanding_of_mem key (by simp)
        rw [h.outstanding_eq] at out
        exact Sighting.isInconclusive_of_not ((mem_remaining_iff.1 out).2 a' seen)
          (h.harmless _ seen)
    · refine ⟨answers, ?_, earlier⟩
      rw [looksAt_append, same]
      simp [hk, Ne.symm hk, looksAt]

/-- **A key that is not outstanding** was looked at, each of its looks was answered before the next
began, the last answer showed the claim ready, and those before it settled nothing. -/
theorem exchanges (h : Tally keys outstanding ahead flying events) {k : ClaimKey} (mem : k ∈ keys)
    (done : k ∉ outstanding) :
    ∃ earlier last, looksAt k events = (earlier ++ [last]).flatMap Sighting.exchange ∧
      Sighting.isReady last = true ∧ ∀ a ∈ earlier, Sighting.isInconclusive a = true := by
  have seen : ∃ a, (k, a) ∈ sightings events ∧ Sighting.isReady a = true := by
    by_contra unseen
    refine done ?_
    rw [h.outstanding_eq]
    refine mem_remaining_iff.2 ⟨mem, fun a seen => ?_⟩
    by_contra ready
    exact unseen ⟨a, seen, by simpa using ready⟩
  have landed : k ∉ flying := fun mem => done (h.outstanding_of_mem k (List.mem_append_right _ mem))
  obtain ⟨a, seen, ready⟩ := seen
  obtain ⟨answers, same, settled⟩ := h.exchanged k
  rw [if_neg landed, List.append_nil] at same
  have found : a ∈ answers := by
    rw [mem_sightings_iff, same] at seen
    obtain ⟨a', mem', exchange⟩ := List.mem_flatMap.1 seen
    simp only [Sighting.exchange, List.mem_cons, reduceCtorEq, Glimpse.answered.injEq,
      List.not_mem_nil, or_false, false_or] at exchange
    exact exchange ▸ mem'
  have nonempty : answers ≠ [] := List.ne_nil_of_mem found
  rw [← List.dropLast_concat_getLast nonempty] at same found
  refine ⟨answers.dropLast, answers.getLast nonempty, same, ?_, settled⟩
  rcases List.mem_append.1 found with early | late
  · rw [Sighting.isReady_of_isInconclusive (settled a early)] at ready
    cases ready
  · rwa [List.mem_singleton.1 late] at ready

end Tally

end Rounds

end NodeProvisioning
