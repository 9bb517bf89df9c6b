import NodeProvisioning.Run.Basic

/-!
# Which alarm goes off

A wait ends with the first of its alarms to go off.  An alarm that is overdue goes off at once, and
of several that go off at one instant the first in the list counts.  So an alarm goes off next if
those before it in the list go off later and those after it no earlier; and an alarm that is put in
front of others goes off next unless one of them goes off strictly before it.

## Main statements

* `Alarm.next_le`, `Alarm.exists_of_next` — nothing goes off before the next alarm, which is one of
  those that are set
* `Alarm.next_cons_of_ne` — where the first in the list is not the next
* `Alarm.next_append` — which alarm is the next
-/

namespace NodeProvisioning

namespace Alarm

variable {ω : Type} {now t : Instant} {meaning : ω} {first : Alarm ω} {alarms : List (Alarm ω)}

theorem next_cons_of_none (never : first.due = none) :
    next now (first :: alarms) = next now alarms := by
  rw [next, never]

/-- Where nothing is the next alarm, none is set. -/
theorem due_eq_none_of_next (h : next now alarms = none) : ∀ a ∈ alarms, a.due = none := by
  induction alarms with
  | nil => simp
  | cons first rest ih =>
    cases due : first.due with
    | none =>
      rw [next_cons_of_none due] at h
      exact List.forall_mem_cons.2 ⟨due, ih h⟩
    | some d =>
      rw [next, due] at h
      cases later : next now rest with
      | none =>
        rw [later] at h
        cases h
      | some found =>
        rw [later] at h
        dsimp only at h
        split at h <;> cases h

/-- **The first of some alarms** goes off next, or a later one does, and then earlier. -/
theorem next_cons_of_some {d : Instant} (due : first.due = some d)
    (h : next now (first :: alarms) = some (t, meaning)) :
    (t = max now d ∧ meaning = first.meaning ∧
        ∀ u m, next now alarms = some (u, m) → max now d ≤ u) ∨
      next now alarms = some (t, meaning) ∧ t < max now d := by
  rw [next, due] at h
  cases later : next now alarms with
  | none =>
    rw [later] at h
    cases h
    exact .inl ⟨rfl, rfl, fun u m found => nomatch found⟩
  | some found =>
    obtain ⟨u, m⟩ := found
    rw [later] at h
    dsimp only at h
    split at h
    · next notLater =>
      cases h
      refine .inl ⟨rfl, rfl, fun u' m' same => ?_⟩
      cases same
      exact notLater
    · next notEarlier =>
      cases h
      exact .inr ⟨rfl, Nat.lt_of_not_le notEarlier⟩

/-- The next alarm does not go off in the past, and no alarm goes off before it. -/
theorem next_le (h : next now alarms = some (t, meaning)) :
    now ≤ t ∧ ∀ a ∈ alarms, ∀ d, a.due = some d → t ≤ max now d := by
  induction alarms generalizing t meaning with
  | nil => cases h
  | cons first rest ih =>
    cases due : first.due with
    | none =>
      rw [next_cons_of_none due] at h
      obtain ⟨notPast, least⟩ := ih h
      refine ⟨notPast, List.forall_mem_cons.2 ⟨fun d found => ?_, least⟩⟩
      rw [due] at found
      cases found
    | some d =>
      have own : ∀ {u}, u ≤ max now d → ∀ d', first.due = some d' → u ≤ max now d' := by
        intro u bound d' found
        rw [due] at found
        cases found
        exact bound
      rcases next_cons_of_some due h with ⟨rfl, -, least⟩ | ⟨later, before⟩
      · refine ⟨Nat.le_max_left _ _, List.forall_mem_cons.2 ⟨own (Nat.le_refl _), ?_⟩⟩
        intro a mem d' found
        cases later : next now rest with
        | none =>
          rw [due_eq_none_of_next later a mem] at found
          cases found
        | some next =>
          obtain ⟨-, bound⟩ := ih later
          exact Nat.le_trans (least _ _ later) (bound a mem d' found)
      · obtain ⟨notPast, least⟩ := ih later
        exact ⟨notPast, List.forall_mem_cons.2 ⟨own (Nat.le_of_lt before), least⟩⟩

/-- **An alarm that is not the next** goes off later if it comes first in the list; the others
decide. -/
theorem next_cons_of_ne (h : next now (first :: alarms) = some (t, meaning))
    (ne : first.meaning ≠ meaning) :
    next now alarms = some (t, meaning) ∧ ∀ d, first.due = some d → t < max now d := by
  cases due : first.due with
  | none =>
    rw [next_cons_of_none due] at h
    exact ⟨h, fun d found => nomatch found⟩
  | some d =>
    rcases next_cons_of_some due h with ⟨-, same, -⟩ | ⟨later, before⟩
    · exact absurd same.symm ne
    · refine ⟨later, fun d' found => ?_⟩
      cases found
      exact before

/-- What goes off before an alarm that is not overdue goes off before it is due. -/
theorem lt_due {d : Instant} (notPast : now ≤ t) (before : t < max now d) : t < d :=
  Nat.lt_of_not_le fun overdue => Nat.not_lt.2 (Nat.max_le.2 ⟨notPast, overdue⟩) before

/-- **The next alarm is one of those that are set.** -/
theorem exists_of_next (h : next now alarms = some (t, meaning)) :
    ∃ a ∈ alarms, ∃ d, a.due = some d ∧ t = max now d ∧ a.meaning = meaning := by
  induction alarms generalizing t meaning with
  | nil => cases h
  | cons first rest ih =>
    have later : next now rest = some (t, meaning) →
        ∃ a ∈ first :: rest, ∃ d, a.due = some d ∧ t = max now d ∧ a.meaning = meaning := by
      intro h
      obtain ⟨a, mem, found⟩ := ih h
      exact ⟨a, List.mem_cons_of_mem _ mem, found⟩
    cases due : first.due with
    | none =>
      rw [next_cons_of_none due] at h
      exact later h
    | some d =>
      rcases next_cons_of_some due h with ⟨isNow, same, -⟩ | ⟨h, -⟩
      · exact ⟨first, List.mem_cons_self, d, due, isNow, same.symm⟩
      · exact later h

/-- **The first of some alarms** goes off next, unless something goes off before it. -/
theorem next_cons_of_le {d : Instant} (due : first.due = some d)
    (notEarlier : ∀ u m, next now alarms = some (u, m) → max now d ≤ u) :
    next now (first :: alarms) = some (max now d, first.meaning) := by
  rw [next, due]
  cases later : next now alarms with
  | none => rfl
  | some found => exact if_pos (notEarlier _ _ later)

/-- What goes off before the first of some alarms goes off next. -/
theorem next_cons_of_lt (before : ∀ d, first.due = some d → t < max now d)
    (h : next now alarms = some (t, meaning)) :
    next now (first :: alarms) = some (t, meaning) := by
  rw [next]
  cases due : first.due with
  | none => exact h
  | some d =>
    rw [h]
    exact if_neg (Nat.not_le.2 (before d due))

/-- **Which alarm is the next**: one that goes off before those in front of it in the list, and no
later than those behind it. -/
theorem next_append (before : List (Alarm ω)) {d : Instant} (due : first.due = some d)
    (earlier : ∀ a ∈ before, ∀ u, a.due = some u → max now d < max now u)
    (notLater : ∀ a ∈ alarms, ∀ u, a.due = some u → max now d ≤ max now u) :
    next now (before ++ first :: alarms) = some (max now d, first.meaning) := by
  induction before with
  | nil =>
    refine next_cons_of_le due fun u m later => ?_
    obtain ⟨a, mem, u, isSet, rfl, -⟩ := exists_of_next later
    exact notLater a mem u isSet
  | cons a before ih =>
    obtain ⟨own, others⟩ := List.forall_mem_cons.1 earlier
    exact next_cons_of_lt own (ih others)

end Alarm

end NodeProvisioning
