import NodeProvisioning.Proofs.Run.Contract

/-!
# Triples

What a run does to the backend's state is said by a triple: a condition before the run, one on its
value and the state after it, and one on the state where it ends without a value.  It is a contract
that does not speak of the clock and the trace, so that whatever only waits or leaves an event has
any condition for its triple.

## Main definitions

* `Run.Triple` — the triple
* `Progress.Leaves`, `Progress.Keeps` — what a call that has begun does to the state

## Main statements

* `Run.Triple.iff_contract` — a triple is a contract on the state
* `Run.Triple.perform` — the triple of a call, from what its beginning does
-/

namespace NodeProvisioning

variable {σ α β : Type}

/-- **A triple.**  Where `P` holds when the run begins, `Q` holds of its value and of the state
after it; or it ends without a value, and `E` holds of the state. -/
def Run.Triple (P : σ → Prop) (x : Run σ α) (Q : α → σ → Prop) (E : σ → Prop) : Prop :=
  ∀ w, P w.state →
    (∀ a w', x w = (.ok a, w') → Q a w'.state) ∧ ∀ e w', x w = (.error e, w') → E w'.state

/-- What a call that has begun leaves in the state, if nothing else changes it meanwhile. -/
def Progress.Leaves (Q : α → σ → Prop) (E : σ → Prop) (s : σ) : Progress σ α → Prop
  | .answered a => Q a s
  | .unanswered => E s
  | .waiting _ _ finish =>
    E s ∧ (∀ a, (finish s).2 = some a → Q a (finish s).1) ∧
      ((finish s).2 = none → E (finish s).1)

/-- What a call does when it goes on keeps `I`, whatever happened meanwhile. -/
def Progress.Keeps (I : σ → Prop) : Progress σ α → Prop
  | .waiting _ _ finish => ∀ s, I s → I (finish s).1
  | _ => True

/-- What a call keeps it leaves. -/
theorem Progress.Keeps.leaves {I : σ → Prop} {progress : Progress σ α} {s : σ}
    (keeps : progress.Keeps I) (holds : I s) : progress.Leaves (fun _ => I) I s := by
  cases progress with
  | answered a => exact holds
  | unanswered => exact holds
  | waiting delay turn finish => exact ⟨holds, fun _ _ => keeps s holds, fun _ => keeps s holds⟩

namespace Run.Triple

variable {P P' : σ → Prop} {Q Q' : α → σ → Prop} {R : β → σ → Prop} {E E' : σ → Prop}
variable {x : Run σ α}

/-- **A triple is a contract** on the state alone. -/
theorem iff_contract : Triple P x Q E ↔
    Contract (fun w => P w.state) x (fun a w => Q a w.state) fun _ w => E w.state := by
  constructor
  · intro h w before
    obtain ⟨valued, halted⟩ := h w before
    rcases ran : x w with ⟨e | a, w₁⟩
    · exact halted e w₁ ran
    · exact valued a w₁ ran
  · intro h w before
    exact ⟨fun a w' ran => h.ok before ran, fun e w' ran => h.error before ran⟩

theorem pure {a : α} (after : ∀ s, P s → Q a s) : Triple P (Pure.pure a : Run σ α) Q E :=
  iff_contract.2 (.pure fun w => after w.state)

theorem halt {h : Halt} : Triple E (Run.halt h : Run σ α) Q E :=
  iff_contract.2 (.halt fun _ => id)

/-- **A sequence** goes from the first condition to the last through one in between. -/
theorem bind {f : α → Run σ β} (first : Triple P x Q E)
    (second : ∀ a, Triple (Q a) (f a) R E) : Triple P (x >>= f) R E :=
  iff_contract.2 ((iff_contract.1 first).bind fun a => iff_contract.1 (second a))

/-- Conditions may be weakened. -/
theorem weaken (h : Triple P x Q E) (before : ∀ s, P' s → P s) (after : ∀ a s, Q a s → Q' a s)
    (halted : ∀ s, E s → E' s) : Triple P' x Q' E' := by
  refine iff_contract.2 ((iff_contract.1 h).weaken (fun w => before w.state) ?_ ?_)
  · exact fun a w => after a w.state
  · exact fun _ w => halted w.state

/-- The condition on runs without a value may be weakened alone. -/
theorem weaken_halted (h : Triple P x Q E) (halted : ∀ s, E s → E' s) : Triple P x Q E' :=
  h.weaken (fun _ => id) (fun _ _ => id) halted

/-- Where both ways of ending have one condition, it holds of the state however the run ends. -/
theorem holds {I : σ → Prop} (h : Triple P x (fun _ => I) I) {w : World σ} (before : P w.state) :
    I (x w).2.state :=
  Contract.holds (J := fun w => I w.state) (iff_contract.1 h) before

/-- What changes nothing but the clock keeps every condition. -/
theorem quiet (still : Quiet x) (ended : ∀ s, P s → E s) : Triple P x (fun _ => P) E := by
  intro w before
  have same := (still w).2
  refine ⟨fun a w' h => ?_, fun e w' h => ?_⟩ <;> rw [h] at same
  · exact same ▸ before
  · exact ended _ (same ▸ before)

/-- The backend acts. -/
theorem act {f : σ → σ × α} (acts : ∀ s, P s → Q (f s).2 (f s).1) : Triple P (Run.act f) Q E := by
  intro w before
  refine ⟨fun a w' h => ?_, fun e w' h => ?_⟩ <;> cases h
  exact acts w.state before

/-- Leaving an event changes no condition. -/
theorem note {f : Instant → Event} : Triple P (Run.note f) (fun _ => P) E := by
  intro w before
  refine ⟨fun a w' h => ?_, fun e w' h => ?_⟩ <;> cases h
  exact before

/-- Reading the clock changes no condition. -/
theorem now : Triple P Run.now (fun _ => P) E := by
  intro w before
  refine ⟨fun a w' h => ?_, fun e w' h => ?_⟩ <;> cases h
  exact before

/-- A call that has begun is seen through. -/
theorem complete {pause : Option Instant → Run σ Unit}
    (still : ∀ due, Quiet (pause due)) {took : α → Answer}
    (progress : Progress σ α) :
    Triple (fun s => progress.Leaves Q E s) (Run.complete pause took progress) Q E := by
  cases progress with
  | answered a => exact (note (P := fun s => Q a s)).bind fun _ => pure fun _ => id
  | unanswered => exact (quiet (still none) fun _ => id).bind fun _ => halt
  | waiting delay turn finish =>
    refine now.bind fun t => ?_
    refine (quiet (still _) fun s left => left.1).bind fun _ => ?_
    -- What the call does when it goes on depends on the state it finds, which is not known
    -- afterwards; so the condition speaks of what it found.
    refine (act (Q := fun found s => (∀ a, found = some a → Q a s) ∧ (found = none → E s))
      fun s left => left.2).bind fun found => ?_
    cases found with
    | some a => exact note.bind fun _ => pure fun s left => left.1 a rfl
    | none =>
      refine (quiet (still none) fun s left => left.2 rfl).bind fun _ => ?_
      exact halt.weaken (fun s left => left.2 rfl) (fun _ _ => id) fun _ => id

/-- **A call** does what its beginning leaves. -/
theorem perform {pause : Option Instant → Run σ Unit}
    (still : ∀ due, Quiet (pause due)) {call : Call}
    {took : α → Answer} {begin : Instant → σ → σ × Progress σ α}
    (begins : ∀ t s, P s → (begin t s).2.Leaves Q E (begin t s).1) :
    Triple P (Run.perform pause call took begin) Q E :=
  note.bind fun _ => now.bind fun t =>
    (act (Q := fun progress s => progress.Leaves Q E s) fun s => begins t s).bind
      fun progress => complete still progress

end Run.Triple

end NodeProvisioning
