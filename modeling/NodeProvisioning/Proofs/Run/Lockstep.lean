import NodeProvisioning.Proofs.Run.History

/-!
# Runs in lockstep

What a run does depends on the backend's state only through what the backend answers.  So the same
run, begun from two states, does the same as long as the backend answers the same.  To say so, two
states are taken to be *in step* or *off*: in step they stay, and give the same answers, until they
come off, and off they stay for good.

In this way a statement about two runs is brought down to one about two states and one call.  What
a call does when it goes on is part of what the call has become, and the same in both runs.

## Main definitions

* `Coupling` — when two states are in step, and when they are off
* `Coupling.Respects` — an action on the state keeps two states in step, or takes them off for good
* `Run.Lockstep` — a run does

## Main statements

* `Run.Lockstep.bind` — a sequence of two runs is in lockstep if both are
* `Run.Lockstep.perform` — a call is in lockstep if its beginning respects the coupling
-/

namespace NodeProvisioning

variable {σ α β : Type}

/-- How the states of two runs are related: they are in step, or they are off. -/
structure Coupling (σ : Type) where
  inStep : σ → σ → Prop
  off : σ → σ → Prop

namespace Coupling

variable (C : Coupling σ)

/-- **An action respects the coupling**: two states in step stay in step and give the same, or come
off; and states that are off stay so, whichever of them is acted on. -/
structure Respects (g : σ → σ × α) : Prop where
  together : ∀ s s', C.inStep s s' →
    (C.inStep (g s).1 (g s').1 ∧ (g s).2 = (g s').2) ∨ C.off (g s).1 (g s').1
  left : ∀ s v, C.off s v → C.off (g s).1 v
  right : ∀ v s, C.off v s → C.off v (g s).1

/-- Two worlds are in step: nothing tells them apart but their states, which are. -/
structure Aligned (w w' : World σ) : Prop where
  now_eq : w.now = w'.now
  trace_eq : w.trace = w'.trace
  inStep : C.inStep w.state w'.state

/-- What does nothing respects every coupling. -/
theorem Respects.of_id {a : α} : C.Respects fun s => (s, a) where
  together _ _ h := .inl ⟨h, rfl⟩
  left _ _ h := h
  right _ _ h := h

variable {C} in
/-- What is made of the value does not matter. -/
theorem Respects.map {g : σ → σ × α} (h : C.Respects g) (read : α → β) :
    C.Respects fun s => ((g s).1, read (g s).2) where
  together s s' inStep := by
    rcases h.together s s' inStep with ⟨still, same⟩ | off
    · exact .inl ⟨still, congrArg read same⟩
    · exact .inr off
  left := h.left
  right := h.right

/-- **The beginning of a call** respects the coupling, and so does what the call does when it goes
on. -/
structure Begins (g : σ → σ × Progress σ α) : Prop where
  begun : C.Respects g
  goesOn : ∀ s delay turn finish, (g s).2 = .waiting delay turn finish → C.Respects finish

end Coupling

namespace Run

variable {C : Coupling σ}

/-- **A run is in lockstep** with itself: from two worlds in step it ends alike in worlds in step,
or their states come off; and states that are off stay so. -/
structure Lockstep (C : Coupling σ) (x : Run σ α) : Prop where
  together : ∀ w w', C.Aligned w w' →
    ((x w).1 = (x w').1 ∧ C.Aligned (x w).2 (x w').2) ∨ C.off (x w).2.state (x w').2.state
  left : ∀ w v, C.off w.state v → C.off (x w).2.state v
  right : ∀ v w, C.off v w.state → C.off v (x w).2.state

/-- Every value that the run may give, from any world, has the property. -/
def Yields (x : Run σ α) (V : α → Prop) : Prop := ∀ w a w', x w = (.ok a, w') → V a

namespace Lockstep

variable {x : Run σ α} {f : α → Run σ β}

theorem pure (a : α) : Lockstep C (Pure.pure a : Run σ α) where
  together _ _ h := .inl ⟨rfl, h⟩
  left _ _ h := h
  right _ _ h := h

theorem halt (e : Halt) : Lockstep C (Run.halt e : Run σ α) where
  together _ _ h := .inl ⟨rfl, h⟩
  left _ _ h := h
  right _ _ h := h

theorem now : Lockstep C (Run.now : Run σ Instant) where
  together _ _ h := .inl ⟨congrArg Except.ok h.now_eq, h⟩
  left _ _ h := h
  right _ _ h := h

theorem note (event : Instant → Event) : Lockstep C (Run.note event : Run σ Unit) where
  together w w' h := by
    refine .inl ⟨rfl, h.now_eq, ?_, h.inStep⟩
    show event w.now :: w.trace = event w'.now :: w'.trace
    rw [h.now_eq, h.trace_eq]
  left _ _ h := h
  right _ _ h := h

theorem act {g : σ → σ × α} (respects : C.Respects g) : Lockstep C (Run.act g) where
  together w w' h := by
    rcases respects.together w.state w'.state h.inStep with ⟨inStep, same⟩ | off
    · exact .inl ⟨congrArg Except.ok same, h.now_eq, h.trace_eq, inStep⟩
    · exact .inr off
  left w v off := respects.left w.state v off
  right v w off := respects.right v w.state off

theorem sleepUntil {ω : Type} (alarms : List (Alarm ω)) :
    Lockstep C (Run.sleepUntil alarms : Run σ ω) where
  together w w' h := by
    unfold Run.sleepUntil
    rw [← h.now_eq]
    cases Alarm.next w.now alarms with
    | some found => exact .inl ⟨rfl, rfl, h.trace_eq, h.inStep⟩
    | none => exact .inl ⟨rfl, h⟩
  left w v off := by
    unfold Run.sleepUntil
    split <;> exact off
  right v w off := by
    unfold Run.sleepUntil
    split <;> exact off

/-- **A sequence** is in lockstep if its first run is, and so is the second with every value that
the first may give. -/
theorem bind_of_yields {V : α → Prop} (first : Lockstep C x) (yields : Yields x V)
    (second : ∀ a, V a → Lockstep C (f a)) : Lockstep C (x >>= f) := by
  -- Off states stay off whether or not there is a second run.
  have left : ∀ w v, C.off (x w).2.state v → C.off ((x >>= f) w).2.state v := by
    intro w v off
    rw [bind_apply]
    rcases ran : x w with ⟨e | a, w₁⟩ <;> rw [ran] at off
    · exact off
    · exact (second a (yields w a w₁ ran)).left w₁ v off
  have right : ∀ v w, C.off v (x w).2.state → C.off v ((x >>= f) w).2.state := by
    intro v w off
    rw [bind_apply]
    rcases ran : x w with ⟨e | a, w₁⟩ <;> rw [ran] at off
    · exact off
    · exact (second a (yields w a w₁ ran)).right v w₁ off
  refine ⟨fun w w' h => ?_, fun w v off => left w v (first.left w v off),
    fun v w off => right v w (first.right v w off)⟩
  rcases first.together w w' h with ⟨same, aligned⟩ | off
  · rw [bind_apply, bind_apply]
    rcases ran : x w with ⟨r, w₁⟩
    rcases ran' : x w' with ⟨r', w₁'⟩
    rw [ran, ran'] at same aligned
    cases same
    rcases r with e | a
    · exact .inl ⟨rfl, aligned⟩
    · exact (second a (yields w a w₁ ran)).together w₁ w₁' aligned
  · exact .inr (right _ w' (left w _ off))

/-- **A sequence** is in lockstep if both its runs are. -/
theorem bind (first : Lockstep C x) (second : ∀ a, Lockstep C (f a)) : Lockstep C (x >>= f) :=
  first.bind_of_yields (fun _ _ _ _ => trivial : Yields x fun _ => True) fun a _ => second a

/-- A call that has begun is seen through in lockstep. -/
theorem complete {pause : Option Instant → Run σ Unit} (pauses : ∀ due, Lockstep C (pause due))
    {took : α → Answer} (progress : Progress σ α)
    (goesOn : ∀ delay turn finish, progress = .waiting delay turn finish → C.Respects finish) :
    Lockstep C (Run.complete pause took progress) := by
  cases progress with
  | answered a => exact (note _).bind fun _ => pure a
  | unanswered => exact (pauses none).bind fun _ => halt _
  | waiting delay turn finish =>
    refine now.bind fun t => (pauses _).bind fun _ => ?_
    refine (act (goesOn delay turn finish rfl)).bind fun found => ?_
    cases found with
    | some a => exact (note _).bind fun _ => pure a
    | none => exact (pauses none).bind fun _ => halt _

/-- **A call is in lockstep** if its beginning respects the coupling. -/
theorem perform {pause : Option Instant → Run σ Unit} (pauses : ∀ due, Lockstep C (pause due))
    {call : Call} {took : α → Answer} {begin : Instant → σ → σ × Progress σ α}
    (begins : ∀ t, C.Begins (begin t)) : Lockstep C (Run.perform pause call took begin) := by
  refine (note _).bind fun _ => now.bind fun t => ?_
  have yields : Yields (Run.act (begin t)) fun progress =>
      ∀ delay turn finish, progress = .waiting delay turn finish → C.Respects finish := by
    intro w progress w' ran
    cases ran
    exact (begins t).goesOn w.state
  exact (act (begins t).begun).bind_of_yields yields fun progress => complete pauses progress

end Lockstep

end Run

end NodeProvisioning
