import Mathlib.Logic.Relation
import NodeProvisioning.Proofs.Run.History

/-!
# Where a wait stands

`Rounds.rounds` is a recursion over rounds, and within a round over the looks of that round; the
keys outstanding are an argument that it passes along.  To speak of *every point* of a wait, this
file cuts the recursion into single steps.  A `Standing` says what is outstanding and what comes
next, and `Rounds.advance` takes one step: it begins one look, takes one answer, or lets time pass
once.  One step never does two of these, except that a look which is answered as soon as it begins
begins and is answered in one step, because nothing can come between.

The steps have no bound.  So they also describe waits that never end, such as those of a backend
that answers at once, for ever, that everything is pending while no time passes between the
rounds.

## Main definitions

* `Stage`, `Standing` — what comes next in a wait, and with what outstanding
* `Standing.ahead`, `Standing.flying` — the looks still to begin in this round, and those under way
* `Rounds.advance`, `Rounds.Reaches` — one step, and any number of steps
* `Rounds.Stops` — how the steps from a standing end

## Main statements

* `Rounds.rounds_stops` — the steps do what the recursion does
* `Rounds.awaitUntil_stops` — and so a wait is its steps, from the first round on
-/

namespace NodeProvisioning.Rounds

open Run (bind_cases)

/-- What comes next in a wait. -/
inductive Stage (σ : Type) where
  /-- A round is about to begin. -/
  | opening
  /-- The looks at `ahead` are still to begin; `looks` have begun and have to wait. -/
  | starting (ahead : List ClaimKey) (looks : List (Look σ))
  /-- All looks have begun: those at `lost` are never answered, and `looks` go on in this order. -/
  | collecting (lost : List ClaimKey) (looks : List (Look σ))
  /-- The round is over and some claims are outstanding. -/
  | resting

/-- What is outstanding in a wait, and what comes next. -/
structure Standing (σ : Type) where
  outstanding : List ClaimKey
  stage : Stage σ

namespace Standing

variable {σ : Type}

/-- The keys at which a look is still to begin in this round. -/
def ahead (p : Standing σ) : List ClaimKey :=
  match p.stage with
  | .starting ahead _ => ahead
  | _ => []

/-- The keys at which a look is under way. -/
def flying (p : Standing σ) : List ClaimKey :=
  match p.stage with
  | .starting _ looks => looks.map (·.key)
  | .collecting lost looks => lost ++ looks.map (·.key)
  | _ => []

/-- The standing at the beginning of a wait. -/
def first (keys : List ClaimKey) : Standing σ := ⟨SortedMap.inOrder keys, .opening⟩

end Standing

variable {σ : Type}

/-- One step of a wait; `none` when nothing is outstanding any more. -/
def advance (b : Backend σ) (pollInterval : Duration) (l : Limits) :
    Standing σ → Run σ (Option (Standing σ))
  | ⟨outstanding, .opening⟩ => do
    l.check outstanding
    return some ⟨outstanding, .starting outstanding []⟩
  | ⟨outstanding, .starting [] looks⟩ =>
    return some ⟨outstanding, .collecting [] (Look.inOrder looks)⟩
  | ⟨outstanding, .starting (key :: ahead) looks⟩ => do
    match ← begin b key with
    | .inl answer =>
      let left ← take outstanding key answer
      return some ⟨left, .starting ahead looks⟩
    | .inr look => return some ⟨outstanding, .starting ahead (looks ++ [look])⟩
  | ⟨outstanding, .collecting lost (look :: looks)⟩ =>
    match look.due with
    | none => return some ⟨outstanding, .collecting (look.key :: lost) looks⟩
    | some t => do
      l.pause outstanding (some t)
      match ← Run.act look.finish with
      | some answer =>
        let left ← take outstanding look.key answer
        return some ⟨left, .collecting lost looks⟩
      | none => return some ⟨outstanding, .collecting (look.key :: lost) looks⟩
  | ⟨outstanding, .collecting [] []⟩ =>
    return if outstanding.isEmpty then none else some ⟨outstanding, .resting⟩
  | ⟨outstanding, .collecting (_ :: _) []⟩ => do
    l.pause outstanding none
    Run.halt .stalled
  | ⟨outstanding, .resting⟩ => do
    let t ← Run.now
    l.pause outstanding (some (t + pollInterval.nanos))
    return some ⟨outstanding, .opening⟩

/-- A step that leads from one standing, in its world, to another. -/
def Step (b : Backend σ) (pollInterval : Duration) (l : Limits)
    (x y : Standing σ × World σ) : Prop :=
  advance b pollInterval l x.1 x.2 = (.ok (some y.1), y.2)

/-- Any number of steps. -/
def Reaches (b : Backend σ) (pollInterval : Duration) (l : Limits) :
    Standing σ × World σ → Standing σ × World σ → Prop :=
  Relation.ReflTransGen (Step b pollInterval l)

/-- The steps from a standing end with the given result, in the given world. -/
def Ends (b : Backend σ) (pollInterval : Duration) (l : Limits) (x : Standing σ × World σ)
    (r : Except Halt Unit) (w : World σ) : Prop :=
  ∃ y, Reaches b pollInterval l x y ∧
    advance b pollInterval l y.1 y.2 = (r.map fun _ => none, w)

/-- The steps from a standing end with the given result, or are left off on the way. -/
def Stops (b : Backend σ) (pollInterval : Duration) (l : Limits) (x : Standing σ × World σ)
    (r : Except Halt Unit) (w : World σ) : Prop :=
  Ends b pollInterval l x r w ∨ r = .error .stalled ∧ ∃ p, Reaches b pollInterval l x (p, w)

/-- The steps from a standing follow a part of the recursion that ends with `r`: where it gives a
value they reach the standing that goes with the value, and where it fails they end in the same
way. -/
def Follows {α : Type} (b : Backend σ) (pollInterval : Duration) (l : Limits)
    (x : Standing σ × World σ) (r : Except Halt α) (next : α → Standing σ) (w : World σ) : Prop :=
  match r with
  | .ok a => Reaches b pollInterval l x (next a, w)
  | .error e => Ends b pollInterval l x (.error e) w

/-! ## The steps of a round -/

section Simulation

variable {b : Backend σ} {pollInterval : Duration} {l : Limits}
variable {outstanding left : List ClaimKey} {w w' : World σ}

theorem Ends.after {x y : Standing σ × World σ} {r : Except Halt Unit}
    (h : Reaches b pollInterval l x y) (e : Ends b pollInterval l y r w) :
    Ends b pollInterval l x r w := by
  obtain ⟨z, reached, last⟩ := e
  exact ⟨z, h.trans reached, last⟩

theorem Follows.after {α : Type} {x y : Standing σ × World σ} {r : Except Halt α}
    {next : α → Standing σ} (h : Step b pollInterval l x y)
    (f : Follows b pollInterval l y r next w) : Follows b pollInterval l x r next w := by
  rcases r with e | a
  · exact Ends.after (.single h) f
  · exact .trans (.single h) f

/-- A step that ends the wait without a value. -/
theorem Follows.of_error {α : Type} {p : Standing σ} {e : Halt} {next : α → Standing σ}
    (h : advance b pollInterval l p w = (.error e, w')) :
    Follows b pollInterval l (p, w) (.error e) next w' :=
  ⟨(p, w), .refl, h⟩

theorem Stops.after {x y : Standing σ × World σ} {r : Except Halt Unit}
    (h : Reaches b pollInterval l x y) (s : Stops b pollInterval l y r w) :
    Stops b pollInterval l x r w := by
  rcases s with e | ⟨stalled, p, reached⟩
  · exact .inl (e.after h)
  · exact .inr ⟨stalled, p, h.trans reached⟩

/-- **Beginning the looks of a round**: one step for each look, and one that puts in order those
that have to wait. -/
theorem start_follows (keys : List ClaimKey) (before : List (Look σ))
    {r : Except Halt (List ClaimKey × List (Look σ))}
    (h : start b keys outstanding w = (r, w')) :
    Follows b pollInterval l (⟨outstanding, .starting keys before⟩, w) r
      (fun x => ⟨x.1, .collecting [] (Look.inOrder (before ++ x.2))⟩) w' := by
  induction keys generalizing outstanding before w w' r with
  | nil =>
    cases h
    rw [Follows, List.append_nil]
    exact .single rfl
  | cons key keys ih =>
    rw [start] at h
    rcases bind_cases h with ⟨answer | look, w₁, began, h⟩ | ⟨e, began, rfl⟩
    · rcases bind_cases h with ⟨left, w₂, took, h⟩ | ⟨e, took, rfl⟩
      · have step : Step b pollInterval l (⟨outstanding, .starting (key :: keys) before⟩, w)
            (⟨left, .starting keys before⟩, w₂) := by
          simp only [Step, advance, Run.bind_apply, began, took, Run.pure_apply]
        exact (ih before h).after step
      · refine .of_error ?_
        simp only [advance, Run.bind_apply, began, took]
    · have step : Step b pollInterval l (⟨outstanding, .starting (key :: keys) before⟩, w)
          (⟨outstanding, .starting keys (before ++ [look])⟩, w₁) := by
        simp only [Step, advance, Run.bind_apply, began, Run.pure_apply]
      rcases bind_cases h with ⟨⟨left, looks⟩, w₂, started, h⟩ | ⟨e, started, rfl⟩
      · have rest := (ih (before ++ [look]) started).after step
        cases h
        rw [Follows, List.append_cons]
        exact rest
      · exact (ih (before ++ [look]) started).after step
    · refine .of_error ?_
      simp only [advance, Run.bind_apply, began]

/-- **Taking the looks that have to wait**: one step for each.  Only if all are answered does this
give a value, and then none was lost before. -/
theorem collect_follows (looks : List (Look σ)) (lost : List ClaimKey)
    {r : Except Halt (List ClaimKey)}
    (h : collect l (!lost.isEmpty) outstanding looks w = (r, w')) :
    Follows b pollInterval l (⟨outstanding, .collecting lost looks⟩, w) r
      (fun left => ⟨left, .collecting [] []⟩) w' := by
  induction looks generalizing outstanding lost w w' r with
  | nil =>
    cases lost with
    | nil =>
      cases h
      exact .refl
    | cons key lost =>
      rw [show (!(key :: lost).isEmpty) = true from rfl, collect] at h
      rcases bind_cases h with ⟨_, w₁, paused, h⟩ | ⟨e, paused, rfl⟩
      · cases h
        refine .of_error ?_
        simp only [advance, Run.bind_apply, paused, Run.halt_apply]
      · refine .of_error ?_
        simp only [advance, Run.bind_apply, paused]
  | cons look looks ih =>
    rw [collect] at h
    cases due : look.due with
    | none =>
      have step : Step b pollInterval l (⟨outstanding, .collecting lost (look :: looks)⟩, w)
          (⟨outstanding, .collecting (look.key :: lost) looks⟩, w) := by
        simp only [Step, advance, due, Run.pure_apply]
      rw [due] at h
      exact (ih (look.key :: lost) h).after step
    | some t =>
      rw [due] at h
      rcases bind_cases h with ⟨_, w₁, paused, h⟩ | ⟨e, paused, rfl⟩
      · rcases bind_cases h with ⟨_ | answer, w₂, acted, h⟩ | ⟨e, acted, -⟩
        · have step : Step b pollInterval l (⟨outstanding, .collecting lost (look :: looks)⟩, w)
              (⟨outstanding, .collecting (look.key :: lost) looks⟩, w₂) := by
            simp only [Step, advance, due, Run.bind_apply, paused, acted, Run.pure_apply]
          exact (ih (look.key :: lost) h).after step
        · rcases bind_cases h with ⟨left, w₃, took, h⟩ | ⟨e, took, rfl⟩
          · have step : Step b pollInterval l (⟨outstanding, .collecting lost (look :: looks)⟩, w)
                (⟨left, .collecting lost looks⟩, w₃) := by
              simp only [Step, advance, due, Run.bind_apply, paused, acted, took, Run.pure_apply]
            exact (ih lost h).after step
          · refine .of_error ?_
            simp only [advance, due, Run.bind_apply, paused, acted, took]
        · cases acted
      · refine .of_error ?_
        simp only [advance, due, Run.bind_apply, paused]

/-- **One round**: its steps lead to where every answer was taken, or end the wait. -/
theorem round_follows {r : Except Halt (List ClaimKey)} (h : round b l outstanding w = (r, w')) :
    Follows b pollInterval l (⟨outstanding, .opening⟩, w) r
      (fun left => ⟨left, .collecting [] []⟩) w' := by
  rw [round] at h
  rcases bind_cases h with ⟨_, w₁, checked, h⟩ | ⟨e, checked, rfl⟩
  · have opened : Step b pollInterval l (⟨outstanding, .opening⟩, w)
        (⟨outstanding, .starting outstanding []⟩, w₁) := by
      simp only [Step, advance, Run.bind_apply, checked, Run.pure_apply]
    rcases bind_cases h with ⟨⟨left, looks⟩, w₂, started, h⟩ | ⟨e, started, rfl⟩
    · have begun := (start_follows outstanding [] started).after opened
      have rest : Follows b pollInterval l (⟨left, .collecting [] (Look.inOrder looks)⟩, w₂) r
          (fun left => ⟨left, .collecting [] []⟩) w' := collect_follows _ [] h
      rcases r with e | left
      · exact Ends.after begun rest
      · exact .trans begun rest
    · exact (start_follows outstanding [] started).after opened
  · refine .of_error ?_
    simp only [advance, Run.bind_apply, checked]

/-! ## The steps of a wait -/

/-- **The steps do what the recursion does**: as many rounds as it is allowed to begin. -/
theorem rounds_stops (fuel : Nat) {r : Except Halt Unit}
    (h : rounds b pollInterval l fuel outstanding w = (r, w')) :
    Stops b pollInterval l (⟨outstanding, .opening⟩, w) r w' := by
  induction fuel generalizing outstanding w with
  | zero =>
    cases h
    exact .inr ⟨rfl, _, .refl⟩
  | succ fuel ih =>
    rw [rounds] at h
    rcases bind_cases h with ⟨left, w₁, finished, h⟩ | ⟨e, finished, rfl⟩
    · have reached : Reaches b pollInterval l (⟨outstanding, .opening⟩, w)
        (⟨left, .collecting [] []⟩, w₁) := round_follows finished
      by_cases empty : left.isEmpty
      · rw [if_pos empty] at h
        cases h
        refine .inl ⟨_, reached, ?_⟩
        simp only [advance, if_pos empty, Run.pure_apply, Except.map]
      · rw [if_neg empty] at h
        have rested : Step b pollInterval l (⟨left, .collecting [] []⟩, w₁)
            (⟨left, .resting⟩, w₁) := by
          simp only [Step, advance, if_neg empty, Run.pure_apply]
        obtain ⟨t, w₂, clock, h⟩ | ⟨e, clock, -⟩ := bind_cases h
        · cases clock
          rcases bind_cases h with ⟨_, w₃, paused, h⟩ | ⟨e, paused, rfl⟩
          · have opened : Step b pollInterval l (⟨left, .resting⟩, w₁) (⟨left, .opening⟩, w₃) := by
              simp only [Step, advance, Run.bind_apply, Run.now_apply, paused, Run.pure_apply]
            exact (ih h).after ((reached.tail rested).tail opened)
          · refine .inl ⟨_, reached.tail rested, ?_⟩
            simp only [advance, Run.bind_apply, Run.now_apply, paused, Except.map]
        · cases clock
    · exact .inl (round_follows finished)

/-- A wait with something to wait for is its rounds. -/
theorem awaitUntil_eq_rounds {signals : Signals} {workspace : String} {deadline : Instant}
    {keys : List ClaimKey} (some : keys ≠ []) :
    awaitUntil b pollInterval signals workspace deadline keys w =
      rounds b pollInterval ⟨signals, workspace, deadline⟩ (roundLimit pollInterval w.now deadline)
        (SortedMap.inOrder keys) w := by
  have notEmpty : ¬(SortedMap.inOrder keys).isEmpty = true := fun empty =>
    some (SortedMap.inOrder_eq_nil_iff.1 (List.isEmpty_iff.1 empty))
  rw [awaitUntil, if_neg notEmpty, Run.bind_of_ok (Run.now_apply w)]

/-- **A wait is its steps**, from the first round on; with nothing to wait for it has none. -/
theorem awaitUntil_stops {signals : Signals} {workspace : String} {deadline : Instant}
    {keys : List ClaimKey} {r : Except Halt Unit}
    (h : awaitUntil b pollInterval signals workspace deadline keys w = (r, w')) :
    (keys = [] ∧ r = .ok () ∧ w' = w) ∨
      (keys ≠ [] ∧
        Stops b pollInterval ⟨signals, workspace, deadline⟩ (Standing.first keys, w) r w') := by
  by_cases none : keys = []
  · subst none
    cases h
    exact .inl ⟨rfl, rfl, rfl⟩
  · rw [awaitUntil_eq_rounds none] at h
    exact .inr ⟨none, rounds_stops _ h⟩

end Simulation

end NodeProvisioning.Rounds
