import Mathlib.Data.List.Basic
import NodeProvisioning.Proofs.Rounds.Tally
import NodeProvisioning.Proofs.Run.Answering

/-!
# The order does not matter

A wait is given a list of keys and looks at a set of them, and in a round the answers come in
whatever order the looks happen to be answered.  Neither order decides anything.

For the keys this is plain, since a wait puts them in order before anything else.  For the answers
of a round it is an argument in two parts.  What a round does comes down to `consumeAll`: where
every look is answered and nothing ends the wait before, the round consumes all answers in some
order, and its result is that of consuming them (`Completes.round_eq`).  This holds although a
round begins its looks one by one, takes some answers while it does so, and may be over before the
last look has begun: what it leaves out would have come after a fatal answer, and may be put there.
And what answers decide, if each key has its own, is a property of the set of them (`Verdict`):
the keys that are left, or the error of a fatal answer, and which one that is depends on the order
only where there are two.

## Main definitions

* `Rounds.Completes` — every look of a round is answered, and the answer depends on the key alone
* `Rounds.Verdict` — what fixed answers decide
* `Rounds.completing` — the backend whose looks are answered in a given order

## Main statements

* `Rounds.consumeAll_verdict` — consuming the same answers in any order
* `Rounds.Completes.round_eq` — a round consumes its answers in some order
* `Rounds.round_completing` — and in every order in some round
* `Rounds.order_immaterial` — what follows for two lists of keys and for two rounds
-/

namespace NodeProvisioning

variable {σ τ α : Type}

/-! ## Keys -/

/-- Keys in order depend on which keys there are, and not on how they are listed. -/
theorem SortedMap.inOrder_congr {κ : Type} [KeyOrder κ] {ks ks' : List κ}
    (same : ∀ k, k ∈ ks ↔ k ∈ ks') : inOrder ks = inOrder ks' :=
  keys_eq_of_contains_eq fun k => by
    rw [Bool.eq_iff_iff, ← mem_keys_iff, ← mem_keys_iff]
    exact mem_inOrder.trans ((same k).trans mem_inOrder.symm)

/-! ## Fixed answers -/

/-- **A call gives `a`**, at once or within `patience`, in whatever state it then goes on; it keeps
`I`, which is all that is known of the state. -/
inductive Progress.Gives (I : σ → Prop) (patience : Nat) (a : α) : Progress σ α → Prop
  | atOnce : Gives I patience a (.answered a)
  | later {delay turn : Nat} {finish : σ → σ × Option α} (soon : delay ≤ patience)
      (finishes : ∀ s, I s → I (finish s).1 ∧ (finish s).2 = some a) :
      Gives I patience a (.waiting delay turn finish)

namespace Rounds

open Run (bind_apply bind_of_ok bind_of_error)

/-- A look that waits gives the answer of its key by `horizon`. -/
structure Look.Gives (I : σ → Prop) (horizon : Instant) (answer : ClaimKey → Sighting)
    (look : Look σ) : Prop where
  due : ∃ t, look.due = some t ∧ t ≤ horizon
  finishes : ∀ s, I s → I (look.finish s).1 ∧ (look.finish s).2 = some (answer look.key)

/-- **A round completes** where every look at an outstanding key gives the answer of that key, and
within `patience` nothing else ends the wait.  Nothing is said about which look is answered when. -/
structure Completes (I : σ → Prop) (patience : Nat) (answer : ClaimKey → Sighting) (b : Backend σ)
    (l : Limits) (outstanding : List ClaimKey) (w : World σ) : Prop where
  holds : I w.state
  gives : ∀ k ∈ outstanding, ∀ s, I s →
    I (b.get w.now k s).1 ∧ (b.get w.now k s).2.Gives I patience (answer k)
  silent : l.signals.SilentUntil (w.now + patience)
  inTime : w.now + patience < l.deadline

/-- The keys in some order, each with its answer. -/
def answered (answer : ClaimKey → Sighting) (order : List ClaimKey) :
    List (ClaimKey × Sighting) :=
  order.map fun k => (k, answer k)

@[simp] theorem answered_cons (answer : ClaimKey → Sighting) (key : ClaimKey)
    (order : List ClaimKey) :
    answered answer (key :: order) = (key, answer key) :: answered answer order := rfl

@[simp] theorem answered_append (answer : ClaimKey → Sighting) (before after : List ClaimKey) :
    answered answer (before ++ after) = answered answer before ++ answered answer after :=
  List.map_append

/-- **What fixed answers decide**, in whatever order they come: without a fatal one all that are
ready are outstanding no more, and otherwise the round ends with the error of a fatal one. -/
inductive Verdict (answer : ClaimKey → Sighting) (outstanding : List ClaimKey) :
    Except ProvisionError (List ClaimKey) → Prop
  | settled (harmless : ∀ k ∈ outstanding, Sighting.isFatal (answer k) = false) :
      Verdict answer outstanding
        (.ok (outstanding.filter fun k => !Sighting.isReady (answer k)))
  | fatal {k : ClaimKey} {e : ProvisionError} (mem : k ∈ outstanding)
      (terminal : Observation.of k (answer k) = .terminal e) :
      Verdict answer outstanding (.error e)

/-! ## Consuming answers -/

section Consuming

variable {answer : ClaimKey → Sighting} {outstanding order : List ClaimKey}

theorem consumeAll_cons (outstanding : List ClaimKey) (key : ClaimKey) (a : Sighting)
    (rest : List (ClaimKey × Sighting)) :
    consumeAll outstanding ((key, a) :: rest) =
      (consume outstanding key a).bind fun left => consumeAll left rest := by
  rw [consumeAll]
  cases consume outstanding key a <;> rfl

theorem consumeAll_append (outstanding : List ClaimKey)
    (before after : List (ClaimKey × Sighting)) :
    consumeAll outstanding (before ++ after) =
      (consumeAll outstanding before).bind fun left => consumeAll left after := by
  induction before generalizing outstanding with
  | nil => rfl
  | cons first rest ih =>
    obtain ⟨key, a⟩ := first
    rw [List.cons_append, consumeAll_cons, consumeAll_cons]
    cases consume outstanding key a with
    | ok left => exact ih left
    | error e => rfl

/-- Several answers settle all the keys that they show ready, unless one of them is fatal. -/
theorem consumeAll_cases (answer : ClaimKey → Sighting) (order outstanding : List ClaimKey) :
    ((∀ k ∈ order, Sighting.isFatal (answer k) = false) ∧
      consumeAll outstanding (answered answer order) =
        .ok (outstanding.filter fun k => ¬(k ∈ order ∧ Sighting.isReady (answer k) = true))) ∨
    ∃ k ∈ order, ∃ e, Observation.of k (answer k) = .terminal e ∧
      consumeAll outstanding (answered answer order) = .error e := by
  induction order generalizing outstanding with
  | nil =>
    refine .inl ⟨List.forall_mem_nil _, ?_⟩
    rw [List.filter_eq_self.2 fun k _ => by simp]
    rfl
  | cons key rest ih =>
    rcases consume_cases outstanding key (answer key) with ⟨harmless, passed⟩ | ⟨e, terminal, ended⟩
    · have first : consumeAll outstanding (answered answer (key :: rest)) =
          consumeAll (settled outstanding key (answer key)) (answered answer rest) := by
        rw [answered_cons, consumeAll_cons, passed]
        rfl
      rw [first]
      -- The key is settled or not before the others are, and the filters are put together.
      rcases ih (settled outstanding key (answer key)) with ⟨others, same⟩ | ⟨k, mem, later⟩
      · refine .inl ⟨List.forall_mem_cons.2 ⟨harmless, others⟩, ?_⟩
        rw [same, settled]
        congr 1
        split
        · next ready =>
          rw [List.filter_filter]
          refine List.filter_congr fun k _ => ?_
          by_cases isKey : k = key <;> simp [isKey, ready]
        · next unready =>
          refine List.filter_congr fun k _ => ?_
          by_cases isKey : k = key <;> simp [isKey, unready]
      · exact .inr ⟨k, List.mem_cons_of_mem _ mem, later⟩
    · refine .inr ⟨key, List.mem_cons_self, e, terminal, ?_⟩
      rw [answered_cons, consumeAll_cons, ended]
      rfl

/-- **The verdict** does not depend on the order in which the answers are consumed. -/
theorem consumeAll_verdict (perm : order.Perm outstanding) :
    Verdict answer outstanding (consumeAll outstanding (answered answer order)) := by
  rcases consumeAll_cases answer order outstanding with
    ⟨harmless, same⟩ | ⟨k, mem, e, terminal, same⟩
  · rw [same]
    have left : (outstanding.filter fun k => ¬(k ∈ order ∧ Sighting.isReady (answer k) = true)) =
        outstanding.filter fun k => !Sighting.isReady (answer k) :=
      List.filter_congr fun k mem => by simp [perm.mem_iff.2 mem]
    rw [left]
    exact .settled fun k mem => harmless k (perm.mem_iff.2 mem)
  · rw [same]
    exact .fatal (perm.mem_iff.1 mem) terminal

end Consuming

/-! ## A round -/

section Round

variable {I : σ → Prop} {patience : Nat} {answer : ClaimKey → Sighting} {b : Backend σ}
variable {l : Limits} {outstanding : List ClaimKey} {x : World σ}

/-- **What the beginning of a round leaves**: a part of the answers has been consumed, and the
other looks have to wait; or a fatal answer was among them. -/
inductive Opened (I : σ → Prop) (horizon : Instant) (answer : ClaimKey → Sighting)
    (asked outstanding : List ClaimKey) (now : Instant) :
    Except Halt (List ClaimKey × List (Look σ)) × World σ → Prop
  | goesOn (early : List ClaimKey) {left : List ClaimKey} {looks : List (Look σ)} {y : World σ}
      (perm : (early ++ looks.map (·.key)).Perm asked)
      (consumed : consumeAll outstanding (answered answer early) = .ok left)
      (isNow : y.now = now) (holds : I y.state)
      (gives : ∀ look ∈ looks, look.Gives I horizon answer) :
      Opened I horizon answer asked outstanding now (.ok (left, looks), y)
  | ends (order : List ClaimKey) {e : ProvisionError} {y : World σ} (perm : order.Perm asked)
      (consumed : consumeAll outstanding (answered answer order) = .error e) :
      Opened I horizon answer asked outstanding now (.error (.failed e), y)

namespace Opened

variable {horizon now : Instant} {asked left : List ClaimKey} {key : ClaimKey}

/-- The first answer has been consumed. -/
theorem taken {outcome : Except Halt (List ClaimKey × List (Look σ)) × World σ}
    (h : Opened I horizon answer asked left now outcome)
    (consumed : consume outstanding key (answer key) = .ok left) :
    Opened I horizon answer (key :: asked) outstanding now outcome := by
  have first (order : List ClaimKey) : consumeAll outstanding (answered answer (key :: order)) =
      consumeAll left (answered answer order) := by
    rw [answered_cons, consumeAll_cons, consumed]
    rfl
  cases h with
  | goesOn early perm rest isNow holds gives =>
    exact .goesOn (key :: early) (perm.cons key) ((first early).trans rest) isNow holds gives
  | ends order perm rest =>
    exact .ends (key :: order) (perm.cons key) ((first order).trans rest)

/-- The first look has to wait. -/
theorem waits {look : Look σ} {run : Run σ (List ClaimKey × List (Look σ))}
    (h : Opened I horizon answer asked outstanding now (run x))
    (gives : look.Gives I horizon answer) :
    Opened I horizon answer (look.key :: asked) outstanding now
      ((do let (left, looks) ← run; return (left, look :: looks)) x) := by
  rw [bind_apply]
  revert h
  generalize run x = outcome
  intro h
  cases h with
  | goesOn early perm consumed isNow holds others =>
    exact .goesOn early (List.perm_middle.trans (perm.cons look.key)) consumed isNow holds
      (List.forall_mem_cons.2 ⟨gives, others⟩)
  | ends order perm consumed =>
    -- Its answer would come after the fatal one.
    refine .ends (order ++ [look.key]) ?_ ?_
    · exact (List.perm_append_singleton _ _).trans (perm.cons look.key)
    · rw [answered_append, consumeAll_append]
      exact congrArg (Except.bind · _) consumed

end Opened

/-- A look that begins is answered, or waits for its answer. -/
theorem begin_gives {key : ClaimKey} (holds : I x.state)
    (gives : ∀ s, I s →
      I (b.get x.now key s).1 ∧ (b.get x.now key s).2.Gives I patience (answer key)) :
    ∃ y, y.now = x.now ∧ I y.state ∧
      (begin b key x = (.ok (.inl (answer key)), y) ∨
        ∃ look, begin b key x = (.ok (.inr look), y) ∧ look.key = key ∧
          look.Gives I (x.now + patience) answer) := by
  obtain ⟨kept, given⟩ := gives x.state holds
  refine ⟨x.begun (.get key) fun t => b.get t key, rfl, kept, ?_⟩
  simp only [begin, bind_apply, Run.note, Run.now_apply, Run.act]
  generalize (b.get x.now key x.state).2 = progress at given
  cases given with
  | atOnce => exact .inl rfl
  | @later delay turn finish soon finishes =>
    refine .inr ⟨_, rfl, rfl, ⟨_, rfl, ?_⟩, finishes⟩
    exact Nat.add_le_add_left soon x.now

/-- **Beginning the looks of a round** with fixed answers. -/
theorem start_opened (asked outstanding : List ClaimKey) (holds : I x.state)
    (gives : ∀ k ∈ asked, ∀ s, I s →
      I (b.get x.now k s).1 ∧ (b.get x.now k s).2.Gives I patience (answer k)) :
    Opened I (x.now + patience) answer asked outstanding x.now (start b asked outstanding x) := by
  induction asked generalizing outstanding x with
  | nil => exact .goesOn [] (.refl _) rfl rfl holds (List.forall_mem_nil _)
  | cons key rest ih =>
    obtain ⟨own, others⟩ := List.forall_mem_cons.1 gives
    obtain ⟨y, isNow, kept, began | ⟨look, began, rfl, waits⟩⟩ := begin_gives holds own
    · rw [start, bind_of_ok began]
      dsimp only
      rw [bind_apply, take_eq]
      cases consumed : consume outstanding key (answer key) with
      | error e =>
        -- No further look begins, and any order of the others may follow the fatal answer.
        refine .ends (key :: rest) (.refl _) ?_
        rw [answered_cons, consumeAll_cons, consumed]
        rfl
      | ok left =>
        let z : World σ := y.leave (.took y.now (.get key (answer key)))
        have opened := ih (x := z) left kept (by rwa [show z.now = x.now from isNow])
        rw [show z.now = x.now from isNow] at opened
        exact opened.taken consumed
    · rw [start, bind_of_ok began]
      have opened := ih (x := y) outstanding kept (by rwa [isNow])
      rw [isNow] at opened
      exact opened.waits waits

/-- **Taking the looks that have to wait**, in the order in which they are given. -/
theorem collect_eq {horizon : Instant} (looks : List (Look σ)) (outstanding : List ClaimKey)
    (gives : ∀ look ∈ looks, look.Gives I horizon answer) (holds : I x.state)
    (notPast : x.now ≤ horizon) (silent : l.signals.SilentUntil horizon)
    (inTime : horizon < l.deadline) :
    (collect l false outstanding looks x).1 =
      (consumeAll outstanding (answered answer (looks.map (·.key)))).mapError Halt.failed := by
  induction looks generalizing outstanding x with
  | nil => rfl
  | cons look rest ih =>
    obtain ⟨⟨⟨t, isDue, soon⟩, finishes⟩, others⟩ := List.forall_mem_cons.1 gives
    let y : World σ := x.moved (max x.now t)
    obtain ⟨kept, given⟩ := finishes y.state holds
    let z : World σ := { y with state := (look.finish y.state).1 }
    have acted : Run.act look.finish y = (.ok (some (answer look.key)), z) := by
      simp only [Run.act, z, given]
    rw [collect]
    simp only [isDue]
    rw [bind_of_ok (Limits.pause_eq_of_le outstanding notPast soon silent inTime), bind_of_ok acted]
    dsimp only
    rw [bind_apply, take_eq, List.map_cons, answered_cons, consumeAll_cons]
    cases consume outstanding look.key (answer look.key) with
    | error e => rfl
    | ok left =>
      exact ih (x := z.leave (.took z.now (.get look.key (answer look.key)))) left others kept
        (Nat.max_le.2 ⟨notPast, soon⟩)

/-- **A round with fixed answers** consumes them in some order. -/
theorem Completes.round_eq (h : Completes I patience answer b l outstanding x) :
    ∃ order : List ClaimKey, order.Perm outstanding ∧ (round b l outstanding x).1 =
      (consumeAll outstanding (answered answer order)).mapError Halt.failed := by
  have notPast : x.now ≤ x.now + patience := Nat.le_add_right _ _
  have checked : l.check outstanding x = (.ok (), x) :=
    Limits.check_eq outstanding h.silent notPast (Nat.lt_of_le_of_lt notPast h.inTime)
  have opened := start_opened outstanding outstanding h.holds h.gives
  rw [round, bind_of_ok checked, bind_apply]
  revert opened
  generalize start b outstanding outstanding x = outcome
  intro opened
  cases opened with
  | ends order perm consumed => exact ⟨order, perm, by rw [consumed]; rfl⟩
  | @goesOn early left looks y perm consumed isNow holds gives =>
    have inOrder := Look.inOrder_perm looks
    refine ⟨early ++ (Look.inOrder looks).map (·.key), ?_, ?_⟩
    · exact ((inOrder.map _).append_left early).trans perm
    · have taken := collect_eq (Look.inOrder looks) left
        (fun look mem => gives look (inOrder.mem_iff.1 mem)) holds
        (isNow ▸ notPast) h.silent h.inTime
      dsimp only
      rw [taken, answered_append, consumeAll_append, consumed]
      rfl

/-- **The verdict of a round** with fixed answers. -/
theorem Completes.verdict (h : Completes I patience answer b l outstanding x) :
    ∃ r, Verdict answer outstanding r ∧ (round b l outstanding x).1 = r.mapError Halt.failed := by
  obtain ⟨order, perm, same⟩ := h.round_eq
  exact ⟨_, consumeAll_verdict perm, same⟩

/-- Without a fatal answer there is one verdict. -/
theorem Verdict.eq_ok {r : Except ProvisionError (List ClaimKey)}
    (h : Verdict answer outstanding r)
    (harmless : ∀ k ∈ outstanding, Sighting.isFatal (answer k) = false) :
    r = .ok (outstanding.filter fun k => !Sighting.isReady (answer k)) := by
  cases h with
  | settled => rfl
  | @fatal k e mem terminal =>
    have fatal := Observation.isFatal_of_terminal terminal
    rw [harmless k mem] at fatal
    cases fatal

/-- With a fatal answer the verdict is the error of one. -/
theorem Verdict.eq_error {r : Except ProvisionError (List ClaimKey)}
    (h : Verdict answer outstanding r)
    (some : ∃ k ∈ outstanding, Sighting.isFatal (answer k) = true) :
    ∃ k ∈ outstanding, ∃ e, Observation.of k (answer k) = .terminal e ∧ r = .error e := by
  cases h with
  | settled harmless =>
    obtain ⟨k, mem, fatal⟩ := some
    rw [harmless k mem] at fatal
    cases fatal
  | @fatal k e mem terminal => exact ⟨k, mem, e, terminal, rfl⟩

/-- With one fatal answer at most there is one verdict. -/
theorem Verdict.unique {r r' : Except ProvisionError (List ClaimKey)}
    (h : Verdict answer outstanding r) (h' : Verdict answer outstanding r')
    (atMostOne : ∀ k ∈ outstanding, ∀ k' ∈ outstanding, Sighting.isFatal (answer k) = true →
      Sighting.isFatal (answer k') = true → k = k') : r = r' := by
  by_cases some : ∃ k ∈ outstanding, Sighting.isFatal (answer k) = true
  · obtain ⟨k, mem, e, terminal, rfl⟩ := h.eq_error some
    obtain ⟨k', mem', e', terminal', rfl⟩ := h'.eq_error some
    obtain rfl := atMostOne k mem k' mem' (Observation.isFatal_of_terminal terminal)
      (Observation.isFatal_of_terminal terminal')
    rw [terminal] at terminal'
    cases terminal'
    rfl
  · have harmless : ∀ k ∈ outstanding, Sighting.isFatal (answer k) = false := by
      simpa using some
    rw [h.eq_ok harmless, h'.eq_ok harmless]

end Round

/-! ## Every order occurs -/

section Orders

theorem Look.noLater_of_due {x y : Look σ} {t u : Instant} (dueX : x.due = some t)
    (dueY : y.due = some u) : x.noLater y = true ↔ t < u ∨ t = u ∧ x.turn ≤ y.turn := by
  simp [noLater, dueX, dueY]

theorem Look.noLater_trans {x y z : Look σ} (first : x.noLater y = true)
    (second : y.noLater z = true) : x.noLater z = true := by
  obtain ⟨_, due, turn, _⟩ := x
  obtain ⟨_, due', turn', _⟩ := y
  obtain ⟨_, due'', turn'', _⟩ := z
  cases due <;> cases due' <;> cases due'' <;>
    simp only [noLater, Bool.or_eq_true, Bool.and_eq_true, decide_eq_true_eq, Bool.false_eq_true]
      at first second ⊢
  rcases first with lt | ⟨rfl, le⟩
  · rcases second with lt' | ⟨rfl, -⟩
    · exact .inl (Nat.lt_trans lt lt')
    · exact .inl lt
  · exact second.imp id fun ⟨same, le'⟩ => ⟨same, Nat.le_trans le le'⟩

theorem Look.noLater_total (x y : Look σ) : x.noLater y = true ∨ y.noLater x = true := by
  obtain ⟨_, due, turn, _⟩ := x
  obtain ⟨_, due', turn', _⟩ := y
  cases due with
  | none => cases due' <;> simp [noLater]
  | some t =>
    cases due' with
    | none => simp [noLater]
    | some u =>
      simp only [noLater, Bool.or_eq_true, Bool.and_eq_true, decide_eq_true_eq]
      rcases Nat.lt_trichotomy t u with lt | rfl | gt
      · exact .inl (.inl lt)
      · exact (Nat.le_total turn turn').imp (fun le => .inr ⟨rfl, le⟩) fun le => .inr ⟨rfl, le⟩
      · exact .inr (.inl gt)

theorem Look.insert_pairwise (x : Look σ) {looks : List (Look σ)}
    (sorted : looks.Pairwise fun y z => y.noLater z = true) :
    (x.insert looks).Pairwise fun y z => y.noLater z = true := by
  induction looks with
  | nil => exact List.pairwise_singleton _ x
  | cons y rest ih =>
    obtain ⟨below, others⟩ := List.pairwise_cons.1 sorted
    rw [insert]
    split
    · next first =>
      refine List.pairwise_cons.2 ⟨?_, sorted⟩
      exact List.forall_mem_cons.2 ⟨first, fun z mem => noLater_trans first (below z mem)⟩
    · next second =>
      refine List.pairwise_cons.2 ⟨fun z mem => ?_, ih others⟩
      rcases List.mem_cons.1 ((insert_perm x rest).mem_iff.1 mem) with rfl | mem
      · exact (noLater_total z y).resolve_left second
      · exact below z mem

/-- Looks in order are in order. -/
theorem Look.inOrder_pairwise (looks : List (Look σ)) :
    (inOrder looks).Pairwise fun x y => x.noLater y = true := by
  induction looks with
  | nil => exact .nil
  | cons x rest ih => exact insert_pairwise x ih

end Orders

/-- The backend whose looks all go on at once, in a given order. -/
def completing (order : List ClaimKey) (answer : ClaimKey → Sighting) : Backend Unit where
  create _ _ s := (s, .unanswered)
  get _ key s := (s, .waiting 0 (order.idxOf key) fun s => (s, some (answer key)))
  list _ _ _ s := (s, .unanswered)

variable {answer : ClaimKey → Sighting} {order outstanding : List ClaimKey} {l : Limits}
variable {w : World Unit}

theorem completes_completing (silent : l.signals.SilentUntil w.now) (inTime : w.now < l.deadline) :
    Completes (fun _ => True) 0 answer (completing order answer) l outstanding w where
  holds := trivial
  gives _ _ _ _ := ⟨trivial, .later (Nat.le_refl 0) fun _ _ => ⟨trivial, rfl⟩⟩
  silent := silent
  inTime := inTime

/-- A look at the backend that answers in a given order. -/
def waitingLook (order : List ClaimKey) (answer : ClaimKey → Sighting) (now : Instant)
    (key : ClaimKey) : Look Unit :=
  ⟨key, some now, order.idxOf key, fun s => (s, some (answer key))⟩

theorem start_completing (order : List ClaimKey) (answer : ClaimKey → Sighting)
    (asked outstanding : List ClaimKey) (w : World Unit) :
    ∃ y : World Unit, y.now = w.now ∧ start (completing order answer) asked outstanding w =
      (.ok (outstanding, asked.map (waitingLook order answer w.now)), y) := by
  induction asked generalizing w with
  | nil => exact ⟨w, rfl, rfl⟩
  | cons key rest ih =>
    let y : World Unit := w.leave (.began w.now (.get key))
    have began : begin (completing order answer) key w =
        (.ok (.inr (waitingLook order answer w.now key)), y) := rfl
    obtain ⟨z, isNow, started⟩ := ih y
    refine ⟨z, isNow, ?_⟩
    rw [start, bind_of_ok began]
    dsimp only
    rw [bind_of_ok started]
    rfl

/-- Looks at the backend that answers in a given order go on in this order. -/
theorem inOrder_waitingLooks (perm : order.Perm outstanding) (nodup : order.Nodup) (now : Instant) :
    (Look.inOrder (outstanding.map (waitingLook order answer now))).map (·.key) = order := by
  have looks := Look.inOrder_perm (outstanding.map (waitingLook order answer now))
  have keys : ((Look.inOrder (outstanding.map (waitingLook order answer now))).map (·.key)).Perm
      order := by
    refine (looks.map _).trans ?_
    rw [List.map_map]
    exact (List.map_id _).symm ▸ perm.symm
  have placed : ((Look.inOrder (outstanding.map (waitingLook order answer now))).map
      (·.key)).Pairwise fun j k => order.idxOf j ≤ order.idxOf k := by
    refine List.pairwise_map.2 ((Look.inOrder_pairwise _).imp_of_mem fun {x y} memX memY le => ?_)
    obtain ⟨j, -, rfl⟩ := List.mem_map.1 (looks.mem_iff.1 memX)
    obtain ⟨k, -, rfl⟩ := List.mem_map.1 (looks.mem_iff.1 memY)
    rw [Look.noLater_of_due rfl rfl] at le
    exact (le.resolve_left (Nat.lt_irrefl now)).2
  have increasing : order.Pairwise fun j k => order.idxOf j ≤ order.idxOf k := by
    refine List.pairwise_iff_getElem.2 fun i j hi hj lt => ?_
    rw [nodup.idxOf_getElem, nodup.idxOf_getElem]
    exact Nat.le_of_lt lt
  refine List.Perm.eq_of_pairwise (fun j k _ mem le ge => ?_) placed increasing keys
  exact (List.idxOf_inj mem).1 (Nat.le_antisymm ge le) |>.symm

/-- **Every order occurs**: for any order of the outstanding keys there is a round that consumes
the answers in this order. -/
theorem round_completing (perm : order.Perm outstanding) (nodup : outstanding.Nodup)
    (silent : l.signals.SilentUntil w.now) (inTime : w.now < l.deadline) :
    (round (completing order answer) l outstanding w).1 =
      (consumeAll outstanding (answered answer order)).mapError Halt.failed := by
  obtain ⟨y, isNow, started⟩ := start_completing order answer outstanding outstanding w
  let looks : List (Look Unit) := outstanding.map (waitingLook order answer w.now)
  have gives : ∀ look ∈ Look.inOrder looks, look.Gives (fun _ => True) w.now answer := by
    intro look mem
    obtain ⟨k, -, rfl⟩ := List.mem_map.1 ((Look.inOrder_perm _).mem_iff.1 mem)
    exact ⟨⟨w.now, rfl, Nat.le_refl _⟩, fun _ _ => ⟨trivial, rfl⟩⟩
  have taken := collect_eq (Look.inOrder looks) outstanding gives trivial (Nat.le_of_eq isNow)
    silent inTime
  rw [round, bind_of_ok (Limits.check_eq outstanding silent (Nat.le_refl _) inTime),
    bind_of_ok started]
  rwa [inOrder_waitingLooks perm (perm.nodup_iff.2 nodup)] at taken

/-! ## Two orders -/

/-- A round ended with the error of a fatal answer. -/
def FatalResult (answer : ClaimKey → Sighting) (outstanding : List ClaimKey)
    (r : Except Halt (List ClaimKey)) : Prop :=
  ∃ k ∈ outstanding, ∃ e, Observation.of k (answer k) = .terminal e ∧ r = .error (.failed e)

/-- **The order does not matter.**  A wait for the same keys is the same run, however they are
listed and however often: it does the same in every world.  And of two rounds in which each
outstanding key has the same answer, whenever and in whatever order the answers come, the results
are the same where at most one answer is fatal; where none is, both leave what is not ready; and
where some are, each ends with the error of one of them. -/
theorem order_immaterial :
    (∀ {σ : Type} (b : Backend σ) (pollInterval : Duration) (signals : Signals)
      (workspace : String) (deadline : Instant) (keys keys' : List ClaimKey),
      (∀ k, k ∈ keys ↔ k ∈ keys') →
      awaitUntil b pollInterval signals workspace deadline keys =
        awaitUntil b pollInterval signals workspace deadline keys') ∧
    ∀ {σ τ : Type} {I : σ → Prop} {I' : τ → Prop} {patience patience' : Nat}
      {answer : ClaimKey → Sighting} {b : Backend σ} {b' : Backend τ} {l l' : Limits}
      {outstanding : List ClaimKey} {w : World σ} {w' : World τ},
      Completes I patience answer b l outstanding w →
      Completes I' patience' answer b' l' outstanding w' →
      let r := (round b l outstanding w).1
      let r' := (round b' l' outstanding w').1
      ((∀ k ∈ outstanding, ∀ k' ∈ outstanding, Sighting.isFatal (answer k) = true →
        Sighting.isFatal (answer k') = true → k = k') → r = r') ∧
      ((∀ k ∈ outstanding, Sighting.isFatal (answer k) = false) →
        let left := outstanding.filter fun k => !Sighting.isReady (answer k)
        r = .ok left ∧ r' = .ok left) ∧
      ((∃ k ∈ outstanding, Sighting.isFatal (answer k) = true) →
        FatalResult answer outstanding r ∧ FatalResult answer outstanding r') := by
  refine ⟨fun b pollInterval signals workspace deadline keys keys' same => ?_, ?_⟩
  · unfold awaitUntil
    rw [SortedMap.inOrder_congr same]
  · intro σ τ I I' patience patience' answer b b' l l' outstanding w w' completes completes'
    obtain ⟨v, verdict, result⟩ := completes.verdict
    obtain ⟨v', verdict', result'⟩ := completes'.verdict
    dsimp only
    rw [result, result']
    refine ⟨fun atMostOne => ?_, fun harmless => ?_, fun some => ?_⟩
    · rw [verdict.unique verdict' atMostOne]
    · rw [verdict.eq_ok harmless, verdict'.eq_ok harmless]
      exact ⟨rfl, rfl⟩
    · obtain ⟨k, mem, e, terminal, rfl⟩ := verdict.eq_error some
      obtain ⟨k', mem', e', terminal', rfl⟩ := verdict'.eq_error some
      exact ⟨⟨k, mem, e, terminal, rfl⟩, ⟨k', mem', e', terminal', rfl⟩⟩

/-- Of all claims the launch of `b` has failed, and the others are ready. -/
def onlyOneFailed (key : ClaimKey) : Sighting :=
  .ok <| (⟨{ name := some key.name, ns := some key.ns }, {}, none⟩ : NodeClaim).withConditions <|
    if key.name = "b" then [.of "Launched" .false "LaunchFailed" "quota exceeded"]
    else [.of "Launched" .true "" "", .of "Ready" .true "" ""]

/-- Whether `b` is answered before the others or after them, its failure ends the round. -/
theorem order_immaterial_failure :
    let a : ClaimKey := ⟨"kaito", "a"⟩
    let b : ClaimKey := ⟨"kaito", "b"⟩
    let c : ClaimKey := ⟨"kaito", "c"⟩
    let l : Limits := ⟨{}, "falcon", 60⟩
    let early := round (completing [b, a, c] onlyOneFailed) l [a, b, c] (.start 0 ())
    let late := round (completing [c, a, b] onlyOneFailed) l [a, b, c] (.start 0 ())
    early.1 = late.1 ∧ early.1 = .error (.failed (.provisioningFailed "b" "quota exceeded")) := by
  intro a b c l early late
  have completes (order : List ClaimKey) : Completes (fun _ => True) 0 onlyOneFailed
      (completing order onlyOneFailed) l [a, b, c] (.start 0 ()) :=
    completes_completing (.never _) (by decide)
  obtain ⟨same, -⟩ := order_immaterial.2 (completes [b, a, c]) (completes [c, a, b])
  refine ⟨same (by decide), ?_⟩
  exact (round_completing (by decide) (by decide) (.never _) (by decide)).trans (by decide +kernel)

end Rounds

end NodeProvisioning
