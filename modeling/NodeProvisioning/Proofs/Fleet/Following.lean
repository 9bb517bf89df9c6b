import NodeProvisioning.Proofs.Fleet.Basic
import NodeProvisioning.Proofs.Provisioning.Keeping
import NodeProvisioning.Proofs.Provisioning.Lockstep

/-!
# Runs follow the log

A run is begun anew for each of its turns, with one more reply than before.  That this is the same
run going on has to be shown: up to the call for which there was no reply before, the two runs are
in lockstep; there the shorter one comes to nothing more, and the longer one makes the same call and
is given the reply.  So the calls that a run makes with the replies of a log are those that the log
has for it, in order.

## Main definitions

* `Relay.later` — the coupling of a relay with the same relay and one reply more
* `Relay.Follows` — what a run has asked for and taken came through its relay
* `Fleet.Faithful` — every run makes the calls that the log has for it

## Main statements

* `Fleet.turn_cases` — what a turn does
* `Fleet.after_faithful` — runs follow the log
-/

namespace NodeProvisioning

namespace Relay

variable {α : Type} {call : Call} {read : Answer → Option α} {reply : Option Answer}
variable {pace : Nat → Option (Nat × Nat)}

/-! ## One reply more -/

/-- A relay and the same with one reply more are in step until a call finds no reply; then the
longer one hands out its last reply for it. -/
def later (reply : Option Answer) : Coupling Relay where
  inStep r r' := r.knock = none ∧ r' = { r with replies := r.replies ++ [reply] }
  off r r' := r.replies = [] ∧
    ∃ call, r.knock = some call ∧ r.exchanges ++ [⟨call, reply⟩] <+: r'.exchanges

/-- The calls for which a reply was handed out only become more. -/
theorem exchanges_pass (call : Call) (r : Relay) : r.exchanges <+: (r.pass call).1.exchanges := by
  unfold pass
  split
  · exact List.prefix_append _ _
  · exact List.prefix_rfl

theorem pass_respects (call : Call) : (later reply).Respects (pass call) where
  together := by
    rintro ⟨replies, exchanges, knock, begun⟩ _ ⟨silent, rfl⟩
    cases silent
    cases replies with
    | nil => exact .inr ⟨rfl, call, rfl, List.prefix_rfl⟩
    | cons first rest => exact .inl ⟨⟨rfl, rfl⟩, rfl⟩
  left := by
    rintro ⟨replies, exchanges, knock, begun⟩ v ⟨none, first, knocked, sub⟩
    cases none
    cases knocked
    exact ⟨rfl, first, rfl, sub⟩
  right := by
    rintro v r ⟨none, first, knocked, sub⟩
    exact ⟨none, first, knocked, sub.trans (exchanges_pass call r)⟩

theorem ask_respects : (later reply).Respects (ask call read) :=
  (pass_respects call).map fun found => found.bind read

theorem begin_of_some {r : Relay} {delay turn : Nat} (waits : pace r.begun = some (delay, turn)) :
    begin pace call read r = (r.count, .waiting delay turn (ask call read)) := by
  rw [begin, waits]

theorem begin_of_none {r : Relay} (prompt : pace r.begun = none) :
    begin pace call read r = ((r.count.ask call read).1, .atOnce (r.count.ask call read).2) := by
  rw [begin, prompt]

/-- **Calls respect the coupling.** -/
theorem begin_begins : (later reply).Begins (begin pace call read) where
  begun := by
    have asks : (later reply).Respects (ask call read) := ask_respects
    refine ⟨fun r r' inStep => ?_, fun r v off => ?_, fun v r off => ?_⟩
    · obtain ⟨silent, same⟩ := inStep
      have counts : r'.begun = r.begun := by rw [same]
      have counted : (later reply).inStep r.count r'.count := ⟨silent, congrArg count same⟩
      cases paced : pace r.begun with
      | some pair =>
        rw [begin_of_some paced, begin_of_some (counts ▸ paced)]
        exact .inl ⟨counted, rfl⟩
      | none =>
        rw [begin_of_none paced, begin_of_none (counts ▸ paced)]
        rcases asks.together _ _ counted with ⟨inStep, same⟩ | off
        · exact .inl ⟨inStep, congrArg Progress.atOnce same⟩
        · exact .inr off
    · cases paced : pace r.begun with
      | some pair => rwa [begin_of_some paced]
      | none =>
        rw [begin_of_none paced]
        exact asks.left r.count v off
    · cases paced : pace r.begun with
      | some pair => rwa [begin_of_some paced]
      | none =>
        rw [begin_of_none paced]
        exact asks.right v r.count off
  goesOn := by
    intro r delay turn finish waits
    cases paced : pace r.begun with
    | some pair =>
      rw [begin_of_some paced] at waits
      cases waits
      exact ask_respects
    | none =>
      rw [begin_of_none paced] at waits
      cases found : (r.count.ask call read).2 <;> rw [found] at waits <;> cases waits

theorem backend_respects : (backend pace).Respects (later reply) where
  create _ _ := begin_begins
  look _ _ := begin_begins

/-! ## What came through a relay -/

/-- A reply that was handed out was written down with its call. -/
theorem mem_exchanges_of_pass {r : Relay} {answer : Answer} (h : (r.pass call).2 = some answer) :
    ⟨call, some answer⟩ ∈ (r.pass call).1.exchanges := by
  unfold pass at h ⊢
  split at h
  · cases h
    exact List.mem_append_right _ (List.mem_singleton_self _)
  · cases h

/-- **A call upholds** what counting it keeps and what passing it on keeps. -/
theorem begin_upholds {J : World Relay → Prop} {took : α → Answer}
    (begins : ∀ w, J w → J (World.leave { w with state := w.state.count } (.began w.now call)))
    (asks : Resumes J (fun _ => True) took (ask call read)) :
    Call.Upholds J (fun _ => True) call took fun _ => begin pace call read := by
  intro w holds _
  have begun := begins w holds
  unfold World.begun
  dsimp only
  cases paced : pace w.state.begun with
  | some pair =>
    rw [begin_of_some paced]
    exact ⟨begun, asks⟩
  | none =>
    rw [begin_of_none paced]
    obtain ⟨answered, lost⟩ := asks _ begun trivial
    cases found : (w.state.count.ask call read).2 with
    | some a => exact answered a found
    | none => exact lost found

/-- **What a run has asked for and taken came through its relay**: the replies it was given are
handed out in order, an answer to a creation was the reply to one, and only these claims were
created. -/
structure Follows (replies : List (Option Answer)) (claims : List NodeClaim) (w : World Relay) :
    Prop where
  accounted : w.state.exchanges.map (·.reply) ++ w.state.replies = replies
  answered : ∀ t claim a, .took t (.create claim a) ∈ w.trace →
    ∃ claim', ⟨.create claim, some (.create claim' a)⟩ ∈ w.state.exchanges
  asked : ∀ claim reply, ⟨.create claim, reply⟩ ∈ w.state.exchanges → claim ∈ claims

namespace Follows

variable {replies : List (Option Answer)} {claims : List NodeClaim} {w : World Relay}

theorem start (now : Instant) : Follows replies claims (.start now { replies }) where
  accounted := rfl
  answered _ _ _ mem := nomatch mem
  asked _ _ mem := nomatch mem

theorem lasts : World.Lasts (Follows replies claims) none :=
  fun _ _ holds _ _ => ⟨holds.accounted, holds.answered, holds.asked⟩

/-- Counting a call. -/
theorem begun (h : Follows replies claims w) : Follows replies claims
    (World.leave { w with state := w.state.count } (.began w.now call)) where
  accounted := h.accounted
  answered t claim a mem := by
    rcases List.mem_cons.1 mem with same | earlier
    · cases same
    · exact h.answered t claim a earlier
  asked := h.asked

/-- Passing a call on. -/
theorem pass (h : Follows replies claims w) (own : ∀ claim, call = .create claim → claim ∈ claims) :
    Follows replies claims { w with state := (w.state.pass call).1 } := by
  unfold Relay.pass
  split
  · next reply rest same =>
    have accounted := h.accounted
    rw [same] at accounted
    refine ⟨?_, fun t claim a mem => ?_, fun claim reply' mem => ?_⟩
    · rw [← accounted]
      simp
    · obtain ⟨claim', found⟩ := h.answered t claim a mem
      exact ⟨claim', List.mem_append_left _ found⟩
    · rcases List.mem_append.1 mem with earlier | last
      · exact h.asked claim reply' earlier
      · cases List.mem_singleton.1 last
        exact own claim rfl
  · exact ⟨h.accounted, h.answered, h.asked⟩

/-- Taking an answer. -/
theorem took (h : Follows replies claims w) {t : Instant} {answer : Answer}
    (came : ∀ claim a, answer = .create claim a →
      ∃ claim', ⟨.create claim, some (.create claim' a)⟩ ∈ w.state.exchanges) :
    Follows replies claims (w.leave (.took t answer)) where
  accounted := h.accounted
  answered t' claim a mem := by
    rcases List.mem_cons.1 mem with same | earlier
    · cases same
      exact came claim a rfl
    · exact h.answered t' claim a earlier
  asked := h.asked

theorem resumes {took : α → Answer} (own : ∀ claim, call = .create claim → claim ∈ claims)
    (reads : ∀ answer a, read answer = some a → ∀ claim result, took a = .create claim result →
      call = .create claim ∧ ∃ claim', answer = .create claim' result) :
    Resumes (Follows replies claims) (fun _ => True) took (ask call read) := by
  intro w holds _
  refine ⟨fun a found => (holds.pass own).took fun claim result same => ?_, fun _ => holds.pass own⟩
  obtain ⟨answer, passed, read⟩ := Option.bind_eq_some_iff.1 found
  obtain ⟨rfl, claim', rfl⟩ := reads answer a read claim result same
  exact ⟨claim', mem_exchanges_of_pass passed⟩

/-- **The calls of a relay** keep to this, if they create none but these claims. -/
theorem provisions : (backend pace).Provisions (Follows replies claims) claims where
  create claim mem := by
    refine begin_upholds (fun _ => begun) (resumes ?_ ?_)
    · rintro _ ⟨⟩
      exact mem
    · rintro answer a read claim' result ⟨⟩
      exact ⟨rfl, Answer.created?_eq_some read⟩
  look key := by
    refine begin_upholds (fun _ => begun) (resumes ?_ ?_)
    · rintro _ ⟨⟩
    · rintro answer a read claim' result ⟨⟩

end Follows

end Relay

/-! ## Fleets -/

namespace Fleet

variable {ι : Type} [DecidableEq ι] {f : Fleet ι} {i j : ι} {log : List (Entry ι)}
variable {x : Shared ι}

theorem exchangesOf_append (i : ι) (log more : List (Entry ι)) :
    exchangesOf i (log ++ more) = exchangesOf i log ++ exchangesOf i more := by
  simp [exchangesOf]

/-- What a run has asked for and taken came through its relay. -/
theorem run_follows (f : Fleet ι) (i : ι) (log : List (Entry ι)) :
    Relay.Follows ((exchangesOf i log).map (·.reply)) (f.claims i) (f.run i log).2 :=
  (Provisioning.provision_contract Relay.Follows.lasts Relay.Follows.provisions).holds
    (Relay.Follows.start _)

/-- **A run that is given a reply to the call it has come to** makes this call, and no other. -/
theorem exchanges_run_append {call : Call} {reply : Option Answer}
    (follows : (f.run i log).2.state.exchanges = exchangesOf i log)
    (comes : (f.run i log).2.state.knock = some call) :
    (f.run i (log ++ [⟨⟨call, reply⟩, i⟩])).2.state.exchanges =
      exchangesOf i log ++ [⟨call, reply⟩] := by
  have own : exchangesOf i (log ++ [⟨⟨call, reply⟩, i⟩]) =
      exchangesOf i log ++ [⟨call, reply⟩] := by
    rw [exchangesOf_append]
    simp [exchangesOf]
  have aligned : (Relay.later reply).Aligned (f.origin i log)
      (f.origin i (log ++ [⟨⟨call, reply⟩, i⟩])) := by
    refine ⟨rfl, rfl, rfl, ?_⟩
    simp [origin, World.start, own]
  have accounted := (f.run_follows i (log ++ [⟨⟨call, reply⟩, i⟩])).accounted
  rw [own] at accounted
  rcases (Provisioning.provision_lockstep Relay.backend_respects).together _ _ aligned with
    ⟨-, still⟩ | ⟨-, first, knocked, sub⟩
  · -- In step, no call has found no reply.
    exact nomatch comes.symm.trans still.inStep.1
  · change (f.run i log).2.state.knock = some first at knocked
    cases comes.symm.trans knocked
    change (f.run i log).2.state.exchanges ++ _ <+: (f.run i _).2.state.exchanges at sub
    rw [follows] at sub
    -- There are no more replies than one for each of these calls.
    refine (sub.eq_of_length_le ?_).symm
    have lengths := congrArg List.length accounted
    simp only [List.length_append, List.length_map, List.length_singleton] at lengths ⊢
    omega

/-- **What a turn does.** -/
theorem turn_cases (f : Fleet ι) (x : Shared ι) (i : ι) :
    f.turn x i = x ∨ ∃ call, (f.run i x.log).2.state.knock = some call ∧
      f.turn x i =
        ⟨(x.store.serve call).1, x.log ++ [⟨⟨call, (x.store.serve call).2⟩, i⟩]⟩ := by
  unfold turn
  cases comes : (f.run i x.log).2.state.knock with
  | none => exact .inl rfl
  | some call => exact .inr ⟨call, rfl, rfl⟩

/-- **Every run makes the calls that the log has for it**, in order. -/
def Faithful (f : Fleet ι) (x : Shared ι) : Prop :=
  ∀ i, (f.run i x.log).2.state.exchanges = exchangesOf i x.log

/-- A turn of one run gives the others nothing. -/
theorem run_append_of_ne {e : Entry ι} (other : e.run ≠ i) :
    f.run i (log ++ [e]) = f.run i log := by
  have same : exchangesOf i (log ++ [e]) = exchangesOf i log := by
    simp [exchangesOf, other]
  rw [run, origin, same]
  rfl

theorem Faithful.turn (h : f.Faithful x) (i : ι) : f.Faithful (f.turn x i) := by
  rcases f.turn_cases x i with same | ⟨call, comes, same⟩
  · rwa [same]
  · rw [same]
    intro j
    by_cases own : i = j
    · subst own
      rw [exchanges_run_append (h i) comes, exchangesOf_append]
      simp [exchangesOf]
    · rw [run_append_of_ne own, exchangesOf_append, h j]
      simp [exchangesOf, own]

/-- **Runs follow the log**, whatever the schedule. -/
theorem after_faithful (f : Fleet ι) (s : Store) (schedule : List ι) :
    f.Faithful (f.after s schedule) := by
  refine List.foldlRecOn schedule f.turn (fun i => ?_) fun x h i _ => h.turn i
  have accounted := (f.run_follows i []).accounted
  exact List.map_eq_nil_iff.1 (List.append_eq_nil_iff.1 accounted).1

end Fleet

end NodeProvisioning
