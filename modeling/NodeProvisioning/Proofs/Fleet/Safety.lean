import NodeProvisioning.Proofs.Fleet.Following
import NodeProvisioning.Proofs.Provisioning.Convergence

/-!
# Provisioning concurrently is safe

The names of claims depend on the workload alone, so several runs of one workload compete for the
same keys.  The store settles each competition: the first creation of a key stores its claim, and
every later one finds it there, which is as good.  What the log tells is therefore an account of
what the store has: a key is there if it was there at first or was created, and never both; and
what is stored under it is what was there at first, or else what was first asked for.

## Main definitions

* `Exchange.created`, `Exchange.submitted` — a call that created a key, and what a call asked to be
  stored under it
* `Fleet.creators`, `Fleet.firstSubmitted` — the runs that created a key, and what was first asked
  to be stored under it
* `Fleet.Accounts` — the log accounts for the store

## Main statements

* `Fleet.after_accounts` — it does so after every schedule
* `Fleet.after_safe` — no run is refused a claim, and no key is created twice
-/

namespace NodeProvisioning

/-! ## What a log tells -/

/-- The call created this key. -/
def Exchange.created (e : Exchange) (key : ClaimKey) : Bool :=
  match e.call, e.reply with
  | .create claim, some (.create _ (.ok ())) => claim.key = key
  | _, _ => false

/-- What the call asked to be stored under a key. -/
def Exchange.submitted (e : Exchange) (key : ClaimKey) : Option (Metadata × NodeClaim.Spec) :=
  match e.call with
  | .create claim => if claim.key = key then some (claim.metadata, claim.spec) else none
  | _ => none

/-- A creation that was granted created the claim's key, and no other. -/
theorem Exchange.created_of_granted {e : Exchange} {claim : NodeClaim}
    (creates : e.call = .create claim) (grants : e.reply = some (.create claim (.ok ())))
    (key : ClaimKey) : e.created key = decide (claim.key = key) := by
  rw [created, creates, grants]

/-- Only a creation of the key asks for something to be stored under it. -/
theorem Exchange.submitted_eq_some {e : Exchange} {key : ClaimKey}
    {asked : Metadata × NodeClaim.Spec} (h : e.submitted key = some asked) :
    ∃ claim, e.call = .create claim ∧ claim.key = key := by
  unfold submitted at h
  split at h
  · next claim same =>
    split at h
    · next own => exact ⟨claim, same, own⟩
    · cases h
  · cases h

namespace Fleet

variable {ι : Type}

/-- The runs that created a key, in order. -/
def creators (key : ClaimKey) (log : List (Entry ι)) : List ι :=
  (log.filter fun e => e.created key).map (·.run)

/-- What was first asked to be stored under a key. -/
def firstSubmitted (key : ClaimKey) (log : List (Entry ι)) : Option (Metadata × NodeClaim.Spec) :=
  log.findSome? fun e => e.submitted key

section Readings

variable (key : ClaimKey) (log : List (Entry ι)) (e : Entry ι)

@[simp] theorem length_creators_append :
    (creators key (log ++ [e])).length = (creators key log).length + (e.created key).toNat := by
  cases created : e.created key <;> simp [creators, created]

@[simp] theorem firstSubmitted_append :
    firstSubmitted key (log ++ [e]) = (firstSubmitted key log).or (e.submitted key) := by
  rw [firstSubmitted, List.findSome?_append, List.findSome?_singleton]
  rfl

end Readings

/-! ## The account -/

/-- **The log accounts for the store**: creations are allowed; a key is there if it was there at
first or was created, and never both; what is stored is what was there at first, or else what was
first asked for; a claim that a run asked for is there; and if a creation did not create it, it was
there already. -/
structure Accounts (s : Store) (x : Shared ι) : Prop where
  allowed : x.store.createFailure = none
  balance : ∀ key, (s.claims.contains key).toNat + (creators key x.log).length =
    (x.store.claims.contains key).toNat
  entry_eq : ∀ key, x.store.entry key = (s.entry key).or (firstSubmitted key x.log)
  there : ∀ e ∈ x.log, ∀ claim, e.call = .create claim →
    x.store.claims.contains claim.key = true
  granted : ∀ e ∈ x.log, ∀ claim claim' error, e.call = .create claim →
    e.reply = some (.create claim' (.error error)) → error.isAlreadyExists = true

namespace Accounts

variable {s : Store} {x : Shared ι} {e : Entry ι} {claim : NodeClaim}

theorem start (allowed : s.createFailure = none) : Accounts s (⟨s, []⟩ : Shared ι) where
  allowed := allowed
  balance _ := rfl
  entry_eq key := by simp [firstSubmitted]
  there _ mem := nomatch mem
  granted _ mem := nomatch mem

/-- **A call that creates nothing** leaves the account as it is, whatever it does to statuses. -/
theorem idle (h : Accounts s x) {store : Store} (agrees : store.Agrees x.store)
    (none : ∀ key, e.created key = false)
    (taken : ∀ claim, e.call = .create claim → x.store.claims.contains claim.key = true)
    (granted : ∀ claim claim' error, e.call = .create claim →
      e.reply = some (.create claim' (.error error)) → error.isAlreadyExists = true) :
    Accounts s ⟨store, x.log ++ [e]⟩ where
  allowed := agrees.createFailure_eq.trans h.allowed
  balance key := by
    rw [length_creators_append, none, agrees.contains_eq]
    exact h.balance key
  entry_eq key := by
    rw [firstSubmitted_append, agrees.entry_eq, h.entry_eq]
    cases asked : e.submitted key with
    | none => rw [Option.or_none]
    | some entry =>
      -- What it asked for is there, so something else was there before.
      obtain ⟨claim, creates, rfl⟩ := Exchange.submitted_eq_some asked
      have present := taken claim creates
      rw [Store.contains_eq_isSome_entry, h.entry_eq] at present
      rw [← Option.or_assoc, Option.or_of_isSome present]
  there := by
    simp only [agrees.contains_eq]
    exact List.forall_mem_append.2 ⟨h.there, List.forall_mem_singleton.2 taken⟩
  granted := List.forall_mem_append.2 ⟨h.granted, List.forall_mem_singleton.2 granted⟩

/-- **A creation of a key that is not there** is entered into the account. -/
theorem create (h : Accounts s x) (absent : x.store.claims.contains claim.key = false)
    (creates : e.call = .create claim) (grants : e.reply = some (.create claim (.ok ()))) :
    Accounts s ⟨(x.store.create claim).1, x.log ++ [e]⟩ where
  allowed := by rw [Store.createFailure_create, h.allowed]
  balance key := by
    rw [length_creators_append, ← Nat.add_assoc, h.balance,
      Exchange.created_of_granted creates grants, Store.contains_create_of_absent h.allowed absent]
    by_cases own : claim.key = key
    · subst own
      simp [absent]
    · simp [own]
  entry_eq key := by
    rw [firstSubmitted_append, ← Option.or_assoc, ← h.entry_eq, Exchange.submitted, creates,
      Store.entry_create_of_absent h.allowed absent]
    by_cases own : claim.key = key
    · subst own
      -- Nothing is stored under the key, so what is asked for counts.
      rw [Store.contains_eq_isSome_entry, Option.isSome_eq_false_iff, Option.isNone_iff_eq_none]
        at absent
      rw [absent]
      rfl
    · simp [own]
  there := by
    refine List.forall_mem_append.2 ⟨fun e' mem claim' creates' => ?_,
      List.forall_mem_singleton.2 fun claim' creates' => ?_⟩
    · exact Store.contains_create (h.there e' mem claim' creates')
    · cases creates.symm.trans creates'
      simp [Store.contains_create_of_absent h.allowed absent]
  granted := by
    refine List.forall_mem_append.2 ⟨h.granted,
      List.forall_mem_singleton.2 fun _ _ _ _ fails => ?_⟩
    cases grants.symm.trans fails

/-- **Whatever the store sees to**, the log goes on accounting for it. -/
theorem serve (h : Accounts s x) (call : Call) (i : ι) :
    Accounts s ⟨(x.store.serve call).1, x.log ++ [⟨⟨call, (x.store.serve call).2⟩, i⟩]⟩ := by
  cases call with
  | create claim =>
    cases present : x.store.claims.contains claim.key with
    | true =>
      have refused : x.store.create claim =
          (x.store, .error (Store.alreadyExists claim.key.name)) := by
        simp [Store.create, h.allowed, present]
      simp only [Store.serve, refused]
      refine h.idle (.refl _) (fun key => rfl) ?_ ?_
      · rintro _ ⟨⟩
        exact present
      · rintro _ _ _ ⟨⟩ ⟨⟩
        rfl
    | false =>
      have granted : (x.store.create claim).2 = .ok () := by
        simp [Store.create, h.allowed, present]
      refine h.create present rfl ?_
      simp only [Store.serve, granted]
  | get key =>
    refine h.idle (x.store.get_agrees key) (fun key => rfl) ?_ ?_
    · rintro _ ⟨⟩
    · rintro _ _ _ ⟨⟩
  | list ns selector =>
    refine h.idle (.refl _) (fun key => rfl) ?_ ?_
    · rintro _ ⟨⟩
    · rintro _ _ _ ⟨⟩

end Accounts

variable {f : Fleet ι} {s : Store} {i : ι}

/-- The claims of all runs have the same keys. -/
theorem mem_keys {key : ClaimKey} (i : ι) (mem : key ∈ f.keys) :
    ∃ claim ∈ f.claims i, claim.key = key := by
  obtain ⟨n, small, rfl⟩ := List.mem_map.1 mem
  exact ⟨_, List.mem_map_of_mem small, rfl⟩

variable [DecidableEq ι]

/-- **The log accounts for the store** after every schedule. -/
theorem after_accounts (f : Fleet ι) (allowed : s.createFailure = none) (schedule : List ι) :
    Accounts s (f.after s schedule) := by
  refine List.foldlRecOn schedule f.turn (Accounts.start allowed) fun x h i _ => ?_
  rcases f.turn_cases x i with same | ⟨call, -, same⟩
  · rwa [same]
  · rw [same]
    exact h.serve call i

/-! ## Safety -/

/-- A log only grows. -/
theorem log_after_isPrefix {earlier schedule : List ι} (sub : earlier <+: schedule) :
    (f.after s earlier).log <+: (f.after s schedule).log := by
  obtain ⟨rest, rfl⟩ := sub
  have goesOn : f.after s (earlier ++ rest) = rest.foldl f.turn (f.after s earlier) :=
    List.foldl_append
  rw [goesOn]
  refine List.foldlRecOn (motive := fun x => (f.after s earlier).log <+: x.log) rest f.turn
    List.prefix_rfl fun x grown i _ => ?_
  rcases f.turn_cases x i with same | ⟨call, -, same⟩ <;> rw [same]
  · exact grown
  · exact grown.trans (List.prefix_append _ _)

/-- What a run has asked for is in the log. -/
theorem Faithful.mem_log {x : Shared ι} (h : f.Faithful x) {e : Exchange} :
    e ∈ (f.run i x.log).2.state.exchanges ↔
      ∃ entry ∈ x.log, entry.run = i ∧ entry.toExchange = e := by
  rw [h i, exchangesOf, List.mem_map]
  simp only [List.mem_filter, decide_eq_true_eq, and_assoc]

/-- What a run comes to is the result of provisioning. -/
theorem run_eq_of_outcome {log : List (Entry ι)} {r : Except Halt Unit}
    (h : f.outcome i log = r) :
    Provisioning.provision (Relay.backend (f.member i).pace) (f.member i).config
      (f.member i).signals f.workload (f.origin i log) = (r, (f.run i log).2) :=
  Prod.ext h rfl

/-- A run that succeeds has got through its submission. -/
theorem HasSubmitted.of_outcome {log : List (Entry ι)} (h : f.outcome i log = .ok ()) :
    f.HasSubmitted i log := by
  rcases Run.bind_cases (run_eq_of_outcome h) with ⟨deadline, _, submitted, -⟩ | ⟨e, -, same⟩
  · exact ⟨deadline, congrArg Prod.fst submitted⟩
  · cases same

/-- **Once a run has got through its submission**, all keys are there, and stay there. -/
theorem contains_of_hasSubmitted (allowed : s.createFailure = none) {earlier schedule : List ι}
    (sub : earlier <+: schedule) (submitted : f.HasSubmitted i (f.after s earlier).log) :
    ∀ key ∈ f.keys, (f.after s schedule).store.claims.contains key = true := by
  intro key mem
  obtain ⟨deadline, through⟩ := submitted
  obtain ⟨claim, own, rfl⟩ := mem_keys i mem
  obtain ⟨t, a, took⟩ := Provisioning.provision_took_creation through claim own
  obtain ⟨claim', asked⟩ :=
    (f.run_follows i (f.after s earlier).log).answered t claim a (List.mem_reverse.1 took)
  obtain ⟨entry, inLog, -, same⟩ := (f.after_faithful s earlier).mem_log.1 asked
  have inLater := (log_after_isPrefix sub).subset inLog
  exact (f.after_accounts allowed schedule).there entry inLater claim
    (congrArg Exchange.call same)

/-- **Provisioning concurrently is safe.**  Several runs provision one workload against a store
that refuses no creation, their calls reaching it in any order.  Then no run fails because a claim
was refused.  Once a run has got through its submission, every key of the workload that was not
there at first was created by one call of all runs.  What is stored under a key, statuses apart, is
what was there at first, or else what was first asked for; and nobody asked for anything but its
own claims.  Once a run has succeeded, all keys are there. -/
theorem after_safe (f : Fleet ι) (s : Store) (schedule : List ι)
    (allowed : s.createFailure = none) :
    let x := f.after s schedule
    (∀ i name e, f.outcome i x.log ≠ .error (.failed (.submission name e))) ∧
    (∀ i earlier, earlier <+: schedule → f.HasSubmitted i (f.after s earlier).log →
      ∀ key ∈ f.keys, s.claims.contains key = false → ∃ j, creators key x.log = [j]) ∧
    (∀ key, x.store.entry key = (s.entry key).or (firstSubmitted key x.log)) ∧
    (∀ e ∈ x.log, ∀ claim, e.call = .create claim → claim ∈ f.claims e.run) ∧
    ∀ i earlier, earlier <+: schedule → f.outcome i (f.after s earlier).log = .ok () →
      ∀ key ∈ f.keys, x.store.claims.contains key = true := by
  intro x
  have accounts : Accounts s x := f.after_accounts allowed schedule
  have faithful : f.Faithful x := f.after_faithful s schedule
  refine ⟨fun i name e failed => ?_, fun i earlier sub submitted key mem absent => ?_,
    accounts.entry_eq, fun e mem claim creates => ?_, fun i earlier sub succeeded => ?_⟩
  · -- The refusal that ended the run is in the log, and there it says that the claim is there.
    obtain ⟨claim, -, -, final, t, trace, last⟩ :=
      Provisioning.provision_refused (run_eq_of_outcome failed)
    obtain ⟨claim', asked⟩ := (f.run_follows i x.log).answered t claim (.error e)
      (by rw [last]; exact List.mem_cons_self)
    obtain ⟨entry, inLog, -, same⟩ := faithful.mem_log.1 asked
    have already := accounts.granted entry inLog claim claim' e (congrArg Exchange.call same)
      (congrArg Exchange.reply same)
    exact nomatch final.symm.trans already
  · have balance := accounts.balance key
    rw [absent, contains_of_hasSubmitted allowed sub submitted key mem] at balance
    exact List.length_eq_one_iff.1 (by simpa using balance)
  · have asked := faithful.mem_log.2 ⟨e, mem, rfl, rfl⟩
    exact (f.run_follows e.run x.log).asked claim e.reply (by rw [← creates]; exact asked)
  · exact contains_of_hasSubmitted allowed sub (.of_outcome succeeded)

open Provisioning (twoNodes) in
/-- Two runs of a workload of two nodes, one of which asks for storage. -/
def rivals : Fleet Bool where
  workload := twoNodes
  member
    | false => {}
    | true => { config := { manifest := { storageRequest := some "10Gi" } } }

/-- One run creates the first claim and is abandoned; the other finds this claim, and creates the
second. -/
def overtaking : List Bool := [false, true, true, true, true]

/-- The run that came later got through its submission, so each key was created once, by one of the
two runs. -/
theorem overtaking_safe :
    let log := (rivals.after {} overtaking).log
    (∀ key ∈ rivals.keys, ∃ j, creators key log = [j]) ∧
      rivals.keys.map (fun key => creators key log) = [[false], [true]] := by
  have submitted : rivals.HasSubmitted true (rivals.after {} overtaking).log :=
    ⟨900000000000, by decide +kernel⟩
  obtain ⟨-, once, -⟩ := rivals.after_safe {} overtaking rfl
  refine ⟨fun key mem => ?_, by decide +kernel⟩
  exact once true overtaking List.prefix_rfl submitted key mem rfl

end Fleet

end NodeProvisioning
