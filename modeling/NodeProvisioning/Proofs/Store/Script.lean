import NodeProvisioning.Proofs.Store.Ledger
import NodeProvisioning.Run.Rounds

/-!
# What successive looks show

A claim in the store may have a script, whose entries successive looks show one after the other;
the last one stays.  So what the looks at a claim will mean for a wait is known beforehand.  This
file reads it off the store: `Store.showing s key r` is the observation of the `r`-th look at `key`
from now on, counted from one.

A look uses up one entry of its own claim and leaves the other claims alone.  This is said once of
the scripts themselves, whether the claim is there or not: what is left of a script shows, look by
look, what the whole script shows after the looks so far (`Store.Walked`).  A wait is followed with
a relation between a store and an earlier one that tells how many looks lie between them, and the
scripts are not looked into again.

## Main definitions

* `scriptEntry`, `Store.showing` — what the looks show, and what they mean
* `Store.Settles`, `Store.unsettled` — the look that settles a claim
* `Store.ShowsEntry` — the answer to a look that shows an entry of a script
* `Store.Walked` — a script of which so many looks have been taken
* `Store.Scripted` — the claim is there, and looks at it show a script
* `Store.Ahead` — how many looks at a claim lie between two stores

## Main statements

* `Store.unsettled_iff` — a claim is unsettled until a look settles it
* `Store.exists_first_failure`, `Store.exists_last_settled` — the looks that decide about several
  claims
* `Store.Walked.look`, `Store.Walked.shows` — a look walks a script on, and shows the next entry
* `Store.get_scripted` — what a look at a scripted claim means
* `Store.Ahead.look`, `Store.Ahead.other` — a look moves its own claim on, and no other
-/

namespace NodeProvisioning

/-! ## Scripts -/

/-- What a look that shows a snapshot means for a wait. -/
def Snapshot.observation (key : ClaimKey) : Snapshot → Observation
  | .conditions l =>
    match ClaimState.ofConditions l with
    | .failed reason => .terminal (.provisioningFailed key.name reason)
    | .ready => .ready
    | .pending => .pending
  | .refusal code message =>
    let e := NodeProvisioning.refusal code message
    if e.isTransient then .pending else .terminal (.ofFetch key.name e)

/-- It ends the wait. -/
def Observation.isTerminal : Observation → Bool
  | .terminal _ => true
  | _ => false

theorem Observation.isTerminal_iff {seen : Observation} :
    seen.isTerminal = true ↔ ∃ e, seen = .terminal e := by
  cases seen <;> simp [isTerminal]

/-- The entry of a script that the `r`-th look shows, counted from one: the last one stays. -/
def scriptEntry (script : List Snapshot) (r : Nat) : Option Snapshot :=
  script[min r script.length - 1]?

/-- The next look shows the first entry, and those after it what comes then. -/
theorem nextSnapshot_eq {script : List Snapshot} (nonempty : script ≠ []) :
    (Store.nextSnapshot script).1 = scriptEntry script 1 ∧
      (Store.nextSnapshot script).2 ≠ [] ∧
      ∀ r, 0 < r → scriptEntry (Store.nextSnapshot script).2 r = scriptEntry script (r + 1) := by
  match script with
  | [a] =>
    refine ⟨rfl, by simp [Store.nextSnapshot], fun r pos => ?_⟩
    have first : min r 1 - 1 = 0 := by omega
    simp [Store.nextSnapshot, scriptEntry, first]
  | a :: b :: rest =>
    refine ⟨?_, by simp [Store.nextSnapshot], fun r pos => ?_⟩
    · simp [Store.nextSnapshot, scriptEntry]
    · have next : min r (rest.length + 1) = min r (rest.length + 1) - 1 + 1 := by omega
      have later : (a :: b :: rest)[min r (rest.length + 1)]? =
          (b :: rest)[min r (rest.length + 1) - 1]? := by
        rw [next]
        rfl
      simpa [Store.nextSnapshot, scriptEntry] using later.symm

namespace Store

variable {s s₀ : Store} {key k : ClaimKey} {n r : Nat}

/-- **What the `r`-th look at a claim means** for a wait, counted from one. -/
def showing (s : Store) (key : ClaimKey) (r : Nat) : Observation :=
  match (s.scripts.find? key).bind (scriptEntry · r) with
  | some shown => shown.observation key
  | none => .pending

/-- **The `r`-th look settles a claim**, with the observation `seen`: no look before it does. -/
structure Settles (s : Store) (key : ClaimKey) (r : Nat) (seen : Observation) : Prop where
  pos : 0 < r
  shows_eq : s.showing key r = seen
  ne_pending : seen ≠ .pending
  earlier : ∀ i < r, 0 < i → s.showing key i = .pending

/-- Whether no look up to the `n`-th settles a claim. -/
def unsettled (s : Store) (n : Nat) (key : ClaimKey) : Bool :=
  ∀ i ≤ n, 0 < i → s.showing key i = .pending

theorem unsettled_zero : s.unsettled 0 key = true := by
  simp [unsettled]

/-- One more look leaves a claim unsettled if it finds it pending. -/
theorem unsettled_succ :
    s.unsettled (n + 1) key = true ↔
      s.unsettled n key = true ∧ s.showing key (n + 1) = .pending := by
  simp only [unsettled, decide_eq_true_eq]
  constructor
  · intro all
    exact ⟨fun i le => all i (Nat.le_succ_of_le le), all _ (Nat.le_refl _) (Nat.succ_pos n)⟩
  · rintro ⟨before, last⟩ i le pos
    rcases Nat.le_succ_iff.1 le with le | rfl
    · exact before i le pos
    · exact last

/-- A claim that is unsettled after some looks was so after fewer. -/
theorem unsettled_of_le {m : Nat} (le : m ≤ n) (h : s.unsettled n key = true) :
    s.unsettled m key = true := by
  simp only [unsettled, decide_eq_true_eq] at h ⊢
  exact fun i small => h i (Nat.le_trans small le)

/-- A claim that is unsettled is settled by the next look, if that does not find it pending. -/
theorem Settles.of_unsettled (h : s.unsettled n key = true)
    (seen : s.showing key (n + 1) ≠ .pending) :
    s.Settles key (n + 1) (s.showing key (n + 1)) := by
  refine ⟨Nat.succ_pos n, rfl, seen, fun i lt => ?_⟩
  simp only [Store.unsettled, decide_eq_true_eq] at h
  exact h i (Nat.le_of_lt_succ lt)

/-- **A claim is unsettled** as long as no look settles it. -/
theorem unsettled_iff :
    s.unsettled n key = true ↔ ∀ r ≤ n, ∀ seen, ¬ s.Settles key r seen := by
  constructor
  · intro h r le seen settles
    simp only [unsettled, decide_eq_true_eq] at h
    exact settles.ne_pending (settles.shows_eq ▸ h r le settles.pos)
  · intro h
    induction n with
    | zero => exact unsettled_zero
    | succ n ih =>
      have before := ih fun r le => h r (Nat.le_succ_of_le le)
      refine unsettled_succ.2 ⟨before, Classical.byContradiction fun seen => ?_⟩
      exact h (n + 1) (Nat.le_refl _) _ (.of_unsettled before seen)

/-- A claim is unsettled up to the look that settles it. -/
theorem Settles.unsettled_iff {seen : Observation} (h : s.Settles key r seen) :
    s.unsettled n key = true ↔ n < r := by
  constructor
  · intro open'
    exact Nat.lt_of_not_le fun le => Store.unsettled_iff.1 open' r le seen h
  · intro lt
    simp only [Store.unsettled, decide_eq_true_eq]
    exact fun i le => h.earlier i (Nat.lt_of_le_of_lt le lt)

/-- A look that settles a claim finds it unsettled. -/
theorem Settles.unsettled {seen : Observation} (h : s.Settles key (n + 1) seen) :
    s.unsettled n key = true :=
  h.unsettled_iff.2 (Nat.lt_succ_self n)

/-- A claim is settled by one look only. -/
theorem Settles.unique {r' : Nat} {seen seen' : Observation} (h : s.Settles key r seen)
    (h' : s.Settles key r' seen') : r = r' ∧ seen = seen' := by
  have same : r = r' := by
    rcases Nat.lt_trichotomy r r' with lt | same | gt
    · exact absurd (h.shows_eq ▸ h'.earlier r lt h.pos) h.ne_pending
    · exact same
    · exact absurd (h'.shows_eq ▸ h.earlier r' gt h'.pos) h'.ne_pending
  subst same
  exact ⟨rfl, h.shows_eq ▸ h'.shows_eq⟩

section Several

variable {keys : List ClaimKey} {last : Nat}

/-- **The first failure.**  Where looks are fatal to some of several claims, there is a first such
look. -/
theorem exists_first_failure
    (fatal : ∃ k ∈ keys, ∃ r ≤ last, ∃ e, s.Settles k r (.terminal e)) :
    ∃ n < last, (∃ k ∈ keys, ∃ e, s.Settles k (n + 1) (.terminal e)) ∧
      ∀ k ∈ keys, ∀ r ≤ n, ∀ e, ¬ s.Settles k r (.terminal e) := by
  induction last with
  | zero =>
    obtain ⟨k, mem, r, le, e, settles⟩ := fatal
    exact absurd settles.pos (Nat.not_lt.2 le)
  | succ last ih =>
    by_cases before : ∃ k ∈ keys, ∃ r ≤ last, ∃ e, s.Settles k r (.terminal e)
    · obtain ⟨n, lt, found⟩ := ih before
      exact ⟨n, Nat.lt_succ_of_lt lt, found⟩
    · have harmless : ∀ k ∈ keys, ∀ r ≤ last, ∀ e, ¬ s.Settles k r (.terminal e) :=
        fun k mem r le e settles => before ⟨k, mem, r, le, e, settles⟩
      obtain ⟨k, mem, r, le, e, settles⟩ := fatal
      rcases Nat.le_succ_iff.1 le with le | rfl
      · exact absurd settles (harmless k mem r le e)
      · exact ⟨last, Nat.lt_succ_self last, ⟨k, mem, e, settles⟩, harmless⟩

/-- **The last claims to be settled.**  Where some looks settle several claims, there is a look that
settles the last of them. -/
theorem exists_last_settled (some : keys ≠ []) (settled : ∀ k ∈ keys, s.unsettled last k = false) :
    ∃ n < last, (∃ k ∈ keys, s.unsettled n k = true) ∧
      ∀ k ∈ keys, s.unsettled (n + 1) k = false := by
  induction last with
  | zero =>
    obtain ⟨k, mem⟩ := List.exists_mem_of_ne_nil _ some
    exact absurd (settled k mem) (by rw [unsettled_zero]; nofun)
  | succ last ih =>
    by_cases before : ∃ k ∈ keys, s.unsettled last k = true
    · exact ⟨last, Nat.lt_succ_self last, before, settled⟩
    · obtain ⟨n, lt, found⟩ := ih fun k mem =>
        eq_false_of_ne_true fun isOpen => before ⟨k, mem, isOpen⟩
      exact ⟨n, Nat.lt_succ_of_lt lt, found⟩

end Several

/-! ## What a look leaves alone -/

@[simp] theorem looks_observe (shown : Option Snapshot) :
    (s.observe key shown).1.looks = s.looks := by
  unfold observe
  split
  · rfl
  · split <;> rfl
  · split <;> rfl

@[simp] theorem scripts_observe (shown : Option Snapshot) :
    (s.observe key shown).1.scripts = s.scripts := by
  unfold observe
  split
  · rfl
  · split <;> rfl
  · split <;> rfl

@[simp] theorem hanging_observe (shown : Option Snapshot) :
    (s.observe key shown).1.hanging = s.hanging := by
  unfold observe
  split
  · rfl
  · split <;> rfl
  · split <;> rfl

/-- A look is counted, whether it is answered or not. -/
@[simp] theorem looks_get (s : Store) (key : ClaimKey) :
    (s.get key).1.looks = s.looks.insert key (s.looksAt key + 1) := by
  unfold get
  dsimp only
  split
  · rfl
  · split <;> exact looks_observe _

/-- A look changes nothing about which looks are answered. -/
@[simp] theorem hanging_get (s : Store) (key : ClaimKey) :
    (s.get key).1.hanging = s.hanging := by
  unfold get
  dsimp only
  split
  · rfl
  · split <;> exact hanging_observe _

/-- A look leaves the scripts of other claims alone. -/
theorem scripts_get_of_ne (ne : key ≠ k) :
    (s.get key).1.scripts.find? k = s.scripts.find? k := by
  unfold get
  dsimp only
  split
  · rfl
  · split
    · rw [scripts_observe]
    · rw [scripts_observe, SortedMap.find?_insert, if_neg ne]

/-- What a look leaves to be shown. -/
theorem scripts_get (awake : key ∉ s.hanging) {script : List Snapshot}
    (found : s.scripts.find? key = some script) :
    (s.get key).1.scripts = s.scripts.insert key (nextSnapshot script).2 := by
  unfold get
  dsimp only
  rw [if_neg awake, found]
  exact scripts_observe _

/-! ## What a look shows -/

/-- **A look shows an entry of a script.** -/
structure ShowsEntry (s : Store) (key : ClaimKey) (shown : Snapshot) (s' : Store)
    (answer : Except RequestError NodeClaim) : Prop where
  /-- A refusal is the answer, with its code, whether the claim is there or not. -/
  refused : ∀ code message, shown = .refusal code message →
    answer = .error (.failure code (refusalReason code) message)
  /-- Conditions have nothing to stand on if the claim is not there. -/
  missing : ∀ l, shown = .conditions l → s.claims.find? key = none →
    answer = .error (.failure 404 "NotFound" ("nodeclaims \"" ++ key.name ++ "\" not found"))
  /-- Otherwise they become the status of the claim that is there, and that claim is the answer. -/
  reported : ∀ l claim, shown = .conditions l → s.claims.find? key = some claim →
    answer = .ok { claim with status := some { conditions := l } } ∧
      s'.claims.find? key = some { claim with status := some { conditions := l } }

theorem observe_showsEntry (s : Store) (key : ClaimKey) (shown : Snapshot) :
    s.ShowsEntry key shown (s.observe key (some shown)).1 (s.observe key (some shown)).2 := by
  cases shown with
  | refusal code message =>
    refine ⟨fun code' message' same => ?_, fun _ same => (nomatch same),
      fun _ _ same => (nomatch same)⟩
    cases same
    rfl
  | conditions l =>
    refine ⟨fun _ _ same => (nomatch same), fun l' same absent => ?_,
      fun l' claim same found => ?_⟩
    · cases same
      simp only [observe, absent, notFound]
    · cases same
      simp [observe, found, SortedMap.find?_insert, NodeClaim.withConditions]

/-- What a look at a claim that is there shows has the meaning of the entry. -/
theorem ShowsEntry.observation {shown : Snapshot} {s' : Store}
    {answer : Except RequestError NodeClaim} (h : s.ShowsEntry key shown s' answer)
    (stored : s.claims.contains key = true) :
    Observation.of key answer = shown.observation key := by
  cases shown with
  | refusal code message =>
    rw [h.refused code message rfl]
    rfl
  | conditions l =>
    obtain ⟨claim, found⟩ := Option.isSome_iff_exists.1 stored
    rw [(h.reported l claim rfl found).1]
    rfl

/-! ## Walking a script -/

/-- **A script has been walked** by `n` looks: looks are answered, and from now on they show what
the whole script shows after so many. -/
structure Walked (script : List Snapshot) (n : Nat) (s : Store) (key : ClaimKey) : Prop where
  awake : key ∉ s.hanging
  left : ∃ left, s.scripts.find? key = some left ∧ left ≠ [] ∧
    ∀ r, 0 < r → scriptEntry left r = scriptEntry script (n + r)

namespace Walked

variable {script : List Snapshot}

/-- No look has been taken at the start. -/
theorem start (awake : key ∉ s.hanging) (found : s.scripts.find? key = some script)
    (nonempty : script ≠ []) : Walked script 0 s key :=
  ⟨awake, script, found, nonempty, fun r _ => by rw [Nat.zero_add]⟩

/-- **A look** walks the script on. -/
theorem look (h : Walked script n s key) : Walked script (n + 1) (s.get key).1 key := by
  obtain ⟨left, found, nonempty, shows⟩ := h.left
  obtain ⟨-, nonempty', later⟩ := nextSnapshot_eq nonempty
  refine ⟨by rw [hanging_get]; exact h.awake, (nextSnapshot left).2, ?_, nonempty', fun r pos => ?_⟩
  · rw [scripts_get h.awake found, SortedMap.find?_insert, if_pos rfl]
  · rw [later r pos, shows (r + 1) (Nat.succ_pos r), Nat.add_comm r 1, Nat.add_assoc]

/-- **The next look** shows the next entry. -/
theorem shows (h : Walked script n s key) :
    ∃ shown answer, scriptEntry script (n + 1) = some shown ∧
      (s.get key).2 = some answer ∧ s.ShowsEntry key shown (s.get key).1 answer := by
  obtain ⟨left, found, nonempty, shows⟩ := h.left
  obtain ⟨first, -, -⟩ := nextSnapshot_eq nonempty
  obtain ⟨shown, isEntry⟩ : ∃ shown, (nextSnapshot left).1 = some shown := by
    cases left with
    | nil => exact absurd rfl nonempty
    | cons a rest => cases rest <;> exact ⟨a, rfl⟩
  have next : scriptEntry script (n + 1) = some shown := by
    rw [← shows 1 Nat.one_pos, ← first, isEntry]
  -- The store that is looked at has the same claims, but the look counted and the entry used up.
  have seen := observe_showsEntry
    { s with
      looks := s.looks.insert key (s.looksAt key + 1)
      scripts := s.scripts.insert key (nextSnapshot left).2 } key shown
  unfold get
  dsimp only
  rw [if_neg h.awake, found]
  dsimp only
  rw [isEntry]
  exact ⟨shown, _, next, rfl, seen.refused, seen.missing, seen.reported⟩

/-- Later looks mean what they were to mean at the start. -/
theorem showing_eq (h : Walked script n s key) (found : s₀.scripts.find? key = some script)
    (pos : 0 < r) : s.showing key r = s₀.showing key (n + r) := by
  obtain ⟨left, found', -, shows⟩ := h.left
  rw [showing, showing, found', found, Option.bind_some, Option.bind_some, shows r pos]

end Walked

/-! ## A look at a scripted claim -/

/-- **A scripted claim** is there, looks at it are answered, and its script is not empty. -/
structure Scripted (s : Store) (key : ClaimKey) : Prop where
  stored : s.claims.contains key = true
  awake : key ∉ s.hanging
  script : ∃ script, s.scripts.find? key = some script ∧ script ≠ []

/-- **A look at a scripted claim** is answered, and means what is expected. -/
theorem get_scripted (h : s.Scripted key) :
    ∃ a, (s.get key).2 = some a ∧ Observation.of key a = s.showing key 1 := by
  obtain ⟨script, found, nonempty⟩ := h.script
  obtain ⟨shown, answer, first, answered, shows⟩ := (Walked.start h.awake found nonempty).shows
  refine ⟨answer, answered, ?_⟩
  rw [shows.observation h.stored, showing, found, Option.bind_some, first]

/-! ## Looks in between -/

/-- **`n` looks ahead** of an earlier store `s₀` at a claim. -/
structure Ahead (s₀ : Store) (n : Nat) (s : Store) (key : ClaimKey) : Prop where
  scripted : s.Scripted key
  showing_eq : ∀ r, 0 < r → s.showing key r = s₀.showing key (n + r)

namespace Ahead

theorem refl (h : s.Scripted key) : Ahead s 0 s key :=
  ⟨h, fun r _ => by rw [Nat.zero_add]⟩

/-- **A look moves its claim on.** -/
theorem look (h : Ahead s₀ n s key) : Ahead s₀ (n + 1) (s.get key).1 key := by
  obtain ⟨script, found, nonempty⟩ := h.scripted.script
  have walked := (Walked.start h.scripted.awake found nonempty).look
  obtain ⟨left, found', nonempty', -⟩ := walked.left
  refine ⟨⟨?_, walked.awake, left, found', nonempty'⟩, fun r pos => ?_⟩
  · rw [(s.get_agrees key).contains_eq]
    exact h.scripted.stored
  · calc (s.get key).1.showing key r = s.showing key (0 + 1 + r) := walked.showing_eq found pos
      _ = s₀.showing key (n + (0 + 1 + r)) := h.showing_eq _ (by omega)
      _ = s₀.showing key (n + 1 + r) := by rw [Nat.zero_add, Nat.add_assoc]

/-- **A look leaves other claims alone.** -/
theorem other (h : Ahead s₀ n s k) (ne : k ≠ key) : Ahead s₀ n (s.get key).1 k := by
  have same : (s.get key).1.scripts.find? k = s.scripts.find? k := scripts_get_of_ne ne.symm
  obtain ⟨own, found, nonempty⟩ := h.scripted.script
  refine ⟨⟨?_, ?_, own, same.trans found, nonempty⟩, fun r pos => ?_⟩
  · rw [(s.get_agrees key).contains_eq]
    exact h.scripted.stored
  · rw [hanging_get]
    exact h.scripted.awake
  · rw [← h.showing_eq r pos, showing, same, showing]

end Ahead

end Store

end NodeProvisioning
