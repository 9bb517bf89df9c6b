import Mathlib.Data.List.Nodup
import Mathlib.Data.List.Perm.Subperm
import NodeProvisioning.Proofs.Provisioning.Keeping
import NodeProvisioning.Proofs.Provisioning.Triage
import NodeProvisioning.Proofs.Selection

/-!
# Waiting for what was provisioned

A run of provisioning finds its claims by their names and looks at each until it is ready.  A wait
for listed claims finds them by their labels, counts them, and judges them by what is stored.  The
two agree: after a run that succeeded, in a store that was empty before, such a wait lists once and
is over.

What connects them is an invariant of the run.  What the latest answer showed of a claim is what is
stored under its key, because a look stores what it shows and nothing changes it until the next
look; and what is stored was created by the run, so it has a name and labels of the workload.

## Main definitions

* `Store.Shows` — what a look leaves in a store
* `Mirrors` — the invariant

## Main statements

* `Store.get_shows` — a look stores what it shows
* `provision_mirrors` — provisioning keeps the invariant
* `waitForListed_after_provision` — waiting for listed claims after provisioning
-/

namespace NodeProvisioning

open History

/-! ## What a look leaves in a store -/

/-- **What a look at `key` leaves** in a store, and what it answers if it does. -/
structure Store.Shows (s : Store) (key : ClaimKey) (s' : Store)
    (a : Option (Except RequestError NodeClaim)) : Prop where
  /-- What it shows is stored. -/
  stored : ∀ claim, a = some (.ok claim) → s'.claims.find? key = some claim
  /-- Other claims are left alone. -/
  others : ∀ k, k ≠ key → s'.claims.find? k = s.claims.find? k
  listFailure_eq : s'.listFailure = s.listFailure

namespace Store

/-- Looking shows what it stores. -/
theorem observe_shows (s : Store) (key : ClaimKey) (shown : Option Snapshot) :
    s.Shows key (s.observe key shown).1 (some (s.observe key shown).2) := by
  have refused : ∀ e, s.Shows key s (some (.error e)) := fun e =>
    ⟨fun claim same => (nomatch same), fun _ _ => rfl, rfl⟩
  unfold observe
  split
  · exact refused _
  · split
    · exact refused _
    · refine ⟨fun claim same => ?_, fun k other => ?_, rfl⟩
      · cases same
        rw [SortedMap.find?_insert, if_pos rfl]
      · rw [SortedMap.find?_insert, if_neg (Ne.symm other)]
  · split
    · exact refused _
    · next claim found =>
      refine ⟨fun claim same => ?_, fun _ _ => rfl, rfl⟩
      cases same
      exact found

/-- **A look stores what it shows.** -/
theorem get_shows (s : Store) (key : ClaimKey) : s.Shows key (s.get key).1 (s.get key).2 := by
  unfold get
  dsimp only
  split
  · exact ⟨fun claim same => (nomatch same), fun _ _ => rfl, rfl⟩
  · split
    · obtain ⟨stored, others, same⟩ := observe_shows
        { s with looks := s.looks.insert key (s.looksAt key + 1) } key none
      exact ⟨stored, others, same⟩
    · next script _ =>
      obtain ⟨stored, others, same⟩ := observe_shows
        { s with
          looks := s.looks.insert key (s.looksAt key + 1)
          scripts := s.scripts.insert key (nextSnapshot script).2 } key (nextSnapshot script).1
      exact ⟨stored, others, same⟩

/-- What is stored under a key after a creation was stored before, or is the new claim. -/
theorem entry_create {s : Store} {claim : NodeClaim} {key : ClaimKey}
    {stored : Metadata × NodeClaim.Spec} (h : (s.create claim).1.entry key = some stored) :
    s.entry key = some stored ∨ claim.key = key ∧ (claim.metadata, claim.spec) = stored := by
  unfold create at h
  split at h
  · exact .inl h
  · split at h
    · exact .inl h
    · by_cases same : claim.key = key
      · refine .inr ⟨same, ?_⟩
        simpa [entry, SortedMap.find?_insert, same] using h
      · left
        simpa [entry, SortedMap.find?_insert, same] using h

@[simp] theorem listFailure_create (s : Store) (claim : NodeClaim) :
    (s.create claim).1.listFailure = s.listFailure := by
  unfold create
  split
  · rfl
  · split <;> rfl

end Store

/-! ## The store as it was seen -/

/-- **The store mirrors what was seen** of the claims. -/
structure Mirrors (claims : List NodeClaim) (w : World Store) : Prop where
  /-- What the latest answer showed is stored. -/
  shown : ∀ key claim, latest key w.history = some (.answered (.ok claim)) →
    w.state.claims.find? key = some claim
  /-- What is stored has key and metadata of one of the claims. -/
  known : ∀ key stored, w.state.entry key = some stored →
    ∃ c ∈ claims, c.key = key ∧ c.metadata = stored.1
  listable : w.state.listFailure = none

namespace Mirrors

variable {claims : List NodeClaim} {w : World Store}

/-- An empty store mirrors that nothing was seen. -/
theorem start (now : Instant) {s : Store} (empty : s.claims = ∅) (listable : s.listFailure = none) :
    Mirrors claims (.start now s) where
  shown key claim seen := by cases seen
  known key stored found := by
    have nothing : s.entry key = none := by
      rw [Store.entry, empty]
      rfl
    rw [show (World.start now s).state = s from rfl, nothing] at found
    cases found
  listable := listable

/-- Creating one of the claims keeps the mirror. -/
theorem create {claim : NodeClaim} (mem : claim ∈ claims) :
    Call.Upholds (Mirrors claims) (fun _ => True) (.create claim) (.create claim)
      fun t => Store.backend.create t claim := by
  intro w h _
  refine ⟨fun key c seen => ?_, fun key stored found => ?_, ?_⟩
  · -- No look was answered meanwhile.
    have before : latest key w.history = some (.answered (.ok c)) := by
      rw [← seen]
      simp [latest, World.begun, World.leave, World.history, looksAt]
    exact Store.find?_create (h.shown key c before)
  · rcases Store.entry_create found with old | ⟨rfl, rfl⟩
    · exact h.known key stored old
    · exact ⟨claim, mem, rfl, rfl⟩
  · exact (Store.listFailure_create _ _).trans h.listable

/-- What a look at a claim leaves keeps the mirror, if an answer that is the latest is its own. -/
theorem after_look (h : Mirrors claims w) {key : ClaimKey} {w' : World Store} {more : List Event}
    (state : w'.state = (w.state.get key).1) (past : w'.history = w.history ++ more)
    (others : ∀ k, k ≠ key → looksAt k more = [])
    (own : ∀ claim, latest key w'.history = some (.answered (.ok claim)) →
      (w.state.get key).2 = some (.ok claim)) : Mirrors claims w' := by
  have shows := w.state.get_shows key
  have agrees := w.state.get_agrees key
  refine ⟨fun k claim seen => ?_, fun k stored found => ?_, ?_⟩
  · rw [state]
    by_cases same : k = key
    · subst same
      exact shows.stored claim (own claim seen)
    · rw [shows.others k same]
      refine h.shown k claim ?_
      rw [← seen, past, latest, latest, looksAt_append, others k same, List.append_nil]
  · rw [state, agrees.entry_eq] at found
    exact h.known k stored found
  · rw [state, shows.listFailure_eq]
    exact h.listable

/-- Looking keeps the mirror. -/
theorem look : Store.backend.LooksUphold (Mirrors claims) fun _ => True := by
  intro key w h _
  show Progress.Upholds _ _ (Answer.get key) (w.begun (.get key) fun t => Store.backend.get t key)
    (Store.backend.get w.now key w.state).2
  generalize begun : (w.begun (.get key) fun t => Store.backend.get t key) = w'
  have state : w'.state = (w.state.get key).1 := by
    rw [← begun, World.begun, Store.backend_get]
  have past : w'.history = w.history ++ [.began w.now (.get key)] := by
    rw [← begun, World.history, World.begun, List.reverse_cons, World.history]
  rw [Store.backend_get]
  cases answered : (w.state.get key).2 with
  | none =>
    refine h.after_look state past (fun k other => ?_) fun claim seen => ?_
    · simp [looksAt, Ne.symm other]
    · have last : latest key [.began w.now (.get key)] = some .begun := by simp [latest, looksAt]
      rw [past, latest_append, last] at seen
      cases seen
  | some a =>
    have past' : (w'.leave (.took w'.now (.get key a))).history =
        w.history ++ [.began w.now (.get key), .took w'.now (.get key a)] := by
      rw [World.history_leave, past, List.append_assoc]
      rfl
    refine h.after_look state past' (fun k other => ?_) fun claim seen => ?_
    · simp [looksAt, Ne.symm other]
    · have last : latest key [.began w.now (.get key), .took w'.now (.get key a)] =
          some (.answered a) := by simp [latest, looksAt]
      rw [past', latest_append, last] at seen
      cases seen
      exact answered

/-- What is listed for the workload is everything that is stored. -/
theorem list_eq {w : Workload} {options : ManifestOptions} {x : World Store}
    (h : Mirrors (w.claims options) x) (name : ',' ∉ w.name.toList) (ns : ',' ∉ w.ns.toList) :
    x.state.list w.ns w.selector = .ok x.state.claims.values := by
  have own : ∀ e ∈ x.state.claims.entries,
      e.1.ns = w.ns ∧ Selector.selects w.selector e.2.metadata.labelMap = true := by
    rintro ⟨key, claim⟩ mem
    have stored : x.state.entry key = some (claim.metadata, claim.spec) := by
      rw [Store.entry, SortedMap.find?_eq_some_iff.2 mem]
      rfl
    obtain ⟨c, isClaim, rfl, same⟩ := h.known key _ stored
    obtain ⟨i, -, rfl⟩ := List.mem_map.1 isClaim
    have labels : claim.metadata.labelMap = Manifest.labels w := by
      rw [show claim.metadata = _ from same.symm]
      rfl
    refine ⟨rfl, ?_⟩
    show Selector.selects w.selector claim.metadata.labelMap = true
    rw [labels]
    exact (Workload.selects_labels_iff name ns w).2 ⟨rfl, rfl⟩
  unfold Store.list
  rw [h.listable]
  dsimp only
  rw [List.filter_eq_self.2 fun e mem => decide_eq_true (own e mem)]
  rfl

end Mirrors

namespace Provisioning

section Runs

variable {config : RunConfig} {signals signals' : Signals} {w : Workload} {s : Store}

/-- **Provisioning keeps the mirror**, in a store that was empty before. -/
theorem provision_mirrors (now : Instant) (empty : s.claims = ∅) (listable : s.listFailure = none) :
    Mirrors (w.claims config.manifest)
      (provision Store.backend config signals w (.start now s)).2 :=
  (provision_contract (fun _ _ h _ _ => ⟨h.shown, h.known, h.listable⟩)
    ⟨fun _ mem => Mirrors.create mem, Mirrors.look⟩).holds (.start now empty listable)

variable {x : World Store}

/-- A wait for listed claims that are all ready lists once and is over. -/
theorem waitForListed_of_ready {listed : List NodeClaim}
    (lists : x.state.list w.ns w.selector = .ok listed) (ready : ∀ c ∈ listed, c.state = .ready)
    (enough : w.nodeCount ≤ listed.length)
    (clock : (Instant.after? x.now config.timeout).isSome)
    (running : signals'.isCancelled x.now = false) :
    waitForListed Store.backend config signals' w x =
      (.ok (), (x.leave (.began x.now (.list w.ns w.selector))).leave
        (.took x.now (.list w.ns w.selector (.ok listed)))) := by
  generalize ended : (x.leave (.began x.now (.list w.ns w.selector))).leave
    (.took x.now (.list w.ns w.selector (.ok listed))) = y
  let limits : Submission.Limits := { signals := signals', workspace := w.name }
  have checked : limits.check x = (.ok (), x) := by
    unfold Submission.Limits.check
    rw [Run.bind_apply, Run.now_apply]
    simp [limits, running]
  have found : listClaims Store.backend signals' w x = (.ok listed, y) := by
    have answered : Run.perform limits.pause (.list w.ns w.selector) (.list w.ns w.selector)
        (fun t => Store.backend.list t w.ns w.selector) x = (.ok (.ok listed), y) := by
      rw [← ended, ← lists]
      rfl
    unfold listClaims
    rw [Run.bind_of_ok answered]
    rfl
  have waited : Rounds.await Store.backend config signals' w.name [] y = (.ok (), y) :=
    await_nil (by rwa [← ended])
  unfold waitForListed
  rw [Run.bind_of_ok checked, Run.bind_of_ok found,
    triage_of_enough (harmless_of_ready ready) enough, pending_eq_nil ready]
  exact waited

/-- **Waiting after provisioning.**  A store is empty and lists what it has; a run of provisioning
in it succeeds, for a workload whose name and namespace have no comma and whose claims have
different names.  Then a wait for listed claims that comes next, and is not cancelled, succeeds: it
lists once, creates nothing, looks at nothing, and leaves the store as it is. -/
theorem waitForListed_after_provision (config : RunConfig) (signals signals' : Signals)
    (w : Workload) (now : Instant) {s : Store} {x : World Store}
    (empty : s.claims = ∅) (listable : s.listFailure = none)
    (name : ',' ∉ w.name.toList) (ns : ',' ∉ w.ns.toList)
    (distinct : ((List.range w.nodeCount).map fun i => w.claimName (Workload.indexText i)).Nodup)
    (ran : provision Store.backend config signals w (.start now s) = (.ok (), x))
    (clock : (Instant.after? x.now config.timeout).isSome)
    (running : signals'.isCancelled x.now = false) :
    let next := waitForListed Store.backend config signals' w x
    next.1 = .ok () ∧ next.2.state = x.state ∧ next.2.now = x.now ∧
      ∃ listed, next.2.history = x.history ++
        [.began x.now (.list w.ns w.selector),
          .took x.now (.list w.ns w.selector (.ok listed))] := by
  intro next
  have mirrors : Mirrors (w.claims config.manifest)
      (provision Store.backend config signals w (.start now s)).2 :=
    provision_mirrors now empty listable
  rw [ran] at mirrors
  obtain ⟨events, l, led, course⟩ := provision_course ran
  -- Every claim is stored, as the last look at it showed it.
  have stored : ∀ c ∈ w.claims config.manifest, ∃ claim,
      x.state.claims.find? c.key = some claim ∧ claim.state = .ready := by
    intro c mem
    obtain ⟨earlier, claim, seen, ready⟩ := course.success.2.1 _ (List.mem_map_of_mem mem)
    refine ⟨claim, mirrors.shown _ _ ?_, ready⟩
    rw [led.history_of_start, latest, seen]
    simp
  have ready : ∀ claim ∈ x.state.claims.values, claim.state = .ready := by
    intro claim mem
    obtain ⟨⟨key, claim⟩, isEntry, rfl⟩ := List.mem_map.1 mem
    have found := SortedMap.find?_eq_some_iff.2 isEntry
    have isStored : x.state.entry key = some (claim.metadata, claim.spec) := by
      rw [Store.entry, found]
      rfl
    obtain ⟨c, isClaim, rfl, -⟩ := mirrors.known key _ isStored
    obtain ⟨claim', found', ready⟩ := stored c isClaim
    rw [found] at found'
    cases found'
    exact ready
  have enough : w.nodeCount ≤ x.state.claims.values.length := by
    have nodup : ((w.claims config.manifest).map NodeClaim.key).Nodup := by
      refine List.Nodup.of_map ClaimKey.name ?_
      simpa [Workload.claims, Workload.claimKey, Function.comp_def] using distinct
    have sub : (w.claims config.manifest).map NodeClaim.key ⊆ x.state.claims.keys := by
      intro key mem
      obtain ⟨c, isClaim, rfl⟩ := List.mem_map.1 mem
      obtain ⟨claim, found, -⟩ := stored c isClaim
      rw [SortedMap.mem_keys_iff, SortedMap.contains, found]
      rfl
    have := (List.subperm_of_subset nodup sub).length_le
    simpa [SortedMap.keys, SortedMap.values] using this
  have waited := waitForListed_of_ready (mirrors.list_eq name ns) ready enough clock running
  have ended : next = _ := waited
  rw [ended]
  refine ⟨rfl, rfl, rfl, x.state.claims.values, ?_⟩
  rw [World.history_leave, World.history_leave, List.append_assoc]
  rfl

/-- A store in which every claim of the workload becomes ready, the second at its second look. -/
def readyInTime : Store :=
  (({} : Store).script (twoNodes.claimKey "0") [.ready]).script (twoNodes.claimKey "1")
    [.pending, .ready]

/-- The world after provisioning in it. -/
def afterReadiness : World Store :=
  (provision Store.backend {} {} twoNodes (.start 0 readyInTime)).2

/-- Provisioning succeeds in it, and a wait for the listed claims then changes nothing. -/
theorem afterReadiness_listed :
    provision Store.backend {} {} twoNodes (.start 0 readyInTime) = (.ok (), afterReadiness) ∧
      (waitForListed Store.backend {} {} twoNodes afterReadiness).1 = .ok () ∧
      (waitForListed Store.backend {} {} twoNodes afterReadiness).2.state = afterReadiness.state := by
  have ran : provision Store.backend {} {} twoNodes (.start 0 readyInTime) =
      (.ok (), afterReadiness) := Prod.ext (by decide +kernel) rfl
  have clock : (Instant.after? afterReadiness.now ({} : RunConfig).timeout).isSome = true := by
    decide +kernel
  obtain ⟨waited, still, -⟩ := waitForListed_after_provision {} {} {} twoNodes 0 rfl rfl
    (by decide) (by decide) (by decide +kernel) ran clock rfl
  exact ⟨ran, waited, still⟩

end Runs

end Provisioning

end NodeProvisioning
