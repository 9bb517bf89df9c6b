import NodeProvisioning.Command
import NodeProvisioning.Proofs.Retry.Stopping

/-!
# How a workspace is read

A workspace is asked for under a limit of five tries, so there is a last one, and it decides: the
workload comes from the object that it finds, or its error is the one that is reported
(`Command.exists_readBy`).

What is sent meanwhile is not part of the result.  It is read off a transport that keeps a record:
reading over it is reading as before, with one request more in the record for every try, or with
none at all where the request may not be sent (`Command.readWorkload_recording`).

## Main definitions

* `Http.Transport.recording` — a transport that keeps what is sent
* `Command.tryRead` — one try to read a workspace
* `Command.ReadBy` — how a workspace is read in some number of tries

## Main statements

* `Command.readWorkload_isLast` — a workspace is read by the last of its tries
* `Command.exists_readBy` — how a workspace is read
* `Retry.run_stops` — where retrying stops, a workspace included
-/

namespace NodeProvisioning

/-! ## What is sent -/

namespace Http

variable {τ α : Type}

/-- **A transport that keeps what is sent**, first to last, and is otherwise as it was. -/
def Transport.recording (t : Transport τ) : Transport (List Request × τ) where
  send request s :=
    let (left, outcome) := t.send request s.2
    ((s.1 ++ [request], left), outcome)

/-- An exchange keeps its request, if there is one to send. -/
theorem exchange_recording (t : Transport τ) (decode : Decoder α)
    (request : Except RequestError Request) (sent : List Request) (s : τ) :
    exchange t.recording decode request (sent, s) =
      ((sent ++ request.toOption.toList, (exchange t decode request s).1),
        (exchange t decode request s).2) := by
  cases request with
  | error e => simp [exchange, Except.toOption]
  | ok r => rfl

/-- The request that every try to read a workspace sends, if it may be sent. -/
def workspaceRequest (ns name : String) : List Request :=
  (getRequest .workspaces ns name).toOption.toList

/-- It is one request at most, and it reads. -/
theorem workspaceRequest_get (ns name : String) : (workspaceRequest ns name).length ≤ 1 ∧
    ∀ request ∈ workspaceRequest ns name, request.method = .get := by
  unfold workspaceRequest getRequest requestFor
  split
  · simp [Except.toOption]
  · split <;> simp [Except.toOption]

end Http

/-! ## The last try -/

namespace Command

open Retry

variable {τ : Type} (t : Http.Transport τ) (target : Target) (s : τ)

/-- One try to read a workspace. -/
def tryRead : τ → τ × Except RequestError WorkspaceObject :=
  Http.getWorkspace t target.ns target.workspace

/-- What tries to read a workspace keep: the same request each, and what they would leave behind
without a record. -/
theorem after_recording (sent : List Http.Request) (n : Nat) :
    after (tryRead t.recording target) (sent, s) n =
      (sent ++ (List.replicate n (Http.workspaceRequest target.ns target.workspace)).flatten,
        after (tryRead t target) s n) := by
  induction n with
  | zero => simp [after]
  | succ n ih =>
    rw [after, ih, tryRead, Http.getWorkspace, Http.exchange_recording, after]
    simp [Http.workspaceRequest, tryRead, Http.getWorkspace, List.replicate_succ']

/-- A record makes no difference to what the tries bring. -/
theorem result_recording (sent : List Http.Request) :
    result (tryRead t.recording target) (sent, s) = result (tryRead t target) s := by
  funext i
  rw [result, after_recording, tryRead, Http.getWorkspace, Http.exchange_recording]
  rfl

/-- **A workspace is read by the last of its tries**, which are five at most. -/
theorem readWorkload_isLast : ∃ k, k ≤ readAttempts ∧
    IsLast { maxAttempts := readAttempts } RequestError.isTransient
      (result (tryRead t target) s) k ∧
    readWorkload t target s = (after (tryRead t target) s k,
      fetched target (some ⟨.returned (result (tryRead t target) s k), k,
        sleepsAfter { maxAttempts := readAttempts } (fun _ => 1) (k - 1)⟩)) := by
  have final : Final { maxAttempts := readAttempts } RequestError.isTransient readAttempts
      (result (tryRead t target) s readAttempts) := .inr (.inr ⟨by decide, rfl⟩)
  obtain ⟨k, le, last⟩ := exists_isLast (by decide) final
  refine ⟨k, le, last, ?_⟩
  rw [readWorkload, ← tryRead, run_isLast (by decide) (by decide) last le]

/-- The record of reading a workspace. -/
theorem readWorkload_recording {k : Nat}
    (last : IsLast { maxAttempts := readAttempts } RequestError.isTransient
      (result (tryRead t target) s) k) :
    readWorkload t.recording target ([], s) =
      (((List.replicate k (Http.workspaceRequest target.ns target.workspace)).flatten,
        (readWorkload t target s).1), (readWorkload t target s).2) := by
  obtain ⟨l, -, bare, eq⟩ := readWorkload_isLast t target s
  obtain ⟨m, -, recorded, eq'⟩ := readWorkload_isLast t.recording target ([], s)
  rw [result_recording] at recorded eq'
  -- Both bring the same results, so they have the same last try.
  obtain rfl := last.unique bare
  obtain rfl := last.unique recorded
  rw [eq, eq', after_recording, List.nil_append]

/-- **How a workspace is read**, in so many tries. -/
structure ReadBy (k : Nat) : Prop where
  /-- There are five tries at most. -/
  few : 1 ≤ k ∧ k ≤ 5
  /-- A try sends no more than one request, and only to read. -/
  sends : ∃ sent, readWorkload t.recording target ([], s) =
      ((sent, (readWorkload t target s).1), (readWorkload t target s).2) ∧
    sent.length ≤ k ∧ ∀ request ∈ sent, request.method = .get
  /-- Before the last try, every try has met an error that may pass. -/
  passing : ∀ i, 1 ≤ i → i < k →
    ∃ e, result (tryRead t target) s i = .error e ∧ e.isTransient = true
  /-- A workspace that the last try finds is the one that the workload is read from. -/
  found : ∀ object, result (tryRead t target) s k = .ok object →
    readWorkload t target s = (after (tryRead t target) s k, object.workload.mapError .fault)
  /-- An error of the last try is the one that is reported; one that may pass is that of the fifth
  try. -/
  lost : ∀ e, result (tryRead t target) s k = .error e →
    (e.isTransient = true → k = 5) ∧
    readWorkload t target s = (after (tryRead t target) s k,
      .error (.workspaceFetch target.ns target.workspace e))

/-- A workspace is read in some number of tries. -/
theorem exists_readBy : ∃ k, ReadBy t target s k := by
  obtain ⟨k, le, last, eq⟩ := readWorkload_isLast t target s
  obtain ⟨single, reads⟩ := Http.workspaceRequest_get target.ns target.workspace
  refine ⟨k, ⟨last.1, le⟩, ⟨_, readWorkload_recording t target s last, ?_, ?_⟩,
    fun i one lt => retried_of_not_final (last.2.2 i one lt), fun object found => ?_,
    fun e lost => ⟨fun transient => ?_, ?_⟩⟩
  · simpa using Nat.mul_le_mul_left k single
  · intro request mem
    obtain ⟨requests, copy, mem⟩ := List.mem_flatten.1 mem
    exact reads request (List.eq_of_mem_replicate copy ▸ mem)
  · rw [eq, found]
    simp only [fetched]
    cases object.workload <;> rfl
  · rcases last.2.1 with ⟨a, found⟩ | ⟨e', lost', rejected⟩ | ⟨-, fifth⟩
    · cases lost.symm.trans found
    · cases lost.symm.trans lost'
      cases transient.symm.trans rejected
    · exact fifth
  · rw [eq, lost]
    rfl

end Command

namespace Retry

variable {ε α : Type} {config : RetryConfig}

/-- **Where retrying stops.**  Given the results of the tries in advance, the last try is the first
that succeeds, meets an error that is not to be retried, or is the last that is permitted.  With it
the run ends: the operation was tried so often, there was one sleep less, and the result is the one
that this try has brought.  However few tries are looked at before, no end is seen, and if there is
no last try, none is ever seen.

Under a limit there are never more tries than it permits, and the loop counts them rightly: after
tries that go on it has their number in hand, and one more does not overflow the word.  Without a
limit it may, but then nothing depends on the count.

So a workspace is asked for at most five times, its workload is that of the first object that comes,
and the error that is reported is the last one that was met. -/
theorem run_stops (bounded : config.maxAttempts < 2 ^ 32) (nonneg : config.multiplier.IsNonneg)
    (shouldRetry : ε → Bool) (jitter : Nat → Rat) (r : Nat → Except ε α) :
    (∀ k, IsLast config shouldRetry r k →
      (∀ fuel, fuel < k → run config shouldRetry jitter (tape r) fuel 0 = (fuel, none)) ∧
      ∃ sleeps, sleeps.length = k - 1 ∧ ∀ fuel, k ≤ fuel →
        run config shouldRetry jitter (tape r) fuel 0 = (k, some ⟨.returned (r k), k, sleeps⟩)) ∧
    ((∀ k, ¬ IsLast config shouldRetry r k) →
      ∀ fuel, run config shouldRetry jitter (tape r) fuel 0 = (fuel, none)) ∧
    (0 < config.maxAttempts →
      (∀ fuel, (run config shouldRetry jitter (tape r) fuel 0).1 ≤ config.maxAttempts) ∧
      ∀ n, GoesOn config shouldRetry r n →
        (UInt32.ofNat n).toNat = n ∧ (UInt32.ofNat n + 1).toNat = n + 1 ∧
        ∀ fuel, run config shouldRetry jitter (tape r) (n + fuel) 0 =
          runFrom config shouldRetry jitter (tape r) fuel (.ofNat n) (delayAt config n)
            (sleepsAfter config jitter n).reverse n) ∧
    (config.maxAttempts = 0 → ∀ fuel a b delay sleeps tried,
      runFrom config shouldRetry jitter (tape r) fuel a delay sleeps tried =
        runFrom config shouldRetry jitter (tape r) fuel b delay sleeps tried) ∧
    ∀ (τ : Type) (t : Http.Transport τ) (target : Target) (s : τ),
      ∃ k, Command.ReadBy t target s k := by
  have short {n : Nat} (goesOn : GoesOn config shouldRetry r n) :
      run config shouldRetry jitter (tape r) n 0 = (n, none) := by
    rw [run_short bounded nonneg (goesOn_tape.2 goesOn), after_tape]
  have whole {k fuel : Nat} (last : IsLast config shouldRetry r k) (enough : k ≤ fuel) :
      run config shouldRetry jitter (tape r) fuel 0 =
        (k, some ⟨.returned (r k), k, sleepsAfter config jitter (k - 1)⟩) := by
    rw [run_isLast bounded nonneg (isLast_tape.2 last) enough, after_tape, result_tape r last.1]
  refine ⟨fun k last => ⟨fun fuel lt => short (last.goesOn lt), _, length_sleepsAfter _ _ _,
    fun fuel => whole last⟩, fun never fuel => short fun i one _ final => ?_,
    fun limited => ⟨fun fuel => ?_, fun n goesOn => ?_⟩,
    fun unlimited => runFrom_counter unlimited (tape r),
    fun τ t target s => Command.exists_readBy t target s⟩
  · obtain ⟨k, -, last⟩ := exists_isLast one final
    exact never k last
  · have final : Final config shouldRetry config.maxAttempts (r config.maxAttempts) :=
      .inr (.inr ⟨limited, rfl⟩)
    obtain ⟨k, le, last⟩ := exists_isLast limited final
    rcases Nat.lt_or_ge fuel k with lt | enough
    · rw [short (last.goesOn lt)]
      omega
    · rwa [whole last enough]
  · have below := lt_maxAttempts goesOn limited
    refine ⟨toNat_count bounded (Nat.le_of_lt below), toNat_count_succ bounded below,
      fun fuel => ?_⟩
    rw [run_goesOn bounded nonneg (goesOn_tape.2 goesOn), after_tape]

/-- Three tries are permitted and none succeeds: the run ends with the error of the third. -/
theorem run_third_error :
    let config : RetryConfig := { maxAttempts := 3 }
    let r : Nat → Except Nat Unit := fun i => .error i
    config.maxAttempts < 2 ^ 32 ∧ config.multiplier.IsNonneg ∧
    IsLast config (fun _ => true) r 3 ∧
    ∃ sleeps, sleeps.length = 2 ∧ ∀ fuel, 3 ≤ fuel →
      run config (fun _ => true) (fun _ => 1) (tape r) fuel 0 =
        (3, some ⟨.returned (.error 3), 3, sleeps⟩) := by
  intro config r
  have last : IsLast config (fun _ => true) r 3 :=
    isLast_maxAttempts (by decide) fun i _ _ => ⟨i, rfl, rfl⟩
  exact ⟨by decide, by decide, last,
    ((run_stops (by decide) (by decide) (fun _ => true) (fun _ => 1) r).1 3 last).2⟩

end Retry

end NodeProvisioning
