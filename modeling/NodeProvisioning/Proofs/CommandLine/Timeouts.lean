import NodeProvisioning.Command
import NodeProvisioning.Proofs.Provisioning.Overflow

/-!
# How a command ends

The timeout of a command line is what an accepted text names, or a quarter of an hour, and its poll
interval is not zero.  So whatever the arguments are, a command whose run comes to the point at
which its deadline is set overflows the clock if the timeout is `2 ^ 63` seconds or more.  In all
other cases it prints its report or fails.  It does not stall, for every request that it sends is
answered, if only by the failure of the connection.

## Main definitions

* `CommandLine.Timed` — timeout and poll interval of a command line
* `Command.SetsDeadline` — a command comes to the point at which its deadline is set

## Main statements

* `Invocation.timed_of_read` — every command line has such a timeout and poll interval
* `Command.runOn_ends` — a command ends as its run does
* `Command.execute_overflows_iff` — which commands overflow the clock
-/

namespace NodeProvisioning

/-! ## Timeout and poll interval -/

namespace CommandLine

variable {α : Type}

/-- An option has the value that its text is read as, or none. -/
theorem valueOf_eq_ok_iff {read : String → Except UsageError α} {given : Option String}
    {value : Option α} : valueOf read given = .ok value ↔
      given = none ∧ value = none ∨ ∃ s a, given = some s ∧ read s = .ok a ∧ value = some a := by
  cases given with
  | none => simp [valueOf, eq_comm]
  | some s =>
    rw [valueOf, map_eq_ok_iff]
    simp [eq_comm]

/-- **Timeout and poll interval** as a command line may have them. -/
structure Timed (o : GlobalOptions) : Prop where
  /-- The timeout is a number of seconds that fits into 64 bits. -/
  timeout : ∃ n, n < twoTo 64 ∧ o.timeout = .ofSeconds n
  /-- Time passes between two rounds. -/
  interval : 0 < o.pollInterval.nanos

theorem timed_of_readGlobals {top sub : Scan OptionId} {env : Environment} {o : GlobalOptions}
    (h : readGlobals top sub env = .ok o) : Timed o := by
  unfold readGlobals at h
  simp only [bind_eq_ok_iff, valueOf_eq_ok_iff] at h
  obtain ⟨_, -, interval, hinterval, timeout, htimeout, _, -, _, -, made⟩ := h
  cases made
  constructor
  · rcases htimeout with ⟨-, rfl⟩ | ⟨s, d, -, read, rfl⟩
    · exact ⟨900, by decide, rfl⟩
    · exact exists_ofSeconds_of_duration (orRefused_eq_ok_iff.1 read)
  · rcases hinterval with ⟨-, rfl⟩ | ⟨s, d, -, read, rfl⟩
    · show 0 < (Duration.ofSeconds 5).nanos
      decide
    · exact Duration.nanos_pos_iff.2 (pollInterval_eq_ok_iff.1 (orRefused_eq_ok_iff.1 read)).2

end CommandLine

open CommandLine in
/-- **Every command line** has a timeout and a poll interval like these, whatever its arguments. -/
theorem Invocation.timed_of_read {env : Environment} {args : List String} {i : Invocation}
    (h : Invocation.read env args = .ok i) : Timed i.options := by
  obtain ⟨⟨top, sub⟩, -, h⟩ := bind_eq_ok_iff.1 h
  cases sub with
  | none =>
    obtain ⟨top, -, h⟩ := bind_eq_ok_iff.1 h
    obtain ⟨_, -, h⟩ := bind_eq_ok_iff.1 h
    split at h <;> cases h
  | some given =>
    obtain ⟨name, rest⟩ := given
    dsimp only at h
    split at h
    · cases h
    · obtain ⟨sub, -, h⟩ := bind_eq_ok_iff.1 h
      obtain ⟨top, -, h⟩ := bind_eq_ok_iff.1 h
      obtain ⟨_, -, h⟩ := bind_eq_ok_iff.1 h
      obtain ⟨options, read, h⟩ := bind_eq_ok_iff.1 h
      obtain ⟨command, -, h⟩ := bind_eq_ok_iff.1 h
      cases h
      exact timed_of_readGlobals read

/-! ## The run of a command -/

variable {τ : Type} {t : Http.Transport τ}

/-- A call is answered at the instant at which it begins, be it sent or not. -/
theorem Http.begin_answered {α : Type} {request : Except RequestError Http.Request}
    {send : τ → τ × Except RequestError α}
    (unsent : ∀ e, request = .error e → ∀ s, send s = (s, .error e)) (x : World τ) :
    Call.Answered (fun _ => Http.begin request send) x (send x.state).2 x.now
      (send x.state).1 := by
  cases request with
  | error e =>
    rw [unsent e rfl]
    exact .atOnce rfl
  | ok r =>
    show Call.Answered _ _ _ (x.now + 0) _
    exact .later rfl rfl

theorem Http.list_answered (t : Http.Transport τ) (ns selector : String) (x : World τ) :
    Call.Answered (fun now => (Http.backend t).list now ns selector) x
      (Http.listClaims t ns selector x.state).2 x.now
      (Http.listClaims t ns selector x.state).1 := by
  have unsent : ∀ e, Http.listRequest ns selector = .error e →
      ∀ s, Http.listClaims t ns selector s = (s, .error e) := by
    intro e refused s
    unfold Http.listClaims
    rw [refused]
    rfl
  unfold Http.backend
  dsimp only
  exact Http.begin_answered unsent x

namespace Command

open Provisioning (triage)
open Run (Concludes OverflowsIf)

variable {connect : Except Fault τ} {i : Invocation}

/-- **The deadline of a command is set**: its workspace could be read, and where listed claims are
to be waited for, the list is one to go on with. -/
inductive SetsDeadline (t : Http.Transport τ) (connect : Except Fault τ) : Subcommand → Prop
  | provision {target : Target} {s s' : τ} {w : Workload} (connected : connect = .ok s)
    (read : readWorkload t target s = (s', .ok w)) : SetsDeadline t connect (.provision target)
  | wait {target : Target} {s s' : τ} {w : Workload} {claims : List NodeClaim}
    {pending : List ClaimKey} (connected : connect = .ok s)
    (read : readWorkload t target s = (s', .ok w))
    (listed : (Http.listClaims t w.ns w.selector s').2 = .ok claims)
    (judged : triage w claims = .ok pending) : SetsDeadline t connect (.wait target)

theorem SetsDeadline.connected {t : Http.Transport τ} {c : Subcommand}
    (h : SetsDeadline t connect c) : ∃ s, connect = .ok s := by
  cases h with
  | provision connected read => exact ⟨_, connected⟩
  | wait connected read listed judged => exact ⟨_, connected⟩

/-- A command ends as its run does. -/
theorem ending_of_overflowsIf {late : Prop} {x : World τ} {run : Except Halt Unit × World τ}
    (report : String) (h : OverflowsIf late x run) :
    (ending report run.1 = .clockOverflow ↔ late) ∧ ending report run.1 ≠ .stalled := by
  rw [← h.iff]
  by_cases late' : late
  · rw [h.overflows late']
    exact ⟨⟨fun _ => rfl, fun _ => rfl⟩, nofun⟩
  · rcases h.concludes late' with success | ⟨e, failed⟩
    · rw [success]
      exact ⟨⟨nofun, nofun⟩, nofun⟩
    · rw [failed]
      exact ⟨⟨nofun, nofun⟩, nofun⟩

/-- **A command on a workspace** overflows if the workspace can be read and the run on it does. -/
theorem runOn_ends {target : Target} {s : τ} {report : Workload → String}
    {run : Workload → Run τ Unit} {late : τ → Workload → Prop}
    (ends : ∀ s w, ∃ x, OverflowsIf (late s w) x (run w ⟨0, s, []⟩)) :
    let ended := (runOn t target report run s).2
    (ended = .clockOverflow ↔ ∃ s' w, readWorkload t target s = (s', .ok w) ∧ late s' w) ∧
      ended ≠ .stalled := by
  intro ended
  rcases read : readWorkload t target s with ⟨s', e | w⟩
  · have failed : ended = .failed e := by
      show (runOn t target report run s).2 = _
      unfold runOn
      rw [read]
    rw [failed]
    simp
  · have asRun : ended = ending (report w) (run w ⟨0, s', []⟩).1 := by
      show (runOn t target report run s).2 = _
      unfold runOn
      rw [read]
    obtain ⟨x, overflowsIf⟩ := ends s' w
    obtain ⟨overflows, goesOn⟩ := ending_of_overflowsIf (report w) overflowsIf
    rw [asRun, overflows]
    refine ⟨⟨fun late => ⟨s', w, rfl, late⟩, ?_⟩, goesOn⟩
    rintro ⟨_, _, same, late⟩
    cases same
    exact late

/-- From the start of the clock, a timeout runs out if it is `2 ^ 63` seconds or more. -/
theorem runsOut_zero_iff {n : Nat} : Instant.RunsOut 0 (.ofSeconds n) ↔ twoTo 63 ≤ n := by
  rw [Instant.RunsOut, Nat.zero_add]
  exact Nat.mul_le_mul_right_iff (by decide)

section Ends

variable {n : Nat} {target : Target} {s : τ} {config : RunConfig}

/-- Without a connection a command fails before it sets a deadline. -/
theorem unconnected_ends (e : Fault) (command : Subcommand) :
    (Ending.failed (.fault e) = .clockOverflow ↔
      twoTo 63 ≤ n ∧ SetsDeadline t (.error e) command) ∧
    Ending.failed (.fault e) ≠ .stalled := by
  have unset : ¬ SetsDeadline t (.error e) command := by
    intro sets
    obtain ⟨s, connected⟩ := sets.connected
    cases connected
  simp [unset]

theorem provision_ends (timeout : config.timeout = .ofSeconds n)
    (interval : 0 < config.pollInterval.nanos) :
    let ended := (runOn t target provisionReport
      (Provisioning.provision (Http.backend t) config {}) s).2
    (ended = .clockOverflow ↔ twoTo 63 ≤ n ∧ SetsDeadline t (.ok s) (.provision target)) ∧
      ended ≠ .stalled := by
  intro ended
  obtain ⟨overflows, goesOn⟩ : (ended = .clockOverflow ↔ _) ∧ _ :=
    runOn_ends fun _ _ => ⟨_, Provisioning.provision_overflowsIf interval⟩
  refine ⟨overflows.trans ⟨?_, ?_⟩, goesOn⟩
  · rintro ⟨s', w, read, late⟩
    rw [timeout] at late
    exact ⟨runsOut_zero_iff.1 late, .provision rfl read⟩
  · rintro ⟨late, sets⟩
    rw [timeout]
    cases sets with
    | provision connected read =>
      cases connected
      exact ⟨_, _, read, runsOut_zero_iff.2 late⟩

theorem wait_ends (timeout : config.timeout = .ofSeconds n)
    (interval : 0 < config.pollInterval.nanos) :
    let ended := (runOn t target waitReport
      (Provisioning.waitForListed (Http.backend t) config {}) s).2
    (ended = .clockOverflow ↔ twoTo 63 ≤ n ∧ SetsDeadline t (.ok s) (.wait target)) ∧
      ended ≠ .stalled := by
  intro ended
  obtain ⟨overflows, goesOn⟩ : (ended = .clockOverflow ↔ _) ∧ _ :=
    runOn_ends fun s w => ⟨_, Provisioning.waitForListed_overflowsIf interval
      (Http.list_answered t w.ns w.selector ⟨0, s, []⟩)⟩
  refine ⟨overflows.trans ⟨?_, ?_⟩, goesOn⟩
  · rintro ⟨s', w, read, -, ⟨claims, pending, listed, judged⟩, late⟩
    rw [timeout] at late
    exact ⟨runsOut_zero_iff.1 late, .wait rfl read listed judged⟩
  · rintro ⟨late, sets⟩
    rw [timeout]
    cases sets with
    | wait connected read listed judged =>
      cases connected
      exact ⟨_, _, read, nofun, ⟨_, _, listed, judged⟩, runsOut_zero_iff.2 late⟩

end Ends

/-- **How a command ends**, whatever arguments it is given and whatever the server answers.  Its
timeout is some number of seconds below `2 ^ 64`, and it overflows the clock exactly if these are
`2 ^ 63` or more and its run comes to the point at which the deadline is set.  It never stalls. -/
theorem execute_overflows_iff {env : Environment} {args : List String}
    (given : Invocation.read env args = .ok i) (t : Http.Transport τ) (connect : Except Fault τ) :
    ∃ n, n < twoTo 64 ∧ i.options.timeout = .ofSeconds n ∧
      ((execute t connect i).2 = .clockOverflow ↔
        twoTo 63 ≤ n ∧ SetsDeadline t connect i.command) ∧
      (execute t connect i).2 ≠ .stalled := by
  obtain ⟨⟨n, small, timeout⟩, interval⟩ := Invocation.timed_of_read given
  refine ⟨n, small, timeout, ?_⟩
  obtain ⟨options, command⟩ := i
  have timed : options.runConfig.timeout = .ofSeconds n := timeout
  have rests : 0 < options.runConfig.pollInterval.nanos := interval
  cases command with
  | manifest r =>
    have unset : ¬ SetsDeadline t connect (.manifest r) := by rintro ⟨⟩
    unfold execute
    dsimp only
    cases r.render options.runConfig.manifest <;> simp [unset]
  | provision target =>
    cases connect with
    | error e => exact unconnected_ends e _
    | ok s =>
      have ends : (execute t (.ok s) ⟨options, .provision target⟩).2 =
          (runOn t target provisionReport
            (Provisioning.provision (Http.backend t) options.runConfig {}) s).2 := by
        unfold execute
        dsimp only
      rw [ends]
      exact provision_ends timed rests
  | wait target =>
    cases connect with
    | error e => exact unconnected_ends e _
    | ok s =>
      have ends : (execute t (.ok s) ⟨options, .wait target⟩).2 =
          (runOn t target waitReport
            (Provisioning.waitForListed (Http.backend t) options.runConfig {}) s).2 := by
        unfold execute
        dsimp only
      rw [ends]
      exact wait_ends timed rests

end Command

end NodeProvisioning
