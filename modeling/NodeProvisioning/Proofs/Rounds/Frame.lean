import NodeProvisioning.Proofs.Rounds.Keeping
import NodeProvisioning.Proofs.Run.Triple

/-!
# What a wait leaves alone

What a wait does to the backend's state is a case of what it keeps: a property of the state lasts
while time passes, and so a wait keeps it if beginning a look does, and if what a look does when it
goes on keeps it in any state.

## Main definitions

* `Backend.LooksKeep` — looks keep a property of the state

## Main statements

* `Rounds.awaitUntil_keeps` — then so does a wait
-/

namespace NodeProvisioning

open Run (Triple)

variable {σ : Type}

/-- **Looks keep `I`**: beginning one does, and going on with one does in any state. -/
def Backend.LooksKeep (b : Backend σ) (I : σ → Prop) : Prop :=
  ∀ t key s, I s → I (b.get t key s).1 ∧ (b.get t key s).2.Keeps I

variable {b : Backend σ} {I : σ → Prop}

/-- Looks that keep a property of the state uphold it, whatever events they leave. -/
theorem Backend.LooksKeep.uphold (keeps : b.LooksKeep I) {isOpen : Instant → Prop} :
    b.LooksUphold (fun w => I w.state) isOpen := by
  intro key w holds _
  obtain ⟨begun, goesOn⟩ := keeps w.now key w.state holds
  show Progress.Upholds (fun w : World σ => I w.state) isOpen (Answer.get key) _ _
  cases progress : (b.get w.now key w.state).2 with
  | answered a => exact begun
  | unanswered => exact begun
  | waiting delay turn finish =>
    rw [progress] at goesOn
    refine ⟨begun, fun w' holds' _ => ⟨fun a _ => ?_, fun _ => ?_⟩⟩
    · exact goesOn w'.state holds'
    · exact goesOn w'.state holds'

/-- **A wait keeps what looks keep**, however it ends. -/
theorem Rounds.awaitUntil_keeps (keeps : b.LooksKeep I) {pollInterval : Duration}
    {signals : Signals} {workspace : String} {deadline : Instant} {keys : List ClaimKey} :
    Triple I (awaitUntil b pollInterval signals workspace deadline keys) (fun _ => I) I :=
  Triple.iff_contract.2 (awaitUntil_contract (fun _ _ holds _ _ => holds) keeps.uphold)

end NodeProvisioning
