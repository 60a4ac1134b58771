import VeritasOs.BindAccount

namespace VeritasOs.BindCore
open Text DateTime Interaction BindArtifacts BindAdmissibility DecisionSemantics

variable {W S : Type} {around : Surroundings} {adapter : Adapter W S}

def observed (adapter : Adapter W S) (world : W) : Except Exc Value × W :=
  match adapter.snapshot world with
  | (.error error,after) => (.error error,after)
  | (.ok snapshot,after) => adapter.fingerprintState snapshot after

def SaysReverted (adapter : Adapter W S) (intent : ExecutionIntent) (snapshot : S) (world : W) : Prop :=
  ∃ word, (adapter.revert intent snapshot world).1 = .ok word ∧ word.truthy = true

-- The worlds in which a rollback is taken for done: apply raised and the policy asks
-- for a rollback, the postconditions failed and the state can be read again, or the
-- applied state cannot be read.
inductive Reverted (adapter : Adapter W S) (intent : ExecutionIntent) (rollbackOnApplyFailure : Bool) (snapshot : S) (world : W) : W → Prop
  | applyRaised {error : Exc} {applied : W} (raised : adapter.apply intent snapshot world = (.error error,applied))
      (asked : rollbackOnApplyFailure = true) (said : SaysReverted adapter intent snapshot applied) :
      Reverted adapter intent rollbackOnApplyFailure snapshot world (adapter.revert intent snapshot applied).2
  | postconditionFailed {value verdict seen : Value} {applied verified : W}
      (returned : adapter.apply intent snapshot world = (.ok value,applied))
      (answered : adapter.verifyPostconditions intent snapshot applied = (.ok verdict,verified)) (failed : verdict.truthy = false)
      (said : SaysReverted adapter intent snapshot verified)
      (read : (observed adapter (adapter.revert intent snapshot verified).2).1 = .ok seen) :
      Reverted adapter intent rollbackOnApplyFailure snapshot world (adapter.revert intent snapshot verified).2
  | stateUnread {value verdict : Value} {error : Exc} {applied verified looked : W}
      (returned : adapter.apply intent snapshot world = (.ok value,applied))
      (answered : adapter.verifyPostconditions intent snapshot applied = (.ok verdict,verified)) (held : verdict.truthy = true)
      (unread : observed adapter verified = (.error error,looked)) (said : SaysReverted adapter intent snapshot looked) :
      Reverted adapter intent rollbackOnApplyFailure snapshot world (adapter.revert intent snapshot looked).2

theorem run_observe (around : Surroundings) (adapter : Adapter W S) (host : Host W) :
    ∃ seen, run (handler around adapter) observe host = (.ok seen,{ host with world := (observed adapter host.world).2 }) ∧
      seen.map Prod.snd = (observed adapter host.world).1 := by
  unfold observe observed
  rw [bind_request,run]
  cases first : adapter.snapshot host.world with
  | mk answer after =>
    cases answer with
    | error error => exact ⟨.error error,by simp [handler,onWorld,first,run],rfl⟩
    | ok snapshot =>
      cases second : adapter.fingerprintState snapshot after with
      | mk print final =>
        cases print with
        | error error => exact ⟨.error error,by simp [handler,onWorld,first,second,run],by simp [second,Except.map]⟩
        | ok fingerprint =>
          exact ⟨.ok (snapshot,fingerprint),by simp [handler,onWorld,first,second,run],by simp [second,Except.map]⟩

variable {host final : Host W} {receipt : BindReceipt} {intent : ExecutionIntent} {cleared : Cleared S}

theorem run_described (returned : run (handler around adapter) (described build) host = (.ok receipt,final)) :
    ∃ target, receipt = build target := by
  obtain ⟨target,after,_,last⟩ := run_bind_ok.mp returned
  cases last
  exact ⟨target,rfl⟩

def NoRevert (op : Op S) : Prop := op.isRevert = false

theorem described_noRevert : Within NoRevert (described build : Bind S BindReceipt) := described_within rfl

theorem observe_noRevert : Within NoRevert (observe : Bind S (Except Exc (S × Value))) := observe_within rfl fun _ => rfl

theorem rollbackUnchecked_reverted {code failure : String} {reason : Value}
    (returned : run (handler around adapter) (rollbackUnchecked intent cleared code reason failure) host = (.ok receipt,final)) :
    receipt.liveStateFingerprintBefore = cleared.fingerprint ∧
      visits (handler around adapter) Op.isRevert (rollbackUnchecked intent cleared code reason failure) host =
        [{ host with world := (adapter.revert intent cleared.snapshot host.world).2 }] ∧
      (receipt.finalOutcome = .rolledBack ↔ SaysReverted adapter intent cleared.snapshot host.world) := by
  unfold rollbackUnchecked at returned ⊢
  unfold SaysReverted
  simp only [bind_request,run,visits,handler,onWorld] at returned ⊢
  cases said : (adapter.revert intent cleared.snapshot host.world).1 with
  | error error =>
    simp only [said] at returned ⊢
    split at returned
    · cases returned
    · rename_i handled
      obtain ⟨target,rfl⟩ := run_described returned
      rw [if_neg handled,visits_none described_noRevert]
      exact ⟨rfl,rfl,by simp [appliedReceipt,withReceipt]⟩
  | ok word =>
    simp only [said] at returned ⊢
    split at returned
    · rename_i truthy
      obtain ⟨target,rfl⟩ := run_described returned
      rw [if_pos truthy,visits_none described_noRevert]
      exact ⟨rfl,rfl,by simp [appliedReceipt,withReceipt,truthy]⟩
    · rename_i truthy
      obtain ⟨target,rfl⟩ := run_described returned
      rw [if_neg truthy,visits_none described_noRevert]
      exact ⟨rfl,rfl,by simp [appliedReceipt,withReceipt,truthy]⟩

theorem rollbackAfterVerificationFailure_reverted
    (returned : run (handler around adapter) (rollbackAfterVerificationFailure intent cleared) host = (.ok receipt,final)) :
    receipt.liveStateFingerprintBefore = cleared.fingerprint ∧
      visits (handler around adapter) Op.isRevert (rollbackAfterVerificationFailure intent cleared) host =
        [{ host with world := (adapter.revert intent cleared.snapshot host.world).2 }] ∧
      (receipt.finalOutcome = .rolledBack ↔ SaysReverted adapter intent cleared.snapshot host.world ∧
        ∃ seen, (observed adapter (adapter.revert intent cleared.snapshot host.world).2).1 = .ok seen) := by
  unfold rollbackAfterVerificationFailure at returned ⊢
  unfold SaysReverted
  simp only [bind_request,run,visits,handler,onWorld] at returned ⊢
  cases said : (adapter.revert intent cleared.snapshot host.world).1 with
  | error error =>
    simp only [said] at returned ⊢
    split at returned
    · cases returned
    · rename_i handled
      obtain ⟨target,rfl⟩ := run_described returned
      rw [if_neg handled,visits_none described_noRevert]
      exact ⟨rfl,rfl,by simp [appliedReceipt,withReceipt]⟩
  | ok word =>
    simp only [said] at returned ⊢
    split at returned
    · rename_i truthy
      obtain ⟨target,rfl⟩ := run_described returned
      rw [if_pos truthy,visits_none described_noRevert]
      have falsy : word.truthy = false := by simpa using truthy
      exact ⟨rfl,rfl,by simp [appliedReceipt,withReceipt,falsy]⟩
    · rename_i truthy
      have said_ : word.truthy = true := by simpa using truthy
      rw [if_neg truthy]
      obtain ⟨seen,looked,read⟩ := run_observe around adapter
        { host with world := (adapter.revert intent cleared.snapshot host.world).2 }
      rw [run_bind,looked] at returned
      rw [visits_bind_ok looked,visits_none observe_noRevert]
      cases seen with
      | error error =>
        simp only at returned ⊢
        split at returned
        · cases returned
        · rename_i handled
          obtain ⟨target,rfl⟩ := run_described returned
          rw [if_neg handled,visits_none described_noRevert]
          refine ⟨rfl,rfl,?_⟩
          simp only [← read]
          simp [appliedReceipt,withReceipt,Except.map]
      | ok pair =>
        simp only at returned ⊢
        obtain ⟨target,rfl⟩ := run_described returned
        rw [visits_none described_noRevert]
        refine ⟨rfl,rfl,?_⟩
        simp only [← read]
        simp [restoredReceipt,appliedReceipt,withReceipt,Except.map,said_]

theorem applyFailed_reverted {error : Exc}
    (returned : run (handler around adapter) (applyFailed intent cleared error) host = (.ok receipt,final)) :
    receipt.liveStateFingerprintBefore = cleared.fingerprint ∧ ∀ world, (receipt.finalOutcome = .rolledBack ∧
          ∃ left ∈ visits (handler around adapter) Op.isRevert (applyFailed intent cleared error) host, left.world = world) ↔
        cleared.policy.rollbackOnApplyFailure = true ∧ SaysReverted adapter intent cleared.snapshot host.world ∧
          world = (adapter.revert intent cleared.snapshot host.world).2 := by
  unfold applyFailed at returned ⊢
  split at returned
  · cases returned
  · rename_i handled
    rw [if_neg handled]
    split at returned
    · rename_i asked
      rw [if_pos asked]
      obtain ⟨kept,left,outcome⟩ := rollbackUnchecked_reverted returned
      refine ⟨kept,fun world => ?_⟩
      rw [rollbackAfterApplyFailure,left,outcome]
      simp [asked,eq_comm]
    · rename_i unasked
      rw [if_neg unasked]
      obtain ⟨target,rfl⟩ := run_described returned
      refine ⟨rfl,fun world => ?_⟩
      simp [appliedReceipt,withReceipt,unasked]

theorem verifyApplied_reverted (returned : run (handler around adapter) (verifyApplied intent cleared) host = (.ok receipt,final)) :
    receipt.liveStateFingerprintBefore = cleared.fingerprint ∧
      ∃ verdict verified, adapter.verifyPostconditions intent cleared.snapshot host.world = (.ok verdict,verified) ∧
        ∀ world, (receipt.finalOutcome = .rolledBack ∧
            ∃ left ∈ visits (handler around adapter) Op.isRevert (verifyApplied intent cleared) host, left.world = world) ↔
          (verdict.truthy = false ∧ SaysReverted adapter intent cleared.snapshot verified ∧
            (∃ seen, (observed adapter (adapter.revert intent cleared.snapshot verified).2).1 = .ok seen) ∧
            world = (adapter.revert intent cleared.snapshot verified).2) ∨
          (verdict.truthy = true ∧ ∃ error looked, observed adapter verified = (.error error,looked) ∧
            SaysReverted adapter intent cleared.snapshot looked ∧ world = (adapter.revert intent cleared.snapshot looked).2) := by
  unfold verifyApplied at returned ⊢
  cases answered : adapter.verifyPostconditions intent cleared.snapshot host.world with
  | mk answer verified =>
    cases answer with
    | error error => simp [run,handler,onWorld,answered] at returned
    | ok verdict =>
      simp only [bind_request,bind_ask,run,visits,handler,onWorld,answered,lift_ok,bind_pure] at returned ⊢
      cases held : verdict.truthy with
      | false =>
        simp only [held,Bool.not_false,if_true] at returned ⊢
        obtain ⟨kept,left,outcome⟩ := rollbackAfterVerificationFailure_reverted returned
        refine ⟨kept,verdict,verified,rfl,fun world => ?_⟩
        rw [left,outcome]
        simp [held,Op.isRevert,eq_comm,and_assoc]
      | true =>
        simp only [held,Bool.not_true,Bool.false_eq_true,if_false] at returned ⊢
        obtain ⟨seen,looked,read⟩ := run_observe around adapter { host with world := verified }
        rw [run_bind,looked] at returned
        rw [visits_bind_ok looked,visits_none observe_noRevert]
        cases seen with
        | ok pair =>
          simp only at returned ⊢
          obtain ⟨target,rfl⟩ := run_described returned
          rw [visits_none described_noRevert]
          refine ⟨rfl,verdict,verified,rfl,fun world => ?_⟩
          have readable : ∀ error after, observed adapter verified ≠ (.error error,after) := by
            intro error after unread
            simp [unread,Except.map] at read
          simp [committedReceipt,withReceipt,held,readable]
        | error error =>
          simp only at returned ⊢
          split at returned
          · cases returned
          · rename_i handled
            rw [if_neg handled]
            obtain ⟨kept,left,outcome⟩ := rollbackUnchecked_reverted returned
            refine ⟨kept,verdict,verified,rfl,fun world => ?_⟩
            have unread : observed adapter verified = (.error error,(observed adapter verified).2) :=
              Prod.ext read.symm rfl
            rw [rollbackAfterRuntimeSignalFailure,left,outcome,unread]
            simp [held,Op.isRevert,eq_comm]

theorem commitStage_reverted (returned : run (handler around adapter) (commitStage intent cleared) host = (.ok receipt,final)) :
    receipt.liveStateFingerprintBefore = cleared.fingerprint ∧ ∀ world, (receipt.finalOutcome = .rolledBack ∧
          ∃ left ∈ visits (handler around adapter) Op.isRevert (commitStage intent cleared) host, left.world = world) ↔
        Reverted adapter intent cleared.policy.rollbackOnApplyFailure cleared.snapshot host.world world := by
  rw [commitStage_ask] at returned ⊢
  simp only [run,visits,handler,onWorld,Op.isRevert,Bool.false_eq_true,if_false,List.nil_append] at returned ⊢
  cases applied : adapter.apply intent cleared.snapshot host.world with
  | mk answer after =>
    simp only [applied] at returned ⊢
    cases answer with
    | error error =>
      obtain ⟨kept,exact_⟩ := applyFailed_reverted returned
      refine ⟨kept,fun world => (exact_ world).trans ⟨?_,?_⟩⟩
      · rintro ⟨asked,said,rfl⟩
        exact .applyRaised applied asked said
      · intro taken
        cases taken with
        | applyRaised raised asked said =>
          cases applied.symm.trans raised
          exact ⟨asked,said,rfl⟩
        | postconditionFailed returned_ => cases applied.symm.trans returned_
        | stateUnread returned_ => cases applied.symm.trans returned_
    | ok value =>
      obtain ⟨kept,verdict,verified,answered,exact_⟩ := verifyApplied_reverted returned
      refine ⟨kept,fun world => (exact_ world).trans ⟨?_,?_⟩⟩
      · rintro (⟨failed,said,⟨seen,read⟩,rfl⟩ | ⟨held,error,looked,unread,said,rfl⟩)
        · exact .postconditionFailed applied answered failed said read
        · exact .stateUnread applied answered held unread said
      · intro taken
        cases taken with
        | applyRaised raised => cases applied.symm.trans raised
        | postconditionFailed applied_ answered_ failed said read =>
          cases applied.symm.trans applied_
          cases answered.symm.trans answered_
          exact .inl ⟨failed,said,⟨_,read⟩,rfl⟩
        | stateUnread applied_ answered_ held unread said =>
          cases applied.symm.trans applied_
          cases answered.symm.trans answered_
          exact .inr ⟨held,_,_,unread,said,rfl⟩

-- A receipt that says ROLLED_BACK: what every revert of the call left behind reads as
-- the state did before the effect.
def RollbackTruthful (around : Surroundings) (adapter : Adapter W S) (call : Call) (host : Host W) (receipt : BindReceipt) : Prop :=
  receipt.finalOutcome = .rolledBack →
    ∀ left ∈ visits (handler around adapter) Op.isRevert (executeBindAdjudication around.storage.sha256 call) host,
      (observed adapter left.world).1 = .ok receipt.liveStateFingerprintBefore

-- In the state in which the gates let the call through, a rollback taken for done
-- really restores the fingerprint.
def RevertHonest (around : Surroundings) (adapter : Adapter W S) (call : Call) (host : Host W) : Prop :=
  ∀ clearance before, run (handler around adapter) (prelude around.storage.sha256 call) host = (.ok (.cleared clearance),before) →
    ∀ world, Reverted adapter call.intent (resolveBindPolicyConfig call.intent).rollbackOnApplyFailure clearance.snapshot
      before.world world → (observed adapter world).1 = .ok clearance.fingerprint

theorem prelude_noRevert (sha256 : String → String) (call : Call) : Within NoRevert (prelude sha256 call : Bind S (Stage S)) :=
  (prelude_calm call).mono fun op calm => by cases op <;> simp_all [Calm,Op.effectful,NoRevert,Op.isRevert]

theorem finalizeReceipt_noRevert (sha256 : String → String) (intent : ExecutionIntent) (append : Bool) (receipt : BindReceipt) :
    Within NoRevert (finalizeReceipt sha256 intent append receipt : Bind S BindReceipt) :=
  (finalizeReceipt_logs intent append receipt).mono fun op logs => by cases op <;> simp_all [Op.logs,NoRevert,Op.isRevert]

-- The bind core takes the adapter's word, so its receipts are as truthful as the adapter.
theorem rollback_truthful_exact (around : Surroundings) (adapter : Adapter W S) (call : Call) (host final : Host W)
    (receipt : BindReceipt) (returned : execute around adapter call host = (.ok receipt,final)) :
    RollbackTruthful around adapter call host receipt ↔ RevertHonest around adapter call host := by
  obtain ⟨stage,middle,staged,later⟩ := run_bind_ok.mp returned
  have steps : visits (handler around adapter) Op.isRevert (executeBindAdjudication around.storage.sha256 call) host =
      visits (handler around adapter) Op.isRevert (conclude around.storage.sha256 call stage) middle := by
    rw [executeBindAdjudication,visits_bind_ok staged,visits_none (prelude_noRevert _ _),List.nil_append]
  unfold RollbackTruthful RevertHonest
  rw [steps,staged]
  cases stage with
  | replayed old => simp [conclude,visits]
  | refused refusal => simp [conclude,visits_none (finalizeReceipt_noRevert _ _ _ _)]
  | cleared clearance =>
    obtain ⟨applied,after,performed,finalized⟩ := run_bind_ok.mp later
    obtain ⟨kept,exact_⟩ := commitStage_reverted performed
    obtain ⟨log,_,logged⟩ := run_returns finalized
    obtain ⟨_,_,_,rfl⟩ := finalize_keeps logged
    obtain ⟨trace,_,path⟩ := run_returns staged
    obtain ⟨ts,adapterKey,key,admitted⟩ := prelude_cleared path
    obtain ⟨_,_,_,_,_,_,_,_,passed⟩ := admitted.passage
    obtain ⟨_,_,_,made⟩ := passed.made
    have policy : clearance.policy = resolveBindPolicyConfig call.intent := by rw [made]; rfl
    rw [conclude,visits_bind_ok performed,visits_none (finalizeReceipt_noRevert _ _ _ _),List.append_nil]
    constructor
    · rintro truthful _ _ ⟨⟩ world taken
      rw [← policy] at taken
      obtain ⟨outcome,left,visited,rfl⟩ := (exact_ world).mpr taken
      exact (truthful outcome left visited).trans (congrArg _ kept)
    · intro honest outcome left visited
      have taken := (exact_ left.world).mp ⟨outcome,left,visited,rfl⟩
      rw [policy] at taken
      exact (honest clearance middle rfl left.world taken).trans (congrArg _ kept.symm)

-- Its two callables read the oversight status and execute the halt. The halt is
-- sticky, so its revert does nothing and answers True.
def systemHaltAdapter (sha256 : String → String) (statusReader : W → Except Exc Dict) (haltExecutor : W → Except Exc Value × W)
    (reason operator : String) : Adapter W Dict where
  buildIdempotencyKey _ world := (.ok .none,world)
  snapshot world := ((statusReader world).map fun status => [field "status" (.dict status)],world)
  fingerprintState snapshot world :=
    match (snapshot.get "status").asDict? with
    | none => (.error (valueError "BIND_SYSTEM_HALT_SNAPSHOT_INVALID"),world)
    | some status => ((sha256OfCanonicalJson sha256 (.dict status)).map .str,world)
  validateAuthority intent _ world :=
    (.ok (.bool ((intent.approvalContext.map fun approval => (approval.get "system_halt_approved").truthy).getD false)),world)
  validateConstraints _ snapshot world :=
    (.ok (.dict [field "snapshot_has_status" (.bool (snapshot.get "status").asDict?.isSome),
      field "reason_present" (.bool (strip reason ≠ "")),field "operator_present" (.bool (strip operator ≠ ""))]),world)
  assessRuntimeRisk _ _ world := (.ok (.bool true),world)
  apply _ _ world :=
    match haltExecutor world with
    | (.error error,after) => (.error error,after)
    | (.ok (.dict _),after) => (.ok (.bool true),after)
    | (.ok _,after) => (.error (valueError "BIND_SYSTEM_HALT_RESULT_INVALID"),after)
  verifyPostconditions _ _ world := ((statusReader world).map fun status => .bool (status.get "halted").truthy,world)
  revert _ _ world := (.ok (.bool true),world)
  describeTarget world := (.ok (.str "system/halt"),world)

def pendingHalt : Adapter Dict Dict :=
  systemHaltAdapter (fun s => s) .ok (fun _ => (.ok (.dict []),[field "halted" (.bool false),field "pending" (.bool true)]))
    "incident" "operator-1"

def haltCall : Call :=
  { intent := {
      executionIntentId := "intent-1"
      decisionId := "decision-1"
      targetResource := "system/halt"
      intendedAction := "halt"
      approvalContext := some [field "system_halt_approved" (.bool true),
        field "bind_adjudication" (.dict [field "drift_required" (.bool false)])] }
    bindTs := some "2024-01-01T00:00:00Z"
    bindReceiptId := some "receipt-1"
    appendTrustlog := false }

def quietStorage : TrustLog.Storage :=
  { masking := ⟨fun s => s,fun _ => false,fun _ => false⟩
    sha256 := fun s => s
    maxLines := 5000
    createdAt := fun _ => "2024-01-01T00:00:00Z"
    appendFault := fun _ => .none
    readFault := fun _ => false }

def quietSurroundings : Surroundings :=
  { storage := quietStorage
    utcNow := "2024-01-01T00:00:00Z"
    uuid4 := "receipt-1"
    evaluateCommitBoundary := fun _ => .ok { commitBoundaryResult := .commit } }

def runningHost : Host Dict := ⟨[field "halted" (.bool false)],{}⟩

theorem pendingHalt_rolledBack : ∃ receipt final,
    execute quietSurroundings pendingHalt haltCall runningHost = (.ok receipt,final) ∧ receipt.finalOutcome = .rolledBack ∧
      ¬RollbackTruthful quietSurroundings pendingHalt haltCall runningHost receipt := by
  refine ⟨_,_,rfl,rfl,?_⟩
  intro truthful
  have restored := truthful rfl _ (List.mem_singleton.mpr rfl)
  revert restored
  decide

def restoringHalt : Adapter Dict Dict :=
  { pendingHalt with revert := fun _ snapshot _ => (.ok (.bool true),((snapshot.get "status").asDict?).getD []) }

theorem restoringHalt_honest : ∃ receipt final,
    execute quietSurroundings restoringHalt haltCall runningHost = (.ok receipt,final) ∧ receipt.finalOutcome = .rolledBack ∧
      RevertHonest quietSurroundings restoringHalt haltCall runningHost := by
  refine ⟨_,_,rfl,rfl,(rollback_truthful_exact _ _ _ _ _ _ rfl).mp ?_⟩
  intro _ left visited
  obtain rfl := List.mem_singleton.mp visited
  rfl

end VeritasOs.BindCore
