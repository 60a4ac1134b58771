import VeritasOs.BindCommit

namespace VeritasOs.BindCore
open Text Interaction BindArtifacts

variable {S : Type} {sha256 : String → String}

def isActionAdmissible (actionClass : String) (contractClass : Option String) : Bool :=
  match contractClass with
  | none => false
  | some declared => actionClass = "" || actionClass = declared

-- The validator recommends, and what it does not stop must still fit the contract.
def resolveOutcome (recommended actionClass : String) (contractClass : Option String) : CommitBoundaryOutcome :=
  if recommended = "escalate" then .escalate
  else if recommended = "refuse" then .refuse
  else if recommended = "block" then .block
  else if !isActionAdmissible actionClass contractClass then .refuse
  else .commit

-- Every answer of the evaluator is the outcome of some recommendation for the
-- contract it was given.
def BoundaryAnswers (trace : Trace S) : Prop :=
  ∀ arguments result, ⟨.evaluateCommitBoundary arguments,.ok result⟩ ∈ trace → ∃ recommended contractClass, result.commitBoundaryResult =
      resolveOutcome recommended arguments.actionClass (arguments.actionContract.map contractClass)

theorem resolveOutcome_commit (commits : resolveOutcome recommended actionClass contractClass = .commit) : contractClass.isSome = true := by
  unfold resolveOutcome at commits
  split at commits
  · cases commits
  · split at commits
    · cases commits
    · split at commits
      · cases commits
      · cases contractClass with
        | none => simp [isActionAdmissible] at commits
        | some declared => rfl

def regulatedContexts (intent : ExecutionIntent) : List Dict :=
  [intent.approvalContext,intent.policyLineage].filterMap fun container =>
    container.bind fun members => (members.get "regulated_action_governance").asDict?

def nonblank (value : Value) : Bool := value.truthy && decide (strip value.text ≠ "")

def contractOf (context : Dict) : Option Dict := (context.get "action_contract").asDict?

def namesContract (context : Dict) : Bool :=
  nonblank (context.get "action_contract_id") || ((contractOf context).map fun contract => nonblank (contract.get "id")).getD false

def EvaluatedFor (trace : Trace S) (context : Dict) : Prop :=
  ∃ arguments result contract, contractOf context = some contract ∧ arguments.actionContract = some contract ∧
    ⟨.evaluateCommitBoundary arguments,.ok result⟩ ∈ trace ∧ result.commitBoundaryResult = .commit

-- The first mapping is read alone: it must declare its contract in the way the
-- gate reads it, and no other mapping may name another one.
def Unshadowed (intent : ExecutionIntent) : Prop :=
  ∀ context ∈ regulatedContexts intent, namesContract context = true →
    (∃ contractId, actionContractId (resolveRegulatedActionContext intent) = .ok contractId ∧ contractId ≠ "") ∧
      contractOf (resolveRegulatedActionContext intent) = contractOf context

def Op.isBoundary : Op S → Bool
  | .evaluateCommitBoundary _ => true
  | _ => false

def AsksBoundary (op : Op S) : Prop := op.isBoundary = true

section Declared
variable {call : Call} {contractId : String}
  (declared : actionContractId (resolveRegulatedActionContext call.intent) = .ok contractId) (nonblank_ : contractId ≠ "")
include declared nonblank_

theorem boundaryGate_demands (cleared : Cleared S) :
    Demands AsksBoundary (fun outcome => ∃ clearance, outcome = .inr clearance) (boundaryGate call cleared) := by
  unfold boundaryGate
  have asked : Demands AsksBoundary (fun _ => True) (evaluateRegulatedCommitBoundary call.intent (resolveRegulatedActionContext call.intent) : Bind S _) := by
    unfold evaluateRegulatedCommitBoundary
    rw [declared,lift_ok,bind_pure,if_neg nonblank_]
    exact demands_bind fun arguments => .inl rfl
  exact demands_onward asked fun result unasked => absurd trivial unasked

theorem signalGate_demands (ts key : String) (base : BindReceipt) (snapshot : S) (fingerprint : Value) :
    Demands AsksBoundary (fun outcome => ∃ clearance, outcome = .inr clearance)
      (signalGate call ts key base snapshot fingerprint) := by
  unfold signalGate
  refine demands_bind fun authority => demands_bind fun constraints => demands_bind fun risk => ?_
  refine demands_bind fun ttl => demands_bind fun admissibility => ?_
  have refused : ∀ build : Value → BindReceipt, Demands AsksBoundary (fun outcome => ∃ clearance : Cleared S, outcome = .inr clearance)
      (describeTarget >>= fun target => pure (.inl (build target)) : Bind S (BindReceipt ⊕ Cleared S)) := by
    intro build
    exact demands_bind fun target clear => by cases clear.choose_spec
  dsimp only
  split
  · exact refused _
  · split
    · exact refused _
    · exact boundaryGate_demands declared nonblank_ _

theorem clearGates_demands (ts key : String) (base : BindReceipt) :
    Demands AsksBoundary (fun outcome => ∃ clearance : Cleared S, outcome = .inr clearance) (clearGates call ts key base) := by
  unfold clearGates
  split
  · exact demands_bind fun target clear => by cases clear.choose_spec
  · refine demands_bind fun seen => ?_
    cases seen with
    | error e =>
      dsimp only
      split
      · trivial
      · intro clear
        cases clear.choose_spec
    | ok pair => exact signalGate_demands declared nonblank_ _ _ _ _ _

theorem prelude_demands : Demands AsksBoundary (fun stage => ∃ clearance : Cleared S, stage = .cleared clearance) (prelude sha256 call) := by
  unfold prelude
  refine demands_bind fun ts => demands_bind fun rawKey => demands_bind fun found => ?_
  cases found with
  | some receipt =>
    intro clear
    cases clear.choose_spec
  | none =>
    refine demands_bind fun base => ?_
    have gates := clearGates_demands (S := S) declared nonblank_ ts (resolveIdempotencyKey (strip (rawKey.orStr "")) call.intent) base
    refine demands_onward gates ?_
    intro outcome barred
    cases outcome with
    | inl receipt =>
      intro clear
      cases clear.choose_spec
    | inr clearance => exact absurd ⟨clearance,rfl⟩ barred

end Declared

theorem boundaryRequest_contract
    (made : boundaryRequest intent context = .ok arguments) : arguments.actionContract = contractOf context := by
  unfold boundaryRequest at made
  obtain ⟨required,_,made⟩ := bind_ok.mp made
  obtain ⟨freshness,_,made⟩ := bind_ok.mp made
  obtain ⟨approval,_,made⟩ := bind_ok.mp made
  obtain ⟨metadata,_,made⟩ := bind_ok.mp made
  cases made
  rfl

theorem admitted_boundary (admitted : Admitted sha256 call clearance trace ts adapterKey key) (listed : event ∈ trace)
    (asks : AsksBoundary event.1) :
    ∃ arguments result, event = ⟨.evaluateCommitBoundary arguments,.ok result⟩ ∧ result.commitBoundaryResult = .commit := by
  obtain ⟨setup,gates,base,rfl,calm,_,_,_,passed⟩ := admitted.passage
  obtain ⟨signals,rfl,signalled⟩ := passed.observed
  obtain ⟨authority,constraints,risk,ttl,boundary,rfl,_,_,bounded⟩ := signalled.asked
  simp only [List.mem_append,List.mem_cons] at listed
  rcases listed with early | rfl | rfl | rfl | rfl | rfl | late
  · have setsUp := calm event early
    cases event with
    | mk op answer => cases op <;> simp_all [Op.setsUp,AsksBoundary,Op.isBoundary]
  · cases asks
  · cases asks
  · cases asks
  · cases asks
  · cases asks
  · rcases bounded with rfl | ⟨arguments,result,rfl,commits⟩
    · cases late
    · exact ⟨arguments,result,List.mem_singleton.mp late,commits⟩

theorem contract_unshadowed_exact (sha256 : String → String) (call : Call) (trace : Trace S) (intent : ExecutionIntent) (snapshot : S)
    (answers : BoundaryAnswers trace) (called : Calls (executeBindAdjudication sha256 call) trace (.apply intent snapshot)) :
    (∀ context ∈ regulatedContexts call.intent, namesContract context = true → EvaluatedFor trace context) ↔ Unshadowed call.intent := by
  obtain ⟨clearance,staged,_,_⟩ := calls_apply called
  obtain ⟨ts,adapterKey,key,admitted⟩ := prelude_cleared staged
  have prepared := (Leads.within staged (prelude_prepares call)).1
  constructor
  · intro evaluated context listed names
    obtain ⟨arguments,result,contract,carried,given,there,_⟩ := evaluated context listed names
    obtain ⟨declared,made⟩ := prepared _ there
    exact ⟨declared,by rw [← boundaryRequest_contract made,given,carried]⟩
  · intro unshadowed context listed names
    obtain ⟨⟨contractId,declared,nonblank_⟩,same⟩ := unshadowed context listed names
    obtain ⟨event,there,asks⟩ := staged.demanded (prelude_demands declared nonblank_) ⟨clearance,rfl⟩
    obtain ⟨arguments,result,rfl,commits⟩ := admitted_boundary admitted there asks
    obtain ⟨_,made⟩ := prepared _ there
    obtain ⟨recommended,contractClass,outcome⟩ := answers arguments result there
    have given := resolveOutcome_commit (outcome.symm.trans commits)
    rw [Option.isSome_map] at given
    obtain ⟨contract,found⟩ := Option.isSome_iff_exists.mp given
    exact ⟨arguments,result,contract,by rw [← same,← boundaryRequest_contract made,found],found,there,commits⟩

def contract : Dict := [(.str "id",.str "contract-1")]

def contractMapping : Dict := [(.str "action_contract_id",.str "contract-1"),(.str "action_contract",.dict contract)]

def governed (mapping : Dict) : Option Dict := some [(.str "regulated_action_governance",.dict mapping)]

def declaringIntent : ExecutionIntent := { sampleIntent with approvalContext := governed contractMapping }

def declaringArguments : BoundaryRequest :=
  ⟨"intent-1","",some contract,none,[],[],[],declaringIntent.policySnapshotId,declaringIntent.actorIdentity,[],[]⟩

def signalsOf (intent : ExecutionIntent) : Trace Unit :=
  [⟨.buildIdempotencyKey intent,.ok (.str "key-1")⟩,⟨.iterTrustLog,[]⟩,⟨.snapshot,.ok ()⟩,⟨.fingerprintState (),.ok (.str "state-1")⟩,
   ⟨.validateAuthority intent (),.ok (.bool true)⟩,⟨.validateConstraints intent (),.ok (.dict [(.str "window",.bool true)])⟩,
   ⟨.assessRuntimeRisk intent (),.ok (.bool true)⟩]

def declaringTrace : Trace Unit :=
  signalsOf declaringIntent ++ [⟨.evaluateCommitBoundary declaringArguments,.ok ⟨.commit,"contract-1","","","","",[],[],[],[],[],[],"","",""⟩⟩]

theorem signalsOf_unasked (intent : ExecutionIntent) : ⟨.evaluateCommitBoundary arguments,answer⟩ ∉ signalsOf intent := by
  simp [signalsOf]

theorem declaringTrace_answers : BoundaryAnswers declaringTrace := by
  intro arguments result listed
  rcases List.mem_append.mp listed with early | late
  · exact absurd early (signalsOf_unasked _)
  · cases List.mem_singleton.mp late
    exact ⟨"commit",fun _ => "",rfl⟩

theorem declaring_calls_apply :
    Calls (executeBindAdjudication (fun s => s) { sampleCall with intent := declaringIntent }) declaringTrace (.apply declaringIntent ()) :=
  ⟨_,.more (.more (.more (.more (.more (.more (.more (.more (.done _))))))))⟩

theorem contract_unshadowed_sample :
    Calls (executeBindAdjudication (fun s => s) { sampleCall with intent := declaringIntent }) declaringTrace (.apply declaringIntent ()) ∧
      EvaluatedFor declaringTrace contractMapping := by
  refine ⟨declaring_calls_apply,?_⟩
  have exact_ := contract_unshadowed_exact _ _ _ _ _ declaringTrace_answers declaring_calls_apply
  have unshadowed : Unshadowed declaringIntent := by
    intro context listed names
    have one : regulatedContexts declaringIntent = [contractMapping] := rfl
    obtain rfl := List.mem_singleton.mp (one ▸ listed)
    exact ⟨⟨"contract-1",rfl,by decide⟩,rfl⟩
  exact exact_.mpr unshadowed contractMapping List.mem_cons_self rfl

-- The lineage names the contract, and an empty mapping in the approval is found first.
def shadowedIntent : ExecutionIntent :=
  { sampleIntent with approvalContext := governed [],policyLineage := governed contractMapping }

theorem shadowed_calls_apply :
    Calls (executeBindAdjudication (fun s => s) { sampleCall with intent := shadowedIntent }) (signalsOf shadowedIntent) (.apply shadowedIntent ()) :=
  ⟨_,.more (.more (.more (.more (.more (.more (.more (.done _)))))))⟩

theorem empty_mapping_shadows :
    Calls (executeBindAdjudication (fun s => s) { sampleCall with intent := shadowedIntent }) (signalsOf shadowedIntent) (.apply shadowedIntent ()) ∧
      ¬∀ context ∈ regulatedContexts shadowedIntent, namesContract context = true → EvaluatedFor (signalsOf shadowedIntent) context := by
  refine ⟨shadowed_calls_apply,?_⟩
  intro evaluated
  obtain ⟨arguments,result,_,_,_,there,_⟩ := evaluated contractMapping (List.mem_cons_of_mem _ List.mem_cons_self) rfl
  exact signalsOf_unasked _ there

end VeritasOs.BindCore
