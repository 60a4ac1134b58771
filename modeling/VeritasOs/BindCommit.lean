import VeritasOs.BindCore

namespace VeritasOs.BindCore
open Text DateTime Interaction BindArtifacts BindAdmissibility DecisionSemantics

variable {S : Type} {sha256 : String → String}

abbrev Trace (S : Type) := List (Event (Ans S))

-- The requests that touch the target or write to the log, and those of the TrustLog.
def Op.effectful : Op S → Bool
  | .apply _ _ | .verifyPostconditions _ _ | .revert _ _ | .appendTrustLog _ => true
  | _ => false

def Op.logs : Op S → Bool
  | .iterTrustLog | .appendTrustLog _ => true
  | _ => false

variable {trace : Trace S} {snapshot : S} {fingerprint : Value} {intent : ExecutionIntent} {call : Call} {cleared : Cleared S} {op : Op S}
variable {ts key : String} {base : BindReceipt} {adapterKey : String} {receipt : BindReceipt} {build : Value → BindReceipt}

theorem describeTarget_returns : Returns describeTarget trace target ↔ trace = [⟨.describeTarget,.ok target⟩] := by
  unfold describeTarget
  rw [bind_request,returns_ask]
  constructor
  · rintro ⟨answer,rest,rfl,later⟩
    obtain ⟨rfl,rfl⟩ := returns_lift.mp later
    rfl
  · rintro rfl
    exact ⟨_,_,rfl,by simp⟩

theorem observe_returns : Returns observe trace (.ok (snapshot,fingerprint)) ↔
      trace = [⟨.snapshot,.ok snapshot⟩,⟨.fingerprintState snapshot,.ok fingerprint⟩] := by
  unfold observe
  rw [bind_request,returns_ask]
  constructor
  · rintro ⟨answer,rest,rfl,later⟩
    cases answer with
    | error e => simp at later
    | ok seen =>
      simp only [bind_request,returns_ask] at later
      obtain ⟨answer,rest,rfl,later⟩ := later
      cases answer with
      | error e => simp at later
      | ok print =>
        obtain ⟨rfl,same⟩ := returns_pure.mp later
        cases same
        rfl
  · rintro rfl
    exact ⟨_,_,rfl,.more (.done _)⟩

def BoundaryPassed (trace : Trace S) : Prop :=
  trace = [] ∨ ∃ arguments result, trace = [⟨.evaluateCommitBoundary arguments,.ok result⟩] ∧ result.commitBoundaryResult = .commit

theorem mapError_ok {outcome : Except Exc α} {f : Exc → Exc} {value : α} (made : outcome.mapError f = .ok value) : outcome = .ok value := by
  cases outcome with
  | error e => cases made
  | ok v => exact made

theorem boundary_returns {context : Dict} {result : Option CommitBoundaryResult}
    (returned : Returns (evaluateRegulatedCommitBoundary intent context) trace result) : (trace = [] ∧ result = none) ∨
      ∃ arguments answer, trace = [⟨.evaluateCommitBoundary arguments,.ok answer⟩] ∧ result = some answer := by
  unfold evaluateRegulatedCommitBoundary at returned
  obtain ⟨contract,_,later,rfl,first,asked⟩ := returns_bind.mp returned
  obtain ⟨rfl,_⟩ := returns_lift.mp first
  split at asked
  · obtain ⟨rfl,rfl⟩ := returns_pure.mp asked
    exact .inl ⟨rfl,rfl⟩
  · obtain ⟨arguments,_,rest,rfl,second,sent⟩ := returns_bind.mp asked
    obtain ⟨rfl,_⟩ := returns_lift.mp second
    simp only [bind_request,returns_ask] at sent
    obtain ⟨answer,rest,rfl,answered⟩ := sent
    obtain ⟨value,_,last,rfl,third,done_⟩ := returns_bind.mp answered
    obtain ⟨rfl,made⟩ := returns_lift.mp third
    obtain ⟨rfl,rfl⟩ := returns_pure.mp done_
    exact .inr ⟨arguments,value,by rw [mapError_ok made]; rfl,rfl⟩

theorem boundaryGate_cleared {before : Cleared S} (returned : Returns (boundaryGate call before) trace (.inr cleared)) :
    BoundaryPassed trace ∧ ∃ result, cleared =
      { before with regulated := regulatedReceiptUpdates (resolveRegulatedActionContext call.intent) result } := by
  unfold boundaryGate at returned
  obtain ⟨result,left,right,rfl,first,later⟩ := returns_bind.mp returned
  have refused : ∀ build : Value → BindReceipt,
      ¬Returns (describeTarget >>= fun target => pure (Sum.inl (build target))) right (Sum.inr cleared) := by
    intro build stopped
    obtain ⟨_,_,_,_,_,last⟩ := returns_bind.mp stopped
    cases (returns_pure.mp last).2
  dsimp only at later
  split at later
  · exact absurd later (refused _)
  · exact absurd later (refused _)
  · exact absurd later (refused _)
  · rename_i notBlock notEscalate notRefuse
    obtain ⟨rfl,same⟩ := returns_pure.mp later
    refine ⟨?_,_,(Sum.inr.inj same).symm⟩
    rcases boundary_returns first with ⟨rfl,rfl⟩ | ⟨arguments,answer,rfl,rfl⟩
    · exact .inl rfl
    · refine .inr ⟨arguments,answer,rfl,?_⟩
      cases outcome : answer.commitBoundaryResult with
      | commit => rfl
      | block => exact absurd (by simp [outcome]) notBlock
      | escalate => exact absurd (by simp [outcome]) notEscalate
      | refuse => exact absurd (by simp [outcome]) notRefuse

theorem resolve_bind_terms (values : List Value) :
    resolveDecisionPrecedence values .bind = "block" ∨ resolveDecisionPrecedence values .bind = "escalate" ∨
      resolveDecisionPrecedence values .bind = "eligible_to_commit" := by
  unfold resolveDecisionPrecedence
  simp only [reduceCtorEq,if_false]
  generalize (if values = [] then 3 else _) = severity
  unfold decisionOutputTerms
  split <;> simp_all

theorem precedence_clear (clear : precedenceReasonCode (finalBindDecision values) = none) :
    ∀ value ∈ values, decisionSeverity (.str value) = 1 := by
  intro value member
  have some_ : values ≠ [] := by rintro rfl; cases member
  have notBlock : finalBindDecision values ≠ "block" := by
    intro blocked
    simp [precedenceReasonCode,blocked] at clear
  have notEscalate : finalBindDecision values ≠ "escalate" := by
    intro escalated
    simp [precedenceReasonCode,escalated] at clear
  rw [finalBindDecision,if_neg some_] at notBlock notEscalate
  have eligible := ((resolve_bind_terms (values.map .str)).resolve_left notBlock).resolve_left notEscalate
  exact ((resolve_eligible _).mp eligible).2 _ (List.mem_map_of_mem member)

structure SignalsPassed (call : Call) (ts : String) (snapshot : S) (fingerprint : Value) (trace : Trace S) : Prop where
  asked : ∃ authority constraints risk ttl boundary,trace = ⟨.validateAuthority call.intent snapshot,.ok authority⟩ ::
      ⟨.validateConstraints call.intent snapshot,.ok constraints⟩ :: ⟨.assessRuntimeRisk call.intent snapshot,.ok risk⟩ :: boundary ∧
    buildTtlExpiry call.intent = .ok ttl ∧
    Admits (admissibilityInput call.intent (resolveBindPolicyConfig call.intent) ts ttl authority constraints risk fingerprint) ∧
    BoundaryPassed boundary
  decisions : ∀ value ∈ extractBindDecisionValues call.intent, decisionSeverity (.str value) = 1

theorem ask_lift_returns {f : α → Bind S β} {result : β} {decode : Ans S op → Except Exc α}
    (returned : Returns ((request op >>= fun answer => lift (decode answer)) >>= f) trace result) :
    ∃ answer value rest, trace = ⟨op,answer⟩ :: rest ∧ decode answer = .ok value ∧ Returns (f value) rest result := by
  obtain ⟨value,left,right,rfl,first,later⟩ := returns_bind.mp returned
  simp only [bind_request,returns_ask,returns_lift] at first
  obtain ⟨answer,rest,rfl,rfl,made⟩ := first
  exact ⟨answer,value,right,rfl,made,later⟩

theorem signalGate_cleared (returned : Returns (signalGate call ts key base snapshot fingerprint) trace (.inr cleared)) :
    SignalsPassed call ts snapshot fingerprint trace ∧ cleared.snapshot = snapshot ∧ cleared.fingerprint = fingerprint ∧
      ∃ ttl admissibility result, cleared = { assessed call key base snapshot fingerprint ttl admissibility with
        regulated := regulatedReceiptUpdates (resolveRegulatedActionContext call.intent) result } := by
  unfold signalGate at returned
  obtain ⟨_,authority,r1,rfl,rfl,askedConstraints⟩ := ask_lift_returns returned
  obtain ⟨_,constraints,r2,rfl,rfl,askedRisk⟩ := ask_lift_returns askedConstraints
  obtain ⟨_,risk,r3,rfl,rfl,signals⟩ := ask_lift_returns askedRisk
  obtain ⟨ttl,_,r4,rfl,lifted,checked⟩ := returns_bind.mp signals
  obtain ⟨rfl,expiry⟩ := returns_lift.mp lifted
  obtain ⟨admissibility,_,r5,rfl,computed,decided⟩ := returns_bind.mp checked
  obtain ⟨rfl,evaluated⟩ := returns_lift.mp computed
  have refused : ∀ build : Value → BindReceipt,
      ¬Returns (describeTarget >>= fun target => pure (Sum.inl (build target))) r5 (Sum.inr cleared) := by
    intro build stopped
    obtain ⟨_,_,_,_,_,last⟩ := returns_bind.mp stopped
    cases (returns_pure.mp last).2
  dsimp only at decided
  split at decided
  · exact absurd decided (refused _)
  · rename_i admissible
    split at decided
    · exact absurd decided (refused _)
    · rename_i clear
      obtain ⟨passed,result,rfl⟩ := boundaryGate_cleared decided
      exact ⟨⟨⟨authority,constraints,risk,ttl,r5,rfl,expiry,admissible_exact evaluated (by simpa using admissible),passed⟩,
        precedence_clear clear⟩,rfl,rfl,ttl,admissibility,result,rfl⟩

theorem preconditions_clear (clear : validateIntentPreconditions intent = none) :
    intent.executionIntentId ≠ "" ∧ intent.decisionId ≠ "" ∧ intent.targetResource ≠ "" ∧ intent.intendedAction ≠ "" := by
  unfold validateIntentPreconditions at clear
  split at clear
  · cases clear
  · split at clear
    · cases clear
    · split at clear
      · cases clear
      · split at clear
        · cases clear
        · exact ⟨‹_›,‹_›,‹_›,‹_›⟩

structure GatesPassed (call : Call) (ts key : String) (base : BindReceipt) (cleared : Cleared S) (trace : Trace S) : Prop where
  identified : call.intent.executionIntentId ≠ "" ∧ call.intent.decisionId ≠ "" ∧ call.intent.targetResource ≠ "" ∧
    call.intent.intendedAction ≠ ""
  observed : ∃ signals, trace = ⟨.snapshot,.ok cleared.snapshot⟩ :: ⟨.fingerprintState cleared.snapshot,.ok cleared.fingerprint⟩ ::
    signals ∧ SignalsPassed call ts cleared.snapshot cleared.fingerprint signals
  made : ∃ ttl admissibility result, cleared = { assessed call key base cleared.snapshot cleared.fingerprint ttl admissibility with
      regulated := regulatedReceiptUpdates (resolveRegulatedActionContext call.intent) result }

theorem clearGates_cleared (returned : Returns (clearGates call ts key base) trace (.inr cleared)) :
    GatesPassed call ts key base cleared trace := by
  unfold clearGates at returned
  split at returned
  · obtain ⟨_,_,_,_,_,last⟩ := returns_bind.mp returned
    cases (returns_pure.mp last).2
  · rename_i clear
    obtain ⟨outcome,left,right,rfl,seen,later⟩ := returns_bind.mp returned
    cases outcome with
    | error e =>
      simp only at later
      split at later
      · exact (returns_fail.mp later).elim
      · cases (returns_pure.mp later).2
    | ok pair =>
      obtain ⟨snapshot,fingerprint⟩ := pair
      obtain rfl := observe_returns.mp seen
      obtain ⟨passed,rfl,rfl,made⟩ := signalGate_cleared later
      exact ⟨preconditions_clear clear,⟨right,rfl,passed⟩,made⟩

def Calm (op : Op S) : Prop := op.effectful = false

def DeclaredFor (intent : ExecutionIntent) (arguments : BoundaryRequest) : Prop :=
  (∃ contractId, actionContractId (resolveRegulatedActionContext intent) = .ok contractId ∧ contractId ≠ "") ∧
    boundaryRequest intent (resolveRegulatedActionContext intent) = .ok arguments

def Prepares (intent : ExecutionIntent) : Op S → Prop
  | .evaluateCommitBoundary arguments => DeclaredFor intent arguments
  | op => op.effectful = false

theorem prepares_calm (op : Op S) (prepares : Prepares intent op) : Calm op := by
  cases op <;> first | exact prepares | rfl

theorem describeTarget_within (described : allowed .describeTarget) : Within allowed (describeTarget : Bind S Value) := by
  unfold describeTarget
  exact within_bind ⟨described,fun _ => trivial⟩ fun _ => within_lift _ _

theorem observe_within (snapshot : allowed .snapshot) (fingerprint : ∀ seen, allowed (.fingerprintState seen)) :
    Within allowed (observe : Bind S (Except Exc (S × Value))) := by
  unfold observe
  refine within_bind ⟨snapshot,fun _ => trivial⟩ fun seen => ?_
  cases seen with
  | error e => trivial
  | ok state =>
    refine within_bind ⟨fingerprint state,fun _ => trivial⟩ fun print => ?_
    cases print <;> trivial

theorem describe_prepares {build : Value → α} :
    Within (Prepares intent) (describeTarget >>= fun target => pure (build target) : Bind S α) :=
  within_bind (describeTarget_within rfl) fun _ => trivial

theorem boundaryGate_prepares (call : Call) (cleared : Cleared S) : Within (Prepares call.intent) (boundaryGate call cleared) := by
  unfold boundaryGate evaluateRegulatedCommitBoundary
  refine within_bind (within_bind_yields (within_lift _ _) (yields_lift _) fun contract declared => ?_) fun result => ?_
  · split
    · trivial
    · rename_i nonblank
      refine within_bind_yields (within_lift _ _) (yields_lift _) fun arguments made => ?_
      exact within_bind ⟨⟨⟨contract,declared,nonblank⟩,mapError_ok made⟩,fun _ => trivial⟩ fun answer =>
        within_bind (within_lift _ _) fun _ => trivial
  · dsimp only
    split
    · exact describe_prepares
    · exact describe_prepares
    · exact describe_prepares
    · trivial

theorem signalGate_prepares (call : Call) (ts key : String) (base : BindReceipt) (snapshot : S) (fingerprint : Value) :
    Within (Prepares call.intent) (signalGate call ts key base snapshot fingerprint) := by
  unfold signalGate
  refine within_bind (within_bind ⟨rfl,fun _ => trivial⟩ fun _ => within_lift _ _) fun authority => ?_
  refine within_bind (within_bind ⟨rfl,fun _ => trivial⟩ fun _ => within_lift _ _) fun constraints => ?_
  refine within_bind (within_bind ⟨rfl,fun _ => trivial⟩ fun _ => within_lift _ _) fun risk => ?_
  refine within_bind (within_lift _ _) fun ttl => within_bind (within_lift _ _) fun admissibility => ?_
  dsimp only
  split
  · exact describe_prepares
  · split
    · exact describe_prepares
    · exact boundaryGate_prepares _ _

theorem clearGates_prepares (call : Call) (ts key : String) (base : BindReceipt) :
    Within (Prepares call.intent) (clearGates call ts key base : Bind S (BindReceipt ⊕ Cleared S)) := by
  unfold clearGates
  split
  · exact describe_prepares
  · refine within_bind (observe_within rfl fun _ => rfl) fun seen => ?_
    cases seen with
    | error e => dsimp only; split <;> trivial
    | ok pair => exact signalGate_prepares _ _ _ _ _ _

theorem lookupDuplicate_prepares (call : Call) (adapterKey key : String) :
    Within (Prepares call.intent) (lookupDuplicate call adapterKey key : Bind S (Option BindReceipt)) := by
  unfold lookupDuplicate
  split
  · exact ⟨rfl,fun _ => trivial⟩
  · trivial

theorem bindTimestamp_prepares (call : Call) : Within (Prepares call.intent) (bindTimestamp call : Bind S String) := by
  unfold bindTimestamp
  split
  · trivial
  · exact ⟨rfl,fun _ => trivial⟩

theorem baseReceipt_prepares (call : Call) (ts key : String) :
    Within (Prepares call.intent) (baseReceipt sha256 call ts key : Bind S BindReceipt) := by
  unfold baseReceipt receiptId
  refine within_bind (within_lift _ _) fun _ => within_bind (within_lift _ _) fun _ => within_bind ?_ fun _ => trivial
  split
  · trivial
  · exact ⟨rfl,fun _ => trivial⟩

theorem finalizeReceipt_logs (intent : ExecutionIntent) (append : Bool) (receipt : BindReceipt) :
    Within (fun op : Op S => op.logs = true) (finalizeReceipt sha256 intent append receipt) := by
  unfold finalizeReceipt
  dsimp only
  split
  · trivial
  · unfold appendExecutionIntentTrustlog appendBindReceiptTrustlog previousBindHash
    refine within_bind (within_bind (within_lift _ _) fun _ => within_bind ⟨rfl,fun _ => trivial⟩ fun _ => within_lift _ _)
      fun _ => within_bind ?_ fun _ => within_bind (within_lift _ _) fun _ =>
        within_bind (within_bind ⟨rfl,fun _ => trivial⟩ fun _ => within_lift _ _) fun _ => trivial
    split
    · trivial
    · exact ⟨rfl,fun _ => trivial⟩

theorem prelude_prepares (call : Call) : Within (Prepares call.intent) (prelude sha256 call : Bind S (Stage S)) := by
  unfold prelude
  refine within_bind (bindTimestamp_prepares call) fun ts => ?_
  refine within_bind (within_bind ⟨rfl,fun _ => trivial⟩ fun _ => within_lift _ _) fun rawKey => ?_
  refine within_bind (lookupDuplicate_prepares _ _ _) fun found => ?_
  cases found with
  | some receipt => trivial
  | none =>
    refine within_bind (baseReceipt_prepares _ _ _) fun base => within_bind (clearGates_prepares _ _ _ _) fun outcome => ?_
    cases outcome <;> trivial

theorem prelude_calm (call : Call) : Within Calm (prelude sha256 call : Bind S (Stage S)) :=
  (prelude_prepares call).mono prepares_calm

-- The clock, the key, the log and the identifier: all that precedes the gates.
def Op.setsUp : Op S → Bool
  | .utcNow | .uuid4 | .buildIdempotencyKey _ | .iterTrustLog => true
  | _ => false

def TimestampOf (call : Call) (trace : Trace S) (ts : String) : Prop :=
  nonempty (call.bindTs.getD "") = some ts ∨ (nonempty (call.bindTs.getD "") = none ∧ ⟨.utcNow,ts⟩ ∈ trace)

-- With replay enabled the log is read first, and it holds no receipt of this key.
def Missed (call : Call) (trace : Trace S) (adapterKey key : String) : Prop :=
  (call.appendTrustlog && idempotencyReplayEnabled adapterKey call.intent) = true →
    ∃ entries rest, trace = ⟨.iterTrustLog,entries⟩ :: rest ∧ findDuplicateBindReceipt entries call.intent key = none

-- How a call that is cleared begins: the clock, the adapter's key, and a lookup in vain.
def Opens (call : Call) (trace : Trace S) (adapterKey key : String) : Prop :=
  ∃ rawKey clock rest, trace = clock ++ ⟨.buildIdempotencyKey call.intent,.ok rawKey⟩ :: rest ∧ (∀ event ∈ clock, event.1 = .utcNow) ∧
    adapterKey = strip (rawKey.orStr "") ∧ key = resolveIdempotencyKey adapterKey call.intent ∧ Missed call rest adapterKey key

theorem Missed.append (missed : Missed call left adapterKey key) (right : Trace S) : Missed call (left ++ right) adapterKey key := by
  intro enabled
  obtain ⟨entries,rest,rfl,none_⟩ := missed enabled
  exact ⟨entries,rest ++ right,rfl,none_⟩

theorem Opens.append (opens : Opens call left adapterKey key) (right : Trace S) : Opens call (left ++ right) adapterKey key := by
  obtain ⟨rawKey,clock,rest,rfl,clocked,same,resolved,missed⟩ := opens
  exact ⟨rawKey,clock,rest ++ right,by simp,clocked,same,resolved,missed.append right⟩

theorem bindTimestamp_returns (returned : Returns (bindTimestamp call) trace ts) :
    (∀ event ∈ trace, event.1 = .utcNow) ∧ TimestampOf call trace ts := by
  unfold bindTimestamp at returned
  unfold TimestampOf
  split at returned
  · rename_i given
    obtain ⟨rfl,rfl⟩ := returns_pure.mp returned
    exact ⟨by simp,.inl given⟩
  · rename_i absent
    simp only [Ask.utcNow,request,returns_ask,returns_pure] at returned
    obtain ⟨answer,rest,rfl,rfl,rfl⟩ := returned
    exact ⟨by simp,.inr ⟨absent,by simp⟩⟩

theorem lookupDuplicate_returns (returned : Returns (lookupDuplicate call adapterKey key) trace found) :
    (∀ event ∈ trace, event.1.setsUp = true) ∧ (found = none → Missed call trace adapterKey key) ∧
      ∀ receipt, found = some receipt → ∃ entries, trace = [⟨.iterTrustLog,entries⟩] ∧
        findDuplicateBindReceipt entries call.intent key = some receipt := by
  unfold lookupDuplicate at returned
  split at returned
  · simp only [bind_request,returns_ask,returns_pure,pure_eq] at returned
    obtain ⟨entries,rest,rfl,rfl,rfl⟩ := returned
    exact ⟨by simp [Op.setsUp],fun none_ _ => ⟨entries,[],rfl,none_⟩,fun receipt some_ => ⟨entries,rfl,some_⟩⟩
  · rename_i disabled
    obtain ⟨rfl,rfl⟩ := returns_pure.mp returned
    exact ⟨by simp,fun _ enabled => absurd enabled disabled,by simp⟩

theorem baseReceipt_returns (returned : Returns (baseReceipt sha256 call ts key) trace base) : (∀ event ∈ trace, event.1.setsUp = true) ∧
      ∃ id intentHash ttl, hashExecutionIntent sha256 call.intent = .ok intentHash ∧ base =
        { bindReceiptId := id, executionIntentId := call.intent.executionIntentId, decisionId := call.intent.decisionId,
          bindTs := ts, executionIntentHash := intentHash, policySnapshotId := call.intent.policySnapshotId,
          actorIdentity := call.intent.actorIdentity, decisionHash := call.intent.decisionHash,
          labels := { idempotencyKey := some key }, governanceIdentity := extractGovernanceIdentity call.intent,
          revalidationContext := buildRevalidationContext call.intent { } ttl (buildApprovalExpiry call.intent) key } := by
  unfold baseReceipt at returned
  obtain ⟨intentHash,_,r1,rfl,hashed,rest⟩ := returns_bind.mp returned
  obtain ⟨rfl,made⟩ := returns_lift.mp hashed
  obtain ⟨ttl,_,r2,rfl,expiry,named⟩ := returns_bind.mp rest
  obtain ⟨rfl,_⟩ := returns_lift.mp expiry
  obtain ⟨id,l3,r3,rfl,chosen,last⟩ := returns_bind.mp named
  obtain ⟨rfl,rfl⟩ := returns_pure.mp last
  refine ⟨?_,id,intentHash,ttl,made,rfl⟩
  unfold receiptId at chosen
  split at chosen
  · obtain ⟨rfl,_⟩ := returns_pure.mp chosen
    simp
  · simp only [Ask.uuid4,request,returns_ask,returns_pure] at chosen
    obtain ⟨answer,rest,rfl,rfl,_⟩ := chosen
    simp [Op.setsUp]

structure Admitted (sha256 : String → String) (call : Call) (clearance : Cleared S) (trace : Trace S) (ts adapterKey key : String) :
    Prop where
  passage : ∃ setup gates base, trace = setup ++ gates ∧ (∀ event ∈ setup, event.1.setsUp = true) ∧
    TimestampOf call setup ts ∧ Opens call setup adapterKey key ∧
    (∃ left right, setup = left ++ right ∧ Returns (baseReceipt sha256 call ts key) right base) ∧
    GatesPassed call ts key base clearance gates

theorem prelude_cleared {clearance : Cleared S} (returned : Returns (prelude sha256 call) trace (.cleared clearance)) :
    ∃ ts adapterKey key, Admitted sha256 call clearance trace ts adapterKey key := by
  unfold prelude at returned
  obtain ⟨ts,l1,r1,rfl,stamped,keyed⟩ := returns_bind.mp returned
  obtain ⟨_,rawKey,r2,rfl,rfl,looked⟩ := ask_lift_returns keyed
  obtain ⟨found,l3,r3,rfl,searched,rest⟩ := returns_bind.mp looked
  cases found with
  | some receipt => cases (returns_pure.mp rest).2
  | none =>
    obtain ⟨base,l4,r4,rfl,based,gated⟩ := returns_bind.mp rest
    obtain ⟨outcome,l5,r5,rfl,passed,last⟩ := returns_bind.mp gated
    cases outcome with
    | inl receipt => cases (returns_pure.mp last).2
    | inr c =>
      obtain ⟨rfl,same⟩ := returns_pure.mp last
      cases same
      obtain ⟨calm1,time⟩ := bindTimestamp_returns stamped
      obtain ⟨calm3,missed,_⟩ := lookupDuplicate_returns searched
      obtain ⟨calm4,_⟩ := baseReceipt_returns based
      refine ⟨ts,_,_,⟨l1 ++ ⟨.buildIdempotencyKey call.intent,.ok rawKey⟩ :: (l3 ++ l4),l5,base,by simp,?_,?_,
        ⟨rawKey,l1,l3 ++ l4,rfl,calm1,rfl,rfl,(missed rfl).append l4⟩,⟨l1 ++ ⟨.buildIdempotencyKey call.intent,.ok rawKey⟩ :: l3,l4,by simp,based⟩,
        clearGates_cleared passed⟩⟩
      · intro event member
        simp only [List.mem_append,List.mem_cons] at member
        rcases member with first | rfl | third | fourth
        · rw [calm1 event first]
          rfl
        · rfl
        · exact calm3 event third
        · exact calm4 event fourth
      · rcases time with given | ⟨absent,read⟩
        · exact .inl given
        · exact .inr ⟨absent,by simp [read]⟩

theorem appendBindReceipt_returns {final : BindReceipt} (returned : Returns (appendBindReceiptTrustlog sha256 receipt) trace final) :
    ∃ reads previous hash entry, (∀ event ∈ reads, event.1.logs = true) ∧
      hashBindReceipt sha256 { receipt with prevBindHash := previous } = .ok hash ∧
      trace = reads ++ [⟨.appendTrustLog (bindReceiptEntry { receipt with prevBindHash := previous, bindReceiptHash := hash }),
        .ok entry⟩] ∧
      final = { receipt with prevBindHash := previous, bindReceiptHash := hash, trustlogHash := (entry.get "sha256").orStr "" } := by
  unfold appendBindReceiptTrustlog at returned
  obtain ⟨previous,reads,r1,rfl,chained,rest⟩ := returns_bind.mp returned
  obtain ⟨hash,_,r2,rfl,hashed,appended⟩ := returns_bind.mp rest
  obtain ⟨rfl,made⟩ := returns_lift.mp hashed
  obtain ⟨_,entry,r3,rfl,rfl,last⟩ := ask_lift_returns appended
  obtain ⟨rfl,rfl⟩ := returns_pure.mp last
  refine ⟨reads,previous,hash,entry,?_,made,rfl,rfl⟩
  unfold previousBindHash at chained
  split at chained
  · obtain ⟨rfl,_⟩ := returns_pure.mp chained
    simp
  · simp only [bind_request,returns_ask,returns_pure,pure_eq] at chained
    obtain ⟨entries,rest,rfl,rfl,_⟩ := chained
    simp [Op.logs]

theorem finalize_keeps (returned : Returns (finalizeReceipt sha256 intent append receipt) trace final) :
    ∃ previous hash trustlogHash, final = { completeReceipt receipt intent with
      prevBindHash := previous, bindReceiptHash := hash, trustlogHash := trustlogHash } := by
  unfold finalizeReceipt at returned
  dsimp only at returned
  split at returned
  · obtain ⟨rfl,rfl⟩ := returns_pure.mp returned
    exact ⟨_,_,_,rfl⟩
  · obtain ⟨_,_,_,_,_,appended⟩ := returns_bind.mp returned
    obtain ⟨_,previous,hash,entry,_,_,_,rfl⟩ := appendBindReceipt_returns appended
    exact ⟨previous,hash,_,rfl⟩

theorem describe_returns {build : Value → α} {result : α}
    (returned : Returns (describeTarget >>= fun target => pure (build target)) trace result) :
    ∃ target, trace = [⟨.describeTarget,.ok target⟩] ∧ result = build target := by
  obtain ⟨target,left,right,rfl,asked,last⟩ := returns_bind.mp returned
  obtain rfl := describeTarget_returns.mp asked
  obtain ⟨rfl,rfl⟩ := returns_pure.mp last
  exact ⟨target,rfl,rfl⟩

theorem boundaryGate_refused {before : Cleared S} (returned : Returns (boundaryGate call before) trace (.inl receipt)) :
    receipt.finalOutcome ≠ .committed := by
  unfold boundaryGate at returned
  obtain ⟨result,left,right,rfl,first,later⟩ := returns_bind.mp returned
  dsimp only at later
  split at later
  · obtain ⟨target,_,same⟩ := describe_returns later
    cases same
    simp [boundaryReceipt,withReceipt]
  · obtain ⟨target,_,same⟩ := describe_returns later
    cases same
    simp [boundaryReceipt,withReceipt]
  · obtain ⟨target,_,same⟩ := describe_returns later
    cases same
    simp [boundaryReceipt,withReceipt]
  · cases (returns_pure.mp later).2

theorem signalGate_refused (returned : Returns (signalGate call ts key base snapshot fingerprint) trace (.inl receipt)) :
    receipt.finalOutcome ≠ .committed := by
  unfold signalGate at returned
  obtain ⟨_,authority,r1,rfl,rfl,askedConstraints⟩ := ask_lift_returns returned
  obtain ⟨_,constraints,r2,rfl,rfl,askedRisk⟩ := ask_lift_returns askedConstraints
  obtain ⟨_,risk,r3,rfl,rfl,signals⟩ := ask_lift_returns askedRisk
  obtain ⟨ttl,_,r4,rfl,lifted,checked⟩ := returns_bind.mp signals
  obtain ⟨admissibility,_,r5,rfl,computed,decided⟩ := returns_bind.mp checked
  dsimp only at decided
  split at decided
  · obtain ⟨target,_,same⟩ := describe_returns decided
    cases same
    simp only [inadmissibleReceipt,withReceipt]
    split <;> simp
  · split at decided
    · obtain ⟨target,_,same⟩ := describe_returns decided
      cases same
      simp only [precedenceReceipt,withReceipt]
      split <;> simp
    · exact boundaryGate_refused decided

theorem clearGates_refused (returned : Returns (clearGates call ts key base : Bind S _) trace (.inl receipt)) :
    receipt.finalOutcome ≠ .committed := by
  unfold clearGates at returned
  split at returned
  · obtain ⟨target,_,same⟩ := describe_returns returned
    cases same
    simp [withReceipt]
  · obtain ⟨outcome,left,right,rfl,seen,later⟩ := returns_bind.mp returned
    cases outcome with
    | error e =>
      simp only at later
      split at later
      · exact (returns_fail.mp later).elim
      · cases (returns_pure.mp later).2
        simp [withReceipt]
    | ok pair => exact signalGate_refused later

def Op.isApply : Op S → Bool
  | .apply _ _ => true
  | _ => false

def Op.settles : Op S → Bool
  | .snapshot | .fingerprintState _ | .verifyPostconditions _ _ | .revert _ _ | .describeTarget => true
  | _ => false

def Settles (op : Op S) : Prop := op.settles = true

theorem described_within (describes : allowed .describeTarget) : Within allowed (described build : Bind S BindReceipt) :=
  within_bind (describeTarget_within describes) fun _ => trivial

theorem described_settles : Within Settles (described build : Bind S BindReceipt) := described_within rfl

theorem observe_settles : Within Settles (observe : Bind S (Except Exc (S × Value))) := observe_within rfl fun _ => rfl

theorem rollbackUnchecked_settles (intent : ExecutionIntent) (cleared : Cleared S) (code : String) (reason : Value) (failure : String) :
    Within Settles (rollbackUnchecked intent cleared code reason failure) := by
  unfold rollbackUnchecked
  refine within_bind ⟨rfl,fun _ => trivial⟩ fun answer => ?_
  cases answer with
  | error e => dsimp only; split <;> first | trivial | exact described_settles
  | ok reverted => dsimp only; split <;> exact described_settles

theorem rollbackAfterVerificationFailure_settles (intent : ExecutionIntent) (cleared : Cleared S) :
    Within Settles (rollbackAfterVerificationFailure intent cleared) := by
  unfold rollbackAfterVerificationFailure
  refine within_bind ⟨rfl,fun _ => trivial⟩ fun answer => ?_
  cases answer with
  | error e => dsimp only; split <;> first | trivial | exact described_settles
  | ok reverted =>
    dsimp only
    split
    · exact described_settles
    · refine within_bind observe_settles fun seen => ?_
      cases seen with
      | error e => dsimp only; split <;> first | trivial | exact described_settles
      | ok pair => exact described_settles

theorem applyFailed_settles (intent : ExecutionIntent) (cleared : Cleared S) (error : Exc) :
    Within Settles (applyFailed intent cleared error) := by
  unfold applyFailed
  split
  · trivial
  · split
    · exact rollbackUnchecked_settles _ _ _ _ _
    · exact described_settles

theorem verifyApplied_settles (intent : ExecutionIntent) (cleared : Cleared S) : Within Settles (verifyApplied intent cleared) := by
  unfold verifyApplied
  refine within_bind (within_bind ⟨rfl,fun _ => trivial⟩ fun _ => within_lift _ _) fun verified => ?_
  split
  · exact rollbackAfterVerificationFailure_settles _ _
  · refine within_bind observe_settles fun seen => ?_
    cases seen with
    | error e => dsimp only; split <;> first | trivial | exact rollbackUnchecked_settles _ _ _ _ _
    | ok pair => exact described_settles

-- The effect is asked for once, first, and never again.
def afterApply (intent : ExecutionIntent) (cleared : Cleared S) : Except Exc Value → Bind S BindReceipt
  | .error error => applyFailed intent cleared error
  | .ok _ => verifyApplied intent cleared

theorem commitStage_ask (intent : ExecutionIntent) (cleared : Cleared S) :
    commitStage intent cleared = .ask (.apply intent cleared.snapshot) (afterApply intent cleared) := by
  have same : ∀ answer : Except Exc Value, (match answer with
      | .error error => applyFailed intent cleared error
      | .ok _ => verifyApplied intent cleared) = afterApply intent cleared answer := by
    intro answer
    cases answer <;> rfl
  exact congrArg (Prog.ask (Op.apply intent cleared.snapshot)) (funext same)

theorem afterApply_settles (intent : ExecutionIntent) (cleared : Cleared S) (answer : Except Exc Value) :
    Within Settles (afterApply intent cleared answer) := by
  cases answer with
  | error e => exact applyFailed_settles _ _ _
  | ok value => exact verifyApplied_settles _ _

theorem settles_once (settles : Settles op) : op.isApply = false ∧ op.logs = false := by
  cases op <;> simp_all [Settles,Op.settles,Op.isApply,Op.logs]

theorem logs_once (logs : op.logs = true) : op.isApply = false := by
  cases op <;> simp_all [Op.logs,Op.isApply]

theorem conclude_once (receipt : BindReceipt) :
    Within (fun op : Op S => op.isApply = false) (finalizeReceipt sha256 call.intent call.appendTrustlog receipt) :=
  (finalizeReceipt_logs _ _ receipt).mono fun _ => logs_once

theorem calls_apply (called : Calls (executeBindAdjudication sha256 call) trace (.apply intent snapshot)) :
    ∃ clearance, Returns (prelude sha256 call) trace (.cleared clearance) ∧ intent = call.intent ∧ snapshot = clearance.snapshot := by
  rcases calls_bind.mp called with early | ⟨stage,left,right,rfl,returned,later⟩
  · exact absurd (early.within (prelude_calm call)) (by simp [Calm,Op.effectful])
  · cases stage with
    | replayed receipt => exact (calls_pure.mp later).elim
    | refused receipt => exact absurd (later.within (conclude_once _)) (by simp [Op.isApply])
    | cleared clearance =>
      simp only [conclude,commitStage_ask,bind_ask,calls_ask] at later
      rcases later with ⟨rfl,same⟩ | ⟨answer,rest,rfl,again⟩
      · cases same
        exact ⟨clearance,by simpa using returned,rfl,rfl⟩
      · have kinds := within_bind (f := finalizeReceipt sha256 call.intent call.appendTrustlog)
          ((afterApply_settles call.intent clearance answer).mono fun _ settles => (settles_once settles).1) conclude_once
        exact absurd (again.within kinds) (by simp [Op.isApply])

theorem described_returns (returned : Returns (described build) trace receipt) :
    ∃ target, trace = [⟨.describeTarget,.ok target⟩] ∧ receipt = build target := describe_returns returned

theorem rollbackUnchecked_outcome {code failure : String} {reason : Value}
    (returned : Returns (rollbackUnchecked intent cleared code reason failure) trace receipt) :
    receipt.finalOutcome = .rolledBack ∨ receipt.finalOutcome = .escalated := by
  unfold rollbackUnchecked at returned
  simp only [bind_request,returns_ask] at returned
  obtain ⟨answer,rest,rfl,later⟩ := returned
  cases answer with
  | error e =>
    dsimp only at later
    split at later
    · exact (returns_fail.mp later).elim
    · obtain ⟨target,_,rfl⟩ := described_returns later
      exact .inr rfl
  | ok reverted =>
    dsimp only at later
    split at later
    · obtain ⟨target,_,rfl⟩ := described_returns later
      exact .inl rfl
    · obtain ⟨target,_,rfl⟩ := described_returns later
      exact .inr rfl

theorem rollbackAfterVerificationFailure_outcome (returned : Returns (rollbackAfterVerificationFailure intent cleared) trace receipt) :
    receipt.finalOutcome = .rolledBack ∨ receipt.finalOutcome = .escalated := by
  unfold rollbackAfterVerificationFailure at returned
  simp only [bind_request,returns_ask] at returned
  obtain ⟨answer,rest,rfl,later⟩ := returned
  cases answer with
  | error e =>
    dsimp only at later
    split at later
    · exact (returns_fail.mp later).elim
    · obtain ⟨target,_,rfl⟩ := described_returns later
      exact .inr rfl
  | ok reverted =>
    dsimp only at later
    split at later
    · obtain ⟨target,_,rfl⟩ := described_returns later
      exact .inr rfl
    · obtain ⟨outcome,left,right,rfl,seen,final⟩ := returns_bind.mp later
      cases outcome with
      | error e =>
        dsimp only at final
        split at final
        · exact (returns_fail.mp final).elim
        · obtain ⟨target,_,rfl⟩ := described_returns final
          exact .inr rfl
      | ok pair =>
        obtain ⟨target,_,rfl⟩ := described_returns final
        exact .inl rfl

structure Verified (intent : ExecutionIntent) (snapshot : S) (trace : Trace S) (post : Value) : Prop where
  answers : ∃ applied verified seen target, trace =
    [⟨.apply intent snapshot,.ok applied⟩,⟨.verifyPostconditions intent snapshot,.ok verified⟩,⟨.snapshot,.ok seen⟩,
      ⟨.fingerprintState seen,.ok post⟩,⟨.describeTarget,.ok target⟩] ∧ verified.truthy = true

theorem commitStage_committed (returned : Returns (commitStage intent cleared) trace receipt)
    (committed : receipt.finalOutcome = .committed) : Verified intent cleared.snapshot trace receipt.liveStateFingerprintAfter ∧
      ∃ post target, receipt = committedReceipt cleared post target := by
  rw [commitStage_ask,returns_ask] at returned
  obtain ⟨answer,rest,rfl,later⟩ := returned
  cases answer with
  | error e =>
    simp only [afterApply,applyFailed] at later
    split at later
    · exact (returns_fail.mp later).elim
    · split at later
      · have outcome := rollbackUnchecked_outcome later
        simp [committed] at outcome
      · obtain ⟨target,_,rfl⟩ := described_returns later
        cases committed
  | ok applied =>
    simp only [afterApply,verifyApplied] at later
    obtain ⟨_,verified,r1,rfl,rfl,checked⟩ := ask_lift_returns later
    split at checked
    · have outcome := rollbackAfterVerificationFailure_outcome checked
      simp [committed] at outcome
    · rename_i held
      obtain ⟨seen,left,right,rfl,looked,final⟩ := returns_bind.mp checked
      cases seen with
      | error e =>
        dsimp only at final
        split at final
        · exact (returns_fail.mp final).elim
        · have outcome := rollbackUnchecked_outcome final
          simp [committed] at outcome
      | ok pair =>
        obtain ⟨snapshot,post⟩ := pair
        obtain rfl := observe_returns.mp looked
        obtain ⟨target,rfl,rfl⟩ := described_returns final
        exact ⟨⟨applied,verified,snapshot,target,rfl,by simpa using held⟩,post,target,rfl⟩

structure SignalsTyped (trace : Trace S) : Prop where
  authority : ∀ intent snapshot signal, ⟨.validateAuthority intent snapshot,.ok signal⟩ ∈ trace → signal = .none ∨ ∃ b, signal = .bool b
  risk : ∀ intent snapshot signal, ⟨.assessRuntimeRisk intent snapshot,.ok signal⟩ ∈ trace → signal = .none ∨ ∃ b, signal = .bool b
  constraints : ∀ intent snapshot signal, ⟨.validateConstraints intent snapshot,.ok signal⟩ ∈ trace →
    signal = .none ∨ ∃ members, signal = .dict members ∧ ∀ member ∈ members, ∃ b, member.2 = .bool b

structure FailClosed (call : Call) (trace : Trace S) (snapshot : S) : Prop where
  identified : call.intent.executionIntentId ≠ "" ∧ call.intent.decisionId ≠ "" ∧ call.intent.targetResource ≠ "" ∧
    call.intent.intendedAction ≠ ""
  decisions : ∀ value ∈ extractBindDecisionValues call.intent, decisionSeverity (.str value) = 1
  answers : ∃ setup boundary ts now fingerprint constraints ttl,
    trace = setup ++ [⟨.snapshot,.ok snapshot⟩,⟨.fingerprintState snapshot,.ok fingerprint⟩,
      ⟨.validateAuthority call.intent snapshot,.ok (.bool true)⟩,⟨.validateConstraints call.intent snapshot,.ok (.dict constraints)⟩,
      ⟨.assessRuntimeRisk call.intent snapshot,.ok (.bool true)⟩] ++ boundary ∧
    (∀ event ∈ setup, event.1.setsUp = true) ∧ TimestampOf call setup ts ∧ BoundaryPassed boundary ∧
    constraints ≠ [] ∧ (∀ member ∈ constraints, member.2 = .bool true) ∧
    ((resolveBindPolicyConfig call.intent).driftRequired = true → ∃ expected, expected ≠ "" ∧
      call.intent.expectedStateFingerprint = some expected ∧ fingerprint = .str expected) ∧ buildTtlExpiry call.intent = .ok ttl ∧
    ((resolveBindPolicyConfig call.intent).ttlRequired = true → ∃ raw, ttl = some raw ∧ raw ≠ "") ∧
    ((resolveBindPolicyConfig call.intent).approvalFreshnessRequired = true →
      ∃ raw, buildApprovalExpiry call.intent = some raw ∧ raw ≠ "") ∧
    parseTimestamp ts = .ok now ∧ NotBefore now ttl ∧ NotBefore now (buildApprovalExpiry call.intent)

theorem true_of_typed {signal : Value} (typed : signal = .none ∨ ∃ b, signal = .bool b)
    (passed : signal ≠ .none ∧ signal ≠ .bool false) : signal = .bool true := by
  rcases typed with rfl | ⟨b,rfl⟩
  · exact absurd rfl passed.1
  · cases b with
    | true => rfl
    | false => exact absurd rfl passed.2

theorem admitted_failClosed (typed : SignalsTyped trace) (admitted : Admitted sha256 call clearance trace ts adapterKey key) :
    FailClosed call trace clearance.snapshot := by
  obtain ⟨setup,gates,base,rfl,calm,time,_,_,passed⟩ := admitted.passage
  obtain ⟨signals,rfl,signalled⟩ := passed.observed
  obtain ⟨authority,constraints,risk,ttl,boundary,rfl,expiry,admits,bounded⟩ := signalled.asked
  obtain ⟨members,dict,some_,held⟩ := admits.constraints
  obtain ⟨now,parsed,ttlFresh,approvalFresh⟩ := admits.fresh
  simp only [admissibilityInput] at dict parsed ttlFresh approvalFresh
  have authorityTrue := true_of_typed (typed.authority call.intent clearance.snapshot authority (by simp)) admits.authority
  have riskTrue := true_of_typed (typed.risk call.intent clearance.snapshot risk (by simp)) admits.risk
  subst authority risk constraints
  have booleans : ∀ member ∈ members, member.2 = .bool true := by
    intro member listed
    rcases typed.constraints call.intent clearance.snapshot (.dict members) (by simp) with none_ | ⟨same,eq,bools⟩
    · cases none_
    · cases eq
      obtain ⟨b,found⟩ := bools member listed
      have truth := held member listed
      rw [found,Value.truthy] at truth
      rw [found,truth]
  exact ⟨passed.identified,signalled.decisions,setup,boundary,ts,now,clearance.fingerprint,members,ttl,by simp,calm,time,
    bounded,some_,booleans,admits.drift,expiry,admits.ttlPresent,admits.approvalPresent,parsed,ttlFresh,approvalFresh⟩

-- How a receipt comes to say COMMITTED: an idempotent replay of a committed receipt,
-- or an apply that returned, postconditions that held and a state that was read back.
def CommitBasis (call : Call) (trace : Trace S) (receipt : BindReceipt) : Prop :=
  (∃ entries duplicate key, ⟨.iterTrustLog,entries⟩ ∈ trace ∧ findDuplicateBindReceipt entries call.intent key = some duplicate ∧
    duplicate.finalOutcome = .committed ∧ receipt = replayedReceipt duplicate key) ∨
  ∃ before effect log snapshot, trace = before ++ effect ++ log ∧ FailClosed call before snapshot ∧
    Verified call.intent snapshot effect receipt.liveStateFingerprintAfter ∧ ∀ event ∈ log, event.1.logs = true

theorem prelude_replayed (returned : Returns (prelude sha256 call : Bind S (Stage S)) trace (.replayed receipt)) :
    ∃ entries duplicate key, ⟨.iterTrustLog,entries⟩ ∈ trace ∧ findDuplicateBindReceipt entries call.intent key = some duplicate ∧
      receipt = replayedReceipt duplicate key := by
  unfold prelude at returned
  obtain ⟨ts,l1,r1,rfl,stamped,keyed⟩ := returns_bind.mp returned
  obtain ⟨_,rawKey,r2,rfl,rfl,looked⟩ := ask_lift_returns keyed
  obtain ⟨found,l3,r3,rfl,searched,rest⟩ := returns_bind.mp looked
  cases found with
  | some duplicate =>
    obtain ⟨_,same⟩ := returns_pure.mp rest
    cases same
    obtain ⟨_,_,replay⟩ := lookupDuplicate_returns searched
    obtain ⟨entries,rfl,hit⟩ := replay duplicate rfl
    exact ⟨entries,duplicate,_,by simp,hit,rfl⟩
  | none =>
    obtain ⟨base,l4,r4,rfl,based,gated⟩ := returns_bind.mp rest
    obtain ⟨outcome,l5,r5,rfl,passed,last⟩ := returns_bind.mp gated
    cases outcome <;> cases (returns_pure.mp last).2

theorem prelude_refused (returned : Returns (prelude sha256 call : Bind S (Stage S)) trace (.refused receipt)) :
    receipt.finalOutcome ≠ .committed := by
  unfold prelude at returned
  obtain ⟨ts,l1,r1,rfl,stamped,keyed⟩ := returns_bind.mp returned
  obtain ⟨_,rawKey,r2,rfl,rfl,looked⟩ := ask_lift_returns keyed
  obtain ⟨found,l3,r3,rfl,searched,rest⟩ := returns_bind.mp looked
  cases found with
  | some duplicate => cases (returns_pure.mp rest).2
  | none =>
    obtain ⟨base,l4,r4,rfl,based,gated⟩ := returns_bind.mp rest
    obtain ⟨outcome,l5,r5,rfl,passed,last⟩ := returns_bind.mp gated
    cases outcome with
    | inl refused =>
      cases (returns_pure.mp last).2
      exact clearGates_refused passed
    | inr cleared => cases (returns_pure.mp last).2

theorem returns_committed (typed : SignalsTyped trace) (returned : Returns (executeBindAdjudication sha256 call) trace receipt)
    (committed : receipt.finalOutcome = .committed) : CommitBasis call trace receipt := by
  obtain ⟨stage,left,right,rfl,staged,later⟩ := returns_bind.mp returned
  cases stage with
  | replayed replay =>
    obtain ⟨rfl,rfl⟩ := returns_pure.mp later
    obtain ⟨entries,duplicate,key,read,hit,rfl⟩ := prelude_replayed staged
    exact .inl ⟨entries,duplicate,key,by simpa using read,hit,committed,rfl⟩
  | refused refusal =>
    obtain ⟨_,_,_,rfl⟩ := finalize_keeps later
    exact absurd (show refusal.finalOutcome = .committed from committed) (prelude_refused staged)
  | cleared clearance =>
    obtain ⟨applied,effect,log,rfl,performed,final⟩ := returns_bind.mp later
    obtain ⟨_,_,_,rfl⟩ := finalize_keeps final
    obtain ⟨ts,adapterKey,key,admitted⟩ := prelude_cleared staged
    have early : SignalsTyped left :=
      ⟨fun i s v m => typed.authority i s v (by simp [m]),fun i s v m => typed.risk i s v (by simp [m]),
        fun i s v m => typed.constraints i s v (by simp [m])⟩
    have basis := (commitStage_committed performed (show applied.finalOutcome = .committed from committed)).1
    exact .inr ⟨left,effect,log,clearance.snapshot,by simp,admitted_failClosed early admitted,basis,(Leads.within final (finalizeReceipt_logs _ _ _)).1⟩

theorem fail_closed_commit (sha256 : String → String) (call : Call) (trace : Trace S) (typed : SignalsTyped trace) :
    (∀ intent snapshot, Calls (executeBindAdjudication sha256 call) trace (.apply intent snapshot) →
        intent = call.intent ∧ FailClosed call trace snapshot) ∧
      ∀ receipt, Returns (executeBindAdjudication sha256 call) trace receipt → receipt.finalOutcome = .committed →
        CommitBasis call trace receipt := by
  refine ⟨?_,fun receipt returned committed => returns_committed typed returned committed⟩
  intro intent snapshot called
  obtain ⟨clearance,staged,rfl,rfl⟩ := calls_apply called
  obtain ⟨ts,adapterKey,key,admitted⟩ := prelude_cleared staged
  exact ⟨rfl,admitted_failClosed typed admitted⟩

def sampleIntent : ExecutionIntent :=
  { executionIntentId := "intent-1"
    decisionId := "decision-1"
    targetResource := "config"
    intendedAction := "update"
    expectedStateFingerprint := some "state-1" }

def sampleCall : Call :=
  { intent := sampleIntent
    bindTs := some "2024-01-01T00:00:00Z"
    bindReceiptId := some "receipt-1" }

def sampleTrace : Trace Unit :=
  [⟨.buildIdempotencyKey sampleIntent,.ok (.str "key-1")⟩,⟨.iterTrustLog,[]⟩,
   ⟨.snapshot,.ok ()⟩,⟨.fingerprintState (),.ok (.str "state-1")⟩,⟨.validateAuthority sampleIntent (),.ok (.bool true)⟩,
   ⟨.validateConstraints sampleIntent (),.ok (.dict [(.str "window",.bool true)])⟩,⟨.assessRuntimeRisk sampleIntent (),.ok (.bool true)⟩]

theorem sampleTrace_typed : SignalsTyped sampleTrace := by
  constructor
  · intro intent snapshot signal listed
    simp only [sampleTrace,List.mem_cons,Sigma.mk.injEq,reduceCtorEq,List.not_mem_nil,false_and,or_false,false_or] at listed
    obtain ⟨same,value⟩ := listed
    cases same
    cases value
    exact .inr ⟨true,rfl⟩
  · intro intent snapshot signal listed
    simp only [sampleTrace,List.mem_cons,Sigma.mk.injEq,reduceCtorEq,List.not_mem_nil,false_and,or_false,false_or] at listed
    obtain ⟨same,value⟩ := listed
    cases same
    cases value
    exact .inr ⟨true,rfl⟩
  · intro intent snapshot signal listed
    simp only [sampleTrace,List.mem_cons,Sigma.mk.injEq,reduceCtorEq,List.not_mem_nil,false_and,or_false,false_or] at listed
    obtain ⟨same,value⟩ := listed
    cases same
    cases value
    exact .inr ⟨_,rfl,by simp⟩

theorem sample_calls_apply : Calls (executeBindAdjudication (fun s => s) sampleCall) sampleTrace (.apply sampleIntent ()) :=
  ⟨_,.more (.more (.more (.more (.more (.more (.more (.done _)))))))⟩

theorem fail_closed_commit_sample : Calls (executeBindAdjudication (fun s => s) sampleCall) sampleTrace (.apply sampleIntent ()) ∧
      FailClosed sampleCall sampleTrace () :=
  ⟨sample_calls_apply,((fail_closed_commit _ sampleCall sampleTrace sampleTrace_typed).1 _ _ sample_calls_apply).2⟩

end VeritasOs.BindCore
