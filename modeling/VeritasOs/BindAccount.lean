import VeritasOs.BindCommit

namespace VeritasOs.BindCore
open Text DateTime Interaction BindArtifacts BindAdmissibility DecisionSemantics

variable {S : Type} {sha256 : String → String}

def adapterError : Event (Ans S) → Option Exc
  | ⟨.buildIdempotencyKey _,.error error⟩ => some error
  | ⟨.snapshot,.error error⟩ => some error
  | ⟨.fingerprintState _,.error error⟩ => some error
  | ⟨.validateAuthority _ _,.error error⟩ => some error
  | ⟨.validateConstraints _ _,.error error⟩ => some error
  | ⟨.assessRuntimeRisk _ _,.error error⟩ => some error
  | ⟨.apply _ _,.error error⟩ => some error
  | ⟨.verifyPostconditions _ _,.error error⟩ => some error
  | ⟨.revert _ _,.error error⟩ => some error
  | ⟨.describeTarget,.error error⟩ => some error
  | _ => none

def HandledOnly (trace : Trace S) : Prop := ∀ event ∈ trace, ∀ error, adapterError event = some error → error.handled = true

theorem HandledOnly.left {left right : Trace S} (handled : HandledOnly (left ++ right)) : HandledOnly left :=
  fun event listed => handled event (by simp [listed])

theorem HandledOnly.right {left right : Trace S} (handled : HandledOnly (left ++ right)) : HandledOnly right :=
  fun event listed => handled event (by simp [listed])

variable {event : Event (Ans S)} {trace : Trace S} {error : Exc} {intent : ExecutionIntent} {cleared : Cleared S} {codes : List String}
variable {target : Value} {before : Trace S} {receipt : BindReceipt} {call : Call} {final : BindReceipt}

theorem HandledOnly.tail (handled : HandledOnly (event :: rest)) : HandledOnly rest :=
  fun other listed => handled other (by simp [listed])

def Op.isRevert : Op S → Bool
  | .revert _ _ => true
  | _ => false

-- The two adapter calls after the effect that no exception handler surrounds.
def escapingError : Event (Ans S) → Option Exc
  | ⟨.verifyPostconditions _ _,.error error⟩ => some error
  | ⟨.describeTarget,.error error⟩ => some error
  | _ => none

def Quiet (trace : Trace S) : Prop := ∀ event ∈ trace, escapingError event = none

-- The answers a receipt stores as they are.
def recordedAnswer : Event (Ans S) → Option Value
  | ⟨.fingerprintState _,.ok answer⟩ => some answer
  | ⟨.describeTarget,.ok answer⟩ => some answer
  | _ => none

def AnswersRecordable (trace : Trace S) : Prop := ∀ event ∈ trace, ∀ answer, recordedAnswer event = some answer → Recordable answer

def appendError : Event (Ans S) → Option Exc
  | ⟨.appendTrustLog _,.error error⟩ => some error
  | _ => none

def AppendsSucceed (trace : Trace S) : Prop := ∀ event ∈ trace, appendError event = none

theorem describeTarget_raises (raised : Raises describeTarget trace error) : trace = [⟨.describeTarget,.error error⟩] := by
  unfold describeTarget at raised
  simp only [bind_request,raises_ask,raises_lift] at raised
  obtain ⟨answer,rest,rfl,rfl,rfl⟩ := raised
  rfl

theorem described_raises (raised : Raises (described build) trace error) : trace = [⟨.describeTarget,.error error⟩] := by
  rcases raises_bind.mp raised with first | ⟨_,_,_,_,_,last⟩
  · exact describeTarget_raises first
  · exact (raises_pure.mp last).elim

theorem observe_error (returned : Returns observe trace (.error error)) :
    trace = [⟨.snapshot,.error error⟩] ∨ ∃ snapshot, trace = [⟨.snapshot,.ok snapshot⟩,⟨.fingerprintState snapshot,.error error⟩] := by
  unfold observe at returned
  simp only [bind_request,returns_ask] at returned
  obtain ⟨answer,rest,rfl,later⟩ := returned
  cases answer with
  | error e =>
    obtain ⟨rfl,same⟩ := returns_pure.mp later
    cases same
    exact .inl rfl
  | ok snapshot =>
    simp only [returns_ask] at later
    obtain ⟨answer,rest,rfl,final⟩ := later
    cases answer with
    | error e =>
      obtain ⟨rfl,same⟩ := returns_pure.mp final
      cases same
      exact .inr ⟨snapshot,rfl⟩
    | ok print => cases (returns_pure.mp final).2

theorem observe_raises : ¬Raises (observe : Bind S _) trace error := by
  intro raised
  unfold observe at raised
  simp only [bind_request,raises_ask] at raised
  obtain ⟨answer,rest,rfl,later⟩ := raised
  cases answer with
  | error e => exact raises_pure.mp later
  | ok snapshot =>
    simp only [raises_ask] at later
    obtain ⟨answer,rest,rfl,final⟩ := later
    cases answer <;> exact raises_pure.mp final

theorem observe_unhandled (handled : HandledOnly trace) (returned : Returns observe trace (.error error)) : ¬(!error.handled) = true := by
  have caught : error.handled = true := by
    rcases observe_error returned with rfl | ⟨snapshot,rfl⟩
    · exact handled ⟨.snapshot,.error error⟩ (by simp) error rfl
    · exact handled ⟨.fingerprintState snapshot,.error error⟩ (by simp) error rfl
  simp [caught]

-- An exception leaves the commit stage only through a postcondition check or a
-- target description that raised.
def Unguarded (trace : Trace S) : Prop := ∃ event ∈ trace, ∃ error, escapingError event = some error

theorem Unguarded.within {inner : Trace S} (loud : Unguarded inner) (included : ∀ event ∈ inner, event ∈ trace) : Unguarded trace := by
  obtain ⟨event,listed,raised⟩ := loud
  exact ⟨event,included event listed,raised⟩

theorem unguarded_described (error : Exc) (raised : ⟨.describeTarget,.error error⟩ ∈ trace) :
    Unguarded trace := ⟨⟨.describeTarget,.error error⟩,raised,error,rfl⟩

theorem rollbackUnchecked_raises {code failure : String} {reason : Value} (handled : HandledOnly trace)
    (raised : Raises (rollbackUnchecked intent cleared code reason failure) trace error) : Unguarded trace := by
  unfold rollbackUnchecked at raised
  simp only [bind_request,raises_ask] at raised
  obtain ⟨answer,rest,rfl,later⟩ := raised
  cases answer with
  | error e =>
    have guarded := handled _ List.mem_cons_self e rfl
    simp only [guarded,Bool.not_true,Bool.false_eq_true,if_false] at later
    obtain rfl := described_raises later
    exact unguarded_described error (by simp)
  | ok reverted =>
    dsimp only at later
    split at later
    · obtain rfl := described_raises later
      exact unguarded_described error (by simp)
    · obtain rfl := described_raises later
      exact unguarded_described error (by simp)

theorem rollbackAfterVerificationFailure_raises (handled : HandledOnly trace)
    (raised : Raises (rollbackAfterVerificationFailure intent cleared) trace error) : Unguarded trace := by
  unfold rollbackAfterVerificationFailure at raised
  simp only [bind_request,raises_ask] at raised
  obtain ⟨answer,rest,rfl,later⟩ := raised
  cases answer with
  | error e =>
    have guarded := handled _ List.mem_cons_self e rfl
    simp only [guarded,Bool.not_true,Bool.false_eq_true,if_false] at later
    obtain rfl := described_raises later
    exact unguarded_described error (by simp)
  | ok reverted =>
    dsimp only at later
    split at later
    · obtain rfl := described_raises later
      exact unguarded_described error (by simp)
    · rcases raises_bind.mp later with first | ⟨seen,left,right,rfl,looked,final⟩
      · exact (observe_raises first).elim
      · cases seen with
        | error e =>
          dsimp only at final
          rw [if_neg (observe_unhandled handled.tail.left looked)] at final
          obtain rfl := described_raises final
          exact unguarded_described error (by simp)
        | ok pair =>
          obtain rfl := described_raises final
          exact unguarded_described error (by simp)

theorem commitStage_raises (handled : HandledOnly trace) (raised : Raises (commitStage intent cleared) trace error) : Unguarded trace := by
  rw [commitStage_ask,raises_ask] at raised
  obtain ⟨answer,rest,rfl,later⟩ := raised
  cases answer with
  | error e =>
    have guarded := handled _ List.mem_cons_self e rfl
    simp only [afterApply,applyFailed,guarded,Bool.not_true,Bool.false_eq_true,if_false] at later
    split at later
    · exact (rollbackUnchecked_raises handled.tail later).within fun _ listed => List.mem_cons_of_mem _ listed
    · obtain rfl := described_raises later
      exact unguarded_described error (by simp)
  | ok applied =>
    simp only [afterApply,verifyApplied] at later
    rcases raises_bind.mp later with first | ⟨verified,left,right,rfl,checked,final⟩
    · simp only [bind_request,raises_ask,raises_lift] at first
      obtain ⟨answer,rest,rfl,rfl,rfl⟩ := first
      exact ⟨⟨.verifyPostconditions intent cleared.snapshot,.error error⟩,by simp,error,rfl⟩
    · split at final
      · exact (rollbackAfterVerificationFailure_raises handled.tail.right final).within fun _ listed => by simp [listed]
      · rcases raises_bind.mp final with early | ⟨seen,left,right,rfl,looked,last⟩
        · exact (observe_raises early).elim
        · cases seen with
          | error e =>
            dsimp only at last
            rw [if_neg (observe_unhandled handled.tail.right.left looked)] at last
            exact (rollbackUnchecked_raises handled.tail.right.right last).within fun _ listed => by simp [listed]
          | ok pair =>
            obtain rfl := described_raises last
            exact unguarded_described error (by simp)

-- The parts of a clearance that do not come from the adapter can always be written.
structure Sound (cleared : Cleared S) : Prop where
  authority : Recordable (.dict cleared.checks.authority)
  constraint : Recordable (.dict cleared.checks.constraint)
  drift : Recordable (.dict cleared.checks.drift)
  risk : Recordable (.dict cleared.checks.risk)
  governance : Recordable (optDict cleared.base.governanceIdentity)
  context : Recordable (.dict cleared.base.revalidationContext)
  chain : cleared.base.prevBindHash = .none
  after : cleared.base.liveStateFingerprintAfter = .str ""
  escalation : cleared.base.escalationReason = .none
  rollback : cleared.base.rollbackReason = .none
  plain : Recordable (.dict cleared.base.regulated.toDict)
  regulated : Recordable (.dict (cleared.regulated cleared.base.regulated).toDict)
  status : cleared.base.labels.rollbackStatus = none

theorem admissibilityDict_recordable : Recordable (.dict (admissibilityDict admissible recommended codes target)) ↔ Recordable target := by
  rw [recordable_dict (by simp [StrKeys,admissibilityDict,field])]
  have texts : Recordable (strList codes) := by
    rw [strList,recordable_list]
    simp
  simp [admissibilityDict,field,texts]

theorem appliedReceipt_recordable (sound : Sound cleared) (first : Recordable rollback) (second : Recordable escalation) :
    (∀ value ∈ (appliedReceipt cleared codes outcome rollback escalation target).objects, Recordable value) ↔
      Recordable cleared.fingerprint ∧ Recordable target := by
  simp [BindReceipt.objects,appliedReceipt,withReceipt,admissibilityDict_recordable,sound.authority,sound.constraint,
    sound.drift,sound.risk,sound.governance,sound.context,sound.chain,sound.after,sound.plain,first,second]

-- A receipt from the commit stage: quiet answers, a rollback for every outcome but a
-- commit and an apply failure, and nothing unwritable but the adapter's answers.
structure Performed (cleared : Cleared S) (trace : Trace S) (receipt : BindReceipt) : Prop where
  quiet : Quiet trace
  accounted : receipt.finalOutcome = .committed ∨ receipt.finalOutcome = .applyFailed ∨ ∃ event ∈ trace, event.1.isRevert = true
  labels : receipt.labels = cleared.base.labels.renew
  chain : receipt.prevBindHash = .none
  recordable : (∀ value ∈ receipt.objects, Recordable value) ↔ Recordable cleared.fingerprint ∧ AnswersRecordable trace
  revalidation : receipt.revalidationContext = cleared.base.revalidationContext
  identity : receipt.executionIntentId = cleared.base.executionIntentId ∧ receipt.decisionId = cleared.base.decisionId

theorem Performed.applied (sound : Sound cleared) (first : Recordable rollback)
    (second : Recordable escalation) (quiet : Quiet before) (silent : ∀ event ∈ before, recordedAnswer event = none)
    (accounted : outcome = .committed ∨ outcome = .applyFailed ∨ ∃ event ∈ before, event.1.isRevert = true) :
    Performed cleared (before ++ [⟨.describeTarget,.ok target⟩]) (appliedReceipt cleared codes outcome rollback escalation target) where
  quiet := by
    intro event listed
    rcases List.mem_append.mp listed with early | last
    · exact quiet event early
    · obtain rfl := List.mem_singleton.mp last
      rfl
  accounted := by
    rcases accounted with committed | failed | ⟨event,listed,revert⟩
    · exact .inl committed
    · exact .inr (.inl failed)
    · exact .inr (.inr ⟨event,by simp [listed],revert⟩)
  labels := rfl
  chain := sound.chain
  recordable := by
    rw [appliedReceipt_recordable sound first second]
    refine and_congr_right fun _ => ?_
    constructor
    · intro written event listed answer found
      rcases List.mem_append.mp listed with early | last
      · simp [silent event early] at found
      · obtain rfl := List.mem_singleton.mp last
        cases found
        exact written
    · intro written
      exact written ⟨.describeTarget,.ok target⟩ (by simp) target rfl
  revalidation := rfl
  identity := ⟨rfl,rfl⟩

theorem rollbackUnchecked_performed (sound : Sound cleared) {code failure : String} {reason : Value} (first : Recordable reason)
    (before : Trace S) (returned : Returns (rollbackUnchecked intent cleared code reason failure) trace receipt) (quiet : Quiet before)
    (silent : ∀ event ∈ before, recordedAnswer event = none) : Performed cleared (before ++ trace) receipt := by
  unfold rollbackUnchecked at returned
  simp only [bind_request,returns_ask] at returned
  obtain ⟨answer,rest,rfl,later⟩ := returned
  have whole : Quiet (before ++ [⟨.revert intent cleared.snapshot,answer⟩]) := by
    intro event listed
    rcases List.mem_append.mp listed with early | last
    · exact quiet event early
    · obtain rfl := List.mem_singleton.mp last
      rfl
  have still : ∀ event ∈ before ++ [⟨.revert intent cleared.snapshot,answer⟩], recordedAnswer event = none := by
    intro event listed
    rcases List.mem_append.mp listed with early | last
    · exact silent event early
    · obtain rfl := List.mem_singleton.mp last
      rfl
  have reverted : ∃ event ∈ before ++ [⟨.revert intent cleared.snapshot,answer⟩], event.1.isRevert = true :=
    ⟨⟨.revert intent cleared.snapshot,answer⟩,by simp,rfl⟩
  have close : ∀ {outcome escalation}, Recordable escalation →
      Returns (described (appliedReceipt cleared [code] outcome reason escalation)) rest receipt →
      Performed cleared (before ++ ⟨.revert intent cleared.snapshot,answer⟩ :: rest) receipt := by
    intro outcome escalation second last
    obtain ⟨target,rfl,rfl⟩ := described_returns last
    simpa using Performed.applied sound first second whole still (.inr (.inr reverted))
  cases answer with
  | error e =>
    dsimp only at later
    split at later
    · exact (returns_fail.mp later).elim
    · exact close (recordable_str _) later
  | ok word =>
    dsimp only at later
    split at later
    · exact close (by rw [sound.escalation]; exact recordable_none) later
    · exact close (recordable_str _) later

theorem restoredReceipt_recordable (sound : Sound cleared) : (∀ value ∈ (restoredReceipt cleared post target).objects, Recordable value) ↔
      Recordable cleared.fingerprint ∧ Recordable post ∧ Recordable target := by
  simp [BindReceipt.objects,restoredReceipt,appliedReceipt,withReceipt,admissibilityDict_recordable,sound.authority,
    sound.constraint,sound.drift,sound.risk,sound.governance,sound.context,sound.chain,sound.plain,sound.escalation]

theorem committedReceipt_recordable (sound : Sound cleared) : (∀ value ∈ (committedReceipt cleared post target).objects, Recordable value) ↔
      Recordable cleared.fingerprint ∧ Recordable post ∧ Recordable target := by
  simp [BindReceipt.objects,committedReceipt,withReceipt,admissibilityDict_recordable,sound.authority,sound.constraint,
    sound.drift,sound.risk,sound.governance,sound.context,sound.chain,sound.regulated,sound.escalation,sound.rollback]

theorem reread_recordable (silent : ∀ event ∈ before, recordedAnswer event = none) (snapshot : S) (post target : Value) :
    AnswersRecordable (before ++ [⟨.snapshot,.ok snapshot⟩,⟨.fingerprintState snapshot,.ok post⟩,⟨.describeTarget,.ok target⟩]) ↔
      Recordable post ∧ Recordable target := by
  constructor
  · intro written
    exact ⟨written ⟨.fingerprintState snapshot,.ok post⟩ (by simp) post rfl,written ⟨.describeTarget,.ok target⟩ (by simp) target rfl⟩
  · rintro ⟨first,second⟩ event listed answer found
    simp only [List.mem_append,List.mem_cons,List.not_mem_nil,or_false] at listed
    rcases listed with early | rfl | rfl | rfl
    · simp [silent event early] at found
    · cases found
    · cases found
      exact first
    · cases found
      exact second

theorem rollbackAfterVerificationFailure_performed (sound : Sound cleared) (quiet : Quiet before)
    (silent : ∀ event ∈ before, recordedAnswer event = none)
    (returned : Returns (rollbackAfterVerificationFailure intent cleared) trace receipt) : Performed cleared (before ++ trace) receipt := by
  unfold rollbackAfterVerificationFailure at returned
  simp only [bind_request,returns_ask] at returned
  obtain ⟨answer,rest,rfl,later⟩ := returned
  have whole : ∀ {more : Trace S}, Quiet more → Quiet (before ++ ⟨.revert intent cleared.snapshot,answer⟩ :: more) := by
    intro more calm event listed
    simp only [List.mem_append,List.mem_cons] at listed
    rcases listed with early | rfl | late
    · exact quiet event early
    · rfl
    · exact calm event late
  have still : ∀ more : Trace S, (∀ event ∈ more, recordedAnswer event = none) →
      ∀ event ∈ before ++ ⟨.revert intent cleared.snapshot,answer⟩ :: more, recordedAnswer event = none := by
    intro more calm event listed
    simp only [List.mem_append,List.mem_cons] at listed
    rcases listed with early | rfl | late
    · exact silent event early
    · rfl
    · exact calm event late
  have reverted : ∀ {more : Trace S}, ∃ event ∈ before ++ ⟨.revert intent cleared.snapshot,answer⟩ :: more, event.1.isRevert = true :=
    ⟨⟨.revert intent cleared.snapshot,answer⟩,by simp,rfl⟩
  have close : ∀ (seen : Trace S) {text : String} {after : Trace S}, Quiet seen → (∀ event ∈ seen, recordedAnswer event = none) →
      Returns (described (appliedReceipt cleared ["BIND_POSTCONDITION_FAILED"] .escalated (.str "BIND_POSTCONDITION_FAILED")
        (.str text))) after receipt →
      Performed cleared (before ++ ⟨.revert intent cleared.snapshot,answer⟩ :: (seen ++ after)) receipt := by
    intro seen text after calm unread last
    obtain ⟨target,rfl,rfl⟩ := described_returns last
    simpa using Performed.applied sound (recordable_str _) (recordable_str _) (whole calm) (still seen unread)
      (.inr (.inr reverted))
  cases answer with
  | error e =>
    dsimp only at later
    split at later
    · exact (returns_fail.mp later).elim
    · exact close [] (by simp [Quiet]) (by simp) later
  | ok word =>
    dsimp only at later
    split at later
    · exact close [] (by simp [Quiet]) (by simp) later
    · obtain ⟨outcome,seen,after,rfl,looked,final⟩ := returns_bind.mp later
      cases outcome with
      | error e =>
        dsimp only at final
        split at final
        · exact (returns_fail.mp final).elim
        · rcases observe_error looked with rfl | ⟨snapshot,rfl⟩
          · exact close _ (by simp [Quiet,escapingError]) (by simp [recordedAnswer]) final
          · exact close _ (by simp [Quiet,escapingError]) (by simp [recordedAnswer]) final
      | ok pair =>
        obtain ⟨snapshot,post⟩ := pair
        obtain rfl := observe_returns.mp looked
        obtain ⟨target,rfl,rfl⟩ := described_returns final
        refine ⟨whole (by simp [Quiet,escapingError]),.inr (.inr reverted),rfl,sound.chain,?_,rfl,rfl,rfl⟩
        rw [restoredReceipt_recordable sound]
        refine and_congr_right fun _ => ?_
        simpa using (reread_recordable (still [] (by simp)) snapshot post target).symm

theorem commitStage_performed (sound : Sound cleared) (returned : Returns (commitStage intent cleared) trace receipt) :
    Performed cleared trace receipt := by
  rw [commitStage_ask,returns_ask] at returned
  obtain ⟨answer,rest,rfl,later⟩ := returned
  have quiet : Quiet [(⟨.apply intent cleared.snapshot,answer⟩ : Event (Ans S))] := by simp [Quiet,escapingError]
  have silent : ∀ event ∈ [(⟨.apply intent cleared.snapshot,answer⟩ : Event (Ans S))], recordedAnswer event = none := by
    simp [recordedAnswer]
  cases answer with
  | error e =>
    simp only [afterApply,applyFailed] at later
    split at later
    · exact (returns_fail.mp later).elim
    · split at later
      · exact rollbackUnchecked_performed sound (recordable_str _) [_] later quiet silent
      · obtain ⟨target,rfl,rfl⟩ := described_returns later
        exact Performed.applied sound (recordable_str _) (by rw [sound.escalation]; exact recordable_none) quiet silent
          (.inr (.inl rfl))
  | ok applied =>
    simp only [afterApply,verifyApplied] at later
    obtain ⟨_,verified,r1,rfl,rfl,checked⟩ := ask_lift_returns later
    have calm : Quiet [(⟨.apply intent cleared.snapshot,.ok applied⟩ : Event (Ans S)),
        ⟨.verifyPostconditions intent cleared.snapshot,.ok verified⟩] := by simp [Quiet,escapingError]
    have unread : ∀ event ∈ [(⟨.apply intent cleared.snapshot,.ok applied⟩ : Event (Ans S)),
        ⟨.verifyPostconditions intent cleared.snapshot,.ok verified⟩], recordedAnswer event = none := by simp [recordedAnswer]
    split at checked
    · exact rollbackAfterVerificationFailure_performed sound calm unread checked
    · obtain ⟨seen,left,right,rfl,looked,final⟩ := returns_bind.mp checked
      cases seen with
      | error e =>
        dsimp only at final
        split at final
        · exact (returns_fail.mp final).elim
        · rcases observe_error looked with rfl | ⟨snapshot,rfl⟩
          · exact rollbackUnchecked_performed sound (recordable_str _) [_,_,_] final
              (by simp [Quiet,escapingError]) (by simp [recordedAnswer])
          · exact rollbackUnchecked_performed sound (recordable_str _) [_,_,_,_] final
              (by simp [Quiet,escapingError]) (by simp [recordedAnswer])
      | ok pair =>
        obtain ⟨snapshot,post⟩ := pair
        obtain rfl := observe_returns.mp looked
        obtain ⟨target,rfl,rfl⟩ := described_returns final
        refine ⟨by simp [Quiet,escapingError],.inl rfl,rfl,sound.chain,?_,rfl,rfl,rfl⟩
        rw [committedReceipt_recordable sound]
        refine and_congr_right fun _ => ?_
        exact (reread_recordable unread snapshot post target).symm

theorem checkFromRuntime_recordable (check : CheckResult) : Recordable (.dict (checkFromRuntime check)) := by
  rw [recordable_dict (by simp [StrKeys,checkFromRuntime,checkDict,field])]
  simp [checkFromRuntime,checkDict,field]

theorem revalidation_recordable (intent : ExecutionIntent) (policy : BindPolicyConfig) (ttl approval : Option String) (key : String) :
    Recordable (.dict (buildRevalidationContext intent policy ttl approval key)) := by
  rw [recordable_dict (by simp [StrKeys,buildRevalidationContext,field])]
  simp [buildRevalidationContext,field]

theorem predicates_recordable (predicates : List PredicateResult) : Recordable (dictList (predicates.map predicateToDict)) := by
  rw [dictList,recordable_list]
  intro item listed
  simp only [List.mem_map] at listed
  obtain ⟨_,⟨predicate,_,rfl⟩,rfl⟩ := listed
  rw [recordable_dict (by simp [StrKeys,predicateToDict,field])]
  have metadata : Recordable (.dict predicate.metadata) := predicate.encodable
  simpa [predicateToDict,field] using metadata

theorem optional_recordable (writes : ∀ found, value = some found → Recordable found) :
    ∀ member ∈ optionalField name value, Recordable member.2 := by
  intro member listed
  simp only [optionalField,Option.mem_toList,Option.map_eq_some_iff] at listed
  obtain ⟨found,same,rfl⟩ := listed
  exact writes found same

theorem strList_recordable (items : List String) : Recordable (strList items) := by
  rw [strList,recordable_list]
  simp

theorem optional_map (name : String) (value : Option α) (writes : ∀ found, value = some found → Recordable (write found)) :
    ∀ member ∈ optionalField name (value.map write), Recordable member.2 :=
  optional_recordable fun found same => by
    obtain ⟨item,present,rfl⟩ := Option.map_eq_some_iff.mp same
    exact writes item present

theorem regulated_writes (fields : Regulated)
    (admissibility : ∀ items, fields.admissibilityPredicates = some items → Recordable (dictList items))
    (failed : ∀ items, fields.failedPredicates = some items → Recordable (dictList items))
    (stale : ∀ items, fields.stalePredicates = some items → Recordable (dictList items))
    (missing : ∀ items, fields.missingPredicates = some items → Recordable (dictList items))
    (summary : ∀ members, fields.authorityEvidenceSummary = some members → Recordable (.dict members)) :
    Recordable (.dict fields.toDict) := by
  rw [recordable_dict (regulated_named fields)]
  have texts : ∀ name (value : Option String), ∀ member ∈ optionalField name (value.map .str), Recordable member.2 :=
    fun name value => optional_map name value fun found _ => recordable_str found
  have lists : ∀ name (value : Option (List String)), ∀ member ∈ optionalField name (value.map strList), Recordable member.2 :=
    fun name value => optional_map name value fun found _ => strList_recordable found
  simp only [Regulated.toDict,List.forall_mem_append]
  exact ⟨⟨⟨⟨⟨⟨⟨⟨⟨⟨⟨⟨⟨⟨texts _ _,texts _ _⟩,texts _ _⟩,texts _ _⟩,texts _ _⟩,texts _ _⟩,optional_map _ _ admissibility⟩,
    optional_map _ _ failed⟩,optional_map _ _ stale⟩,optional_map _ _ missing⟩,texts _ _⟩,texts _ _⟩,lists _ _⟩,lists _ _⟩,
    optional_map _ _ summary⟩

theorem regulated_recordable (context : Dict) (result : Option CommitBoundaryResult) :
    Recordable (.dict (regulatedReceiptUpdates context result {}).toDict) := by
  unfold regulatedReceiptUpdates
  split
  · apply regulated_writes <;> simp
  · cases result with
    | none => apply regulated_writes <;> simp
    | some result =>
      apply regulated_writes
      · rintro items ⟨⟩
        exact predicates_recordable _
      · rintro items ⟨⟩
        exact predicates_recordable _
      · rintro items ⟨⟩
        exact predicates_recordable _
      · rintro items ⟨⟩
        exact predicates_recordable _
      · rintro members ⟨⟩
        rw [recordable_dict (by simp [StrKeys,field])]
        simp [field]

theorem intent_recordable {hash : String} (hashed : hashExecutionIntent sha256 intent = .ok hash) : Recordable (.dict intent.toDict) := by
  rw [← canonical_recordable]
  unfold hashExecutionIntent sha256OfCanonicalJson at hashed
  split at hashed
  · cases hashed
  · simp [*]

theorem governance_recordable {hash : String} (hashed : hashExecutionIntent sha256 intent = .ok hash) :
    Recordable (optDict (extractGovernanceIdentity intent)) := by
  have written := intent_recordable hashed
  unfold extractGovernanceIdentity
  cases lineage : intent.policyLineage with
  | none => exact recordable_none
  | some members =>
    have listed : field "policy_lineage" (optDict intent.policyLineage) ∈ intent.toDict := by
      unfold ExecutionIntent.toDict
      repeat first | exact List.mem_cons_self | apply List.mem_cons_of_mem
    have whole : Recordable (.dict members) := by
      have part := recordable_member written listed
      rwa [lineage] at part
    cases found : lookup (.str "governance_identity") members with
    | none => simp [Dict.get,found,Value.asDict?,optDict]
    | some identity =>
      have part := recordable_member whole (lookup_mem found)
      cases identity with
      | dict inner => simpa [Dict.get,found,Value.asDict?,optDict] using part
      | _ => simp [Dict.get,found,Value.asDict?,optDict]

theorem admitted_sound (admitted : Admitted sha256 call clearance trace ts adapterKey key) :
    Sound clearance ∧ (∃ hash, hashExecutionIntent sha256 call.intent = .ok hash) ∧
      clearance.base.executionIntentId = call.intent.executionIntentId ∧ clearance.base.decisionId = call.intent.decisionId ∧
      ∃ policy ttl approval, clearance.base.revalidationContext = buildRevalidationContext call.intent policy ttl approval key := by
  obtain ⟨setup,gates,base,rfl,_,_,_,⟨left,right,_,based⟩,passed⟩ := admitted.passage
  obtain ⟨_,id,intentHash,ttl₀,hashed,rfl⟩ := baseReceipt_returns based
  obtain ⟨ttl,admissibility,result,made⟩ := passed.made
  rw [made]
  refine ⟨⟨checkFromRuntime_recordable _,checkFromRuntime_recordable _,checkFromRuntime_recordable _,
    checkFromRuntime_recordable _,governance_recordable hashed,revalidation_recordable _ _ _ _ _,rfl,rfl,rfl,rfl,
    regulated_writes {} (by simp) (by simp) (by simp) (by simp) (by simp),regulated_recordable _ _,rfl⟩,
    ⟨intentHash,hashed⟩,rfl,rfl,_,_,_,rfl⟩

structure Written (sha256 : String → String) (intent : ExecutionIntent) (receipt : BindReceipt) (trace : Trace S)
    (final : BindReceipt) : Prop where
  lines : ∃ intentEntry intentLine entries previous hash line,
    trace = [⟨.appendTrustLog intentEntry,.ok intentLine⟩,⟨.iterTrustLog,entries⟩,
      ⟨.appendTrustLog (bindReceiptEntry { receipt with prevBindHash := previous, bindReceiptHash := hash }),.ok line⟩] ∧
    buildExecutionIntentTrustlogEntry sha256 intent = .ok intentEntry ∧
    previous = optStr (getPreviousBindHash entries receipt.decisionId receipt.executionIntentId) ∧
    hashBindReceipt sha256 { receipt with prevBindHash := previous } = .ok hash ∧
    final = { receipt with prevBindHash := previous, bindReceiptHash := hash, trustlogHash := (line.get "sha256").orStr "" }

theorem previousBindHash_unchained (chain : receipt.prevBindHash = .none) :
    (previousBindHash receipt : Bind S Value) = .ask .iterTrustLog fun entries =>
      .pure (optStr (getPreviousBindHash entries receipt.decisionId receipt.executionIntentId)) := by
  unfold previousBindHash
  rw [if_neg (by simp [chain,Value.truthy])]
  rfl

theorem finalize_returns (chain : receipt.prevBindHash = .none)
    (returned : Returns (finalizeReceipt sha256 intent true receipt) trace final) :
    Written sha256 intent (completeReceipt receipt intent) trace final := by
  unfold finalizeReceipt appendExecutionIntentTrustlog appendBindReceiptTrustlog at returned
  simp only [Bool.not_true,Bool.false_eq_true,if_false] at returned
  rw [previousBindHash_unchained (show (completeReceipt receipt intent).prevBindHash = .none from chain)] at returned
  obtain ⟨_,left,right,rfl,first,later⟩ := returns_bind.mp returned
  obtain ⟨intentEntry,_,sent,rfl,built,stored⟩ := returns_bind.mp first
  obtain ⟨rfl,made⟩ := returns_lift.mp built
  simp only [bind_request,returns_ask,returns_lift] at stored
  obtain ⟨intentLine,_,rfl,rfl,rfl⟩ := stored
  simp only [bind_ask,returns_ask,bind_pure] at later
  obtain ⟨entries,rest,rfl,chained⟩ := later
  obtain ⟨hash,_,r2,rfl,hashed,appended⟩ := returns_bind.mp chained
  obtain ⟨rfl,same⟩ := returns_lift.mp hashed
  obtain ⟨_,line,r3,rfl,rfl,last⟩ := ask_lift_returns appended
  obtain ⟨rfl,rfl⟩ := returns_pure.mp last
  exact ⟨⟨intentEntry,_,entries,_,hash,line,rfl,made,rfl,same,rfl⟩⟩

theorem finalize_raises (hashable : ∃ hash, hashExecutionIntent sha256 intent = .ok hash)
    (chain : receipt.prevBindHash = .none) (raised : Raises (finalizeReceipt sha256 intent append receipt) trace error) :
    append = true ∧ ((∀ value ∈ receipt.objects, Recordable value) → ¬AppendsSucceed trace) := by
  obtain ⟨intentHash,hashed⟩ := hashable
  have failed : ∀ {trace : Trace S} (entry : Dict), ⟨.appendTrustLog entry,.error error⟩ ∈ trace → ¬AppendsSucceed trace := by
    intro trace entry listed succeed
    cases succeed _ listed
  cases append with
  | false => exact (raises_pure.mp raised).elim
  | true =>
    refine ⟨rfl,fun recordable => ?_⟩
    unfold finalizeReceipt appendExecutionIntentTrustlog appendBindReceiptTrustlog at raised
    simp only [Bool.not_true,Bool.false_eq_true,if_false,buildExecutionIntentTrustlogEntry,hashed] at raised
    rw [previousBindHash_unchained (show (completeReceipt receipt intent).prevBindHash = .none from chain)] at raised
    rcases raises_bind.mp raised with first | ⟨_,left,right,rfl,_,later⟩
    · rcases raises_bind.mp first with impossible | ⟨_,_,_,rfl,_,stored⟩
      · cases (raises_lift.mp impossible).2
      · simp only [bind_request,raises_ask,raises_lift] at stored
        obtain ⟨_,_,rfl,rfl,rfl⟩ := stored
        exact failed _ (List.mem_append_right _ List.mem_cons_self)
    · simp only [bind_ask,raises_ask,bind_pure] at later
      obtain ⟨entries,rest,rfl,chained⟩ := later
      obtain ⟨hash,same⟩ := (hashBindReceipt_isOk sha256 _).mpr ((chained_recordable (show (completeReceipt receipt intent).prevBindHash = .none from chain)
        (getPreviousBindHash entries receipt.decisionId receipt.executionIntentId)).mpr recordable)
      rcases raises_bind.mp chained with impossible | ⟨_,_,_,rfl,first,appended⟩
      · cases same.symm.trans (raises_lift.mp impossible).2
      · obtain ⟨rfl,_⟩ := returns_lift.mp first
        rcases raises_bind.mp appended with stored | ⟨_,_,_,_,_,last⟩
        · simp only [bind_request,raises_ask,raises_lift] at stored
          obtain ⟨_,_,rfl,rfl,rfl⟩ := stored
          exact failed _ (List.mem_append_right _ (List.mem_cons_of_mem _ List.mem_cons_self))
        · exact (raises_pure.mp last).elim

theorem setsUp_silent (setup : event.1.setsUp = true) :
    escapingError event = none ∧ appendError event = none ∧ recordedAnswer event = none := by
  obtain ⟨op,answer⟩ := event
  cases op <;> first | exact ⟨rfl,rfl,rfl⟩ | cases setup

theorem logs_silent (logs : event.1.logs = true) : escapingError event = none ∧ recordedAnswer event = none := by
  obtain ⟨op,answer⟩ := event
  cases op <;> first | exact ⟨rfl,rfl⟩ | cases logs

theorem unlogged_unwritten (unlogged : event.1.logs = false) : appendError event = none := by
  obtain ⟨op,answer⟩ := event
  cases op <;> first | rfl | cases unlogged

theorem commitStage_unlogged (intent : ExecutionIntent) (cleared : Cleared S) :
    Within (fun op : Op S => op.logs = false) (commitStage intent cleared) := by
  rw [commitStage_ask]
  exact ⟨rfl,fun answer => (afterApply_settles intent cleared answer).mono fun _ settles => (settles_once settles).2⟩

theorem admitted_answers (admitted : Admitted sha256 call clearance trace ts adapterKey key) :
    Quiet trace ∧ AppendsSucceed trace ∧ (AnswersRecordable trace ↔ Recordable clearance.fingerprint) := by
  obtain ⟨setup,gates,base,rfl,calm,_,_,_,passed⟩ := admitted.passage
  obtain ⟨signals,rfl,signalled⟩ := passed.observed
  obtain ⟨authority,constraints,risk,ttl,boundary,rfl,_,_,bounded⟩ := signalled.asked
  have last : ∀ event ∈ boundary, escapingError event = none ∧ appendError event = none ∧ recordedAnswer event = none := by
    rcases bounded with rfl | ⟨arguments,result,rfl,_⟩
    · simp
    · simp [escapingError,appendError,recordedAnswer]
  have others : ∀ event ∈ setup ++ boundary, escapingError event = none ∧ appendError event = none ∧ recordedAnswer event = none := by
    intro event listed
    rcases List.mem_append.mp listed with first | final
    · exact setsUp_silent (calm event first)
    · exact last event final
  refine ⟨?_,?_,?_,?_⟩
  · intro event listed
    simp only [List.mem_append,List.mem_cons] at listed
    rcases listed with first | rfl | rfl | rfl | rfl | rfl | final
    · exact (others event (by simp [first])).1
    all_goals first | rfl | exact (last event final).1
  · intro event listed
    simp only [List.mem_append,List.mem_cons] at listed
    rcases listed with first | rfl | rfl | rfl | rfl | rfl | final
    · exact (others event (by simp [first])).2.1
    all_goals first | rfl | exact (last event final).2.1
  · intro written
    exact written ⟨.fingerprintState clearance.snapshot,.ok clearance.fingerprint⟩ (by simp) _ rfl
  · intro written event listed answer found
    simp only [List.mem_append,List.mem_cons] at listed
    rcases listed with first | rfl | rfl | rfl | rfl | rfl | final
    · simp [(others event (by simp [first])).2.2] at found
    · cases found
    · cases found
      exact written
    · cases found
    · cases found
    · cases found
    · simp [(last event final).2.2] at found

theorem applied_parts (path : Leads (executeBindAdjudication sha256 call) trace last) (applied : ∃ event ∈ trace, event.1.isApply = true) :
    ∃ clearance before after, trace = before ++ after ∧ Returns (prelude sha256 call) before (.cleared clearance) ∧
      Leads (commitStage call.intent clearance >>= finalizeReceipt sha256 call.intent call.appendTrustlog) after last := by
  obtain ⟨event,listed,applies⟩ := applied
  have calm : ∀ {op : Op S}, Calm op → op.isApply = false := by
    intro op still
    cases op <;> simp_all [Calm,Op.effectful,Op.isApply]
  rcases leads_bind path with ⟨middle,inside,_⟩ | ⟨stage,before,after,rfl,staged,later⟩
  · simp [calm ((inside.within (prelude_calm call)).1 event listed)] at applies
  · have early : event ∉ before := by
      intro there
      simp [calm ((Leads.within staged (prelude_calm call)).1 event there)] at applies
    have there : event ∈ after := (List.mem_append.mp listed).resolve_left early
    cases stage with
    | replayed receipt =>
      obtain ⟨rfl,_⟩ := leads_pure.mp later
      cases there
    | refused receipt =>
      have never := (later.within (conclude_once receipt)).1 event there
      simp [never] at applies
    | cleared clearance => exact ⟨clearance,before,after,rfl,staged,later⟩

theorem renew_rollbackStatus (labels : Labels) : labels.renew.rollbackStatus = labels.rollbackStatus := rfl

theorem complete_rollbackStatus (receipt : BindReceipt) (intent : ExecutionIntent) :
    (completeReceipt receipt intent).labels.rollbackStatus =
      orElseText receipt.labels.rollbackStatus (some (resolveRollbackStatus receipt)) := by
  have lineage : (applyBindTargetMetadataFromLineage receipt.labels intent).rollbackStatus = receipt.labels.rollbackStatus := by
    unfold applyBindTargetMetadataFromLineage
    split
    · rfl
    · extract_lets
      split <;> rfl
  have reason : ∀ labels, (labelReason receipt labels).rollbackStatus = labels.rollbackStatus := by
    intro labels
    unfold labelReason
    split <;> rfl
  calc (completeReceipt receipt intent).labels.rollbackStatus
      = orElseText (labelReason receipt (applyBindTargetMetadataFromLineage receipt.labels intent)).rollbackStatus
          (some (resolveRollbackStatus receipt)) := rfl
    _ = orElseText receipt.labels.rollbackStatus (some (resolveRollbackStatus receipt)) := by rw [reason,lineage]

-- A receipt came back, and whatever is not committed was reverted or says it was not.
def Accounted (trace : Trace S) (outcome : Except Exc BindReceipt) : Prop :=
  ∃ receipt, outcome = .ok receipt ∧ (receipt.finalOutcome ≠ .committed → (∃ event ∈ trace, event.1.isRevert = true) ∨
      (receipt.finalOutcome = .applyFailed ∧ receipt.labels.rollbackStatus = some "rollback_not_attempted"))

theorem performed_accounted (sound : Sound cleared) (performed : Performed cleared effect receipt)
    (returned : Returns (finalizeReceipt sha256 intent append receipt) log final) (before : Trace S) :
    Accounted (before ++ (effect ++ log)) (.ok final) := by
  refine ⟨final,rfl,fun failed => ?_⟩
  obtain ⟨_,_,_,rfl⟩ := finalize_keeps returned
  rcases performed.accounted with committed | applyFailed | ⟨event,listed,revert⟩
  · exact absurd committed failed
  · refine .inr ⟨applyFailed,?_⟩
    rw [complete_rollbackStatus,performed.labels,renew_rollbackStatus,sound.status]
    simp [orElseText,resolveRollbackStatus,applyFailed]
  · exact .inl ⟨event,by simp [listed],revert⟩

theorem applied_outcome {outcome : Except Exc BindReceipt} (path : Leads (executeBindAdjudication sha256 call) trace (finished outcome))
    (handled : HandledOnly trace) (applied : ∃ event ∈ trace, event.1.isApply = true) : (∃ receipt, outcome = .ok receipt) ↔
      Quiet trace ∧ (call.appendTrustlog = true → AnswersRecordable trace ∧ AppendsSucceed trace) := by
  obtain ⟨clearance,before,after,rfl,staged,later⟩ := applied_parts path applied
  obtain ⟨ts,adapterKey,key,admitted⟩ := prelude_cleared staged
  obtain ⟨sound,hashable,_⟩ := admitted_sound admitted
  obtain ⟨quietBefore,writtenBefore,answersBefore⟩ := admitted_answers admitted
  cases outcome with
  | ok final =>
    obtain ⟨receipt,effect,log,rfl,stage,finalized⟩ := returns_bind.mp later
    have performed := commitStage_performed sound stage
    have logged := (Leads.within finalized (finalizeReceipt_logs _ _ _)).1
    refine iff_of_true ⟨final,rfl⟩ ⟨?_,fun append => ?_⟩
    · simp only [Quiet,List.forall_mem_append]
      exact ⟨quietBefore,performed.quiet,fun event listed => (logs_silent (logged event listed)).1⟩
    · rw [append] at finalized
      obtain ⟨intentEntry,intentLine,entries,previous,hash,line,rfl,_,rfl,hashed,_⟩ := (finalize_returns performed.chain finalized).lines
      have recordable := (chained_recordable (show (completeReceipt receipt call.intent).prevBindHash = .none from performed.chain)
        _).mp ((hashBindReceipt_isOk sha256 _).mp ⟨hash,hashed⟩)
      obtain ⟨first,answers⟩ := performed.recordable.mp recordable
      have settled := (Leads.within stage (commitStage_unlogged _ _)).1
      simp only [AnswersRecordable,AppendsSucceed,List.forall_mem_append]
      refine ⟨⟨answersBefore.mpr first,answers,fun event listed answer found => ?_⟩,writtenBefore,?_,?_⟩
      · simp [(logs_silent (logged event listed)).2] at found
      · exact fun event listed => unlogged_unwritten (settled event listed)
      · simp [appendError]
  | error error =>
    refine iff_of_false ?_ ?_
    · rintro ⟨receipt,impossible⟩
      cases impossible
    · rintro ⟨quiet,writes⟩
      rcases raises_bind.mp later with early | ⟨receipt,effect,log,rfl,stage,finalized⟩
      · obtain ⟨event,listed,error,raised⟩ := commitStage_raises handled.right early
        simp [quiet event (by simp [listed])] at raised
      · have performed := commitStage_performed sound stage
        obtain ⟨append,stuck⟩ := finalize_raises hashable performed.chain finalized
        obtain ⟨answers,succeed⟩ := writes append
        simp only [AnswersRecordable,AppendsSucceed,List.forall_mem_append] at answers succeed
        exact stuck (performed.recordable.mpr ⟨answersBefore.mp answers.1,answers.2.1⟩) succeed.2.2

theorem applied_written (returned : Returns (executeBindAdjudication sha256 call) trace final) (append : call.appendTrustlog = true)
    (applied : ∃ event ∈ trace, event.1.isApply = true) : ∃ before candidate line adapterKey key policy ttl approval,
      trace = before ++ [⟨.appendTrustLog (bindReceiptEntry candidate),.ok line⟩] ∧ Opens call trace adapterKey key ∧
      candidate.executionIntentId = call.intent.executionIntentId ∧ candidate.decisionId = call.intent.decisionId ∧
      candidate.revalidationContext = buildRevalidationContext call.intent policy ttl approval key := by
  obtain ⟨clearance,before,after,rfl,staged,later⟩ := applied_parts (show Leads _ _ (.pure final) from returned) applied
  obtain ⟨ts,adapterKey,key,admitted⟩ := prelude_cleared staged
  obtain ⟨sound,_,intentId,decisionId,policy,ttl,approval,context⟩ := admitted_sound admitted
  obtain ⟨setup,gates,_,rfl,_,_,opens,_⟩ := admitted.passage
  obtain ⟨receipt,effect,log,rfl,stage,finalized⟩ := returns_bind.mp later
  have performed := commitStage_performed sound stage
  rw [append] at finalized
  obtain ⟨intentEntry,intentLine,entries,previous,hash,line,rfl,_⟩ := (finalize_returns performed.chain finalized).lines
  exact ⟨setup ++ gates ++ (effect ++ [⟨.appendTrustLog intentEntry,.ok intentLine⟩,⟨.iterTrustLog,entries⟩]),
    { completeReceipt receipt call.intent with prevBindHash := previous, bindReceiptHash := hash },line,adapterKey,key,policy,ttl,
    approval,by simp,(opens.append gates).append _,
    performed.identity.1.trans intentId,performed.identity.2.trans decisionId,performed.revalidation.trans context⟩

theorem accounted_exact (sha256 : String → String) (call : Call) (trace : Trace S) (outcome : Except Exc BindReceipt)
    (path : Leads (executeBindAdjudication sha256 call) trace (finished outcome)) (handled : HandledOnly trace)
    (applied : ∃ event ∈ trace, event.1.isApply = true) : Accounted trace outcome ↔
      Quiet trace ∧ (call.appendTrustlog = true → AnswersRecordable trace ∧ AppendsSucceed trace) := by
  rw [← applied_outcome path handled applied]
  constructor
  · rintro ⟨receipt,same,_⟩
    exact ⟨receipt,same⟩
  · rintro ⟨final,rfl⟩
    obtain ⟨clearance,before,after,rfl,staged,later⟩ := applied_parts path applied
    obtain ⟨ts,adapterKey,key,admitted⟩ := prelude_cleared staged
    obtain ⟨sound,_⟩ := admitted_sound admitted
    obtain ⟨receipt,effect,log,rfl,stage,finalized⟩ := returns_bind.mp later
    exact performed_accounted sound (commitStage_performed sound stage) finalized before

def sampleEffect : Trace Unit :=
  [⟨.apply sampleIntent (),.ok .none⟩,⟨.verifyPostconditions sampleIntent (),.ok (.bool true)⟩,⟨.snapshot,.ok ()⟩,
   ⟨.fingerprintState (),.ok (.str "state-2")⟩,⟨.describeTarget,.ok (.dict [(.str "name",.str "config")])⟩]

def sampleLog (intentEntry receiptEntry : Dict) : Trace Unit :=
  [⟨.appendTrustLog intentEntry,.ok []⟩,⟨.iterTrustLog,[]⟩,⟨.appendTrustLog receiptEntry,.ok [(.str "sha256",.str "hash-1")]⟩]

theorem sample_returns : ∃ intentEntry receiptEntry receipt, Returns (executeBindAdjudication (fun s => s) sampleCall)
    (sampleTrace ++ sampleEffect ++ sampleLog intentEntry receiptEntry) receipt :=
  ⟨_,_,_,.more (.more (.more (.more (.more (.more (.more (.more (.more (.more (.more (.more (.more (.more (.more
    (.done _)))))))))))))))⟩

theorem accounted_sample : ∃ intentEntry receiptEntry receipt,Returns (executeBindAdjudication (fun s => s) sampleCall)
      (sampleTrace ++ sampleEffect ++ sampleLog intentEntry receiptEntry) receipt ∧
    Accounted (sampleTrace ++ sampleEffect ++ sampleLog intentEntry receiptEntry) (.ok receipt) := by
  obtain ⟨intentEntry,receiptEntry,receipt,returned⟩ := sample_returns
  refine ⟨intentEntry,receiptEntry,receipt,returned,(accounted_exact _ _ _ (.ok receipt) returned ?_ ?_).mpr ⟨?_,fun _ => ⟨?_,?_⟩⟩⟩
  · simp [HandledOnly,sampleTrace,sampleEffect,sampleLog,adapterError]
  · exact ⟨⟨.apply sampleIntent (),.ok .none⟩,by simp [sampleEffect],rfl⟩
  · simp [Quiet,sampleTrace,sampleEffect,sampleLog,escapingError]
  · have target : Recordable (.dict [(.str "name",.str "config")]) := rfl
    simp [AnswersRecordable,sampleTrace,sampleEffect,sampleLog,recordedAnswer,target]
  · simp [AppendsSucceed,sampleTrace,sampleEffect,sampleLog,appendError]

def lostTrace : Trace Unit :=
  sampleTrace ++ [⟨.apply sampleIntent (),.ok .none⟩,⟨.verifyPostconditions sampleIntent (),.error ⟨.runtimeError,"unreachable"⟩⟩]

theorem postcondition_error_escapes :
    Leads (executeBindAdjudication (fun s => s) sampleCall) lostTrace (finished (.error ⟨.runtimeError,"unreachable"⟩)) ∧
      HandledOnly lostTrace ∧ (∃ event ∈ lostTrace, event.1.isApply = true) ∧
      ¬Accounted lostTrace (.error ⟨.runtimeError,"unreachable"⟩) := by
  refine ⟨.more (.more (.more (.more (.more (.more (.more (.more (.more (.done _))))))))),?_,?_,?_⟩
  · simp [HandledOnly,lostTrace,sampleTrace,adapterError,Exc.handled]
  · exact ⟨⟨.apply sampleIntent (),.ok .none⟩,by simp [lostTrace],rfl⟩
  · rintro ⟨receipt,impossible,_⟩
    cases impossible

section Order

-- The adapter is asked for the effect, to verify it and to take it back, in this order; it need not come to the last two.
def settlements (intent : ExecutionIntent) (snapshot : S) : List (List (Op S)) :=
  [[],[.apply intent snapshot],[.apply intent snapshot,.verifyPostconditions intent snapshot],[.apply intent snapshot,.revert intent snapshot],
   [.apply intent snapshot,.verifyPostconditions intent snapshot,.revert intent snapshot]]

def Reverts (intent : ExecutionIntent) (snapshot : S) (ops : List (Op S)) : Prop := ops = [] ∨ ops = [.revert intent snapshot]

theorem described_calm {build : Value → BindReceipt} : Within Calm (described build : Bind S BindReceipt) := described_within rfl

theorem rollbackUnchecked_emits (intent : ExecutionIntent) (cleared : Cleared S) (code : String) (reason : Value) (failure : String) :
    Emits Op.effectful (rollbackUnchecked intent cleared code reason failure) (Reverts intent cleared.snapshot) := by
  refine emits_request rfl (.inl rfl) fun answer => emits_quiet ?_ (.inr rfl)
  cases answer with
  | error e => dsimp only; split <;> first | trivial | exact described_calm
  | ok reverted => dsimp only; split <;> exact described_calm

theorem rollbackAfterVerificationFailure_emits (intent : ExecutionIntent) (cleared : Cleared S) :
    Emits Op.effectful (rollbackAfterVerificationFailure intent cleared) (Reverts intent cleared.snapshot) := by
  refine emits_request rfl (.inl rfl) fun answer => emits_quiet ?_ (.inr rfl)
  cases answer with
  | error e => dsimp only; split <;> first | trivial | exact described_calm
  | ok reverted =>
    dsimp only
    split
    · exact described_calm
    · refine within_bind (observe_within rfl fun _ => rfl) fun seen => ?_
      cases seen with
      | error e => dsimp only; split <;> first | trivial | exact described_calm
      | ok pair => exact described_calm

theorem applyFailed_emits (intent : ExecutionIntent) (cleared : Cleared S) (error : Exc) :
    Emits Op.effectful (applyFailed intent cleared error) (Reverts intent cleared.snapshot) := by
  unfold applyFailed
  split
  · exact .inl rfl
  · split
    · exact rollbackUnchecked_emits _ _ _ _ _
    · exact emits_quiet described_calm (.inl rfl)

theorem verifyApplied_emits (intent : ExecutionIntent) (cleared : Cleared S) : Emits Op.effectful (verifyApplied intent cleared)
    fun ops => ops = [] ∨ ∃ after, Reverts intent cleared.snapshot after ∧ ops = .verifyPostconditions intent cleared.snapshot :: after := by
  refine emits_request rfl (.inl rfl) fun answer => ?_
  suffices reverts : Emits Op.effectful _ (Reverts intent cleared.snapshot) from reverts.mono fun ops told => .inr ⟨ops,told,rfl⟩
  cases answer with
  | error e => exact .inl rfl
  | ok word =>
    change Emits Op.effectful (if !word.truthy then rollbackAfterVerificationFailure intent cleared else _) _
    split
    · exact rollbackAfterVerificationFailure_emits _ _
    · refine emits_after (observe_within rfl fun _ => rfl) (.inl rfl) fun seen => ?_
      cases seen with
      | error e => dsimp only; split <;> first | exact .inl rfl | exact rollbackUnchecked_emits _ _ _ _ _
      | ok pair => exact emits_quiet described_calm (.inl rfl)

theorem commitStage_emits (intent : ExecutionIntent) (cleared : Cleared S) :
    Emits Op.effectful (commitStage intent cleared) (· ∈ settlements intent cleared.snapshot) := by
  refine emits_request rfl List.mem_cons_self fun answer => ?_
  have settled {ops : List (Op S)} (reverts : Reverts intent cleared.snapshot ops) :
      Op.apply intent cleared.snapshot :: ops ∈ settlements intent cleared.snapshot := by
    rcases reverts with rfl | rfl <;> simp [settlements]
  cases answer with
  | error e => exact (applyFailed_emits intent cleared e).mono fun _ => settled
  | ok value =>
    refine (verifyApplied_emits intent cleared).mono fun ops verified => ?_
    rcases verified with rfl | ⟨after,rfl | rfl,rfl⟩ <;> simp [settlements]

-- The gates come first, then the adapter in its order and on the observed state, then the log.
def InOrder (intent : ExecutionIntent) (trace : Trace S) : Prop :=
  ∃ before after : Trace S, ∃ settling logged, trace = before ++ after ∧ (∀ event ∈ before, Calm event.1) ∧
    (after.map Sigma.fst).filter Op.effectful = settling ++ logged ∧ (∀ op ∈ logged, op.logs = true) ∧
    (settling = [] ∨ ∃ snapshot, ⟨.snapshot,.ok snapshot⟩ ∈ before ∧ settling ∈ settlements intent snapshot)

end Order

end VeritasOs.BindCore
