import VeritasOs.PipelinePolicy

namespace VeritasOs.GateOrder
open Text JsonText BindArtifacts PolicyBundle PipelinePolicy
open WatVerifier (floatLess one zero)

inductive FujiStatus where
  | allow
  | modify
  | rejected
deriving DecidableEq

def FujiStatus.text : FujiStatus → String
  | .allow => "allow"
  | .modify => "modify"
  | .rejected => "rejected"

def FujiStatus.rank : FujiStatus → Nat
  | .allow => 0
  | .modify => 1
  | .rejected => 2

def decisionRank (status : String) : Nat := if status = "rejected" then 2 else if status = "hold" then 1 else 0

def withStatus (status : FujiStatus) (ctx : PipelineContext) : PipelineContext :=
  { ctx with fujiDict := ctx.fujiDict.set "status" (.str status.text) }

def decided (world : World) (ctx : PipelineContext) (status : FujiStatus) : String :=
  (stageGateDecision world (withStatus status ctx)).2.decisionStatus

-- The risk after the debate, where the gate gets so far: a non-zero risk_delta is added to
-- FUJI's risk, and a conversion that fails keeps the risk as it was.
def debatedRisk (world : World) (weight : FloatValue) (ctx : PipelineContext) : Except Exc FloatValue := do
  let delta ← debateDelta world ctx
  if (Value.float delta).truthy then do
    let newRisk ← raisedRisk world delta ctx
    dampedRisk world weight newRisk ctx
  else .ok ctx.effectiveRisk

def mergedRisk (world : World) (weight : FloatValue) (ctx : PipelineContext) : Option FloatValue :=
  match debatedRisk world weight ctx with
  | .ok risk => some risk
  | .error error => if error.kind ∈ [.valueError,.typeError] then some ctx.effectiveRisk else none

def decidingRisk (world : World) (ctx : PipelineContext) : Option FloatValue :=
  (riskEmaWeight world).toOption.bind fun weight => mergedRisk world weight ctx

def highRiskLowTelos (ctx : PipelineContext) (risk : FloatValue) : Bool :=
  floatAtLeast risk pointNine && floatLess ctx.telos ctx.telosThreshold

def withoutAuditTrail (context : Dict) : Bool :=
  (context.get "irreversible_action").truthy && !(context.getD "audit_trail_complete" (.bool true)).truthy

def chained (status : FujiStatus) (risky : Bool) : String :=
  match status with
  | .allow => if risky then "rejected" else "allow"
  | .modify => "allow"
  | .rejected => "rejected"

def isAmbiguous (context : Dict) (risk : FloatValue) : Bool :=
  (context.get "high_risk_ambiguity").truthy || ((context.get "ambiguity_detected").truthy && floatAtLeast risk pointEight)

-- What the stop conditions after the chain make of its status.
def stopped (context : Dict) (risk : FloatValue) (missing : List String) (status : String) : String :=
  if withoutAuditTrail context then "rejected"
  else if status = "allow" ∧ (missing ≠ [] ∨ isAmbiguous context risk = true) then "hold"
  else status

def settled (world : World) (context : Dict) (risk : FloatValue) (status : String) : String :=
  match missingEvidence world context with
  | .error _ => status
  | .ok missing => stopped context risk missing status

variable {world : World} {ctx : PipelineContext}

theorem review_reads (ctx : PipelineContext) (other : name ≠ "human_review_required") :
    lookup (.str name) (requireHumanReview ctx).context = lookup (.str name) ctx.context := by
  rw [requireHumanReview,Dict.set,lookup_store,if_neg fun same => other (Key.str.inj same).symm]

theorem review_audit (ctx : PipelineContext) : withoutAuditTrail (requireHumanReview ctx).context = withoutAuditTrail ctx.context := by
  unfold withoutAuditTrail Dict.get Dict.getD
  rw [review_reads ctx (by decide),review_reads ctx (by decide)]

theorem audit_decides (ctx : PipelineContext) : (stopOnMissingAuditTrail ctx).decisionStatus =
    if withoutAuditTrail ctx.context then "rejected" else ctx.decisionStatus := by
  unfold stopOnMissingAuditTrail withoutAuditTrail
  split
  · rfl
  · rfl

theorem ambiguity_decides (ctx : PipelineContext) : (stopOnAmbiguity ctx).decisionStatus =
      (if ctx.decisionStatus = "allow" ∧ isAmbiguous ctx.context ctx.effectiveRisk = true then "hold" else ctx.decisionStatus) ∧
    withoutAuditTrail (stopOnAmbiguity ctx).context = withoutAuditTrail ctx.context := by
  have ambiguous : isHighRiskAmbiguity ctx = isAmbiguous ctx.context ctx.effectiveRisk := rfl
  unfold stopOnAmbiguity
  rw [ambiguous]
  cases isAmbiguous ctx.context ctx.effectiveRisk with
  | false => simp
  | true =>
    by_cases allowed : ctx.decisionStatus = "allow"
    · rw [if_pos rfl,if_pos allowed,if_pos ⟨allowed,rfl⟩]
      exact ⟨rfl,review_audit ctx⟩
    · rw [if_pos rfl,if_neg allowed,if_neg fun both => allowed both.1]
      exact ⟨rfl,review_audit ctx⟩

theorem stops_decide (missing : List String) (ctx : PipelineContext) :
    (stopOnMissingAuditTrail (stopOnAmbiguity (if ctx.decisionStatus = "allow" ∧ missing ≠ [] then
      hold ("FUJI gate: required_evidence_missing=" ++ ",".intercalate (sortedItems missing)) (requireHumanReview ctx) else ctx))).decisionStatus =
    stopped ctx.context ctx.effectiveRisk missing ctx.decisionStatus := by
  rw [audit_decides,(ambiguity_decides _).1,(ambiguity_decides _).2]
  unfold stopped
  by_cases incomplete : ctx.decisionStatus = "allow" ∧ missing ≠ []
  · rw [if_pos incomplete]
    have reviewed : ctx.decisionStatus = "allow" ∧ (missing ≠ [] ∨ isAmbiguous ctx.context ctx.effectiveRisk = true) :=
      ⟨incomplete.1,.inl incomplete.2⟩
    rw [if_pos reviewed,← review_audit ctx]
    exact congrArg _ (ite_self _)
  · rw [if_neg incomplete]
    congr 1
    by_cases allowed : ctx.decisionStatus = "allow"
    · have complete : ¬missing ≠ [] := fun some => incomplete ⟨allowed,some⟩
      simp only [allowed,complete,true_and,false_or]
    · simp only [allowed,false_and]

def afterChain (world : World) : Stage :=
  andThen (stopOnMissingEvidence world) (andThen (change (stopOnMissingAuditTrail ∘ stopOnAmbiguity)) (recordLatency world))

theorem afterChain_decides (ctx : PipelineContext) : (afterChain world ctx).2.decisionStatus =
    settled world ctx.context ctx.effectiveRisk ctx.decisionStatus := by
  have latency : Leaves PipelineContext.decisionStatus (recordLatency world) := leaves_using fun _ => leaves_change fun _ => rfl
  unfold afterChain andThen stopOnMissingEvidence using_ settled
  dsimp only
  cases missingEvidence world ctx.context with
  | error error => rfl
  | ok missing =>
    dsimp only [change]
    exact (latency _).trans (stops_decide missing ctx)

theorem settled_rejected (context : Dict) (risk : FloatValue) : settled world context risk "rejected" = "rejected" := by
  unfold settled
  cases missingEvidence world context with
  | error error => rfl
  | ok missing =>
    dsimp only
    unfold stopped
    rw [if_neg (c := _ ∧ _) fun both => absurd both.1 (by decide),ite_self]

theorem chain_decides (named : ctx.status = .str status.text) (allowed : ctx.decisionStatus = "allow") :
    (andThen (applyFujiStatus world) (afterChain world) ctx).2.decisionStatus =
      settled world ctx.context ctx.effectiveRisk (chained status (highRiskLowTelos ctx ctx.effectiveRisk)) := by
  unfold andThen applyFujiStatus
  cases status with
  | modify =>
    rw [named,if_pos (show Value.str FujiStatus.modify.text = .str "modify" from rfl)]
    exact (afterChain_decides _).trans (congrArg _ allowed)
  | rejected =>
    rw [named,if_neg (by decide),if_pos (show Value.str FujiStatus.rejected.text = .str "rejected" from rfl),chained,settled_rejected]
    unfold rejectForReasons andThen change using_
    dsimp only
    cases joinTexts ", " (rejectionReasons ctx.fujiDict) with
    | error error => rfl
    | ok reasons => exact (afterChain_decides _).trans (settled_rejected _ _)
  | allow =>
    rw [named,if_neg (by decide),if_neg (by decide),chained]
    unfold highRiskLowTelos
    cases floatAtLeast ctx.effectiveRisk pointNine && floatLess ctx.telos ctx.telosThreshold with
    | true => exact (afterChain_decides _).trans rfl
    | false => exact (afterChain_decides _).trans (congrArg _ allowed)

theorem merge_keeps (world : World) (weight : FloatValue) :
    Leaves (fun ctx => (ctx.status,ctx.decisionStatus,ctx.context,ctx.telos,ctx.telosThreshold)) (mergeDebateRisk world weight) := by
  refine leaves_catching (leaves_using fun delta => ?_)
  split
  · refine leaves_using fun newRisk => leaves_andThen (leaves_change fun ctx => ?_) (leaves_using fun risk => leaves_change fun _ => rfl)
    have kept : (ctx.fujiDict.set "risk" (.float newRisk)).get "status" = ctx.fujiDict.get "status" := get_set_other (by decide)
    unfold PipelineContext.status
    rw [kept]
  · exact leaves_change fun _ => rfl

theorem merge_risk (world : World) (weight : FloatValue) (ctx : PipelineContext) : match mergedRisk world weight ctx with
    | some risk => (mergeDebateRisk world weight ctx).1 = .ok () ∧ (mergeDebateRisk world weight ctx).2.effectiveRisk = risk
    | none => ∃ error, (mergeDebateRisk world weight ctx).1 = .error error := by
  unfold mergedRisk debatedRisk mergeDebateRisk catching using_
  cases debateDelta world ctx with
  | error error =>
    simp only [bind,Except.bind]
    by_cases caught : error.kind ∈ [ExcKind.valueError,.typeError]
    · simp only [caught,if_true,and_self]
    · simp only [caught,if_false]
      exact ⟨error,rfl⟩
  | ok delta =>
    simp only [bind,Except.bind]
    cases (Value.float delta).truthy with
    | false => exact ⟨rfl,rfl⟩
    | true =>
      simp only [if_true]
      cases raisedRisk world delta ctx with
      | error error =>
        by_cases caught : error.kind ∈ [ExcKind.valueError,.typeError]
        · simp only [caught,if_true,and_self]
        · simp only [caught,if_false]
          exact ⟨error,rfl⟩
      | ok newRisk =>
        have same : dampedRisk world weight newRisk { ctx with fujiDict := ctx.fujiDict.set "risk" (.float newRisk) } =
          dampedRisk world weight newRisk ctx := rfl
        dsimp only [andThen,change]
        rw [same]
        cases dampedRisk world weight newRisk ctx with
        | error error =>
          by_cases caught : error.kind ∈ [ExcKind.valueError,.typeError]
          · simp only [caught,if_true,and_self]
          · simp only [caught,if_false]
            exact ⟨error,rfl⟩
        | ok risk => exact ⟨rfl,rfl⟩

theorem mergedRisk_status (weight : FloatValue) (status : FujiStatus) (ctx : PipelineContext) :
    mergedRisk world weight (gateOpen (withStatus status ctx)) = mergedRisk world weight ctx := by
  have risk : ∀ default : Value, (ctx.fujiDict.set "status" (.str status.text)).getD "risk" default = ctx.fujiDict.getD "risk" default := by
    intro default
    rw [Dict.getD,Dict.set,lookup_store,if_neg (by decide),← Dict.getD]
  have raised : ∀ delta, raisedRisk world delta (gateOpen (withStatus status ctx)) = raisedRisk world delta ctx := by
    intro delta
    unfold raisedRisk gateOpen withStatus
    dsimp only
    rw [risk]
  unfold mergedRisk debatedRisk
  simp only [raised]
  rfl

theorem gate_decides (status : FujiStatus) : decided world ctx status = match decidingRisk world ctx with
    | none => "allow"
    | some risk => settled world ctx.context risk (chained status (highRiskLowTelos ctx risk)) := by
  unfold decided decidingRisk
  cases weighed : riskEmaWeight world with
  | error error =>
    unfold stageGateDecision andThen change using_
    dsimp only
    rw [weighed]
    rfl
  | ok weight =>
    have entered : stageGateDecision world (withStatus status ctx) =
        andThen (mergeDebateRisk world weight) (andThen (applyFujiStatus world) (afterChain world)) (gateOpen (withStatus status ctx)) := by
      have read : ∀ next, using_ (fun _ => riskEmaWeight world) next (gateOpen (withStatus status ctx)) = next weight (gateOpen (withStatus status ctx)) := by
        intro next
        rw [weighed]
        rfl
      exact read _
    rw [entered,Except.toOption,Option.bind_some,← mergedRisk_status weight status ctx]
    have named : (gateOpen (withStatus status ctx)).status = .str status.text := get_set
    have kept := merge_keeps world weight (gateOpen (withStatus status ctx))
    have risk := merge_risk world weight (gateOpen (withStatus status ctx))
    simp only [Prod.mk.injEq,named] at kept
    unfold andThen
    generalize mergeDebateRisk world weight (gateOpen (withStatus status ctx)) = result at *
    obtain ⟨outcome,merged⟩ := result
    obtain ⟨kept,allowed,context,telos,threshold⟩ := kept
    dsimp only at kept allowed context telos threshold
    cases deciding : mergedRisk world weight (gateOpen (withStatus status ctx)) with
    | none =>
      rw [deciding] at risk
      obtain ⟨error,failed⟩ := risk
      dsimp only at failed
      rw [failed]
      exact allowed
    | some found =>
      rw [deciding] at risk
      obtain ⟨returned,same⟩ := risk
      dsimp only at returned same
      have judged := @chain_decides world _ _ kept allowed
      unfold highRiskLowTelos at judged ⊢
      rw [same,context,telos,threshold] at judged
      rw [returned]
      exact judged

theorem decisionRank_settled (context : Dict) (risk : FloatValue) (status : String) :
    decisionRank (settled world context risk status) ≤ 2 := by
  unfold decisionRank
  split
  · exact Nat.le_refl _
  · split <;> decide

-- A verdict that a stricter one can undercut: the risk and telos that reject an allowed request,
-- where nothing after the chain rejects.
structure Overlooked (world : World) (ctx : PipelineContext) : Prop where
  risky : ∃ risk, decidingRisk world ctx = some risk ∧ highRiskLowTelos ctx risk = true
  unstopped : ¬((∃ missing, missingEvidence world ctx.context = .ok missing) ∧ withoutAuditTrail ctx.context = true)

theorem settled_allow : decisionRank (settled world context risk "allow") = 2 ↔
    (∃ missing, missingEvidence world context = .ok missing) ∧ withoutAuditTrail context = true := by
  unfold settled
  cases missingEvidence world context with
  | error error =>
    refine iff_of_false (by change ¬(0 = 2); decide) ?_
    rintro ⟨⟨missing,done⟩,-⟩
    cases done
  | ok missing =>
    dsimp only
    unfold stopped
    cases withoutAuditTrail context with
    | true => exact iff_of_true rfl ⟨⟨_,rfl⟩,rfl⟩
    | false =>
      rw [if_neg Bool.false_ne_true]
      refine iff_of_false ?_ fun both => absurd both.2 (by decide)
      split <;> decide

theorem gate_monotone_exact (world : World) (ctx : PipelineContext) : (∀ lenient strict : FujiStatus, lenient.rank ≤ strict.rank →
      decisionRank (decided world ctx lenient) ≤ decisionRank (decided world ctx strict)) ↔ ¬Overlooked world ctx := by
  have rejects : ∀ risk, decisionRank (settled world ctx.context risk "rejected") = 2 := fun risk => by
    rw [settled_rejected]
    rfl
  constructor
  · rintro monotone ⟨⟨risk,deciding,risky⟩,unstopped⟩
    have least := monotone .allow .modify (by decide)
    rw [gate_decides,gate_decides,deciding] at least
    dsimp only at least
    rw [risky] at least
    exact unstopped (settled_allow.mp (Nat.le_antisymm (decisionRank_settled _ _ _) (rejects risk ▸ least)))
  · intro watched lenient strict stricter
    rw [gate_decides,gate_decides]
    cases deciding : decidingRisk world ctx with
    | none => exact Nat.le_refl _
    | some risk =>
      dsimp only
      cases strict with
      | rejected =>
        rw [chained,rejects]
        exact decisionRank_settled _ _ _
      | allow =>
        cases lenient with
        | allow => exact Nat.le_refl _
        | modify => exact absurd stricter (by decide)
        | rejected => exact absurd stricter (by decide)
      | modify =>
        cases lenient with
        | modify => exact Nat.le_refl _
        | rejected => exact absurd stricter (by decide)
        | allow =>
          cases risky : highRiskLowTelos ctx risk with
          | false => exact Nat.le_refl _
          | true =>
            by_cases stopped : (∃ missing, missingEvidence world ctx.context = .ok missing) ∧ withoutAuditTrail ctx.context = true
            · exact (decisionRank_settled _ _ _).trans (settled_allow.mpr stopped).ge
            · exact absurd ⟨⟨risk,deciding,risky⟩,stopped⟩ watched

-- Risk 1 and telos 0 below the threshold: allowed by FUJI it is rejected, to be modified it is allowed.
def defaultWeight : FloatValue := .finite ⟨"0.15",by decide⟩

def readWeight : Value → Except Exc FloatValue
  | .str "0.15" => .ok defaultWeight
  | other => escalatingWorld.python.float other

def gateWorld : World := { escalatingWorld with python := { escalatingWorld.python with float := readWeight } }

def riskyContext : PipelineContext := { requestContext .none with effectiveRisk := one,telos := zero,telosThreshold := one }

theorem modify_undercuts_allow : decided gateWorld riskyContext .allow = "rejected" ∧ decided gateWorld riskyContext .modify = "allow" ∧
    ¬∀ lenient strict : FujiStatus, lenient.rank ≤ strict.rank →
      decisionRank (decided gateWorld riskyContext lenient) ≤ decisionRank (decided gateWorld riskyContext strict) := by
  have rejected : decided gateWorld riskyContext .allow = "rejected" := by decide +kernel
  have allowed : decided gateWorld riskyContext .modify = "allow" := by decide +kernel
  refine ⟨rejected,allowed,fun monotone => ?_⟩
  have least := monotone .allow .modify (by decide)
  rw [rejected,allowed] at least
  exact absurd least (by decide)

end VeritasOs.GateOrder
