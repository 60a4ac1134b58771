import VeritasOs.DateTime
import VeritasOs.WatVerifier

namespace VeritasOs.PipelinePolicy
open Text JsonText BindArtifacts Posture PolicyBundle DateTime
open WatVerifier (Python toInt floatLess zero one)

inductive Outcome where
  | allow
  | requireHumanReview
  | escalate
  | halt
  | deny
deriving DecidableEq

def Outcome.text : Outcome → String
  | .allow => "allow"
  | .requireHumanReview => "require_human_review"
  | .escalate => "escalate"
  | .halt => "halt"
  | .deny => "deny"

structure PolicyEvaluationResult where
  applicablePolicies : List Value
  triggeredPolicies : List Value
  finalOutcome : Outcome
  reasons : List Value
  requiredActions : List Value
  obligations : List Value
  approvalRequirements : List Dict
  evidenceGaps : List Dict
  explanations : List Dict
  policyResults : List Dict

def dictList (items : List Dict) : Value := .list (items.map Value.dict)

def PolicyEvaluationResult.toDict (result : PolicyEvaluationResult) : Dict :=
  [(.str "applicable_policies",.list result.applicablePolicies),(.str "triggered_policies",.list result.triggeredPolicies),
   (.str "final_outcome",.str result.finalOutcome.text),(.str "reasons",.list result.reasons),
   (.str "required_actions",.list result.requiredActions),(.str "obligations",.list result.obligations),
   (.str "approval_requirements",dictList result.approvalRequirements),(.str "evidence_gaps",dictList result.evidenceGaps),
   (.str "explanations",dictList result.explanations),(.str "policy_results",dictList result.policyResults)]

structure PipelineContext where
  query : String
  context : Dict
  responseExtras : Dict
  evidence : List Dict
  chosen : Dict
  alternatives : List Value
  debate : Value
  telos : FloatValue
  fujiDict : Dict
  decisionStatus : String
  rejectionReason : Option String
  modifications : Value
  effectiveRisk : FloatValue
  valueEma : FloatValue
  telosThreshold : FloatValue
  governanceIdentity : Option Dict

def PipelineContext.status (ctx : PipelineContext) : Value := ctx.fujiDict.get "status"

structure FujiCore where
  validateAction : Option (String → Dict → Except Exc Value)
  validate : Option (String → Dict → Except Exc Value)

structure World where
  setting : Setting
  disk : String → Files
  evaluateRuntimePolicies : RuntimePolicyBundle → Dict → Except Exc PolicyEvaluationResult
  fujiCore : Option FujiCore
  now : Int
  python : Python
  minus : FloatValue → FloatValue → FloatValue
  fixed2 : FloatValue → String
  inCanary : String → Int → Bool
  requiredEvidenceAliasMap : String → Option String
  gateLatencyMs : Int

-- A stage changes the context in place, and keeps what it changed when it raises.
abbrev Stage := PipelineContext → Except Exc Unit × PipelineContext

def change (f : PipelineContext → PipelineContext) : Stage := fun ctx => (.ok (),f ctx)

def raise (error : Exc) : Stage := fun ctx => (.error error,ctx)

def andThen (first second : Stage) : Stage := fun ctx =>
  match first ctx with
  | (.ok (),next) => second next
  | (.error error,next) => (.error error,next)

-- A value is computed from the context and used, unless that raises.
def using_ (compute : PipelineContext → Except Exc α) (next : α → Stage) : Stage := fun ctx =>
  match compute ctx with
  | .ok value => next value ctx
  | .error error => (.error error,ctx)

-- except (..): what was changed before the exception stays.
def catching (kinds : List ExcKind) (stage : Stage) : Stage := fun ctx =>
  match stage ctx with
  | (.error error,next) => if error.kind ∈ kinds then (.ok (),next) else (.error error,next)
  | done => done

def coercePolicyEnforceFlag : Value → Bool
  | .str s => ["1","true","yes"].contains (lower (strip s))
  | other => other.truthy

-- The mapping under this name in the metadata of the first triggered policy that has one.
def resolveTriggered (name : String) : List Dict → Dict
  | [] => []
  | result :: rest =>
    if !(result.get "triggered").truthy then resolveTriggered name rest
    else
      match result.getD "metadata" (.dict []) with
      | .dict metadata =>
        match Dict.getD metadata name (.dict []) with
        | .dict found => found
        | _ => resolveTriggered name rest
      | _ => resolveTriggered name rest

def resolveRolloutControls (decision : PolicyEvaluationResult) : Dict := resolveTriggered "rollout_controls" decision.policyResults
def resolveRollbackMetadata (decision : PolicyEvaluationResult) : Dict := resolveTriggered "rollback" decision.policyResults

def isRolloutAutoPromoted (world : World) (rolloutControls : Dict) : Bool :=
  match rolloutControls.get "full_enforce_after" with
  | .str fullAfter =>
    if strip fullAfter = "" then false
    else
      match fromisoformat (expandZulu (strip fullAfter).toList) with
      | none => false
      | some (wall,zone) => decide (wall - zone.getD 0 ≤ world.now)
  | _ => false

-- What cannot be read as a number is 0.
def canaryPercent (world : World) (rolloutControls : Dict) : Except Exc Int :=
  match toInt world.python (rolloutControls.getD "canary_percent" (.int 0)) with
  | .ok percent => .ok (max 0 (min 100 percent))
  | .error error => if error.kind = .typeError ∨ error.kind = .valueError then .ok 0 else .error error

def firstTruthy : List Value → Value
  | [] => .str ""
  | value :: rest => if value.truthy then value else firstTruthy rest

def bucketKey (ctxDict : Dict) : String :=
  (firstTruthy [ctxDict.get "policy_rollout_key",ctxDict.get "request_id",ctxDict.get "trace_id",ctxDict.get "actor"]).text

def requestedEnforcement (world : World) (ctxDict : Dict) : Value :=
  match ctxDict.get "policy_runtime_enforce" with
  | .none =>
    match world.setting.env "VERITAS_POLICY_RUNTIME_ENFORCE" with
    | some raw => .str raw
    | none => .bool (deriveDefaults world.setting.env (resolvePosture world.setting.env)).policyRuntimeEnforce
  | value => value

def isEnforcementEnabledForRollout (world : World) (ctxDict : Dict) (decision : PolicyEvaluationResult) : Except Exc (Bool × String) :=
  if !coercePolicyEnforceFlag (requestedEnforcement world ctxDict) then .ok (false,"enforcement_disabled")
  else
    let rolloutControls := resolveRolloutControls decision
    let strategy := lower (strip (rolloutControls.getD "strategy" (.str "full")).text)
    if strategy = "" ∨ strategy = "full" then .ok (true,"full")
    else if strategy = "disabled" then .ok (false,"rollout_disabled")
    else if strategy = "canary" ∨ strategy = "staged" then
      if isRolloutAutoPromoted world rolloutControls then .ok (true,"full_auto_promoted")
      else do
        let percent ← canaryPercent world rolloutControls
        if world.inCanary (bucketKey ctxDict) percent then .ok (true,strategy) else .ok (false,strategy ++ "_skip")
    else .ok (true,"full_unknown_strategy")

-- load_runtime_bundle(bundle_dir) and the evaluation of what it returned.
def evaluateBundle (world : World) (bundleDir : Value) (ctxDict : Dict) : Except Exc (RuntimePolicyBundle × PolicyEvaluationResult) :=
  match bundleDir with
  | .str directory => do
    let bundle ← loadRuntimeBundle world.setting directory (world.disk directory) none
    let result ← world.evaluateRuntimePolicies bundle ctxDict
    .ok (bundle,result)
  | other => .error (typeError ("expected str, bytes or os.PathLike object, not " ++ typeName other))

def subDict (dict : Dict) (name : String) : Dict :=
  match dict.getD name (.dict []) with
  | .dict members => members
  | _ => []

def secondsIso (instant : Int) : String := (plusSecondsIso (instant / 1000000 * 1000000) 0).toOption.getD ""

def governanceIdentity (world : World) (bundle : RuntimePolicyBundle) : Dict :=
  let signing := subDict bundle.manifest "signing"
  [(.str "policy_version",.str (bundle.version.orStr "")),(.str "digest",.str bundle.semanticHash),
   (.str "signature_verified",.bool (decide (lower (strip (signing.getD "algorithm" (.str "sha256")).text) = "ed25519"))),
   (.str "signer_id",.str (strip (signing.getD "key_id" (.str "")).text)),(.str "verified_at",.str (secondsIso world.now))]

def setGovernance (name : String) (value : Value) (ctx : PipelineContext) : PipelineContext :=
  { ctx with responseExtras := ctx.responseExtras.set "governance" (.dict ((subDict ctx.responseExtras "governance").set name value)) }

def rolloutRecord (enforced : Bool) (state : String) (decision : PolicyEvaluationResult) : Dict :=
  [(.str "enforced",.bool enforced),(.str "state",.str state),(.str "rollback",.dict (resolveRollbackMetadata decision))]

def setStatus (status : String) (ctx : PipelineContext) : PipelineContext := { ctx with fujiDict := ctx.fujiDict.set "status" (.str status) }

def appendReason (reason : String) : Stage := fun ctx =>
  match ctx.fujiDict.getD "reasons" (.list []) with
  | .list reasons => (.ok (),{ ctx with fujiDict := ctx.fujiDict.set "reasons" (.list (reasons ++ [.str reason])) })
  | other => (.error (attributeError (typeName other ++ " object has no attribute 'append'")),ctx)

def enforceOutcome (outcome : Outcome) : Stage :=
  match outcome with
  | .deny | .halt => andThen (change (setStatus "rejected")) (appendReason ("compiled_policy:" ++ outcome.text))
  | .escalate | .requireHumanReview => andThen (change (setStatus "modify")) (appendReason ("compiled_policy:" ++ outcome.text))
  | .allow => change id

def applyCompiledPolicyRuntimeBridge (world : World) : Stage := fun ctx =>
  let bundleDir := ctx.context.get "compiled_policy_bundle_dir"
  if !bundleDir.truthy then (.ok (),ctx)
  else
    match evaluateBundle world bundleDir ctx.context with
    | .error error =>
      if error.kind ∈ [.osError,.valueError,.typeError,.keyError] then (.ok (),ctx) else (.error error,ctx)
    | .ok (bundle,decision) =>
      let recorded := { setGovernance "compiled_policy" (.dict decision.toDict) ctx with governanceIdentity := some (governanceIdentity world bundle) }
      match isEnforcementEnabledForRollout world ctx.context decision with
      | .error error => (.error error,recorded)
      | .ok (enforce,state) =>
        let rolledOut := setGovernance "compiled_policy_rollout" (.dict (rolloutRecord enforce state decision)) recorded
        if enforce then enforceOutcome decision.finalOutcome rolledOut else (.ok (),rolledOut)

def buildFailClosedFujiPrecheck (reason : String) : Dict :=
  [(.str "status",.str "rejected"),(.str "reasons",strList [reason]),(.str "violations",strList ["fuji_precheck_unavailable"]),
   (.str "risk",.float one),(.str "modifications",.list [])]

def validated (result : Except Exc Value) : Except Exc Value :=
  match result with
  | .ok value => .ok value
  | .error error =>
    if error.kind ∈ [.runtimeError,.valueError,.typeError,.attributeError] then .ok (.dict (buildFailClosedFujiPrecheck "fuji_precheck_error"))
    else .error error

def fujiPre (world : World) (ctx : PipelineContext) : Except Exc Value :=
  match world.fujiCore with
  | none => .ok (.dict (buildFailClosedFujiPrecheck "fuji_precheck_missing"))
  | some core =>
    match core.validateAction,core.validate with
    | some check,_ => validated (check ctx.query ctx.context)
    | none,some check => validated (check ctx.query ctx.context)
    | none,none => .ok (.dict (buildFailClosedFujiPrecheck "fuji_precheck_missing"))

def statusMap : List (String × String) :=
  [("ok","allow"),("allow","allow"),("pass","allow"),("modify","modify"),("block","rejected"),("deny","rejected"),("rejected","rejected")]

def mappedStatus (fuji : Dict) : String :=
  ((statusMap.find? fun entry => entry.1 == lower (fuji.getD "status" (.str "rejected")).text).map Prod.snd).getD "rejected"

-- A result that is no mapping is left out.
def mergeFuji (pre : Value) (ctx : PipelineContext) : PipelineContext :=
  match pre with
  | .dict fuji => { ctx with fujiDict := ctx.fujiDict.update (Dict.set fuji "status" (.str (mappedStatus fuji))) }
  | _ => ctx

def isBlankField (value : Value) : Bool := value == .none || value == .str ""

def clip01 (x : FloatValue) : FloatValue :=
  let capped := if floatLess x one then x else one
  if floatLess zero capped then capped else zero

def pointFiveFive : FloatValue := .finite ⟨"0.55",by decide⟩
def pointEight : FloatValue := .finite ⟨"0.8",by decide⟩
def pointNine : FloatValue := .finite ⟨"0.9",by decide⟩

def normEvidenceItem (python : Python) (ev : Dict) : Option Dict :=
  let ev := if !ev.has "confidence" && ev.has "weight" then ev.set "confidence" (ev.get "weight") else ev
  let ev := if isBlankField (ev.get "title") && ev.has "kind" then ev.set "title" (.str ("local:" ++ (ev.get "kind").text)) else ev
  let ev := if isBlankField (ev.get "uri") && ev.has "kind" then ev.set "uri" (.str ("internal:evidence:" ++ (ev.get "kind").text)) else ev
  let source := if isBlankField (ev.get "source") then "local" else (ev.get "source").text
  let uri := if ev.get "uri" == .none then .none else .str (ev.get "uri").text
  let snippet := if ev.get "snippet" == .none then "" else (ev.get "snippet").text
  let confidence := if ev.get "confidence" == .none then .float pointFiveFive else ev.get "confidence"
  match python.float confidence with
  | .error _ => none
  | .ok x =>
    some [(.str "source",.str source),(.str "uri",uri),(.str "title",.str ((ev.get "title").orStr "")),(.str "snippet",.str snippet),
      (.str "confidence",.float (clip01 x))]

def joinTexts (sep : String) (items : Value) : Except Exc String := do
  let parts ← listFrom items
  let texts ← parts.mapM fun part =>
    match part with
    | .str s => .ok s
    | other => .error (typeError ("sequence item: expected str instance, " ++ typeName other ++ " found"))
  .ok (sep.intercalate texts)

def isFinite : FloatValue → Bool
  | .finite _ => true
  | _ => false

-- What is no finite number is the greatest risk.
def riskOf (python : Python) (fuji : Dict) : Except Exc FloatValue :=
  match python.float (fuji.getD "risk" (.float zero)) with
  | .ok risk => .ok (clip01 (if isFinite risk then risk else one))
  | .error error => if error.kind = .valueError ∨ error.kind = .typeError then .ok one else .error error

def shownList (sep : String) (items : Value) : Except Exc String := if items.truthy then joinTexts sep items else .ok "-"

def fujiSnippet (world : World) (fuji : Dict) : Except Exc String := do
  let risk ← riskOf world.python fuji
  let reasons ← shownList "; " (fuji.getD "reasons" (.list []))
  let violations ← shownList ", " (fuji.getD "violations" (.list []))
  .ok ("[FUJI pre] status=" ++ (fuji.getD "status" (.str "allow")).text ++ ", risk=" ++ floatStr risk ++ ", reasons=" ++ reasons ++
    ", violations=" ++ violations)

def fujiEvidence (world : World) (fuji : Dict) (snippet : String) : Option Dict :=
  let status := fuji.getD "status" (.str "allow")
  let confidence := if status == .str "modify" || status == .str "rejected" then pointNine else pointEight
  normEvidenceItem world.python [(.str "source",.str "internal:fuji"),(.str "uri",.none),(.str "snippet",.str snippet),
    (.str "confidence",.float confidence)]

def addFujiEvidence (world : World) : Stage :=
  using_ (fun ctx => fujiSnippet world ctx.fujiDict) fun snippet =>
    change fun ctx => { ctx with evidence := ctx.evidence ++ (fujiEvidence world ctx.fujiDict snippet).toList }

def stageFujiPrecheck (world : World) : Stage :=
  using_ (fujiPre world) fun pre =>
    andThen (change (mergeFuji pre)) (andThen (applyCompiledPolicyRuntimeBridge world) (addFujiEvidence world))

def orEmptyList (value : Value) : Value := if value.truthy then value else .list []

def reject (reason : String) (ctx : PipelineContext) : PipelineContext :=
  { ctx with decisionStatus := "rejected",rejectionReason := some reason,chosen := [],alternatives := [] }

def gateOpen (ctx : PipelineContext) : PipelineContext :=
  { ctx with decisionStatus := "allow",rejectionReason := none,modifications := orEmptyList (ctx.fujiDict.get "modifications") }

def riskDelta (ctx : PipelineContext) : Except Exc (Option Value) :=
  match ctx.debate with
  | .list (first :: _) =>
    if !first.truthy then .ok (some (.float zero))
    else
      match first with
      | .dict members => .ok (some (Dict.getD members "risk_delta" (.float zero)))
      | other => .error (attributeError (typeName other ++ " object has no attribute 'get'"))
  | _ => .ok none

def raisedRisk (world : World) (delta : FloatValue) (ctx : PipelineContext) : Except Exc FloatValue := do
  let risk ← world.python.float (ctx.fujiDict.getD "risk" (.float zero))
  .ok (clip01 (world.python.plus risk delta))

def dampedRisk (world : World) (weight newRisk : FloatValue) (ctx : PipelineContext) : Except Exc FloatValue := do
  let weighted ← world.python.times weight (.float ctx.valueEma)
  let damped ← world.python.times newRisk (.float (world.minus one weighted))
  .ok (clip01 damped)

def debateDelta (world : World) (ctx : PipelineContext) : Except Exc FloatValue := do
  match ← riskDelta ctx with
  | none => .ok zero
  | some raw => world.python.float raw

def mergeDebateRisk (world : World) (weight : FloatValue) : Stage :=
  catching [.valueError,.typeError] <| using_ (debateDelta world) fun delta =>
    if (Value.float delta).truthy then
      using_ (raisedRisk world delta) fun newRisk =>
        andThen (change fun ctx => { ctx with fujiDict := ctx.fujiDict.set "risk" (.float newRisk) }) <|
          using_ (dampedRisk world weight newRisk) fun risk => change fun ctx => { ctx with effectiveRisk := risk }
    else change id

def floatAtLeast (x y : FloatValue) : Bool :=
  match floatNumber x,floatNumber y with
  | some m,some n => n.le m
  | _,_ => false

def rejectionReasons (fuji : Dict) : Value :=
  let reasons := fuji.getD "reasons" (.list [])
  if reasons.truthy then reasons else strList ["policy_violation"]

-- The status is rejected before the reasons are joined, which may raise.
def rejectForReasons : Stage :=
  andThen (change fun ctx => { ctx with decisionStatus := "rejected" })
    (using_ (fun ctx => joinTexts ", " (rejectionReasons ctx.fujiDict)) fun reasons => change (reject ("FUJI gate: " ++ reasons)))

def applyFujiStatus (world : World) : Stage := fun ctx =>
  if ctx.status = .str "modify" then (.ok (),{ ctx with modifications := orEmptyList (ctx.fujiDict.get "modifications") })
  else if ctx.status = .str "rejected" then rejectForReasons ctx
  else if floatAtLeast ctx.effectiveRisk pointNine && floatLess ctx.telos ctx.telosThreshold then
    (.ok (),reject ("FUJI gate: high risk (" ++ world.fixed2 ctx.effectiveRisk ++ ") & low telos (<" ++ world.fixed2 ctx.telosThreshold ++ ")") ctx)
  else (.ok (),ctx)

def uniquePreserveOrder (values : List String) : List String :=
  values.foldl (fun kept value => if value ∈ kept then kept else kept ++ [value]) []

def evidenceKeys (value : Value) : Except Exc (List String) := do
  let items ← listFrom (orEmptyList value)
  .ok (uniquePreserveOrder ((items.filter fun item => strip item.text != "").map fun item => lower (strip item.text)))

def normalizeRequiredEvidenceKeys (world : World) (values : List String) : List String :=
  ((values.map fun value => lower (strip value)).filter (· != "")).map fun key => (world.requiredEvidenceAliasMap key).getD key

def canonicalItem (world : World) (item : String) : Except Exc String :=
  match normalizeRequiredEvidenceKeys world [item] with
  | key :: _ => .ok key
  | [] => .error ⟨.other,"list index out of range"⟩

def missingEvidence (world : World) (context : Dict) : Except Exc (List String) := do
  let required ← evidenceKeys (context.get "required_evidence")
  let satisfied ← evidenceKeys (context.get "satisfied_evidence")
  let canonical ← required.mapM fun item => do
    let key ← canonicalItem world item
    .ok (item,key)
  .ok ((canonical.filter fun entry => !(normalizeRequiredEvidenceKeys world satisfied).contains entry.2).map Prod.fst)

def requireHumanReview (ctx : PipelineContext) : PipelineContext := { ctx with context := ctx.context.set "human_review_required" (.bool true) }

def hold (reason : String) (ctx : PipelineContext) : PipelineContext := { ctx with decisionStatus := "hold",rejectionReason := some reason }

def sortedItems (texts : List String) : List String := texts.insertionSort fun a b => textLe a b = true

def stopOnMissingEvidence (world : World) : Stage :=
  using_ (fun ctx => missingEvidence world ctx.context) fun missing => change fun ctx =>
    if ctx.decisionStatus = "allow" ∧ missing ≠ [] then
      hold ("FUJI gate: required_evidence_missing=" ++ ",".intercalate (sortedItems missing)) (requireHumanReview ctx)
    else ctx

def isHighRiskAmbiguity (ctx : PipelineContext) : Bool :=
  (ctx.context.get "high_risk_ambiguity").truthy || ((ctx.context.get "ambiguity_detected").truthy && floatAtLeast ctx.effectiveRisk pointEight)

def stopOnAmbiguity (ctx : PipelineContext) : PipelineContext :=
  if isHighRiskAmbiguity ctx then
    if ctx.decisionStatus = "allow" then hold "FUJI gate: high_risk_ambiguity_requires_human_review" (requireHumanReview ctx)
    else requireHumanReview ctx
  else ctx

def stopOnMissingAuditTrail (ctx : PipelineContext) : PipelineContext :=
  if (ctx.context.get "irreversible_action").truthy && !(ctx.context.getD "audit_trail_complete" (.bool true)).truthy then
    reject "FUJI gate: irreversible_action_without_audit_trail" (requireHumanReview ctx)
  else ctx

def latencyRecorded (world : World) (extras : Dict) : Except Exc Dict := do
  let metrics ← subscript (.dict extras) "metrics"
  let latencies ← subscript metrics "stage_latency"
  match metrics,latencies with
  | .dict metrics,.dict latencies =>
    .ok (extras.set "metrics" (.dict (Dict.set metrics "stage_latency" (.dict (Dict.set latencies "gate" (.int (max 0 world.gateLatencyMs)))))))
  | _,other => .error (typeError (typeName other ++ " object does not support item assignment"))

def recordLatency (world : World) : Stage :=
  using_ (fun ctx => latencyRecorded world ctx.responseExtras) fun extras => change fun ctx => { ctx with responseExtras := extras }

def riskEmaWeight (world : World) : Except Exc FloatValue :=
  world.python.float (.str ((world.setting.env "VERITAS_RISK_EMA_WEIGHT").getD "0.15"))

def stageGateDecision (world : World) : Stage :=
  andThen (change gateOpen) <| using_ (fun _ => riskEmaWeight world) fun weight =>
    andThen (mergeDebateRisk world weight) <| andThen (applyFujiStatus world) <| andThen (stopOnMissingEvidence world) <|
      andThen (change (stopOnMissingAuditTrail ∘ stopOnAmbiguity)) (recordLatency world)

section Stages
variable {first second stage : Stage} {ctx : PipelineContext}

theorem andThen_ok : andThen first second ctx = (.ok (),last) ↔ ∃ next, first ctx = (.ok (),next) ∧ second next = (.ok (),last) := by
  unfold andThen
  rcases first ctx with ⟨error | ⟨⟩,next⟩
  · simp
  · simp

theorem using_ok : using_ compute next ctx = (.ok (),last) ↔ ∃ value, compute ctx = .ok value ∧ next value ctx = (.ok (),last) := by
  unfold using_
  cases compute ctx with
  | error error => simp
  | ok value => simp

-- Whatever it ends in, the stage leaves this part of the context as it was.
def Leaves (part : PipelineContext → α) (stage : Stage) : Prop := ∀ ctx, part (stage ctx).2 = part ctx

variable {part : PipelineContext → α}

theorem leaves_change (same : ∀ ctx, part (f ctx) = part ctx) : Leaves part (change f) := same

theorem leaves_andThen (early : Leaves part first) (late : Leaves part second) : Leaves part (andThen first second) := by
  intro ctx
  have here := early ctx
  unfold andThen
  rcases ran : first ctx with ⟨error | ⟨⟩,next⟩
  · rw [ran] at here
    exact here
  · rw [ran] at here
    exact (late next).trans here

theorem leaves_using (each : ∀ value, Leaves part (next value)) : Leaves part (using_ compute next) := by
  intro ctx
  unfold using_
  cases compute ctx with
  | error error => rfl
  | ok value => exact each value ctx

theorem leaves_catching (inside : Leaves part stage) : Leaves part (catching kinds stage) := by
  intro ctx
  have here := inside ctx
  unfold catching
  rcases ran : stage ctx with ⟨error | ⟨⟩,next⟩
  · rw [ran] at here
    dsimp only
    split
    · exact here
    · exact here
  · rw [ran] at here
    exact here

end Stages

def severity (status : Value) : Nat := if status = .str "rejected" then 2 else if status = .str "modify" then 1 else 0

def Outcome.enforcedStatus (outcome : Outcome) (status : Value) : Value :=
  match outcome with
  | .deny | .halt => .str "rejected"
  | .escalate | .requireHumanReview => .str "modify"
  | .allow => status

theorem setStatus_status (status : String) (ctx : PipelineContext) : (setStatus status ctx).status = .str status := get_set

theorem appendReason_leaves (reason : String) : Leaves PipelineContext.status (appendReason reason) := by
  intro ctx
  unfold appendReason
  split
  · exact get_set_other (by decide)
  · rfl

theorem enforced_status (status reason : String) (ctx : PipelineContext) :
    (andThen (change (setStatus status)) (appendReason reason) ctx).2.status = .str status :=
  (appendReason_leaves reason (setStatus status ctx)).trans (setStatus_status status ctx)

theorem enforceOutcome_status (outcome : Outcome) (ctx : PipelineContext) :
    (enforceOutcome outcome ctx).2.status = outcome.enforcedStatus ctx.status := by
  cases outcome with
  | allow => rfl
  | _ => exact enforced_status _ _ ctx

-- The bundle in the context is loaded and evaluated to this outcome, and the rollout has it enforced.
structure Enforces (world : World) (ctx : PipelineContext) (outcome : Outcome) : Prop where
  named : (ctx.context.get "compiled_policy_bundle_dir").truthy = true
  decided : ∃ bundle decision state, evaluateBundle world (ctx.context.get "compiled_policy_bundle_dir") ctx.context = .ok (bundle,decision) ∧
    isEnforcementEnabledForRollout world ctx.context decision = .ok (true,state) ∧ decision.finalOutcome = outcome

theorem bridge_status (world : World) (ctx : PipelineContext) :
    (∃ outcome, Enforces world ctx outcome ∧ (applyCompiledPolicyRuntimeBridge world ctx).2.status = outcome.enforcedStatus ctx.status) ∨
      ((∀ outcome, ¬Enforces world ctx outcome) ∧ (applyCompiledPolicyRuntimeBridge world ctx).2.status = ctx.status) := by
  unfold applyCompiledPolicyRuntimeBridge
  dsimp only
  cases named : (ctx.context.get "compiled_policy_bundle_dir").truthy with
  | false =>
    refine .inr ⟨fun outcome enforces => ?_,rfl⟩
    rw [enforces.named] at named
    cases named
  | true =>
    simp only [Bool.not_true,Bool.false_eq_true,if_false]
    cases evaluated : evaluateBundle world (ctx.context.get "compiled_policy_bundle_dir") ctx.context with
    | error error =>
      refine .inr ⟨?_,?_⟩
      · rintro outcome ⟨_,_,_,_,found,_⟩
        cases evaluated.symm.trans found
      · dsimp only
        split
        · rfl
        · rfl
    | ok both =>
      obtain ⟨bundle,decision⟩ := both
      dsimp only
      cases enabled : isEnforcementEnabledForRollout world ctx.context decision with
      | error error =>
        refine .inr ⟨?_,rfl⟩
        rintro outcome ⟨_,_,_,_,found,rolledOut,_⟩
        cases evaluated.symm.trans found
        cases enabled.symm.trans rolledOut
      | ok rollout =>
        obtain ⟨enforce,state⟩ := rollout
        cases enforce with
        | false =>
          refine .inr ⟨?_,rfl⟩
          rintro outcome ⟨_,_,_,_,found,rolledOut,_⟩
          cases evaluated.symm.trans found
          cases enabled.symm.trans rolledOut
        | true => exact .inl ⟨_,⟨named,bundle,decision,state,evaluated,enabled,rfl⟩,enforceOutcome_status _ _⟩

-- A verdict that asks for a human is enforced on a request that FUJI had rejected.
structure Relaxes (world : World) (ctx : PipelineContext) : Prop where
  rejected : ctx.status = .str "rejected"
  softer : Enforces world ctx .escalate ∨ Enforces world ctx .requireHumanReview

theorem severity_rejected : severity (.str "rejected") = 2 := by decide
theorem severity_modify : severity (.str "modify") = 1 := by decide

theorem severity_le (status : Value) : severity status ≤ 2 := by
  unfold severity
  split
  · exact Nat.le_refl 2
  · split
    · decide
    · decide

theorem severity_below (status : Value) : severity status ≤ 1 ↔ status ≠ .str "rejected" := by
  constructor
  · rintro below rfl
    rw [severity_rejected] at below
    omega
  · intro other
    rw [severity,if_neg other]
    split
    · decide
    · decide

theorem enforcedStatus_exact (outcome : Outcome) (status : Value) : severity status ≤ severity (outcome.enforcedStatus status) ↔
      ¬((outcome = .escalate ∨ outcome = .requireHumanReview) ∧ status = .str "rejected") := by
  cases outcome with
  | allow => simp [Outcome.enforcedStatus]
  | deny => simp [Outcome.enforcedStatus,severity_rejected,severity_le]
  | halt => simp [Outcome.enforcedStatus,severity_rejected,severity_le]
  | escalate => simp [Outcome.enforcedStatus,severity_modify,severity_below]
  | requireHumanReview => simp [Outcome.enforcedStatus,severity_modify,severity_below]

variable {world : World} {ctx : PipelineContext}

theorem enforces_unique (first : Enforces world ctx left) (second : Enforces world ctx right) : left = right := by
  obtain ⟨_,_,decision,_,evaluated,_,rfl⟩ := first
  obtain ⟨_,_,_,_,found,_,rfl⟩ := second
  cases evaluated.symm.trans found
  rfl

theorem bridge_severity_exact (world : World) (ctx : PipelineContext) :
    severity ctx.status ≤ severity (applyCompiledPolicyRuntimeBridge world ctx).2.status ↔ ¬Relaxes world ctx := by
  rcases bridge_status world ctx with ⟨outcome,enforces,status⟩ | ⟨idle,status⟩
  · rw [status,enforcedStatus_exact,not_iff_not]
    constructor
    · rintro ⟨rfl | rfl,rejected⟩
      · exact ⟨rejected,.inl enforces⟩
      · exact ⟨rejected,.inr enforces⟩
    · rintro ⟨rejected,softer⟩
      exact ⟨softer.imp (enforces_unique enforces) (enforces_unique enforces),rejected⟩
  · rw [status]
    refine iff_of_true (Nat.le_refl _) fun relaxes => ?_
    rcases relaxes.softer with enforces | enforces
    · exact idle _ enforces
    · exact idle _ enforces

theorem mergeDebateRisk_leaves (world : World) (weight : FloatValue) : Leaves PipelineContext.status (mergeDebateRisk world weight) := by
  refine leaves_catching (leaves_using fun delta => ?_)
  split
  · refine leaves_using fun newRisk => leaves_andThen (leaves_change fun ctx => ?_) (leaves_using fun risk => leaves_change fun _ => rfl)
    exact get_set_other (by decide)
  · exact leaves_change fun _ => rfl

theorem applyFujiStatus_rejects (rejected : ctx.status = .str "rejected")
    (returned : applyFujiStatus world ctx = (.ok (),next)) : next.decisionStatus = "rejected" := by
  rw [applyFujiStatus,rejected,if_neg (by decide),if_pos rfl] at returned
  obtain ⟨_,_,returned⟩ := andThen_ok.mp returned
  obtain ⟨reasons,_,returned⟩ := using_ok.mp returned
  cases returned
  rfl

theorem stopOnMissingEvidence_rejected (rejected : ctx.decisionStatus = "rejected")
    (returned : stopOnMissingEvidence world ctx = (.ok (),next)) : next.decisionStatus = "rejected" := by
  obtain ⟨missing,_,returned⟩ := using_ok.mp returned
  cases returned
  dsimp only
  rw [if_neg]
  · exact rejected
  · rintro ⟨allowed,_⟩
    rw [rejected] at allowed
    exact absurd allowed (by decide)

theorem stopOnAmbiguity_rejected (rejected : ctx.decisionStatus = "rejected") : (stopOnAmbiguity ctx).decisionStatus = "rejected" := by
  unfold stopOnAmbiguity
  rw [rejected,if_neg (show ¬"rejected" = "allow" by decide)]
  split
  · exact rejected
  · exact rejected

theorem stopOnMissingAuditTrail_rejected (rejected : ctx.decisionStatus = "rejected") :
    (stopOnMissingAuditTrail ctx).decisionStatus = "rejected" := by
  unfold stopOnMissingAuditTrail
  split
  · rfl
  · exact rejected

structure Gated (world : World) (ctx decided : PipelineContext) (weight : FloatValue) (merged judged checked : PipelineContext) : Prop where
  weighed : riskEmaWeight world = .ok weight
  merges : mergeDebateRisk world weight (gateOpen ctx) = (.ok (),merged)
  judges : applyFujiStatus world merged = (.ok (),judged)
  checks : stopOnMissingEvidence world judged = (.ok (),checked)
  records : recordLatency world (stopOnMissingAuditTrail (stopOnAmbiguity checked)) = (.ok (),decided)

theorem gate_ok :
    stageGateDecision world ctx = (.ok (),decided) ↔ ∃ weight merged judged checked, Gated world ctx decided weight merged judged checked := by
  constructor
  · intro returned
    obtain ⟨opened,same,returned⟩ := andThen_ok.mp returned
    cases same
    obtain ⟨weight,weighed,returned⟩ := using_ok.mp returned
    obtain ⟨merged,merges,returned⟩ := andThen_ok.mp returned
    obtain ⟨judged,judges,returned⟩ := andThen_ok.mp returned
    obtain ⟨checked,checks,returned⟩ := andThen_ok.mp returned
    obtain ⟨stopped,stops,records⟩ := andThen_ok.mp returned
    cases stops
    exact ⟨weight,merged,judged,checked,weighed,merges,judges,checks,records⟩
  · rintro ⟨weight,merged,judged,checked,gated⟩
    refine andThen_ok.mpr ⟨_,rfl,using_ok.mpr ⟨weight,gated.weighed,andThen_ok.mpr ⟨merged,gated.merges,?_⟩⟩⟩
    exact andThen_ok.mpr ⟨judged,gated.judges,andThen_ok.mpr ⟨checked,gated.checks,andThen_ok.mpr ⟨_,rfl,gated.records⟩⟩⟩

theorem merged_status (merges : mergeDebateRisk world weight (gateOpen ctx) = (.ok (),merged)) : merged.status = ctx.status := by
  have kept := mergeDebateRisk_leaves world weight (gateOpen ctx)
  rw [merges] at kept
  exact kept

theorem gate_rejects (rejected : ctx.status = .str "rejected")
    (returned : stageGateDecision world ctx = (.ok (),decided)) : decided.decisionStatus = "rejected" := by
  obtain ⟨weight,merged,judged,checked,gated⟩ := gate_ok.mp returned
  have still := (merged_status gated.merges).trans rejected
  have stopped := stopOnMissingEvidence_rejected (applyFujiStatus_rejects still gated.judges) gated.checks
  obtain ⟨extras,_,records⟩ := using_ok.mp gated.records
  cases records
  exact stopOnMissingAuditTrail_rejected (stopOnAmbiguity_rejected stopped)

-- The gate decides whenever what it reads can be read: the weight and the debate, the reasons of a
-- rejection, the lists of evidence, and the place of the latency.
structure GateReadable (world : World) (ctx : PipelineContext) : Prop where
  weighed : ∃ weight merged, riskEmaWeight world = .ok weight ∧ mergeDebateRisk world weight (gateOpen ctx) = (.ok (),merged) ∧
    (ctx.status = .str "rejected" → ∃ reasons, joinTexts ", " (rejectionReasons merged.fujiDict) = .ok reasons)
  evidence : ∃ missing, missingEvidence world ctx.context = .ok missing
  latency : ∃ extras, latencyRecorded world ctx.responseExtras = .ok extras

theorem mergeDebateRisk_frame (world : World) (weight : FloatValue) :
    Leaves (fun ctx => (ctx.context,ctx.responseExtras)) (mergeDebateRisk world weight) := by
  refine leaves_catching (leaves_using fun delta => ?_)
  split
  · exact leaves_using fun newRisk => leaves_andThen (leaves_change fun _ => rfl) (leaves_using fun risk => leaves_change fun _ => rfl)
  · exact leaves_change fun _ => rfl

theorem rejectForReasons_frame : Leaves (fun ctx => (ctx.context,ctx.responseExtras)) rejectForReasons :=
  leaves_andThen (leaves_change fun _ => rfl) (leaves_using fun _ => leaves_change fun _ => rfl)

theorem applyFujiStatus_frame (world : World) : Leaves (fun ctx => (ctx.context,ctx.responseExtras)) (applyFujiStatus world) := by
  intro ctx
  unfold applyFujiStatus
  split
  · rfl
  · split
    · exact rejectForReasons_frame ctx
    · split
      · rfl
      · rfl

theorem stopOnMissingEvidence_frame (world : World) : Leaves PipelineContext.responseExtras (stopOnMissingEvidence world) := by
  refine leaves_using fun missing => leaves_change fun ctx => ?_
  split
  · rfl
  · rfl

theorem stops_frame (ctx : PipelineContext) : (stopOnMissingAuditTrail (stopOnAmbiguity ctx)).responseExtras = ctx.responseExtras := by
  have ambiguity : (stopOnAmbiguity ctx).responseExtras = ctx.responseExtras := by
    unfold stopOnAmbiguity
    split
    · split
      · rfl
      · rfl
    · rfl
  rw [← ambiguity]
  unfold stopOnMissingAuditTrail
  split
  · rfl
  · rfl

theorem applyFujiStatus_returns : (∃ next, applyFujiStatus world ctx = (.ok (),next)) ↔
      (ctx.status = .str "rejected" → ∃ reasons, joinTexts ", " (rejectionReasons ctx.fujiDict) = .ok reasons) := by
  constructor
  · rintro ⟨next,returned⟩ rejected
    rw [applyFujiStatus,rejected,if_neg (by decide),if_pos rfl] at returned
    obtain ⟨marked,same,returned⟩ := andThen_ok.mp returned
    cases same
    obtain ⟨reasons,joined,_⟩ := using_ok.mp returned
    exact ⟨reasons,joined⟩
  · intro readable
    unfold applyFujiStatus
    split
    · exact ⟨_,rfl⟩
    · split
      · rename_i rejected
        obtain ⟨reasons,joined⟩ := readable rejected
        exact ⟨_,andThen_ok.mpr ⟨_,rfl,using_ok.mpr ⟨reasons,joined,rfl⟩⟩⟩
      · split
        · exact ⟨_,rfl⟩
        · exact ⟨_,rfl⟩

theorem gate_returns_exact (world : World) (ctx : PipelineContext) :
    (∃ decided, stageGateDecision world ctx = (.ok (),decided)) ↔ GateReadable world ctx := by
  have mergedFrame {weight : FloatValue} {merged : PipelineContext} (merges : mergeDebateRisk world weight (gateOpen ctx) = (.ok (),merged)) :
      (merged.context,merged.responseExtras) = (ctx.context,ctx.responseExtras) := by
    have kept := mergeDebateRisk_frame world weight (gateOpen ctx)
    rw [merges] at kept
    exact kept
  have judgedFrame {merged judged : PipelineContext} (judges : applyFujiStatus world merged = (.ok (),judged)) :
      (judged.context,judged.responseExtras) = (merged.context,merged.responseExtras) := by
    have kept := applyFujiStatus_frame world merged
    rw [judges] at kept
    exact kept
  have checkedFrame {judged checked : PipelineContext} (checks : stopOnMissingEvidence world judged = (.ok (),checked)) :
      checked.responseExtras = judged.responseExtras := by
    have kept := stopOnMissingEvidence_frame world judged
    rw [checks] at kept
    exact kept
  constructor
  · rintro ⟨decided,returned⟩
    obtain ⟨weight,merged,judged,checked,gated⟩ := gate_ok.mp returned
    have whole := (judgedFrame gated.judges).trans (mergedFrame gated.merges)
    have reasons := applyFujiStatus_returns.mp ⟨judged,gated.judges⟩
    rw [merged_status gated.merges] at reasons
    obtain ⟨missing,missed,_⟩ := using_ok.mp gated.checks
    obtain ⟨extras,recorded,_⟩ := using_ok.mp gated.records
    rw [(Prod.mk.inj whole).1] at missed
    rw [stops_frame,checkedFrame gated.checks,(Prod.mk.inj whole).2] at recorded
    exact ⟨⟨weight,merged,gated.weighed,gated.merges,reasons⟩,⟨missing,missed⟩,⟨extras,recorded⟩⟩
  · rintro ⟨⟨weight,merged,weighed,merges,reasons⟩,⟨missing,missed⟩,⟨extras,recorded⟩⟩
    rw [← merged_status merges] at reasons
    obtain ⟨judged,judges⟩ := applyFujiStatus_returns.mpr reasons
    have whole := (judgedFrame judges).trans (mergedFrame merges)
    rw [← (Prod.mk.inj whole).1] at missed
    obtain ⟨checked,checks⟩ : ∃ checked, stopOnMissingEvidence world judged = (.ok (),checked) := ⟨_,using_ok.mpr ⟨missing,missed,rfl⟩⟩
    rw [← (Prod.mk.inj whole).2,← checkedFrame checks,← stops_frame checked] at recorded
    exact ⟨_,gate_ok.mpr ⟨weight,merged,judged,checked,weighed,merges,judges,checks,using_ok.mpr ⟨extras,recorded,rfl⟩⟩⟩

-- Between these two statuses FUJI was not relaxed: the later one is no milder, and after a rejection the
-- gate, whatever else it reads, rejects.
structure OnlyTightens (before after : Value) : Prop where
  severe : severity before ≤ severity after
  rejects : before = .str "rejected" → ∀ world later, later.status = after → GateReadable world later →
    ∃ decided, stageGateDecision world later = (.ok (),decided) ∧ decided.decisionStatus = "rejected"

theorem onlyTightens_iff (before after : Value) : OnlyTightens before after ↔ severity before ≤ severity after := by
  refine ⟨OnlyTightens.severe,fun severe => ⟨severe,?_⟩⟩
  rintro rfl world later same readable
  have rejected : after = .str "rejected" := by
    by_contra other
    have below := (severity_below after).mpr other
    rw [severity_rejected] at severe
    omega
  obtain ⟨decided,returned⟩ := (gate_returns_exact world later).mpr readable
  exact ⟨decided,returned,gate_rejects (same.trans rejected) returned⟩

theorem addFujiEvidence_leaves (world : World) : Leaves PipelineContext.status (addFujiEvidence world) :=
  leaves_using fun _ => leaves_change fun _ => rfl

theorem precheck_status (checked : fujiPre world ctx = .ok pre) :
    (stageFujiPrecheck world ctx).2.status = (applyCompiledPolicyRuntimeBridge world (mergeFuji pre ctx)).2.status := by
  have kept := addFujiEvidence_leaves world
  unfold stageFujiPrecheck using_
  rw [checked]
  dsimp only
  unfold andThen change
  dsimp only
  rcases applyCompiledPolicyRuntimeBridge world (mergeFuji pre ctx) with ⟨error | ⟨⟩,bridged⟩
  · rfl
  · exact kept bridged

theorem compiled_policy_tightens_exact (world : World) (ctx : PipelineContext) :
    (OnlyTightens ctx.status (applyCompiledPolicyRuntimeBridge world ctx).2.status ↔ ¬Relaxes world ctx) ∧
    ∀ pre, fujiPre world ctx = .ok pre →
      (OnlyTightens (mergeFuji pre ctx).status (stageFujiPrecheck world ctx).2.status ↔ ¬Relaxes world (mergeFuji pre ctx)) := by
  refine ⟨?_,fun pre checked => ?_⟩
  · rw [onlyTightens_iff]
    exact bridge_severity_exact world ctx
  · rw [onlyTightens_iff,precheck_status checked]
    exact bridge_severity_exact world (mergeFuji pre ctx)

def escalatingPolicy : List (String × Json) :=
  [("policy_id",.str "policy.transfer"),("version",.str "1"),("title",.str "transfer"),("description",.str "transfer"),
    ("scope",.obj [("domains",.arr [.str "payments"]),("routes",.arr [.str "/transfer"]),("actors",.arr [.str "agent"])]),
    ("conditions",.arr []),("constraints",.arr []),("requirements",.obj []),("outcome",.obj [("decision",.str "escalate")]),
    ("obligations",.arr []),("test_vectors",.arr [])]

def escalatingFiles : Files := fun path =>
  if path = "manifest.json" then .content (.text (dumps compact (.obj [])))
  else if path = canonicalIrPath then .content (.text (dumps compact (.obj escalatingPolicy)))
  else .absent

def policyId : Key × Value := (.str "policy_id",.str "policy.transfer")

def noApproval : Dict :=
  [(.str "required_reviewers",.list []),(.str "minimum_approval_count",.int 0),(.str "missing_reviewers",.list []),
   (.str "minimum_approval_met",.bool true)]

def escalated : PolicyEvaluationResult where
  applicablePolicies := [.str "policy.transfer"]
  triggeredPolicies := [.str "policy.transfer"]
  finalOutcome := .escalate
  reasons := [.str "transfer"]
  requiredActions := []
  obligations := []
  approvalRequirements := [policyId :: noApproval.set "approved_by" (.list [])]
  evidenceGaps := [[policyId,(.str "required_evidence",.list []),(.str "missing_evidence",.list [])]]
  explanations := [[policyId,(.str "summary",.str "transfer"),(.str "matched_conditions",.list []),(.str "matched_constraints",.list []),
    (.str "unmet_requirements",.list [])]]
  policyResults := [[policyId,(.str "applicable",.bool true),(.str "triggered",.bool true),(.str "outcome",.str "escalate"),
    (.str "matched_conditions",.list []),(.str "matched_constraints",.list []),(.str "unmet_requirements",.list []),
    (.str "missing_evidence",.list []),(.str "approval_requirements",.dict noApproval),(.str "obligations",.list []),
    (.str "metadata",.dict []),(.str "explanation",.str "transfer")]]

def fujiRejection : Dict :=
  [(.str "status",.str "rejected"),(.str "reasons",strList ["dangerous"]),(.str "violations",.list []),(.str "risk",.float one),
   (.str "modifications",.list [])]

def escalatingWorld : World where
  setting := ⟨⟨true,fun _ _ _ => .refused,fun _ => ""⟩,fun _ => none,fun _ => .absent⟩
  disk _ := escalatingFiles
  evaluateRuntimePolicies _ _ := .ok escalated
  fujiCore := some ⟨some fun _ _ => .ok (.dict fujiRejection),none⟩
  now := 0
  python := WatVerifier.samplePython
  minus x _ := x
  fixed2 := floatStr
  inCanary _ _ := false
  requiredEvidenceAliasMap _ := none
  gateLatencyMs := 0

def requestContext (bundleDir : Value) : PipelineContext where
  query := "transfer everything"
  context := [(.str "compiled_policy_bundle_dir",bundleDir),(.str "policy_runtime_enforce",.bool true),(.str "domain",.str "payments"),
    (.str "route",.str "/transfer"),(.str "actor",.str "agent")]
  responseExtras := []
  evidence := []
  chosen := []
  alternatives := []
  debate := .list []
  telos := zero
  fujiDict := []
  decisionStatus := "allow"
  rejectionReason := none
  modifications := .list []
  effectiveRisk := zero
  valueEma := zero
  telosThreshold := zero
  governanceIdentity := none

theorem escalatingFiles_load : ∃ bundle, loadRuntimeBundle escalatingWorld.setting "bundle" (escalatingWorld.disk "bundle") none = .ok bundle := by
  have strict : isStrict escalatingWorld.setting = false := by decide +kernel
  have unsigned : (escalatingWorld.disk "bundle" "manifest.sig").exists_ = false := by decide +kernel
  obtain ⟨policy,adapted⟩ : ∃ policy, adaptCanonicalIr (Dict.update [] (fromMembers escalatingPolicy)) = .ok policy := ⟨_,rfl⟩
  refine load_of_parts (readJsonFile_dumps _ compact []) (show declaredAlgorithm _ = .ok (.str "sha256") from rfl) ?_ ?_
    (readJsonFile_dumps _ compact escalatingPolicy) adapted
  · simp [checkSignature,unsigned,strict]
  · simp [checkAlgorithm,strict]

theorem escalation_lifts_rejection : fujiPre escalatingWorld (requestContext (.str "bundle")) = .ok (.dict fujiRejection) ∧
    (mergeFuji (.dict fujiRejection) (requestContext (.str "bundle"))).status = .str "rejected" ∧
    ¬OnlyTightens (mergeFuji (.dict fujiRejection) (requestContext (.str "bundle"))).status
      (stageFujiPrecheck escalatingWorld (requestContext (.str "bundle"))).2.status := by
  have checked : fujiPre escalatingWorld (requestContext (.str "bundle")) = .ok (.dict fujiRejection) := rfl
  have rejected : (mergeFuji (.dict fujiRejection) (requestContext (.str "bundle"))).status = .str "rejected" := by decide +kernel
  refine ⟨checked,rejected,fun tightens => ?_⟩
  have severe := tightens.severe
  rw [precheck_status checked,bridge_severity_exact] at severe
  obtain ⟨bundle,loaded⟩ := escalatingFiles_load
  refine severe ⟨rejected,.inl ⟨by decide +kernel,bundle,escalated,"full",?_,by decide +kernel,rfl⟩⟩
  exact bind_ok.mpr ⟨bundle,loaded,rfl⟩

theorem compiled_policy_tightens_sample : OnlyTightens (mergeFuji (.dict fujiRejection) (requestContext .none)).status
    (stageFujiPrecheck escalatingWorld (requestContext .none)).2.status := by
  refine ((compiled_policy_tightens_exact escalatingWorld (requestContext .none)).2 (.dict fujiRejection) rfl).mpr fun relaxes => ?_
  rcases relaxes.softer with enforces | enforces
  · exact absurd enforces.named (by decide +kernel)
  · exact absurd enforces.named (by decide +kernel)

end VeritasOs.PipelinePolicy
