import VeritasOs.PipelinePolicy

namespace VeritasOs.PipelinePolicy
open Text JsonText BindArtifacts Posture PolicyBundle

def enforceVariable : String := "VERITAS_POLICY_RUNTIME_ENFORCE"

def enforceFlag : String := "policy_runtime_enforce"

-- The world without the variable, and a context without the flag.
def unsetEnforce (world : World) : World :=
  { world with setting := { world.setting with env := fun name => if name = enforceVariable then none else world.setting.env name } }

def withoutFlag (ctxDict : Dict) : Dict := ctxDict.filter fun member => !decide (member.1 = .str enforceFlag)

theorem lookup_filter_other (other : wanted ≠ name) (dict : Dict) :
    lookup (.str wanted) (dict.filter fun member => !decide (member.1 = .str name)) = lookup (.str wanted) dict := by
  induction dict with
  | nil => rfl
  | cons head rest ih =>
    obtain ⟨key,value⟩ := head
    by_cases dropped : key = .str name
    · have missed : key ≠ .str wanted := fun same => other (Key.str.inj (same.symm.trans dropped))
      simp [lookup,dropped,Ne.symm other,ih]
    · by_cases found : key = .str wanted
      · simp [lookup,found,other]
      · simp [lookup,dropped,found,ih]

theorem withoutFlag_get (other : wanted ≠ enforceFlag) (ctxDict : Dict) : (withoutFlag ctxDict).get wanted = ctxDict.get wanted := by
  rw [Dict.get,withoutFlag,lookup_filter_other other,Dict.get]

theorem withoutFlag_flag (ctxDict : Dict) : (withoutFlag ctxDict).get enforceFlag = .none := by
  have missing : lookup (.str enforceFlag) (withoutFlag ctxDict) = none := by
    cases found : lookup (.str enforceFlag) (withoutFlag ctxDict) with
    | none => rfl
    | some value => simpa [withoutFlag] using lookup_mem found
  rw [Dict.get,missing,Option.getD_none]

theorem bucketKey_withoutFlag (ctxDict : Dict) : bucketKey (withoutFlag ctxDict) = bucketKey ctxDict := by
  rw [bucketKey,bucketKey,withoutFlag_get (by decide),withoutFlag_get (by decide),withoutFlag_get (by decide),withoutFlag_get (by decide)]

theorem resolvePosture_unset (world : World) : resolvePosture (unsetEnforce world).setting.env = resolvePosture world.setting.env := by
  have posture : (unsetEnforce world).setting.env "VERITAS_POSTURE" = world.setting.env "VERITAS_POSTURE" := rfl
  have fallback : (unsetEnforce world).setting.env "VERITAS_ENV" = world.setting.env "VERITAS_ENV" := rfl
  rw [resolvePosture,resolvePosture,posture,fallback]

theorem requested_default (prod : resolvePosture world.setting.env = .prod) (ctxDict : Dict) :
    requestedEnforcement (unsetEnforce world) (withoutFlag ctxDict) = .bool true := by
  have unset : (unsetEnforce world).setting.env "VERITAS_POLICY_RUNTIME_ENFORCE" = none := rfl
  have flag := withoutFlag_flag ctxDict
  rw [enforceFlag] at flag
  rw [requestedEnforcement,flag]
  dsimp only
  rw [unset]
  dsimp only
  rw [resolvePosture_unset,prod]
  rfl

theorem enforcement_requested (one : coercePolicyEnforceFlag (requestedEnforcement left first) = true)
    (two : coercePolicyEnforceFlag (requestedEnforcement right second) = true) (bucket : bucketKey first = bucketKey second)
    (now : left.now = right.now) (python : left.python = right.python) (canary : left.inCanary = right.inCanary) :
    isEnforcementEnabledForRollout left first decision = isEnforcementEnabledForRollout right second decision := by
  have promoted : isRolloutAutoPromoted left = isRolloutAutoPromoted right := by
    funext controls
    rw [isRolloutAutoPromoted,isRolloutAutoPromoted,now]
  have percent : canaryPercent left = canaryPercent right := by
    funext controls
    rw [canaryPercent,canaryPercent,python]
  rw [isEnforcementEnabledForRollout,isEnforcementEnabledForRollout,one,two,promoted,percent,bucket,canary]

def FullRollout (decision : PolicyEvaluationResult) : Prop :=
  lower (strip ((resolveRolloutControls decision).getD "strategy" (.str "full")).text) ∈ ["","full"]

-- Neither the flag of the request nor the variable changes what is enforced, and what a fully
-- rolled out policy stops is rejected.
structure EnforcementFixed (world : World) (ctx : PipelineContext) : Prop where
  fixed : ∀ decision, isEnforcementEnabledForRollout world ctx.context decision =
    isEnforcementEnabledForRollout (unsetEnforce world) (withoutFlag ctx.context) decision
  stops : ∀ bundle decision, (ctx.context.get "compiled_policy_bundle_dir").truthy = true →
    evaluateBundle world (ctx.context.get "compiled_policy_bundle_dir") ctx.context = .ok (bundle,decision) → FullRollout decision →
      decision.finalOutcome = .deny ∨ decision.finalOutcome = .halt →
        (applyCompiledPolicyRuntimeBridge world ctx).2.status = .str "rejected"

-- The flag of the request asks for enforcement; a request without one leaves it to the variable,
-- which is unset or asks for it too.
def AsksEnforcement (world : World) (ctxDict : Dict) : Prop :=
  match ctxDict.get "policy_runtime_enforce" with
  | .none => ∀ raw, world.setting.env "VERITAS_POLICY_RUNTIME_ENFORCE" = some raw → coercePolicyEnforceFlag (.str raw) = true
  | flag => coercePolicyEnforceFlag flag = true

theorem asks_exact (prod : resolvePosture world.setting.env = .prod) (ctxDict : Dict) :
    coercePolicyEnforceFlag (requestedEnforcement world ctxDict) = true ↔ AsksEnforcement world ctxDict := by
  unfold requestedEnforcement AsksEnforcement
  cases flag : ctxDict.get "policy_runtime_enforce" with
  | none =>
    dsimp only
    cases variable_ : world.setting.env "VERITAS_POLICY_RUNTIME_ENFORCE" with
    | none =>
      rw [prod]
      simp [deriveDefaults,coercePolicyEnforceFlag,Value.truthy]
    | some raw => simp
  | _ => rfl

theorem full_enforced (requested : coercePolicyEnforceFlag (requestedEnforcement world ctxDict) = true) (full : FullRollout decision) :
    isEnforcementEnabledForRollout world ctxDict decision = .ok (true,"full") := by
  simp only [FullRollout,List.mem_cons,List.not_mem_nil,or_false] at full
  simp [isEnforcementEnabledForRollout,requested,full]

def plainDecision : PolicyEvaluationResult := ⟨[],[],.deny,[],[],[],[],[],[],[]⟩

theorem plainDecision_full : FullRollout plainDecision := by
  unfold FullRollout
  decide

theorem enforcement_fixed_exact (world : World) (prod : resolvePosture world.setting.env = .prod) (ctx : PipelineContext) :
    EnforcementFixed world ctx ↔ AsksEnforcement world ctx.context := by
  have default_ : coercePolicyEnforceFlag (requestedEnforcement (unsetEnforce world) (withoutFlag ctx.context)) = true := by
    rw [requested_default prod]
    rfl
  rw [← asks_exact prod]
  constructor
  · intro held
    have same := held.fixed plainDecision
    rw [full_enforced default_ plainDecision_full] at same
    by_contra off
    rw [isEnforcementEnabledForRollout,Bool.eq_false_of_not_eq_true off] at same
    exact absurd (congrArg Prod.fst (Except.ok.inj same)) (by decide)
  · intro requested
    refine ⟨?_,?_⟩
    · intro decision
      exact enforcement_requested requested default_ (bucketKey_withoutFlag ctx.context).symm rfl rfl rfl
    · intro bundle decision named evaluated full stopping
      have enforces : Enforces world ctx decision.finalOutcome := ⟨named,bundle,decision,"full",evaluated,full_enforced requested full,rfl⟩
      rcases bridge_status world ctx with ⟨outcome,enforced,status⟩ | ⟨nothing,_⟩
      · rw [status,enforces_unique enforced enforces]
        rcases stopping with deny | halt
        · rw [deny]; rfl
        · rw [halt]; rfl
      · exact absurd enforces (nothing _)

def prodWorld : World :=
  { escalatingWorld with setting := { escalatingWorld.setting with env := fun name => if name = "VERITAS_POSTURE" then some "prod" else none } }

def flaggedContext (flag : Value) : PipelineContext :=
  { requestContext (.str "bundle") with context := [(.str "compiled_policy_bundle_dir",.str "bundle"),(.str "policy_runtime_enforce",flag)] }

theorem enforcement_fixed_sample : EnforcementFixed prodWorld (flaggedContext .none) :=
  (enforcement_fixed_exact prodWorld (by decide) (flaggedContext .none)).mpr (by simp [AsksEnforcement,flaggedContext,Dict.get,lookup,prodWorld])

theorem request_switches_off : resolvePosture prodWorld.setting.env = .prod ∧ ¬ EnforcementFixed prodWorld (flaggedContext (.bool false)) := by
  refine ⟨by decide,fun held => ?_⟩
  have same := held.fixed plainDecision
  have off : isEnforcementEnabledForRollout prodWorld (flaggedContext (.bool false)).context plainDecision = .ok (false,"enforcement_disabled") := rfl
  have on : isEnforcementEnabledForRollout (unsetEnforce prodWorld) (withoutFlag (flaggedContext (.bool false)).context) plainDecision =
      .ok (true,"full") := by decide +kernel
  rw [off,on] at same
  cases same

def fujiStatus (ctx : PipelineContext) : Value := ctx.fujiDict.getD "status" (.str "allow")

def afterFuji (world : World) (ctx : PipelineContext) : PipelineContext :=
  match fujiPre world ctx with
  | .ok pre => mergeFuji pre ctx
  | .error _ => ctx

-- Loading the bundle of this context or evaluating it raises what the bridge handles.
def BundleFails (world : World) (ctx : PipelineContext) : Prop :=
  (ctx.context.get "compiled_policy_bundle_dir").truthy = true ∧
    ∃ error, evaluateBundle world (ctx.context.get "compiled_policy_bundle_dir") ctx.context = .error error ∧
      error.kind ∈ [.osError,.valueError,.typeError,.keyError]

theorem mergeFuji_context (pre : Value) (ctx : PipelineContext) : (mergeFuji pre ctx).context = ctx.context := by
  unfold mergeFuji
  split <;> rfl

theorem bridge_passes (fails : BundleFails world ctx) : applyCompiledPolicyRuntimeBridge world ctx = (.ok (),ctx) := by
  obtain ⟨named,error,failed,handled⟩ := fails
  unfold applyCompiledPolicyRuntimeBridge
  dsimp only
  rw [named,failed]
  dsimp only
  rw [if_pos handled]
  rfl

theorem precheck_passes (fails : BundleFails world ctx) : (stageFujiPrecheck world ctx).2.fujiDict = (afterFuji world ctx).fujiDict := by
  unfold stageFujiPrecheck using_ afterFuji
  cases checked : fujiPre world ctx with
  | error error => rfl
  | ok pre =>
    have merged : BundleFails world (mergeFuji pre ctx) := by
      rw [BundleFails,mergeFuji_context]
      exact fails
    have kept : Leaves PipelineContext.fujiDict (addFujiEvidence world) := leaves_using fun _ => leaves_change fun _ => rfl
    dsimp only
    unfold andThen change
    dsimp only
    rw [bridge_passes merged]
    exact kept _

theorem bundle_failure_exact (world : World) (ctx : PipelineContext) (fails : BundleFails world ctx) :
    fujiStatus (stageFujiPrecheck world ctx).2 ≠ .str "allow" ↔ fujiStatus (afterFuji world ctx) ≠ .str "allow" := by
  rw [fujiStatus,precheck_passes fails,fujiStatus]

def missingWorld (status : String) : World :=
  { escalatingWorld with
    disk := fun _ _ => .absent
    fujiCore := some ⟨some fun _ _ => .ok (.dict [(.str "status",.str status)]),none⟩ }

theorem missing_fails (status : String) : BundleFails (missingWorld status) (flaggedContext (.bool true)) :=
  ⟨by decide,_,rfl,by decide⟩

theorem bundle_failure_exact_sample : BundleFails (missingWorld "modify") (flaggedContext (.bool true)) ∧
    fujiStatus (stageFujiPrecheck (missingWorld "modify") (flaggedContext (.bool true))).2 ≠ .str "allow" := by
  refine ⟨missing_fails _,?_⟩
  exact (bundle_failure_exact (missingWorld "modify") (flaggedContext (.bool true)) (missing_fails _)).mpr (by decide +kernel)

theorem missing_bundle_allowed :
    isEnforcementEnabledForRollout (missingWorld "allow") (flaggedContext (.bool true)).context plainDecision = .ok (true,"full") ∧
      BundleFails (missingWorld "allow") (flaggedContext (.bool true)) ∧
      fujiStatus (stageFujiPrecheck (missingWorld "allow") (flaggedContext (.bool true))).2 = .str "allow" :=
  ⟨by decide +kernel,missing_fails _,by decide +kernel⟩

end VeritasOs.PipelinePolicy
