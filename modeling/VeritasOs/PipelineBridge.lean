import VeritasOs.DecisionSemantics
import VeritasOs.PipelineEnforcement

namespace VeritasOs.PipelinePolicy
open Text JsonText BindArtifacts Posture PolicyBundle DateTime DecisionSemantics

-- No milder than before, on the scale of the three statuses the gate knows; and a denial still ends in a
-- rejection, whatever else the gate reads.
structure NoMilder (before after : Value) : Prop where
  severe : decisionSeverity before ≤ severity after + 1
  rejects : decisionSeverity before = 3 → ∀ world later, later.status = after → GateReadable world later →
    ∃ decided, stageGateDecision world later = (.ok (),decided) ∧ decided.decisionStatus = "rejected"

def Survives (before after : PipelineContext) : Prop := before.fujiDict.has "status" = true → NoMilder before.status after.status

def preText (fuji : Dict) : String := lower (fuji.getD "status" (.str "rejected")).text

-- The pre-check does not allow what was held or denied, and does not modify what was denied.
structure AsSevere (earlier : Value) (fuji : Dict) : Prop where
  held : decisionSeverity earlier ≠ 1 → preText fuji ∉ ["ok","allow","pass"]
  denied : decisionSeverity earlier = 3 → preText fuji ≠ "modify"

-- A status that the gate reads as severely as it is meant: one that permits, or one of the gate's own words.
def PlainlyStated (earlier : Value) : Prop := decisionSeverity earlier = 1 ∨ earlier = .str "modify" ∨ earlier = .str "rejected"

-- The result of the pre-check takes the place of the earlier status only where it is a mapping.
def Upheld (earlier : Dict) : Except Exc Value → Prop
  | .ok (.dict fuji) => earlier.has "status" = true → AsSevere (earlier.get "status") fuji
  | _ => earlier.has "status" = true → PlainlyStated (earlier.get "status")

theorem noMilder_iff (before after : Value) : NoMilder before after ↔ decisionSeverity before ≤ severity after + 1 := by
  refine ⟨NoMilder.severe,fun severe => ⟨severe,?_⟩⟩
  intro denied world later same readable
  have rejected : after = .str "rejected" := by
    by_contra other
    have below := (severity_below after).mpr other
    omega
  obtain ⟨decided,returned⟩ := (gate_returns_exact world later).mpr readable
  exact ⟨decided,returned,gate_rejects (same.trans rejected) returned⟩

theorem plainlyStated_iff (earlier : Value) : decisionSeverity earlier ≤ severity earlier + 1 ↔ PlainlyStated earlier := by
  have rejected : decisionSeverity (.str "rejected") = 3 := by decide
  have modify : decisionSeverity (.str "modify") = 2 := by decide
  unfold PlainlyStated
  by_cases first : earlier = .str "rejected"
  · subst first
    simp [rejected,severity_rejected]
  · by_cases second : earlier = .str "modify"
    · subst second
      simp [modify,severity_modify]
    · have mild : severity earlier = 0 := by
        unfold severity
        rw [if_neg first,if_neg second]
      simp only [first,second,or_false,mild]
      rcases severity_range earlier with one | two | three <;> omega

theorem severity_mapped (fuji : Dict) :
    severity (.str (mappedStatus fuji)) = if preText fuji ∈ ["ok","allow","pass"] then 0 else if preText fuji = "modify" then 1 else 2 := by
  unfold mappedStatus
  rw [show lower (fuji.getD "status" (.str "rejected")).text = preText fuji from rfl]
  by_cases known : preText fuji ∈ ["ok","allow","pass","modify","block","deny","rejected"]
  · simp only [List.mem_cons,List.not_mem_nil,or_false] at known
    rcases known with same | same | same | same | same | same | same <;> rw [same] <;> decide
  · simp only [List.mem_cons,List.not_mem_nil,or_false,not_or] at known
    obtain ⟨ok,allow,pass,modify,block,deny,rejected⟩ := known
    have unlisted : (statusMap.find? fun entry => entry.1 == preText fuji) = none := by
      rw [List.find?_eq_none]
      intro entry listed same
      have named := (beq_iff_eq.mp same).symm
      simp only [statusMap,List.mem_cons,List.not_mem_nil,or_false] at listed
      rcases listed with rfl | rfl | rfl | rfl | rfl | rfl | rfl
      · exact ok named
      · exact allow named
      · exact pass named
      · exact modify named
      · exact block named
      · exact deny named
      · exact rejected named
    rw [unlisted]
    simp [ok,allow,pass,modify,severity]

theorem asSevere_iff (earlier : Value) (fuji : Dict) :
    decisionSeverity earlier ≤ severity (.str (mappedStatus fuji)) + 1 ↔ AsSevere earlier fuji := by
  rw [severity_mapped]
  constructor
  · intro severe
    refine ⟨fun held allows => ?_,fun denied modifies => ?_⟩
    · rw [if_pos allows] at severe
      rcases severity_range earlier with one | two | three <;> omega
    · rw [modifies,if_neg (by decide),if_pos rfl] at severe
      omega
  · rintro ⟨held,denied⟩
    rcases severity_range earlier with one | two | three
    · omega
    · rw [if_neg (held (by omega))]
      split <;> omega
    · rw [if_neg (held (by omega)),if_neg (denied three)]
      omega

theorem merged_mapped {fuji : Dict} (distinct : (fuji.map Prod.fst).Nodup) (ctx : PipelineContext) :
    (mergeFuji (.dict fuji) ctx).status = .str (mappedStatus fuji) := by
  have kept : ((fuji.set "status" (.str (mappedStatus fuji))).map Prod.fst).Nodup := by
    unfold Dict.set
    rw [store_keys]
    split
    · exact distinct
    · rename_i absent
      refine List.nodup_append.mpr ⟨distinct,by simp,?_⟩
      intro key listed other new same
      obtain rfl := List.mem_singleton.mp new
      exact absent (same ▸ listed)
  unfold PipelineContext.status mergeFuji
  dsimp only
  have found : lookup (.str "status") (fuji.set "status" (.str (mappedStatus fuji))) = some (.str (mappedStatus fuji)) := by
    unfold Dict.set
    rw [lookup_store,if_pos rfl]
  rw [Dict.get,lookup_update kept,found]
  rfl

variable {world : World} {ctx : PipelineContext} {directory : String} {bundle : RuntimePolicyBundle} {algorithm : Value}

theorem unbound_status (unbound : (ctx.context.get "compiled_policy_bundle_dir").truthy = false) :
    (applyCompiledPolicyRuntimeBridge world ctx).2.status = ctx.status := by
  unfold applyCompiledPolicyRuntimeBridge
  dsimp only
  rw [unbound]
  rfl

theorem earlier_verdict_exact (world : World) (ctx : PipelineContext) (unbound : (ctx.context.get "compiled_policy_bundle_dir").truthy = false)
    (distinct : ∀ fuji, fujiPre world ctx = .ok (.dict fuji) → (fuji.map Prod.fst).Nodup) :
    Survives ctx (stageFujiPrecheck world ctx).2 ↔ Upheld ctx.fujiDict (fujiPre world ctx) := by
  unfold Survives
  rw [noMilder_iff]
  cases checked : fujiPre world ctx with
  | error error =>
    have kept : (stageFujiPrecheck world ctx).2 = ctx := by
      unfold stageFujiPrecheck using_
      rw [checked]
    rw [kept,plainlyStated_iff]
    rfl
  | ok pre =>
    rw [precheck_status checked,unbound_status (by rw [mergeFuji_context]; exact unbound)]
    cases pre with
    | dict fuji =>
      rw [merged_mapped (distinct fuji checked),asSevere_iff]
      rfl
    | _ =>
      rw [show ∀ other : PipelineContext, mergeFuji _ other = other from fun _ => rfl,plainlyStated_iff]
      rfl

def deniedContext : PipelineContext := { requestContext .none with fujiDict := fujiRejection }

theorem passing_precheck_lifts_denial : decisionSeverity deniedContext.status = 3 ∧
    fujiPre (missingWorld "ok") deniedContext = .ok (.dict [(.str "status",.str "ok")]) ∧
    (stageFujiPrecheck (missingWorld "ok") deniedContext).2.status = .str "allow" ∧
    ¬Survives deniedContext (stageFujiPrecheck (missingWorld "ok") deniedContext).2 := by
  have allowed : (stageFujiPrecheck (missingWorld "ok") deniedContext).2.status = .str "allow" := by decide +kernel
  refine ⟨by decide +kernel,rfl,allowed,fun survives => ?_⟩
  have severe := (survives (by decide +kernel)).severe
  rw [allowed] at severe
  exact absurd severe (by decide +kernel)

theorem earlier_verdict_sample : Survives deniedContext (stageFujiPrecheck (missingWorld "deny") deniedContext).2 := by
  have answer : fujiPre (missingWorld "deny") deniedContext = .ok (.dict [(.str "status",.str "deny")]) := rfl
  refine (earlier_verdict_exact (missingWorld "deny") deniedContext (by decide +kernel) ?_).mpr ?_
  · intro fuji checked
    cases answer.symm.trans checked
    simp
  · rw [answer]
    exact fun _ => ⟨fun _ => by decide,fun _ => by decide⟩

structure Sets (world : World) (ctx : PipelineContext) (directory : String) (bundle : RuntimePolicyBundle) : Prop where
  named : ctx.context.get "compiled_policy_bundle_dir" = .str directory
  filled : directory ≠ ""
  evaluated : ∃ decision, evaluateBundle world (.str directory) ctx.context = .ok (bundle,decision)

theorem enforceOutcome_identity (outcome : Outcome) : Leaves PipelineContext.governanceIdentity (enforceOutcome outcome) := by
  have reasoned (reason : String) : Leaves PipelineContext.governanceIdentity (appendReason reason) := by
    intro ctx
    unfold appendReason
    split
    · rfl
    · rfl
  cases outcome with
  | allow => exact leaves_change fun _ => rfl
  | _ => exact leaves_andThen (leaves_change fun _ => rfl) (reasoned _)

theorem bridge_identity (sets : Sets world ctx directory bundle) :
    (applyCompiledPolicyRuntimeBridge world ctx).2.governanceIdentity = some (governanceIdentity world bundle) := by
  obtain ⟨named,filled,decision,evaluated⟩ := sets
  unfold applyCompiledPolicyRuntimeBridge
  dsimp only
  rw [named,evaluated]
  have given : (!(Value.str directory).truthy) = false := by simp [Value.truthy,filled]
  rw [given]
  dsimp only [Bool.false_eq_true,if_false]
  split
  · rename_i ran
    cases ran
  · cases enabled : isEnforcementEnabledForRollout world ctx.context decision with
    | error error => rfl
    | ok rollout =>
      obtain ⟨enforce,state⟩ := rollout
      cases enforce with
      | false => rfl
      | true => exact enforceOutcome_identity _ _

-- str(signing.get("algorithm", "sha256")).strip().lower() == "ed25519"
def namesEd25519 (algorithm : Value) : Bool := decide (lower (strip algorithm.text) = "ed25519")

def Declares (directory : String) (files : Files) (algorithm : Value) : Prop :=
  ∃ manifest, readJsonFile (directory ++ "/manifest.json") (files "manifest.json") = .ok manifest ∧
    declaredAlgorithm (.dict manifest) = .ok algorithm

-- This load asked verify_manifest_ed25519, which it does for this very name of the algorithm and a key, and
-- the answer was True.
structure VerifiedInLoad (setting : Setting) (files : Files) (manifestBytes : Bytes) (sigText : String) (key : Bytes) : Prop where
  input : SignatureInput files manifestBytes sigText
  asked : signingAlgorithm manifestBytes = .ok (.str "ed25519")
  keyed : resolvePublicKey setting none = some key
  answered : verifyManifestEd25519 setting.crypto manifestBytes sigText key = .ok true

def TellsTruth (world : World) (ctx : PipelineContext) : Prop :=
  ∀ directory bundle, Sets world ctx directory bundle →
    ∀ identity, (applyCompiledPolicyRuntimeBridge world ctx).2.governanceIdentity = some identity →
      identity.get "signature_verified" = .bool true →
        ∃ manifestBytes sigText key, VerifiedInLoad world.setting (world.disk directory) manifestBytes sigText key

-- There is a signature to verify, a key to verify it with, and the name that selects this verification.
structure Backed (setting : Setting) (files : Files) (algorithm : Value) : Prop where
  signed : (files "manifest.sig").exists_ = true
  selected : algorithm = .str "ed25519"
  keyed : (resolvePublicKey setting none).isSome = true

theorem sets_loads (sets : Sets world ctx directory bundle) :
    loadRuntimeBundle world.setting directory (world.disk directory) none = .ok bundle := by
  obtain ⟨_,_,decision,evaluated⟩ := sets
  obtain ⟨loaded,loads,evaluated⟩ := bind_ok.mp evaluated
  obtain ⟨result,_,same⟩ := bind_ok.mp evaluated
  cases same
  exact loads

theorem declared_algorithm {manifest : Dict} (declared : declaredAlgorithm (.dict manifest) = .ok algorithm) :
    (subDict manifest "signing").getD "algorithm" (.str "sha256") = algorithm := by
  unfold declaredAlgorithm at declared
  unfold subDict
  cases found : manifest.getD "signing" (.dict []) with
  | dict signing =>
    simp only [found,Except.ok.injEq] at declared
    exact declared
  | _ => simp [found] at declared

theorem flag_declared (loaded : loadRuntimeBundle world.setting directory files none = .ok bundle)
    (declares : Declares directory files algorithm) :
    (governanceIdentity world bundle).get "signature_verified" = .bool (namesEd25519 algorithm) := by
  obtain ⟨manifest,canonicalIr,policy,found,parts⟩ := load_ok loaded
  obtain ⟨manifest',manifestRead,declared⟩ := declares
  cases parts.manifestRead.symm.trans manifestRead
  have named := declared_algorithm declared
  rw [← parts.manifestKept] at named
  have flag : (governanceIdentity world bundle).get "signature_verified" =
      .bool (namesEd25519 ((subDict bundle.manifest "signing").getD "algorithm" (.str "sha256"))) := rfl
  rw [flag,named]

theorem loaded_verified (loaded : loadRuntimeBundle setting directory files none = .ok bundle)
    (declares : Declares directory files algorithm) :
    (∃ manifestBytes sigText key, VerifiedInLoad setting files manifestBytes sigText key) ↔ Backed setting files algorithm := by
  obtain ⟨manifest,canonicalIr,policy,found,parts⟩ := load_ok loaded
  obtain ⟨manifest',manifestRead,declared⟩ := declares
  cases parts.manifestRead.symm.trans manifestRead
  obtain ⟨s,file,parsed⟩ := readJsonFile_ok manifestRead
  constructor
  · rintro ⟨manifestBytes,sigText,key,verified⟩
    obtain rfl : manifestBytes = .text s := File.content.inj (verified.input.manifest.symm.trans file)
    have same := ((signingAlgorithm_text parsed).trans declared).symm.trans verified.asked
    cases same
    refine ⟨?_,rfl,by rw [verified.keyed]; rfl⟩
    obtain ⟨text,read,_⟩ := verified.input.signature
    obtain ⟨raw,present,_⟩ := readText_ok read
    rw [present]
    rfl
  · rintro ⟨signed,rfl,keyed⟩
    obtain ⟨key,resolved⟩ := Option.isSome_iff_exists.mp keyed
    have checked := parts.signed
    unfold checkSignature at checked
    rw [signed] at checked
    obtain ⟨verdict,verified,later⟩ := bind_ok.mp checked
    cases verdict with
    | false => cases later
    | true =>
      obtain ⟨manifestBytes,sigText,input⟩ := verified_input verified
      obtain rfl : manifestBytes = .text s := File.content.inj (input.manifest.symm.trans file)
      have asked := (signingAlgorithm_text parsed).trans declared
      rw [verify_eq input asked,resolved] at verified
      exact ⟨_,sigText,key,input,asked,resolved,by simpa using verified⟩

theorem signature_verified_exact (world : World) (ctx : PipelineContext) :
    TellsTruth world ctx ↔ ∀ directory bundle, Sets world ctx directory bundle → ∀ algorithm, Declares directory (world.disk directory) algorithm →
      namesEd25519 algorithm = true → Backed world.setting (world.disk directory) algorithm := by
  constructor
  · intro truth directory bundle sets algorithm declares named
    have loaded := sets_loads sets
    refine (loaded_verified loaded declares).mp (truth directory bundle sets _ (bridge_identity sets) ?_)
    rw [flag_declared loaded declares,named]
  · intro backed directory bundle sets identity recorded flagged
    have loaded := sets_loads sets
    obtain ⟨manifest,canonicalIr,policy,algorithm,parts⟩ := load_ok loaded
    have declares : Declares directory (world.disk directory) algorithm := ⟨manifest,parts.manifestRead,parts.declared⟩
    cases (bridge_identity sets).symm.trans recorded
    rw [flag_declared loaded declares] at flagged
    exact (loaded_verified loaded declares).mpr (backed directory bundle sets algorithm declares (Value.bool.inj flagged))

def unsignedFiles : Files := fun path =>
  if path = "manifest.json" then .content (.text (dumps compact forgedManifest))
  else if path = canonicalIrPath then .content (.text (dumps compact (.obj escalatingPolicy)))
  else .absent

def unsignedWorld : World := { escalatingWorld with disk := fun _ => unsignedFiles }

theorem unsignedFiles_load : ∃ bundle, loadRuntimeBundle unsignedWorld.setting "bundle" (unsignedWorld.disk "bundle") none = .ok bundle := by
  have strict : isStrict unsignedWorld.setting = false := by decide +kernel
  have unsigned : (unsignedWorld.disk "bundle" "manifest.sig").exists_ = false := by decide +kernel
  obtain ⟨policy,adapted⟩ : ∃ policy, adaptCanonicalIr (Dict.update [] (fromMembers escalatingPolicy)) = .ok policy := ⟨_,rfl⟩
  refine load_of_parts (readJsonFile_dumps _ compact _) (show declaredAlgorithm _ = .ok (.str "ed25519") from rfl) ?_ ?_
    (readJsonFile_dumps _ compact escalatingPolicy) adapted
  · simp [checkSignature,unsigned,strict]
  · simp [checkAlgorithm]

theorem unsigned_bundle_flagged : ¬TellsTruth unsignedWorld (requestContext (.str "bundle")) := by
  intro truth
  obtain ⟨bundle,loaded⟩ := unsignedFiles_load
  have sets : Sets unsignedWorld (requestContext (.str "bundle")) "bundle" bundle :=
    ⟨rfl,by decide,escalated,bind_ok.mpr ⟨bundle,loaded,rfl⟩⟩
  have declares : Declares "bundle" unsignedFiles (.str "ed25519") := ⟨_,readJsonFile_dumps _ compact _,rfl⟩
  have flagged : (governanceIdentity unsignedWorld bundle).get "signature_verified" = .bool true := by
    rw [flag_declared loaded declares]
    decide +kernel
  obtain ⟨_,_,_,verified⟩ := truth "bundle" bundle sets _ (bridge_identity sets) flagged
  obtain ⟨_,read,_⟩ := verified.input.signature
  cases read

end VeritasOs.PipelinePolicy
