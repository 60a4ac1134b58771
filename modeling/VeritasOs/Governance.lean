import VeritasOs.Interaction
import VeritasOs.PolicyBundle

namespace VeritasOs.Governance
open Text JsonText BindArtifacts PolicyBundle

def flag (name : String) (b : Bool) : Key × Value := (.str name,.bool b)
def whole (name : String) (n : Int) : Key × Value := (.str name,.int n)
def text (name s : String) : Key × Value := (.str name,.str s)
def share (name : String) (literal : FloatLiteral) : Key × Value := (.str name,.float (.finite literal))
def part (name : String) (members : Dict) : Key × Value := (.str name,.dict members)

def defaultWat : Dict :=
  [flag "enabled" false,text "issuance_mode" "shadow_only",flag "require_observable_digest" true,whole "default_ttl_seconds" 300,
   text "signer_backend" "existing_signer",whole "wat_metadata_retention_ttl_seconds" 7776000,
   whole "wat_event_pointer_retention_ttl_seconds" 7776000,whole "observable_digest_retention_ttl_seconds" 31536000,
   text "observable_digest_access_class" "restricted",text "observable_digest_ref" "separate_store://wat_observables",
   text "retention_policy_version" "wat_retention_v1",flag "retention_enforced_at_write" true]

def defaultPolicy : Dict :=
  [text "version" "governance_v1",
   part "fuji_rules" [flag "pii_check" true,flag "self_harm_block" true,flag "illicit_block" true,flag "violence_review" true,
     flag "minors_review" true,flag "keyword_hard_block" true,flag "keyword_soft_flag" true,flag "llm_safety_head" true],
   part "risk_thresholds" [share "allow_upper" ⟨"0.4",float_four_tenths⟩,share "warn_upper" ⟨"0.65",by decide⟩,
     share "human_review_upper" ⟨"0.85",by decide⟩,share "deny_upper" ⟨"1.0",float_one⟩],
   part "auto_stop" [flag "enabled" true,share "max_risk_score" ⟨"0.85",by decide⟩,whole "max_consecutive_rejects" 5,
     whole "max_requests_per_minute" 60],
   part "log_retention" [whole "retention_days" 180,whole "retention_days_high_risk" 365,text "audit_level" "full",
     (.str "include_fields",strList ["status","risk","reasons","violations","categories"]),flag "redact_before_log" true,
     whole "max_log_size" 10000],
   part "rollout_controls" [text "strategy" "disabled",whole "canary_percent" 0,whole "stage" 0,flag "staged_enforcement" false],
   part "approval_workflow" [text "human_review_ticket" "",flag "human_review_required" false,flag "approver_identity_binding" true,
     (.str "approver_identities",.list [])],part "wat" defaultWat,
   part "psid" [text "enforcement_mode" "full_digest_only",whole "display_length" 12],
   part "shadow_validation" [flag "enabled" true,text "partial_validation_default" "non_admissible",text "warning_only_until" "",
     whole "timestamp_skew_tolerance_seconds" 5,flag "replay_binding_required" false,whole "replay_binding_escalation_threshold" 4,
     flag "partial_validation_requires_confirmation" true],
   part "revocation" [flag "enabled" true,text "mode" "bounded_eventual_consistency",whole "alert_target_seconds" 30,
     whole "convergence_target_p95_seconds" 60,flag "degrade_on_pending" true,flag "revocation_confirmation_required" true,
     flag "auto_escalate_confirmed_revocations" false],
   part "drift_scoring" [share "policy_weight" ⟨"0.4",float_four_tenths⟩,share "signature_weight" ⟨"0.3",float_three_tenths⟩,
     share "observable_weight" ⟨"0.2",float_two_tenths⟩,share "temporal_weight" ⟨"0.1",float_tenth⟩,share "healthy_threshold" ⟨"0.2",float_two_tenths⟩,
     share "critical_threshold" ⟨"0.5",float_half⟩],
   part "bind_adjudication" [text "missing_signal_default" "block",flag "drift_required" true,flag "ttl_required" false,
     flag "approval_freshness_required" false,flag "rollback_on_apply_failure" false],
   text "operator_verbosity" "minimal",text "updated_at" "",text "updated_by" "system"]

def nestedPolicyModels : List String :=
  ["fuji_rules","risk_thresholds","auto_stop","log_retention","rollout_controls","approval_workflow","wat","psid","shadow_validation",
   "revocation","drift_scoring","bind_adjudication"]

structure Pydantic where
  section_ : String → Dict → Except Exc Dict
  policy : Dict → Except Exc Dict

def isControl (c : Char) : Bool :=
  c.toNat ≤ 8 || c.toNat == 11 || c.toNat == 12 || (14 ≤ c.toNat && c.toNat ≤ 31) || (127 ≤ c.toNat && c.toNat ≤ 159)

-- re.sub(r"<[^>]*>", "", text); the fuel is the text's length.
def dropTags : Nat → List Char → List Char
  | fuel + 1,c :: rest =>
    if c = '<' then
      match rest.dropWhile (· ≠ '>') with
      | _ :: after => dropTags fuel after
      | [] => c :: dropTags fuel rest
    else c :: dropTags fuel rest
  | _,chars => chars

def sanitizeUpdatedBy (raw : Value) : String :=
  match raw with
  | .none => "api"
  | value =>
    let plain := (strip value.text).toList.filter fun c => !isControl c
    truncate 200 (String.ofList (dropTags plain.length plain))

def approverIds (approvals : Value) : List String :=
  match approvals with
  | .list items => items.filterMap fun item =>
    match item with
    | .dict approval =>
      let reviewer := strip (Dict.getD approval "reviewer" (.str "")).text
      if reviewer = "" then none else some reviewer
    | _ => none
  | _ => []

def dictOrEmpty : Value → Dict
  | .dict members => members
  | _ => []

def mergeSections (pydantic : Pydantic) (patch : Dict) : List String → Dict → Except Exc Dict
  | [],current => .ok current
  | key :: rest,current => do
    if !patch.has key then mergeSections pydantic patch rest current
    else
      match patch.get key with
      | .dict sectionPatch => do
        let validated ← pydantic.section_ key ((dictOrEmpty (current.get key)).update sectionPatch)
        mergeSections pydantic patch rest (current.set key (.dict validated))
      | _ => .error (valueError (key ++ " must be an object"))

def retentionVersion (wat : Dict) : String := strip (wat.getD "retention_policy_version" (.str "")).text

-- The guard of the retention version looks at the policy before the patch.
def versionMoved (previousWat currentWat : Dict) : Bool :=
  (previousWat.get "retention_enforced_at_write").truthy && retentionVersion previousWat ≠ "" && retentionVersion currentWat ≠ "" &&
    retentionVersion currentWat ≠ retentionVersion previousWat

def mergedPolicy (pydantic : Pydantic) (patch previous : Dict) : Except Exc Dict := do
  let current ← mergeSections pydantic patch nestedPolicyModels previous
  if versionMoved (dictOrEmpty (previous.get "wat")) (dictOrEmpty (current.get "wat")) then
    .error (valueError "wat.retention_policy_version is immutable after retention_enforced_at_write=true")
  else .ok (if patch.has "version" then current.set "version" (patch.get "version") else current)

def stamped (policy : Dict) (now updatedBy : String) : Dict := (policy.set "updated_at" (.str now)).set "updated_by" (.str updatedBy)

def patchedBy (patch : Dict) : String := sanitizeUpdatedBy (patch.getD "updated_by" (.str "api"))

structure Rollback where
  target : Dict
  rolledBackBy : String
  approvals : Value
  reason : String

def permissionError (text : String) : Exc := ⟨.osError,text⟩

def approvalPair (approval : Value) : Except Exc (String × String) :=
  match approval with
  | .dict members =>
    let reviewer := strip (Dict.getD members "reviewer" (.str "")).text
    let signature := strip (Dict.getD members "signature" (.str "")).text
    if reviewer = "" ∨ signature = "" then .error (permissionError "approval entries require reviewer and signature") else .ok (reviewer,signature)
  | _ => .error (permissionError "approval entries must be objects")

def enforceFourEyesApproval (enforced : Bool) (approvals : Value) : Except Exc Unit :=
  if !enforced then .ok ()
  else
    match approvals with
    | .list [one,two] => do
      let first ← approvalPair one
      let second ← approvalPair two
      if first.1 = second.1 then .error (permissionError "approvals must be from two distinct reviewers")
      else if first.2 = second.2 then .error (permissionError "approvals must include two distinct signatures")
      else .ok ()
    | _ => .error (permissionError "governance update requires exactly two approvals")

structure PolicyWrite where
  previous : Dict
  updated : Dict
  proposer : String
  approvers : List String
  eventType : String
  approvalRecords : Option (List Value)
  reason : String

structure Repository (Op : Type) (Ans : Op → Type) where
  getCurrentPolicy : Interaction.Prog Op Ans Exc Dict
  clock : Interaction.Prog Op Ans Exc String
  write : PolicyWrite → Interaction.Prog Op Ans Exc Unit

structure Setting where
  pydantic : Pydantic
  digest : Dict → Option String
  fourEyes : Bool

inductive Change where
  | update (patch : Value)
  | rollback (request : Rollback)

def listed : Value → Option (List Value)
  | .list items => some items
  | _ => none

def patchWrite (patch previous updated : Dict) : PolicyWrite :=
  ⟨previous,updated,patchedBy patch,approverIds (patch.get "approvals"),(patch.getD "_event_type" (.str "update")).text,
   listed (patch.get "approvals"),""⟩

def rollbackWrite (request : Rollback) (previous updated : Dict) : PolicyWrite :=
  ⟨previous,updated,sanitizeUpdatedBy (.str request.rolledBackBy),approverIds request.approvals,"rollback",listed request.approvals,
   request.reason⟩

section Programs
variable {Op : Type} {Ans : Op → Type} (repository : Repository Op Ans) (setting : Setting)

def persist (policy : Dict) (updatedBy : String) (record : Dict → PolicyWrite) : Interaction.Prog Op Ans Exc Dict := do
  let now ← repository.clock
  let result ← Interaction.lift (setting.pydantic.policy (stamped policy now updatedBy))
  repository.write (record result)
  return result

def updatePolicy (patch : Value) : Interaction.Prog Op Ans Exc Dict :=
  match patch with
  | .dict patch => do
    let previous ← repository.getCurrentPolicy
    let current ← Interaction.lift (mergedPolicy setting.pydantic patch previous)
    persist repository setting current (patchedBy patch) (patchWrite patch previous)
  | _ => .fail (typeError "policy patch must be a dict")

def rollbackPolicy (request : Rollback) : Interaction.Prog Op Ans Exc Dict := do
  Interaction.lift (enforceFourEyesApproval setting.fourEyes request.approvals)
  let previous ← repository.getCurrentPolicy
  persist repository setting request.target (sanitizeUpdatedBy (.str request.rolledBackBy)) (rollbackWrite request previous)

def Change.program : Change → Interaction.Prog Op Ans Exc Dict
  | .update patch => updatePolicy repository setting patch
  | .rollback request => rollbackPolicy repository setting request

end Programs

def changed (setting : Setting) (change : Change) (previous : Dict) (now : String) : Except Exc Dict :=
  match change with
  | .update (.dict patch) => do
    let current ← mergedPolicy setting.pydantic patch previous
    setting.pydantic.policy (stamped current now (patchedBy patch))
  | .update _ => .error (typeError "policy patch must be a dict")
  | .rollback request => do
    let _ ← enforceFourEyesApproval setting.fourEyes request.approvals
    setting.pydantic.policy (stamped request.target now (sanitizeUpdatedBy (.str request.rolledBackBy)))

def changeWrite (change : Change) (previous updated : Dict) : PolicyWrite :=
  match change with
  | .update patch => patchWrite (dictOrEmpty patch) previous updated
  | .rollback request => rollbackWrite request previous updated

theorem changeWrite_updated (change : Change) (previous updated : Dict) : (changeWrite change previous updated).updated = updated := by
  cases change <;> rfl

theorem changeWrite_previous (change : Change) (previous updated : Dict) : (changeWrite change previous updated).previous = previous := by
  cases change <;> rfl

structure Answers {Op : Type} {Ans : Op → Type} {σ : Type} (repository : Repository Op Ans) (handler : Interaction.Handler Ans σ) (store : σ)
    (current : Dict) (now : String) : Prop where
  load : Interaction.run handler repository.getCurrentPolicy store = (.ok current,store)
  time : Interaction.run handler repository.clock store = (.ok now,store)

section Runs
variable {Op : Type} {Ans : Op → Type} {σ : Type} {repository : Repository Op Ans} {handler : Interaction.Handler Ans σ} {store : σ}
variable {current : Dict} {now : String} (answers : Answers repository handler store current now) (setting : Setting)
include answers

theorem run_persist (policy : Dict) (updatedBy : String) (record : Dict → PolicyWrite) :
    Interaction.run handler (persist repository setting policy updatedBy record) store =
      match setting.pydantic.policy (stamped policy now updatedBy) with
      | .error error => (.error error,store)
      | .ok result => Interaction.run handler (repository.write (record result) >>= fun _ => pure result) store := by
  rw [persist,Interaction.run_bind,answers.time]
  simp only
  cases setting.pydantic.policy (stamped policy now updatedBy) with
  | error error => rfl
  | ok result => rfl

theorem run_program (change : Change) : Interaction.run handler (change.program repository setting) store =
      match changed setting change current now with
      | .error error => (.error error,store)
      | .ok result => Interaction.run handler (repository.write (changeWrite change current result) >>= fun _ => pure result) store := by
  cases change with
  | update patch =>
    cases patch with
    | dict patch =>
      rw [Change.program,updatePolicy,Interaction.run_bind,answers.load,changed]
      simp only
      cases mergedPolicy setting.pydantic patch current with
      | error error => rfl
      | ok merged =>
        rw [Interaction.lift_ok,Interaction.bind_pure,run_persist answers]
        rfl
    | _ => rfl
  | rollback request =>
    rw [Change.program,rollbackPolicy,changed]
    cases enforceFourEyesApproval setting.fourEyes request.approvals with
    | error error => rfl
    | ok _ =>
      rw [Interaction.lift_ok,Interaction.bind_pure,Interaction.run_bind,answers.load]
      simp only
      rw [run_persist answers]
      rfl

end Runs

inductive FileOp where
  | load
  | clock
  | save (policy : Dict)
  | append (event : Dict)

@[reducible] def FileAns : FileOp → Type
  | .load => Dict
  | .clock => String
  | .save _ => Unit
  | .append _ => Unit

-- Both digests are left empty where one of them cannot be computed.
def buildEvent (digest : Dict → Option String) (write : PolicyWrite) : Dict :=
  let changedBy := write.updated.getD "updated_by" (.str "unknown")
  let digests := ((digest write.previous).bind fun old => (digest write.updated).map fun new => (old,new)).getD ("","")
  [(.str "changed_at",write.updated.get "updated_at"),(.str "changed_by",changedBy),
   (.str "proposer",if write.proposer = "" then changedBy else .str write.proposer),(.str "approvers",strList write.approvers),
   (.str "event_type",.str write.eventType),(.str "previous_version",write.previous.get "version"),
   (.str "new_version",write.updated.get "version"),(.str "previous_digest",.str digests.1),(.str "new_digest",.str digests.2),
   (.str "previous_policy",.dict write.previous),(.str "new_policy",.dict write.updated)]

-- The lock is taken for the policy's file and again for the history's.
def fileRepository (digest : Dict → Option String) : Repository FileOp FileAns where
  getCurrentPolicy := Interaction.request FileOp.load
  clock := Interaction.request FileOp.clock
  write write := do
    Interaction.request (FileOp.save write.updated)
    Interaction.request (FileOp.append (buildEvent digest write))

structure Store where
  policy : Option Dict
  history : List Dict

def policyHistoryMax : Nat := 500

def trimmed (history : List Dict) : List Dict := history.drop (history.length - policyHistoryMax)

def fileHandler (now : String) : Interaction.Handler FileAns Store
  | .load,store => (store.policy.getD defaultPolicy,store)
  | .clock,store => (now,store)
  | .save policy,store => ((),{ store with policy := some policy })
  | .append event,store => ((),{ store with history := trimmed (store.history ++ [event]) })

def Store.current (store : Store) : Dict := store.policy.getD defaultPolicy

def fileProgram (setting : Setting) (change : Change) : Interaction.Prog FileOp FileAns Exc Dict :=
  change.program (fileRepository setting.digest) setting

theorem run_file (setting : Setting) (change : Change) (now : String) (store : Store) :
    Interaction.run (fileHandler now) (fileProgram setting change) store = match changed setting change store.current now with
      | .error error => (.error error,store)
      | .ok result =>
        (.ok result,⟨some result,trimmed (store.history ++ [buildEvent setting.digest (changeWrite change store.current result)])⟩) := by
  have answers : Answers (fileRepository setting.digest) (fileHandler now) store store.current now := ⟨rfl,rfl⟩
  rw [fileProgram,run_program answers]
  cases changed setting change store.current now with
  | error error => rfl
  | ok result =>
    have written (write : PolicyWrite) :
        Interaction.run (fileHandler now) ((fileRepository setting.digest).write write >>= fun _ => pure result) store =
          (.ok result,⟨some write.updated,trimmed (store.history ++ [buildEvent setting.digest write])⟩) := rfl
    have finish := written (changeWrite change store.current result)
    rw [changeWrite_updated] at finish
    exact finish

def watOf (policy : Dict) : Dict := dictOrEmpty (policy.get "wat")

def versionOf (policy : Dict) : Value := (watOf policy).get "retention_policy_version"

def Enforced (policy : Dict) : Prop := (watOf policy).get "retention_enforced_at_write" = .bool true

def versionOrDefault (wat : Dict) : Value := wat.getD "retention_policy_version" (.str "wat_retention_v1")

-- A dump carries the version that was given, or the field's default.
structure KeepsVersions (pydantic : Pydantic) : Prop where
  wat : ∀ {given dumped : Dict}, pydantic.section_ "wat" given = .ok dumped →
    lookup (.str "retention_policy_version") dumped = some (versionOrDefault given)
  policy : ∀ {given dumped : Dict}, pydantic.policy given = .ok dumped → versionOf dumped = versionOrDefault (watOf given)

variable {pydantic : Pydantic} {patch current merged : Dict} {name : String} {previous : Dict} {setting : Setting} {change : Change}
variable {result : Dict} {now : String} {persisted : List Dict}

theorem mergeSections_cons (accepted : mergeSections pydantic patch (key :: rest) current = .ok merged) :
    (patch.has key = false ∧ mergeSections pydantic patch rest current = .ok merged) ∨ ∃ given validated, patch.get key = .dict given ∧
        pydantic.section_ key ((dictOrEmpty (current.get key)).update given) = .ok validated ∧
        mergeSections pydantic patch rest (current.set key (.dict validated)) = .ok merged := by
  unfold mergeSections at accepted
  cases there : patch.has key with
  | false =>
    rw [there] at accepted
    exact .inl ⟨rfl,accepted⟩
  | true =>
    rw [there] at accepted
    cases named : patch.get key with
    | dict given =>
      rw [named] at accepted
      obtain ⟨validated,valid,accepted⟩ := bind_ok.mp accepted
      exact .inr ⟨given,validated,rfl,valid,accepted⟩
    | _ =>
      rw [named] at accepted
      cases accepted

theorem mergeSections_other (fresh : name ∉ names) (accepted : mergeSections pydantic patch names current = .ok merged) :
    merged.get name = current.get name := by
  induction names generalizing current with
  | nil =>
    cases accepted
    rfl
  | cons key rest ih =>
    obtain ⟨other,fresh⟩ := not_or.mp (List.mem_cons.not.mp fresh)
    rcases mergeSections_cons accepted with ⟨_,accepted⟩ | ⟨_,_,_,_,accepted⟩
    · exact ih fresh accepted
    · exact (ih fresh accepted).trans (get_set_other other)

theorem mergeSections_get (distinct : names.Nodup) (listed : name ∈ names)
    (accepted : mergeSections pydantic patch names current = .ok merged) : (patch.has name = false ∧ merged.get name = current.get name) ∨
      ∃ given validated, patch.get name = .dict given ∧
        pydantic.section_ name ((dictOrEmpty (current.get name)).update given) = .ok validated ∧ merged.get name = .dict validated := by
  induction names generalizing current with
  | nil => cases listed
  | cons key rest ih =>
    obtain ⟨fresh,distinct⟩ := List.nodup_cons.mp distinct
    rcases List.mem_cons.mp listed with rfl | later
    · rcases mergeSections_cons accepted with ⟨absent,accepted⟩ | ⟨given,validated,named,valid,accepted⟩
      · exact .inl ⟨absent,mergeSections_other fresh accepted⟩
      · exact .inr ⟨given,validated,named,valid,(mergeSections_other fresh accepted).trans get_set⟩
    · have other : name ≠ key := fun same => fresh (same ▸ later)
      rcases mergeSections_cons accepted with ⟨_,accepted⟩ | ⟨_,_,_,_,accepted⟩
      · exact ih distinct later accepted
      · have found := ih distinct later accepted
        rw [get_set_other other] at found
        exact found

def namedVersion (policy : Dict) : Change → Value
  | .update patch => versionOrDefault ((watOf policy).update (watOf (dictOrEmpty patch)))
  | .rollback request => versionOrDefault (watOf request.target)

theorem watOf_stamped (policy : Dict) (now updatedBy : String) : watOf (stamped policy now updatedBy) = watOf policy := by
  rw [watOf,stamped,get_set_other (by decide),get_set_other (by decide),watOf]

theorem get_absent {members : Dict} (absent : members.has name = false) : members.get name = .none := by
  rw [Dict.has,Option.isSome_eq_false_iff,Option.isNone_iff_eq_none] at absent
  rw [Dict.get,absent,Option.getD_none]

theorem mergedPolicy_wat (keeps : KeepsVersions pydantic) (accepted : mergedPolicy pydantic patch previous = .ok merged) :
    (watOf merged = watOf previous ∧ namedVersion previous (.update (.dict patch)) = versionOrDefault (watOf previous)) ∨
      lookup (.str "retention_policy_version") (watOf merged) = some (namedVersion previous (.update (.dict patch))) := by
  obtain ⟨current,sections,accepted⟩ := bind_ok.mp accepted
  split at accepted
  · cases accepted
  have same : watOf merged = watOf current := by
    cases accepted
    split
    · rw [watOf,get_set_other (by decide),watOf]
    · rfl
  have listed : "wat" ∈ nestedPolicyModels := by decide
  rw [same,namedVersion,dictOrEmpty]
  rcases mergeSections_get (by decide) listed sections with ⟨absent,kept⟩ | ⟨given,validated,named,valid,kept⟩
  · refine .inl ⟨by rw [watOf,kept,watOf],?_⟩
    rw [watOf,watOf,get_absent absent]
    rfl
  · refine .inr ?_
    rw [watOf,kept,watOf,watOf,named]
    exact keeps.wat valid

theorem mergedPolicy_guard (accepted : mergedPolicy pydantic patch previous = .ok merged) :
    versionMoved (watOf previous) (watOf merged) = false := by
  obtain ⟨current,sections,accepted⟩ := bind_ok.mp accepted
  split at accepted
  · cases accepted
  rename_i passed
  have same : watOf merged = watOf current := by
    cases accepted
    split
    · rw [watOf,get_set_other (by decide),watOf]
    · rfl
  rw [same]
  exact Bool.eq_false_iff.mpr passed

theorem changed_version (keeps : KeepsVersions setting.pydantic) (accepted : changed setting change previous now = .ok result) :
    versionOf result = namedVersion previous change := by
  cases change with
  | update patch =>
    cases patch with
    | dict patch =>
      obtain ⟨current,merged,valid⟩ := bind_ok.mp accepted
      rw [keeps.policy valid,watOf_stamped]
      rcases mergedPolicy_wat keeps merged with ⟨same,named⟩ | found
      · rw [same,named]
      · rw [versionOrDefault,Dict.getD,found,Option.getD_some]
    | _ => cases accepted
  | rollback request =>
    obtain ⟨_,_,valid⟩ := bind_ok.mp accepted
    rw [keeps.policy valid,watOf_stamped]
    rfl

def Plain (version : Value) : Prop := ∃ s, version = .str s ∧ strip s = s ∧ s ≠ ""

-- The guard compares the versions: it is part of updates, and asks for the flag of the policy in force.
def Guarded (policy : Dict) : Change → Prop
  | .update patch => ((watOf policy).get "retention_enforced_at_write").truthy = true ∧ Plain (versionOf policy) ∧
      Plain (namedVersion policy (.update patch))
  | .rollback _ => False

theorem lookup_of_get (held : members.get name = .str s) : lookup (.str name) members = some (.str s) := by
  rw [Dict.get] at held
  cases found : lookup (.str name) members with
  | none =>
    rw [found] at held
    cases held
  | some value =>
    rw [found,Option.getD_some] at held
    rw [held]

theorem retentionVersion_plain (found : lookup (.str "retention_policy_version") wat = some (.str s))
    (plain : strip s = s) : retentionVersion wat = s := by
  rw [retentionVersion,Dict.getD,found,Option.getD_some,Value.text,plain]

theorem guarded_same (keeps : KeepsVersions setting.pydantic) (accepted : changed setting change previous now = .ok result)
    (guarded : Guarded previous change) : namedVersion previous change = versionOf previous := by
  cases change with
  | rollback request => exact guarded.elim
  | update patch =>
    cases patch with
    | dict patch =>
      obtain ⟨current,merged,_⟩ := bind_ok.mp accepted
      obtain ⟨flagged,⟨old,oldIs,oldPlain,oldSome⟩,new,newIs,newPlain,newSome⟩ := guarded
      have oldFound := lookup_of_get oldIs
      have passed := mergedPolicy_guard merged
      rcases mergedPolicy_wat keeps merged with ⟨_,named⟩ | found
      · rw [named,versionOrDefault,Dict.getD,oldFound,Option.getD_some,oldIs]
      · rw [newIs] at found
        rw [versionMoved,flagged,retentionVersion_plain oldFound oldPlain,retentionVersion_plain found newPlain] at passed
        rw [newIs,oldIs]
        simpa [oldSome,newSome] using passed
    | _ => cases accepted

structure Step where
  change : Change
  now : String
  result : Dict

def Served (setting : Setting) : Store → List Step → Prop
  | _,[] => True
  | store,step :: rest =>
    (Interaction.run (fileHandler step.now) (fileProgram setting step.change) store).1 = .ok step.result ∧
      Served setting (Interaction.run (fileHandler step.now) (fileProgram setting step.change) store).2 rest

-- Once a policy is enforced, its version stays.
def LockedIn (policies : List Dict) : Prop :=
  policies.Pairwise fun earlier later => Enforced earlier → versionOf later = versionOf earlier

def inForce (persisted : List Dict) : Dict := persisted.getLastD defaultPolicy

-- The change names the version in force, or the guard compares the two.
def NamesVersionInForce (policy : Dict) (change : Change) : Prop := namedVersion policy change = versionOf policy ∨ Guarded policy change

def Respected : List Dict → List Step → Prop
  | _,[] => True
  | persisted,step :: rest =>
    ((∃ policy ∈ persisted, Enforced policy) → NamesVersionInForce (inForce persisted) step.change) ∧ Respected (persisted ++ [step.result]) rest

theorem served_step {store : Store} {step : Step} {rest : List Step} (served : Served setting store (step :: rest)) :
    changed setting step.change store.current step.now = .ok step.result ∧
      ∃ after, after.policy = some step.result ∧ Served setting after rest := by
  obtain ⟨returned,later⟩ := served
  rw [run_file] at returned later
  cases accepted : changed setting step.change store.current step.now with
  | error error =>
    rw [accepted] at returned
    cases returned
  | ok result =>
    rw [accepted] at returned later
    obtain rfl : result = step.result := Except.ok.inj returned
    exact ⟨rfl,_,rfl,later⟩

theorem lockedIn_inForce (locked : LockedIn persisted) (listed : policy ∈ persisted) (enforced : Enforced policy) :
    versionOf (inForce persisted) = versionOf policy := by
  rcases List.eq_nil_or_concat persisted with rfl | ⟨before,last,rfl⟩
  · cases listed
  · rw [List.concat_eq_append] at locked listed ⊢
    rw [inForce,List.getLastD_concat]
    rcases List.mem_append.mp listed with earlier | here
    · exact (List.pairwise_append.mp locked).2.2 policy earlier last (List.mem_singleton_self last) enforced
    · rw [List.mem_singleton.mp here]

theorem lockedIn_step (keeps : KeepsVersions setting.pydantic) (locked : LockedIn persisted)
    (accepted : changed setting change (inForce persisted) now = .ok result) :
    LockedIn (persisted ++ [result]) ↔ ((∃ policy ∈ persisted, Enforced policy) → NamesVersionInForce (inForce persisted) change) := by
  have version := changed_version keeps accepted
  constructor
  · rintro all ⟨policy,listed,enforced⟩
    have same := (List.pairwise_append.mp all).2.2 policy listed result (List.mem_singleton_self result) enforced
    refine .inl ?_
    rw [← version,same,lockedIn_inForce locked listed enforced]
  · intro respects
    refine List.pairwise_append.mpr ⟨locked,List.pairwise_singleton _ _,?_⟩
    intro policy listed later last enforced
    rw [List.mem_singleton.mp last,version,← lockedIn_inForce locked listed enforced]
    rcases respects ⟨policy,listed,enforced⟩ with same | guarded
    · exact same
    · exact guarded_same keeps accepted guarded

theorem lockedIn_from (keeps : KeepsVersions setting.pydantic) {steps : List Step} {store : Store}
    (held : store.policy = persisted.getLast?) (locked : LockedIn persisted) (served : Served setting store steps) :
    LockedIn (persisted ++ steps.map Step.result) ↔ Respected persisted steps := by
  induction steps generalizing store persisted with
  | nil => simpa [Respected] using locked
  | cons step rest ih =>
    obtain ⟨accepted,after,stored,later⟩ := served_step served
    have current : store.current = inForce persisted := by
      rw [Store.current,held,inForce,List.getLastD_eq_getLast?]
    rw [current] at accepted
    have one := lockedIn_step keeps locked accepted
    have more (first : LockedIn (persisted ++ [step.result])) := ih (by rw [stored,List.getLast?_concat]) first later
    rw [List.map_cons,List.append_cons]
    constructor
    · intro all
      have first := (List.pairwise_append.mp all).1
      exact ⟨one.mp first,(more first).mp all⟩
    · intro respected
      exact (more (one.mpr respected.1)).mpr respected.2

theorem retention_permanent_exact {setting : Setting} (keeps : KeepsVersions setting.pydantic) {store : Store} {steps : List Step}
    (served : Served setting store steps) :
    LockedIn (store.policy.toList ++ steps.map Step.result) ↔ Respected store.policy.toList steps := by
  refine lockedIn_from keeps ?_ ?_ served
  · cases store.policy <;> rfl
  · cases store.policy with
    | none => exact .nil
    | some policy => exact List.pairwise_singleton _ policy

-- Validation of well formed input: what is given stays, and what is absent gets its default.
def filled (defaults given : Dict) : Dict := defaults.map fun field => (field.1,(lookup field.1 given).getD field.2)

def samplePydantic : Pydantic where
  section_ name given := .ok (filled (dictOrEmpty (defaultPolicy.get name)) given)
  policy given := .ok (defaultPolicy.map fun field => (field.1,match field.2 with
    | .dict defaults => .dict (filled defaults (dictOrEmpty ((lookup field.1 given).getD .none)))
    | default => (lookup field.1 given).getD default))

theorem filled_wat (given : Dict) : lookup (.str "retention_policy_version") (filled defaultWat given) = some (versionOrDefault given) := by
  rw [filled,lookup_map fun key default => (lookup key given).getD default]
  rfl

theorem samplePydantic_keeps : KeepsVersions samplePydantic where
  wat accepted := by
    obtain rfl := Except.ok.inj accepted
    exact filled_wat _
  policy {given dumped} accepted := by
    obtain rfl := Except.ok.inj accepted
    rw [versionOf,Dict.get]
    exact congrArg (Option.getD · .none) (filled_wat (watOf given))

def sampleSetting : Setting := ⟨samplePydantic,fun policy => canonicalJsonDumps (.dict policy),true⟩

def sampleTime : String := "2026-03-01T09:00:00Z"

def sampleApprovals : Value :=
  .list [.dict [text "reviewer" "alice",text "signature" "s1"],.dict [text "reviewer" "bob",text "signature" "s2"]]

def firstUpdate : Step := ⟨.update (.dict []),sampleTime,stamped defaultPolicy sampleTime "api"⟩

def laterUpdate : Step :=
  ⟨.update (.dict [part "wat" [flag "enabled" true]]),sampleTime,
   stamped (defaultPolicy.set "wat" (.dict (defaultWat.set "enabled" (.bool true)))) sampleTime "api"⟩

def emptyStore : Store := ⟨none,[]⟩

theorem retention_permanent_exact_sample :
    Served sampleSetting emptyStore [firstUpdate,laterUpdate] ∧ LockedIn [firstUpdate.result,laterUpdate.result] := by
  have served : Served sampleSetting emptyStore [firstUpdate,laterUpdate] := ⟨rfl,rfl,trivial⟩
  exact ⟨served,(retention_permanent_exact samplePydantic_keeps served).mpr ⟨nofun,fun _ => .inl rfl,trivial⟩⟩

def restoredPolicy : Dict := defaultPolicy.set "wat" (.dict (defaultWat.set "retention_policy_version" (.str "wat_retention_v2")))

def otherRollback : Step := ⟨.rollback ⟨restoredPolicy,"api",sampleApprovals,""⟩,sampleTime,stamped restoredPolicy sampleTime "api"⟩

theorem rollback_changes_version : KeepsVersions sampleSetting.pydantic ∧ Served sampleSetting emptyStore [firstUpdate,otherRollback] ∧
      ¬ LockedIn (emptyStore.policy.toList ++ [firstUpdate,otherRollback].map Step.result) := by
  refine ⟨samplePydantic_keeps,⟨rfl,rfl,trivial⟩,fun locked => ?_⟩
  have same := (List.pairwise_cons.mp locked).1 otherRollback.result (List.mem_singleton_self _) rfl
  have differ : "wat_retention_v2" ≠ "wat_retention_v1" := by decide
  exact differ (Value.str.inj same)

end VeritasOs.Governance
