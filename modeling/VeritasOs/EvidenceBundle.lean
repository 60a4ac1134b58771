import VeritasOs.BundleVerify
import VeritasOs.PipelineResponse

namespace VeritasOs.EvidenceBundle
open Text JsonText BindArtifacts TrustLog FullLedger TextLines PolicyBundle WitnessLedger BundleVerify
open PipelineResponse (canonicalizePublicGateDecision upper)

structure Request where
  bundleType : String
  requestIds : List String
  timeRangeStart : Option String
  timeRangeEnd : Option String
  governanceIdentity : Dict
  releaseProvenance : Dict
  incidentMetadata : Dict
  signerFn : Option (String → Except String Value)
  signerMetadata : Dict
  verifySignatureFn : Option (Dict → Except Exc Bool)
  decisionRecordProfile : String
  bundleId : Option String
  createdBy : String

-- What is found around it: the ledger, the directory as it is before, the environment, the clock as text, a new
-- identifier, and how the verifier codes its reasons.
structure Surroundings where
  world : Verifier
  ledger : File
  before : List (String × String)
  now : String
  uuid7 : String
  errorCode : String → String
  tamperCode : String → Bool

def given (text : Option String) : Option String := text.filter (· != "")

-- Lines that are no JSON are skipped.
def loadWitnessEntries (ledger : File) : Except Exc (List Value) :=
  if !ledger.exists_ then .ok []
  else do
    let bytes ← ledger.readBytes
    let text ← decodeUtf8 bytes
    .ok ((witnessLines text).filterMap fun line => (jsonLoads line).toOption)

def inIds (ids : List String) : Value → Except Exc Bool
  | .str id => .ok (ids.contains id)
  | .list _ => .error (typeError "unhashable type: 'list'")
  | .dict _ => .error (typeError "unhashable type: 'dict'")
  | _ => .ok false

def matchesRequest (ids : List String) (entry : Dict) : Except Exc Bool := do
  let payload ← if (entry.get "decision_payload").truthy then
      match entry.get "decision_payload" with
      | .dict payload => .ok payload
      | other => .error (attributeError (quoteStr (typeName other) ++ " object has no attribute 'get'"))
    else .ok []
  if ← inIds ids (Dict.get payload "request_id") then .ok true else inIds ids (entry.get "decision_id")

def filterEach (keep : Dict → Except Exc Bool) : List Dict → Except Exc (List Dict)
  | [] => .ok []
  | entry :: rest => do
    let kept ← keep entry
    let others ← filterEach keep rest
    .ok (if kept then entry :: others else others)

-- The texts of timestamps are compared; anything else raises where there is a bound.
def inTimeRange (start end_ : Option String) (entry : Dict) : Except Exc Bool :=
  match entry.getD "timestamp" (.str "") with
  | .str ts => .ok (!(((given start).map fun bound => textLt ts bound).getD false || ((given end_).map fun bound => textLt bound ts).getD false))
  | other =>
    if (given start).isSome || (given end_).isSome then
      .error (typeError ("'<' not supported between instances of " ++ quoteStr (typeName other) ++ " and 'str'"))
    else .ok true

def selectEntries (request : Request) (entries : List Dict) : Except Exc (List Dict) :=
  if request.requestIds ≠ [] then filterEach (matchesRequest request.requestIds) entries
  else if (given request.timeRangeStart).isSome || (given request.timeRangeEnd).isSome then
    filterEach (inTimeRange request.timeRangeStart request.timeRangeEnd) entries
  else .ok entries

abbrev Written := List (String × String)

-- json.dumps(.., sort_keys=True, ensure_ascii=False, default=str)
def jsonText (layout : Layout) (data : Value) : Except Exc String :=
  match toJson true (defaultStr data) with
  | some json => .ok (dumps layout json)
  | none => .error (typeError "keys must be str, int, float, bool or None")

def writeFile (written : Written) (name content : String) : Written :=
  if written.any fun file => file.1 == name then written.map fun file => if file.1 = name then (name,content) else file
  else written ++ [(name,content)]

def writeJsonFile (written : Written) (name : String) (data : Value) : Except Exc Written := do
  let text ← jsonText (indented 2) data
  .ok (writeFile written name (text ++ "\n"))

def writeJsonlFile (written : Written) (name : String) (entries : List Dict) : Except Exc Written := do
  let lines ← entries.mapM fun entry => jsonText spaced (.dict entry)
  .ok (writeFile written name (String.join (lines.map (· ++ "\n"))))

def writeSome (written : Written) (name : String) (wanted : Bool) (data : Value) : Except Exc Written :=
  if wanted then writeJsonFile written name data else .ok written

def anchorReceipts (entries : List Dict) : List Value :=
  entries.filterMap fun entry => (entry.get "anchor_receipt").asDict?.map fun receipt =>
    .dict [field "decision_id" (entry.get "decision_id"),field "timestamp" (entry.get "timestamp"),
      field "anchor_backend" (entry.get "anchor_backend"),field "anchor_status" (entry.get "anchor_status"),field "receipt" (.dict receipt)]

def mirrorReceipts (entries : List Dict) : List Value :=
  entries.filterMap fun entry => (entry.get "mirror_receipt").asDict?.map fun receipt =>
    .dict [field "decision_id" (entry.get "decision_id"),field "timestamp" (entry.get "timestamp"),
      field "mirror_backend" (entry.get "mirror_backend"),field "receipt" (.dict receipt)]

def artifactRefs (entries : List Dict) : List Value :=
  entries.filterMap fun entry => (entry.get "artifact_ref").asDict?.map fun ref =>
    .dict [field "decision_id" (entry.get "decision_id"),field "full_payload_hash" (entry.get "full_payload_hash"),field "artifact_ref" (.dict ref)]

def reasonDict (surroundings : Surroundings) (index : Int) (reason : String) : Value :=
  .dict [field "ledger" (.str "witness"),field "index" (.int index),field "reason" (.str reason),
    field "code" (.str (surroundings.errorCode reason)),field "tamper_suspected" (.bool (surroundings.tamperCode (surroundings.errorCode reason)))]

def reportDict (surroundings : Surroundings) (report : WitnessReport) : Dict :=
  let each (errors : List VerificationError) : List Value := errors.map fun error => reasonDict surroundings error.index error.reason
  let remote := if report.remoteSkipped then [reasonDict surroundings (-1) "mirror_remote_verification_skipped"] else []
  [field "ledger" (.str "witness"),field "total_entries" (.int report.totalEntries),field "valid_entries" (.int report.validEntries),
   field "invalid_entries" (.int report.invalidEntries),field "chain_ok" (.bool report.chainOk),field "signature_ok" (.bool report.signatureOk),
   field "linkage_ok" (.bool report.linkageOk),field "mirror_ok" (.bool report.mirrorOk),field "last_hash" report.lastHash,
   field "detailed_errors" (.list (each report.detailedErrors)),
   field "verification_notes" (.list (remote ++ each report.verificationNotes)),field "ok" (.bool report.ok)]

def bundleWitness (surroundings : Surroundings) (request : Request) (entries : List Dict) : Except Exc WitnessReport :=
  match request.verifySignatureFn with
  | none => verifyWitnessLedger { surroundings.world with s3Client := none,verifySignatureFn := none } entries
  | some check => do
    eachChecked check entries
    verifyWitnessLedger { surroundings.world with s3Client := none,verifySignatureFn := some fun entry => (check entry).toOption.getD false } entries

def posture (surroundings : Surroundings) : String := lower (strip ((surroundings.world.env "VERITAS_POSTURE").getD "dev"))

def signatureRequired (surroundings : Surroundings) : Bool := ["secure","prod"].contains (posture surroundings)

-- The report of a run that came to its end; without a signature check it cannot be ok.
def completedReport (surroundings : Surroundings) (request : Request) (report : WitnessReport) : Dict :=
  let performed := request.verifySignatureFn.isSome
  let told := (reportDict surroundings report).update
    [field "verification_mode" (.str (if performed then "signature_and_integrity" else "integrity_only")),
     field "signature_verification_performed" (.bool performed),field "signature_verification_required" (.bool (signatureRequired surroundings)),
     field "verification_limitations" (texts (if performed then [] else ["signature_verifier_not_provided"]))]
  if performed then told else (told.set "signature_ok" (.bool false)).set "ok" (.bool false)

def excName (error : Exc) : String :=
  match error.kind with
  | .osError => "OSError"
  | .typeError => "TypeError"
  | .valueError => "ValueError"
  | .runtimeError => "RuntimeError"
  | .keyError => "KeyError"
  | .attributeError => "AttributeError"
  | .overflowError => "OverflowError"
  | .other => "Exception"

def failedReport (surroundings : Surroundings) (request : Request) (entries : List Dict) (error : Exc) : Dict :=
  [field "ledger" (.str "witness"),field "total_entries" (.int entries.length),field "valid_entries" (.int 0),
   field "invalid_entries" (.int entries.length),field "chain_ok" (.bool false),field "signature_ok" (.bool false),
   field "linkage_ok" (.bool false),field "mirror_ok" (.bool false),field "last_hash" .none,field "detailed_errors" (.list []),
   field "verification_notes" (.list []),field "ok" (.bool false),
   field "signature_verification_performed" (.bool request.verifySignatureFn.isSome),
   field "signature_verification_required" (.bool (signatureRequired surroundings)),field "verification_mode" (.str "verification_failed"),
   field "verification_error" (.str (excName error)),field "verification_limitations" (texts ["verification_exception"])]

-- An exception becomes a report of its own, unless a signature is required.
def verificationReport (surroundings : Surroundings) (request : Request) (entries : List Dict) : Except Exc Dict :=
  match bundleWitness surroundings request entries with
  | .ok report => .ok (completedReport surroundings request report)
  | .error error =>
    if signatureRequired surroundings then .error (valueError ("Evidence bundle verification failed: " ++ excName error))
    else .ok (failedReport surroundings request entries error)

def canonicalBusinessDecisions : List String := ["APPROVE","DENY","HOLD","REVIEW_REQUIRED","EVIDENCE_REQUIRED","POLICY_DEFINITION_REQUIRED"]

def businessAliasToCanonical : List (String × String) :=
  [("allow","APPROVE"),("proceed","APPROVE"),("approve","APPROVE"),("deny","DENY"),("rejected","DENY"),("block","DENY"),("hold","HOLD"),
   ("modify","HOLD"),("abstain","HOLD"),("ambiguous_human_review","REVIEW_REQUIRED")]

def canonicalizeBusinessDecision (value : Value) : String :=
  let normalized := strip (value.orStr "")
  if normalized = "" then "HOLD"
  else if canonicalBusinessDecisions.contains (upper normalized) then upper normalized
  else ((businessAliasToCanonical.find? fun entry => entry.1 == lower normalized).map Prod.snd).getD "HOLD"

def canonicalizeNextAction (value : Value) : String :=
  let normalized := strip (value.orStr "")
  if normalized = "" then "REVISE_AND_RESUBMIT"
  else if upper normalized = "NEEDS_HUMAN_REVIEW" then "PREPARE_HUMAN_REVIEW_PACKET"
  else if upper normalized = "REJECT_REQUEST" then "DO_NOT_EXECUTE"
  else upper normalized

def runtimeContextFromEntry (env : Posture.Env) (payload : Dict) : Dict :=
  let setting name default : Value := .str ((env name).getD default)
  [field "posture" (setting "VERITAS_POSTURE" "dev"),field "trustlog_backend" (setting "VERITAS_TRUSTLOG_BACKEND" "jsonl"),
   field "memory_backend" (setting "VERITAS_MEMORY_BACKEND" "json"),
   field "trustlog_signer_backend" (setting "VERITAS_TRUSTLOG_SIGNER_BACKEND" "file"),
   field "api_version" (setting "VERITAS_API_VERSION" "veritas-api 1.x"),field "kernel_version" (setting "VERITAS_KERNEL_VERSION" "core-kernel 0.x"),
   field "pipeline_version" (setting "VERITAS_PIPELINE_VERSION" "unknown"),field "decision_version" (payload.get "version")]

def decisionPayload (entry : Dict) : Dict :=
  match entry.get "decision_payload" with
  | .dict payload => payload
  | _ => []

def trustlogReferences (entry payload : Dict) : Dict :=
  [field "decision_id" (if (entry.get "decision_id").truthy then entry.get "decision_id" else payload.get "decision_id"),
   field "request_id" (payload.get "request_id"),field "previous_hash" (entry.get "previous_hash"),field "payload_hash" (entry.get "payload_hash"),
   field "full_payload_hash" (entry.get "full_payload_hash"),field "signature" (entry.get "signature"),
   field "anchor_backend" (entry.get "anchor_backend"),field "anchor_status" (entry.get "anchor_status"),
   field "anchor_receipt" (entry.get "anchor_receipt"),field "mirror_backend" (entry.get "mirror_backend"),
   field "mirror_receipt" (entry.get "mirror_receipt"),field "artifact_ref" (entry.get "artifact_ref")]

def verificationPart (report : Dict) : Dict :=
  [field "report_path" (.str "verification_report.json"),field "ledger_ok" (report.get "ok"),field "chain_ok" (report.get "chain_ok"),
   field "signature_ok" (report.get "signature_ok"),field "errors" (report.get "total_errors"),field "notes" (report.get "total_notes")]

-- The minimum profile leaves the evidence, the review flag and the runtime context out.
def decisionRecord (surroundings : Surroundings) (profile : String) (entry report : Dict) : Dict :=
  let payload := decisionPayload entry
  let full := profile != "minimum"
  [field "decision_payload" (.dict payload),field "gate_decision" (.str (canonicalizePublicGateDecision (payload.get "gate_decision"))),
   field "business_decision" (.str (canonicalizeBusinessDecision (payload.getD "business_decision" (.str "HOLD")))),
   field "next_action" (.str (canonicalizeNextAction (payload.getD "next_action" (.str "REVISE_AND_RESUBMIT"))))] ++
  (if full then [field "required_evidence" (payload.getD "required_evidence" (.list [])),
    field "human_review_required" (.bool (payload.getD "human_review_required" (.bool false)).truthy)] else []) ++
  [field "trustlog_references" (.dict (trustlogReferences entry payload)),field "verification" (.dict (verificationPart report)),
   field "provenance" (.dict [field "witness_timestamp" (entry.get "timestamp"),field "bundle_generated_at" (.str surroundings.now),
     field "signer_metadata" (entry.get "signer_metadata"),field "governance_identity" (payload.get "governance_identity")])] ++
  (if full then [field "runtime_context" (.dict (runtimeContextFromEntry surroundings.world.env payload))] else [])

structure ChecklistItem where
  id : String
  title : String
  required : Bool
  passed : Bool
  evidence : List String
  details : Option Dict

def ChecklistItem.toDict (item : ChecklistItem) : Dict :=
  [field "id" (.str item.id),field "title" (.str item.title),field "required" (.bool item.required),
   field "status" (.str (if item.passed then "pass" else "fail")),field "evidence" (texts item.evidence)] ++ (match item.details with
    | some details => [field "details" (.dict details)]
    | none => [])

def buildAcceptanceChecklist (bundleType : String) (writtenFiles : List String) (decisionRecordProfile : String) (report : Dict) : List ChecklistItem :=
  let written name := writtenFiles.contains name
  let decision := bundleType == "decision"
  let reportOk := (report.get "ok").truthy
  [⟨"manifest_integrity","Manifest and file hashes exist",true,written "manifest.json",["manifest.json"],none⟩,
   ⟨"witness_entries_present","Witness entries included",true,written "witness_entries.jsonl",["witness_entries.jsonl"],none⟩,
   ⟨"verification_report_present","Verification report included and passing",true,written "verification_report.json" && reportOk,
    ["verification_report.json"],some [field "report_ok" (.bool reportOk),field "verification_mode" (report.get "verification_mode")]⟩,
   ⟨"decision_record_contract","Decision record contract profile declared",decision,!decision || written "decision_record.json",
    if decision then ["decision_record.json"] else [],some [field "profile" (.str decisionRecordProfile)]⟩]

def checklistDict (bundleType : String) (items : List ChecklistItem) : Dict :=
  [field "bundle_type" (.str bundleType),field "items" (.list (items.map fun item => .dict item.toDict))]

def reviewerVerifyCommand : String :=
  "veritas-evidence-bundle verify --bundle-dir <bundle_dir> --public-key <trusted_ed25519_public_key> --require-signature"

def buildBundleReadme (bundleType bundleId decisionRecordProfile now : String) : String :=
  "\n".intercalate ["VERITAS External Evidence Bundle","================================","","Bundle ID: " ++ bundleId,"Bundle Type: " ++ bundleType,
    "Generated At (UTC): " ++ now,"","Submission contract","-------------------",
    "- decision_record minimum set: required for baseline external review","- decision_record full set: required for legal/deep forensic review",
    "- declared profile for this bundle: " ++ decisionRecordProfile,"","Acceptance checklist","--------------------",
    "- See acceptance_checklist.json and mark each item PASS before handoff.","","Verification","------------","- Run: " ++ reviewerVerifyCommand,
    "- Obtain the trusted public key from the reviewer/operator trust channel;",
    "  do not trust a public key only because it is included in this bundle.",
    "- Verification is only cryptographically complete when a trusted public key","  verifier is supplied and --require-signature is used.",
    "- Inspect verification_report.json for chain and signature status;","  integrity-only reports are not signature-verified.",""]

def buildUiDeliveryHook (bundleType bundleId decisionRecordProfile : String) : Dict :=
  [field "hook_version" (.str "1.0"),field "bundle_id" (.str bundleId),field "bundle_type" (.str bundleType),
   field "decision_record_profile" (.str decisionRecordProfile),field "acceptance_checklist_path" (.str "acceptance_checklist.json"),
   field "readme_path" (.str "README.txt"),field "verify_command" (.str reviewerVerifyCommand),field "requires_trusted_public_key" (.bool true),
   field "signature_required_in_postures" (texts ["secure","prod"]),
   field "verification_scope" (texts ["file_hash_integrity","manifest_signature_authenticity"]),
   field "verification_requires_trusted_public_key" (.bool true),field "verification_requires_require_signature_flag" (.bool true)]

def baseName (path : String) : String := String.ofList (path.toList.reverse.takeWhile (· != '/')).reverse

def collectFileHashes (sha256 : String → String) (written : Written) : Dict :=
  (written.filter fun file => baseName file.1 != "manifest.json").map fun file => field file.1 (.str (sha256 file.2))

def sortedNames (names : List String) : List String := names.insertionSort fun a b => textLe a b = true

def optionalText (text : Option String) : Value := (text.map Value.str).getD .none

def buildManifest (surroundings : Surroundings) (request : Request) (bundleId : String) (entries : List Dict) (writtenFiles : List String)
    (written : Written) : Dict :=
  let timestamp (entry : Option Dict) : Value := (entry.map fun entry => entry.get "timestamp").getD .none
  [field "schema_version" (.str bundleSchemaVersion),field "bundle_type" (.str request.bundleType),field "bundle_id" (.str bundleId),
   field "created_at" (.str surroundings.now),field "created_by" (.str request.createdBy),field "contents" (texts (sortedNames writtenFiles)),
   field "file_hashes" (.dict (collectFileHashes surroundings.world.sha256 written)),field "entry_count" (.int entries.length),
   field "delivery_contract" (.dict [field "decision_record_profile" (.str request.decisionRecordProfile),
     field "acceptance_checklist_path" (.str "acceptance_checklist.json"),field "readme_path" (.str "README.txt"),
     field "ui_delivery_hook_path" (.str "ui_delivery_hook.json")]),
   field "time_range" (.dict [field "earliest" (timestamp entries.head?),field "latest" (timestamp entries.getLast?)])] ++
  (if (given request.timeRangeStart).isSome || (given request.timeRangeEnd).isSome then
    [field "filter" (.dict [field "time_range_start" (optionalText request.timeRangeStart),field "time_range_end" (optionalText request.timeRangeEnd)])]
  else if request.requestIds ≠ [] then [field "filter" (.dict [field "request_ids" (texts request.requestIds)])]
  else [])

def signManifest (request : Request) (manifestHash : String) (manifest : Dict) : Dict :=
  let hashed := manifest ++ [field "manifest_hash" (.str manifestHash)]
  match request.signerFn with
  | none => hashed
  | some sign =>
    match sign manifestHash with
    | .ok signature =>
      hashed ++ [field "manifest_signature" signature] ++
        (if request.signerMetadata = [] then [] else [field "manifest_signer" (.dict request.signerMetadata)])
    | .error error => hashed ++ [field "manifest_signature" .none,field "manifest_signature_error" (.str error)]

structure Bundle where
  bundleId : String
  directory : String
  manifestHash : String
  entries : List Dict
  report : Dict
  checklist : List ChecklistItem
  files : Written

def checkRequest (surroundings : Surroundings) (request : Request) : Except Exc Unit :=
  if !bundleTypes.contains request.bundleType then .error (valueError ("Invalid bundle_type: " ++ request.bundleType))
  else if !decisionRecordProfiles.contains request.decisionRecordProfile then
    .error (valueError "Invalid decision_record_profile. Expected one of ['minimum', 'full']")
  else if signatureRequired surroundings && request.verifySignatureFn.isNone then
    .error (valueError "Signature verification is required for secure/prod evidence bundle generation; provide verify_signature_fn.")
  else .ok ()

def signerMetadataOf (request : Request) (entries : List Dict) : Value :=
  if request.signerMetadata = [] then (entries.head?.map fun entry => entry.get "signer_metadata").getD .none
  else .dict request.signerMetadata

-- What is written before the checklist, in order, and the names written_files has by then.
def writeEvidence (surroundings : Surroundings) (request : Request) (entries : List Dict) (report : Dict) : Except Exc Written := do
  let signer := signerMetadataOf request entries
  let written ← writeJsonlFile surroundings.before "witness_entries.jsonl" entries
  let written ← writeSome written "anchor_receipts/anchor_receipts.json" (anchorReceipts entries != []) (.list (anchorReceipts entries))
  let written ← writeSome written "mirror_receipts/mirror_receipts.json" (mirrorReceipts entries != []) (.list (mirrorReceipts entries))
  let written ← writeSome written "artifacts/artifact_linkage.json" (artifactRefs entries != []) (.list (artifactRefs entries))
  let written ← writeSome written "signer_metadata.json" signer.truthy signer
  let written ← writeSome written "governance_identity.json" (request.governanceIdentity != []) (.dict request.governanceIdentity)
  let written ← writeSome written "incident_metadata.json" (request.incidentMetadata != [] && request.bundleType == "incident")
    (.dict request.incidentMetadata)
  let written ← writeSome written "release_provenance.json" (request.releaseProvenance != [] && request.bundleType == "release")
    (.dict request.releaseProvenance)
  let written ← writeJsonFile written "verification_report.json" (.dict report)
  writeSome written "decision_record.json" (request.bundleType == "decision")
    (.dict (decisionRecord surroundings request.decisionRecordProfile (entries.headD []) report))

def evidenceFiles (request : Request) (entries : List Dict) : List String :=
  let named (name : String) (present : Bool) : List String := if present then [name] else []
  ["witness_entries.jsonl"] ++ named "anchor_receipts/anchor_receipts.json" (anchorReceipts entries != []) ++
    named "mirror_receipts/mirror_receipts.json" (mirrorReceipts entries != []) ++
    named "artifacts/artifact_linkage.json" (artifactRefs entries != []) ++
    named "signer_metadata.json" (signerMetadataOf request entries).truthy ++
    named "governance_identity.json" (request.governanceIdentity != []) ++
    named "incident_metadata.json" (request.incidentMetadata != [] && request.bundleType == "incident") ++
    named "release_provenance.json" (request.releaseProvenance != [] && request.bundleType == "release") ++ ["verification_report.json"] ++
    named "decision_record.json" (request.bundleType == "decision")

def deliveryFiles : List String := ["acceptance_checklist.json","README.txt","ui_delivery_hook.json"]

def generateEvidenceBundle (surroundings : Surroundings) (request : Request) : Except Exc Bundle := do
  checkRequest surroundings request
  let bundleId := (given request.bundleId).getD surroundings.uuid7
  let loaded ← loadWitnessEntries surroundings.ledger
  let all ← asEntries loaded
  let entries ← selectEntries request all
  if entries = [] then .error (valueError "No witness entries match the specified filters")
  else do
    let report ← verificationReport surroundings request entries
    let written ← writeEvidence surroundings request entries report
    let checklist := buildAcceptanceChecklist request.bundleType (evidenceFiles request entries) request.decisionRecordProfile report
    let written ← writeJsonFile written "acceptance_checklist.json" (.dict (checklistDict request.bundleType checklist))
    let written := writeFile written "README.txt" (buildBundleReadme request.bundleType bundleId request.decisionRecordProfile surroundings.now)
    let written ← writeJsonFile written "ui_delivery_hook.json" (.dict (buildUiDeliveryHook request.bundleType bundleId request.decisionRecordProfile))
    let manifest := buildManifest surroundings request bundleId entries (evidenceFiles request entries ++ deliveryFiles) written
    let manifestHash ← WitnessLedger.sha256OfCanonicalJson surroundings.world.sha256 (.dict manifest)
    let written ← writeJsonFile written "manifest.json" (.dict (signManifest request manifestHash manifest))
    .ok ⟨bundleId,"veritas_bundle_" ++ request.bundleType ++ "_" ++ bundleId,manifestHash,entries,report,checklist,written⟩

def bundleDir (bundle : Bundle) : BundleDir where
  file path :=
    match bundle.files.find? fun file => file.1 == path with
    | some file => .content (.text file.2)
    | none => .absent
  listing := sortedNames (bundle.files.map Prod.fst)

structure Acceptable (verifiers : Verifiers) (requireSignature verifyWitnessSignatures : Bool) (bundle : Bundle) : Prop where
  reported : bundle.report.get "ok" = .bool true
  passed : ∀ item ∈ bundle.checklist, item.required = true → item.passed = true
  verified : ∃ report, verifyEvidenceBundle verifiers requireSignature verifyWitnessSignatures (bundleDir bundle) = .ok report ∧ report.ok = true

theorem manifest_unlisted (request : Request) (entries : List Dict) : (evidenceFiles request entries).contains "manifest.json" = false := by
  have unnamed (name : String) (present : Bool) (other : name ≠ "manifest.json") :
      (if present then [name] else ([] : List String)).contains "manifest.json" = false := by
    cases present <;> simp [other.symm]
  simp only [evidenceFiles,List.contains_append,Bool.or_eq_false_iff]
  exact ⟨⟨⟨⟨⟨⟨⟨⟨⟨by decide,unnamed _ _ (by decide)⟩,unnamed _ _ (by decide)⟩,unnamed _ _ (by decide)⟩,unnamed _ _ (by decide)⟩,
    unnamed _ _ (by decide)⟩,unnamed _ _ (by decide)⟩,unnamed _ _ (by decide)⟩,by decide⟩,unnamed _ _ (by decide)⟩

variable {surroundings : Surroundings} {request : Request} {entries : List Dict} {report : Dict} {verifier : Verifier} {members : Dict}

theorem generated_parts (generated : generateEvidenceBundle surroundings request = .ok bundle) :
    ∃ loaded all, loadWitnessEntries surroundings.ledger = .ok loaded ∧ asEntries loaded = .ok all ∧ selectEntries request all = .ok bundle.entries ∧
      bundle.entries ≠ [] ∧ verificationReport surroundings request bundle.entries = .ok bundle.report ∧
      bundle.checklist = buildAcceptanceChecklist request.bundleType (evidenceFiles request bundle.entries) request.decisionRecordProfile bundle.report := by
  obtain ⟨_,_,rest⟩ := bind_ok.mp generated
  obtain ⟨loaded,read,rest⟩ := bind_ok.mp rest
  obtain ⟨all,typed,rest⟩ := bind_ok.mp rest
  obtain ⟨entries,selected,rest⟩ := bind_ok.mp rest
  split at rest
  · cases rest
  · rename_i some_
    obtain ⟨report,reported,rest⟩ := bind_ok.mp rest
    obtain ⟨_,_,rest⟩ := bind_ok.mp rest
    obtain ⟨_,_,rest⟩ := bind_ok.mp rest
    obtain ⟨_,_,rest⟩ := bind_ok.mp rest
    obtain ⟨_,_,rest⟩ := bind_ok.mp rest
    obtain ⟨_,_,rest⟩ := bind_ok.mp rest
    obtain rfl := Except.ok.inj rest
    exact ⟨loaded,all,read,typed,selected,some_,reported,rfl⟩

-- The first item of every checklist is required and failed.
theorem integrity_failed (generated : generateEvidenceBundle surroundings request = .ok bundle) :
    ∃ item ∈ bundle.checklist, item.id = "manifest_integrity" ∧ item.required = true ∧ item.passed = false := by
  obtain ⟨_,_,_,_,_,_,_,checklist⟩ := generated_parts generated
  rw [checklist]
  exact ⟨_,List.mem_cons_self,rfl,rfl,manifest_unlisted request bundle.entries⟩

def reportVerifier (surroundings : Surroundings) (check : Dict → Except Exc Bool) : Verifier :=
  { surroundings.world with s3Client := none,verifySignatureFn := some fun entry => (check entry).toOption.getD false }

theorem never_acceptable (surroundings : Surroundings) (request : Request) (verifiers : Verifiers) (requireSignature verifyWitnessSignatures : Bool) :
    ¬∃ bundle, generateEvidenceBundle surroundings request = .ok bundle ∧ Acceptable verifiers requireSignature verifyWitnessSignatures bundle := by
  rintro ⟨bundle,generated,acceptable⟩
  obtain ⟨item,listed,_,required,failed⟩ := integrity_failed generated
  have passed := acceptable.passed item listed required
  rw [failed] at passed
  cases passed

def sampleEntry : List (String × Json) :=
  [("decision_payload",.obj []),("payload_hash",.str "h"),("previous_hash",.atom .null),("signature",.str "s")]

def sampleSurroundings : Surroundings where
  world := sampleVerifiers.world
  ledger := .content (.text (dumps compact (.obj sampleEntry) ++ "\n"))
  before := []
  now := "2026-01-01T00:00:00Z"
  uuid7 := "0"
  errorCode _ := "unknown"
  tamperCode _ := false

def sampleRequest : Request where
  bundleType := "incident"
  requestIds := []
  timeRangeStart := none
  timeRangeEnd := none
  governanceIdentity := []
  releaseProvenance := []
  incidentMetadata := []
  signerFn := some fun _ => .ok (.str "s")
  signerMetadata := []
  verifySignatureFn := some fun _ => .ok true
  decisionRecordProfile := "minimum"
  bundleId := none
  createdBy := "veritas_os"

example : (generateEvidenceBundle sampleSurroundings sampleRequest).toOption.isSome = true := by decide +kernel

-- The whole of an accepted ledger of one entry, with a signer that works: everything is in order but the checklist.
theorem sound_bundle_unacceptable : ¬∀ surroundings request check loaded all verifiers requireSignature verifyWitnessSignatures,
    request.verifySignatureFn = some check → loadWitnessEntries surroundings.ledger = .ok loaded → asEntries loaded = .ok all →
    Accepted (reportVerifier surroundings check) all → all ≠ [] → request.requestIds = [] → request.timeRangeStart = none →
    request.timeRangeEnd = none →
    ∃ bundle, generateEvidenceBundle surroundings request = .ok bundle ∧ Acceptable verifiers requireSignature verifyWitnessSignatures bundle := by
  intro every
  have loaded : loadWitnessEntries sampleSurroundings.ledger = .ok [.dict (entryOf sampleEntry)] := by decide +kernel
  have accepted : Accepted (reportVerifier sampleSurroundings fun _ => .ok true) [entryOf sampleEntry] := accepted_of_ok (by decide +kernel)
  obtain ⟨bundle,generated,acceptable⟩ := every sampleSurroundings sampleRequest (fun _ => .ok true) _ [entryOf sampleEntry] sampleVerifiers true true
    rfl loaded rfl accepted (by simp) rfl rfl rfl
  obtain ⟨item,listed,_,required,failed⟩ := integrity_failed generated
  have passed := acceptable.passed item listed required
  rw [failed] at passed
  cases passed

end VeritasOs.EvidenceBundle
