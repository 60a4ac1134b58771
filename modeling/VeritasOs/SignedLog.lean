import VeritasOs.BackwardLines
import VeritasOs.CallRuns
import VeritasOs.JsonData
import VeritasOs.WormMirror

namespace VeritasOs.SignedLog
open BindArtifacts hiding sha256OfCanonicalJson
open Text JsonText TextLines BackwardLines FullLedger Posture WitnessLedger

-- A key of a provider: its fingerprint, when there is one, and its verification.
structure Key where
  fingerprint : Option String
  verify : Signer

-- The local key pair, and the keys of the remote providers by provider and name.
structure Keys where
  fileFingerprint : String
  fileVerify : Signer
  provider : String → String → Key

structure TrustlogSigner where
  signerType : String
  signerKeyId : String
  signerKeyVersion : String
  signatureAlgorithm : String
  publicKeyFingerprint : Option String
  verifyPayloadSignature : Signer

def fileSigner (keys : Keys) : TrustlogSigner :=
  ⟨"file",keys.fileFingerprint,"unversioned","ed25519",some keys.fileFingerprint,keys.fileVerify⟩

-- A provider takes the name of its key without the blanks around it.
def kmsSigner (keys : Keys) (providerName required keyName : String) (version : String → String) : Except Exc TrustlogSigner :=
  let name := strip keyName
  if name = "" then .error (valueError (required ++ " is required for " ++ providerName ++ " backend"))
  else
    let key := keys.provider providerName name
    .ok ⟨providerName,name,version name,"eddsa_ed25519",key.fingerprint,key.verify⟩

def afterLastSlash (name : String) : String := String.ofList (name.toList.rtakeWhile fun c => !(c == '/'))

def buildTrustlogSigner (env : Env) (keys : Keys) (backend kmsKeyId : Option String) : Except Exc TrustlogSigner :=
  let selected := lower (strip (backend.getD ((env "VERITAS_TRUSTLOG_SIGNER_BACKEND").getD "file")))
  if ["","file","file_ed25519"].contains selected then .ok (fileSigner keys)
  else if ["aws_kms","aws_kms_ed25519"].contains selected then
    kmsSigner keys "aws_kms" "VERITAS_TRUSTLOG_KMS_KEY_ID" (kmsKeyId.getD ((env "VERITAS_TRUSTLOG_KMS_KEY_ID").getD "")) fun _ => "unknown"
  else if ["gcp_kms","gcp_kms_ed25519"].contains selected then
    kmsSigner keys "gcp_kms" "VERITAS_TRUSTLOG_GCP_KMS_KEY_NAME" ((env "VERITAS_TRUSTLOG_GCP_KMS_KEY_NAME").getD "") afterLastSlash
  else if ["vault","vault_transit"].contains selected then
    kmsSigner keys "vault" "VERITAS_TRUSTLOG_VAULT_KEY_NAME" ((env "VERITAS_TRUSTLOG_VAULT_KEY_NAME").getD "") fun _ => "unknown"
  else .error (valueError "Unsupported signer backend. Expected 'file', 'aws_kms', 'gcp_kms', or 'vault'.")

def keyring (env : Env) (keys : Keys) : Keyring where
  build backend kmsKeyId := (buildTrustlogSigner env keys (some backend) kmsKeyId).toOption.map TrustlogSigner.verifyPayloadSignature
  configured := (buildTrustlogSigner env keys none none).toOption.map TrustlogSigner.verifyPayloadSignature

def buildSignerMetadata (signer : TrustlogSigner) (signedAt : String) : Dict :=
  [field "metadata_version" (.str "v2"),field "signer_type" (.str signer.signerType),field "signer_key_id" (.str signer.signerKeyId),
   field "signer_key_version" (.str signer.signerKeyVersion),field "signature_algorithm" (.str signer.signatureAlgorithm),
   field "public_key_fingerprint" (optStr signer.publicKeyFingerprint),field "signed_at" (.str signedAt),
   field "verification_policy_version" (.str "trustlog_witness_v2"),
   field "key_version_normalized" (.bool (signer.signerKeyVersion == "unknown")),
   field "fingerprint_missing" (.bool signer.publicKeyFingerprint.isNone)]

def summaryAllowlist : List String :=
  ["request_id","created_at","decision_id","context_user_id","sha256","sha256_prev","decision_status","chosen_title","rejection_reason",
   "telos_score","gate_risk","gate_total","gate_status","fast_mode","plan_steps","mem_hits","web_hits","critique_ok","critique_mode",
   "critique_reason","event_type","actor_role","requested_permission","endpoint","method","reason_code","trace_id","audit_schema_version","ts"]

def nestedScalarExtracts : List (List String × String) :=
  [(["fuji","status"],"fuji_status"),(["fuji","risk"],"fuji_risk"),(["chosen","title"],"chosen_title")]

def deepGet (d : Value) (parts : List String) : Value :=
  parts.foldl (fun cur part =>
    match cur with
    | .dict members => Dict.get members part
    | _ => .none) d

def extractScalar (payload summary : Dict) (extract : List String × String) : Dict :=
  if summary.has extract.2 then summary
  else
    let val := deepGet (.dict payload) extract.1
    if val = .none then summary else summary.set extract.2 val

-- The allowlist is a set; `order` is the order in which it is gone through.
def buildTrustlogSummary (order : List String) (payload : Dict) : Dict :=
  let copied := order.filterMap fun name => (lookup (.str name) payload).map (field name)
  let summary := nestedScalarExtracts.foldl (extractScalar payload) copied
  if summary.has "chosen_title" then summary
  else
    match payload.get "chosen" with
    | .dict chosen => summary.set "chosen_title" (Dict.get chosen "title")
    | _ => summary

def maxEntryLineBytes : Nat := 32768

def stubPayload (entry : Dict) : Dict :=
  let payload := ((entry.get "decision_payload").asDict?).getD []
  [field "request_id" (payload.get "request_id"),field "__trustlog_oversized__" (.bool true),
   field "original_payload_hash" (entry.get "payload_hash")]

-- An entry that is too large gets a stub, signed again; when that fails the signature stays as it was.
def enforceEntrySize (sha256 : String → String) (sign : String → Except Exc String) (entry : Dict) : Except Exc Dict :=
  match toJson false (.dict entry) with
  | none => .error (typeError "Object is not JSON serializable")
  | some document =>
    if byteLength (print spaced 0 document) ≤ maxEntryLineBytes then .ok entry
    else do
      let stub := stubPayload entry
      let payloadHash ← sha256OfCanonicalJson sha256 (.dict stub)
      let replaced := (entry.set "decision_payload" (.dict stub)).set "payload_hash" (.str payloadHash)
      match sign payloadHash with
      | .ok signature => return replaced.set "signature" (.str signature)
      | .error _ => return replaced

def buildArtifactReference (payload : Dict) : Option Dict :=
  match payload.get "sha256" with
  | .str fullSha =>
    if strip fullSha = "" then none
    else some [field "artifact_ref" (.str "trustlog_full_payload"),field "artifact_type" (.str "trust_log_entry"),
      field "artifact_storage_backend" (.str "trustlog_full_ledger"),field "artifact_locator" (.str ("sha256:" ++ strip fullSha)),
      field "artifact_hash_algorithm" (.str "sha256_canonical_json")]
  | _ => none

def readLastEntry (ledger : List Char) : Option Value := (readLast (readLine isByteSpace) ledger).map fromJson

def readAllEntries (ledger : List Char) : List Value := (readAll (readLine isSpace) ledger).map fromJson

def chainHashOf (sha256 : String → String) : Option Value → Except Exc Value
  | none => .ok .none
  | some last => if last.truthy then (sha256OfCanonicalJson sha256 last).map Value.str else .ok .none

def previousHash (sha256 : String → String) (ledger : List Char) : Except Exc Value := chainHashOf sha256 (readLastEntry ledger)

-- What _mirror_to_worm finds configured, and how the write of this call ends.
inductive MirrorBackend where
  | invalid (error : String)
  | localAppend (path failure : Option String)
  | s3ObjectLock (mirror : WormMirror.S3ObjectLockMirror) (call : WormMirror.Call) (state : WormMirror.State)

def localMirror (configured ok : Bool) (path : Option String) (rest : Dict) : Dict :=
  [field "configured" (.bool configured),field "ok" (.bool ok),field "backend" (.str "local"),field "path" (optStr path)] ++ rest

def mirrorToWorm (sha256 : String → String) (hmac : String → String → String) (line : List Char) : MirrorBackend → Except Exc Dict
  | .invalid error =>
    .ok [field "configured" (.bool true),field "ok" (.bool false),field "backend" (.str "invalid"),field "error" (.str error)]
  | .localAppend none _ => .ok (localMirror false false none [])
  | .localAppend (some path) (some error) => .ok (localMirror true false (some path) [field "error" (.str error)])
  | .localAppend (some path) none => .ok (localMirror true true (some path) [])
  | .s3ObjectLock mirror call state =>
    match (WormMirror.appendLine sha256 hmac mirror { call with line := String.ofList line } state).1 with
    | .ok result => .ok result
    | .error error => .error ⟨.overflowError,error⟩

def mirrorReceiptBaseKeys : List String :=
  ["bucket","key","version_id","etag","retention_mode","retain_until_date","mode","segment_id","segment_object_key","segment_manifest_key",
   "segment_payload_hash","manifest_hash","manifest_version_id","manifest_etag","manifest"]

def buildMirrorReceipt (mirrorResult : Dict) : Dict :=
  mirrorReceiptBaseKeys.filterMap fun name => if mirrorResult.get name = .none then none else some (field name (mirrorResult.get name))

structure AnchorReceipt where
  backend : String
  status : String
  anchoredHash : String
  anchoredAt : String
  receiptId : String
  receiptLocation : Option String
  receiptPayloadHash : Option String
  externalTimestamp : Option String
  details : Dict

def AnchorReceipt.toDict (receipt : AnchorReceipt) : Dict :=
  [field "backend" (.str receipt.backend),field "status" (.str receipt.status),field "anchored_hash" (.str receipt.anchoredHash),
   field "anchored_at" (.str receipt.anchoredAt),field "receipt_id" (.str receipt.receiptId),
   field "receipt_location" (optStr receipt.receiptLocation),field "receipt_payload_hash" (optStr receipt.receiptPayloadHash),
   field "external_timestamp" (optStr receipt.externalTimestamp),field "details" (.dict receipt.details)]

-- What is configured, and how the anchoring of this call ends. The TSA is asked with the hash.
inductive AnchorBackend where
  | localSpool (path failure : Option String)
  | noOp
  | tsa (anchor : String → Except String AnchorReceipt)
  | unsupported (name : String)

def AnchorBackend.name : AnchorBackend → String
  | .localSpool _ _ => "local"
  | .noOp => "noop"
  | .tsa _ => "tsa"
  | .unsupported name => name

-- The receipt, or the class and message of what was raised.
def anchor (sha256 : String → String) (anchoredAt receiptId entryHash : String) : AnchorBackend → Except String AnchorReceipt
  | .localSpool none _ =>
    .ok ⟨"local","not_configured",entryHash,anchoredAt,receiptId,none,none,none,
      [field "configured" (.bool false),field "ok" (.bool false)]⟩
  | .localSpool (some _) (some error) => .error error
  | .localSpool (some path) none =>
    let payload := [field "timestamp" (.str anchoredAt),field "entry_hash" (.str entryHash)]
    .ok ⟨"local","anchored",entryHash,anchoredAt,receiptId,some path,(canonicalJsonDumps (.dict payload)).map sha256,none,
      [field "configured" (.bool true),field "ok" (.bool true),field "path" (.str path),field "entry_hash" (.str entryHash)]⟩
  | .noOp =>
    .ok ⟨"noop","skipped",entryHash,anchoredAt,receiptId,none,none,none,[field "configured" (.bool true),field "ok" (.bool true)]⟩
  | .tsa ask => ask entryHash
  | .unsupported _ =>
    .error "ValueError: Unsupported VERITAS_TRUSTLOG_ANCHOR_BACKEND. Expected 'local', 'noop', or 'tsa'."

def failedAnchor (name anchoredAt receiptId entryHash error : String) : Dict :=
  [field "backend" (.str name),field "status" (.str "failed"),field "receipt" (.dict
     [field "backend" (.str name),field "status" (.str "failed"),field "anchored_hash" (.str entryHash),field "anchored_at" (.str anchoredAt),
      field "receipt_id" (.str receiptId),field "receipt_location" .none,field "receipt_payload_hash" .none,field "external_timestamp" .none,
      field "details" (.dict [field "configured" (.bool true),field "ok" (.bool false)]),field "error" (.str error)]),
   field "configured" (.bool true),field "ok" (.bool false),field "path" .none,field "error" (.str error)]

def anchorEntryHash (sha256 : String → String) (backend : AnchorBackend) (anchoredAt receiptId entryHash : String) : Dict :=
  match anchor sha256 anchoredAt receiptId entryHash backend with
  | .error error => failedAnchor backend.name anchoredAt receiptId entryHash error
  | .ok receipt =>
    let configured := (receipt.details.getD "configured" (.bool true)).truthy
    let ok := (receipt.details.getD "ok" (.bool (["anchored","skipped"].contains receipt.status))).truthy
    [field "backend" (.str receipt.backend),field "status" (.str receipt.status),field "receipt" (.dict receipt.toDict),
     field "configured" (.bool configured),field "ok" (.bool ok),field "path" (receipt.details.get "path"),
     field "entry_hash" (.str receipt.anchoredHash)]

-- The I/O error of a write: when the file is opened, or with so many characters of the text missing
-- at its end. With none missing it is the fsync that fails.
inductive WriteFault where
  | refused
  | broken (missing : Nat)
deriving DecidableEq

def WriteFault.written (text : List Char) : WriteFault → List Char
  | .refused => []
  | .broken missing => text.take (text.length - missing)

def WriteFault.complete : WriteFault → Bool
  | .refused => false
  | .broken missing => decide (missing ≤ 1)

-- What a call is given and finds around it. A signature is an answer of the signer to this call.
structure Call where
  payload : Dict
  enableArtifactRef : Bool
  decisionId : String
  now : String
  sign : String → Except Exc String
  signAgain : String → Except Exc String
  fault : Option WriteFault
  mirror : MirrorBackend
  anchor : AnchorBackend
  anchoredAt : String
  receiptId : String

-- What stays the same between calls. The two postures count where the environment is silent.
structure System where
  env : Env
  sha256 : String → String
  hmac : String → String → String
  keys : Keys
  order : List String
  listed : order.Perm summaryAllowlist
  postureHardFail : Bool
  postureRequired : Bool

inductive Failure where
  | signedTrustLogWriteError (text : String)
  | raised (error : Exc)
deriving DecidableEq

def Failure.of (error : Exc) : Failure :=
  if error.kind = .osError ∨ error.kind = .valueError ∨ error.kind = .typeError then
    .signedTrustLogWriteError "signed trust log append failed"
  else .raised error

section Append
variable (system : System)

def System.enabled (name : String) (posture : Bool) : Bool :=
  match system.env name with
  | some raw => truthyTexts.contains (lower (strip raw))
  | none => posture

def wormHardFailEnabled : Bool := system.enabled "VERITAS_TRUSTLOG_WORM_HARD_FAIL" system.postureHardFail

def transparencyRequiredEnabled : Bool := system.enabled "VERITAS_TRUSTLOG_TRANSPARENCY_REQUIRED" system.postureRequired

def artifactField (call : Call) : Dict :=
  if call.enableArtifactRef then ((buildArtifactReference call.payload).map fun reference => field "artifact_ref" (.dict reference)).toList else []

def signEntry (call : Call) : Except Exc Dict := do
  let signer ← buildTrustlogSigner system.env system.keys none none
  let fullPayloadHash ← sha256OfCanonicalJson system.sha256 (.dict call.payload)
  let compactPayload := buildTrustlogSummary system.order call.payload
  let payloadHash ← sha256OfCanonicalJson system.sha256 (.dict compactPayload)
  let signature ← call.sign payloadHash
  return [field "decision_id" (.str call.decisionId),field "timestamp" (.str call.now),field "previous_hash" .none,
    field "decision_payload" (.dict compactPayload),field "payload_hash" (.str payloadHash),field "full_payload_hash" (.str fullPayloadHash),
    field "signature" (.str signature),field "signer_type" (.str signer.signerType),field "signer_key_id" (.str signer.signerKeyId),
    field "signer_metadata" (.dict (buildSignerMetadata signer call.now))] ++ artifactField call

structure Written where
  entry : Dict
  persisted : Value
  line : List Char

def writeLine (entry : Dict) : Except Exc Written :=
  match toJson false (.dict entry) with
  | none => .error (typeError "Object is not JSON serializable")
  | some document =>
    match toJson false (fromJson document) with
    | none => .error (typeError "Object is not JSON serializable")
    | some again => .ok ⟨entry,fromJson document,print spaced 0 again ++ ['\n']⟩

def prepareLine (call : Call) (ledger : List Char) : Except Exc Written := do
  let signed ← signEntry system call
  if call.fault = some .refused then throw ⟨.osError,"I/O error"⟩
  let previous ← previousHash system.sha256 ledger
  let entry ← enforceEntrySize system.sha256 call.signAgain (signed.set "previous_hash" previous)
  writeLine entry

def afterwards (call : Call) (written : Written) : Except Failure Dict :=
  match sha256OfCanonicalJson system.sha256 written.persisted with
  | .error error => .error (.of error)
  | .ok entryHash =>
    match mirrorToWorm system.sha256 system.hmac written.line call.mirror with
    | .error error => .error (.of error)
    | .ok mirror =>
      if wormHardFailEnabled system && (mirror.get "configured").truthy && !(mirror.get "ok").truthy then
        .error (.signedTrustLogWriteError "worm_mirror_write_failed")
      else
        let transparency := anchorEntryHash system.sha256 call.anchor call.anchoredAt call.receiptId entryHash
        if transparencyRequiredEnabled system && (transparency.get "configured").truthy && !(transparency.get "ok").truthy then
          .error (.signedTrustLogWriteError "transparency_anchor_write_failed")
        else .ok (written.entry ++ [field "worm_mirror" (.dict mirror),field "mirror_backend" (mirror.get "backend"),
           field "mirror_receipt" (if (mirror.get "ok").truthy then .dict (buildMirrorReceipt mirror) else .none),
           field "transparency_anchor" (.dict transparency),field "anchor_backend" (transparency.get "backend"),
           field "anchor_status" (transparency.get "status"),field "anchor_receipt" (transparency.get "receipt")])

def appendSignedDecision (ledger : List Char) (call : Call) : Except Failure Dict × List Char :=
  match prepareLine system call ledger with
  | .error error => (.error (.of error),ledger)
  | .ok written =>
    match call.fault with
    | some fault => (.error (.of ⟨.osError,"I/O error"⟩),ledger ++ fault.written written.line)
    | none => (afterwards system call written,ledger ++ written.line)

end Append

variable {keys : Keys} {signer : TrustlogSigner} {env : Env} {entry members : Dict} {value : Value} {payload : Dict}

theorem kmsSigner_exact : kmsSigner keys providerName required keyName version = .ok signer ↔
      strip keyName ≠ "" ∧ signer = ⟨providerName,strip keyName,version (strip keyName),"eddsa_ed25519",
        (keys.provider providerName (strip keyName)).fingerprint,(keys.provider providerName (strip keyName)).verify⟩ := by
  unfold kmsSigner
  dsimp only
  split
  · rename_i blank
    exact ⟨fun made => (by cases made),fun given => absurd blank given.1⟩
  · rename_i filled
    exact ⟨fun made => ⟨filled,(Except.ok.inj made).symm⟩,fun given => congrArg _ given.2.symm⟩

def namedKeyId (signer : TrustlogSigner) : Option String :=
  if strip signer.signerKeyId = "" then none else some (strip signer.signerKeyId)

theorem signer_again (built : buildTrustlogSigner env keys none none = .ok signer) :
    (lower (strip signer.signerType) = signer.signerType ∧ signer.signerType ≠ "") ∧
      buildTrustlogSigner env keys (some signer.signerType) (namedKeyId signer) = .ok signer := by
  have file : lower (strip "file") = "file" ∧ "file" ≠ "" := by decide
  have aws : lower (strip "aws_kms") = "aws_kms" ∧ "aws_kms" ≠ "" := by decide
  have gcp : lower (strip "gcp_kms") = "gcp_kms" ∧ "gcp_kms" ≠ "" := by decide
  have vault : lower (strip "vault") = "vault" ∧ "vault" ≠ "" := by decide
  unfold buildTrustlogSigner at built
  dsimp only at built
  split at built
  · obtain rfl := Except.ok.inj built
    refine ⟨file,?_⟩
    unfold buildTrustlogSigner fileSigner
    dsimp only [Option.getD_some]
    rw [file.1,if_pos (by decide)]
  · split at built
    · obtain ⟨filled,rfl⟩ := kmsSigner_exact.mp built
      refine ⟨aws,?_⟩
      unfold buildTrustlogSigner namedKeyId
      dsimp only [Option.getD_some]
      rw [aws.1,if_neg (by decide),if_pos (by decide),strip_strip,if_neg filled]
      refine kmsSigner_exact.mpr ⟨?_,?_⟩
      · rwa [Option.getD_some,strip_strip]
      · rw [Option.getD_some,strip_strip]
    · split at built
      · obtain ⟨filled,rfl⟩ := kmsSigner_exact.mp built
        refine ⟨gcp,?_⟩
        unfold buildTrustlogSigner
        dsimp only [Option.getD_some]
        rw [gcp.1,if_neg (by decide),if_neg (by decide),if_pos (by decide)]
        exact built
      · split at built
        · obtain ⟨filled,rfl⟩ := kmsSigner_exact.mp built
          refine ⟨vault,?_⟩
          unfold buildTrustlogSigner
          dsimp only [Option.getD_some]
          rw [vault.1,if_neg (by decide),if_neg (by decide),if_neg (by decide),if_pos (by decide)]
          exact built
        · cases built

-- An entry of a signer: it says which signer it is of, next to the hash and the signature.
structure SignedBy (signer : TrustlogSigner) (hash signature : String) (entry : Dict) : Prop where
  metadata : ∃ signedAt, lookup (.str "signer_metadata") entry = some (.dict (buildSignerMetadata signer signedAt))
  hash : lookup (.str "payload_hash") entry = some (.str hash)
  signature : lookup (.str "signature") entry = some (.str signature)

theorem resolve_named (ring : Keyring) {signerType keyId : String} (metadata : entry.get "signer_metadata" = .dict signerMeta)
    (type_ : ∀ default, Dict.getD signerMeta "signer_type" default = .str signerType)
    (id_ : ∀ default, Dict.getD signerMeta "signer_key_id" default = .str keyId) : resolveSignerForEntry ring entry =
      if lower (strip signerType) = "" then ring.configured
      else ring.build (lower (strip signerType)) (if strip keyId = "" then none else some (strip keyId)) := by
  unfold resolveSignerForEntry
  simp only [metadata,type_,id_,Value.text]

theorem SignedBy.resolved {hash signature : String} (built : buildTrustlogSigner env keys none none = .ok signer)
    (signed : SignedBy signer hash signature entry) :
    resolveSignerForEntry (keyring env keys) entry = some signer.verifyPayloadSignature := by
  obtain ⟨⟨word,named⟩,again⟩ := signer_again built
  obtain ⟨signedAt,metadata⟩ := signed.metadata
  have found : (keyring env keys).build signer.signerType (namedKeyId signer) = some signer.verifyPayloadSignature := by
    rw [keyring]
    dsimp only
    rw [again]
    rfl
  rw [resolve_named _ (by rw [Dict.get,metadata]; rfl) (fun _ => rfl) (fun _ => rfl),word,if_neg named]
  exact found

theorem SignedBy.verifies {hash signature : String} (built : buildTrustlogSigner env keys none none = .ok signer)
    (signed : SignedBy signer hash signature entry) (genuine : signer.verifyPayloadSignature hash signature = some true) :
    verifySignature (keyring env keys) entry = true := by
  unfold verifySignature
  rw [signed.resolved built,Option.bind_some,Dict.has,Dict.has,Dict.get,Dict.get,signed.hash,signed.signature]
  dsimp only [Option.getD_some,Value.text]
  rw [genuine]
  rfl

theorem lookup_set : lookup (.str name) (members.set name value) = some value := by
  rw [Dict.set,lookup_store,if_pos rfl]

theorem lookup_set_other (other : wanted ≠ name) : lookup (.str wanted) (members.set name value) = lookup (.str wanted) members := by
  rw [Dict.set,lookup_store,if_neg fun same => other (Key.str.inj same).symm]

theorem set_json (json : isJson (.dict members) = true) (name : String) (value_ : isJson value = true) :
    isJson (.dict (members.set name value)) = true := by
  obtain ⟨record,inside⟩ := (isJson_dict members).mp json
  exact (isJson_dict _).mpr ⟨record.set name value,store_forall _ value_ inside⟩

theorem fields_json (names : List String) (keys : members.map Prod.fst = names.map Key.str) (distinct : names.Nodup)
    (inside : ∀ member ∈ members, isJson member.2 = true) : isJson (.dict members) = true := by
  have record : Record members := by
    refine ⟨fun member listed => ?_,keys ▸ distinct.map fun _ _ same => Key.str.inj same⟩
    obtain ⟨name,_,same⟩ := List.mem_map.mp (keys ▸ List.mem_map_of_mem (f := Prod.fst) listed)
    exact ⟨name,same.symm⟩
  exact (isJson_dict members).mpr ⟨record,inside⟩

theorem deepGet_json (json : isJson d = true) (parts : List String) : isJson (deepGet d parts) = true := by
  induction parts generalizing d with
  | nil => exact json
  | cons part rest ih =>
    refine ih ?_
    cases d with
    | dict members => exact isJson_get json part
    | _ => rfl

theorem extractScalar_json (given : isJson (.dict payload) = true) (json : isJson (.dict summary) = true)
    (extract : List String × String) : isJson (.dict (extractScalar payload summary extract)) = true := by
  unfold extractScalar
  split
  · exact json
  · dsimp only
    split
    · exact json
    · exact set_json json _ (deepGet_json given _)

theorem extracts_json (given : isJson (.dict payload) = true) (json : isJson (.dict summary) = true)
    (extracts : List (List String × String)) : isJson (.dict (extracts.foldl (extractScalar payload) summary)) = true := by
  induction extracts generalizing summary with
  | nil => exact json
  | cons extract rest ih => exact ih (extractScalar_json given json extract)

theorem copied_json (given : isJson (.dict payload) = true) {order : List String} (distinct : order.Nodup) :
    isJson (.dict (order.filterMap fun name => (lookup (.str name) payload).map (field name))) = true := by
  refine fields_json (order.filter fun name => payload.has name) ?_ (distinct.filter _) fun member listed => ?_
  · clear distinct
    induction order with
    | nil => rfl
    | cons name rest ih =>
      cases found : lookup (.str name) payload with
      | none => simpa [found,Dict.has] using ih
      | some value => simpa [found,Dict.has,field] using ih
  · obtain ⟨name,_,copied⟩ := List.mem_filterMap.mp listed
    obtain ⟨value,found,rfl⟩ := Option.map_eq_some_iff.mp copied
    exact isJson_lookup given found

theorem summary_json (distinct : order.Nodup) (given : isJson (.dict payload) = true) :
    isJson (.dict (buildTrustlogSummary order payload)) = true := by
  have json := extracts_json given (copied_json given distinct) nestedScalarExtracts
  unfold buildTrustlogSummary
  dsimp only
  split
  · exact json
  · split
    · rename_i chosen found
      exact set_json json _ (isJson_get (found ▸ isJson_get given "chosen") "title")
    · exact json

theorem order_distinct (system : System) : system.order.Nodup := system.listed.nodup_iff.mpr (by decide)

theorem optStr_json (value : Option String) : isJson (optStr value) = true := by cases value <;> rfl

theorem metadata_json (signer : TrustlogSigner) (signedAt : String) : isJson (.dict (buildSignerMetadata signer signedAt)) = true :=
  fields_json ["metadata_version","signer_type","signer_key_id","signer_key_version","signature_algorithm","public_key_fingerprint",
    "signed_at","verification_policy_version","key_version_normalized","fingerprint_missing"] rfl (by decide)
    (by simp [buildSignerMetadata,field,optStr_json])

theorem reference_json (made : buildArtifactReference payload = some reference) : isJson (.dict reference) = true := by
  unfold buildArtifactReference at made
  split at made
  · split at made
    · cases made
    · obtain rfl := Option.some.inj made
      exact fields_json ["artifact_ref","artifact_type","artifact_storage_backend","artifact_locator","artifact_hash_algorithm"] rfl
        (by decide) (by simp [field])
  · cases made

theorem stub_json (json : isJson (.dict entry) = true) : isJson (.dict (stubPayload entry)) = true := by
  have payload : isJson (Dict.get (((entry.get "decision_payload").asDict?).getD []) "request_id") = true := by
    cases found : entry.get "decision_payload" with
    | dict members => exact isJson_get (found ▸ isJson_get json "decision_payload") _
    | _ => rfl
  exact fields_json ["request_id","__trustlog_oversized__","original_payload_hash"] rfl (by decide)
    (by simp [stubPayload,field,payload,isJson_get json])

section Written
variable {system : System} {call : Call}

-- What an entry keeps when it gets its place in the chain, and when it is cut down to a stub.
structure Framed (system : System) (call : Call) (signer : TrustlogSigner) (entry : Dict) : Prop where
  json : isJson (.dict entry) = true
  metadata : ∃ signedAt, lookup (.str "signer_metadata") entry = some (.dict (buildSignerMetadata signer signedAt))
  full : ∃ hash, sha256OfCanonicalJson system.sha256 (.dict call.payload) = .ok hash ∧ lookup (.str "full_payload_hash") entry = some (.str hash)
  reference : lookup (.str "artifact_ref") entry = lookup (.str "artifact_ref") (artifactField call)
  unmirrored : ∀ name ∈ ["worm_mirror","mirror_receipt"], lookup (.str name) entry = none
  begins : ∃ decisionId rest, entry = field "decision_id" (.str decisionId) :: rest

def framedNames : List String := ["decision_id","signer_metadata","full_payload_hash","artifact_ref","worm_mirror","mirror_receipt"]

variable {signer : TrustlogSigner} {entry : Dict} {value : Value} {hash signature : String}

theorem Framed.set (framed : Framed system call signer entry) (apart : name ∉ framedNames) (json : isJson value = true) :
    Framed system call signer (entry.set name value) := by
  have other : ∀ wanted ∈ framedNames, wanted ≠ name := by
    rintro wanted listed rfl
    exact apart listed
  obtain ⟨signedAt,metadata⟩ := framed.metadata
  obtain ⟨hash,hashed,full⟩ := framed.full
  refine ⟨set_json framed.json name json,⟨signedAt,?_⟩,⟨hash,hashed,?_⟩,?_,?_,?_⟩
  · rw [lookup_set_other (other _ (by decide)),metadata]
  · rw [lookup_set_other (other _ (by decide)),full]
  · rw [lookup_set_other (other _ (by decide)),framed.reference]
  · intro wanted listed
    rw [lookup_set_other (other _ (by revert listed; simp only [List.mem_cons,List.not_mem_nil,or_false]; rintro (rfl | rfl) <;> decide)),
      framed.unmirrored wanted listed]
  · obtain ⟨decisionId,rest,rfl⟩ := framed.begins
    have first : Key.str "decision_id" ≠ .str name := fun same => other _ (by decide) (Key.str.inj same)
    exact ⟨decisionId,store (.str name) value rest,by rw [Dict.set,field,store,if_neg first]⟩

-- An entry with a signature over the hash of its payload.
structure Prepared (system : System) (call : Call) (signer : TrustlogSigner) (hash signature : String) (entry : Dict) : Prop
    extends Framed system call signer entry where
  payload : ∃ payload, lookup (.str "decision_payload") entry = some payload ∧ sha256OfCanonicalJson system.sha256 payload = .ok hash
  payloadHash : lookup (.str "payload_hash") entry = some (.str hash)
  signature_ : lookup (.str "signature") entry = some (.str signature)

theorem Prepared.signed (prepared : Prepared system call signer hash signature entry) :
    SignedBy signer hash signature entry := ⟨prepared.metadata,prepared.payloadHash,prepared.signature_⟩

theorem artifactField_json : ∀ member ∈ artifactField call, isJson member.2 = true := by
  intro member listed
  unfold artifactField at listed
  split at listed
  · obtain ⟨reference,made,rfl⟩ := Option.map_eq_some_iff.mp (Option.mem_toList.mp listed)
    exact reference_json made
  · cases listed

theorem artifactField_keys (call : Call) : ∃ names, (names = [] ∨ names = ["artifact_ref"]) ∧ (artifactField call).map Prod.fst = names.map Key.str := by
  unfold artifactField
  split
  · cases buildArtifactReference call.payload with
    | none => exact ⟨[],.inl rfl,rfl⟩
    | some members => exact ⟨_,.inr rfl,rfl⟩
  · exact ⟨[],.inl rfl,rfl⟩

def entryNames : List String :=
  ["decision_id","timestamp","previous_hash","decision_payload","payload_hash","full_payload_hash","signature","signer_type","signer_key_id",
   "signer_metadata"]

theorem signEntry_prepared (json : isJson (.dict call.payload) = true) (made : signEntry system call = .ok entry) :
    ∃ signer hash signature, buildTrustlogSigner system.env system.keys none none = .ok signer ∧ call.sign hash = .ok signature ∧
      Prepared system call signer hash signature entry := by
  obtain ⟨signer,built,made⟩ := bind_ok.mp made
  obtain ⟨full,fullHash,made⟩ := bind_ok.mp made
  obtain ⟨hash,hashed,made⟩ := bind_ok.mp made
  obtain ⟨signature,signed,made⟩ := bind_ok.mp made
  obtain rfl := Except.ok.inj made
  have summary := summary_json (order_distinct system) json
  have metadata := metadata_json signer call.now
  refine ⟨signer,hash,signature,built,signed,⟨?_,⟨call.now,rfl⟩,⟨full,fullHash,rfl⟩,rfl,?_,⟨call.decisionId,_,rfl⟩⟩,⟨_,rfl,hashed⟩,rfl,rfl⟩
  · obtain ⟨names,given,keys⟩ := artifactField_keys call
    refine fields_json (entryNames ++ names) ?_ ?_ (List.forall_mem_append.mpr ⟨by simp [field,summary,metadata],artifactField_json⟩)
    · rw [List.map_append,List.map_append,keys]
      rfl
    · rcases given with rfl | rfl <;> decide
  · simp only [List.forall_mem_cons,List.not_mem_nil,false_implies,implies_true,and_true]
    unfold artifactField
    rw [lookup_append,lookup_append]
    cases call.enableArtifactRef <;> cases buildArtifactReference call.payload <;> exact ⟨rfl,rfl⟩

theorem Prepared.previous (prepared : Prepared system call signer hash signature entry) (json : isJson value = true) :
    Prepared system call signer hash signature (entry.set "previous_hash" value) := by
  obtain ⟨payload,found,hashed⟩ := prepared.payload
  refine ⟨prepared.toFramed.set (by decide) json,⟨payload,?_,hashed⟩,?_,?_⟩
  · rw [lookup_set_other (by decide),found]
  · rw [lookup_set_other (by decide),prepared.payloadHash]
  · rw [lookup_set_other (by decide),prepared.signature_]

-- A stub keeps the place in the chain; its hash is signed again, if it can be.
theorem enforceEntrySize_prepared (prepared : Prepared system call signer hash signature entry)
    (made : enforceEntrySize system.sha256 call.signAgain entry = .ok kept) :
    (∃ hash' signature', Prepared system call signer hash' signature' kept ∧
      (hash' = hash ∧ signature' = signature ∨ call.signAgain hash' = .ok signature' ∨ (call.signAgain hash').toOption = none)) ∧
      kept.get "previous_hash" = entry.get "previous_hash" := by
  unfold enforceEntrySize at made
  split at made
  · cases made
  · split at made
    · obtain rfl := Except.ok.inj made
      exact ⟨⟨hash,signature,prepared,.inl ⟨rfl,rfl⟩⟩,rfl⟩
    · obtain ⟨payloadHash,hashed,made⟩ := bind_ok.mp made
      have stub := stub_json prepared.json
      have replaced : Prepared system call signer payloadHash signature
          ((entry.set "decision_payload" (.dict (stubPayload entry))).set "payload_hash" (.str payloadHash)) := by
        refine ⟨(prepared.toFramed.set (by decide) stub).set (by decide) rfl,⟨_,?_,hashed⟩,lookup_set,?_⟩
        · rw [lookup_set_other (by decide),lookup_set]
        · rw [lookup_set_other (by decide),lookup_set_other (by decide),prepared.signature_]
      have place : ((entry.set "decision_payload" (.dict (stubPayload entry))).set "payload_hash" (.str payloadHash)).get "previous_hash" =
          entry.get "previous_hash" := by
        rw [get_set_other (by decide),get_set_other (by decide)]
      dsimp only at made
      split at made
      · rename_i again signed
        obtain rfl := Except.ok.inj made
        obtain ⟨payload,found,same⟩ := replaced.payload
        refine ⟨⟨payloadHash,again,⟨replaced.toFramed.set (by decide) rfl,⟨payload,?_,same⟩,?_,lookup_set⟩,.inr (.inl signed)⟩,?_⟩
        · rw [lookup_set_other (by decide),found]
        · rw [lookup_set_other (by decide),replaced.payloadHash]
        · rw [get_set_other (by decide),place]
      · rename_i error failed
        obtain rfl := Except.ok.inj made
        exact ⟨⟨payloadHash,signature,replaced,.inr (.inr (by rw [failed]; rfl))⟩,place⟩

theorem writeLine_exact (json : isJson (.dict entry) = true) {members : List (String × Json)}
    (made : toJson false (.dict entry) = some (.obj members)) :
    fromJson (.obj members) = .dict entry ∧ writeLine entry = .ok ⟨entry,.dict entry,print spaced 0 (.obj members) ++ ['\n']⟩ := by
  have same : fromJson (.obj members) = .dict entry := by
    have copied := copied_self _ json
    rw [jsonCopy,made] at copied
    exact Option.some.inj copied
  refine ⟨same,?_⟩
  unfold writeLine
  rw [made]
  dsimp only
  rw [same,made]

theorem entry_document (json : isJson (.dict entry) = true) : ∃ members, toJson false (.dict entry) = some (.obj members) := by
  obtain ⟨document,made⟩ := Option.isSome_iff_exists.mp (unsorted_isSome _ (isJson_recordable _ json))
  obtain ⟨members,rfl⟩ := toJson_dict_obj made
  exact ⟨members,made⟩

theorem hash_json (sha256 : String → String) (json : isJson value = true) : ∃ hash, sha256OfCanonicalJson sha256 value = .ok hash := by
  obtain ⟨text,made⟩ := Option.isSome_iff_exists.mp ((canonical_recordable value).mpr (isJson_recordable _ json))
  exact ⟨sha256 text,by rw [sha256OfCanonicalJson,made]⟩

theorem chainHashOf_hash (made : chainHashOf sha256 found = .ok previous) : HashValue previous := by
  cases found with
  | none =>
    obtain rfl := Except.ok.inj made
    exact .absent
  | some last =>
    rw [chainHashOf] at made
    split at made
    · cases hashed : sha256OfCanonicalJson sha256 last with
      | error error =>
        rw [hashed] at made
        cases made
      | ok hash =>
        rw [hashed] at made
        obtain rfl := Except.ok.inj made
        exact .text hash
    · obtain rfl := Except.ok.inj made
      exact .absent

structure Line (system : System) (call : Call) (ledger : List Char) (signer : TrustlogSigner) (hash signature : String) (entry : Dict)
    (members : List (String × Json)) : Prop where
  built : buildTrustlogSigner system.env system.keys none none = .ok signer
  prepared : Prepared system call signer hash signature entry
  sign : call.sign hash = .ok signature ∨ call.signAgain hash = .ok signature ∨ ∃ stub, (call.signAgain stub).toOption = none
  previous : previousHash system.sha256 ledger = .ok (entry.get "previous_hash")
  document : toJson false (.dict entry) = some (.obj members)

theorem prepareLine_line (json : isJson (.dict call.payload) = true) (made : prepareLine system call ledger = .ok written) :
    ∃ signer hash signature entry members, Line system call ledger signer hash signature entry members ∧
      written = ⟨entry,.dict entry,print spaced 0 (.obj members) ++ ['\n']⟩ := by
  obtain ⟨signed,first,made⟩ := bind_ok.mp made
  obtain ⟨signer,hash,signature,built,sign,prepared⟩ := signEntry_prepared json first
  by_cases refused : call.fault = some .refused
  · rw [if_pos refused] at made
    cases made
  · rw [if_neg refused] at made
    obtain ⟨previous,found,made⟩ := bind_ok.mp made
    obtain ⟨entry,enforced,made⟩ := bind_ok.mp made
    have plain : isJson previous = true := by cases chainHashOf_hash found <;> rfl
    obtain ⟨⟨hash',signature',prepared',again⟩,place⟩ := enforceEntrySize_prepared (prepared.previous plain) enforced
    obtain ⟨members,document⟩ := entry_document prepared'.json
    rw [(writeLine_exact prepared'.json document).2] at made
    obtain rfl := Except.ok.inj made
    refine ⟨signer,hash',signature',entry,members,⟨built,prepared',?_,?_,document⟩,rfl⟩
    · rcases again with ⟨rfl,rfl⟩ | again | failed
      · exact .inl sign
      · exact .inr (.inl again)
      · exact .inr (.inr ⟨_,failed⟩)
    · rw [place,get_set,found]

theorem append_returned (returned : (appendSignedDecision system ledger call).1 = .ok answer) :
    ∃ written, prepareLine system call ledger = .ok written ∧ afterwards system call written = .ok answer ∧
      (appendSignedDecision system ledger call).2 = ledger ++ written.line := by
  unfold appendSignedDecision at returned ⊢
  cases made : prepareLine system call ledger with
  | error error =>
    rw [made] at returned
    cases returned
  | ok written =>
    rw [made] at returned
    dsimp only at returned ⊢
    refine ⟨written,rfl,?_⟩
    cases fault : call.fault with
    | none =>
      rw [fault] at returned
      exact ⟨returned,rfl⟩
    | some broken =>
      rw [fault] at returned
      cases returned

end Written

def ledgerOf (docs : List (List (String × Json))) : List Char := file (docs.map fun members => print spaced 0 (.obj members)) []

theorem ledgerOf_concat (docs : List (List (String × Json))) (members : List (String × Json)) :
    ledgerOf (docs ++ [members]) = ledgerOf docs ++ (print spaced 0 (.obj members) ++ ['\n']) := by
  rw [ledgerOf,List.map_append,file_append]
  simp [ledgerOf]

theorem readAllEntries_torn (docs : List (List (String × Json))) (end_ : Visible torn) : readAllEntries (ledgerOf docs ++ torn) =
      docs.map (fun members => .dict (entryOf members)) ++ ((readLine isSpace torn).map fromJson).toList := by
  have readable : Readable (readLine isSpace) _ := readable_objects (by decide) (by decide) spaced spaced_flat (by decide) docs
  have lines : ledgerOf docs ++ torn = file (docs.map fun members => print spaced 0 (.obj members)) torn := by simp [ledgerOf,file]
  rw [readAllEntries,lines,readAll_file readable end_,List.map_append,List.filterMap_map]
  refine congrArg₂ (· ++ ·) ?_ (by cases readLine isSpace torn <;> rfl)
  induction docs with
  | nil => rfl
  | cons members rest ih =>
    have read : readLine isSpace (print spaced 0 (.obj members)) = some (.obj members) := readLine_object (by decide) (by decide) spaced members
    have others := ih (readable_objects (by decide) (by decide) spaced spaced_flat (by decide) rest) (by simp [ledgerOf,file])
    rw [List.filterMap_cons,Function.comp_apply,read,List.map_cons,List.map_cons,others]
    rfl

theorem readAllEntries_ledger (docs : List (List (String × Json))) :
    readAllEntries (ledgerOf docs) = (docs.map entryOf).map Value.dict := by
  have read := readAllEntries_torn docs visible_nil
  rw [List.append_nil,show readLine isSpace [] = none from rfl,Option.map_none,Option.toList_none,List.append_nil] at read
  rw [read,List.map_map]
  rfl

theorem readLastEntry_ledger (docs : List (List (String × Json))) :
    readLastEntry (ledgerOf docs) = docs.getLast?.map fun members => .dict (entryOf members) := by
  have readable : Readable (readLine isByteSpace) _ := readable_objects (by decide) (by decide) spaced spaced_flat (by decide) docs
  rw [readLastEntry,ledgerOf,readLast_file readable,List.getLast?_map]
  cases docs.getLast? with
  | none => rfl
  | some members =>
    rw [Option.map_some,Option.bind_some,readLine_object (by decide) (by decide)]
    rfl

end VeritasOs.SignedLog
