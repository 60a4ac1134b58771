import Mathlib.Data.List.ReduceOption
import VeritasOs.FullLedger
import VeritasOs.PolicyBundle

namespace VeritasOs.WitnessLedger
open Text JsonText BindArtifacts TrustLog FullLedger Posture

def nonBlank : Value → Bool
  | .str s => strip s != ""
  | _ => false

def sha256OfCanonicalJson (sha256 : String → String) (payload : Value) : Except Exc String :=
  match canonicalJsonDumps payload with
  | none => .error (typeError "Object is not JSON serializable")
  | some text => .ok (sha256 text)

structure ArtifactReference where
  artifactRef : String
  artifactType : String
  artifactStorageBackend : String
  artifactLocator : String
  artifactHashAlgorithm : String

def parseArtifactReference (raw : Value) : Except String (Option ArtifactReference) :=
  match raw with
  | .none => .ok none
  | .dict members =>
    let part name := strip (Dict.get members name).text
    let keys := ["artifact_ref","artifact_type","artifact_storage_backend","artifact_locator","artifact_hash_algorithm"]
    if keys.all fun key => nonBlank (Dict.get members key) then
      if part "artifact_hash_algorithm" = "sha256_canonical_json" then
        .ok (some ⟨part "artifact_ref",part "artifact_type",part "artifact_storage_backend",part "artifact_locator",
          part "artifact_hash_algorithm"⟩)
      else .error "malformed_artifact_ref"
    else .error "malformed_artifact_ref"
  | _ => .error "malformed_artifact_ref"

-- A file named by a locator: absent, present without a JSON object in it, or an object.
inductive ArtifactFile where
  | absent
  | unreadable
  | payload (members : Dict)

-- A search root: the readable entries of its trust_log.jsonl, and the objects of its
-- decide_*.json files, the last name first.
structure SearchRoot where
  fullLedger : List Dict
  decideFiles : List Dict

structure Artifacts where
  roots : List SearchRoot
  file : String → ArtifactFile

def namesPayload (name wanted : String) (payload : Dict) : Bool := wanted != "" && payload.get name = .str wanted

def resolveViaFullLedger (artifacts : Artifacts) (sha256Value requestId : String) : Option Dict :=
  (artifacts.roots.flatMap SearchRoot.fullLedger).find? fun payload =>
    namesPayload "sha256" sha256Value payload || namesPayload "request_id" requestId payload

def resolveViaDecideFiles (artifacts : Artifacts) (requestId : String) : Option Dict :=
  (artifacts.roots.flatMap SearchRoot.decideFiles).find? (namesPayload "request_id" requestId)

def afterColon (locator : String) : String := strip (String.ofList ((locator.toList.dropWhile fun c => !(c == ':')).drop 1))

def entryRequestId (entry : Dict) : String :=
  match entry.get "decision_payload" with
  | .dict payload =>
    match Dict.get payload "request_id" with
    | .str requestId => strip requestId
    | _ => ""
  | _ => ""

def resolvePayloadForEntry (artifacts : Artifacts) (entry : Dict) : Except String (Option Dict) := do
  match ← parseArtifactReference (entry.get "artifact_ref") with
  | some reference =>
    if reference.artifactStorageBackend = "trustlog_full_ledger" then
      if startsWith "sha256:" reference.artifactLocator then
        if isSha256Hex (afterColon reference.artifactLocator) then
          .ok (resolveViaFullLedger artifacts (afterColon reference.artifactLocator) "")
        else .error "malformed_artifact_ref"
      else if startsWith "request_id:" reference.artifactLocator then
        .ok (resolveViaFullLedger artifacts "" (afterColon reference.artifactLocator))
      else .error "malformed_artifact_ref"
    else if reference.artifactStorageBackend = "local_json_file" then
      match artifacts.file reference.artifactLocator with
      | .absent => .ok none
      | .unreadable => .error "artifact_unreadable"
      | .payload members => .ok (some members)
    else .error "unsupported_artifact_backend"
  | none =>
    .ok ((resolveViaFullLedger artifacts (strip ((entry.get "full_payload_sha256").orStr "")) (entryRequestId entry)).or
      (resolveViaDecideFiles artifacts (entryRequestId entry)))

-- The reason of a failed linkage. A hash without a reference and without an artifact is
-- accepted, as it was before there were references.
def verifyEntryArtifactLinkage (sha256 : String → String) (artifacts : Artifacts) (entry : Dict) : Option String :=
  match entry.get "full_payload_hash" with
  | .none => none
  | .str expectedHash =>
    if isSha256Hex expectedHash then
      match resolvePayloadForEntry artifacts entry with
      | .error reason => some reason
      | .ok none => if entry.get "artifact_ref" = .none then none else some "artifact_missing"
      | .ok (some payload) =>
        match sha256OfCanonicalJson sha256 (.dict payload) with
        | .error _ => some "canonicalization_failed"
        | .ok recomputed => if recomputed = expectedHash then none else some "linkage_hash_mismatch"
    else some "full_payload_hash_invalid"
  | _ => some "full_payload_hash_invalid"

-- What the verifier finds around it: the environment, HMAC, base64, and boto3.
structure S3Client where
  -- Bucket, key and the version when there is one; a call that raises gives nothing.
  headObject : String → String → Option Value → Option Dict
  getObjectRetention : String → String → Option Value → Option Dict
  getObjectLegalHold : String → String → Option Value → Option Dict

def matchesSha256Hex (text : String) : Bool :=
  isSha256Hex text || (text.toList.getLast? == some '\n' && isSha256Hex (String.ofList text.toList.dropLast))

def normalizeEtag (value : Value) : String := String.ofList (stripBy (· == '"') (strip (value.orStr "")).toList)

def isStr : Value → Bool
  | .str _ => true
  | _ => false

def asInt? : Value → Option Int
  | .int n => some n
  | .bool b => some (if b then 1 else 0)
  | _ => none

def isS3Receipt (receipt : Dict) : Bool := isStr (receipt.get "bucket") && isStr (receipt.get "key")

def segmentTexts : List String := ["segment_id","first_timestamp","last_timestamp","first_hash","last_hash","segment_payload_hash"]

-- The checks of the manifest's fields; the order of these does not show, for each has one answer.
def segmentManifestFormed (manifest : Dict) : Bool :=
  segmentTexts.all (fun name => isStr (manifest.get name)) &&
  ((asInt? (manifest.get "entry_count")).map fun count => decide (0 < count)).getD false &&
  ["first_hash","last_hash","segment_payload_hash"].all (fun name => matchesSha256Hex (manifest.get name).text) &&
  match manifest.get "object_keys_written" with
  | .list keys => keys.all fun key => isStr key && key.truthy
  | _ => false

section Environment
variable (sha256 : String → String) (env : Env) (hmac : String → String → String)

def verifySegmentManifestReceipt (receipt : Dict) : Except Exc (Option String) :=
  match receipt.get "manifest",receipt.get "manifest_hash" with
  | .dict manifest,.str manifestHash => do
    if (← sha256OfCanonicalJson sha256 (.dict manifest)) ≠ manifestHash then
      .ok (some "manifest_hash_mismatch")
    else if !segmentManifestFormed manifest then
      .ok (some "segment_manifest_malformed")
    else
      match Dict.get manifest "manifest_signature",env "VERITAS_TRUSTLOG_S3_SEGMENT_MANIFEST_HMAC_KEY" with
      | .str signature,some key =>
        if key = "" then .ok none
        else
          let payload := manifest.filter fun member => member.1 ≠ .str "manifest_signature"
          match canonicalJsonDumps (.dict payload) with
          | none => .error (typeError "Object is not JSON serializable")
          | some text =>
            if ← PolicyBundle.compareDigest (hmac key text) signature then .ok none
            else .ok (some "segment_manifest_signature_invalid")
      | _,_ => .ok none
  | _,_ => .ok (some "segment_manifest_malformed")

def mirrorReceiptKeys : List String :=
  ["bucket","key","version_id","etag","retention_mode","retain_until_date","legal_hold_status","mode","segment_id",
   "segment_object_key","segment_manifest_key","segment_payload_hash","manifest_hash","manifest_version_id","manifest_etag","manifest"]

def knownReceiptKey : Key → Bool
  | .str name => mirrorReceiptKeys.contains name
  | _ => false

structure MirrorMode where
  remoteEnabled : Bool
  strictMode : Bool
  requireLegalHold : Bool

-- The object as S3 has it now.
def verifyRemoteObject (mode : MirrorMode) (client : S3Client) (receipt : Dict) (bucket key : String) : Option String :=
  let version := if (receipt.get "version_id").truthy then some (receipt.get "version_id") else none
  match client.headObject bucket key version with
  | none => some "mirror_object_not_found"
  | some head =>
    if version.isSome ∧ head.get "VersionId" ≠ .none ∧ (head.get "VersionId").text ≠ (receipt.get "version_id").text then
      some "mirror_version_mismatch"
    else if (receipt.get "etag").truthy ∧ normalizeEtag (head.get "ETag") ≠ normalizeEtag (receipt.get "etag") then
      some "mirror_etag_mismatch"
    else
      let retention := match (client.getObjectRetention bucket key version).map fun answer => answer.get "Retention" with
        | some (.dict retention) => retention
        | _ => []
      let retentionMode := receipt.get "retention_mode"
      let retainUntil := receipt.get "retain_until_date"
      if (retentionMode.truthy || retainUntil.truthy) &&
          ((mode.strictMode && retention.isEmpty) || (retentionMode.truthy && !pyEq (Dict.get retention "Mode") retentionMode) ||
            (retainUntil.truthy && Dict.get retention "RetainUntilDate" = .none)) then
        some "mirror_retention_missing"
      else if mode.requireLegalHold then
        match (client.getObjectLegalHold bucket key version).bind fun answer => answer.sub "LegalHold" with
        | some hold => if Dict.get hold "Status" = .str "ON" then none else some "mirror_legal_hold_missing"
        | none => some "mirror_legal_hold_missing"
      else none

def verifyMirrorReceipt (mode : MirrorMode) (client : Option S3Client) (entry : Dict) : Except Exc (Option String) :=
  match entry.get "mirror_receipt" with
  | .none =>
    if mode.strictMode || lower (strip ((entry.get "mirror_backend").orStr "")) = "s3_object_lock" then
      .ok (some "mirror_receipt_missing")
    else .ok none
  | .dict receipt =>
    if !(receipt.all fun member => knownReceiptKey member.1) then .ok (some "mirror_receipt_malformed")
    else if !isS3Receipt receipt then
      if Dict.get receipt "mode" = .str "sealed_segments" then verifySegmentManifestReceipt sha256 env hmac receipt
      else .ok none
    else if !mode.remoteEnabled then .ok none
    else
      match client with
      | none => .ok (some "mirror_object_not_found")
      | some client =>
        let bucket := strip (Dict.get receipt "bucket").text
        let key := strip (Dict.get receipt "key").text
        if bucket = "" ∨ key = "" then .ok (some "mirror_receipt_malformed")
        else .ok (verifyRemoteObject mode client receipt bucket key)
  | _ => .ok (some "mirror_receipt_malformed")

end Environment

def signerMetadataFields : List String :=
  ["metadata_version","signer_type","signer_key_id","signer_key_version","signature_algorithm","signed_at","verification_policy_version"]

def verifySignerMetadata (entry : Dict) : Option String :=
  match entry.get "signer_metadata" with
  | .none => none
  | .dict signerMeta =>
    match signerMetadataFields.find? fun name => !nonBlank (Dict.get signerMeta name) with
    | some name => some ("signer_metadata_invalid_" ++ name)
    | none =>
      let keyFingerprint := Dict.get signerMeta "public_key_fingerprint"
      if keyFingerprint = .none ∨ isStr keyFingerprint then none
      else some "signer_metadata_invalid_public_key_fingerprint"
  | _ => some "signer_metadata_malformed"

def hasAnchorFields (entry : Dict) : Bool := ["anchor_backend","anchor_status","anchor_receipt"].any entry.has

def anchorStatuses : List String := ["anchored","skipped","failed","not_configured"]

-- The source goes through a set, so which of several missing fields it names is open.
def anchorReceiptFields : List String := ["backend","status","anchored_hash","anchored_at","receipt_id"]

def verifyAnchorFields (backend status : String) (receipt : Dict) : Option String :=
  match anchorReceiptFields.find? fun name => !nonBlank (receipt.get name) with
  | some name => some ("anchor_receipt_invalid_" ++ name)
  | none =>
    if receipt.get "backend" ≠ .str backend then some "anchor_receipt_backend_mismatch"
    else if receipt.get "status" ≠ .str status then some "anchor_receipt_status_mismatch"
    else if !matchesSha256Hex (receipt.get "anchored_hash").text then some "anchor_receipt_invalid_anchored_hash"
    else if receipt.get "receipt_payload_hash" ≠ .none ∧ !matchesSha256Hex (receipt.get "receipt_payload_hash").text then
      some "anchor_receipt_invalid_receipt_payload_hash"
    else if receipt.get "details" ≠ .none ∧ (receipt.get "details").asDict? = none then some "anchor_receipt_invalid_details"
    else
      (["receipt_location","external_timestamp"].find? fun name => receipt.get name ≠ .none ∧ !isStr (receipt.get name)).map
        ("anchor_receipt_invalid_" ++ ·)

def verifyAnchorReceipt (entry : Dict) : Option String :=
  if !hasAnchorFields entry then none
  else
    match entry.get "anchor_backend" with
    | .str backend =>
      if strip backend = "" then some "anchor_backend_invalid"
      else
        match entry.get "anchor_status" with
        | .str status =>
          if !anchorStatuses.contains status then some "anchor_status_invalid"
          else
            match entry.get "anchor_receipt" with
            | .none => some "anchor_receipt_missing"
            | .dict receipt => verifyAnchorFields backend status receipt
            | _ => some "anchor_receipt_malformed"
        | _ => some "anchor_status_invalid"
    | _ => some "anchor_backend_invalid"

-- rawSha256 is the SHA-256 of the bytes a base64 text stands for.
def verifyTsaReceiptDetails (rawSha256 : String → Option String) (entry : Dict) : Option String :=
  if entry.get "anchor_backend" ≠ .str "tsa" ∨ entry.get "anchor_status" ≠ .str "anchored" then none
  else
    match entry.get "anchor_receipt" with
    | .dict receipt =>
      match Dict.get receipt "details" with
      | .dict details =>
        let rawB64 := Dict.get details "raw_receipt_b64"
        let storedHash := Dict.get receipt "receipt_payload_hash"
        let statusCode := Dict.get details "status_code"
        if !nonBlank rawB64 then some "tsa_receipt_missing_raw"
        else if storedHash.truthy ∧ (rawSha256 rawB64.text).map Value.str ≠ some storedHash then
          some "tsa_receipt_hash_mismatch"
        else if statusCode ≠ .none ∧ pyEq statusCode (.int 0) = false ∧ pyEq statusCode (.int 1) = false then
          some "tsa_receipt_status_not_granted"
        else none
      | _ => some "anchor_receipt_invalid_details"
    | _ => some "anchor_receipt_malformed"

abbrev Signer := String → String → Option Bool

structure Keyring where
  build : String → Option String → Option Signer
  configured : Option Signer

def resolveSignerForEntry (keyring : Keyring) (entry : Dict) : Option Signer :=
  let named name (source : Dict) (default : String) := (source.getD name (.str default)).text
  let signerType := lower (strip (named "signer_type" entry ""))
  let signerKeyId := strip (named "signer_key_id" entry "")
  let (signerType,signerKeyId) := match entry.get "signer_metadata" with
    | .dict signerMeta =>
      (lower (strip (named "signer_type" signerMeta signerType)),strip (named "signer_key_id" signerMeta signerKeyId))
    | _ => (signerType,signerKeyId)
  if signerType = "" then keyring.configured
  else keyring.build signerType (if signerKeyId = "" then none else some signerKeyId)

-- Only the payload hash is signed.
def verifySignature (keyring : Keyring) (entry : Dict) : Bool :=
  entry.has "payload_hash" && entry.has "signature" &&
    ((resolveSignerForEntry keyring entry).bind fun signer =>
      signer (entry.get "payload_hash").text (entry.get "signature").text).getD false

structure Verifier where
  env : Env
  sha256 : String → String
  hmac : String → String → String
  rawSha256 : String → Option String
  artifacts : Artifacts
  s3Client : Option S3Client
  boto3 : Option S3Client
  verifySignatureFn : Option (Dict → Bool)

section Verify
variable (verifier : Verifier)

def Verifier.flag (name : String) : Bool :=
  ((verifier.env name).map fun raw => truthyTexts.contains (lower (strip raw))).getD false

def Verifier.mode : MirrorMode where
  remoteEnabled := verifier.flag "VERITAS_TRUSTLOG_VERIFY_MIRROR_REMOTE"
  strictMode := verifier.flag "VERITAS_TRUSTLOG_VERIFY_MIRROR_S3_STRICT"
  requireLegalHold := verifier.flag "VERITAS_TRUSTLOG_VERIFY_MIRROR_S3_REQUIRE_LEGAL_HOLD"

def Verifier.client : Option S3Client :=
  if verifier.mode.remoteEnabled then verifier.s3Client.or verifier.boto3 else verifier.s3Client

def entryChainHash (entry : Dict) : Except Exc String := sha256OfCanonicalJson verifier.sha256 (.dict entry)

structure EntryChecks where
  payload : Option String
  chain : Option String
  signature : Option String
  linkage : Option String
  mirror : Option String
  signerMetadata : Option String
  anchor : Option String
deriving DecidableEq

def EntryChecks.reasons (checks : EntryChecks) : List String :=
  [checks.payload,checks.chain,checks.signature,checks.linkage,checks.mirror,checks.signerMetadata,checks.anchor].reduceOption

-- The details of a TSA are looked at when the anchor itself is in order.
def verifyAnchor (entry : Dict) : Option String :=
  match verifyAnchorReceipt entry with
  | some reason => some reason
  | none => if hasAnchorFields entry then verifyTsaReceiptDetails verifier.rawSha256 entry else none

def checkSignature (entry : Dict) : Option String :=
  match verifier.verifySignatureFn with
  | none => some "verify_signature_unavailable"
  | some verifySignatureFn => if verifySignatureFn entry then none else some "signature_invalid"

def checkEntry (prevHash : Value) (entry : Dict) : Except Exc EntryChecks := do
  let payloadHash ← sha256OfCanonicalJson verifier.sha256 (entry.getD "decision_payload" (.dict []))
  let mirror ← verifyMirrorReceipt verifier.sha256 verifier.env verifier.hmac verifier.mode verifier.client entry
  .ok {
    payload := if entry.get "payload_hash" = .str payloadHash then none else some "payload_hash_mismatch"
    chain := if pyEq (entry.get "previous_hash") prevHash then none else some "previous_hash_mismatch"
    signature := checkSignature verifier entry
    linkage := verifyEntryArtifactLinkage verifier.sha256 verifier.artifacts entry
    mirror := mirror
    signerMetadata := verifySignerMetadata entry
    anchor := verifyAnchor verifier entry }

def entryNotes (entry : Dict) : List String :=
  (if (verifySignerMetadata entry).isNone && !entry.has "signer_metadata" then ["legacy_missing_signer_metadata"] else []) ++
  (if !hasAnchorFields entry then ["legacy_anchor_not_present"] else []) ++
  (if !entry.has "full_payload_hash" then ["legacy_missing_full_payload_hash"] else [])

structure WitnessProgress where
  prevHash : Value := .none
  validEntries : Nat := 0
  chainOk : Bool := true
  signatureOk : Bool := true
  linkageOk : Bool := true
  mirrorOk : Bool := true
  errors : List VerificationError := []
  notes : List VerificationError := []

def WitnessProgress.note (progress : WitnessProgress) (index : Nat) (entry : Dict) (checks : EntryChecks) (chainHash : String) :
    WitnessProgress where
  prevHash := .str chainHash
  validEntries := if checks.reasons = [] then progress.validEntries + 1 else progress.validEntries
  chainOk := progress.chainOk && checks.chain.isNone
  signatureOk := progress.signatureOk && checks.signature.isNone
  linkageOk := progress.linkageOk && checks.linkage.isNone
  mirrorOk := progress.mirrorOk && checks.mirror.isNone
  errors := progress.errors ++ checks.reasons.map fun reason => ⟨index,reason⟩
  notes := progress.notes ++ (entryNotes entry).map fun reason => ⟨index,reason⟩

def verifyWitnessFrom : Nat → List Dict → WitnessProgress → Except Exc WitnessProgress
  | _,[],progress => .ok progress
  | index,entry :: rest,progress => do
    let checks ← checkEntry verifier progress.prevHash entry
    let chainHash ← entryChainHash verifier entry
    verifyWitnessFrom (index + 1) rest (progress.note index entry checks chainHash)

structure WitnessReport where
  totalEntries : Nat
  validEntries : Nat
  invalidEntries : Nat
  chainOk : Bool
  signatureOk : Bool
  linkageOk : Bool
  mirrorOk : Bool
  lastHash : Value
  detailedErrors : List VerificationError
  remoteSkipped : Bool
  verificationNotes : List VerificationError
  ok : Bool

def verifyWitnessLedger (entries : List Dict) : Except Exc WitnessReport := do
  let progress ← verifyWitnessFrom verifier 0 entries {}
  .ok {
    totalEntries := entries.length
    validEntries := progress.validEntries
    invalidEntries := entries.length - progress.validEntries
    chainOk := progress.chainOk
    signatureOk := progress.signatureOk
    linkageOk := progress.linkageOk
    mirrorOk := progress.mirrorOk
    lastHash := progress.prevHash
    detailedErrors := progress.errors
    remoteSkipped := verifier.mode.remoteEnabled && verifier.client.isNone
    verificationNotes := progress.notes
    ok := progress.errors.isEmpty }

structure WitnessOk (prevHash : Value) (entry : Dict) (chainHash : String) : Prop where
  checked : ∃ checks, checkEntry verifier prevHash entry = .ok checks ∧ checks.reasons = []
  hashed : entryChainHash verifier entry = .ok chainHash

def WitnessLinked : Value → List Dict → Prop
  | _,[] => True
  | prevHash,entry :: rest => ∃ chainHash, WitnessOk verifier prevHash entry chainHash ∧ WitnessLinked (.str chainHash) rest

def Accepted (entries : List Dict) : Prop := ∃ report, verifyWitnessLedger verifier entries = .ok report ∧ report.ok = true

variable {verifier}

variable {entries : List Dict} {prevHash : Value} {entry : Dict} {chainHash : String} {hash : Value}

theorem verifyWitnessFrom_errors {index : Nat} {before after : WitnessProgress}
    (done : verifyWitnessFrom verifier index entries before = .ok after) : ∃ later, after.errors = before.errors ++ later := by
  induction entries generalizing index before with
  | nil =>
    cases done
    exact ⟨[],(List.append_nil _).symm⟩
  | cons entry rest ih =>
    obtain ⟨checks,_,done⟩ := bind_ok.mp done
    obtain ⟨chainHash,_,done⟩ := bind_ok.mp done
    obtain ⟨later,errors⟩ := ih done
    exact ⟨_,by rw [errors,WitnessProgress.note,List.append_assoc]⟩

theorem verifyWitnessFrom_exact (index : Nat) (entries : List Dict) (before : WitnessProgress) (clean : before.errors = []) :
    (∃ after, verifyWitnessFrom verifier index entries before = .ok after ∧ after.errors = []) ↔
      WitnessLinked verifier before.prevHash entries := by
  induction entries generalizing index before with
  | nil => exact ⟨fun _ => trivial,fun _ => ⟨before,rfl,clean⟩⟩
  | cons entry rest ih =>
    constructor
    · rintro ⟨after,done,none⟩
      obtain ⟨checks,checked,done⟩ := bind_ok.mp done
      obtain ⟨chainHash,hashed,done⟩ := bind_ok.mp done
      obtain ⟨later,errors⟩ := verifyWitnessFrom_errors done
      rw [none,WitnessProgress.note,clean] at errors
      have reasons : checks.reasons = [] := List.map_eq_nil_iff.mp (List.append_eq_nil_iff.mp errors.symm).1
      refine ⟨chainHash,⟨⟨checks,checked,reasons⟩,hashed⟩,(ih _ _ ?_).mp ⟨after,done,none⟩⟩
      simp [WitnessProgress.note,clean,reasons]
    · rintro ⟨chainHash,⟨⟨checks,checked,reasons⟩,hashed⟩,linked⟩
      obtain ⟨after,done,none⟩ := (ih (index + 1) (before.note index entry checks chainHash)
        (by simp [WitnessProgress.note,clean,reasons])).mpr linked
      exact ⟨after,bind_ok.mpr ⟨checks,checked,bind_ok.mpr ⟨chainHash,hashed,done⟩⟩,none⟩

theorem accepted_exact (entries : List Dict) : Accepted verifier entries ↔ WitnessLinked verifier .none entries := by
  rw [← verifyWitnessFrom_exact 0 entries {} rfl]
  constructor
  · rintro ⟨report,verified,good⟩
    obtain ⟨progress,done,made⟩ := bind_ok.mp verified
    cases made
    exact ⟨progress,done,List.isEmpty_iff.mp good⟩
  · rintro ⟨progress,done,none⟩
    exact ⟨_,bind_ok.mpr ⟨progress,done,rfl⟩,List.isEmpty_iff.mpr none⟩

theorem WitnessOk.previous (good : WitnessOk verifier prevHash entry chainHash) : pyEq (entry.get "previous_hash") prevHash = true := by
  obtain ⟨checks,checked,none⟩ := good.checked
  obtain ⟨_,_,checked⟩ := bind_ok.mp checked
  obtain ⟨_,_,made⟩ := bind_ok.mp checked
  cases made
  by_contra other
  rw [EntryChecks.reasons,List.reduceOption] at none
  simp [other] at none

def nextPrevious (verifier : Verifier) (prevHash : Value) (entries : List Dict) : Value :=
  entries.foldl (fun previous entry => ((entryChainHash verifier entry).toOption.map Value.str).getD previous) prevHash

theorem WitnessOk.nextPrevious_cons {before : Value} {rest : List Dict} (good : WitnessOk verifier before entry chainHash) :
    nextPrevious verifier prevHash (entry :: rest) = nextPrevious verifier (.str chainHash) rest := by
  rw [nextPrevious,List.foldl_cons,good.hashed]
  rfl

theorem WitnessOk.nextPrevious_snoc {before : Value} (good : WitnessOk verifier before entry chainHash) :
    nextPrevious verifier prevHash (entries ++ [entry]) = .str chainHash := by
  rw [nextPrevious,List.foldl_append,List.foldl_cons,good.hashed]
  rfl

theorem linked_snoc : WitnessLinked verifier prevHash (entries ++ [last]) ↔
      WitnessLinked verifier prevHash entries ∧ ∃ chainHash, WitnessOk verifier (nextPrevious verifier prevHash entries) last chainHash := by
  induction entries generalizing prevHash with
  | nil => simp [WitnessLinked,nextPrevious]
  | cons entry rest ih =>
    rw [List.cons_append]
    simp only [WitnessLinked,ih]
    constructor
    · rintro ⟨chainHash,good,linked,final⟩
      exact ⟨⟨chainHash,good,linked⟩,good.nextPrevious_cons ▸ final⟩
    · rintro ⟨⟨chainHash,good,linked⟩,final⟩
      exact ⟨chainHash,good,linked,good.nextPrevious_cons ▸ final⟩

def SameEntry (excepted : List String) (left right : List (String × Json)) : Prop :=
  ∀ name, name ∉ excepted → SameField (entryOf left) (entryOf right) name

-- The values a previous hash has in an accepted ledger.
inductive HashValue : Value → Prop
  | absent : HashValue .none
  | text (hash : String) : HashValue (.str hash)

theorem nextPrevious_hash (v : Verifier) (entries : List Dict) (start : HashValue prevHash) :
    HashValue (nextPrevious v prevHash entries) := by
  induction entries generalizing prevHash with
  | nil => exact start
  | cons entry rest ih =>
    have next : HashValue (((entryChainHash v entry).toOption.map Value.str).getD prevHash) := by
      cases (entryChainHash v entry).toOption with
      | none => exact start
      | some chainHash => exact .text chainHash
    exact ih next

theorem HashValue.pyEq_exact (plain : HashValue hash) : pyEq value hash = true ↔ value = hash := by
  cases plain with
  | absent => cases value <;> simp [pyEq,Value.number]
  | text hash => exact pyEq_str value hash

theorem HashValue.toJson_exact (plain : HashValue hash) : toJson true value = toJson true hash ↔ value = hash := by
  constructor
  · intro same
    cases plain with
    | absent =>
      cases value with
      | dict members =>
        obtain ⟨_,object⟩ := toJson_dict_obj same
        cases object
      | _ => simp_all [toJson]
    | text hash => exact toJson_str_exact.mp same
  · rintro rfl
    rfl

theorem HashValue.get_same (plain : HashValue hash) (same : SameField left right name)
    (first : left.get name = hash) : right.get name = hash := by
  unfold Dict.get at first ⊢
  unfold SameField at same
  cases here : lookup (.str name) left with
  | none =>
    rw [here,Option.map_none,eq_comm,Option.map_eq_none_iff] at same
    rw [← first,here,same]
  | some value =>
    rw [here,Option.map_some] at same
    obtain ⟨other,found,document⟩ := Option.map_eq_some_iff.mp same.symm
    obtain rfl : value = hash := by rw [here] at first; exact first
    rw [found]
    exact plain.toJson_exact.mp document

section Agree
variable {first second : Verifier} (hashing : second.sha256 = first.sha256) (injective : Function.Injective first.sha256)
include hashing injective

theorem same_hash (firstHash : entryChainHash first (entryOf left) = .ok chainHash)
    (secondHash : entryChainHash second (entryOf right) = .ok chainHash) : SameEntry [] left right := by
  unfold entryChainHash sha256OfCanonicalJson at firstHash secondHash
  cases textL : canonicalJsonDumps (.dict (entryOf left)) with
  | none => rw [textL] at firstHash; cases firstHash
  | some a =>
    cases textR : canonicalJsonDumps (.dict (entryOf right)) with
    | none => rw [textR] at secondHash; cases secondHash
    | some b =>
      rw [textL] at firstHash
      rw [textR,hashing] at secondHash
      have texts : a = b := injective (Except.ok.inj (firstHash.trans secondHash.symm))
      intro name _
      exact canonical_fields (entryOf_record left) (entryOf_record right) textL (texts ▸ textR) name

omit hashing injective in
theorem previous_agree (goodL : WitnessOk first (nextPrevious first .none left) (entryOf endL) hashL)
    (goodR : WitnessOk second (nextPrevious second .none right) (entryOf endR) hashR) (same : SameEntry [] endL endR) :
    nextPrevious first .none left = nextPrevious second .none right := by
  have plainL := nextPrevious_hash first left .absent
  have plainR := nextPrevious_hash second right .absent
  have here := plainL.pyEq_exact.mp goodL.previous
  have there := plainR.pyEq_exact.mp goodR.previous
  exact (plainL.get_same (same "previous_hash" List.not_mem_nil) here).symm.trans there

-- From the end back: one hash is that of one entry, which names one previous hash, and
-- only the empty ledger ends in none.
theorem linked_agree (linkedL : WitnessLinked first .none (left.map entryOf)) (linkedR : WitnessLinked second .none (right.map entryOf))
    (ends : nextPrevious first .none (left.map entryOf) = nextPrevious second .none (right.map entryOf)) :
    List.Forall₂ (SameEntry []) left right := by
  induction left using List.reverseRecOn generalizing right with
  | nil =>
    rcases List.eq_nil_or_concat' right with rfl | ⟨init,last,rfl⟩
    · exact .nil
    · rw [List.map_append,List.map_singleton,linked_snoc] at linkedR
      obtain ⟨_,_,good⟩ := linkedR
      rw [List.map_append,List.map_singleton,good.nextPrevious_snoc] at ends
      cases ends
  | append_singleton initL lastL ih =>
    rw [List.map_append,List.map_singleton,linked_snoc] at linkedL
    obtain ⟨restL,hashL,goodL⟩ := linkedL
    rw [List.map_append,List.map_singleton,goodL.nextPrevious_snoc] at ends
    rcases List.eq_nil_or_concat' right with rfl | ⟨initR,lastR,rfl⟩
    · cases ends
    · rw [List.map_append,List.map_singleton,linked_snoc] at linkedR
      obtain ⟨restR,hashR,goodR⟩ := linkedR
      rw [List.map_append,List.map_singleton,goodR.nextPrevious_snoc] at ends
      obtain rfl : hashL = hashR := Value.str.inj ends
      have last : SameEntry [] lastL lastR := same_hash hashing injective goodL.hashed goodR.hashed
      exact List.rel_append (ih restL restR (previous_agree goodL goodR last)) (.cons last .nil)

end Agree

end Verify

theorem accepted_witnesses_agree {first second : Verifier} (hashing : second.sha256 = first.sha256)
    (injective : Function.Injective first.sha256) {left right : List (List (String × Json))} {endL endR : List (String × Json)}
    (acceptedL : Accepted first (left.map entryOf)) (acceptedR : Accepted second (right.map entryOf))
    (lastL : left.getLast? = some endL) (lastR : right.getLast? = some endR) (same : SameEntry [] endL endR) :
    List.Forall₂ (SameEntry []) left right := by
  obtain ⟨initL,rfl⟩ := List.getLast?_eq_some_iff.mp lastL
  obtain ⟨initR,rfl⟩ := List.getLast?_eq_some_iff.mp lastR
  rw [accepted_exact,List.map_append,List.map_singleton,linked_snoc] at acceptedL acceptedR
  obtain ⟨restL,_,goodL⟩ := acceptedL
  obtain ⟨restR,_,goodR⟩ := acceptedR
  exact List.rel_append (linked_agree hashing injective restL restR (previous_agree goodL goodR same)) (.cons same .nil)

-- What the signature of an entry is made over, and what it is checked with.
def signedFields : List String := ["decision_payload","payload_hash","signature","signer_type","signer_key_id","signer_metadata"]

-- Every entry has its signed fields from an entry of the other ledger.
def EditedFrom (left right : List (List (String × Json))) : Prop :=
  ∀ entry ∈ right, ∃ original ∈ left, ∀ name ∈ signedFields, SameField (entryOf original) (entryOf entry) name

-- The same with the last entry compared up to its previous hash.
def TamperEvident (verifier : Verifier) : Prop :=
  ∀ {left right : List (List (String × Json))} {endL endR : List (String × Json)}, Accepted verifier (left.map entryOf) →
    Accepted verifier (right.map entryOf) → EditedFrom left right → left.getLast? = some endL → right.getLast? = some endR →
    SameEntry ["previous_hash"] endL endR → List.Forall₂ (SameEntry []) left right

def witnessEntry (previous : Json) (requestId signature : String) : List (String × Json) :=
  [("previous_hash",previous),("decision_payload",.obj [("request_id",.str requestId)]),
   ("payload_hash",.str (dumps compact (.obj [("request_id",.str requestId)]))),("signature",.str signature)]

def firstWitness : List (String × Json) := witnessEntry (.atom .null) "r1" "s1"

def secondWitness (previous : Json) : List (String × Json) := witnessEntry previous "r2" "s2"

def witnessVerifier : Verifier where
  env := fun _ => none
  sha256 := id
  hmac := fun _ text => text
  rawSha256 := fun _ => none
  artifacts := ⟨[],fun _ => .absent⟩
  s3Client := none
  boto3 := none
  verifySignatureFn := some (verifySignature {
    build := fun _ _ => none
    configured := some fun payloadHash signature =>
      some ([("\x7b\"request_id\":\"r1\"\x7d","s1"),("\x7b\"request_id\":\"r2\"\x7d","s2")].contains (payloadHash,signature)) })

def firstHash : Json := .str (((canonicalJsonDumps (.dict (entryOf firstWitness)))).getD "")

theorem accepted_of_ok
    (good : (verifyWitnessLedger verifier entries).toOption.map WitnessReport.ok = some true) : Accepted verifier entries := by
  cases verified : verifyWitnessLedger verifier entries with
  | error error => rw [verified] at good; cases good
  | ok report =>
    rw [verified] at good
    exact ⟨report,verified,Option.some.inj good⟩

theorem whole_ledger_accepted : Accepted witnessVerifier ([firstWitness,secondWitness firstHash].map entryOf) :=
  accepted_of_ok (by decide +kernel)

theorem cut_ledger_accepted : Accepted witnessVerifier ([secondWitness (.atom .null)].map entryOf) :=
  accepted_of_ok (by decide +kernel)

theorem secondWitness_same (previous other : Json) : SameEntry ["previous_hash"] (secondWitness previous) (secondWitness other) := by
  intro name unexcepted
  have apart : Key.str "previous_hash" ≠ .str name := fun same => unexcepted (by simp [Key.str.inj same])
  have rest : ∀ json, lookup (.str name) (entryOf (secondWitness json)) = lookup (.str name) (entryOf ((secondWitness other).drop 1)) := by
    intro json
    exact if_neg apart
  rw [SameField,rest previous,rest other]

-- The first entry is dropped and the second says that it was the first.
theorem unsigned_previous_hash : Function.Injective witnessVerifier.sha256 ∧ ¬TamperEvident witnessVerifier := by
  refine ⟨Function.injective_id,fun evident => ?_⟩
  have last := secondWitness_same firstHash (.atom .null)
  have edited : EditedFrom [firstWitness,secondWitness firstHash] [secondWitness (.atom .null)] := by
    intro entry listed
    obtain rfl := List.mem_singleton.mp listed
    refine ⟨secondWitness firstHash,by simp,fun name signed => last name fun excepted => ?_⟩
    rw [List.mem_singleton.mp excepted] at signed
    exact absurd signed (by decide)
  exact absurd (evident whole_ledger_accepted cut_ledger_accepted edited rfl rfl last).length_eq (by decide)

theorem turned_ledger_accepted : Accepted witnessVerifier ([firstWitness.reverse,secondWitness firstHash].map entryOf) :=
  accepted_of_ok (by decide +kernel)

theorem accepted_witnesses_agree_sample :
    List.Forall₂ (SameEntry []) [firstWitness,secondWitness firstHash] [firstWitness.reverse,secondWitness firstHash] :=
  accepted_witnesses_agree rfl Function.injective_id whole_ledger_accepted turned_ledger_accepted rfl rfl fun _ _ => rfl

end VeritasOs.WitnessLedger
