import VeritasOs.TextLines
import VeritasOs.WitnessLedger

namespace VeritasOs.BundleVerify
open Text JsonText BindArtifacts TrustLog TextLines PolicyBundle WitnessLedger

def bundleSchemaVersion : String := "1.1.0"

-- The sets are listed in the order sorted() gives them.
def manifestRequiredFields : List String :=
  ["bundle_id","bundle_type","contents","created_at","created_by","entry_count","file_hashes","schema_version"]

def decisionSnapshotMinimumRequiredFields : List String :=
  ["business_decision","decision_payload","gate_decision","next_action","provenance","trustlog_references","verification"]

def decisionSnapshotFullRequiredFields : List String :=
  ["business_decision","decision_payload","gate_decision","human_review_required","next_action","provenance","required_evidence",
   "runtime_context","trustlog_references","verification"]

def decisionRecordProfiles : List String := ["full","minimum"]

def bundleTypes : List String := ["decision","incident","release"]

def requiredContents (bundleType : String) : List String :=
  if bundleType = "decision" then ["manifest.json","witness_entries.jsonl","decision_record.json"]
  else if bundleTypes.contains bundleType then ["manifest.json","witness_entries.jsonl"]
  else []

def texts (items : List String) : Value := .list (items.map Value.str)

def isList : Value → Bool
  | .list _ => true
  | _ => false

def isBool : Value → Bool
  | .bool _ => true
  | _ => false

def isDict (value : Value) : Bool := value.asDict?.isSome

def noted (wrong : Bool) (error : String) : List String := if wrong then [error] else []

def validateDecisionSnapshotShape (payload : Dict) (profile : String) : List String :=
  if !decisionRecordProfiles.contains profile then
    ["decision_record profile must be one of " ++ (texts decisionRecordProfiles).text]
  else
    let requiredFields := if profile = "minimum" then decisionSnapshotMinimumRequiredFields else decisionSnapshotFullRequiredFields
    let missing := requiredFields.filter fun name => !payload.has name
    let mistyped := fun name formed => payload.get name != .none && !formed (payload.get name)
    noted (!missing.isEmpty) ("decision_record missing fields (" ++ profile ++ "): " ++ (texts missing).text) ++
      noted (payload.has "required_evidence" && !isList (payload.get "required_evidence")) "decision_record.required_evidence must be a list" ++
      noted (payload.has "human_review_required" && !isBool (payload.get "human_review_required"))
        "decision_record.human_review_required must be a boolean" ++
      noted (mistyped "trustlog_references" isDict) "decision_record.trustlog_references must be an object" ++
      noted (mistyped "verification" isDict) "decision_record.verification must be an object" ++
      noted (mistyped "decision_payload" isDict) "decision_record.decision_payload must be an object"

-- What is found under each path of the bundle directory, and the files below it in sorted order. A directory is
-- there and cannot be read.
structure BundleDir where
  file : String → File
  listing : List String

-- json.loads(path.read_text()), with the two errors the callers handle told from those they let pass.
def readJson (dir : BundleDir) (path : String) : Except Exc (Except String Value) :=
  match (dir.file path).readText with
  | .ok text =>
    match jsonLoads text with
    | .ok value => .ok (.ok value)
    | .error error => .ok (.error error.text)
  | .error error => if error.kind = .osError then .ok (.error error.text) else .error error

def jsonKeys : Value → Except Exc Dict
  | .dict members => .ok members
  | other => .error (attributeError (quoteStr (typeName other) ++ " object has no attribute 'keys'"))

structure Findings where
  errors : List String := []
  warnings : List String := []
  tampered : Bool := false
  hashBroken : Bool := false

def Findings.append (first second : Findings) : Findings :=
  ⟨first.errors ++ second.errors,first.warnings ++ second.warnings,first.tampered || second.tampered,first.hashBroken || second.hashBroken⟩

instance : Append Findings := ⟨Findings.append⟩

-- An error that marks the bundle as tampered with.
def tampering (errors : List String) : Findings := { errors := errors,tampered := !errors.isEmpty }

def checkFields (manifest : Dict) : Findings :=
  let version := manifest.get "schema_version"
  let missing := manifestRequiredFields.filter fun name => !manifest.has name
  { warnings := noted (version != .str bundleSchemaVersion)
      ("Schema version mismatch: expected " ++ bundleSchemaVersion ++ ", got " ++ version.text)
    errors := noted (!missing.isEmpty) ("Missing required manifest fields: " ++ (texts missing).text) }

-- bundle_type in BUNDLE_TYPES; a list or an object cannot be asked for in a set.
def bundleTypeOf (manifest : Dict) : Except Exc (Option String) :=
  match manifest.get "bundle_type" with
  | .str bundleType => .ok (if bundleTypes.contains bundleType then some bundleType else none)
  | .list _ => .error (typeError "unhashable type: 'list'")
  | .dict _ => .error (typeError "unhashable type: 'dict'")
  | _ => .ok none

def checkType (dir : BundleDir) (manifest : Dict) : Except Exc Findings := do
  match ← bundleTypeOf manifest with
  | none => .ok { errors := ["Invalid bundle_type: " ++ (manifest.get "bundle_type").text] }
  | some bundleType =>
    let missing := (requiredContents bundleType).filter fun required => !(dir.file required).exists_
    .ok (tampering (missing.map ("Required bundle content missing: " ++ ·)))

def decisionProfile (manifest : Dict) : String :=
  match manifest.get "delivery_contract" with
  | .dict contract =>
    match Dict.get contract "decision_record_profile" with
    | .str profile => profile
    | _ => "minimum"
  | _ => "minimum"

-- A profile that is unknown is told of before the record is asked for its keys.
def recordMembers (profile : String) (value : Value) : Except Exc Dict :=
  if decisionRecordProfiles.contains profile then jsonKeys value else .ok []

def checkDecisionRecord (dir : BundleDir) (manifest : Dict) : Except Exc Findings :=
  if manifest.get "bundle_type" ≠ .str "decision" then .ok {}
  else if !(dir.file "decision_record.json").exists_ then .ok (tampering ["decision bundle missing decision_record.json"])
  else do
    match ← readJson dir "decision_record.json" with
    | .error error => .ok (tampering ["Failed to read decision_record.json: " ++ error])
    | .ok value =>
      let decisionRecord ← recordMembers (decisionProfile manifest) value
      .ok (tampering (validateDecisionSnapshotShape decisionRecord (decisionProfile manifest)))

def checkChecklist (dir : BundleDir) : Findings :=
  { warnings := noted (!(dir.file "acceptance_checklist.json").exists_) "acceptance_checklist.json not found" }

structure FileHashResult where
  ok : Bool
  error : Option String
  expected : Value
  actual : Option String

section Hashing
variable (sha256 : String → String) (rawSha256 : List UInt8 → String)

def sha256Bytes : Bytes → String
  | .text s => sha256 s
  | .raw bytes => rawSha256 bytes

def sha256File (file : File) : Except Exc String := do
  let bytes ← file.readBytes
  .ok (sha256Bytes sha256 rawSha256 bytes)

def checkFileHash (dir : BundleDir) (relPath : String) (expected : Value) : Except Exc (Findings × FileHashResult) := do
  if !(dir.file relPath).exists_ then
    .ok ({ errors := ["File missing: " ++ relPath],tampered := true,hashBroken := true },⟨false,some "file_missing",expected,none⟩)
  else
    let actual ← sha256File sha256 rawSha256 (dir.file relPath)
    if .str actual ≠ expected then
      .ok ({ errors := ["Hash mismatch: " ++ relPath],tampered := true,hashBroken := true },⟨false,some "hash_mismatch",expected,some actual⟩)
    else .ok ({},⟨true,none,expected,some actual⟩)

def checkFileHashesFrom (dir : BundleDir) : List (Key × Value) → Except Exc (Findings × List (Key × FileHashResult))
  | [] => .ok ({},[])
  | (key,expected) :: rest => do
    let own ← checkFileHash sha256 rawSha256 dir ((keyText key).getD "") expected
    let others ← checkFileHashesFrom dir rest
    .ok (own.1 ++ others.1,(key,own.2) :: others.2)

-- manifest.get("file_hashes", {}), which is asked for its items.
def fileHashes (manifest : Dict) : Except Exc Dict :=
  match manifest.getD "file_hashes" (.dict []) with
  | .dict hashes => .ok hashes
  | other => .error (attributeError (quoteStr (typeName other) ++ " object has no attribute 'items'"))

def checkFileHashes (dir : BundleDir) (hashes : Dict) : Except Exc (Findings × List (Key × FileHashResult)) :=
  checkFileHashesFrom sha256 rawSha256 dir (hashes.insertionSort fun a b => keyLe a.1 b.1 = true)

end Hashing

def checkUnexpected (dir : BundleDir) (hashes : Dict) : Findings :=
  let unexpected := dir.listing.filter fun rel => !(hashes.has rel || rel == "manifest.json")
  { warnings := unexpected.map ("Unexpected file in bundle: " ++ ·) }

def unhashedFields : List String := ["manifest_hash","manifest_signature","manifest_signer","manifest_signature_error"]

def manifestForHash (manifest : Dict) : Dict := manifest.filter fun member => !(unhashedFields.map Key.str).contains member.1

def checkManifestHash (sha256 : String → String) (manifest : Dict) : Except Exc Findings :=
  let stored := manifest.get "manifest_hash"
  if !stored.truthy then .ok {}
  else do
    let recomputed ← WitnessLedger.sha256OfCanonicalJson sha256 (.dict (manifestForHash manifest))
    if .str recomputed ≠ stored then .ok { errors := ["Manifest hash integrity check failed"],tampered := true,hashBroken := true }
    else .ok {}

inductive SignatureStatus where
  | pass | fail | missing | notVerified
deriving DecidableEq

structure Authenticity where
  findings : Findings
  status : SignatureStatus
  verified : Bool
  failure : Option String

def unverifiedMessage : String :=
  "Manifest signature present but no signature verifier was provided; manifest authenticity was not verified"

def checkManifestSignature (verifySignatureFn : Option (Value → Value → Except Exc Bool)) (requireSignature : Bool) (manifest : Dict) : Authenticity :=
  let signature := manifest.get "manifest_signature"
  let stored := manifest.get "manifest_hash"
  if !signature.truthy then
    ⟨if requireSignature then tampering ["Manifest signature missing"]
      else { warnings := ["Manifest signature missing; manifest authenticity was not verified"] },.missing,false,some "signature_missing"⟩
  else
    match verifySignatureFn with
    | none =>
      ⟨if requireSignature then tampering [unverifiedMessage] else { warnings := [unverifiedMessage] },.notVerified,false,
        some "signature_not_verified"⟩
    | some verify =>
      match verify (if stored.truthy then stored else .str "") signature with
      | .error error =>
        ⟨tampering ["Manifest signature verification error: " ++ error.text],.fail,false,some "signature_verification_error"⟩
      | .ok true => ⟨{},.pass,true,none⟩
      | .ok false => ⟨tampering ["Manifest signature verification failed"],.fail,false,some "signature_verification_failed"⟩

def loadEach : List String → Except Exc (List Value)
  | [] => .ok []
  | line :: rest => do
    let value ← jsonLoads line
    let others ← loadEach rest
    .ok (value :: others)

def witnessLines (text : String) : List String :=
  ((byteLines text.toList).map fun line => strip (String.ofList line)).filter (· != "")

def asEntries : List Value → Except Exc (List Dict)
  | [] => .ok []
  | .dict entry :: rest => do
    let others ← asEntries rest
    .ok (entry :: others)
  | other :: _ => .error (attributeError (quoteStr (typeName other) ++ " object has no attribute 'get'"))

def witnessEntries (dir : BundleDir) : Except Exc (List Dict) := do
  let bytes ← (dir.file "witness_entries.jsonl").readBytes
  let text ← decodeUtf8 bytes
  let values ← loadEach (witnessLines text)
  asEntries values

def eachChecked (check : Dict → Except Exc Bool) : List Dict → Except Exc Unit
  | [] => .ok ()
  | entry :: rest => do
    let _ ← check entry
    eachChecked check rest

-- verify_witness_ledger on them, with a signature check that may raise. Which of several errors is raised is open.
def runWitness (world : Verifier) (check : Dict → Except Exc Bool) (dir : BundleDir) : Except Exc WitnessReport := do
  let entries ← witnessEntries dir
  eachChecked check entries
  verifyWitnessLedger { world with s3Client := none,verifySignatureFn := some fun entry => (check entry).toOption.getD false } entries

structure WitnessCheck where
  findings : Findings
  report : Option WitnessReport

def checkWitness (world : Verifier) (dir : BundleDir) (verifyWitnessSignatures : Bool) (witnessSignatureFn : Option (Dict → Except Exc Bool)) :
    WitnessCheck :=
  match witnessSignatureFn with
  | none => ⟨{},none⟩
  | some check =>
    if !((dir.file "witness_entries.jsonl").exists_ && verifyWitnessSignatures) then ⟨{},none⟩
    else
      match runWitness world check dir with
      | .error error => ⟨{ warnings := ["Witness verification skipped: " ++ error.text] },none⟩
      | .ok report => ⟨{ errors := noted (!report.ok) "Witness ledger verification failed within bundle" },some report⟩

structure BundleReport where
  findings : Findings
  manifest : Option Dict
  fileHashResults : List (Key × FileHashResult)
  signatureStatus : SignatureStatus
  signatureVerified : Bool
  authenticityFailure : Option String
  witnessVerification : Option WitnessReport

def BundleReport.ok (report : BundleReport) : Bool := report.findings.errors.isEmpty

structure Verifiers where
  world : Verifier
  rawSha256 : List UInt8 → String
  verifySignatureFn : Option (Value → Value → Except Exc Bool)
  witnessSignatureFn : Option (Dict → Except Exc Bool)

def unread (error : String) : BundleReport where
  findings := { errors := [error],tampered := true,hashBroken := true }
  manifest := none
  fileHashResults := []
  signatureStatus := .missing
  signatureVerified := false
  authenticityFailure := some "signature_missing"
  witnessVerification := none

def verifyManifest (verifiers : Verifiers) (requireSignature verifyWitnessSignatures : Bool) (dir : BundleDir) (manifest : Dict) :
    Except Exc BundleReport := do
  let typed ← checkType dir manifest
  let decision ← checkDecisionRecord dir manifest
  let hashes ← fileHashes manifest
  let hashed ← checkFileHashes verifiers.world.sha256 verifiers.rawSha256 dir hashes
  let integrity ← checkManifestHash verifiers.world.sha256 manifest
  let signed := checkManifestSignature verifiers.verifySignatureFn requireSignature manifest
  let witnessed := checkWitness verifiers.world dir verifyWitnessSignatures verifiers.witnessSignatureFn
  .ok ⟨checkFields manifest ++ typed ++ decision ++ checkChecklist dir ++ hashed.1 ++ checkUnexpected dir hashes ++ integrity ++ signed.findings ++
      witnessed.findings,some manifest,hashed.2,signed.status,signed.verified,signed.failure,witnessed.report⟩

def verifyEvidenceBundle (verifiers : Verifiers) (requireSignature verifyWitnessSignatures : Bool) (dir : BundleDir) : Except Exc BundleReport :=
  if !(dir.file "manifest.json").exists_ then .ok (unread "manifest.json not found in bundle")
  else do
    match ← readJson dir "manifest.json" with
    | .error error => .ok (unread ("Failed to read manifest.json: " ++ error))
    | .ok (.dict manifest) => verifyManifest verifiers requireSignature verifyWitnessSignatures dir manifest
    | .ok other => .error (attributeError (quoteStr (typeName other) ++ " object has no attribute 'get'"))

def listedHashes (manifest : Dict) : Dict :=
  match manifest.getD "file_hashes" (.dict []) with
  | .dict hashes => hashes
  | _ => []

-- The files the bundle's type requires. The manifest is one of them, and no manifest can list its own hash, so it
-- counts or does not.
def requiredFiles (withManifest : Bool) (manifest : Dict) : List String :=
  let required := match manifest.get "bundle_type" with
    | .str bundleType => requiredContents bundleType
    | _ => []
  if withManifest then required else required.filter (· != "manifest.json")

theorem fileHashes_listed (found : fileHashes manifest = .ok hashes) : listedHashes manifest = hashes := by
  unfold fileHashes at found
  unfold listedHashes
  split at found
  · exact Except.ok.inj found
  · cases found

section Accepted
variable (verifiers : Verifiers) (dir : BundleDir) (manifest : Dict)

def SignatureAccepted : Prop :=
  ∃ verify recomputed, verifiers.verifySignatureFn = some verify ∧
    WitnessLedger.sha256OfCanonicalJson verifiers.world.sha256 (.dict (manifestForHash manifest)) = .ok recomputed ∧
    verify (.str recomputed) (manifest.get "manifest_signature") = .ok true

def HashesMatch : Prop :=
  ∀ entry ∈ listedHashes manifest, ∃ bytes, dir.file ((keyText entry.1).getD "") = .content bytes ∧
    entry.2 = .str (sha256Bytes verifiers.world.sha256 verifiers.rawSha256 bytes)

def RequiredListed (withManifest : Bool) : Prop := ∀ required ∈ requiredFiles withManifest manifest, (listedHashes manifest).has required = true

def WitnessRun (report : WitnessReport) : Prop :=
  ∃ check, verifiers.witnessSignatureFn = some check ∧ runWitness verifiers.world check dir = .ok report

structure Verified (withManifest : Bool) : Prop where
  signature : SignatureAccepted verifiers manifest
  hashes : HashesMatch verifiers dir manifest
  required : RequiredListed manifest withManifest
  witness : ∃ report, WitnessRun verifiers dir report ∧ report.ok = true

-- What the verifier does not ask for: a stored hash, that the required files are among the listed ones, a witness
-- verifier, and that the witness run comes to an end.
structure Covered (withManifest : Bool) : Prop where
  hash : (manifest.get "manifest_hash").truthy = true ∨ SignatureAccepted verifiers manifest
  required : RequiredListed manifest withManifest
  witness : ∃ report, WitnessRun verifiers dir report

end Accepted

theorem errors_append (first second : Findings) : (first ++ second).errors = first.errors ++ second.errors := rfl

theorem tampering_errors (errors : List String) : (tampering errors).errors = errors := rfl

theorem noted_nil : noted wrong error = [] ↔ wrong = false := by cases wrong <;> simp [noted]

section Checks
variable {sha256 : String → String} {rawSha256 : List UInt8 → String} {dir : BundleDir}

theorem fileHash_exact (checked : checkFileHash sha256 rawSha256 dir relPath expected = .ok result) (clean : result.1.errors = []) :
    ∃ bytes, dir.file relPath = .content bytes ∧ expected = .str (sha256Bytes sha256 rawSha256 bytes) := by
  unfold checkFileHash at checked
  split at checked
  · obtain rfl := Except.ok.inj checked
    cases clean
  · obtain ⟨actual,hashed,rest⟩ := bind_ok.mp checked
    obtain ⟨bytes,read,made⟩ := bind_ok.mp hashed
    obtain rfl := Except.ok.inj made
    split at rest
    · obtain rfl := Except.ok.inj rest
      cases clean
    · rename_i same
      cases held : dir.file relPath with
      | absent => simp [held,File.readBytes] at read
      | unreadable error => simp [held,File.readBytes] at read
      | content own =>
        rw [held] at read
        obtain rfl := Except.ok.inj read
        exact ⟨own,rfl,(not_not.mp same).symm⟩

theorem fileHashesFrom_exact (checked : checkFileHashesFrom sha256 rawSha256 dir hashes = .ok result) (clean : result.1.errors = []) :
    ∀ entry ∈ hashes, ∃ bytes, dir.file ((keyText entry.1).getD "") = .content bytes ∧
      entry.2 = .str (sha256Bytes sha256 rawSha256 bytes) := by
  induction hashes generalizing result with
  | nil => simp
  | cons entry rest ih =>
    obtain ⟨own,first,more⟩ := bind_ok.mp checked
    obtain ⟨others,later,made⟩ := bind_ok.mp more
    obtain rfl := Except.ok.inj made
    rw [errors_append,List.append_eq_nil_iff] at clean
    rw [List.forall_mem_cons]
    exact ⟨fileHash_exact first clean.1,ih later clean.2⟩

theorem manifestHash_exact (checked : checkManifestHash sha256 manifest = .ok findings)
    (clean : findings.errors = []) (stored : (manifest.get "manifest_hash").truthy = true) :
    ∃ recomputed, WitnessLedger.sha256OfCanonicalJson sha256 (.dict (manifestForHash manifest)) = .ok recomputed ∧
      manifest.get "manifest_hash" = .str recomputed := by
  unfold checkManifestHash at checked
  dsimp only at checked
  rw [stored,Bool.not_true,if_neg Bool.false_ne_true] at checked
  obtain ⟨recomputed,hashed,rest⟩ := bind_ok.mp checked
  split at rest
  · obtain rfl := Except.ok.inj rest
    cases clean
  · rename_i same
    exact ⟨recomputed,hashed,(not_not.mp same).symm⟩

theorem manifestSignature_exact (clean : (checkManifestSignature verifySignatureFn true manifest).findings.errors = []) :
    ∃ verify, verifySignatureFn = some verify ∧
      verify (if (manifest.get "manifest_hash").truthy then manifest.get "manifest_hash" else .str "") (manifest.get "manifest_signature") = .ok true := by
  unfold checkManifestSignature at clean
  dsimp only at clean
  split at clean
  · cases clean
  · split at clean
    · cases clean
    · rename_i verify
      split at clean
      · cases clean
      · rename_i accepted
        exact ⟨verify,rfl,accepted⟩
      · cases clean

theorem witness_exact (there : (dir.file "witness_entries.jsonl").exists_ = true) (ran : runWitness world check dir = .ok report)
    (clean : (checkWitness world dir true (some check)).findings.errors = []) : report.ok = true := by
  unfold checkWitness at clean
  rw [there] at clean
  simp only [Bool.and_true,Bool.not_true,Bool.false_eq_true,if_false,ran] at clean
  simpa using noted_nil.mp clean

theorem type_exact (checked : checkType dir manifest = .ok findings) (clean : findings.errors = []) :
    ∃ bundleType, bundleTypes.contains bundleType = true ∧ manifest.get "bundle_type" = .str bundleType ∧
      ∀ required ∈ requiredContents bundleType, (dir.file required).exists_ = true := by
  obtain ⟨named,read,rest⟩ := bind_ok.mp checked
  cases named with
  | none =>
    obtain rfl := Except.ok.inj rest
    cases clean
  | some bundleType =>
    obtain rfl := Except.ok.inj rest
    unfold bundleTypeOf at read
    split at read
    · rename_i text held
      split at read
      · rename_i known
        obtain rfl := Option.some.inj (Except.ok.inj read)
        refine ⟨text,known,held,fun required listed => ?_⟩
        rw [tampering_errors,List.map_eq_nil_iff] at clean
        simpa using List.filter_eq_nil_iff.mp clean required listed
      · cases Except.ok.inj read
    · cases read
    · cases read
    · cases Except.ok.inj read

end Checks

theorem manifest_verified (withManifest : Bool)
    (returned : verifyManifest verifiers true true dir manifest = .ok report) (accepted : report.ok = true) :
    Verified verifiers dir manifest withManifest ↔ Covered verifiers dir manifest withManifest := by
  obtain ⟨typed,typeChecked,rest⟩ := bind_ok.mp returned
  obtain ⟨decision,_,rest⟩ := bind_ok.mp rest
  obtain ⟨hashes,found,rest⟩ := bind_ok.mp rest
  obtain ⟨hashed,hashChecked,rest⟩ := bind_ok.mp rest
  obtain ⟨integrity,integral,rest⟩ := bind_ok.mp rest
  obtain rfl := Except.ok.inj rest
  have clean := List.isEmpty_iff.mp accepted
  simp only [errors_append,List.append_eq_nil_iff] at clean
  obtain ⟨⟨⟨⟨⟨⟨⟨⟨_,typeClean⟩,_⟩,_⟩,hashClean⟩,_⟩,integrityClean⟩,signedClean⟩,witnessClean⟩ := clean
  have listed := fileHashes_listed found
  have signature : (manifest.get "manifest_hash").truthy = true → SignatureAccepted verifiers manifest := by
    intro stored
    obtain ⟨recomputed,computed,same⟩ := manifestHash_exact integral integrityClean stored
    obtain ⟨verify,given,accepts⟩ := manifestSignature_exact signedClean
    rw [if_pos stored,same] at accepts
    exact ⟨verify,recomputed,given,computed,accepts⟩
  have matched : HashesMatch verifiers dir manifest := by
    intro entry member
    rw [listed] at member
    exact fileHashesFrom_exact hashChecked hashClean entry ((List.perm_insertionSort _ hashes).mem_iff.mpr member)
  have witness {witnessReport : WitnessReport} (ran : WitnessRun verifiers dir witnessReport) : witnessReport.ok = true := by
    obtain ⟨check,given,run⟩ := ran
    obtain ⟨bundleType,known,_,there⟩ := type_exact typeChecked typeClean
    rw [given] at witnessClean
    refine witness_exact (there _ ?_) run witnessClean
    revert known
    exact (by decide : ∀ type ∈ bundleTypes, "witness_entries.jsonl" ∈ requiredContents type) bundleType ∘ List.contains_iff_mem.mp
  constructor
  · rintro ⟨accepts,_,required,ran,run,_⟩
    exact ⟨.inr accepts,required,ran,run⟩
  · rintro ⟨hash,required,ran,run⟩
    exact ⟨hash.elim signature id,matched,required,ran,run,witness run⟩

def HasManifest (dir : BundleDir) (manifest : Dict) : Prop :=
  (dir.file "manifest.json").exists_ = true ∧ readJson dir "manifest.json" = .ok (.ok (.dict manifest))

theorem verified_bundle_exact (verifiers : Verifiers) (dir : BundleDir) (manifest : Dict) (held : HasManifest dir manifest) (withManifest : Bool)
    (report : BundleReport) (returned : verifyEvidenceBundle verifiers true true dir = .ok report) :
    (report.ok = true → Verified verifiers dir manifest withManifest) ↔ (report.ok = true → Covered verifiers dir manifest withManifest) := by
  unfold verifyEvidenceBundle at returned
  rw [held.1,Bool.not_true,if_neg Bool.false_ne_true,held.2] at returned
  have passed : verifyManifest verifiers true true dir manifest = .ok report := returned
  refine forall_congr' fun accepted => ?_
  exact manifest_verified withManifest passed accepted

-- An incident bundle of one file whose content is left open, under a hash that tells nothing apart.
def sampleManifest : List (String × Json) :=
  [("schema_version",.str "1.1.0"),("bundle_type",.str "incident"),("bundle_id",.str "b"),("created_at",.str "2026-01-01T00:00:00Z"),
   ("created_by",.str "veritas_os"),("contents",.arr [.str "witness_entries.jsonl"]),("file_hashes",.obj [("witness_entries.jsonl",.str "h")]),
   ("entry_count",.atom (.int 0)),("manifest_hash",.str "h"),("manifest_signature",.str "s")]

def sampleBundle (witnessEntries : String) : BundleDir where
  file path :=
    if path = "manifest.json" then .content (.text (dumps compact (.obj sampleManifest)))
    else if path = "witness_entries.jsonl" then .content (.text witnessEntries)
    else .absent
  listing := ["manifest.json","witness_entries.jsonl"]

def sampleVerifiers : Verifiers where
  world := { witnessVerifier with sha256 := fun _ => "h" }
  rawSha256 _ := "h"
  verifySignatureFn := some fun hash signature => .ok (hash == .str "h" && signature == .str "s")
  witnessSignatureFn := some fun _ => .ok true

theorem readJson_dumps (held : dir.file path = .content (.text (dumps compact json))) : readJson dir path = .ok (.ok (fromJson json)) := by
  generalize text : dumps compact json = written at held
  have read : (dir.file path).readText = .ok (String.ofList (newlines written.toList)) := by
    rw [held]
    rfl
  rw [readJson,read]
  simp only [jsonLoads,loads_newlines,← text,loads_dumps]

theorem sampleBundle_manifest (witnessEntries : String) : HasManifest (sampleBundle witnessEntries) (Dict.update [] (fromMembers sampleManifest)) := by
  have file : (sampleBundle witnessEntries).file "manifest.json" = .content (.text (dumps compact (.obj sampleManifest))) := by
    dsimp only [sampleBundle]
    rw [if_pos rfl]
  have there : ∀ text : String, (File.content (.text text)).exists_ = true := fun _ => rfl
  refine ⟨by rw [file,there],?_⟩
  rw [readJson_dumps file,fromJson]

theorem sampleBundle_returned {witnessEntries : String} {report : BundleReport}
    (passed : verifyManifest sampleVerifiers true true (sampleBundle witnessEntries) (Dict.update [] (fromMembers sampleManifest)) = .ok report) :
    verifyEvidenceBundle sampleVerifiers true true (sampleBundle witnessEntries) = .ok report := by
  obtain ⟨there,read⟩ := sampleBundle_manifest witnessEntries
  rw [verifyEvidenceBundle,there,Bool.not_true,if_neg Bool.false_ne_true,read]
  exact passed

theorem skipped_witness_accepted : ¬∀ verifiers dir manifest report, HasManifest dir manifest →
    verifyEvidenceBundle verifiers true true dir = .ok report → report.ok = true → Verified verifiers dir manifest false := by
  intro every
  obtain ⟨report,passed,accepted⟩ := toOption_shown (show (verifyManifest sampleVerifiers true true (sampleBundle "torn")
    (Dict.update [] (fromMembers sampleManifest))).toOption.map BundleReport.ok = some true by decide +kernel)
  obtain ⟨_,_,_,witnessReport,⟨check,given,ran⟩,_⟩ := every _ _ _ report (sampleBundle_manifest "torn") (sampleBundle_returned passed) accepted
  obtain rfl := Option.some.inj given
  have stopped : (runWitness sampleVerifiers.world (fun _ => .ok true) (sampleBundle "torn")).toOption.isNone = true := by decide +kernel
  rw [ran] at stopped
  cases stopped

theorem verified_bundle_sample : ∃ report, verifyEvidenceBundle sampleVerifiers true true (sampleBundle "") = .ok report ∧ report.ok = true ∧
    Verified sampleVerifiers (sampleBundle "") (Dict.update [] (fromMembers sampleManifest)) false := by
  obtain ⟨report,passed,accepted⟩ := toOption_shown (show (verifyManifest sampleVerifiers true true (sampleBundle "")
    (Dict.update [] (fromMembers sampleManifest))).toOption.map BundleReport.ok = some true by decide +kernel)
  have returned := sampleBundle_returned passed
  refine ⟨report,returned,accepted,(verified_bundle_exact sampleVerifiers (sampleBundle "") _ (sampleBundle_manifest "") false report returned).mpr
    (fun _ => ⟨.inl ?_,?_,?_⟩) accepted⟩
  · decide +kernel
  · unfold RequiredListed
    decide +kernel
  · obtain ⟨witnessReport,ran,_⟩ := toOption_shown (show (runWitness sampleVerifiers.world (fun _ => .ok true) (sampleBundle "")).toOption.map
      WitnessReport.ok = some true by decide +kernel)
    exact ⟨witnessReport,_,rfl,ran⟩

-- What json.loads is given outside every handler of its errors.
def loadedTexts (dir : BundleDir) : List String :=
  match (dir.file "manifest.json").readText with
  | .error _ => []
  | .ok text =>
    text :: match jsonLoads text with
      | .ok (.dict manifest) =>
        if Dict.get manifest "bundle_type" = .str "decision" then ((dir.file "decision_record.json").readText).toOption.toList else []
      | _ => []

-- json.loads gives up on a text that is nested too deeply or holds too long a number. Which of several errors is
-- raised is open.
def verifyLimited (limits : String → Option Exc) (verifiers : Verifiers) (requireSignature verifyWitnessSignatures : Bool) (dir : BundleDir) :
    Except Exc BundleReport :=
  match (loadedTexts dir).findSome? limits with
  | some error => .error error
  | none => verifyEvidenceBundle verifiers requireSignature verifyWitnessSignatures dir

def isRaw : File → Bool
  | .content (.raw _) => true
  | _ => false

def isUnreadable : File → Bool
  | .unreadable _ => true
  | _ => false

def jsonAt (dir : BundleDir) (path : String) : Option Value := (dir.file path).readText.toOption.bind fun text => (jsonLoads text).toOption

def isHashable : Value → Bool
  | .list _ | .dict _ => false
  | _ => true

structure RecordUsable (dir : BundleDir) (manifest : Dict) : Prop where
  decodes : isRaw (dir.file "decision_record.json") = false
  object : decisionRecordProfiles.contains (decisionProfile manifest) = true →
    ∀ value, jsonAt dir "decision_record.json" = some value → isDict value = true

structure ManifestUsable (dir : BundleDir) (manifest : Dict) : Prop where
  hashable : isHashable (manifest.get "bundle_type") = true
  record : manifest.get "bundle_type" = .str "decision" → RecordUsable dir manifest
  hashes : isDict (manifest.getD "file_hashes" (.dict [])) = true
  readable : ∀ entry ∈ listedHashes manifest, isUnreadable (dir.file ((keyText entry.1).getD "")) = false

structure Usable (limits : String → Option Exc) (dir : BundleDir) : Prop where
  limited : ∀ text ∈ loadedTexts dir, limits text = none
  decodes : isRaw (dir.file "manifest.json") = false
  manifest : ∀ value, jsonAt dir "manifest.json" = some value → ∃ manifest, value = .dict manifest ∧ ManifestUsable dir manifest

def WellFormed (dir : BundleDir) : Prop :=
  ∃ manifest hashes, jsonAt dir "manifest.json" = some (.dict manifest) ∧ lookup (.str "file_hashes") manifest = some (.dict hashes) ∧
    ∀ entry ∈ hashes, ∃ text, entry.2 = .str text

section Hostile
variable {verifiers : Verifiers} {requireSignature verifyWitnessSignatures : Bool} {limits : String → Option Exc} {dir : BundleDir}
  {manifest : Dict}

theorem bind_returns {ε : Type} {first : Except ε α} {next : α → Except ε β} :
    (∃ result, (first >>= next) = .ok result) ↔ ∃ value, first = .ok value ∧ ∃ result, next value = .ok result := by
  simp only [bind_ok]
  exact exists_comm.trans (exists_congr fun value => exists_and_left)

theorem loaded_record (loaded : jsonLoads text = .ok (.dict manifest)) : Record manifest ∧ Recordable (.dict manifest) := by
  unfold jsonLoads at loaded
  split at loaded
  · rename_i json _
    have same := Except.ok.inj loaded
    refine ⟨?_,same ▸ fromJson_recordable json⟩
    cases json with
    | atom a => cases a <;> cases same
    | str s => cases same
    | arr items => cases same
    | obj members =>
      rw [fromJson] at same
      obtain rfl := Value.dict.inj same
      exact update_record _ (fromMembers_named members)
  · cases loaded

theorem jsonAt_some : jsonAt dir path = some value ↔ ∃ text, (dir.file path).readText = .ok text ∧ jsonLoads text = .ok value := by
  unfold jsonAt
  cases (dir.file path).readText with
  | error error => simp [Except.toOption]
  | ok text =>
    simp only [Except.toOption,Option.bind_some,Except.ok.injEq,exists_eq_left']
    cases jsonLoads text <;> simp

theorem readJson_returns (path : String) : (∃ outcome, readJson dir path = .ok outcome) ↔ isRaw (dir.file path) = false := by
  unfold readJson
  cases file : dir.file path with
  | absent => simp [File.readText,File.readBytes,isRaw,osError,bind,Except.bind]
  | unreadable error => simp [File.readText,File.readBytes,isRaw,osError,bind,Except.bind]
  | content bytes =>
    cases bytes with
    | raw bytes => simp [File.readText,File.readBytes,isRaw,decodeUtf8,valueError,bind,Except.bind]
    | text s =>
      simp only [File.readText,File.readBytes,isRaw,decodeUtf8,bind,Except.bind,pure,Except.pure,iff_true]
      split <;> exact ⟨_,rfl⟩

theorem readJson_value : readJson dir path = .ok (.ok value) ↔ jsonAt dir path = some value := by
  rw [jsonAt_some]
  unfold readJson
  cases (dir.file path).readText with
  | error error =>
    dsimp only
    split <;> simp
  | ok text =>
    simp only [Except.ok.injEq,exists_eq_left']
    cases jsonLoads text <;> simp

theorem checkType_returns : (∃ findings, checkType dir manifest = .ok findings) ↔ isHashable (manifest.get "bundle_type") = true := by
  unfold checkType bundleTypeOf
  cases manifest.get "bundle_type" with
  | str text =>
    simp only [isHashable,bind,Except.bind,iff_true]
    split <;> exact ⟨_,rfl⟩
  | _ => simp [isHashable,bind,Except.bind]

theorem jsonKeys_returns (value : Value) : (∃ members, jsonKeys value = .ok members) ↔ isDict value = true := by
  cases value <;> simp [jsonKeys,isDict,Value.asDict?]

theorem checkDecisionRecord_returns : (∃ findings, checkDecisionRecord dir manifest = .ok findings) ↔
      (manifest.get "bundle_type" = .str "decision" → RecordUsable dir manifest) := by
  unfold checkDecisionRecord
  by_cases decision : manifest.get "bundle_type" = .str "decision"
  · rw [if_neg (not_not.mpr decision)]
    by_cases there : (dir.file "decision_record.json").exists_ = true
    · rw [there,Bool.not_true,if_neg Bool.false_ne_true,bind_returns]
      constructor
      · rintro ⟨outcome,read,rest⟩ _
        refine ⟨(readJson_returns _).mp ⟨outcome,read⟩,fun known value found => ?_⟩
        rw [readJson_value.mpr found] at read
        obtain rfl := Except.ok.inj read
        obtain ⟨_,shaped⟩ := rest
        dsimp only at shaped
        obtain ⟨members,keys,_⟩ := bind_ok.mp shaped
        rw [recordMembers,if_pos known] at keys
        exact (jsonKeys_returns value).mp ⟨members,keys⟩
      · intro usable
        obtain ⟨decodes,object⟩ := usable decision
        obtain ⟨outcome,read⟩ := (readJson_returns _).mpr decodes
        refine ⟨outcome,read,?_⟩
        cases outcome with
        | error error => exact ⟨_,rfl⟩
        | ok value =>
          dsimp only
          rw [bind_returns,recordMembers]
          by_cases known : decisionRecordProfiles.contains (decisionProfile manifest) = true
          · obtain ⟨members,keys⟩ := (jsonKeys_returns value).mpr (object known value (readJson_value.mp read))
            rw [if_pos known]
            exact ⟨members,keys,_,rfl⟩
          · rw [if_neg known]
            exact ⟨[],rfl,_,rfl⟩
    · rw [Bool.eq_false_iff.mpr there]
      refine ⟨fun _ _ => ?_,fun _ => ⟨_,rfl⟩⟩
      have absent : dir.file "decision_record.json" = .absent := by
        cases file : dir.file "decision_record.json" with
        | absent => rfl
        | _ => simp [file,File.exists_] at there
      refine ⟨by rw [absent]; rfl,fun _ value found => ?_⟩
      rw [jsonAt,absent] at found
      cases found
  · rw [if_pos decision]
    exact ⟨fun _ same => absurd same decision,fun _ => ⟨_,rfl⟩⟩

theorem fileHashes_returns : (∃ hashes, fileHashes manifest = .ok hashes) ↔ isDict (manifest.getD "file_hashes" (.dict [])) = true := by
  unfold fileHashes
  cases manifest.getD "file_hashes" (.dict []) <;> simp [isDict,Value.asDict?]

section Files
variable {sha256 : String → String} {rawSha256 : List UInt8 → String}

theorem checkFileHash_returns (relPath : String) (expected : Value) :
    (∃ result, checkFileHash sha256 rawSha256 dir relPath expected = .ok result) ↔ isUnreadable (dir.file relPath) = false := by
  unfold checkFileHash sha256File
  cases dir.file relPath with
  | absent => simp [File.exists_,isUnreadable]
  | unreadable error => simp [File.exists_,File.readBytes,isUnreadable,bind,Except.bind]
  | content bytes =>
    simp only [File.exists_,File.readBytes,isUnreadable,bind,Except.bind,Bool.not_true,Bool.false_eq_true,if_false,iff_true]
    split <;> exact ⟨_,rfl⟩

theorem checkFileHashesFrom_returns (hashes : Dict) : (∃ result, checkFileHashesFrom sha256 rawSha256 dir hashes = .ok result) ↔
      ∀ entry ∈ hashes, isUnreadable (dir.file ((keyText entry.1).getD "")) = false := by
  induction hashes with
  | nil => simp [checkFileHashesFrom]
  | cons entry rest ih =>
    rw [List.forall_mem_cons,← ih,← @checkFileHash_returns dir sha256 rawSha256 _ entry.2,checkFileHashesFrom,bind_returns]
    constructor
    · rintro ⟨own,first,others⟩
      obtain ⟨later,more,_⟩ := bind_returns.mp others
      exact ⟨⟨own,first⟩,later,more⟩
    · rintro ⟨⟨own,first⟩,later,more⟩
      exact ⟨own,first,bind_returns.mpr ⟨later,more,_,rfl⟩⟩
end Files

theorem checkManifestHash_returns (record : Record manifest) (recordable : Recordable (.dict manifest)) :
    ∃ findings, checkManifestHash sha256 manifest = .ok findings := by
  have each := (recordable_dict record.named).mp recordable
  have named : StrKeys (manifestForHash manifest) := fun member listed => record.named member (List.mem_filter.mp listed).1
  have kept : Recordable (.dict (manifestForHash manifest)) :=
    (recordable_dict named).mpr fun member listed => each member (List.mem_filter.mp listed).1
  obtain ⟨text,written⟩ := Option.isSome_iff_exists.mp ((canonical_recordable _).mpr kept)
  unfold checkManifestHash
  dsimp only
  split
  · exact ⟨_,rfl⟩
  · simp only [WitnessLedger.sha256OfCanonicalJson,written,bind,Except.bind]
    split <;> exact ⟨_,rfl⟩

theorem verifyManifest_returns (record : Record manifest) (recordable : Recordable (.dict manifest)) :
    (∃ report, verifyManifest verifiers requireSignature verifyWitnessSignatures dir manifest = .ok report) ↔ ManifestUsable dir manifest := by
  have integrity := @checkManifestHash_returns manifest verifiers.world.sha256 record recordable
  constructor
  · rintro ⟨report,returned⟩
    obtain ⟨typed,first,rest⟩ := bind_ok.mp returned
    obtain ⟨decision,second,rest⟩ := bind_ok.mp rest
    obtain ⟨hashes,third,rest⟩ := bind_ok.mp rest
    obtain ⟨hashed,fourth,_⟩ := bind_ok.mp rest
    refine ⟨checkType_returns.mp ⟨typed,first⟩,checkDecisionRecord_returns.mp ⟨decision,second⟩,fileHashes_returns.mp ⟨hashes,third⟩,?_⟩
    intro entry listed
    rw [fileHashes_listed third] at listed
    exact (checkFileHashesFrom_returns _).mp ⟨hashed,fourth⟩ entry ((List.perm_insertionSort _ hashes).mem_iff.mpr listed)
  · rintro ⟨hashable,recorded,dict,readable⟩
    obtain ⟨typed,first⟩ := checkType_returns.mpr hashable
    obtain ⟨decision,second⟩ := checkDecisionRecord_returns.mpr recorded
    obtain ⟨hashes,third⟩ := fileHashes_returns.mpr dict
    obtain ⟨findings,fifth⟩ := integrity
    have fourth : ∃ hashed, checkFileHashes verifiers.world.sha256 verifiers.rawSha256 dir hashes = .ok hashed := by
      refine (checkFileHashesFrom_returns _).mpr fun entry listed => readable entry ?_
      rw [fileHashes_listed third]
      exact (List.perm_insertionSort _ hashes).mem_iff.mp listed
    obtain ⟨hashed,fourth⟩ := fourth
    exact bind_returns.mpr ⟨typed,first,bind_returns.mpr ⟨decision,second,bind_returns.mpr ⟨hashes,third,bind_returns.mpr ⟨hashed,fourth,
      bind_returns.mpr ⟨findings,fifth,_,rfl⟩⟩⟩⟩⟩

theorem verifyEvidenceBundle_returns :
    (∃ report, verifyLimited limits verifiers requireSignature verifyWitnessSignatures dir = .ok report) ↔ Usable limits dir := by
  unfold verifyLimited
  cases within : (loadedTexts dir).findSome? limits with
  | some error =>
    obtain ⟨text,listed,reached⟩ := List.exists_of_findSome?_eq_some within
    refine ⟨fun returned => absurd returned (by simp),fun usable => ?_⟩
    rw [usable.limited text listed] at reached
    cases reached
  | none =>
    have limited := List.findSome?_eq_none_iff.mp within
    dsimp only
    unfold verifyEvidenceBundle
    cases there : (dir.file "manifest.json").exists_ with
    | false =>
      have absent : dir.file "manifest.json" = .absent := by
        cases file : dir.file "manifest.json" with
        | absent => rfl
        | _ => simp [file,File.exists_] at there
      refine ⟨fun _ => ⟨limited,by rw [absent]; rfl,fun value found => ?_⟩,fun _ => ⟨_,rfl⟩⟩
      rw [jsonAt,absent] at found
      cases found
    | true =>
      rw [Bool.not_true,if_neg Bool.false_ne_true,bind_returns]
      constructor
      · rintro ⟨outcome,read,rest⟩
        refine ⟨limited,(readJson_returns _).mp ⟨outcome,read⟩,fun value found => ?_⟩
        rw [readJson_value.mpr found] at read
        obtain rfl := Except.ok.inj read
        obtain ⟨text,_,loaded⟩ := jsonAt_some.mp found
        cases value with
        | dict manifest =>
          obtain ⟨record,recordable⟩ := loaded_record loaded
          exact ⟨manifest,rfl,(verifyManifest_returns record recordable).mp rest⟩
        | _ =>
          obtain ⟨_,returned⟩ := rest
          cases returned
      · intro usable
        obtain ⟨outcome,read⟩ := (readJson_returns _).mpr usable.decodes
        refine ⟨outcome,read,?_⟩
        cases outcome with
        | error error => exact ⟨_,rfl⟩
        | ok value =>
          have found := readJson_value.mp read
          obtain ⟨text,_,loaded⟩ := jsonAt_some.mp found
          obtain ⟨manifest,rfl,good⟩ := usable.manifest value found
          obtain ⟨record,recordable⟩ := loaded_record loaded
          exact (verifyManifest_returns record recordable).mpr good

theorem fileHashes_formed (checked : checkFileHashes sha256 rawSha256 dir hashes = .ok result)
    (clean : result.1.errors = []) : ∀ entry ∈ hashes, ∃ text, entry.2 = .str text := by
  intro entry listed
  obtain ⟨bytes,_,same⟩ := fileHashesFrom_exact checked clean entry ((List.perm_insertionSort _ hashes).mem_iff.mpr listed)
  exact ⟨_,same⟩

theorem accepted_formed
    (returned : verifyEvidenceBundle verifiers requireSignature verifyWitnessSignatures dir = .ok report) (accepted : report.ok = true) :
    WellFormed dir := by
  unfold verifyEvidenceBundle at returned
  split at returned
  · obtain rfl := Except.ok.inj returned
    cases accepted
  · obtain ⟨outcome,read,rest⟩ := bind_ok.mp returned
    split at rest
    · obtain rfl := Except.ok.inj rest
      cases accepted
    · rename_i manifest
      obtain ⟨typed,_,rest⟩ := bind_ok.mp rest
      obtain ⟨decision,_,rest⟩ := bind_ok.mp rest
      obtain ⟨hashes,found,rest⟩ := bind_ok.mp rest
      obtain ⟨hashed,checked,rest⟩ := bind_ok.mp rest
      obtain ⟨integrity,_,rest⟩ := bind_ok.mp rest
      obtain rfl := Except.ok.inj rest
      have clean := List.isEmpty_iff.mp accepted
      simp only [errors_append,List.append_eq_nil_iff] at clean
      obtain ⟨⟨⟨⟨⟨⟨⟨⟨fieldsClean,_⟩,_⟩,_⟩,hashClean⟩,_⟩,_⟩,_⟩,_⟩ := clean
      refine ⟨manifest,hashes,readJson_value.mp read,?_,fileHashes_formed checked hashClean⟩
      have missing := noted_nil.mp fieldsClean
      rw [Bool.not_eq_false',List.isEmpty_iff,List.filter_eq_nil_iff] at missing
      have present : Dict.has manifest "file_hashes" = true := by simpa using missing "file_hashes" (by decide)
      obtain ⟨value,held⟩ := Option.isSome_iff_exists.mp present
      rw [held]
      unfold fileHashes at found
      rw [Dict.getD,held,Option.getD_some] at found
      split at found
      · rw [Except.ok.inj found]
      · cases found
    · cases rest

-- It answers, and not with ok what is not well formed.
def Answers (limits : String → Option Exc) (verifiers : Verifiers) (requireSignature verifyWitnessSignatures : Bool) (dir : BundleDir) : Prop :=
  ∃ report, verifyLimited limits verifiers requireSignature verifyWitnessSignatures dir = .ok report ∧ (¬WellFormed dir → report.ok = false)

def listBundle : BundleDir where
  file path := if path = "manifest.json" then .content (.text (dumps compact (.arr []))) else .absent
  listing := ["manifest.json"]

end Hostile

end VeritasOs.BundleVerify
