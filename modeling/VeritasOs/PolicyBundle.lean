import VeritasOs.BindArtifacts
import VeritasOs.Posture

namespace VeritasOs.PolicyBundle
open Text JsonText BindArtifacts Posture

-- A byte string: the text it is the UTF-8 encoding of, or bytes that are none.
inductive Bytes where
  | text (s : String)
  | raw (bytes : List UInt8)
deriving DecidableEq

-- A path that does not exist, one whose reads raise OSError, or a file.
inductive File where
  | absent
  | unreadable (error : String)
  | content (bytes : Bytes)
deriving DecidableEq

def File.exists_ : File → Bool
  | .absent => false
  | _ => true

def osError (text : String) : Exc := ⟨.osError,text⟩
def attributeError (text : String) : Exc := ⟨.attributeError,text⟩
def keyError (text : String) : Exc := ⟨.keyError,text⟩

def File.readBytes : File → Except Exc Bytes
  | .absent => .error (osError "No such file or directory")
  | .unreadable error => .error (osError error)
  | .content bytes => .ok bytes

def decodeUtf8 : Bytes → Except Exc String
  | .text s => .ok s
  | .raw _ => .error (valueError "'utf-8' codec can't decode bytes")

-- read_text also translates line ends.
def File.readText (file : File) : Except Exc String := do
  let bytes ← file.readBytes
  let s ← decodeUtf8 bytes
  return String.ofList (newlines s.toList)

abbrev Files := String → File

def jsonLoads (text : String) : Except Exc Value :=
  match loads text with
  | some json => .ok (fromJson json)
  | none => .error (valueError "Expecting value")

def typeName : Value → String
  | .none => "NoneType"
  | .bool _ => "bool"
  | .int _ => "int"
  | .float _ => "float"
  | .str _ => "str"
  | .list _ => "list"
  | .tuple _ => "tuple"
  | .dict _ => "dict"
  | .object _ _ => "object"

def readJsonFile (path : String) (file : File) : Except Exc Dict :=
  match file.readText with
  | .error error => .error (valueError ("failed to read policy bundle file " ++ path ++ ": " ++ error.text))
  | .ok raw =>
    match jsonLoads raw with
    | .error error => .error (valueError ("invalid JSON in policy bundle file " ++ path ++ ": " ++ error.text))
    | .ok (.dict members) => .ok members
    | .ok data => .error (valueError ("expected mapping json at " ++ path ++ ", got " ++ typeName data))

inductive Verdict where
  | valid
  | refused
  | raised (error : Exc)
deriving DecidableEq

-- The cryptography package (InvalidSignature, ValueError and TypeError are refusals) and hashlib.
structure Crypto where
  hasCrypto : Bool
  check : Bytes → String → Bytes → Verdict
  sha256 : Bytes → String

def verifyManifestEd25519 (crypto : Crypto) (manifestBytes : Bytes) (signature : String) (publicKey : Bytes) : Except Exc Bool :=
  if !crypto.hasCrypto then .ok false
  else
    match crypto.check manifestBytes signature publicKey with
    | .valid => .ok true
    | .refused => .ok false
    | .raised error => .error error

structure Setting where
  crypto : Crypto
  env : Env
  keyFile : String → File

def isStrict (setting : Setting) : Bool := (resolvePosture setting.env).isStrict

-- The argument, else the file VERITAS_POLICY_VERIFY_KEY points to; one that cannot be read is no key.
def resolvePublicKey (setting : Setting) (publicKeyPem : Option Bytes) : Option Bytes :=
  match publicKeyPem with
  | some key => some key
  | none =>
    match setting.env "VERITAS_POLICY_VERIFY_KEY" with
    | none => none
    | some path => if path = "" then none else (setting.keyFile path).readBytes.toOption

def requireEd25519 (setting : Setting) : Bool :=
  ["1","true","yes"].contains (lower (strip ((setting.env "VERITAS_POLICY_REQUIRE_ED25519").getD "")))

def declaredAlgorithm (manifest : Value) : Except Exc Value :=
  match manifest with
  | .dict members =>
    match Dict.getD members "signing" (.dict []) with
    | .dict signing => .ok (Dict.getD signing "algorithm" (.str "sha256"))
    | other => .error (attributeError (typeName other ++ " object has no attribute 'get'"))
  | other => .error (attributeError (typeName other ++ " object has no attribute 'get'"))

-- hmac.compare_digest on texts; what is not ASCII raises.
def compareDigest (expected observed : String) : Except Exc Bool :=
  if observed.toList.all fun c => decide (c.toNat < 128) then .ok (decide (expected = observed))
  else .error (typeError "comparing strings with non-ASCII characters is not supported")

-- A manifest that does not parse is taken for a sha256 one.
def signingAlgorithm (manifestBytes : Bytes) : Except Exc Value :=
  match decodeUtf8 manifestBytes >>= jsonLoads with
  | .error _ => .ok (.str "sha256")
  | .ok data => declaredAlgorithm data

def missingPublicKey : Exc :=
  valueError ("manifest requires Ed25519 verification but no public key is " ++
    "available; set VERITAS_POLICY_VERIFY_KEY or provide public_key_pem")

def verifyManifestSignature (setting : Setting) (files : Files) (publicKeyPem : Option Bytes) : Except Exc Bool :=
  if !(files "manifest.json").exists_ || !(files "manifest.sig").exists_ then .ok false
  else
    match (files "manifest.json").readBytes with
    | .error _ => .ok false
    | .ok manifestBytes =>
      match (files "manifest.sig").readText with
      | .error error => if error.kind = .osError then .ok false else .error error
      | .ok signature => do
        let sigText := strip signature
        let algorithm ← signingAlgorithm manifestBytes
        match resolvePublicKey setting publicKeyPem with
        | some key =>
          if algorithm = .str "ed25519" then verifyManifestEd25519 setting.crypto manifestBytes sigText key
          else compareDigest (setting.crypto.sha256 manifestBytes) sigText
        | none =>
          if algorithm = .str "ed25519" ∧ requireEd25519 setting = true then .error missingPublicKey
          else compareDigest (setting.crypto.sha256 manifestBytes) sigText

structure RuntimePolicy where
  policyId : Value
  version : Value
  title : Value
  description : Value
  effectiveDate : Value
  domains : List Value
  routes : List Value
  actors : List Value
  conditions : List Dict
  constraints : List Dict
  requirements : Dict
  outcome : Dict
  obligations : List Value
  testVectors : List Dict
  metadata : Dict
  sourceRefs : List Value

structure RuntimePolicyBundle where
  schemaVersion : String
  policyId : Value
  version : Value
  semanticHash : String
  compilerVersion : String
  compiledAt : String
  runtimePolicies : List RuntimePolicy
  manifest : Dict

def subscript (value : Value) (name : String) : Except Exc Value :=
  match value with
  | .dict members =>
    match lookup (.str name) members with
    | some found => .ok found
    | none => .error (keyError (quoteStr name))
  | .list _ | .tuple _ | .str _ => .error (typeError "indices must be integers or slices, not str")
  | other => .error (typeError (typeName other ++ " object is not subscriptable"))

def keyValue : Key → Value
  | .str s => .str s
  | .int n => .int n
  | .bool b => .bool b
  | .float x => .float x
  | .none => .none
  | .other text => .object text true

def listFrom : Value → Except Exc (List Value)
  | .list items | .tuple items => .ok items
  | .str s => .ok (s.toList.map fun c => .str (String.ofList [c]))
  | .dict members => .ok (members.map fun member => keyValue member.1)
  | other => .error (typeError (typeName other ++ " object is not iterable"))

def dictFrom (value : Value) : Except Exc Dict :=
  match value with
  | .dict members => .ok members
  | other => do
    let items ← listFrom other
    match items.mapM pairOf with
    | some pairs => .ok (Dict.update [] pairs)
    | none => .error (valueError "dictionary update sequence element is not a pair")

def dictsFrom (value : Value) : Except Exc (List Dict) := do
  let items ← listFrom value
  items.mapM dictFrom

def adaptFields (canonicalIr : Dict) : Except Exc RuntimePolicy := do
  let ir := Value.dict canonicalIr
  let policyId ← subscript ir "policy_id"
  let version ← subscript ir "version"
  let title ← subscript ir "title"
  let description ← subscript ir "description"
  let domains ← subscript ir "scope" >>= (subscript · "domains") >>= listFrom
  let routes ← subscript ir "scope" >>= (subscript · "routes") >>= listFrom
  let actors ← subscript ir "scope" >>= (subscript · "actors") >>= listFrom
  let conditions ← subscript ir "conditions" >>= dictsFrom
  let constraints ← subscript ir "constraints" >>= dictsFrom
  let requirements ← subscript ir "requirements" >>= dictFrom
  let outcome ← subscript ir "outcome" >>= dictFrom
  let obligations ← subscript ir "obligations" >>= listFrom
  let testVectors ← subscript ir "test_vectors" >>= dictsFrom
  let metadata ← dictFrom (canonicalIr.getD "metadata" (.dict []))
  let sourceRefs ← listFrom (canonicalIr.getD "source_refs" (.list []))
  return { policyId,version,title,description,effectiveDate := canonicalIr.get "effective_date",domains,routes,actors,conditions,
           constraints,requirements,outcome,obligations,testVectors,metadata,sourceRefs }

def adaptCanonicalIr (canonicalIr : Dict) : Except Exc RuntimePolicy :=
  (adaptFields canonicalIr).mapError fun error =>
    match error.kind with
    | .keyError => valueError ("canonical IR missing required key " ++ error.text)
    | .typeError | .attributeError => valueError ("canonical IR structure invalid: " ++ error.text)
    | _ => error

def canonicalIrPath : String := "compiled/canonical_ir.json"

def unsignedBundle (directory : String) : Exc :=
  valueError ("bundle " ++ directory ++ " is missing manifest.sig; unsigned governance " ++
    "artifacts are rejected in secure/prod posture.")

def unauthenticBundle (directory : String) (algorithm : Value) : Exc :=
  valueError ("bundle " ++ directory ++ " uses " ++ algorithm.text ++ " signing which " ++
    "does not provide authenticity verification; rejected in " ++ "secure/prod posture. Sign bundles with Ed25519 for production.")

def checkSignature (setting : Setting) (directory : String) (files : Files) (publicKeyPem : Option Bytes) : Except Exc Unit :=
  if !(files "manifest.sig").exists_ then
    if isStrict setting then .error (unsignedBundle directory) else .ok ()
  else do
    if ← verifyManifestSignature setting files publicKeyPem then .ok ()
    else .error (valueError "manifest signature verification failed")

def checkAlgorithm (setting : Setting) (directory : String) (algorithm : Value) : Except Exc Unit :=
  if algorithm ≠ .str "ed25519" ∧ isStrict setting = true then .error (unauthenticBundle directory algorithm) else .ok ()

def loadRuntimeBundle (setting : Setting) (directory : String) (files : Files) (publicKeyPem : Option Bytes) :
    Except Exc RuntimePolicyBundle := do
  let manifest ← readJsonFile (directory ++ "/manifest.json") (files "manifest.json")
  let algorithm ← declaredAlgorithm (.dict manifest)
  checkSignature setting directory files publicKeyPem
  checkAlgorithm setting directory algorithm
  let canonicalIr ← readJsonFile (directory ++ "/" ++ canonicalIrPath) (files canonicalIrPath)
  let policy ← adaptCanonicalIr canonicalIr
  return {
    schemaVersion := (manifest.getD "schema_version" (.str "0.1")).text
    policyId := policy.policyId
    version := policy.version
    semanticHash := (manifest.getD "semantic_hash" (.str "")).text
    compilerVersion := (manifest.getD "compiler_version" (.str "")).text
    compiledAt := (manifest.getD "compiled_at" (.str "")).text
    runtimePolicies := [policy]
    manifest := manifest
  }

variable {setting : Setting} {directory : String} {files : Files} {publicKeyPem : Option Bytes}

theorem readText_ok {file : File} {text : String} (read : file.readText = .ok text) :
    ∃ s, file = .content (.text s) ∧ text = String.ofList (newlines s.toList) := by
  cases file with
  | absent => cases read
  | unreadable error => cases read
  | content bytes =>
    cases bytes with
    | raw bytes => cases read
    | text s => exact ⟨s,rfl,(Except.ok.inj read).symm⟩

theorem readJsonFile_ok {path : String} {file : File} {members : Dict} (read : readJsonFile path file = .ok members) :
    ∃ s, file = .content (.text s) ∧ jsonLoads s = .ok (.dict members) := by
  unfold readJsonFile at read
  cases given : file.readText with
  | error error => simp [given] at read
  | ok raw =>
    obtain ⟨s,rfl,rfl⟩ := readText_ok given
    simp only [given,jsonLoads,loads_newlines] at read
    refine ⟨s,rfl,?_⟩
    rw [jsonLoads]
    cases parsed : loads s with
    | none => simp [parsed] at read
    | some json =>
      simp only [parsed] at read ⊢
      split at read
      · cases read
      · rename_i same
        cases read
        exact same
      · cases read

theorem readJsonFile_dumps (path : String) (layout : Layout) (members : List (String × Json)) :
    readJsonFile path (.content (.text (dumps layout (.obj members)))) = .ok (Dict.update [] (fromMembers members)) := by
  have read : (File.content (.text (dumps layout (.obj members)))).readText =
      .ok (String.ofList (newlines (dumps layout (.obj members)).toList)) := rfl
  simp only [readJsonFile,read,jsonLoads,loads_newlines,loads_dumps,fromJson]

theorem signingAlgorithm_text (parsed : jsonLoads s = .ok (.dict members)) :
    signingAlgorithm (.text s) = declaredAlgorithm (.dict members) := by
  simp [signingAlgorithm,decodeUtf8,parsed,bind,Except.bind]

-- The parts of the directory that a successful load has read.
structure Loaded (setting : Setting) (directory : String) (files : Files) (publicKeyPem : Option Bytes) (bundle : RuntimePolicyBundle)
    (manifest canonicalIr : Dict) (policy : RuntimePolicy) (algorithm : Value) : Prop where
  manifestRead : readJsonFile (directory ++ "/manifest.json") (files "manifest.json") = .ok manifest
  declared : declaredAlgorithm (.dict manifest) = .ok algorithm
  signed : checkSignature setting directory files publicKeyPem = .ok ()
  permitted : checkAlgorithm setting directory algorithm = .ok ()
  irRead : readJsonFile (directory ++ "/" ++ canonicalIrPath) (files canonicalIrPath) = .ok canonicalIr
  adapted : adaptCanonicalIr canonicalIr = .ok policy
  policies : bundle.runtimePolicies = [policy]
  manifestKept : bundle.manifest = manifest

variable {bundle : RuntimePolicyBundle} {algorithm : Value}

theorem load_ok (loaded : loadRuntimeBundle setting directory files publicKeyPem = .ok bundle) : ∃ manifest canonicalIr policy algorithm,
      Loaded setting directory files publicKeyPem bundle manifest canonicalIr policy algorithm := by
  obtain ⟨manifest,manifestRead,afterManifest⟩ := bind_ok.mp loaded
  obtain ⟨algorithm,declared,afterAlgorithm⟩ := bind_ok.mp afterManifest
  obtain ⟨⟨⟩,signed,afterSignature⟩ := bind_ok.mp afterAlgorithm
  obtain ⟨⟨⟩,permitted,afterCheck⟩ := bind_ok.mp afterSignature
  obtain ⟨canonicalIr,irRead,afterIr⟩ := bind_ok.mp afterCheck
  obtain ⟨policy,adapted,last⟩ := bind_ok.mp afterIr
  cases last
  exact ⟨manifest,canonicalIr,policy,algorithm,manifestRead,declared,signed,permitted,irRead,adapted,rfl,rfl⟩

theorem load_of_parts (manifestRead : readJsonFile (directory ++ "/manifest.json") (files "manifest.json") = .ok manifest)
    (declared : declaredAlgorithm (.dict manifest) = .ok algorithm) (signed : checkSignature setting directory files publicKeyPem = .ok ())
    (permitted : checkAlgorithm setting directory algorithm = .ok ())
    (irRead : readJsonFile (directory ++ "/" ++ canonicalIrPath) (files canonicalIrPath) = .ok canonicalIr)
    (adapted : adaptCanonicalIr canonicalIr = .ok policy) :
    ∃ bundle, loadRuntimeBundle setting directory files publicKeyPem = .ok bundle := by
  simp only [loadRuntimeBundle,manifestRead,declared,signed,permitted,irRead,adapted,bind,Except.bind]
  exact ⟨_,rfl⟩

-- The manifest bytes and the signature text that a verification works on.
structure SignatureInput (files : Files) (manifestBytes : Bytes) (sigText : String) : Prop where
  manifest : files "manifest.json" = .content manifestBytes
  signature : ∃ text, (files "manifest.sig").readText = .ok text ∧ sigText = strip text

theorem verify_eq {manifestBytes : Bytes} {sigText : String} (input : SignatureInput files manifestBytes sigText)
    (declared : signingAlgorithm manifestBytes = .ok algorithm) : verifyManifestSignature setting files publicKeyPem =
      match resolvePublicKey setting publicKeyPem with
      | some key =>
        if algorithm = .str "ed25519" then verifyManifestEd25519 setting.crypto manifestBytes sigText key
        else compareDigest (setting.crypto.sha256 manifestBytes) sigText
      | none =>
        if algorithm = .str "ed25519" ∧ requireEd25519 setting = true then .error missingPublicKey
        else compareDigest (setting.crypto.sha256 manifestBytes) sigText := by
  obtain ⟨text,read,rfl⟩ := input.signature
  obtain ⟨s,present,_⟩ := readText_ok read
  have both : (!(files "manifest.json").exists_ || !(files "manifest.sig").exists_) = false := by
    simp [input.manifest,present,File.exists_]
  have manifestRead : (files "manifest.json").readBytes = .ok manifestBytes := by rw [input.manifest]; rfl
  simp only [verifyManifestSignature,both,Bool.false_eq_true,if_false,manifestRead,read,declared,bind,Except.bind]

theorem verified_input (verified : verifyManifestSignature setting files publicKeyPem = .ok true) :
    ∃ manifestBytes sigText, SignatureInput files manifestBytes sigText := by
  unfold verifyManifestSignature at verified
  split at verified
  · cases verified
  · cases manifestRead : (files "manifest.json").readBytes with
    | error error => simp [manifestRead] at verified
    | ok manifestBytes =>
      simp only [manifestRead] at verified
      cases read : (files "manifest.sig").readText with
      | error error =>
        simp only [read] at verified
        split at verified <;> cases verified
      | ok text =>
        refine ⟨manifestBytes,strip text,?_,text,read,rfl⟩
        cases file : files "manifest.json" with
        | absent => simp [file,File.readBytes] at manifestRead
        | unreadable error => simp [file,File.readBytes] at manifestRead
        | content bytes =>
          simp only [file,File.readBytes,Except.ok.injEq] at manifestRead
          rw [manifestRead]

theorem signed_verified (strict : isStrict setting = true) (signed : checkSignature setting directory files publicKeyPem = .ok ()) :
    verifyManifestSignature setting files publicKeyPem = .ok true := by
  unfold checkSignature at signed
  split at signed
  · simp at signed
  · obtain ⟨verdict,verified,later⟩ := bind_ok.mp signed
    cases verdict with
    | true => exact verified
    | false => cases later

def Ed25519Verified (setting : Setting) (files : Files) (publicKeyPem : Option Bytes) : Prop :=
  ∃ manifestBytes sigText key, SignatureInput files manifestBytes sigText ∧ resolvePublicKey setting publicKeyPem = some key ∧
    verifyManifestEd25519 setting.crypto manifestBytes sigText key = .ok true

def StrictMeansEd25519 (setting : Setting) (directory : String) (files : Files) (publicKeyPem : Option Bytes) : Prop :=
  isStrict setting = true → ∀ bundle, loadRuntimeBundle setting directory files publicKeyPem = .ok bundle →
    Ed25519Verified setting files publicKeyPem

-- manifest.sig is the SHA-256 digest of the manifest, which anybody can compute.
def HashSigned (crypto : Crypto) (files : Files) : Prop :=
  ∃ manifestBytes sigText, SignatureInput files manifestBytes sigText ∧ compareDigest (crypto.sha256 manifestBytes) sigText = .ok true

structure WellFormed (directory : String) (files : Files) : Prop where
  declares : ∃ manifest, readJsonFile (directory ++ "/manifest.json") (files "manifest.json") = .ok manifest ∧
    declaredAlgorithm (.dict manifest) = .ok (.str "ed25519")
  adapts : ∃ canonicalIr policy, readJsonFile (directory ++ "/" ++ canonicalIrPath) (files canonicalIrPath) = .ok canonicalIr ∧
    adaptCanonicalIr canonicalIr = .ok policy

theorem loaded_ed25519 (strict : isStrict setting = true)
    (loaded : Loaded setting directory files publicKeyPem bundle manifest canonicalIr policy algorithm) : algorithm = .str "ed25519" := by
  have permitted := loaded.permitted
  unfold checkAlgorithm at permitted
  by_contra other
  rw [if_pos ⟨other,strict⟩] at permitted
  cases permitted

-- What a load in strict posture has verified: the Ed25519 signature, or without a key only the digest.
theorem strict_loaded (strict : isStrict setting = true) (loaded : loadRuntimeBundle setting directory files publicKeyPem = .ok bundle) :
    WellFormed directory files ∧ (Ed25519Verified setting files publicKeyPem ∨
      (resolvePublicKey setting publicKeyPem = none ∧ requireEd25519 setting = false ∧ HashSigned setting.crypto files)) := by
  obtain ⟨manifest,canonicalIr,policy,algorithm,parts⟩ := load_ok loaded
  obtain rfl := loaded_ed25519 strict parts
  refine ⟨⟨⟨manifest,parts.manifestRead,parts.declared⟩,canonicalIr,policy,parts.irRead,parts.adapted⟩,?_⟩
  have verified := signed_verified strict parts.signed
  obtain ⟨manifestBytes,sigText,input⟩ := verified_input verified
  obtain ⟨s,file,parsed⟩ := readJsonFile_ok parts.manifestRead
  obtain rfl : manifestBytes = .text s := File.content.inj (input.manifest.symm.trans file)
  have declared := (signingAlgorithm_text parsed).trans parts.declared
  rw [verify_eq input declared] at verified
  cases key : resolvePublicKey setting publicKeyPem with
  | some found =>
    simp only [key,if_true] at verified
    exact .inl ⟨_,sigText,found,input,key,verified⟩
  | none =>
    simp only [key,true_and] at verified
    split at verified
    · cases verified
    · rename_i optional
      exact .inr ⟨rfl,by simpa using optional,_,sigText,input,verified⟩

theorem fallback_loads (keyless : resolvePublicKey setting publicKeyPem = none) (optional : requireEd25519 setting = false)
    (hashed : HashSigned setting.crypto files) (formed : WellFormed directory files) :
    ∃ bundle, loadRuntimeBundle setting directory files publicKeyPem = .ok bundle := by
  obtain ⟨manifestBytes,sigText,input,same⟩ := hashed
  obtain ⟨manifest,manifestRead,declared⟩ := formed.declares
  obtain ⟨canonicalIr,policy,irRead,adapted⟩ := formed.adapts
  obtain ⟨s,file,parsed⟩ := readJsonFile_ok manifestRead
  obtain rfl : manifestBytes = .text s := File.content.inj (input.manifest.symm.trans file)
  have verified : verifyManifestSignature setting files publicKeyPem = .ok true := by
    rw [verify_eq input ((signingAlgorithm_text parsed).trans declared)]
    simp [keyless,optional,same]
  have present : (files "manifest.sig").exists_ = true := by
    obtain ⟨text,read,_⟩ := input.signature
    obtain ⟨s,present,_⟩ := readText_ok read
    simp [present,File.exists_]
  refine load_of_parts manifestRead declared ?_ ?_ irRead adapted
  · simp [checkSignature,present,verified,bind,Except.bind]
  · simp [checkAlgorithm]

theorem strict_means_ed25519_exact (setting : Setting) (directory : String) (files : Files) (publicKeyPem : Option Bytes) :
    StrictMeansEd25519 setting directory files publicKeyPem ↔
      (isStrict setting = true → (resolvePublicKey setting publicKeyPem).isSome = true ∨ requireEd25519 setting = true ∨
        ¬HashSigned setting.crypto files ∨ ¬WellFormed directory files) := by
  constructor
  · intro holds strict
    by_contra none_
    simp only [not_or,Bool.not_eq_true,Option.isSome_eq_false_iff,Option.isNone_iff_eq_none] at none_
    obtain ⟨keyless,optional,hashed,formed⟩ := none_
    obtain ⟨bundle,loaded⟩ := fallback_loads keyless optional (not_not.mp hashed) (not_not.mp formed)
    obtain ⟨_,_,key,_,found,_⟩ := holds strict bundle loaded
    cases keyless.symm.trans found
  · intro condition strict bundle loaded
    obtain ⟨formed,verified | ⟨keyless,optional,hashed⟩⟩ := strict_loaded strict loaded
    · exact verified
    · rcases condition strict with key | required | unhashed | malformed
      · simp [keyless] at key
      · simp [optional] at required
      · exact absurd hashed unhashed
      · exact absurd formed malformed

-- A production process without a key, and a bundle whose manifest names Ed25519 and whose
-- manifest.sig is nothing but the manifest's SHA-256 digest.
def forgedManifest : Json := .obj [("signing",.obj [("algorithm",.str "ed25519")])]

def forgedDigest : String := "a1ee056c71d42108f5441eeeff7e5e850911a7ef8d5dbf6682c300d5e041834f"

def prodSetting : Setting where
  crypto := ⟨true,fun _ _ _ => .refused,fun _ => forgedDigest⟩
  env name := if name = "VERITAS_POSTURE" then some "prod" else none
  keyFile _ := .absent

def openPolicy : Json :=
  .obj [("policy_id",.str "policy.open"),("version",.str "1"),("title",.str "open"),("description",.str "open"),
    ("scope",.obj [("domains",.arr []),("routes",.arr []),("actors",.arr [])]),("conditions",.arr []),("constraints",.arr []),
    ("requirements",.obj []),("outcome",.obj [("decision",.str "allow")]),("obligations",.arr []),("test_vectors",.arr [])]

def forgedFiles : Files := fun path =>
  if path = "manifest.json" then .content (.text (dumps compact forgedManifest))
  else if path = "manifest.sig" then .content (.text forgedDigest)
  else if path = canonicalIrPath then .content (.text (dumps compact openPolicy))
  else .absent

theorem forgedFiles_formed : WellFormed "bundle" forgedFiles :=
  ⟨⟨_,readJsonFile_dumps _ compact _,rfl⟩,_,_,readJsonFile_dumps _ compact _,rfl⟩

theorem forgedFiles_hashed : HashSigned prodSetting.crypto forgedFiles := by
  refine ⟨.text (dumps compact forgedManifest),forgedDigest,⟨rfl,forgedDigest,?_,?_⟩,?_⟩
  · decide +kernel
  · decide +kernel
  · decide +kernel

theorem forged_strict_load : ¬StrictMeansEd25519 prodSetting "bundle" forgedFiles none := by
  intro holds
  obtain ⟨bundle,loaded⟩ := fallback_loads (show resolvePublicKey prodSetting none = none from rfl)
    (show requireEd25519 prodSetting = false by decide +kernel) forgedFiles_hashed forgedFiles_formed
  obtain ⟨_,_,key,_,found,_⟩ := holds (by decide +kernel) bundle loaded
  cases found

end VeritasOs.PolicyBundle
