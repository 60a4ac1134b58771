import VeritasOs.JsonReread
import VeritasOs.PolicyBundle

namespace VeritasOs.PolicyCompiler
open Text JsonText BindArtifacts PolicyBundle

def encodingError : Exc := typeError "Object is not JSON serializable"

def stableJsonDumps (payload : Value) : Except Exc String :=
  match toJson true payload with
  | some json => .ok (dumps (indented 2) json ++ "\n")
  | none => .error encodingError

def canonicalIrJson (canonicalIr : Dict) : Except Exc String :=
  match canonicalJsonDumps (.dict canonicalIr) with
  | some text => .ok text
  | none => .error encodingError

def semanticPolicyHash (sha256 : Bytes → String) (canonicalIr : Dict) : Except Exc String :=
  if !canonicalIr.has "policy_id" then .error (valueError "canonical_ir missing required key 'policy_id'")
  else do
    let payload ← canonicalIrJson canonicalIr
    .ok (sha256 (.text payload))

def Bytes.size : Bytes → Nat
  | .text s => s.utf8ByteSize
  | .raw bytes => bytes.length

structure BundleFile where
  path : String
  sha256 : String
  size : Nat

def BundleFile.toDict (file : BundleFile) : Dict :=
  [(.str "path",.str file.path),(.str "sha256",.str file.sha256),(.str "size",.int file.size)]

def endsWith (tail s : String) : Bool := tail.toList.isSuffixOf s.toList

-- The regular files below the directory, by their relative paths.
def collectBundleFiles (sha256 : Bytes → String) (listing : List (String × Bytes)) : List BundleFile :=
  (listing.filter fun file => !endsWith ".tar.gz" file.1).map fun file => ⟨file.1,sha256 file.2,Bytes.size file.2⟩

def lenOf : Value → Except Exc Int
  | .list items | .tuple items => .ok items.length
  | .dict members => .ok (List.length members)
  | .str s => .ok s.length
  | other => .error (typeError ("object of type " ++ quoteStr (typeName other) ++ " has no len()"))

def outcomeSummary (canonicalIr : Dict) : Except Exc Dict := do
  let ir := Value.dict canonicalIr
  let decision ← subscript ir "outcome" >>= (subscript · "decision")
  let reason ← subscript ir "outcome" >>= (subscript · "reason")
  let obligations ← subscript ir "obligations" >>= lenOf
  let conditions ← subscript ir "conditions" >>= lenOf
  let constraints ← subscript ir "constraints" >>= lenOf
  .ok [(.str "decision",decision),(.str "reason",reason),(.str "obligation_count",.int obligations),
    (.str "condition_count",.int conditions),(.str "constraint_count",.int constraints)]

def signingSection (signingAlgorithm : String) : Dict :=
  let signed := signingAlgorithm = "ed25519"
  [(.str "status",.str (if signed then "signed-ed25519" else "signed-local")),(.str "algorithm",.str signingAlgorithm),
   (.str "signature_ref",.str "manifest.sig"),(.str "key_id",.str (if signed then "ed25519" else "local-sha256")),(.str "extensions",.dict [])]

def sortedFiles (files : List BundleFile) : List BundleFile := files.insertionSort fun a b => textLe a.path b.path = true

structure ManifestInput where
  semanticHash : String
  compilerVersion : String
  compiledAt : String
  sourceFiles : List String
  bundleFiles : List BundleFile
  signingAlgorithm : String

def buildManifest (canonicalIr : Dict) (input : ManifestInput) : Except Exc Dict := do
  let ir := Value.dict canonicalIr
  let policyId ← subscript ir "policy_id"
  let version ← subscript ir "version"
  let effectiveDate ← subscript ir "effective_date"
  let sourceRefs ← subscript ir "source_refs"
  let summary ← outcomeSummary canonicalIr
  .ok [(.str "schema_version",.str "0.1"),(.str "policy_id",policyId),(.str "version",version),(.str "semantic_hash",.str input.semanticHash),
    (.str "compiler_version",.str input.compilerVersion),(.str "compiled_at",.str input.compiledAt),(.str "effective_date",effectiveDate),
    (.str "source_files",strList (input.sourceFiles.insertionSort fun a b => textLe a b = true)),(.str "source_refs",sourceRefs),
    (.str "outcome_summary",.dict summary),
    (.str "bundle_contents",.list ((sortedFiles input.bundleFiles).map fun file => .dict file.toDict)),
    (.str "signing",.dict (signingSection input.signingAlgorithm))]

-- A run of the compiler, with a signing key or without. The other files are what lies in the directory
-- besides the canonical IR when its files are collected: the explanation, the marker, and leftovers.
structure Compilation where
  canonicalIr : Dict
  compilerVersion : String
  compiledAt : String
  source : String
  useEd25519 : Bool
  others : List (String × Bytes)
  apart : ∀ file ∈ others, file.1 ≠ canonicalIrPath

structure Emitted where
  canonicalIr : String
  manifest : String

def compilePolicyToBundle (sha256 : Bytes → String) (run : Compilation) : Except Exc Emitted := do
  let semanticHash ← semanticPolicyHash sha256 run.canonicalIr
  let canonicalIr ← stableJsonDumps (.dict run.canonicalIr)
  let listing := (canonicalIrPath,Bytes.text canonicalIr) :: run.others
  let manifest ← buildManifest run.canonicalIr
    ⟨semanticHash,run.compilerVersion,run.compiledAt,[run.source],collectBundleFiles sha256 listing,if run.useEd25519 then "ed25519" else "sha256"⟩
  let manifest ← stableJsonDumps (.dict manifest)
  .ok ⟨canonicalIr,manifest⟩

def Lists (manifest : Dict) (digest : String) : Prop :=
  ∃ items entry, manifest.get "bundle_contents" = .list items ∧ .dict entry ∈ items ∧
    Dict.get entry "path" = .str canonicalIrPath ∧ Dict.get entry "sha256" = .str digest

-- The policies are adapted from an IR with the manifest's semantic hash, read from the file that
-- the manifest lists.
def LoadedIsSigned (sha256 : Bytes → String) (directory : String) (files : Files) (bundle : RuntimePolicyBundle) : Prop :=
  ∃ bytes canonicalIr policy, files canonicalIrPath = .content bytes ∧
    readJsonFile (directory ++ "/" ++ canonicalIrPath) (files canonicalIrPath) = .ok canonicalIr ∧
    adaptCanonicalIr canonicalIr = .ok policy ∧ bundle.runtimePolicies = [policy] ∧
    (∃ digest, semanticPolicyHash sha256 canonicalIr = .ok digest ∧ bundle.manifest.get "semantic_hash" = .str digest) ∧
    Lists bundle.manifest (sha256 bytes)

theorem stableJsonDumps_ok (written : stableJsonDumps (.dict payload) = .ok text) :
    ∃ json, toJson true (.dict payload) = some (.obj json) ∧ jsonLoads text = .ok (.dict (Dict.update [] (fromMembers json))) := by
  unfold stableJsonDumps at written
  cases made : toJson true (.dict payload) with
  | none =>
    rw [made] at written
    cases written
  | some json =>
    rw [made] at written
    cases written
    obtain ⟨members,rfl⟩ := toJson_dict_obj made
    exact ⟨members,rfl,by rw [jsonLoads,loads_dumps_line]; rfl⟩

theorem readJsonFile_text (parsed : jsonLoads s = .ok (.dict members)) : readJsonFile path (.content (.text s)) = .ok members := by
  have read : (File.content (.text s)).readText = .ok (String.ofList (newlines s.toList)) := rfl
  have same : jsonLoads (String.ofList (newlines s.toList)) = jsonLoads s := by rw [jsonLoads,loads_newlines,jsonLoads]
  simp only [readJsonFile,read,same,parsed]

variable {json : List (String × Json)} {canonicalIr manifest : Dict} {input : ManifestInput} {sha256 : Bytes → String} {digest : String}

theorem reread_text (record : Record payload) (written : toJson true (.dict payload) = some (.obj json))
    (held : lookup (.str name) payload = some (.str s)) : Dict.get (Dict.update [] (fromMembers json)) name = .str s := by
  obtain ⟨part,made,found⟩ := reread_field record written held
  cases made
  rw [Dict.get,found]
  rfl

structure Built (input : ManifestInput) (manifest : Dict) : Prop where
  record : Record manifest
  hash : lookup (.str "semantic_hash") manifest = some (.str input.semanticHash)
  contents : lookup (.str "bundle_contents") manifest = some (.list ((sortedFiles input.bundleFiles).map fun file => .dict file.toDict))
  signing : lookup (.str "signing") manifest = some (.dict (signingSection input.signingAlgorithm))

theorem buildManifest_ok (built : buildManifest canonicalIr input = .ok manifest) : Built input manifest := by
  obtain ⟨policyId,_,built⟩ := bind_ok.mp built
  obtain ⟨version,_,built⟩ := bind_ok.mp built
  obtain ⟨effectiveDate,_,built⟩ := bind_ok.mp built
  obtain ⟨sourceRefs,_,built⟩ := bind_ok.mp built
  obtain ⟨summary,_,built⟩ := bind_ok.mp built
  cases built
  refine ⟨⟨?_,?_⟩,rfl,rfl,rfl⟩
  · simp [StrKeys]
  · simp only [List.map_cons,List.map_nil]
    decide

theorem signingSection_record (algorithm : String) : Record (signingSection algorithm) := by
  refine ⟨?_,?_⟩
  · simp [StrKeys,signingSection]
  · simp only [signingSection,List.map_cons,List.map_nil]
    decide

theorem declared_reread (built : Built input manifest) (written : toJson true (.dict manifest) = some (.obj json)) :
    declaredAlgorithm (.dict (Dict.update [] (fromMembers json))) = .ok (.str input.signingAlgorithm) := by
  obtain ⟨part,made,found⟩ := reread_field built.record written built.signing
  obtain ⟨members,rfl⟩ := toJson_dict_obj made
  obtain ⟨_,encoded,algorithm⟩ := reread_field (signingSection_record input.signingAlgorithm) made
    (show lookup (.str "algorithm") _ = some (.str input.signingAlgorithm) from rfl)
  cases encoded
  simp [declaredAlgorithm,Dict.getD,found,algorithm,fromJson]

theorem toDict_record (file : BundleFile) : Record file.toDict := by
  refine ⟨?_,?_⟩
  · simp [StrKeys,BundleFile.toDict]
  · simp only [BundleFile.toDict,List.map_cons,List.map_nil]
    decide

theorem lists_exact (built : Built input manifest) (written : toJson true (.dict manifest) = some (.obj json)) (digest : String) :
    Lists (Dict.update [] (fromMembers json)) digest ↔ ∃ file ∈ input.bundleFiles, file.path = canonicalIrPath ∧ file.sha256 = digest := by
  obtain ⟨part,made,found⟩ := reread_field built.record written built.contents
  obtain ⟨parts,items,rfl⟩ := Option.map_eq_some_iff.mp made
  have contents : Dict.get (Dict.update [] (fromMembers json)) "bundle_contents" = .list (fromItems parts) := by
    rw [Dict.get,found]
    rfl
  have member (file : BundleFile) : file ∈ sortedFiles input.bundleFiles ↔ file ∈ input.bundleFiles := (List.perm_insertionSort _ _).mem_iff
  constructor
  · rintro ⟨listed,entry,same,there,path,sha⟩
    obtain rfl : fromItems parts = listed := Value.list.inj (contents.symm.trans same)
    obtain ⟨item,source,json,made,read⟩ := (reread_item items (.dict entry)).mp there
    obtain ⟨file,listed,rfl⟩ := List.mem_map.mp source
    obtain ⟨members,rfl⟩ := toJson_dict_obj made
    obtain rfl : entry = Dict.update [] (fromMembers members) := Value.dict.inj read
    rw [reread_text (toDict_record file) made rfl] at path sha
    exact ⟨file,(member file).mp listed,Value.str.inj path,Value.str.inj sha⟩
  · rintro ⟨file,listed,path,sha⟩
    have source : Value.dict file.toDict ∈ (sortedFiles input.bundleFiles).map fun file => .dict file.toDict :=
      List.mem_map.mpr ⟨file,(member file).mpr listed,rfl⟩
    have encoded : (toJson true (.dict file.toDict)).isSome = true := by
      have whole := (itemsJson_isSome true _).mp (by rw [items]; rfl)
      exact whole _ source
    obtain ⟨json,made⟩ := Option.isSome_iff_exists.mp encoded
    obtain ⟨members,rfl⟩ := toJson_dict_obj made
    have there := (reread_item items (fromJson (.obj members))).mpr ⟨_,source,_,made,rfl⟩
    refine ⟨_,_,contents,there,?_,?_⟩
    · rw [reread_text (toDict_record file) made rfl,path]
    · rw [reread_text (toDict_record file) made rfl,sha]

structure Compiles (sha256 : Bytes → String) (run : Compilation) (emitted : Emitted) (semanticHash : String) (input : ManifestInput)
    (manifest : Dict) : Prop where
  hashed : semanticPolicyHash sha256 run.canonicalIr = .ok semanticHash
  irWritten : stableJsonDumps (.dict run.canonicalIr) = .ok emitted.canonicalIr
  inputHash : input.semanticHash = semanticHash
  inputFiles : input.bundleFiles = collectBundleFiles sha256 ((canonicalIrPath,Bytes.text emitted.canonicalIr) :: run.others)
  inputAlgorithm : input.signingAlgorithm = if run.useEd25519 then "ed25519" else "sha256"
  built : Built input manifest
  manifestWritten : stableJsonDumps (.dict manifest) = .ok emitted.manifest

theorem compile_ok (compiled : compilePolicyToBundle sha256 run = .ok emitted) :
    ∃ semanticHash input manifest, Compiles sha256 run emitted semanticHash input manifest := by
  obtain ⟨semanticHash,hashed,compiled⟩ := bind_ok.mp compiled
  obtain ⟨canonicalIr,irWritten,compiled⟩ := bind_ok.mp compiled
  obtain ⟨manifest,built,compiled⟩ := bind_ok.mp compiled
  obtain ⟨text,manifestWritten,compiled⟩ := bind_ok.mp compiled
  cases compiled
  exact ⟨semanticHash,_,manifest,hashed,irWritten,rfl,rfl,rfl,buildManifest_ok built,manifestWritten⟩

theorem collected_exact {run : Compilation} {text : String} :
    (∃ file ∈ collectBundleFiles sha256 ((canonicalIrPath,Bytes.text text) :: run.others), file.path = canonicalIrPath ∧ file.sha256 = digest) ↔
      digest = sha256 (.text text) := by
  constructor
  · rintro ⟨file,listed,path,rfl⟩
    obtain ⟨⟨name,bytes⟩,kept,rfl⟩ := List.mem_map.mp listed
    rcases List.mem_cons.mp (List.mem_of_mem_filter kept) with same | other
    · cases same
      rfl
    · exact absurd path (run.apart _ other)
  · rintro rfl
    have json : endsWith ".tar.gz" canonicalIrPath = false := by decide +kernel
    have kept : (canonicalIrPath,Bytes.text text) ∈ ((canonicalIrPath,Bytes.text text) :: run.others).filter fun file => !endsWith ".tar.gz" file.1 :=
      List.mem_filter.mpr ⟨List.mem_cons_self,by simp [json]⟩
    exact ⟨_,List.mem_map.mpr ⟨_,kept,rfl⟩,rfl,rfl⟩

theorem semanticPolicyHash_ok : semanticPolicyHash sha256 canonicalIr = .ok digest ↔
      canonicalIr.has "policy_id" = true ∧ ∃ text, canonicalJsonDumps (.dict canonicalIr) = some text ∧ sha256 (.text text) = digest := by
  unfold semanticPolicyHash canonicalIrJson
  cases named : canonicalIr.has "policy_id" with
  | false => simp
  | true =>
    cases written : canonicalJsonDumps (.dict canonicalIr) with
    | none => simp [bind,Except.bind]
    | some text => simp [bind,Except.bind]

theorem semanticPolicyHash_exact (injective : Function.Injective sha256)
    (hashed : semanticPolicyHash sha256 left = .ok digest) (named : right.has "policy_id" = true) :
    semanticPolicyHash sha256 right = .ok digest ↔ toJson true (.dict right) = toJson true (.dict left) := by
  obtain ⟨_,text,written,rfl⟩ := semanticPolicyHash_ok.mp hashed
  constructor
  · intro again
    obtain ⟨_,other,rewritten,same⟩ := semanticPolicyHash_ok.mp again
    obtain rfl : other = text := Bytes.text.inj (injective same)
    exact canonical_exact rewritten written
  · intro same
    have rewritten : canonicalJsonDumps (.dict right) = some text := by
      rw [canonicalJsonDumps,same]
      exact written
    exact semanticPolicyHash_ok.mpr ⟨named,text,rewritten,rfl⟩

theorem adapted_named (adapted : adaptCanonicalIr canonicalIr = .ok policy) : canonicalIr.has "policy_id" = true := by
  unfold adaptCanonicalIr at adapted
  cases fields : adaptFields canonicalIr with
  | error error =>
    rw [fields] at adapted
    cases adapted
  | ok value =>
    obtain ⟨policyId,found,_⟩ := bind_ok.mp fields
    rw [Dict.has]
    cases held : lookup (.str "policy_id") canonicalIr with
    | none => simp [subscript,held] at found
    | some value => simp

structure Wrote (sha256 : Bytes → String) (files : Files) (run : Compilation) (emitted : Emitted) : Prop where
  compiled : compilePolicyToBundle sha256 run = .ok emitted
  manifest : files "manifest.json" = .content (.text emitted.manifest)

-- Ed25519 is unforgeable: what verifies under the key is a manifest that a run with the signing key wrote.
def Unforgeable (setting : Setting) (publicKeyPem : Option Bytes) : Prop :=
  ∀ manifestBytes sigText key, resolvePublicKey setting publicKeyPem = some key →
    verifyManifestEd25519 setting.crypto manifestBytes sigText key = .ok true →
    ∃ run emitted, compilePolicyToBundle setting.crypto.sha256 run = .ok emitted ∧ run.useEd25519 = true ∧ manifestBytes = .text emitted.manifest

section Signed
variable {setting : Setting} {directory : String} {files : Files} {publicKeyPem : Option Bytes} {bundle : RuntimePolicyBundle}
  {run : Compilation} {emitted : Emitted}

theorem manifest_says (loaded : loadRuntimeBundle setting directory files publicKeyPem = .ok bundle)
    (wrote : Wrote setting.crypto.sha256 files run emitted) :
    ∃ semanticHash, semanticPolicyHash setting.crypto.sha256 run.canonicalIr = .ok semanticHash ∧
      bundle.manifest.get "semantic_hash" = .str semanticHash ∧
      ∀ digest, Lists bundle.manifest digest ↔ digest = setting.crypto.sha256 (.text emitted.canonicalIr) := by
  obtain ⟨manifest,canonicalIr,policy,algorithm,parts⟩ := load_ok loaded
  obtain ⟨semanticHash,input,source,made⟩ := compile_ok wrote.compiled
  obtain ⟨json,written,read⟩ := stableJsonDumps_ok made.manifestWritten
  obtain ⟨s,file,parsed⟩ := readJsonFile_ok parts.manifestRead
  obtain rfl : emitted.manifest = s := Bytes.text.inj (File.content.inj (wrote.manifest.symm.trans file))
  obtain rfl : Dict.update [] (fromMembers json) = manifest := Value.dict.inj (Except.ok.inj (read.symm.trans parsed))
  refine ⟨semanticHash,made.hashed,?_,fun digest => ?_⟩
  · rw [parts.manifestKept,reread_text made.built.record written made.built.hash,made.inputHash]
  · rw [parts.manifestKept,lists_exact made.built written,made.inputFiles,collected_exact]

theorem written_loads (wrote : Wrote setting.crypto.sha256 files run emitted) (keyed : run.useEd25519 = true)
    (verified : Ed25519Verified setting files publicKeyPem)
    (irRead : readJsonFile (directory ++ "/" ++ canonicalIrPath) (files canonicalIrPath) = .ok canonicalIr)
    (adapted : adaptCanonicalIr canonicalIr = .ok policy) :
    ∃ bundle, loadRuntimeBundle setting directory files publicKeyPem = .ok bundle := by
  obtain ⟨semanticHash,input,source,made⟩ := compile_ok wrote.compiled
  obtain ⟨json,written,read⟩ := stableJsonDumps_ok made.manifestWritten
  have declared := declared_reread made.built written
  rw [made.inputAlgorithm,if_pos keyed] at declared
  have manifestRead : readJsonFile (directory ++ "/manifest.json") (files "manifest.json") = .ok (Dict.update [] (fromMembers json)) := by
    rw [wrote.manifest]
    exact readJsonFile_text read
  obtain ⟨manifestBytes,sigText,key,signed,found,valid⟩ := verified
  obtain rfl : manifestBytes = .text emitted.manifest := File.content.inj (signed.manifest.symm.trans wrote.manifest)
  have checked : verifyManifestSignature setting files publicKeyPem = .ok true := by
    rw [verify_eq signed ((signingAlgorithm_text read).trans declared)]
    simp [found,valid]
  have present : (files "manifest.sig").exists_ = true := by
    obtain ⟨text,sigRead,_⟩ := signed.signature
    obtain ⟨s,there,_⟩ := readText_ok sigRead
    simp [there,File.exists_]
  refine load_of_parts manifestRead declared ?_ ?_ irRead adapted
  · simp [checkSignature,present,checked,bind,Except.bind]
  · simp [checkAlgorithm]

theorem emitted_reread (compiled : compilePolicyToBundle setting.crypto.sha256 run = .ok emitted) :
    ∃ json, toJson true (.dict run.canonicalIr) = some (.obj json) ∧
      jsonLoads emitted.canonicalIr = .ok (.dict (Dict.update [] (fromMembers json))) := by
  obtain ⟨semanticHash,input,manifest,made⟩ := compile_ok compiled
  exact stableJsonDumps_ok made.irWritten

-- The IR read back from the file that the run wrote has the semantic hash of the run exactly when
-- its keys are in the order of their texts.
theorem reread_hash (injective : Function.Injective setting.crypto.sha256)
    (hashed : semanticPolicyHash setting.crypto.sha256 run.canonicalIr = .ok semanticHash)
    (compiled : compilePolicyToBundle setting.crypto.sha256 run = .ok emitted)
    (read : jsonLoads emitted.canonicalIr = .ok (.dict canonicalIr)) (named : canonicalIr.has "policy_id" = true) :
    semanticPolicyHash setting.crypto.sha256 canonicalIr = .ok semanticHash ↔ orderly (.dict run.canonicalIr) = true := by
  obtain ⟨json,written,loads⟩ := emitted_reread compiled
  obtain rfl : Dict.update [] (fromMembers json) = canonicalIr := Value.dict.inj (Except.ok.inj (loads.symm.trans read))
  rw [semanticPolicyHash_exact injective hashed named,written]
  exact reread_exact (.dict run.canonicalIr) written written

theorem signed_exact (injective : Function.Injective setting.crypto.sha256)
    (loaded : loadRuntimeBundle setting directory files publicKeyPem = .ok bundle) (wrote : Wrote setting.crypto.sha256 files run emitted) :
    LoadedIsSigned setting.crypto.sha256 directory files bundle ↔
      files canonicalIrPath = .content (.text emitted.canonicalIr) ∧ orderly (.dict run.canonicalIr) = true := by
  obtain ⟨semanticHash,hashed,declared,listed⟩ := manifest_says loaded wrote
  constructor
  · rintro ⟨bytes,canonicalIr,policy,file,read,adapted,_,⟨digest,rehashed,declares⟩,lists⟩
    obtain rfl : bytes = .text emitted.canonicalIr := injective ((listed _).mp lists)
    obtain rfl : semanticHash = digest := Value.str.inj (declared.symm.trans declares)
    obtain ⟨s,same,parsed⟩ := readJsonFile_ok read
    obtain rfl : emitted.canonicalIr = s := Bytes.text.inj (File.content.inj (file.symm.trans same))
    exact ⟨file,(reread_hash injective hashed wrote.compiled parsed (adapted_named adapted)).mp rehashed⟩
  · rintro ⟨file,inOrder⟩
    obtain ⟨manifest,canonicalIr,policy,algorithm,parts⟩ := load_ok loaded
    obtain ⟨s,same,parsed⟩ := readJsonFile_ok parts.irRead
    obtain rfl : emitted.canonicalIr = s := Bytes.text.inj (File.content.inj (file.symm.trans same))
    have rehashed := (reread_hash injective hashed wrote.compiled parsed (adapted_named parts.adapted)).mpr inOrder
    exact ⟨_,canonicalIr,policy,file,parts.irRead,parts.adapted,parts.policies,⟨semanticHash,rehashed,declared⟩,(listed _).mpr rfl⟩

end Signed

theorem loaded_is_signed_exact (setting : Setting) (directory : String) (files : Files) (publicKeyPem : Option Bytes)
    (bundle : RuntimePolicyBundle) (injective : Function.Injective setting.crypto.sha256) (unforgeable : Unforgeable setting publicKeyPem)
    (loaded : loadRuntimeBundle setting directory files publicKeyPem = .ok bundle) :
    (Ed25519Verified setting files publicKeyPem → ∃ run emitted, Wrote setting.crypto.sha256 files run emitted ∧ run.useEd25519 = true) ∧
    ∀ run emitted, Wrote setting.crypto.sha256 files run emitted → (LoadedIsSigned setting.crypto.sha256 directory files bundle ↔
        files canonicalIrPath = .content (.text emitted.canonicalIr) ∧ orderly (.dict run.canonicalIr) = true) := by
  refine ⟨?_,fun run emitted wrote => signed_exact injective loaded wrote⟩
  rintro ⟨manifestBytes,sigText,key,input,found,verified⟩
  obtain ⟨run,emitted,compiled,signed,rfl⟩ := unforgeable manifestBytes sigText key found verified
  exact ⟨run,emitted,⟨compiled,input.manifest⟩,signed⟩

-- A policy that denies, compiled with a key, and the directory with the canonical IR of either decision.
def sampleIr (decision : String) : Dict :=
  [(.str "schema_version",.str "0.1"),(.str "policy_id",.str "policy.transfer"),(.str "version",.str "1"),(.str "title",.str "transfer"),
   (.str "description",.str "transfer"),(.str "effective_date",.none),
   (.str "scope",.dict [(.str "domains",.list []),(.str "routes",.list []),(.str "actors",.list [])]),(.str "conditions",.list []),
   (.str "requirements",.dict []),(.str "constraints",.list []),
   (.str "outcome",.dict [(.str "decision",.str decision),(.str "reason",.str "")]),(.str "obligations",.list []),
   (.str "test_vectors",.list []),(.str "source_refs",.list []),(.str "metadata",.dict [])]

def sampleDocument (decision : String) : List (String × Json) :=
  [("conditions",.arr []),("constraints",.arr []),("description",.str "transfer"),("effective_date",.atom .null),("metadata",.obj []),
   ("obligations",.arr []),("outcome",.obj [("decision",.str decision),("reason",.str "")]),("policy_id",.str "policy.transfer"),
   ("requirements",.obj []),("schema_version",.str "0.1"),
   ("scope",.obj [("actors",.arr []),("domains",.arr []),("routes",.arr [])]),("source_refs",.arr []),("test_vectors",.arr []),
   ("title",.str "transfer"),("version",.str "1")]

def standInSha256 : Bytes → String
  | .text s => "t" ++ s
  | .raw bytes => "r" ++ String.ofList (bytes.map Char.ofUInt8)

def sampleRun : Compilation := ⟨sampleIr "deny","0.1.0","2026-01-01T00:00:00Z","policy.yaml",true,[],by simp⟩

def sampleEmitted : Emitted := (compilePolicyToBundle standInSha256 sampleRun).toOption.getD ⟨"",""⟩

def signedOnce (manifest : String) : Crypto := ⟨true,fun manifestBytes _ _ => if manifestBytes = .text manifest then .valid else .refused,standInSha256⟩

def keyedSetting : Setting where
  crypto := signedOnce sampleEmitted.manifest
  env name := if name = "VERITAS_POSTURE" then some "prod" else none
  keyFile _ := .absent

def sampleKey : Option Bytes := some (.text "-----BEGIN PUBLIC KEY-----")

def irText (decision : String) : String := dumps (indented 2) (.obj (sampleDocument decision)) ++ "\n"

def sampleFiles (decision : String) : Files := fun path =>
  if path = "manifest.json" then .content (.text sampleEmitted.manifest)
  else if path = "manifest.sig" then .content (.text "c2ln")
  else if path = canonicalIrPath then .content (.text (irText decision))
  else .absent

theorem ofUInt8_injective : Function.Injective Char.ofUInt8 := by
  intro a b same
  exact UInt8.toUInt32_inj.mp (congrArg Char.val same)

theorem standInSha256_injective : Function.Injective standInSha256 := by
  intro left right same
  have chars := congrArg String.toList same
  cases left with
  | text s =>
    cases right with
    | text t => simpa [standInSha256,String.toList_inj] using chars
    | raw bytes => simp [standInSha256] at chars
  | raw bytes =>
    cases right with
    | text t => simp [standInSha256] at chars
    | raw others =>
      simp only [standInSha256,String.toList_append,String.toList_ofList,List.append_cancel_left_eq] at chars
      rw [List.map_injective_iff.mpr ofUInt8_injective chars]

theorem sampleEmitted_compiled : compilePolicyToBundle standInSha256 sampleRun = .ok sampleEmitted := rfl

theorem sampleEmitted_ir : sampleEmitted.canonicalIr = irText "deny" := by
  obtain ⟨_,_,_,made⟩ := compile_ok sampleEmitted_compiled
  have document : toJson true (.dict sampleRun.canonicalIr) = some (.obj (sampleDocument "deny")) := rfl
  have written := made.irWritten
  rw [stableJsonDumps,document] at written
  exact (Except.ok.inj written).symm

theorem sampleFiles_manifest (decision : String) : sampleFiles decision "manifest.json" = .content (.text sampleEmitted.manifest) := by
  simp [sampleFiles]

theorem sampleFiles_signature (decision : String) : sampleFiles decision "manifest.sig" = .content (.text "c2ln") := by
  simp [sampleFiles]

theorem sampleFiles_ir (decision : String) : sampleFiles decision canonicalIrPath = .content (.text (irText decision)) := by
  simp [sampleFiles,canonicalIrPath]

theorem sampleFiles_wrote (decision : String) : Wrote keyedSetting.crypto.sha256 (sampleFiles decision) sampleRun sampleEmitted :=
  ⟨sampleEmitted_compiled,sampleFiles_manifest decision⟩

theorem signedOnce_exact (manifest : String) (manifestBytes : Bytes) (sigText : String) (key : Bytes) :
    verifyManifestEd25519 (signedOnce manifest) manifestBytes sigText key = .ok true ↔ manifestBytes = .text manifest := by
  by_cases same : manifestBytes = .text manifest
  · simp [verifyManifestEd25519,signedOnce,same]
  · simp [verifyManifestEd25519,signedOnce,same]

theorem keyedSetting_unforgeable : Unforgeable keyedSetting sampleKey := by
  intro manifestBytes sigText key _ verified
  exact ⟨sampleRun,sampleEmitted,sampleEmitted_compiled,rfl,(signedOnce_exact _ manifestBytes sigText key).mp verified⟩

theorem sampleFiles_verified (decision : String) : Ed25519Verified keyedSetting (sampleFiles decision) sampleKey := by
  have signature : (sampleFiles decision "manifest.sig").readText = .ok "c2ln" := by
    rw [sampleFiles_signature]
    decide +kernel
  have trimmed : "c2ln" = strip "c2ln" := by decide +kernel
  exact ⟨.text sampleEmitted.manifest,"c2ln",.text "-----BEGIN PUBLIC KEY-----",⟨sampleFiles_manifest decision,"c2ln",signature,trimmed⟩,rfl,
    (signedOnce_exact _ _ _ _).mpr rfl⟩

theorem sampleDocument_adapts (decision : String) : ∃ policy, adaptCanonicalIr (fromMembers (sampleDocument decision)) = .ok policy := ⟨_,rfl⟩

theorem irText_read (decision : String) : jsonLoads (irText decision) = .ok (.dict (fromMembers (sampleDocument decision))) := by
  have fresh : ((fromMembers (sampleDocument decision)).map Prod.fst).Nodup := by
    rw [fromMembers_keys]
    simp only [sampleDocument,List.map_cons,List.map_nil]
    decide
  have whole : Dict.update [] (fromMembers (sampleDocument decision)) = fromMembers (sampleDocument decision) := by
    simpa using update_fresh [] (fromMembers (sampleDocument decision)) (by simpa using fresh)
  rw [jsonLoads,irText,loads_dumps_line]
  simp only [fromJson,whole]

theorem sampleFiles_load (decision : String) : ∃ bundle, loadRuntimeBundle keyedSetting "bundle" (sampleFiles decision) sampleKey = .ok bundle := by
  obtain ⟨policy,adapted⟩ := sampleDocument_adapts decision
  have irRead : readJsonFile ("bundle" ++ "/" ++ canonicalIrPath) (sampleFiles decision canonicalIrPath) =
      .ok (fromMembers (sampleDocument decision)) := by
    rw [sampleFiles_ir]
    exact readJsonFile_text (irText_read decision)
  have keyed : sampleRun.useEd25519 = true := rfl
  exact written_loads (sampleFiles_wrote decision) keyed (sampleFiles_verified decision) irRead adapted

theorem loaded_is_signed_sample : ∃ bundle, loadRuntimeBundle keyedSetting "bundle" (sampleFiles "deny") sampleKey = .ok bundle ∧
    LoadedIsSigned keyedSetting.crypto.sha256 "bundle" (sampleFiles "deny") bundle := by
  obtain ⟨bundle,loaded⟩ := sampleFiles_load "deny"
  have exact_ := loaded_is_signed_exact keyedSetting "bundle" (sampleFiles "deny") sampleKey bundle standInSha256_injective
    keyedSetting_unforgeable loaded
  refine ⟨bundle,loaded,(exact_.2 sampleRun sampleEmitted (sampleFiles_wrote "deny")).mpr ⟨?_,?_⟩⟩
  · rw [sampleFiles_ir,sampleEmitted_ir]
  · decide +kernel

theorem tampered_ir_loads : Function.Injective keyedSetting.crypto.sha256 ∧ Unforgeable keyedSetting sampleKey ∧
    Ed25519Verified keyedSetting (sampleFiles "allow") sampleKey ∧
    ∃ bundle, loadRuntimeBundle keyedSetting "bundle" (sampleFiles "allow") sampleKey = .ok bundle ∧
      ¬LoadedIsSigned keyedSetting.crypto.sha256 "bundle" (sampleFiles "allow") bundle := by
  refine ⟨standInSha256_injective,keyedSetting_unforgeable,sampleFiles_verified "allow",?_⟩
  obtain ⟨bundle,loaded⟩ := sampleFiles_load "allow"
  refine ⟨bundle,loaded,fun signed => ?_⟩
  obtain ⟨file,_⟩ := (signed_exact standInSha256_injective loaded (sampleFiles_wrote "allow")).mp signed
  have same : irText "allow" = irText "deny" := by
    rw [sampleFiles_ir,sampleEmitted_ir] at file
    exact Bytes.text.inj (File.content.inj file)
  have documents := loads_dumps_line (indented 2) (.obj (sampleDocument "allow"))
  rw [← irText,same,irText,loads_dumps_line] at documents
  simp [sampleDocument] at documents

end VeritasOs.PolicyCompiler
