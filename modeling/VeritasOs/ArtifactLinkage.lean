import VeritasOs.FailedAppends

namespace VeritasOs.ArtifactLinkage
open BindArtifacts hiding sha256OfCanonicalJson
open LogFiles hiding valueError appendTrustLog
open TrustLog (isSha256Hex)
open Text JsonText TextLines BackwardLines FullLedger WitnessLedger SignedLog FailedAppends CallRuns

section Json
variable (masking : TrustLog.Masking)

theorem redact_json (value : Value) : isJson value = true → isJson (TrustLog.redactValue masking value) = true := by
  intro json
  induction value using Value.induction with
  | leaf value notList notTuple notDict =>
    cases value with
    | list items => exact absurd rfl (notList items)
    | tuple items => exact absurd rfl (notTuple items)
    | dict members => exact absurd rfl (notDict members)
    | str s => rfl
    | _ => exact json
  | list items inside =>
    rw [TrustLog.redactValue,TrustLog.redactItems_map]
    refine (isJson_list _).mpr fun item listed => ?_
    obtain ⟨own,held,rfl⟩ := List.mem_map.mp listed
    exact inside own held ((isJson_list items).mp json own held)
  | tuple items inside => simp [isJson] at json
  | dict members inside =>
    obtain ⟨record,each⟩ := (isJson_dict members).mp json
    rw [TrustLog.redactValue,TrustLog.redactMembers_map]
    refine (isJson_dict _).mpr ⟨record.of_keys (by simp),fun member listed => ?_⟩
    obtain ⟨own,held,rfl⟩ := List.mem_map.mp listed
    exact inside own held (each own held)

theorem update_json (json : isJson (.dict dict) = true) (named : StrKeys changes)
    (inside : ∀ member ∈ changes, isJson member.2 = true) : isJson (.dict (Dict.update dict changes)) = true := by
  induction changes generalizing dict with
  | nil => exact json
  | cons head rest ih =>
    obtain ⟨name,same⟩ := named head List.mem_cons_self
    have first : isJson (.dict (store head.1 head.2 dict)) = true := by
      rw [same]
      exact set_json json name (inside head List.mem_cons_self)
    exact ih first (fun member listed => named member (List.mem_cons_of_mem _ listed)) fun member listed => inside member (List.mem_cons_of_mem _ listed)

theorem classification_json (entry : Dict) : isJson (.dict (TrustLog.buildDataClassification masking entry)) = true := by
  unfold TrustLog.buildDataClassification
  extract_lets labels fieldMap
  have fields : isJson (.dict fieldMap) = true := by
    refine update_json rfl (fun member listed => ?_) fun member listed => ?_
    · obtain ⟨label,_,rfl⟩ := List.mem_map.mp listed
      exact ⟨label.1,rfl⟩
    · obtain ⟨label,_,rfl⟩ := List.mem_map.mp listed
      rfl
  exact fields_json ["schema_version","fields","contains_pii","contains_secret"] rfl (by decide) (by simp [field,fields])

theorem redactEntry_json (json : isJson (.dict entry) = true) : isJson (.dict (TrustLog.redactEntry masking entry)) = true := by
  obtain ⟨record,each⟩ := (isJson_dict entry).mp json
  refine set_json ((isJson_dict _).mpr ⟨record.of_keys (by simp),fun member listed => ?_⟩) _ (classification_json masking entry)
  obtain ⟨own,held,rfl⟩ := List.mem_map.mp listed
  dsimp only
  split
  · exact each own held
  · exact redact_json masking _ (each own held)

theorem prepareEntry_json
    (json : isJson (.dict raw) = true) (made : TrustLog.prepareEntry masking sha256 raw previous now = .ok (prepared,line)) :
    isJson (.dict prepared) = true ∧ line = prepared := by
  obtain ⟨text,_,rfl,copied⟩ := TrustLog.prepareEntry_parts made
  have stamped : isJson (.dict (TrustLog.setDefault raw "created_at" (.str now))) = true := by
    unfold TrustLog.setDefault
    split
    · exact json
    · exact set_json json _ rfl
  have whole := set_json (redactEntry_json masking (set_json stamped "sha256_prev" (optStr_json previous))) "sha256" (isJson_str (sha256 (previous.getD "" ++ text)))
  refine ⟨whole,?_⟩
  have same := copied_self _ whole
  exact (Value.dict.inj (Option.some.inj (same.symm.trans copied))).symm

end Json

def fullLedger (cipher : Cipher) (files : Files) : List Dict := (iterTrustLog cipher files).filterMap Value.asDict?

theorem fullLedger_lines {cipher : Cipher} (sound : Sound cipher) {files : Files} {lines : List (LogRuns.Line cipher)}
    (active : files.active.getD [] = LogRuns.content lines []) : fullLedger cipher files = lines.map LogRuns.Line.entry := by
  have read : iterTrustLog cipher files = lines.map fun line => Value.dict line.entry := by
    rw [iterTrustLog,active,LogRuns.byteLines_content sound lines (LogRuns.torn_nothing cipher),tail,if_pos rfl,List.append_nil,List.filterMap_map]
    exact (List.filterMap_congr fun line _ => LogRuns.decodeLine_line sound line).trans (congrFun List.filterMap_eq_map lines)
  rw [fullLedger,read,List.filterMap_map]
  exact congrFun List.filterMap_eq_map lines

def referenceTo (hash : String) : Dict :=
  [field "artifact_ref" (.str "trustlog_full_payload"),field "artifact_type" (.str "trust_log_entry"),
   field "artifact_storage_backend" (.str "trustlog_full_ledger"),field "artifact_locator" (.str ("sha256:" ++ hash)),
   field "artifact_hash_algorithm" (.str "sha256_canonical_json")]

-- The witness entry names its line by hash, and has the hash of what the line holds.
structure Linked (sha256 : String → String) {cipher : Cipher} (line : LogRuns.Line cipher) (members : List (String × Json)) : Prop where
  reference : (entryOf members).get "artifact_ref" = .dict (referenceTo line.sha)
  full : ∃ hash, sha256OfCanonicalJson sha256 (.dict line.entry) = .ok hash ∧ (entryOf members).get "full_payload_hash" = .str hash

def service (world : World) : Serve Stores TrustCall (Except Failure Dict) := appendTrustLog world

theorem after_call (world : World) (stores : Stores) (call : TrustCall) : after (service world) stores [call] = (appendTrustLog world stores call).2 := rfl

theorem after_calls (world : World) (stores : Stores) (first second : TrustCall) :
    after (service world) stores [first,second] = (appendTrustLog world (appendTrustLog world stores first).2 second).2 := rfl

theorem throughout_calls (here : allowed stores first)
    (next : allowed (appendTrustLog world stores first).2 second) : Throughout (service world) allowed stores [first,second] := ⟨here,next,trivial⟩

def Reaches (world : World) (stores : Stores) (call : TrustCall) (entry : Dict) : Prop :=
  call.logFault = none ∧ call.saveFails = false ∧ ∃ line token opened,
    prepareToken world call stores.files = .ok (entry,line,token) ∧ openTrustLogForAppend world call stores.files = (.ok (),opened)

-- A JSON entry, and a signed append that succeeds if the call comes to it.
structure Anchored (world : World) (stores : Stores) (call : TrustCall) : Prop where
  json : isJson (.dict call.entry) = true
  signed : ∀ entry, Reaches world stores call entry →
    ∃ answer, (appendSignedDecision world.system stores.ledger { call.signed with payload := entry,enableArtifactRef := true }).1 = .ok answer

-- No log with entries is rotated away, and of the new line the log gets all or nothing.
structure Unrotated (world : World) (stores : Stores) (call : TrustCall) : Prop where
  room : countLines stores.files.active < world.maxLines ∨ stores.files.active.getD [] = []
  whole : ∀ entry line token, prepareToken world call stores.files = .ok (entry,line,token) →
    (stopping call.logFault).written (token ++ ['\n']) = token ++ ['\n'] ∨ (stopping call.logFault).written (token ++ ['\n']) = []

structure Linkage (world : World) (stores : Stores) (lines : List (LogRuns.Line world.cipher)) (docs : List (List (String × Json))) : Prop where
  log : stores.files.active.getD [] = LogRuns.content lines []
  ledger : stores.ledger = ledgerOf docs
  linked : ∀ members ∈ docs, ∃ line ∈ lines, Linked world.system.sha256 line members

section Step
variable {world : World} {stores : Stores} {call : TrustCall}

variable {entry : Dict} {docs : List (List (String × Json))}

theorem opened_stores (prepared : prepareToken world call stores.files = .ok (entry,line,token))
    (made : openTrustLogForAppend world call stores.files = (.ok (),opened)) :
    (appendTrustLog world stores call).2.files = appended call.logFault (token ++ ['\n']) opened ∧
      (appendTrustLog world stores call).2.ledger = if call.logFault.isSome = true ∨ call.saveFails = true then stores.ledger else
        (appendSignedDecision world.system stores.ledger { call.signed with payload := entry,enableArtifactRef := true }).2 := by
  unfold appendTrustLog
  rw [prepared]
  dsimp only
  rw [made]
  dsimp only
  by_cases stopped : call.logFault.isSome = true ∨ call.saveFails = true
  · rw [if_pos stopped,if_pos stopped]
    exact ⟨rfl,rfl⟩
  · rw [if_neg stopped,if_neg stopped]
    generalize appendSignedDecision world.system stores.ledger { call.signed with payload := entry,enableArtifactRef := true } = signed
    obtain ⟨outcome,ledger⟩ := signed
    dsimp only
    split <;> exact ⟨rfl,rfl⟩

theorem appended_cases (world : World) (stores : Stores) (call : TrustCall) :
    ((appendTrustLog world stores call).2.files.active = stores.files.active ∧ (appendTrustLog world stores call).2.ledger = stores.ledger) ∨
    ∃ entry line token opened, prepareToken world call stores.files = .ok (entry,line,token) ∧
      openTrustLogForAppend world call stores.files = (.ok (),opened) := by
  cases prepared : prepareToken world call stores.files with
  | error error =>
    rw [appendTrustLog,prepared]
    exact .inl ⟨rfl,rfl⟩
  | ok parts =>
    obtain ⟨entry,line,token⟩ := parts
    cases made : openTrustLogForAppend world call stores.files with
    | mk outcome opened =>
      cases outcome with
      | error error =>
        rw [appendTrustLog,prepared]
        dsimp only
        rw [made]
        exact .inl ⟨unopened_active made,rfl⟩
      | ok _ => exact .inr ⟨entry,line,token,opened,rfl,rfl⟩

theorem unrotated_opened (unrotated : Unrotated world stores call)
    (made : openTrustLogForAppend world call stores.files = (.ok (),opened)) : opened.active.getD [] = stores.files.active.getD [] := by
  rcases opened_cases made with ⟨_,same⟩ | ⟨full,gone⟩
  · rw [same]
  · rcases unrotated.room with room | empty
    · exact absurd room full
    · rw [gone,empty]
      rfl

theorem signed_linked (json : isJson (.dict entry) = true) (same : new.entry = entry)
    (hash : entry.get "sha256" = .str new.sha) (payload : signedCall.payload = entry) (referred : signedCall.enableArtifactRef = true)
    (returned : (appendSignedDecision world.system (ledgerOf docs) signedCall).1 = .ok answer) :
    ∃ members, (appendSignedDecision world.system (ledgerOf docs) signedCall).2 = ledgerOf (docs ++ [members]) ∧ Linked world.system.sha256 new members := by
  obtain ⟨written,wrote,_,next⟩ := append_returned returned
  obtain ⟨signer,own,signature,witness,members,whole,rfl⟩ := prepareLine_line (by rw [payload]; exact json) wrote
  have read : entryOf members = witness := Value.dict.inj (writeLine_exact whole.prepared.json whole.document).1
  obtain ⟨full,hashed,held⟩ := whole.prepared.full
  obtain ⟨stripped,some_⟩ := LogRuns.hex_plain new.canonical
  refine ⟨members,by rw [next,ledgerOf_concat],⟨?_,full,?_,?_⟩⟩
  · have reference : buildArtifactReference entry = some (referenceTo new.sha) := by
      unfold buildArtifactReference referenceTo
      rw [hash]
      dsimp only
      rw [stripped,if_neg some_]
    have named := whole.prepared.reference
    unfold artifactField at named
    rw [payload,reference,if_pos referred] at named
    rw [read,Dict.get,named]
    rfl
  · rw [same,← payload]
    exact hashed
  · rw [read,Dict.get,held]
    rfl

variable (hex : ∀ text, isSha256Hex (world.system.sha256 text) = true)
include hex

theorem token_line (json : isJson (.dict call.entry) = true) (made : prepareToken world call stores.files = .ok (entry,line,token)) :
    isJson (.dict entry) = true ∧ ∃ new : LogRuns.Line world.cipher, token = new.chars ∧ new.entry = entry ∧ entry.get "sha256" = .str new.sha := by
  obtain ⟨⟨entry',line'⟩,prepared,made⟩ := bind_ok.mp made
  obtain ⟨plain,same⟩ := prepareEntry_json world.masking json prepared
  have distinct := ((isJson_dict _).mp json).1.distinct
  obtain ⟨document,written,new,chars,held,hash⟩ := LogRuns.prepared_line world.cipher hex (TrustLog.prepareEntry_prepared distinct prepared) call.draw
  dsimp only at made
  rw [written] at made
  obtain ⟨token',encrypted,made⟩ := bind_ok.mp made
  obtain ⟨rfl,rfl,rfl⟩ : entry' = entry ∧ line' = line ∧ token' = token := by simpa using made
  unfold encrypt at encrypted
  split at encrypted
  · exact ⟨plain,new,by rw [chars]; exact (Except.ok.inj encrypted).symm,by rw [held,same],hash⟩
  · cases encrypted

theorem append_kept (linkage : Linkage world stores lines docs)
    (anchored : Anchored world stores call) (unrotated : Unrotated world stores call) :
    ∃ lines docs, Linkage world (appendTrustLog world stores call).2 lines docs := by
  rcases appended_cases world stores call with ⟨files,ledger⟩ | ⟨entry,line,token,opened,prepared,made⟩
  · exact ⟨lines,docs,by rw [files]; exact linkage.log,ledger.trans linkage.ledger,linkage.linked⟩
  · obtain ⟨files,ledger⟩ := opened_stores prepared made
    obtain ⟨json,new,rfl,same,hash⟩ := token_line hex anchored.json prepared
    have old : opened.active.getD [] = LogRuns.content lines [] := (unrotated_opened unrotated made).trans linkage.log
    have log : (appendTrustLog world stores call).2.files.active.getD [] = LogRuns.content lines [] ++ (stopping call.logFault).written (new.chars ++ ['\n']) := by
      rw [files,appended_active,old]
    have grown : LogRuns.content (lines ++ [new]) [] = LogRuns.content lines [] ++ (new.chars ++ ['\n']) := by
      rw [LogRuns.content_concat,List.append_assoc]
    have kept : ∀ members ∈ docs, ∃ line ∈ lines ++ [new], Linked world.system.sha256 line members := fun members held => by
      obtain ⟨line,listed,linked⟩ := linkage.linked members held
      exact ⟨line,List.mem_append_left _ listed,linked⟩
    by_cases stopped : call.logFault.isSome = true ∨ call.saveFails = true
    · rw [if_pos stopped] at ledger
      rcases unrotated.whole _ _ _ prepared with whole | nothing
      · exact ⟨lines ++ [new],docs,by rw [log,whole,grown],ledger.trans linkage.ledger,kept⟩
      · exact ⟨lines,docs,by rw [log,nothing,List.append_nil],ledger.trans linkage.ledger,linkage.linked⟩
    · rw [if_neg stopped] at ledger
      rw [not_or,Bool.not_eq_true,Bool.not_eq_true,Option.isSome_eq_false_iff,Option.isNone_iff_eq_none] at stopped
      obtain ⟨answer,returned⟩ := anchored.signed entry ⟨stopped.1,stopped.2,line,new.chars,opened,prepared,made⟩
      rw [linkage.ledger] at returned ledger
      obtain ⟨members,next,linked⟩ := signed_linked json same hash rfl rfl returned
      refine ⟨lines ++ [new],docs ++ [members],?_,ledger.trans next,?_⟩
      · have whole : (stopping call.logFault).written (new.chars ++ ['\n']) = new.chars ++ ['\n'] := by
          rw [stopped.1]
          simp [stopping,WriteFault.written]
        rw [log,whole,grown]
      · intro members' held
        rcases List.mem_append.mp held with before | last
        · exact kept members' before
        · rw [List.mem_singleton.mp last]
          exact ⟨new,List.mem_append_right _ List.mem_cons_self,linked⟩

theorem run_kept (linkage : Linkage world start lines docs)
    (run : Throughout (service world) (fun stores call => Anchored world stores call ∧ Unrotated world stores call) start calls) :
    ∃ lines docs, Linkage world (after (service world) start calls) lines docs := by
  induction calls generalizing start lines docs with
  | nil => exact ⟨lines,docs,linkage⟩
  | cons call rest ih =>
    obtain ⟨⟨anchored,unrotated⟩,others⟩ := run
    obtain ⟨lines',docs',next⟩ := append_kept hex linkage anchored unrotated
    exact ih next others

end Step

def ArtifactReference.ofHash (hash : String) : ArtifactReference :=
  ⟨"trustlog_full_payload","trust_log_entry","trustlog_full_ledger","sha256:" ++ hash,"sha256_canonical_json"⟩

section Resolve
variable {hash : String} (canonical : isSha256Hex hash = true)
include canonical

theorem locator_plain : strip ("sha256:" ++ hash) = "sha256:" ++ hash := by
  refine strip_word ?_
  rw [String.toList_append,List.all_append]
  have scheme : ("sha256:".toList.all fun c => !isSpace c) = true := rfl
  rw [scheme,Bool.true_and,List.all_eq_true]
  intro c listed
  rw [LogRuns.hex_unspaced canonical c listed]
  rfl

theorem parse_reference : parseArtifactReference (.dict (referenceTo hash)) = .ok (some (ArtifactReference.ofHash hash)) := by
  have locator : Dict.get (referenceTo hash) "artifact_locator" = .str ("sha256:" ++ hash) := rfl
  have located : nonBlank (.str ("sha256:" ++ hash)) = true := by
    rw [nonBlank,locator_plain canonical,bne_iff_ne]
    intro empty
    simp at empty
  have whole : (["artifact_ref","artifact_type","artifact_storage_backend","artifact_locator","artifact_hash_algorithm"].all fun key =>
      nonBlank (Dict.get (referenceTo hash) key)) = true := by
    simp only [List.all_eq_true,List.forall_mem_cons]
    exact ⟨rfl,rfl,rfl,located,rfl,fun _ listed => absurd listed List.not_mem_nil⟩
  unfold parseArtifactReference
  dsimp only
  rw [if_pos whole,locator,Value.text,locator_plain canonical]
  have ref : strip (Dict.get (referenceTo hash) "artifact_ref").text = "trustlog_full_payload" :=
    (strip_word rfl : strip "trustlog_full_payload" = _)
  have kind : strip (Dict.get (referenceTo hash) "artifact_type").text = "trust_log_entry" :=
    (strip_word rfl : strip "trust_log_entry" = _)
  have backend : strip (Dict.get (referenceTo hash) "artifact_storage_backend").text = "trustlog_full_ledger" :=
    (strip_word rfl : strip "trustlog_full_ledger" = _)
  have algorithm : strip (Dict.get (referenceTo hash) "artifact_hash_algorithm").text = "sha256_canonical_json" :=
    (strip_word rfl : strip "sha256_canonical_json" = _)
  simp only [ref,kind,backend,algorithm,if_true]
  rfl

theorem after_scheme : afterColon ("sha256:" ++ hash) = hash := by
  rw [afterColon,String.toList_append]
  have rest : (("sha256:".toList ++ hash.toList).dropWhile fun c => !(c == ':')).drop 1 = hash.toList := rfl
  rw [rest,String.ofList_toList]
  exact (LogRuns.hex_plain canonical).1

theorem resolve_hash (named : entry.get "artifact_ref" = .dict (referenceTo hash)) :
    resolvePayloadForEntry artifacts entry = .ok (resolveViaFullLedger artifacts hash "") := by
  unfold resolvePayloadForEntry
  rw [named,parse_reference canonical]
  have scheme : startsWith "sha256:" ("sha256:" ++ hash) = true := by
    rw [startsWith,String.toList_append]
    exact List.isPrefixOf_iff_prefix.mpr ⟨_,rfl⟩
  simp only [bind,Except.bind,ArtifactReference.ofHash,if_true,after_scheme canonical,canonical,scheme]

end Resolve

-- Two entries of the log with the same hash are the same entry: SHA-256 has not collided in it.
def HashesApart (entries : List Dict) : Prop :=
  ∀ first ∈ entries, ∀ second ∈ entries, first.get "sha256" = second.get "sha256" → first = second

theorem resolveViaFullLedger_hash {artifacts : Artifacts} {entries decides : List Dict} {others : List SearchRoot}
    (roots : artifacts.roots = ⟨entries,decides⟩ :: others) (apart : HashesApart entries) {entry : Dict} (held : entry ∈ entries) {hash : String}
    (named : entry.get "sha256" = .str hash) (some_ : hash ≠ "") : resolveViaFullLedger artifacts hash "" = some entry := by
  have self : namesPayload "sha256" hash entry = true := by simp [namesPayload,some_,named]
  rw [resolveViaFullLedger,roots,List.flatMap_cons,List.find?_append]
  cases found : entries.find? fun payload => namesPayload "sha256" hash payload || namesPayload "request_id" "" payload with
  | none => exact absurd (List.find?_eq_none.mp found entry held) (by simp [self])
  | some payload =>
    have fits : payload.get "sha256" = .str hash := by
      have matched := List.find?_some found
      simpa [namesPayload,some_] using matched
    rw [apart payload (List.mem_of_find?_eq_some found) entry held (fits.trans named.symm)]
    rfl

section Accept
variable {sha256 : String → String} (hex : ∀ text, isSha256Hex (sha256 text) = true) {cipher : Cipher} {line : LogRuns.Line cipher} {members : List (String × Json)}
include hex

theorem full_hex (linked : Linked sha256 line members) : ∃ hash, isSha256Hex hash = true ∧
    sha256OfCanonicalJson sha256 (.dict line.entry) = .ok hash ∧ (entryOf members).get "full_payload_hash" = .str hash := by
  obtain ⟨hash,hashed,held⟩ := linked.full
  refine ⟨hash,?_,hashed,held⟩
  unfold sha256OfCanonicalJson at hashed
  split at hashed
  · cases hashed
  · rw [← Except.ok.inj hashed]
    exact hex _

theorem linked_accepted (linked : Linked sha256 line members) (found : resolveViaFullLedger artifacts line.sha "" = some line.entry) :
    verifyEntryArtifactLinkage sha256 artifacts (entryOf members) = none := by
  obtain ⟨hash,canonical,hashed,held⟩ := full_hex hex linked
  unfold verifyEntryArtifactLinkage
  rw [held]
  dsimp only
  rw [if_pos canonical,resolve_hash line.canonical linked.reference,found]
  dsimp only
  rw [hashed]
  exact if_pos rfl

theorem linked_missing (linked : Linked sha256 line members) (missing : resolveViaFullLedger artifacts line.sha "" = none) :
    verifyEntryArtifactLinkage sha256 artifacts (entryOf members) = some "artifact_missing" := by
  obtain ⟨hash,canonical,_,held⟩ := full_hex hex linked
  unfold verifyEntryArtifactLinkage
  rw [held]
  dsimp only
  rw [if_pos canonical,resolve_hash line.canonical linked.reference,missing]
  dsimp only
  rw [linked.reference]
  rfl

end Accept

theorem emptyStores_linkage (world : World) : Linkage world emptyStores [] [] := ⟨rfl,rfl,fun _ held => absurd held List.not_mem_nil⟩

section Run
variable {world : World} (sound : Sound world.cipher) (hex : ∀ text, isSha256Hex (world.system.sha256 text) = true)
include sound hex

end Run

-- A JSON entry, no failing write, and a signed append that only has to sign and to mirror.
structure Smooth (path : String) (call : TrustCall) : Prop where
  json : isJson (.dict call.entry) = true
  replaced : call.replaceFails = false
  logged : call.logFault = none
  saved : call.saveFails = false
  signed : SignedRuns.Quiet path call.signed

theorem previousHash_ledger (sha256 : String → String) (docs : List (List (String × Json))) :
    ∃ previous, previousHash sha256 (ledgerOf docs) = .ok previous := by
  rw [previousHash,readLastEntry_ledger]
  cases docs.getLast? with
  | none => exact ⟨.none,rfl⟩
  | some members =>
    obtain ⟨text,made⟩ := Option.isSome_iff_exists.mp ((canonical_recordable (.dict (entryOf members))).mpr (fromJson_recordable (.obj members)))
    rw [Option.map_some,chainHashOf,sha256OfCanonicalJson,made]
    split
    · exact ⟨_,rfl⟩
    · exact ⟨_,rfl⟩

theorem normalizeForHash_object (hashed : TrustLog.normalizeForHash entry = some text) : text.toList.head? = some '{' := by
  obtain ⟨json,made,rfl⟩ := Option.map_eq_some_iff.mp hashed
  obtain ⟨members,rfl⟩ := @toJson_dict_obj true (TrustLog.defaultMembers _) json made
  obtain ⟨body,_,shape⟩ := print_object compact 0 members
  rw [dumps,String.toList_ofList,shape]
  rfl

section Progress
variable {world : World} {call : TrustCall} {path : String} (smooth : Smooth path call)
include smooth

theorem smooth_token (sound : Sound world.cipher) (hex : ∀ text, isSha256Hex (world.system.sha256 text) = true) (files : Files) :
    ∃ entry line token text, prepareToken world call files = .ok (entry,line,token) ∧ text.toList.head? = some '{' ∧
      entry.get "sha256" = .str (world.system.sha256 ((getLastHashUnlocked world.cipher files).getD "" ++ text)) := by
  obtain ⟨record,each⟩ := (isJson_dict call.entry).mp smooth.json
  have writable : TrustLog.Writable call.entry := ⟨record,fun member listed => isJson_recordable _ (each member listed)⟩
  obtain ⟨prepared,line,made⟩ := TrustLog.prepareEntry_writable writable world.masking world.system.sha256 (getLastHashUnlocked world.cipher files) call.createdAt
  obtain ⟨document,written,_⟩ := LogRuns.prepared_line world.cipher hex (TrustLog.prepareEntry_prepared record.distinct made) call.draw
  obtain ⟨text,hashed,same,_⟩ := TrustLog.prepareEntry_parts made
  refine ⟨prepared,line,envelope world.cipher call.draw (dumps spaced document),text,?_,normalizeForHash_object hashed,?_⟩
  · unfold prepareToken
    refine bind_ok.mpr ⟨_,made,?_⟩
    dsimp only
    rw [written]
    exact bind_ok.mpr ⟨_,LogRuns.encrypt_keyed sound call.draw _,rfl⟩
  · rw [same,Dict.get,Dict.set,lookup_store,if_pos rfl]
    rfl

theorem smooth_opened (room : countLines files.active < world.maxLines) : openTrustLogForAppend world call files = (.ok (),files) := by
  unfold openTrustLogForAppend rotateIfNeeded
  rw [if_pos room]
  dsimp only
  rw [smooth.replaced,if_neg (by simp)]

theorem smooth_rotated (sound : Sound world.cipher) {files : Files} {first : List (LogRuns.Line world.cipher)} {last : LogRuns.Line world.cipher}
    (full : ¬ countLines files.active < world.maxLines) (held : files.active = some (LogRuns.content (first ++ [last]) [])) :
    ∃ opened, openTrustLogForAppend world call files = (.ok (),opened) ∧ opened.active = none := by
  unfold openTrustLogForAppend rotateIfNeeded
  rw [if_neg full,LogRuns.saveLastHashMarker_whole sound held]
  simp only [bind,Except.bind,held,smooth.replaced]
  exact ⟨_,if_neg (by simp),rfl⟩

variable {signer : TrustlogSigner}

theorem smooth_signed (built : buildTrustlogSigner world.system.env world.system.keys none none = .ok signer)
    (docs : List (List (String × Json))) (json : isJson (.dict entry) = true) :
    ∃ answer, (appendSignedDecision world.system (ledgerOf docs) { call.signed with payload := entry,enableArtifactRef := true }).1 = .ok answer := by
  obtain ⟨previous,found⟩ := previousHash_ledger world.system.sha256 docs
  have quiet : SignedRuns.Quiet path { call.signed with payload := entry,enableArtifactRef := true } :=
    ⟨⟨json,smooth.signed.signs,smooth.signed.fault⟩,smooth.signed.mirror,smooth.signed.anchor⟩
  obtain ⟨answer,returned,_⟩ := SignedRuns.append_quiet built quiet found
  exact ⟨answer,returned⟩

theorem smooth_anchored (hex : ∀ text, isSha256Hex (world.system.sha256 text) = true)
    (built : buildTrustlogSigner world.system.env world.system.keys none none = .ok signer)
    (ledger : stores.ledger = ledgerOf docs) : Anchored world stores call := by
  refine ⟨smooth.json,fun entry reaches => ?_⟩
  obtain ⟨_,_,line,token,opened,prepared,_⟩ := reaches
  rw [ledger]
  exact smooth_signed smooth built docs (token_line hex smooth.json prepared).1

theorem smooth_appends (sound : Sound world.cipher) (hex : ∀ text, isSha256Hex (world.system.sha256 text) = true)
    (built : buildTrustlogSigner world.system.env world.system.keys none none = .ok signer) (ledger : stores.ledger = ledgerOf docs)
    (made : openTrustLogForAppend world call stores.files = (.ok (),opened)) :
    ∃ new : LogRuns.Line world.cipher, ∃ members text, text.toList.head? = some '{' ∧
      new.sha = world.system.sha256 ((getLastHashUnlocked world.cipher stores.files).getD "" ++ text) ∧ Linked world.system.sha256 new members ∧
      (appendTrustLog world stores call).2.files.active = some (opened.active.getD [] ++ LogRuns.content [new] []) ∧
      (appendTrustLog world stores call).2.ledger = ledgerOf (docs ++ [members]) := by
  obtain ⟨entry,line,token,text,prepared,object,hash⟩ := smooth_token smooth sound hex stores.files
  obtain ⟨json,new,rfl,same,named⟩ := token_line hex smooth.json prepared
  obtain ⟨files,signed⟩ := opened_stores prepared made
  obtain ⟨answer,returned⟩ := smooth_signed smooth built docs json
  obtain ⟨members,next,linked⟩ := signed_linked json same named rfl rfl returned
  rw [smooth.logged,smooth.saved,if_neg (by simp),ledger] at signed
  rw [smooth.logged] at files
  refine ⟨new,members,text,object,Value.str.inj (named.symm.trans hash),linked,?_,signed.trans next⟩
  rw [files]
  simp [appended,LogRuns.content,file]

end Progress

def sampleHash (text : String) : String := String.ofList (List.replicate 64 (if text.toList.head? = some '{' then 'a' else 'b'))

theorem sampleHash_hex (text : String) : isSha256Hex (sampleHash text) = true := by
  unfold sampleHash
  split <;> rfl

def linkedWorld (maxLines : Nat) : World :=
  { sampleWorld with system := { SignedRuns.sampleSystem with sha256 := sampleHash },maxLines := maxLines }

def smoothCall : TrustCall where
  entry := [field "decision" (.str "approve")]
  createdAt := "2026-01-01T00:00:00Z"
  draw := 0
  replaceFails := false
  logFault := none
  saveFails := false
  signed := SignedRuns.sampleCall "r1"

theorem smoothCall_smooth : Smooth "worm.jsonl" smoothCall := ⟨rfl,rfl,rfl,rfl,SignedRuns.sample_quiet "r1"⟩

section Sample
variable (maxLines : Nat)

theorem linkedWorld_sound : Sound (linkedWorld maxLines).cipher := sampleCipher_sound

theorem linkedWorld_hex : ∀ text, isSha256Hex ((linkedWorld maxLines).system.sha256 text) = true := sampleHash_hex

theorem linkedWorld_built : buildTrustlogSigner (linkedWorld maxLines).system.env (linkedWorld maxLines).system.keys none none =
    .ok (fileSigner SignedRuns.sampleSystem.keys) := SignedRuns.sample_built

theorem linkedWorld_anchored (ledger : stores.ledger = ledgerOf docs) : Anchored (linkedWorld maxLines) stores smoothCall :=
  smooth_anchored smoothCall_smooth (linkedWorld_hex maxLines) (linkedWorld_built maxLines) ledger

theorem first_append (positive : 0 < maxLines) : ∃ new : LogRuns.Line (linkedWorld maxLines).cipher, ∃ members,
    new.sha = String.ofList (List.replicate 64 'a') ∧ Linked (linkedWorld maxLines).system.sha256 new members ∧
    (appendTrustLog (linkedWorld maxLines) emptyStores smoothCall).2.files.active = some (LogRuns.content [new] []) ∧
    (appendTrustLog (linkedWorld maxLines) emptyStores smoothCall).2.ledger = ledgerOf [members] := by
  obtain ⟨new,members,text,object,hashed,linked,active,ledger⟩ := smooth_appends smoothCall_smooth (linkedWorld_sound maxLines) (linkedWorld_hex maxLines)
    (linkedWorld_built maxLines) (emptyStores_linkage (linkedWorld maxLines)).ledger (smooth_opened smoothCall_smooth (show countLines emptyStores.files.active < _ from positive))
  have first : (getLastHashUnlocked (linkedWorld maxLines).cipher emptyStores.files).getD "" ++ text = text := String.empty_append
  refine ⟨new,members,?_,linked,active,ledger⟩
  rw [hashed,first]
  exact congrArg (fun c => String.ofList (List.replicate 64 c)) (if_pos object)

end Sample

theorem second_append {stores : Stores} {old : LogRuns.Line (linkedWorld 1).cipher} {members : List (String × Json)}
    (hash : old.sha = String.ofList (List.replicate 64 'a')) (active : stores.files.active = some (LogRuns.content [old] []))
    (ledger : stores.ledger = ledgerOf [members]) :
    ∃ new : LogRuns.Line (linkedWorld 1).cipher, ∃ added, new.sha = String.ofList (List.replicate 64 'b') ∧
      (appendTrustLog (linkedWorld 1) stores smoothCall).2.files.active = some (LogRuns.content [new] []) ∧
      (appendTrustLog (linkedWorld 1) stores smoothCall).2.ledger = ledgerOf [members,added] := by
  have sound := linkedWorld_sound 1
  have held : stores.files.active = some (LogRuns.content ([] ++ [old]) []) := active
  have full : ¬ countLines stores.files.active < (linkedWorld 1).maxLines := by
    rw [LogRuns.countLines_content sound (LogRuns.torn_nothing _) (by rw [active]; rfl)]
    exact Nat.lt_irrefl 1
  obtain ⟨opened,made,gone⟩ := smooth_rotated smoothCall_smooth sound full held
  obtain ⟨new,added,text,object,hashed,_,next,signed⟩ := smooth_appends smoothCall_smooth sound (linkedWorld_hex 1) (linkedWorld_built 1) ledger made
  rw [gone] at next
  refine ⟨new,added,?_,next,signed⟩
  have some_ : LogRuns.content [old] [] ≠ [] := by simp [LogRuns.content,file]
  have last : getLastHashUnlocked (linkedWorld 1).cipher stores.files = some old.sha := by
    rw [LogRuns.getLastHash_scan active some_,LogRuns.scanTail_content sound [old] (LogRuns.torn_nothing _) some_]
    rfl
  rw [hashed,last,hash]
  refine congrArg (fun c => String.ofList (List.replicate 64 c)) (if_neg ?_)
  rw [Option.getD_some,String.toList_append,String.toList_ofList]
  simp [List.replicate]

theorem rotated_missing {world : World} (sound : Sound world.cipher) (hex : ∀ text, isSha256Hex (world.system.sha256 text) = true) {files : Files}
    {old new : LogRuns.Line world.cipher} {members : List (String × Json)} (linked : Linked world.system.sha256 old members) (apart : old.sha ≠ new.sha)
    (active : files.active.getD [] = LogRuns.content [new] []) : HashesApart (fullLedger world.cipher files) ∧
      verifyEntryArtifactLinkage world.system.sha256 ⟨[⟨fullLedger world.cipher files,[]⟩],fun _ => .absent⟩ (entryOf members) = some "artifact_missing" := by
  have held : fullLedger world.cipher files = [new.entry] := fullLedger_lines sound active
  rw [held]
  refine ⟨fun first firstHeld second secondHeld _ => ?_,linked_missing hex linked ?_⟩
  · rw [List.mem_singleton.mp firstHeld,List.mem_singleton.mp secondHeld]
  · simp [resolveViaFullLedger,namesPayload,(LogRuns.line_get new).1,Ne.symm apart]

end VeritasOs.ArtifactLinkage
