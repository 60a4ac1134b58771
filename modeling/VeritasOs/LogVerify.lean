import VeritasOs.LogRuns

namespace VeritasOs.LogVerify
open Text JsonText TextLines BindArtifacts TrustLog LogFiles FullLedger LogRuns

theorem filter_store (dropped : ∀ value, keep (key,value) = false) (value : Value) (dict : Dict) :
    (store key value dict).filter keep = dict.filter keep := by
  induction dict with
  | nil => simp [store,dropped]
  | cons head rest ih =>
    obtain ⟨k,old⟩ := head
    by_cases same : k = key
    · subst same
      simp [store,dropped]
    · simp only [store,if_neg same,List.filter_cons,ih]

theorem normalize_set (entry : Dict) (value : Value) : normalizeForHash (entry.set "sha256" value) = normalizeForHash entry := by
  have dropped : hashedPart (store (.str "sha256") value entry) = hashedPart entry := filter_store (by simp) value entry
  rw [normalizeForHash,normalizeForHash,Dict.set]
  exact congrArg (fun part => canonicalJsonDumps (defaultStr (.dict part))) dropped

theorem record_same (recordL : Record left) (recordR : Record right) (made : toJson true (.dict left) = some json)
    (same : ∀ name, SameField left right name) : toJson true (.dict right) = some json := by
  obtain ⟨named,rfl⟩ := toJson_dict_obj made
  have across : ∀ {a b : Dict}, (∀ name, SameField a b name) → Record a → ∀ {name : String} {value : Value}, (Key.str name,value) ∈ a →
      ∃ other, (Key.str name,other) ∈ b ∧ toJson true value = toJson true other := by
    intro a b fields record name value listed
    have field := fields name
    rw [SameField,lookup_of_mem record.distinct listed] at field
    obtain ⟨other,found,documents⟩ := Option.map_eq_some_iff.mp field.symm
    exact ⟨other,lookup_mem found,documents.symm⟩
  have back : ∀ name, SameField right left name := fun name => (same name).symm
  have recordable : Recordable (.dict right) := by
    refine (recordable_dict recordR.named).mpr fun member listed => ?_
    obtain ⟨name,key⟩ := recordR.named member listed
    obtain ⟨other,there,documents⟩ := across back recordR (show (Key.str name,member.2) ∈ right by rw [← key]; exact listed)
    have written := recordable_member (show Recordable (.dict left) by rw [Recordable,made]; rfl) there
    rw [Recordable,documents]
    exact written
  obtain ⟨whole,remade⟩ := Option.isSome_iff_exists.mp recordable
  obtain ⟨others,rfl⟩ := toJson_dict_obj remade
  rw [remade,named_unique (record_ordered recordR remade) (record_ordered recordL made)]
  rintro ⟨name,part⟩
  have names : ∀ {a b : Dict} {ma mb : List (String × Json)}, toJson true (.dict a) = some (.obj ma) → toJson true (.dict b) = some (.obj mb) →
      Record a → (∀ name, SameField a b name) → (name,part) ∈ ma → (name,part) ∈ mb := by
    intro a b ma mb madeA madeB record fields listed
    obtain ⟨key,value,text,there,document⟩ := (toJson_dict_mem madeA name part).mp listed
    obtain ⟨field,rfl⟩ := record.named _ there
    obtain rfl : field = name := by simpa [keyText] using text
    obtain ⟨other,here,documents⟩ := across fields record there
    exact (toJson_dict_mem madeB field part).mpr ⟨_,other,rfl,here,documents ▸ document⟩
  exact ⟨names remade made recordR back,names made remade recordL same⟩

theorem orderly_redact (masking : Masking) (value : Value) : orderly (redactValue masking value) = orderly value := by
  induction value using Value.induction with
  | leaf value notList notTuple notDict => cases value <;> simp_all [redactValue,orderly]
  | list items inside | tuple items inside =>
    rw [redactValue,redactItems_map,orderly,orderly,Bool.eq_iff_iff,orderlyItems_iff,orderlyItems_iff,List.forall_mem_map]
    exact forall₂_congr fun item listed => by rw [inside item listed]
  | dict members inside =>
    rw [redactValue,redactMembers_map,Bool.eq_iff_iff,orderly_dict,orderly_dict,List.forall_mem_map,List.map_map]
    exact and_congr Iff.rfl (forall₂_congr fun member listed => by rw [inside member listed])

theorem orderly_record (record : Record members) (inside : ∀ member ∈ members, orderly member.2 = true) : orderly (.dict members) = true :=
  (orderly_dict members).mpr ⟨decide_eq_true (sortedTexts_record record),inside⟩

theorem orderly_classification (masking : Masking) (entry : Dict) : orderly (.dict (buildDataClassification masking entry)) = true := by
  refine orderly_record ⟨by simp [StrKeys,buildDataClassification,field],by simp [buildDataClassification,field]⟩ ?_
  simp only [buildDataClassification,field,List.forall_mem_cons]
  refine ⟨rfl,?_,rfl,rfl,by simp⟩
  refine orderly_record (update_record _ (List.forall_mem_map.mpr fun label _ => ⟨_,rfl⟩)) ?_
  exact update_forall (fun member => orderly member.2 = true) (by simp) (List.forall_mem_map.mpr fun label _ => rfl)

-- An entry is hashed alike from its line exactly when its members keep their order.
section Rehash
variable {prepared line : Dict} (record : Record prepared)
  (copied : jsonCopy (.dict prepared) = some (.dict line)) (hashed : (normalizeForHash prepared).isSome = true)
include record copied hashed

omit hashed in
theorem line_lookup (key : Key) : lookup key line = (lookup key prepared).bind jsonCopy := by
  obtain ⟨fields,same,values⟩ := jsonCopy_fields record copied
  cases same
  exact values key

omit record in
theorem hashed_written : ∃ text sorted, normalizeForHash prepared = some text ∧
    canonicalJsonDumps (.dict (hashedPart prepared)) = some text ∧ toJson true (.dict (hashedPart prepared)) = some sorted := by
  obtain ⟨text,normal⟩ := Option.isSome_iff_exists.mp hashed
  obtain ⟨json,printed,_⟩ := Option.map_eq_some_iff.mp copied
  have canonical := normalize_written (show (toJson false (.dict prepared)).isSome = true by rw [printed]; rfl)
  rw [normal] at canonical
  obtain ⟨sorted,made,_⟩ := Option.map_eq_some_iff.mp canonical.symm
  exact ⟨text,sorted,normal,canonical.symm,made⟩

theorem hashed_member (notHash : name ≠ "sha256") (notPrev : name ≠ "sha256_prev") (found : lookup (.str name) prepared = some value) :
    ∃ part sorted, lookup (.str name) line = some part ∧ toJson true value = some sorted ∧
      (toJson true part = some sorted ↔ orderly value = true) := by
  obtain ⟨_,_,_,_,made⟩ := hashed_written copied hashed
  have listed := lookup_mem ((lookup_hashedPart prepared name).trans ((if_neg (not_or.mpr ⟨notHash,notPrev⟩)).trans found))
  obtain ⟨sorted,ordered⟩ := Option.isSome_iff_exists.mp (recordable_member (show Recordable _ by rw [Recordable,made]; rfl) listed)
  obtain ⟨part,copies⟩ := copied_member copied found
  obtain ⟨plain,written,rfl⟩ := Option.map_eq_some_iff.mp copies
  exact ⟨_,sorted,by rw [line_lookup record copied,found,Option.bind_some,copies],ordered,reread_exact value written ordered⟩

theorem rehash_exact : normalizeForHash line = normalizeForHash prepared ↔
    ∀ name value, name ≠ "sha256" → name ≠ "sha256_prev" → lookup (.str name) prepared = some value → orderly value = true := by
  obtain ⟨text,sorted,normal,canonical,made⟩ := hashed_written copied hashed
  obtain ⟨json,_,read⟩ := Option.map_eq_some_iff.mp copied
  obtain ⟨document,rfl⟩ := fromJson_dict read
  obtain rfl : entryOf document = line := Value.dict.inj read
  have recordLine := entryOf_record document
  rw [normalize_entry,normal]
  constructor
  · intro same name value notHash notPrev found
    obtain ⟨part,document,there,ordered,reread⟩ := hashed_member record copied hashed notHash notPrev found
    have parts := canonical_fields (hashedPart_record record) (hashedPart_record recordLine) canonical same name
    have field := hashedPart_field notHash notPrev parts
    rw [SameField,found,there,Option.map_some,Option.map_some,Option.some.injEq,ordered] at field
    exact reread.mp field.symm
  · intro orderly
    have fields : ∀ name, SameField (hashedPart prepared) (hashedPart (entryOf document)) name := by
      intro name
      rw [SameField,lookup_hashedPart,lookup_hashedPart]
      split
      · rfl
      · rename_i plain
        rw [not_or] at plain
        cases found : lookup (.str name) prepared with
        | none => rw [line_lookup record copied,found,Option.bind_none]
        | some value =>
          obtain ⟨part,document,there,ordered,reread⟩ := hashed_member record copied hashed plain.1 plain.2 found
          rw [there,Option.map_some,Option.map_some,ordered,reread.mpr (orderly name value plain.1 plain.2 found)]
    have remade := record_same (hashedPart_record record) (hashedPart_record recordLine) made fields
    rw [← canonical,canonicalJsonDumps,canonicalJsonDumps,remade,made]

end Rehash

theorem items_empty (made : itemsJson false items = some json) : (fromItems json).isEmpty = items.isEmpty := by
  cases items with
  | nil =>
    cases made
    rfl
  | cons head rest =>
    simp only [itemsJson,Option.bind_eq_some_iff,Option.map_eq_some_iff] at made
    obtain ⟨_,_,_,_,rfl⟩ := made
    rfl

theorem update_nonempty (some_ : dict ≠ []) (changes : Dict) : Dict.update dict changes ≠ [] := by
  induction changes generalizing dict with
  | nil => exact some_
  | cons head rest ih =>
    refine ih ?_
    cases dict with
    | nil => exact absurd rfl some_
    | cons first more =>
      obtain ⟨key,value⟩ := first
      change store head.1 head.2 ((key,value) :: more) ≠ []
      rw [store]
      split <;> simp

theorem members_empty (made : toJson false (.dict members) = some (.obj json)) :
    (Dict.update [] (fromMembers json)).isEmpty = members.isEmpty := by
  have names := congrArg List.length (dict_names made)
  simp only [Bool.false_eq_true,if_false,List.length_map] at names
  cases json with
  | nil =>
    rw [List.length_eq_zero_iff.mp names.symm]
    rfl
  | cons head rest =>
    have nonempty : members ≠ [] := by
      rintro rfl
      cases names
    have updated : Dict.update [] (fromMembers (head :: rest)) ≠ [] :=
      update_nonempty (show store (.str head.1) (fromJson head.2) [] ≠ [] by simp [store]) (fromMembers rest)
    rw [List.isEmpty_eq_false_iff.mpr updated,List.isEmpty_eq_false_iff.mpr nonempty]

theorem truthy_copy (copies : jsonCopy value = some part) : part.truthy = value.truthy := by
  obtain ⟨json,written,rfl⟩ := Option.map_eq_some_iff.mp copies
  cases value with
  | list items | tuple items =>
    obtain ⟨parts,made,rfl⟩ := Option.map_eq_some_iff.mp written
    exact congrArg (! ·) (items_empty made)
  | dict members =>
    obtain ⟨named,rfl⟩ := toJson_dict_obj written
    exact congrArg (! ·) (members_empty written)
  | object text truth => cases written
  | _ => cases written; rfl

-- What the reader of the ledger does not take for something else: every member keeps the
-- order of its keys, and none is the reader's own mark of a line it could not read.
structure Clean (masking : Masking) (entry : Dict) : Prop where
  ordered : ∀ name value, name ∉ ["sha256","sha256_prev",classificationField] → lookup (.str name) entry = some value → orderly value = true
  unmarked : (redactValue masking (entry.get "__invalid__")).truthy = false

def LineOk (sha256 : String → String) (line : Dict) : Prop :=
  (line.get "__invalid__").truthy = false ∧
    ∃ text, normalizeForHash line = some text ∧ line.get "sha256" = .str (sha256 ((line.get "sha256_prev").orStr "" ++ text))

def Apart (sha256 : String → String) (entry line : Dict) : Prop :=
  ∀ first second, normalizeForHash entry = some first → normalizeForHash line = some second →
    sha256 ((line.get "sha256_prev").orStr "" ++ first) = sha256 ((line.get "sha256_prev").orStr "" ++ second) → first = second

section Entry
variable {masking : Masking} {sha256 : String → String} {raw prepared line : Dict} {previous : Option String} {now : String}
  (distinct : (raw.map Prod.fst).Nodup) (made : prepareEntry masking sha256 raw previous now = .ok (prepared,line))
include distinct made

omit distinct in
theorem prepared_ordered :
    (∀ name value, name ≠ "sha256" → name ≠ "sha256_prev" → lookup (.str name) prepared = some value → orderly value = true) ↔
      ∀ name value, name ∉ ["sha256","sha256_prev",classificationField] → lookup (.str name) raw = some value → orderly value = true := by
  obtain ⟨text,_,rfl,_⟩ := prepareEntry_parts made
  have masked : ∀ name value, orderly (maskMember masking name value) = orderly value := by
    intro name value
    unfold maskMember
    split
    · rfl
    · exact orderly_redact masking value
  have digest : ∀ {name : String}, name ≠ "sha256" → lookup (.str name)
      ((stampEntry masking raw previous now).set "sha256" (.str (sha256 (previous.getD "" ++ text)))) =
        lookup (.str name) (stampEntry masking raw previous now) := by
    intro name notHash
    rw [Dict.set,lookup_store,if_neg fun eq => notHash (Key.str.inj eq).symm]
  constructor
  · intro each name value plain found
    simp only [List.mem_cons,List.not_mem_nil,or_false,not_or] at plain
    obtain ⟨notHash,notPrev,notClass⟩ := plain
    have kept : lookup (.str name) (setDefault raw "created_at" (.str now)) = some value := by
      unfold setDefault
      split
      · exact found
      · rename_i absent
        have other : name ≠ "created_at" := by
          rintro rfl
          simp [Dict.has,found] at absent
        rw [Dict.set,lookup_store,if_neg fun eq => other (Key.str.inj eq).symm,found]
    rw [← masked name]
    exact each name _ notHash notPrev (by rw [digest notHash,lookup_stampEntry notPrev notClass,kept]; rfl)
  · intro each name value notHash notPrev found
    rw [digest notHash] at found
    by_cases isClass : name = classificationField
    · rw [isClass,stampEntry,redactEntry,Dict.set,lookup_store,if_pos rfl] at found
      cases found
      exact orderly_classification masking _
    · rw [lookup_stampEntry notPrev isClass] at found
      obtain ⟨given,there,rfl⟩ := Option.map_eq_some_iff.mp found
      rw [masked]
      unfold setDefault at there
      split at there
      · exact each name given (by simp [notHash,notPrev,isClass]) there
      · rw [Dict.set,lookup_store] at there
        split at there
        · cases there
          rfl
        · exact each name given (by simp [notHash,notPrev,isClass]) there

theorem invalid_copy : (line.get "__invalid__").truthy = (redactValue masking (raw.get "__invalid__")).truthy := by
  have record : Record raw := ⟨prepareEntry_named made,distinct⟩
  obtain ⟨text,_,rfl,copied⟩ := prepareEntry_parts made
  have kept : lookup (.str "__invalid__") ((stampEntry masking raw previous now).set "sha256" (.str (sha256 (previous.getD "" ++ text)))) =
      (lookup (.str "__invalid__") raw).map (redactValue masking) := by
    rw [Dict.set,lookup_store,if_neg (by decide),lookup_stampEntry (by decide) (by decide),lookup_setDefault _ (by decide)]
    rfl
  have found := line_lookup ((stampEntry_record record previous now).set _ _) copied (.str "__invalid__")
  rw [kept] at found
  rw [Dict.get,Dict.get,found]
  cases given : lookup (.str "__invalid__") raw with
  | none => rfl
  | some value =>
    rw [given] at kept
    obtain ⟨part,copies⟩ := copied_member copied kept
    rw [Option.map_some,Option.bind_some,copies]
    exact truthy_copy copies

theorem lineOk_exact : (Clean masking raw → LineOk sha256 line) ∧ (Apart sha256 prepared line → LineOk sha256 line → Clean masking raw) := by
  have record : Record raw := ⟨prepareEntry_named made,distinct⟩
  have facts := prepareEntry_prepared distinct made
  have invalid := invalid_copy distinct made
  have ordered := prepared_ordered made
  obtain ⟨text,hashed,same,copied⟩ := prepareEntry_parts made
  have normal : normalizeForHash prepared = some text := by rw [same,normalize_set,hashed]
  have preparedRecord : Record prepared := same ▸ (stampEntry_record record previous now).set _ _
  have exact_ := rehash_exact preparedRecord copied (by rw [normal]; rfl)
  have digest : line.get "sha256" = .str (sha256 (previous.getD "" ++ text)) := by
    rw [Dict.get,line_lookup preparedRecord copied,same,Dict.set,lookup_store,if_pos rfl]
    rfl
  have prev : (line.get "sha256_prev").orStr "" = previous.getD "" := by
    rw [facts.linked.2]
    cases previous with
    | none => rfl
    | some hash => by_cases empty : hash = "" <;> simp [optStr,Value.orStr,Value.truthy,Value.text,empty]
  rw [normal,ordered] at exact_
  unfold LineOk Apart
  rw [invalid,prev,digest]
  constructor
  · intro clean
    exact ⟨clean.unmarked,text,exact_.mpr clean.ordered,rfl⟩
  · rintro apart ⟨unmarked,other,renormal,equal⟩
    have texts := apart text other normal renormal (Value.str.inj equal)
    exact ⟨exact_.mp (texts ▸ renormal),unmarked⟩

end Entry

theorem linked_chained (text : previous = .none ∨ ∃ s, previous = .str s)
    (hashes : ∀ line ∈ lines, ∃ s, line.get "sha256" = .str s) (chained : Chained previous lines) :
    Linked sha256 previous lines ↔ ∀ line ∈ lines, LineOk sha256 line := by
  induction lines generalizing previous with
  | nil => simp [Linked]
  | cons line rest ih =>
    rw [List.forall_mem_cons] at hashes
    obtain ⟨hash,hashed⟩ := hashes.1
    have later := ih (.inr ⟨hash,hashed⟩) hashes.2 chained.2
    have expected : expectedPrev previous line = line.get "sha256_prev" := by
      rw [expectedPrev,chained.1,ite_self]
    have here : EntryOk sha256 previous line ↔ LineOk sha256 line := by
      constructor
      · intro ok
        obtain ⟨normal,same,digest⟩ := ok.hashed
        exact ⟨ok.valid,normal,same,by rw [digest,expected,combine]⟩
      · rintro ⟨valid,normal,same,digest⟩
        refine ⟨valid,fun some_ => ?_,normal,same,by rw [digest,expected,combine]⟩
        obtain ⟨s,rfl⟩ := text.resolve_left some_
        exact (pyEq_str _ _).mpr chained.1
    rw [Linked,here,later,List.forall_mem_cons]

section Runs
variable (cipher : Cipher) (storage : Storage)

def AllReturn (calls : List Call) : Prop :=
  ∀ before call after, calls = before ++ call :: after → ∃ prepared,
    (LogFiles.appendTrustLog cipher { storage with maxLines := call.maxLines } call.entry (runCalls cipher storage before).files).1 = .ok prepared

def Roomy (calls : List Call) : Prop := ∀ (index : Nat) call, calls[index]? = some call → index < call.maxLines

-- Every hash is found again, and the ledger is accepted with all the entries of the run.
structure Verifies (calls : List Call) : Prop where
  rehashed : ∀ item ∈ (runCalls cipher storage calls).history, ∃ hash, item.entry.get "sha256" = .str hash ∧
    computeFullEntryHash storage.sha256 item.line (item.line.get "sha256_prev") = some hash
  accepted : ∃ report, verifyFullLedger storage.sha256 (iterFullEntries cipher (runCalls cipher storage calls).files) = .ok report ∧
    report.ok = true ∧ report.validEntries = calls.length

def Made (call : Call) (item : Appended) : Prop :=
  ∃ previous now, prepareEntry storage.masking storage.sha256 call.entry previous now = .ok (item.entry,item.line)

structure Returned (calls : List Call) (log : Log) : Prop where
  tracked : Tracked cipher (runCalls cipher storage calls) log
  made : List.Forall₂ (Made storage) calls (runCalls cipher storage calls).history
  unrotated : (runCalls cipher storage calls).rotations = 0 ↔ Roomy calls
  full : (runCalls cipher storage calls).rotations = 0 → log.active.length = calls.length
  short : (runCalls cipher storage calls).rotations ≠ 0 → log.active.length < calls.length

end Runs

theorem roomy_concat (calls : List Call) (call : Call) : Roomy (calls ++ [call]) ↔ Roomy calls ∧ calls.length < call.maxLines := by
  constructor
  · intro roomy
    refine ⟨fun index other found => roomy index other ?_,roomy calls.length call (by simp)⟩
    rw [List.getElem?_append_left (List.getElem?_eq_some_iff.mp found).1,found]
  · rintro ⟨roomy,last⟩ index other found
    by_cases here : index < calls.length
    · exact roomy index other (by rw [← found,List.getElem?_append_left here])
    · rw [List.getElem?_append_right (by omega)] at found
      have first : index = calls.length := by
        have inside := (List.getElem?_eq_some_iff.mp found).1
        simp only [List.length_singleton] at inside
        omega
      subst first
      obtain rfl : call = other := by simpa using found
      exact last

theorem made_of (made : List.Forall₂ (Made storage) calls history) (listed : item ∈ history) : ∃ call ∈ calls, Made storage call item := by
  induction made with
  | nil => cases listed
  | cons first rest ih =>
    rcases List.mem_cons.mp listed with rfl | later
    · exact ⟨_,List.mem_cons_self,first⟩
    · obtain ⟨call,there,made⟩ := ih later
      exact ⟨call,List.mem_cons_of_mem _ there,made⟩

theorem made_to (made : List.Forall₂ (Made storage) calls history) (called : call ∈ calls) : ∃ item ∈ history, Made storage call item := by
  induction made with
  | nil => cases called
  | cons first rest ih =>
    rcases List.mem_cons.mp called with rfl | later
    · exact ⟨_,List.mem_cons_self,first⟩
    · obtain ⟨item,there,made⟩ := ih later
      exact ⟨item,List.mem_cons_of_mem _ there,made⟩

section Runs
variable {cipher : Cipher} {storage : Storage} (sound : Sound cipher) (hex : ∀ text, isSha256Hex (storage.sha256 text) = true)
include sound hex

theorem runCall_returned (tracked : Tracked cipher run log) (call : Call)
    (returned : (LogFiles.appendTrustLog cipher { storage with maxLines := call.maxLines } call.entry run.files).1 = .ok prepared) :
    ∃ line, prepareEntry storage.masking storage.sha256 call.entry (getLastHash log) (storage.createdAt log.appends) = .ok (prepared,line) ∧
      (TrustLog.appendTrustLog { storage with maxLines := call.maxLines } call.entry log).2 =
        writeLine call.maxLines line { log with appends := log.appends + 1 } ∧
      (runCall cipher storage run call).history = run.history ++ [⟨(runCall cipher storage run call).rotations,prepared⟩] ∧
      (runCall cipher storage run call).rotations = if log.active.length < call.maxLines then run.rotations else run.rotations + 1 := by
  have same := (appendTrustLog_holds sound { storage with maxLines := call.maxLines } hex call.positive call.distinct tracked.holds).1
  have wrote := appended_holds sound hex call tracked.holds
  obtain ⟨lines,text,active⟩ := tracked.holds.active
  have count : countLines run.files.active = log.active.length := by
    rw [countLines_content sound (torn_nothing cipher) text,active]
    simp [tail]
  rw [returned] at same
  unfold TrustLog.appendTrustLog at same ⊢
  cases fault : storage.appendFault log.appends with
  | before error =>
    simp only [fault] at same
    cases same
  | after error =>
    simp only [fault] at same
    split at same <;> cases same
  | none =>
    cases made : prepareEntry storage.masking storage.sha256 call.entry (getLastHash log) (storage.createdAt log.appends) with
    | error error =>
      simp only [fault,made] at same
      cases same
    | ok pair =>
      obtain ⟨entry,line⟩ := pair
      simp only [fault,made] at same wrote ⊢
      cases same
      rw [runCall,wrote,count]
      exact ⟨line,rfl,rfl,rfl,rfl⟩

theorem runCalls_returned (calls : List Call) (returned : AllReturn cipher storage calls) : ∃ log, Returned cipher storage calls log := by
  induction calls using List.reverseRecOn with
  | nil => exact ⟨{},start_tracked cipher,.nil,by simp [runCalls,Roomy],fun _ => rfl,fun rotated => absurd rfl rotated⟩
  | append_singleton calls call ih =>
    obtain ⟨log,before⟩ := ih fun first other rest split => returned first other (rest ++ [call]) (by simp [split])
    obtain ⟨prepared,answer⟩ := returned calls call [] rfl
    obtain ⟨line,made,after,history,rotations⟩ := runCall_returned sound hex before.tracked call answer
    have step : runCalls cipher storage (calls ++ [call]) = runCall cipher storage (runCalls cipher storage calls) call := by
      rw [runCalls,List.foldl_append,List.foldl_cons,List.foldl_nil]
      rfl
    have tracked := runCall_tracked sound hex call before.tracked
    rw [after] at tracked
    have copy : lineOf prepared = line := by
      rw [lineOf,(prepareEntry_prepared call.distinct made).copied]
      rfl
    refine ⟨_,by rw [step]; exact tracked,?_,?_,?_,?_⟩
    · rw [step,history]
      exact List.rel_append before.made (.cons ⟨_,_,by rw [Appended.line,copy]; exact made⟩ .nil)
    · rw [step,rotations,roomy_concat]
      by_cases room : log.active.length < call.maxLines
      · rw [if_pos room,before.unrotated]
        refine (and_iff_left_of_imp fun roomy => ?_).symm
        rw [← before.full (before.unrotated.mpr roomy)]
        exact room
      · rw [if_neg room]
        refine iff_of_false (by simp) ?_
        rintro ⟨roomy,more⟩
        rw [← before.full (before.unrotated.mpr roomy)] at more
        exact room more
    · rw [step,rotations]
      intro none_
      have room : log.active.length < call.maxLines := by
        by_contra full
        rw [if_neg full] at none_
        cases none_
      rw [if_pos room] at none_
      rw [writeLine_active,if_pos room]
      simp [before.full none_]
    · rw [step,rotations]
      intro rotated
      by_cases room : log.active.length < call.maxLines
      · rw [if_pos room] at rotated
        have fewer := before.short rotated
        rw [writeLine_active,if_pos room]
        simpa using fewer
      · have some_ : 0 < calls.length := by
          by_cases earlier : (runCalls cipher storage calls).rotations = 0
          · have := before.full earlier
            have := call.positive
            omega
          · have := before.short earlier
            omega
        rw [writeLine_active,if_neg room]
        simpa using some_

omit hex in
theorem fullEntry_line (index : Nat) (line : Line cipher) : fullEntry cipher index line.chars = some line.entry := by
  have some_ : line.chars ≠ [] := by simp [Line.chars,envelope]
  have opened : decrypt cipher line.chars = .ok line.text := decrypt_envelope sound line.draw line.text
  rw [fullEntry,stripBy_plain fun c listed => (line_plain sound line c listed).2.1]
  simp only [if_neg some_,opened,line.loaded]
  rfl

omit hex in
theorem iterFullEntries_holds (holds : Holds cipher files log) : iterFullEntries cipher files = log.active := by
  obtain ⟨lines,held,active⟩ := holds.active
  have read : ∀ (lines : List (Line cipher)) (start : Nat),
      ((lines.map Line.chars).zipIdx start).filterMap (fun line => fullEntry cipher line.2 line.1) = lines.map Line.entry := by
    intro lines
    induction lines with
    | nil => exact fun start => rfl
    | cons line rest ih =>
      intro start
      simp only [List.map_cons,List.zipIdx_cons,List.filterMap_cons,fullEntry_line sound,ih]
  rw [iterFullEntries,held,byteLines_content sound _ (torn_nothing cipher),active,tail,if_pos rfl,List.append_nil]
  exact read lines 0

theorem writable_returns (free : ∀ n, storage.appendFault n = .none) (writable : ∀ call ∈ calls, Writable call.entry) :
    AllReturn cipher storage calls := by
  intro before call after split
  obtain ⟨log,tracked⟩ := runCalls_tracked sound hex before
  have same := (appendTrustLog_holds sound { storage with maxLines := call.maxLines } hex call.positive call.distinct tracked.holds).1
  rw [same]
  exact appendTrustLog_succeeds (writable call (by simp [split])) (free log.appends)

end Runs

-- Numbers as keys are sorted by value when an entry is appended, and as texts when its line
-- is verified; the two SHA-256 digests differ.
def scoresEntry : Dict := [(.str "scores",.dict [(.int 10,.str "a"),(.int 2,.str "b")])]

def scoresText : String :=
  "\x7b\"_data_classification\":\x7b\"contains_pii\":false,\"contains_secret\":false,\"fields\":\x7b\"created_at\":\"public\"," ++
    "\"scores.10\":\"public\",\"scores.2\":\"public\",\"sha256_prev\":\"public\"\x7d,\"schema_version\":\"1.0\"\x7d," ++
    "\"created_at\":\"2026-01-01T00:00:00+00:00\",\"scores\":\x7b\"2\":\"b\",\"10\":\"a\"\x7d\x7d"

def scoresDigest (text : String) : String :=
  if text = scoresText then "3ef95e4b3fe417cfa97ef9bb1479d618a1990ed040bc74402e979be46e829e0d"
  else "661760c550101cf5c6cb3c92c02300c7a3a8ca1b60835a93c54a4ad4775dc978"

def scoresStorage : Storage := { stepStorage with sha256 := scoresDigest }

def scoresCall : Call := ⟨5000,scoresEntry,by decide,by simp [scoresEntry]⟩

theorem scoresDigest_hex (text : String) : isSha256Hex (scoresStorage.sha256 text) = true := by
  change isSha256Hex (scoresDigest text) = true
  unfold scoresDigest
  split <;> rfl

end VeritasOs.LogVerify
