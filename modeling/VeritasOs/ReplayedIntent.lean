import VeritasOs.BindReplay
import VeritasOs.JsonData

namespace VeritasOs.BindCore
open Text JsonText Interaction BindArtifacts

variable {S : Type} {sha256 : String → String}

-- The receipt names the intent, its decision and its hash.
structure OfIntent (sha256 : String → String) (intent : ExecutionIntent) (receipt : BindReceipt) : Prop where
  intentId : receipt.executionIntentId = intent.executionIntentId
  decisionId : receipt.decisionId = intent.decisionId
  hash : hashExecutionIntent sha256 intent = .ok receipt.executionIntentHash

-- The entry files the receipt under the intent's identifiers and the key. An empty identifier
-- is filed under any.
structure Files (entry : Dict) (intent : ExecutionIntent) (key : String) (receipt : BindReceipt) : Prop where
  kind : entry.get "kind" = .str bindReceiptKind
  intentId : intent.executionIntentId = "" ∨ entry.get "execution_intent_id" = .str intent.executionIntentId
  decisionId : intent.decisionId = "" ∨ entry.get "decision_id" = .str intent.decisionId
  extracted : extractBindReceipt entry = some receipt
  keyed : receiptKey receipt = key

def Newest (entries : List Dict) (intent : ExecutionIntent) (key : String) (receipt : BindReceipt) : Prop :=
  ∃ earlier entry later, entries = earlier ++ entry :: later ∧ Files entry intent key receipt ∧
    ∀ other ∈ later, ∀ newer, ¬Files other intent key newer

theorem matchesFilter_iff (wanted : String) (found : Value) : matchesFilter wanted found = true ↔ wanted = "" ∨ found = .str wanted := by
  simp [matchesFilter]

variable {entries : List Dict} {intent : ExecutionIntent} {key : String} {receipt stored : BindReceipt}

theorem newest_concat : Newest (entries ++ [entry]) intent key receipt ↔
      Files entry intent key receipt ∨ (∀ newer, ¬Files entry intent key newer) ∧ Newest entries intent key receipt := by
  constructor
  · rintro ⟨earlier,found,later,split,files,last⟩
    rcases List.eq_nil_or_concat' later with rfl | ⟨rest,final,rfl⟩
    · obtain ⟨-,same⟩ := List.append_inj' split rfl
      cases same
      exact .inl files
    · rw [← List.cons_append,← List.append_assoc] at split
      obtain ⟨rfl,same⟩ := List.append_inj' split rfl
      cases same
      exact .inr ⟨last entry (by simp),earlier,found,rest,rfl,files,fun other listed => last other (by simp [listed])⟩
  · rintro (files | ⟨unfiled,earlier,found,later,rfl,files,last⟩)
    · exact ⟨entries,entry,[],rfl,files,by simp⟩
    · refine ⟨earlier,found,later ++ [entry],by simp,files,fun other listed => ?_⟩
      rcases List.mem_append.mp listed with old | new
      · exact last other old
      · obtain rfl := List.mem_singleton.mp new
        exact unfiled

theorem lookup_concat (entries : List Dict) (entry : Dict) (intent : ExecutionIntent) (key : String) :
    findDuplicateBindReceipt (entries ++ [entry]) intent key =
      ((findBindReceipts [entry] "" intent.executionIntentId intent.decisionId).find? fun receipt =>
        receiptKey receipt ≠ "" ∧ receiptKey receipt = key).or (findDuplicateBindReceipt entries intent key) := by
  unfold findDuplicateBindReceipt findBindReceipts
  rw [List.filterMap_append,List.reverse_append,List.find?_append]
  congr 1
  rw [List.filterMap_cons,List.filterMap_nil]
  split
  · rfl
  · rfl

theorem files_iff (present : key ≠ "") : ((findBindReceipts [entry] "" intent.executionIntentId intent.decisionId).find? fun receipt =>
      receiptKey receipt ≠ "" ∧ receiptKey receipt = key) = some receipt ↔ Files entry intent key receipt := by
  have filed : receipt ∈ findBindReceipts [entry] "" intent.executionIntentId intent.decisionId ↔
      entry.get "kind" = .str bindReceiptKind ∧ (intent.executionIntentId = "" ∨ entry.get "execution_intent_id" = .str intent.executionIntentId) ∧
      (intent.decisionId = "" ∨ entry.get "decision_id" = .str intent.decisionId) ∧ extractBindReceipt entry = some receipt := by
    simp only [findBindReceipts,List.mem_filterMap,List.mem_singleton,exists_eq_left]
    split
    · rename_i filters
      simp only [Bool.and_eq_true,decide_eq_true_eq,matchesFilter_iff] at filters
      exact ⟨fun taken => ⟨filters.1.1.1,filters.1.2,filters.2,taken⟩,fun parts => parts.2.2.2⟩
    · rename_i filters
      simp only [Bool.and_eq_true,decide_eq_true_eq,matchesFilter_iff] at filters
      exact iff_of_false (by simp) fun parts => filters ⟨⟨⟨parts.1,.inl trivial⟩,parts.2.1⟩,parts.2.2.1⟩
  have single : (findBindReceipts [entry] "" intent.executionIntentId intent.decisionId).length ≤ 1 := List.length_filterMap_le _ _
  constructor
  · intro found
    obtain ⟨kind,intentId,decisionId,extracted⟩ := filed.mp (List.mem_of_find?_eq_some found)
    have keyed := List.find?_some found
    simp only [decide_eq_true_eq] at keyed
    exact ⟨kind,intentId,decisionId,extracted,keyed.2⟩
  · intro files
    have listed := filed.mpr ⟨files.kind,files.intentId,files.decisionId,files.extracted⟩
    obtain ⟨only,alone⟩ := List.length_eq_one_iff.mp (Nat.le_antisymm single (List.length_pos_of_mem listed))
    rw [alone] at listed ⊢
    obtain rfl := List.mem_singleton.mp listed
    rw [List.find?_cons_of_pos]
    exact decide_eq_true ⟨files.keyed ▸ present,files.keyed⟩

theorem find_newest (present : key ≠ "") :
    findDuplicateBindReceipt entries intent key = some receipt ↔ Newest entries intent key receipt := by
  induction entries using List.reverseRecOn with
  | nil =>
    refine iff_of_false (by simp [findDuplicateBindReceipt,findBindReceipts]) ?_
    rintro ⟨earlier,entry,later,split,-⟩
    exact absurd split (by simp)
  | append_singleton entries entry ih =>
    rw [lookup_concat,newest_concat,← ih,Option.or_eq_some_iff,files_iff present]
    refine or_congr Iff.rfl (and_congr ?_ Iff.rfl)
    rw [Option.eq_none_iff_forall_ne_some]
    exact forall_congr' fun newer => not_congr (files_iff present)

theorem enabled_explicit (enabled : idempotencyReplayEnabled adapterKey intent = true) :
    explicitKey adapterKey intent = some (resolveIdempotencyKey adapterKey intent) := by
  unfold explicitKey resolveIdempotencyKey
  unfold idempotencyReplayEnabled at enabled
  by_cases given : adapterKey ≠ ""
  · rw [if_pos given,if_pos given]
  · rw [if_neg given,if_neg given]
    obtain ⟨key,approved⟩ := Option.isSome_iff_exists.mp (show (approvalKey intent).isSome = true by simpa [given] using enabled)
    rw [approved,Option.getD_some]

theorem prelude_replays (replayed : Returns (prelude sha256 call : Bind S (Stage S)) trace (.replayed receipt)) :
    ∃ clock rawKey entries key stored, (∀ event ∈ clock, event.1 = .utcNow) ∧
      trace = clock ++ [⟨.buildIdempotencyKey call.intent,.ok rawKey⟩,⟨.iterTrustLog,entries⟩] ∧
      explicitKey (strip (rawKey.orStr "")) call.intent = some key ∧ findDuplicateBindReceipt entries call.intent key = some stored ∧
      receipt = replayedReceipt stored key := by
  unfold prelude at replayed
  obtain ⟨ts,clock,r1,rfl,stamped,keyed⟩ := returns_bind.mp replayed
  obtain ⟨answer,rawKey,r2,rfl,decoded,looked⟩ := ask_lift_returns keyed
  obtain ⟨found,l3,r3,rfl,searched,rest⟩ := returns_bind.mp looked
  cases found with
  | some stored =>
    obtain ⟨rfl,same⟩ := returns_pure.mp rest
    cases same
    obtain ⟨-,-,replay⟩ := lookupDuplicate_returns searched
    obtain ⟨entries,rfl,hit⟩ := replay stored rfl
    have enabled : idempotencyReplayEnabled (strip (rawKey.orStr "")) call.intent = true := by
      unfold lookupDuplicate at searched
      split at searched
      · rename_i both
        exact ((Bool.and_eq_true _ _).mp both).2
      · cases (returns_pure.mp searched).2
    subst decoded
    exact ⟨clock,rawKey,entries,_,stored,(bindTimestamp_returns stamped).1,by simp,enabled_explicit enabled,hit,rfl⟩
  | none =>
    obtain ⟨base,l4,r4,rfl,based,gated⟩ := returns_bind.mp rest
    obtain ⟨outcome,l5,r5,rfl,passed,last⟩ := returns_bind.mp gated
    cases outcome <;> cases (returns_pure.mp last).2

theorem ofIntent_replayed (key : String) : OfIntent sha256 intent (replayedReceipt stored key) ↔ OfIntent sha256 intent stored :=
  ⟨fun own => ⟨own.intentId,own.decisionId,own.hash⟩,fun own => ⟨own.intentId,own.decisionId,own.hash⟩⟩

theorem intent_named (intent : ExecutionIntent) : StrKeys intent.toDict := by simp [StrKeys,ExecutionIntent.toDict,field]

theorem ofIntent_same (injective : Function.Injective sha256) (own : OfIntent sha256 earlier stored) :
    OfIntent sha256 intent stored ↔ SameJson (.dict earlier.toDict) (.dict intent.toDict) := by
  have dumps : ∀ {intent : ExecutionIntent} {hash : String}, hashExecutionIntent sha256 intent = .ok hash →
      ∃ text, canonicalJsonDumps (.dict intent.toDict) = some text ∧ hash = sha256 text := by
    intro intent hash hashed
    unfold hashExecutionIntent sha256OfCanonicalJson at hashed
    split at hashed
    · cases hashed
    · rename_i text dumped
      exact ⟨text,dumped,(Except.ok.inj hashed).symm⟩
  obtain ⟨text,dumped,hash⟩ := dumps own.hash
  constructor
  · intro again
    obtain ⟨other,redumped,rehash⟩ := dumps again.hash
    obtain rfl := injective (hash.symm.trans rehash)
    exact canonical_exact dumped redumped
  · intro same
    have redumped : canonicalJsonDumps (.dict intent.toDict) = some text := by
      rw [canonicalJsonDumps] at dumped ⊢
      rw [← same]
      exact dumped
    have kept : ∀ {name s}, (Key.str name,Value.str s) ∈ earlier.toDict → (Key.str name,Value.str s) ∈ intent.toDict := fun held =>
      canonical_str_member _ _ dumped redumped (intent_named intent) held
    have intentId : (Key.str "execution_intent_id",Value.str earlier.executionIntentId) ∈ intent.toDict := kept (by simp [ExecutionIntent.toDict,field])
    have decisionId : (Key.str "decision_id",Value.str earlier.decisionId) ∈ intent.toDict := kept (by simp [ExecutionIntent.toDict,field])
    simp [ExecutionIntent.toDict,field] at intentId decisionId
    refine ⟨own.intentId.trans intentId,own.decisionId.trans decisionId,?_⟩
    rw [hashExecutionIntent,sha256OfCanonicalJson,redumped,hash]

theorem replayed_intent_exact (sha256 : String → String) (call : Call) (trace : Trace S) (entries : List Dict) (receipt : BindReceipt)
    (replayed : Returns (prelude sha256 call : Bind S (Stage S)) trace (.replayed receipt)) (read : ⟨.iterTrustLog,entries⟩ ∈ trace) :
    Returns (executeBindAdjudication sha256 call) trace receipt ∧ ∃ key, key ≠ "" ∧ receipt.labels.idempotencyKey = some key ∧
      (OfIntent sha256 call.intent receipt ↔ ∃ stored, Newest entries call.intent key stored ∧ OfIntent sha256 call.intent stored) ∧
      ∀ earlier stored, Newest entries call.intent key stored → OfIntent sha256 earlier stored → Function.Injective sha256 →
        (OfIntent sha256 call.intent receipt ↔ SameJson (.dict earlier.toDict) (.dict call.intent.toDict)) := by
  obtain ⟨clock,rawKey,entries',key,stored,clocked,rfl,chosen,hit,rfl⟩ := prelude_replays replayed
  obtain rfl : entries = entries' := by
    rcases List.mem_append.mp read with timed | later
    · cases clocked _ timed
    · simpa using later
  obtain ⟨-,-,present,-⟩ := explicitKey_some chosen
  have newest := (find_newest present).mp hit
  have unique : ∀ {other}, Newest entries call.intent key other → other = stored := fun also =>
    Option.some.inj (((find_newest present).mpr also).symm.trans hit)
  refine ⟨returns_bind.mpr ⟨_,_,[],by simp,replayed,returns_pure.mpr ⟨rfl,rfl⟩⟩,key,present,rfl,?_,?_⟩
  · rw [ofIntent_replayed]
    constructor
    · exact fun own => ⟨stored,newest,own⟩
    · rintro ⟨other,also,own⟩
      exact unique also ▸ own
  · intro earlier other also own injective
    obtain rfl := unique also
    rw [ofIntent_replayed]
    exact ofIntent_same injective own

-- A log with the receipt of the sample intent, and an intent with another target under its identifiers.
def filedReceipt (hash : String) : BindReceipt :=
  { bindReceiptId := "receipt-1",executionIntentId := "intent-1",decisionId := "decision-1",bindTs := "2024-01-01T00:00:00Z",
    finalOutcome := .committed,executionIntentHash := hash,revalidationContext := [field "idempotency_key" (.str "key-1")] }

def intentHash (intent : ExecutionIntent) : String := (canonicalJsonDumps (.dict intent.toDict)).getD ""

def filedLog : List Dict := [bindReceiptEntry (filedReceipt (intentHash sampleIntent))]

def retargeted : ExecutionIntent := { sampleIntent with targetResource := "treasury" }

theorem filed_newest (hash : String) : ∃ stored, stored.executionIntentId = "intent-1" ∧ stored.decisionId = "decision-1" ∧
    stored.executionIntentHash = hash ∧ receiptKey stored = "key-1" ∧ extractBindReceipt (bindReceiptEntry (filedReceipt hash)) = some stored := by
  have keyed : strip ((Dict.get [field "idempotency_key" (.str "key-1")] "idempotency_key").orStr "") = "key-1" := by decide +kernel
  refine ⟨_,?_,?_,?_,?_,rfl⟩
  · rfl
  · rfl
  · exact orStr_str hash
  · exact keyed

theorem sampleIntent_hashed : hashExecutionIntent id sampleIntent = .ok (intentHash sampleIntent) := by
  obtain ⟨text,dumped⟩ : ∃ text, canonicalJsonDumps (.dict sampleIntent.toDict) = some text := ⟨_,rfl⟩
  rw [hashExecutionIntent,sha256OfCanonicalJson,intentHash,dumped]
  rfl

theorem filed_found (intentId : intent.executionIntentId = "intent-1") (decisionId : intent.decisionId = "decision-1") :
    ∃ stored, OfIntent id sampleIntent stored ∧ Newest filedLog intent "key-1" stored := by
  obtain ⟨stored,named,decided,hash,keyed,extracted⟩ := filed_newest (intentHash sampleIntent)
  refine ⟨stored,⟨named,decided,hash ▸ sampleIntent_hashed⟩,[],_,[],rfl,⟨rfl,.inr ?_,.inr ?_,extracted,keyed⟩,by simp⟩
  · rw [intentId]; rfl
  · rw [decisionId]; rfl

theorem replays_prelude (timed : nonempty (call.bindTs.getD "") = some ts)
    (appends : call.appendTrustlog = true) (chosen : explicitKey (strip (rawKey.orStr "")) call.intent = some key)
    (hit : findDuplicateBindReceipt entries call.intent key = some stored) :
    Returns (prelude sha256 call : Bind S (Stage S)) [⟨.buildIdempotencyKey call.intent,.ok rawKey⟩,⟨.iterTrustLog,entries⟩]
      (.replayed (replayedReceipt stored key)) := by
  obtain ⟨enabled,resolved,-,-⟩ := explicitKey_some chosen
  have stamped : Returns (bindTimestamp call : Bind S String) [] ts := by
    unfold bindTimestamp
    rw [timed]
    exact returns_pure.mpr ⟨rfl,rfl⟩
  have looked : Returns (lookupDuplicate call (strip (rawKey.orStr "")) key : Bind S (Option BindReceipt)) [⟨.iterTrustLog,entries⟩] (some stored) := by
    unfold lookupDuplicate
    rw [appends,enabled,← hit]
    exact .more (.done _)
  unfold prelude
  refine returns_bind.mpr ⟨ts,[],_,rfl,stamped,?_⟩
  refine returns_bind.mpr ⟨rawKey,[⟨.buildIdempotencyKey call.intent,.ok rawKey⟩],[⟨.iterTrustLog,entries⟩],rfl,.more (.done _),?_⟩
  dsimp only
  rw [resolved]
  exact returns_bind.mpr ⟨some stored,_,[],rfl,looked,returns_pure.mpr ⟨rfl,rfl⟩⟩

def replayTrace (intent : ExecutionIntent) : Trace Unit :=
  [⟨.buildIdempotencyKey intent,.ok (.str "key-1")⟩,⟨.iterTrustLog,filedLog⟩]

theorem sample_replays (newest : Newest filedLog intent "key-1" stored) :
    Returns (prelude id { sampleCall with intent } : Bind Unit (Stage Unit)) (replayTrace intent) (.replayed (replayedReceipt stored "key-1")) := by
  have key : strip ((Value.str "key-1").orStr "") = "key-1" := by decide +kernel
  refine replays_prelude rfl rfl ?_ ((find_newest (by decide)).mpr newest)
  rw [key,explicitKey,if_pos (by decide)]

theorem replayed_intent_exact_sample : ∃ receipt, Returns (executeBindAdjudication id sampleCall) (replayTrace sampleIntent) receipt ∧
    OfIntent id sampleIntent receipt := by
  obtain ⟨stored,own,newest⟩ := @filed_found sampleIntent rfl rfl
  obtain ⟨returned,key,-,labelled,answers,-⟩ := replayed_intent_exact id sampleCall (replayTrace sampleIntent) filedLog _
    (sample_replays newest) (by simp [replayTrace])
  obtain rfl := Option.some.inj labelled
  exact ⟨_,returned,answers.mpr ⟨stored,newest,own⟩⟩

theorem retargeted_replayed : ∃ receipt, Returns (executeBindAdjudication id { sampleCall with intent := retargeted }) (replayTrace retargeted) receipt ∧
    Returns (prelude id { sampleCall with intent := retargeted } : Bind Unit (Stage Unit)) (replayTrace retargeted) (.replayed receipt) ∧
    ¬OfIntent id retargeted receipt := by
  obtain ⟨stored,own,newest⟩ := @filed_found retargeted rfl rfl
  have replayed := sample_replays newest
  refine ⟨_,returns_bind.mpr ⟨_,_,[],by simp,replayed,returns_pure.mpr ⟨rfl,rfl⟩⟩,replayed,?_⟩
  rw [ofIntent_replayed,ofIntent_same Function.injective_id own]
  intro same
  obtain ⟨text,dumped⟩ : ∃ text, canonicalJsonDumps (.dict sampleIntent.toDict) = some text := ⟨_,rfl⟩
  have redumped : canonicalJsonDumps (.dict retargeted.toDict) = some text := by
    rw [canonicalJsonDumps] at dumped ⊢
    rw [← same]
    exact dumped
  have target : (Key.str "target_resource",Value.str "config") ∈ retargeted.toDict :=
    canonical_str_member _ _ dumped redumped (intent_named _) (by simp [ExecutionIntent.toDict,field,sampleIntent])
  simp [ExecutionIntent.toDict,field,retargeted,sampleIntent] at target

end VeritasOs.BindCore
