import VeritasOs.BindReverify

namespace VeritasOs.BindCore
open Text DateTime Interaction BindArtifacts BindAdmissibility DecisionSemantics

variable {W S : Type} {sha256 : String → String} {storage : TrustLog.Storage}

def explicitKey (adapterKey : String) (intent : ExecutionIntent) : Option String :=
  if adapterKey ≠ "" then some adapterKey else approvalKey intent

theorem strippedText_ne (found : strippedText value = some s) : s ≠ "" ∧ strip s = s := by
  unfold strippedText at found
  split at found
  · split at found
    · cases found
    · rename_i text present
      cases found
      exact ⟨present,strip_strip text⟩
  · cases found

variable {intent : ExecutionIntent} {key : String} {triple : Triple} {around : Surroundings} {adapter : Adapter W S} {host : Host W}
variable {call : Call} {trace : Trace S} {final : Host W} {outcome : Except Exc BindReceipt} {count : Nat}

theorem approvalKey_ne (found : approvalKey intent = some key) : key ≠ "" ∧ strip key = key := by
  obtain ⟨approval,_,text⟩ := Option.bind_eq_some_iff.mp found
  exact strippedText_ne text

theorem explicitKey_some (found : explicitKey (strip raw) intent = some key) :
    idempotencyReplayEnabled (strip raw) intent = true ∧ resolveIdempotencyKey (strip raw) intent = key ∧ key ≠ "" ∧ strip key = key := by
  unfold explicitKey at found
  split at found
  · rename_i given
    cases found
    exact ⟨by simp [idempotencyReplayEnabled,given],by simp [resolveIdempotencyKey,given],given,strip_strip raw⟩
  · rename_i absent
    obtain ⟨present,stripped⟩ := approvalKey_ne found
    exact ⟨by simp [idempotencyReplayEnabled,found],by simp [resolveIdempotencyKey,absent,found],present,stripped⟩

structure Triple where
  executionIntentId : String
  decisionId : String
  idempotencyKey : String
deriving DecidableEq

-- The triple of a call, when the adapter or the approval names a key.
def tripleOf (intent : ExecutionIntent) (rawKey : Value) : Option Triple :=
  (explicitKey (strip (rawKey.orStr "")) intent).map fun key => ⟨intent.executionIntentId,intent.decisionId,key⟩

def Findable (entries : List Dict) (triple : Triple) : Prop :=
  ∃ receipt ∈ findBindReceipts entries "" triple.executionIntentId triple.decisionId,
    receiptKey receipt ≠ "" ∧ receiptKey receipt = triple.idempotencyKey

theorem Findable.mono (found : Findable entries triple) (kept : ∀ entry ∈ entries, entry ∈ more) : Findable more triple := by
  obtain ⟨receipt,listed,keyed⟩ := found
  obtain ⟨entry,there,read⟩ := List.mem_filterMap.mp listed
  exact ⟨receipt,List.mem_filterMap.mpr ⟨entry,kept entry there,read⟩,keyed⟩

theorem Findable.hit (found : Findable entries ⟨intent.executionIntentId,intent.decisionId,key⟩) :
    ∃ receipt, findDuplicateBindReceipt entries intent key = some receipt := by
  obtain ⟨receipt,listed,keyed⟩ := found
  refine Option.isSome_iff_exists.mp (List.find?_isSome.mpr ⟨receipt,List.mem_reverse.mpr listed,?_⟩)
  simpa using keyed

-- The masking leaves alone what the reader of a receipt compares or parses.
structure LabelsKept (masking : TrustLog.Masking) : Prop where
  kind : masking.redactString bindReceiptKind = bindReceiptKind
  outcomes : ∀ outcome : FinalOutcome, masking.redactString outcome.value = outcome.value

-- The masking leaves the identifiers of the triple alone.
structure TripleKept (masking : TrustLog.Masking) (triple : Triple) : Prop where
  intent : masking.redactString triple.executionIntentId = triple.executionIntentId
  key : masking.redactString triple.idempotencyKey = triple.idempotencyKey

theorem dict_part {masking : TrustLog.Masking} {inner fields : Dict} {name : String}
    (part : ∃ copy, jsonCopy (TrustLog.redactValue masking (.dict inner)) = some copy ∧ fields.get name = copy) :
    ∃ members, fields.get name = .dict members := by
  obtain ⟨copy,same,found⟩ := part
  rw [TrustLog.redactValue] at same
  obtain ⟨json,made,rfl⟩ := Option.map_eq_some_iff.mp same
  obtain ⟨members,rfl⟩ := toJson_dict_obj made
  exact ⟨_,found⟩

theorem revalidation_record (intent : ExecutionIntent) (policy : BindPolicyConfig) (ttl approval : Option String) (key : String) :
    Record (buildRevalidationContext intent policy ttl approval key) :=
  ⟨by simp [StrKeys,buildRevalidationContext,field],by simp [buildRevalidationContext,field]⟩

theorem line_findable (labels : LabelsKept storage.masking) (kept : TripleKept storage.masking triple)
    (stored : ReceiptLine storage candidate line) (intentId : candidate.executionIntentId = triple.executionIntentId)
    (decisionId : candidate.decisionId = triple.decisionId)
    (context : candidate.revalidationContext = buildRevalidationContext intent policy ttl approval triple.idempotencyKey)
    (present : triple.idempotencyKey ≠ "") (stripped : strip triple.idempotencyKey = triple.idempotencyKey) (before : List Dict) :
    Findable (before ++ [line]) triple := by
  obtain ⟨fields,there,parts⟩ := stored.payload
  obtain ⟨authority,authorityOk⟩ := dict_part (parts "authority_check_result" _ rfl)
  obtain ⟨constraint,constraintOk⟩ := dict_part (parts "constraint_check_result" _ rfl)
  obtain ⟨drift,driftOk⟩ := dict_part (parts "drift_check_result" _ rfl)
  obtain ⟨risk,riskOk⟩ := dict_part (parts "risk_check_result" _ rfl)
  obtain ⟨admissibility,admissibilityOk⟩ := dict_part (parts "admissibility_result" _ rfl)
  have outcomeOk := text_part (parts "final_outcome" _ rfl)
  rw [labels.outcomes] at outcomeOk
  obtain ⟨copy,same,contextOk⟩ := parts "revalidation_context" _ rfl
  rw [context] at same
  obtain ⟨revalidation,rfl,members⟩ := redacted_copy (revalidation_record _ _ _ _ _) same
  have keyOk := text_part (members "idempotency_key" _ rfl)
  rw [kept.key] at keyOk
  have kind := stored.kind
  rw [labels.kind] at kind
  obtain ⟨receipt,made,revalidated⟩ := receiptFrom_isOk
    (if (fields.get "trustlog_hash").truthy then (fields.get "trustlog_hash").text else (line.get "sha256").orStr "")
    (fields.get "rollback_reason") (fields.get "escalation_reason") (fields.get "prev_bind_hash")
    authorityOk constraintOk driftOk riskOk admissibilityOk outcomeOk contextOk
  have extracted : extractBindReceipt line = some receipt := by
    simp only [extractBindReceipt,kind,there,Value.asDict?,ne_eq,not_true_eq_false,if_false]
    rw [made]
    rfl
  have keyed : receiptKey receipt = triple.idempotencyKey := by
    rw [receiptKey,revalidated,keyOk,orStr_str,stripped]
  refine ⟨receipt,List.mem_filterMap.mpr ⟨line,by simp,?_⟩,by rwa [keyed],keyed⟩
  simp [kind,matchesFilter,stored.intent,stored.decision,intentId,decisionId,kept.intent,extracted]

-- An append that rotates the log drops the receipts in it.
def Room (storage : TrustLog.Storage) (op : Op S) (host : Host W) : Prop :=
  ∀ entry, op = .appendTrustLog entry → host.log.active.length < storage.maxLines

theorem append_findable (room : log.active.length < storage.maxLines)
    (found : Findable log.active triple) : Findable (TrustLog.appendTrustLog storage entry log).2.active triple := by
  rcases TrustLog.appendTrustLog_lines storage entry log with ⟨_,same⟩ | ⟨prepared,line,_,_,same⟩
  · rwa [same]
  · rw [same,TrustLog.rotateIfNeeded_room room]
    exact found.mono fun old listed => List.mem_append_left _ listed

theorem handler_findable (room : Room around.storage op host) (found : Findable host.log.active triple) :
    Findable (handler around adapter op host).2.log.active triple := by
  cases op with
  | appendTrustLog entry => exact append_findable (room entry rfl) found
  | _ => exact found

theorem opens_host (opens : Opens call trace adapterKey key) (follows : Follows (handler around adapter) host trace final) :
    ∃ rawKey rest, (adapter.buildIdempotencyKey call.intent host.world).1 = .ok rawKey ∧ adapterKey = strip (rawKey.orStr "") ∧
      key = resolveIdempotencyKey adapterKey call.intent ∧ Missed call rest adapterKey key ∧
      Follows (handler around adapter) { host with world := (adapter.buildIdempotencyKey call.intent host.world).2 } rest final := by
  obtain ⟨rawKey,clock,rest,rfl,clocked,same,resolved,missed⟩ := opens
  obtain ⟨middle,early,later⟩ := (follows_append _ _ _ _ _).mp follows
  have still : middle = host := (follows_invariant (fun op => op = .utcNow) (fun state => state = host)
    (by rintro op rfl state rfl; rfl) early clocked rfl).1
  subst still
  exact ⟨rawKey,rest,later.1.symm,same,resolved,missed,later.2⟩

def submitted (adapter : Adapter W S) (call : Call) (host : Host W) : Option Triple :=
  match (adapter.buildIdempotencyKey call.intent host.world).1 with
  | .ok rawKey => tripleOf call.intent rawKey
  | .error _ => none

theorem tripleOf_some (found : tripleOf intent rawKey = some triple) :
    intent.executionIntentId = triple.executionIntentId ∧ intent.decisionId = triple.decisionId ∧
      explicitKey (strip (rawKey.orStr "")) intent = some triple.idempotencyKey := by
  obtain ⟨key,chosen,rfl⟩ := Option.map_eq_some_iff.mp found
  exact ⟨rfl,rfl,chosen⟩

structure Steady (trace : Trace S) : Prop where
  handled : HandledOnly trace
  quiet : Quiet trace
  recordable : AnswersRecordable trace
  appended : AppendsSucceed trace

def Applied (trace : Trace S) : Prop := ∃ event ∈ trace, event.1.isApply = true

-- With a receipt of its triple in a readable log a call does not come to the effect.
theorem findable_unapplied (appends : call.appendTrustlog = true)
    (key : submitted adapter call host = some triple) (readable : around.storage.readFault host.log.reads = false)
    (found : Findable host.log.active triple) (follows : Follows (handler around adapter) host trace final)
    (path : Leads (executeBindAdjudication sha256 call) trace last) : ¬Applied trace := by
  intro applied
  obtain ⟨clearance,before,after,rfl,staged,_⟩ := applied_parts path applied
  obtain ⟨ts,adapterKey,resolved,admitted⟩ := prelude_cleared staged
  obtain ⟨setup,gates,_,rfl,_,_,opens,_⟩ := admitted.passage
  obtain ⟨rawKey,rest,answer,rfl,rfl,missed,later⟩ := opens_host ((opens.append gates).append after) follows
  rw [submitted,answer] at key
  obtain ⟨intentId,decisionId,chosen⟩ := tripleOf_some key
  obtain ⟨enabled,same,_,_⟩ := explicitKey_some chosen
  obtain ⟨entries,others,rfl,none_⟩ := missed (by rw [appends,enabled]; rfl)
  have listed : Findable host.log.active ⟨call.intent.executionIntentId,call.intent.decisionId,triple.idempotencyKey⟩ := by
    rw [intentId,decisionId]
    exact found
  obtain ⟨receipt,hit⟩ := listed.hit
  have read : entries = host.log.active := by
    rw [show entries = _ from later.1]
    simp [handler,onLog,TrustLog.iterTrustLog,readable]
  rw [read,same,hit] at none_
  cases none_

theorem written_findable (labels : LabelsKept storage.masking) (kept : TripleKept storage.masking triple)
    (appends : call.appendTrustlog = true)
    (keyed : ∀ adapterKey key, Opens call trace adapterKey key → ∃ rawKey, adapterKey = strip (rawKey.orStr "") ∧ tripleOf call.intent rawKey = some triple)
    (path : Leads (executeBindAdjudication storage.sha256 call) trace (finished outcome)) (applied : Applied trace)
    (steady : Steady trace) : ∃ before entry answer, trace = before ++ [⟨.appendTrustLog entry,.ok answer⟩] ∧
      ∀ log, (TrustLog.appendTrustLog storage entry log).1 = .ok answer →
        Findable (TrustLog.appendTrustLog storage entry log).2.active triple := by
  obtain ⟨receipt,rfl⟩ := (applied_outcome path steady.handled applied).mpr
    ⟨steady.quiet,fun _ => ⟨steady.recordable,steady.appended⟩⟩
  obtain ⟨before,candidate,answer,adapterKey,key,policy,ttl,approval,split,opens,intentId,decisionId,context⟩ :=
    applied_written path appends applied
  refine ⟨before,_,answer,split,fun log stored => ?_⟩
  obtain ⟨rawKey,rfl,carried⟩ := keyed adapterKey key opens
  obtain ⟨_,_,_,_,_,_,rfl,_⟩ := opens
  obtain ⟨sameIntent,sameDecision,chosen⟩ := tripleOf_some carried
  obtain ⟨_,same,present,stripped⟩ := explicitKey_some chosen
  rw [same] at context
  rcases TrustLog.appendTrustLog_lines storage (bindReceiptEntry candidate) log with ⟨⟨error,failed⟩,_⟩ | ⟨prepared,line,made,_,lines⟩
  · cases stored.symm.trans failed
  · rw [lines]
    exact line_findable labels kept (receiptLine made) (intentId.trans sameIntent) (decisionId.trans sameDecision) context present
      stripped _

theorem applied_findable (labels : LabelsKept around.storage.masking) (kept : TripleKept around.storage.masking triple)
    (appends : call.appendTrustlog = true) (key : submitted adapter call host = some triple)
    (follows : Follows (handler around adapter) host trace final)
    (path : Leads (executeBindAdjudication around.storage.sha256 call) trace (finished outcome)) (applied : Applied trace)
    (steady : Steady trace) : Findable final.log.active triple := by
  have keyed : ∀ adapterKey resolved, Opens call trace adapterKey resolved →
      ∃ rawKey, adapterKey = strip (rawKey.orStr "") ∧ tripleOf call.intent rawKey = some triple := by
    intro adapterKey resolved opens
    obtain ⟨rawKey,_,answer,same,_⟩ := opens_host opens follows
    rw [submitted,answer] at key
    exact ⟨rawKey,same,key⟩
  obtain ⟨before,entry,answer,rfl,found⟩ := written_findable labels kept appends keyed path applied steady
  obtain ⟨middle,_,answered,ended⟩ := (follows_append _ _ _ _ _).mp follows
  rw [show final = _ from ended]
  exact found middle.log answered.symm

def Op.appends : Op S → Bool
  | .appendTrustLog _ => true
  | _ => false

theorem execute_once (sha256 : String → String) (call : Call) :
    AtMost Op.isApply (executeBindAdjudication sha256 call : Bind S BindReceipt) 1 := by
  have calm : ∀ op : Op S, Calm op → op.isApply = false := by
    intro op still
    cases op <;> simp_all [Calm,Op.effectful,Op.isApply]
  refine atMost_bind 0 1 (atMost_none ((prelude_calm call).mono calm)) fun stage => ?_
  cases stage with
  | replayed receipt => trivial
  | refused receipt => exact atMost_more (atMost_none (conclude_once receipt)) 1
  | cleared clearance =>
    rw [conclude,commitStage_ask]
    refine ⟨0,rfl,fun answer => atMost_none (within_bind ?_ conclude_once)⟩
    exact (afterApply_settles _ _ _).mono fun _ settles => (settles_once settles).1

theorem finalizeReceipt_twoLines (sha256 : String → String) (intent : ExecutionIntent) (append : Bool) (receipt : BindReceipt) :
    AtMost Op.appends (finalizeReceipt sha256 intent append receipt : Bind S BindReceipt) 2 := by
  have lifted : ∀ {α : Type} (outcome : Except Exc α), AtMost Op.appends (lift outcome : Bind S α) 0 :=
    fun outcome => atMost_none (within_lift _ outcome)
  have stored : ∀ entry, AtMost Op.appends (Ask.appendTrustLog entry >>= lift : Bind S Dict) 1 :=
    fun entry => ⟨0,rfl,fun answer => lifted answer⟩
  unfold finalizeReceipt
  dsimp only
  split
  · trivial
  · refine atMost_bind 1 1 (atMost_bind 0 1 (lifted _) stored) fun _ => ?_
    refine atMost_bind 0 1 ?_ fun previous => atMost_bind 0 1 (lifted _) fun hash => atMost_bind 1 0 (stored _) fun _ => trivial
    unfold previousBindHash
    split
    · trivial
    · exact ⟨0,rfl,fun _ => trivial⟩

theorem execute_twoLines (sha256 : String → String) (call : Call) :
    AtMost Op.appends (executeBindAdjudication sha256 call : Bind S BindReceipt) 2 := by
  have silent : ∀ op : Op S, op.effectful = false ∨ op.logs = false → op.appends = false := by
    intro op
    cases op <;> simp [Op.effectful,Op.logs,Op.appends]
  refine atMost_bind 0 2 (atMost_none ((prelude_calm call).mono fun op calm => silent op (.inl calm))) fun stage => ?_
  cases stage with
  | replayed receipt => trivial
  | refused receipt => exact finalizeReceipt_twoLines _ _ _ _
  | cleared clearance =>
    exact atMost_bind 0 2 (atMost_none ((commitStage_unlogged _ _).mono fun op unlogged => silent op (.inr unlogged)))
      fun receipt => finalizeReceipt_twoLines _ _ _ _

theorem room_of_few (few : AtMost Op.appends program lines) (fits : host.log.active.length + lines ≤ around.storage.maxLines) :
    Throughout (handler around adapter) (Room around.storage) program host ∧
      (run (handler around adapter) program host).2.log.active.length ≤ host.log.active.length + lines := by
  induction program generalizing host lines with
  | pure value => exact ⟨trivial,Nat.le_add_right _ _⟩
  | fail error => exact ⟨trivial,Nat.le_add_right _ _⟩
  | ask op next ih =>
    obtain ⟨rest,rfl,later⟩ := few
    have step : (handler around adapter op host).2.log.active.length + rest ≤
        host.log.active.length + if op.appends then rest + 1 else rest := by
      cases op with
      | appendTrustLog entry =>
        have written : (TrustLog.appendTrustLog around.storage entry host.log).2.active.length ≤ host.log.active.length + 1 := by
          rcases TrustLog.appendTrustLog_lines around.storage entry host.log with ⟨_,same⟩ | ⟨_,line,_,_,same⟩
          · simp [same]
          · rw [same,TrustLog.rotateIfNeeded]
            split <;> simp
        simp only [Op.appends,if_true]
        exact Nat.le_trans (Nat.add_le_add_right written rest) (by omega)
      | _ => exact Nat.le_refl _
    obtain ⟨inside,bound⟩ := ih _ (later _) (Nat.le_trans step fits)
    refine ⟨⟨?_,inside⟩,Nat.le_trans bound step⟩
    rintro entry rfl
    simp only [Op.appends,if_true] at fits
    omega

-- How often a call submitted under the triple calls apply.
def effects (triple : Triple) (around : Surroundings) (adapter : Adapter W S) (call : Call) (host : Host W) : Nat :=
  if submitted adapter call host = some triple then
    (visits (handler around adapter) Op.isApply (executeBindAdjudication around.storage.sha256 call) host).length
  else 0

-- What is asked of the calls and of the other appends of a session, given the effects so far.
structure Conditions (W : Type) where
  call : ∀ {S : Type}, Surroundings → Adapter W S → Call → Host W → Nat → Prop
  append : Host W → Nat → Prop

def unrestricted : Conditions W := ⟨fun _ _ _ _ _ => True,fun _ _ => True⟩

-- Calls one after another, each with its own adapter and surroundings, over one TrustLog.
-- Between them others append to the log and the world moves on. The number is that of
-- the effects under the triple.
inductive Session (storage : TrustLog.Storage) (triple : Triple) (conditions : Conditions W) : Host W → Nat → Prop
  | opened (host : Host W) : Session storage triple conditions host 0
  | call {S : Type} {host : Host W} {count : Nat} (earlier : Session storage triple conditions host count) (around : Surroundings)
      (adapter : Adapter W S) (call : Call) (same : around.storage = storage) (appends : call.appendTrustlog = true)
      (meets : conditions.call around adapter call host count) :
      Session storage triple conditions (execute around adapter call host).2 (count + effects triple around adapter call host)
  | append {host : Host W} {count : Nat} (earlier : Session storage triple conditions host count) (entry : Dict)
      (meets : conditions.append host count) :
      Session storage triple conditions { host with log := (TrustLog.appendTrustLog storage entry host.log).2 } count
  | elapse {host : Host W} {count : Nat} (earlier : Session storage triple conditions host count) (later : Host W)
      (unwritten : later.log.active = host.log.active) : Session storage triple conditions later count

-- What keeps a resubmission from being applied again.
structure CallMeets (triple : Triple) (around : Surroundings) (adapter : Adapter W S) (call : Call) (host : Host W) (count : Nat) :
    Prop where
  readable : submitted adapter call host = some triple → 0 < count → around.storage.readFault host.log.reads = false
  steady : submitted adapter call host = some triple → ∀ trace final outcome, Follows (handler around adapter) host trace final →
    Leads (executeBindAdjudication around.storage.sha256 call) trace (finished outcome) → Applied trace → Steady trace
  room : 0 < count → Throughout (handler around adapter) (Room around.storage) (executeBindAdjudication around.storage.sha256 call) host

def careful (storage : TrustLog.Storage) (triple : Triple) : Conditions W where
  call around adapter call host count := CallMeets triple around adapter call host count
  append host count := 0 < count → host.log.active.length < storage.maxLines

theorem effects_le : effects triple around adapter call host ≤ 1 := by
  unfold effects
  split
  · exact visits_atMost _ (execute_once _ _) host
  · exact Nat.zero_le 1

theorem effects_applied (some_ : 0 < effects triple around adapter call host)
    (follows : Follows (handler around adapter) host trace final)
    (path : Leads (executeBindAdjudication around.storage.sha256 call) trace (finished outcome)) :
    submitted adapter call host = some triple ∧ Applied trace := by
  unfold effects at some_
  split at some_
  · rename_i key
    rw [visits_count Op.isApply follows path] at some_
    exact ⟨key,List.countP_pos_iff.mp some_⟩
  · cases some_

def Remembered (triple : Triple) (host : Host W) (count : Nat) : Prop :=
  count ≤ 1 ∧ (0 < count → Findable host.log.active triple)

theorem call_remembered (labels : LabelsKept around.storage.masking) (kept : TripleKept around.storage.masking triple)
    (appends : call.appendTrustlog = true) (meets : CallMeets triple around adapter call host count)
    (remembered : Remembered triple host count) :
    Remembered triple (execute around adapter call host).2 (count + effects triple around adapter call host) := by
  obtain ⟨trace,follows,path⟩ := run_exact (handler around adapter) (executeBindAdjudication around.storage.sha256 call) host
  obtain ⟨once,found⟩ := remembered
  by_cases first : count = 0
  · subst first
    rw [Nat.zero_add]
    refine ⟨effects_le,fun some_ => ?_⟩
    obtain ⟨key,applied⟩ := effects_applied some_ follows path
    exact applied_findable labels kept appends key follows path applied (meets.steady key trace _ _ follows path applied)
  · have again : 0 < count := Nat.pos_of_ne_zero first
    have none_ : effects triple around adapter call host = 0 := by
      by_contra some_
      obtain ⟨key,applied⟩ := effects_applied (Nat.pos_of_ne_zero some_) follows path
      exact findable_unapplied appends key (meets.readable key again) (found again) follows path applied
    rw [none_]
    refine ⟨once,fun _ => ?_⟩
    exact throughout_invariant (fun host => Findable host.log.active triple) (fun op state => handler_findable) (meets.room again)
      (found again)

theorem session_remembered (labels : LabelsKept storage.masking) (kept : TripleKept storage.masking triple)
    (session : Session storage triple (careful storage triple) host count) : Remembered triple host count := by
  induction session with
  | opened host => exact ⟨Nat.zero_le 1,fun some_ => absurd some_ (Nat.lt_irrefl 0)⟩
  | call _ around adapter call same appends meets ih =>
    subst same
    exact call_remembered labels kept appends meets ih
  | append _ entry room ih => exact ⟨ih.1,fun some_ => append_findable (room some_) (ih.2 some_)⟩
  | elapse _ later unwritten ih => exact ⟨ih.1,fun some_ => unwritten ▸ ih.2 some_⟩

theorem apply_at_most_once (storage : TrustLog.Storage) (labels : LabelsKept storage.masking) (triple : Triple)
    (kept : TripleKept storage.masking triple) (host : Host W) (count : Nat)
    (session : Session storage triple (careful storage triple) host count) : count ≤ 1 :=
  (session_remembered labels kept session).1

theorem execute_writable (sha256 : String → String) (call : Call) : Within (Writes (S := S)) (executeBindAdjudication sha256 call) := by
  have unwritten : ∀ op : Op S, op.effectful = false ∨ op.logs = false → Writes op := by
    rintro op silent entry rfl
    simp [Op.effectful,Op.logs] at silent
  refine within_bind ((prelude_calm call).mono fun op calm => unwritten op (.inl calm)) fun stage => ?_
  cases stage with
  | replayed receipt => trivial
  | refused receipt => exact finalizeReceipt_writable _ _ _ _
  | cleared clearance =>
    exact within_bind ((commitStage_unlogged _ _).mono fun op unlogged => unwritten op (.inr unlogged)) fun receipt =>
      finalizeReceipt_writable _ _ _ _

def Answered (around : Surroundings) (adapter : Adapter W S) (trace : Trace S) : Prop :=
  ∀ event ∈ trace, ∃ host, event.2 = (handler around adapter event.1 host).1

theorem follows_answered (follows : Follows (handler around adapter) host trace final) : Answered around adapter trace := by
  intro event listed
  obtain ⟨middle,_,answered⟩ := (follows_invariant (fun _ => True) (fun _ => True) (fun _ _ _ _ => trivial) follows
    (fun _ _ => trivial) trivial).2 event listed
  exact ⟨middle,answered⟩

-- An adapter that never raises and answers only with JSON.
def Plain (around : Surroundings) (adapter : Adapter W S) : Prop :=
  ∀ (op : Op S) (host : Host W), adapterError ⟨op,(handler around adapter op host).1⟩ = none ∧
    escapingError ⟨op,(handler around adapter op host).1⟩ = none ∧
    ∀ answer, recordedAnswer ⟨op,(handler around adapter op host).1⟩ = some answer → Recordable answer

theorem steady_of_plain (plain : Plain around adapter) (answered : Answered around adapter trace) (appended : AppendsSucceed trace) :
    Steady trace := by
  have each : ∀ event ∈ trace, adapterError event = none ∧ escapingError event = none ∧
      ∀ answer, recordedAnswer event = some answer → Recordable answer := by
    intro event listed
    obtain ⟨host,answer⟩ := answered event listed
    have found := plain event.1 host
    rwa [← answer] at found
  refine ⟨fun event listed error raised => ?_,fun event listed => (each event listed).2.1,
    fun event listed => (each event listed).2.2,appended⟩
  rw [(each event listed).1] at raised
  cases raised

def sampleTriple : Triple := ⟨"intent-1","decision-1","key-1"⟩

theorem counting_plain : Plain quietSurroundings (countingAdapter (.ok (.bool true))) := by
  refine fun op host => ⟨by cases op <;> rfl,by cases op <;> rfl,fun answer found => ?_⟩
  cases op <;> cases found <;> rfl

theorem effects_cleared (key : submitted adapter call host = some triple)
    (staged : run (handler around adapter) (prelude around.storage.sha256 call) host = (.ok (.cleared clearance),middle)) :
    effects triple around adapter call host = 1 := by
  have bound : effects triple around adapter call host ≤ 1 := effects_le
  unfold effects at bound ⊢
  rw [if_pos key,executeBindAdjudication,visits_bind_ok staged,conclude,commitStage_ask,bind_ask,visits] at bound ⊢
  simp only [Op.isApply,if_true,List.length_append,List.length_singleton] at bound ⊢
  omega

theorem execute_lines (around : Surroundings) (adapter : Adapter W S) (call : Call) (host : Host W)
    (fits : host.log.active.length + 2 ≤ around.storage.maxLines) :
    (execute around adapter call host).2.log.active.length ≤ host.log.active.length + 2 :=
  (room_of_few (execute_twoLines _ _) fits).2

theorem counting_call {host : Host Nat} (fits : host.log.active.length + 2 ≤ 5000)
    (earlier : Session quietStorage sampleTriple (careful quietStorage sampleTriple) host count) :
    Session quietStorage sampleTriple (careful quietStorage sampleTriple)
      (execute quietSurroundings (countingAdapter (.ok (.bool true))) sampleCall host).2
      (count + effects sampleTriple quietSurroundings (countingAdapter (.ok (.bool true))) sampleCall host) := by
  refine .call earlier quietSurroundings (countingAdapter (.ok (.bool true))) sampleCall rfl rfl ⟨fun _ _ => rfl,?_,?_⟩
  · intro _ trace final outcome follows path _
    have appended := follows_appends (countingAdapter (.ok (.bool true))) (fun _ => rfl) follows (path.within (execute_writable _ _)).1
    exact steady_of_plain counting_plain (follows_answered follows) appended
  · exact fun _ => (room_of_few (execute_twoLines _ _) fits).1

theorem counting_cleared : ∃ clearance middle, run (handler quietSurroundings (countingAdapter (.ok (.bool true))))
    (prelude quietStorage.sha256 sampleCall) ⟨0,{}⟩ = (.ok (.cleared clearance),middle) := ⟨_,_,rfl⟩

theorem apply_at_most_once_sample : ∃ (host final : Host Nat) (again : Nat),
    Session quietStorage sampleTriple (careful quietStorage sampleTriple) host 1 ∧
    Session quietStorage sampleTriple (careful quietStorage sampleTriple) final (1 + again) ∧ 1 + again ≤ 1 := by
  obtain ⟨clearance,middle,staged⟩ := counting_cleared
  have applied : effects sampleTriple quietSurroundings (countingAdapter (.ok (.bool true))) sampleCall ⟨0,{}⟩ = 1 :=
    effects_cleared rfl staged
  have first := counting_call (by decide) (.opened ⟨0,{}⟩)
  have lines := execute_lines quietSurroundings (countingAdapter (.ok (.bool true))) sampleCall ⟨0,{}⟩ (by decide)
  rw [applied] at first
  generalize (execute quietSurroundings (countingAdapter (.ok (.bool true))) sampleCall ⟨0,{}⟩).2 = host at first lines
  have second := counting_call (Nat.le_trans (Nat.add_le_add_right lines 2) (by decide)) first
  exact ⟨_,_,_,first,second,apply_at_most_once quietStorage ⟨rfl,fun _ => rfl⟩ sampleTriple ⟨rfl,rfl⟩ _ _ second⟩

theorem failing_call {host : Host Nat} (earlier : Session quietStorage sampleTriple unrestricted host count) :
    Session quietStorage sampleTriple unrestricted
      (execute quietSurroundings (countingAdapter (.error ⟨.runtimeError,"unreachable"⟩)) sampleCall host).2
      (count + effects sampleTriple quietSurroundings (countingAdapter (.error ⟨.runtimeError,"unreachable"⟩)) sampleCall host) :=
  .call earlier _ _ _ rfl rfl trivial

theorem resubmission_applied_twice : ∃ (host : Host Nat) (count : Nat),
    Session quietStorage sampleTriple unrestricted host count ∧ ¬count ≤ 1 :=
  ⟨_,_,failing_call (failing_call (.opened ⟨0,{}⟩)),by decide⟩

end VeritasOs.BindCore
