import VeritasOs.JsonData
import VeritasOs.PolicyCompiler
import VeritasOs.PostgresLog
import VeritasOs.WebhookUrl

namespace VeritasOs.WebhookAdapter
open JsonText BindArtifacts PostgresLog PolicyCompiler UrlParse WebhookUrl

structure WebhookResponse where
  statusCode : Int
  jsonData : Value

structure WebhookBindAdapter where
  snapshotUrl : Chars
  actionUrl : Chars
  postconditionUrl : Chars
  actionPayload : Value
  expectedPostcondition : Value
  allowedHosts : List Chars
  hmacSecret : String
  timeoutSeconds : FloatValue := .finite ⟨"5.0",by decide⟩
  requiredApprovalKey : String := "external_webhook_action_approved"
  compensationUrl : Option Chars := none
  compensationPayload : Value := .none

structure Request where
  method : String
  url : Chars
  headers : List (String × String)
  jsonBody : Option Value
  timeout : FloatValue

-- What stays the same from call to call: sha256_hex, hmac.new(secret, message, sha256).hexdigest(),
-- the texts of hosts and what ipaddress says of an address.
structure Platform where
  sha256 : String → String
  hmac : String → String → String
  unicode : Unicode
  addressIsSafe : String → Bool

-- What one call meets: the resolver, the clock, and the transport, which may raise.
structure Surroundings where
  resolve : Chars → Option (List String)
  timestamp : String
  transport : Request → Option WebhookResponse

def networkOf (platform : Platform) (surroundings : Surroundings) : Network :=
  ⟨platform.unicode,surroundings.resolve,platform.addressIsSafe⟩

-- What a call returns or raises, and the requests it has sent by then.
abbrev Called (α : Type) := Except Exc α × List Request

def Called.answering (called : Called α) (answer : Except Exc α → Except Exc β) : Called β := (answer called.1,called.2)

theorem answering_sent (called : Called α) (answer : Except Exc α → Except Exc β) : (called.answering answer).2 = called.2 := rfl

def isCanonicalJson (value : Value) : Bool := (canonicalJsonDumps value).isSome

mutual
def withinValue : Value → Value → Bool
  | .dict expected,.dict actual => recursiveSubset expected actual
  | .dict _,_ => false
  | value,actual => pyEq actual value
def recursiveSubset : Dict → Dict → Bool
  | [],_ => true
  | (key,value) :: rest,actual => ((lookup key actual).map fun found => withinValue value found).getD false && recursiveSubset rest actual
end

def requireJsonObject (response : WebhookResponse) (errorCode : String) : Except Exc Dict :=
  if 200 ≤ response.statusCode ∧ response.statusCode ≤ 299 then
    match response.jsonData with
    | .dict members => .ok members
    | _ => .error (runtimeError errorCode)
  else .error (runtimeError errorCode)

def orEmpty (value : Value) : Value := if value.truthy then value else .dict []

section Calls
variable (platform : Platform) (surroundings : Surroundings) (adapter : WebhookBindAdapter) (intent : ExecutionIntent)

def request (method : String) (url : Chars) (headers : List (String × String)) (jsonBody : Option Value) : Called WebhookResponse :=
  if urlAllowed (networkOf platform surroundings) adapter.allowedHosts url then
    match normalizedUrl platform.unicode url with
    | .error _ => (.error (runtimeError "BIND_WEBHOOK_REQUEST_FAILED"),[])
    | .ok target =>
      let sent : Request := ⟨method,target,headers,jsonBody,adapter.timeoutSeconds⟩
      match surroundings.transport sent with
      | none => (.error (runtimeError "BIND_WEBHOOK_REQUEST_FAILED"),[sent])
      | some response => (.ok response,[sent])
  else (.error (runtimeError "BIND_WEBHOOK_URL_NOT_ALLOWED"),[])

def getJsonObject (url : Chars) (errorCode : String) : Called Dict :=
  Called.answering (request platform surroundings adapter "GET" url [] none) fun answered =>
    answered.bind fun response => requireJsonObject response errorCode

def actionUrlText : String :=
  match normalizedUrl platform.unicode adapter.actionUrl with
  | .ok target => String.ofList target
  | .error _ => "<invalid-action-url>"

def actionPayloadJson : Value := if isCanonicalJson adapter.actionPayload then adapter.actionPayload else .str "<invalid-action-payload>"

def keyPayload : Dict :=
  [field "execution_intent_id" (.str intent.executionIntentId),field "decision_id" (.str intent.decisionId),
   field "action_url" (.str (actionUrlText platform adapter)),field "action_payload" (actionPayloadJson adapter)]

def buildIdempotencyKey : Except Exc String := sha256OfCanonicalJson platform.sha256 (.dict (keyPayload platform adapter intent))

def keyHeader : String := "X-Veritas-Idempotency-Key"

def postHeaders (idempotencyKey canonicalBody : String) : List (String × String) :=
  [("Content-Type","application/json"),("X-Veritas-Decision-Id",intent.decisionId),
   ("X-Veritas-Execution-Intent-Id",intent.executionIntentId),(keyHeader,idempotencyKey),("X-Veritas-Timestamp",surroundings.timestamp),
   ("X-Veritas-Signature","sha256=" ++ platform.hmac adapter.hmacSecret (surroundings.timestamp ++ "." ++ canonicalBody))]

def postJsonObject (url : Chars) (body : Value) (errorCode : String) : Called Dict :=
  match buildIdempotencyKey platform adapter intent with
  | .error raised => (.error raised,[])
  | .ok idempotencyKey =>
    match canonicalJsonDumps body with
    | none => (.error (typeError "Object is not JSON serializable"),[])
    | some canonicalBody =>
      let headers := postHeaders platform surroundings adapter intent idempotencyKey canonicalBody
      Called.answering (request platform surroundings adapter "POST" url headers (some body)) fun answered =>
        answered.bind fun response => requireJsonObject response errorCode

def snapshot : Called Value :=
  Called.answering (getJsonObject platform surroundings adapter adapter.snapshotUrl "BIND_WEBHOOK_SNAPSHOT_FAILED") fun answered =>
    answered.map Value.dict

def fingerprintState (captured : Value) : Except Exc String :=
  match captured with
  | .dict _ => sha256OfCanonicalJson platform.sha256 captured
  | _ => .error (valueError "BIND_WEBHOOK_SNAPSHOT_INVALID")

def validateAuthority : Bool :=
  match intent.approvalContext with
  | none => false
  | some context => decide (lookup (.str adapter.requiredApprovalKey) context = some (.bool true))

def timeoutIsValid : Bool :=
  match floatNumber adapter.timeoutSeconds with
  | some seconds => !seconds.le (.finite 0 0) && seconds.le (.finite 60 0)
  | none => false

def validateConstraints (captured : Value) : List (String × Bool) :=
  let allowed := urlAllowed (networkOf platform surroundings) adapter.allowedHosts
  let results :=
    [("action_payload_is_object",adapter.actionPayload.asDict?.isSome),
     ("action_payload_is_canonical_json",isCanonicalJson adapter.actionPayload),
     ("expected_postcondition_is_object",adapter.expectedPostcondition.asDict?.isSome),
     ("expected_postcondition_is_canonical_json",isCanonicalJson adapter.expectedPostcondition),
     ("snapshot_is_object",captured.asDict?.isSome),("snapshot_url_allowed",allowed adapter.snapshotUrl),
     ("action_url_allowed",allowed adapter.actionUrl),("postcondition_url_allowed",allowed adapter.postconditionUrl),
     ("hmac_secret_present",adapter.hmacSecret != ""),("timeout_is_valid",timeoutIsValid adapter)]
  match adapter.compensationUrl with
  | none => results
  | some url => results ++ [("compensation_url_allowed",allowed url),
     ("compensation_payload_is_object",(orEmpty adapter.compensationPayload).asDict?.isSome),
     ("compensation_payload_is_canonical_json",isCanonicalJson (orEmpty adapter.compensationPayload))]

def assessRuntimeRisk : Bool :=
  let compensation := match adapter.compensationUrl with
    | some url => if url = [] then [] else [url]
    | none => []
  ([adapter.snapshotUrl,adapter.actionUrl,adapter.postconditionUrl] ++ compensation).all
    (urlAllowed (networkOf platform surroundings) adapter.allowedHosts)

def apply : Called Bool :=
  Called.answering (postJsonObject platform surroundings adapter intent adapter.actionUrl adapter.actionPayload "BIND_WEBHOOK_ACTION_FAILED")
    fun answered => answered.map fun _ => true

-- Only a RuntimeError is a failed call; anything else escapes.
def unlessFailed (answered : Except Exc Bool) : Except Exc Bool :=
  match answered with
  | .error raised => if raised.kind = .runtimeError then .ok false else .error raised
  | .ok told => .ok told

def verifyPostconditions : Called Bool :=
  Called.answering (getJsonObject platform surroundings adapter adapter.postconditionUrl "BIND_WEBHOOK_POSTCONDITION_FAILED") fun answered =>
    unlessFailed (answered.bind fun actual =>
      match adapter.expectedPostcondition with
      | .dict expected => .ok (recursiveSubset expected actual)
      | _ => .error ⟨.attributeError,"object has no attribute 'items'"⟩)

def revert : Called Bool :=
  match adapter.compensationUrl with
  | none => (.ok false,[])
  | some url =>
    if url = [] then (.ok false,[])
    else
      Called.answering (postJsonObject platform surroundings adapter intent url (orEmpty adapter.compensationPayload)
        "BIND_WEBHOOK_COMPENSATION_FAILED") fun answered =>
          unlessFailed (answered.map fun response => decide (lookup (.str "compensated") response = some (.bool true)))

end Calls

inductive Call where
  | snapshot
  | apply (intent : ExecutionIntent)
  | verifyPostconditions
  | revert (intent : ExecutionIntent)

def Call.intent : Call → Option ExecutionIntent
  | .apply intent | .revert intent => some intent
  | .snapshot | .verifyPostconditions => none

section Runs
variable (platform : Platform) (adapter : WebhookBindAdapter)

def sentBy (surroundings : Surroundings) : Call → List Request
  | .snapshot => (snapshot platform surroundings adapter).2
  | .apply intent => (apply platform surroundings adapter intent).2
  | .verifyPostconditions => (verifyPostconditions platform surroundings adapter).2
  | .revert intent => (revert platform surroundings adapter intent).2

-- The requests of a run, each with the call it was sent by.
def sent (calls : List (Surroundings × Call)) : List (Call × Request) :=
  calls.flatMap fun (surroundings,call) => (sentBy platform adapter surroundings call).map fun request => (call,request)

def Posted (intent : ExecutionIntent) (request : Request) : Prop :=
  ∃ calls call, (call,request) ∈ sent platform adapter calls ∧ call.intent = some intent ∧ request.method = "POST"

def Request.idempotencyKey (request : Request) : Option String := (request.headers.find? fun header => header.1 == keyHeader).map Prod.snd

end Runs

section Keys
variable {platform : Platform} {adapter : WebhookBindAdapter} {surroundings : Surroundings} {intent : ExecutionIntent} {sending : Request}

theorem request_sent (listed : sending ∈ (request platform surroundings adapter method url headers jsonBody).2) :
    sending.method = method ∧ sending.headers = headers := by
  unfold request at listed
  split at listed
  · split at listed
    · cases listed
    · dsimp only at listed
      split at listed
      · obtain rfl := List.mem_singleton.mp listed
        exact ⟨rfl,rfl⟩
      · obtain rfl := List.mem_singleton.mp listed
        exact ⟨rfl,rfl⟩
  · cases listed

theorem postHeaders_key {key text : String} (headers : sending.headers = postHeaders platform surroundings adapter intent key text) :
    sending.idempotencyKey = some key := by
  rw [Request.idempotencyKey,headers]
  rfl

theorem post_sent (listed : sending ∈ (postJsonObject platform surroundings adapter intent url body errorCode).2) :
    ∃ key, buildIdempotencyKey platform adapter intent = .ok key ∧ sending.idempotencyKey = some key := by
  unfold postJsonObject at listed
  split at listed
  · cases listed
  rename_i key built
  split at listed
  · cases listed
  rename_i canonicalBody written
  dsimp only at listed
  rw [answering_sent] at listed
  exact ⟨key,built,postHeaders_key (request_sent listed).2⟩

theorem post_made {url target : Chars} {body : Value} {errorCode key text : String} (built : buildIdempotencyKey platform adapter intent = .ok key)
    (written : canonicalJsonDumps body = some text) (allowed : urlAllowed (networkOf platform surroundings) adapter.allowedHosts url = true)
    (normal : normalizedUrl platform.unicode url = .ok target) :
    (postJsonObject platform surroundings adapter intent url body errorCode).2 =
      [⟨"POST",target,postHeaders platform surroundings adapter intent key text,some body,adapter.timeoutSeconds⟩] := by
  unfold postJsonObject
  rw [built]
  dsimp only
  rw [written]
  dsimp only
  rw [answering_sent,request,if_pos allowed,normal]
  dsimp only
  split
  · rfl
  · rfl

theorem revert_sent {url : Chars} (given : adapter.compensationUrl = some url) (named : url ≠ []) :
    (revert platform surroundings adapter intent).2 =
      (postJsonObject platform surroundings adapter intent url (orEmpty adapter.compensationPayload) "BIND_WEBHOOK_COMPENSATION_FAILED").2 := by
  rw [revert,given]
  dsimp only
  rw [if_neg named,answering_sent]

theorem get_sent (listed : sending ∈ (getJsonObject platform surroundings adapter url errorCode).2) : sending.method = "GET" := by
  rw [getJsonObject,answering_sent] at listed
  exact (request_sent listed).1

theorem sentBy_post (listed : sending ∈ sentBy platform adapter surroundings call) (posted : sending.method = "POST") :
    ∃ intent key, call.intent = some intent ∧ buildIdempotencyKey platform adapter intent = .ok key ∧ sending.idempotencyKey = some key := by
  cases call with
  | snapshot =>
    rw [sentBy,snapshot,answering_sent] at listed
    exact absurd ((get_sent listed).symm.trans posted) (by decide)
  | apply intent =>
    rw [sentBy,apply,answering_sent] at listed
    obtain ⟨key,built,carried⟩ := post_sent listed
    exact ⟨intent,key,rfl,built,carried⟩
  | verifyPostconditions =>
    rw [sentBy,verifyPostconditions,answering_sent] at listed
    exact absurd ((get_sent listed).symm.trans posted) (by decide)
  | revert intent =>
    rw [sentBy,revert] at listed
    split at listed
    · cases listed
    · split at listed
      · cases listed
      · rw [answering_sent] at listed
        obtain ⟨key,built,carried⟩ := post_sent listed
        exact ⟨intent,key,rfl,built,carried⟩

theorem posted_key (posted : Posted platform adapter intent sending) :
    ∃ key, buildIdempotencyKey platform adapter intent = .ok key ∧ sending.idempotencyKey = some key := by
  obtain ⟨calls,call,listed,asked,method⟩ := posted
  obtain ⟨⟨surroundings,made⟩,-,found⟩ := List.mem_flatMap.mp listed
  obtain ⟨request,sentThere,same⟩ := List.mem_map.mp found
  obtain ⟨rfl,rfl⟩ := Prod.mk.inj same
  obtain ⟨other,key,shown,built,carried⟩ := sentBy_post sentThere method
  obtain rfl := Option.some.inj (asked.symm.trans shown)
  exact ⟨key,built,carried⟩

theorem keyPayload_record : Record (keyPayload platform adapter intent) := by
  refine ⟨fun member listed => ?_,?_⟩
  · simp only [keyPayload,List.mem_cons,List.not_mem_nil,or_false] at listed
    rcases listed with rfl | rfl | rfl | rfl
    · exact ⟨_,rfl⟩
    · exact ⟨_,rfl⟩
    · exact ⟨_,rfl⟩
    · exact ⟨_,rfl⟩
  · exact (show [Key.str "execution_intent_id",.str "decision_id",.str "action_url",.str "action_payload"].Nodup by decide)

theorem actionPayload_recordable : Recordable (actionPayloadJson adapter) := by
  unfold actionPayloadJson
  split
  · rename_i canonical
    exact (canonical_recordable _).mp canonical
  · rfl

-- The key can always be built: what cannot be written has a text that stands for it.
theorem keyPayload_recordable : Recordable (.dict (keyPayload platform adapter intent)) := by
  refine (recordable_dict keyPayload_record.named).mpr fun member listed => ?_
  simp only [keyPayload,List.mem_cons,List.not_mem_nil,or_false] at listed
  rcases listed with rfl | rfl | rfl | rfl
  · rfl
  · rfl
  · rfl
  · exact actionPayload_recordable

theorem buildIdempotencyKey_ok : ∃ text, canonicalJsonDumps (.dict (keyPayload platform adapter intent)) = some text ∧
    buildIdempotencyKey platform adapter intent = .ok (platform.sha256 text) := by
  obtain ⟨text,written⟩ := Option.isSome_iff_exists.mp ((canonical_recordable _).mpr (@keyPayload_recordable platform adapter intent))
  exact ⟨text,written,by rw [buildIdempotencyKey,sha256OfCanonicalJson,written]⟩

theorem sameJson_found (same : SameJson (.dict a) (.dict b)) (written : Recordable (.dict a)) (record : Record b)
    (found : lookup (.str name) a = some value) : ∃ other, lookup (.str name) b = some other ∧ SameJson value other := by
  obtain ⟨json,made⟩ := Option.isSome_iff_exists.mp written
  obtain ⟨members,rfl⟩ := toJson_dict_obj made
  obtain ⟨part,shown⟩ := Option.isSome_iff_exists.mp (recordable_member written (lookup_mem found))
  have there := (toJson_dict_mem made name part).mpr ⟨.str name,value,rfl,lookup_mem found,shown⟩
  obtain ⟨key,other,named,listed,equal⟩ := (toJson_dict_mem (same.symm.trans made) name part).mp there
  obtain ⟨text,rfl⟩ := record.named _ listed
  obtain rfl := Option.some.inj named
  exact ⟨other,lookup_of_mem record.distinct listed,shown.trans equal.symm⟩

theorem sameJson_str (same : SameJson (.str a) (.str b)) : a = b := by
  have read : Value.str b = .str a := toJson_str_exact.mp (same.symm.trans (toJson_str_exact.mpr rfl))
  exact (Value.str.inj read).symm

variable {other : WebhookBindAdapter} {second : ExecutionIntent}

theorem keyPayload_same : SameJson (.dict (keyPayload platform adapter intent)) (.dict (keyPayload platform other second)) ↔
    intent.executionIntentId = second.executionIntentId ∧ intent.decisionId = second.decisionId ∧
      actionUrlText platform adapter = actionUrlText platform other ∧ SameJson (actionPayloadJson adapter) (actionPayloadJson other) := by
  constructor
  · intro same
    have part (name : String) {value later : Value} (found : lookup (.str name) (keyPayload platform adapter intent) = some value)
        (again : lookup (.str name) (keyPayload platform other second) = some later) : SameJson value later := by
      obtain ⟨listed,there,equal⟩ := sameJson_found same keyPayload_recordable keyPayload_record found
      obtain rfl := Option.some.inj (there.symm.trans again)
      exact equal
    exact ⟨sameJson_str (part "execution_intent_id" rfl rfl),sameJson_str (part "decision_id" rfl rfl),
      sameJson_str (part "action_url" rfl rfl),part "action_payload" rfl rfl⟩
  · rintro ⟨intentId,decisionId,url,payload⟩
    unfold SameJson at payload ⊢
    simp only [keyPayload,field,toJson,membersJson,intentId,decisionId,url,payload]

theorem buildIdempotencyKey_same (injective : Function.Injective platform.sha256) {key : String}
    (first : buildIdempotencyKey platform adapter intent = .ok key) :
    buildIdempotencyKey platform other second = .ok key ↔ SameJson (.dict (keyPayload platform adapter intent)) (.dict (keyPayload platform other second)) := by
  obtain ⟨text,written,built⟩ := @buildIdempotencyKey_ok platform adapter intent
  obtain ⟨otherText,otherWritten,otherBuilt⟩ := @buildIdempotencyKey_ok platform other second
  obtain rfl := Except.ok.inj (built.symm.trans first)
  rw [otherBuilt]
  constructor
  · intro same
    obtain rfl := injective (Except.ok.inj same)
    exact canonical_exact written otherWritten
  · intro same
    have texts : canonicalJsonDumps (.dict (keyPayload platform adapter intent)) = canonicalJsonDumps (.dict (keyPayload platform other second)) :=
      congrArg (Option.map (dumps compact)) same
    rw [written,otherWritten] at texts
    rw [Option.some.inj texts]

end Keys

theorem one_key_per_action (platform : Platform) (injective : Function.Injective platform.sha256) (a b : WebhookBindAdapter)
    (canonical : isCanonicalJson a.actionPayload = true) (otherCanonical : isCanonicalJson b.actionPayload = true) (i j : ExecutionIntent) :
    ∃ key otherKey, (∀ request, Posted platform a i request → request.idempotencyKey = some key) ∧
      (∀ request, Posted platform b j request → request.idempotencyKey = some otherKey) ∧
      (key = otherKey ↔ i.executionIntentId = j.executionIntentId ∧ i.decisionId = j.decisionId ∧
        actionUrlText platform a = actionUrlText platform b ∧ SameJson a.actionPayload b.actionPayload) := by
  obtain ⟨text,-,built⟩ := @buildIdempotencyKey_ok platform a i
  obtain ⟨otherText,-,otherBuilt⟩ := @buildIdempotencyKey_ok platform b j
  have payload : actionPayloadJson a = a.actionPayload := if_pos canonical
  have otherPayload : actionPayloadJson b = b.actionPayload := if_pos otherCanonical
  refine ⟨platform.sha256 text,platform.sha256 otherText,fun request posted => ?_,fun request posted => ?_,?_⟩
  · obtain ⟨key,known,carried⟩ := posted_key posted
    obtain rfl := Except.ok.inj (built.symm.trans known)
    exact carried
  · obtain ⟨key,known,carried⟩ := posted_key posted
    obtain rfl := Except.ok.inj (otherBuilt.symm.trans known)
    exact carried
  · have same := @buildIdempotencyKey_same platform a i b j injective _ built
    rw [otherBuilt,keyPayload_same,payload,otherPayload] at same
    rw [← same]
    exact ⟨fun equal => congrArg Except.ok equal.symm,fun equal => (Except.ok.inj equal).symm⟩

def samplePlatform : Platform where
  sha256 text := standInSha256 (.text text)
  hmac secret message := standInSha256 (.text (secret ++ message))
  unicode := asciiTexts
  addressIsSafe := sampleNetwork.addressIsSafe

def sampleAdapter : WebhookBindAdapter where
  snapshotUrl := "https://api.example.com/state".toList
  actionUrl := "https://api.example.com/raise".toList
  postconditionUrl := "https://api.example.com/state".toList
  actionPayload := .dict [field "limit" (.int 120)]
  expectedPostcondition := .dict [field "limit" (.int 120)]
  allowedHosts := sampleHosts
  hmacSecret := "secret"
  compensationUrl := some "https://api.example.com/lower".toList
  compensationPayload := .dict [field "limit" (.int 100)]

def sampleIntent : ExecutionIntent where
  executionIntentId := "intent-1"
  decisionId := "decision-1"

def sampleSurroundings : Surroundings where
  resolve := sampleNetwork.resolve
  timestamp := "2025-01-01T00:00:00Z"
  transport _ := some ⟨200,.dict [field "compensated" (.bool true)]⟩

theorem one_key_per_action_sample : ∃ key, ∀ request, Posted samplePlatform sampleAdapter sampleIntent request →
    request.idempotencyKey = some key := by
  have injective : Function.Injective samplePlatform.sha256 := fun a b same => PolicyBundle.Bytes.text.inj (standInSha256_injective same)
  obtain ⟨key,-,carried,-⟩ := one_key_per_action samplePlatform injective sampleAdapter sampleAdapter (by decide) (by decide) sampleIntent sampleIntent
  exact ⟨key,carried⟩

def sampleRun : List (Surroundings × Call) := [(sampleSurroundings,.apply sampleIntent),(sampleSurroundings,.revert sampleIntent)]

theorem compensation_shares_the_key : ∃ action compensation,sent samplePlatform sampleAdapter sampleRun =
      [(.apply sampleIntent,action),(.revert sampleIntent,compensation)] ∧
    action.method = "POST" ∧ compensation.method = "POST" ∧ action.url ≠ compensation.url ∧
    action.idempotencyKey.isSome = true ∧ action.idempotencyKey = compensation.idempotencyKey := by
  obtain ⟨text,-,built⟩ := @buildIdempotencyKey_ok samplePlatform sampleAdapter sampleIntent
  have first : canonicalJsonDumps sampleAdapter.actionPayload = some "\x7b\"limit\":120\x7d" := by decide
  have second : canonicalJsonDumps (orEmpty sampleAdapter.compensationPayload) = some "\x7b\"limit\":100\x7d" := by decide
  have raised : normalizedUrl samplePlatform.unicode sampleAdapter.actionUrl = .ok "https://api.example.com/raise".toList := by rfl
  have lowered : normalizedUrl samplePlatform.unicode "https://api.example.com/lower".toList = .ok "https://api.example.com/lower".toList := by rfl
  have applied := @post_made samplePlatform sampleAdapter sampleSurroundings sampleIntent _ _ _ "BIND_WEBHOOK_ACTION_FAILED" _ _ built first
    (by decide) raised
  have reverted := @post_made samplePlatform sampleAdapter sampleSurroundings sampleIntent _ _ _ "BIND_WEBHOOK_COMPENSATION_FAILED" _ _ built second
    (by decide) lowered
  have whole : sent samplePlatform sampleAdapter sampleRun =
      (apply samplePlatform sampleSurroundings sampleAdapter sampleIntent).2.map (fun request => (Call.apply sampleIntent,request)) ++
      ((revert samplePlatform sampleSurroundings sampleAdapter sampleIntent).2.map (fun request => (Call.revert sampleIntent,request)) ++ []) := rfl
  rw [apply,answering_sent,applied,revert_sent rfl (by decide),reverted,List.map_cons,List.map_nil,List.map_cons,List.map_nil,
    List.append_nil,List.singleton_append] at whole
  have apart : "https://api.example.com/raise".toList ≠ "https://api.example.com/lower".toList := by decide
  refine ⟨_,_,whole,rfl,rfl,apart,?_,?_⟩
  · rw [postHeaders_key rfl]
    rfl
  · rw [postHeaders_key rfl,postHeaders_key rfl]

end VeritasOs.WebhookAdapter
