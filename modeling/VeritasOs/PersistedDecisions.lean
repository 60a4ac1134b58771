import VeritasOs.CallRuns
import VeritasOs.DateTime
import VeritasOs.PolicyCompiler
import VeritasOs.WatVerifier

namespace VeritasOs.PersistedDecisions
open Text JsonText BindArtifacts PolicyBundle PolicyCompiler DateTime CallRuns
open WatVerifier (Python toInt)

section Files
variable {κ α : Type} [DecidableEq κ]

-- A file that is written takes the place of the one that has its path.
def put (files : List (κ × α)) (file : κ × α) : List (κ × α) := files.filter (fun held => !decide (held.1 = file.1)) ++ [file]

theorem mem_put {files : List (κ × α)} {file held : κ × α} : held ∈ put files file ↔ (held ∈ files ∧ held.1 ≠ file.1) ∨ held = file := by
  simp [put]

end Files

structure PipelineContext where
  query : String
  userId : String
  requestId : String
  fastMode : Bool
  context : Dict
  critique : Value

-- mask_pii, the platform's %Y for years before 1000, and where the records go.
structure Setting where
  python : Python
  maskPii : String → String
  padsYear : Bool
  logDir : String
  datasetDir : String
  hasAtomicIo : Bool

-- One call, with its two readings of the clock and the milliseconds it takes.
structure Call where
  ctx : PipelineContext
  payload : Dict
  durationMs : Int
  recordedAt : Int
  stampedAt : Int
  elapsed : Int

abbrev Disk := List ((String × String) × String)

def redactText (maskPii : String → String) (text : String) : String := if text = "" then text else maskPii text

def maxRedactionDepth : Nat := 50

mutual
def redactPayload (maskPii : String → String) (depth : Nat) : Value → Value
  | .str s => if maxRedactionDepth < depth then .str s else .str (redactText maskPii s)
  | .list items => if maxRedactionDepth < depth then .list items else .list (redactItems maskPii (depth + 1) items)
  | .tuple items => if maxRedactionDepth < depth then .tuple items else .tuple (redactItems maskPii (depth + 1) items)
  | .dict members => if maxRedactionDepth < depth then .dict members else .dict (redactMembers maskPii (depth + 1) members)
  | other => other
def redactItems (maskPii : String → String) (depth : Nat) : List Value → List Value
  | [] => []
  | item :: rest => redactPayload maskPii depth item :: redactItems maskPii depth rest
def redactMembers (maskPii : String → String) (depth : Nat) : List (Key × Value) → List (Key × Value)
  | [] => []
  | (key,value) :: rest => (key,redactPayload maskPii depth value) :: redactMembers maskPii depth rest
end

def attributes (value : Value) : Except Exc Dict :=
  if !value.truthy then .ok []
  else
    match value with
    | .dict members => .ok members
    | other => .error (attributeError (quoteStr (typeName other) ++ " object has no attribute 'get'"))

def dictOr (value : Value) : Dict :=
  match value with
  | .dict members => members
  | _ => []

def compactWorldStateForPersist (worldState : Dict) (userId : String) : Dict :=
  let meta_ := dictOr (worldState.get "meta")
  let lastUsers := dictOr (meta_.get "last_users")
  let projects := match worldState.get "projects" with
    | .list projects => (projects.filter fun project =>
      match project with
      | .dict members => (Dict.getD members "owner_user_id" (.str "")).text == userId
      | _ => false).take 1
    | _ => []
  [(.str "schema_version",worldState.get "schema_version"),(.str "updated_at",worldState.get "updated_at"),
   (.str "meta",.dict [(.str "version",meta_.get "version"),(.str "created_at",meta_.get "created_at"),
     (.str "repo_fingerprint",meta_.get "repo_fingerprint"),
     (.str "last_users",.dict (if lastUsers.has userId then [(.str userId,lastUsers.get userId)] else []))]),
   (.str "projects",.list projects),(.str "veritas",worldState.getD "veritas" (.dict [])),
   (.str "metrics",worldState.getD "metrics" (.dict []))]

def sanitizeContextForPersist (context : Dict) (userId : String) : Dict :=
  context.filterMap fun member =>
    if member.1 = .str "world_state" then
      match member.2 with
      | .dict worldState => some (member.1,.dict (compactWorldStateForPersist worldState userId))
      | other => some (member.1,other)
    else if member.1 = .str "projects" ∨ member.1 = .str "history" then none
    else some member

def countIn (python : Python) (mapping : Dict) (name : String) : Except Exc Int :=
  let value := mapping.getD name (.int 0)
  toInt python (if value.truthy then value else .int 0)

-- utc_now_iso_z(timespec="seconds")
def utcNowIsoZ (instant : Int) : String :=
  let (year,month,day) := ord2ymd ((instant / dayMicros).toNat + 1)
  let micros := (instant % dayMicros).toNat
  padded 4 year ++ "-" ++ padded 2 month ++ "-" ++ padded 2 day ++ "T" ++
    padded 2 (micros / 3600000000) ++ ":" ++ padded 2 (micros / 60000000 % 60) ++ ":" ++ padded 2 (micros / 1000000 % 60) ++ "Z"

def stamp (padsYear : Bool) (instant : Int) : String :=
  let (year,month,day) := ord2ymd ((instant / dayMicros).toNat + 1)
  let micros := (instant % dayMicros).toNat
  padded (if padsYear then 4 else 1) year ++ padded 2 month ++ padded 2 day ++ "_" ++
    padded 2 (micros / 3600000000) ++ padded 2 (micros / 60000000 % 60) ++ padded 2 (micros / 1000000 % 60) ++ "_" ++
    padded 3 (micros % 1000000 / 1000)

def fileName (padsYear : Bool) (instant : Int) : String := "decide_" ++ stamp padsYear instant ++ ".json"

section Persist
variable (setting : Setting)

-- The record, before it is redacted, and the payload with its meta block filled in.
def decisionRecord (call : Call) : Except Exc (Dict × Dict) := do
  let ctx := call.ctx
  let payload := call.payload
  let extras ← attributes (payload.get "extras")
  let metrics ← attributes (extras.get "metrics")
  let latencyMs ← toInt setting.python (metrics.getD "latency_ms" (.int call.durationMs))
  let evidenceList := match payload.get "evidence" with
    | .list items => items.filter fun item => (Value.asDict? item).isSome
    | _ => []
  let fromMemory := evidenceList.filter fun evidence => startsWith "memory" (lower ((dictOr evidence).getD "source" (.str "")).text)
  let memoryEvidenceCount ← countIn setting.python metrics "memory_evidence_count"
  let memHits ← countIn setting.python metrics "mem_hits"
  let webHits ← countIn setting.python metrics "web_hits"
  let fastMode := (extras.getD "fast_mode" (.bool ctx.fastMode)).truthy
  let metaPayload := ((((dictOr (payload.get "meta")).set "memory_evidence_count" (.int memoryEvidenceCount)).set
    "mem_evidence_count" (.int fromMemory.length)).set "mem_hits" (.int memHits)).set "web_hits" (.int webHits)
  let metaPayload := metaPayload.set "fast_mode" (.bool fastMode)
  let payload := payload.set "meta" (.dict metaPayload)
  let fuji := payload.get "fuji"
  let fujiFull := if fuji.truthy then fuji else .dict []
  let userId := (ctx.context.get "user_id").orStr (if ctx.userId = "" then "anon" else ctx.userId)
  let telosScore ← setting.python.float (payload.getD "telos_score" (.float (.finite ⟨"0.0",float_zero⟩)))
  let gateRisk ← setting.python.float ((dictOr (payload.get "gate")).getD "risk" (.float (.finite ⟨"0.0",float_zero⟩)))
  let recordedMemoryEvidence ← countIn setting.python metaPayload "memory_evidence_count"
  let recordedMemEvidence ← countIn setting.python metaPayload "mem_evidence_count"
  return (payload,[(.str "request_id",.str ctx.requestId),(.str "ts",.str (utcNowIsoZ call.recordedAt)),(.str "query",.str ctx.query),
     (.str "chosen",payload.get "chosen"),
     (.str "decision_status",if (payload.get "decision_status").truthy then payload.get "decision_status" else .str "unknown"),
     (.str "telos_score",.float telosScore),(.str "gate_risk",.float gateRisk),
     (.str "fuji_status",(dictOr fujiFull).get "status"),(.str "fuji",fujiFull),(.str "latency_ms",.int latencyMs),
     (.str "evidence",.list (evidenceList.drop (evidenceList.length - 5))),
     (.str "memory_evidence_count",.int recordedMemoryEvidence),(.str "mem_evidence_count",.int recordedMemEvidence),
     (.str "context",.dict (sanitizeContextForPersist ctx.context userId)),(.str "world",ctx.context.get "world"),
     (.str "fast_mode",.bool fastMode),(.str "mem_hits",.int memHits),(.str "web_hits",.int webHits),
     (.str "critique_ok",.bool ((dictOr ctx.critique).get "ok").truthy),(.str "critique_mode",(dictOr ctx.critique).get "mode"),
     (.str "critique_reason",(dictOr ctx.critique).get "reason")])

-- mapping.setdefault(name, {}), changed when it is a dict.
def within (name : String) (change : Dict → Dict) (mapping : Dict) : Dict :=
  match mapping.getD name (.dict []) with
  | .dict inner => mapping.set name (.dict (change inner))
  | _ => mapping

def stageLatency (elapsed : Int) : Dict → Dict :=
  within "extras" (within "metrics" (within "stage_latency" (·.set "persist" (.int (max 0 elapsed)))))

def fileText (layout : Layout) (document : Json) : String :=
  if setting.hasAtomicIo then dumps layout document ++ "\n" else dumps layout document

def writeFiles (disk : Disk) (name : String) (document : Json) : Disk :=
  put (put disk ((setting.logDir,name),fileText setting (indented 2) document)) ((setting.datasetDir,name),fileText setting spaced document)

-- The payload the caller is left with, and the files. No file operation fails.
def persistDecisionToDisk (disk : Disk) (call : Call) : Except Exc (Dict × Disk) := do
  let (payload,record) ← decisionRecord setting call
  let persist := redactPayload setting.maskPii 0 (.dict record)
  match toJson false persist with
  | some document => return (stageLatency call.elapsed payload,writeFiles setting disk (fileName setting.padsYear call.stampedAt) document)
  | none => throw encodingError

def isDecision (name : String) : Bool := startsWith "decide_" name && endsWith ".json" name && decide (12 ≤ name.length)

def candidates (disk : Disk) : Disk :=
  (disk.filter fun file => file.1.1 == setting.logDir && isDecision file.1.2).insertionSort fun a b => textLe b.1.2 a.1.2 = true

def named (decisionId : String) (payload : Dict) : Bool :=
  decisionId == (payload.get "request_id").orStr "" || decisionId == (payload.get "decision_id").orStr ""

def readDecision (decisionId text : String) : Option Dict :=
  match (loads text).map fromJson with
  | some (.dict payload) => if named decisionId payload then some payload else none
  | _ => none

def loadPersistedDecision (disk : Disk) (decisionId : String) : Option Dict :=
  (candidates setting disk).findSome? fun file => readDecision decisionId file.2

end Persist

def recordNames : List String :=
  ["request_id","ts","query","chosen","decision_status","telos_score","gate_risk","fuji_status","fuji","latency_ms","evidence",
   "memory_evidence_count","mem_evidence_count","context","world","fast_mode","mem_hits","web_hits","critique_ok","critique_mode",
   "critique_reason"]

theorem recordNames_distinct : (recordNames.map Key.str).Nodup := by decide

section Written
variable (setting : Setting)

def written (call : Call) : Option Json :=
  (decisionRecord setting call).toOption.bind fun made => toJson false (redactPayload setting.maskPii 0 (.dict made.2))

def recordOf (call : Call) : Option Dict := (written setting call).bind fun document => (fromJson document).asDict?

variable {setting} {call : Call} {payload record members : Dict}

theorem redactMembers_map (maskPii : String → String) (depth : Nat) (members : Dict) :
    redactMembers maskPii depth members = members.map fun member => (member.1,redactPayload maskPii depth member.2) := by
  induction members with
  | nil => rfl
  | cons head rest ih => rw [redactMembers,List.map_cons,ih]

theorem lookup_redacted (maskPii : String → String) (depth : Nat) (members : Dict) (key : Key) :
    lookup key (redactMembers maskPii depth members) = (lookup key members).map (redactPayload maskPii depth) := by
  rw [redactMembers_map]
  exact lookup_map (fun _ => redactPayload maskPii depth) key members

theorem written_record (wrote : written setting call = some document) :
    ∃ record, recordOf setting call = some record ∧ fromJson document = .dict record := by
  obtain ⟨made,_,json⟩ := Option.bind_eq_some_iff.mp wrote
  rw [redactPayload,if_neg (by decide)] at json
  obtain ⟨members,rfl⟩ := toJson_dict_obj json
  exact ⟨_,by rw [recordOf,wrote]; rfl,rfl⟩

theorem decisionRecord_shape (made : decisionRecord setting call = .ok (payload,record)) :
    record.map Prod.fst = recordNames.map Key.str ∧ lookup (.str "request_id") record = some (.str call.ctx.requestId) := by
  obtain ⟨_,_,made⟩ := bind_ok.mp made
  obtain ⟨_,_,made⟩ := bind_ok.mp made
  obtain ⟨_,_,made⟩ := bind_ok.mp made
  obtain ⟨_,_,made⟩ := bind_ok.mp made
  obtain ⟨_,_,made⟩ := bind_ok.mp made
  obtain ⟨_,_,made⟩ := bind_ok.mp made
  obtain ⟨_,_,made⟩ := bind_ok.mp made
  obtain ⟨_,_,made⟩ := bind_ok.mp made
  obtain ⟨_,_,made⟩ := bind_ok.mp made
  obtain ⟨_,_,made⟩ := bind_ok.mp made
  cases made
  exact ⟨rfl,rfl⟩

theorem recordOf_named (found : recordOf setting call = some record) :
    record.get "request_id" = .str (redactText setting.maskPii call.ctx.requestId) ∧ record.get "decision_id" = .none := by
  obtain ⟨document,wrote,read⟩ := Option.bind_eq_some_iff.mp found
  obtain ⟨⟨payload,made⟩,recorded,json⟩ := Option.bind_eq_some_iff.mp wrote
  obtain ⟨names,id⟩ := decisionRecord_shape (toOption_some recorded)
  rw [redactPayload,if_neg (by decide)] at json
  have keys : (redactMembers setting.maskPii 1 made).map Prod.fst = recordNames.map Key.str := by
    rw [redactMembers_map,List.map_map]
    exact names
  have shape : Record (redactMembers setting.maskPii 1 made) := by
    refine ⟨fun member listed => ?_,by rw [keys]; exact recordNames_distinct⟩
    obtain ⟨name,_,same⟩ := List.mem_map.mp (keys ▸ List.mem_map_of_mem (f := Prod.fst) listed)
    exact ⟨name,same.symm⟩
  have copied : jsonCopy (.dict (redactMembers setting.maskPii 1 made)) = some (fromJson document) := by
    rw [jsonCopy,json]
    rfl
  obtain ⟨fields,same,values⟩ := jsonCopy_fields shape copied
  rw [same] at read
  cases read
  constructor
  · rw [Dict.get,values,lookup_redacted,id]
    rfl
  · have absent : lookup (.str "decision_id") made = none := by
      cases held : lookup (.str "decision_id") made with
      | none => rfl
      | some value =>
        have listed := names ▸ List.mem_map_of_mem (f := Prod.fst) (lookup_mem held)
        have missing : Key.str "decision_id" ∉ recordNames.map Key.str := by decide
        exact absurd listed missing
    rw [Dict.get,values,lookup_redacted,absent]
    rfl

end Written

section Runs
variable (setting : Setting)

-- The calls, one after the other: one that raises writes nothing.
def service : Serve Disk Call (Except Exc Dict) := attempted (persistDecisionToDisk setting)

def Call.file (call : Call) : String := fileName setting.padsYear call.stampedAt

def writing (calls : List Call) : List Call := calls.filter fun call => (recordOf setting call).isSome

-- Each call that wrote a record has it found by its request id.
def Found (disk : Disk) (calls : List Call) : Prop :=
  ∀ call ∈ calls, ∀ record, recordOf setting call = some record →
    loadPersistedDecision setting (after (service setting) disk calls) call.ctx.requestId = some record

-- No two calls that write take their stamp in one millisecond, and no request id is masked.
structure Apart (calls : List Call) : Prop where
  stamps : ((writing setting calls).map (Call.file setting)).Nodup
  plain : ∀ call ∈ writing setting calls, redactText setting.maskPii call.ctx.requestId = call.ctx.requestId

variable {setting} {disk : Disk} {call : Call} {record : Dict} {document : Json}

theorem service_disk (disk : Disk) (call : Call) :
    (service setting disk call).2 = (written setting call).elim disk (writeFiles setting disk (call.file setting)) := by
  unfold service attempted persistDecisionToDisk written
  cases made : decisionRecord setting call with
  | error error => rfl
  | ok both =>
    obtain ⟨payload,record⟩ := both
    cases json : toJson false (redactPayload setting.maskPii 0 (.dict record)) with
    | none => simp [json,bind,Except.bind,Except.toOption,throw,throwThe,MonadExceptOf.throw]
    | some document => simp [json,bind,Except.bind,Except.toOption,Call.file,pure,Except.pure]

variable {calls : List Call} {decisionId : String}

theorem mem_writing : call ∈ writing setting calls ↔ call ∈ calls ∧ (recordOf setting call).isSome = true :=
  List.mem_filter

theorem writing_append (first second : List Call) : writing setting (first ++ second) = writing setting first ++ writing setting second :=
  List.filter_append ..

theorem loads_fileText (layout : Layout) (document : Json) : loads (fileText setting layout document) = some document := by
  unfold fileText
  split
  · exact loads_dumps_line layout document
  · exact loads_dumps layout document

section Write
variable {name : String} {held : (String × String) × String}

theorem mem_writeFiles_other (other : held.1.2 ≠ name) : held ∈ writeFiles setting disk name document ↔ held ∈ disk := by
  have first : held.1 ≠ (setting.logDir,name) := fun same => other (congrArg Prod.snd same)
  have second : held.1 ≠ (setting.datasetDir,name) := fun same => other (congrArg Prod.snd same)
  have third : held ≠ ((setting.logDir,name),fileText setting (indented 2) document) := fun same => first (congrArg Prod.fst same)
  have fourth : held ≠ ((setting.datasetDir,name),fileText setting spaced document) := fun same => second (congrArg Prod.fst same)
  simp [writeFiles,mem_put,first,second,third,fourth]

theorem writeFiles_own {text : String} (there : ((setting.logDir,name),text) ∈ writeFiles setting disk name document) :
    loads text = some document := by
  rcases mem_put.mp there with ⟨first,_⟩ | same
  · rcases mem_put.mp first with ⟨_,moved⟩ | same
    · exact absurd rfl moved
    · obtain ⟨_,rfl⟩ := Prod.mk.inj same
      exact loads_fileText _ _
  · obtain ⟨_,rfl⟩ := Prod.mk.inj same
    exact loads_fileText _ _

theorem writeFiles_holds (disk : Disk) (name : String) (document : Json) :
    ∃ text, ((setting.logDir,name),text) ∈ writeFiles setting disk name document := by
  by_cases shared : setting.logDir = setting.datasetDir
  · exact ⟨_,mem_put.mpr (.inr (by rw [shared]))⟩
  · refine ⟨_,mem_put.mpr (.inl ⟨mem_put.mpr (.inr rfl),?_⟩)⟩
    exact fun same => shared (congrArg Prod.fst same)

end Write

-- Every record on disk is the one of a call, and each name has one.
structure Recorded (setting : Setting) (disk : Disk) (calls : List Call) : Prop where
  source : ∀ name text, ((setting.logDir,name),text) ∈ disk → isDecision name = true →
    ∃ call ∈ calls, ∃ document, written setting call = some document ∧ call.file setting = name ∧ loads text = some document
  single : ∀ name first second, ((setting.logDir,name),first) ∈ disk → ((setting.logDir,name),second) ∈ disk → isDecision name = true →
    loads first = loads second

theorem recorded_step (recorded : Recorded setting disk calls) (call : Call) :
    Recorded setting (service setting disk call).2 (calls ++ [call]) := by
  have earlier : ∀ name text, ((setting.logDir,name),text) ∈ disk → isDecision name = true →
      ∃ other ∈ calls ++ [call], ∃ document, written setting other = some document ∧ other.file setting = name ∧ loads text = some document := by
    intro name text there decision
    obtain ⟨other,listed,found⟩ := recorded.source name text there decision
    exact ⟨other,List.mem_append_left _ listed,found⟩
  rw [service_disk]
  cases wrote : written setting call with
  | none => exact ⟨earlier,recorded.single⟩
  | some document =>
    constructor
    · intro name text there decision
      by_cases own : name = call.file setting
      · subst own
        exact ⟨call,by simp,document,wrote,rfl,writeFiles_own there⟩
      · exact earlier name text ((mem_writeFiles_other own).mp there) decision
    · intro name first second one two decision
      by_cases own : name = call.file setting
      · subst own
        rw [writeFiles_own one,writeFiles_own two]
      · exact recorded.single name first second ((mem_writeFiles_other own).mp one) ((mem_writeFiles_other own).mp two) decision

-- The directory of the records holds none when the run begins.
def Fresh (setting : Setting) (disk : Disk) : Prop := ∀ name text, ((setting.logDir,name),text) ∈ disk → isDecision name = false

theorem recorded_run (fresh : Fresh setting disk) (calls : List Call) : Recorded setting (after (service setting) disk calls) calls := by
  induction calls using List.reverseRecOn with
  | nil =>
    constructor
    · intro name text there decision
      rw [fresh name text there] at decision
      cases decision
    · intro name first _ there _ decision
      rw [fresh name first there] at decision
      cases decision
  | append_singleton calls call ih =>
    rw [after_concat]
    exact recorded_step ih call

theorem readDecision_exact :
    readDecision decisionId text = some record ↔ ∃ document, loads text = some document ∧ fromJson document = .dict record ∧ named decisionId record = true := by
  unfold readDecision
  constructor
  · intro found
    split at found
    · rename_i payload read
      split at found
      · rename_i fits
        cases found
        obtain ⟨document,loaded,same⟩ := Option.map_eq_some_iff.mp read
        exact ⟨document,loaded,same,fits⟩
      · cases found
    · cases found
  · intro given
    obtain ⟨document,loaded,same,fits⟩ := given
    simp [loaded,same,fits]

theorem mem_candidates : file ∈ candidates setting disk ↔ file ∈ disk ∧ file.1.1 = setting.logDir ∧ isDecision file.1.2 = true := by
  unfold candidates
  rw [(List.perm_insertionSort _ _).mem_iff]
  simp [List.mem_filter]

theorem fileName_decision (padsYear : Bool) (instant : Int) : isDecision (fileName padsYear instant) = true := by
  have head : startsWith "decide_" (fileName padsYear instant) = true := by
    rw [startsWith,fileName,String.append_assoc,String.toList_append]
    exact List.isPrefixOf_iff_prefix.mpr (List.prefix_append _ _)
  have tail : endsWith ".json" (fileName padsYear instant) = true := by
    rw [endsWith,fileName,String.toList_append]
    exact List.isSuffixOf_iff_suffix.mpr (List.suffix_append _ _)
  have long : 12 ≤ (fileName padsYear instant).length := by
    rw [fileName,String.length_append,String.length_append]
    have ends : "decide_".length = 7 ∧ ".json".length = 5 := by decide
    omega
  rw [isDecision,head,tail,decide_eq_true long]
  rfl

theorem loaded_recorded (recorded : Recorded setting disk calls) (loaded : loadPersistedDecision setting disk decisionId = some record) :
    ∃ call ∈ calls, recordOf setting call = some record ∧ named decisionId record = true ∧
      ∃ text document, ((setting.logDir,call.file setting),text) ∈ disk ∧ loads text = some document ∧ fromJson document = .dict record := by
  obtain ⟨⟨⟨dir,name⟩,text⟩,listed,read⟩ := List.exists_of_findSome?_eq_some loaded
  obtain ⟨there,rfl,decision⟩ := mem_candidates.mp listed
  obtain ⟨document,reads,same,fits⟩ := readDecision_exact.mp read
  obtain ⟨call,among,wrote,made,rfl,loads_⟩ := recorded.source name text there decision
  obtain rfl := Option.some.inj (loads_.symm.trans reads)
  exact ⟨call,among,by rw [recordOf,made,Option.bind_some,same]; rfl,fits,text,_,there,reads,same⟩

theorem written_shown (wrote : written setting call = some document) : (recordOf setting call).isSome = true := by
  obtain ⟨record,found,_⟩ := written_record wrote
  rw [found]
  rfl

-- A written record stands on disk at the end, unless a later call takes its name.
theorem kept_record (listed : call ∈ calls) (wrote : written setting call = some document)
    (names : ((writing setting calls).map (Call.file setting)).Nodup) :
    ∃ text, ((setting.logDir,call.file setting),text) ∈ after (service setting) disk calls ∧ loads text = some document := by
  induction calls using List.reverseRecOn with
  | nil => cases listed
  | append_singleton calls last ih =>
    rw [after_concat,service_disk]
    rw [writing_append,List.map_append] at names
    rcases List.mem_append.mp listed with before | own
    · obtain ⟨text,there,reads⟩ := ih before names.of_append_left
      cases wroteLast : written setting last with
      | none => exact ⟨text,there,reads⟩
      | some other =>
        have apart : call.file setting ≠ last.file setting := by
          intro same
          have first : call ∈ writing setting calls := mem_writing.mpr ⟨before,written_shown wrote⟩
          have second : last ∈ writing setting [last] := mem_writing.mpr ⟨List.mem_singleton_self last,written_shown wroteLast⟩
          refine List.disjoint_of_nodup_append names (List.mem_map_of_mem (f := Call.file setting) first) ?_
          rw [same]
          exact List.mem_map_of_mem (f := Call.file setting) second
        exact ⟨text,(mem_writeFiles_other apart).mpr there,reads⟩
    · obtain rfl := List.mem_singleton.mp own
      rw [wrote]
      obtain ⟨text,there⟩ := @writeFiles_holds setting (after (service setting) disk calls) (call.file setting) document
      exact ⟨text,there,writeFiles_own there⟩

structure Distinct (calls : List Call) : Prop where
  ids : (calls.map fun call => call.ctx.requestId).Nodup
  filled : ∀ call ∈ calls, call.ctx.requestId ≠ ""

theorem Distinct.same (distinct : Distinct calls) (left : first ∈ calls) (right : second ∈ calls)
    (same : first.ctx.requestId = second.ctx.requestId) : first = second :=
  List.inj_on_of_nodup_map distinct.ids left right same

theorem orStr_text (s : String) : (Value.str s).orStr "" = s := by
  by_cases empty : s = ""
  · subst empty
    rfl
  · have filled : (Value.str s).truthy = true := by simpa [Value.truthy] using empty
    rw [Value.orStr,if_pos filled]
    rfl

theorem named_exact (made : recordOf setting call = some record) (filled : decisionId ≠ "") :
    named decisionId record = true ↔ decisionId = redactText setting.maskPii call.ctx.requestId := by
  obtain ⟨id,none_⟩ := recordOf_named made
  have absent : Value.none.orStr "" = "" := rfl
  rw [named,id,none_,orStr_text,absent]
  simp [filled]

theorem found_of_apart (fresh : Fresh setting disk) (distinct : Distinct calls) (apart : Apart setting calls) :
    Found setting disk calls := by
  intro call listed record made
  have recorded := recorded_run fresh calls
  obtain ⟨document,wrote,read⟩ := Option.bind_eq_some_iff.mp made
  obtain ⟨_,same,reads⟩ := written_record wrote
  cases made.symm.trans same
  obtain ⟨text,there,loaded⟩ : ∃ text, ((setting.logDir,call.file setting),text) ∈ after (service setting) disk calls ∧ loads text = some document :=
    kept_record listed wrote apart.stamps
  have plain := apart.plain call (mem_writing.mpr ⟨listed,by rw [made]; rfl⟩)
  have fits : named call.ctx.requestId record = true := (named_exact made (distinct.filled call listed)).mpr plain.symm
  have candidate := mem_candidates.mpr ⟨there,rfl,fileName_decision setting.padsYear call.stampedAt⟩
  have hit := readDecision_exact.mpr ⟨document,loaded,reads,fits⟩
  cases found : loadPersistedDecision setting (after (service setting) disk calls) call.ctx.requestId with
  | none =>
    have missed := List.findSome?_eq_none_iff.mp found _ candidate
    rw [hit] at missed
    cases missed
  | some other =>
    obtain ⟨owner,among,owned,carries,_⟩ := loaded_recorded recorded found
    have written_ := apart.plain owner (mem_writing.mpr ⟨among,by rw [owned]; rfl⟩)
    have ids := (named_exact owned (distinct.filled call listed)).mp carries
    rw [written_] at ids
    obtain rfl := distinct.same listed among ids
    exact owned.symm.trans made

theorem plain_of_found (fresh : Fresh setting disk) (distinct : Distinct calls) (found : Found setting disk calls) :
    ∀ call ∈ writing setting calls, redactText setting.maskPii call.ctx.requestId = call.ctx.requestId := by
  intro call writes
  obtain ⟨listed,shown⟩ := mem_writing.mp writes
  obtain ⟨record,made⟩ := Option.isSome_iff_exists.mp shown
  obtain ⟨_,_,_,carries,_⟩ := loaded_recorded (recorded_run fresh calls) (found call listed record made)
  exact ((named_exact made (distinct.filled call listed)).mp carries).symm

theorem found_own (fresh : Fresh setting disk) (distinct : Distinct calls) (found : Found setting disk calls) (listed : call ∈ calls)
    (made : recordOf setting call = some record) :
    ∃ text document, ((setting.logDir,call.file setting),text) ∈ after (service setting) disk calls ∧ loads text = some document ∧
      fromJson document = .dict record := by
  obtain ⟨owner,among,owned,carries,stands⟩ := loaded_recorded (recorded_run fresh calls) (found call listed record made)
  have plain := plain_of_found fresh distinct found owner (mem_writing.mpr ⟨among,by rw [owned]; rfl⟩)
  have ids := (named_exact owned (distinct.filled call listed)).mp carries
  rw [plain] at ids
  obtain rfl := distinct.same listed among ids
  exact stands

theorem stamps_of_found (fresh : Fresh setting disk) (distinct : Distinct calls) (found : Found setting disk calls) :
    ((writing setting calls).map (Call.file setting)).Nodup := by
  have once : (writing setting calls).Nodup := (distinct.ids.of_map _).filter _
  refine once.map_on fun first one second two same => ?_
  obtain ⟨left,shownLeft⟩ := mem_writing.mp one
  obtain ⟨right,shownRight⟩ := mem_writing.mp two
  obtain ⟨record,made⟩ := Option.isSome_iff_exists.mp shownLeft
  obtain ⟨other,formed⟩ := Option.isSome_iff_exists.mp shownRight
  obtain ⟨text,document,there,reads,is_⟩ := found_own fresh distinct found left made
  obtain ⟨text',document',there',reads',is_'⟩ := found_own fresh distinct found right formed
  rw [← same] at there'
  have equal := (recorded_run fresh calls).single _ _ _ there there' (fileName_decision setting.padsYear first.stampedAt)
  rw [reads,reads',Option.some.injEq] at equal
  rw [equal,is_',Value.dict.injEq] at is_
  rw [← is_] at made
  have ids := (named_exact made (distinct.filled first left)).mpr (plain_of_found fresh distinct found first one).symm
  refine distinct.same left right (((named_exact formed (distinct.filled first left)).mp ids).trans ?_)
  exact plain_of_found fresh distinct found second two

theorem decisions_found_exact (setting : Setting) (disk : Disk) (calls : List Call) (fresh : Fresh setting disk) (distinct : Distinct calls) :
    Found setting disk calls ↔ Apart setting calls :=
  ⟨fun found => ⟨stamps_of_found fresh distinct found,plain_of_found fresh distinct found⟩,found_of_apart fresh distinct⟩

end Runs

def plainSetting : Setting where
  python := WatVerifier.samplePython
  maskPii := id
  padsYear := true
  logDir := "logs"
  datasetDir := "dataset"
  hasAtomicIo := true

def callAt (requestId : String) (stampedAt : Int) : Call where
  ctx := ⟨"q","anon",requestId,false,[],.dict []⟩
  payload := []
  durationMs := 1
  recordedAt := stampedAt
  stampedAt := stampedAt
  elapsed := 0

theorem samples_written (requestId : String) (stampedAt : Int) : (recordOf plainSetting (callAt requestId stampedAt)).isSome = true := rfl

theorem fresh_empty : Fresh plainSetting [] := fun _ _ there => by cases there

theorem decisions_found_sample : Found plainSetting [] [callAt "a" 0,callAt "b" 1000000] := by
  refine (decisions_found_exact plainSetting [] _ fresh_empty ⟨by decide,by decide⟩).mpr ⟨?_,?_⟩
  · have names : ([callAt "a" 0,callAt "b" 1000000].map (Call.file plainSetting)).Nodup := by decide
    exact names.sublist (List.filter_sublist.map _)
  · intro call _
    rw [redactText]
    split <;> rfl

theorem one_millisecond_loses : ¬ Found plainSetting [] [callAt "a" 0,callAt "b" 999] := by
  intro found
  have names := stamps_of_found fresh_empty ⟨by decide,by decide⟩ found
  rw [writing,List.filter_eq_self.mpr fun call listed => by
    rcases List.mem_pair.mp listed with rfl | rfl <;> exact samples_written _ _] at names
  exact absurd names (by decide)

end VeritasOs.PersistedDecisions
