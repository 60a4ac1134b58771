import VeritasOs.WitnessLedger

namespace VeritasOs.WormMirror
open Text JsonText BindArtifacts PolicyBundle WitnessLedger

structure S3ObjectLockMirror where
  bucket : String
  keyPrefix : String
  mirrorMode : String
  segmentMaxEntries : Nat
  manifestHmacKey : Option String
  objectLockMode : Option String
  retentionDays : Option Int
  positive : 0 < segmentMaxEntries

def filled (text : Option String) : Option String :=
  let stripped := strip (text.getD "")
  if stripped = "" then none else some stripped

def init (bucket keyPrefix mirrorMode : String) (segmentMaxEntries : Int) (manifestHmacKey objectLockMode : Option String)
    (retentionDays : Option Int) : S3ObjectLockMirror where
  bucket := strip bucket
  keyPrefix := String.ofList (stripBy (· == '/') keyPrefix.toList)
  mirrorMode := lower (strip mirrorMode)
  segmentMaxEntries := max 1 segmentMaxEntries.toNat
  manifestHmacKey := filled manifestHmacKey
  objectLockMode := filled objectLockMode
  retentionDays := retentionDays
  positive := lt_of_lt_of_le Nat.one_pos (le_max_left _ _)

-- A line with the number of the call that brought it: equal texts are told apart by it, and nothing else is read from it.
structure Line where
  call : Nat
  text : String
deriving DecidableEq

structure PutRequest where
  bucket : String
  key : String
  body : String
  contentType : String
  objectLockMode : Option String
  objectLockRetainUntilDate : Option String

-- An object that was written, with the lines its body is made of.
structure StoredObject where
  request : PutRequest
  lines : List Line

-- What a call finds around it: random identifiers, the clock as text, and S3. A failure is its class and message.
structure Call where
  line : String
  uuid : String
  day : String
  second : String
  -- now + timedelta(days=retention_days), which may leave the calendar.
  retainUntil : Except String String
  putObject : PutRequest → Except String Dict

-- The buffer, and beside it the objects in the bucket and the lines a call returned ok for.
structure State where
  segmentLines : List Line
  segmentEntries : List Dict
  objects : List StoredObject
  acknowledged : List Line
  calls : Nat

def State.start : State := ⟨[],[],[],[],0⟩

variable (sha256 : String → String) (hmac : String → String → String)

def optionalStr (text : Option String) : Value := (text.map Value.str).getD .none

def failed (place : Dict) (error : String) : Dict :=
  [field "configured" (.bool true),field "ok" (.bool false),field "backend" (.str "s3_object_lock")] ++ place ++ [field "error" (.str error)]

def underPrefix (mirror : S3ObjectLockMirror) (key : String) : String :=
  if mirror.keyPrefix = "" then key else mirror.keyPrefix ++ "/" ++ key

def buildSegmentKey (mirror : S3ObjectLockMirror) (call : Call) : String :=
  underPrefix mirror ("trustlog/segments/" ++ call.day ++ "/segment-" ++ call.uuid ++ ".jsonl")

def buildManifestKey (mirror : S3ObjectLockMirror) (call : Call) : String :=
  underPrefix mirror ("trustlog/segments/" ++ call.day ++ "/manifest-" ++ call.uuid ++ ".json")

def buildKey (mirror : S3ObjectLockMirror) (call : Call) : String :=
  underPrefix mirror ("trustlog/" ++ call.second ++ "-" ++ call.uuid ++ ".jsonl")

def entryHash (entry : Dict) (line : String) : String :=
  match entry.get "payload_hash" with
  | .str payloadHash => if payloadHash = "" then sha256 line else payloadHash
  | _ => sha256 line

def segmentPayload (lines : List Line) : String := String.join (lines.map Line.text)

def buildManifest (mirror : S3ObjectLockMirror) (lines : List Line) (entries : List Dict) (segmentId segmentPayloadHash segmentKey manifestKey : String) :
    Except String Dict :=
  match entries,lines with
  | firstEntry :: _,firstLine :: _ =>
    let lastEntry := entries.getLastD firstEntry
    let lastLine := lines.getLastD firstLine
    let manifest := [field "segment_id" (.str segmentId),field "entry_count" (.int entries.length),
      field "first_timestamp" (firstEntry.get "timestamp"),field "last_timestamp" (lastEntry.get "timestamp"),
      field "first_hash" (.str (entryHash sha256 firstEntry firstLine.text)),field "last_hash" (.str (entryHash sha256 lastEntry lastLine.text)),
      field "segment_payload_hash" (.str segmentPayloadHash),field "object_keys_written" (.list [.str segmentKey,.str manifestKey])]
    match mirror.manifestHmacKey with
    | none => .ok manifest
    | some key =>
      match canonicalJsonDumps (.dict manifest) with
      | none => .error "TypeError: Object is not JSON serializable"
      | some text => .ok (manifest ++ [field "manifest_signature" (.str (hmac key text))])
  | _,_ => .error "IndexError: list index out of range"

def retained (mirror : S3ObjectLockMirror) : Bool := (mirror.retentionDays.map fun days => decide (0 < days)).getD false

def retainUntil (mirror : S3ObjectLockMirror) (call : Call) : Except String (Option String) :=
  if retained mirror then call.retainUntil.map some else .ok none

def putObject (mirror : S3ObjectLockMirror) (call : Call) (key body contentType : String) : Except String (PutRequest × Dict) := do
  let until_ ← retainUntil mirror call
  let request := ⟨mirror.bucket,key,body,contentType,mirror.objectLockMode,until_⟩
  let response ← call.putObject request
  .ok (request,response)

def pendingResult (mirror : S3ObjectLockMirror) (pending : Nat) : Dict :=
  [field "configured" (.bool true),field "ok" (.bool true),field "backend" (.str "s3_object_lock"),field "bucket" (.str mirror.bucket),
   field "mode" (.str "sealed_segments"),field "segment_sealed" (.bool false),field "pending_entry_count" (.int pending)]

def sealedResult (mirror : S3ObjectLockMirror) (segmentId segmentKey manifestKey segmentPayloadHash manifestHash : String) (until_ : Option String)
    (manifest segmentResponse manifestResponse : Dict) : Dict :=
  [field "configured" (.bool true),field "ok" (.bool true),field "backend" (.str "s3_object_lock"),field "bucket" (.str mirror.bucket),
   field "mode" (.str "sealed_segments"),field "segment_sealed" (.bool true),field "retention_mode" (optionalStr mirror.objectLockMode),
   field "retain_until_date" (optionalStr until_),field "segment_id" (.str segmentId),field "segment_object_key" (.str segmentKey),
   field "segment_manifest_key" (.str manifestKey),field "segment_payload_hash" (.str segmentPayloadHash),field "manifest_hash" (.str manifestHash),
   field "manifest_version_id" (manifestResponse.get "VersionId"),field "manifest_etag" (manifestResponse.get "ETag"),
   field "version_id" (segmentResponse.get "VersionId"),field "etag" (segmentResponse.get "ETag"),field "manifest" (.dict manifest)]

-- What is decided before anything is written; an error here leaves the method with the buffer as it is.
structure Sealing where
  segmentKey : String
  manifestKey : String
  manifest : Dict
  manifestText : String
  until_ : Option String

def prepareSeal (mirror : S3ObjectLockMirror) (call : Call) (s : State) : Except String Sealing := do
  let manifest ← buildManifest sha256 hmac mirror s.segmentLines s.segmentEntries call.uuid (sha256 (segmentPayload s.segmentLines))
    (buildSegmentKey mirror call) (buildManifestKey mirror call)
  match canonicalJsonDumps (.dict manifest) with
  | none => .error "TypeError: Object is not JSON serializable"
  | some text => do
    let until_ ← retainUntil mirror call
    .ok ⟨buildSegmentKey mirror call,buildManifestKey mirror call,manifest,text,until_⟩

def State.cleared (s : State) : State := { s with segmentLines := [],segmentEntries := [] }

def State.stored (s : State) (request : PutRequest) (lines : List Line) : State := { s with objects := s.objects ++ [⟨request,lines⟩] }

-- Both objects are put, and whatever came of it the buffer is cleared.
def sealSegment (mirror : S3ObjectLockMirror) (call : Call) (sealing : Sealing) (s : State) : Dict × State :=
  match putObject mirror call sealing.segmentKey (segmentPayload s.segmentLines) "application/x-ndjson" with
  | .error error => (failed [field "bucket" (.str mirror.bucket)] error,s.cleared)
  | .ok (segmentRequest,segmentResponse) =>
    let stored := s.stored segmentRequest s.segmentLines
    match putObject mirror call sealing.manifestKey sealing.manifestText "application/json" with
    | .error error => (failed [field "bucket" (.str mirror.bucket)] error,stored.cleared)
    | .ok (manifestRequest,manifestResponse) =>
      (sealedResult mirror call.uuid sealing.segmentKey sealing.manifestKey (sha256 (segmentPayload s.segmentLines)) (sha256 sealing.manifestText)
        sealing.until_ sealing.manifest segmentResponse manifestResponse,(stored.stored manifestRequest []).cleared)

def State.buffered (s : State) (call : Call) (entry : Dict) : State :=
  { s with segmentLines := s.segmentLines ++ [⟨s.calls,call.line⟩],segmentEntries := s.segmentEntries ++ [entry] }

def appendSealedSegment (mirror : S3ObjectLockMirror) (call : Call) (s : State) : Except String Dict × State :=
  match (loads call.line).map fromJson with
  | none => (.ok (failed [] "ValueError: sealed_segments mode requires JSON line entries"),s)
  | some (.dict parsed) =>
    let buffered := s.buffered call parsed
    if buffered.segmentLines.length < mirror.segmentMaxEntries then (.ok (pendingResult mirror buffered.segmentLines.length),buffered)
    else
      match prepareSeal sha256 hmac mirror call buffered with
      | .error error => (.error error,buffered)
      | .ok sealing =>
        let result := sealSegment sha256 mirror call sealing buffered
        (.ok result.1,result.2)
  | some _ => (.ok (failed [] "ValueError: sealed_segments mode requires JSON object entries"),s)

def entryResult (mirror : S3ObjectLockMirror) (key : String) (until_ : Option String) (response : Dict) : Dict :=
  [field "configured" (.bool true),field "ok" (.bool true),field "backend" (.str "s3_object_lock"),field "bucket" (.str mirror.bucket),
   field "key" (.str key),field "version_id" (response.get "VersionId"),field "etag" (response.get "ETag"),
   field "retention_mode" (optionalStr mirror.objectLockMode),field "retain_until_date" (optionalStr until_),
   field "mode" (.str "single_entry_objects")]

def appendSingleEntry (mirror : S3ObjectLockMirror) (call : Call) (s : State) : Except String Dict × State :=
  let key := buildKey mirror call
  match retainUntil mirror call with
  | .error error => (.error error,s)
  | .ok until_ =>
    match putObject mirror call key call.line "application/x-ndjson" with
    | .error error => (.ok (failed [field "bucket" (.str mirror.bucket),field "key" (.str key)] error),s)
    | .ok (request,response) => (.ok (entryResult mirror key until_ response),s.stored request [⟨s.calls,call.line⟩])

def mirrorModes : List String := ["single_entry_objects","sealed_segments"]

def appendLine (mirror : S3ObjectLockMirror) (call : Call) (s : State) : Except String Dict × State :=
  if mirror.bucket = "" then (.ok (failed [] "ValueError: VERITAS_TRUSTLOG_S3_BUCKET is required"),s)
  else if !mirrorModes.contains mirror.mirrorMode then
    (.ok (failed [] "ValueError: VERITAS_TRUSTLOG_S3_MIRROR_MODE must be 'single_entry_objects' or 'sealed_segments'"),s)
  else if mirror.mirrorMode = "sealed_segments" then appendSealedSegment sha256 hmac mirror call s
  else appendSingleEntry mirror call s

def returnedOk : Except String Dict → Bool
  | .ok result => result.get "ok" = .bool true
  | .error _ => false

-- What a call returned ok for is acknowledged.
def State.recorded (s : State) (call : Call) (after : Except String Dict × State) : State :=
  { after.2 with
    acknowledged := if returnedOk after.1 then s.acknowledged ++ [⟨s.calls,call.line⟩] else s.acknowledged
    calls := s.calls + 1 }

def step (mirror : S3ObjectLockMirror) (s : State) (call : Call) : State := s.recorded call (appendLine sha256 hmac mirror call s)

def run (mirror : S3ObjectLockMirror) (s : State) (calls : List Call) : State := calls.foldl (step sha256 hmac mirror) s

def State.written (s : State) : List Line := s.objects.flatMap StoredObject.lines

structure Kept (s : State) : Prop where
  there : ∀ line ∈ s.acknowledged, line ∈ s.segmentLines ∨ line ∈ s.written
  once : ∀ line ∈ s.acknowledged, ¬(line ∈ s.segmentLines ∧ line ∈ s.written)

def Bodied (s : State) : Prop := ∀ object ∈ s.objects, object.lines = [] ∨ object.request.body = segmentPayload object.lines

variable {mirror : S3ObjectLockMirror} {call : Call} {s : State}

theorem putObject_body {key body contentType : String}
    (done : putObject mirror call key body contentType = .ok put) : put.1.body = body := by
  obtain ⟨until_,_,rest⟩ := bind_ok.mp done
  obtain ⟨response,_,made⟩ := bind_ok.mp rest
  obtain rfl := Except.ok.inj made
  rfl

theorem bodied_stored (bodied : Bodied s) (own : lines = [] ∨ request.body = segmentPayload lines) : Bodied (s.stored request lines) := by
  intro object listed
  rcases List.mem_append.mp listed with old | new
  · exact bodied object old
  · obtain rfl := List.mem_singleton.mp new
    exact own

theorem bodied_sealed (bodied : Bodied s) : Bodied (sealSegment sha256 mirror call sealing s).2 := by
  unfold sealSegment
  split
  · exact bodied
  · rename_i request response put
    have stored : Bodied (s.stored request s.segmentLines) := bodied_stored bodied (.inr (putObject_body put))
    dsimp only
    split
    · exact stored
    · exact bodied_stored stored (.inl rfl)

theorem bodied_step (bodied : Bodied s) : Bodied (step sha256 hmac mirror s call) := by
  suffices after : Bodied (appendLine sha256 hmac mirror call s).2 from after
  unfold appendLine
  split_ifs
  · exact bodied
  · exact bodied
  · unfold appendSealedSegment
    split
    · exact bodied
    · dsimp only
      split_ifs
      · exact bodied
      · split
        · exact bodied
        · exact bodied_sealed sha256 bodied
    · exact bodied
  · unfold appendSingleEntry
    dsimp only
    split
    · exact bodied
    · split
      · exact bodied
      · rename_i put
        refine bodied_stored bodied (.inr ((putObject_body put).trans ?_))
        simp [segmentPayload,String.join]

-- The call fills the segment and the segment object cannot be put.
structure SealFails (mirror : S3ObjectLockMirror) (s : State) (call : Call) (parsed : Dict) (sealing : Sealing) (error : String) : Prop where
  bucket : mirror.bucket ≠ ""
  read : (loads call.line).map fromJson = some (.dict parsed)
  full : mirror.segmentMaxEntries ≤ s.segmentLines.length + 1
  prepared : prepareSeal sha256 hmac mirror call (s.buffered call parsed) = .ok sealing
  refused : putObject mirror call sealing.segmentKey (segmentPayload (s.buffered call parsed).segmentLines) "application/x-ndjson" = .error error

-- What a call can do to the lines, one constructor for each way through the method.
inductive Effect (mirror : S3ObjectLockMirror) (s : State) (call : Call) : State → Prop where
  | refused : Effect mirror s call { s with calls := s.calls + 1 }
  | pending {t : State} (lines : t.segmentLines = s.segmentLines ++ [⟨s.calls,call.line⟩]) (written : t.written = s.written)
      (acknowledged : t.acknowledged = s.acknowledged ++ [⟨s.calls,call.line⟩]) (calls : t.calls = s.calls + 1) : Effect mirror s call t
  | raised {t : State} (lines : t.segmentLines = s.segmentLines ++ [⟨s.calls,call.line⟩]) (written : t.written = s.written)
      (acknowledged : t.acknowledged = s.acknowledged) (calls : t.calls = s.calls + 1) : Effect mirror s call t
  | segmented {t : State} (lines : t.segmentLines = []) (written : t.written = s.written ++ (s.segmentLines ++ [⟨s.calls,call.line⟩]))
      (acknowledged : t.acknowledged = s.acknowledged ++ [⟨s.calls,call.line⟩]) (calls : t.calls = s.calls + 1) : Effect mirror s call t
  | unmanifested {t : State} (lines : t.segmentLines = []) (written : t.written = s.written ++ (s.segmentLines ++ [⟨s.calls,call.line⟩]))
      (acknowledged : t.acknowledged = s.acknowledged) (calls : t.calls = s.calls + 1) : Effect mirror s call t
  | lost {t : State} {parsed : Dict} {sealing : Sealing} {error : String} (fails : SealFails sha256 hmac mirror s call parsed sealing error)
      (lines : t.segmentLines = []) (written : t.written = s.written) (acknowledged : t.acknowledged = s.acknowledged)
      (calls : t.calls = s.calls + 1) : Effect mirror s call t

theorem failed_unacknowledged (place : Dict) (error : String) : returnedOk (.ok (failed place error)) = false := by
  simp [returnedOk,failed,field,Dict.get,lookup]

theorem pending_acknowledged (mirror : S3ObjectLockMirror) (pending : Nat) : returnedOk (.ok (pendingResult mirror pending)) = true := by
  simp [returnedOk,pendingResult,field,Dict.get,lookup]

theorem stored_written (s : State) (request : PutRequest) (lines : List Line) : (s.stored request lines).written = s.written ++ lines := by
  simp [State.stored,State.written]

theorem sealSegment_cases (mirror : S3ObjectLockMirror) (call : Call) (sealing : Sealing) (s : State) :
    let result := sealSegment sha256 mirror call sealing s
    result.2.segmentLines = [] ∧
      ((∃ error, putObject mirror call sealing.segmentKey (segmentPayload s.segmentLines) "application/x-ndjson" = .error error ∧
          returnedOk (.ok result.1) = false ∧ result.2.written = s.written) ∨ result.2.written = s.written ++ s.segmentLines) := by
  intro result
  cases put : putObject mirror call sealing.segmentKey (segmentPayload s.segmentLines) "application/x-ndjson" with
  | error error =>
    have made : result = (failed [field "bucket" (.str mirror.bucket)] error,s.cleared) := by
      simp only [result,sealSegment,put]
    rw [made]
    exact ⟨rfl,.inl ⟨error,rfl,failed_unacknowledged _ _,rfl⟩⟩
  | ok segment =>
    cases manifest : putObject mirror call sealing.manifestKey sealing.manifestText "application/json" with
    | error error =>
      have made : result.2 = (s.stored segment.1 s.segmentLines).cleared := by
        simp only [result,sealSegment,put,manifest]
      rw [made]
      exact ⟨rfl,.inr (stored_written s segment.1 s.segmentLines)⟩
    | ok stored =>
      have made : result.2 = ((s.stored segment.1 s.segmentLines).stored stored.1 []).cleared := by
        simp only [result,sealSegment,put,manifest]
      have both : ((s.stored segment.1 s.segmentLines).stored stored.1 []).written = s.written ++ s.segmentLines := by
        rw [stored_written,List.append_nil,stored_written]
      rw [made]
      exact ⟨rfl,.inr both⟩

theorem recorded_refused (place : Dict) (error : String) :
    Effect sha256 hmac mirror s call (s.recorded call (.ok (failed place error),s)) := by
  have same : s.recorded call (.ok (failed place error),s) = { s with calls := s.calls + 1 } := by
    rw [State.recorded,failed_unacknowledged,if_neg Bool.false_ne_true]
  rw [same]
  exact .refused

theorem recorded_acknowledged (s : State) (call : Call) (after : Except String Dict × State) :
    (s.recorded call after).acknowledged = if returnedOk after.1 then s.acknowledged ++ [⟨s.calls,call.line⟩] else s.acknowledged := rfl

theorem step_effect (mode : mirror.mirrorMode = "sealed_segments") (s : State) (call : Call) :
    Effect sha256 hmac mirror s call (step sha256 hmac mirror s call) := by
  have known : (!mirrorModes.contains mirror.mirrorMode) = false := by rw [mode]; decide
  unfold step appendLine
  by_cases bucket : mirror.bucket = ""
  · rw [if_pos bucket]
    exact recorded_refused sha256 hmac _ _
  · rw [if_neg bucket,known,if_neg Bool.false_ne_true,if_pos mode]
    unfold appendSealedSegment
    cases read : (loads call.line).map fromJson with
    | none => exact recorded_refused sha256 hmac _ _
    | some value =>
      cases value with
      | dict parsed =>
        dsimp only
        by_cases room : (s.buffered call parsed).segmentLines.length < mirror.segmentMaxEntries
        · rw [if_pos room]
          refine .pending rfl rfl ?_ rfl
          rw [recorded_acknowledged,pending_acknowledged,if_pos rfl]
        · rw [if_neg room]
          cases prepared : prepareSeal sha256 hmac mirror call (s.buffered call parsed) with
          | error error => exact .raised rfl rfl rfl rfl
          | ok sealing =>
            obtain ⟨lines,written⟩ := sealSegment_cases sha256 mirror call sealing (s.buffered call parsed)
            dsimp only at lines written ⊢
            generalize sealSegment sha256 mirror call sealing (s.buffered call parsed) = result at lines written ⊢
            have acknowledged := recorded_acknowledged s call (.ok result.1,result.2)
            rcases written with ⟨error,put,unacknowledged,written⟩ | written
            · have full : mirror.segmentMaxEntries ≤ s.segmentLines.length + 1 := by simpa [State.buffered] using room
              rw [unacknowledged,if_neg Bool.false_ne_true] at acknowledged
              exact .lost ⟨bucket,read,full,prepared,put⟩ lines written acknowledged rfl
            · cases acked : returnedOk (.ok result.1) with
              | true =>
                rw [acked,if_pos rfl] at acknowledged
                exact .segmented lines written acknowledged rfl
              | false =>
                rw [acked,if_neg Bool.false_ne_true] at acknowledged
                exact .unmanifested lines written acknowledged rfl
      | _ => exact recorded_refused sha256 hmac _ _

-- A failing seal loses whatever was in the buffer.
theorem fails_lost (mode : mirror.mirrorMode = "sealed_segments") (fails : SealFails sha256 hmac mirror s call parsed sealing error) :
    (step sha256 hmac mirror s call).segmentLines = [] ∧ (step sha256 hmac mirror s call).written = s.written ∧
      (step sha256 hmac mirror s call).acknowledged = s.acknowledged := by
  obtain ⟨bucket,read,full,prepared,put⟩ := fails
  have known : (!mirrorModes.contains mirror.mirrorMode) = false := by rw [mode]; decide
  have crowded : ¬(s.buffered call parsed).segmentLines.length < mirror.segmentMaxEntries := by simpa [State.buffered] using full
  have after : appendLine sha256 hmac mirror call s = (.ok (failed [field "bucket" (.str mirror.bucket)] error),(s.buffered call parsed).cleared) := by
    rw [appendLine,if_neg bucket,known,if_neg Bool.false_ne_true,if_pos mode,appendSealedSegment,read]
    dsimp only
    rw [if_neg crowded,prepared]
    simp only [sealSegment,put]
  refine ⟨?_,?_,?_⟩
  · rw [step,after]
    rfl
  · rw [step,after]
    rfl
  · rw [step,after,recorded_acknowledged,failed_unacknowledged,if_neg Bool.false_ne_true]

-- The acknowledged lines in the buffer of a call whose seal fails are what is lost.
def Safe (mirror : S3ObjectLockMirror) (s : State) (call : Call) : Prop :=
  ∀ parsed sealing error, SealFails sha256 hmac mirror s call parsed sealing error → ∀ line ∈ s.segmentLines, line ∉ s.acknowledged

structure Numbered (s : State) : Prop where
  pending : ∀ line ∈ s.segmentLines, line.call < s.calls
  written : ∀ line ∈ s.written, line.call < s.calls
  acknowledged : ∀ line ∈ s.acknowledged, line.call < s.calls

theorem numbered_more {lines : List Line} {n : Nat} (below : ∀ line ∈ lines, line.call < n) (text : String) :
    ∀ line ∈ lines ++ [⟨n,text⟩], line.call < n + 1 := by
  intro line listed
  rcases List.mem_append.mp listed with old | own
  · exact Nat.lt_succ_of_lt (below line old)
  · obtain rfl := List.mem_singleton.mp own
    exact Nat.lt_succ_self n

theorem numbered_step {t : State} (numbered : Numbered s) (effect : Effect sha256 hmac mirror s call t) : Numbered t := by
  obtain ⟨pending,written,acknowledged⟩ := numbered
  have later {lines : List Line} (below : ∀ line ∈ lines, line.call < s.calls) : ∀ line ∈ lines, line.call < s.calls + 1 :=
    fun line listed => Nat.lt_succ_of_lt (below line listed)
  have none_ : ∀ line ∈ ([] : List Line), line.call < s.calls + 1 := by simp
  have both : ∀ line ∈ s.written ++ (s.segmentLines ++ [⟨s.calls,call.line⟩]), line.call < s.calls + 1 := by
    intro line listed
    rcases List.mem_append.mp listed with old | flushed
    · exact later written line old
    · exact numbered_more pending call.line line flushed
  cases effect with
  | refused => exact ⟨later pending,later written,later acknowledged⟩
  | pending l w a c =>
    constructor <;> rw [c]
    · exact l ▸ numbered_more pending call.line
    · exact w ▸ later written
    · exact a ▸ numbered_more acknowledged call.line
  | raised l w a c =>
    constructor <;> rw [c]
    · exact l ▸ numbered_more pending call.line
    · exact w ▸ later written
    · exact a ▸ later acknowledged
  | segmented l w a c =>
    constructor <;> rw [c]
    · exact l ▸ none_
    · exact w ▸ both
    · exact a ▸ numbered_more acknowledged call.line
  | unmanifested l w a c =>
    constructor <;> rw [c]
    · exact l ▸ none_
    · exact w ▸ both
    · exact a ▸ later acknowledged
  | lost fails l w a c =>
    constructor <;> rw [c]
    · exact l ▸ none_
    · exact w ▸ later written
    · exact a ▸ later acknowledged

theorem kept_step (numbered : Numbered s) (kept : Kept s) (safe : Safe sha256 hmac mirror s call)
    (effect : Effect sha256 hmac mirror s call t) : Kept t := by
  obtain ⟨there,once⟩ := kept
  have unnumbered {line : Line} (acked : line ∈ s.acknowledged) : line ≠ ⟨s.calls,call.line⟩ := by
    rintro rfl
    exact lt_irrefl _ (numbered.acknowledged _ acked)
  have unwritten : (⟨s.calls,call.line⟩ : Line) ∉ s.written := fun listed => lt_irrefl _ (numbered.written _ listed)
  cases effect with
  | refused => exact ⟨there,once⟩
  | pending l w a c =>
    constructor <;> rw [l,w,a] <;> intro line listed
    · rcases List.mem_append.mp listed with old | own
      · exact (there line old).imp_left (List.mem_append_left _)
      · exact .inl (List.mem_append_right _ own)
    · rintro ⟨pending,written⟩
      rcases List.mem_append.mp listed with old | own
      · rcases List.mem_append.mp pending with before | own
        · exact once line old ⟨before,written⟩
        · exact unnumbered old (List.mem_singleton.mp own)
      · obtain rfl := List.mem_singleton.mp own
        exact unwritten written
  | raised l w a c =>
    constructor <;> rw [l,w,a] <;> intro line listed
    · exact (there line listed).imp_left (List.mem_append_left _)
    · rintro ⟨pending,written⟩
      rcases List.mem_append.mp pending with before | own
      · exact once line listed ⟨before,written⟩
      · exact unnumbered listed (List.mem_singleton.mp own)
  | segmented l w a c =>
    constructor <;> rw [l,w,a] <;> intro line listed
    · right
      rcases List.mem_append.mp listed with old | own
      · rcases there line old with pending | written
        · exact List.mem_append_right _ (List.mem_append_left _ pending)
        · exact List.mem_append_left _ written
      · exact List.mem_append_right _ (List.mem_append_right _ own)
    · simp
  | unmanifested l w a c =>
    constructor <;> rw [l,w,a] <;> intro line listed
    · right
      rcases there line listed with pending | written
      · exact List.mem_append_right _ (List.mem_append_left _ pending)
      · exact List.mem_append_left _ written
    · simp
  | lost fails l w a c =>
    constructor <;> rw [l,w,a] <;> intro line listed
    · exact .inr ((there line listed).resolve_left fun pending => safe _ _ _ fails line pending listed)
    · simp

theorem run_snoc (mirror : S3ObjectLockMirror) (s : State) (calls : List Call) (call : Call) :
    run sha256 hmac mirror s (calls ++ [call]) = step sha256 hmac mirror (run sha256 hmac mirror s calls) call := by
  rw [run,List.foldl_append]
  rfl

theorem numbered_run (mode : mirror.mirrorMode = "sealed_segments") (calls : List Call) :
    Numbered (run sha256 hmac mirror .start calls) := by
  induction calls using List.reverseRecOn with
  | nil => constructor <;> simp [run,State.start,State.written]
  | append_singleton calls call ih =>
    rw [run_snoc]
    exact numbered_step sha256 hmac ih (step_effect sha256 hmac mode _ call)

theorem acknowledged_kept_exact {mirror : S3ObjectLockMirror} (mode : mirror.mirrorMode = "sealed_segments") (calls : List Call) :
    (∀ done, done <+: calls → Kept (run sha256 hmac mirror .start done)) ↔
      ∀ done call, done ++ [call] <+: calls → Safe sha256 hmac mirror (run sha256 hmac mirror .start done) call := by
  constructor
  · intro kept done call within parsed sealing error fails line pending acked
    obtain ⟨lines,written,acknowledged⟩ := fails_lost sha256 hmac mode fails
    have before := kept done ((List.prefix_append done [call]).trans within)
    have after := kept (done ++ [call]) within
    rw [run_snoc] at after
    have there := after.there line (acknowledged ▸ acked)
    rw [lines,written] at there
    rcases there with listed | listed
    · cases listed
    · exact before.once line acked ⟨pending,listed⟩
  · intro safe done
    induction done using List.reverseRecOn with
    | nil =>
      intro _
      constructor <;> simp [run,State.start]
    | append_singleton done call ih =>
      intro within
      rw [run_snoc]
      have before := ih ((List.prefix_append done [call]).trans within)
      exact kept_step sha256 hmac (numbered_run sha256 hmac mode done) before (safe done call within) (step_effect sha256 hmac mode _ call)

def pairMirror : S3ObjectLockMirror := init "bucket" "" "sealed_segments" 2 none none none

def callWith (putObject : PutRequest → Except String Dict) : Call where
  line := "\x7b\x7d"
  uuid := "0"
  day := "2026/01/01"
  second := "2026/01/01/00/00/00"
  retainUntil := .ok ""
  putObject := putObject

theorem acknowledged_lost : ¬∀ (mirror : S3ObjectLockMirror) (calls : List Call), mirror.mirrorMode = "sealed_segments" →
    Kept (run id (fun _ text => text) mirror .start calls) := by
  intro every
  have kept := every pairMirror [callWith fun _ => .ok [],callWith fun _ => .error "ClientError: denied"] (by decide)
  have acknowledged : (run id (fun _ text => text) pairMirror .start [callWith fun _ => .ok [],callWith fun _ => .error "ClientError: denied"]).acknowledged =
      [⟨0,"\x7b\x7d"⟩] := by decide +kernel
  have pending : (run id (fun _ text => text) pairMirror .start [callWith fun _ => .ok [],callWith fun _ => .error "ClientError: denied"]).segmentLines =
      [] := by decide +kernel
  have written : (run id (fun _ text => text) pairMirror .start [callWith fun _ => .ok [],callWith fun _ => .error "ClientError: denied"]).written =
      [] := by decide +kernel
  have there := kept.there ⟨0,"\x7b\x7d"⟩ (by rw [acknowledged]; exact List.mem_singleton.mpr rfl)
  rw [pending,written] at there
  simp at there

theorem acknowledged_kept_sample : Kept (run id (fun _ text => text) pairMirror .start [callWith fun _ => .ok [],callWith fun _ => .ok []]) := by
  have mode : pairMirror.mirrorMode = "sealed_segments" := by decide
  refine (@acknowledged_kept_exact id (fun _ text => text) pairMirror mode _).mpr ?_ _ List.prefix_rfl
  intro done call within parsed sealing error fails
  have listed := within.subset (List.mem_append_right done (List.mem_singleton.mpr rfl))
  have same : call = callWith fun _ => .ok [] := by simpa using listed
  subst same
  exact absurd fails.refused (by intro refused; cases refused)

end VeritasOs.WormMirror
