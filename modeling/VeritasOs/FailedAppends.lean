import VeritasOs.LogRuns
import VeritasOs.SignedRuns
import VeritasOs.WatEvents

namespace VeritasOs.FailedAppends
open BindArtifacts hiding sha256OfCanonicalJson
open LogFiles hiding valueError
open Text JsonText TextLines BackwardLines FullLedger SignedLog WatEvents

-- trust_log.jsonl with the files of its rotation, trust_log.json, the signed TrustLog and the WAT lane.
structure Stores where
  files : Files
  items : List Dict
  ledger : List Char
  lane : List Char

structure World where
  system : System
  cipher : Cipher
  masking : TrustLog.Masking
  maxLines : Nat
  python : WatVerifier.Python

def loadWatEvents (lane : List Char) : List Dict := (readAllEntries lane).filterMap Value.asDict?

structure Held where
  trustLog : List Value
  items : List Dict
  signed : List Value
  lane : List Dict

def held (world : World) (stores : Stores) : Held :=
  ⟨iterTrustLog world.cipher stores.files,stores.items,readAllEntries stores.ledger,loadWatEvents stores.lane⟩

def ioError : Exc := ⟨.osError,"I/O error"⟩

-- An entry, the nonce it is encrypted with, and how the writes of the call end. What the signed
-- append is given besides the entry is in `signed`.
structure TrustCall where
  entry : Dict
  createdAt : String
  draw : Nat
  replaceFails : Bool
  logFault : Option WriteFault
  saveFails : Bool
  signed : Call

def maxJsonItems : Nat := 2000

def lastItems (items : List Dict) : List Dict := items.drop (items.length - maxJsonItems)

section Operations
variable (world : World)

def prepareToken (call : TrustCall) (files : Files) : Except Exc (Dict × Dict × List Char) := do
  let (entry,line) ← TrustLog.prepareEntry world.masking world.system.sha256 call.entry (getLastHashUnlocked world.cipher files) call.createdAt
  match toJson false (.dict entry) with
  | none => .error (typeError "Object is not JSON serializable")
  | some document =>
    let token ← encrypt world.cipher call.draw (dumps spaced document)
    .ok (entry,line,token)

-- The hash marker is saved before the full log is renamed, whether that works or not.
def openTrustLogForAppend (call : TrustCall) (files : Files) : Except Exc Unit × Files :=
  match rotateIfNeeded world.cipher world.maxLines files with
  | .error error => (.error error,files)
  | .ok opened =>
    if call.replaceFails ∧ world.maxLines ≤ countLines files.active then
      (.error ioError,{ files with marker := opened.marker })
    else (.ok (),opened)

def appended (fault : Option WriteFault) (text : List Char) (files : Files) : Files :=
  match fault with
  | none => { files with active := some (files.active.getD [] ++ text) }
  | some .refused => files
  | some fault => { files with active := some (files.active.getD [] ++ fault.written text) }

-- Only a SignedTrustLogWriteError of the signed append is caught.
def appendTrustLog (stores : Stores) (call : TrustCall) : Except Failure Dict × Stores :=
  match prepareToken world call stores.files with
  | .error error => (.error (.raised error),stores)
  | .ok (entry,line,token) =>
    match openTrustLogForAppend world call stores.files with
    | (.error error,files) => (.error (.raised error),{ stores with files := files })
    | (.ok _,opened) =>
      let logged := { stores with files := appended call.logFault (token ++ ['\n']) opened }
      if call.logFault.isSome ∨ call.saveFails then (.error (.raised ioError),logged)
      else
        let signed := appendSignedDecision world.system stores.ledger { call.signed with payload := entry,enableArtifactRef := true }
        let done := { logged with items := lastItems (stores.items ++ [line]),ledger := signed.2 }
        match signed.1 with
        | .error (.raised error) => (.error (.raised error),done)
        | _ => (.ok entry,done)

structure WatCall where
  event : WatEvent
  eventId : String
  correlationId : String
  ts : String
  signed : Call
  laneFault : Option WriteFault

def boundaryOf (call : WatCall) : Except Exc (String × Dict) := do
  let eventType := strip call.event.eventType
  if !supportedWatEventTypes.contains eventType then .error (valueError ("unsupported_wat_event_type: " ++ eventType))
  else
    let raw := dictOrEmpty call.event.details
    let raw := if lower (strip call.event.status) = "warning" then warned raw call.correlationId else raw
    let details ← normalizeRetentionBoundaryDetails world.python raw
    .ok (eventType,details)

def recordOf (call : WatCall) (boundary : String × Dict) (anchorRef : Value) : Dict :=
  eventRecord call.event ⟨call.eventId,call.correlationId,call.ts,anchorRef⟩ boundary.1 boundary.2

def anchoring (call : WatCall) (boundary : String × Dict) : Call :=
  { call.signed with payload := (recordOf call boundary .none).dropLast,enableArtifactRef := true }

def unanchored : Value := .dict [field "error" (.str "anchor_append_failed")]

def anchorReference : Except Failure Dict → Value
  | .ok signed =>
    .dict [field "trustlog_decision_id" (signed.get "decision_id"),field "payload_hash" (signed.get "payload_hash"),
      field "anchor_backend" (signed.get "anchor_backend"),field "anchor_status" (signed.get "anchor_status")]
  | .error _ => unanchored

def changesVersion (stores : Stores) (call : WatCall) (boundary : String × Dict) : Bool :=
  versionChanges (previousFor call.event.watId (loadWatEvents stores.lane)) boundary.2

def persistWatEvent (stores : Stores) (call : WatCall) : Except Failure Dict × Stores :=
  match boundaryOf world call with
  | .error error => (.error (.raised error),stores)
  | .ok boundary =>
    let signed := appendSignedDecision world.system stores.ledger (anchoring call boundary)
    let record := recordOf call boundary (anchorReference signed.1)
    let anchored := { stores with ledger := signed.2 }
    if changesVersion stores call boundary then
      (.error (.raised (valueError "retention_policy_version is immutable after retention_enforced_at_write=true")),anchored)
    else
      match toJson false (.dict record),call.laneFault with
      | none,_ => (.error (.raised (typeError "Object is not JSON serializable")),anchored)
      | some document,none => (.ok record,{ anchored with lane := stores.lane ++ (print spaced 0 document ++ ['\n']) })
      | some document,some fault =>
        (.error (.raised ioError),{ anchored with lane := stores.lane ++ fault.written (print spaced 0 document ++ ['\n']) })

inductive Operation where
  | appendTrustLog (call : TrustCall)
  | appendSignedDecision (call : Call)
  | persistWatEvent (call : WatCall)

def perform (stores : Stores) : Operation → Except Failure Dict × Stores
  | .appendTrustLog call => appendTrustLog world stores call
  | .appendSignedDecision call =>
    let signed := SignedLog.appendSignedDecision world.system stores.ledger call
    (signed.1,{ stores with ledger := signed.2 })
  | .persistWatEvent call => persistWatEvent world stores call

end Operations

theorem complete_written {fault : WriteFault} (whole : fault.complete = true) (text : List Char) :
    fault.written (text ++ ['\n']) = text ++ ['\n'] ∨ fault.written (text ++ ['\n']) = text := by
  cases fault with
  | refused => cases whole
  | broken missing =>
    have few : missing ≤ 1 := of_decide_eq_true whole
    interval_cases missing
    · exact .inl (by simp [WriteFault.written])
    · exact .inr (by simp [WriteFault.written])

theorem incomplete_written {fault : WriteFault} (part : fault.complete = false) {text : List Char} (some_ : text ≠ []) :
    ∃ right, text = fault.written (text ++ ['\n']) ++ right ∧ right ≠ [] := by
  cases fault with
  | refused => exact ⟨text,rfl,some_⟩
  | broken missing =>
    have many : ¬ missing ≤ 1 := of_decide_eq_false part
    have positive : 0 < text.length := List.length_pos_of_ne_nil some_
    have kept : (text ++ ['\n']).length - missing ≤ text.length := by
      rw [List.length_append,List.length_singleton]
      omega
    refine ⟨text.drop ((text ++ ['\n']).length - missing),?_,?_⟩
    · rw [WriteFault.written,List.take_append_of_le_length kept,List.take_append_drop]
    · rw [ne_eq,List.drop_eq_nil_iff,List.length_append,List.length_singleton]
      omega

theorem readAllEntries_stopped (docs : List (List (String × Json))) (members : List (String × Json)) (fault : WriteFault) :
    readAllEntries (ledgerOf docs ++ fault.written (print spaced 0 (.obj members) ++ ['\n'])) =
      (docs.map entryOf).map Value.dict ++ if fault.complete then [.dict (entryOf members)] else [] := by
  obtain ⟨body,_,shape⟩ := print_object spaced 0 members
  have some_ : print spaced 0 (.obj members) ≠ [] := by simp [shape]
  have visible := print_visible spaced_flat 0 (.obj members)
  have old : docs.map (fun members => Value.dict (entryOf members)) = (docs.map entryOf).map Value.dict := by
    rw [List.map_map]
    rfl
  cases whole : fault.complete with
  | true =>
    rcases complete_written whole (print spaced 0 (.obj members)) with all | text
    · rw [all,← ledgerOf_concat,readAllEntries_ledger]
      simp
    · rw [text,readAllEntries_torn docs visible,readLine_object (by decide) (by decide),old]
      rfl
  | false =>
    obtain ⟨right,split,more⟩ := incomplete_written whole some_
    have torn : Visible (fault.written (print spaced 0 (.obj members) ++ ['\n'])) := by
      rw [split] at visible
      exact (visible_append.mp visible).1
    rw [readAllEntries_torn docs torn,readLine_torn (by decide) split more,old]
    rfl

section Log
variable {cipher : Cipher} (sound : Sound cipher)

structure LogLine (cipher : Cipher) where
  draw : Nat
  text : String
  document : List (String × Json)
  loaded : loads text = some (.obj document)

def LogLine.chars (line : LogLine cipher) : List Char := envelope cipher line.draw line.text

def logOf (lines : List (LogLine cipher)) : List Char := file (lines.map LogLine.chars) []

def entriesOf (lines : List (LogLine cipher)) : List Value := lines.map fun line => .dict (entryOf line.document)

theorem logOf_concat (lines : List (LogLine cipher)) (new : LogLine cipher) : logOf (lines ++ [new]) = logOf lines ++ (new.chars ++ ['\n']) := by
  simp [logOf,file]

theorem line_some (line : LogLine cipher) : line.chars ≠ [] := by simp [LogLine.chars,envelope]

include sound

theorem envelope_visible (draw : Nat) (text : String) : Visible (envelope cipher draw text) := fun c listed =>
  le_trans (by decide) (visible_range (envelope_chars sound draw text c listed)).1

theorem decodeLine_envelope (line : LogLine cipher) : decodeLine cipher line.chars = some (.dict (entryOf line.document)) := by
  have plain : stripBy isSpace line.chars = line.chars :=
    stripBy_plain fun c listed => (visible_plain (envelope_chars sound line.draw line.text c listed)).2.1
  have read : decode cipher line.chars = .ok (.dict (entryOf line.document)) := by
    rw [decode,LogLine.chars,decrypt_envelope sound]
    simp only [bind,Except.bind,line.loaded]
    rfl
  rw [decodeLine,plain]
  simp only [if_neg (line_some line),read]
  rfl

theorem decodeLine_torn (whole : envelope cipher draw text = torn ++ rest) (more : rest ≠ []) : decodeLine cipher torn = none := by
  have plain : stripBy isSpace torn = torn :=
    stripBy_plain fun c listed => (LogRuns.torn_plain sound ⟨draw,text,rest,whole,more⟩ c listed).2.1
  unfold decodeLine
  rw [plain]
  dsimp only
  rcases torn_line sound whole more with rfl | ⟨_,garbled⟩ | ⟨_,refused⟩
  · rfl
  · obtain ⟨error,failed,_⟩ := garbled
    rw [failed]
    split <;> rfl
  · obtain ⟨error,failed,_⟩ := refused
    rw [failed]
    split <;> rfl

theorem byteLines_log (lines : List (LogLine cipher)) (end_ : Visible torn) :
    (byteLines (logOf lines ++ torn)).filterMap (decodeLine cipher) = entriesOf lines ++ (decodeLine cipher torn).toList := by
  have visible : ∀ chars ∈ lines.map LogLine.chars, Visible chars :=
    List.forall_mem_map.mpr fun line _ => envelope_visible sound line.draw line.text
  have whole : logOf lines ++ torn = file (lines.map LogLine.chars) torn := by simp [logOf,file]
  have old : (lines.map LogLine.chars).filterMap (decodeLine cipher) = entriesOf lines := by
    clear whole visible
    induction lines with
    | nil => rfl
    | cons line rest ih => rw [List.map_cons,List.filterMap_cons,decodeLine_envelope sound line,ih,entriesOf,entriesOf,List.map_cons]
  rw [whole,byteLines_file visible end_,List.filterMap_append,old,tail]
  split
  · rename_i nothing
    subst nothing
    rfl
  · cases found : decodeLine cipher torn with
    | none => rw [List.filterMap_cons_none found]; rfl
    | some value => rw [List.filterMap_cons_some found]; rfl

theorem iterTrustLog_stopped (lines : List (LogLine cipher)) (new : LogLine cipher) (fault : WriteFault) :
    (byteLines (logOf lines ++ fault.written (new.chars ++ ['\n']))).filterMap (decodeLine cipher) =
      entriesOf lines ++ if fault.complete then [.dict (entryOf new.document)] else [] := by
  have visible : Visible new.chars := envelope_visible sound new.draw new.text
  cases whole : fault.complete with
  | true =>
    rcases complete_written whole new.chars with all | text
    · have kept := byteLines_log sound (lines ++ [new]) visible_nil
      rw [List.append_nil,logOf_concat] at kept
      rw [all,kept,entriesOf,List.map_append]
      exact List.append_nil _
    · rw [text,byteLines_log sound lines visible,decodeLine_envelope sound new]
      rfl
  | false =>
    obtain ⟨right,split,more⟩ := incomplete_written whole (line_some new)
    have torn : Visible (fault.written (new.chars ++ ['\n'])) := by
      rw [split] at visible
      exact (visible_append.mp visible).1
    rw [byteLines_log sound lines torn,decodeLine_torn sound split more]
    rfl

end Log

def stopping (fault : Option WriteFault) : WriteFault := fault.getD (.broken 0)

-- The line does not get into the file: the write stops before its end.
def Unfinished (fault : Option WriteFault) : Prop := (stopping fault).complete = false

def Unwritten (system : System) (ledger : List Char) (call : Call) : Prop :=
  (∃ error, prepareLine system call ledger = .error error) ∨ Unfinished call.fault

variable {written : Written} {system : System} {call : Call} {ledger : List Char} {stores : Stores}

theorem writeLine_members (made : writeLine entry = .ok written) : ∃ members, written.line = print spaced 0 (.obj members) ++ ['\n'] := by
  unfold writeLine at made
  split at made
  · cases made
  · rename_i document first
    obtain ⟨members,rfl⟩ := toJson_dict_obj first
    split at made
    · cases made
    · rename_i again second
      obtain ⟨copied,rfl⟩ := toJson_dict_obj second
      obtain rfl := Except.ok.inj made
      exact ⟨copied,rfl⟩

theorem prepareLine_members (made : prepareLine system call ledger = .ok written) :
    ∃ members, written.line = print spaced 0 (.obj members) ++ ['\n'] := by
  obtain ⟨signed,_,made⟩ := bind_ok.mp made
  by_cases refused : call.fault = some .refused
  · rw [if_pos refused] at made
    cases made
  · rw [if_neg refused] at made
    obtain ⟨previous,_,made⟩ := bind_ok.mp made
    obtain ⟨entry,_,made⟩ := bind_ok.mp made
    exact writeLine_members made

theorem append_ledger (made : prepareLine system call ledger = .ok written) :
    (appendSignedDecision system ledger call).2 = ledger ++ (stopping call.fault).written written.line := by
  unfold appendSignedDecision stopping
  rw [made]
  cases call.fault with
  | none => simp [WriteFault.written]
  | some fault => rfl

theorem append_unprepared (failed : prepareLine system call ledger = .error error) :
    appendSignedDecision system ledger call = (.error (.of error),ledger) := by
  unfold appendSignedDecision
  simp only [failed]

theorem grown {α : Type} (old : List α) (item : α) (fault : WriteFault) :
    old ++ (if fault.complete then [item] else []) = old ↔ fault.complete = false := by
  cases fault.complete <;> simp

theorem signed_same_iff (system : System) (docs : List (List (String × Json))) (call : Call) :
    readAllEntries (appendSignedDecision system (ledgerOf docs) call).2 = readAllEntries (ledgerOf docs) ↔ Unwritten system (ledgerOf docs) call := by
  cases made : prepareLine system call (ledgerOf docs) with
  | error error =>
    rw [append_unprepared made]
    exact ⟨fun _ => .inl ⟨error,made⟩,fun _ => rfl⟩
  | ok written =>
    obtain ⟨members,line⟩ := prepareLine_members made
    rw [append_ledger made,line,readAllEntries_stopped,readAllEntries_ledger,grown]
    refine ⟨.inr,fun unwritten => ?_⟩
    rcases unwritten with ⟨error,failed⟩ | unfinished
    · rw [made] at failed
      cases failed
    · exact unfinished

theorem unwritten_raises (system : System) (ledger : List Char) (call : Call) (unwritten : Unwritten system ledger call) :
    ∃ failure, (appendSignedDecision system ledger call).1 = .error failure := by
  cases made : prepareLine system call ledger with
  | error error => exact ⟨_,by rw [append_unprepared made]⟩
  | ok written =>
    rcases unwritten with ⟨error,failed⟩ | unfinished
    · rw [made] at failed
      cases failed
    · unfold appendSignedDecision
      rw [made]
      cases fault : call.fault with
      | none =>
        rw [Unfinished,stopping,fault] at unfinished
        cases unfinished
      | some fault => exact ⟨_,rfl⟩

section Trust
variable {world : World} (sound : Sound world.cipher) {call : TrustCall} {stores : Stores}

variable {files : Files} {lines : List (LogLine world.cipher)}

theorem prepareToken_line (made : prepareToken world call files = .ok (entry,line,token)) :
    world.cipher.keyed = true ∧ ∃ new : LogLine world.cipher, token = new.chars ∧ line = entryOf new.document := by
  obtain ⟨⟨entry',line'⟩,prepared,made⟩ := bind_ok.mp made
  dsimp only at made
  split at made
  · cases made
  · rename_i document written
    obtain ⟨token',encrypted,made⟩ := bind_ok.mp made
    obtain ⟨rfl,rfl,rfl⟩ : entry' = entry ∧ line' = line ∧ token' = token := by simpa using made
    obtain ⟨members,rfl⟩ := toJson_dict_obj written
    have copied : line' = entryOf members := by
      unfold TrustLog.prepareEntry at prepared
      dsimp only at prepared
      split at prepared
      · cases prepared
      · split at prepared
        · cases prepared
        · rename_i copy
          obtain ⟨rfl,rfl⟩ := Prod.mk.inj (Except.ok.inj prepared)
          rw [jsonCopy,written] at copy
          exact (Option.some.inj copy).symm
    unfold encrypt at encrypted
    split at encrypted
    · rename_i keyed
      exact ⟨keyed,⟨call.draw,dumps spaced (.obj members),members,loads_dumps spaced _⟩,(Except.ok.inj encrypted).symm,copied⟩
    · cases encrypted

theorem opened_cases (made : openTrustLogForAppend world call files = (.ok (),opened)) :
    (countLines files.active < world.maxLines ∧ opened.active = files.active) ∨ (¬ countLines files.active < world.maxLines ∧ opened.active = none) := by
  unfold openTrustLogForAppend at made
  cases rotated : rotateIfNeeded world.cipher world.maxLines files with
  | error error =>
    rw [rotated] at made
    cases congrArg Prod.fst made
  | ok after =>
    rw [rotated] at made
    dsimp only at made
    split at made
    · cases congrArg Prod.fst made
    · obtain rfl : after = opened := congrArg Prod.snd made
      unfold rotateIfNeeded at rotated
      by_cases room : countLines files.active < world.maxLines
      · rw [if_pos room] at rotated
        exact .inl ⟨room,by rw [Except.ok.inj rotated]⟩
      · rw [if_neg room] at rotated
        obtain ⟨marked,_,rotated⟩ := bind_ok.mp rotated
        split at rotated
        · cases rotated
        · exact .inr ⟨room,by rw [← Except.ok.inj rotated]⟩

theorem unopened_active (made : openTrustLogForAppend world call files = (.error error,after)) : after.active = files.active := by
  unfold openTrustLogForAppend at made
  split at made
  · rw [← (Prod.mk.inj made).2]
  · split at made
    · rw [← (Prod.mk.inj made).2]
    · cases congrArg Prod.fst made

theorem appended_active (fault : Option WriteFault) (text : List Char) (files : Files) :
    (appended fault text files).active.getD [] = files.active.getD [] ++ (stopping fault).written text := by
  unfold appended stopping
  split
  · simp [WriteFault.written]
  · simp [WriteFault.written]
  · rfl

-- An append that is rejected, or that stops before the entry is in the log; a full log that was
-- renamed before has nothing to lose.
def HarmlessTrust (world : World) (stores : Stores) (call : TrustCall) : Prop :=
  (∃ error, prepareToken world call stores.files = .error error) ∨
  (∃ error, (openTrustLogForAppend world call stores.files).1 = .error error) ∨
  (Unfinished call.logFault ∧ (countLines stores.files.active < world.maxLines ∨ iterTrustLog world.cipher stores.files = []))

-- The entry has not been logged before: no two entries of a log have one hash.
def Fresh (world : World) (stores : Stores) (call : TrustCall) : Prop :=
  ∀ entry line token, prepareToken world call stores.files = .ok (entry,line,token) → .dict line ∉ iterTrustLog world.cipher stores.files

include sound

theorem iterTrustLog_lines (active : files.active.getD [] = logOf lines) : iterTrustLog world.cipher files = entriesOf lines := by
  have read := byteLines_log sound lines visible_nil
  rw [List.append_nil] at read
  rw [iterTrustLog,active,read]
  exact List.append_nil _

theorem log_same_iff (active : stores.files.active.getD [] = logOf lines) {opened : Files}
    (made : openTrustLogForAppend world call stores.files = (.ok (),opened)) {new : LogLine world.cipher}
    (fresh : .dict (entryOf new.document) ∉ iterTrustLog world.cipher stores.files) :
    iterTrustLog world.cipher (appended call.logFault (new.chars ++ ['\n']) opened) = iterTrustLog world.cipher stores.files ↔
      Unfinished call.logFault ∧ (countLines stores.files.active < world.maxLines ∨ iterTrustLog world.cipher stores.files = []) := by
  rw [iterTrustLog_lines sound active] at fresh ⊢
  rw [iterTrustLog,appended_active]
  rcases opened_cases made with ⟨room,same⟩ | ⟨full,gone⟩
  · rw [same,active,iterTrustLog_stopped sound,grown]
    exact ⟨fun unfinished => ⟨unfinished,.inl room⟩,And.left⟩
  · rw [gone]
    have empty : (none : Option (List Char)).getD [] = logOf ([] : List (LogLine world.cipher)) := rfl
    rw [empty,iterTrustLog_stopped sound]
    constructor
    · intro same
      have part : (stopping call.logFault).complete = false := by
        cases whole : (stopping call.logFault).complete with
        | false => rfl
        | true =>
          rw [whole] at same
          exact absurd (same ▸ List.mem_append_right _ List.mem_cons_self) fresh
      rw [part] at same
      exact ⟨part,.inr same.symm⟩
    · rintro ⟨unfinished,room | nothing⟩
      · exact absurd room full
      · rw [nothing,show (stopping call.logFault).complete = false from unfinished]
        rfl

omit sound in
theorem trust_same_iff (sound : world.cipher.keyed = true → Sound world.cipher) (active : stores.files.active.getD [] = logOf lines)
    (fresh : Fresh world stores call) :
    held world (appendTrustLog world stores call).2 = held world stores ↔ HarmlessTrust world stores call := by
  cases prepared : prepareToken world call stores.files with
  | error error =>
    rw [appendTrustLog,prepared]
    exact ⟨fun _ => .inl ⟨error,prepared⟩,fun _ => rfl⟩
  | ok parts =>
    obtain ⟨entry,line,token⟩ := parts
    obtain ⟨keyed,new,rfl,rfl⟩ := prepareToken_line prepared
    cases made : openTrustLogForAppend world call stores.files with
    | mk answer opened =>
      cases answer with
      | error error =>
        rw [appendTrustLog,prepared]
        dsimp only
        rw [made]
        refine ⟨fun _ => .inr (.inl ⟨error,by rw [made]⟩),fun _ => ?_⟩
        have same := unopened_active made
        unfold held iterTrustLog
        dsimp only
        rw [same]
      | ok _ =>
        have log := log_same_iff (sound keyed) active made (fresh _ _ _ prepared)
        -- The other stores change only after the log has.
        have only : HarmlessTrust world stores call ↔
            Unfinished call.logFault ∧ (countLines stores.files.active < world.maxLines ∨ iterTrustLog world.cipher stores.files = []) := by
          refine ⟨fun harmless => ?_,fun harmless => .inr (.inr harmless)⟩
          rcases harmless with ⟨error,failed⟩ | ⟨error,failed⟩ | kept
          · rw [prepared] at failed
            cases failed
          · rw [made] at failed
            cases failed
          · exact kept
        rw [only,← log]
        rw [appendTrustLog,prepared]
        dsimp only
        rw [made]
        dsimp only
        by_cases stopped : call.logFault.isSome = true ∨ call.saveFails = true
        · rw [if_pos stopped]
          exact ⟨congrArg Held.trustLog,fun same => by unfold held; dsimp only; rw [same]⟩
        · rw [if_neg stopped]
          have whole : ¬ Unfinished call.logFault := by
            intro unfinished
            cases fault : call.logFault with
            | none =>
              rw [Unfinished,stopping,fault] at unfinished
              cases unfinished
            | some fault' => exact stopped (.inl (by rw [fault]; rfl))
          refine ⟨fun same => ?_,fun same => absurd (log.mp same).1 whole⟩
          have trustLog := congrArg Held.trustLog same
          dsimp only [held] at trustLog ⊢
          split at trustLog
          · exact trustLog
          · exact trustLog

end Trust

-- An event that is refused, or one of which neither the signed TrustLog nor the lane gets a line.
def HarmlessEvent (world : World) (stores : Stores) (call : WatCall) : Prop :=
  match boundaryOf world call with
  | .error _ => True
  | .ok boundary => Unwritten world.system stores.ledger (anchoring call boundary) ∧
      (changesVersion stores call boundary = true ∨ toJson false (.dict (recordOf call boundary unanchored)) = none ∨ Unfinished call.laneFault)

theorem loadWatEvents_stopped (docs : List (List (String × Json))) (members : List (String × Json)) (fault : WriteFault) :
    loadWatEvents (ledgerOf docs ++ fault.written (print spaced 0 (.obj members) ++ ['\n'])) =
      loadWatEvents (ledgerOf docs) ++ if fault.complete then [entryOf members] else [] := by
  rw [loadWatEvents,readAllEntries_stopped,List.filterMap_append,loadWatEvents,readAllEntries_ledger]
  cases fault.complete <;> rfl

def laneAfter (stores : Stores) (call : WatCall) (boundary : String × Dict) (answer : Except Failure Dict) : List Char :=
  if changesVersion stores call boundary then stores.lane
  else
    match toJson false (.dict (recordOf call boundary (anchorReference answer))) with
    | none => stores.lane
    | some document => stores.lane ++ (stopping call.laneFault).written (print spaced 0 document ++ ['\n'])

theorem persisted_stores {world : World} {call : WatCall} {boundary : String × Dict} (found : boundaryOf world call = .ok boundary)
    {signed : Except Failure Dict × List Char}
    (anchored : appendSignedDecision world.system stores.ledger (anchoring call boundary) = signed) :
    (persistWatEvent world stores call).2 = { stores with ledger := signed.2,lane := laneAfter stores call boundary signed.1 } := by
  unfold persistWatEvent laneAfter
  rw [found]
  dsimp only
  rw [anchored]
  by_cases changes : changesVersion stores call boundary = true
  · rw [if_pos changes,if_pos changes]
  · rw [if_neg changes,if_neg changes]
    cases toJson false (.dict (recordOf call boundary (anchorReference signed.1))) with
    | none => rfl
    | some document =>
      cases call.laneFault with
      | none => simp [stopping,WriteFault.written]
      | some fault => rfl

theorem lane_same_iff (lane : stores.lane = ledgerOf docs) (call : WatCall) (boundary : String × Dict) (answer : Except Failure Dict) :
    loadWatEvents (laneAfter stores call boundary answer) = loadWatEvents stores.lane ↔
      changesVersion stores call boundary = true ∨ toJson false (.dict (recordOf call boundary (anchorReference answer))) = none ∨
        Unfinished call.laneFault := by
  unfold laneAfter
  by_cases changes : changesVersion stores call boundary = true
  · rw [if_pos changes]
    exact ⟨fun _ => .inl changes,fun _ => rfl⟩
  · rw [if_neg changes]
    cases written : toJson false (.dict (recordOf call boundary (anchorReference answer))) with
    | none => exact ⟨fun _ => .inr (.inl rfl),fun _ => rfl⟩
    | some document =>
      obtain ⟨members,rfl⟩ := toJson_dict_obj written
      dsimp only
      rw [lane,loadWatEvents_stopped,grown]
      refine ⟨fun part => .inr (.inr part),fun left => ?_⟩
      rcases left with other | nothing | part
      · exact absurd other changes
      · cases nothing
      · exact part

theorem event_same_iff {world : World} {call : WatCall} {signed lane : List (List (String × Json))}
    (ledger : stores.ledger = ledgerOf signed) (rows : stores.lane = ledgerOf lane) :
    held world (persistWatEvent world stores call).2 = held world stores ↔ HarmlessEvent world stores call := by
  unfold HarmlessEvent
  cases found : boundaryOf world call with
  | error error =>
    rw [persistWatEvent,found]
    exact ⟨fun _ => trivial,fun _ => rfl⟩
  | ok boundary =>
    have signedSame := signed_same_iff world.system signed (anchoring call boundary)
    rw [← ledger] at signedSame
    have raises := unwritten_raises world.system stores.ledger (anchoring call boundary)
    generalize anchored : appendSignedDecision world.system stores.ledger (anchoring call boundary) = outcome at signedSame raises
    have laneSame := lane_same_iff rows call boundary outcome.1
    rw [persisted_stores found anchored]
    dsimp only
    constructor
    · intro same
      have unwritten := signedSame.mp (congrArg Held.signed same)
      have left := laneSame.mp (congrArg Held.lane same)
      obtain ⟨failure,raised⟩ := raises unwritten
      rw [raised] at left
      exact ⟨unwritten,left⟩
    · rintro ⟨unwritten,left⟩
      obtain ⟨failure,raised⟩ := raises unwritten
      have events := laneSame.mpr (by rw [raised]; exact left)
      unfold held
      dsimp only
      rw [signedSame.mpr unwritten,events]

structure Whole (world : World) (stores : Stores) : Prop where
  log : ∃ lines : List (LogLine world.cipher), stores.files.active.getD [] = logOf lines
  ledger : ∃ docs, stores.ledger = ledgerOf docs
  lane : ∃ docs, stores.lane = ledgerOf docs

def Harmless (world : World) (stores : Stores) : Operation → Prop
  | .appendTrustLog call => HarmlessTrust world stores call
  | .appendSignedDecision call => Unwritten world.system stores.ledger call
  | .persistWatEvent call => HarmlessEvent world stores call

def NewEntry (world : World) (stores : Stores) : Operation → Prop
  | .appendTrustLog call => Fresh world stores call
  | _ => True

theorem perform_signed (world : World) (stores : Stores) (call : Call) :
    (perform world stores (.appendSignedDecision call)).1 = (appendSignedDecision world.system stores.ledger call).1 := by
  dsimp only [perform]

theorem held_signed (world : World) (stores : Stores) (call : Call) :
    (held world (perform world stores (.appendSignedDecision call)).2).signed = readAllEntries (appendSignedDecision world.system stores.ledger call).2 := by
  dsimp only [perform,held]

theorem hardFail_raises (made : prepareLine system call ledger = .ok written)
    (fault : call.fault = none) (hashed : WitnessLedger.sha256OfCanonicalJson system.sha256 written.persisted = .ok entryHash)
    (mirrored : mirrorToWorm system.sha256 system.hmac written.line call.mirror = .ok mirror)
    (failed : (wormHardFailEnabled system && (mirror.get "configured").truthy && !(mirror.get "ok").truthy) = true) :
    (appendSignedDecision system ledger call).1 = .error (.signedTrustLogWriteError "worm_mirror_write_failed") := by
  unfold appendSignedDecision afterwards
  simp only [made,fault,hashed,mirrored]
  rw [if_pos failed]

-- A mirror that cannot be written to, where its failures are hard.
def strictSystem : System := { SignedRuns.sampleSystem with postureHardFail := true }

def unmirroredCall : Call :=
  { SignedRuns.sampleCall "r1" with mirror := .localAppend (some "worm.jsonl") (some "OSError: No space left on device") }

def sampleWorld : World where
  system := strictSystem
  cipher := sampleCipher
  masking := ⟨id,fun _ => false,fun _ => false⟩
  maxLines := 5000
  python := WatVerifier.samplePython

def emptyStores : Stores := ⟨{},[],[],[]⟩

theorem emptyStores_whole : Whole sampleWorld emptyStores := ⟨⟨[],rfl⟩,⟨[],rfl⟩,⟨[],rfl⟩⟩

theorem unmirrored_ready : SignedRuns.Ready unmirroredCall := ⟨rfl,fun _ => ⟨_,rfl⟩,rfl⟩

theorem unmirrored_prepared : ∃ written, prepareLine strictSystem unmirroredCall [] = .ok written :=
  SignedRuns.prepareLine_returns SignedRuns.sample_built unmirrored_ready (congrArg (chainHashOf _) (readLastEntry_ledger []))

theorem unmirrored_raises : ∃ failure, (perform sampleWorld emptyStores (.appendSignedDecision unmirroredCall)).1 = .error failure := by
  obtain ⟨written,made⟩ := unmirrored_prepared
  obtain ⟨_,_,_,entry,members,line,rfl⟩ := prepareLine_line unmirrored_ready.json made
  obtain ⟨entryHash,hashed⟩ := hash_json strictSystem.sha256 line.prepared.json
  rw [perform_signed]
  exact ⟨_,hardFail_raises made unmirrored_ready.fault hashed rfl rfl⟩

theorem unmirrored_written : ¬ Unwritten strictSystem [] unmirroredCall := by
  intro unwritten
  obtain ⟨written,made⟩ := unmirrored_prepared
  rcases unwritten with ⟨error,failed⟩ | unfinished
  · rw [made] at failed
    cases failed
  · cases unfinished

end VeritasOs.FailedAppends
