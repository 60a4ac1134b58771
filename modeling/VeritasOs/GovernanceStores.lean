import Mathlib.Data.List.Chain
import VeritasOs.DateTime
import VeritasOs.Governance

namespace VeritasOs.Governance
open Text JsonText BindArtifacts PolicyBundle

-- A row's id is its place in the table.
structure PolicyRow where
  version : String
  payload : Dict
  digest : String
  updatedAt : Option Int
  updatedBy : String
  isCurrent : Bool
  revision : Nat
  expectedPreviousDigest : String

structure EventRow where
  eventType : String
  previousPolicyId : Option Nat
  newPolicyId : Nat
  previousDigest : String
  newDigest : String
  proposer : String
  changedBy : String
  changedAt : Option Int
  reason : String
  metadata : Dict

structure ApprovalRow where
  eventId : Nat
  reviewer : String
  signature : String

structure Tables where
  policies : List PolicyRow
  events : List EventRow
  approvals : List ApprovalRow

def emptyTables : Tables := ⟨[],[],[]⟩

def currentRow (tables : Tables) : Option (PolicyRow × Nat) := tables.policies.zipIdx.find? fun row => row.1.isCurrent

def normalizeApproval (normalized : List (String × String)) : Value → Except Exc (List (String × String))
  | .dict item =>
    let reviewer := strip (Dict.getD item "reviewer" (.str "")).text
    let signature := strip (Dict.getD item "signature" (.str "")).text
    if reviewer = "" then .error (valueError "approval reviewer must be non-empty")
    else if normalized.any fun seen => seen.1 = reviewer then .error (valueError "duplicate approval reviewer is not allowed")
    else if signature ≠ "" ∧ normalized.any fun seen => seen.2 = signature then
      .error (valueError "duplicate approval signature is not allowed")
    else .ok (normalized ++ [(reviewer,signature)])
  | _ => .error ⟨.attributeError,"object has no attribute 'get'"⟩

def normalizeApprovals (approvers : List String) (records : Option (List Value)) : Except Exc (List (String × String)) :=
  match records with
  | some (first :: rest) => (first :: rest).foldlM normalizeApproval []
  | _ => (approvers.map fun reviewer => .dict [text "reviewer" reviewer,text "signature" ""]).foldlM normalizeApproval []

def parseChangedAt : Value → Except Exc (Option Int)
  | .str raw => if strip raw = "" then .ok none else (DateTime.parseTimestamp (strip raw)).map some
  | _ => .ok none

def conflictError (detail : String) : Exc := ⟨.runtimeError,"governance policy write conflict: " ++ detail⟩

def digestOf (digest : Dict → Option String) (policy : Dict) : Except Exc String :=
  match digest policy with
  | some text => .ok text
  | none => .error (typeError "Object is not JSON serializable")

def expectedDigest (digest : Dict → Option String) (previous : Dict) : Except Exc String :=
  if previous.isEmpty then .ok "" else digestOf digest previous

def firstText (candidates : List String) : String := (candidates.find? (· ≠ "")).getD "unknown"

def orText (value : Value) : String := if value.truthy then value.text else ""

-- The rows of a write that meets the state it expects.
def insertRows (tables : Tables) (write : PolicyWrite) (approvals : List (String × String)) (previousDigest newDigest : String)
    (changedAt : Option Int) (row : Option (PolicyRow × Nat)) : Tables :=
  let changedBy := firstText [orText (write.updated.get "updated_by"),write.proposer]
  let revision := (row.map fun found => found.1.revision).getD 0
  let policyId := tables.policies.length
  let eventId := tables.events.length
  ⟨(if row.isSome then tables.policies.map fun old => { old with isCurrent := false } else tables.policies) ++
      [⟨(write.updated.getD "version" (.str "")).text,write.updated,newDigest,changedAt,changedBy,true,revision + 1,previousDigest⟩],
   tables.events ++ [⟨write.eventType,row.map Prod.snd,policyId,previousDigest,newDigest,write.proposer,changedBy,changedAt,write.reason,
     [(.str "previous_version",write.previous.get "version"),(.str "new_version",write.updated.get "version"),
      whole "previous_revision" revision,whole "new_revision" (revision + 1)]⟩],
   tables.approvals ++ approvals.map fun approval => ⟨eventId,approval.1,approval.2⟩⟩

def writePolicyEvent (digest : Dict → Option String) (write : PolicyWrite) (tables : Tables) : Except Exc Tables := do
  let approvals ← normalizeApprovals write.approvers write.approvalRecords
  let previousDigest ← expectedDigest digest write.previous
  let newDigest ← digestOf digest write.updated
  let changedAt ← parseChangedAt (write.updated.get "updated_at")
  match currentRow tables with
  | none =>
    if write.previous.isEmpty then .ok (insertRows tables write approvals previousDigest newDigest changedAt none)
    else .error (conflictError "caller expected an existing policy but no current row was found")
  | some (row,place) =>
    if !write.previous.isEmpty && row.digest ≠ previousDigest then
      .error (conflictError "current policy digest does not match caller-provided previous state")
    else .ok (insertRows tables write approvals previousDigest newDigest changedAt (some (row,place)))

inductive PgOp where
  | select
  | clock
  | commit (write : PolicyWrite)

@[reducible] def PgAns : PgOp → Type
  | .select => Dict
  | .clock => String
  | .commit _ => Except Exc Unit

def postgresRepository : Repository PgOp PgAns where
  getCurrentPolicy := Interaction.request PgOp.select
  clock := Interaction.request PgOp.clock
  write write := do
    let outcome ← Interaction.request (PgOp.commit write)
    Interaction.lift outcome

def Tables.current (tables : Tables) : Dict := ((currentRow tables).map fun row => row.1.payload).getD defaultPolicy

def pgHandler (digest : Dict → Option String) (now : String) : Interaction.Handler PgAns Tables
  | .select,tables => (tables.current,tables)
  | .clock,tables => (now,tables)
  | .commit write,tables =>
    match writePolicyEvent digest write tables with
    | .ok after => (.ok (),after)
    | .error error => (.error error,tables)

def pgProgram (setting : Setting) (change : Change) : Interaction.Prog PgOp PgAns Exc Dict := change.program postgresRepository setting

theorem run_postgres (setting : Setting) (change : Change) (now : String) (tables : Tables) :
    Interaction.run (pgHandler setting.digest now) (pgProgram setting change) tables = match changed setting change tables.current now with
      | .error error => (.error error,tables)
      | .ok result =>
        match writePolicyEvent setting.digest (changeWrite change tables.current result) tables with
        | .error error => (.error error,tables)
        | .ok after => (.ok result,after) := by
  have answers : Answers postgresRepository (pgHandler setting.digest now) tables tables.current now := ⟨rfl,rfl⟩
  rw [pgProgram,run_program answers]
  cases changed setting change tables.current now with
  | error error => rfl
  | ok result =>
    simp only [postgresRepository,Interaction.bind_request,Interaction.bind_ask,Interaction.run,pgHandler]
    cases writePolicyEvent setting.digest (changeWrite change tables.current result) tables with
    | error error => rfl
    | ok after => rfl

theorem writePolicyEvent_empty (expected : write.previous.isEmpty = false) :
    ∃ error, writePolicyEvent digest write emptyTables = .error error := by
  cases written : writePolicyEvent digest write emptyTables with
  | error error => exact ⟨error,rfl⟩
  | ok after =>
    obtain ⟨approvals,_,written⟩ := bind_ok.mp written
    obtain ⟨previousDigest,_,written⟩ := bind_ok.mp written
    obtain ⟨newDigest,_,written⟩ := bind_ok.mp written
    obtain ⟨changedAt,_,written⟩ := bind_ok.mp written
    have absent : currentRow emptyTables = none := rfl
    rw [absent] at written
    simp only [expected] at written
    cases written

inductive Call where
  | getPolicy
  | change (step : Change)

structure Request where
  call : Call
  now : String

section Backend
variable {Op : Type} {Ans : Op → Type} {σ : Type} (repository : Repository Op Ans) (handler : String → Interaction.Handler Ans σ)
variable (setting : Setting)

def Call.program : Call → Interaction.Prog Op Ans Exc Dict
  | .getPolicy => repository.getCurrentPolicy
  | .change step => step.program repository setting

def replies : List Request → σ → List (Except Exc Dict)
  | [],_ => []
  | request :: rest,store =>
    (Interaction.run (handler request.now) (request.call.program repository setting) store).1 ::
      replies rest (Interaction.run (handler request.now) (request.call.program repository setting) store).2

end Backend

def fileReplies (setting : Setting) (requests : List Request) : List (Except Exc Dict) :=
  replies (fileRepository setting.digest) fileHandler setting requests emptyStore

def pgReplies (setting : Setting) (requests : List Request) : List (Except Exc Dict) :=
  replies postgresRepository (pgHandler setting.digest) setting requests emptyTables

def SameReply : Except Exc Dict → Except Exc Dict → Prop
  | .ok left,.ok right => left = right
  | .error _,.error _ => True
  | _,_ => False

def BackendsAgree (setting : Setting) (requests : List Request) : Prop :=
  List.Forall₂ SameReply (fileReplies setting requests) (pgReplies setting requests)

-- The call reads, or the default policy is as far as it gets.
def StopsBeforeWrite (setting : Setting) (request : Request) : Prop :=
  match request.call with
  | .getPolicy => True
  | .change step => ∃ error, changed setting step defaultPolicy request.now = .error error

variable {setting : Setting} {change : Change} {now : String}

theorem refused_file (refused : changed setting change defaultPolicy now = .error error) :
    Interaction.run (fileHandler now) (Change.program (fileRepository setting.digest) setting change) emptyStore = (.error error,emptyStore) := by
  have ran := run_file setting change now emptyStore
  rw [show emptyStore.current = defaultPolicy from rfl,refused] at ran
  exact ran

theorem refused_postgres (refused : changed setting change defaultPolicy now = .error error) :
    Interaction.run (pgHandler setting.digest now) (Change.program postgresRepository setting change) emptyTables = (.error error,emptyTables) := by
  have ran := run_postgres setting change now emptyTables
  rw [show emptyTables.current = defaultPolicy from rfl,refused] at ran
  exact ran

theorem first_write_differs (accepted : changed setting change defaultPolicy now = .ok result) :
    ¬ BackendsAgree setting (⟨.change change,now⟩ :: rest) := by
  intro agree
  have first := (List.forall₂_cons.mp agree).1
  have file := run_file setting change now emptyStore
  have tables := run_postgres setting change now emptyTables
  rw [show emptyStore.current = defaultPolicy from rfl,accepted,fileProgram] at file
  rw [show emptyTables.current = defaultPolicy from rfl,accepted,pgProgram] at tables
  have expected : (changeWrite change defaultPolicy result).previous.isEmpty = false := by
    rw [changeWrite_previous]
    rfl
  obtain ⟨error,conflict⟩ : ∃ error, writePolicyEvent setting.digest (changeWrite change defaultPolicy result) emptyTables = .error error :=
    writePolicyEvent_empty expected
  simp only [conflict] at tables
  simp only [Call.program,file,tables] at first
  exact first

theorem backends_agree_exact (setting : Setting) (requests : List Request) :
    BackendsAgree setting requests ↔ ∀ request ∈ requests, StopsBeforeWrite setting request := by
  induction requests with
  | nil => simp [BackendsAgree,fileReplies,pgReplies,replies]
  | cons request rest ih =>
    obtain ⟨call,now⟩ := request
    rw [List.forall_mem_cons]
    cases call with
    | getPolicy =>
      have same : SameReply (.ok defaultPolicy) (.ok defaultPolicy) := rfl
      exact List.forall₂_cons.trans (and_congr (iff_of_true same trivial) ih)
    | change step =>
      cases outcome : changed setting step defaultPolicy now with
      | error error =>
        rw [BackendsAgree,fileReplies,pgReplies,replies,replies,List.forall₂_cons]
        simp only [Call.program,refused_file outcome,refused_postgres outcome]
        exact and_congr (iff_of_true trivial ⟨error,outcome⟩) ih
      | ok result =>
        refine iff_of_false (first_write_differs outcome) fun stops => ?_
        obtain ⟨error,refused⟩ := stops.1
        rw [outcome] at refused
        cases refused

theorem first_update_refused : ¬ BackendsAgree sampleSetting [⟨.change laterUpdate.change,sampleTime⟩] := by
  have accepted : changed sampleSetting laterUpdate.change defaultPolicy sampleTime = .ok laterUpdate.result := rfl
  exact first_write_differs accepted

abbrev FileProgram := Interaction.Prog FileOp FileAns Exc Dict

def changeRecord (setting : Setting) (change : Change) (previous result : Dict) : Dict :=
  buildEvent setting.digest (changeWrite change previous result)

def afterSave (setting : Setting) (change : Change) (previous result : Dict) : FileProgram :=
  .ask (.append (changeRecord setting change previous result)) fun _ => .pure result

def afterClock (setting : Setting) (change : Change) (previous : Dict) (now : String) : FileProgram :=
  match changed setting change previous now with
  | .error error => .fail error
  | .ok result => .ask (.save result) fun _ => afterSave setting change previous result

theorem persist_shape (setting : Setting) (change : Change) (previous policy : Dict) (updatedBy : String)
    (same : ∀ now, changed setting change previous now = setting.pydantic.policy (stamped policy now updatedBy)) :
    persist (fileRepository setting.digest) setting policy updatedBy (changeWrite change previous) =
      .ask .clock (afterClock setting change previous) := by
  simp only [persist,fileRepository,Interaction.bind_request]
  congr 1
  funext now
  rw [afterClock,same]
  cases setting.pydantic.policy (stamped policy now updatedBy) with
  | error error => rfl
  | ok result =>
    have written (write : PolicyWrite) :
        ((Interaction.lift (.ok result) >>= fun result => ((fileRepository setting.digest).write write >>= fun _ => pure result)) : FileProgram) =
          .ask (.save write.updated) fun _ => .ask (.append (buildEvent setting.digest write)) fun _ => .pure result := rfl
    have finish := written (changeWrite change previous result)
    rw [changeWrite_updated] at finish
    exact finish

theorem file_shape (setting : Setting) (change : Change) : (∃ error, fileProgram setting change = .fail error) ∨
      ∃ next, fileProgram setting change = .ask .load next ∧
        ∀ previous, (∃ error, next previous = .fail error) ∨ next previous = .ask .clock (afterClock setting change previous) := by
  cases change with
  | update patch =>
    cases patch with
    | dict patch =>
      rw [fileProgram,Change.program,updatePolicy]
      refine .inr ⟨_,rfl,fun previous => ?_⟩
      simp only [Interaction.Prog.bind]
      cases merged : mergedPolicy setting.pydantic patch previous with
      | error error => exact .inl ⟨error,rfl⟩
      | ok current =>
        refine .inr (persist_shape setting (.update (.dict patch)) previous current (patchedBy patch) fun now => ?_)
        rw [changed,merged]
        rfl
    | _ => exact .inl ⟨_,rfl⟩
  | rollback request =>
    rw [fileProgram,Change.program,rollbackPolicy]
    cases approved : enforceFourEyesApproval setting.fourEyes request.approvals with
    | error error => exact .inl ⟨error,rfl⟩
    | ok _ =>
      refine .inr ⟨_,rfl,fun previous => .inr ?_⟩
      refine persist_shape setting (.rollback request) previous request.target (sanitizeUpdatedBy (.str request.rolledBackBy)) fun now => ?_
      rw [changed,approved]
      rfl

inductive Stage (setting : Setting) (change : Change) : List (Interaction.Event FileAns) → FileProgram → Prop
  | start (next) : Stage setting change [] (.ask .load next)
  | refused (trace) (error) (unsaved : ∀ event ∈ trace, ∀ policy, event.1 ≠ .save policy) : Stage setting change trace (.fail error)
  | loaded (previous) : Stage setting change [⟨.load,previous⟩] (.ask .clock (afterClock setting change previous))
  | ready (previous now result) (accepted : changed setting change previous now = .ok result) :
      Stage setting change [⟨.load,previous⟩,⟨.clock,now⟩] (.ask (.save result) fun _ => afterSave setting change previous result)
  | saved (previous now result) (accepted : changed setting change previous now = .ok result) :
      Stage setting change [⟨.load,previous⟩,⟨.clock,now⟩,⟨.save result,()⟩] (afterSave setting change previous result)
  | done (previous now result) (accepted : changed setting change previous now = .ok result) :
      Stage setting change [⟨.load,previous⟩,⟨.clock,now⟩,⟨.save result,()⟩,⟨.append (changeRecord setting change previous result),()⟩] (.pure result)

theorem file_stage (path : Interaction.Leads (fileProgram setting change) trace last) : Stage setting change trace last := by
  rcases file_shape setting change with ⟨error,refused⟩ | ⟨next,shape,later⟩
  · rw [refused] at path
    obtain ⟨rfl,rfl⟩ := Interaction.leads_fail.mp path
    exact .refused [] error nofun
  · rw [shape] at path
    rcases Interaction.leads_ask.mp path with ⟨rfl,rfl⟩ | ⟨previous,_,rfl,answered⟩
    · exact .start next
    · rcases later previous with ⟨error,refused⟩ | goes
      · rw [refused] at answered
        obtain ⟨rfl,rfl⟩ := Interaction.leads_fail.mp answered
        exact .refused _ error (by simp)
      · rw [goes] at answered
        rcases Interaction.leads_ask.mp answered with ⟨rfl,rfl⟩ | ⟨now,_,rfl,timed⟩
        · exact .loaded previous
        · unfold afterClock at timed
          cases accepted : changed setting change previous now with
          | error error =>
            rw [accepted] at timed
            obtain ⟨rfl,rfl⟩ := Interaction.leads_fail.mp timed
            exact .refused _ error (by simp)
          | ok result =>
            rw [accepted] at timed
            rcases Interaction.leads_ask.mp timed with ⟨rfl,rfl⟩ | ⟨_,_,rfl,written⟩
            · exact .ready previous now result accepted
            · rcases Interaction.leads_ask.mp written with ⟨rfl,rfl⟩ | ⟨_,_,rfl,recorded⟩
              · exact .saved previous now result accepted
              · obtain ⟨rfl,rfl⟩ := Interaction.leads_pure.mp recorded
                exact .done previous now result accepted

section Concurrent
variable {ι : Type} {setting : Setting} {changes : ι → Change} {time : ι → String} {first : Store}

def sequentially (setting : Setting) (changes : ι → Change) (time : ι → String) (first : Store) (order : List ι) : Store :=
  order.foldl (fun store i => (Interaction.run (fileHandler (time i)) (fileProgram setting (changes i)) store).2) first

theorem sequentially_last (order : List ι) (i : ι) : sequentially setting changes time first (order ++ [i]) =
    (Interaction.run (fileHandler (time i)) (fileProgram setting (changes i)) (sequentially setting changes time first order)).2 := by
  rw [sequentially,List.foldl_append]
  rfl

variable {i : ι}

theorem sequentially_accepted
    (accepted : changed setting (changes i) (sequentially setting changes time first order).current (time i) = .ok result) :
    sequentially setting changes time first (order ++ [i]) =
      ⟨some result,trimmed ((sequentially setting changes time first order).history ++
        [changeRecord setting (changes i) (sequentially setting changes time first order).current result])⟩ := by
  rw [sequentially_last,run_file,accepted]
  rfl

variable [DecidableEq ι]

-- The files, with two notes of who wrote them: the calls in the order of their saves, and those
-- of them whose record is still to come. No answer depends on the notes.
structure Watched (ι : Type) where
  store : Store
  order : List ι
  waiting : List ι

def watchedHandler (time : ι → String) (i : ι) : Interaction.Handler FileAns (Watched ι)
  | .load,watched => (watched.store.current,watched)
  | .clock,watched => (time i,watched)
  | .save policy,watched => ((),⟨{ watched.store with policy := some policy },watched.order ++ [i],watched.waiting ++ [i]⟩)
  | .append event,watched =>
    ((),⟨{ watched.store with history := trimmed (watched.store.history ++ [event]) },watched.order,watched.waiting.erase i⟩)

abbrev Calls (ι : Type) := Interaction.System FileOp FileAns Exc Dict (Watched ι) ι

def concurrentCalls (setting : Setting) (changes : ι → Change) (store : Store) : Calls ι :=
  Interaction.launch (fun i => fileProgram setting (changes i)) ⟨store,[],[]⟩

-- A save finds the policy that its call has loaded, and the records are appended in the order of
-- the saves.
def InTurn (system : Calls ι) (i : ι) : FileOp → Prop
  | .save _ => ∀ previous, ⟨.load,previous⟩ ∈ (system.threads i).history → system.shared.store.current = previous
  | .append _ => system.shared.waiting.head? = some i
  | _ => True

-- The call's program, once the calls before it in the order are known.
def Follows (setting : Setting) (changes : ι → Change) (time : ι → String) (first : Store) (system : Calls ι) (before : List ι) (i : ι) : Prop :=
  ∃ result, changed setting (changes i) (sequentially setting changes time first before).current (time i) = .ok result ∧
    (system.threads i).program = if i ∈ system.shared.waiting
      then afterSave setting (changes i) (sequentially setting changes time first before).current result else .pure result

structure InOrder (setting : Setting) (changes : ι → Change) (time : ι → String) (first : Store) (system : Calls ι) : Prop where
  distinct : system.shared.order.Nodup
  recorded : ∃ done, system.shared.order = done ++ system.shared.waiting ∧
    system.shared.store.history = (sequentially setting changes time first done).history
  policy : system.shared.store.policy = (sequentially setting changes time first system.shared.order).policy
  inside : ∀ before i after, system.shared.order = before ++ i :: after → Follows setting changes time first system before i
  outside : ∀ i, i ∉ system.shared.order → ∀ event ∈ (system.threads i).history, ∀ policy, event.1 ≠ .save policy

variable {system : Calls ι}

theorem InOrder.current (valid : InOrder setting changes time first system) :
    system.shared.store.current = (sequentially setting changes time first system.shared.order).current := by
  rw [Store.current,valid.policy,Store.current]

theorem Follows.other {before : List ι} {j : ι} {event : Interaction.Event FileAns} {next : FileProgram} {shared : Watched ι}
    (follows : Follows setting changes time first system before j) (other : j ≠ i) (kept : j ∈ shared.waiting ↔ j ∈ system.shared.waiting) :
    Follows setting changes time first (system.advance i event next shared) before j := by
  obtain ⟨result,accepted,program⟩ := follows
  refine ⟨result,accepted,?_⟩
  rw [Interaction.advance_other _ _ _ _ _ other,program]
  simp only [Interaction.advance_shared,kept]

theorem InOrder.pending (valid : InOrder setting changes time first system)
    (pending : (system.threads i).program = .ask op next) (listed : i ∈ system.shared.order) : ∃ event, op = .append event := by
  obtain ⟨before,after,split⟩ := List.append_of_mem listed
  obtain ⟨result,accepted,program⟩ := valid.inside before i after split
  rw [pending] at program
  split at program
  · cases program
    exact ⟨_,rfl⟩
  · cases program

theorem inOrder_read (valid : InOrder setting changes time first system) {event : Interaction.Event FileAns} (next : FileProgram)
    (fresh : i ∉ system.shared.order) (reads : ∀ policy, event.1 ≠ .save policy) :
    InOrder setting changes time first (system.advance i event next system.shared) where
  distinct := valid.distinct
  recorded := valid.recorded
  policy := valid.policy
  inside before j after split := by
    have listed : j ∈ system.shared.order := by
      rw [show system.shared.order = _ from split]
      exact List.mem_append_right _ List.mem_cons_self
    exact (valid.inside before j after split).other (fun same => fresh (same ▸ listed)) Iff.rfl
  outside j absent := by
    by_cases same : j = i
    · subst same
      rw [Interaction.advance_self]
      intro past listed
      rcases List.mem_append.mp listed with old | new
      · exact valid.outside j absent past old
      · rw [List.mem_singleton.mp new]
        exact reads
    · rw [Interaction.advance_other _ _ _ _ _ same]
      exact valid.outside j absent

theorem inOrder_save (valid : InOrder setting changes time first system) {result : Dict} (fresh : i ∉ system.shared.order)
    (accepted : changed setting (changes i) system.shared.store.current (time i) = .ok result) :
    InOrder setting changes time first (system.advance i ⟨.save result,()⟩
      (afterSave setting (changes i) system.shared.store.current result) (watchedHandler time i (.save result) system.shared).2) := by
  rw [valid.current] at accepted
  have added := sequentially_accepted accepted
  refine ⟨?_,?_,?_,?_,?_⟩
  · exact List.nodup_append.mpr ⟨valid.distinct,List.nodup_singleton i,fun j listed k last same => fresh (List.mem_singleton.mp last ▸ same ▸ listed)⟩
  · obtain ⟨done,split,history⟩ := valid.recorded
    exact ⟨done,by simp only [watchedHandler,Interaction.advance_shared,split,List.append_assoc],history⟩
  · exact (congrArg Store.policy added).symm
  · intro before j after split
    replace split : system.shared.order ++ [i] = before ++ j :: after := split
    rcases List.eq_nil_or_concat after with rfl | ⟨after,last,rfl⟩
    · obtain ⟨rfl,same⟩ := List.append_inj' split rfl
      obtain rfl : i = j := List.singleton_inj.mp same
      refine ⟨result,accepted,?_⟩
      have here : i ∈ (watchedHandler time i (.save result) system.shared).2.waiting := List.mem_append_right _ (List.mem_singleton_self i)
      rw [Interaction.advance_self,Interaction.advance_shared,if_pos here,valid.current]
    · rw [List.concat_eq_append,← List.cons_append,← List.append_assoc] at split
      have old := (List.append_inj' split rfl).1
      have other : j ≠ i := fun same => fresh (by rw [old,← same]; exact List.mem_append_right _ List.mem_cons_self)
      exact (valid.inside before j after old).other other (by simp [watchedHandler,other])
  · intro j absent
    obtain ⟨absent,other⟩ := not_or.mp (List.mem_append.not.mp absent)
    rw [Interaction.advance_other _ _ _ _ _ fun same => other (List.mem_singleton.mpr same)]
    exact valid.outside j absent

theorem inOrder_append (valid : InOrder setting changes time first system) {event : Dict} {next : Unit → FileProgram}
    (pending : (system.threads i).program = .ask (.append event) next) (turn : system.shared.waiting.head? = some i) :
    InOrder setting changes time first (system.advance i ⟨.append event,()⟩ (next ())
      (watchedHandler time i (.append event) system.shared).2) := by
  obtain ⟨rest,waiting⟩ := List.head?_eq_some_iff.mp turn
  have first_ : i ∈ system.shared.waiting := waiting ▸ List.mem_cons_self
  obtain ⟨done,split,history⟩ := valid.recorded
  have distinct := valid.distinct
  rw [split,waiting] at distinct
  have gone : i ∉ rest := (List.nodup_cons.mp (List.nodup_append.mp distinct).2.1).1
  have left : (watchedHandler time i (.append event) system.shared).2.waiting = rest := by
    simp only [watchedHandler,waiting,List.erase_cons_head]
  -- The record and the result are those of the call in its place.
  have step (before after : List ι) (place : system.shared.order = before ++ i :: after) : ∃ result,
      changed setting (changes i) (sequentially setting changes time first before).current (time i) = .ok result ∧
        event = changeRecord setting (changes i) (sequentially setting changes time first before).current result ∧ next () = .pure result := by
    obtain ⟨result,accepted,program⟩ := valid.inside before i after place
    rw [pending,if_pos first_] at program
    cases program
    exact ⟨result,accepted,rfl,rfl⟩
  have order : (watchedHandler time i (.append event) system.shared).2.order = system.shared.order := by
    simp only [watchedHandler]
  have policy : (watchedHandler time i (.append event) system.shared).2.store.policy = system.shared.store.policy := by
    simp only [watchedHandler]
  refine ⟨?_,?_,?_,?_,?_⟩
  · rw [Interaction.advance_shared,order]
    exact valid.distinct
  · obtain ⟨result,accepted,rfl,_⟩ := step done rest (split.trans (by rw [waiting]))
    refine ⟨done ++ [i],?_,?_⟩
    · rw [Interaction.advance_shared,left,order,split,waiting,List.append_assoc]
      rfl
    · rw [sequentially_accepted accepted,← history]
      rfl
  · rw [Interaction.advance_shared,policy,order]
    exact valid.policy
  · intro before j after place
    rw [Interaction.advance_shared,order] at place
    by_cases same : j = i
    · subst same
      obtain ⟨result,accepted,_,ended⟩ := step before after place
      refine ⟨result,accepted,?_⟩
      rw [Interaction.advance_self,Interaction.advance_shared,left,if_neg gone]
      exact ended
    · refine (valid.inside before j after place).other same ?_
      rw [left,waiting,List.mem_cons]
      exact (or_iff_right same).symm
  · intro j absent
    rw [Interaction.advance_shared,order] at absent
    have other : j ≠ i := fun same => absent (by
      rw [split,same]
      exact List.mem_append_right _ first_)
    rw [Interaction.advance_other _ _ _ _ _ other]
    exact valid.outside j absent

theorem inOrder_runs (path : Interaction.Runs (watchedHandler time) InTurn (concurrentCalls setting changes first) system) :
    InOrder setting changes time first system := by
  induction path with
  | start => exact ⟨.nil,⟨[],rfl,rfl⟩,rfl,fun before i after split => absurd split (by simp [concurrentCalls,Interaction.launch]),nofun⟩
  | @step system path i op next pending turn ih =>
    have stage := file_stage (Interaction.history_leads path i)
    rw [pending] at stage
    cases op with
    | load =>
      refine inOrder_read ih _ (fun listed => ?_) nofun
      obtain ⟨event,same⟩ := ih.pending pending listed
      cases same
    | clock =>
      refine inOrder_read ih _ (fun listed => ?_) nofun
      obtain ⟨event,same⟩ := ih.pending pending listed
      cases same
    | save policy =>
      have fresh : i ∉ system.shared.order := fun listed => by
        obtain ⟨event,same⟩ := ih.pending pending listed
        cases same
      have answers := Interaction.history_answers path i
      generalize events : (system.threads i).history = trace at stage answers
      cases stage with
      | ready previous now result accepted =>
        obtain ⟨_,same⟩ := answers ⟨.clock,now⟩ (List.mem_cons_of_mem _ List.mem_cons_self)
        obtain rfl : now = time i := same
        obtain rfl : system.shared.store.current = previous := turn previous (by rw [events]; exact List.mem_cons_self)
        exact inOrder_save ih fresh accepted
    | append event => exact inOrder_append ih pending turn

-- Each call returns what it returns in some sequential order, which ends with these files.
def Sequential (setting : Setting) (changes : ι → Change) (time : ι → String) (first : Store) (system : Calls ι) : Prop :=
  ∃ order : List ι, order.Nodup ∧ (∀ i, i ∈ order) ∧ system.shared.store = sequentially setting changes time first order ∧
    ∀ before i after, order = before ++ i :: after → (system.threads i).program =
      Interaction.finished (Interaction.run (fileHandler (time i)) (fileProgram setting (changes i))
        (sequentially setting changes time first before)).1

-- Each record starts from the policy with which the one before it ended, and the last one ended with
-- the policy in force.
def Chained (store : Store) : Prop :=
  store.history.IsChain (fun earlier later => later.get "previous_policy" = earlier.get "new_policy") ∧
    ∀ last ∈ store.history.getLast?, last.get "new_policy" = .dict store.current

theorem sequential_of_inOrder (valid : InOrder setting changes time first system)
    (unpending : ∀ i, ∃ outcome, (system.threads i).program = Interaction.finished outcome) (saved : ∀ i, i ∈ system.shared.order) :
    Sequential setting changes time first system := by
  have none_ : system.shared.waiting = [] := by
    rw [List.eq_nil_iff_forall_not_mem]
    intro i waits
    obtain ⟨before,after,split⟩ := List.append_of_mem (saved i)
    obtain ⟨result,_,program⟩ := valid.inside before i after split
    obtain ⟨outcome,ended⟩ := unpending i
    rw [if_pos waits,ended] at program
    cases outcome <;> cases program
  refine ⟨system.shared.order,valid.distinct,saved,?_,?_⟩
  · obtain ⟨done,split,history⟩ := valid.recorded
    rw [none_,List.append_nil] at split
    rw [← split] at history
    have policy := valid.policy
    cases stored : system.shared.store
    cases expected : sequentially setting changes time first system.shared.order
    rw [stored,expected] at history policy
    rw [Store.mk.injEq]
    exact ⟨policy,history⟩
  · intro before i after split
    obtain ⟨result,accepted,program⟩ := valid.inside before i after split
    rw [none_,if_neg List.not_mem_nil] at program
    rw [program,run_file,accepted]
    rfl

section Chains
omit [DecidableEq ι]

theorem record_previous (setting : Setting) (change : Change) (previous result : Dict) :
    (changeRecord setting change previous result).get "previous_policy" = .dict previous := by
  have same : (changeRecord setting change previous result).get "previous_policy" = .dict (changeWrite change previous result).previous := rfl
  rw [same,changeWrite_previous]

theorem record_new (setting : Setting) (change : Change) (previous result : Dict) :
    (changeRecord setting change previous result).get "new_policy" = .dict result := by
  have same : (changeRecord setting change previous result).get "new_policy" = .dict (changeWrite change previous result).updated := rfl
  rw [same,changeWrite_updated]

theorem chained_run {store : Store} (chained : Chained store) (change : Change) (now : String) :
    Chained (Interaction.run (fileHandler now) (fileProgram setting change) store).2 := by
  rw [run_file]
  cases accepted : changed setting change store.current now with
  | error error => exact chained
  | ok result =>
    have record : buildEvent setting.digest (changeWrite change store.current result) = changeRecord setting change store.current result := rfl
    have last : (store.history ++ [changeRecord setting change store.current result]).getLast? =
        some (changeRecord setting change store.current result) := List.getLast?_concat
    have whole : (store.history ++ [changeRecord setting change store.current result]).IsChain
        fun earlier later => later.get "previous_policy" = earlier.get "new_policy" := by
      refine List.isChain_append.mpr ⟨chained.1,List.isChain_singleton _,?_⟩
      intro earlier ended later starts
      obtain rfl : changeRecord setting change store.current result = later := Option.some.inj starts
      rw [record_previous,chained.2 earlier ended]
    simp only [Chained,record,trimmed]
    refine ⟨whole.drop _,?_⟩
    intro final ended
    rw [List.getLast?_drop,last] at ended
    split at ended
    · cases ended
    · obtain rfl : changeRecord setting change store.current result = final := Option.some.inj ended
      exact record_new setting change store.current result

theorem chained_sequentially (chained : Chained first) (order : List ι) : Chained (sequentially setting changes time first order) := by
  induction order using List.reverseRecOn with
  | nil => exact chained
  | append_singleton order i ih =>
    rw [sequentially_last]
    exact chained_run ih (changes i) (time i)

end Chains

theorem calls_sequential {system : Calls ι} (path : Interaction.Runs (watchedHandler time) InTurn (concurrentCalls setting changes first) system)
    (returned : ∀ i, ∃ result, (system.threads i).program = .pure result) :
    Sequential setting changes time first system ∧ (Chained first → Chained system.shared.store) := by
  have valid := inOrder_runs path
  have saved (i : ι) : i ∈ system.shared.order := by
    by_contra absent
    have unsaved := valid.outside i absent
    have stage := file_stage (Interaction.history_leads path i)
    obtain ⟨result,ended⟩ := returned i
    rw [ended] at stage
    generalize (system.threads i).history = trace at stage unsaved
    cases stage with
    | done previous now result accepted => exact unsaved ⟨.save result,()⟩ (by simp) result rfl
  have sequential := sequential_of_inOrder valid (fun i => (returned i).imp' Except.ok fun _ ended => ended) saved
  refine ⟨sequential,fun chained => ?_⟩
  obtain ⟨order,_,_,same,_⟩ := sequential
  rw [same]
  exact chained_sequentially chained order

end Concurrent

def twoPatches : Bool → Change
  | false => .update (.dict [part "wat" [flag "enabled" true]])
  | true => .update (.dict [part "psid" [whole "display_length" 20]])

def sampleTimes : Bool → String := fun _ => sampleTime

theorem two_orders (distinct : order.Nodup) (complete : ∀ i, i ∈ order) : order = [false,true] ∨ order = [true,false] := by
  have same : order.Perm [false,true] := by
    refine (List.perm_ext_iff_of_nodup distinct (by decide)).mpr fun i => ?_
    cases i <;> simp [complete]
  obtain ⟨a,b,rfl⟩ := List.length_eq_two.mp same.length_eq
  cases a <;> cases b
  · simp at distinct
  · exact .inl rfl
  · exact .inr rfl
  · simp at distinct

theorem second_update_overwrites : ¬∀ system : Calls Bool,
    Interaction.Runs (watchedHandler sampleTimes) (fun _ _ _ => True) (concurrentCalls sampleSetting twoPatches emptyStore) system →
      (∀ i, ∃ result, (system.threads i).program = .pure result) → Sequential sampleSetting twoPatches sampleTimes emptyStore system := by
  intro claimed
  have before : Interaction.Runs (watchedHandler sampleTimes) (fun _ _ _ => True) (concurrentCalls sampleSetting twoPatches emptyStore)
      (concurrentCalls sampleSetting twoPatches emptyStore) := .start
  have loaded := (before.step false .load _ rfl trivial).step true .load _ rfl trivial
  have first := ((loaded.step false .clock _ rfl trivial).step false (.save _) _ rfl trivial).step false (.append _) _ rfl trivial
  have second := ((first.step true .clock _ rfl trivial).step true (.save _) _ rfl trivial).step true (.append _) _ rfl trivial
  obtain ⟨order,distinct,complete,same,_⟩ := claimed _ second (by intro i; cases i <;> exact ⟨_,rfl⟩)
  have enabled := congrArg (fun store : Store => (watOf store.current).get "enabled") same
  have lost : Value.bool false ≠ .bool true := by decide
  rcases two_orders distinct complete with rfl | rfl
  · exact lost enabled
  · exact lost enabled

theorem inTurn_save
    (history : (system.threads i).history = [⟨.load,previous⟩,⟨.clock,now⟩]) (current : system.shared.store.current = previous) :
    InTurn system i (.save policy) := by
  intro loaded listed
  rw [history] at listed
  rcases List.mem_cons.mp listed with here | there
  · cases here
    exact current
  · cases List.mem_singleton.mp there

theorem calls_sequential_sample : ∃ system : Calls Bool, Sequential sampleSetting twoPatches sampleTimes emptyStore system ∧
    Chained system.shared.store := by
  have before : Interaction.Runs (watchedHandler sampleTimes) InTurn (concurrentCalls sampleSetting twoPatches emptyStore)
      (concurrentCalls sampleSetting twoPatches emptyStore) := .start
  have first := (((before.step false .load _ rfl trivial).step false .clock _ rfl trivial).step false (.save _) _ rfl (inTurn_save rfl rfl)).step
    false (.append _) _ rfl rfl
  have second := (((first.step true .load _ rfl trivial).step true .clock _ rfl trivial).step true (.save _) _ rfl (inTurn_save rfl rfl)).step
    true (.append _) _ rfl rfl
  have both := calls_sequential second (by intro i; cases i <;> exact ⟨_,rfl⟩)
  exact ⟨_,both.1,both.2 ⟨.nil,nofun⟩⟩

end VeritasOs.Governance
