import Mathlib.Data.List.Chain
import VeritasOs.PersistedDecisions

namespace VeritasOs.SelfHealing
open Text JsonText BindArtifacts
open WatVerifier (Python)
open PersistedDecisions (countIn)

inductive FujiAction where
  | reDebate | reCritique | requestEvidence | rewritePlan | humanReview
deriving DecidableEq

namespace FujiAction

def value : FujiAction → String
  | .reDebate => "RE-DEBATE"
  | .reCritique => "RE-CRITIQUE"
  | .requestEvidence => "REQUEST_EVIDENCE"
  | .rewritePlan => "REWRITE_PLAN"
  | .humanReview => "HUMAN_REVIEW"

def all : List FujiAction := [.reDebate,.reCritique,.requestEvidence,.rewritePlan,.humanReview]

end FujiAction

def maxHealingAttempts : Int := 3
def maxHealingSteps : Int := 6
def maxConsecutiveSameError : Int := 2

structure HealingState where
  attempt : Int
  stepsUsed : Int
  startTime : FloatValue
  lastErrorCode : Value
  sameErrorCount : Int
  lastInputSignature : Value

def newState (now : FloatValue) : HealingState := ⟨0,0,now,.none,0,.none⟩

structure HealingDecision where
  action : FujiAction
  allow : Bool
  reason : String
  stopReason : Option String

def isSafetyCode (errorCode : String) : Bool := startsWith "F-4" errorCode

def coerceAction (actionValue : Value) : Option FujiAction := FujiAction.all.find? fun action => action.value == actionValue.text

def policyMapping : List (String × FujiAction) :=
  [("F-1002",.requestEvidence),("F-1005",.reCritique),("F-2101",.reDebate),("F-2203",.reDebate)]

def decideHealingAction (errorCode feedbackAction : Value) : HealingDecision :=
  let code := if errorCode.truthy then errorCode.text else ""
  if isSafetyCode code ∨ code ∈ ["F-4001","F-4003"] then
    ⟨.humanReview,false,"safety_or_security_code_requires_human_review",some "safety_code_blocked"⟩
  else if code = "F-3008" then ⟨.humanReview,false,"ethical_boundary_requires_human_review",some "ethical_boundary"⟩
  else if code = "F-3001" then ⟨.humanReview,false,"value_core_mismatch_requires_human_review",some "value_core_mismatch"⟩
  else
    match ((policyMapping.find? fun entry => entry.1 == code).map Prod.snd).or (coerceAction feedbackAction) with
    | none => ⟨.humanReview,false,"unknown_code_requires_human_review",some "unknown_code"⟩
    | some action =>
      if action = .humanReview then ⟨action,false,"feedback_requires_human_review",some "feedback_human_review"⟩
      else ⟨action,true,"policy_map:" ++ code ++ "->" ++ action.value,none⟩

def nextSameError (state : HealingState) (errorCode : String) : Int :=
  if errorCode ≠ "" ∧ pyEq (.str errorCode) state.lastErrorCode then state.sameErrorCount + 1 else 1

-- Whether the clock has passed max_seconds is the clock's answer to the time of the start.
def checkGuardrails (expired : FloatValue → Bool) (state : HealingState) (errorCode inputSignature : String) : Option String :=
  if maxHealingAttempts < state.attempt + 1 then some "max_attempts_exceeded"
  else if maxHealingSteps ≤ state.stepsUsed then some "budget_steps_exceeded"
  else if expired state.startTime then some "budget_time_exceeded"
  else if maxConsecutiveSameError ≤ nextSameError state errorCode then some "same_error_consecutive_limit"
  else if state.lastInputSignature.truthy ∧ pyEq (.str inputSignature) state.lastInputSignature then some "no_meaningful_change"
  else none

def advanceState (state : HealingState) (errorCode inputSignature : String) : HealingState where
  attempt := state.attempt + 1
  stepsUsed := state.stepsUsed + 1
  startTime := state.startTime
  lastErrorCode := .str errorCode
  sameErrorCount := nextSameError state errorCode
  lastInputSignature := .str inputSignature

def isRequestIdChar (c : Char) : Bool := c.isAlphanum || c ∈ ['_','.',':','-']

def validRequestId (requestId : String) : Bool :=
  let chars := (strip requestId).toList
  chars.all isRequestIdChar && decide (1 ≤ chars.length ∧ chars.length ≤ 128)

def statePayload (state : HealingState) : Dict :=
  [field "attempt" (.int state.attempt),field "steps_used" (.int state.stepsUsed),field "start_time" (.float state.startTime),
   field "last_error_code" state.lastErrorCode,field "same_error_count" (.int state.sameErrorCount),
   field "last_input_signature" state.lastInputSignature]

def persistedText (state : HealingState) : Option String :=
  (toJson true (.dict (statePayload state))).map fun json => dumps (indented 2) json ++ "\n"

def loadHealingState (python : Python) (now : FloatValue) (file : Option String) : Except Exc HealingState :=
  match file with
  | none => .ok (newState now)
  | some text =>
    match (loads text).map fromJson with
    | some (.dict payload) => do
      let attempt ← countIn python payload "attempt"
      let stepsUsed ← countIn python payload "steps_used"
      let startTime ← python.float ((lookup (.str "start_time") payload).getD (.float now))
      let sameErrorCount ← countIn python payload "same_error_count"
      .ok ⟨attempt,stepsUsed,startTime,Dict.get payload "last_error_code",sameErrorCount,Dict.get payload "last_input_signature"⟩
    | _ => .ok (newState now)

def isHealingEnabled (context : Dict) (flag : Option String) : Bool :=
  decide (lookup (.str "self_healing_enabled") context ≠ some (.bool false)) &&
    !(["0","false","no","off"].contains (lower (strip (flag.getD "1"))))

def attributeOf (mapping : Value) (name : String) : Except Exc Value :=
  if mapping.truthy then
    match mapping with
    | .dict members => .ok (Dict.get members name)
    | _ => .error ⟨.attributeError,"object has no attribute 'get'"⟩
  else .ok .none

def extractRejection (payload : Dict) : Option Dict :=
  match payload.get "fuji" with
  | .dict fuji =>
    match Dict.get fuji "rejection" with
    | .dict rejection => if pyEq (Dict.get rejection "status") (.str "REJECTED") then some rejection else none
    | _ => none
  | _ => none

def errorCodeOf (rejection : Dict) : Except Exc Value := do
  let code ← attributeOf (rejection.get "error") "code"
  return if code.truthy then code else .str "unknown"

def dictOrEmpty (value : Value) : Value :=
  match value with
  | .dict _ => value
  | _ => .dict []

def summarizeLastOutput (payload : Dict) (plan : Value) : Dict :=
  [field "chosen" (dictOrEmpty (payload.get "chosen")),field "plan" (dictOrEmpty plan),
   field "planner" (dictOrEmpty (payload.get "planner"))]

def rejectionInput (rejection : Dict) : Dict :=
  [field "status" (rejection.get "status"),field "gate" (rejection.get "gate"),field "error" (rejection.get "error"),
   field "feedback" (rejection.get "feedback"),field "trust_log_id" (rejection.get "trust_log_id")]

def buildHealingInput (originalTask : String) (lastOutput rejection : Dict) (attempt : Int) (policyDecision : String) : Dict :=
  [field "original_task" (.str originalTask),field "last_output" (.dict lastOutput),field "rejection" (.dict (rejectionInput rejection)),
   field "attempt" (.int attempt),field "policy_decision" (.str policyDecision)]

def healingInputSignature (healingInput : Dict) : Option String :=
  (toJson true (.dict (healingInput.filter fun member => !decide (member.1 = .str "attempt")))).map (dumps spaced)

def diffSummary (previous : Option Dict) (next : Dict) : String :=
  match previous with
  | none => "initial_healing_input"
  | some before =>
    let changed := ["original_task","last_output","rejection","policy_decision"].filter fun key => !pyEq (before.get key) (next.get key)
    if changed = [] then "no_meaningful_change" else "changed_fields:" ++ ",".intercalate changed

-- The core returns, raises an Exception that the stage catches, or ends the call: it is cancelled, or
-- the process dies.
inductive Answer where
  | returned (value : Value)
  | raised
  | ended

inductive Appended where
  | done
  | skipped
  | ended

inductive Event where
  | retried (rejection : Dict)
  | cleared

structure HealingAttempt where
  attempt : Int
  action : FujiAction
  errorCode : Value
  stopReason : Option String
  diffSummary : String

-- What one call meets, by the pass of its loop: the clock, the core (0 is the first call of it, which
-- is missing where no kernel was injected), TrustLog and the disk.
structure Call where
  context : Dict
  query : String
  plan : Value
  raw : Dict
  healingFlag : Option String
  kernelMissing : Bool
  now : FloatValue
  core : Nat → Answer
  expired : Nat → FloatValue → Bool
  appends : Nat → Appended
  persists : Nat → Bool
  persistsAgain : Bool
  clears : Bool

structure Progress where
  raw : Dict
  state : HealingState
  previousInput : Option Dict
  attempts : List HealingAttempt
  stopReason : Option String
  file : Option String
  events : List Event

-- A pass breaks the loop, ends the call, or goes on to the next one.
inductive Passed where
  | broke (progress : Progress)
  | ended (progress : Progress)
  | again (progress : Progress)

def Progress.clear (progress : Progress) (call : Call) : Progress :=
  if call.clears then { progress with file := none,events := progress.events ++ [.cleared] } else progress

-- The retry that a persisted state allows. A retry is issued once its attempt is on disk.
def retry (call : Call) (pass : Nat) (rejection : Dict) (progress : Progress) (text : String) : Passed :=
  let issued := { progress with file := some text,events := progress.events ++ [.retried rejection] }
  match call.core (pass+1) with
  | .returned (.dict raw) => .again { issued with raw }
  | .returned _ => .again { issued with raw := [] }
  | .raised =>
    if call.persistsAgain then .broke { issued with stopReason := some "retry_execution_failed" }
    else .ended { issued with stopReason := some "retry_execution_failed" }
  | .ended => .ended issued

def healingPass (call : Call) (pass : Nat) (progress : Progress) : Passed :=
  match extractRejection progress.raw with
  | none => .broke progress
  | some rejection =>
    match errorCodeOf rejection,attributeOf (rejection.get "feedback") "action" with
    | .ok errorCode,.ok feedbackAction =>
      let decision := decideHealingAction errorCode feedbackAction
      let attemptNo := progress.state.attempt + 1
      let healingInput :=
        buildHealingInput call.query (summarizeLastOutput progress.raw call.plan) rejection attemptNo decision.reason
      match healingInputSignature healingInput with
      | none => .ended progress
      | some inputSignature =>
        let diffText := diffSummary progress.previousInput healingInput
        let stopReason :=
          if decision.allow then checkGuardrails (call.expired pass) progress.state errorCode.text inputSignature
          else some (decision.stopReason.getD "policy_blocked")
        match call.appends pass with
        | .ended => .ended progress
        | _ =>
          let noted := { progress with
            attempts := progress.attempts ++ [HealingAttempt.mk attemptNo decision.action errorCode stopReason diffText]
            previousInput := some healingInput }
          match stopReason with
          | some reason => .broke (Progress.clear { noted with stopReason := some reason } call)
          | none =>
            let advanced := { noted with state := advanceState progress.state errorCode.text inputSignature }
            match persistedText advanced.state with
            | none => .ended advanced
            | some text => if call.persists pass then retry call pass rejection advanced text else .ended advanced
    | _,_ => .ended progress

def healingLoop (call : Call) : Nat → Nat → Progress → Progress × Bool
  | _,0,progress => ({ progress with stopReason := some "max_iterations_exceeded" },true)
  | pass,left+1,progress =>
    match healingPass call pass progress with
    | .broke reached => (reached,true)
    | .ended reached => (reached,false)
    | .again reached => healingLoop call (pass+1) left reached

def maxHealingIterations : Nat := 20

structure Trail where
  file : Option String
  events : List Event

def healOutput (call : Call) (raw : Dict) (state : HealingState) (trail : Trail) : Trail :=
  if raw ≠ [] ∧ isHealingEnabled call.context call.healingFlag = true then
    let (reached,returned) := healingLoop call 0 maxHealingIterations ⟨raw,state,none,[],none,trail.file,trail.events⟩
    let left := if returned = true ∧ reached.attempts ≠ [] ∧ reached.stopReason = none then reached.clear call else reached
    ⟨left.file,left.events⟩
  else trail

def stageCoreExecute (python : Python) (requestId : String) (call : Call) (trail : Trail) : Trail :=
  if validRequestId requestId then
    match loadHealingState python call.now trail.file with
    | .error _ => trail
    | .ok state =>
      if call.kernelMissing then healOutput call call.raw state trail
      else
        match call.core 0 with
        | .returned (.dict raw) => healOutput call raw state trail
        | .returned _ => healOutput call [] state trail
        | .raised => healOutput call [] state trail
        | .ended => trail
  else trail

-- The calls for one request, with restarts between them: what they share is the file.
def run (python : Python) (requestId : String) : List Call → Trail → Trail
  | [],trail => trail
  | call :: rest,trail => run python requestId rest (stageCoreExecute python requestId call trail)

def sinceNext (retries : List Dict) : Event → List Dict
  | .cleared => []
  | .retried rejection => retries ++ [rejection]

def since (events : List Event) : List Dict := events.foldl sinceNext []

theorem since_clear (events : List Event) : since (events ++ [.cleared]) = [] := by simp [since,sinceNext]

theorem since_retry (events : List Event) (rejection : Dict) : since (events ++ [.retried rejection]) = since events ++ [rejection] := by
  simp [since,sinceNext]

def codeText (rejection : Dict) : Option String := (errorCodeOf rejection).toOption.map Value.text

def isSafetyRejection (code : String) : Bool := isSafetyCode code || code == "F-3001" || code == "F-3008"

inductive Paced : List Event → Prop where
  | start : Paced []
  | clear : Paced events → Paced (events ++ [.cleared])
  | retry : Paced events → ((since events).length : Int) < maxHealingAttempts → codeText rejection = some code →
      isSafetyRejection code = false → (∀ last ∈ (since events).getLast?, codeText last ≠ some code) →
      Paced (events ++ [.retried rejection])

-- The state counts every retry since the last clear, and names the error code of the last.
structure Tracks (state : HealingState) (retries : List Dict) : Prop where
  counted : (retries.length : Int) ≤ state.attempt
  bounded : state.attempt ≤ maxHealingAttempts
  same : 0 ≤ state.sameErrorCount
  named : ∀ last ∈ retries.getLast?, ∃ code, codeText last = some code ∧ state.lastErrorCode = .str code ∧ 1 ≤ state.sameErrorCount

def Held (file : Option String) (retries : List Dict) : Prop :=
  match file with
  | none => retries = []
  | some text => ∃ state, persistedText state = some text ∧ Tracks state retries

structure Sound (file : Option String) (events : List Event) : Prop where
  held : Held file (since events)
  paced : Paced events

theorem statePayload_record (state : HealingState) : Record (statePayload state) := by
  refine ⟨fun member listed => ?_,?_⟩
  · simp only [statePayload,List.mem_cons,List.not_mem_nil,or_false] at listed
    rcases listed with rfl | rfl | rfl | rfl | rfl | rfl
    · exact ⟨_,rfl⟩
    · exact ⟨_,rfl⟩
    · exact ⟨_,rfl⟩
    · exact ⟨_,rfl⟩
    · exact ⟨_,rfl⟩
    · exact ⟨_,rfl⟩
  · exact (show [Key.str "attempt",.str "steps_used",.str "start_time",.str "last_error_code",.str "same_error_count",
      .str "last_input_signature"].Nodup by decide)

theorem countIn_int {python : Python} {payload : Dict} {name : String} {n : Int} (found : lookup (.str name) payload = some (.int n)) :
    countIn python payload name = .ok n := by
  have value : Dict.getD payload name (.int 0) = .int n := by rw [Dict.getD,found]; rfl
  unfold countIn
  rw [value]
  dsimp only
  by_cases zero : n = 0
  · rw [zero]
    rfl
  · rw [if_pos (by simpa [Value.truthy] using zero)]
    rfl

variable {python : Python} {now : FloatValue} {state loaded : HealingState} {retries : List Dict} {file : Option String}

theorem persisted_load {text : String} (written : persistedText state = some text) (read : loadHealingState python now (some text) = .ok loaded) :
    loaded.attempt = state.attempt ∧ loaded.sameErrorCount = state.sameErrorCount ∧
      ∀ code, state.lastErrorCode = .str code → loaded.lastErrorCode = .str code := by
  obtain ⟨json,made,rfl⟩ := Option.map_eq_some_iff.mp written
  obtain ⟨members,rfl⟩ := toJson_dict_obj made
  have field (name : String) (value : Value) (held : lookup (.str name) (statePayload state) = some value)
      (plain : ∀ part, toJson true value = some part → fromJson part = value) :
      lookup (.str name) (Dict.update [] (fromMembers members)) = some value := by
    obtain ⟨part,spelled,found⟩ := reread_field (statePayload_record state) made held
    rw [found,plain part spelled]
  have int (n : Int) : ∀ part, toJson true (.int n) = some part → fromJson part = .int n := fun part spelled => by cases spelled; rfl
  have attempt := @countIn_int python _ _ _ (field "attempt" (.int state.attempt) rfl (int _))
  have same := @countIn_int python _ _ _ (field "same_error_count" (.int state.sameErrorCount) rfl (int _))
  have file : (loads (dumps (indented 2) (.obj members) ++ "\n")).map fromJson = some (.dict (Dict.update [] (fromMembers members))) := by
    rw [loads_dumps_line]
    rfl
  unfold loadHealingState at read
  dsimp only at read
  rw [file] at read
  dsimp only at read
  rw [attempt,same] at read
  obtain ⟨_,first,read⟩ := bind_ok.mp read
  obtain rfl := Except.ok.inj first
  obtain ⟨_,_,read⟩ := bind_ok.mp read
  obtain ⟨_,_,read⟩ := bind_ok.mp read
  obtain ⟨_,third,read⟩ := bind_ok.mp read
  obtain rfl := Except.ok.inj third
  obtain rfl := Except.ok.inj read
  refine ⟨rfl,rfl,fun code named => ?_⟩
  have kept := field "last_error_code" (.str code) (by rw [← named]; rfl) (fun part spelled => by cases spelled; rfl)
  exact congrArg (Option.getD · Value.none) kept

theorem load_tracks (held : Held file retries) (read : loadHealingState python now file = .ok loaded) : Tracks loaded retries := by
  cases file with
  | none =>
    obtain rfl := Except.ok.inj read
    obtain rfl : retries = [] := held
    exact ⟨Int.le_refl 0,(show (0 : Int) ≤ 3 by decide),Int.le_refl 0,fun last listed => by cases listed⟩
  | some text =>
    obtain ⟨state,written,tracks⟩ := held
    obtain ⟨attempt,same,named⟩ := persisted_load written read
    refine ⟨attempt ▸ tracks.counted,attempt ▸ tracks.bounded,same ▸ tracks.same,fun last listed => ?_⟩
    obtain ⟨code,shown,error,once⟩ := tracks.named last listed
    exact ⟨code,shown,named code error,same ▸ once⟩

theorem text_filled {value : Value} (plain : ∀ text truth, value ≠ .object text truth) (truthy : value.truthy = true) : value.text ≠ "" := by
  have filled {text : String} (chars : text.toList ≠ []) : text ≠ "" := fun empty => chars (by rw [empty]; rfl)
  apply filled
  cases value with
  | none => cases truthy
  | bool b =>
    obtain rfl : b = true := truthy
    decide
  | int n => simpa [Value.text,Value.repr,intStr] using atomText_ne_nil (.int n)
  | float x =>
    cases x with
    | finite literal => exact atomText_ne_nil (.float (.finite literal))
    | nan => decide
    | infinity negative =>
      cases negative
      · decide
      · decide
  | str s => simpa [Value.truthy,Value.text] using truthy
  | list items => simp [Value.text,Value.repr]
  | tuple items =>
    cases items with
    | nil => cases truthy
    | cons item rest => cases rest <;> simp [Value.text,Value.repr]
  | dict members => simp [Value.text,Value.repr]
  | object text truth => exact absurd rfl (plain text truth)

theorem errorCode_truthy (read : errorCodeOf rejection = .ok errorCode) : errorCode.truthy = true := by
  unfold errorCodeOf at read
  obtain ⟨code,-,done⟩ := bind_ok.mp read
  obtain rfl := Except.ok.inj done
  split
  · assumption
  · rfl

theorem errorCode_plain (recordable : Recordable (rejection.get "error"))
    (read : errorCodeOf rejection = .ok errorCode) : ∀ text truth, errorCode ≠ .object text truth := by
  rintro text truth rfl
  unfold errorCodeOf at read
  obtain ⟨code,found,done⟩ := bind_ok.mp read
  have same : (if code.truthy then code else .str "unknown") = Value.object text truth := Except.ok.inj done
  have object : code = .object text truth := by
    split at same
    · exact same
    · cases same
  subst object
  unfold attributeOf at found
  split at found
  · split at found
    · rename_i members held
      rw [held] at recordable
      have value : Dict.get members "code" = .object text truth := Except.ok.inj found
      unfold Dict.get at value
      cases listed : lookup (.str "code") members with
      | none =>
        rw [listed] at value
        cases value
      | some entry =>
        rw [listed] at value
        obtain rfl : entry = .object text truth := value
        have part := recordable_member recordable (lookup_mem listed)
        cases part
    · cases found
  · cases found

theorem signature_error
    (signed : healingInputSignature (buildHealingInput task lastOutput rejection attempt policyDecision) = some signature) :
    Recordable (rejection.get "error") := by
  obtain ⟨json,made,-⟩ := Option.map_eq_some_iff.mp signed
  have whole : Recordable (.dict ((buildHealingInput task lastOutput rejection attempt policyDecision).filter
    fun member => !decide (member.1 = .str "attempt"))) := by
    rw [Recordable,made]
    rfl
  have listed : field "rejection" (.dict (rejectionInput rejection)) ∈
      (buildHealingInput task lastOutput rejection attempt policyDecision).filter fun member => !decide (member.1 = .str "attempt") :=
    List.mem_filter.mpr ⟨List.mem_cons_of_mem _ (List.mem_cons_of_mem _ List.mem_cons_self),
      (show (!decide (Key.str "rejection" = Key.str "attempt")) = true by decide)⟩
  have error : field "error" (rejection.get "error") ∈ rejectionInput rejection :=
    List.mem_cons_of_mem _ (List.mem_cons_of_mem _ List.mem_cons_self)
  exact recordable_member (recordable_member whole listed) error

theorem allowed_code (allowed : (decideHealingAction errorCode feedbackAction).allow = true)
    (truthy : errorCode.truthy = true) : isSafetyRejection errorCode.text = false := by
  unfold decideHealingAction at allowed
  rw [if_pos truthy] at allowed
  dsimp only at allowed
  split at allowed
  · cases allowed
  rename_i safe
  split at allowed
  · cases allowed
  rename_i ethical
  split at allowed
  · cases allowed
  rename_i value
  have unmarked : isSafetyCode errorCode.text = false := Bool.eq_false_of_not_eq_true fun marked => safe (.inl marked)
  simp [isSafetyRejection,unmarked,ethical,value]

theorem guard_passed (passed : checkGuardrails expired state code signature = none) :
    state.attempt < maxHealingAttempts ∧ nextSameError state code < maxConsecutiveSameError := by
  unfold checkGuardrails at passed
  split at passed
  · cases passed
  rename_i attempts
  split at passed
  · cases passed
  split at passed
  · cases passed
  split at passed
  · cases passed
  rename_i same
  exact ⟨by omega,Int.not_le.mp same⟩

theorem same_error (filled : code ≠ "") (named : state.lastErrorCode = .str code) (once : 1 ≤ state.sameErrorCount) :
    maxConsecutiveSameError ≤ nextSameError state code := by
  have equal : pyEq (.str code) state.lastErrorCode = true := by rw [named,pyEq_str]
  rw [nextSameError,if_pos ⟨filled,equal⟩,maxConsecutiveSameError]
  omega

theorem nextSameError_positive (counted : 0 ≤ state.sameErrorCount) : 1 ≤ nextSameError state code := by
  unfold nextSameError
  split
  · omega
  · decide

-- What a retry needs: the guardrails passed, and the state moved on.
theorem advance_tracks (tracks : Tracks state retries)
    (shown : codeText rejection = some code) (passed : checkGuardrails expired state code signature = none) :
    Tracks (advanceState state code signature) (retries ++ [rejection]) := by
  have below := (guard_passed passed).1
  have positive : 1 ≤ nextSameError state code := nextSameError_positive tracks.same
  refine ⟨?_,?_,?_,fun last listed => ?_⟩
  · have counted := tracks.counted
    rw [List.length_append,advanceState]
    push_cast
    simp only [List.length_singleton]
    omega
  · exact below
  · exact (show 0 ≤ nextSameError state code by omega)
  · rw [List.getLast?_concat] at listed
    obtain rfl := Option.some.inj listed
    exact ⟨code,shown,rfl,positive⟩

theorem retry_paced
    (paced : Paced events) (tracks : Tracks state (since events)) (shown : codeText rejection = some code) (filled : code ≠ "")
    (safe : isSafetyRejection code = false) (passed : checkGuardrails expired state code signature = none) :
    Paced (events ++ [.retried rejection]) := by
  obtain ⟨below,fresh⟩ := guard_passed passed
  have counted := tracks.counted
  refine .retry paced (by omega) shown safe fun last listed same => ?_
  obtain ⟨named,lastCode,error,once⟩ := tracks.named last listed
  obtain rfl : named = code := Option.some.inj (lastCode.symm.trans same)
  exact absurd (same_error filled error once) (Int.not_le.mpr fresh)

-- The invariant inside a call: the state in memory tracks the retries too.
structure Healing (progress : Progress) : Prop where
  sound : Sound progress.file progress.events
  tracks : Tracks progress.state (since progress.events)

theorem clear_sound {progress : Progress} {call : Call} (sound : Sound progress.file progress.events) :
    Sound (progress.clear call).file (progress.clear call).events := by
  unfold Progress.clear
  split
  · exact ⟨since_clear progress.events,.clear sound.paced⟩
  · exact sound

-- What holds after a pass: of the run where the call goes no further, of the state too where it does.
def PassedSound : Passed → Prop
  | .broke progress | .ended progress => Sound progress.file progress.events
  | .again progress => Healing progress

theorem retry_sound {pass : Nat}
    (written : persistedText progress.state = some text) (tracks : Tracks progress.state (since progress.events ++ [rejection]))
    (paced : Paced (progress.events ++ [.retried rejection])) : PassedSound (retry call pass rejection progress text) := by
  have sound : Sound (some text) (progress.events ++ [.retried rejection]) := by
    refine ⟨?_,paced⟩
    rw [since_retry]
    exact ⟨progress.state,written,tracks⟩
  have tracked : Tracks progress.state (since (progress.events ++ [.retried rejection])) := since_retry _ _ ▸ tracks
  unfold retry
  dsimp only
  split
  · exact ⟨sound,tracked⟩
  · exact ⟨sound,tracked⟩
  · split
    · exact sound
    · exact sound
  · exact sound

theorem pass_sound {call : Call} {pass : Nat} {progress : Progress} (healing : Healing progress) : PassedSound (healingPass call pass progress) := by
  have unchanged := healing.sound
  unfold healingPass
  split
  · exact unchanged
  rename_i rejection found
  split
  · rename_i errorCode feedbackAction coded read
    dsimp only
    split
    · exact unchanged
    rename_i inputSignature signed
    split
    · exact unchanged
    · split
      · exact clear_sound unchanged
      · rename_i stop
        split
        · exact unchanged
        rename_i text written
        split
        · have truthy := errorCode_truthy coded
          have filled := text_filled (errorCode_plain (signature_error signed) coded) truthy
          have shown : codeText rejection = some errorCode.text := by rw [codeText,coded]; rfl
          split at stop
          · rename_i allowed
            have safe := allowed_code allowed truthy
            exact retry_sound written (advance_tracks healing.tracks shown stop)
              (retry_paced unchanged.paced healing.tracks shown filled safe stop)
          · cases stop
        · exact unchanged
  · exact unchanged

theorem loop_sound {call : Call} (left : Nat) : ∀ {pass : Nat} {progress : Progress}, Healing progress →
    Sound (healingLoop call pass left progress).1.file (healingLoop call pass left progress).1.events := by
  induction left with
  | zero => exact fun healing => healing.sound
  | succ left ih =>
    intro pass progress healing
    have step := @pass_sound call pass progress healing
    unfold healingLoop
    generalize healingPass call pass progress = passed at step
    cases passed with
    | broke reached => exact step
    | ended reached => exact step
    | again reached => exact ih step

theorem output_sound (sound : Sound trail.file trail.events)
    (tracks : Tracks state (since trail.events)) : Sound (healOutput call raw state trail).file (healOutput call raw state trail).events := by
  unfold healOutput
  split
  · have looped := @loop_sound call maxHealingIterations 0 ⟨raw,state,none,[],none,trail.file,trail.events⟩ ⟨sound,tracks⟩
    generalize healingLoop call 0 maxHealingIterations ⟨raw,state,none,[],none,trail.file,trail.events⟩ = outcome at looped
    obtain ⟨reached,returned⟩ := outcome
    dsimp only
    split
    · exact clear_sound looped
    · exact looped
  · exact sound

theorem stage_sound (sound : Sound trail.file trail.events) :
    Sound (stageCoreExecute python requestId call trail).file (stageCoreExecute python requestId call trail).events := by
  unfold stageCoreExecute
  split
  · split
    · exact sound
    rename_i state read
    have tracks := load_tracks sound.held read
    split
    · exact output_sound sound tracks
    · split
      · exact output_sound sound tracks
      · exact output_sound sound tracks
      · exact output_sound sound tracks
      · exact sound
  · exact sound

theorem run_sound (calls : List Call) : ∀ {trail : Trail}, Sound trail.file trail.events →
    Sound (run python requestId calls trail).file (run python requestId calls trail).events := by
  induction calls with
  | nil => exact id
  | cons call rest ih => exact fun sound => ih (stage_sound sound)

def retried : Event → Option Dict
  | .cleared => none
  | .retried rejection => some rejection

def answered (events : List Event) : List Dict := events.filterMap retried

def Apart (a b : Dict) : Prop := codeText a ≠ codeText b

theorem since_append (events segment : List Event) (uncleared : Event.cleared ∉ segment) :
    since (events ++ segment) = since events ++ answered segment := by
  induction segment using List.reverseRecOn with
  | nil => simp [answered]
  | append_singleton early event ih =>
    have kept := ih fun listed => uncleared (List.mem_append_left _ listed)
    cases event with
    | cleared => exact absurd (List.mem_append_right _ (List.mem_singleton_self _)) uncleared
    | retried rejection =>
      rw [← List.append_assoc,since_retry,kept,List.append_assoc]
      simp [answered,retried]

theorem paced_since (paced : Paced events) : ((since events).length : Int) ≤ maxHealingAttempts ∧ (since events).IsChain Apart ∧
      ∀ rejection ∈ answered events, ∃ code, codeText rejection = some code ∧ isSafetyRejection code = false := by
  induction paced with
  | start => exact ⟨by decide,.nil,fun _ listed => by cases listed⟩
  | clear before ih =>
    rw [since_clear]
    refine ⟨by decide,.nil,fun rejection listed => ih.2.2 rejection ?_⟩
    simpa [answered,retried] using listed
  | retry before below shown safe apart ih =>
    rename_i events rejection code
    obtain ⟨_,chain,each⟩ := ih
    rw [since_retry]
    refine ⟨?_,?_,fun other listed => ?_⟩
    · rw [List.length_append]
      push_cast
      simp only [List.length_singleton]
      omega
    · refine List.isChain_append.mpr ⟨chain,.singleton _,fun last listed next first => ?_⟩
      obtain rfl := Option.some.inj first
      exact fun same => apart last listed (same.trans shown)
    · simp only [answered,List.filterMap_append,List.mem_append] at listed
      rcases listed with early | new
      · exact each other early
      · obtain rfl : other = rejection := by simpa [retried] using new
        exact ⟨code,shown,safe⟩

theorem paced_early (paced : Paced (events ++ late)) : Paced events := by
  induction late using List.reverseRecOn with
  | nil => simpa using paced
  | append_singleton early event ih =>
    refine ih ?_
    rw [← List.append_assoc] at paced
    generalize held : events ++ early ++ [event] = whole at paced
    cases paced with
    | start => simp at held
    | clear before => exact (List.append_inj_left' held rfl) ▸ before
    | retry before => exact (List.append_inj_left' held rfl) ▸ before

theorem healing_bounded (python : Python) (requestId : String) (calls : List Call) :
    (∀ early stretch late, (run python requestId calls ⟨none,[]⟩).events = early ++ stretch ++ late → Event.cleared ∉ stretch →
      ((answered stretch).length : Int) ≤ maxHealingAttempts ∧ (answered stretch).IsChain Apart) ∧
    ∀ rejection ∈ answered (run python requestId calls ⟨none,[]⟩).events, ∃ code, codeText rejection = some code ∧
      startsWith "F-4" code = false ∧ code ≠ "F-3001" ∧ code ≠ "F-3008" := by
  have sound := @run_sound python requestId calls ⟨none,[]⟩ ⟨rfl,.start⟩
  constructor
  · intro early stretch late parts uncleared
    have paced := sound.paced
    rw [parts] at paced
    obtain ⟨counted,chain,-⟩ := paced_since (paced_early paced)
    rw [since_append early stretch uncleared] at counted chain
    rw [List.length_append] at counted
    push_cast at counted
    exact ⟨by omega,chain.right_of_append⟩
  · intro rejection listed
    obtain ⟨code,shown,safe⟩ := (paced_since sound.paced).2.2 rejection listed
    simp only [isSafetyRejection,isSafetyCode,Bool.or_eq_false_iff,beq_eq_false_iff_ne] at safe
    exact ⟨code,shown,safe.1.1,safe.1.2,safe.2⟩

def rejectedFor (code : String) : Dict :=
  [field "fuji" (.dict [field "rejection" (.dict
    [field "status" (.str "REJECTED"),field "error" (.dict [field "code" (.str code)])])])]

def sampleCall (outputs : List Dict) : Call where
  context := []
  query := "transfer"
  plan := .dict []
  raw := []
  healingFlag := none
  kernelMissing := false
  now := .finite ⟨"1.0",float_one⟩
  core pass := (outputs[pass]?).elim .raised fun output => .returned (.dict output)
  expired _ _ := false
  appends _ := .done
  persists _ := true
  persistsAgain := true
  clears := true

def sampleRun : Trail := run WatVerifier.samplePython "request-1" [sampleCall [rejectedFor "F-1002",[field "ok" (.bool true)]]] ⟨none,[]⟩

theorem healing_bounded_sample : ∃ rejection, sampleRun.events = [.retried rejection,.cleared] ∧
    ((answered [.retried rejection]).length : Int) ≤ maxHealingAttempts := by
  have told : sampleRun.events =
      [.retried [field "status" (.str "REJECTED"),field "error" (.dict [field "code" (.str "F-1002")])],.cleared] := by rfl
  have bounded := (healing_bounded WatVerifier.samplePython "request-1" [sampleCall [rejectedFor "F-1002",[field "ok" (.bool true)]]]).1
  refine ⟨_,told,(bounded [] [_] [.cleared] told ?_).1⟩
  simp

end VeritasOs.SelfHealing
