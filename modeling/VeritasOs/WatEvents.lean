import VeritasOs.WatVerifier

namespace VeritasOs.WatEvents
open Text BindArtifacts WatVerifier

def supportedWatEventTypes : List String :=
  ["wat_issued","wat_validated","wat_validation_failed","wat_psid_mismatch","wat_observable_missing","wat_observable_digest_mismatch",
   "wat_signature_invalid","wat_replay_suspected","wat_revocation_pending","wat_revoked_confirmed","wat_partial_validation_warning",
   "wat_partial_validation_blocked"]

def looksLikeLocator (value : String) : Bool := hasSub "://" value

def resolveObservableDigestRef (raw : Dict) : String × List String :=
  let given := strip ((raw.get "observable_digest_ref").orStr "")
  let legacy := strip ((raw.get "observable_digest").orStr "")
  let notLocator := given ≠ "" ∧ !looksLikeLocator given
  let reference := if notLocator then "" else given
  let reasons := if notLocator then ["observable_digest_ref_not_locator"] else []
  if reference = "" ∧ legacy ≠ "" then
    if looksLikeLocator legacy then (legacy,reasons ++ ["legacy_observable_digest_ref_fallback_used"])
    else (reference,reasons ++ ["observable_digest_ref_missing","observable_digest_payload_not_accepted_as_ref"])
  else (reference,reasons)

def metadataKeys : List String :=
  ["psid","ttl_seconds","mode","reason","request_id","warning_context","warning_correlation_id","validation_status","failure_type","psid_display"]

def dictOrEmpty : Value → Dict
  | .dict members => members
  | _ => []

def normalizedMetadata (raw : Dict) : Dict :=
  let copied := metadataKeys.foldl (fun kept key => if raw.has key then kept.set key (raw.get key) else kept) (dictOrEmpty (raw.get "metadata"))
  match raw.get "event_lane_details" with
  | .dict details => copied.set "event_lane_details" (.dict details)
  | _ => copied

-- max(60, int(value)), where int() does not refuse the value.
def coerceTtl (python : Python) (value : Value) (default : Int) : Except Exc Int :=
  match toInt python value with
  | .ok n => .ok (max 60 n)
  | .error error => if error.kind = .typeError ∨ error.kind = .valueError then .ok default else .error error

def normalizeRetentionBoundaryDetails (python : Python) (raw : Dict) : Except Exc Dict := do
  let (reference,reasons) := resolveObservableDigestRef raw
  let pointers := dictOrEmpty (raw.get "event_pointers")
  let pointers := if reference = "" then pointers else pointers.set "observable_digest_ref" (.str reference)
  let accessClass := lower (strip ((raw.get "observable_digest_access_class").orStr "restricted"))
  if accessClass ≠ "restricted" ∧ accessClass ≠ "privileged" then
    .error (valueError ("invalid_observable_digest_access_class: " ++ accessClass))
  else
    let metadataTtl ← coerceTtl python (raw.get "wat_metadata_retention_ttl_seconds") 7776000
    let pointerTtl ← coerceTtl python (raw.get "wat_event_pointer_retention_ttl_seconds") 7776000
    let digestTtl ← coerceTtl python (raw.get "observable_digest_retention_ttl_seconds") 31536000
    let version := strip ((raw.get "retention_policy_version").orStr "wat_retention_v1")
    let enforced := (raw.getD "retention_enforced_at_write" (.bool true)).truthy
    let failed := if enforced && version = "" then reasons ++ ["missing_retention_policy_version"] else reasons
    .ok [(.str "metadata",.dict (normalizedMetadata raw)),(.str "event_pointers",.dict pointers),
      (.str "wat_metadata_retention_ttl_seconds",.int metadataTtl),(.str "wat_event_pointer_retention_ttl_seconds",.int pointerTtl),
      (.str "observable_digest_retention_ttl_seconds",.int digestTtl),(.str "observable_digest_access_class",.str accessClass),
      (.str "observable_digest_ref",.str reference),(.str "retention_policy_version",.str version),
      (.str "retention_enforced_at_write",.bool enforced),
      (.str "retention_boundary_assertion",.dict [(.str "outcome",.str (if failed = [] then "passed" else "failed")),
        (.str "failed_reasons",strList failed)])]

-- What the surroundings give to one event: two fresh ids, the time, and the anchor's reference.
structure Stamp where
  eventId : String
  correlationId : String
  ts : String
  anchorRef : Value

structure WatEvent where
  watId : String
  eventType : String
  actor : String
  details : Value
  status : String

def warned (details : Dict) (correlationId : String) : Dict :=
  let first := if details.has "warning_context" then details else details.set "warning_context" (.str "wat_shadow_warning")
  if first.has "warning_correlation_id" then first else first.set "warning_correlation_id" (.str correlationId)

def eventRecord (event : WatEvent) (stamp : Stamp) (eventType : String) (details : Dict) : Dict :=
  [(.str "event_id",.str stamp.eventId),(.str "ts",.str stamp.ts),(.str "event_ts",.str stamp.ts),(.str "lane",.str "wat_shadow"),
   (.str "wat_id",.str (strip event.watId)),(.str "event_type",.str eventType),
   (.str "actor",.str (truncate 500 (if event.actor = "" then "system" else event.actor))),
   (.str "status",.str (truncate 50 (if event.status = "" then "ok" else event.status))),(.str "details",.dict details),
   (.str "trustlog_anchor_ref",stamp.anchorRef)]

def laneText (name : String) (item : Dict) : String := strip (item.getD name (.str "")).text

def previousFor (watId : String) (lane : List Dict) : Option Dict := lane.reverse.find? fun item => laneText "wat_id" item = strip watId

-- The version does not change under the last event of the same id that enforces it.
def versionChanges (previous : Option Dict) (details : Dict) : Bool :=
  match previous.map fun (item : Dict) => item.getD "details" (.dict []) with
  | some (.dict before) =>
    let old := strip (Dict.getD before "retention_policy_version" (.str "")).text
    let new := strip (details.getD "retention_policy_version" (.str "")).text
    (Dict.get before "retention_enforced_at_write").truthy && old ≠ "" && new ≠ "" && old ≠ new
  | _ => false

-- The lane is the file's records in order; the new one is appended.
def persistWatEvent (python : Python) (stamp : Stamp) (lane : List Dict) (event : WatEvent) : Except Exc (List Dict) := do
  let eventType := strip event.eventType
  if !supportedWatEventTypes.contains eventType then .error (valueError ("unsupported_wat_event_type: " ++ eventType))
  else
    let raw := dictOrEmpty event.details
    let raw := if lower (strip event.status) = "warning" then warned raw stamp.correlationId else raw
    let details ← normalizeRetentionBoundaryDetails python raw
    if versionChanges (previousFor event.watId lane) details then
      .error (valueError "retention_policy_version is immutable after retention_enforced_at_write=true")
    else .ok (lane ++ [eventRecord event stamp eventType details])

inductive Operation where
  | issue (watId actor : String) (details : Value)
  | validate (watId actor eventType : String) (details : Value) (status : String)
  | replay (watId actor : String) (details : Value)
  | revoke (watId actor : String) (confirmed : Bool) (details : Value)

def Operation.event : Operation → WatEvent
  | .issue watId actor details => ⟨watId,"wat_issued",actor,details,"ok"⟩
  | .validate watId actor eventType details status => ⟨watId,eventType,actor,details,status⟩
  | .replay watId actor details => ⟨watId,"wat_replay_suspected",actor,details,"warning"⟩
  | .revoke watId actor confirmed details =>
    ⟨watId,if confirmed then "wat_revoked_confirmed" else "wat_revocation_pending",actor,details,if confirmed then "ok" else "pending"⟩

def listWatEvents (lane : List Dict) (watId eventType : String) (limit : Int) : List Dict :=
  let safeLimit := (max 1 (min limit 500)).toNat
  let mine := if watId = "" then lane else lane.filter fun item => laneText "wat_id" item = strip watId
  let typed := if eventType = "" then mine else mine.filter fun item => laneText "event_type" item = strip eventType
  typed.reverse.take safeLimit

def revocationState (status : String) (event : Dict) : Dict :=
  [(.str "status",.str status),(.str "source",.str "wat_events"),(.str "event_type",.str (laneText "event_type" event)),
   (.str "event_id",event.get "event_id"),(.str "ts",event.get "ts")]

def activeState : Dict := [(.str "status",.str "active"),(.str "source",.str "wat_events")]

def latestRevocation : List Dict → Dict
  | [] => activeState
  | event :: rest =>
    if laneText "event_type" event = "wat_revoked_confirmed" then revocationState "revoked_confirmed" event
    else if laneText "event_type" event = "wat_revocation_pending" then revocationState "revoked_pending" event
    else latestRevocation rest

def deriveLatestRevocationState (lane : List Dict) (watId : String) : Dict :=
  let target := strip watId
  if target = "" then activeState else latestRevocation (listWatEvents lane target "" 500)

structure Step where
  operation : Operation
  stamp : Stamp

-- An operation that raises persists nothing.
def persistAll (python : Python) : List Dict → List Step → List Dict
  | lane,[] => lane
  | lane,step :: rest => persistAll python ((persistWatEvent python step.stamp lane step.operation.event).toOption.getD lane) rest

def Step.concerns (watId : String) (step : Step) : Bool := strip step.operation.event.watId = strip watId

def Step.eventType (step : Step) : String := strip step.operation.event.eventType

def ofId (watId : String) (item : Dict) : Bool := laneText "wat_id" item = strip watId

theorem persistWatEvent_appends {python : Python} {step : Step} {lane after : List Dict}
    (persisted : persistWatEvent python step.stamp lane step.operation.event = .ok after) :
    ∃ record, after = lane ++ [record] ∧ laneText "event_type" record = step.eventType ∧ ∀ watId, ofId watId record = step.concerns watId := by
  unfold persistWatEvent at persisted
  dsimp only at persisted
  split at persisted
  · cases persisted
  · obtain ⟨details,_,persisted⟩ := bind_ok.mp persisted
    split at persisted
    · cases persisted
    · cases persisted
      refine ⟨_,rfl,?_,fun watId => ?_⟩
      · show strip (strip step.operation.event.eventType) = _
        rw [strip_strip]
        rfl
      · show decide (strip (strip step.operation.event.watId) = strip watId) = _
        rw [strip_strip]
        rfl

theorem persistAll_appends (python : Python) (watId : String) (lane : List Dict) (steps : List Step) :
    ∃ added, persistAll python lane steps = lane ++ added ∧ (added.countP (ofId watId)) ≤ steps.countP (Step.concerns watId) ∧
      ∀ item ∈ added, ofId watId item = true → ∃ step ∈ steps, step.concerns watId = true ∧ laneText "event_type" item = step.eventType := by
  induction steps generalizing lane with
  | nil => exact ⟨[],(List.append_nil lane).symm,Nat.le_refl _,fun item listed => nomatch listed⟩
  | cons step rest ih =>
    rw [persistAll]
    cases persisted : persistWatEvent python step.stamp lane step.operation.event with
    | error error =>
      obtain ⟨added,same,few,typed⟩ := ih lane
      refine ⟨added,same,Nat.le_trans few (List.Sublist.countP_le (List.sublist_cons_self step rest)),fun item listed mine => ?_⟩
      obtain ⟨other,there,facts⟩ := typed item listed mine
      exact ⟨other,List.mem_cons_of_mem _ there,facts⟩
    | ok after =>
      obtain ⟨record,rfl,type_,owner⟩ := persistWatEvent_appends persisted
      obtain ⟨added,same,few,typed⟩ := ih (lane ++ [record])
      refine ⟨record :: added,by rw [Except.toOption,Option.getD_some,same,List.append_assoc]; rfl,?_,?_⟩
      · rw [List.countP_cons,List.countP_cons,owner]
        omega
      · intro item listed mine
        rcases List.mem_cons.mp listed with rfl | later
        · exact ⟨step,List.mem_cons_self,owner watId ▸ mine,type_⟩
        · obtain ⟨other,there,facts⟩ := typed item later mine
          exact ⟨other,List.mem_cons_of_mem _ there,facts⟩

-- No newer event is pending, so the newest revocation event is a confirmed one.
theorem latestRevocation_confirmed (confirmed : laneText "event_type" event = "wat_revoked_confirmed")
    (quiet : ∀ item ∈ newer, laneText "event_type" item ≠ "wat_revocation_pending") :
    (latestRevocation (newer ++ event :: older)).get "status" = .str "revoked_confirmed" := by
  induction newer with
  | nil =>
    rw [List.nil_append,latestRevocation,if_pos confirmed]
    rfl
  | cons item rest ih =>
    rw [List.cons_append,latestRevocation]
    split
    · rfl
    · rw [if_neg (quiet item List.mem_cons_self)]
      exact ih fun other listed => quiet other (List.mem_cons_of_mem _ listed)

theorem deriveLatestRevocationState_confirmed {watId : String} {before later : List Dict} {event : Dict} (named : strip watId ≠ "")
    (mine : ofId watId event = true) (confirmed : laneText "event_type" event = "wat_revoked_confirmed")
    (few : later.countP (ofId watId) < 500) (quiet : ∀ item ∈ later, ofId watId item = true → laneText "event_type" item ≠ "wat_revocation_pending") :
    (deriveLatestRevocationState (before ++ event :: later) watId).get "status" = .str "revoked_confirmed" := by
  have window : (max 1 (min (500 : Int) 500)).toNat = 500 := by decide
  have split : ((before ++ event :: later).filter (ofId watId)).reverse =
      (later.filter (ofId watId)).reverse ++ event :: (before.filter (ofId watId)).reverse := by
    rw [List.filter_append,List.filter_cons,if_pos mine]
    simp
  have short : (later.filter (ofId watId)).reverse.length < 500 := by
    rw [List.length_reverse,← List.countP_eq_length_filter]
    exact few
  unfold deriveLatestRevocationState
  dsimp only
  rw [if_neg named,listWatEvents,if_neg named,strip_strip,window,if_pos rfl]
  show (latestRevocation ((((before ++ event :: later).filter (ofId watId)).reverse).take 500)).get "status" = _
  -- The confirmed event is still in the window.
  obtain ⟨room,enough⟩ : ∃ room, 500 = (later.filter (ofId watId)).reverse.length + (room + 1) := ⟨499 - (later.filter (ofId watId)).reverse.length,by omega⟩
  rw [split,enough,List.take_length_add_append,List.take_succ_cons]
  refine latestRevocation_confirmed confirmed fun item listed => ?_
  obtain ⟨inside,owned⟩ := List.mem_filter.mp (List.mem_reverse.mp listed)
  exact quiet item inside owned

theorem confirmed_nonAdmissible {setting : Setting} {cache : Option (List String)} {call : Call} {state : Dict} {result : VerifierResult}
    (confirmed : state.get "status" = .str "revoked_confirmed") (given : call.revocationState = .dict state)
    (returned : (validateLocal setting cache call).1 = .ok result) : result.admissibilityState = .nonAdmissible := by
  have status : deriveRevocationStatus call.revocationState = .confirmed := by
    rw [given,deriveRevocationStatus,confirmed]
    rfl
  unfold validateLocal at returned
  split at returned
  · obtain ⟨reference,_,returned⟩ := bind_ok.mp returned
    cases returned
    rfl
  · split at returned
    · cases returned
    · rename_i verdicts
      obtain ⟨_,score,same⟩ := report_ok returned
      obtain ⟨_,prepared,verdicts⟩ := bind_ok.mp verdicts
      obtain ⟨_,judged,verdicts⟩ := bind_ok.mp verdicts
      cases verdicts
      obtain ⟨early,checked,judged⟩ := bind_ok.mp judged
      rw [earlyVerdict,if_pos status] at checked
      cases checked
      cases judged
      exact same

theorem confirmed_revocation_stays {python : Python} {watId : String} {lane confirmedLane : List Dict} (step : Step) (named : strip watId ≠ "")
    (mine : step.concerns watId = true) (confirmed : step.eventType = "wat_revoked_confirmed")
    (persisted : persistWatEvent python step.stamp lane step.operation.event = .ok confirmedLane) (later : List Step)
    (quiet : ∀ other ∈ later, other.concerns watId = true → other.eventType ≠ "wat_revocation_pending")
    (few : later.countP (Step.concerns watId) < 500) :
    (deriveLatestRevocationState (persistAll python confirmedLane later) watId).get "status" = .str "revoked_confirmed" ∧
      ∀ setting cache call result,
        call.revocationState = .dict (deriveLatestRevocationState (persistAll python confirmedLane later) watId) →
          (validateLocal setting cache call).1 = .ok result → result.admissibilityState = .nonAdmissible := by
  obtain ⟨record,rfl,type_,owner⟩ := persistWatEvent_appends persisted
  obtain ⟨added,same,fewer,typed⟩ := persistAll_appends python watId (lane ++ [record]) later
  have state : (deriveLatestRevocationState (persistAll python (lane ++ [record]) later) watId).get "status" = .str "revoked_confirmed" := by
    rw [same,List.append_assoc]
    refine deriveLatestRevocationState_confirmed named (owner watId ▸ mine) (type_.trans confirmed) (Nat.lt_of_le_of_lt fewer few) ?_
    intro item listed owned pending
    obtain ⟨other,there,concerns,kind⟩ := typed item listed owned
    exact quiet other there concerns (kind ▸ pending)
  exact ⟨state,fun setting cache call result given returned => confirmed_nonAdmissible state given returned⟩

def stampOf (eventId : String) : Stamp := ⟨eventId,"c1","2026-01-01T00:00:00Z",.dict []⟩

def revokeStep (confirmed : Bool) : Step := ⟨.revoke "wat-1" "api:admin" confirmed (.dict []),stampOf "e1"⟩

theorem pending_follows_confirmed : ¬∀ (python : Python) (watId : String) (lane confirmedLane : List Dict) (step : Step) (later : List Step),
    step.concerns watId = true → step.eventType = "wat_revoked_confirmed" →
      persistWatEvent python step.stamp lane step.operation.event = .ok confirmedLane →
        (deriveLatestRevocationState (persistAll python confirmedLane later) watId).get "status" = .str "revoked_confirmed" := by
  intro final
  have status := final samplePython "wat-1" [] _ (revokeStep true) [revokeStep false] (by decide +kernel) (by decide +kernel) rfl
  exact absurd status (by decide +kernel)

theorem confirmed_revocation_stays_sample : ∃ lane, persistWatEvent samplePython (stampOf "e1") [] (revokeStep true).operation.event = .ok lane ∧
    (deriveLatestRevocationState (persistAll samplePython lane [⟨.replay "wat-1" "api" (.dict []),stampOf "e2"⟩]) "wat-1").get "status" =
      .str "revoked_confirmed" := by
  obtain ⟨lane,persisted⟩ : ∃ lane, persistWatEvent samplePython (stampOf "e1") [] (revokeStep true).operation.event = .ok lane := ⟨_,rfl⟩
  refine ⟨lane,persisted,(confirmed_revocation_stays (revokeStep true) (by decide +kernel) (by decide +kernel) (by decide +kernel) persisted _ ?_ ?_).1⟩
  · intro other listed _
    cases List.mem_singleton.mp listed
    decide +kernel
  · exact Nat.lt_of_le_of_lt List.countP_le_length (by decide)

end VeritasOs.WatEvents
