import VeritasOs.DateTime
import VeritasOs.Schedule
import VeritasOs.WatEvents

namespace VeritasOs.WatRetention
open Text DateTime BindArtifacts WatVerifier WatEvents

def written (lane after : List Dict) : Except Exc (List Dict) :=
  match after.getLast?.bind fun record => (jsonCopy (.dict record)).bind Value.asDict? with
  | some row => .ok (lane ++ [row])
  | none => .error (typeError "Object is not JSON serializable")

structure Persist where
  event : WatEvent
  stamp : Stamp

def persistRow (python : Python) (lane : List Dict) (call : Persist) : Except Exc (List Dict) := do
  let after ← persistWatEvent python call.stamp lane call.event
  written lane after

def rowDetails (row : Dict) : Dict := dictOrEmpty (row.getD "details" (.dict []))
def rowVersion (row : Dict) : String := strip ((rowDetails row).getD "retention_policy_version" (.str "")).text
def rowEnforced (row : Dict) : Bool := ((rowDetails row).get "retention_enforced_at_write").truthy

def eventVersion (event : WatEvent) : String := strip (((dictOrEmpty event.details).get "retention_policy_version").orStr "wat_retention_v1")
def eventEnforced (event : WatEvent) : Bool := ((dictOrEmpty event.details).getD "retention_enforced_at_write" (.bool true)).truthy

theorem has_set_other (other : wanted ≠ name) : lookup (.str wanted) (dict.set name value) = lookup (.str wanted) dict := by
  unfold Dict.set
  rw [lookup_store,if_neg (by simpa using other.symm)]

theorem warned_lookup (details : Dict) (correlationId : String) (context : name ≠ "warning_context")
    (correlation : name ≠ "warning_correlation_id") : lookup (.str name) (warned details correlationId) = lookup (.str name) details := by
  have first : lookup (.str name) (if details.has "warning_context" then details else details.set "warning_context" (.str "wat_shadow_warning")) =
      lookup (.str name) details := by
    split
    · rfl
    · exact has_set_other context
  unfold warned
  dsimp only
  generalize (if details.has "warning_context" then details else details.set "warning_context" (.str "wat_shadow_warning")) = given at first
  split
  · exact first
  · rw [has_set_other correlation,first]

theorem normalized_fields (normalized : normalizeRetentionBoundaryDetails python raw = .ok details) :
    Record details ∧ details.get "retention_policy_version" = .str (strip ((raw.get "retention_policy_version").orStr "wat_retention_v1")) ∧
      details.get "retention_enforced_at_write" = .bool (raw.getD "retention_enforced_at_write" (.bool true)).truthy := by
  unfold normalizeRetentionBoundaryDetails at normalized
  dsimp only at normalized
  split at normalized
  · cases normalized
  · obtain ⟨metadata,_,normalized⟩ := bind_ok.mp normalized
    obtain ⟨pointer,_,normalized⟩ := bind_ok.mp normalized
    obtain ⟨digest,_,normalized⟩ := bind_ok.mp normalized
    obtain rfl := Except.ok.inj normalized
    refine ⟨⟨?_,?_⟩,rfl,rfl⟩
    · intro member listed
      simp only [List.mem_cons,List.not_mem_nil,or_false] at listed
      rcases listed with rfl | rfl | rfl | rfl | rfl | rfl | rfl | rfl | rfl | rfl <;> exact ⟨_,rfl⟩
    · simp

theorem record_fields (event : WatEvent) (stamp : Stamp) (eventType : String) (details : Dict) : Record (eventRecord event stamp eventType details) := by
  refine ⟨?_,by simp [eventRecord]⟩
  intro member listed
  simp only [eventRecord,List.mem_cons,List.not_mem_nil,or_false] at listed
  rcases listed with rfl | rfl | rfl | rfl | rfl | rfl | rfl | rfl | rfl | rfl <;> exact ⟨_,rfl⟩

theorem lookup_getD {dict : Dict} {name : String} {value default : Value} (found : lookup (.str name) dict = some value) : dict.getD name default = value := by
  rw [Dict.getD,found,Option.getD_some]

theorem get_lookup (found : lookup (.str name) dict = some value) : dict.get name = value := by
  rw [Dict.get,found,Option.getD_some]

theorem lookup_of_get (found : dict.get name = value) (given : value ≠ .none) : lookup (.str name) dict = some value := by
  unfold Dict.get at found
  cases there : lookup (.str name) dict with
  | none => rw [there] at found; exact absurd found.symm given
  | some other => rw [there] at found; rw [show other = value from found]

theorem strip_text (s : String) : strip (Value.str s).text = strip s := rfl

structure RowOf (event : WatEvent) (row : Dict) : Prop where
  id : ∀ watId, ofId watId row = decide (strip event.watId = strip watId)
  kind : laneText "event_type" row = strip event.eventType
  version : rowVersion row = eventVersion event
  enforced : rowEnforced row = eventEnforced event

theorem copied_row
    (version : details.get "retention_policy_version" = .str (eventVersion event)) (stripped : strip (eventVersion event) = eventVersion event)
    (enforced : details.get "retention_enforced_at_write" = .bool (eventEnforced event)) (record : Record details)
    (copied : jsonCopy (.dict (eventRecord event stamp (strip event.eventType) details)) = some (.dict row)) : RowOf event row := by
  obtain ⟨fields,same,values⟩ := jsonCopy_record (record_fields event stamp (strip event.eventType) details) copied
  obtain rfl := Value.dict.inj same
  have id_ : lookup (.str "wat_id") row = some (.str (strip event.watId)) := by
    obtain ⟨part,copy,found⟩ := values (.str "wat_id") (.str (strip event.watId)) rfl
    rw [found,← copy,jsonCopy_str]
  have kind : lookup (.str "event_type") row = some (.str (strip event.eventType)) := by
    obtain ⟨part,copy,found⟩ := values (.str "event_type") (.str (strip event.eventType)) rfl
    rw [found,← copy,jsonCopy_str]
  obtain ⟨part,copy,found⟩ := values (.str "details") (.dict details) rfl
  obtain ⟨inner,shape,members⟩ := jsonCopy_record record copy
  subst shape
  have inside : rowDetails row = inner := by
    unfold rowDetails
    rw [lookup_getD found]
    rfl
  refine ⟨fun watId => ?_,?_,?_,?_⟩
  · unfold ofId laneText
    rw [lookup_getD id_,strip_text,strip_strip]
  · unfold laneText
    rw [lookup_getD kind,strip_text,strip_strip]
  · obtain ⟨text,copy,there⟩ := members _ _ (lookup_of_get version (by simp))
    obtain rfl := Option.some.inj copy
    unfold rowVersion
    rw [inside,lookup_getD there]
    exact stripped
  · obtain ⟨flag,copy,there⟩ := members _ _ (lookup_of_get enforced (by simp))
    obtain rfl := Option.some.inj copy
    unfold rowEnforced
    rw [inside,get_lookup there]
    rfl

theorem rows_unchanged (kept : versionChanges (some last) details = false) (enforced : rowEnforced last = true)
    (named : rowVersion last ≠ "") (shown : strip (details.getD "retention_policy_version" (.str "")).text = version)
    (given : version ≠ "") : rowVersion last = version := by
  unfold rowEnforced rowVersion rowDetails at *
  unfold versionChanges at kept
  dsimp only [Option.map_some] at kept
  cases shape : last.getD "details" (.dict []) with
  | dict before =>
    rw [shape] at kept enforced named
    simp only [dictOrEmpty] at enforced named ⊢
    rw [shown] at kept
    simpa [enforced,named,given] using kept
  | _ => rw [shape] at enforced; cases enforced

theorem persistRow_exact (persisted : persistRow python lane call = .ok after) : ∃ row, after = lane ++ [row] ∧ RowOf call.event row ∧
      ∀ last, previousFor call.event.watId lane = some last → rowEnforced last = true → rowVersion last ≠ "" → eventVersion call.event ≠ "" →
        rowVersion last = eventVersion call.event := by
  obtain ⟨appended,made,copied⟩ := bind_ok.mp persisted
  unfold persistWatEvent at made
  dsimp only at made
  split at made
  · cases made
  · obtain ⟨details,normalized,made⟩ := bind_ok.mp made
    split at made
    · cases made
    next unchanged =>
      obtain rfl := Except.ok.inj made
      obtain ⟨record,version,enforced⟩ := normalized_fields normalized
      have same : ∀ name, name ≠ "warning_context" → name ≠ "warning_correlation_id" →
          lookup (.str name) (if lower (strip call.event.status) = "warning" then warned (dictOrEmpty call.event.details) call.stamp.correlationId
            else dictOrEmpty call.event.details) = lookup (.str name) (dictOrEmpty call.event.details) := by
        intro name context correlation
        split
        · exact warned_lookup _ _ context correlation
        · rfl
      have version_same := congrArg (fun found : Option Value => found.getD .none) (same "retention_policy_version" (by decide) (by decide))
      have enforced_same := congrArg (fun found : Option Value => found.getD (.bool true)) (same "retention_enforced_at_write" (by decide) (by decide))
      change Dict.get _ _ = Dict.get _ _ at version_same
      change Dict.getD _ _ _ = Dict.getD _ _ _ at enforced_same
      rw [version_same] at version
      rw [enforced_same] at enforced
      change details.get "retention_policy_version" = .str (eventVersion call.event) at version
      change details.get "retention_enforced_at_write" = .bool (eventEnforced call.event) at enforced
      have stripped : strip (eventVersion call.event) = eventVersion call.event := strip_strip _
      unfold written at copied
      rw [List.getLast?_concat,Option.bind_some] at copied
      split at copied
      next row found =>
        obtain rfl := Except.ok.inj copied
        obtain ⟨copy,made,shape⟩ := Option.bind_eq_some_iff.mp found
        cases copy with
        | dict members =>
          obtain rfl := Option.some.inj shape
          refine ⟨members,rfl,copied_row version stripped enforced record made,?_⟩
          intro last previous enforces named given
          rw [previous] at unchanged
          refine rows_unchanged (Bool.eq_false_of_not_eq_true unchanged) enforces named ?_ given
          rw [lookup_getD (lookup_of_get version (by simp)),strip_text,stripped]
        | _ => cases shape
      next => cases copied

def persist (python : Python) (lane : List Dict) (call : Persist) : Option (List Dict) := (persistRow python lane call).toOption

def Agrees (watId : String) (earlier later : Dict) : Prop :=
  ofId watId earlier = true → rowEnforced earlier = true → ofId watId later = true → rowVersion later = rowVersion earlier

-- Behind an enforcing event of the id every event of it has the same version.
def Immutable (watId : String) (lane : List Dict) : Prop := lane.Pairwise (Agrees watId)

-- The event has the version of the last event of its id, or it names a version and that event
-- enforces one.
def Fixed (watId : String) (lane : List Dict) (call : Persist) : Prop :=
  strip call.event.watId = strip watId → (∃ row ∈ lane, ofId watId row = true ∧ rowEnforced row = true) →
    ∀ last, previousFor watId lane = some last → eventVersion call.event = rowVersion last ∨
      rowEnforced last = true ∧ rowVersion last ≠ "" ∧ eventVersion call.event ≠ ""

theorem previous_split (found : previousFor watId lane = some last) :
    ofId watId last = true ∧ ∃ before later, lane = before ++ last :: later ∧ ∀ item ∈ later, ofId watId item = false := by
  obtain ⟨mine,newer,older,split,others⟩ := List.find?_eq_some_iff_append.mp found
  refine ⟨mine,older.reverse,newer.reverse,?_,?_⟩
  · rw [← List.reverse_reverse lane,split]
    simp
  · intro item listed
    simpa [ofId] using others item (List.mem_reverse.mp listed)

theorem previous_exists (present : row ∈ lane) (mine : ofId watId row = true) : ∃ last, previousFor watId lane = some last := by
  cases found : previousFor watId lane with
  | some last => exact ⟨last,rfl⟩
  | none => exact absurd mine (by simpa [ofId] using List.find?_eq_none.mp found row (List.mem_reverse.mpr present))

theorem previous_version (immutable : Immutable watId lane)
    (found : previousFor watId lane = some last) (present : row ∈ lane) (mine : ofId watId row = true) (enforced : rowEnforced row = true) :
    rowVersion last = rowVersion row := by
  obtain ⟨own,before,later,rfl,others⟩ := previous_split found
  rcases List.mem_append.mp present with earlier | rest
  · exact (List.pairwise_append.mp immutable).2.2 row earlier last List.mem_cons_self mine enforced own
  · rcases List.mem_cons.mp rest with rfl | after
    · rfl
    · rw [others row after] at mine
      cases mine

theorem immutable_step (immutable : Immutable watId lane)
    (persisted : persist python lane call = some after) : Immutable watId after ↔ Fixed watId lane call := by
  obtain ⟨row,rfl,made,checked⟩ := persistRow_exact (toOption_some persisted)
  have own : ofId watId row = true ↔ strip call.event.watId = strip watId := by rw [made.id,decide_eq_true_iff]
  have shown : Immutable watId (lane ++ [row]) ↔ ∀ earlier ∈ lane, Agrees watId earlier row := by
    unfold Immutable
    rw [List.pairwise_append]
    simp [show lane.Pairwise (Agrees watId) from immutable]
  rw [shown]
  constructor
  · rintro agrees mine ⟨enforcing,present,ofSame,enforced⟩ last found
    refine Or.inl ?_
    rw [previous_version immutable found present ofSame enforced,← made.version]
    exact agrees enforcing present ofSame enforced (own.mpr mine)
  · intro fixed earlier present ofSame enforced mine
    have same := own.mp mine
    obtain ⟨last,found⟩ := previous_exists present ofSame
    rw [made.version,← previous_version immutable found present ofSame enforced]
    rcases fixed same ⟨earlier,present,ofSame,enforced⟩ last found with equal | ⟨enforces,named,given⟩
    · exact equal
    · have search : previousFor call.event.watId lane = some last := by
        unfold previousFor at found ⊢
        rw [same]
        exact found
      exact (checked last search enforces named given).symm

theorem persist_extends (ran : Schedule.run (persist python) lane calls = some last) : lane <+: last := by
  induction calls generalizing lane with
  | nil =>
    obtain rfl := Option.some.inj ran
    exact List.prefix_refl lane
  | cons call rest ih =>
    obtain ⟨next,persisted,later⟩ := Option.bind_eq_some_iff.mp ran
    obtain ⟨row,rfl,_⟩ := persistRow_exact (toOption_some persisted)
    exact (List.prefix_append lane [row]).trans (ih later)

theorem immutable_run (immutable : Immutable watId lane) (ran : Schedule.run (persist python) lane calls = some last) :
    Immutable watId last ↔ Schedule.Meets (persist python) (Fixed watId) lane calls := by
  induction calls generalizing lane with
  | nil =>
    obtain rfl := Option.some.inj ran
    exact ⟨fun _ => trivial,fun _ => immutable⟩
  | cons call rest ih =>
    obtain ⟨next,persisted,later⟩ := Option.bind_eq_some_iff.mp ran
    have exact_ := immutable_step immutable persisted
    constructor
    · intro kept
      have here : Immutable watId next := kept.sublist (persist_extends later).sublist
      refine ⟨exact_.mp here,?_⟩
      intro other same
      obtain rfl := Option.some.inj (persisted.symm.trans same)
      exact (ih here later).mp kept
    · rintro ⟨fixed,meets⟩
      exact (ih (exact_.mpr fixed) later).mpr (meets next persisted)

def shown (watId : String) (row : Dict) : Bool × Bool × String := (ofId watId row,rowEnforced row,rowVersion row)

theorem immutable_shown (watId : String) (lane : List Dict) : Immutable watId lane ↔
    (lane.map (shown watId)).Pairwise fun earlier later => earlier.1 = true → earlier.2.1 = true → later.1 = true → later.2.2 = earlier.2.2 := by
  unfold Immutable Agrees shown
  rw [List.pairwise_map]

def versioned (version : String) (enforced : Bool) (eventId : String) : Persist :=
  ⟨⟨"wat-1","wat_validated","api",.dict [(.str "retention_policy_version",.str version),(.str "retention_enforced_at_write",.bool enforced)],"ok"⟩,
    stampOf eventId⟩

def pruneDays (retentionDays : Int) : Int := max 1 (min retentionDays 3650)

def cutoffAt (now retentionDays : Int) : Except Exc Int :=
  let cutoff := now - pruneDays retentionDays * dayMicros
  if 0 ≤ cutoff then .ok cutoff else .error ⟨.overflowError,"date value out of range"⟩

def rowTime (row : Dict) : Option (Int × Option Int) := fromisoformat (expandZulu ((row.get "ts").orStr "").toList)

def outdated (cutoff : Int) (row : Dict) : Except Exc Bool :=
  match rowTime row with
  | none => .ok false
  | some (wall,some offset) => .ok (decide (wall - offset < cutoff))
  | some (_,none) => .error (typeError "can't compare offset-naive and offset-aware datetimes")

def keepRows (cutoff : Int) : List Dict → Except Exc (List Dict)
  | [] => .ok []
  | row :: rest => do
    let old ← outdated cutoff row
    let kept ← keepRows cutoff rest
    .ok (if old then kept else row :: kept)

def pruneWatEvents (now retentionDays : Int) (lane : List Dict) : Except Exc (List Dict × Nat) := do
  let cutoff ← cutoffAt now retentionDays
  let kept ← keepRows cutoff lane
  .ok (kept,lane.length - kept.length)

def pruned (now retentionDays : Int) (lane : List Dict) : List Dict :=
  match pruneWatEvents now retentionDays lane with
  | .ok (kept,_) => kept
  | .error _ => lane

def naive (row : Dict) : Bool := ((rowTime row).map fun time => time.2.isNone).getD false

def recent (now retentionDays : Int) (row : Dict) : Bool :=
  ((rowTime row).map fun time => decide (now - pruneDays retentionDays * dayMicros ≤ time.1 - time.2.getD 0)).getD true

theorem keepRows_exact (zoned : ∀ row ∈ lane, naive row = false) :
    keepRows (now - pruneDays retentionDays * dayMicros) lane = .ok (lane.filter (recent now retentionDays)) := by
  induction lane with
  | nil => rfl
  | cons row rest ih =>
    obtain ⟨first,others⟩ := List.forall_mem_cons.mp zoned
    have old : outdated (now - pruneDays retentionDays * dayMicros) row = .ok (!recent now retentionDays row) := by
      unfold outdated recent
      unfold naive at first
      cases time : rowTime row with
      | none => rfl
      | some moment =>
        obtain ⟨wall,zone⟩ := moment
        rw [time] at first
        cases zone with
        | none => cases first
        | some offset =>
          refine congrArg Except.ok ?_
          rw [Option.map_some,Option.getD_some,← decide_not]
          exact decide_eq_decide.mpr not_le.symm
    rw [keepRows,old,ih others,List.filter_cons]
    cases recent now retentionDays row <;> rfl

theorem keepRows_naive {cutoff : Int} {lane : List Dict} {row : Dict} (present : row ∈ lane) (unzoned : naive row = true) :
    ∃ error, keepRows cutoff lane = .error error := by
  induction lane with
  | nil => cases present
  | cons first rest ih =>
    rw [keepRows]
    rcases List.mem_cons.mp present with rfl | later
    · unfold naive at unzoned
      unfold outdated
      cases time : rowTime row with
      | none => rw [time] at unzoned; cases unzoned
      | some moment =>
        obtain ⟨wall,zone⟩ := moment
        rw [time] at unzoned
        cases zone with
        | none => exact ⟨_,rfl⟩
        | some offset => cases unzoned
    · obtain ⟨error,failed⟩ := ih later
      rw [failed]
      cases outdated cutoff first with
      | error other => exact ⟨other,rfl⟩
      | ok old => exact ⟨error,rfl⟩

def Refused (now retentionDays : Int) (lane : List Dict) : Prop := now < pruneDays retentionDays * dayMicros ∨ ∃ row ∈ lane, naive row = true

theorem pruned_refused {now retentionDays : Int} {lane : List Dict} (refused : Refused now retentionDays lane) : pruned now retentionDays lane = lane := by
  have raised : ∃ error, pruneWatEvents now retentionDays lane = .error error := by
    unfold pruneWatEvents cutoffAt
    dsimp only
    rcases refused with early | ⟨row,present,unzoned⟩
    · rw [if_neg (by omega)]
      exact ⟨_,rfl⟩
    · split
      · obtain ⟨error,failed⟩ := @keepRows_naive (now - pruneDays retentionDays * dayMicros) _ _ present unzoned
        exact ⟨error,by rw [show (Except.ok (now - pruneDays retentionDays * dayMicros) >>= fun cutoff =>
          keepRows cutoff lane >>= fun kept => (Except.ok (kept,lane.length - kept.length) : Except Exc _)) =
          (keepRows (now - pruneDays retentionDays * dayMicros) lane >>= fun kept => Except.ok (kept,lane.length - kept.length)) from rfl,failed]; rfl⟩
      · exact ⟨_,rfl⟩
  obtain ⟨error,raised⟩ := raised
  unfold pruned
  rw [raised]

theorem pruned_exact (accepted : ¬Refused now retentionDays lane) :
    pruned now retentionDays lane = lane.filter (recent now retentionDays) := by
  obtain ⟨late,zoned⟩ := not_or.mp accepted
  have zoned : ∀ row ∈ lane, naive row = false := fun row present => Bool.eq_false_of_not_eq_true fun unzoned => zoned ⟨row,present,unzoned⟩
  unfold pruned pruneWatEvents cutoffAt
  dsimp only
  rw [if_pos (by omega)]
  change (match keepRows (now - pruneDays retentionDays * dayMicros) lane >>= fun kept => Except.ok (kept,lane.length - kept.length) with
    | .ok (kept,_) => kept | .error _ => lane) = _
  rw [keepRows_exact zoned]
  rfl

def revocationKind (row : Dict) : Option String :=
  if laneText "event_type" row = "wat_revoked_confirmed" then some "revoked_confirmed"
  else if laneText "event_type" row = "wat_revocation_pending" then some "revoked_pending"
  else none

theorem latestRevocation_exact (rows : List Dict) (revoked : status ≠ "active") : (latestRevocation rows).get "status" = .str status ↔
      ∃ newer event older, rows = newer ++ event :: older ∧ revocationKind event = some status ∧ ∀ item ∈ newer, revocationKind item = none := by
  induction rows with
  | nil =>
    constructor
    · intro active
      exact absurd (Value.str.inj active).symm revoked
    · rintro ⟨newer,event,older,split,_⟩
      simp at split
  | cons row rest ih =>
    have first : ∀ kind, revocationKind row = some kind → ((∃ newer event older, row :: rest = newer ++ event :: older ∧
        revocationKind event = some status ∧ ∀ item ∈ newer, revocationKind item = none) ↔ kind = status) := by
      intro kind found
      constructor
      · rintro ⟨newer,event,older,split,decides,quiet⟩
        cases newer with
        | nil =>
          obtain ⟨rfl,_⟩ := List.cons.inj split
          exact Option.some.inj (found.symm.trans decides)
        | cons head tail =>
          obtain ⟨rfl,_⟩ := List.cons.inj split
          rw [quiet row List.mem_cons_self] at found
          cases found
      · rintro rfl
        exact ⟨[],row,rest,rfl,found,fun _ listed => by cases listed⟩
    by_cases confirmed : laneText "event_type" row = "wat_revoked_confirmed"
    · rw [latestRevocation,if_pos confirmed,first "revoked_confirmed" (if_pos confirmed)]
      exact Value.str.injEq .. ▸ Iff.rfl
    · by_cases pending : laneText "event_type" row = "wat_revocation_pending"
      · rw [latestRevocation,if_neg confirmed,if_pos pending,first "revoked_pending" (by rw [revocationKind,if_neg confirmed,if_pos pending])]
        exact Value.str.injEq .. ▸ Iff.rfl
      · have none_ : revocationKind row = none := by rw [revocationKind,if_neg confirmed,if_neg pending]
        rw [latestRevocation,if_neg confirmed,if_neg pending,ih]
        constructor
        · rintro ⟨newer,event,older,rfl,decides,quiet⟩
          exact ⟨row :: newer,event,older,rfl,decides,List.forall_mem_cons.mpr ⟨none_,quiet⟩⟩
        · rintro ⟨newer,event,older,split,decides,quiet⟩
          cases newer with
          | nil =>
            obtain ⟨rfl,_⟩ := List.cons.inj split
            rw [none_] at decides
            cases decides
          | cons head tail =>
            obtain ⟨rfl,rest_is⟩ := List.cons.inj split
            exact ⟨tail,event,older,rest_is,decides,fun item listed => quiet item (List.mem_cons_of_mem _ listed)⟩

-- The first of the newest kept items that decides, seen in the whole list.
theorem window_exact {α : Type} (kept : α → Bool) (decides : α → Prop) (quiet : α → Prop) (limit : Nat) (items : List α) :
    (∃ newer event older, (items.filter kept).reverse.take limit = newer ++ event :: older ∧ decides event ∧ ∀ item ∈ newer, quiet item) ↔
      ∃ before event later, items = before ++ event :: later ∧ kept event = true ∧ decides event ∧
        (∀ item ∈ later, kept item = true → quiet item) ∧ later.countP kept < limit := by
  constructor
  · rintro ⟨newer,event,older,split,decided,silent⟩
    have short : newer.length < limit := by
      have long := congrArg List.length split
      rw [List.length_take,List.length_append,List.length_cons] at long
      omega
    have whole : items.filter kept = (((items.filter kept).reverse.drop limit).reverse ++ older.reverse) ++ event :: newer.reverse := by
      have joined := List.take_append_drop limit (items.filter kept).reverse
      rw [split] at joined
      generalize (items.filter kept).reverse.drop limit = dropped at joined ⊢
      rw [← List.reverse_reverse (items.filter kept),← joined]
      simp
    obtain ⟨front,back,rfl,_,rest⟩ := List.filter_eq_append_iff.mp whole
    obtain ⟨skipped,later,rfl,_,own,remaining⟩ := List.filter_eq_cons_iff.mp rest
    refine ⟨front ++ skipped,event,later,by simp,own,decided,?_,?_⟩
    · intro item listed chosen
      have inside : item ∈ newer.reverse := by
        rw [← remaining]
        exact List.mem_filter.mpr ⟨listed,chosen⟩
      exact silent item (List.mem_reverse.mp inside)
    · rw [List.countP_eq_length_filter,remaining,List.length_reverse]
      exact short
  · rintro ⟨before,event,later,rfl,own,decided,silent,few⟩
    refine ⟨(later.filter kept).reverse,event,((before.filter kept).reverse).take (limit - (later.filter kept).length - 1),?_,decided,?_⟩
    · rw [List.filter_append,List.filter_cons,if_pos own]
      rw [List.countP_eq_length_filter] at few
      obtain ⟨room,rfl⟩ : ∃ room, limit = (later.filter kept).reverse.length + (room + 1) :=
        ⟨limit - (later.filter kept).length - 1,by rw [List.length_reverse]; omega⟩
      simp only [List.reverse_append,List.reverse_cons,List.append_assoc,List.singleton_append]
      rw [List.take_length_add_append,List.take_succ_cons]
      have same : (later.filter kept).reverse.length + (room + 1) - (later.filter kept).length - 1 = room := by
        rw [List.length_reverse]
        omega
      rw [same]
    · intro item listed
      obtain ⟨inside,chosen⟩ := List.mem_filter.mp (List.mem_reverse.mp listed)
      exact silent item inside chosen

theorem deriveLatestRevocationState_rows (named : strip watId ≠ "") (lane : List Dict) :
    deriveLatestRevocationState lane watId = latestRevocation ((lane.filter (ofId watId)).reverse.take 500) := by
  have window : (max 1 (min (500 : Int) 500)).toNat = 500 := by decide
  unfold deriveLatestRevocationState listWatEvents
  dsimp only
  rw [if_neg named,if_neg named,strip_strip,window,if_pos rfl]
  rfl

theorem revoked_named (state : (deriveLatestRevocationState lane watId).get "status" = .str status)
    (revoked : status ≠ "active") : strip watId ≠ "" := by
  intro unnamed
  unfold deriveLatestRevocationState at state
  dsimp only at state
  rw [if_pos unnamed] at state
  exact revoked (Value.str.inj state).symm

-- A revocation event of the status is recent enough, and no other recent one of its id is newer.
def Survives (now retentionDays : Int) (lane : List Dict) (watId status : String) : Prop :=
  ∃ before event later, lane = before ++ event :: later ∧ (ofId watId event && recent now retentionDays event) = true ∧
    revocationKind event = some status ∧
    (∀ item ∈ later, (ofId watId item && recent now retentionDays item) = true → revocationKind item = none) ∧
    (later.countP fun item => ofId watId item && recent now retentionDays item) < 500

theorem revoked_not_valid
    (revoked : deriveRevocationStatus call.revocationState ≠ .active) (returned : (validateLocal setting cache call).1 = .ok result) :
    result.validationStatus ≠ .valid := by
  intro valid
  unfold validateLocal at returned
  split at returned
  · obtain ⟨reference,_,returned⟩ := bind_ok.mp returned
    obtain rfl := Except.ok.inj returned
    cases valid
  · split at returned
    · cases returned
    next claims partialAllowed verdict outcome =>
      obtain ⟨same,_⟩ := report_ok returned
      obtain ⟨_,_,outcome⟩ := bind_ok.mp outcome
      obtain ⟨_,verdicts,outcome⟩ := bind_ok.mp outcome
      obtain ⟨rfl,rfl,rfl⟩ := Prod.mk.inj (Except.ok.inj outcome) |>.imp_right Prod.mk.inj
      obtain ⟨passed,timely⟩ := judge_valid verdicts (same.symm.trans valid)
      cases status : deriveRevocationStatus call.revocationState with
      | active => exact revoked status
      | pending => exact timely.settled status
      | confirmed => exact passed.unconfirmed status

-- The derived status survives a pruning exactly if a revocation event of it does.
theorem revocation_survives_exact (now retentionDays : Int) (lane : List Dict) (watId status : String)
    (state : (deriveLatestRevocationState lane watId).get "status" = .str status) (revoked : status = "revoked_confirmed" ∨ status = "revoked_pending") :
    ((deriveLatestRevocationState (pruned now retentionDays lane) watId).get "status" = .str status ↔
      Refused now retentionDays lane ∨ Survives now retentionDays lane watId status) ∧
    (Refused now retentionDays lane ∨ Survives now retentionDays lane watId status → ∀ setting cache call result,
      call.revocationState = .dict (deriveLatestRevocationState (pruned now retentionDays lane) watId) →
        (validateLocal setting cache call).1 = .ok result → result.validationStatus ≠ .valid) := by
  have inactive : status ≠ "active" := by rcases revoked with rfl | rfl <;> decide
  have named := revoked_named state inactive
  have exact_ : (deriveLatestRevocationState (pruned now retentionDays lane) watId).get "status" = .str status ↔
      Refused now retentionDays lane ∨ Survives now retentionDays lane watId status := by
    by_cases refused : Refused now retentionDays lane
    · rw [pruned_refused refused]
      exact ⟨fun _ => Or.inl refused,fun _ => state⟩
    · rw [pruned_exact refused,deriveLatestRevocationState_rows named,latestRevocation_exact _ inactive,List.filter_filter,
        window_exact _ (fun event => revocationKind event = some status) (fun item => revocationKind item = none)]
      exact ⟨Or.inr,fun either => either.resolve_left refused⟩
  refine ⟨exact_,?_⟩
  intro kept setting cache call result given returned
  refine revoked_not_valid ?_ returned
  rw [given,deriveRevocationStatus,exact_.mpr kept]
  rcases revoked with rfl | rfl
  · simp [revocationOf]
  · simp [revocationOf]

def revocationRow : Dict :=
  [(.str "wat_id",.str "wat-1"),(.str "event_type",.str "wat_revoked_confirmed"),(.str "ts",.str "2026-01-01T00:00:00Z")]

def daysAfter (days : Nat) : Int := (ymd2ord 2026 1 1 + days : Nat) * dayMicros

theorem firstDay : ymd2ord 2026 1 1 = 739617 := by decide

theorem retained_days : pruneDays 90 = 90 := by decide

theorem revocationRow_time : rowTime revocationRow = some ((ymd2ord 2026 1 1 - 1 : Nat) * dayMicros,some 0) := by decide

theorem revocationRow_kept (days : Nat) : recent (daysAfter days) 90 revocationRow = decide (days + 1 ≤ 90) := by
  unfold recent
  rw [revocationRow_time,Option.map_some,Option.getD_some,Option.getD_some,retained_days]
  refine decide_eq_decide.mpr ?_
  unfold daysAfter dayMicros
  rw [firstDay]
  omega

theorem revocationRow_status : (deriveLatestRevocationState [revocationRow] "wat-1").get "status" = .str "revoked_confirmed" := rfl

theorem accepted_sample (days : Nat) : ¬Refused (daysAfter days) 90 [revocationRow] := by
  rintro (early | ⟨row,listed,unzoned⟩)
  · rw [retained_days] at early
    unfold daysAfter dayMicros at early
    rw [firstDay] at early
    omega
  · obtain rfl := List.mem_singleton.mp listed
    unfold naive at unzoned
    rw [revocationRow_time] at unzoned
    cases unzoned

theorem pruning_reactivates : (deriveLatestRevocationState [revocationRow] "wat-1").get "status" = .str "revoked_confirmed" ∧
    (deriveLatestRevocationState (pruned (daysAfter 91) 90 [revocationRow]) "wat-1").get "status" = .str "active" ∧
    ∃ result, (validateLocal sampleSetting none (sampleCall (.dict (deriveLatestRevocationState (pruned (daysAfter 91) 90 [revocationRow]) "wat-1")))).1 =
      .ok result ∧ result.admissibilityState = .admissible := by
  have gone : pruned (daysAfter 91) 90 [revocationRow] = [] := by
    rw [pruned_exact (accepted_sample 91),List.filter_cons,revocationRow_kept]
    rfl
  rw [gone]
  exact ⟨revocationRow_status,rfl,_,rfl,rfl⟩

theorem revocation_survives_sample : (deriveLatestRevocationState (pruned (daysAfter 1) 90 [revocationRow]) "wat-1").get "status" =
    .str "revoked_confirmed" := by
  refine ((revocation_survives_exact (daysAfter 1) 90 [revocationRow] "wat-1" "revoked_confirmed" revocationRow_status (Or.inl rfl)).1).mpr (Or.inr ?_)
  refine ⟨[],revocationRow,[],rfl,?_,rfl,fun _ listed => (by cases listed),by decide⟩
  rw [revocationRow_kept]
  rfl

end VeritasOs.WatRetention
