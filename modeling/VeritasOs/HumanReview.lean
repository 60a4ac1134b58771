import VeritasOs.Isoformat
import VeritasOs.TrustLog
import VeritasOs.PolicyBundle

namespace VeritasOs.HumanReview
open Text JsonText DateTime BindArtifacts PolicyBundle TrustLog

inductive Status where
  | pending | approved | rejected | expired
deriving DecidableEq

structure Filing where
  entryId : String
  enqueuedAt : String
  slaDeadline : String
  slaSeconds : Int
  reason : String
  requestId : Value
  riskLevel : Value
deriving DecidableEq

structure Entry extends Filing where
  status : Status
  reviewer : Option String
  reviewedAt : Option String
  decision : Option Status
  comment : Option String
  expiredAt : Option String
deriving DecidableEq

-- hashlib.sha256(..).hexdigest() of a text, the class attribute _sla_seconds, and what
-- datetime.fromtimestamp raises for an instant outside the calendar.
structure World where
  sha256 : String → String
  slaSeconds : Int
  outOfRange : Int → Exc

structure Request where
  payload : Dict
  reason : String

-- ensure_ascii=True: what is not printable ASCII is written as its UTF-16 units.
def unitText (n : Nat) : List Char := '\\' :: 'u' :: [n / 4096 % 16,n / 256 % 16,n / 16 % 16,n % 16].map hexText

def asciiChar (c : Char) : List Char :=
  if 32 ≤ c.toNat ∧ c.toNat ≤ 126 then [c]
  else if c.toNat < 65536 then unitText c.toNat
  else unitText (55296 + (c.toNat - 65536) / 1024) ++ unitText (56320 + (c.toNat - 65536) % 1024)

-- json.dumps(decision_payload, sort_keys=True, default=str)
def payloadText (payload : Dict) : Except Exc String :=
  match toJson true (defaultStr (.dict payload)) with
  | some json => .ok (String.ofList ((print spaced 0 json).flatMap asciiChar))
  | none => .error (typeError "keys must be str, int, float, bool or None")

def entryId (world : World) (payload : Dict) : Except Exc String := do
  let text ← payloadText payload
  return truncate 16 (world.sha256 text)

-- A clock reading is an instant of UTC in microseconds since 0001-01-01T00:00:00.
def utcText (instant : Int) : String := isoformat (instant,some 0)

def deadlineAfter (world : World) (reading : Int) : Except Exc Int :=
  let instant := reading + world.slaSeconds * 1000000
  if 0 ≤ instant ∧ instant < maxInstant then .ok instant else .error (world.outOfRange instant)

def payloadSummary (payload : Dict) : Except Exc (Value × Value) :=
  match payload.getD "eu_risk_assessment" (.dict []) with
  | .dict assessment => .ok (payload.getD "request_id" (.str ""),Dict.getD assessment "risk_level" (.str ""))
  | other => .error (attributeError ("'" ++ typeName other ++ "' object has no attribute 'get'"))

def newEntry (world : World) (request : Request) (now reading : Int) : Except Exc Entry := do
  let id ← entryId world request.payload
  let deadline ← deadlineAfter world reading
  let (requestId,riskLevel) ← payloadSummary request.payload
  return {
    entryId := id, enqueuedAt := utcText now, slaDeadline := utcText deadline, slaSeconds := world.slaSeconds,
    reason := request.reason, requestId := requestId, riskLevel := riskLevel, status := .pending, reviewer := none,
    reviewedAt := none, decision := none, comment := none, expiredAt := none }

def enqueue (world : World) (request : Request) (now reading : Int) (queue : List Entry) : Except Exc (Entry × List Entry) := do
  let entry ← newEntry world request now reading
  return (entry,queue ++ [entry])

def verdict (approved : Bool) : Status := if approved then .approved else .rejected

structure Review where
  approved : Bool
  reviewer : String
  comment : String

def reviewed (decision : Review) (now : Int) (entry : Entry) : Entry :=
  { entry with
    status := verdict decision.approved, reviewer := some decision.reviewer, reviewedAt := some (utcText now),
    decision := some (verdict decision.approved), comment := some decision.comment }

def review (id : String) (decision : Review) (now : Int) : List Entry → List Entry × Option Entry
  | [] => ([],none)
  | entry :: rest =>
    if entry.entryId = id ∧ entry.status = .pending then
      (reviewed decision now entry :: rest,some (reviewed decision now entry))
    else
      let (others,answer) := review id decision now rest
      (entry :: others,answer)

def getEntry (id : String) (queue : List Entry) : Option Entry := queue.find? fun entry => entry.entryId = id

def lapsed (now : Int) (entry : Entry) : Entry := { entry with status := .expired, expiredAt := some (utcText now) }

-- The sweep stops where a deadline without an offset is compared.
def checkExpiredEntries (now : Int) : List Entry → List Entry × Except Exc (List Entry)
  | [] => ([],.ok [])
  | entry :: rest =>
    let (others,answer) := checkExpiredEntries now rest
    if entry.status ≠ .pending ∨ entry.slaDeadline = "" then (entry :: others,answer)
    else match fromisoformat entry.slaDeadline.toList with
      | none => (entry :: others,answer)
      | some (_,none) => (entry :: rest,.error (typeError "can't compare offset-naive and offset-aware datetimes"))
      | some (wall,some offset) =>
        if wall - offset ≤ now then (lapsed now entry :: others,answer.map (lapsed now entry :: ·))
        else (entry :: others,answer)

variable {world : World} {now reading : Int} {queue : List Entry} {entry : Entry}

inductive Call where
  | enqueue (request : Request) (now reading : Int)
  | review (id : String) (decision : Review) (now : Int)
  | checkExpiredEntries (now : Int)
  | getEntry (id : String)

def Call.readings : Call → List Int
  | .enqueue _ now reading => [now,reading]
  | .review _ _ now => [now]
  | .checkExpiredEntries now => [now]
  | .getEntry _ => []

structure State where
  queue : List Entry
  requests : List Request
  clock : Int

def after (world : World) (state : State) : Call → State
  | .enqueue request now reading =>
    match enqueue world request now reading state.queue with
    | .ok (_,queue) => ⟨queue,state.requests ++ [request],reading⟩
    | .error _ => { state with clock := reading }
  | .review id decision now => ⟨(review id decision now state.queue).1,state.requests,now⟩
  | .checkExpiredEntries now => ⟨(checkExpiredEntries now state.queue).1,state.requests,now⟩
  | .getEntry _ => state

-- The clock does not go back and stays within the calendar.
structure Clocked (state : State) (call : Call) : Prop where
  order : (state.clock :: call.readings).Pairwise (· ≤ ·)
  calendar : ∀ reading ∈ call.readings, reading < maxInstant

inductive Path (world : World) (meets : State → Call → Prop) : State → State → Prop where
  | refl : Path world meets state state
  | step : Path world meets start state → Clocked state call → meets state call → Path world meets start (after world state call)

def Reached (world : World) (meets : State → Call → Prop) (state : State) : Prop :=
  ∃ clock, 0 ≤ clock ∧ Path world meets ⟨[],[],clock⟩ state

-- What a call may make of an entry: a decided entry stays as it is, and the filing of every entry.
structure Follows (before now : Entry) : Prop where
  filing : now.toFiling = before.toFiling
  decided : before.status ≠ .pending → now = before

theorem follows_refl (entry : Entry) : Follows entry entry := ⟨rfl,fun _ => rfl⟩

theorem follows_trans (one : Follows first second) (two : Follows second third) : Follows first third := by
  refine ⟨two.filing.trans one.filing,?_⟩
  intro settled
  have same := one.decided settled
  subst same
  exact two.decided settled

-- Entries keep their place, and new ones stand behind them.
def Continues (before now : List Entry) : Prop :=
  ∀ (place : Nat) (entry : Entry), before[place]? = some entry → ∃ later, now[place]? = some later ∧ Follows entry later

theorem continues_refl (queue : List Entry) : Continues queue queue := fun _ entry found => ⟨entry,found,follows_refl entry⟩

theorem continues_trans (one : Continues first second) (two : Continues second third) : Continues first third := by
  intro place entry found
  obtain ⟨middle,there,follows⟩ := one place entry found
  obtain ⟨last,here,next⟩ := two place middle there
  exact ⟨last,here,follows_trans follows next⟩

theorem continues_cons {now : Entry} {before after : List Entry} (head : Follows entry now) (tail : Continues before after) :
    Continues (entry :: before) (now :: after) := by
  intro place found there
  cases place with
  | zero =>
    cases there
    exact ⟨now,rfl,head⟩
  | succ place => exact tail place found there

theorem continues_append (queue added : List Entry) : Continues queue (queue ++ added) := by
  intro place entry found
  have inside : place < queue.length := (List.getElem?_eq_some_iff.mp found).1
  exact ⟨entry,by rw [List.getElem?_append_left inside,found],follows_refl entry⟩

theorem reviewed_follows (decision : Review) (now : Int) (pending : entry.status = .pending) :
    Follows entry (reviewed decision now entry) := ⟨rfl,fun decided => absurd pending decided⟩

theorem lapsed_follows (now : Int) (pending : entry.status = .pending) : Follows entry (lapsed now entry) :=
  ⟨rfl,fun decided => absurd pending decided⟩

theorem review_continues (id : String) (decision : Review) (now : Int) (queue : List Entry) :
    Continues queue (review id decision now queue).1 ∧ (review id decision now queue).1.length = queue.length := by
  induction queue with
  | nil => exact ⟨continues_refl [],rfl⟩
  | cons entry rest ih =>
    unfold review
    split
    next taken => exact ⟨continues_cons (reviewed_follows decision now taken.2) (continues_refl rest),rfl⟩
    next => exact ⟨continues_cons (follows_refl entry) ih.1,congrArg Nat.succ ih.2⟩

theorem checkExpired_continues (now : Int) (queue : List Entry) :
    Continues queue (checkExpiredEntries now queue).1 ∧ (checkExpiredEntries now queue).1.length = queue.length := by
  induction queue with
  | nil => exact ⟨continues_refl [],rfl⟩
  | cons entry rest ih =>
    have kept := continues_cons (follows_refl entry) ih.1
    have long := congrArg Nat.succ ih.2
    unfold checkExpiredEntries
    dsimp only
    split
    next => exact ⟨kept,long⟩
    next due =>
      have pending : entry.status = .pending := by
        by_contra other
        exact due (Or.inl other)
      split
      · exact ⟨kept,long⟩
      · exact ⟨continues_refl _,rfl⟩
      · split
        · exact ⟨continues_cons (lapsed_follows now pending) ih.1,long⟩
        · exact ⟨kept,long⟩

-- What the fields of a filed request come from.
structure FiledAs (world : World) (request : Request) (filing : Filing) : Prop where
  id : entryId world request.payload = .ok filing.entryId
  reason : filing.reason = request.reason
  summary : payloadSummary request.payload = .ok (filing.requestId,filing.riskLevel)
  deadline : ∃ instant, 0 ≤ instant ∧ instant < maxInstant ∧ filing.slaDeadline = utcText instant

theorem newEntry_exact (made : newEntry world request now reading = .ok entry) :
    FiledAs world request entry.toFiling ∧ entry.status = .pending := by
  unfold newEntry at made
  obtain ⟨id,hashed,made⟩ := bind_ok.mp made
  obtain ⟨deadline,timed,made⟩ := bind_ok.mp made
  obtain ⟨⟨requestId,riskLevel⟩,summarised,made⟩ := bind_ok.mp made
  obtain rfl := Except.ok.inj made
  refine ⟨⟨hashed,rfl,summarised,deadline,?_⟩,rfl⟩
  unfold deadlineAfter at timed
  dsimp only at timed
  split at timed
  next range =>
    obtain rfl := Except.ok.inj timed
    exact ⟨range.1,range.2,rfl⟩
  next => cases timed

theorem after_continues (world : World) (state : State) (call : Call) : Continues state.queue (after world state call).queue := by
  cases call with
  | enqueue request now reading =>
    unfold after
    dsimp only
    cases made : enqueue world request now reading state.queue with
    | error error => exact continues_refl _
    | ok answer =>
      obtain ⟨entry,_,answered⟩ := bind_ok.mp made
      obtain rfl := Except.ok.inj answered
      exact continues_append _ _
  | review id decision now => exact (review_continues id decision now state.queue).1
  | checkExpiredEntries now => exact (checkExpired_continues now state.queue).1
  | getEntry id => exact continues_refl _

theorem path_continues (path : Path world meets start state) : Continues start.queue state.queue := by
  induction path with
  | refl => exact continues_refl _
  | step _ _ _ ih => exact continues_trans ih (after_continues world _ _)

theorem review_members {id : String} {decision : Review} (present : entry ∈ (review id decision now queue).1) :
    entry ∈ queue ∨ ∃ old ∈ queue, old.entryId = id ∧ old.status = .pending ∧ entry = reviewed decision now old := by
  induction queue with
  | nil => cases present
  | cons first rest ih =>
    unfold review at present
    split at present
    next taken =>
      rcases List.mem_cons.mp present with rfl | later
      · exact Or.inr ⟨first,List.mem_cons_self,taken.1,taken.2,rfl⟩
      · exact Or.inl (List.mem_cons_of_mem _ later)
    next =>
      rcases List.mem_cons.mp present with rfl | later
      · exact Or.inl List.mem_cons_self
      · rcases ih later with kept | ⟨old,there,found⟩
        · exact Or.inl (List.mem_cons_of_mem _ kept)
        · exact Or.inr ⟨old,List.mem_cons_of_mem _ there,found⟩

theorem checkExpired_members (present : entry ∈ (checkExpiredEntries now queue).1) : entry ∈ queue ∨ ∃ old, entry = lapsed now old := by
  induction queue with
  | nil => cases present
  | cons first rest ih =>
    have skipped : entry ∈ first :: (checkExpiredEntries now rest).1 → entry ∈ first :: rest ∨ ∃ old, entry = lapsed now old := by
      intro there
      rcases List.mem_cons.mp there with rfl | later
      · exact Or.inl List.mem_cons_self
      · exact (ih later).imp_left (List.mem_cons_of_mem _)
    unfold checkExpiredEntries at present
    dsimp only at present
    split at present
    · exact skipped present
    · split at present
      · exact skipped present
      · exact Or.inl present
      · split at present
        · rcases List.mem_cons.mp present with rfl | later
          · exact Or.inr ⟨first,rfl⟩
          · exact (ih later).imp_left (List.mem_cons_of_mem _)
        · exact skipped present

-- The moment a text of the queue is read as.
def ReadAs (text : String) (instant : Int) : Prop := fromisoformat text.toList = some (instant,some 0)

def InTime (entry : Entry) : Prop :=
  entry.status = .approved → ∃ text decided deadline, entry.reviewedAt = some text ∧ ReadAs text decided ∧
    ReadAs entry.slaDeadline deadline ∧ decided < deadline

-- The call keeps ids apart and approves only what is not overdue.
def Met (world : World) (state : State) : Call → Prop
  | .enqueue request _ _ => ∀ earlier ∈ state.requests, ∀ id, entryId world earlier.payload = .ok id → entryId world request.payload ≠ .ok id
  | .review id decision now => decision.approved = true → ∀ entry ∈ state.queue, entry.entryId = id → entry.status = .pending →
      ∀ deadline, ReadAs entry.slaDeadline deadline → now < deadline
  | _ => True

structure Kept (world : World) (state : State) : Prop where
  clock : 0 ≤ state.clock
  long : state.requests.length = state.queue.length
  filed : ∀ (place : Nat) (request : Request) (entry : Entry), state.requests[place]? = some request → state.queue[place]? = some entry →
    FiledAs world request entry.toFiling
  distinct : (state.queue.map (·.entryId)).Nodup
  inTime : ∀ entry ∈ state.queue, InTime entry

theorem ids_kept {before after : List Entry} (continues : Continues before after) (long : after.length = before.length) :
    after.map (·.entryId) = before.map (·.entryId) := by
  apply List.ext_getElem?
  intro place
  rw [List.getElem?_map,List.getElem?_map]
  cases found : before[place]? with
  | none =>
    have outside : after[place]? = none := List.getElem?_eq_none (by rw [long]; exact List.getElem?_eq_none_iff.mp found)
    rw [outside]
  | some entry =>
    obtain ⟨later,there,follows⟩ := continues place entry found
    rw [there]
    exact congrArg (fun filing => some filing.entryId) follows.filing

theorem kept_of_continues {state : State} {clock : Int} (kept : Kept world state) (late : 0 ≤ clock)
    (continues : Continues state.queue queue) (long : queue.length = state.queue.length) (inTime : ∀ entry ∈ queue, InTime entry) :
    Kept world ⟨queue,state.requests,clock⟩ := by
  refine ⟨late,kept.long.trans long.symm,?_,?_,inTime⟩
  · intro place request later asked found
    have inside : place < state.queue.length := by
      rw [← long]
      exact (List.getElem?_eq_some_iff.mp found).1
    obtain ⟨other,there,follows⟩ := continues place _ (List.getElem?_eq_getElem inside)
    obtain rfl := Option.some.inj (found.symm.trans there)
    rw [follows.filing]
    exact kept.filed place request _ asked (List.getElem?_eq_getElem inside)
  · change (queue.map (·.entryId)).Nodup
    rw [ids_kept continues long]
    exact kept.distinct

theorem utcText_read (low : 0 ≤ instant) (high : instant < maxInstant) : ReadAs (utcText instant) instant :=
  fromisoformat_isoformat ⟨⟨low,high⟩,fun offset same => by obtain rfl := Option.some.inj same; decide⟩

theorem readAs_unique (one : ReadAs text first) (two : ReadAs text second) : first = second := by
  have same := one.symm.trans two
  simpa using same

theorem deadline_read (kept : Kept world state) (present : entry ∈ state.queue) : ∃ deadline, ReadAs entry.slaDeadline deadline := by
  obtain ⟨place,found⟩ := List.getElem?_of_mem present
  have inside : place < state.requests.length := by
    rw [kept.long]
    exact (List.getElem?_eq_some_iff.mp found).1
  obtain ⟨instant,low,high,shown⟩ := (kept.filed place _ entry (List.getElem?_eq_getElem inside) found).deadline
  exact ⟨instant,by rw [shown]; exact utcText_read low high⟩

theorem enqueue_kept (kept : Kept world state) (late : 0 ≤ clock)
    (fresh : Met world state (.enqueue request now reading)) (made : newEntry world request now reading = .ok entry) :
    Kept world ⟨state.queue ++ [entry],state.requests ++ [request],clock⟩ := by
  obtain ⟨filed,pending⟩ := newEntry_exact made
  refine ⟨late,by simp [kept.long],?_,?_,?_⟩
  · intro place asked found first second
    by_cases inside : place < state.queue.length
    · rw [List.getElem?_append_left (by rw [kept.long]; exact inside)] at first
      rw [List.getElem?_append_left inside] at second
      exact kept.filed place asked found first second
    · rw [List.getElem?_append_right (by rw [kept.long]; exact Nat.le_of_not_lt inside),kept.long] at first
      rw [List.getElem?_append_right (Nat.le_of_not_lt inside)] at second
      cases offset : place - state.queue.length with
      | zero =>
        rw [offset] at first second
        cases first
        cases second
        exact filed
      | succ more =>
        rw [offset] at second
        cases second
  · change ((state.queue ++ [entry]).map (·.entryId)).Nodup
    rw [List.map_append]
    refine List.Nodup.append kept.distinct (List.nodup_singleton _) ?_
    intro id listed same
    obtain rfl := List.mem_singleton.mp same
    obtain ⟨old,there,equal⟩ := List.mem_map.mp listed
    obtain ⟨place,found⟩ := List.getElem?_of_mem there
    have inside : place < state.requests.length := by
      rw [kept.long]
      exact (List.getElem?_eq_some_iff.mp found).1
    have hashed := (kept.filed place _ old (List.getElem?_eq_getElem inside) found).id
    refine fresh _ (List.getElem_mem inside) _ hashed ?_
    rw [filed.id]
    exact congrArg Except.ok equal.symm
  · intro other present
    rcases List.mem_append.mp present with old | new
    · exact kept.inTime other old
    · obtain rfl := List.mem_singleton.mp new
      intro approved
      rw [pending] at approved
      cases approved

theorem reading_late (start : 0 ≤ state.clock) (clocked : Clocked state call)
    (listed : reading ∈ call.readings) : 0 ≤ reading := le_trans start ((List.pairwise_cons.mp clocked.order).1 reading listed)

theorem kept_step (kept : Kept world state) (clocked : Clocked state call) (met : Met world state call) :
    Kept world (after world state call) := by
  have late : ∀ reading ∈ call.readings, 0 ≤ reading := fun _ => reading_late kept.clock clocked
  cases call with
  | enqueue request now reading =>
    unfold after
    dsimp only
    cases made : enqueue world request now reading state.queue with
    | error error => exact ⟨late reading (by simp [Call.readings]),kept.long,kept.filed,kept.distinct,kept.inTime⟩
    | ok answer =>
      obtain ⟨entry,filed,answered⟩ := bind_ok.mp made
      obtain rfl := Except.ok.inj answered
      exact enqueue_kept kept (late reading (by simp [Call.readings])) met filed
  | review id decision now =>
    obtain ⟨continues,long⟩ := review_continues id decision now state.queue
    refine kept_of_continues kept (late now (by simp [Call.readings])) continues long ?_
    intro entry present
    rcases review_members present with old | ⟨old,there,named,pending,rfl⟩
    · exact kept.inTime entry old
    · intro approved
      have agreed : decision.approved = true := by
        by_contra refused
        simp [reviewed,verdict,refused] at approved
      obtain ⟨deadline,read⟩ := deadline_read kept there
      have range := clocked.calendar now (by simp [Call.readings])
      exact ⟨utcText now,now,deadline,rfl,utcText_read (late now (by simp [Call.readings])) range,read,
        met agreed old there named pending deadline read⟩
  | checkExpiredEntries now =>
    obtain ⟨continues,long⟩ := checkExpired_continues now state.queue
    refine kept_of_continues kept (late now (by simp [Call.readings])) continues long ?_
    intro entry present
    rcases checkExpired_members present with old | ⟨old,rfl⟩
    · exact kept.inTime entry old
    · intro approved
      cases approved
  | getEntry id => exact kept

theorem path_kept (path : Path world (Met world) start state) (kept : Kept world start) : Kept world state := by
  induction path with
  | refl => exact kept
  | step _ clocked met ih => exact kept_step ih clocked met

theorem reached_kept (reached : Reached world (Met world) state) : Kept world state := by
  obtain ⟨clock,start,path⟩ := reached
  exact path_kept path ⟨start,rfl,fun _ _ _ asked => by simp at asked,List.nodup_nil,fun _ present => by cases present⟩

theorem other_id {first : Entry} {rest : List Entry} (apart : first.entryId ∉ rest.map (·.entryId)) (present : entry ∈ rest) :
    first.entryId ≠ entry.entryId := by
  intro same
  exact apart (List.mem_map.mpr ⟨entry,present,same.symm⟩)

theorem review_missing {id : String} (missing : id ∉ queue.map (·.entryId)) (decision : Review) (now : Int) :
    review id decision now queue = (queue,none) := by
  induction queue with
  | nil => rfl
  | cons first rest ih =>
    rw [List.map_cons,List.mem_cons,not_or] at missing
    simp [review,Ne.symm missing.1,ih missing.2]

theorem getEntry_exact (distinct : (queue.map (·.entryId)).Nodup) {place : Nat} (found : queue[place]? = some entry) :
    getEntry entry.entryId queue = some entry := by
  induction queue generalizing place with
  | nil => simp at found
  | cons first rest ih =>
    obtain ⟨apart,distinct⟩ := List.nodup_cons.mp distinct
    unfold getEntry
    cases place with
    | zero =>
      cases found
      simp
    | succ place =>
      have other := other_id apart (List.mem_of_getElem? found)
      rw [List.find?_cons_of_neg (by simpa using other)]
      exact ih distinct found

theorem review_exact (distinct : (queue.map (·.entryId)).Nodup) {place : Nat} (found : queue[place]? = some entry) (decision : Review)
    (now : Int) : review entry.entryId decision now queue =
      if entry.status = .pending then (queue.set place (reviewed decision now entry),some (reviewed decision now entry)) else (queue,none) := by
  induction queue generalizing place with
  | nil => simp at found
  | cons first rest ih =>
    obtain ⟨apart,distinct⟩ := List.nodup_cons.mp distinct
    cases place with
    | zero =>
      cases found
      unfold review
      by_cases pending : entry.status = .pending
      · simp [pending]
      · simp [pending,review_missing apart]
    | succ place =>
      have other := other_id apart (List.mem_of_getElem? found)
      unfold review
      rw [if_neg (by simp [other]),ih distinct found]
      by_cases pending : entry.status = .pending
      · simp [pending]
      · simp [pending]

-- Under the id of a filed request its entry is found, and its entry alone is decided.
structure Individual (world : World) (state : State) : Prop where
  distinct : (state.queue.map (·.entryId)).Nodup
  filed : ∀ (place : Nat) (request : Request), state.requests[place]? = some request →
    ∃ entry, state.queue[place]? = some entry ∧ FiledAs world request entry.toFiling ∧ getEntry entry.entryId state.queue = some entry ∧
      ∀ decision now, review entry.entryId decision now state.queue =
        if entry.status = .pending then (state.queue.set place (reviewed decision now entry),some (reviewed decision now entry))
        else (state.queue,none)

theorem reviews_individual_final_inTime {world : World} {earlier later : State} (reached : Reached world (Met world) earlier)
    (path : Path world (Met world) earlier later) :
    Individual world later ∧ Continues earlier.queue later.queue ∧ ∀ entry ∈ later.queue, InTime entry := by
  have kept := path_kept path (reached_kept reached)
  refine ⟨⟨kept.distinct,?_⟩,path_continues path,kept.inTime⟩
  intro place request asked
  have inside : place < later.queue.length := by
    rw [← kept.long]
    exact (List.getElem?_eq_some_iff.mp asked).1
  have found := List.getElem?_eq_getElem inside
  exact ⟨_,found,kept.filed place request _ asked found,getEntry_exact kept.distinct found,review_exact kept.distinct found⟩

def sampleWorld : World := ⟨fun _ => String.ofList (List.replicate 64 'a'),14400,fun _ => valueError "year is out of range"⟩

def sampleTime : Int := 63900000000000000

def sampleRequest : Request := ⟨[],"trust_score=0.50, risk_level=low"⟩

def sampleEntry : Entry where
  entryId := String.ofList (List.replicate 16 'a')
  enqueuedAt := utcText sampleTime
  slaDeadline := utcText (sampleTime + 14400000000)
  slaSeconds := 14400
  reason := sampleRequest.reason
  requestId := .str ""
  riskLevel := .str ""
  status := .pending
  reviewer := none
  reviewedAt := none
  decision := none
  comment := none
  expiredAt := none

theorem sample_deadline : sampleEntry.slaDeadline = utcText (sampleTime + 14400000000) := by
  unfold sampleEntry
  rfl

theorem sample_id : entryId sampleWorld [] = .ok (String.ofList (List.replicate 16 'a')) := by
  have text : payloadText [] = .ok "\x7b\x7d" := rfl
  unfold entryId
  rw [text]
  change Except.ok (truncate 16 (String.ofList (List.replicate 64 'a'))) = _
  simp [truncate]

theorem sample_new : newEntry sampleWorld sampleRequest sampleTime sampleTime = .ok sampleEntry := by
  have deadline : deadlineAfter sampleWorld sampleTime = .ok (sampleTime + 14400000000) := by decide
  have summary : payloadSummary sampleRequest.payload = .ok (.str "",.str "") := rfl
  unfold newEntry
  rw [show entryId sampleWorld sampleRequest.payload = _ from sample_id,deadline,summary]
  rfl

theorem sample_enqueued (state : State) : after sampleWorld state (.enqueue sampleRequest sampleTime sampleTime) =
    ⟨state.queue ++ [sampleEntry],state.requests ++ [sampleRequest],sampleTime⟩ := by
  unfold after enqueue
  dsimp only
  rw [sample_new]
  rfl

theorem sample_reviewed (decision : Review) (now : Int) :
    review sampleEntry.entryId decision now [sampleEntry] = ([reviewed decision now sampleEntry],some (reviewed decision now sampleEntry)) := by
  unfold review
  rw [if_pos ⟨rfl,rfl⟩]

theorem sample_present (decision : Review) (now : Int) : reviewed decision now sampleEntry ∈
    (after sampleWorld ⟨[sampleEntry],[sampleRequest],sampleTime⟩ (.review sampleEntry.entryId decision now)).queue := by
  unfold after
  dsimp only
  rw [sample_reviewed]
  exact List.mem_singleton_self _

theorem sample_first (met : ∀ request, meets ⟨[],[],sampleTime⟩ (.enqueue request sampleTime sampleTime)) :
    Reached sampleWorld meets ⟨[sampleEntry],[sampleRequest],sampleTime⟩ := by
  have start : Path sampleWorld meets ⟨[],[],sampleTime⟩ ⟨[],[],sampleTime⟩ := Path.refl
  have step := start.step
    ⟨by simp [Call.readings],by simp [Call.readings,sampleTime,show maxInstant = 315537897600000000 by decide]⟩ (met sampleRequest)
  rw [sample_enqueued] at step
  exact ⟨sampleTime,by decide,step⟩

theorem equal_payloads_and_late_approval : (∃ state, Reached sampleWorld (fun _ _ => True) state ∧ ¬Individual sampleWorld state) ∧
      ∃ state, Reached sampleWorld (fun _ _ => True) state ∧ ∃ entry ∈ state.queue, ¬InTime entry := by
  obtain ⟨clock,start,path⟩ : Reached sampleWorld (fun _ _ => True) _ := sample_first fun _ => trivial
  constructor
  · have step := @Path.step _ _ _ _ (.enqueue sampleRequest sampleTime sampleTime) path ⟨by simp [Call.readings],
      by simp [Call.readings,sampleTime,show maxInstant = 315537897600000000 by decide]⟩ trivial
    rw [sample_enqueued] at step
    refine ⟨_,⟨clock,start,step⟩,?_⟩
    intro individual
    have distinct := individual.distinct
    simp at distinct
  · have step := @Path.step _ _ _ _ (.review sampleEntry.entryId ⟨true,"reviewer",""⟩ (sampleTime + 14400000000)) path
      ⟨by simp [Call.readings],by simp [Call.readings,sampleTime,show maxInstant = 315537897600000000 by decide]⟩ trivial
    refine ⟨_,⟨clock,start,step⟩,reviewed ⟨true,"reviewer",""⟩ (sampleTime + 14400000000) sampleEntry,?_,?_⟩
    · exact sample_present _ _
    · intro inTime
      obtain ⟨text,decided,deadline,shown,first,second,early⟩ := inTime rfl
      obtain rfl := Option.some.inj shown
      have read : ReadAs (utcText (sampleTime + 14400000000)) (sampleTime + 14400000000) := utcText_read (by decide) (by decide)
      rw [← readAs_unique read first,← readAs_unique read second] at early
      exact lt_irrefl _ early

theorem reviews_individual_sample : ∃ later, Individual sampleWorld later ∧ Continues [sampleEntry] later.queue ∧
    (∀ entry ∈ later.queue, InTime entry) ∧ ∃ entry ∈ later.queue, entry.status = .approved := by
  have reached : Reached sampleWorld (Met sampleWorld) _ := sample_first fun _ _ listed => by cases listed
  have met : Met sampleWorld ⟨[sampleEntry],[sampleRequest],sampleTime⟩ (.review sampleEntry.entryId ⟨true,"reviewer",""⟩ sampleTime) := by
    intro _ entry present _ _ deadline read
    obtain rfl := List.mem_singleton.mp present
    rw [sample_deadline] at read
    rw [← readAs_unique (utcText_read (by decide) (by decide)) read]
    decide
  have start : Path sampleWorld (Met sampleWorld) ⟨[sampleEntry],[sampleRequest],sampleTime⟩ ⟨[sampleEntry],[sampleRequest],sampleTime⟩ := Path.refl
  have path := start.step
    ⟨by simp [Call.readings],by simp [Call.readings,sampleTime,show maxInstant = 315537897600000000 by decide]⟩ met
  obtain ⟨individual,continues,inTime⟩ := reviews_individual_final_inTime reached path
  exact ⟨_,individual,continues,inTime,reviewed ⟨true,"reviewer",""⟩ sampleTime sampleEntry,sample_present _ _,rfl⟩

end VeritasOs.HumanReview
