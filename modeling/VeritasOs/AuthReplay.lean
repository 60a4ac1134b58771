import Mathlib.Data.NNRat.Floor
import Mathlib.Tactic.Linarith
import VeritasOs.ExpiringStore
import VeritasOs.PolicyBundle

namespace VeritasOs.AuthReplay
open Text Posture PolicyBundle ExpiringStore

-- int(text): one underscore may stand between two digits. In the Latin-1 of a header
-- the decimal digits are those of ASCII.
def intDigits : Bool → List Char → Option (List Char)
  | afterDigit,[] => if afterDigit then some [] else none
  | afterDigit,c :: rest =>
    if c = '_' then (if afterDigit then intDigits false rest else none)
    else if c.isDigit then (intDigits true rest).map (c :: ·)
    else none

def parseNat (chars : List Char) : Option Nat :=
  match intDigits false chars with
  | none => none
  | some digits => if digits.length ≤ 4300 then some (Nat.ofDigitChars 10 digits 0) else none

def parseInt (text : String) : Option Int :=
  match (strip text).toList with
  | '-' :: rest => (parseNat rest).map fun n => -(n : Int)
  | '+' :: rest => (parseNat rest).map Int.ofNat
  | chars => (parseNat chars).map Int.ofNat

-- An HTTPException with the reason it is counted under, or what else was raised.
inductive Refusal where
  | http (status : Nat) (detail : String) (reason : Option String)
  | raised (error : Exc)
deriving DecidableEq

def unauthorized (detail reason : String) : Refusal := .http 401 detail (some reason)

def placeholderSecret : String := "YOUR_VERITAS_API_SECRET_HERE"

structure Config where
  env : Env
  -- API_SECRET of the server module and of this one; empty when it is not set.
  serverSecret : String
  apiSecret : String
  hmac : String → String → String
  nonceTtlSec : Int
  nonceMaxLength : Int
  nonceMax : Int
  serverNonceMax : Option Int

def Config.secret (config : Config) : String :=
  if config.serverSecret ≠ "" then config.serverSecret
  else if config.apiSecret ≠ "" then config.apiSecret
  else
    let envSecret := strip ((config.env "VERITAS_API_SECRET").getD "")
    if envSecret = placeholderSecret then "" else envSecret

def sanitizeNonceMax (config : Config) (value : Int) : Int :=
  if 0 < value then value else if 0 < config.nonceMax then config.nonceMax else 5000

def effectiveNonceMax (config : Config) : Nat := (sanitizeNonceMax config (config.serverNonceMax.getD config.nonceMax)).toNat

structure Call where
  apiKey : Option String
  timestamp : Option String
  nonce : Option String
  signature : Option String
  veritasTimestamp : Option String
  veritasNonce : Option String
  veritasSignature : Option String
  body : Bytes

def headerOrNone (value : Option String) : Option String :=
  value.bind fun text => if strip text = "" then none else some (strip text)

def isNonceShapeValid (config : Config) (nonce : String) : Bool :=
  strip nonce ≠ "" ∧ ((strip nonce).toList.length : Int) ≤ config.nonceMaxLength

structure Signed where
  timestamp : Int
  nonce : String
  body : String
  signature : String
deriving DecidableEq

-- The clock reads a time since 1970, so int() is its floor.
def inRange (config : Config) (checked : ℚ≥0) (timestamp : Int) : Bool :=
  decide (|(⌊checked⌋₊ : Int) - timestamp| ≤ config.nonceTtlSec)

def authHeaders (call : Call) : Option (String × String × String) := do
  let _ ← headerOrNone call.apiKey
  let timestamp ← (headerOrNone call.veritasTimestamp).or (headerOrNone call.timestamp)
  let nonce ← (headerOrNone call.veritasNonce).or (headerOrNone call.nonce)
  let signature ← (headerOrNone call.veritasSignature).or (headerOrNone call.signature)
  return (timestamp,nonce,signature)

def checkMac (config : Config) (timestamp : Int) (nonce signature : String) (body : Bytes) : Except Refusal Signed :=
  match body with
  | .raw _ => .error (.http 400 "Request body is not valid UTF-8" (some "signature_invalid_utf8_body"))
  | .text body =>
    let payload := intStr timestamp ++ "\n" ++ nonce ++ "\n" ++ body
    let mac := lower (config.hmac config.secret payload)
    match compareDigest mac (lower signature) with
    | .error error => .error (.raised error)
    | .ok false => .error (unauthorized "Invalid signature" "signature_invalid")
    | .ok true => .ok ⟨timestamp,nonce,body,signature⟩

-- All up to the nonce; the clock is read for the timestamp.
def readRequest (config : Config) (call : Call) (checked : ℚ≥0) : Except Refusal Signed :=
  if config.secret = "" then .error (.http 500 "Server secret missing" none)
  else
    match authHeaders call with
    | none => .error (unauthorized "Missing auth headers" "signature_missing_headers")
    | some (timestamp,nonce,signature) =>
      match parseInt timestamp with
      | none => .error (unauthorized "Invalid timestamp" "signature_invalid_timestamp")
      | some timestamp =>
        if !inRange config checked timestamp then
          .error (unauthorized "Timestamp out of range" "signature_timestamp_out_of_range")
        else if !isNonceShapeValid config nonce then .error (unauthorized "Invalid nonce" "signature_invalid_nonce")
        else checkMac config timestamp nonce signature call.body

-- The readings of the clock in one call: for the timestamp, and, with the lock held, for
-- the cleanup and for the nonce. Between the first and the others the body is awaited.
structure Readings where
  checked : ℚ≥0
  cleaned : ℚ≥0
  stored : ℚ≥0
  checked_first : checked ≤ cleaned
  stored_last : cleaned ≤ stored

abbrev NonceStore := Store String ℚ

def cleanupNonces (config : Config) (now : ℚ≥0) (store : NonceStore) : NonceStore :=
  clean (effectiveNonceMax config) (now : ℚ) store

def registerNonce (config : Config) (nonce : String) (readings : Readings) (store : NonceStore) : Bool × NonceStore :=
  register (effectiveNonceMax config) (readings.cleaned : ℚ) (readings.stored + config.nonceTtlSec) nonce store

def checkAndRegisterNonce (config : Config) (nonce : String) (readings : Readings) (store : NonceStore) : Bool × NonceStore :=
  if config.nonceMaxLength < nonce.toList.length then (false,store) else registerNonce config nonce readings store

def verifySignature (config : Config) (call : Call) (readings : Readings) (store : NonceStore) : Except Refusal Bool × NonceStore :=
  match readRequest config call readings.checked with
  | .error refusal => (.error refusal,store)
  | .ok signed =>
    match checkAndRegisterNonce config signed.nonce readings store with
    | (true,after) => (.ok true,after)
    | (false,after) => (.error (unauthorized "Replay detected" "signature_replay_detected"),after)

-- What happens to the store, in the order in which its lock is taken. Calls may overlap:
-- the clock is read for a timestamp at any time before.
inductive Event where
  | call (call : Call) (readings : Readings)
  | cleanup (now : ℚ≥0)

def Event.enters : Event → ℚ≥0
  | .call _ readings => readings.cleaned
  | .cleanup now => now

def Event.leaves : Event → ℚ≥0
  | .call _ readings => readings.stored
  | .cleanup now => now

-- The request that a call returned True for, if it did, and the store after the event.
def stepEvent (config : Config) (event : Event) (store : NonceStore) : Option Signed × NonceStore :=
  match event with
  | .cleanup now => (none,cleanupNonces config now store)
  | .call call readings =>
    let (result,after) := verifySignature config call readings store
    ((if result = .ok true then (readRequest config call readings.checked).toOption else none),after)

def acceptedRequests (config : Config) : List Event → NonceStore → List Signed
  | [],_ => []
  | event :: rest,store =>
    let (accepted,after) := stepEvent config event store
    accepted.toList ++ acceptedRequests config rest after

def Clocked (start : ℚ≥0) : List Event → Prop
  | [] => True
  | event :: rest => start ≤ event.enters ∧ Clocked event.leaves rest

def WithinCapacity (config : Config) : List Event → NonceStore → Prop
  | [],_ => True
  | event :: rest,store => store.length ≤ effectiveNonceMax config ∧ WithinCapacity config rest (stepEvent config event store).2

instance decidableClocked : (start : ℚ≥0) → (run : List Event) → Decidable (Clocked start run)
  | _,[] => isTrue trivial
  | start,event :: rest =>
    have := decidableClocked event.leaves rest
    inferInstanceAs (Decidable (start ≤ event.enters ∧ Clocked event.leaves rest))

instance decidableWithin (config : Config) : (run : List Event) → (store : NonceStore) → Decidable (WithinCapacity config run store)
  | [],_ => isTrue trivial
  | event :: rest,store =>
    have := decidableWithin config rest (stepEvent config event store).2
    inferInstanceAs (Decidable (store.length ≤ effectiveNonceMax config ∧ WithinCapacity config rest (stepEvent config event store).2))

-- The timestamp is a second old when the nonce is stored, and not out of range by more
-- than a second when it is looked for.
structure TimelyAt (config : Config) (timestamp : Int) (readings : Readings) : Prop where
  old : (timestamp : ℚ) + 1 ≤ readings.stored
  inTime : (readings.cleaned : ℚ) ≤ timestamp + config.nonceTtlSec + 1

def Timely (config : Config) : Event → Prop
  | .cleanup _ => True
  | .call call readings => ∀ signed, readRequest config call readings.checked = .ok signed → TimelyAt config signed.timestamp readings

section Steps
variable {config : Config}

theorem checkMac_timestamp (checked : checkMac config timestamp nonce signature body = .ok signed) : signed.timestamp = timestamp := by
  unfold checkMac at checked
  split at checked
  · cases checked
  · dsimp only at checked
    split at checked
    · cases checked
    · cases checked
    · cases checked
      rfl

variable {call : Call} {readings : Readings}

theorem readRequest_again (read : readRequest config call checked = .ok signed) : inRange config checked signed.timestamp = true ∧
      ∀ other, inRange config other signed.timestamp = true → readRequest config call other = .ok signed := by
  unfold readRequest at read ⊢
  split at read
  · cases read
  · rename_i secret
    split at read
    · cases read
    · rename_i timestamp nonce signature headers
      split at read
      · cases read
      · rename_i ts parsed
        split at read
        · cases read
        · rename_i range
          split at read
          · cases read
          · rename_i shape
            have same := checkMac_timestamp read
            refine ⟨by simpa [same] using range,fun other inside => ?_⟩
            rw [same] at inside
            simp only [secret,inside,shape,if_false,Bool.not_true,Bool.false_eq_true]
            exact read

theorem verifySignature_cases (store : NonceStore) (read : readRequest config call readings.checked = .ok signed)
    (short : ¬config.nonceMaxLength < signed.nonce.toList.length) :
    ((verifySignature config call readings store).1 = .ok true ↔ (registerNonce config signed.nonce readings store).1 = true) ∧
      (verifySignature config call readings store).2 = (registerNonce config signed.nonce readings store).2 := by
  rw [verifySignature,read]
  dsimp only
  rw [checkAndRegisterNonce,if_neg short]
  rcases registerNonce config signed.nonce readings store with ⟨_ | _,after⟩ <;> simp

variable (config) in
theorem stepEvent_cases (event : Event) (store : NonceStore) : (stepEvent config event store = (none,store)) ∨
    (∃ now, event = .cleanup now ∧ stepEvent config event store = (none,cleanupNonces config now store)) ∨
    ∃ call readings signed, event = .call call readings ∧ readRequest config call readings.checked = .ok signed ∧
      stepEvent config event store =
        ((if (registerNonce config signed.nonce readings store).1 = true then some signed else none),(registerNonce config signed.nonce readings store).2) := by
  cases event with
  | cleanup now => exact .inr (.inl ⟨now,rfl,rfl⟩)
  | call call readings =>
    cases read : readRequest config call readings.checked with
    | error refusal =>
      refine .inl ?_
      simp [stepEvent,verifySignature,read]
    | ok signed =>
      by_cases long : config.nonceMaxLength < signed.nonce.toList.length
      · refine .inl ?_
        simp [stepEvent,verifySignature,read,checkAndRegisterNonce,long]
      · refine .inr (.inr ⟨call,readings,signed,rfl,read,?_⟩)
        obtain ⟨answer,left⟩ := verifySignature_cases store read long
        simp only [stepEvent,answer,left,read]
        rfl

-- The nonce of an accepted request is remembered as long as the request is in time.
def Remembered (config : Config) (now : ℚ≥0) (store : NonceStore) (signed : Signed) : Prop :=
  (signed.timestamp + config.nonceTtlSec + 1 : ℚ) < now ∨
    ∃ until_, (signed.nonce,until_) ∈ store ∧ (signed.timestamp + config.nonceTtlSec + 1 : ℚ) ≤ until_

variable {event : Event} {store : NonceStore} {now : ℚ≥0} {signed : Signed}

theorem Event.enters_leaves (event : Event) : event.enters ≤ event.leaves := by
  cases event with
  | call call readings => exact readings.stored_last
  | cleanup now => exact le_refl now

theorem Remembered.step (room : store.length ≤ effectiveNonceMax config) (clock : now ≤ event.enters) (past : Remembered config now store signed) :
    Remembered config event.leaves (stepEvent config event store).2 signed := by
  have onward : (now : ℚ) ≤ event.enters := NNRat.coe_le_coe.mpr clock
  have spent : (event.enters : ℚ) ≤ event.leaves := NNRat.coe_le_coe.mpr event.enters_leaves
  rcases past with ended | ⟨until_,listed,long⟩
  · exact .inl (by linarith)
  · by_cases early : (event.enters : ℚ) ≤ until_
    · refine .inr ⟨until_,?_,long⟩
      rcases stepEvent_cases config event store with unchanged | ⟨time,rfl,cleaned⟩ | ⟨call,readings,other,rfl,_,stepped⟩
      · rw [unchanged]
        exact listed
      · rw [cleaned]
        exact clean_keeps room listed early
      · rw [stepped]
        exact register_keeps room listed early
    · exact .inl (by linarith)

theorem Remembered.refused (room : store.length ≤ effectiveNonceMax config) (clock : now ≤ event.enters) (timely : Timely config event)
    (past : Remembered config now store signed) : (stepEvent config event store).1 ≠ some signed := by
  intro accepted
  rcases stepEvent_cases config event store with unchanged | ⟨time,rfl,cleaned⟩ | ⟨call,readings,other,rfl,read,stepped⟩
  · rw [unchanged] at accepted
    cases accepted
  · rw [cleaned] at accepted
    cases accepted
  · rw [stepped] at accepted
    have inTime := (timely other read).inTime
    have onward : (now : ℚ) ≤ readings.cleaned := NNRat.coe_le_coe.mpr clock
    split at accepted
    · rename_i registered
      obtain rfl : other = signed := Option.some.inj accepted
      rcases past with ended | ⟨until_,listed,long⟩
      · linarith
      · have known : (registerNonce config other.nonce readings store).1 = false := register_known room listed (inTime.trans long)
        exact Bool.false_ne_true (known.symm.trans registered)
    · cases accepted

theorem accepted_remembered (timely : Timely config event) (accepted : (stepEvent config event store).1 = some signed) :
    Remembered config event.leaves (stepEvent config event store).2 signed := by
  rcases stepEvent_cases config event store with unchanged | ⟨time,rfl,cleaned⟩ | ⟨call,readings,other,rfl,read,stepped⟩
  · rw [unchanged] at accepted
    cases accepted
  · rw [cleaned] at accepted
    cases accepted
  · rw [stepped] at accepted ⊢
    have old := (timely other read).old
    split at accepted
    · rename_i registered
      obtain rfl : other = signed := Option.some.inj accepted
      refine .inr ⟨_,register_listed registered,?_⟩
      linarith
    · cases accepted

theorem run_fresh {run : List Event} {past : List Signed} (clock : Clocked now run) (room : WithinCapacity config run store)
    (timely : ∀ event ∈ run, Timely config event) (remembered : ∀ signed ∈ past, Remembered config now store signed) :
    (∀ signed ∈ past, signed ∉ acceptedRequests config run store) ∧ (acceptedRequests config run store).Nodup := by
  induction run generalizing now store past with
  | nil => exact ⟨fun _ _ => List.not_mem_nil,List.nodup_nil⟩
  | cons event rest ih =>
    obtain ⟨here,later⟩ := clock
    obtain ⟨space,onward⟩ := room
    obtain ⟨first,others⟩ := List.forall_mem_cons.mp timely
    have carried : ∀ signed ∈ past ++ (stepEvent config event store).1.toList,
        Remembered config event.leaves (stepEvent config event store).2 signed := by
      intro signed listed
      rcases List.mem_append.mp listed with old | new
      · exact (remembered signed old).step space here
      · exact accepted_remembered first (Option.mem_toList.mp new)
    obtain ⟨unrepeated,single⟩ := ih later onward others carried
    refine ⟨fun signed listed => ?_,?_⟩
    · rw [acceptedRequests,List.mem_append,not_or]
      refine ⟨fun again => ?_,unrepeated signed (List.mem_append_left _ listed)⟩
      exact (remembered signed listed).refused space here first (Option.mem_toList.mp again)
    · rw [acceptedRequests]
      refine List.nodup_append'.mpr ⟨?_,single,fun signed new => ?_⟩
      · exact Option.toList_nodup _
      · exact unrepeated signed (List.mem_append_right _ new)

theorem floor_le_of_lt {time : ℚ≥0} {bound : Int} (before : (time : ℚ) < bound + 1) : (⌊time⌋₊ : Int) ≤ bound := by
  rw [NNRat.coe_floor,← Int.lt_add_one_iff,Int.floor_lt]
  push_cast
  exact before

theorem forgotten_in_range {timestamp : Int} (range : inRange config readings.checked timestamp = true)
    (young : (readings.stored : ℚ) < timestamp + 1) :
    ∃ later : ℚ≥0, readings.stored ≤ later ∧ (readings.stored : ℚ) + config.nonceTtlSec < later ∧ inRange config later timestamp = true := by
  have bounds := abs_le.mp (of_decide_eq_true range)
  have ttl : (0 : ℚ) ≤ config.nonceTtlSec := Int.cast_nonneg (by omega)
  have start : (0 : ℚ) ≤ readings.stored := readings.stored.coe_nonneg
  obtain ⟨time,after,before⟩ := exists_between (show (readings.stored : ℚ) + config.nonceTtlSec < timestamp + config.nonceTtlSec + 1 by linarith)
  obtain ⟨later,rfl⟩ : ∃ later : ℚ≥0, (later : ℚ) = time := ⟨⟨time,by linarith⟩,rfl⟩
  have onward : readings.stored ≤ later := NNRat.coe_le_coe.mp (by linarith)
  have floors := Nat.floor_mono (readings.checked_first.trans (readings.stored_last.trans onward))
  have last : (⌊later⌋₊ : Int) ≤ timestamp + config.nonceTtlSec := floor_le_of_lt (by push_cast; exact before)
  exact ⟨later,onward,after,decide_eq_true (abs_le.mpr ⟨by omega,by omega⟩)⟩

theorem accepted_short (read : readRequest config call readings.checked = .ok signed)
    (accepted : (verifySignature config call readings store).1 = .ok true) : ¬config.nonceMaxLength < signed.nonce.toList.length := by
  intro long
  simp [verifySignature,read,checkAndRegisterNonce,long] at accepted

theorem young_replayed (read : readRequest config call readings.checked = .ok signed)
    (accepted : (verifySignature config call readings store).1 = .ok true)
    (room : (verifySignature config call readings store).2.length ≤ effectiveNonceMax config)
    (young : (readings.stored : ℚ) < signed.timestamp + 1) :
    ∃ again : Readings, readings.stored ≤ again.checked ∧ acceptedRequests config [.call call readings,.call call again] store = [signed,signed] := by
  obtain ⟨range,reread⟩ := readRequest_again read
  obtain ⟨later,onward,ended,inside⟩ := forgotten_in_range range young
  have short := accepted_short read accepted
  obtain ⟨answer,left⟩ := verifySignature_cases store read short
  have registered := answer.mp accepted
  rw [left] at room
  obtain ⟨again,rfl,cleaned⟩ : ∃ again : Readings, again.checked = later ∧ again.cleaned = later :=
    ⟨⟨later,later,later,le_refl _,le_refl _⟩,rfl,rfl⟩
  have second := reread again.checked inside
  have forgotten : (registerNonce config signed.nonce again (registerNonce config signed.nonce readings store).2).1 = true := by
    unfold registerNonce at registered room ⊢
    rw [cleaned]
    exact register_again registered room ended
  have repeated : (verifySignature config call again (verifySignature config call readings store).2).1 = .ok true := by
    rw [left]
    exact (verifySignature_cases _ second short).1.mpr forgotten
  refine ⟨again,onward,?_⟩
  simp [acceptedRequests,stepEvent,accepted,repeated,read,second,Except.toOption]

end Steps

theorem accepted_once_exact (config : Config) :
    (∀ run : List Event, Clocked 0 run → WithinCapacity config run [] → (∀ event ∈ run, Timely config event) →
      (acceptedRequests config run []).Nodup) ∧
    ∀ (store : NonceStore) (call : Call) (readings : Readings) (signed : Signed), readRequest config call readings.checked = .ok signed →
      (verifySignature config call readings store).1 = .ok true →
      (verifySignature config call readings store).2.length ≤ effectiveNonceMax config → (readings.stored : ℚ) < signed.timestamp + 1 →
      ∃ again : Readings, readings.stored ≤ again.checked ∧ ¬(acceptedRequests config [.call call readings,.call call again] store).Nodup := by
  constructor
  · intro run clock room timely
    have before : ∀ signed ∈ ([] : List Signed), Remembered config 0 [] signed := fun _ listed => absurd listed List.not_mem_nil
    exact (run_fresh clock room timely before).2
  · intro store call readings signed read accepted room young
    obtain ⟨again,onward,twice⟩ := young_replayed read accepted room young
    exact ⟨again,onward,by simp [twice]⟩

def sampleConfig : Config where
  env := fun _ => none
  serverSecret := ""
  apiSecret := "k"
  hmac := fun secret payload => secret ++ payload
  nonceTtlSec := 300
  nonceMaxLength := 256
  nonceMax := 5000
  serverNonceMax := none

def sampleCall (timestamp nonce : String) : Call where
  apiKey := some "key"
  timestamp := some timestamp
  nonce := some nonce
  signature := some ("k" ++ timestamp ++ "\n" ++ nonce ++ "\nbody")
  veritasTimestamp := none
  veritasNonce := none
  veritasSignature := none
  body := .text "body"

def momentary (time : ℚ≥0) : Readings := ⟨time,time,time,le_refl _,le_refl _⟩

def replayRun : List Event := [.call (sampleCall "1300" "n1") (momentary 1000),.call (sampleCall "1300" "n1") (momentary 1301)]

-- A timestamp ahead of the clock outlives its nonce.
theorem future_request_accepted_twice :
    Clocked 0 replayRun ∧ WithinCapacity sampleConfig replayRun [] ∧ ¬(acceptedRequests sampleConfig replayRun []).Nodup := by
  decide +kernel

def timelyRun : List Event :=
  [.call (sampleCall "999" "n1") (momentary 1000),.cleanup 1200,.call (sampleCall "999" "n1") (momentary 1299)]

def timelyRequest : Signed := ⟨999,"n1","body","k999\nn1\nbody"⟩

theorem timelyRun_timely : ∀ event ∈ timelyRun, Timely sampleConfig event := by
  have call : ∀ time : ℚ≥0, readRequest sampleConfig (sampleCall "999" "n1") time = .ok timelyRequest →
      TimelyAt sampleConfig 999 (momentary time) → Timely sampleConfig (.call (sampleCall "999" "n1") (momentary time)) := by
    intro time known timely signed read
    obtain rfl : timelyRequest = signed := Except.ok.inj (known.symm.trans read)
    exact timely
  intro event listed
  simp only [timelyRun,List.mem_cons,List.not_mem_nil,or_false] at listed
  rcases listed with rfl | rfl | rfl
  · exact call 1000 (by decide +kernel) ⟨by decide +kernel,by decide +kernel⟩
  · trivial
  · exact call 1299 (by decide +kernel) ⟨by decide +kernel,by decide +kernel⟩

theorem accepted_once_exact_sample :
    (acceptedRequests sampleConfig timelyRun []).Nodup ∧ (acceptedRequests sampleConfig timelyRun []).length = 1 :=
  ⟨(accepted_once_exact sampleConfig).1 timelyRun (by decide +kernel) (by decide +kernel) timelyRun_timely,by decide +kernel⟩

end VeritasOs.AuthReplay
