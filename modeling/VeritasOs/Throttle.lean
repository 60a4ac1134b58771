import Mathlib.Data.List.Nodup
import Mathlib.Algebra.Order.Ring.Rat
import Mathlib.Tactic.Linarith

namespace VeritasOs.Throttle

-- The calls of a key in its window, and when the window began.
abbrev Entry := Nat × ℚ

-- A dictionary, in the order of insertion.
abbrev Bucket := List (String × Entry)

def entryOf (key : String) : Bucket → Option Entry
  | [] => none
  | (other,entry) :: rest => if other = key then some entry else entryOf key rest

def put (key : String) (entry : Entry) : Bucket → Bucket
  | [] => [(key,entry)]
  | (other,old) :: rest => if other = key then (key,entry) :: rest else (other,old) :: put key entry rest

def authFailRateLimit : Nat := 10
def authFailWindow : ℚ := 60
def authFailBucketMax : Nat := 10000
def rateLimit : Nat := 60
def rateWindow : ℚ := 60
def rateBucketMax : Nat := 5000

def cleanupBucket (window : ℚ) (bucketMax : Nat) (now : ℚ) (bucket : Bucket) : Bucket :=
  let kept := bucket.filter fun item => decide (now - item.2.2 ≤ window * 4)
  kept.drop (kept.length - bucketMax)

def countCall (key : String) (limit : Nat) (windowSec now : ℚ) (bucket : Bucket) : Bool × Bucket :=
  let (count,start) := (entryOf key bucket).getD (0,now)
  if windowSec < now - start then (false,put key (1,now) bucket)
  else if limit < count + 1 then (true,bucket)
  else (false,put key (count + 1,start) bucket)

def incrementAuthFailure (clientIp : String) (limit : Nat) (windowSec now : ℚ) (bucket : Bucket) : Bool × Bucket :=
  countCall clientIp limit windowSec now (cleanupBucket authFailWindow authFailBucketMax now bucket)

-- The cleanup reads the clock again, with the lock held.
def incrementRateLimit (apiKey : String) (limit : Nat) (windowSec now cleaned : ℚ) (bucket : Bucket) : Bool × Bucket :=
  countCall apiKey limit windowSec now (cleanupBucket rateWindow rateBucketMax cleaned bucket)

inductive Control where
  | authFailure | rateLimit

def Control.limit : Control → Nat
  | .authFailure => authFailRateLimit
  | .rateLimit => Throttle.rateLimit

def Control.window : Control → ℚ
  | .authFailure => authFailWindow
  | .rateLimit => rateWindow

def Control.bucketMax : Control → Nat
  | .authFailure => authFailBucketMax
  | .rateLimit => rateBucketMax

structure Call where
  key : String
  now : ℚ
  cleaned : ℚ
  cleaned_last : now ≤ cleaned

def increment : Control → Call → Bucket → Bool × Bucket
  | .authFailure,call,bucket => incrementAuthFailure call.key authFailRateLimit authFailWindow call.now bucket
  | .rateLimit,call,bucket => incrementRateLimit call.key rateLimit rateWindow call.now call.cleaned bucket

structure Answer where
  key : String
  now : ℚ
  exceeded : Bool

def answers (control : Control) : List Call → Bucket → List Answer
  | [],_ => []
  | call :: rest,bucket =>
    let (exceeded,after) := increment control call bucket
    ⟨call.key,call.now,exceeded⟩ :: answers control rest after

def Clocked (clock : ℚ) : List Call → Prop
  | [] => True
  | call :: rest => clock ≤ call.now ∧ Clocked call.cleaned rest

def WithinCapacity (control : Control) : List Call → Bucket → Prop
  | [],_ => True
  | call :: rest,bucket => bucket.length ≤ control.bucketMax ∧ WithinCapacity control rest (increment control call bucket).2

-- The calls of a key that returned False between two times.
def passed (key : String) (first last : ℚ) (answered : List Answer) : Nat :=
  answered.countP fun answer => decide (answer.key = key ∧ answer.exceeded = false ∧ first ≤ answer.now ∧ answer.now ≤ last)

-- What a call does to the entry of its key, and a cleanup to every entry.
def tick (limit : Nat) (window now : ℚ) (entry : Option Entry) : Bool × Option Entry :=
  let (count,start) := entry.getD (0,now)
  if window < now - start then (false,some (1,now))
  else if limit < count + 1 then (true,entry)
  else (false,some (count + 1,start))

def sweep (window now : ℚ) (entry : Option Entry) : Option Entry :=
  entry.filter fun item => decide (now - item.2 ≤ window * 4)

theorem entryOf_absent (absent : key ∉ bucket.map Prod.fst) : entryOf key bucket = none := by
  induction bucket with
  | nil => rfl
  | cons head rest ih =>
    obtain ⟨other,entry⟩ := head
    obtain ⟨differ,later⟩ := List.ne_and_not_mem_of_not_mem_cons absent
    rw [entryOf,if_neg (Ne.symm differ),ih later]

theorem entryOf_filter (distinct : (bucket.map Prod.fst).Nodup) (keep : Entry → Bool) (key : String) :
    entryOf key (bucket.filter fun item => keep item.2) = (entryOf key bucket).filter keep := by
  induction bucket with
  | nil => rfl
  | cons head rest ih =>
    obtain ⟨other,entry⟩ := head
    obtain ⟨new,distinct⟩ := List.nodup_cons.mp distinct
    have later := ih distinct
    by_cases same : other = key
    · subst same
      by_cases kept : keep entry = true
      · simp [entryOf,kept,Option.filter]
      · simp [entryOf,kept,Option.filter,later,entryOf_absent new]
    · by_cases kept : keep entry = true
      · simp [entryOf,kept,same,later]
      · simp [entryOf,kept,same,later]

theorem entryOf_put (key wanted : String) (entry : Entry) (bucket : Bucket) :
    entryOf wanted (put key entry bucket) = if wanted = key then some entry else entryOf wanted bucket := by
  induction bucket with
  | nil =>
    by_cases same : wanted = key
    · simp [put,entryOf,same]
    · simp [put,entryOf,same,Ne.symm same]
  | cons head rest ih =>
    obtain ⟨other,old⟩ := head
    by_cases here : other = key
    · subst here
      by_cases same : wanted = other
      · simp [put,entryOf,same]
      · simp [put,entryOf,same,Ne.symm same]
    · rw [put,if_neg here,entryOf,ih,entryOf]
      by_cases same : other = wanted
      · subst same
        simp [here]
      · simp [same]

theorem put_keys (key : String) (entry : Entry) (bucket : Bucket) :
    (put key entry bucket).map Prod.fst = if key ∈ bucket.map Prod.fst then bucket.map Prod.fst else bucket.map Prod.fst ++ [key] := by
  induction bucket with
  | nil => rfl
  | cons head rest ih =>
    obtain ⟨other,old⟩ := head
    by_cases here : other = key
    · simp [put,here]
    · rw [put,if_neg here,List.map_cons,ih]
      have others : key ∈ ((other,old) :: rest).map Prod.fst ↔ key ∈ rest.map Prod.fst := by simp [Ne.symm here]
      by_cases known : key ∈ rest.map Prod.fst
      · rw [if_pos known,if_pos (others.mpr known)]
        rfl
      · rw [if_neg known,if_neg fun listed => known (others.mp listed)]
        rfl

theorem put_distinct (distinct : (bucket.map Prod.fst).Nodup) (key : String) (entry : Entry) :
    ((put key entry bucket).map Prod.fst).Nodup := by
  rw [put_keys]
  split
  · exact distinct
  · rename_i new
    exact List.nodup_append.mpr ⟨distinct,List.nodup_singleton key,fun other listed one single => by
      rintro rfl
      exact new (List.mem_singleton.mp single ▸ listed)⟩

theorem cleanupBucket_within (room : bucket.length ≤ bucketMax) (window now : ℚ) :
    cleanupBucket window bucketMax now bucket = bucket.filter fun item => decide (now - item.2.2 ≤ window * 4) := by
  have few := (List.length_filter_le (fun item : String × Entry => decide (now - item.2.2 ≤ window * 4)) bucket).trans room
  simp only [cleanupBucket,Nat.sub_eq_zero_of_le few,List.drop_zero]

theorem increment_counts (control : Control) (call : Call) (bucket : Bucket) :
    ∃ swept, call.now ≤ swept ∧ swept ≤ call.cleaned ∧ increment control call bucket =
      countCall call.key control.limit control.window call.now (cleanupBucket control.window control.bucketMax swept bucket) := by
  cases control with
  | authFailure => exact ⟨call.now,le_refl _,call.cleaned_last,rfl⟩
  | rateLimit => exact ⟨call.cleaned,call.cleaned_last,le_refl _,rfl⟩

theorem countCall_cases (key : String) (limit : Nat) (window now : ℚ) (bucket : Bucket) :
    (countCall key limit window now bucket).1 = (tick limit window now (entryOf key bucket)).1 ∧
      (∀ other, entryOf other (countCall key limit window now bucket).2 =
        if other = key then (tick limit window now (entryOf key bucket)).2 else entryOf other bucket) ∧
      ((bucket.map Prod.fst).Nodup → ((countCall key limit window now bucket).2.map Prod.fst).Nodup) := by
  unfold countCall tick
  rcases (entryOf key bucket).getD (0,now) with ⟨count,start⟩
  dsimp only
  split
  · exact ⟨rfl,fun other => entryOf_put key other _ bucket,fun distinct => put_distinct distinct key _⟩
  · split
    · refine ⟨rfl,fun other => ?_,id⟩
      split
      · rename_i same
        rw [same]
      · rfl
    · exact ⟨rfl,fun other => entryOf_put key other _ bucket,fun distinct => put_distinct distinct key _⟩

-- All that one call does: to its answer, to the entry of its key and to the others.
theorem increment_cases (control : Control) (call : Call) (distinct : (bucket.map Prod.fst).Nodup)
    (room : bucket.length ≤ control.bucketMax) : ∃ swept, call.now ≤ swept ∧ swept ≤ call.cleaned ∧ (increment control call bucket).1 =
        (tick control.limit control.window call.now (sweep control.window swept (entryOf call.key bucket))).1 ∧
      (∀ other, entryOf other (increment control call bucket).2 =
        if other = call.key then (tick control.limit control.window call.now (sweep control.window swept (entryOf call.key bucket))).2
        else sweep control.window swept (entryOf other bucket)) ∧ ((increment control call bucket).2.map Prod.fst).Nodup := by
  obtain ⟨swept,early,late,same⟩ := increment_counts control call bucket
  obtain ⟨answer,entries,kept⟩ := countCall_cases call.key control.limit control.window call.now
    (cleanupBucket control.window control.bucketMax swept bucket)
  have cleaned : ∀ other, entryOf other (cleanupBucket control.window control.bucketMax swept bucket) =
      sweep control.window swept (entryOf other bucket) := by
    intro other
    rw [cleanupBucket_within room]
    exact entryOf_filter distinct (fun item => decide (swept - item.2 ≤ control.window * 4)) other
  refine ⟨swept,early,late,?_,?_,?_⟩
  · rw [same,answer,cleaned]
  · intro other
    rw [same,entries,cleaned,cleaned]
  · rw [same]
    refine kept ?_
    rw [cleanupBucket_within room]
    exact distinct.sublist (List.filter_sublist.map _)

-- A window that begins before the interval gives it all its calls but the first; of those
-- that begin in it only the last can go on, unless the clock is past the interval.
def Tracks (limit : Nat) (window first clock : ℚ) (count : Nat) : Option Entry → Prop
  | none => count = 0 ∨ first + window < clock ∧ count ≤ 2 * limit
  | some (calls,start) => start ≤ clock ∧ 1 ≤ calls ∧ calls ≤ limit ∧ (count = 0 ∨ first ≤ start + window) ∧
      (start < first ∧ count + 1 ≤ calls ∨ first ≤ start ∧ count + 1 ≤ limit + calls ∨ first + window < clock ∧ count ≤ 2 * limit)

def inside (first window now : ℚ) (exceeded : Bool) : Nat := if exceeded = false ∧ first ≤ now ∧ now ≤ first + window then 1 else 0

section Window
variable {limit : Nat} {window first clock now swept : ℚ} {count : Nat} {entry : Option Entry}

theorem Tracks.few (tracked : Tracks limit window first clock count entry) : count ≤ 2 * limit := by
  cases entry with
  | none =>
    rcases tracked with none_ | ⟨_,few⟩
    · omega
    · exact few
  | some item =>
    obtain ⟨_,_,within,_,⟨_,few⟩ | ⟨_,few⟩ | ⟨_,few⟩⟩ := tracked
    · omega
    · omega
    · exact few

theorem Tracks.later (onward : clock ≤ swept) (tracked : Tracks limit window first clock count entry) :
    Tracks limit window first swept count entry := by
  cases entry with
  | none =>
    exact tracked.imp_right fun past => ⟨past.1.trans_le onward,past.2⟩
  | some item =>
    obtain ⟨begun,some_,within,near,place⟩ := tracked
    exact ⟨begun.trans onward,some_,within,near,place.imp_right (Or.imp_right fun past => ⟨past.1.trans_le onward,past.2⟩)⟩

theorem Tracks.sweep (positive : 0 < window) (clocked : clock ≤ swept) (tracked : Tracks limit window first clock count entry) :
    Tracks limit window first swept count (sweep window swept entry) := by
  have few := tracked.few
  cases entry with
  | none => exact tracked.later clocked
  | some item =>
    obtain ⟨calls,start⟩ := item
    by_cases fresh : swept - start ≤ window * 4
    · have kept : Throttle.sweep window swept (some (calls,start)) = some (calls,start) := by simp [Throttle.sweep,Option.filter,fresh]
      rw [kept]
      exact tracked.later clocked
    · obtain ⟨_,_,_,near,_⟩ := tracked
      have dropped : Throttle.sweep window swept (some (calls,start)) = none := by simp [Throttle.sweep,Option.filter,fresh]
      rw [dropped]
      rcases near with none_ | near
      · exact .inl none_
      · exact .inr ⟨by linarith,few⟩

theorem tick_kept (current : now - start ≤ window) (room : calls + 1 ≤ limit) :
    tick limit window now (some (calls,start)) = (false,some (calls + 1,start)) := by
  simp [tick,not_lt.mpr current,not_lt.mpr room]

theorem tick_full (current : now - start ≤ window) (full : limit < calls + 1) :
    tick limit window now (some (calls,start)) = (true,some (calls,start)) := by
  simp [tick,not_lt.mpr current,full]

theorem tick_late (late : window < now - start) : tick limit window now (some (calls,start)) = (false,some (1,now)) := by
  simp [tick,late]

theorem tick_none (positive : 0 < window) (some_ : 0 < limit) : tick limit window now none = (false,some (1,now)) := by
  simp [tick,not_lt.mpr positive.le,not_lt.mpr (Nat.succ_le_of_lt some_)]

-- A window begins with the call that is made.
theorem Tracks.begin (positive : 0 < window) (some_ : 0 < limit) (clocked : now ≤ swept)
    (counted : count = 0 ∨ first + window < swept ∧ count + inside first window now false ≤ 2 * limit ∨ first ≤ now ∧ count + 1 ≤ limit)
    (near : count = 0 ∨ first ≤ now + window) : Tracks limit window first swept (count + inside first window now false) (some (1,now)) := by
  refine ⟨clocked,le_refl 1,some_,?_,?_⟩
  · by_cases early : first ≤ now
    · exact .inr (by linarith)
    · rcases near with rfl | near
      · exact .inl (by simp [inside,early])
      · exact .inr near
  · by_cases early : first ≤ now
    · rcases counted with rfl | past | ⟨_,few⟩
      · refine .inr (.inl ⟨early,?_⟩)
        unfold inside
        split <;> omega
      · exact .inr (.inr past)
      · refine .inr (.inl ⟨early,?_⟩)
        unfold inside
        split <;> omega
    · rcases counted with rfl | past | ⟨after,_⟩
      · exact .inl ⟨not_le.mp early,by simp [inside,early]⟩
      · exact .inr (.inr past)
      · exact absurd after early

theorem Tracks.tick (positive : 0 < window) (some_ : 0 < limit) (clocked : clock ≤ now) (later : now ≤ swept)
    (tracked : Tracks limit window first clock count entry) : Tracks limit window first swept
      (count + inside first window now (tick limit window now (Throttle.sweep window swept entry)).1)
      (tick limit window now (Throttle.sweep window swept entry)).2 := by
  have few := tracked.few
  have gone : first + window < clock → ∀ exceeded, inside first window now exceeded = 0 := by
    intro past exceeded
    exact if_neg fun within => by linarith [within.2.2]
  cases entry with
  | none =>
    have swept_none : Throttle.sweep window swept none = none := rfl
    rw [swept_none,tick_none positive some_]
    rcases tracked with none_ | ⟨past,_⟩
    · exact Tracks.begin positive some_ later (.inl none_) (.inl none_)
    · refine Tracks.begin positive some_ later (.inr (.inl ⟨by linarith,?_⟩)) (.inr (by linarith))
      rw [gone past]
      exact few
  | some item =>
    obtain ⟨calls,start⟩ := item
    obtain ⟨begun,one,within,near,place⟩ := tracked
    have step : inside first window now false ≤ 1 := by
      unfold inside
      split <;> omega
    by_cases fresh : swept - start ≤ window * 4
    · have kept : Throttle.sweep window swept (some (calls,start)) = some (calls,start) := by simp [Throttle.sweep,Option.filter,fresh]
      rw [kept]
      by_cases late : window < now - start
      · rw [tick_late late]
        refine Tracks.begin positive some_ later ?_ (near.imp_right fun near => by linarith)
        rcases near with none_ | near
        · exact .inl none_
        · rcases place with ⟨_,few⟩ | ⟨during,few⟩ | ⟨past,few⟩
          · exact .inr (.inr ⟨by linarith,by omega⟩)
          · have out : inside first window now false = 0 := if_neg fun within => by linarith [within.2.2]
            refine .inr (.inl ⟨by linarith,?_⟩)
            omega
          · refine .inr (.inl ⟨by linarith,?_⟩)
            rw [gone past]
            exact few
      · have current := not_lt.mp late
        by_cases full : limit < calls + 1
        · rw [tick_full current full]
          have out : inside first window now true = 0 := if_neg fun within => Bool.noConfusion within.1
          rw [out]
          exact ⟨by linarith,one,within,near,place.imp_right fun place => place.imp_right fun past => ⟨by linarith [past.1],past.2⟩⟩
        · rw [tick_kept current (not_lt.mp full)]
          dsimp only
          refine ⟨by linarith,by omega,not_lt.mp full,?_,?_⟩
          · by_cases early : first ≤ now
            · exact .inr (by linarith)
            · refine near.imp_left fun none_ => ?_
              rw [none_,inside,if_neg fun within => early within.2.1]
          · rcases place with ⟨before,few⟩ | ⟨during,few⟩ | ⟨past,few⟩
            · exact .inl ⟨before,by omega⟩
            · exact .inr (.inl ⟨during,by omega⟩)
            · refine .inr (.inr ⟨by linarith,?_⟩)
              rw [gone past]
              exact few
    · have dropped : Throttle.sweep window swept (some (calls,start)) = none := by simp [Throttle.sweep,Option.filter,fresh]
      rw [dropped,tick_none positive some_]
      rcases near with none_ | near
      · exact Tracks.begin positive some_ later (.inl none_) (.inl none_)
      · -- The clock is past the interval; the call that found the entry gone is its last.
        by_cases past : first + window < clock
        · refine Tracks.begin positive some_ later (.inr (.inl ⟨by linarith,?_⟩)) (.inr (by linarith))
          rw [gone past]
          exact few
        · refine Tracks.begin positive some_ later (.inr (.inl ⟨by linarith,?_⟩)) (.inr (by linarith))
          rcases place with ⟨_,few⟩ | ⟨_,few⟩ | ⟨over_,_⟩
          · omega
          · omega
          · exact absurd over_ past
theorem tick_cases (positive : 0 < window) (some_ : 0 < limit) (entry : Option Entry) : tick limit window now entry = (false,some (1,now)) ∨
      ∃ calls start, entry = some (calls,start) ∧ now - start ≤ window ∧
        (tick limit window now entry = (false,some (calls + 1,start)) ∨ limit ≤ calls ∧ tick limit window now entry = (true,entry)) := by
  cases entry with
  | none => exact .inl (tick_none positive some_)
  | some item =>
    obtain ⟨calls,start⟩ := item
    by_cases late : window < now - start
    · exact .inl (tick_late late)
    · refine .inr ⟨calls,start,rfl,not_lt.mp late,?_⟩
      by_cases full : limit < calls + 1
      · exact .inr ⟨Nat.le_of_lt_succ full,tick_full (not_lt.mp late) full⟩
      · exact .inl (tick_kept (not_lt.mp late) (not_lt.mp full))

theorem sweep_some (kept : sweep window now entry = some item) : entry = some item := by
  cases entry with
  | none => cases kept
  | some other =>
    have same := Option.eq_some_of_filter_eq_some kept
    exact same
end Window

section Runs
variable {control : Control} {key : String} {first last clock : ℚ} {bucket : Bucket}

theorem Control.limit_pos (control : Control) : 0 < control.limit := by cases control <;> decide

theorem Control.window_pos (control : Control) : 0 < control.window := by cases control <;> decide

theorem passed_snoc (key : String) (first last : ℚ) (past : List Answer) (answer : Answer) :
    passed key first last (past ++ [answer]) = passed key first last past +
      if answer.key = key ∧ answer.exceeded = false ∧ first ≤ answer.now ∧ answer.now ≤ last then 1 else 0 := by
  simp [passed,List.countP_append,List.countP_cons]

theorem passed_mono (from_ : wider ≤ first) (to_ : last ≤ later) (past : List Answer) :
    passed key first last past ≤ passed key wider later past := by
  refine List.countP_mono_left fun answer _ counted => ?_
  obtain ⟨named,allowed,after,before⟩ := of_decide_eq_true counted
  exact decide_eq_true ⟨named,allowed,from_.trans after,before.trans to_⟩

structure Sound (control : Control) (clock : ℚ) (past : List Answer) (bucket : Bucket) : Prop where
  distinct : (bucket.map Prod.fst).Nodup
  tracked : ∀ key first, Tracks control.limit control.window first clock (passed key first (first + control.window) past) (entryOf key bucket)
  backed : ∀ key calls start, entryOf key bucket = some (calls,start) → calls ≤ passed key start clock past

-- An answer True has the calls of its window behind it.
def Earned (control : Control) (past : List Answer) (answer : Answer) : Prop :=
  answer.exceeded = true → control.limit ≤ passed answer.key (answer.now - control.window) answer.now past

theorem Sound.step (sound : Sound control clock past bucket) (clocked : clock ≤ call.now) (room : bucket.length ≤ control.bucketMax) :
    Earned control past ⟨call.key,call.now,(increment control call bucket).1⟩ ∧
      Sound control call.cleaned (past ++ [⟨call.key,call.now,(increment control call bucket).1⟩]) (increment control call bucket).2 := by
  obtain ⟨swept,early,late,answer,entries,distinct⟩ := increment_cases control call sound.distinct room
  have positive := control.window_pos
  have onward := clocked.trans (early.trans late)
  refine ⟨?_,distinct,?_,?_⟩
  · intro exceeded
    dsimp only at exceeded ⊢
    rw [answer] at exceeded
    rcases tick_cases positive control.limit_pos (sweep control.window swept (entryOf call.key bucket)) with
      begun | ⟨calls,start,found,current,counted | ⟨full,_⟩⟩
    · rw [begun] at exceeded
      cases exceeded
    · rw [counted] at exceeded
      cases exceeded
    · exact full.trans ((sound.backed _ _ _ (sweep_some found)).trans (passed_mono (by linarith) clocked past))
  · intro key first
    have tracked := sound.tracked key first
    rw [passed_snoc,entries key]
    by_cases same : key = call.key
    · subst same
      have stepped := Tracks.tick positive control.limit_pos clocked early tracked
      rw [if_pos rfl,answer]
      simpa only [inside,true_and] using stepped.later late
    · rw [if_neg same,if_neg fun both => same both.1.symm,Nat.add_zero]
      exact (tracked.sweep positive (clocked.trans early)).later late
  · intro key calls start found
    rw [entries key] at found
    rw [passed_snoc]
    by_cases same : key = call.key
    · subst same
      rw [if_pos rfl] at found
      rw [answer]
      rcases tick_cases positive control.limit_pos (sweep control.window swept (entryOf call.key bucket)) with
        begun | ⟨before,since,held,current,counted | ⟨_,full⟩⟩
      · rw [begun] at found ⊢
        cases found
        simp [early.trans late]
      · rw [counted] at found ⊢
        cases found
        have old := (sound.backed _ _ _ (sweep_some held)).trans (passed_mono (le_refl _) onward past)
        have begun : start ≤ call.now := by
          have listed := sound.tracked call.key start
          rw [sweep_some held] at listed
          exact listed.1.trans clocked
        simpa [begun,early.trans late] using old
      · rw [full] at found
        have old := (sound.backed _ _ _ (sweep_some found)).trans (passed_mono (le_refl _) onward past)
        exact old.trans (Nat.le_add_right _ _)
    · rw [if_neg same] at found
      have old := (sound.backed _ _ _ (sweep_some found)).trans (passed_mono (le_refl _) onward past)
      exact old.trans (Nat.le_add_right _ _)

theorem Sound.run {run : List Call} {past : List Answer} (sound : Sound control clock past bucket) (clocked : Clocked clock run)
    (room : WithinCapacity control run bucket) : (∃ end_ after, Sound control end_ (past ++ answers control run bucket) after) ∧
      ∀ earlier answer later, answers control run bucket = earlier ++ answer :: later → Earned control (past ++ earlier) answer := by
  induction run generalizing clock past bucket with
  | nil =>
    refine ⟨⟨clock,bucket,by rwa [answers,List.append_nil]⟩,fun earlier answer later split => ?_⟩
    simp [answers] at split
  | cons call rest ih =>
    obtain ⟨earned,next⟩ := sound.step clocked.1 room.1
    obtain ⟨⟨end_,after,final⟩,others⟩ := ih next clocked.2 room.2
    refine ⟨⟨end_,after,by rwa [List.append_assoc] at final⟩,fun earlier answer later split => ?_⟩
    cases earlier with
    | nil =>
      rw [List.append_nil]
      cases split
      exact earned
    | cons first rest =>
      obtain ⟨rfl,tail⟩ := List.cons.inj split
      have far := others rest answer later tail
      rwa [List.append_assoc] at far

theorem throttle_sound_and_fair (control : Control) (start : ℚ) (run : List Call) (clocked : Clocked start run)
    (room : WithinCapacity control run []) :
    (∀ key first, passed key first (first + control.window) (answers control run []) ≤ 2 * control.limit) ∧
      ∀ earlier answer later, answers control run [] = earlier ++ answer :: later → answer.exceeded = true →
        control.limit ≤ passed answer.key (answer.now - control.window) answer.now earlier := by
  have empty : Sound control start [] [] :=
    ⟨List.nodup_nil,fun key first => .inl rfl,fun key calls start found => by cases found⟩
  obtain ⟨⟨end_,after,final⟩,earned⟩ := empty.run clocked room
  exact ⟨fun key first => (final.tracked key first).few,earned⟩
end Runs

def sampleRun : List Call := [⟨"10.0.0.1",0,0,le_refl 0⟩,⟨"10.0.0.1",75,300,by norm_num⟩]

theorem throttle_sound_and_fair_sample : passed "10.0.0.1" 0 60 (answers .rateLimit sampleRun []) ≤ 2 * Control.rateLimit.limit := by
  have room : WithinCapacity .rateLimit sampleRun [] := by
    norm_num [WithinCapacity,sampleRun,increment,incrementRateLimit,countCall,cleanupBucket,put,entryOf,Control.bucketMax,rateWindow,
      rateBucketMax,Throttle.rateLimit]
  have fair := (throttle_sound_and_fair .rateLimit 0 sampleRun (by norm_num [Clocked,sampleRun]) room).1 "10.0.0.1" 0
  simpa [Control.window,rateWindow] using fair

end VeritasOs.Throttle
