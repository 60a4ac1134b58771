import Mathlib.Algebra.Order.Ring.Rat
import Mathlib.Data.List.Perm.Subperm
import Mathlib.Data.List.Sort
import Mathlib.Data.List.TakeWhile

namespace VeritasOs.PiiMask

abbrev Chars := List Char

abbrev Span := Nat × Nat

def overlaps (first second : Span) : Bool := first.1 < second.2 && second.1 < first.2

-- bisect_left, on a list that is in order.
def bisectLeft (starts : List Nat) (start : Nat) : Nat := (starts.takeWhile fun other => decide (other < start)).length

-- Only the two neighbours of the place where the span would stand are looked at.
def clashes (span : Span) (occupied : List Span) : Bool :=
  let insertAt := bisectLeft (occupied.map Prod.fst) span.1
  let before := if 0 < insertAt then occupied[insertAt - 1]? else none
  before.any (overlaps span) || occupied[insertAt]?.any (overlaps span)

def occupy (span : Span) (occupied : List Span) : List Span :=
  occupied.insertIdx (bisectLeft (occupied.map Prod.fst) span.1) span

structure PIIMatch where
  type : String
  value : Chars
  start : Nat
  end_ : Nat
  confidence : ℚ
deriving DecidableEq

def PIIMatch.span (found : PIIMatch) : Span := (found.start,found.end_)

-- None of the regular expressions matches the empty text.
structure Pattern where
  name : String
  finditer : Chars → List Span
  validator : Option (Chars → Chars → Bool)
  confidence : ℚ
  finds : ∀ text span, span ∈ finditer text → span.1 < span.2 ∧ span.2 ≤ text.length

def maxInputLength : Nat := 100000
def maxMatches : Nat := 10000

def slice (text : Chars) (start end_ : Nat) : Chars := (text.take end_).drop start

def iterPatternsByPriority (patterns : List Pattern) : List Pattern :=
  patterns.mergeSort fun a b => decide (b.confidence ≤ a.confidence)

def validated (pattern : Pattern) (text : Chars) (span : Span) : Bool :=
  match pattern.validator with
  | none => true
  | some validator => validator (slice text span.1 span.2) (slice text (span.1 - 50) (min text.length (span.2 + 50)))

-- The loops over the patterns and over the matches of each, as one.
def collect (limit offset : Nat) (text : Chars) : List (Pattern × Span) → List Span → List PIIMatch → List PIIMatch
  | [],_,results => results
  | (pattern,span) :: rest,detected,results =>
    if clashes span detected then collect limit offset text rest detected results
    else if !validated pattern text span then collect limit offset text rest detected results
    else if limit ≤ results.length then results
    else
      collect limit offset text rest (occupy span detected)
        (results ++ [⟨pattern.name,slice text span.1 span.2,span.1 + offset,span.2 + offset,pattern.confidence⟩])

def detectInSegment (patterns : List Pattern) (text : Chars) (offset limit : Nat) : List PIIMatch :=
  collect limit offset text
    ((iterPatternsByPriority patterns).flatMap fun pattern => (pattern.finditer text).map fun span => (pattern,span)) [] []

def better (found current : PIIMatch) : Bool :=
  decide (current.confidence < found.confidence ∨ current.confidence = found.confidence ∧
    (current.type < found.type ∨ current.type = found.type ∧ current.value < found.value))

def keepBest (best : List PIIMatch) (found : PIIMatch) : List PIIMatch :=
  if best.any fun current => decide (current.span = found.span) then
    best.map fun current => if current.span = found.span && better found current then found else current
  else best ++ [found]

def mergeMatchesBySpan (found : List PIIMatch) : List PIIMatch := found.foldl keepBest []

def segmentOverlap : Nat := 128

def scanSegments (patterns : List Pattern) (text : Chars) : List Nat → List PIIMatch → List PIIMatch → List PIIMatch
  | [],_,results => results
  | start :: rest,candidates,results =>
    if maxMatches - results.length = 0 then results
    else
      let end_ := min text.length (start + maxInputLength)
      let candidates := candidates ++ detectInSegment patterns (slice text start end_) start (maxMatches - results.length)
      if end_ = text.length then mergeMatchesBySpan candidates
      else scanSegments patterns text rest candidates (mergeMatchesBySpan candidates)

def segmentStarts (length : Nat) : List Nat :=
  let step := max 1 (maxInputLength - segmentOverlap)
  (List.range ((length + step - 1) / step)).map (· * step)

def byPriority (a b : PIIMatch) : Bool :=
  decide (b.confidence < a.confidence ∨ a.confidence = b.confidence ∧ (a.start < b.start ∨ a.start = b.start ∧ a.end_ ≤ b.end_))

def select : List PIIMatch → List Span → List PIIMatch → List PIIMatch
  | [],_,selected => selected
  | candidate :: rest,occupied,selected =>
    if clashes candidate.span occupied then select rest occupied selected
    else select rest (occupy candidate.span occupied) (selected ++ [candidate])

def resolveGlobalOverlaps (found : List PIIMatch) : List PIIMatch :=
  (select (found.mergeSort byPriority) [] []).mergeSort fun a b => decide (a.start ≤ b.start)

def detect (patterns : List Pattern) (text : Chars) : List PIIMatch :=
  if text = [] then []
  else if text.length ≤ maxInputLength then resolveGlobalOverlaps (detectInSegment patterns text 0 maxMatches)
  else resolveGlobalOverlaps (scanSegments patterns text (segmentStarts text.length) [] [])

def tokenMap : List (String × String) :=
  [("email","メール"),("url_credential","URLクレデンシャル"),("credit_card","クレジットカード"),("my_number","マイナンバー"),
   ("phone_mobile","電話"),("phone_landline","電話"),("phone_intl","電話"),("phone_free","電話"),("zip_jp","郵便番号"),
   ("zip_jp_no_hyphen","郵便番号"),("address_jp","住所"),("name_jp_honorific","個人名"),("name_kana_honorific","個人名"),
   ("name_en_title","個人名"),("ipv4","IPアドレス"),("ipv6","IPアドレス"),("bank_account_jp","口座番号"),("passport_jp","パスポート番号")]

def getMaskToken (piiType : String) : String := (tokenMap.lookup piiType).getD "PII"

-- The mask of a token under the default format; another format is another function.
def defaultMaskText (token : String) : Chars := ("〔" ++ token ++ "〕").toList

def maskText (build : String → Chars) (found : PIIMatch) : Chars := build (getMaskToken found.type)

def splice (build : String → Chars) (text : Chars) (found : PIIMatch) : Chars :=
  text.take found.start ++ maskText build found ++ text.drop found.end_

def mask (patterns : List Pattern) (build : String → Chars) (text : Chars) : Chars :=
  if text = [] then []
  else (detect patterns text).reverse.foldl (splice build) text

-- What masking is for: from left to right, each span replaced and all between them kept.
def replaceSpans (build : String → Chars) (text : Chars) : Nat → List PIIMatch → Chars
  | from_,[] => text.drop from_
  | from_,found :: rest => slice text from_ found.start ++ maskText build found ++ replaceSpans build text found.end_ rest

-- Spans that stand one after the other.
def Apart (spans : List Span) : Prop := (∀ span ∈ spans, span.1 < span.2) ∧ spans.Pairwise fun a b => a.2 ≤ b.1

theorem overlaps_iff : overlaps a b = true ↔ a.1 < b.2 ∧ b.1 < a.2 := by simp [overlaps]

section Spans
variable {span : Span} {occupied : List Span}

theorem Apart.split (apart : Apart occupied) (start : Nat) :
    ∃ before after, occupied = before ++ after ∧ bisectLeft (occupied.map Prod.fst) start = before.length ∧
      (∀ other ∈ before, other.1 < start) ∧ ∀ other ∈ after, start ≤ other.1 := by
  refine ⟨occupied.takeWhile fun other => decide (other.1 < start),occupied.dropWhile fun other => decide (other.1 < start),
    List.takeWhile_append_dropWhile.symm,?_,?_,?_⟩
  · rw [bisectLeft,List.takeWhile_map,List.length_map]
    rfl
  · intro other listed
    have kept := List.mem_takeWhile_imp listed
    exact of_decide_eq_true kept
  · intro other listed
    obtain ⟨proper,ordered⟩ := apart
    cases rest : occupied.dropWhile fun other => decide (other.1 < start) with
    | nil =>
      rw [rest] at listed
      cases listed
    | cons first later =>
      have late : start ≤ first.1 := by
        have head := List.head?_dropWhile_not (fun other : Span => decide (other.1 < start)) occupied
        rw [rest] at head
        simpa using head
      rw [rest] at listed
      have tail : (first :: later).Pairwise fun a b => a.2 ≤ b.1 := by
        rw [← rest]
        exact ordered.sublist (List.dropWhile_sublist _)
      rcases List.mem_cons.mp listed with rfl | later_
      · exact late
      · have onward := (List.pairwise_cons.mp tail).1 other later_
        have first_ : first ∈ occupied := (List.dropWhile_sublist _).subset (rest ▸ List.mem_cons_self)
        exact late.trans ((proper first first_).le.trans onward)

theorem insertIdx_between : (before after : List Span) → (span : Span) → (before ++ after).insertIdx before.length span = before ++ span :: after
  | [],after,span => rfl
  | first :: rest,after,span => by
    rw [List.cons_append,List.length_cons,List.insertIdx_succ_cons,insertIdx_between rest after span]
    rfl

theorem clashes_split (place : bisectLeft ((before ++ after).map Prod.fst) span.1 = before.length) :
    clashes span (before ++ after) = (before.getLast?.any (overlaps span) || after.head?.any (overlaps span)) := by
  have next : (before ++ after)[before.length]? = after.head? := by
    rw [List.getElem?_append_right (le_refl _),Nat.sub_self,List.head?_eq_getElem?]
  rw [clashes,place,next]
  rcases List.eq_nil_or_concat' before with rfl | ⟨earlier,last,rfl⟩
  · rfl
  · simp

theorem clashes_iff (apart : Apart occupied) : clashes span occupied = true ↔ ∃ other ∈ occupied, overlaps span other = true := by
  obtain ⟨before,after,rfl,place,lower,upper⟩ := apart.split span.1
  obtain ⟨each,ordered⟩ := apart
  obtain ⟨first,second,_⟩ := List.pairwise_append.mp ordered
  rw [clashes_split place,Bool.or_eq_true_iff]
  constructor
  · rintro (left | right)
    · obtain ⟨other,last,both⟩ := (Option.any_eq_true _ _).mp left
      exact ⟨other,List.mem_append_left _ (List.mem_of_getLast? last),both⟩
    · obtain ⟨other,next,both⟩ := (Option.any_eq_true _ _).mp right
      exact ⟨other,List.mem_append_right _ (List.mem_of_head? next),both⟩
  · rintro ⟨other,listed,both⟩
    obtain ⟨reaches,begins⟩ := overlaps_iff.mp both
    rcases List.mem_append.mp listed with left | right
    · refine .inl ?_
      rcases List.eq_nil_or_concat' before with rfl | ⟨earlier,last,rfl⟩
      · cases left
      · have near : other = last := by
          rcases List.mem_append.mp left with old | new
          · have ends := (List.pairwise_append.mp first).2.2 other old last (List.mem_singleton_self last)
            have begins := lower last (by simp)
            omega
          · exact List.mem_singleton.mp new
        simp [near ▸ both]
    · refine .inr ?_
      cases after with
      | nil => cases right
      | cons next later =>
        have proper_ := each next (by simp)
        have late := upper next (by simp)
        have meets : overlaps span next = true := by
          refine overlaps_iff.mpr ⟨by omega,?_⟩
          rcases List.mem_cons.mp right with rfl | far
          · exact begins
          · have onward := (List.pairwise_cons.mp second).1 other far
            omega
        simp [meets]

theorem occupy_apart (apart : Apart occupied) (proper : span.1 < span.2) (free : clashes span occupied = false) :
    Apart (occupy span occupied) ∧ (occupy span occupied).Perm (span :: occupied) := by
  have none_ : ∀ other ∈ occupied, ¬(span.1 < other.2 ∧ other.1 < span.2) := by
    intro other listed both
    have clash := (clashes_iff apart).mpr ⟨other,listed,overlaps_iff.mpr both⟩
    rw [free] at clash
    cases clash
  obtain ⟨before,after,rfl,place,lower,upper⟩ := apart.split span.1
  obtain ⟨each,ordered⟩ := apart
  obtain ⟨first,second,between⟩ := List.pairwise_append.mp ordered
  have inserted : occupy span (before ++ after) = before ++ span :: after := by
    rw [occupy,place]
    exact insertIdx_between before after span
  have moved : (before ++ span :: after).Perm (span :: (before ++ after)) := List.perm_middle
  rw [inserted]
  refine ⟨⟨fun other listed => ?_,?_⟩,moved⟩
  · rcases List.mem_cons.mp (moved.subset listed) with rfl | old
    · exact proper
    · exact each other old
  · refine List.pairwise_append.mpr ⟨first,List.pairwise_cons.mpr ⟨fun other listed => ?_,second⟩,fun other listed later after_ => ?_⟩
    · have late := upper other listed
      have real := each other (List.mem_append_right _ listed)
      have clear := none_ other (List.mem_append_right _ listed)
      omega
    · rcases List.mem_cons.mp after_ with rfl | old
      · have early := lower other listed
        have clear := none_ other (List.mem_append_left _ listed)
        omega
      · exact between other listed later old
end Spans

section Resolution
variable {found : List PIIMatch} {a b : PIIMatch}

def Overlapping (a b : PIIMatch) : Prop := a.start < b.end_ ∧ b.start < a.end_

-- What is taken stands apart, and each match is outdone by one that is taken.
structure Chosen (candidates selected result : List PIIMatch) : Prop where
  part : ∃ kept, result = selected ++ kept ∧ kept.Sublist candidates
  apart : result.Pairwise fun a b => ¬Overlapping a b
  outdone : ∀ candidate ∈ candidates, ∃ kept ∈ result, Overlapping candidate kept ∧ candidate.confidence ≤ kept.confidence

theorem select_chosen (proper : ∀ candidate ∈ candidates, candidate.start < candidate.end_) (apart : Apart occupied)
    (same : occupied.Perm (selected.map PIIMatch.span)) (free : selected.Pairwise fun a b => ¬Overlapping a b)
    (sure : candidates.Pairwise fun a b => b.confidence ≤ a.confidence)
    (first : ∀ kept ∈ selected, ∀ candidate ∈ candidates, candidate.confidence ≤ kept.confidence) :
    Chosen candidates selected (select candidates occupied selected) := by
  induction candidates generalizing occupied selected with
  | nil => exact ⟨⟨[],(List.append_nil selected).symm,.slnil⟩,free,fun candidate listed => by cases listed⟩
  | cons candidate rest ih =>
    obtain ⟨top,sure⟩ := List.pairwise_cons.mp sure
    have own := proper candidate List.mem_cons_self
    have others := fun later listed => proper later (List.mem_cons_of_mem candidate listed)
    have clash_iff := @clashes_iff candidate.span occupied apart
    by_cases clash : clashes candidate.span occupied = true
    · obtain ⟨span,listed,both⟩ := clash_iff.mp clash
      obtain ⟨kept,held,rfl⟩ := List.mem_map.mp (same.subset listed)
      obtain ⟨part,apart,outdone⟩ := ih others apart same free sure fun kept held later listed =>
        first kept held later (List.mem_cons_of_mem _ listed)
      rw [select,if_pos clash]
      obtain ⟨more,result,sub⟩ := part
      refine ⟨⟨more,result,sub.cons candidate⟩,apart,fun later listed => ?_⟩
      rcases List.mem_cons.mp listed with rfl | old
      · refine ⟨kept,?_,overlaps_iff.mp both,first kept held later listed⟩
        rw [result]
        exact List.mem_append_left _ held
      · exact outdone later old
    · have unclashed := Bool.eq_false_iff.mpr clash
      obtain ⟨next,moved⟩ := occupy_apart apart own unclashed
      have alone : ∀ kept ∈ selected, ¬Overlapping kept candidate := by
        intro kept held both
        refine clash (clash_iff.mpr ⟨kept.span,same.symm.subset (List.mem_map_of_mem held),overlaps_iff.mpr ⟨both.2,both.1⟩⟩)
      have listed_same : (occupy candidate.span occupied).Perm ((selected ++ [candidate]).map PIIMatch.span) := by
        rw [List.map_append,List.map_singleton]
        exact moved.trans ((same.cons _).trans (List.perm_append_singleton _ _).symm)
      have free_ : (selected ++ [candidate]).Pairwise fun a b => ¬Overlapping a b :=
        List.pairwise_append.mpr ⟨free,List.pairwise_singleton _ _,fun kept held other single => by
          rw [List.mem_singleton.mp single]
          exact alone kept held⟩
      obtain ⟨part,apart,outdone⟩ := ih others next listed_same free_ sure fun kept held later listed => by
        rcases List.mem_append.mp held with old | single
        · exact first kept old later (List.mem_cons_of_mem _ listed)
        · rw [List.mem_singleton.mp single]
          exact top later listed
      rw [select,if_neg clash]
      obtain ⟨more,result,sub⟩ := part
      refine ⟨⟨candidate :: more,by rw [result,List.append_assoc]; rfl,sub.cons_cons candidate⟩,apart,fun later listed => ?_⟩
      rcases List.mem_cons.mp listed with rfl | old
      · exact ⟨later,by simp [result],⟨own,own⟩,le_refl _⟩
      · exact outdone later old

theorem prioritized (found : List PIIMatch) : (found.mergeSort byPriority).Pairwise fun a b => b.confidence ≤ a.confidence := by
  have sorted := @List.pairwise_mergeSort PIIMatch byPriority (fun a b c => ?_) (fun a b => ?_) found
  · refine sorted.imp fun {a b} before => ?_
    rcases of_decide_eq_true before with less | ⟨same,_⟩
    · exact less.le
    · exact same.ge
  · simp only [byPriority,decide_eq_true_eq]
    grind
  · simp only [byPriority,Bool.or_eq_true,decide_eq_true_eq]
    grind

theorem resolve_overlaps_exact (proper : ∀ match_ ∈ found, match_.start < match_.end_) : (resolveGlobalOverlaps found).Subperm found ∧
      (resolveGlobalOverlaps found).Pairwise (fun a b => a.start ≤ b.start ∧ a.end_ ≤ b.start) ∧
      ∀ match_ ∈ found, ∃ kept ∈ resolveGlobalOverlaps found, Overlapping match_ kept ∧ match_.confidence ≤ kept.confidence := by
  have order := List.mergeSort_perm found byPriority
  obtain ⟨⟨kept,same,sub⟩,apart,outdone⟩ := @select_chosen (found.mergeSort byPriority) [] []
    (fun candidate listed => proper candidate (order.subset listed)) ⟨by simp,List.Pairwise.nil⟩ (.refl _)
    List.Pairwise.nil (prioritized found) (fun kept held => by cases held)
  rw [List.nil_append] at same
  have sorted := List.mergeSort_perm (select (found.mergeSort byPriority) [] []) fun a b => decide (a.start ≤ b.start)
  have subperm : (resolveGlobalOverlaps found).Subperm found := by
    refine sorted.subperm.trans (List.Subperm.trans ?_ order.subperm)
    rw [same]
    exact sub.subperm
  refine ⟨subperm,?_,fun match_ listed => ?_⟩
  · have starts := @List.pairwise_mergeSort PIIMatch (fun a b => decide (a.start ≤ b.start))
      (fun a b c => by simpa using Nat.le_trans) (fun a b => by simpa using Nat.le_total a.start b.start)
      (select (found.mergeSort byPriority) [] [])
    have free := (sorted.pairwise_iff fun {a b} clear both => clear ⟨both.2,both.1⟩).mpr apart
    refine List.Pairwise.imp_of_mem ?_ (starts.and free)
    rintro a b listed other ⟨early,clear⟩
    have early := of_decide_eq_true early
    have own := proper a (subperm.subset listed)
    have next := proper b (subperm.subset other)
    refine ⟨early,Nat.le_of_not_lt fun inside => clear ⟨?_,inside⟩⟩
    omega
  · obtain ⟨kept,held,both,less⟩ := outdone match_ (order.symm.subset listed)
    exact ⟨kept,sorted.symm.subset held,both,less⟩
end Resolution

section Masking
variable {patterns : List Pattern} {text : Chars}

def Within (length : Nat) (found : PIIMatch) : Prop := found.start < found.end_ ∧ found.end_ ≤ length

theorem collect_within (proper : ∀ item ∈ candidates, item.2.1 < item.2.2 ∧ item.2.2 ≤ text.length)
    (held : ∀ found ∈ results, Within (text.length + offset) found) :
    ∀ found ∈ collect limit offset text candidates detected results, Within (text.length + offset) found := by
  induction candidates generalizing detected results with
  | nil => exact held
  | cons item rest ih =>
    obtain ⟨pattern,span⟩ := item
    obtain ⟨own,inside⟩ := proper _ List.mem_cons_self
    have others := fun later listed => proper later (List.mem_cons_of_mem _ listed)
    unfold collect
    split
    · exact ih others held
    · split
      · exact ih others held
      · split
        · exact held
        · refine ih others fun found listed => ?_
          rcases List.mem_append.mp listed with old | single
          · exact held found old
          · rw [List.mem_singleton.mp single]
            exact ⟨Nat.add_lt_add_right own offset,Nat.add_le_add_right inside offset⟩

theorem detectInSegment_within (patterns : List Pattern) (text : Chars) (offset limit : Nat) :
    ∀ found ∈ detectInSegment patterns text offset limit, Within (text.length + offset) found := by
  refine collect_within (fun item listed => ?_) (by simp)
  obtain ⟨pattern,_,inside⟩ := List.mem_flatMap.mp listed
  obtain ⟨span,found,rfl⟩ := List.mem_map.mp inside
  exact pattern.finds text span found

theorem mergeMatches_subset (found : List PIIMatch) : ∀ kept ∈ mergeMatchesBySpan found, kept ∈ found := by
  have each : ∀ rest best : List PIIMatch, ∀ kept ∈ rest.foldl keepBest best, kept ∈ best ∨ kept ∈ rest := by
    intro rest
    induction rest with
    | nil => exact fun best kept listed => .inl listed
    | cons match_ rest ih =>
      intro best kept listed
      rcases ih (keepBest best match_) kept listed with old | later
      · unfold keepBest at old
        split at old
        · obtain ⟨current,held,same⟩ := List.mem_map.mp old
          split at same
          · exact .inr (same ▸ List.mem_cons_self)
          · exact .inl (same ▸ held)
        · rcases List.mem_append.mp old with held | single
          · exact .inl held
          · exact .inr (List.mem_singleton.mp single ▸ List.mem_cons_self)
      · exact .inr (List.mem_cons_of_mem _ later)
  intro kept listed
  rcases each found [] kept listed with none_ | held
  · cases none_
  · exact held

theorem scanSegments_within (placed : ∀ start ∈ starts, start ≤ text.length) (held : ∀ found ∈ candidates, Within text.length found)
    (kept : ∀ found ∈ results, Within text.length found) :
    ∀ found ∈ scanSegments patterns text starts candidates results, Within text.length found := by
  induction starts generalizing candidates results with
  | nil => exact kept
  | cons start rest ih =>
    have more : ∀ limit, ∀ found ∈ candidates ++ detectInSegment patterns (slice text start (min text.length (start + maxInputLength))) start limit,
        Within text.length found := by
      intro limit found listed
      rcases List.mem_append.mp listed with old | new
      · exact held found old
      · obtain ⟨own,inside⟩ := detectInSegment_within _ _ _ _ found new
        refine ⟨own,inside.trans ?_⟩
        have first := placed start List.mem_cons_self
        rw [slice,List.length_drop,List.length_take]
        omega
    unfold scanSegments
    split
    · exact kept
    · dsimp only
      split
      · exact fun found listed => more _ found (mergeMatches_subset _ found listed)
      · exact ih (fun later listed => placed later (List.mem_cons_of_mem _ listed)) (more _)
          fun found listed => more _ found (mergeMatches_subset _ found listed)

theorem segmentStarts_within (listed : start ∈ segmentStarts length) : start ≤ length := by
  obtain ⟨index,within,rfl⟩ := List.mem_map.mp listed
  have early := List.mem_range.mp within
  have step : max 1 (maxInputLength - segmentOverlap) = 99872 := rfl
  rw [step] at early ⊢
  omega

theorem detect_apart (patterns : List Pattern) (text : Chars) : (∀ found ∈ detect patterns text, Within text.length found) ∧
      (detect patterns text).Pairwise fun a b => a.start ≤ b.start ∧ a.end_ ≤ b.start := by
  have resolved : ∀ found : List PIIMatch, (∀ match_ ∈ found, Within text.length match_) →
      (∀ match_ ∈ resolveGlobalOverlaps found, Within text.length match_) ∧
        (resolveGlobalOverlaps found).Pairwise fun a b => a.start ≤ b.start ∧ a.end_ ≤ b.start := by
    intro found within
    obtain ⟨part,apart,_⟩ := resolve_overlaps_exact fun match_ listed => (within match_ listed).1
    exact ⟨fun match_ listed => within match_ (part.subset listed),apart⟩
  unfold detect
  split
  · simp
  · split
    · exact resolved _ (detectInSegment_within patterns text 0 maxMatches)
    · exact resolved _ (scanSegments_within (fun start => segmentStarts_within) (by simp) (by simp))

theorem splice_back (build : String → Chars) {spans : List PIIMatch} {from_ : Nat} (within : ∀ found ∈ spans, Within text.length found)
    (after : ∀ found ∈ spans, from_ ≤ found.start) (apart : spans.Pairwise fun a b => a.start ≤ b.start ∧ a.end_ ≤ b.start) :
    spans.reverse.foldl (splice build) text = text.take from_ ++ replaceSpans build text from_ spans := by
  induction spans generalizing from_ with
  | nil => exact (List.take_append_drop from_ text).symm
  | cons found rest ih =>
    obtain ⟨own,inside⟩ := within found List.mem_cons_self
    obtain ⟨onward,apart⟩ := List.pairwise_cons.mp apart
    have early := after found List.mem_cons_self
    have later := @ih found.end_ (fun other listed => within other (List.mem_cons_of_mem _ listed))
      (fun other listed => (onward other listed).2) apart
    have full : (text.take found.end_).length = found.end_ := by
      rw [List.length_take]
      omega
    have front : (text.take found.end_ ++ replaceSpans build text found.end_ rest).take found.start = text.take found.start := by
      rw [List.take_append_of_le_length (by omega),List.take_take]
      congr 1
      omega
    have back : (text.take found.end_ ++ replaceSpans build text found.end_ rest).drop found.end_ = replaceSpans build text found.end_ rest :=
      List.drop_left' full
    have joined : text.take from_ ++ slice text from_ found.start = text.take found.start := by
      have head : (text.take found.start).take from_ = text.take from_ := by
        rw [List.take_take]
        congr 1
        omega
      rw [slice,← head,List.take_append_drop]
    rw [List.reverse_cons,List.foldl_append,later,List.foldl_cons,List.foldl_nil,splice,front,back,replaceSpans]
    simp only [← List.append_assoc,joined]

theorem mask_replaces (patterns : List Pattern) (build : String → Chars) (text : Chars) :
    mask patterns build text = replaceSpans build text 0 (detect patterns text) := by
  obtain ⟨within,apart⟩ := detect_apart patterns text
  have spliced := @splice_back text build (detect patterns text) 0 within (fun found _ => Nat.zero_le _) apart
  rw [List.take_zero,List.nil_append] at spliced
  unfold mask
  split
  · rename_i empty
    subst empty
    rfl
  · exact spliced

end Masking

def sampleMatches : List PIIMatch := [⟨"zip_jp",[],4,12,17 / 20⟩,⟨"email",[],0,8,9 / 10⟩]

end VeritasOs.PiiMask
