import VeritasOs.JsonReread
import VeritasOs.JsonSuffix
import VeritasOs.TrustLog

namespace VeritasOs.FullLedger
open JsonText BindArtifacts TrustLog

-- What _make_error records; the code and the tamper flag are functions of the reason.
structure VerificationError where
  index : Nat
  reason : String
deriving DecidableEq

structure Progress where
  prevHash : Value := .none
  totalEntries : Nat := 0
  validEntries : Nat := 0
  errors : List VerificationError := []

section Verify
variable (sha256 : String → String)

-- f"{expected_prev}{entry_json}" if expected_prev else entry_json
def combine (expectedPrev : Value) (entryJson : String) : String := expectedPrev.orStr "" ++ entryJson

-- The previous hash seen, or at the start the one the entry names.
def expectedPrev (prevHash : Value) (entry : Dict) : Value := if prevHash ≠ .none then prevHash else entry.get "sha256_prev"

def computeFullEntryHash (entry : Dict) (expectedPrev : Value) : Option String :=
  (normalizeForHash entry).map fun entryJson => sha256 (combine expectedPrev entryJson)

def Progress.fail (progress : Progress) (index : Nat) (reason : String) : Progress :=
  { progress with errors := progress.errors ++ [⟨index,reason⟩] }

-- One turn of the loop. After a broken link the chain is taken up again at the entry.
def verifyEntry (index : Nat) (entry : Dict) (progress : Progress) : Except Exc Progress :=
  let progress := { progress with totalEntries := progress.totalEntries + 1 }
  if (entry.get "__invalid__").truthy then
    .ok (progress.fail index (entry.getD "__reason__" (.str "invalid_entry")).text)
  else
    let actualPrev := entry.get "sha256_prev"
    if progress.prevHash ≠ .none ∧ pyEq actualPrev progress.prevHash = false then
      .ok { progress.fail index "sha256_prev_mismatch" with prevHash := entry.get "sha256" }
    else
      match computeFullEntryHash sha256 entry (expectedPrev progress.prevHash entry) with
      | none => .error (typeError "keys must be str, int, float, bool or None")
      | some expectedHash =>
        if pyEq (entry.get "sha256") (.str expectedHash) = false then
          .ok { progress.fail index "sha256_mismatch" with prevHash := entry.get "sha256" }
        else .ok { progress with validEntries := progress.validEntries + 1,prevHash := entry.get "sha256" }

def verifyFrom (maxEntries : Option Nat) : Nat → List Dict → Progress → Except Exc Progress
  | _,[],progress => .ok progress
  | index,entry :: rest,progress =>
    if (maxEntries.map fun most => decide (most ≤ progress.totalEntries)).getD false then .ok progress
    else (verifyEntry sha256 index entry progress).bind (verifyFrom maxEntries (index + 1) rest)

structure Report where
  totalEntries : Nat
  validEntries : Nat
  invalidEntries : Nat
  chainOk : Bool
  lastHash : Value
  detailedErrors : List VerificationError
  ok : Bool

def Progress.report (progress : Progress) : Report where
  totalEntries := progress.totalEntries
  validEntries := progress.validEntries
  invalidEntries := progress.totalEntries - progress.validEntries
  chainOk := progress.errors.all fun error => error.reason ≠ "sha256_prev_mismatch" ∧ error.reason ≠ "sha256_mismatch"
  lastHash := progress.prevHash
  detailedErrors := progress.errors
  ok := progress.errors.isEmpty

def verifyFullLedger (entries : List Dict) (maxEntries : Option Nat := none) : Except Exc Report :=
  (verifyFrom sha256 maxEntries 0 entries {}).map Progress.report

structure EntryOk (prevHash : Value) (entry : Dict) : Prop where
  valid : (entry.get "__invalid__").truthy = false
  linked : prevHash ≠ .none → pyEq (entry.get "sha256_prev") prevHash = true
  hashed : ∃ text, normalizeForHash entry = some text ∧ entry.get "sha256" = .str (sha256 (combine (expectedPrev prevHash entry) text))

def Linked : Value → List Dict → Prop
  | _,[] => True
  | prevHash,entry :: rest => EntryOk sha256 prevHash entry ∧ Linked (entry.get "sha256") rest

def lastHash (prevHash : Value) (entries : List Dict) : Value := (entries.getLast?.map fun entry => entry.get "sha256").getD prevHash

variable {sha256}

variable {index : Nat} {before : Progress} {entries : List Dict}

theorem verifyEntry_cases (turned : verifyEntry sha256 index entry before = .ok after) :
    (∃ error, after.errors = before.errors ++ [error]) ∨
      (EntryOk sha256 before.prevHash entry ∧ after.errors = before.errors ∧ after.prevHash = entry.get "sha256" ∧
        after.validEntries = before.validEntries + 1) := by
  unfold verifyEntry at turned
  dsimp only at turned
  split at turned
  · cases turned
    exact .inl ⟨_,rfl⟩
  · rename_i valid
    split at turned
    · cases turned
      exact .inl ⟨_,rfl⟩
    · rename_i linked
      split at turned
      · cases turned
      · rename_i expectedHash computed
        split at turned
        · cases turned
          exact .inl ⟨_,rfl⟩
        · rename_i same
          cases turned
          obtain ⟨text,normal,rfl⟩ := Option.map_eq_some_iff.mp computed
          refine .inr ⟨⟨by simpa using valid,?_,text,normal,?_⟩,rfl,rfl,rfl⟩
          · intro chained
            simpa [chained] using linked
          · exact (pyEq_str _ _).mp (Bool.eq_true_of_not_eq_false same)

theorem verifyEntry_ok (good : EntryOk sha256 before.prevHash entry) : verifyEntry sha256 index entry before = .ok { before with
      totalEntries := before.totalEntries + 1,validEntries := before.validEntries + 1,prevHash := entry.get "sha256" } := by
  obtain ⟨text,normal,hashed⟩ := good.hashed
  have chained : ¬(before.prevHash ≠ .none ∧ pyEq (entry.get "sha256_prev") before.prevHash = false) := by
    rintro ⟨some_,broken⟩
    simp [good.linked some_] at broken
  have computed : computeFullEntryHash sha256 entry (expectedPrev before.prevHash entry) =
      some (sha256 (combine (expectedPrev before.prevHash entry) text)) := by
    rw [computeFullEntryHash,normal]
    rfl
  have same : pyEq (entry.get "sha256") (.str (sha256 (combine (expectedPrev before.prevHash entry) text))) = true :=
    (pyEq_str _ _).mpr hashed
  unfold verifyEntry
  simp only [good.valid,Bool.false_eq_true,if_false,if_neg chained,computed,same,Bool.true_eq_false]

theorem verifyFrom_errors (ran : verifyFrom sha256 none index entries before = .ok after) : before.errors <+: after.errors := by
  induction entries generalizing index before with
  | nil =>
    cases ran
    exact List.prefix_rfl
  | cons entry rest ih =>
    simp only [verifyFrom,Option.map_none,Option.getD_none,Bool.false_eq_true,if_false] at ran
    obtain ⟨middle,turned,later⟩ := bind_ok.mp ran
    have onward := ih later
    rcases verifyEntry_cases turned with ⟨error,grown⟩ | ⟨_,kept,_⟩
    · exact (List.prefix_append _ _).trans (grown ▸ onward)
    · exact kept ▸ onward

theorem verifyFrom_exact (index : Nat) (entries : List Dict) (before : Progress) (clean : before.errors = []) :
    (∃ after, verifyFrom sha256 none index entries before = .ok after ∧ after.errors = []) ↔ Linked sha256 before.prevHash entries := by
  induction entries generalizing index before with
  | nil => simp [verifyFrom,Linked,clean]
  | cons entry rest ih =>
    simp only [verifyFrom,Option.map_none,Option.getD_none,Bool.false_eq_true,if_false,Linked]
    constructor
    · rintro ⟨after,ran,none_⟩
      obtain ⟨middle,turned,later⟩ := bind_ok.mp ran
      have prefix_ := verifyFrom_errors later
      rw [none_,List.prefix_nil] at prefix_
      rcases verifyEntry_cases turned with ⟨error,grown⟩ | ⟨good,kept,previous,_⟩
      · simp [grown] at prefix_
      · exact ⟨good,previous ▸ (ih (index + 1) middle prefix_).mp ⟨after,later,none_⟩⟩
    · rintro ⟨good,linked⟩
      rw [verifyEntry_ok good]
      exact (ih (index + 1) { before with
        totalEntries := before.totalEntries + 1,validEntries := before.validEntries + 1,prevHash := entry.get "sha256" } clean).mpr linked

theorem verifyFrom_counts (index : Nat) (before : Progress) (linked : Linked sha256 before.prevHash entries) :
    verifyFrom sha256 none index entries before = .ok { before with
      totalEntries := before.totalEntries + entries.length,validEntries := before.validEntries + entries.length,
      prevHash := lastHash before.prevHash entries } := by
  induction entries generalizing index before with
  | nil => rfl
  | cons entry rest ih =>
    simp only [verifyFrom,Option.map_none,Option.getD_none,Bool.false_eq_true,if_false]
    rw [verifyEntry_ok linked.1]
    simp only [Except.bind]
    rw [ih (index + 1) _ linked.2]
    have last : lastHash (entry.get "sha256") rest = lastHash before.prevHash (entry :: rest) := by
      cases rest with
      | nil => rfl
      | cons next more =>
        rw [lastHash,lastHash,List.getLast?_cons_cons,List.getLast?_eq_some_getLast (List.cons_ne_nil next more)]
        rfl
    simp only [last,List.length_cons]
    congr 2 <;> omega

theorem verifyFullLedger_linked (linked : Linked sha256 .none entries) :
    ∃ report, verifyFullLedger sha256 entries = .ok report ∧ report.ok = true ∧ report.validEntries = entries.length := by
  rw [verifyFullLedger,verifyFrom_counts 0 {} linked]
  exact ⟨_,rfl,rfl,Nat.zero_add _⟩

theorem verifyFullLedger_accepted (verified : verifyFullLedger sha256 entries = .ok report) (accepted : report.ok = true) :
    Linked sha256 .none entries ∧ report.lastHash = lastHash .none entries ∧ report.validEntries = entries.length := by
  unfold verifyFullLedger at verified
  cases ran : verifyFrom sha256 none 0 entries {} with
  | error error =>
    rw [ran] at verified
    cases verified
  | ok final =>
    rw [ran] at verified
    cases verified
    have chain := (verifyFrom_exact 0 entries {} rfl).mp ⟨final,ran,List.isEmpty_iff.mp accepted⟩
    have counts := verifyFrom_counts 0 {} chain
    rw [ran] at counts
    cases counts
    exact ⟨chain,rfl,Nat.zero_add _⟩

end Verify

def entryOf (document : List (String × Json)) : Dict := Dict.update [] (fromMembers document)

theorem entryOf_record (document : List (String × Json)) : Record (entryOf document) :=
  update_record _ (fromMembers_named document)

def SameField (left right : Dict) (name : String) : Prop :=
  (lookup (.str name) left).map (toJson true) = (lookup (.str name) right).map (toJson true)

theorem default_written (written : (toJson false value).isSome = true) : defaultStr value = value := by
  induction value using Value.induction with
  | leaf value notList notTuple notDict => cases value <;> simp_all [defaultStr,toJson]
  | list items inside =>
    have each := (list_isSome false items).mp written
    rw [defaultStr,defaultItems_map,List.map_congr_left fun item listed => inside item listed (each item listed),List.map_id']
  | tuple items inside =>
    have each := (tuple_isSome false items).mp written
    rw [defaultStr,defaultItems_map,List.map_congr_left fun item listed => inside item listed (each item listed),List.map_id']
  | dict members inside =>
    obtain ⟨each,_⟩ := (dict_isSome false members).mp written
    have kept : members.map (fun member => (member.1,defaultStr member.2)) = members.map id :=
      List.map_congr_left fun member listed => Prod.ext rfl (inside member listed (each member listed))
    rw [defaultStr,defaultMembers_map,kept,List.map_id]

def hashedPart (entry : Dict) : Dict := entry.filter fun member => member.1 ≠ .str "sha256" ∧ member.1 ≠ .str "sha256_prev"

theorem normalize_written (written : (toJson false (.dict entry)).isSome = true) :
    normalizeForHash entry = canonicalJsonDumps (.dict (hashedPart entry)) := by
  obtain ⟨each,_⟩ := (dict_isSome false entry).mp written
  have kept : (hashedPart entry).map (fun member => (member.1,defaultStr member.2)) = (hashedPart entry).map id :=
    List.map_congr_left fun member listed => Prod.ext rfl (default_written (each member (List.mem_of_mem_filter listed)))
  rw [normalizeForHash,defaultStr,defaultMembers_map]
  exact congrArg (fun members => canonicalJsonDumps (.dict members)) (kept.trans (List.map_id _))

theorem normalize_entry (document : List (String × Json)) :
    normalizeForHash (entryOf document) = canonicalJsonDumps (.dict (hashedPart (entryOf document))) :=
  normalize_written (unsorted_isSome _ (fromJson_recordable (.obj document)))

theorem hashedPart_record (record : Record entry) : Record (hashedPart entry) :=
  ⟨fun member listed => record.named member (List.mem_of_mem_filter listed),record.distinct.sublist (List.filter_sublist.map Prod.fst)⟩

theorem lookup_hashedPart (entry : Dict) (name : String) :
    lookup (.str name) (hashedPart entry) = if name = "sha256" ∨ name = "sha256_prev" then none else lookup (.str name) entry := by
  induction entry with
  | nil => simp [hashedPart,lookup]
  | cons head rest ih =>
    obtain ⟨key,value⟩ := head
    unfold hashedPart at ih ⊢
    by_cases same : key = .str name
    · subst same
      by_cases special : name = "sha256" ∨ name = "sha256_prev"
      · rw [if_pos special] at ih ⊢
        have dropped : ¬(name ≠ "sha256" ∧ name ≠ "sha256_prev") := by tauto
        simpa [List.filter_cons,dropped] using ih
      · simp [not_or.mp special,lookup]
    · by_cases kept : key ≠ .str "sha256" ∧ key ≠ .str "sha256_prev"
      · simpa [List.filter_cons,kept,lookup,same] using ih
      · rw [List.filter_cons_of_neg (by simpa using kept),ih]
        simp [lookup,same]

variable {left right : Dict} {name : String}

theorem canonical_field (recordR : Record right) (first : canonicalJsonDumps (.dict left) = some text)
    (second : canonicalJsonDumps (.dict right) = some text) (found : lookup (.str name) left = some value) :
    ∃ other, lookup (.str name) right = some other ∧ toJson true value = toJson true other := by
  have same := canonical_exact first second
  obtain ⟨json,made,_⟩ := Option.map_eq_some_iff.mp first
  obtain ⟨named,rfl⟩ := toJson_dict_obj made
  have listed := lookup_mem found
  obtain ⟨part,partMade⟩ := Option.isSome_iff_exists.mp (((dict_isSome true _).mp (by rw [made]; rfl)).1 _ listed)
  have there := (toJson_dict_mem made name part).mpr ⟨_,value,rfl,listed,partMade⟩
  obtain ⟨key,other,texted,present,otherMade⟩ := (toJson_dict_mem (same ▸ made) name part).mp there
  obtain ⟨field,rfl⟩ := recordR.named _ present
  obtain rfl : field = name := by simpa [keyText] using texted
  exact ⟨other,lookup_of_mem recordR.distinct present,partMade.trans otherMade.symm⟩

theorem canonical_fields (recordL : Record left) (recordR : Record right)
    (first : canonicalJsonDumps (.dict left) = some text) (second : canonicalJsonDumps (.dict right) = some text) (name : String) :
    SameField left right name := by
  unfold SameField
  cases here : lookup (.str name) left with
  | some value =>
    obtain ⟨other,found,same⟩ := canonical_field recordR first second here
    rw [found,Option.map_some,Option.map_some,same]
  | none =>
    cases there : lookup (.str name) right with
    | none => rfl
    | some value =>
      obtain ⟨other,found,_⟩ := canonical_field recordL second first there
      rw [here] at found
      cases found

theorem hashedPart_field (notHash : name ≠ "sha256") (notPrev : name ≠ "sha256_prev")
    (same : SameField (hashedPart left) (hashedPart right) name) : SameField left right name := by
  have plain : ¬(name = "sha256" ∨ name = "sha256_prev") := not_or.mpr ⟨notHash,notPrev⟩
  rw [SameField,lookup_hashedPart,lookup_hashedPart,if_neg plain,if_neg plain] at same
  exact same

theorem sameField_str (first : left.get name = .str s) (second : right.get name = .str s) : SameField left right name := by
  have present : ∀ entry : Dict, entry.get name = .str s → lookup (.str name) entry = some (.str s) := by
    intro entry same
    unfold Dict.get at same
    cases found : lookup (.str name) entry with
    | none => rw [found] at same; cases same
    | some value => rw [found] at same; exact congrArg some same
  rw [SameField,present left first,present right second]

section Chain
variable {sha256 : String → String} (injective : Function.Injective sha256)
include injective

-- Entries with one hash have one content and one predecessor: the text before the
-- document cannot be taken for a part of it.
theorem entry_agree {left right : List (String × Json)} {p q : Value} (first : EntryOk sha256 p (entryOf left))
    (second : EntryOk sha256 q (entryOf right)) (same : (entryOf left).get "sha256" = (entryOf right).get "sha256") :
    (expectedPrev p (entryOf left)).orStr "" = (expectedPrev q (entryOf right)).orStr "" ∧
      ∀ name, name ≠ "sha256_prev" → SameField (entryOf left) (entryOf right) name := by
  obtain ⟨textL,normalL,hashL⟩ := first.hashed
  obtain ⟨textR,normalR,hashR⟩ := second.hashed
  rw [normalize_entry] at normalL normalR
  have combined := injective (Value.str.inj (hashL.symm.trans (same.trans hashR)))
  obtain ⟨jsonL,madeL,printedL⟩ := Option.map_eq_some_iff.mp normalL
  obtain ⟨jsonR,madeR,printedR⟩ := Option.map_eq_some_iff.mp normalR
  obtain ⟨namedL,rfl⟩ := toJson_dict_obj madeL
  obtain ⟨namedR,rfl⟩ := toJson_dict_obj madeR
  have chars := congrArg String.toList combined
  simp only [combine,← printedL,← printedR,dumps,String.toList_append,String.toList_ofList] at chars
  obtain ⟨before,document⟩ := object_split chars
  have texts : textL = textR := by rw [← printedL,← printedR,dumps,dumps,document]
  refine ⟨String.toList_inj.mp before,fun name notPrev => ?_⟩
  by_cases isHash : name = "sha256"
  · rw [isHash]
    exact sameField_str hashL (same ▸ hashL)
  · have parts := canonical_fields (hashedPart_record (entryOf_record _)) (hashedPart_record (entryOf_record _)) normalL (texts ▸ normalR) name
    exact hashedPart_field isHash notPrev parts

theorem linked_agree {left right : List (List (String × Json))} {p q : Value} (some_ : left ≠ []) (long : left.length = right.length)
    (first : Linked sha256 p (left.map entryOf)) (second : Linked sha256 q (right.map entryOf))
    (same : lastHash p (left.map entryOf) = lastHash q (right.map entryOf)) :
    (∀ (index : Nat) name a b, left[index]? = some a → right[index]? = some b → (index ≠ 0 ∨ name ≠ "sha256_prev") →
        SameField (entryOf a) (entryOf b) name) ∧ ∀ a b, left.head? = some a → right.head? = some b →
        (expectedPrev p (entryOf a)).orStr "" = (expectedPrev q (entryOf b)).orStr "" := by
  induction left generalizing right p q with
  | nil => exact absurd rfl some_
  | cons a restL ih =>
    cases right with
    | nil => cases long
    | cons b restR =>
      obtain ⟨okL,linkedL⟩ := first
      obtain ⟨okR,linkedR⟩ := second
      have shorter : restL.length = restR.length := by simpa using long
      obtain ⟨_,_,hashL⟩ := okL.hashed
      obtain ⟨_,_,hashR⟩ := okR.hashed
      -- The last hashes are those of the heads, or the tails fix the heads' hashes.
      have tails : (entryOf a).get "sha256" = (entryOf b).get "sha256" ∧
          ∀ (index : Nat) name c d, restL[index]? = some c → restR[index]? = some d → SameField (entryOf c) (entryOf d) name := by
        cases restL with
        | nil =>
          obtain rfl : restR = [] := List.length_eq_zero_iff.mp shorter.symm
          exact ⟨same,by simp⟩
        | cons c moreL =>
          cases restR with
          | nil => cases shorter
          | cons d moreR =>
            have last : ∀ (x : Value) (head next : Dict) (more : List Dict),
                lastHash x (head :: next :: more) = lastHash (head.get "sha256") (next :: more) := by
              intro x head next more
              rw [lastHash,lastHash,List.getLast?_cons_cons,List.getLast?_eq_some_getLast (List.cons_ne_nil next more)]
              rfl
            simp only [List.map_cons,last] at same
            obtain ⟨fields,heads⟩ := ih (List.cons_ne_nil c moreL) shorter linkedL linkedR same
            have previous := heads c d rfl rfl
            have text : ∀ (x : Dict) (h : String), expectedPrev (.str h) x = .str h := fun _ _ => rfl
            have plain : ∀ h : String, (Value.str h).orStr "" = h := by
              intro h
              by_cases empty : h = "" <;> simp [Value.orStr,Value.truthy,Value.text,empty]
            rw [hashL,hashR,text,text,plain,plain] at previous
            have hashes : (entryOf a).get "sha256" = (entryOf b).get "sha256" := by rw [hashL,hashR,previous]
            refine ⟨hashes,fun index name x y atL atR => ?_⟩
            by_cases link : index = 0 ∧ name = "sha256_prev"
            · obtain ⟨rfl,rfl⟩ := link
              cases atL
              cases atR
              rw [hashL] at linkedL
              rw [← hashes,hashL] at linkedR
              exact sameField_str ((pyEq_str _ _).mp (linkedL.1.linked (by simp))) ((pyEq_str _ _).mp (linkedR.1.linked (by simp)))
            · exact fields index name x y atL atR (not_and_or.mp link)
      obtain ⟨prevs,fields⟩ := entry_agree injective okL okR tails.1
      refine ⟨fun index name x y atL atR allowed => ?_,?_⟩
      · cases index with
        | zero =>
          cases atL
          cases atR
          exact fields name (allowed.resolve_left (by simp))
        | succ index => exact tails.2 index name x y (by simpa using atL) (by simpa using atR)
      · rintro x y atL atR
        cases atL
        cases atR
        exact prevs

end Chain

-- Two accepted ledgers that differ where they may: in the previous hash of the first entry.
def emptyEntry (previous : Json) : List (String × Json) := [("sha256_prev",previous),("sha256",.str "\x7b\x7d")]

end VeritasOs.FullLedger
