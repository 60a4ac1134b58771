import VeritasOs.MemoryStore

namespace VeritasOs.MemoryErase
open Text BindArtifacts Interaction PolicyBundle MemoryStore

def orEmpty (value : Value) : Value := if value.truthy then value else .dict []

def isRecordLegalHold (record : Dict) : Bool :=
  match orEmpty (record.get "value") with
  | .dict value =>
    match orEmpty (Dict.get value "meta") with
    | .dict meta_ => legalHold (Dict.getD meta_ "legal_hold" (.bool false))
    | _ => false
  | _ => false

def namesErased (erasedKeys : List String) (sourceKeys : Value) : Bool :=
  match if sourceKeys.truthy then sourceKeys else .list [] with
  | .list keys => keys.any fun key => erasedKeys.contains key.text
  | _ => false

def shouldCascadeDeleteSemantic (record : Dict) (userId : String) (erasedKeys : List String) : Bool :=
  if erasedKeys.isEmpty then false
  else
    match orEmpty (record.get "value") with
    | .dict value =>
      if (Dict.get value "kind").orStr "" ≠ "semantic" then false
      else
        match orEmpty (Dict.get value "meta") with
        | .dict meta_ =>
          if (Dict.get meta_ "user_id").orStr "" ≠ userId then false
          else if legalHold (Dict.getD meta_ "legal_hold" (.bool false)) then false
          else namesErased erasedKeys (Dict.get meta_ "source_episode_keys")
        | _ => false
    | _ => false

def ownedBy (userId : String) (record : Dict) : Bool := pyEq (record.get "user_id") (.str userId)

def keyText (record : Dict) : String := (record.get "key").orStr ""

-- Metadata that is true but no dict has no get.
def listsSources (record : Dict) : Except Exc Bool :=
  match orEmpty (record.get "value") with
  | .dict value => do
    let meta_ ← asRecord (orEmpty (Dict.get value "meta"))
    match meta_.get "source_episode_keys" with
    | .list keys => .ok (!keys.isEmpty)
    | _ => .ok false
  | _ => .ok false

-- The first loop: the keys to delete and the number of records on hold. Records that list
-- sources are left to the second loop.
def collectKeys (userId : String) : List Value → Except Exc (List String × Nat)
  | [] => .ok ([],0)
  | head :: rest => do
    let record ← asRecord head
    if !ownedBy userId record then collectKeys userId rest
    else if isRecordLegalHold record then
      let (keys,held) ← collectKeys userId rest
      .ok (keys,held + 1)
    else
      let derived ← listsSources record
      let (keys,held) ← collectKeys userId rest
      .ok (if derived then keys else keyText record :: keys,held)

inductive Fate where
  | deleted
  | cascaded
  | kept
deriving DecidableEq

-- The second loop; the first has raised for what is no dict.
def fate (userId : String) (keys : List String) : Value → Fate
  | .dict record =>
    if ownedBy userId record && keys.contains (keyText record) then .deleted
    else if shouldCascadeDeleteSemantic record userId keys then .cascaded
    else .kept
  | _ => .kept

structure EraseRequest where
  userId : String
  reason : String
  actor : String

structure EraseClock where
  executedAt : String
  seconds : Int
  time : Value

def eraseReport (request : EraseRequest) (clock : EraseClock) (deleted cascaded held : Nat) : Dict :=
  [(.str "target_user_id",.str request.userId),(.str "deleted_count",.int deleted),(.str "cascade_deleted_count",.int cascaded),
   (.str "protected_by_legal_hold",.int held),(.str "reason",.str request.reason),(.str "actor",.str request.actor),
   (.str "executed_at",.str clock.executedAt)]

def auditRecord (request : EraseRequest) (clock : EraseClock) (report : Dict) : Value :=
  newRecord (.str "__audit__") (.str ("erase_" ++ request.userId ++ "_" ++ intStr clock.seconds))
    (.dict [(.str "kind",.str "audit"),(.str "text",.str "memory erase executed"),
      (.str "meta",.dict [(.str "event",.str "memory_erase"),(.str "payload",.dict report),(.str "retention_class",.str "regulated"),
        (.str "legal_hold",.bool true),(.str "expires_at",.none)])]) clock.time

def eraseUserData (data : List Value) (request : EraseRequest) (clock : EraseClock) : Except Exc (List Value × Dict) := do
  let (keys,held) ← collectKeys request.userId data
  let report := eraseReport request clock (data.countP fun record => fate request.userId keys record = .deleted)
    (data.countP fun record => fate request.userId keys record = .cascaded) held
  .ok (data.filter (fun record => fate request.userId keys record = .kept) ++ [auditRecord request clock report],report)

def erasable (userId : String) (record : Dict) : Bool := ownedBy userId record && !isRecordLegalHold record

def erasableKeys (userId : String) (data : List Dict) : List String := (data.filter (erasable userId)).map keyText

-- On hold, or another user's and not distilled from a record of the user that goes.
def Protected (userId : String) (data : List Dict) (record : Dict) : Prop :=
  isRecordLegalHold record = true ∨
    ownedBy userId record = false ∧ shouldCascadeDeleteSemantic record userId (erasableKeys userId data) = false

def ErasesExactly (data : List Dict) (request : EraseRequest) (clock : EraseClock) : Prop :=
  ∃ kept report, eraseUserData (data.map .dict) request clock = .ok (kept ++ [auditRecord request clock report],report) ∧
    (∀ record ∈ data, Protected request.userId data record → .dict record ∈ kept) ∧
    (∀ record, .dict record ∈ kept → erasable request.userId record = false)

def plain (userId : String) (record : Dict) : Bool := erasable userId record && listsSources record matches .ok false

def plainKeys (userId : String) (data : List Dict) : List String := (data.filter (plain userId)).map keyText

structure Erasable (userId : String) (data : List Dict) : Prop where
  readable : ∀ record ∈ data, erasable userId record = true → ∃ derived, listsSources record = .ok derived
  -- No record on hold shares its key's text with a plain record of the user.
  apart : ∀ record ∈ data, ownedBy userId record = true → isRecordLegalHold record = true → keyText record ∉ plainKeys userId data
  -- A record that lists sources is a semantic record of a plain one, or shares its key's text with one.
  reached : ∀ record ∈ data, erasable userId record = true → listsSources record = .ok true →
    keyText record ∈ plainKeys userId data ∨ shouldCascadeDeleteSemantic record userId (plainKeys userId data) = true

section Collect
variable {userId : String} {record : Dict} {rest : List Dict}

theorem collectKeys_cons : collectKeys userId ((record :: rest).map .dict) =
    if !ownedBy userId record then collectKeys userId (rest.map .dict)
    else if isRecordLegalHold record then (collectKeys userId (rest.map .dict) >>= fun found => .ok (found.1,found.2 + 1))
    else (listsSources record >>= fun derived => collectKeys userId (rest.map .dict) >>= fun found =>
      .ok (if derived then found.1 else keyText record :: found.1,found.2)) := rfl

theorem plainKeys_cons : plainKeys userId (record :: rest) =
    if plain userId record then keyText record :: plainKeys userId rest else plainKeys userId rest := by
  unfold plainKeys
  rw [List.filter_cons]
  split <;> rfl

theorem collectKeys_ok (readable : ∀ record ∈ data, erasable userId record = true → ∃ derived, listsSources record = .ok derived) :
    ∃ held, collectKeys userId (data.map .dict) = .ok (plainKeys userId data,held) := by
  induction data with
  | nil => exact ⟨0,rfl⟩
  | cons record rest ih =>
    obtain ⟨held,later⟩ := ih fun other listed => readable other (List.mem_cons_of_mem _ listed)
    rw [collectKeys_cons,later,plainKeys_cons]
    cases owned : ownedBy userId record with
    | false => exact ⟨held,by simp [plain,erasable,owned]⟩
    | true =>
      cases hold : isRecordLegalHold record with
      | true => exact ⟨held + 1,by simp [plain,erasable,owned,hold]; rfl⟩
      | false =>
        obtain ⟨derived,read⟩ := readable record List.mem_cons_self (by rw [erasable,owned,hold]; rfl)
        rw [read]
        cases derived with
        | true => exact ⟨held,by simp [plain,erasable,owned,hold,read]; rfl⟩
        | false => exact ⟨held,by simp [plain,erasable,owned,hold,read]; rfl⟩

theorem collectKeys_readable {data : List Dict} {found : List String × Nat} (collected : collectKeys userId (data.map .dict) = .ok found) :
    ∀ record ∈ data, erasable userId record = true → ∃ derived, listsSources record = .ok derived := by
  induction data generalizing found with
  | nil => exact fun record listed => nomatch listed
  | cons record rest ih =>
    rw [collectKeys_cons] at collected
    intro other listed gone
    cases owned : ownedBy userId record with
    | false =>
      rw [owned] at collected
      rcases List.mem_cons.mp listed with rfl | later
      · rw [erasable,owned] at gone
        cases gone
      · exact ih collected other later gone
    | true =>
      cases hold : isRecordLegalHold record with
      | true =>
        rw [owned,hold] at collected
        obtain ⟨inner,later,_⟩ := bind_ok.mp collected
        rcases List.mem_cons.mp listed with rfl | there
        · rw [erasable,hold,Bool.not_true,Bool.and_false] at gone
          cases gone
        · exact ih later other there gone
      | false =>
        rw [owned,hold] at collected
        obtain ⟨derived,read,collected⟩ := bind_ok.mp collected
        obtain ⟨inner,later,_⟩ := bind_ok.mp collected
        rcases List.mem_cons.mp listed with rfl | there
        · exact ⟨derived,read⟩
        · exact ih later other there gone

end Collect

variable {keys : List String} {record : Dict} {userId : String}

theorem namesErased_exact : namesErased keys sourceKeys = true ↔
      ∃ sources, (if sourceKeys.truthy then sourceKeys else .list []) = .list sources ∧ ∃ source ∈ sources, source.text ∈ keys := by
  unfold namesErased
  cases read : (if sourceKeys.truthy then sourceKeys else .list []) with
  | list sources => simp
  | _ => simp

structure Distilled (record : Dict) (userId : String) (keys : List String) (value meta_ : Dict) : Prop where
  document : orEmpty (record.get "value") = .dict value
  semantic : (Dict.get value "kind").orStr "" = "semantic"
  metadata : orEmpty (Dict.get value "meta") = .dict meta_
  user : (Dict.get meta_ "user_id").orStr "" = userId
  free : legalHold (Dict.getD meta_ "legal_hold" (.bool false)) = false
  named : namesErased keys (Dict.get meta_ "source_episode_keys") = true

theorem shouldCascadeDeleteSemantic_exact :
    shouldCascadeDeleteSemantic record userId keys = true ↔ ∃ value meta_, Distilled record userId keys value meta_ := by
  constructor
  · intro cascades
    unfold shouldCascadeDeleteSemantic at cascades
    split at cascades
    · cases cascades
    · split at cascades
      · rename_i value found
        split at cascades
        · cases cascades
        · rename_i semantic
          split at cascades
          · rename_i meta_ metadata
            split at cascades
            · cases cascades
            · rename_i user
              split at cascades
              · cases cascades
              · rename_i free
                exact ⟨value,meta_,found,not_not.mp semantic,metadata,not_not.mp user,Bool.eq_false_of_not_eq_true free,cascades⟩
          · cases cascades
      · cases cascades
  · rintro ⟨value,meta_,distilled⟩
    have some_ : keys.isEmpty = false := by
      obtain ⟨sources,_,source,_,listed⟩ := namesErased_exact.mp distilled.named
      exact List.isEmpty_eq_false_iff.mpr (List.ne_nil_of_mem listed)
    unfold shouldCascadeDeleteSemantic
    simp only [some_,distilled.document,distilled.metadata]
    simp [distilled.semantic,distilled.user,distilled.free,distilled.named]

theorem cascade_mono (within : ∀ key ∈ fewer, key ∈ more)
    (cascades : shouldCascadeDeleteSemantic record userId fewer = true) : shouldCascadeDeleteSemantic record userId more = true := by
  obtain ⟨value,meta_,distilled⟩ := shouldCascadeDeleteSemantic_exact.mp cascades
  obtain ⟨sources,read,source,listed,erased⟩ := namesErased_exact.mp distilled.named
  exact shouldCascadeDeleteSemantic_exact.mpr ⟨value,meta_,{ distilled with
    named := namesErased_exact.mpr ⟨sources,read,source,listed,within _ erased⟩ }⟩

theorem cascade_free (cascades : shouldCascadeDeleteSemantic record userId keys = true) : isRecordLegalHold record = false := by
  obtain ⟨value,meta_,distilled⟩ := shouldCascadeDeleteSemantic_exact.mp cascades
  unfold isRecordLegalHold
  simp only [distilled.document,distilled.metadata]
  exact distilled.free

theorem plainKeys_erasable (userId : String) (data : List Dict) : ∀ key ∈ plainKeys userId data, key ∈ erasableKeys userId data := by
  intro key listed
  obtain ⟨record,there,rfl⟩ := List.mem_map.mp listed
  obtain ⟨inside,plain_⟩ := List.mem_filter.mp there
  exact List.mem_map_of_mem (List.mem_filter.mpr ⟨inside,(Bool.and_eq_true_iff.mp plain_).1⟩)

theorem fate_kept : fate userId keys (.dict record) = .kept ↔
      ¬(ownedBy userId record = true ∧ keyText record ∈ keys) ∧ shouldCascadeDeleteSemantic record userId keys = false := by
  have fates : fate userId keys (.dict record) = if ownedBy userId record && keys.contains (keyText record) then .deleted
      else if shouldCascadeDeleteSemantic record userId keys then .cascaded else .kept := rfl
  rw [fates]
  by_cases deleted : ownedBy userId record = true ∧ keyText record ∈ keys
  · simp [deleted]
  · have stays : (ownedBy userId record && keys.contains (keyText record)) = false := by simpa using deleted
    rw [stays]
    cases shouldCascadeDeleteSemantic record userId keys <;> simp [deleted]

theorem erases_exactly_when (data : List Dict) (request : EraseRequest) (clock : EraseClock) :
    ErasesExactly data request clock ↔ Erasable request.userId data := by
  constructor
  · rintro ⟨kept,report,erased,keeps,gone⟩
    obtain ⟨found,collected,returned⟩ := bind_ok.mp erased
    have readable := collectKeys_readable collected
    obtain ⟨held,same⟩ := collectKeys_ok readable
    obtain rfl : found = (plainKeys request.userId data,held) := Except.ok.inj (collected.symm.trans same)
    have whole := congrArg Prod.fst (Except.ok.inj returned)
    obtain rfl : _ = kept := (List.append_inj' whole rfl).1
    have stays : ∀ record ∈ data, fate request.userId (plainKeys request.userId data) (.dict record) = .kept →
        Value.dict record ∈ (data.map Value.dict).filter fun record => fate request.userId (plainKeys request.userId data) record = .kept :=
      fun record listed kept => List.mem_filter.mpr ⟨List.mem_map_of_mem listed,decide_eq_true kept⟩
    refine ⟨readable,?_,?_⟩
    · intro record listed owned hold shared
      have there := keeps record listed (.inl hold)
      have kept := of_decide_eq_true (List.mem_filter.mp there).2
      exact (fate_kept.mp kept).1 ⟨owned,shared⟩
    · intro record listed goes derived
      by_contra missed
      obtain ⟨other,alone⟩ := not_or.mp missed
      have kept : fate request.userId (plainKeys request.userId data) (.dict record) = .kept :=
        fate_kept.mpr ⟨fun both => other both.2,Bool.eq_false_of_not_eq_true alone⟩
      rw [gone record (stays record listed kept)] at goes
      cases goes
  · intro meets
    obtain ⟨held,collected⟩ := collectKeys_ok meets.readable
    refine ⟨_,_,by rw [eraseUserData,collected]; rfl,?_,?_⟩
    · intro record listed protected_
      refine List.mem_filter.mpr ⟨List.mem_map_of_mem listed,decide_eq_true (fate_kept.mpr ?_)⟩
      rcases protected_ with hold | ⟨foreign,other⟩
      · refine ⟨fun both => meets.apart record listed both.1 hold both.2,?_⟩
        refine Bool.eq_false_of_not_eq_true fun cascades => ?_
        rw [cascade_free cascades] at hold
        cases hold
      · refine ⟨fun both => ?_,Bool.eq_false_of_not_eq_true fun cascades => ?_⟩
        · rw [foreign] at both
          cases both.1
        · rw [cascade_mono (plainKeys_erasable request.userId data) cascades] at other
          cases other
    · intro record there
      obtain ⟨inside,kept⟩ := List.mem_filter.mp there
      obtain ⟨_,listed,same⟩ := List.mem_map.mp inside
      cases same
      obtain ⟨undeleted,uncascaded⟩ := fate_kept.mp (of_decide_eq_true kept)
      refine Bool.eq_false_of_not_eq_true fun goes => ?_
      obtain ⟨derived,read⟩ := meets.readable record listed goes
      have owned : ownedBy request.userId record = true := (Bool.and_eq_true_iff.mp goes).1
      have survives : keyText record ∉ plainKeys request.userId data := fun shared => undeleted ⟨owned,shared⟩
      cases derived with
      | true =>
        rcases meets.reached record listed goes read with shared | cascades
        · exact survives shared
        · rw [uncascaded] at cascades
          cases cascades
      | false =>
        refine survives (List.mem_map_of_mem (List.mem_filter.mpr ⟨listed,?_⟩))
        rw [plain,goes,read]
        rfl

def UniquePairs (data : List Dict) : Prop :=
  data.Pairwise fun a b => ¬(pyEq (a.get "user_id") (b.get "user_id") = true ∧ pyEq (a.get "key") (b.get "key") = true)

def heldEpisode : Dict :=
  [(.str "user_id",.str "u1"),(.str "key",.str "episode_1"),(.str "value",.dict [(.str "kind",.str "episodic"),(.str "text",.str "met the bank"),
    (.str "meta",.dict [(.str "user_id",.str "u1"),(.str "legal_hold",.bool true)])])]

def semanticNote : Dict :=
  [(.str "user_id",.str "u1"),(.str "key",.str "semantic_1"),(.str "value",.dict [(.str "kind",.str "semantic"),(.str "text",.str "banks with B"),
    (.str "meta",.dict [(.str "user_id",.str "u1"),(.str "source_episode_keys",.list [.str "episode_1"])])])]

-- A note distilled from an episode on hold is not on hold itself, and stays.
theorem distilled_note_survives : ¬∀ data request clock, UniquePairs data → ErasesExactly data request clock := by
  intro exact_
  have unique : UniquePairs [heldEpisode,semanticNote] := by
    refine List.pairwise_pair.mpr fun both => ?_
    exact absurd both.2 (by decide +kernel)
  obtain ⟨kept,report,erased,_,gone⟩ := exact_ [heldEpisode,semanticNote] ⟨"u1","request","user"⟩ ⟨"1970-01-01T00:00:00+00:00",0,.int 0⟩ unique
  have collected : collectKeys "u1" ([heldEpisode,semanticNote].map .dict) = .ok ([],1) := by rfl
  rw [eraseUserData,collected] at erased
  have whole := congrArg Prod.fst (Except.ok.inj erased)
  obtain rfl : _ = kept := (List.append_inj' whole rfl).1
  have stays : Value.dict semanticNote ∈ ([heldEpisode,semanticNote].map Value.dict).filter fun record => fate "u1" [] record = .kept :=
    List.mem_filter.mpr ⟨by simp,by decide +kernel⟩
  exact absurd (gone semanticNote stays) (by decide +kernel)

end VeritasOs.MemoryErase
