import Mathlib.Data.List.ReduceOption
import VeritasOs.MemoryStore

namespace VeritasOs.MemorySearch
open Text BindArtifacts Interaction PolicyBundle MemoryStore

def dictsOf (items : List Value) : List Dict := items.filterMap Value.asDict?

-- (hit.get("meta") or {}).get("user_id")
def hitOwner (hit : Dict) : Except Exc Value :=
  match if (hit.get "meta").truthy then hit.get "meta" else .dict [] with
  | .dict meta_ => .ok (Dict.get meta_ "user_id")
  | other => .error (attributeError (typeName other ++ " object has no attribute 'get'"))

-- One hit for each text and owner, the first of them, until there are k.
def dedupFrom (k : Int) : List (String × String) → List Dict → Except Exc (List Dict)
  | _,[] => .ok []
  | seen,hit :: rest => do
    let owner ← hitOwner hit
    let key := ((hit.get "text").orStr "",owner.orStr "")
    if key ∈ seen then dedupFrom k seen rest
    else if k ≤ seen.length + 1 then .ok [hit]
    else do
      let others ← dedupFrom k (key :: seen) rest
      .ok (hit :: others)

def dedupHits (hits : List Dict) (k : Int) : Except Exc (List Dict) := dedupFrom k [] hits

def collectCandidateHits : Value → List Dict
  | .list items => dictsOf items
  | .dict members =>
    (["hits","episodic","results"].findSome? fun key =>
      match Dict.get members key with
      | .list items => some (dictsOf items)
      | _ => none).getD []
  | _ => []

def belongs (userId owner : Value) : Bool := owner = .none || pyEq owner userId

def keepHits (userId : Value) : List Dict → Except Exc (List Dict)
  | [] => .ok []
  | hit :: rest => do
    let owner ← hitOwner hit
    let kept ← keepHits userId rest
    .ok (if belongs userId owner then hit :: kept else kept)

def filterHitsForUser (hits : List Dict) (userId : Value) : Except Exc (List Dict) :=
  if userId = .none then .ok hits else keepHits userId hits

def normalizeStoreHits (raw : Value) : List Dict :=
  match raw with
  | .dict members =>
    match Dict.get members "episodic" with
    | .list items => dictsOf items
    | _ => []
  | .list items => dictsOf items
  | _ => []

-- What the index answers to both of its signatures; it may raise.
structure Vector where
  search : Query → Except Exc Value
  oldSearch : String → Int → Except Exc Value

def newSignature (search : Query) (raw : Value) : Except Exc (Option (List Dict)) := do
  let candidates := collectCandidateHits raw
  if candidates = [] then .ok none
  else
    let filtered ← filterHitsForUser candidates search.userId
    let unique ← dedupHits (if filtered = [] then candidates else filtered) search.k
    .ok (some unique)

def oldSignature (search : Query) (raw : Value) : Except Exc (Option (List Dict)) :=
  match raw with
  | .list (first :: rest) => do
    let unique ← dedupHits (dictsOf (first :: rest)) search.k
    .ok (some unique)
  | _ => .ok none

-- What is raised in these classes is logged and the store is asked.
def fallBack (classes : List ExcKind) (error : Exc) : Except Exc (Option (List Dict)) :=
  if error.kind ∈ classes then .ok none else .error error

def vectorHits (vector : Vector) (search : Query) : Except Exc (Option (List Dict)) :=
  match vector.search search >>= newSignature search with
  | .ok hits => .ok hits
  | .error error =>
    if error.kind = .typeError then
      match vector.oldSearch search.query search.k >>= oldSignature search with
      | .ok hits => .ok hits
      | .error error => fallBack [.attributeError,.typeError,.valueError,.runtimeError] error
    else fallBack [.attributeError,.valueError,.runtimeError] error

def storeHits (platform : Platform) (search : Query) : Memory (List Dict) := do
  let found ← searchRecords platform search
  lift (dedupHits (normalizeStoreHits found) search.k)

def searchMemory (platform : Platform) (vector : Option Vector) (search : Query) : Memory (List Dict) :=
  match vector with
  | none => storeHits platform search
  | some vector => do
    match ← lift (vectorHits vector search) with
    | some hits => return hits
    | none => storeHits platform search

def Own (userId : Value) (hit : Dict) : Prop := ∃ owner, hitOwner hit = .ok owner ∧ belongs userId owner = true

def Readable (hits : List Dict) : Prop := ∀ hit ∈ hits, ∃ owner, hitOwner hit = .ok owner

variable {hits : List Dict} {platform : Platform} {search : Query}

theorem dedupFrom_subset (done : dedupFrom k seen hits = .ok unique) : ∀ hit ∈ unique, hit ∈ hits := by
  induction hits generalizing seen unique with
  | nil =>
    cases done
    exact fun _ listed => listed
  | cons head rest ih =>
    obtain ⟨owner,_,done⟩ := bind_ok.mp done
    dsimp only at done
    split at done
    · exact fun hit listed => List.mem_cons_of_mem _ (ih done hit listed)
    · split at done
      · cases done
        intro hit listed
        rw [List.mem_singleton.mp listed]
        exact List.mem_cons_self
      · obtain ⟨kept,later,made⟩ := bind_ok.mp done
        cases made
        intro hit listed
        rcases List.mem_cons.mp listed with rfl | listed
        · exact List.mem_cons_self
        · exact List.mem_cons_of_mem _ (ih later hit listed)

theorem dedupFrom_ok (k : Int) (seen : List (String × String)) (readable : Readable hits) :
    ∃ unique, dedupFrom k seen hits = .ok unique := by
  induction hits generalizing seen with
  | nil => exact ⟨[],rfl⟩
  | cons head rest ih =>
    obtain ⟨owner,owned⟩ := readable head List.mem_cons_self
    have others := fun seen => ih seen fun hit listed => readable hit (List.mem_cons_of_mem _ listed)
    rw [dedupFrom,owned]
    dsimp only [bind,Except.bind]
    split
    · exact others seen
    · split
      · exact ⟨_,rfl⟩
      · obtain ⟨kept,later⟩ := others (((head.get "text").orStr "",owner.orStr "") :: seen)
        exact ⟨_,by rw [later]⟩

theorem dedup_first (done : dedupHits (head :: rest) k = .ok unique) : head ∈ unique := by
  obtain ⟨owner,_,done⟩ := bind_ok.mp done
  dsimp only at done
  rw [if_neg List.not_mem_nil] at done
  split at done
  · cases done
    exact List.mem_cons_self
  · obtain ⟨kept,later,made⟩ := bind_ok.mp done
    cases made
    exact List.mem_cons_self

theorem keepHits_ok (done : keepHits userId hits = .ok kept) : Readable hits ∧ ∀ hit, hit ∈ kept ↔ hit ∈ hits ∧ Own userId hit := by
  induction hits generalizing kept with
  | nil =>
    cases done
    exact ⟨fun _ listed => absurd listed List.not_mem_nil,fun hit => by simp⟩
  | cons head rest ih =>
    obtain ⟨owner,owned,done⟩ := bind_ok.mp done
    obtain ⟨others,later,made⟩ := bind_ok.mp done
    obtain ⟨readable,exact_⟩ := ih later
    have own : Own userId head ↔ belongs userId owner = true :=
      ⟨fun ⟨_,same,mine⟩ => Except.ok.inj (owned.symm.trans same) ▸ mine,fun mine => ⟨owner,owned,mine⟩⟩
    refine ⟨List.forall_mem_cons.mpr ⟨⟨owner,owned⟩,readable⟩,fun hit => ?_⟩
    cases made
    by_cases mine : belongs userId owner = true
    · rw [if_pos mine,List.mem_cons,exact_,List.mem_cons]
      constructor
      · rintro (rfl | ⟨listed,his⟩)
        · exact ⟨.inl rfl,own.mpr mine⟩
        · exact ⟨.inr listed,his⟩
      · rintro ⟨rfl | listed,his⟩
        · exact .inl rfl
        · exact .inr ⟨listed,his⟩
    · rw [if_neg mine,exact_,List.mem_cons]
      constructor
      · rintro ⟨listed,his⟩
        exact ⟨.inr listed,his⟩
      · rintro ⟨rfl | listed,his⟩
        · exact absurd (own.mp his) mine
        · exact ⟨listed,his⟩

theorem keepHits_exists (userId : Value) (readable : Readable hits) : ∃ kept, keepHits userId hits = .ok kept := by
  induction hits with
  | nil => exact ⟨[],rfl⟩
  | cons head rest ih =>
    obtain ⟨owner,owned⟩ := readable head List.mem_cons_self
    obtain ⟨kept,later⟩ := ih fun hit listed => readable hit (List.mem_cons_of_mem _ listed)
    exact ⟨_,bind_ok.mpr ⟨owner,owned,bind_ok.mpr ⟨kept,later,rfl⟩⟩⟩

theorem recordHit_own (wanted : search.userId ≠ .none)
    (found : recordHit platform search value = .ok (some (score,hit))) : Own search.userId hit := by
  obtain ⟨record,_,found⟩ := bind_ok.mp found
  dsimp only at found
  split at found
  · cases found
  · rename_i kept
    have mine : pyEq (record.get "user_id") search.userId = true := by
      rw [not_and,Bool.not_eq_false] at kept
      exact kept wanted
    split at found
    · split at found
      · cases found
      · split at found
        · cases found
        · cases found
          exact ⟨record.get "user_id",rfl,by rw [belongs,mine,Bool.or_true]⟩
    · cases found

theorem mapM_member {f : α → Except Exc β} {items : List α} {results : List β} (done : items.mapM f = .ok results) :
    ∀ result ∈ results, ∃ item ∈ items, f item = .ok result := by
  induction items generalizing results with
  | nil =>
    cases done
    exact fun _ listed => absurd listed List.not_mem_nil
  | cons item rest ih =>
    rw [List.mapM_cons] at done
    obtain ⟨first,here,done⟩ := bind_ok.mp done
    obtain ⟨others,later,made⟩ := bind_ok.mp done
    cases made
    refine List.forall_mem_cons.mpr ⟨⟨item,List.mem_cons_self,here⟩,fun result listed => ?_⟩
    obtain ⟨other,member,there⟩ := ih later result listed
    exact ⟨other,List.mem_cons_of_mem _ member,there⟩

theorem buildKvsSearchHits_own {records : List Value} (wanted : search.userId ≠ .none)
    (built : buildKvsSearchHits platform search records = .ok hits) : ∀ hit ∈ hits, Own search.userId hit := by
  unfold buildKvsSearchHits at built
  split at built
  · cases built
    exact fun _ listed => absurd listed List.not_mem_nil
  · obtain ⟨scored,mapped,made⟩ := bind_ok.mp built
    cases made
    intro hit listed
    obtain ⟨⟨score,_⟩,sorted,rfl⟩ := List.mem_map.mp (List.mem_of_mem_take listed)
    have member := List.reduceOption_mem_iff.mp ((List.perm_insertionSort _ _).mem_iff.mp sorted)
    obtain ⟨value,_,found⟩ := mapM_member mapped _ member
    exact recordHit_own wanted found

theorem dictsOf_dicts (hits : List Dict) : dictsOf (hits.map Value.dict) = hits := by
  induction hits with
  | nil => rfl
  | cons hit rest ih => exact congrArg (hit :: ·) ih

theorem normalizeStoreHits_found (episodic : List Dict) :
    normalizeStoreHits (.dict (if episodic = [] then [] else [(.str "episodic",.list (episodic.map .dict))])) = episodic := by
  by_cases empty : episodic = []
  · rw [if_pos empty,empty]
    rfl
  · rw [if_neg empty]
    exact dictsOf_dicts episodic

theorem searchRecords_own (wanted : search.userId ≠ .none) :
    Yields (fun found => ∀ hit ∈ normalizeStoreHits found, Own search.userId hit) (searchRecords platform search) := by
  have found : ∀ data, Yields (fun found => ∀ hit ∈ normalizeStoreHits found, Own search.userId hit) (do
      let episodic ← lift (buildKvsSearchHits platform search data)
      return .dict (if episodic = [] then [] else [(.str "episodic",.list (episodic.map .dict))]) : Memory Value) := by
    intro data
    have hits := @yields_lift Op Ans _ _ (buildKvsSearchHits platform search data)
    refine @yields_bind _ _ _ _ _ _ _ _ _ @hits ?_
    intro episodic built hit listed
    rw [normalizeStoreHits_found] at listed
    exact buildKvsSearchHits_own wanted built hit listed
  unfold searchRecords
  exact @yields_all _ _ _ _ _ _ _ _ @found

theorem storeHits_own (wanted : search.userId ≠ .none) :
    Yields (fun hits => ∀ hit ∈ hits, Own search.userId hit) (storeHits platform search) := by
  have records := @searchRecords_own platform search wanted
  unfold storeHits
  refine @yields_bind _ _ _ _ _ _ _ _ _ @records ?_
  intro found own
  cases done : dedupHits (normalizeStoreHits found) search.k with
  | error error => trivial
  | ok unique => exact fun hit listed => own hit (dedupFrom_subset done hit listed)

-- The index never leaks: a candidate of the user's or of nobody stands among what it
-- finds, or the hits it gives to the old signature are all such.
def Isolated (vector : Vector) (search : Query) : Prop :=
  match vector.search search with
  | .ok raw => Readable (collectCandidateHits raw) → collectCandidateHits raw ≠ [] → ∃ hit ∈ collectCandidateHits raw, Own search.userId hit
  | .error error =>
    error.kind = .typeError → ∀ items unique, vector.oldSearch search.query search.k = .ok (.list items) →
      dedupHits (dictsOf items) search.k = .ok unique → ∀ hit ∈ unique, Own search.userId hit

def RaisesAttribute (outcome : Except Exc α) : Prop := ∀ error, outcome = .error error → error.kind = .attributeError

theorem raises_ok (value : α) : RaisesAttribute (.ok value) := by
  intro error raised
  cases raised

theorem raises_bind (here : RaisesAttribute first) (later : ∀ value, RaisesAttribute (f value)) : RaisesAttribute (first >>= f) := by
  cases first with
  | error error => exact fun other raised => by cases raised; exact here error rfl
  | ok value => exact later value

theorem raises_hitOwner (hit : Dict) : RaisesAttribute (hitOwner hit) := by
  unfold hitOwner
  split
  · exact raises_ok _
  · intro error raised
    cases raised
    rfl

theorem raises_dedup (k : Int) (seen : List (String × String)) (hits : List Dict) : RaisesAttribute (dedupFrom k seen hits) := by
  induction hits generalizing seen with
  | nil => exact raises_ok _
  | cons head rest ih =>
    refine raises_bind (raises_hitOwner head) fun owner => ?_
    dsimp only
    split
    · exact ih seen
    · split
      · exact raises_ok _
      · exact raises_bind (ih _) fun _ => raises_ok _

theorem raises_keep (userId : Value) (hits : List Dict) : RaisesAttribute (keepHits userId hits) := by
  induction hits with
  | nil => exact raises_ok _
  | cons head rest ih =>
    refine raises_bind (raises_hitOwner head) fun owner => ?_
    exact raises_bind ih fun _ => raises_ok _

section Vector
variable {vector : Vector} {search : Query}

theorem raises_newSignature (raw : Value) : RaisesAttribute (newSignature search raw) := by
  unfold newSignature
  dsimp only
  split
  · exact raises_ok _
  · refine raises_bind ?_ fun filtered => raises_bind (raises_dedup _ _ _) fun _ => raises_ok _
    unfold filterHitsForUser
    split
    · exact raises_ok _
    · exact raises_keep _ _

theorem newSignature_exact (wanted : search.userId ≠ .none)
    (candidates : collectCandidateHits raw = head :: rest) (readable : Readable (head :: rest)) :
    ∃ unique, newSignature search raw = .ok (some unique) ∧
      ((∀ hit ∈ unique, Own search.userId hit) ↔ ∃ hit ∈ head :: rest, Own search.userId hit) := by
  obtain ⟨kept,filtered⟩ := keepHits_exists search.userId readable
  obtain ⟨_,own⟩ := keepHits_ok filtered
  have given : filterHitsForUser (collectCandidateHits raw) search.userId = .ok kept := by
    rw [filterHitsForUser,if_neg wanted,candidates,filtered]
  have returned : ∀ unique, dedupHits (if kept = [] then head :: rest else kept) search.k = .ok unique → newSignature search raw = .ok (some unique) := by
    intro unique done
    unfold newSignature
    dsimp only
    rw [if_neg (by rw [candidates]; exact List.cons_ne_nil _ _),given,candidates]
    exact bind_ok.mpr ⟨kept,rfl,bind_ok.mpr ⟨unique,done,rfl⟩⟩
  by_cases none_ : kept = []
  · obtain ⟨unique,done⟩ := dedupFrom_ok search.k [] readable
    rw [if_pos none_] at returned
    refine ⟨unique,returned unique done,⟨fun every => ⟨head,List.mem_cons_self,every head (dedup_first done)⟩,fun ⟨hit,listed,mine⟩ => ?_⟩⟩
    have among := (own hit).mpr ⟨listed,mine⟩
    rw [none_] at among
    exact absurd among List.not_mem_nil
  · have keptReadable : Readable kept := fun hit listed => readable hit ((own hit).mp listed).1
    obtain ⟨unique,done⟩ := dedupFrom_ok search.k [] keptReadable
    rw [if_neg none_] at returned
    have every : ∀ hit ∈ unique, Own search.userId hit := fun hit listed => ((own hit).mp (dedupFrom_subset done hit listed)).2
    obtain ⟨first,listed⟩ := List.exists_mem_of_ne_nil kept none_
    exact ⟨unique,returned unique done,fun _ => ⟨first,(own first).mp listed⟩,fun _ => every⟩

theorem fallBack_none : fallBack classes error ≠ .ok (some hits) := by
  unfold fallBack
  split <;> simp

theorem vectorHits_new (wanted : search.userId ≠ .none) (answered : vector.search search = .ok raw) :
    (∀ hits, vectorHits vector search = .ok (some hits) → ∀ hit ∈ hits, Own search.userId hit) ↔ Isolated vector search := by
  have asked : vector.search search >>= newSignature search = newSignature search raw := by rw [answered]; rfl
  unfold Isolated vectorHits
  rw [asked,answered]
  dsimp only
  cases found : collectCandidateHits raw with
  | nil =>
    have nothing : newSignature search raw = .ok none := by
      unfold newSignature
      dsimp only
      rw [if_pos found]
    rw [nothing]
    simp
  | cons head rest =>
    by_cases readable : Readable (head :: rest)
    · obtain ⟨unique,returned,exact_⟩ := newSignature_exact wanted found readable
      rw [returned]
      constructor
      · exact fun own _ _ => exact_.mp (own unique rfl)
      · intro own hits same
        cases same
        exact exact_.mpr (own readable (List.cons_ne_nil _ _))
    · -- A candidate without readable metadata raises, and the store is asked.
      refine ⟨fun _ reads => absurd reads readable,fun _ hits returned => ?_⟩
      cases outcome : newSignature search raw with
      | error error =>
        rw [outcome] at returned
        dsimp only at returned
        rw [raises_newSignature raw error outcome,if_neg (by decide)] at returned
        exact absurd returned fallBack_none
      | ok result =>
        unfold newSignature at outcome
        dsimp only at outcome
        rw [if_neg (by rw [found]; exact List.cons_ne_nil _ _)] at outcome
        obtain ⟨kept,filtered,_⟩ := bind_ok.mp outcome
        rw [filterHitsForUser,if_neg wanted,found] at filtered
        exact absurd (keepHits_ok filtered).1 readable

theorem vectorHits_old (raised : vector.search search = .error error) :
    (∀ hits, vectorHits vector search = .ok (some hits) → ∀ hit ∈ hits, Own search.userId hit) ↔ Isolated vector search := by
  have asked : vector.search search >>= newSignature search = .error error := by rw [raised]; rfl
  unfold Isolated vectorHits
  rw [asked,raised]
  dsimp only
  by_cases mismatch : error.kind = .typeError
  · rw [if_pos mismatch]
    constructor
    · intro own _ items unique given done
      cases items with
      | nil =>
        cases done
        exact fun _ listed => absurd listed List.not_mem_nil
      | cons first rest =>
        have returned : vector.oldSearch search.query search.k >>= oldSignature search = .ok (some unique) := by
          exact bind_ok.mpr ⟨_,given,bind_ok.mpr ⟨unique,done,rfl⟩⟩
        rw [returned] at own
        exact own unique rfl
    · intro own hits returned
      cases outcome : vector.oldSearch search.query search.k >>= oldSignature search with
      | error other =>
        rw [outcome] at returned
        exact absurd returned fallBack_none
      | ok result =>
        rw [outcome] at returned
        cases returned
        obtain ⟨raw,given,made⟩ := bind_ok.mp outcome
        unfold oldSignature at made
        split at made
        · obtain ⟨unique,done,same⟩ := bind_ok.mp made
          cases same
          exact own mismatch _ _ given done
        · cases made
  · rw [if_neg mismatch]
    exact ⟨fun _ same => absurd same mismatch,fun _ hits returned => absurd returned fallBack_none⟩

end Vector

theorem search_isolated_exact (platform : Platform) (vector : Option Vector) (search : Query) (wanted : search.userId ≠ .none) :
    (∀ trace hits, Returns (searchMemory platform vector search) trace hits → ∀ hit ∈ hits, Own search.userId hit) ↔
      ∀ index, vector = some index → Isolated index search := by
  have stored {trace : List (Event Ans)} {hits : List Dict} (path : Leads (storeHits platform search) trace (.pure hits)) :
      ∀ hit ∈ hits, Own search.userId hit := by
    have own := @storeHits_own platform search wanted
    have told : Yields (fun hits => ∀ hit ∈ hits, Own search.userId hit) (.pure hits) := Leads.yields path own
    exact told
  cases vector with
  | none =>
    constructor
    · intro _ index same
      cases same
    · intro _ trace hits returned
      have path : Leads (storeHits platform search) trace (.pure hits) := @returned
      exact stored path
  | some index =>
    have exact_ : (∀ hits, vectorHits index search = .ok (some hits) → ∀ hit ∈ hits, Own search.userId hit) ↔ Isolated index search := by
      cases answered : index.search search with
      | ok raw => exact vectorHits_new wanted answered
      | error error => exact vectorHits_old answered
    constructor
    · intro own other same
      cases same
      refine exact_.mp fun hits given => own [] hits ?_
      unfold searchMemory
      dsimp only
      rw [given]
      exact .done _
    · intro isolated trace hits returned
      have own := exact_.mpr (isolated index rfl)
      unfold searchMemory at returned
      dsimp only at returned
      cases given : vectorHits index search with
      | error error =>
        rw [given] at returned
        cases returned
      | ok found =>
        rw [given] at returned
        cases found with
        | none =>
          have path : Leads (storeHits platform search) trace (.pure hits) := @returned
          exact stored path
        | some unique =>
          cases returned
          exact own _ given

def sampleQuery : Query := { query := "plan",k := 10,userId := .str "u1" }

def hitOf (owner : String) : Dict := [(.str "text",.str "plan"),(.str "meta",.dict [(.str "user_id",.str owner)])]

def indexOf (hits : List Dict) : Vector where
  search := fun _ => .ok (.list (hits.map .dict))
  oldSearch := fun _ _ => .ok (.list [])

theorem foreign_hit_returned : ¬∀ trace hits, Returns (searchMemory samplePlatform (some (indexOf [hitOf "u2"])) sampleQuery) trace hits →
    ∀ hit ∈ hits, Own sampleQuery.userId hit := by
  intro isolated
  have returned : Returns (searchMemory samplePlatform (some (indexOf [hitOf "u2"])) sampleQuery) [] [hitOf "u2"] := .done _
  obtain ⟨owner,owned,mine⟩ := isolated [] _ returned (hitOf "u2") List.mem_cons_self
  cases owned
  exact absurd mine (by decide +kernel)

theorem search_isolated_exact_sample : sampleQuery.userId ≠ .none ∧ ∀ trace hits,
    Returns (searchMemory samplePlatform (some (indexOf [hitOf "u2",hitOf "u1"])) sampleQuery) trace hits →
      ∀ hit ∈ hits, Own sampleQuery.userId hit := by
  refine ⟨by decide,?_⟩
  refine (search_isolated_exact samplePlatform (some (indexOf [hitOf "u2",hitOf "u1"])) sampleQuery (by decide)).mpr ?_
  intro index same
  cases same
  exact fun _ _ => ⟨hitOf "u1",by simp [collectCandidateHits,dictsOf,Value.asDict?],_,rfl,by decide +kernel⟩

end VeritasOs.MemorySearch
