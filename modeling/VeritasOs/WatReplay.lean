import VeritasOs.WatVerifier

namespace VeritasOs.WatReplay
open Text BindArtifacts WatVerifier

structure Step where
  setting : Setting
  call : Call

structure Entry where
  step : Step
  cache : List String
  outcome : Except Exc VerifierResult

def after (cache : List String) (step : Step) : List String := ((validateLocal step.setting (some cache) step.call).2).getD []

def entry (cache : List String) (step : Step) : Entry := ⟨step,cache,(validateLocal step.setting (some cache) step.call).1⟩

def validateAll : List String → List Step → List Entry
  | _,[] => []
  | cache,step :: rest => entry cache step :: validateAll (after cache step) rest

def Step.triple (step : Step) : String × String × String := (step.call.actionDigest,step.call.executionNonce,step.call.sessionId)

def Step.key (step : Step) : String := step.call.actionDigest ++ ":" ++ step.call.executionNonce ++ ":" ++ step.call.sessionId

-- The call returned a status that uses the token up.
def Accepted (found : Entry) : Prop := ∃ result, found.outcome = .ok result ∧ result.validationStatus.consumes = true

def RejectedByCache (found : Entry) : Prop :=
  ∃ token signature claims partialAllowed threshold, tokenOf found.step.call.signedWat = some (token,signature) ∧
    prepare found.step.setting token found.step.call = .ok (claims,partialAllowed,threshold) ∧
    earlyVerdict found.step.setting token signature claims found.step.call threshold = .ok none ∧
    bindingKey claims found.step.call ∈ found.cache

def AtMostOnce (entries : List Entry) : Prop :=
  entries.Pairwise fun earlier later => ¬(Accepted earlier ∧ Accepted later ∧ earlier.step.triple = later.step.triple)

def RejectsReplaysOnly (entries : List Entry) : Prop :=
  ∀ before found rest, entries = before ++ found :: rest → RejectedByCache found →
    ∃ earlier ∈ before, Accepted earlier ∧ earlier.step.triple = found.step.triple

-- No two calls have other triples but one key, and the configured drift can be scored.
structure Apart (steps : List Step) : Prop where
  keys : ∀ one ∈ steps, ∀ other ∈ steps, one.key = other.key → one.triple = other.triple
  scored : ∀ step ∈ steps, ∀ drift, ∃ score, scoreDrift step.setting.python drift (step.setting.config.get "drift_weights")
    (step.setting.config.get "drift_thresholds") = .ok score

theorem buildAuditEventRef_ok (sha256 : String → String) (status : Status) (failure : Option String) (key : String) :
    ∃ reference, buildAuditEventRef sha256 status failure key = .ok reference := by
  have dumps : ∃ text, canonicalJsonDumps (.dict [(.str "validation_status",.str status.text),(.str "failure_type",optStr failure),
      (.str "binding_key",.str key)]) = some text := by
    cases failure <;> exact ⟨_,rfl⟩
  obtain ⟨text,dumped⟩ := dumps
  unfold buildAuditEventRef sha256OfCanonicalJson
  rw [dumped]
  exact ⟨_,rfl⟩

variable {cache : List String} {verdict : Verdict}

theorem resolvePostValidationChecks_fresh
    (returned : resolvePostValidationChecks setting (some cache) claims call = .ok verdict) (consumes : verdict.status.consumes = true) :
    bindingKey claims call ∉ cache := by
  intro cached
  unfold resolvePostValidationChecks at returned
  rw [if_pos (by simpa using cached)] at returned
  cases returned
  cases consumes

-- How a call can use its token up.
structure Consumed (cache : List String) (step : Step) (verdict : Verdict) : Prop where
  fresh : step.key ∉ cache
  recorded : after cache step = step.key :: cache
  outcome : ∃ key partialAllowed, (entry cache step).outcome = report step.setting key partialAllowed verdict
  consumes : verdict.status.consumes = true

theorem judged_consumes (returned : judged setting (some cache) token signature call = .ok (claims,partialAllowed,verdict))
    (consumes : verdict.status.consumes = true) : bindingKey claims call = (Step.mk setting call).key ∧ bindingKey claims call ∉ cache := by
  obtain ⟨⟨_,_,threshold⟩,prepared,returned⟩ := bind_ok.mp returned
  obtain ⟨_,verdicts,returned⟩ := bind_ok.mp returned
  cases returned
  obtain ⟨early,checked,verdicts⟩ := bind_ok.mp verdicts
  cases early with
  | some refusal =>
    cases verdicts
    rcases earlyVerdict_some checked with refused | refused <;> rw [refused] at consumes <;> cases consumes
  | none =>
    refine ⟨?_,resolvePostValidationChecks_fresh verdicts consumes⟩
    rw [bindingKey,Step.key,(earlyVerdict_none checked).bound.action]

-- Either the cache stays and nothing is accepted, or the token is used up.
theorem call_cases (cache : List String) (step : Step) :
    (after cache step = cache ∧ ¬Accepted (entry cache step)) ∨ ∃ verdict, Consumed cache step verdict := by
  cases formed : tokenOf step.call.signedWat with
  | none =>
    have whole : validateLocal step.setting (some cache) step.call = (malformedResult step.setting,some cache) := by rw [validateLocal,formed]
    refine .inl ⟨by rw [after,whole]; rfl,?_⟩
    rintro ⟨result,returned,consumes⟩
    rw [entry,whole] at returned
    obtain ⟨reference,_,returned⟩ := bind_ok.mp returned
    cases returned
    cases consumes
  | some parts =>
    obtain ⟨token,signature⟩ := parts
    cases outcome : judged step.setting (some cache) token signature step.call with
    | error error =>
      have whole : validateLocal step.setting (some cache) step.call = (.error error,some cache) := by
        simp only [validateLocal,formed,outcome]
      refine .inl ⟨by rw [after,whole]; rfl,?_⟩
      rintro ⟨result,returned,_⟩
      rw [entry,whole] at returned
      cases returned
    | ok found =>
      obtain ⟨claims,partialAllowed,verdict⟩ := found
      have whole : validateLocal step.setting (some cache) step.call = (report step.setting (bindingKey claims step.call) partialAllowed verdict,
          if verdict.status.consumes then some (bindingKey claims step.call :: cache) else some cache) := by
        simp only [validateLocal,formed,outcome,Option.map_some]
      cases consumes : verdict.status.consumes with
      | true =>
        obtain ⟨key,fresh⟩ := judged_consumes outcome consumes
        refine .inr ⟨verdict,key ▸ fresh,?_,⟨_,_,congrArg Prod.fst whole⟩,consumes⟩
        rw [after,whole,consumes,key]
        rfl
      | false =>
        refine .inl ⟨by rw [after,whole,consumes]; rfl,?_⟩
        rintro ⟨result,returned,used⟩
        rw [entry,whole] at returned
        rw [(report_ok returned).1,consumes] at used
        cases used

theorem accepted_key_later (cached : key ∈ cache) : ∀ found ∈ validateAll cache steps, Accepted found → found.step.key ≠ key := by
  induction steps generalizing cache with
  | nil => exact fun found listed => nomatch listed
  | cons step rest ih =>
    intro found listed accepted same
    have kept : key ∈ after cache step := by
      rcases call_cases cache step with ⟨stays,_⟩ | ⟨verdict,consumed⟩
      · rw [stays]
        exact cached
      · rw [consumed.recorded]
        exact List.mem_cons_of_mem _ cached
    rcases List.mem_cons.mp listed with rfl | later
    · rcases call_cases cache step with ⟨_,refused⟩ | ⟨verdict,consumed⟩
      · exact refused accepted
      · exact consumed.fresh (same ▸ cached)
    · exact ih kept found later accepted same

theorem at_most_once (cache : List String) (steps : List Step) : AtMostOnce (validateAll cache steps) := by
  induction steps generalizing cache with
  | nil => exact .nil
  | cons step rest ih =>
    refine List.pairwise_cons.mpr ⟨fun later listed both => ?_,ih _⟩
    obtain ⟨first,second,triples⟩ := both
    rcases call_cases cache step with ⟨_,refused⟩ | ⟨verdict,consumed⟩
    · exact refused first
    · have cached : step.key ∈ after cache step := by rw [consumed.recorded]; exact List.mem_cons_self
      refine accepted_key_later cached later listed second ?_
      have same : later.step.triple = step.triple := triples.symm
      unfold Step.triple at same
      simp only [Prod.mk.injEq] at same
      rw [Step.key,Step.key,same.1,same.2.1,same.2.2]

theorem rejected_key (rejected : RejectedByCache found) : found.step.key ∈ found.cache := by
  obtain ⟨token,signature,claims,partialAllowed,threshold,_,_,passed,cached⟩ := rejected
  rw [bindingKey,(earlyVerdict_none passed).bound.action] at cached
  exact cached

theorem consumed_accepted (consumed : Consumed cache step verdict)
    (scored : ∀ drift, ∃ score, scoreDrift step.setting.python drift (step.setting.config.get "drift_weights") (step.setting.config.get "drift_thresholds") = .ok score) :
    Accepted (entry cache step) := by
  obtain ⟨key,partialAllowed,returned⟩ := consumed.outcome
  obtain ⟨score,ok⟩ := scored verdict.drift
  rw [report,ok] at returned
  obtain ⟨reference,built⟩ := buildAuditEventRef_ok step.setting.sha256 verdict.status
    (if verdict.status = .partial_ ∧ partialAllowed = false then some "partial_validation_timebox_expired" else verdict.failure) key
  simp only [bind,Except.bind] at returned
  rw [built] at returned
  exact ⟨_,returned,consumed.consumes⟩

-- The keys of a cache come from accepted calls of the past.
def Sourced (past : List Entry) (cache : List String) : Prop := ∀ key ∈ cache, ∃ earlier ∈ past, Accepted earlier ∧ earlier.step.key = key

theorem sourced_after (sourced : Sourced past cache)
    (scored : ∀ drift, ∃ score, scoreDrift step.setting.python drift (step.setting.config.get "drift_weights") (step.setting.config.get "drift_thresholds") = .ok score) :
    Sourced (past ++ [entry cache step]) (after cache step) := by
  intro key cached
  rcases call_cases cache step with ⟨stays,_⟩ | ⟨verdict,consumed⟩
  · rw [stays] at cached
    obtain ⟨earlier,listed,facts⟩ := sourced key cached
    exact ⟨earlier,List.mem_append_left _ listed,facts⟩
  · rw [consumed.recorded] at cached
    rcases List.mem_cons.mp cached with rfl | old
    · exact ⟨entry cache step,List.mem_append_right _ (List.mem_singleton_self _),consumed_accepted consumed scored,rfl⟩
    · obtain ⟨earlier,listed,facts⟩ := sourced key old
      exact ⟨earlier,List.mem_append_left _ listed,facts⟩

theorem rejected_sourced {steps : List Step} {past : List Entry} (sourced : Sourced past cache)
    (scored : ∀ step ∈ steps, ∀ drift, ∃ score, scoreDrift step.setting.python drift (step.setting.config.get "drift_weights") (step.setting.config.get "drift_thresholds") = .ok score)
    {before rest : List Entry} {found : Entry} (split : validateAll cache steps = before ++ found :: rest)
    (rejected : RejectedByCache found) : ∃ earlier ∈ past ++ before, Accepted earlier ∧ earlier.step.key = found.step.key := by
  induction steps generalizing past cache before with
  | nil => cases before <;> cases split
  | cons step others ih =>
    cases before with
    | nil =>
      obtain ⟨rfl,_⟩ := List.cons.inj split
      rw [List.append_nil]
      exact sourced _ (rejected_key rejected)
    | cons first before =>
      obtain ⟨rfl,later⟩ := List.cons.inj split
      have next := sourced_after sourced (scored step List.mem_cons_self)
      obtain ⟨earlier,listed,facts⟩ := ih next (fun other there => scored other (List.mem_cons_of_mem _ there)) later
      exact ⟨earlier,by simpa using listed,facts⟩

theorem validateAll_steps (cache : List String) (steps : List Step) : (validateAll cache steps).map Entry.step = steps := by
  induction steps generalizing cache with
  | nil => rfl
  | cons step rest ih =>
    rw [validateAll,List.map_cons,ih]
    rfl

theorem replay_cache_exact (steps : List Step) :
    AtMostOnce (validateAll [] steps) ∧ (Apart steps → RejectsReplaysOnly (validateAll [] steps)) := by
  refine ⟨at_most_once [] steps,fun apart before found rest split rejected => ?_⟩
  have sourced : Sourced [] [] := fun key cached => nomatch cached
  obtain ⟨earlier,listed,accepted,same⟩ := rejected_sourced sourced apart.scored split rejected
  rw [List.nil_append] at listed
  have whole := validateAll_steps [] steps
  rw [split,List.map_append,List.map_cons] at whole
  have foundStep : found.step ∈ steps := by rw [← whole]; simp
  have earlierStep : earlier.step ∈ steps := by
    rw [← whole]
    exact List.mem_append_left _ (List.mem_map_of_mem listed)
  exact ⟨earlier,listed,accepted,apart.keys _ earlierStep _ foundStep same⟩

def stepOf (actionDigest nonce sessionId : String) : Step where
  setting := sampleSetting
  call := { sampleCall .none with
    signedWat := .dict [(.str "claims",.dict (Dict.update sampleClaims [(.str "action_digest",.str actionDigest),(.str "nonce",.str nonce),
      (.str "session_id",.str sessionId)])),(.str "signature",.str "sig")]
    actionDigest := actionDigest
    executionNonce := nonce
    sessionId := sessionId }

theorem other_triple_rejected : ¬∀ steps, AtMostOnce (validateAll [] steps) ∧ RejectsReplaysOnly (validateAll [] steps) := by
  intro exact_
  have rejected : RejectedByCache (entry (after [] (stepOf "a:b" "c" "s")) (stepOf "a" "b:c" "s")) :=
    ⟨_,_,_,_,_,rfl,rfl,rfl,List.contains_iff_mem.mp (by decide +kernel)⟩
  obtain ⟨earlier,listed,_,same⟩ := (exact_ [stepOf "a:b" "c" "s",stepOf "a" "b:c" "s"]).2 [entry [] (stepOf "a:b" "c" "s")] _ [] rfl rejected
  cases List.mem_singleton.mp listed
  exact absurd same (by decide +kernel)

theorem replay_cache_exact_sample : RejectsReplaysOnly (validateAll [] [stepOf "a" "b" "s",stepOf "a" "b" "s"]) := by
  refine (replay_cache_exact [stepOf "a" "b" "s",stepOf "a" "b" "s"]).2 ⟨?_,?_⟩
  · intro one first other second _
    simp only [List.mem_cons,List.not_mem_nil,or_false,or_self] at first second
    rw [first,second]
  · intro step listed drift
    simp only [List.mem_cons,List.not_mem_nil,or_false,or_self] at listed
    rw [listed]
    exact ⟨_,rfl⟩

end VeritasOs.WatReplay
