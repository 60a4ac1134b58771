import VeritasOs.WatVerifier

namespace VeritasOs.WatAnswers
open Text BindArtifacts WatVerifier

def Answers (outcome : Except Exc α) : Prop := ∃ answer, outcome = .ok answer

theorem answers_bind (given : Answers first) (follows : ∀ answer, first = .ok answer → Answers (next answer)) :
    Answers (first >>= next) := by
  obtain ⟨answer,same⟩ := given
  obtain ⟨result,done⟩ := follows answer same
  exact ⟨result,bind_ok.mpr ⟨answer,same,done⟩⟩

theorem answers_first (given : Answers (first >>= next)) : ∃ answer, first = .ok answer ∧ Answers (next answer) := by
  obtain ⟨result,done⟩ := given
  obtain ⟨answer,same,later⟩ := bind_ok.mp done
  exact ⟨answer,same,result,later⟩

theorem answers_mapM (items : List α) : Answers (items.mapM transform) ↔ ∀ item ∈ items, Answers (transform item) := by
  induction items with
  | nil => exact ⟨fun _ _ listed => (by cases listed),fun _ => ⟨[],rfl⟩⟩
  | cons first rest ih =>
    rw [List.mapM_cons,List.forall_mem_cons]
    constructor
    · intro given
      obtain ⟨answer,one,given⟩ := answers_first given
      obtain ⟨others,more,_⟩ := answers_first given
      exact ⟨⟨answer,one⟩,ih.mp ⟨others,more⟩⟩
    · rintro ⟨one,more⟩
      exact answers_bind one fun _ _ => answers_bind (ih.mpr more) fun _ _ => ⟨_,rfl⟩

-- What the configuration and its verifier are asked for is answered, whatever the token is.
structure WellConfigured (setting : Setting) : Prop where
  observer : ∀ now, Answers (isPartialAllowed setting now)
  threshold : Answers (toInt setting.python (setting.config.getD "replay_binding_escalation_threshold" (.int 4)))
  tolerance : Answers (toInt setting.python (setting.config.getD "timestamp_skew_tolerance_seconds" (.int 30)))
  verifier : ∀ token signature, Answers (verifySignatureLocal setting token signature)
  scores : ∀ drift, Answers (scoreDrift setting.python drift (setting.config.get "drift_weights") (setting.config.get "drift_thresholds"))

def textClaims (token : Dict) : Claims :=
  ⟨claimText token "psid_full",claimText token "action_digest",claimText token "observable_digest",
    normalizeObservableDigestList (token.get "observable_digest_list"),none,none,claimText token "nonce",claimText token "session_id"⟩

-- The token gets as far as the comparison of its digests with those of the local references.
structure Compared (setting : Setting) (token : Dict) (signature : String) (call : Call) : Prop where
  unconfirmed : deriveRevocationStatus call.revocationState ≠ .confirmed
  signed : verifySignatureLocal setting token signature = .ok true
  psid : claimText token "psid_full" = call.psidFull
  bound : resolveReplayBindingFailure (configured setting "replay_binding_required" false) (textClaims token) call 4 = none
  observable : claimText token "observable_digest" = call.observableDigest
  listed : (normalizeObservableDigestList (token.get "observable_digest_list")).isSome = true

structure Timed (python : Python) (token : Dict) : Prop where
  issuance : Answers (toEpoch python (token.get "issuance_ts"))
  expiry : Answers (toEpoch python (token.get "expiry_ts"))

-- The references that are hashed are ones json can encode.
def Hashable (setting : Setting) (token : Dict) (signature : String) (call : Call) : Prop :=
  Compared setting token signature call → ∀ refs, call.observableRefs = some refs → ∀ ref ∈ refs, Recordable ref

theorem canonical_answers (sha256 : String → String) (value : Value) : Answers (sha256OfCanonicalJson sha256 value) ↔ Recordable value := by
  unfold sha256OfCanonicalJson
  rw [← canonical_recordable]
  cases canonicalJsonDumps value with
  | none => exact ⟨fun ⟨_,done⟩ => (by cases done),fun written => (by cases written)⟩
  | some text => exact ⟨fun _ => rfl,fun _ => ⟨_,rfl⟩⟩

theorem auditEventRef_answers (sha256 : String → String) (status : Status) (failure : Option String) (key : String) :
    Answers (buildAuditEventRef sha256 status failure key) := by
  refine answers_bind ((canonical_answers sha256 _).mpr ?_) fun _ _ => ⟨_,rfl⟩
  refine (recordable_dict ?_).mpr ?_
  · intro member listed
    simp only [List.mem_cons,List.not_mem_nil,or_false] at listed
    rcases listed with rfl | rfl | rfl <;> exact ⟨_,rfl⟩
  · intro member listed
    simp only [List.mem_cons,List.not_mem_nil,or_false] at listed
    rcases listed with rfl | rfl | rfl
    · rfl
    · cases failure <;> rfl
    · rfl

theorem report_answers (well : WellConfigured setting) (key : String) (partialAllowed : Bool) (verdict : Verdict) :
    Answers (report setting key partialAllowed verdict) :=
  answers_bind (well.scores verdict.drift) fun _ _ => answers_bind (auditEventRef_answers _ _ _ _) fun _ _ => ⟨_,rfl⟩

theorem malformed_answers (setting : Setting) : Answers (malformedResult setting) :=
  answers_bind (auditEventRef_answers _ _ _ _) fun _ _ => ⟨_,rfl⟩

theorem postChecks_answer (well : WellConfigured setting) (cache : Option (List String)) (claims : Claims) (call : Call) :
    Answers (resolvePostValidationChecks setting cache claims call) := by
  unfold resolvePostValidationChecks
  split
  · exact ⟨_,rfl⟩
  · split
    · exact ⟨_,rfl⟩
    · split
      · exact ⟨_,rfl⟩
      · split
        · split <;> exact ⟨_,rfl⟩
        · exact answers_bind well.tolerance fun _ _ => ⟨_,rfl⟩

theorem binding_none :
    resolveReplayBindingFailure required { textClaims token with issuanceTs := issuanceTs, expiryTs := expiryTs } call threshold = none ↔
      resolveReplayBindingFailure required (textClaims token) call 4 = none := by
  unfold resolveReplayBindingFailure
  dsimp only
  split
  · simp
  · rfl

theorem earlyVerdict_answers (well : WellConfigured setting) (issuanceTs expiryTs : Option Int) (threshold : Int) :
    Answers (earlyVerdict setting token signature { textClaims token with issuanceTs := issuanceTs, expiryTs := expiryTs } call threshold) ↔
      Hashable setting token signature call := by
  have hashed : Compared setting token signature call → ((∀ refs, call.observableRefs = some refs → ∀ ref ∈ refs, Recordable ref) ↔
      Hashable setting token signature call) := fun compared => ⟨fun each _ => each,fun hashable => hashable compared⟩
  have skips : ¬Compared setting token signature call → Hashable setting token signature call := fun apart compared => absurd compared apart
  unfold earlyVerdict
  split
  next confirmed => exact ⟨fun _ => skips fun compared => compared.unconfirmed confirmed,fun _ => ⟨_,rfl⟩⟩
  next unconfirmed =>
    obtain ⟨accepted,signed⟩ := well.verifier token signature
    rw [signed]
    change Answers (if (!accepted) = true then _ else _) ↔ _
    cases accepted with
    | false => exact ⟨fun _ => skips fun compared => (by cases signed.symm.trans compared.signed),fun _ => ⟨_,rfl⟩⟩
    | true =>
      rw [if_neg (by decide)]
      split
      next psid => exact ⟨fun _ => skips fun compared => psid compared.psid,fun _ => ⟨_,rfl⟩⟩
      next psid =>
        split
        next failure binding =>
          refine ⟨fun _ => skips fun compared => ?_,fun _ => ⟨_,rfl⟩⟩
          rw [binding_none.mpr compared.bound] at binding
          cases binding
        next binding =>
          split
          next observable => exact ⟨fun _ => skips fun compared => observable compared.observable,fun _ => ⟨_,rfl⟩⟩
          next observable =>
            split
            next refs claimed local_ listed =>
              have compared : Compared setting token signature call :=
                ⟨unconfirmed,signed,not_not.mp psid,binding_none.mp binding,not_not.mp observable,by
                  change (textClaims token).observableDigestList.isSome = true
                  rw [show (textClaims token).observableDigestList = some claimed from listed]
                  rfl⟩
              rw [← hashed compared]
              constructor
              · intro answered other same
                obtain ⟨computed,digests,_⟩ := answers_first answered
                cases local_.symm.trans same
                intro ref present
                exact (canonical_answers setting.sha256 ref).mp ((answers_mapM refs).mp ⟨computed,digests⟩ ref present)
              · intro each
                refine answers_bind ((answers_mapM refs).mpr fun ref present => (canonical_answers setting.sha256 ref).mpr (each refs local_ ref present)) ?_
                intro computed _
                split <;> exact ⟨_,rfl⟩
            next others =>
              refine ⟨fun _ => ?_,fun _ => ⟨_,rfl⟩⟩
              intro compared refs local_
              obtain ⟨claimed,listed⟩ := Option.isSome_iff_exists.mp compared.listed
              exact absurd listed (others refs claimed local_)

theorem judged_answers (well : WellConfigured setting) (cache : Option (List String)) (token : Dict) (signature : String) (call : Call) :
    Answers (judged setting cache token signature call) ↔ Timed setting.python token ∧ Hashable setting token signature call := by
  constructor
  · intro answered
    obtain ⟨⟨claims,partialAllowed,threshold⟩,prepared,answered⟩ := answers_first answered
    obtain ⟨verdict,judged_,_⟩ := answers_first answered
    obtain ⟨_,read,prepared⟩ := bind_ok.mp prepared
    obtain ⟨_,_,prepared⟩ := bind_ok.mp prepared
    obtain ⟨_,_,prepared⟩ := bind_ok.mp prepared
    cases prepared
    obtain ⟨issuanceTs,expiryTs,issuance,expiry,rfl⟩ := readClaims_ok read
    obtain ⟨early,checked,_⟩ := answers_first ⟨verdict,judged_⟩
    exact ⟨⟨⟨_,issuance⟩,_,expiry⟩,(earlyVerdict_answers well issuanceTs expiryTs _).mp ⟨early,checked⟩⟩
  · rintro ⟨⟨⟨issuanceTs,issuance⟩,expiryTs,expiry⟩,hashable⟩
    have read : readClaims setting.python token = .ok { textClaims token with issuanceTs := issuanceTs, expiryTs := expiryTs } := by
      unfold readClaims
      rw [issuance,expiry]
      rfl
    obtain ⟨partialAllowed,observed⟩ := well.observer call.now
    obtain ⟨threshold,counted⟩ := well.threshold
    have prepared : prepare setting token call = .ok ({ textClaims token with issuanceTs := issuanceTs, expiryTs := expiryTs },partialAllowed,threshold) := by
      unfold prepare
      rw [read,observed,counted]
      rfl
    refine answers_bind ⟨_,prepared⟩ ?_
    intro found same
    cases prepared.symm.trans same
    refine answers_bind (answers_bind ((earlyVerdict_answers well issuanceTs expiryTs threshold).mpr hashable) ?_) fun _ _ => ⟨_,rfl⟩
    intro early _
    cases early with
    | some verdict => exact ⟨verdict,rfl⟩
    | none => exact postChecks_answer well cache _ call

-- The token is malformed or has times that cannot be read.
def Uninterpreted (setting : Setting) (call : Call) : Prop :=
  ∀ token signature, tokenOf call.signedWat = some (token,signature) → ¬Timed setting.python token

def datedCall (issuanceTs : Value) : Call :=
  { sampleCall (.str "active") with
    signedWat := .dict [(.str "claims",.dict [(.str "issuance_ts",issuanceTs)]),(.str "signature",.str "")] }

end VeritasOs.WatAnswers
