import VeritasOs.Continuation
import VeritasOs.JsonData

namespace VeritasOs.ContinuationBurden
open Text JsonText BindArtifacts PolicyBundle PolicyCompiler CallRuns Continuation

section Matching
variable {α β : Type} {alike : α → β → Prop} {items : List α} {others : List β}

theorem matching_length (each : ∀ item ∈ items, ∃ other ∈ others, alike item other)
    (apart : items.Pairwise fun a b => ∀ other, ¬ (alike a other ∧ alike b other)) : items.length ≤ others.length := by
  induction items generalizing others with
  | nil => exact Nat.zero_le _
  | cons item rest ih =>
    obtain ⟨other,there,matched⟩ := each item List.mem_cons_self
    obtain ⟨before,later,rfl⟩ := List.append_of_mem there
    rw [List.pairwise_cons] at apart
    have shorter : rest.length ≤ (before ++ later).length := by
      apply ih _ apart.2
      intro next listed
      obtain ⟨mate,among,pair⟩ := each next (List.mem_cons_of_mem _ listed)
      refine ⟨mate,?_,pair⟩
      rcases List.mem_append.mp among with left | right
      · exact List.mem_append_left _ left
      · rcases List.mem_cons.mp right with rfl | right
        · exact absurd ⟨matched,pair⟩ (apart.1 next listed mate)
        · exact List.mem_append_right _ right
    simp only [List.length_append,List.length_cons] at shorter ⊢
    omega

end Matching

theorem singleKeys_keyValue (key : Key) : singleKeys (keyValue key) = true := by
  cases key <;> rfl

variable {items : List Value} {threshold : Value}

theorem singleKeys_listFrom (single : singleKeys value = true) (listed : listFrom value = .ok items) :
    ∀ item ∈ items, singleKeys item = true := by
  cases value <;> simp only [listFrom,Except.ok.injEq,reduceCtorEq] at listed
  case list held =>
      subst listed
      exact (singleKeysItems_iff _).mp single
  case tuple held =>
      subst listed
      exact (singleKeysItems_iff _).mp single
  case str s =>
      subst listed
      intro item among
      obtain ⟨c,_,rfl⟩ := List.mem_map.mp among
      rfl
  case dict members =>
      subst listed
      intro item among
      obtain ⟨member,_,rfl⟩ := List.mem_map.mp among
      exact singleKeys_keyValue _

theorem lenOf_listFrom (listed : listFrom value = .ok items) : lenOf value = .ok (items.length : Int) := by
  cases value <;> simp only [listFrom,Except.ok.injEq,reduceCtorEq] at listed <;> subst listed <;> simp [lenOf,String.length]

def Distinct (items : List Value) : Prop := items.Pairwise fun a b => pyEq a b = false

def among (items : List Value) (item : Value) : Bool := items.any (pyEq item)

-- Each satisfied item is a required one, and stands in the list once.
structure Fits (required satisfied : List Value) : Prop where
  distinct : Distinct satisfied
  within : ∀ item ∈ satisfied, among required item = true

-- The context of a call without a snapshot declares these requirements, and asks for all of them.
structure Declares (context : Dict) (required : List Value) : Prop where
  asked : context.getD "required_evidence" (.list []) = .list required
  distinct : Distinct required
  threshold : pyEq (context.getD "burden_threshold" (.float one)) (.float one) = true

-- What it names as satisfied fits. Where nothing is required the satisfied list is not counted.
def Unpadded (context : Dict) (required : List Value) : Prop :=
  required = [] ∨ ∃ satisfied, listFrom (context.getD "satisfied_evidence" (.list [])) = .ok satisfied ∧ Fits required satisfied

def Met (burden : BurdenState) : Prop :=
  ∃ required satisfied, burden.requiredEvidence = .list required ∧
    (required = [] ∨ listFrom burden.satisfiedEvidence = .ok satisfied ∧ ∀ item ∈ required, among satisfied item = true)

-- The level counts every required item that is in the list, and nothing else.
def Counted (quotient : Int → Int → FloatValue) (burden : BurdenState) : Prop :=
  ∃ required satisfied, burden.requiredEvidence = .list required ∧ (required = [] ∨ listFrom burden.satisfiedEvidence = .ok satisfied ∧
      burden.currentLevel = quotient (required.countP (among satisfied)) required.length)

theorem among_exact : among items item = true ↔ ∃ other ∈ items, pyEq item other = true :=
  List.any_eq_true

section Counting
variable {required satisfied : List Value}

theorem Fits.length (fits : Fits required satisfied) (once : Distinct required) (wanted : ∀ item ∈ required, singleKeys item = true)
    (held : ∀ item ∈ satisfied, singleKeys item = true) : satisfied.length = required.countP (among satisfied) := by
  rw [List.countP_eq_length_filter]
  apply le_antisymm
  · refine @matching_length _ _ (fun item other => singleKeys item = true ∧ pyEq item other = true) _ _ ?_ ?_
    · intro item listed
      obtain ⟨other,there,same⟩ := among_exact.mp (fits.within item listed)
      refine ⟨other,List.mem_filter.mpr ⟨there,among_exact.mpr ⟨item,listed,?_⟩⟩,held item listed,same⟩
      exact pyEq_symm item (held item listed) other same
    · refine fits.distinct.imp fun apart other => ?_
      intro both
      obtain ⟨⟨_,first⟩,single,second⟩ := both
      rw [pyEq_trans _ first (pyEq_symm _ single _ second)] at apart
      cases apart
  · refine @matching_length _ _ (fun item other => singleKeys item = true ∧ pyEq item other = true) _ _ ?_ ?_
    · intro item listed
      obtain ⟨there,found⟩ := List.mem_filter.mp listed
      obtain ⟨other,carried,same⟩ := among_exact.mp found
      exact ⟨other,carried,wanted item there,same⟩
    · refine (once.sublist List.filter_sublist).imp fun apart other => ?_
      intro both
      obtain ⟨⟨_,first⟩,single,second⟩ := both
      rw [pyEq_trans _ first (pyEq_symm _ single _ second)] at apart
      cases apart

end Counting

section Satisfy
variable {required items : List Value} {carried next ev : Value}

theorem satisfy_fits (given : listFrom carried = .ok items) (fits : Fits required items) (held : ∀ item ∈ items, singleKeys item = true)
    (fresh : singleKeys ev = true) (done : satisfy (.list required) carried ev = .ok next) :
    ∃ others, listFrom next = .ok others ∧ Fits required others ∧ ∀ item ∈ others, singleKeys item = true := by
  obtain ⟨wanted,asked,done⟩ := bind_ok.mp done
  cases wanted with
  | false =>
    cases done
    exact ⟨items,given,fits,held⟩
  | true =>
    obtain ⟨there,found,done⟩ := bind_ok.mp done
    cases there with
    | true =>
      cases done
      exact ⟨items,given,fits,held⟩
    | false =>
      rw [if_neg (by simp)] at done
      cases carried with
      | list old =>
        cases done
        cases given
        have apart : ∀ item ∈ items, pyEq ev item = false := by simpa [contains] using found
        refine ⟨items ++ [ev],rfl,⟨?_,?_⟩,?_⟩
        · refine List.pairwise_append.mpr ⟨fits.distinct,List.pairwise_singleton _ _,?_⟩
          intro item listed other new
          obtain rfl := List.mem_singleton.mp new
          by_contra same
          have back := pyEq_symm item (held item listed) _ (Bool.eq_true_of_not_eq_false same)
          rw [apart item listed] at back
          cases back
        · intro item listed
          rcases List.mem_append.mp listed with old_ | new
          · exact fits.within item old_
          · obtain rfl := List.mem_singleton.mp new
            exact Except.ok.inj asked
        · intro item listed
          rcases List.mem_append.mp listed with old_ | new
          · exact held item old_
          · obtain rfl := List.mem_singleton.mp new
            exact fresh
      | _ => cases done

theorem satisfied_fits {news : List Value} (given : listFrom carried = .ok items) (fits : Fits required items)
    (held : ∀ item ∈ items, singleKeys item = true) (fresh : ∀ ev ∈ news, singleKeys ev = true)
    (done : news.foldlM (satisfy (.list required)) carried = .ok next) :
    ∃ others, listFrom next = .ok others ∧ Fits required others ∧ ∀ item ∈ others, singleKeys item = true := by
  induction news generalizing carried items with
  | nil =>
    cases done
    exact ⟨items,given,fits,held⟩
  | cons ev rest ih =>
    rw [List.foldlM_cons] at done
    obtain ⟨middle,first,done⟩ := bind_ok.mp done
    obtain ⟨more,listed,still,single⟩ := satisfy_fits given fits held (fresh ev List.mem_cons_self) first
    exact ih listed still single (fun item after => fresh item (List.mem_cons_of_mem _ after)) done

end Satisfy

-- True division of two lengths: a smaller by a larger one is below one. Past 2 ^ 53 the quotient
-- of two neighbours may round to one.
structure Dividing (quotient : Int → Int → FloatValue) : Prop where
  below : ∀ part whole : Nat, part < whole → whole ≤ 2 ^ 53 →
    ∃ number value, floatNumber (quotient part whole) = some number ∧ number.value = .inr value ∧ value < 1

theorem one_number : ∃ number, floatNumber one = some number ∧ number.value = .inr 1 := by
  refine ⟨.finite 10 (-1),by decide,?_⟩
  rw [Number.value,Sum.inr.injEq]
  norm_num

theorem numbered_one (same : pyEq threshold (.float one) = true) : ∃ number, threshold.number = some number ∧ number.value = .inr 1 := by
  obtain ⟨unit,known,value⟩ := one_number
  cases found : threshold.number with
  | none => cases threshold <;> simp_all [pyEq,Value.number]
  | some number =>
    obtain ⟨other,read,equal⟩ := (pyEq_number found).mp same
    cases known.symm.trans read
    exact ⟨number,rfl,equal.trans value⟩

theorem lessThan_number (left : floatNumber x = some m) (right : threshold.number = some n) : lessThan x threshold = .ok (!n.le m) := by
  cases threshold <;> simp_all [lessThan,Value.number]

theorem lessThan_below (asks : pyEq threshold (.float one) = true)
    (read : floatNumber x = some number) (known : number.value = .inr value) (less : value < 1) : lessThan x threshold = .ok true := by
  obtain ⟨unit,numbered,is_one⟩ := numbered_one asks
  have above : unit.le number = false := by
    by_contra under
    exact absurd ((Number.le_finite is_one known).mp (Bool.eq_true_of_not_eq_false under)) (not_le.mpr less)
  rw [lessThan_number read numbered,above]
  rfl

-- What a burden is that was carried from a context that opened with these requirements.
structure Standing (quotient : Int → Int → FloatValue) (required : List Value) (burden : BurdenState) : Prop where
  asked : burden.requiredEvidence = .list required
  threshold : pyEq burden.threshold (.float one) = true
  counted : required = [] ∨ ∃ satisfied, listFrom burden.satisfiedEvidence = .ok satisfied ∧ Fits required satisfied ∧
    (∀ item ∈ satisfied, singleKeys item = true) ∧ burden.currentLevel = quotient satisfied.length required.length

section Step
variable {revalidator : ContinuationRevalidator} {condition : PresentCondition} {priorSnapshot : Option ClaimStateSnapshot}
  {burden : BurdenState} {required : List Value} {carried threshold : Value}

theorem evaluate_standing (single : singleKeys (.dict condition.context) = true)
    (carries : carriedBurden condition priorSnapshot = .ok (.list required,carried,threshold)) (asks : pyEq threshold (.float one) = true)
    (start : required = [] ∨ ∃ items, listFrom carried = .ok items ∧ Fits required items ∧ ∀ item ∈ items, singleKeys item = true)
    (evaluated : evaluateBurden revalidator condition priorSnapshot = .ok burden) : Standing revalidator.quotient required burden := by
  rw [evaluateBurden,carries] at evaluated
  obtain ⟨⟨_,_,_⟩,same,evaluated⟩ := bind_ok.mp evaluated
  cases same
  obtain ⟨news,listed,evaluated⟩ := bind_ok.mp evaluated
  obtain ⟨satisfied,appended,evaluated⟩ := bind_ok.mp evaluated
  have fresh := singleKeys_listFrom (singleKeys_getD single "new_evidence" (rfl : singleKeys (.list []) = true)) listed
  by_cases nothing : required = []
  · subst nothing
    cases evaluated
    exact ⟨rfl,asks,.inl rfl⟩
  · obtain ⟨items,given,fits,held⟩ := start.resolve_left nothing
    obtain ⟨others,kept,still,singles⟩ := satisfied_fits given fits held fresh appended
    have filled : (Value.list required).truthy = true := by simpa [Value.truthy] using nothing
    rw [if_pos filled,lenOf_listFrom kept] at evaluated
    cases evaluated
    exact ⟨rfl,asks,.inr ⟨others,kept,still,singles,rfl⟩⟩

theorem carried_standing (single : singleKeys (.dict condition.context) = true)
    (standing : Standing revalidator.quotient required prior.burdenState)
    (evaluated : evaluateBurden revalidator condition (some prior) = .ok burden) : Standing revalidator.quotient required burden := by
  obtain ⟨⟨_,_,_⟩,carries,_⟩ := bind_ok.mp evaluated
  obtain ⟨wanted,first,carries⟩ := bind_ok.mp carries
  obtain ⟨satisfied,second,carries⟩ := bind_ok.mp carries
  rw [standing.asked] at first
  cases first
  have carries_ : carriedBurden condition (some prior) = .ok (.list required,.list satisfied,prior.burdenState.threshold) := by
    rw [carriedBurden,standing.asked,second]
    rfl
  refine evaluate_standing single carries_ standing.threshold (standing.counted.imp_right ?_) evaluated
  intro counted
  obtain ⟨items,listed,fits,singles,_⟩ := counted
  cases second.symm.trans listed
  exact ⟨_,rfl,fits,singles⟩

theorem opened_standing (single : singleKeys (.dict condition.context) = true) (declares : Declares condition.context required)
    (unpadded : Unpadded condition.context required) (evaluated : evaluateBurden revalidator condition none = .ok burden) :
    Standing revalidator.quotient required burden := by
  refine evaluate_standing single (by rw [carriedBurden,declares.asked]) declares.threshold (unpadded.imp_right ?_) evaluated
  intro given
  obtain ⟨satisfied,listed,fits⟩ := given
  exact ⟨satisfied,listed,fits,singleKeys_listFrom (singleKeys_getD single "satisfied_evidence" (rfl : singleKeys (.list []) = true)) listed⟩

end Step

section Outcome
variable {quotient : Int → Int → FloatValue} {required : List Value} {burden : BurdenState}

theorem Standing.counts (standing : Standing quotient required burden) (once : Distinct required)
    (wanted : ∀ item ∈ required, singleKeys item = true) : Counted quotient burden := by
  rcases standing.counted with nothing | ⟨satisfied,listed,fits,held,level⟩
  · exact ⟨required,[],standing.asked,.inl nothing⟩
  · exact ⟨required,satisfied,standing.asked,.inr ⟨listed,by rw [level,fits.length once wanted held]⟩⟩

theorem Standing.met (divides : Dividing quotient) (standing : Standing quotient required burden) (once : Distinct required)
    (wanted : ∀ item ∈ required, singleKeys item = true) (small : required.length ≤ 2 ^ 53)
    (enough : lessThan burden.currentLevel burden.threshold = .ok false) : Met burden := by
  rcases standing.counted with nothing | ⟨satisfied,listed,fits,held,level⟩
  · exact ⟨required,[],standing.asked,.inl nothing⟩
  · refine ⟨required,satisfied,standing.asked,.inr ⟨listed,?_⟩⟩
    have count := fits.length once wanted held
    have full : required.countP (among satisfied) = required.length := by
      by_contra fewer
      have part : satisfied.length < required.length := by
        rw [count]
        exact lt_of_le_of_ne List.countP_le_length fewer
      obtain ⟨number,value,read,known,less⟩ := divides.below _ _ part small
      rw [level,lessThan_below standing.threshold read known less] at enough
      cases enough
    exact List.countP_eq_length.mp full

end Outcome

def Proceeds (receipt : ContinuationReceipt) : Prop :=
  receipt.boundaryOutcome = ClaimStatus.live.text ∨ receipt.boundaryOutcome = ClaimStatus.narrowed.text

-- What every pair of a run shows: the claim goes on only with its burden met, and the level
-- counts what is required and satisfied.
def BurdenKept (revalidator : ContinuationRevalidator) (lineage : ContinuationClaimLineage) (calls : List Call) : Prop :=
  ∀ snapshot receipt, .ok (snapshot,receipt) ∈ answers (session revalidator) lineage calls →
    (Proceeds receipt → Met snapshot.burdenState) ∧ Counted revalidator.quotient snapshot.burdenState

def Carried (revalidator : ContinuationRevalidator) (lineage : ContinuationClaimLineage) (calls : List Call) : Prop :=
  ∀ before call later, calls = before ++ call :: later → ∀ prior, call.priorSnapshot = some prior →
    ∃ receipt, .ok (prior,receipt) ∈ answers (session revalidator) lineage before

structure Opens (context : Dict) (required : List Value) : Prop where
  declares : Declares context required
  unpadded : Unpadded context required
  small : required.length ≤ 2 ^ 53

section Runs
variable {revalidator : ContinuationRevalidator} {lineage : ContinuationClaimLineage} {calls : List Call} {prior : ClaimStatus} {call : Call}
  {snapshot : ClaimStateSnapshot} {receipt : ContinuationReceipt}

theorem outcome_text {status other : ClaimStatus} : status.text = other.text ↔ status = other := by
  cases status <;> cases other <;> simp [ClaimStatus.text]

theorem determine_passed (conditions : findings.revocationConditions = checkRevocationConditions findings.supportBasis)
    (determined : determineStatus findings prior = .ok (boundary,codes)) (passed : boundary = .live ∨ boundary = .narrowed) :
    lessThan findings.burdenState.currentLevel findings.burdenState.threshold = .ok false := by
  have open_ : prior ≠ .revoked ∧ prior ≠ .halted := by
    constructor <;> rintro rfl <;> cases determined <;> simp at passed
  rw [determine_open conditions open_.1 open_.2] at determined
  split at determined
  · cases determined
    simp at passed
  split at determined
  · cases determined
    simp at passed
  split at determined
  · cases determined
    simp at passed
  split at determined
  · cases determined
    simp at passed
  obtain ⟨below,compared,determined⟩ := bind_ok.mp determined
  cases below with
  | true =>
    cases determined
    simp at passed
  | false => exact compared

theorem answered_burden (answered : (session revalidator lineage call).1 = .ok (snapshot,receipt)) :
    evaluateBurden revalidator call.condition call.priorSnapshot = .ok snapshot.burdenState ∧
      (Proceeds receipt → lessThan snapshot.burdenState.currentLevel snapshot.burdenState.threshold = .ok false) := by
  have stepped : revalidate revalidator lineage call = .ok ((snapshot,receipt),(session revalidator lineage call).2) := attempted_ok answered
  obtain ⟨⟨_,_⟩,emitted,returned⟩ := bind_ok.mp stepped
  obtain ⟨_,_,returned⟩ := bind_ok.mp returned
  cases congrArg Prod.fst (Except.ok.inj returned)
  obtain ⟨findings,collected,emitted⟩ := bind_ok.mp emitted
  obtain ⟨⟨boundary,codes⟩,determined,emitted⟩ := bind_ok.mp emitted
  obtain ⟨_,_,emitted⟩ := bind_ok.mp emitted
  obtain ⟨_,_,emitted⟩ := bind_ok.mp emitted
  obtain ⟨_,_,emitted⟩ := bind_ok.mp emitted
  cases emitted
  refine ⟨?_,fun proceeds => ?_⟩
  · obtain ⟨_,_,collected⟩ := bind_ok.mp collected
    obtain ⟨burden,evaluated,collected⟩ := bind_ok.mp collected
    cases collected
    exact evaluated
  · refine determine_passed (collect_conditions collected) determined ?_
    exact proceeds.imp outcome_text.mp outcome_text.mp

theorem carried_concat (carried : Carried revalidator lineage calls)
    (next : ∀ prior, call.priorSnapshot = some prior → ∃ receipt, .ok (prior,receipt) ∈ answers (session revalidator) lineage calls) :
    Carried revalidator lineage (calls ++ [call]) := by
  intro before last later split prior given
  rcases List.eq_nil_or_concat later with rfl | ⟨rest,final,rfl⟩
  · obtain ⟨rfl,same⟩ := List.append_inj' split rfl
    cases same
    exact next prior given
  · rw [List.concat_eq_append,← List.cons_append,← List.append_assoc] at split
    exact carried before last rest (List.append_inj' split rfl).1 prior given

theorem carried_nil : Carried revalidator lineage [] := by
  intro before call later split
  simp at split

theorem run_standing (single : ∀ call ∈ calls, singleKeys (.dict call.condition.context) = true) (carried : Carried revalidator lineage calls)
    (opens : ∀ call ∈ calls, call.priorSnapshot = none → ∃ required, Opens call.condition.context required) {before later : List Call}
    (split : calls = before ++ call :: later)
    (answered : (session revalidator (after (session revalidator) lineage before) call).1 = .ok (snapshot,receipt)) :
    ∃ opening ∈ calls, ∃ required, Opens opening.condition.context required ∧ Standing revalidator.quotient required snapshot.burdenState := by
  induction size : before.length using Nat.strong_induction_on generalizing before call later snapshot receipt with
  | _ _ ih =>
    have listed : call ∈ calls := by rw [split]; simp
    obtain ⟨evaluated,_⟩ := answered_burden answered
    cases given : call.priorSnapshot with
    | none =>
      obtain ⟨required,opened⟩ := opens call listed given
      rw [given] at evaluated
      exact ⟨call,listed,required,opened,opened_standing (single call listed) opened.declares opened.unpadded evaluated⟩
    | some earlier =>
      obtain ⟨first,returned⟩ := carried before call later split earlier given
      obtain ⟨start,mid,rest,rfl,met⟩ := mem_answers.mp returned
      have shorter : start.length < (start ++ mid :: rest).length := by simp
      have earlier_ : calls = start ++ mid :: (rest ++ call :: later) := by simpa using split
      obtain ⟨opening,among_,required,opened,standing⟩ := ih start.length (by rw [← size]; exact shorter) earlier_ met.symm rfl
      rw [given] at evaluated
      exact ⟨opening,among_,required,opened,carried_standing (single call listed) standing evaluated⟩

end Runs

def exactHalves (part whole : Int) : FloatValue :=
  if part < whole then .finite ⟨"0.5",float_half⟩ else one

def sampleBurden : ContinuationRevalidator := { sampleRevalidator with quotient := exactHalves }

def openingCall : Call :=
  callWith [(.str "required_evidence",.list [.str "a",.str "b"]),(.str "satisfied_evidence",.list [.str "a"]),(.str "burden_threshold",.float one)]

def laterCall (prior : ClaimStateSnapshot) : Call :=
  { callWith [(.str "new_evidence",.list [.str "b",.str "b",.str "c"])] with priorSnapshot := some prior }

theorem exactHalves_dividing : Dividing exactHalves where
  below part whole less _ := by
    refine ⟨.finite 5 (-1),1 / 2,?_,?_,by norm_num⟩
    · rw [exactHalves,if_pos (by exact_mod_cast less)]
      decide
    · rw [Number.value,Sum.inr.injEq]
      norm_num

theorem abPairs_distinct : Distinct [.str "a",.str "b"] := List.pairwise_pair.mpr rfl

theorem opening_declares : Opens openingCall.condition.context [.str "a",.str "b"] where
  declares := ⟨rfl,abPairs_distinct,rfl⟩
  unpadded := .inr ⟨[.str "a"],rfl,⟨List.pairwise_singleton _ _,fun item listed => by
    obtain rfl := List.mem_singleton.mp listed
    rfl⟩⟩
  small := by simp

def paddedCall (satisfied : List Value) : Call :=
  callWith [(.str "required_evidence",.list [.str "a",.str "b"]),(.str "satisfied_evidence",.list satisfied),(.str "burden_threshold",.float one)]

theorem not_met (asked : burden.requiredEvidence = .list required)
    (given : listFrom burden.satisfiedEvidence = .ok satisfied) (listed : item ∈ required) (missing : among satisfied item = false) :
    ¬ Met burden := by
  intro met
  obtain ⟨wanted,held,same,each⟩ := met
  cases asked.symm.trans same
  obtain ⟨carried,all⟩ := each.resolve_left (List.ne_nil_of_mem listed)
  cases given.symm.trans carried
  rw [all item listed] at missing
  cases missing

end VeritasOs.ContinuationBurden
