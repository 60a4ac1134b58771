import VeritasOs.Value

namespace VeritasOs.DecisionSemantics
open Text JsonText

-- Severity 3 blocks execution, 2 holds it for review, 1 lets it proceed.
def decisionSeverityAliases : List (Nat × List String) :=
  [(3,["block","deny","denied","rejected","reject","refuse","refused"]),
   (2,["hold","review","review_required","human_review_required","needs_human_review","allow_with_warning",
       "escalate","escalated","modify","abstain","evidence_required","policy_definition_required"]),
   (1,["proceed","allow","allowed","approve","approved","eligible_to_commit","committed"])]

def decisionTermSeverity (term : String) : Option Nat :=
  (decisionSeverityAliases.find? fun row => row.2.contains term).map Prod.fst

def terms : List String := decisionSeverityAliases.flatMap Prod.snd

def normalizeText (s : String) : String := replaceChar ' ' '_' (replaceChar '-' '_' (lower (strip s)))

def normalizeDecision (value : Value) : String :=
  if value = .none then "unknown"
  else
    let normalized := normalizeText value.text
    if normalized = "" then "unknown" else normalized

def decisionSeverity (value : Value) : Nat := (decisionTermSeverity (normalizeDecision value)).getD 3

inductive Surface where
  | preserve | gate | business | fuji | bind
deriving DecidableEq

def decisionOutputTerms : Surface → Nat → String
  | .gate,3 => "block"
  | .gate,2 => "hold"
  | .gate,_ => "proceed"
  | .business,3 => "DENY"
  | .business,2 => "HOLD"
  | .business,_ => "APPROVE"
  | .fuji,3 => "rejected"
  | .fuji,2 => "abstain"
  | .fuji,_ => "allow"
  | .bind,3 => "block"
  | .bind,2 => "escalate"
  | .bind,_ => "eligible_to_commit"
  | .preserve,_ => ""

def resolveDecisionPrecedence (values : List Value) (output : Surface) : String :=
  let rated := values.map fun value =>
    (normalizeDecision value,(decisionTermSeverity (normalizeDecision value)).getD 3)
  let severity := if values = [] then 3 else (rated.map Prod.snd).foldl max 0
  let selected := ((rated.find? fun row => row.2 == severity).map Prod.fst).getD "unknown"
  if output = .preserve then
    if (decisionTermSeverity selected).isSome then selected else "block"
  else decisionOutputTerms output severity

def maxBindDecisionSourceLength : Nat := 80

-- The bind core stores and resolves this token instead of the raw lineage value.
def sanitizeBindDecisionSource (value : Value) : String :=
  let normalized := normalizeDecision value
  let sanitizedChars := normalized.toList.map fun c => if isWordChar c || c == '_' then c else '_'
  let sanitized := collapse '_' (stripBy (· == '_') sanitizedChars)
  truncate maxBindDecisionSourceLength (if sanitized = [] then "unknown" else String.ofList sanitized)

def decisionKeys : List String :=
  ["gate_decision","business_decision","fuji_decision","bind_decision","decision_status"]

def isAbsentDecision : Value → Bool
  | .none => true
  | .str s => ["","none","null"].contains (lower (strip s))
  | _ => false

def collectDecisionValues (container : Dict) : List String :=
  decisionKeys.filterMap fun key =>
    match lookup (.str key) container with
    | none => none
    | some raw => if isAbsentDecision raw then none else some (sanitizeBindDecisionSource raw)

theorem severity_known (known : decisionTermSeverity term = some severity) :
    term ∈ terms ∧ (severity = 1 ∨ severity = 2 ∨ severity = 3) := by
  obtain ⟨row,found,rfl⟩ := Option.map_eq_some_iff.mp known
  have listed := List.mem_of_find?_eq_some found
  have present : term ∈ row.2 := by simpa using List.find?_some found
  refine ⟨List.mem_flatMap.mpr ⟨row,listed,present⟩,?_⟩
  simp only [decisionSeverityAliases,List.mem_cons,List.not_mem_nil,or_false] at listed
  rcases listed with rfl | rfl | rfl <;> simp

theorem severity_range (value : Value) : decisionSeverity value = 1 ∨ decisionSeverity value = 2 ∨ decisionSeverity value = 3 := by
  unfold decisionSeverity
  cases known : decisionTermSeverity (normalizeDecision value) with
  | none => simp
  | some severity => exact (severity_known known).2

theorem foldl_max_le {values : List Nat} {start bound : Nat} :
    values.foldl max start ≤ bound ↔ start ≤ bound ∧ ∀ value ∈ values, value ≤ bound := by
  induction values generalizing start with
  | nil => simp
  | cons head rest ih => simp [ih,and_assoc]

theorem resolve_eligible (values : List Value) : resolveDecisionPrecedence values .bind = "eligible_to_commit" ↔
      values ≠ [] ∧ ∀ value ∈ values, decisionSeverity value = 1 := by
  by_cases empty : values = []
  · subst values; simp [resolveDecisionPrecedence,decisionOutputTerms]
  · have rated : ((values.map fun value => (normalizeDecision value,decisionSeverity value)).map Prod.snd) =
        values.map decisionSeverity := by simp
    have admitted : (values.map decisionSeverity).foldl max 0 ≤ 1 ↔ ∀ value ∈ values, decisionSeverity value = 1 := by
      rw [foldl_max_le]
      constructor
      · intro below value present
        have bound := below.2 _ (List.mem_map_of_mem present)
        rcases severity_range value with one | two | three <;> omega
      · intro ones
        refine ⟨by omega,?_⟩
        intro severity present
        obtain ⟨value,member,rfl⟩ := List.mem_map.mp present
        rw [ones value member]
    have top : (values.map decisionSeverity).foldl max 0 ≤ 3 := by
      rw [foldl_max_le]
      refine ⟨by omega,?_⟩
      intro severity present
      obtain ⟨value,member,rfl⟩ := List.mem_map.mp present
      rcases severity_range value with one | two | three <;> omega
    simp only [resolveDecisionPrecedence,empty,if_false,reduceCtorEq,ne_eq,not_false_eq_true,true_and]
    change decisionOutputTerms .bind
      (((values.map fun value => (normalizeDecision value,decisionSeverity value)).map Prod.snd).foldl max 0) = _ ↔ _
    rw [rated,← admitted]
    generalize (values.map decisionSeverity).foldl max 0 = severity at top
    interval_cases severity <;> simp [decisionOutputTerms]

-- A text that normalisation leaves alone: word characters in lower case and marks.
def Plain (chars : List Char) : Prop := ∀ c ∈ chars, c = '_' ∨ (isWordChar c = true ∧ c.isUpper = false)

theorem plain_char (plain : c = '_' ∨ (isWordChar c = true ∧ c.isUpper = false)) :
    isSpace c = false ∧ lowerChar c = [c] ∧ c ≠ '-' ∧ c ≠ ' ' := by
  have ascii : c.toNat < 128 := by
    rcases plain with rfl | ⟨word,_⟩
    · decide
    · simp only [isWordChar,isAlpha_eq,isUpper_eq,isLower_eq,Char.isDigit,Bool.or_eq_true,Bool.and_eq_true,
        decide_eq_true_eq,ge_iff_le,UInt32.le_iff_toNat_le] at word
      simp only [Char.toNat]
      rcases word with (⟨_,upper⟩ | ⟨_,upper⟩) | ⟨_,upper⟩ <;> exact lt_of_le_of_lt upper (by decide)
  have check : ∀ n, n < 128 → (Char.ofNat n = '_' ∨ (isWordChar (Char.ofNat n) = true ∧ (Char.ofNat n).isUpper = false)) →
      isSpace (Char.ofNat n) = false ∧ lowerChar (Char.ofNat n) = [Char.ofNat n] ∧ Char.ofNat n ≠ '-' ∧ Char.ofNat n ≠ ' ' := by decide
  have same := check c.toNat ascii
  rw [Char.ofNat_toNat] at same
  exact same plain

theorem normalizeText_plain (plain : Plain s.toList) : normalizeText s = s := by
  have spaces : ∀ c ∈ s.toList, isSpace c = false := fun c present => (plain_char (plain c present)).1
  have stripped : stripBy isSpace s.toList = s.toList := stripBy_plain spaces
  have lowered : s.toList.flatMap lowerChar = s.toList := by
    have single : s.toList.flatMap lowerChar = s.toList.flatMap fun c => [c] :=
      List.flatMap_congr fun c present => (plain_char (plain c present)).2.1
    simpa using single
  have dashes : (s.toList.map fun c => if c = '-' then '_' else c) = s.toList := by
    conv_rhs => rw [← List.map_id s.toList]
    exact List.map_congr_left fun c present => by simp [(plain_char (plain c present)).2.2.1]
  have blanks : (s.toList.map fun c => if c = ' ' then '_' else c) = s.toList := by
    conv_rhs => rw [← List.map_id s.toList]
    exact List.map_congr_left fun c present => by simp [(plain_char (plain c present)).2.2.2]
  simp [normalizeText,strip,lower,replaceChar,stripped,lowered,dashes,blanks]

theorem toLower_eq {c : Char} (outside : ¬(c.val ≥ 'A'.val ∧ c.val ≤ 'Z'.val)) : c.toLower = c := dif_neg outside

theorem toLower_not_upper (c : Char) : c.toLower.isUpper = false := by
  by_cases upper : c.isUpper = true
  · have bounds : 65 ≤ c.toNat ∧ c.toNat ≤ 90 := by
      simp only [isUpper_eq,decide_eq_true_eq,ge_iff_le,UInt32.le_iff_toNat_le] at upper
      exact upper
    have check : ∀ n, n ≤ 90 → 65 ≤ n → (Char.ofNat n).toLower.isUpper = false := by decide
    have found := check c.toNat bounds.2 bounds.1
    rwa [Char.ofNat_toNat] at found
  · have outside : ¬(c.val ≥ 'A'.val ∧ c.val ≤ 'Z'.val) := by simpa [isUpper_eq] using upper
    rw [toLower_eq outside]
    simpa using upper

theorem lowerChar_not_upper (present : d ∈ lowerChar c) : d.isUpper = false := by
  unfold lowerChar at present
  split at present
  · simp only [List.mem_cons,List.not_mem_nil,or_false] at present
    rcases present with rfl | rfl <;> decide
  · split at present
    · simp only [List.mem_cons,List.not_mem_nil,or_false] at present
      subst d
      decide
    · simp only [List.mem_cons,List.not_mem_nil,or_false] at present
      subst d
      exact toLower_not_upper c

theorem unknown_chars : ∀ c ∈ "unknown".toList, isWordChar c = true ∧ c.isUpper = false := by
  have checked : "unknown".toList.all (fun c => isWordChar c && !c.isUpper) = true := by decide
  intro c present
  simpa using List.all_eq_true.mp checked c present

theorem normalizeDecision_not_upper (value : Value) : ∀ c ∈ (normalizeDecision value).toList, c.isUpper = false := by
  intro c present
  unfold normalizeDecision at present
  split at present
  · exact (unknown_chars c present).2
  · simp only at present
    split at present
    · exact (unknown_chars c present).2
    · simp only [normalizeText,replaceChar,lower,String.toList_ofList,List.map_map,List.mem_map,List.mem_flatMap,
        Function.comp_apply] at present
      obtain ⟨d,⟨_,_,lowered⟩,rfl⟩ := present
      have small := lowerChar_not_upper lowered
      by_cases dash : d = '-'
      · subst d; decide
      · by_cases blank : d = ' '
        · subst d; decide
        · simpa [dash,blank] using small

theorem word_of_mem (words_ : ∀ c ∈ run, isWordChar c = true) (listed : part ∈ wordsFrom isWordChar run chars) (present : c ∈ part) :
    isWordChar c = true ∧ (c ∈ run ∨ c ∈ chars) := by
  induction chars generalizing run with
  | nil =>
    cases run with
    | nil => simp [wordsFrom] at listed
    | cons head tail =>
      simp only [wordsFrom,List.mem_singleton] at listed
      subst part
      have there : c ∈ head :: tail := List.mem_reverse.mp present
      exact ⟨words_ c there,.inl there⟩
  | cons head rest ih =>
    rw [wordsFrom] at listed
    by_cases letter : isWordChar head = true
    · rw [if_pos letter] at listed
      have found := ih (by simpa [letter] using words_) listed
      refine ⟨found.1,?_⟩
      rcases found.2 with inside | later
      · rcases List.mem_cons.mp inside with rfl | old
        · exact .inr List.mem_cons_self
        · exact .inl old
      · exact .inr (List.mem_cons_of_mem _ later)
    · rw [if_neg letter] at listed
      have later : part ∈ wordsFrom isWordChar [] rest → isWordChar c = true ∧ (c ∈ run ∨ c ∈ head :: rest) := by
        intro member
        have found := ih (by simp) member
        exact ⟨found.1,.inr (List.mem_cons_of_mem _ (by simpa using found.2))⟩
      by_cases empty : run = []
      · rw [if_pos empty] at listed
        exact later listed
      · rw [if_neg empty] at listed
        rcases List.mem_cons.mp listed with rfl | member
        · have there : c ∈ run := List.mem_reverse.mp present
          exact ⟨words_ c there,.inl there⟩
        · exact later member

theorem joinWords_plain (value : Value) : Plain (joinWords (words (normalizeDecision value))).toList := by
  intro c present
  rw [joinWords,String.toList_ofList] at present
  by_cases mark : c = '_'
  · exact .inl mark
  · have inside : ∃ part ∈ words (normalizeDecision value), c ∈ part := by
      revert present
      generalize words (normalizeDecision value) = parts
      induction parts with
      | nil => simp [List.intercalate]
      | cons head tail ih =>
        rw [intercalate_cons,List.mem_append]
        rintro (here | later)
        · exact ⟨head,List.mem_cons_self,here⟩
        · by_cases empty : tail = []
          · simp [empty] at later
          · simp only [if_neg empty,List.mem_cons,mark,false_or] at later
            obtain ⟨part,listed,there⟩ := ih later
            exact ⟨part,List.mem_cons_of_mem _ listed,there⟩
    obtain ⟨part,listed,there⟩ := inside
    have found := word_of_mem (by simp) listed there
    exact .inr ⟨found.1,normalizeDecision_not_upper value c (by simpa using found.2)⟩

def spelled (value : Value) : String := joinWords (words (normalizeDecision value))

theorem sanitize_exact (value : Value) : sanitizeBindDecisionSource value =
      truncate maxBindDecisionSourceLength (if spelled value = "" then "unknown" else spelled value) := by
  have chars : collapse '_' (stripBy (· == '_') ((normalizeDecision value).toList.map fun c =>
      if isWordChar c || c == '_' then c else '_')) = (spelled value).toList := by
    rw [spelled,joinWords,String.toList_ofList]
    exact collapse_words isWordChar '_' (by decide) (normalizeDecision value).toList
  simp only [sanitizeBindDecisionSource,chars,String.toList_eq_nil_iff,String.ofList_toList]

theorem sanitize_plain (value : Value) : Plain (sanitizeBindDecisionSource value).toList ∧ sanitizeBindDecisionSource value ≠ "" := by
  rw [sanitize_exact]
  by_cases empty : spelled value = ""
  · rw [if_pos empty]
    refine ⟨fun c present => ?_,by decide⟩
    rw [truncate,String.toList_ofList] at present
    exact .inr (unknown_chars c (List.mem_of_mem_take present))
  · rw [if_neg empty,truncate,String.toList_ofList]
    refine ⟨fun c present => joinWords_plain value c (List.mem_of_mem_take present),?_⟩
    intro none_
    have chars := congrArg String.toList none_
    simp only [String.toList_ofList,String.toList_empty,List.take_eq_nil_iff,maxBindDecisionSourceLength,
      OfNat.ofNat_ne_zero,false_or,String.toList_eq_nil_iff] at chars
    exact empty chars

theorem normalizeDecision_sanitize (value : Value) :
    normalizeDecision (.str (sanitizeBindDecisionSource value)) = sanitizeBindDecisionSource value := by
  obtain ⟨plain,some_⟩ := sanitize_plain value
  simp [normalizeDecision,Value.text,normalizeText_plain plain,some_]

theorem term_short (term : String) (long : maxBindDecisionSourceLength ≤ term.toList.length) : decisionTermSeverity term = none := by
  cases known : decisionTermSeverity term with
  | none => rfl
  | some severity =>
    have check : ∀ term ∈ terms, term.toList.length < maxBindDecisionSourceLength := by decide
    have short := check term (severity_known known).1
    omega

theorem truncate_severity (term : String) :
    decisionTermSeverity (truncate maxBindDecisionSourceLength term) = decisionTermSeverity term := by
  by_cases short : term.toList.length ≤ maxBindDecisionSourceLength
  · rw [truncate,List.take_of_length_le short,String.ofList_toList]
  · rw [term_short term (by omega),term_short]
    rw [truncate,String.toList_ofList,List.length_take]
    omega

theorem sanitize_severity (value : Value) :
    decisionSeverity (.str (sanitizeBindDecisionSource value)) = (decisionTermSeverity (spelled value)).getD 3 := by
  rw [decisionSeverity,normalizeDecision_sanitize,sanitize_exact,truncate_severity]
  by_cases empty : spelled value = ""
  · rw [if_pos empty,empty]
    decide
  · rw [if_neg empty]

theorem known_spelled (value : Value) (known : (decisionTermSeverity (normalizeDecision value)).isSome = true) :
    spelled value = normalizeDecision value := by
  obtain ⟨severity,found⟩ := Option.isSome_iff_exists.mp known
  have check : ∀ term ∈ terms, joinWords (words term) = term := by decide
  exact check _ (severity_known found).1

-- Unsupported values stay unsupported: sanitising never lowers the severity, and
-- no list that holds a sanitised unknown value resolves to the permissive term.
structure StaysUnsupported (value : Value) : Prop where
  monotone : decisionSeverity value ≤ decisionSeverity (.str (sanitizeBindDecisionSource value))
  unknown : decisionTermSeverity (normalizeDecision value) = none → decisionSeverity (.str (sanitizeBindDecisionSource value)) ≠ 1
  gate : decisionTermSeverity (normalizeDecision value) = none → ∀ values, .str (sanitizeBindDecisionSource value) ∈ values →
      resolveDecisionPrecedence values .bind ≠ "eligible_to_commit"

theorem stays_unsupported_exact (value : Value) : StaysUnsupported value ↔ (decisionTermSeverity (normalizeDecision value)).isSome = true ∨
        ∀ severity, decisionTermSeverity (spelled value) = some severity → severity = 3 := by
  cases known : decisionTermSeverity (normalizeDecision value) with
  | some severity =>
    simp only [Option.isSome_some,true_or,iff_true]
    have same := known_spelled value (by simp [known])
    refine ⟨?_,by simp [known],by simp [known]⟩
    rw [sanitize_severity,same,decisionSeverity]
  | none =>
    have raw : decisionSeverity value = 3 := by simp [decisionSeverity,known]
    simp only [Option.isSome_none,Bool.false_eq_true,false_or]
    constructor
    · intro stays severity found
      have bound := stays.monotone
      rw [raw,sanitize_severity,found,Option.getD_some] at bound
      rcases (severity_known found).2 with one | two | three <;> omega
    · intro blocking
      have top : decisionSeverity (.str (sanitizeBindDecisionSource value)) = 3 := by
        rw [sanitize_severity]
        cases found : decisionTermSeverity (spelled value) with
        | none => rfl
        | some severity => exact blocking severity found
      refine ⟨by omega,fun _ => by omega,?_⟩
      intro _ values listed eligible
      have one := ((resolve_eligible values).mp eligible).2 _ listed
      omega

-- "allow!" is no known term, and its sanitised form is the permissive term.
theorem allow_bang_permitted : isAbsentDecision (.str "allow!") = false ∧ decisionTermSeverity (normalizeDecision (.str "allow!")) = none ∧
      decisionSeverity (.str "allow!") = 3 ∧ decisionSeverity (.str (sanitizeBindDecisionSource (.str "allow!"))) = 1 ∧
      resolveDecisionPrecedence [.str (sanitizeBindDecisionSource (.str "allow!"))] .bind = "eligible_to_commit" ∧
      ¬StaysUnsupported (.str "allow!") := by
  refine ⟨by decide,by decide,by decide,by decide,by decide,?_⟩
  intro stays
  exact absurd stays.monotone (by decide)

end VeritasOs.DecisionSemantics
