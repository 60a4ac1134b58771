import Mathlib.Data.List.ReduceOption
import VeritasOs.FujiPolicy

namespace VeritasOs.FujiReload
open Text JsonText BindArtifacts PolicyBundle FujiPolicy

-- re.compile compiles, or raises re.error, or raises something else.
inductive Compiled (P : Type) where
  | pattern (compiled : P)
  | reError
  | raised (error : Exc)

-- The second argument of re.compile is whether it ignores case. The path of the policy file is fixed, and so
-- is its name.
structure Setting (P K : Type) where
  compile : Value → Bool → Compiled P
  reading : Reading K
  loader : Loader
  fileName : String

structure InjectionRule (P K : Type) where
  pattern : P
  weight : Score K
  label : String

inductive PiiKey where
  | phone | email | addressJp | personNameJp
deriving DecidableEq

def PiiKey.text : PiiKey → String
  | .phone => "phone"
  | .email => "email"
  | .addressJp => "address_jp"
  | .personNameJp => "person_name_jp"

def piiKeys : List PiiKey := [.phone,.email,.addressJp,.personNameJp]

-- _PII_RE, _PROMPT_INJECTION_PATTERNS, _CONFUSABLE_ASCII_MAP, POLICY and _POLICY_MTIME.
structure Runtime (P K : Type) where
  piiRe : PiiKey → P
  injectionPatterns : List (InjectionRule P K)
  confusableAsciiMap : Dict
  policy : Value
  policyMtime : ℚ

def orEmpty (value : Value) : Except Exc Dict :=
  if !value.truthy then .ok []
  else
    match value with
    | .dict members => .ok members
    | other => .error (attributeError (typeName other ++ " object has no attribute 'get'"))

def translateKey : Key → Except Exc Int
  | .int n => .ok n
  | .bool b => .ok (if b then 1 else 0)
  | .str s =>
    match s.toList with
    | [c] => .ok c.toNat
    | _ => .error (valueError "string keys in translate table must be of length 1")
  | _ => .error (typeError "keys in translate table must be strings or integers")

def maketrans (mapping : Dict) : Except Exc Dict :=
  mapping.foldlM (fun table entry => do
    let code ← translateKey entry.1
    .ok (store (.int code) entry.2 table)) []

section Tables
variable {P K : Type} [Field K] (setting : Setting P K)

def skipped (error : Exc) : Bool := error.kind = .keyError || error.kind = .typeError || error.kind = .valueError

-- One entry of prompt_injection.patterns; none where it is passed over.
def buildRule (item : Value) : Except Exc (Option (InjectionRule P K)) :=
  match item with
  | .dict entry =>
    match lookup (.str "pattern") entry with
    | none => .ok none
    | some source =>
      match setting.compile source true with
      | .reError => .ok none
      | .raised error => if skipped error then .ok none else .error error
      | .pattern compiled =>
        match toFloat setting.reading (Dict.getD entry "weight" (tenth "0.4" float_four_tenths)) with
        | .error error => if skipped error then .ok none else .error error
        | .ok weight => .ok (some ⟨compiled,weight,(Dict.getD entry "label" (.str "unknown")).text⟩)
  | _ => .ok none

def promptInjectionPatterns (policy : Dict) : Except Exc (Option (List (InjectionRule P K))) := do
  let piSection ← orEmpty (policy.get "prompt_injection")
  let rawPatterns := piSection.get "patterns"
  if rawPatterns.truthy then
    let items ← listFrom rawPatterns
    let built ← items.mapM (buildRule setting)
    .ok (if built.reduceOption.isEmpty then none else some built.reduceOption)
  else .ok none

def confusables (policy : Dict) : Except Exc (Option Dict) := do
  let normalization ← orEmpty (policy.get "unicode_normalization")
  match normalization.get "confusables" with
  | .dict [] => .ok none
  | .dict found =>
    match maketrans found with
    | .ok table => .ok (some table)
    | .error error => if error.kind = .typeError || error.kind = .valueError then .ok none else .error error
  | _ => .ok none

-- _build_injection_patterns_from_policy: the patterns stay where the map raises.
def buildInjectionPatternsFromPolicy (policy : Dict) (runtime : Runtime P K) : Except Exc Unit × Runtime P K :=
  match promptInjectionPatterns setting policy with
  | .error error => (.error error,runtime)
  | .ok patterns =>
    let swapped := { runtime with injectionPatterns := patterns.getD runtime.injectionPatterns }
    match confusables policy with
    | .error error => (.error error,swapped)
    | .ok table => (.ok (),{ swapped with confusableAsciiMap := table.getD swapped.confusableAsciiMap })

def piiPattern (piiPats : Dict) (key : PiiKey) : Except Exc (Option P) :=
  match piiPats.get key.text with
  | .str source =>
    if source = "" then .ok none
    else
      match setting.compile (.str source) false with
      | .pattern compiled => .ok (some compiled)
      | .reError => .ok none
      | .raised error => .error error
  | _ => .ok none

def buildPii (piiPats : Dict) : List PiiKey → Runtime P K → Except Exc Unit × Runtime P K
  | [],runtime => (.ok (),runtime)
  | key :: rest,runtime =>
    match piiPattern setting piiPats key with
    | .error error => (.error error,runtime)
    | .ok compiled =>
      buildPii piiPats rest { runtime with piiRe := Function.update runtime.piiRe key (compiled.getD (runtime.piiRe key)) }

-- (policy.get("pii") or {}).get("patterns") or {}, where it is a mapping
def piiPatterns (policy : Dict) : Except Exc Dict := do
  let pii ← orEmpty (policy.get "pii")
  match pii.get "patterns" with
  | .dict found => .ok found
  | _ => .ok []

def buildPiiPatternsFromPolicy (policy : Dict) (runtime : Runtime P K) : Except Exc Unit × Runtime P K :=
  match piiPatterns policy with
  | .error error => (.error error,runtime)
  | .ok piiPats => buildPii setting piiPats piiKeys runtime

-- POLICY may be a text or a list, of which nothing can be asked.
def buildRuntimePatternsFromPolicy (policy : Value) (runtime : Runtime P K) : Except Exc Unit × Runtime P K :=
  match policy with
  | .dict members =>
    match buildInjectionPatternsFromPolicy setting members runtime with
    | (.ok (),built) => buildPiiPatternsFromPolicy setting members built
    | raised => raised
  | other => (.error (attributeError (typeName other ++ " object has no attribute 'get'")),runtime)

-- The policy file as a load finds it; no content where it is missing or cannot be read, no time where it
-- cannot be stat'ed.
structure PolicyFile where
  content : Option String
  mtime : Option ℚ

-- POLICY is set before the tables are rebuilt, and the time after that.
def install (loaded : Except Exc Value) (mtime : ℚ) (runtime : Runtime P K) : Except Exc Unit × Runtime P K :=
  match loaded with
  | .error error => (.error error,runtime)
  | .ok policy =>
    match buildRuntimePatternsFromPolicy setting policy { runtime with policy := policy } with
    | (.ok (),built) => (.ok (),{ built with policyMtime := mtime })
    | raised => raised

def reloadPolicy (file : PolicyFile) (runtime : Runtime P K) : Except Exc Unit × Runtime P K :=
  install setting (loadPolicy setting.loader file.content setting.fileName) (file.mtime.getD 0) runtime

def checkPolicyHotReload (file : PolicyFile) (runtime : Runtime P K) : Except Exc Unit × Runtime P K :=
  match file.content,file.mtime with
  | some content,some mtime =>
    if runtime.policyMtime < mtime then install setting (loadPolicyFromStr setting.loader content setting.fileName) mtime runtime
    else (.ok (),runtime)
  | _,_ => (.ok (),runtime)

inductive Load where
  | reload (file : PolicyFile)
  | hotReload (file : PolicyFile)

def step (runtime : Runtime P K) : Load → Runtime P K
  | .reload file => (reloadPolicy setting file runtime).2
  | .hotReload file => (checkPolicyHotReload setting file runtime).2

def run (runtime : Runtime P K) (history : List Load) : Runtime P K := history.foldl (step setting) runtime

def loadedMapping (content : Option String) : Option Dict :=
  match loadPolicy setting.loader content setting.fileName with
  | .ok (.dict policy) => some policy
  | _ => none

-- What is raised before a table is reached keeps it, and so does an entry that is passed over.
def policySetting (content : Option String) : Option Value := (loadPolicy setting.loader content setting.fileName).toOption

def injectionSetting (content : Option String) : Option (List (InjectionRule P K)) := do
  let policy ← loadedMapping setting content
  (promptInjectionPatterns setting policy).toOption.join

def confusableSetting (content : Option String) : Option Dict := do
  let policy ← loadedMapping setting content
  let _ ← (promptInjectionPatterns setting policy).toOption
  (confusables policy).toOption.join

def listedPattern (piiPats : Dict) : List PiiKey → PiiKey → Option P
  | [],_ => none
  | listed :: rest,key =>
    match piiPattern setting piiPats listed with
    | .error _ => none
    | .ok compiled => (listedPattern piiPats rest key).or (if listed = key then compiled else none)

def piiSetting (content : Option String) (key : PiiKey) : Option P := do
  let policy ← loadedMapping setting content
  let _ ← (promptInjectionPatterns setting policy).toOption
  let _ ← (confusables policy).toOption
  let piiPats ← (piiPatterns policy).toOption
  listedPattern setting piiPats piiKeys key

structure Settles (content : Option String) (before after : Runtime P K) : Prop where
  pii : ∀ key, after.piiRe key = (piiSetting setting content key).getD (before.piiRe key)
  injection : after.injectionPatterns = (injectionSetting setting content).getD before.injectionPatterns
  confusable : after.confusableAsciiMap = (confusableSetting setting content).getD before.confusableAsciiMap
  policy : after.policy = (policySetting setting content).getD before.policy

omit [Field K] in
theorem buildPii_frame (piiPats : Dict) (keys : List PiiKey) (runtime : Runtime P K) :
    (buildPii setting piiPats keys runtime).2.injectionPatterns = runtime.injectionPatterns ∧
      (buildPii setting piiPats keys runtime).2.confusableAsciiMap = runtime.confusableAsciiMap ∧
      (buildPii setting piiPats keys runtime).2.policy = runtime.policy := by
  induction keys generalizing runtime with
  | nil => exact ⟨rfl,rfl,rfl⟩
  | cons key rest ih =>
    unfold buildPii
    split
    · exact ⟨rfl,rfl,rfl⟩
    · exact ih _

omit [Field K] in
theorem buildPii_pii (piiPats : Dict) (keys : List PiiKey) (runtime : Runtime P K) (key : PiiKey) :
    (buildPii setting piiPats keys runtime).2.piiRe key = (listedPattern setting piiPats keys key).getD (runtime.piiRe key) := by
  induction keys generalizing runtime with
  | nil => rfl
  | cons listed rest ih =>
    unfold buildPii listedPattern
    cases compiled : piiPattern setting piiPats listed with
    | error error => rfl
    | ok found =>
      dsimp only
      rw [ih]
      dsimp only
      by_cases same : listed = key
      · subst key
        rw [if_pos rfl,Function.update_self]
        cases later : listedPattern setting piiPats rest listed with
        | none => rfl
        | some pattern => rfl
      · rw [if_neg same,Function.update_of_ne (Ne.symm same),Option.or_none]

theorem build_settles (loaded : loadPolicy setting.loader content setting.fileName = .ok (.dict members)) (runtime : Runtime P K) :
    Settles setting content runtime (buildRuntimePatternsFromPolicy setting (.dict members) { runtime with policy := .dict members }).2 := by
  have mapping : loadedMapping setting content = some members := by
    unfold loadedMapping
    rw [loaded]
  have policy : policySetting setting content = some (.dict members) := by
    unfold policySetting
    rw [loaded]
    rfl
  unfold buildRuntimePatternsFromPolicy buildInjectionPatternsFromPolicy buildPiiPatternsFromPolicy
  cases patterns : promptInjectionPatterns setting members with
  | error error =>
    constructor
    · intro key
      simp [piiSetting,mapping,patterns,Except.toOption]
    · simp [injectionSetting,mapping,patterns,Except.toOption]
    · simp [confusableSetting,mapping,patterns,Except.toOption]
    · simp [policy,patterns]
  | ok found =>
    cases table : confusables members with
    | error error =>
      constructor
      · intro key
        simp [piiSetting,mapping,patterns,table,Except.toOption]
      · simp [injectionSetting,mapping,patterns,table,Except.toOption]
      · simp [confusableSetting,mapping,patterns,table,Except.toOption]
      · simp [policy,patterns,table]
    | ok map =>
      cases pats : piiPatterns members with
      | error error =>
        constructor
        · intro key
          simp [piiSetting,mapping,patterns,table,pats,Except.toOption]
        · simp [injectionSetting,mapping,patterns,table,pats,Except.toOption]
        · simp [confusableSetting,mapping,patterns,table,pats,Except.toOption]
        · simp [policy,patterns,table,pats]
      | ok piiPats =>
        constructor
        · intro key
          simp [piiSetting,mapping,patterns,table,pats,Except.toOption,buildPii_pii]
        · simp [injectionSetting,mapping,patterns,table,pats,Except.toOption,(buildPii_frame setting piiPats piiKeys _).1]
        · simp [confusableSetting,mapping,patterns,table,pats,Except.toOption,(buildPii_frame setting piiPats piiKeys _).2.1]
        · simp [policy,patterns,table,pats,(buildPii_frame setting piiPats piiKeys _).2.2]

theorem install_settles (content : Option String) (mtime : ℚ) (runtime : Runtime P K) :
    Settles setting content runtime (install setting (loadPolicy setting.loader content setting.fileName) mtime runtime).2 := by
  unfold install
  cases loaded : loadPolicy setting.loader content setting.fileName with
  | error error =>
    have mapping : loadedMapping setting content = none := by
      unfold loadedMapping
      rw [loaded]
    constructor
    · intro key
      simp [piiSetting,mapping]
    · simp [injectionSetting,mapping]
    · simp [confusableSetting,mapping]
    · simp [policySetting,loaded,Except.toOption]
  | ok policy =>
    have timed : Settles setting content runtime (buildRuntimePatternsFromPolicy setting policy { runtime with policy := policy }).2 := by
      cases policy with
      | dict members => exact build_settles setting loaded runtime
      | _ =>
        have mapping : loadedMapping setting content = none := by
          unfold loadedMapping
          rw [loaded]
        constructor
        · intro key
          simp [piiSetting,mapping,buildRuntimePatternsFromPolicy]
        · simp [injectionSetting,mapping,buildRuntimePatternsFromPolicy]
        · simp [confusableSetting,mapping,buildRuntimePatternsFromPolicy]
        · simp [policySetting,loaded,Except.toOption,buildRuntimePatternsFromPolicy]
    dsimp only
    rcases built : buildRuntimePatternsFromPolicy setting policy { runtime with policy := policy } with ⟨error | ⟨⟩,next⟩
    · rw [built] at timed
      exact timed
    · rw [built] at timed
      exact ⟨timed.pii,timed.injection,timed.confusable,timed.policy⟩

def Load.file : Load → PolicyFile
  | .reload file => file
  | .hotReload file => file

def takesPlace (runtime : Runtime P K) : Load → Bool
  | .reload _ => true
  | .hotReload file =>
    match file.content,file.mtime with
    | some _,some mtime => decide (runtime.policyMtime < mtime)
    | _,_ => false

def loadedContents (runtime : Runtime P K) : List Load → List (Option String)
  | [] => []
  | load :: rest =>
    if takesPlace runtime load then load.file.content :: loadedContents (step setting runtime load) rest
    else loadedContents (step setting runtime load) rest

omit [Field K] in
theorem loadPolicy_content (content : String) :
    loadPolicyFromStr setting.loader content setting.fileName = loadPolicy setting.loader (some content) setting.fileName := by
  unfold loadPolicy
  split
  · rename_i absent
    unfold loadPolicyFromStr
    rw [absent]
  · rename_i none_
    cases none_
  · rename_i some_
    cases some_
    rfl

theorem step_settles (taken : takesPlace runtime load = true) : Settles setting load.file.content runtime (step setting runtime load) := by
  cases load with
  | reload file => exact install_settles setting file.content _ runtime
  | hotReload file =>
    unfold step checkPolicyHotReload
    unfold takesPlace at taken
    rcases file with ⟨content | content,mtime | mtime⟩
    · cases taken
    · cases taken
    · cases taken
    · dsimp only at taken ⊢
      rw [if_pos (of_decide_eq_true taken),loadPolicy_content]
      exact install_settles setting (some content) mtime runtime

theorem step_skips (skips : takesPlace runtime load = false) : step setting runtime load = runtime := by
  cases load with
  | reload file => cases skips
  | hotReload file =>
    unfold step checkPolicyHotReload
    unfold takesPlace at skips
    rcases file with ⟨content | content,mtime | mtime⟩
    · rfl
    · rfl
    · rfl
    · dsimp only at skips ⊢
      rw [if_neg (of_decide_eq_false skips)]

end Tables

def settled {α : Type} (builtIn : α) (settings : List (Option α)) : α := settings.foldl (fun kept new => new.getD kept) builtIn

section Histories
variable {P K : Type} [Field K] (setting : Setting P K) (builtIn : Runtime P K)

structure Settled (contents : List (Option String)) (after : Runtime P K) : Prop where
  pii : ∀ key, after.piiRe key = settled (builtIn.piiRe key) (contents.map fun content => piiSetting setting content key)
  injection : after.injectionPatterns = settled builtIn.injectionPatterns (contents.map (injectionSetting setting))
  confusable : after.confusableAsciiMap = settled builtIn.confusableAsciiMap (contents.map (confusableSetting setting))
  policy : after.policy = settled builtIn.policy (contents.map (policySetting setting))

theorem run_settled (history : List Load) : Settled setting builtIn (loadedContents setting builtIn history) (run setting builtIn history) := by
  induction history generalizing builtIn with
  | nil => exact ⟨fun _ => rfl,rfl,rfl,rfl⟩
  | cons load rest ih =>
    have later := ih (step setting builtIn load)
    unfold loadedContents
    split
    · rename_i taken
      have now := step_settles setting taken
      constructor
      · intro key
        rw [show run setting builtIn (load :: rest) = run setting (step setting builtIn load) rest from rfl,later.pii,now.pii]
        rfl
      · rw [show run setting builtIn (load :: rest) = run setting (step setting builtIn load) rest from rfl,later.injection,now.injection]
        rfl
      · rw [show run setting builtIn (load :: rest) = run setting (step setting builtIn load) rest from rfl,later.confusable,now.confusable]
        rfl
      · rw [show run setting builtIn (load :: rest) = run setting (step setting builtIn load) rest from rfl,later.policy,now.policy]
        rfl
    · rename_i skips
      rw [step_skips setting (by simpa using skips)] at later ⊢
      rw [show run setting builtIn (load :: rest) = run setting (step setting builtIn load) rest from rfl,
        step_skips setting (by simpa using skips)]
      exact later

theorem settled_last {α : Type} (builtIn : α) (earlier : List (Option α)) (last : Option α) :
    settled builtIn (earlier ++ [last]) = last.getD (settled builtIn earlier) := by
  simp [settled]

structure SameTables (first second : Runtime P K) : Prop where
  pii : ∀ key, first.piiRe key = second.piiRe key
  injection : first.injectionPatterns = second.injectionPatterns
  confusable : first.confusableAsciiMap = second.confusableAsciiMap
  policy : first.policy = second.policy

-- Each table that the last content leaves alone was left the same by what was loaded before it.
structure AgreeBefore (last : Option String) (first second : List (Option String)) : Prop where
  pii : ∀ key, piiSetting setting last key = none → settled (builtIn.piiRe key) (first.map fun content => piiSetting setting content key) =
      settled (builtIn.piiRe key) (second.map fun content => piiSetting setting content key)
  injection : injectionSetting setting last = none → settled builtIn.injectionPatterns (first.map (injectionSetting setting)) =
      settled builtIn.injectionPatterns (second.map (injectionSetting setting))
  confusable : confusableSetting setting last = none → settled builtIn.confusableAsciiMap (first.map (confusableSetting setting)) =
      settled builtIn.confusableAsciiMap (second.map (confusableSetting setting))
  policy : policySetting setting last = none →
    settled builtIn.policy (first.map (policySetting setting)) = settled builtIn.policy (second.map (policySetting setting))

theorem getD_agree {α : Type} (last : Option α) (first second : α) :
    last.getD first = last.getD second ↔ (last = none → first = second) := by
  cases last with
  | none => simp
  | some value => simp

theorem reload_history_exact {first second : List Load} {last : Option String} {before before' : List (Option String)}
    (firstEnds : loadedContents setting builtIn first = before ++ [last])
    (secondEnds : loadedContents setting builtIn second = before' ++ [last]) :
    SameTables (run setting builtIn first) (run setting builtIn second) ↔ AgreeBefore setting builtIn last before before' := by
  have one := run_settled setting builtIn first
  have two := run_settled setting builtIn second
  rw [firstEnds] at one
  rw [secondEnds] at two
  constructor
  · intro same
    constructor
    · intro key
      have equal := same.pii key
      rwa [one.pii,two.pii,List.map_append,List.map_append,List.map_singleton,settled_last,settled_last,getD_agree] at equal
    · have equal := same.injection
      rwa [one.injection,two.injection,List.map_append,List.map_append,List.map_singleton,settled_last,settled_last,getD_agree] at equal
    · have equal := same.confusable
      rwa [one.confusable,two.confusable,List.map_append,List.map_append,List.map_singleton,settled_last,settled_last,getD_agree] at equal
    · have equal := same.policy
      rwa [one.policy,two.policy,List.map_append,List.map_append,List.map_singleton,settled_last,settled_last,getD_agree] at equal
  · intro agree
    constructor
    · intro key
      rw [one.pii,two.pii,List.map_append,List.map_append,List.map_singleton,settled_last,settled_last,getD_agree]
      exact agree.pii key
    · rw [one.injection,two.injection,List.map_append,List.map_append,List.map_singleton,settled_last,settled_last,getD_agree]
      exact agree.injection
    · rw [one.confusable,two.confusable,List.map_append,List.map_append,List.map_singleton,settled_last,settled_last,getD_agree]
      exact agree.confusable
    · rw [one.policy,two.policy,List.map_append,List.map_append,List.map_singleton,settled_last,settled_last,getD_agree]
      exact agree.policy

end Histories

def ownPolicy : Dict := [field "pii" (.dict [field "patterns" (.dict [field "phone" (.str "[0-9]+")])])]

def sampleSetting : Setting Value ℚ where
  compile source _ := .pattern source
  reading := sampleReading
  loader := ⟨some fun text => .ok (if text = "own" then .dict ownPolicy else .none),false⟩
  fileName := "fuji_default.yaml"

def sampleBuiltIn : Runtime Value ℚ := ⟨fun _ => .str "built in",[],[],.none,0⟩

def removed : List Load := [.reload ⟨some "own",some 1⟩,.hotReload ⟨some "",some 2⟩]
def fresh : List Load := [.reload ⟨some "",some 2⟩]

theorem removed_pattern_stays : loadedContents sampleSetting sampleBuiltIn removed = [some "own"] ++ [some ""] ∧
      loadedContents sampleSetting sampleBuiltIn fresh = [] ++ [some ""] ∧
      ¬SameTables (run sampleSetting sampleBuiltIn removed) (run sampleSetting sampleBuiltIn fresh) := by
  refine ⟨by decide +kernel,by decide +kernel,fun same => ?_⟩
  have phone := same.pii .phone
  exact absurd phone (by decide +kernel)

def restored : List Load := [.reload ⟨some "",some 1⟩,.hotReload ⟨some "own",some 2⟩]
def started : List Load := [.reload ⟨some "own",some 2⟩]

theorem reload_history_sample : SameTables (run sampleSetting sampleBuiltIn restored) (run sampleSetting sampleBuiltIn started) := by
  have first : loadedContents sampleSetting sampleBuiltIn restored = [some ""] ++ [some "own"] := by decide +kernel
  have second : loadedContents sampleSetting sampleBuiltIn started = [] ++ [some "own"] := by decide +kernel
  refine (reload_history_exact sampleSetting sampleBuiltIn first second).mpr ⟨?_,fun _ => rfl,fun _ => rfl,?_⟩
  · intro key unset
    cases key with
    | phone => exact absurd unset (by decide +kernel)
    | email => rfl
    | addressJp => rfl
    | personNameJp => rfl
  · intro unset
    cases unset

end VeritasOs.FujiReload
