import VeritasOs.PolicyBundle

namespace VeritasOs.ApiKeys
open Text BindArtifacts Posture PolicyBundle

inductive Role where
  | admin | operator | auditor
deriving DecidableEq

def Role.ofText (text : String) : Option Role :=
  if text = "admin" then some .admin
  else if text = "operator" then some .operator
  else if text = "auditor" then some .auditor
  else none

structure KeyEntry where
  key : String
  role : Role

-- API_KEY_DEFAULT of the server module and of this one, and api_key of the configuration.
structure Setting where
  env : Env
  serverDefault : String
  apiKeyDefault : String
  configKey : String

def parseEntry : Value → Except Exc KeyEntry
  | .dict members =>
    if !Dict.has members "key" || !Dict.has members "role" then
      .error (valueError "Each VERITAS_API_KEYS entry must have 'key' and 'role' fields")
    else
      match Role.ofText (lower (strip (Dict.get members "role").text)) with
      | none => .error (valueError ("Invalid role '" ++ (Dict.get members "role").text ++ "' in VERITAS_API_KEYS; valid roles: ['admin', 'auditor', 'operator']"))
      | some role =>
        if strip (Dict.get members "key").text = "" then .error (valueError "Empty key in VERITAS_API_KEYS entry")
        else .ok ⟨strip (Dict.get members "key").text,role⟩
  | _ => .error (valueError "Each VERITAS_API_KEYS entry must have 'key' and 'role' fields")

def parseApiKeysConfig (setting : Setting) : Except Exc (List KeyEntry) :=
  let raw := strip ((setting.env "VERITAS_API_KEYS").getD "")
  if raw = "" then .ok []
  else
    match jsonLoads raw with
    | .error error => .error (valueError ("VERITAS_API_KEYS is not valid JSON: " ++ error.text))
    | .ok (.list entries) => entries.mapM parseEntry
    | .ok _ => .error (valueError "VERITAS_API_KEYS must be a JSON array")

-- Every caller takes a ValueError for an empty list.
def multiKeys (setting : Setting) : List KeyEntry :=
  match parseApiKeysConfig setting with
  | .error _ => []
  | .ok entries => entries

def getExpectedApiKey (setting : Setting) : String :=
  let envKey := strip ((setting.env "VERITAS_API_KEY").getD "")
  if envKey ≠ "" then envKey
  else if strip setting.serverDefault ≠ "" then strip setting.serverDefault
  else if strip setting.apiKeyDefault ≠ "" then strip setting.apiKeyDefault
  else strip setting.configKey

def ascii (text : String) : Bool := text.toList.all fun c => decide (c.toNat < 128)

def compareKeys (candidate key : String) : Except Exc Bool :=
  if ascii candidate && ascii key then .ok (decide (candidate = key))
  else .error (typeError "comparing strings with non-ASCII characters is not supported")

def roleIn (candidate : String) : List KeyEntry → Except Exc (Option Role)
  | [] => .ok none
  | entry :: rest => do
    if ← compareKeys candidate entry.key then return some entry.role
    roleIn candidate rest

def resolveRoleForKey (setting : Setting) (apiKey : Option String) : Except Exc Role := do
  let candidate := strip (apiKey.getD "")
  if candidate = "" then .error (valueError "empty api key")
  else
    match ← roleIn candidate (multiKeys setting) with
    | some role => return role
    | none =>
      let expected := getExpectedApiKey setting
      if expected = "" then .error (valueError "api key does not match any configured key")
      else if ← compareKeys candidate expected then return .admin
      else .error (valueError "api key does not match any configured key")

def hasConfiguredApiKey (setting : Setting) : Bool :=
  !(multiKeys setting).isEmpty || strip (getExpectedApiKey setting) ≠ ""

def keyIn (candidate : String) : List KeyEntry → Except Exc Bool
  | [] => .ok false
  | entry :: rest => do
    if ← compareKeys candidate entry.key then return true
    keyIn candidate rest

def isValidApiKey (setting : Setting) (candidate : String) : Except Exc Bool := do
  let candidate := strip candidate
  if candidate = "" then return false
  else if ← keyIn candidate (multiKeys setting) then return true
  else
    let expected := strip (getExpectedApiKey setting)
    if expected = "" then return false
    else compareKeys candidate expected

inductive Answer where
  | granted
  | refused (status : Nat) (detail : String)
  | raised (error : Exc)
deriving DecidableEq

-- An answer, the reasons recorded for it and the keys given to the auth-failure throttle.
structure Attempt where
  answer : Answer
  reasons : List String
  counted : List String

def clientKey (clientIp : String) : String := if strip clientIp = "" then "unknown" else strip clientIp

-- The throttle answers whether the limit of the client is exceeded.
def rejected (exceeded : String → Bool) (clientIp reason detail : String) : Attempt :=
  if exceeded (clientKey clientIp) then
    ⟨.refused 429 "Too many auth failures",[reason,"auth_failure_rate_limited"],[clientKey clientIp]⟩
  else ⟨.refused 401 detail,[reason],[clientKey clientIp]⟩

def requireApiKey (setting : Setting) (exceeded : String → Bool) (clientIp : String) (apiKey : Option String) : Attempt :=
  if hasConfiguredApiKey setting = false then
    ⟨.refused 500 "Server API key not configured",["api_key_server_unconfigured"],[]⟩
  else if apiKey.getD "" = "" then rejected exceeded clientIp "api_key_missing" "Missing API key"
  else
    match isValidApiKey setting (apiKey.getD "") with
    | .error error => ⟨.raised error,[],[]⟩
    | .ok false => rejected exceeded clientIp "api_key_invalid" "Invalid API key"
    | .ok true => ⟨.granted,[],[]⟩

def configuredKeys (setting : Setting) : List String :=
  (multiKeys setting).map KeyEntry.key ++ if getExpectedApiKey setting = "" then [] else [getExpectedApiKey setting]

-- The candidate is compared with the keys one by one, up to the one that it is.
def scan (candidate : String) : List String → Except Exc Bool
  | [] => .ok false
  | key :: rest => do
    if ← compareKeys candidate key then return true
    scan candidate rest

def Comparable (candidate : String) (keys : List String) : Prop :=
  ascii candidate = true ∧ ∀ key ∈ keys.takeWhile (· ≠ candidate), ascii key = true

instance (candidate : String) (keys : List String) : Decidable (Comparable candidate keys) :=
  inferInstanceAs (Decidable (_ ∧ _))

theorem scan_known (comparable : Comparable candidate keys) : scan candidate keys = .ok (decide (candidate ∈ keys)) := by
  obtain ⟨plain,passed⟩ := comparable
  induction keys with
  | nil => rfl
  | cons key rest ih =>
    by_cases same : key = candidate
    · subst same
      simp [scan,compareKeys,plain,bind,Except.bind,pure,Except.pure]
    · rw [List.takeWhile_cons_of_pos (by simpa using same)] at passed
      have first : ascii key = true := passed key List.mem_cons_self
      have later := ih fun other listed => passed other (List.mem_cons_of_mem _ listed)
      have differ : candidate ≠ key := fun equal => same equal.symm
      simp [scan,compareKeys,plain,first,differ,bind,Except.bind,later]

theorem scan_raises (some_ : keys ≠ []) (foreign : ¬Comparable candidate keys) : ∃ error, scan candidate keys = .error error := by
  induction keys with
  | nil => exact absurd rfl some_
  | cons key rest ih =>
    by_cases both : (ascii candidate && ascii key) = true
    · obtain ⟨plain,first⟩ := Bool.and_eq_true_iff.mp both
      have differ : candidate ≠ key := by
        rintro rfl
        exact foreign ⟨plain,by simp⟩
      have later : ¬Comparable candidate rest := by
        refine fun comparable => foreign ⟨plain,fun other listed => ?_⟩
        rw [List.takeWhile_cons_of_pos (by simpa using Ne.symm differ)] at listed
        rcases List.mem_cons.mp listed with rfl | old
        · exact first
        · exact comparable.2 other old
      have more : rest ≠ [] := by
        rintro rfl
        exact later ⟨plain,by simp⟩
      obtain ⟨error,raised⟩ := ih more later
      exact ⟨error,by simp [scan,compareKeys,both,differ,bind,Except.bind,raised]⟩
    · exact ⟨_,by simp only [scan,compareKeys,if_neg both,bind,Except.bind]; rfl⟩

theorem keyIn_scan (candidate : String) (more : List String) : (entries : List KeyEntry) →
    scan candidate (entries.map KeyEntry.key ++ more) = do if ← keyIn candidate entries then return true else scan candidate more
  | [] => rfl
  | entry :: rest => by
    simp only [List.map_cons,List.cons_append,scan,keyIn]
    cases compareKeys candidate entry.key with
    | error error => rfl
    | ok equal =>
      cases equal with
      | true => rfl
      | false => exact keyIn_scan candidate more rest

theorem roleIn_found (candidate : String) : (entries : List KeyEntry) → (roleIn candidate entries).map Option.isSome = keyIn candidate entries
  | [] => rfl
  | entry :: rest => by
    simp only [roleIn,keyIn]
    cases compareKeys candidate entry.key with
    | error error => rfl
    | ok equal =>
      cases equal with
      | true => rfl
      | false => exact roleIn_found candidate rest

theorem expected_stripped (setting : Setting) : strip (getExpectedApiKey setting) = getExpectedApiKey setting := by
  unfold getExpectedApiKey
  dsimp only
  split
  · exact strip_strip _
  · split
    · exact strip_strip _
    · split <;> exact strip_strip _

section Checks
variable {setting : Setting} {apiKey : Option String} (exceeded : String → Bool) (clientIp : String)

theorem configured_iff : hasConfiguredApiKey setting = true ↔ configuredKeys setting ≠ [] := by
  rw [hasConfiguredApiKey,configuredKeys,expected_stripped]
  cases multiKeys setting with
  | nil => by_cases absent : getExpectedApiKey setting = "" <;> simp [absent]
  | cons entry rest => simp

theorem isValidApiKey_scan (shown : strip candidate ≠ "") :
    isValidApiKey setting candidate = scan (strip candidate) (configuredKeys setting) := by
  rw [configuredKeys,keyIn_scan,isValidApiKey,expected_stripped]
  dsimp only
  rw [if_neg shown]
  cases keyIn (strip candidate) (multiKeys setting) with
  | error error => simp [bind,Except.bind]
  | ok found =>
    cases found with
    | true => simp [bind,Except.bind,pure,Except.pure]
    | false =>
      by_cases absent : getExpectedApiKey setting = ""
      · simp [absent,scan,bind,Except.bind,pure,Except.pure]
      · simp only [absent,if_false,scan,bind,Except.bind,Bool.false_eq_true]
        cases compareKeys (strip candidate) (getExpectedApiKey setting) with
        | error error => rfl
        | ok equal => cases equal <;> rfl

theorem resolveRoleForKey_scan (shown : strip (apiKey.getD "") ≠ "") :
    (∃ role, resolveRoleForKey setting apiKey = .ok role) ↔ scan (strip (apiKey.getD "")) (configuredKeys setting) = .ok true := by
  rw [configuredKeys,keyIn_scan,← roleIn_found,resolveRoleForKey]
  dsimp only
  rw [if_neg shown]
  cases roleIn (strip (apiKey.getD "")) (multiKeys setting) with
  | error error => simp [Except.map,bind,Except.bind]
  | ok found =>
    cases found with
    | some role => simp [Except.map,bind,Except.bind,pure,Except.pure]
    | none =>
      by_cases absent : getExpectedApiKey setting = ""
      · simp [Except.map,bind,Except.bind,absent,scan]
      · simp only [Except.map,bind,Except.bind,absent,if_false,scan,Option.isSome_none,Bool.false_eq_true]
        cases compareKeys (strip (apiKey.getD "")) (getExpectedApiKey setting) with
        | error error => simp
        | ok equal => cases equal <;> simp [pure,Except.pure]

theorem resolveRoleForKey_blank (blank : strip (apiKey.getD "") = "") (role : Role) : resolveRoleForKey setting apiKey ≠ .ok role := by
  simp [resolveRoleForKey,blank]

theorem rejected_counted (reason detail : String) : (rejected exceeded clientIp reason detail).counted = [clientKey clientIp] := by
  unfold rejected
  split <;> rfl

theorem rejected_refused (reason detail : String) :
    ∃ status text, (rejected exceeded clientIp reason detail).answer = .refused status text := by
  unfold rejected
  split
  · exact ⟨429,_,rfl⟩
  · exact ⟨401,detail,rfl⟩

-- True or an HTTPException, True for what has a role, and what is rejected is counted.
structure KeyChecksAgree (setting : Setting) (exceeded : String → Bool) (clientIp : String) (apiKey : Option String) : Prop where
  answers : ∀ error, (requireApiKey setting exceeded clientIp apiKey).answer ≠ .raised error
  agrees : (requireApiKey setting exceeded clientIp apiKey).answer = .granted ↔ ∃ role, resolveRoleForKey setting apiKey = .ok role
  counts : (requireApiKey setting exceeded clientIp apiKey).answer ≠ .granted →
    (requireApiKey setting exceeded clientIp apiKey).counted = [clientKey clientIp]

theorem agree_rejected (answered : requireApiKey setting exceeded clientIp apiKey = rejected exceeded clientIp reason detail)
    (unknown : ∀ role, resolveRoleForKey setting apiKey ≠ .ok role) : KeyChecksAgree setting exceeded clientIp apiKey := by
  obtain ⟨status,text,refused⟩ := rejected_refused exceeded clientIp reason detail
  refine ⟨?_,?_,?_⟩
  · intro error raised
    rw [answered,refused] at raised
    cases raised
  · rw [answered,refused]
    constructor
    · intro granted
      cases granted
    · rintro ⟨role,resolved⟩
      exact absurd resolved (unknown role)
  · intro _
    rw [answered]
    exact rejected_counted exceeded clientIp reason detail

theorem requireApiKey_blank (configured : hasConfiguredApiKey setting = true) (blank : strip (apiKey.getD "") = "") :
    ∃ reason detail, requireApiKey setting exceeded clientIp apiKey = rejected exceeded clientIp reason detail := by
  by_cases missing : apiKey.getD "" = ""
  · exact ⟨_,_,by rw [requireApiKey,configured,if_neg Bool.noConfusion,if_pos missing]⟩
  · refine ⟨"api_key_invalid","Invalid API key",?_⟩
    rw [requireApiKey,configured,if_neg Bool.noConfusion,if_neg missing,isValidApiKey]
    simp only [blank,if_true]
    rfl

theorem requireApiKey_scan (configured : hasConfiguredApiKey setting = true) (shown : strip (apiKey.getD "") ≠ "") :
    requireApiKey setting exceeded clientIp apiKey = match scan (strip (apiKey.getD "")) (configuredKeys setting) with
      | .error error => ⟨.raised error,[],[]⟩
      | .ok false => rejected exceeded clientIp "api_key_invalid" "Invalid API key"
      | .ok true => ⟨.granted,[],[]⟩ := by
  have filled : apiKey.getD "" ≠ "" := by
    intro missing
    rw [missing] at shown
    exact shown rfl
  rw [requireApiKey,configured,if_neg Bool.noConfusion,if_neg filled,isValidApiKey_scan shown]

theorem key_checks_agree_exact (configured : hasConfiguredApiKey setting = true) : KeyChecksAgree setting exceeded clientIp apiKey ↔
      strip (apiKey.getD "") = "" ∨ Comparable (strip (apiKey.getD "")) (configuredKeys setting) := by
  by_cases blank : strip (apiKey.getD "") = ""
  · obtain ⟨reason,detail,answered⟩ := requireApiKey_blank exceeded clientIp configured blank
    exact ⟨fun _ => .inl blank,fun _ => agree_rejected exceeded clientIp answered (resolveRoleForKey_blank blank)⟩
  · have answered := requireApiKey_scan exceeded clientIp configured blank
    have resolved := @resolveRoleForKey_scan setting apiKey blank
    constructor
    · intro agree
      refine .inr (Classical.by_contradiction fun foreign => ?_)
      obtain ⟨error,raises⟩ := scan_raises (configured_iff.mp configured) foreign
      rw [raises] at answered
      exact agree.answers error (by rw [answered])
    · rintro (empty | comparable)
      · exact absurd empty blank
      · rw [scan_known comparable] at answered resolved
        by_cases known : strip (apiKey.getD "") ∈ configuredKeys setting
        · rw [decide_eq_true known] at answered resolved
          refine ⟨?_,?_,?_⟩
          · intro error raised
            rw [answered] at raised
            cases raised
          · rw [answered,resolved]
            exact iff_of_true rfl rfl
          · intro refused
            rw [answered] at refused
            exact absurd rfl refused
        · rw [decide_eq_false known] at answered resolved
          refine agree_rejected exceeded clientIp answered fun role found => ?_
          have none_ := resolved.mp ⟨role,found⟩
          cases none_
end Checks

def sampleSetting : Setting := ⟨fun name => if name = "VERITAS_API_KEY" then some "secret" else none,"","",""⟩

theorem key_checks_agree_exact_sample : KeyChecksAgree sampleSetting (fun _ => false) "10.0.0.1" (some " secret ") :=
  (key_checks_agree_exact _ _ (by decide)).mpr (by decide)

theorem foreign_header_raises : ¬KeyChecksAgree sampleSetting (fun _ => false) "10.0.0.1" (some "clé") := by
  intro agree
  refine agree.answers (typeError "comparing strings with non-ASCII characters is not supported") ?_
  decide

end VeritasOs.ApiKeys
