import VeritasOs.FujiPolicy

namespace VeritasOs.FujiGate
open Text JsonText BindArtifacts PolicyBundle FujiPolicy

structure InjectionPattern (K : Type) where
  search : String → Bool
  weight : Score K
  label : String

-- Unicode tables and compiled expressions: unicodedata's NFKC, the table of confusable characters, \w,
-- str.lower, the injection patterns and the expressions for personal data.
structure Detection (K : Type) where
  nfkc : String → String
  confusable : Char → List Char
  wordChar : Char → Bool
  lowercase : String → String
  patterns : List (InjectionPattern K)
  phone : String → Bool
  email : String → Bool
  addressJp : String → Bool

def zeroWidth (c : Char) : Bool := [0x200b,0x200c,0x200d,0xfeff,0x2060].contains c.toNat

def keptInCompact (wordChar : Char → Bool) (c : Char) : Bool :=
  wordChar c || (0x3040 ≤ c.toNat && c.toNat ≤ 0x30ff) || (0x4e00 ≤ c.toNat && c.toNat ≤ 0x9fff)

section Injection
variable {K : Type} [Field K] [LinearOrder K] (detection : Detection K)

def normalizeInjectionText (text : String) : String :=
  let visible := (detection.nfkc text).toList.filter fun c => !zeroWidth c
  let translated := visible.flatMap detection.confusable
  let spaced := squeeze ' ' (translated.map fun c => if isSpace c then ' ' else c)
  detection.lowercase (strip (String.ofList spaced))

def compactKeywordRules : List (String × String) :=
  [("jailbreak","jailbreak_keyword"),("promptinjection","jailbreak_keyword")]

def detectPromptInjection (text : String) : Score K × List String :=
  if text = "" then (.finite 0,[])
  else
    let normalized := normalizeInjectionText detection text
    let compact := String.ofList (normalized.toList.filter (keptInCompact detection.wordChar))
    let matched := detection.patterns.filter fun pattern => pattern.search normalized || pattern.search compact
    let found := matched.foldl (fun (score,signals) pattern => (score.plus pattern.weight,signals ++ [pattern.label])) (Score.finite 0,[])
    let total := compactKeywordRules.foldl (fun (score,signals) (keyword,label) =>
      if hasSub keyword compact && !signals.contains label then (score.plus (.finite (1 / 2)),signals ++ [label]) else (score,signals)) found
    (.least (.finite 1) total.1,total.2)

end Injection

def bannedKeywordsFallback : List String :=
  ["harm","kill","exploit","illegal","weapon","malware","bomb","doxx","毒","殺","爆弾","銃","兵器","ハッキング","違法"]

def sensitiveKeywordsFallback : List String :=
  ["bio","pathogen","drug synthesis","zero-day","bypass","unlock jail","生物兵器","毒物合成","ゼロデイ","脱獄","暗号回避"]

def itemsOf (value : Value) : Except Exc (List Value) := if value.truthy then listFrom value else .ok []

def keywordSet (lowercase : String → String) (words fallback : List String) : List String :=
  if words.isEmpty then (fallback.map lowercase).dedup else words

-- (hard_block_keywords, sensitive_keywords)
def policyBlockedKeywords (lowercase : String → String) (policy : Dict) : Except Exc (List String × List String) := do
  let blocked ← section_ policy "blocked_keywords"
  let hardBlock ← itemsOf (blocked.get "hard_block")
  let sensitive ← itemsOf (blocked.get "sensitive")
  let texts := fun words : List Value => ((words.filter Value.truthy).map fun word => lowercase word.text).dedup
  return (keywordSet lowercase (texts hardBlock) bannedKeywordsFallback,keywordSet lowercase (texts sensitive) sensitiveKeywordsFallback)

structure SafetyHeadResult (R : Type) where
  riskScore : R
  categories : List String
  rationale : String
  model : String
  raw : Dict

def sortedTexts (texts : List String) : List String := texts.insertionSort fun a b => textLe a b = true

def texts (items : List String) : Value := .list (items.map Value.str)

section Head
variable {K : Type} [Field K] [LinearOrder K]

def riskBaseline : K := 1 / 20

def categoryMap : List (String × K) :=
  [("toxicity",4 / 5),("bias_discrimination",39 / 50),("unauthorized_financial_advice",4 / 5),
   ("definitive_legal_judgment",4 / 5),("medical_high_risk",17 / 20),("secret_leak",17 / 20)]

def categoryHits (lowercase : String → String) (keywords : Dict) (normalized : String) : Except Exc (List (String × K × List String)) := do
  let found ← categoryMap.mapM fun (name,floor) => do
    let words ← itemsOf (keywords.get name)
    let detected := (words.map Value.text).filter fun word => hasSub (lowercase word) normalized
    return if detected.isEmpty then none else some (name,floor,sortedTexts detected.dedup)
  return found.reduceOption

def piiHits (detection : Detection K) (text : String) : List String :=
  (if detection.phone text then ["phone"] else []) ++ (if detection.email text then ["email"] else []) ++
    if detection.addressJp text then ["address"] else []

def fallbackSafetyHead (detection : Detection K) (policy : Dict) (text : String) : Except Exc (SafetyHeadResult K) := do
  let normalized := detection.lowercase (strip (replaceChar '\u3000' ' ' text))
  let (hardBlock,sensitive) ← policyBlockedKeywords detection.lowercase policy
  let blocked ← section_ policy "blocked_keywords"
  let keywords ← section_ blocked "category_keywords"
  let hits := hardBlock.filter (hasSub · normalized) ++ sensitive.filter (hasSub · normalized)
  let byCategory ← categoryHits detection.lowercase keywords normalized
  let pii := piiHits detection text
  let categories := (if hits.isEmpty then [] else ["illicit"]) ++ byCategory.map Prod.fst ++ if pii.isEmpty then [] else ["PII"]
  let floors := (if hits.isEmpty then [] else [4 / 5]) ++ byCategory.map (fun hit => hit.2.1) ++ if pii.isEmpty then [] else [7 / 20]
  let parts := (if hits.isEmpty then [] else ["危険・違法系キーワード検出: " ++ ", ".intercalate (sortedTexts hits.dedup)]) ++
    (if pii.isEmpty then [] else ["PII パターン検出: " ++ ", ".intercalate pii]) ++
    byCategory.map (fun hit => hit.1 ++ " keyword検出: " ++ ", ".intercalate hit.2.2) ++
    if categories.isEmpty then ["特段の危険キーワードや PII パターンは検出されませんでした。"] else []
  return {
    riskScore := min 1 (floors.foldl max riskBaseline)
    categories := sortedTexts categories.dedup
    rationale := " / ".intercalate parts
    model := "heuristic_fallback"
    raw := [field "fallback" (.bool true),field "hits" (texts hits),field "pii_hits" (texts pii),
      field "category_hits" (.dict (byCategory.map fun hit => field hit.1 (texts hit.2.2)))] }

-- The least risk of a head that did without its model.
def applyLlmFallbackPenalty (reading : Reading K) (label : String) (ctx : Dict) (result : SafetyHeadResult K) : SafetyHeadResult K :=
  let stakes := safeFloat reading (ctx.getD "stakes" (tenth "0.5" float_half)) (1 / 2)
  let raised := fun (floor : K) (note : String) =>
    { result with riskScore := max result.riskScore floor, rationale := result.rationale ++ " / [deterministic_layer] " ++ label ++ note }
  if result.categories.any fun c => c ≠ "" && c ≠ "safety_head_error" then
    if 7 / 10 ≤ stakes then raised (7 / 10) " + high stakes → risk floor 0.70"
    else raised (1 / 2) " → risk floor 0.50"
  else raised (3 / 10) " → baseline risk floor 0.30"

structure HeadWorld (K : Type) where
  reading : Reading K
  detection : Detection K
  policy : Dict
  callTool : String → Dict → List Value → Except Exc Value
  repr : Exc → String

def toolAnswer : Value → Except Exc Dict
  | .dict res =>
    if (Dict.get res "ok").truthy then .ok res
    else .error ⟨.runtimeError,if (Dict.get res "error").truthy then (Dict.get res "error").text else "llm_safety returned ok=False"⟩
  | other => .error (attributeError ("'" ++ typeName other ++ "' object has no attribute 'get'"))

def headOfAnswer (reading : Reading K) (ctx res : Dict) : Except Exc (SafetyHeadResult K) := do
  let risk := safeFloat reading (res.get "risk_score") riskBaseline
  let categories ← itemsOf (res.get "categories")
  let rationale := if (res.get "rationale").truthy then (res.get "rationale").text else ""
  let model := if (res.get "model").truthy then (res.get "model").text else "llm_safety_unknown"
  let result : SafetyHeadResult K := ⟨max 0 (min 1 risk),categories.map Value.text,rationale,model,res⟩
  if (res.get "llm_fallback").truthy then
    return applyLlmFallbackPenalty reading "LLM unavailable" ctx { result with raw := res.set "llm_fallback" (.bool true) }
  else return result

def headOfError (world : HeadWorld K) (text : String) (ctx : Dict) (error : Exc) : Except Exc (SafetyHeadResult K) := do
  let head ← fallbackSafetyHead world.detection world.policy text
  return applyLlmFallbackPenalty world.reading "LLM error" ctx { head with
    categories := head.categories ++ ["safety_head_error"]
    rationale := head.rationale ++ " / safety_head error: " ++ truncate 120 (world.repr error)
    raw := (head.raw.set "safety_head_error" (.str (world.repr error))).set "llm_fallback" (.bool true) }

def runSafetyHead (world : HeadWorld K) (text : String) (ctx : Dict) (alternatives : List Value) : Except Exc (SafetyHeadResult K) :=
  match (do
    let answer ← world.callTool text ctx alternatives
    let res ← toolAnswer answer
    headOfAnswer world.reading ctx res) with
  | .ok result => .ok result
  | .error error => if error.handled then headOfError world text ctx error else .error error

end Head

end VeritasOs.FujiGate
