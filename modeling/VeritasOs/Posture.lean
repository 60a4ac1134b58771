import VeritasOs.Text

namespace VeritasOs.Posture
open Text

abbrev Env := String → Option String

def truthyTexts : List String := ["1","true","yes","on"]
def falsyTexts : List String := ["0","false","no","off",""]

def envBool (env : Env) (key : String) (default : Bool) : Bool :=
  match env key with
  | none => default
  | some raw =>
    let normalised := lower (strip raw)
    if truthyTexts.contains normalised then true
    else if falsyTexts.contains normalised then false
    else default

inductive PostureLevel where
  | dev | staging | secure | prod
deriving DecidableEq

def postureAliases : List (String × PostureLevel) :=
  [("dev",.dev),("development",.dev),("local",.dev),("test",.dev),("testing",.dev),
   ("stg",.staging),("staging",.staging),("stage",.staging),("secure",.secure),("hardened",.secure),("prod",.prod),("production",.prod)]

-- VERITAS_POSTURE, else VERITAS_ENV, else dev; an unknown name is dev too.
def resolvePosture (env : Env) : PostureLevel :=
  let posture := lower (strip ((env "VERITAS_POSTURE").getD ""))
  let raw := if posture = "" then lower (strip ((env "VERITAS_ENV").getD "")) else posture
  ((postureAliases.find? fun entry => entry.1 == raw).map Prod.snd).getD .dev

def PostureLevel.isStrict : PostureLevel → Bool
  | .secure | .prod => true
  | .dev | .staging => false

structure PostureDefaults where
  posture : PostureLevel
  policyRuntimeEnforce : Bool

-- The escape hatch works in secure posture only.
def deriveDefaults (env : Env) (posture : PostureLevel) : PostureDefaults where
  posture := posture
  policyRuntimeEnforce := match posture with
    | .prod => true
    | .secure => match env "VERITAS_POSTURE_OVERRIDE_POLICY_ENFORCE" with
      | none => true
      | some raw => truthyTexts.contains (lower (strip raw))
    | .dev | .staging => envBool env "VERITAS_POLICY_RUNTIME_ENFORCE" false

end VeritasOs.Posture
