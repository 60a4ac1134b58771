import VeritasOs.Base64
import VeritasOs.LogFiles
import VeritasOs.Posture

namespace VeritasOs.Encryption
open Text Posture LogFiles

abbrev Bytes := List UInt8

-- What the module imports: hmac with SHA-256, secrets.token_bytes (the random bytes are
-- numbered by draw) and the AES-GCM of the cryptography package.
structure Primitives where
  hmac : Bytes → Bytes → Bytes
  tokenBytes : Nat → Nat → Bytes
  aesEncrypt : Bytes → Bytes → Bytes → Bytes
  aesDecrypt : Bytes → Bytes → Bytes → Option Bytes
  hmac_size : ∀ key message, (hmac key message).length = 32
  tokenBytes_size : ∀ size draw, (tokenBytes size draw).length = size
  aes_tagged : ∀ key nonce data, aesEncrypt key nonce data ≠ []
  aes_opens : ∀ key nonce data, aesDecrypt key nonce (aesEncrypt key nonce data) = some data

def ivSize : Nat := 16
def hmacSize : Nat := 32
def aesgcmNonceSize : Nat := 12

def encodeUtf8 (text : String) : Bytes := text.toByteArray.data.toList

def decodeUtf8 (bytes : Bytes) : Except Exc String :=
  match String.fromUTF8? ⟨bytes.toArray⟩ with
  | some text => .ok text
  | none => .error (valueError "'utf-8' codec can't decode bytes")

def decodeUrlsafeB64 (payload : List Char) : Except Exc Bytes :=
  if payload = [] then .error (valueError "empty ciphertext payload")
  else match Base64.decode payload with
    | some bytes => .ok bytes
    | none => .error (valueError "invalid base64 payload")

def bigEndian (size n : Nat) : Bytes := (List.range size).reverse.map fun place => UInt8.ofNat (n / 256 ^ place)

def packQ (n : Nat) : Bytes := bigEndian 8 n

def xorBytes (a b : Bytes) : Except Exc Bytes :=
  if a.length = b.length then .ok (List.zipWith (· ^^^ ·) a b)
  else .error (valueError "zip() argument 2 is not as long as argument 1")

section Backends
variable (prims : Primitives)

def deriveHmacCtrKeys (master : Bytes) : Bytes × Bytes :=
  (prims.hmac master (encodeUtf8 "veritas-hmac-ctr-enc"),prims.hmac master (encodeUtf8 "veritas-hmac-ctr-mac"))

-- The while loop, from the block numbered counter on; each turn adds a block.
def keystreamLoop (encKey iv : Bytes) (length : Nat) : Nat → Nat → Bytes → Bytes
  | 0,_,stream => stream
  | turns + 1,counter,stream =>
    if stream.length < length then keystreamLoop encKey iv length turns (counter + 1) (stream ++ prims.hmac encKey (iv ++ packQ counter))
    else stream

def hmacCtrKeystream (encKey iv : Bytes) (length : Nat) : Bytes := (keystreamLoop prims encKey iv length length 0 []).take length

def encryptHmacCtrRaw (draw : Nat) (plaintext : String) (key : Bytes) : Except Exc (List Char) := do
  let keys := deriveHmacCtrKeys prims key
  let iv := prims.tokenBytes ivSize draw
  let data := encodeUtf8 plaintext
  let ciphertext ← xorBytes data (hmacCtrKeystream prims keys.1 iv data.length)
  let payload := iv ++ ciphertext
  .ok (Base64.encode (prims.hmac keys.2 payload ++ payload))

def decryptHmacCtrRaw (b64Payload : List Char) (key : Bytes) : Except Exc String := do
  let keys := deriveHmacCtrKeys prims key
  let raw ← decodeUrlsafeB64 b64Payload
  if raw.length < hmacSize + ivSize then .error (valueError "ciphertext too short")
  else
    let tag := raw.take hmacSize
    let payload := raw.drop hmacSize
    if tag ≠ prims.hmac keys.2 payload then .error (valueError "HMAC verification failed — data may be tampered")
    else
      let iv := payload.take ivSize
      let ciphertext := payload.drop ivSize
      let plaintext ← xorBytes ciphertext (hmacCtrKeystream prims keys.1 iv ciphertext.length)
      decodeUtf8 plaintext

def encryptAesgcmRaw (draw : Nat) (plaintext : String) (key : Bytes) : List Char :=
  let nonce := prims.tokenBytes aesgcmNonceSize draw
  Base64.encode (nonce ++ prims.aesEncrypt key nonce (encodeUtf8 plaintext))

-- The class is None where the package could not be imported.
def decryptAesgcmRaw (installed : Bool) (b64Payload : List Char) (key : Bytes) : Except Exc String := do
  let raw ← decodeUrlsafeB64 b64Payload
  if raw.length < aesgcmNonceSize + 1 then .error (valueError "ciphertext too short for AES-GCM")
  else if installed then
    match (prims.aesDecrypt key (raw.take aesgcmNonceSize) (raw.drop aesgcmNonceSize)).map decodeUtf8 with
    | some (.ok text) => .ok text
    | _ => .error (valueError "AES-GCM decryption failed — data may be tampered")
  else .error ⟨.typeError,"'NoneType' object is not callable"⟩

section Seals
variable {prims : Primitives}

theorem decodeUtf8_ok : decodeUtf8 bytes = .ok text ↔ bytes = encodeUtf8 text := by
  unfold decodeUtf8 encodeUtf8 String.fromUTF8?
  constructor
  · intro decoded
    split at decoded
    · rename_i made
      cases decoded
      split at made
      · cases made
        rfl
      · cases made
    · cases decoded
  · rintro rfl
    rw [dif_pos text.isValidUTF8]
    rfl

theorem xor_xor (a b : Bytes) (same : a.length = b.length) : List.zipWith (· ^^^ ·) (List.zipWith (· ^^^ ·) a b) b = a := by
  induction a generalizing b with
  | nil => rfl
  | cons x a ih =>
    cases b with
    | nil => cases same
    | cons y b =>
      simp only [List.zipWith_cons_cons,ih b (Nat.succ.inj same),UInt8.xor_assoc,UInt8.xor_self,UInt8.xor_zero]

-- Each turn adds at least a byte, so as many turns as bytes are enough.
theorem keystreamLoop_reaches (turns counter : Nat) (stream : Bytes) (enough : length ≤ stream.length + turns) :
    length ≤ (keystreamLoop prims encKey iv length turns counter stream).length := by
  induction turns generalizing counter stream with
  | zero => simpa [keystreamLoop] using enough
  | succ turns ih =>
    rw [keystreamLoop]
    split
    · apply ih
      rw [List.length_append,prims.hmac_size]
      omega
    · omega

theorem hmacCtrKeystream_length (encKey iv : Bytes) (length : Nat) : (hmacCtrKeystream prims encKey iv length).length = length := by
  rw [hmacCtrKeystream,List.length_take]
  have reaches : length ≤ (keystreamLoop prims encKey iv length length 0 []).length := keystreamLoop_reaches length 0 [] (by simp)
  omega

theorem xorBytes_keystream (data encKey iv : Bytes) : xorBytes data (hmacCtrKeystream prims encKey iv data.length) =
      .ok (List.zipWith (· ^^^ ·) data (hmacCtrKeystream prims encKey iv data.length)) := by
  rw [xorBytes,if_pos (hmacCtrKeystream_length _ _ _).symm]

-- What the tag of a token covers, and the token's bytes.
def coveredBytes (prims : Primitives) (key iv : Bytes) (text : String) : Bytes :=
  iv ++ List.zipWith (· ^^^ ·) (encodeUtf8 text) (hmacCtrKeystream prims (deriveHmacCtrKeys prims key).1 iv (encodeUtf8 text).length)

def sealedBytes (prims : Primitives) (key iv : Bytes) (text : String) : Bytes :=
  prims.hmac (deriveHmacCtrKeys prims key).2 (coveredBytes prims key iv text) ++ coveredBytes prims key iv text

theorem encryptHmacCtrRaw_seals (draw : Nat) (text : String) (key : Bytes) : encryptHmacCtrRaw prims draw text key =
      .ok (Base64.encode (sealedBytes prims key (prims.tokenBytes ivSize draw) text)) := by
  simp only [encryptHmacCtrRaw,xorBytes_keystream]
  rfl

theorem sealed_size (sized : iv.length = ivSize) : hmacSize + ivSize ≤ (sealedBytes prims key iv text).length := by
  rw [sealedBytes,coveredBytes,List.length_append,List.length_append,prims.hmac_size,sized]
  simp [hmacSize]

theorem sealed_some (sized : iv.length = ivSize) (decoded : Base64.decode payload = some (sealedBytes prims key iv text)) : payload ≠ [] := by
  rintro rfl
  have size : hmacSize + ivSize ≤ (sealedBytes prims key iv text).length := sealed_size sized
  rw [←Option.some.inj decoded] at size
  cases size

theorem decodeUrlsafeB64_ok : decodeUrlsafeB64 payload = .ok raw ↔ payload ≠ [] ∧ Base64.decode payload = some raw := by
  unfold decodeUrlsafeB64
  split
  · simp [*]
  · cases Base64.decode payload <;> simp [*]

-- A payload opens exactly when its bytes are those sealing the text gives under the iv they begin with.
theorem decryptHmacCtrRaw_ok : decryptHmacCtrRaw prims payload key = .ok text ↔
      ∃ iv, iv.length = ivSize ∧ Base64.decode payload = some (sealedBytes prims key iv text) := by
  constructor
  · intro opened
    unfold decryptHmacCtrRaw at opened
    obtain ⟨raw,read,opened⟩ := bind_ok.mp opened
    split at opened
    · cases opened
    · rename_i long
      dsimp only at opened
      split at opened
      · cases opened
      · rename_i verified
        obtain ⟨data,unmasked,decoded⟩ := bind_ok.mp opened
        rw [xorBytes_keystream] at unmasked
        cases unmasked
        have plain := decodeUtf8_ok.mp decoded
        have sized : ((raw.drop hmacSize).take ivSize).length = ivSize := by
          rw [List.length_take,List.length_drop]
          omega
        refine ⟨(raw.drop hmacSize).take ivSize,sized,?_⟩
        have covered : coveredBytes prims key ((raw.drop hmacSize).take ivSize) text = raw.drop hmacSize := by
          rw [coveredBytes,←plain,List.length_zipWith,hmacCtrKeystream_length,Nat.min_self,xor_xor _ _ (hmacCtrKeystream_length _ _ _).symm]
          exact List.take_append_drop _ _
        rw [(decodeUrlsafeB64_ok.mp read).2,sealedBytes,covered,←not_not.mp verified,List.take_append_drop]
  · rintro ⟨iv,sized,decoded⟩
    have some_ := sealed_some sized decoded
    have tag : (sealedBytes prims key iv text).take hmacSize = prims.hmac (deriveHmacCtrKeys prims key).2 (coveredBytes prims key iv text) :=
      List.take_left' (prims.hmac_size _ _)
    have covered : (sealedBytes prims key iv text).drop hmacSize = coveredBytes prims key iv text := List.drop_left' (prims.hmac_size _ _)
    have front : (coveredBytes prims key iv text).take ivSize = iv := List.take_left' sized
    have body : (coveredBytes prims key iv text).drop ivSize = List.zipWith (· ^^^ ·) (encodeUtf8 text)
        (hmacCtrKeystream prims (deriveHmacCtrKeys prims key).1 iv (encodeUtf8 text).length) := List.drop_left' sized
    simp only [decryptHmacCtrRaw,decodeUrlsafeB64_ok.mpr ⟨some_,decoded⟩,bind,Except.bind]
    rw [if_neg (Nat.not_lt.mpr (sealed_size sized)),tag,covered,if_neg (by simp),front]
    rw [body,xorBytes_keystream,List.length_zipWith,hmacCtrKeystream_length,Nat.min_self,xor_xor _ _ (hmacCtrKeystream_length _ _ _).symm]
    exact decodeUtf8_ok.mpr rfl

end Seals

end Backends

-- One process: the environment, whether the cryptography package could be imported and
-- what the KMS and vault clients answer.
structure Process where
  env : Env
  installed : Bool
  awsKms : Except Exc (Option Bytes)
  gcpKms : Except Exc (Option Bytes)
  vault : Except Exc (Option Bytes)

def isTruthy (raw : String) : Bool := truthyTexts.contains (lower (strip raw))

def normalizedEnvValue (env : Env) (key : String) : String := lower (strip ((env key).getD ""))

def strictPostureAliases : List String := ["secure","prod","production","hardened"]

section Process
variable (process : Process)

def backendRequiredForCurrentEnv : Bool :=
  strictPostureAliases.contains (normalizedEnvValue process.env "VERITAS_POSTURE") ||
    strictPostureAliases.contains (normalizedEnvValue process.env "VERITAS_ENV") ||
    isTruthy ((process.env "VERITAS_REQUIRE_PRODUCTION_TRUSTLOG_POSTURE").getD "")

def encryptionBackendUnavailableMessage : String :=
  let shown := fun key => quoteStr ((process.env key).getD "")
  "TrustLog production posture requires cryptography-backed AES-256-GCM encryption backend. VERITAS_POSTURE=" ++
    shown "VERITAS_POSTURE" ++ "; VERITAS_ENV=" ++ shown "VERITAS_ENV" ++ "; VERITAS_REQUIRE_PRODUCTION_TRUSTLOG_POSTURE=" ++
    shown "VERITAS_REQUIRE_PRODUCTION_TRUSTLOG_POSTURE" ++
    ". Install cryptography or use dev/staging posture where the HMAC-CTR fallback remains available."

def ensureEncryptionBackendAvailableForPosture : Except Exc Unit :=
  if backendRequiredForCurrentEnv process && !process.installed then
    .error ⟨.runtimeError,encryptionBackendUnavailableMessage process⟩
  else .ok ()

def envLoadKey : Except Exc (Option Bytes) :=
  match process.env "VERITAS_ENCRYPTION_KEY" with
  | none | some "" => .ok none
  | some raw =>
    match Base64.decode raw.toList with
    | none => .error (keyMissing "VERITAS_ENCRYPTION_KEY is set but contains invalid base64 encoding")
    | some key =>
      if key.length ≠ 32 then .error (keyMissing "VERITAS_ENCRYPTION_KEY must decode to exactly 32 bytes")
      else .ok (some key)

-- The provider of that name: whether it is the environment, and its load_key.
def buildKeyProvider (provider : String) : Except Exc (Bool × Except Exc (Option Bytes)) :=
  let normalized := lower (strip provider)
  if normalized ∈ ["","env","legacy_env"] then .ok (true,envLoadKey process)
  else if normalized ∈ ["aws_kms","aws-kms"] then .ok (false,process.awsKms)
  else if normalized ∈ ["gcp_kms","gcp-kms"] then .ok (false,process.gcpKms)
  else if normalized ∈ ["vault","vault_kv"] then .ok (false,process.vault)
  else .error (keyMissing ("Unsupported encryption key provider: " ++ quoteStr provider ++ ". Expected one of env/aws_kms/gcp_kms/vault."))

def getKeyBytes : Except Exc (Option Bytes) := do
  let (isEnv,loadKey) ← buildKeyProvider process ((process.env "VERITAS_ENCRYPTION_KEY_PROVIDER").getD "env")
  match ← loadKey with
  | some key => .ok (some key)
  | none =>
    if !isEnv && isTruthy ((process.env "VERITAS_ENCRYPTION_ALLOW_ENV_FALLBACK").getD "") then envLoadKey process
    else .ok none

end Process

section Tokens
variable (prims : Primitives) (process : Process)

def encrypt (draw : Nat) (plaintext : String) : Except Exc (List Char) := do
  ensureEncryptionBackendAvailableForPosture process
  match ← getKeyBytes process with
  | none => .error (keyMissing ("VERITAS_ENCRYPTION_KEY is not set. TrustLog requires encryption. Set the environment variable or " ++
      "call generate_key() to create one."))
  | some key =>
    if process.installed then .ok ("ENC:aesgcm:".toList ++ encryptAesgcmRaw prims draw plaintext key)
    else do
      let payload ← encryptHmacCtrRaw prims draw plaintext key
      .ok ("ENC:hmac-ctr:".toList ++ payload)

-- The backends behind the interface the log files are written through.
def backendCipher (key : Option Bytes) : Cipher where
  algorithm := if process.installed then "aesgcm" else "hmac-ctr"
  keyed := key.isSome
  legacy := isTruthy ((process.env "VERITAS_ENCRYPTION_LEGACY_DECRYPT").getD "")
  sealText draw text :=
    if process.installed then String.ofList (encryptAesgcmRaw prims draw text (key.getD []))
    else match encryptHmacCtrRaw prims draw text (key.getD []) with
      | .ok payload => String.ofList payload
      | .error _ => ""
  openText algorithm payload :=
    if algorithm = "aesgcm" then decryptAesgcmRaw prims process.installed payload.toList (key.getD [])
    else if algorithm = "hmac-ctr" then decryptHmacCtrRaw prims payload.toList (key.getD [])
    else .error (valueError "unsupported encryption algorithm marker")

def decrypt (ciphertext : List Char) : Except Exc String := do
  ensureEncryptionBackendAvailableForPosture process
  if "ENC:".toList.isPrefixOf ciphertext then
    let key ← getKeyBytes process
    LogFiles.decrypt (backendCipher prims process key) ciphertext
  else .ok (String.ofList ciphertext)

end Tokens

-- As get_encryption_status reports it.
def backendAcceptable (process : Process) : Bool := !backendRequiredForCurrentEnv process || process.installed

section Tokens
variable {prims : Primitives} {process : Process}

theorem ensure_ok : ensureEncryptionBackendAvailableForPosture process = .ok done ↔ backendAcceptable process = true := by
  unfold ensureEncryptionBackendAvailableForPosture backendAcceptable
  cases backendRequiredForCurrentEnv process <;> cases process.installed <;> simp

theorem mapError_ok {ε : Type} {result : Except ε α} {f : ε → ε} : result.mapError f = .ok value ↔ result = .ok value := by
  cases result <;> simp [Except.mapError]

theorem decrypt_algorithm {cipher : Cipher} (keyed : cipher.keyed = true) (known : name ∈ algorithms) (payload : List Char) :
    LogFiles.decrypt cipher ("ENC:".toList ++ (name.toList ++ ':' :: payload)) = .ok text ↔
      payload ≠ [] ∧ cipher.openText name (String.ofList payload) = .ok text := by
  have plain : ':' ∉ name.toList := by
    simp only [algorithms,List.mem_cons,List.not_mem_nil,or_false] at known
    rcases known with rfl | rfl <;> decide
  change LogFiles.decrypt cipher ('E' :: 'N' :: 'C' :: ':' :: (name.toList ++ ':' :: payload)) = _ ↔ _
  simp only [LogFiles.decrypt,keyed,if_true,splitEncryptedToken_marked plain,String.ofList_toList,known,not_true_eq_false,if_false]
  by_cases empty : payload = []
  · simp [empty]
  · simp only [empty,if_false,mapError_ok,ne_eq,not_false_eq_true,true_and]

theorem decrypt_token (known : name ∈ algorithms) (payload : List Char) :
    decrypt prims process ("ENC:".toList ++ (name.toList ++ ':' :: payload)) = .ok text ↔
      backendAcceptable process = true ∧ ∃ key, getKeyBytes process = .ok (some key) ∧ payload ≠ [] ∧
        (backendCipher prims process (some key)).openText name (String.ofList payload) = .ok text := by
  unfold decrypt
  simp only [bind_ok,ensure_ok]
  rw [if_pos (by simp)]
  constructor
  · rintro ⟨_,accepted,opened⟩
    obtain ⟨key,loaded,opened⟩ := bind_ok.mp opened
    cases key with
    | none => cases opened
    | some key => exact ⟨accepted,key,loaded,(decrypt_algorithm rfl known payload).mp opened⟩
  · rintro ⟨accepted,key,loaded,opened⟩
    exact ⟨(),accepted,bind_ok.mpr ⟨some key,loaded,(decrypt_algorithm rfl known payload).mpr opened⟩⟩

theorem openText_hmac (payload : List Char) : payload ≠ [] ∧
      (backendCipher prims process (some key)).openText "hmac-ctr" (String.ofList payload) = .ok text ↔
      ∃ iv, iv.length = ivSize ∧ Base64.decode payload = some (sealedBytes prims key iv text) := by
  simp only [backendCipher,String.toList_ofList,Option.getD_some,show "hmac-ctr" ≠ "aesgcm" by simp,if_false,if_true,decryptHmacCtrRaw_ok]
  constructor
  · rintro ⟨_,opened⟩
    exact opened
  · rintro ⟨iv,sized,decoded⟩
    exact ⟨sealed_some sized decoded,iv,sized,decoded⟩

-- What the pure-Python backend takes for genuine: the bytes it makes itself of the text, under
-- the iv the token names.
theorem genuine_tokens (payload : List Char) : decrypt prims process ("ENC:".toList ++ ("hmac-ctr".toList ++ ':' :: payload)) = .ok text ↔
      backendAcceptable process = true ∧ ∃ key, getKeyBytes process = .ok (some key) ∧
        ∃ iv, iv.length = ivSize ∧ Base64.decode payload = some (sealedBytes prims key iv text) := by
  rw [decrypt_token (by decide)]
  refine and_congr_right fun _ => exists_congr fun key => and_congr_right fun _ => ?_
  exact openText_hmac payload

theorem encryptAesgcmRaw_some (draw : Nat) (text : String) (key : Bytes) : encryptAesgcmRaw prims draw text key ≠ [] :=
  Base64.encode_some fun empty => prims.aes_tagged _ _ _ (List.append_eq_nil_iff.mp empty).2

theorem decryptAesgcmRaw_sealed (draw : Nat) (text : String) (key : Bytes) (installed : Bool) :
    decryptAesgcmRaw prims installed (encryptAesgcmRaw prims draw text key) key = .ok text ↔ installed = true := by
  have sized := prims.tokenBytes_size aesgcmNonceSize draw
  have some_ := List.length_pos_iff.mpr (prims.aes_tagged key (prims.tokenBytes aesgcmNonceSize draw) (encodeUtf8 text))
  unfold decryptAesgcmRaw
  rw [decodeUrlsafeB64_ok.mpr ⟨encryptAesgcmRaw_some draw text key,Base64.decode_encode _⟩]
  simp only [bind,Except.bind]
  rw [if_neg (by rw [List.length_append]; omega),List.take_left' sized,List.drop_left' sized,prims.aes_opens]
  rw [Option.map_some,show decodeUtf8 (encodeUtf8 text) = .ok text from decodeUtf8_ok.mpr rfl]
  cases installed <;> simp

theorem encrypt_ok : encrypt prims process draw text = .ok token ↔ backendAcceptable process = true ∧
    ∃ key, getKeyBytes process = .ok (some key) ∧ token = "ENC:".toList ++ if process.installed
      then "aesgcm".toList ++ ':' :: encryptAesgcmRaw prims draw text key
      else "hmac-ctr".toList ++ ':' :: Base64.encode (sealedBytes prims key (prims.tokenBytes ivSize draw) text) := by
  unfold encrypt
  simp only [bind_ok,ensure_ok]
  constructor
  · rintro ⟨_,accepted,written⟩
    obtain ⟨key,loaded,written⟩ := written
    cases key with
    | none => cases written
    | some key =>
      refine ⟨accepted,key,loaded,?_⟩
      simp only [encryptHmacCtrRaw_seals] at written
      split at written <;> cases written <;> simp [*]
  · rintro ⟨accepted,key,loaded,rfl⟩
    refine ⟨(),accepted,some key,loaded,?_⟩
    simp only [encryptHmacCtrRaw_seals]
    split <;> rfl

-- A token is read back under the same key, whichever backend wrote it, as long as that backend is there.
theorem token_reread_exact {writer reader : Process} (written : encrypt prims writer draw text = .ok token)
    (same : getKeyBytes reader = getKeyBytes writer) : decrypt prims reader token = .ok text ↔
      backendAcceptable reader = true ∧ (writer.installed = true → reader.installed = true) := by
  obtain ⟨_,key,loaded,rfl⟩ := encrypt_ok.mp written
  rw [←same] at loaded
  cases backend : writer.installed with
  | true =>
    simp only [if_true,forall_const]
    rw [decrypt_token (by decide)]
    refine and_congr_right fun _ => ?_
    simp only [loaded,Except.ok.injEq,Option.some.injEq,exists_eq_left',backendCipher,if_true,String.toList_ofList,Option.getD_some,
      decryptAesgcmRaw_sealed]
    exact and_iff_right (encryptAesgcmRaw_some draw text key)
  | false =>
    simp only [Bool.false_eq_true,if_false,false_implies,and_true]
    rw [decrypt_token (by decide)]
    refine and_iff_left ⟨key,loaded,(openText_hmac _).mpr ⟨_,prims.tokenBytes_size _ _,Base64.decode_encode _⟩⟩

-- A part of what the tag covers has the same tag.
def TagShared (prims : Primitives) (key iv : Bytes) (text : String) : Prop :=
  ∃ part, part <+: coveredBytes prims key iv text ∧ part ≠ coveredBytes prims key iv text ∧
    prims.hmac (deriveHmacCtrKeys prims key).2 part = prims.hmac (deriveHmacCtrKeys prims key).2 (coveredBytes prims key iv text)

theorem torn_token_refused {writer reader : Process} (plain : writer.installed = false)
    (written : encrypt prims writer draw text = .ok ("ENC:".toList ++ ("hmac-ctr".toList ++ ':' :: (first ++ rest)))) (torn : rest ≠ [])
    (same : getKeyBytes reader = getKeyBytes writer) :
    (∀ other, decrypt prims reader ("ENC:".toList ++ ("hmac-ctr".toList ++ ':' :: first)) ≠ .ok other) ∨
      ∃ key, getKeyBytes writer = .ok (some key) ∧ TagShared prims key (prims.tokenBytes ivSize draw) text := by
  refine or_iff_not_imp_left.mpr fun accepted => ?_
  obtain ⟨other,opened⟩ := not_forall_not.mp accepted
  obtain ⟨_,key,loaded,token⟩ := encrypt_ok.mp written
  obtain ⟨_,reading,reloaded,opened⟩ := (decrypt_token (by decide) first).mp opened
  rw [same,loaded] at reloaded
  cases reloaded
  obtain ⟨iv,sized,decoded⟩ := (openText_hmac first).mp opened
  rw [plain] at token
  simp only [Bool.false_eq_true,if_false,List.append_cancel_left_eq,List.cons.injEq,true_and] at token
  obtain ⟨before,fewer⟩ := Base64.decode_cut _ first rest _ token.symm torn decoded
  rw [sealedBytes,sealedBytes] at before fewer
  obtain ⟨more,whole⟩ := before
  rw [List.append_assoc] at whole
  obtain ⟨tag,covered⟩ := List.append_inj whole (by rw [prims.hmac_size,prims.hmac_size])
  refine ⟨key,loaded,_,⟨more,covered⟩,?_,tag⟩
  intro equal
  exact fewer (by rw [tag,equal])

end Tokens

def sampleKey : Bytes := List.ofFn fun byte : Fin 32 => UInt8.ofNat byte

def sampleHmac (key message : Bytes) : Bytes :=
  bigEndian 32 <|
    if key = sampleKey ∧ message = encodeUtf8 "veritas-hmac-ctr-enc" then
      0x4c7e7f92bf908c2c24c79463ff9add68c069e2b75a45670a98dc9a02e14c17cc
    else if key = sampleKey ∧ message = encodeUtf8 "veritas-hmac-ctr-mac" then
      0x6d1b6aaa6c39d8d6d1de6f9b1c576675b6cd48e8765c16b1f2fc8ff03446fe60
    else if message = List.replicate 24 0 then 0x1482c96ed0a9ae59c0c5255068c992fecfe00f364594af91e1043eb960a20823
    else 0x5984ef616ad9eb5172d31c67c2087b9625620e4914f829d4a670aa39f1d26908

def samplePrimitives : Primitives where
  hmac := sampleHmac
  tokenBytes size _ := List.replicate size 0
  aesEncrypt _ _ data := 0 :: data
  aesDecrypt _ _ sealed_ := sealed_.tail?
  hmac_size _ _ := by simp [sampleHmac,bigEndian]
  tokenBytes_size _ _ := List.length_replicate
  aes_tagged _ _ _ := List.cons_ne_nil _ _
  aes_opens _ _ _ := rfl

-- No cryptography package, and the bytes 0 to 31 for a key.
def sampleProcess : Process where
  env name := if name = "VERITAS_ENCRYPTION_KEY" then some "AAECAwQFBgcICQoLDA0ODxAREhMUFRYXGBkaGxwdHh8=" else none
  installed := false
  awsKms := .ok none
  gcpKms := .ok none
  vault := .ok none

def tornPayload : List Char := "WYTvYWrZ61Fy0xxnwgh7liViDkkU-CnUpnCqOfHSaQgAAAAAAAAAAAAAAAAAAAAA".toList

def sampleToken : List Char := "ENC:".toList ++ ("hmac-ctr".toList ++ ':' :: (tornPayload ++ "b_8=".toList))

theorem sampleToken_written : encrypt samplePrimitives sampleProcess 0 "\x7b\x7d" = .ok sampleToken := by
  rfl

theorem token_reread_sample : decrypt samplePrimitives sampleProcess sampleToken = .ok "\x7b\x7d" :=
  (token_reread_exact sampleToken_written rfl).mpr ⟨rfl,fun installed => installed⟩

-- The tag and the iv are whole, the data are cut off.
theorem torn_token_sample : (∀ other, decrypt samplePrimitives sampleProcess ("ENC:".toList ++ ("hmac-ctr".toList ++ ':' :: tornPayload)) ≠ .ok other) ∨
    ∃ key, getKeyBytes sampleProcess = .ok (some key) ∧ TagShared samplePrimitives key (List.replicate 16 0) "\x7b\x7d" :=
  torn_token_refused rfl sampleToken_written (List.cons_ne_nil _ _) rfl

end VeritasOs.Encryption
