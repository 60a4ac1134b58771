import Mathlib.Data.List.TakeDrop
import VeritasOs.JsonSuffix
import VeritasOs.TextLines
import VeritasOs.TrustLog

namespace VeritasOs.LogFiles
open Text JsonText TextLines BindArtifacts TrustLog

-- The backend in use and its primitives: sealing draws a nonce, opening refuses with
-- a ValueError what was not sealed.
structure Cipher where
  algorithm : String
  keyed : Bool
  legacy : Bool
  sealText : Nat → String → String
  openText : String → String → Except Exc String

def keyMissing (text : String) : Exc := ⟨.runtimeError,text⟩
def decryptionError (error : Exc) : Exc := ⟨.runtimeError,"Decryption failed: " ++ error.text⟩
def valueError (text : String) : Exc := ⟨.valueError,text⟩

section Encryption
variable (cipher : Cipher)

def envelope (draw : Nat) (plaintext : String) : List Char :=
  'E' :: 'N' :: 'C' :: ':' :: (cipher.algorithm.toList ++ ':' :: (cipher.sealText draw plaintext).toList)

def encrypt (draw : Nat) (plaintext : String) : Except Exc (List Char) :=
  if cipher.keyed then .ok (envelope cipher draw plaintext)
  else .error (keyMissing "VERITAS_ENCRYPTION_KEY is not set.")

def algorithms : List String := ["aesgcm","hmac-ctr"]

def splitEncryptedToken (afterPrefix : List Char) : Except Exc (String × String) :=
  if afterPrefix = [] then .error (valueError "missing encrypted envelope")
  else if ':' ∉ afterPrefix then
    if cipher.legacy then .ok (cipher.algorithm,String.ofList afterPrefix)
    else .error (valueError "legacy encrypted envelope not accepted")
  else
    let algorithm := String.ofList (afterPrefix.takeWhile fun c => !(c == ':'))
    let payload := (afterPrefix.dropWhile fun c => !(c == ':')).drop 1
    if algorithm ∉ algorithms then .error (valueError "unsupported encryption algorithm marker")
    else if payload = [] then .error (valueError "missing encrypted payload")
    else .ok (algorithm,String.ofList payload)

def decrypt (text : List Char) : Except Exc String :=
  match text with
  | 'E' :: 'N' :: 'C' :: ':' :: afterPrefix =>
    if cipher.keyed then
      match splitEncryptedToken cipher afterPrefix with
      | .error error => .error (decryptionError error)
      | .ok (algorithm,payload) => (cipher.openText algorithm payload).mapError decryptionError
    else .error (keyMissing "Cannot decrypt: VERITAS_ENCRYPTION_KEY not set")
  | _ => .ok (String.ofList text)

def decode (text : List Char) : Except Exc Value := do
  let plain ← decrypt cipher text
  match loads plain with
  | none => .error (valueError "Expecting value")
  | some json => .ok (fromJson json)

end Encryption

structure Files where
  active : Option (List Char) := none
  rotated : Option (List Char) := none
  marker : Option String := none
  appends : Nat := 0

section Files
variable (cipher : Cipher)

def lineHash (line : List Char) : Option String :=
  match decode cipher line with
  | .ok (.dict members) => entryHash members
  | _ => none

-- load_last_hash_marker: a blank marker counts as none.
def loadLastHashMarker (files : Files) : Option String :=
  files.marker.bind fun text => if strip text = "" then none else some (strip text)

def scanTail (content : List Char) : Option String :=
  scanBack (lineHash cipher) isSha256Hex content (content.length - chunkSize)

def recoverLastHashFromRotatedLog (files : Files) : Option String :=
  match files.rotated with
  | none | some [] => none
  | some content => scanTail cipher content

-- An absent and an empty log file are answered by the marker, then by the rotated file.
def getLastHashUnlocked (files : Files) : Option String :=
  match files.active with
  | none | some [] => (loadLastHashMarker files).or (recoverLastHashFromRotatedLog cipher files)
  | some content => scanTail cipher content

-- The except clause names OSError, ValueError and TypeError; what decrypt raises passes it.
def saveLastHashMarker (files : Files) : Except Exc Files :=
  match files.active.bind readLastNonemptyLine with
  | none => .ok files
  | some line =>
    match decode cipher line with
    | .error error => if error.kind = .runtimeError then .error error else .ok files
    | .ok (.dict members) =>
      match Dict.get members "sha256" with
      | .str hash => .ok (if hash = "" then files else { files with marker := some hash })
      | _ => .ok files
    | .ok _ => .ok files

def countLines (content : Option (List Char)) : Nat := ((content.map byteLines).getD []).length

-- os.replace puts the full log in the place of the one rotated before.
def rotateIfNeeded (maxLines : Nat) (files : Files) : Except Exc Files :=
  if countLines files.active < maxLines then .ok files
  else do
    let files ← saveLastHashMarker cipher files
    match files.active with
    | none => .error ⟨.osError,"No such file or directory"⟩
    | some content => .ok { files with active := none,rotated := some content }

-- The line is made before the log is opened, and so before it is rotated.
def writeEntry (maxLines draw : Nat) (entry : Dict) (files : Files) : Except Exc Files :=
  match toJson false (.dict entry) with
  | none => .error (typeError "Object is not JSON serializable")
  | some json => do
    let token ← encrypt cipher draw (dumps spaced json)
    let opened ← rotateIfNeeded cipher maxLines files
    .ok { opened with active := some (opened.active.getD [] ++ token ++ ['\n']) }

def appendTrustLog (storage : Storage) (entry : Dict) (files : Files) : Except Exc Dict × Files :=
  let counted := { files with appends := files.appends + 1 }
  match storage.appendFault files.appends with
  | .before error => (.error error,counted)
  | fault =>
    match prepareEntry storage.masking storage.sha256 entry (getLastHashUnlocked cipher files) (storage.createdAt files.appends) with
    | .error error => (.error error,counted)
    | .ok (prepared,_) =>
      match writeEntry cipher storage.maxLines files.appends prepared counted with
      | .error error => (.error error,counted)
      | .ok written =>
        match fault with
        | .after error => (.error error,written)
        | _ => (.ok prepared,written)

-- _decode_line: a line that cannot be read, and one that reads as null, is left out.
def decodeLine (line : List Char) : Option Value :=
  let text := stripBy isSpace line
  if text = [] then none else (decode cipher text).toOption.filter (· ≠ .none)

def iterTrustLog (files : Files) : List Value := (byteLines (files.active.getD [])).filterMap (decodeLine cipher)

-- _iter_full_entries: a line that cannot be read is marked with the reason.
def invalidEntry (index : Nat) (reason : String) : Dict :=
  [(.str "__invalid__",.bool true),(.str "__index__",.int index),(.str "__reason__",.str reason)]

def fullEntry (index : Nat) (line : List Char) : Option Dict :=
  let text := stripBy isSpace line
  if text = [] then none
  else
    match decrypt cipher text with
    | .error _ => some (invalidEntry index (if cipher.keyed then "decrypt_failed" else "key_missing"))
    | .ok plain =>
      match loads plain with
      | none => some (invalidEntry index "json_decode_error")
      | some json =>
        match fromJson json with
        | .dict members => some members
        | _ => some (invalidEntry index "entry_not_dict")

def iterFullEntries (files : Files) : List Dict :=
  ((byteLines (files.active.getD [])).zipIdx.filterMap fun line => fullEntry cipher line.2 line.1)

end Files

def isPayloadChar (c : Char) : Bool := c.isAlphanum || c == '-' || c == '_' || c == '='

-- What the backends promise: a payload is opened again; one that was cut, is too short
-- for nonce and tag or leaves the alphabet is refused.
structure Sound (cipher : Cipher) : Prop where
  known : cipher.algorithm ∈ algorithms
  keyed : cipher.keyed = true
  alphabet : ∀ draw text, ∀ c ∈ (cipher.sealText draw text).toList, isPayloadChar c = true
  opens : ∀ draw text, cipher.openText cipher.algorithm (cipher.sealText draw text) = .ok text
  cut : ∀ draw text first rest, (cipher.sealText draw text).toList = first ++ rest → rest ≠ [] →
    ∃ error, cipher.openText cipher.algorithm (String.ofList first) = .error error
  short : ∀ algorithm payload, payload.length < 16 → ∃ error, cipher.openText algorithm (String.ofList payload) = .error error
  foreign : ∀ algorithm payload c, c ∈ payload → isPayloadChar c = false →
    ∃ error, cipher.openText algorithm (String.ofList payload) = .error error

section Envelope
variable {cipher : Cipher}

theorem colon_split (plain : ':' ∉ head) (rest : List Char) : (head ++ ':' :: rest).takeWhile (fun c => !(c == ':')) = head ∧
      ((head ++ ':' :: rest).dropWhile fun c => !(c == ':')).drop 1 = rest := by
  have others : ∀ c ∈ head, (!(c == ':')) = true := by
    intro c listed
    have other : c ≠ ':' := by
      rintro rfl
      exact plain listed
    simpa using other
  rw [List.takeWhile_append_of_pos others,List.dropWhile_append_of_pos others]
  simp

theorem splitEncryptedToken_marked (plain : ':' ∉ head) : splitEncryptedToken cipher (head ++ ':' :: payload) =
      if String.ofList head ∉ algorithms then .error (valueError "unsupported encryption algorithm marker")
      else if payload = [] then .error (valueError "missing encrypted payload") else .ok (String.ofList head,String.ofList payload) := by
  obtain ⟨name,rest⟩ := colon_split plain payload
  rw [splitEncryptedToken,if_neg (by simp),if_neg (by simp)]
  simp only [name,rest]

theorem algorithm_chars (sound : Sound cipher) :
    (∀ c ∈ cipher.algorithm.toList, isPayloadChar c = true) ∧ cipher.algorithm.toList.length < 16 := by
  have known := sound.known
  simp only [algorithms,List.mem_cons,List.not_mem_nil,or_false] at known
  rcases known with same | same <;> rw [same] <;> exact ⟨List.all_eq_true.mp rfl,by decide⟩

theorem algorithm_plain (sound : Sound cipher) : ':' ∉ cipher.algorithm.toList := by
  intro listed
  exact absurd ((algorithm_chars sound).1 ':' listed) (by decide)

theorem payload_some (sound : Sound cipher) (draw : Nat) (text : String) : (cipher.sealText draw text).toList ≠ [] := by
  intro empty
  obtain ⟨error,refused⟩ := sound.short cipher.algorithm [] (by decide)
  have opened := sound.opens draw text
  rw [String.toList_eq_nil_iff.mp empty] at opened
  rw [show String.ofList [] = "" from rfl,opened] at refused
  cases refused

theorem decrypt_marked (sound : Sound cipher) (after : List Char) : decrypt cipher ('E' :: 'N' :: 'C' :: ':' :: after) =
      match splitEncryptedToken cipher after with
      | .error error => .error (decryptionError error)
      | .ok (algorithm,payload) => (cipher.openText algorithm payload).mapError decryptionError := by
  simp [decrypt,sound.keyed]

theorem decrypt_envelope (sound : Sound cipher) (draw : Nat) (text : String) : decrypt cipher (envelope cipher draw text) = .ok text := by
  rw [envelope,decrypt_marked sound,splitEncryptedToken_marked (algorithm_plain sound)]
  simp only [String.ofList_toList,sound.known,not_true_eq_false,if_false,if_neg (payload_some sound draw text),sound.opens]
  rfl

theorem envelope_chars (sound : Sound cipher) (draw : Nat) (text : String) :
    ∀ c ∈ envelope cipher draw text, isPayloadChar c = true ∨ c = ':' := by
  intro c listed
  simp only [envelope,List.mem_cons,List.mem_append] at listed
  rcases listed with rfl | rfl | rfl | rfl | inName | rfl | inPayload
  · exact .inl rfl
  · exact .inl rfl
  · exact .inl rfl
  · exact .inr rfl
  · exact .inl ((algorithm_chars sound).1 c inName)
  · exact .inr rfl
  · exact .inl (sound.alphabet draw text c inPayload)

variable {c : Char} {rest line after : List Char} {draw : Nat} {text : String}

theorem visible_range (fine : isPayloadChar c = true ∨ c = ':') : 33 ≤ c.toNat ∧ c.toNat ≤ 126 := by
  rcases fine with payload | rfl
  · simp only [isPayloadChar,Char.isAlphanum,isAlpha_eq,isUpper_eq,isLower_eq,Char.isDigit,Bool.or_eq_true,Bool.and_eq_true,
      decide_eq_true_eq,beq_iff_eq,ge_iff_le,UInt32.le_iff_toNat_le] at payload
    rcases payload with ((((upper | lower) | digit) | rfl) | rfl) | rfl
    · exact ⟨le_trans (by decide) upper.1,le_trans upper.2 (by decide)⟩
    · exact ⟨le_trans (by decide) lower.1,le_trans lower.2 (by decide)⟩
    · exact ⟨le_trans (by decide) digit.1,le_trans digit.2 (by decide)⟩
    all_goals decide
  · decide

theorem visible_plain (fine : isPayloadChar c = true ∨ c = ':') : isLineBreak c = false ∧ isSpace c = false ∧ c ≠ '\n' := by
  obtain ⟨low,high⟩ := visible_range fine
  have other : ∀ d : Char, d.toNat < 33 → c ≠ d := by
    rintro d small rfl
    omega
  refine ⟨?_,?_,other '\n' (by decide)⟩
  · simp only [isLineBreak,Bool.or_eq_false_iff,beq_eq_false_iff_ne]
    refine ⟨⟨⟨⟨⟨⟨⟨⟨other _ (by decide),other _ (by decide)⟩,other _ (by decide)⟩,other _ (by decide)⟩,other _ (by decide)⟩,other _ (by decide)⟩,?_⟩,?_⟩,?_⟩ <;> omega
  · simp only [isSpace,Bool.or_eq_false_iff,Bool.and_eq_false_iff,decide_eq_false_iff_not,beq_eq_false_iff_ne]
    omega
theorem not_payload (fine : isPayloadChar c = true ∨ c = ':') (other : isPayloadChar d = false) (notColon : d ≠ ':') : c ≠ d := by
  rintro rfl
  rcases fine with payload | colon
  · simp [payload] at other
  · exact notColon colon

theorem classify_mark (more : List Char) : classify ('E' :: more) = none := by
  have word : keywordOf ('E' :: more) = none := by simp [keywordOf,atomText]
  have number : intText ('E' :: more) = none := by
    cases more <;> simp [intText,natText,show Char.isDigit 'E' = false from rfl]
  have literal : isFloatText ('E' :: more) = false := by
    simp [isFloatText,List.span_eq_takeWhile_dropWhile,intText,natText]
  simp [classify,word,number,literal]

theorem lex_unclassified (none_ : ∀ more, classify (seen.reverse ++ more) = none) : lex (.atom seen) rest = none := by
  induction rest generalizing seen with
  | nil => simpa [lex] using none_ []
  | cons c rest ih =>
    rw [lex_cons,step]
    split
    · simp only [Option.bind_some,List.nil_append,Option.map_id']
      exact ih fun more => by simpa using none_ (c :: more)
    · rw [show classify seen.reverse = none by simpa using none_ []]
      rfl

theorem loads_mark (rest : List Char) : loads (String.ofList ('E' :: rest)) = none := by
  have lexed : lex .start ('E' :: rest) = none := by
    rw [lex_cons,step,begin_atom (by decide)]
    simp only [Option.bind_some,List.nil_append,Option.map_id']
    exact lex_unclassified fun more => classify_mark more
  rw [loads,String.toList_ofList,lexed]
  rfl

def Refused (cipher : Cipher) (line : List Char) : Prop := ∃ error, decode cipher line = .error error ∧ error.kind = .runtimeError
def Garbled (cipher : Cipher) (line : List Char) : Prop := ∃ error, decode cipher line = .error error ∧ error.kind = .valueError

theorem Garbled.failed (garbled : Garbled cipher line) : ∃ error, decode cipher line = .error error := by
  obtain ⟨error,failed,_⟩ := garbled
  exact ⟨error,failed⟩

theorem refused_of (sound : Sound cipher)
    (failed : (∃ error, splitEncryptedToken cipher after = .error error) ∨ ∃ algorithm payload error, splitEncryptedToken cipher after = .ok (algorithm,payload) ∧ cipher.openText algorithm payload = .error error) :
    Refused cipher ('E' :: 'N' :: 'C' :: ':' :: after) := by
  rcases failed with ⟨error,split⟩ | ⟨algorithm,payload,error,split,opened⟩
  · refine ⟨decryptionError error,?_,rfl⟩
    rw [decode,decrypt_marked sound,split]
    rfl
  · refine ⟨decryptionError error,?_,rfl⟩
    rw [decode,decrypt_marked sound,split]
    simp only [opened]
    rfl

theorem garbled_of (begins : line = 'E' :: rest) (unmarked : ∀ after, line ≠ 'E' :: 'N' :: 'C' :: ':' :: after) : Garbled cipher line := by
  have plain : decrypt cipher line = .ok (String.ofList line) := by
    unfold decrypt
    split
    · rename_i after
      exact absurd rfl (unmarked after)
    · rfl
  refine ⟨valueError "Expecting value",?_,rfl⟩
  rw [decode,plain,begins]
  change (match loads (String.ofList ('E' :: rest)) with | none => _ | some json => _) = _
  rw [loads_mark]

-- A part of an envelope that was cut off at its end is refused once the mark is whole.
theorem cut_refused (sound : Sound cipher) (whole : cipher.algorithm.toList ++ ':' :: (cipher.sealText draw text).toList = after ++ rest)
    (some_ : rest ≠ []) : Refused cipher ('E' :: 'N' :: 'C' :: ':' :: after) := by
  have short := (algorithm_chars sound).2
  have plain := algorithm_plain sound
  -- The cut lies in the name of the algorithm, or after the colon that ends it.
  have unmarked : ∀ first more : List Char, cipher.algorithm.toList = first ++ more → after = first →
      Refused cipher ('E' :: 'N' :: 'C' :: ':' :: after) := by
    rintro first more name rfl
    have noColon : ':' ∉ after := fun listed => plain (by rw [name]; exact List.mem_append_left _ listed)
    refine refused_of sound ?_
    rw [splitEncryptedToken,if_pos noColon]
    split
    · exact .inl ⟨_,rfl⟩
    · split
      · obtain ⟨error,refused⟩ := sound.short cipher.algorithm after (by rw [name] at short; simp at short; omega)
        exact .inr ⟨_,_,error,rfl,refused⟩
      · exact .inl ⟨_,rfl⟩
  rcases List.append_eq_append_iff.mp whole with ⟨more,same,split⟩ | ⟨more,same,split⟩
  · cases more with
    | nil =>
      rw [List.append_nil] at same
      exact unmarked after [] (by rw [same,List.append_nil]) rfl
    | cons c more =>
      obtain ⟨rfl,payload⟩ := List.cons.inj split
      rw [same]
      refine refused_of sound ?_
      rw [splitEncryptedToken_marked plain]
      simp only [String.ofList_toList,sound.known,not_true_eq_false,if_false]
      obtain ⟨error,refused⟩ := sound.cut draw text more rest payload some_
      split
      · exact .inl ⟨_,rfl⟩
      · exact .inr ⟨_,_,error,rfl,refused⟩
  · exact unmarked after more same rfl

theorem torn_line (sound : Sound cipher) (whole : envelope cipher draw text = torn ++ rest) (some_ : rest ≠ []) :
    torn = [] ∨ (torn.length < 4 ∧ Garbled cipher torn) ∨ (4 ≤ torn.length ∧ Refused cipher torn) := by
  rw [envelope] at whole
  match torn with
  | [] => exact .inl rfl
  | [a] =>
    obtain ⟨rfl,_⟩ := List.cons.inj whole
    exact .inr (.inl ⟨by decide,garbled_of rfl (by simp)⟩)
  | [a,b] =>
    obtain ⟨rfl,_⟩ := List.cons.inj whole
    exact .inr (.inl ⟨by simp,garbled_of rfl (by simp)⟩)
  | [a,b,c] =>
    obtain ⟨rfl,_⟩ := List.cons.inj whole
    exact .inr (.inl ⟨by simp,garbled_of rfl (by simp)⟩)
  | a :: b :: c :: d :: after =>
    simp only [List.cons_append,List.cons.injEq] at whole
    obtain ⟨rfl,rfl,rfl,rfl,tail⟩ := whole
    exact .inr (.inr ⟨by simp,cut_refused sound tail some_⟩)

theorem capital_foreign (known : name ∈ algorithms) : 'E' ∉ name.toList := by
  simp only [algorithms,List.mem_cons,List.not_mem_nil,or_false] at known
  rcases known with rfl | rfl <;> decide

theorem unmarked_tail (sound : Sound cipher)
    (whole : envelope cipher draw text = skipped ++ 'E' :: 'N' :: 'C' :: ':' :: after) : skipped = [] := by
  have noCapital := capital_foreign sound.known
  rw [envelope] at whole
  match skipped with
  | [] => rfl
  | [_] | [_,_] | [_,_,_] => simp at whole
  | a :: b :: c :: d :: inner =>
    simp only [List.cons_append,List.cons.injEq] at whole
    rcases List.append_eq_append_iff.mp whole.2.2.2.2 with ⟨more,_,split⟩ | ⟨more,name,split⟩
    · cases more with
      | nil => simp at split
      | cons c more =>
        have colon : ':' ∈ (cipher.sealText draw text).toList := by
          rw [(List.cons.inj split).2]
          simp
        exact absurd (sound.alphabet draw text ':' colon) (by decide)
    · cases more with
      | nil => simp at split
      | cons c more =>
        obtain ⟨rfl,_⟩ := List.cons.inj split
        exact absurd (by simp [name]) noCapital

theorem lineHash_error (failed : decode cipher line = .error error) : lineHash cipher line = none := by
  rw [lineHash,failed]

theorem fromJson_dict (same : fromJson json = .dict members) : ∃ named, json = .obj named := by
  cases json with
  | obj named => exact ⟨named,rfl⟩
  | atom a => cases a <;> cases same
  | str s => cases same
  | arr items => cases same

theorem unreadable_part (sound : Sound cipher) (whole : envelope cipher draw text = skipped ++ (cut ++ rest))
    (broken : skipped ≠ [] ∨ rest ≠ []) : lineHash cipher cut = none := by
  by_cases begun : skipped = []
  · subst begun
    rcases torn_line sound (show envelope cipher draw text = cut ++ rest from whole) (broken.resolve_left (by simp)) with rfl | ⟨_,error,failed,_⟩ | ⟨_,error,failed,_⟩
    · rfl
    · exact lineHash_error failed
    · exact lineHash_error failed
  · have plain : decrypt cipher cut = .ok (String.ofList cut) := by
      unfold decrypt
      split
      · exact absurd (unmarked_tail sound whole) begun
      · rfl
    have noBrace : '{' ∉ cut := by
      intro listed
      have inside : '{' ∈ envelope cipher draw text := by
        rw [whole]
        simp [listed]
      exact not_payload (envelope_chars sound draw text '{' inside) (show isPayloadChar '{' = false by decide) (by decide) rfl
    have read : decode cipher cut = match loads (String.ofList cut) with
        | none => .error (valueError "Expecting value")
        | some json => .ok (fromJson json) := by
      rw [decode,plain]
      rfl
    cases loaded : loads (String.ofList cut) with
    | none => exact lineHash_error (by rw [read,loaded])
    | some json =>
      rw [lineHash,read,loaded]
      simp only
      split
      · rename_i members same
        obtain ⟨named,rfl⟩ := fromJson_dict (Except.ok.inj same)
        exact absurd (by simpa using loads_object loaded) noBrace
      · rfl

-- A new line written behind a torn one makes one line with it that cannot be read.
theorem glued_line (sound : Sound cipher) (later : Nat) (new : String)
    (whole : envelope cipher draw text = torn ++ rest) (some_ : torn ≠ []) :
    ∃ error, decode cipher (torn ++ envelope cipher later new) = .error error := by
  rw [envelope] at whole
  match torn with
  | [] => exact absurd rfl some_
  | [a] | [a,b] | [a,b,c] =>
    obtain ⟨rfl,_⟩ := List.cons.inj whole
    exact (garbled_of rfl (by simp [envelope])).failed
  | a :: b :: c :: d :: after =>
    simp only [List.cons_append,List.cons.injEq] at whole
    obtain ⟨rfl,rfl,rfl,rfl,tail⟩ := whole
    have plain := algorithm_plain sound
    -- A name that runs into the next mark is none of the algorithms'.
    have named : ∀ more : List Char, cipher.algorithm.toList = after ++ more →
        ∃ error, splitEncryptedToken cipher (after ++ envelope cipher later new) = .error error := by
      intro more name
      have noColon : ':' ∉ after ++ ['E','N','C'] := by
        have clean : ':' ∉ after := fun listed => plain (by rw [name]; exact List.mem_append_left _ listed)
        simp [clean]
      have shape : after ++ envelope cipher later new = (after ++ ['E','N','C']) ++ ':' ::
          (cipher.algorithm.toList ++ ':' :: (cipher.sealText later new).toList) := by simp [envelope]
      have unknown : String.ofList (after ++ ['E','N','C']) ∉ algorithms := fun known => capital_foreign known (by simp)
      rw [shape,splitEncryptedToken_marked noColon,if_pos unknown]
      exact ⟨_,rfl⟩
    have failed : Refused cipher ('E' :: 'N' :: 'C' :: ':' :: (after ++ envelope cipher later new)) := by
      refine refused_of sound ?_
      rcases List.append_eq_append_iff.mp tail with ⟨more,same,split⟩ | ⟨more,same,_⟩
      · cases more with
        | nil => exact .inl (named [] (by rw [same]; simp))
        | cons c more =>
          obtain ⟨rfl,_⟩ := List.cons.inj split
          have shape : after ++ envelope cipher later new = cipher.algorithm.toList ++ ':' :: (more ++ envelope cipher later new) := by
            simp [same]
          obtain ⟨error,refused⟩ := sound.foreign cipher.algorithm (more ++ envelope cipher later new) ':' (by simp [envelope]) (by decide)
          rw [shape,splitEncryptedToken_marked plain]
          simp only [String.ofList_toList,sound.known,not_true_eq_false,if_false]
          rw [if_neg (by simp [envelope])]
          exact .inr ⟨_,_,error,rfl,refused⟩
      · exact .inl (named more same)
    obtain ⟨error,refused,_⟩ := failed
    exact ⟨error,refused⟩

end Envelope

-- A cipher that keeps its promises: each character in unary, then a mark of the end.
def unaryClose : List Char := 'C' :: List.replicate 15 '='

def unarySeal (text : List Char) : List Char := text.flatMap (fun c => List.replicate c.toNat 'A' ++ ['B']) ++ unaryClose

def unaryOpen : Nat → List Char → Option (List Char)
  | n,'A' :: rest => unaryOpen (n + 1) rest
  | n,'B' :: rest => (unaryOpen 0 rest).map (Char.ofNat n :: ·)
  | _,rest => if rest = unaryClose then some [] else none

def sampleCipher : Cipher where
  algorithm := "aesgcm"
  keyed := true
  legacy := false
  sealText _ text := String.ofList (unarySeal text.toList)
  openText _ payload :=
    match unaryOpen 0 payload.toList with
    | some text => .ok (String.ofList text)
    | none => .error (valueError "AES-GCM decryption failed — data may be tampered")

theorem unaryOpen_other (n : Nat) (notA : ∀ more, rest ≠ 'A' :: more) (notB : ∀ more, rest ≠ 'B' :: more) :
    unaryOpen n rest = if rest = unaryClose then some [] else none := by
  unfold unaryOpen
  split
  · exact absurd rfl (notA _)
  · exact absurd rfl (notB _)
  · rfl

theorem unaryOpen_run (n count : Nat) (rest : List Char) :
    unaryOpen n (List.replicate count 'A' ++ 'B' :: rest) = (unaryOpen 0 rest).map (Char.ofNat (n + count) :: ·) := by
  induction count generalizing n with
  | zero => simp [unaryOpen]
  | succ count ih =>
    rw [List.replicate_succ,List.cons_append,unaryOpen,ih]
    rw [show n + 1 + count = n + (count + 1) by omega]

theorem unaryOpen_seal (text : List Char) : unaryOpen 0 (unarySeal text) = some text := by
  induction text with
  | nil => rw [unarySeal,List.flatMap_nil,List.nil_append,unaryOpen_other 0 (by simp [unaryClose]) (by simp [unaryClose]),if_pos rfl]
  | cons c text ih =>
    have shape : unarySeal (c :: text) = List.replicate c.toNat 'A' ++ 'B' :: unarySeal text := by simp [unarySeal]
    rw [shape,unaryOpen_run,ih,Nat.zero_add,Char.ofNat_toNat]
    rfl

theorem unaryOpen_ends (opened : unaryOpen n payload = some text) :
    (∃ body, payload = body ++ unaryClose ∧ ∀ c ∈ body, c = 'A' ∨ c = 'B') := by
  induction n,payload using unaryOpen.induct generalizing text with
  | case1 n rest ih =>
    rw [unaryOpen] at opened
    obtain ⟨body,shape,each⟩ := ih opened
    exact ⟨'A' :: body,by rw [shape]; rfl,List.forall_mem_cons.mpr ⟨.inl rfl,each⟩⟩
  | case2 n rest ih =>
    rw [unaryOpen] at opened
    obtain ⟨inner,later,_⟩ := Option.map_eq_some_iff.mp opened
    obtain ⟨body,shape,each⟩ := ih later
    exact ⟨'B' :: body,by rw [shape]; rfl,List.forall_mem_cons.mpr ⟨.inr rfl,each⟩⟩
  | case3 => exact ⟨[],rfl,by simp⟩
  | case4 n rest notA notB other =>
    rw [unaryOpen_other n notA notB,if_neg other] at opened
    cases opened

theorem unaryOpen_cut (opened : unaryOpen n payload = some text) (some_ : more ≠ []) : unaryOpen n (payload ++ more) = none := by
  induction n,payload using unaryOpen.induct generalizing text with
  | case1 n rest ih =>
    rw [unaryOpen] at opened
    exact ih opened
  | case2 n rest ih =>
    rw [unaryOpen] at opened
    obtain ⟨inner,later,_⟩ := Option.map_eq_some_iff.mp opened
    rw [List.cons_append,unaryOpen,ih later]
    rfl
  | case3 n =>
    rw [unaryOpen_other n (by simp [unaryClose]) (by simp [unaryClose]),if_neg (by simpa using some_)]
  | case4 n rest notA notB other =>
    rw [unaryOpen_other n notA notB,if_neg other] at opened
    cases opened

theorem sampleCipher_sound : Sound sampleCipher := by
  have close : ∀ c ∈ unaryClose, isPayloadChar c = true := List.all_eq_true.mp rfl
  have refuse : ∀ {algorithm : String} {payload : List Char}, (∀ text, unaryOpen 0 payload ≠ some text) →
      ∃ error, sampleCipher.openText algorithm (String.ofList payload) = .error error := by
    intro algorithm payload none_
    refine ⟨valueError "AES-GCM decryption failed — data may be tampered",?_⟩
    simp only [sampleCipher,String.toList_ofList,Option.eq_none_iff_forall_ne_some.mpr none_]
  refine ⟨by decide,rfl,?_,?_,?_,?_,?_⟩
  · intro draw text c listed
    simp only [sampleCipher,String.toList_ofList,unarySeal,List.mem_append,List.mem_flatMap,List.mem_replicate,List.mem_singleton] at listed
    rcases listed with ⟨_,_,⟨_,rfl⟩ | rfl⟩ | ending
    · rfl
    · rfl
    · exact close c ending
  · intro draw text
    simp [sampleCipher,unaryOpen_seal]
  · intro draw text first rest whole some_
    refine refuse fun opened accepted => ?_
    simp only [sampleCipher,String.toList_ofList] at whole
    have sealed := unaryOpen_seal text.toList
    rw [whole,unaryOpen_cut accepted some_] at sealed
    cases sealed
  · intro algorithm payload few
    refine refuse fun opened accepted => ?_
    obtain ⟨body,rfl,_⟩ := unaryOpen_ends accepted
    simp [unaryClose] at few
  · intro algorithm payload c listed foreign
    refine refuse fun opened accepted => ?_
    obtain ⟨body,rfl,each⟩ := unaryOpen_ends accepted
    rcases List.mem_append.mp listed with inBody | inClose
    · rcases each c inBody with rfl | rfl <;> exact absurd foreign (by decide)
    · rw [close c inClose] at foreign
      cases foreign

end VeritasOs.LogFiles
