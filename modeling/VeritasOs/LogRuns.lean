import VeritasOs.FullLedger
import VeritasOs.LogFiles

namespace VeritasOs.LogRuns
open Text JsonText TextLines BindArtifacts TrustLog LogFiles FullLedger

-- A line of the log: the document in it is an entry with its hash.
structure Line (cipher : Cipher) where
  draw : Nat
  text : String
  document : List (String × Json)
  sha : String
  loaded : loads text = some (.obj document)
  hashed : entryHash (entryOf document) = some sha
  canonical : isSha256Hex sha = true

def Line.chars {cipher : Cipher} (line : Line cipher) : List Char := envelope cipher line.draw line.text

def Line.entry {cipher : Cipher} (line : Line cipher) : Dict := entryOf line.document

theorem line_get (line : Line cipher) : line.entry.get "sha256" = .str line.sha ∧ line.sha ≠ "" := by
  have found : entryHash line.entry = some line.sha := line.hashed
  unfold entryHash at found
  split at found
  · rename_i hash same
    split at found
    · cases found
    · rename_i some_
      cases found
      exact ⟨same,some_⟩
  · cases found

def Torn (cipher : Cipher) (torn : List Char) : Prop :=
  ∃ draw text rest, envelope cipher draw text = torn ++ rest ∧ rest ≠ []

theorem torn_nothing (cipher : Cipher) : Torn cipher [] := ⟨0,"",envelope cipher 0 "",rfl,by simp [envelope]⟩

def content {cipher : Cipher} (lines : List (Line cipher)) (torn : List Char) : List Char := file (lines.map Line.chars) torn

section Reading
variable {cipher : Cipher} (sound : Sound cipher) {torn : List Char} (lines : List (Line cipher))
include sound

theorem line_decode (line : Line cipher) : decode cipher line.chars = .ok (.dict line.entry) := by
  rw [decode,Line.chars,decrypt_envelope sound]
  simp only [bind,Except.bind,line.loaded]
  rfl

theorem line_hash (line : Line cipher) : lineHash cipher line.chars = some line.sha := by
  rw [lineHash,line_decode sound line]
  exact line.hashed

theorem line_plain (line : Line cipher) : ∀ c ∈ line.chars, isLineBreak c = false ∧ isSpace c = false ∧ c ≠ '\n' :=
  fun c listed => visible_plain (envelope_chars sound line.draw line.text c listed)

theorem torn_plain (cut : Torn cipher torn) : ∀ c ∈ torn, isLineBreak c = false ∧ isSpace c = false ∧ c ≠ '\n' := by
  obtain ⟨draw,text,rest,whole,_⟩ := cut
  intro c listed
  exact visible_plain (envelope_chars sound draw text c (by rw [whole]; exact List.mem_append_left _ listed))

theorem lines_unbroken : ∀ chars ∈ lines.map Line.chars, '\n' ∉ chars :=
  List.forall_mem_map.mpr fun line _ listed => (line_plain sound line _ listed).2.2 rfl

theorem content_plain (cut : Torn cipher torn) : ∀ c ∈ content lines torn, isLineBreak c = false := by
  intro c listed
  simp only [content,file,List.mem_append,List.mem_flatMap,List.mem_map] at listed
  rcases listed with ⟨_,⟨line,_,rfl⟩,inLine⟩ | inTorn
  · rcases inLine with here | newline
    · exact (line_plain sound line c here).1
    · rw [List.mem_singleton.mp newline]
      rfl
  · exact (torn_plain sound cut c inTorn).1

theorem legible (cut : Torn cipher torn) : Legible (lineHash cipher) isSha256Hex (lines.map Line.chars) torn where
  unbroken := lines_unbroken sound lines
  torn_unbroken listed := (torn_plain sound cut _ listed).2.2 rfl
  plain := content_plain sound lines cut
  known := List.forall_mem_map.mpr fun line _ => ⟨line.sha,line_hash sound line,line.canonical⟩
  cut_unknown := List.forall_mem_map.mpr fun line _ skipped cut split begun =>
    unreadable_part sound (show line.chars = skipped ++ (cut ++ []) by simpa using split) (.inl begun)
  torn_unknown := by
    obtain ⟨draw,text,rest,whole,some_⟩ := cut
    intro skipped cut split
    exact unreadable_part sound (by rw [whole,split,List.append_assoc]) (.inr some_)

theorem scanTail_content (cut : Torn cipher torn) (some_ : content lines torn ≠ []) :
    scanTail cipher (content lines torn) = lines.getLast?.map Line.sha := by
  have positive := List.length_pos_iff.mpr some_
  have last := scanBack_last (legible sound lines cut) ((content lines torn).length - chunkSize) (by
    have := chunkSize_pos
    rw [content] at *
    omega)
  refine last.trans ?_
  rw [List.getLast?_map]
  cases lines.getLast? with
  | none => rfl
  | some line => exact line_hash sound line

theorem byteLines_content (cut : Torn cipher torn) : byteLines (content lines torn) = lines.map Line.chars ++ tail torn := by
  rw [byteLines_plain (content_plain sound lines cut),content,
    splitLines_file (lines_unbroken sound lines) fun listed => (torn_plain sound cut _ listed).2.2 rfl]

theorem readLast_content (cut : Torn cipher torn) (some_ : content lines torn ≠ []) :
    readLastNonemptyLine (content lines torn) = (lines.map Line.chars ++ tail torn).getLast? := by
  refine readLast_file (lines_unbroken sound lines) (fun listed => (torn_plain sound cut _ listed).2.2 rfl) (content_plain sound lines cut) ?_ some_
  have visible : ∀ chars : List Char, chars ≠ [] → (∀ c ∈ chars, isSpace c = false) → chars.all isSpace = false := by
    intro chars some_ each
    obtain ⟨c,rest,rfl⟩ := List.exists_cons_of_ne_nil some_
    simp [each c (by simp)]
  intro chars listed
  rcases List.mem_append.mp listed with whole | last
  · obtain ⟨line,_,rfl⟩ := List.mem_map.mp whole
    exact visible _ (by simp [Line.chars,envelope]) fun c here => (line_plain sound line c here).2.1
  · unfold tail at last
    split at last
    · cases last
    · rename_i begun
      rw [List.mem_singleton.mp last]
      exact visible torn begun fun c here => (torn_plain sound cut c here).2.1

end Reading

theorem hex_unspaced (canonical : isSha256Hex text = true) : ∀ c ∈ text.toList, isSpace c = false := by
  simp only [isSha256Hex,Bool.and_eq_true,List.all_eq_true,beq_iff_eq] at canonical
  intro c listed
  have digit := canonical.1 c listed
  refine (visible_plain (.inl ?_)).2.1
  simp only [Bool.or_eq_true,Bool.and_eq_true,decide_eq_true_eq] at digit
  simp only [isPayloadChar,Char.isAlphanum,isAlpha_eq,isUpper_eq,isLower_eq,Bool.or_eq_true,Bool.and_eq_true,decide_eq_true_eq]
  rcases digit with (decimal | lower) | upper
  · exact .inl (.inl (.inl (.inr decimal)))
  · exact .inl (.inl (.inl (.inl (.inr ⟨lower.1,UInt32.le_trans (show c.val ≤ 'f'.val from lower.2) (by decide)⟩))))
  · exact .inl (.inl (.inl (.inl (.inl ⟨upper.1,UInt32.le_trans (show c.val ≤ 'F'.val from upper.2) (by decide)⟩))))

theorem hex_plain (canonical : isSha256Hex text = true) : strip text = text ∧ text ≠ "" := by
  refine ⟨?_,?_⟩
  · rw [strip,stripBy_plain (hex_unspaced canonical),String.ofList_toList]
  · rintro rfl
    cases canonical

structure Holds (cipher : Cipher) (files : Files) (log : Log) : Prop where
  active : ∃ lines : List (Line cipher), files.active.getD [] = content lines [] ∧ log.active = lines.map Line.entry
  rotated : ∃ lines : List (Line cipher), files.rotated.getD [] = content lines [] ∧ log.rotated = lines.map Line.entry
  marker : files.marker = log.marker
  marked : ∀ hash, log.marker = some hash → isSha256Hex hash = true
  appends : files.appends = log.appends

section Refinement
variable {cipher : Cipher}

theorem lastSha256_lines (lines : List (Line cipher)) : lastSha256 (lines.map Line.entry) = lines.getLast?.map Line.sha := by
  rcases List.eq_nil_or_concat lines with rfl | ⟨first,last,rfl⟩
  · rfl
  · have found : entryHash last.entry = some last.sha := last.hashed
    simp [lastSha256,found,last.canonical]

variable {files : Files} {lines : List (Line cipher)} {log : Log} {entry : Dict}

theorem loadLastHashMarker_marked (marked : ∀ hash, files.marker = some hash → isSha256Hex hash = true) :
    loadLastHashMarker files = files.marker := by
  unfold loadLastHashMarker
  cases found : files.marker with
  | none => rfl
  | some hash =>
    obtain ⟨stripped,some_⟩ := hex_plain (marked hash found)
    simp [stripped,some_]

theorem content_nil : content lines torn = [] ↔ lines = [] ∧ torn = [] := by
  cases lines with
  | nil => simp [content]
  | cons line rest => simp [content]

theorem getD_cases (held : Option (List Char)) : (held = none ∨ held = some []) ∧ held.getD [] = [] ∨ ∃ text, held = some text ∧ text ≠ [] := by
  cases held with
  | none => exact .inl ⟨.inl rfl,rfl⟩
  | some text =>
    by_cases empty : text = []
    · subst empty
      exact .inl ⟨.inr rfl,rfl⟩
    · exact .inr ⟨text,rfl,empty⟩

theorem recover_scan (present : files.rotated = some text) (some_ : text ≠ []) :
    recoverLastHashFromRotatedLog cipher files = scanTail cipher text := by
  rw [recoverLastHashFromRotatedLog,present]
  cases text with
  | nil => exact absurd rfl some_
  | cons c rest => rfl

theorem getLastHash_scan (present : files.active = some text) (some_ : text ≠ []) :
    getLastHashUnlocked cipher files = scanTail cipher text := by
  rw [getLastHashUnlocked,present]
  cases text with
  | nil => exact absurd rfl some_
  | cons c rest => rfl

theorem getLastHash_absent (absent : files.active = none ∨ files.active = some []) :
    getLastHashUnlocked cipher files = (loadLastHashMarker files).or (recoverLastHashFromRotatedLog cipher files) := by
  rcases absent with same | same <;> rw [getLastHashUnlocked,same]

variable (sound : Sound cipher)
include sound

theorem recover_lines (held : files.rotated.getD [] = content lines []) :
    recoverLastHashFromRotatedLog cipher files = lines.getLast?.map Line.sha := by
  rcases getD_cases files.rotated with ⟨absent,empty⟩ | ⟨text,present,some_⟩
  · obtain ⟨rfl,_⟩ := content_nil.mp (held.symm.trans empty)
    rcases absent with same | same <;> rw [recoverLastHashFromRotatedLog,same] <;> rfl
  · rw [present] at held
    have same : text = content lines [] := held
    rw [recover_scan present some_,same]
    exact scanTail_content sound lines (torn_nothing cipher) (same ▸ some_)

theorem getLastHash_holds (holds : Holds cipher files log) : getLastHashUnlocked cipher files = getLastHash log := by
  obtain ⟨lines,held,active⟩ := holds.active
  obtain ⟨old,heldOld,rotated⟩ := holds.rotated
  have marker := loadLastHashMarker_marked (show ∀ hash, files.marker = some hash → _ from fun hash same => holds.marked hash (holds.marker ▸ same))
  rcases getD_cases files.active with ⟨absent,empty⟩ | ⟨text,present,some_⟩
  · obtain ⟨rfl,_⟩ := content_nil.mp (held.symm.trans empty)
    have none_ : log.active = [] := active
    rw [getLastHash_absent absent,getLastHash,if_pos none_,marker,holds.marker,recover_lines sound heldOld,rotated,lastSha256_lines]
  · rw [present] at held
    have same : text = content lines [] := held
    have begun : lines ≠ [] := fun none_ => some_ (by rw [same,none_]; rfl)
    rw [getLastHash_scan present some_,getLastHash,if_neg (by rw [active]; simpa using begun),active,lastSha256_lines,same]
    exact scanTail_content sound lines (torn_nothing cipher) (same ▸ some_)

theorem saveLastHashMarker_whole {first : List (Line cipher)} {last : Line cipher}
    (held : files.active = some (content (first ++ [last]) [])) :
    saveLastHashMarker cipher files = .ok { files with marker := some last.sha } := by
  have some_ : content (first ++ [last]) [] ≠ [] := fun none_ => by simpa using (content_nil.mp none_).1
  have read : files.active.bind readLastNonemptyLine = some last.chars := by
    rw [held,Option.bind_some,readLast_content sound _ (torn_nothing cipher) some_]
    simp [tail]
  unfold saveLastHashMarker
  rw [read]
  simp only [line_decode sound last,(line_get last).1,if_neg (line_get last).2]

theorem countLines_content (cut : Torn cipher torn)
    (same : held.getD [] = content lines torn) : countLines held = lines.length + (tail torn).length := by
  have shape : countLines held = (byteLines (held.getD [])).length := by cases held <;> rfl
  rw [shape,same,byteLines_content sound lines cut]
  simp

theorem rotateIfNeeded_holds (positive : 1 ≤ maxLines) (holds : Holds cipher files log) :
    ∃ opened, LogFiles.rotateIfNeeded cipher maxLines files = .ok opened ∧ Holds cipher opened (TrustLog.rotateIfNeeded maxLines log) := by
  obtain ⟨lines,held,active⟩ := holds.active
  have count : countLines files.active = log.active.length := by
    rw [countLines_content sound (torn_nothing cipher) held,active]
    simp [tail]
  unfold LogFiles.rotateIfNeeded TrustLog.rotateIfNeeded
  rw [count]
  by_cases room : log.active.length < maxLines
  · exact ⟨files,if_pos room,by rw [if_pos room]; exact holds⟩
  · -- A log that is full has a last line.
    rcases List.eq_nil_or_concat lines with rfl | ⟨first,last,rfl⟩
    · simp only [active,List.map_nil,List.length_nil] at room
      omega
    · rw [List.concat_eq_append] at *
      have present : files.active = some (content (first ++ [last]) []) := by
        cases same : files.active with
        | none =>
          rw [same] at held
          exact absurd held.symm fun none_ => by simpa using (content_nil.mp none_).1
        | some text =>
          rw [same] at held
          exact congrArg some held
      have found : entryHash last.entry = some last.sha := last.hashed
      rw [if_neg room,if_neg room,saveLastHashMarker_whole sound present]
      refine ⟨{ files with active := none,rotated := some (content (first ++ [last]) []),marker := some last.sha },?_,?_⟩
      · simp only [bind,Except.bind,present]
      · exact
          { active := ⟨[],rfl,rfl⟩
            rotated := ⟨first ++ [last],rfl,active⟩
            marker := by simp [active,found]
            marked := by
              intro hash same
              obtain rfl : last.sha = hash := by simpa [active,found] using same
              exact last.canonical
            appends := holds.appends }

omit sound in
variable (cipher) in
theorem prepared_line (hex : ∀ text, isSha256Hex (sha256 text) = true) (made : Prepared sha256 previous prepared entry) (draw : Nat) :
    ∃ json, toJson false (.dict prepared) = some json ∧
      ∃ line : Line cipher, line.chars = envelope cipher draw (dumps spaced json) ∧ line.entry = entry ∧
        prepared.get "sha256" = .str line.sha := by
  obtain ⟨json,printed,read⟩ := Option.map_eq_some_iff.mp made.copied
  obtain ⟨document,rfl⟩ := fromJson_dict read
  obtain ⟨text,preparedHash,lineHash⟩ := made.hashed
  have same : entryOf document = entry := Value.dict.inj read
  have hashed : entryHash (entryOf document) = some (sha256 text) := by
    rw [same,entryHash,lineHash]
    exact if_neg (hex_plain (hex text)).2
  exact ⟨_,printed,⟨draw,dumps spaced (.obj document),document,sha256 text,loads_dumps _ _,hashed,hex text⟩,rfl,same,preparedHash⟩

omit sound in
theorem content_concat (lines : List (Line cipher)) (line : Line cipher) : content (lines ++ [line]) [] = content lines [] ++ line.chars ++ ['\n'] := by
  simp [content,file]

theorem encrypt_keyed (draw : Nat) (text : String) : encrypt cipher draw text = .ok (envelope cipher draw text) := by
  rw [encrypt,if_pos sound.keyed]

theorem writeEntry_holds (hex : ∀ text, isSha256Hex (sha256 text) = true)
    (made : Prepared sha256 previous prepared entry) (positive : 1 ≤ maxLines) (draw : Nat) (holds : Holds cipher files log) :
    ∃ written, writeEntry cipher maxLines draw prepared files = .ok written ∧ Holds cipher written (writeLine maxLines entry log) := by
  obtain ⟨json,printed,line,chars,same,_⟩ := prepared_line cipher hex made draw
  obtain ⟨opened,rotated,kept⟩ := rotateIfNeeded_holds sound positive holds
  obtain ⟨lines,held,active⟩ := kept.active
  refine ⟨{ opened with active := some (opened.active.getD [] ++ line.chars ++ ['\n']) },?_,{ kept with active := ?_ }⟩
  · rw [writeEntry,printed]
    simp only [encrypt_keyed sound,rotated,chars]
    rfl
  · refine ⟨lines ++ [line],?_,?_⟩
    · rw [content_concat,← held]
      rfl
    · rw [List.map_append,← active,← same]
      rfl

theorem appendTrustLog_holds (storage : Storage) (hex : ∀ text, isSha256Hex (storage.sha256 text) = true)
    (positive : 1 ≤ storage.maxLines) (distinct : (entry.map Prod.fst).Nodup) (holds : Holds cipher files log) :
    (LogFiles.appendTrustLog cipher storage entry files).1 = (TrustLog.appendTrustLog storage entry log).1 ∧
      Holds cipher (LogFiles.appendTrustLog cipher storage entry files).2 (TrustLog.appendTrustLog storage entry log).2 := by
  have counted : Holds cipher { files with appends := log.appends + 1 } { log with appends := log.appends + 1 } := { holds with appends := rfl }
  unfold LogFiles.appendTrustLog TrustLog.appendTrustLog
  rw [holds.appends,getLastHash_holds sound holds]
  cases fault : storage.appendFault log.appends with
  | before error => exact ⟨rfl,counted⟩
  | none | after error =>
    cases made : prepareEntry storage.masking storage.sha256 entry (getLastHash log) (storage.createdAt log.appends) with
    | error error => exact ⟨rfl,counted⟩
    | ok pair =>
      obtain ⟨prepared,line⟩ := pair
      obtain ⟨written,wrote,kept⟩ := writeEntry_holds sound hex (prepareEntry_prepared distinct made) positive log.appends counted
      simp only [wrote]
      exact ⟨trivial,kept⟩

end Refinement

-- A call: its entry has each key once, and logs are rotated at one line or later.
structure Call where
  maxLines : Nat
  entry : Dict
  positive : 1 ≤ maxLines
  distinct : (entry.map Prod.fst).Nodup

structure Appended where
  rotations : Nat
  entry : Dict

structure Run where
  files : Files := {}
  rotations : Nat := 0
  history : List Appended := []

def lineOf (entry : Dict) : Dict := ((jsonCopy (.dict entry)).bind Value.asDict?).getD []

def Appended.line (appended : Appended) : Dict := lineOf appended.entry

section Runs
variable (cipher : Cipher) (storage : Storage)

def appended (call : Call) (files : Files) : Option Dict :=
  match storage.appendFault files.appends with
  | .before _ => none
  | _ => (LogFiles.appendTrustLog cipher { storage with maxLines := call.maxLines,appendFault := fun _ => .none } call.entry files).1.toOption

def runCall (run : Run) (call : Call) : Run :=
  let files := (LogFiles.appendTrustLog cipher { storage with maxLines := call.maxLines } call.entry run.files).2
  match appended cipher storage call run.files with
  | none => { run with files := files }
  | some entry =>
    let rotations := if countLines run.files.active < call.maxLines then run.rotations else run.rotations + 1
    ⟨files,rotations,run.history ++ [⟨rotations,entry⟩]⟩

def runCalls (calls : List Call) : Run := calls.foldl (runCall cipher storage) {}

def logLines (files : Files) : List (Option Value) :=
  (byteLines (files.rotated.getD []) ++ byteLines (files.active.getD [])).map (decodeLine cipher)

end Runs

def Chained : Value → List Dict → Prop
  | _,[] => True
  | previous,entry :: rest => entry.get "sha256_prev" = previous ∧ Chained (entry.get "sha256") rest

theorem chained_concat (previous : Value) (entries : List Dict) (entry : Dict) :
    Chained previous (entries ++ [entry]) ↔ Chained previous entries ∧ entry.get "sha256_prev" = lastHash previous entries := by
  induction entries generalizing previous with
  | nil => simp [Chained,lastHash]
  | cons head rest ih =>
    have last : lastHash previous (head :: rest) = lastHash (head.get "sha256") rest := by
      rcases List.eq_nil_or_concat rest with rfl | ⟨before,final,rfl⟩
      · rfl
      · simp [lastHash,List.getLast?_cons]
    rw [List.cons_append,Chained,Chained,ih,last,and_assoc]

structure Faithful (appended : Appended) : Prop where
  copied : jsonCopy (.dict appended.entry) = some (.dict appended.line)
  hash : appended.line.get "sha256" = appended.entry.get "sha256"
  previous : appended.line.get "sha256_prev" = appended.entry.get "sha256_prev"

theorem chained_lines {history : List Appended} (faithful : ∀ item ∈ history, Faithful item) (previous : Value) :
    Chained previous (history.map Appended.line) ↔ Chained previous (history.map Appended.entry) := by
  induction history generalizing previous with
  | nil => rfl
  | cons item rest ih =>
    rw [List.forall_mem_cons] at faithful
    rw [List.map_cons,List.map_cons,Chained,Chained,faithful.1.hash,faithful.1.previous,ih faithful.2]

-- What a run has appended, and where it is: before the last rotation but one it is gone.
structure Tracked (cipher : Cipher) (run : Run) (log : Log) : Prop where
  holds : Holds cipher run.files log
  faithful : ∀ item ∈ run.history, Faithful item
  parts : ∃ lost old new, run.history = lost ++ (old ++ new) ∧ (∀ item ∈ lost, item.rotations + 2 ≤ run.rotations) ∧
    (∀ item ∈ old, item.rotations + 1 = run.rotations) ∧ (∀ item ∈ new, item.rotations = run.rotations) ∧
    log.rotated = old.map Appended.line ∧ log.active = new.map Appended.line
  last : optStr (getLastHash log) = lastHash .none (run.history.map Appended.entry)
  chained : Chained .none (run.history.map Appended.entry)

section Runs
variable {cipher : Cipher} {storage : Storage} (sound : Sound cipher) (hex : ∀ text, isSha256Hex (storage.sha256 text) = true)
include sound hex

variable {files : Files} {log : Log}

theorem appended_holds (call : Call) (holds : Holds cipher files log) : appended cipher storage call files =
      match storage.appendFault log.appends with
      | .before _ => none
      | _ => (prepareEntry storage.masking storage.sha256 call.entry (getLastHash log) (storage.createdAt log.appends)).toOption.map Prod.fst := by
  have same := (appendTrustLog_holds sound { storage with maxLines := call.maxLines,appendFault := fun _ => .none } hex call.positive
    call.distinct holds).1
  rw [appended,holds.appends,same]
  unfold TrustLog.appendTrustLog
  cases prepareEntry storage.masking storage.sha256 call.entry (getLastHash log) (storage.createdAt log.appends) <;> rfl

omit sound in
theorem writeLine_tracked (tracked : Tracked cipher run log)
    (made : Prepared storage.sha256 (getLastHash log) prepared line) (maxLines appends : Nat)
    (holds : Holds cipher files (writeLine maxLines line { log with appends := appends }))
    (counted : rotations = if log.active.length < maxLines then run.rotations else run.rotations + 1) :
    Tracked cipher ⟨files,rotations,run.history ++ [⟨rotations,prepared⟩]⟩ (writeLine maxLines line { log with appends := appends }) := by
  obtain ⟨text,preparedHash,lineHash⟩ := made.hashed
  have copy : lineOf prepared = line := by rw [lineOf,made.copied]; rfl
  have active : ∃ before, (writeLine maxLines line { log with appends := appends }).active = before ++ [line] := ⟨_,rfl⟩
  refine ⟨holds,?_,?_,?_,?_⟩
  · refine List.forall_mem_append.mpr ⟨tracked.faithful,List.forall_mem_singleton.mpr ⟨?_,?_,?_⟩⟩ <;> simp only [Appended.line,copy]
    · exact made.copied
    · rw [lineHash,preparedHash]
    · rw [made.linked.1,made.linked.2]
  · obtain ⟨lost,old,new,split,gone,before,now,rotated,current⟩ := tracked.parts
    by_cases room : log.active.length < maxLines
    · rw [if_pos room] at counted
      subst counted
      refine ⟨lost,old,new ++ [⟨run.rotations,prepared⟩],by simp [split],gone,before,?_,?_,?_⟩
      · exact List.forall_mem_append.mpr ⟨now,List.forall_mem_singleton.mpr rfl⟩
      · simp only [writeLine,TrustLog.rotateIfNeeded,if_pos room]
        exact rotated
      · simp only [writeLine,TrustLog.rotateIfNeeded,if_pos room,List.map_append,← current]
        simp [Appended.line,copy]
    · rw [if_neg room] at counted
      subst counted
      refine ⟨lost ++ old,new,[⟨run.rotations + 1,prepared⟩],by simp [split],?_,?_,?_,?_,?_⟩
      · refine List.forall_mem_append.mpr ⟨fun item listed => ?_,fun item listed => ?_⟩
        · have := gone item listed
          simp only
          omega
        · have := before item listed
          simp only
          omega
      · intro item listed
        exact congrArg (· + 1) (now item listed)
      · exact List.forall_mem_singleton.mpr rfl
      · simp only [writeLine,TrustLog.rotateIfNeeded,if_neg room]
        exact current
      · simp [writeLine,TrustLog.rotateIfNeeded,if_neg room,Appended.line,copy]
  · obtain ⟨before,shape⟩ := active
    have found : entryHash line = some (storage.sha256 text) := by
      rw [entryHash,lineHash]
      exact if_neg (hex_plain (hex text)).2
    have last : getLastHash (writeLine maxLines line { log with appends := appends }) = some (storage.sha256 text) := by
      simp [getLastHash,shape,lastSha256,found,hex]
    rw [last]
    simp [lastHash,preparedHash,optStr]
  · rw [List.map_append]
    exact (chained_concat _ _ _).mpr ⟨tracked.chained,by rw [← tracked.last]; exact made.linked.1⟩

theorem runCall_tracked (call : Call) (tracked : Tracked cipher run log) :
    Tracked cipher (runCall cipher storage run call) (TrustLog.appendTrustLog { storage with maxLines := call.maxLines } call.entry log).2 := by
  have held := (appendTrustLog_holds sound { storage with maxLines := call.maxLines } hex call.positive call.distinct tracked.holds).2
  have wrote := appended_holds sound hex call tracked.holds
  obtain ⟨lines,text,active⟩ := tracked.holds.active
  have count : countLines run.files.active = log.active.length := by
    rw [countLines_content sound (torn_nothing cipher) text,active]
    simp [tail]
  have same : getLastHash { log with appends := log.appends + 1 } = getLastHash log := rfl
  have untouched : ∀ files, Holds cipher files { log with appends := log.appends + 1 } →
      Tracked cipher { run with files := files } { log with appends := log.appends + 1 } :=
    fun files holds => ⟨holds,tracked.faithful,tracked.parts,same ▸ tracked.last,tracked.chained⟩
  unfold runCall
  generalize LogFiles.appendTrustLog cipher { storage with maxLines := call.maxLines } call.entry run.files = outcome at *
  unfold TrustLog.appendTrustLog at *
  cases fault : storage.appendFault log.appends with
  | before error =>
    simp only [fault] at held wrote ⊢
    rw [wrote]
    exact untouched _ held
  | none | after error =>
    simp only [fault] at held wrote ⊢
    cases made : prepareEntry storage.masking storage.sha256 call.entry (getLastHash log) (storage.createdAt log.appends) with
    | error error =>
      simp only [made] at held wrote ⊢
      rw [wrote]
      exact untouched _ held
    | ok pair =>
      obtain ⟨prepared,line⟩ := pair
      simp only [made] at held wrote ⊢
      rw [wrote]
      exact writeLine_tracked hex tracked (prepareEntry_prepared call.distinct made) call.maxLines _ held (by rw [count])

omit sound hex in
variable (cipher) in
theorem start_tracked : Tracked cipher {} {} where
  holds := ⟨⟨[],rfl,rfl⟩,⟨[],rfl,rfl⟩,rfl,by simp,rfl⟩
  faithful := by simp
  parts := ⟨[],[],[],rfl,by simp,by simp,by simp,rfl,rfl⟩
  last := rfl
  chained := trivial

theorem runCalls_tracked (calls : List Call) : ∃ log, Tracked cipher (runCalls cipher storage calls) log := by
  have onward : ∀ (calls : List Call) (run : Run) (log : Log), Tracked cipher run log →
      ∃ later, Tracked cipher (calls.foldl (runCall cipher storage) run) later := by
    intro calls
    induction calls with
    | nil => exact fun run log tracked => ⟨log,tracked⟩
    | cons call rest ih => exact fun run log tracked => ih _ _ (runCall_tracked sound hex call tracked)
  exact onward calls {} {} (start_tracked cipher)

omit hex in
theorem decodeLine_line (line : Line cipher) : decodeLine cipher line.chars = some (.dict line.entry) := by
  have stripped : stripBy isSpace line.chars = line.chars := stripBy_plain fun c listed => (line_plain sound line c listed).2.1
  have some_ : line.chars ≠ [] := by simp [Line.chars,envelope]
  rw [decodeLine,stripped]
  simp only [if_neg some_,line_decode sound line]
  rfl

omit hex in
theorem logLines_holds (holds : Holds cipher files log) :
    logLines cipher files = (log.rotated ++ log.active).map fun line => some (.dict line) := by
  obtain ⟨lines,held,active⟩ := holds.active
  obtain ⟨old,heldOld,rotated⟩ := holds.rotated
  have read : ∀ lines : List (Line cipher), (lines.map Line.chars).map (decodeLine cipher) = (lines.map Line.entry).map fun line => some (.dict line) := by
    intro lines
    rw [List.map_map,List.map_map]
    exact List.map_congr_left fun line _ => decodeLine_line sound line
  rw [logLines,held,heldOld,byteLines_content sound _ (torn_nothing cipher),byteLines_content sound _ (torn_nothing cipher),active,rotated]
  simp only [tail,if_true,List.append_nil,List.map_append,read]

end Runs

def plainMasking : Masking := ⟨id,fun _ => false,fun _ => false⟩

def stepEntry (step : Int) : Dict := [(.str "step",.int step)]

def stepText (step : Int) : String :=
  "\x7b\"_data_classification\":\x7b\"contains_pii\":false,\"contains_secret\":false,\"fields\":\x7b\"created_at\":\"public\"," ++
    "\"sha256_prev\":\"public\",\"step\":\"public\"\x7d,\"schema_version\":\"1.0\"\x7d,\"created_at\":\"2026-01-01T00:00:00+00:00\"," ++
    "\"step\":" ++ intStr step ++ "\x7d"

def firstDigest : String := "c61324a7e5a8ef524ada6f5ef2d5cefdd803f14e9d63428a47e3fcb2e20b5cbc"
def secondDigest : String := "c59c6991ea025c8eb82feac0aaa479ed78dd2c9027a07d72d8a328419f9474e3"
def thirdDigest : String := "9de4686193a3a426aa15ea97deca3d5c217197497204481e97d0527baea71fad"

def stepDigest (text : String) : String :=
  if text = stepText 1 then firstDigest
  else if text = firstDigest ++ stepText 2 then secondDigest
  else thirdDigest

def stepStorage : Storage := ⟨plainMasking,stepDigest,1,fun _ => "2026-01-01T00:00:00+00:00",fun _ => .none,fun _ => false⟩

def stepCall (step : Int) : Call := ⟨1,stepEntry step,by decide,by simp [stepEntry]⟩

theorem stepDigest_hex (text : String) : isSha256Hex (stepStorage.sha256 text) = true := by
  change isSha256Hex (stepDigest text) = true
  unfold stepDigest
  split
  · rfl
  · split <;> rfl

def logAfter (log : Log) (step : Int) : Log := 
  (TrustLog.appendTrustLog { stepStorage with maxLines := (stepCall step).maxLines } (stepCall step).entry log).2

theorem stepCall_tracked (step : Int) (tracked : Tracked sampleCipher run log) :
    Tracked sampleCipher (runCall sampleCipher stepStorage run (stepCall step)) (logAfter log step) :=
  runCall_tracked sampleCipher_sound stepDigest_hex (stepCall step) tracked

theorem stepEntry_writable (step : Int) : Writable (stepEntry step) :=
  ⟨⟨by simp [StrKeys,stepEntry],(stepCall step).distinct⟩,by simp [stepEntry,Recordable,toJson]⟩

theorem stepEntry_prepared (log : Log) (step : Int) : ∃ prepared line,
    prepareEntry stepStorage.masking stepStorage.sha256 (stepEntry step) (getLastHash log) (stepStorage.createdAt log.appends) = .ok (prepared,line) ∧
      lineOf prepared = line ∧ line.get "step" = .int step := by
  have record := (stepEntry_writable step).record
  obtain ⟨prepared,line,made⟩ := prepareEntry_writable (stepEntry_writable step) stepStorage.masking stepStorage.sha256 (getLastHash log)
    (stepStorage.createdAt log.appends)
  obtain ⟨_,members⟩ := prepareEntry_line record made
  obtain ⟨copy,same,found⟩ := members "step" (.int step) (by decide) (by simp [stepEntry,lookup])
  refine ⟨prepared,line,made,?_,?_⟩
  · rw [lineOf,(prepareEntry_prepared record.distinct made).copied]
    rfl
  · rw [found]
    exact (Option.some.inj same).symm

theorem stepCall_history (step : Int) (tracked : Tracked sampleCipher run log) :
    ∃ item, (runCall sampleCipher stepStorage run (stepCall step)).history = run.history ++ [item] ∧ item.line.get "step" = .int step := by
  obtain ⟨prepared,line,made,copy,named⟩ := stepEntry_prepared log step
  have wrote : appended sampleCipher stepStorage (stepCall step) run.files = some prepared := by
    rw [appended_holds sampleCipher_sound stepDigest_hex (stepCall step) tracked.holds]
    change (prepareEntry stepStorage.masking stepStorage.sha256 (stepEntry step) (getLastHash log) (stepStorage.createdAt log.appends)).toOption.map
      Prod.fst = _
    rw [made]
    rfl
  rw [runCall,wrote]
  exact ⟨_,rfl,by rw [Appended.line,copy,named]⟩

theorem stepCall_log (log : Log) (step : Int) : ∃ line, line.get "step" = .int step ∧ (logAfter log step).active = [line] ∧
    (logAfter log step).rotated = if log.active = [] then log.rotated else log.active := by
  obtain ⟨prepared,line,made,_,named⟩ := stepEntry_prepared log step
  refine ⟨line,named,?_⟩
  have written : logAfter log step = writeLine 1 line { log with appends := log.appends + 1 } := by
    have same : ({ stepStorage with maxLines := (stepCall step).maxLines } : Storage) = stepStorage := rfl
    have free : stepStorage.appendFault log.appends = .none := rfl
    rw [logAfter,same,show (stepCall step).entry = stepEntry step from rfl,appendTrustLog_written free made]
    rfl
  rw [written]
  by_cases empty : log.active = []
  · simp [writeLine,TrustLog.rotateIfNeeded,empty]
  · simp [writeLine,TrustLog.rotateIfNeeded,empty]

end VeritasOs.LogRuns
