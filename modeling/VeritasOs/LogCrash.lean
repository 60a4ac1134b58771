import VeritasOs.LogRuns

namespace VeritasOs.LogCrash
open Text JsonText TextLines BindArtifacts TrustLog LogFiles FullLedger LogRuns

-- The active log ends in a torn line, or in nothing; a marker names the last rotated line.
structure Crashed (cipher : Cipher) (files : Files) where
  lines : List (Line cipher)
  torn : List Char
  old : List (Line cipher)
  cut : Torn cipher torn
  active : files.active.getD [] = content lines torn
  rotated : files.rotated.getD [] = content old []
  marker : files.marker = none ∨ files.marker = old.getLast?.map Line.sha

section Crash
variable {cipher : Cipher} {files : Files}

def Crashed.newest (crash : Crashed cipher files) : Option String := (crash.lines.getLast?.or crash.old.getLast?).map Line.sha

-- The entries that stand in the file a new line is written to.
def Crashed.before (crash : Crashed cipher files) (maxLines : Nat) : List Value :=
  if maxLines ≤ countLines files.active then [] else crash.lines.map fun line => .dict line.entry

-- The append succeeds, the iterator yields the new entry after those before it, and the
-- entry is linked to the newest one that is whole.
def Recovers (storage : Storage) (entry : Dict) (crash : Crashed cipher files) : Prop :=
  ∃ prepared, (LogFiles.appendTrustLog cipher storage entry files).1 = .ok prepared ∧
    LogFiles.iterTrustLog cipher (LogFiles.appendTrustLog cipher storage entry files).2 =
      crash.before storage.maxLines ++ [.dict (lineOf prepared)] ∧ prepared.get "sha256_prev" = optStr crash.newest

-- Nothing was torn; or the torn file is put away, its mark was not whole, and the newest
-- whole entry is in it.
def Recoverable (storage : Storage) (crash : Crashed cipher files) : Prop :=
  crash.torn = [] ∨ (storage.maxLines ≤ crash.lines.length + 1 ∧ crash.torn.length < 4 ∧ (crash.lines ≠ [] ∨ crash.old = []))

variable (sound : Sound cipher)
include sound

theorem getLastHash_crashed (crash : Crashed cipher files) :
    getLastHashUnlocked cipher files = if crash.torn = [] then crash.newest else crash.lines.getLast?.map Line.sha := by
  rcases getD_cases files.active with ⟨absent,empty⟩ | ⟨text,present,some_⟩
  · obtain ⟨none_,whole⟩ := content_nil.mp (crash.active.symm.trans empty)
    have marked : ∀ hash, files.marker = some hash → isSha256Hex hash = true := by
      intro hash same
      rcases crash.marker with missing | named
      · rw [missing] at same
        cases same
      · rw [named] at same
        obtain ⟨line,_,rfl⟩ := Option.map_eq_some_iff.mp same
        exact line.canonical
    rw [getLastHash_absent absent,loadLastHashMarker_marked marked,recover_lines sound crash.rotated,if_pos whole,Crashed.newest,none_]
    rcases crash.marker with missing | named
    · rw [missing]
      rfl
    · rw [named]
      cases crash.old.getLast? <;> rfl
  · have same : text = content crash.lines crash.torn := by
      rw [← crash.active,present]
      rfl
    rw [getLastHash_scan present some_,same,scanTail_content sound _ crash.cut (same ▸ some_)]
    by_cases whole : crash.torn = []
    · have begun : crash.lines ≠ [] := fun none_ => some_ (by rw [same,none_,whole]; rfl)
      obtain ⟨first,last,shape⟩ := (List.eq_nil_or_concat crash.lines).resolve_left begun
      rw [if_pos whole,Crashed.newest,shape]
      simp
    · rw [if_neg whole]

omit sound in
theorem decodeLine_error (plain : ∀ c ∈ line, isSpace c = false) (failed : decode cipher line = .error error) :
    decodeLine cipher line = none := by
  rw [decodeLine,stripBy_plain plain]
  split
  · rfl
  · rw [failed]
    rfl

theorem iterTrustLog_content (lines : List (Line cipher)) (more : List (List Char)) (held : Files)
    (same : byteLines (held.active.getD []) = lines.map Line.chars ++ more) :
    LogFiles.iterTrustLog cipher held = (lines.map fun line => .dict line.entry) ++ more.filterMap (decodeLine cipher) := by
  rw [LogFiles.iterTrustLog,same,List.filterMap_append,List.filterMap_map]
  congr 1
  rw [← List.filterMap_eq_map]
  exact List.filterMap_congr fun line _ => decodeLine_line sound line

section Opening
variable {held : Files} {lines : List (Line cipher)} {torn : List Char} {maxLines : Nat}

omit sound in
theorem active_some (same : held.active.getD [] = content lines torn) (some_ : content lines torn ≠ []) :
    held.active = some (content lines torn) := by
  cases present : held.active with
  | none =>
    rw [present] at same
    exact absurd same.symm some_
  | some text =>
    rw [present] at same
    exact congrArg some same

theorem saveLastHashMarker_torn (cut : Torn cipher torn) (begun : torn ≠ []) (same : held.active.getD [] = content lines torn) :
    (torn.length < 4 ∧ saveLastHashMarker cipher held = .ok held) ∨ (4 ≤ torn.length ∧ ∃ error, saveLastHashMarker cipher held = .error error) := by
  have some_ : content lines torn ≠ [] := fun none_ => begun (content_nil.mp none_).2
  have read : held.active.bind readLastNonemptyLine = some torn := by
    rw [active_some same some_,Option.bind_some,readLast_content sound _ cut some_,tail,if_neg begun,List.getLast?_concat]
  obtain ⟨draw,text,rest,whole,more⟩ := cut
  unfold saveLastHashMarker
  rw [read]
  rcases torn_line sound whole more with none_ | ⟨short,error,failed,kind⟩ | ⟨long,error,failed,kind⟩
  · exact absurd none_ begun
  · exact .inl ⟨short,by simp only [failed,kind]; rfl⟩
  · exact .inr ⟨long,error,by simp only [failed,kind]; rfl⟩

theorem rotateIfNeeded_due (positive : 1 ≤ maxLines) (cut : Torn cipher torn) (same : held.active.getD [] = content lines torn)
    (due : maxLines ≤ countLines held.active) :
    if torn.length < 4 then ∃ opened, LogFiles.rotateIfNeeded cipher maxLines held = .ok opened ∧ opened.active = none
    else ∃ error, LogFiles.rotateIfNeeded cipher maxLines held = .error error := by
  have count := countLines_content sound cut same
  have some_ : content lines torn ≠ [] := by
    intro none_
    obtain ⟨rfl,rfl⟩ := content_nil.mp none_
    simp [tail] at count
    omega
  have present := active_some same some_
  have kept : ∀ marked : Files, marked.active = held.active → saveLastHashMarker cipher held = .ok marked →
      ∃ opened, LogFiles.rotateIfNeeded cipher maxLines held = .ok opened ∧ opened.active = none := by
    intro marked active saved
    refine ⟨{ marked with active := none,rotated := some (content lines torn) },?_,rfl⟩
    rw [LogFiles.rotateIfNeeded,if_neg (by omega),saved]
    simp only [bind,Except.bind,active,present]
  by_cases whole : torn = []
  · subst whole
    have begun : lines ≠ [] := fun none_ => some_ (by rw [none_]; rfl)
    obtain ⟨first,last,shape⟩ := (List.eq_nil_or_concat lines).resolve_left begun
    rw [if_pos (by decide)]
    rw [List.concat_eq_append] at shape
    exact kept { held with marker := some last.sha } rfl (saveLastHashMarker_whole sound (shape ▸ present))
  · rcases saveLastHashMarker_torn sound cut whole same with ⟨short,saved⟩ | ⟨long,error,saved⟩
    · rw [if_pos short]
      exact kept held rfl saved
    · rw [if_neg (by omega)]
      refine ⟨error,?_⟩
      rw [LogFiles.rotateIfNeeded,if_neg (by omega),saved]
      rfl

end Opening

theorem appendTrustLog_opened (hex : ∀ text, isSha256Hex (storage.sha256 text) = true)
    (distinct : (entry.map Prod.fst).Nodup) (free : storage.appendFault files.appends = .none)
    (made : prepareEntry storage.masking storage.sha256 entry (getLastHashUnlocked cipher files) (storage.createdAt files.appends) = .ok (prepared,copy)) :
    ∃ line : Line cipher, line.entry = lineOf prepared ∧ LogFiles.appendTrustLog cipher storage entry files =
      match LogFiles.rotateIfNeeded cipher storage.maxLines { files with appends := files.appends + 1 } with
      | .error error => (.error error,{ files with appends := files.appends + 1 })
      | .ok opened => (.ok prepared,{ opened with active := some (opened.active.getD [] ++ line.chars ++ ['\n']) }) := by
  have facts := prepareEntry_prepared distinct made
  obtain ⟨json,printed,line,chars,same,_⟩ := prepared_line cipher hex facts files.appends
  refine ⟨line,?_,?_⟩
  · rw [same,lineOf,facts.copied]
    rfl
  · unfold LogFiles.appendTrustLog
    simp only [free,made,writeEntry,printed,encrypt_keyed sound,← chars]
    cases LogFiles.rotateIfNeeded cipher storage.maxLines { files with appends := files.appends + 1 } <;> rfl

-- A line written behind whole lines is read; behind a torn one nothing of it is.
theorem iterTrustLog_behind (lines : List (Line cipher)) (cut : Torn cipher torn) (line : Line cipher) (held : Files)
    (same : held.active = some (content lines torn ++ line.chars ++ ['\n'])) : LogFiles.iterTrustLog cipher held =
      (lines.map fun line => .dict line.entry) ++ if torn = [] then [.dict line.entry] else [] := by
  have shape : content lines torn ++ line.chars ++ ['\n'] = file (lines.map Line.chars ++ [torn ++ line.chars]) [] := by
    simp [content,file]
  have joined : ∀ c ∈ torn ++ line.chars, isLineBreak c = false ∧ isSpace c = false ∧ c ≠ '\n' := by
    intro c listed
    rcases List.mem_append.mp listed with inTorn | inLine
    · exact torn_plain sound cut c inTorn
    · exact line_plain sound line c inLine
  have unbroken : ∀ chars ∈ lines.map Line.chars ++ [torn ++ line.chars], '\n' ∉ chars :=
    List.forall_mem_append.mpr ⟨lines_unbroken sound lines,List.forall_mem_singleton.mpr fun listed => (joined _ listed).2.2 rfl⟩
  have plain : ∀ c ∈ content lines torn ++ line.chars ++ ['\n'], isLineBreak c = false := by
    intro c listed
    rcases List.mem_append.mp listed with inside | newline
    · rcases List.mem_append.mp inside with inContent | inLine
      · exact content_plain sound lines cut c inContent
      · exact (line_plain sound line c inLine).1
    · rw [List.mem_singleton.mp newline]
      rfl
  have split : byteLines (held.active.getD []) = lines.map Line.chars ++ [torn ++ line.chars] := by
    rw [same,Option.getD_some,byteLines_plain plain,shape,splitLines_file unbroken (by simp)]
    simp [tail]
  rw [iterTrustLog_content sound lines _ held split]
  congr 1
  by_cases whole : torn = []
  · subst whole
    rw [if_pos rfl,List.nil_append,List.filterMap_cons_some (decodeLine_line sound line)]
    rfl
  · obtain ⟨draw,text,rest,broken,_⟩ := cut
    obtain ⟨error,failed⟩ := glued_line sound line.draw line.text broken whole
    rw [if_neg whole,List.filterMap_cons_none (decodeLine_error (fun c listed => (joined c listed).2.1) failed)]
    rfl

section Recovery
variable {storage : Storage} (hex : ∀ text, isSha256Hex (storage.sha256 text) = true) {entry prepared copy : Dict}
  (distinct : (entry.map Prod.fst).Nodup) (free : storage.appendFault files.appends = .none)
  (made : prepareEntry storage.masking storage.sha256 entry (getLastHashUnlocked cipher files) (storage.createdAt files.appends) = .ok (prepared,copy))
include hex distinct free made

theorem append_room (crash : Crashed cipher files) (room : countLines files.active < storage.maxLines) :
    (LogFiles.appendTrustLog cipher storage entry files).1 = .ok prepared ∧
      LogFiles.iterTrustLog cipher (LogFiles.appendTrustLog cipher storage entry files).2 =
        (crash.lines.map fun line => .dict line.entry) ++ if crash.torn = [] then [.dict (lineOf prepared)] else [] := by
  obtain ⟨line,same,result⟩ := appendTrustLog_opened sound hex distinct free made
  rw [result,LogFiles.rotateIfNeeded,if_pos room]
  refine ⟨rfl,?_⟩
  rw [← same]
  refine iterTrustLog_behind sound crash.lines crash.cut line _ ?_
  rw [← crash.active]

theorem append_due (positive : 1 ≤ storage.maxLines) (crash : Crashed cipher files) (due : storage.maxLines ≤ countLines files.active) :
    if crash.torn.length < 4 then
      (LogFiles.appendTrustLog cipher storage entry files).1 = .ok prepared ∧
        LogFiles.iterTrustLog cipher (LogFiles.appendTrustLog cipher storage entry files).2 = [.dict (lineOf prepared)]
    else ∃ error, (LogFiles.appendTrustLog cipher storage entry files).1 = .error error := by
  obtain ⟨line,same,result⟩ := appendTrustLog_opened sound hex distinct free made
  have opening := rotateIfNeeded_due sound positive crash.cut
    (show ({ files with appends := files.appends + 1 } : Files).active.getD [] = _ from crash.active) due
  by_cases short : crash.torn.length < 4
  · rw [if_pos short] at opening ⊢
    obtain ⟨opened,rotated,fresh⟩ := opening
    rw [result,rotated]
    refine ⟨rfl,?_⟩
    rw [← same]
    refine (iterTrustLog_behind sound [] (torn_nothing cipher) line _ ?_).trans (by simp)
    simp only [fresh]
    rfl
  · rw [if_neg short] at opening ⊢
    obtain ⟨error,failed⟩ := opening
    rw [result,failed]
    exact ⟨error,rfl⟩

end Recovery

omit sound in
theorem newest_torn (crash : Crashed cipher files) :
    crash.lines.getLast?.map Line.sha = crash.newest ↔ crash.lines ≠ [] ∨ crash.old = [] := by
  rw [Crashed.newest]
  rcases List.eq_nil_or_concat crash.lines with none_ | ⟨first,last,shape⟩
  · rcases List.eq_nil_or_concat crash.old with noneOld | ⟨firstOld,lastOld,shapeOld⟩
    · simp [none_,noneOld]
    · simp [none_,shapeOld]
  · simp [shape]

end Crash

def tornFiles (torn : List Char) : Files := { active := some torn }

def tornCrash (torn : List Char) (cut : Torn sampleCipher torn) : Crashed sampleCipher (tornFiles torn) :=
  ⟨[],torn,[],cut,rfl,rfl,.inl rfl⟩

theorem mark_torn : Torn sampleCipher ['E','N','C',':'] :=
  ⟨0,"",_,rfl,by simp⟩

def roomyStorage : Storage := { stepStorage with maxLines := 5000 }

end VeritasOs.LogCrash
