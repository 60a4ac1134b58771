import VeritasOs.FullLedger
import VeritasOs.KeyedTable
import VeritasOs.LogVerify
import VeritasOs.PolicyBundle
import VeritasOs.PostgresLog

namespace VeritasOs.Migration
open Text JsonText TextLines TrustLog LogFiles FullLedger PostgresLog

structure MigrationReport where
  migrated : Nat := 0
  duplicates : Nat := 0
  malformed : Nat := 0
  failed : Nat := 0
  errors : List String := []

def maxErrors : Nat := 200

def MigrationReport.addError (report : MigrationReport) (msg : String) : MigrationReport :=
  if report.errors.length < maxErrors then { report with errors := report.errors ++ [msg] } else report

def MigrationReport.countMalformed (report : MigrationReport) (msg : String) : MigrationReport :=
  { report with malformed := report.malformed + 1 }.addError msg

def MigrationReport.countFailed (report : MigrationReport) (msg : String) : MigrationReport :=
  { report with failed := report.failed + 1 }.addError msg

def MigrationReport.countImported (report : MigrationReport) (inserted : Bool) : MigrationReport :=
  if inserted then { report with migrated := report.migrated + 1 } else { report with duplicates := report.duplicates + 1 }

section Migrate
variable (cipher : Cipher) (driver : Driver) (dryRun : Bool)

-- The entry of a line that is not blank, or why it is malformed.
def readEntry (line : List Char) : Except String Dict :=
  match decrypt cipher line with
  | .error error => .error ((if cipher.keyed then "decrypt_failed: " else "key_missing: ") ++ error.text)
  | .ok decoded =>
    match loads decoded with
    | none => .error "json_error: Expecting value"
    | some json =>
      match fromJson json with
      | .dict entry =>
        if (Dict.get entry "request_id").truthy || (Dict.get entry "sha256").truthy then .ok entry
        else .error "missing 'request_id' and 'sha256'"
      | other => .error ("not_a_dict: " ++ PolicyBundle.typeName other)

structure Migrating where
  lineIdx : Nat := 0
  report : MigrationReport := {}
  tables : Tables

def importLine (lineIdx : Nat) (entry : Dict) (report : MigrationReport) (tables : Tables) : MigrationReport × Tables :=
  let label := "line[" ++ intStr lineIdx ++ "] "
  match importEntry driver dryRun entry tables with
  | (.ok (_,inserted),after) => (report.countImported inserted,after)
  | (.error error,after) =>
    if error.kind = .valueError then (report.countMalformed (label ++ "value_error: " ++ error.text),after)
    else (report.countFailed (label ++ "failed: " ++ error.text),after)

def migrateLine (state : Migrating) (rawLine : List Char) : Migrating :=
  let line := stripBy isSpace rawLine
  if line = [] then state
  else
    match readEntry cipher line with
    | .error reason =>
      { state with
        lineIdx := state.lineIdx + 1
        report := state.report.countMalformed ("line[" ++ intStr state.lineIdx ++ "] " ++ reason) }
    | .ok entry =>
      let (report,tables) := importLine driver dryRun state.lineIdx entry state.report state.tables
      ⟨state.lineIdx + 1,report,tables⟩

-- Without --verify, which only reads.
def migrateTrustlog (source : String) (files : Files) (tables : Tables) : MigrationReport × Tables :=
  match files.active with
  | none => (MigrationReport.countFailed {} ("source not found: " ++ source),tables)
  | some content =>
    let final := (byteLines content).foldl (migrateLine cipher driver dryRun) { tables }
    (final.report,final.tables)

end Migrate

def importAll (driver : Driver) (entries : List Dict) (tables : Tables) : Tables :=
  entries.foldl (fun tables entry => (importEntry driver false entry tables).2) tables

def Mirrored (driver : Driver) (tables : Tables) : Prop :=
  ∀ row ∈ tables.entries, row.requestId = storedId row.entry ∧
    textColumn driver (row.entry.get "sha256") = some row.hash ∧ textColumn driver (row.entry.get "sha256_prev") = some row.prevHash

section Imports
variable (driver : Driver) {tables : Tables} {entry : Dict} {entries : List Dict}

theorem mirrored_keys {driver : Driver} (mirrored : Mirrored driver tables) : tables.keys = tables.documents.map storedId := by
  rw [Tables.keys,Tables.documents,List.map_map]
  exact List.map_congr_left fun row listed => (mirrored row listed).1

theorem importEntry_deposit (consistent : Consistent tables) (mirrored : Mirrored driver tables) (identified : storedId entry ≠ "") :
    (importEntry driver false entry tables).2.documents = KeyedTable.deposit storedId (columnsTake driver) tables.documents entry ∧
      Mirrored driver (importEntry driver false entry tables).2 := by
  rcases importEntry_cases driver consistent identified with ⟨same,why⟩ | ⟨make,made,new,_,same⟩
  · rw [same]
    refine ⟨?_,mirrored⟩
    rcases why with known | refused
    · exact (KeyedTable.deposit_known (mirrored_keys mirrored ▸ known)).symm
    · exact (KeyedTable.deposit_refused refused).symm
  · obtain ⟨_,keyed,entered,hashed,linked⟩ := columns_row made (tables.sequence + 1)
    have taken : columnsTake driver entry = true := by
      rw [columnsTake,made]
      rfl
    rw [same]
    constructor
    · rw [KeyedTable.deposit_new taken (mirrored_keys mirrored ▸ new)]
      simp [Tables.documents,entered]
    · intro row listed
      rcases List.mem_append.mp listed with old | last
      · exact mirrored row old
      · rw [List.mem_singleton.mp last,keyed,entered]
        exact ⟨rfl,hashed,linked⟩

theorem importAll_deposit (consistent : Consistent tables) (mirrored : Mirrored driver tables)
    (identified : ∀ entry ∈ entries, storedId entry ≠ "") :
    (importAll driver entries tables).documents = KeyedTable.depositAll storedId (columnsTake driver) tables.documents entries ∧
      Consistent (importAll driver entries tables) ∧ Mirrored driver (importAll driver entries tables) := by
  induction entries generalizing tables with
  | nil => exact ⟨rfl,consistent,mirrored⟩
  | cons entry entries ih =>
    have named := identified entry (.head entries)
    obtain ⟨deposited,onward⟩ := importEntry_deposit driver consistent mirrored named
    have later := ih (importEntry_consistent driver consistent named) onward
      fun other listed => identified other (.tail entry listed)
    rw [deposited] at later
    exact later

theorem importAll_settled (consistent : Consistent tables) (mirrored : Mirrored driver tables)
    (identified : ∀ entry ∈ entries, storedId entry ≠ "")
    (settled : ∀ entry ∈ entries, columnsTake driver entry = true → storedId entry ∈ tables.documents.map storedId) :
    importAll driver entries tables = tables := by
  induction entries with
  | nil => rfl
  | cons entry entries ih =>
    have same : (importEntry driver false entry tables).2 = tables := by
      rcases importEntry_cases driver consistent (identified entry (.head entries)) with ⟨same,_⟩ | ⟨make,made,new,_⟩
      · exact same
      · have taken : columnsTake driver entry = true := by
          rw [columnsTake,made]
          rfl
        exact absurd (mirrored_keys mirrored ▸ settled entry (.head entries) taken) new
    rw [importAll,List.foldl_cons,same]
    exact ih (fun other listed => identified other (.tail entry listed)) fun other listed => settled other (.tail entry listed)

-- A second run finds every entry there or refused.
theorem importAll_again (consistent : Consistent tables) (mirrored : Mirrored driver tables)
    (identified : ∀ entry ∈ entries, storedId entry ≠ "") :
    importAll driver entries (importAll driver entries tables) = importAll driver entries tables := by
  obtain ⟨deposited,onward,alike⟩ := importAll_deposit driver consistent mirrored identified
  refine importAll_settled driver onward alike identified fun entry listed taken => ?_
  rw [deposited]
  exact KeyedTable.depositAll_keys listed taken

end Imports

section Reading
variable {cipher : Cipher} {driver : Driver} {sha256 : String → String}

theorem truthy_text (truthy : value.truthy = true) (recordable : Recordable value) : value.text ≠ "" := by
  have marked : ∀ first last : String, first ≠ "" → first ++ last ≠ "" := by
    intro first last some_ empty
    exact some_ (String.append_eq_empty_iff.mp empty).1
  cases value with
  | none => cases truthy
  | bool b =>
    cases b
    · cases truthy
    · decide
  | int n =>
    intro empty
    exact atomText_ne_nil (.int n) (String.ofList_eq_empty_iff.mp empty)
  | float x =>
    cases x with
    | finite literal =>
      intro empty
      have written : literal.text = "" := empty
      have valid := literal.valid
      rw [written] at valid
      cases valid
    | nan => decide
    | infinity negative => cases negative <;> decide
  | str s => simpa [Value.truthy,Value.text] using truthy
  | list items =>
    rw [show (Value.list items).text = "[" ++ Value.reprItems items ++ "]" from rfl,String.append_assoc]
    exact marked _ _ (by decide)
  | tuple items =>
    cases items with
    | nil => cases truthy
    | cons item rest =>
      cases rest with
      | nil =>
        rw [show (Value.tuple [item]).text = "(" ++ Value.repr item ++ ",)" from rfl,String.append_assoc]
        exact marked _ _ (by decide)
      | cons other rest =>
        rw [show (Value.tuple (item :: other :: rest)).text = "(" ++ Value.reprItems (item :: other :: rest) ++ ")" from rfl,
          String.append_assoc]
        exact marked _ _ (by decide)
  | dict members =>
    rw [show (Value.dict members).text = "\x7b" ++ Value.reprMembers members ++ "\x7d" from rfl,String.append_assoc]
    exact marked _ _ (by decide)
  | object text truth => cases recordable

structure Readable (entry : Dict) : Prop where
  valid : (Dict.get entry "__invalid__").truthy = false
  hashed : ∃ hash, entry.get "sha256" = .str hash ∧ hash ≠ ""

theorem linked_readable (hex : ∀ text, isSha256Hex (sha256 text) = true)
    (linked : Linked sha256 previous entries) : ∀ entry ∈ entries, Readable entry := by
  induction entries generalizing previous with
  | nil => exact fun _ listed => nomatch listed
  | cons first rest ih =>
    obtain ⟨good,later⟩ := linked
    refine List.forall_mem_cons.mpr ⟨⟨good.valid,?_⟩,ih later⟩
    obtain ⟨text,_,hashed⟩ := good.hashed
    refine ⟨_,hashed,fun empty => ?_⟩
    have canonical := hex (combine (expectedPrev previous first) text)
    rw [empty] at canonical
    cases canonical

theorem readEntry_full (read : fullEntry cipher index line = some entry) (readable : Readable entry) :
    stripBy isSpace line ≠ [] ∧ readEntry cipher (stripBy isSpace line) = .ok entry ∧ storedId entry ≠ "" := by
  have marked : ∀ reason, entry ≠ invalidEntry index reason := by
    rintro reason rfl
    exact absurd readable.valid (by simp [invalidEntry,Dict.get,lookup,Value.truthy])
  obtain ⟨hash,hashed,some_⟩ := readable.hashed
  have named : (Dict.get entry "sha256").truthy = true := by
    rw [hashed]
    simpa [Value.truthy] using some_
  unfold fullEntry at read
  dsimp only at read
  split at read
  · cases read
  · rename_i present
    refine ⟨present,?_⟩
    cases opened : decrypt cipher (stripBy isSpace line) with
    | error error =>
      rw [opened] at read
      exact absurd (Option.some.inj read).symm (marked _)
    | ok plain =>
      rw [opened] at read
      dsimp only at read
      cases loaded : loads plain with
      | none =>
        rw [loaded] at read
        exact absurd (Option.some.inj read).symm (marked _)
      | some json =>
        rw [loaded] at read
        dsimp only at read
        split at read
        · rename_i members same
          cases read
          have recordable := fromJson_recordable json
          rw [same] at recordable
          constructor
          · rw [readEntry,opened]
            dsimp only
            rw [loaded]
            dsimp only
            rw [same]
            simp [named]
          · rw [storedId,Value.orStr]
            split
            · rename_i given
              have held : ∃ member ∈ entry, member.2 = entry.get "request_id" := by
                cases found : lookup (.str "request_id") entry with
                | none => simp [Dict.get,found,Value.truthy] at given
                | some value => exact ⟨_,lookup_mem found,by simp [Dict.get,found]⟩
              obtain ⟨member,listed,value⟩ := held
              exact truthy_text given (value ▸ recordable_member recordable listed)
            · rw [Value.orStr,if_pos named,hashed]
              exact some_
        · exact absurd (Option.some.inj read).symm (marked _)

theorem migrateLines_tables (lines : List (List Char)) (start : Nat) (state : Migrating)
    (readable : ∀ entry ∈ (lines.zipIdx start).filterMap (fun line => fullEntry cipher line.2 line.1), Readable entry) :
    (lines.foldl (migrateLine cipher driver false) state).tables =
      importAll driver ((lines.zipIdx start).filterMap fun line => fullEntry cipher line.2 line.1) state.tables := by
  induction lines generalizing start state with
  | nil => rfl
  | cons line rest ih =>
    rw [List.zipIdx_cons,List.foldl_cons]
    rw [List.zipIdx_cons] at readable
    cases read : fullEntry cipher start line with
    | none =>
      -- Only a blank line yields nothing.
      have blank : stripBy isSpace line = [] := by
        unfold fullEntry at read
        dsimp only at read
        split at read
        · assumption
        · repeat' split at read
          all_goals cases read
      have same : migrateLine cipher driver false state line = state := by
        rw [migrateLine]
        exact if_pos blank
      rw [List.filterMap_cons] at readable ⊢
      simp only [read] at readable ⊢
      rw [same]
      exact ih (start + 1) state readable
    | some entry =>
      rw [List.filterMap_cons] at readable ⊢
      simp only [read] at readable ⊢
      obtain ⟨present,parsed,_⟩ := readEntry_full read (readable entry (.head _))
      have turned : (migrateLine cipher driver false state line).tables = (importEntry driver false entry state.tables).2 := by
        rw [migrateLine]
        dsimp only
        rw [if_neg present,parsed]
        dsimp only
        unfold importLine
        dsimp only
        split <;> rename_i imported <;> rw [imported]
        split <;> rfl
      rw [ih (start + 1) _ fun other listed => readable other (.tail entry listed),turned]
      rfl

-- What the migration is to leave: the source, entry by entry, and its last hash as the head.
structure Preserved (source : List Dict) (tables : Tables) : Prop where
  ordered : tables.entries.Pairwise fun earlier later => earlier.id < later.id
  entries : tables.documents = source
  head : ∀ entry, source.getLast? = some entry → ∃ hash, PostgresLog.getLastHash tables = some hash ∧ entry.get "sha256" = .str hash

theorem start_mirrored : Mirrored driver {} := fun _ listed => nomatch listed

theorem migrateTrustlog_tables (source : String) (files : Files) (tables : Tables)
    (readable : ∀ entry ∈ iterFullEntries cipher files, Readable entry) :
    (migrateTrustlog cipher driver false source files tables).2 = importAll driver (iterFullEntries cipher files) tables := by
  unfold migrateTrustlog
  unfold iterFullEntries at readable ⊢
  cases present : files.active with
  | none => rfl
  | some content =>
    rw [present] at readable
    exact migrateLines_tables (byteLines content) 0 { tables } readable

theorem iterFullEntries_identified (readable : ∀ entry ∈ iterFullEntries cipher files, Readable entry) :
    ∀ entry ∈ iterFullEntries cipher files, storedId entry ≠ "" := by
  intro entry listed
  obtain ⟨line,_,read⟩ := List.mem_filterMap.mp listed
  exact (readEntry_full read (readable entry listed)).2.2

theorem head_hash {tables : Tables} (consistent : Consistent tables) (mirrored : Mirrored driver tables) {entry : Dict} {hash : String}
    (last : tables.documents.getLast? = some entry) (hashed : entry.get "sha256" = .str hash) :
    PostgresLog.getLastHash tables = some hash := by
  rw [Tables.documents,List.getLast?_map] at last
  obtain ⟨row,final,rfl⟩ := Option.map_eq_some_iff.mp last
  obtain ⟨_,column,_⟩ := mirrored row (List.mem_of_getLast? final)
  rw [hashed,textColumn] at column
  split at column
  · rw [PostgresLog.getLastHash,consistent.head,final]
    exact (Option.some.inj column).symm
  · cases column

theorem migration_preserves_exact (cipher : Cipher) (driver : Driver) (sha256 : String → String)
    (hex : ∀ text, isSha256Hex (sha256 text) = true) (source : String) (files : Files) (report : Report)
    (verified : verifyFullLedger sha256 (iterFullEntries cipher files) = .ok report) (accepted : report.ok = true) :
    (Preserved (iterFullEntries cipher files) (migrateTrustlog cipher driver false source files {}).2 ∧
        (migrateTrustlog cipher driver false source files (migrateTrustlog cipher driver false source files {}).2).2 =
          (migrateTrustlog cipher driver false source files {}).2) ↔
      ((iterFullEntries cipher files).map storedId).Nodup ∧ ∀ entry ∈ iterFullEntries cipher files, columnsTake driver entry = true := by
  have readable := linked_readable hex (verifyFullLedger_accepted verified accepted).1
  have identified := iterFullEntries_identified readable
  obtain ⟨deposited,consistent,mirrored⟩ := importAll_deposit driver start_consistent start_mirrored identified
  rw [migrateTrustlog_tables source files _ readable,migrateTrustlog_tables source files _ readable]
  have exact_ := @KeyedTable.depositAll_exact Dict String _ storedId (columnsTake driver) [] (iterFullEntries cipher files)
  rw [List.nil_append] at exact_
  constructor
  · intro given
    obtain ⟨each,distinct⟩ := exact_.mp (deposited.symm.trans given.1.entries)
    exact ⟨distinct,fun entry listed => (each entry listed).1⟩
  · intro given
    obtain ⟨distinct,taken⟩ := given
    have whole := deposited.trans (exact_.mpr ⟨fun entry listed => ⟨taken entry listed,List.not_mem_nil⟩,distinct⟩)
    refine ⟨⟨consistent.ordered,whole,fun entry last => ?_⟩,importAll_again driver start_consistent start_mirrored identified⟩
    obtain ⟨hash,hashed,_⟩ := (readable entry (List.mem_of_getLast? last)).hashed
    exact ⟨hash,head_hash consistent mirrored (by rw [whole]; exact last) hashed,hashed⟩

end Reading

def decisionDigest : String := "94fe92a81697f0ba72d9e9d041703e2cb527dd972d48e281eda02b793406dd65"
def receiptDigest : String := "a6514f0e2a713c0976f5552ed8e0478fcd61a3eee62068f1063f7e0b708a022e"

def decisionDocument : List (String × Json) :=
  [("kind",.str "decide"),("request_id",.str "d-1"),("sha256_prev",.atom .null),("sha256",.str decisionDigest)]
def receiptDocument : List (String × Json) :=
  [("kind",.str "governance.bind_receipt"),("request_id",.str "d-1"),("sha256_prev",.str decisionDigest),("sha256",.str receiptDigest)]

def decisionText : String := "\x7b\"kind\":\"decide\",\"request_id\":\"d-1\"\x7d"
def receiptText : String := "\x7b\"kind\":\"governance.bind_receipt\",\"request_id\":\"d-1\"\x7d"

def bindDigest (text : String) : String :=
  if text = decisionText then decisionDigest
  else if text = decisionDigest ++ receiptText then receiptDigest
  else String.ofList (List.replicate 64 '0')

def decisionLine : LogRuns.Line sampleCipher where
  draw := 0
  text := dumps spaced (.obj decisionDocument)
  document := decisionDocument
  sha := decisionDigest
  loaded := loads_dumps spaced (.obj decisionDocument)
  hashed := rfl
  canonical := by decide +kernel

def receiptLine : LogRuns.Line sampleCipher where
  draw := 1
  text := dumps spaced (.obj receiptDocument)
  document := receiptDocument
  sha := receiptDigest
  loaded := loads_dumps spaced (.obj receiptDocument)
  hashed := rfl
  canonical := by decide +kernel

def filesOf (lines : List (LogRuns.Line sampleCipher)) : Files := { active := some (LogRuns.content lines []) }

theorem filesOf_entries (lines : List (LogRuns.Line sampleCipher)) :
    iterFullEntries sampleCipher (filesOf lines) = lines.map LogRuns.Line.entry := by
  have held : LogRuns.Holds sampleCipher (filesOf lines) { active := lines.map LogRuns.Line.entry } :=
    ⟨⟨lines,rfl,rfl⟩,⟨[],rfl,rfl⟩,rfl,fun _ none_ => (nomatch none_),rfl⟩
  exact LogVerify.iterFullEntries_holds sampleCipher_sound held

def plainDriver : Driver := ⟨fun _ => none⟩

theorem bindDigest_hex (text : String) : isSha256Hex (bindDigest text) = true := by
  unfold bindDigest
  split
  · decide +kernel
  · split <;> decide +kernel

theorem bound_linked : Linked bindDigest .none [entryOf decisionDocument,entryOf receiptDocument] :=
  ⟨⟨rfl,fun some_ => absurd rfl some_,decisionText,by decide +kernel,by decide +kernel⟩,
    ⟨rfl,fun _ => by decide +kernel,receiptText,by decide +kernel,by decide +kernel⟩,trivial⟩

theorem migration_preserves_exact_sample : Preserved (iterFullEntries sampleCipher (filesOf [decisionLine]))
      (migrateTrustlog sampleCipher plainDriver false "trust_log.jsonl" (filesOf [decisionLine]) {}).2 := by
  have linked : Linked bindDigest .none [entryOf decisionDocument] := ⟨bound_linked.1,trivial⟩
  obtain ⟨report,verified,accepted,_⟩ := verifyFullLedger_linked linked
  have entries := filesOf_entries [decisionLine]
  refine ((migration_preserves_exact sampleCipher plainDriver bindDigest bindDigest_hex "trust_log.jsonl" _ report
    (entries ▸ verified) accepted).mpr ?_).1
  rw [entries]
  exact ⟨List.nodup_singleton _,List.forall_mem_singleton.mpr (by decide +kernel)⟩

theorem receipt_dropped :
    (∃ report, verifyFullLedger bindDigest (iterFullEntries sampleCipher (filesOf [decisionLine,receiptLine])) = .ok report ∧
        report.ok = true) ∧ ¬Preserved (iterFullEntries sampleCipher (filesOf [decisionLine,receiptLine]))
        (migrateTrustlog sampleCipher plainDriver false "trust_log.jsonl" (filesOf [decisionLine,receiptLine]) {}).2 := by
  have entries := filesOf_entries [decisionLine,receiptLine]
  constructor
  · obtain ⟨report,verified,accepted,_⟩ := verifyFullLedger_linked bound_linked
    exact ⟨report,entries ▸ verified,accepted⟩
  · intro preserved
    have whole := preserved.entries
    rw [migrateTrustlog_tables _ _ _ (entries ▸ linked_readable bindDigest_hex bound_linked),entries] at whole
    have short : (importAll plainDriver [entryOf decisionDocument,entryOf receiptDocument] {}).documents.length = 1 := by decide +kernel
    have long := congrArg List.length whole
    exact absurd (short.symm.trans long) (by decide)

end VeritasOs.Migration
