import Mathlib.Order.Lattice
import VeritasOs.DateTime
import VeritasOs.EvidenceBundle

namespace VeritasOs.BundleTimeRange
open PolicyBundle WitnessLedger BundleVerify EvidenceBundle

def textOutside (request : Request) (ts : String) : Bool :=
  ((given request.timeRangeStart).map fun bound => textLt ts bound).getD false ||
    ((given request.timeRangeEnd).map fun bound => textLt bound ts).getD false

section Instants
variable {T : Type} [LinearOrder T] (instant : String → T) (request : Request)

def instantOutside (ts : String) : Bool :=
  ((given request.timeRangeStart).map fun bound => decide (instant ts < instant bound)).getD false ||
    ((given request.timeRangeEnd).map fun bound => decide (instant bound < instant ts)).getD false

def timestampOf (entry : Dict) : Option String :=
  match entry.getD "timestamp" (.str "") with
  | .str ts => some ts
  | _ => none

def entriesWithin (entries : List Dict) : List Dict :=
  entries.filter fun entry => ((timestampOf entry).map fun ts => !instantOutside instant request ts).getD false

def TextsAgree (entries : List Dict) : Prop :=
  ∀ entry ∈ entries, ∀ ts, timestampOf entry = some ts → (textOutside request ts = true ↔ instantOutside instant request ts = true)

theorem filterEach_filter
    (answers : ∀ entry ∈ entries, keep entry = .ok (kept entry)) : filterEach keep entries = .ok (entries.filter kept) := by
  induction entries with
  | nil => rfl
  | cons entry rest ih =>
    obtain ⟨first,others⟩ := List.forall_mem_cons.mp answers
    rw [filterEach,first,ih others]
    cases chosen : kept entry <;> simp [bind,Except.bind,chosen]

theorem filter_exact {α : Type} {first second : α → Bool} {items : List α} :
    items.filter first = items.filter second ↔ ∀ item ∈ items, first item = second item := by
  refine ⟨fun same item listed => ?_,List.filter_congr⟩
  have both : item ∈ items.filter first ↔ item ∈ items.filter second := by rw [same]
  simpa [listed] using Bool.eq_iff_iff.mpr (by simpa [listed] using both)

variable {instant request}

theorem selection_exact {entries : List Dict} (unnamed : request.requestIds = [])
    (bounded : (given request.timeRangeStart).isSome = true ∨ (given request.timeRangeEnd).isSome = true)
    (timed : ∀ entry ∈ entries, (timestampOf entry).isSome = true) : ∃ selected, selectEntries request entries = .ok selected ∧
      (selected = entriesWithin instant request entries ↔ TextsAgree instant request entries) := by
  have answers : ∀ entry ∈ entries, inTimeRange request.timeRangeStart request.timeRangeEnd entry =
      .ok (((timestampOf entry).map fun ts => !textOutside request ts).getD false) := by
    intro entry listed
    have text := timed entry listed
    unfold timestampOf at text ⊢
    unfold inTimeRange
    cases held : entry.getD "timestamp" (.str "") with
    | str ts => rfl
    | _ => simp [held] at text
  refine ⟨entries.filter fun entry => ((timestampOf entry).map fun ts => !textOutside request ts).getD false,?_,?_⟩
  · rw [selectEntries,if_neg (not_not.mpr unnamed),if_pos (by simpa using bounded)]
    exact filterEach_filter answers
  · rw [entriesWithin,filter_exact]
    refine forall₂_congr fun entry listed => ?_
    obtain ⟨ts,text⟩ := Option.isSome_iff_exists.mp (timed entry listed)
    rw [text]
    simp only [Option.map_some,Option.getD_some,Option.some.injEq,forall_eq']
    cases textOutside request ts <;> cases instantOutside instant request ts <;> decide

end Instants

-- The instant of an ISO 8601 text, in microseconds.
def isoInstant (ts : String) : Int := (DateTime.parseTimestamp ts).toOption.getD 0

def sampleRequest (start end_ : String) : Request where
  bundleType := "incident"
  requestIds := []
  timeRangeStart := some start
  timeRangeEnd := some end_
  governanceIdentity := []
  releaseProvenance := []
  incidentMetadata := []
  signerFn := none
  signerMetadata := []
  verifySignatureFn := none
  decisionRecordProfile := "minimum"
  bundleId := none
  createdBy := "veritas_os"

def sampleSurroundings (ledger : String) : Surroundings where
  world := witnessVerifier
  ledger := .content (.text ledger)
  before := []
  now := "2026-01-02T00:00:00Z"
  uuid7 := "b"
  errorCode := id
  tamperCode _ := false

def sampleLedger : String := "\x7b\"timestamp\":\"2026-01-01T09:00:00+09:00\"\x7d\n"

def sampleEntry : Dict := [(.str "timestamp",.str "2026-01-01T09:00:00+09:00")]

theorem sampleLedger_entries : loadWitnessEntries (.content (.text sampleLedger)) = .ok [.dict sampleEntry] := by decide +kernel

end VeritasOs.BundleTimeRange
