import VeritasOs.BindReplay

namespace VeritasOs.BindCore
open Text DateTime Interaction BindArtifacts BindAdmissibility DecisionSemantics

variable {W S ι : Type} {sha256 : String → String} {storage : TrustLog.Storage}

def readEntries : Event (Ans S) → Option (List Dict)
  | ⟨.iterTrustLog,entries⟩ => some entries
  | _ => none

def lookedUp (trace : Trace S) : Option (List Dict) := trace.findSome? readEntries

theorem lookedUp_append (left right : Trace S) : lookedUp (left ++ right) = (lookedUp left).or (lookedUp right) := by
  simp [lookedUp]

-- Submitted with the TrustLog on, under the triple, whatever state the adapter finds.
structure Carries (triple : Triple) (adapter : Adapter W S) (call : Call) : Prop where
  appends : call.appendTrustlog = true
  key : ∀ world rawKey, (adapter.buildIdempotencyKey call.intent world).1 = .ok rawKey → tripleOf call.intent rawKey = some triple

theorem opens_carried (carries : Carries triple adapter call)
    (answered : Answered around adapter trace) (opens : Opens call trace adapterKey key) :
    ∃ rawKey, adapterKey = strip (rawKey.orStr "") ∧ tripleOf call.intent rawKey = some triple := by
  obtain ⟨rawKey,clock,rest,rfl,_,same,_⟩ := opens
  obtain ⟨host,answer⟩ := answered ⟨.buildIdempotencyKey call.intent,.ok rawKey⟩ (by simp)
  exact ⟨rawKey,same,carries.key host.world rawKey answer.symm⟩

theorem applied_lookup (carries : Carries triple adapter call) (answered : Answered around adapter trace)
    (path : Leads (executeBindAdjudication sha256 call) trace last) (applied : Applied trace) :
    ∃ entries, lookedUp trace = some entries ∧ ¬Findable entries triple := by
  obtain ⟨clearance,before,after,rfl,staged,_⟩ := applied_parts path applied
  obtain ⟨ts,adapterKey,key,admitted⟩ := prelude_cleared staged
  obtain ⟨setup,gates,_,rfl,_,_,opened,_⟩ := admitted.passage
  have opens := (opened.append gates).append after
  obtain ⟨rawKey,rfl,carried⟩ := opens_carried carries answered opens
  obtain ⟨intentId,decisionId,chosen⟩ := tripleOf_some carried
  obtain ⟨enabled,same,_,_⟩ := explicitKey_some chosen
  obtain ⟨_,clock,rest,split,clocked,_,rfl,missed⟩ := opens
  obtain ⟨entries,later,rfl,none_⟩ := missed (by rw [carries.appends,enabled]; rfl)
  refine ⟨entries,?_,fun found => ?_⟩
  · have early : lookedUp clock = none := by
      refine List.findSome?_eq_none_iff.mpr fun event listed => ?_
      obtain ⟨op,answer⟩ := event
      obtain rfl : op = .utcNow := clocked _ listed
      rfl
    rw [split,lookedUp_append,early]
    rfl
  · rw [same] at none_
    have listed : Findable entries ⟨call.intent.executionIntentId,call.intent.decisionId,triple.idempotencyKey⟩ := by
      rw [intentId,decisionId]
      exact found
    obtain ⟨receipt,hit⟩ := listed.hit
    cases none_.symm.trans hit

abbrev BindThread (S : Type) := Thread (Op S) (Ans S) Exc BindReceipt
abbrev BindSystem (W S ι : Type) := System (Op S) (Ans S) Exc BindReceipt (Host W) ι

def Finished (thread : BindThread S) : Prop := ∃ outcome, thread.program = finished outcome

section Calls
variable [DecidableEq ι] (storage : TrustLog.Storage) (around : ι → Surroundings) (adapter : ι → Adapter W S) (call : ι → Call)

-- Whatever the adapter and the log answer, the call does not come to the effect any more.
def Harmless (around : Surroundings) (adapter : Adapter W S) (thread : BindThread S) : Prop :=
  ∀ more last, Leads thread.program more last → Answered around adapter more → ¬Applied (thread.history ++ more)

-- What keeps two calls of one triple from both coming to the effect, besides a log that is
-- not rotated. A lookup waits until every call that looked the triple up before is through:
-- its receipt is in the log, or it can no longer come to the effect.
structure StepMeets (system : BindSystem W S ι) (i : ι) (op : Op S) : Prop where
  room : Room storage op system.shared
  readable : op = .iterTrustLog → lookedUp (system.threads i).history = none → (∃ j, Applied (system.threads j).history) →
    storage.readFault system.shared.log.reads = false
  apart : op = .iterTrustLog → lookedUp (system.threads i).history = none → ∀ j, j ≠ i →
    (lookedUp (system.threads j).history).isSome = true → Finished (system.threads j) ∨ Harmless (around j) (adapter j) (system.threads j)
  steady : Applied ((system.threads i).history ++ [⟨op,(handler (around i) (adapter i) op system.shared).1⟩]) →
    Steady ((system.threads i).history ++ [⟨op,(handler (around i) (adapter i) op system.shared).1⟩])

def calls (host : Host W) : BindSystem W S ι := launch (fun i => executeBindAdjudication storage.sha256 (call i)) host

abbrev handlers : ι → Handler (Ans S) (Host W) := fun i => handler (around i) (adapter i)

-- Of two calls that looked the triple up one is harmless, and an effect that is through can be found.
structure Guarded (triple : Triple) (system : BindSystem W S ι) : Prop where
  single : ∀ i j, i ≠ j → (lookedUp (system.threads i).history).isSome = true → (lookedUp (system.threads j).history).isSome = true →
    Harmless (around i) (adapter i) (system.threads i) ∨ Harmless (around j) (adapter j) (system.threads j)
  found : ∀ i, Applied (system.threads i).history → Finished (system.threads i) → Findable system.shared.log.active triple

variable {storage around adapter call}

variable {thread : BindThread S} {op : Op S} {next : Ans S op → Bind S BindReceipt}

theorem harmless_of_finished {around : Surroundings} {adapter : Adapter W S} (ended : Finished thread)
    (unapplied : ¬Applied thread.history) : Harmless around adapter thread := by
  obtain ⟨outcome,same⟩ := ended
  intro more last path _
  rw [same] at path
  obtain rfl : more = [] := by
    cases outcome with
    | ok receipt => exact (leads_pure.mp path).1
    | error error => exact (leads_fail.mp path).1
  simpa using unapplied

theorem harmless_step {around : Surroundings} {adapter : Adapter W S} (harmless : Harmless around adapter thread)
    (pending : thread.program = .ask op next) (host : Host W) :
    Harmless around adapter ⟨next (handler around adapter op host).1,thread.history ++ [⟨op,(handler around adapter op host).1⟩]⟩ := by
  intro more last path answered applied
  refine harmless (⟨op,(handler around adapter op host).1⟩ :: more) last ?_ ?_ (by simpa using applied)
  · rw [pending]
    exact .more path
  · exact List.forall_mem_cons.mpr ⟨⟨host,rfl⟩,answered⟩

theorem harmless_of_found {around : Surroundings} {adapter : Adapter W S} {call : Call} {triple : Triple}
    (carries : Carries triple adapter call) (path : Leads (executeBindAdjudication sha256 call) thread.history thread.program)
    (answered : Answered around adapter thread.history) {entries : List Dict} (looked : lookedUp thread.history = some entries)
    (found : Findable entries triple) : Harmless around adapter thread := by
  intro more last later answers applied
  obtain ⟨read,same,missed⟩ := applied_lookup carries (List.forall_mem_append.mpr ⟨answered,answers⟩) (path.append later) applied
  rw [lookedUp_append,looked] at same
  cases same
  exact missed found

theorem reads_iter (reads : (readEntries ⟨op,answer⟩).isSome = true) : op = .iterTrustLog := by
  cases op <;> first | rfl | cases reads

variable {triple : Triple} {host : Host W} {system : BindSystem W S ι}

theorem guarded_pair (same : ∀ i, (around i).storage = storage) (carries : ∀ i, Carries triple (adapter i) (call i))
    (path : Runs (handlers around adapter) (StepMeets storage around adapter) (calls storage call host) system)
    (guarded : Guarded around adapter triple system) {i j : ι} (other : j ≠ i) (pending : (system.threads i).program = .ask op next)
    (condition : StepMeets storage around adapter system i op)
    (looked : (lookedUp ((system.threads i).history ++ [⟨op,(handler (around i) (adapter i) op system.shared).1⟩])).isSome = true)
    (lookedOther : (lookedUp (system.threads j).history).isSome = true) :
    Harmless (around i) (adapter i) ⟨next (handler (around i) (adapter i) op system.shared).1,
        (system.threads i).history ++ [⟨op,(handler (around i) (adapter i) op system.shared).1⟩]⟩ ∨
      Harmless (around j) (adapter j) (system.threads j) := by
  by_cases early : (lookedUp (system.threads i).history).isSome = true
  · rcases guarded.single i j (Ne.symm other) early lookedOther with mine | theirs
    · exact .inl (harmless_step mine pending system.shared)
    · exact .inr theirs
  · have first : lookedUp (system.threads i).history = none := by simpa using early
    rw [lookedUp_append,first,Option.none_or] at looked
    obtain rfl : op = .iterTrustLog := reads_iter (by simpa [lookedUp] using looked)
    rcases condition.apart rfl first j other lookedOther with ended | theirs
    · by_cases applied : Applied (system.threads j).history
      · have readable := condition.readable rfl first ⟨j,applied⟩
        have read : (handler (around i) (adapter i) .iterTrustLog system.shared).1 = system.shared.log.active := by
          simp [handler,onLog,TrustLog.iterTrustLog,same i,readable]
        have earlier := history_leads path i
        rw [pending] at earlier
        refine .inl (harmless_of_found (carries i) (earlier.append (.more (.done _))) ?_ ?_ (guarded.found j applied ended))
        · exact List.forall_mem_append.mpr ⟨history_answers path i,List.forall_mem_singleton.mpr ⟨_,rfl⟩⟩
        · rw [lookedUp_append,first,Option.none_or,read]
          rfl
      · exact .inr (harmless_of_finished ended applied)
    · exact .inr theirs

theorem guarded_step (labels : LabelsKept storage.masking) (kept : TripleKept storage.masking triple)
    (same : ∀ i, (around i).storage = storage) (carries : ∀ i, Carries triple (adapter i) (call i))
    (path : Runs (handlers around adapter) (StepMeets storage around adapter) (calls storage call host) system)
    (guarded : Guarded around adapter triple system) (pending : (system.threads i).program = .ask op next)
    (condition : StepMeets storage around adapter system i op) :
    Guarded around adapter triple (system.advance i ⟨op,(handlers around adapter i op system.shared).1⟩
      (next (handlers around adapter i op system.shared).1) (handlers around adapter i op system.shared).2) := by
  refine ⟨?_,?_⟩
  · intro a b distinct lookedA lookedB
    by_cases first : a = i
    · subst a
      have other := Ne.symm distinct
      rw [advance_self] at lookedA ⊢
      rw [advance_other _ _ _ _ _ other] at lookedB ⊢
      exact guarded_pair same carries path guarded other pending condition lookedA lookedB
    · rw [advance_other _ _ _ _ _ first] at lookedA ⊢
      by_cases second : b = i
      · subst b
        rw [advance_self] at lookedB ⊢
        exact (guarded_pair same carries path guarded first pending condition lookedB lookedA).symm
      · rw [advance_other _ _ _ _ _ second] at lookedB ⊢
        exact guarded.single a b distinct lookedA lookedB
  · intro a applied ended
    rw [advance_shared]
    by_cases mine : a = i
    · subst a
      rw [advance_self] at applied ended
      obtain ⟨outcome,last⟩ := ended
      have whole := history_leads (path.step i op next pending condition) i
      rw [advance_self,show next _ = finished outcome from last] at whole
      have answered : Answered (around i) (adapter i) _ := history_answers (path.step i op next pending condition) i
      rw [advance_self] at answered
      obtain ⟨before,entry,answer,split,found⟩ := written_findable labels kept (carries i).appends
        (fun _ _ opens => opens_carried (carries i) answered opens) whole applied (condition.steady applied)
      obtain ⟨_,event⟩ := List.append_inj' split rfl
      simp only [List.cons.injEq,Sigma.mk.injEq,and_true] at event
      obtain ⟨rfl,answered⟩ := event
      rw [← same i] at found
      exact found system.shared.log (eq_of_heq answered)
    · rw [advance_other _ _ _ _ _ mine] at applied ended
      have room : Room (around i).storage op system.shared := by rw [same i]; exact condition.room
      exact handler_findable room (guarded.found a applied ended)

theorem runs_guarded (labels : LabelsKept storage.masking) (kept : TripleKept storage.masking triple)
    (same : ∀ i, (around i).storage = storage) (carries : ∀ i, Carries triple (adapter i) (call i))
    (path : Runs (handlers around adapter) (StepMeets storage around adapter) (calls storage call host) system) :
    Guarded around adapter triple system := by
  induction path with
  | start =>
    refine ⟨fun i j _ looked => ?_,fun i applied => ?_⟩
    · cases looked
    · obtain ⟨event,listed,_⟩ := applied
      cases listed
  | step earlier i op next pending condition ih => exact guarded_step labels kept same carries earlier ih pending condition

end Calls

def twinAdapter : Bool → Adapter Nat Unit := fun _ => countingAdapter (.ok (.bool true))

def twinCall : Bool → Call := fun _ => sampleCall

def lookupTrace : Trace Unit := [⟨.buildIdempotencyKey sampleIntent,.ok (.str "key-1")⟩,⟨.iterTrustLog,[]⟩]

def effectTrace : Trace Unit :=
  [⟨.snapshot,.ok ()⟩,⟨.fingerprintState (),.ok (.str "state-1")⟩,⟨.validateAuthority sampleIntent (),.ok (.bool true)⟩,
   ⟨.validateConstraints sampleIntent (),.ok (.dict [(.str "window",.bool true)])⟩,
   ⟨.assessRuntimeRisk sampleIntent (),.ok (.bool true)⟩,⟨.apply sampleIntent (),.ok .none⟩]

theorem twin_leads : ∃ middle last, Leads (executeBindAdjudication quietStorage.sha256 sampleCall) lookupTrace middle ∧
    Leads middle effectTrace last :=
  ⟨_,_,.more (.more (.done _)),.more (.more (.more (.more (.more (.more (.done _))))))⟩

theorem lookupTrace_follows (i : Bool) (count : Nat) (log : TrustLog.Log) (empty : log.active = []) :
    Follows (handlers (fun _ => quietSurroundings) twinAdapter i) ⟨count,log⟩ lookupTrace ⟨count,{ log with reads := log.reads + 1 }⟩ :=
  ⟨rfl,by rw [← empty]; rfl,rfl⟩

theorem effectTrace_follows (i : Bool) (count : Nat) (log : TrustLog.Log) :
    Follows (handlers (fun _ => quietSurroundings) twinAdapter i) ⟨count,log⟩ effectTrace ⟨count + 1,log⟩ :=
  ⟨rfl,rfl,rfl,rfl,rfl,rfl,rfl⟩

theorem effectTrace_applied (before : Trace Unit) : Applied (before ++ effectTrace) :=
  ⟨⟨.apply sampleIntent (),.ok .none⟩,by simp [effectTrace],rfl⟩

theorem twin_unwritten (listed : event ∈ lookupTrace ++ effectTrace) : event.1.appends = false := by
  simp only [lookupTrace,effectTrace,List.cons_append,List.nil_append,List.mem_cons,List.not_mem_nil,or_false] at listed
  rcases listed with rfl | rfl | rfl | rfl | rfl | rfl | rfl | rfl <;> rfl

theorem twin_meets (other : (system.threads true).history = [])
    (answered : Answered quietSurroundings (countingAdapter (.ok (.bool true))) (system.threads false).history)
    (unwritten : AppendsSucceed (system.threads false).history) (silent : op.appends = false) :
    StepMeets quietStorage (fun _ => quietSurroundings) twinAdapter system false op where
  room := by
    rintro entry rfl
    cases silent
  readable _ _ _ := rfl
  apart _ _ j different looked := by
    cases j with
    | false => exact absurd rfl different
    | true =>
      rw [other] at looked
      cases looked
  steady _ := by
    refine steady_of_plain counting_plain (List.forall_mem_append.mpr ⟨answered,List.forall_mem_singleton.mpr ⟨_,rfl⟩⟩)
      (List.forall_mem_append.mpr ⟨unwritten,List.forall_mem_singleton.mpr ?_⟩)
    cases op <;> first | rfl | cases silent

theorem twin_carries (i : Bool) : Carries sampleTriple (twinAdapter i) (twinCall i) := by
  refine ⟨rfl,fun world rawKey answer => ?_⟩
  cases answer
  rfl

end VeritasOs.BindCore
