import GrafanaInstall.Proofs.Controller.Rest

/-!
# The status of a round

What a round finds is recorded by one patch, and only if another status stands there. So over a
client whose patches take effect or leave things as they are, the status tells the truth as soon as
a patch gets through, and the round ends in a failed patch before it ends in anything else.
-/

namespace GrafanaInstall

open Memory Program

/-! ## Clients -/

/-- What the stages may ask for. They know nothing of observabilities. -/
def Call.OfStages : Call → Prop
  | .list .. => True
  | .apply k _ | .delete k _ _ => k ≠ .observability
  | .patchStatus .. | .addFinalizer .. | .removeFinalizer .. => False

def Call.isPatch : Call → Bool
  | .patchStatus .. => true
  | _ => false

def Call.isFinalizing : Call → Bool
  | .addFinalizer .. | .removeFinalizer .. => true
  | _ => false

/-- Surroundings in which an observability has a status. A patch replaces it, or fails and leaves it
as it is, and nothing else that a round may ask for changes it. -/
structure Handler.Records (handler : Handler Cluster σ) (ns name : String)
    (shows : σ → Option ObservabilityStatus → Prop) : Prop where
  patch : ∀ status s old, shows s old →
    ((handler (.call (.patchStatus ns name status)) s).1 = .ok () ∧
      shows (handler (.call (.patchStatus ns name status)) s).2 (some status)) ∨
    ∃ halt, (handler (.call (.patchStatus ns name status)) s).1 = .error halt ∧
      shows (handler (.call (.patchStatus ns name status)) s).2 old
  stages : ∀ call, call.OfStages → ∀ s old, shows s old → shows (handler (.call call) s).2 old
  log : ∀ event s old, shows s old → shows (handler (.log event) s).2 old
  cancelled : ∀ s old, shows s old → shows (handler .cancelled s).2 old

theorem Call.OfStages.records_nothing {call : Call} (h : call.OfStages) :
    call.isPatch = false ∧ call.isFinalizing = false := by
  cases call with
  | list | apply | delete => exact ⟨rfl, rfl⟩
  | patchStatus | addFinalizer | removeFinalizer => exact h.elim

namespace Handler.Records

variable {handler : Handler Cluster σ} {ns name : String}
  {shows : σ → Option ObservabilityStatus → Prop} {old : Option ObservabilityStatus}

theorem run (h : handler.Records ns name shows) {program : Program Cluster α}
    (hasks : program.Asks Call.OfStages) {s : σ} (hs : shows s old) :
    shows (program.run handler s).2 old :=
  hasks.run (I := (shows · old)) (fun call hcall s => h.stages call hcall s old)
    (fun event s => h.log event s old) (fun s => h.cancelled s old) s hs

end Handler.Records

theorem InstallCall.ofStages {config : InstallConfig} {tenant : Tenant} {call : Call}
    (h : InstallCall config tenant call) : call.OfStages := by
  cases h <;> first | trivial | simp [Call.OfStages]

/-! ### A store as a client -/

theorem Holds.answer {store : Store} {ns name : String} {obs : Observability}
    (h : Holds store ns name obs) {call : Call} (hcall : call.OfStages) :
    Holds (answer call store).2 ns name obs := by
  cases call with
  | list => exact h
  | apply k desired =>
    refine h.of_find? (applied_sound h.sound desired) (find?_apply store desired ?_)
    exact keyOf_ne (Ne.symm hcall)
  | delete k other name' =>
    refine h.of_find? ?_ ((find?_delete store k other name' _).trans (if_neg ?_))
    · rw [Memory.answer, delete_store]
      exact h.sound.erase _
    · exact keyOf_ne (Ne.symm hcall)
  | patchStatus | addFinalizer | removeFinalizer => exact hcall.elim

def Fate.IsHarmless : Fate → Prop
  | .answered _ => True
  | .spoilt acts .. => acts = false

namespace Trial

theorem serve_of_harmless {t : Trial} (h : ∀ fate ∈ t.plan, fate.IsHarmless) (call : Call) :
    (∀ fate ∈ (serve (.call call) t).2.plan, fate.IsHarmless) ∧
      ((serve (.call call) t).1 = (answer call t.store).1.mapError .failed ∧
          (serve (.call call) t).2.store = (answer call t.store).2 ∨
        ∃ halt, (serve (.call call) t).1 = .error halt ∧
          (serve (.call call) t).2.store = t.store) := by
  obtain ⟨store, _ | ⟨fate, plan⟩, cancelled⟩ := t
  · exact ⟨h, .inl ⟨rfl, rfl⟩⟩
  · obtain ⟨hfate, hplan⟩ := List.forall_mem_cons.mp h
    cases fate with
    | answered cancels => exact ⟨hplan, .inl ⟨rfl, rfl⟩⟩
    | spoilt acts halt fatal cancels =>
      obtain rfl : acts = false := hfate
      exact ⟨hplan, .inr ⟨halt, rfl, rfl⟩⟩

/-- The store has an observability of this status, and no fault has an effect on it. -/
structure Shows (ns name : String) (t : Trial) (status : Option ObservabilityStatus) : Prop where
  held : ∃ obs, Holds t.store ns name obs ∧ obs.body.status = status
  harmless : ∀ fate ∈ t.plan, fate.IsHarmless

theorem records (ns name : String) : serve.Records ns name (Shows ns name) where
  patch status t old h := by
    obtain ⟨obs, hheld, hold⟩ := h.held
    obtain ⟨value, hfind, -⟩ := hheld.found
    have hanswer : (answer (.patchStatus ns name status) t.store).1 = .ok () := by
      rw [answer, change, hfind]
    obtain ⟨hharmless, ⟨hreply, hstore⟩ | ⟨halt, hreply, hstore⟩⟩ :=
      serve_of_harmless h.harmless (.patchStatus ns name status)
    · rw [hanswer] at hreply
      exact .inl ⟨hreply, ⟨_, hstore ▸ hheld.patched status, rfl⟩, hharmless⟩
    · exact .inr ⟨halt, hreply, ⟨obs, hstore ▸ hheld, hold⟩, hharmless⟩
  stages call hcall t old h := by
    obtain ⟨obs, hheld, hold⟩ := h.held
    obtain ⟨hharmless, ⟨-, hstore⟩ | ⟨-, -, hstore⟩⟩ := serve_of_harmless h.harmless call
    · exact ⟨⟨obs, hstore ▸ hheld.answer hcall, hold⟩, hharmless⟩
    · exact ⟨⟨obs, hstore ▸ hheld, hold⟩, hharmless⟩
  log _ _ _ h := h
  cancelled _ _ h := h

end Trial

/-! ## Rounds -/

namespace Controller

variable {installer : Installer (Program Cluster)} {settings : Settings} {obs : Observability}
  {ns : String} {handler : Handler Cluster σ} {shows : σ → Option ObservabilityStatus → Prop}
  {s : σ}

theorem look_asks
    (hstages : ∀ tenant, (installer.reconcile settings.config tenant).Asks Call.OfStages) :
    (look installer settings obs).Asks Call.OfStages := by
  rw [look]
  split
  · exact .bind (.log ..) fun _ => .pure _
  · exact .bind (.lift (hstages _)) fun _ => .pure _

theorem conclude_asks (finding : Finding) : (conclude settings finding).Asks Call.OfStages := by
  rcases finding with _ | ⟨_, _ | _ | _⟩
  · exact .pure _
  · exact .bind (.log ..) fun _ => .pure _
  · exact .pure _
  · exact .fail _

theorem recordStatus_shows (hclient : handler.Records ns obs.anyName shows)
    (hs : shows s obs.body.status) (status : ObservabilityStatus) :
    (recorded obs handler s ns status = .ok () ∧
        shows (Program.run handler (recordStatus obs ns status) s).2 (some status)) ∨
      ∃ halt, recorded obs handler s ns status = .error halt ∧
        shows (Program.run handler (recordStatus obs ns status) s).2 obs.body.status := by
  by_cases hsame : obs.body.status = some status
  · rw [recordStatus, if_pos hsame]
    exact .inl ⟨if_pos hsame, hclient.log _ _ _ (hsame ▸ hs)⟩
  · have hreply : recorded obs handler s ns status =
        (handler (.call (.patchStatus ns obs.anyName status)) s).1 := if_neg hsame
    rw [recordStatus, if_neg hsame, hreply]
    exact hclient.patch status s _ hs

/-- A round that tells the truth about a finding, which it has made in the state `middle`. -/
structure Truthful (installer : Installer (Program Cluster)) (settings : Settings)
    (obs : Observability) (ns : String) (handler : Handler Cluster σ)
    (shows : σ → Option ObservabilityStatus → Prop) (s middle : σ) (finding : Finding) : Prop where
  /-- Where the spec has a fault, the stages make no difference. -/
  unrun : ∀ error, Tenant.ofObservability obs settings.config = .error error →
    ∀ other, reconcile other settings obs = reconcile installer settings obs
  visits : Program.visits handler (reconcile installer settings obs) s =
    stageVisits installer settings obs handler s ++ patches obs middle ns finding.status
  patched : (Program.visits handler (reconcile installer settings obs) s).filter (·.1.isPatch) =
    patches obs middle ns finding.status
  spared : ∀ visit ∈ Program.visits handler (reconcile installer settings obs) s,
    visit.1.isFinalizing = false
  /-- A patch that fails comes first, whatever was found. -/
  result : (Program.run handler (reconcile installer settings obs) s).1 =
    (recorded obs handler middle ns finding.status).bind fun _ => finding.result settings
  told : recorded obs handler middle ns finding.status = .ok () →
    shows (Program.run handler (reconcile installer settings obs) s).2 (some finding.status)
  kept : ∀ halt, recorded obs handler middle ns finding.status = .error halt →
    shows (Program.run handler (reconcile installer settings obs) s).2 obs.body.status

theorem install_shows (hclient : handler.Records ns obs.anyName shows)
    (hstages : ∀ tenant, (installer.reconcile settings.config tenant).Asks Call.OfStages)
    (hs : shows s obs.body.status) :
    let middle := looked installer settings obs handler s
    let status := (finding installer settings obs handler s).status
    let after := (Program.run handler (install installer settings obs ns) s).2
    (recorded obs handler middle ns status = .ok () ∧ shows after (some status)) ∨
      ∃ halt, recorded obs handler middle ns status = .error halt ∧
        shows after obs.body.status := by
  intro middle status after
  have hmiddle : shows middle obs.body.status := hclient.run (look_asks hstages) hs
  have hrecord := recordStatus_result obs handler middle ns status
  rcases recordStatus_shows hclient hmiddle status with ⟨hok, hshown⟩ | ⟨halt, hhalt, hkept⟩
  · have hrun : Program.run handler (recordStatus obs ns status) middle = (.ok (), _) :=
      Prod.ext (hrecord.trans hok) rfl
    refine .inl ⟨hok, ?_⟩
    show shows (Program.run handler (install installer settings obs ns) s).2 _
    rw [install_run, Task.run_bind_ok hrun]
    exact hclient.run (conclude_asks _) hshown
  · have hrun : Program.run handler (recordStatus obs ns status) middle = (.error halt, _) :=
      Prod.ext (hrecord.trans hhalt) rfl
    refine .inr ⟨halt, hhalt, ?_⟩
    show shows (Program.run handler (install installer settings obs ns) s).2 _
    rw [install_run, Task.run_bind, hrun]
    exact hkept

theorem stageVisits_asks
    (hstages : ∀ tenant, (installer.reconcile settings.config tenant).Asks Call.OfStages) :
    ∀ visit ∈ stageVisits installer settings obs handler s, visit.1.OfStages := by
  rw [stageVisits]
  split
  · exact fun _ hmem => absurd hmem List.not_mem_nil
  · exact (hstages _).visits handler s

theorem filter_patches (middle : σ) (status : ObservabilityStatus) :
    (patches obs middle ns status).filter (·.1.isPatch) = patches obs middle ns status := by
  rw [patches]
  split <;> rfl

theorem isFinalizing_of_mem_patches {middle : σ} {status : ObservabilityStatus}
    {visit : Call × σ} (hmem : visit ∈ patches obs middle ns status) :
    visit.1.isFinalizing = false := by
  rw [patches] at hmem
  split at hmem
  · exact absurd hmem List.not_mem_nil
  · rw [List.mem_singleton.mp hmem]
    rfl

/-- A round on a live observability that has the finalizer tells the truth. -/
theorem reconcile_truthful (settings : Settings) (hclient : handler.Records ns obs.anyName shows)
    (hstages : ∀ tenant, (installer.reconcile settings.config tenant).Asks Call.OfStages)
    (hplace : obs.metadata.ns = some ns) (hlive : obs.metadata.deletionTimestamp = none)
    (hfinalizer : obs.metadata.hasFinalizer finalizer) (hs : shows s obs.body.status) :
    Truthful installer settings obs ns handler shows s (looked installer settings obs handler s)
      (finding installer settings obs handler s) := by
  have hround (other : Installer (Program Cluster)) :
      reconcile other settings obs = install other settings obs ns :=
    reconcile_of_live hplace hlive hfinalizer
  have hvisits := install_visits installer settings obs handler s ns
  have hofStages : ∀ visit ∈ stageVisits installer settings obs handler s, visit.1.OfStages :=
    stageVisits_asks hstages
  have hshows := install_shows hclient hstages hs
  constructor
  case unrun =>
    intro error herror other
    rw [hround, hround, install, install, herror]
  case visits => rw [hround, hvisits]
  case patched =>
    have hnone : (stageVisits installer settings obs handler s).filter (·.1.isPatch) = [] := by
      refine List.filter_eq_nil_iff.mpr fun visit hmem => Bool.eq_false_iff.mp ?_
      exact (hofStages visit hmem).records_nothing.1
    rw [hround, hvisits, List.filter_append, hnone, filter_patches, List.nil_append]
  case spared =>
    rw [hround, hvisits]
    intro visit hmem
    rcases List.mem_append.mp hmem with hmem | hmem
    · exact (hofStages visit hmem).records_nothing.2
    · exact isFinalizing_of_mem_patches hmem
  case result => rw [hround, install_result]
  case told =>
    intro hok
    rw [hround]
    rcases hshows with ⟨-, hshown⟩ | ⟨halt, hhalt, -⟩
    · exact hshown
    · cases hok.symm.trans hhalt
  case kept =>
    intro halt hhalt
    rw [hround]
    rcases hshows with ⟨hok, -⟩ | ⟨other, -, hkept⟩
    · cases hok.symm.trans hhalt
    · exact hkept

theorem shows_struggling (plan : List Fate) (hplan : ∀ fate ∈ plan, fate.IsHarmless) :
    Trial.Shows "grafana" "tenant" ⟨[strugglingTenant.stored], plan, false⟩
      strugglingTenant.body.status := by
  have hsound : Store.Sound [strugglingTenant.stored] :=
    ⟨by decide, List.forall_mem_singleton.mpr (Entry.sound_stored _)⟩
  have hheld : Holds [strugglingTenant.stored] "grafana" "tenant" strugglingTenant :=
    .of_json hsound rfl (by decide) strugglingTenant_regular
  exact ⟨⟨strugglingTenant, hheld, rfl⟩, hplan⟩

/-- The first call of the stages is lost, and that is told unless the patch that tells it is lost
too. -/
theorem reconcile_truthful_of_lost_call :
    let lost : Fate := .spoilt false (.failed (.internal "store" "unavailable")) rfl false
    let denied : Fate := .spoilt false (.failed (.internal "status" "denied")) rfl false
    let round (plan : List Fate) : Except Halt Action × Trial :=
      Program.run Trial.serve (reconcile Installer.grafana {} strugglingTenant)
        ⟨[strugglingTenant.stored], plan, false⟩
    (round [lost]).1 = .error (.failed (.internal "store" "unavailable")) ∧
      Trial.Shows "grafana" "tenant" (round [lost]).2
        (some ⟨"migration", .failed, "internal error [store]: unavailable"⟩) ∧
      (round [lost, denied]).1 = .error (.failed (.internal "status" "denied")) ∧
      Trial.Shows "grafana" "tenant" (round [lost, denied]).2 strugglingTenant.body.status := by
  intro lost denied round
  have hstages (tenant : Tenant) :
      (Installer.grafana.reconcile {} tenant).Asks Call.OfStages :=
    (installation_givesUp {} tenant).asks.mono fun _ => InstallCall.ofStages
  have hfinalizer : strugglingTenant.metadata.hasFinalizer finalizer := by decide
  have hclient := Trial.records "grafana" "tenant"
  have htold := reconcile_truthful {} hclient hstages rfl rfl hfinalizer
    (shows_struggling [lost] (by simp [lost, Fate.IsHarmless]))
  have hkept := reconcile_truthful {} hclient hstages rfl rfl hfinalizer
    (shows_struggling [lost, denied] (by simp [lost, denied, Fate.IsHarmless]))
  exact ⟨htold.result, htold.told rfl, hkept.result, hkept.kept _ rfl⟩

end Controller

end GrafanaInstall
