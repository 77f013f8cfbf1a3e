import GrafanaInstall.Proofs.Controller.Status
import GrafanaInstall.Proofs.Install.Isolation

/-!
# The namespace of a round

A round asks for nothing outside the namespace of its observability, and applies only what a version
that is not blank asks for. It refuses an observability that has no namespace. One whose namespace
is empty it does not refuse, and but for a few that need nothing it makes calls for it.
-/

namespace GrafanaInstall

open Program

/-! ## Tenants -/

def Object.version (obs : Observability) (config : InstallConfig) : String :=
  obs.body.spec.grafanaOperatorVersion.getD config.defaultVersion

def Error.namespaceRequired (obs : Observability) : Error :=
  .validation obs.anyName "metadata.namespace is required"

theorem Text.isBlank_eq_false_iff {text : String} :
    isBlank text = false ↔ ∃ c ∈ text.toList, isSpace c = false :=
  List.all_eq_false.trans (by simp)

namespace Tenant

variable {obs : Observability} {config : InstallConfig}

theorem of_ok {tenant : Tenant} (h : ofObservability obs config = .ok tenant) :
    obs.metadata.ns = some tenant.ns ∧ tenant.ns ≠ "" ∧ tenant.version = obs.version config ∧
      Text.isBlank tenant.version = false := by
  rw [ofObservability] at h
  split at h
  · cases h
  · rename_i ns hns
    obtain ⟨hplace, hne⟩ := Option.filter_eq_some_iff.mp hns
    dsimp only at h
    split at h
    · cases h
    · rename_i hblank
      cases h
      exact ⟨hplace, of_decide_eq_true hne, rfl, Bool.eq_false_iff.mpr hblank⟩

theorem ofObservability_of_empty (config : InstallConfig) (h : obs.metadata.ns = some "") :
    ofObservability obs config = .error (.namespaceRequired obs) := by
  rw [ofObservability, h]
  rfl

end Tenant

/-! ## Calls -/

/-- What a round may ask for in its namespace. -/
inductive RoundCall (config : InstallConfig) (obs : Observability) (ns : String) : Call → Prop
  | install {tenant : Tenant} {call : Call}
      (htenant : Tenant.ofObservability obs config = .ok tenant)
      (h : InstallCall config tenant call) : RoundCall config obs ns call
  | remove {call : Call} (h : RemovalCall ns call) : RoundCall config obs ns call
  | record (status : ObservabilityStatus) :
    RoundCall config obs ns (.patchStatus ns obs.anyName status)
  | hold : RoundCall config obs ns (.addFinalizer ns obs.anyName Controller.finalizer)
  | release : RoundCall config obs ns (.removeFinalizer ns obs.anyName Controller.finalizer)

/-- If it is an apply, its object comes of a version that is not blank, just as that was asked
for. -/
def Call.Wanted (config : InstallConfig) (obs : Observability) : Call → Prop
  | .apply k desired =>
    (∃ c ∈ (obs.version config).toList, Text.isSpace c = false) ∧
      ∃ tenant : Tenant, obs.metadata.ns = some tenant.ns ∧
        tenant.version = obs.version config ∧ SettlingCall config tenant (.apply k desired)
  | _ => True

theorem InstallCall.settlingCall {config : InstallConfig} {tenant : Tenant} {desired : Object k}
    (h : InstallCall config tenant (.apply k desired)) :
    SettlingCall config tenant (.apply k desired) := by
  cases h with
  | catalogSource => exact .catalogSource
  | subscription => exact .subscription
  | operatorGroup => exact .operatorGroup

namespace RoundCall

variable {config : InstallConfig} {obs : Observability} {ns : String} {call : Call}

theorem ns_eq (hns : obs.metadata.ns = some ns) (h : RoundCall config obs ns call) :
    obs.metadata.ns = some call.ns := by
  cases h with
  | install htenant h => rw [h.ns_eq, (Tenant.of_ok htenant).1]
  | remove h => rw [h.ns_eq, hns]
  | record | hold | release => exact hns

theorem wanted (h : RoundCall config obs ns call) : call.Wanted config obs := by
  cases h with
  | @install tenant call htenant h =>
    obtain ⟨hplace, -, hversion, hblank⟩ := Tenant.of_ok htenant
    rw [hversion] at hblank
    cases call with
    | apply k desired =>
      exact ⟨Text.isBlank_eq_false_iff.mp hblank, tenant, hplace, hversion, h.settlingCall⟩
    | list | delete | patchStatus | addFinalizer | removeFinalizer => exact trivial
  | remove h => cases h <;> exact trivial
  | record | hold | release => exact trivial

end RoundCall

/-! ## Rounds -/

namespace Controller

variable {settings : Settings} {obs : Observability} {ns : String}

theorem finish_asks :
    (finish Installer.grafana settings obs ns).Asks (RoundCall settings.config obs ns) := by
  let tenant : Tenant := { ns, version := settings.config.defaultVersion }
  have hremove : (Installer.removal settings.config tenant).Asks
      (RoundCall settings.config obs ns) :=
    (removal_givesUp settings.config tenant).asks.mono fun _ => .remove
  rw [finish]
  split
  · exact .pure _
  · refine .bind (.lift hremove) fun report => ?_
    split
    · exact .bind (.log ..) fun _ => .bind (.call .release) fun _ => .pure _
    · exact .pure _
    · exact .fail _

theorem reconcile_asks (hns : obs.metadata.ns = some ns) :
    (reconcile Installer.grafana settings obs).Asks (RoundCall settings.config obs ns) := by
  rw [reconcile, hns]
  dsimp only
  split
  · exact finish_asks
  · split
    · exact install_asks settings (fun _ htenant _ => .install htenant) .record
    · exact .bind (.log ..) fun _ => .bind (.call .hold) fun _ => .pure _

variable (settings) (obs) (handler : Handler Cluster σ) (s : σ)

def visits : List (Call × σ) :=
  Program.visits handler (reconcile Installer.grafana settings obs) s

def result : Except Halt Action :=
  (Program.run handler (reconcile Installer.grafana settings obs) s).1

/-- A round that makes no call without a namespace, applies nothing for a blank version, and refuses
what has no namespace. -/
structure Proper : Prop where
  named : ∀ visit ∈ visits settings obs handler s, visit.1.ns ≠ ""
  wanted : ∀ visit ∈ visits settings obs handler s, visit.1.Wanted settings.config obs
  refused : obs.metadata.ns.getD "" = "" →
    result settings obs handler s = .error (.failed (.namespaceRequired obs)) ∧
      visits settings obs handler s = []

/-- There is nothing to ask for: the observability is not held back from its deletion, or the run is
cancelled before it begins, or what is wrong with it has been recorded. -/
def NothingToAsk : Prop :=
  if obs.metadata.deletionTimestamp.isSome then
    obs.metadata.hasFinalizer finalizer = false ∨ (handler .cancelled s).1 = true
  else
    obs.metadata.hasFinalizer finalizer = true ∧ obs.body.status =
      some { stageStatus := .failed, message := (Error.namespaceRequired obs).message }

variable {settings obs handler s}

theorem visits_mem (hns : obs.metadata.ns = some ns) {visit : Call × σ}
    (hmem : visit ∈ visits settings obs handler s) : RoundCall settings.config obs ns visit.1 :=
  Program.Asks.visits (reconcile_asks hns) handler s visit hmem

theorem refused_of_missing (hns : obs.metadata.ns = none) :
    result settings obs handler s = .error (.failed (.namespaceRequired obs)) ∧
      visits settings obs handler s = [] := by
  rw [result, visits, reconcile, hns]
  exact ⟨rfl, rfl⟩

theorem finish_of_cancelled (settings : Settings) (ns : String)
    (hfinalizer : obs.metadata.hasFinalizer finalizer = true)
    (h : (handler .cancelled s).1 = true) :
    Program.visits handler (finish Installer.grafana settings obs ns) s = [] ∧
      (Program.run handler (finish Installer.grafana settings obs ns) s).1 =
        .error (.failed (.cancelled Teardown.stage.name)) := by
  rw [finish, hfinalizer]
  exact ⟨visits_cancelled h _, congrArg Prod.fst (run_cancelled h _)⟩

theorem finish_visits_ne_nil (settings : Settings) (ns : String)
    (hfinalizer : obs.metadata.hasFinalizer finalizer = true)
    (h : (handler .cancelled s).1 = false) :
    Program.visits handler (finish Installer.grafana settings obs ns) s ≠ [] := by
  rw [finish, hfinalizer]
  exact fun hnil => List.cons_ne_nil _ _ ((visits_cancelled h _).symm.trans hnil)

theorem patches_eq_nil_iff {status : ObservabilityStatus} :
    patches obs s ns status = [] ↔ obs.body.status = some status := by
  rw [patches]
  split
  · exact iff_of_true rfl ‹_›
  · exact iff_of_false (List.cons_ne_nil _ _) ‹_›

/-- An empty namespace is not refused: there is nothing to ask for, or calls are made for it. -/
theorem of_empty (hns : obs.metadata.ns = some "") :
    (visits settings obs handler s = [] ↔ NothingToAsk obs handler s) ∧
      (visits settings obs handler s = [] →
        result settings obs handler s ≠ .error (.failed (.namespaceRequired obs))) := by
  rw [visits, result, reconcile, NothingToAsk, hns]
  dsimp only
  split
  · cases hfinalizer : obs.metadata.hasFinalizer finalizer with
    | false =>
      rw [finish, hfinalizer]
      refine ⟨iff_of_true rfl (.inl rfl), fun _ hresult => ?_⟩
      cases hresult
    | true =>
      cases hcancelled : (handler .cancelled s).1 with
      | true =>
        obtain ⟨hvisits, hfailed⟩ := finish_of_cancelled settings "" hfinalizer hcancelled
        refine ⟨iff_of_true hvisits (.inr rfl), fun _ hresult => ?_⟩
        cases hfailed.symm.trans hresult
      | false =>
        have hvisits := finish_visits_ne_nil settings "" hfinalizer hcancelled
        exact ⟨iff_of_false hvisits (by simp), fun hnil => absurd hnil hvisits⟩
  · cases hfinalizer : obs.metadata.hasFinalizer finalizer with
    | false =>
      have hvisits : Program.visits handler (do
          Cluster.log .info "adding finalizer" []
          Cluster.call (.addFinalizer "" obs.anyName finalizer)
          return .requeue finalizerDelay : Task Cluster Action) s ≠ [] := List.cons_ne_nil _ _
      exact ⟨iff_of_false hvisits (by simp), fun hnil => absurd hnil hvisits⟩
    | true =>
      have herror := Tenant.ofObservability_of_empty settings.config hns
      rw [if_pos rfl, install_visits, install_result, stageVisits, finding, herror]
      dsimp only
      rw [List.nil_append, patches_eq_nil_iff]
      refine ⟨(and_iff_right rfl).symm, fun hsame hresult => ?_⟩
      have hrecorded : recorded obs handler (looked Installer.grafana settings obs handler s) ""
          (Finding.invalid (.namespaceRequired obs)).status = .ok () := if_pos hsame
      rw [hrecorded] at hresult
      cases hresult

/-- Calls are made in the namespace of the observability, and applies for a version that is not
blank. Just the rounds of an observability with an empty namespace are not proper, since they make
calls for it unless they need none. -/
theorem proper_iff (settings : Settings) (obs : Observability) (handler : Handler Cluster σ)
    (s : σ) :
    (∀ visit ∈ visits settings obs handler s,
      obs.metadata.ns = some visit.1.ns ∧ visit.1.Wanted settings.config obs) ∧
      (Proper settings obs handler s ↔ obs.metadata.ns ≠ some "") ∧
      (obs.metadata.ns = some "" →
        (visits settings obs handler s = [] ↔ NothingToAsk obs handler s)) := by
  have hmade : ∀ visit ∈ visits settings obs handler s,
      obs.metadata.ns = some visit.1.ns ∧ visit.1.Wanted settings.config obs := by
    intro visit hmem
    cases hns : obs.metadata.ns with
    | none =>
      rw [(refused_of_missing hns).2] at hmem
      exact absurd hmem List.not_mem_nil
    | some ns =>
      have hcall := visits_mem hns hmem
      exact ⟨hns ▸ hcall.ns_eq hns, hcall.wanted⟩
  refine ⟨hmade, ⟨fun hproper hns => ?_, fun hne => ?_⟩, fun hns => (of_empty hns).1⟩
  · obtain ⟨hresult, hvisits⟩ := hproper.refused (by rw [hns, Option.getD_some])
    exact (of_empty hns).2 hvisits hresult
  · constructor
    case named =>
      intro visit hmem hempty
      exact hne ((hmade visit hmem).1.trans (congrArg some hempty))
    case wanted => exact fun visit hmem => (hmade visit hmem).2
    case refused =>
      intro hns
      cases hplace : obs.metadata.ns with
      | none => exact refused_of_missing hplace
      | some ns =>
        rw [hplace, Option.getD_some] at hns
        exact absurd (hplace.trans (congrArg some hns)) hne

def unplacedTenant : Observability where
  metadata := { name := "observability", ns := "" }
  body := { spec := {} }

/-- The first round of an observability with an empty namespace asks for a finalizer on it. -/
theorem proper_iff_unplaced :
    let store : Store := [unplacedTenant.stored]
    ¬Proper {} unplacedTenant Memory.serve store ∧
      (visits {} unplacedTenant Memory.serve store).map Prod.fst =
        [.addFinalizer "" "observability" finalizer] ∧
      result {} unplacedTenant Memory.serve store = .ok (.requeue finalizerDelay) := by
  intro store
  obtain ⟨-, hproper, -⟩ := proper_iff {} unplacedTenant Memory.serve store
  exact ⟨fun h => hproper.mp h rfl, rfl, rfl⟩

end Controller

end GrafanaInstall
