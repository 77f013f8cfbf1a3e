import GrafanaInstall.Proofs.Install.Settled

/-!
# Convergence

From any sound store two runs in a row, with nothing from outside in between, reach the desired
state. The second run always gets past every stage.
-/

namespace GrafanaInstall

open Memory

/-- What has come of a store for a tenant, and what the last run said of it. -/
structure Converged (config : InstallConfig) (tenant : Tenant) (before : Store) (report : Report)
    (after : Store) : Prop where
  stage : report.stage = some Readiness.stage.name
  catalogSource : ∃ o,
    after.held .catalogSource (keyOf .catalogSource tenant.ns catalogSourceName) = some o ∧
      o.body = (tenant.catalogSource config).body
  subscription : ∃ o,
    after.held .subscription (keyOf .subscription tenant.ns subscriptionName) = some o ∧
      o.body = tenant.subscription.body
  groups : after.view .operatorGroup tenant.ns =
    if before.view .operatorGroup tenant.ns = [] then [tenant.operatorGroup]
    else before.view .operatorGroup tenant.ns
  noLegacy : ∀ s ∈ after.view .subscription tenant.ns, ¬isLegacySubscription s
  outcome : report.outcome = .success ∧ after.HasReady tenant.ns ∨
    report.outcome = .inProgress ∧ ¬after.HasReady tenant.ns
  /-- Nothing changes but the managed objects and at most one version record. -/
  unchanged : ∃ records : List Key, records.length ≤ 1 ∧
    (∀ key ∈ records, ∃ name, versionRecordStem.toList <+: name.toList ∧
      key = keyOf .clusterServiceVersion tenant.ns name) ∧
    after.filter (·.key ∉ managedKeys tenant.ns ++ records) =
      before.filter (·.key ∉ managedKeys tenant.ns ++ records)

theorem installation_converges (config : InstallConfig) (tenant : Tenant) {store : Store}
    (h : store.Sound) :
    let first := (installation.run config tenant).run serve store
    let second := (installation.run config tenant).run serve first.2
    Converged config tenant store second.1 second.2 := by
  intro first second
  have hclear := cleared_sound h tenant.ns
  have hsettled : Settled config tenant (settled config tenant (store.cleared tenant.ns)) :=
    settled_settles hclear
  have hsound := settled_sound hclear config tenant
  have hsecond : second = (finalReport (settled config tenant (store.cleared tenant.ns)) tenant.ns,
    settled config tenant (store.cleared tenant.ns)) := two_runs h config tenant
  rw [hsecond]
  constructor
  case stage => rfl
  case catalogSource => exact hsettled.catalogSource.body (by decide) (by decide)
  case subscription => exact hsettled.subscription.body (by decide) (by decide)
  case groups =>
    rw [groups_settled hclear, view_cleared store (by decide) (by decide)]
  case noLegacy =>
    have hnone := Store.filter_legacy hsound tenant.ns
    rw [legacy?_of_inPlace hsettled.subscription] at hnone
    exact List.filter_eq_nil_iff.mp hnone
  case outcome =>
    simp only [finalReport, ← Store.isReady_iff]
    split <;> simp [*]
  case unchanged =>
    obtain ⟨records, hlength, hrecords, hfilter⟩ := filter_cleared store tenant.ns
    refine ⟨records, hlength, fun key hkey => ?_, ?_⟩
    · obtain ⟨name, hname, hkey⟩ := hrecords key hkey
      exact ⟨name, Store.hasStem_iff.mp hname, hkey⟩
    · let p (key : Key) : Bool := key ∉ managedKeys tenant.ns ++ records
      have hmanaged : ∀ key ∈ managedKeys tenant.ns, p key = false := by simp +contextual [p]
      have hgone : ∀ key ∈ records, p key = false := by simp +contextual [p]
      have hsub : p (keyOf .subscription tenant.ns subscriptionName) = false :=
        hmanaged _ (List.mem_cons_of_mem _ List.mem_cons_self)
      exact (filter_settled hclear hmanaged).trans (hfilter p hsub hgone)

/-- From a namespace with a former install, the second run is the one that settles. -/
theorem installation_converges_former :
    let tenant : Tenant := { ns := "grafana", version := "v4.2.0" }
    let first := (installation.run {} tenant).run serve formerStore
    let second := (installation.run {} tenant).run serve first.2
    formerStore.Sound ∧ Converged {} tenant formerStore second.1 second.2 :=
  ⟨formerStore_sound, installation_converges {} { ns := "grafana", version := "v4.2.0" }
    formerStore_sound⟩

end GrafanaInstall
