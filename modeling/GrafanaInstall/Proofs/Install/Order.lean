import GrafanaInstall.Proofs.Install.Clearing
import GrafanaInstall.Proofs.Install.Settled
import GrafanaInstall.Proofs.Store.Order

/-!
# Runs on reordered stores

In which order a store lists its objects makes no difference to an installation or to a removal, as
long as there is one version record of the grafana operator at most: of several, the first that is
listed would go.
-/

namespace GrafanaInstall

open Memory

variable {store other : Store}

/-! ## What is read off a list -/

namespace Store

def recordCount (store : Store) (ns : String) : Nat :=
  (store.view .clusterServiceVersion ns).countP (isVersionRecordName ·.anyName)

theorem isReady_perm (h : store.Perm other) (ns : String) : store.isReady ns = other.isReady ns :=
  (view_perm h .deployment ns).any_eq

theorem view_nil_perm (h : store.Perm other) (k : Kind) (ns : String) :
    store.view k ns = [] ↔ other.view k ns = [] := by
  have hview := view_perm h k ns
  exact ⟨fun hnil => (hnil ▸ hview).nil_eq.symm, fun hnil => (hnil ▸ hview).eq_nil⟩

theorem legacy?_perm (h : store.Perm other) (hsound : store.Sound) (ns : String) :
    store.legacy? ns = other.legacy? ns := by
  rw [legacy?, legacy?, held_perm h hsound]

theorem isDeployed_perm (h : store.Perm other) (hsound : store.Sound) (ns : String) :
    store.isDeployed ns = other.isDeployed ns := by
  rw [isDeployed, isDeployed, find?_perm h hsound.nodup]

theorem record?_perm (h : store.Perm other) {ns : String} (hone : store.recordCount ns ≤ 1) :
    store.record? ns = other.record? ns := by
  have hrecords := (view_perm h .clusterServiceVersion ns).filter (isVersionRecordName ·.anyName)
  rw [recordCount, List.countP_eq_length_filter] at hone
  rw [record?, record?, ← List.head?_filter, ← List.head?_filter]
  cases hfilter : (store.view .clusterServiceVersion ns).filter (isVersionRecordName ·.anyName) with
  | nil =>
    rw [hfilter] at hrecords
    rw [hrecords.nil_eq]
  | cons record rest =>
    rw [hfilter] at hone hrecords
    obtain rfl : rest = [] := List.eq_nil_of_length_eq_zero (by simpa using hone)
    rw [List.perm_singleton.mp hrecords.symm]

end Store

/-! ## Runs -/

/-- Two runs so far that have made the same calls, and have stores with the same entries. -/
structure Watched.Alike (v w : Watched) : Prop where
  sound : v.store.Sound
  perm : v.store.Perm w.store
  calls : v.calls = w.calls

namespace Watched.Alike

variable {v w : Watched} {tenant : Tenant}

theorem after (h : v.Alike w) (call : Call) {next next' : Store} (hsound : next.Sound)
    (hperm : next.Perm next') : (v.after call next).Alike (w.after call next') where
  sound := hsound
  perm := hperm
  calls := by rw [calls_after, calls_after, h.calls]

theorem list (h : v.Alike w) (k : Kind) (ns : String) :
    (v.after (.list k ns) v.store).Alike (w.after (.list k ns) w.store) :=
  h.after _ h.sound h.perm

theorem apply (h : v.Alike w) (desired : Object k) :
    (v.after (.apply k desired) (applied desired v.store)).Alike
      (w.after (.apply k desired) (applied desired w.store)) :=
  h.after _ (applied_sound h.sound desired) (applied_perm h.perm h.sound.nodup desired)

theorem deleted (h : v.Alike w) (k : Kind) (ns name : String) :
    (v.deleted k ns name).Alike (w.deleted k ns name) :=
  h.after _ (h.sound.erase _) (Store.erase_perm h.perm _)

theorem withGroup (h : v.Alike w) (tenant : Tenant) :
    (Objects.withGroup tenant v).Alike (Objects.withGroup tenant w) := by
  have hnil := Store.view_nil_perm h.perm .operatorGroup tenant.ns
  have hlist := h.list .operatorGroup tenant.ns
  rw [Objects.withGroup, Objects.withGroup]
  by_cases hnone : v.store.view .operatorGroup tenant.ns = []
  · rw [if_pos hnone, if_pos (hnil.mp hnone)]
    exact hlist.apply tenant.operatorGroup
  · rw [if_neg hnone, if_neg (mt hnil.mpr hnone)]
    exact hlist

theorem settling (h : v.Alike w) (config : InstallConfig) (tenant : Tenant) :
    (settling config tenant v).Alike (settling config tenant w) :=
  (((h.apply (tenant.catalogSource config)).apply tenant.subscription).withGroup tenant).list ..

theorem withoutSubscription (h : v.Alike w) (ns : String) :
    (Legacy.withoutSubscription ns v).Alike (Legacy.withoutSubscription ns w) :=
  ((h.list .subscription ns).deleted .subscription ns subscriptionName).list ..

theorem removed (h : v.Alike w) (ns : String) : (v.removed ns).Alike (w.removed ns) := by
  have hlist := (((h.deleted .catalogSource ns catalogSourceName).deleted .subscription ns
    subscriptionName).deleted .operatorGroup ns operatorGroupName).list .deployment ns
  rw [Watched.removed, Watched.removed, Store.isDeployed_perm h.perm h.sound]
  split
  · exact hlist.deleted ..
  · exact hlist

theorem finalReport_settled (h : v.Alike w) (config : InstallConfig) (tenant : Tenant) :
    finalReport (settled config tenant v.store) tenant.ns =
      finalReport (settled config tenant w.store) tenant.ns := by
  have hperm := (h.settling config tenant).perm
  rw [settling_store, settling_store] at hperm
  rw [finalReport, finalReport, Store.isReady_perm hperm]

end Watched.Alike

/-- On either of two stores, a program comes to the same. -/
structure Program.Agrees (program : Program Cluster Report) (store other : Store) : Prop where
  report : (program.run Watched.serve ⟨store, []⟩).1 = (program.run Watched.serve ⟨other, []⟩).1
  /-- All calls in turn, among them each apply and each delete. -/
  calls : (program.run Watched.serve ⟨store, []⟩).2.calls =
    (program.run Watched.serve ⟨other, []⟩).2.calls
  stores : (program.run Watched.serve ⟨store, []⟩).2.store.Perm
    (program.run Watched.serve ⟨other, []⟩).2.store

theorem Program.Agrees.of_alike {program : Program Cluster Report} {report : Report}
    {v w : Watched} (hv : program.run Watched.serve ⟨store, []⟩ = (report, v))
    (hw : program.run Watched.serve ⟨other, []⟩ = (report, w)) (h : v.Alike w) :
    program.Agrees store other where
  report := by rw [hv, hw]
  calls := by
    rw [hv, hw]
    exact h.calls
  stores := by
    rw [hv, hw]
    exact h.perm

variable {config : InstallConfig} {tenant : Tenant}

theorem Watched.Alike.start (hsound : store.Sound) (h : store.Perm other) :
    Watched.Alike ⟨store, []⟩ ⟨other, []⟩ :=
  ⟨hsound, h, rfl⟩

theorem removal_agrees (hsound : store.Sound) (h : store.Perm other) :
    (Installer.removal config tenant).Agrees store other := by
  have hstart := Watched.Alike.start hsound h
  exact .of_alike (removal_watched hsound config tenant)
    (removal_watched (hsound.perm h) config tenant) (hstart.removed tenant.ns)

theorem installation_agrees (hsound : store.Sound) (h : store.Perm other)
    (hone : store.recordCount tenant.ns ≤ 1) :
    (installation.run config tenant).Agrees store other := by
  have hother := hsound.perm h
  have hstart := Watched.Alike.start hsound h
  have hlegacy := Store.legacy?_perm h hsound tenant.ns
  have hrecord := Store.record?_perm h hone
  cases hformer : store.legacy? tenant.ns with
  | none =>
    have hrun := installation_of_none (w := ⟨store, []⟩) hsound config hformer
    have hrun' := installation_of_none (w := ⟨other, []⟩) hother config (hlegacy ▸ hformer)
    have hlisted := hstart.list .subscription tenant.ns
    have hreport := hlisted.finalReport_settled config tenant
    exact .of_alike hrun (hrun'.trans (congrArg (·, _) hreport.symm)) (hlisted.settling ..)
  | some former =>
    have hbare := hstart.withoutSubscription tenant.ns
    cases hversion : store.record? tenant.ns with
    | none =>
      have hrun := installation_of_bare (w := ⟨store, []⟩) hsound config hformer hversion
      have hrun' := installation_of_bare (w := ⟨other, []⟩) hother config (hlegacy ▸ hformer)
        (hrecord ▸ hversion)
      have hreport := hbare.finalReport_settled config tenant
      exact .of_alike hrun (hrun'.trans (congrArg (·, _) hreport.symm)) (hbare.settling ..)
    | some record =>
      have hrun := installation_of_record (w := ⟨store, []⟩) hsound config hformer hversion
      have hrun' := installation_of_record (w := ⟨other, []⟩) hother config (hlegacy ▸ hformer)
        (hrecord ▸ hversion)
      exact .of_alike hrun hrun' (hbare.deleted ..)

/-- The order in which a store lists its objects does not matter. -/
theorem order_immaterial (hsound : store.Sound) (h : store.Perm other) (config : InstallConfig)
    (tenant : Tenant) (hone : store.recordCount tenant.ns ≤ 1) :
    (Installer.grafana.reconcile config tenant).Agrees store other ∧
      (Installer.grafana.cleanup config tenant).Agrees store other :=
  ⟨installation_agrees hsound h hone, removal_agrees hsound h⟩

def runningDeployment (name : String) : Deployment where
  metadata := { name, ns := "grafana" }
  body := { status := some { readyReplicas := some 1 } }

/-- A namespace as the former install leaves it, with its operator still running beside another. -/
def runningStore : Store :=
  formerStore ++
    [(runningDeployment "grafana-operator-next").stored, (runningDeployment deploymentName).stored]

/-- Read backwards, the namespace is migrated and cleared in the same way. -/
theorem order_immaterial_backwards :
    runningStore.Sound ∧ runningStore.Perm runningStore.reverse ∧
      runningStore.recordCount "grafana" ≤ 1 ∧
      (Installer.grafana.reconcile {} ⟨"grafana", "v4.2.0", none⟩).Agrees runningStore
        runningStore.reverse ∧
      (Installer.grafana.cleanup {} ⟨"grafana", "v4.2.0", none⟩).Agrees runningStore
        runningStore.reverse := by
  have hsound : runningStore.Sound := by
    constructor
    case nodup => decide
    case entries =>
      refine List.forall_mem_append.mpr ⟨formerStore_sound.entries, ?_⟩
      exact List.forall_mem_cons.mpr
        ⟨Entry.sound_stored _, List.forall_mem_singleton.mpr (Entry.sound_stored _)⟩
  have hperm := (List.reverse_perm runningStore).symm
  have hone : runningStore.recordCount "grafana" ≤ 1 := by decide
  exact ⟨hsound, hperm, hone, order_immaterial hsound hperm {} ⟨"grafana", "v4.2.0", none⟩ hone⟩

/-- Of two records, the one that is listed first goes. -/
example :
    let newer : ClusterServiceVersion :=
      { metadata := { name := startingCsv "v3.10.0", ns := "grafana" }, body := {} }
    let store := formerStore ++ [newer.stored]
    let left (store : Store) : Store :=
      ((Installer.grafana.reconcile {} ⟨"grafana", "v4.2.0", none⟩).run serve store).2
    ¬(left store).Perm (left store.reverse) := by
  decide +kernel

end GrafanaInstall
