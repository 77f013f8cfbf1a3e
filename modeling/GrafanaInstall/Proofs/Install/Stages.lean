import GrafanaInstall.Proofs.Install.GivesUp

/-!
# Stages on sound stores

One spec for each stage: how it ends, the calls it makes, and the store it leaves, all read off the
store that it starts from.
-/

namespace GrafanaInstall

open Memory

/-! ## What a stage looks for -/

namespace Store

/-- The subscription of the former install, if it is still there. -/
def legacy? (store : Store) (ns : String) : Option Subscription :=
  (store.held .subscription (keyOf .subscription ns subscriptionName)).filter isLegacySubscription

/-- The version record that goes with the former install. -/
def record? (store : Store) (ns : String) : Option ClusterServiceVersion :=
  (store.view .clusterServiceVersion ns).find? (isVersionRecordName ·.anyName)

theorem record?_erase (store : Store) (ns name : String) :
    (store.erase (keyOf .subscription ns name)).record? ns = store.record? ns :=
  congrArg (List.find? _) (view_erase_of_ne store (by decide) ..)

def isReady (store : Store) (ns : String) : Bool :=
  (store.view .deployment ns).any Readiness.isReady

/-- Some deployment has a name that starts like that of the grafana operator, and a ready pod. -/
def HasReady (store : Store) (ns : String) : Prop :=
  ∃ d ∈ store.view .deployment ns, deploymentName.toList <+: d.anyName.toList ∧
    ∃ n, d.body.status.bind (·.readyReplicas) = some n ∧ 0 < n

theorem hasStem_iff {stem name : String} : hasStem stem name ↔ stem.toList <+: name.toList :=
  List.isPrefixOf_iff_prefix

theorem pos_getD (n : Option Int32) : 0 < n.getD 0 ↔ ∃ m, n = some m ∧ 0 < m := by
  cases n <;> simp

theorem isReady_iff {store : Store} {ns : String} : store.isReady ns ↔ store.HasReady ns := by
  simp only [isReady, HasReady, List.any_eq_true, Readiness.isReady, Bool.and_eq_true,
    Readiness.isCandidate, hasStem_iff, Readiness.readyReplicas]
  refine exists_congr fun d => and_congr_right fun _ => and_congr_right fun _ => ?_
  exact decide_eq_true_iff.trans (pos_getD _)

theorem filter_legacy {store : Store} (h : store.Sound) (ns : String) :
    (store.view .subscription ns).filter isLegacySubscription = (store.legacy? ns).toList := by
  have named : (store.view .subscription ns).filter isLegacySubscription =
      ((store.view .subscription ns).filter (·.anyName = subscriptionName)).filter
        isLegacySubscription := by
    rw [List.filter_filter]
    refine List.filter_congr fun s _ => ?_
    cases hs : isLegacySubscription s <;> simp [Legacy.anyName_of_legacy, hs]
  rw [named, filter_view h, legacy?]
  cases store.held .subscription (keyOf .subscription ns subscriptionName) <;>
    simp [Option.filter, List.filter_cons, apply_ite]

theorem held_of_legacy {store : Store} {ns : String} {s : Subscription}
    (h : store.legacy? ns = some s) :
    store.held .subscription (keyOf .subscription ns subscriptionName) = some s ∧
      isLegacySubscription s := by
  simpa [legacy?, Option.filter_eq_some_iff] using h

theorem held_of_record {store : Store} (h : store.Sound) {ns : String}
    {record : ClusterServiceVersion} (hrecord : store.record? ns = some record) :
    store.held .clusterServiceVersion (keyOf .clusterServiceVersion ns record.anyName) =
      some record :=
  (mem_view h).mp (List.mem_of_find?_eq_some hrecord)

end Store

/-! ## Stages -/

variable {handler : Handler Cluster σ} {store : σ → Store} {s : σ}
variable {w : Watched} {config : InstallConfig} {tenant : Tenant}

namespace Legacy

theorem run_of_none (h : handler.Undisturbed store) (hsound : (store s).Sound) {ns : String}
    (hlegacy : (store s).legacy? ns = none) :
    Program.run handler (remove ns) s =
      (.ok .success, (handler (.call (.list .subscription ns)) s).2) := by
  rw [remove, Task.run_bind, h.run_list hsound]
  simp only [Store.filter_legacy hsound, hlegacy, Option.toList_none]
  exact Task.run_bind_ok (h.run_log ..) _

theorem removeSubscription_run (h : handler.Undisturbed store) {ns : String} {former : Subscription}
    (hheld : (store s).held .subscription (keyOf .subscription ns former.anyName) = some former) :
    Program.run handler (removeSubscription ns former) s =
      (.ok (), (handler (.call (.delete .subscription ns former.anyName)) s).2) := by
  rw [removeSubscription, Task.run_bind, h.run_deleteIfPresent hheld]
  exact h.run_log ..

theorem removeVersionRecord_run (h : handler.Undisturbed store) (hsound : (store s).Sound)
    {ns : String}
    (hlist : store (handler (.call (.list .clusterServiceVersion ns)) s).2 = store s) :
    Program.run handler (removeVersionRecord ns) s =
      let listed := (handler (.call (.list .clusterServiceVersion ns)) s).2
      match (store s).record? ns with
      | none => (.ok .success, listed)
      | some record =>
        (.ok .inProgress,
          (handler (.call (.delete .clusterServiceVersion ns record.anyName)) listed).2) := by
  rw [removeVersionRecord, Task.run_bind, h.run_list hsound]
  cases hrecord : (store s).record? ns with
  | none =>
    rw [Store.record?] at hrecord
    simp only [hrecord]
    exact Task.run_bind_ok (h.run_log ..) _
  | some record =>
    have hheld := Store.held_of_record hsound hrecord
    rw [Store.record?] at hrecord
    simp only [hrecord]
    rw [Task.run_bind, h.run_deleteIfPresent (hlist.symm ▸ hheld)]
    exact Task.run_bind_ok (h.run_log ..) _

/-- The subscription of the former install goes, and only then are the records looked at. -/
def bared (handler : Handler Cluster σ) (ns : String) (s : σ) : σ :=
  let listed := (handler (.call (.list .subscription ns)) s).2
  (handler (.call (.delete .subscription ns subscriptionName)) listed).2

theorem run_of_some (h : handler.Undisturbed store) (hsound : (store s).Sound) {ns : String}
    {former : Subscription} (hlegacy : (store s).legacy? ns = some former)
    (hlist : store (handler (.call (.list .subscription ns)) s).2 = store s)
    (hbared : store (bared handler ns s) =
      (store s).erase (keyOf .subscription ns subscriptionName))
    (hlook : store (handler (.call (.list .clusterServiceVersion ns)) (bared handler ns s)).2 =
      store (bared handler ns s)) :
    Program.run handler (remove ns) s =
      let looked := (handler (.call (.list .clusterServiceVersion ns)) (bared handler ns s)).2
      match (store s).record? ns with
      | none => (.ok .success, looked)
      | some record =>
        (.ok .inProgress,
          (handler (.call (.delete .clusterServiceVersion ns record.anyName)) looked).2) := by
  obtain ⟨hheld, hformer⟩ := Store.held_of_legacy hlegacy
  have hname := anyName_of_legacy hformer
  have hremoved : Program.run handler ([former].forM (removeSubscription ns) : Task Cluster _)
      (handler (.call (.list .subscription ns)) s).2 = (.ok (), bared handler ns s) := by
    have hone := removeSubscription_run h (hlist.symm ▸ hname.symm ▸ hheld)
    rw [hname] at hone
    exact Task.run_bind_ok hone _
  -- The records are listed only now, but they are still those of the store at the start.
  have hrecord : (store (bared handler ns s)).record? ns = (store s).record? ns := by
    rw [hbared, Store.record?_erase]
  rw [remove, Task.run_bind, h.run_list hsound]
  simp only [Store.filter_legacy hsound, hlegacy, Option.toList_some]
  rw [Task.run_bind_ok hremoved, ← hrecord]
  exact removeVersionRecord_run h (hbared.symm ▸ hsound.erase _) hlook

/-- The calls up to the look at the records, as they are watched. -/
def withoutSubscription (ns : String) (w : Watched) : Watched :=
  let w := w.after (.list .subscription ns) w.store
  let w := w.after (.delete .subscription ns subscriptionName)
    (w.store.erase (keyOf .subscription ns subscriptionName))
  w.after (.list .clusterServiceVersion ns) w.store

theorem remove_of_some (h : w.store.Sound) {ns : String} {former : Subscription}
    (hlegacy : w.store.legacy? ns = some former) :
    Program.run Watched.serve (remove ns) w =
      match w.store.record? ns with
      | none => (.ok .success, withoutSubscription ns w)
      | some record =>
        (.ok .inProgress, (withoutSubscription ns w).after
          (.delete .clusterServiceVersion ns record.anyName)
          ((w.store.erase (keyOf .subscription ns subscriptionName)).erase
            (keyOf .clusterServiceVersion ns record.anyName))) := by
  have hdelete (k : Kind) (name : String) (w : Watched) :
      (Watched.serve (.call (.delete k ns name)) w).2 =
        w.after (.delete k ns name) (w.store.erase (keyOf k ns name)) :=
    congrArg (w.after _) (delete_store ..)
  have hbared : bared Watched.serve ns w = (w.after (.list .subscription ns) w.store).after
      (.delete .subscription ns subscriptionName)
      (w.store.erase (keyOf .subscription ns subscriptionName)) := hdelete ..
  have hlooked : (Watched.serve (.call (.list .clusterServiceVersion ns))
      (bared Watched.serve ns w)).2 = withoutSubscription ns w := by
    rw [hbared]
    rfl
  rw [run_of_some Watched.undisturbed h hlegacy rfl (congrArg Watched.store hbared) rfl, hlooked]
  cases w.store.record? ns with
  | none => rfl
  | some record => exact congrArg (Prod.mk _) (hdelete ..)

end Legacy

namespace Objects

theorem applyCatalogSource_run (h : handler.Undisturbed store) (hsound : (store s).Sound)
    (config : InstallConfig) (tenant : Tenant) :
    Program.run handler (applyCatalogSource config tenant) s =
      (.ok .success, (handler (.call (.apply _ (tenant.catalogSource config))) s).2) := by
  obtain ⟨result, hrun⟩ := h.run_apply hsound (tenant.catalogSource config)
  rw [applyCatalogSource, Task.run_bind, hrun]
  exact Task.run_bind_ok (h.run_log ..) _

theorem applySubscription_run (h : handler.Undisturbed store) (hsound : (store s).Sound)
    (tenant : Tenant) :
    Program.run handler (applySubscription tenant) s =
      (.ok .success, (handler (.call (.apply _ tenant.subscription)) s).2) := by
  obtain ⟨result, hrun⟩ := h.run_apply hsound tenant.subscription
  rw [applySubscription, Task.run_bind, hrun]
  exact Task.run_bind_ok (h.run_log ..) _

def withGroup (tenant : Tenant) (w : Watched) : Watched :=
  let listed := w.after (.list .operatorGroup tenant.ns) w.store
  if w.store.view .operatorGroup tenant.ns = [] then
    listed.after (.apply _ tenant.operatorGroup) (applied tenant.operatorGroup w.store)
  else listed

theorem ensureOperatorGroup_spec (h : w.store.Sound) (tenant : Tenant) :
    Program.run Watched.serve (ensureOperatorGroup tenant) w =
      (.ok .success, withGroup tenant w) := by
  rw [ensureOperatorGroup, Task.run_bind, Watched.run_list h, withGroup]
  cases w.store.view .operatorGroup tenant.ns with
  | cons => rfl
  | nil =>
    let listed := w.after (.list .operatorGroup tenant.ns) w.store
    obtain ⟨result, hrun⟩ := Watched.run_apply (w := listed) h tenant.operatorGroup
    show Program.run Watched.serve ((do
      let result ← Cluster.apply tenant.operatorGroup
      Cluster.log .info "operator group reconciled"
        [("namespace", .string tenant.ns), ("result", .string result.text)]
      return .success) : Task Cluster Progress) listed = _
    rw [Task.run_bind, hrun]
    rfl

end Objects

namespace Readiness

theorem check_spec (h : w.store.Sound) (ns : String) :
    Program.run Watched.serve (check ns) w =
      (.ok (if w.store.isReady ns then .success else .inProgress),
        w.after (.list .deployment ns) w.store) := by
  rw [check, Task.run_bind, Watched.run_list h, Store.isReady, ← List.isSome_find?]
  cases hfind : (w.store.view .deployment ns).find? isReady with
  | none => simp only [hfind]; rfl
  | some deployment => simp only [hfind]; rfl

end Readiness

/-! ## The installation -/

def Objects.withBoth (config : InstallConfig) (tenant : Tenant) (w : Watched) : Watched :=
  let w := w.after (.apply _ (tenant.catalogSource config))
    (applied (tenant.catalogSource config) w.store)
  w.after (.apply _ tenant.subscription) (applied tenant.subscription w.store)

def settling (config : InstallConfig) (tenant : Tenant) (w : Watched) : Watched :=
  let w := Objects.withGroup tenant (Objects.withBoth config tenant w)
  w.after (.list .deployment tenant.ns) w.store

def Objects.placed (config : InstallConfig) (tenant : Tenant) (store : Store) : Store :=
  applied tenant.subscription (applied (tenant.catalogSource config) store)

def settled (config : InstallConfig) (tenant : Tenant) (store : Store) : Store :=
  let store := Objects.placed config tenant store
  if store.view .operatorGroup tenant.ns = [] then applied tenant.operatorGroup store else store

theorem Objects.placed_sound {store : Store} (h : store.Sound) (config : InstallConfig)
    (tenant : Tenant) : (placed config tenant store).Sound :=
  applied_sound (applied_sound h _) _

theorem Objects.withGroup_store (tenant : Tenant) (w : Watched) :
    (withGroup tenant w).store =
      if w.store.view .operatorGroup tenant.ns = [] then applied tenant.operatorGroup w.store
      else w.store :=
  apply_ite Watched.store ..

theorem settling_store (config : InstallConfig) (tenant : Tenant) (w : Watched) :
    (settling config tenant w).store = settled config tenant w.store :=
  Objects.withGroup_store tenant _

theorem Objects.withGroup_sound (h : w.store.Sound) (tenant : Tenant) :
    (withGroup tenant w).store.Sound := by
  rw [withGroup_store]
  split
  · exact applied_sound h _
  · exact h

theorem settled_sound {store : Store} (h : store.Sound) (config : InstallConfig)
    (tenant : Tenant) : (settled config tenant store).Sound := by
  have hplaced := Objects.placed_sound h config tenant
  rw [settled]
  split
  · exact applied_sound hplaced _
  · exact hplaced

def finalReport (store : Store) (ns : String) : Report where
  stage := Readiness.stage.name
  outcome := if store.isReady ns then .success else .inProgress

theorem runFrom_readiness (h : w.store.Sound) (last : Report) :
    Program.run Watched.serve (Pipeline.runFrom config tenant last [Readiness.stage]) w =
      (finalReport w.store tenant.ns, w.after (.list .deployment tenant.ns) w.store) := by
  have hcheck := Readiness.check_spec h tenant.ns
  rw [finalReport]
  cases hready : w.store.isReady tenant.ns with
  | true =>
    rw [hready] at hcheck
    exact Watched.undisturbed.runFrom_success hcheck
  | false =>
    rw [hready] at hcheck
    exact Watched.undisturbed.runFrom_inProgress hcheck

theorem runFrom_settling (h : w.store.Sound) (config : InstallConfig) (tenant : Tenant)
    (last : Report) :
    Program.run Watched.serve (Pipeline.runFrom config tenant last (installation.drop 1)) w =
      (finalReport (settled config tenant w.store) tenant.ns, settling config tenant w) := by
  have hcatalog := applied_sound h (tenant.catalogSource config)
  have hboth := Objects.placed_sound h config tenant
  have hgroup := Objects.withGroup_sound (w := Objects.withBoth config tenant w) hboth tenant
  have hu := Watched.undisturbed
  refine (hu.runFrom_success (Objects.applyCatalogSource_run hu h config tenant)).trans ?_
  refine (hu.runFrom_success (Objects.applySubscription_run hu hcatalog tenant)).trans ?_
  refine (hu.runFrom_success (Objects.ensureOperatorGroup_spec hboth tenant)).trans ?_
  rw [← settling_store]
  exact runFrom_readiness hgroup _

theorem installation_of_none (h : w.store.Sound) (config : InstallConfig)
    (hlegacy : w.store.legacy? tenant.ns = none) :
    Program.run Watched.serve (installation.run config tenant) w =
      (finalReport (settled config tenant w.store) tenant.ns,
        settling config tenant (w.after (.list .subscription tenant.ns) w.store)) := by
  have hremove := Legacy.run_of_none Watched.undisturbed h hlegacy
  refine (Watched.undisturbed.runFrom_success hremove).trans ?_
  exact runFrom_settling (w := w.after (.list .subscription tenant.ns) w.store) h config tenant _

theorem installation_of_bare (h : w.store.Sound) (config : InstallConfig) {s : Subscription}
    (hlegacy : w.store.legacy? tenant.ns = some s) (hrecord : w.store.record? tenant.ns = none) :
    Program.run Watched.serve (installation.run config tenant) w =
      let bare := w.store.erase (keyOf .subscription tenant.ns subscriptionName)
      (finalReport (settled config tenant bare) tenant.ns,
        settling config tenant (Legacy.withoutSubscription tenant.ns w)) := by
  have hremove := Legacy.remove_of_some h hlegacy
  rw [hrecord] at hremove
  refine (Watched.undisturbed.runFrom_success hremove).trans ?_
  exact runFrom_settling (w := Legacy.withoutSubscription tenant.ns w) (h.erase _) config tenant _

theorem installation_of_record (h : w.store.Sound) (config : InstallConfig) {s : Subscription}
    {record : ClusterServiceVersion} (hlegacy : w.store.legacy? tenant.ns = some s)
    (hrecord : w.store.record? tenant.ns = some record) :
    Program.run Watched.serve (installation.run config tenant) w =
      (⟨some Legacy.stage.name, .inProgress⟩,
        (Legacy.withoutSubscription tenant.ns w).after
          (.delete .clusterServiceVersion tenant.ns record.anyName)
          ((w.store.erase (keyOf .subscription tenant.ns subscriptionName)).erase
            (keyOf .clusterServiceVersion tenant.ns record.anyName))) := by
  have hremove := Legacy.remove_of_some h hlegacy
  rw [hrecord] at hremove
  exact Watched.undisturbed.runFrom_inProgress hremove

end GrafanaInstall
