import GrafanaInstall.Proofs.Install.Stages

/-!
# Settled stores

A store is settled for a tenant if the desired objects are in place and there is some operator
group. The stages past the migration settle a store, and leave a settled one as it is. The
migration clears the way, and two runs come to clearing and settling.
-/

namespace GrafanaInstall

open Memory

variable {store : Store} {config : InstallConfig} {tenant : Tenant}

theorem Object.key_ne {k l : Kind} (h : k ≠ l) (o : Object k) (p : Object l) : o.key ≠ p.key :=
  keyOf_ne h

/-! ## Settling -/

structure Settled (config : InstallConfig) (tenant : Tenant) (store : Store) : Prop where
  catalogSource : InPlace (tenant.catalogSource config) store
  subscription : InPlace tenant.subscription store
  group : store.view .operatorGroup tenant.ns ≠ []

theorem Settled.settled_eq (h : Settled config tenant store) :
    settled config tenant store = store := by
  rw [settled, Objects.placed, applied_of_inPlace h.catalogSource,
    applied_of_inPlace h.subscription, if_neg h.group]

namespace Objects

theorem catalogSource_placed (h : store.Sound) :
    InPlace (tenant.catalogSource config) (placed config tenant store) :=
  (inPlace_applied h _).applied (applied_sound h _) (Object.key_ne (by decide) _ _)

theorem subscription_placed (h : store.Sound) :
    InPlace tenant.subscription (placed config tenant store) :=
  inPlace_applied (applied_sound h _) _

theorem view_placed (h : store.Sound) {k : Kind} (hcatalog : k ≠ .catalogSource)
    (hsubscription : k ≠ .subscription) (ns : String) :
    (placed config tenant store).view k ns = store.view k ns := by
  rw [placed, view_applied (applied_sound h _) _ _ hsubscription.symm,
    view_applied h _ _ hcatalog.symm]

end Objects

theorem settled_catalogSource (h : store.Sound) :
    settled config tenant (applied (tenant.catalogSource config) store) =
      settled config tenant store := by
  have hplace : Objects.placed config tenant (applied (tenant.catalogSource config) store) =
      Objects.placed config tenant store :=
    congrArg (applied tenant.subscription) (applied_of_inPlace (inPlace_applied h _))
  rw [settled, hplace, settled]

theorem settled_placed (h : store.Sound) :
    settled config tenant (Objects.placed config tenant store) = settled config tenant store := by
  have hplace : Objects.placed config tenant (Objects.placed config tenant store) =
      Objects.placed config tenant store := by
    rw [Objects.placed, applied_of_inPlace (Objects.catalogSource_placed h),
      applied_of_inPlace (Objects.subscription_placed h)]
  rw [settled, hplace, settled]

theorem groups_settled (h : store.Sound) :
    (settled config tenant store).view .operatorGroup tenant.ns =
      if store.view .operatorGroup tenant.ns = [] then [tenant.operatorGroup]
      else store.view .operatorGroup tenant.ns := by
  have hplaced : (Objects.placed config tenant store).view .operatorGroup tenant.ns =
      store.view .operatorGroup tenant.ns :=
    Objects.view_placed h (by decide) (by decide) _
  simp only [settled, hplaced]
  split
  · rename_i hnone
    exact view_applied_of_nil (Objects.placed_sound h _ _) tenant.operatorGroup
      (hplaced.trans hnone)
  · exact hplaced

theorem inPlace_settled (h : store.Sound) {k : Kind} (hgroup : k ≠ .operatorGroup)
    {desired : Object k} (hplaced : InPlace desired (Objects.placed config tenant store)) :
    InPlace desired (settled config tenant store) := by
  rw [settled]
  split
  · exact hplaced.applied (Objects.placed_sound h _ _) (Object.key_ne hgroup _ _)
  · exact hplaced

theorem settled_settles (h : store.Sound) :
    Settled config tenant (settled config tenant store) where
  catalogSource := inPlace_settled h (by decide) (Objects.catalogSource_placed h)
  subscription := inPlace_settled h (by decide) (Objects.subscription_placed h)
  group := by
    rw [groups_settled h]
    split
    · exact List.cons_ne_nil _ _
    · assumption

theorem view_settled (h : store.Sound) {k : Kind} (hcatalog : k ≠ .catalogSource)
    (hsubscription : k ≠ .subscription) (hgroup : k ≠ .operatorGroup) (ns : String) :
    (settled config tenant store).view k ns = store.view k ns := by
  have hplaced : (Objects.placed config tenant store).view k ns = store.view k ns :=
    Objects.view_placed h hcatalog hsubscription ns
  rw [settled]
  split
  · rw [view_applied (Objects.placed_sound h _ _) _ _ hgroup.symm, hplaced]
  · exact hplaced

theorem filter_settled (h : store.Sound) {p : Key → Bool}
    (hp : ∀ key ∈ managedKeys tenant.ns, p key = false) :
    (settled config tenant store).filter (p ·.key) = store.filter (p ·.key) := by
  have hcatalog := hp _ (catalogSource_mem_managedKeys tenant.ns)
  have hsubscription := hp _ (subscription_mem_managedKeys tenant.ns)
  have hgroup := hp _ (operatorGroup_mem_managedKeys tenant.ns)
  have hplaced : (Objects.placed config tenant store).filter (p ·.key) =
      store.filter (p ·.key) := by
    rw [Objects.placed, filter_applied (applied_sound h _) tenant.subscription hsubscription,
      filter_applied h (tenant.catalogSource config) hcatalog]
  rw [settled]
  split
  · rw [filter_applied (Objects.placed_sound h _ _) tenant.operatorGroup hgroup, hplaced]
  · exact hplaced

/-! ## Clearing -/

theorem legacy?_of_inPlace (h : InPlace tenant.subscription store) :
    store.legacy? tenant.ns = none := by
  obtain ⟨o, hheld, hbody⟩ := h.body (by decide) (by decide)
  have hsource : o.body.source ≠ legacySource := by
    rw [hbody]
    simp [Tenant.subscription, catalogSourceName, legacySource]
  have hheld : store.held .subscription (keyOf .subscription tenant.ns subscriptionName) = some o :=
    hheld
  simp [Store.legacy?, hheld, isLegacySubscription, hsource]

/-- What is left without the subscription of the former install. -/
def Store.bare (store : Store) (ns : String) : Store :=
  store.erase (keyOf .subscription ns subscriptionName)

/-- What is left once the migration has run to its end. -/
def Store.cleared (store : Store) (ns : String) : Store :=
  match store.legacy? ns with
  | none => store
  | some _ =>
    match store.record? ns with
    | none => store.bare ns
    | some record => (store.bare ns).erase (keyOf .clusterServiceVersion ns record.anyName)

theorem cleared_sound (h : store.Sound) (ns : String) : (store.cleared ns).Sound := by
  rw [Store.cleared]
  split
  · exact h
  · split
    · exact h.erase _
    · exact (h.erase _).erase _

theorem legacy?_bare (store : Store) (ns : String) : (store.bare ns).legacy? ns = none := by
  rw [Store.legacy?, Store.bare, Store.held_erase_self]
  rfl

theorem legacy?_cleared (store : Store) (ns : String) : (store.cleared ns).legacy? ns = none := by
  rw [Store.cleared]
  split
  · assumption
  · split
    · exact legacy?_bare store ns
    · rw [Store.legacy?, Store.held_erase_of_ne _ (by simp [keyOf, Kind.name]), ← Store.legacy?]
      exact legacy?_bare store ns

theorem view_cleared (store : Store) {k : Kind} (hsubscription : k ≠ .subscription)
    (hrecord : k ≠ .clusterServiceVersion) (ns : String) :
    (store.cleared ns).view k ns = store.view k ns := by
  have hbare : (store.bare ns).view k ns = store.view k ns :=
    Store.view_erase_of_ne store hsubscription.symm ..
  rw [Store.cleared]
  split
  · rfl
  · split
    · exact hbare
    · exact (Store.view_erase_of_ne _ hrecord.symm ..).trans hbare

theorem filter_cleared (store : Store) (ns : String) :
    ∃ records : List Key, records.length ≤ 1 ∧
      (∀ key ∈ records, ∃ name, isVersionRecordName name ∧
        key = keyOf .clusterServiceVersion ns name) ∧
      ∀ p : Key → Bool, p (keyOf .subscription ns subscriptionName) = false →
        (∀ key ∈ records, p key = false) →
        (store.cleared ns).filter (p ·.key) = store.filter (p ·.key) := by
  rw [Store.cleared]
  split
  · exact ⟨[], Nat.zero_le _, nofun, fun _ _ _ => rfl⟩
  · split
    · exact ⟨[], Nat.zero_le _, nofun, fun p hp _ => Store.filter_erase store hp⟩
    · rename_i record hrecord
      refine ⟨[keyOf .clusterServiceVersion ns record.anyName], Nat.le_refl _, ?_, ?_⟩
      · rintro key (_ | ⟨_, ⟨⟩⟩)
        exact ⟨record.anyName, by simpa using List.find?_some hrecord, rfl⟩
      · intro p hp hrecords
        rw [Store.filter_erase _ (hrecords _ List.mem_cons_self)]
        exact Store.filter_erase store hp

def formerSubscription : Subscription where
  metadata := { name := subscriptionName, ns := "grafana" }
  body := { source := legacySource, sourceNamespace := legacyNamespace, package := grafanaPackage }

def formerRecord : ClusterServiceVersion where
  metadata := { name := startingCsv "v3.9.0", ns := "grafana" }
  body := { version := "3.9.0" }

/-- A namespace as the former install leaves it, with something else in it. -/
def formerStore : Store :=
  [⟨⟨"Secret", "grafana", "grafana-token"⟩, .null⟩, formerSubscription.stored, formerRecord.stored]

theorem formerStore_sound : formerStore.Sound where
  nodup := by decide
  entries := by
    refine List.forall_mem_cons.mpr ⟨by decide, List.forall_mem_cons.mpr ⟨?_, ?_⟩⟩
    · exact Entry.sound_stored formerSubscription
    · exact List.forall_mem_singleton.mpr (Entry.sound_stored formerRecord)

/-! ## Runs -/

def installed (config : InstallConfig) (tenant : Tenant) (store : Store) : Store :=
  ((installation.run config tenant).run serve store).2

theorem run_of_none (h : store.Sound) (config : InstallConfig)
    (hlegacy : store.legacy? tenant.ns = none) :
    (installation.run config tenant).run serve store =
      (finalReport (settled config tenant store) tenant.ns, settled config tenant store) := by
  rw [run_of_watched (installation_of_none (w := ⟨store, []⟩) h config hlegacy), settling_store]
  rfl

theorem run_of_sound (h : store.Sound) (config : InstallConfig) (tenant : Tenant) :
    installed config tenant store = settled config tenant (store.cleared tenant.ns) ∨
      installed config tenant store = store.cleared tenant.ns := by
  rw [installed]
  cases hlegacy : store.legacy? tenant.ns with
  | none =>
    left
    rw [run_of_none h config hlegacy, Store.cleared, hlegacy]
  | some s =>
    cases hrecord : store.record? tenant.ns with
    | none =>
      left
      rw [run_of_watched (installation_of_bare (w := ⟨store, []⟩) h config hlegacy hrecord),
        Store.cleared, hlegacy, hrecord]
      exact settling_store ..
    | some record =>
      right
      rw [run_of_watched (installation_of_record (w := ⟨store, []⟩) h config hlegacy hrecord),
        Store.cleared, hlegacy, hrecord]
      rfl

/-- Two runs clear the store and settle it, and the second gets past every stage. -/
theorem two_runs (h : store.Sound) (config : InstallConfig) (tenant : Tenant) :
    (installation.run config tenant).run serve (installed config tenant store) =
      (finalReport (settled config tenant (store.cleared tenant.ns)) tenant.ns,
        settled config tenant (store.cleared tenant.ns)) := by
  have hclear := cleared_sound h tenant.ns
  rcases run_of_sound h config tenant with hrun | hrun <;> rw [hrun]
  · have hsettled : Settled config tenant (settled config tenant (store.cleared tenant.ns)) :=
      settled_settles hclear
    rw [run_of_none (settled_sound hclear _ _) config (legacy?_of_inPlace hsettled.subscription),
      hsettled.settled_eq]
  · rw [run_of_none hclear config (legacy?_cleared store tenant.ns)]

theorem installed_installed (h : store.Sound) (config : InstallConfig) (tenant : Tenant) :
    installed config tenant (installed config tenant store) =
      settled config tenant (store.cleared tenant.ns) :=
  congrArg Prod.snd (two_runs h config tenant)

end GrafanaInstall
