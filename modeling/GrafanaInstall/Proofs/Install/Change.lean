import GrafanaInstall.Proofs.Install.Settled
import GrafanaInstall.Proofs.Resource.Printed

/-!
# What a change writes

A settled store is taken to another version, budget or configuration. Of the managed objects those
are updated whose content is another one then, and nothing else is written.
-/

namespace GrafanaInstall

open Memory

/-! ## Writes -/

inductive Write where
  | created (key : Key)
  | updated (key : Key)
  | deleted (key : Key)
  | patched (key : Key)
  deriving DecidableEq

/-- What a call writes to a store, if it comes to that. A delete is sent whether or not there is
anything to delete. -/
def Call.write? : Call → Store → Option Write
  | .list .., _ => none
  | .apply _ desired, store =>
    match (Memory.apply desired store).1 with
    | .ok .created => some (.created desired.key)
    | .ok .updated => some (.updated desired.key)
    | .ok .unchanged | .error _ => none
  | .delete k ns name, _ => some (.deleted (keyOf k ns name))
  | .patchStatus ns name _, _ | .addFinalizer ns name _, _ | .removeFinalizer ns name _, _ =>
    some (.patched (keyOf .observability ns name))

namespace Watched

variable {w : Watched}

def writes (w : Watched) : List Write :=
  w.history.filterMap fun visit => visit.1.write? visit.2

theorem writes_after (w : Watched) (call : Call) (next : Store) :
    (w.after call next).writes = w.writes ++ (call.write? w.store).toList := by
  simp only [writes, after, List.filterMap_append]
  cases h : call.write? w.store <;> simp [h]

theorem writes_list (w : Watched) (k : Kind) (ns : String) (next : Store) :
    (w.after (.list k ns) next).writes = w.writes := by
  simp [writes_after, Call.write?]

end Watched

variable {store : Store} {config config' : InstallConfig} {tenant tenant' : Tenant}

theorem Memory.InPlace.write?_apply {desired other : Object k} (hk : k ∈ appliedKinds)
    (h : InPlace desired store) (hkey : other.key = desired.key) {p : Prop} [Decidable p]
    (hbody : other.body = desired.body ↔ p) :
    Call.write? (.apply k other) store = if p then none else some (.updated desired.key) := by
  obtain ⟨o, hheld, ho⟩ := h
  have hsame : other.overwrite o = o ↔ p := by
    rw [← hbody, ← ho, Object.overwrite_of_applied hk, Object.overwrite_of_applied hk]
    exact Object.with_body_eq_iff
  have happly := apply_of_held (hkey ▸ hheld : store.held k other.key = some o)
  rw [Call.write?, happly, hkey]
  by_cases hp : p
  · rw [if_pos (hsame.mpr hp), if_pos hp]
  · rw [if_neg (mt hsame.mp hp), if_neg hp]

/-! ## Content -/

namespace Tenant

theorem catalogSource_body_inj :
    (tenant'.catalogSource config').body = (tenant.catalogSource config).body ↔
      catalogSourceImage config'.registry tenant'.version =
        catalogSourceImage config.registry tenant.version := by
  simp [catalogSource]

theorem startingCsv_inj {version version' : String} :
    startingCsv version' = startingCsv version ↔ version' = version := by
  simp [startingCsv]

theorem catalogSourceImage_inj (registry : String) {version version' : String} :
    catalogSourceImage registry version' = catalogSourceImage registry version ↔
      version' = version := by
  simp [catalogSourceImage]

theorem subscription_body_inj (hns : tenant'.ns = tenant.ns) :
    tenant'.subscription.body = tenant.subscription.body ↔
      tenant'.version = tenant.version ∧
        ResourceRequirements.codec.write tenant'.operatorResources =
          ResourceRequirements.codec.write tenant.operatorResources := by
  rw [ResourceRequirements.lawful.write_inj]
  simp [subscription, hns, startingCsv_inj]

end Tenant

/-- The updates that take a settled store to another configuration or tenant. -/
def changes (config : InstallConfig) (tenant : Tenant) (config' : InstallConfig)
    (tenant' : Tenant) : List Write :=
  (if catalogSourceImage config'.registry tenant'.version =
      catalogSourceImage config.registry tenant.version then []
    else [.updated (keyOf .catalogSource tenant.ns catalogSourceName)]) ++
  if tenant'.version = tenant.version ∧
      ResourceRequirements.codec.write tenant'.operatorResources =
        ResourceRequirements.codec.write tenant.operatorResources then []
  else [.updated (keyOf .subscription tenant.ns subscriptionName)]

theorem changes_of_version (hregistry : config'.registry = config.registry)
    (hversion : tenant'.version ≠ tenant.version) :
    changes config tenant config' tenant' =
      [.updated (keyOf .catalogSource tenant.ns catalogSourceName),
        .updated (keyOf .subscription tenant.ns subscriptionName)] := by
  simp [changes, hregistry, Tenant.catalogSourceImage_inj, hversion]

theorem changes_of_default (hregistry : config'.registry = config.registry)
    (hversion : tenant'.version = tenant.version) (hnone : tenant.resources = none)
    (hdefault : tenant'.resources = some defaultResources) :
    changes config tenant config' tenant' = [] := by
  simp [changes, hregistry, hversion, Tenant.operatorResources, hnone, hdefault]

/-! ## Runs -/

theorem writes_settling {w : Watched} (h : w.store.Sound) (hsettled : Settled config tenant w.store)
    (hns : tenant'.ns = tenant.ns) :
    (settling config' tenant' w).writes = w.writes ++ changes config tenant config' tenant' := by
  have hcatalogKey : (tenant'.catalogSource config').key = (tenant.catalogSource config).key :=
    congrArg (keyOf .catalogSource · catalogSourceName) hns
  have hsubscriptionKey : tenant'.subscription.key = tenant.subscription.key :=
    congrArg (keyOf .subscription · subscriptionName) hns
  have hsubscription : InPlace tenant.subscription
      (applied (tenant'.catalogSource config') w.store) :=
    hsettled.subscription.applied h (Object.key_ne (by decide) _ _)
  have hboth : (Objects.withBoth config' tenant' w).writes =
      w.writes ++ changes config tenant config' tenant' := by
    rw [Objects.withBoth, Watched.writes_after, Watched.writes_after, List.append_assoc]
    refine congrArg (w.writes ++ ·) ?_
    show (Call.write? _ w.store).toList ++
      (Call.write? _ (applied (tenant'.catalogSource config') w.store)).toList = _
    rw [hsettled.catalogSource.write?_apply (by decide) hcatalogKey Tenant.catalogSource_body_inj,
      hsubscription.write?_apply (by decide) hsubscriptionKey (Tenant.subscription_body_inj hns),
      apply_ite Option.toList,
      apply_ite Option.toList]
    rfl
  -- The operator group of the namespace is left as it is.
  have hgroup : (Objects.placed config' tenant' w.store).view .operatorGroup tenant'.ns ≠ [] := by
    rw [Objects.view_placed h (by decide) (by decide), hns]
    exact hsettled.group
  have hwith : Objects.withGroup tenant' (Objects.withBoth config' tenant' w) =
      (Objects.withBoth config' tenant' w).after (.list .operatorGroup tenant'.ns)
        (Objects.withBoth config' tenant' w).store := by
    rw [Objects.withGroup]
    exact if_neg hgroup
  rw [settling, Watched.writes_list, hwith, Watched.writes_list, hboth]

/-- A run that finds a store settled for another version, budget or configuration writes what is to
change, and nothing else. -/
theorem change_writes (h : store.Sound) (hsettled : Settled config tenant store)
    (hns : tenant'.ns = tenant.ns) (config' : InstallConfig) :
    ∃ w, (installation.run config' tenant').run Watched.serve ⟨store, []⟩ =
        (finalReport w.store tenant.ns, w) ∧
      w.writes = changes config tenant config' tenant' ∧
      (config'.registry = config.registry → tenant'.version ≠ tenant.version →
        w.writes = [.updated (keyOf .catalogSource tenant.ns catalogSourceName),
          .updated (keyOf .subscription tenant.ns subscriptionName)]) ∧
      (config'.registry = config.registry → tenant'.version = tenant.version →
        tenant.resources = none → tenant'.resources = some defaultResources → w.writes = []) := by
  have hlegacy : store.legacy? tenant'.ns = none := by
    rw [hns]
    exact legacy?_of_inPlace hsettled.subscription
  have hrun := installation_of_none (w := ⟨store, []⟩) h config' hlegacy
  let listed : Watched := Watched.after ⟨store, []⟩ (.list .subscription tenant'.ns) store
  have hwrites : (settling config' tenant' listed).writes =
      changes config tenant config' tenant' := writes_settling (w := listed) h hsettled hns
  refine ⟨settling config' tenant' listed, ?_, hwrites, ?_, ?_⟩
  · rw [settling_store, ← hns]
    exact hrun
  · intro hregistry hversion
    exact hwrites.trans (changes_of_version hregistry hversion)
  · intro hregistry hversion hnone hdefault
    exact hwrites.trans (changes_of_default hregistry hversion hnone hdefault)

/-- An installation is taken to a newer version, and then is asked for the budget that it has. -/
theorem change_writes_newer :
    let tenant : Tenant := { ns := "grafana", version := "v4.2.0" }
    let newer : Tenant := { tenant with version := "v4.3.0" }
    let explicit : Tenant := { tenant with resources := some defaultResources }
    let store := settled {} tenant [(newer.catalogSource { registry := "quay.io/other" }).stored]
    store.Sound ∧ Settled {} tenant store ∧
      (∃ w, (installation.run {} newer).run Watched.serve ⟨store, []⟩ =
          (finalReport w.store "grafana", w) ∧
        w.writes = [.updated (keyOf .catalogSource "grafana" catalogSourceName),
          .updated (keyOf .subscription "grafana" subscriptionName)]) ∧
      ∃ w, (installation.run {} explicit).run Watched.serve ⟨store, []⟩ =
          (finalReport w.store "grafana", w) ∧ w.writes = [] := by
  intro tenant newer explicit store
  have hbase : Store.Sound [(newer.catalogSource { registry := "quay.io/other" }).stored] :=
    ⟨by decide, List.forall_mem_singleton.mpr (Entry.sound_stored _)⟩
  have hsound : store.Sound := settled_sound hbase {} tenant
  have hsettled : Settled {} tenant store := settled_settles hbase
  obtain ⟨w, hrun, -, hversion, -⟩ :=
    change_writes hsound hsettled (show newer.ns = tenant.ns from rfl) {}
  obtain ⟨w', hrun', -, -, hdefault⟩ :=
    change_writes hsound hsettled (show explicit.ns = tenant.ns from rfl) {}
  exact ⟨hsound, hsettled, ⟨w, hrun, hversion rfl (by decide)⟩, w', hrun', hdefault rfl rfl rfl rfl⟩

end GrafanaInstall
