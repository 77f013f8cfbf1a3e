import GrafanaInstall.Installer
import GrafanaInstall.Proofs.Trial

/-!
# Installing and removing give up

The calls that an installation or a removal may make for a tenant. Both make no call after a halt
that they may not bear, and report it.
-/

namespace GrafanaInstall

/-- The keys of the objects that the operator owns in a namespace. -/
def managedKeys (ns : String) : List Key :=
  [Memory.keyOf .catalogSource ns catalogSourceName, Memory.keyOf .subscription ns subscriptionName,
    Memory.keyOf .operatorGroup ns operatorGroupName]

theorem catalogSource_mem_managedKeys (ns : String) :
    Memory.keyOf .catalogSource ns catalogSourceName ∈ managedKeys ns :=
  List.mem_cons_self

theorem subscription_mem_managedKeys (ns : String) :
    Memory.keyOf .subscription ns subscriptionName ∈ managedKeys ns :=
  List.mem_cons_of_mem _ List.mem_cons_self

theorem operatorGroup_mem_managedKeys (ns : String) :
    Memory.keyOf .operatorGroup ns operatorGroupName ∈ managedKeys ns :=
  List.mem_cons_of_mem _ (List.mem_cons_of_mem _ List.mem_cons_self)

/-- A call that an installation may make. -/
inductive InstallCall (config : InstallConfig) (tenant : Tenant) : Call → Prop
  | list (k : Kind) : InstallCall config tenant (.list k tenant.ns)
  | catalogSource : InstallCall config tenant (.apply _ (tenant.catalogSource config))
  | subscription : InstallCall config tenant (.apply _ tenant.subscription)
  | operatorGroup : InstallCall config tenant (.apply _ tenant.operatorGroup)
  | deleteSubscription :
    InstallCall config tenant (.delete .subscription tenant.ns subscriptionName)
  | deleteRecord {name : String} (h : isVersionRecordName name) :
    InstallCall config tenant (.delete .clusterServiceVersion tenant.ns name)

inductive RemovalCall (ns : String) : Call → Prop
  | deployments : RemovalCall ns (.list .deployment ns)
  | catalogSource : RemovalCall ns (.delete .catalogSource ns catalogSourceName)
  | subscription : RemovalCall ns (.delete .subscription ns subscriptionName)
  | operatorGroup : RemovalCall ns (.delete .operatorGroup ns operatorGroupName)
  | deployment : RemovalCall ns (.delete .deployment ns deploymentName)

/-- A call that the stages past the migration may make. -/
inductive SettlingCall (config : InstallConfig) (tenant : Tenant) : Call → Prop
  | list (k : Kind) : SettlingCall config tenant (.list k tenant.ns)
  | catalogSource : SettlingCall config tenant (.apply _ (tenant.catalogSource config))
  | subscription : SettlingCall config tenant (.apply _ tenant.subscription)
  | operatorGroup : SettlingCall config tenant (.apply _ tenant.operatorGroup)

theorem SettlingCall.installCall {config : InstallConfig} {tenant : Tenant} {call : Call}
    (h : SettlingCall config tenant call) : InstallCall config tenant call := by
  cases h with
  | list k => exact .list k
  | catalogSource => exact .catalogSource
  | subscription => exact .subscription
  | operatorGroup => exact .operatorGroup

/-! ## Stages -/

variable {P : Call → Prop}

namespace Legacy

variable {ns : String}

theorem anyName_of_legacy {s : Subscription} (h : isLegacySubscription s) :
    s.anyName = subscriptionName := by
  simp only [isLegacySubscription, Bool.and_eq_true, decide_eq_true_eq] at h
  simp [Object.anyName, Metadata.anyName, h.1.1]

theorem removeSubscription_plain {s : Subscription} (h : isLegacySubscription s)
    (hdelete : P (.delete .subscription ns subscriptionName)) :
    (removeSubscription ns s).Plain P := by
  have hcall : P (.delete .subscription ns s.anyName) := by
    rw [anyName_of_legacy h]
    exact hdelete
  refine .bind (.deleteIfPresent hcall) fun removed => ?_
  split <;> exact .log ..

theorem removeVersionRecord_plain (hlist : P (.list .clusterServiceVersion ns))
    (hdelete : ∀ name, isVersionRecordName name → P (.delete .clusterServiceVersion ns name)) :
    (removeVersionRecord ns).Plain P := by
  refine .bind (.list hlist) fun records => ?_
  split
  · exact .bind (.log ..) fun _ => .pure _
  · rename_i record hrecord
    have hname : isVersionRecordName record.anyName := by simpa using List.find?_some hrecord
    exact .bind (.deleteIfPresent (hdelete _ hname)) fun _ => .bind (.log ..) fun _ => .pure _

theorem remove_plain (hlist : ∀ k, P (.list k ns))
    (hsubscription : P (.delete .subscription ns subscriptionName))
    (hrecord : ∀ name, isVersionRecordName name → P (.delete .clusterServiceVersion ns name)) :
    (remove ns).Plain P := by
  refine .bind (.list (hlist _)) fun subscriptions => ?_
  split
  · exact .bind (.log ..) fun _ => .pure _
  · refine .bind (.forM _ fun s hmem => ?_) fun _ =>
      removeVersionRecord_plain (hlist _) hrecord
    exact removeSubscription_plain (List.mem_filter.mp hmem).2 hsubscription

end Legacy

variable {config : InstallConfig} {tenant : Tenant}

namespace Objects

theorem applyCatalogSource_plain (h : P (.apply _ (tenant.catalogSource config))) :
    (applyCatalogSource config tenant).Plain P :=
  .bind (.apply h) fun _ => .bind (.log ..) fun _ => .pure _

theorem applySubscription_plain (h : P (.apply _ tenant.subscription)) :
    (applySubscription tenant).Plain P :=
  .bind (.apply h) fun _ => .bind (.log ..) fun _ => .pure _

theorem ensureOperatorGroup_plain (hlist : P (.list .operatorGroup tenant.ns))
    (happly : P (.apply _ tenant.operatorGroup)) : (ensureOperatorGroup tenant).Plain P := by
  refine .bind (.list hlist) fun groups => ?_
  split
  · exact .bind (.log ..) fun _ => .pure _
  · exact .bind (.apply happly) fun _ => .bind (.log ..) fun _ => .pure _

end Objects

theorem Readiness.check_plain {ns : String} (h : P (.list .deployment ns)) :
    (check ns).Plain P := by
  refine .bind (.list h) fun deployments => ?_
  split <;> exact .bind (.log ..) fun _ => .pure _

namespace Teardown

theorem remove_plain {ns : String} {k : Kind} {name : String}
    (h : RemovalCall ns (.delete k ns name)) : (remove k ns name).Plain (RemovalCall ns) := by
  refine .bind (.deleteIfPresent h) fun removed => ?_
  split <;> exact .log ..

theorem run_plain (ns : String) : (run ns).Plain (RemovalCall ns) :=
  .bind (remove_plain .catalogSource) fun _ =>
  .bind (remove_plain .subscription) fun _ =>
  .bind (remove_plain .operatorGroup) fun _ =>
  .bind (.list .deployments) fun _ =>
  .bind (.forM _ fun _ _ => remove_plain .deployment) fun _ =>
  .bind (.log ..) fun _ => .pure _

end Teardown

/-! ## Runs -/

theorem settling_plain (h : ∀ call, SettlingCall config tenant call → P call) :
    ∀ stage ∈ installation.drop 1, Task.Plain P (stage.run config tenant) := by
  simp only [installation, List.drop_succ_cons, List.drop_zero, List.forall_mem_cons,
    List.not_mem_nil, false_imp_iff, implies_true, and_true]
  exact ⟨Objects.applyCatalogSource_plain (h _ .catalogSource),
    Objects.applySubscription_plain (h _ .subscription),
    Objects.ensureOperatorGroup_plain (h _ (.list _)) (h _ .operatorGroup),
    Readiness.check_plain (h _ (.list _))⟩

variable (config : InstallConfig) (tenant : Tenant)

theorem stages_plain :
    ∀ stage ∈ installation, Task.Plain (InstallCall config tenant) (stage.run config tenant) :=
  List.forall_mem_cons.mpr
    ⟨Legacy.remove_plain .list .deleteSubscription fun _ => .deleteRecord,
      settling_plain fun _ => SettlingCall.installCall⟩

theorem stages_givesUp :
    ∀ stage ∈ installation, Task.GivesUp (InstallCall config tenant) (stage.run config tenant) :=
  fun stage hmem => (stages_plain config tenant stage hmem).givesUp

theorem installation_givesUp :
    (installation.run config tenant).GivesUp (InstallCall config tenant) fun halt report =>
      ∃ stage ∈ installation, report = ⟨some stage.name, .failed (halt.errorIn stage.name)⟩ :=
  Pipeline.runFrom_givesUp (stages_givesUp config tenant) _

theorem removal_givesUp :
    (Installer.removal config tenant).GivesUp (RemovalCall tenant.ns) fun halt report =>
      report = ⟨some Teardown.stage.name, .failed (halt.errorIn Teardown.stage.name)⟩ := by
  refine Program.GivesUp.bind (Stage.attempt_givesUp (Teardown.run_plain tenant.ns).givesUp) ?_ ?_
  · rintro (_ | _ | error)
    · exact trivial
    · exact trivial
    · exact ⟨trivial, fun _ => trivial, fun _ _ hfatal => nomatch hfatal⟩
  · rintro halt _ - rfl
    exact ⟨trivial, fun _ => rfl⟩

end GrafanaInstall
