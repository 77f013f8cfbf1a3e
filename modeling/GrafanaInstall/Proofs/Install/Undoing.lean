import GrafanaInstall.Proofs.Install.Clearing
import GrafanaInstall.Proofs.Install.Idle

/-!
# Removals undo installations

On a sound store a removal takes exactly the managed objects and the deployment of the grafana
operator. Installing adds nothing but managed objects, however often it is tried and wherever it
fails, so a removal brings back the store as it was.
-/

namespace GrafanaInstall

open Memory

variable {store : Store} {ns : String}

/-! ## What an errand adds -/

/-- A store that is a base with managed objects added, and nothing of a former install. -/
structure BuiltOn (base : Store) (ns : String) (store : Store) : Prop where
  sound : store.Sound
  rest : store.filter (·.key ∉ managedKeys ns) = base
  noLegacy : store.legacy? ns = none

namespace BuiltOn

variable {base : Store}

theorem of_absent (h : base.Sound) (habsent : ∀ key ∈ managedKeys ns, base.find? key = none) :
    BuiltOn base ns base where
  sound := h
  rest := by
    refine List.filter_eq_self.mpr fun entry hmem => decide_eq_true fun hkey => ?_
    exact Store.find?_eq_none.mp (habsent _ hkey) (List.mem_map_of_mem hmem)
  noLegacy := by
    have hsubscription : base.find? (keyOf .subscription ns subscriptionName) = none :=
      habsent _ (subscription_mem_managedKeys ns)
    rw [Store.legacy?, Store.held, hsubscription]
    rfl

theorem migrated (h : BuiltOn base ns store) : store.Migrated ns := ⟨h.sound, h.noLegacy⟩

theorem find?_eq (h : BuiltOn base ns store) {key : Key} (hkey : key ∉ managedKeys ns) :
    store.find? key = base.find? key := by
  rw [← h.rest]
  exact (Store.find?_filter (p := (· ∉ managedKeys ns)) store (decide_eq_true hkey)).symm

theorem filter_removed (h : BuiltOn base ns store)
    (hdeployment : base.find? (keyOf .deployment ns deploymentName) = none) :
    store.filter (·.key ∉ removedKeys ns) = base := by
  have hsplit : store.filter (·.key ∉ removedKeys ns) =
      Store.erase (store.filter (·.key ∉ managedKeys ns))
        (keyOf .deployment ns deploymentName) := by
    rw [Store.erase, List.filter_filter]
    exact List.filter_congr fun entry _ => by simp [removedKeys, Bool.and_comm]
  rw [hsplit, h.rest, Store.erase_of_absent hdeployment]

theorem applied (h : BuiltOn base ns store) (desired : Object k)
    (hkey : desired.key ∈ managedKeys ns)
    (hnone : (applied desired store).legacy? ns = none) :
    BuiltOn base ns (applied desired store) where
  sound := applied_sound h.sound desired
  rest := by
    rw [filter_applied (p := (· ∉ managedKeys ns)) h.sound desired (by simpa using hkey)]
    exact h.rest
  noLegacy := hnone

theorem erase (h : BuiltOn base ns store) {key : Key} (hkey : key ∈ managedKeys ns) :
    BuiltOn base ns (store.erase key) where
  sound := h.sound.erase key
  rest := by
    rw [Store.filter_erase (p := (· ∉ managedKeys ns)) store (by simpa using hkey)]
    exact h.rest
  noLegacy := (h.migrated.erase key).noLegacy

end BuiltOn

variable {base : Store}

theorem SettlingCall.builtOn {config : InstallConfig} {tenant : Tenant} {call : Call}
    (hcall : SettlingCall config tenant call) (h : BuiltOn base tenant.ns store) :
    BuiltOn base tenant.ns (answer call store).2 := by
  have hnone := (h.migrated.install hcall.installCall).noLegacy
  cases hcall with
  | list k => exact h
  | catalogSource => exact h.applied _ (catalogSource_mem_managedKeys _) hnone
  | subscription => exact h.applied _ (subscription_mem_managedKeys _) hnone
  | operatorGroup => exact h.applied _ (operatorGroup_mem_managedKeys _) hnone

theorem RemovalCall.builtOn {call : Call} (hcall : RemovalCall ns call)
    (hdeployment : base.find? (keyOf .deployment ns deploymentName) = none)
    (h : BuiltOn base ns store) : BuiltOn base ns (answer call store).2 := by
  cases hcall with
  | deployments => exact h
  | catalogSource =>
    rw [answer, delete_store]
    exact h.erase (catalogSource_mem_managedKeys ns)
  | subscription =>
    rw [answer, delete_store]
    exact h.erase (subscription_mem_managedKeys ns)
  | operatorGroup =>
    rw [answer, delete_store]
    exact h.erase (operatorGroup_mem_managedKeys ns)
  | deployment =>
    have hkey : keyOf .deployment ns deploymentName ∉ managedKeys ns := by
      simp [managedKeys, keyOf, Kind.name]
    rw [answer, delete_store, Store.erase_of_absent ((h.find?_eq hkey).trans hdeployment)]
    exact h

namespace Errand

theorem keeps (errand : Errand)
    (hdeployment : base.find? (keyOf .deployment errand.tenant.ns deploymentName) = none) :
    errand.program.Keeps (BuiltOn base errand.tenant.ns) := by
  obtain ⟨_ | _, config, tenant, _, _⟩ := errand
  · rename_i stages known
    have hstages : ∀ stage ∈ installation, Program.Triple Course.serve (fun _ _ => True)
        (BuiltOn base tenant.ns ·.store) (stage.run config tenant)
        fun _ => (BuiltOn base tenant.ns ·.store) :=
      stages_idle Course.honest (fun c hc => hc.migrated) fun call hcall c hc =>
        ⟨trivial, Course.keeps_serve hc (hcall.builtOn hc)⟩
    intro c hc
    exact (Pipeline.runFrom_triple Course.honest.toCalm
      (fun stage hmem => hstages stage (known hmem)) c hc).2
  · exact (removal_givesUp config tenant).asks.keeps fun _ hcall _ => hcall.builtOn hdeployment

theorem runAll_builtOn (errands : List Errand)
    (herrands : ∀ errand ∈ errands, errand.tenant.ns = ns)
    (hdeployment : base.find? (keyOf .deployment ns deploymentName) = none)
    (h : BuiltOn base ns store) : BuiltOn base ns (runAll errands store).2 := by
  induction errands generalizing store with
  | nil => exact h
  | cons errand rest ih =>
    obtain ⟨rfl, hrest⟩ := List.forall_mem_cons.mp herrands
    exact ih hrest (errand.keeps hdeployment _ h)

end Errand

/-- Whatever errands were run for a namespace that had no managed object before, and wherever they
failed, a removal brings back exactly the store that was there. -/
theorem removal_undoes {base : Store} (hbase : base.Sound) (config : InstallConfig)
    (tenant : Tenant) (habsent : ∀ key ∈ managedKeys tenant.ns, base.find? key = none)
    (hdeployment : base.find? (keyOf .deployment tenant.ns deploymentName) = none)
    (errands : List Errand) (herrands : ∀ errand ∈ errands, errand.tenant.ns = tenant.ns) :
    (Installer.grafana.cleanup config tenant).run serve (Errand.runAll errands base).2 =
      (⟨some Teardown.stage.name, .success⟩, base) := by
  have hbuilt : BuiltOn base tenant.ns (Errand.runAll errands base).2 :=
    Errand.runAll_builtOn errands herrands hdeployment (.of_absent hbase habsent)
  refine (removal_of_sound hbuilt.sound config tenant).trans (congrArg (Prod.mk _) ?_)
  exact hbuilt.filter_removed hdeployment

def foreignGroup : OperatorGroup where
  metadata := { name := "own-group", ns := "grafana" }
  body := { targetNamespaces := ["grafana"] }

def foreignDeployment : Deployment where
  metadata := { name := "grafana-operator-next", ns := "grafana" }
  body := {}

def foreignStore : Store := [foreignGroup.stored, foreignDeployment.stored]

/-- The first run loses the reply to its second apply, the next ends early, and a third is whole. -/
theorem removal_undoes_failures :
    let tenant : Tenant := { ns := "grafana", version := "v4.2.0" }
    let timeout : Turn := .lost true (.failed (.internal "api" "timeout")) false
    let spoilt : Errand :=
      { job := .whole, config := {}, tenant,
        turns := [.answered false, .answered false, timeout] }
    let short : Errand := { spoilt with turns := [.lost false .interrupted true] }
    let other : Errand :=
      { spoilt with tenant := { tenant with version := "v4.3.0" }, turns := [] }
    let left := (Errand.runAll [spoilt, short, other] foreignStore).2
    left.map (·.key) = foreignStore.map (·.key) ++ (managedKeys "grafana").take 2 ∧
      (Installer.grafana.cleanup {} tenant).run serve left =
        (⟨some Teardown.stage.name, .success⟩, foreignStore) := by
  intro tenant timeout spoilt short other left
  have hsound : foreignStore.Sound := by
    refine ⟨by decide, List.forall_mem_cons.mpr ⟨Entry.sound_stored foreignGroup, ?_⟩⟩
    exact List.forall_mem_singleton.mpr (Entry.sound_stored foreignDeployment)
  have herrands : ∀ errand ∈ [spoilt, short, other], errand.tenant.ns = tenant.ns := by
    simp [spoilt, short, other]
  refine ⟨by decide, ?_⟩
  exact removal_undoes hsound {} tenant (by decide) (by decide) [spoilt, short, other] herrands

end GrafanaInstall
