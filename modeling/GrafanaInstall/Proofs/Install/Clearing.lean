import GrafanaInstall.Proofs.Install.GivesUp
import GrafanaInstall.Proofs.Store.Frame

/-!
# Clearing a namespace

What a removal does to a sound store, call by call. It deletes the managed objects whether they are
there or not, and the deployment of the grafana operator if it finds it. Nothing of that depends on
what is to be installed.
-/

namespace GrafanaInstall

open Memory

def removedKeys (ns : String) : List Key :=
  managedKeys ns ++ [keyOf .deployment ns deploymentName]

theorem observability_not_mem_removedKeys (ns name : String) :
    keyOf .observability ns name ∉ removedKeys ns := by
  simp [removedKeys, managedKeys, keyOf, Kind.name]

/-- The calls of a removal in turn, where the deployment is there or not. -/
def removalCalls (ns : String) (deployed : Bool) : List Call :=
  [.delete .catalogSource ns catalogSourceName, .delete .subscription ns subscriptionName,
    .delete .operatorGroup ns operatorGroupName, .list .deployment ns] ++
    if deployed then [.delete .deployment ns deploymentName] else []

def Store.isDeployed (store : Store) (ns : String) : Bool :=
  (store.find? (keyOf .deployment ns deploymentName)).isSome

namespace Watched

variable {w : Watched}

def calls (w : Watched) : List Call :=
  w.history.map Prod.fst

theorem calls_after (w : Watched) (call : Call) (store : Store) :
    (w.after call store).calls = w.calls ++ [call] := by
  simp [calls, after]

def deleted (w : Watched) (k : Kind) (ns name : String) : Watched :=
  w.after (.delete k ns name) (w.store.erase (keyOf k ns name))

theorem run_deleteIfPresent (w : Watched) (k : Kind) (ns name : String) :
    ∃ found, Program.run serve (Cluster.deleteIfPresent k ns name) w =
      (.ok found, w.deleted k ns name) := by
  have hserve : Program.run serve (Cluster.delete k ns name) w =
      ((delete k ns name w.store).1.mapError .failed, w.deleted k ns name) := by
    rw [deleted, ← delete_store]
    rfl
  rw [Cluster.deleteIfPresent, Task.run_recover, Task.run_bind, hserve, delete]
  cases w.store.find? (keyOf k ns name) with
  | none => exact ⟨false, rfl⟩
  | some object => exact ⟨true, rfl⟩

/-! ## The teardown -/

/-- What is left before the deployments are looked at. -/
def unmanaged (ns : String) (w : Watched) : Watched :=
  ((w.deleted .catalogSource ns catalogSourceName).deleted .subscription ns
    subscriptionName).deleted .operatorGroup ns operatorGroupName

def removed (ns : String) (w : Watched) : Watched :=
  let listed := (w.unmanaged ns).after (.list .deployment ns) (w.unmanaged ns).store
  if w.store.isDeployed ns then listed.deleted .deployment ns deploymentName else listed

theorem unmanaged_isDeployed (w : Watched) (ns : String) :
    (w.unmanaged ns).store.isDeployed ns = w.store.isDeployed ns := by
  have hne {k : Kind} (hk : Kind.deployment ≠ k) (name : String) :
      keyOf .deployment ns deploymentName ≠ keyOf k ns name := keyOf_ne hk
  rw [Store.isDeployed, Store.isDeployed, unmanaged, deleted, deleted, deleted, after, after, after,
    Store.find?_erase, Store.find?_erase, Store.find?_erase, if_neg (hne (by decide) _),
    if_neg (hne (by decide) _), if_neg (hne (by decide) _)]

theorem unmanaged_sound (h : w.store.Sound) (ns : String) : (w.unmanaged ns).store.Sound :=
  ((h.erase _).erase _).erase _

theorem removed_store (w : Watched) (ns : String) :
    (w.removed ns).store = w.store.filter (·.key ∉ removedKeys ns) := by
  have hkeys : (w.unmanaged ns).store.erase (keyOf .deployment ns deploymentName) =
      w.store.filter (·.key ∉ removedKeys ns) := by
    simp only [unmanaged, deleted, after, Store.erase, List.filter_filter]
    refine List.filter_congr fun entry _ => ?_
    simp [removedKeys, managedKeys, Bool.and_comm, Bool.and_left_comm, Bool.and_assoc]
  rw [← hkeys, removed]
  split
  · rfl
  · rename_i hnone
    rw [← unmanaged_isDeployed, Store.isDeployed, Option.not_isSome_iff_eq_none] at hnone
    exact (Store.erase_of_absent hnone).symm

theorem removed_sound (h : w.store.Sound) (ns : String) : (w.removed ns).store.Sound := by
  rw [removed_store]
  exact h.filter (· ∉ removedKeys ns)

theorem find?_removed (w : Watched) {ns : String} {key : Key} (h : key ∉ removedKeys ns) :
    (w.removed ns).store.find? key = w.store.find? key := by
  rw [removed_store]
  exact Store.find?_filter (p := (· ∉ removedKeys ns)) w.store (decide_eq_true h)

theorem find?_removed_of_mem (w : Watched) {ns : String} {key : Key}
    (h : key ∈ removedKeys ns) : (w.removed ns).store.find? key = none := by
  rw [removed_store, Store.find?_eq_none]
  intro hmem
  obtain ⟨entry, hentry, rfl⟩ := List.mem_map.mp hmem
  exact of_decide_eq_true (List.mem_filter.mp hentry).2 h

theorem removed_calls (w : Watched) (ns : String) :
    (w.removed ns).calls = w.calls ++ removalCalls ns (w.store.isDeployed ns) := by
  rw [removed]
  split <;> simp [removalCalls, unmanaged, deleted, calls_after, *]

end Watched

namespace Teardown

variable {w : Watched} {ns : String}

theorem run_remove (w : Watched) (k : Kind) (ns name : String) :
    Program.run Watched.serve (remove k ns name) w = (.ok (), w.deleted k ns name) := by
  obtain ⟨found, hrun⟩ := w.run_deleteIfPresent k ns name
  rw [remove, Task.run_bind, hrun]
  cases found <;> rfl

theorem run_removeDeployments (h : w.store.Sound) (after : Watched) :
    Program.run Watched.serve (((w.store.view .deployment ns).filter
        (·.anyName = deploymentName)).forM fun _ =>
          remove .deployment ns deploymentName : Task Cluster PUnit) after =
      (.ok (), if w.store.isDeployed ns then after.deleted .deployment ns deploymentName
        else after) := by
  rw [Store.filter_view h, Store.isDeployed]
  cases hheld : w.store.held .deployment (keyOf .deployment ns deploymentName) with
  | none =>
    rw [(h.held_eq_none rfl).mp hheld]
    rfl
  | some deployment =>
    obtain ⟨object, hfind, -⟩ := Option.bind_eq_some_iff.mp hheld
    rw [hfind]
    refine (Task.run_bind ..).trans ?_
    rw [run_remove]
    rfl

theorem run_of_sound (h : w.store.Sound) (ns : String) :
    Program.run Watched.serve (run ns) w = (.ok .success, w.removed ns) := by
  have hunmanaged := Watched.unmanaged_sound h ns
  refine (Task.run_bind_ok (run_remove ..) _).trans ?_
  refine (Task.run_bind_ok (run_remove ..) _).trans ?_
  refine (Task.run_bind_ok (run_remove ..) _).trans ?_
  refine (Task.run_bind_ok (Watched.run_list hunmanaged .deployment ns) _).trans ?_
  refine (Task.run_bind_ok (run_removeDeployments hunmanaged _) _).trans ?_
  rw [Watched.unmanaged_isDeployed, Watched.removed]
  rfl

end Teardown

/-! ## Removals -/

theorem removal_watched {w : Watched} (h : w.store.Sound) (config : InstallConfig)
    (tenant : Tenant) :
    (Installer.removal config tenant).run Watched.serve w =
      (⟨some Teardown.stage.name, .success⟩, w.removed tenant.ns) := by
  have hrun : Program.run Watched.serve (Teardown.stage.run config tenant) w =
      (.ok .success, w.removed tenant.ns) := Teardown.run_of_sound h tenant.ns
  have hattempt : (Teardown.stage.attempt config tenant).run Watched.serve w =
      (.success, w.removed tenant.ns) := Watched.undisturbed.run_attempt hrun
  refine (Program.run_bind _ (Teardown.stage.attempt config tenant) _ w).trans ?_
  rw [hattempt]
  rfl

theorem removal_of_sound {store : Store} (h : store.Sound) (config : InstallConfig)
    (tenant : Tenant) :
    (Installer.removal config tenant).run serve store =
      (⟨some Teardown.stage.name, .success⟩,
        store.filter (·.key ∉ removedKeys tenant.ns)) := by
  rw [run_of_watched (removal_watched (w := ⟨store, []⟩) h config tenant), Watched.removed_store]

end GrafanaInstall
