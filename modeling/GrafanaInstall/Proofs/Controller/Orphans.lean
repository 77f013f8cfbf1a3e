import GrafanaInstall.Proofs.Controller.Finalizer
import Mathlib.Logic.Relation

/-!
# No orphans

The controller is not alone with the observability of a namespace. It is edited, deleted and taken
away in between, and still nothing that was installed is ever left without it.
-/

namespace GrafanaInstall

open Memory

/-! ## Steps -/

/-- What others make of a stored observability. -/
inductive Edit (value : Json) : Json → Prop
  | content {key : String} (h : key = "spec" ∨ key = "status") (entry : Json) :
    Edit value (value.set key entry)
  | noStatus : Edit value (value.erase "status")
  /-- The finalizers of others come and go. -/
  | others {items : List Json}
      (h : .string Controller.finalizer ∈ items ↔ .string Controller.finalizer ∈ finalizers value) :
    Edit value (withFinalizers value items)
  | deletion (time : Instant) :
    Edit value (value.setAt ["metadata", "deletionTimestamp"] (Codec.instant.write time))

def Controller.round (settings : Controller.Settings) (obs : Observability) (t : Trial) : Store :=
  (Program.run Trial.serve (Controller.reconcile Installer.grafana settings obs) t).2.store

/-- What may happen next to the observability of a namespace and to what is around it. -/
inductive Step (ns name : String) (store : Store) : Store → Prop
  /-- A round on what is stored, whatever the fates of its calls are. -/
  | round (settings : Controller.Settings) (plan : List Fate) (cancelled : Bool) {value : Json}
      {obs : Observability} (hfind : store.find? (keyOf .observability ns name) = some value)
      (hread : Object.read? .observability value = some obs) :
    Step ns name store (Controller.round settings obs { store, plan, cancelled })
  | edit {value next : Json} (hfind : store.find? (keyOf .observability ns name) = some value)
      (h : Edit value next) :
    Step ns name store (store.put (keyOf .observability ns name) next)
  /-- What is being deleted goes once nothing holds it back. -/
  | removal {value : Json} (hfind : store.find? (keyOf .observability ns name) = some value)
      (hdeleted : (value.at? ["metadata", "deletionTimestamp"]).isSome)
      (hfinalizers : finalizers value = []) :
    Step ns name store (store.erase (keyOf .observability ns name))
  /-- Deployments and version records come, change and go. -/
  | elsewhere {after : Store} (h : ∀ key : Key, key.kind ≠ Kind.deployment.name →
      key.kind ≠ Kind.clusterServiceVersion.name → after.find? key = store.find? key) :
    Step ns name store after

/-! ## What a step preserves -/

namespace Edit

variable {ns : String} {value next : Json}

theorem storedIn (h : Edit value next) (hstored : StoredIn ns value) : StoredIn ns next := by
  cases h with
  | content h => exact hstored.set _ (by rcases h with rfl | rfl <;> decide)
  | noStatus => exact hstored.erase (by decide)
  | others | deletion => exact hstored.setAt _ (by decide)

theorem mem_finalizers (h : Edit value next) :
    .string Controller.finalizer ∈ finalizers next ↔
      .string Controller.finalizer ∈ finalizers value := by
  cases h with
  | content h => rw [finalizers_set value _ (by rcases h with rfl | rfl <;> decide)]
  | noStatus => rw [finalizers_erase value (by decide)]
  | others h => rwa [finalizers_with]
  | deletion => rw [finalizers_setAt value _ (by decide)]

end Edit

variable {ns name : String} {store after : Store}

theorem Guarded.edit (h : Guarded ns name store) {value next : Json}
    (hfind : store.find? (keyOf .observability ns name) = some value) (hedit : Edit value next) :
    Guarded ns name (store.put (keyOf .observability ns name) next) where
  stored other hother := by
    rw [Store.find?_put, if_pos rfl] at hother
    cases hother
    exact hedit.storedIn (h.stored value hfind)
  carries := by
    rintro ⟨key, hkey, hfound⟩
    rw [Store.find?_put, if_neg (ne_of_managed hkey ns name)] at hfound
    obtain ⟨before, hbefore, hmem⟩ := h.carries ⟨key, hkey, hfound⟩
    cases hfind.symm.trans hbefore
    exact ⟨next, by rw [Store.find?_put, if_pos rfl], hedit.mem_finalizers.mpr hmem⟩

theorem Guarded.gone (h : Guarded ns name store) {value : Json}
    (hfind : store.find? (keyOf .observability ns name) = some value)
    (hfinalizers : finalizers value = []) :
    Guarded ns name (store.erase (keyOf .observability ns name)) := by
  refine of_absent (fun other hother => ?_) fun key hkey => ?_
  · rw [Store.find?_erase, if_pos rfl] at hother
    cases hother
  · rw [Store.find?_erase, if_neg (ne_of_managed hkey ns name), ← Option.not_isSome_iff_eq_none]
    intro hfound
    obtain ⟨before, hbefore, hmem⟩ := h.carries ⟨key, hkey, hfound⟩
    cases hfind.symm.trans hbefore
    rw [hfinalizers] at hmem
    cases hmem

theorem Guarded.elsewhere (h : Guarded ns name store)
    (hsame : ∀ key : Key, key.kind ≠ Kind.deployment.name →
      key.kind ≠ Kind.clusterServiceVersion.name → after.find? key = store.find? key) :
    Guarded ns name after := by
  have hobs : after.find? (keyOf .observability ns name) =
      store.find? (keyOf .observability ns name) :=
    hsame _ (by simp [keyOf, Kind.name]) (by simp [keyOf, Kind.name])
  have hmanaged : ∀ key ∈ managedKeys ns, after.find? key = store.find? key := by
    intro key hkey
    simp only [managedKeys, List.mem_cons, List.not_mem_nil, or_false] at hkey
    rcases hkey with rfl | rfl | rfl <;>
      exact hsame _ (by simp [keyOf, Kind.name]) (by simp [keyOf, Kind.name])
  refine ⟨fun value hfind => h.stored value (hobs ▸ hfind), ?_⟩
  rintro ⟨key, hkey, hfound⟩
  rw [hmanaged key hkey] at hfound
  rw [Carries, hobs]
  exact h.carries ⟨key, hkey, hfound⟩

theorem Step.guarded (h : Step ns name store after) (hstore : Guarded ns name store) :
    Guarded ns name after := by
  cases h with
  | round settings plan cancelled hfind hread =>
    exact Guarded.reconcile (t := { store, plan, cancelled }) hstore hfind hread settings
  | edit hfind h => exact hstore.edit hfind h
  | removal hfind _ hfinalizers => exact hstore.gone hfind hfinalizers
  | elsewhere h => exact hstore.elsewhere h

/-! ## Runs -/

theorem Guarded.steps (h : Guarded ns name store)
    (hsteps : Relation.ReflTransGen (Step ns name) store after) : Guarded ns name after := by
  induction hsteps with
  | refl => exact h
  | tail _ hstep ih => exact hstep.guarded ih

/-- Whatever happens, while a managed object is left the observability is there and is held back. -/
theorem no_orphans (hstored : WellStored ns name store)
    (habsent : ∀ key ∈ managedKeys ns, store.find? key = none)
    (hsteps : Relation.ReflTransGen (Step ns name) store after) {key : Key}
    (hkey : key ∈ managedKeys ns) (hleft : (after.find? key).isSome) : Carries ns name after :=
  ((Guarded.of_absent hstored habsent).steps hsteps).carries ⟨key, hkey, hleft⟩

def newcomer : Observability where
  metadata := { name := "tenant", ns := "grafana" }
  body := { spec := { grafanaOperatorVersion := "v4.2.0" } }

/-- The second round fails at the catalog source, once that is there. -/
theorem no_orphans_newcomer :
    let held : Observability := { newcomer with
      metadata := { newcomer.metadata with finalizers := [Controller.finalizer] } }
    let timeout : Fate := .spoilt true (.failed (.internal "api" "timeout")) (by decide) false
    let store : Store := [newcomer.stored]
    let first := Controller.round {} newcomer { store }
    let second := Controller.round {} held { store := first, plan := [.answered false, timeout] }
    WellStored "grafana" "tenant" store ∧
      (∀ key ∈ managedKeys "grafana", store.find? key = none) ∧
      Relation.ReflTransGen (Step "grafana" "tenant") store second ∧
      (second.find? (keyOf .catalogSource "grafana" catalogSourceName)).isSome ∧
      Carries "grafana" "tenant" second := by
  intro held timeout store first second
  have hstored : WellStored "grafana" "tenant" store := by
    intro value hfind
    obtain rfl : newcomer.json = value := Option.some.inj hfind
    exact ⟨⟨rfl, by decide, by decide⟩, by decide⟩
  have habsent : ∀ key ∈ managedKeys "grafana", store.find? key = none := by decide
  have hfirst : Step "grafana" "tenant" store first :=
    .round {} [] false (show _ = some newcomer.json from rfl) newcomer.read?_json
  have hsecond : Step "grafana" "tenant" first second :=
    .round {} _ false (show _ = some held.json by decide) held.read?_json
  have hsteps : Relation.ReflTransGen (Step "grafana" "tenant") store second :=
    .tail (.single hfirst) hsecond
  have hleft : (second.find? (keyOf .catalogSource "grafana" catalogSourceName)).isSome := by decide
  exact ⟨hstored, habsent, hsteps, hleft,
    no_orphans hstored habsent hsteps (by decide) hleft⟩

end GrafanaInstall
