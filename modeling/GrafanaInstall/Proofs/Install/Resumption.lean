import GrafanaInstall.Proofs.Errand
import GrafanaInstall.Proofs.Install.Clearing

/-!
# Removals that are resumed

A removal deletes one key after the other. If a call is refused, the first few of them are gone and
nothing else is, so the next removal takes up from there.
-/

namespace GrafanaInstall

open Memory Program

variable {store : Store} {ns : String}

/-! ## Refused calls -/

/-- What comes in the way of a call before it takes effect. -/
structure Rejection where
  error : Error
  known : error.isNotFound = false

def Rejection.turn : Option Rejection → Turn
  | none => .answered false
  | some rejection => .lost false (.failed rejection.error) false

theorem Rejection.isFatal (rejection : Rejection) : (Halt.failed rejection.error).isFatal := by
  simp [Halt.isFatal, rejection.known]

/-- A run that gives up is like any other as long as no call is refused. Otherwise it leaves the
store to which the refused call was put. -/
theorem Program.GivesUp.run_rejected {P : Call → Prop} {Q : Halt → α → Prop}
    {program : Program Cluster α} (h : program.GivesUp P Q) {schedule : List (Option Rejection)}
    {past : List Call} {a : α} {c : Course}
    (hrun : program.run Course.serve ⟨store, schedule.map Rejection.turn, false, past⟩ = (a, c)) :
    ∃ n, c.calls.length = past.length + n ∧
      ((∀ rejection ∈ schedule.take n, rejection = none) ∧
          program.run Memory.serve store = (a, c.store) ∨
        ∃ rejection, some rejection ∈ schedule.take n ∧ Q (.failed rejection.error) a ∧
          c.store ∈ Watched.met program store) := by
  induction program generalizing store schedule past with
  | done value =>
    cases hrun
    exact ⟨0, rfl, .inl ⟨by simp, rfl⟩⟩
  | ask request next ih =>
    cases request with
    | log event => exact ih () (h.2.1 ()) hrun
    | cancelled => exact ih false (h.2.1 false) hrun
    | call call =>
      let reply := (Memory.serve (.call call) store).1
      let after := (Memory.serve (.call call) store).2
      have hlength (n : Nat) : (past ++ [call]).length + n = past.length + (n + 1) := by
        rw [List.length_append, List.length_singleton]
        omega
      rw [show Watched.met _ store = store :: Watched.met (next reply) after from
        Watched.met_call call next store]
      rcases schedule with _ | ⟨_ | rejection, rest⟩
      · have hnext : (next reply).run Course.serve
            ⟨after, [].map Rejection.turn, false, past ++ [call]⟩ = (a, c) := hrun
        obtain ⟨n, hn, hends⟩ := ih reply (h.2.1 reply) hnext
        refine ⟨n + 1, hn.trans (hlength n), ?_⟩
        rcases hends with ⟨-, hsame⟩ | ⟨rejection, hmem, -⟩
        · exact .inl ⟨by simp, hsame⟩
        · simp at hmem
      · have hnext : (next reply).run Course.serve
            ⟨after, rest.map Rejection.turn, false, past ++ [call]⟩ = (a, c) := hrun
        obtain ⟨n, hn, hends⟩ := ih reply (h.2.1 reply) hnext
        refine ⟨n + 1, hn.trans (hlength n), ?_⟩
        rw [List.take_succ_cons]
        rcases hends with ⟨hnone, hsame⟩ | ⟨rejection, hmem, hQ, hmet⟩
        · exact .inl ⟨List.forall_mem_cons.mpr ⟨rfl, hnone⟩, hsame⟩
        · exact .inr ⟨rejection, List.mem_cons_of_mem _ hmem, hQ, List.mem_cons_of_mem _ hmet⟩
      · -- The program is quiet from here on.
        have hfatal : Cluster.fatal? (.call call) (.error (.failed rejection.error)) =
            some (.failed rejection.error) := if_pos rejection.isFatal
        have hrest : (next (.error (.failed rejection.error))).run Course.serve
            ⟨store, rest.map Rejection.turn, false, past ++ [call]⟩ = (a, c) := hrun
        obtain ⟨hQ, hquiet⟩ := (h.2.2 _ _ hfatal).run Course.honest.toCalm
          ⟨store, rest.map Rejection.turn, false, past ++ [call]⟩
        rw [hrest] at hQ hquiet
        subst hquiet
        exact ⟨1, hlength 0, .inr ⟨rejection, List.mem_cons_self, hQ, List.mem_cons_self⟩⟩

/-! ## Stores with some keys gone -/

def Store.without (store : Store) (keys : List Key) : Store :=
  store.filter (·.key ∉ keys)

namespace Store

theorem without_sound (h : store.Sound) (keys : List Key) : (store.without keys).Sound :=
  h.filter (· ∉ keys)

theorem without_nil (store : Store) : store.without [] = store := by
  simp [without]

theorem erase_without (store : Store) (keys : List Key) (key : Key) :
    (store.without keys).erase key = store.without (keys ++ [key]) := by
  simp only [without, erase, List.filter_filter]
  refine List.filter_congr fun entry _ => ?_
  simp [Bool.and_comm]

theorem without_without_of_subset {keys other : List Key} (h : keys ⊆ other) :
    (store.without keys).without other = store.without other := by
  simp only [without, List.filter_filter]
  refine List.filter_congr fun entry _ => ?_
  by_cases hkey : entry.key ∈ keys
  · simp [hkey, h hkey]
  · simp [hkey]

theorem without_without_of_superset {keys other : List Key} (h : other ⊆ keys) :
    (store.without keys).without other = store.without keys := by
  simp only [without, List.filter_filter]
  refine List.filter_congr fun entry _ => ?_
  by_cases hkey : entry.key ∈ other
  · simp [hkey, h hkey]
  · simp [hkey]

/-- Some of the first keys that a removal clears are gone, and nothing else is. -/
def Cleaned (ns : String) (store after : Store) : Prop :=
  ∃ gone, gone <+: removedKeys ns ∧ after = store.without gone

theorem Cleaned.refl (ns : String) (store : Store) : Cleaned ns store store :=
  ⟨[], List.nil_prefix, (without_nil store).symm⟩

theorem Cleaned.trans {middle after : Store} (h : Cleaned ns store middle)
    (hafter : Cleaned ns middle after) : Cleaned ns store after := by
  obtain ⟨gone, hgone, rfl⟩ := h
  obtain ⟨more, hmore, rfl⟩ := hafter
  -- Of two prefixes of one list, the shorter is a prefix of the longer.
  rcases List.prefix_or_prefix_of_prefix hgone hmore with hle | hle
  · exact ⟨more, hmore, without_without_of_subset hle.subset⟩
  · exact ⟨gone, hgone, without_without_of_superset hle.subset⟩

theorem Cleaned.without {after : Store} (h : Cleaned ns store after) :
    after.without (removedKeys ns) = store.without (removedKeys ns) := by
  obtain ⟨gone, hgone, rfl⟩ := h
  exact without_without_of_subset hgone.subset

theorem Cleaned.sound {after : Store} (h : Cleaned ns store after) (hsound : store.Sound) :
    after.Sound := by
  obtain ⟨gone, -, rfl⟩ := h
  exact without_sound hsound gone

end Store

/-! ## On the way -/

/-- So many keys are gone, and every call until now was put to a store with no more than some of
them gone. -/
structure ClearedTo (ns : String) (store : Store) (n : Nat) (w : Watched) : Prop where
  left : w.store = store.without ((removedKeys ns).take n)
  met : ∀ visit ∈ w.history, Store.Cleaned ns store visit.2

namespace ClearedTo

variable {n : Nat} {w : Watched}

theorem start (ns : String) (store : Store) : ClearedTo ns store 0 ⟨store, []⟩ where
  left := by rw [List.take_zero, Store.without_nil]
  met _ hvisit := absurd hvisit List.not_mem_nil

theorem after (h : ClearedTo ns store n w) (call : Call) {m : Nat} {next : Store}
    (hnext : next = store.without ((removedKeys ns).take m)) :
    ClearedTo ns store m (w.after call next) where
  left := hnext
  met visit hvisit := by
    rcases List.mem_append.mp hvisit with hmem | hmem
    · exact h.met visit hmem
    · rw [List.mem_singleton.mp hmem]
      exact ⟨_, List.take_prefix n _, h.left⟩

theorem deleted (h : ClearedTo ns store n w) {k : Kind} {name : String}
    (hkey : (removedKeys ns)[n]? = some (keyOf k ns name)) :
    ClearedTo ns store (n + 1) (w.deleted k ns name) := by
  refine h.after _ ?_
  rw [h.left, Store.erase_without, List.take_add_one, hkey, Option.toList_some]

theorem removed (ns : String) (store : Store) :
    ∃ n, ClearedTo ns store n (Watched.removed ns ⟨store, []⟩) := by
  have hunmanaged : ClearedTo ns store 3 (Watched.unmanaged ns ⟨store, []⟩) :=
    (((start ns store).deleted rfl).deleted rfl).deleted rfl
  have hlisted := hunmanaged.after (.list .deployment ns) hunmanaged.left
  rw [Watched.removed]
  split
  · exact ⟨4, hlisted.deleted rfl⟩
  · exact ⟨3, hlisted⟩

end ClearedTo

theorem cleaned_of_met (h : store.Sound) (config : InstallConfig) (tenant : Tenant) {other : Store}
    (hmet : other ∈ Watched.met (Installer.removal config tenant) store) :
    Store.Cleaned tenant.ns store other := by
  obtain ⟨n, hcleared⟩ := ClearedTo.removed tenant.ns store
  rw [Watched.met, removal_watched (w := ⟨store, []⟩) h] at hmet
  obtain ⟨visit, hvisit, rfl⟩ := List.mem_map.mp hmet
  exact hcleared.met visit hvisit

/-! ## Attempts -/

/-- An attempt to clean up a namespace, with what becomes of its calls. Past the schedule every call
is answered. -/
structure Cleanup (ns : String) where
  config : InstallConfig := {}
  tenant : Tenant
  place : tenant.ns = ns
  schedule : List (Option Rejection) := []

namespace Cleanup

def errand (cleanup : Cleanup ns) : Errand where
  job := .remove
  config := cleanup.config
  tenant := cleanup.tenant
  turns := cleanup.schedule.map Rejection.turn

def run (cleanup : Cleanup ns) (store : Store) : Report × Course :=
  cleanup.errand.run store

def undisturbed (cleanup : Cleanup ns) : Cleanup ns := { cleanup with schedule := [] }

def runAll (cleanups : List (Cleanup ns)) (store : Store) : Store :=
  (Errand.runAll (cleanups.map errand) store).2

variable {report : Report} {c : Course}

theorem run_cases (h : store.Sound) (cleanup : Cleanup ns)
    (hrun : cleanup.run store = (report, c)) :
    let taken := cleanup.schedule.take c.calls.length
    (∀ rejection ∈ taken, rejection = none) ∧ report = ⟨some Teardown.stage.name, .success⟩ ∧
        c.store = store.without (removedKeys ns) ∨
      ∃ rejection, some rejection ∈ taken ∧
        report = ⟨some Teardown.stage.name, .failed rejection.error⟩ ∧
        Store.Cleaned ns store c.store := by
  obtain ⟨config, tenant, rfl, schedule⟩ := cleanup
  obtain ⟨n, hn, hends⟩ := (removal_givesUp config tenant).run_rejected hrun
  obtain rfl : c.calls.length = n := hn.trans (Nat.zero_add n)
  rcases hends with ⟨hnone, hsame⟩ | ⟨rejection, hmem, hreport, hmet⟩
  · rw [removal_of_sound h config tenant] at hsame
    exact .inl ⟨hnone, (congrArg Prod.fst hsame).symm, (congrArg Prod.snd hsame).symm⟩
  · exact .inr ⟨rejection, hmem, hreport, cleaned_of_met h config tenant hmet⟩

theorem run_cleaned (h : store.Sound) (cleanup : Cleanup ns) :
    Store.Cleaned ns store (cleanup.run store).2.store := by
  rcases cleanup.run_cases h rfl with ⟨-, -, hstore⟩ | ⟨-, -, -, hcleaned⟩
  · exact ⟨_, List.prefix_refl _, hstore⟩
  · exact hcleaned

theorem runAll_cleaned (h : store.Sound) (cleanups : List (Cleanup ns)) :
    Store.Cleaned ns store (runAll cleanups store) := by
  induction cleanups generalizing store with
  | nil => exact .refl ns store
  | cons cleanup rest ih =>
    have hfirst := cleanup.run_cleaned h
    exact hfirst.trans (ih (hfirst.sound h))

theorem run_undisturbed (h : store.Sound) (cleanup : Cleanup ns) :
    (cleanup.undisturbed.run store).1 = ⟨some Teardown.stage.name, .success⟩ ∧
      (cleanup.undisturbed.run store).2.store = store.without (removedKeys ns) := by
  rcases cleanup.undisturbed.run_cases h rfl with ⟨-, hreport, hstore⟩ | ⟨rejection, hmem, -⟩
  · exact ⟨hreport, hstore⟩
  · simp [undisturbed] at hmem

/-- An attempt leaves some of the first keys gone that are to be removed, and all of them just if
no call of it was rejected. However many attempts came before, one that is undisturbed leaves what
it would have left without them, and nothing is left to do after it. -/
theorem cleanup_resumes (h : store.Sound) (cleanup : Cleanup ns)
    (hrun : cleanup.run store = (report, c)) :
    Store.Cleaned ns store c.store ∧
      (report.outcome = .success ↔
        ∀ rejection ∈ cleanup.schedule.take c.calls.length, rejection = none) ∧
      (report.outcome = .success → c.store = store.without (removedKeys ns)) ∧
      ∀ (before : List (Cleanup ns)) (next : Cleanup ns),
        let once := (cleanup.undisturbed.run store).2.store
        let last := cleanup.undisturbed.run (runAll before store)
        last.1.outcome = .success ∧ last.2.store = once ∧ (next.run once).2.store = once := by
  have hcases := cleanup.run_cases h hrun
  refine ⟨?_, ?_, ?_, fun before next => ?_⟩
  · have hcleaned := cleanup.run_cleaned h
    rwa [hrun] at hcleaned
  · rcases hcases with ⟨hnone, rfl, -⟩ | ⟨rejection, hmem, rfl, -⟩
    · exact ⟨fun _ => hnone, fun _ => rfl⟩
    · exact ⟨nofun, fun hnone => nomatch hnone _ hmem⟩
  · intro hsuccess
    rcases hcases with ⟨-, -, hstore⟩ | ⟨rejection, -, rfl, -⟩
    · exact hstore
    · cases hsuccess
  · have hbefore := runAll_cleaned h before
    obtain ⟨-, honce⟩ := cleanup.run_undisturbed h
    obtain ⟨hreport, hlast⟩ := cleanup.run_undisturbed (hbefore.sound h)
    obtain ⟨gone, hgone, hnext⟩ := next.run_cleaned (Store.without_sound h (removedKeys ns))
    dsimp only
    refine ⟨congrArg Report.outcome hreport, ?_, ?_⟩
    · rw [hlast, honce, hbefore.without]
    · rw [honce, hnext, Store.without_without_of_superset hgone.subset]

def operatorDeployment (name : String) : Deployment where
  metadata := { name, ns := "grafana" }
  body := {}

/-- The first attempt is rejected at its second call and the next at its fourth. A deployment of
nearly the same name and the objects of another namespace outlast the third, which is whole. -/
theorem cleanup_resumes_twice :
    let tenant : Tenant := { ns := "grafana", version := "v4.2.0" }
    let canary := (operatorDeployment "grafana-operator-canary").stored
    let foreign := ({ tenant with ns := "other" } : Tenant).operatorGroup.stored
    let store : Store := [canary, (tenant.catalogSource {}).stored, tenant.subscription.stored,
      (operatorDeployment "grafana-operator").stored, foreign, tenant.operatorGroup.stored]
    let timeout : Rejection := ⟨.internal "api" "timeout", rfl⟩
    let early : Cleanup "grafana" := { tenant, place := rfl, schedule := [none, some timeout] }
    let late : Cleanup "grafana" :=
      { tenant, place := rfl, schedule := [none, none, none, some timeout] }
    store.Sound ∧ (early.run store).1.outcome ≠ .success ∧
      (early.undisturbed.run (runAll [early, late] store)).2.store = [canary, foreign] := by
  intro tenant canary foreign store timeout early late
  have hsound : store.Sound := by
    refine ⟨by decide, ?_⟩
    simp only [store, List.forall_mem_cons, List.not_mem_nil, false_imp_iff, implies_true, and_true]
    exact ⟨Entry.sound_stored _, Entry.sound_stored _, Entry.sound_stored _, Entry.sound_stored _,
      Entry.sound_stored _, Entry.sound_stored _⟩
  obtain ⟨-, hsuccess, -, hresumes⟩ := cleanup_resumes hsound early (Prod.eta _).symm
  refine ⟨hsound, fun h => ?_, ?_⟩
  · have hcalls : (early.run store).2.calls.length = 2 := by decide
    have hnone := hsuccess.mp h
    rw [hcalls] at hnone
    exact nomatch hnone (some timeout) (.tail _ (.head _))
  · obtain ⟨-, hlast, -⟩ := hresumes [early, late] early
    rw [hlast, (early.run_undisturbed hsound).2]
    decide

end Cleanup

end GrafanaInstall
