import GrafanaInstall.Proofs.Install.Idle

/-!
# Takeovers

A version record does not go at once when it is deleted. The run that deletes it stops there. A
later run no longer finds the subscription of the former install, and goes on to apply its own
objects whether the record is still listed or not.
-/

namespace GrafanaInstall

open Memory Program

/-! ## Records that linger -/

namespace Call

def departs : Call → Option Key
  | .delete .clusterServiceVersion ns name => some (keyOf .clusterServiceVersion ns name)
  | _ => none

def takesOver : Call → Bool
  | .apply .catalogSource _ | .apply .subscription _ => true
  | _ => false

end Call

/-- A store that goes on listing a version record for some calls after its delete. -/
structure Lingering where
  store : Store
  delay : Nat
  /-- What was deleted, each with the number of calls for which it is still listed. -/
  leaving : List (Key × Nat) := []
  history : List (Call × Store) := []

namespace Lingering

def change (call : Call) (s : Lingering) : Lingering :=
  match call.departs with
  | some key =>
    if (s.store.find? key).isSome then { s with leaving := s.leaving ++ [(key, s.delay)] } else s
  | none => { s with store := (answer call s.store).2 }

/-- What is due goes, and the rest is one call nearer to it. -/
def pass (s : Lingering) : Lingering :=
  { s with
    store := s.store.filter fun entry => (entry.key, 0) ∉ s.leaving
    leaving := (s.leaving.filter (0 < ·.2)).map fun (key, calls) => (key, calls - 1) }

def serve : Handler Cluster Lingering
  | .call call, s =>
    ((Memory.serve (.call call) s.store).1,
      { (s.change call).pass with history := s.history ++ [(call, s.store)] })
  | .log _, s => ((), s)
  | .cancelled, s => (false, s)

theorem undisturbed : serve.Undisturbed store where
  log _ _ := rfl
  cancelled _ := rfl
  reply _ _ := rfl
  going _ := rfl

theorem serve_of_none (store : Store) (delay : Nat) (history : List (Call × Store)) {call : Call}
    (h : call.departs = none) :
    (serve (.call call) { store, delay, history }).2 =
      { store := (answer call store).2, delay, history := history ++ [(call, store)] } := by
  simp [serve, change, h, pass]

section

variable (store : Store) (delay : Nat) (history : List (Call × Store)) (key : Key)

theorem pass_due :
    pass { store, delay, leaving := [(key, 0)], history } =
      { store := store.erase key, delay, history } := by
  simp [pass, Store.erase]

theorem pass_later (calls : Nat) :
    pass { store, delay, leaving := [(key, calls + 1)], history } =
      { store, delay, leaving := [(key, calls)], history } := by
  simp [pass]

variable {call : Call}

theorem serve_due (h : call.departs = none) :
    (serve (.call call) { store, delay, leaving := [(key, 0)], history }).2 =
      { store := (answer call store).2.erase key, delay
        history := history ++ [(call, store)] } := by
  simp [serve, change, h, pass_due]

theorem serve_later (h : call.departs = none) (calls : Nat) :
    (serve (.call call) { store, delay, leaving := [(key, calls + 1)], history }).2 =
      { store := (answer call store).2, delay, leaving := [(key, calls)]
        history := history ++ [(call, store)] } := by
  simp [serve, change, h, pass_later]

end

def after (s : Lingering) (run : InstallConfig × Tenant) : Lingering :=
  ((installation.run run.1 run.2).run serve s).2

end Lingering

/-- Nothing is applied to take over while a version record is still listed that was deleted. -/
def Waits (history : List (Call × Store)) : Prop :=
  history.Pairwise fun earlier later => ∀ key, earlier.1.departs = some key →
    later.1.takesOver → later.2.find? key = none

theorem Waits.of_prefix {earlier history : List (Call × Store)} (h : Waits history)
    (hstart : earlier <+: history) : Waits earlier :=
  h.sublist hstart.sublist

namespace Lingering

theorem history_run (program : Program Cluster α) (s : Lingering) :
    s.history <+: (program.run serve s).2.history := by
  induction program generalizing s with
  | done => exact List.prefix_rfl
  | ask request next ih =>
    cases request with
    | call call => exact (List.prefix_append ..).trans (ih _ (serve (.call call) s).2)
    | log event => exact ih _ _
    | cancelled => exact ih _ _

theorem history_runs (runs : List (InstallConfig × Tenant)) (s : Lingering) :
    s.history <+: (runs.foldl after s).history := by
  induction runs generalizing s with
  | nil => exact List.prefix_rfl
  | cons run rest ih => exact (history_run _ s).trans (ih _)

/-! ## The first run -/

variable {store : Store} {ns : String} {former : Subscription} {record : ClusterServiceVersion}

def firstVisits (store : Store) (ns : String) (record : ClusterServiceVersion) :
    List (Call × Store) :=
  [(.list .subscription ns, store), (.delete .subscription ns subscriptionName, store),
    (.list .clusterServiceVersion ns, store.bare ns),
    (.delete .clusterServiceVersion ns record.anyName, store.bare ns)]

/-- A namespace just after its version record was deleted. -/
def departed (store : Store) (ns : String) (record : ClusterServiceVersion) (delay : Nat) :
    Lingering :=
  let leaving := [(keyOf .clusterServiceVersion ns record.anyName, delay)]
  pass { store := store.bare ns, delay, leaving, history := firstVisits store ns record }

theorem waits_departed (store : Store) (ns : String) (record : ClusterServiceVersion)
    (delay : Nat) : Waits (departed store ns record delay).history := by
  simp [Waits, departed, pass, firstVisits, Call.takesOver]

theorem find?_bare (hsound : store.Sound) (hrecord : store.record? ns = some record) :
    ((store.bare ns).find? (keyOf .clusterServiceVersion ns record.anyName)).isSome := by
  obtain ⟨object, hfind, -⟩ :=
    Option.bind_eq_some_iff.mp (Store.held_of_record hsound hrecord)
  rw [Store.bare, Store.find?_erase, if_neg (keyOf_ne (by decide)), hfind]
  rfl

theorem after_first (hsound : store.Sound) (config : InstallConfig) {tenant : Tenant}
    (hlegacy : store.legacy? tenant.ns = some former)
    (hrecord : store.record? tenant.ns = some record) (delay : Nat) :
    after { store, delay } (config, tenant) = departed store tenant.ns record delay := by
  have hlist : (serve (.call (.list .subscription tenant.ns)) { store, delay }).2 =
      { store, delay, history := [(.list .subscription tenant.ns, store)] } :=
    serve_of_none store delay [] rfl
  have hbared : Legacy.bared serve tenant.ns { store, delay } =
      { store := store.bare tenant.ns, delay
        history := [(.list .subscription tenant.ns, store),
          (.delete .subscription tenant.ns subscriptionName, store)] } := by
    rw [Legacy.bared, hlist, serve_of_none _ _ _ rfl, answer, delete_store]
    rfl
  have hremove := Legacy.run_of_some undisturbed hsound hlegacy (by rw [hlist])
    (by rw [hbared, Store.bare]) (by rw [hbared, serve_of_none _ _ _ rfl, answer])
  rw [hrecord, hbared, serve_of_none _ _ _ rfl] at hremove
  have hfound := find?_bare hsound hrecord
  refine (congrArg Prod.snd (undisturbed.runFrom_inProgress hremove)).trans ?_
  simp [serve, change, pass, Call.departs, hfound, departed, firstVisits, answer]

/-! ## A record that goes in time -/

/-- Nothing is on its way out, and the record is gone. -/
structure Gone (ns name : String) (s : Lingering) : Prop where
  migrated : s.store.Migrated ns
  absent : s.store.find? (keyOf .clusterServiceVersion ns name) = none
  leaving_eq : s.leaving = []
  only : ∀ visit ∈ s.history, ∀ key, visit.1.departs = some key →
    key = keyOf .clusterServiceVersion ns name
  waits : ∀ visit ∈ s.history, visit.1.takesOver →
    visit.2.find? (keyOf .clusterServiceVersion ns name) = none

/-- The record is gone by the next call. -/
structure Going (ns name : String) (s : Lingering) : Prop where
  migrated : s.store.Migrated ns
  listed : Gone ns name (serve (.call (.list .subscription ns)) s).2

variable {name : String} {s : Lingering}

theorem Gone.call (h : Gone ns name s) {call : Call} (hcall : call.departs = none)
    (hmigrated : (answer call s.store).2.Migrated ns)
    (habsent : (answer call s.store).2.find? (keyOf .clusterServiceVersion ns name) = none) :
    Gone ns name (serve (.call call) s).2 := by
  obtain ⟨store, delay, leaving, history⟩ := s
  obtain ⟨-, hfind, rfl, only, waits⟩ := h
  rw [serve_of_none _ _ _ hcall]
  refine ⟨hmigrated, habsent, rfl, fun visit hmem => ?_, fun visit hmem => ?_⟩
  · rcases List.mem_append.mp hmem with hmem | hmem
    · exact only visit hmem
    · rw [List.mem_singleton.mp hmem]
      intro other hother
      cases hcall.symm.trans hother
  · rcases List.mem_append.mp hmem with hmem | hmem
    · exact waits visit hmem
    · rw [List.mem_singleton.mp hmem]
      exact fun _ => hfind

theorem Gone.going (h : Gone ns name s) : Going ns name s :=
  ⟨h.migrated, h.call rfl h.migrated h.absent⟩

theorem Gone.history (h : Gone ns name s) : Waits s.history :=
  List.pairwise_iff_forall_sublist.mpr fun {earlier later} hboth other hother htakes => by
    rw [h.only earlier (hboth.subset List.mem_cons_self) other hother]
    exact h.waits later (hboth.subset (List.mem_cons_of_mem _ List.mem_cons_self)) htakes

theorem Going.history (h : Going ns name s) : Waits s.history :=
  h.listed.history.of_prefix (List.prefix_append ..)

end Lingering

theorem SettlingCall.departs_eq {config : InstallConfig} {tenant : Tenant} {call : Call}
    (h : SettlingCall config tenant call) : call.departs = none := by
  cases h <;> rfl

theorem SettlingCall.find?_record {config : InstallConfig} {tenant : Tenant} {call : Call}
    (h : SettlingCall config tenant call) (store : Store) (ns name : String) :
    (answer call store).2.find? (keyOf .clusterServiceVersion ns name) =
      store.find? (keyOf .clusterServiceVersion ns name) := by
  cases h with
  | list => rfl
  | catalogSource | subscription | operatorGroup =>
    exact find?_apply store _ (keyOf_ne (by decide))

namespace Lingering

variable {store : Store} {ns name : String} {record : ClusterServiceVersion}
variable {config : InstallConfig} {tenant : Tenant}

theorem going_triple :
    Triple serve (fun _ _ => True) (Going tenant.ns name) (installation.run config tenant)
      fun _ => Going tenant.ns name := by
  have honest := undisturbed.honest
  have hsettling : ∀ call, SettlingCall config tenant call → ∀ s, Gone tenant.ns name s →
      True ∧ Gone tenant.ns name (serve (.call call) s).2 :=
    fun call hcall s hs => ⟨trivial, hs.call hcall.departs_eq
      (hs.migrated.install hcall.installCall) ((hcall.find?_record ..).trans hs.absent)⟩
  refine Pipeline.runFrom_cons_triple honest.toCalm (fun _ hs => hs) ?_
    ((Pipeline.runFrom_triple honest.toCalm (settling_triple honest.toCalm hsettling)).weaken
      fun _ _ hs => hs.going) fun _ _ hs _ => hs
  refine (Legacy.remove_idle honest (fun _ hs => hs.migrated) fun _ hs => ?_).weaken
    fun _ _ hs => ⟨hs.going, fun _ => hs⟩
  exact ⟨trivial, hs.listed⟩

theorem Going.runs {s : Lingering} (h : Going ns name s)
    {runs : List (InstallConfig × Tenant)} (hruns : ∀ run ∈ runs, run.2.ns = ns) :
    Going ns name (runs.foldl after s) := by
  induction runs generalizing s with
  | nil => exact h
  | cons run rest ih =>
    obtain ⟨rfl, hrest⟩ := List.forall_mem_cons.mp hruns
    exact ih (going_triple s h).2 hrest

theorem departed_going (hsound : store.Sound) (record : ClusterServiceVersion) {delay : Nat}
    (hdelay : delay < 2) : Going ns record.anyName (departed store ns record delay) := by
  let key := keyOf .clusterServiceVersion ns record.anyName
  have hbare : (store.bare ns).Migrated ns := ⟨hsound.erase _, legacy?_bare store ns⟩
  have habsent : ((store.bare ns).erase key).find? key = none := by
    rw [Store.find?_erase, if_pos rfl]
  match delay, hdelay with
  | 0, _ =>
    have hgone : Gone ns record.anyName (departed store ns record 0) := by
      rw [departed, pass_due]
      exact ⟨hbare.erase key, habsent, rfl, by simp [firstVisits, Call.departs],
        by simp [firstVisits, Call.takesOver]⟩
    exact hgone.going
  | 1, _ =>
    rw [departed, pass_later]
    refine ⟨hbare, ?_⟩
    rw [serve_due _ _ _ _ rfl]
    exact ⟨hbare.erase key, habsent, rfl, by simp [firstVisits, Call.departs],
      by simp [firstVisits, Call.takesOver]⟩

/-! ## A record that stays -/

theorem history_past {s : Lingering} (h : s.store.Migrated tenant.ns)
    (hlist : (serve (.call (.list .subscription tenant.ns)) s).2.store = s.store) :
    s.history ++ [(.list .subscription tenant.ns, s.store),
        (.apply _ (tenant.catalogSource config), s.store)] <+:
      (after s (config, tenant)).history := by
  let listed := (serve (.call (.list .subscription tenant.ns)) s).2
  let applied := (serve (.call (.apply _ (tenant.catalogSource config))) listed).2
  have hremove : Program.run serve (Legacy.remove tenant.ns) s = (.ok .success, listed) :=
    Legacy.run_of_none undisturbed h.sound h.noLegacy
  have hcatalog : Program.run serve (Objects.applyCatalogSource config tenant) listed =
      (.ok .success, applied) :=
    Objects.applyCatalogSource_run undisturbed (hlist.symm ▸ h.sound) config tenant
  have hrun : (installation.run config tenant).run serve s =
      (Pipeline.runFrom config tenant ⟨some Objects.catalogSourceStage.name, .success⟩
        (installation.drop 2)).run serve applied := by
    refine (undisturbed.runFrom_success hremove).trans ?_
    exact undisturbed.runFrom_success hcatalog
  have happlied : applied.history = s.history ++ [(.list .subscription tenant.ns, s.store),
      (.apply _ (tenant.catalogSource config), s.store)] := by
    show s.history ++ [_] ++ [(_, listed.store)] = _
    rw [hlist, List.append_assoc]
    rfl
  rw [after, hrun, ← happlied]
  exact history_run _ applied

/-- Past the first call after the delete, a record that stays is overtaken. -/
theorem overtakes (hsound : store.Sound) (config : InstallConfig)
    (hrecord : store.record? tenant.ns = some record) (delay : Nat) :
    ¬Waits (after (departed store tenant.ns record (delay + 2)) (config, tenant)).history := by
  intro hwaits
  have hbare : (store.bare tenant.ns).Migrated tenant.ns :=
    ⟨hsound.erase _, legacy?_bare store tenant.ns⟩
  rw [departed, pass_later] at hwaits
  have hseen := hwaits.of_prefix (history_past hbare (by rw [serve_later _ _ _ _ rfl]; rfl))
  have habsent := (List.pairwise_append.mp hseen).2.2
    (.delete .clusterServiceVersion tenant.ns record.anyName, store.bare tenant.ns)
    (by simp [firstVisits]) (.apply _ (tenant.catalogSource config), store.bare tenant.ns)
    (by simp) _ rfl rfl
  have hfound := find?_bare hsound hrecord
  rw [habsent] at hfound
  cases hfound

end Lingering

/-- Where a former install has a version record, the runs wait for it to go just if there is no
second run, or if the record is gone by the second call after its delete. -/
theorem takeover_waits_iff {store : Store} (hsound : store.Sound) {ns : String}
    {former : Subscription} {record : ClusterServiceVersion}
    (hlegacy : store.legacy? ns = some former) (hrecord : store.record? ns = some record)
    (delay : Nat) {runs : List (InstallConfig × Tenant)} (hruns : ∀ run ∈ runs, run.2.ns = ns) :
    Waits (runs.foldl Lingering.after { store, delay }).history ↔ runs.length < 2 ∨ delay < 2 := by
  match runs with
  | [] => simp [Waits]
  | (config, tenant) :: rest =>
    obtain ⟨rfl, hrest⟩ := List.forall_mem_cons.mp hruns
    rw [List.foldl_cons, Lingering.after_first hsound config hlegacy hrecord]
    match rest with
    | [] => simp [Lingering.waits_departed]
    | (config, other) :: rest =>
      rcases Nat.lt_or_ge delay 2 with hdelay | hdelay
      · have hgoing := (Lingering.departed_going hsound record hdelay).runs hrest
        exact iff_of_true hgoing.history (.inr hdelay)
      · obtain ⟨more, rfl⟩ := Nat.exists_eq_add_of_le' hdelay
        have hns : other.ns = tenant.ns := hrest _ List.mem_cons_self
        have hovertakes := Lingering.overtakes hsound config (hns.symm ▸ hrecord) more
        refine iff_of_false (fun hwaits => hovertakes ?_) (by simp)
        rw [hns]
        exact hwaits.of_prefix (Lingering.history_runs rest _)

/-- A record that is still listed for two calls is overtaken. -/
theorem takeover_overtakes_former :
    let tenant : Tenant := { ns := "grafana", version := "v4.2.0" }
    let runs : List (InstallConfig × Tenant) := [({}, tenant), ({}, tenant)]
    formerStore.Sound ∧ formerStore.legacy? "grafana" = some formerSubscription ∧
      formerStore.record? "grafana" = some formerRecord ∧
      ¬Waits (runs.foldl Lingering.after { store := formerStore, delay := 2 }).history := by
  intro tenant runs
  have hlegacy : formerStore.legacy? "grafana" = some formerSubscription := by decide
  have hrecord : formerStore.record? "grafana" = some formerRecord := by decide
  have hruns : ∀ run ∈ runs, run.2.ns = "grafana" := by simp [runs, tenant]
  refine ⟨formerStore_sound, hlegacy, hrecord, fun hwaits => ?_⟩
  have hfew := (takeover_waits_iff formerStore_sound hlegacy hrecord 2 hruns).mp hwaits
  simp [runs] at hfew

end GrafanaInstall
