import GrafanaInstall.Proofs.Errand

/-!
# Operator groups

Operators cannot be installed in a namespace with two operator groups. No errand makes a second one,
and an installation leaves those that it finds as they are, whatever becomes of its calls and
whatever others write in between, as long as they write no operator group.
-/

namespace GrafanaInstall

open Memory Program

def Store.groups (store : Store) (ns : String) : Store :=
  store.filter fun entry => entry.key.kind = Kind.operatorGroup.name && entry.key.ns = ns

/-! ## Passages -/

/-- Somebody else who writes to the store. -/
structure Bystander where
  write : Store → Store
  spares : ∀ store, (write store).groups = store.groups

/-- A course in which others write too, one after each call. -/
structure Scene where
  course : Course
  others : List Bystander := []

namespace Scene

def groups (scene : Scene) : String → Store := scene.course.store.groups

def serve : Handler Cluster Scene
  | .call call, scene =>
    let (reply, course) := Course.serve (.call call) scene.course
    match scene.others with
    | [] => (reply, ⟨course, []⟩)
    | other :: others => (reply, ⟨{ course with store := other.write course.store }, others⟩)
  | .log _, scene => ((), scene)
  | .cancelled, scene => (scene.course.cancelled, scene)

theorem honest : serve.Honest (·.course.store) where
  log _ _ := rfl
  cancelled _ := rfl
  reply call scene := by
    obtain ⟨course, _ | ⟨other, others⟩⟩ := scene
    · exact Course.honest.reply call course
    · exact Course.honest.reply call course

theorem groups_serve (call : Call) (scene : Scene) :
    (serve (.call call) scene).2.groups = scene.groups ∨
      (serve (.call call) scene).2.groups = (answer call scene.course.store).2.groups := by
  have hothers : (serve (.call call) scene).2.groups =
      (Course.serve (.call call) scene.course).2.store.groups := by
    obtain ⟨course, _ | ⟨other, others⟩⟩ := scene
    · rfl
    · exact other.spares _
  rw [hothers]
  exact (Course.store_serve call scene.course).imp (congrArg Store.groups) (congrArg Store.groups)

theorem keeps_serve {G : (String → Store) → Prop} {call : Call} {scene : Scene}
    (hscene : G scene.groups) (h : G (answer call scene.course.store).2.groups) :
    G (serve (.call call) scene).2.groups := by
  rcases groups_serve call scene with hgroups | hgroups
  · rwa [hgroups]
  · rwa [hgroups]

end Scene

structure Passage where
  errand : Errand
  others : List Bystander := []

namespace Passage

def start (passage : Passage) (store : Store) : Scene :=
  ⟨{ store, turns := passage.errand.turns, cancelled := passage.errand.cancelled }, passage.others⟩

def after (passage : Passage) (store : Store) : Store :=
  (passage.errand.program.run Scene.serve (passage.start store)).2.course.store

def met (passage : Passage) (store : Store) : List Store :=
  ((passage.errand.program.visits Scene.serve (passage.start store)).map (·.2.course.store)) ++
    [passage.after store]

def metAll : List Passage → Store → List Store
  | [], store => [store]
  | passage :: rest, store => passage.met store ++ metAll rest (passage.after store)

end Passage

/-! ## Calls -/

def Call.SparesGroups (call : Call) : Prop :=
  ∀ key, call.key? = some key → key.kind ≠ Kind.operatorGroup.name

theorem Call.SparesGroups.groups_answer {call : Call} (h : call.SparesGroups) (store : Store) :
    (answer call store).2.groups = store.groups := by
  funext ns
  refine filter_answer (p := fun key => key.kind = Kind.operatorGroup.name && key.ns = ns) call
    store fun key hkey => ?_
  simp [h key hkey]

theorem Store.groups_erase_sublist (store : Store) (key : Key) (ns : String) :
    ((store.erase key).groups ns).Sublist (store.groups ns) :=
  List.filter_sublist.filter _

theorem Store.groups_apply {store : Store} {tenant : Tenant} (h : store.groups tenant.ns = [])
    (ns : String) :
    (apply tenant.operatorGroup store).2.groups ns =
      if ns = tenant.ns then [tenant.operatorGroup.stored] else store.groups ns := by
  have habsent : store.find? tenant.operatorGroup.key = none := by
    refine find?_eq_none.mpr fun hmem => ?_
    obtain ⟨entry, hentry, hkey⟩ := List.mem_map.mp hmem
    have hgroup : entry ∈ store.groups tenant.ns := by
      refine List.mem_filter.mpr ⟨hentry, ?_⟩
      rw [hkey]
      simp [Object.key, keyOf, Tenant.operatorGroup, managedMetadata]
    rw [h] at hgroup
    exact absurd hgroup List.not_mem_nil
  have happly : (apply tenant.operatorGroup store).2 = store ++ [tenant.operatorGroup.stored] := by
    rw [apply_of_absent habsent]
    exact put_of_absent _ habsent
  have hkey : tenant.operatorGroup.stored.key = keyOf .operatorGroup tenant.ns operatorGroupName :=
    rfl
  rw [happly, groups, List.filter_append, ← groups]
  by_cases hns : ns = tenant.ns
  · simp [hns, h, hkey, keyOf]
  · simp [hns, Ne.symm hns, hkey, keyOf]

/-! ## Installations -/

variable {base : Store} {config : InstallConfig} {tenant : Tenant}

/-- What an installation leaves of the operator groups that it starts from. -/
def Grouped (tenant : Tenant) (base : Store) (groups : String → Store) : Prop :=
  ∀ ns, groups ns = base.groups ns ∨
    ns = tenant.ns ∧ base.groups ns = [] ∧ groups ns = [tenant.operatorGroup.stored]

theorem Grouped.apply {store : Store} (h : Grouped tenant base store.groups)
    (hnone : store.groups tenant.ns = []) :
    Grouped tenant base (Memory.apply tenant.operatorGroup store).2.groups := by
  intro ns
  rw [Store.groups_apply hnone]
  by_cases hns : ns = tenant.ns
  · subst hns
    have hbase : base.groups tenant.ns = [] := by
      rcases h tenant.ns with hsame | ⟨-, hbase, -⟩
      · exact hsame.symm.trans hnone
      · exact hbase
    exact .inr ⟨rfl, hbase, if_pos rfl⟩
  · rw [if_neg hns]
    exact h ns

theorem groups_of_list {store : Store} {ns : String}
    (h : (Memory.serve (.call (.list .operatorGroup ns)) store).1 = .ok []) :
    store.groups ns = [] := by
  have hobjects : store.objects Kind.operatorGroup.name ns = (store.groups ns).map (·.object) := rfl
  replace h : ((store.objects Kind.operatorGroup.name ns).mapM
      (Memory.read .operatorGroup)).mapError Halt.failed = .ok [] := h
  rw [hobjects] at h
  cases hgroups : store.groups ns with
  | nil => rfl
  | cons entry rest =>
    rw [hgroups, List.map_cons, List.mapM_cons] at h
    cases hfirst : Memory.read .operatorGroup entry.object with
    | error error =>
      rw [hfirst] at h
      cases h
    | ok group =>
      cases hrest : (rest.map (·.object)).mapM (Memory.read .operatorGroup) with
      | error error =>
        rw [hfirst, hrest] at h
        cases h
      | ok groups =>
        rw [hfirst, hrest] at h
        cases h

abbrev KeepsGrouped (tenant : Tenant) (base : Store) (program : Program Cluster α) : Prop :=
  Triple Scene.serve (fun _ scene => Grouped tenant base scene.groups)
    (Grouped tenant base ·.groups) program fun _ => (Grouped tenant base ·.groups)

theorem Program.Asks.keepsGrouped {program : Program Cluster α}
    (h : program.Asks Call.SparesGroups) : KeepsGrouped tenant base program := by
  refine h.triple Scene.honest.toCalm fun call hcall scene hscene => ⟨hscene, ?_⟩
  refine Scene.keeps_serve hscene ?_
  rw [hcall.groups_answer]
  exact hscene

theorem Objects.ensureOperatorGroup_keepsGrouped :
    KeepsGrouped tenant base (ensureOperatorGroup tenant) := by
  -- Others write no groups, so between the list and the apply there is still none.
  have hlisted : Triple Scene.serve (fun _ scene => Grouped tenant base scene.groups)
      (Grouped tenant base ·.groups) (Cluster.list .operatorGroup tenant.ns) fun reply scene =>
        Grouped tenant base scene.groups ∧
          (reply = .ok [] → scene.groups tenant.ns = []) := by
    refine Task.triple_call fun scene hscene => ⟨hscene, ?_⟩
    have hsame : (Scene.serve (.call (.list .operatorGroup tenant.ns)) scene).2.groups =
        scene.groups := or_self_iff.mp (Scene.groups_serve _ scene)
    rw [hsame]
    refine ⟨hscene, fun hreply => ?_⟩
    rcases Scene.honest.reply (.list .operatorGroup tenant.ns) scene with h | ⟨halt, h⟩
    · exact groups_of_list (h.symm.trans hreply)
    · cases h.symm.trans hreply
  refine Task.triple_bind hlisted (fun groups => ?_) fun _ _ hscene => hscene.1
  cases groups with
  | cons group rest =>
    exact Task.triple_bind (Task.triple_log Scene.honest.toCalm)
      (fun _ => .done fun _ hscene => hscene.1) fun _ _ hscene => hscene.1
  | nil =>
    have happlied : Triple Scene.serve (fun _ scene => Grouped tenant base scene.groups)
        (fun scene => Grouped tenant base scene.groups ∧
          ((.ok [] : Except Halt (List OperatorGroup)) = .ok [] → scene.groups tenant.ns = []))
        (Cluster.apply tenant.operatorGroup) fun _ => (Grouped tenant base ·.groups) := by
      refine Task.triple_call fun scene hscene => ⟨hscene.1, ?_⟩
      exact Scene.keeps_serve hscene.1 (hscene.1.apply (hscene.2 rfl))
    refine Task.triple_bind happlied (fun result => ?_) fun _ _ hscene => hscene
    exact Task.triple_bind (Task.triple_log Scene.honest.toCalm)
      (fun _ => .done fun _ hscene => hscene) fun _ _ hscene => hscene

theorem stages_keepGrouped :
    ∀ stage ∈ installation, KeepsGrouped tenant base (stage.run config tenant) := by
  have hspares (k : Kind) (hk : k ≠ .operatorGroup) {ns name : String} :
      ∀ key, some (keyOf k ns name) = some key → key.kind ≠ Kind.operatorGroup.name := by
    rintro _ ⟨⟩ hname
    exact hk (Kind.name_inj.mp hname)
  have hlist (k : Kind) (ns : String) : Call.SparesGroups (.list k ns) := nofun
  simp only [installation, List.forall_mem_cons, List.not_mem_nil, false_imp_iff, implies_true,
    and_true]
  refine ⟨Program.Asks.keepsGrouped (Program.GivesUp.asks (Legacy.remove_plain (hlist · _)
      (hspares _ (by decide)) fun _ _ => hspares _ (by decide)).givesUp),
    Program.Asks.keepsGrouped (Program.GivesUp.asks (Objects.applyCatalogSource_plain
      (hspares _ (by decide))).givesUp),
    Program.Asks.keepsGrouped (Program.GivesUp.asks (Objects.applySubscription_plain
      (hspares _ (by decide))).givesUp),
    Objects.ensureOperatorGroup_keepsGrouped,
    Program.Asks.keepsGrouped (Program.GivesUp.asks (Readiness.check_plain (hlist _ _)).givesUp)⟩

/-! ## Removals -/

theorem RemovalCall.groups_sublist {ns : String} {call : Call} (h : RemovalCall ns call)
    (store : Store) (other : String) :
    ((answer call store).2.groups other).Sublist (store.groups other) := by
  cases h with
  | deployments => exact .refl _
  | catalogSource | subscription | operatorGroup | deployment =>
    rw [answer, delete_store]
    exact store.groups_erase_sublist _ other

/-! ## Passages one after the other -/

namespace Passage

variable (passage : Passage) (store : Store)

theorem met_of_triple {G : (String → Store) → Prop}
    (h : Triple Scene.serve (fun _ scene => G scene.groups) (G ·.groups) passage.errand.program
      fun _ => (G ·.groups)) (hstore : G store.groups) :
    ∀ met ∈ passage.met store, G met.groups := by
  obtain ⟨hvisits, hend⟩ := h (passage.start store) hstore
  intro met hmem
  rcases List.mem_append.mp hmem with hmem | hmem
  · obtain ⟨visit, hvisit, rfl⟩ := List.mem_map.mp hmem
    exact hvisits visit hvisit
  · rw [List.mem_singleton.mp hmem]
    exact hend

theorem grouped_of_install {passage : Passage} {stages : Pipeline (Program Cluster)}
    {known : stages ⊆ installation} (hjob : passage.errand.job = .install stages known) :
    ∀ met ∈ passage.met store, Grouped passage.errand.tenant store met.groups := by
  obtain ⟨⟨job, config, tenant, turns, cancelled⟩, others⟩ := passage
  subst hjob
  refine met_of_triple _ store ?_ fun _ => .inl rfl
  exact Pipeline.runFrom_triple Scene.honest.toCalm fun stage hmem =>
    stages_keepGrouped stage (known hmem)

theorem sublist_of_remove {passage : Passage} (hjob : passage.errand.job = .remove) :
    ∀ met ∈ passage.met store, ∀ ns, (met.groups ns).Sublist (store.groups ns) := by
  obtain ⟨⟨job, config, tenant, turns, cancelled⟩, others⟩ := passage
  subst hjob
  refine met_of_triple (G := fun groups => ∀ ns, (groups ns).Sublist (store.groups ns)) _ store ?_
    fun _ => .refl _
  refine (removal_givesUp config tenant).asks.triple Scene.honest.toCalm
    fun call hcall scene hscene => ⟨hscene, ?_⟩
  refine Scene.keeps_serve (G := fun groups => ∀ ns, (groups ns).Sublist (store.groups ns)) hscene
    fun ns => ?_
  exact (hcall.groups_sublist _ ns).trans (hscene ns)

theorem length_groups_le (ns : String) :
    ∀ met ∈ passage.met store, (met.groups ns).length ≤ max 1 (store.groups ns).length := by
  intro met hmem
  cases hjob : passage.errand.job with
  | install stages known =>
    rcases grouped_of_install store hjob met hmem ns with hsame | ⟨-, -, hone⟩
    · rw [hsame]
      exact Nat.le_max_right ..
    · rw [hone]
      exact Nat.le_max_left ..
  | remove =>
    exact Nat.le_trans (sublist_of_remove store hjob met hmem ns).length_le (Nat.le_max_right ..)

theorem length_groups_metAll_le (passages : List Passage) (store : Store) (ns : String) :
    ∀ met ∈ metAll passages store, (met.groups ns).length ≤ max 1 (store.groups ns).length := by
  induction passages generalizing store with
  | nil =>
    intro met hmem
    rw [List.mem_singleton.mp hmem]
    exact Nat.le_max_right ..
  | cons passage rest ih =>
    intro met hmem
    rcases List.mem_append.mp hmem with hmem | hmem
    · exact passage.length_groups_le store ns met hmem
    · have hafter := passage.length_groups_le store ns (passage.after store)
        (List.mem_append_right _ List.mem_cons_self)
      exact Nat.le_trans (ih _ met hmem) (Nat.max_le.mpr ⟨Nat.le_max_left .., hafter⟩)

end Passage

/-- No store on the way of any errands has a second operator group where there was at most one, and
an installation leaves each group as it is and makes one only where it found none. -/
theorem operatorGroups_exclusive :
    (∀ (passages : List Passage) (store : Store) (ns : String),
      ∀ met ∈ Passage.metAll passages store,
        (met.groups ns).length ≤ max 1 (store.groups ns).length) ∧
    ∀ (passage : Passage) (store : Store) stages known,
      passage.errand.job = .install stages known → ∀ met ∈ passage.met store, ∀ ns,
        met.groups ns = store.groups ns ∨
          ns = passage.errand.tenant.ns ∧ store.groups ns = [] ∧
            met.groups ns = [passage.errand.tenant.operatorGroup.stored] :=
  ⟨Passage.length_groups_metAll_le, fun _ store _ _ hjob => Passage.grouped_of_install store hjob⟩

def secretKeeper : Bystander where
  write store := store ++ [⟨⟨"Secret", "grafana", "grafana-token"⟩, .null⟩]
  spares store := by
    funext ns
    simp [Store.groups, Kind.name]

/-- A run makes the group and loses the reply, so it fails and the next one finds the group. -/
theorem operatorGroups_exclusive_lost :
    let tenant : Tenant := { ns := "grafana", version := "v4.2.0" }
    let timeout : Turn := .lost true (.failed (.internal "api" "timeout")) false
    let lost : Errand :=
      { job := .whole, config := {}, tenant,
        turns := List.replicate 4 (.answered false) ++ [timeout] }
    let first : Passage := { errand := lost, others := [secretKeeper] }
    let second : Passage := { errand := { lost with turns := [] } }
    (first.after []).groups "grafana" = [tenant.operatorGroup.stored] ∧
      (∀ met ∈ Passage.metAll [first, second] [], (met.groups "grafana").length ≤ 1) ∧
      ∀ met ∈ second.met (first.after []),
        met.groups "grafana" = [tenant.operatorGroup.stored] := by
  intro tenant timeout lost first second
  have hmade : (first.after []).groups "grafana" = [tenant.operatorGroup.stored] := by decide
  refine ⟨hmade, operatorGroups_exclusive.1 [first, second] [] "grafana", fun met hmem => ?_⟩
  rcases operatorGroups_exclusive.2 second (first.after []) _ _ rfl met hmem "grafana" with
    hsame | ⟨-, hnone, -⟩
  · exact hsame.trans hmade
  · rw [hmade] at hnone
    cases hnone

end GrafanaInstall
