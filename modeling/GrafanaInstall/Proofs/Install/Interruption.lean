import GrafanaInstall.Proofs.Install.GivesUp
import GrafanaInstall.Proofs.Install.Settled

/-!
# Interruption

A run in which a call fails or never returns leaves its work half done, and later runs have only the
store to tell them. They make up for it, but for one case: a run that ends after it deleted the
subscription of the former install, and before it deleted the version record that goes with it.
-/

namespace GrafanaInstall

open Memory Program

variable {store : Store} {config : InstallConfig} {tenant : Tenant}

/-! ## What a run meets -/

/-- On the way from a cleared store to the settled one. -/
structure OnCourse (config : InstallConfig) (tenant : Tenant) (store other : Store) : Prop where
  sound : other.Sound
  cleared : other.legacy? tenant.ns = none
  settled : settled config tenant other = settled config tenant store

theorem OnCourse.refl (h : store.Sound) (hclear : store.legacy? tenant.ns = none) :
    OnCourse config tenant store store := ⟨h, hclear, rfl⟩

theorem onCourse_catalogSource (h : store.Sound) (hclear : store.legacy? tenant.ns = none) :
    OnCourse config tenant store (applied (tenant.catalogSource config) store) where
  sound := applied_sound h _
  cleared := by
    have hne : keyOf .subscription tenant.ns subscriptionName ≠ (tenant.catalogSource config).key :=
      Object.key_ne (by decide) tenant.subscription _
    rw [Store.legacy?, held_applied_of_ne h _ hne]
    exact hclear
  settled := settled_catalogSource h

theorem onCourse_placed (h : store.Sound) :
    OnCourse config tenant store (Objects.placed config tenant store) where
  sound := Objects.placed_sound h _ _
  cleared := legacy?_of_inPlace (Objects.subscription_placed h)
  settled := settled_placed h

theorem onCourse_settled (h : store.Sound) :
    OnCourse config tenant store (settled config tenant store) where
  sound := settled_sound h _ _
  cleared := legacy?_of_inPlace (settled_settles h).subscription
  settled := (settled_settles h).settled_eq

/-- Past some calls, every further one was put to a store on the course. -/
def Followed (config : InstallConfig) (tenant : Tenant) (store : Store)
    (past : List (Call × Store)) (w : Watched) : Prop :=
  ∃ course, w.history = past ++ course ∧
    ∀ visit ∈ course, OnCourse config tenant store visit.2

theorem Followed.after {past : List (Call × Store)} {w : Watched}
    (h : Followed config tenant store past w) (hw : OnCourse config tenant store w.store)
    (call : Call) (next : Store) : Followed config tenant store past (w.after call next) := by
  obtain ⟨course, hhistory, hcourse⟩ := h
  refine ⟨course ++ [(call, w.store)], by rw [Watched.after, hhistory, List.append_assoc], ?_⟩
  rintro visit hvisit
  rcases List.mem_append.mp hvisit with hmem | hmem
  · exact hcourse visit hmem
  · rw [List.mem_singleton.mp hmem]
    exact hw

theorem followed_settling (config : InstallConfig) (h : store.Sound)
    (hclear : store.legacy? tenant.ns = none) (past : List (Call × Store)) :
    Followed config tenant store past (settling config tenant ⟨store, past⟩) := by
  have hplaced : OnCourse config tenant store (Objects.placed config tenant store) :=
    onCourse_placed h
  have hbegin : Followed config tenant store past ⟨store, past⟩ :=
    ⟨[], (List.append_nil _).symm, fun _ hmem => absurd hmem List.not_mem_nil⟩
  have hfirst := hbegin.after (.refl h hclear) (.apply _ (tenant.catalogSource config))
    (applied (tenant.catalogSource config) store)
  have hboth : Followed config tenant store past (Objects.withBoth config tenant ⟨store, past⟩) :=
    hfirst.after (onCourse_catalogSource h hclear) (.apply _ tenant.subscription)
      (Objects.placed config tenant store)
  have hgroup : Followed config tenant store past
      (Objects.withGroup tenant (Objects.withBoth config tenant ⟨store, past⟩)) := by
    rw [Objects.withGroup]
    split
    · exact (hboth.after hplaced ..).after hplaced ..
    · exact hboth.after hplaced ..
  refine hgroup.after ?_ ..
  rw [Objects.withGroup_store]
  exact onCourse_settled h

/-! ## Disturbances -/

/-- One call of a run is spoilt: how many are answered before it, and how it ends. -/
structure Disturbance where
  after : Nat
  /-- The call takes effect all the same. -/
  acts : Bool := false
  halt : Halt
  fatal : halt.isFatal

namespace Disturbance

def effective (d : Disturbance) : Nat := d.after + d.acts.toNat

def plan (d : Disturbance) : List Fate :=
  List.replicate d.after (.answered false) ++ [.spoilt d.acts d.halt d.fatal false]

end Disturbance

def disturbed (config : InstallConfig) (tenant : Tenant) (store : Store) (d : Disturbance) :
    Store :=
  ((installation.run config tenant).run Trial.serve { store, plan := d.plan }).2.store

theorem disturbed_eq (config : InstallConfig) (tenant : Tenant) (store : Store) (d : Disturbance) :
    disturbed config tenant store d =
      (Watched.met (installation.run config tenant) store)[d.effective]?.getD
        (installed config tenant store) :=
  (installation_givesUp config tenant).run_spoilt store d.after d.acts d.halt d.fatal

theorem OnCourse.getD {stores : List Store} {last : Store}
    (h : ∀ other ∈ stores, OnCourse config tenant store other)
    (hlast : OnCourse config tenant store last) (n : Nat) :
    OnCourse config tenant store (stores[n]?.getD last) := by
  cases hget : stores[n]? with
  | none => exact hlast
  | some other => exact h other (List.mem_of_getElem? hget)

theorem disturbed_of_none (h : store.Sound) (hclear : store.legacy? tenant.ns = none)
    (d : Disturbance) : OnCourse config tenant store (disturbed config tenant store d) := by
  have hrun := installation_of_none (w := ⟨store, []⟩) h config hclear
  obtain ⟨course, hhistory, hcourse⟩ := followed_settling config h hclear
    [(.list .subscription tenant.ns, store)]
  have hmet : Watched.met (installation.run config tenant) store =
      store :: course.map Prod.snd := by
    rw [Watched.met, hrun]
    exact congrArg (List.map Prod.snd) hhistory
  rw [disturbed_eq, installed, run_of_none h config hclear, hmet]
  refine OnCourse.getD (List.forall_mem_cons.mpr ⟨.refl h hclear, ?_⟩) (onCourse_settled h) _
  exact List.forall_mem_map.mpr hcourse

theorem disturbed_of_bare (config : InstallConfig) (h : store.Sound) {s : Subscription}
    (hlegacy : store.legacy? tenant.ns = some s) (hrecord : store.record? tenant.ns = none)
    (d : Disturbance) :
    disturbed config tenant store d = store ∨
      OnCourse config tenant (store.bare tenant.ns) (disturbed config tenant store d) := by
  have hsound : (store.bare tenant.ns).Sound := h.erase _
  have hclear := legacy?_bare store tenant.ns
  have hrun := installation_of_bare (w := ⟨store, []⟩) h config hlegacy hrecord
  let listed : Watched := (Legacy.withoutSubscription tenant.ns ⟨store, []⟩)
  obtain ⟨course, hhistory, hcourse⟩ := followed_settling config hsound hclear
    listed.history
  have hmet : Watched.met (installation.run config tenant) store =
      store :: store :: store.bare tenant.ns :: course.map Prod.snd := by
    rw [Watched.met, hrun]
    exact congrArg (List.map Prod.snd) hhistory
  have hfinal : OnCourse config tenant (store.bare tenant.ns) (installed config tenant store) := by
    rw [installed, run_of_watched hrun, settling_store]
    exact onCourse_settled hsound
  rw [disturbed_eq, hmet]
  rcases d.effective with _ | _ | n
  · exact .inl rfl
  · exact .inl rfl
  · refine .inr (OnCourse.getD (List.forall_mem_cons.mpr ⟨.refl hsound hclear, ?_⟩) hfinal n)
    exact List.forall_mem_map.mpr hcourse

theorem disturbed_of_record (config : InstallConfig) (h : store.Sound) {s : Subscription}
    {record : ClusterServiceVersion} (hlegacy : store.legacy? tenant.ns = some s)
    (hrecord : store.record? tenant.ns = some record)
    (d : Disturbance) :
    disturbed config tenant store d =
      if d.effective < 2 then store
      else if d.effective < 4 then store.bare tenant.ns
      else store.cleared tenant.ns := by
  have hrun := installation_of_record (w := ⟨store, []⟩) h config hlegacy hrecord
  have hcleared : store.cleared tenant.ns =
      (store.bare tenant.ns).erase (keyOf .clusterServiceVersion tenant.ns record.anyName) := by
    rw [Store.cleared, hlegacy, hrecord]
  rw [disturbed_eq, installed, Watched.met, run_of_watched hrun, hrun, hcleared]
  rcases d.effective with _ | _ | _ | _ | n <;> rfl

/-! ## Runs one after the other -/

def interrupted (config : InstallConfig) (tenant : Tenant) (store : Store) (ds : List Disturbance) :
    Store :=
  ds.foldl (disturbed config tenant) store

theorem interrupted_cons (d : Disturbance) (rest : List Disturbance) :
    interrupted config tenant store (d :: rest) =
      interrupted config tenant (disturbed config tenant store d) rest := rfl

/-- The first run in which two calls or more take effect is one in which no more than three do. The
second call deletes the subscription, and the fourth the version record. -/
def strands (ds : List Disturbance) : Bool :=
  (ds.find? (2 ≤ ·.effective)).any (·.effective < 4)

theorem strands_cons (d : Disturbance) (rest : List Disturbance) :
    strands (d :: rest) = if d.effective < 2 then strands rest else d.effective < 4 := by
  rw [strands, List.find?_cons]
  by_cases h : d.effective < 2
  · simp [h, strands, Nat.not_le.mpr h]
  · simp [h, Nat.not_lt.mp h]

theorem OnCourse.trans {middle last : Store} (h : OnCourse config tenant store middle)
    (hlast : OnCourse config tenant middle last) : OnCourse config tenant store last :=
  ⟨hlast.sound, hlast.cleared, hlast.settled.trans h.settled⟩

theorem interrupted_of_onCourse (h : OnCourse config tenant store other) (ds : List Disturbance) :
    OnCourse config tenant store (interrupted config tenant other ds) := by
  induction ds generalizing other with
  | nil => exact h
  | cons d rest ih => exact ih (h.trans (disturbed_of_none h.sound h.cleared d))

theorem installed_of_onCourse (h : OnCourse config tenant store other) :
    installed config tenant (installed config tenant other) = settled config tenant store := by
  rw [installed_installed h.sound, Store.cleared, h.cleared]
  exact h.settled

theorem interrupted_of_bare (config : InstallConfig) (h : store.Sound) {s : Subscription}
    (hlegacy : store.legacy? tenant.ns = some s) (hrecord : store.record? tenant.ns = none)
    (ds : List Disturbance) :
    interrupted config tenant store ds = store ∨
      OnCourse config tenant (store.bare tenant.ns) (interrupted config tenant store ds) := by
  induction ds with
  | nil => exact .inl rfl
  | cons d rest ih =>
    rw [interrupted, List.foldl_cons]
    rcases disturbed_of_bare config h hlegacy hrecord d with hsame | hcourse
    · rw [hsame]
      exact ih
    · exact .inr (interrupted_of_onCourse hcourse rest)

theorem interrupted_of_record (config : InstallConfig) (h : store.Sound) {s : Subscription}
    {record : ClusterServiceVersion} (hlegacy : store.legacy? tenant.ns = some s)
    (hrecord : store.record? tenant.ns = some record)
    (ds : List Disturbance) :
    strands ds ∧
        OnCourse config tenant (store.bare tenant.ns) (interrupted config tenant store ds) ∨
      ¬strands ds ∧ (interrupted config tenant store ds = store ∨
        OnCourse config tenant (store.cleared tenant.ns) (interrupted config tenant store ds)) := by
  induction ds with
  | nil => exact .inr ⟨nofun, .inl rfl⟩
  | cons d rest ih =>
    have hbare : OnCourse config tenant (store.bare tenant.ns) (store.bare tenant.ns) :=
      .refl (h.erase _) (legacy?_bare store tenant.ns)
    have hcleared : OnCourse config tenant (store.cleared tenant.ns) (store.cleared tenant.ns) :=
      .refl (cleared_sound h _) (legacy?_cleared store tenant.ns)
    rw [interrupted_cons, disturbed_of_record config h hlegacy hrecord, strands_cons]
    -- A run that does not get to the delete of the subscription leaves all to the later ones.
    by_cases hfew : d.effective < 2
    · rwa [if_pos hfew, if_pos hfew]
    · rw [if_neg hfew, if_neg hfew]
      by_cases hsome : d.effective < 4
      · rw [if_pos hsome]
        exact .inl ⟨decide_eq_true hsome, interrupted_of_onCourse hbare rest⟩
      · rw [if_neg hsome]
        exact .inr ⟨by simpa using hsome, .inr (interrupted_of_onCourse hcleared rest)⟩

theorem settled_bare_ne (h : store.Sound) {s : Subscription} {record : ClusterServiceVersion}
    (hlegacy : store.legacy? tenant.ns = some s) (hrecord : store.record? tenant.ns = some record) :
    settled config tenant (store.bare tenant.ns) ≠
      settled config tenant (store.cleared tenant.ns) := by
  have hbare : (store.bare tenant.ns).Sound := h.erase _
  have hclear := cleared_sound h tenant.ns
  have kept : record ∈ (settled config tenant (store.bare tenant.ns)).view
      .clusterServiceVersion tenant.ns := by
    rw [view_settled hbare (by decide) (by decide) (by decide), Store.bare,
      Store.view_erase_of_ne store (by decide)]
    exact List.mem_of_find?_eq_some hrecord
  have gone : record ∉ (settled config tenant (store.cleared tenant.ns)).view
      .clusterServiceVersion tenant.ns := by
    rw [view_settled hclear (by decide) (by decide) (by decide), Store.mem_view hclear,
      Store.cleared, hlegacy, hrecord]
    simp [Store.held_erase_self]
  exact fun e => gone (e ▸ kept)

theorem interruption_harmless_iff (config : InstallConfig) (tenant : Tenant) {store : Store}
    (h : store.Sound) (ds : List Disturbance) :
    installed config tenant (installed config tenant (interrupted config tenant store ds)) =
        installed config tenant (installed config tenant store) ↔
      ¬((store.legacy? tenant.ns).isSome ∧ (store.record? tenant.ns).isSome ∧ strands ds) := by
  cases hlegacy : store.legacy? tenant.ns with
  | none =>
    have hcourse : OnCourse config tenant store (interrupted config tenant store ds) :=
      interrupted_of_onCourse (.refl h hlegacy) ds
    rw [installed_of_onCourse hcourse, installed_of_onCourse (.refl h hlegacy)]
    simp
  | some s =>
    cases hrecord : store.record? tenant.ns with
    | none =>
      rcases interrupted_of_bare config h hlegacy hrecord ds with hsame | hcourse
      · simp [hsame]
      · rw [installed_of_onCourse hcourse, installed_installed h, Store.cleared, hlegacy, hrecord]
        simp
    | some record =>
      rcases interrupted_of_record config h hlegacy hrecord ds with
        ⟨hstrands, hcourse⟩ | ⟨hstrands, hsame | hcourse⟩
      · rw [installed_of_onCourse hcourse, installed_installed h]
        simp [hstrands, settled_bare_ne h hlegacy hrecord]
      · simp [hsame, hstrands]
      · rw [installed_of_onCourse hcourse, installed_installed h]
        simp [hstrands]

/-- An error before the delete of the version record strands it, and one before the delete of the
subscription does no harm. -/
theorem interruption_of_former :
    let tenant : Tenant := { ns := "grafana", version := "v4.2.0" }
    let before (n : Nat) : Disturbance :=
      { after := n, halt := .failed (.internal "api" "timeout"), fatal := rfl }
    let twice (store : Store) := installed {} tenant (installed {} tenant store)
    formerStore.Sound ∧
      twice (interrupted {} tenant formerStore [before 3]) ≠ twice formerStore ∧
      twice (interrupted {} tenant formerStore [before 1]) = twice formerStore :=
  ⟨formerStore_sound,
    fun e => (interruption_harmless_iff {} _ formerStore_sound _).mp e (by decide),
    (interruption_harmless_iff {} _ formerStore_sound _).mpr (by decide)⟩

end GrafanaInstall
