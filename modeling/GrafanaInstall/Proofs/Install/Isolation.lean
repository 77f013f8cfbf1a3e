import GrafanaInstall.Proofs.Errand

/-!
# Tenants apart

A tenant has its namespace to itself. An errand asks for nothing outside of it, changes nothing
there, and does not depend on what is there. So the errands of many tenants, in any order, come to
what each tenant's own errands come to alone.
-/

namespace GrafanaInstall

open Memory

def Call.ns : Call → String
  | .list _ ns | .delete _ ns _ => ns
  | .apply _ desired => desired.metadata.ns.getD ""
  | .patchStatus ns _ _ | .addFinalizer ns _ _ | .removeFinalizer ns _ _ => ns

theorem Call.ns_of_key? {call : Call} {key : Key} (h : call.key? = some key) :
    key.ns = call.ns := by
  cases call <;> cases h <;> rfl

theorem InstallCall.ns_eq {config : InstallConfig} {tenant : Tenant} {call : Call}
    (h : InstallCall config tenant call) : call.ns = tenant.ns := by
  cases h <;> rfl

theorem RemovalCall.ns_eq {ns : String} {call : Call} (h : RemovalCall ns call) : call.ns = ns := by
  cases h <;> rfl

/-! ## Calls -/

namespace Store

variable {p : Key → Bool}

theorem put_filter (store : Store) {key : Key} (object : Json) (hp : p key) :
    put key object (store.filter (p ·.key)) = (put key object store).filter (p ·.key) := by
  induction store with
  | nil => simp [put, hp]
  | cons entry rest ih =>
    by_cases hkey : entry.key = key
    · simp [put, hkey, hp]
    · by_cases hentry : p entry.key
      · simp [put, hkey, hentry, ih]
      · simp [put, hkey, hentry, ih]

theorem erase_filter (store : Store) (key : Key) :
    erase (store.filter (p ·.key)) key = (erase store key).filter (p ·.key) := by
  rw [erase, erase, List.filter_filter, List.filter_filter]
  exact List.filter_congr fun entry _ => Bool.and_comm ..

end Store

namespace Memory

variable {p : Key → Bool}

theorem apply_filter (desired : Object k) (store : Store) (hp : p desired.key) :
    apply desired (store.filter (p ·.key)) =
      ((apply desired store).1, (apply desired store).2.filter (p ·.key)) := by
  have hkey : p (keyOf k (desired.metadata.ns.getD "") desired.anyName) := hp
  rw [apply, apply, Store.find?_filter store hkey]
  cases store.find? (keyOf k (desired.metadata.ns.getD "") desired.anyName) with
  | none => simp only [Store.put_filter store _ hkey]
  | some object =>
    cases hread : read k object with
    | error error => simp only [hread]
    | ok observed =>
      cases hchanged : observed.mutatedIfChanged desired.overwrite with
      | none => simp only [hread, hchanged]
      | some changed => simp only [hread, hchanged, Store.put_filter store _ hkey]

theorem delete_filter (store : Store) {ns name : String} (hp : p (keyOf k ns name)) :
    delete k ns name (store.filter (p ·.key)) =
      ((delete k ns name store).1, (delete k ns name store).2.filter (p ·.key)) := by
  rw [delete, delete, Store.find?_filter store hp]
  cases store.find? (keyOf k ns name) with
  | none => rfl
  | some object => exact congrArg (Prod.mk _) (Store.erase_filter ..)

theorem change_filter (store : Store) {ns name : String} (f : Json → Json)
    (hp : p (keyOf .observability ns name)) :
    change ns name f (store.filter (p ·.key)) =
      ((change ns name f store).1, (change ns name f store).2.filter (p ·.key)) := by
  rw [change, change, Store.find?_filter store hp]
  cases store.find? (keyOf .observability ns name) with
  | none => rfl
  | some object => exact congrArg (Prod.mk _) (Store.put_filter _ _ hp)

theorem answer_filter (call : Call) (store : Store) (hp : ∀ key : Key, key.ns = call.ns → p key) :
    answer call (store.filter (p ·.key)) =
      ((answer call store).1, (answer call store).2.filter (p ·.key)) := by
  cases call with
  | list k ns =>
    have hobjects : Store.objects (store.filter (p ·.key)) k.name ns = store.objects k.name ns :=
      Store.objects_filter store fun key _ hns => hp key hns
    rw [answer, answer, Memory.list, Memory.list, hobjects]
  | apply k desired => exact apply_filter desired store (hp _ rfl)
  | delete k ns name => exact delete_filter store (hp _ rfl)
  | patchStatus ns name status => exact change_filter store _ (hp _ rfl)
  | addFinalizer ns name finalizer => exact change_filter store _ (hp _ rfl)
  | removeFinalizer ns name finalizer => exact change_filter store _ (hp _ rfl)

end Memory

/-! ## Runs -/

def Store.within (store : Store) (ns : String) : Store :=
  store.filter (·.key.ns = ns)

def Course.within (c : Course) (ns : String) : Course :=
  { c with store := c.store.within ns }

variable {ns : String}

theorem Course.serve_within {call : Call} (h : call.ns = ns) (c : Course) :
    serve (.call call) (c.within ns) =
      ((serve (.call call) c).1, (serve (.call call) c).2.within ns) := by
  have hanswer : answer call (c.store.within ns) =
      ((answer call c.store).1, (answer call c.store).2.within ns) :=
    answer_filter call c.store fun key hkey => decide_eq_true (hkey.trans h)
  obtain ⟨store, _ | ⟨(cancels | ⟨acts, halt, cancels⟩), turns⟩, cancelled, calls⟩ := c
  · simp only [serve, within, Memory.serve, hanswer]
  · simp only [serve, within, Memory.serve, hanswer]
  · cases acts <;> simp [serve, within, Memory.serve, hanswer]

theorem Program.Asks.run_within {program : Program Cluster α} (h : program.Asks (·.ns = ns))
    (c : Course) :
    program.run Course.serve (c.within ns) =
      ((program.run Course.serve c).1, (program.run Course.serve c).2.within ns) := by
  induction program generalizing c with
  | done a => rfl
  | ask request next ih =>
    cases request with
    | log event => exact ih () (h.2 ()) c
    | cancelled => exact ih c.cancelled (h.2 c.cancelled) c
    | call call =>
      have hserve := Course.serve_within h.1 c
      refine (congrArg (fun step => (next step.1).run Course.serve step.2) hserve).trans ?_
      exact ih _ (h.2 _) _

namespace Errand

theorem asks_ns (errand : Errand) : errand.program.Asks (·.ns = errand.tenant.ns) := by
  refine errand.asks.mono fun call hcall => ?_
  rcases hcall with hcall | hcall
  · exact hcall.ns_eq
  · exact hcall.ns_eq

theorem run_within (errand : Errand) (store : Store) :
    errand.run (store.within errand.tenant.ns) =
      ((errand.run store).1, (errand.run store).2.within errand.tenant.ns) :=
  errand.asks_ns.run_within { store, turns := errand.turns, cancelled := errand.cancelled }

theorem filter_run (errand : Errand) (store : Store) {p : Key → Bool}
    (hp : ∀ key : Key, key.ns = errand.tenant.ns → p key = false) :
    (errand.run store).2.store.filter (p ·.key) = store.filter (p ·.key) := by
  refine errand.asks_ns.keeps (I := fun after => after.filter (p ·.key) = store.filter (p ·.key))
    ?_ _ rfl
  intro call hcall after hafter
  rw [filter_answer call after fun key hkey => hp key ((Call.ns_of_key? hkey).trans hcall)]
  exact hafter

theorem within_run_of_ne (errand : Errand) (store : Store) (h : errand.tenant.ns ≠ ns) :
    (errand.run store).2.store.within ns = store.within ns :=
  errand.filter_run (p := (·.ns = ns)) store fun _ hkey => decide_eq_false (hkey ▸ h)

/-- What an errand says and does goes by its own namespace alone. -/
structure Apart (errand : Errand) (store : Store) : Prop where
  calls : errand.program.Asks (·.ns = errand.tenant.ns)
  elsewhere : (errand.run store).2.store.filter (·.key.ns ≠ errand.tenant.ns) =
    store.filter (·.key.ns ≠ errand.tenant.ns)
  blind : ∀ other : Store, other.within errand.tenant.ns = store.within errand.tenant.ns →
    (errand.run other).1 = (errand.run store).1 ∧
      (errand.run other).2.within errand.tenant.ns = (errand.run store).2.within errand.tenant.ns

theorem apart (errand : Errand) (store : Store) : errand.Apart store where
  calls := errand.asks_ns
  elsewhere := errand.filter_run store fun _ hkey => decide_eq_false (not_not_intro hkey)
  blind := by
    intro other hother
    have hrun : errand.run (other.within errand.tenant.ns) =
        errand.run (store.within errand.tenant.ns) := congrArg errand.run hother
    rw [run_within, run_within] at hrun
    exact Prod.mk.inj hrun

def reportsTo (ns : String) (reports : List (Errand × Report)) : List (Errand × Report) :=
  reports.filter (·.1.tenant.ns = ns)

theorem runAll_alone (errands : List Errand) (ns : String) {store other : Store}
    (h : store.within ns = other.within ns) :
    reportsTo ns (runAll errands store).1 =
        (runAll (errands.filter (·.tenant.ns = ns)) other).1 ∧
      (runAll errands store).2.within ns =
        (runAll (errands.filter (·.tenant.ns = ns)) other).2.within ns := by
  induction errands generalizing store other with
  | nil => exact ⟨rfl, h⟩
  | cons errand rest ih =>
    by_cases hns : errand.tenant.ns = ns
    · obtain ⟨hreport, hafter⟩ := (errand.apart other).blind store (hns.symm ▸ h)
      rw [hns] at hafter
      obtain ⟨hreports, hstores⟩ := ih (congrArg Course.store hafter)
      have hmine : (errand :: rest).filter (·.tenant.ns = ns) =
          errand :: rest.filter (·.tenant.ns = ns) :=
        List.filter_cons_of_pos (decide_eq_true hns)
      have hcons : reportsTo ns (runAll (errand :: rest) store).1 =
          (errand, (errand.run store).1) ::
            reportsTo ns (runAll rest (errand.run store).2.store).1 :=
        List.filter_cons_of_pos (decide_eq_true hns)
      rw [hmine, hcons, hreport, hreports]
      exact ⟨rfl, hstores⟩
    · have hmine : (errand :: rest).filter (·.tenant.ns = ns) = rest.filter (·.tenant.ns = ns) :=
        List.filter_cons_of_neg (by simpa using hns)
      have hcons : reportsTo ns (runAll (errand :: rest) store).1 =
          reportsTo ns (runAll rest (errand.run store).2.store).1 :=
        List.filter_cons_of_neg (by simpa using hns)
      rw [hmine, hcons]
      exact ih ((errand.within_run_of_ne store hns).trans h)

end Errand

/-- However the errands of all tenants follow one another, each tenant gets the reports and the
entries that its own errands alone would have come to. -/
theorem tenants_apart (store : Store) :
    (∀ errand : Errand, errand.Apart store) ∧
      ∀ (errands : List Errand) (ns : String),
        let mine := errands.filter (·.tenant.ns = ns)
        Errand.reportsTo ns (Errand.runAll errands store).1 = (Errand.runAll mine store).1 ∧
          (Errand.runAll errands store).2.within ns = (Errand.runAll mine store).2.within ns :=
  ⟨fun errand => errand.apart store, fun errands ns => Errand.runAll_alone errands ns rfl⟩

end GrafanaInstall
