import GrafanaInstall.Proofs.Http.Contention

/-!
# Finalizers among other writers

The client reads the finalizers of an observability and then writes the whole list of them. What it
writes names no version, so no server can tell that it is outdated: what others have made of the
list in between is lost.
-/

namespace GrafanaInstall

open Http

/-! ## Patches of the list -/

namespace Memory

def finalizersPatch (items : List Json) : Json :=
  .object [("metadata", .object [("finalizers", .array items)])]

theorem mergePatch_finalizers (value : Json) (items : List Json) :
    value.mergePatch (finalizersPatch items) = withFinalizers value items := by
  simp only [finalizersPatch, Json.mergePatch, Json.mergeEntries]
  rfl

end Memory

theorem Http.Request.received_plain (k : Kind) (ns : String) {name : String} (change : Json)
    (h : ∀ c ∈ name.toList, c ≠ '/' ∧ Uri.endsPath c = false) :
    (Request.get k ns name).received = .get k ns name ∧
      (Request.patch k ns name change).received = .patch k ns name change := by
  have hroute := route_of_plain name.toList h
  rw [String.ofList_toList] at hroute
  constructor
  · rw [received, hroute]
  · rw [received, hroute, received.patchAt, if_neg Bool.false_ne_true]

namespace Http

open Memory

/-- A server that merges patches, refuses those that name an outdated version, and may drop an
object whose last finalizer goes. -/
structure Api.Merges (api : Api) : Prop extends api.Lawful where
  /-- What is stored is not said to be missing. -/
  found {s : api.State} {k : Kind} {ns name : String} {object : Json}
    (h : api.stored s (Server.keyOf k ns name) = some object)
    (hrefused : (api.respond s (.get k ns name)).1.Refused) :
    (Client.refusal (api.respond s (.get k ns name)).1).reason ≠ "NotFound"
  merged {s : api.State} {k : Kind} {ns name : String} {patch : Json}
    (h : ¬(api.respond s (.patch k ns name patch)).1.Refused) :
    ∃ object, api.stored s (Server.keyOf k ns name) = some object ∧
      match api.stored (api.respond s (.patch k ns name patch)).2 (Server.keyOf k ns name) with
      | some next => finalizers next = finalizers (object.mergePatch patch)
      | none => finalizers (object.mergePatch patch) = []
  stale {s : api.State} {k : Kind} {ns name v : String} {object patch : Json}
    (hstored : api.stored s (Server.keyOf k ns name) = some object)
    (hpatch : patch.version? = some v) (h : object.version? ≠ some v) :
    (api.respond s (.patch k ns name patch)).1.status = 409

namespace Server

theorem api_patch (s : api.State) (k : Kind) (ns name : String) (patch : Json) :
    (api.respond s (.patch k ns name patch)).1 = (s.val.respond (.patch k ns name patch)).1 ∧
      (api.respond s (.patch k ns name patch)).2.val =
        (s.val.respond (.patch k ns name patch)).2 := by
  simp [api, Request.Proper]

theorem finalizers_versioned (server : Server) (object : Json) :
    finalizers (server.versioned object) = finalizers object :=
  finalizers_setAt object _ (by decide)

theorem finalizers_of_unheld {object : Json} (h : hasFinalizers object = false) :
    finalizers object = [] :=
  Decidable.of_not_not (of_decide_eq_false h)

theorem api_merges : api.Merges where
  toLawful := api_lawful
  found {s k ns name object} h hrefused := by
    have hproper : (Request.get k ns name).Proper := trivial
    have hfind : s.val.store.find? (keyOf k ns name) = some object := h
    have hanswer : (api.respond s (.get k ns name)).1 = answer 200 object := by
      simp only [api, hproper, dite_true, respond, hfind]
    rw [hanswer] at hrefused
    have hstatus : 400 ≤ 200 := hrefused.1
    exact absurd hstatus (by decide)
  merged {s k ns name patch} h := by
    obtain ⟨hanswer, hstate⟩ := api_patch s k ns name patch
    rw [hanswer, respond, update] at h
    show ∃ object, s.val.store.find? (keyOf k ns name) = some object ∧
      match (api.respond s (.patch k ns name patch)).2.val.store.find? (keyOf k ns name) with
      | some next => _
      | none => _
    rw [hstate, respond, update]
    cases hfind : s.val.store.find? (keyOf k ns name) with
    | none =>
      rw [hfind] at h
      exact absurd (refused_failure (by decide) "NotFound" _) h
    | some object =>
      rw [hfind] at h
      dsimp only at h ⊢
      split at h
      · exact absurd (refused_failure (by decide) "Conflict" _) h
      · rename_i hcurrent
        refine ⟨object, rfl, ?_⟩
        rw [if_neg hcurrent]
        dsimp only
        rw [find?_write]
        split
        · rename_i hsome
          split at hsome
          · cases hsome
          · cases hsome
            exact finalizers_versioned _ _
        · rename_i hnone
          split at hnone
          · rename_i hgone
            rw [Bool.and_eq_true, Bool.not_eq_true'] at hgone
            exact finalizers_of_unheld hgone.2
          · cases hnone
  stale {s k ns name v object patch} hstored hpatch h := by
    obtain ⟨hanswer, -⟩ := api_patch s k ns name patch
    have hfind : s.val.store.find? (keyOf k ns name) = some object := hstored
    rw [hanswer, respond, update, hfind]
    simp only [s.property.strict, isOutdated_of_version hpatch h, Bool.and_self, if_true]
    rfl

end Server

/-! ## Edits -/

def foreign (finalizer : String) (items : List Json) : List Json :=
  items.filter (· ≠ .string finalizer)

inductive FinalizerEdit where
  | add
  | remove
  deriving DecidableEq

namespace FinalizerEdit

def task (edit : FinalizerEdit) (ns name finalizer : String) : Task Http Unit :=
  match edit with
  | .add => Client.addFinalizer ns name finalizer
  | .remove => Client.removeFinalizer ns name finalizer

def apply (edit : FinalizerEdit) (finalizer : String) (present : List Json) : List Json :=
  match edit with
  | .add => if .string finalizer ∈ present then present else present ++ [.string finalizer]
  | .remove => foreign finalizer present

/-- What an edit makes of a list that was another one when it was read. -/
def outcome (edit : FinalizerEdit) (finalizer : String) (seen present : List Json) : List Json :=
  match edit with
  | .add => if .string finalizer ∈ seen then present else seen ++ [.string finalizer]
  | .remove => foreign finalizer seen

theorem foreign_of_absent {finalizer : String} {items : List Json}
    (h : .string finalizer ∉ items) : foreign finalizer items = items :=
  List.filter_eq_self.mpr fun _ hmem => decide_eq_true fun heq => h (heq ▸ hmem)

theorem outcome_eq_apply_iff (edit : FinalizerEdit) {finalizer : String} {seen present : List Json}
    (h : .string finalizer ∈ present ↔ .string finalizer ∈ seen) :
    edit.outcome finalizer seen present = edit.apply finalizer present ↔
      edit = .add ∧ .string finalizer ∈ seen ∨
        foreign finalizer present = foreign finalizer seen := by
  cases edit with
  | remove => simp [outcome, apply, eq_comm]
  | add =>
    by_cases hseen : .string finalizer ∈ seen
    · simp [outcome, apply, h, hseen]
    · have hpresent := mt h.mp hseen
      simp only [outcome, apply, hseen, hpresent, if_false, and_false, false_or,
        List.append_cancel_right_eq, foreign_of_absent hseen, foreign_of_absent hpresent]
      exact eq_comm

end FinalizerEdit

/-- The object under a key has some finalizers. Without any it may be gone. -/
def Api.Leaves (api : Api) (s : api.State) (key : Key) (items : List Json) : Prop :=
  match api.stored s key with
  | some object => finalizers object = items
  | none => items = []

variable {api : Api}

theorem Api.Leaves.iff_eq {s : api.State} {key : Key} {items other : List Json}
    (h : api.Leaves s key items) : api.Leaves s key other ↔ items = other := by
  rw [Leaves] at h ⊢
  split at h
  · rw [h]
  · rw [h]
    exact eq_comm

namespace Client

variable {ns name : String}

theorem leaves_of_patched (h : api.Merges)
    (hname : ∀ c ∈ name.toList, c ≠ '/' ∧ Uri.endsPath c = false) {c after : Contended api}
    (hothers : c.others = []) {texts : List String}
    (hrun : Program.run Contended.serve (patchFinalizers ns name texts) c = (.ok (), after)) :
    api.Leaves after.state (Server.keyOf .observability ns name) (texts.map .string) := by
  let patch := finalizersPatch (texts.map .string)
  have hsent : Sent c (.patch .observability ns name patch) (fun _ => True)
      (Program.run Contended.serve (patchFinalizers ns name texts) c) :=
    sent_checked c (sent_write c .observability _)
  rw [hrun] at hsent
  cases hsent with
  | answered hanswered =>
    obtain ⟨-, hreceived⟩ := Request.received_plain .observability ns patch hname
    rw [Contended.response, hreceived] at hanswered
    obtain ⟨object, -, hmerged⟩ := h.merged hanswered
    rw [Contended.next, hothers, hreceived, Api.Leaves]
    rw [mergePatch_finalizers, finalizers_with] at hmerged
    exact hmerged

theorem finalizers_of_answer (h : api.Merges)
    (hname : ∀ c ∈ name.toList, c ≠ '/' ∧ Uri.endsPath c = false) {c : Contended api} {seen : Json}
    (hseen : api.stored c.state (Server.keyOf .observability ns name) = some seen)
    (hanswered : ¬(c.response (.get .observability ns name)).Refused) {obs : Observability}
    (hread : (c.response (.get .observability ns name)).body.json?.bind
      (Object.read? .observability) = some obs) :
    finalizers seen = (obs.metadata.finalizers.getD []).map .string := by
  obtain ⟨hreceived, -⟩ := Request.received_plain .observability ns .null hname
  rw [Contended.response, hreceived] at hanswered hread
  rw [h.get_reads hanswered, hseen] at hread
  exact (h.regular hseen).finalizers_of_read hread

theorem hasFinalizer_iff {obs : Observability} {finalizer : String} :
    obs.metadata.hasFinalizer finalizer ↔
      Json.string finalizer ∈ (obs.metadata.finalizers.getD []).map .string := by
  simp [Metadata.hasFinalizer]

variable {s : api.State} {others : List Request} {seen theirs : Json} {finalizer : String}
  {after : Contended api}

theorem leaves_of_added (h : api.Merges)
    (hname : ∀ c ∈ name.toList, c ≠ '/' ∧ Uri.endsPath c = false)
    (hseen : api.stored s (Server.keyOf .observability ns name) = some seen)
    (htheirs : api.stored (api.after others s) (Server.keyOf .observability ns name) = some theirs)
    (hrun : Program.run Contended.serve (addFinalizer ns name finalizer)
      { state := s, others := [others] } = (.ok (), after)) :
    api.Leaves after.state (Server.keyOf .observability ns name)
      (FinalizerEdit.add.outcome finalizer (finalizers seen) (finalizers theirs)) := by
  let start : Contended api := { state := s, others := [others] }
  obtain ⟨obs, read, hget, hrest⟩ := Task.of_run_bind hrun
  have hsent : Sent start (.get .observability ns name) _
      (Program.run Contended.serve (get .observability ns name) start) := sent_get start
  rw [hget] at hsent
  cases hsent with
  | answered hanswered hread =>
    have hlist := finalizers_of_answer h hname (c := start) hseen hanswered hread
    rw [start.next_get h.toLawful .observability ns name rfl] at hrest
    rw [FinalizerEdit.outcome]
    split at hrest
    · rename_i hmissing
      have habsent : Json.string finalizer ∉ finalizers seen := by
        rw [hlist, ← hasFinalizer_iff]
        simpa using hmissing
      rw [if_neg habsent, hlist, ← List.map_singleton, ← List.map_append]
      exact leaves_of_patched h hname rfl hrest
    · rename_i hpresent
      have hmem : Json.string finalizer ∈ finalizers seen := by
        rw [hlist, ← hasFinalizer_iff]
        simpa using hpresent
      cases hrest
      rw [if_pos hmem]
      show match api.stored (api.after others s) _ with
        | some object => finalizers object = finalizers theirs
        | none => finalizers theirs = []
      rw [htheirs]

theorem leaves_of_removed (h : api.Merges)
    (hname : ∀ c ∈ name.toList, c ≠ '/' ∧ Uri.endsPath c = false)
    (hseen : api.stored s (Server.keyOf .observability ns name) = some seen)
    (hrun : Program.run Contended.serve (removeFinalizer ns name finalizer)
      { state := s, others := [others] } = (.ok (), after)) :
    api.Leaves after.state (Server.keyOf .observability ns name)
      (foreign finalizer (finalizers seen)) := by
  let start : Contended api := { state := s, others := [others] }
  obtain ⟨found, read, hget, hrest⟩ := Task.of_run_bind hrun
  rcases run_get? start .observability ns name with ⟨halt, hfailed⟩ | ⟨result, hread, hsome, hnone⟩
  · cases hfailed.symm.trans hget
  · obtain ⟨rfl, rfl⟩ := Prod.mk.inj (hread.symm.trans hget)
    rw [start.next_get h.toLawful .observability ns name rfl] at hrest
    cases found with
    | none =>
      obtain ⟨hrefused, hreason⟩ := hnone rfl
      obtain ⟨hreceived, -⟩ := Request.received_plain .observability ns .null hname
      rw [Contended.response, hreceived] at hrefused hreason
      exact absurd hreason (h.found hseen hrefused)
    | some obs =>
      obtain ⟨hanswered, hread⟩ := hsome obs rfl
      have hlist := finalizers_of_answer h hname (c := start) hseen hanswered hread
      have hforeign : foreign finalizer (finalizers seen) =
          ((obs.metadata.finalizers.getD []).filter (· ≠ finalizer)).map .string := by
        rw [hlist]
        exact Json.filter_strings _ finalizer
      rw [hforeign]
      exact leaves_of_patched h hname rfl hrest

end Client

/-- What an edit of a finalizer makes of the list when others ask for something between its two
requests. Their work is kept just if the edit writes nothing or they have not touched their own
finalizers. -/
theorem edit_keeps_foreign_iff (h : api.Merges) (edit : FinalizerEdit) {ns name finalizer : String}
    (hname : ∀ c ∈ name.toList, c ≠ '/' ∧ Uri.endsPath c = false) {s : api.State}
    {others : List Request} {seen theirs : Json}
    (hseen : api.stored s (Server.keyOf .observability ns name) = some seen)
    (htheirs : api.stored (api.after others s) (Server.keyOf .observability ns name) = some theirs)
    (hown : .string finalizer ∈ finalizers theirs ↔ .string finalizer ∈ finalizers seen)
    {after : Contended api}
    (hrun : Program.run Contended.serve (edit.task ns name finalizer)
      { state := s, others := [others] } = (.ok (), after)) :
    let key := Server.keyOf .observability ns name
    api.Leaves after.state key
        (edit.outcome finalizer (finalizers seen) (finalizers theirs)) ∧
      (api.Leaves after.state key (edit.apply finalizer (finalizers theirs)) ↔
        edit = .add ∧ .string finalizer ∈ finalizers seen ∨
          foreign finalizer (finalizers theirs) = foreign finalizer (finalizers seen)) := by
  intro key
  have hleaves : api.Leaves after.state key
      (edit.outcome finalizer (finalizers seen) (finalizers theirs)) := by
    cases edit with
    | add => exact Client.leaves_of_added h hname hseen htheirs hrun
    | remove => exact Client.leaves_of_removed h hname hseen hrun
  exact ⟨hleaves, hleaves.iff_eq.trans (edit.outcome_eq_apply_iff hown)⟩

def auditedTenant : Observability where
  metadata := { name := "tenant", ns := "grafana", finalizers := ["audit"] }
  body := { spec := {} }

/-- Somebody adds a finalizer after the list is read. Either edit takes it away again, and nobody is
told. -/
theorem edit_loses_backup :
    let s := Server.api.after [.create .observability "grafana" auditedTenant.json] Server.fresh
    let both : List Json := [.string "audit", .string "backup"]
    let others := [.patch .observability "grafana" "tenant" (finalizersPatch both)]
    let key := Server.keyOf .observability "grafana" "tenant"
    ∀ edit : FinalizerEdit, ∃ after,
      Program.run Contended.serve (edit.task "grafana" "tenant" "installation")
        { state := s, others := [others] } = (.ok (), after) ∧
      Server.api.Leaves after.state key (edit.apply "installation" [.string "audit"]) ∧
      ¬Server.api.Leaves after.state key (edit.apply "installation" both) := by
  intro s both others key edit
  have hsucceeds : (Program.run Contended.serve (edit.task "grafana" "tenant" "installation")
      { state := s, others := [others] }).1.isOk := by
    cases edit <;> decide +kernel
  rcases hrun : Program.run Contended.serve (edit.task "grafana" "tenant" "installation")
    { state := s, others := [others] } with ⟨halt | ⟨⟩, after⟩ <;> rw [hrun] at hsucceeds
  · cases hsucceeds
  · have hname : ∀ c ∈ "tenant".toList, c ≠ '/' ∧ Uri.endsPath c = false := by
      simp [Uri.endsPath]
    have hseen : (Server.api.stored s key).map finalizers = some [.string "audit"] := by
      decide +kernel
    have htheirs : (Server.api.stored (Server.api.after others s) key).map finalizers =
        some both := by
      decide +kernel
    obtain ⟨seen, hseen, hlist⟩ := Option.map_eq_some_iff.mp hseen
    obtain ⟨theirs, htheirs, hboth⟩ := Option.map_eq_some_iff.mp htheirs
    have hown : .string "installation" ∈ finalizers theirs ↔
        .string "installation" ∈ finalizers seen := by
      rw [hlist, hboth]
      decide
    obtain ⟨hleaves, hkeeps⟩ := edit_keeps_foreign_iff Server.api_merges edit hname hseen htheirs
      hown hrun
    rw [hlist, hboth] at hleaves hkeeps
    refine ⟨after, rfl, ?_, fun hkept => ?_⟩
    · cases edit <;> exact hleaves
    · rcases hkeeps.mp hkept with ⟨-, hmem⟩ | hforeign
      · exact absurd hmem (by decide)
      · exact absurd hforeign (by decide)

end Http

end GrafanaInstall
