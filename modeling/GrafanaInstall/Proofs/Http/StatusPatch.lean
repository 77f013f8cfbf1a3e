import GrafanaInstall.Proofs.Json.MergePatch
import GrafanaInstall.Proofs.Program.Asks
import GrafanaInstall.Proofs.Program.Task
import GrafanaInstall.Proofs.Resource.Stored
import GrafanaInstall.Testbed

/-!
# Patches of the status

The client writes a status as a merge patch, and what the status has no value for the patch does not
name. There the server keeps what it has, so the new status may take over a part of the old one.
-/

namespace GrafanaInstall

open Http

/-! ## Statuses -/

namespace ObservabilityStatus

variable {s read : ObservabilityStatus}

theorem read_eq {entries : List (String × Json)} (h : Entries.Ordered entries)
    (hread : codec.read (.object entries) = some read) :
    Codec.string.optionally (entries.lookup "stage") = some read.stage ∧
      ((entries.lookup "stageStatus").map StageStatus.codec.read).getD (some .inProgress) =
        some read.stageStatus ∧
      Codec.string.optionally (entries.lookup "message") = some read.message := by
  have hfields : fields.readEntries .refused entries = some read := hread
  rw [fields, Fields.as_eq_some_parts (fun _ => rfl) (fun _ => rfl)] at hfields
  simp only [Fields.cons_eq_some, Field.optional_eq _ _ _ h.nodup,
    Field.defaulted_eq _ _ _ _ h.nodup] at hfields
  obtain ⟨hstage, hstatus, hmessage, -⟩ := hfields
  exact ⟨hstage, hstatus, hmessage⟩

theorem get?_write (s : ObservabilityStatus) :
    (codec.write s).get? "stage" = s.stage.map .string ∧
      (codec.write s).get? "stageStatus" = some (.string s.stageStatus.text) ∧
      (codec.write s).get? "message" = s.message.map .string := by
  obtain ⟨_ | stage, stageStatus, _ | message⟩ := s <;> exact ⟨rfl, rfl, rfl⟩

theorem text_of_patched {before : Option Json} {text after : Option String}
    (h : Codec.string.optionally (Json.patched before (text.map .string)) = some after) :
    after = text.or (before.bind Json.string?) := by
  cases text with
  | some text => cases h; rfl
  | none =>
    rcases before with _ | (_ | _ | _ | _ | _ | _ | _ | _) <;> cases h <;> rfl

theorem read_mergePatch {before : Json} (h : Entries.Ordered before.entries)
    (hread : codec.read (before.mergePatch (codec.write s)) = some read) :
    read =
      { stage := s.stage.or ((before.get? "stage").bind Json.string?)
        stageStatus := s.stageStatus
        message := s.message.or ((before.get? "message").bind Json.string?) } := by
  let merged := Json.mergeEntries before.entries (codec.write s).entries
  have hsorted : Entries.Ordered (codec.write s).entries := Entries.ordered_sort _
  have hlookup (key : String) :
      merged.lookup key = Json.patched (before.get? key) ((codec.write s).get? key) :=
    Json.lookup_mergeEntries hsorted.nodup _ key
  have hmerged : codec.read (.object merged) = some read := hread
  obtain ⟨hstage, hstatus, hmessage⟩ := read_eq (Json.ordered_mergeEntries _ h) hmerged
  obtain ⟨hs, ht, hm⟩ := get?_write s
  rw [hlookup, hs] at hstage
  rw [hlookup, ht] at hstatus
  rw [hlookup, hm] at hmessage
  obtain ⟨stage, stageStatus, message⟩ := read
  obtain rfl := text_of_patched hstage
  obtain rfl := text_of_patched hmessage
  obtain rfl : s.stageStatus = stageStatus :=
    Option.some.inj ((StageStatus.lawful.read_write _).symm.trans hstatus)
  rfl

end ObservabilityStatus

def Json.statusText? (value : Json) (key : String) : Option String :=
  (value.at? ["status", key]).bind Json.string?

namespace ObservabilityStatus

def onto (s : ObservabilityStatus) (value : Json) : ObservabilityStatus where
  stage := s.stage.or (value.statusText? "stage")
  stageStatus := s.stageStatus
  message := s.message.or (value.statusText? "message")

/-- Has a text for each that the status of a stored object has. -/
def Covers (s : ObservabilityStatus) (value : Json) : Prop :=
  (s.stage = none → value.statusText? "stage" = none) ∧
    (s.message = none → value.statusText? "message" = none)

theorem onto_eq_iff {s : ObservabilityStatus} {value : Json} :
    s.onto value = s ↔ s.Covers value := by
  obtain ⟨_ | stage, stageStatus, _ | message⟩ := s <;> simp [onto, Covers]

end ObservabilityStatus

/-! ## Requests -/

namespace Http

theorem Request.route_status {name : List Char}
    (h : ∀ c ∈ name, c ≠ '/' ∧ Uri.endsPath c = false) :
    route (name ++ "/status".toList) = (String.ofList name, true) := by
  have hpath : Uri.path (name ++ "/status".toList) = name ++ "/status".toList := by
    rw [Uri.path, List.takeWhile_append_of_pos fun c hc => by simp [(h c hc).2]]
    rfl
  have hslash : ∀ c ∈ name, decide (c ≠ '/') = true := fun c hc => decide_eq_true (h c hc).1
  rw [route, hpath, List.takeWhile_append_of_pos hslash, List.dropWhile_append_of_pos hslash]
  simp

theorem Request.received_patchStatus (k : Kind) (ns : String) {name : String} (change : Json)
    (h : ∀ c ∈ name.toList, c ≠ '/' ∧ Uri.endsPath c = false) :
    (Request.patchStatus k ns name change).received = .patchStatus k ns name change := by
  rw [received, route_status h, received.patchAt, if_pos rfl, String.ofList_toList]

end Http

theorem Testbed.deliver_of_nil {bed : Testbed} (h : bed.requestFaults = []) (request : Request) :
    (bed.deliver request).1 = .answered (bed.server.respond request.received).1 ∧
      (bed.deliver request).2.server = (bed.server.respond request.received).2 := by
  obtain ⟨access, server, callFaults, requestFaults, cancelled, seen, log⟩ := bed
  obtain rfl : requestFaults = [] := h
  exact ⟨rfl, rfl⟩

theorem Http.Client.of_exchange {bed after : Testbed} (hfaults : bed.requestFaults = [])
    {request : Request} {body : Body}
    (h : Program.run Testbed.network (exchange request) bed = (.ok body, after)) :
    (bed.server.respond request.received).1.body = body ∧
      after.server = (bed.server.respond request.received).2 := by
  obtain ⟨hanswer, hserver⟩ := Testbed.deliver_of_nil hfaults request
  simp only [exchange] at h
  split at h
  · cases h
  · obtain ⟨delivery, middle, hsend, hrest⟩ := Task.of_run_bind h
    have hdelivery : bed.deliver request = (delivery, middle) := by
      cases hsend
      rfl
    rw [hdelivery] at hanswer hserver
    obtain rfl : delivery = _ := hanswer
    dsimp only at hrest
    split at hrest
    · cases hrest
    · cases hrest
      exact ⟨rfl, hserver⟩

theorem Http.Client.of_decode {bed after : Testbed} {read : Json → Option α} {body : Body} {a : α}
    (h : Program.run Testbed.network (decode read body) bed = (.ok a, after)) :
    body.json?.bind read = some a ∧ after = bed := by
  rw [decode] at h
  split at h
  · cases h
    exact ⟨‹_›, rfl⟩
  · cases h

/-! ## The server -/

namespace Http.Server

variable {server : Server} {k : Kind} {ns name : String}

def versioned (server : Server) (object : Json) : Json :=
  object.setAt versionPath (.string (toString (server.version + 1)))

theorem find?_write (key : Key) (object : Json) (server : Server) :
    (server.write key object).2.store.find? key =
      if isMarked object && !hasFinalizers object then none
      else some (server.versioned object) := by
  have hmarked : isMarked (server.versioned object) = isMarked object := by
    simp [isMarked, versioned, versionPath, Json.at?_setAt]
  have hfinalizers : hasFinalizers (server.versioned object) = hasFinalizers object := by
    simp [hasFinalizers, versioned, versionPath, Json.at?_setAt]
  rw [← hmarked, ← hfinalizers]
  by_cases hgone : isMarked (server.versioned object) && !hasFinalizers (server.versioned object)
  · have hstore : (server.write key object).2.store = server.store.erase key := if_pos hgone
    rw [hstore, Store.find?_erase, if_pos rfl, if_pos hgone]
  · have hstore : (server.write key object).2.store =
        server.store.put key (server.versioned object) := if_neg hgone
    rw [hstore, Store.find?_put, if_pos rfl, if_neg hgone]

theorem respond_patchStatus {value status : Json}
    (hfind : server.store.find? (keyOf k ns name) = some value) :
    server.respond (.patchStatus k ns name (.object [("status", status)])) =
      let merged := value.set "status" (((value.get? "status").getD .null).mergePatch status)
      (answer 200 (server.versioned merged), (server.write (keyOf k ns name) merged).2) := by
  have hcurrent : isOutdated value (.object [("status", status)]) = false := rfl
  rw [respond, update, hfind]
  dsimp only
  rw [if_neg (by simp [hcurrent])]
  rfl

theorem isMarked_set (value status : Json) :
    isMarked (value.set "status" status) = isMarked value := by
  rw [isMarked, Json.at?_set_of_ne _ _ (by decide), isMarked]

theorem hasFinalizers_set (value status : Json) :
    hasFinalizers (value.set "status" status) = hasFinalizers value := by
  rw [hasFinalizers, Json.at?_set_of_ne _ _ (by decide), hasFinalizers]

end Http.Server

/-! ## Patches -/

namespace Controller

theorem recordStatus_asks_nothing_iff {obs : Observability} {ns : String}
    {status : ObservabilityStatus} :
    (recordStatus obs ns status).Asks (fun _ => False) ↔ obs.body.status = some status := by
  rw [recordStatus]
  split
  · exact ⟨fun _ => ‹_›, fun _ => .log ..⟩
  · exact ⟨fun h => h.1.elim, fun h => absurd h ‹_›⟩

end Controller

/-- A regular value whose status, if it has one, has each key once. -/
structure Json.Reported (value : Json) : Prop extends value.Regular where
  status : Entries.Ordered ((value.get? "status").getD .null).entries

theorem Json.statusText?_eq (value : Json) (key : String) :
    value.statusText? key = (((value.get? "status").getD .null).get? key).bind Json.string? := by
  cases h : value.get? "status" with
  | none => rw [statusText?, at?, h]; rfl
  | some status => simp [statusText?, at?, h]

namespace Http

variable {value : Json} {s : ObservabilityStatus} {obs : Observability}

def merged (value : Json) (s : ObservabilityStatus) : Json :=
  value.set "status"
    (((value.get? "status").getD .null).mergePatch (ObservabilityStatus.codec.write s))

theorem status_of_merged (h : value.Reported) {server : Server}
    (hread : Object.read? .observability (server.versioned (merged value s)) = some obs) :
    obs.body.status = some (s.onto value) := by
  have hregular : (server.versioned (merged value s)).Regular :=
    (h.toRegular.set _ (by decide)).setAt _ _
  rw [hregular.object, Object.read?_observability hregular.ordered.nodup] at hread
  have hstatus : (server.versioned (merged value s)).get? "status" = some
      (((value.get? "status").getD .null).mergePatch (ObservabilityStatus.codec.write s)) := by
    simp [Server.versioned, Server.versionPath, merged, Json.setAt, Json.get?_set]
  have hoptional : ObservabilityStatus.codec.optionally
      ((server.versioned (merged value s)).get? "status") = some obs.body.status := hread.2.2
  rw [hstatus] at hoptional
  obtain ⟨read, hread, hstored⟩ := Option.map_eq_some_iff.mp hoptional
  rw [← hstored, ObservabilityStatus.read_mergePatch h.status hread, ObservabilityStatus.onto,
    Json.statusText?_eq, Json.statusText?_eq]

namespace Client

/-- What a patch of the status leaves, if it succeeds. The new status replaces the old one only if
it covers it. A marked object that nothing holds back is gone. -/
theorem patchStatus_replaces_iff {bed after : Testbed} (hfaults : bed.requestFaults = [])
    {ns name : String} (hname : ∀ c ∈ name.toList, c ≠ '/' ∧ Uri.endsPath c = false) {value : Json}
    (hfind : bed.store.find? (Server.keyOf .observability ns name) = some value)
    (hvalue : value.Reported) (s : ObservabilityStatus)
    (hrun : Program.run Testbed.network (patchStatus ns name s) bed = (.ok (), after)) :
    (after.store.find? (Server.keyOf .observability ns name) = none ↔
      Server.isMarked value ∧ ¬Server.hasFinalizers value) ∧
    ∀ next, after.store.find? (Server.keyOf .observability ns name) = some next →
      ∃ obs, Object.read? .observability next = some obs ∧
        obs.body.status = some (s.onto value) ∧
        (obs.body.status = some s ↔ s.Covers value) ∧
        ((Controller.recordStatus obs ns s).Asks (fun _ => False) ↔ s.Covers value) := by
  -- The patch has succeeded, and so has each of its steps.
  obtain ⟨_, named, hcheck, hrun⟩ := Task.of_run_bind hrun
  obtain rfl : bed = named := by
    rw [checkName] at hcheck
    split at hcheck <;> cases hcheck
    rfl
  obtain ⟨body, patched, hexchange, hrun⟩ := Task.of_run_bind hrun
  obtain ⟨obs, last, hdecode, hdone⟩ := Task.of_run_bind hrun
  cases hdone
  obtain ⟨hbody, hserver⟩ := of_exchange hfaults hexchange
  rw [Request.received_patchStatus _ _ _ hname, Server.respond_patchStatus hfind] at hbody hserver
  obtain ⟨hread, rfl⟩ := of_decode hdecode
  rw [← hbody] at hread
  have hstatus := status_of_merged hvalue hread
  have hafter : after.store.find? (Server.keyOf .observability ns name) =
      if Server.isMarked value && !Server.hasFinalizers value then none
      else some (bed.server.versioned (merged value s)) := by
    rw [Testbed.store, hserver, Server.find?_write, Server.isMarked_set, Server.hasFinalizers_set]
    rfl
  rw [hafter]
  refine ⟨by simp, fun next hnext => ?_⟩
  split at hnext
  · cases hnext
  · cases hnext
    have hcovers : obs.body.status = some s ↔ s.Covers value := by
      rw [hstatus, Option.some.injEq, ObservabilityStatus.onto_eq_iff]
    exact ⟨obs, hread, hstatus, hcovers, Controller.recordStatus_asks_nothing_iff.trans hcovers⟩

def failing : Observability where
  metadata := { name := "tenant", ns := "grafana" }
  body := { spec := {}, status := some ⟨"readiness", .failed, "timeout"⟩ }

/-- A success after a failure keeps its message. -/
theorem patchStatus_after_failure :
    let s : ObservabilityStatus := { stage := "readiness", stageStatus := .success }
    let key := Server.keyOf .observability "grafana" "tenant"
    let bed : Testbed := { access := .server, server := { store := [⟨key, failing.json⟩] } }
    ∃ after next obs,
      Program.run Testbed.network (patchStatus "grafana" "tenant" s) bed = (.ok (), after) ∧
      after.store.find? key = some next ∧ Object.read? .observability next = some obs ∧
      obs.body.status = some { s with message := "timeout" } ∧
      ¬(Controller.recordStatus obs "grafana" s).Asks fun _ => False := by
  intro s key bed
  have hsucceeds : (Program.run Testbed.network
      (patchStatus "grafana" "tenant" s) bed).1.isOk := by decide +kernel
  rcases hrun : Program.run Testbed.network (patchStatus "grafana" "tenant" s) bed with
    ⟨halt | ⟨⟩, after⟩ <;> rw [hrun] at hsucceeds
  · cases hsucceeds
  · have hname : ∀ c ∈ "tenant".toList, c ≠ '/' ∧ Uri.endsPath c = false := by
      simp [Uri.endsPath]
    have hfind : bed.store.find? key = some failing.json := by decide
    have hvalue : failing.json.Reported :=
      { object := rfl, ordered := by decide, metadata := by decide, status := by decide }
    obtain ⟨hgone, hleft⟩ := patchStatus_replaces_iff rfl hname hfind hvalue s hrun
    obtain ⟨next, hnext⟩ := Option.ne_none_iff_exists'.mp
      (show after.store.find? key ≠ none from fun h => absurd (hgone.mp h) (by decide))
    obtain ⟨obs, hread, hstatus, -, hasks⟩ := hleft next hnext
    have honto : s.onto failing.json = { s with message := "timeout" } := by decide
    have hcovers : ¬s.Covers failing.json := by
      rintro ⟨-, hmessage⟩
      exact absurd (hmessage rfl) (by decide)
    exact ⟨after, next, obs, rfl, hnext, hread, hstatus.trans (congrArg some honto),
      fun h => hcovers (hasks.mp h)⟩

end Client

end Http

end GrafanaInstall
