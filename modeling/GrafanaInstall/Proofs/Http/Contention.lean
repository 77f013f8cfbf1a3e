import GrafanaInstall.Http.Client
import GrafanaInstall.Proofs.Http.Api

/-!
# Applying among other writers

Others may write whenever the server is not answering. An apply writes at most once, and what it
writes replaces nothing but the version that it has read.
-/

namespace GrafanaInstall.Http

/-- A server that others use too. -/
structure Contended (api : Api) where
  state : api.State
  /-- What others ask for after each request that is still to come. -/
  others : List (List Request)
  /-- Our own requests so far, as they were received, with their answers. -/
  sent : List (Request × Response) := []

namespace Contended

variable {api : Api} (c : Contended api)

def response (request : Request) : Response := (api.respond c.state request.received).1

def next (request : Request) : Contended api where
  state := api.after (c.others.headD []) (api.respond c.state request.received).2
  others := c.others.tail
  sent := c.sent ++ [(request.received, c.response request)]

def serve : Handler Http (Contended api)
  | .send request, c => (.answered (c.response request), c.next request)
  | .log _, c => ((), c)

def afterRead (k : Kind) (ns name : String) (others : List Request) : Contended api where
  state := api.after others c.state
  others := []
  sent := c.sent ++
    [(.get k ns (Request.route name.toList).1, c.response (.get k ns name))]

theorem next_get (h : api.Lawful) (k : Kind) (ns name : String) {others : List Request}
    (hothers : c.others = [others]) :
    c.next (.get k ns name) = c.afterRead k ns name others := by
  have hstate : (api.respond c.state (Request.received (.get k ns name))).2 = c.state :=
    h.get_state c.state k ns _
  simp only [next, afterRead, hstate, hothers]
  rfl

end Contended

namespace Client

variable {api : Api} (c : Contended api) {k : Kind} {ns name : String}

/-! ## Requests -/

theorem run_exchange (request : Request) :
    (∃ cause, Program.run Contended.serve (exchange request) c =
        (.error (.failed (.cluster (.malformedAddress cause))), c)) ∨
      Program.run Contended.serve (exchange request) c =
        (if (c.response request).Refused then
          .error (.failed (.cluster (.refused (refusal (c.response request)))))
        else .ok (c.response request).body, c.next request) := by
  rw [exchange]
  split
  · rename_i cause hcheck
    exact .inl ⟨cause, rfl⟩
  · have hsend : Program.run Contended.serve
        (ExceptT.lift (Program.send (I := Http) (.send request)) : Task Http Delivery) c =
          (.ok (.answered (c.response request)), c.next request) := rfl
    refine .inr ((Task.run_bind_ok hsend _).trans ?_)
    dsimp only
    split
    · rename_i hrefused
      rw [if_pos (show (c.response request).Refused from hrefused)]
      rfl
    · rename_i hrefused
      rw [if_neg (show ¬(c.response request).Refused from hrefused)]
      rfl

/-- How a task ends that sends one request. What it gives back meets `Reads`. -/
inductive Sent (request : Request) (Reads : α → Prop) : Except Halt α × Contended api → Prop
  /-- The request may not be written. -/
  | unsent (cause : ClusterError) (h : ∀ r, cause ≠ .refused r) :
    Sent request Reads (.error (.failed (.cluster cause)), c)
  | refused (h : (c.response request).Refused) :
    Sent request Reads
      (.error (.failed (.cluster (.refused (refusal (c.response request))))), c.next request)
  | unreadable (h : ¬(c.response request).Refused) :
    Sent request Reads (.error (.failed (.cluster .unreadableAnswer)), c.next request)
  | answered (h : ¬(c.response request).Refused) {a : α} (ha : Reads a) :
    Sent request Reads (.ok a, c.next request)

theorem sent_exchange (request : Request) {f : Body → Task Http α} {Reads : α → Prop}
    (hf : ∀ after : Contended api,
      Program.run Contended.serve (f (c.response request).body) after =
        (.error (.failed (.cluster .unreadableAnswer)), after) ∨
      ∃ a, Reads a ∧
        Program.run Contended.serve (f (c.response request).body) after = (.ok a, after)) :
    Sent c request Reads
      (Program.run Contended.serve (exchange request >>= f : Task Http α) c) := by
  rw [Task.run_bind]
  rcases run_exchange c request with ⟨cause, hrun⟩ | hrun
  · rw [hrun]
    exact .unsent _ fun _ h => ClusterError.noConfusion h
  · rw [hrun]
    by_cases hrefused : (c.response request).Refused
    · rw [if_pos hrefused]
      exact .refused hrefused
    · rw [if_neg hrefused]
      dsimp only
      rcases hf (c.next request) with hrun | ⟨a, ha, hrun⟩
      · rw [hrun]
        exact .unreadable hrefused
      · rw [hrun]
        exact .answered hrefused ha

theorem run_decode (read : Json → Option α) (body : Body) :
    Program.run Contended.serve (decode read body) c =
      ((body.json?.bind read).elim (.error (.failed (.cluster .unreadableAnswer))) .ok, c) := by
  rw [decode]
  cases body.json?.bind read <;> rfl

theorem sent_checked {request : Request} {task : Task Http α} {Reads : α → Prop}
    (h : Sent c request Reads (Program.run Contended.serve task c)) :
    Sent c request Reads
      (Program.run Contended.serve (checkName name >>= fun _ => task : Task Http α) c) := by
  rw [checkName]
  split
  · exact .unsent _ fun _ h => ClusterError.noConfusion h
  · exact h

theorem sent_get : Sent c (.get k ns name)
    (fun o => (c.response (.get k ns name)).body.json?.bind (Object.read? k) = some o)
    (Program.run Contended.serve (get k ns name) c) := by
  refine sent_checked c (sent_exchange c _ fun after => ?_)
  rw [run_decode]
  cases (c.response (.get k ns name)).body.json?.bind (Object.read? k) with
  | none => exact .inl rfl
  | some o => exact .inr ⟨o, rfl, rfl⟩

theorem run_get? (k : Kind) (ns name : String) :
    (∃ halt, Program.run Contended.serve (get? k ns name) c = (.error halt, c)) ∨
      ∃ result, Program.run Contended.serve (get? k ns name) c =
          (result, c.next (.get k ns name)) ∧
        (∀ o, result = .ok (some o) → ¬(c.response (.get k ns name)).Refused ∧
          (c.response (.get k ns name)).body.json?.bind (Object.read? k) = some o) ∧
        (result = .ok none → (c.response (.get k ns name)).Refused ∧
          (refusal (c.response (.get k ns name))).reason = "NotFound") := by
  have hsent : Sent c (.get k ns name)
      (fun o => (c.response (.get k ns name)).body.json?.bind (Object.read? k) = some o)
      (Program.run Contended.serve (get k ns name) c) := sent_get c
  rw [get?, Task.run_recover, Task.run_bind]
  rcases hrun : Program.run Contended.serve (get k ns name) c with ⟨result, after⟩
  rw [hrun] at hsent
  cases hsent with
  | unsent cause hcause =>
    left
    cases cause with
    | refused r => exact absurd rfl (hcause r)
    | malformedAddress | malformedRequest | undelivered | unreadableAnswer | unendedLine
    | tlsRequired => exact ⟨_, rfl⟩
  | refused hrefused =>
    right
    by_cases hreason : (refusal (c.response (.get k ns name))).reason = "NotFound"
    · refine ⟨.ok none, ?_, fun _ h => (nomatch h), fun _ => ⟨hrefused, hreason⟩⟩
      simp only [if_pos hreason]
      rfl
    · refine ⟨.error (.failed (.cluster (.refused (refusal (c.response (.get k ns name)))))), ?_,
        fun _ h => (nomatch h), fun h => nomatch h⟩
      simp only [if_neg hreason]
      rfl
  | unreadable =>
    exact .inr ⟨.error (.failed (.cluster .unreadableAnswer)), rfl, fun _ h => (nomatch h),
      fun h => nomatch h⟩
  | answered hanswered hread =>
    refine .inr ⟨_, rfl, ?_, fun h => nomatch h⟩
    rintro _ ⟨⟩
    exact ⟨hanswered, hread⟩

theorem sent_write (k : Kind) (request : Request) : Sent c request (fun _ => True)
    (Program.run Contended.serve
      (do let _ ← decode (Object.read? k) (← exchange request) : Task Http Unit) c) := by
  refine sent_exchange c _ fun after => ?_
  rw [Task.run_bind, run_decode]
  cases (c.response request).body.json?.bind (Object.read? k) with
  | none => exact .inl rfl
  | some o => exact .inr ⟨(), trivial, rfl⟩

theorem sent_create (object : Object k) : Sent c (.create k ns object.json) (fun _ => True)
    (Program.run Contended.serve (create ns object) c) :=
  sent_write c k _

theorem sent_replace (object : Object k) : Sent c (.replace k ns name object.json) (fun _ => True)
    (Program.run Contended.serve (replace ns name object) c) :=
  sent_checked c (sent_write c k _)

/-! ## Applies -/

/-- What an apply comes to that reads from one state and finds another when it writes. A name that
holds a character that parts an address is read in another place than it is created in. -/
structure Applied (desired : Object k) (ns name : String) (seen ground : api.State)
    (result : Except Halt ApplyResult) (c : Contended api) : Prop where
  created (h : result = .ok .created) :
    c.sent.map Prod.fst = [.get k ns (Request.route name.toList).1, .create k ns desired.json] ∧
      api.stored ground (Server.keyOf k ns name) = none ∧
      c.state = (api.respond ground (.create k ns desired.json)).2
  /-- The replaced object is the one that was read, and only its content is overwritten. -/
  updated (h : result = .ok .updated) : ∃ object observed,
    let target := (Request.route name.toList).1
    let written := { observed with body := desired.body }
    api.stored seen (Server.keyOf k ns target) = some object ∧
      Object.read? k object = some observed ∧
      c.sent.map Prod.fst = [.get k ns target, .replace k ns target written.json] ∧
      api.stored ground (Server.keyOf k ns target) = some object ∧
      c.state = (api.respond ground (.replace k ns target written.json)).2
  unchanged (h : result = .ok .unchanged) :
    c.sent.map Prod.fst = [.get k ns (Request.route name.toList).1] ∧ c.state = ground
  /-- A conflict comes out as an error. -/
  conflict {read write : Request × Response} (hsent : c.sent = [read, write])
    (h : write.2.status = 409) : ∃ r, result = .error (.failed (.cluster (.refused r)))
  harmless {halt : Halt} {last : Request × Response} (hresult : result = .error halt)
    (hlast : c.sent.getLast? = some last) (h : last.2.status = 409) : c.state = ground

theorem status_ne {response : Response} (h : ¬response.Refused) : response.status ≠ 409 :=
  fun hstatus => h (by simp [Response.Refused, hstatus])

theorem status_of_next {c : Contended api} {first read write : Request × Response}
    {request : Request} (hsent : c.sent = [first]) (h : ¬(c.response request).Refused)
    (hboth : (c.next request).sent = [read, write]) : write.2.status ≠ 409 := by
  rw [Contended.next, hsent] at hboth
  cases hboth
  exact status_ne h

namespace Applied

variable {desired : Object k} {seen : api.State} {c after : Contended api} {halt : Halt}

theorem of_unwritten {ground : api.State}
    (h : after.sent = [] ∨ ∃ read, after.sent = [read] ∧ after.state = ground) :
    Applied desired ns name seen ground (.error halt) after where
  created h := nomatch h
  updated h := nomatch h
  unchanged h := nomatch h
  conflict hsent := by
    rcases h with hnone | ⟨_, hone, -⟩
    · rw [hnone] at hsent
      cases hsent
    · rw [hone] at hsent
      cases hsent
  harmless _ hlast _ := by
    rcases h with hnone | ⟨_, -, hstate⟩
    · rw [hnone] at hlast
      cases hlast
    · exact hstate

theorem of_failed (h : api.Lawful) {read : Request × Response} (hothers : c.others = [])
    (hsent : c.sent = [read]) {request : Request} {Reads : α → Prop}
    (hwrite : Sent c request Reads (.error halt, after)) :
    Applied desired ns name seen c.state (.error halt) after := by
  cases hwrite with
  | unsent => exact of_unwritten (.inr ⟨read, hsent, rfl⟩)
  | refused hrefused =>
    constructor
    case created | updated | unchanged => exact fun h => nomatch h
    case conflict => exact fun _ _ => ⟨_, rfl⟩
    case harmless =>
      intro _ last _ hlast hstatus
      rw [Contended.next, hsent] at hlast
      cases hlast
      rw [Contended.next, hothers]
      exact h.conflict hstatus
  | unreadable hanswered =>
    constructor
    case created | updated | unchanged => exact fun h => nomatch h
    case conflict => exact fun hboth h409 => absurd h409 (status_of_next hsent hanswered hboth)
    case harmless =>
      intro _ last _ hlast h409
      rw [Contended.next, hsent] at hlast
      cases hlast
      exact absurd h409 (status_ne hanswered)

theorem create (h : api.Lawful) (hk : k ∈ appliedKinds) (hname : desired.metadata.name = some name)
    {answer : Response} (hothers : c.others = [])
    (hsent : c.sent = [(.get k ns (Request.route name.toList).1, answer)])
    (fields : List (String × Json)) :
    let run := Program.run Contended.serve (do
      Client.create ns desired
      log .info "created" fields
      return .created : Task Http ApplyResult) c
    Applied desired ns name seen c.state run.1 run.2 := by
  have hwrite : Sent c (.create k ns desired.json) (fun _ => True)
      (Program.run Contended.serve (Client.create ns desired) c) := sent_create c desired
  dsimp only
  rw [Task.run_bind]
  rcases hrun : Program.run Contended.serve (Client.create ns desired) c with ⟨halt | ⟨⟩, after⟩
  · rw [hrun] at hwrite
    exact of_failed h hothers hsent hwrite
  · rw [hrun] at hwrite
    cases hwrite with
    | answered hanswered =>
      have habsent : api.stored c.state (Server.keyOf k ns name) = none := by
        rw [← Option.not_isSome_iff_eq_none]
        intro hfound
        rw [← Object.nameIn_json hk hname] at hfound
        exact hanswered (h.taken hfound)
      constructor
      case created =>
        refine fun _ => ⟨?_, habsent, ?_⟩
        · show (c.next (.create k ns desired.json)).sent.map Prod.fst = _
          rw [Contended.next, hsent]
          rfl
        · show (c.next (.create k ns desired.json)).state = _
          rw [Contended.next, hothers]
          rfl
      case updated | unchanged => exact fun h => nomatch h
      case conflict => exact fun hboth h409 => absurd h409 (status_of_next hsent hanswered hboth)
      case harmless => exact fun hresult => nomatch hresult

/-- A replacement that is not refused finds what was read, for it names the version of that. -/
theorem stored_of_replaced (h : api.Lawful) (hk : k ∈ appliedKinds) {s : api.State}
    {others : List Request} {target : String} {object : Json} {observed : Object k}
    (hseen : api.stored s (Server.keyOf k ns target) = some object)
    (hread : Object.read? k object = some observed) (body : k.Body)
    (hanswered : ¬(api.respond (api.after others s)
      (.replace k ns target { observed with body }.json)).1.Refused) :
    api.stored (api.after others s) (Server.keyOf k ns target) = some object := by
  obtain ⟨v, hversion, -⟩ := h.versioned hseen
  have hcarried : ({ observed with body } : Object k).json.version? = some v := by
    rw [Object.version?_json hk, ← hversion]
    exact ((h.regular hseen).texts_of_read hk hread).2.symm
  have hpresent : (api.stored (api.after others s) (Server.keyOf k ns target)).bind
      Json.version? = some v :=
    Decidable.byContradiction fun hother => hanswered (h.outdated hcarried hother)
  obtain ⟨other, hfound, hother⟩ := Option.bind_eq_some_iff.mp hpresent
  rw [hfound, h.eq_of_version others hseen hfound (hother.trans hversion.symm)]

theorem replace (h : api.Lawful) (hk : k ∈ appliedKinds) {others : List Request}
    {object : Json} {observed : Object k} {answer : Response}
    (hseen : api.stored seen (Server.keyOf k ns (Request.route name.toList).1) = some object)
    (hread : Object.read? k object = some observed) (hstate : c.state = api.after others seen)
    (hothers : c.others = [])
    (hsent : c.sent = [(.get k ns (Request.route name.toList).1, answer)])
    (fields : List (String × Json)) :
    let run := Program.run Contended.serve (do
      Client.replace ns name { observed with body := desired.body }
      log .info "updated" fields
      return .updated : Task Http ApplyResult) c
    Applied desired ns name seen c.state run.1 run.2 := by
  let changed : Object k := { observed with body := desired.body }
  have hwrite : Sent c (.replace k ns name changed.json) (fun _ => True)
      (Program.run Contended.serve (Client.replace ns name changed) c) := sent_replace c changed
  dsimp only
  rw [Task.run_bind]
  rcases hrun : Program.run Contended.serve (Client.replace ns name changed) c with
    ⟨halt | ⟨⟩, after⟩
  · rw [hrun] at hwrite
    exact of_failed h hothers hsent hwrite
  · rw [hrun] at hwrite
    cases hwrite with
    | answered hanswered =>
      have hground : api.stored c.state (Server.keyOf k ns (Request.route name.toList).1) =
          some object := by
        rw [Contended.response, hstate] at hanswered
        rw [hstate]
        exact stored_of_replaced h hk hseen hread desired.body hanswered
      constructor
      case updated =>
        refine fun _ => ⟨object, observed, hseen, hread, ?_, hground, ?_⟩
        · show (c.next (.replace k ns name changed.json)).sent.map Prod.fst = _
          rw [Contended.next, hsent]
          rfl
        · show (c.next (.replace k ns name changed.json)).state = _
          rw [Contended.next, hothers]
          rfl
      case created | unchanged => exact fun h => nomatch h
      case conflict => exact fun hboth h409 => absurd h409 (status_of_next hsent hanswered hboth)
      case harmless => exact fun hresult => nomatch hresult

end Applied

theorem applied_of_named (h : api.Lawful) (hk : k ∈ appliedKinds) {desired : Object k}
    (hns : desired.metadata.ns = some ns) (hname : desired.metadata.name = some name)
    (s : api.State) (others : List Request) :
    let run := Program.run Contended.serve (apply desired) { state := s, others := [others] }
    Applied desired ns name s (api.after others s) run.1 run.2 := by
  let start : Contended api := { state := s, others := [others] }
  let read := start.afterRead k ns name others
  have hnext : start.next (.get k ns name) = read := start.next_get h k ns name rfl
  show Applied desired ns name s read.state (Program.run Contended.serve (apply desired) start).1
    (Program.run Contended.serve (apply desired) start).2
  rw [apply]
  simp only [hns, hname]
  rw [Task.run_bind]
  rcases run_get? start k ns name with ⟨halt, hrun⟩ | ⟨result, hrun, hfound⟩
  · rw [hrun]
    exact .of_unwritten (.inl rfl)
  · rw [hrun, hnext]
    obtain ⟨hfound, -⟩ := hfound
    rcases result with halt | _ | observed
    · exact .of_unwritten (.inr ⟨_, rfl, rfl⟩)
    · exact Applied.create (c := read) h hk hname rfl rfl _
    · obtain ⟨hanswered, hread⟩ := hfound observed rfl
      obtain ⟨object, hseen, hread⟩ := Option.bind_eq_some_iff.mp
        ((h.get_reads hanswered).symm.trans hread)
      dsimp only
      rw [Object.mutatedIfChanged_eq, Object.overwrite_of_applied hk]
      by_cases hsame : ({ observed with body := desired.body } : Object k) = observed
      · rw [if_pos hsame]
        constructor
        case unchanged => exact fun _ => ⟨rfl, rfl⟩
        case created | updated => exact fun h => nomatch h
        case conflict => exact fun hboth => nomatch hboth
        case harmless => exact fun hresult => nomatch hresult
      · rw [if_neg hsame]
        exact Applied.replace (c := read) h hk hseen hread rfl rfl rfl _

/-- Whatever others ask for between the two requests of an apply, it overwrites nothing of
theirs. -/
theorem apply_overwrites_nothing (h : api.Lawful) (hk : k ∈ appliedKinds) (desired : Object k)
    (s : api.State) (others : List Request) :
    let run := Program.run Contended.serve (apply desired) { state := s, others := [others] }
    Applied desired (desired.metadata.ns.getD "") (desired.metadata.name.getD "") s
      (api.after others s) run.1 run.2 := by
  cases hns : desired.metadata.ns with
  | none =>
    simp only [apply, hns]
    exact .of_unwritten (.inl rfl)
  | some ns =>
    cases hname : desired.metadata.name with
    | none =>
      simp only [apply, hns, hname]
      exact .of_unwritten (.inl rfl)
    | some name => exact applied_of_named h hk hns hname s others

/-- Somebody labels the catalog source after it is read, and the write comes too late. -/
theorem apply_overwrites_nothing_labelled :
    let tenant : Tenant := { ns := "grafana", version := "v4.1.0" }
    let desired := { tenant with version := "v4.2.0" }.catalogSource {}
    let labels := .object [("metadata", .object [("labels", .object [("team", .string "a")])])]
    let s := Server.api.after [.create .catalogSource "grafana" (tenant.catalogSource {}).json]
      Server.fresh
    let others := [.patch .catalogSource "grafana" catalogSourceName labels]
    ∃ r after, Program.run Contended.serve (apply desired) { state := s, others := [others] } =
        (.error (.failed (.cluster (.refused r))), after) ∧
      after.state = Server.api.after others s := by
  intro tenant desired labels s others
  have happlied := apply_overwrites_nothing Server.api_lawful
    (show .catalogSource ∈ appliedKinds by decide) desired s others
  have hstatus : (Program.run Contended.serve (apply desired)
      { state := s, others := [others] }).2.sent.map (·.2.status) = [200, 409] := by
    decide +kernel
  rcases hrun : Program.run Contended.serve (apply desired) { state := s, others := [others] } with
    ⟨result, after⟩
  rw [hrun] at hstatus
  simp only [hrun] at happlied
  obtain ⟨read, rest, hsent, -, hrest⟩ := List.map_eq_cons_iff.mp hstatus
  obtain ⟨write, tail, rfl, hconflict, htail⟩ := List.map_eq_cons_iff.mp hrest
  obtain rfl : tail = [] := List.map_eq_nil_iff.mp htail
  obtain ⟨r, hresult⟩ := happlied.conflict hsent hconflict
  have hlast : after.sent.getLast? = some write := by
    rw [hsent]
    rfl
  exact ⟨r, after, by rw [hresult], happlied.harmless hresult hlast hconflict⟩

end Client

end GrafanaInstall.Http
