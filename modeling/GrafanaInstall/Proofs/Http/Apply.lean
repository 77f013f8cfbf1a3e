import GrafanaInstall.Proofs.Http.Finalizers
import GrafanaInstall.Proofs.Resource.Printed
import GrafanaInstall.Proofs.Store.Calls

/-!
# Applies that nothing disturbs

An apply creates what is not there, leaves alone what has the desired content, and else writes it
back with that content and with all that was read beside it. It writes at most once, and nothing is
left to do for another apply of the same object.
-/

namespace GrafanaInstall

open Http

variable {k : Kind} {ns name : String} {desired : Object k} {bed : Testbed}

/-- A name that the server takes for what it is, at addresses that may be written. -/
structure Http.Addressable (k : Kind) (ns name : String) : Prop where
  named : name ≠ ""
  plain : ∀ c ∈ name.toList, c ≠ '/' ∧ Uri.endsPath c = false
  get : Uri.checkRelative (Request.objectPath k ns name) = .ok ()
  create : Uri.checkRelative (Request.collectionPath k ns ++ "?") = .ok ()
  replace : Uri.checkRelative (Request.objectPath k ns name ++ "?") = .ok ()

/-! ## Requests -/

def Testbed.served (bed : Testbed) (request : Request) : Testbed :=
  { bed with
    server := (bed.server.respond request.received).2
    seen := .request request :: bed.seen }

namespace Http.Client

theorem exchange_calm (hfaults : bed.requestFaults = []) (request : Request)
    (haddress : Uri.checkRelative request.address = .ok ()) :
    Program.run Testbed.network (exchange request) bed =
      (let response := (bed.server.respond request.received).1
        if response.Refused then .error (.failed (.cluster (.refused (refusal response))))
        else .ok response.body,
        bed.served request) := by
  have hsend : Program.run Testbed.network
      (ExceptT.lift (Program.send (I := Http) (.send request)) : Task Http Delivery) bed =
        (.ok (.answered (bed.server.respond request.received).1), bed.served request) := by
    obtain ⟨access, server, callFaults, requestFaults, cancelled, seen, log⟩ := bed
    obtain rfl : requestFaults = [] := hfaults
    rfl
  simp only [exchange, haddress]
  refine (Task.run_bind_ok hsend _).trans ?_
  dsimp only
  by_cases hrefused : (bed.server.respond request.received).1.Refused
  · rw [if_pos hrefused, if_pos (show 400 ≤ _ ∧ _ from hrefused)]
    rfl
  · rw [if_neg hrefused, if_neg (show ¬(400 ≤ _ ∧ _) from hrefused)]
    rfl

theorem run_checked (h : name ≠ "") (task : Task Http α) (bed : Testbed) :
    Program.run Testbed.network (checkName name >>= fun _ => task : Task Http α) bed =
      Program.run Testbed.network task bed := by
  rw [checkName, if_neg h]
  rfl

theorem exchange_answered (hfaults : bed.requestFaults = []) (request : Request)
    (haddress : Uri.checkRelative request.address = .ok ()) {status : Nat} {value : Json}
    {server : Server} (hstatus : status < 400)
    (hrespond : bed.server.respond request.received = (Server.answer status value, server))
    (f : Body → Task Http α) :
    Program.run Testbed.network (exchange request >>= f : Task Http α) bed =
      Program.run Testbed.network (f (.json value))
        { bed with server, seen := .request request :: bed.seen } := by
  have hexchange := exchange_calm hfaults request haddress
  have hanswered : ¬(Server.answer status value).Refused := fun h => Nat.not_le.mpr hstatus h.1
  rw [Testbed.served, hrespond] at hexchange
  simp only [if_neg hanswered] at hexchange
  exact Task.run_bind_ok hexchange f

theorem decode_of_read {read : Json → Option α} {value : Json} {a : α} (h : read value = some a)
    (bed : Testbed) :
    Program.run Testbed.network (decode read (.json value)) bed = (.ok a, bed) := by
  rw [decode, show (Body.json value).json?.bind read = some a from h]
  rfl

theorem write_answered (hfaults : bed.requestFaults = []) (request : Request)
    (haddress : Uri.checkRelative request.address = .ok ()) {status : Nat} {value : Json}
    {server : Server} (hstatus : status < 400)
    (hrespond : bed.server.respond request.received = (Server.answer status value, server))
    {o : Object k} (hread : Object.read? k value = some o) :
    Program.run Testbed.network
        (do let _ ← decode (Object.read? k) (← exchange request) : Task Http Unit) bed =
      (.ok (), { bed with server, seen := .request request :: bed.seen }) := by
  refine (exchange_answered hfaults request haddress hstatus hrespond _).trans ?_
  exact Task.run_bind_ok (decode_of_read hread _) _

/-! ### Reads -/

theorem refusal_notFound (k : Kind) (name : String) :
    (refusal (Server.notFound k name)).reason = "NotFound" := by
  rfl

theorem received_get (h : Addressable k ns name) :
    (Request.get k ns name).received = .get k ns name :=
  (Request.received_plain k ns .null h.plain).1

theorem get?_of_absent (hfaults : bed.requestFaults = []) (h : Addressable k ns name)
    (hfind : bed.store.find? (Server.keyOf k ns name) = none) :
    Program.run Testbed.network (get? k ns name) bed =
      (.ok none, bed.see (.request (.get k ns name))) := by
  have hrespond : bed.server.respond (Request.get k ns name).received =
      (Server.notFound k name, bed.server) := by
    rw [received_get h, Server.respond, show bed.server.store.find? _ = none from hfind]
  have hrefused : (Server.notFound k name).Refused :=
    Server.refused_failure (by decide) _ _
  have hexchange := exchange_calm hfaults (.get k ns name) h.get
  rw [Testbed.served, hrespond] at hexchange
  simp only [if_pos hrefused] at hexchange
  have hget : Program.run Testbed.network (get k ns name) bed =
      (.error (.failed (.cluster (.refused (refusal (Server.notFound k name))))),
        bed.see (.request (.get k ns name))) := by
    rw [get, run_checked h.named, Task.run_bind, hexchange]
    rfl
  rw [get?, Task.run_recover, Task.run_bind, hget]
  simp only [refusal_notFound, if_true]
  rfl

theorem get?_of_held (hfaults : bed.requestFaults = []) (h : Addressable k ns name) {value : Json}
    (hfind : bed.store.find? (Server.keyOf k ns name) = some value) {observed : Object k}
    (hread : Object.read? k value = some observed) :
    Program.run Testbed.network (get? k ns name) bed =
      (.ok (some observed), bed.see (.request (.get k ns name))) := by
  have hrespond : bed.server.respond (Request.get k ns name).received =
      (Server.answer 200 value, bed.server) := by
    rw [received_get h, Server.respond, show bed.server.store.find? _ = some value from hfind]
  have hget : Program.run Testbed.network (get k ns name) bed =
      (.ok observed, bed.see (.request (.get k ns name))) := by
    rw [get, run_checked h.named]
    refine (exchange_answered hfaults (.get k ns name) h.get (by decide) hrespond _).trans ?_
    exact decode_of_read hread _
  rw [get?, Task.run_recover, Task.run_bind, hget]
  rfl

/-! ### Writes -/

theorem create_calm (hfaults : bed.requestFaults = []) (h : Addressable k ns name)
    (hk : k ∈ appliedKinds) (hname : desired.metadata.name = some name)
    (hfind : bed.store.find? (Server.keyOf k ns name) = none) :
    Program.run Testbed.network (create ns desired) bed =
      (.ok (), { bed with
        server := (bed.server.write (Server.keyOf k ns name) desired.json).2
        seen := .request (.create k ns desired.json) :: bed.seen }) := by
  have hrespond : bed.server.respond (Request.create k ns desired.json).received =
      (Server.answer 201 (bed.server.versioned desired.json),
        (bed.server.write (Server.keyOf k ns name) desired.json).2) := by
    rw [Request.received, Server.respond, Object.nameIn_json hk hname,
      show bed.server.store.find? _ = none from hfind]
    rfl
  have hread := (Object.regular_json hk desired).read_version hk desired.read?_json
    (toString (bed.server.version + 1))
  rw [create]
  exact write_answered hfaults (.create k ns desired.json) h.create (by decide) hrespond hread

theorem isOutdated_of_read (hk : k ∈ appliedKinds) {value : Json} (hvalue : value.Regular)
    {observed : Object k} (hread : Object.read? k value = some observed) (body : k.Body) :
    Server.isOutdated value { observed with body }.json = false := by
  have hversion : value.version? = observed.metadata.resourceVersion :=
    (hvalue.texts_of_read hk hread).2
  rw [Server.isOutdated, Object.at?_version_json hk]
  cases hsome : observed.metadata.resourceVersion with
  | none => rfl
  | some version =>
    rw [hsome] at hversion
    simp [Server.at?_of_version hversion]

theorem replace_calm (hfaults : bed.requestFaults = []) (h : Addressable k ns name)
    (hk : k ∈ appliedKinds) {value : Json}
    (hfind : bed.store.find? (Server.keyOf k ns name) = some value)
    (hvalue : bed.server.strict → value.Regular) {observed : Object k}
    (hread : Object.read? k value = some observed) (body : k.Body) :
    Program.run Testbed.network (replace ns name { observed with body }) bed =
      (.ok (), { bed with
        server := (bed.server.write (Server.keyOf k ns name) { observed with body }.json).2
        seen := .request (.replace k ns name { observed with body }.json) :: bed.seen }) := by
  let changed : Object k := { observed with body }
  have hroute : (Request.route name.toList).1 = name := by
    rw [Request.route_of_plain name.toList h.plain, String.ofList_toList]
  have hcurrent : (bed.server.strict && Server.isOutdated value changed.json) = false := by
    cases hstrict : bed.server.strict with
    | false => rfl
    | true => exact isOutdated_of_read hk (hvalue hstrict) hread body
  have hrespond : bed.server.respond (Request.replace k ns name changed.json).received =
      (Server.answer 200 (bed.server.versioned changed.json),
        (bed.server.write (Server.keyOf k ns name) changed.json).2) := by
    rw [Request.received, hroute, Server.respond, Server.update,
      show bed.server.store.find? _ = some value from hfind]
    dsimp only
    rw [hcurrent]
    rfl
  have hagain := (Object.regular_json hk changed).read_version hk changed.read?_json
    (toString (bed.server.version + 1))
  rw [replace, run_checked h.named]
  exact write_answered hfaults (.replace k ns name changed.json) h.replace (by decide) hrespond
    hagain

end Http.Client

/-! ## What an apply comes to -/

theorem Object.mutatedIfChanged_of_applied (hk : k ∈ appliedKinds) (desired observed : Object k) :
    observed.mutatedIfChanged desired.overwrite =
      if observed.json.get? "spec" = desired.json.get? "spec" then none
      else some { observed with body := desired.body } := by
  simp only [mutatedIfChanged_eq, overwrite_eq_iff hk]
  rw [overwrite_of_applied hk]

/-- The result of an apply, told by the object that it finds, and the object that it submits. -/
inductive Object.Applying (desired : Object k) :
    Option (Object k) → ApplyResult → Option (Object k) → Prop
  | created : Applying desired none .created (some desired)
  | unchanged {observed : Object k} (h : observed.json.get? "spec" = desired.json.get? "spec") :
    Applying desired (some observed) .unchanged none
  | updated {observed : Object k} (h : observed.json.get? "spec" ≠ desired.json.get? "spec") :
    Applying desired (some observed) .updated (some { observed with body := desired.body })

namespace Object.Applying

variable {found submitted : Option (Object k)} {result : ApplyResult}

theorem unchanged_iff (h : desired.Applying found result submitted) :
    result = .unchanged ↔ submitted = none := by
  cases h <;> simp

theorem same_iff (h : desired.Applying found result submitted) :
    submitted = none ↔
      ∃ observed, found = some observed ∧
        observed.json.get? "spec" = desired.json.get? "spec" := by
  cases h with
  | created => simp
  | unchanged hsame => simp [hsame]
  | updated hdiffers => simp [hdiffers]

theorem body (h : desired.Applying found result submitted) {o : Object k}
    (ho : submitted = some o) : o.body = desired.body := by
  cases h <;> cases ho <;> rfl

end Object.Applying

namespace Testbed

/-- What is seen of an apply, by what it finds and submits. Straight access takes it as one call. -/
def asks (bed : Testbed) (desired : Object k) (ns name : String) (submitted : Option (Object k)) :
    List Seen :=
  match bed.access with
  | .direct => [.call (.apply k desired)]
  | .server => .request (.get k ns name) ::
    match bed.store.held k desired.key, submitted with
    | _, none => []
    | none, some o => [.request (.create k ns o.json)]
    | some _, some o => [.request (.replace k ns name o.json)]

theorem asks_direct (haccess : bed.access = .direct) (submitted : Option (Object k)) :
    bed.asks desired ns name submitted = [.call (.apply k desired)] := by
  simp only [asks, haccess]

theorem asks_server_none (haccess : bed.access = .server) :
    bed.asks desired ns name none = [.request (.get k ns name)] := by
  simp only [asks, haccess]

theorem asks_create (haccess : bed.access = .server) (h : bed.store.held k desired.key = none)
    (o : Object k) :
    bed.asks desired ns name (some o) =
      [.request (.get k ns name), .request (.create k ns o.json)] := by
  simp only [asks, haccess, h]

theorem asks_replace (haccess : bed.access = .server) {observed : Object k}
    (h : bed.store.held k desired.key = some observed) (o : Object k) :
    bed.asks desired ns name (some o) =
      [.request (.get k ns name), .request (.replace k ns name o.json)] := by
  simp only [asks, haccess, h]

def after (bed : Testbed) (key : Key) : Option (Object k) → Server
  | none => bed.server
  | some o =>
    match bed.access with
    | .direct => { bed.server with store := bed.server.store.put key o.json }
    | .server => (bed.server.write key o.json).2

theorem after_direct (haccess : bed.access = .direct) (key : Key) (o : Object k) :
    bed.after key (some o) = { bed.server with store := bed.server.store.put key o.json } := by
  simp only [after, haccess]

theorem after_server (haccess : bed.access = .server) (key : Key) (o : Object k) :
    bed.after key (some o) = (bed.server.write key o.json).2 := by
  simp only [after, haccess]

/-- An object that may be applied, and no call on it fails: nothing is armed, and what is stored
under its key can be read. -/
structure Answers (bed : Testbed) (desired : Object k) (ns name : String) : Prop where
  kind : k ∈ appliedKinds
  place : desired.metadata.ns = some ns
  named : desired.metadata.name = some name
  calls : bed.callFaults = []
  requests : bed.requestFaults = []
  readable : ∀ value, bed.store.find? desired.key = some value →
    ∃ observed, Object.read? k value = some observed
  addressable : bed.access = .server → Addressable k ns name
  /-- A server that looks at versions finds each key once. -/
  regular : bed.access = .server → bed.server.strict →
    ∀ value, bed.store.find? desired.key = some value → value.Regular

theorem Answers.key_eq (h : bed.Answers desired ns name) :
    desired.key = Server.keyOf k ns name := by
  simp [Object.key, Memory.keyOf, Server.keyOf, Object.anyName, Metadata.anyName, h.place, h.named]

/-- An apply gives a result, submits an object or none, and leaves that to the server. -/
structure Applied (bed : Testbed) (desired : Object k) (ns name : String) (result : ApplyResult)
    (submitted : Option (Object k)) (after : Testbed) : Prop where
  told : desired.Applying (bed.store.held k desired.key) result submitted
  run : Program.run bed.handler (Cluster.apply desired) bed = (.ok result, after)
  left : ∃ log, after = { bed with
    server := bed.after desired.key submitted
    seen := (bed.asks desired ns name submitted).reverse ++ bed.seen
    log }

theorem run_apply_direct (haccess : bed.access = .direct) (hfaults : bed.callFaults = [])
    {result : ApplyResult} {store : Store}
    (happly : Memory.apply desired bed.store = (.ok result, store)) :
    Program.run bed.handler (Cluster.apply desired) bed = (.ok result, { bed with
      server := { bed.server with store }
      seen := .call (.apply k desired) :: bed.seen }) := by
  obtain ⟨access, server, callFaults, requestFaults, cancelled, seen, log⟩ := bed
  obtain rfl : access = .direct := haccess
  obtain rfl : callFaults = [] := hfaults
  have hact : callDirectly (.apply k desired)
      ⟨.direct, server, [], requestFaults, cancelled, seen, log⟩ =
        ((Memory.apply desired server.store).1.mapError .failed,
          ⟨.direct, { server with store := (Memory.apply desired server.store).2 }, [],
            requestFaults, cancelled, .call (.apply k desired) :: seen, log⟩) := rfl
  rw [show Memory.apply desired server.store = (.ok result, store) from happly] at hact
  exact hact

theorem applied_direct (haccess : bed.access = .direct) (h : bed.Answers desired ns name) :
    ∃ result submitted after, bed.Applied desired ns name result submitted after := by
  have hk := h.kind
  cases hfind : bed.store.find? desired.key with
  | none =>
    have hheld : bed.store.held k desired.key = none := Store.held_of_absent hfind
    have hrun := run_apply_direct haccess h.calls (Memory.apply_of_absent hfind)
    refine ⟨.created, some desired, _, ?_, hrun, bed.log, ?_⟩
    · rw [hheld]
      exact .created
    · rw [after_direct haccess, asks_direct haccess]
      rfl
  | some value =>
    obtain ⟨observed, hread⟩ := h.readable value hfind
    have hheld : bed.store.held k desired.key = some observed := Store.held_of_find hfind hread
    have happly := Memory.apply_of_held hheld
    simp only [Object.overwrite_eq_iff hk] at happly
    rw [Object.overwrite_of_applied hk] at happly
    by_cases hsame : observed.json.get? "spec" = desired.json.get? "spec"
    · rw [if_pos hsame] at happly
      refine ⟨.unchanged, none, _, ?_, run_apply_direct haccess h.calls happly, bed.log, ?_⟩
      · rw [hheld]
        exact .unchanged hsame
      · rw [asks_direct haccess]
        rfl
    · rw [if_neg hsame] at happly
      refine ⟨.updated, some { observed with body := desired.body }, _, ?_,
        run_apply_direct haccess h.calls happly, bed.log, ?_⟩
      · rw [hheld]
        exact .updated hsame
      · rw [after_direct haccess, asks_direct haccess]
        rfl

theorem applied_server (haccess : bed.access = .server) (h : bed.Answers desired ns name) :
    ∃ result submitted after, bed.Applied desired ns name result submitted after := by
  have haddressable := h.addressable haccess
  have hrun : Program.run bed.handler (Cluster.apply desired) bed =
      Program.run network (Client.apply desired) bed := by
    rw [handler, haccess]
    rfl
  simp only [Client.apply, h.place, h.named] at hrun
  have hk := h.kind
  have hkey := h.key_eq
  let read := bed.see (.request (.get k ns name))
  have hrequests : read.requestFaults = [] := h.requests
  let event (level : Level) (message : String) : Event :=
    ⟨level, message, [("kind", .string k.name), ("name", .string name)]⟩
  cases hfind : bed.store.find? desired.key with
  | none =>
    have hget := Client.get?_of_absent h.requests haddressable (hkey ▸ hfind)
    have hcreate := Client.create_calm hrequests haddressable hk h.named (hkey ▸ hfind)
    have hheld : bed.store.held k desired.key = none := Store.held_of_absent hfind
    refine ⟨.created, some desired, _, ?_, ?_, event .info "created" :: bed.log, rfl⟩
    · rw [hheld]
      exact .created
    · refine hrun.trans ((Task.run_bind_ok hget _).trans ?_)
      refine (Task.run_bind_ok hcreate _).trans ?_
      rw [hkey, after_server haccess, asks_create haccess (hkey ▸ hheld)]
      rfl
  | some value =>
    obtain ⟨observed, hread⟩ := h.readable value hfind
    have hget := Client.get?_of_held h.requests haddressable (hkey ▸ hfind) hread
    have hheld : bed.store.held k desired.key = some observed := Store.held_of_find hfind hread
    by_cases hsame : observed.json.get? "spec" = desired.json.get? "spec"
    · refine ⟨.unchanged, none, _, ?_, ?_, event .debug "already converged" :: bed.log, rfl⟩
      · rw [hheld]
        exact .unchanged hsame
      · refine hrun.trans ((Task.run_bind_ok hget _).trans ?_)
        dsimp only
        rw [Object.mutatedIfChanged_of_applied hk, if_pos hsame, asks_server_none haccess]
        rfl
    · have hreplace := Client.replace_calm hrequests haddressable hk (hkey ▸ hfind)
        (fun hstrict => h.regular haccess hstrict value hfind) hread desired.body
      refine ⟨.updated, some { observed with body := desired.body }, _, ?_, ?_,
        event .info "updated" :: bed.log, rfl⟩
      · rw [hheld]
        exact .updated hsame
      · refine hrun.trans ((Task.run_bind_ok hget _).trans ?_)
        dsimp only
        rw [Object.mutatedIfChanged_of_applied hk, if_neg hsame]
        refine (Task.run_bind_ok hreplace _).trans ?_
        rw [hkey, after_server haccess, asks_replace haccess hheld]
        rfl

theorem Answers.applied (h : bed.Answers desired ns name) :
    ∃ result submitted after, bed.Applied desired ns name result submitted after := by
  cases haccess : bed.access with
  | direct => exact applied_direct haccess h
  | server => exact applied_server haccess h

/-! ## After an apply -/

/-- An object with such metadata is gone once it is written. A server keeps none that is to go and
that no finalizer holds back. -/
def Drops (bed : Testbed) (metadata : Metadata) : Prop :=
  bed.access = .server ∧ metadata.deletionTimestamp.isSome ∧ metadata.finalizers.getD [] = []

instance (bed : Testbed) (metadata : Metadata) : Decidable (bed.Drops metadata) :=
  inferInstanceAs (Decidable (_ ∧ _ ∧ _))

def kept (bed : Testbed) (object : Json) : Json :=
  match bed.access with
  | .direct => object
  | .server => bed.server.versioned object

theorem find?_after (hk : k ∈ appliedKinds) (bed : Testbed) (key : Key) (o : Object k) :
    (bed.after key (some o)).store.find? key =
      if bed.Drops o.metadata then none else some (bed.kept o.json) := by
  cases haccess : bed.access with
  | direct =>
    rw [after_direct haccess, Store.find?_put, if_pos rfl]
    simp [Drops, kept, haccess]
  | server =>
    rw [after_server haccess, Server.find?_write, Object.isMarked_json hk,
      Object.hasFinalizers_json hk]
    simp [Drops, kept, haccess]

theorem regular_kept (hk : k ∈ appliedKinds) (bed : Testbed) (o : Object k) :
    (bed.kept o.json).Regular := by
  have hregular := Object.regular_json hk o
  rw [kept]
  split
  · exact hregular
  · exact hregular.setAt _ _

theorem read_kept (hk : k ∈ appliedKinds) (bed : Testbed) (o : Object k) :
    ∃ stored, Object.read? k (bed.kept o.json) = some stored ∧ stored.body = o.body := by
  rw [kept]
  split
  · exact ⟨o, o.read?_json, rfl⟩
  · exact ⟨_, (Object.regular_json hk o).read_version hk o.read?_json _, rfl⟩

namespace Applied

variable {result : ApplyResult} {submitted : Option (Object k)} {after : Testbed}

theorem store (h : bed.Applied desired ns name result submitted after) :
    after.store = (bed.after desired.key submitted).store := by
  obtain ⟨log, rfl⟩ := h.left
  rfl

theorem find?_none (h : bed.Applied desired ns name result none after) :
    after.store.find? desired.key = bed.store.find? desired.key := by
  rw [h.store]
  rfl

theorem find?_some {o : Object k} (h : bed.Applied desired ns name result (some o) after)
    (hk : k ∈ appliedKinds) :
    after.store.find? desired.key =
      if bed.Drops o.metadata then none else some (bed.kept o.json) := by
  rw [h.store]
  exact find?_after hk bed desired.key o

theorem find?_eq_none (h : bed.Applied desired ns name result submitted after)
    (hk : k ∈ appliedKinds) :
    after.store.find? desired.key = none ↔ ∃ o, submitted = some o ∧ bed.Drops o.metadata := by
  cases submitted with
  | none =>
    obtain ⟨observed, hheld, -⟩ := h.told.same_iff.mp rfl
    obtain ⟨value, hfind, -⟩ := Option.bind_eq_some_iff.mp hheld
    simp [h.find?_none, hfind]
  | some o => simp [h.find?_some hk]

theorem read (h : bed.Applied desired ns name result submitted after)
    (hanswers : bed.Answers desired ns name) {value : Json}
    (hfind : after.store.find? desired.key = some value) :
    ∃ stored, Object.read? k value = some stored ∧ stored.body = desired.body := by
  cases submitted with
  | none =>
    obtain ⟨observed, hheld, hsame⟩ := h.told.same_iff.mp rfl
    rw [h.find?_none] at hfind
    rw [Store.held, hfind, Option.bind_some] at hheld
    exact ⟨observed, hheld, (Object.spec_json_inj hanswers.kind).mp hsame⟩
  | some o =>
    rw [h.find?_some hanswers.kind] at hfind
    split at hfind
    · cases hfind
    · cases hfind
      rw [← h.told.body rfl]
      exact read_kept hanswers.kind bed o

theorem answers (h : bed.Applied desired ns name result submitted after)
    (hanswers : bed.Answers desired ns name) : after.Answers desired ns name where
  kind := hanswers.kind
  place := hanswers.place
  named := hanswers.named
  calls := by
    obtain ⟨log, rfl⟩ := h.left
    exact hanswers.calls
  requests := by
    obtain ⟨log, rfl⟩ := h.left
    exact hanswers.requests
  readable value hfind := by
    obtain ⟨stored, hread, -⟩ := h.read hanswers hfind
    exact ⟨stored, hread⟩
  addressable := by
    obtain ⟨log, rfl⟩ := h.left
    exact hanswers.addressable
  regular haccess hstrict value hfind := by
    cases submitted with
    | none =>
      rw [h.find?_none] at hfind
      obtain ⟨log, rfl⟩ := h.left
      exact hanswers.regular haccess hstrict value hfind
    | some o =>
      rw [h.find?_some hanswers.kind] at hfind
      split at hfind
      · cases hfind
      · cases hfind
        exact regular_kept hanswers.kind bed o

theorem again (h : bed.Applied desired ns name result submitted after)
    (hanswers : bed.Answers desired ns name) (hkept : after.store.find? desired.key ≠ none) :
    ∃ later, after.Applied desired ns name .unchanged none later := by
  obtain ⟨value, hfind⟩ := Option.ne_none_iff_exists'.mp hkept
  obtain ⟨stored, hread, hbody⟩ := h.read hanswers hfind
  have hheld : after.store.held k desired.key = some stored := Store.held_of_find hfind hread
  obtain ⟨next, written, later, hlater⟩ := (h.answers hanswers).applied
  obtain rfl : written = none :=
    hlater.told.same_iff.mpr ⟨stored, hheld, (Object.spec_json_inj hanswers.kind).mpr hbody⟩
  obtain rfl : next = .unchanged := hlater.told.unchanged_iff.mpr rfl
  exact ⟨later, hlater⟩

end Applied

theorem addressable_catalogSource :
    Http.Addressable .catalogSource "grafana" catalogSourceName where
  named := by decide
  plain := by simp [Uri.endsPath, catalogSourceName]
  get := by rfl
  create := by rfl
  replace := by rfl

end Testbed

end GrafanaInstall
