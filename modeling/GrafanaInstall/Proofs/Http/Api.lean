import GrafanaInstall.Proofs.Http.StatusPatch
import GrafanaInstall.Proofs.Resource.Versioned

/-!
# API servers

What the client relies on in an API server, whoever made it: versions that no write gives out again,
and refusals of what is not based on the present version. The server of the testbeds keeps to it.
-/

namespace GrafanaInstall.Http

/-- The client takes such an answer for a failure. -/
def Response.Refused (response : Response) : Prop :=
  400 ≤ response.status ∧ response.status < 600

instance (response : Response) : Decidable response.Refused :=
  inferInstanceAs (Decidable (_ ∧ _))

structure Api where
  State : Type
  respond : State → Request → Response × State
  stored : State → Key → Option Json
  /-- The versions that were given out so far, those of objects that are gone among them. -/
  Issued : State → String → Prop

structure Api.Lawful (api : Api) : Prop where
  regular {s : api.State} {key : Key} {object : Json} (h : api.stored s key = some object) :
    object.Regular
  versioned {s : api.State} {key : Key} {object : Json} (h : api.stored s key = some object) :
    ∃ v, object.version? = some v ∧ api.Issued s v
  remembered {s : api.State} {v : String} (request : Request) (h : api.Issued s v) :
    api.Issued (api.respond s request).2 v
  /-- What a request changes gets a version that there never was. -/
  renewed {s : api.State} {key : Key} {object : Json} (request : Request)
    (h : api.stored (api.respond s request).2 key = some object) :
    api.stored s key = some object ∨ ∃ v, object.version? = some v ∧ ¬api.Issued s v
  get_state (s : api.State) (k : Kind) (ns name : String) :
    (api.respond s (.get k ns name)).2 = s
  /-- What is read is what is stored. -/
  get_reads {s : api.State} {k : Kind} {ns name : String}
    (h : ¬(api.respond s (.get k ns name)).1.Refused) :
    (api.respond s (.get k ns name)).1.body.json?.bind (Object.read? k) =
      (api.stored s (Server.keyOf k ns name)).bind (Object.read? k)
  /-- A name can be taken once. -/
  taken {s : api.State} {k : Kind} {ns : String} {object : Json}
    (h : (api.stored s (Server.keyOf k ns (Key.nameIn object))).isSome) :
    (api.respond s (.create k ns object)).1.Refused
  /-- A replacement that names a version has to find it in place. -/
  outdated {s : api.State} {k : Kind} {ns name v : String} {object : Json}
    (hversion : object.version? = some v)
    (h : (api.stored s (Server.keyOf k ns name)).bind Json.version? ≠ some v) :
    (api.respond s (.replace k ns name object)).1.Refused
  conflict {s : api.State} {request : Request}
    (h : (api.respond s request).1.status = 409) : (api.respond s request).2 = s

/-! ## Versions -/

namespace Api

variable {api : Api}

def after (api : Api) (requests : List Request) (s : api.State) : api.State :=
  requests.foldl (fun s request => (api.respond s request).2) s

theorem Lawful.renewed_after (h : api.Lawful) (requests : List Request) {s : api.State} {key : Key}
    {object : Json} (hstored : api.stored (api.after requests s) key = some object) :
    api.stored s key = some object ∨ ∃ v, object.version? = some v ∧ ¬api.Issued s v := by
  induction requests generalizing s with
  | nil => exact .inl hstored
  | cons request rest ih =>
    rcases ih hstored with hbefore | ⟨v, hversion, hfresh⟩
    · exact h.renewed request hbefore
    · exact .inr ⟨v, hversion, fun hissued => hfresh (h.remembered request hissued)⟩

/-- An object that has the version of an earlier one is that one: nobody has written it since. -/
theorem Lawful.eq_of_version (h : api.Lawful) (requests : List Request) {s : api.State} {key : Key}
    {object other : Json} (hobject : api.stored s key = some object)
    (hother : api.stored (api.after requests s) key = some other)
    (hversion : other.version? = object.version?) : other = object := by
  obtain ⟨v, hv, hissued⟩ := h.versioned hobject
  rcases h.renewed_after requests hother with hsame | ⟨w, hw, hfresh⟩
  · exact Option.some.inj (hsame.symm.trans hobject)
  · have hvw : w = v := Option.some.inj (hw.symm.trans (hversion.trans hv))
    exact absurd (hvw ▸ hissued) hfresh

end Api

end GrafanaInstall.Http

namespace GrafanaInstall

/-! ## Bodies -/

theorem Json.Sorted.mergePatch {value : Json} (h : value.Sorted) (patch : Json) :
    (value.mergePatch patch).Sorted := by
  cases patch with
  | null | bool | int | decimal | string | array | unreadable => exact ⟨.nil, .nil⟩
  | object patch =>
    suffices ∀ target : List (String × Json), (Json.object target).Sorted →
        (Json.object (mergeEntries target patch)).Sorted by
      rw [Json.mergePatch]
      exact this value.entries ⟨h.ordered, h.metadata⟩
    induction patch with
    | nil =>
      intro target htarget
      rwa [mergeEntries]
    | cons entry rest ih =>
      obtain ⟨key, change⟩ := entry
      intro target htarget
      have hlookup : (Json.object (mergeEntry target key change)).get? "metadata" =
          if "metadata" = key then patched (target.lookup key) (some change)
          else target.lookup "metadata" := lookup_mergeEntry ..
      rw [mergeEntries_cons]
      refine ih _ ⟨ordered_mergeEntry key change htarget.ordered, ?_⟩
      rw [hlookup]
      split
      · rename_i hkey
        exact ordered_patched change (hkey ▸ htarget.metadata)
      · exact htarget.metadata

def Http.Request.Proper : Request → Prop
  | .create _ _ object | .replace _ _ _ object => object.Sorted
  | _ => True

instance : (request : Http.Request) → Decidable request.Proper
  | .create _ _ object | .replace _ _ _ object => inferInstanceAs (Decidable object.Sorted)
  | .list .. | .get .. | .patch .. | .patchStatus .. | .delete .. =>
    inferInstanceAs (Decidable True)

namespace Http.Server

variable {server : Server}

/-! ## The server of the testbeds -/

/-- What a request may make of a server. -/
inductive Step (server : Server) : Server → Prop
  | same : Step server server
  | removed (key : Key) : Step server { server with store := server.store.erase key }
  | written (key : Key) {object : Json} (h : (server.versioned object).Regular) :
    Step server (server.write key object).2

/-- A server that refuses outdated writes, and whose objects have versions of its own. -/
structure Orderly (server : Server) : Prop where
  strict : server.strict = true
  regular {key : Key} {object : Json} (h : server.store.find? key = some object) : object.Regular
  numbered {key : Key} {object : Json} (h : server.store.find? key = some object) :
    ∃ n ≤ server.version, object.version? = some (toString n)

theorem versioned_regular {object : Json} (h : object.Sorted) :
    (server.versioned object).Regular := h.setAt _ _

theorem version?_versioned (server : Server) (object : Json) :
    (server.versioned object).version? = some (toString (server.version + 1)) := by
  rw [Json.version?, versioned, versionPath, Json.at?_setAt, if_pos rfl]
  rfl

theorem Orderly.step_update (h : server.Orderly) (k : Kind) (ns name : String) (request : Json)
    {f : Json → Json} (hf : ∀ object, object.Regular → (f object).Sorted) :
    server.Step (server.update k ns name request f).2 := by
  rw [update]
  split
  · exact .same
  · rename_i stored hfind
    split
    · exact .same
    · exact .written _ (versioned_regular (hf stored (h.regular hfind)))

theorem Orderly.step (h : server.Orderly) {request : Request} (hrequest : request.Proper) :
    server.Step (server.respond request).2 := by
  cases request with
  | list k ns => exact .same
  | get k ns name =>
    rw [respond]
    split <;> exact .same
  | create k ns object =>
    rw [respond]
    dsimp only
    split
    · exact .same
    · exact .written _ (versioned_regular hrequest)
  | replace k ns name object => exact h.step_update k ns name object fun _ _ => hrequest
  | patch k ns name change =>
    exact h.step_update k ns name change fun _ hstored => hstored.sorted.mergePatch change
  | patchStatus k ns name change =>
    refine h.step_update k ns name change fun stored hstored => ?_
    rw [mergeStatus]
    split
    · exact (hstored.set _ (by decide)).sorted
    · exact hstored.sorted
  | delete k ns name =>
    rw [respond]
    split
    · exact .same
    · rename_i object hfind
      split
      · exact .written _ (versioned_regular ((h.regular hfind).setAt _ _).sorted)
      · exact .removed _

theorem find?_write_of_ne {key other : Key} (object : Json) (server : Server) (h : other ≠ key) :
    (server.write key object).2.store.find? other = server.store.find? other := by
  rw [write]
  dsimp only
  split
  · rw [Store.find?_erase, if_neg h]
  · rw [Store.find?_put, if_neg h]

namespace Step

variable {after : Server}

theorem version_le (h : server.Step after) : server.version ≤ after.version := by
  cases h with
  | same | removed => exact Nat.le_refl _
  | written => exact Nat.le_succ _

theorem strict_eq (h : server.Step after) : after.strict = server.strict := by
  cases h <;> rfl

theorem found (h : server.Step after) {key : Key} {object : Json}
    (hfind : after.store.find? key = some object) :
    server.store.find? key = some object ∨
      object.Regular ∧ object.version? = some (toString (server.version + 1)) ∧
        server.version < after.version := by
  cases h with
  | same => exact .inl hfind
  | removed other =>
    rw [Store.find?_erase] at hfind
    split at hfind
    · cases hfind
    · exact .inl hfind
  | written other hregular =>
    by_cases hkey : key = other
    · rw [hkey, find?_write] at hfind
      split at hfind
      · cases hfind
      · cases hfind
        exact .inr ⟨hregular, version?_versioned server _, Nat.lt_succ_self _⟩
    · rw [find?_write_of_ne _ _ hkey] at hfind
      exact .inl hfind

theorem orderly (h : server.Step after) (hserver : server.Orderly) : after.Orderly where
  strict := h.strict_eq.trans hserver.strict
  regular hfind := by
    rcases h.found hfind with hbefore | ⟨hregular, -⟩
    · exact hserver.regular hbefore
    · exact hregular
  numbered hfind := by
    rcases h.found hfind with hbefore | ⟨-, hversion, hlt⟩
    · obtain ⟨n, hn, hversion⟩ := hserver.numbered hbefore
      exact ⟨n, Nat.le_trans hn h.version_le, hversion⟩
    · exact ⟨server.version + 1, hlt, hversion⟩

end Step

theorem Orderly.empty : Orderly { strict := true } where
  strict := rfl
  regular hfind := nomatch hfind
  numbered hfind := nomatch hfind

def api : Api where
  State := { server : Server // server.Orderly }
  respond s request :=
    if h : request.Proper then
      ((s.val.respond request).1,
        ⟨(s.val.respond request).2, (s.property.step h).orderly s.property⟩)
    else (failure 400 "BadRequest" "a key comes twice", s)
  stored s key := s.val.store.find? key
  Issued s v := ∃ n ≤ s.val.version, v = toString n

def fresh : api.State := ⟨{ strict := true }, .empty⟩

theorem api_respond (s : api.State) (request : Request) :
    request.Proper ∧ (api.respond s request).1 = (s.val.respond request).1 ∧
        (api.respond s request).2.val = (s.val.respond request).2 ∨
      (api.respond s request).1.status = 400 ∧ (api.respond s request).2 = s := by
  by_cases h : request.Proper
  · refine .inl ⟨h, ?_⟩
    simp [api, h]
  · refine .inr ?_
    simp only [api, h, dite_false]
    exact ⟨rfl, rfl⟩

theorem api_step (s : api.State) (request : Request) :
    s.val.Step (api.respond s request).2.val := by
  rcases api_respond s request with ⟨hproper, -, hstate⟩ | ⟨-, hstate⟩
  · rw [hstate]
    exact s.property.step hproper
  · rw [hstate]
    exact .same

theorem api_refused {s : api.State} {request : Request}
    (h : (s.val.respond request).1.Refused) : (api.respond s request).1.Refused := by
  rcases api_respond s request with ⟨-, hanswer, -⟩ | ⟨hstatus, -⟩
  · rwa [hanswer]
  · simp [Response.Refused, hstatus]

theorem conflict_update {k : Kind} {ns name : String} {request : Json} {f : Json → Json}
    (h : (server.update k ns name request f).1.status = 409) :
    (server.update k ns name request f).2 = server := by
  rw [update] at h ⊢
  split
  · rfl
  · rename_i stored hfind
    rw [hfind] at h
    dsimp only at h
    split
    · rfl
    · rename_i hcurrent
      rw [if_neg hcurrent] at h
      cases h

theorem conflict_respond {request : Request} (h : (server.respond request).1.status = 409) :
    (server.respond request).2 = server := by
  cases request with
  | list k ns => rfl
  | get k ns name =>
    rw [respond]
    split <;> rfl
  | create k ns object =>
    rw [respond] at h ⊢
    dsimp only at h ⊢
    split
    · rfl
    · rename_i hfind
      rw [hfind] at h
      cases h
  | replace k ns name object => exact conflict_update h
  | patch k ns name change => exact conflict_update h
  | patchStatus k ns name change => exact conflict_update h
  | delete k ns name =>
    rw [respond] at h ⊢
    split
    · rfl
    · rename_i object hfind
      rw [hfind] at h
      dsimp only at h
      split at h <;> cases h

theorem refused_failure {code : Nat} (h : 400 ≤ code ∧ code < 600) (reason message : String) :
    (failure code reason message).Refused := h

theorem refused_create {k : Kind} {ns : String} {object : Json}
    (h : (server.store.find? (keyOf k ns (Key.nameIn object))).isSome) :
    (server.respond (.create k ns object)).1.Refused := by
  obtain ⟨stored, hfind⟩ := Option.isSome_iff_exists.mp h
  rw [respond, hfind]
  exact refused_failure (by decide) "AlreadyExists" _

theorem at?_of_version {value : Json} {v : String} (h : value.version? = some v) :
    value.at? versionPath = some (.string v) := by
  obtain ⟨entry, hat, htext⟩ := Option.bind_eq_some_iff.mp h
  cases entry with
  | string text =>
    cases htext
    exact hat
  | null | bool | int | decimal | array | object | unreadable => cases htext

theorem isOutdated_of_version {stored written : Json} {v : String}
    (hversion : written.version? = some v) (h : stored.version? ≠ some v) :
    isOutdated stored written = true := by
  have hother : stored.at? versionPath ≠ some (.string v) := by
    intro hat
    rw [Json.version?, hat] at h
    exact h rfl
  rw [isOutdated, at?_of_version hversion]
  exact decide_eq_true hother.symm

theorem refused_replace (hserver : server.Orderly) {k : Kind} {ns name v : String} {object : Json}
    (hversion : object.version? = some v)
    (h : (server.store.find? (keyOf k ns name)).bind Json.version? ≠ some v) :
    (server.respond (.replace k ns name object)).1.Refused := by
  rw [respond, update]
  cases hfind : server.store.find? (keyOf k ns name) with
  | none => exact refused_failure (by decide) "NotFound" _
  | some stored =>
    rw [hfind, Option.bind_some] at h
    simp only [hserver.strict, isOutdated_of_version hversion h, Bool.and_self, if_true]
    exact refused_failure (by decide) "Conflict" _

theorem toString_inj {m n : Nat} (h : toString m = toString n) : m = n := by
  have hdigits : Nat.toDigits 10 m = Nat.toDigits 10 n := by
    rw [Nat.toString_eq_ofList_toDigits, Nat.toString_eq_ofList_toDigits] at h
    exact String.ofList_injective h
  rw [← Nat.ofDigitChars_ten_toDigits (n := m), hdigits, Nat.ofDigitChars_ten_toDigits]

theorem api_lawful : api.Lawful where
  regular {s key object} h := s.property.regular h
  versioned {s key object} h := by
    obtain ⟨n, hn, hversion⟩ := s.property.numbered h
    exact ⟨toString n, hversion, n, hn, rfl⟩
  remembered {s v} request h := by
    obtain ⟨n, hn, rfl⟩ := h
    exact ⟨n, Nat.le_trans hn (api_step s request).version_le, rfl⟩
  renewed {s key object} request h := by
    rcases (api_step s request).found h with hbefore | ⟨-, hversion, -⟩
    · exact .inl hbefore
    · refine .inr ⟨_, hversion, ?_⟩
      rintro ⟨n, hn, hsame⟩
      have hnext : s.val.version + 1 = n := toString_inj hsame
      omega
  get_state s k ns name := by
    rcases api_respond s (.get k ns name) with ⟨-, -, hstate⟩ | ⟨-, hstate⟩
    · refine Subtype.ext (hstate.trans ?_)
      rw [respond]
      split <;> rfl
    · exact hstate
  get_reads {s k ns name} h := by
    rcases api_respond s (.get k ns name) with ⟨-, hanswer, -⟩ | ⟨hstatus, -⟩
    · rw [hanswer] at h ⊢
      show _ = (s.val.store.find? (keyOf k ns name)).bind (Object.read? k)
      rw [respond] at h ⊢
      cases hfind : s.val.store.find? (keyOf k ns name) with
      | none =>
        rw [hfind] at h
        exact absurd (refused_failure (by decide) "NotFound" _) h
      | some object => rfl
    · exact absurd (by simp [Response.Refused, hstatus]) h
  taken {s k ns object} h := api_refused (refused_create h)
  outdated {s k ns name v object} hversion h := api_refused (refused_replace s.property hversion h)
  conflict {s request} h := by
    rcases api_respond s request with ⟨-, hanswer, hstate⟩ | ⟨hstatus, hstate⟩
    · rw [hanswer] at h
      exact Subtype.ext (hstate.trans (conflict_respond h))
    · exact hstate

end Http.Server

end GrafanaInstall
