import GrafanaInstall.Codec
import GrafanaInstall.Error
import GrafanaInstall.Json.Value

/-!
# Answers that are no objects

The phrase that goes with a status code, the status objects by which the server tells that
something failed or is done, and lists of objects.
-/

namespace GrafanaInstall.Http

/-! ## Status codes -/

def phrases : List (Nat × String) :=
  [(400, "Bad Request"), (401, "Unauthorized"), (402, "Payment Required"), (403, "Forbidden"),
    (404, "Not Found"), (405, "Method Not Allowed"), (406, "Not Acceptable"),
    (407, "Proxy Authentication Required"), (408, "Request Timeout"), (409, "Conflict"),
    (410, "Gone"), (411, "Length Required"), (412, "Precondition Failed"),
    (413, "Payload Too Large"), (414, "URI Too Long"), (415, "Unsupported Media Type"),
    (416, "Range Not Satisfiable"), (417, "Expectation Failed"), (418, "I'm a teapot"),
    (421, "Misdirected Request"), (422, "Unprocessable Entity"), (423, "Locked"),
    (424, "Failed Dependency"), (425, "Too Early"), (426, "Upgrade Required"),
    (428, "Precondition Required"), (429, "Too Many Requests"),
    (431, "Request Header Fields Too Large"), (451, "Unavailable For Legal Reasons"),
    (500, "Internal Server Error"), (501, "Not Implemented"), (502, "Bad Gateway"),
    (503, "Service Unavailable"), (504, "Gateway Timeout"), (505, "HTTP Version Not Supported"),
    (506, "Variant Also Negotiates"), (507, "Insufficient Storage"), (508, "Loop Detected"),
    (510, "Not Extended"), (511, "Network Authentication Required")]

def statusLine (code : Nat) : String :=
  toString code ++ " " ++ (phrases.lookup code).getD "<unknown status code>"

/-! ## Status objects -/

def refusalFields : Fields Refusal :=
  (.cons (.required "status" .string) <|
   .cons (.defaulted "message" .string "") <|
   .cons (.defaulted "reason" .string "") <|
   .cons (.required "code" .uint16) .none : Fields _).as
    (fun (status, message, reason, code, ()) => { status, message, reason, code })
    (fun r => (r.status, r.message, r.reason, r.code, ()))

/-- What goes wrong in one field of an object. -/
def causeFields : Fields (String × String × String × Unit) :=
  .cons (.defaulted "reason" .string "") <|
  .cons (.defaulted "message" .string "") <|
  .cons (.defaulted "field" .string "") .none

def detailFields :
    Fields (String × String × String × String × List (String × String × String × Unit) × UInt32 ×
      Unit) :=
  .cons (.defaulted "name" .string "") <|
  .cons (.defaulted "group" .string "") <|
  .cons (.defaulted "kind" .string "") <|
  .cons (.defaulted "uid" .string "") <|
  .cons (.defaulted "causes" (.list causeFields.record) []) <|
  .cons (.defaulted "retryAfterSeconds" .uint32 0) .none

/-- Whether an answer is a status object such as answers a delete. -/
def isStatus (answer : Json) : Bool :=
  let fields :=
    Fields.cons (.optional "status" (.word [("Success", true), ("Failure", false)]
      fun done => if done then "Success" else "Failure")) <|
    .cons (.defaulted "code" .uint16 0) <|
    .cons (.defaulted "message" .string "") <|
    .cons (.defaulted "reason" .string "") <|
    .cons (.optional "details" detailFields.record) .none
  (fields.record.read answer).isSome

/-! ## Lists -/

/-- What a list carries beside its items. -/
def listMetadataFields :
    Fields (Option String × Option Int64 × Option String × Option String × Unit) :=
  .cons (.optional "continue" .string) <|
  .cons (.optional "remainingItemCount" .int64) <|
  .cons (.optional "resourceVersion" .string) <|
  .cons (.optional "selfLink" .string) .none

/-- Null stands for no items. -/
def listFields (item : Codec α) : Fields
    (List α × (Option String × Option Int64 × Option String × Option String × Unit) × Unit) :=
  .cons { Field.nullable "items" item.list [] with absent := none } <|
  .cons (.defaulted "metadata" listMetadataFields.mapping (none, none, none, none, ())) .none

/-- The items of a list. Whatever else it holds must have a value. -/
def readList (item : Codec α) : Json → Option (List α)
  | .object entries =>
    let others := entries.filter fun (key, _) => key ≠ "items" && key ≠ "metadata"
    if others.all fun (_, value) => (value.valueWithin? (Json.deepest - 1)).isSome then
      ((listFields item).readEntries .refused entries).map Prod.fst
    else none
  | _ => none

end GrafanaInstall.Http
