import GrafanaInstall.Codec

/-!
# Resource requirements

What a container asks of its node. Quantities are kept as text.
-/

namespace GrafanaInstall

structure ResourceClaim where
  name : String
  request : Option String
  deriving DecidableEq

def ResourceClaim.fields : Fields ResourceClaim :=
  (.cons (.nullable "name" .string "") <|
   .cons (.optional "request" .string) .none : Fields _).as
    (fun (name, request, ()) => { name, request })
    (fun c => (c.name, c.request, ()))

structure ResourceRequirements where
  claims : Option (List ResourceClaim) := none
  limits : Option (Dictionary String) := none
  requests : Option (Dictionary String) := none
  deriving DecidableEq

namespace ResourceRequirements

def fields : Fields ResourceRequirements :=
  (.cons (.optional "claims" (.list ResourceClaim.fields.mapping)) <|
   .cons (.optional "limits" (.map .string)) <|
   .cons (.optional "requests" (.map .string)) .none : Fields _).as
    (fun (claims, limits, requests, ()) => { claims, limits, requests })
    (fun r => (r.claims, r.limits, r.requests, ()))

def codec : Codec ResourceRequirements := fields.mapping

end ResourceRequirements

end GrafanaInstall
