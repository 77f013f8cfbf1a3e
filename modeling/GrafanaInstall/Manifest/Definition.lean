import GrafanaInstall.Manifest.Schema
import GrafanaInstall.Resource.Spec

/-!
# The definition of the observability kind

The manifest that makes the kind known to a cluster, with the schema of its objects.
-/

namespace GrafanaInstall.Manifest

def link (scheme place : String) : String := scheme ++ "://" ++ place

/-! ## Schemas -/

/-- What the cluster's own documents say of a quantity. -/
def quantityText : String :=
  "Quantity is a fixed-point representation of a number. It provides convenient " ++
    "marshaling/unmarshaling in JSON and YAML, in addition to String() and AsInt64() " ++
    "accessors.\n\n" ++
    "The serialization format is:\n\n" ++
    "``` <quantity>        ::= <signedNumber><suffix>\n\n\t(Note that <suffix> may be empty, " ++
    "from the \"\" case in <decimalSI>.)\n\n" ++
    "<digit>           ::= 0 | 1 | ... | 9 <digits>          ::= <digit> | <digit><digits> " ++
    "<number>          ::= <digits> | <digits>.<digits> | <digits>. | .<digits> " ++
    "<sign>            ::= \"+\" | \"-\" <signedNumber>    ::= <number> | <sign><number> " ++
    "<suffix>          ::= <binarySI> | <decimalExponent> | <decimalSI> <binarySI>        " ++
    "::= Ki | Mi | Gi | Ti | Pi | Ei\n\n\t(International System of units; See: " ++
    link "http" "physics.nist.gov/cuu/Units/binary.html" ++
    ")\n\n" ++
    "<decimalSI>       ::= m | \"\" | k | M | G | T | P | E\n\n\t(Note that 1024 = 1Ki but " ++
    "1000 = 1k; I didn't choose the capitalization.)\n\n" ++
    "<decimalExponent> ::= \"e\" <signedNumber> | \"E\" <signedNumber> ```\n\n" ++
    "No matter which of the three exponent forms is used, no quantity may represent a number " ++
    "greater than 2^63-1 in magnitude, nor may it have more than 3 decimal places. Numbers " ++
    "larger or more precise will be capped or rounded up. (E.g.: 0.1m will rounded up to " ++
    "1m.) This may be extended in the future if we require larger or smaller quantities.\n\n" ++
    "When a Quantity is parsed from a string, it will remember the type of suffix it had, " ++
    "and will use the same type again when it is serialized.\n\n" ++
    "Before serializing, Quantity will be put in \"canonical form\". This means that " ++
    "Exponent/suffix will be adjusted up or down (with a corresponding increase or decrease " ++
    "in Mantissa) such that:\n\n" ++
    "- No precision is lost - No fractional digits will be emitted - The exponent (or " ++
    "suffix) is as large as possible.\n\n" ++
    "The sign will be omitted unless the number is negative.\n\n" ++
    "Examples:\n\n" ++
    "- 1.5 will be serialized as \"1500m\" - 1.5Gi will be serialized as \"1536Mi\"\n\n" ++
    "Note that the quantity will NEVER be internally represented by a floating point number. " ++
    "That is the whole point of this exercise.\n\n" ++
    "Non-canonical values will still parse as long as they are well formed, but will be " ++
    "re-emitted in their canonical form. (So always use canonical form, or don't diff.)\n\n" ++
    "This format is intended to make it difficult to use these numbers without writing some " ++
    "sort of special handling code in the hopes that that will cause implementors to also " ++
    "use a fixed point implementation."

def quantity : Schema :=
  .string { description := quantityText } []

def resourcesLink : String :=
  link "https" "kubernetes.io/docs/concepts/configuration/manage-resources-containers/"

def limits : Schema :=
  .map
    { description :=
        "Limits describes the maximum amount of compute resources allowed. More info: " ++
          resourcesLink }
    quantity

def requests : Schema :=
  .map
    { description :=
        "Requests describes the minimum amount of compute resources required. If Requests is " ++
          "omitted for a container, it defaults to Limits if that is explicitly specified, " ++
          "otherwise to an implementation-defined value. Requests cannot exceed Limits. More " ++
          "info: " ++ resourcesLink }
    quantity

def claim : Schema :=
  .object { description := "ResourceClaim references one entry in PodSpec.ResourceClaims." }
    [("name", .string
        { description :=
            "Name must match the name of one entry in pod.spec.resourceClaims of the Pod where " ++
              "this field is used. It makes that resource available inside a container." } []),
      ("request", .string
        { description :=
            "Request is the name chosen for a request in the referenced claim. If empty, " ++
              "everything from the claim is made available, otherwise only the result of this " ++
              "request." } [])]
    ["name"]

def claims : Schema :=
  .array
    { description :=
        "Claims lists the names of resources, defined in spec.resourceClaims, that are used by " ++
          "this container.\n\nThis is an alpha field and requires enabling the " ++
          "DynamicResourceAllocation feature gate.\n\nThis field is immutable. It can only be " ++
          "set for containers." }
    claim

def spec : Schema :=
  .object { description := "Specification for an Observability tenant" }
    [("grafanaOperatorResources", .object
        { description := "Resource requests/limits for the grafana operator pod"
          nullable := true }
        [("claims", claims), ("limits", limits), ("requests", requests)] []),
      ("grafanaOperatorVersion", .string
        { description :=
            "Grafana operator version to install (e.g. \"v4.2.0\"). Falls back to the " ++
              "operator's configured default."
          nullable := true } [])]
    []

def status : Schema :=
  .object { description := "Status of an Observability resource", nullable := true }
    [("message", .string
        { description := "Error text when the stage failed", nullable := true } []),
      ("stage", .string
        { description := "Name of the last stage that ran", nullable := true } []),
      ("stageStatus", .string
        { description := "Outcome of that stage"
          default := some (StageStatus.codec.write .inProgress) }
        ([StageStatus.success, .inProgress, .failed].map StageStatus.text))]
    []

def observability : Schema :=
  .object
    { title := "Observability"
      description :=
        "Auto-generated derived type for ObservabilitySpec via \x60CustomResource\x60" }
    [("spec", spec), ("status", status)] ["spec"]

/-! ## The manifest -/

def column (name path type : String) : Json :=
  .object [("jsonPath", .string path), ("name", .string name), ("type", .string type)]

def version : Json :=
  .object
    [("additionalPrinterColumns", .array
        [column "Stage" ".status.stage" "string", column "Status" ".status.stageStatus" "string",
          column "Age" ".metadata.creationTimestamp" "date"]),
      ("name", .string "v1"),
      ("schema", .object [("openAPIV3Schema", observability.json)]),
      ("served", .bool true),
      ("storage", .bool true),
      ("subresources", .object [("status", .object [])])]

def names : Json :=
  .object
    [("categories", .array []), ("kind", .string "Observability"),
      ("plural", .string "observabilities"), ("shortNames", .array []),
      ("singular", .string "observability")]

def definition : Json :=
  .object
    [("apiVersion", .string "apiextensions.k8s.io/v1"),
      ("kind", .string "CustomResourceDefinition"),
      ("metadata", .object [("name", .string "observabilities.observability.redhat.com")]),
      ("spec", .object
        [("group", .string "observability.redhat.com"), ("names", names),
          ("scope", .string "Namespaced"), ("versions", .array [version])])]

end GrafanaInstall.Manifest
