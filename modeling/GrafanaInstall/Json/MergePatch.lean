import GrafanaInstall.Json

/-!
# Merge patches

A JSON merge patch describes a change by example: an entry of the patch replaces the entry of
that key, a null removes it, and what the patch does not name stays.
-/

namespace GrafanaInstall.Json

mutual

/-- A patch that is no object replaces the whole value. -/
def mergePatch (target : Json) : Json → Json
  | .object patch => .object (mergeEntries target.entries patch)
  | patch => patch

def mergeEntries (target : List (String × Json)) : List (String × Json) → List (String × Json)
  | [] => target
  | (key, .null) :: rest => mergeEntries (Entries.erase key target) rest
  | (key, value) :: rest =>
    let merged := mergePatch ((target.lookup key).getD .null) value
    mergeEntries (Entries.insert key merged target) rest

end

end GrafanaInstall.Json
