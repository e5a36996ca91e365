import Turnstile.Value.Basic

/-!
# Merging documents

A patch is merged into a base key by key as long as both are objects.  Anything else in
the patch replaces what the base had, also `null`: a key of a patch is never absent from
the merge.
-/

set_option autoImplicit false

namespace Turnstile.Value

mutual

/-- Merge a patch (second argument) into a base. -/
def merge : Value → Value → Value
  | .obj base, .obj patch => .obj (mergeFields base patch)
  | _, patch => patch

/-- Merge the fields of a patch, one after the other, into those of a base. -/
def mergeFields (base : Fields) : List (String × Value) → Fields
  | [] => base
  | (key, value) :: rest =>
    let next :=
      match Dictionary.find? base key with
      | some existing => merge existing value
      | none => value
    mergeFields (Dictionary.insert base key next) rest

end

end Turnstile.Value
