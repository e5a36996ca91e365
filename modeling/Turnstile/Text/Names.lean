/-!
# Sorted names

Sets of names are kept as increasing lists without repetition.
-/

set_option autoImplicit false

namespace Turnstile.Text

/-- Put a name into an increasing list, unless it is there. -/
def insertName (name : String) : List String → List String
  | [] => [name]
  | other :: rest =>
    if name = other then other :: rest
    else if name < other then name :: other :: rest
    else other :: insertName name rest

/-- The increasing list of the names that occur in a list. -/
def sortedNames (names : List String) : List String := names.foldr insertName []

end Turnstile.Text
