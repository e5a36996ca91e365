/-!
# Dictionaries

A dictionary is a list of keys with values, in strictly increasing order of the keys.
-/

set_option autoImplicit false

namespace Turnstile

/-- Keys with values, in increasing order of the keys. -/
abbrev Dictionary (α : Type) := List (String × α)

namespace Dictionary

variable {α : Type}

/-- The value under a key. -/
def find? : Dictionary α → String → Option α
  | [], _ => none
  | (k, v) :: rest, key => if key = k then some v else find? rest key

/-- Put a value under a key, replacing what was there. -/
def insert : Dictionary α → String → α → Dictionary α
  | [], key, value => [(key, value)]
  | (k, v) :: rest, key, value =>
    if key = k then (key, value) :: rest
    else if key < k then (key, value) :: (k, v) :: rest
    else (k, v) :: insert rest key value

/-- Put several keys, one after the other. -/
def insertAll (d : Dictionary α) (entries : List (String × α)) : Dictionary α :=
  entries.foldl (fun acc entry => insert acc entry.1 entry.2) d

/-- The dictionary with these entries; of two with one key the later wins. -/
def ofList (entries : List (String × α)) : Dictionary α := insertAll [] entries

/-- The keys, in increasing order. -/
def keys (d : Dictionary α) : List String := d.map Prod.fst

end Dictionary

end Turnstile
