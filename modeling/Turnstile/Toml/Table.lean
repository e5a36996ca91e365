import Turnstile.Value.Basic

/-!
# Tables under construction

A TOML text builds its tables piece by piece, and may name a table only in the ways in
which it was begun.  A table is `passed` when a header only leads through it, `dotted`
when dotted keys made it, and `defined` when a header named it.

* `putKey` puts a value under a dotted key.  Defined tables are closed to dotted keys.
* `openTable` and `openArray` are headers.  A passed table can still be defined, once.
* `within` works on the table that a header has opened.
-/

set_option autoImplicit false

namespace Turnstile.Toml

/-- How a table came to be. -/
inductive Origin where
  | passed
  | dotted
  | defined
deriving DecidableEq, Repr

/-- What stands under a key. -/
inductive Item where
  | value (v : Value)
  | table (origin : Origin) (items : List (String × Item))
  /-- The tables of an array that headers fill, the last one open. -/
  | tables (all : List (List (String × Item)))

/-- Keys with what stands under them, in the order in which they were named. -/
abbrev Table := List (String × Item)

namespace Table

/-- What stands under a key. -/
def item? (t : Table) (key : String) : Option Item :=
  (List.find? (fun entry => entry.1 = key) t).map Prod.snd

/-- Put an item under a key. -/
def set (t : Table) (key : String) (item : Item) : Table :=
  match t with
  | [] => [(key, item)]
  | entry :: rest =>
    if entry.1 = key then (key, item) :: rest else entry :: set rest key item

/-- Change the last table of an array. -/
def changeLast (change : Table → Option Table) (all : List Table) :
    Option (List Table) := do
  let last ← all.getLast?
  let changed ← change last
  pure (all.dropLast ++ [changed])

/-- Put a value under a dotted key, which has `path` before its last part.  A table
holds the value only if `accepts`; no key is put twice. -/
def putKey (key : String) (v : Value) (accepts : Bool) :
    List String → Table → Option Table
  | [], t => if accepts && (t.item? key).isNone then some (t.set key (.value v)) else none
  | part :: path, t =>
    match t.item? part with
    | none =>
        (putKey key v true path []).map fun inner => t.set part (.table .dotted inner)
    | some (.value _) => none
    | some (.table .defined _) => none
    | some (.table .passed inner) =>
      (putKey key v false path inner).map fun inner => t.set part (.table .passed inner)
    | some (.table .dotted inner) =>
      (putKey key v true path inner).map fun inner => t.set part (.table .dotted inner)
    | some (.tables all) =>
      (changeLast (putKey key v false path) all).map fun all => t.set part (.tables all)

/-- Lead a header through a part of its path. -/
def passThrough (go : Table → Option Table) (part : String) (t : Table) : Option Table :=
  match t.item? part with
  | none => (go []).map fun inner => t.set part (.table .passed inner)
  | some (.value _) => none
  | some (.table origin inner) =>
      (go inner).map fun inner => t.set part (.table origin inner)
  | some (.tables all) => (changeLast go all).map fun all => t.set part (.tables all)

/-- Open a table by its header. -/
def openTable : List String → Table → Option Table
  | [], _ => none
  | [key], t =>
    match t.item? key with
    | none => some (t.set key (.table .defined []))
    | some (.table .passed inner) => some (t.set key (.table .defined inner))
    | some _ => none
  | part :: path, t => passThrough (openTable path) part t

/-- Open the next table of an array by its header. -/
def openArray : List String → Table → Option Table
  | [], _ => none
  | [key], t =>
    match t.item? key with
    | none => some (t.set key (.tables [[]]))
    | some (.tables all) => some (t.set key (.tables (all ++ [[]])))
    | some _ => none
  | part :: path, t => passThrough (openArray path) part t

/-- Work on the table at the path of the last header. -/
def within (work : Table → Option Table) : List String → Table → Option Table
  | [], t => work t
  | part :: path, t => passThrough (within work path) part t

end Table

mutual

/-- The document of what stands under a key. -/
def Item.toValue : Item → Value
  | .value v => v
  | .table _ items => .obj (itemsToFields items)
  | .tables all => .arr (tablesToValues all)

/-- The fields of a table. -/
def itemsToFields : List (String × Item) → Fields
  | [] => []
  | (key, item) :: rest => Dictionary.insert (itemsToFields rest) key item.toValue

/-- The documents of several tables. -/
def tablesToValues : List (List (String × Item)) → List Value
  | [] => []
  | items :: rest => .obj (itemsToFields items) :: tablesToValues rest

end

end Turnstile.Toml
