import Turnstile.Number.Basic
import Turnstile.Text.Dictionary

/-!
# Documents

A document is a tree of nulls, booleans, numbers, strings, arrays and objects.  The
fields of an object are a list in strictly increasing key order; every operation of the
library keeps that order, so an object has one representation.

* `Value.Sorted` says that all objects of a document keep the key order.
* `Value.truthy` is the boolean reading of a document: emptiness and zero are false.
-/

set_option autoImplicit false

namespace Turnstile

/-- A document. -/
inductive Value where
  | null
  | bool (b : Bool)
  | num (n : Number)
  | str (s : String)
  | arr (items : List Value)
  | obj (fields : List (String × Value))

/-- The fields of an object, in increasing key order. -/
abbrev Fields := Dictionary Value

instance : Inhabited Value := ⟨.null⟩

namespace Value

mutual

/-- Every object of the document lists its keys in strictly increasing order. -/
def Sorted : Value → Prop
  | .arr items => SortedItems items
  | .obj fields => fields.Pairwise (fun a b => a.1 < b.1) ∧ SortedFields fields
  | _ => True

/-- `Sorted` for all items of an array. -/
def SortedItems : List Value → Prop
  | [] => True
  | v :: rest => Sorted v ∧ SortedItems rest

/-- `Sorted` for the values of all fields. -/
def SortedFields : List (String × Value) → Prop
  | [] => True
  | (_, v) :: rest => Sorted v ∧ SortedFields rest

end

/-- The object with these fields, in key order. -/
def object (fields : List (String × Value)) : Value := .obj (Dictionary.ofList fields)

/-- An integer document. -/
def int (n : Int) : Value := .num (.int n)

/-- The document of an optional string: null when there is none. -/
def ofString? : Option String → Value
  | some s => .str s
  | none => .null

/-- The text of a string. -/
def string? : Value → Option String
  | .str s => some s
  | _ => none

/-- Whether the document is an object. -/
def isObject : Value → Bool
  | .obj _ => true
  | _ => false

/-- Whether the document is null. -/
def isNull : Value → Bool
  | .null => true
  | _ => false

/-- The name of a document's kind, as messages use it. -/
def kindName : Value → String
  | .null => "null"
  | .bool _ => "boolean"
  | .num _ => "number"
  | .str _ => "string"
  | .arr _ => "array"
  | .obj _ => "object"

/-- Null, false, zero and the empty string, array and object are false; all else is
true. -/
def truthy : Value → Bool
  | .null => false
  | .bool b => b
  | .num n => !n.isZero
  | .str s => !s.isEmpty
  | .arr items => !items.isEmpty
  | .obj fields => !fields.isEmpty

end Value

end Turnstile
