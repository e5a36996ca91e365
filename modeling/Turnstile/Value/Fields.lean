import Turnstile.Value.Path

/-!
# Reading the fields of objects

Missing fields read as null.  Readers with a default answer it when the field holds
something of another kind.
-/

set_option autoImplicit false

namespace Turnstile.Value

/-- What a field holds. -/
def field (v : Value) (name : String) : Value := v.lookup [name]

/-- Whether a field holds anything. -/
def has (v : Value) (name : String) : Bool := !(v.field name).isNull

/-- The items of an array; none of anything else. -/
def items : Value → List Value
  | .arr items => items
  | _ => []

/-- The fields of an object; none of anything else. -/
def entries : Value → Fields
  | .obj fields => fields
  | _ => []

/-- The strings of an array of strings. -/
def strings? (v : Value) : Option (List String) := v.items.mapM string?

/-- The text in a field. -/
def textAt? (v : Value) (name : String) : Option String := (v.field name).string?

/-- The text in a field, or a default. -/
def textAt (v : Value) (name default : String) : String := (v.textAt? name).getD default

/-- The items of the array in a field. -/
def itemsAt (v : Value) (name : String) : List Value := (v.field name).items

/-- The integer in a field, or a default. -/
def intAt (v : Value) (name : String) (default : Int) : Int :=
  match v.field name with
  | .num (.int n) => n
  | _ => default

/-- The count in a field, or a default. -/
def natAt (v : Value) (name : String) (default : Nat) : Nat :=
  (v.intAt name default).toNat

/-- The boolean in a field, or a default. -/
def boolAt (v : Value) (name : String) (default : Bool) : Bool :=
  match v.field name with
  | .bool b => b
  | _ => default

/-- The document of several strings. -/
def strings (texts : List String) : Value := .arr (texts.map .str)

end Turnstile.Value
