import Mathlib.Algebra.Order.Field.Rat
import Mathlib.Data.List.Nodup

/-! # JSON trees and a text layer

`Json` is the tree a JSON text denotes. Numbers keep the distinction a printer makes between an
integer and a double; a double is a rational, so the trees have no infinities and no NaN.

`Wire Text` is a printer and a parser that belong together: parsing what was printed gives the tree
back, for every tree in which no object repeats a key. `TextLayer Text` assumes nothing. -/

namespace DemoColombia

/-- A JSON value. -/
inductive Json
  | null
  | bool (b : Bool)
  | int (n : ℤ)
  | double (x : ℚ)
  | string (s : String)
  | array (elements : List Json)
  /-- The members in the order they were added. -/
  | object (members : List (String × Json))

namespace Json

/-- The member of an object under a key; where a key is repeated the last member counts. -/
def member? (key : String) : Json → Option Json
  | .object members => (members.reverse.find? (·.1 = key)).map Prod.snd
  | _ => none

/-- A value with no values inside. -/
def IsScalar : Json → Prop
  | .array _ => False
  | .object _ => False
  | _ => True

/-- **Flat objects**: no key is repeated, and every member is a scalar or an array of scalars. -/
structure FlatObject (members : List (String × Json)) : Prop where
  nodup : (members.map Prod.fst).Nodup
  flat : ∀ m ∈ members,
    m.2.IsScalar ∨ ∃ elements, m.2 = .array elements ∧ ∀ e ∈ elements, e.IsScalar

/-- In an object without repeated keys every member is found under its key. -/
theorem member?_of_mem {members : List (String × Json)} {key : String} {value : Json}
    (hnodup : (members.map Prod.fst).Nodup) (hmem : (key, value) ∈ members) :
    (Json.object members).member? key = some value := by
  rw [member?]
  cases hfind : members.reverse.find? (·.1 = key) with
  | none =>
    have habsent := List.find?_eq_none.mp hfind (key, value) (List.mem_reverse.mpr hmem)
    simp at habsent
  | some m =>
    have hkey : m.1 = key := by simpa using List.find?_some hfind
    have hm : m ∈ members := List.mem_reverse.mp (List.mem_of_find?_eq_some hfind)
    have heq : m = (key, value) := List.inj_on_of_nodup_map hnodup hm hmem hkey
    rw [heq]
    rfl

end Json

/-- A printer and a parser of JSON texts that agree on flat objects. -/
structure Wire (Text : Type*) where
  /-- Print a tree. -/
  json_to_string : Json → Text
  /-- Parse a text; `none` where parsing raises. -/
  loads : Text → Option Json
  /-- Parsing what was printed gives the tree back. -/
  loads_json_to_string : ∀ members, Json.FlatObject members →
    loads (json_to_string (.object members)) = some (.object members)

/-- The text layer that transports the trees themselves. -/
def Wire.tree : Wire Json := ⟨id, some, fun _ _ => rfl⟩

/-- A printer and a parser of which nothing is assumed: a text with a number that is not finite, or
with bytes that are not UTF-8, may not be read back. -/
structure TextLayer (Text : Type*) where
  /-- Print a tree. -/
  json_to_string : Json → Text
  /-- Parse a text; `none` where parsing raises. -/
  loads : Text → Option Json

/-- The one of the trees themselves. -/
def TextLayer.tree : TextLayer Json := ⟨id, some⟩

end DemoColombia
