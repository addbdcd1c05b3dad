import DemoColombia.Backend.PersonState
import DemoColombia.DataStructures.Json

/-! # Reading the person id from a payload

`on_message` decodes and parses the payload, subscripts the result with `"object_id"` and uses the
value as a key of `person_state`. The keys of a Python dictionary are compared with `==`, so `True`,
`1` and `1.0` are one key; `PersonKey` has one constructor for each class of equal keys. An array or
an object is not hashable. -/

namespace DemoColombia.Backend

variable {Text : Type*}

/-- A parsed JSON value as a dictionary key, up to Python's equality. -/
inductive PersonKey
  | none
  /-- A number, or a bool counted as one. -/
  | number (x : ℚ)
  | text (s : String)
  deriving DecidableEq

/-- The key of a parsed value; `none` where hashing it raises. -/
def PersonKey.ofJson : Json → Option PersonKey
  | .null => some .none
  -- `True == 1` and `False == 0`, and equal keys hash alike
  | .bool b => some (.number (if b then 1 else 0))
  | .int n => some (.number n)
  | .double x => some (.number x)
  | .string s => some (.text s)
  -- a list or a dict raises `TypeError` as a key
  | .array _ => Option.none
  | .object _ => Option.none

/-- `json.loads(msg.payload.decode('utf-8'))["object_id"]` as a key of `person_state`; `none` where
one of the steps raises. -/
def person_id (wire : Wire Text) (payload : Text) : Option PersonKey :=
  (wire.loads payload).bind fun payload => (payload.member? "object_id").bind PersonKey.ofJson

/-- The same, with any parser. -/
def read_person_id (loads : Text → Option Json) (payload : Text) : Option PersonKey :=
  (loads payload).bind fun payload => (payload.member? "object_id").bind PersonKey.ofJson

/-- `on_message` on a payload handled at `clock`; `none` where it raises, which is before any access
to `person_state`. -/
def on_payload (wire : Wire Text) (person_state : PersonState PersonKey) (payload : Text)
    (clock : ℚ) : Option (PersonState PersonKey × List (Alert PersonKey)) :=
  (person_id wire payload).map fun person_id => on_message person_state person_id clock

end DemoColombia.Backend
