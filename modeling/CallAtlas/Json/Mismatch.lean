import CallAtlas.Json.Value
import CallAtlas.Text.Quoted

/-!
# Values of the wrong shape

Why a value is not what a reader of records expects, and the message of each reason.
-/

namespace CallAtlas

/-- What stands in a document where something else is expected. -/
inductive Found where
  | null
  | boolean (value : Bool)
  | number (value : Number)
  | string (value : String)
  | sequence
  | map
  deriving DecidableEq, Repr

/-- What a message says of what stands there. -/
def Found.text : Found → String
  | .null => "null"
  | .boolean value => "boolean `" ++ (if value then "true" else "false") ++ "`"
  | .number (.int n) => "integer `" ++ Text.ofInt n ++ "`"
  | .number (.double bits) => "floating point `" ++ Number.doubleText bits ++ "`"
  | .string value => "string " ++ Text.quoted value
  | .sequence => "sequence"
  | .map => "map"

/-- What stands at a value. -/
def Json.found : Json → Found
  | .null => .null
  | .boolean value => .boolean value
  | .number value => .number value
  | .string value => .string value
  | .array _ => .sequence
  | .object _ => .map

/-- What a reader of records expects. -/
inductive Expected where
  /-- A text. -/
  | string
  /-- A 32-bit word. -/
  | word
  /-- A 64-bit size. -/
  | size
  /-- A list. -/
  | sequence
  /-- A map from texts. -/
  | map
  /-- A list of two. -/
  | pair
  /-- A record. -/
  | record (name : String)
  /-- A record written as a list of its fields. -/
  | fields (name : String) (count : Nat)
  /-- A shorter list. -/
  | fewer
  deriving DecidableEq, Repr

def Expected.text : Expected → String
  | .string => "a string"
  | .word => "u32"
  | .size => "usize"
  | .sequence => "a sequence"
  | .map => "a map"
  | .pair => "a tuple of size 2"
  | .record name => "struct " ++ name
  | .fields name count =>
    "struct " ++ name ++ " with " ++ Text.ofNat count ++
      (if count = 1 then " element" else " elements")
  | .fewer => "fewer elements in array"

/-- Why a value is not what is expected. -/
inductive Mismatch where
  /-- The value is of another kind. -/
  | kind (found : Found) (expected : Expected)
  /-- The value is of the right kind and out of bounds. -/
  | value (found : Found) (expected : Expected)
  /-- A field that must be present is absent. -/
  | missing (field : String)
  /-- A field is present twice. -/
  | duplicate (field : String)
  /-- A list has the wrong length. -/
  | length (count : Nat) (expected : Expected)
  /-- None of the forms of the named choice fits. -/
  | noForm (choice : String)
  deriving DecidableEq, Repr

def Mismatch.message : Mismatch → String
  | .kind found expected => "invalid type: " ++ found.text ++ ", expected " ++ expected.text
  | .value found expected => "invalid value: " ++ found.text ++ ", expected " ++ expected.text
  | .missing field => "missing field `" ++ field ++ "`"
  | .duplicate field => "duplicate field `" ++ field ++ "`"
  | .length count expected =>
    "invalid length " ++ Text.ofNat count ++ ", expected " ++ expected.text
  | .noForm choice => "data did not match any variant of untagged enum " ++ choice

end CallAtlas
