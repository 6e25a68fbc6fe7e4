import CallAtlas.Json.Value

/-!
# JSON text

Values are written in two forms: compact, without any blank, and indented by two spaces a level.
Members stand in the order of the value. Strings escape quotes, backslashes and the controls below
the space, and nothing else.
-/

namespace CallAtlas.Json

/-- The four hexadecimal digits of a control. -/
def controlDigits (n : Nat) : List Char :=
  ['0', '0', Nat.digitChar (n / 16), Nat.digitChar (n % 16)]

/-- The written form of one character of a string. -/
def escapeChar (c : Char) : List Char :=
  match c with
  | '"' => ['\\', '"']
  | '\\' => ['\\', '\\']
  | '\n' => ['\\', 'n']
  | '\r' => ['\\', 'r']
  | '\t' => ['\\', 't']
  | '\x08' => ['\\', 'b']
  | '\x0c' => ['\\', 'f']
  | _ => if c.toNat < 32 then ['\\', 'u'] ++ controlDigits c.toNat else [c]

def stringText (s : String) : String :=
  String.ofList ('"' :: s.toList.flatMap escapeChar ++ ['"'])

def booleanText (value : Bool) : String :=
  if value then "true" else "false"

mutual

/-- The value without any blank (`to_string`). -/
def compact : Json → String
  | .null => "null"
  | .boolean value => booleanText value
  | .number value => value.text
  | .string value => stringText value
  | .array items => "[" ++ ",".intercalate (compactItems items) ++ "]"
  | .object members => "\x7b" ++ ",".intercalate (compactMembers members) ++ "\x7d"

def compactItems : List Json → List String
  | [] => []
  | item :: rest => compact item :: compactItems rest

def compactMembers : List (String × Json) → List String
  | [] => []
  | (key, value) :: rest => (stringText key ++ ":" ++ compact value) :: compactMembers rest

end

/-- The start of a line at a level. -/
def indentation (level : Nat) : String :=
  String.ofList ('\n' :: List.replicate (2 * level) ' ')

/-- Items one a line between brackets, or the brackets alone. -/
def bracketed (opening closing : String) (level : Nat) (items : List String) : String :=
  if items.isEmpty then opening ++ closing
  else
    opening ++ indentation (level + 1) ++ ("," ++ indentation (level + 1)).intercalate items ++
      indentation level ++ closing

mutual

/-- The value at a level, indented. -/
def indented (level : Nat) : Json → String
  | .null => "null"
  | .boolean value => booleanText value
  | .number value => value.text
  | .string value => stringText value
  | .array items => bracketed "[" "]" level (indentedItems (level + 1) items)
  | .object members => bracketed "\x7b" "\x7d" level (indentedMembers (level + 1) members)

def indentedItems (level : Nat) : List Json → List String
  | [] => []
  | item :: rest => indented level item :: indentedItems level rest

def indentedMembers (level : Nat) : List (String × Json) → List String
  | [] => []
  | (key, value) :: rest =>
    (stringText key ++ ": " ++ indented level value) :: indentedMembers level rest

end

/-- The value indented by two spaces a level (`to_string_pretty`). -/
def pretty (value : Json) : String :=
  indented 0 value

end CallAtlas.Json
