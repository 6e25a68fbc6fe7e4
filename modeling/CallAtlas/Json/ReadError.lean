import CallAtlas.Json.Mismatch

/-!
# Errors of reading

Why bytes are no JSON document, or not the one expected, and where. While bytes are read, a place
is the number of bytes that are still unread there; a message gives it as a line and a column, the
column counting bytes.
-/

namespace CallAtlas.Json

/-- Why bytes cannot be read. -/
inductive Cause where
  /-- The bytes end where a value, list, object or string goes on. -/
  | endInValue
  | endInList
  | endInObject
  | endInString
  /-- A colon is wanted behind a key. -/
  | colon
  /-- A comma or the end of a list is wanted. -/
  | listGoesOn
  /-- A comma or the end of an object is wanted. -/
  | objectGoesOn
  /-- A word starts like null, true or false and is another. -/
  | word
  /-- No value starts here. -/
  | value
  /-- A backslash stands before a character that it does not escape. -/
  | escape
  /-- A number is not written as one. -/
  | number
  /-- A number is beyond the largest double. -/
  | numberRange
  /-- A string is not UTF-8. -/
  | codePoint
  /-- A control character stands in a string. -/
  | control
  /-- A key is no string. -/
  | key
  /-- One half of a pair of surrogates has no other half. -/
  | surrogate
  /-- A second escape must follow the first half of a pair of surrogates. -/
  | secondHalf
  /-- A comma stands before the end of a list or an object. -/
  | trailingComma
  /-- Something stands behind the document. -/
  | trailing
  /-- Lists and objects are nested too deeply. -/
  | depth
  /-- A value is not what is expected. -/
  | mismatch (reason : Mismatch)
  deriving DecidableEq, Repr

/-- The message of a cause, without its place. -/
def Cause.message : Cause → String
  | .endInValue => "EOF while parsing a value"
  | .endInList => "EOF while parsing a list"
  | .endInObject => "EOF while parsing an object"
  | .endInString => "EOF while parsing a string"
  | .colon => "expected `:`"
  | .listGoesOn => "expected `,` or `]`"
  | .objectGoesOn => "expected `,` or `\x7d`"
  | .word => "expected ident"
  | .value => "expected value"
  | .escape => "invalid escape"
  | .number => "invalid number"
  | .numberRange => "number out of range"
  | .codePoint => "invalid unicode code point"
  | .control => "control character (\\u0000-\\u001F) found while parsing a string"
  | .key => "key must be a string"
  | .surrogate => "lone leading surrogate in hex escape"
  | .secondHalf => "unexpected end of hex escape"
  | .trailingComma => "trailing comma"
  | .trailing => "trailing characters"
  | .depth => "recursion limit exceeded"
  | .mismatch reason => reason.message

/-- A cause and its place, as the number of bytes that are unread there. -/
structure Fault where
  cause : Cause
  unread : Nat
  deriving DecidableEq, Repr

/-- A cause and its place, as a line and a column. -/
structure ReadError where
  cause : Cause
  line : Nat
  column : Nat
  deriving DecidableEq, Repr

/-- The place of a fault in the bytes that were read. -/
def Fault.locate (fault : Fault) (bytes : List UInt8) : ReadError :=
  let before := bytes.take (bytes.length - fault.unread)
  { cause := fault.cause
    line := 1 + before.count 0x0A
    column := (before.reverse.takeWhile (· != 0x0A)).length }

def ReadError.message (e : ReadError) : String :=
  e.cause.message ++ " at line " ++ Text.ofNat e.line ++ " column " ++ Text.ofNat e.column

end CallAtlas.Json
