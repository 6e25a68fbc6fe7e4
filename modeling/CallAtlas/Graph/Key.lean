import CallAtlas.Text.Numeral

/-!
# Composite keys

An entry of a call graph is addressed by `path:line:identifier`. A key is taken apart from the
right, so that colons in the path survive; nothing is escaped.
-/

namespace CallAtlas

/-- The parts of a composite key. -/
structure KeyParts where
  path : String
  line : UInt32
  identifier : String
  deriving DecidableEq, Repr

namespace KeyParts

/-- The key that addresses an entry (`composite_key`). -/
def key (parts : KeyParts) : String :=
  parts.path ++ ":" ++ Text.ofWord parts.line ++ ":" ++ parts.identifier

/-- What stands before and behind the last colon of a text. -/
def splitLast? (s : List Char) : Option (List Char × List Char) :=
  match s.reverse.span (· ≠ ':') with
  | (_, []) => none
  | (behind, _ :: before) => some (before.reverse, behind.reverse)

/-- The parts of a key that has at least two colons and a line between the last two
(`split_composite_key`). -/
def ofKey? (key : String) : Option KeyParts := do
  let (front, identifier) ← splitLast? key.toList
  let (path, numeral) ← splitLast? front
  let line ← Text.readWord? numeral
  return ⟨String.ofList path, line, String.ofList identifier⟩

end KeyParts

/-- The identifier that a key ends in, where `from_raw` takes it from the key: what stands behind
its last colon, or all of it. -/
def keyIdentifier (key : String) : String :=
  match KeyParts.splitLast? key.toList with
  | some (_, identifier) => String.ofList identifier
  | none => key

end CallAtlas
