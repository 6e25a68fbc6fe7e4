import CallAtlas.Report.Basic
import CallAtlas.Text.Blank
import CallAtlas.Text.Lines

/-!
# Links from report rows

A click on a row of a caller report leads back to the call site of that row: its line stands in
front of the first colon with a blank, and its file in the nearest file row above.
-/

namespace CallAtlas

/-- A call site picked from the text of a report, with a range of columns of its source text
(`CallerLink`). -/
structure CallerLink where
  path : String
  line : UInt32
  startColumn : UInt32
  endColumn : UInt32
  deriving DecidableEq, Repr

/-- A selected range of columns of a row. -/
structure Selection where
  first : UInt32
  last : UInt32
  deriving DecidableEq, Repr

/-- What stands before and behind the first colon with a blank of a row (`split_once` at
`ROW_DELIMITER`). -/
def splitRow? : List Char → Option (List Char × List Char)
  | [] => none
  | ':' :: ' ' :: rest => some ([], rest)
  | c :: rest => (splitRow? rest).map fun (front, behind) => (c :: front, behind)

/-- Whether a row names a file: it ends in a colon and does not start with a blank
(`is_file_header`). -/
def isFileRow (row : List Char) : Bool :=
  row.getLast? == some ':' && !(row.head?.any Text.isBlank)

/-- The file that a file row names, without one slash in front. -/
def fileOfRow (row : List Char) : List Char :=
  match row.dropLast with
  | '/' :: file => file
  | file => file

def byteLength : List Char → Nat
  | [] => 0
  | c :: rest => c.utf8Size + byteLength rest

/-- The column less an offset, or zero (`saturating_sub`). -/
def columnFrom (offset column : UInt32) : UInt32 :=
  if offset ≤ column then column - offset else 0

/-- The columns of the source text of a row that a click covers: the selection less the part of
the row in front of the text, which is measured in bytes, or all characters of the text. -/
def coveredColumns (front text : List Char) : Option Selection → Selection
  | some selection =>
    let offset := UInt32.ofNat (byteLength front + 2)
    ⟨columnFrom offset selection.first, columnFrom offset selection.last⟩
  | none => ⟨0, UInt32.ofNat text.length⟩

/-- The link of a row with the rows above it (`parse_caller_click` behind the choice of the row). -/
def linkOfRow (above : List (List Char)) (row : List Char) (selection : Option Selection) :
    Option CallerLink := do
  let (front, text) ← splitRow? row
  let line ← Text.readWord? (Text.trimBlanks front)
  let header ← above.reverse.find? isFileRow
  let file := fileOfRow header
  if file.isEmpty then none
  else
    let columns := coveredColumns front text selection
    some ⟨String.ofList file, line, columns.first, columns.last⟩

/-- The link of a click on a row of a text, the rows counted from zero (`parse_caller_click`). Rows
that are no call site and rows without a file row above them have none. -/
def parseCallerClick (text : String) (row : Nat) (selection : Option Selection) :
    Option CallerLink := do
  let rows := Text.splitLines text.toList
  let current ← rows[row]?
  linkOfRow (rows.take row) current selection

def CallerLink.toJson (link : CallerLink) : Json :=
  .object
    [("path", .string link.path), ("line", .word link.line),
     ("startColumn", .word link.startColumn), ("endColumn", .word link.endColumn)]

end CallAtlas
