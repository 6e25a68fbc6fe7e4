import CallAtlas.Graph.Entry

/-!
# Caller reports

The call sites of an identifier as text, grouped by file:

    Callers of method submitOrder

    ui/button.js:
      40: submitOrder(cart);
      77: submitOrder(saved);
    api/routes.js:
      5: route(body)

    Found 3 callers in 2 files

A file stands at the start of its row and ends in a colon; a call site is indented, and a colon
with a blank parts its line from its text. A click on such a row is read back by these rules.
-/

namespace CallAtlas

/-- The singular for exactly one, else the plural (`pluralize`). -/
def pluralize (count : Nat) (singular plural : String) : String :=
  if count = 1 then singular else plural

/-- The call sites of one file (`FileGroup`). -/
structure FileGroup where
  file : String
  sites : List CallSite
  deriving DecidableEq, Repr

/-- The call sites of an identifier by file, with their numbers (`CallerReport`). -/
structure CallerReport where
  identifier : String
  count : Nat
  fileCount : Nat
  files : List FileGroup
  deriving DecidableEq, Repr

/-- Adds a site to the group of its file, which is opened behind the others if there is none: one
round of the loop of `CallerReport::new`. -/
def addSite (site : CallSite) : List FileGroup → List FileGroup
  | [] => [⟨site.file, [site]⟩]
  | group :: rest =>
    if group.file = site.file then { group with sites := group.sites ++ [site] } :: rest
    else group :: addSite site rest

/-- The sites by file; files in the order of their first site, sites in their own order. -/
def groupByFile (sites : List CallSite) : List FileGroup :=
  sites.foldl (fun groups site => addSite site groups) []

/-- The last line of a report (`callers_footer`). -/
def callersFooter (count fileCount : Nat) : String :=
  "Found " ++ Text.ofNat count ++ " " ++ pluralize count "caller" "callers" ++ " in " ++
    Text.ofNat fileCount ++ " " ++ pluralize fileCount "file" "files"

/-- The first line of a report (`callers_header`). -/
def callersHeader (identifier : String) : String :=
  "Callers of method " ++ identifier

/-- What stands in front of a call site (`ROW_INDENT`). -/
def rowIndent : String := "  "

/-- What stands between the line and the text of a call site (`ROW_DELIMITER`). -/
def rowDelimiter : String := ": "

def CallSite.row (site : CallSite) : String :=
  rowIndent ++ Text.ofWord site.line ++ rowDelimiter ++ site.text.getD ""

namespace FileGroup

/-- The row above the sites of a file. -/
def header (group : FileGroup) : String :=
  group.file ++ ":"

def rows (group : FileGroup) : List String :=
  group.header :: group.sites.map CallSite.row

def toJson (group : FileGroup) : Json :=
  .object
    [("file", .string group.file), ("sites", .array (group.sites.map CallSite.toJson))]

end FileGroup

namespace CallerReport

/-- The report on the call sites of an identifier (`CallerReport::new`). -/
def ofSites (identifier : String) (sites : List CallSite) : CallerReport where
  identifier := identifier
  count := sites.length
  fileCount := (sites.map CallSite.file).eraseDups.length
  files := groupByFile sites

/-- The last line of the report (`footer`). -/
def footer (report : CallerReport) : String :=
  callersFooter report.count report.fileCount

def rows (report : CallerReport) : List String :=
  [callersHeader report.identifier, ""] ++ report.files.flatMap FileGroup.rows ++
    ["", report.footer]

/-- The text of the report (`CallerReport::render`): its rows, each with a line feed behind it. -/
def render (report : CallerReport) : String :=
  String.join (report.rows.map (· ++ "\n"))

def toJson (report : CallerReport) : Json :=
  .object
    [("identifier", .string report.identifier), ("count", .nat report.count),
     ("fileCount", .nat report.fileCount),
     ("files", .array (report.files.map FileGroup.toJson))]

end CallerReport

end CallAtlas
