import CallAtlas.Proofs.Report.Layout
import Mathlib.Data.List.Infix

/-!
# Links of the rows of a report

The row of a call site has the link of the site: its line stands in front of the first colon with a
blank, and the nearest file row above is the one of its file. The first row, the last row and empty
rows have no link.
-/

namespace CallAtlas

/-! ## Splitting a row -/

theorem splitRow?_append {front : List Char} (plain : ':' ∉ front) (behind : List Char) :
    splitRow? (front ++ ':' :: ' ' :: behind) = some (front, behind) := by
  induction front with
  | nil => rfl
  | cons c front ih =>
    have other : c ≠ ':' := by
      rintro rfl
      exact plain List.mem_cons_self
    rw [List.cons_append, splitRow?, ih fun member => plain (List.mem_cons_of_mem c member)]
    · rfl
    · exact fun _ same => absurd same other

theorem eq_append_of_splitRow? {row front behind : List Char}
    (split : splitRow? row = some (front, behind)) : row = front ++ ':' :: ' ' :: behind := by
  fun_induction splitRow? row generalizing front with
  | case1 => cases split
  | case2 rest =>
    cases split
    rfl
  | case3 c rest _ ih =>
    obtain ⟨⟨before, after⟩, found, same⟩ := Option.map_eq_some_iff.mp split
    cases same
    rw [ih found, List.cons_append]

/-- What stands behind the last colon of a row is no part of the delimiter. -/
theorem splitRow?_colon_eq_none {name : List Char} (undivided : ¬ [':', ' '] <:+: name) :
    splitRow? (name ++ [':']) = none := by
  rw [Option.eq_none_iff_forall_ne_some]
  rintro ⟨front, behind⟩ split
  have same := eq_append_of_splitRow? split
  rcases List.eq_nil_or_concat' behind with rfl | ⟨rest, last, rfl⟩
  · have last : (':' : Char) = ' ' := by simpa using congrArg List.getLast? same
    cases last
  · have same : name ++ [':'] = front ++ ':' :: ' ' :: rest ++ [last] := by simpa using same
    obtain rfl := (List.append_inj' same rfl).1
    exact undivided ⟨front, rest, by simp⟩

/-! ## The lines of a report -/

/-- A row that starts with a letter has no link. -/
theorem linkOfRow_visible {c : Char} (visible : Text.isBlank c = false)
    (noDigit : c.isDigit = false) (unsigned : c ≠ '+') (undivided : c ≠ ':')
    (above : List (List Char)) (behind : List Char) (selection : Option Selection) :
    linkOfRow above (c :: behind) selection = none := by
  unfold linkOfRow
  cases split : splitRow? (c :: behind) with
  | none => rfl
  | some parts =>
    obtain ⟨front, rest⟩ := parts
    obtain ⟨d, front, rfl⟩ : ∃ d before, front = d :: before := by
      refine List.exists_cons_of_ne_nil ?_
      rintro rfl
      exact undivided (List.cons.inj (eq_append_of_splitRow? split)).1
    obtain rfl := (List.cons.inj (eq_append_of_splitRow? split)).1
    obtain ⟨kept, trimmed⟩ := Text.trimBlanks_cons_visible visible front
    have unread := Text.readWord?_cons_eq_none noDigit unsigned kept
    simp only [Option.bind_eq_bind, Option.bind_some, trimmed, unread, Option.bind_none]

theorem linkOfRow_of_split {above : List (List Char)} {row front behind : List Char}
    {line : UInt32} (split : splitRow? row = some (front, behind))
    (number : Text.readWord? (Text.trimBlanks front) = some line) (selection : Option Selection) :
    linkOfRow above row selection =
      (above.reverse.find? isFileRow).bind fun header =>
        if (fileOfRow header).isEmpty then none
        else
          some ⟨String.ofList (fileOfRow header), line,
            (coveredColumns front behind selection).first,
            (coveredColumns front behind selection).last⟩ := by
  unfold linkOfRow
  rw [split]
  simp only [Option.bind_eq_bind, Option.bind_some, number]

section Lines

variable (report : CallerReport)

theorem line_title : ∃ behind, ReportRow.line report .title = 'C' :: behind := by
  have start : "Callers of method ".toList = 'C' :: "allers of method ".toList := by decide
  have whole : (ReportRow.text report .title).toList =
      'C' :: ("allers of method ".toList ++ report.identifier.toList) :=
    String.toList_append.trans (congrArg (· ++ report.identifier.toList) start)
  have longer : "allers of method ".toList ++ report.identifier.toList ≠ [] :=
    List.append_ne_nil_of_left_ne_nil (by decide) _
  rw [ReportRow.line, whole, Text.dropReturn_cons _ longer]
  exact ⟨_, rfl⟩

theorem line_footer : ∃ behind, ReportRow.line report .footer = 'F' :: behind := by
  have start : "Found ".toList = 'F' :: "ound ".toList := by decide
  obtain ⟨rest, whole⟩ : ∃ rest,
      (ReportRow.text report .footer).toList = 'F' :: ("ound ".toList ++ rest) := by
    rw [ReportRow.text, CallerReport.footer, callersFooter]
    simp only [String.toList_append, List.append_assoc]
    exact ⟨_, congrArg (· ++ _) start⟩
  have longer : "ound ".toList ++ rest ≠ [] :=
    List.append_ne_nil_of_left_ne_nil (by decide) _
  rw [ReportRow.line, whole, Text.dropReturn_cons _ longer]
  exact ⟨_, rfl⟩

theorem line_blank : ReportRow.line report .blank = [] := by
  rw [ReportRow.line, ReportRow.text]
  rfl

theorem line_file (name : String) : ReportRow.line report (.file name) = name.toList ++ [':'] := by
  rw [ReportRow.line, ReportRow.text, String.toList_append, Text.dropReturn_of_ne]
  · rfl
  · simp

theorem line_site (site : CallSite) :
    ReportRow.line report (.site site) =
      ([' ', ' '] ++ Text.numeral site.line.toNat) ++
        ':' :: ' ' :: Text.dropReturn (site.text.getD "").toList := by
  have whole : (ReportRow.text report (.site site)).toList =
      ([' ', ' '] ++ Text.numeral site.line.toNat ++ [':', ' ']) ++
        (site.text.getD "").toList := by
    simp only [ReportRow.text, CallSite.row, String.toList_append, Text.ofWord, Text.ofNat,
      String.toList_ofList, rowIndent, rowDelimiter]
    rfl
  have kept : ([' ', ' '] ++ Text.numeral site.line.toNat ++ [':', ' ']).getLast? ≠ some '\r' := by
    rw [List.getLast?_append]
    show some ' ' ≠ some '\r'
    decide
  rw [ReportRow.line, whole, Text.dropReturn_append kept]
  simp

theorem splitRow?_site (site : CallSite) :
    splitRow? (ReportRow.line report (.site site)) =
      some ([' ', ' '] ++ Text.numeral site.line.toNat,
        Text.dropReturn (site.text.getD "").toList) := by
  rw [line_site, splitRow?_append]
  rintro member
  rcases List.mem_append.mp member with member | member
  · revert member
    decide
  · have digit := Text.isDigit_of_mem_numeral member
    cases digit

end Lines

theorem readWord?_site (site : CallSite) :
    Text.readWord? (Text.trimBlanks ([' ', ' '] ++ Text.numeral site.line.toNat)) =
      some site.line := by
  have blank : Text.isBlank ' ' = true := by decide
  rw [List.cons_append, List.cons_append, List.nil_append, Text.trimBlanks_cons_blank blank,
    Text.trimBlanks_cons_blank blank, Text.trimBlanks_numeral, Text.readWord?_numeral]

/-! ## The file row above -/

/-- A text without one slash in front. -/
def dropSlash : List Char → List Char
  | '/' :: rest => rest
  | whole => whole

/-- The name of a file without one slash in front. -/
def withoutSlash (name : String) : String :=
  String.ofList (dropSlash name.toList)

theorem fileOfRow_eq_dropSlash (row : List Char) : fileOfRow row = dropSlash row.dropLast :=
  rfl

theorem fileOfRow_header (name : String) :
    fileOfRow (name.toList ++ [':']) = (withoutSlash name).toList := by
  rw [fileOfRow_eq_dropSlash, List.dropLast_concat, withoutSlash, String.toList_ofList]

/-- Whether a text starts with a blank. -/
def startsBlank (text : String) : Bool :=
  text.toList.head?.any Text.isBlank

theorem isFileRow_header {name : String} (visible : startsBlank name = false) :
    isFileRow (name.toList ++ [':']) = true := by
  have start : (name.toList ++ [':']).head?.any Text.isBlank = false := by
    rw [startsBlank] at visible
    rw [List.head?_append]
    cases first : name.toList.head? with
    | none => decide
    | some c => simpa [first] using visible
  rw [isFileRow, start, List.getLast?_concat]
  rfl

theorem isFileRow_site (report : CallerReport) (site : CallSite) :
    isFileRow (ReportRow.line report (.site site)) = false := by
  rw [line_site, isFileRow, Bool.and_eq_false_iff]
  exact .inr rfl

/-- The nearest file row above the row of a site is the one of its file. -/
theorem find_header {identifier : String} {sites : List CallSite} {row : Nat} {site : CallSite}
    (here : (CallerReport.ofSites identifier sites).layout[row]? = some (.site site))
    (visible : startsBlank site.file = false) :
    ((CallerReport.ofSites identifier sites).linesAbove row).reverse.find? isFileRow =
      some (site.file.toList ++ [':']) := by
  obtain ⟨inside, current⟩ := List.getElem?_eq_some_iff.mp here
  have whole : (CallerReport.ofSites identifier sites).layout =
      (CallerReport.ofSites identifier sites).layout.take row ++ .site site ::
        (CallerReport.ofSites identifier sites).layout.drop (row + 1) := by
    rw [← current, List.getElem_cons_drop, List.take_append_drop]
  rcases (headed_layout identifier sites).split whole with ⟨front, between, above⟩ | ⟨none, -⟩
  · have skipped : (between.reverse.map fun other =>
        ReportRow.line (.ofSites identifier sites) (.site other)).find? isFileRow = none := by
      rw [List.find?_eq_none]
      intro line member
      obtain ⟨other, -, rfl⟩ := List.mem_map.mp member
      simp [isFileRow_site]
    rw [CallerReport.linesAbove, above]
    simp only [List.map_append, List.map_cons, List.map_map, List.reverse_append,
      List.reverse_cons, List.append_assoc, List.map_reverse, Function.comp_def] at skipped ⊢
    rw [List.find?_append, skipped, Option.none_or, line_file, List.singleton_append,
      List.find?_cons_of_pos (isFileRow_header visible)]
  · cases none

/-! ## Links of rows -/

theorem linkOfRow_title (report : CallerReport) (above : List (List Char))
    (selection : Option Selection) :
    linkOfRow above (ReportRow.line report .title) selection = none := by
  obtain ⟨behind, start⟩ := line_title report
  rw [start]
  exact linkOfRow_visible (by decide) (by decide) (by decide) (by decide) above behind selection

theorem linkOfRow_footer (report : CallerReport) (above : List (List Char))
    (selection : Option Selection) :
    linkOfRow above (ReportRow.line report .footer) selection = none := by
  obtain ⟨behind, start⟩ := line_footer report
  rw [start]
  exact linkOfRow_visible (by decide) (by decide) (by decide) (by decide) above behind selection

/-- A site whose file can be told from its rows leads to that file. -/
theorem linkOfRow_site {identifier : String} {sites : List CallSite} {row : Nat} {site : CallSite}
    (here : (CallerReport.ofSites identifier sites).layout[row]? = some (.site site))
    (visible : startsBlank site.file = false) (selection : Option Selection) :
    linkOfRow ((CallerReport.ofSites identifier sites).linesAbove row)
        (ReportRow.line (.ofSites identifier sites) (.site site)) selection =
      let columns := coveredColumns ([' ', ' '] ++ Text.numeral site.line.toNat)
        (Text.dropReturn (site.text.getD "").toList) selection
      if withoutSlash site.file = "" then none
      else some ⟨withoutSlash site.file, site.line, columns.first, columns.last⟩ := by
  rw [linkOfRow_of_split (splitRow?_site _ site) (readWord?_site site), find_header here visible,
    Option.bind_some, fileOfRow_header, String.ofList_toList]
  simp only [List.isEmpty_iff, String.toList_eq_nil_iff]

end CallAtlas
