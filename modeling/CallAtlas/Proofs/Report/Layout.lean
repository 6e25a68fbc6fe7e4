import CallAtlas.Proofs.Report.Groups
import CallAtlas.Proofs.Text.Lines
import CallAtlas.Proofs.Text.Numeral
import CallAtlas.Report.Link

/-!
# Layout of reports

What each row of a report is, and what is read back of the text of a report: the lines of the text
are the rows, and every call site stands under its own file, with nothing but call sites between.
-/

namespace CallAtlas

/-- What a row of a report is. -/
inductive ReportRow where
  | title
  | blank
  /-- The row above the call sites of a file. -/
  | file (name : String)
  | site (site : CallSite)
  | footer
  deriving DecidableEq, Repr

def ReportRow.text (report : CallerReport) : ReportRow → String
  | .title => callersHeader report.identifier
  | .blank => ""
  | .file name => name ++ ":"
  | .site caller => caller.row
  | .footer => report.footer

/-- The row of a file, and the rows of its sites. -/
def FileGroup.layout (group : FileGroup) : List ReportRow :=
  .file group.file :: group.sites.map .site

/-- What the rows of a report are. -/
def CallerReport.layout (report : CallerReport) : List ReportRow :=
  [.title, .blank] ++ report.files.flatMap FileGroup.layout ++ [.blank, .footer]

theorem CallerReport.rows_eq_map_layout (report : CallerReport) :
    report.rows = report.layout.map (ReportRow.text report) := by
  have groups : report.files.flatMap FileGroup.rows =
      (report.files.flatMap FileGroup.layout).map (ReportRow.text report) := by
    rw [List.map_flatMap]
    refine congrArg (List.flatMap · report.files) (funext fun group => ?_)
    simp [FileGroup.rows, FileGroup.layout, FileGroup.header, ReportRow.text, Function.comp_def]
  rw [rows, groups, layout]
  simp [ReportRow.text]

/-! ## Which rows there are -/

section Membership

variable {identifier : String} {sites : List CallSite}

theorem mem_layout_groups {row : ReportRow} :
    row ∈ (groupByFile sites).flatMap FileGroup.layout ↔
      (∃ site ∈ sites, row = .file site.file) ∨ ∃ site ∈ sites, row = .site site := by
  rw [groupByFile_eq, List.mem_flatMap]
  constructor
  · rintro ⟨group, grouped, present⟩
    obtain ⟨file, known, rfl⟩ := List.mem_map.mp grouped
    rcases List.mem_cons.mp present with rfl | present
    · obtain ⟨site, member, rfl⟩ := mem_filesOf.mp known
      exact .inl ⟨site, member, rfl⟩
    · obtain ⟨site, within, rfl⟩ := List.mem_map.mp present
      exact .inr ⟨site, (List.mem_filter.mp within).1, rfl⟩
  · have grouped {site : CallSite} (member : site ∈ sites) :
        FileGroup.mk site.file (sitesIn sites site.file) ∈
          (filesOf sites).map fun file => ⟨file, sitesIn sites file⟩ :=
      List.mem_map.mpr ⟨site.file, mem_filesOf.mpr ⟨site, member, rfl⟩, rfl⟩
    rintro (⟨site, member, rfl⟩ | ⟨site, member, rfl⟩)
    · exact ⟨_, grouped member, List.mem_cons_self⟩
    · have within : site ∈ sitesIn sites site.file := List.mem_filter.mpr ⟨member, by simp⟩
      exact ⟨_, grouped member, List.mem_cons_of_mem _ (List.mem_map_of_mem within)⟩

theorem mem_of_site_mem_layout {site : CallSite}
    (member : .site site ∈ (CallerReport.ofSites identifier sites).layout) : site ∈ sites := by
  have present : ReportRow.site site ∈ (groupByFile sites).flatMap FileGroup.layout := by
    simpa [CallerReport.layout, CallerReport.ofSites] using member
  rcases mem_layout_groups.mp present with ⟨other, -, same⟩ | ⟨other, known, same⟩
  · cases same
  · obtain rfl := ReportRow.site.inj same
    exact known

theorem exists_site_of_file_mem_layout {name : String}
    (member : .file name ∈ (CallerReport.ofSites identifier sites).layout) :
    ∃ site ∈ sites, site.file = name := by
  have present : ReportRow.file name ∈ (groupByFile sites).flatMap FileGroup.layout := by
    simpa [CallerReport.layout, CallerReport.ofSites] using member
  rcases mem_layout_groups.mp present with ⟨site, known, same⟩ | ⟨other, -, same⟩
  · exact ⟨site, known, (ReportRow.file.inj same).symm⟩
  · cases same

end Membership

/-! ## What the rows show -/

/-- The call site that a row shows. -/
def ReportRow.caller? : ReportRow → Option CallSite
  | .site caller => some caller
  | .title | .blank | .file .. | .footer => none

namespace CallerReport

/-- What is picked from the rows of a report is picked from those of its groups. -/
theorem filterMap_layout {α : Type} (pick : ReportRow → Option α) (title : pick .title = none)
    (blank : pick .blank = none) (footer : pick .footer = none) (report : CallerReport) :
    report.layout.filterMap pick =
      report.files.flatMap fun group => group.layout.filterMap pick := by
  rw [layout, List.filterMap_append, List.filterMap_append, List.filterMap_flatMap]
  simp [title, blank, footer]

theorem filterMap_caller_layout (report : CallerReport) :
    report.layout.filterMap ReportRow.caller? = report.files.flatMap FileGroup.sites := by
  have group (group : FileGroup) : group.layout.filterMap ReportRow.caller? = group.sites := by
    rw [FileGroup.layout, List.filterMap_cons, ReportRow.caller?, List.filterMap_map]
    exact List.filterMap_some
  rw [filterMap_layout ReportRow.caller? rfl rfl rfl]
  simp only [group]

end CallerReport

/-! ## Sites stand under their files -/

/-- Every site stands under the row of its file, which may be one in front of the rows. -/
def Headed : Option String → List ReportRow → Prop
  | _, [] => True
  | above, .site site :: rest => above = some site.file ∧ Headed above rest
  | _, .file name :: rest => Headed (some name) rest
  | _, .title :: rest | _, .blank :: rest | _, .footer :: rest => Headed none rest

theorem headed_sites {name : String} {sites : List CallSite} {rest : List ReportRow}
    (own : ∀ site ∈ sites, site.file = name) (after : Headed (some name) rest) :
    Headed (some name) (sites.map .site ++ rest) := by
  induction sites with
  | nil => exact after
  | cons site sites ih =>
    refine ⟨congrArg some (own site List.mem_cons_self).symm, ?_⟩
    exact ih fun other member => own other (List.mem_cons_of_mem site member)

theorem headed_groups {groups : List FileGroup} {rest : List ReportRow}
    (own : ∀ group ∈ groups, ∀ site ∈ group.sites, site.file = group.file)
    (after : ∀ above, Headed above rest) (above : Option String) :
    Headed above (groups.flatMap FileGroup.layout ++ rest) := by
  induction groups generalizing above with
  | nil => exact after above
  | cons group groups ih =>
    have others := ih fun other member => own other (List.mem_cons_of_mem group member)
    rw [List.flatMap_cons, List.append_assoc]
    exact headed_sites (own group List.mem_cons_self) (others _)

theorem headed_layout (identifier : String) (sites : List CallSite) :
    Headed none (CallerReport.ofSites identifier sites).layout := by
  have ending (above : Option String) : Headed above [.blank, .footer] := trivial
  show Headed none ((groupByFile sites).flatMap FileGroup.layout ++ [.blank, .footer])
  refine headed_groups ?_ ending none
  intro group member site within
  rw [groupByFile_eq] at member
  obtain ⟨file, -, rfl⟩ := List.mem_map.mp member
  simpa using (List.mem_filter.mp within).2

/-- The nearest row above a site that is no site is the row of its file. -/
theorem Headed.split {above : Option String} {rows before after : List ReportRow}
    {site : CallSite} (headed : Headed above rows) (here : rows = before ++ .site site :: after) :
    (∃ front between, before = front ++ .file site.file :: List.map .site between) ∨
      (above = some site.file ∧ ∃ between, before = List.map .site between) := by
  induction before generalizing above rows with
  | nil =>
    subst here
    exact .inr ⟨headed.1, [], rfl⟩
  | cons row before ih =>
    subst here
    have deeper {front : List ReportRow} {between : List CallSite}
        (found : before = front ++ .file site.file :: between.map .site) :
        ∃ front between, row :: before = front ++ .file site.file :: List.map .site between :=
      ⟨row :: front, between, by rw [found]; rfl⟩
    cases row with
    | site other =>
      obtain ⟨own, headed⟩ := headed
      rcases ih headed rfl with ⟨front, between, found⟩ | ⟨known, between, found⟩
      · exact .inl (deeper found)
      · exact .inr ⟨known, other :: between, by rw [found]; rfl⟩
    | file name =>
      have headed : Headed (some name) (before ++ .site site :: after) := headed
      rcases ih headed rfl with ⟨front, between, found⟩ | ⟨known, between, found⟩
      · exact .inl (deeper found)
      · exact .inl ⟨[], between, by rw [found, Option.some.inj known]; rfl⟩
    | title | blank | footer =>
      have headed : Headed none (before ++ .site site :: after) := headed
      rcases ih headed rfl with ⟨front, between, found⟩ | ⟨known, -⟩
      · exact .inl (deeper found)
      · cases known

/-! ## The lines of the text -/

/-- No string of a call site holds a line feed; a site without a text shows an empty one. -/
structure CallSite.IsPlain (site : CallSite) : Prop where
  file : '\n' ∉ site.file.toList
  text : '\n' ∉ (site.text.getD "").toList

instance (site : CallSite) : Decidable site.IsPlain :=
  decidable_of_iff ('\n' ∉ site.file.toList ∧ '\n' ∉ (site.text.getD "").toList)
    ⟨fun ⟨file, text⟩ => ⟨file, text⟩, fun plain => ⟨plain.file, plain.text⟩⟩

theorem notMem_ofNat {c : Char} (noDigit : c.isDigit = false) (n : Nat) :
    c ∉ (Text.ofNat n).toList := by
  intro member
  rw [Text.ofNat, String.toList_ofList] at member
  rw [Text.isDigit_of_mem_numeral member] at noDigit
  cases noDigit

theorem notMem_footer (count fileCount : Nat) : '\n' ∉ (callersFooter count fileCount).toList := by
  have digits := notMem_ofNat (c := '\n') rfl
  simp only [callersFooter, pluralize, String.toList_append, List.mem_append, digits]
  split <;> split <;> decide

theorem notMem_row {site : CallSite} (plain : site.IsPlain) : '\n' ∉ site.row.toList := by
  have digits := notMem_ofNat (c := '\n') rfl site.line.toNat
  simp only [CallSite.row, String.toList_append, List.mem_append, Text.ofWord, digits, plain.text,
    rowIndent, rowDelimiter]
  decide

/-- The text of a row as it is read back. -/
def ReportRow.line (report : CallerReport) (row : ReportRow) : List Char :=
  Text.dropReturn (row.text report).toList

/-- The lines above a row of a report. -/
def CallerReport.linesAbove (report : CallerReport) (row : Nat) : List (List Char) :=
  (report.layout.take row).map (ReportRow.line report)

/-- The text of a report is what its rows show, each with a line feed behind it. -/
theorem CallerReport.toList_render (report : CallerReport) :
    report.render.toList =
      (report.layout.map fun row => (row.text report).toList).flatMap (· ++ ['\n']) := by
  rw [render, rows_eq_map_layout]
  simp [String.toList_join, List.flatMap_map]

section Lines

variable {identifier : String} {sites : List CallSite} (title : '\n' ∉ identifier.toList)
  (plain : ∀ site ∈ sites, site.IsPlain)

include title plain

theorem notMem_text {row : ReportRow}
    (member : row ∈ (CallerReport.ofSites identifier sites).layout) :
    '\n' ∉ (row.text (.ofSites identifier sites)).toList := by
  cases row with
  | title =>
    show '\n' ∉ ("Callers of method " ++ identifier).toList
    rw [String.toList_append, List.mem_append]
    refine not_or.mpr ⟨?_, title⟩
    decide
  | blank => exact List.not_mem_nil
  | file name =>
    obtain ⟨site, known, rfl⟩ := exists_site_of_file_mem_layout member
    rw [ReportRow.text, String.toList_append, List.mem_append]
    refine not_or.mpr ⟨(plain site known).file, ?_⟩
    decide
  | site site => exact notMem_row (plain site (mem_of_site_mem_layout member))
  | footer => exact notMem_footer _ _

theorem notMem_texts :
    ∀ text ∈ (CallerReport.ofSites identifier sites).layout.map fun row =>
      (row.text (.ofSites identifier sites)).toList, '\n' ∉ text := by
  intro text member
  obtain ⟨row, present, rfl⟩ := List.mem_map.mp member
  exact notMem_text title plain present

/-- The lines of the text of a report are its rows. -/
theorem splitLines_render :
    Text.splitLines (CallerReport.ofSites identifier sites).render.toList =
      (CallerReport.ofSites identifier sites).layout.map
        (ReportRow.line (.ofSites identifier sites)) := by
  rw [CallerReport.toList_render, Text.splitLines_rows (notMem_texts title plain), List.map_map]
  rfl

/-- A click on a row of a report is read from the line of the row and the lines above. -/
theorem parseCallerClick_render (row : Nat) (selection : Option Selection) :
    parseCallerClick (CallerReport.ofSites identifier sites).render row selection =
      (CallerReport.ofSites identifier sites).layout[row]?.bind fun current =>
        linkOfRow ((CallerReport.ofSites identifier sites).linesAbove row)
          (current.line (.ofSites identifier sites)) selection := by
  unfold parseCallerClick CallerReport.linesAbove
  simp only [splitLines_render title plain, List.getElem?_map, ← List.map_take]
  cases (CallerReport.ofSites identifier sites).layout[row]? <;> rfl

end Lines

end CallAtlas
