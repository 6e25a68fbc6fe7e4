import CallAtlas.Proofs.Report.Link

/-!
# Reading reports back

Clicks on all rows of a report give the call sites back, file by file, when no name of a file could
be taken for another row and no text is changed by the ends of lines.
-/

namespace CallAtlas

theorem withoutSlash_ne_empty {name : String} (named : name ≠ "") (noRoot : name ≠ "/") :
    withoutSlash name ≠ "" := by
  intro empty
  have empty : (withoutSlash name).toList = [] := by rw [empty]; rfl
  rw [withoutSlash, String.toList_ofList, dropSlash.eq_def] at empty
  split at empty
  · rename_i rest whole
    subst empty
    exact noRoot (String.toList_inj.mp whole)
  · exact named (String.toList_inj.mp empty)

/-- The link of a call site whose whole text is covered. -/
def CallSite.link (site : CallSite) : CallerLink :=
  ⟨withoutSlash site.file, site.line, 0, UInt32.ofNat (site.text.getD "").length⟩

/-- The link of a row of a report of which nothing is selected. -/
def ReportRow.link? : ReportRow → Option CallerLink
  | .site caller => some caller.link
  | .title | .blank | .file _ | .footer => none

/-- What makes the row of a call site lead back to it. -/
structure CallSite.IsLinkable (site : CallSite) : Prop extends site.IsPlain where
  named : site.file ≠ ""
  noRoot : site.file ≠ "/"
  visible : startsBlank site.file = false
  undivided : ¬ [':', ' '] <:+: site.file.toList
  kept : (site.text.getD "").toList.getLast? ≠ some '\r'
  short : (site.text.getD "").length < UInt32.size

instance (site : CallSite) : Decidable site.IsLinkable :=
  decidable_of_iff
    (site.IsPlain ∧ site.file ≠ "" ∧ site.file ≠ "/" ∧ startsBlank site.file = false ∧
      (¬ [':', ' '] <:+: site.file.toList) ∧ (site.text.getD "").toList.getLast? ≠ some '\r' ∧
      (site.text.getD "").length < UInt32.size)
    ⟨fun ⟨plain, named, noRoot, visible, undivided, kept, short⟩ =>
      ⟨plain, named, noRoot, visible, undivided, kept, short⟩,
    fun linkable =>
      ⟨linkable.toIsPlain, linkable.named, linkable.noRoot, linkable.visible, linkable.undivided,
        linkable.kept, linkable.short⟩⟩

/-- The link of a click where nothing is selected on a row. -/
theorem linkOfRow_linkable {identifier : String} {sites : List CallSite} {row : Nat}
    {current : ReportRow} (linkable : ∀ site ∈ sites, site.IsLinkable)
    (here : (CallerReport.ofSites identifier sites).layout[row]? = some current) :
    linkOfRow ((CallerReport.ofSites identifier sites).linesAbove row)
        (current.line (.ofSites identifier sites)) none = current.link? := by
  have member := List.mem_of_getElem? here
  cases current with
  | title => exact linkOfRow_title _ _ none
  | blank =>
    rw [line_blank]
    rfl
  | file name =>
    obtain ⟨site, known, rfl⟩ := exists_site_of_file_mem_layout member
    rw [line_file, linkOfRow, splitRow?_colon_eq_none (linkable site known).undivided]
    rfl
  | site site =>
    have linkable := linkable site (mem_of_site_mem_layout member)
    rw [linkOfRow_site here linkable.visible, Text.dropReturn_of_ne linkable.kept]
    simp only [withoutSlash_ne_empty linkable.named linkable.noRoot, if_false, coveredColumns,
      String.length_toList]
    rfl
  | footer => exact linkOfRow_footer _ _ none

/-- The rows that links are read from are those of the sites by file. -/
theorem filterMap_link_layout (identifier : String) (sites : List CallSite) :
    (CallerReport.ofSites identifier sites).layout.filterMap ReportRow.link? =
      ((filesOf sites).flatMap (sitesIn sites)).map CallSite.link := by
  have shown (row : ReportRow) : row.link? = row.caller?.map CallSite.link := by
    cases row <;> rfl
  have callers := CallerReport.filterMap_caller_layout (.ofSites identifier sites)
  rw [CallerReport.ofSites, groupByFile_eq, List.flatMap_map] at callers
  rw [funext shown, ← List.map_filterMap, CallerReport.ofSites, groupByFile_eq, callers]

/-- Looking up the first positions of a list gives its first elements. -/
theorem filterMap_getElem?_range {α : Type} (l : List α) (count : Nat) :
    (List.range count).filterMap (l[·]?) = l.take count := by
  induction count with
  | zero => rfl
  | succ count ih =>
    rw [List.range_succ, List.filterMap_append, ih, List.take_add_one]
    cases here : l[count]? <;> simp [here]

/-- What clicks on the rows of a report read back of its call sites. -/
structure ReadsBack (identifier : String) (sites : List CallSite) : Prop where
  rows : (CallerReport.ofSites identifier sites).rows =
    (CallerReport.ofSites identifier sites).layout.map
      (ReportRow.text (.ofSites identifier sites))
  /-- Each row of a site has the link of that site, and no other row has one. -/
  clicks : ∀ row, parseCallerClick (CallerReport.ofSites identifier sites).render row none =
    (CallerReport.ofSites identifier sites).layout[row]?.bind ReportRow.link?
  /-- The links of all rows in their order are those of the sites, file by file. -/
  sequence : ∀ count, (CallerReport.ofSites identifier sites).rows.length ≤ count →
    (List.range count).filterMap
        (parseCallerClick (CallerReport.ofSites identifier sites).render · none) =
      ((filesOf sites).flatMap (sitesIn sites)).map CallSite.link
  /-- The columns of a link are those of the whole text. -/
  columns : ∀ site ∈ sites, site.link.endColumn.toNat = (site.text.getD "").length

/-- Every call site is read back from its row of the report, and nothing else is. -/
theorem readsBack {identifier : String} {sites : List CallSite}
    (title : '\n' ∉ identifier.toList) (linkable : ∀ site ∈ sites, site.IsLinkable) :
    ReadsBack identifier sites := by
  have clicks (row : Nat) :
      parseCallerClick (CallerReport.ofSites identifier sites).render row none =
        (CallerReport.ofSites identifier sites).layout[row]?.bind ReportRow.link? := by
    rw [parseCallerClick_render title (fun site member => (linkable site member).toIsPlain)]
    cases here : (CallerReport.ofSites identifier sites).layout[row]? with
    | none => rfl
    | some current => exact linkOfRow_linkable linkable here
  refine ⟨CallerReport.rows_eq_map_layout _, clicks, ?_, ?_⟩
  · intro count enough
    rw [CallerReport.rows_eq_map_layout, List.length_map] at enough
    have read : (List.range count).filterMap
          (fun row => (CallerReport.ofSites identifier sites).layout[row]?.bind ReportRow.link?) =
        ((List.range count).filterMap
          ((CallerReport.ofSites identifier sites).layout[·]?)).filterMap ReportRow.link? :=
      List.filterMap_filterMap.symm
    simp only [clicks]
    rw [read, filterMap_getElem?_range, List.take_of_length_le enough, filterMap_link_layout]
  · intro site member
    exact UInt32.toNat_ofNat_of_lt' (linkable site member).short

theorem readsBack_two_files :
    '\n' ∉ "f:".toList ∧
      (List.range 10).filterMap (parseCallerClick (CallerReport.ofSites "f:"
        [⟨"/ui.js", 40, none, some "g(x): y:"⟩, ⟨"b:c.js", 4294967295, none, none⟩,
          ⟨"/ui.js", 7, none, some "f"⟩]).render · none) =
        [⟨"ui.js", 40, 0, 8⟩, ⟨"ui.js", 7, 0, 1⟩, ⟨"b:c.js", 4294967295, 0, 0⟩] := by
  have title : '\n' ∉ "f:".toList := by decide
  have linkable : ∀ site ∈ ([⟨"/ui.js", 40, none, some "g(x): y:"⟩,
      ⟨"b:c.js", 4294967295, none, none⟩, ⟨"/ui.js", 7, none, some "f"⟩] : List CallSite),
      site.IsLinkable := by
    decide +kernel
  refine ⟨title, ((readsBack title linkable).sequence 10 ?_).trans ?_⟩
  · decide +kernel
  · decide +kernel

end CallAtlas
