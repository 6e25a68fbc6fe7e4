import CallAtlas.Proofs.Basic
import CallAtlas.Proofs.Report.Layout
import Mathlib.Algebra.GroupWithZero.Nat

/-!
# Reports as partitions

A report takes every call site into the group of its file, once and unchanged, and its groups stand
in the order in which their files first occur. The numbers of the footer, which are not counted on
the groups, are those of the sites and of the groups, and the text shows a row for each of them.
-/

namespace CallAtlas

/-! ## Sites in groups -/

/-- A site that is added stands among the sites of all groups. -/
theorem perm_addSite (site : CallSite) (groups : List FileGroup) :
    ((addSite site groups).flatMap FileGroup.sites).Perm
      (groups.flatMap FileGroup.sites ++ [site]) := by
  induction groups with
  | nil => exact .refl _
  | cons group rest ih =>
    rw [addSite]
    split
    · rw [List.flatMap_cons, List.flatMap_cons, List.append_assoc, List.append_assoc]
      exact List.perm_append_comm.append_left group.sites
    · rw [List.flatMap_cons, List.flatMap_cons, List.append_assoc]
      exact ih.append_left group.sites

/-- No call site is lost in the groups, and none is there twice. -/
theorem perm_groupByFile (sites : List CallSite) :
    ((groupByFile sites).flatMap FileGroup.sites).Perm sites := by
  induction sites using List.reverseRecOn with
  | nil => exact .refl _
  | append_singleton sites site ih =>
    have added : groupByFile (sites ++ [site]) = addSite site (groupByFile sites) :=
      List.foldl_concat _ _ _ _
    rw [added]
    exact (perm_addSite site _).trans (ih.append_right [site])

/-! ## Names of files -/

/-- The names of a list stand in the order in which another list first has them. -/
def InOrderOf (all names : List String) : Prop :=
  names.Pairwise fun before behind => all.idxOf before < all.idxOf behind

theorem inOrderOf_filesOf (sites : List CallSite) :
    InOrderOf (sites.map CallSite.file) (filesOf sites) := by
  induction sites using List.reverseRecOn with
  | nil => exact .nil
  | append_singleton sites site ih =>
    have written {file : String} (known : file ∈ filesOf sites) :
        file ∈ sites.map CallSite.file := by
      obtain ⟨other, member, rfl⟩ := mem_filesOf.mp known
      exact List.mem_map_of_mem member
    have old : InOrderOf ((sites ++ [site]).map CallSite.file) (filesOf sites) := by
      refine List.Pairwise.imp_of_mem ?_ ih
      intro before behind first second below
      rwa [List.map_append, List.idxOf_append_of_mem (written first),
        List.idxOf_append_of_mem (written second)]
    rw [filesOf_concat]
    split
    · exact old
    · rename_i new
      refine List.pairwise_append.mpr ⟨old, List.pairwise_singleton _ _, ?_⟩
      intro before known last same
      obtain rfl := List.mem_singleton.mp same
      have unwritten : site.file ∉ sites.map CallSite.file := by
        intro member
        obtain ⟨other, present, equal⟩ := List.mem_map.mp member
        exact new (mem_filesOf.mpr ⟨other, present, equal⟩)
      rw [List.map_append, List.idxOf_append_of_mem (written known),
        List.idxOf_append_of_notMem unwritten]
      have inside := List.idxOf_lt_length_of_mem (written known)
      omega

theorem card_files (sites : List CallSite) :
    (sites.map CallSite.file).toFinset.card = (filesOf sites).length :=
  (length_eraseDups _).symm

theorem map_file_groupByFile (sites : List CallSite) :
    (groupByFile sites).map FileGroup.file = filesOf sites := by
  rw [groupByFile_eq, List.map_map]
  exact List.map_id _

/-! ## Rows of the text -/

namespace ReportRow

/-- The name in the row above the sites of a file. -/
def header? : ReportRow → Option String
  | .file name => some name
  | .title | .blank | .site .. | .footer => none

end ReportRow

namespace CallerReport

theorem filterMap_header_layout (report : CallerReport) :
    report.layout.filterMap ReportRow.header? = report.files.map FileGroup.file := by
  have group (group : FileGroup) : group.layout.filterMap ReportRow.header? = [group.file] := by
    simp [FileGroup.layout, ReportRow.header?, List.filterMap_map, Function.comp_def]
  rw [filterMap_layout ReportRow.header? rfl rfl rfl]
  simp only [group]
  exact List.map_eq_flatMap.symm

/-- Between the title and the footer there are headers and call sites only. -/
theorem exists_layout_eq (report : CallerReport) :
    ∃ rows, report.layout = [.title, .blank] ++ rows ++ [.blank, .footer] ∧
      ∀ row ∈ rows, row.header?.isSome ∨ row.caller?.isSome := by
  refine ⟨report.files.flatMap FileGroup.layout, rfl, ?_⟩
  intro row member
  obtain ⟨group, -, present⟩ := List.mem_flatMap.mp member
  rcases List.mem_cons.mp present with rfl | present
  · exact .inl rfl
  · obtain ⟨caller, -, rfl⟩ := List.mem_map.mp present
    exact .inr rfl

end CallerReport

/-- Rows with a line feed behind each are what stands between the line feeds. -/
theorem Text.splitOn_rows {rows : List (List Char)} (plain : ∀ row ∈ rows, '\n' ∉ row) :
    (rows.flatMap (· ++ ['\n'])).splitOn '\n' = rows ++ [[]] := by
  induction rows with
  | nil => rfl
  | cons row rows ih =>
    rw [List.flatMap_cons, List.append_assoc, List.singleton_append,
      List.splitOn_append_cons_self, List.splitOn_eq_singleton (plain row List.mem_cons_self),
      ih fun other member => plain other (List.mem_cons_of_mem row member)]
    rfl

/-! ## The partition -/

/-- How a report divides call sites by their files. -/
structure Partitions (sites : List CallSite) (report : CallerReport) : Prop where
  /-- No two groups are of the same file. -/
  distinct : (report.files.map FileGroup.file).Nodup
  /-- The groups stand in the order in which their files first occur. -/
  order : InOrderOf (sites.map CallSite.file) (report.files.map FileGroup.file)
  complete : ∀ file, file ∈ report.files.map FileGroup.file ↔ ∃ site ∈ sites, site.file = file
  filled : ∀ group ∈ report.files, group.sites ≠ []
  /-- A group has the sites of its file, as they are and in their own order. -/
  own : ∀ group ∈ report.files, group.sites = sites.filter fun site => site.file = group.file
  perm : (report.files.flatMap FileGroup.sites).Perm sites
  count : report.count = sites.length
  sum : report.count = (report.files.map fun group => group.sites.length).sum
  /-- The number of files is that of the different names. -/
  different : report.fileCount = (sites.map CallSite.file).toFinset.card
  fileCount : report.fileCount = report.files.length

/-- What the text of a report shows of its groups and numbers. -/
structure ShowsGroups (report : CallerReport) : Prop where
  /-- The lines of the text, with the empty end behind the last line feed. -/
  lines : report.render.toList.splitOn '\n' =
    (report.layout.map fun row => (row.text report).toList) ++ [[]]
  /-- There is one header for each group, in their order. -/
  headers : report.layout.filterMap ReportRow.header? = report.files.map FileGroup.file
  header : ∀ name, (ReportRow.file name).text report = name ++ ":"
  /-- There is one row for each call site of each group, in their order. -/
  rows : report.layout.filterMap ReportRow.caller? = report.files.flatMap FileGroup.sites
  row : ∀ site : CallSite, (ReportRow.site site).text report =
    "  " ++ toString site.line.toNat ++ ": " ++ site.text.getD ""
  /-- Every call site stands below the header of its file. -/
  headed : Headed none report.layout
  /-- All other rows are the title, the footer and the blank rows beside them. -/
  frame : ∃ rows, report.layout = [.title, .blank] ++ rows ++ [.blank, .footer] ∧
    ∀ row ∈ rows, row.header?.isSome ∨ row.caller?.isSome
  footer : ReportRow.footer.text report =
    "Found " ++ toString report.count ++ " " ++
      (if report.count = 1 then "caller" else "callers") ++ " in " ++
        toString report.fileCount ++ " " ++ if report.fileCount = 1 then "file" else "files"

/-- What the report on the call sites of an identifier is. -/
structure GroupsByFile (identifier : String) (sites : List CallSite) : Prop where
  groups : Partitions sites (.ofSites identifier sites)
  /-- The text shows the groups as long as nothing in it breaks a line. -/
  text : '\n' ∉ identifier.toList → (∀ site ∈ sites, site.IsPlain) →
    ShowsGroups (.ofSites identifier sites)

theorem length_eq_sum (sites : List CallSite) : sites.length =
    ((groupByFile sites).map fun group => group.sites.length).sum := by
  rw [← List.length_flatMap]
  exact (perm_groupByFile sites).length_eq.symm

theorem length_groupByFile (sites : List CallSite) :
    (groupByFile sites).length = (filesOf sites).length := by
  rw [← map_file_groupByFile, List.length_map]

theorem partitions_ofSites (identifier : String) (sites : List CallSite) :
    Partitions sites (.ofSites identifier sites) where
  distinct := by
    rw [CallerReport.ofSites, map_file_groupByFile]
    exact nodup_filesOf sites
  order := by
    rw [CallerReport.ofSites, map_file_groupByFile]
    exact inOrderOf_filesOf sites
  complete := by
    intro file
    rw [CallerReport.ofSites, map_file_groupByFile, mem_filesOf]
  filled := by
    intro group member empty
    rw [CallerReport.ofSites, groupByFile_eq] at member
    obtain ⟨file, known, rfl⟩ := List.mem_map.mp member
    obtain ⟨site, present, same⟩ := mem_filesOf.mp known
    exact List.filter_eq_nil_iff.mp empty site present (by simpa using same)
  own := by
    intro group member
    rw [CallerReport.ofSites, groupByFile_eq] at member
    obtain ⟨file, -, rfl⟩ := List.mem_map.mp member
    rfl
  perm := perm_groupByFile sites
  count := rfl
  sum := length_eq_sum sites
  different := (card_files sites).symm
  fileCount := (length_groupByFile sites).symm

theorem showsGroups_ofSites {identifier : String} {sites : List CallSite}
    (title : '\n' ∉ identifier.toList) (plain : ∀ site ∈ sites, site.IsPlain) :
    ShowsGroups (.ofSites identifier sites) where
  lines := by
    rw [CallerReport.toList_render, Text.splitOn_rows (notMem_texts title plain)]
  headers := CallerReport.filterMap_header_layout _
  header := fun _ => rfl
  rows := CallerReport.filterMap_caller_layout _
  row := by
    intro site
    rw [ReportRow.text, CallSite.row, Text.ofWord, Text.ofNat_eq_repr]
    rfl
  headed := headed_layout identifier sites
  frame := CallerReport.exists_layout_eq _
  footer := by
    rw [ReportRow.text, CallerReport.footer, callersFooter, Text.ofNat_eq_repr, Text.ofNat_eq_repr]
    rfl

/-- A report divides its call sites by their files, and shows the groups with their numbers. -/
theorem groupsByFile (identifier : String) (sites : List CallSite) :
    GroupsByFile identifier sites where
  groups := partitions_ofSites identifier sites
  text := showsGroups_ofSites

/-- The text of a report on sites of two files in turns. -/
theorem groupsByFile_in_turns :
    '\n' ∉ "f".toList ∧
      (CallerReport.ofSites "f" [⟨"b.js", 7, none, some "f(x);"⟩, ⟨"a.js", 2, none, none⟩,
          ⟨"b.js", 5, some 3, some "f: y"⟩]).render.toList.splitOn '\n' =
        ["Callers of method f", "", "b.js:", "  7: f(x);", "  5: f: y", "a.js:", "  2: ", "",
          "Found 3 callers in 2 files", ""].map String.toList := by
  have title : '\n' ∉ "f".toList := by decide
  have plain : ∀ site ∈ ([⟨"b.js", 7, none, some "f(x);"⟩, ⟨"a.js", 2, none, none⟩,
      ⟨"b.js", 5, some 3, some "f: y"⟩] : List CallSite), site.IsPlain := by
    decide +kernel
  refine ⟨title, ((groupsByFile "f" _).text title plain).lines.trans ?_⟩
  decide +kernel

end CallAtlas
