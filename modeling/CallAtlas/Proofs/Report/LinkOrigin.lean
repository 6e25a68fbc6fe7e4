import CallAtlas.Proofs.Report.Link

/-!
# Where links come from

Whatever the names and texts of the call sites are, a link that a click on a report gives comes from
the row of a call site and has its line, or it comes from the row of a file whose name looks like
the row of a call site.
-/

namespace CallAtlas

/-- Whether a number stands in front of the first colon with a blank. -/
def startsWithNumber (row : List Char) : Bool :=
  ((splitRow? row).bind fun parts => Text.readWord? (Text.trimBlanks parts.1)).isSome

theorem startsWithNumber_of_linkOfRow {above : List (List Char)} {row : List Char}
    {selection : Option Selection} {link : CallerLink}
    (linked : linkOfRow above row selection = some link) : startsWithNumber row = true := by
  unfold linkOfRow at linked
  obtain ⟨⟨front, behind⟩, split, linked⟩ := Option.bind_eq_some_iff.mp linked
  obtain ⟨line, number, -⟩ := Option.bind_eq_some_iff.mp linked
  rw [startsWithNumber, split, Option.bind_some, number]
  rfl

/-- Where the link of a click on a report comes from. -/
inductive LinkOrigin (identifier : String) (sites : List CallSite) (row : Nat)
    (link : CallerLink) : Prop where
  /-- The row of a site, whose file is known if it does not start with a blank. -/
  | site (site : CallSite) (member : site ∈ sites)
      (here : (CallerReport.ofSites identifier sites).layout[row]? = some (.site site))
      (line : link.line = site.line)
      (path : startsBlank site.file = false → link.path = withoutSlash site.file)
  /-- The row of a file whose name looks like the row of a site. -/
  | file (site : CallSite) (member : site ∈ sites)
      (here : (CallerReport.ofSites identifier sites).layout[row]? = some (.file site.file))
      (numbered : startsWithNumber (site.file.toList ++ [':']) = true)

/-- A link comes from the row of a call site, or from the row of a file named like one. -/
theorem linkOrigin_of_parseCallerClick {identifier : String} {sites : List CallSite} {row : Nat}
    {selection : Option Selection} {link : CallerLink} (title : '\n' ∉ identifier.toList)
    (plain : ∀ site ∈ sites, site.IsPlain)
    (clicked : parseCallerClick (CallerReport.ofSites identifier sites).render row selection =
      some link) : LinkOrigin identifier sites row link := by
  rw [parseCallerClick_render title plain] at clicked
  obtain ⟨current, here, linked⟩ := Option.bind_eq_some_iff.mp clicked
  have member := List.mem_of_getElem? here
  cases current with
  | title =>
    rw [linkOfRow_title] at linked
    cases linked
  | blank =>
    rw [line_blank] at linked
    cases linked
  | file name =>
    obtain ⟨site, known, rfl⟩ := exists_site_of_file_mem_layout member
    have numbered := startsWithNumber_of_linkOfRow linked
    rw [line_file] at numbered
    exact .file site known here numbered
  | site site =>
    refine .site site (mem_of_site_mem_layout member) here ?_ ?_
    · rw [linkOfRow_of_split (splitRow?_site _ site) (readWord?_site site)] at linked
      obtain ⟨header, -, linked⟩ := Option.bind_eq_some_iff.mp linked
      split at linked
      · cases linked
      · cases linked
        rfl
    · intro visible
      rw [linkOfRow_site here visible] at linked
      dsimp only at linked
      split at linked
      · cases linked
      · cases linked
        rfl
  | footer =>
    rw [linkOfRow_footer] at linked
    cases linked

theorem linkOrigin_second_site :
    parseCallerClick (CallerReport.ofSites "f"
        [⟨"/ui.js", 40, none, some "g(x)"⟩, ⟨"/ui.js", 7, none, none⟩]).render 4 none =
      some ⟨"ui.js", 7, 0, 0⟩ ∧
    LinkOrigin "f" [⟨"/ui.js", 40, none, some "g(x)"⟩, ⟨"/ui.js", 7, none, none⟩] 4
      ⟨"ui.js", 7, 0, 0⟩ := by
  have title : '\n' ∉ "f".toList := by decide
  have plain : ∀ site ∈ ([⟨"/ui.js", 40, none, some "g(x)"⟩, ⟨"/ui.js", 7, none, none⟩] :
      List CallSite), site.IsPlain := by
    decide +kernel
  have clicked : parseCallerClick (CallerReport.ofSites "f"
      [⟨"/ui.js", 40, none, some "g(x)"⟩, ⟨"/ui.js", 7, none, none⟩]).render 4 none =
      some ⟨"ui.js", 7, 0, 0⟩ := by
    decide +kernel
  exact ⟨clicked, linkOrigin_of_parseCallerClick title plain clicked⟩

/-- The row of the file `7: b.js` is read as the row of a site of the file above it. -/
theorem link_of_file_row :
    let sites : List CallSite := [⟨"a.js", 1, none, none⟩, ⟨"7: b.js", 2, none, none⟩]
    let report := CallerReport.ofSites "f" sites
    (∀ site ∈ sites, site.IsPlain) ∧
      report.layout[4]? = some (.file "7: b.js") ∧ report.rows[4]? = some "7: b.js:" ∧
      (∀ site ∈ sites, site.row ≠ "7: b.js:" ∧ site.line ≠ 7) ∧
      parseCallerClick report.render 4 none = some ⟨"a.js", 7, 0, 5⟩ := by
  decide +kernel

-- A name that starts with a blank is not taken for a file: its site goes to the file above it.
example :
    parseCallerClick (CallerReport.ofSites "f"
      [⟨"a.js", 1, none, none⟩, ⟨" b.js", 2, none, none⟩]).render 5 none =
      some ⟨"a.js", 2, 0, 0⟩ := by
  decide +kernel

end CallAtlas
