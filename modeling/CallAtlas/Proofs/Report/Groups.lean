import CallAtlas.Report.Basic
import Mathlib.Data.List.Induction
import Mathlib.Data.List.Nodup

/-!
# Groups of call sites

The groups of a report are one for each file, in the order of their first sites, and each holds
exactly the sites of its file in their own order.
-/

namespace CallAtlas

/-- The files of call sites, each once, in the order of their first sites. -/
def filesOf (sites : List CallSite) : List String :=
  (sites.map CallSite.file).eraseDups

/-- The call sites of a file. -/
def sitesIn (sites : List CallSite) (file : String) : List CallSite :=
  sites.filter fun site => site.file = file

theorem mem_filesOf {sites : List CallSite} {file : String} :
    file ∈ filesOf sites ↔ ∃ site ∈ sites, site.file = file := by
  rw [filesOf, List.mem_eraseDups, List.mem_map]

theorem filesOf_concat (sites : List CallSite) (site : CallSite) :
    filesOf (sites ++ [site]) =
      if site.file ∈ filesOf sites then filesOf sites else filesOf sites ++ [site.file] := by
  unfold filesOf
  rw [List.map_append, List.eraseDups_append, List.map_singleton, List.removeAll]
  simp only [List.mem_eraseDups]
  generalize sites.map CallSite.file = files
  by_cases known : site.file ∈ files
  · rw [if_pos known, List.filter_cons_of_neg (by simpa using known)]
    exact List.append_nil _
  · rw [if_neg known, List.filter_cons_of_pos (by simpa using known)]
    rfl

theorem nodup_filesOf (sites : List CallSite) : (filesOf sites).Nodup := by
  induction sites using List.reverseRecOn with
  | nil => exact List.nodup_nil
  | append_singleton sites site ih =>
    rw [filesOf_concat]
    split
    · exact ih
    · rename_i new
      exact List.nodup_append.mpr ⟨ih, List.nodup_singleton _, by
        rintro file member _ same rfl
        exact new (List.mem_singleton.mp same ▸ member)⟩

theorem sitesIn_concat (sites : List CallSite) (site : CallSite) (file : String) :
    sitesIn (sites ++ [site]) file =
      sitesIn sites file ++ if site.file = file then [site] else [] := by
  unfold sitesIn
  rw [List.filter_append, List.filter_singleton]
  simp

/-- A site goes to the group of its file, or opens it behind the others. -/
theorem addSite_map (site : CallSite) {files : List String} (distinct : files.Nodup)
    (group : String → List CallSite) (bare : site.file ∉ files → group site.file = []) :
    addSite site (files.map fun file => ⟨file, group file⟩) =
      (if site.file ∈ files then files else files ++ [site.file]).map fun file =>
        ⟨file, group file ++ if site.file = file then [site] else []⟩ := by
  induction files with
  | nil => simp [addSite, bare]
  | cons first rest ih =>
    obtain ⟨missing, distinct⟩ := List.nodup_cons.mp distinct
    rw [List.map_cons, addSite]
    by_cases same : first = site.file
    · -- The site belongs to the first group, and the others stay as they are.
      subst same
      have others : ∀ file ∈ rest, site.file ≠ file := by
        rintro file member rfl
        exact missing member
      rw [if_pos rfl, if_pos List.mem_cons_self, List.map_cons, if_pos rfl]
      refine congrArg (List.cons _) (List.map_congr_left fun file member => ?_)
      rw [if_neg (others file member), List.append_nil]
    · have known : site.file ∈ first :: rest ↔ site.file ∈ rest := by
        rw [List.mem_cons, or_iff_right (Ne.symm same)]
      rw [if_neg same, ih distinct fun new => bare (known.not.mpr new)]
      simp only [known]
      split
      · rw [List.map_cons, if_neg (Ne.symm same), List.append_nil]
      · rw [List.cons_append, List.map_cons, if_neg (Ne.symm same), List.append_nil]

/-- The groups of call sites are their files with the sites of each. -/
theorem groupByFile_eq (sites : List CallSite) :
    groupByFile sites = (filesOf sites).map fun file => ⟨file, sitesIn sites file⟩ := by
  induction sites using List.reverseRecOn with
  | nil => rfl
  | append_singleton sites site ih =>
    have absent : site.file ∉ filesOf sites → sitesIn sites site.file = [] := by
      intro new
      rw [sitesIn, List.filter_eq_nil_iff]
      intro other member
      simpa using fun same => new (mem_filesOf.mpr ⟨other, member, same⟩)
    have added : groupByFile (sites ++ [site]) = addSite site (groupByFile sites) :=
      List.foldl_concat _ _ _ _
    rw [added, ih, addSite_map site (nodup_filesOf sites) _ absent, filesOf_concat]
    simp only [sitesIn_concat]

end CallAtlas
