import CallAtlas.Proofs.Report.Link
import CallAtlas.Proofs.Text.Reading
import Mathlib.Data.List.TakeWhile

/-!
# Columns of links

A selection counts the columns of a row, and a link those of the source text behind the first colon
with a blank. The columns in front of the source text are taken off in bytes, so they are as many as
the characters there unless a blank outside of ASCII is among them.
-/

namespace CallAtlas

/-! ## Bytes and characters -/

theorem utf8Size_eq_one_iff {c : Char} : c.utf8Size = 1 ↔ c.toNat < 128 := by
  rw [Char.utf8Size_eq_one_iff, UInt32.le_iff_toNat_le]
  exact Nat.lt_succ_iff.symm

theorem length_le_byteLength (s : List Char) : s.length ≤ byteLength s := by
  induction s with
  | nil => exact Nat.le_refl 0
  | cons c rest ih =>
    have positive := c.utf8Size_pos
    rw [List.length_cons, byteLength]
    omega

/-- A text has as many bytes as characters if all of them are in ASCII. -/
theorem byteLength_eq_length_iff {s : List Char} :
    byteLength s = s.length ↔ ∀ c ∈ s, c.toNat < 128 := by
  induction s with
  | nil => simp [byteLength]
  | cons c rest ih =>
    have positive := c.utf8Size_pos
    have least := length_le_byteLength rest
    rw [List.forall_mem_cons, ← ih, ← utf8Size_eq_one_iff, List.length_cons, byteLength]
    omega

theorem toNat_columnFrom (offset column : UInt32) :
    (columnFrom offset column).toNat = column.toNat - offset.toNat := by
  unfold columnFrom
  split
  · rename_i above
    exact UInt32.toNat_sub_of_le _ _ above
  · rename_i below
    rw [UInt32.le_iff_toNat_le] at below
    rw [UInt32.toNat_zero]
    omega

/-! ## Rows with a source text -/

/-- A row is split at its first colon with a blank. -/
theorem length_le_of_splitRow? {row front behind before after : List Char}
    (split : splitRow? row = some (front, behind)) (other : row = before ++ ':' :: ' ' :: after) :
    front.length ≤ before.length := by
  fun_induction splitRow? row generalizing front before with
  | case1 => cases split
  | case2 rest =>
    cases split
    exact Nat.zero_le _
  | case3 c rest apart ih =>
    obtain ⟨⟨own, source⟩, found, same⟩ := Option.map_eq_some_iff.mp split
    cases same
    cases before with
    | nil =>
      obtain ⟨rfl, rfl⟩ := List.cons.inj other
      exact (apart _ rfl rfl).elim
    | cons d before =>
      exact Nat.succ_le_succ (ih found (List.cons.inj other).2)

/-- What is trimmed of a text stands at its ends and is blank. -/
theorem exists_append_trimBlanks (s : List Char) :
    ∃ before behind, s = before ++ Text.trimBlanks s ++ behind ∧
      (∀ c ∈ before, Text.isBlank c = true) ∧ ∀ c ∈ behind, Text.isBlank c = true := by
  refine ⟨s.takeWhile Text.isBlank,
    ((s.dropWhile Text.isBlank).reverse.takeWhile Text.isBlank).reverse,
    ?_, fun c member => List.mem_takeWhile_imp member,
    fun c member => List.mem_takeWhile_imp (List.mem_reverse.mp member)⟩
  rw [Text.trimBlanks, List.append_assoc, ← List.reverse_append, List.takeWhile_append_dropWhile,
    List.reverse_reverse, List.takeWhile_append_dropWhile]

/-- All that stands around the number of a row outside of ASCII is blank. -/
theorem isBlank_of_readWord? {front : List Char} {line : UInt32}
    (number : Text.readWord? (Text.trimBlanks front) = some line) {c : Char} (member : c ∈ front)
    (wide : 128 ≤ c.toNat) : Text.isBlank c = true := by
  obtain ⟨before, behind, whole, blankBefore, blankBehind⟩ := exists_append_trimBlanks front
  rw [whole, List.mem_append, List.mem_append] at member
  have noDigit : c.isDigit = false := by
    rw [Bool.eq_false_iff]
    intro digit
    have small : c.toNat ≤ 57 := (Char.isDigit_iff_toNat.mp digit).2
    omega
  have unsigned : c ≠ '+' := by
    rintro rfl
    exact absurd wide (by decide)
  rcases member with (member | member) | member
  · exact blankBefore c member
  · exact absurd member (Text.notMem_of_readWord? number noDigit unsigned)
  · exact blankBehind c member

/-- A row of a text with a source text behind its first colon with a blank. -/
structure ShowsSource (text : String) (row : Nat) (front source : List Char) : Prop where
  here : (Text.splitLines text.toList)[row]? = some (front ++ ':' :: ' ' :: source)
  first : ∀ before behind, front ++ ':' :: ' ' :: source = before ++ ':' :: ' ' :: behind →
    front.length ≤ before.length

theorem showsSource_of_splitRow? {text : String} {row : Nat} {front source : List Char}
    (here : (Text.splitLines text.toList)[row]? = some (front ++ ':' :: ' ' :: source))
    (split : splitRow? (front ++ ':' :: ' ' :: source) = some (front, source)) :
    ShowsSource text row front source :=
  ⟨here, fun _ _ other => length_le_of_splitRow? split other⟩

/-- A row has one source text at most. -/
theorem ShowsSource.eq {text : String} {row : Nat} {front source other behind : List Char}
    (shows : ShowsSource text row front source) (again : ShowsSource text row other behind) :
    front = other ∧ source = behind := by
  have same : front ++ ':' :: ' ' :: source = other ++ ':' :: ' ' :: behind :=
    Option.some.inj (shows.here.symm.trans again.here)
  have long : front.length = other.length :=
    Nat.le_antisymm (shows.first _ _ same) (again.first _ _ same.symm)
  obtain ⟨fronts, sources⟩ := List.append_inj same long
  exact ⟨fronts, (List.cons.inj (List.cons.inj sources).2).2⟩

/-- The links of a row with one all have its path and its line. -/
theorem exists_of_parseCallerClick {text : String} {row : Nat} {link : CallerLink}
    (clicked : parseCallerClick text row none = some link) :
    ∃ front source, ShowsSource text row front source ∧
      Text.readWord? (Text.trimBlanks front) = some link.line ∧
      ∀ selection, parseCallerClick text row selection =
        some ⟨link.path, link.line, (coveredColumns front source selection).first,
          (coveredColumns front source selection).last⟩ := by
  obtain ⟨current, here, linked⟩ := Option.bind_eq_some_iff.mp clicked
  obtain ⟨⟨front, source⟩, split, read⟩ := Option.bind_eq_some_iff.mp linked
  obtain ⟨line, number, -⟩ := Option.bind_eq_some_iff.mp read
  obtain rfl := eq_append_of_splitRow? split
  rw [linkOfRow_of_split split number] at linked
  obtain ⟨header, found, linked⟩ := Option.bind_eq_some_iff.mp linked
  split at linked
  · cases linked
  rename_i named
  obtain rfl := Option.some.inj linked
  refine ⟨front, source, showsSource_of_splitRow? here split, number, fun selection => ?_⟩
  rw [parseCallerClick]
  simp only [here, Option.bind_eq_bind, Option.bind_some, linkOfRow_of_split split number, found,
    if_neg named]

/-- The counts of a row are columns: of the whole row, and of the bytes in front of its text. -/
structure FitsColumns (front source : List Char) : Prop where
  row : front.length + 2 + source.length < UInt32.size
  offset : byteLength front + 2 < UInt32.size

/-- The columns of the links of a row that has one. -/
structure ShiftsColumns (text : String) (row : Nat) (link : CallerLink)
    (front source : List Char) : Prop where
  /-- Without a selection all characters of the source text are covered. -/
  covered : link.startColumn.toNat = 0 ∧ link.endColumn.toNat = source.length
  /-- A selection is shifted by the bytes in front of the source text, and changes nothing else. -/
  shifted : ∀ selection, ∃ own, parseCallerClick text row (some selection) = some own ∧
    own.path = link.path ∧ own.line = link.line ∧
    own.startColumn.toNat = selection.first.toNat - (byteLength front + 2) ∧
    own.endColumn.toNat = selection.last.toNat - (byteLength front + 2)
  /-- These are the characters in front of it if all of them are in ASCII, and more otherwise. -/
  counted : front.length ≤ byteLength front ∧
    (byteLength front = front.length ↔ ∀ c ∈ front, c.toNat < 128)
  /-- Only blanks can be outside of ASCII there. -/
  blank : ∀ c ∈ front, 128 ≤ c.toNat → Text.isBlank c = true
  /-- The selection of the whole source text has the link of no selection if there are none of them,
  or if there is no text, and not otherwise. -/
  whole : parseCallerClick text row
      (some ⟨UInt32.ofNat (front.length + 2), UInt32.ofNat (front.length + 2 + source.length)⟩) =
        some link ↔ (∀ c ∈ front, c.toNat < 128) ∨ source = []

/-- The links of a row differ in their columns only, and those of a selection are its own columns
less the bytes in front of the source text. -/
theorem shiftsColumns {text : String} {row : Nat} {link : CallerLink}
    (clicked : parseCallerClick text row none = some link) :
    ∃ front source, ShowsSource text row front source ∧
      (FitsColumns front source → ShiftsColumns text row link front source) := by
  obtain ⟨front, source, shows, number, linked⟩ := exists_of_parseCallerClick clicked
  refine ⟨front, source, shows, fun fits => ?_⟩
  have least := length_le_byteLength front
  have size (n : Nat) (small : n < UInt32.size) : (UInt32.ofNat n).toNat = n :=
    UInt32.toNat_ofNat_of_lt' small
  have offset := size _ fits.offset
  obtain ⟨path, line, start, stop⟩ := link
  have own := (linked none).symm.trans clicked
  obtain ⟨-, -, rfl, rfl⟩ := CallerLink.mk.inj (Option.some.inj own)
  have last : (coveredColumns front source none).last.toNat = source.length :=
    size _ (by have row := fits.row; omega)
  refine ⟨⟨rfl, last⟩, fun selection => ?_, ⟨least, byteLength_eq_length_iff⟩,
    fun c => isBlank_of_readWord? number, ?_⟩
  · refine ⟨_, linked (some selection), rfl, rfl, ?_, ?_⟩
    · exact (toNat_columnFrom _ _).trans (by rw [offset])
    · exact (toNat_columnFrom _ _).trans (by rw [offset])
  · rw [linked, ← byteLength_eq_length_iff, ← List.length_eq_zero_iff]
    simp only [Option.some.injEq, CallerLink.mk.injEq, true_and, ← UInt32.toNat_inj, last]
    simp only [coveredColumns, toNat_columnFrom, offset, size _ fits.row,
      size (front.length + 2) (by have row := fits.row; omega), UInt32.toNat_zero]
    omega

/-- A row that is indented by a tab, with a text that is not in ASCII. -/
theorem shiftsColumns_indented :
    parseCallerClick "a.js:\n\t7: é: x" 1 none = some ⟨"a.js", 7, 0, 4⟩ ∧
      FitsColumns ['\t', '7'] ['é', ':', ' ', 'x'] ∧
      ShiftsColumns "a.js:\n\t7: é: x" 1 ⟨"a.js", 7, 0, 4⟩ ['\t', '7'] ['é', ':', ' ', 'x'] := by
  have clicked : parseCallerClick "a.js:\n\t7: é: x" 1 none = some ⟨"a.js", 7, 0, 4⟩ := by
    decide +kernel
  have fits : FitsColumns ['\t', '7'] ['é', ':', ' ', 'x'] := ⟨by decide, by decide⟩
  have own : ShowsSource "a.js:\n\t7: é: x" 1 ['\t', '7'] ['é', ':', ' ', 'x'] :=
    showsSource_of_splitRow? (by decide +kernel) rfl
  obtain ⟨front, source, shows, shifts⟩ := shiftsColumns clicked
  obtain ⟨rfl, rfl⟩ := shows.eq own
  exact ⟨clicked, fits, shifts fits⟩

/-- Behind a blank of two bytes the selection of a whole source text covers one character less. -/
theorem columns_behind_wide_blank :
    ShowsSource "a.js:\n\u00a07: foo" 1 ['\u00a0', '7'] ['f', 'o', 'o'] ∧
      FitsColumns ['\u00a0', '7'] ['f', 'o', 'o'] ∧
      parseCallerClick "a.js:\n\u00a07: foo" 1 none = some ⟨"a.js", 7, 0, 3⟩ ∧
      parseCallerClick "a.js:\n\u00a07: foo" 1 (some ⟨4, 4 + 3⟩) = some ⟨"a.js", 7, 0, 2⟩ := by
  refine ⟨showsSource_of_splitRow? (by decide +kernel) rfl, ⟨by decide, by decide⟩, ?_, ?_⟩
  · decide +kernel
  · decide +kernel

end CallAtlas
