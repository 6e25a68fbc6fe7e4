import CallAtlas.Text.Blank
import CallAtlas.Text.Numeral

/-!
# Reading numerals back

The numeral of a natural is its decimal representation, and the reader of 32-bit words reads the
numeral of a word as that word, also between blanks. It reads nothing that starts with a letter.
-/

namespace CallAtlas.Text

theorem digitChar_eq {d : Nat} (below : d < 10) : digitChar d = d.digitChar := by
  revert d
  decide

/-- The numeral is the one of the library. -/
theorem numeral_eq_toDigits (n : Nat) : numeral n = Nat.toDigits 10 n := by
  induction n using numeral.induct with
  | case1 n below =>
    rw [numeral, if_pos below, Nat.toDigits_of_lt_base below, digitChar_eq below]
  | case2 n above ih =>
    rw [numeral, if_neg above, ih, Nat.toDigits_of_base_le (by decide) (Nat.le_of_not_lt above),
      digitChar_eq (Nat.mod_lt n (by decide))]

theorem ofNat_eq_repr (n : Nat) : ofNat n = toString n :=
  congrArg String.ofList (numeral_eq_toDigits n)

theorem isDigit_of_mem_numeral {n : Nat} {c : Char} (member : c ∈ numeral n) :
    c.isDigit = true := by
  rw [numeral_eq_toDigits] at member
  exact Nat.isDigit_of_mem_toDigits (by decide) (by decide) member

theorem numeral_ne_nil (n : Nat) : numeral n ≠ [] := by
  rw [numeral_eq_toDigits]
  exact Nat.toDigits_ne_nil

/-- The value of digits is the one of the library. -/
theorem digitsValue?_of_digits {s : List Char} (digits : ∀ c ∈ s, c.isDigit = true) (value : Nat) :
    digitsValue? value s = some (Nat.ofDigitChars 10 s value) := by
  induction s generalizing value with
  | nil => rfl
  | cons c rest ih =>
    rw [digitsValue?, if_pos (digits c List.mem_cons_self), Nat.ofDigitChars_cons]
    exact ih (fun other member => digits other (List.mem_cons_of_mem c member)) _

theorem digitsValue?_numeral (n : Nat) : digitsValue? 0 (numeral n) = some n := by
  rw [digitsValue?_of_digits (fun _ => isDigit_of_mem_numeral), numeral_eq_toDigits,
    Nat.ofDigitChars_ten_toDigits]

/-- The reader reads what the writer wrote. -/
theorem readWord?_numeral (word : UInt32) : readWord? (numeral word.toNat) = some word := by
  have unsigned : dropPlus (numeral word.toNat) = numeral word.toNat := by
    unfold dropPlus
    split
    · rename_i rest same
      have digit := isDigit_of_mem_numeral (n := word.toNat) (c := '+') (by simp [same])
      simp at digit
    · rfl
  have value : numeralValue? (numeral word.toNat) = some word.toNat := by
    unfold numeralValue?
    split
    · rename_i empty
      exact absurd empty (numeral_ne_nil _)
    · exact digitsValue?_numeral _
  rw [readWord?, unsigned, value, Option.bind_some, if_pos word.toNat_lt]
  simp

/-! ## Between blanks -/

theorem isBlank_of_isDigit {c : Char} (digit : c.isDigit = true) : isBlank c = false := by
  obtain ⟨low, high⟩ := Char.isDigit_iff_toNat.mp digit
  have low : 48 ≤ c.toNat := low
  have high : c.toNat ≤ 57 := high
  simp only [isBlank, Ranges.has, blankRanges, List.any_cons, List.any_nil, Bool.or_eq_false_iff,
    Bool.and_eq_false_iff, decide_eq_false_iff_not, and_true]
  omega

theorem trimBlanks_of_visible {s : List Char} (visible : ∀ c ∈ s, isBlank c = false) :
    trimBlanks s = s := by
  have whole {t : List Char} (visible : ∀ c ∈ t, isBlank c = false) : t.dropWhile isBlank = t := by
    cases t with
    | nil => rfl
    | cons c rest => exact List.dropWhile_cons_of_neg (by simp [visible c List.mem_cons_self])
  rw [trimBlanks, whole visible, whole fun c member => visible c (List.mem_reverse.mp member),
    List.reverse_reverse]

theorem trimBlanks_cons_blank {c : Char} (blank : isBlank c = true) (s : List Char) :
    trimBlanks (c :: s) = trimBlanks s := by
  rw [trimBlanks, List.dropWhile_cons_of_pos blank, trimBlanks]

/-- A character that is not blank stays in front. -/
theorem trimBlanks_cons_visible {c : Char} (visible : isBlank c = false) (s : List Char) :
    ∃ behind, trimBlanks (c :: s) = c :: behind := by
  have kept : ¬ isBlank c = true := by simp [visible]
  rw [trimBlanks, List.dropWhile_cons_of_neg kept, List.reverse_cons]
  generalize s.reverse = t
  induction t with
  | nil => exact ⟨[], by rw [List.nil_append, List.dropWhile_cons_of_neg kept]; rfl⟩
  | cons d t ih =>
    rw [List.cons_append, List.dropWhile_cons]
    split
    · exact ih
    · exact ⟨t.reverse ++ [d], by simp⟩

theorem trimBlanks_numeral (n : Nat) : trimBlanks (numeral n) = numeral n :=
  trimBlanks_of_visible fun _ member => isBlank_of_isDigit (isDigit_of_mem_numeral member)

theorem head?_dropWhile_ne {p : Char → Bool} {c : Char} (dropped : p c = true) (s : List Char) :
    (s.dropWhile p).head? ≠ some c := by
  intro front
  have kept := List.head?_dropWhile_not p s
  rw [front] at kept
  simp [dropped] at kept

/-- No blank stands at the end of what is left between blanks. -/
theorem getLast?_trimBlanks {c : Char} (blank : isBlank c = true) (s : List Char) :
    (trimBlanks s).getLast? ≠ some c := by
  rw [trimBlanks, List.getLast?_reverse]
  exact head?_dropWhile_ne blank _

/-- No blank stands in front of what is left between blanks. -/
theorem head?_trimBlanks {c : Char} (blank : isBlank c = true) (s : List Char) :
    (trimBlanks s).head? ≠ some c := by
  rw [trimBlanks, List.head?_reverse]
  intro last
  -- What is dropped at the end leaves the other end as it is.
  have behind : (s.dropWhile isBlank).reverse.dropWhile isBlank <:+ (s.dropWhile isBlank).reverse :=
    List.dropWhile_suffix isBlank
  obtain ⟨dropped, split⟩ := behind
  have whole : (s.dropWhile isBlank).reverse.getLast? = some c := by
    rw [← split, List.getLast?_append, last]
    rfl
  rw [List.getLast?_reverse] at whole
  exact head?_dropWhile_ne blank s whole

theorem readWord?_cons_eq_none {c : Char} (noDigit : c.isDigit = false) (unsigned : c ≠ '+')
    (s : List Char) : readWord? (c :: s) = none := by
  have same : dropPlus (c :: s) = c :: s := by
    unfold dropPlus
    split
    · rename_i equal
      exact absurd (List.cons.inj equal).1 unsigned
    · rfl
  rw [readWord?, same, numeralValue?, digitsValue?, noDigit]
  · rfl
  · exact List.cons_ne_nil c s

end CallAtlas.Text
