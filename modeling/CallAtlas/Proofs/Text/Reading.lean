import CallAtlas.Proofs.Text.Numeral
import Mathlib.Data.List.Induction

/-!
# What is read as a word

The reader of 32-bit words takes digits behind at most one plus sign. Of all texts that it reads as
one word a single one has neither a sign nor zeros in front: the numeral of the word.
-/

namespace CallAtlas.Text

/-- Digits have a value, and nothing else has. -/
theorem digitsValue?_eq_some_iff {s : List Char} {before n : Nat} :
    digitsValue? before s = some n ↔
      (∀ c ∈ s, c.isDigit = true) ∧ Nat.ofDigitChars 10 s before = n := by
  induction s generalizing before with
  | nil => simp [digitsValue?]
  | cons c rest ih =>
    rw [digitsValue?, List.forall_mem_cons, Nat.ofDigitChars_cons]
    by_cases digit : c.isDigit = true
    · rw [if_pos digit, ih]
      simp [digit]
    · simp [digit]

/-- The reader takes digits behind at most one plus sign, and reads them as their value. -/
theorem readWord?_eq_some_iff {s : List Char} {word : UInt32} :
    readWord? s = some word ↔
      dropPlus s ≠ [] ∧ (∀ c ∈ dropPlus s, c.isDigit = true) ∧
        Nat.ofDigitChars 10 (dropPlus s) 0 = word.toNat := by
  have value : numeralValue? (dropPlus s) =
      if dropPlus s = [] then none else digitsValue? 0 (dropPlus s) := by
    cases dropPlus s <;> rfl
  rw [readWord?, value]
  by_cases empty : dropPlus s = []
  · simp [empty]
  · rw [if_neg empty]
    constructor
    · intro read
      obtain ⟨n, digits, read⟩ := Option.bind_eq_some_iff.mp read
      obtain ⟨each, rfl⟩ := digitsValue?_eq_some_iff.mp digits
      split at read
      · rename_i small
        obtain rfl := Option.some.inj read
        exact ⟨empty, each, (UInt32.toNat_ofNat_of_lt' small).symm⟩
      · cases read
    · rintro ⟨-, each, same⟩
      rw [digitsValue?_eq_some_iff.mpr ⟨each, same⟩, Option.bind_some, if_pos word.toNat_lt]
      simp

theorem mem_dropPlus {s : List Char} {c : Char} (member : c ∈ s) : c = '+' ∨ c ∈ dropPlus s := by
  unfold dropPlus
  split
  · exact List.mem_cons.mp member
  · exact .inr member

/-- Digits and a plus sign are all that is in a text that is read. -/
theorem notMem_of_readWord? {s : List Char} {word : UInt32} {c : Char}
    (read : readWord? s = some word) (noDigit : c.isDigit = false) (unsigned : c ≠ '+') :
    c ∉ s := by
  intro member
  have digit := (readWord?_eq_some_iff.mp read).2.1 c ((mem_dropPlus member).resolve_left unsigned)
  rw [digit] at noDigit
  cases noDigit

/-- Neither a sign nor a zero stands in front of the digits. -/
structure IsShortest (s : List Char) : Prop where
  unsigned : s.head? ≠ some '+'
  noZero : s.head? = some '0' → s = ['0']

theorem digitChar_of_isDigit {c : Char} (digit : c.isDigit = true) :
    c.toNat - 48 < 10 ∧ digitChar (c.toNat - 48) = c := by
  obtain ⟨low, high⟩ := Char.isDigit_iff_toNat.mp digit
  have low : 48 ≤ c.toNat := low
  have high : c.toNat ≤ 57 := high
  refine ⟨by omega, ?_⟩
  rw [digitChar, Nat.add_sub_cancel' low, Char.ofNat_toNat]

theorem ofDigitChars_concat (s : List Char) (c : Char) :
    Nat.ofDigitChars 10 (s ++ [c]) 0 = 10 * Nat.ofDigitChars 10 s 0 + (c.toNat - 48) := by
  rw [Nat.ofDigitChars_append, Nat.ofDigitChars_cons]
  rfl

theorem numeral_of_lt {n : Nat} (small : n < 10) : numeral n = [digitChar n] := by
  rw [numeral, if_pos small]

theorem numeral_concat {n d : Nat} (above : n ≠ 0) (small : d < 10) :
    numeral (10 * n + d) = numeral n ++ [digitChar d] := by
  rw [numeral, if_neg (by omega), show (10 * n + d) / 10 = n by omega,
    show (10 * n + d) % 10 = d by omega]

/-- Digits without a zero in front are the numeral of their value. -/
theorem numeral_ofDigitChars {s : List Char} (present : s ≠ [])
    (digits : ∀ c ∈ s, c.isDigit = true) (noZero : s.head? = some '0' → s = ['0']) :
    numeral (Nat.ofDigitChars 10 s 0) = s := by
  induction s using List.reverseRecOn with
  | nil => exact absurd rfl present
  | append_singleton front last ih =>
    obtain ⟨small, same⟩ := digitChar_of_isDigit (digits last (by simp))
    rw [ofDigitChars_concat]
    by_cases first : front = []
    · subst first
      rw [Nat.ofDigitChars_nil, Nat.mul_zero, Nat.zero_add, numeral_of_lt small, same]
      rfl
    · have nonzero : front.head? ≠ some '0' := by
        intro zero
        have whole : front ++ [last] = ['0'] := noZero (by rw [List.head?_append, zero]; rfl)
        exact first (by simpa using congrArg List.length whole)
      have own : numeral (Nat.ofDigitChars 10 front 0) = front :=
        ih first (fun c member => digits c (by simp [member])) fun zero => absurd zero nonzero
      have above : Nat.ofDigitChars 10 front 0 ≠ 0 := by
        intro zero
        rw [zero, numeral_of_lt (by decide)] at own
        exact nonzero (by rw [← own]; rfl)
      rw [numeral_concat above small, own, same]

/-- A numeral has a zero in front only if it is the one of zero. -/
theorem numeral_eq_of_head? {n : Nat} (zero : (numeral n).head? = some '0') :
    numeral n = ['0'] := by
  induction n using numeral.induct with
  | case1 n below =>
    rw [numeral_of_lt below] at zero ⊢
    exact congrArg (fun c => [c]) (Option.some.inj zero)
  | case2 n above ih =>
    rw [numeral, if_neg above, List.head?_append,
      Option.or_of_isSome (by simpa using numeral_ne_nil _)] at zero
    have value := digitsValue?_numeral (n / 10)
    rw [ih zero] at value
    have none : 0 = n / 10 := Option.some.inj value
    omega

theorem toList_toString (n : Nat) : (toString n).toList = numeral n := by
  rw [← ofNat_eq_repr, ofNat, String.toList_ofList]

theorem dropPlus_of_unsigned {s : List Char} (unsigned : s.head? ≠ some '+') : dropPlus s = s := by
  unfold dropPlus
  split
  · exact absurd rfl unsigned
  · rfl

theorem isShortest_numeral (n : Nat) : IsShortest (numeral n) where
  unsigned := by
    intro sign
    have digit := isDigit_of_mem_numeral (List.mem_of_head? sign)
    cases digit
  noZero := numeral_eq_of_head?

/-- Of all texts that are read as a word its numeral is the one with digits only, and no zero in
front of them. -/
theorem eq_numeral_iff {s : List Char} {word : UInt32} (read : readWord? s = some word) :
    s = numeral word.toNat ↔ IsShortest s := by
  constructor
  · rintro rfl
    exact isShortest_numeral _
  · rintro ⟨unsigned, noZero⟩
    obtain ⟨present, digits, value⟩ := readWord?_eq_some_iff.mp read
    rw [dropPlus_of_unsigned unsigned] at present digits value
    rw [← value, numeral_ofDigitChars present digits noZero]

end CallAtlas.Text
