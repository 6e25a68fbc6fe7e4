/-!
# Byte order

Texts are ordered by their characters. That is the order of their bytes: the first byte of a
character tells how long it is, and longer characters have higher code points, so the first
difference between two texts is seen in the bytes as it is seen in the characters.
-/

namespace CallAtlas.Text

/-- The bytes of a text in UTF-8. -/
def bytes (s : String) : List UInt8 :=
  s.toUTF8.data.toList

theorem bytes_eq_flatMap (s : String) : bytes s = s.toList.flatMap String.utf8EncodeChar := by
  have encoded : s.toUTF8 = (s.toList.flatMap String.utf8EncodeChar).toByteArray := by
    conv => lhs; rw [← String.ofList_toList (s := s)]
    exact String.toByteArray_ofList
  rw [bytes, encoded, List.data_toByteArray]

theorem byte_cons_lt_iff {x y : Nat} (s t : List UInt8) (low : x < 256) (high : y < 256) :
    UInt8.ofNat x :: s < UInt8.ofNat y :: t ↔ x < y ∨ x = y ∧ s < t := by
  rw [List.cons_lt_cons_iff, UInt8.lt_iff_toNat_lt, ← UInt8.toNat_inj,
    UInt8.toNat_ofNat_of_lt' low, UInt8.toNat_ofNat_of_lt' high]

/-- Of two different characters the lower has the lower bytes, whatever follows them. -/
theorem utf8EncodeChar_lt {c d : Char} (below : c < d) (s t : List UInt8) :
    String.utf8EncodeChar c ++ s < String.utf8EncodeChar d ++ t := by
  have below : c.val.toNat < d.val.toNat := below
  have bound : d.val.toNat < 1114112 := by
    rcases d.valid with low | high
    · exact Nat.lt_trans low (by decide)
    · exact high.2
  have second (n : Nat) : n / 4096 = n / 64 / 64 := (Nat.div_div_eq_div_mul n 64 64).symm
  have third (n : Nat) : n / 262144 = n / 64 / 64 / 64 := by
    rw [← second, Nat.div_div_eq_div_mul]
  unfold String.utf8EncodeChar
  generalize c.val.toNat = v at below
  generalize d.val.toNat = w at below bound
  dsimp only
  -- By the number of bytes of both: fewer bytes have a lower first byte, and as many bytes are the
  -- digits of the two code points.
  repeat' split
  all_goals
    simp (disch := omega) only [List.cons_append, byte_cons_lt_iff, second, third]
    omega

theorem flatMap_utf8EncodeChar_lt {s t : List Char} (below : s < t) :
    s.flatMap String.utf8EncodeChar < t.flatMap String.utf8EncodeChar := by
  induction below with
  | nil =>
    rename_i c rest
    rw [List.flatMap_nil, List.flatMap_cons]
    obtain ⟨first, others, encoded⟩ :=
      List.exists_cons_of_ne_nil (String.utf8EncodeChar_ne_nil (c := c))
    rw [encoded]
    exact List.nil_lt_cons _ _
  | rel below =>
    rw [List.flatMap_cons, List.flatMap_cons]
    exact utf8EncodeChar_lt below _ _
  | cons below ih =>
    rw [List.flatMap_cons, List.flatMap_cons]
    exact List.append_left_lt ih

/-- The order of texts is the order of their bytes. -/
theorem lt_iff_bytes_lt {s t : String} : s < t ↔ bytes s < bytes t := by
  have bytes_lt {s t : String} (below : s < t) : bytes s < bytes t := by
    rw [bytes_eq_flatMap, bytes_eq_flatMap]
    exact flatMap_utf8EncodeChar_lt below
  refine ⟨bytes_lt, fun below => ?_⟩
  refine Decidable.byContradiction fun notBelow => ?_
  by_cases same : s = t
  · rw [same] at below
    exact List.lt_irrefl _ below
  · have above : t < s := Std.lt_of_le_of_ne (String.not_lt.mp notBelow) (Ne.symm same)
    exact List.lt_asymm below (bytes_lt above)

end CallAtlas.Text
