import RecordSearch.Proofs.ValueOrder

/-! The bytes of texts.

    UTF-8 was laid out so that the order of code points is the order of bytes: more bytes have a
    greater first byte, and among as many bytes the digits of the code point to the base 64 stand
    from the highest to the lowest.

        code point          bytes
        U+0000 … U+007F     0…
        U+0080 … U+07FF     110…  10…
        U+0800 … U+FFFF     1110… 10… 10…
        U+10000 … U+10FFFF  11110… 10… 10… 10…

    So comparing texts by code points is comparing them by their bytes. -/

namespace RecordSearch.Text

/-- The UTF-8 bytes of a text. -/
def bytes (s : String) : List UInt8 := s.toUTF8.data.toList

theorem bytes_eq (s : String) : bytes s = s.toList.flatMap String.utf8EncodeChar := by
  rw [bytes, String.toUTF8_eq_toByteArray, ← String.utf8Encode_toList, List.utf8Encode,
    List.toList_data_toByteArray]

/-- Four digits to the base 64 decide from the highest to the lowest. -/
theorem digits_lt {m n : ℕ} (h : m < n) :
    m / 262144 < n / 262144 ∨ m / 262144 = n / 262144 ∧
      (m / 4096 % 64 < n / 4096 % 64 ∨ m / 4096 % 64 = n / 4096 % 64 ∧
        (m / 64 % 64 < n / 64 % 64 ∨ m / 64 % 64 = n / 64 % 64 ∧ m % 64 < n % 64)) := by
  have digit {m n : ℕ} (h : m < n) : m / 64 < n / 64 ∨ m / 64 = n / 64 ∧ m % 64 < n % 64 := by
    omega
  have nested (r : ℕ) : r / 4096 = r / 64 / 64 ∧ r / 262144 = r / 64 / 64 / 64 := by
    rw [Nat.div_div_eq_div_mul, Nat.div_div_eq_div_mul]
    exact ⟨rfl, rfl⟩
  rw [(nested m).1, (nested m).2, (nested n).1, (nested n).2]
  rcases digit h with h | ⟨same, less⟩
  · rcases digit h with h | ⟨same, less⟩
    · rcases digit h with h | ⟨same, less⟩
      · exact .inl h
      · exact .inr ⟨same, .inl less⟩
    · exact .inr ⟨by rw [same], .inr ⟨by rw [same], .inl less⟩⟩
  · exact .inr ⟨by rw [same], .inr ⟨by rw [same], .inr ⟨by rw [same], less⟩⟩⟩

/-- A character with a smaller code point has the smaller bytes, whatever follows. -/
theorem utf8EncodeChar_append_lt {c d : Char} (h : c.toNat < d.toNat) (xs ys : List UInt8) :
    String.utf8EncodeChar c ++ xs < String.utf8EncodeChar d ++ ys := by
  have limit : d.val.toNat < 0x110000 := by
    rcases d.valid with h | h
    · exact Nat.lt_trans h (by decide)
    · exact h.2
  change c.val.toNat < d.val.toNat at h
  simp only [String.utf8EncodeChar]
  generalize c.val.toNat = m at *
  generalize d.val.toNat = n at *
  have places := digits_lt h
  -- no byte overflows, and four bytes are enough for all digits
  have byte (k lead r : ℕ) (hk : 0 < k) (fits : k + lead ≤ 2 ^ 8) :
      (r % k + lead) % 2 ^ 8 = r % k + lead :=
    Nat.mod_eq_of_lt (by have := Nat.mod_lt r hk; omega)
  have top {r : ℕ} (h : r < 0x110000) : (r / 262144 % 8 + 0xf0) % 2 ^ 8 = r / 262144 + 0xf0 := by
    rw [Nat.mod_eq_of_lt (a := r / 262144) (by omega), Nat.mod_eq_of_lt (by omega)]
  repeat' split
  all_goals
    simp only [List.cons_append, List.nil_append, List.cons_lt_cons_iff, UInt8.lt_iff_toNat_lt,
      ← UInt8.toNat_inj, UInt8.toNat_ofNat', byte 0x40 0x80 _ (by decide) (by decide),
      byte 0x20 0xc0 _ (by decide) (by decide), byte 0x10 0xe0 _ (by decide) (by decide),
      top limit, top (h.trans limit)]
    omega

theorem append_lt_append_iff (xs ys zs : List UInt8) : xs ++ ys < xs ++ zs ↔ ys < zs := by
  induction xs with
  | nil => rfl
  | cons x xs ih => rw [List.cons_append, List.cons_append, List.cons_lt_cons_self, ih]

/-- The order by code points is the order of the bytes. -/
theorem compare_eq_lt_iff (a b : List Char) :
    compare a b = .lt ↔ a.flatMap String.utf8EncodeChar < b.flatMap String.utf8EncodeChar := by
  induction a generalizing b with
  | nil =>
    cases b with
    | nil => simp [compare]
    | cons d b =>
      obtain ⟨byte, rest, bytes⟩ :=
        List.exists_cons_of_ne_nil (String.utf8EncodeChar_ne_nil (c := d))
      rw [List.flatMap_cons, bytes]
      exact iff_of_true rfl (List.nil_lt_cons ..)
  | cons c a ih =>
    cases b with
    | nil => simp [compare]
    | cons d b =>
      rw [List.flatMap_cons, List.flatMap_cons, compare]
      rcases lt_trichotomy c.toNat d.toNat with less | same | greater
      · rw [Nat.compare_eq_lt.2 less]
        exact iff_of_true rfl (utf8EncodeChar_append_lt less _ _)
      · obtain rfl := Char.toNat_inj.1 same
        rw [Nat.compare_eq_eq.2 rfl, Ordering.eq_then, ih b]
        exact (append_lt_append_iff ..).symm
      · rw [Nat.compare_eq_gt.2 greater]
        exact iff_of_false (by simp) (List.lt_asymm (utf8EncodeChar_append_lt greater _ _))

/-- The order of texts is the order of their bytes. -/
theorem compare_toList_eq_lt_iff (s t : String) :
    compare s.toList t.toList = .lt ↔ bytes s < bytes t := by
  rw [compare_eq_lt_iff, bytes_eq, bytes_eq]

theorem bytes_inj {s t : String} : bytes s = bytes t ↔ s = t := by
  rw [bytes, bytes, String.toUTF8_eq_toByteArray, String.toUTF8_eq_toByteArray, Array.toList_inj,
    ← ByteArray.ext_iff, String.toByteArray_inj]

end RecordSearch.Text
