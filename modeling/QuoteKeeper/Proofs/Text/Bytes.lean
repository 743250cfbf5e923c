import Mathlib.Data.String.Basic
import Mathlib.Data.List.Lex

/-!
# Texts in the order of their bytes

Texts are compared character by character. The bytes of a smaller character are smaller than those
of a larger one before either ends, so the order of two texts is that of their bytes.
-/

namespace QuoteKeeper

namespace Text

/-- The bytes of a text in UTF-8. -/
def bytes (s : String) : List UInt8 := s.toUTF8.data.toList

theorem bytes_eq (s : String) : bytes s = s.toList.flatMap String.utf8EncodeChar := by
  rw [bytes, String.toUTF8, ← String.utf8Encode_toList, List.utf8Encode, List.data_toByteArray]

theorem toNat_lt (c : Char) : c.val.toNat < 0x110000 := by
  have valid := c.valid
  simp only [UInt32.isValidChar, Nat.isValidChar] at valid
  omega

/-- What follows two different characters does not change the order of their bytes. -/
theorem encode_lt {c d : Char} (less : c < d) (xs ys : List UInt8) :
    String.utf8EncodeChar c ++ xs < String.utf8EncodeChar d ++ ys := by
  have values : c.val.toNat < d.val.toNat := less
  have bound := toNat_lt d
  -- Six bits at a time.
  have twice (n : Nat) : n / 4096 = n / 64 / 64 := by omega
  have thrice (n : Nat) : n / 262144 = n / 64 / 64 / 64 := by omega
  rw [String.utf8EncodeChar, String.utf8EncodeChar, twice, thrice, twice, thrice]
  split_ifs <;>
    simp only [List.cons_append, List.nil_append, List.cons_lt_cons_iff, UInt8.lt_iff_toNat_lt,
      ← UInt8.toNat_inj, UInt8.toNat_ofNat'] <;> omega

theorem encodeAll_lt {cs ds : List Char} (less : cs < ds) :
    cs.flatMap String.utf8EncodeChar < ds.flatMap String.utf8EncodeChar := by
  induction cs generalizing ds with
  | nil =>
    cases ds with
    | nil => exact absurd less (List.lt_irrefl [])
    | cons d ds =>
      obtain ⟨b, bs, written⟩ := List.exists_cons_of_ne_nil (String.utf8EncodeChar_ne_nil (c := d))
      rw [List.flatMap_cons, written]
      exact List.nil_lt_cons b _
  | cons c cs ih =>
    cases ds with
    | nil => cases less
    | cons d ds =>
      rw [List.flatMap_cons, List.flatMap_cons]
      rcases List.cons_lt_cons_iff.mp less with before | ⟨rfl, rest⟩
      · exact encode_lt before _ _
      · exact List.append_left_lt (ih rest)

/-- The order of texts is that of their bytes. -/
theorem bytes_le_iff (s t : String) : bytes s ≤ bytes t ↔ s ≤ t := by
  have lt {s t : String} (less : s < t) : bytes s < bytes t := by
    rw [bytes_eq, bytes_eq]
    exact encodeAll_lt (String.lt_iff_toList_lt.mp less)
  constructor
  · intro le
    by_contra greater
    exact List.not_lt.mpr le (lt (String.not_le.mp greater))
  · intro le
    by_contra greater
    rcases le.lt_or_eq with less | rfl
    · exact greater (List.le_of_lt (lt less))
    · exact greater (List.le_refl _)

end Text

end QuoteKeeper
