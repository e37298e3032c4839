import Mathlib.Tactic.SplitIfs

/-!
Texts in the order of their UTF-8 bytes. Characters are encoded so that this order is the one of the
characters: of two characters the greater one has the greater first byte, or the greater byte where the
encodings first differ.
-/
namespace InstallCheck.Text

/-- The bytes of a text in UTF-8. -/
def bytes (s : String) : List UInt8 := s.toUTF8.data.toList

theorem bytes_eq (s : String) : bytes s = s.toList.flatMap String.utf8EncodeChar := by
  calc bytes s
    _ = (String.ofList s.toList).toByteArray.data.toList := by rw [String.ofList_toList]; rfl
    _ = s.toList.flatMap String.utf8EncodeChar := by
      rw [String.toByteArray_ofList, List.utf8Encode, List.toList_data_toByteArray]

theorem cons_ofNat_lt_iff {a b : Nat} (small : a < 256) (smallToo : b < 256) {x y : List UInt8} :
    UInt8.ofNat a :: x < UInt8.ofNat b :: y ↔ a < b ∨ a = b ∧ x < y := by
  rw [List.cons_lt_cons_iff, UInt8.lt_iff_toNat_lt, ← UInt8.toNat_inj,
    UInt8.toNat_ofNat_of_lt' small, UInt8.toNat_ofNat_of_lt' smallToo]

/-- A number of at most 21 bits by its digits, as the encoding cuts it up. -/
theorem eq_digits {n : Nat} (small : n < 2097152) :
    n = n / 262144 % 8 * 262144 + n / 4096 % 64 * 4096 + n / 64 % 64 * 64 + n % 64 := by
  omega

/-- A character that comes before another one has bytes that come first, whatever follows. -/
theorem encode_append_lt {c d : Char} (below : c < d) (x y : List UInt8) :
    String.utf8EncodeChar c ++ x < String.utf8EncodeChar d ++ y := by
  have order : c.val.toNat < d.val.toNat := below
  have bounded : d.val.toNat < 2097152 := by
    rcases d.valid with low | high <;> omega
  unfold String.utf8EncodeChar
  generalize c.val.toNat = m at *
  generalize d.val.toNat = n at *
  have digits : m / 262144 % 8 * 262144 + m / 4096 % 64 * 4096 + m / 64 % 64 * 64 + m % 64 <
      n / 262144 % 8 * 262144 + n / 4096 % 64 * 4096 + n / 64 % 64 * 64 + n % 64 := by
    rwa [← eq_digits bounded, ← eq_digits (Nat.lt_trans order bounded)]
  -- One case for each number of bytes of either character; digits decide where the numbers agree.
  dsimp only
  split_ifs
  all_goals
    simp (disch := omega) only [List.cons_append, List.nil_append, cons_ofNat_lt_iff]
    omega

theorem encode_lt_of_lt {l m : List Char} (below : l < m) :
    l.flatMap String.utf8EncodeChar < m.flatMap String.utf8EncodeChar := by
  induction below with
  | nil =>
    rw [List.flatMap_nil, List.flatMap_cons]
    obtain ⟨b, bs, some⟩ := List.exists_cons_of_ne_nil String.utf8EncodeChar_ne_nil
    rw [some]
    exact List.nil_lt_cons b _
  | rel before => exact encode_append_lt before _ _
  | cons _ ih => exact List.append_left_lt ih

/-- Texts are ordered as their bytes are. -/
theorem bytes_lt_iff {s t : String} : bytes s < bytes t ↔ s < t := by
  rw [bytes_eq, bytes_eq]
  constructor
  · intro below
    rcases Decidable.em (s < t) with before | notBefore
    · exact before
    rcases Decidable.em (t < s) with after | notAfter
    · exact absurd below (List.lt_asymm (encode_lt_of_lt after))
    · have same : s = t := String.le_antisymm (String.not_lt.mp notAfter) (String.not_lt.mp notBefore)
      subst same
      exact absurd below (List.lt_irrefl _)
  · exact encode_lt_of_lt

end InstallCheck.Text
