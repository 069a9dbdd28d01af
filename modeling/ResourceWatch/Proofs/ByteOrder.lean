import Mathlib.Data.String.Basic

/-! # The order of texts

Texts are compared character by character. Their bytes in UTF-8, compared one by one, give the
same order: of two different characters the smaller one has, at the first byte in which they
differ, the smaller byte.
-/

namespace ResourceWatch.Text

/-- The bytes of a text in UTF-8. -/
def bytes (text : String) : List UInt8 := text.toUTF8.data.toList

theorem bytes_eq_flatMap (text : String) :
    bytes text = text.toList.flatMap String.utf8EncodeChar := by
  have hencode : text.toUTF8 = text.toList.utf8Encode := by simp
  rw [bytes, hencode, List.utf8Encode, List.toList_data_toByteArray]

/-- The bytes of a smaller character are smaller, whatever follows. -/
theorem utf8EncodeChar_append_lt {a b : Char} (hlt : a < b) (s t : List UInt8) :
    String.utf8EncodeChar a ++ s < String.utf8EncodeChar b ++ t := by
  have hcodes : a.val.toNat < b.val.toNat := hlt
  have hlast : b.val.toNat < 1114112 := by
    rcases b.valid with hlow | hhigh
    · exact Nat.lt_trans hlow (by decide)
    · exact hhigh.2
  -- Bytes after the first one are the digits of the code to the base 64.
  have htwo : ∀ code, code / 4096 = code / 64 / 64 := fun code => by omega
  have hthree : ∀ code, code / 262144 = code / 64 / 64 / 64 := fun code => by omega
  unfold String.utf8EncodeChar
  dsimp only
  generalize a.val.toNat = m at *
  generalize b.val.toNat = n at *
  split_ifs <;>
    simp (disch := omega) only [List.cons_append, List.nil_append, List.cons_lt_cons_iff,
      UInt8.lt_iff_toNat_lt, ← UInt8.toNat_inj, UInt8.toNat_ofNat', htwo, hthree,
      Nat.mod_eq_of_lt] <;>
    omega

theorem flatMap_utf8EncodeChar_lt {a b : List Char} (hlt : a < b) :
    a.flatMap String.utf8EncodeChar < b.flatMap String.utf8EncodeChar := by
  induction a generalizing b with
  | nil =>
      cases b with
      | nil => exact absurd hlt (List.not_lt_nil [])
      | cons d others =>
          obtain ⟨byte, rest, hbytes⟩ :
              ∃ byte rest, (d :: others).flatMap String.utf8EncodeChar = byte :: rest :=
            List.exists_cons_of_ne_nil (by simp)
          rw [hbytes]
          exact List.nil_lt_cons byte rest
  | cons c rest ih =>
      cases b with
      | nil => exact absurd hlt (List.not_lt_nil _)
      | cons d others =>
          rw [List.flatMap_cons, List.flatMap_cons]
          rcases List.cons_lt_cons_iff.mp hlt with hchar | ⟨rfl, hrest⟩
          · exact utf8EncodeChar_append_lt hchar _ _
          · exact List.append_left_lt (ih hrest)

theorem bytes_lt_of_compare_eq_lt {a b : String} (hlt : compare a b = .lt) :
    bytes a < bytes b := by
  rw [bytes_eq_flatMap, bytes_eq_flatMap]
  apply flatMap_utf8EncodeChar_lt
  exact String.lt_iff_toList_lt.mp (compareOfLessAndEq_eq_lt.mp hlt)

end ResourceWatch.Text
