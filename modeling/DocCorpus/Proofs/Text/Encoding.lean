/-
  Texts and their bytes. The bytes of a text determine it, and reading them gives the text back; the
  bytes of an array are those that its list view goes through.
-/
import DocCorpus.FileTree

namespace DocCorpus.Text

theorem toList_loop (bytes : ByteArray) (i : Nat) (read : List UInt8) :
    ByteArray.toList.loop bytes i read = read.reverse ++ bytes.data.toList.drop i := by
  have hlength : bytes.data.toList.length = bytes.size := rfl
  induction hleft : bytes.size - i generalizing i read with
  | zero =>
    rw [ByteArray.toList.loop, if_neg (by omega), List.drop_eq_nil_of_le (by omega),
      List.append_nil]
  | succ left ih =>
    have hlt : i < bytes.size := by omega
    rw [ByteArray.toList.loop, if_pos hlt, ih (i + 1) _ (by omega),
      List.drop_eq_getElem_cons (show i < bytes.data.toList.length by omega)]
    simp [ByteArray.get!, hlt]

theorem toList_eq_data (bytes : ByteArray) : bytes.toList = bytes.data.toList := by
  unfold ByteArray.toList
  rw [toList_loop, List.reverse_nil, List.nil_append, List.drop_zero]

theorem toList_inj {a b : ByteArray} : a.toList = b.toList ↔ a = b := by
  rw [toList_eq_data, toList_eq_data, Array.toList_inj, ← ByteArray.ext_iff]

theorem toUTF8_inj {s t : String} : s.toUTF8 = t.toUTF8 ↔ s = t := String.toByteArray_inj

theorem fromUTF8?_eq_some_iff {bytes : ByteArray} {s : String} :
    String.fromUTF8? bytes = some s ↔ s.toUTF8 = bytes := by
  unfold String.fromUTF8?
  constructor
  · intro h
    split at h
    · injection h with h
      rw [← h]
      rfl
    · cases h
  · rintro rfl
    rw [String.toUTF8_eq_toByteArray, dif_pos s.isValidUTF8]
    rfl

theorem textOf_toUTF8 (s : String) : FileTree.textOf s.toUTF8 = .ok s := by
  unfold FileTree.textOf
  rw [fromUTF8?_eq_some_iff.2 rfl]

end DocCorpus.Text
