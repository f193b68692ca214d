/-
  The order of texts. Texts are compared character by character, and their bytes in UTF-8 byte by
  byte; both give the same order (`toUTF8_lt`), because a greater character has a greater first
  byte, or the same one and greater bytes after it. So it is with lists of texts (`map_toUTF8_lt`).
-/
import DocCorpus.Proofs.Text.Encoding

namespace DocCorpus.Text

/-- The bytes of a text are those of its characters, one after the other. -/
theorem toList_toUTF8 (s : String) : s.toUTF8.toList = s.toList.flatMap String.utf8EncodeChar := by
  rw [toList_eq_data, String.toUTF8_eq_toByteArray]
  conv => lhs; rw [← String.ofList_toList (s := s), String.toByteArray_ofList]
  exact List.toList_data_toByteArray

section

variable {m n : Nat} {v w : List UInt8}

/-- Bytes are compared at the first place where they differ. -/
theorem ofNat_cons_lt (hm : m < 256) (hn : n < 256) (h : m < n ∨ m = n ∧ v < w) :
    UInt8.ofNat m :: v < UInt8.ofNat n :: w := by
  rw [List.cons_lt_cons_iff]
  rcases h with hlt | ⟨heq, hlt⟩
  · exact .inl ((UInt8.ofNat_lt_iff_lt hm hn).2 hlt)
  · exact .inr ⟨congrArg UInt8.ofNat heq, hlt⟩

/-- The byte with the last six bits of a number. -/
def lastByte (m : Nat) : UInt8 := UInt8.ofNat (m % 64 + 128)

theorem lastByte_lt (h : m % 64 < n % 64) : lastByte m :: v < lastByte n :: w :=
  ofNat_cons_lt (by omega) (by omega) (.inl (by omega))

theorem lastTwo_lt (h : m % 4096 < n % 4096) :
    lastByte (m / 64) :: lastByte m :: v < lastByte (n / 64) :: lastByte n :: w := by
  refine ofNat_cons_lt (by omega) (by omega) ?_
  by_cases hfirst : m / 64 % 64 < n / 64 % 64
  · exact .inl (by omega)
  · exact .inr ⟨by omega, lastByte_lt (by omega)⟩

theorem lastThree_lt (h : m % 262144 < n % 262144) :
    lastByte (m / 4096) :: lastByte (m / 64) :: lastByte m :: v <
      lastByte (n / 4096) :: lastByte (n / 64) :: lastByte n :: w := by
  refine ofNat_cons_lt (by omega) (by omega) ?_
  by_cases hfirst : m / 4096 % 64 < n / 4096 % 64
  · exact .inl (by omega)
  · exact .inr ⟨by omega, lastTwo_lt (by omega)⟩

end

/-- The lesser of two characters has the lesser bytes, whatever follows them. -/
theorem utf8EncodeChar_append_lt {c d : Char} (h : c < d) (v w : List UInt8) :
    String.utf8EncodeChar c ++ v < String.utf8EncodeChar d ++ w := by
  have hlt : c.val.toNat < d.val.toNat := h
  have hd : d.val.toNat < 1114112 := by
    rcases d.valid with hd | hd
    · exact Nat.lt_trans hd (by decide)
    · exact hd.2
  unfold String.utf8EncodeChar
  generalize c.val.toNat = m at *
  generalize d.val.toNat = n at *
  dsimp only
  by_cases h1 : n ≤ 127
  · rw [if_pos h1, if_pos (by omega)]
    exact ofNat_cons_lt (by omega) (by omega) (.inl hlt)
  by_cases h2 : n ≤ 2047
  · rw [if_neg h1, if_pos h2]
    split
    · exact ofNat_cons_lt (by omega) (by omega) (.inl (by omega))
    rw [if_pos (by omega)]
    refine ofNat_cons_lt (by omega) (by omega) ?_
    by_cases hfirst : m / 64 < n / 64
    · exact .inl (by omega)
    · exact .inr ⟨by omega, lastByte_lt (by omega)⟩
  by_cases h3 : n ≤ 65535
  · rw [if_neg h1, if_neg h2, if_pos h3]
    split
    · exact ofNat_cons_lt (by omega) (by omega) (.inl (by omega))
    split
    · exact ofNat_cons_lt (by omega) (by omega) (.inl (by omega))
    rw [if_pos (by omega)]
    refine ofNat_cons_lt (by omega) (by omega) ?_
    by_cases hfirst : m / 4096 < n / 4096
    · exact .inl (by omega)
    · exact .inr ⟨by omega, lastTwo_lt (by omega)⟩
  rw [if_neg h1, if_neg h2, if_neg h3]
  split
  · exact ofNat_cons_lt (by omega) (by omega) (.inl (by omega))
  split
  · exact ofNat_cons_lt (by omega) (by omega) (.inl (by omega))
  split
  · exact ofNat_cons_lt (by omega) (by omega) (.inl (by omega))
  refine ofNat_cons_lt (by omega) (by omega) ?_
  by_cases hfirst : m / 262144 < n / 262144
  · exact .inl (by omega)
  · exact .inr ⟨by omega, lastThree_lt (by omega)⟩

/-- Characters that two texts share have the same bytes, and the first ones that differ decide. -/
theorem flatMap_utf8EncodeChar_lt {s t : List Char} (h : s < t) :
    s.flatMap String.utf8EncodeChar < t.flatMap String.utf8EncodeChar := by
  induction h with
  | @nil c t =>
    obtain ⟨b, bytes, hbytes⟩ := List.exists_cons_of_ne_nil (String.utf8EncodeChar_ne_nil (c := c))
    rw [List.flatMap_nil, List.flatMap_cons, hbytes]
    exact List.nil_lt_cons b _
  | rel h =>
    rw [List.flatMap_cons, List.flatMap_cons]
    exact utf8EncodeChar_append_lt h _ _
  | cons _ ih =>
    rw [List.flatMap_cons, List.flatMap_cons]
    exact List.append_left_lt ih

/-- Texts are in the order of their bytes. -/
theorem toUTF8_lt {s t : String} (h : s < t) : s.toUTF8.toList < t.toUTF8.toList := by
  rw [toList_toUTF8, toList_toUTF8]
  exact flatMap_utf8EncodeChar_lt h

/-- Lists of texts are in the order of the bytes of the first text that differs. -/
theorem map_toUTF8_lt {names names' : List String} (h : names < names') :
    names.map (fun name => name.toUTF8.toList) < names'.map fun name => name.toUTF8.toList := by
  induction h with
  | nil => exact List.nil_lt_cons _ _
  | rel h => exact List.cons_lt_cons_iff.2 (.inl (toUTF8_lt h))
  | cons _ ih => exact List.cons_lt_cons_iff.2 (.inr ⟨rfl, ih⟩)

end DocCorpus.Text
