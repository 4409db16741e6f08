import Uncomment.Proofs.Text.Trim
import Uncomment.Proofs.Text.Utf8

namespace Uncomment

/-! The case of ASCII letters, in characters and in the bytes that encode them. -/

namespace Text

theorem toNat_toLower (char : Char) :
    char.toLower.toNat =
      if 0x41 ≤ char.toNat ∧ char.toNat ≤ 0x5A then char.toNat + 0x20 else char.toNat := by
  unfold Char.toLower
  split
  · rename_i upper
    have range : 0x41 ≤ char.toNat ∧ char.toNat ≤ 0x5A := upper
    rw [if_pos range]
    change (char.val + 0x20).toNat = _
    rw [UInt32.toNat_add]
    change (char.toNat + 0x20) % 2 ^ 32 = _
    omega
  · rename_i other
    have range : ¬ (0x41 ≤ char.toNat ∧ char.toNat ≤ 0x5A) := other
    rw [if_neg range]

theorem toLower_eq_iff {char mark : Char}
    (letterless : mark.toNat < 0x41 ∨ 0x7A < mark.toNat) :
    char.toLower = mark ↔ char = mark := by
  rw [← Char.toNat_inj, ← Char.toNat_inj, toNat_toLower]
  split <;> omega

theorem isBlankCode_of_letter {code : Nat} (least : 0x41 ≤ code) (bound : code ≤ 0x7A) :
    isBlankCode code = false := by
  unfold isBlankCode
  simp only [Bool.or_eq_false_iff, Bool.and_eq_false_iff, decide_eq_false_iff_not,
    beq_eq_false_iff_ne]
  omega

theorem isBlank_toLower (char : Char) : isBlank char.toLower = isBlank char := by
  rw [isBlank, isBlank, toNat_toLower]
  split
  · rename_i upper
    have capital := isBlankCode_of_letter upper.1 (by omega)
    have small : isBlankCode (char.toNat + 0x20) = false :=
      isBlankCode_of_letter (by omega) (by omega)
    rw [capital, small]
  · rfl

theorem trim_map_toLower (text : Text) :
    trim (text.map Char.toLower) = (trim text).map Char.toLower := by
  have blanks : isBlank ∘ Char.toLower = isBlank := funext isBlank_toLower
  rw [trim_eq_rdropWhile, trim_eq_rdropWhile, List.dropWhile_map, blanks, List.rdropWhile,
    ← List.map_reverse, List.dropWhile_map, blanks, ← List.map_reverse, List.rdropWhile]

end Text

namespace Utf8

def lower (byte : UInt8) : UInt8 :=
  if 0x41 ≤ byte ∧ byte ≤ 0x5A then byte + 0x20 else byte

theorem toNat_lower (byte : UInt8) :
    (lower byte).toNat =
      if 0x41 ≤ byte.toNat ∧ byte.toNat ≤ 0x5A then byte.toNat + 0x20 else byte.toNat := by
  unfold lower
  simp only [UInt8.le_iff_toNat_le, UInt8.reduceToNat]
  split
  · rw [UInt8.toNat_add]
    change (byte.toNat + 0x20) % 2 ^ 8 = _
    omega
  · rfl

theorem lower_eq_iff {byte mark : UInt8}
    (letterless : mark.toNat < 0x41 ∨ 0x7A < mark.toNat) :
    lower byte = mark ↔ byte = mark := by
  rw [← UInt8.toNat_inj, ← UInt8.toNat_inj, toNat_lower]
  split <;> omega

/-! ## Texts whose encodings differ in case -/

theorem wide_of_mem_utf8EncodeChar {char : Char} (wide : 0x80 ≤ char.toNat) :
    ∀ byte ∈ String.utf8EncodeChar char, 0x80 ≤ byte.toNat := by
  rcases exists_announces wide with ⟨first, more, announces⟩
  have start : 0x80 ≤ first.toNat := Nat.le_of_not_lt (not_ascii_of_announces announces)
  have later (count : Nat) : ∀ byte ∈ trail count char.toNat, 0x80 ≤ byte.toNat := by
    induction count with
    | zero => exact List.forall_mem_nil _
    | succ count induction =>
        rw [trail]
        refine List.forall_mem_cons.mpr ⟨?_, induction⟩
        rw [toNat_ofNat_of_lt (by omega)]
        omega
  rw [utf8EncodeChar_of_announces announces]
  exact List.forall_mem_cons.mpr ⟨start, later (more + 1)⟩

theorem eq_of_map_lower_eq {left right : Bytes}
    (wide : ∀ byte ∈ right, 0x80 ≤ byte.toNat) (same : left.map lower = right.map lower) :
    left = right := by
  induction right generalizing left with
  | nil => exact List.map_eq_nil_iff.mp same
  | cons byte right induction =>
      cases left with
      | nil => cases same
      | cons first left =>
          rcases List.forall_mem_cons.mp wide with ⟨here, later⟩
          rcases List.cons.inj same with ⟨head, tail⟩
          have stays : lower byte = byte := (lower_eq_iff (.inr (by omega))).mpr rfl
          rw [stays, lower_eq_iff (.inr (by omega))] at head
          rw [head, induction later tail]

theorem exists_utf8EncodeChar {bytes : Bytes} {char : Char}
    (same : bytes.map lower = (String.utf8EncodeChar char).map lower) :
    ∃ other : Char, String.utf8EncodeChar other = bytes ∧ other.toLower = char.toLower := by
  by_cases ascii : char.toNat < 0x80
  · rw [utf8EncodeChar_ascii ascii, List.map_singleton, List.map_eq_singleton_iff] at same
    rcases same with ⟨byte, rfl, same⟩
    have equal := congrArg UInt8.toNat same
    rw [toNat_lower, toNat_lower, toNat_ofNat_of_lt (by omega)] at equal
    have narrow : byte < 0x80 := by
      rw [UInt8.lt_iff_toNat_lt]
      change byte.toNat < 0x80
      split at equal <;> split at equal <;> omega
    have size := toNat_of_ascii narrow
    refine ⟨Char.ofNat byte.toNat, ?_, ?_⟩
    · rw [utf8EncodeChar_ascii (by rwa [size]), size, UInt8.ofNat_toNat]
    · rw [← Char.toNat_inj, Text.toNat_toLower, Text.toNat_toLower, size]
      exact equal
  · have wide := wide_of_mem_utf8EncodeChar (Nat.le_of_not_lt ascii)
    exact ⟨char, (eq_of_map_lower_eq wide same).symm, rfl⟩

theorem exists_encode {bytes : Bytes} {text : Text}
    (same : bytes.map lower = (encode text).map lower) :
    ∃ other, encode other = bytes ∧ other.map Char.toLower = text.map Char.toLower := by
  induction text generalizing bytes with
  | nil =>
      have empty : bytes = [] := List.map_eq_nil_iff.mp same
      exact ⟨[], empty.symm, rfl⟩
  | cons char text induction =>
      change _ = (String.utf8EncodeChar char ++ encode text).map lower at same
      rw [List.map_append, List.map_eq_append_iff] at same
      rcases same with ⟨here, later, rfl, head, tail⟩
      rcases exists_utf8EncodeChar head with ⟨first, rfl, equalFirst⟩
      rcases induction tail with ⟨rest, rfl, equalRest⟩
      refine ⟨first :: rest, rfl, ?_⟩
      rw [List.map_cons, List.map_cons, equalFirst, equalRest]

end Utf8

end Uncomment
