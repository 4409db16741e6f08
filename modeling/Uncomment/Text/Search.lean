import Uncomment.Text.Basic

namespace Uncomment

namespace Text

/-- The line break character. A carriage return before it belongs to the line. -/
def newline : Char := '\n'

/-! ## First occurrence -/

def cut? (pattern : Text) : Text → Option (Text × Text)
  | [] => if pattern.isEmpty then some ([], []) else none
  | char :: rest =>
      if pattern.isPrefixOf (char :: rest) then
        some ([], (char :: rest).drop pattern.length)
      else
        (cut? pattern rest).map fun (before, after) => (char :: before, after)

example : cut? ['/', '/'] ['a', '/', '/', '/', 'b'] = some (['a'], ['/', 'b']) := rfl

theorem eq_of_cut? {pattern text before after : Text}
    (found : cut? pattern text = some (before, after)) :
    text = before ++ pattern ++ after := by
  induction text generalizing before with
  | nil =>
      simp only [cut?] at found
      split at found
      · simp_all
      · cases found
  | cons char rest induction =>
      simp only [cut?] at found
      split at found
      · rename_i starts
        obtain ⟨tail, equal⟩ := List.isPrefixOf_iff_prefix.mp starts
        simp only [Option.some.injEq, Prod.mk.injEq] at found
        obtain ⟨rfl, rfl⟩ := found
        simp [← equal]
      · simp only [Option.map_eq_some_iff, Prod.exists, Prod.mk.injEq] at found
        obtain ⟨inner, _, found, rfl, rfl⟩ := found
        simp [induction found]

def find? (pattern text : Text) : Option Nat :=
  (cut? pattern text).map fun (before, _) => size before

/-- The second character takes two bytes. -/
example : find? ['/', '*'] ['a', 'é', '/', '*'] = some 3 := rfl

theorem find?_eq_some {pattern text : Text} {offset : Nat}
    (found : find? pattern text = some offset) :
    ∃ before after, text = before ++ pattern ++ after ∧ size before = offset := by
  simp only [find?, Option.map_eq_some_iff, Prod.exists] at found
  obtain ⟨before, after, found, rfl⟩ := found
  exact ⟨before, after, eq_of_cut? found, rfl⟩

theorem find?_le_size {pattern text : Text} {offset : Nat}
    (found : find? pattern text = some offset) :
    offset + size pattern ≤ size text := by
  obtain ⟨before, after, rfl, rfl⟩ := find?_eq_some found
  simp only [size_append]
  omega

theorem splitAt?_of_find? {pattern text : Text} {offset : Nat} {left right : Text}
    (found : find? pattern text = some offset)
    (cut : splitAt? offset text = some (left, right)) :
    ∃ after, right = pattern ++ after := by
  obtain ⟨before, after, rfl, rfl⟩ := find?_eq_some found
  rw [List.append_assoc, splitAt?_append] at cut
  cases cut
  exact ⟨after, rfl⟩

theorem find?_pos {wanted char : Char} {rest : Text} {offset : Nat}
    (different : wanted ≠ char) (found : find? [wanted] (char :: rest) = some offset) :
    0 < offset := by
  have positive := char.utf8Size_pos
  simp only [find?, cut?, List.isPrefixOf, beq_eq_false_iff_ne.mpr different,
    Bool.false_and, Bool.false_eq_true, ↓reduceIte, Option.map_map,
    Option.map_eq_some_iff, Function.comp_apply, size_cons] at found
  obtain ⟨_, _, rfl⟩ := found
  omega

/-! ## Last occurrence -/

def findLast? (wanted : Char) : Text → Option Nat
  | [] => none
  | char :: rest =>
      match findLast? wanted rest with
      | some offset => some (char.utf8Size + offset)
      | none => if char = wanted then some 0 else none

example : findLast? 'a' ['a', 'é', 'a', 'b'] = some 3 := rfl

end Text

end Uncomment
