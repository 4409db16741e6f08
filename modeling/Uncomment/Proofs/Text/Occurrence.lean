import Uncomment.Text.Search

namespace Uncomment

namespace Text

/-! What cutting a text at the first occurrence of a pattern means. A pattern may
overlap itself, so the part before its first occurrence is told apart by the
pattern not occurring in that part and all but the last character of the
occurrence. -/

theorem cut?_eq_none_iff {pattern text : Text} :
    cut? pattern text = none ↔ ¬ pattern <:+: text := by
  induction text with
  | nil => simp [cut?, List.isEmpty_iff]
  | cons char rest induction =>
      rw [cut?, List.infix_cons_iff, ← List.isPrefixOf_iff_prefix]
      split
      · rename_i starts
        simp [starts]
      · rename_i starts
        simpa [starts] using induction

theorem not_prefix_of_not_infix {pattern before : Text} (nonempty : pattern ≠ [])
    (first : ¬ pattern <:+: before ++ pattern.dropLast) (occupied : before ≠ [])
    (after : Text) : ¬ pattern <+: before ++ pattern ++ after := by
  intro starts
  apply first
  have front : before ++ pattern.dropLast <+: before ++ pattern ++ after :=
    ((List.prefix_append_right_inj before).mpr (List.dropLast_prefix pattern)).trans
      (List.prefix_append _ _)
  have fits : pattern.length ≤ (before ++ pattern.dropLast).length := by
    have beforePositive := List.length_pos_iff.mpr occupied
    have patternPositive := List.length_pos_iff.mpr nonempty
    rw [List.length_append, List.length_dropLast]
    omega
  exact (List.prefix_of_prefix_length_le starts front fits).isInfix

theorem cut?_eq_some_iff {pattern text before after : Text} (nonempty : pattern ≠ []) :
    cut? pattern text = some (before, after) ↔
      text = before ++ pattern ++ after ∧ ¬ pattern <:+: before ++ pattern.dropLast := by
  constructor
  · intro found
    refine ⟨eq_of_cut? found, ?_⟩
    induction text generalizing before with
    | nil => simp [cut?, nonempty] at found
    | cons char rest induction =>
        rw [cut?] at found
        split at found
        · cases found
          intro occurs
          have bound := occurs.length_le
          have positive := List.length_pos_iff.mpr nonempty
          rw [List.nil_append, List.length_dropLast] at bound
          omega
        · rename_i differs
          rcases Option.map_eq_some_iff.mp found with ⟨⟨inner, _⟩, found, equal⟩
          cases equal
          rw [List.cons_append, List.infix_cons_iff]
          rintro (starts | occurs)
          · -- The pattern would stand at the start, where the search has just passed it over.
            apply differs
            rw [List.isPrefixOf_iff_prefix, eq_of_cut? found]
            refine starts.trans ((List.prefix_cons_inj char).mpr ?_)
            exact ((List.prefix_append_right_inj inner).mpr
              (List.dropLast_prefix pattern)).trans (List.prefix_append _ _)
          · exact induction found occurs
  · rintro ⟨rfl, first⟩
    induction before with
    | nil =>
        rcases List.exists_cons_of_ne_nil nonempty with ⟨head, tail, rfl⟩
        simp [cut?, List.isPrefixOf_iff_prefix]
    | cons char before induction =>
        have differs := not_prefix_of_not_infix nonempty first
          (List.cons_ne_nil _ _) after
        have later := induction (by
          intro occurs
          exact first (occurs.trans (List.suffix_cons char _).isInfix))
        simp only [List.cons_append, ← List.isPrefixOf_iff_prefix] at differs ⊢
        rw [cut?, if_neg differs, later]
        rfl

/-! ## Two different characters -/

theorem pair_infix_concat_iff {first second : Char} {text : Text}
    (different : first ≠ second) :
    [first, second] <:+: text ++ [first] ↔ [first, second] <:+: text := by
  rw [List.infix_concat_iff]
  constructor
  · rintro (⟨front, ends⟩ | occurs)
    · have last := congrArg List.getLast? ends
      simp [different.symm] at last
    · exact occurs
  · exact Or.inr

theorem cut?_pair {first second : Char} {before : Text} (different : first ≠ second)
    (free : ¬ [first, second] <:+: before) (after : Text) :
    cut? [first, second] (before ++ [first, second] ++ after) = some (before, after) := by
  apply (cut?_eq_some_iff (List.cons_ne_nil _ _)).mpr
  refine ⟨rfl, ?_⟩
  intro occurs
  exact free ((pair_infix_concat_iff different).mp occurs)

theorem free_of_cut?_pair {first second : Char} {text before after : Text}
    (different : first ≠ second)
    (found : cut? [first, second] text = some (before, after)) :
    ¬ [first, second] <:+: before := by
  intro occurs
  exact ((cut?_eq_some_iff (List.cons_ne_nil _ _)).mp found).2
    ((pair_infix_concat_iff different).mpr occurs)

/-! ## Characters that are not in the pattern -/

theorem infix_concat_iff_of_not_mem {pattern text : Text} {char : Char}
    (nonempty : pattern ≠ []) (absent : char ∉ pattern) :
    pattern <:+: text ++ [char] ↔ pattern <:+: text := by
  rw [List.infix_concat_iff]
  constructor
  · rintro (ends | occurs)
    · rcases List.suffix_concat_iff.mp ends with empty | ⟨front, rfl, _⟩
      · exact absurd empty nonempty
      · exact absurd (List.mem_append_right front List.mem_cons_self) absent
    · exact occurs
  · exact Or.inr

theorem cut?_cons_of_not_mem {pattern : Text} {char : Char} (nonempty : pattern ≠ [])
    (absent : char ∉ pattern) (text : Text) :
    cut? pattern (char :: text) =
      (cut? pattern text).map fun (before, after) => (char :: before, after) := by
  rcases List.exists_cons_of_ne_nil nonempty with ⟨head, tail, rfl⟩
  have different : head ≠ char := by
    rintro rfl
    exact absent List.mem_cons_self
  simp [cut?, List.isPrefixOf, different]

theorem cut?_concat_of_not_mem {pattern : Text} {char : Char} (nonempty : pattern ≠ [])
    (absent : char ∉ pattern) (text : Text) :
    cut? pattern (text ++ [char]) =
      (cut? pattern text).map fun (before, after) => (before, after ++ [char]) := by
  cases found : cut? pattern text with
  | none =>
      apply cut?_eq_none_iff.mpr
      intro occurs
      exact cut?_eq_none_iff.mp found
        ((infix_concat_iff_of_not_mem nonempty absent).mp occurs)
  | some parts =>
      rcases (cut?_eq_some_iff nonempty).mp found with ⟨equal, first⟩
      refine (cut?_eq_some_iff nonempty).mpr ⟨?_, first⟩
      rw [equal]
      simp

theorem infix_append_cons_iff_of_not_mem {pattern : Text} {char : Char}
    (absent : char ∉ pattern) (front rest : Text) :
    pattern <:+: front ++ char :: rest ↔ pattern <:+: front ∨ pattern <:+: rest := by
  constructor
  · intro occurs
    rcases List.infix_append_iff.mp occurs with inFront | inRest | ⟨left, right, rfl, ends, starts⟩
    · exact .inl inFront
    · rcases List.infix_cons_iff.mp inRest with starts | inRest
      · cases pattern with
        | nil => exact .inl List.nil_infix
        | cons head tail =>
            rw [(List.cons_prefix_cons.mp starts).1] at absent
            exact absurd List.mem_cons_self absent
      · exact .inr inRest
    · cases right with
      | nil => exact .inl (by simpa using ends.isInfix)
      | cons head tail =>
          rw [(List.cons_prefix_cons.mp starts).1] at absent
          exact absurd (List.mem_append_right left List.mem_cons_self) absent
  · rintro (inFront | inRest)
    · exact inFront.trans (List.prefix_append _ _).isInfix
    · exact inRest.trans ((List.suffix_cons _ _).trans (List.suffix_append _ _)).isInfix

/-! ## Texts put together -/

theorem pair_infix_append_iff {first second : Char} {left right : Text} :
    [first, second] <:+: left ++ right ↔
      [first, second] <:+: left ∨ [first, second] <:+: right ∨
        left.getLast? = some first ∧ right.head? = some second := by
  rw [List.infix_append_iff]
  constructor
  · rintro (inLeft | inRight | ⟨ending, starting, equal, ends, starts⟩)
    · exact .inl inLeft
    · exact .inr (.inl inRight)
    · rcases ends with ⟨front, rfl⟩
      rcases starts with ⟨back, rfl⟩
      rcases List.cons_eq_append_iff.mp equal with ⟨rfl, rfl⟩ | ⟨tail, rfl, rest⟩
      · exact .inr (.inl (List.prefix_append _ _).isInfix)
      · rcases List.cons_eq_append_iff.mp rest with ⟨rfl, rfl⟩ | ⟨last, rfl, none⟩
        · exact .inr (.inr ⟨by simp, by simp⟩)
        · rcases List.append_eq_nil_iff.mp none.symm with ⟨rfl, rfl⟩
          exact .inl (List.suffix_append _ _).isInfix
  · rintro (inLeft | inRight | ⟨ends, starts⟩)
    · exact .inl inLeft
    · exact .inr (.inl inRight)
    · refine .inr (.inr ⟨[first], [second], rfl, ?_, ?_⟩)
      · exact List.getLast?_eq_some_iff.mp ends |>.imp fun _ => Eq.symm
      · exact List.head?_eq_some_iff.mp starts |>.imp fun _ => Eq.symm

/-! ## Pieces put together -/

/-- One of the pieces ends in `first`, and the next one that is not empty starts with
`second`. -/
def Meet (first second : Char) (pieces : List Text) : Prop :=
  ∃ before left between right after,
    pieces = before ++ left :: (between ++ right :: after) ∧
      left.getLast? = some first ∧ (∀ piece ∈ between, piece = []) ∧
      right.head? = some second

theorem head?_flatten_eq_some_iff {char : Char} {pieces : List Text} :
    pieces.flatten.head? = some char ↔
      ∃ between right after, pieces = between ++ right :: after ∧
        (∀ piece ∈ between, piece = []) ∧ right.head? = some char := by
  simp only [List.head?_flatten, List.findSome?_eq_some_iff, List.head?_eq_none_iff]
  constructor
  · rintro ⟨between, right, after, equal, starts, empty⟩
    exact ⟨between, right, after, equal, empty, starts⟩
  · rintro ⟨between, right, after, equal, empty, starts⟩
    exact ⟨between, right, after, equal, starts, empty⟩

theorem meet_cons {first second : Char} {piece : Text} {pieces : List Text} :
    Meet first second (piece :: pieces) ↔
      piece.getLast? = some first ∧ pieces.flatten.head? = some second ∨
        Meet first second pieces := by
  rw [head?_flatten_eq_some_iff]
  constructor
  · rintro ⟨before, left, between, right, after, equal, ends, empty, starts⟩
    rcases List.cons_eq_append_iff.mp equal with ⟨rfl, same⟩ | ⟨before, rfl, rest⟩
    · rcases List.cons.inj same with ⟨rfl, rfl⟩
      exact .inl ⟨ends, between, right, after, rfl, empty, starts⟩
    · exact .inr ⟨before, left, between, right, after, rest, ends, empty, starts⟩
  · rintro (⟨ends, between, right, after, rfl, empty, starts⟩ |
      ⟨before, left, between, right, after, rfl, ends, empty, starts⟩)
    · exact ⟨[], piece, between, right, after, rfl, ends, empty, starts⟩
    · exact ⟨piece :: before, left, between, right, after, rfl, ends, empty, starts⟩

/-- A pair that is in none of the pieces occurs just if two of them meet in it. -/
theorem pair_infix_flatten_iff {first second : Char} {pieces : List Text}
    (free : ∀ piece ∈ pieces, ¬ [first, second] <:+: piece) :
    [first, second] <:+: pieces.flatten ↔ Meet first second pieces := by
  induction pieces with
  | nil => simp [Meet]
  | cons piece pieces induction =>
      rcases List.forall_mem_cons.mp free with ⟨pieceFree, piecesFree⟩
      rw [List.flatten_cons, pair_infix_append_iff, or_iff_right pieceFree,
        induction piecesFree, or_comm, meet_cons]

end Text

end Uncomment
