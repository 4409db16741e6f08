import Uncomment.Text.Basic

namespace Uncomment

/-! Loops that move a cursor through a text, taken apart into turns. A loop whose turns
all succeed and move the cursor on cannot break off, and cannot stand still. -/

inductive Turn (σ α : Type)
  | ends (result : α)
  | goesOn (state : σ) (finish : α → α)

/-- The turns of a loop by the state they start in. A turn is `none` if it cuts the text
in the wrong place. -/
structure Loop (σ α : Type) where
  cursor : σ → Nat
  turn? : σ → Option (Turn σ α)

namespace Loop

variable {σ α : Type}

def IsRun (loop : Loop σ α) (run : σ → Option α) : Prop :=
  ∀ state, run state = (loop.turn? state).bind fun
    | .ends result => some result
    | .goesOn next finish => (run next).map finish

inductive Reaches (loop : Loop σ α) (start : σ) : σ → Prop
  | start : Reaches loop start start
  | turn {state next : σ} {finish : α → α} (before : Reaches loop start state)
      (onward : loop.turn? state = some (.goesOn next finish)) : Reaches loop start next

/-- The loop gets from `start` to an end: every turn on the way succeeds, and each that
is not the last moves the cursor on. -/
structure RunsThrough (loop : Loop σ α) (run : σ → Option α) (start : σ) : Prop where
  isRun : loop.IsRun run
  finishes : (run start).isSome
  succeeds : ∀ {state}, loop.Reaches start state → (loop.turn? state).isSome
  advances : ∀ {state next finish}, loop.Reaches start state →
    loop.turn? state = some (.goesOn next finish) → loop.cursor state < loop.cursor next

variable {loop : Loop σ α} {run : σ → Option α} {start state : σ}

theorem IsRun.isSome_turn? (isRun : loop.IsRun run) (finishes : (run state).isSome) :
    (loop.turn? state).isSome := by
  rw [isRun state] at finishes
  exact Option.isSome_of_isSome_bind finishes

theorem IsRun.isSome_of_reaches (isRun : loop.IsRun run) (finishes : (run start).isSome)
    (reaches : loop.Reaches start state) : (run state).isSome := by
  induction reaches with
  | start => exact finishes
  | turn before onward induction =>
      rw [isRun, onward] at induction
      exact Option.isSome_map.symm.trans induction

theorem IsRun.runsThrough (isRun : loop.IsRun run) (finishes : (run start).isSome)
    (advances : ∀ {state next finish}, loop.Reaches start state →
      loop.turn? state = some (.goesOn next finish) →
      loop.cursor state < loop.cursor next) :
    loop.RunsThrough run start where
  isRun
  finishes
  succeeds reaches := isRun.isSome_turn? (isRun.isSome_of_reaches finishes reaches)
  advances

end Loop

namespace Text

/-! ## Checked cuts -/

def IsBoundary (text : Text) (offset : Nat) : Prop :=
  ∃ left right, text = left ++ right ∧ size left = offset

theorem IsBoundary.le_size {text : Text} {offset : Nat} (boundary : text.IsBoundary offset) :
    offset ≤ size text := by
  rcases boundary with ⟨left, right, rfl, rfl⟩
  exact size_le_of_prefix (List.prefix_append left right)

theorem isSome_drop?_iff {text : Text} {offset : Nat} :
    (text.drop? offset).isSome ↔ text.IsBoundary offset := by
  simp only [Option.isSome_iff_exists, drop?_eq_some_iff]
  exact exists_comm

theorem isSome_take?_iff {text : Text} {offset : Nat} :
    (text.take? offset).isSome ↔ text.IsBoundary offset := by
  simp only [Option.isSome_iff_exists, take?_eq_some_iff]
  rfl

theorem isSome_splitAt?_iff {text : Text} {offset : Nat} :
    (splitAt? offset text).isSome ↔ text.IsBoundary offset := by
  simp only [Option.isSome_iff_exists, Prod.exists, splitAt?_eq_some_iff]
  rfl

/-- A slice fails just if its ends are out of order, or one of them is no boundary. -/
theorem isSome_slice?_iff {text : Text} {start stop : Nat} :
    (text.slice? start stop).isSome ↔
      start ≤ stop ∧ stop ≤ size text ∧ text.IsBoundary start ∧ text.IsBoundary stop := by
  constructor
  · intro succeeds
    rcases Option.isSome_iff_exists.mp succeeds with ⟨middle, slice⟩
    rcases slice?_eq_some_iff.mp slice with ⟨left, right, rfl, rfl, rfl⟩
    have start : (left ++ middle ++ right).IsBoundary (size left) :=
      ⟨left, middle ++ right, List.append_assoc _ _ _, rfl⟩
    have stop : (left ++ middle ++ right).IsBoundary (size left + size middle) :=
      ⟨left ++ middle, right, rfl, size_append _ _⟩
    exact ⟨Nat.le_add_right _ _, stop.le_size, start, stop⟩
  · rintro ⟨ordered, _, ⟨left, rest, equal, rfl⟩, ⟨longer, right, same, rfl⟩⟩
    rcases List.append_eq_append_iff.mp (equal.symm.trans same) with
      ⟨middle, rfl, rfl⟩ | ⟨middle, rfl, rfl⟩
    · rw [same, size_append, slice?_append]
      rfl
    · rw [size_append] at ordered
      have bound := length_le_size middle
      have empty : middle = [] := List.length_eq_zero_iff.mp (by omega)
      subst empty
      have slice := slice?_append longer [] rest
      rw [List.append_nil, size_nil, Nat.add_zero] at slice
      rw [same, List.append_nil, List.nil_append, slice]
      rfl

end Text

end Uncomment
