namespace Uncomment

/-! Texts and the byte offsets that address them. Offsets count the bytes of the
UTF-8 encoding, so only some of them fall between two characters. Every
operation that takes an offset is checked: it answers `none` where the offset
lies beyond the text or inside a character. -/

/-- A text is the list of its characters. -/
abbrev Text := List Char

namespace Text

/-! ## Size -/

def size : Text → Nat
  | [] => 0
  | char :: rest => char.utf8Size + size rest

@[simp] theorem size_nil : size [] = 0 := rfl

@[simp] theorem size_cons (char : Char) (rest : Text) :
    size (char :: rest) = char.utf8Size + size rest := rfl

@[simp] theorem size_append (left right : Text) :
    size (left ++ right) = size left + size right := by
  induction left with
  | nil => simp
  | cons char left induction => simp [induction, Nat.add_assoc]

theorem length_le_size (text : Text) : text.length ≤ size text := by
  induction text with
  | nil => simp
  | cons char text induction =>
      have positive := char.utf8Size_pos
      simp only [List.length_cons, size_cons]
      omega

theorem size_le_of_prefix {left text : Text} (leading : left <+: text) :
    size left ≤ size text := by
  rcases leading with ⟨right, rfl⟩
  rw [size_append]
  exact Nat.le_add_right _ _

theorem size_le_of_suffix {right text : Text} (ending : right <:+ text) :
    size right ≤ size text := by
  rcases ending with ⟨left, rfl⟩
  rw [size_append]
  exact Nat.le_add_left _ _

/-! ## Checked cuts -/

def splitAt? : Nat → Text → Option (Text × Text)
  | 0, text => some ([], text)
  | _ + 1, [] => none
  | offset + 1, char :: rest =>
      if char.utf8Size ≤ offset + 1 then
        (splitAt? (offset + 1 - char.utf8Size) rest).map fun (left, right) =>
          (char :: left, right)
      else
        none

/-- Byte 2 lies inside the second character. -/
example : splitAt? 2 ['a', 'é', 'b'] = none := rfl

theorem splitAt?_eq_some_iff {offset : Nat} {text left right : Text} :
    splitAt? offset text = some (left, right) ↔
      text = left ++ right ∧ size left = offset := by
  induction text generalizing offset left right with
  | nil =>
      cases offset with
      | zero => cases left <;> simp [splitAt?, eq_comm]
      | succ offset => cases left <;> simp [splitAt?]
  | cons char rest induction =>
      have positive := char.utf8Size_pos
      cases offset with
      | zero =>
          cases left with
          | nil => simp [splitAt?, eq_comm]
          | cons head left =>
              have headPositive := head.utf8Size_pos
              simp [splitAt?]
              omega
      | succ offset =>
          simp only [splitAt?]
          split
          · cases left with
            | nil => simp
            | cons head left =>
                simp only [Option.map_eq_some_iff, Prod.exists, Prod.mk.injEq,
                  List.cons.injEq, induction, List.cons_append, size_cons]
                constructor
                · rintro ⟨_, _, ⟨rfl, size⟩, ⟨rfl, rfl⟩, rfl⟩
                  exact ⟨⟨rfl, rfl⟩, by omega⟩
                · rintro ⟨⟨rfl, rfl⟩, size⟩
                  exact ⟨left, right, ⟨rfl, by omega⟩, ⟨rfl, rfl⟩, rfl⟩
          · cases left with
            | nil => simp
            | cons head left =>
                simp only [List.cons_append, List.cons.injEq, size_cons,
                  reduceCtorEq, false_iff, not_and]
                rintro ⟨rfl, _⟩ size
                omega

theorem splitAt?_append (left right : Text) :
    splitAt? (size left) (left ++ right) = some (left, right) :=
  splitAt?_eq_some_iff.mpr ⟨rfl, rfl⟩

def take? (offset : Nat) (text : Text) : Option Text :=
  (splitAt? offset text).map Prod.fst

def drop? : Nat → Text → Option Text
  | 0, text => some text
  | _ + 1, [] => none
  | offset + 1, char :: rest =>
      if char.utf8Size ≤ offset + 1 then drop? (offset + 1 - char.utf8Size) rest
      else none

def slice? (text : Text) (start stop : Nat) : Option Text :=
  if start ≤ stop then (drop? start text).bind (take? (stop - start)) else none

example : slice? ['a', 'é', 'b'] 1 3 = some ['é'] := rfl

/-- The ends of a slice are in order. -/
example : slice? ['a', 'b', 'c'] 2 1 = none := rfl

theorem drop?_eq_map_splitAt? (offset : Nat) (text : Text) :
    drop? offset text = (splitAt? offset text).map Prod.snd := by
  induction text generalizing offset with
  | nil => cases offset <;> rfl
  | cons char rest induction =>
      cases offset with
      | zero => rfl
      | succ offset =>
          simp only [drop?, splitAt?]
          split
          · simp [induction, Function.comp_def]
          · rfl

theorem take?_eq_some_iff {offset : Nat} {text left : Text} :
    take? offset text = some left ↔
      ∃ right, text = left ++ right ∧ size left = offset := by
  simp [take?, splitAt?_eq_some_iff]

theorem drop?_eq_some_iff {offset : Nat} {text right : Text} :
    drop? offset text = some right ↔
      ∃ left, text = left ++ right ∧ size left = offset := by
  simp [drop?_eq_map_splitAt?, splitAt?_eq_some_iff]

theorem slice?_eq_some_iff {text middle : Text} {start stop : Nat} :
    slice? text start stop = some middle ↔
      ∃ left right, text = left ++ middle ++ right ∧ size left = start ∧
        size left + size middle = stop := by
  unfold slice?
  split
  · rename_i ordered
    simp only [Option.bind_eq_some_iff, take?_eq_some_iff, drop?_eq_some_iff]
    constructor
    · rintro ⟨_, ⟨left, rfl, startAt⟩, right, rfl, stopAt⟩
      exact ⟨left, right, by simp, startAt, by omega⟩
    · rintro ⟨left, right, rfl, startAt, stopAt⟩
      exact ⟨middle ++ right, ⟨left, by simp, startAt⟩, right, rfl, by omega⟩
  · rename_i disordered
    simp only [reduceCtorEq, false_iff, not_exists, not_and]
    intro left right _ startAt stopAt
    omega

theorem take?_append (left right : Text) : take? (size left) (left ++ right) = some left :=
  take?_eq_some_iff.mpr ⟨right, rfl, rfl⟩

theorem drop?_append (left right : Text) : drop? (size left) (left ++ right) = some right :=
  drop?_eq_some_iff.mpr ⟨left, rfl, rfl⟩

theorem slice?_append (left middle right : Text) :
    slice? (left ++ middle ++ right) (size left) (size left + size middle) = some middle :=
  slice?_eq_some_iff.mpr ⟨left, right, rfl, rfl, rfl⟩

theorem size_of_drop? {offset : Nat} {text right : Text}
    (dropped : drop? offset text = some right) :
    size text = offset + size right := by
  obtain ⟨left, rfl, rfl⟩ := drop?_eq_some_iff.mp dropped
  simp

end Text

end Uncomment
