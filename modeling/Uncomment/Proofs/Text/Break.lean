import Uncomment.Proofs.Text.Occurrence
import Mathlib.Data.List.DropRight
import Mathlib.Data.List.TakeWhile

namespace Uncomment

namespace Text

/-! The first and the last line break of a text, and what stands on either side
of them. Without a line break the whole text is both its first and its last line. -/

def firstLine (text : Text) : Text := text.takeWhile (· != newline)

def fromBreak (text : Text) : Text := text.dropWhile (· != newline)

def laterLines (text : Text) : Text := (fromBreak text).tail

def lastLine (text : Text) : Text := text.rtakeWhile (· != newline)

def earlierLines (text : Text) : Text := (text.rdropWhile (· != newline)).dropLast

/-! ## The first line break -/

theorem differs_of_not_mem {text : Text} (unbroken : newline ∉ text) :
    ∀ char ∈ text, (char != newline) = true := by
  intro char member
  apply bne_iff_ne.mpr
  rintro rfl
  exact unbroken member

@[simp] theorem firstLine_append_newline {line : Text} (unbroken : newline ∉ line)
    (rest : Text) : firstLine (line ++ newline :: rest) = line := by
  rw [firstLine, List.takeWhile_append_of_pos (differs_of_not_mem unbroken)]
  simp

@[simp] theorem fromBreak_append_newline {line : Text} (unbroken : newline ∉ line)
    (rest : Text) : fromBreak (line ++ newline :: rest) = newline :: rest := by
  rw [fromBreak, List.dropWhile_append_of_pos (differs_of_not_mem unbroken)]
  simp

@[simp] theorem laterLines_append_newline {line : Text} (unbroken : newline ∉ line)
    (rest : Text) : laterLines (line ++ newline :: rest) = rest := by
  rw [laterLines, fromBreak_append_newline unbroken, List.tail_cons]

@[simp] theorem firstLine_of_not_mem {text : Text} (unbroken : newline ∉ text) :
    firstLine text = text :=
  List.takeWhile_eq_self_iff.mpr (differs_of_not_mem unbroken)

@[simp] theorem fromBreak_of_not_mem {text : Text} (unbroken : newline ∉ text) :
    fromBreak text = [] :=
  List.dropWhile_eq_nil_iff.mpr (differs_of_not_mem unbroken)

@[simp] theorem laterLines_of_not_mem {text : Text} (unbroken : newline ∉ text) :
    laterLines text = [] := by
  rw [laterLines, fromBreak_of_not_mem unbroken, List.tail_nil]

theorem fromBreak_eq_cons {text : Text} (broken : newline ∈ text) :
    fromBreak text = newline :: laterLines text := by
  rcases List.eq_append_cons_of_mem broken with ⟨line, rest, rfl, unbroken⟩
  rw [fromBreak_append_newline unbroken, laterLines_append_newline unbroken]

/-! ## The last line break -/

theorem exists_last_break {text : Text} (broken : newline ∈ text) :
    ∃ front line, text = front ++ newline :: line ∧ newline ∉ line := by
  rcases List.eq_append_cons_of_mem (List.mem_reverse.mpr broken) with
    ⟨line, front, equal, unbroken⟩
  refine ⟨front.reverse, line.reverse, ?_, by rwa [List.mem_reverse]⟩
  rw [← List.reverse_reverse text, equal]
  simp

@[simp] theorem lastLine_append_newline {line : Text} (unbroken : newline ∉ line)
    (front : Text) : lastLine (front ++ newline :: line) = line := by
  have reversed : newline ∉ line.reverse := by rwa [List.mem_reverse]
  have cut := firstLine_append_newline reversed front.reverse
  rw [firstLine] at cut
  simp [lastLine, List.rtakeWhile, cut]

@[simp] theorem earlierLines_append_newline {line : Text} (unbroken : newline ∉ line)
    (front : Text) : earlierLines (front ++ newline :: line) = front := by
  have reversed : newline ∉ line.reverse := by rwa [List.mem_reverse]
  have cut := fromBreak_append_newline reversed front.reverse
  rw [fromBreak] at cut
  simp [earlierLines, List.rdropWhile, cut]

@[simp] theorem lastLine_of_not_mem {text : Text} (unbroken : newline ∉ text) :
    lastLine text = text :=
  List.rtakeWhile_eq_self_iff.mpr (differs_of_not_mem unbroken)

@[simp] theorem earlierLines_of_not_mem {text : Text} (unbroken : newline ∉ text) :
    earlierLines text = [] := by
  rw [earlierLines, List.rdropWhile_eq_nil_iff.mpr (differs_of_not_mem unbroken),
    List.dropLast_nil]

/-! ## Texts put together -/

theorem firstLine_append_of_mem {text : Text} (broken : newline ∈ text)
    (rest : Text) : firstLine (text ++ rest) = firstLine text := by
  rcases List.eq_append_cons_of_mem broken with ⟨line, later, rfl, unbroken⟩
  rw [List.append_assoc, List.cons_append, firstLine_append_newline unbroken,
    firstLine_append_newline unbroken]

theorem firstLine_append_of_not_mem {text : Text} (unbroken : newline ∉ text)
    (rest : Text) : firstLine (text ++ rest) = text ++ firstLine rest :=
  List.takeWhile_append_of_pos (differs_of_not_mem unbroken)

theorem lastLine_append_of_mem {text : Text} (broken : newline ∈ text) (front : Text) :
    lastLine (front ++ text) = lastLine text := by
  rcases exists_last_break broken with ⟨earlier, line, rfl, unbroken⟩
  rw [← List.append_assoc, lastLine_append_newline unbroken,
    lastLine_append_newline unbroken]

theorem lastLine_append_of_not_mem {text : Text} (unbroken : newline ∉ text)
    (front : Text) : lastLine (front ++ text) = lastLine front ++ text := by
  by_cases broken : newline ∈ front
  · rcases exists_last_break broken with ⟨earlier, line, rfl, free⟩
    have joined : newline ∉ line ++ text := by simp [free, unbroken]
    rw [List.append_assoc, List.cons_append, lastLine_append_newline joined,
      lastLine_append_newline free]
  · have joined : newline ∉ front ++ text := by simp [broken, unbroken]
    rw [lastLine_of_not_mem joined, lastLine_of_not_mem broken]

theorem lastLine_suffix {left text : Text} (ending : left <:+ text) :
    lastLine left <:+ lastLine text := by
  rcases ending with ⟨front, rfl⟩
  by_cases broken : newline ∈ left
  · have same := lastLine_append_of_mem broken front
    exact same ▸ List.suffix_rfl
  · rw [lastLine_append_of_not_mem broken, lastLine_of_not_mem broken]
    exact List.suffix_append _ _

theorem fromBreak_append_of_mem {text : Text} (broken : newline ∈ text) (rest : Text) :
    fromBreak (text ++ rest) = fromBreak text ++ rest := by
  rcases List.eq_append_cons_of_mem broken with ⟨line, later, rfl, unbroken⟩
  rw [List.append_assoc, List.cons_append, fromBreak_append_newline unbroken,
    fromBreak_append_newline unbroken, List.cons_append]

theorem laterLines_append_of_mem {text : Text} (broken : newline ∈ text) (rest : Text) :
    laterLines (text ++ rest) = laterLines text ++ rest := by
  rcases List.eq_append_cons_of_mem broken with ⟨line, later, rfl, unbroken⟩
  rw [List.append_assoc, List.cons_append, laterLines_append_newline unbroken,
    laterLines_append_newline unbroken]

theorem earlierLines_append_of_mem {text : Text} (broken : newline ∈ text)
    (front : Text) : earlierLines (front ++ text) = front ++ earlierLines text := by
  rcases exists_last_break broken with ⟨earlier, line, rfl, unbroken⟩
  rw [← List.append_assoc, earlierLines_append_newline unbroken,
    earlierLines_append_newline unbroken]

theorem earlierLines_append_of_not_mem {text : Text} (unbroken : newline ∉ text)
    (front : Text) : earlierLines (front ++ text) = earlierLines front := by
  by_cases broken : newline ∈ front
  · rcases exists_last_break broken with ⟨earlier, line, rfl, free⟩
    have joined : newline ∉ line ++ text := by simp [free, unbroken]
    rw [List.append_assoc, List.cons_append, earlierLines_append_newline joined,
      earlierLines_append_newline free]
  · have joined : newline ∉ front ++ text := by simp [broken, unbroken]
    rw [earlierLines_of_not_mem joined, earlierLines_of_not_mem broken]

theorem fromBreak_suffix (text : Text) : fromBreak text <:+ text :=
  List.dropWhile_suffix _

theorem laterLines_suffix (text : Text) : laterLines text <:+ text :=
  (List.tail_suffix _).trans (fromBreak_suffix text)

theorem earlierLines_prefix (text : Text) : earlierLines text <+: text :=
  (List.dropLast_prefix _).trans (List.rdropWhile_prefix _ _)

/-! ## Searching for a line break -/

theorem utf8Size_newline : newline.utf8Size = 1 := rfl

theorem find?_newline_of_not_mem {text : Text} (unbroken : newline ∉ text) :
    find? [newline] text = none := by
  have absent : ¬ [newline] <:+: text := by
    intro occurs
    exact unbroken (occurs.subset List.mem_cons_self)
  rw [find?, cut?_eq_none_iff.mpr absent, Option.map_none]

theorem cut?_newline {line : Text} (unbroken : newline ∉ line) (rest : Text) :
    cut? [newline] (line ++ newline :: rest) = some (line, rest) := by
  apply (cut?_eq_some_iff (List.cons_ne_nil _ _)).mpr
  refine ⟨by simp, ?_⟩
  intro occurs
  rw [List.dropLast_singleton, List.append_nil] at occurs
  exact unbroken (occurs.subset List.mem_cons_self)

theorem find?_newline {line : Text} (unbroken : newline ∉ line) (rest : Text) :
    find? [newline] (line ++ newline :: rest) = some (size line) := by
  rw [find?, cut?_newline unbroken, Option.map_some]

theorem findLast?_newline_of_not_mem {text : Text} (unbroken : newline ∉ text) :
    findLast? newline text = none := by
  induction text with
  | nil => rfl
  | cons char rest induction =>
      rw [List.mem_cons, not_or] at unbroken
      rw [findLast?, induction unbroken.2]
      apply if_neg
      intro equal
      exact unbroken.1 equal.symm

theorem findLast?_newline {line : Text} (unbroken : newline ∉ line) (front : Text) :
    findLast? newline (front ++ newline :: line) = some (size front) := by
  induction front with
  | nil =>
      rw [List.nil_append, findLast?, findLast?_newline_of_not_mem unbroken]
      rfl
  | cons char front induction =>
      rw [List.cons_append, findLast?, induction]
      rfl

end Text

end Uncomment
