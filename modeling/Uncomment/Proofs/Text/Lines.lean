import Uncomment.Proofs.Text.Break
import Uncomment.Proofs.Text.Trim

namespace Uncomment

namespace Text

/-! The lines of a text, and its lines of code: what is on each line once the
white space around it and the lines with nothing else are gone. -/

def lines (text : Text) : List Text := text.splitOn newline

/-- The lines trimmed at both ends, without those left empty. -/
def codeLines (text : Text) : List Text :=
  ((lines text).map trim).filter fun line => !line.isEmpty

example : codeLines "  a  b\n\t\n\nc \r\n".toList = ["a  b".toList, "c".toList] := by
  decide +kernel

@[simp] theorem lines_append_newline (front rest : Text) :
    lines (front ++ newline :: rest) = lines front ++ lines rest :=
  List.splitOn_append_cons_self front rest

@[simp] theorem lines_of_not_mem {text : Text} (unbroken : newline ∉ text) :
    lines text = [text] :=
  List.splitOn_eq_singleton unbroken

theorem lines_induction {motive : Text → Prop}
    (single : ∀ line, newline ∉ line → motive line)
    (more : ∀ line rest, newline ∉ line → motive rest → motive (line ++ newline :: rest))
    (text : Text) : motive text := by
  induction length : text.length using Nat.strongRecOn generalizing text with
  | _ count induction =>
      by_cases broken : newline ∈ text
      · rcases List.eq_append_cons_of_mem broken with ⟨line, rest, rfl, unbroken⟩
        refine more line rest unbroken (induction rest.length ?_ rest rfl)
        rw [List.length_append, List.length_cons] at length
        omega
      · exact single text broken

/-! ## Texts from lines -/

def unlines (lines : List Text) : Text := [newline].intercalate lines

theorem unlines_lines (text : Text) : unlines (lines text) = text :=
  List.intercalate_splitOn newline

@[simp] theorem unlines_singleton (line : Text) : unlines [line] = line :=
  List.intercalate_singleton

theorem lines_ne_nil (text : Text) : lines text ≠ [] :=
  List.splitOn_ne_nil newline text

theorem not_mem_of_mem_lines (text : Text) : ∀ line ∈ lines text, newline ∉ line := by
  induction text using lines_induction with
  | single line unbroken => simp [unbroken]
  | more line rest unbroken induction =>
      intro other member
      rw [lines_append_newline, lines_of_not_mem unbroken] at member
      rcases List.mem_cons.mp member with rfl | member
      · exact unbroken
      · exact induction other member

theorem unlines_cons (line : Text) {rest : List Text} (others : rest ≠ []) :
    unlines (line :: rest) = line ++ newline :: unlines rest := by
  rcases List.exists_cons_of_ne_nil others with ⟨next, later, rfl⟩
  rw [unlines, List.intercalate_cons_cons, List.append_assoc]
  rfl

theorem unlines_concat (front : List Text) (line : Text) :
    unlines (front ++ [line]) = front.flatMap (· ++ [newline]) ++ line := by
  induction front with
  | nil => exact unlines_singleton line
  | cons first front induction =>
      rw [List.cons_append, unlines_cons first (List.concat_ne_nil line front), induction]
      simp

theorem unlines_append {front rest : List Text} (some : front ≠ []) (others : rest ≠ []) :
    unlines (front ++ rest) = unlines front ++ newline :: unlines rest := by
  induction front with
  | nil => exact absurd rfl some
  | cons line front induction =>
      cases front with
      | nil => rw [List.singleton_append, unlines_cons line others, unlines_singleton]
      | cons next front =>
          have joined : (next :: front) ++ rest ≠ [] := List.cons_ne_nil _ _
          rw [List.cons_append, unlines_cons line joined, induction (List.cons_ne_nil _ _),
            unlines_cons line (List.cons_ne_nil _ _), List.append_assoc, List.cons_append]

theorem unlines_cons_eq_flatMap (line : Text) (rest : List Text) :
    unlines (line :: rest) = line ++ rest.flatMap (newline :: ·) := by
  induction rest generalizing line with
  | nil => simp
  | cons next later induction =>
      rw [unlines_cons line (List.cons_ne_nil _ _), induction, List.flatMap_cons]
      rfl

theorem unlines_append_eq_flatMap {front : List Text} (some : front ≠ [])
    (rest : List Text) :
    unlines (front ++ rest) = unlines front ++ rest.flatMap (newline :: ·) := by
  rcases List.exists_cons_of_ne_nil some with ⟨line, later, rfl⟩
  rw [List.cons_append, unlines_cons_eq_flatMap, unlines_cons_eq_flatMap,
    List.flatMap_append, List.append_assoc]

/-! ## The first and the last line -/

theorem lines_eq_cons {text : Text} (broken : newline ∈ text) :
    lines text = firstLine text :: lines (laterLines text) := by
  rcases List.eq_append_cons_of_mem broken with ⟨line, rest, rfl, unbroken⟩
  rw [lines_append_newline, lines_of_not_mem unbroken, firstLine_append_newline unbroken,
    laterLines_append_newline unbroken]
  rfl

theorem lines_eq_concat {text : Text} (broken : newline ∈ text) :
    lines text = lines (earlierLines text) ++ [lastLine text] := by
  rcases exists_last_break broken with ⟨front, line, rfl, unbroken⟩
  rw [lines_append_newline, lines_of_not_mem unbroken, lastLine_append_newline unbroken,
    earlierLines_append_newline unbroken]

theorem laterLines_eq_unlines (text : Text) :
    laterLines text = unlines (lines text).tail := by
  by_cases broken : newline ∈ text
  · rw [lines_eq_cons broken, List.tail_cons, unlines_lines]
  · rw [laterLines_of_not_mem broken, lines_of_not_mem broken]
    rfl

theorem earlierLines_eq_unlines (text : Text) :
    earlierLines text = unlines (lines text).dropLast := by
  by_cases broken : newline ∈ text
  · rw [lines_eq_concat broken, List.dropLast_concat, unlines_lines]
  · rw [earlierLines_of_not_mem broken, lines_of_not_mem broken]
    rfl

theorem fromBreak_eq_flatMap (text : Text) :
    fromBreak text = (lines text).tail.flatMap (newline :: ·) := by
  by_cases broken : newline ∈ text
  · have whole := unlines_cons_eq_flatMap [] (lines (laterLines text))
    rw [unlines_cons [] (lines_ne_nil _), unlines_lines, List.nil_append, List.nil_append]
      at whole
    rw [lines_eq_cons broken, List.tail_cons, ← whole, fromBreak_eq_cons broken]
  · rw [fromBreak_of_not_mem broken, lines_of_not_mem broken]
    rfl

theorem lines_laterLines {text : Text} (broken : newline ∈ text) :
    lines (laterLines text) = (lines text).tail := by
  rw [lines_eq_cons broken, List.tail_cons]

theorem earlierLines_laterLines {text : Text} (broken : newline ∈ text) :
    earlierLines (laterLines text) = unlines (lines text).tail.dropLast := by
  rw [earlierLines_eq_unlines, lines_laterLines broken]

theorem earlierLines_fromBreak {text : Text} (broken : newline ∈ text) :
    earlierLines (fromBreak text) =
      (lines text).tail.dropLast.flatMap (newline :: ·) := by
  have parts : lines (fromBreak text) = [] :: (lines text).tail := by
    rw [fromBreak_eq_cons broken, ← lines_laterLines broken]
    exact lines_append_newline [] _
  have some : (lines text).tail ≠ [] := by
    rw [← lines_laterLines broken]
    exact lines_ne_nil _
  rw [earlierLines_eq_unlines, parts, List.dropLast_cons_of_ne_nil some,
    unlines_cons_eq_flatMap]
  rfl

/-- Where two texts meet, the last line of one and the first line of the other are one. -/
theorem lines_append (left right : Text) :
    lines (left ++ right) =
      (lines left).dropLast ++ (lastLine left ++ firstLine right) :: (lines right).tail := by
  have meeting {line : Text} (unbroken : newline ∉ line) :
      lines (line ++ right) = (line ++ firstLine right) :: (lines right).tail := by
    by_cases broken : newline ∈ right
    · rcases List.eq_append_cons_of_mem broken with ⟨first, rest, rfl, free⟩
      have joined : newline ∉ line ++ first := by simp [unbroken, free]
      rw [← List.append_assoc, lines_append_newline, lines_append_newline,
        lines_of_not_mem joined, lines_of_not_mem free, firstLine_append_newline free]
      rfl
    · have joined : newline ∉ line ++ right := by simp [unbroken, broken]
      rw [lines_of_not_mem joined, lines_of_not_mem broken, firstLine_of_not_mem broken]
      rfl
  by_cases broken : newline ∈ left
  · rcases exists_last_break broken with ⟨front, line, rfl, unbroken⟩
    rw [List.append_assoc, List.cons_append, lines_append_newline, meeting unbroken,
      lines_append_newline, lines_of_not_mem unbroken, List.dropLast_concat,
      lastLine_append_newline unbroken]
  · rw [meeting broken, lines_of_not_mem broken, lastLine_of_not_mem broken]
    rfl

theorem length_lines (text : Text) : (lines text).length = text.count newline + 1 := by
  induction text using lines_induction with
  | single line unbroken =>
      rw [lines_of_not_mem unbroken, List.count_eq_zero_of_not_mem unbroken]
      rfl
  | more line rest unbroken induction =>
      rw [lines_append_newline, lines_of_not_mem unbroken, List.length_append, induction,
        List.count_append, List.count_eq_zero_of_not_mem unbroken, List.count_cons_self,
        List.length_singleton]
      omega

/-! ## What occurs in lines -/

/-- A pattern without line breaks occurs in a text just if it occurs in a line. -/
theorem infix_unlines_iff {pattern : Text} (absent : newline ∉ pattern)
    (nonempty : pattern ≠ []) (lines : List Text) :
    pattern <:+: unlines lines ↔ ∃ line ∈ lines, pattern <:+: line := by
  induction lines with
  | nil => simpa [unlines] using nonempty
  | cons line rest induction =>
      cases rest with
      | nil => simp
      | cons next others =>
          rw [unlines_cons line (List.cons_ne_nil _ _),
            infix_append_cons_iff_of_not_mem absent, induction]
          simp

/-! ## Lines of code -/

@[simp] theorem codeLines_append_newline (front rest : Text) :
    codeLines (front ++ newline :: rest) = codeLines front ++ codeLines rest := by
  rw [codeLines, lines_append_newline, List.map_append, List.filter_append]
  rfl

theorem codeLines_of_not_mem {text : Text} (unbroken : newline ∉ text) :
    codeLines text = [trim text].filter fun line => !line.isEmpty := by
  rw [codeLines, lines_of_not_mem unbroken]
  rfl

@[simp] theorem codeLines_cons_newline (rest : Text) :
    codeLines (newline :: rest) = codeLines rest :=
  codeLines_append_newline [] rest

theorem codeLines_blank_append {pad : Text} (blank : allBlank pad) (text : Text) :
    codeLines (pad ++ text) = codeLines text := by
  induction pad using lines_induction with
  | single pad unbroken =>
      by_cases broken : newline ∈ text
      · rcases List.eq_append_cons_of_mem broken with ⟨line, rest, rfl, free⟩
        have joined : newline ∉ pad ++ line := by simp [unbroken, free]
        rw [← List.append_assoc, codeLines_append_newline, codeLines_append_newline,
          codeLines_of_not_mem joined, codeLines_of_not_mem free, trim_blank_append blank]
      · have joined : newline ∉ pad ++ text := by simp [unbroken, broken]
        rw [codeLines_of_not_mem joined, codeLines_of_not_mem broken,
          trim_blank_append blank]
  | more line rest unbroken induction =>
      have parts := blank_parts blank
      rw [List.append_assoc, List.cons_append, codeLines_append_newline,
        codeLines_of_not_mem unbroken, trim_of_blank parts.1]
      exact induction parts.2

theorem codeLines_of_blank {text : Text} (blank : allBlank text) : codeLines text = [] := by
  rw [← List.append_nil text, codeLines_blank_append blank]
  rfl

theorem codeLines_append_blank {pad : Text} (blank : allBlank pad) (text : Text) :
    codeLines (text ++ pad) = codeLines text := by
  induction text using lines_induction with
  | single text unbroken =>
      by_cases broken : newline ∈ pad
      · rcases List.eq_append_cons_of_mem broken with ⟨line, rest, rfl, free⟩
        have joined : newline ∉ text ++ line := by simp [unbroken, free]
        have parts := blank_parts blank
        have restBlank : allBlank rest := parts.2
        rw [← List.append_assoc, codeLines_append_newline, codeLines_of_not_mem joined,
          codeLines_of_not_mem unbroken, trim_append_blank parts.1,
          codeLines_of_blank restBlank, List.append_nil]
      · have joined : newline ∉ text ++ pad := by simp [unbroken, broken]
        rw [codeLines_of_not_mem joined, codeLines_of_not_mem unbroken,
          trim_append_blank blank]
  | more line rest unbroken induction =>
      rw [List.append_assoc, List.cons_append, codeLines_append_newline, induction,
        codeLines_append_newline]

/-- Dropping the padding at the end of a text leaves its lines of code. -/
theorem codeLines_append_trimPadding (front text : Text) :
    codeLines (front ++ trimPadding text) = codeLines (front ++ text) := by
  rcases exists_padding text with ⟨pad, equal, blank⟩
  conv_rhs => rw [equal]
  rw [← List.append_assoc, codeLines_append_blank blank]

/-! ## What occurs in lines of code -/

section
variable {pattern : Text} (nonempty : pattern ≠ [])
  (shown : ∀ char ∈ pattern, isBlank char = false)

include nonempty shown

theorem not_infix_of_blank {pad : Text} (blank : allBlank pad) : ¬ pattern <:+: pad := by
  intro occurs
  rcases List.exists_mem_of_ne_nil pattern nonempty with ⟨char, member⟩
  have visible := shown char member
  rw [blank_of_mem blank char (occurs.subset member)] at visible
  cases visible

theorem infix_append_blank_iff {pad : Text} (blank : allBlank pad) (text : Text) :
    pattern <:+: text ++ pad ↔ pattern <:+: text := by
  cases pad with
  | nil => rw [List.append_nil]
  | cons char pad =>
      rcases blank_cons blank with ⟨charBlank, padBlank⟩
      have absent : char ∉ pattern := by
        intro member
        exact Bool.false_ne_true ((shown char member).symm.trans charBlank)
      rw [infix_append_cons_iff_of_not_mem absent,
        or_iff_left (not_infix_of_blank nonempty shown padBlank)]

theorem infix_blank_append_iff {pad : Text} (blank : allBlank pad) (text : Text) :
    pattern <:+: pad ++ text ↔ pattern <:+: text := by
  induction pad with
  | nil => rfl
  | cons char pad induction =>
      rcases blank_cons blank with ⟨charBlank, padBlank⟩
      have absent : char ∉ pattern := by
        intro member
        exact Bool.false_ne_true ((shown char member).symm.trans charBlank)
      have empty : ¬ pattern <:+: [] := not_infix_of_blank nonempty shown rfl
      have here := infix_append_cons_iff_of_not_mem absent [] (pad ++ text)
      exact here.trans ((or_iff_right empty).trans (induction padBlank))

theorem infix_trim_iff (text : Text) : pattern <:+: trim text ↔ pattern <:+: text := by
  rcases exists_pads text with ⟨front, back, equal, frontBlank, backBlank⟩
  conv_rhs => rw [equal]
  rw [infix_append_blank_iff nonempty shown backBlank,
    infix_blank_append_iff nonempty shown frontBlank]

/-- A pattern without white space occurs in a text just if it occurs in one of its lines
of code. -/
theorem infix_iff_codeLines (text : Text) :
    pattern <:+: text ↔ ∃ line ∈ codeLines text, pattern <:+: line := by
  induction text using lines_induction with
  | single line unbroken =>
      rw [codeLines_of_not_mem unbroken, ← infix_trim_iff nonempty shown line]
      cases trimmed : trim line with
      | nil => simpa using nonempty
      | cons char rest => simp
  | more line rest unbroken induction =>
      have absent : newline ∉ pattern := fun member => nomatch shown newline member
      rw [infix_append_cons_iff_of_not_mem absent, induction, codeLines_append_newline,
        codeLines_of_not_mem unbroken, ← infix_trim_iff nonempty shown line]
      cases trimmed : trim line with
      | nil => simp [nonempty]
      | cons char rest => simp [or_and_right, exists_or]

end

end Text

end Uncomment
