import Uncomment.Block.Surroundings
import Uncomment.Proofs.Block.Parts
import Uncomment.Proofs.Text.Break

namespace Uncomment

namespace Block

/-! What stands around a comment, told from the texts before and after it: its line
breaks are looked for in those, never in the comment's own text. -/

theorem newline_not_mem_opening : Text.newline ∉ opening := by decide

theorem newline_not_mem_closing : Text.newline ∉ closing := by decide

namespace Surroundings

def between (front : Text) (span : Span) (after : Text) : Surroundings where
  span
  size := span.after + Text.size after
  breakBefore := Text.findLast? Text.newline front
  breakAfter := (Text.find? [Text.newline] after).map (span.after + ·)
  opensLine := (Text.lastLine front).allBlank
  closesLine := (Text.firstLine after).allBlank

theorem allBlank_append (left right : Text) :
    Text.allBlank (left ++ right) = (left.allBlank && right.allBlank) :=
  List.all_append

/-! ## The stretches that are looked at -/

theorem findLast?_getD (front : Text) :
    (Text.findLast? Text.newline front).getD 0 = Text.size (Text.earlierLines front) := by
  by_cases broken : Text.newline ∈ front
  · rcases Text.exists_last_break broken with ⟨earlier, line, rfl, unbroken⟩
    rw [Text.findLast?_newline unbroken, Text.earlierLines_append_newline unbroken]
    rfl
  · rw [Text.findLast?_newline_of_not_mem broken, Text.earlierLines_of_not_mem broken]
    rfl

theorem slice?_lead (front rest : Text) :
    ∃ lead, Text.slice? (front ++ rest) ((Text.findLast? Text.newline front).getD 0)
        (Text.size front) = some lead ∧
      lead.allBlank = (Text.lastLine front).allBlank := by
  rw [findLast?_getD]
  by_cases broken : Text.newline ∈ front
  · rcases Text.exists_last_break broken with ⟨earlier, line, rfl, unbroken⟩
    refine ⟨Text.newline :: line, ?_, ?_⟩
    · rw [Text.earlierLines_append_newline unbroken, Text.size_append, Text.slice?_append]
    · rw [Text.lastLine_append_newline unbroken]
      rfl
  · refine ⟨front, ?_, by rw [Text.lastLine_of_not_mem broken]⟩
    rw [Text.earlierLines_of_not_mem broken]
    simpa using Text.slice?_append [] front rest

theorem nextLine_add (start : Nat) (after : Text) :
    (((Text.find? [Text.newline] after).map (start + ·)).map (· + 1)).getD
        (start + Text.size after) + Text.size (Text.laterLines after) =
      start + Text.size after := by
  by_cases broken : Text.newline ∈ after
  · rcases List.eq_append_cons_of_mem broken with ⟨line, rest, rfl, unbroken⟩
    rw [Text.find?_newline unbroken, Text.laterLines_append_newline unbroken]
    simp only [Option.map_some, Option.getD_some, Text.size_append, Text.size_cons,
      Text.utf8Size_newline]
    omega
  · rw [Text.find?_newline_of_not_mem broken, Text.laterLines_of_not_mem broken]
    rfl

theorem breakAfter_add (start : Nat) (after : Text) :
    ((Text.find? [Text.newline] after).map (start + ·)).getD (start + Text.size after) +
        Text.size (Text.fromBreak after) =
      start + Text.size after := by
  by_cases broken : Text.newline ∈ after
  · rcases List.eq_append_cons_of_mem broken with ⟨line, rest, rfl, unbroken⟩
    rw [Text.find?_newline unbroken, Text.fromBreak_append_newline unbroken]
    simp only [Option.map_some, Option.getD_some, Text.size_append]
    omega
  · rw [Text.find?_newline_of_not_mem broken, Text.fromBreak_of_not_mem broken]
    rfl

theorem isSome_findLast? (front : Text) :
    (Text.findLast? Text.newline front).isSome = decide (Text.newline ∈ front) := by
  by_cases broken : Text.newline ∈ front
  · rcases Text.exists_last_break broken with ⟨earlier, line, rfl, unbroken⟩
    rw [Text.findLast?_newline unbroken, decide_eq_true broken]
    rfl
  · rw [Text.findLast?_newline_of_not_mem broken, decide_eq_false broken]
    rfl

theorem slice?_trail (front after : Text) :
    ∃ trail, Text.slice? (front ++ after) (Text.size front)
        ((((Text.find? [Text.newline] after).map (Text.size front + ·)).map (· + 1)).getD
          (Text.size front + Text.size after)) = some trail ∧
      trail.allBlank = (Text.firstLine after).allBlank := by
  have ends := nextLine_add (Text.size front) after
  by_cases broken : Text.newline ∈ after
  · rcases List.eq_append_cons_of_mem broken with ⟨line, rest, rfl, unbroken⟩
    refine ⟨line ++ [Text.newline], ?_, ?_⟩
    · rw [Text.laterLines_append_newline unbroken] at ends
      apply Text.slice?_eq_some_iff.mpr
      refine ⟨front, rest, by simp, rfl, ?_⟩
      simp only [Text.size_append, Text.size_cons, Text.size_nil] at ends ⊢
      omega
    · rw [Text.firstLine_append_newline unbroken, allBlank_append]
      exact Bool.and_true _
  · refine ⟨after, ?_, by rw [Text.firstLine_of_not_mem broken]⟩
    rw [Text.laterLines_of_not_mem broken] at ends
    apply Text.slice?_eq_some_iff.mpr
    exact ⟨front, [], by simp, rfl, ends.symm⟩

theorem find?_newline_closing (closer : Nat) (after : Text) :
    (Text.find? [Text.newline] (closing ++ after)).map (closer + ·) =
      (Text.find? [Text.newline] after).map (closer + Text.size closing + ·) := by
  by_cases broken : Text.newline ∈ after
  · rcases List.eq_append_cons_of_mem broken with ⟨line, rest, rfl, unbroken⟩
    have joined : Text.newline ∉ closing ++ line := by
      simp [newline_not_mem_closing, unbroken]
    rw [← List.append_assoc, Text.find?_newline joined, Text.find?_newline unbroken,
      Text.size_append]
    simp [Nat.add_assoc]
  · have joined : Text.newline ∉ closing ++ after := by
      simp [newline_not_mem_closing, broken]
    rw [Text.find?_newline_of_not_mem joined, Text.find?_newline_of_not_mem broken]
    rfl

/-- Looking around a comment sees only what stands before and after it. -/
theorem of?_throughComment (before : Text) (gap : Gap) (body : Body) (after : Text) :
    of? (throughComment before gap body ++ after) (commentSpan before gap body) =
      some (between (before ++ gap.text) (commentSpan before gap body) after) := by
  have front : throughComment before gap body ++ after =
      (before ++ gap.text) ++ (opening ++ body.text ++ closing ++ after) := by
    simp [throughComment]
  have atCloser : throughComment before gap body ++ after =
      (before ++ gap.text ++ opening ++ body.text) ++ (closing ++ after) := by
    simp [throughComment]
  have openerSize : (commentSpan before gap body).opener =
      Text.size (before ++ gap.text) := by
    simp [commentSpan]
  have closerSize : (commentSpan before gap body).closer =
      Text.size (before ++ gap.text ++ opening ++ body.text) := by
    simp [commentSpan, Nat.add_assoc]
  have taken : Text.take? (commentSpan before gap body).opener
      (throughComment before gap body ++ after) = some (before ++ gap.text) := by
    rw [front, openerSize, Text.take?_append]
  have dropped : Text.drop? (commentSpan before gap body).closer
      (throughComment before gap body ++ after) = some (closing ++ after) := by
    rw [atCloser, closerSize, Text.drop?_append]
  rcases slice?_lead (before ++ gap.text)
    (opening ++ body.text ++ closing ++ after) with ⟨lead, leadSlice, leadBlank⟩
  rcases slice?_trail (throughComment before gap body) after with
    ⟨trail, trailSlice, trailBlank⟩
  rw [← front, ← openerSize] at leadSlice
  rw [size_throughComment] at trailSlice
  have breakAfter := find?_newline_closing (commentSpan before gap body).closer after
  change _ = Option.map ((commentSpan before gap body).after + ·) _ at breakAfter
  simp only [of?, taken, dropped, Option.bind_eq_bind, Option.bind_some, leadSlice,
    breakAfter, trailSlice, leadBlank, trailBlank, between, Text.size_append,
    size_throughComment]
  rfl

end Surroundings

end Block

end Uncomment
