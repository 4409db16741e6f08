import Uncomment.Proofs.Block.Course
import Uncomment.Proofs.Text.Lines

namespace Uncomment

namespace Block

/-! Comments that have their lines to themselves go with these lines. The text to compare
with is the one without the lines that the comments cover; where the text starts with two
such comments, one right below the other, an empty line is left in front of it. -/

/-! ## Lines by number -/

def lineAt (text : Text) (offset : Nat) : Nat :=
  ((text.take? offset).getD text).count Text.newline

def lineRanges (text : Text) (spans : List Span) : List (Nat × Nat) :=
  spans.map fun span => (lineAt text span.opener, lineAt text span.closer)

def outside (ranges : List (Nat × Nat)) (start : Nat) (lines : List Text) : List Text :=
  ((lines.zipIdx start).filter fun (_, number) =>
    ranges.all fun (first, last) => number < first || last < number).map Prod.fst

/-- The lines of a text that no comment is on. -/
def freeLines (text : Text) (spans : List Span) : List Text :=
  outside (lineRanges text spans) 0 text.lines

/-- The first comment starts on the first line, and the second right below it. -/
def Stacked : List (Nat × Nat) → Prop
  | (first, last) :: (next, _) :: _ => first = 0 ∧ next = last + 1
  | _ => False

instance : (ranges : List (Nat × Nat)) → Decidable (Stacked ranges)
  | [] => inferInstanceAs (Decidable False)
  | [_] => inferInstanceAs (Decidable False)
  | (first, last) :: (next, _) :: _ =>
      inferInstanceAs (Decidable (first = 0 ∧ next = last + 1))

theorem outside_append (ranges : List (Nat × Nat)) (start : Nat) (front rest : List Text) :
    outside ranges start (front ++ rest) =
      outside ranges start front ++ outside ranges (start + front.length) rest := by
  rw [outside, List.zipIdx_append, List.filter_append, List.map_append]
  rfl

theorem outside_eq_self {ranges : List (Nat × Nat)} {start : Nat} {lines : List Text}
    (before : ∀ range ∈ ranges, start + lines.length ≤ range.1) :
    outside ranges start lines = lines := by
  have all : ∀ line ∈ lines.zipIdx start, (ranges.all fun (first, last) =>
      line.2 < first || last < line.2) = true := by
    intro line member
    have bound := List.mem_zipIdx member
    apply List.all_eq_true.mpr
    intro range inRanges
    have first := before range inRanges
    have below : line.2 < range.1 := by omega
    simp [below]
  rw [outside, List.filter_eq_self.mpr all, List.zipIdx_map_fst]

theorem outside_eq_nil {first last start : Nat} {ranges : List (Nat × Nat)}
    {lines : List Text} (from_first : first ≤ start)
    (to_last : start + lines.length ≤ last + 1) :
    outside ((first, last) :: ranges) start lines = [] := by
  have none : ∀ line ∈ lines.zipIdx start, ¬ (((first, last) :: ranges).all
      fun (first, last) => line.2 < first || last < line.2) = true := by
    intro line member all
    have bound := List.mem_zipIdx member
    have out := List.all_eq_true.mp all (first, last) List.mem_cons_self
    simp only [Bool.or_eq_true, decide_eq_true_eq] at out
    omega
  rw [outside, List.filter_eq_nil_iff.mpr none, List.map_nil]

theorem outside_cons_of_past {first last start : Nat} (past : last < start)
    (ranges : List (Nat × Nat)) (lines : List Text) :
    outside ((first, last) :: ranges) start lines = outside ranges start lines := by
  have same : ∀ line ∈ lines.zipIdx start,
      (((first, last) :: ranges).all fun (first, last) =>
        line.2 < first || last < line.2) =
      ranges.all fun (first, last) => line.2 < first || last < line.2 := by
    intro line member
    have bound := List.mem_zipIdx member
    have behind : last < line.2 := by omega
    simp [behind]
  rw [outside, List.filter_congr same]
  rfl

/-! ## Lines of a text with comments -/

def Parts.ranges (start : Nat) : Parts → List (Nat × Nat)
  | plain _ => []
  | commented gap body rest =>
      let first := start + gap.text.count Text.newline
      let last := first + body.text.count Text.newline
      (first, last) :: rest.ranges last

theorem count_throughComment (before : Text) (gap : Gap) (body : Body) :
    (throughComment before gap body).count Text.newline =
      before.count Text.newline + gap.text.count Text.newline +
        body.text.count Text.newline := by
  have markers : opening.count Text.newline = 0 ∧ closing.count Text.newline = 0 := by
    decide
  simp only [throughComment, List.count_append]
  omega

theorem lineAt_size (front rest : Text) :
    lineAt (front ++ rest) (Text.size front) = front.count Text.newline := by
  rw [lineAt, Text.take?_append, Option.getD_some]

theorem lineAt_opener (before : Text) (gap : Gap) (body : Body) (rest : Text) :
    lineAt (throughComment before gap body ++ rest) (commentSpan before gap body).opener =
      before.count Text.newline + gap.text.count Text.newline := by
  have counted := lineAt_size (before ++ gap.text)
    (opening ++ (body.text ++ closing ++ rest))
  rw [List.append_assoc, ← List.append_assoc gap.text, ← throughComment_append,
    Text.size_append, List.count_append] at counted
  exact counted

theorem lineAt_closer (before : Text) (gap : Gap) (body : Body) (rest : Text) :
    lineAt (throughComment before gap body ++ rest) (commentSpan before gap body).closer =
      before.count Text.newline + gap.text.count Text.newline +
        body.text.count Text.newline := by
  have counted := lineAt_size (before ++ gap.text ++ opening ++ body.text) (closing ++ rest)
  have equal : before ++ gap.text ++ opening ++ body.text ++ (closing ++ rest) =
      throughComment before gap body ++ rest := by
    simp [throughComment]
  have marker : opening.count Text.newline = 0 := by decide
  rw [equal] at counted
  simpa [commentSpan, marker, Nat.add_assoc] using counted

theorem lineRanges_parts (before : Text) (parts : Parts) :
    lineRanges (before ++ parts.text) (parts.spans (Text.size before)) =
      parts.ranges (before.count Text.newline) := by
  induction parts generalizing before with
  | plain gap => rfl
  | commented gap body rest induction =>
      have later := induction (throughComment before gap body)
      rw [count_throughComment] at later
      rw [Parts.text_commented, Parts.spans_commented, lineRanges, List.map_cons,
        lineAt_opener, lineAt_closer]
      exact congrArg _ later

theorem Parts.le_of_mem_ranges {parts : Parts} {start : Nat} {range : Nat × Nat}
    (member : range ∈ parts.ranges start) : start ≤ range.1 := by
  induction parts generalizing start with
  | plain gap => cases member
  | commented gap body rest induction =>
      rcases List.mem_cons.mp member with rfl | later
      · exact Nat.le_add_right _ _
      · have bound := induction later
        omega

theorem exists_covered_lines (gap : Gap) (body : Body) (rest : Parts) :
    ∃ covered, (Parts.commented gap body rest).text.lines =
        gap.text.lines.dropLast ++ covered ++ rest.text.lines.tail ∧
      covered.length = body.text.count Text.newline + 1 := by
  let comment := opening ++ (body.text ++ closing)
  have whole : (Parts.commented gap body rest).text = gap.text ++ (comment ++ rest.text) := by
    simp [Parts.text, comment]
  have markers : opening.count Text.newline = 0 ∧ closing.count Text.newline = 0 := by
    decide
  have count : comment.count Text.newline = body.text.count Text.newline := by
    simp [comment, markers]
  have length := Text.length_lines comment
  refine ⟨(Text.lastLine gap.text ++ Text.firstLine (comment ++ rest.text)) ::
    (comment.lines.dropLast ++ [Text.lastLine comment ++ Text.firstLine rest.text]).tail,
    ?_, ?_⟩
  · have tail : (comment ++ rest.text).lines.tail =
        (comment.lines.dropLast ++
          [Text.lastLine comment ++ Text.firstLine rest.text]).tail ++
            rest.text.lines.tail := by
      rw [Text.lines_append, ← List.singleton_append, ← List.append_assoc,
        List.tail_append_of_ne_nil (List.concat_ne_nil _ _)]
    rw [whole, Text.lines_append, tail]
    exact (List.append_assoc _ (_ :: _) _).symm
  · simp [length, count]

/-- Of some lines in front of a comment, the lines it is on, and lines behind it, the first
stay and the second are left out. -/
theorem outside_commented {gap : Gap} {body : Body} {rest : Parts}
    {start first last number : Nat} {front covered : List Text}
    (toFirst : first = start + gap.text.count Text.newline)
    (toLast : last = first + body.text.count Text.newline)
    (reached : number + front.length = first)
    (length : covered.length = body.text.count Text.newline + 1) (more : List Text) :
    outside ((Parts.commented gap body rest).ranges start) number
        (front ++ covered ++ more) =
      front ++ outside (rest.ranges last) (last + 1) more := by
  have ranges : (Parts.commented gap body rest).ranges start =
      (first, last) :: rest.ranges last := by
    rw [toLast, toFirst]
    rfl
  have stays : outside ((first, last) :: rest.ranges last) number front = front := by
    apply outside_eq_self
    intro range member
    rcases List.mem_cons.mp member with rfl | later
    · exact reached.le
    · have bound := Parts.le_of_mem_ranges later
      omega
  have leaves : outside ((first, last) :: rest.ranges last) first covered = [] :=
    outside_eq_nil le_rfl (by omega)
  have behind : number + (front ++ covered).length = last + 1 := by
    rw [List.length_append]
    omega
  rw [ranges, outside_append, outside_append, stays, reached, leaves, List.append_nil,
    behind, outside_cons_of_past (Nat.lt_succ_self last)]

/-- The lines that stay of a gap behind a comment, and of the gaps that follow. -/
def keptLines (gap : Text) : List Text → List Text
  | [] => gap.lines.tail
  | next :: gaps => gap.lines.tail.dropLast ++ keptLines next gaps

def Pending.AloneThrough (pending : Pending) (gaps : List Text) : Prop :=
  ∀ step ∈ pending.course gaps, step.1.opensLine = true ∧ step.2 = true

variable {pending : Pending} {gap : Text} {gaps : List Text}

theorem Pending.AloneThrough.head (alone : pending.AloneThrough (gap :: gaps)) :
    pending.opensLine = true ∧ closesLine gaps.isEmpty gap = true :=
  alone _ List.mem_cons_self

theorem Pending.AloneThrough.tail (alone : pending.AloneThrough (gap :: gaps)) :
    (pending.next true gap).AloneThrough gaps := by
  intro step member
  rw [← alone.head.2] at member
  exact alone step (List.mem_cons_of_mem _ member)

theorem remainder_alone (alone : pending.AloneThrough (gap :: gaps)) :
    remainder pending (gap :: gaps) =
      Text.earlierLines pending.left ++ remainder (pending.next true gap) gaps := by
  rcases alone.head with ⟨opens, closes⟩
  rw [remainder, closes, pending.kept_of_opensLine opens, opens, joint, List.append_nil]

theorem remainder_alone_fromBreak (alone : pending.AloneThrough gaps)
    (follows : pending.leading = false) (left : pending.left = Text.fromBreak pending.gap) :
    remainder pending gaps = (keptLines pending.gap gaps).flatMap (Text.newline :: ·) := by
  induction gaps generalizing pending with
  | nil =>
      rw [remainder, left, Text.fromBreak_eq_flatMap]
      rfl
  | cons gap gaps induction =>
      have opens := alone.head.1
      have broken := Pending.newline_mem_of_opensLine follows opens
      have later := induction alone.tail rfl (Pending.left_next opens broken gap)
      rw [remainder_alone alone, later, left, Text.earlierLines_fromBreak broken, keptLines,
        List.flatMap_append]
      rfl

/-- Behind a comment on the first line, the lines that stay of the gap are put at the start;
if there are none, a line break comes there all the same. -/
theorem remainder_alone_laterLines (alone : pending.AloneThrough (gap :: gaps))
    (follows : pending.leading = false)
    (left : pending.left = Text.laterLines pending.gap) :
    remainder pending (gap :: gaps) =
      Text.unlines pending.gap.lines.tail.dropLast ++
        (keptLines gap gaps).flatMap (Text.newline :: ·) := by
  have opens := alone.head.1
  have broken := Pending.newline_mem_of_opensLine follows opens
  have later := remainder_alone_fromBreak alone.tail rfl
    (Pending.left_next opens broken gap)
  rw [remainder_alone alone, later, left, Text.earlierLines_laterLines broken]
  rfl

theorem flatMap_newline_eq {lines : List Text} (some : lines ≠ []) :
    lines.flatMap (Text.newline :: ·) = Text.newline :: Text.unlines lines := by
  rcases List.exists_cons_of_ne_nil some with ⟨line, rest, rfl⟩
  rw [Text.unlines_cons_eq_flatMap]
  rfl

theorem remainder_start_of_mem {lead : Text} (broken : Text.newline ∈ lead)
    (alone : (Pending.start lead).AloneThrough (gap :: gaps)) :
    remainder (.start lead) (gap :: gaps) =
      Text.unlines (lead.lines.dropLast ++ keptLines gap gaps) := by
  have later := remainder_alone_fromBreak alone.tail rfl
    (Pending.left_next alone.head.1 broken gap)
  have some : lead.lines.dropLast ≠ [] := by
    rw [Text.lines_eq_concat broken, List.dropLast_concat]
    exact Text.lines_ne_nil _
  rw [remainder_alone alone, later, Text.unlines_append_eq_flatMap some,
    ← Text.earlierLines_eq_unlines]
  rfl

theorem remainder_start_of_not_mem {lead : Text} (unbroken : Text.newline ∉ lead)
    (alone : (Pending.start lead).AloneThrough (gap :: gaps)) :
    remainder (.start lead) (gap :: gaps) =
      if gaps ≠ [] ∧ gap.lines.tail.dropLast = [] ∧ keptLines gap gaps ≠ [] then
        Text.newline :: Text.unlines (keptLines gap gaps)
      else Text.unlines (keptLines gap gaps) := by
  have left : ((Pending.start lead).next true gap).left = Text.laterLines gap :=
    Pending.left_next_of_not_mem unbroken gap
  rw [remainder_alone alone]
  change Text.earlierLines lead ++ _ = _
  rw [Text.earlierLines_of_not_mem unbroken, List.nil_append]
  cases gaps with
  | nil =>
      rw [remainder, left, Text.laterLines_eq_unlines]
      rfl
  | cons next gaps =>
      rw [remainder_alone_laterLines alone.tail rfl left, keptLines]
      change Text.unlines gap.lines.tail.dropLast ++ _ = _
      -- With no line of its own, the gap leaves a line break if lines follow it.
      cases whole : gap.lines.tail.dropLast with
      | nil =>
          cases kept : keptLines next gaps with
          | nil => simp [Text.unlines]
          | cons line lines =>
              rw [flatMap_newline_eq (List.cons_ne_nil _ _)]
              simp [Text.unlines]
      | cons line lines =>
          rw [if_neg (by simp), Text.unlines_append_eq_flatMap (List.cons_ne_nil _ _)]

/-! ## The lines that stay -/

theorem length_dropLast_lines (text : Text) :
    text.lines.dropLast.length = text.count Text.newline := by
  rw [List.length_dropLast, Text.length_lines, Nat.add_sub_cancel]

theorem outside_ranges_tail {parts : Parts} (alone : pending.AloneThrough parts.later)
    (follows : pending.leading = false) (same : pending.gap = parts.lead) (start : Nat) :
    outside (parts.ranges start) (start + 1) parts.text.lines.tail =
      keptLines parts.lead parts.later := by
  induction parts generalizing pending start with
  | plain gap => exact outside_eq_self (List.forall_mem_nil _)
  | commented gap body rest induction =>
      have broken : Text.newline ∈ gap.text := by
        rw [← show pending.gap = gap.text from same]
        exact Pending.newline_mem_of_opensLine follows alone.head.1
      have positive := List.count_pos_iff.mpr broken
      have length := length_dropLast_lines gap.text
      have some : gap.text.lines.dropLast ≠ [] := by
        intro empty
        rw [empty, List.length_nil] at length
        omega
      have reached : start + 1 + gap.text.lines.dropLast.tail.length =
          start + gap.text.count Text.newline := by
        rw [List.length_tail]
        omega
      rcases exists_covered_lines gap body rest with ⟨covered, lines, coveredLength⟩
      rw [lines, List.append_assoc, List.tail_append_of_ne_nil some, ← List.append_assoc,
        outside_commented rfl rfl reached coveredLength, induction alone.tail rfl rfl,
        List.tail_dropLast]
      rfl

theorem freeLines_commented (gap : Gap) (body : Body) (rest : Parts)
    (alone : (Pending.start gap.text).AloneThrough (rest.lead :: rest.later)) :
    freeLines (Parts.commented gap body rest).text
        ((Parts.commented gap body rest).spans 0) =
      gap.text.lines.dropLast ++ keptLines rest.lead rest.later := by
  have ranges := lineRanges_parts [] (.commented gap body rest)
  have later := outside_ranges_tail alone.tail rfl rfl
    (gap.text.count Text.newline + body.text.count Text.newline)
  have reached : 0 + gap.text.lines.dropLast.length =
      0 + gap.text.count Text.newline := by
    rw [length_dropLast_lines]
  rcases exists_covered_lines gap body rest with ⟨covered, lines, coveredLength⟩
  rw [List.nil_append, Text.size_nil, List.count_nil] at ranges
  rw [freeLines, ranges, lines, outside_commented rfl rfl reached coveredLength]
  simp only [Nat.zero_add]
  rw [later]

/-- A gap between two comments has no line to itself just if it has a single line break. -/
theorem dropLast_tail_lines_eq_nil_iff {gap : Text} (broken : Text.newline ∈ gap) :
    gap.lines.tail.dropLast = [] ↔ gap.count Text.newline = 1 := by
  have positive := List.count_pos_iff.mpr broken
  have length := Text.length_lines gap
  rw [← List.length_eq_zero_iff, List.length_dropLast, List.length_tail]
  omega

theorem stacked_ranges_iff (gap : Gap) (body : Body) (rest : Parts)
    (alone : (Pending.start gap.text).AloneThrough (rest.lead :: rest.later)) :
    Stacked ((Parts.commented gap body rest).ranges 0) ↔
      Text.newline ∉ gap.text ∧ rest.later ≠ [] ∧ rest.lead.lines.tail.dropLast = [] := by
  rw [← List.count_eq_zero]
  cases rest with
  | plain last => simp [Parts.ranges, Parts.later, Stacked]
  | commented next nextBody rest =>
      have broken : Text.newline ∈ next.text :=
        Pending.newline_mem_of_opensLine rfl alone.tail.head.1
      have single := dropLast_tail_lines_eq_nil_iff broken
      simp only [Parts.ranges, Stacked, Parts.later, Parts.lead, single, ne_eq,
        reduceCtorEq, not_false_eq_true, true_and]
      omega

/-! ## All comments alone on their lines -/

theorem Fits.replacement_eq_none_iff {around : Surroundings} {step : Pending × Bool}
    (fits : Fits around step) :
    around.replacement = none ↔ step.1.opensLine = true ∧ step.2 = true := by
  rw [← fits.opens, ← fits.closes, Surroundings.replacement]
  cases around.opensLine <;> cases around.closesLine <;> simp

theorem strip_alone (gap : Gap) (body : Body) (rest : Parts)
    (alone : (Pending.start gap.text).AloneThrough (rest.lead :: rest.later)) :
    let text := (Parts.commented gap body rest).text
    let spans := (Parts.commented gap body rest).spans 0
    strip text = .changed
      (if Stacked (lineRanges text spans) ∧ freeLines text spans ≠ [] then
        Text.newline :: Text.unlines (freeLines text spans)
      else Text.unlines (freeLines text spans)) := by
  intro text spans
  have left : strip text = .changed
      (remainder (.start gap.text) (rest.lead :: rest.later)) :=
    strip_parts (.commented gap body rest) (List.cons_ne_nil _ _)
  have ranges := lineRanges_parts [] (.commented gap body rest)
  rw [List.nil_append, Text.size_nil, List.count_nil] at ranges
  have stacked := stacked_ranges_iff gap body rest alone
  rw [← ranges] at stacked
  rw [left, freeLines_commented gap body rest alone]
  simp only [text, spans, stacked]
  by_cases broken : Text.newline ∈ gap.text
  · rw [remainder_start_of_mem broken alone, if_neg (fun holds => holds.1.1 broken)]
  · rw [remainder_start_of_not_mem broken alone, Text.lines_of_not_mem broken,
      List.dropLast_singleton, List.nil_append]
    simp only [broken, not_false_eq_true, true_and, and_assoc]

/-- Where all comments have their lines to themselves, the lines they are on go and the
others stay. A line break is put in front of these if the first two comments start the
text on lines of their own, one right below the other. -/
theorem strip_ownLines {text : Text} {spans : List Span} (closed : scan text = .closed spans) :
    ∃ arounds, spans.mapM (Surroundings.of? text) = some arounds ∧
      ((∀ around ∈ arounds, around.replacement = none) →
        strip text = .changed
          (if Stacked (lineRanges text spans) ∧ freeLines text spans ≠ [] then
            Text.newline :: Text.unlines (freeLines text spans)
          else Text.unlines (freeLines text spans))) := by
  rcases scan_eq_closed_iff.mp closed with ⟨parts, commented, rfl, rfl⟩
  refine ⟨parts.arounds [], mapM_of?_parts [] parts, ?_⟩
  intro none
  have course := (Pending.start_at parts.lead).forall₂_course parts rfl
  have alone : (Pending.start parts.lead).AloneThrough parts.later :=
    (forall_arounds_iff (fun _ _ fits => fits.replacement_eq_none_iff) course).mp none
  cases parts with
  | plain gap => exact absurd rfl commented
  | commented gap body rest => exact strip_alone gap body rest alone

private def outlined : Text := "a\n/* é\n */\n  /** b */\t\n\nx\n/* c */".toList

/-- One comment is two lines long, one is indented and ends in a blank, and one ends the text. -/
theorem strip_ownLines_outlined :
    scan outlined = .closed [⟨2, 9⟩, ⟨14, 20⟩, ⟨27, 32⟩] ∧
      freeLines outlined [⟨2, 9⟩, ⟨14, 20⟩, ⟨27, 32⟩] = ["a".toList, [], "x".toList] ∧
      ∃ arounds, [⟨2, 9⟩, ⟨14, 20⟩, ⟨27, 32⟩].mapM (Surroundings.of? outlined) =
          some arounds ∧
        (∀ around ∈ arounds, around.replacement = none) ∧
        strip outlined = .changed (Text.unlines ["a".toList, [], "x".toList]) := by
  have closed : scan outlined = .closed [⟨2, 9⟩, ⟨14, 20⟩, ⟨27, 32⟩] := by decide +kernel
  have free : freeLines outlined [⟨2, 9⟩, ⟨14, 20⟩, ⟨27, 32⟩] =
      ["a".toList, [], "x".toList] := by decide +kernel
  have ranges : ¬ Stacked (lineRanges outlined [⟨2, 9⟩, ⟨14, 20⟩, ⟨27, 32⟩]) := by
    decide +kernel
  have looks : ([⟨2, 9⟩, ⟨14, 20⟩, ⟨27, 32⟩].mapM (Surroundings.of? outlined)).map
      (·.map Surroundings.replacement) = some [none, none, none] := by decide +kernel
  rcases strip_ownLines closed with ⟨arounds, looked, left⟩
  have alone : ∀ around ∈ arounds, around.replacement = none := by
    rw [looked, Option.map_some, Option.some.injEq] at looks
    intro around member
    have told := List.mem_map_of_mem (f := Surroundings.replacement) member
    rw [looks] at told
    simpa using told
  have kept := left alone
  rw [if_neg (fun holds => ranges holds.1), free] at kept
  exact ⟨closed, free, arounds, looked, alone, kept⟩

private def header : Text := "/* Licence */\n/** Doc. */\nx();\n".toList

/-- Both comments at the start have their lines to themselves, but an empty line is left. -/
theorem header_leaves_line :
    scan header = .closed [⟨0, 11⟩, ⟨14, 23⟩] ∧
      ([⟨0, 11⟩, ⟨14, 23⟩].mapM (Surroundings.of? header)).map
        (·.map Surroundings.replacement) = some [none, none] ∧
      Text.unlines (freeLines header [⟨0, 11⟩, ⟨14, 23⟩]) = "x();\n".toList ∧
      strip header = .changed "\nx();\n".toList := by
  decide +kernel

end Block

end Uncomment
