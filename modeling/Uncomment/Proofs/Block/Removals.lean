import Uncomment.Proofs.Block.Course
import Uncomment.Proofs.Loop

namespace Uncomment

namespace Block

/-! Where the removals of the comments of a text lie. Each takes in its comment and besides
it only white space, and two in a row have no more in common than the line break between
their comments. -/

/-- The removal of a comment starts and stops between two characters of the text, takes in
the comment, and nothing but white space on either side of it. -/
structure Surroundings.Placed (around : Surroundings) (text : Text) : Prop where
  covers : around.removal.start ≤ around.span.opener ∧
    around.span.after ≤ around.removal.stop
  within : around.removal.stop ≤ text.size
  boundaries : text.IsBoundary around.removal.start ∧ text.IsBoundary around.removal.stop
  blank : ∃ lead trail,
    text.slice? around.removal.start around.span.opener = some lead ∧
      text.slice? around.span.after around.removal.stop = some trail ∧
        Text.allBlank (lead ++ trail)

/-- The removals of two comments in a row have one byte in common, a line break. The first
comment closes its line and takes the line break with it, since code stands in front of it on
its line, or the line is the first of the text; the second comment opens the next line and
takes in the line break before that. -/
structure SharesBreak (text : Text) (first second : Surroundings) : Prop where
  overlap : first.removal.stop = second.removal.start + 1
  shared : text.slice? second.removal.start first.removal.stop = some [Text.newline]
  opens : second.opensLine = true
  closes : first.closesLine = true
  keepsNone : first.opensLine = false ∨ first.breakBefore = none

structure InOrder (text : Text) (first second : Surroundings) : Prop where
  beforeComment : first.removal.stop ≤ second.span.opener
  beforeRemoval : first.removal.stop ≤ second.removal.start ∨
    SharesBreak text first second

/-! ## One removal -/

namespace Surroundings

theorem exists_lead (front rest after : Text) {span : Span}
    (opener : span.opener = Text.size front) :
    ∃ lead, (front ++ rest).slice? (between front span after).removal.start span.opener =
        some lead ∧
      lead.allBlank := by
  rw [removal_start, opener]
  split
  · rename_i opens
    rcases slice?_lead front rest with ⟨lead, slice, blank⟩
    rw [findLast?_getD] at slice
    exact ⟨lead, slice, blank.trans opens⟩
  · have slice := Text.slice?_append front [] rest
    rw [List.append_nil] at slice
    exact ⟨[], slice, rfl⟩

/-- What a comment takes of the text after it is white space. -/
theorem exists_taken (keepsBreak : Bool) (text : Text) :
    ∃ taken, text = taken ++ leftAfter keepsBreak (Text.firstLine text).allBlank text ∧
      taken.allBlank := by
  cases closes : (Text.firstLine text).allBlank with
  | false => exact ⟨[], rfl, rfl⟩
  | true =>
      have line : text = Text.firstLine text ++ Text.fromBreak text :=
        List.takeWhile_append_dropWhile.symm
      cases keepsBreak with
      | true => exact ⟨Text.firstLine text, line, closes⟩
      | false =>
          by_cases broken : Text.newline ∈ text
          · rw [Text.fromBreak_eq_cons broken, List.append_cons] at line
            refine ⟨Text.firstLine text ++ [Text.newline], line, ?_⟩
            rw [allBlank_append, closes]
            rfl
          · rw [Text.firstLine_of_not_mem broken] at closes
            refine ⟨text, ?_, closes⟩
            change text = text ++ Text.laterLines text
            rw [Text.laterLines_of_not_mem broken, List.append_nil]

theorem exists_trail (front before after : Text) {span : Span}
    (stop : span.after = Text.size before) :
    ∃ trail, (before ++ after).slice? span.after (between front span after).removal.stop =
        some trail ∧
      trail.allBlank := by
  have stops := removal_stop_add front span after
  rcases exists_taken ((Text.lastLine front).allBlank && decide (Text.newline ∈ front)) after
    with ⟨taken, parts, blank⟩
  have sizes := congrArg Text.size parts
  rw [Text.size_append] at sizes
  have stopsAt : (between front span after).removal.stop =
      Text.size before + Text.size taken := by
    omega
  refine ⟨taken, ?_, blank⟩
  rw [stopsAt, stop]
  conv_lhs => rw [parts, ← List.append_assoc]
  exact Text.slice?_append _ _ _

theorem placed_between (past : Text) (gap : Gap) (body : Body) (after : Text) :
    (between (past ++ gap.text) (commentSpan past gap body) after).Placed
      (throughComment past gap body ++ after) := by
  have front : throughComment past gap body ++ after =
      (past ++ gap.text) ++ (opening ++ (body.text ++ closing ++ after)) := by
    simp [throughComment]
  have opener : (commentSpan past gap body).opener = Text.size (past ++ gap.text) :=
    (Text.size_append _ _).symm
  rcases exists_lead (past ++ gap.text) (opening ++ (body.text ++ closing ++ after)) after
    opener with ⟨lead, leadSlice, leadBlank⟩
  rcases exists_trail (past ++ gap.text) _ after (size_throughComment past gap body).symm with
    ⟨trail, trailSlice, trailBlank⟩
  rw [← front] at leadSlice
  have leadEnds := Text.isSome_slice?_iff.mp (Option.isSome_of_eq_some leadSlice)
  have trailEnds := Text.isSome_slice?_iff.mp (Option.isSome_of_eq_some trailSlice)
  rcases leadEnds with ⟨starts, _, startBoundary, _⟩
  rcases trailEnds with ⟨stops, within, _, stopBoundary⟩
  refine ⟨⟨starts, stops⟩, within, ⟨startBoundary, stopBoundary⟩, lead, trail, leadSlice,
    trailSlice, ?_⟩
  rw [allBlank_append, leadBlank, trailBlank]
  rfl

end Surroundings

theorem placed_arounds (past : Text) (parts : Parts) :
    ∀ around ∈ parts.arounds past, around.Placed (past ++ parts.text) := by
  induction parts generalizing past with
  | plain gap => exact List.forall_mem_nil _
  | commented gap body rest induction =>
      rw [Parts.text_commented]
      exact List.forall_mem_cons.mpr
        ⟨Surroundings.placed_between past gap body rest.text, induction _⟩

/-! ## Two removals in a row -/

variable {pending : Pending} {past : Text} {cursor : Nat}

/-- A comment opens the next line and finds the line break before it gone just where the
comment in front of it has taken a single line break with it. -/
theorem Pending.line_of_not_clear {closes : Bool} {gap : Text}
    (taken : ¬ (pending.next closes gap).Clear) :
    (pending.next closes gap).opensLine = true ∧ closes = true ∧
      pending.keepsBreak = false ∧
        ∃ line, Text.newline ∉ line ∧ Text.newline ∉ (pending.next closes gap).left ∧
          gap = line ++ Text.newline :: (pending.next closes gap).left := by
  simp only [Clear, not_forall] at taken
  rcases taken with ⟨opens, broken, gone⟩
  change Text.newline ∈ gap at broken
  refine ⟨opens, ?_⟩
  change Text.newline ∉ leftAfter pending.keepsBreak closes gap at gone
  change _ ∧ _ ∧ ∃ line, _ ∧ Text.newline ∉ leftAfter pending.keepsBreak closes gap ∧
    gap = line ++ Text.newline :: leftAfter pending.keepsBreak closes gap
  cases closes with
  | false => exact absurd broken gone
  | true =>
      cases keeps : pending.keepsBreak with
      | true =>
          rw [keeps, leftAfter, Text.fromBreak_eq_cons broken] at gone
          exact absurd List.mem_cons_self gone
      | false =>
          rw [keeps, leftAfter] at gone
          rcases List.eq_append_cons_of_mem broken with ⟨line, rest, rfl, unbroken⟩
          rw [Text.laterLines_append_newline unbroken] at gone
          refine ⟨rfl, rfl, line, unbroken, ?_⟩
          rw [leftAfter, Text.laterLines_append_newline unbroken]
          exact ⟨gone, rfl⟩

/-- The line break that is gone is the last byte of what went before the cursor, and the
first of the removal. -/
theorem Pending.At.overlap {closes : Bool} {gap : Gap}
    (next : (pending.next closes gap.text).At past cursor)
    (taken : ¬ (pending.next closes gap.text).Clear) (span : Span) (after rest : Text) :
    cursor = (Surroundings.between (past ++ gap.text) span after).removal.start + 1 ∧
      (past ++ (gap.text ++ rest)).slice?
        (Surroundings.between (past ++ gap.text) span after).removal.start cursor =
          some [Text.newline] := by
  rcases Pending.line_of_not_clear taken with
    ⟨opens, _, _, line, _, gone, parts⟩
  have front : past ++ gap.text =
      (past ++ line) ++ Text.newline :: (pending.next closes gap.text).left := by
    rw [List.append_assoc, ← parts]
  have start : (Surroundings.between (past ++ gap.text) span after).removal.start =
      Text.size (past ++ line) := by
    have blank : (Text.lastLine (past ++ gap.text)).allBlank = true :=
      next.opensLine_eq.trans opens
    rw [Surroundings.removal_start, if_pos blank, front,
      Text.earlierLines_append_newline gone]
  have stop : cursor = Text.size (past ++ line) + 1 := by
    have sizes := next.cursor
    change _ = Text.size past + Text.size gap.text at sizes
    rw [← Text.size_append, front, Text.size_append _ (_ :: _), Text.size_cons,
      Text.utf8Size_newline] at sizes
    omega
  rw [start]
  refine ⟨stop, ?_⟩
  rw [← List.append_assoc, front, stop, List.append_cons, List.append_assoc]
  exact Text.slice?_append _ [Text.newline] _

theorem Pending.At.inOrder (reached : pending.At past cursor) {gap : Gap}
    (same : pending.gap = gap.text) (body : Body) (nextGap : Gap) (nextBody : Body)
    (rest : Parts) :
    InOrder (throughComment past gap body ++ (Parts.commented nextGap nextBody rest).text)
      (.between (past ++ gap.text) (commentSpan past gap body)
        (Parts.commented nextGap nextBody rest).text)
      (.between (throughComment past gap body ++ nextGap.text)
        (commentSpan (throughComment past gap body) nextGap nextBody) rest.text) := by
  have next := reached.next_removal same body (.commented nextGap nextBody rest)
  have fits := reached.fits same body (.commented nextGap nextBody rest)
  change (pending.next (closesLine false nextGap.text) nextGap.text).At _ _ at next
  change Fits _ (pending, closesLine false nextGap.text) at fits
  constructor
  · have sizes := next.cursor
    change _ = Text.size (throughComment past gap body) + Text.size nextGap.text at sizes
    change _ ≤ Text.size (throughComment past gap body) + Text.size nextGap.text
    omega
  · by_cases clear : (pending.next (closesLine false nextGap.text) nextGap.text).Clear
    · have apart := next.clear_iff (fun absurd => by cases absurd) rfl nextBody rest.text
      exact .inl (apart.mp clear)
    · -- The line break is gone, so the first comment has taken it: the two share it.
      rcases Pending.line_of_not_clear clear with ⟨opens, closes, keeps, _⟩
      rcases next.overlap clear (commentSpan (throughComment past gap body) nextGap nextBody)
        rest.text (opening ++ (nextBody.text ++ closing ++ rest.text)) with ⟨one, shared⟩
      rw [← List.append_assoc nextGap.text] at shared
      have none := fits.keeps.trans keeps
      rw [Bool.and_eq_false_iff, Option.isSome_eq_false_iff, Option.isNone_iff_eq_none] at none
      exact .inr ⟨one, shared, next.opensLine_eq.trans opens, fits.closes.trans closes, none⟩

theorem Pending.At.isChain_arounds (parts : Parts) (reached : pending.At past cursor)
    (same : pending.gap = parts.lead) :
    (parts.arounds past).IsChain (InOrder (past ++ parts.text)) := by
  -- `At` says how far the removal before reaches into the gap that comes next.
  induction parts generalizing pending past cursor with
  | plain gap => exact .nil
  | commented gap body rest induction =>
      have tail := induction (reached.next_removal same body rest) rfl
      rw [Parts.text_commented, Parts.arounds, List.isChain_cons]
      refine ⟨?_, tail⟩
      cases rest with
      | plain last => simp [Parts.arounds]
      | commented nextGap nextBody rest =>
          intro second follows
          cases follows
          exact reached.inOrder same body nextGap nextBody rest

theorem map_span_arounds (past : Text) (parts : Parts) :
    (parts.arounds past).map Surroundings.span = parts.spans (Text.size past) := by
  induction parts generalizing past with
  | plain gap => rfl
  | commented gap body rest induction =>
      rw [Parts.arounds, List.map_cons, induction, Parts.spans_commented]
      rfl

/-! ## The removals of a text -/

/-- The removal of each comment takes in the comment and besides it only white space, and
it lies in the text and cuts no character in two. Of two comments in a row the first is
removed up to the second at most. Their removals lie apart, or have a single line break in
common; then the second comment opens a line, and the first one closes its line and has code
in front of it or stands on the first line of the text. -/
theorem removals_in_order {text : Text} {spans : List Span}
    (closed : scan text = .closed spans) :
    ∃ arounds, spans.mapM (Surroundings.of? text) = some arounds ∧
      arounds.map Surroundings.span = spans ∧
      (∀ around ∈ arounds, around.Placed text) ∧
      arounds.IsChain (InOrder text) := by
  rcases scan_eq_closed_iff.mp closed with ⟨parts, _, rfl, rfl⟩
  refine ⟨parts.arounds [], mapM_of?_parts [] parts, map_span_arounds [] parts,
    placed_arounds [] parts, ?_⟩
  exact (Pending.start_at parts.lead).isChain_arounds parts rfl

private def crowded : Text := "/* L */\n/** a */ x /* é */ \n\t/* b\n */ y".toList

/-- The second removal starts at a line break that goes with a comment on the first line, the
last one at a line break that goes with a comment behind code. -/
theorem removals_in_order_crowded :
    scan crowded = .closed [⟨0, 5⟩, ⟨8, 14⟩, ⟨19, 25⟩, ⟨30, 36⟩] ∧
      ∃ arounds, [⟨0, 5⟩, ⟨8, 14⟩, ⟨19, 25⟩, ⟨30, 36⟩].mapM (Surroundings.of? crowded) =
          some arounds ∧
        arounds.map Surroundings.removal = [⟨0, 8⟩, ⟨7, 16⟩, ⟨19, 29⟩, ⟨28, 38⟩] ∧
        (∀ around ∈ arounds, around.Placed crowded) ∧
        arounds.IsChain (InOrder crowded) := by
  have closed : scan crowded = .closed [⟨0, 5⟩, ⟨8, 14⟩, ⟨19, 25⟩, ⟨30, 36⟩] := by
    decide +kernel
  have ranges : ([⟨0, 5⟩, ⟨8, 14⟩, ⟨19, 25⟩, ⟨30, 36⟩].mapM
      (Surroundings.of? crowded)).map (·.map Surroundings.removal) =
        some [⟨0, 8⟩, ⟨7, 16⟩, ⟨19, 29⟩, ⟨28, 38⟩] := by decide +kernel
  rcases removals_in_order closed with ⟨arounds, looked, _, placed, chain⟩
  rw [looked, Option.map_some, Option.some.injEq] at ranges
  exact ⟨closed, arounds, looked, ranges, placed, chain⟩

end Block

end Uncomment
