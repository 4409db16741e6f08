import Uncomment.Block.Strip
import Uncomment.Proofs.Block.Context
import Uncomment.Proofs.Block.Grammar

namespace Uncomment

namespace Block

/-! The pass over block comments told on the gaps alone. What it keeps of a gap is
settled by the white space at the two ends of that gap and by what the comment
before it has taken of the gap; comment bodies and offsets do not come in. -/

/-- What a comment leaves of the text after it. At a free line end the rest of the
line goes, and its line break goes as well unless it is needed. -/
def leftAfter (keepsBreak closes : Bool) (text : Text) : Text :=
  match closes, keepsBreak with
  | true, true => Text.fromBreak text
  | true, false => Text.laterLines text
  | false, _ => text

theorem leftAfter_suffix (keepsBreak closes : Bool) (text : Text) :
    leftAfter keepsBreak closes text <:+ text := by
  cases closes with
  | false => exact List.suffix_rfl
  | true =>
      cases keepsBreak with
      | false => exact Text.laterLines_suffix text
      | true => exact Text.fromBreak_suffix text

/-- A gap in front of a comment. `left` is what the comment before it has left of
it; `leading` tells that there is no comment before it. -/
structure Pending where
  leading : Bool
  gap : Text
  left : Text
  ending : left <:+ gap

namespace Pending

def start (gap : Text) : Pending where
  leading := true
  gap
  left := gap
  ending := List.suffix_rfl

def opensLine (pending : Pending) : Bool :=
  (pending.leading || decide (Text.newline ∈ pending.gap)) &&
    (Text.lastLine pending.gap).allBlank

/-- What stays of the gap, with the padding in front of the comment. The last line
goes with a comment that it only leads up to. -/
def padded (pending : Pending) : Text :=
  if pending.opensLine then Text.earlierLines pending.left else pending.left

def kept (pending : Pending) (closes : Bool) : Text :=
  if !pending.opensLine && closes then pending.padded.trimPadding else pending.padded

def keepsBreak (pending : Pending) : Bool :=
  pending.opensLine && decide (Text.newline ∈ pending.gap)

def next (pending : Pending) (closes : Bool) (gap : Text) : Pending where
  leading := false
  gap
  left := leftAfter pending.keepsBreak closes gap
  ending := leftAfter_suffix _ _ _

end Pending

def closesLine (last : Bool) (gap : Text) : Bool :=
  (last || decide (Text.newline ∈ gap)) && (Text.firstLine gap).allBlank

/-- What takes the place of a comment: a line break where it stands alone on one
side. -/
def joint : Bool → Bool → Text
  | true, false | false, true => [Text.newline]
  | true, true | false, false => []

def remainder : Pending → List Text → Text
  | pending, [] => pending.left
  | pending, gap :: gaps =>
      let closes := closesLine gaps.isEmpty gap
      pending.kept closes ++ joint pending.opensLine closes ++
        remainder (pending.next closes gap) gaps

/-! ## One comment -/

namespace Pending

variable {pending : Pending}

theorem leading_of_opensLine (opens : pending.opensLine = true)
    (unbroken : Text.newline ∉ pending.gap) : pending.leading = true := by
  rw [opensLine, decide_eq_false unbroken, Bool.or_false, Bool.and_eq_true] at opens
  exact opens.1

theorem newline_mem_of_opensLine (follows : pending.leading = false)
    (opens : pending.opensLine = true) : Text.newline ∈ pending.gap := by
  by_contra unbroken
  rw [leading_of_opensLine opens unbroken] at follows
  cases follows

theorem kept_of_opensLine (opens : pending.opensLine = true) (closes : Bool) :
    pending.kept closes = Text.earlierLines pending.left := by
  rw [kept, padded, opens]
  rfl

theorem left_next (opens : pending.opensLine = true)
    (broken : Text.newline ∈ pending.gap) (gap : Text) :
    (pending.next true gap).left = Text.fromBreak gap := by
  change leftAfter pending.keepsBreak true gap = _
  rw [keepsBreak, opens, decide_eq_true broken]
  rfl

theorem left_next_of_not_mem (unbroken : Text.newline ∉ pending.gap)
    (gap : Text) : (pending.next true gap).left = Text.laterLines gap := by
  change leftAfter pending.keepsBreak true gap = _
  rw [keepsBreak, decide_eq_false unbroken, Bool.and_false]
  rfl

end Pending

/-! ## What goes with a comment -/

namespace Surroundings

theorem getD_replacement (around : Surroundings) :
    around.replacement.getD [] = joint around.opensLine around.closesLine := by
  unfold replacement joint
  cases around.opensLine <;> cases around.closesLine <;> rfl

theorem removal_start (front : Text) (span : Span) (after : Text) :
    (between front span after).removal.start =
      if (Text.lastLine front).allBlank then Text.size (Text.earlierLines front)
      else span.opener := by
  rw [← findLast?_getD]
  cases opens : (Text.lastLine front).allBlank <;>
    cases closes : (Text.firstLine after).allBlank <;>
    simp [removal, between, lineStart, opens, closes]

theorem removal_stop (around : Surroundings) :
    around.removal.stop =
      if around.closesLine then
        if around.opensLine && around.breakBefore.isSome then
          around.breakAfter.getD around.size
        else around.nextLine
      else around.span.after := by
  rcases around with ⟨span, size, breakBefore, breakAfter, opens, closes⟩
  cases opens <;> cases closes <;> cases breakBefore <;> cases breakAfter <;> rfl

theorem removal_stop_add (front : Text) (span : Span) (after : Text) :
    (between front span after).removal.stop +
        Text.size (leftAfter
          ((Text.lastLine front).allBlank && decide (Text.newline ∈ front))
          (Text.firstLine after).allBlank after) =
      span.after + Text.size after := by
  rw [removal_stop, ← isSome_findLast?]
  change (if (Text.firstLine after).allBlank then
    if (Text.lastLine front).allBlank && (Text.findLast? Text.newline front).isSome
    then _ else _ else _) + _ = _
  cases (Text.firstLine after).allBlank with
  | false => rfl
  | true =>
      cases (Text.lastLine front).allBlank &&
        (Text.findLast? Text.newline front).isSome with
      | false => exact nextLine_add span.after after
      | true => exact breakAfter_add span.after after

theorem after_le_removal_stop (front : Text) (span : Span) (after : Text) :
    span.after ≤ (between front span after).removal.stop := by
  have stops := removal_stop_add front span after
  have bound := Text.size_le_of_suffix (leftAfter_suffix
    ((Text.lastLine front).allBlank && decide (Text.newline ∈ front))
    (Text.firstLine after).allBlank after)
  omega

end Surroundings

/-! ## Where the pass stands -/

namespace Pending

structure At (pending : Pending) (past : Text) (cursor : Nat) : Prop where
  leading : pending.leading = true → past = []
  following : pending.leading = false → closing <:+ past
  cursor : cursor + Text.size pending.left = Text.size past + Text.size pending.gap

variable {pending : Pending} {past : Text} {cursor : Nat}

theorem start_at (gap : Text) : (start gap).At [] 0 where
  leading _ := rfl
  following absurd := by cases absurd
  cursor := rfl

theorem At.exists_consumed (reached : pending.At past cursor) :
    ∃ consumed, pending.gap = consumed ++ pending.left ∧
      cursor = Text.size (past ++ consumed) := by
  rcases pending.ending with ⟨consumed, equal⟩
  refine ⟨consumed, equal.symm, ?_⟩
  have sizes := reached.cursor
  rw [← equal, Text.size_append] at sizes
  rw [Text.size_append]
  omega

/-- A closing marker on the line of the next comment is no white space. -/
theorem At.opensLine_eq (reached : pending.At past cursor) :
    (Text.lastLine (past ++ pending.gap)).allBlank = pending.opensLine := by
  unfold opensLine
  by_cases broken : Text.newline ∈ pending.gap
  · rw [Text.lastLine_append_of_mem broken, decide_eq_true broken, Bool.or_true,
      Bool.true_and]
  · rw [decide_eq_false broken, Bool.or_false]
    cases leads : pending.leading with
    | true => rw [reached.leading leads, List.nil_append, Bool.true_and]
    | false =>
        rcases reached.following leads with ⟨earlier, rfl⟩
        rw [Text.lastLine_append_of_not_mem broken,
          Text.lastLine_append_of_not_mem newline_not_mem_closing,
          Surroundings.allBlank_append, Surroundings.allBlank_append]
        change (_ && false && _) = _
        rw [Bool.and_false, Bool.false_and, Bool.false_and]

theorem At.keepsBreak_eq (reached : pending.At past cursor) :
    ((Text.lastLine (past ++ pending.gap)).allBlank &&
      decide (Text.newline ∈ past ++ pending.gap)) = pending.keepsBreak := by
  rw [reached.opensLine_eq, keepsBreak]
  by_cases broken : Text.newline ∈ pending.gap
  · simp [broken]
  · cases leads : pending.leading with
    | true => simp [reached.leading leads]
    | false => simp [opensLine, leads, broken]

theorem padded_prefix (pending : Pending) : pending.padded <+: pending.left := by
  unfold padded
  split
  · exact Text.earlierLines_prefix pending.left
  · exact List.prefix_rfl

/-- Where the removal starts, unless the comment before has taken more. A line break
that is gone already is not gone back to. -/
theorem At.max_start (reached : pending.At past cursor) :
    max
        (if pending.opensLine then Text.size (Text.earlierLines (past ++ pending.gap))
        else Text.size past + Text.size pending.gap)
        cursor =
      cursor + Text.size pending.padded := by
  rcases reached.exists_consumed with ⟨consumed, gapParts, cursorSize⟩
  unfold padded
  cases pending.opensLine with
  | false =>
      have sizes := reached.cursor
      simp only [Bool.false_eq_true, ↓reduceIte]
      omega
  | true =>
      simp only [↓reduceIte]
      rw [gapParts, ← List.append_assoc, cursorSize]
      by_cases broken : Text.newline ∈ pending.left
      · rw [Text.earlierLines_append_of_mem broken,
          Text.size_append _ (Text.earlierLines _)]
        omega
      · -- The line break in front, if any, lies behind the cursor.
        have bound := Text.size_le_of_prefix (Text.earlierLines_prefix (past ++ consumed))
        rw [Text.earlierLines_append_of_not_mem broken, Text.earlierLines_of_not_mem broken,
          Text.size_nil]
        omega

theorem At.max_removal_start (reached : pending.At past cursor) {gap : Gap}
    (same : pending.gap = gap.text) (body : Body) (after : Text) :
    max (Surroundings.between (past ++ gap.text) (commentSpan past gap body)
        after).removal.start cursor =
      cursor + Text.size pending.padded := by
  rw [← reached.max_start, Surroundings.removal_start, ← same, reached.opensLine_eq, same]
  rfl

theorem At.slice?_padded (reached : pending.At past cursor) (rest : Text) :
    Text.slice? (past ++ (pending.gap ++ rest)) cursor
      (cursor + Text.size pending.padded) = some pending.padded := by
  rcases reached.exists_consumed with ⟨consumed, gapParts, cursorSize⟩
  rcases pending.padded_prefix with ⟨dropped, leftParts⟩
  have textParts : past ++ (pending.gap ++ rest) =
      (past ++ consumed) ++ pending.padded ++ (dropped ++ rest) := by
    rw [gapParts, ← leftParts]
    simp
  rw [textParts, cursorSize]
  exact Text.slice?_append _ _ _

/-! ## Past a comment -/

theorem leftAfter_append {closes : Bool} {gap more : Text}
    (within : closes = true → Text.newline ∈ gap ∨ more = []) (keepsBreak : Bool) :
    leftAfter keepsBreak closes (gap ++ more) =
      leftAfter keepsBreak closes gap ++ more := by
  cases closes with
  | false => rfl
  | true =>
      rcases within rfl with broken | rfl
      · cases keepsBreak with
        | false => exact Text.laterLines_append_of_mem broken more
        | true => exact Text.fromBreak_append_of_mem broken more
      · rw [List.append_nil, List.append_nil]

theorem exists_more (rest : Parts) :
    ∃ more, rest.text = rest.lead ++ more ∧
      (rest.later = [] ∧ more = [] ∨ rest.later ≠ [] ∧ opening <+: more) := by
  cases rest with
  | plain gap => exact ⟨[], (List.append_nil _).symm, .inl ⟨rfl, rfl⟩⟩
  | commented gap body rest =>
      refine ⟨opening ++ (body.text ++ closing ++ rest.text), ?_, .inr ⟨?_, ?_⟩⟩
      · rw [Parts.text, Parts.lead, List.append_assoc]
      · exact List.cons_ne_nil _ _
      · exact List.prefix_append _ _

theorem closesLine_eq (rest : Parts) :
    (Text.firstLine rest.text).allBlank = closesLine rest.later.isEmpty rest.lead := by
  rcases exists_more rest with ⟨more, equal, ⟨last, rfl⟩ | ⟨followed, marker⟩⟩
  · rw [equal, last, List.append_nil]
    rfl
  · rw [equal, closesLine, List.isEmpty_eq_false_iff.mpr followed, Bool.false_or]
    by_cases broken : Text.newline ∈ rest.lead
    · rw [Text.firstLine_append_of_mem broken, decide_eq_true broken, Bool.true_and]
    · rcases marker with ⟨inside, rfl⟩
      rw [Text.firstLine_append_of_not_mem broken,
        Text.firstLine_append_of_not_mem newline_not_mem_opening,
        Surroundings.allBlank_append, Surroundings.allBlank_append,
        decide_eq_false broken]
      change (_ && (false && _)) = _
      rw [Bool.false_and, Bool.and_false, Bool.false_and]

/-- The pass goes on in the next gap, behind what the comment takes of it. -/
theorem At.next (reached : pending.At past cursor) {gap : Gap}
    (same : pending.gap = gap.text) (body : Body) (rest : Parts) :
    (pending.next (closesLine rest.later.isEmpty rest.lead) rest.lead).At
      (throughComment past gap body)
      (max
        (Surroundings.between (past ++ gap.text) (commentSpan past gap body)
          rest.text).removal.stop
        (cursor + Text.size pending.padded)) where
  leading absurd := by cases absurd
  following _ := by
    rw [throughComment, ← List.append_assoc, ← List.append_assoc, ← List.append_assoc]
    exact List.suffix_append _ _
  cursor := by
    rcases exists_more rest with ⟨more, equal, ending⟩
    have within : closesLine rest.later.isEmpty rest.lead = true →
        Text.newline ∈ rest.lead ∨ more = [] := by
      intro closes
      rcases ending with ⟨_, empty⟩ | ⟨followed, _⟩
      · exact .inr empty
      · rw [closesLine, List.isEmpty_eq_false_iff.mpr followed, Bool.false_or,
          Bool.and_eq_true, decide_eq_true_iff] at closes
        exact .inl closes.1
    have stops := Surroundings.removal_stop_add (past ++ gap.text)
      (commentSpan past gap body) rest.text
    rw [← same, reached.keepsBreak_eq, closesLine_eq, same, equal,
      leftAfter_append within, Text.size_append, Text.size_append, ← size_throughComment]
      at stops
    have leftBound := Text.size_le_of_suffix (leftAfter_suffix pending.keepsBreak
      (closesLine rest.later.isEmpty rest.lead) rest.lead)
    have paddedBound := Text.size_le_of_prefix pending.padded_prefix
    have gapBound := Text.size_le_of_prefix (List.prefix_append (past ++ gap.text)
      (opening ++ (body.text ++ closing)))
    have sizes := reached.cursor
    rw [same] at sizes
    rw [List.append_assoc, Text.size_append past gap.text, ← List.append_assoc gap.text]
      at gapBound
    change _ ≤ Text.size (throughComment past gap body) at gapBound
    rw [equal]
    change _ + Text.size (leftAfter _ _ _) = _ + Text.size rest.lead
    omega

end Pending

/-! ## The whole pass -/

/-- From where it stands, the pass leaves the remainder of the gaps. The offsets of the
text and the comment bodies between them are gone from the result. -/
theorem stripFrom?_parts {pending : Pending} {past : Text} {cursor : Nat} (parts : Parts)
    (reached : pending.At past cursor) (same : pending.gap = parts.lead) :
    stripFrom? (past ++ parts.text) cursor (parts.spans (Text.size past)) =
      some (remainder pending parts.later) := by
  -- Along the comments `past` grows, and `At` is what ties the cursor to it.
  induction parts generalizing pending past cursor with
  | plain gap =>
      rcases reached.exists_consumed with ⟨consumed, gapParts, cursorSize⟩
      have gapText : gap.text = consumed ++ pending.left := same.symm.trans gapParts
      rw [Parts.text, Parts.spans, stripFrom?, gapText, cursorSize, ← List.append_assoc,
        Text.drop?_append]
      rfl
  | commented gap body rest induction =>
      change pending.gap = gap.text at same
      have opens := reached.opensLine_eq
      have startAt := reached.max_removal_start same body rest.text
      have slice := reached.slice?_padded
        (opening ++ (body.text ++ closing ++ rest.text))
      have tail := induction (reached.next same body rest) rfl
      rw [same] at opens slice
      rw [← List.append_assoc gap.text, ← throughComment_append] at slice
      rw [Parts.text_commented, Parts.spans_commented, stripFrom?,
        Surroundings.of?_throughComment]
      simp only [Option.bind_eq_bind, Option.bind_some, startAt, slice, tail,
        Surroundings.getD_replacement]
      change some ((if !(Text.lastLine (past ++ gap.text)).allBlank &&
          (Text.firstLine rest.text).allBlank
        then _ else _) ++ joint (Text.lastLine (past ++ gap.text)).allBlank
          (Text.firstLine rest.text).allBlank ++ _) = _
      rw [opens, Pending.closesLine_eq]
      rfl

theorem strip?_parts (parts : Parts) (commented : parts.bodies ≠ []) :
    strip? parts.text = some (.changed (remainder (.start parts.lead) parts.later)) := by
  have found := scanFrom?_parts [] parts
  have left := stripFrom?_parts parts (Pending.start_at parts.lead) rfl
  rw [List.nil_append, Text.size_nil] at found left
  cases parts with
  | plain gap => exact absurd rfl commented
  | commented gap body rest =>
      rw [Parts.spans] at found left
      rw [strip?, found, Option.bind_eq_bind, Option.bind_some]
      change Option.bind (stripFrom? _ 0 _) _ = _
      rw [left]
      rfl

/-- A text with comments, all of them closed, is left with the remainder of its gaps. -/
theorem strip_parts (parts : Parts) (commented : parts.bodies ≠ []) :
    strip parts.text = .changed (remainder (.start parts.lead) parts.later) := by
  rw [strip, strip?_parts parts commented, Option.getD_some]

theorem strip?_of_not_closed {text : Text}
    (notClosed : ∀ spans, scan text ≠ .closed spans) : strip? text = some .unchanged := by
  rw [strip?, scanFrom?_eq_some_scan]
  cases found : scan text with
  | absent => rfl
  | unclosed opener => rfl
  | closed spans => exact absurd found (notClosed spans)

theorem strip_of_not_closed {text : Text}
    (notClosed : ∀ spans, scan text ≠ .closed spans) : strip text = .unchanged := by
  rw [strip, strip?_of_not_closed notClosed, Option.getD_some]

/-- The pass changes just the texts with comments that are all closed. -/
theorem strip_eq_changed_iff {text left : Text} :
    strip text = .changed left ↔
      ∃ parts : Parts, parts.bodies ≠ [] ∧ parts.text = text ∧
        remainder (.start parts.lead) parts.later = left := by
  constructor
  · intro changed
    cases found : scan text with
    | absent =>
        rw [strip_of_not_closed (by simp [found])] at changed
        cases changed
    | unclosed opener =>
        rw [strip_of_not_closed (by simp [found])] at changed
        cases changed
    | closed spans =>
        rcases scan_eq_closed_iff.mp found with ⟨parts, commented, rfl, _⟩
        rw [strip_parts parts commented] at changed
        exact ⟨parts, commented, rfl, Edit.changed.inj changed⟩
  · rintro ⟨parts, commented, rfl, rfl⟩
    exact strip_parts parts commented

end Block

end Uncomment
