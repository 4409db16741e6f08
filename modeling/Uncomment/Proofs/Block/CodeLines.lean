import Uncomment.Proofs.Block.Remainder
import Uncomment.Proofs.Text.Lines

namespace Uncomment

namespace Block

/-! Taking out block comments keeps the lines of code. The text to compare with is
the one with the comments cut out exactly and nothing else moved. -/

def excise? (text : Text) (cursor : Nat) : List Span → Option Text
  | [] => text.drop? cursor
  | span :: spans => do
      let kept ← text.slice? cursor span.opener
      let rest ← excise? text span.after spans
      return kept ++ rest

/-- The text with the comments that the search reports cut out of it. -/
def bare? (text : Text) : Option Text :=
  match scan text with
  | .absent | .unclosed _ => some text
  | .closed spans => excise? text 0 spans

theorem excise?_parts (before : Text) (parts : Parts) :
    excise? (before ++ parts.text) (Text.size before) (parts.spans (Text.size before)) =
      some parts.code := by
  induction parts generalizing before with
  | plain gap =>
      rw [Parts.spans, excise?, Text.drop?_append, Parts.text, Parts.code_plain]
  | commented gap body rest induction =>
      have kept := Text.slice?_append before gap.text
        (opening ++ (body.text ++ closing ++ rest.text))
      rw [List.append_assoc, ← List.append_assoc gap.text, ← throughComment_append] at kept
      have tail := induction (throughComment before gap body)
      rw [size_throughComment] at tail
      rw [Parts.text_commented, Parts.spans_commented, size_throughComment, excise?]
      change Option.bind (Text.slice? _ _ (Text.size before + Text.size gap.text)) _ = _
      rw [kept, Option.bind_some, tail, Parts.code_commented]
      rfl

theorem bare?_parts (parts : Parts) : bare? parts.text = some parts.code := by
  have excised := excise?_parts [] parts
  rw [List.nil_append, Text.size_nil] at excised
  rw [bare?, scan_parts]
  cases parts with
  | plain gap => exact congrArg some (Parts.code_plain gap).symm
  | commented gap body rest => exact excised

/-! ## Line ends next to a comment -/

theorem blank_of_suffix {left text : Text} (ending : left <:+ text)
    (blank : Text.allBlank text) : Text.allBlank left := by
  apply List.all_eq_true.mpr
  intro char member
  exact Text.blank_of_mem blank char (ending.subset member)

theorem Pending.blank_lastLine {pending : Pending} (opens : pending.opensLine = true) :
    Text.allBlank (Text.lastLine pending.left) := by
  rw [opensLine, Bool.and_eq_true] at opens
  exact blank_of_suffix (Text.lastLine_suffix pending.ending) opens.2

theorem last_of_closing {gap : Text} {gaps : List Text}
    (closes : closesLine gaps.isEmpty gap = true) (unbroken : Text.newline ∉ gap) :
    gaps.flatten = [] := by
  rw [closesLine, decide_eq_false unbroken, Bool.or_false, Bool.and_eq_true,
    List.isEmpty_iff] at closes
  rw [closes.1, List.flatten_nil]

theorem codeLines_closing {gap : Text} {gaps : List Text}
    (closes : closesLine gaps.isEmpty gap = true) (front : Text) :
    Text.codeLines (front ++ (gap ++ gaps.flatten)) =
      Text.codeLines front ++ Text.codeLines (Text.laterLines gap ++ gaps.flatten) := by
  have blank := (Bool.and_eq_true_iff.mp closes).2
  by_cases broken : Text.newline ∈ gap
  · rcases List.eq_append_cons_of_mem broken with ⟨line, rest, rfl, unbroken⟩
    rw [Text.firstLine_append_newline unbroken] at blank
    rw [Text.laterLines_append_newline unbroken, List.append_assoc, List.cons_append,
      ← List.append_assoc, Text.codeLines_append_newline,
      Text.codeLines_append_blank blank]
  · rw [Text.firstLine_of_not_mem broken] at blank
    rw [last_of_closing closes broken, Text.laterLines_of_not_mem broken,
      List.append_nil, Text.codeLines_append_blank blank]
    exact (List.append_nil _).symm

theorem codeLines_fromBreak (gap rest : Text) (front : Text)
    (last : Text.newline ∉ gap → rest = []) :
    Text.codeLines (front ++ (Text.fromBreak gap ++ rest)) =
      Text.codeLines front ++ Text.codeLines (Text.laterLines gap ++ rest) := by
  by_cases broken : Text.newline ∈ gap
  · rcases List.eq_append_cons_of_mem broken with ⟨line, later, rfl, unbroken⟩
    rw [Text.fromBreak_append_newline unbroken, Text.laterLines_append_newline unbroken,
      List.cons_append, Text.codeLines_append_newline]
  · rw [Text.fromBreak_of_not_mem broken, Text.laterLines_of_not_mem broken, last broken]
    rw [List.append_nil, List.append_nil]
    exact (List.append_nil _).symm

/-! ## One comment -/

def KeepsCode (pending : Pending) (written rest : Text) : Prop :=
  ∀ front, (pending.opensLine = true → Text.newline ∉ pending.left → front = []) →
    Text.codeLines (front ++ written) = Text.codeLines (front ++ (pending.left ++ rest))

variable {pending : Pending} {gap tail : Text} {gaps : List Text}

theorem KeepsCode.of_nil (keeps : KeepsCode pending tail gaps.flatten) :
    Text.codeLines tail = Text.codeLines (pending.left ++ gaps.flatten) :=
  keeps [] fun _ _ => rfl

/-- After a line break in the output, a comment that closes a line leaves the lines of
code after it. -/
theorem KeepsCode.of_closing (closes : closesLine gaps.isEmpty gap = true)
    (keeps : KeepsCode (pending.next true gap) tail gaps.flatten) :
    Text.codeLines tail = Text.codeLines (Text.laterLines gap ++ gaps.flatten) := by
  rw [keeps.of_nil]
  change Text.codeLines (leftAfter pending.keepsBreak true gap ++ gaps.flatten) = _
  cases pending.keepsBreak with
  | false => rfl
  | true => exact codeLines_fromBreak gap gaps.flatten [] (last_of_closing closes)

/-- A comment that opens a line after a line break that is still there: the last line
of the gap goes, and a line break comes in the place of the one in front of it. -/
theorem keepsCode_opening (opens : pending.opensLine = true)
    (broken : Text.newline ∈ pending.left)
    (keeps : KeepsCode (pending.next (closesLine gaps.isEmpty gap) gap) tail
      gaps.flatten) :
    KeepsCode pending
      (Text.earlierLines pending.left ++ joint true (closesLine gaps.isEmpty gap) ++ tail)
      (gap ++ gaps.flatten) := by
  intro front _
  have blank := Pending.blank_lastLine opens
  have inGap : Text.newline ∈ pending.gap := pending.ending.subset broken
  rcases Text.exists_last_break broken with ⟨earlier, line, equal, unbroken⟩
  rw [equal, Text.lastLine_append_newline unbroken] at blank
  have expected : Text.codeLines (front ++ (pending.left ++ (gap ++ gaps.flatten))) =
      Text.codeLines (front ++ earlier) ++ Text.codeLines (gap ++ gaps.flatten) := by
    rw [equal, List.append_assoc earlier, List.cons_append, ← List.append_assoc front,
      Text.codeLines_append_newline, Text.codeLines_blank_append blank]
  rw [expected, equal, Text.earlierLines_append_newline unbroken]
  cases closes : closesLine gaps.isEmpty gap with
  | false =>
      rw [closes] at keeps
      change Text.codeLines (front ++ (earlier ++ [Text.newline] ++ tail)) = _
      rw [List.append_assoc earlier, ← List.append_assoc front, List.singleton_append,
        Text.codeLines_append_newline, keeps.of_nil]
      rfl
  | true =>
      rw [closes] at keeps
      have left := Pending.left_next opens inGap gap
      -- The output has no line break before `tail`, but the text left for it has one.
      have written := keeps (front ++ earlier) (by
        intro opensNext unbrokenNext
        have brokenNext := Pending.newline_mem_of_opensLine rfl opensNext
        rcases List.eq_append_cons_of_mem brokenNext with ⟨first, rest, rfl, free⟩
        rw [left, Text.fromBreak_append_newline free] at unbrokenNext
        exact absurd List.mem_cons_self unbrokenNext)
      have closing := codeLines_closing closes []
      rw [List.nil_append] at closing
      change Text.codeLines (front ++ (earlier ++ [] ++ tail)) = _
      rw [List.append_nil, ← List.append_assoc, written, left, closing,
        codeLines_fromBreak gap gaps.flatten (front ++ earlier) (last_of_closing closes)]
      rfl

theorem keepsCode_opening_unbroken (opens : pending.opensLine = true)
    (unbroken : Text.newline ∉ pending.left)
    (keeps : KeepsCode (pending.next (closesLine gaps.isEmpty gap) gap) tail
      gaps.flatten) :
    KeepsCode pending
      (Text.earlierLines pending.left ++ joint true (closesLine gaps.isEmpty gap) ++ tail)
      (gap ++ gaps.flatten) := by
  intro front clear
  have blank := Pending.blank_lastLine opens
  rw [Text.lastLine_of_not_mem unbroken] at blank
  rw [clear opens unbroken, Text.earlierLines_of_not_mem unbroken, List.nil_append,
    List.nil_append, List.nil_append, Text.codeLines_blank_append blank]
  cases closes : closesLine gaps.isEmpty gap with
  | false =>
      rw [closes] at keeps
      change Text.codeLines (Text.newline :: tail) = _
      rw [Text.codeLines_cons_newline, keeps.of_nil]
      rfl
  | true =>
      rw [closes] at keeps
      have closing := codeLines_closing closes []
      rw [List.nil_append] at closing
      change Text.codeLines tail = _
      rw [keeps.of_closing closes, closing]
      rfl

theorem keepsCode_trailing
    (keeps : KeepsCode (pending.next (closesLine gaps.isEmpty gap) gap) tail
      gaps.flatten) :
    KeepsCode pending
      ((if closesLine gaps.isEmpty gap then pending.left.trimPadding else pending.left) ++
        joint false (closesLine gaps.isEmpty gap) ++ tail)
      (gap ++ gaps.flatten) := by
  intro front _
  cases closes : closesLine gaps.isEmpty gap with
  | false =>
      rw [closes] at keeps
      have written := keeps (front ++ pending.left) (by
        intro opensNext unbrokenNext
        exact absurd (Pending.newline_mem_of_opensLine rfl opensNext) unbrokenNext)
      change Text.codeLines (front ++ (pending.left ++ [] ++ tail)) = _
      rw [List.append_nil, ← List.append_assoc, written, List.append_assoc]
      rfl
  | true =>
      rw [closes] at keeps
      change Text.codeLines
        (front ++ (pending.left.trimPadding ++ [Text.newline] ++ tail)) = _
      rw [List.append_assoc pending.left.trimPadding, ← List.append_assoc front,
        List.singleton_append, Text.codeLines_append_newline,
        Text.codeLines_append_trimPadding, keeps.of_closing closes,
        ← List.append_assoc front, codeLines_closing closes]

/-! ## All comments -/

theorem keepsCode_step
    (keeps : KeepsCode (pending.next (closesLine gaps.isEmpty gap) gap) tail
      gaps.flatten) :
    KeepsCode pending
      (pending.kept (closesLine gaps.isEmpty gap) ++
        joint pending.opensLine (closesLine gaps.isEmpty gap) ++ tail)
      (gap :: gaps).flatten := by
  rw [List.flatten_cons, Pending.kept, Pending.padded]
  cases opens : pending.opensLine with
  | false => exact keepsCode_trailing keeps
  | true =>
      by_cases broken : Text.newline ∈ pending.left
      · exact keepsCode_opening opens broken keeps
      · exact keepsCode_opening_unbroken opens broken keeps

theorem keepsCode_remainder (pending : Pending) (gaps : List Text) :
    KeepsCode pending (remainder pending gaps) gaps.flatten := by
  induction gaps generalizing pending with
  | nil =>
      intro front _
      rw [remainder, List.flatten_nil, List.append_nil]
  | cons gap gaps induction => exact keepsCode_step (induction _)

/-- Taking out block comments keeps the lines of code: up to white space at line edges
and blank lines, what is left is the text with the comments cut out of it. -/
theorem codeLines_strip {text : Text} {spans : List Span}
    (closed : scan text = .closed spans) :
    ∃ bare left, excise? text 0 spans = some bare ∧ strip text = .changed left ∧
      Text.codeLines left = Text.codeLines bare := by
  rcases scan_eq_closed_iff.mp closed with ⟨parts, commented, rfl, rfl⟩
  refine ⟨parts.code, _, excise?_parts [] parts, strip_parts parts commented, ?_⟩
  exact (keepsCode_remainder (.start parts.lead) parts.later).of_nil

/-- The line break between the two comments goes with the first of them. -/
theorem codeLines_strip_shared_break :
    scan "x /* a */\n/* b */ y".toList = .closed [⟨2, 7⟩, ⟨10, 15⟩] ∧
      ∃ bare left,
        excise? "x /* a */\n/* b */ y".toList 0 [⟨2, 7⟩, ⟨10, 15⟩] = some bare ∧
        strip "x /* a */\n/* b */ y".toList = .changed left ∧
        Text.codeLines left = Text.codeLines bare := by
  have closed : scan "x /* a */\n/* b */ y".toList = .closed [⟨2, 7⟩, ⟨10, 15⟩] := by
    decide +kernel
  exact ⟨closed, codeLines_strip closed⟩

end Block

end Uncomment
