import Uncomment.Proofs.Line.Code
import Mathlib.Data.List.Infix

namespace Uncomment

namespace Line

/-! The pass over line comments told line by line. The lines of a text come in stretches,
each of which ends with the first line that has a comment. The code of a stretch is
trimmed as a whole, and the stretches are put together with nothing between them. -/

/-! ## Stretches of lines -/

structure Stretch where
  before : List Text
  last : Text
  plain : ∀ line ∈ before, ¬ marker <:+: line
  marked : marker <:+: last

namespace Stretch

def lines (stretch : Stretch) : List Text := stretch.before ++ [stretch.last]

def code (stretch : Stretch) : Text :=
  (Text.unlines (stretch.before ++ [Line.code stretch.last])).trim

end Stretch

/-- Lines in stretches, and the lines after the last comment. -/
structure Layout where
  stretches : List Stretch
  tail : List Text
  plain : ∀ line ∈ tail, ¬ marker <:+: line

/-- A text from where the pass takes it up after a comment: with the line break that ends
the comment, if anything is `written` before it. -/
def resumed (written : Bool) (text : Text) : Text :=
  if written then Text.newline :: text else text

namespace Layout

def lines (layout : Layout) : List Text :=
  layout.stretches.flatMap Stretch.lines ++ layout.tail

def consMarked (line : Text) (marked : marker <:+: line) (layout : Layout) : Layout where
  stretches := ⟨[], line, List.forall_mem_nil _, marked⟩ :: layout.stretches
  tail := layout.tail
  plain := layout.plain

def consPlain (line : Text) (free : ¬ marker <:+: line) : Layout → Layout
  | ⟨[], tail, plain⟩ => ⟨[], line :: tail, List.forall_mem_cons.mpr ⟨free, plain⟩⟩
  | ⟨⟨before, last, clear, marked⟩ :: others, tail, plain⟩ =>
      ⟨⟨line :: before, last, List.forall_mem_cons.mpr ⟨free, clear⟩, marked⟩ :: others,
        tail, plain⟩

def ofLines : List Text → Layout
  | [] => ⟨[], [], List.forall_mem_nil _⟩
  | line :: rest =>
      if marked : marker <:+: line then (ofLines rest).consMarked line marked
      else (ofLines rest).consPlain line marked

theorem lines_consPlain (line : Text) (free : ¬ marker <:+: line) (layout : Layout) :
    (layout.consPlain line free).lines = line :: layout.lines := by
  rcases layout with ⟨_ | ⟨first, others⟩, tail, plain⟩ <;> rfl

theorem lines_ofLines (lines : List Text) : (ofLines lines).lines = lines := by
  induction lines with
  | nil => rfl
  | cons line rest induction =>
      rw [ofLines]
      split
      · exact congrArg (line :: ·) induction
      · rw [lines_consPlain, induction]

def head (layout : Layout) : Text := layout.stretches.flatMap Stretch.code

def ending (written : Bool) (lines : List Text) : Text :=
  if lines = [] then [] else resumed written (Text.unlines lines)

/-- What is left: the code of the stretches with nothing between them, and the
lines after the last comment. -/
def left (layout : Layout) : Text :=
  layout.head ++ ending (!layout.head.isEmpty) layout.tail

example :
    (ofLines ["// a".toList, "".toList, " b // c".toList, "d // e".toList,
      " f".toList, "g".toList]).left = "bd\n f\ng".toList := by decide +kernel

end Layout

/-! ## One stretch -/

theorem trim_resumed (written : Bool) (text : Text) :
    (resumed written text).trim = text.trim := by
  cases written with
  | false => rfl
  | true =>
      have blank : Text.allBlank [Text.newline] := rfl
      exact Text.trim_blank_append blank text

theorem resumed_append (written : Bool) (front rest : Text) :
    resumed written (front ++ rest) = resumed written front ++ rest := by
  cases written <;> rfl

theorem marker_infix_resumed_iff (written : Bool) (text : Text) :
    marker <:+: resumed written text ↔ marker <:+: text := by
  have unmarked : ¬ marker <:+: [] := fun occurs => marker_ne_nil (List.infix_nil.mp occurs)
  cases written with
  | false => rfl
  | true =>
      have parts := Text.infix_append_cons_iff_of_not_mem newline_not_mem_marker [] text
      exact parts.trans (or_iff_right unmarked)

theorem ahead_resumed (written : Bool) {code : Text} (ahead : Ahead code) :
    Ahead (resumed written code) := by
  rw [Ahead, ← resumed_append, marker_infix_resumed_iff]
  exact ahead

/-- The lines before the comment hold none themselves, and none arises where they meet. -/
theorem ahead_lines_append {before : List Text} {code : Text}
    (plain : ∀ line ∈ before, ¬ marker <:+: line) (ahead : Ahead code) :
    Ahead (before.flatMap (· ++ [Text.newline]) ++ code) := by
  induction before with
  | nil => exact ahead
  | cons line before induction =>
      rcases List.forall_mem_cons.mp plain with ⟨free, plain⟩
      have either := Text.infix_append_cons_iff_of_not_mem newline_not_mem_marker line
        (before.flatMap (· ++ [Text.newline]) ++ code ++ ['/'])
      simpa [Ahead] using mt either.mp (not_or.mpr ⟨free, induction plain⟩)

namespace Stretch

variable (stretch : Stretch)

def body : Text := stretch.before.flatMap (· ++ [Text.newline]) ++ Line.code stretch.last

theorem code_eq : stretch.code = stretch.body.trim :=
  congrArg Text.trim (Text.unlines_concat stretch.before (Line.code stretch.last))

theorem exists_comment (unbroken : Text.newline ∉ stretch.last) :
    ∃ comment, Text.unlines stretch.lines = stretch.body ++ marker ++ comment ∧
      Ahead stretch.body ∧ Text.newline ∉ comment := by
  cases cut : Text.cut? marker stretch.last with
  | none => exact absurd stretch.marked (Text.cut?_eq_none_iff.mp cut)
  | some parts =>
      rcases parts with ⟨code, comment⟩
      have same : Line.code stretch.last = code := by rw [Line.code, cut]
      rcases (Text.cut?_eq_some_iff marker_ne_nil).mp cut with ⟨equal, ahead⟩
      rw [lines, Text.unlines_concat, body, same]
      refine ⟨comment, ?_, ahead_lines_append stretch.plain ahead, ?_⟩
      · rw [equal, ← List.append_assoc, ← List.append_assoc]
      · intro member
        rw [equal] at unbroken
        exact unbroken (List.mem_append_right _ member)

end Stretch

/-! ## All stretches -/

/-- After some text or none, the pass leaves the code of the stretches and the lines
after them. -/
theorem remainder_unlines {stretches : List Stretch} {tail : List Text}
    (plain : ∀ line ∈ tail, ¬ marker <:+: line)
    (unbroken : ∀ line ∈ stretches.flatMap Stretch.lines ++ tail, Text.newline ∉ line)
    (nonempty : stretches.flatMap Stretch.lines ++ tail ≠ []) (written : Bool) :
    remainder written
        (resumed written (Text.unlines (stretches.flatMap Stretch.lines ++ tail))) =
      stretches.flatMap Stretch.code ++
        Layout.ending (written || !(stretches.flatMap Stretch.code).isEmpty) tail := by
  induction stretches generalizing written with
  | nil =>
      have free : ¬ marker <:+: resumed written (Text.unlines tail) := by
        rw [marker_infix_resumed_iff,
          Text.infix_unlines_iff newline_not_mem_marker marker_ne_nil]
        rintro ⟨line, member, marked⟩
        exact plain line member marked
      have kept : tail ≠ [] := nonempty
      rw [List.flatMap_nil, List.nil_append, remainder_of_free free]
      simp [Layout.ending, kept]
  | cons stretch others induction =>
      have unbrokenLast : Text.newline ∉ stretch.last :=
        unbroken stretch.last (by simp [Stretch.lines])
      have unbrokenLater :
          ∀ line ∈ others.flatMap Stretch.lines ++ tail, Text.newline ∉ line := by
        intro line member
        apply unbroken
        rw [List.flatMap_cons, List.append_assoc]
        exact List.mem_append_right _ member
      rcases stretch.exists_comment unbrokenLast with
        ⟨comment, front, ahead, unbrokenComment⟩
      have aheadResumed := ahead_resumed written ahead
      rw [List.flatMap_cons, List.append_assoc, List.flatMap_cons, List.append_assoc]
      -- After the last line of a text there is no line break to take the pass up again.
      by_cases finished : others.flatMap Stretch.lines ++ tail = []
      · rcases List.append_eq_nil_iff.mp finished with ⟨noOthers, noTail⟩
        rw [finished, List.append_nil, front, resumed_append, resumed_append,
          remainder_last aheadResumed unbrokenComment, trim_resumed, ← stretch.code_eq,
          noTail]
        cases others with
        | nil => simp [Layout.ending]
        | cons next others => simp [Stretch.lines] at noOthers
      · have whole : stretch.lines ≠ [] := List.concat_ne_nil _ _
        have later := induction unbrokenLater finished (written || !stretch.code.isEmpty)
        rw [resumed] at later
        rw [Text.unlines_append whole finished, front, List.append_assoc, resumed_append,
          resumed_append, remainder_comment aheadResumed unbrokenComment, trim_resumed,
          ← stretch.code_eq, later]
        cases stretch.code <;> simp

theorem remainder_eq_left (text : Text) :
    remainder false text = (Layout.ofLines (Text.lines text)).left := by
  have whole := Layout.lines_ofLines (Text.lines text)
  generalize Layout.ofLines (Text.lines text) = layout at whole
  rcases layout with ⟨stretches, tail, plain⟩
  have unbroken := Text.not_mem_of_mem_lines text
  have some := Text.lines_ne_nil text
  have joined := Text.unlines_lines text
  rw [← whole] at unbroken some joined
  rw [← joined]
  exact remainder_unlines plain unbroken some false

/-! ## What is in the comments -/

def muted (line : Text) : Text :=
  if marker <:+: line then code line ++ marker else line

theorem marker_infix_muted_iff (line : Text) : marker <:+: muted line ↔ marker <:+: line := by
  unfold muted
  split
  · rename_i marked
    exact iff_of_true (List.suffix_append _ _).isInfix marked
  · rfl

theorem code_muted (line : Text) : code (muted line) = code line := by
  unfold muted
  split
  · rename_i marked
    cases cut : Text.cut? marker line with
    | none => exact absurd marked (Text.cut?_eq_none_iff.mp cut)
    | some parts =>
        have ahead := ((Text.cut?_eq_some_iff marker_ne_nil).mp cut).2
        have same : code line = parts.1 := by rw [code, cut]
        rw [same, ← List.append_nil (parts.1 ++ marker)]
        exact code_comment ahead []
  · rfl

namespace Layout

def outline (layout : Layout) : List (List Text × Text) × List Text :=
  (layout.stretches.map fun stretch => (stretch.before, Line.code stretch.last), layout.tail)

theorem left_eq_of_outline_eq {first second : Layout} (same : first.outline = second.outline) :
    first.left = second.left := by
  have head (layout : Layout) : layout.head = layout.outline.1.flatMap fun stretch =>
      (Text.unlines (stretch.1 ++ [stretch.2])).trim := by
    rw [outline, List.flatMap_map]
    rfl
  have tail : first.tail = second.tail := congrArg Prod.snd same
  rw [left, left, head first, head second, same, tail]

theorem outline_consMarked (line : Text) (marked : marker <:+: line) (layout : Layout) :
    (layout.consMarked line marked).outline =
      (([], Line.code line) :: layout.outline.1, layout.outline.2) := rfl

theorem outline_consPlain (line : Text) (free : ¬ marker <:+: line) (layout : Layout) :
    (layout.consPlain line free).outline =
      match layout.outline with
      | ([], tail) => ([], line :: tail)
      | ((before, code) :: others, tail) => ((line :: before, code) :: others, tail) := by
  rcases layout with ⟨_ | ⟨first, others⟩, tail, plain⟩ <;> rfl

theorem outline_ofLines_muted (lines : List Text) :
    (ofLines (lines.map muted)).outline = (ofLines lines).outline := by
  induction lines with
  | nil => rfl
  | cons line rest induction =>
      rw [List.map_cons, ofLines, ofLines]
      by_cases marked : marker <:+: line
      · rw [dif_pos marked, dif_pos ((marker_infix_muted_iff line).mpr marked)]
        simp only [outline_consMarked, induction, code_muted]
      · have same : muted line = line := if_neg marked
        rw [dif_neg marked, dif_neg (mt (marker_infix_muted_iff line).mp marked)]
        simp only [outline_consPlain, induction, same]

end Layout

theorem marker_infix_iff_lines (text : Text) :
    marker <:+: text ↔ ∃ line ∈ (Text.lines text).map muted, marker <:+: line := by
  conv_lhs => rw [← Text.unlines_lines text]
  rw [Text.infix_unlines_iff newline_not_mem_marker marker_ne_nil]
  simp [marker_infix_muted_iff]

theorem strip_eq_of_muted_eq {text other : Text}
    (same : (Text.lines text).map muted = (Text.lines other).map muted) :
    strip text = strip other := by
  have marked : marker <:+: text ↔ marker <:+: other := by
    rw [marker_infix_iff_lines, marker_infix_iff_lines, same]
  by_cases occurs : marker <:+: text
  · have outline := Layout.outline_ofLines_muted (Text.lines text)
    rw [same, Layout.outline_ofLines_muted] at outline
    rw [strip_of_marked occurs, strip_of_marked (marked.mp occurs), remainder_eq_left,
      remainder_eq_left, Layout.left_eq_of_outline_eq outline]
  · rw [strip_of_free occurs, strip_of_free (mt marked.mpr occurs)]

/-- A text with a line comment is left with the code of its stretches and the lines after
them, any other text is not changed, and what is in the comments does not count. -/
theorem strip_by_stretches (text : Text) :
    (marker <:+: text →
        strip text = .changed (Layout.ofLines (Text.lines text)).left) ∧
      (¬ marker <:+: text → strip text = .unchanged) ∧
      ∀ other, (Text.lines text).map muted = (Text.lines other).map muted →
        strip text = strip other := by
  refine ⟨fun marked => ?_, strip_of_free, fun other => strip_eq_of_muted_eq⟩
  rw [strip_of_marked marked, remainder_eq_left]

private def shortComments : Text := "//\n a; //\n\n b; //\r\nc".toList

private def longComments : Text := "///* x */\n a; // // é\n\n b; //\r\nc".toList

theorem strip_by_stretches_long :
    marker <:+: shortComments ∧
      (Text.lines shortComments).map muted = (Text.lines longComments).map muted ∧
      strip shortComments = .changed "a;b;\nc".toList ∧
      strip shortComments = strip longComments := by
  have marked : marker <:+: shortComments := by decide +kernel
  have same : (Text.lines shortComments).map muted = (Text.lines longComments).map muted := by
    decide +kernel
  have stripped := (strip_by_stretches shortComments).1 marked
  have left : (Layout.ofLines (Text.lines shortComments)).left = "a;b;\nc".toList := by
    decide +kernel
  rw [left] at stripped
  exact ⟨marked, same, stripped, (strip_by_stretches shortComments).2.2 longComments same⟩

end Line

end Uncomment
