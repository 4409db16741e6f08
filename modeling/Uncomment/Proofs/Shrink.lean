import Uncomment.Strip
import Uncomment.Proofs.Block.Remainder
import Uncomment.Proofs.Line.Remainder
import Uncomment.Proofs.Text.Trim
import Mathlib.Logic.Function.Iterate

namespace Uncomment

/-! A pass that changes a text makes it shorter: a comment with its markers takes more
bytes than the line break that may come in its place. Stripping a text again and again
therefore comes to an end. -/

theorem Text.size_le_of_infix {inner text : Text} (occurs : inner <:+: text) :
    size inner ≤ size text := by
  rcases occurs with ⟨front, back, rfl⟩
  rw [size_append, size_append]
  omega

/-! ## Passes that shorten -/

namespace Edit

/-- If the pass changes the text, it leaves a shorter one. -/
def Shortens (before : Text) (edit : Edit) : Prop :=
  ∀ after, edit = .changed after → Text.size after < Text.size before

variable {before : Text} {edit : Edit}

theorem Shortens.size_apply_lt (shortens : edit.Shortens before)
    (changed : edit.isChanged = true) :
    Text.size (edit.apply before) < Text.size before := by
  cases edit with
  | unchanged => cases changed
  | changed after => exact shortens after rfl

theorem apply_of_not_isChanged (unchanged : edit.isChanged = false) :
    edit.apply before = before := by
  cases edit with
  | unchanged => rfl
  | changed after => cases unchanged

theorem Shortens.size_apply_le (shortens : edit.Shortens before) :
    Text.size (edit.apply before) ≤ Text.size before := by
  cases changed : edit.isChanged with
  | false => rw [apply_of_not_isChanged changed]
  | true => exact (shortens.size_apply_lt changed).le

end Edit

/-! ## Block comments -/

namespace Block

theorem size_joint_le (opens closes : Bool) : Text.size (joint opens closes) ≤ 1 := by
  cases opens <;> cases closes <;> decide

theorem Pending.size_kept_le (pending : Pending) (closes : Bool) :
    Text.size (pending.kept closes) ≤ Text.size pending.left := by
  have padded := Text.size_le_of_prefix pending.padded_prefix
  have trimmed := Text.size_le_of_prefix (Text.trimPadding_prefix pending.padded)
  unfold Pending.kept
  split <;> omega

theorem size_remainder_le (pending : Pending) (gaps : List Text) :
    Text.size (remainder pending gaps) ≤
      Text.size pending.left + Text.size gaps.flatten + gaps.length := by
  induction gaps generalizing pending with
  | nil => simp [remainder]
  | cons gap gaps induction =>
      rw [remainder, Text.size_append, Text.size_append, List.flatten_cons,
        Text.size_append, List.length_cons]
      generalize closesLine gaps.isEmpty gap = closes
      have kept := pending.size_kept_le closes
      have joined := size_joint_le pending.opensLine closes
      have tail := induction (pending.next closes gap)
      have left := Text.size_le_of_suffix (pending.next closes gap).ending
      change _ ≤ Text.size gap at left
      omega

theorem Parts.size_code_le (parts : Parts) :
    Text.size parts.code + 4 * parts.later.length ≤ Text.size parts.text := by
  induction parts with
  | plain gap => simp [code_plain, later, text]
  | commented gap body rest induction =>
      have markers : Text.size opening = 2 ∧ Text.size closing = 2 := ⟨rfl, rfl⟩
      simp only [code_commented, later, text, List.length_cons, Text.size_append]
      omega

theorem shortens_strip (text : Text) : (strip text).Shortens text := by
  intro left changed
  rcases strip_eq_changed_iff.mp changed with ⟨parts, commented, rfl, rfl⟩
  have bound := size_remainder_le (.start parts.lead) parts.later
  have markers := parts.size_code_le
  have some : 0 < parts.later.length := by
    cases parts with
    | plain gap => exact absurd rfl commented
    | commented gap body rest => exact Nat.succ_pos _
  rw [Parts.code, Parts.gaps, List.flatten_cons, Text.size_append] at markers
  change _ ≤ Text.size parts.lead + _ + _ at bound
  omega

end Block

/-! ## Line comments -/

namespace Line

theorem size_remainder (written : Bool) (text : Text) :
    Text.size (remainder written text) ≤ Text.size text ∧
      (marker <:+: text → Text.size (remainder written text) < Text.size text) := by
  have markerSize : Text.size marker = 2 := rfl
  induction text using marked_induction generalizing written with
  | free text free =>
      rw [remainder_of_free free]
      exact ⟨le_rfl, fun marked => absurd marked free⟩
  | last code line ahead unbroken =>
      have shorter : Text.size (remainder written (code ++ marker ++ line)) <
          Text.size (code ++ marker ++ line) := by
        have trimmed := Text.size_le_of_infix (Text.trim_infix code)
        rw [remainder_last ahead unbroken, Text.size_append, Text.size_append]
        omega
      exact ⟨shorter.le, fun _ => shorter⟩
  | comment code line rest ahead unbroken dropped kept =>
      -- At most the line break and the lines behind it are left of the rest.
      have tail (written : Bool) :
          Text.size (remainder written
              (if written then Text.newline :: rest else rest)) ≤
            Text.size (Text.newline :: rest) := by
        cases written with
        | false => exact (dropped false).1.trans (Nat.le_add_left _ _)
        | true => exact (kept true).1
      have shorter : Text.size
            (remainder written (code ++ marker ++ (line ++ Text.newline :: rest))) <
          Text.size (code ++ marker ++ (line ++ Text.newline :: rest)) := by
        have trimmed := Text.size_le_of_infix (Text.trim_infix code)
        have bound := tail (written || !code.trim.isEmpty)
        rw [remainder_comment ahead unbroken]
        simp only [Text.size_append]
        omega
      exact ⟨shorter.le, fun _ => shorter⟩

theorem shortens_strip (text : Text) : (strip text).Shortens text := by
  intro left changed
  rcases strip_eq_changed_iff.mp changed with ⟨marked, rfl⟩
  exact (size_remainder false text).2 marked

end Line

/-! ## Both passes -/

theorem size_strip_output_lt {text : Text} (had : (strip text).hadComments = true) :
    Text.size (strip text).output < Text.size text := by
  have blocks := Block.shortens_strip text
  have lines := Line.shortens_strip ((Block.strip text).apply text)
  rcases Bool.or_eq_true_iff.mp had with changed | changed
  · exact lines.size_apply_le.trans_lt (blocks.size_apply_lt changed)
  · exact (lines.size_apply_lt changed).trans_le blocks.size_apply_le

theorem strip_output_of_not_hadComments {text : Text}
    (clean : (strip text).hadComments = false) : (strip text).output = text := by
  rcases Bool.or_eq_false_iff.mp clean with ⟨blocks, lines⟩
  exact (Edit.apply_of_not_isChanged lines).trans (Edit.apply_of_not_isChanged blocks)

/-- The passes find comments in a text if it has a line comment, or block comments that
are all closed. -/
theorem strip_hadComments_iff (text : Text) :
    (strip text).hadComments = true ↔
      Line.marker <:+: text ∨ ∃ spans, Block.scan text = .closed spans := by
  by_cases closed : ∃ spans, Block.scan text = .closed spans
  · rcases closed with ⟨spans, found⟩
    rcases Block.scan_eq_closed_iff.mp found with ⟨parts, commented, rfl, _⟩
    have changed := Block.strip_parts parts commented
    simp [strip, changed, Edit.isChanged, found]
  · have notClosed : ∀ spans, Block.scan text ≠ .closed spans := not_exists.mp closed
    have unchanged := Block.strip_of_not_closed notClosed
    by_cases marked : Line.marker <:+: text
    · simp [strip, unchanged, Edit.isChanged, Edit.apply, Line.strip_of_marked marked,
        marked]
    · simp [strip, unchanged, Edit.isChanged, Edit.apply, Line.strip_of_free marked,
        marked, notClosed]

/-! ## Again and again -/

theorem exists_iterate_fixed {step : Text → Text}
    (shortens : ∀ text, step text ≠ text → Text.size (step text) < Text.size text)
    (text : Text) :
    ∃ count ≤ Text.size text, step (step^[count] text) = step^[count] text := by
  induction size : Text.size text using Nat.strongRecOn generalizing text with
  | _ bound induction =>
      by_cases fixed : step text = text
      · exact ⟨0, Nat.zero_le _, fixed⟩
      · have shorter := shortens text fixed
        rw [size] at shorter
        rcases induction _ shorter (step text) rfl with ⟨count, within, reached⟩
        exact ⟨count + 1, by omega, reached⟩

def strippedTimes (count : Nat) (text : Text) : Text :=
  (fun text => (strip text).output)^[count] text

/-- A text is found to have comments just if it is changed, and then it gets shorter; so
does it in each of the passes. Stripped as many times as it has bytes, or sooner, a
text has no more comments that a pass finds, and stays as it is. -/
theorem strip_shortens (text : Text) :
    ((strip text).hadComments = true ↔ (strip text).output ≠ text) ∧
    ((strip text).hadComments = true ↔
      Text.size (strip text).output < Text.size text) ∧
    ((strip text).hadComments = true ↔
      Line.marker <:+: text ∨ ∃ spans, Block.scan text = .closed spans) ∧
    (Block.strip text).Shortens text ∧
    (Line.strip text).Shortens text ∧
    ∃ count ≤ Text.size text,
      (strip (strippedTimes count text)).hadComments = false ∧
        ∀ more, strippedTimes more (strippedTimes count text) =
          strippedTimes count text := by
  have changed_iff (text : Text) :
      (strip text).hadComments = true ↔ (strip text).output ≠ text := by
    constructor
    · intro had same
      exact absurd (congrArg Text.size same) (size_strip_output_lt had).ne
    · intro differs
      by_contra clean
      exact differs (strip_output_of_not_hadComments (Bool.eq_false_iff.mpr clean))
  have shorter_iff : (strip text).hadComments = true ↔
      Text.size (strip text).output < Text.size text := by
    constructor
    · exact size_strip_output_lt
    · intro shorter
      apply (changed_iff text).mpr
      intro same
      exact absurd (congrArg Text.size same) shorter.ne
  refine ⟨changed_iff text, shorter_iff, strip_hadComments_iff text,
    Block.shortens_strip text, Line.shortens_strip text, ?_⟩
  -- The number of bytes bounds how often a text can get shorter.
  have shortens (text : Text) (differs : (strip text).output ≠ text) :
      Text.size (strip text).output < Text.size text :=
    size_strip_output_lt ((changed_iff text).mpr differs)
  rcases exists_iterate_fixed shortens text with ⟨count, within, fixed⟩
  refine ⟨count, within, ?_, Function.iterate_fixed fixed⟩
  apply Bool.eq_false_iff.mpr
  intro had
  exact (changed_iff _).mp had fixed

end Uncomment
