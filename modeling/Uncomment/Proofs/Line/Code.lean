import Uncomment.Proofs.Line.Remainder
import Uncomment.Proofs.Text.Lines

namespace Uncomment

namespace Line

/-! The code of a line is what comes before its comment. Of the characters that are
not white space, the pass over line comments leaves just those in the code of the
lines. -/

/-- The part of a line before its comment, or the whole line. -/
def code (line : Text) : Text :=
  match Text.cut? marker line with
  | none => line
  | some (code, _) => code

/-- The characters that are not white space in the code of the lines. -/
def visibleCode (text : Text) : Text :=
  (Text.lines text).flatMap fun line => Text.visible (code line)

example : visibleCode "a b // c\n// d\n e / f".toList = "abe/f".toList := by decide +kernel

theorem code_of_free {line : Text} (free : ¬ marker <:+: line) : code line = line := by
  rw [code, Text.cut?_eq_none_iff.mpr free]

theorem code_comment {text : Text} (ahead : Ahead text) (comment : Text) :
    code (text ++ marker ++ comment) = text := by
  rw [code, cut?_marker ahead]

@[simp] theorem visibleCode_append_newline (front rest : Text) :
    visibleCode (front ++ Text.newline :: rest) =
      visibleCode front ++ visibleCode rest := by
  rw [visibleCode, Text.lines_append_newline, List.flatMap_append]
  rfl

theorem visibleCode_of_not_mem {line : Text} (unbroken : Text.newline ∉ line) :
    visibleCode line = Text.visible (code line) := by
  rw [visibleCode, Text.lines_of_not_mem unbroken, List.flatMap_singleton]

/-! ## What the pass leaves -/

theorem visibleCode_of_free {text : Text} (free : ¬ marker <:+: text) :
    visibleCode text = Text.visible text := by
  induction text using Text.lines_induction with
  | single line unbroken => rw [visibleCode_of_not_mem unbroken, code_of_free free]
  | more line rest unbroken induction =>
      have lineFree : ¬ marker <:+: line := by
        intro occurs
        exact free (occurs.trans (List.prefix_append _ _).isInfix)
      have restFree : ¬ marker <:+: rest := by
        intro occurs
        have ending := (List.suffix_cons Text.newline rest).trans
          (List.suffix_append line _)
        exact free (occurs.trans ending.isInfix)
      rw [visibleCode_append_newline, visibleCode_of_not_mem unbroken,
        code_of_free lineFree, induction restFree, Text.visible_append,
        Text.visible_cons_newline]

theorem Ahead.of_suffix {text left : Text} (ahead : Ahead text) (ending : left <:+ text) :
    Ahead left := by
  rcases ending with ⟨front, rfl⟩
  intro occurs
  apply ahead
  rw [List.append_assoc]
  exact occurs.trans (List.suffix_append _ _).isInfix

theorem Ahead.free {text : Text} (ahead : Ahead text) : ¬ marker <:+: text := by
  intro occurs
  exact ahead (occurs.trans (List.prefix_append _ _).isInfix)

/-- The first comment starts on the last line of the text before it. -/
theorem visibleCode_comment {text comment : Text} (ahead : Ahead text)
    (unbroken : Text.newline ∉ comment) :
    visibleCode (text ++ marker ++ comment) = Text.visible text := by
  by_cases broken : Text.newline ∈ text
  · rcases Text.exists_last_break broken with ⟨front, line, rfl, lineUnbroken⟩
    have joined : Text.newline ∉ line ++ marker ++ comment := by
      simp [lineUnbroken, newline_not_mem_marker, unbroken]
    have lineAhead : Ahead line :=
      ahead.of_suffix ((List.suffix_cons _ _).trans (List.suffix_append _ _))
    have frontFree : ¬ marker <:+: front := by
      intro occurs
      exact ahead.free (occurs.trans (List.prefix_append _ _).isInfix)
    rw [List.append_assoc, List.append_assoc, List.cons_append, ← List.append_assoc line,
      visibleCode_append_newline, visibleCode_of_free frontFree,
      visibleCode_of_not_mem joined, code_comment lineAhead, Text.visible_append,
      Text.visible_cons_newline]
  · have joined : Text.newline ∉ text ++ marker ++ comment := by
      simp [broken, newline_not_mem_marker, unbroken]
    rw [visibleCode_of_not_mem joined, code_comment ahead]

theorem visible_remainder (written : Bool) (text : Text) :
    Text.visible (remainder written text) = visibleCode text := by
  induction text using marked_induction generalizing written with
  | free text free => rw [remainder_of_free free, visibleCode_of_free free]
  | last text line ahead unbroken =>
      rw [remainder_last ahead unbroken, Text.visible_trim,
        visibleCode_comment ahead unbroken]
  | comment text line rest ahead unbroken dropped kept =>
      have tail (written : Bool) :
          Text.visible
              (remainder written (if written then Text.newline :: rest else rest)) =
            visibleCode rest := by
        cases written with
        | false => exact dropped false
        | true => exact (kept true).trans (visibleCode_append_newline [] rest)
      rw [remainder_comment ahead unbroken, Text.visible_append, Text.visible_trim, tail,
        ← List.append_assoc, visibleCode_append_newline,
        visibleCode_comment ahead unbroken]

/-! ## Lines of code -/

theorem not_mem_marker_of_blank {char : Char} (blank : Text.isBlank char = true) :
    char ∉ marker := by
  intro member
  rcases List.mem_cons.mp member with rfl | member
  · cases blank
  · rw [List.mem_singleton.mp member] at blank
    cases blank

theorem visible_code_blank_append {pad : Text} (blank : Text.allBlank pad) (line : Text) :
    Text.visible (code (pad ++ line)) = Text.visible (code line) := by
  induction pad with
  | nil => rfl
  | cons char pad induction =>
      rcases Text.blank_cons blank with ⟨charBlank, padBlank⟩
      rw [← induction padBlank, List.cons_append, code,
        Text.cut?_cons_of_not_mem marker_ne_nil (not_mem_marker_of_blank charBlank), code]
      cases Text.cut? marker (pad ++ line) <;> simp [Text.visible, charBlank]

theorem visible_code_append_blank {pad : Text} (blank : Text.allBlank pad) (line : Text) :
    Text.visible (code (line ++ pad)) = Text.visible (code line) := by
  induction pad generalizing line with
  | nil => rw [List.append_nil]
  | cons char pad induction =>
      rcases Text.blank_cons blank with ⟨charBlank, padBlank⟩
      rw [← List.singleton_append, ← List.append_assoc, induction padBlank, code,
        Text.cut?_concat_of_not_mem marker_ne_nil (not_mem_marker_of_blank charBlank),
        code]
      cases Text.cut? marker line <;> simp [Text.visible, charBlank]

theorem visible_code_trim (line : Text) :
    Text.visible (code (Text.trim line)) = Text.visible (code line) := by
  rcases Text.exists_pads line with ⟨front, back, equal, frontBlank, backBlank⟩
  conv_rhs => rw [equal]
  rw [visible_code_append_blank backBlank, visible_code_blank_append frontBlank]

/-- White space at line edges and blank lines do not show in the code of the lines. -/
theorem visibleCode_eq_codeLines (text : Text) :
    visibleCode text =
      (Text.codeLines text).flatMap fun line => Text.visible (code line) := by
  rw [visibleCode, Text.codeLines]
  induction Text.lines text with
  | nil => rfl
  | cons line lines induction =>
      rw [List.flatMap_cons, List.map_cons, induction, ← visible_code_trim line]
      cases trimmed : Text.trim line with
      | nil => rfl
      | cons char rest => rfl

end Line

end Uncomment
