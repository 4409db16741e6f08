import Uncomment.Proofs.Shrink
import Uncomment.Proofs.Strip

namespace Uncomment

/-! Stripping ordinary code once is enough. Taking comments out puts texts together that
were apart, and only a slash at the end of one of them can make a new marker there.
Ordinary code has no slash in such a place. -/

/-! ## Block comments -/

namespace Block

/-- Markers are in what the pass leaves just if they are in the text with its comments
cut out: the pass moves no more than white space at the edges of lines. -/
theorem opening_infix_remainder_iff (parts : Parts) :
    opening <:+: remainder (.start parts.lead) parts.later ↔ opening <:+: parts.code := by
  have nonempty : opening ≠ [] := List.cons_ne_nil _ _
  have shown : ∀ char ∈ opening, Text.isBlank char = false :=
    List.forall_mem_cons.mpr ⟨rfl, List.forall_mem_singleton.mpr rfl⟩
  have keeps := (keepsCode_remainder (.start parts.lead) parts.later).of_nil
  rw [Text.infix_iff_codeLines nonempty shown, keeps,
    ← Text.infix_iff_codeLines nonempty shown]
  rfl

def Apart (text : Text) (span : Span) : Prop :=
  (text.take? span.opener).bind List.getLast? ≠ some '/'

theorem getLast?_ne_of_apart {before : Text} {gap : Gap} {body : Body} {rest : Parts}
    (apart : Apart (before ++ (Parts.commented gap body rest).text)
      (commentSpan before gap body)) :
    gap.text.getLast? ≠ some '/' := by
  intro ends
  apply apart
  have front : before ++ (Parts.commented gap body rest).text =
      (before ++ gap.text) ++ (opening ++ (body.text ++ closing ++ rest.text)) := by
    simp [Parts.text]
  have opener : (commentSpan before gap body).opener = Text.size (before ++ gap.text) := by
    simp [commentSpan]
  rw [front, opener, Text.take?_append, Option.bind_some, List.getLast?_append, ends]
  rfl

/-- Where no comment follows a slash, cutting the comments out makes no opening marker. -/
theorem free_code (before : Text) (parts : Parts)
    (apart : ∀ span ∈ parts.spans (Text.size before), Apart (before ++ parts.text) span) :
    ¬ opening <:+: parts.code := by
  induction parts generalizing before with
  | plain gap =>
      rw [Parts.code_plain]
      exact gap.free
  | commented gap body rest induction =>
      rw [Parts.spans_commented, List.forall_mem_cons] at apart
      have ends := getLast?_ne_of_apart apart.1
      have restFree := induction (throughComment before gap body) (by
        rw [← Parts.text_commented]
        exact apart.2)
      rw [Parts.code_commented]
      intro occurs
      rcases Text.pair_infix_append_iff.mp occurs with inGap | inRest | ⟨slash, _⟩
      · exact gap.free inGap
      · exact restFree inRest
      · exact ends slash

theorem free_apply_strip {text : Text} (notUnclosed : ∀ opener, scan text ≠ .unclosed opener)
    (apart : ∀ spans, scan text = .closed spans → ∀ span ∈ spans, Apart text span) :
    ¬ opening <:+: (strip text).apply text := by
  cases found : scan text with
  | absent =>
      rw [strip_of_not_closed (by simp [found])]
      exact scan_eq_absent_iff.mp found
  | unclosed opener => exact absurd found (notUnclosed opener)
  | closed spans =>
      rcases scan_eq_closed_iff.mp found with ⟨parts, commented, rfl, rfl⟩
      rw [strip_parts parts commented]
      intro occurs
      exact free_code [] parts (apart _ found)
        ((opening_infix_remainder_iff parts).mp occurs)

end Block

/-! ## Line comments -/

namespace Line

/-- No line's code ends in a slash, up to white space. -/
def Settled (text : Text) : Prop :=
  ∀ line ∈ Text.lines text, (Text.trimTrailing Text.isBlank (code line)).getLast? ≠ some '/'

instance (text : Text) : Decidable (Settled text) :=
  inferInstanceAs (Decidable (∀ line ∈ Text.lines text, _))

theorem settled_append_newline {front rest : Text} :
    Settled (front ++ Text.newline :: rest) ↔ Settled front ∧ Settled rest := by
  rw [Settled, Text.lines_append_newline]
  exact List.forall_mem_append

theorem Settled.cons_newline {rest : Text} (settled : Settled rest) :
    Settled (Text.newline :: rest) := by
  have empty : Settled [] := by decide
  exact settled_append_newline.mpr ⟨empty, settled⟩

/-- The code in front of a line comment, over all its lines, ends in no slash either. -/
theorem Settled.getLast?_trim {text comment : Text}
    (settled : Settled (text ++ marker ++ comment)) (ahead : Ahead text)
    (unbroken : Text.newline ∉ comment) : text.trim.getLast? ≠ some '/' := by
  intro ends
  rw [Text.getLast?_trim, ← visibleCode_comment ahead unbroken, visibleCode,
    List.getLast?_flatMap] at ends
  rcases List.exists_of_findSome?_eq_some ends with ⟨line, member, slash⟩
  rw [← Text.getLast?_trimTrailing] at slash
  exact settled line (List.mem_reverse.mp member) slash

/-- The pass makes no pair that starts with a slash: neither an opening marker, if there
was none before, nor a marker of its own. -/
theorem free_remainder {second : Char} {text : Text} (settled : Settled text)
    (free : second ≠ '/' → ¬ ['/', second] <:+: text) (written : Bool) :
    ¬ ['/', second] <:+: remainder written text := by
  have code_free {code comment : Text} (ahead : Ahead code)
      (free : second ≠ '/' → ¬ ['/', second] <:+: code ++ marker ++ comment) :
      ¬ ['/', second] <:+: code.trim := by
    intro occurs
    have inCode := occurs.trans (Text.trim_infix code)
    by_cases same : second = '/'
    · rw [same] at inCode
      exact ahead.free inCode
    · rw [List.append_assoc] at free
      exact free same (inCode.trans (List.prefix_append _ _).isInfix)
  induction text using marked_induction generalizing written with
  | free text unmarked =>
      rw [remainder_of_free unmarked]
      by_cases same : second = '/'
      · rw [same]
        exact unmarked
      · exact free same
  | last code line ahead unbroken =>
      rw [remainder_last ahead unbroken]
      exact code_free ahead free
  | comment code line rest ahead unbroken dropped kept =>
      rw [← List.append_assoc, settled_append_newline] at settled
      have restFree : second ≠ '/' → ¬ ['/', second] <:+: Text.newline :: rest := by
        intro differs occurs
        rw [← List.append_assoc] at free
        exact free differs (occurs.trans (List.suffix_append _ _).isInfix)
      have tail (written : Bool) : ¬ ['/', second] <:+:
          remainder written (if written then Text.newline :: rest else rest) := by
        cases written with
        | false =>
            refine dropped settled.2 ?_ false
            intro differs occurs
            exact restFree differs (occurs.trans (List.suffix_cons _ _).isInfix)
        | true => exact kept settled.2.cons_newline restFree true
      rw [remainder_comment ahead unbroken]
      intro occurs
      -- A pair across the seam would need a slash at the end of the code.
      rcases Text.pair_infix_append_iff.mp occurs with inCode | inRest | ⟨slash, _⟩
      · exact code_free ahead free inCode
      · exact tail _ inRest
      · exact settled.1.getLast?_trim ahead unbroken slash

end Line

/-! ## Both passes -/

/-- Code in which slashes stand where both passes can be trusted: all its block comments
are closed, none of them follows a slash, and once they are gone no line's code ends
in one. -/
structure Ordinary (text : Text) : Prop where
  notUnclosed : ∀ opener, Block.scan text ≠ .unclosed opener
  apart : ∀ spans, Block.scan text = .closed spans → ∀ span ∈ spans, Block.Apart text span
  settled : Line.Settled ((Block.strip text).apply text)

/-- What is left of ordinary code has no markers, so stripping it again changes nothing
and finds nothing. -/
theorem strip_strip_of_ordinary {text : Text} (ordinary : Ordinary text) :
    ¬ Block.opening <:+: (strip text).output ∧ ¬ Line.marker <:+: (strip text).output ∧
      strip (strip text).output = ⟨(strip text).output, false⟩ := by
  let blocks := (Block.strip text).apply text
  have output : (strip text).output = Line.remainder false blocks :=
    Line.apply_strip blocks
  have opened : ¬ Block.opening <:+: (strip text).output := by
    rw [output]
    refine Line.free_remainder ordinary.settled ?_ false
    intro _
    exact Block.free_apply_strip ordinary.notUnclosed ordinary.apart
  have marked : ¬ Line.marker <:+: (strip text).output := by
    rw [output]
    refine Line.free_remainder ordinary.settled ?_ false
    intro differs
    exact absurd rfl differs
  have clean : (strip (strip text).output).hadComments = false := by
    apply Bool.eq_false_iff.mpr
    intro had
    rcases (strip_hadComments_iff _).mp had with inOutput | ⟨spans, closed⟩
    · exact marked inOutput
    · rw [Block.scan_eq_absent_iff.mpr opened] at closed
      cases closed
  refine ⟨opened, marked, ?_⟩
  rw [← clean]
  exact congrArg (fun output => Stripped.mk output _) (strip_output_of_not_hadComments clean)

private def classFile : Text :=
  "/* License */\npackage demo;\n\n// Entry point.\nint x = a / b; /* é */ int y; // a/b\n".toList

/-- Slashes in the middle of lines, and in comments, do no harm. -/
theorem strip_strip_of_ordinary_division :
    Ordinary classFile ∧ ¬ Block.opening <:+: (strip classFile).output ∧
      ¬ Line.marker <:+: (strip classFile).output ∧
      strip (strip classFile).output = ⟨(strip classFile).output, false⟩ := by
  have found : Block.scan classFile = .closed [⟨0, 11⟩, ⟨60, 66⟩] := by decide +kernel
  have ordinary : Ordinary classFile := {
    notUnclosed := by simp [found]
    apart := by
      intro spans closed
      rw [found, Block.Scan.closed.injEq] at closed
      subst closed
      unfold Block.Apart
      decide +kernel
    settled := by decide +kernel }
  exact ⟨ordinary, strip_strip_of_ordinary ordinary⟩

end Uncomment
