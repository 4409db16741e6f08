import Uncomment.Strip
import Uncomment.Proofs.Block.CodeLines
import Uncomment.Proofs.Line.Code

namespace Uncomment

/-! Both passes together: they lose no code and make none up, and what stands inside
block comments has no part in what they leave. -/

/-! ## Code is kept -/

/-- The pass over block comments keeps the code of the lines, compared with the text
with its comments cut out. -/
theorem Block.visibleCode_apply_strip (text : Text) :
    ∃ bare, Block.bare? text = some bare ∧
      Line.visibleCode ((Block.strip text).apply text) = Line.visibleCode bare := by
  cases found : Block.scan text with
  | absent =>
      refine ⟨text, by rw [Block.bare?, found], ?_⟩
      rw [Block.strip_of_not_closed (by simp [found])]
      rfl
  | unclosed opener =>
      refine ⟨text, by rw [Block.bare?, found], ?_⟩
      rw [Block.strip_of_not_closed (by simp [found])]
      rfl
  | closed spans =>
      rcases Block.scan_eq_closed_iff.mp found with ⟨parts, commented, rfl, _⟩
      have keeps := Block.keepsCode_remainder (.start parts.lead) parts.later
      refine ⟨parts.code, Block.bare?_parts parts, ?_⟩
      rw [Block.strip_parts parts commented, Line.visibleCode_eq_codeLines,
        Line.visibleCode_eq_codeLines]
      exact congrArg _ keeps.of_nil

/-- No code is lost and none is made up. The characters of the output that are not
white space are those in front of the first line comment on each line of the text
with its block comments cut out. -/
theorem visible_strip_output (text : Text) :
    ∃ bare, Block.bare? text = some bare ∧
      Text.visible (strip text).output =
        (Text.lines bare).flatMap fun line => Text.visible (Line.code line) := by
  rcases Block.visibleCode_apply_strip text with ⟨bare, cut, same⟩
  refine ⟨bare, cut, ?_⟩
  change Text.visible ((Line.strip ((Block.strip text).apply text)).apply
    ((Block.strip text).apply text)) = Line.visibleCode bare
  rw [Line.apply_strip, Line.visible_remainder, same]

/-! ## Comment bodies do not count -/

namespace Block

theorem Parts.bodies_ne_nil_iff (parts : Parts) : parts.bodies ≠ [] ↔ parts.later ≠ [] := by
  cases parts <;> simp [bodies, later]

/-- Two texts with the same gaps around their comments are left with the same text by
the pass over block comments and by both passes, whatever is in the comments. -/
theorem strip_eq_of_gaps_eq {left right : Parts} (commented : left.bodies ≠ [])
    (same : left.gaps = right.gaps) :
    (∃ rest, strip left.text = .changed rest ∧ strip right.text = .changed rest) ∧
      Uncomment.strip left.text = Uncomment.strip right.text := by
  rcases List.cons.inj same with ⟨sameLead, sameLater⟩
  have rightCommented : right.bodies ≠ [] := by
    rw [Parts.bodies_ne_nil_iff, ← sameLater, ← Parts.bodies_ne_nil_iff]
    exact commented
  have leftStrip := strip_parts left commented
  have rightStrip := strip_parts right rightCommented
  rw [← sameLead, ← sameLater] at rightStrip
  refine ⟨⟨_, leftStrip, rightStrip⟩, ?_⟩
  rw [Uncomment.strip, Uncomment.strip, leftStrip, rightStrip]
  rfl

private def shortBodies : Parts :=
  .commented ⟨['x'], by decide⟩ ⟨['1'], by decide⟩
    (.commented ⟨['\n', ' '], by decide⟩ ⟨[], by decide⟩ (.plain ⟨['y'], by decide⟩))

private def longBodies : Parts :=
  .commented ⟨['x'], by decide⟩ ⟨['\n', '/', '/', 'é', '\n', '*'], by decide⟩
    (.commented ⟨['\n', ' '], by decide⟩ ⟨['/', '*', '\n'], by decide⟩
      (.plain ⟨['y'], by decide⟩))

/-- Line breaks, markers and wide characters in the comments make no difference. -/
theorem strip_eq_of_gaps_eq_long :
    (shortBodies.bodies ≠ [] ∧ shortBodies.gaps = longBodies.gaps) ∧
      (∃ rest, strip shortBodies.text = .changed rest ∧
        strip longBodies.text = .changed rest) ∧
      Uncomment.strip shortBodies.text = Uncomment.strip longBodies.text := by
  have commented : shortBodies.bodies ≠ [] := by decide
  have same : shortBodies.gaps = longBodies.gaps := by decide
  exact ⟨⟨commented, same⟩, strip_eq_of_gaps_eq commented same⟩

end Block

end Uncomment
