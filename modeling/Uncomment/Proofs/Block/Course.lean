import Uncomment.Proofs.Block.Remainder
import Mathlib.Data.List.Chain

namespace Uncomment

namespace Block

/-! The course of the pass: the gaps it comes to, side by side with what stands around the
comments there. -/

def Parts.arounds (before : Text) : Parts → List Surroundings
  | plain _ => []
  | commented gap body rest =>
      .between (before ++ gap.text) (commentSpan before gap body) rest.text ::
        rest.arounds (throughComment before gap body)

theorem mapM_of?_parts (before : Text) (parts : Parts) :
    (parts.spans (Text.size before)).mapM (Surroundings.of? (before ++ parts.text)) =
      some (parts.arounds before) := by
  induction parts generalizing before with
  | plain gap => rfl
  | commented gap body rest induction =>
      rw [Parts.text_commented, Parts.spans_commented, List.mapM_cons,
        Surroundings.of?_throughComment, induction]
      rfl

/-- The gaps that the pass comes to, each with whether the comment behind it closes its
line. -/
def Pending.course : Pending → List Text → List (Pending × Bool)
  | _, [] => []
  | pending, gap :: gaps =>
      let closes := closesLine gaps.isEmpty gap
      (pending, closes) :: (pending.next closes gap).course gaps

structure Fits (around : Surroundings) (step : Pending × Bool) : Prop where
  opens : around.opensLine = step.1.opensLine
  closes : around.closesLine = step.2
  keeps : (around.opensLine && around.breakBefore.isSome) = step.1.keepsBreak

variable {pending : Pending} {past : Text} {cursor : Nat}

theorem Pending.At.fits (reached : pending.At past cursor) {gap : Gap}
    (same : pending.gap = gap.text) (body : Body) (rest : Parts) :
    Fits (.between (past ++ gap.text) (commentSpan past gap body) rest.text)
      (pending, closesLine rest.later.isEmpty rest.lead) where
  opens := by
    rw [← same]
    exact reached.opensLine_eq
  closes := closesLine_eq rest
  keeps := by
    rw [← reached.keepsBreak_eq, ← Surroundings.isSome_findLast?, same]
    rfl

theorem Pending.At.forall₂_course (parts : Parts) (reached : pending.At past cursor)
    (same : pending.gap = parts.lead) :
    List.Forall₂ Fits (parts.arounds past) (pending.course parts.later) := by
  induction parts generalizing pending past cursor with
  | plain gap => exact .nil
  | commented gap body rest induction =>
      exact .cons (reached.fits same body rest)
        (induction (reached.next same body rest) rfl)

/-- What is told of all comments from what stands around them can be told from the course. -/
theorem forall_arounds_iff {told : Surroundings → Prop} {toldOf : Pending × Bool → Prop}
    (same : ∀ around step, Fits around step → (told around ↔ toldOf step))
    {arounds : List Surroundings} {course : List (Pending × Bool)}
    (fits : List.Forall₂ Fits arounds course) :
    (∀ around ∈ arounds, told around) ↔ ∀ step ∈ course, toldOf step := by
  induction fits with
  | nil => simp
  | cons first _ induction =>
      rw [List.forall_mem_cons, List.forall_mem_cons, same _ _ first, induction]

/-! ## Line breaks that two comments take in -/

def Pending.Clear (pending : Pending) : Prop :=
  pending.opensLine = true → Text.newline ∈ pending.gap → Text.newline ∈ pending.left

theorem size_earlierLines_lt {text : Text} (broken : Text.newline ∈ text) :
    Text.size (Text.earlierLines text) < Text.size text := by
  rcases Text.exists_last_break broken with ⟨front, line, rfl, unbroken⟩
  rw [Text.earlierLines_append_newline unbroken, Text.size_append, Text.size_cons,
    Text.utf8Size_newline]
  omega

/-- Where a comment that opens a line takes in the line break before it, the removal does
not reach back behind the cursor if that line break is still there. -/
theorem Pending.At.clear_iff_of_opens (reached : pending.At past cursor)
    (whole : pending.leading = true → pending.left = pending.gap)
    (opens : pending.opensLine = true) :
    pending.Clear ↔ cursor ≤ Text.size (Text.earlierLines (past ++ pending.gap)) := by
  rcases reached.exists_consumed with ⟨consumed, gapParts, cursorSize⟩
  have front : past ++ pending.gap = (past ++ consumed) ++ pending.left := by
    rw [gapParts, List.append_assoc]
  by_cases inLeft : Text.newline ∈ pending.left
  · have clear : pending.Clear := fun _ _ => inLeft
    refine iff_of_true clear ?_
    rw [front, Text.earlierLines_append_of_mem inLeft, Text.size_append, cursorSize]
    exact Nat.le_add_right _ _
  · rw [front, Text.earlierLines_append_of_not_mem inLeft]
    by_cases inGap : Text.newline ∈ pending.gap
    · have inConsumed : Text.newline ∈ past ++ consumed := by
        rw [gapParts] at inGap
        exact List.mem_append_right past ((List.mem_append.mp inGap).resolve_right inLeft)
      have back := size_earlierLines_lt inConsumed
      refine iff_of_false (fun clear => inLeft (clear opens inGap)) ?_
      omega
    · -- A comment on the first line is the first of all, so nothing is behind it.
      have leads := leading_of_opensLine opens inGap
      have clear : pending.Clear := fun _ broken => absurd broken inGap
      have sizes := reached.cursor
      rw [reached.leading leads, whole leads, Text.size_nil] at sizes
      refine iff_of_true clear ?_
      omega

theorem Pending.At.clear_iff (reached : pending.At past cursor)
    (whole : pending.leading = true → pending.left = pending.gap) {gap : Gap}
    (same : pending.gap = gap.text) (body : Body) (after : Text) :
    pending.Clear ↔
      cursor ≤ (Surroundings.between (past ++ gap.text) (commentSpan past gap body)
        after).removal.start := by
  rw [Surroundings.removal_start, ← same, reached.opensLine_eq]
  cases opens : pending.opensLine with
  | true => exact reached.clear_iff_of_opens whole opens
  | false =>
      have clear : pending.Clear := by
        intro absurd
        rw [opens] at absurd
        cases absurd
      have sizes := reached.cursor
      rw [same] at sizes
      refine iff_of_true clear ?_
      change cursor ≤ Text.size past + Text.size gap.text
      omega

theorem Pending.At.max_removal_stop (reached : pending.At past cursor) {gap : Gap}
    (same : pending.gap = gap.text) (body : Body) (after : Text) :
    max (Surroundings.between (past ++ gap.text) (commentSpan past gap body)
        after).removal.stop (cursor + Text.size pending.padded) =
      (Surroundings.between (past ++ gap.text) (commentSpan past gap body)
        after).removal.stop := by
  have stops := Surroundings.after_le_removal_stop (past ++ gap.text)
    (commentSpan past gap body) after
  have kept := Text.size_le_of_prefix pending.padded_prefix
  have sizes := reached.cursor
  rw [same] at sizes
  have opener : (commentSpan past gap body).after =
      Text.size past + Text.size gap.text + Text.size opening +
        Text.size body.text + Text.size closing := rfl
  omega

theorem Pending.At.next_removal (reached : pending.At past cursor) {gap : Gap}
    (same : pending.gap = gap.text) (body : Body) (rest : Parts) :
    (pending.next (closesLine rest.later.isEmpty rest.lead) rest.lead).At
      (throughComment past gap body)
      (Surroundings.between (past ++ gap.text) (commentSpan past gap body)
        rest.text).removal.stop := by
  have next := reached.next same body rest
  rwa [reached.max_removal_stop same] at next

def Separate (arounds : List Surroundings) : Prop :=
  arounds.IsChain fun first second => first.removal.stop ≤ second.removal.start

instance (arounds : List Surroundings) : Decidable (Separate arounds) :=
  inferInstanceAs (Decidable (arounds.IsChain _))

theorem Pending.At.separate_iff (parts : Parts) (reached : pending.At past cursor)
    (whole : pending.leading = true → pending.left = pending.gap)
    (same : pending.gap = parts.lead) :
    ((∀ around ∈ (parts.arounds past).head?, cursor ≤ around.removal.start) ∧
      Separate (parts.arounds past)) ↔
      ∀ step ∈ pending.course parts.later, step.1.Clear := by
  unfold Separate
  induction parts generalizing pending past cursor with
  | plain gap => simp [Parts.arounds, Parts.later, course]
  | commented gap body rest induction =>
      have next := reached.next_removal same body rest
      have later := induction next (fun absurd => by cases absurd) rfl
      rw [Parts.arounds, Parts.later, course, List.isChain_cons, later,
        List.forall_mem_cons, reached.clear_iff whole same body rest.text]
      simp

/-- Removals overlap just where a comment takes in a line break that has gone with the one
before. -/
theorem separate_arounds_iff (parts : Parts) :
    Separate (parts.arounds []) ↔
      ∀ step ∈ (Pending.start parts.lead).course parts.later, step.1.Clear := by
  rw [← (Pending.start_at parts.lead).separate_iff parts (fun _ => rfl) rfl]
  simp

end Block

end Uncomment
