import Uncomment.Proofs.Block.Course
import Uncomment.Proofs.Text.Trim

namespace Uncomment

/-! Texts whose lines end in a carriage return and a line break. The pass writes bare line
breaks, so what it leaves is such a text again only where each of these comes into the
place of one that had a carriage return before it. -/

/-! ## Carriage returns -/

namespace Text

/-- Every line break comes right after a carriage return. -/
def Returned (text : Text) : Prop :=
  text.head? ≠ some newline ∧ text.IsChain fun char next => next = newline → char = '\r'

/-- Every carriage return comes right before a line break. -/
def Paired (text : Text) : Prop :=
  text.getLast? ≠ some '\r' ∧ text.IsChain fun char next => char = '\r' → next = newline

instance (text : Text) : Decidable (Returned text) :=
  inferInstanceAs (Decidable (_ ∧ _))

instance (text : Text) : Decidable (Paired text) :=
  inferInstanceAs (Decidable (_ ∧ _))

theorem returned_append {left right : Text} :
    Returned (left ++ right) ↔
      Returned left ∧ (right.IsChain fun char next => next = newline → char = '\r') ∧
        (right.head? = some newline → left.getLast? = some '\r') := by
  cases left with
  | nil => simp [Returned, and_comm]
  | cons char left =>
      simp only [Returned, List.isChain_append, List.head?_append, List.head?_cons,
        Option.some_or, and_assoc]
      rcases List.eq_nil_or_concat (char :: left) with empty | ⟨front, last, equal⟩
      · cases empty
      · rw [equal]
        cases right <;> simp +contextual

theorem Returned.left {left right : Text} (returned : Returned (left ++ right)) :
    Returned left :=
  (returned_append.mp returned).1

theorem Returned.append {left right : Text} (leftReturned : Returned left)
    (rightReturned : Returned right) : Returned (left ++ right) := by
  refine returned_append.mpr ⟨leftReturned, rightReturned.2, ?_⟩
  intro starts
  exact absurd starts rightReturned.1

theorem Returned.right {left right : Text} (returned : Returned (left ++ right))
    (apart : left.getLast? ≠ some '\r') : Returned right := by
  rcases returned_append.mp returned with ⟨_, chain, meets⟩
  exact ⟨fun starts => apart (meets starts), chain⟩

theorem Returned.getLast?_eq {front rest : Text}
    (returned : Returned (front ++ newline :: rest)) : front.getLast? = some '\r' :=
  (returned_append.mp returned).2.2 rfl

theorem not_returned_cons_newline (rest : Text) : ¬ Returned (newline :: rest) :=
  fun returned => returned.1 rfl

theorem Returned.laterLines {text : Text} (returned : Returned text) :
    Returned (laterLines text) := by
  by_cases broken : newline ∈ text
  · rcases List.eq_append_cons_of_mem broken with ⟨line, rest, rfl, unbroken⟩
    rw [laterLines_append_newline unbroken]
    rw [← List.singleton_append, ← List.append_assoc] at returned
    exact returned.right (by simp [newline])
  · rw [laterLines_of_not_mem broken]
    decide

theorem paired_append {left right : Text} :
    Paired (left ++ right) ↔
      (left.IsChain fun char next => char = '\r' → next = newline) ∧ Paired right ∧
        (left.getLast? = some '\r' → right.head? = some newline) := by
  cases right with
  | nil => simp [Paired, and_comm]
  | cons char right =>
      rcases List.eq_nil_or_concat (char :: right) with empty | ⟨front, last, equal⟩
      · cases empty
      · simp only [Paired, List.isChain_append, equal, List.getLast?_append]
        cases left.getLast? <;> simp +contextual [and_assoc, and_left_comm]

theorem Paired.right {left right : Text} (paired : Paired (left ++ right)) :
    Paired right :=
  (paired_append.mp paired).2.1

theorem Paired.getLast?_ne {left right : Text} (paired : Paired (left ++ right))
    (apart : right.head? ≠ some newline) : left.getLast? ≠ some '\r' :=
  fun ends => apart ((paired_append.mp paired).2.2 ends)

theorem Paired.left {left right : Text} (paired : Paired (left ++ right))
    (apart : right.head? ≠ some newline) : Paired left :=
  ⟨paired.getLast?_ne apart, (paired_append.mp paired).1⟩

end Text

namespace Block

/-! ## Gaps -/

theorem returned_gaps {parts : Parts} (returned : Text.Returned parts.text) :
    ∀ gap ∈ parts.gaps, Text.Returned gap := by
  induction parts with
  | plain gap => exact List.forall_mem_singleton.mpr returned
  | commented gap body rest induction =>
      refine List.forall_mem_cons.mpr ⟨?_, induction ?_⟩
      · exact returned.left.left
      · rw [Parts.text, ← List.append_assoc] at returned
        refine returned.right ?_
        simp [closing]

theorem paired_gaps {parts : Parts} (paired : Text.Paired parts.text) :
    ∀ gap ∈ parts.gaps, Text.Paired gap := by
  induction parts with
  | plain gap => exact List.forall_mem_singleton.mpr paired
  | commented gap body rest induction =>
      refine List.forall_mem_cons.mpr ⟨?_, induction ?_⟩
      · rw [Parts.text, List.append_assoc] at paired
        refine paired.left ?_
        simp [opening, Text.newline]
      · rw [Parts.text] at paired
        exact paired.right.right

/-! ## Line breaks that are put in -/

/-- A line break that the comment leaves behind is in the place of the one before it. -/
def Surroundings.Restores (around : Surroundings) : Prop :=
  around.replacement = some [Text.newline] →
    around.opensLine = true ∧ around.breakBefore.isSome = true

def Restores (step : Pending × Bool) : Prop :=
  joint step.1.opensLine step.2 = [Text.newline] → step.1.keepsBreak = true

theorem Fits.restores_iff {around : Surroundings} {step : Pending × Bool}
    (fits : Fits around step) : around.Restores ↔ Restores step := by
  have same : around.replacement = some [Text.newline] ↔
      joint step.1.opensLine step.2 = [Text.newline] := by
    rw [← fits.opens, ← fits.closes, ← Surroundings.getD_replacement]
    cases around.replacement <;> simp
  rw [Surroundings.Restores, Restores, same, ← fits.keeps, Bool.and_eq_true]

/-! ## What is enough -/

variable {pending : Pending} {closes : Bool} {front gap : Text} {gaps : List Text}

def Pending.written (pending : Pending) (closes : Bool) : Text :=
  pending.kept closes ++ joint pending.opensLine closes

theorem Restores.cases (restores : Restores (pending, closes)) :
    pending.opensLine = false ∧ closes = false ∨
      pending.opensLine = true ∧ (Text.newline ∈ pending.gap ∨ closes = true) := by
  rw [Restores, Pending.keepsBreak] at restores
  cases opens : pending.opensLine with
  | false =>
      cases closes with
      | false => exact .inl ⟨rfl, rfl⟩
      | true =>
          rw [opens] at restores
          cases restores rfl
  | true =>
      cases closes with
      | false =>
          rw [opens] at restores
          exact .inr ⟨rfl, .inl (of_decide_eq_true (restores rfl))⟩
      | true => exact .inr ⟨rfl, .inr rfl⟩

/-- If the comment takes in a line break that is still there, everything written with it
stays in place, and so does what it leaves of the gap behind it. -/
theorem returned_opening (returned : Text.Returned (front ++ pending.left))
    (opens : pending.opensLine = true) (broken : Text.newline ∈ pending.left)
    (gapReturned : Text.Returned gap) :
    Text.Returned (front ++ pending.written closes ++ (pending.next closes gap).left) := by
  rw [Pending.written, pending.kept_of_opensLine opens, opens]
  rcases Text.exists_last_break broken with ⟨earlier, line, parts, unbroken⟩
  rw [parts, Text.earlierLines_append_newline unbroken]
  rw [parts, ← List.append_assoc, ← List.singleton_append, ← List.append_assoc] at returned
  have through := returned.left
  cases closes with
  | false =>
      change Text.Returned (front ++ (earlier ++ [Text.newline]) ++ gap)
      rw [← List.append_assoc]
      exact through.append gapReturned
  | true =>
      rw [Pending.left_next opens (pending.ending.subset broken), joint, List.append_nil]
      by_cases inGap : Text.newline ∈ gap
      · rw [Text.fromBreak_eq_cons inGap, ← List.singleton_append, ← List.append_assoc]
        exact through.append gapReturned.laterLines
      · rw [Text.fromBreak_of_not_mem inGap, List.append_nil]
        exact through.left

theorem returned_step (returned : Text.Returned (front ++ pending.left))
    (clear : pending.Clear) (restores : Restores (pending, closes))
    (gapReturned : Text.Returned gap) :
    Text.Returned (front ++ pending.written closes ++ (pending.next closes gap).left) := by
  rcases restores.cases with ⟨opens, rfl⟩ | ⟨opens, taken⟩
  · rw [Pending.written, opens, joint, List.append_nil, Pending.kept, Pending.padded, opens]
    exact returned.append gapReturned
  · by_cases broken : Text.newline ∈ pending.left
    · exact returned_opening returned opens broken gapReturned
    · have unbroken : Text.newline ∉ pending.gap := fun inGap => broken (clear opens inGap)
      rcases taken.resolve_left unbroken with rfl
      rw [Pending.written, pending.kept_of_opensLine opens,
        Text.earlierLines_of_not_mem broken, opens, Pending.left_next_of_not_mem unbroken,
        joint, List.append_nil, List.append_nil]
      exact returned.left.append gapReturned.laterLines

theorem returned_remainder (returned : Text.Returned (front ++ pending.left))
    (steps : ∀ step ∈ pending.course gaps, step.1.Clear ∧ Restores step)
    (later : ∀ gap ∈ gaps, Text.Returned gap) :
    Text.Returned (front ++ remainder pending gaps) := by
  induction gaps generalizing pending front with
  | nil => exact returned
  | cons gap gaps induction =>
      rcases List.forall_mem_cons.mp steps with ⟨⟨clear, restores⟩, steps⟩
      rcases List.forall_mem_cons.mp later with ⟨gapReturned, later⟩
      have next := induction (returned_step returned clear restores gapReturned) steps later
      rw [List.append_assoc] at next
      exact next

/-! ## What is needed -/

theorem Pending.exists_kept (opens : pending.opensLine = false) (closes : Bool) :
    ∃ pad, pending.left = pending.kept closes ++ pad ∧ Text.newline ∉ pad := by
  cases closes with
  | false =>
      rw [kept, padded, opens]
      exact ⟨[], (List.append_nil _).symm, List.not_mem_nil⟩
  | true =>
      rw [kept, padded, opens]
      exact Text.exists_padding_unbroken pending.left

theorem Pending.head?_left_next (opens : pending.opensLine = true)
    (broken : Text.newline ∈ pending.gap) (closes : closesLine gaps.isEmpty gap = true) :
    (pending.next true gap).left.head? = some Text.newline ∨
      gaps = [] ∧ (pending.next true gap).left = [] := by
  rw [Pending.left_next opens broken]
  by_cases inGap : Text.newline ∈ gap
  · rw [Text.fromBreak_eq_cons inGap]
    exact .inl rfl
  · rw [closesLine, decide_eq_false inGap, Bool.or_false, Bool.and_eq_true,
      List.isEmpty_iff] at closes
    exact .inr ⟨closes.1, Text.fromBreak_of_not_mem inGap⟩

theorem Pending.exists_kept_newline (opens : pending.opensLine = false)
    (begins : pending.left.head? = some Text.newline) (closes : Bool) :
    ∃ rest, pending.kept closes = Text.newline :: rest := by
  rcases pending.exists_kept opens closes with ⟨pad, parts, unbroken⟩
  rw [parts] at begins
  cases same : pending.kept closes with
  | nil =>
      rw [same] at begins
      exact absurd (List.mem_of_head? begins) unbroken
  | cons char rest =>
      rw [same] at begins
      rw [Option.some.inj begins]
      exact ⟨rest, rfl⟩

theorem head?_remainder
    (starts : pending.left.head? = some Text.newline ∨ gaps = [] ∧ pending.left = []) :
    remainder pending gaps = [] ∨
      (remainder pending gaps).head? = some Text.newline := by
  induction gaps generalizing pending with
  | nil =>
      rcases starts with starts | ⟨_, empty⟩
      · exact .inr starts
      · exact .inl empty
  | cons gap gaps induction =>
      have begins := starts.resolve_right (by simp)
      rcases List.head?_eq_some_iff.mp begins with ⟨rest, parts⟩
      have broken : Text.newline ∈ pending.left := List.mem_of_mem_head? begins
      rw [remainder]
      cases opens : pending.opensLine with
      | false =>
          rcases pending.exists_kept_newline opens begins (closesLine gaps.isEmpty gap) with
            ⟨more, kept⟩
          rw [kept]
          exact .inr rfl
      | true =>
          -- The last line goes, and with it the break in front if there is no other.
          rw [pending.kept_of_opensLine opens, parts]
          by_cases later : Text.newline ∈ rest
          · have earlier := Text.earlierLines_append_of_mem later [Text.newline]
            rw [List.singleton_append] at earlier
            rw [earlier]
            exact .inr rfl
          · have earlier := Text.earlierLines_append_newline later []
            rw [List.nil_append] at earlier
            rw [earlier]
            cases closes : closesLine gaps.isEmpty gap with
            | false => exact .inr rfl
            | true =>
                exact induction (Pending.head?_left_next opens
                  (pending.ending.subset broken) closes)

/-- How a gap stands behind what has been written before it. A carriage return at the end
has its line break in the gap, and where a comment opens a line that no line break is
left for, nothing has been written at all. -/
structure Pending.Behind (pending : Pending) (front : Text) (gaps : List Text) : Prop where
  paired : Text.Paired pending.gap
  ends : gaps ≠ [] → front.getLast? = some '\r' → pending.left.head? = some Text.newline
  opening : pending.opensLine = true → Text.newline ∉ pending.left → front = []

namespace Pending.Behind

/-- No carriage return without its line break comes to stand in front of a comment. -/
theorem getLast?_ne (behind : pending.Behind front (gap :: gaps))
    (opens : pending.opensLine = false) (closes : Bool) :
    (front ++ pending.kept closes).getLast? ≠ some '\r' := by
  rcases pending.exists_kept opens closes with ⟨pad, parts, unbroken⟩
  have apart : pad.head? ≠ some Text.newline := fun starts =>
    unbroken (List.mem_of_head? starts)
  by_cases nothing : pending.kept closes = []
  · rw [nothing, List.append_nil]
    intro ends
    have starts := behind.ends (List.cons_ne_nil _ _) ends
    rw [parts, nothing, List.nil_append] at starts
    exact apart starts
  · rcases pending.ending with ⟨taken, whole⟩
    have paired := behind.paired
    rw [← whole, parts, ← List.append_assoc] at paired
    have last := paired.getLast?_ne apart
    rw [List.getLast?_append_of_ne_nil _ nothing] at last ⊢
    exact last

theorem written_eq_nil (behind : pending.Behind front (gap :: gaps))
    (opens : pending.opensLine = true) (unbroken : Text.newline ∉ pending.left) :
    front = [] ∧ pending.kept closes = [] := by
  refine ⟨behind.opening opens unbroken, ?_⟩
  rw [pending.kept_of_opensLine opens, Text.earlierLines_of_not_mem unbroken]

/-- A line break that is put in needs a carriage return before it, and there is none but
those of the line breaks that have been taken out. -/
theorem restores (behind : pending.Behind front (gap :: gaps))
    (returned : Text.Returned (front ++ remainder pending (gap :: gaps))) :
    Restores (pending, closesLine gaps.isEmpty gap) := by
  intro leaves
  rw [remainder, leaves, List.append_assoc, ← List.append_assoc] at returned
  cases opens : pending.opensLine with
  | false =>
      exact absurd returned.getLast?_eq (behind.getLast?_ne opens _)
  | true =>
      by_contra keeps
      have unbroken : Text.newline ∉ pending.left := by
        intro broken
        apply keeps
        rw [keepsBreak, opens, decide_eq_true (pending.ending.subset broken)]
        rfl
      rcases behind.written_eq_nil opens unbroken with ⟨nothing, dropped⟩
      rw [nothing, dropped] at returned
      exact Text.not_returned_cons_newline _ returned

/-- If the line break in front of a comment has gone already, the next thing written is a
line break with nothing before it. -/
theorem clear (behind : pending.Behind front (gap :: gaps))
    (returned : Text.Returned (front ++ remainder pending (gap :: gaps)))
    (some : front ++ remainder pending (gap :: gaps) ≠ []) : pending.Clear := by
  intro opens broken
  by_contra unbroken
  rcases behind.written_eq_nil opens unbroken with ⟨nothing, dropped⟩
  rw [remainder, nothing, dropped, opens] at returned some
  cases closes : closesLine gaps.isEmpty gap with
  | false =>
      rw [closes] at returned
      exact Text.not_returned_cons_newline _ returned
  | true =>
      rw [closes] at returned some
      rcases head?_remainder (Pending.head?_left_next opens broken closes) with empty | starts
      · exact some empty
      · exact returned.1 starts

/-- How what is written with a comment and what it leaves of the gap behind it can meet. -/
theorem written_cases (behind : pending.Behind front (gap :: gaps))
    (restores : Restores (pending, closes)) :
    (pending.next closes gap).left = gap ∧
        (front ++ pending.written closes).getLast? ≠ some '\r' ∨
      closes = true ∧ (pending.next closes gap).left = Text.fromBreak gap ∨
      front ++ pending.written closes = [] := by
  rcases restores.cases with ⟨opens, rfl⟩ | ⟨opens, taken⟩
  · refine .inl ⟨rfl, ?_⟩
    rw [written, opens, joint, List.append_nil]
    exact behind.getLast?_ne opens false
  · cases closes with
    | false =>
        refine .inl ⟨rfl, ?_⟩
        rw [written, opens, joint, ← List.append_assoc, List.getLast?_concat]
        decide
    | true =>
        right
        by_cases broken : Text.newline ∈ pending.gap
        · exact .inl ⟨rfl, left_next opens broken gap⟩
        · have unbroken : Text.newline ∉ pending.left := fun inLeft =>
            broken (pending.ending.subset inLeft)
          rcases behind.written_eq_nil opens unbroken with ⟨nothing, dropped⟩
          rw [written, nothing, dropped, opens]
          exact .inr rfl

theorem next (behind : pending.Behind front (gap :: gaps))
    (restores : Restores (pending, closesLine gaps.isEmpty gap))
    (paired : Text.Paired gap) :
    (pending.next (closesLine gaps.isEmpty gap) gap).Behind
      (front ++ pending.written (closesLine gaps.isEmpty gap)) gaps where
  paired := paired
  ends := by
    intro more ends
    rcases behind.written_cases restores with ⟨_, apart⟩ | ⟨closes, left⟩ | nothing
    · exact absurd ends apart
    · rw [closesLine, List.isEmpty_eq_false_iff.mpr more, Bool.false_or,
        Bool.and_eq_true] at closes
      rw [left, Text.fromBreak_eq_cons (of_decide_eq_true closes.1)]
      rfl
    · rw [nothing] at ends
      cases ends
  opening := by
    intro opens unbroken
    have broken : Text.newline ∈ gap := newline_mem_of_opensLine rfl opens
    rcases behind.written_cases restores with ⟨left, _⟩ | ⟨_, left⟩ | nothing
    · rw [left] at unbroken
      exact absurd broken unbroken
    · rw [left, Text.fromBreak_eq_cons broken] at unbroken
      exact absurd List.mem_cons_self unbroken
    · exact nothing

theorem steps (behind : pending.Behind front gaps)
    (later : ∀ gap ∈ gaps, Text.Paired gap)
    (returned : Text.Returned (front ++ remainder pending gaps)) :
    ∀ step ∈ pending.course gaps,
      Restores step ∧ (front ++ remainder pending gaps ≠ [] → step.1.Clear) := by
  -- Along the gaps `front` grows, and `Behind` is what ties it to the gap that comes next.
  induction gaps generalizing pending front with
  | nil => exact List.forall_mem_nil _
  | cons gap gaps induction =>
      rcases List.forall_mem_cons.mp later with ⟨paired, later⟩
      have restores := behind.restores returned
      refine List.forall_mem_cons.mpr ⟨⟨restores, behind.clear returned⟩, ?_⟩
      rw [remainder, ← List.append_assoc] at returned ⊢
      exact induction (behind.next restores paired) later returned

end Pending.Behind

/-! ## The whole pass -/

/-- If every line break of a text has its carriage return, so has every line break of what
is left where each line break that is put in restores one and no two removals overlap.
If there are no other carriage returns in the text, that is the only case in which
anything is left with all its line breaks in order. -/
theorem returned_strip {text : Text} {spans : List Span} (closed : scan text = .closed spans)
    (returned : Text.Returned text) :
    ∃ arounds left, spans.mapM (Surroundings.of? text) = some arounds ∧
      strip text = .changed left ∧
      ((∀ around ∈ arounds, around.Restores) ∧ (Separate arounds ∨ left = []) →
        Text.Returned left) ∧
      (Text.Paired text → Text.Returned left →
        (∀ around ∈ arounds, around.Restores) ∧ (Separate arounds ∨ left = [])) := by
  rcases scan_eq_closed_iff.mp closed with ⟨parts, commented, rfl, rfl⟩
  have gaps := returned_gaps returned
  have fits := (Pending.start_at parts.lead).forall₂_course parts rfl
  have same : (∀ around ∈ parts.arounds [], around.Restores) ↔ _ :=
    forall_arounds_iff (fun _ _ => Fits.restores_iff) fits
  have separate := separate_arounds_iff parts
  refine ⟨parts.arounds [], _, mapM_of?_parts [] parts, strip_parts parts commented, ?_, ?_⟩
  · intro restored
    rcases restored with ⟨restores, clears | empty⟩
    · have steps := fun step member =>
        And.intro (separate.mp clears step member) (same.mp restores step member)
      change Text.Returned ([] ++ remainder _ _)
      exact returned_remainder (gaps parts.lead List.mem_cons_self) steps fun gap member =>
        gaps gap (List.mem_cons_of_mem _ member)
    · rw [empty]
      decide
  · intro paired left
    have pairs := paired_gaps paired
    have behind : (Pending.start parts.lead).Behind [] parts.later :=
      { paired := pairs parts.lead List.mem_cons_self
        ends := fun _ absurd => by cases absurd
        opening := fun _ _ => rfl }
    have steps := behind.steps (fun gap member => pairs gap (List.mem_cons_of_mem _ member))
      left
    refine ⟨same.mpr fun step member => (steps step member).1, ?_⟩
    by_cases empty : remainder (.start parts.lead) parts.later = []
    · exact .inr empty
    · exact .inl (separate.mpr fun step member => (steps step member).2 empty)

private def returning : Text := "a\r\n/* é\r\n */\r\n  /* b */ x;\r\ny /* c */ z\r\n".toList

/-- The first comment has its lines to itself, the second opens a line and the third stands
within one. -/
theorem returned_strip_returning :
    scan returning = .closed [⟨3, 11⟩, ⟨17, 22⟩, ⟨31, 36⟩] ∧ Text.Returned returning ∧
      Text.Paired returning ∧
      strip returning = .changed "a\r\n x;\r\ny  z\r\n".toList ∧
      Text.Returned "a\r\n x;\r\ny  z\r\n".toList ∧
      ∃ arounds,
        [⟨3, 11⟩, ⟨17, 22⟩, ⟨31, 36⟩].mapM (Surroundings.of? returning) = some arounds ∧
        (∀ around ∈ arounds, around.Restores) ∧ Separate arounds := by
  have closed : scan returning = .closed [⟨3, 11⟩, ⟨17, 22⟩, ⟨31, 36⟩] := by
    decide +kernel
  have returned : Text.Returned returning := by decide +kernel
  have paired : Text.Paired returning := by decide +kernel
  have stripped : strip returning = .changed "a\r\n x;\r\ny  z\r\n".toList := by
    decide +kernel
  have kept : Text.Returned "a\r\n x;\r\ny  z\r\n".toList := by decide +kernel
  rcases returned_strip closed returned with ⟨arounds, left, found, same, _, needed⟩
  rw [stripped, Edit.changed.injEq] at same
  rw [← same] at needed
  rcases needed paired kept with ⟨restored, separate | empty⟩
  · exact ⟨closed, returned, paired, stripped, kept, arounds, found, restored, separate⟩
  · cases empty

private def trailing : Text := "int a; /* one */\r\nint b;\r\n".toList

/-- The carriage return goes with a comment at the end of its line. -/
theorem trailing_loses_return :
    scan trailing = .closed [⟨7, 14⟩] ∧ Text.Returned trailing ∧
      strip trailing = .changed "int a;\nint b;\r\n".toList ∧
      ¬ Text.Returned "int a;\nint b;\r\n".toList := by
  decide +kernel

end Block

end Uncomment
