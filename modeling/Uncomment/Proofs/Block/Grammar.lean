import Uncomment.Proofs.Block.Parts

namespace Uncomment

namespace Block

/-! The search for comments against the grammar: it reports the spans of the only
way to take the text apart, and exactly when there is one. -/

theorem scanFrom?_eq (text : Text) (cursor : Nat) :
    scanFrom? text cursor = (Text.drop? cursor text).bind fun rest =>
      match Text.find? opening rest with
      | none => some .absent
      | some gap =>
          (Text.drop? (cursor + gap + Text.size opening) text).bind fun inside =>
            match Text.find? closing inside with
            | none => some (.unclosed (cursor + gap))
            | some length =>
                let opener := cursor + gap
                let span : Span := ⟨opener, opener + Text.size opening + length⟩
                (scanFrom? text span.after).map (Scan.cons span) := by
  rw [scanFrom?]
  split
  · rename_i outside
    rw [outside, Option.bind_none]
  · rename_i rest dropped
    rw [dropped, Option.bind_some]
    split
    · rename_i absent
      rw [absent]
    · rename_i gap opened
      rw [opened]
      dsimp only
      cases Text.drop? (cursor + gap + Text.size opening) text with
      | none => rfl
      | some inside => rfl

/-! ## One step of the search -/

theorem scanFrom?_plain (before : Text) (gap : Gap) :
    scanFrom? (before ++ gap.text) (Text.size before) = some .absent := by
  rw [scanFrom?_eq, Text.drop?_append, Option.bind_some, Text.find?, Parts.cut?_plain]
  rfl

theorem drop?_inside (before gap inside : Text) :
    Text.drop? (Text.size before + Text.size gap + Text.size opening)
      (before ++ (gap ++ opening ++ inside)) = some inside := by
  apply Text.drop?_eq_some_iff.mpr
  exact ⟨before ++ gap ++ opening, by simp, by simp [Nat.add_assoc]⟩

theorem scanFrom?_unclosed (before : Text) (gap : Gap) (rest : Body) :
    scanFrom? (before ++ (gap.text ++ opening ++ rest.text)) (Text.size before) =
      some (.unclosed (Text.size before + Text.size gap.text)) := by
  rw [scanFrom?_eq, Text.drop?_append, Option.bind_some, Text.find?, gap.cut?,
    Option.map_some]
  simp only [drop?_inside, Option.bind_some]
  rw [Text.find?, Text.cut?_eq_none_iff.mpr rest.free, Option.map_none]

theorem scanFrom?_commented (before : Text) (gap : Gap) (body : Body) (rest : Text) :
    scanFrom? (throughComment before gap body ++ rest) (Text.size before) =
      (scanFrom? (throughComment before gap body ++ rest)
        (Text.size (throughComment before gap body))).map
          (Scan.cons (commentSpan before gap body)) := by
  rw [size_throughComment, throughComment_append, scanFrom?_eq, Text.drop?_append,
    Option.bind_some, Text.find?, gap.cut?, Option.map_some]
  simp only [drop?_inside, Option.bind_some]
  rw [Text.find?, body.cut?, Option.map_some]
  rfl

/-! ## The whole search -/

def Scan.ofSpans : List Span → Scan
  | [] => absent
  | span :: spans => closed (span :: spans)

def Scan.spans : Scan → List Span
  | absent | unclosed _ => []
  | closed spans => spans

theorem Scan.spans_ofSpans (spans : List Span) : (ofSpans spans).spans = spans := by
  cases spans <;> rfl

theorem Scan.cons_ofSpans (span : Span) (spans : List Span) :
    Scan.cons span (ofSpans spans) = closed (span :: spans) := by
  cases spans <;> rfl

theorem scanFrom?_parts (before : Text) (parts : Parts) :
    scanFrom? (before ++ parts.text) (Text.size before) =
      some (.ofSpans (parts.spans (Text.size before))) := by
  induction parts generalizing before with
  | plain gap => exact scanFrom?_plain before gap
  | commented gap body rest induction =>
      rw [Parts.text_commented, scanFrom?_commented, induction, Parts.spans_commented,
        Option.map_some, Scan.cons_ofSpans]
      rfl

theorem scanFrom?_parts_unclosed (before : Text) (parts : Parts) (last : Body) :
    scanFrom? (before ++ (parts.text ++ opening ++ last.text)) (Text.size before) =
      some (.unclosed (Text.size before + Text.size parts.text)) := by
  induction parts generalizing before with
  | plain gap => exact scanFrom?_unclosed before gap last
  | commented gap body rest induction =>
      have joined :
          before ++ ((Parts.commented gap body rest).text ++ opening ++ last.text) =
            throughComment before gap body ++ (rest.text ++ opening ++ last.text) := by
        rw [throughComment_append, Parts.text]
        simp
      have sizes := congrArg Text.size (Parts.text_commented before gap body rest)
      rw [Text.size_append, Text.size_append] at sizes
      rw [joined, scanFrom?_commented, induction, sizes]
      rfl

theorem scan_eq_of_scanFrom? {text : Text} {result : Scan}
    (found : scanFrom? text 0 = some result) : scan text = result := by
  rw [scan, found, Option.getD_some]

theorem scan_parts (parts : Parts) : scan parts.text = .ofSpans (parts.spans 0) :=
  scan_eq_of_scanFrom? (scanFrom?_parts [] parts)

theorem scan_parts_unclosed (parts : Parts) (last : Body) :
    scan (parts.text ++ opening ++ last.text) = .unclosed (Text.size parts.text) := by
  apply scan_eq_of_scanFrom?
  simpa using scanFrom?_parts_unclosed [] parts last

/-- The search always comes to an end of the text. -/
theorem scanFrom?_eq_some_scan (text : Text) : scanFrom? text 0 = some (scan text) := by
  rcases exists_parts text with ⟨parts, rfl⟩ | ⟨parts, last, rfl⟩
  · rw [scan_parts]
    exact scanFrom?_parts [] parts
  · rw [scan_parts_unclosed]
    simpa using scanFrom?_parts_unclosed [] parts last

/-! ## The three outcomes -/

def IsClosed (text : Text) : Prop :=
  ∃ parts : Parts, parts.bodies ≠ [] ∧ parts.text = text

def IsUnclosed (text : Text) : Prop :=
  ∃ (parts : Parts) (last : Body), parts.text ++ opening ++ last.text = text

theorem scan_eq_closed_iff {text : Text} {spans : List Span} :
    scan text = .closed spans ↔
      ∃ parts : Parts, parts.bodies ≠ [] ∧ parts.text = text ∧ parts.spans 0 = spans := by
  constructor
  · intro closed
    rcases exists_parts text with ⟨parts, rfl⟩ | ⟨parts, last, rfl⟩
    · rw [scan_parts] at closed
      cases parts with
      | plain gap => cases closed
      | commented gap body rest =>
          exact ⟨.commented gap body rest, List.cons_ne_nil _ _, rfl,
            Scan.closed.inj closed⟩
    · rw [scan_parts_unclosed] at closed
      cases closed
  · rintro ⟨parts, commented, rfl, rfl⟩
    rw [scan_parts]
    cases parts with
    | plain gap => exact absurd rfl commented
    | commented gap body rest => rfl

theorem scan_eq_unclosed_iff {text : Text} {opener : Nat} :
    scan text = .unclosed opener ↔
      ∃ (parts : Parts) (last : Body),
        parts.text ++ opening ++ last.text = text ∧ Text.size parts.text = opener := by
  constructor
  · intro unclosed
    rcases exists_parts text with ⟨parts, rfl⟩ | ⟨parts, last, rfl⟩
    · rw [scan_parts] at unclosed
      cases parts <;> cases unclosed
    · rw [scan_parts_unclosed] at unclosed
      exact ⟨parts, last, rfl, Scan.unclosed.inj unclosed⟩
  · rintro ⟨parts, last, rfl, rfl⟩
    exact scan_parts_unclosed parts last

theorem scan_eq_absent_iff {text : Text} :
    scan text = .absent ↔ ¬ opening <:+: text := by
  constructor
  · intro absent
    rcases exists_parts text with ⟨parts, rfl⟩ | ⟨parts, last, rfl⟩
    · rw [scan_parts] at absent
      cases parts with
      | plain gap => exact gap.free
      | commented gap body rest => cases absent
    · rw [scan_parts_unclosed] at absent
      cases absent
  · intro free
    exact scan_parts (.plain ⟨text, free⟩)

theorem isClosed_iff {text : Text} :
    IsClosed text ↔ ∃ spans, scan text = .closed spans := by
  simp only [scan_eq_closed_iff, IsClosed]
  constructor
  · rintro ⟨parts, commented, equal⟩
    exact ⟨_, parts, commented, equal, rfl⟩
  · rintro ⟨_, parts, commented, equal, _⟩
    exact ⟨parts, commented, equal⟩

theorem isUnclosed_iff {text : Text} :
    IsUnclosed text ↔ ∃ opener, scan text = .unclosed opener := by
  simp only [scan_eq_unclosed_iff, IsUnclosed]
  constructor
  · rintro ⟨parts, last, equal⟩
    exact ⟨_, parts, last, equal, rfl⟩
  · rintro ⟨_, parts, last, equal, _⟩
    exact ⟨parts, last, equal⟩

/-- The search accepts exactly the grammar. It never breaks off; it reports spans
where the text has closed comments only, and then the offsets of their markers in the
one way to take the text apart; it reports an opening marker where that one starts
a comment that is not closed; and it reports nothing where there is no opening marker.
Every text is of exactly one of these kinds. -/
theorem scan_exact (text : Text) :
    scanFrom? text 0 = some (scan text) ∧
    (∀ spans, scan text = .closed spans ↔
      ∃ parts : Parts, parts.bodies ≠ [] ∧ parts.text = text ∧ parts.spans 0 = spans) ∧
    (∀ parts other : Parts, parts.text = text → other.text = text → parts = other) ∧
    (∀ opener, scan text = .unclosed opener ↔
      ∃ (parts : Parts) (last : Body),
        parts.text ++ opening ++ last.text = text ∧ Text.size parts.text = opener) ∧
    (scan text = .absent ↔ ¬ opening <:+: text) ∧
    ((IsClosed text ∧ ¬ IsUnclosed text ∧ opening <:+: text) ∨
      (¬ IsClosed text ∧ IsUnclosed text ∧ opening <:+: text) ∨
      (¬ IsClosed text ∧ ¬ IsUnclosed text ∧ ¬ opening <:+: text)) := by
  refine ⟨scanFrom?_eq_some_scan text, fun _ => scan_eq_closed_iff, ?_,
    fun _ => scan_eq_unclosed_iff, scan_eq_absent_iff, ?_⟩
  · intro parts other partsText otherText
    exact Parts.text_injective (partsText.trans otherText.symm)
  · have occurs : opening <:+: text ↔ scan text ≠ .absent := by
      rw [ne_eq, scan_eq_absent_iff, Classical.not_not]
    rw [isClosed_iff, isUnclosed_iff, occurs]
    cases scan text <;> simp

end Block

end Uncomment
