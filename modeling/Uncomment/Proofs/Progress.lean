import Uncomment.Strip
import Uncomment.Proofs.Block.Remainder
import Uncomment.Proofs.Line.Remainder
import Uncomment.Proofs.Loop

namespace Uncomment

/-! The passes always come to an end of the text. None of their cuts fails, and in each of
their three loops the cursor moves on with every turn. -/

/-! ## The search for block comments -/

namespace Block

def searchLoop (text : Text) : Loop Nat Scan where
  cursor := id
  turn? cursor := do
    let rest ← text.drop? cursor
    match Text.find? opening rest with
    | none => return .ends .absent
    | some gap =>
        let opener := cursor + gap
        let inside ← text.drop? (opener + Text.size opening)
        match Text.find? closing inside with
        | none => return .ends (.unclosed opener)
        | some length =>
            let span : Span := ⟨opener, opener + Text.size opening + length⟩
            return .goesOn span.after (.cons span)

theorem isRun_searchLoop (text : Text) : (searchLoop text).IsRun (scanFrom? text) := by
  intro cursor
  rw [scanFrom?_eq]
  simp only [searchLoop, Option.bind_eq_bind]
  cases text.drop? cursor with
  | none => rfl
  | some rest =>
      simp only [Option.bind_some]
      cases Text.find? opening rest with
      | none => rfl
      | some gap =>
          dsimp only
          cases text.drop? (cursor + gap + Text.size opening) with
          | none => rfl
          | some inside =>
              simp only [Option.bind_some]
              cases Text.find? closing inside <;> rfl

theorem searchLoop_advances {text : Text} {cursor next : Nat} {finish : Scan → Scan}
    (onward : (searchLoop text).turn? cursor = some (.goesOn next finish)) :
    cursor < next := by
  simp only [searchLoop, Option.bind_eq_bind, Option.bind_eq_some_iff, Option.pure_def]
    at onward
  rcases onward with ⟨rest, _, onward⟩
  split at onward
  · cases onward
  · rcases Option.bind_eq_some_iff.mp onward with ⟨inside, _, onward⟩
    split at onward
    · cases onward
    · cases onward
      have openingSize : Text.size opening = 2 := rfl
      simp only [Span.after]
      omega

theorem searchLoop_runsThrough (text : Text) :
    (searchLoop text).RunsThrough (scanFrom? text) 0 := by
  refine (isRun_searchLoop text).runsThrough ?_ fun _ onward => searchLoop_advances onward
  rw [scanFrom?_eq_some_scan]
  rfl

/-! ## The pass over block comments -/

def stripLoop (text : Text) : Loop (Nat × List Span) Text where
  cursor := Prod.fst
  turn?
    | (cursor, []) => (text.drop? cursor).map .ends
    | (cursor, span :: rest) => do
        let around ← Surroundings.of? text span
        let start := max around.removal.start cursor
        let kept ← text.slice? cursor start
        let kept := if around.trimsBefore then kept.trimPadding else kept
        return .goesOn (max around.removal.stop start, rest)
          (kept ++ around.replacement.getD [] ++ ·)

theorem isRun_stripLoop (text : Text) :
    (stripLoop text).IsRun fun (cursor, spans) => stripFrom? text cursor spans := by
  rintro ⟨cursor, spans⟩
  cases spans with
  | nil => simp only [stripFrom?, stripLoop]; cases text.drop? cursor <;> rfl
  | cons span rest =>
      simp only [stripFrom?, stripLoop]
      cases Surroundings.of? text span with
      | none => rfl
      | some around =>
          simp only [Option.bind_eq_bind, Option.bind_some]
          cases text.slice? cursor (max around.removal.start cursor) with
          | none => rfl
          | some kept => exact Option.map_eq_bind.symm

theorem stripLoop_onward {text : Text} {cursor : Nat} {span : Span} {rest : List Span}
    {next : Nat × List Span} {finish : Text → Text}
    (onward : (stripLoop text).turn? (cursor, span :: rest) = some (.goesOn next finish)) :
    ∃ around, Surroundings.of? text span = some around ∧
      next = (max around.removal.stop (max around.removal.start cursor), rest) := by
  simp only [stripLoop, Option.bind_eq_bind, Option.bind_eq_some_iff, Option.pure_def]
    at onward
  rcases onward with ⟨around, found, kept, _, onward⟩
  cases onward
  exact ⟨around, found, rfl⟩

def Midway (text : Text) : Nat × List Span → Prop
  | (cursor, spans) => ∃ (pending : Pending) (past : Text) (parts : Parts),
      past ++ parts.text = text ∧ parts.spans (Text.size past) = spans ∧
        pending.gap = parts.lead ∧ pending.At past cursor

theorem midway_start (parts : Parts) : Midway parts.text (0, parts.spans 0) :=
  ⟨.start parts.lead, [], parts, rfl, rfl, rfl, Pending.start_at parts.lead⟩

/-- One turn takes the cursor past the comment, and to the gap in front of the next. -/
theorem Midway.onward {text : Text} {state next : Nat × List Span} {finish : Text → Text}
    (midway : Midway text state)
    (onward : (stripLoop text).turn? state = some (.goesOn next finish)) :
    Midway text next ∧ state.1 < next.1 := by
  rcases state with ⟨cursor, _⟩
  rcases midway with ⟨pending, past, parts, rfl, rfl, same, reached⟩
  cases parts with
  | plain gap =>
      rcases Option.map_eq_some_iff.mp onward with ⟨_, _, ends⟩
      cases ends
  | commented gap body rest =>
      change pending.gap = gap.text at same
      rw [Parts.text_commented, Parts.spans_commented] at onward
      rcases stripLoop_onward onward with ⟨around, found, rfl⟩
      rw [Surroundings.of?_throughComment, Option.some.injEq] at found
      subst found
      rw [reached.max_removal_start same body rest.text]
      constructor
      · exact ⟨_, throughComment past gap body, rest, (Parts.text_commented ..).symm, rfl,
          rfl, reached.next same body rest⟩
      · have stops := Surroundings.after_le_removal_stop (past ++ gap.text)
          (commentSpan past gap body) rest.text
        have sizes := reached.cursor
        rw [same] at sizes
        have after : Text.size past + Text.size gap.text <
            (commentSpan past gap body).after := by
          have openingSize : Text.size opening = 2 := rfl
          simp only [commentSpan, Span.after]
          omega
        dsimp only
        omega

theorem midway_of_reaches {parts : Parts} {state : Nat × List Span}
    (reaches : (stripLoop parts.text).Reaches (0, parts.spans 0) state) :
    Midway parts.text state := by
  induction reaches with
  | start => exact midway_start parts
  | turn before onward induction => exact (induction.onward onward).1

theorem stripLoop_runsThrough {text : Text} {spans : List Span}
    (closed : scan text = .closed spans) :
    (stripLoop text).RunsThrough (fun (cursor, spans) => stripFrom? text cursor spans)
      (0, spans) := by
  rcases scan_eq_closed_iff.mp closed with ⟨parts, _, rfl, rfl⟩
  refine (isRun_stripLoop parts.text).runsThrough ?_ fun reaches onward =>
    ((midway_of_reaches reaches).onward onward).2
  have left := stripFrom?_parts parts (Pending.start_at parts.lead) rfl
  exact Option.isSome_of_eq_some left

theorem isSome_of?_of_closed {text : Text} {spans : List Span}
    (closed : scan text = .closed spans) {span : Span} (member : span ∈ spans) :
    (Surroundings.of? text span).isSome := by
  rcases scan_eq_closed_iff.mp closed with ⟨parts, _, rfl, rfl⟩
  have around (before : Text) (parts : Parts)
      (member : span ∈ parts.spans (Text.size before)) :
      (Surroundings.of? (before ++ parts.text) span).isSome := by
    induction parts generalizing before with
    | plain gap => cases member
    | commented gap body rest induction =>
        rw [Parts.text_commented]
        rw [Parts.spans_commented] at member
        rcases List.mem_cons.mp member with rfl | later
        · exact Option.isSome_of_eq_some (Surroundings.of?_throughComment ..)
        · exact induction _ later
  exact around [] parts member

theorem strip?_eq_some_strip (text : Text) : strip? text = some (strip text) := by
  have succeeds : (strip? text).isSome := by
    cases found : scan text with
    | absent => rw [strip?_of_not_closed (by simp [found])]; rfl
    | unclosed opener => rw [strip?_of_not_closed (by simp [found])]; rfl
    | closed spans =>
        rcases scan_eq_closed_iff.mp found with ⟨parts, commented, rfl, _⟩
        exact Option.isSome_of_eq_some (strip?_parts parts commented)
  rcases Option.isSome_iff_exists.mp succeeds with ⟨edit, found⟩
  rw [strip, found, Option.getD_some]

end Block

/-! ## The pass over line comments -/

namespace Line

def stripLoop (text : Text) : Loop (Nat × Bool) Text where
  cursor := Prod.fst
  turn? | (cursor, written) => do
    let rest ← text.drop? cursor
    match Text.find? marker rest with
    | none => return .ends rest
    | some length =>
        let (code, comment) ← Text.splitAt? length rest
        match Text.find? [Text.newline] comment with
        | none => return .ends code.trim
        | some commentLength =>
            let written := written || !code.trim.isEmpty
            let lineBreak := cursor + length + commentLength
            return .goesOn (if written then lineBreak else lineBreak + 1, written)
              (code.trim ++ ·)

theorem isRun_stripLoop (text : Text) :
    (stripLoop text).IsRun fun (cursor, written) => stripFrom? text cursor written := by
  rintro ⟨cursor, written⟩
  dsimp only
  rw [stripFrom?, segmentsFrom?_eq]
  simp only [stripLoop, Option.bind_eq_bind]
  cases text.drop? cursor with
  | none => rfl
  | some rest =>
      simp only [Option.bind_some]
      cases Text.find? marker rest with
      | none => rfl
      | some length =>
          dsimp only
          cases Text.splitAt? length rest with
          | none => rfl
          | some parts =>
              simp only [Option.bind_some]
              cases Text.find? [Text.newline] parts.2 with
              | none => simp
              | some commentLength => simp [stripFrom?, Function.comp_def]

theorem stripLoop_advances {text : Text} {state next : Nat × Bool} {finish : Text → Text}
    (onward : (stripLoop text).turn? state = some (.goesOn next finish)) :
    state.1 < next.1 := by
  simp only [stripLoop, Option.bind_eq_bind, Option.bind_eq_some_iff, Option.pure_def]
    at onward
  rcases onward with ⟨rest, _, onward⟩
  split at onward
  · cases onward
  · rename_i length marked
    rcases Option.bind_eq_some_iff.mp onward with ⟨⟨code, comment⟩, cut, onward⟩
    dsimp only at onward
    split at onward
    · cases onward
    · rename_i commentLength ended
      cases onward
      obtain ⟨after, rfl⟩ := Text.splitAt?_of_find? marked cut
      have progress := Text.find?_pos (by decide) ended
      dsimp only
      split <;> omega

theorem stripLoop_runsThrough (text : Text) :
    (stripLoop text).RunsThrough (fun (cursor, written) => stripFrom? text cursor written)
      (0, false) := by
  refine (isRun_stripLoop text).runsThrough ?_ fun _ onward => stripLoop_advances onward
  exact Option.isSome_of_eq_some (stripFrom?_append text [] false)

theorem strip?_eq_some_strip (text : Text) : strip? text = some (strip text) := by
  have left := stripFrom?_append text [] false
  rw [List.nil_append, Text.size_nil] at left
  have succeeds : (strip? text).isSome := by
    rw [strip?]
    split
    · rfl
    · rw [left]
      rfl
  rcases Option.isSome_iff_exists.mp succeeds with ⟨edit, found⟩
  rw [strip, found, Option.getD_some]

end Line

/-! ## Both passes -/

/-- Stripping a text never breaks off. A cut can fail in one way only, with ends out of
order or off the boundaries between characters, and none does: not in the search for
comments, nor in a look around a comment that it finds, nor in a pass. Each turn of one
of the loops that is not its last moves the cursor on. -/
theorem strip_runsThrough (text : Text) :
    (∀ start stop, (text.slice? start stop).isSome ↔
      start ≤ stop ∧ stop ≤ Text.size text ∧
        text.IsBoundary start ∧ text.IsBoundary stop) ∧
    (∀ offset, (text.take? offset).isSome ↔ text.IsBoundary offset) ∧
    (∀ offset, (text.drop? offset).isSome ↔ text.IsBoundary offset) ∧
    (∀ offset, (Text.splitAt? offset text).isSome ↔ text.IsBoundary offset) ∧
    Block.scanFrom? text 0 = some (Block.scan text) ∧
    (Block.searchLoop text).RunsThrough (Block.scanFrom? text) 0 ∧
    (∀ spans, Block.scan text = .closed spans →
      (∀ span ∈ spans, (Block.Surroundings.of? text span).isSome) ∧
      (Block.stripLoop text).RunsThrough
        (fun (cursor, spans) => Block.stripFrom? text cursor spans) (0, spans)) ∧
    (Line.stripLoop text).RunsThrough
      (fun (cursor, written) => Line.stripFrom? text cursor written) (0, false) ∧
    Line.strip? text = some (Line.strip text) ∧
    ∃ blocks lines, Block.strip? text = some blocks ∧
      Line.strip? (blocks.apply text) = some lines ∧
      strip text = ⟨lines.apply (blocks.apply text), blocks.isChanged || lines.isChanged⟩ := by
  refine ⟨fun _ _ => Text.isSome_slice?_iff, fun _ => Text.isSome_take?_iff,
    fun _ => Text.isSome_drop?_iff, fun _ => Text.isSome_splitAt?_iff,
    Block.scanFrom?_eq_some_scan text, Block.searchLoop_runsThrough text, ?_,
    Line.stripLoop_runsThrough text, Line.strip?_eq_some_strip text, ?_⟩
  · intro spans closed
    exact ⟨fun _ member => Block.isSome_of?_of_closed closed member,
      Block.stripLoop_runsThrough closed⟩
  · exact ⟨Block.strip text, Line.strip ((Block.strip text).apply text),
      Block.strip?_eq_some_strip text, Line.strip?_eq_some_strip _, rfl⟩

end Uncomment
