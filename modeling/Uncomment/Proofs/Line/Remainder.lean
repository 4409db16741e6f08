import Uncomment.Line.Strip
import Uncomment.Proofs.Text.Break

namespace Uncomment

namespace Line

/-! The pass over line comments told without offsets: what is left of a text hangs
on the text and on whether anything has been written before it. -/

/-- The first line comment after `code` starts right behind it. -/
def Ahead (code : Text) : Prop := ¬ marker <:+: code ++ ['/']

theorem marker_ne_nil : marker ≠ [] := List.cons_ne_nil _ _

theorem newline_not_mem_marker : Text.newline ∉ marker := by decide

theorem cut?_marker {code : Text} (ahead : Ahead code) (comment : Text) :
    Text.cut? marker (code ++ marker ++ comment) = some (code, comment) :=
  (Text.cut?_eq_some_iff marker_ne_nil).mpr ⟨rfl, ahead⟩

theorem length_of_cuts {text code comment line rest : Text}
    (marked : Text.cut? marker text = some (code, comment))
    (ended : Text.cut? [Text.newline] comment = some (line, rest)) :
    rest.length + 3 ≤ text.length := by
  rw [Text.eq_of_cut? marked, Text.eq_of_cut? ended]
  simp only [marker, List.length_append, List.length_cons, List.length_nil]
  omega

/-- What is left of a text, by whether anything is `written` before it. -/
def remainder (written : Bool) (text : Text) : Text :=
  match _marked : Text.cut? marker text with
  | none => text
  | some (code, comment) =>
    match _ended : Text.cut? [Text.newline] comment with
    | none => code.trim
    | some (_, rest) =>
        let written := written || !code.trim.isEmpty
        code.trim ++ remainder written (if written then Text.newline :: rest else rest)
termination_by text.length
decreasing_by
  have bound := length_of_cuts _marked _ended
  split
  · rw [List.length_cons]
    omega
  · omega

/-! ## One comment -/

theorem remainder_of_free {text : Text} (free : ¬ marker <:+: text) (written : Bool) :
    remainder written text = text := by
  rw [remainder]
  split
  · rfl
  · rename_i marked
    rw [Text.cut?_eq_none_iff.mpr free] at marked
    cases marked

theorem remainder_last {code line : Text} (ahead : Ahead code)
    (unbroken : Text.newline ∉ line) (written : Bool) :
    remainder written (code ++ marker ++ line) = code.trim := by
  have absent : ¬ [Text.newline] <:+: line := by
    intro occurs
    exact unbroken (occurs.subset List.mem_cons_self)
  rw [remainder]
  split
  · rename_i marked
    rw [cut?_marker ahead] at marked
    cases marked
  · rename_i marked
    rw [cut?_marker ahead] at marked
    cases marked
    split
    · rfl
    · rename_i ended
      rw [Text.cut?_eq_none_iff.mpr absent] at ended
      cases ended

theorem remainder_comment {code line : Text} (ahead : Ahead code)
    (unbroken : Text.newline ∉ line) (rest : Text) (written : Bool) :
    remainder written (code ++ marker ++ (line ++ Text.newline :: rest)) =
      code.trim ++ remainder (written || !code.trim.isEmpty)
        (if written || !code.trim.isEmpty then Text.newline :: rest else rest) := by
  rw [remainder]
  split
  · rename_i marked
    rw [cut?_marker ahead] at marked
    cases marked
  · rename_i marked
    rw [cut?_marker ahead] at marked
    cases marked
    split
    · rename_i ended
      rw [Text.cut?_newline unbroken] at ended
      cases ended
    · rename_i ended
      rw [Text.cut?_newline unbroken] at ended
      cases ended
      rfl

/-- A text has no line comment, or its first one runs to the end, or to a line
break. -/
theorem marked_induction {motive : Text → Prop}
    (free : ∀ text, ¬ marker <:+: text → motive text)
    (last : ∀ code line, Ahead code → Text.newline ∉ line →
      motive (code ++ marker ++ line))
    (comment : ∀ code line rest, Ahead code → Text.newline ∉ line →
      motive rest → motive (Text.newline :: rest) →
      motive (code ++ marker ++ (line ++ Text.newline :: rest)))
    (text : Text) : motive text := by
  induction length : text.length using Nat.strongRecOn generalizing text with
  | _ count induction =>
      cases marked : Text.cut? marker text with
      | none => exact free text (Text.cut?_eq_none_iff.mp marked)
      | some parts =>
          rcases parts with ⟨code, after⟩
          rcases (Text.cut?_eq_some_iff marker_ne_nil).mp marked with
            ⟨equal, ahead⟩
          by_cases broken : Text.newline ∈ after
          · rcases List.eq_append_cons_of_mem broken with ⟨line, rest, rfl, unbroken⟩
            have bound := length_of_cuts marked (Text.cut?_newline unbroken rest)
            rw [equal]
            -- The pass takes the line break along or not, so both rests are needed.
            refine comment code line rest ahead unbroken ?_ ?_
            · exact induction rest.length (by omega) rest rfl
            · exact induction (rest.length + 1) (by omega) (Text.newline :: rest) rfl
          · rw [equal]
            exact last code after ahead broken

/-! ## The pass with its offsets -/

theorem segmentsFrom?_eq (text : Text) (cursor : Nat) (written : Bool) :
    segmentsFrom? text cursor written = (Text.drop? cursor text).bind fun rest =>
      match Text.find? marker rest with
      | none => some ([], rest)
      | some length => (Text.splitAt? length rest).bind fun (code, comment) =>
          match Text.find? [Text.newline] comment with
          | none => some ([code.trim], [])
          | some commentLength =>
              let written := written || !code.trim.isEmpty
              let lineBreak := cursor + length + commentLength
              (segmentsFrom? text (if written then lineBreak else lineBreak + 1)
                written).map fun (segments, tail) => (code.trim :: segments, tail) := by
  rw [segmentsFrom?]
  split
  · rename_i outside
    rw [outside, Option.bind_none]
  · rename_i rest dropped
    rw [dropped, Option.bind_some]
    split
    · rename_i unmarked
      rw [unmarked]
    · rename_i length marked
      rw [marked]
      split
      · rename_i uncut
        simp only [uncut, Option.bind_none]
      · rename_i code comment cut
        simp only [cut, Option.bind_some]
        split
        · rename_i endless
          rw [endless]
        · rename_i commentLength ended
          rw [ended]

theorem find?_marker {code : Text} (ahead : Ahead code) (comment : Text) :
    Text.find? marker (code ++ marker ++ comment) = some (Text.size code) := by
  rw [Text.find?, cut?_marker ahead, Option.map_some]

theorem splitAt?_comment (code line rest : Text) :
    Text.splitAt? (Text.size code) (code ++ marker ++ (line ++ Text.newline :: rest)) =
      some (code, marker ++ line ++ Text.newline :: rest) := by
  rw [List.append_assoc, List.append_assoc marker, Text.splitAt?_append]

theorem newline_not_mem_comment {line : Text} (unbroken : Text.newline ∉ line) :
    Text.newline ∉ marker ++ line := by
  simp [newline_not_mem_marker, unbroken]

/-- Where the pass goes on after a comment: at the line break, or behind it if nothing has
been written. -/
theorem exists_resumed (before code line rest : Text) (written : Bool) :
    ∃ front, before ++ (code ++ marker ++ (line ++ Text.newline :: rest)) =
        front ++ (if written then Text.newline :: rest else rest) ∧
      Text.size front =
        (let lineBreak := Text.size before + Text.size code + Text.size (marker ++ line)
        if written then lineBreak else lineBreak + 1) := by
  cases written with
  | false =>
      refine ⟨before ++ code ++ (marker ++ line) ++ [Text.newline], by simp, ?_⟩
      rw [Text.size_append, Text.size_append, Text.size_append]
      rfl
  | true =>
      refine ⟨before ++ code ++ (marker ++ line), by simp, ?_⟩
      rw [Text.size_append, Text.size_append]
      rfl

/-! The pass from a byte on, by what the text that follows looks like. -/

theorem segmentsFrom?_free {text : Text} (free : ¬ marker <:+: text) (before : Text)
    (written : Bool) :
    segmentsFrom? (before ++ text) (Text.size before) written = some ([], text) := by
  rw [segmentsFrom?_eq, Text.drop?_append, Option.bind_some, Text.find?,
    Text.cut?_eq_none_iff.mpr free]
  rfl

theorem segmentsFrom?_last {code line : Text} (ahead : Ahead code)
    (unbroken : Text.newline ∉ line) (before : Text) (written : Bool) :
    segmentsFrom? (before ++ (code ++ marker ++ line)) (Text.size before) written =
      some ([code.trim], []) := by
  rw [segmentsFrom?_eq, Text.drop?_append, Option.bind_some, find?_marker ahead]
  simp only [List.append_assoc, Text.splitAt?_append, Option.bind_some]
  rw [Text.find?_newline_of_not_mem (newline_not_mem_comment unbroken)]

theorem segmentsFrom?_comment {code line : Text} (ahead : Ahead code)
    (unbroken : Text.newline ∉ line) (rest before : Text) (written : Bool) :
    ∃ front,
      segmentsFrom? (before ++ (code ++ marker ++ (line ++ Text.newline :: rest)))
          (Text.size before) written =
        (segmentsFrom?
          (front ++ (if written || !code.trim.isEmpty then Text.newline :: rest else rest))
          (Text.size front) (written || !code.trim.isEmpty)).map
            fun (segments, tail) => (code.trim :: segments, tail) := by
  rcases exists_resumed before code line rest (written || !code.trim.isEmpty) with
    ⟨front, equal, size⟩
  refine ⟨front, ?_⟩
  rw [← equal, size, segmentsFrom?_eq, Text.drop?_append, Option.bind_some,
    find?_marker ahead]
  simp only [splitAt?_comment, Option.bind_some,
    Text.find?_newline (newline_not_mem_comment unbroken)]

/-- From any byte on, the pieces that are written are the remainder of the text that
follows. -/
theorem stripFrom?_append (text before : Text) (written : Bool) :
    stripFrom? (before ++ text) (Text.size before) written =
      some (remainder written text) := by
  unfold stripFrom?
  induction text using marked_induction generalizing before written with
  | free text free =>
      rw [segmentsFrom?_free free, remainder_of_free free]
      rfl
  | last code line ahead unbroken =>
      rw [segmentsFrom?_last ahead unbroken, remainder_last ahead unbroken]
      simp
  | comment code line rest ahead unbroken dropped kept =>
      rcases segmentsFrom?_comment ahead unbroken rest before written with ⟨front, step⟩
      have resumed (written : Bool) :
          (segmentsFrom? (front ++ (if written then Text.newline :: rest else rest))
              (Text.size front) written).map (fun (segments, tail) => segments.flatten ++ tail) =
            some (remainder written (if written then Text.newline :: rest else rest)) := by
        cases written with
        | false => exact dropped front false
        | true => exact kept front true
      rw [step, remainder_comment ahead unbroken]
      rcases Option.map_eq_some_iff.mp (resumed (written || !code.trim.isEmpty)) with
        ⟨⟨segments, tail⟩, found, joined⟩
      rw [found, ← joined]
      simp

theorem strip_of_free {text : Text} (free : ¬ marker <:+: text) :
    strip text = .unchanged := by
  rw [strip, strip?, Text.find?, Text.cut?_eq_none_iff.mpr free]
  rfl

theorem strip_of_marked {text : Text} (marked : marker <:+: text) :
    strip text = .changed (remainder false text) := by
  have left := stripFrom?_append text [] false
  rw [List.nil_append, Text.size_nil] at left
  cases cut : Text.cut? marker text with
  | none => exact absurd marked (Text.cut?_eq_none_iff.mp cut)
  | some parts =>
      rw [strip, strip?, Text.find?, cut, Option.map_some, left]
      rfl

theorem strip_eq_changed_iff {text left : Text} :
    strip text = .changed left ↔ marker <:+: text ∧ remainder false text = left := by
  by_cases marked : marker <:+: text
  · simp [strip_of_marked marked, marked]
  · simp [strip_of_free marked, marked]

theorem apply_strip (text : Text) : (strip text).apply text = remainder false text := by
  by_cases marked : marker <:+: text
  · rw [strip_of_marked marked]
    rfl
  · rw [strip_of_free marked, remainder_of_free marked]
    rfl

end Line

end Uncomment
