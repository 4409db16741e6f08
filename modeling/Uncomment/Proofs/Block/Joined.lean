import Uncomment.Proofs.Block.Remainder
import Uncomment.Proofs.Text.Trim

namespace Uncomment

namespace Block

/-! Two texts with a line break between them. If nothing but gaps with line breaks of their
own come next to that line break, the pass does the same to each text as it would to
that text alone. -/

/-! ## Gaps at the ends of a text -/

def gapBefore? (text : Text) : Option Text :=
  match scan text with
  | .closed spans => spans.head?.bind fun span => text.take? span.opener
  | .absent | .unclosed _ => none

def gapAfter? (text : Text) : Option Text :=
  match scan text with
  | .closed spans => spans.getLast?.bind fun span => text.drop? span.after
  | .absent | .unclosed _ => none

def Parts.final : Parts → Text
  | plain gap => gap.text
  | commented _ _ rest => rest.final

theorem gapBefore?_commented (gap : Gap) (body : Body) (rest : Parts) :
    gapBefore? (Parts.commented gap body rest).text = some gap.text := by
  rw [gapBefore?, scan_parts]
  change Text.take? (0 + Text.size gap.text) (gap.text ++ opening ++ _) = _
  rw [Nat.zero_add, List.append_assoc, Text.take?_append]

theorem drop?_getLast?_spans (before : Text) (parts : Parts) :
    ∀ span ∈ (parts.spans (Text.size before)).getLast?,
      Text.drop? span.after (before ++ parts.text) = some parts.final := by
  induction parts generalizing before with
  | plain gap =>
      intro span absurd
      cases absurd
  | commented gap body rest induction =>
      rw [Parts.text_commented, Parts.spans_commented]
      cases rest with
      | plain last =>
          intro span found
          change some (commentSpan before gap body) = some span at found
          rw [← Option.some.inj found, ← size_throughComment]
          exact Text.drop?_append _ _
      | commented next inside later =>
          intro span found
          have tail := induction (throughComment before gap body)
          rw [Parts.spans_commented] at found tail
          rw [List.getLast?_cons_cons] at found
          exact tail span found

theorem gapAfter?_commented (gap : Gap) (body : Body) (rest : Parts) :
    gapAfter? (Parts.commented gap body rest).text = some rest.final := by
  have last := drop?_getLast?_spans [] (.commented gap body rest)
  rw [List.nil_append, Text.size_nil] at last
  rw [gapAfter?, scan_parts]
  change (Option.bind ((Parts.commented gap body rest).spans 0).getLast? _) = _
  cases found : ((Parts.commented gap body rest).spans 0).getLast? with
  | none =>
      rw [List.getLast?_eq_none_iff] at found
      cases found
  | some span => exact last span found

/-! ## Texts put together -/

def Gap.join (front back : Gap) : Gap where
  text := front.text ++ Text.newline :: back.text
  free := by
    rw [Text.infix_append_cons_iff_of_not_mem newline_not_mem_opening, not_or]
    exact ⟨front.free, back.free⟩

namespace Parts

def behind (front : Gap) : Parts → Parts
  | plain gap => plain (front.join gap)
  | commented gap body rest => commented (front.join gap) body rest

def join : Parts → Parts → Parts
  | plain gap, back => back.behind gap
  | commented gap body rest, back => commented gap body (rest.join back)

theorem text_behind (front : Gap) (back : Parts) :
    (back.behind front).text = front.text ++ Text.newline :: back.text := by
  cases back with
  | plain gap => rfl
  | commented gap body rest => simp [behind, text, Gap.join]

theorem text_join (front back : Parts) :
    (front.join back).text = front.text ++ Text.newline :: back.text := by
  induction front with
  | plain gap => exact text_behind gap back
  | commented gap body rest induction => simp [join, text, induction]

theorem lead_behind (front : Gap) (back : Parts) :
    (back.behind front).lead = front.text ++ Text.newline :: back.lead := by
  cases back <;> rfl

theorem later_behind (front : Gap) (back : Parts) :
    (back.behind front).later = back.later := by
  cases back <;> rfl

theorem gaps_behind (front : Gap) (back : Parts) :
    (back.behind front).gaps = (front.text ++ Text.newline :: back.lead) :: back.later := by
  rw [gaps, lead_behind, later_behind]

end Parts

/-! ## Where the comments are -/

def Span.shift (distance : Nat) (span : Span) : Span :=
  ⟨distance + span.opener, distance + span.closer⟩

namespace Parts

theorem spans_add (distance start : Nat) (parts : Parts) :
    parts.spans (distance + start) = (parts.spans start).map (Span.shift distance) := by
  induction parts generalizing start with
  | plain gap => rfl
  | commented gap body rest induction =>
      have later := induction
        (start + Text.size gap.text + Text.size opening + Text.size body.text +
          Text.size closing)
      simp only [spans, Span.after, List.map_cons, ← Nat.add_assoc] at later ⊢
      rw [later]
      simp [Span.shift, Nat.add_assoc]

theorem spans_behind (front : Gap) (back : Parts) (start : Nat) :
    (back.behind front).spans start =
      back.spans (start + Text.size front.text + 1) := by
  cases back with
  | plain gap => rfl
  | commented gap body rest =>
      have opener : start + Text.size (front.join gap).text =
          start + Text.size front.text + 1 + Text.size gap.text := by
        simp only [Gap.join, Text.size_append, Text.size_cons, Text.utf8Size_newline]
        omega
      rw [behind, spans, spans, opener]

theorem spans_join (front back : Parts) (start : Nat) :
    (front.join back).spans start =
      front.spans start ++ back.spans (start + Text.size front.text + 1) := by
  induction front generalizing start with
  | plain gap => exact spans_behind gap back start
  | commented gap body rest induction =>
      have after : start + Text.size (commented gap body rest).text + 1 =
          (Span.mk (start + Text.size gap.text)
            (start + Text.size gap.text + Text.size opening + Text.size body.text)).after +
              Text.size rest.text + 1 := by
        simp only [text, Span.after, Text.size_append]
        omega
      rw [join, spans, induction, after]
      rfl

end Parts

/-! ## What is left -/

namespace Pending

def join (pending : Pending) (back : Text) : Pending where
  leading := pending.leading
  gap := pending.gap ++ Text.newline :: back
  left := pending.left ++ Text.newline :: back
  ending := by
    rcases pending.ending with ⟨taken, equal⟩
    exact ⟨taken, by rw [← equal, List.append_assoc]⟩

variable {pending : Pending} {back : Text}

theorem opensLine_join (broken : Text.newline ∈ back) :
    (pending.join back).opensLine = (start back).opensLine := by
  have inGap : Text.newline ∈ pending.gap ++ Text.newline :: back :=
    List.mem_append_right _ List.mem_cons_self
  have line : Text.lastLine (pending.gap ++ Text.newline :: back) = Text.lastLine back := by
    rw [← List.singleton_append, ← List.append_assoc]
    exact Text.lastLine_append_of_mem broken _
  change ((_ || decide (Text.newline ∈ pending.gap ++ Text.newline :: back)) &&
    (Text.lastLine (pending.gap ++ Text.newline :: back)).allBlank) =
      (true && (Text.lastLine back).allBlank)
  rw [decide_eq_true inGap, Bool.or_true, line]

theorem keepsBreak_join (broken : Text.newline ∈ back) :
    (pending.join back).keepsBreak = (start back).keepsBreak := by
  have inGap : Text.newline ∈ pending.gap ++ Text.newline :: back :=
    List.mem_append_right _ List.mem_cons_self
  rw [keepsBreak, keepsBreak, opensLine_join broken]
  change (_ && decide (Text.newline ∈ pending.gap ++ Text.newline :: back)) =
    (_ && decide (Text.newline ∈ back))
  rw [decide_eq_true inGap, decide_eq_true broken]

theorem next_join (broken : Text.newline ∈ back) (closes : Bool) (gap : Text) :
    (pending.join back).next closes gap = (start back).next closes gap := by
  simp only [next, keepsBreak_join broken]

theorem padded_join (broken : Text.newline ∈ back) :
    (pending.join back).padded =
      pending.left ++ Text.newline :: (start back).padded := by
  rw [padded, padded, opensLine_join broken]
  change (if _ then Text.earlierLines (pending.left ++ Text.newline :: back)
    else pending.left ++ Text.newline :: back) =
      pending.left ++ Text.newline :: (if _ then Text.earlierLines back else back)
  cases (start back).opensLine with
  | false => rfl
  | true =>
      rw [if_pos rfl, if_pos rfl, ← List.singleton_append, ← List.append_assoc,
        Text.earlierLines_append_of_mem broken, List.append_assoc, List.singleton_append]

theorem kept_join (broken : Text.newline ∈ back) (closes : Bool) :
    (pending.join back).kept closes =
      pending.left ++ Text.newline :: (start back).kept closes := by
  rw [kept, kept, opensLine_join broken, padded_join broken]
  split
  · exact Text.trimTrailing_append_cons rfl _ _
  · rfl

end Pending

/-- Behind the line break, the pass leaves what it leaves of the second text alone. -/
theorem remainder_join_start (pending : Pending) {back : Text} {gaps : List Text}
    (apart : gaps ≠ [] → Text.newline ∈ back) :
    remainder (pending.join back) gaps =
      pending.left ++ Text.newline :: remainder (.start back) gaps := by
  cases gaps with
  | nil => rfl
  | cons gap gaps =>
      have broken := apart (List.cons_ne_nil _ _)
      rw [remainder, remainder, Pending.kept_join broken, Pending.opensLine_join broken,
        Pending.next_join broken]
      simp

theorem closesLine_join {gap : Text} (broken : Text.newline ∈ gap) (last : Bool)
    (back : Text) :
    closesLine last (gap ++ Text.newline :: back) = closesLine true gap := by
  have joined : Text.newline ∈ gap ++ Text.newline :: back :=
    List.mem_append_left _ broken
  rw [closesLine, closesLine, decide_eq_true joined, Bool.or_true, Bool.true_or,
    Text.firstLine_append_of_mem broken]

theorem Pending.next_append {gap : Text} (broken : Text.newline ∈ gap) (pending : Pending)
    (closes : Bool) (back : Text) :
    pending.next closes (gap ++ Text.newline :: back) =
      (pending.next closes gap).join back := by
  have left : leftAfter pending.keepsBreak closes (gap ++ Text.newline :: back) =
      leftAfter pending.keepsBreak closes gap ++ Text.newline :: back :=
    Pending.leftAfter_append (fun _ => .inl broken) pending.keepsBreak
  simp only [next, join, left]

/-- The pass goes through the first text as if it were alone, and then through the second
one. -/
theorem remainder_gaps_join (pending : Pending) {front back : Parts}
    (frontBreak : Text.newline ∈ front.final)
    (backBreak : back.later ≠ [] → Text.newline ∈ back.lead) :
    remainder pending (front.join back).gaps =
      remainder pending front.gaps ++
        Text.newline :: remainder (.start back.lead) back.later := by
  induction front generalizing pending with
  | plain gap =>
      change Text.newline ∈ gap.text at frontBreak
      have later := remainder_join_start (pending.next (closesLine true gap.text) gap.text)
        backBreak
      rw [Parts.join, Parts.gaps_behind, remainder, closesLine_join frontBreak,
        Pending.next_append frontBreak, later]
      change _ = remainder pending [gap.text] ++ _
      rw [remainder]
      simp [remainder]
  | commented gap body rest induction =>
      have later := induction (pending.next (closesLine false gap.text) gap.text) frontBreak
      change pending.kept (closesLine false gap.text) ++
          joint pending.opensLine (closesLine false gap.text) ++
            remainder (pending.next (closesLine false gap.text) gap.text)
              (rest.join back).gaps =
        pending.kept (closesLine false gap.text) ++
          joint pending.opensLine (closesLine false gap.text) ++
            remainder (pending.next (closesLine false gap.text) gap.text) rest.gaps ++ _
      rw [later, ← List.append_assoc]

theorem remainder_join {front back : Parts}
    (frontBreak : front.later ≠ [] → Text.newline ∈ front.final)
    (backBreak : back.later ≠ [] → Text.newline ∈ back.lead) :
    remainder (.start (front.join back).lead) (front.join back).later =
      remainder (.start front.lead) front.later ++
        Text.newline :: remainder (.start back.lead) back.later := by
  cases front with
  | plain gap =>
      rw [Parts.join, Parts.lead_behind, Parts.later_behind]
      exact remainder_join_start (.start gap.text) backBreak
  | commented gap body rest =>
      exact remainder_gaps_join (.start gap.text)
        (frontBreak (List.cons_ne_nil _ _)) backBreak

theorem apply_strip_parts (parts : Parts) :
    (strip parts.text).apply parts.text = remainder (.start parts.lead) parts.later := by
  cases parts with
  | plain gap =>
      rw [strip_of_not_closed]
      · rfl
      · intro spans
        rw [scan_parts]
        intro absurd
        cases absurd
  | commented gap body rest =>
      rw [strip_parts (.commented gap body rest) (List.cons_ne_nil _ _)]
      rfl

theorem exists_parts_of_closed {text : Text}
    (closed : ∀ opener, scan text ≠ .unclosed opener) :
    ∃ parts : Parts, parts.text = text := by
  rcases exists_parts text with found | ⟨parts, last, rfl⟩
  · exact found
  · exact absurd (scan_parts_unclosed parts last) (closed _)

/-! ## What is left, told of texts -/

theorem newline_mem_final {parts : Parts}
    (breaks : ∀ gap ∈ gapAfter? parts.text, Text.newline ∈ gap) :
    parts.later ≠ [] → Text.newline ∈ parts.final := by
  intro commented
  cases parts with
  | plain gap => exact absurd rfl commented
  | commented gap body rest => exact breaks _ (gapAfter?_commented gap body rest)

theorem newline_mem_lead {parts : Parts}
    (breaks : ∀ gap ∈ gapBefore? parts.text, Text.newline ∈ gap) :
    parts.later ≠ [] → Text.newline ∈ parts.lead := by
  intro commented
  cases parts with
  | plain gap => exact absurd rfl commented
  | commented gap body rest => exact breaks _ (gapBefore?_commented gap body rest)

/-- A line break between two texts keeps them apart for the pass over block comments, if
other line breaks stand between it and the comments next to it. The comments found are those
of the first text, and those of the second one moved on by all that comes before. -/
theorem strip_append_newline {front back : Text}
    (frontClosed : ∀ opener, scan front ≠ .unclosed opener)
    (backClosed : ∀ opener, scan back ≠ .unclosed opener)
    (frontBreak : ∀ gap ∈ gapAfter? front, Text.newline ∈ gap)
    (backBreak : ∀ gap ∈ gapBefore? back, Text.newline ∈ gap) :
    (strip (front ++ Text.newline :: back)).apply (front ++ Text.newline :: back) =
        (strip front).apply front ++ Text.newline :: (strip back).apply back ∧
      scan (front ++ Text.newline :: back) =
        .ofSpans ((scan front).spans ++
          (scan back).spans.map (Span.shift (Text.size front + 1))) := by
  rcases exists_parts_of_closed frontClosed with ⟨front, rfl⟩
  rcases exists_parts_of_closed backClosed with ⟨back, rfl⟩
  have left := remainder_join (newline_mem_final frontBreak) (newline_mem_lead backBreak)
  have spans := Parts.spans_join front back 0
  rw [Nat.zero_add, ← Nat.add_zero (_ + 1), Parts.spans_add] at spans
  rw [← Parts.text_join]
  constructor
  · rw [apply_strip_parts, apply_strip_parts, apply_strip_parts, left]
  · rw [scan_parts, scan_parts, scan_parts, spans, Scan.spans_ofSpans, Scan.spans_ofSpans]

private def preamble : Text := "/* é */\nx; /* b */\r\n".toList

private def epilogue : Text := "\t\n/* c */ y /* d\n */\nz".toList

/-- Comments of both texts take in line breaks. -/
theorem strip_append_newline_epilogue :
    ((∀ opener, scan preamble ≠ .unclosed opener) ∧
      (∀ opener, scan epilogue ≠ .unclosed opener) ∧
      gapAfter? preamble = some "\r\n".toList ∧ gapBefore? epilogue = some "\t\n".toList ∧
      (∀ gap ∈ gapAfter? preamble, Text.newline ∈ gap) ∧
      ∀ gap ∈ gapBefore? epilogue, Text.newline ∈ gap) ∧
    (strip preamble).apply preamble = "x;\n".toList ∧
    (strip epilogue).apply epilogue = "\t\n y\nz".toList ∧
    (strip (preamble ++ Text.newline :: epilogue)).apply
        (preamble ++ Text.newline :: epilogue) =
      "x;\n".toList ++ Text.newline :: "\t\n y\nz".toList ∧
    scan (preamble ++ Text.newline :: epilogue) =
      .closed [⟨0, 6⟩, ⟨12, 17⟩, ⟨24, 29⟩, ⟨34, 40⟩] := by
  have frontScan : scan preamble = .closed [⟨0, 6⟩, ⟨12, 17⟩] := by decide +kernel
  have backScan : scan epilogue = .closed [⟨2, 7⟩, ⟨12, 18⟩] := by decide +kernel
  have frontGap : gapAfter? preamble = some "\r\n".toList := by decide +kernel
  have backGap : gapBefore? epilogue = some "\t\n".toList := by decide +kernel
  have frontLeft : (strip preamble).apply preamble = "x;\n".toList := by decide +kernel
  have backLeft : (strip epilogue).apply epilogue = "\t\n y\nz".toList := by decide +kernel
  have frontClosed : ∀ opener, scan preamble ≠ .unclosed opener := by simp [frontScan]
  have backClosed : ∀ opener, scan epilogue ≠ .unclosed opener := by simp [backScan]
  have frontBreak : ∀ gap ∈ gapAfter? preamble, Text.newline ∈ gap := by
    simp [frontGap, Text.newline]
  have backBreak : ∀ gap ∈ gapBefore? epilogue, Text.newline ∈ gap := by
    simp [backGap, Text.newline]
  have joined := strip_append_newline frontClosed backClosed frontBreak backBreak
  rw [frontLeft, backLeft, frontScan, backScan] at joined
  exact ⟨⟨frontClosed, backClosed, frontGap, backGap, frontBreak, backBreak⟩, frontLeft,
    backLeft, joined.1, joined.2⟩

end Block

end Uncomment
