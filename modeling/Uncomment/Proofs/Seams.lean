import Uncomment.Proofs.Ordinary

namespace Uncomment

/-! Markers that arise where a pass puts texts together. Between the two characters of such
a marker there were only comments, so it takes a text that ends in the first of them
and, with nothing but empty texts in between, one that starts with the second. -/

/-! ## Block comments -/

namespace Block

theorem Parts.free_of_mem_gaps {parts : Parts} {gap : Text} (member : gap ∈ parts.gaps) :
    ¬ opening <:+: gap := by
  induction parts with
  | plain only =>
      rw [List.mem_singleton.mp member]
      exact only.free
  | commented first body rest induction =>
      rcases List.mem_cons.mp member with equal | member
      · rw [equal]
        exact first.free
      · exact induction member

theorem opening_infix_remainder_iff_meet (parts : Parts) :
    opening <:+: remainder (.start parts.lead) parts.later ↔
      Text.Meet '/' '*' parts.gaps := by
  rw [opening_infix_remainder_iff, Parts.code]
  exact Text.pair_infix_flatten_iff fun _ => Parts.free_of_mem_gaps

theorem strip_of_opening_free {text : Text} (free : ¬ opening <:+: text) :
    strip text = .unchanged := by
  apply strip_of_not_closed
  intro spans closed
  rw [scan_eq_absent_iff.mpr free] at closed
  cases closed

/-- The pass leaves an opening marker just if a slash at the end of a gap meets a star at
the start of a later one. Otherwise it has nothing to do in what it leaves. -/
theorem opening_infix_strip_iff {text : Text} {spans : List Span}
    (closed : scan text = .closed spans) :
    ∃ (parts : Parts) (left : Text), parts.text = text ∧ parts.spans 0 = spans ∧
      strip text = .changed left ∧
      (opening <:+: left ↔ Text.Meet '/' '*' parts.gaps) ∧
      (¬ Text.Meet '/' '*' parts.gaps → strip left = .unchanged) := by
  rcases scan_eq_closed_iff.mp closed with ⟨parts, commented, rfl, rfl⟩
  have occurs := opening_infix_remainder_iff_meet parts
  refine ⟨parts, _, rfl, rfl, strip_parts parts commented, occurs, ?_⟩
  intro apart
  exact strip_of_opening_free (mt occurs.mp apart)

private def adjacent : Text := "a //* b *//* c */* /**/\nd".toList

/-- The slash and the star are two comments apart, and the comment at the end of the line is
taken out with the blank before it. -/
theorem opening_infix_strip_iff_adjacent :
    scan adjacent = .closed [⟨3, 8⟩, ⟨10, 15⟩, ⟨19, 21⟩] ∧
      strip adjacent = .changed "a /*\nd".toList ∧
      opening <:+: "a /*\nd".toList ∧
      ∃ parts : Parts, parts.text = adjacent ∧
        parts.spans 0 = [⟨3, 8⟩, ⟨10, 15⟩, ⟨19, 21⟩] ∧ Text.Meet '/' '*' parts.gaps := by
  have closed : scan adjacent = .closed [⟨3, 8⟩, ⟨10, 15⟩, ⟨19, 21⟩] := by decide +kernel
  have stripped : strip adjacent = .changed "a /*\nd".toList := by decide +kernel
  have opens : opening <:+: "a /*\nd".toList := by decide
  rcases opening_infix_strip_iff closed with ⟨parts, left, whole, spans, same, occurs, _⟩
  rw [stripped, Edit.changed.injEq] at same
  rw [← same] at occurs
  exact ⟨closed, stripped, opens, parts, whole, spans, occurs.mp opens⟩

end Block

/-! ## Line comments -/

namespace Line

structure SetOff (written : Bool) (segments : List Text) (tail : Text) : Prop where
  free : ∀ segment ∈ segments, ¬ marker <:+: segment
  tailFree : ¬ marker <:+: tail
  unwritten : tail.head? = some '/' → written = false ∧ segments.flatten = []

theorem SetOff.cons {written : Bool} {code : Text} {segments : List Text} {tail : Text}
    (ahead : Ahead code)
    (setOff : SetOff (written || !code.trim.isEmpty) segments tail) :
    SetOff written (code.trim :: segments) tail where
  free := by
    refine List.forall_mem_cons.mpr ⟨?_, setOff.free⟩
    intro occurs
    exact ahead.free (occurs.trans (Text.trim_infix code))
  tailFree := setOff.tailFree
  unwritten := by
    intro slash
    rcases setOff.unwritten slash with ⟨nothing, empty⟩
    rcases Bool.or_eq_false_iff.mp nothing with ⟨before, here⟩
    have blank : code.trim = [] := by simpa using here
    refine ⟨before, ?_⟩
    rw [List.flatten_cons, blank, empty]
    rfl

theorem setOff_nil (written : Bool) : SetOff written [] [] where
  free := List.forall_mem_nil _
  tailFree occurs := marker_ne_nil (List.infix_nil.mp occurs)
  unwritten absurd := by cases absurd

theorem exists_segments (text before : Text) (written : Bool)
    (resumed : written = true → text.head? = some Text.newline) :
    ∃ segments tail,
      segmentsFrom? (before ++ text) (Text.size before) written = some (segments, tail) ∧
        SetOff written segments tail := by
  induction text using marked_induction generalizing before written with
  | free text free =>
      refine ⟨[], text, segmentsFrom?_free free before written, List.forall_mem_nil _, free,
        ?_⟩
      intro slash
      refine ⟨Bool.eq_false_iff.mpr ?_, rfl⟩
      intro had
      rw [resumed had] at slash
      cases slash
  | last code line ahead unbroken =>
      exact ⟨[code.trim], [], segmentsFrom?_last ahead unbroken before written,
        (setOff_nil _).cons ahead⟩
  | comment code line rest ahead unbroken dropped kept =>
      rcases segmentsFrom?_comment ahead unbroken rest before written with ⟨front, step⟩
      -- Where nothing has been written, nothing is asked of how the rest starts.
      have later : ∃ segments tail,
          segmentsFrom?
              (front ++
                (if written || !code.trim.isEmpty then Text.newline :: rest else rest))
              (Text.size front) (written || !code.trim.isEmpty) = some (segments, tail) ∧
            SetOff (written || !code.trim.isEmpty) segments tail := by
        cases written || !code.trim.isEmpty with
        | false =>
            refine dropped front false ?_
            intro absurd
            cases absurd
        | true => exact kept front true fun _ => rfl
      rcases later with ⟨segments, tail, found, setOff⟩
      refine ⟨code.trim :: segments, tail, ?_, setOff.cons ahead⟩
      rw [step, found]
      rfl

theorem SetOff.marker_infix_iff {written : Bool} {segments : List Text} {tail : Text}
    (setOff : SetOff written segments tail) :
    marker <:+: segments.flatten ++ tail ↔ Text.Meet '/' '/' segments := by
  rw [← Text.pair_infix_flatten_iff setOff.free]
  constructor
  · intro occurs
    rcases Text.pair_infix_append_iff.mp occurs with inSegments | inTail | ⟨ends, starts⟩
    · exact inSegments
    · exact absurd inTail setOff.tailFree
    · rw [(setOff.unwritten starts).2] at ends
      cases ends
  · intro occurs
    exact occurs.trans (List.prefix_append _ _).isInfix

/-- The pass leaves a marker just if a slash at the end of a piece of code meets one at the
start of a later piece. Otherwise it has nothing to do in what it leaves. -/
theorem marker_infix_strip_iff {text : Text} (marked : marker <:+: text) :
    ∃ segments tail, segmentsFrom? text 0 false = some (segments, tail) ∧
      strip text = .changed (segments.flatten ++ tail) ∧
      (marker <:+: segments.flatten ++ tail ↔ Text.Meet '/' '/' segments) ∧
      (¬ Text.Meet '/' '/' segments →
        strip (segments.flatten ++ tail) = .unchanged) := by
  have start : false = true → text.head? = some Text.newline := by
    intro absurd
    cases absurd
  rcases exists_segments text [] false start with ⟨segments, tail, found, setOff⟩
  rw [List.nil_append, Text.size_nil] at found
  have left := stripFrom?_append text [] false
  rw [List.nil_append, Text.size_nil, stripFrom?, found, Option.map_some,
    Option.some.injEq] at left
  have occurs := setOff.marker_infix_iff
  refine ⟨segments, tail, found, ?_, occurs, ?_⟩
  · rw [strip_of_marked marked, ← left]
  · intro apart
    exact strip_of_free (mt occurs.mp apart)

private def divisions : Text := "a / // é\n//\n\n /b// / //\n/c".toList

/-- Two divisions on lines of their own come together over a line without code. -/
theorem marker_infix_strip_iff_divisions :
    marker <:+: divisions ∧
      segmentsFrom? divisions 0 false =
        some (["a /".toList, [], "/b".toList], "\n/c".toList) ∧
      strip divisions = .changed "a //b\n/c".toList ∧
      Text.Meet '/' '/' ["a /".toList, [], "/b".toList] ∧
      marker <:+: "a //b\n/c".toList := by
  have marked : marker <:+: divisions := by decide +kernel
  have found : segmentsFrom? divisions 0 false =
      some (["a /".toList, [], "/b".toList], "\n/c".toList) := by decide +kernel
  rcases marker_infix_strip_iff marked with ⟨segments, tail, same, stripped, occurs, _⟩
  rw [found, Option.some.injEq, Prod.mk.injEq] at same
  rcases same with ⟨rfl, rfl⟩
  have meet : Text.Meet '/' '/' ["a /".toList, [], "/b".toList] :=
    ⟨[], _, [[]], _, [], rfl, rfl, by simp, rfl⟩
  exact ⟨marked, found, stripped, meet, occurs.mpr meet⟩

end Line

end Uncomment
