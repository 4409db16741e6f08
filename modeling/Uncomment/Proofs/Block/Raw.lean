import Uncomment.Proofs.Block.Grammar
import Uncomment.Proofs.Shrink
import Uncomment.Proofs.Text.Utf8
import Uncomment.Run.Event

namespace Uncomment

namespace Block

/-! The search for comments in raw bytes, against the search in the text that they are
decoded to. Bytes that are not valid UTF-8 neither hide a comment nor make one up. -/

namespace Raw

/-! ## The search -/

def opening : Bytes := Utf8.encode Block.opening

def closing : Bytes := Utf8.encode Block.closing

def find? (pattern bytes : Bytes) : Option Nat :=
  bytes.tails.findIdx? (pattern.isPrefixOf ·)

theorem find?_eq_none_iff {pattern bytes : Bytes} :
    find? pattern bytes = none ↔ ¬ pattern <:+: bytes := by
  rw [find?, List.findIdx?_eq_none_iff, List.infix_iff_prefix_suffix]
  simp only [List.mem_tails, ← Bool.not_eq_true, List.isPrefixOf_iff_prefix, not_exists,
    not_and]
  constructor
  · intro absent tail starts ends
    exact absent tail ends starts
  · intro absent tail ends starts
    exact absent tail starts ends

theorem exists_of_find? {pattern bytes : Bytes} {index : Nat}
    (found : find? pattern bytes = some index) :
    ∃ before after, bytes = before ++ (pattern ++ after) ∧ before.length = index ∧
      (pattern ≠ [] → ¬ pattern <:+: before) := by
  rcases List.findIdx?_eq_some_iff_getElem.mp found with ⟨bound, starts, first⟩
  rw [List.length_tails] at bound
  rw [List.getElem_tails, List.isPrefixOf_iff_prefix] at starts
  rcases starts with ⟨after, rest⟩
  refine ⟨bytes.take index, after, ?_, ?_, ?_⟩
  · rw [rest, List.take_append_drop]
  · rw [List.length_take]
    omega
  · intro nonempty occurs
    -- An occurrence in front would be an earlier one.
    rcases occurs with ⟨left, right, equal⟩
    have lengths := congrArg List.length equal
    have positive := List.length_pos_iff.mpr nonempty
    simp only [List.length_append, List.length_take] at lengths
    apply first left.length (by omega)
    rw [List.getElem_tails, List.isPrefixOf_iff_prefix]
    refine ⟨right ++ bytes.drop index, ?_⟩
    have whole : bytes = left ++ (pattern ++ (right ++ bytes.drop index)) := by
      rw [← List.append_assoc pattern, ← List.append_assoc left, ← List.append_assoc left,
        equal, List.take_append_drop]
    conv_rhs => rw [whole]
    rw [List.drop_left]

theorem find?_add_length_le {pattern bytes : Bytes} {index : Nat}
    (found : find? pattern bytes = some index) :
    index + pattern.length ≤ bytes.length := by
  rcases exists_of_find? found with ⟨before, after, rfl, rfl, _⟩
  simp only [List.length_append]
  omega

theorem drop_of_find? {pattern bytes : Bytes} {start index : Nat}
    (found : find? pattern (bytes.drop start) = some index) :
    bytes.drop start =
        bytes.extract start (start + index) ++
          (pattern ++ bytes.drop (start + index + pattern.length)) ∧
      (pattern ≠ [] → ¬ pattern <:+: bytes.extract start (start + index)) := by
  rcases exists_of_find? found with ⟨before, after, equal, rfl, free⟩
  have front : bytes.extract start (start + before.length) = before := by
    rw [List.extract, Nat.add_sub_cancel_left, equal, List.take_left]
  have behind : bytes.drop (start + before.length + pattern.length) = after := by
    rw [← List.drop_drop, ← List.drop_drop, equal, List.drop_left, List.drop_left]
  rw [front, behind]
  exact ⟨equal, free⟩

def scanFrom (bytes : Bytes) (cursor : Nat) : Scan :=
  match _opened : find? opening (bytes.drop cursor) with
  | none => .absent
  | some gap =>
    match find? closing (bytes.drop (cursor + gap + opening.length)) with
    | none => .unclosed (cursor + gap)
    | some length =>
      let span : Span := ⟨cursor + gap, cursor + gap + opening.length + length⟩
      Scan.cons span (scanFrom bytes (span.closer + closing.length))
termination_by bytes.length - cursor
decreasing_by
  have bound := find?_add_length_le _opened
  have size : opening.length = 2 := rfl
  rw [List.length_drop] at bound
  omega

def scan (bytes : Bytes) : Scan := scanFrom bytes 0

/-- The first byte belongs to a character that is cut short. -/
example : scan [0xE2, 0x2F, 0x2A, 0xFF, 0x2A, 0x2F] = .closed [⟨1, 4⟩] := by
  decide +kernel

def gaps (bytes : Bytes) (start : Nat) : List Span → List Bytes
  | [] => [bytes.drop start]
  | span :: spans => bytes.extract start span.opener :: gaps bytes span.after spans

def bodies (bytes : Bytes) (spans : List Span) : List Bytes :=
  spans.map fun span => bytes.extract span.body span.closer

/-! ## Bytes and text side by side -/

theorem decodeLossy_opening : Utf8.decodeLossy opening = Block.opening :=
  Utf8.decodeLossy_encode _

theorem decodeLossy_closing : Utf8.decodeLossy closing = Block.closing :=
  Utf8.decodeLossy_encode _

theorem ascii_of_all {bytes : Bytes} (ascii : bytes.all (· < 0x80) = true) :
    ∀ byte ∈ bytes, byte < 0x80 := by
  intro byte member
  exact of_decide_eq_true (List.all_eq_true.mp ascii byte member)

theorem opening_ascii : ∀ byte ∈ opening, byte < 0x80 := ascii_of_all (by decide)

theorem closing_ascii : ∀ byte ∈ closing, byte < 0x80 := ascii_of_all (by decide)

theorem opening_infix_decodeLossy_iff {bytes : Bytes} :
    Block.opening <:+: Utf8.decodeLossy bytes ↔ opening <:+: bytes := by
  rw [← decodeLossy_opening]
  exact Utf8.infix_decodeLossy_iff opening_ascii (by decide)

theorem closing_infix_decodeLossy_iff {bytes : Bytes} :
    Block.closing <:+: Utf8.decodeLossy bytes ↔ closing <:+: bytes := by
  rw [← decodeLossy_closing]
  exact Utf8.infix_decodeLossy_iff closing_ascii (by decide)

theorem decodeLossy_opening_append (gap inside : Bytes) :
    Utf8.decodeLossy (gap ++ (opening ++ inside)) =
      Utf8.decodeLossy gap ++ Block.opening ++ Utf8.decodeLossy inside := by
  rw [Utf8.decodeLossy_append_pattern opening_ascii (by decide), decodeLossy_opening,
    List.append_assoc]

theorem decodeLossy_closing_append (body rest : Bytes) :
    Utf8.decodeLossy (body ++ (closing ++ rest)) =
      Utf8.decodeLossy body ++ Block.closing ++ Utf8.decodeLossy rest := by
  rw [Utf8.decodeLossy_append_pattern closing_ascii (by decide), decodeLossy_closing,
    List.append_assoc]

/-- The parts of the text are decoded from the bytes outside and inside of some spans. -/
structure Decoded (bytes : Bytes) (start : Nat) (spans : List Span) (parts : Parts) :
    Prop where
  text : parts.text = Utf8.decodeLossy (bytes.drop start)
  gaps : parts.gaps = (gaps bytes start spans).map Utf8.decodeLossy
  bodies : parts.bodies = (bodies bytes spans).map Utf8.decodeLossy

theorem decoded_nil {bytes : Bytes} {start : Nat}
    (free : ¬ opening <:+: bytes.drop start) :
    Decoded bytes start []
      (.plain ⟨Utf8.decodeLossy (bytes.drop start),
        mt opening_infix_decodeLossy_iff.mp free⟩) where
  text := rfl
  gaps := rfl
  bodies := rfl

structure Commented (bytes : Bytes) (start : Nat) (span : Span) : Prop where
  text : bytes.drop start =
    bytes.extract start span.opener ++
      (opening ++ (bytes.extract span.body span.closer ++
        (closing ++ bytes.drop span.after)))
  gapFree : ¬ opening <:+: bytes.extract start span.opener
  bodyFree : ¬ closing <:+: bytes.extract span.body span.closer

theorem commented_of_find? {bytes : Bytes} {start gap length : Nat}
    (opened : find? opening (bytes.drop start) = some gap)
    (closed : find? closing (bytes.drop (start + gap + opening.length)) = some length) :
    Commented bytes start ⟨start + gap, start + gap + opening.length + length⟩ := by
  rcases drop_of_find? opened with ⟨outside, gapFree⟩
  rcases drop_of_find? closed with ⟨inside, bodyFree⟩
  rw [inside] at outside
  exact ⟨outside, gapFree (by decide), bodyFree (by decide)⟩

namespace Commented

variable {bytes : Bytes} {start : Nat} {span : Span}

def gap (commented : Commented bytes start span) : Gap where
  text := Utf8.decodeLossy (bytes.extract start span.opener)
  free := mt opening_infix_decodeLossy_iff.mp commented.gapFree

def body (commented : Commented bytes start span) : Body where
  text := Utf8.decodeLossy (bytes.extract span.body span.closer)
  free := mt closing_infix_decodeLossy_iff.mp commented.bodyFree

theorem decodeLossy_drop (commented : Commented bytes start span) :
    Utf8.decodeLossy (bytes.drop start) =
      commented.gap.text ++ Block.opening ++
        (commented.body.text ++ Block.closing ++
          Utf8.decodeLossy (bytes.drop span.after)) := by
  rw [commented.text, decodeLossy_opening_append, decodeLossy_closing_append]
  rfl

theorem decoded (commented : Commented bytes start span) {spans : List Span}
    {rest : Parts} (later : Decoded bytes span.after spans rest) :
    Decoded bytes start (span :: spans) (.commented commented.gap commented.body rest) where
  text := by
    rw [Parts.text, later.text, commented.decodeLossy_drop]
  gaps := congrArg (commented.gap.text :: ·) later.gaps
  bodies := congrArg (commented.body.text :: ·) later.bodies

theorem isUnclosed (commented : Commented bytes start span)
    (later : IsUnclosed (Utf8.decodeLossy (bytes.drop span.after))) :
    IsUnclosed (Utf8.decodeLossy (bytes.drop start)) := by
  rcases later with ⟨parts, last, rest⟩
  refine ⟨.commented commented.gap commented.body parts, last, ?_⟩
  rw [commented.decodeLossy_drop, ← rest, Parts.text]
  simp

end Commented

theorem isUnclosed_of_find? {bytes : Bytes} {start gap : Nat}
    (opened : find? opening (bytes.drop start) = some gap)
    (endless : find? closing (bytes.drop (start + gap + opening.length)) = none) :
    IsUnclosed (Utf8.decodeLossy (bytes.drop start)) := by
  rcases drop_of_find? opened with ⟨outside, gapFree⟩
  have free := mt closing_infix_decodeLossy_iff.mp (find?_eq_none_iff.mp endless)
  have leadFree := mt opening_infix_decodeLossy_iff.mp (gapFree (by decide))
  refine ⟨.plain ⟨_, leadFree⟩, ⟨_, free⟩, ?_⟩
  rw [outside, decodeLossy_opening_append]
  rfl

/-- What the search in the bytes reports of them tells about the text. -/
theorem scanFrom_decoded (bytes : Bytes) (start : Nat) :
    (∃ opener, scanFrom bytes start = .unclosed opener ∧
      IsUnclosed (Utf8.decodeLossy (bytes.drop start))) ∨
    ∃ spans parts, scanFrom bytes start = .ofSpans spans ∧
      Decoded bytes start spans parts := by
  fun_induction scanFrom bytes start with
  | case1 start absent => exact .inr ⟨[], _, rfl, decoded_nil (find?_eq_none_iff.mp absent)⟩
  | case2 start gap opened endless =>
      exact .inl ⟨_, rfl, isUnclosed_of_find? opened endless⟩
  | case3 start gap opened length closed span induction =>
      have commented := commented_of_find? opened closed
      rcases induction with ⟨opener, found, unclosed⟩ | ⟨spans, parts, found, later⟩
      · rw [found]
        exact .inl ⟨opener, rfl, commented.isUnclosed unclosed⟩
      · rw [found, Scan.cons_ofSpans]
        exact .inr ⟨span :: spans, _, rfl, commented.decoded later⟩

/-! ## The same comments -/

/-- Two searches come to the same case, and to as many comments. -/
def Alike : Scan → Scan → Prop
  | .absent, .absent | .unclosed _, .unclosed _ => True
  | .closed left, .closed right => left.length = right.length
  | _, _ => False

theorem alike_ofSpans {left right : List Span} (same : left.length = right.length) :
    Alike (.ofSpans left) (.ofSpans right) := by
  cases left with
  | nil =>
      rw [List.eq_nil_of_length_eq_zero same.symm]
      trivial
  | cons span left =>
      cases right with
      | nil => cases same
      | cons other right => exact same

theorem length_bodies (parts : Parts) (start : Nat) :
    parts.bodies.length = (parts.spans start).length := by
  induction parts generalizing start with
  | plain gap => rfl
  | commented gap body rest induction => exact congrArg (· + 1) (induction _)

theorem scan_cases (bytes : Bytes) :
    (∃ opener other, scan bytes = .unclosed opener ∧
      Block.scan (Utf8.decodeLossy bytes) = .unclosed other) ∨
    ∃ spans parts, scan bytes = .ofSpans spans ∧ Decoded bytes 0 spans parts ∧
      Block.scan (Utf8.decodeLossy bytes) = .ofSpans (parts.spans 0) ∧
      spans.length = (parts.spans 0).length := by
  rcases scanFrom_decoded bytes 0 with
    ⟨opener, found, unclosed⟩ | ⟨spans, parts, found, decoded⟩
  · rcases isUnclosed_iff.mp unclosed with ⟨other, inText⟩
    exact .inl ⟨opener, other, found, inText⟩
  · have inText := scan_parts parts
    have count := congrArg List.length decoded.bodies
    rw [decoded.text, List.drop_zero] at inText
    rw [length_bodies parts 0, List.length_map, bodies, List.length_map] at count
    exact .inr ⟨spans, parts, found, decoded, inText, count.symm⟩

theorem alike_scan_decodeLossy (bytes : Bytes) :
    Alike (scan bytes) (Block.scan (Utf8.decodeLossy bytes)) := by
  rcases scan_cases bytes with
    ⟨opener, other, found, inText⟩ | ⟨spans, parts, found, _, inText, count⟩
  · rw [found, inText]
    trivial
  · rw [found, inText]
    exact alike_ofSpans count

theorem Alike.closed_iff {left right : Scan} (alike : Alike left right) :
    (∃ spans, left = .closed spans) ↔ ∃ spans, right = .closed spans := by
  cases left <;> cases right <;> simp_all [Alike]

/-- Decoding neither hides comments nor makes them up. The search in any bytes, by the same
rules as in a text, comes to the same case as the search in the text that they are decoded
to, and to as many comments, and what stands outside and inside of these in the text is
decoded from what stands there in the bytes. A file that can be read is thus told to have
comments by the markers in its bytes. -/
theorem scan_decodeLossy (bytes : Bytes) :
    Alike (scan bytes) (Block.scan (Utf8.decodeLossy bytes)) ∧
    (∀ spans, scan bytes = .closed spans →
      ∃ parts : Parts, parts.text = Utf8.decodeLossy bytes ∧
        Block.scan (Utf8.decodeLossy bytes) = .closed (parts.spans 0) ∧
        parts.gaps = (gaps bytes 0 spans).map Utf8.decodeLossy ∧
        parts.bodies = (bodies bytes spans).map Utf8.decodeLossy) ∧
    ∀ label, ∃ result, stripContent label (.ok bytes) = .ok result ∧
      (result.hadComments = true ↔
        Utf8.encode Line.marker <:+: bytes ∨ ∃ spans, scan bytes = .closed spans) := by
  have alike := alike_scan_decodeLossy bytes
  refine ⟨alike, ?_, ?_⟩
  · intro spans closed
    rcases scan_cases bytes with
      ⟨opener, _, unclosed, _⟩ | ⟨others, parts, found, decoded, inText, count⟩
    · rw [closed] at unclosed
      cases unclosed
    · have same : spans = others := by
        rw [← Scan.spans_ofSpans others, ← found, closed]
        rfl
      have closedText : Block.scan (Utf8.decodeLossy bytes) = .closed (parts.spans 0) := by
        rw [closed, inText] at alike
        rw [inText]
        cases parts with
        | plain gap => exact alike.elim
        | commented gap body rest => rfl
      rw [same]
      exact ⟨parts, decoded.text, closedText, decoded.gaps, decoded.bodies⟩
  · intro label
    have marked : Line.marker <:+: Utf8.decodeLossy bytes ↔
        Utf8.encode Line.marker <:+: bytes := by
      rw [← Utf8.infix_decodeLossy_iff (ascii_of_all (by decide)) (by decide),
        Utf8.decodeLossy_encode]
    refine ⟨stripBytes bytes, rfl, ?_⟩
    rw [stripBytes, strip_hadComments_iff, marked, alike.closed_iff]

private def malformed : Bytes :=
  [0x61, 0xE2, 0x2F, 0x2A, 0xF0, 0x9F, 0x2A, 0x2F, 0xED, 0xA0]

/-- Sequences that are cut short stand right before the markers. -/
theorem scan_decodeLossy_malformed :
    scan malformed = .closed [⟨2, 6⟩] ∧
      ∃ parts : Parts, parts.text = "a\uFFFD/*\uFFFD*/\uFFFD\uFFFD".toList ∧
        Block.scan parts.text = .closed (parts.spans 0) ∧
        parts.gaps = ["a\uFFFD".toList, "\uFFFD\uFFFD".toList] ∧
        parts.bodies = ["\uFFFD".toList] := by
  have found : scan malformed = .closed [⟨2, 6⟩] := by decide +kernel
  have text : Utf8.decodeLossy malformed = "a\uFFFD/*\uFFFD*/\uFFFD\uFFFD".toList := by
    decide +kernel
  rcases (scan_decodeLossy malformed).2.1 _ found with
    ⟨parts, equal, closed, outside, inside⟩
  refine ⟨found, parts, equal.trans text, equal ▸ closed, ?_, ?_⟩
  · rw [outside]
    decide +kernel
  · rw [inside]
    decide +kernel

end Raw

end Block

end Uncomment
