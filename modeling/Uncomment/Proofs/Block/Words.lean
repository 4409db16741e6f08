import Uncomment.Proofs.Block.Context
import Uncomment.Proofs.Loop
import Uncomment.Proofs.Text.Utf8

namespace Uncomment

namespace Block

/-! Looking around two offsets that need not belong to a comment. It is possible just where
both offsets and the end of the closing marker are in place, and it makes no difference that
offsets are held in machine words, nor what becomes of sums that do not fit into one. -/

/-- Both offsets and the end of the closing marker stand between two characters of the text,
and the byte at the second offset is no line break. The markers need not be there. -/
structure Span.InPlace (span : Span) (text : Text) : Prop where
  opener : text.IsBoundary span.opener
  closer : text.IsBoundary span.closer
  after : text.IsBoundary span.after
  unbroken : (Utf8.encode text)[span.closer]? ≠ some 0x0A

namespace Surroundings

variable {text rest : Text} {span : Span}

/-! ## Where it is possible -/

theorem getElem?_encode_eq_newline_iff {offset : Nat} (dropped : text.drop? offset = some rest) :
    (Utf8.encode text)[offset]? = some 0x0A ↔ rest.head? = some Text.newline := by
  rcases Text.drop?_eq_some_iff.mp dropped with ⟨left, rfl, rfl⟩
  rw [Utf8.getElem?_encode_append, Utf8.head?_encode_eq_some_iff (by decide)]
  rfl

def lineStop (closer : Nat) (rest : Text) : Nat :=
  (((Text.find? [Text.newline] rest).map (closer + ·)).map (· + 1)).getD
    (closer + rest.size)

theorem isBoundary_lineStop {closer : Nat} (dropped : text.drop? closer = some rest) :
    text.IsBoundary (lineStop closer rest) := by
  rcases Text.drop?_eq_some_iff.mp dropped with ⟨left, rfl, rfl⟩
  rcases Text.laterLines_suffix rest with ⟨line, parts⟩
  have stops := nextLine_add left.size rest
  have sizes := congrArg Text.size parts
  rw [Text.size_append] at sizes
  refine ⟨left ++ line, Text.laterLines rest, ?_, ?_⟩
  · rw [List.append_assoc, parts]
  · rw [Text.size_append, lineStop]
    omega

/-- The line ends before the closing marker does only if it ends right at its first byte. -/
theorem le_lineStop_iff {closer : Nat} (within : closer + 2 ≤ closer + rest.size) :
    closer + 2 ≤ lineStop closer rest ↔ rest.head? ≠ some Text.newline := by
  unfold lineStop
  by_cases broken : Text.newline ∈ rest
  · rcases List.eq_append_cons_of_mem broken with ⟨line, later, rfl, unbroken⟩
    rw [Text.find?_newline unbroken]
    cases line with
    | nil => simp
    | cons char line =>
        have size := char.utf8Size_pos
        have other : char ≠ Text.newline := fun equal => unbroken (equal ▸ List.mem_cons_self)
        have starts : (char :: line ++ Text.newline :: later).head? ≠ some Text.newline := by
          simpa using other
        refine iff_of_true ?_ starts
        simp only [Option.map_some, Option.getD_some, Text.size_cons]
        omega
  · rw [Text.find?_newline_of_not_mem broken]
    refine iff_of_true within ?_
    intro starts
    exact broken (List.mem_of_mem_head? starts)

/-- Two offsets can be looked around just where they are in place. -/
theorem isSome_of?_iff : (of? text span).isSome ↔ span.InPlace text := by
  constructor
  · intro succeeds
    rcases Option.isSome_iff_exists.mp succeeds with ⟨around, found⟩
    simp only [of?, Option.bind_eq_bind, Option.bind_eq_some_iff] at found
    rcases found with ⟨before, taken, rest, dropped, lead, _, trail, slice, _⟩
    rcases Text.isSome_slice?_iff.mp (Option.isSome_of_eq_some slice) with
      ⟨ordered, _, after, _⟩
    have within := after.le_size
    rw [Text.size_of_drop? dropped] at ordered within
    refine ⟨Text.isSome_take?_iff.mp (Option.isSome_of_eq_some taken),
      Text.isSome_drop?_iff.mp (Option.isSome_of_eq_some dropped), after, ?_⟩
    rw [Ne, getElem?_encode_eq_newline_iff dropped]
    exact (le_lineStop_iff within).mp ordered
  · rintro ⟨opener, closer, after, unbroken⟩
    rcases Option.isSome_iff_exists.mp (Text.isSome_take?_iff.mpr opener) with ⟨before, taken⟩
    rcases Option.isSome_iff_exists.mp (Text.isSome_drop?_iff.mpr closer) with
      ⟨rest, dropped⟩
    have leadSlice : (text.slice? ((Text.findLast? Text.newline before).getD 0)
        span.opener).isSome := by
      rcases Text.take?_eq_some_iff.mp taken with ⟨right, rfl, size⟩
      rcases slice?_lead before right with ⟨lead, slice, _⟩
      rw [← size]
      exact Option.isSome_of_eq_some slice
    -- The slice up to the end of the line is the only one that can be out of order.
    have trailSlice : (text.slice? span.after (lineStop span.closer rest)).isSome := by
      have within := after.le_size
      rw [Text.size_of_drop? dropped] at within
      rw [Ne, getElem?_encode_eq_newline_iff dropped] at unbroken
      have stops := isBoundary_lineStop dropped
      exact Text.isSome_slice?_iff.mpr
        ⟨(le_lineStop_iff within).mpr unbroken, stops.le_size, after, stops⟩
    rcases Option.isSome_iff_exists.mp leadSlice with ⟨lead, leadSlice⟩
    rcases Option.isSome_iff_exists.mp trailSlice with ⟨trail, trailSlice⟩
    rw [lineStop, ← Text.size_of_drop? dropped] at trailSlice
    simp only [of?, Option.bind_eq_bind, taken, dropped, leadSlice, trailSlice,
      Option.bind_some]
    rfl

theorem bounds_of_of? {around : Surroundings} (found : of? text span = some around) :
    around.span = span ∧ around.size = text.size ∧ span.after ≤ text.size ∧
      ∀ lineBreak ∈ around.breakAfter, lineBreak < text.size := by
  have inPlace := isSome_of?_iff.mp (Option.isSome_of_eq_some found)
  simp only [of?, Option.bind_eq_bind, Option.bind_eq_some_iff] at found
  rcases found with ⟨before, _, rest, dropped, lead, _, trail, _, found⟩
  cases found
  refine ⟨rfl, rfl, inPlace.after.le_size, ?_⟩
  intro lineBreak member
  rcases Option.map_eq_some_iff.mp member with ⟨offset, first, rfl⟩
  have bound := Text.find?_le_size first
  rw [Text.size_of_drop? dropped]
  change offset + 1 ≤ rest.size at bound
  omega

structure Account where
  lineStart : Nat
  lineEnd : Nat
  replacement : Option Text
  removal : Range
  trimsBefore : Bool
deriving DecidableEq, Repr

def account (around : Surroundings) : Account where
  lineStart := around.lineStart
  lineEnd := around.lineEnd
  replacement := around.replacement
  removal := around.removal
  trimsBefore := around.trimsBefore

end Surroundings

namespace Word

/-! ## In machine words -/

/-- What becomes of a sum that does not fit into a word: it is an error, or it loses what
does not fit. -/
inductive Overflow
  | checked
  | wrapping
deriving DecidableEq, Repr

def Overflow.add? : Overflow → UInt64 → UInt64 → Option UInt64
  | checked, left, right =>
      if left.toNat + right.toNat < UInt64.size then some (left + right) else none
  | wrapping, left, right => some (left + right)

theorem Overflow.exists_add (overflow : Overflow) (left right : UInt64)
    (small : left.toNat + right.toNat < UInt64.size) :
    ∃ sum, overflow.add? left right = some sum ∧
      sum.toNat = left.toNat + right.toNat := by
  refine ⟨left + right, ?_, ?_⟩
  · cases overflow with
    | checked => exact if_pos small
    | wrapping => rfl
  · rw [UInt64.toNat_add]
    exact Nat.mod_eq_of_lt small

structure Span where
  opener : UInt64
  closer : UInt64
deriving DecidableEq, Repr

def Span.value (span : Span) : Block.Span := ⟨span.opener.toNat, span.closer.toNat⟩

structure Surroundings where
  span : Span
  size : UInt64
  breakBefore : Option UInt64
  breakAfter : Option UInt64
  opensLine : Bool
  closesLine : Bool
deriving DecidableEq, Repr

namespace Surroundings

def value (around : Surroundings) : Block.Surroundings where
  span := around.span.value
  size := around.size.toNat
  breakBefore := around.breakBefore.map UInt64.toNat
  breakAfter := around.breakAfter.map UInt64.toNat
  opensLine := around.opensLine
  closesLine := around.closesLine

def nextLine? (overflow : Overflow) (breakAfter : Option UInt64) (size : UInt64) :
    Option UInt64 :=
  match breakAfter with
  | some lineBreak => overflow.add? lineBreak 1
  | none => some size

def of? (overflow : Overflow) (text : Text) (span : Span) : Option Surroundings := do
  let before ← text.take? span.opener.toNat
  let breakBefore := (Text.findLast? Text.newline before).map UInt64.ofNat
  let fromCloser ← text.drop? span.closer.toNat
  let breakAfter ← (Text.find? [Text.newline] fromCloser).mapM fun offset =>
    overflow.add? span.closer (.ofNat offset)
  let lead ← text.slice? (breakBefore.getD 0).toNat span.opener.toNat
  let after ← overflow.add? span.closer 2
  let lineStop ← nextLine? overflow breakAfter (.ofNat text.size)
  let trail ← text.slice? after.toNat lineStop.toNat
  return {
    span, breakBefore, breakAfter
    size := .ofNat text.size
    opensLine := lead.allBlank
    closesLine := trail.allBlank }

def lineStart (around : Surroundings) : UInt64 := around.breakBefore.getD 0

def lineEnd (around : Surroundings) : UInt64 :=
  around.breakAfter.getD (if around.size = 0 then 0 else around.size - 1)

def removal? (overflow : Overflow) (around : Surroundings) : Option Range := do
  let after ← overflow.add? around.span.closer 2
  match around.opensLine, around.closesLine with
  | true, true =>
      let stop ← match around.breakBefore with
        | some _ => some (around.breakAfter.getD around.size)
        | none => nextLine? overflow around.breakAfter around.size
      return ⟨around.lineStart.toNat, stop.toNat⟩
  | true, false => return ⟨around.lineStart.toNat, after.toNat⟩
  | false, true =>
      let stop ← nextLine? overflow around.breakAfter around.size
      return ⟨around.span.opener.toNat, stop.toNat⟩
  | false, false => return ⟨around.span.opener.toNat, after.toNat⟩

def account? (overflow : Overflow) (around : Surroundings) :
    Option Block.Surroundings.Account := do
  let removal ← around.removal? overflow
  return {
    lineStart := around.lineStart.toNat
    lineEnd := around.lineEnd.toNat
    replacement := around.value.replacement
    removal
    trimsBefore := around.value.trimsBefore }

variable {text : Text} {span : Span} {around : Surroundings}

/-! ## Words stand for offsets -/

theorem toNat_getD (offset : Option UInt64) :
    (offset.getD 0).toNat = (offset.map UInt64.toNat).getD 0 := by
  cases offset <;> rfl

/-- A line break in front of an offset is told by a word if the offset is. -/
theorem map_toNat_findLast? {before : Text} {offset : UInt64}
    (taken : text.take? offset.toNat = some before) :
    ((Text.findLast? Text.newline before).map UInt64.ofNat).map UInt64.toNat =
      Text.findLast? Text.newline before := by
  rcases Text.take?_eq_some_iff.mp taken with ⟨right, _, size⟩
  by_cases broken : Text.newline ∈ before
  · rcases Text.exists_last_break broken with ⟨earlier, line, rfl, unbroken⟩
    have bound := offset.toNat_lt_size
    rw [Text.size_append] at size
    rw [Text.findLast?_newline unbroken, Option.map_some, Option.map_some,
      UInt64.toNat_ofNat_of_lt' (by omega)]
  · rw [Text.findLast?_newline_of_not_mem broken]
    rfl

theorem exists_breakAfter (overflow : Overflow) {closer : UInt64} {rest : Text}
    (small : closer.toNat + rest.size < UInt64.size) :
    ∃ breakAfter, ((Text.find? [Text.newline] rest).mapM fun offset =>
        overflow.add? closer (.ofNat offset)) = some breakAfter ∧
      breakAfter.map UInt64.toNat =
        (Text.find? [Text.newline] rest).map (closer.toNat + ·) ∧
      ∀ lineBreak ∈ breakAfter.map UInt64.toNat, lineBreak + 1 < UInt64.size := by
  cases first : Text.find? [Text.newline] rest with
  | none =>
      refine ⟨none, rfl, rfl, ?_⟩
      intro lineBreak absurd
      cases absurd
  | some offset =>
      have bound : offset + 1 ≤ rest.size := Text.find?_le_size first
      have exact : (UInt64.ofNat offset).toNat = offset :=
        UInt64.toNat_ofNat_of_lt' (by omega)
      rcases overflow.exists_add closer (.ofNat offset) (by omega) with
        ⟨lineBreak, sum, value⟩
      rw [exact] at value
      refine ⟨some lineBreak, ?_, ?_, ?_⟩
      · rw [Option.mapM_some, sum]
        rfl
      · rw [Option.map_some, Option.map_some, value]
      · intro other member
        cases member
        omega

theorem exists_nextLine (overflow : Overflow) {breakAfter : Option UInt64} (size : UInt64)
    (small : ∀ lineBreak ∈ breakAfter.map UInt64.toNat, lineBreak + 1 < UInt64.size) :
    ∃ stop, nextLine? overflow breakAfter size = some stop ∧
      stop.toNat = ((breakAfter.map UInt64.toNat).map (· + 1)).getD size.toNat := by
  cases breakAfter with
  | none => exact ⟨size, rfl, rfl⟩
  | some lineBreak => exact overflow.exists_add lineBreak 1 (small _ rfl)

theorem exists_after (overflow : Overflow) {span : Span}
    (small : span.closer.toNat + 2 < UInt64.size) :
    ∃ after, overflow.add? span.closer 2 = some after ∧ after.toNat = span.value.after :=
  overflow.exists_add span.closer 2 small

/-! ## Looking around -/

/-- A text has no more bytes than a signed word can count, so the end of a marker still fits
into a word where the marker starts in the text. -/
theorem map_value_of? (overflow : Overflow) (addressable : text.size < 2 ^ 63)
    (span : Span) :
    (of? overflow text span).map value = Block.Surroundings.of? text span.value := by
  have words : UInt64.size = 2 ^ 64 := rfl
  unfold of? Block.Surroundings.of?
  simp only [Option.bind_eq_bind]
  change Option.map value (Option.bind _ _) = Option.bind (text.take? span.opener.toNat) _
  cases taken : text.take? span.opener.toNat with
  | none => rfl
  | some before =>
      simp only [Option.bind_some]
      change Option.map value (Option.bind _ _) = Option.bind (text.drop? span.closer.toNat) _
      cases dropped : text.drop? span.closer.toNat with
      | none => rfl
      | some rest =>
          have sizes := Text.size_of_drop? dropped
          have textSize : (UInt64.ofNat text.size).toNat = text.size :=
            UInt64.toNat_ofNat_of_lt' (by omega)
          have breakBefore := map_toNat_findLast? taken
          have lineStart := toNat_getD ((Text.findLast? Text.newline before).map .ofNat)
          have small : span.closer.toNat + rest.size < UInt64.size := by omega
          rcases exists_breakAfter overflow small with ⟨breakAfter, found, breakValue, breaks⟩
          have fits : span.closer.toNat + 2 < UInt64.size := by omega
          rcases exists_after overflow fits with ⟨after, sum, afterValue⟩
          rcases exists_nextLine overflow (.ofNat text.size) breaks with
            ⟨stop, next, stopValue⟩
          rw [breakBefore] at lineStart
          rw [breakValue, textSize] at stopValue
          -- Each word stands for its offset, so both sides look at the same stretches.
          simp only [Option.bind_some, found, sum, next, lineStart, afterValue, stopValue,
            Option.map_bind, Function.comp_def, Option.pure_def, Option.map_some, value,
            breakBefore, breakValue, textSize]
          rfl

theorem removal?_eq (overflow : Overflow)
    (small : around.span.closer.toNat + 2 < UInt64.size)
    (breaks : ∀ lineBreak ∈ around.breakAfter.map UInt64.toNat, lineBreak + 1 < UInt64.size) :
    around.removal? overflow = some around.value.removal := by
  rcases exists_after overflow small with ⟨after, sum, afterValue⟩
  rcases exists_nextLine overflow around.size breaks with ⟨stop, next, stopValue⟩
  have start := toNat_getD around.breakBefore
  rcases around with ⟨span, size, breakBefore, breakAfter, opens, closes⟩
  unfold removal? Block.Surroundings.removal
  simp only [sum, Option.bind_eq_bind, Option.bind_some, afterValue, value]
  cases opens with
  | false =>
      cases closes with
      | false => rfl
      | true =>
          simp only [next, Option.bind_some, stopValue]
          rfl
  | true =>
      cases closes with
      | false =>
          simp only [lineStart, start]
          rfl
      | true =>
          cases breakBefore with
          | none =>
              simp only [next, Option.bind_some, stopValue]
              cases breakAfter <;> rfl
          | some lineBreak => cases breakAfter <;> rfl

theorem toNat_lineEnd (around : Surroundings) :
    around.lineEnd.toNat = around.value.lineEnd := by
  unfold lineEnd Block.Surroundings.lineEnd
  cases after : around.breakAfter with
  | some lineBreak => simp [value, after]
  | none =>
      simp only [value, after, Option.getD_none, Option.map_none]
      split
      · rename_i empty
        rw [empty]
        rfl
      · rename_i nonempty
        have positive : 1 ≤ around.size :=
          Nat.pos_of_ne_zero fun zero => nonempty (UInt64.toNat_inj.mp zero)
        rw [UInt64.toNat_sub_of_le _ _ positive]
        rfl

theorem account?_eq {overflow : Overflow} (addressable : text.size < 2 ^ 63)
    (found : of? overflow text span = some around) :
    around.account? overflow = some around.value.account := by
  have words : UInt64.size = 2 ^ 64 := rfl
  have looked := map_value_of? overflow addressable span
  rw [found, Option.map_some] at looked
  rcases Block.Surroundings.bounds_of_of? looked.symm with ⟨same, _, within, bounds⟩
  have after : around.span.closer.toNat + 2 = span.value.after :=
    congrArg Block.Span.after same
  have removal : around.removal? overflow = some around.value.removal := by
    refine removal?_eq overflow (by omega) ?_
    intro lineBreak member
    have bound := bounds lineBreak member
    omega
  rw [account?, removal, Option.bind_eq_bind, Option.bind_some, toNat_lineEnd]
  have start : around.lineStart.toNat = around.value.lineStart := toNat_getD _
  rw [start]
  rfl

/-- Whatever two words are taken for offsets of markers, looking around them comes to the
same as with offsets of any size, and it is without an error just where they are in place;
all that is told of them then is without an error as well. No sum overflows on the way, so it
does not matter what would become of one. -/
theorem of?_exact (overflow : Overflow) {text : Text} (addressable : text.size < 2 ^ 63)
    (span : Span) :
    (of? overflow text span).map value = Block.Surroundings.of? text span.value ∧
      ((of? overflow text span).isSome ↔ span.value.InPlace text) ∧
      ∀ around, of? overflow text span = some around →
        around.account? overflow = some around.value.account := by
  have same := map_value_of? overflow addressable span
  refine ⟨same, ?_, ?_⟩
  · rw [← Block.Surroundings.isSome_of?_iff, ← same, Option.isSome_map]
  · intro around found
    exact account?_eq addressable found

private def backwards : Text := "é\nab".toList

/-- The second marker would start in front of the first one, where the text starts; a marker
at the last offset of all would end beyond every text. -/
theorem of?_exact_backwards :
    backwards.size < 2 ^ 63 ∧
      (∃ around, of? .wrapping backwards ⟨5, 0⟩ = some around ∧
        around.account? .wrapping = some ⟨2, 2, some [Text.newline], ⟨5, 3⟩, true⟩) ∧
      of? .wrapping backwards ⟨0, 0xFFFFFFFFFFFFFFFF⟩ = none := by
  have addressable : backwards.size < 2 ^ 63 := by decide
  have near := of?_exact .wrapping addressable ⟨5, 0⟩
  have far := of?_exact .wrapping addressable ⟨0, 0xFFFFFFFFFFFFFFFF⟩
  have looked : (Block.Surroundings.of? backwards (Span.value ⟨5, 0⟩)).map
      Block.Surroundings.account =
        some ⟨2, 2, some [Text.newline], ⟨5, 3⟩, true⟩ := by decide +kernel
  have inPlace : (Span.value ⟨5, 0⟩).InPlace backwards :=
    Block.Surroundings.isSome_of?_iff.mp (by decide +kernel)
  refine ⟨addressable, ?_, ?_⟩
  · rcases Option.isSome_iff_exists.mp (near.2.1.mpr inPlace) with ⟨around, found⟩
    rw [← near.1, found] at looked
    exact ⟨around, found, (near.2.2 around found).trans looked⟩
  · rw [← Option.not_isSome_iff_eq_none, far.2.1]
    intro inPlace
    exact absurd inPlace.after.le_size (by decide)

end Surroundings

end Word

end Block

end Uncomment
