import Uncomment.Block.Scan
import Uncomment.Proofs.Text.Occurrence

namespace Uncomment

namespace Block

/-! The grammar of commented texts. A text with all its comments closed is a gap
without an opening marker, or such a gap, a comment whose body has no closing
marker, and again a text of this kind. -/

@[ext] structure Gap where
  text : Text
  free : ¬ opening <:+: text
deriving DecidableEq

@[ext] structure Body where
  text : Text
  free : ¬ closing <:+: text
deriving DecidableEq

/-- A text taken apart at the markers of its comments. -/
inductive Parts
  | plain (gap : Gap)
  | commented (gap : Gap) (body : Body) (rest : Parts)

namespace Parts

def text : Parts → Text
  | plain gap => gap.text
  | commented gap body rest =>
      gap.text ++ opening ++ (body.text ++ closing ++ rest.text)

def lead : Parts → Text
  | plain gap => gap.text
  | commented gap _ _ => gap.text

def later : Parts → List Text
  | plain _ => []
  | commented _ _ rest => rest.lead :: rest.later

def gaps (parts : Parts) : List Text := parts.lead :: parts.later

def bodies : Parts → List Text
  | plain _ => []
  | commented _ body rest => body.text :: rest.bodies

def code (parts : Parts) : Text := parts.gaps.flatten

def spans (start : Nat) : Parts → List Span
  | plain _ => []
  | commented gap body rest =>
      let opener := start + Text.size gap.text
      let span : Span := ⟨opener, opener + Text.size opening + Text.size body.text⟩
      span :: rest.spans span.after

theorem code_plain (gap : Gap) : (plain gap).code = gap.text :=
  List.append_nil gap.text

theorem code_commented (gap : Gap) (body : Body) (rest : Parts) :
    (commented gap body rest).code = gap.text ++ rest.code := rfl

end Parts

/-! ## One comment -/

def throughComment (before : Text) (gap : Gap) (body : Body) : Text :=
  before ++ (gap.text ++ opening ++ (body.text ++ closing))

def commentSpan (before : Text) (gap : Gap) (body : Body) : Span :=
  let opener := Text.size before + Text.size gap.text
  ⟨opener, opener + Text.size opening + Text.size body.text⟩

theorem throughComment_append (before : Text) (gap : Gap) (body : Body) (rest : Text) :
    throughComment before gap body ++ rest =
      before ++ (gap.text ++ opening ++ (body.text ++ closing ++ rest)) := by
  simp [throughComment]

theorem size_throughComment (before : Text) (gap : Gap) (body : Body) :
    Text.size (throughComment before gap body) = (commentSpan before gap body).after := by
  simp [throughComment, commentSpan, Span.after, Nat.add_assoc]

theorem Parts.text_commented (before : Text) (gap : Gap) (body : Body) (rest : Parts) :
    before ++ (commented gap body rest).text =
      throughComment before gap body ++ rest.text :=
  (throughComment_append before gap body rest.text).symm

theorem Parts.spans_commented (before : Text) (gap : Gap) (body : Body) (rest : Parts) :
    (commented gap body rest).spans (Text.size before) =
      commentSpan before gap body ::
        rest.spans (Text.size (throughComment before gap body)) := by
  rw [size_throughComment]
  rfl

/-! ## Uniqueness -/

theorem opening_differs : '/' ≠ '*' := by decide

theorem closing_differs : '*' ≠ '/' := by decide

theorem Gap.cut? (gap : Gap) (after : Text) :
    Text.cut? opening (gap.text ++ opening ++ after) = some (gap.text, after) :=
  Text.cut?_pair opening_differs gap.free after

theorem Body.cut? (body : Body) (after : Text) :
    Text.cut? closing (body.text ++ closing ++ after) = some (body.text, after) :=
  Text.cut?_pair closing_differs body.free after

theorem Parts.cut?_plain (gap : Gap) : Text.cut? opening gap.text = none :=
  Text.cut?_eq_none_iff.mpr gap.free

/-- A text can be taken apart in one way only. -/
theorem Parts.text_injective : Function.Injective Parts.text := by
  intro left right equal
  -- Equal texts have the same first cut, at the opening and then the closing marker.
  induction left generalizing right with
  | plain gap =>
      have leftCut := Parts.cut?_plain gap
      cases right with
      | plain other => exact congrArg plain (Gap.ext equal)
      | commented other body rest =>
          change gap.text = _ at equal
          rw [equal, text, other.cut?] at leftCut
          cases leftCut
  | commented gap body rest induction =>
      have leftCut : Text.cut? opening (commented gap body rest).text =
          some (gap.text, body.text ++ closing ++ rest.text) := gap.cut? _
      rw [equal] at leftCut
      cases right with
      | plain other =>
          rw [text, Parts.cut?_plain] at leftCut
          cases leftCut
      | commented other otherBody otherRest =>
          rw [text, other.cut?, Option.some.injEq, Prod.mk.injEq] at leftCut
          have bodyCut := body.cut? rest.text
          rw [← leftCut.2, otherBody.cut?, Option.some.injEq, Prod.mk.injEq] at bodyCut
          rw [Gap.ext leftCut.1, Body.ext bodyCut.1, induction bodyCut.2.symm]

/-! ## Existence -/

/-- Every text has all its comments closed, or ends in a comment that is not. -/
theorem exists_parts (text : Text) :
    (∃ parts : Parts, parts.text = text) ∨
      ∃ (parts : Parts) (rest : Body), parts.text ++ opening ++ rest.text = text := by
  -- Each step takes a gap and a comment off, so the induction is on the length.
  induction length : text.length using Nat.strongRecOn generalizing text with
  | _ count induction =>
      cases opened : Text.cut? opening text with
      | none =>
          exact .inl ⟨.plain ⟨text, Text.cut?_eq_none_iff.mp opened⟩, rfl⟩
      | some cut =>
          rcases cut with ⟨gapText, inside⟩
          have gapFree := Text.free_of_cut?_pair opening_differs opened
          cases closed : Text.cut? closing inside with
          | none =>
              refine .inr ⟨.plain ⟨gapText, gapFree⟩,
                ⟨inside, Text.cut?_eq_none_iff.mp closed⟩, ?_⟩
              exact (Text.eq_of_cut? opened).symm
          | some cut =>
              rcases cut with ⟨bodyText, after⟩
              have bodyFree := Text.free_of_cut?_pair closing_differs closed
              have equal :
                  gapText ++ opening ++ (bodyText ++ closing ++ after) = text := by
                rw [← Text.eq_of_cut? closed, ← Text.eq_of_cut? opened]
              have shorter : after.length < count := by
                have lengths := congrArg List.length equal
                simp only [List.length_append, opening, closing, List.length_cons]
                  at lengths
                omega
              rcases induction after.length shorter after rfl with
                ⟨rest, restText⟩ | ⟨rest, last, restText⟩
              · refine .inl ⟨.commented ⟨gapText, gapFree⟩ ⟨bodyText, bodyFree⟩ rest, ?_⟩
                rw [Parts.text, restText, equal]
              · refine .inr ⟨.commented ⟨gapText, gapFree⟩ ⟨bodyText, bodyFree⟩ rest,
                  last, ?_⟩
                rw [← equal, ← restText, Parts.text]
                simp

end Block

end Uncomment
