import Uncomment.Path.Relative
import Mathlib.Data.List.DropRight
import Mathlib.Tactic.SplitIfs

namespace Uncomment

namespace Path

/-! The stretches of a path, and the path that some stretches spell. A path spelled by the
stretches of another one has the components that they stand for. -/

/-! ## Stretches -/

def Segment.IsInner (segment : Segment) : Prop :=
  separator ∉ segment.spelling ∧ segment = .inner segment.spelling

inductive Proper : List Segment → Prop
  | nil : Proper []
  | rooted {rest : List Segment} (inner : ∀ segment ∈ rest, segment.IsInner) :
      Proper (⟨[], some .root⟩ :: rest)
  | leading {first : Bytes} {rest : List Segment} (occupied : first ≠ [])
      (whole : separator ∉ first) (inner : ∀ segment ∈ rest, segment.IsInner) :
      Proper (.leading first :: rest)

theorem isInner_inner {stretch : Bytes} (whole : separator ∉ stretch) :
    (Segment.inner stretch).IsInner :=
  ⟨whole, rfl⟩

theorem isInner_of_mem_map {stretches : List Bytes}
    (whole : ∀ stretch ∈ stretches, separator ∉ stretch) :
    ∀ segment ∈ stretches.map Segment.inner, segment.IsInner := by
  intro segment member
  rcases List.mem_map.mp member with ⟨stretch, inStretches, rfl⟩
  exact isInner_inner (whole stretch inStretches)

theorem map_inner_spelling {rest : List Segment}
    (inner : ∀ segment ∈ rest, segment.IsInner) :
    (rest.map Segment.spelling).map Segment.inner = rest := by
  rw [List.map_map]
  conv_rhs => rw [← List.map_id rest]
  apply List.map_congr_left
  intro segment member
  exact (inner segment member).2.symm

theorem splitOn_cases (path : Path) :
    (separator ∉ path ∧ path.splitOn separator = [path]) ∨
      ∃ first rest : Path, path = first ++ separator :: rest ∧ separator ∉ first ∧
        path.splitOn separator = first :: rest.splitOn separator := by
  by_cases split : separator ∈ path
  · rcases List.eq_append_cons_of_mem split with ⟨first, rest, rfl, whole⟩
    exact .inr ⟨first, rest, rfl, whole, List.splitOn_append_cons_self_of_not_mem whole rest⟩
  · exact .inl ⟨split, List.splitOn_eq_singleton split⟩

theorem separator_not_mem_of_mem_splitOn (path : Path) :
    ∀ stretch ∈ path.splitOn separator, separator ∉ stretch := by
  induction length : path.length using Nat.strongRecOn generalizing path with
  | _ count induction =>
      rcases splitOn_cases path with ⟨whole, split⟩ | ⟨first, rest, rfl, whole, split⟩
      · rw [split]
        exact List.forall_mem_singleton.mpr whole
      · rw [List.length_append, List.length_cons] at length
        rw [split]
        exact List.forall_mem_cons.mpr ⟨whole, induction rest.length (by omega) rest rfl⟩

theorem spelling_leading (first : Bytes) : (Segment.leading first).spelling = first := by
  unfold Segment.leading
  split <;> rfl

theorem component_inner_ne_root (stretch : Bytes) :
    (Segment.inner stretch).component ≠ some .root := by
  unfold Segment.inner
  dsimp only
  split_ifs <;> simp

theorem component_leading_ne_root (first : Bytes) :
    (Segment.leading first).component ≠ some .root := by
  unfold Segment.leading
  split_ifs
  · simp
  · exact component_inner_ne_root first

theorem isSome_component_leading {first : Bytes} (occupied : first ≠ []) :
    (Segment.leading first).component.isSome := by
  unfold Segment.leading Segment.inner
  split_ifs <;> simp_all

theorem eq_leading_of_isInner {segment : Segment} (inner : segment.IsInner)
    (stands : segment.component.isNone = false) :
    segment = .leading segment.spelling ∧ segment.spelling ≠ [] := by
  have equal := inner.2
  rw [equal] at stands
  unfold Segment.inner at stands
  dsimp only at stands
  by_cases blank : segment.spelling = [] ∨ segment.spelling = [dot]
  · rw [if_pos blank] at stands
    cases stands
  · rw [not_or] at blank
    refine ⟨?_, blank.1⟩
    rw [Segment.leading, if_neg blank.2]
    exact equal

theorem proper_segments {path : Path} (occupied : path ≠ []) : Proper (segments path) := by
  have wholes := separator_not_mem_of_mem_splitOn path
  unfold segments
  rcases splitOn_cases path with ⟨whole, split⟩ | ⟨first, rest, equal, whole, split⟩
  · have bare : path.head? ≠ some separator := by
      intro starts
      exact whole (List.mem_of_mem_head? starts)
    rw [split]
    dsimp only
    rw [if_neg bare]
    exact .leading occupied whole (List.forall_mem_nil _)
  · rw [split] at wholes ⊢
    have inner := isInner_of_mem_map (List.forall_mem_cons.mp wholes).2
    dsimp only
    cases first with
    | nil =>
        rw [if_pos (by rw [equal]; rfl)]
        exact .rooted inner
    | cons byte first =>
        have other : separator ≠ byte := (not_or.mp (mt List.mem_cons.mpr whole)).1
        rw [if_neg (by rw [equal]; simpa using other.symm)]
        exact .leading (List.cons_ne_nil _ _) whole inner

/-! ## Spelling -/

theorem spell_of_ne_root {first : Segment} {rest : List Segment}
    (other : first.component ≠ some .root ∨ rest ≠ []) :
    spell (first :: rest) =
      [separator].intercalate (first.spelling :: rest.map Segment.spelling) := by
  unfold spell
  split
  · simp_all
  · rfl

theorem splitOn_spelled {first : Bytes} {rest : List Segment} (whole : separator ∉ first)
    (inner : ∀ segment ∈ rest, segment.IsInner) :
    ([separator].intercalate (first :: rest.map Segment.spelling)).splitOn separator =
      first :: rest.map Segment.spelling := by
  apply List.splitOn_intercalate
  · refine List.forall_mem_cons.mpr ⟨whole, ?_⟩
    intro stretch member
    rcases List.mem_map.mp member with ⟨segment, inRest, rfl⟩
    exact (inner segment inRest).1
  · exact List.cons_ne_nil _ _

theorem head?_intercalate {first : Bytes} (occupied : first ≠ []) (rest : List Bytes) :
    ([separator].intercalate (first :: rest)).head? = first.head? := by
  rcases List.exists_cons_of_ne_nil occupied with ⟨byte, tail, rfl⟩
  cases rest with
  | nil => rw [List.intercalate_singleton]
  | cons next rest =>
      rw [List.intercalate_cons_cons]
      rfl

theorem components_spell {segments : List Segment} (proper : Proper segments) :
    components (spell segments) = segments.filterMap Segment.component := by
  cases proper with
  | nil => decide
  | @rooted rest inner =>
      cases rest with
      | nil => decide
      | cons next rest =>
          rw [spell_of_ne_root (.inr (List.cons_ne_nil _ _)), components, Path.segments,
            splitOn_spelled List.not_mem_nil inner]
          dsimp only
          rw [map_inner_spelling inner, if_pos]
          rw [List.map_cons, List.intercalate_cons_cons]
          rfl
  | @leading first rest occupied whole inner =>
      have bare : first.head? ≠ some separator := by
        intro starts
        exact whole (List.mem_of_mem_head? starts)
      rw [spell_of_ne_root (.inl (component_leading_ne_root first)), spelling_leading,
        components, Path.segments, splitOn_spelled whole inner]
      dsimp only
      rw [map_inner_spelling inner, head?_intercalate occupied, if_neg bare]

end Path

end Uncomment
