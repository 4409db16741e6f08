import Uncomment.Proofs.Path.Components
import Uncomment.Proofs.Text.Case

namespace Uncomment

namespace Path

/-! Paths that differ in the case of ASCII letters: their components, file names and
extensions differ in case too, and in nothing else. -/

theorem lower_eq_separator_iff {byte : UInt8} :
    Utf8.lower byte = separator ↔ byte = separator :=
  Utf8.lower_eq_iff (.inl (by decide))

theorem lower_eq_dot_iff {byte : UInt8} : Utf8.lower byte = dot ↔ byte = dot :=
  Utf8.lower_eq_iff (.inl (by decide))

theorem separator_mem_map_lower_iff {path : Path} :
    separator ∈ path.map Utf8.lower ↔ separator ∈ path := by
  rw [List.mem_map]
  constructor
  · intro found
    rcases found with ⟨byte, member, equal⟩
    rwa [← lower_eq_separator_iff.mp equal]
  · intro member
    exact ⟨separator, member, lower_eq_separator_iff.mpr rfl⟩

/-! ## Stretches and components -/

def Component.lower : Component → Component
  | .name bytes => .name (bytes.map Utf8.lower)
  | other => other

def Segment.lower (segment : Segment) : Segment where
  spelling := segment.spelling.map Utf8.lower
  component := segment.component.map Component.lower

theorem splitOn_map_lower (path : Path) :
    (path.map Utf8.lower).splitOn separator =
      (path.splitOn separator).map (List.map Utf8.lower) := by
  induction length : path.length using Nat.strongRecOn generalizing path with
  | _ count induction =>
      rcases splitOn_cases path with ⟨whole, split⟩ | ⟨first, rest, rfl, whole, split⟩
      · rw [split, List.splitOn_eq_singleton (mt separator_mem_map_lower_iff.mp whole)]
        rfl
      · rw [List.length_append, List.length_cons] at length
        rw [split, List.map_append, List.map_cons, lower_eq_separator_iff.mpr rfl,
          List.splitOn_append_cons_self_of_not_mem
            (mt separator_mem_map_lower_iff.mp whole),
          induction rest.length (by omega) rest rfl, List.map_cons]

theorem map_lower_eq_dot_iff {stretch : Bytes} :
    stretch.map Utf8.lower = [dot] ↔ stretch = [dot] := by
  rw [List.map_eq_singleton_iff]
  simp only [lower_eq_dot_iff, exists_eq_right]

theorem map_lower_eq_dots_iff {stretch : Bytes} :
    stretch.map Utf8.lower = [dot, dot] ↔ stretch = [dot, dot] := by
  rw [List.map_eq_cons_iff]
  simp only [lower_eq_dot_iff, map_lower_eq_dot_iff]
  constructor
  · intro parts
    rcases parts with ⟨first, rest, rfl, rfl, rfl⟩
    rfl
  · intro equal
    exact ⟨dot, [dot], equal, rfl, rfl⟩

theorem inner_map_lower (stretch : Bytes) :
    Segment.inner (stretch.map Utf8.lower) = (Segment.inner stretch).lower := by
  unfold Segment.inner Segment.lower
  simp only [List.map_eq_nil_iff, map_lower_eq_dot_iff, map_lower_eq_dots_iff]
  split_ifs <;> rfl

theorem leading_map_lower (first : Bytes) :
    Segment.leading (first.map Utf8.lower) = (Segment.leading first).lower := by
  unfold Segment.leading
  simp only [map_lower_eq_dot_iff]
  split
  · rfl
  · exact inner_map_lower first

theorem segments_map_lower (path : Path) :
    segments (path.map Utf8.lower) = (segments path).map Segment.lower := by
  have starts : (path.map Utf8.lower).head? = some separator ↔
      path.head? = some separator := by
    cases path with
    | nil => exact Iff.rfl
    | cons byte path => simp [lower_eq_separator_iff]
  unfold segments
  rw [splitOn_map_lower]
  simp only [starts]
  cases path.splitOn separator with
  | nil => rfl
  | cons first rest =>
      have later : (rest.map (List.map Utf8.lower)).map Segment.inner =
          (rest.map Segment.inner).map Segment.lower := by
        rw [List.map_map, List.map_map]
        exact List.map_congr_left fun stretch _ => inner_map_lower stretch
      rw [List.map_cons]
      dsimp only
      rw [later]
      split
      · rfl
      · rw [leading_map_lower, List.map_cons]

theorem components_map_lower (path : Path) :
    components (path.map Utf8.lower) = (components path).map Component.lower := by
  rw [components, segments_map_lower, List.filterMap_map, components, List.map_filterMap]
  rfl

/-! ## Names -/

theorem fileName?_map_lower (path : Path) :
    fileName? (path.map Utf8.lower) = (fileName? path).map (List.map Utf8.lower) := by
  unfold fileName?
  rw [components_map_lower, List.getLast?_map]
  cases (components path).getLast? with
  | none => rfl
  | some component => cases component <;> rfl

theorem extension?_map_lower (path : Path) :
    extension? (path.map Utf8.lower) = (extension? path).map (List.map Utf8.lower) := by
  have stops : (fun byte => byte != dot) ∘ Utf8.lower = fun byte => byte != dot := by
    funext byte
    rw [Function.comp_apply, Bool.eq_iff_iff, bne_iff_ne, bne_iff_ne]
    exact not_congr lower_eq_dot_iff
  unfold extension?
  rw [fileName?_map_lower]
  cases fileName? path with
  | none => rfl
  | some name =>
      simp only [Option.map_some, Option.bind_eq_bind, Option.bind_some,
        List.span_eq_takeWhile_dropWhile, ← List.map_reverse, List.takeWhile_map,
        List.dropWhile_map, stops, List.length_map]
      split
      · rfl
      · rfl

end Path

end Uncomment
