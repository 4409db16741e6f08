import Uncomment.Proofs.Path.Components
import Uncomment.Proofs.Text.Utf8

namespace Uncomment

namespace Path

/-! How a path below a root is shown: by the components that it has beyond those of the
root, whatever the two are spelled like. -/

/-! ## Stretches that stand for nothing -/

theorem filterMap_dropComponents (count : Nat) (segments : List Segment) :
    (dropComponents count segments).filterMap Segment.component =
      (segments.filterMap Segment.component).drop count := by
  induction segments generalizing count with
  | nil => cases count <;> simp [dropComponents]
  | cons segment rest induction =>
      cases count with
      | zero => rfl
      | succ count =>
          rw [dropComponents]
          cases stands : segment.component with
          | none => simp [induction, stands]
          | some component => simp [induction, stands]

@[simp] theorem dropComponents_zero (segments : List Segment) :
    dropComponents 0 segments = segments := by
  cases segments <;> rfl

theorem dropComponents_suffix (count : Nat) (segments : List Segment) :
    dropComponents count segments <:+ segments := by
  induction segments generalizing count with
  | nil => cases count <;> exact List.suffix_rfl
  | cons segment rest induction =>
      cases count with
      | zero => exact List.suffix_rfl
      | succ count =>
          rw [dropComponents]
          split
          · exact (induction count).trans (List.suffix_cons _ _)
          · exact (induction (count + 1)).trans (List.suffix_cons _ _)

theorem filterMap_dropWhile_isNone (segments : List Segment) :
    (segments.dropWhile (·.component.isNone)).filterMap Segment.component =
      segments.filterMap Segment.component := by
  induction segments with
  | nil => rfl
  | cons segment rest induction =>
      cases stands : segment.component with
      | none => simp [stands, induction]
      | some component => simp [stands]

theorem filterMap_dropTrailing (segments : List Segment) :
    (dropTrailing segments).filterMap Segment.component =
      segments.filterMap Segment.component := by
  rw [dropTrailing, List.filterMap_reverse, filterMap_dropWhile_isNone,
    List.filterMap_reverse, List.reverse_reverse]

theorem mem_of_mem_dropTrailing {segment : Segment} {segments : List Segment}
    (member : segment ∈ dropTrailing segments) : segment ∈ segments :=
  (List.rdropWhile_prefix _ segments).subset member

theorem dropTrailing_cons {first : Segment} (stands : first.component.isSome)
    (rest : List Segment) : dropTrailing (first :: rest) = first :: dropTrailing rest := by
  have stays : first.component.isNone = false := by
    rw [← Option.not_isSome, stands]
    rfl
  rw [dropTrailing, List.reverse_cons, List.dropWhile_append, dropTrailing]
  cases kept : rest.reverse.dropWhile (·.component.isNone) with
  | nil => simp [stays]
  | cons last front => simp

theorem Proper.dropTrailing {segments : List Segment} (proper : Proper segments) :
    Proper (dropTrailing segments) := by
  have stay {rest : List Segment} (inner : ∀ segment ∈ rest, segment.IsInner) :
      ∀ segment ∈ Path.dropTrailing rest, segment.IsInner := by
    intro segment member
    exact inner segment (mem_of_mem_dropTrailing member)
  cases proper with
  | nil => exact .nil
  | rooted inner =>
      rw [dropTrailing_cons rfl]
      exact .rooted (stay inner)
  | leading occupied whole inner =>
      rw [dropTrailing_cons (isSome_component_leading occupied)]
      exact .leading occupied whole (stay inner)

theorem proper_dropWhile {segments : List Segment}
    (inner : ∀ segment ∈ segments, segment.IsInner) :
    Proper (segments.dropWhile (·.component.isNone)) := by
  induction segments with
  | nil => exact .nil
  | cons segment rest induction =>
      rcases List.forall_mem_cons.mp inner with ⟨here, later⟩
      cases stands : segment.component.isNone with
      | true =>
          simp only [List.dropWhile_cons, stands, ↓reduceIte]
          exact induction later
      | false =>
          rcases eq_leading_of_isInner here stands with ⟨equal, occupied⟩
          rw [List.dropWhile_cons_of_neg (by simp [stands]), equal]
          exact .leading occupied here.1 later

/-! ## Below a root -/

theorem dropComponents_succ_cons {first : Segment} (stands : first.component.isSome)
    (count : Nat) (rest : List Segment) :
    dropComponents (count + 1) (first :: rest) = dropComponents count rest := by
  rcases Option.isSome_iff_exists.mp stands with ⟨component, some⟩
  rw [dropComponents, some]

theorem segments_nil : segments [] = [⟨[], none⟩] := by decide

theorem Proper.isInner_of_mem_dropComponents {segments : List Segment}
    (proper : Proper segments) (count : Nat) :
    ∀ segment ∈ dropComponents (count + 1) segments, segment.IsInner := by
  have within {first : Segment} {rest : List Segment} (stands : first.component.isSome)
      (inner : ∀ segment ∈ rest, segment.IsInner) :
      ∀ segment ∈ dropComponents (count + 1) (first :: rest), segment.IsInner := by
    intro segment member
    rw [dropComponents_succ_cons stands] at member
    exact inner segment ((dropComponents_suffix count rest).subset member)
  cases proper with
  | nil => exact List.forall_mem_nil _
  | rooted inner => exact within rfl inner
  | leading occupied whole inner =>
      exact within (isSome_component_leading occupied) inner

theorem isInner_of_mem_dropComponents (path : Path) (count : Nat) :
    ∀ segment ∈ dropComponents (count + 1) (segments path), segment.IsInner := by
  by_cases empty : path = []
  · rw [empty, segments_nil]
    exact List.forall_mem_nil _
  · exact (proper_segments empty).isInner_of_mem_dropComponents count

theorem proper_dropTrailing_segments (path : Path) :
    Proper (dropTrailing (segments path)) := by
  by_cases empty : path = []
  · rw [empty, segments_nil]
    exact .nil
  · exact (proper_segments empty).dropTrailing

/-- What is left below a root has the components beyond those of the root. -/
theorem exists_below {root path : Path} {rest : List Component}
    (parts : components path = components root ++ rest) :
    ∃ kept, below? root path = some (spell kept) ∧ Proper kept ∧
      kept.filterMap Segment.component = rest := by
  have starts : (components root).isPrefixOf (components path) = true :=
    List.isPrefixOf_iff_prefix.mpr ⟨rest, parts.symm⟩
  have beyond : ((segments path).filterMap Segment.component).drop
      (components root).length = rest := by
    change (components path).drop _ = rest
    rw [parts, List.drop_left]
  unfold below?
  dsimp only
  rw [if_pos starts]
  cases known : (components root).length with
  | zero =>
      rw [known] at beyond
      rw [if_pos rfl, dropComponents_zero]
      refine ⟨_, rfl, proper_dropTrailing_segments path, ?_⟩
      rw [filterMap_dropTrailing]
      exact beyond
  | succ count =>
      rw [known] at beyond
      rw [if_neg (Nat.succ_ne_zero count)]
      refine ⟨_, rfl,
        (proper_dropWhile (isInner_of_mem_dropComponents path count)).dropTrailing, ?_⟩
      rw [filterMap_dropTrailing, filterMap_dropWhile_isNone, filterMap_dropComponents,
        beyond]

theorem below?_eq_none {root path : Path} (apart : ¬ components root <+: components path) :
    below? root path = none := by
  unfold below?
  exact if_neg (mt List.isPrefixOf_iff_prefix.mp apart)

/-! ## Names that are shown as they are -/

def Plain (bytes : Bytes) : Prop := ∃ text, '\\' ∉ text ∧ Utf8.encode text = bytes

theorem plain_nil : Plain [] := ⟨[], List.not_mem_nil, rfl⟩

theorem Plain.append {left right : Bytes} (plainLeft : Plain left)
    (plainRight : Plain right) : Plain (left ++ right) := by
  rcases plainLeft with ⟨front, frontFree, rfl⟩
  rcases plainRight with ⟨back, backFree, rfl⟩
  refine ⟨front ++ back, ?_, List.flatMap_append⟩
  rw [List.mem_append, not_or]
  exact ⟨frontFree, backFree⟩

theorem plain_separator : Plain [separator] := ⟨['/'], by decide, by decide⟩

theorem plain_intercalate {stretches : List Bytes}
    (plain : ∀ stretch ∈ stretches, Plain stretch) :
    Plain ([separator].intercalate stretches) := by
  induction stretches with
  | nil => exact plain_nil
  | cons first rest induction =>
      rcases List.forall_mem_cons.mp plain with ⟨here, later⟩
      cases rest with
      | nil =>
          rw [List.intercalate_singleton]
          exact here
      | cons next rest =>
          rw [List.intercalate_cons_cons]
          exact (here.append plain_separator).append (induction later)

theorem encode_slashed {bytes : Bytes} (plain : Plain bytes) :
    Utf8.encode (slashed bytes) = bytes := by
  rcases plain with ⟨text, free, rfl⟩
  have same : text.map (fun char => if char = '\\' then '/' else char) = text := by
    conv_rhs => rw [← List.map_id text]
    apply List.map_congr_left
    intro char member
    apply if_neg
    rintro rfl
    exact free member
  rw [slashed, Utf8.decodeLossy_encode, same]

theorem plain_spelling_inner {stretch : Bytes}
    (named : ∀ name, (Segment.inner stretch).component = some (.name name) → Plain name) :
    Plain stretch := by
  by_cases blank : stretch = [] ∨ stretch = [dot]
  · rcases blank with rfl | rfl
    · exact plain_nil
    · exact ⟨['.'], by decide, by decide⟩
  · by_cases up : stretch = [dot, dot]
    · rw [up]
      exact ⟨['.', '.'], by decide, by decide⟩
    · apply named stretch
      rw [Segment.inner]
      dsimp only
      rw [if_neg blank, if_neg up]

theorem plain_spelling_leading {first : Bytes}
    (named : ∀ name, (Segment.leading first).component = some (.name name) → Plain name) :
    Plain first := by
  unfold Segment.leading at named
  split at named
  · rename_i here
    rw [here]
    exact ⟨['.'], by decide, by decide⟩
  · exact plain_spelling_inner named

theorem plain_spell {segments : List Segment} (proper : Proper segments)
    (named : ∀ name, .name name ∈ segments.filterMap Segment.component → Plain name) :
    Plain (spell segments) := by
  -- However the path starts, the stretches behind the first one are plain.
  have inners {rest : List Segment} (inner : ∀ segment ∈ rest, segment.IsInner)
      (within : ∀ segment ∈ rest, segment ∈ segments) :
      ∀ stretch ∈ rest.map Segment.spelling, Plain stretch := by
    intro stretch member
    rcases List.mem_map.mp member with ⟨segment, inRest, rfl⟩
    apply plain_spelling_inner
    intro name stands
    rw [← (inner segment inRest).2] at stands
    exact named name (List.mem_filterMap.mpr ⟨segment, within segment inRest, stands⟩)
  cases proper with
  | nil => exact plain_nil
  | @rooted rest inner =>
      have later := inners inner fun segment member => List.mem_cons_of_mem _ member
      cases rest with
      | nil => exact plain_separator
      | cons next rest =>
          rw [spell_of_ne_root (.inr (List.cons_ne_nil _ _))]
          exact plain_intercalate (List.forall_mem_cons.mpr ⟨plain_nil, later⟩)
  | @leading first rest occupied whole inner =>
      have later := inners inner fun segment member => List.mem_cons_of_mem _ member
      have here : Plain first := by
        apply plain_spelling_leading
        intro name stands
        exact named name (List.mem_filterMap.mpr ⟨_, List.mem_cons_self, stands⟩)
      rw [spell_of_ne_root (.inl (component_leading_ne_root first)), spelling_leading]
      exact plain_intercalate (List.forall_mem_cons.mpr ⟨here, later⟩)

/-! ## What is shown -/

theorem display_of_ne_nil {root path : Path} (shown : (below? root path).getD path ≠ []) :
    display root path = slashed ((below? root path).getD path) := by
  unfold display
  split
  · rename_i empty
    exact absurd empty shown
  · rfl

theorem display_of_nil {root path : Path} (empty : (below? root path).getD path = []) :
    display root path = Utf8.decodeLossy ((fileName? path).getD path) := by
  unfold display
  rw [empty]

@[simp] theorem slashed_eq_nil_iff {path : Path} : slashed path = [] ↔ path = [] := by
  rw [slashed, List.map_eq_nil_iff, Utf8.decodeLossy_eq_nil_iff]

theorem Proper.eq_nil {segments : List Segment} (proper : Proper segments)
    (none : segments.filterMap Segment.component = []) : segments = [] := by
  cases proper with
  | nil => rfl
  | rooted inner => simp at none
  | leading occupied whole inner =>
      rw [List.filterMap_eq_nil_iff] at none
      have stands := isSome_component_leading occupied
      rw [none _ List.mem_cons_self] at stands
      cases stands

theorem ne_nil_of_inner_eq_name {stretch name : Bytes}
    (stands : (Segment.inner stretch).component = some (.name name)) : name ≠ [] := by
  unfold Segment.inner at stands
  dsimp only at stands
  split_ifs at stands with blank up
  · cases stands
  · rw [← Component.name.inj (Option.some.inj stands)]
    exact (not_or.mp blank).1

theorem ne_nil_of_leading_eq_name {first name : Bytes}
    (stands : (Segment.leading first).component = some (.name name)) : name ≠ [] := by
  unfold Segment.leading at stands
  split at stands
  · cases stands
  · exact ne_nil_of_inner_eq_name stands

theorem Proper.name_ne_nil {segments : List Segment} (proper : Proper segments)
    {name : Bytes} (member : .name name ∈ segments.filterMap Segment.component) :
    name ≠ [] := by
  rcases List.mem_filterMap.mp member with ⟨segment, found, stands⟩
  have within {rest : List Segment} (inner : ∀ segment ∈ rest, segment.IsInner)
      (inRest : segment ∈ rest) : name ≠ [] := by
    rw [(inner segment inRest).2] at stands
    exact ne_nil_of_inner_eq_name stands
  cases proper with
  | nil => cases found
  | rooted inner =>
      rcases List.mem_cons.mp found with rfl | inRest
      · cases stands
      · exact within inner inRest
  | leading occupied whole inner =>
      rcases List.mem_cons.mp found with rfl | inRest
      · exact ne_nil_of_leading_eq_name stands
      · exact within inner inRest

theorem components_nil : components [] = [] := by decide

theorem fileName?_ne_nil {path : Path} {name : Bytes} (named : fileName? path = some name) :
    name ≠ [] := by
  unfold fileName? at named
  split at named
  · rename_i last found
    have member := List.mem_of_getLast? found
    cases named
    by_cases empty : path = []
    · rw [empty, components_nil] at member
      cases member
    · exact (proper_segments empty).name_ne_nil member
  · cases named

/-- The components of `path` are those of `root` and then `rest`, which is not empty and
has only names that can be shown as they are. -/
structure Below (root path : Path) (rest : List Component) : Prop where
  occupied : rest ≠ []
  components : components path = components root ++ rest
  plain : ∀ name, .name name ∈ rest → Plain name

theorem components_display {root path : Path} {rest : List Component}
    (below : Below root path rest) : components (Utf8.encode (display root path)) = rest := by
  rcases exists_below below.components with ⟨kept, found, proper, stands⟩
  have spelled := components_spell proper
  rw [stands] at spelled
  have shown : spell kept ≠ [] := by
    intro empty
    rw [empty, components_nil] at spelled
    exact below.occupied spelled.symm
  have plain : Plain (spell kept) := by
    apply plain_spell proper
    rw [stands]
    exact below.plain
  rw [display_of_ne_nil (by rw [found]; exact shown), found, Option.getD_some,
    encode_slashed plain, spelled]

theorem display_of_components_eq {root path : Path}
    (same : components root = components path) :
    display root path = Utf8.decodeLossy ((fileName? path).getD path) := by
  have parts : components path = components root ++ [] := by rw [same, List.append_nil]
  rcases exists_below parts with ⟨kept, found, proper, stands⟩
  apply display_of_nil
  rw [found, proper.eq_nil stands]
  rfl

theorem display_of_apart {root path : Path}
    (apart : ¬ components root <+: components path) : display root path = slashed path := by
  by_cases empty : path = []
  · rw [display_of_nil (by rw [below?_eq_none apart]; exact empty), empty]
    exact Utf8.decodeLossy_nil.trans (slashed_eq_nil_iff.mpr rfl).symm
  · rw [display_of_ne_nil (by rw [below?_eq_none apart]; exact empty),
      below?_eq_none apart]
    rfl

theorem below?_nil (root : Path) : (below? root []).getD [] = [] := by
  by_cases starts : components root <+: components []
  · rcases starts with ⟨rest, parts⟩
    have none : rest = [] := by
      rw [components_nil] at parts
      exact (List.append_eq_nil_iff.mp parts).2
    rcases exists_below parts.symm with ⟨kept, found, proper, stands⟩
    rw [found, proper.eq_nil (stands.trans none)]
    rfl
  · rw [below?_eq_none starts]
    rfl

theorem display_eq_nil_iff {root path : Path} : display root path = [] ↔ path = [] := by
  by_cases shown : (below? root path).getD path = []
  · rw [display_of_nil shown, Utf8.decodeLossy_eq_nil_iff]
    cases named : fileName? path with
    | none => exact Iff.rfl
    | some name =>
        refine iff_of_false (fileName?_ne_nil named) ?_
        rintro rfl
        cases named
  · rw [display_of_ne_nil shown, slashed_eq_nil_iff]
    refine iff_of_false shown ?_
    rintro rfl
    exact shown (below?_nil root)

/-- A path is shown relative to a root by its own components, whatever the two are spelled
like. Below the root these are the components beyond the root's, so that different ones are
shown differently; the root itself is shown by its file name, if it has one. Any other path
is shown as it is spelled, with slashes for backslashes. Only the empty path is shown as
nothing. -/
theorem display_exact (root path : Path) :
    (∀ rest, Below root path rest →
      components (Utf8.encode (display root path)) = rest) ∧
    (∀ other otherPath rest otherRest, Below root path rest →
      Below other otherPath otherRest → rest ≠ otherRest →
      display root path ≠ display other otherPath) ∧
    (∀ other, components other = components root →
      display other path = display root path) ∧
    (components root = components path →
      display root path = Utf8.decodeLossy ((fileName? path).getD path)) ∧
    (¬ components root <+: components path →
      display root path =
        (Utf8.decodeLossy path).map fun char => if char = '\\' then '/' else char) ∧
    (display root path = [] ↔ path = []) := by
  refine ⟨fun _ => components_display, ?_, ?_, display_of_components_eq, display_of_apart,
    display_eq_nil_iff⟩
  · intro other otherPath rest otherRest below otherBelow different same
    apply different
    rw [← components_display below, same, components_display otherBelow]
  · intro other same
    rw [display, display, below?, below?, same]

private def deepRoot : Path := Utf8.encode "a/.//b/".toList

private def deepPath : Path := Utf8.encode "a//b/./../é/.c//".toList

theorem display_exact_deep :
    Below deepRoot deepPath [.parent, .name [0xC3, 0xA9], .name [0x2E, 0x63]] ∧
      display deepRoot deepPath = "../é/.c".toList ∧
      components (Utf8.encode (display deepRoot deepPath)) =
        [.parent, .name [0xC3, 0xA9], .name [0x2E, 0x63]] := by
  have below :
      Below deepRoot deepPath [.parent, .name [0xC3, 0xA9], .name [0x2E, 0x63]] := by
    refine ⟨List.cons_ne_nil _ _, by decide +kernel, ?_⟩
    intro name member
    simp only [List.mem_cons, reduceCtorEq, Component.name.injEq, List.not_mem_nil, or_false,
      false_or] at member
    rcases member with rfl | rfl
    · exact ⟨['é'], by decide, by decide⟩
    · exact ⟨['.', 'c'], by decide, by decide⟩
  exact ⟨below, by decide +kernel, (display_exact deepRoot deepPath).1 _ below⟩

end Path

end Uncomment
