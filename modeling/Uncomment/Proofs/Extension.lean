import Uncomment.Program
import Uncomment.Proofs.Path.Case
import Mathlib.Logic.Relation

namespace Uncomment

namespace Extension

/-! A request selects the same files however its extensions are spelled, and however the
paths spell theirs. -/

/-! ## Spellings of a request -/

/-- A way to spell the same request: its values in another order, one of them repeated, in
another case, or with white space around it and dots in front. -/
inductive Respells : List Text → List Text → Prop
  | reorder {values others : List Text} (reordered : values.Perm others) :
      Respells values others
  | duplicate {value : Text} {values : List Text} (member : value ∈ values) :
      Respells values (value :: values)
  | recase {value other : Text} (same : value.map Char.toLower = other.map Char.toLower)
      (front back : List Text) :
      Respells (front ++ value :: back) (front ++ other :: back)
  | pad {value lead trail : Text} (bare : value.trim = value) (leadBlank : lead.allBlank)
      (trailBlank : trail.allBlank) (dots : Nat) (front back : List Text) :
      Respells (front ++ value :: back)
        (front ++ (lead ++ List.replicate dots '.' ++ value ++ trail) :: back)

theorem normalize_eq (value : Text) :
    normalize value = (Text.trim (value.map Char.toLower)).dropWhile (· == '.') := by
  have dots : (fun char => char == '.') ∘ Char.toLower = fun char => char == '.' := by
    funext char
    rw [Function.comp_apply, Bool.eq_iff_iff, beq_iff_eq, beq_iff_eq]
    exact Text.toLower_eq_iff (.inl (by decide))
  rw [Text.trim_map_toLower, List.dropWhile_map, dots, normalize]

theorem normalize_recased {value other : Text}
    (same : value.map Char.toLower = other.map Char.toLower) :
    normalize value = normalize other := by
  rw [normalize_eq, normalize_eq, same]

theorem normalize_padded {value lead trail : Text} (bare : value.trim = value)
    (leadBlank : lead.allBlank) (trailBlank : trail.allBlank) (dots : Nat) :
    normalize (lead ++ List.replicate dots '.' ++ value ++ trail) = normalize value := by
  have dotted : Text.trim (List.replicate dots '.' ++ value) =
      List.replicate dots '.' ++ value := by
    induction dots with
    | zero => exact bare
    | succ dots induction => exact Text.trim_cons rfl induction
  have dropped : (List.replicate dots '.' ++ value).dropWhile (· == '.') =
      value.dropWhile (· == '.') := by
    apply List.dropWhile_append_of_pos
    intro char member
    rw [List.eq_of_mem_replicate member]
    rfl
  rw [normalize, Text.trim_append_blank trailBlank, List.append_assoc,
    Text.trim_blank_append leadBlank, dotted, dropped, normalize, bare]

structure Alike (values others : List Text) : Prop where
  bare : values = [] ↔ others = []
  named : ∀ name, name ∈ values.map normalize ↔ name ∈ others.map normalize

theorem alike_replaced {value other : Text} (same : normalize value = normalize other)
    (front back : List Text) : Alike (front ++ value :: back) (front ++ other :: back) where
  bare := by simp
  named name := by simp only [List.map_append, List.map_cons, same]

theorem alike_of_respells {values others : List Text} (respells : Respells values others) :
    Alike values others := by
  cases respells with
  | reorder reordered =>
      refine ⟨?_, fun name => (reordered.map normalize).mem_iff⟩
      rw [← List.length_eq_zero_iff, reordered.length_eq, List.length_eq_zero_iff]
  | @duplicate value _ member =>
      refine ⟨iff_of_false (List.ne_nil_of_mem member) (List.cons_ne_nil _ _), ?_⟩
      intro name
      rw [List.map_cons, List.mem_cons]
      constructor
      · exact .inr
      · intro named
        rcases named with rfl | named
        · exact List.mem_map_of_mem member
        · exact named
  | recase same front back => exact alike_replaced (normalize_recased same) front back
  | pad bare leadBlank trailBlank dots front back =>
      exact alike_replaced (normalize_padded bare leadBlank trailBlank dots).symm front back

theorem alike_of_eqvGen {values others : List Text}
    (respelled : Relation.EqvGen Respells values others) : Alike values others := by
  induction respelled with
  | rel values others respells => exact alike_of_respells respells
  | refl values => exact ⟨Iff.rfl, fun name => Iff.rfl⟩
  | symm values others _ alike =>
      exact ⟨alike.bare.symm, fun name => (alike.named name).symm⟩
  | trans values middle others _ _ first second =>
      exact ⟨first.bare.trans second.bare,
        fun name => (first.named name).trans (second.named name)⟩

/-! ## What a request selects -/

/-- The extensions that a request selects, and none if it is rejected. -/
def chosen (values : List Text) : List Text := (select? values).getD []

theorem mem_chosen_iff {values : List Text} {name : Text} :
    name ∈ chosen values ↔
      if values = [] then name ∈ defaults
      else name ≠ [] ∧ name ∈ values.map normalize := by
  unfold chosen select?
  cases values with
  | nil => exact Iff.rfl
  | cons value rest =>
      rw [if_neg (List.cons_ne_nil _ _), List.isEmpty_cons, if_neg Bool.false_ne_true]
      have kept : name ∈ ((value :: rest).map normalize).filter (!·.isEmpty) ↔
          name ≠ [] ∧ name ∈ (value :: rest).map normalize := by
        rw [List.mem_filter, Bool.not_eq_true', List.isEmpty_eq_false_iff, and_comm]
      rw [← kept]
      dsimp only
      split
      · rename_i empty
        rw [List.isEmpty_iff.mp empty]
        exact Iff.rfl
      · exact Iff.rfl

theorem select?_eq_none_iff {values : List Text} :
    select? values = none ↔ chosen values = [] := by
  unfold chosen
  cases selected : select? values with
  | none => exact iff_of_true rfl rfl
  | some wanted =>
      refine iff_of_false (Option.some_ne_none _) ?_
      rw [Option.getD_some]
      unfold select? at selected
      split at selected
      · cases selected
        exact List.cons_ne_nil _ _
      · dsimp only at selected
        split at selected
        · cases selected
        · rename_i occupied
          cases selected
          exact mt List.isEmpty_iff.mpr occupied

theorem nil_not_mem_chosen (values : List Text) : [] ∉ chosen values := by
  rw [mem_chosen_iff]
  split
  · decide
  · exact fun named => named.1 rfl

theorem Alike.mem_chosen_iff {values others : List Text} (alike : Alike values others)
    (name : Text) : name ∈ chosen values ↔ name ∈ chosen others := by
  rw [Extension.mem_chosen_iff, Extension.mem_chosen_iff]
  simp only [alike.bare, alike.named]

theorem Alike.select?_eq_none_iff {values others : List Text} (alike : Alike values others) :
    select? values = none ↔ select? others = none := by
  rw [Extension.select?_eq_none_iff, Extension.select?_eq_none_iff,
    List.eq_nil_iff_forall_not_mem, List.eq_nil_iff_forall_not_mem]
  exact forall_congr' fun name => not_congr (alike.mem_chosen_iff name)

theorem request_eq_noExtension_iff (options : Options) :
    options.request = .error .noExtension ↔ select? options.types = none := by
  unfold Options.request
  cases selected : select? options.types with
  | none => exact iff_of_true rfl rfl
  | some wanted =>
      cases Exclusion.compile options.excludes with
      | error error => exact iff_of_false nofun nofun
      | ok globs => exact iff_of_false nofun nofun

theorem extensions_of_request {options : Options} {request : Request}
    (made : options.request = .ok request) :
    request.selection.extensions = chosen options.types := by
  unfold Options.request at made
  split at made
  · cases made
  · cases made
  · rename_i wanted globs selected _
    cases made
    rw [chosen, selected]
    rfl

/-! ## What is accepted -/

theorem accepts_iff {wanted : List Text} {path : Path} :
    accepts wanted path = true ↔
      ∃ text, path.extension? = some (Utf8.encode text) ∧
        text.map Char.toLower ∈ wanted := by
  unfold accepts
  cases found : path.extension? with
  | none => simp
  | some bytes =>
      rw [Option.bind_some]
      cases decoded : Utf8.decode? bytes with
      | none =>
          -- Only bytes that are valid UTF-8 encode a text.
          refine iff_of_false Bool.false_ne_true ?_
          intro accepted
          rcases accepted with ⟨text, equal, _⟩
          rw [Option.some.inj equal, Utf8.decode?_encode] at decoded
          cases decoded
      | some text =>
          dsimp only
          rw [List.contains_iff_mem, ← Utf8.decode?_eq_some_iff.mp decoded]
          constructor
          · intro member
            exact ⟨text, rfl, member⟩
          · intro accepted
            rcases accepted with ⟨other, equal, member⟩
            have decodedSame := congrArg Utf8.decode? (Option.some.inj equal)
            rw [Utf8.decode?_encode, Utf8.decode?_encode] at decodedSame
            rw [Option.some.inj decodedSame]
            exact member

theorem accepts_congr {wanted others : List Text}
    (same : ∀ name, name ∈ wanted ↔ name ∈ others) (path : Path) :
    accepts wanted path = accepts others path := by
  rw [Bool.eq_iff_iff, accepts_iff, accepts_iff]
  exact exists_congr fun text => and_congr_right fun _ => same _

theorem accepts_of_lower_eq {wanted : List Text} {path other : Path}
    (same : path.map Utf8.lower = other.map Utf8.lower)
    (accepted : accepts wanted path = true) : accepts wanted other = true := by
  rcases accepts_iff.mp accepted with ⟨text, found, member⟩
  have cased := Path.extension?_map_lower other
  rw [← same, Path.extension?_map_lower, found, Option.map_some] at cased
  rcases Option.map_eq_some_iff.mp cased.symm with ⟨bytes, otherFound, equal⟩
  rcases Utf8.exists_encode equal with ⟨otherText, rfl, lowered⟩
  refine accepts_iff.mpr ⟨otherText, otherFound, ?_⟩
  rw [lowered]
  exact member

theorem accepts_lower_congr {path other : Path}
    (same : path.map Utf8.lower = other.map Utf8.lower) (wanted : List Text) :
    accepts wanted path = accepts wanted other := by
  rw [Bool.eq_iff_iff]
  exact ⟨accepts_of_lower_eq same, accepts_of_lower_eq same.symm⟩

def Unnamed (path : Path) : Prop :=
  path.extension? = none ∨ path.extension? = some [] ∨
    ∃ bytes, path.extension? = some bytes ∧ ∀ text, Utf8.encode text ≠ bytes

theorem accepts_of_unnamed {path : Path} (unnamed : Unnamed path) (values : List Text) :
    accepts (chosen values) path = false := by
  rw [Bool.eq_false_iff]
  intro accepted
  rcases accepts_iff.mp accepted with ⟨text, found, member⟩
  rcases unnamed with missing | empty | ⟨bytes, given, invalid⟩
  · rw [missing] at found
    cases found
  · rw [empty, Option.some.injEq] at found
    have blank : Utf8.decode? [] = some text := Utf8.decode?_eq_some_iff.mpr found.symm
    have bare : Utf8.decode? [] = some [] := Utf8.decode?_encode []
    rw [bare, Option.some.injEq] at blank
    rw [← blank] at member
    exact nil_not_mem_chosen values member
  · rw [given, Option.some.injEq] at found
    exact invalid text found.symm

theorem chosen_eq_nil_iff {values : List Text} :
    chosen values = [] ↔ values ≠ [] ∧ ∀ value ∈ values, normalize value = [] := by
  rw [List.eq_nil_iff_forall_not_mem]
  simp only [mem_chosen_iff]
  split
  · rename_i bare
    exact iff_of_false (fun none => none ['c'] (by decide)) fun named => named.1 bare
  · rename_i named
    constructor
    · intro none
      refine ⟨named, fun value member => ?_⟩
      by_contra filled
      exact none _ ⟨filled, List.mem_map_of_mem member⟩
    · rintro ⟨_, empty⟩ name ⟨filled, member⟩
      rcases List.mem_map.mp member with ⟨value, given, rfl⟩
      exact filled (empty value given)

/-- A request selects the extensions that its values name without the white space around
them, the dots in front and the case of their letters, and is rejected if all of them
are empty. It makes no difference what the request and the paths spell them like: a request
spelled differently is rejected just like the first one, and accepts the same paths; paths
that differ in case are accepted alike; and no request accepts a path without an extension,
with an empty one, or with one that is not valid UTF-8. -/
theorem selects_alike (values : List Text) :
    let bare (value : Text) : Text := (value.trim.dropWhile (· == '.')).map Char.toLower
    (∀ name, name ∈ chosen values ↔
      if values = [] then name ∈ defaults else name ≠ [] ∧ ∃ value ∈ values, bare value = name) ∧
    (∀ options : Options, options.types = values →
      (options.request = .error .noExtension ↔
        values ≠ [] ∧ ∀ value ∈ values, bare value = []) ∧
      ∀ request : Request, options.request = .ok request →
        request.selection.extensions = chosen values) ∧
    (∀ path, accepts (chosen values) path = true ↔
      ∃ text, path.extension? = some (Utf8.encode text) ∧
        text.map Char.toLower ∈ chosen values) ∧
    (∀ others, Relation.EqvGen Respells values others →
      (∀ options : Options,
        { options with types := values }.request = .error .noExtension ↔
          { options with types := others }.request = .error .noExtension) ∧
      ∀ path, accepts (chosen values) path = accepts (chosen others) path) ∧
    (∀ path other : Path, path.map Utf8.lower = other.map Utf8.lower →
      accepts (chosen values) path = accepts (chosen values) other) ∧
    ∀ path, Unnamed path → accepts (chosen values) path = false := by
  intro bare
  refine ⟨fun name => ?_, ?_, fun path => accepts_iff, ?_,
    fun path other same => accepts_lower_congr same _,
    fun path unnamed => accepts_of_unnamed unnamed values⟩
  · rw [mem_chosen_iff]
    simp only [List.mem_map]
    rfl
  · rintro options rfl
    rw [request_eq_noExtension_iff, select?_eq_none_iff, chosen_eq_nil_iff]
    exact ⟨Iff.rfl, fun request made => extensions_of_request made⟩
  · intro others respelled
    have alike := alike_of_eqvGen respelled
    refine ⟨?_, accepts_congr alike.mem_chosen_iff⟩
    intro options
    rw [request_eq_noExtension_iff, request_eq_noExtension_iff]
    exact alike.select?_eq_none_iff

private def requested : List Text := ["zig", "C"].map String.toList

private def otherwise : List Text := [" ..ZIG\t", "c", "C"].map String.toList

private def upper : Path := Utf8.encode "src/A.ZIG".toList

private def mixed : Path := Utf8.encode "src/a.Zig".toList

private def unfinished : Path := Utf8.encode "src/zig.".toList

theorem selects_alike_otherwise :
    Relation.EqvGen Respells requested otherwise ∧
      upper.map Utf8.lower = mixed.map Utf8.lower ∧ Unnamed unfinished ∧
      "zig".toList ∉ defaults ∧ "zig".toList ∈ chosen otherwise ∧
      accepts (chosen otherwise) upper = true ∧ accepts (chosen requested) upper = true ∧
      accepts (chosen requested) mixed = true ∧
      accepts (chosen requested) unfinished = false := by
  have respelled : Relation.EqvGen Respells requested otherwise := by
    apply Relation.EqvGen.trans _ [['Z', 'I', 'G'], ['C']]
    · exact .rel _ _ (.recase (by decide) [] [['C']])
    apply Relation.EqvGen.trans _ [[' ', '.', '.', 'Z', 'I', 'G', '\t'], ['C']]
    · exact .rel _ _ (@Respells.pad ['Z', 'I', 'G'] [' '] ['\t'] (by decide) (by decide)
        (by decide) 2 [] [['C']])
    apply Relation.EqvGen.trans _ [['C'], [' ', '.', '.', 'Z', 'I', 'G', '\t'], ['C']]
    · exact .rel _ _ (.duplicate (by decide))
    apply Relation.EqvGen.trans _ [['c'], [' ', '.', '.', 'Z', 'I', 'G', '\t'], ['C']]
    · exact .rel _ _ (.recase (by decide) [] _)
    · exact .rel _ _ (.reorder (.swap _ _ _))
  have same : upper.map Utf8.lower = mixed.map Utf8.lower := by decide +kernel
  have unnamed : Unnamed unfinished := .inr (.inl (by decide +kernel))
  rcases selects_alike otherwise with ⟨named, _, accepted, _⟩
  rcases selects_alike requested with ⟨_, _, _, others, cased, never⟩
  have member : "zig".toList ∈ chosen otherwise := by
    refine (named _).mpr ?_
    rw [if_neg (by decide)]
    exact ⟨List.cons_ne_nil _ _, _, List.mem_cons_self, by decide +kernel⟩
  have second : accepts (chosen otherwise) upper = true :=
    (accepted upper).mpr ⟨"ZIG".toList, by decide +kernel, member⟩
  have first : accepts (chosen requested) upper = true := by
    rw [(others otherwise respelled).2, second]
  refine ⟨respelled, same, unnamed, by decide, member, second, first, ?_, never _ unnamed⟩
  rw [← cased upper mixed same, first]

end Extension

end Uncomment
