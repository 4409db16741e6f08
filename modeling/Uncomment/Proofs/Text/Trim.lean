import Uncomment.Text.Blank
import Uncomment.Text.Search
import Mathlib.Data.List.DropRight

namespace Uncomment

namespace Text

/-! What trimming takes away: white space, and only at the ends. -/

def visible (text : Text) : Text := text.filter (!isBlank ·)

@[simp] theorem visible_append (left right : Text) :
    visible (left ++ right) = visible left ++ visible right :=
  List.filter_append left right

@[simp] theorem visible_cons_newline (text : Text) :
    visible (newline :: text) = visible text := rfl

theorem blank_of_mem {text : Text} (blank : allBlank text) :
    ∀ char ∈ text, isBlank char = true :=
  List.all_eq_true.mp blank

theorem blank_parts {front back : Text} (blank : allBlank (front ++ back)) :
    allBlank front ∧ allBlank back := by
  rw [allBlank, List.all_append, Bool.and_eq_true] at blank
  exact blank

theorem blank_cons {char : Char} {rest : Text} (blank : allBlank (char :: rest)) :
    isBlank char = true ∧ allBlank rest :=
  Bool.and_eq_true_iff.mp blank

theorem visible_of_blank {text : Text} (blank : allBlank text) : visible text = [] := by
  apply List.filter_eq_nil_iff.mpr
  intro char member
  simp [blank_of_mem blank char member]

theorem trimTrailing_eq_rdropWhile (drops : Char → Bool) (text : Text) :
    trimTrailing drops text = text.rdropWhile drops := by
  induction text with
  | nil => rfl
  | cons char rest induction =>
      rw [trimTrailing, induction, List.rdropWhile, List.rdropWhile, List.reverse_cons,
        List.dropWhile_append]
      cases kept : rest.reverse.dropWhile drops with
      | nil =>
          cases dropped : drops char <;> simp [dropped]
      | cons last front =>
          rw [List.isEmpty_cons, if_neg Bool.false_ne_true, List.reverse_append]
          cases reversed : (last :: front).reverse with
          | nil => simp at reversed
          | cons _ _ => rfl

theorem trim_eq_rdropWhile (text : Text) :
    trim text = (text.dropWhile isBlank).rdropWhile isBlank := by
  rw [trim, trimTrailing_eq_rdropWhile, trimLeading]

theorem trimTrailing_append_cons {drops : Char → Bool} {char : Char}
    (stays : drops char = false) (front rest : Text) :
    trimTrailing drops (front ++ char :: rest) =
      front ++ char :: trimTrailing drops rest := by
  induction front with
  | nil =>
      rw [List.nil_append, List.nil_append, trimTrailing]
      cases trimTrailing drops rest with
      | nil => simp [stays]
      | cons head tail => rfl
  | cons first front induction =>
      rw [List.cons_append, trimTrailing, induction]
      cases front <;> rfl

/-! ## White space at the ends -/

theorem rdropWhile_append_of_blank {pad : Text} (blank : allBlank pad) (text : Text) :
    (text ++ pad).rdropWhile isBlank = text.rdropWhile isBlank := by
  rw [List.rdropWhile, List.reverse_append, List.dropWhile_append_of_pos, List.rdropWhile]
  intro char member
  exact blank_of_mem blank char (List.mem_reverse.mp member)

theorem trim_blank_append {pad : Text} (blank : allBlank pad) (text : Text) :
    trim (pad ++ text) = trim text := by
  rw [trim_eq_rdropWhile, List.dropWhile_append_of_pos (blank_of_mem blank),
    trim_eq_rdropWhile]

theorem trim_append_blank {pad : Text} (blank : allBlank pad) (text : Text) :
    trim (text ++ pad) = trim text := by
  rw [trim_eq_rdropWhile, trim_eq_rdropWhile, List.dropWhile_append]
  split
  · rename_i empty
    rw [List.dropWhile_eq_nil_iff.mpr (blank_of_mem blank), List.isEmpty_iff.mp empty]
  · exact rdropWhile_append_of_blank blank _

theorem trim_of_blank {text : Text} (blank : allBlank text) : trim text = [] := by
  rw [← List.append_nil text, trim_blank_append blank]
  rfl

theorem trim_cons {char : Char} {text : Text} (visible : isBlank char = false)
    (bare : trim text = text) : trim (char :: text) = char :: text := by
  have trimmed : trimTrailing isBlank text = text := by
    conv_lhs => rw [← bare]
    rw [trimTrailing_eq_rdropWhile, trim_eq_rdropWhile, List.rdropWhile_idempotent,
      ← trim_eq_rdropWhile, bare]
  have starts : trimLeading isBlank (char :: text) = char :: text := by
    rw [trimLeading, List.dropWhile_cons_of_neg (by rw [visible]; exact Bool.false_ne_true)]
  have stops := trimTrailing_append_cons visible [] text
  rw [trimmed] at stops
  rw [trim, starts]
  exact stops

theorem exists_pads (text : Text) :
    ∃ front back, text = front ++ trim text ++ back ∧ allBlank front ∧ allBlank back := by
  refine ⟨text.takeWhile isBlank, (text.dropWhile isBlank).rtakeWhile isBlank, ?_, ?_, ?_⟩
  · rw [trim_eq_rdropWhile, List.append_assoc, List.rdropWhile_append_rtakeWhile,
      List.takeWhile_append_dropWhile]
  · apply List.all_eq_true.mpr
    intro char member
    exact List.mem_takeWhile_imp member
  · apply List.all_eq_true.mpr
    intro char member
    exact List.mem_rtakeWhile_imp member

theorem trim_infix (text : Text) : trim text <:+: text := by
  rcases exists_pads text with ⟨front, back, equal, _⟩
  exact ⟨front, back, equal.symm⟩

@[simp] theorem visible_trim (text : Text) : visible (trim text) = visible text := by
  rcases exists_pads text with ⟨front, back, equal, frontBlank, backBlank⟩
  conv_rhs => rw [equal]
  simp [visible_of_blank frontBlank, visible_of_blank backBlank]

/-! ## The last visible character -/

theorem getLast?_trimTrailing (text : Text) :
    (trimTrailing isBlank text).getLast? = (visible text).getLast? := by
  rw [trimTrailing_eq_rdropWhile]
  induction text using List.reverseRecOn with
  | nil => rfl
  | append_singleton text char induction =>
      rw [visible_append]
      cases blank : isBlank char with
      | false => simp [visible, blank, List.rdropWhile_concat_neg]
      | true => simpa [visible, blank, List.rdropWhile_concat_pos] using induction

theorem getLast?_trim (text : Text) : (trim text).getLast? = (visible text).getLast? := by
  have leading : allBlank (text.takeWhile isBlank) :=
    List.all_eq_true.mpr fun _ member => List.mem_takeWhile_imp member
  rw [trim, getLast?_trimTrailing]
  conv_rhs => rw [← List.takeWhile_append_dropWhile (p := isBlank) (l := text)]
  rw [visible_append, visible_of_blank leading]
  rfl

/-! ## Padding -/

theorem isBlank_of_isPadding {char : Char} (padding : isPadding char) : isBlank char := by
  rcases Bool.or_eq_true_iff.mp padding with equal | equal <;>
    rw [beq_iff_eq.mp equal] <;> rfl

theorem trimPadding_prefix (text : Text) : trimPadding text <+: text := by
  rw [trimPadding, trimTrailing_eq_rdropWhile]
  exact List.rdropWhile_prefix _ _

theorem trimPadding_append_rtakeWhile (text : Text) :
    trimPadding text ++ text.rtakeWhile isPadding = text := by
  rw [trimPadding, trimTrailing_eq_rdropWhile, List.rdropWhile_append_rtakeWhile]

theorem exists_padding (text : Text) :
    ∃ pad, text = trimPadding text ++ pad ∧ allBlank pad := by
  refine ⟨text.rtakeWhile isPadding, (trimPadding_append_rtakeWhile text).symm, ?_⟩
  apply List.all_eq_true.mpr
  intro char member
  exact isBlank_of_isPadding (List.mem_rtakeWhile_imp member)

theorem exists_padding_unbroken (text : Text) :
    ∃ pad, text = trimPadding text ++ pad ∧ newline ∉ pad := by
  refine ⟨text.rtakeWhile isPadding, (trimPadding_append_rtakeWhile text).symm, ?_⟩
  intro broken
  cases List.mem_rtakeWhile_imp broken

end Text

end Uncomment
