import Uncomment.Text.Utf8
import Mathlib.Algebra.Group.Nat.Defs
import Mathlib.Data.List.Infix
import Mathlib.Tactic.SplitIfs

namespace Uncomment

namespace Utf8

/-! Decoding is exact: it gives a character for the bytes that encode it and for no others,
and an ASCII byte stands for itself wherever it is, also right behind bytes that are not
valid. -/

/-! ## Bytes as numbers -/

theorem eq_ofNat_of_toNat_eq {byte : UInt8} {value : Nat} (equal : byte.toNat = value) :
    byte = UInt8.ofNat value := by
  rw [← equal, UInt8.ofNat_toNat]

theorem toNat_ofNat_of_lt {value : Nat} (small : value < 256) :
    (UInt8.ofNat value).toNat = value := by
  rw [UInt8.toNat_ofNat']
  exact Nat.mod_eq_of_lt small

/-! ## The bytes after the first -/

def trail : Nat → Nat → Bytes
  | 0, _ => []
  | more + 1, value => UInt8.ofNat (value / 64 ^ more % 64 + 0x80) :: trail more value

theorem continues_iff {byte : UInt8} :
    (0x80 ≤ byte && byte ≤ 0xBF) = true ↔ 0x80 ≤ byte.toNat ∧ byte.toNat ≤ 0xBF := by
  rw [Bool.and_eq_true, decide_eq_true_iff, decide_eq_true_iff, UInt8.le_iff_toNat_le,
    UInt8.le_iff_toNat_le]
  rfl

theorem continues_trail (value : Nat) :
    (0x80 ≤ UInt8.ofNat (value % 64 + 0x80) && UInt8.ofNat (value % 64 + 0x80) ≤ 0xBF) =
      true := by
  rw [continues_iff, toNat_ofNat_of_lt (by omega)]
  omega

theorem finish_trail {payload more value : Nat} (announced : value / 64 ^ more = payload)
    (rest : Bytes) :
    finish payload more (trail more value ++ rest) = (some (Char.ofNat value), rest) := by
  induction more generalizing payload with
  | zero =>
      rw [Nat.pow_zero, Nat.div_one] at announced
      rw [trail, List.nil_append, finish, announced]
  | succ more induction =>
      have extended : extend payload (UInt8.ofNat (value / 64 ^ more % 64 + 0x80)) =
          value / 64 ^ more := by
        rw [Nat.pow_succ, ← Nat.div_div_eq_div_mul] at announced
        rw [extend, toNat_ofNat_of_lt (by omega)]
        omega
      rw [trail, List.cons_append, finish, if_pos (continues_trail _), extended,
        induction rfl]

theorem exists_trail {payload more : Nat} {bytes rest : Bytes} {char : Char}
    (read : finish payload more bytes = (some char, rest)) :
    ∃ value, value / 64 ^ more = payload ∧ char = Char.ofNat value ∧
      bytes = trail more value ++ rest := by
  induction more generalizing payload bytes with
  | zero =>
      rw [finish, Prod.mk.injEq, Option.some.injEq] at read
      exact ⟨payload, by simp, read.1.symm, read.2⟩
  | succ more induction =>
      cases bytes with
      | nil => cases read
      | cons byte bytes =>
          rw [finish] at read
          split at read
          · rename_i continues
            rcases induction read with ⟨value, announced, equal, tail⟩
            have range := continues_iff.mp continues
            rw [extend] at announced
            refine ⟨value, ?_, equal, ?_⟩
            · rw [Nat.pow_succ, ← Nat.div_div_eq_div_mul]
              omega
            · rw [trail, List.cons_append, ← tail]
              congr 1
              apply eq_ofNat_of_toNat_eq
              omega
          · cases read

/-! ## The first two bytes -/

/-- A first byte announces a number of bytes after the second, and with the second byte
it gives the leading bits of a code point that takes no fewer bytes. -/
def Announces (first : UInt8) (code : Nat) : Nat → Prop
  | 0 => first.toNat = code / 64 + 0xC0 ∧ 0x80 ≤ code ∧ code < 0x800
  | 1 => first.toNat = code / 64 + 0xE0 ∧ 0x20 ≤ code ∧ code < 0x400 ∧
      ¬ (0x360 ≤ code ∧ code < 0x380)
  | 2 => first.toNat = code / 64 + 0xF0 ∧ 0x10 ≤ code ∧ code < 0x110
  | _ => False

theorem Lead.of?_eq (first : UInt8) :
    Lead.of? first =
      if first.toNat < 0xC2 then none
      else if first.toNat < 0xE0 then some ⟨first.toNat - 0xC0, 0x80, 0xBF, 0⟩
      else if first.toNat = 0xE0 then some ⟨0, 0xA0, 0xBF, 1⟩
      else if first.toNat = 0xED then some ⟨0xD, 0x80, 0x9F, 1⟩
      else if first.toNat < 0xF0 then some ⟨first.toNat - 0xE0, 0x80, 0xBF, 1⟩
      else if first.toNat = 0xF0 then some ⟨0, 0x90, 0xBF, 2⟩
      else if first.toNat < 0xF4 then some ⟨first.toNat - 0xF0, 0x80, 0xBF, 2⟩
      else if first.toNat = 0xF4 then some ⟨4, 0x80, 0x8F, 2⟩
      else none := by
  unfold Lead.of?
  simp only [UInt8.lt_iff_toNat_lt, beq_iff_eq, ← UInt8.toNat_inj, UInt8.reduceToNat]

theorem Lead.announces {first second : UInt8} {lead : Lead}
    (leads : Lead.of? first = some lead) (low : lead.low ≤ second)
    (high : second ≤ lead.high) :
    second.toNat = extend lead.payload second % 64 + 0x80 ∧
      Announces first (extend lead.payload second) lead.more := by
  rw [UInt8.le_iff_toNat_le] at low high
  rw [Lead.of?_eq] at leads
  split_ifs at leads
  all_goals
    rw [← Option.some.inj leads] at low high ⊢
    simp only [UInt8.reduceToNat] at low high
    simp only [Announces, extend]
    omega

theorem Lead.low_wide {first : UInt8} {lead : Lead} (leads : Lead.of? first = some lead) :
    0x80 ≤ lead.low := by
  rw [Lead.of?_eq] at leads
  split_ifs at leads
  all_goals
    rw [← Option.some.inj leads]
    simp

theorem Lead.exists_of_announces {first : UInt8} {code more : Nat}
    (announces : Announces first code more) :
    ∃ lead, Lead.of? first = some lead ∧
      lead.low ≤ UInt8.ofNat (code % 64 + 0x80) ∧
      UInt8.ofNat (code % 64 + 0x80) ≤ lead.high ∧
      extend lead.payload (UInt8.ofNat (code % 64 + 0x80)) = code ∧ lead.more = more := by
  have size : (UInt8.ofNat (code % 64 + 0x80)).toNat = code % 64 + 0x80 :=
    toNat_ofNat_of_lt (by omega)
  simp only [UInt8.le_iff_toNat_le, extend, size, Lead.of?_eq]
  -- Any other branch of the table goes against the first byte.
  match more, announces with
  | 0, announces =>
      rcases announces with ⟨equal, least, bound⟩
      rw [if_neg (by omega), if_pos (by omega)]
      refine ⟨_, rfl, ?_, ?_, ?_, rfl⟩ <;> simp only [UInt8.reduceToNat] <;> omega
  | 1, announces =>
      rcases announces with ⟨equal, least, bound, scalar⟩
      rw [if_neg (by omega), if_neg (by omega)]
      split_ifs
      iterate 3
        · refine ⟨_, rfl, ?_, ?_, ?_, rfl⟩ <;> simp only [UInt8.reduceToNat] <;> omega
      all_goals omega
  | 2, announces =>
      rcases announces with ⟨equal, least, bound⟩
      rw [if_neg (by omega), if_neg (by omega), if_neg (by omega), if_neg (by omega),
        if_neg (by omega)]
      split_ifs
      iterate 3
        · refine ⟨_, rfl, ?_, ?_, ?_, rfl⟩ <;> simp only [UInt8.reduceToNat] <;> omega
      omega

/-! ## One character -/

theorem utf8EncodeChar_ascii {char : Char} (ascii : char.toNat < 0x80) :
    String.utf8EncodeChar char = [UInt8.ofNat char.toNat] := by
  rw [String.utf8EncodeChar]
  exact if_pos (Nat.le_of_lt_succ ascii)

theorem utf8EncodeChar_of_announces {char : Char} {first : UInt8} {more : Nat}
    (announces : Announces first (char.toNat / 64 ^ more) more) :
    String.utf8EncodeChar char = first :: trail (more + 1) char.toNat := by
  simp only [String.utf8EncodeChar, Char.toNat_val]
  match more, announces with
  | 0, announces =>
      rcases announces with ⟨equal, least, bound⟩
      rw [Nat.pow_zero, Nat.div_one] at equal least bound
      rw [if_neg (by omega), if_pos (by omega), eq_ofNat_of_toNat_eq equal]
      rw [Nat.mod_eq_of_lt (by omega), trail, trail, Nat.pow_zero, Nat.div_one]
  | 1, announces =>
      rcases announces with ⟨equal, least, bound, scalar⟩
      rw [if_neg (by omega), if_neg (by omega), if_pos (by omega),
        eq_ofNat_of_toNat_eq equal, Nat.mod_eq_of_lt (by omega), Nat.pow_one,
        Nat.div_div_eq_div_mul]
      simp [trail]
  | 2, announces =>
      rcases announces with ⟨equal, least, bound⟩
      rw [if_neg (by omega), if_neg (by omega), if_neg (by omega),
        eq_ofNat_of_toNat_eq equal, Nat.mod_eq_of_lt (by omega), Nat.div_div_eq_div_mul]
      simp [trail]

theorem exists_announces {char : Char} (wide : 0x80 ≤ char.toNat) :
    ∃ first more, Announces first (char.toNat / 64 ^ more) more := by
  have valid : char.toNat < 0xD800 ∨ 0xDFFF < char.toNat ∧ char.toNat < 0x110000 :=
    char.valid
  by_cases two : char.toNat < 0x800
  · refine ⟨UInt8.ofNat (char.toNat / 64 + 0xC0), 0, ?_, ?_, ?_⟩
    · rw [toNat_ofNat_of_lt (by omega), Nat.pow_zero, Nat.div_one]
    all_goals omega
  by_cases three : char.toNat < 0x10000
  · refine ⟨UInt8.ofNat (char.toNat / 4096 + 0xE0), 1, ?_, ?_, ?_, ?_⟩
    · rw [toNat_ofNat_of_lt (by omega)]
      omega
    all_goals omega
  · refine ⟨UInt8.ofNat (char.toNat / 262144 + 0xF0), 2, ?_, ?_, ?_⟩
    · rw [toNat_ofNat_of_lt (by omega)]
      omega
    all_goals omega

theorem toNat_of_announces {first : UInt8} {more value : Nat}
    (announces : Announces first (value / 64 ^ more) more) :
    (Char.ofNat value).toNat = value := by
  have valid : value < 0xD800 ∨ 0xDFFF < value ∧ value < 0x110000 := by
    match more, announces with
    | 0, announces =>
        rcases announces with ⟨equal, least, bound⟩
        omega
    | 1, announces =>
        rcases announces with ⟨equal, least, bound, scalar⟩
        omega
    | 2, announces =>
        rcases announces with ⟨equal, least, bound⟩
        omega
  rw [Char.ofNat, dif_pos valid]
  rfl

theorem toNat_of_ascii {byte : UInt8} (ascii : byte < 0x80) :
    (Char.ofNat byte.toNat).toNat = byte.toNat := by
  have small := UInt8.lt_iff_toNat_lt.mp ascii
  rw [Char.ofNat, dif_pos (.inl (small.trans (by decide)))]
  rfl

theorem next_ascii {first : UInt8} (ascii : first < 0x80) (rest : Bytes) :
    next first rest = (some (Char.ofNat first.toNat), rest) := by
  unfold next
  exact if_pos ascii

theorem wide_of_announces {first : UInt8} {more value : Nat}
    (announces : Announces first (value / 64 ^ more) more) : 0x80 ≤ value := by
  match more, announces with
  | 0, announces | 1, announces | 2, announces =>
      have least := announces.2.1
      omega

theorem not_ascii_of_announces {first : UInt8} {code more : Nat}
    (announces : Announces first code more) : ¬ first < 0x80 := by
  rw [UInt8.lt_iff_toNat_lt]
  change ¬ first.toNat < 0x80
  match more, announces with
  | 0, announces | 1, announces | 2, announces =>
      have size := announces.1
      omega

theorem next_announced {first : UInt8} {more value : Nat}
    (announces : Announces first (value / 64 ^ more) more) (rest : Bytes) :
    next first (trail (more + 1) value ++ rest) = (some (Char.ofNat value), rest) := by
  rcases Lead.exists_of_announces announces with
    ⟨lead, leads, low, high, extended, rfl⟩
  have within : (lead.low ≤ UInt8.ofNat (value / 64 ^ lead.more % 64 + 0x80) &&
      UInt8.ofNat (value / 64 ^ lead.more % 64 + 0x80) ≤ lead.high) = true := by
    simp only [low, high, decide_true, Bool.and_self]
  rw [trail, List.cons_append]
  unfold next
  simp only [if_neg (not_ascii_of_announces announces), leads, if_pos within, extended]
  exact finish_trail rfl rest

theorem exists_of_next {first : UInt8} {rest left : Bytes} {char : Char}
    (read : next first rest = (some char, left)) :
    (first < 0x80 ∧ char = Char.ofNat first.toNat ∧ rest = left) ∨
      ∃ more value, Announces first (value / 64 ^ more) more ∧
        char = Char.ofNat value ∧ rest = trail (more + 1) value ++ left := by
  unfold next at read
  split at read
  · rename_i ascii
    rw [Prod.mk.injEq, Option.some.injEq] at read
    exact .inl ⟨ascii, read.1.symm, read.2⟩
  · split at read
    · rename_i lead second others leads
      split at read
      · rename_i within
        rw [Bool.and_eq_true, decide_eq_true_iff, decide_eq_true_iff] at within
        rcases Lead.announces leads within.1 within.2 with ⟨size, announces⟩
        rcases exists_trail read with ⟨value, announced, equal, tail⟩
        rw [← announced] at size announces
        refine .inr ⟨lead.more, value, announces, equal, ?_⟩
        rw [trail, List.cons_append, ← tail, ← eq_ofNat_of_toNat_eq size]
      · cases read
    · cases read

/-- A character is read just off the bytes that encode it. -/
theorem next_eq_some_iff {first : UInt8} {rest left : Bytes} {char : Char} :
    next first rest = (some char, left) ↔
      first :: rest = String.utf8EncodeChar char ++ left := by
  constructor
  · intro read
    rcases exists_of_next read with ⟨ascii, rfl, rfl⟩ | ⟨more, value, announces, rfl, rfl⟩
    · have size := toNat_of_ascii ascii
      rw [utf8EncodeChar_ascii (by rwa [size]), size, UInt8.ofNat_toNat]
      rfl
    · have size := toNat_of_announces announces
      rw [← size] at announces
      rw [utf8EncodeChar_of_announces announces, size, List.cons_append]
  · intro encoded
    by_cases ascii : char.toNat < 0x80
    · rw [utf8EncodeChar_ascii ascii, List.singleton_append, List.cons.injEq] at encoded
      rcases encoded with ⟨rfl, rfl⟩
      have size : (UInt8.ofNat char.toNat).toNat = char.toNat :=
        toNat_ofNat_of_lt (by omega)
      have narrow : UInt8.ofNat char.toNat < 0x80 := by
        rw [UInt8.lt_iff_toNat_lt, size]
        exact ascii
      rw [next_ascii narrow, size, Char.ofNat_toNat]
    · rcases exists_announces (Nat.le_of_not_lt ascii) with ⟨lead, more, announces⟩
      rw [utf8EncodeChar_of_announces announces, List.cons_append, List.cons.injEq]
        at encoded
      rcases encoded with ⟨rfl, rfl⟩
      rw [next_announced announces, Char.ofNat_toNat]

/-! ## Whole texts -/

theorem decode_cons (first : UInt8) (rest : Bytes) :
    decode (first :: rest) = (next first rest).1 :: decode (next first rest).2 := by
  rw [decode]

theorem decode_eq_map_some_iff {bytes : Bytes} {text : Text} :
    decode bytes = text.map some ↔ encode text = bytes := by
  induction text generalizing bytes with
  | nil =>
      cases bytes with
      | nil => simp [decode, encode]
      | cons first rest => simp [decode_cons, encode]
  | cons char text induction =>
      cases bytes with
      | nil =>
          have occupied := String.utf8EncodeChar_ne_nil (c := char)
          simp [decode, encode, occupied]
      | cons first rest =>
          rw [decode_cons, List.map_cons, List.cons.injEq, induction]
          change _ ↔ String.utf8EncodeChar char ++ encode text = first :: rest
          constructor
          · intro parts
            rw [parts.2]
            exact (next_eq_some_iff.mp (Prod.ext parts.1 rfl)).symm
          · intro encoded
            rw [next_eq_some_iff.mpr encoded.symm]
            exact ⟨rfl, rfl⟩

/-- Bytes are valid UTF-8 just if they encode a text, and then they are decoded to that
text. -/
theorem decode?_eq_some_iff {bytes : Bytes} {text : Text} :
    decode? bytes = some text ↔ encode text = bytes := by
  rw [← decode_eq_map_some_iff, decode?]
  generalize decode bytes = chars
  induction chars generalizing text with
  | nil => cases text <;> simp
  | cons char chars induction =>
      cases text with
      | nil => cases char <;> simp [List.mapM_cons, Option.bind_eq_some_iff]
      | cons first text =>
          cases char with
          | none => simp [List.mapM_cons]
          | some char =>
              simp [List.mapM_cons, ← induction, Option.bind_eq_some_iff, and_comm]

theorem decode?_encode (text : Text) : decode? (encode text) = some text :=
  decode?_eq_some_iff.mpr rfl

@[simp] theorem decodeLossy_encode (text : Text) : decodeLossy (encode text) = text := by
  rw [decodeLossy, decode_eq_map_some_iff.mpr rfl, List.map_map]
  exact List.map_id text

@[simp] theorem decodeLossy_nil : decodeLossy [] = [] := by
  simp [decodeLossy, decode]

@[simp] theorem decodeLossy_eq_nil_iff {bytes : Bytes} :
    decodeLossy bytes = [] ↔ bytes = [] := by
  cases bytes with
  | nil => simp
  | cons first rest => simp [decodeLossy, decode_cons]

/-! ## Bytes and offsets -/

theorem length_encode (text : Text) : (encode text).length = text.size := by
  induction text with
  | nil => rfl
  | cons char text induction =>
      change (String.utf8EncodeChar char ++ encode text).length = _
      rw [List.length_append, String.length_utf8EncodeChar, induction, Text.size_cons]

theorem getElem?_encode_append (left right : Text) :
    (encode (left ++ right))[left.size]? = (encode right).head? := by
  rw [encode, List.flatMap_append, ← length_encode]
  change (encode left ++ encode right)[(encode left).length]? = _
  rw [List.getElem?_append_right (Nat.le_refl _), Nat.sub_self, List.head?_eq_getElem?]

theorem head?_encode_eq_some_iff {byte : UInt8} (ascii : byte < 0x80) {text : Text} :
    (encode text).head? = some byte ↔ text.head? = some (Char.ofNat byte.toNat) := by
  cases text with
  | nil => simp [encode]
  | cons char rest =>
      change (String.utf8EncodeChar char ++ encode rest).head? = _ ↔ _
      rw [List.head?_cons, Option.some.injEq]
      constructor
      · intro starts
        rcases List.head?_eq_some_iff.mp starts with ⟨bytes, encoded⟩
        have read := next_eq_some_iff.mpr encoded.symm
        rw [next_ascii ascii, Prod.mk.injEq, Option.some.injEq] at read
        exact read.1.symm
      · rintro rfl
        have size := toNat_of_ascii ascii
        rw [utf8EncodeChar_ascii (by rwa [size]), size, UInt8.ofNat_toNat]
        rfl

/-! ## Cuts at ASCII bytes -/

section

variable {byte : UInt8} (ascii : byte < 0x80)

include ascii

theorem finish_append (payload more : Nat) (left right : Bytes) :
    finish payload more (left ++ byte :: right) =
      ((finish payload more left).1, (finish payload more left).2 ++ byte :: right) := by
  have stops : (0x80 ≤ byte && byte ≤ 0xBF) = false := by
    rw [Bool.and_eq_false_iff, decide_eq_false_iff_not]
    exact .inl (UInt8.not_le.mpr ascii)
  induction more generalizing payload left with
  | zero => rfl
  | succ more induction =>
      cases left with
      | nil => simp [finish, stops]
      | cons first left =>
          rw [List.cons_append, finish, finish]
          split
          · exact induction _ left
          · rfl

/-- What is read of a character does not reach an ASCII byte further on. -/
theorem next_append (first : UInt8) (left right : Bytes) :
    next first (left ++ byte :: right) =
      ((next first left).1, (next first left).2 ++ byte :: right) := by
  unfold next
  split
  · rfl
  · cases leads : Lead.of? first with
    | none => rfl
    | some lead =>
        cases left with
        | nil =>
            -- The second byte of a sequence is no ASCII byte.
            have low := Lead.low_wide leads
            have out : (lead.low ≤ byte && byte ≤ lead.high) = false := by
              rw [Bool.and_eq_false_iff, decide_eq_false_iff_not]
              exact .inl (UInt8.not_le.mpr (UInt8.lt_of_lt_of_le ascii low))
            simp [out]
        | cons second left =>
            simp only [List.cons_append]
            split
            · exact finish_append ascii _ _ left right
            · rfl

theorem decode_append (left right : Bytes) :
    decode (left ++ byte :: right) =
      decode left ++ some (Char.ofNat byte.toNat) :: decode right := by
  induction left using decode.induct with
  | case1 => rw [List.nil_append, decode_cons, next_ascii ascii, decode, List.nil_append]
  | case2 first left induction =>
      rw [List.cons_append, decode_cons, next_append ascii, induction, decode_cons]
      rfl

/-- An ASCII byte cuts the bytes where its character cuts the text. -/
theorem decodeLossy_append (left right : Bytes) :
    decodeLossy (left ++ byte :: right) =
      decodeLossy left ++ Char.ofNat byte.toNat :: decodeLossy right := by
  simp [decodeLossy, decode_append ascii]

theorem decodeLossy_cons (rest : Bytes) :
    decodeLossy (byte :: rest) = Char.ofNat byte.toNat :: decodeLossy rest := by
  have cut := decodeLossy_append ascii [] rest
  rwa [decodeLossy_nil] at cut

end

theorem finish_suffix (payload more : Nat) (bytes : Bytes) :
    (finish payload more bytes).2 <:+ bytes := by
  induction more generalizing payload bytes with
  | zero => exact List.suffix_rfl
  | succ more induction =>
      cases bytes with
      | nil => exact List.suffix_rfl
      | cons byte rest =>
          rw [finish]
          split
          · exact (induction _ rest).trans (List.suffix_cons _ _)
          · exact List.suffix_rfl

theorem next_suffix (first : UInt8) (rest : Bytes) : (next first rest).2 <:+ rest := by
  unfold next
  split
  · exact List.suffix_rfl
  · split
    · split
      · exact (finish_suffix _ _ _).trans (List.suffix_cons _ _)
      · exact List.suffix_rfl
    · exact List.suffix_rfl

theorem eq_of_next {first byte : UInt8} {rest : Bytes} (ascii : byte < 0x80)
    (read : (next first rest).1.getD '\uFFFD' = Char.ofNat byte.toNat) :
    first = byte ∧ (next first rest).2 = rest := by
  have size := toNat_of_ascii ascii
  have small := UInt8.lt_iff_toNat_lt.mp ascii
  change byte.toNat < 0x80 at small
  rw [← read] at size
  cases found : next first rest with
  | mk char left =>
      rw [found] at size
      cases char with
      | none =>
          change 0xFFFD = byte.toNat at size
          omega
      | some char =>
          change char.toNat = byte.toNat at size
          rcases exists_of_next found with
            ⟨narrow, rfl, rfl⟩ | ⟨more, value, announces, rfl, rfl⟩
          · rw [toNat_of_ascii narrow] at size
            exact ⟨UInt8.toNat_inj.mp size, rfl⟩
          · have wide := wide_of_announces announces
            rw [toNat_of_announces announces] at size
            omega

theorem exists_of_decodeLossy_eq_append {byte : UInt8} (ascii : byte < 0x80) {bytes : Bytes}
    {left right : Text}
    (cut : decodeLossy bytes = left ++ Char.ofNat byte.toNat :: right) :
    ∃ front back, bytes = front ++ byte :: back ∧ decodeLossy front = left ∧
      decodeLossy back = right := by
  -- What comes behind the byte is found along the text; what comes before it is then left.
  have behind : ∃ front back, bytes = front ++ byte :: back ∧ decodeLossy back = right := by
    induction bytes using decode.induct generalizing left with
    | case1 => simp [decodeLossy, decode] at cut
    | case2 first rest induction =>
        rw [decodeLossy, decode_cons, List.map_cons] at cut
        cases left with
        | nil =>
            rcases List.cons.inj cut with ⟨head, tail⟩
            rcases eq_of_next ascii head with ⟨rfl, same⟩
            rw [same] at tail
            exact ⟨[], rest, rfl, tail⟩
        | cons char left =>
            rcases induction (List.cons.inj cut).2 with ⟨front, back, equal, decoded⟩
            rcases next_suffix first rest with ⟨taken, whole⟩
            refine ⟨first :: (taken ++ front), back, ?_, decoded⟩
            rw [← whole, equal]
            simp
  rcases behind with ⟨front, back, rfl, decoded⟩
  rw [decodeLossy_append ascii, decoded] at cut
  exact ⟨front, back, rfl, List.append_cancel_right cut, decoded⟩

/-! ## ASCII patterns -/

section

variable {pattern : Bytes} (ascii : ∀ byte ∈ pattern, byte < 0x80)

include ascii

theorem decodeLossy_pattern_append (rest : Bytes) :
    decodeLossy (pattern ++ rest) = decodeLossy pattern ++ decodeLossy rest := by
  induction pattern with
  | nil => rw [decodeLossy_nil, List.nil_append, List.nil_append]
  | cons byte pattern induction =>
      rcases List.forall_mem_cons.mp ascii with ⟨here, later⟩
      rw [List.cons_append, decodeLossy_cons here, decodeLossy_cons here, induction later,
        List.cons_append]

theorem exists_of_decodeLossy_eq_pattern {bytes : Bytes} {right : Text}
    (starts : decodeLossy bytes = decodeLossy pattern ++ right) :
    ∃ back, bytes = pattern ++ back ∧ decodeLossy back = right := by
  induction pattern generalizing bytes with
  | nil =>
      rw [decodeLossy_nil] at starts
      exact ⟨bytes, rfl, starts⟩
  | cons byte pattern induction =>
      rcases List.forall_mem_cons.mp ascii with ⟨here, later⟩
      rw [decodeLossy_cons here] at starts
      change _ = [] ++ Char.ofNat byte.toNat :: (decodeLossy pattern ++ right) at starts
      rcases exists_of_decodeLossy_eq_append here starts with ⟨front, back, rfl, none, tail⟩
      rcases induction later tail with ⟨back, rfl, decoded⟩
      rw [decodeLossy_eq_nil_iff.mp none]
      exact ⟨back, rfl, decoded⟩

variable (nonempty : pattern ≠ [])

include nonempty

theorem decodeLossy_append_pattern (left right : Bytes) :
    decodeLossy (left ++ (pattern ++ right)) =
      decodeLossy left ++ (decodeLossy pattern ++ decodeLossy right) := by
  rw [← decodeLossy_pattern_append ascii]
  rcases List.exists_cons_of_ne_nil nonempty with ⟨byte, rest, rfl⟩
  have here := ascii byte List.mem_cons_self
  rw [List.cons_append, decodeLossy_append here, decodeLossy_cons here]

theorem exists_of_decodeLossy_eq_append_pattern {bytes : Bytes} {left right : Text}
    (cut : decodeLossy bytes = left ++ (decodeLossy pattern ++ right)) :
    ∃ front back, bytes = front ++ (pattern ++ back) ∧ decodeLossy front = left ∧
      decodeLossy back = right := by
  rcases List.exists_cons_of_ne_nil nonempty with ⟨byte, rest, rfl⟩
  rcases List.forall_mem_cons.mp ascii with ⟨here, later⟩
  rw [decodeLossy_cons here, List.cons_append] at cut
  rcases exists_of_decodeLossy_eq_append here cut with ⟨front, back, rfl, before, after⟩
  rcases exists_of_decodeLossy_eq_pattern later after with ⟨back, rfl, behind⟩
  exact ⟨front, back, rfl, before, behind⟩

/-- An ASCII pattern occurs in the bytes just if it occurs in the text. -/
theorem infix_decodeLossy_iff {bytes : Bytes} :
    decodeLossy pattern <:+: decodeLossy bytes ↔ pattern <:+: bytes := by
  constructor
  · intro occurs
    rcases occurs with ⟨left, right, cut⟩
    rw [List.append_assoc] at cut
    rcases exists_of_decodeLossy_eq_append_pattern ascii nonempty cut.symm with
      ⟨front, back, rfl, _, _⟩
    exact ⟨front, back, List.append_assoc _ _ _⟩
  · intro occurs
    rcases occurs with ⟨front, back, rfl⟩
    rw [List.append_assoc, decodeLossy_append_pattern ascii nonempty]
    exact ⟨_, _, List.append_assoc _ _ _⟩

end

end Utf8

end Uncomment
