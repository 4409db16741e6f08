import Uncomment.Proofs.Json.Reader
import Uncomment.Text.JsonString
import Mathlib.Data.List.Forall2

namespace Uncomment

/-! What the reader makes of written strings, and of arrays and objects put together from
spelled values. -/

theorem Text.intercalate_cons (separator first : Text) (others : List Text) :
    separator.intercalate (first :: others) = first ++ others.flatMap (separator ++ ·) := by
  induction others generalizing first with
  | nil => simp
  | cons second others induction =>
      rw [List.intercalate_cons_cons, induction, List.flatMap_cons, List.append_assoc,
        List.append_assoc]

namespace Json

def Gives {α : Type} {text : Text} (read : Option (Read α text)) (value : α) (rest : Text) :
    Prop :=
  ∃ shorter, read = some ⟨value, rest, shorter⟩

/-! ## Strings -/

theorem hexDigit?_hexDigit (value : Nat) :
    hexDigit? (JsonString.hexDigit value) = some (value % 16) := by
  have digits : ∀ digit < 16, hexDigit? (Nat.digitChar digit) = some digit := by decide
  exact digits (value % 16) (Nat.mod_lt _ (by decide))

theorem gives_codeUnit (value : Nat) (small : value < 0x100) (text : Text) :
    Gives (codeUnit? ('0' :: '0' :: JsonString.hexDigit (value / 16) ::
      JsonString.hexDigit value :: text)) value text := by
  have zero : hexDigit? '0' = some 0 := rfl
  have digits : value / 16 % 16 * 16 + value % 16 = value := by omega
  refine ⟨by simp; omega, ?_⟩
  simp [codeUnit?, zero, hexDigit?_hexDigit, digits]

theorem gives_escape_short {mark char : Char} (short : shortEscape? mark = some char)
    (text : Text) : Gives (escape? (mark :: text)) char text := by
  refine ⟨Nat.lt_succ_self _, ?_⟩
  rw [escape?, short]
  · rfl
  · rintro rfl
    cases short

theorem gives_escape_control {char : Char} (control : char.toNat < 0x20) (text : Text) :
    Gives (escape? ('u' :: '0' :: '0' :: JsonString.hexDigit (char.toNat / 16) ::
      JsonString.hexDigit char.toNat :: text)) char text := by
  rcases gives_codeUnit char.toNat (by omega) text with ⟨shorter, unit⟩
  refine ⟨shorter.trans (Nat.lt_succ_self _), ?_⟩
  have plain : char.toNat < 0xD800 ∨ 0xE000 ≤ char.toNat := Or.inl (by omega)
  simp [escape?, unicode?, unit, plain, Read.map, Read.within]

theorem gives_characters_quote (rest : Text) : Gives (characters? ('"' :: rest)) [] rest :=
  ⟨Nat.lt_succ_self _, by rw [characters?]⟩

theorem gives_characters_escape {text after others rest : Text} {char : Char}
    (escaped : Gives (escape? text) char after)
    (tail : Gives (characters? after) others rest) :
    Gives (characters? ('\\' :: text)) (char :: others) rest := by
  rcases escaped with ⟨escapedShorter, escaped⟩
  rcases tail with ⟨tailShorter, tail⟩
  refine ⟨tailShorter.trans (escapedShorter.trans (Nat.lt_succ_self _)), ?_⟩
  rw [characters?, escaped]
  simp [tail, Read.map, Read.within]

theorem gives_characters_plain {text others rest : Text} {char : Char}
    (unquoted : char ≠ '"') (unescaped : char ≠ '\\') (shown : ¬ char.toNat < 0x20)
    (tail : Gives (characters? text) others rest) :
    Gives (characters? (char :: text)) (char :: others) rest := by
  rcases tail with ⟨shorter, tail⟩
  refine ⟨shorter.trans (Nat.lt_succ_self _), ?_⟩
  rw [characters?, if_neg shown, tail]
  · rfl
  · exact unquoted
  · exact unescaped

theorem writeChar_cases (char : Char) :
    (∃ mark, shortEscape? mark = some char ∧ JsonString.writeChar char = ['\\', mark]) ∨
    (char.toNat < 0x20 ∧ JsonString.writeChar char = ['\\', 'u', '0', '0',
      JsonString.hexDigit (char.toNat / 16), JsonString.hexDigit char.toNat]) ∨
    (char ≠ '"' ∧ char ≠ '\\' ∧ ¬ char.toNat < 0x20 ∧ JsonString.writeChar char = [char]) := by
  fun_cases JsonString.writeChar char with
  | case1 => exact .inl ⟨'"', rfl, rfl⟩
  | case2 => exact .inl ⟨'\\', rfl, rfl⟩
  | case3 => exact .inl ⟨'b', rfl, rfl⟩
  | case4 => exact .inl ⟨'f', rfl, rfl⟩
  | case5 => exact .inl ⟨'n', rfl, rfl⟩
  | case6 => exact .inl ⟨'r', rfl, rfl⟩
  | case7 => exact .inl ⟨'t', rfl, rfl⟩
  | case8 char control => exact .inr (.inl ⟨control, if_pos control⟩)
  | case9 char shown unquoted unescaped =>
      exact .inr (.inr ⟨unquoted, unescaped, shown, if_neg shown⟩)

theorem gives_characters_writeChar (char : Char) {text others rest : Text}
    (tail : Gives (characters? text) others rest) :
    Gives (characters? (JsonString.writeChar char ++ text)) (char :: others) rest := by
  rcases writeChar_cases char with
    ⟨mark, short, written⟩ | ⟨control, written⟩ | ⟨unquoted, unescaped, shown, written⟩
  · rw [written]
    exact gives_characters_escape (gives_escape_short short text) tail
  · rw [written]
    exact gives_characters_escape (gives_escape_control control text) tail
  · rw [written]
    exact gives_characters_plain unquoted unescaped shown tail

theorem gives_characters_write (text rest : Text) :
    Gives (characters? (text.flatMap JsonString.writeChar ++ '"' :: rest)) text rest := by
  induction text with
  | nil => exact gives_characters_quote rest
  | cons char others induction =>
      rw [List.flatMap_cons, List.append_assoc]
      exact gives_characters_writeChar char induction

/-! ## Spelled values -/

theorem skip_space {char : Char} (space : isSpace char = true) (text : Text) :
    skip (char :: text) = skip text :=
  List.dropWhile_cons_of_pos space

def StartsValue (text : Text) : Prop :=
  ∃ char others, text = char :: others ∧ isSpace char = false ∧ char ≠ ']' ∧ char ≠ '\x7d'

namespace StartsValue

theorem append {text : Text} (starts : StartsValue text) (rest : Text) :
    StartsValue (text ++ rest) := by
  rcases starts with ⟨char, others, rfl, opens⟩
  exact ⟨char, others ++ rest, rfl, opens⟩

theorem intercalate {first : Text} (starts : StartsValue first) (separator : Text)
    (others : List Text) : StartsValue (separator.intercalate (first :: others)) := by
  rw [Text.intercalate_cons]
  exact starts.append _

theorem skip_eq {text : Text} (starts : StartsValue text) : skip text = text := by
  rcases starts with ⟨char, others, rfl, ink, _⟩
  exact List.dropWhile_cons_of_neg (by simp [ink])

theorem elements?_eq {text : Text} (starts : StartsValue text) :
    elements? text = someElements? text := by
  rcases starts with ⟨char, others, rfl, _, opens, _⟩
  rw [elements?]
  rintro rest ⟨⟩
  exact opens rfl

theorem members?_eq {text : Text} (starts : StartsValue text) :
    members? text = someMembers? text := by
  rcases starts with ⟨char, others, rfl, _, _, opens⟩
  rw [members?]
  rintro rest ⟨⟩
  exact opens rfl

end StartsValue

/-- The reader comes to the value whatever follows its spelling. -/
structure Spells (spelling : Text) (value : Value) : Prop where
  starts : StartsValue spelling
  reads : ∀ rest, Gives (value? (spelling ++ rest)) value (skip rest)

def SpellsMember (spelling : Text) (member : Text × Value) : Prop :=
  ∃ value, spelling = JsonString.write member.1 ++ ':' :: value ∧ Spells value member.2

theorem spells_string (text : Text) : Spells (JsonString.write text) (.string text) where
  starts := ⟨'"', _, rfl, rfl, by decide, by decide⟩
  reads rest := by
    rcases gives_characters_write text rest with ⟨shorter, characters⟩
    have spelling : JsonString.write text ++ rest =
        '"' :: (text.flatMap JsonString.writeChar ++ '"' :: rest) := by
      simp [JsonString.write]
    rw [spelling, value?, characters]
    exact ⟨_, rfl⟩

theorem spells_true : Spells "true".toList (.bool true) where
  starts := ⟨'t', _, rfl, rfl, by decide, by decide⟩
  reads rest := by
    change Gives (value? ('t' :: 'r' :: 'u' :: 'e' :: rest)) _ _
    rw [value?]
    exact ⟨_, rfl⟩

theorem spells_false : Spells "false".toList (.bool false) where
  starts := ⟨'f', _, rfl, rfl, by decide, by decide⟩
  reads rest := by
    change Gives (value? ('f' :: 'a' :: 'l' :: 's' :: 'e' :: rest)) _ _
    rw [value?]
    exact ⟨_, rfl⟩

/-! ## Arrays -/

theorem gives_someElements_last {text rest : Text} {value : Value}
    (last : Gives (value? text) value (']' :: rest)) :
    Gives (someElements? text) [value] (skip rest) := by
  rcases last with ⟨shorter, last⟩
  rw [someElements?, last]
  exact ⟨_, rfl⟩

theorem gives_someElements_more {text after rest : Text} {value : Value} {values : List Value}
    (first : Gives (value? text) value (',' :: after))
    (others : Gives (someElements? (skip after)) values rest) :
    Gives (someElements? text) (value :: values) rest := by
  rcases first with ⟨firstShorter, first⟩
  rcases others with ⟨othersShorter, others⟩
  rw [someElements?, first]
  simp only [others]
  exact ⟨_, rfl⟩

theorem gives_someElements {spelling : Text} {value : Value} {spellings : List Text}
    {values : List Value} {closing rest : Text} (spells : Spells spelling value)
    (others : List.Forall₂ Spells spellings values) (closes : skip closing = ']' :: rest) :
    Gives (someElements? ([',', '\n'].intercalate (spelling :: spellings) ++ closing))
      (value :: values) (skip rest) := by
  induction others generalizing spelling value with
  | nil =>
      rw [List.intercalate_singleton]
      exact gives_someElements_last (closes ▸ spells.reads closing)
  | @cons next nextValue spellings values nextSpells _ induction =>
      have starts := (nextSpells.starts.intercalate [',', '\n'] spellings).append closing
      -- The reader takes the comma itself, and passes over the line break after it.
      have others : Gives
          (someElements?
            (skip ('\n' :: ([',', '\n'].intercalate (next :: spellings) ++ closing))))
          (nextValue :: values) (skip rest) := by
        rw [skip_space rfl, starts.skip_eq]
        exact induction nextSpells
      rw [List.intercalate_cons_cons, List.append_assoc, List.append_assoc]
      exact gives_someElements_more (spells.reads _) others

theorem gives_elements {spellings : List Text} {values : List Value} {closing rest : Text}
    (spells : List.Forall₂ Spells spellings values) (closes : skip closing = ']' :: rest) :
    Gives (elements? (skip ([',', '\n'].intercalate spellings ++ closing))) values
      (skip rest) := by
  cases spells with
  | nil =>
      rw [List.intercalate_nil, List.nil_append, closes, elements?]
      exact ⟨_, rfl⟩
  | @cons spelling value spellings values first others =>
      have starts := (first.starts.intercalate [',', '\n'] spellings).append closing
      rw [starts.skip_eq, starts.elements?_eq]
      exact gives_someElements first others closes

theorem gives_value_array {text rest : Text} {values : List Value}
    (elements : Gives (elements? (skip text)) values rest) :
    Gives (value? ('[' :: text)) (.array values) rest := by
  rcases elements with ⟨shorter, elements⟩
  rw [value?, elements]
  exact ⟨_, rfl⟩

theorem read?_eq_some {text : Text} {value : Value}
    (gives : Gives (value? (skip text)) value []) : read? text = some value := by
  rcases gives with ⟨shorter, gives⟩
  rw [read?, gives]

theorem read?_array {spellings : List Text} {values : List Value}
    (spells : List.Forall₂ Spells spellings values) :
    read? ('[' :: '\n' :: ([',', '\n'].intercalate spellings ++ ['\n', ']', '\n'])) =
      some (.array values) := by
  have closes : skip ['\n', ']', '\n'] = [']', '\n'] := rfl
  have elements := gives_elements spells closes
  apply read?_eq_some
  apply gives_value_array
  rw [skip_space rfl]
  exact elements

/-! ## Objects -/

theorem skip_named {text name after : Text}
    (named : Gives (characters? text) name (':' :: after)) :
    ∃ shorter, (characters? text).map Read.skip = some ⟨name, ':' :: after, shorter⟩ := by
  rcases named with ⟨shorter, named⟩
  rw [named]
  exact ⟨shorter, rfl⟩

theorem gives_someMembers_last {text name after rest : Text} {value : Value}
    (named : Gives (characters? text) name (':' :: after))
    (last : Gives (value? (skip after)) value ('\x7d' :: rest)) :
    Gives (someMembers? ('"' :: text)) [(name, value)] (skip rest) := by
  rcases skip_named named with ⟨namedShorter, named⟩
  rcases last with ⟨shorter, last⟩
  rw [someMembers?, named]
  simp only [last]
  exact ⟨_, rfl⟩

theorem gives_someMembers_more {text name after next rest : Text} {value : Value}
    {members : List (Text × Value)} (named : Gives (characters? text) name (':' :: after))
    (first : Gives (value? (skip after)) value (',' :: next))
    (others : Gives (someMembers? (skip next)) members rest) :
    Gives (someMembers? ('"' :: text)) ((name, value) :: members) rest := by
  rcases skip_named named with ⟨namedShorter, named⟩
  rcases first with ⟨firstShorter, first⟩
  rcases others with ⟨othersShorter, others⟩
  rw [someMembers?, named]
  simp only [first, others]
  exact ⟨_, rfl⟩

theorem gives_value_object {text rest : Text} {members : List (Text × Value)}
    (read : Gives (members? (skip text)) members rest) :
    Gives (value? ('\x7b' :: text)) (.object members) rest := by
  rcases read with ⟨shorter, read⟩
  rw [value?, read]
  exact ⟨_, rfl⟩

theorem SpellsMember.starts {spelling : Text} {member : Text × Value}
    (spells : SpellsMember spelling member) : StartsValue spelling := by
  rcases spells with ⟨value, rfl, _⟩
  exact (spells_string member.1).starts.append (':' :: value)

theorem SpellsMember.reads {spelling : Text} {member : Text × Value}
    (spells : SpellsMember spelling member) (rest : Text) :
    ∃ text after, spelling ++ rest = '"' :: text ∧
      Gives (characters? text) member.1 (':' :: after) ∧
      Gives (value? (skip after)) member.2 (skip rest) := by
  rcases spells with ⟨value, rfl, spells⟩
  refine ⟨_, value ++ rest, ?_, gives_characters_write member.1 _, ?_⟩
  · simp [JsonString.write]
  · rw [(spells.starts.append rest).skip_eq]
    exact spells.reads rest

theorem gives_someMembers {spelling : Text} {member : Text × Value} {spellings : List Text}
    {members : List (Text × Value)} (spells : SpellsMember spelling member)
    (others : List.Forall₂ SpellsMember spellings members) (rest : Text) :
    Gives (someMembers? ([','].intercalate (spelling :: spellings) ++ '\x7d' :: rest))
      (member :: members) (skip rest) := by
  induction others generalizing spelling member with
  | nil =>
      rcases spells.reads ('\x7d' :: rest) with ⟨text, after, equal, named, last⟩
      rw [List.intercalate_singleton, equal]
      exact gives_someMembers_last named last
  | @cons next nextMember spellings members nextSpells _ induction =>
      have starts := (nextSpells.starts.intercalate [','] spellings).append ('\x7d' :: rest)
      have others := induction nextSpells
      rw [← starts.skip_eq] at others
      rcases spells.reads (',' :: ([','].intercalate (next :: spellings) ++ '\x7d' :: rest))
        with ⟨text, after, equal, named, first⟩
      rw [List.intercalate_cons_cons, List.append_assoc, List.append_assoc,
        List.singleton_append, equal]
      exact gives_someMembers_more named first others

theorem spells_object {spelling : Text} {member : Text × Value} {spellings : List Text}
    {members : List (Text × Value)} (spells : SpellsMember spelling member)
    (others : List.Forall₂ SpellsMember spellings members) :
    Spells ('\x7b' :: [','].intercalate (spelling :: spellings) ++ ['\x7d'])
      (.object (member :: members)) where
  starts := ⟨'\x7b', _, rfl, rfl, by decide, by decide⟩
  reads rest := by
    have starts := (spells.starts.intercalate [','] spellings).append ('\x7d' :: rest)
    have read := gives_someMembers spells others rest
    rw [← starts.members?_eq] at read
    rw [List.cons_append, List.cons_append, List.append_assoc, List.singleton_append]
    apply gives_value_object
    rw [starts.skip_eq]
    exact read

end Json

end Uncomment
