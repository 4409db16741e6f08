import Uncomment.Glob.Match

namespace Uncomment

namespace Glob

/-! The regular expression that a glob stands for, as it is written, and how deeply its
parts are nested. -/

inductive Pattern
  | byte (byte : UInt8)
  | anyByte
  | oneOf (negated : Bool) (ranges : List (UInt8 × UInt8))
  | many (part : Pattern)
  | optional (part : Pattern)
  | group (branches : List (List Pattern))

namespace Pattern

def notSeparator : Pattern := .oneOf true [(separator, separator)]

/-! ## Patterns of globs -/

def wild (crosses : Bool) : Pattern := if crosses then .anyByte else notSeparator

mutual
/-- The parts that a part of a glob stands for, in a row. Branches that stand for
nothing are left out of a group. -/
def ofToken (crosses : Bool) : Token → List Pattern
  | .literal char => (Utf8.encode [char]).map .byte
  | .anyByte => [wild crosses]
  | .anyRun => [.many (wild crosses)]
  | .leadingDirs =>
      [.group [[.optional (.byte separator)], [.many .anyByte, .byte separator]]]
  | .innerDirs =>
      [.group [[.byte separator], [.byte separator, .many .anyByte, .byte separator]]]
  | .trailingDirs => [.byte separator, .many .anyByte]
  | .oneOf negated ranges => [.oneOf negated (ranges.flatMap Range.byteRanges)]
  | .group branches =>
      match ofBranches crosses branches with
      | [] => []
      | branches => [.group branches]

def ofTokens (crosses : Bool) : List Token → List Pattern
  | [] => []
  | token :: rest => ofToken crosses token ++ ofTokens crosses rest

def ofBranches (crosses : Bool) : List (List Token) → List (List Pattern)
  | [] => []
  | branch :: rest =>
      let others := ofBranches crosses rest
      match ofTokens crosses branch with
      | [] => others
      | parts => parts :: others
end

/-! ## Depth -/

def rowDepth (count deepest : Nat) : Nat := if 1 < count then deepest + 1 else deepest

mutual
def depth : Pattern → Nat
  | .byte _ | .anyByte => 0
  | .oneOf _ ranges => rowDepth ranges.length 0 + 1
  | .many part | .optional part => part.depth + 1
  | .group branches => rowDepth branches.length (deepestBranch branches) + 1

def deepest : List Pattern → Nat
  | [] => 0
  | part :: rest => max part.depth (deepest rest)

def deepestBranch : List (List Pattern) → Nat
  | [] => 0
  | branch :: rest => max (rowDepth branch.length (deepest branch)) (deepestBranch rest)
end

/-! ## Writing -/

def special : List Char := "\\.+*?()|[]\x7b\x7d^$#&-~".toList

def writeByte (value : UInt8) : Text :=
  let char := Char.ofNat value.toNat
  if 0x80 ≤ value then '\\' :: 'x' :: Nat.toDigits 16 value.toNat
  else if special.contains char then ['\\', char]
  else [char]

def writeRange : UInt8 × UInt8 → Text
  | (low, high) =>
      if low = high then writeByte low else writeByte low ++ '-' :: writeByte high

mutual
def write : Pattern → Text
  | .byte value => writeByte value
  | .anyByte => ['.']
  | .oneOf negated ranges =>
      '[' :: (if negated then ['^'] else []) ++ ranges.flatMap writeRange ++ [']']
  | .many part => part.write ++ ['*']
  | .optional part => part.write ++ ['?']
  | .group branches => "(?:".toList ++ ['|'].intercalate (writeBranches branches) ++ [')']

def writeRow : List Pattern → Text
  | [] => []
  | part :: rest => part.write ++ writeRow rest

def writeBranches : List (List Pattern) → List Text
  | [] => []
  | branch :: rest => writeRow branch :: writeBranches rest
end

end Pattern

def patterns (glob : Glob) (dialect : Dialect) : List Pattern :=
  match glob.tokens with
  | [.leadingDirs] => [.many .anyByte]
  | tokens => Pattern.ofTokens dialect.crosses tokens

def depth (glob : Glob) (dialect : Dialect) : Nat :=
  Pattern.deepest (glob.patterns dialect) + 1

def writePattern (glob : Glob) (dialect : Dialect) : Text :=
  "(?-u)^".toList ++ Pattern.writeRow (glob.patterns dialect) ++ ['$']

example : writePattern ⟨[.leadingDirs, .literal '.', .literal 'é', .anyRun]⟩ ⟨false, true⟩ =
    "(?-u)^(?:/?|.*/)\\.\\xc3\\xa9[^/]*$".toList := by decide +kernel

example : depth ⟨[.leadingDirs, .oneOf false [⟨'a', 'b'⟩, ⟨'x', 'x'⟩]]⟩ ⟨false, true⟩ = 5 := by
  decide +kernel

end Glob

end Uncomment
