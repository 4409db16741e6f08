import Uncomment.Glob.Basic
import Uncomment.Text.Utf8

namespace Uncomment

namespace Glob

/-! Matching works on bytes, so `?` stands for one byte and a class for the bytes of
its members. A part of a glob is matched at the start of some bytes, and the rests
that it can leave behind are collected. -/

def separator : UInt8 := 0x2F

/-- The ranges of bytes that a range of characters stands for: the bytes that spell its
two ends, where the last byte of the first end and the first byte of the second one span
a range. -/
def Range.byteRanges (range : Range) : List (UInt8 × UInt8) :=
  let low := Utf8.encode [range.low]
  let high := Utf8.encode [range.high]
  let single (byte : UInt8) := (byte, byte)
  if range.low = range.high then
    low.map single
  else
    low.dropLast.map single ++ low.getLast?.toList.zip (high.take 1) ++
      high.tail.map single

def Range.holds (range : Range) (byte : UInt8) : Bool :=
  range.byteRanges.any fun (low, high) => low ≤ byte && byte ≤ high

def afterRuns (allowed : UInt8 → Bool) : Bytes → List Bytes
  | [] => [[]]
  | byte :: rest =>
      (byte :: rest) :: if allowed byte then afterRuns allowed rest else []

def afterSeparators : Bytes → List Bytes
  | [] => []
  | byte :: rest =>
      if byte = separator then rest :: afterSeparators rest else afterSeparators rest

def afterByte (allowed : UInt8 → Bool) : Bytes → List Bytes
  | [] => []
  | byte :: rest => if allowed byte then [rest] else []

def afterBytes : Bytes → Bytes → List Bytes
  | [], rest => [rest]
  | wanted :: others, bytes => (afterByte (· == wanted) bytes).flatMap (afterBytes others)

/-! A group whose branches all stand for nothing stands for nothing itself. -/

mutual
def Token.isVoid : Token → Bool
  | .group branches => allBranchesVoid branches
  | _ => false

def allVoid : List Token → Bool
  | [] => true
  | token :: rest => token.isVoid && allVoid rest

def allBranchesVoid : List (List Token) → Bool
  | [] => true
  | branch :: rest => allVoid branch && allBranchesVoid rest
end

/-! `crosses` tells whether `*` and `?` match a separator. Equal rests are kept once,
which bounds their number by the length of the bytes. -/

mutual
def Token.rests (crosses : Bool) : Token → Bytes → List Bytes
  | .literal char, bytes => afterBytes (Utf8.encode [char]) bytes
  | .anyByte, bytes => afterByte (fun byte => crosses || byte != separator) bytes
  | .anyRun, bytes => afterRuns (fun byte => crosses || byte != separator) bytes
  | .leadingDirs, bytes => bytes :: afterSeparators bytes
  | .innerDirs, bytes =>
      (afterByte (· == separator) bytes).flatMap fun rest =>
        rest :: afterSeparators rest
  | .trailingDirs, bytes =>
      (afterByte (· == separator) bytes).flatMap (afterRuns fun _ => true)
  | .oneOf negated ranges, bytes =>
      afterByte (fun byte => ranges.any (·.holds byte) != negated) bytes
  | .group branches, bytes =>
      if allBranchesVoid branches then [bytes] else anyRests crosses branches bytes

def sequenceRests (crosses : Bool) : List Token → Bytes → List Bytes
  | [], bytes => [bytes]
  | token :: tokens, bytes =>
      ((token.rests crosses bytes).flatMap (sequenceRests crosses tokens)).eraseDups

def anyRests (crosses : Bool) : List (List Token) → Bytes → List Bytes
  | [], _ => []
  | branch :: branches, bytes =>
      let others := anyRests crosses branches bytes
      if allVoid branch then others
      else sequenceRests crosses branch bytes ++ others
end

end Glob

def Glob.accepts (glob : Glob) (dialect : Glob.Dialect) (bytes : Bytes) : Bool :=
  match glob.tokens with
  | [.leadingDirs] => true
  | tokens => (Glob.sequenceRests dialect.crosses tokens bytes).contains []

end Uncomment
