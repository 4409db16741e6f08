import Uncomment.Path.Basic

namespace Uncomment

namespace Ignore

namespace Settings

/-! Where git keeps what it leaves out of all work trees: in a file that its settings name,
or else in one beside them. -/

def isSpace (byte : UInt8) : Bool := (0x09 ≤ byte && byte ≤ 0x0D) || byte == 0x20

def dropSpace (bytes : Bytes) : Bytes := bytes.dropWhile isSpace

def newline : UInt8 := 0x0A

def quote : UInt8 := 0x22

def endsLine (bytes : Bytes) : Bool :=
  (bytes.takeWhile isSpace).contains newline || (dropSpace bytes).isEmpty

def endsValue (bytes : Bytes) : Bool :=
  -- A quote may stand before the end of the line.
  endsLine bytes ||
    match dropSpace bytes with
    | byte :: rest => byte == quote && endsLine rest
    | [] => false

def value? : Bytes → Option Bytes
  | [] => none
  | byte :: rest =>
      if isSpace byte then none
      else if endsValue rest then some [byte]
      else (value? rest).map (byte :: ·)

def key : Bytes := Utf8.encode "excludesfile".toList

/-- The value of the setting that stands at the start of the bytes. A quote in front belongs
to the value only if there is no value without it. -/
def setting? (bytes : Bytes) : Option Bytes := do
  let line := dropSpace bytes
  let name := (line.take key.length).map fun byte =>
    if 0x41 ≤ byte ∧ byte ≤ 0x5A then byte + 0x20 else byte
  if name ≠ key then none
  else
    match dropSpace (line.drop key.length) with
    | 0x3D :: rest =>
        let rest := dropSpace rest
        let bare := match rest with
          | 0x22 :: inside => value? (dropSpace inside)
          | _ => none
        bare <|> value? rest
    | _ => none

def find? : Bool → Bytes → Option Bytes
  | _, [] => none
  | startsLine, byte :: rest =>
      let here := if startsLine then setting? (byte :: rest) else none
      here <|> find? (byte == newline) rest

def excludesFile? (home : Path) (settings : Bytes) : Option Path :=
  ((find? true settings).filter (Utf8.decode? · |>.isSome)).map fun path =>
    path.flatMap fun byte => if byte == 0x7E then home else [byte]

example :
    excludesFile? (Utf8.encode "/h".toList)
        (Utf8.encode "[core]\n\tExcludesFile = \"~/a b\"\n excludesfile=~/c \"\n".toList) =
      some (Utf8.encode "/h/c".toList) := by decide +kernel

end Settings

end Ignore

end Uncomment
