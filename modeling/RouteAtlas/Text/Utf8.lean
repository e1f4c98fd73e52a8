import RouteAtlas.Text.CodeText

/-!
# UTF-8

Text as bytes and back. Encoding fails on halves of surrogate pairs; decoding fails at the first
bytes that no text is encoded as, and says which bytes these are: the start of a sequence, as much
of it as is right, and whether the end of the input or a byte that does not continue it is at
fault.

Overlong sequences, halves of pairs and numbers beyond the last character are refused at their first
byte or at the second one, whose range depends on the first (`secondRange`); the bytes after it may
be any that continue a sequence. Plain text can always be encoded (`encode`), and only code points
may fail to be (`encodeCode`).
-/

namespace RouteAtlas

/-- The contents of a file. -/
abbrev Bytes := List UInt8

namespace Utf8

/-- A byte that continues a sequence, carrying the given six bits. -/
def tailByte (bits : Nat) : UInt8 := UInt8.ofNat (0x80 + bits % 64)

/-- The bytes of a character. -/
def encodeChar (c : Char) : Bytes :=
  let n := c.toNat
  if n < 0x80 then [UInt8.ofNat n]
  else if n < 0x800 then [UInt8.ofNat (0xC0 + n / 64), tailByte n]
  else if n < 0x10000 then [UInt8.ofNat (0xE0 + n / 4096), tailByte (n / 64), tailByte n]
  else [UInt8.ofNat (0xF0 + n / 262144), tailByte (n / 4096), tailByte (n / 64), tailByte n]

/-- The bytes of a text. -/
def encode (s : Text) : Bytes := s.flatMap encodeChar

/-- Halves of surrogate pairs that cannot be encoded: where they begin and what they are. -/
structure EncodeFault where
  first : Nat
  halves : List Nat
  deriving DecidableEq, Repr

/-- The bytes of code points, if all of them are characters. -/
def encodeCode (s : CodeText) : Except EncodeFault Bytes :=
  match s.toText? with
  | some text => .ok (encode text)
  | none =>
    let (first, halves) := (s.firstLoneRun 0).getD (0, [])
    .error ⟨first, halves⟩

/-- Four lower-case hexadecimal digits. -/
def hex4 (n : Nat) : Text :=
  [n / 4096, n / 256, n / 16, n].map fun k => Nat.digitChar (k % 16)

/-- What is said of text that cannot be encoded. -/
def EncodeFault.message (fault : EncodeFault) : Text :=
  let start := "\x27utf-8\x27 codec can\x27t encode character".toList
  let reason := ": surrogates not allowed".toList
  match fault.halves with
  | [half] =>
    start ++ " \x27\\u".toList ++ hex4 half ++ "\x27 in position ".toList
      ++ Text.ofNat fault.first ++ reason
  | halves =>
    start ++ "s in position ".toList ++ Text.ofNat fault.first ++ ['-']
      ++ Text.ofNat (fault.first + halves.length - 1) ++ reason

/-- Why bytes are no text. -/
inductive DecodeReason where
  | invalidStart
  | invalidContinuation
  | unexpectedEnd
  deriving DecidableEq, Repr

/-- Bytes that encode nothing: `count` bytes from number `first` on, the first of which is
`byte`. -/
structure DecodeFault where
  first : Nat
  count : Nat
  byte : UInt8
  reason : DecodeReason
  deriving DecidableEq, Repr

/-- What is said of bytes that are no text. -/
def DecodeFault.message (fault : DecodeFault) : Text :=
  let reason := match fault.reason with
    | .invalidStart => "invalid start byte"
    | .invalidContinuation => "invalid continuation byte"
    | .unexpectedEnd => "unexpected end of data"
  let start := "\x27utf-8\x27 codec can\x27t decode byte".toList
  let where_ :=
    if fault.count = 1 then
      " 0x".toList ++ [fault.byte.toNat / 16, fault.byte.toNat].map (fun k => Nat.digitChar (k % 16))
        ++ " in position ".toList ++ Text.ofNat fault.first
    else
      "s in position ".toList ++ Text.ofNat fault.first ++ ['-']
        ++ Text.ofNat (fault.first + fault.count - 1)
  start ++ where_ ++ ": ".toList ++ reason.toList

/-- The least and the greatest second byte that may follow a first byte of a sequence. -/
def secondRange (first : Nat) : Nat × Nat :=
  if first = 0xE0 then (0xA0, 0xBF)
  else if first = 0xED then (0x80, 0x9F)
  else if first = 0xF0 then (0x90, 0xBF)
  else if first = 0xF4 then (0x80, 0x8F)
  else (0x80, 0xBF)

/-- What the beginning of some bytes is: a character and the bytes it takes, or a fault that takes
`count` bytes. -/
inductive Head where
  | char (c : Char) (rest : Bytes)
  | fault (count : Nat) (reason : DecodeReason)

/-- The rest of a sequence: `owed` more bytes in the given range, the later ones in the range of all
continuation bytes; `value` and `taken` describe the bytes before. -/
def decodeTail : (owed : Nat) → (range : Nat × Nat) → (value taken : Nat) → Bytes → Head
  | 0, _, value, _, rest => .char (Char.ofNat value) rest
  | _ + 1, _, _, taken, [] => .fault taken .unexpectedEnd
  | owed + 1, (low, high), value, taken, b :: rest =>
    if low ≤ b.toNat ∧ b.toNat ≤ high then
      decodeTail owed (0x80, 0xBF) (value * 64 + b.toNat % 64) (taken + 1) rest
    else .fault taken .invalidContinuation

/-- The character at the beginning of bytes whose first one is `b`. -/
def decodeHead (b : UInt8) (rest : Bytes) : Head :=
  let n := b.toNat
  if n < 0x80 then .char (Char.ofNat n) rest
  else if n < 0xC2 then .fault 1 .invalidStart
  else if n < 0xE0 then decodeTail 1 (secondRange n) (n - 0xC0) 1 rest
  else if n < 0xF0 then decodeTail 2 (secondRange n) (n - 0xE0) 1 rest
  else if n < 0xF5 then decodeTail 3 (secondRange n) (n - 0xF0) 1 rest
  else .fault 1 .invalidStart

/-- The characters that bytes encode, the first of which is number `place`; `fuel` bounds their
number. -/
def decodeFrom : (fuel place : Nat) → Bytes → Except DecodeFault Text
  | _, _, [] => .ok []
  | 0, place, b :: _ => .error ⟨place, 1, b, .invalidStart⟩
  | fuel + 1, place, b :: rest =>
    match decodeHead b rest with
    | .char c after => do
      let text ← decodeFrom fuel (place + (rest.length + 1 - after.length)) after
      pure (c :: text)
    | .fault count reason => .error ⟨place, count, b, reason⟩

/-- The text that bytes encode. -/
def decode (bytes : Bytes) : Except DecodeFault Text := decodeFrom bytes.length 0 bytes

/-- The mark that may open a file. -/
def byteOrderMark : Bytes := [0xEF, 0xBB, 0xBF]

/-- The text of a file that may open with a byte order mark, which is dropped. Bytes that only
begin such a mark count as an empty file. Faults are numbered from behind the mark. -/
def decodeMarked (bytes : Bytes) : Except DecodeFault Text :=
  if bytes.length < 3 ∧ bytes.isPrefixOf byteOrderMark then .ok []
  else match byteOrderMark.isPrefixOf? bytes with
    | some rest => decode rest
    | none => decode bytes

end Utf8

end RouteAtlas
