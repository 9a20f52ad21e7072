/-!
# The encoding of JSON bytes

JSON text comes in UTF-8, UTF-16 or UTF-32 of either byte order.  A byte order mark names the
encoding; without one the places of the zero bytes among the first four do.  A surrogate that
belongs to no pair is let through and reads as the replacement character.
-/

namespace ProseTrace.Json.Encoding

inductive ByteOrder where
  | bigEndian
  | littleEndian
  deriving DecidableEq

inductive Form where
  | utf8
  | utf16 (order : ByteOrder)
  | utf32 (order : ByteOrder)
  deriving DecidableEq

def guess : List UInt8 → Form
  | [a, b] =>
    if a == 0 then .utf16 .bigEndian else if b == 0 then .utf16 .littleEndian else .utf8
  | a :: b :: c :: d :: _ =>
    if a == 0 then (if b != 0 then .utf16 .bigEndian else .utf32 .bigEndian)
    else if b == 0 then
      (if c != 0 || d != 0 then .utf16 .littleEndian else .utf32 .littleEndian)
    else .utf8
  | _ => .utf8

def detect : List UInt8 → Form × List UInt8
  | 0x00 :: 0x00 :: 0xFE :: 0xFF :: rest => (.utf32 .bigEndian, rest)
  | 0xFF :: 0xFE :: 0x00 :: 0x00 :: rest => (.utf32 .littleEndian, rest)
  | 0xFE :: 0xFF :: rest => (.utf16 .bigEndian, rest)
  | 0xFF :: 0xFE :: rest => (.utf16 .littleEndian, rest)
  | 0xEF :: 0xBB :: 0xBF :: rest => (.utf8, rest)
  | bytes => (guess bytes, bytes)

/-- The character that stands where a surrogate without its partner stood. -/
def replacement : Char := '\uFFFD'

def isHighSurrogate (n : Nat) : Bool := 0xD800 ≤ n && n < 0xDC00

def isLowSurrogate (n : Nat) : Bool := 0xDC00 ≤ n && n < 0xE000

def joinSurrogates (high low : Nat) : Char :=
  Char.ofNat (0x10000 + (high - 0xD800) * 0x400 + (low - 0xDC00))

/-- The character of a code point; a surrogate is replaced. -/
def charOf? (n : Nat) : Option Char :=
  if isHighSurrogate n || isLowSurrogate n then some replacement
  else if n ≤ 0x10FFFF then some (Char.ofNat n)
  else none

private def continuation? (b : UInt8) : Option Nat :=
  if b &&& 0xC0 == 0x80 then some (b &&& 0x3F).toNat else none

/-- UTF-8 with surrogates let through; overlong forms are refused. -/
def decodeUtf8 : List UInt8 → Option (List Char)
  | [] => some []
  | a :: rest =>
    if a < 0x80 then (decodeUtf8 rest).map (Char.ofNat a.toNat :: ·)
    else if a &&& 0xE0 == 0xC0 then
      match rest with
      | b :: rest => do
        let n := (a &&& 0x1F).toNat * 0x40 + (← continuation? b)
        if n < 0x80 then none else return (← charOf? n) :: (← decodeUtf8 rest)
      | _ => none
    else if a &&& 0xF0 == 0xE0 then
      match rest with
      | b :: c :: rest => do
        let n := (a &&& 0x0F).toNat * 0x1000 + (← continuation? b) * 0x40 + (← continuation? c)
        if n < 0x800 then none else return (← charOf? n) :: (← decodeUtf8 rest)
      | _ => none
    else if a &&& 0xF8 == 0xF0 then
      match rest with
      | b :: c :: d :: rest => do
        let n := (a &&& 0x07).toNat * 0x40000 + (← continuation? b) * 0x1000 +
          (← continuation? c) * 0x40 + (← continuation? d)
        if n < 0x10000 then none else return (← charOf? n) :: (← decodeUtf8 rest)
      | _ => none
    else none

private def ofBytes (order : ByteOrder) (bytes : List UInt8) : Nat :=
  let digits := match order with
    | .bigEndian => bytes
    | .littleEndian => bytes.reverse
  digits.foldl (fun n b => n * 256 + b.toNat) 0

def units16 (order : ByteOrder) : List UInt8 → Option (List Nat)
  | [] => some []
  | a :: b :: rest => (units16 order rest).map (ofBytes order [a, b] :: ·)
  | _ => none

def units32 (order : ByteOrder) : List UInt8 → Option (List Nat)
  | [] => some []
  | a :: b :: c :: d :: rest => (units32 order rest).map (ofBytes order [a, b, c, d] :: ·)
  | _ => none

/-- UTF-16 units as characters, surrogates in pairs joined. -/
def joinUnits : List Nat → Option (List Char)
  | [] => some []
  | [n] => (charOf? n).map ([·])
  | n :: m :: rest =>
    if isHighSurrogate n && isLowSurrogate m then (joinUnits rest).map (joinSurrogates n m :: ·)
    else do return (← charOf? n) :: (← joinUnits (m :: rest))

def decode (bytes : List UInt8) : Option (List Char) :=
  match detect bytes with
  | (.utf8, rest) => decodeUtf8 rest
  | (.utf16 order, rest) => do joinUnits (← units16 order rest)
  | (.utf32 order, rest) => do (← units32 order rest).mapM charOf?

end ProseTrace.Json.Encoding
