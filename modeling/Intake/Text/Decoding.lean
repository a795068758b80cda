import Intake.Text.Quoted

/-! Text from bytes: UTF-8, UTF-16 and UTF-32 with a description of the first place that cannot be
read, and the choice among them by the first bytes of a document. A surrogate that stands alone is
read as the replacement character where the reader is told to let it pass. -/

namespace Intake.Text

inductive DecodingCause where
  | unexpectedEnd
  | badStart
  | badContinuation
  | truncated
  | outOfRange
  deriving Repr, DecidableEq

def DecodingCause.message : DecodingCause → String
  | .unexpectedEnd => "unexpected end of data"
  | .badStart => "invalid start byte"
  | .badContinuation => "invalid continuation byte"
  | .truncated => "truncated data"
  | .outOfRange => "code point not in range(0x110000)"

structure DecodingFault where
  encoding : String
  position : Nat
  length : Nat
  first : UInt8
  cause : DecodingCause
  deriving Repr, DecidableEq

def DecodingFault.message (f : DecodingFault) : String :=
  if f.length == 1 then
    s!"'{f.encoding}' codec can't decode byte 0x" ++ String.ofList (hex 2 f.first.toNat) ++
      s!" in position {f.position}: " ++ f.cause.message
  else
    s!"'{f.encoding}' codec can't decode bytes in position {f.position}-" ++
      toString (f.position + f.length - 1) ++ ": " ++ f.cause.message

def codeLimit : Nat := 2147483648

def isTail (b : UInt8) : Bool := 0x80 ≤ b.toNat && b.toNat < 0xC0

def admitsSecond (surrogates : Bool) (a b : UInt8) : Bool :=
  isTail b && !(a == 0xE0 && b < 0xA0) && !(a == 0xED && b ≥ 0xA0 && !surrogates) &&
    !(a == 0xF0 && b < 0x90) && !(a == 0xF4 && b ≥ 0x90)

def scalar (n : Nat) : Char :=
  if n.isValidChar then Char.ofNat n else '\uFFFD'

def tail (b : UInt8) : Nat := b.toNat % 64

def decodeUtf8From (surrogates : Bool) (pos : Nat) :
    List UInt8 → Except DecodingFault (List Char)
  | [] => .ok []
  | a :: rest =>
    let fault (n : Nat) (cause : DecodingCause) : Except DecodingFault (List Char) :=
      .error ⟨"utf-8", pos, n, a, cause⟩
    if a < 0x80 then
      return Char.ofNat a.toNat :: (← decodeUtf8From surrogates (pos + 1) rest)
    else if a < 0xC2 then fault 1 .badStart
    else if a < 0xE0 then
      match rest with
      | [] => fault 1 .unexpectedEnd
      | b :: rest =>
        if isTail b then
          return scalar (a.toNat % 32 * 64 + tail b) ::
            (← decodeUtf8From surrogates (pos + 2) rest)
        else fault 1 .badContinuation
    else if a < 0xF0 then
      match rest with
      | [] => fault 1 .unexpectedEnd
      | b :: rest =>
        if !admitsSecond surrogates a b then fault 1 .badContinuation
        else match rest with
          | [] => fault 2 .unexpectedEnd
          | c :: rest =>
            if isTail c then
              return scalar (a.toNat % 16 * 4096 + tail b * 64 + tail c) ::
                (← decodeUtf8From surrogates (pos + 3) rest)
            else fault 2 .badContinuation
    else if a < 0xF5 then
      match rest with
      | [] => fault 1 .unexpectedEnd
      | b :: rest =>
        if !admitsSecond surrogates a b then fault 1 .badContinuation
        else match rest with
          | [] => fault 2 .unexpectedEnd
          | c :: rest =>
            if !isTail c then fault 2 .badContinuation
            else match rest with
              | [] => fault 3 .unexpectedEnd
              | d :: rest =>
                if isTail d then
                  return scalar (a.toNat % 8 * 262144 + tail b * 4096 + tail c * 64 + tail d) ::
                    (← decodeUtf8From surrogates (pos + 4) rest)
                else fault 3 .badContinuation
    else fault 1 .badStart

def decodeUtf8 (bs : List UInt8) : Except DecodingFault (List Char) := decodeUtf8From false 0 bs

def encodeUtf8 (s : String) : List UInt8 := s.toUTF8.data.toList

inductive ByteOrder where
  | little
  | big
  deriving Repr, DecidableEq

def ByteOrder.suffix : ByteOrder → String
  | .little => "le"
  | .big => "be"

def ByteOrder.number (o : ByteOrder) (bs : List UInt8) : Nat :=
  match o with
  | .big => bs.foldl (fun n b => n * 256 + b.toNat) 0
  | .little => bs.foldr (fun b n => n * 256 + b.toNat) 0

def units16 (o : ByteOrder) (pos : Nat) : List UInt8 → Except DecodingFault (List Nat)
  | [] => .ok []
  | [a] => .error ⟨"utf-16-" ++ o.suffix, pos, 1, a, .truncated⟩
  | a :: b :: rest => do return o.number [a, b] :: (← units16 o (pos + 2) rest)

def joinSurrogates : List Nat → List Char
  | [] => []
  | [u] => [scalar u]
  | u :: v :: rest =>
    if 0xD800 ≤ u && u < 0xDC00 && 0xDC00 ≤ v && v < 0xE000 then
      scalar (0x10000 + (u - 0xD800) * 1024 + (v - 0xDC00)) :: joinSurrogates rest
    else scalar u :: joinSurrogates (v :: rest)

def decodeUtf16 (o : ByteOrder) (pos : Nat) (bs : List UInt8) :
    Except DecodingFault (List Char) :=
  joinSurrogates <$> units16 o pos bs

def decodeUtf32 (o : ByteOrder) (pos : Nat) : List UInt8 → Except DecodingFault (List Char)
  | [] => .ok []
  | a :: b :: c :: d :: rest =>
    let n := o.number [a, b, c, d]
    if n < 0x110000 then
      return scalar n :: (← decodeUtf32 o (pos + 4) rest)
    else .error ⟨"utf-32-" ++ o.suffix, pos, 4, a, .outOfRange⟩
  | a :: rest => .error ⟨"utf-32-" ++ o.suffix, pos, rest.length + 1, a, .truncated⟩

/-- The text of a document whose encoding shows in its first bytes: a byte order mark, or the
zeros that a first ASCII character leaves in UTF-16 and UTF-32; UTF-8 else. -/
def decodeDocument (bs : List UInt8) : Except DecodingFault (List Char) :=
  let utf8 := decodeUtf8From true 0
  match bs with
  | 0x00 :: 0x00 :: 0xFE :: 0xFF :: rest => decodeUtf32 .big 4 rest
  | 0xFF :: 0xFE :: 0x00 :: 0x00 :: rest => decodeUtf32 .little 4 rest
  | 0xFE :: 0xFF :: rest => decodeUtf16 .big 2 rest
  | 0xFF :: 0xFE :: rest => decodeUtf16 .little 2 rest
  | 0xEF :: 0xBB :: 0xBF :: rest => utf8 rest
  | a :: b :: c :: d :: _ =>
    if a == 0 then
      if b == 0 then decodeUtf32 .big 0 bs else decodeUtf16 .big 0 bs
    else if b == 0 then
      if c == 0 && d == 0 then decodeUtf32 .little 0 bs else decodeUtf16 .little 0 bs
    else utf8 bs
  | [a, b] =>
    if a == 0 then decodeUtf16 .big 0 bs
    else if b == 0 then decodeUtf16 .little 0 bs
    else utf8 bs
  | _ => utf8 bs

end Intake.Text
