/-!
# Decoding UTF-8

Bytes are decoded from the left. Decoding stops at the first byte from which no further byte
sequence is well formed and reports the longest prefix of a well-formed sequence found there, its
position, and the reason: the byte can open no sequence, the next byte cannot continue the sequence,
or the bytes end inside the sequence. Surrogates, overlong forms and numbers above the last code
point are excluded by the range of the second byte.
-/

namespace Phrasebook.Text

/-- Why bytes cannot be decoded. -/
inductive Utf8Reason
  /-- No sequence starts with this byte. -/
  | start
  /-- The next byte does not continue the sequence. -/
  | continuation
  /-- The bytes end inside a sequence. -/
  | ending
  deriving DecidableEq, Repr

def Utf8Reason.message : Utf8Reason → String
  | .start => "invalid start byte"
  | .continuation => "invalid continuation byte"
  | .ending => "unexpected end of data"

/-- The bytes at which decoding stopped. -/
structure Utf8Refusal where
  /-- The first refused byte. -/
  byte : UInt8
  position : Nat
  /-- The number of refused bytes, at least one. -/
  length : Nat
  reason : Utf8Reason
  deriving DecidableEq, Repr

def isContinuation (b : UInt8) : Bool := 0x80 ≤ b && b ≤ 0xBF

/-- Whether a byte may be the second of a sequence that starts with `lead`. -/
def isSecond (lead b : UInt8) : Bool :=
  if lead = 0xE0 then 0xA0 ≤ b && b ≤ 0xBF
  else if lead = 0xED then 0x80 ≤ b && b ≤ 0x9F
  else if lead = 0xF0 then 0x90 ≤ b && b ≤ 0xBF
  else if lead = 0xF4 then 0x80 ≤ b && b ≤ 0x8F
  else isContinuation b

/-- The low six bits of a continuation byte. -/
def lowBits (b : UInt8) : Nat := b.toNat % 64

/-- The characters of bytes that start at an offset, or the first refusal. -/
def decodeUtf8From (position : Nat) : List UInt8 → Except Utf8Refusal (List Char)
  | [] => .ok []
  | a :: rest =>
    let refuse (length : Nat) (reason : Utf8Reason) : Except Utf8Refusal (List Char) :=
      .error ⟨a, position, length, reason⟩
    if a < 0x80 then (Char.ofNat a.toNat :: ·) <$> decodeUtf8From (position + 1) rest
    else if a < 0xC2 then refuse 1 .start
    else match rest with
      | [] => if a < 0xF5 then refuse 1 .ending else refuse 1 .start
      | b :: rest =>
        if a < 0xE0 then
          if isContinuation b then
            (Char.ofNat (a.toNat % 32 * 64 + lowBits b) :: ·) <$>
              decodeUtf8From (position + 2) rest
          else refuse 1 .continuation
        else if 0xF5 ≤ a then refuse 1 .start
        else if !isSecond a b then refuse 1 .continuation
        else match rest with
          | [] => refuse 2 .ending
          | c :: rest =>
            if !isContinuation c then refuse 2 .continuation
            else if a < 0xF0 then
              (Char.ofNat ((a.toNat % 16 * 64 + lowBits b) * 64 + lowBits c) :: ·) <$>
                decodeUtf8From (position + 3) rest
            else match rest with
              | [] => refuse 3 .ending
              | d :: rest =>
                if !isContinuation d then refuse 3 .continuation
                else
                  (Char.ofNat (((a.toNat % 8 * 64 + lowBits b) * 64 + lowBits c) * 64 + lowBits d)
                      :: ·) <$> decodeUtf8From (position + 4) rest

def decodeUtf8 (bytes : List UInt8) : Except Utf8Refusal (List Char) := decodeUtf8From 0 bytes

def encodeUtf8 (text : List Char) : List UInt8 := text.flatMap String.utf8EncodeChar

end Phrasebook.Text
