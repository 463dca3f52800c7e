/-!
# UTF-8

Characters as bytes and back. A byte sequence is cut into pieces: characters, sequences that can
not stand (with their length), and a character cut short by the end. Reading is strict and tells
where the first bad piece starts; the lossy reading shows each bad piece as U+FFFD.
-/

namespace DealForm

abbrev Bytes := List UInt8

namespace Utf8

def encodeChar (c : Char) : Bytes :=
  let n := c.toNat
  if n < 0x80 then [UInt8.ofNat n]
  else if n < 0x800 then [UInt8.ofNat (0xC0 + n / 64), UInt8.ofNat (0x80 + n % 64)]
  else if n < 0x10000 then
    [UInt8.ofNat (0xE0 + n / 4096), UInt8.ofNat (0x80 + n / 64 % 64), UInt8.ofNat (0x80 + n % 64)]
  else
    [UInt8.ofNat (0xF0 + n / 262144), UInt8.ofNat (0x80 + n / 4096 % 64),
      UInt8.ofNat (0x80 + n / 64 % 64), UInt8.ofNat (0x80 + n % 64)]

def encodeChars (cs : List Char) : Bytes :=
  cs.flatMap encodeChar

def encode (s : String) : Bytes :=
  encodeChars s.toList

def charSize (c : Char) : Nat :=
  if c.toNat < 0x80 then 1 else if c.toNat < 0x800 then 2 else if c.toNat < 0x10000 then 3 else 4

def size (cs : List Char) : Nat :=
  cs.foldr (fun c n ↦ charSize c + n) 0

/-- The characters in the first `n` bytes, and those after them, if no character is torn. -/
def splitAt? : Nat → List Char → Option (List Char × List Char)
  | 0, cs => some ([], cs)
  | _ + 1, [] => none
  | n + 1, c :: cs =>
    if charSize c ≤ n + 1 then
      (splitAt? (n + 1 - charSize c) cs).map fun (front, rest) ↦ (c :: front, rest)
    else none

inductive Piece where
  | char (c : Char)
  /-- As many bytes as `length` says begin no character, whatever follows. -/
  | invalid (length : Nat)
  /-- The bytes end inside a character. -/
  | incomplete
  deriving DecidableEq, Repr

def isTail (b : UInt8) : Bool :=
  0x80 ≤ b && b ≤ 0xBF

def isSecondOfThree (first second : UInt8) : Bool :=
  if first == 0xE0 then 0xA0 ≤ second && second ≤ 0xBF
  else if first == 0xED then 0x80 ≤ second && second ≤ 0x9F
  else isTail second

def isSecondOfFour (first second : UInt8) : Bool :=
  if first == 0xF0 then 0x90 ≤ second && second ≤ 0xBF
  else if first == 0xF4 then 0x80 ≤ second && second ≤ 0x8F
  else isTail second

def tailBits (b : UInt8) : Nat :=
  b.toNat - 0x80

/-- Cuts bytes into pieces. A bad sequence is as long as a character could still have been. -/
def pieces : Bytes → List Piece
  | [] => []
  | a :: rest =>
    if a < 0x80 then .char (Char.ofNat a.toNat) :: pieces rest
    else if a < 0xC2 then .invalid 1 :: pieces rest
    else if a < 0xE0 then
      match rest with
      | [] => [.incomplete]
      | b :: rest' =>
        if isTail b then
          .char (Char.ofNat ((a.toNat - 0xC0) * 64 + tailBits b)) :: pieces rest'
        else .invalid 1 :: pieces (b :: rest')
    else if a < 0xF0 then
      match rest with
      | [] => [.incomplete]
      | b :: rest' =>
        if isSecondOfThree a b then
          match rest' with
          | [] => [.incomplete]
          | c :: rest'' =>
            if isTail c then
              .char (Char.ofNat ((a.toNat - 0xE0) * 4096 + tailBits b * 64 + tailBits c)) ::
                pieces rest''
            else .invalid 2 :: pieces (c :: rest'')
        else .invalid 1 :: pieces (b :: rest')
    else if a < 0xF5 then
      match rest with
      | [] => [.incomplete]
      | b :: rest' =>
        if isSecondOfFour a b then
          match rest' with
          | [] => [.incomplete]
          | c :: rest'' =>
            if isTail c then
              match rest'' with
              | [] => [.incomplete]
              | d :: rest''' =>
                if isTail d then
                  .char (Char.ofNat ((a.toNat - 0xF0) * 262144 + tailBits b * 4096 +
                    tailBits c * 64 + tailBits d)) :: pieces rest'''
                else .invalid 3 :: pieces (d :: rest''')
            else .invalid 2 :: pieces (c :: rest'')
        else .invalid 1 :: pieces (b :: rest')
    else .invalid 1 :: pieces rest

inductive Fault where
  | invalid (length index : Nat)
  | incomplete (index : Nat)
  deriving DecidableEq, Repr

namespace Fault

def message : Fault → String
  | .invalid length index =>
    "invalid utf-8 sequence of " ++ toString length ++ " bytes from index " ++ toString index
  | .incomplete index => "incomplete utf-8 byte sequence from index " ++ toString index

end Fault

def collect (index : Nat) : List Piece → Except Fault (List Char)
  | [] => .ok []
  | .char c :: ps => (collect (index + charSize c) ps).map (c :: ·)
  | .invalid length :: _ => .error (.invalid length index)
  | .incomplete :: _ => .error (.incomplete index)

def decodeChars (bytes : Bytes) : Except Fault (List Char) :=
  collect 0 (pieces bytes)

def decode (bytes : Bytes) : Except Fault String :=
  (decodeChars bytes).map String.ofList

/-- The bytes as text, with U+FFFD in place of each bad piece. -/
def decodeLossy (bytes : Bytes) : String :=
  String.ofList <| (pieces bytes).map fun
    | .char c => c
    | _ => Char.ofNat 0xFFFD

end Utf8

end DealForm
