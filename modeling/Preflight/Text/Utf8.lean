/-!
# Bytes and characters

Files hold bytes; their text is read as UTF-8. A byte sequence is cut into units, each a
character or a malformed stretch of bytes, and the two readers differ only in what they do with
the latter: one refuses, naming the first stretch, and one leaves them out.

## Main definitions

* `Unit8`, `units`: the units of a byte sequence.
* `decode`: the text, or the first malformed stretch.
* `decodeLenient`: the text without the malformed stretches.
-/

namespace Preflight.Text.Utf8

/-- What is wrong with a malformed stretch of bytes. -/
inductive Fault where
  /-- No character starts with this byte. -/
  | start
  /-- The byte that follows does not continue the character. -/
  | continuation
  /-- The bytes end inside a character. -/
  | ended
  deriving DecidableEq, Repr, Inhabited

/-- The wording of a fault. -/
def Fault.reason : Fault → String
  | start => "invalid start byte"
  | continuation => "invalid continuation byte"
  | ended => "unexpected end of data"

/-- A unit of a byte sequence: a character or a malformed stretch, and its further bytes beyond
the first. -/
structure Unit8 where
  content : Except Fault Char
  more : Nat
  deriving Inhabited

/-- A byte that continues a character. -/
def isContinuation (b : UInt8) : Bool := 0x80 ≤ b && b ≤ 0xBF

/-- The second byte of a character of three bytes: neither an overlong form nor a surrogate. -/
def isSecondOfThree (first b : UInt8) : Bool :=
  isContinuation b && !(if b < 0xA0 then first == 0xE0 else first == 0xED)

/-- The second byte of a character of four bytes: neither an overlong form nor beyond the last
code point. -/
def isSecondOfFour (first b : UInt8) : Bool :=
  isContinuation b && !(if b < 0x90 then first == 0xF0 else first == 0xF4)

/-- The low six bits of a byte that continues a character. -/
def tailBits (b : UInt8) : Nat := b.toNat % 64

/-- A malformed stretch. -/
def malformed (f : Fault) (more : Nat) : Unit8 := ⟨.error f, more⟩

/-- A character made from its code point. -/
def character (code more : Nat) : Unit8 := ⟨.ok (Char.ofNat code), more⟩

/-- The unit a byte starts, given the bytes after it. -/
def unitAt (first : UInt8) (rest : List UInt8) : Unit8 :=
  if first < 0x80 then character first.toNat 0
  else if first < 0xC2 then malformed .start 0
  else if first < 0xE0 then
    match rest with
    | [] => malformed .ended 0
    | b :: _ =>
      if isContinuation b then character (first.toNat % 32 * 64 + tailBits b) 1
      else malformed .continuation 0
  else if first < 0xF0 then
    match rest with
    | [] => malformed .ended 0
    | b :: rest =>
      if !isSecondOfThree first b then malformed .continuation 0
      else match rest with
        | [] => malformed .ended 1
        | c :: _ =>
          if isContinuation c then
            character ((first.toNat % 16 * 64 + tailBits b) * 64 + tailBits c) 2
          else malformed .continuation 1
  else if first < 0xF5 then
    match rest with
    | [] => malformed .ended 0
    | b :: rest =>
      if !isSecondOfFour first b then malformed .continuation 0
      else match rest with
        | [] => malformed .ended 1
        | c :: rest =>
          if !isContinuation c then malformed .continuation 1
          else match rest with
            | [] => malformed .ended 2
            | d :: _ =>
              if isContinuation d then
                character (((first.toNat % 8 * 64 + tailBits b) * 64 + tailBits c) * 64 +
                  tailBits d) 3
              else malformed .continuation 2
  else malformed .start 0

/-- The units of a byte sequence. -/
def units : List UInt8 → List Unit8
  | [] => []
  | b :: rest =>
    let u := unitAt b rest
    u :: units (rest.drop u.more)
termination_by bytes => bytes.length
decreasing_by simp only [List.length_drop, List.length_cons]; omega

/-- A malformed stretch with its place: how many bytes come before it, and its bytes. -/
structure DecodeError where
  position : Nat
  first : UInt8
  more : Nat
  fault : Fault
  deriving DecidableEq, Repr, Inhabited

/-- The characters of a list of units, up to its first malformed stretch. -/
def collect (position : Nat) (bytes : List UInt8) : List Unit8 → Except DecodeError (List Char)
  | [] => .ok []
  | u :: us =>
    match u.content with
    | .error fault => .error ⟨position, bytes.head?.getD 0, u.more, fault⟩
    | .ok c =>
      match collect (position + u.more + 1) (bytes.drop (u.more + 1)) us with
      | .ok cs => .ok (c :: cs)
      | .error e => .error e

/-- The text of a byte sequence, refused at its first malformed stretch. -/
def decode (bytes : List UInt8) : Except DecodeError (List Char) :=
  collect 0 bytes (units bytes)

/-- The text of a byte sequence without its malformed stretches. -/
def decodeLenient (bytes : List UInt8) : List Char :=
  (units bytes).filterMap fun u => match u.content with | .ok c => some c | .error _ => none

/-- A digit of base sixteen. -/
def hexDigit (n : Nat) : Char := (Nat.toDigits 16 n).headD '0'

/-- The wording of a decoding error. -/
def DecodeError.message (e : DecodeError) : String :=
  let place :=
    if e.more = 0 then
      "byte 0x" ++ String.ofList [hexDigit (e.first.toNat / 16), hexDigit (e.first.toNat % 16)] ++
        " in position " ++ toString e.position
    else "bytes in position " ++ toString e.position ++ "-" ++ toString (e.position + e.more)
  "'utf-8' codec can't decode " ++ place ++ ": " ++ e.fault.reason

end Preflight.Text.Utf8
