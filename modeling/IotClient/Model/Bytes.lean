import Mathlib.Data.UInt

namespace IotClient

abbrev Bytes := List UInt8

def bytes (text : String) : Bytes :=
  text.toList.map fun c => UInt8.ofNat c.toNat

/-- What a callee that takes `s.c_str()` sees of `s`. -/
def cString (s : Bytes) : Bytes :=
  s.takeWhile fun c => c != 0

/-- What leaves a C++ function other than by returning. The first four are exceptions, by the type
that a `catch` clause selects on; `outOfRange` is a read or write outside a container, after which
the program has no defined behaviour. -/
inductive Fault where
  | json (what : Bytes)
  | iot (what : Bytes)
  | utf8 (word : UInt16)
  | lengthError
  | outOfRange
  deriving DecidableEq, Repr

def hexChars : Bytes := bytes "0123456789abcdef"

def hexChar (nibble : UInt8) : UInt8 :=
  hexChars.getD nibble.toNat 0

def hexEncode (data : Bytes) : Bytes :=
  data.flatMap fun (c : UInt8) => [hexChar (c >>> 4), hexChar (c &&& 0x0F)]

def toLower (c : UInt8) : UInt8 :=
  if 65 ≤ c ∧ c ≤ 90 then c + 32 else c

def hexNibble (digit : UInt8) : Option UInt8 :=
  let c := toLower digit
  if 48 ≤ c ∧ c ≤ 57 then some (c - 48)
  else if 97 ≤ c ∧ c ≤ 102 then some (c - 97 + 0xA)
  else none

def hexDecodePairs : Bytes → Option Bytes
  | high :: low :: rest => do
      let h ← hexNibble high
      let l ← hexNibble low
      let tail ← hexDecodePairs rest
      return (h <<< 4 ||| l) :: tail
  | _ => some []

def hexDecode (data : Bytes) : Bytes :=
  if data.length % 2 ≠ 0 then []
  else (hexDecodePairs data).getD []

def hexDecodeFrom (i : Nat) (result : Bytes) : Bytes → Bytes
  | [] => result
  | digit :: rest =>
      match hexNibble digit with
      | none => []
      | some nibble =>
          if i % 2 = 0 then hexDecodeFrom (i + 1) (result.set (i / 2) (nibble <<< 4)) rest
          else hexDecodeFrom (i + 1) (result.modify (i / 2) (· ||| nibble)) rest

/-- `HexDecode` as it is written; `hexDecode` takes the digits in pairs. -/
def hexDecodeLoop (data : Bytes) : Bytes :=
  if data.length % 2 ≠ 0 then []
  else hexDecodeFrom 0 (List.replicate (data.length / 2) 0) data

end IotClient
