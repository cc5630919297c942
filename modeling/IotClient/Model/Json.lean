import IotClient.Model.Bytes

namespace IotClient

/-- `json::UnknownElement`. A number keeps the text of its token: its `double` is read by no
modelled function. -/
inductive Json where
  | null
  | boolean (value : Bool)
  | number (text : Bytes)
  | string (value : Bytes)
  | array (elements : List Json)
  | object (members : List (Bytes × Json))
  deriving Repr

namespace Json

abbrev badCast : Fault := .json (bytes "Bad cast")

def toObject : Json → Except Fault (List (Bytes × Json))
  | .object members => .ok members
  | _ => .error badCast

def toArray : Json → Except Fault (List Json)
  | .array elements => .ok elements
  | _ => .error badCast

def toBytes : Json → Except Fault Bytes
  | .string value => .ok value
  | _ => .error badCast

def toBoolean : Json → Except Fault Bool
  | .boolean value => .ok value
  | _ => .error badCast

def find (members : List (Bytes × Json)) (name : Bytes) : Option Json :=
  (members.find? fun member => member.1 == name).map Prod.snd

def lookup (members : List (Bytes × Json)) (name : Bytes) : Except Fault Json :=
  match find members name with
  | some element => .ok element
  | none => .error (.json (bytes "Object member not found: " ++ name))

def index (element : Json) (name : Bytes) : Except Fault Json := do
  lookup (← element.toObject) name

end Json

/-! ## Writer -/

def writeChar (c : UInt8) : Bytes :=
  if c = 34 then bytes "\\\""
  else if c = 92 then bytes "\\\\"
  else if c = 8 then bytes "\\b"
  else if c = 12 then bytes "\\f"
  else if c = 10 then bytes "\\n"
  else if c = 13 then bytes "\\r"
  else if c = 9 then bytes "\\t"
  else [c]

/-- The loop of `Writer::Write_i(const String&)`. Testing `*it == '\\'` moves `it` on, so the
backslash itself is dropped, and a trailing one moves `it` to the end, which the loop then skips. -/
def writeChars : Bytes → Except Fault Bytes
  | [] => .ok []
  | [c] => if c = 92 then .error .outOfRange else .ok (writeChar c)
  | c :: d :: rest =>
      if c = 92 then
        if d = 117 then (bytes "\\u" ++ ·) <$> writeChars rest
        else (writeChar d ++ ·) <$> writeChars rest
      else (writeChar c ++ ·) <$> writeChars (d :: rest)

def writeString (value : Bytes) : Except Fault Bytes := do
  return [34] ++ (← writeChars value) ++ [34]

def tabs (depth : Nat) : Bytes := List.replicate depth 9

def separator {α : Type} (rest : List α) : Bytes :=
  if rest.isEmpty then bytes "\n" else bytes ",\n"

mutual
def writeElement (double : Bytes → Bytes) (depth : Nat) : Json → Except Fault Bytes
  | .null => .ok (bytes "null")
  | .boolean value => .ok (if value then bytes "true" else bytes "false")
  | .number text => .ok (double text)
  | .string value => writeString value
  | .array elements => do
      if elements.isEmpty then return bytes "[]"
      return bytes "[\n" ++ (← writeElements double depth elements) ++ tabs depth ++ bytes "]"
  | .object members => do
      if members.isEmpty then return bytes "\x7b\x7d"
      return bytes "\x7b\n" ++ (← writeMembers double depth members) ++ tabs depth ++ bytes "\x7d"

def writeElements (double : Bytes → Bytes) (depth : Nat) : List Json → Except Fault Bytes
  | [] => .ok []
  | element :: rest => do
      return tabs (depth + 1) ++ (← writeElement double (depth + 1) element) ++ separator rest ++
        (← writeElements double depth rest)

def writeMembers (double : Bytes → Bytes) (depth : Nat) : List (Bytes × Json) → Except Fault Bytes
  | [] => .ok []
  | (name, element) :: rest => do
      return tabs (depth + 1) ++ (← writeString name) ++ bytes " : " ++
        (← writeElement double (depth + 1) element) ++ separator rest ++
        (← writeMembers double depth rest)
end

def jsonToString (double : Bytes → Bytes) (element : Json) : Except Fault Bytes :=
  writeElement double 0 element

/-! ## Reader -/

inductive TokenType where
  | objectBegin
  | objectEnd
  | arrayBegin
  | arrayEnd
  | nextElement
  | memberAssign
  | string
  | number
  | boolean
  | null
  deriving DecidableEq, Repr

structure Token where
  type : TokenType
  value : Bytes
  deriving DecidableEq, Repr

def isSpace (c : UInt8) : Bool :=
  c = 32 || (9 ≤ c && c ≤ 13)

def isLeadSurrogate (word : UInt16) : Bool :=
  0xd800 ≤ word && word ≤ 0xdbff

def isTrailSurrogate (word : UInt16) : Bool :=
  0xdc00 ≤ word && word ≤ 0xdfff

def appendUtf8 (cp : Nat) : Bytes :=
  if cp < 0x80 then [UInt8.ofNat cp]
  else if cp < 0x800 then [UInt8.ofNat (cp >>> 6 ||| 0xc0), UInt8.ofNat (cp &&& 0x3f ||| 0x80)]
  else if cp < 0x10000 then
    [UInt8.ofNat (cp >>> 12 ||| 0xe0), UInt8.ofNat ((cp >>> 6) &&& 0x3f ||| 0x80),
      UInt8.ofNat (cp &&& 0x3f ||| 0x80)]
  else
    [UInt8.ofNat (cp >>> 18 ||| 0xf0), UInt8.ofNat ((cp >>> 12) &&& 0x3f ||| 0x80),
      UInt8.ofNat ((cp >>> 6) &&& 0x3f ||| 0x80), UInt8.ofNat (cp &&& 0x3f ||| 0x80)]

def utf16To8 : List UInt16 → Except Fault Bytes
  | [] => .ok []
  | [word] =>
      if isLeadSurrogate word || isTrailSurrogate word then .error (.utf8 word)
      else .ok (appendUtf8 word.toNat)
  | word :: next :: rest =>
      if isLeadSurrogate word then
        if isTrailSurrogate next then
          (appendUtf8 ((word.toNat <<< 10) + next.toNat + 0x10000 - (0xd800 <<< 10) - 0xdc00) ++ ·) <$>
            utf16To8 rest
        else .error (.utf8 next)
      else if isTrailSurrogate word then .error (.utf8 word)
      else (appendUtf8 word.toNat ++ ·) <$> utf16To8 (next :: rest)

inductive CharSign where
  | signed
  | unsigned
  deriving DecidableEq, Repr

/-- `c - '0'` after the integral promotions, modulo `2^16`. -/
def charOffset (sign : CharSign) (c : UInt8) : UInt16 :=
  (if sign = .signed && 128 ≤ c then c.toUInt16 + 0xff00 else c.toUInt16) - 48

/-- `ConsumeUnicode`: the digits are taken by subtracting `'0'` only. -/
def consumeUnicode (sign : CharSign) (a b c d : UInt8) : UInt16 :=
  charOffset sign a <<< 12 ||| charOffset sign b <<< 8 ||| charOffset sign c <<< 4 ||| charOffset sign d

def expectedString (expected : Bytes) : Fault :=
  .json (bytes "Expected string: " ++ expected)

def matchExpectedString (expected input : Bytes) : Except Fault Bytes :=
  if expected.isPrefixOf input then .ok (input.drop expected.length)
  else .error (expectedString expected)

def finalizeUnicode (string : Bytes) (uni : List UInt16) : Except Fault Bytes :=
  (string ++ ·) <$> utf16To8 uni

/-- The character an escape other than `\u` stands for; `\\` is kept as two characters. -/
def escaped (c : UInt8) : Option Bytes :=
  if c = 47 then some [47]
  else if c = 34 then some [34]
  else if c = 92 then some [92, 92]
  else if c = 98 then some [8]
  else if c = 102 then some [12]
  else if c = 110 then some [10]
  else if c = 114 then some [13]
  else if c = 116 then some [9]
  else none

def finishString (string : Bytes) (uni : List UInt16) (rest : Bytes) : Except Fault (Bytes × Bytes) := do
  let string ← finalizeUnicode string uni
  let rest ← matchExpectedString [34] rest
  return (string, rest)

/-- The loop of `Reader::MatchString`, after the opening quote. An escape puts its own character
before the code units that are still pending. -/
def matchChars (sign : CharSign) : Bytes → Bytes → List UInt16 → Except Fault (Bytes × Bytes)
  | [], string, uni => finishString string uni []
  | [c], string, uni =>
      if c = 34 then finishString string uni [c]
      else do
        let string ← finalizeUnicode string uni
        finishString (string ++ [c]) [] []
  | c :: d :: rest, string, uni =>
      if c = 34 then finishString string uni (c :: d :: rest)
      else if c = 92 then
        if d = 117 then
          match rest with
          | e :: f :: g :: h :: rest => matchChars sign rest string (uni ++ [consumeUnicode sign e f g h])
          | [e, f, g] => finishString string (uni ++ [consumeUnicode sign e f g 0]) []
          | [e, f] => finishString string (uni ++ [consumeUnicode sign e f 0 0]) []
          | [e] => finishString string (uni ++ [consumeUnicode sign e 0 0 0]) []
          | [] => finishString string (uni ++ [consumeUnicode sign 0 0 0 0]) []
        else match escaped d with
          | some text => do
              let string ← finalizeUnicode (string ++ text) uni
              matchChars sign rest string []
          | none => .error (.json (bytes "Unrecognized escape sequence found in string: \\" ++ [d]))
      else do
        let string ← finalizeUnicode string uni
        matchChars sign (d :: rest) (string ++ [c]) []

def matchString (sign : CharSign) (input : Bytes) : Except Fault (Bytes × Bytes) := do
  let rest ← matchExpectedString [34] input
  matchChars sign rest [] []

/-- The terminating NUL of `sNumericChars` is inserted with the rest. -/
def numericChars : Bytes := bytes "0123456789.eE-+" ++ [0]

def matchNumber (input : Bytes) : Bytes × Bytes :=
  (input.takeWhile numericChars.contains, input.dropWhile numericChars.contains)

def scanExpected (type : TokenType) (text : String) (input : Bytes) : Except Fault (Token × Bytes) := do
  let rest ← matchExpectedString (bytes text) input
  return (⟨type, bytes text⟩, rest)

def scanToken (sign : CharSign) (c : UInt8) (input : Bytes) : Except Fault (Token × Bytes) :=
  if c = 123 then scanExpected .objectBegin "\x7b" input
  else if c = 125 then scanExpected .objectEnd "\x7d" input
  else if c = 91 then scanExpected .arrayBegin "[" input
  else if c = 93 then scanExpected .arrayEnd "]" input
  else if c = 44 then scanExpected .nextElement "," input
  else if c = 58 then scanExpected .memberAssign ":" input
  else if c = 34 then do
    let (value, rest) ← matchString sign input
    return (⟨.string, value⟩, rest)
  else if c = 45 || (48 ≤ c && c ≤ 57) then
    let (value, rest) := matchNumber input
    .ok (⟨.number, value⟩, rest)
  else if c = 116 then scanExpected .boolean "true" input
  else if c = 102 then scanExpected .boolean "false" input
  else if c = 110 then scanExpected .null "null" input
  else .error (.json (bytes "Unexpected character in stream: " ++ [c]))

def scanLoop (sign : CharSign) : Nat → Bytes → Except Fault (List Token)
  | 0, _ => .ok []
  | fuel + 1, input =>
      match input.dropWhile isSpace with
      | [] => .ok []
      | c :: rest => do
          let (token, rest) ← scanToken sign c (c :: rest)
          return token :: (← scanLoop sign fuel rest)

/-- Every pass consumes a character, so the length of the input bounds the passes. -/
def scan (sign : CharSign) (input : Bytes) : Except Fault (List Token) :=
  scanLoop sign (input.length + 1) input

/-- `istream >> double` without the value: what is left of the token after the extraction. -/
def extractDouble (mantissa dec sci : Bool) : Bytes → Bytes
  | [] => []
  | [c] =>
      if 48 ≤ c && c ≤ 57 then []
      else if c = 46 && !dec && !sci then []
      else if (c = 101 || c = 69) && !sci && mantissa then []
      else [c]
  | c :: d :: rest =>
      if 48 ≤ c && c ≤ 57 then extractDouble true dec sci (d :: rest)
      else if c = 46 && !dec && !sci then extractDouble mantissa true sci (d :: rest)
      else if (c = 101 || c = 69) && !sci && mantissa then
        if d = 43 || d = 45 then extractDouble mantissa dec true rest
        else extractDouble mantissa dec true (d :: rest)
      else c :: d :: rest

def readDouble : Bytes → Bytes
  | c :: rest => if c = 43 || c = 45 then extractDouble false false false rest
      else extractDouble false false false (c :: rest)
  | [] => []

def unexpectedEnd : Fault := .json (bytes "Unexpected end of token stream")

def unexpectedToken (token : Token) : Fault :=
  .json (bytes "Unexpected token: " ++ token.value)

def matchExpectedToken (expected : TokenType) : List Token → Except Fault (Bytes × List Token)
  | [] => .error unexpectedEnd
  | token :: rest =>
      if token.type = expected then .ok (token.value, rest)
      else .error (unexpectedToken token)

def nextIs (expected : TokenType) : List Token → Bool
  | [] => false
  | token :: _ => token.type = expected

def insertMember (members : List (Bytes × Json)) (name : Bytes) (element : Json) :
    Except Fault (List (Bytes × Json)) :=
  match Json.find members name with
  | some _ => .error (.json (bytes "Duplicate object member token: " ++ name))
  | none => .ok (members ++ [(name, element)])

mutual
def parseElement : Nat → List Token → Except Fault (Json × List Token)
  | 0, _ => .error unexpectedEnd
  | _, [] => .error unexpectedEnd
  | fuel + 1, token :: rest =>
      match token.type with
      | .objectBegin =>
          if rest = [] || nextIs .objectEnd rest then do
            let (_, rest) ← matchExpectedToken .objectEnd rest
            return (.object [], rest)
          else parseMembers fuel [] rest
      | .arrayBegin =>
          if rest = [] || nextIs .arrayEnd rest then do
            let (_, rest) ← matchExpectedToken .arrayEnd rest
            return (.array [], rest)
          else parseElements fuel [] rest
      | .string => .ok (.string token.value, rest)
      | .number =>
          match readDouble token.value with
          | [] => .ok (.number token.value, rest)
          | c :: _ => .error (.json (bytes "Unexpected character in NUMBER token: " ++ [c]))
      | .boolean => .ok (.boolean (token.value = bytes "true"), rest)
      | .null => .ok (.null, rest)
      | _ => .error (unexpectedToken token)

def parseMembers : Nat → List (Bytes × Json) → List Token → Except Fault (Json × List Token)
  | 0, _, _ => .error unexpectedEnd
  | fuel + 1, members, tokens => do
      let (name, tokens) ← matchExpectedToken .string tokens
      let (_, tokens) ← matchExpectedToken .memberAssign tokens
      let (element, tokens) ← parseElement fuel tokens
      let members ← insertMember members name element
      if nextIs .nextElement tokens then
        let (_, tokens) ← matchExpectedToken .nextElement tokens
        parseMembers fuel members tokens
      else
        let (_, tokens) ← matchExpectedToken .objectEnd tokens
        return (.object members, tokens)

def parseElements : Nat → List Json → List Token → Except Fault (Json × List Token)
  | 0, _, _ => .error unexpectedEnd
  | fuel + 1, elements, tokens => do
      let (element, tokens) ← parseElement fuel tokens
      let elements := elements ++ [element]
      if nextIs .nextElement tokens then
        let (_, tokens) ← matchExpectedToken .nextElement tokens
        parseElements fuel elements tokens
      else
        let (_, tokens) ← matchExpectedToken .arrayEnd tokens
        return (.array elements, tokens)
end

/-- `Reader::Read_i` after the scan. `Peek` reports the end of the stream with the last token, which
an empty list does not have. -/
def readTokens (tokens : List Token) : Except Fault Json :=
  if tokens = [] then .error .outOfRange
  else do
    let (element, rest) ← parseElement (tokens.length + 1) tokens
    match rest with
    | [] => return element
    | token :: _ => throw (.json (bytes "Expected End of token stream; found " ++ token.value))

def jsonParse (sign : CharSign) (text : Bytes) : Except Fault Json := do
  readTokens (← scan sign text)

end IotClient
