import IotClient.Model.Platform

namespace IotClient.Net

/-! ## The character classes of `http_parser`, which is compiled strict -/

def lower (c : UInt8) : UInt8 := c ||| 0x20

def isAlpha (c : UInt8) : Bool := 97 ≤ lower c && lower c ≤ 122

def isNum (c : UInt8) : Bool := 48 ≤ c && c ≤ 57

def isAlphaNum (c : UInt8) : Bool := isAlpha c || isNum c

def isHex (c : UInt8) : Bool := isNum c || (97 ≤ lower c && lower c ≤ 102)

def isMark (c : UInt8) : Bool := (bytes "-_.!~*'()").contains c

def isUserinfoChar (c : UInt8) : Bool :=
  isAlphaNum c || isMark c || (bytes "%;:&=+$,").contains c

def isHostChar (c : UInt8) : Bool := isAlphaNum c || c == 46 || c == 45

/-- The bits of `normal_url_char`: what is printed, except for the number sign and the question mark. -/
def isUrlChar (c : UInt8) : Bool := 33 ≤ c && c ≤ 126 && c != 35 && c != 63

/-! ## `parse_url_char` -/

inductive UrlState where
  | dead
  | spacesBeforeUrl
  | schema
  | schemaSlash
  | schemaSlashSlash
  | serverStart
  | server
  | serverWithAt
  | path
  | queryStringStart
  | queryString
  | fragmentStart
  | fragment
  deriving DecidableEq, Repr

def parseServerChar (ch : UInt8) : UrlState :=
  if ch = 47 then .path
  else if ch = 63 then .queryStringStart
  else if ch = 64 then .serverWithAt
  else if isUserinfoChar ch || ch == 91 || ch == 93 then .server
  else .dead

def parseUrlChar (s : UrlState) (ch : UInt8) : UrlState :=
  if ch = 32 ∨ ch = 13 ∨ ch = 10 ∨ ch = 9 ∨ ch = 12 then .dead
  else match s with
    | .spacesBeforeUrl =>
        if ch = 47 ∨ ch = 42 then .path
        else if isAlpha ch then .schema
        else .dead
    | .schema =>
        if isAlpha ch then .schema
        else if ch = 58 then .schemaSlash
        else .dead
    | .schemaSlash => if ch = 47 then .schemaSlashSlash else .dead
    | .schemaSlashSlash => if ch = 47 then .serverStart else .dead
    | .serverWithAt => if ch = 64 then .dead else parseServerChar ch
    | .serverStart => parseServerChar ch
    | .server => parseServerChar ch
    | .path =>
        if isUrlChar ch then .path
        else if ch = 63 then .queryStringStart
        else if ch = 35 then .fragmentStart
        else .dead
    | .queryStringStart | .queryString =>
        if isUrlChar ch then .queryString
        else if ch = 63 then .queryString
        else if ch = 35 then .fragmentStart
        else .dead
    | .fragmentStart =>
        if isUrlChar ch then .fragment
        else if ch = 63 then .fragment
        else if ch = 35 then .fragmentStart
        else .dead
    | .fragment =>
        if isUrlChar ch then .fragment
        else if ch = 63 ∨ ch = 35 then .fragment
        else .dead
    | .dead => .dead

/-! ## `http_parser_parse_url` -/

inductive UrlField where
  | schema
  | host
  | port
  | path
  | query
  | fragment
  | userinfo
  deriving DecidableEq, Repr

/-- An entry of `field_data`: both numbers have 16 bits, however long the URL is. -/
structure Span where
  off : UInt16
  len : UInt16
  deriving DecidableEq, Repr

def Span.get (span : Span) (text : Bytes) : Bytes :=
  (text.drop span.off.toNat).take span.len.toNat

def Span.grow (span : Span) : Span := { span with len := span.len + 1 }

abbrev UrlFields := UrlField → Option Span

def UrlFields.set (fields : UrlFields) (field : UrlField) (span : Option Span) : UrlFields :=
  fun other => if other = field then span else fields other

structure UrlScan where
  state : UrlState
  oldField : Option UrlField
  foundAt : Bool
  fields : UrlFields

def UrlScan.start : UrlScan := ⟨.spacesBeforeUrl, none, false, fun _ => none⟩

def UrlScan.extend (scan : UrlScan) (position : Nat) (field : UrlField) : UrlScan :=
  { scan with
    oldField := some field
    fields := scan.fields.set field
      (if scan.oldField = some field then (scan.fields field).map .grow
      else some ⟨.ofNat position, 1⟩) }

def scanChar (position : Nat) (scan : UrlScan) (ch : UInt8) : Option UrlScan :=
  let state := parseUrlChar scan.state ch
  let scan := { scan with state := state }
  match state with
  | .dead => none
  | .schemaSlash | .schemaSlashSlash | .serverStart | .queryStringStart | .fragmentStart => some scan
  | .schema => some (scan.extend position .schema)
  | .serverWithAt => some ({ scan with foundAt := true }.extend position .host)
  | .server => some (scan.extend position .host)
  | .path => some (scan.extend position .path)
  | .queryString => some (scan.extend position .query)
  | .fragment => some (scan.extend position .fragment)
  | .spacesBeforeUrl => none

def scanUrl : Nat → UrlScan → Bytes → Option UrlScan
  | _, scan, [] => some scan
  | position, scan, ch :: rest =>
      match scanChar position scan ch with
      | none => none
      | some scan => scanUrl (position + 1) scan rest

inductive HostState where
  | userinfoStart
  | userinfo
  | hostStart
  | hostV6Start
  | host
  | hostV6
  | hostV6End
  | hostV6ZoneStart
  | hostV6Zone
  | hostPortStart
  | hostPort
  | hostDead
  deriving DecidableEq, Repr

def isZoneChar (ch : UInt8) : Bool := isAlphaNum ch || (bytes "%.-_~").contains ch

def parseHostChar (s : HostState) (ch : UInt8) : HostState :=
  match s with
  | .userinfo | .userinfoStart =>
      if ch = 64 then .hostStart
      else if isUserinfoChar ch then .userinfo
      else .hostDead
  | .hostStart =>
      if ch = 91 then .hostV6Start
      else if isHostChar ch then .host
      else .hostDead
  | .host =>
      if isHostChar ch then .host
      else if ch = 58 then .hostPortStart
      else .hostDead
  | .hostV6End => if ch = 58 then .hostPortStart else .hostDead
  | .hostV6 =>
      if ch = 93 then .hostV6End
      else if isHex ch || ch == 58 || ch == 46 then .hostV6
      else if ch = 37 then .hostV6ZoneStart
      else .hostDead
  | .hostV6Start => if isHex ch || ch == 58 || ch == 46 then .hostV6 else .hostDead
  | .hostV6Zone =>
      if ch = 93 then .hostV6End
      else if isZoneChar ch then .hostV6Zone
      else .hostDead
  | .hostV6ZoneStart => if isZoneChar ch then .hostV6Zone else .hostDead
  | .hostPort | .hostPortStart => if isNum ch then .hostPort else .hostDead
  | .hostDead => .hostDead

structure HostScan where
  state : HostState
  host : Span
  port : Option Span
  userinfo : Option Span
  deriving DecidableEq, Repr

def Span.further (continued : Bool) (position : Nat) (span : Option Span) : Option Span :=
  if continued then span.map .grow else some ⟨.ofNat position, 1⟩

def hostChar (position : Nat) (scan : HostScan) (ch : UInt8) : Option HostScan :=
  let state := parseHostChar scan.state ch
  let next := { scan with state := state }
  match state with
  | .hostDead => none
  | .host | .hostV6 =>
      let off := if scan.state = state then scan.host.off else .ofNat position
      some { next with host := ⟨off, scan.host.len + 1⟩ }
  | .hostV6ZoneStart | .hostV6Zone => some { next with host := scan.host.grow }
  | .hostPort => some { next with port := Span.further (scan.state = .hostPort) position scan.port }
  | .userinfo => some { next with userinfo := Span.further (scan.state = .userinfo) position scan.userinfo }
  | _ => some next

def scanHost : Nat → HostScan → Bytes → Option HostScan
  | _, scan, [] => some scan
  | position, scan, ch :: rest =>
      match hostChar position scan ch with
      | none => none
      | some scan => scanHost (position + 1) scan rest

def HostState.final : HostState → Bool
  | .host | .hostV6End | .hostPort => true
  | _ => false

def parseHost (text : Bytes) (span : Span) (foundAt : Bool) (fields : UrlFields) : Option UrlFields :=
  let start := if foundAt then HostState.userinfoStart else .hostStart
  match scanHost span.off.toNat ⟨start, ⟨span.off, 0⟩, none, none⟩ (span.get text) with
  | none => none
  | some scan =>
      if scan.state.final then
        some (((fields.set .host (some scan.host)).set .port scan.port).set .userinfo scan.userinfo)
      else none

def digitsValue (text : Bytes) : Nat :=
  (text.takeWhile isNum).foldl (fun value digit => value * 10 + (digit.toNat - 48)) 0

/-- `strtoul` in base 10 on a text without white space. -/
def strtoul : Bytes → Nat
  | 43 :: rest => min (digitsValue rest) (2 ^ 64 - 1)
  | 45 :: rest => if digitsValue rest < 2 ^ 64 then (2 ^ 64 - digitsValue rest) % 2 ^ 64 else 2 ^ 64 - 1
  | text => min (digitsValue text) (2 ^ 64 - 1)

def httpParserParseUrl (text : Bytes) : Option UrlFields :=
  match scanUrl 0 .start text with
  | none => none
  | some scan =>
      if (scan.fields .schema).isSome && (scan.fields .host).isNone then none
      else
        let parsed := match scan.fields .host with
          | some span => parseHost text span scan.foundAt scan.fields
          | none => some scan.fields
        match parsed with
        | none => none
        | some fields =>
            match fields .port with
            | some port => if strtoul (text.drop port.off.toNat) > 0xffff then none else some fields
            | none => some fields

/-! ## `Url::Set` -/

def UrlFields.get (fields : UrlFields) (text : Bytes) (field : UrlField) (defaultValue : String) : Bytes :=
  match fields field with
  | some span => span.get text
  | none => bytes defaultValue

def schemeOf (name : Bytes) : Scheme :=
  if name = bytes "http" then .http
  else if name = bytes "https" then .https
  else .other name

def defaultPort : Scheme → String
  | .http => "80"
  | .https => "443"
  | .other _ => ""

/-- `Url::Set`, which drops the fragment; `none` when the URL is not valid. -/
def urlSet (text : Bytes) : Option Url :=
  match httpParserParseUrl text with
  | none => none
  | some fields =>
      let scheme := schemeOf ((fields.get text .schema "http").map toLower)
      let path := fields.get text .path ""
      let query := fields.get text .query ""
      some {
        scheme := scheme
        host := (fields.get text .host "").map toLower
        port := fields.get text .port (defaultPort scheme)
        path := if query = [] then path else path ++ bytes "?" ++ query }

end IotClient.Net
