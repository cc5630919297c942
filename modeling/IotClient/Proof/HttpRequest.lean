import IotClient.Proof.HttpErrors
import IotClient.Proof.Url

namespace IotClient.Net

open Logic HttpClient

/-! ## Writing -/

theorem Delivers.refl (network : NetworkImpl) : Delivers network network [] := by
  intro transport
  simp

theorem Delivers.trans {before between after : NetworkImpl} {first second : Bytes}
    (earlier : Delivers before between first) (same : between.connection = before.connection)
    (later : Delivers between after second) : Delivers before after (first ++ second) := by
  intro transport
  rw [later transport, earlier transport, same]
  by_cases used : before.connection = some transport <;> simp [used]

structure Wrote (data : Bytes) (res : Int) (before after : Connection) : Prop where
  short : res.toNat ≤ data.length
  connected : after.connected = true
  trace : written after.trace = written before.trace ++ data.take res.toNat

section Connections

variable {strerror : Int → Bytes} {data : Bytes} {timeoutMillisec : Int} {writing : Writing}

theorem TcpConnection.write_pos {before : TcpConnection}
    (positive : ¬(before.write strerror data timeoutMillisec writing).1 ≤ 0) :
    Wrote data (before.write strerror data timeoutMillisec writing).1 before.toConnection
      (before.write strerror data timeoutMillisec writing).2.toConnection := by
  revert positive
  simp only [TcpConnection.write]
  split
  next => exact fun positive => absurd (by simp) positive
  next connected =>
    split
    next => exact fun positive => absurd (by simp) positive
    next =>
      cases writing with
      | failed code nonpositive => exact fun positive => absurd nonpositive positive
      | wrote more =>
          intro
          exact ⟨by simp only [Int.toNat_natCast]; omega, by simpa [Connection.calls] using connected, rfl⟩

theorem TlsConnection.write_pos {before : TlsConnection}
    (positive : ¬(before.write strerror data timeoutMillisec writing).1 ≤ 0) :
    Wrote data (before.write strerror data timeoutMillisec writing).1 before.toConnection
      (before.write strerror data timeoutMillisec writing).2.toConnection := by
  revert positive
  simp only [TlsConnection.write]
  split
  next => exact fun positive => absurd (by simp) positive
  next connected =>
    split
    next => exact fun positive => absurd (by simp) positive
    next =>
      cases writing with
      | failed code nonpositive => exact fun positive => absurd nonpositive positive
      | wrote more =>
          intro
          exact ⟨by simp only [Int.toNat_natCast]; omega, by simpa [Connection.calls] using connected, rfl⟩

theorem NetworkImpl.write_pos {before : NetworkImpl}
    (positive : ¬(before.write strerror data timeoutMillisec writing).1 ≤ 0) :
    (before.write strerror data timeoutMillisec writing).1.toNat ≤ data.length ∧
      (before.write strerror data timeoutMillisec writing).2.connection = before.connection ∧
      Delivers before (before.write strerror data timeoutMillisec writing).2
        (data.take (before.write strerror data timeoutMillisec writing).1.toNat) := by
  cases current : before.connection with
  | none =>
      simp only [NetworkImpl.write, current] at positive
      exact absurd (by decide) positive
  | some transport =>
      cases transport with
      | tcp =>
          simp only [NetworkImpl.write, current] at positive ⊢
          have wrote := TcpConnection.write_pos positive
          refine ⟨wrote.short, by simp [stillConnected, wrote.connected], ?_⟩
          rintro (_ | _) <;> simp [NetworkImpl.sent, current, wrote.trace]
      | tls =>
          simp only [NetworkImpl.write, current] at positive ⊢
          have wrote := TlsConnection.write_pos positive
          refine ⟨wrote.short, by simp [stillConnected, wrote.connected], ?_⟩
          rintro (_ | _) <;> simp [NetworkImpl.sent, current, wrote.trace]

end Connections

theorem portion_take {data : Bytes} {count : Nat} (short : count ≤ (portion data).length) :
    (portion data).take count = data.take count := by
  simp only [portion, List.length_take] at short ⊢
  rw [List.take_take]
  congr 1
  omega

theorem portion_length {data : Bytes} (long : 2 ^ 31 ≤ data.length) :
    (portion data).length + 2 ^ 31 ≤ data.length := by
  simp only [portion, List.length_take, intOfSize]
  split <;> omega

structure WritesAll (data : Bytes) (before after : NetworkImpl) : Prop where
  short : data.length < 2 ^ 31
  connection : after.connection = before.connection
  delivers : Delivers before after data

theorem writeLoop_true {strerror : Int → Bytes} {writings rest : List Writing} {data : Bytes}
    {before after : HttpClient} (call : writeLoop strerror writings data before = ((true, rest), after)) :
    WritesAll data before.network after.network := by
  induction writings generalizing data before with
  | nil =>
      cases data with
      | nil =>
          cases call
          exact ⟨by simp, rfl, .refl _⟩
      | cons first more => simp [writeLoop] at call
  | cons writing writings continued =>
      cases data with
      | nil =>
          cases call
          exact ⟨by simp, rfl, .refl _⟩
      | cons first more =>
          simp only [writeLoop] at call
          split at call
          next => simp at call
          next positive =>
            have wrote := NetworkImpl.write_pos positive
            have later := continued call
            generalize (before.network.write strerror (portion (first :: more)) before.timeout writing).1.toNat =
              count at wrote later
            obtain ⟨short, connection, delivers⟩ := wrote
            rw [portion_take short] at delivers
            refine ⟨?_, later.connection.trans connection, ?_⟩
            · have left := later.short
              rw [List.length_drop] at left
              refine Decidable.byContradiction fun long => ?_
              have least := portion_length (Nat.le_of_not_lt long)
              omega
            · have all := delivers.trans connection later.delivers
              rwa [List.take_append_drop] at all

theorem write_true {strerror : Int → Bytes} {data : Bytes} {before after : HttpWorld}
    (call : HttpClient.write strerror data before = .ok true after) :
    WritesAll data before.client.network after.client.network := by
  simp only [HttpClient.write, run_modifyGet_eq_ok] at call
  cases run : writeLoop strerror before.peer.writings data before.client with
  | mk result client =>
      simp only [run, Prod.mk.injEq] at call
      obtain ⟨written, rfl⟩ := call
      exact writeLoop_true (run.trans (by rw [← written]))

theorem writeAll_true {strerror : Int → Bytes} {pieces : List Bytes} {before after : HttpWorld}
    (call : writeAll strerror pieces before = .ok true after) :
    (∀ piece ∈ pieces, piece.length < 2 ^ 31) ∧
      after.client.network.connection = before.client.network.connection ∧
        Delivers before.client.network after.client.network pieces.flatten := by
  induction pieces generalizing before with
  | nil =>
      simp only [writeAll, run_pure_eq_ok] at call
      obtain ⟨-, rfl⟩ := call
      exact ⟨by simp, rfl, .refl _⟩
  | cons piece rest continued =>
      simp only [writeAll, run_bind_eq_ok] at call
      obtain ⟨written, between, first, call⟩ := call
      cases written with
      | false => simp at call
      | true =>
          have wrote := write_true first
          obtain ⟨short, connection, delivers⟩ := continued call
          refine ⟨?_, connection.trans wrote.connection, wrote.delivers.trans wrote.connection delivers⟩
          simp only [List.mem_cons, forall_eq_or_imp]
          exact ⟨wrote.short, short⟩

def requestText (method : Method) (url : Url) (headers : StringMap) (data : Bytes) : Bytes :=
  requestLine (methodToString method) url ++
    (((requestHeaders method url headers data).entries.map fun header => headerLine header.1 header.2).flatten ++
      (bytes "\r\n" ++ if method.sendsBody then data else []))

theorem requestPieces_flatten (method : Method) (url : Url) (headers : StringMap) (data : Bytes) :
    (requestPieces method url headers data).flatten = requestText method url headers data := by
  unfold requestPieces requestText
  cases method.sendsBody <;> simp

section SendRequest

variable {method : Method} {url : Url} {headers : StringMap} {data : Bytes}

theorem pieces_short_iff :
    (∀ piece ∈ requestPieces method url headers data, piece.length < 2 ^ 31) ↔
      (requestLine (methodToString method) url).length < 2 ^ 31 ∧ Writable method url headers data := by
  have blank : (bytes "\r\n").length < 2 ^ 31 := by decide
  simp only [requestPieces, Writable, List.cons_append, List.forall_mem_cons, List.forall_mem_append,
    List.forall_mem_map, blank, true_and]
  cases method.sendsBody <;> simp

theorem sendRequest_true {strerror : Int → Bytes} {before after : HttpWorld}
    (call : sendRequest strerror method url headers data before = .ok true after) :
    Writable method url headers data ∧
      Delivers before.client.network after.client.network (requestText method url headers data) := by
  rw [sendRequest_eq] at call
  obtain ⟨short, -, delivers⟩ := writeAll_true call
  rw [requestPieces_flatten] at delivers
  exact ⟨(pieces_short_iff.mp short).2, delivers⟩

/-! ## A network that takes everything -/

def offers (data : Bytes) : List Writing :=
  if data = [] then [] else [.wrote data.length]

theorem accepted_offers {data : Bytes} (short : data.length < 2 ^ 31) (later : List Writing) :
    accepted (offers data ++ later) data = some later := by
  cases data with
  | nil => cases later <;> rfl
  | cons first more =>
      have whole : portion (first :: more) = first :: more := by
        rw [portion, List.take_of_length_le]
        simp only [intOfSize]
        split <;> omega
      have all : (Writing.wrote (first :: more).length).result (first :: more) = (first :: more).length := by
        simp [Writing.result]
      have positive : ¬((first :: more).length : Int) ≤ 0 := by
        rw [List.length_cons]
        omega
      simp only [offers, reduceCtorEq, if_false, List.cons_append, List.nil_append, accepted, whole, all, positive,
        Int.toNat_natCast, List.drop_length]

theorem acceptedAll_offers {pieces : List Bytes} (short : ∀ piece ∈ pieces, piece.length < 2 ^ 31) :
    acceptedAll (pieces.flatMap offers) pieces = true := by
  induction pieces with
  | nil => rfl
  | cons piece rest continued =>
      simp only [List.mem_cons, forall_eq_or_imp] at short
      rw [List.flatMap_cons, acceptedAll, accepted_offers short.1]
      exact continued short.2

theorem sendRequest_obliged (strerror : Int → Bytes)
    (line : (requestLine (methodToString method) url).length < 2 ^ 31) (writable : Writable method url headers data) :
    ∃ before after, sendRequest strerror method url headers data before = .ok true after ∧
      before.client.network.connection = some .tcp := by
  let network : NetworkImpl := ⟨⟨{ Connection.new with connected := true }⟩, ⟨.new, false, false⟩, some .tcp, none⟩
  let writings := (requestPieces method url headers data).flatMap offers
  let before : HttpWorld := ⟨⟨network, 0, .reset, none⟩, ⟨⟨0, 0, 0, 0, 0⟩, writings, []⟩⟩
  have ready : Ready before.client := ⟨⟨.tcp, rfl, rfl⟩, rfl⟩
  obtain ⟨after, run, -⟩ := (writeAll_ready strerror _ ready).2 (acceptedAll_offers (pieces_short_iff.mpr ⟨line, writable⟩))
  rw [← sendRequest_eq] at run
  exact ⟨before, after, run, rfl⟩

end SendRequest

/-! ## Reading the text -/

theorem takeLine_append {line : Bytes} (unbroken : 13 ∉ line) (rest : Bytes) :
    takeLine (line ++ 13 :: 10 :: rest) = some (line, rest) := by
  induction line with
  | nil => rfl
  | cons c line continued =>
      simp only [List.mem_cons, not_or] at unbroken
      rw [List.cons_append, takeLine, continued unbroken.2]
      · rfl
      · intro later same
        exact absurd same.symm (by simp [unbroken.1])

theorem cut_append {separator : UInt8} {front : Bytes} (absent : separator ∉ front) (rest : Bytes) :
    cut separator (front ++ separator :: rest) = some (front, rest) := by
  induction front with
  | nil => simp [cut]
  | cons c front continued =>
      simp only [List.mem_cons, not_or] at absent
      have other : ¬c = separator := fun same => absent.1 same.symm
      simp [cut, other, continued absent.2]

theorem trim_blank (text : Bytes) : trim (32 :: text) = trim text := by
  simp [trim, isBlank]

theorem trim_plain {text : Bytes} (plain : ∀ c ∈ text, isBlank c = false) : trim text = text := by
  have front : ∀ {text : Bytes}, (∀ c ∈ text, isBlank c = false) → text.dropWhile isBlank = text := by
    intro text plain
    cases text with
    | nil => rfl
    | cons c rest => exact List.dropWhile_cons_of_neg (by simp [plain c List.mem_cons_self])
  rw [trim, front plain, front (by simpa using plain), List.reverse_reverse]

def headerLines (headers : List (Bytes × Bytes)) : Bytes :=
  (headers.map fun header => headerLine header.1 header.2).flatten

def trimmed (headers : List (Bytes × Bytes)) : List (Bytes × Bytes) :=
  headers.map fun header => (header.1, trim header.2)

theorem readFields_headerLines {headers : List (Bytes × Bytes)}
    (clean : ∀ header ∈ headers, (13 ∉ header.1 ∧ 58 ∉ header.1) ∧ 13 ∉ header.2) (rest : Bytes) {lines : Nat}
    (enough : headers.length < lines) :
    readFields lines (headerLines headers ++ 13 :: 10 :: rest) = some (trimmed headers, rest) := by
  induction headers generalizing lines with
  | nil =>
      obtain ⟨lines, rfl⟩ : ∃ less, lines = less + 1 := ⟨lines - 1, by simp at enough; omega⟩
      rfl
  | cons header headers continued =>
      obtain ⟨lines, rfl⟩ : ∃ less, lines = less + 1 := ⟨lines - 1, by simp at enough; omega⟩
      simp only [List.mem_cons, forall_eq_or_imp] at clean
      obtain ⟨⟨⟨nameLine, nameColon⟩, value⟩, clean⟩ := clean
      have text : headerLines (header :: headers) ++ 13 :: 10 :: rest =
          (header.1 ++ 58 :: 32 :: header.2) ++ 13 :: 10 :: (headerLines headers ++ 13 :: 10 :: rest) := by
        simp [headerLines, headerLine, bytes]
      have unbroken : 13 ∉ header.1 ++ 58 :: 32 :: header.2 := by
        simp [nameLine, value]
      have later : readFields lines (headerLines headers ++ 13 :: 10 :: rest) = some (trimmed headers, rest) :=
        continued clean (by simp at enough; omega)
      rw [text, readFields, takeLine_append unbroken]
      cases line : header.1 ++ 58 :: 32 :: header.2 with
      | nil => simp at line
      | cons c more =>
          simp only [later]
          rw [← line, cut_append nameColon]
          simp [trimmed, trim_blank]

theorem headerLines_length (headers : List (Bytes × Bytes)) : headers.length ≤ (headerLines headers).length := by
  induction headers with
  | nil => exact Nat.le_refl _
  | cons header headers continued =>
      have line : 1 ≤ (headerLine header.1 header.2).length := by
        simp only [headerLine, List.length_append]
        rw [show (bytes ": ").length = 2 from rfl]
        omega
      simp only [headerLines, List.map_cons, List.flatten_cons, List.length_append, List.length_cons] at continued ⊢
      omega

theorem readMessage_requestText {method : Method} {url : Url} {headers : StringMap} {data : Bytes}
    (path : 32 ∉ url.path ∧ 13 ∉ url.path)
    (clean : ∀ header ∈ (requestHeaders method url headers data).entries,
      (13 ∉ header.1 ∧ 58 ∉ header.1) ∧ 13 ∉ header.2) :
    readMessage (requestText method url headers data) =
      (bodyLength (trimmed (requestHeaders method url headers data).entries)).bind fun length =>
        let body := if method.sendsBody then data else []
        if body.length < length then none
        else some (⟨bytes (methodToString method), if url.path = [] then bytes "/" else url.path,
          trimmed (requestHeaders method url headers data).entries, body.take length⟩, body.drop length) := by
  generalize target : (if url.path = [] then bytes "/" else url.path) = path'
  have plain : 32 ∉ path' ∧ 13 ∉ path' := by
    rw [← target]
    split
    · decide
    · exact path
  have name : 32 ∉ bytes (methodToString method) ∧ 13 ∉ bytes (methodToString method) := by
    cases method <;> simp only [methodToString] <;> decide
  generalize body : (if method.sendsBody then data else []) = body'
  have text : requestText method url headers data =
      (bytes (methodToString method) ++ 32 :: (path' ++ 32 :: bytes "HTTP/1.1")) ++
        13 :: 10 :: (headerLines (requestHeaders method url headers data).entries ++ 13 :: 10 :: body') := by
    simp only [requestText, requestLine, target, body, headerLines]
    simp [bytes]
  have unbroken : 13 ∉ bytes (methodToString method) ++ 32 :: (path' ++ 32 :: bytes "HTTP/1.1") := by
    simp only [List.mem_append, List.mem_cons, name.2, plain.2, false_or]
    decide
  have enough := headerLines_length (requestHeaders method url headers data).entries
  have fields := @readFields_headerLines _ clean body'
    (headerLines (requestHeaders method url headers data).entries ++ 13 :: 10 :: body').length
    (by simp only [List.length_append, List.length_cons]; omega)
  simp only [readMessage, text, takeLine_append unbroken, cut_append name.1, cut_append plain.1, fields,
    Option.bind_eq_bind, Option.bind_some, if_true]

/-! ## The headers -/

def ownHeaders (method : Method) (url : Url) (data : Bytes) : List (Bytes × Bytes) :=
  [(bytes "Host", url.host), (bytes "Connection", bytes "close")] ++
    if method.sendsBody then [(bytes "Content-Length", bytes (toString data.length))] else []

def isOwn (method : Method) (name : Bytes) : Prop :=
  name = bytes "Host" ∨ name = bytes "Connection" ∨ method.sendsBody ∧ name = bytes "Content-Length"

instance (method : Method) (name : Bytes) : Decidable (isOwn method name) :=
  inferInstanceAs (Decidable (_ ∨ _ ∨ _ ∧ _))

theorem requestHeaders_perm (method : Method) (url : Url) (headers : StringMap) (data : Bytes) :
    (requestHeaders method url headers data).entries.Perm
      (ownHeaders method url data ++ headers.entries.filter fun header => ¬isOwn method header.1) := by
  generalize made : ((if method.sendsBody then
      (SortedMap.empty.set (bytes "Host") url.host).set (bytes "Content-Length") (bytes (toString data.length))
    else SortedMap.empty.set (bytes "Host") url.host).set (bytes "Connection") (bytes "close")) = own
  have entries : own.entries.Perm (ownHeaders method url data) := by
    rw [← made, ownHeaders]
    cases method.sendsBody with
    | true => exact @List.perm_append_comm _ [_, _] [_]
    | false => exact .swap _ _ _
  have keys : ∀ name, name ∈ own.keys ↔ isOwn method name := by
    intro name
    rw [SortedMap.keys, (entries.map Prod.fst).mem_iff, ownHeaders, isOwn]
    cases method.sendsBody <;> simp
  rw [requestHeaders, made]
  refine (SortedMap.insertAll_perm own headers.distinct).trans ((entries.append_right _).trans (.of_eq ?_))
  congr 1
  exact List.filter_congr fun header _ => by simp [keys]

/-! ## What the fields tell -/

theorem isNum_of_isDigit {c : Char} (digit : c.isDigit) :
    isNum (UInt8.ofNat c.toNat) ∧ (UInt8.ofNat c.toNat).toNat = c.toNat := by
  simp only [Char.isDigit, ge_iff_le, Bool.and_eq_true, decide_eq_true_eq, UInt32.le_iff_toNat_le] at digit
  have low : 48 ≤ c.toNat := digit.1
  have high : c.toNat ≤ 57 := digit.2
  have same : (UInt8.ofNat c.toNat).toNat = c.toNat := by
    rw [UInt8.toNat_ofNat']
    omega
  refine ⟨?_, same⟩
  simp only [isNum, Bool.and_eq_true, decide_eq_true_eq, UInt8.le_iff_toNat_le, same]
  exact ⟨low, high⟩

theorem decimalValue_toString (n : Nat) : decimalValue (bytes (toString n)) = some n := by
  have text : bytes (toString n) = (Nat.toDigits 10 n).map fun c => UInt8.ofNat c.toNat := by
    rw [bytes, Nat.toString_eq_ofList_toDigits, String.toList_ofList]
  have digits : ∀ c ∈ Nat.toDigits 10 n, isNum (UInt8.ofNat c.toNat) ∧ (UInt8.ofNat c.toNat).toNat = c.toNat :=
    fun c member => isNum_of_isDigit (Nat.isDigit_of_mem_toDigits (by decide) (by decide) member)
  have fold : ∀ (l : List Char) (value : Nat), (∀ c ∈ l, (UInt8.ofNat c.toNat).toNat = c.toNat) →
      (l.map fun c => UInt8.ofNat c.toNat).foldl (fun value digit => value * 10 + (digit.toNat - 48)) value =
        Nat.ofDigitChars 10 l value := by
    intro l
    induction l with
    | nil => exact fun _ _ => rfl
    | cons c l continued =>
        intro value plain
        rw [List.map_cons, List.foldl_cons, Nat.ofDigitChars_cons, plain c List.mem_cons_self, Nat.mul_comm value]
        exact continued _ fun c member => plain c (List.mem_cons_of_mem _ member)
  have numbers : ∀ c ∈ (Nat.toDigits 10 n).map fun c => UInt8.ofNat c.toNat, isNum c := by
    simpa using fun c member => (digits c member).1
  have whole := @List.takeWhile_append_of_pos _ isNum _ [] numbers
  rw [List.append_nil, List.takeWhile_nil, List.append_nil] at whole
  rw [decimalValue, text, if_pos ⟨by simp [Nat.toDigits_ne_nil], List.all_eq_true.2 numbers⟩, digitsValue, whole,
    fold _ _ fun c member => (digits c member).2, Nat.ofDigitChars_ten_toDigits]

theorem authority_eq_host_iff (url : Url) :
    authority url = url.host ↔ decimalValue url.port = standardPort url.scheme ∧ 58 ∉ url.host := by
  have lone : (bytes "[").length = 1 ∧ (bytes "]").length = 1 ∧ (bytes ":").length = 1 := ⟨rfl, rfl, rfl⟩
  constructor
  · intro same
    have lengths := congrArg List.length same
    simp only [authority] at lengths
    split at lengths <;> split at lengths <;>
      simp only [List.length_append, lone] at lengths
    all_goals first | omega | simp_all
  · rintro ⟨port, plain⟩
    simp [authority, port, plain]

theorem toLower_graphic {c : UInt8} (graphic : 33 ≤ c ∧ c ≤ 126) : toLower c ≠ 13 ∧ isBlank (toLower c) = false := by
  have all : ∀ n : Fin 256, 33 ≤ UInt8.ofFin n ∧ UInt8.ofFin n ≤ 126 →
      toLower (UInt8.ofFin n) ≠ 13 ∧ isBlank (toLower (UInt8.ofFin n)) = false := by decide +kernel
  exact all c.toFin graphic

theorem isNum_plain {c : UInt8} (digit : isNum c) : c ≠ 13 ∧ isBlank c = false := by
  have all : ∀ n : Fin 256, isNum (UInt8.ofFin n) → UInt8.ofFin n ≠ 13 ∧ isBlank (UInt8.ofFin n) = false := by
    decide +kernel
  exact all c.toFin digit

theorem toString_plain (n : Nat) : ∀ c ∈ bytes (toString n), c ≠ 13 ∧ isBlank c = false := by
  intro c member
  have value := decimalValue_toString n
  simp only [decimalValue] at value
  split at value
  next decimal => exact isNum_plain (List.all_eq_true.1 decimal.2 c member)
  next => cases value

section Request

variable {text : Bytes} {method : Method} {url : Url} {headers : StringMap} {data : Bytes}

theorem ownHeaders_plain (graphic : ∀ c ∈ url.host, c ≠ 13 ∧ isBlank c = false) {header : Bytes × Bytes}
    (member : header ∈ ownHeaders method url data) :
    isOwn method header.1 ∧ ∀ c ∈ header.2, c ≠ 13 ∧ isBlank c = false := by
  simp only [ownHeaders, List.cons_append, List.nil_append, List.mem_cons] at member
  rcases member with rfl | rfl | member
  · exact ⟨.inl rfl, graphic⟩
  · exact ⟨.inr (.inl rfl), by decide +kernel⟩
  · split at member
    next sends =>
      cases List.mem_singleton.1 member
      exact ⟨.inr (.inr ⟨sends, rfl⟩), toString_plain _⟩
    next => cases member

theorem isOwn_plain {name : Bytes} (own : isOwn method name) :
    (13 ∉ name ∧ 58 ∉ name) ∧ reserved name ∧ sameName name "Transfer-Encoding" = false := by
  rcases own with rfl | rfl | ⟨-, rfl⟩ <;> decide

theorem trimmed_ownHeaders (graphic : ∀ c ∈ url.host, c ≠ 13 ∧ isBlank c = false) :
    trimmed (ownHeaders method url data) = ownHeaders method url data := by
  have same : ∀ header ∈ ownHeaders method url data, (header.1, trim header.2) = header := by
    intro header member
    rw [trim_plain fun c inside => ((ownHeaders_plain graphic member).2 c inside).2]
  rw [trimmed, List.map_congr_left same, List.map_id']

theorem fields_perm (graphic : ∀ c ∈ url.host, c ≠ 13 ∧ isBlank c = false) :
    (trimmed (requestHeaders method url headers data).entries).Perm
      (ownHeaders method url data ++ trimmed (headers.entries.filter fun header => ¬isOwn method header.1)) := by
  have perm := (requestHeaders_perm method url headers data).map fun header => (header.1, trim header.2)
  rw [List.map_append] at perm
  rw [trimmed, ← @trimmed_ownHeaders method url data graphic]
  exact perm

theorem requestHeaders_clean (graphic : ∀ c ∈ url.host, c ≠ 13 ∧ isBlank c = false) (clean : Clean headers) :
    ∀ header ∈ (requestHeaders method url headers data).entries,
      (13 ∉ header.1 ∧ 58 ∉ header.1) ∧ 13 ∉ header.2 := by
  intro header member
  rcases List.mem_append.1 ((requestHeaders_perm method url headers data).mem_iff.1 member) with own | callers
  · have plain := ownHeaders_plain graphic own
    exact ⟨(isOwn_plain plain.1).1, fun inside => (plain.2 13 inside).1 rfl⟩
  · have unbroken := clean header ((List.mem_filter.1 callers).1)
    exact ⟨⟨unbroken.1.1, unbroken.1.2.2⟩, unbroken.2.1⟩

theorem fieldValues_perm {name : String} {first second : List (Bytes × Bytes)} (perm : first.Perm second) :
    (fieldValues name first).Perm (fieldValues name second) :=
  (perm.filter _).map _

theorem fieldValues_append (name : String) (first second : List (Bytes × Bytes)) :
    fieldValues name (first ++ second) = fieldValues name first ++ fieldValues name second := by
  simp [fieldValues]

theorem fieldValues_ownHeaders (method : Method) (url : Url) (data : Bytes) :
    fieldValues "Transfer-Encoding" (ownHeaders method url data) = [] ∧
      fieldValues "Content-Length" (ownHeaders method url data) =
        if method.sendsBody then [bytes (toString data.length)] else [] := by
  have names : sameName (bytes "Host") "Transfer-Encoding" = false ∧
      sameName (bytes "Connection") "Transfer-Encoding" = false ∧
      sameName (bytes "Content-Length") "Transfer-Encoding" = false ∧
      sameName (bytes "Host") "Content-Length" = false ∧ sameName (bytes "Connection") "Content-Length" = false ∧
      sameName (bytes "Content-Length") "Content-Length" = true := by decide
  cases sends : method.sendsBody <;> simp [fieldValues, ownHeaders, sends, names]

theorem fieldValues_trimmed_nil {name : String} {entries : List (Bytes × Bytes)}
    (other : ∀ header ∈ entries, sameName header.1 name = false) : fieldValues name (trimmed entries) = [] := by
  simp only [fieldValues, trimmed, List.map_eq_nil_iff, List.filter_eq_nil_iff, List.mem_map]
  rintro field ⟨header, member, rfl⟩
  simp [other header member]

theorem requestTarget_rooted (text : Bytes) : (requestTarget text).head? = some 47 := by
  by_cases none : urlPath text = []
  · simp only [requestTarget, none, if_true]
    rfl
  · have starts : (urlPath text).head? = some 47 := by
      simp only [urlPath, pathPart] at none ⊢
      cases hier : afterAuthority text with
      | nil => simp [hier] at none
      | cons c rest =>
          rw [hier] at none
          have stop : endsAuthority c := by
            have first := @List.head?_dropWhile_not _ (fun c => !endsAuthority c)
              ((text.dropWhile (· != 58)).drop 3)
            rw [← afterAuthority, hier] at first
            simpa using first
          have goes : endsPath c = false := by
            refine Decidable.byContradiction fun ends => none ?_
            exact List.takeWhile_cons_of_neg (by simpa using ends)
          rw [List.takeWhile_cons_of_pos (by simp [goes]), List.head?_cons]
          simp only [endsAuthority, endsPath, Bool.or_eq_true, beq_iff_eq, Bool.or_eq_false_iff, beq_eq_false_iff_ne]
            at stop goes
          simp_all
    simp only [requestTarget, none, if_false]
    cases path : urlPath text with
    | nil => exact absurd path none
    | cons c rest =>
        rw [path] at starts
        simpa using starts

def kept (method : Method) (headers : StringMap) : List (Bytes × Bytes) :=
  headers.entries.filter fun header => ¬isOwn method header.1

theorem mem_kept {header : Bytes × Bytes} :
    header ∈ kept method headers ↔ header ∈ headers.entries ∧ ¬isOwn method header.1 := by
  simp [kept]

variable {fields : List (Bytes × Bytes)}

theorem named_of_perm (perm : fields.Perm (ownHeaders method url data ++ trimmed (kept method headers)))
    (expected : fields.Perm (ownFields method url data ++ callersFields headers)) :
    authority url = url.host := by
  have member : (bytes "Host", url.host) ∈ fields := perm.mem_iff.2 (List.mem_append_left _ List.mem_cons_self)
  rcases List.mem_append.1 (expected.mem_iff.1 member) with own | callers
  · have names : bytes "Host" ≠ bytes "Connection" ∧ bytes "Host" ≠ bytes "Content-Length" := by decide
    simp only [ownFields, List.cons_append, List.nil_append, List.mem_cons, Prod.mk.injEq, true_and, names.1,
      false_and, false_or] at own
    rcases own with same | own
    · exact same.symm
    · split at own
      · exact absurd (congrArg Prod.fst (List.mem_singleton.1 own)) names.2
      · cases own
  · obtain ⟨header, member, same⟩ := List.mem_map.1 callers
    have name := (List.mem_filter.1 member).2
    rw [(Prod.mk.inj same).1] at name
    exact absurd name (by decide)

theorem own_of_perm (perm : fields.Perm (ownHeaders method url data ++ trimmed (kept method headers)))
    (expected : fields.Perm (ownFields method url data ++ callersFields headers)) {header : Bytes × Bytes}
    (member : header ∈ headers.entries) (isReserved : reserved header.1) : isOwn method header.1 := by
  refine Decidable.byContradiction fun foreign => ?_
  have field : (header.1, trim header.2) ∈ fields :=
    perm.mem_iff.2 (List.mem_append_right _ (List.mem_map.2 ⟨header, mem_kept.2 ⟨member, foreign⟩, rfl⟩))
  rcases List.mem_append.1 (expected.mem_iff.1 field) with own | callers
  · simp only [ownFields, List.cons_append, List.nil_append, List.mem_cons, Prod.mk.injEq] at own
    rcases own with own | own | own
    · exact foreign (.inl own.1)
    · exact foreign (.inr (.inl own.1))
    · split at own
      next sends => exact foreign (.inr (.inr ⟨sends, (Prod.mk.inj (List.mem_singleton.1 own)).1⟩))
      next => cases own
  · obtain ⟨other, member, same⟩ := List.mem_map.1 callers
    have name := (List.mem_filter.1 member).2
    rw [(Prod.mk.inj same).1, isReserved] at name
    cases name

theorem framed_of_perm (perm : fields.Perm (ownHeaders method url data ++ trimmed (kept method headers)))
    {length : Nat} (framed : bodyLength fields = some length) {header : Bytes × Bytes}
    (member : header ∈ headers.entries) : ¬sameName header.1 "Transfer-Encoding" := by
  intro encoded
  have foreign : ¬isOwn method header.1 := fun own => by simp [(isOwn_plain own).2.2] at encoded
  have field : (header.1, trim header.2) ∈ fields :=
    perm.mem_iff.2 (List.mem_append_right _ (List.mem_map.2 ⟨header, mem_kept.2 ⟨member, foreign⟩, rfl⟩))
  have value : trim header.2 ∈ fieldValues "Transfer-Encoding" fields :=
    List.mem_map.2 ⟨_, List.mem_filter.2 ⟨field, encoded⟩, rfl⟩
  simp only [bodyLength] at framed
  split at framed
  next none _ => simp [none] at value
  next none _ => simp [none] at value
  next => cases framed

theorem kept_unreserved
    (own : ∀ header ∈ headers.entries, reserved header.1 → isOwn method header.1) :
    kept method headers = headers.entries.filter fun header => !reserved header.1 := by
  refine List.filter_congr fun header member => ?_
  cases isReserved : reserved header.1 with
  | true => simp [own header member isReserved]
  | false =>
      have foreign : ¬isOwn method header.1 := fun own => by simp [(isOwn_plain own).2.1] at isReserved
      simp [foreign]

theorem bodyLength_of_perm (perm : fields.Perm (ownHeaders method url data ++ trimmed (kept method headers)))
    (own : ∀ header ∈ headers.entries, reserved header.1 → isOwn method header.1)
    (framed : ∀ header ∈ headers.entries, ¬sameName header.1 "Transfer-Encoding") :
    bodyLength fields = some (if method.sendsBody then data else []).length := by
  have encoding : fieldValues "Transfer-Encoding" fields = [] := by
    have values : (fieldValues "Transfer-Encoding" fields).Perm _ := fieldValues_perm perm
    rw [fieldValues_append, (fieldValues_ownHeaders method url data).1,
      @fieldValues_trimmed_nil _ (kept method headers) fun header member => by
        simpa using framed header (mem_kept.1 member).1] at values
    exact List.perm_nil.1 values
  have length : fieldValues "Content-Length" fields =
      if method.sendsBody then [bytes (toString data.length)] else [] := by
    have values : (fieldValues "Content-Length" fields).Perm _ := fieldValues_perm perm
    have others : ∀ header ∈ kept method headers, sameName header.1 "Content-Length" = false := by
      intro header member
      rw [kept_unreserved own] at member
      have free := (List.mem_filter.1 member).2
      simp only [reserved, Bool.not_eq_true', Bool.or_eq_false_iff] at free
      exact free.1.2
    rw [fieldValues_append, (fieldValues_ownHeaders method url data).2, fieldValues_trimmed_nil others,
      List.append_nil] at values
    split at values
    next sends => simpa [sends] using List.perm_singleton.1 values
    next sends => simpa [sends] using List.perm_nil.1 values
  simp only [bodyLength, encoding, length]
  cases method.sendsBody
  · rfl
  · exact decimalValue_toString _

/-- What the client writes is the request exactly when the request can be expressed. -/
theorem serialises_iff (accepted : urlSet text = some url) (host : url.host ≠ []) (clean : Clean headers) :
    Serialises text method url headers data (requestText method url headers data) ↔
      Expressible text method url headers := by
  obtain ⟨path, graphic, -, lowered⟩ := urlSet_ok accepted host
  have hostPlain : ∀ c ∈ url.host, c ≠ 13 ∧ isBlank c = false := by
    intro c member
    obtain ⟨d, inside, rfl⟩ := lowered c member
    exact toLower_graphic (graphic d inside)
  have pathPlain : 32 ∉ url.path ∧ 13 ∉ url.path := by
    rw [path]
    exact joined_graphic graphic
  have target : (if url.path = [] then bytes "/" else url.path) = requestTarget text ↔
      (urlPath text ≠ [] ∨ urlQuery text = []) ∧
        clipped text (pathStart text) (urlPath text) = urlPath text ∧
          clipped text (queryStart text) (urlQuery text) = urlQuery text := by
    rw [path]
    exact target_iff (urlPath_length text) (urlQuery_length text)
  have perm := @fields_perm method url headers data hostPlain
  rw [Serialises, readMessage_requestText pathPlain (requestHeaders_clean hostPlain clean)]
  constructor
  · rintro ⟨message, read, -, -, targeted, expected, -⟩
    obtain ⟨length, framed, read⟩ := Option.bind_eq_some_iff.1 read
    simp only [Option.ite_none_left_eq_some, Option.some.injEq, Prod.mk.injEq] at read
    obtain ⟨-, rfl, -⟩ := read
    obtain ⟨rooted, path, query⟩ := target.1 targeted
    obtain ⟨port, plain⟩ := (authority_eq_host_iff url).1 (named_of_perm perm expected)
    exact ⟨rooted, path, query, port, plain, fun _ member => own_of_perm perm expected member,
      fun _ member => framed_of_perm perm framed member⟩
  · intro expressible
    have targeted := target.2 ⟨expressible.rooted, expressible.path, expressible.query⟩
    have framed := bodyLength_of_perm perm expressible.own expressible.framed
    refine ⟨⟨bytes (methodToString method), if url.path = [] then bytes "/" else url.path,
      trimmed (requestHeaders method url headers data).entries, if method.sendsBody then data else []⟩,
      by simp [framed], rfl, ?_, targeted, ?_, rfl⟩
    · rw [targeted]
      exact requestTarget_rooted text
    · have named := (authority_eq_host_iff url).2 ⟨expressible.port, expressible.host⟩
      rw [ownFields, named, callersFields, ← kept_unreserved expressible.own]
      exact perm

theorem requestLine_short (accepted : urlSet text = some url) (host : url.host ≠ []) :
    (requestLine (methodToString method) url).length < 2 ^ 31 := by
  have path := (urlSet_ok accepted host).1
  have pathLength := urlPath_length text
  have queryLength := urlQuery_length text
  have lengths := joined_length (clipped text (pathStart text) (urlPath text))
    (clipped text (queryStart text) (urlQuery text))
  rw [← path] at lengths
  have name : (bytes (methodToString method)).length ≤ 6 := by
    cases method <;> simp only [methodToString] <;> decide
  have target : (if url.path = [] then bytes "/" else url.path).length ≤ url.path.length + 1 := by
    split
    · exact Nat.le_add_left _ _
    · omega
  simp only [requestLine, List.length_append]
  rw [show (bytes " ").length = 1 from rfl, show (bytes " HTTP/1.1\r\n").length = 11 from rfl]
  omega

theorem expressible_of_sendsRequest (accepted : urlSet text = some url) (host : url.host ≠ []) (clean : Clean headers)
    (sends : SendsRequest text method url headers data) (writable : Writable method url headers data) :
    Expressible text method url headers := by
  obtain ⟨before, after, run, current⟩ :=
    sendRequest_obliged (fun _ => []) (requestLine_short accepted host) writable
  obtain ⟨output, delivers, serialises⟩ := sends _ _ _ run
  have wrote := (sendRequest_true run).2
  have same : output = requestText method url headers data := by
    have both := (delivers .tcp).symm.trans (wrote .tcp)
    simpa [current] using both
  rw [same] at serialises
  exact (serialises_iff accepted host clean).1 serialises

/-! ## `SendRequest` -/

theorem sendRequest_serialises_iff (accepted : urlSet text = some url) (host : url.host ≠ []) (clean : Clean headers) :
    SendsRequest text method url headers data ↔
      (Writable method url headers data → Expressible text method url headers) := by
  constructor
  · exact expressible_of_sendsRequest accepted host clean
  · intro expressible strerror before after run
    obtain ⟨writable, delivers⟩ := sendRequest_true run
    exact ⟨_, delivers, (serialises_iff accepted host clean).2 (expressible writable)⟩

end Request

theorem clean_empty : Clean .empty := by
  intro header member
  cases member

theorem sendRequest_serialises_sample :
    SendsRequest (bytes "http://h/a?b") .post ⟨.http, bytes "h", bytes "80", bytes "/a?b"⟩ .empty (bytes "x") :=
  (sendRequest_serialises_iff (by decide +kernel) (by decide) clean_empty).2 fun _ =>
    { rooted := by decide
      path := by decide +kernel
      query := by decide +kernel
      port := by decide
      host := by decide
      own := nofun
      framed := nofun }

/-- The Host of a request to another port than the default one does not name it. -/
theorem not_sendsRequest_port :
    urlSet (bytes "http://h:8080/") = some ⟨.http, bytes "h", bytes "8080", bytes "/"⟩ ∧
      ¬SendsRequest (bytes "http://h:8080/") .get ⟨.http, bytes "h", bytes "8080", bytes "/"⟩ .empty [] := by
  have accepted : urlSet (bytes "http://h:8080/") = some ⟨.http, bytes "h", bytes "8080", bytes "/"⟩ := by
    decide +kernel
  refine ⟨accepted, fun sends => ?_⟩
  have writable : Writable .get ⟨.http, bytes "h", bytes "8080", bytes "/"⟩ .empty [] := by
    refine ⟨?_, nofun⟩
    decide +kernel
  have expressible := expressible_of_sendsRequest accepted (by decide) clean_empty sends writable
  exact absurd expressible.port (by decide)

end IotClient.Net
