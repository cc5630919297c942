import IotClient.Proof.JsonString

namespace IotClient
open Logic

/-! ## Scanning -/

theorem matchExpectedString_length {expected input rest : Bytes} (nonempty : expected ≠ [])
    (matched : matchExpectedString expected input = .ok rest) : rest.length < input.length := by
  unfold matchExpectedString at matched
  split at matched
  · next isPrefix =>
      obtain rfl := Except.ok.inj matched
      have shorter := (List.isPrefixOf_iff_prefix.mp isPrefix).length_le
      have positive := List.length_pos_iff.mpr nonempty
      rw [List.length_drop]
      omega
  · contradiction

theorem finishString_length {string result input rest : Bytes} {uni : List UInt16}
    (finished : finishString string uni input = .ok (result, rest)) : rest.length < input.length := by
  obtain ⟨final, _, finished⟩ := bind_eq_ok.mp finished
  obtain ⟨tail, matched, equal⟩ := bind_eq_ok.mp finished
  obtain ⟨_, rfl⟩ := Prod.mk.inj (Except.ok.inj equal)
  exact matchExpectedString_length (by simp) matched

theorem matchChars_length {sign : CharSign} {input string result rest : Bytes} {uni : List UInt16}
    (read : matchChars sign input string uni = .ok (result, rest)) : rest.length < input.length := by
  fun_induction matchChars sign input string uni with
  | case2 | case4 => exact finishString_length read
  | case1 | case6 | case7 | case8 | case9 => exact absurd (finishString_length read) (by simp)
  | case3 =>
      obtain ⟨final, _, finished⟩ := bind_eq_ok.mp read
      exact absurd (finishString_length finished) (by simp)
  | case5 _ _ _ _ _ _ _ _ inductive_hypothesis =>
      have := inductive_hypothesis read
      simp only [List.length_cons]
      omega
  | case10 _ _ _ _ _ _ _ _ inductive_hypothesis =>
      obtain ⟨final, _, readRest⟩ := bind_eq_ok.mp read
      have := inductive_hypothesis _ readRest
      simp only [List.length_cons]
      omega
  | case11 => contradiction
  | case12 _ _ _ _ _ _ _ inductive_hypothesis =>
      obtain ⟨final, _, readRest⟩ := bind_eq_ok.mp read
      have := inductive_hypothesis _ readRest
      simp only [List.length_cons] at this ⊢
      omega

theorem scanExpected_length {type : TokenType} {text : String} {input rest : Bytes} {token : Token}
    (nonempty : bytes text ≠ []) (scanned : scanExpected type text input = .ok (token, rest)) :
    rest.length < input.length := by
  obtain ⟨tail, matched, equal⟩ := bind_eq_ok.mp scanned
  obtain ⟨_, rfl⟩ := Prod.mk.inj (Except.ok.inj equal)
  exact matchExpectedString_length nonempty matched

theorem numericChars_contains (c : UInt8) (numeric : c = 45 || (48 ≤ c && c ≤ 57)) :
    numericChars.contains c := by
  have all : ∀ n : Fin 256, (UInt8.ofFin n = 45 || (48 ≤ UInt8.ofFin n && UInt8.ofFin n ≤ 57)) = true →
      numericChars.contains (UInt8.ofFin n) := by decide +kernel
  exact all c.toFin numeric

theorem matchNumber_length {c : UInt8} (input : Bytes) (numeric : numericChars.contains c) :
    (matchNumber (c :: input)).2.length < (c :: input).length := by
  have shorter : (input.dropWhile numericChars.contains).length ≤ input.length :=
    (List.dropWhile_sublist _).length_le
  simp only [matchNumber, List.dropWhile_cons, numeric, if_true, List.length_cons]
  omega

theorem scanToken_length {sign : CharSign} {c : UInt8} {input rest : Bytes} {token : Token}
    (scanned : scanToken sign c (c :: input) = .ok (token, rest)) : rest.length < (c :: input).length := by
  revert scanned
  fun_cases scanToken sign c (c :: input) with
  | case7 =>
      intro scanned
      obtain ⟨⟨value, tail⟩, matched, equal⟩ := bind_eq_ok.mp scanned
      obtain ⟨_, rfl⟩ := Prod.mk.inj (Except.ok.inj equal)
      obtain ⟨quoted, opened, read⟩ := bind_eq_ok.mp matched
      have := matchExpectedString_length (by simp) opened
      have := matchChars_length read
      omega
  | case8 _ _ _ _ _ _ _ numeric value tail equal =>
      intro scanned
      obtain ⟨_, rfl⟩ := Prod.mk.inj (Except.ok.inj scanned)
      have shorter := matchNumber_length input (numericChars_contains c numeric)
      rwa [equal] at shorter
  | case12 => simp
  | _ => exact fun scanned => scanExpected_length (by decide) scanned

theorem scanLoop_eq_scan {sign : CharSign} {fuel : Nat} {input : Bytes} (enough : input.length < fuel) :
    scanLoop sign fuel input = scan sign input := by
  have independent (first : Nat) : ∀ (second : Nat) (input : Bytes), input.length < first →
      input.length < second → scanLoop sign first input = scanLoop sign second input := by
    induction first with
    | zero => intro second input short; omega
    | succ first inductive_hypothesis =>
        intro second input enoughFirst enoughSecond
        cases second with
        | zero => omega
        | succ second =>
            have dropped : (input.dropWhile isSpace).length ≤ input.length :=
              (List.dropWhile_sublist _).length_le
            simp only [scanLoop]
            split
            · rfl
            · next c rest equal =>
              rw [equal] at dropped
              cases scanned : scanToken sign c (c :: rest) with
              | error failure => rfl
              | ok result =>
                  have shorter := scanToken_length scanned
                  have same := inductive_hypothesis second result.2 (by omega) (by omega)
                  simp only [bind, Except.bind, same]
  exact independent fuel _ input enough (Nat.lt_succ_self _)

theorem scan_nil (sign : CharSign) : scan sign [] = .ok [] := rfl

theorem scan_space (sign : CharSign) {c : UInt8} (rest : Bytes) (space : isSpace c) :
    scan sign (c :: rest) = scan sign rest := by
  have loop (fuel : Nat) : scanLoop sign (fuel + 1) (c :: rest) = scanLoop sign (fuel + 1) rest := by
    simp only [scanLoop, List.dropWhile_cons, space, if_true]
  rw [scan, loop]
  exact scanLoop_eq_scan (by simp only [List.length_cons]; omega)

theorem scan_token (sign : CharSign) {c : UInt8} (rest : Bytes) (notSpace : isSpace c = false) :
    scan sign (c :: rest) = scanToken sign c (c :: rest) >>= fun result =>
      (result.1 :: ·) <$> scan sign result.2 := by
  simp only [scan, scanLoop, List.dropWhile_cons, notSpace, Bool.false_eq_true, if_false]
  cases scanned : scanToken sign c (c :: rest) with
  | error failure => rfl
  | ok result =>
      have shorter := scanToken_length scanned
      have enough : scanLoop sign (rest.length + 1) result.2 = scan sign result.2 := scanLoop_eq_scan shorter
      simp only [bind, Except.bind, List.length_cons, enough]
      change _ = _ <$> scan sign result.2
      cases scan sign result.2 <;> rfl

def punctuation (type : TokenType) (text : String) : Token := ⟨type, bytes text⟩

theorem scan_objectBegin (sign : CharSign) (rest : Bytes) :
    scan sign (123 :: rest) = (punctuation .objectBegin "\x7b" :: ·) <$> scan sign rest :=
  scan_token sign rest rfl

theorem scan_objectEnd (sign : CharSign) (rest : Bytes) :
    scan sign (125 :: rest) = (punctuation .objectEnd "\x7d" :: ·) <$> scan sign rest :=
  scan_token sign rest rfl

theorem scan_nextElement (sign : CharSign) (rest : Bytes) :
    scan sign (44 :: rest) = (punctuation .nextElement "," :: ·) <$> scan sign rest :=
  scan_token sign rest rfl

theorem scan_memberAssign (sign : CharSign) (rest : Bytes) :
    scan sign (58 :: rest) = (punctuation .memberAssign ":" :: ·) <$> scan sign rest :=
  scan_token sign rest rfl

theorem scan_true (sign : CharSign) (rest : Bytes) :
    scan sign (bytes "true" ++ rest) = (punctuation .boolean "true" :: ·) <$> scan sign rest :=
  scan_token sign _ rfl

theorem scan_false (sign : CharSign) (rest : Bytes) :
    scan sign (bytes "false" ++ rest) = (punctuation .boolean "false" :: ·) <$> scan sign rest :=
  scan_token sign _ rfl

theorem scan_string (sign : CharSign) (rest : Bytes) :
    scan sign (34 :: rest) = matchChars sign rest [] [] >>= fun result =>
      (⟨.string, result.1⟩ :: ·) <$> scan sign result.2 := by
  rw [scan_token sign rest rfl]
  cases read : matchChars sign rest [] [] with
  | error failure =>
      simp [scanToken, matchString, matchExpectedString, read, bind, Except.bind]
  | ok result =>
      simp [scanToken, matchString, matchExpectedString, read, bind, Except.bind, pure, Except.pure]

theorem scan_writeString (sign : CharSign) {value : Bytes} (paired : backslashesPaired value) :
    ∃ text, writeString value = .ok text ∧ ∀ rest,
      scan sign (text ++ rest) = (⟨.string, value⟩ :: ·) <$> scan sign rest := by
  obtain ⟨text, written, read⟩ := matchChars_writeChars sign value paired
  refine ⟨[34] ++ text ++ [34], by simp [writeString, written, bind, Except.bind, pure, Except.pure], ?_⟩
  intro rest
  have whole := scan_string sign (text ++ 34 :: rest)
  rw [read] at whole
  simpa [bind, Except.bind] using whole

/-! ## Objects of strings and booleans -/

def scalar : Json → Bool
  | .string _ => true
  | .boolean _ => true
  | _ => false

def flat : Json → Bool
  | .string value => backslashesPaired value
  | .boolean _ => true
  | _ => false

theorem scalar_of_flat {element : Json} (isFlat : flat element) : scalar element := by
  cases element with
  | string | boolean => rfl
  | null | number | array | object => simp [flat] at isFlat

def valueToken : Json → Token
  | .string value => ⟨.string, value⟩
  | .boolean value => punctuation .boolean (if value then "true" else "false")
  | _ => punctuation .null "null"

def separatorTokens {α : Type} (rest : List α) : List Token :=
  if rest.isEmpty then [] else [punctuation .nextElement ","]

def memberTokens : List (Bytes × Json) → List Token
  | [] => []
  | (name, element) :: rest =>
      ⟨.string, name⟩ :: punctuation .memberAssign ":" :: valueToken element ::
        (separatorTokens rest ++ memberTokens rest)

theorem scan_separator {α : Type} (sign : CharSign) (members : List α) (rest : Bytes) :
    scan sign (separator members ++ rest) = (separatorTokens members ++ ·) <$> scan sign rest := by
  cases members with
  | nil =>
      have space := scan_space sign (c := 10) rest rfl
      simpa [separator, separatorTokens, bytes] using space
  | cons member members =>
      have comma := scan_nextElement sign (10 :: rest)
      rw [scan_space sign rest rfl] at comma
      simpa [separator, separatorTokens, bytes] using comma

theorem scan_memberName (sign : CharSign) {name : Bytes} (paired : backslashesPaired name) :
    ∃ text, writeString name = .ok text ∧ ∀ rest,
      scan sign (tabs 1 ++ text ++ bytes " : " ++ rest) =
        ([⟨.string, name⟩, punctuation .memberAssign ":"] ++ ·) <$> scan sign rest := by
  obtain ⟨text, written, scanned⟩ := scan_writeString sign paired
  refine ⟨text, written, fun rest => ?_⟩
  have assign : scan sign (bytes " : " ++ rest) =
      (punctuation .memberAssign ":" :: ·) <$> scan sign rest := by
    have colon := scan_memberAssign sign (32 :: rest)
    rw [scan_space sign rest rfl] at colon
    exact (scan_space sign (c := 32) _ rfl).trans colon
  have whole := scanned (bytes " : " ++ rest)
  rw [assign] at whole
  rw [List.append_assoc, List.append_assoc]
  refine (scan_space sign (c := 9) (text ++ (bytes " : " ++ rest)) rfl).trans ?_
  rw [whole]
  cases scan sign rest <;> rfl

theorem scan_flat (sign : CharSign) {element : Json} (isFlat : flat element) :
    ∃ text, writeElement id 1 element = .ok text ∧ ∀ rest,
      scan sign (text ++ rest) = (valueToken element :: ·) <$> scan sign rest := by
  cases element with
  | string value => exact scan_writeString sign isFlat
  | boolean value =>
      cases value with
      | false => exact ⟨_, rfl, scan_false sign⟩
      | true => exact ⟨_, rfl, scan_true sign⟩
  | null | number | array | object => simp [flat] at isFlat

theorem scan_member (sign : CharSign) {name : Bytes} {element : Json} (paired : backslashesPaired name)
    (isFlat : flat element) (members : List (Bytes × Json)) :
    ∃ text, writeMembers id 0 ((name, element) :: members) = (text ++ ·) <$> writeMembers id 0 members ∧
      ∀ rest, scan sign (text ++ rest) =
        (⟨.string, name⟩ :: punctuation .memberAssign ":" :: valueToken element ::
          separatorTokens members ++ ·) <$> scan sign rest := by
  obtain ⟨nameText, writtenName, scannedName⟩ := scan_memberName sign paired
  obtain ⟨valueText, writtenValue, scannedValue⟩ := scan_flat sign isFlat
  refine ⟨tabs 1 ++ nameText ++ bytes " : " ++ valueText ++ separator members, ?_, fun rest => ?_⟩
  · simp only [writeMembers, writtenName, writtenValue, bind, Except.bind]
    cases writeMembers id 0 members <;> rfl
  · have whole := scannedName (valueText ++ (separator members ++ rest))
    rw [scannedValue, scan_separator] at whole
    rw [List.append_assoc _ valueText, List.append_assoc _ _ rest, List.append_assoc valueText, whole]
    cases scan sign rest <;> rfl

theorem scan_writeMembers (sign : CharSign) (members : List (Bytes × Json))
    (paired : ∀ member ∈ members, backslashesPaired member.1 ∧ flat member.2) :
    ∃ text, writeMembers id 0 members = .ok text ∧ ∀ rest,
      scan sign (text ++ rest) = (memberTokens members ++ ·) <$> scan sign rest := by
  induction members with
  | nil => exact ⟨[], rfl, fun rest => by simp [memberTokens]⟩
  | cons member members inductive_hypothesis =>
      obtain ⟨pairedName, isFlat⟩ := paired member (by simp)
      obtain ⟨text, written, scanned⟩ := scan_member sign pairedName isFlat members
      obtain ⟨membersText, writtenMembers, scannedMembers⟩ :=
        inductive_hypothesis fun member listed => paired member (by simp [listed])
      refine ⟨text ++ membersText, by rw [written, writtenMembers]; rfl, fun rest => ?_⟩
      rw [List.append_assoc, scanned, scannedMembers]
      cases scan sign rest with
      | error failure => rfl
      | ok tokens => simp [memberTokens, Functor.map, Except.map]

theorem scan_stringMember (sign : CharSign) {name value valueText : Bytes} (paired : backslashesPaired name)
    (written : writeChars value = .ok valueText) (members : List (Bytes × Json)) :
    ∃ text, writeMembers id 0 ((name, .string value) :: members) =
        (text ++ ·) <$> writeMembers id 0 members ∧
      ∀ rest, scan sign (text ++ rest) =
        matchChars sign (valueText ++ 34 :: (separator members ++ rest)) [] [] >>= fun result =>
          ([⟨.string, name⟩, punctuation .memberAssign ":", ⟨.string, result.1⟩] ++ ·) <$>
            scan sign result.2 := by
  obtain ⟨nameText, writtenName, scannedName⟩ := scan_memberName sign paired
  refine ⟨tabs 1 ++ nameText ++ bytes " : " ++ (34 :: valueText ++ [34]) ++ separator members, ?_,
    fun rest => ?_⟩
  · have writtenValue : writeString value = .ok (34 :: valueText ++ [34]) := by
      simp [writeString, written, bind, Except.bind, pure, Except.pure]
    simp only [writeMembers, writtenName, writeElement, writtenValue, bind, Except.bind]
    cases writeMembers id 0 members <;> rfl
  · have whole := scannedName (34 :: (valueText ++ 34 :: (separator members ++ rest)))
    rw [scan_string] at whole
    rw [show tabs 1 ++ nameText ++ bytes " : " ++ (34 :: valueText ++ [34]) ++ separator members ++ rest =
      tabs 1 ++ nameText ++ bytes " : " ++ 34 :: (valueText ++ 34 :: (separator members ++ rest)) by simp,
      whole]
    cases matchChars sign (valueText ++ 34 :: (separator members ++ rest)) [] [] with
    | error failure => rfl
    | ok result => cases scanned : scan sign result.2 <;> simp [bind, Except.bind, scanned, Functor.map, Except.map]

theorem find_eq_none {members : List (Bytes × Json)} {name : Bytes} :
    Json.find members name = none ↔ name ∉ members.map Prod.fst := by
  simp [Json.find, List.find?_eq_none]
  grind

theorem parseElement_valueToken {element : Json} (isScalar : scalar element) (fuel : Nat) (rest : List Token) :
    parseElement (fuel + 1) (valueToken element :: rest) = .ok (element, rest) := by
  cases element with
  | string value => rfl
  | boolean value => cases value <;> rfl
  | null | number | array | object => simp [scalar] at isScalar

theorem parseMembers_cons {members : List (Bytes × Json)} {name : Bytes} {element : Json}
    (fresh : name ∉ members.map Prod.fst) (isScalar : scalar element) (fuel : Nat) (tokens : List Token) :
    parseMembers (fuel + 2) members
        (⟨.string, name⟩ :: punctuation .memberAssign ":" :: valueToken element :: tokens) =
      if nextIs .nextElement tokens then
        matchExpectedToken .nextElement tokens >>= fun result =>
          parseMembers (fuel + 1) (members ++ [(name, element)]) result.2
      else
        matchExpectedToken .objectEnd tokens >>= fun result =>
          .ok (.object (members ++ [(name, element)]), result.2) := by
  have inserted : insertMember members name element = .ok (members ++ [(name, element)]) := by
    simp [insertMember, find_eq_none.mpr fresh]
  rw [parseMembers]
  simp only [matchExpectedToken, punctuation, if_true, bind, Except.bind,
    parseElement_valueToken isScalar, inserted]
  rfl

theorem parseMembers_memberTokens {members : List (Bytes × Json)} (fuel : Nat)
    (scalars : ∀ member ∈ members, scalar member.2) (nonempty : members ≠ []) :
    ∀ previous : List (Bytes × Json), ((previous ++ members).map Prod.fst).Nodup →
      members.length < fuel →
      parseMembers fuel previous (memberTokens members ++ [punctuation .objectEnd "\x7d"]) =
        .ok (.object (previous ++ members), []) := by
  induction members generalizing fuel with
  | nil => contradiction
  | cons member members inductive_hypothesis =>
      intro previous distinct enough
      obtain ⟨name, element⟩ := member
      obtain ⟨fuel, rfl⟩ : ∃ rest, fuel = rest + 2 := ⟨fuel - 2, by simp at enough; omega⟩
      have fresh : name ∉ previous.map Prod.fst := by
        rw [List.map_append, List.nodup_append] at distinct
        intro listed
        exact distinct.2.2 name listed name (by simp) rfl
      have isScalar := scalars (name, element) (by simp)
      simp only [memberTokens, List.cons_append, List.append_assoc]
      rw [parseMembers_cons fresh isScalar]
      cases members with
      | nil => rfl
      | cons next members =>
          have rest := inductive_hypothesis (fuel + 1) (fun member listed => scalars member (by simp [listed]))
            (by simp) (previous ++ [(name, element)]) (by simpa using distinct) (by simpa using enough)
          simpa [separatorTokens, nextIs, matchExpectedToken, punctuation, bind, Except.bind] using rest

theorem memberTokens_length (members : List (Bytes × Json)) : members.length ≤ (memberTokens members).length := by
  induction members with
  | nil => simp
  | cons member members inductive_hypothesis =>
      simp only [memberTokens, List.length_cons, List.length_append]
      omega

theorem readTokens_object (name : Bytes) (tokens : List Token) :
    readTokens (punctuation .objectBegin "\x7b" :: ⟨.string, name⟩ :: tokens) =
      parseMembers (tokens.length + 2) [] (⟨.string, name⟩ :: tokens) >>= fun result =>
        match result.2 with
        | [] => .ok result.1
        | token :: _ => .error (.json (bytes "Expected End of token stream; found " ++ token.value)) := by
  rfl

theorem parseMembers_extends {fuel : Nat} {previous : List (Bytes × Json)} {tokens rest : List Token}
    {element : Json} (parsed : parseMembers fuel previous tokens = .ok (element, rest)) :
    ∃ more, element = .object (previous ++ more) := by
  induction fuel generalizing previous tokens with
  | zero => simp [parseMembers] at parsed
  | succ fuel inductive_hypothesis =>
      rw [parseMembers] at parsed
      obtain ⟨⟨name, _⟩, _, parsed⟩ := bind_eq_ok.mp parsed
      obtain ⟨_, _, parsed⟩ := bind_eq_ok.mp parsed
      obtain ⟨⟨value, tail⟩, _, parsed⟩ := bind_eq_ok.mp parsed
      obtain ⟨members, inserted, parsed⟩ := bind_eq_ok.mp parsed
      obtain rfl : previous ++ [(name, value)] = members := by
        unfold insertMember at inserted
        split at inserted
        · contradiction
        · exact Except.ok.inj inserted
      dsimp only at parsed
      split at parsed
      · obtain ⟨_, _, parsed⟩ := bind_eq_ok.mp parsed
        obtain ⟨more, rfl⟩ := inductive_hypothesis parsed
        exact ⟨(name, value) :: more, by simp⟩
      · obtain ⟨_, _, parsed⟩ := bind_eq_ok.mp parsed
        exact ⟨[(name, value)], (Prod.mk.inj (Except.ok.inj parsed)).1.symm⟩

theorem parseMembers_eq_ok {fuel : Nat} {previous : List (Bytes × Json)} {name : Bytes} {element : Json}
    {tokens : List Token} {result : Json × List Token} (isScalar : scalar element)
    (parsed : parseMembers fuel previous
      (⟨.string, name⟩ :: punctuation .memberAssign ":" :: valueToken element :: tokens) = .ok result) :
    (∃ more, result.1 = .object (previous ++ (name, element) :: more)) ∧
      ∀ rest, tokens = punctuation .nextElement "," :: rest →
        ∃ fuel, parseMembers fuel (previous ++ [(name, element)]) rest = .ok result := by
  match fuel with
  | 0 | 1 => simp [parseMembers, parseElement, matchExpectedToken, punctuation, bind, Except.bind] at parsed
  | fuel + 2 =>
      have fresh : name ∉ previous.map Prod.fst := by
        refine find_eq_none.mp ?_
        cases isFound : Json.find previous name with
        | none => rfl
        | some found =>
            rw [parseMembers] at parsed
            simp [matchExpectedToken, punctuation, parseElement_valueToken isScalar, insertMember, isFound,
              bind, Except.bind] at parsed
      rw [parseMembers_cons fresh isScalar] at parsed
      constructor
      · split at parsed
        · obtain ⟨_, _, parsed⟩ := bind_eq_ok.mp parsed
          obtain ⟨more, equal⟩ := parseMembers_extends parsed
          exact ⟨more, by simpa using equal⟩
        · obtain ⟨_, _, parsed⟩ := bind_eq_ok.mp parsed
          exact ⟨[], (congrArg Prod.fst (Except.ok.inj parsed)).symm⟩
      · rintro rest rfl
        exact ⟨fuel + 1, parsed⟩

theorem jsonToString_object {members : List (Bytes × Json)} (nonempty : members ≠ []) :
    jsonToString id (.object members) =
      (fun text => 123 :: 10 :: (text ++ [125])) <$> writeMembers id 0 members := by
  simp only [jsonToString, writeElement, List.isEmpty_iff, nonempty, if_false]
  cases writeMembers id 0 members with
  | error failure => rfl
  | ok text => simp [bytes, tabs, bind, Except.bind, pure, Except.pure, Functor.map, Except.map]

theorem scan_object (sign : CharSign) (text : Bytes) :
    scan sign (123 :: 10 :: text) = (punctuation .objectBegin "\x7b" :: ·) <$> scan sign text := by
  rw [scan_objectBegin, scan_space sign _ rfl]

/-- What the writer makes of an object of strings and booleans, the reader takes back, as long as
backslashes are paired and no name occurs twice. -/
theorem jsonParse_jsonToString (sign : CharSign) (members : List (Bytes × Json))
    (paired : ∀ member ∈ members, backslashesPaired member.1 ∧ flat member.2) (nonempty : members ≠ [])
    (distinct : (members.map Prod.fst).Nodup) :
    ∃ text, jsonToString id (.object members) = .ok text ∧ jsonParse sign text = .ok (.object members) := by
  obtain ⟨membersText, written, scanned⟩ := scan_writeMembers sign members paired
  refine ⟨123 :: 10 :: (membersText ++ [125]), by rw [jsonToString_object nonempty, written]; rfl, ?_⟩
  have tokens : scan sign (123 :: 10 :: (membersText ++ [125])) =
      .ok (punctuation .objectBegin "\x7b" :: (memberTokens members ++ [punctuation .objectEnd "\x7d"])) := by
    rw [scan_object, scanned, scan_objectEnd, scan_nil]
    rfl
  have parsed (fuel : Nat) (enough : members.length < fuel) :=
    parseMembers_memberTokens fuel (fun member listed => scalar_of_flat (paired member listed).2) nonempty []
      (by simpa using distinct) enough
  rw [jsonParse, tokens]
  cases members with
  | nil => contradiction
  | cons member members =>
      refine (readTokens_object member.1 _).trans ?_
      change (parseMembers _ [] (memberTokens (member :: members) ++ [punctuation .objectEnd "\x7d"]) >>= _) = _
      have enough := memberTokens_length (member :: members)
      rw [parsed _ (by simp [memberTokens] at enough ⊢; omega)]
      rfl

/-! ## Objects with an unpaired backslash -/

def leadingTokens (members : List (Bytes × Json)) : List Token :=
  members.flatMap fun member =>
    [⟨.string, member.1⟩, punctuation .memberAssign ":", valueToken member.2, punctuation .nextElement ","]

theorem scan_leading (sign : CharSign) (leading members : List (Bytes × Json)) (nonempty : members ≠ [])
    (paired : ∀ member ∈ leading, backslashesPaired member.1 ∧ flat member.2) :
    ∃ text, writeMembers id 0 (leading ++ members) = (text ++ ·) <$> writeMembers id 0 members ∧
      ∀ rest, scan sign (text ++ rest) = (leadingTokens leading ++ ·) <$> scan sign rest := by
  induction leading with
  | nil => exact ⟨[], by simp, by simp [leadingTokens]⟩
  | cons member leading inductive_hypothesis =>
      obtain ⟨pairedName, isFlat⟩ := paired member (by simp)
      obtain ⟨memberText, writtenMember, scannedMember⟩ :=
        scan_member sign pairedName isFlat (leading ++ members)
      obtain ⟨text, written, scanned⟩ :=
        inductive_hypothesis fun member listed => paired member (by simp [listed])
      refine ⟨memberText ++ text, ?_, fun rest => ?_⟩
      · rw [List.cons_append, writtenMember, written]
        cases writeMembers id 0 members with
        | error failure => rfl
        | ok membersText => simp [Functor.map, Except.map]
      · rw [List.append_assoc, scannedMember, scanned]
        cases scan sign rest with
        | error failure => rfl
        | ok tokens => simp [leadingTokens, separatorTokens, nonempty, Functor.map, Except.map]

theorem parseMembers_leading {previous leading : List (Bytes × Json)} {fuel : Nat} {tokens : List Token}
    {result : Json × List Token} (scalars : ∀ member ∈ leading, scalar member.2)
    (parsed : parseMembers fuel previous (leadingTokens leading ++ tokens) = .ok result) :
    ∃ fuel, parseMembers fuel (previous ++ leading) tokens = .ok result := by
  induction leading generalizing previous fuel with
  | nil => exact ⟨fuel, by simpa [leadingTokens] using parsed⟩
  | cons member leading inductive_hypothesis =>
      have isScalar := scalars member (by simp)
      have parsedMember : parseMembers fuel previous (⟨.string, member.1⟩ :: punctuation .memberAssign ":" ::
          valueToken member.2 :: punctuation .nextElement "," :: (leadingTokens leading ++ tokens)) =
          .ok result := by simpa [leadingTokens] using parsed
      obtain ⟨_, next⟩ := parseMembers_eq_ok isScalar parsedMember
      obtain ⟨fuel, parsedRest⟩ := next _ rfl
      obtain ⟨fuel, parsedTokens⟩ :=
        inductive_hypothesis (fun member listed => scalars member (by simp [listed])) parsedRest
      exact ⟨fuel, by simpa using parsedTokens⟩

theorem readTokens_eq_ok {tokens : List Token} {element : Json} (member : nextIs .string tokens)
    (read : readTokens (punctuation .objectBegin "\x7b" :: tokens) = .ok element) :
    ∃ fuel rest, parseMembers fuel [] tokens = .ok (element, rest) := by
  cases tokens with
  | nil => simp [nextIs] at member
  | cons token tokens =>
      obtain ⟨type, name⟩ := token
      obtain rfl : type = .string := by simpa [nextIs] using member
      rw [readTokens_object] at read
      obtain ⟨⟨parsed, rest⟩, isParsed, ending⟩ := bind_eq_ok.mp read
      refine ⟨_, rest, isParsed.trans ?_⟩
      cases rest with
      | nil => simpa using ending
      | cons => simp at ending

theorem jsonParse_stringMember {sign : CharSign} (leading members : List (Bytes × Json))
    {name value valueText membersText text : Bytes} {element : Json}
    (paired : ∀ member ∈ leading, backslashesPaired member.1 ∧ flat member.2)
    (pairedName : backslashesPaired name) (written : writeChars value = .ok valueText)
    (writtenMembers : writeMembers id 0 members = .ok membersText)
    (writtenText : jsonToString id (.object (leading ++ (name, .string value) :: members)) = .ok text)
    (parsed : jsonParse sign text = .ok element) :
    ∃ result rest tokens more,
      matchChars sign (valueText ++ 34 :: (separator members ++ (membersText ++ [125]))) [] [] =
        .ok (result, rest) ∧
      scan sign rest = .ok tokens ∧ element = .object (leading ++ (name, .string result) :: more) := by
  obtain ⟨leadingText, writtenLeading, scannedLeading⟩ :=
    scan_leading sign leading ((name, .string value) :: members) (by simp) paired
  obtain ⟨memberText, writtenMember, scannedMember⟩ := scan_stringMember sign pairedName written members
  rw [jsonToString_object (by simp), writtenLeading, writtenMember, writtenMembers] at writtenText
  obtain rfl := Except.ok.inj writtenText
  obtain ⟨allTokens, scanned, read⟩ := bind_eq_ok.mp parsed
  rw [scan_object, List.append_assoc, scannedLeading, List.append_assoc, scannedMember] at scanned
  obtain ⟨afterBrace, scannedBrace, rfl⟩ := map_eq_ok.mp scanned
  obtain ⟨afterLeading, scannedValue, rfl⟩ := map_eq_ok.mp scannedBrace
  obtain ⟨⟨result, rest⟩, matched, scannedTokens⟩ := bind_eq_ok.mp scannedValue
  obtain ⟨tokens, scannedRest, rfl⟩ := map_eq_ok.mp scannedTokens
  refine ⟨result, rest, tokens, ?_⟩
  have first : nextIs .string (leadingTokens leading ++
      ([⟨.string, name⟩, punctuation .memberAssign ":", ⟨.string, result⟩] ++ tokens)) := by
    cases leading <;> rfl
  obtain ⟨fuel, _, parsedMembers⟩ := readTokens_eq_ok first read
  obtain ⟨fuel, parsedMember⟩ :=
    parseMembers_leading (fun member listed => scalar_of_flat (paired member listed).2) parsedMembers
  have isScalar : scalar (.string result) := rfl
  obtain ⟨⟨more, equal⟩, _⟩ := parseMembers_eq_ok isScalar parsedMember
  exact ⟨more, matched, scannedRest, by simpa using equal⟩

theorem writeString_eq_ok {value text : Bytes} (written : writeString value = .ok text) :
    ∃ valueText, writeChars value = .ok valueText ∧ text = [34] ++ valueText ++ [34] := by
  obtain ⟨valueText, writtenValue, equal⟩ := bind_eq_ok.mp written
  exact ⟨valueText, writtenValue, (Except.ok.inj equal).symm⟩

theorem writeMembers_eq_ok {name text : Bytes} {element : Json} {members : List (Bytes × Json)}
    (written : writeMembers id 0 ((name, element) :: members) = .ok text) :
    ∃ nameText valueText membersText, writeString name = .ok nameText ∧
      writeElement id 1 element = .ok valueText ∧ writeMembers id 0 members = .ok membersText ∧
      text = tabs 1 ++ nameText ++ bytes " : " ++ valueText ++ separator members ++ membersText := by
  rw [writeMembers] at written
  obtain ⟨nameText, writtenName, writtenRest⟩ := bind_eq_ok.mp written
  obtain ⟨valueText, writtenValue, writtenTail⟩ := bind_eq_ok.mp writtenRest
  obtain ⟨membersText, writtenMembers, equal⟩ := bind_eq_ok.mp writtenTail
  exact ⟨nameText, valueText, membersText, writtenName, writtenValue, writtenMembers,
    (Except.ok.inj equal).symm⟩

end IotClient
