import IotClient.Proof.JsonText

namespace IotClient
open Logic

def ScanFault : Fault → Prop
  | .json _ => True
  | .utf8 _ => True
  | _ => False

def ParseFault : Fault → Prop
  | .json _ => True
  | _ => False

theorem utf16To8_raises (uni : List UInt16) : Raises ScanFault (utf16To8 uni) := by
  fun_induction utf16To8 uni with
  | case1 | case3 => exact raises_ok _
  | case2 | case5 | case6 => exact raises_error trivial
  | case4 _ _ _ _ _ inductive_hypothesis | case7 _ _ _ _ _ inductive_hypothesis =>
      exact inductive_hypothesis.map

theorem finalizeUnicode_raises (string : Bytes) (uni : List UInt16) :
    Raises ScanFault (finalizeUnicode string uni) :=
  (utf16To8_raises uni).map

theorem matchExpectedString_raises (expected input : Bytes) :
    Raises ScanFault (matchExpectedString expected input) := by
  unfold matchExpectedString
  split
  · exact raises_ok _
  · exact raises_error trivial

theorem finishString_raises (string : Bytes) (uni : List UInt16) (rest : Bytes) :
    Raises ScanFault (finishString string uni rest) := by
  refine (finalizeUnicode_raises string uni).bind fun _ _ => ?_
  exact (matchExpectedString_raises [34] rest).bind fun _ _ => raises_ok _

theorem matchChars_raises (sign : CharSign) (input string : Bytes) (uni : List UInt16) :
    Raises ScanFault (matchChars sign input string uni) := by
  fun_induction matchChars sign input string uni with
  | case1 | case2 | case4 | case6 | case7 | case8 | case9 => exact finishString_raises _ _ _
  | case3 => exact (finalizeUnicode_raises _ _).bind fun _ _ => finishString_raises _ _ _
  | case5 _ _ _ _ _ _ _ _ inductive_hypothesis => exact inductive_hypothesis
  | case10 _ _ _ _ _ _ _ _ inductive_hypothesis =>
      exact (finalizeUnicode_raises _ _).bind fun _ _ => inductive_hypothesis _
  | case11 => exact raises_error trivial
  | case12 _ _ _ _ _ _ _ inductive_hypothesis =>
      exact (finalizeUnicode_raises _ _).bind fun _ _ => inductive_hypothesis _

theorem scanToken_raises (sign : CharSign) (c : UInt8) (input : Bytes) :
    Raises ScanFault (scanToken sign c input) := by
  fun_cases scanToken sign c input with
  | case7 =>
      refine Raises.bind ?_ fun _ _ => raises_ok _
      exact (matchExpectedString_raises _ _).bind fun _ _ => matchChars_raises _ _ _ _
  | case8 => exact raises_ok _
  | case12 => exact raises_error trivial
  | _ => exact (matchExpectedString_raises _ _).bind fun _ _ => raises_ok _

theorem scanLoop_raises (sign : CharSign) (fuel : Nat) (input : Bytes) :
    Raises ScanFault (scanLoop sign fuel input) := by
  induction fuel generalizing input with
  | zero => exact raises_ok _
  | succ fuel inductive_hypothesis =>
      rw [scanLoop]
      split
      · exact raises_ok _
      · refine (scanToken_raises _ _ _).bind fun _ _ => ?_
        exact (inductive_hypothesis _).bind fun _ _ => raises_ok _

theorem scan_eq_nil {sign : CharSign} {input : Bytes} : scan sign input = .ok [] ↔ input.all isSpace := by
  induction input with
  | nil => simp [scan_nil]
  | cons c rest inductive_hypothesis =>
      cases space : isSpace c with
      | true => simp [scan_space sign rest space, inductive_hypothesis, space]
      | false =>
          rw [scan_token sign rest space]
          simp only [List.all_cons, space, Bool.false_and, Bool.false_eq_true, iff_false]
          intro scanned
          obtain ⟨result, _, scannedRest⟩ := bind_eq_ok.mp scanned
          obtain ⟨tokens, _, nonempty⟩ := map_eq_ok.mp scannedRest
          contradiction

theorem matchExpectedToken_raises (expected : TokenType) (tokens : List Token) :
    Raises ParseFault (matchExpectedToken expected tokens) := by
  cases tokens with
  | nil => exact raises_error trivial
  | cons token rest =>
      rw [matchExpectedToken]
      split
      · exact raises_ok _
      · exact raises_error trivial

theorem insertMember_raises (members : List (Bytes × Json)) (name : Bytes) (element : Json) :
    Raises ParseFault (insertMember members name element) := by
  unfold insertMember
  split
  · exact raises_error trivial
  · exact raises_ok _

theorem parse_raises (fuel : Nat) :
    (∀ tokens, Raises ParseFault (parseElement fuel tokens)) ∧
      (∀ members tokens, Raises ParseFault (parseMembers fuel members tokens)) ∧
      ∀ elements tokens, Raises ParseFault (parseElements fuel elements tokens) := by
  induction fuel with
  | zero =>
      exact ⟨fun tokens => by rw [parseElement]; exact raises_error trivial,
        fun _ _ => by rw [parseMembers]; exact raises_error trivial,
        fun _ _ => by rw [parseElements]; exact raises_error trivial⟩
  | succ fuel inductive_hypothesis =>
      obtain ⟨element, members, elements⟩ := inductive_hypothesis
      refine ⟨fun tokens => ?_, fun previous tokens => ?_, fun previous tokens => ?_⟩
      · cases tokens with
        | nil => rw [parseElement]; exact raises_error trivial; simp
        | cons token rest =>
            obtain ⟨type, value⟩ := token
            rw [parseElement]
            cases type with
            | objectBegin =>
                dsimp only
                split
                · exact (matchExpectedToken_raises _ _).bind fun _ _ => raises_ok _
                · exact members _ _
            | arrayBegin =>
                dsimp only
                split
                · exact (matchExpectedToken_raises _ _).bind fun _ _ => raises_ok _
                · exact elements _ _
            | number =>
                dsimp only
                split
                · exact raises_ok _
                · exact raises_error trivial
            | string | boolean | null => exact raises_ok _
            | objectEnd | arrayEnd | nextElement | memberAssign => exact raises_error trivial
      · rw [parseMembers]
        refine (matchExpectedToken_raises _ _).bind fun _ _ => ?_
        refine (matchExpectedToken_raises _ _).bind fun _ _ => ?_
        refine (element _).bind fun _ _ => ?_
        refine (insertMember_raises _ _ _).bind fun _ _ => ?_
        dsimp only
        split
        · exact (matchExpectedToken_raises _ _).bind fun _ _ => members _ _
        · exact (matchExpectedToken_raises _ _).bind fun _ _ => raises_ok _
      · rw [parseElements]
        refine (element _).bind fun _ _ => ?_
        dsimp only
        split
        · exact (matchExpectedToken_raises _ _).bind fun _ _ => elements _ _
        · exact (matchExpectedToken_raises _ _).bind fun _ _ => raises_ok _

theorem readTokens_raises {tokens : List Token} (nonempty : tokens ≠ []) :
    Raises ParseFault (readTokens tokens) := by
  rw [readTokens, if_neg nonempty]
  refine ((parse_raises _).1 _).bind fun result _ => ?_
  dsimp only
  split
  · exact raises_ok _
  · exact raises_error trivial

/-- What `json::Parse` can raise, and when it raises something that is no `json::Exception`. -/
theorem jsonParse_raises (sign : CharSign) (text : Bytes) :
    Raises (fun failure => ParseFault failure ∨
      (∃ word, failure = .utf8 word ∧ scan sign text = .error (.utf8 word)) ∨
      (failure = .outOfRange ∧ text.all isSpace)) (jsonParse sign text) := by
  intro failure failed
  rcases bind_eq_error.mp failed with failed | ⟨tokens, scanned, failed⟩
  · have scanFault := scanLoop_raises sign _ text failure failed
    cases failure with
    | json what => exact .inl trivial
    | utf8 word => exact .inr (.inl ⟨word, rfl, failed⟩)
    | iot | lengthError | outOfRange => exact scanFault.elim
  · by_cases empty : tokens = []
    · subst empty
      exact .inr (.inr ⟨(Except.error.inj failed).symm, scan_eq_nil.mp scanned⟩)
    · exact .inl (readTokens_raises empty failure failed)

end IotClient
