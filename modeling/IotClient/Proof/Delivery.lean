import IotClient.Proof.JsonFaults
import IotClient.Proof.PrivateMessage
import IotClient.Spec.Delivery

namespace IotClient
open Logic

/-! ## The remaining length -/

theorem digit_decode (n : Nat) (small : n < 128) :
    UInt8.ofNat n &&& 128 = 0 ∧ (UInt8.ofNat n &&& 127).toNat = n ∧
      UInt8.ofNat (n ||| 0x80) &&& 128 ≠ 0 ∧ (UInt8.ofNat (n ||| 0x80) &&& 127).toNat = n := by
  have all : ∀ n : Fin 128, UInt8.ofNat n.val &&& 128 = 0 ∧ (UInt8.ofNat n.val &&& 127).toNat = n.val ∧
      UInt8.ofNat (n.val ||| 0x80) &&& 128 ≠ 0 ∧ (UInt8.ofNat (n.val ||| 0x80) &&& 127).toNat = n.val := by
    decide +kernel
  exact all ⟨n, small⟩

theorem encodeLength_short {length : Nat} (short : length < 128) :
    encodeLength length = [UInt8.ofNat length] := by
  simp [encodeLength, encodeDigits, Nat.div_eq_of_lt short, Nat.mod_eq_of_lt short]

theorem encodeLength_long {length : Nat} (long : 128 ≤ length) (bounded : length < 16384) :
    encodeLength length = [UInt8.ofNat (length % 128 ||| 0x80), UInt8.ofNat (length / 128)] := by
  have quotient : length / 128 < 128 := by omega
  have positive : length / 128 > 0 := by omega
  simp [encodeLength, encodeDigits, positive, Nat.div_eq_of_lt quotient, Nat.mod_eq_of_lt quotient]

theorem decodeLength_encodeLength {length : Nat} (bounded : length < 16384) (rest : Bytes) :
    decodeLength (encodeLength length ++ rest) = ((encodeLength length).length, length) := by
  by_cases short : length < 128
  · obtain ⟨last, value, _⟩ := digit_decode length short
    simp [encodeLength_short short, decodeLength, decodeDigits, last, value]
  · obtain ⟨_, _, more, low⟩ := digit_decode (length % 128) (by omega)
    obtain ⟨last, high, _⟩ := digit_decode (length / 128) (by omega)
    rw [encodeLength_long (by omega) bounded]
    simp only [decodeLength, decodeDigits, List.cons_append, List.nil_append, more, low, last, high, ne_eq,
      not_true_eq_false, not_false_eq_true, if_true, if_false, List.length_cons, List.length_nil,
      Prod.mk.injEq, true_and]
    omega

theorem encodeLength_pos (length : Nat) : 0 < (encodeLength length).length := by
  simp only [encodeLength, encodeDigits]
  split <;> simp

theorem Frame.body_length (frame : Frame) : frame.body.length < 16384 := by
  have fits := frame.fits
  have positive := encodeLength_pos frame.body.length
  simp only [frameBytes, List.length_cons, List.length_append, maxPacketSize] at fits
  omega

/-! ## Reading a PUBLISH -/

theorem readInt_cons (high low : UInt8) (rest : Bytes) :
    readInt (high :: low :: rest) = .ok (256 * high.toNat + low.toNat, rest) := rfl

theorem deserializePublish_load (frame : Frame) (readbuf : Bytes)
    (publish : packetType frame.header = .publish) :
    deserializePublish (frame.load readbuf) =
      match frame.topic with
      | none => .ok none
      | some (topic, rest) =>
          if qosOf frame.header = .qos0 then .ok (some ⟨.qos0, 0, topic, rest, rest.length⟩)
          else (fun (result : Nat × Bytes) => some ⟨qosOf frame.header, result.1, topic,
              result.2.take (rest.length - 2), rest.length - 2⟩) <$>
            readInt (rest ++ readbuf.drop (frameBytes frame.header frame.body).length) := by
  have decoded := decodeLength_encodeLength frame.body_length
    (frame.body ++ readbuf.drop (frameBytes frame.header frame.body).length)
  generalize stale : readbuf.drop (frameBytes frame.header frame.body).length = behind at decoded ⊢
  have loaded : frame.load readbuf =
      frame.header :: (encodeLength frame.body.length ++ (frame.body ++ behind)) := by
    simp [Frame.load, frameBytes, ← stale]
  rw [loaded]
  simp only [deserializePublish, publish, ne_eq, not_true_eq_false, if_false, decoded, List.drop_left,
    Frame.topic]
  match frame.body with
  | [] => rfl
  | [_] => rfl
  | high :: low :: rest =>
      have long : ¬ rest.length + 1 + 1 ≤ 1 := by omega
      simp only [List.cons_append, readInt_cons, bind, Except.bind, List.length_cons, if_neg long]
      generalize 256 * high.toNat + low.toNat = len
      by_cases enough : len ≤ rest.length
      · have notShort : ¬ rest.length + 1 + 1 < 2 + len := by omega
        have left : ((rest.length + 1 + 1 : Nat) : Int) - 2 - len = ((rest.length - len : Nat) : Int) := by omega
        simp only [notShort, enough, if_true, if_false, List.take_append_of_le_length enough,
          List.drop_append_of_le_length enough, left, Int.toNat_natCast, List.length_drop]
        split
        · have whole : (rest.drop len ++ behind).take (rest.length - len) = rest.drop len := by
            rw [← List.length_drop, List.take_left]
          rw [whole]
          rfl
        · have shorter : (((rest.length - len : Nat) : Int) - 2).toNat = rest.length - len - 2 := by omega
          rw [shorter]
          cases readInt (rest.drop len ++ behind) <;> rfl
      · have short : rest.length + 1 + 1 < 2 + len := by omega
        simp [short, enough, pure, Except.pure]

/-! ## Classification -/

def MessageFault : Fault → Prop
  | .json _ => True
  | .iot _ => True
  | _ => False

theorem messageFault_of_parseFault {failure : Fault} (parseFault : ParseFault failure) :
    MessageFault failure := by
  cases failure <;> trivial

theorem index_raises (element : Json) (name : Bytes) : Raises ParseFault (element.index name) := by
  refine Raises.bind ?_ fun members _ => ?_
  · cases element with
    | object members => exact raises_ok _
    | null | boolean | number | string | array => exact raises_error trivial
  · unfold Json.lookup
    split
    · exact raises_ok _
    · exact raises_error trivial

theorem toBytes_raises (element : Json) : Raises ParseFault element.toBytes := by
  cases element with
  | string value => exact raises_ok _
  | null | boolean | number | array | object => exact raises_error trivial

theorem toBoolean_raises (element : Json) : Raises ParseFault element.toBoolean := by
  cases element with
  | boolean value => exact raises_ok _
  | null | string | number | array | object => exact raises_error trivial

theorem sokDecrypt_raises (sok : Sok) (data : SokData) (sokRecvKey userIdFrom : Bytes) :
    Raises MessageFault (sokDecrypt sok data sokRecvKey userIdFrom) := by
  unfold sokDecrypt
  by_cases size : sokRecvKey.length = g2s
  · cases pairing : sok.pair2 sokRecvKey userIdFrom with
    | error code =>
        simp only [size, ne_eq, not_true_eq_false, if_false]
        exact raises_error trivial
    | ok key =>
        simp only [size, ne_eq, not_true_eq_false, if_false]
        by_cases same : data.tag = (sok.decrypt key data.iv userIdFrom data.ciphertext).2
        · rw [if_neg (not_not_intro same)]
          exact raises_ok _
        · rw [if_pos same]
          exact raises_error trivial
  · rw [if_pos size]
    exact raises_error trivial

theorem readPrivateMessage_raises (sok : Sok) (sign : CharSign) (sokRecvKey : Bytes) {text : Bytes}
    (readable : Readable sign text) : Raises MessageFault (readPrivateMessage sok sign sokRecvKey text) := by
  refine Raises.bind ?_ fun json _ => ?_
  · intro failure failed
    rcases jsonParse_raises sign text failure failed with parseFault | ⟨word, _, scanned⟩ | ⟨_, spaces⟩
    · exact messageFault_of_parseFault parseFault
    · exact absurd scanned (readable.2 word)
    · exact absurd spaces readable.1
  have field (name : Bytes) {α : Type} {next : Bytes → Except Fault α}
      (rest : ∀ value, Raises MessageFault (next value)) :
      Raises MessageFault (json.index name >>= fun element => element.toBytes >>= next) :=
    ((index_raises json name).mono fun _ => messageFault_of_parseFault).bind fun element _ =>
      ((toBytes_raises element).mono fun _ => messageFault_of_parseFault).bind fun value _ => rest value
  refine field _ fun userIdFrom => ?_
  refine ((index_raises _ _).mono fun _ => messageFault_of_parseFault).bind fun element _ => ?_
  refine ((toBoolean_raises element).mono fun _ => messageFault_of_parseFault).bind fun encrypted _ => ?_
  split
  · refine field _ fun iv => field _ fun ciphertext => field _ fun tag => ?_
    refine (sokDecrypt_raises _ _ _ _).bind fun payload _ => ?_
    dsimp only
    split
    · exact (raises_error trivial).bind fun _ _ => raises_ok _
    · exact raises_ok _
  · exact field _ fun data => raises_ok _

theorem privateMessage_raises (sok : Sok) (sign : CharSign) (sokRecvKey : Bytes) {text : Bytes}
    (readable : Readable sign text) :
    Raises (fun failure => ∃ what, failure = .iot what) (privateMessage sok sign sokRecvKey text) := by
  have raises := readPrivateMessage_raises sok sign sokRecvKey readable
  unfold privateMessage
  cases read : readPrivateMessage sok sign sokRecvKey text with
  | ok result => exact raises_ok _
  | error failure =>
      have messageFault := raises failure read
      cases failure with
      | json what => exact raises_error ⟨_, rfl⟩
      | iot what => exact raises_error ⟨what, rfl⟩
      | utf8 | lengthError | outOfRange => exact messageFault.elim

theorem privateMessage_unreadable (sok : Sok) {sign : CharSign} (sokRecvKey : Bytes) {text : Bytes}
    (unreadable : ¬ Readable sign text) :
    ∃ failure, privateMessage sok sign sokRecvKey text = .error failure ∧ ∀ what, failure ≠ .iot what := by
  by_cases spaces : text.all isSpace
  · refine ⟨.outOfRange, ?_, by simp⟩
    rw [privateMessage, readPrivateMessage, jsonParse, scan_eq_nil.mpr spaces]
    rfl
  · obtain ⟨word, scanned⟩ : ∃ word, scan sign text = .error (.utf8 word) := by
      simpa [Readable, spaces] using unreadable
    refine ⟨.utf8 word, ?_, by simp⟩
    rw [privateMessage, readPrivateMessage, jsonParse, scanned]
    rfl

theorem classifyMessage_isOk_iff {sok : Sok} {sign : CharSign}
    {privateMessagesTopic sokRecvKey topic payload : Bytes} :
    (∃ callback, classifyMessage sok sign privateMessagesTopic sokRecvKey topic payload = .ok callback) ↔
      (topic = privateMessagesTopic → Readable sign payload) := by
  unfold classifyMessage
  by_cases own : topic = privateMessagesTopic
  · simp only [own, if_true, true_imp_iff]
    constructor
    · rintro ⟨callback, classified⟩
      apply Classical.byContradiction
      intro unreadable
      obtain ⟨failure, failed, notIot⟩ := privateMessage_unreadable sok sokRecvKey unreadable
      rw [failed] at classified
      cases failure with
      | iot what => exact notIot what rfl
      | json | utf8 | lengthError | outOfRange => contradiction
    · intro readable
      have raises := privateMessage_raises sok sign sokRecvKey readable
      cases read : privateMessage sok sign sokRecvKey payload with
      | ok result => exact ⟨_, rfl⟩
      | error failure =>
          obtain ⟨what, rfl⟩ := raises failure read
          exact ⟨_, rfl⟩
  · simp [own]

theorem classifyMessage_owed {sok : Sok} {sign : CharSign} {receiver : Receiver} {topic payload : Bytes}
    {callback : Callback}
    (classified : classifyMessage sok sign receiver.privateMessagesTopic receiver.sokRecvKey topic payload =
      .ok callback) : Owed sok sign receiver topic payload callback := by
  unfold classifyMessage at classified
  split at classified
  · next own =>
    cases read : privateMessage sok sign receiver.sokRecvKey payload with
    | ok result =>
        rw [read] at classified
        obtain rfl := Except.ok.inj classified
        exact .privateMessage own (privateMessage_eq_ok.mp read)
    | error failure =>
        rw [read] at classified
        cases failure with
        | iot what =>
            obtain rfl := Except.ok.inj classified
            refine .error own fun userIdFrom text describes => ?_
            rw [privateMessage_eq_ok.mpr describes] at read
            contradiction
        | json | utf8 | lengthError | outOfRange => contradiction
  · next other =>
    obtain rfl := Except.ok.inj classified
    exact .message other

/-! ## Delivery -/

theorem useQoS2msgid_isSome (id : Nat) (slots : List Nat) : (useQoS2msgid id slots).isSome ↔ 0 ∈ slots := by
  induction slots with
  | nil => simp [useQoS2msgid]
  | cons slot slots inductive_hypothesis =>
      by_cases free : slot = 0
      · simp [useQoS2msgid, free]
      · simp [useQoS2msgid, free, Ne.symm free, ← inductive_hypothesis]

theorem handlePublish_accepts (sok : Sok) (sign : CharSign) {receiver : Receiver} (message : Message)
    (accepts : receiver.accepts message.qos message.id) :
    ∃ incoming, handlePublish sok sign receiver message =
      (fun callback => (incoming, [callback])) <$> onMessageArrived sok sign receiver message := by
  unfold handlePublish
  by_cases exactlyOnce : message.qos = .qos2
  · obtain ⟨unused, room⟩ := accepts exactlyOnce
    obtain ⟨incoming, used⟩ := Option.isSome_iff_exists.mp ((useQoS2msgid_isSome message.id _).mpr room)
    refine ⟨incoming, ?_⟩
    simp only [exactlyOnce, ne_eq, not_true_eq_false, if_false, isQoS2msgidFree, List.contains_eq_mem, unused,
      decide_false, Bool.not_false, if_true, used]
    cases onMessageArrived sok sign receiver message <;> rfl
  · refine ⟨receiver.incomingQoS2messages, ?_⟩
    simp only [ne_eq, exactlyOnce, not_false_eq_true, if_true]
    cases onMessageArrived sok sign receiver message <;> rfl

theorem handlePublish_refuses (sok : Sok) (sign : CharSign) {receiver : Receiver} (message : Message)
    (refuses : ¬ receiver.accepts message.qos message.id) :
    handlePublish sok sign receiver message = .ok (receiver.incomingQoS2messages, []) := by
  simp only [Receiver.accepts, Classical.not_imp] at refuses
  obtain ⟨exactlyOnce, unavailable⟩ := refuses
  unfold handlePublish
  simp only [exactlyOnce, ne_eq, not_true_eq_false, if_false, isQoS2msgidFree, List.contains_eq_mem]
  by_cases used : message.id ∈ receiver.incomingQoS2messages
  · simp [used]
  · have full : 0 ∉ receiver.incomingQoS2messages := fun room => unavailable ⟨used, room⟩
    have none : useQoS2msgid message.id receiver.incomingQoS2messages = none := by
      simpa [← useQoS2msgid_isSome message.id] using full
    simp [used, none]

theorem deserializePublish_publication {frame : Frame} {topic payload : Bytes} {id : Nat} (readbuf : Bytes)
    (publish : packetType frame.header = .publish)
    (publication : frame.publication = some (topic, id, payload)) :
    deserializePublish (frame.load readbuf) =
      .ok (some ⟨qosOf frame.header, id, topic, payload, payload.length⟩) := by
  rw [deserializePublish_load frame readbuf publish]
  unfold Frame.publication at publication
  cases isTopic : frame.topic with
  | none => simp [isTopic] at publication
  | some parts =>
      obtain ⟨name, rest⟩ := parts
      simp only [isTopic] at publication ⊢
      by_cases isQos0 : qosOf frame.header = .qos0
      · simp only [isQos0, if_true, Option.some.injEq, Prod.mk.injEq] at publication ⊢
        obtain ⟨rfl, rfl, rfl⟩ := publication
        rfl
      · simp only [isQos0, if_false] at publication ⊢
        match rest, publication with
        | high :: low :: text, publication =>
            simp only [Option.some.injEq, Prod.mk.injEq] at publication
            obtain ⟨rfl, rfl, rfl⟩ := publication
            simp [readInt_cons, Functor.map, Except.map]
            omega

theorem deserializePublish_short {frame : Frame} {topic rest : Bytes} (readbuf : Bytes)
    (publish : packetType frame.header = .publish) (isTopic : frame.topic = some (topic, rest))
    (malformed : frame.publication = none) :
    rest.length < 2 ∧ deserializePublish (frame.load readbuf) =
      (fun (result : Nat × Bytes) => some ⟨qosOf frame.header, result.1, topic,
        result.2.take (rest.length - 2), rest.length - 2⟩) <$>
          readInt (rest ++ readbuf.drop (frameBytes frame.header frame.body).length) := by
  have notQos0 : qosOf frame.header ≠ .qos0 := fun isQos0 => by
    simp [Frame.publication, isQos0, isTopic] at malformed
  rw [deserializePublish_load frame readbuf publish, isTopic]
  refine ⟨?_, if_neg notQos0⟩
  match rest, isTopic with
  | [], _ => simp
  | [_], _ => simp
  | high :: low :: rest, isTopic => simp [Frame.publication, isTopic, notQos0] at malformed

/-- Which PUBLISH packets the client processes as it should. -/
theorem handlesPublish_iff {sok : Sok} {sign : CharSign} {receiver : Receiver} {readbuf : Bytes} {frame : Frame}
    (publish : packetType frame.header = .publish) :
    HandlesPublish sok sign receiver readbuf frame ↔ Harmless sign receiver readbuf frame := by
  unfold HandlesPublish Harmless
  cases publication : frame.publication with
  | some parts =>
      obtain ⟨topic, id, payload⟩ := parts
      have processed : processPublish sok sign receiver (frame.load readbuf) =
          handlePublish sok sign receiver ⟨qosOf frame.header, id, topic, payload, payload.length⟩ := by
        rw [processPublish, deserializePublish_publication readbuf publish publication]
        rfl
      rw [processed]
      by_cases accepts : receiver.accepts (qosOf frame.header) id
      · obtain ⟨incoming, handled⟩ := handlePublish_accepts sok sign
          ⟨qosOf frame.header, id, topic, payload, payload.length⟩ accepts
        have arrived : onMessageArrived sok sign receiver
            ⟨qosOf frame.header, id, topic, payload, payload.length⟩ =
            classifyMessage sok sign receiver.privateMessagesTopic receiver.sokRecvKey topic payload :=
          if_neg (by simp)
        rw [handled, arrived]
        constructor
        · rintro ⟨_, _, processed, _⟩ _
          obtain ⟨callback, classified, _⟩ := map_eq_ok.mp processed
          exact classifyMessage_isOk_iff.mp ⟨callback, classified⟩
        · intro harmless
          obtain ⟨callback, classified⟩ := classifyMessage_isOk_iff.mpr (harmless accepts)
          refine ⟨incoming, [callback], by rw [classified]; rfl, ?_⟩
          intro _ _ _ same _
          cases same
          exact ⟨callback, rfl, classifyMessage_owed classified⟩
      · rw [handlePublish_refuses sok sign _ accepts]
        refine iff_of_true ⟨_, _, rfl, ?_⟩ fun accepted => absurd accepted accepts
        intro _ _ _ same accepted
        cases same
        exact absurd accepted accepts
  | none =>
      simp only [reduceCtorEq, false_implies, implies_true, and_true]
      cases isTopic : frame.topic with
      | none =>
          refine iff_of_true ?_ (by simp)
          rw [processPublish, deserializePublish_load frame readbuf publish, isTopic]
          exact ⟨_, _, rfl⟩
      | some parts =>
          obtain ⟨topic, rest⟩ := parts
          obtain ⟨short, deserialized⟩ := deserializePublish_short readbuf publish isTopic publication
          rw [processPublish, deserialized]
          constructor
          · rintro ⟨incoming, callbacks, processed⟩ _ _ same
            cases same
            obtain ⟨message, isMessage, handled⟩ := bind_eq_ok.mp processed
            obtain ⟨⟨id, past⟩, isInt, rfl⟩ := map_eq_ok.mp isMessage
            refine ⟨id, past, isInt, fun accepts => ?_⟩
            obtain ⟨_, equal⟩ := handlePublish_accepts sok sign
              ⟨qosOf frame.header, id, topic, past.take (rest.length - 2), rest.length - 2⟩ accepts
            have tooLong : onMessageArrived sok sign receiver
                ⟨qosOf frame.header, id, topic, past.take (rest.length - 2), rest.length - 2⟩ =
                .error .lengthError := if_pos (by simp; omega)
            rw [tooLong] at equal
            exact absurd (equal.symm.trans handled) (by simp [Functor.map, Except.map])
          · intro harmless
            obtain ⟨id, past, isInt, refuses⟩ := harmless topic rest rfl
            rw [isInt]
            exact ⟨_, _, handlePublish_refuses sok sign
              ⟨qosOf frame.header, id, topic, past.take (rest.length - 2), rest.length - 2⟩ refuses⟩

def sampleReceiver : Receiver := ⟨bytes "pm", [], List.replicate maxIncomingQoS2Messages 0⟩

theorem handlesPublish_sample :
    HandlesPublish plainSok .signed sampleReceiver (List.replicate maxPacketSize 0)
      ⟨0x30, [0, 2] ++ bytes "tohi", by decide⟩ :=
  (handlesPublish_iff rfl).mpr fun _ own => absurd own (by decide)

/-- A QoS 1 packet that ends with its topic, a private payload of one blank, and one with half of a
surrogate pair. -/
theorem not_handlesPublish :
    ¬ HandlesPublish plainSok .signed sampleReceiver (List.replicate maxPacketSize 0)
        ⟨0x32, [0, 2] ++ bytes "to", by decide⟩ ∧
      ¬ HandlesPublish plainSok .signed sampleReceiver (List.replicate maxPacketSize 0)
        ⟨0x30, [0, 2] ++ bytes "pm ", by decide⟩ ∧
      ¬ HandlesPublish plainSok .signed sampleReceiver (List.replicate maxPacketSize 0)
        ⟨0x30, [0, 2] ++ bytes "pm\"\\u=800\"", by decide⟩ := by
  have fails (frame : Frame) (failure : Fault)
      (processed : processPublish plainSok .signed sampleReceiver
        (frame.load (List.replicate maxPacketSize 0)) = .error failure) :
      ¬ HandlesPublish plainSok .signed sampleReceiver (List.replicate maxPacketSize 0) frame := by
    rintro ⟨_, _, succeeded, _⟩
    rw [processed] at succeeded
    contradiction
  exact ⟨fails _ .lengthError (by decide +kernel), fails _ .outOfRange (by decide +kernel),
    fails _ (.utf8 0xd800) (by decide +kernel)⟩

end IotClient
