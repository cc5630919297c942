import IotClient.Proof.Delivery
import IotClient.Spec.Wire
import Mathlib.Tactic.Ring

namespace IotClient
open Logic

/-! ## The remaining length -/

theorem encodeDigits_cons {digits length : Nat} (more : length / 128 > 0) :
    encodeDigits (digits + 1) length = UInt8.ofNat (length % 128 ||| 0x80) :: encodeDigits digits (length / 128) := by
  simp [encodeDigits, more]

theorem encodeDigits_last {digits length : Nat} (last : ¬length / 128 > 0) :
    encodeDigits (digits + 1) length = [UInt8.ofNat length] := by
  have small : length < 128 := by omega
  simp [encodeDigits, last, Nat.mod_eq_of_lt small]

theorem decodeDigits_encodeDigits {digits more length : Nat} (enough : digits ≤ more) (bounded : length < 128 ^ digits)
    (multiplier len value : Nat) (rest : Bytes) (positive : 0 < digits) :
    decodeDigits digits multiplier len value (encodeDigits more length ++ rest) =
      (len + (encodeDigits more length).length, value + length * multiplier) := by
  induction digits generalizing more length multiplier len value with
  | zero => omega
  | succ digits continued =>
      obtain ⟨more, rfl⟩ : ∃ fewer, more = fewer + 1 := ⟨more - 1, by omega⟩
      by_cases longer : length / 128 > 0
      · obtain ⟨-, -, set, low⟩ := digit_decode (length % 128) (by omega)
        rw [encodeDigits_cons longer]
        simp only [List.cons_append, decodeDigits, set, low, ne_eq, not_false_eq_true, if_true, List.length_cons]
        have bounded : length / 128 < 128 ^ digits := by
          rw [Nat.div_lt_iff_lt_mul (by decide)]
          exact bounded
        have positive : 0 < digits := by
          rcases Nat.eq_zero_or_pos digits with rfl | positive
          · omega
          · exact positive
        rw [continued (by omega) bounded _ _ _ positive]
        refine Prod.ext (by simp only; omega) ?_
        have whole : length = length / 128 * 128 + length % 128 := by omega
        simp only
        conv => rhs; rw [whole]
        ring
      · obtain ⟨clear, value, -⟩ := digit_decode length (by omega)
        rw [encodeDigits_last longer]
        simp [decodeDigits, clear, value]

theorem length_encodeDigits (digits more : Nat) {length : Nat} (bounded : length < 128 ^ digits) (positive : 0 < digits) :
    (encodeDigits more length).length ≤ digits := by
  induction digits generalizing more length with
  | zero => omega
  | succ digits continued =>
      cases more with
      | zero => simp [encodeDigits]
      | succ more =>
          by_cases longer : length / 128 > 0
          · rw [encodeDigits_cons longer]
            have bounded : length / 128 < 128 ^ digits := by
              rw [Nat.div_lt_iff_lt_mul (by decide)]
              exact bounded
            have positive : 0 < digits := by
              rcases Nat.eq_zero_or_pos digits with rfl | positive
              · omega
              · exact positive
            simpa using continued more bounded positive
          · simp [encodeDigits_last longer]

theorem decodeLength_encode {length : Nat} (bounded : length < 128 ^ 4) (rest : Bytes) :
    decodeLength (encodeLength length ++ rest) = ((encodeLength length).length, length) := by
  have decoded := decodeDigits_encodeDigits (show 4 ≤ 5 by decide) bounded 1 0 0 rest (by decide)
  simpa [decodeLength, encodeLength] using decoded

/-- `MQTTPacket_len` never counts too few bytes. -/
theorem length_le_packetLen {length : Nat} (bounded : length < 128 ^ 4) :
    1 + (encodeLength length).length + length ≤ packetLen length := by
  simp only [packetLen]
  split
  · have := length_encodeDigits 1 5 (show length < 128 ^ 1 by omega) (by decide)
    simp only [encodeLength]
    omega
  split
  · have := length_encodeDigits 2 5 (show length < 128 ^ 2 by omega) (by decide)
    simp only [encodeLength]
    omega
  split
  · have := length_encodeDigits 3 5 (show length < 128 ^ 3 by omega) (by decide)
    simp only [encodeLength]
    omega
  · have := length_encodeDigits 4 5 bounded (by decide)
    simp only [encodeLength]
    omega

/-! ## Strings and numbers -/

theorem length_writeInt (n : Nat) : (writeInt n).length = 2 := rfl

theorem readInt_writeInt {n : Nat} (short : n < 65536) (rest : Bytes) : readInt (writeInt n ++ rest) = .ok (n, rest) := by
  have high : (UInt8.ofNat (n / 256)).toNat = n / 256 := UInt8.toNat_ofNat_of_lt (by simp only [UInt8.size]; omega)
  have low : (UInt8.ofNat (n % 256)).toNat = n % 256 := UInt8.toNat_ofNat_of_lt (by simp only [UInt8.size]; omega)
  have whole : 256 * (n / 256) + n % 256 = n := by omega
  simp only [writeInt, List.cons_append, List.nil_append, readInt_cons, high, low, whole]

namespace MqttString

variable {string : MqttString}

theorem write_eq (string : MqttString) : writeMqttString string = writeCString string.text := by
  obtain ⟨cstring, lenstring⟩ := string
  rcases lenstring with _ | _ | ⟨first, more⟩ <;> cases cstring <;> rfl

theorem Sound.strlen (sound : string.Sound) : string.strlen = string.text.length := by
  obtain ⟨cstring, lenstring⟩ := string
  have single := sound.single
  rcases lenstring with _ | _ | ⟨first, more⟩ <;> cases cstring <;>
    simp_all [MqttString.strlen, text]

end MqttString

theorem length_writeMqttString (string : MqttString) : (writeMqttString string).length = 2 + string.text.length := by
  simp [MqttString.write_eq, writeCString, length_writeInt]

theorem readInt_write {n : Nat} (short : n < 65536) (rest : Bytes) (left : Int) :
    (⟨writeInt n ++ rest, left⟩ : Cursor).readInt = .ok (n, ⟨rest, left - 2⟩) := by
  simp only [Cursor.readInt, readInt_writeInt short, ok_bind]
  rfl

theorem readLenString_write {string : MqttString} (short : string.text.length < 65536) (rest : Bytes) {left : Int}
    (fits : 2 + string.text.length ≤ left) :
    (⟨writeMqttString string ++ rest, left⟩ : Cursor).readLenString =
      .ok (some (string.text, ⟨rest, left - (2 + string.text.length)⟩)) := by
  have long : left > 1 := by omega
  have within : (string.text.length : Int) ≤ left - 2 := by omega
  simp only [Cursor.readLenString, long, if_true, MqttString.write_eq, writeCString, List.append_assoc, readInt_write short,
    ok_bind, within, List.take_left', List.drop_left', Int.sub_sub]
  rfl

/-! ## Headers -/

theorem headerByte_toNat (type : PacketType) (dup : UInt8) (qos : QoS) (retain : UInt8) :
    (headerByte type dup qos retain).toNat =
      type.code * 16 + dup.toNat % 2 * 8 + qos.value * 2 + retain.toNat % 2 := by
  have code : type.code < 16 := by cases type <;> decide
  have value : qos.value < 4 := by cases qos <;> decide
  exact UInt8.toNat_ofNat_of_lt (by simp only [UInt8.size]; omega)

theorem packetType_headerByte (type : PacketType) (dup : UInt8) (qos : QoS) (retain : UInt8) :
    packetType (headerByte type dup qos retain) = type := by
  have value : qos.value < 4 := by cases qos <;> decide
  have quotient : (headerByte type dup qos retain).toNat / 16 = type.code := by
    rw [headerByte_toNat]
    omega
  simp only [packetType, quotient]
  cases type <;> rfl

theorem qosOf_headerByte (type : PacketType) (dup : UInt8) (qos : QoS) (retain : UInt8) :
    qosOf (headerByte type dup qos retain) = qos := by
  have value : qos.value < 4 := by cases qos <;> decide
  have bits : (headerByte type dup qos retain).toNat / 2 % 4 = qos.value := by
    rw [headerByte_toNat]
    omega
  simp only [qosOf, bits]
  cases qos <;> rfl

theorem dup_headerByte (type : PacketType) (dup : UInt8) (qos : QoS) (retain : UInt8) :
    headerByte type dup qos retain >>> 3 &&& 1 = dup &&& 1 := by
  have value : qos.value < 4 := by cases qos <;> decide
  rw [← UInt8.toNat_inj]
  simp only [UInt8.toNat_and, UInt8.toNat_shiftRight, headerByte_toNat, UInt8.reduceToNat, Nat.and_one_is_mod,
    Nat.shiftRight_eq_div_pow, Nat.reduceMod, Nat.reducePow]
  omega

/-! ## Packets -/

section Serialize

variable {buflen remLen : Nat} {header : UInt8} {body buf : Bytes}

theorem serialize_some (run : serialize buflen header remLen body = some buf) :
    packetLen remLen ≤ buflen ∧ buf = header :: encodeLength remLen ++ body := by
  unfold serialize at run
  split at run
  · cases run
  next fits => exact ⟨Nat.le_of_not_lt fits, (Option.some.inj run).symm⟩

theorem packetLen_pos (remLen : Nat) : remLen + 2 ≤ packetLen remLen := by
  simp only [packetLen]
  split
  · omega
  split
  · omega
  split <;> omega

theorem serialize_within (run : serialize buflen header remLen body = some buf) (whole : body.length = remLen)
    (bounded : remLen < 128 ^ 4) : buf.length ≤ buflen := by
  obtain ⟨fits, rfl⟩ := serialize_some run
  have enough := length_le_packetLen bounded
  simp only [List.cons_append, List.length_cons, List.length_append, whole]
  omega

theorem openPacket_written (bounded : remLen < 128 ^ 4) :
    openPacket (header :: encodeLength remLen ++ body) = .ok (header, (encodeLength remLen).length, ⟨body, remLen⟩) := by
  simp only [openPacket, List.cons_append, decodeLength_encode bounded, List.drop_left']

end Serialize

/-! ## PUBLISH -/

section Publish

variable {buflen : Nat} {dup : UInt8} {qos : QoS} {retained : UInt8} {packetid : UInt16} {topicName : MqttString}
  {payload buf : Bytes}

theorem length_publish (sound : topicName.Sound) :
    (writeMqttString topicName ++ (if qos = .qos0 then [] else writeInt packetid.toNat) ++ payload).length =
      serializePublishLength qos topicName payload := by
  simp only [List.length_append, length_writeMqttString, serializePublishLength, sound.strlen]
  split <;> simp only [List.length_nil, length_writeInt] <;> omega

theorem deserializePublish_serializePublish (sound : topicName.Sound)
    (bounded : serializePublishLength qos topicName payload < 128 ^ 4)
    (run : serializePublish buflen dup qos retained packetid topicName payload = some buf) :
    deserializePublish buf =
      .ok (some ⟨qos, if qos = .qos0 then 0 else packetid.toNat, topicName.text, payload, payload.length⟩) := by
  obtain ⟨-, rfl⟩ := serialize_some run
  have total : serializePublishLength qos topicName payload =
      2 + topicName.text.length + payload.length + if qos = .qos0 then 0 else 2 := by
    simp only [serializePublishLength, sound.strlen]
  have long : ¬serializePublishLength qos topicName payload ≤ 1 := by omega
  have within : ¬serializePublishLength qos topicName payload < 2 + topicName.text.length := by omega
  simp only [deserializePublish, List.cons_append, packetType_headerByte, ne_eq, not_true_eq_false, if_false,
    decodeLength_encode bounded, long, List.drop_left', MqttString.write_eq, writeCString, List.append_assoc,
    readInt_writeInt sound.short, ok_bind, within, qosOf_headerByte, List.take_left']
  by_cases unacknowledged : qos = .qos0
  · simp only [unacknowledged, if_true, List.nil_append]
    have left : ((serializePublishLength .qos0 topicName payload : Nat) : Int) - 2 - topicName.text.length =
        payload.length := by
      rw [unacknowledged] at total
      simp only [total, if_true]
      omega
    simp only [left, Int.toNat_natCast, List.take_length]
    rfl
  · have left : ((serializePublishLength qos topicName payload : Nat) : Int) - 2 - topicName.text.length - 2 =
        payload.length := by
      simp only [total, unacknowledged, if_false]
      omega
    simp only [unacknowledged, if_false, readInt_writeInt packetid.toNat_lt, ok_bind, left, Int.toNat_natCast,
      List.take_length]
    rfl

end Publish

/-! ## Lists of topics -/

section Topics

variable {α β : Type}

def writeTopics (write : α → Bytes) (topics : List (MqttString × α)) : Bytes :=
  topics.flatMap fun topic => writeMqttString topic.1 ++ write topic.2

theorem readTopics_written (room : Nat) (behind : Cursor → Except Fault (Option (β × Cursor))) (write : α → Bytes)
    (value : α → β)
    (reads : ∀ (a : α) (rest : Bytes) (left : Int), (write a).length ≤ left →
      behind ⟨write a ++ rest, left⟩ = .ok (some (value a, ⟨rest, left - (write a).length⟩)))
    {topics : List (MqttString × α)} (sound : ∀ topic ∈ topics, topic.1.Sound) {turns : Nat}
    (enough : (writeTopics write topics).length ≤ turns) (before : List (Bytes × β)) (within : before.length ≤ room)
    (rest : Bytes) :
    readTopics room behind turns ⟨writeTopics write topics ++ rest, (writeTopics write topics).length⟩ before =
      if before.length + topics.length ≤ room then
        .ok (true, before ++ topics.map fun topic => (topic.1.text, value topic.2))
      else .error .outOfRange := by
  induction topics generalizing turns before with
  | nil => cases turns <;> simp [readTopics, writeTopics, within] <;> rfl
  | cons topic topics continued =>
      have first := sound topic (by simp)
      have size : (writeTopics write (topic :: topics)).length =
          2 + topic.1.text.length + ((write topic.2).length + (writeTopics write topics).length) := by
        simp only [writeTopics, List.flatMap_cons, List.length_append, length_writeMqttString]
        omega
      have split : writeTopics write (topic :: topics) ++ rest =
          writeMqttString topic.1 ++ (write topic.2 ++ (writeTopics write topics ++ rest)) := by
        simp [writeTopics]
      obtain ⟨turns, rfl⟩ : ∃ fewer, turns = fewer + 1 := ⟨turns - 1, by omega⟩
      have positive : ¬((writeTopics write (topic :: topics)).length : Int) ≤ 0 := by omega
      rw [readTopics, if_neg positive]
      by_cases full : room ≤ before.length
      · rw [if_pos full, if_neg]
        rw [List.length_cons]
        omega
      have left : ((writeTopics write (topic :: topics)).length : Int) - (2 + topic.1.text.length) =
          (write topic.2).length + (writeTopics write topics).length := by omega
      have behindLeft : ((write topic.2).length + (writeTopics write topics).length : Int) - (write topic.2).length =
          (writeTopics write topics).length := by omega
      rw [if_neg full, split, readLenString_write first.short _ (by omega)]
      simp only [ok_bind, left]
      rw [reads _ _ _ (by omega)]
      simp only [ok_bind, behindLeft]
      rw [continued (fun topic member => sound topic (by simp [member])) (by omega) _ (by simp; omega)]
      simp only [List.length_append, List.length_cons, List.length_nil, List.append_assoc, List.map_cons,
        List.singleton_append, Nat.add_assoc, Nat.add_comm 1]

end Topics

section Subscribe

variable {buflen : Nat} {dup : UInt8} {packetid : UInt16} {buf : Bytes}

theorem readRequestedQoS_written (qos : QoS) (rest : Bytes) (left : Int) (fits : ([UInt8.ofNat qos.value].length : Int) ≤ left) :
    readRequestedQoS ⟨[UInt8.ofNat qos.value] ++ rest, left⟩ =
      .ok (some (UInt8.ofNat qos.value, ⟨rest, left - [UInt8.ofNat qos.value].length⟩)) := by
  have positive : ¬left ≤ 0 := by
    simp only [List.length_singleton] at fits
    omega
  simp only [readRequestedQoS, positive, if_false, List.cons_append, Cursor.readChar, ok_bind]
  rfl

theorem length_subscribe {topics : List (MqttString × QoS)} (sound : ∀ topic ∈ topics, topic.1.Sound) :
    serializeSubscribeLength topics = 2 + (writeTopics (fun qos : QoS => [UInt8.ofNat qos.value]) topics).length := by
  unfold serializeSubscribeLength
  congr 1
  induction topics with
  | nil => rfl
  | cons topic topics continued =>
      have rest := continued fun topic member => sound topic (by simp [member])
      simp only [List.map_cons, List.sum_cons, rest, writeTopics, List.flatMap_cons, List.length_append,
        length_writeMqttString, (sound topic (by simp)).strlen, List.length_singleton]

theorem length_unsubscribe {topics : List MqttString} (sound : ∀ topic ∈ topics, topic.Sound) :
    serializeUnsubscribeLength topics = 2 + (topics.flatMap writeMqttString).length := by
  unfold serializeUnsubscribeLength
  congr 1
  induction topics with
  | nil => rfl
  | cons topic topics continued =>
      have rest := continued fun topic member => sound topic (by simp [member])
      simp only [List.map_cons, List.sum_cons, rest, List.flatMap_cons, List.length_append, length_writeMqttString,
        (sound topic (by simp)).strlen]

theorem deserializeSubscribe_serializeSubscribe (room : Nat) {topics : List (MqttString × QoS)}
    (sound : ∀ topic ∈ topics, topic.1.Sound) (bounded : serializeSubscribeLength topics < 128 ^ 4)
    (run : serializeSubscribe buflen dup packetid topics = some buf) :
    deserializeSubscribe room buf =
      if topics.length ≤ room then
        .ok (1, dup &&& 1, packetid.toNat, topics.map fun topic => (topic.1.text, UInt8.ofNat topic.2.value))
      else .error .outOfRange := by
  obtain ⟨-, rfl⟩ := serialize_some run
  have size := length_subscribe sound
  have written := readTopics_written room readRequestedQoS _ _ readRequestedQoS_written sound (Nat.le_refl _) []
    (Nat.zero_le _) []
  have left : ((serializeSubscribeLength topics : Nat) : Int) - 2 =
      (writeTopics (fun qos : QoS => [UInt8.ofNat qos.value]) topics).length := by omega
  rw [List.append_nil] at written
  simp only [deserializeSubscribe, deserializeTopics, openPacket_written bounded, ok_bind, packetType_headerByte, ne_eq,
    not_true_eq_false, if_false, readInt_write packetid.toNat_lt, left, Int.toNat_natCast, dup_headerByte]
  rw [writeTopics] at written ⊢
  rw [written, List.length_nil, Nat.zero_add]
  split <;> rfl

theorem deserializeUnsubscribe_serializeUnsubscribe (room : Nat) {topics : List MqttString}
    (sound : ∀ topic ∈ topics, topic.Sound) (bounded : serializeUnsubscribeLength topics < 128 ^ 4)
    (run : serializeUnsubscribe buflen dup packetid topics = some buf) :
    deserializeUnsubscribe room buf =
      if topics.length ≤ room then .ok (1, dup &&& 1, packetid.toNat, topics.map fun topic => (topic.text, ()))
      else .error .outOfRange := by
  obtain ⟨-, rfl⟩ := serialize_some run
  have size := length_unsubscribe sound
  have same : topics.flatMap writeMqttString = writeTopics (fun _ : Unit => []) (topics.map fun topic => (topic, ())) := by
    simp [writeTopics, List.flatMap_map]
  have written := readTopics_written room (fun curdata => return some ((), curdata)) (fun _ : Unit => []) id
    (fun _ rest left _ => by simp; rfl)
    (show ∀ topic ∈ topics.map fun topic => (topic, ()), topic.1.Sound by simpa using sound) (Nat.le_refl _) []
    (Nat.zero_le _) []
  have left : ((serializeUnsubscribeLength topics : Nat) : Int) - 2 =
      (writeTopics (fun _ : Unit => []) (topics.map fun topic => (topic, ()))).length := by
    rw [← same]
    omega
  rw [List.append_nil] at written
  simp only [deserializeUnsubscribe, deserializeTopics, openPacket_written bounded, ok_bind, packetType_headerByte, ne_eq,
    not_true_eq_false, if_false, readInt_write packetid.toNat_lt, left, Int.toNat_natCast, dup_headerByte, same]
  rw [written, List.length_nil, Nat.zero_add, List.length_map]
  split
  · simp [Function.comp_def]
  · rfl

end Subscribe

/-! ## CONNECT -/

theorem and_one_eq (c : UInt8) : UInt8.ofNat (c.toNat % 2) = c &&& 1 := by
  rw [← UInt8.toNat_inj]
  simp only [UInt8.toNat_and, UInt8.reduceToNat, Nat.and_one_is_mod, UInt8.toNat_ofNat']
  omega

theorem and_three_eq (c : UInt8) : UInt8.ofNat (c.toNat % 4) = c &&& 3 := by
  rw [← UInt8.toNat_inj]
  have mask : c.toNat &&& 3 = c.toNat % 4 := Nat.and_two_pow_sub_one_eq_mod c.toNat 2
  simp only [UInt8.toNat_and, UInt8.reduceToNat, UInt8.toNat_ofNat', mask]
  omega

theorem connectFlags_bits : ∀ (clean : Fin 2) (will : Bool) (qos : Fin 4) (retained : Fin 2) (password username : Bool),
    let flags := UInt8.ofNat (clean.val * 2 + (if will then 4 + qos.val * 8 + retained.val * 32 else 0) +
      (if password then 64 else 0) + if username then 128 else 0)
    flags >>> 1 &&& 1 = UInt8.ofNat clean ∧ (flags &&& 4 = 0 ↔ will = false) ∧
      flags >>> 2 &&& 1 = (if will then 1 else 0) ∧
      (will = true → flags >>> 5 &&& 1 = UInt8.ofNat retained ∧ flags >>> 3 &&& 3 = UInt8.ofNat qos) ∧
      (flags &&& 64 = 0 ↔ password = false) ∧ (flags &&& 128 = 0 ↔ username = false) := by
  decide +kernel

namespace ConnectData

variable (options : ConnectData)

theorem flags_spec :
    options.flags >>> 1 &&& 1 = options.cleansession &&& 1 ∧ (options.flags &&& 4 = 0 ↔ options.willFlag = 0) ∧
      options.flags >>> 2 &&& 1 = (if options.willFlag ≠ 0 then 1 else 0) ∧
      (options.willFlag ≠ 0 → options.flags >>> 5 &&& 1 = options.will.retained &&& 1 ∧
        options.flags >>> 3 &&& 3 = options.will.qos &&& 3) ∧
      (options.flags &&& 64 = 0 ↔ options.password.isSet = false) ∧
      (options.flags &&& 128 = 0 ↔ options.username.isSet = false) := by
  have bits := connectFlags_bits ⟨options.cleansession.toNat % 2, Nat.mod_lt _ (by decide)⟩ (decide (options.willFlag ≠ 0))
    ⟨options.will.qos.toNat % 4, Nat.mod_lt _ (by decide)⟩ ⟨options.will.retained.toNat % 2, Nat.mod_lt _ (by decide)⟩
    options.password.isSet options.username.isSet
  simpa only [flags, decide_eq_true_eq, decide_eq_false_iff_not, not_not, and_one_eq, and_three_eq] using bits

def willBytes : Bytes :=
  if options.willFlag ≠ 0 then writeMqttString options.will.topicName ++ writeMqttString options.will.message else []

def usernameBytes : Bytes := if options.username.isSet then writeMqttString options.username else []

def passwordBytes : Bytes := if options.password.isSet then writeMqttString options.password else []

theorem readWill_written
    (sound : options.willFlag ≠ 0 → options.will.topicName.Sound ∧ options.will.message.Sound) (data : ConnectData)
    (rest : Bytes) {left : Int} (fits : options.willBytes.length ≤ left) :
    readWill options.flags ⟨options.willBytes ++ rest, left⟩ data =
      .ok (some ({ data with
          willFlag := options.received.willFlag
          will := if options.willFlag ≠ 0 then options.received.will else data.will },
        ⟨rest, left - options.willBytes.length⟩)) := by
  obtain ⟨-, will, bit, rest, -, -⟩ := options.flags_spec
  by_cases absent : options.willFlag = 0
  · simp only [readWill, will, bit, absent, willBytes, received, ne_eq, not_true_eq_false, if_true, if_false,
      List.nil_append, List.length_nil]
    simp
    rfl
  · obtain ⟨topicName, message⟩ := sound absent
    obtain ⟨retained, qos⟩ := rest absent
    simp only [willBytes, absent, ne_eq, not_false_eq_true, if_true, List.length_append, length_writeMqttString] at fits ⊢
    simp only [readWill, will, bit, absent, if_false, if_true, ne_eq, not_false_eq_true, List.append_assoc, received]
    rw [readLenString_write topicName.short _ (by omega)]
    simp only [ok_bind]
    rw [readLenString_write message.short _ (by omega)]
    simp only [ok_bind, retained, qos]
    congr 4
    push_cast
    omega

theorem readCredentials_written (username : options.username.isSet → options.username.Sound)
    (password : options.password.isSet → options.password.Sound) (data : ConnectData) (fresh : data.username = {} ∧ data.password = {}) :
    readCredentials options.flags
        ⟨options.usernameBytes ++ options.passwordBytes, (options.usernameBytes ++ options.passwordBytes).length⟩ data =
      .ok (if options.Acceptable then
        some { data with username := options.received.username, password := options.received.password } else none) := by
  obtain ⟨-, -, -, -, passwordBit, usernameBit⟩ := options.flags_spec
  have same : { data with username := {}, password := {} } = data := by
    cases data
    simp_all
  cases named : options.username.isSet with
  | false =>
      cases secret : options.password.isSet with
      | false =>
          simp only [readCredentials, usernameBit, passwordBit, named, secret, Acceptable, received, ne_eq,
            not_true_eq_false, Bool.false_eq_true, if_false, false_imp_iff, if_true, same]
          rfl
      | true =>
          simp only [readCredentials, usernameBit, passwordBit, named, secret, Acceptable, ne_eq, not_true_eq_false,
            Bool.false_eq_true, Bool.true_eq_false, not_false_eq_true, if_false, if_true, false_and]
          rfl
  | true =>
      have username := username named
      have long : ∀ (text : Bytes), text ≠ [] → ¬((2 + text.length : Nat) : Int) < 3 := by
        intro text some
        have := List.length_pos_iff.2 some
        omega
      cases secret : options.password.isSet with
      | false =>
          simp only [usernameBytes, passwordBytes, named, secret, if_true, Bool.false_eq_true, if_false, List.append_nil,
            length_writeMqttString, Acceptable, received, true_imp_iff, readCredentials, usernameBit, passwordBit, ne_eq,
            Bool.true_eq_false, not_false_eq_true]
          by_cases empty : options.username.text = []
          · simp only [empty, List.length_nil, not_true_eq_false, if_false]
            rfl
          · have read := readLenString_write username.short []
              (show 2 + (options.username.text.length : Int) ≤ (2 + options.username.text.length : Nat) by omega)
            rw [List.append_nil] at read
            simp only [long _ empty, if_false, read, empty, not_false_eq_true, if_true, ok_bind]
            rw [← fresh.2]
            rfl
      | true =>
          have password := password secret
          have read := readLenString_write username.short (writeMqttString options.password)
            (show 2 + (options.username.text.length : Int) ≤
              (2 + options.username.text.length + (2 + options.password.text.length) : Nat) by omega)
          have left : ((2 + options.username.text.length + (2 + options.password.text.length) : Nat) : Int) -
              (2 + options.username.text.length) = (2 + options.password.text.length : Nat) := by omega
          have room : ¬((2 + options.username.text.length + (2 + options.password.text.length) : Nat) : Int) < 3 := by omega
          simp only [usernameBytes, passwordBytes, named, secret, if_true, List.length_append, length_writeMqttString,
            Acceptable, received, true_and, readCredentials, usernameBit, passwordBit, ne_eq, Bool.true_eq_false,
            not_false_eq_true, room, if_false, read, ok_bind, left]
          by_cases empty : options.password.text = []
          · simp only [empty, List.length_nil, not_true_eq_false, if_false]
            rfl
          · have read := readLenString_write password.short []
              (show 2 + (options.password.text.length : Int) ≤ (2 + options.password.text.length : Nat) by omega)
            rw [List.append_nil] at read
            simp only [long _ empty, if_false, read, empty, not_false_eq_true, if_true, ok_bind]
            rfl

theorem body_eq (version : options.mqttVersion = 3 ∨ options.mqttVersion = 4) :
    ∃ protocol : MqttString, protocol.Sound ∧ checkVersion protocol.text options.mqttVersion = true ∧
      2 + protocol.text.length + 4 = (if options.mqttVersion = 3 then 12 else 10) ∧
      options.body = writeMqttString protocol ++ options.mqttVersion :: options.flags ::
        (writeInt options.keepAliveInterval.toNat ++ (writeMqttString options.clientID ++
          (options.willBytes ++ (options.usernameBytes ++ options.passwordBytes)))) := by
  rcases version with version | version
  · refine ⟨{ cstring := some (bytes "MQIsdp") }, ⟨.inr rfl, by decide⟩, by rw [version]; decide, by rw [version]; decide, ?_⟩
    simp [body, version, willBytes, usernameBytes, passwordBytes, writeMqttString]
  · refine ⟨{ cstring := some (bytes "MQTT") }, ⟨.inr rfl, by decide⟩, by rw [version]; decide, by rw [version]; decide, ?_⟩
    simp [body, version, willBytes, usernameBytes, passwordBytes, writeMqttString]

theorem length_body (sound : options.Sound) : options.body.length = options.length := by
  obtain ⟨protocol, -, -, size, body⟩ := options.body_eq sound.version
  have fixed : 2 + protocol.text.length + 4 =
      if options.mqttVersion = 3 then 12 else if options.mqttVersion = 4 then 10 else 0 := by
    rcases sound.version with version | version <;> simpa [version] using size
  have will : options.willBytes.length = if options.willFlag ≠ 0 then
      options.will.topicName.strlen + 2 + options.will.message.strlen + 2 else 0 := by
    unfold willBytes
    split
    next present =>
      obtain ⟨topicName, message⟩ := sound.will present
      simp only [List.length_append, length_writeMqttString, topicName.strlen, message.strlen]
      omega
    next => rfl
  have username : options.usernameBytes.length = if options.username.isSet then options.username.strlen + 2 else 0 := by
    unfold usernameBytes
    split
    next present => rw [length_writeMqttString, (sound.username present).strlen, Nat.add_comm]
    next => rfl
  have password : options.passwordBytes.length = if options.password.isSet then options.password.strlen + 2 else 0 := by
    unfold passwordBytes
    split
    next present => rw [length_writeMqttString, (sound.password present).strlen, Nat.add_comm]
    next => rfl
  simp only [body, length, List.length_append, List.length_cons, length_writeMqttString, length_writeInt, ← fixed, ← will,
    ← username, ← password, sound.clientID.strlen]
  omega

end ConnectData

theorem deserializeConnect_serializeConnect {buflen : Nat} {options : ConnectData} {buf : Bytes} (sound : options.Sound)
    (bounded : options.length < 128 ^ 4) (run : serializeConnect buflen options = some buf) :
    deserializeConnect buf = .ok (if options.Acceptable then some options.received else none) := by
  obtain ⟨-, rfl⟩ := serialize_some run
  obtain ⟨protocol, named, checked, -, body⟩ := options.body_eq sound.version
  obtain ⟨clean, -⟩ := options.flags_spec
  simp only [deserializeConnect, openPacket_written bounded, ok_bind, packetType_headerByte, ne_eq, not_true_eq_false,
    if_false, body, List.length_append, List.length_cons, length_writeMqttString]
  rw [readLenString_write named.short _ (by omega)]
  simp only [ok_bind, Cursor.readChar, checked, Bool.not_true, Bool.false_eq_true, if_false,
    readInt_write options.keepAliveInterval.toNat_lt]
  rw [readLenString_write sound.clientID.short _ (by simp only [length_writeInt]; omega)]
  simp only [ok_bind, clean]
  rw [options.readWill_written sound.will _ _ (by simp only [length_writeInt]; omega)]
  simp only [ok_bind, UInt16.ofNat_toNat]
  have left : ∀ left : Int, left = (options.usernameBytes ++ options.passwordBytes).length →
      ∀ data : ConnectData, data.username = {} ∧ data.password = {} →
      readCredentials options.flags ⟨options.usernameBytes ++ options.passwordBytes, left⟩ data =
        .ok (if options.Acceptable then
          some { data with username := options.received.username, password := options.received.password } else none) := by
    rintro _ rfl data fresh
    exact options.readCredentials_written sound.username sound.password data fresh
  have will : (if options.willFlag ≠ 0 then options.received.will else {}) = options.received.will := by
    unfold ConnectData.received
    split <;> rfl
  rw [left _ (by simp only [length_writeInt, List.length_append]; push_cast; omega) _ ⟨rfl, rfl⟩, will]
  rfl

theorem ConnectData.length_bounded {options : ConnectData} (sound : options.Sound) : options.length < 128 ^ 4 := by
  have sized : ∀ {string : MqttString}, string.Sound → string.strlen < 65536 := by
    intro string sound
    rw [sound.strlen]
    exact sound.short
  have clientID := sized sound.clientID
  have will : (if options.willFlag ≠ 0 then options.will.topicName.strlen + 2 + options.will.message.strlen + 2 else 0) ≤
      131074 := by
    split
    next set =>
      have topicName := sized (sound.will set).1
      have message := sized (sound.will set).2
      omega
    next => omega
  have username : (if options.username.isSet then options.username.strlen + 2 else 0) ≤ 65537 := by
    split
    next set =>
      have username := sized (sound.username set)
      omega
    next => omega
  have password : (if options.password.isSet then options.password.strlen + 2 else 0) ≤ 65537 := by
    split
    next set =>
      have password := sized (sound.password set)
      omega
    next => omega
  have version : (if options.mqttVersion = 3 then 12 else if options.mqttVersion = 4 then 10 else 0) ≤ 12 := by
    repeat' split
    all_goals omega
  unfold length
  omega

theorem connect_read_back {buflen : Nat} {options : ConnectData} {buf : Bytes} (sound : options.Sound)
    (run : serializeConnect buflen options = some buf) :
    buf.length ≤ buflen ∧
      deserializeConnect buf = .ok (if options.Acceptable then some options.received else none) := by
  have bounded := options.length_bounded sound
  exact ⟨serialize_within run (options.length_body sound) bounded, deserializeConnect_serializeConnect sound bounded run⟩

theorem connect_read_back_username :
    (serializeConnect 100 { clientID := { cstring := some (bytes "c") }, username := { cstring := some (bytes "u") } }).isSome ∧
      ∀ buf, serializeConnect 100
          { clientID := { cstring := some (bytes "c") }, username := { cstring := some (bytes "u") } } = some buf →
        deserializeConnect buf = .ok (some { clientID := .read (bytes "c"), username := .read (bytes "u") }) := by
  refine ⟨by decide, fun buf run => ?_⟩
  have sound : ConnectData.Sound
      { clientID := { cstring := some (bytes "c") }, username := { cstring := some (bytes "u") } } :=
    ⟨.inr rfl, ⟨.inr rfl, by decide⟩, fun present => absurd rfl present, fun _ => ⟨.inr rfl, by decide⟩, nofun⟩
  exact (connect_read_back sound run).2

/-- What is written of a SUBSCRIBE, with any number of topics, stays in the buffer. It is read back if the arrays have an
element for each topic; otherwise the first topic too many is stored behind them. -/
theorem subscribe_read_back {buflen room : Nat} {dup : UInt8} {packetid : UInt16} {topics : List (MqttString × QoS)}
    {buf : Bytes} (sound : ∀ topic ∈ topics, topic.1.Sound) (bounded : serializeSubscribeLength topics < 128 ^ 4)
    (run : serializeSubscribe buflen dup packetid topics = some buf) :
    buf.length ≤ buflen ∧ deserializeSubscribe room buf =
      if topics.length ≤ room then
        .ok (1, dup &&& 1, packetid.toNat, topics.map fun topic => (topic.1.text, UInt8.ofNat topic.2.value))
      else .error .outOfRange := by
  refine ⟨serialize_within run ?_ bounded, deserializeSubscribe_serializeSubscribe room sound bounded run⟩
  rw [length_subscribe sound, List.length_append, length_writeInt]
  rfl

theorem subscribe_read_back_two :
    serializeSubscribe 100 0 7 [({ cstring := some (bytes "a") }, .qos1), ({ cstring := some (bytes "b") }, .qos2)] =
        some (0x82 :: 10 :: [0, 7, 0, 1, 97, 1, 0, 1, 98, 2]) ∧
      deserializeSubscribe 2 (0x82 :: 10 :: [0, 7, 0, 1, 97, 1, 0, 1, 98, 2]) =
        .ok (1, 0, 7, [(bytes "a", 1), (bytes "b", 2)]) ∧
      deserializeSubscribe 1 (0x82 :: 10 :: [0, 7, 0, 1, 97, 1, 0, 1, 98, 2]) = .error .outOfRange := by
  have run : serializeSubscribe 100 0 7 [({ cstring := some (bytes "a") }, .qos1), ({ cstring := some (bytes "b") }, .qos2)] =
      some (0x82 :: 10 :: [0, 7, 0, 1, 97, 1, 0, 1, 98, 2]) := by decide
  have sound : ∀ topic ∈ [(({ cstring := some (bytes "a") } : MqttString), QoS.qos1), ({ cstring := some (bytes "b") }, .qos2)],
      topic.1.Sound := by
    simp only [List.mem_cons, List.not_mem_nil, or_false, forall_eq_or_imp, forall_eq]
    exact ⟨⟨.inr rfl, by decide⟩, ⟨.inr rfl, by decide⟩⟩
  exact ⟨run, (subscribe_read_back sound (by decide) run).2, (subscribe_read_back sound (by decide) run).2⟩

/-! ## The packets of the client -/

namespace Packet

theorem serialize_isSome_iff {buflen remLen : Nat} {header : UInt8} {body : Bytes} :
    (IotClient.serialize buflen header remLen body).isSome = decide (packetLen remLen ≤ buflen) := by
  unfold IotClient.serialize
  split
  next long => simp [Nat.not_le.2 long]
  next fits => simp [Nat.le_of_not_lt fits]

theorem serialize_isSome (packet : Packet) : (packet.serialize maxPacketSize).isSome = packet.fits := by
  cases packet with
  | connect clientId cleansession keepAliveInterval => exact serialize_isSome_iff
  | publish message => exact serialize_isSome_iff
  | ack type id => rfl
  | subscribe id topic qos => exact serialize_isSome_iff
  | unsubscribe id topic => exact serialize_isSome_iff
  | pingreq => rfl
  | disconnect => rfl

def connectData (clientId : Bytes) (cleansession : Bool) (keepAliveInterval : Nat) : ConnectData :=
  { clientID := { lenstring := some clientId }
    cleansession := if cleansession then 1 else 0
    keepAliveInterval := UInt16.ofNat keepAliveInterval }

theorem text_lenstring (text : Bytes) : ({ lenstring := some text } : MqttString).text = text := by
  cases text <;> rfl

theorem sound_lenstring {text : Bytes} (short : text.length < 65536) : ({ lenstring := some text } : MqttString).Sound :=
  ⟨.inl rfl, by rwa [text_lenstring]⟩

theorem sound_cstring (text : Bytes) (short : text.length < 65536) : ({ cstring := some text } : MqttString).Sound :=
  ⟨.inr rfl, short⟩

theorem connectData_sound (clientId : Bytes) (short : clientId.length < 65536) (cleansession : Bool) (keepAliveInterval : Nat) :
    (connectData clientId cleansession keepAliveInterval).Sound where
  version := .inr rfl
  clientID := sound_lenstring short
  will present := absurd rfl present
  username present := nomatch present
  password present := nomatch present

theorem remLen_lt {packet : Packet} (fits : packet.fits = true) : packet.remLen < 1023 := by
  have long := packetLen_pos packet.remLen
  have small : packetLen packet.remLen ≤ 1024 := of_decide_eq_true fits
  omega

variable {packet : Packet} {buf : Bytes}

/-- What is written of a packet: a header, the remaining length and so many bytes. -/
theorem serialize_shape (run : packet.serialize maxPacketSize = some buf) :
    ∃ header body, buf = header :: encodeLength body.length ++ body ∧ packetLen body.length ≤ maxPacketSize := by
  have fits : packet.fits = true := by rw [← serialize_isSome, run, Option.isSome_some]
  have short := remLen_lt fits
  have shape : ∀ {header : UInt8} {remLen : Nat} {body : Bytes},
      IotClient.serialize maxPacketSize header remLen body = some buf → body.length = remLen →
      ∃ header body, buf = header :: encodeLength body.length ++ body ∧ packetLen body.length ≤ maxPacketSize := by
    intro header remLen body run whole
    obtain ⟨fits, rfl⟩ := serialize_some run
    exact ⟨header, body, by rw [whole], by rwa [whole]⟩
  cases packet with
  | connect clientId cleansession keepAliveInterval =>
      simp only [remLen] at short
      exact shape run (ConnectData.length_body _ (connectData_sound _ (by omega) cleansession keepAliveInterval))
  | publish message =>
      simp only [remLen] at short
      exact shape run (length_publish (sound_cstring _ (by omega)))
  | ack type id =>
      cases run
      exact ⟨_, writeInt _, rfl, by rw [length_writeInt]; decide⟩
  | subscribe id topic qos =>
      simp only [remLen] at short
      refine shape run ?_
      rw [length_subscribe (by simpa using sound_cstring topic (by omega)), List.length_append, length_writeInt]
      rfl
  | unsubscribe id topic =>
      simp only [remLen] at short
      refine shape run ?_
      rw [length_unsubscribe (by simpa using sound_cstring topic (by omega)), List.length_append, length_writeInt]
  | pingreq =>
      cases run
      exact ⟨_, [], rfl, by decide⟩
  | disconnect =>
      cases run
      exact ⟨_, [], rfl, by decide⟩

theorem toNat_ofNat16 {id : Nat} (small : id < 65536) : (UInt16.ofNat id).toNat = id :=
  UInt16.toNat_ofNat_of_lt small

theorem ofByte_value (qos : QoS) : QoS.ofByte (UInt8.ofNat qos.value) = some qos := by
  cases qos <;> rfl

theorem deserialize_serialize (proper : packet.Proper) (run : packet.serialize maxPacketSize = some buf) :
    Packet.deserialize buf = .ok (some packet) := by
  have fits : packet.fits = true := by rw [← serialize_isSome, run, Option.isSome_some]
  have short := remLen_lt fits
  have bounded : ∀ {n : Nat}, n < 1023 → n < 128 ^ 4 := by
    intro n small
    omega
  cases packet with
  | connect clientId cleansession keepAliveInterval =>
      simp only [remLen] at short
      have options := connectData_sound clientId (by omega) cleansession keepAliveInterval
      have small : (connectData clientId cleansession keepAliveInterval).length < 128 ^ 4 := by
        simp only [connectData, ConnectData.length, MqttString.strlen, MqttString.isSet]
        simp
        omega
      have run : serializeConnect maxPacketSize (connectData clientId cleansession keepAliveInterval) = some buf := run
      have read := deserializeConnect_serializeConnect options small run
      obtain ⟨-, rfl⟩ := serialize_some run
      have acceptable : (connectData clientId cleansession keepAliveInterval).Acceptable := nofun
      have clean : ((if cleansession then 1 else 0 : UInt8) &&& 1 == 1) = cleansession := by cases cleansession <;> rfl
      rw [if_pos acceptable] at read
      simp only [Packet.deserialize, openPacket_written small, ok_bind, packetType_headerByte]
      rw [read]
      simp only [ok_bind, ConnectData.received, connectData, MqttString.read, text_lenstring, clean, toNat_ofNat16 proper]
      rfl
  | publish message =>
      simp only [remLen] at short
      have small : serializePublishLength message.qos { cstring := some message.topicName } message.payload < 128 ^ 4 :=
        bounded short
      have read := deserializePublish_serializePublish (sound_cstring _ (by omega)) small run
      obtain ⟨-, rfl⟩ := serialize_some run
      have id : (if message.qos = .qos0 then 0 else (UInt16.ofNat message.id).toNat) = message.id := by
        split
        next unacknowledged => exact (proper.2 unacknowledged).symm
        next => exact toNat_ofNat16 proper.1
      simp only [Packet.deserialize, openPacket_written small, ok_bind, packetType_headerByte, read, id]
      rfl
  | ack type id =>
      cases run
      have read : deserializeAck (headerByte type 0 (if type = .pubrel then .qos1 else .qos0) 0 :: encodeLength 2 ++
          writeInt (UInt16.ofNat id).toNat) = .ok (1, some id) := by
        have written := readInt_writeInt (n := id) proper.1 []
        rw [List.append_nil] at written
        simp only [deserializeAck, List.cons_append, decodeLength_encode (show 2 < 128 ^ 4 by decide), List.drop_left',
          toNat_ofNat16 proper.1, written, ok_bind]
        rfl
      simp only [Packet.deserialize, openPacket_written (show 2 < 128 ^ 4 by decide), ok_bind, packetType_headerByte, read]
      rcases proper.2 with rfl | rfl | rfl | rfl <;> rfl
  | subscribe id topic qos =>
      simp only [remLen] at short
      have small : serializeSubscribeLength [({ cstring := some topic }, qos)] < 128 ^ 4 := bounded short
      have read := deserializeSubscribe_serializeSubscribe 1
        (by simpa using sound_cstring topic (by omega)) small run
      obtain ⟨-, rfl⟩ := serialize_some run
      simp only [Packet.deserialize, openPacket_written small, ok_bind, packetType_headerByte]
      rw [read, if_pos (by exact Nat.le_refl 1)]
      simp only [ok_bind, List.map_cons, List.map_nil, ofByte_value, toNat_ofNat16 proper]
      rfl
  | unsubscribe id topic =>
      simp only [remLen] at short
      have small : serializeUnsubscribeLength [{ cstring := some topic }] < 128 ^ 4 := bounded short
      have read := deserializeUnsubscribe_serializeUnsubscribe 1
        (by simpa using sound_cstring topic (by omega)) small run
      obtain ⟨-, rfl⟩ := serialize_some run
      simp only [Packet.deserialize, openPacket_written small, ok_bind, packetType_headerByte]
      rw [read, if_pos (by exact Nat.le_refl 1)]
      simp only [ok_bind, List.map_cons, List.map_nil, toNat_ofNat16 proper]
      rfl
  | pingreq =>
      cases run
      rfl
  | disconnect =>
      cases run
      rfl

theorem packetRead_written (run : packet.serialize maxPacketSize = some buf) (rest : Bytes) :
    packetRead maxPacketSize (buf ++ rest) = some (buf, rest) := by
  obtain ⟨header, body, rfl, fits⟩ := serialize_shape run
  have long := packetLen_pos body.length
  have bounded : body.length < 128 ^ 4 := by
    simp only [maxPacketSize] at fits
    omega
  have digits : (encodeLength body.length).length ≤ 4 := length_encodeDigits 4 5 bounded (by decide)
  have room : ¬body.length + (1 + (encodeLength body.length).length) > maxPacketSize := by
    have enough := length_le_packetLen bounded
    omega
  simp only [packetRead, List.cons_append, List.append_assoc, decodeLength_encode bounded, Nat.min_eq_left digits,
    List.drop_left', room, if_false, List.take_left', List.length_append]
  rw [if_neg (by omega)]

end Packet

theorem readStream_wire {packets : List Packet} (sent : ∀ packet ∈ packets, packet.Proper ∧ packet.fits = true) {turns : Nat}
    (enough : (wire packets).length ≤ turns) :
    readStream turns (wire packets) = packets.map fun packet => .ok (some packet) := by
  induction packets generalizing turns with
  | nil => cases turns <;> rfl
  | cons packet packets continued =>
      obtain ⟨proper, fits⟩ := sent packet (by simp)
      obtain ⟨buf, run⟩ := Option.isSome_iff_exists.1 ((Packet.serialize_isSome packet).trans fits)
      have first : wire (packet :: packets) = buf ++ wire packets := by simp [wire, run]
      have positive : 0 < buf.length := by
        obtain ⟨header, body, rfl, -⟩ := Packet.serialize_shape run
        simp
      simp only [first, List.length_append] at enough
      obtain ⟨turns, rfl⟩ : ∃ fewer, turns = fewer + 1 := ⟨turns - 1, by omega⟩
      simp only [readStream, first, Packet.packetRead_written run, Packet.deserialize_serialize proper run, List.map_cons]
      rw [continued (fun packet member => sent packet (by simp [member])) (by omega)]

end IotClient
