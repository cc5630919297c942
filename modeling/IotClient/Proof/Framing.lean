import IotClient.Proof.Delivery
import IotClient.Spec.Framing

namespace IotClient
open Logic

/-! ## What a read takes from the connection -/

structure Takes (before : List Delivery) (data : Bytes) (pauses : List Nat) (after : List Delivery) : Prop where
  bytes : delivered before = data ++ delivered after
  silence : ∀ offset, offset ∈ silences before ↔
    offset ∈ pauses ∨ ∃ later ∈ silences after, offset = data.length + later
  shorter : after.length ≤ before.length

theorem Takes.refl (deliveries : List Delivery) : Takes deliveries [] [] deliveries :=
  ⟨rfl, by simp, Nat.le_refl _⟩

theorem Takes.trans {first second third : List Delivery} {data more : Bytes} {pauses later : List Nat}
    (taken : Takes first data pauses second) (next : Takes second more later third) :
    Takes first (data ++ more) (pauses ++ later.map (data.length + ·)) third := by
  refine ⟨by rw [taken.bytes, next.bytes, List.append_assoc], fun offset => ?_,
    Nat.le_trans next.shorter taken.shorter⟩
  rw [taken.silence]
  simp only [next.silence, List.mem_append, List.mem_map, List.length_append]
  constructor
  · rintro (paused | ⟨rest, paused | ⟨last, silent, rfl⟩, rfl⟩)
    · exact .inl (.inl paused)
    · exact .inl (.inr ⟨rest, paused, rfl⟩)
    · exact .inr ⟨last, silent, by omega⟩
  · rintro ((paused | ⟨rest, paused, rfl⟩) | ⟨last, silent, rfl⟩)
    · exact .inl paused
    · exact .inr ⟨rest, .inl paused, rfl⟩
    · exact .inr ⟨more.length + last, .inr ⟨last, silent, rfl⟩, by omega⟩

theorem Takes.segment {before after : List Delivery} (data : Bytes) {more : Bytes} {pauses : List Nat}
    (taken : Takes before more pauses after) :
    Takes (.segment data :: before) (data ++ more) (pauses.map (data.length + ·)) after := by
  have first : Takes (.segment data :: before) data [] before :=
    ⟨rfl, by simp [silences, eq_comm], by simp⟩
  simpa using first.trans taken

theorem readAll_takes (deliveries : List Delivery) (len : Nat) (received : Bytes) :
    (∃ data after, readAll deliveries len received = (some (received ++ data), after) ∧ data.length = len ∧
      Takes deliveries data [] after) ∨
    ∃ data after, readAll deliveries len received = (none, after) ∧ data.length < len ∧
      Takes deliveries data [data.length] after ∧ (after.length < deliveries.length ∨ after = []) := by
  fun_induction readAll deliveries len received with
  | case1 deliveries received => exact .inl ⟨[], deliveries, by simp, rfl, Takes.refl _⟩
  | case2 => exact .inr ⟨[], [], rfl, by simp, ⟨rfl, by simp [silences], Nat.le_refl _⟩, .inr rfl⟩
  | case3 rest => exact .inr ⟨[], rest, rfl, by simp, ⟨rfl, by simp [silences], by simp⟩, .inl (by simp)⟩
  | case4 data rest len received whole inductive_hypothesis =>
      rcases inductive_hypothesis with ⟨more, after, equal, length, taken⟩ |
        ⟨more, after, equal, length, taken, progress⟩
      · refine .inl ⟨data ++ more, after, by rw [equal, List.append_assoc], ?_, taken.segment data⟩
        rw [List.length_append]
        omega
      · refine .inr ⟨data ++ more, after, equal, ?_, ?_, ?_⟩
        · rw [List.length_append]
          omega
        · simpa using taken.segment data
        · exact progress.imp_left fun shorter => Nat.lt_succ_of_lt shorter
  | case5 data rest len received partly =>
      refine .inl ⟨data.take (len + 1), _, rfl, by simp; omega, ⟨?_, fun offset => ?_, by simp⟩⟩
      · simp [delivered, ← List.append_assoc]
      · simp only [silences, List.mem_map, List.not_mem_nil, false_or, List.length_take, List.length_drop]
        constructor
        · rintro ⟨later, silent, rfl⟩
          exact ⟨_, ⟨later, silent, rfl⟩, by omega⟩
        · rintro ⟨_, ⟨later, silent, rfl⟩, rfl⟩
          exact ⟨later, silent, by omega⟩

theorem readAll_one {deliveries : List Delivery} {c : UInt8} {tail : Bytes}
    (next : delivered deliveries <+: c :: tail) :
    (∃ after, readAll deliveries 1 [] = (some [c], after) ∧ Takes deliveries [c] [] after ∧
      delivered after <+: tail) ∨
    ∃ after, readAll deliveries 1 [] = (none, after) ∧ Takes deliveries [] [0] after ∧
      (after.length < deliveries.length ∨ after = []) := by
  rcases readAll_takes deliveries 1 [] with ⟨data, after, equal, length, taken⟩ |
    ⟨data, after, equal, length, taken, progress⟩
  · obtain ⟨d, rfl⟩ := List.length_eq_one_iff.mp length
    rw [taken.bytes, List.singleton_append, List.cons_prefix_cons] at next
    obtain ⟨rfl, rest⟩ := next
    exact .inl ⟨after, equal, taken, rest⟩
  · obtain rfl := List.length_eq_zero_iff.mp (Nat.lt_one_iff.mp length)
    exact .inr ⟨after, equal, taken, progress⟩

theorem decodePacket_takes {digits tail : Bytes} {total : Nat} (isTotal : digitsValue digits = some total)
    {left : Nat} (enough : digits.length ≤ left) (multiplier value : Nat) {deliveries : List Delivery}
    (next : delivered deliveries <+: digits ++ tail) :
    ∃ result data pauses after, decodePacket left multiplier value deliveries = (result, after) ∧
      Takes deliveries data pauses after ∧
      ((result = value + total * multiplier ∧ data = digits ∧ pauses = [] ∧ delivered after <+: tail) ∨
        (result ≤ value + total * multiplier ∧ data.length < digits.length ∧ data.length ∈ pauses)) := by
  induction digits generalizing left multiplier value total deliveries with
  | nil => simp [digitsValue] at isTotal
  | cons c digits inductive_hypothesis =>
      cases left with
      | zero => simp at enough
      | succ left =>
          rw [decodePacket]
          rcases readAll_one next with ⟨after, equal, taken, rest⟩ | ⟨after, equal, taken, _⟩
          · simp only [equal]
            by_cases last : c &&& 128 = 0
            · obtain ⟨rfl, rfl⟩ : digits = [] ∧ (c &&& 127).toNat = total := by
                simpa [digitsValue, last] using isTotal
              simp only [last, ne_eq, not_true_eq_false, if_false]
              exact ⟨_, [c], [], after, rfl, taken, .inl ⟨rfl, rfl, rfl, by simpa using rest⟩⟩
            · obtain ⟨higher, isHigher, rfl⟩ : ∃ higher, digitsValue digits = some higher ∧
                  (c &&& 127).toNat + 128 * higher = total := by
                simpa [digitsValue, last] using isTotal
              simp only [last, ne_eq, not_false_eq_true, if_true]
              obtain ⟨result, data, pauses, final, decoded, takenDigits, outcome⟩ :=
                inductive_hypothesis isHigher (Nat.le_of_succ_le_succ enough) (multiplier * 128)
                  (value + (c &&& 127).toNat * multiplier) rest
              have sum : value + (c &&& 127).toNat * multiplier + higher * (multiplier * 128) =
                  value + ((c &&& 127).toNat + 128 * higher) * multiplier := by
                rw [Nat.add_mul, Nat.mul_comm multiplier 128, ← Nat.mul_assoc, Nat.mul_comm higher 128,
                  Nat.add_assoc]
              rw [sum] at outcome
              refine ⟨result, c :: data, pauses.map (1 + ·), final, decoded, taken.trans takenDigits, ?_⟩
              rcases outcome with ⟨exact, rfl, rfl, final⟩ | ⟨below, torn, paused⟩
              · exact .inl ⟨exact, rfl, rfl, final⟩
              · refine .inr ⟨below, Nat.succ_lt_succ torn, ?_⟩
                exact List.mem_map.mpr ⟨data.length, paused, Nat.add_comm 1 _⟩
          · exact ⟨value, [], [0], after, by simp only [equal], taken, .inr ⟨by omega, by simp, by simp⟩⟩

/-! ## What `readPacket` does to the stream -/

inductive Outcome (packets : List SentPacket) : ReadResult → Bytes → List Nat → Prop where
  | idle : Outcome packets .failure [] [0]
  | whole {packet : SentPacket} {rest : List SentPacket} : packets = packet :: rest →
      Outcome packets (.packet packet.header packet.body) packet.bytes []
  | torn {packet : SentPacket} {rest : List SentPacket} {result : ReadResult} {data : Bytes}
      {pauses : List Nat} {offset : Nat} : packets = packet :: rest → 0 < data.length →
      data.length < packet.bytes.length → offset ∈ pauses → 0 < offset → offset < packet.bytes.length →
      Outcome packets result data pauses

theorem encodeLength_le_digits {digits : Bytes} {value : Nat} (isValue : digitsValue digits = some value)
    (small : value < 16384) : (encodeLength value).length ≤ digits.length := by
  match digits with
  | [] => simp [digitsValue] at isValue
  | [c] =>
      have bounded : (c &&& 127).toNat < 128 := by
        have all : ∀ n : Fin 256, (UInt8.ofFin n &&& 127).toNat < 128 := by decide +kernel
        exact all c.toFin
      by_cases last : c &&& 128 = 0
      · obtain rfl : (c &&& 127).toNat = value := by simpa [digitsValue, last] using isValue
        rw [encodeLength_short bounded]
        simp
      · simp [digitsValue, last] at isValue
  | c :: d :: digits =>
      by_cases short : value < 128
      · simp [encodeLength_short short]
      · simp [encodeLength_long (Nat.le_of_not_lt short) small]

theorem SentPacket.length_bytes (packet : SentPacket) :
    packet.bytes.length = 1 + packet.digits.length + packet.body.length := by
  simp [SentPacket.bytes]
  omega

theorem stream_cons (packet : SentPacket) (packets : List SentPacket) :
    stream (packet :: packets) = packet.header :: (packet.digits ++ (packet.body ++ stream packets)) := by
  simp [stream, SentPacket.bytes]

theorem SentPacket.body_fits (packet : SentPacket) :
    ¬ packet.body.length > maxPacketSize - (1 + (encodeLength packet.body.length).length) := by
  have fits := packet.fits
  have small : packet.body.length < 16384 := by
    simp only [maxPacketSize] at fits
    omega
  have shortest := encodeLength_le_digits packet.digits_value small
  omega

theorem readBody_bound (header : UInt8) (remLen : Nat) (deliveries : List Delivery) :
    ∃ result data pauses after, readBody header remLen deliveries = (result, after) ∧
      Takes deliveries data pauses after ∧ data.length ≤ remLen := by
  unfold readBody
  split
  · exact ⟨_, [], [], deliveries, rfl, Takes.refl _, by simp⟩
  · split
    · rcases readAll_takes deliveries remLen [] with ⟨data, after, equal, length, taken⟩ |
        ⟨data, after, equal, length, taken, _⟩
      · exact ⟨_, data, [], after, by rw [equal], taken, by omega⟩
      · exact ⟨_, data, [data.length], after, by rw [equal], taken, by omega⟩
    · exact ⟨_, [], [], deliveries, rfl, Takes.refl _, by simp⟩

theorem readBody_whole {packet : SentPacket} {tail : Bytes} {deliveries : List Delivery}
    (next : delivered deliveries <+: packet.body ++ tail) :
    ∃ result data pauses after, readBody packet.header packet.body.length deliveries = (result, after) ∧
      Takes deliveries data pauses after ∧
      ((result = .packet packet.header packet.body ∧ data = packet.body ∧ pauses = []) ∨
        (data.length < packet.body.length ∧ data.length ∈ pauses)) := by
  rw [readBody, if_neg packet.body_fits]
  split
  · rcases readAll_takes deliveries packet.body.length [] with ⟨data, after, equal, length, taken⟩ |
      ⟨data, after, equal, length, taken, _⟩
    · have isPrefix : data <+: packet.body ++ tail :=
        (List.prefix_append data _).trans (taken.bytes ▸ next)
      obtain rfl : data = packet.body := by
        refine (List.prefix_of_prefix_length_le isPrefix (List.prefix_append _ tail) ?_).eq_of_length length
        exact Nat.le_of_eq length
      exact ⟨_, packet.body, [], after, by rw [equal]; rfl, taken, .inl ⟨rfl, rfl, rfl⟩⟩
    · exact ⟨_, data, [data.length], after, by rw [equal], taken, .inr ⟨length, by simp⟩⟩
  · have empty : packet.body = [] := List.length_eq_zero_iff.mp (by omega)
    exact ⟨_, [], [], deliveries, rfl, Takes.refl _, .inl ⟨by rw [empty], empty.symm, rfl⟩⟩

theorem readPacket_takes {packets : List SentPacket} {deliveries : List Delivery}
    (next : delivered deliveries <+: stream packets) :
    ∃ result data pauses after, readPacket deliveries = (result, after) ∧
      Takes deliveries data pauses after ∧ Outcome packets result data pauses ∧
      (after.length < deliveries.length ∨ after = [] ∨ data ≠ []) := by
  unfold readPacket
  cases packets with
  | nil =>
      have silent : delivered deliveries = [] := List.prefix_nil.mp next
      have any : delivered deliveries <+: [0] := silent ▸ List.nil_prefix
      rcases readAll_one any with ⟨after, _, taken, _⟩ | ⟨after, equal, taken, progress⟩
      · rw [taken.bytes] at silent
        contradiction
      · exact ⟨.failure, [], [0], after, by rw [equal], taken, .idle, progress.imp_right .inl⟩
  | cons packet packets =>
      rw [stream_cons] at next
      have length := packet.length_bytes
      rcases readAll_one next with ⟨afterHeader, equal, taken, rest⟩ | ⟨after, equal, taken, progress⟩
      · obtain ⟨remLen, digits, digitPauses, afterDigits, decoded, takenDigits, outcome⟩ :=
          decodePacket_takes packet.digits_value packet.digits_length 1 0 rest
        rw [equal]
        simp only [decoded]
        have takenHead := taken.trans takenDigits
        rcases outcome with ⟨isLength, rfl, rfl, body⟩ | ⟨below, torn, paused⟩
        · obtain rfl : remLen = packet.body.length := by omega
          obtain ⟨result, data, pauses, after, read, takenBody, outcome⟩ := readBody_whole body
          refine ⟨result, _, _, after, read, takenHead.trans takenBody, ?_, .inr (.inr (by simp))⟩
          rcases outcome with ⟨rfl, rfl, rfl⟩ | ⟨torn, paused⟩
          · exact .whole rfl
          · refine .torn rfl (by simp) (by simp; omega) (List.mem_append_right _
              (List.mem_map.mpr ⟨data.length, paused, rfl⟩)) (by simp only [List.length_append, List.length_cons]; omega)
              (by simp; omega)
        · obtain ⟨result, data, pauses, after, read, takenBody, bound⟩ :=
            readBody_bound packet.header remLen afterDigits
          refine ⟨result, _, _, after, read, takenHead.trans takenBody, ?_, .inr (.inr (by simp))⟩
          refine .torn rfl (by simp) (by simp; omega) (List.mem_append_left _ (List.mem_append_right _
            (List.mem_map.mpr ⟨digits.length, paused, rfl⟩))) (by simp only [List.length_cons]; omega)
            (by simp; omega)
      · rw [equal]
        exact ⟨.failure, [], [0], after, rfl, taken, .idle, progress.imp_right .inl⟩

/-! ## Calls in a row -/

theorem atBoundary_zero (packets : List SentPacket) : AtBoundary packets 0 := ⟨0, rfl⟩

theorem atBoundary_cons {packet : SentPacket} {packets : List SentPacket} {offset : Nat} :
    AtBoundary (packet :: packets) offset ↔
      offset = 0 ∨ ∃ later, AtBoundary packets later ∧ offset = packet.bytes.length + later := by
  constructor
  · rintro ⟨count, rfl⟩
    cases count with
    | zero => exact .inl rfl
    | succ count => exact .inr ⟨_, ⟨count, rfl⟩, by simp [stream]⟩
  · rintro (rfl | ⟨_, ⟨count, rfl⟩, rfl⟩)
    · exact atBoundary_zero _
    · exact ⟨count + 1, by simp [stream]⟩

theorem SentPacket.bytes_pos (packet : SentPacket) : 0 < packet.bytes.length := by
  rw [packet.length_bytes]
  omega

theorem readPackets_idle {deliveries after : List Delivery} (read : readPacket deliveries = (.failure, after))
    (calls : Nat) : readPackets (calls + 1) deliveries = readPackets calls after := by
  simp only [readPackets, read]

theorem readPackets_packet {deliveries after : List Delivery} {header : UInt8} {body : Bytes}
    (read : readPacket deliveries = (.packet header body, after)) (calls : Nat) :
    readPackets (calls + 1) deliveries =
      ((header, body) :: (readPackets calls after).1, (readPackets calls after).2) := by
  simp only [readPackets, read]

theorem readPackets_one {deliveries after : List Delivery} {result : ReadResult}
    (read : readPacket deliveries = (result, after)) : (readPackets 1 deliveries).2 = after := by
  cases result <;> simp only [readPackets, read]

theorem inStep_of_boundaries (calls : Nat) {packets : List SentPacket} {deliveries : List Delivery}
    (next : delivered deliveries <+: stream packets)
    (boundaries : ∀ offset ∈ silences deliveries, AtBoundary packets offset) :
    InStep packets deliveries calls := by
  induction calls generalizing packets deliveries with
  | zero => exact ⟨0, rfl, rfl⟩
  | succ calls inductive_hypothesis =>
      obtain ⟨result, data, pauses, after, read, taken, outcome, _⟩ := readPacket_takes next
      cases outcome with
      | idle =>
          have bytes : delivered deliveries = delivered after := taken.bytes
          obtain ⟨count, packetsRead, bytesRead⟩ := inductive_hypothesis (bytes ▸ next)
            fun offset silent => boundaries offset ((taken.silence offset).mpr (.inr ⟨offset, silent, by simp⟩))
          exact ⟨count, by rw [readPackets_idle read, packetsRead], by rw [readPackets_idle read, bytes, bytesRead]⟩
      | @whole packet rest equal =>
          subst equal
          have nextRest : delivered after <+: stream rest := by
            rw [taken.bytes, stream, List.flatMap_cons] at next
            exact (List.prefix_append_right_inj _).mp next
          obtain ⟨count, packetsRead, bytesRead⟩ := inductive_hypothesis nextRest fun offset silent => by
            have boundary := boundaries _ ((taken.silence _).mpr (.inr ⟨offset, silent, rfl⟩))
            have positive := packet.bytes_pos
            rcases atBoundary_cons.mp boundary with zero | ⟨later, isLater, same⟩
            · omega
            · obtain rfl : offset = later := by omega
              exact isLater
          refine ⟨count + 1, by simp [readPackets_packet read, packetsRead, SentPacket.content], ?_⟩
          rw [readPackets_packet read, taken.bytes, bytesRead]
          simp [stream]
      | torn equal _ _ paused positive inside =>
          subst equal
          have boundary := boundaries _ ((taken.silence _).mpr (.inl paused))
          rcases atBoundary_cons.mp boundary with zero | ⟨later, _, same⟩ <;> omega

theorem boundaries_of_inStep {packets : List SentPacket} {deliveries : List Delivery}
    (next : delivered deliveries <+: stream packets) (inStep : ∀ calls, InStep packets deliveries calls) :
    ∀ offset ∈ silences deliveries, AtBoundary packets offset := by
  induction size : deliveries.length + (delivered deliveries).length using Nat.strongRecOn
    generalizing packets deliveries with
  | ind size inductive_hypothesis =>
      subst size
      intro offset silent
      obtain ⟨result, data, pauses, after, read, taken, outcome, progress⟩ := readPacket_takes next
      have shorter := taken.shorter
      cases outcome with
      | idle =>
          have bytes : delivered deliveries = delivered after := taken.bytes
          have later : ∀ offset ∈ silences after, AtBoundary packets offset := by
            rcases progress with strictly | rfl | nonempty
            · refine inductive_hypothesis _ (by rw [bytes]; omega) (bytes ▸ next) (fun calls => ?_) rfl
              obtain ⟨count, packetsRead, bytesRead⟩ := inStep (calls + 1)
              rw [readPackets_idle read] at packetsRead bytesRead
              exact ⟨count, packetsRead, bytes ▸ bytesRead⟩
            · simpa [silences] using atBoundary_zero packets
            · contradiction
          rcases (taken.silence offset).mp silent with paused | ⟨offset, silentLater, rfl⟩
          · obtain rfl := List.mem_singleton.mp paused
            exact atBoundary_zero _
          · simpa using later offset silentLater
      | @whole packet rest equal =>
          subst equal
          have positive := packet.bytes_pos
          have nextRest : delivered after <+: stream rest := by
            rw [taken.bytes, stream, List.flatMap_cons] at next
            exact (List.prefix_append_right_inj _).mp next
          rcases (taken.silence offset).mp silent with paused | ⟨offset, silentLater, rfl⟩
          · contradiction
          · refine atBoundary_cons.mpr (.inr ⟨offset, ?_, rfl⟩)
            refine inductive_hypothesis _ ?_ nextRest (fun calls => ?_) rfl offset silentLater
            · rw [taken.bytes, List.length_append]
              omega
            · obtain ⟨count, packetsRead, bytesRead⟩ := inStep (calls + 1)
              rw [readPackets_packet read] at packetsRead bytesRead
              cases count with
              | zero => simp at packetsRead
              | succ count =>
                  refine ⟨count, by simpa [SentPacket.content] using packetsRead, ?_⟩
                  simpa [taken.bytes, stream] using bytesRead
      | torn equal positive inside _ _ _ =>
          subst equal
          obtain ⟨count, _, bytesRead⟩ := inStep 1
          rw [readPackets_one read, taken.bytes, List.append_cancel_right_eq] at bytesRead
          rcases atBoundary_cons.mp ⟨count, congrArg List.length bytesRead⟩ with zero | ⟨_, _, same⟩ <;> omega

/-- The client keeps in step with the broker exactly when no read times out inside a packet. -/
theorem inStep_iff {packets : List SentPacket} {deliveries : List Delivery}
    (next : delivered deliveries <+: stream packets) :
    (∀ calls, InStep packets deliveries calls) ↔
      ∀ offset ∈ silences deliveries, AtBoundary packets offset :=
  ⟨boundaries_of_inStep next, fun boundaries calls => inStep_of_boundaries calls next boundaries⟩

def samplePuback : SentPacket := ⟨0x40, [2], [0, 7], by decide, by decide, by decide⟩

theorem inStep_split :
    delivered [.segment [0x40], .segment [2, 0], .segment [7], .timeout, .segment [0x40, 2, 0, 7]] <+:
        stream [samplePuback, samplePuback] ∧
      ∀ calls, InStep [samplePuback, samplePuback]
        [.segment [0x40], .segment [2, 0], .segment [7], .timeout, .segment [0x40, 2, 0, 7]] calls := by
  have next : delivered [.segment [0x40], .segment [2, 0], .segment [7], .timeout, .segment [0x40, 2, 0, 7]] <+:
      stream [samplePuback, samplePuback] := ⟨[], rfl⟩
  refine ⟨next, (inStep_iff next).mpr ?_⟩
  intro offset silent
  rcases (show offset = 4 ∨ offset = 8 by simpa [silences] using silent) with rfl | rfl
  · exact ⟨1, rfl⟩
  · exact ⟨2, rfl⟩

/-- A timeout after the first byte: the packet is handed on without its body, and its second byte is
taken for a header. -/
theorem not_inStep_torn :
    (readPackets 2 [.segment [0x40], .timeout, .segment [2, 0, 7]]).1 = [(0x40, []), (2, [])] ∧
      ¬ ∀ calls, InStep [samplePuback] [.segment [0x40], .timeout, .segment [2, 0, 7]] calls := by
  refine ⟨by decide, fun inStep => ?_⟩
  obtain ⟨count, packets, _⟩ := inStep 1
  match count with
  | 0 => exact absurd packets (by decide)
  | count + 1 => exact absurd packets (by simp [samplePuback, SentPacket.content]; decide)

end IotClient
