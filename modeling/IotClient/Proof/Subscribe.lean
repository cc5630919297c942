import IotClient.Proof.Commands

namespace IotClient
open Logic

/-! ## The SUBACK -/

theorem charValue_eq_failure {sign : CharSign} {code : UInt8} :
    charValue sign code = 0x80 ↔ code = 0x80 ∧ sign = .unsigned := by
  have all : ∀ sign : CharSign, ∀ n : Fin 256, charValue sign (UInt8.ofFin n) = 0x80 ↔
      UInt8.ofFin n = 0x80 ∧ sign = .unsigned := by
    intro sign
    cases sign <;> decide +kernel
  exact all sign code.toFin

theorem deserializeSuback_load (sign : CharSign) {frame : Frame} (suback : packetType frame.header = .suback)
    (old : Bytes) :
    deserializeSuback sign (frame.load old) =
      match frame.body with
      | [] => .ok (1, -1)
      | [_] => .ok (1, -1)
      | [_, _] => .ok (1, -1)
      | [_, _, code] => .ok (1, charValue sign code)
      | _ => .error .outOfRange := by
  obtain ⟨behind, loaded⟩ := frame.load_eq old
  have decoded := decodeLength_encodeLength frame.body_length (frame.body ++ behind)
  rw [loaded]
  simp only [deserializeSuback, suback, ne_eq, not_true_eq_false, if_false, decoded, ← List.drop_drop,
    List.drop_left]
  match frame.body with
  | [] => rfl
  | [c] =>
      have short : [c].length < 2 := by simp
      rw [if_pos short, List.length_singleton, encodeLength_short (by omega)]
      rfl
  | [_, _] => rfl
  | [_, _, _] => rfl
  | high :: low :: first :: second :: rest =>
      have long : ¬ (high :: low :: first :: second :: rest).length < 2 := by simp
      rw [if_neg long]
      rfl

theorem readSuback_returns {platform : Platform} {frame : Frame} (suback : packetType frame.header = .suback)
    {rc : Bool} {before after : Machine} (loaded : ∃ old, before.mqtt.readbuf = frame.load old)
    (run : Mqtt.readSuback platform before = .ok rc after) :
    after = before ∧ ((frame.body.length < 3 ∧ rc = true) ∨
      ∃ id code, frame.suback = some (id, code) ∧ (rc = false ↔ code = 0x80 ∧ platform.sign = .unsigned)) := by
  obtain ⟨old, loaded⟩ := loaded
  unfold Mqtt.readSuback at run
  rw [run_get_bind, loaded, deserializeSuback_load platform.sign suback] at run
  obtain ⟨deserialized, between, read, run⟩ := run_bind_eq_ok.mp run
  obtain ⟨decided, rfl⟩ := run_pure_eq_ok.mp run
  simp only [Frame.suback]
  match body : frame.body with
  | [] =>
      simp only [body] at read
      obtain ⟨rfl, rfl⟩ := run_pure_eq_ok.mp read
      exact ⟨rfl, .inl ⟨by simp, by rw [← decided]; rfl⟩⟩
  | [_] =>
      simp only [body] at read
      obtain ⟨rfl, rfl⟩ := run_pure_eq_ok.mp read
      exact ⟨rfl, .inl ⟨by simp, by rw [← decided]; rfl⟩⟩
  | [_, _] =>
      simp only [body] at read
      obtain ⟨rfl, rfl⟩ := run_pure_eq_ok.mp read
      exact ⟨rfl, .inl ⟨by simp, by rw [← decided]; rfl⟩⟩
  | [high, low, code] =>
      simp only [body] at read
      obtain ⟨rfl, rfl⟩ := run_pure_eq_ok.mp read
      refine ⟨rfl, .inr ⟨_, code, rfl, ?_⟩⟩
      rw [← decided, ← charValue_eq_failure]
      simp
  | _ :: _ :: _ :: _ :: _ =>
      simp only [body] at read
      exact absurd read run_throw_ne_ok

/-! ## SUBSCRIBE and UNSUBSCRIBE -/

variable (platform : Platform)

def Machine.asks (m : Machine) (packet : Nat → Packet) : Bool :=
  m.mqtt.isconnected && (packet (Mqtt.nextId m.mqtt.packetid)).fits && m.canSend (m.replies.ticks.headD 0)

theorem request_returns {packet : Nat → Packet} {type : PacketType} (plain : type.plain) {answer : M Bool}
    {rc : Bool} {before after : Machine}
    (run : Mqtt.request platform packet type answer before = .ok rc after) :
    let asked := .sent (packet (Mqtt.nextId before.mqtt.packetid)) ::
      .deadline before.mqtt.commandTimeout :: before.log
    if before.asks packet then
      (Misses type asked after.log ∧ rc = false) ∨
        ∃ frame waited answered, Arrives type frame asked waited.log ∧
          (∃ old, waited.mqtt.readbuf = frame.load old) ∧ answer waited = .ok rc answered ∧
          after.log = answered.log
    else Fruitless rc before.log after.log := by
  unfold Mqtt.request at run
  rw [run_get_bind] at run
  obtain ⟨timer, started, starting, run⟩ := run_bind_eq_ok.mp run
  obtain ⟨rfl, rfl⟩ := startTimer_returns starting
  rw [run_get_bind] at run
  obtain ⟨result, requested, requesting, run⟩ := run_bind_eq_ok.mp run
  obtain ⟨_, cleaned, cleaning, run⟩ := run_bind_eq_ok.mp run
  obtain ⟨rfl, rfl⟩ := run_pure_eq_ok.mp run
  intro asked
  rw [cleaned_log cleaning]
  cases connected : before.mqtt.isconnected with
  | false =>
      simp only [connected, Bool.not_false, if_true] at requesting
      obtain ⟨rfl, rfl⟩ := run_pure_eq_ok.mp requesting
      simp only [Machine.asks, connected, Bool.false_and, Bool.false_eq_true, if_false]
      exact ⟨rfl, [.deadline _], rfl, by simp [Event.quiet]⟩
  | true =>
      simp only [connected, Bool.not_true, Bool.false_eq_true, if_false] at requesting
      obtain ⟨id, numbered, numbering, requesting⟩ := run_bind_eq_ok.mp requesting
      obtain ⟨rfl, rfl⟩ := getNext_returns numbering
      simp only at requesting
      cases fits : (packet (Mqtt.nextId before.mqtt.packetid)).fits with
      | false =>
          simp only [fits, Bool.not_false, if_true] at requesting
          obtain ⟨rfl, rfl⟩ := run_pure_eq_ok.mp requesting
          simp only [Machine.asks, fits, Bool.and_false, Bool.false_and, Bool.false_eq_true, if_false]
          exact ⟨rfl, [.deadline _], rfl, by simp [Event.quiet]⟩
      | true =>
          simp only [fits, Bool.not_true, Bool.false_eq_true, if_false] at requesting
          obtain ⟨⟨sent, left⟩, out, sending, requesting⟩ := run_bind_eq_ok.mp requesting
          obtain ⟨can, effect⟩ := sendPacket_returns sending
          have asks : before.asks packet = sent := by
            rw [← can]
            simp only [Machine.asks, connected, fits, Bool.true_and]
            rfl
          rw [asks]
          cases sent with
          | false =>
              obtain ⟨rfl, rfl⟩ := run_pure_eq_ok.mp requesting
              have fruitless : Fruitless false (.deadline before.mqtt.commandTimeout :: before.log) _ :=
                ⟨rfl, effect.log⟩
              exact fruitless.after (by simp [Event.quiet])
          | true =>
              have logged : out.log = asked := congrArg Machine.log effect
              simp only [Bool.not_true, Bool.false_eq_true, if_false, if_true] at requesting ⊢
              obtain ⟨⟨arrived, _⟩, waited, waiting, requesting⟩ := run_bind_eq_ok.mp requesting
              have outcome := waitfor_returns platform plain waiting
              rw [logged] at outcome
              cases arrived with
              | false =>
                  obtain ⟨rfl, rfl⟩ := run_pure_eq_ok.mp requesting
                  exact .inl ⟨outcome, rfl⟩
              | true =>
                  obtain ⟨frame, arrives, loaded⟩ := outcome
                  exact .inr ⟨frame, waited, requested, arrives, loaded, requesting, rfl⟩

/-! ## The result of a subscription -/

theorem cString_eq_self {topic : Bytes} : cString topic = topic ↔ 0 ∉ topic := by
  unfold cString
  induction topic with
  | nil => simp
  | cons c rest ih =>
      by_cases zero : c = 0
      · simp [zero]
      · simp [zero, ih, Ne.symm zero]

theorem grantedExactly_of_none {topic : Bytes} {events : List Event}
    (none : firstReceived .suback events = none) : GrantedExactly topic events false :=
  ⟨by simp, by simp [none]⟩

theorem Frame.suback_length {frame : Frame} {id : Nat} {code : UInt8} (suback : frame.suback = some (id, code)) :
    frame.body.length = 3 := by
  unfold Frame.suback at suback
  split at suback
  · rename_i body
    simp [body]
  · cases suback

/-- A call that is answered: what it makes of the SUBACK is right just when it understands it. -/
theorem grantedExactly_iff {sign : CharSign} {topic : Bytes} {events : List Event} {result : Bool} {frame : Frame}
    {id : Nat} {qos : QoS} (first : firstReceived .suback events = some frame)
    (asked : ∀ other topic' qos', .sent (.subscribe other topic' qos') ∈ events ↔
      other = id ∧ topic' = cString topic ∧ qos' = qos)
    (answer : (frame.body.length < 3 ∧ result = true) ∨
      ∃ answered code, frame.suback = some (answered, code) ∧ (result = false ↔ code = 0x80 ∧ sign = .unsigned)) :
    GrantedExactly topic events result ↔ Understood sign id topic frame := by
  unfold GrantedExactly Understood
  rw [first, ← cString_eq_self]
  rcases answer with ⟨short, rfl⟩ | ⟨answered, code, suback, refused⟩
  · have noCode : frame.suback = none := by
      unfold Frame.suback
      split
      · rename_i body
        simp [body] at short
      · rfl
    constructor
    · intro granted
      exact absurd (granted.2 frame rfl (.inl short)) (by simp)
    · rintro ⟨_, _, impossible, _⟩
      simp [noCode] at impossible
  · constructor
    · rintro ⟨granted, refusal⟩
      refine ⟨answered, code, suback, ?_⟩
      cases result with
      | false => exact .inr (refused.mp rfl)
      | true =>
          obtain ⟨other, qos', _, code', sent, ⟨⟩, suback', small⟩ := granted rfl
          obtain ⟨rfl, same, rfl⟩ := (asked ..).mp sent
          rw [suback] at suback'
          obtain ⟨rfl, rfl⟩ := Prod.mk.inj (Option.some.inj suback')
          exact .inl ⟨small, rfl, same.symm⟩
    · rintro ⟨answered', code', suback', understood⟩
      rw [suback] at suback'
      obtain ⟨rfl, rfl⟩ := Prod.mk.inj (Option.some.inj suback')
      rcases understood with ⟨small, rfl, same⟩ | failure
      · have accepted : result ≠ false := by
          intro rejected
          rw [(refused.mp rejected).1] at small
          exact absurd small (by decide)
        refine ⟨fun _ => ⟨_, qos, frame, code, (asked ..).mpr ⟨rfl, same.symm, rfl⟩, rfl, suback, small⟩, ?_⟩
        rintro _ ⟨⟩ (short | ⟨_, coded⟩)
        · exact absurd short (by simp [Frame.suback_length suback])
        · rw [suback] at coded
          obtain ⟨_, rfl⟩ := Prod.mk.inj (Option.some.inj coded)
          exact absurd small (by decide)
      · have rejected := refused.mpr failure
        exact ⟨fun granted => by simp [rejected] at granted, fun _ _ _ => rejected⟩

theorem not_asked_of_passive {events : List Event} (passive : ∀ event ∈ events, event.passive) (id : Nat)
    (topic : Bytes) (qos : QoS) : .sent (.subscribe id topic qos) ∉ events := by
  intro member
  cases passive _ member

theorem clientSubscribe_returns {topic : Bytes} {result : Bool} {before checked after : Machine}
    (check : Client.checkState platform before = .ok true checked)
    (run : Client.subscribe platform topic before = .ok result after) :
    (result = false ∧ firstReceived .suback (checked.since after) = none) ∨
      ∃ frame, firstReceived .suback (checked.since after) = some frame ∧
        (∀ id topic' qos, .sent (.subscribe id topic' qos) ∈ checked.since after ↔
          id = Mqtt.nextId checked.mqtt.packetid ∧ topic' = cString topic ∧ qos = checked.mqttTls.qos) ∧
        ((frame.body.length < 3 ∧ result = true) ∨ ∃ answered code, frame.suback = some (answered, code) ∧
          (result = false ↔ code = 0x80 ∧ platform.sign = .unsigned)) := by
  obtain ⟨between, acted, callbacks, grows, quiet⟩ := command_returns platform check run
  unfold MqttTls.subscribe at acted
  rw [run_get_bind] at acted
  obtain ⟨subscribed, subscribing, same⟩ := orError_returns acted
  have outcome := request_returns platform (by simp [PacketType.plain]) subscribing
  rw [same] at grows
  split at outcome
  · rcases outcome with ⟨⟨events, log, besides⟩, rfl⟩ | ⟨frame, waited, answered, arrives, loaded, answer, log⟩
    · have since := since_append checked after (callbacks ++ events ++
        [.sent (.subscribe (Mqtt.nextId checked.mqtt.packetid) (cString topic) checked.mqttTls.qos),
          .deadline checked.mqtt.commandTimeout]) (by simp [grows, log])
      refine .inl ⟨rfl, ?_⟩
      rw [since]
      apply firstReceived_eq_none
      intro event member
      simp only [List.mem_append, List.mem_cons, List.not_mem_nil, or_false] at member
      rcases member with (member | member) | rfl | rfl
      · exact frameOf_of_quiet (quiet event member)
      · exact frameOf_of_besides (besides event member)
      · rfl
      · rfl
    · obtain ⟨typed, later, earlier, arrived, allLater, allEarlier⟩ := arrives
      obtain ⟨rfl, read⟩ := readSuback_returns typed loaded answer
      have since := since_append checked after (callbacks ++ later ++ .received frame :: (earlier ++
        [.sent (.subscribe (Mqtt.nextId checked.mqtt.packetid) (cString topic) checked.mqttTls.qos),
          .deadline checked.mqtt.commandTimeout])) (by simp [grows, log, arrived])
      refine .inr ⟨frame, ?_, ?_, read⟩
      · rw [since]
        apply firstReceived_eq_some typed
        intro event member
        simp only [List.mem_append, List.mem_cons, List.not_mem_nil, or_false] at member
        rcases member with member | rfl | rfl
        · exact frameOf_of_besides (allEarlier event member)
        · rfl
        · rfl
      · intro id topic' qos
        have unasked := not_asked_of_passive (fun event member => passive_of_quiet _ (quiet event member))
        have unasked' := not_asked_of_passive (fun event member => passive_of_quiet _ (allLater event member))
        have unasked'' := not_asked_of_passive (fun event member => passive_of_besides (allEarlier event member))
        rw [since]
        simp only [List.mem_append, List.mem_cons, List.not_mem_nil, unasked, unasked', unasked'', Event.sent.injEq, Packet.subscribe.injEq,
          false_or, or_false, reduceCtorEq]
  · obtain ⟨rfl, events, log, all⟩ := outcome
    refine .inl ⟨rfl, ?_⟩
    rw [since_append checked after (callbacks ++ events) (by rw [grows, log, List.append_assoc])]
    apply firstReceived_eq_none
    intro event member
    rcases List.mem_append.mp member with member | member
    · exact frameOf_of_quiet (quiet event member)
    · exact frameOf_of_quiet (all event member)

theorem subscribesExactly_iff {topic : Bytes} {result : Bool} {before after : Machine}
    (run : Client.subscribe platform topic before = .ok result after) :
    SubscribesExactly platform topic before after result ↔ SubackUnderstood platform topic before after := by
  apply forall_congr'
  intro checked
  apply forall_congr'
  intro check
  rcases clientSubscribe_returns platform check run with ⟨rfl, none⟩ | ⟨frame, first, asked, answer⟩
  · simp [none, grantedExactly_of_none none]
  · rw [first, grantedExactly_iff first asked answer]
    simp

/-! ## Sample calls -/

def subscriber (sign : CharSign) (body : Bytes) (short : body.length < 128) : Machine :=
  inSession sign false [samplePacket 0x90 body short]

theorem subscribesExactly_granted :
    ∃ after, Client.subscribe (plainPlatform .signed) (bytes "t") (subscriber .signed [0, 1, 0] (by simp)) =
        .ok true after ∧
      SubscribesExactly (plainPlatform .signed) (bytes "t") (subscriber .signed [0, 1, 0] (by simp)) after true := by
  have returned : returnsTrue (Client.subscribe (plainPlatform .signed) (bytes "t")
      (subscriber .signed [0, 1, 0] (by simp))) := by decide +kernel
  have numbered : Mqtt.nextId (last (Client.checkState (plainPlatform .signed)
      (subscriber .signed [0, 1, 0] (by simp)))).mqtt.packetid = 1 := by decide +kernel
  have answered : (firstReceived .suback (Machine.since
      (last (Client.checkState (plainPlatform .signed) (subscriber .signed [0, 1, 0] (by simp))))
      (last (Client.subscribe (plainPlatform .signed) (bytes "t")
        (subscriber .signed [0, 1, 0] (by simp)))))).map Frame.suback = some (some (1, 0)) := by decide +kernel
  generalize subscriber .signed [0, 1, 0] (by simp) = before at *
  have run := eq_ok_of_returnsTrue returned
  refine ⟨_, run, (subscribesExactly_iff _ run).mpr ?_⟩
  intro checked check frame received
  obtain rfl := checked_eq check
  rw [received] at answered
  exact ⟨1, 0, Option.some.inj answered, .inl ⟨by decide, numbered.symm, by decide⟩⟩

theorem not_subscribesExactly_of_suback {platform : Platform} {topic : Bytes} {before after : Machine}
    {suback : Option (Nat × UInt8)} (run : Client.subscribe platform topic before = .ok true after)
    (passed : returnsTrue (Client.checkState platform before))
    (answered : (firstReceived .suback ((last (Client.checkState platform before)).since after)).map Frame.suback =
      some suback)
    (refused : ∀ id code, suback = some (id, code) → ¬ (code ≤ 2 ∨ (code = 0x80 ∧ platform.sign = .unsigned))) :
    ¬ SubscribesExactly platform topic before after true := by
  intro exactly
  obtain ⟨frame, received, coded⟩ := Option.map_eq_some_iff.mp answered
  have checked := eq_ok_of_returnsTrue passed
  rcases clientSubscribe_returns platform checked run with ⟨_, missing⟩ | ⟨frame', first, asked, answer⟩
  · rw [missing] at received
    cases received
  · rw [received] at first
    obtain rfl := Option.some.inj first
    obtain ⟨id, code, decoded, understood⟩ :=
      (grantedExactly_iff received asked answer).mp (exactly _ checked)
    apply refused id code (coded.symm.trans decoded)
    rcases understood with ⟨small, _⟩ | failure
    · exact .inl small
    · exact .inr failure

/-- The failure code where `char` is signed, and a SUBACK without a code where it is not. -/
theorem not_subscribesExactly :
    (∃ after, Client.subscribe (plainPlatform .signed) (bytes "t") (subscriber .signed [0, 1, 0x80] (by simp)) =
        .ok true after ∧
      ¬ SubscribesExactly (plainPlatform .signed) (bytes "t") (subscriber .signed [0, 1, 0x80] (by simp))
        after true) ∧
    ∃ after, Client.subscribe (plainPlatform .unsigned) (bytes "t") (subscriber .unsigned [0, 1] (by simp)) =
        .ok true after ∧
      ¬ SubscribesExactly (plainPlatform .unsigned) (bytes "t") (subscriber .unsigned [0, 1] (by simp))
        after true := by
  constructor
  · have returned : returnsTrue (Client.subscribe (plainPlatform .signed) (bytes "t")
        (subscriber .signed [0, 1, 0x80] (by simp))) := by decide +kernel
    have passed : returnsTrue (Client.checkState (plainPlatform .signed)
        (subscriber .signed [0, 1, 0x80] (by simp))) := by decide +kernel
    have answered : (firstReceived .suback (Machine.since
        (last (Client.checkState (plainPlatform .signed) (subscriber .signed [0, 1, 0x80] (by simp))))
        (last (Client.subscribe (plainPlatform .signed) (bytes "t")
          (subscriber .signed [0, 1, 0x80] (by simp)))))).map Frame.suback = some (some (1, 0x80)) := by
      decide +kernel
    generalize subscriber .signed [0, 1, 0x80] (by simp) = before at *
    have run := eq_ok_of_returnsTrue returned
    refine ⟨_, run, not_subscribesExactly_of_suback run passed answered ?_⟩
    rintro id code ⟨⟩
    decide
  · have returned : returnsTrue (Client.subscribe (plainPlatform .unsigned) (bytes "t")
        (subscriber .unsigned [0, 1] (by simp))) := by decide +kernel
    have passed : returnsTrue (Client.checkState (plainPlatform .unsigned)
        (subscriber .unsigned [0, 1] (by simp))) := by decide +kernel
    have answered : (firstReceived .suback (Machine.since
        (last (Client.checkState (plainPlatform .unsigned) (subscriber .unsigned [0, 1] (by simp))))
        (last (Client.subscribe (plainPlatform .unsigned) (bytes "t")
          (subscriber .unsigned [0, 1] (by simp)))))).map Frame.suback = some none := by
      decide +kernel
    generalize subscriber .unsigned [0, 1] (by simp) = before at *
    have run := eq_ok_of_returnsTrue returned
    refine ⟨_, run, not_subscribesExactly_of_suback run passed answered ?_⟩
    rintro id code ⟨⟩

end IotClient
