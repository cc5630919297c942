import IotClient.Proof.Commands

namespace IotClient
open Logic

/-! ## What leaves the session alone -/

def Callback.unconnected : Callback → Bool
  | .onConnected => false
  | .onConnectionLost _ => false
  | _ => true

def Event.aside : Event → Bool
  | .requested _ _ _ => true
  | .callback made => made.unconnected
  | event => event.passive

/-- Nothing happens to the connection, to the publish in flight or to the subscriptions. -/
structure Steady (before after : Machine) : Prop where
  log : ∃ events, after.log = events ++ before.log ∧ ∀ event ∈ events, event.aside
  inflight : after.mqtt.inflight = before.mqtt.inflight
  isconnected : after.mqtt.isconnected = before.mqtt.isconnected
  cleansession : after.mqtt.cleansession = before.mqtt.cleansession
  qos : after.mqttTls.qos = before.mqttTls.qos
  sessionPresent : after.mqttTls.sessionPresent → before.mqttTls.sessionPresent
  useMqttQoS2 : after.impl.conf.useMqttQoS2 = before.impl.conf.useMqttQoS2
  state : after.impl.state = before.impl.state
  subscriptions : after.impl.subscriptions = before.impl.subscriptions
  privateMessagesTopic : after.impl.privateMessagesTopic = before.impl.privateMessagesTopic
  authenticated : after.impl.authenticated = before.impl.authenticated
  connected : after.tls.connected → before.tls.connected
  reads : after.replies.reads ⊆ before.replies.reads

instance : Following Steady where
  refl m := ⟨⟨[], by simp⟩, rfl, rfl, rfl, rfl, id, rfl, rfl, rfl, rfl, rfl, id, List.Subset.refl _⟩
  trans first second := by
    obtain ⟨older, grows, all⟩ := first.log
    obtain ⟨newer, grows', all'⟩ := second.log
    refine ⟨⟨newer ++ older, ?_, ?_⟩, second.inflight.trans first.inflight,
      second.isconnected.trans first.isconnected, second.cleansession.trans first.cleansession,
      second.qos.trans first.qos, first.sessionPresent ∘ second.sessionPresent,
      second.useMqttQoS2.trans first.useMqttQoS2, second.state.trans first.state,
      second.subscriptions.trans first.subscriptions,
      second.privateMessagesTopic.trans first.privateMessagesTopic, second.authenticated.trans first.authenticated,
      first.connected ∘ second.connected, List.Subset.trans second.reads first.reads⟩
    · rw [grows', grows, List.append_assoc]
    · intro event member
      rcases List.mem_append.mp member with member | member
      · exact all' event member
      · exact all event member

theorem aside_of_passive {event : Event} (passive : event.passive) : event.aside := by
  cases event with
  | callback made => cases made <;> first | rfl | cases passive
  | _ => first | rfl | exact passive

theorem Waits.steady {before after : Machine} (waits : Waits Event.passive before after) :
    Steady before after where
  log := by
    obtain ⟨events, grows, all⟩ := waits.log
    exact ⟨events, grows, fun event member => aside_of_passive (all event member)⟩
  inflight := waits.inflight
  isconnected := waits.isconnected
  cleansession := waits.cleansession
  qos := congrArg MqttTls.qos waits.mqttTls
  sessionPresent present := by rwa [← waits.mqttTls]
  useMqttQoS2 := congrArg (fun impl => impl.conf.useMqttQoS2) waits.impl
  state := congrArg Impl.state waits.impl
  subscriptions := congrArg Impl.subscriptions waits.impl
  privateMessagesTopic := congrArg Impl.privateMessagesTopic waits.impl
  authenticated := congrArg Impl.authenticated waits.impl
  connected := waits.connected
  reads := waits.reads

theorem steady_of_passive {α : Type} {program : M α} (waits : Keeps (Waits Event.passive) program) :
    Keeps Steady program :=
  waits.mono Waits.steady

theorem steady_of_quiet {α : Type} {program : M α} (waits : Keeps (Waits Event.quiet) program) :
    Keeps Steady program :=
  waits.mono fun quiet => quiet.passive.steady

theorem emit_steady {event : Event} (aside : event.aside) : Keeps Steady (emit event) :=
  Keeps.modify fun _ => ⟨⟨[event], rfl, by simpa using aside⟩, rfl, rfl, rfl, rfl, id, rfl, rfl, rfl, rfl, rfl, id, List.Subset.refl _⟩

/-! ## Sending -/

theorem lose_ok (error : Bytes) (m : Machine) : ∃ after, TlsConnection.lose error m = .ok () after := by
  obtain ⟨⟨host, port, connected, lastError⟩, mqtt, mqttTls, impl, http, replies, log⟩ := m
  cases connected <;> exact ⟨_, rfl⟩

theorem sendPacket_follows {event : Event} {relation : Machine → Machine → Prop} {pre sent faulty : Machine → Prop}
    (fails : ∀ error, Keeps relation (TlsConnection.fail error)) (asks : Keeps relation nextSend)
    (loses : ∀ error, Keeps relation (TlsConnection.lose error))
    (stable : ∀ {before after}, relation before after → pre before → pre after)
    (emits : ∀ m, pre m → sent { m with log := event :: m.log }) (timer : Timer) :
    Triple pre (Mqtt.sendPacket event timer) (fun outcome m => if outcome.1 then sent m else pre m) faulty := by
  apply Triple.ite
  · intro _
    exact Triple.pure fun _ given => given
  · intro _
    apply Triple.read
    intro m
    apply Triple.ite
    · intro _
      have failed : Triple pre (TlsConnection.fail TlsConnection.writeDisconnected) (fun _ => pre) faulty :=
        fun before given => stable (fails _ before) given
      exact Triple.bind failed fun _ => Triple.pure fun _ given => given
    · intro _
      have replied : Triple pre nextSend (fun _ => pre) faulty := fun before given => stable (asks before) given
      apply Triple.bind replied
      intro reply
      cases reply with
      | sent expires => exact Triple.bind (Triple.modify emits) fun _ => Triple.pure fun _ given => given
      | expired => exact Triple.pure fun _ given => given
      | failed error =>
          have lost : Triple pre (TlsConnection.lose error) (fun _ => pre) faulty := by
            intro before given
            obtain ⟨after, run⟩ := lose_ok error before
            rw [run]
            exact stable ((loses error).returns run) given
          exact Triple.bind lost fun _ => Triple.pure fun _ given => given

theorem sendPacket_triple {event : Event} {pre sent faulty : Machine → Prop}
    (stable : ∀ {before after}, Waits Event.quiet before after → pre before → pre after)
    (emits : ∀ m, pre m → sent { m with log := event :: m.log }) (timer : Timer) :
    Triple pre (Mqtt.sendPacket event timer) (fun outcome m => if outcome.1 then sent m else pre m) faulty :=
  sendPacket_follows fail_waits (reply_waits (fun _ => rfl) fun _ => List.Subset.refl _) (fun error => lose_waits error rfl)
    stable emits timer

/-! ## Authentication -/

theorem ofExcept_steady {α : Type} (result : Except Fault α) : Keeps Steady (M.ofExcept result) :=
  steady_of_quiet (ofExcept_waits result)

theorem reply_steady {α : Type} {change : Machine → α × Machine}
    (only : ∀ m, (change m).2 = { m with replies := (change m).2.replies })
    (reads : ∀ m, (change m).2.replies.reads ⊆ m.replies.reads) : Keeps Steady (modifyGet change : M α) :=
  steady_of_quiet (reply_waits only reads)

def Event.requests : Event → Bool
  | .requested _ _ _ => true
  | _ => false

structure Requests (before after : Machine) : Prop where
  log : ∃ events, after.log = events ++ before.log ∧ ∀ event ∈ events, event.requests
  tls : after.tls = before.tls
  mqtt : after.mqtt = before.mqtt
  mqttTls : after.mqttTls = before.mqttTls
  impl : after.impl = before.impl
  replies : after.replies =
    { before.replies with randoms := after.replies.randoms, exchanges := after.replies.exchanges }

instance : Following Requests where
  refl m := ⟨⟨[], by simp⟩, rfl, rfl, rfl, rfl, rfl⟩
  trans first second := by
    obtain ⟨older, grows, all⟩ := first.log
    obtain ⟨newer, grows', all'⟩ := second.log
    refine ⟨⟨newer ++ older, ?_, ?_⟩, second.tls.trans first.tls, second.mqtt.trans first.mqtt,
      second.mqttTls.trans first.mqttTls, second.impl.trans first.impl, ?_⟩
    · rw [grows', grows, List.append_assoc]
    · intro event member
      rcases List.mem_append.mp member with member | member
      · exact all' event member
      · exact all event member
    · rw [second.replies, first.replies]

theorem ofExcept_keeps {α : Type} {relation : Machine → Machine → Prop} [Following relation]
    (result : Except Fault α) : Keeps relation (M.ofExcept result) := by
  cases result with
  | ok value => exact Keeps.pure value
  | error fault => exact Keeps.throw fault

theorem http_requests (change : Http → Http) : Keeps Requests (Http.update change) :=
  Keeps.modify fun _ => ⟨⟨[], by simp⟩, rfl, rfl, rfl, rfl, rfl⟩

theorem reply_requests {α : Type} {change : Machine → α × Machine}
    (only : ∀ m, (change m).2 = { m with replies := (change m).2.replies })
    (replies : ∀ m, (change m).2.replies =
      { m.replies with randoms := (change m).2.replies.randoms, exchanges := (change m).2.replies.exchanges }) :
    Keeps Requests (modifyGet change : M α) := by
  apply Keeps.modifyGet
  intro m
  refine ⟨⟨[], ?_, by simp⟩, ?_, ?_, ?_, ?_, replies m⟩ <;> rw [only m]
  rfl

theorem connectTo_requests (url : Url) : Keeps Requests (Http.connectTo url) := by
  refine Keeps.bind (http_requests _) fun _ => ?_
  cases Http.transportOf url.scheme with
  | none => exact Keeps.bind (http_requests _) fun _ => Keeps.pure _
  | some transport =>
      refine Keeps.bind (reply_requests (fun _ => rfl) fun _ => rfl) fun exchange => ?_
      cases exchange.connect with
      | none => exact Keeps.bind (http_requests _) fun _ => Keeps.pure _
      | some error => exact Keeps.bind (http_requests _) fun _ => Keeps.pure _

variable (platform : Platform)

theorem readResponse_requests (stop : Status) (parser : ResponseParser) (reads : List Bytes) :
    Keeps Requests (Http.readResponse platform stop parser reads) := by
  induction reads generalizing parser with
  | nil =>
      apply Keeps.ite
      · intro _
        exact Keeps.pure _
      · intro _
        exact Keeps.bind (http_requests _) fun _ => ofExcept_keeps _
  | cons data rest ih =>
      apply Keeps.ite
      · intro _
        exact Keeps.pure _
      · intro _
        exact Keeps.bind (ofExcept_keeps _) fun parser => ih parser

theorem execute_requests (method : Method) (url data : Bytes) :
    Keeps Requests (Http.execute platform method url data) := by
  unfold Http.execute
  cases platform.http.parseUrl url with
  | none => exact Keeps.bind (http_requests _) fun _ => Keeps.pure _
  | some target =>
      refine Keeps.bind (connectTo_requests target) fun connected => ?_
      cases connected with
      | none => exact Keeps.bind (http_requests _) fun _ => Keeps.pure _
      | some exchange =>
          refine Keeps.bind (Keeps.modify fun _ => ⟨⟨[_], rfl, by simp [Event.requests]⟩, rfl, rfl, rfl, rfl, rfl⟩) fun _ => ?_
          apply Keeps.ite
          · intro _
            refine Keeps.bind (http_requests _) fun _ => Keeps.bind (http_requests _) fun _ => ?_
            exact Keeps.bind (http_requests _) fun _ => Keeps.pure _
          · intro _
            refine Keeps.bind (readResponse_requests platform _ _ _) fun parser => ?_
            apply Keeps.ite
            · intro _
              exact Keeps.bind (http_requests _) fun _ => Keeps.bind (http_requests _) fun _ => Keeps.pure _
            · intro _
              exact Keeps.bind (http_requests _) fun _ => Keeps.pure _

theorem makeRequest_requests (method : Method) (url data : Bytes) :
    Keeps Requests (Http.makeRequest platform method url data) := by
  refine Keeps.bind (execute_requests platform method url data) fun executed => ?_
  cases executed with
  | none => exact Keeps.bind Keeps.get fun m => Keeps.throw _
  | some response =>
      apply Keeps.ite
      · intro _
        exact Keeps.throw _
      · intro _
        apply Keeps.ite
        · intro _
          exact Keeps.pure _
        · intro _
          refine Keeps.bind (ofExcept_keeps _) fun parsed => ?_
          cases parsed <;> exact Keeps.pure _

theorem check_requests {α : Type} (function : String) (result : Except Int α) :
    Keeps Requests (MpinFull.check function result) := by
  cases result with
  | ok value => exact Keeps.pure _
  | error code => exact Keeps.throw _

theorem random_requests : Keeps Requests MpinFull.random := by
  refine Keeps.bind (reply_requests (fun _ => rfl) fun _ => rfl) fun reply => ?_
  cases reply with
  | none => exact Keeps.throw _
  | some bytes => exact Keeps.pure _

theorem makePostRequest_requests (url : Bytes) (data : List (Bytes × Json)) :
    Keeps Requests (MpinFull.makePostRequest platform url data) :=
  Keeps.bind (ofExcept_keeps _) fun _ => makeRequest_requests platform _ _ _

theorem renewExpiredIdentity_requests (renewSecret : Json) (expiredId : Identity) :
    Keeps Requests (MpinFull.renewExpiredIdentity platform renewSecret expiredId) := by
  refine Keeps.bind (ofExcept_keeps _) fun _ => Keeps.bind (ofExcept_keeps _) fun _ => ?_
  refine Keeps.bind (ofExcept_keeps _) fun _ => Keeps.bind (ofExcept_keeps _) fun _ => ?_
  refine Keeps.bind (makeRequest_requests platform _ _ _) fun _ => Keeps.bind (ofExcept_keeps _) fun _ => ?_
  exact Keeps.bind (check_requests _ _) fun _ => Keeps.pure _

theorem doAuth_requests (server : Bytes) (id : Identity) : Keeps Requests (MpinFull.doAuth platform server id) := by
  refine Keeps.bind random_requests fun _ => Keeps.bind (check_requests _ _) fun _ => ?_
  refine Keeps.bind (makePostRequest_requests platform _ _) fun _ => Keeps.bind (ofExcept_keeps _) fun _ => ?_
  refine Keeps.bind (check_requests _ _) fun _ => Keeps.bind random_requests fun _ => ?_
  refine Keeps.bind (check_requests _ _) fun _ => Keeps.bind (makePostRequest_requests platform _ _) fun _ => ?_
  refine Keeps.bind (ofExcept_keeps _) fun _ => Keeps.bind (makePostRequest_requests platform _ _) fun response => ?_
  refine Keeps.bind (ofExcept_keeps _) fun _ => Keeps.bind (check_requests _ _) fun _ => ?_
  refine Keeps.bind (check_requests _ _) fun _ => Keeps.bind (ofExcept_keeps _) fun members => ?_
  cases Json.find members (bytes "renewSecret") with
  | none => exact Keeps.pure _
  | some renewSecret => exact Keeps.bind (renewExpiredIdentity_requests platform _ _) fun _ => Keeps.pure _

theorem mpinAuthenticate_requests (server : Bytes) (id : Identity) :
    Keeps Requests (MpinFull.authenticate platform server id) := by
  apply Keeps.tryCatch (doAuth_requests platform server id)
  intro fault
  cases fault <;> exact Keeps.throw _

def Event.authenticates : Event → Bool
  | .requested _ _ _ => true
  | .callback .onAuthenticated => true
  | .callback (.onIdentityChanged _) => true
  | _ => false

structure Authenticates (before after : Machine) : Prop where
  log : ∃ events, after.log = events ++ before.log ∧ ∀ event ∈ events, event.authenticates
  tls : after.tls = before.tls
  mqtt : after.mqtt = before.mqtt
  mqttTls : after.mqttTls = { before.mqttTls with psk := after.mqttTls.psk, pskId := after.mqttTls.pskId }
  impl : after.impl = { before.impl with
    conf := { before.impl.conf with identity := after.impl.conf.identity }, lastError := after.impl.lastError }
  lastError : after.impl.lastError = before.impl.lastError ∨ after.impl.lastError = [] ∨
    ∃ what, after.impl.lastError = bytes "Authentication failed: " ++ what
  replies : after.replies =
    { before.replies with randoms := after.replies.randoms, exchanges := after.replies.exchanges }

instance : Following Authenticates where
  refl m := ⟨⟨[], by simp⟩, rfl, rfl, rfl, rfl, .inl rfl, rfl⟩
  trans first second := by
    obtain ⟨older, grows, all⟩ := first.log
    obtain ⟨newer, grows', all'⟩ := second.log
    refine ⟨⟨newer ++ older, ?_, ?_⟩, second.tls.trans first.tls, second.mqtt.trans first.mqtt, ?_, ?_, ?_, ?_⟩
    · rw [grows', grows, List.append_assoc]
    · intro event member
      rcases List.mem_append.mp member with member | member
      · exact all' event member
      · exact all event member
    · rw [second.mqttTls, first.mqttTls]
    · rw [second.impl, first.impl]
    · rcases second.lastError with same | other
      · rw [same]
        exact first.lastError
      · exact .inr other
    · rw [second.replies, first.replies]

theorem Requests.authenticates {before after : Machine} (requests : Requests before after) : Authenticates before after where
  log := by
    obtain ⟨events, grows, all⟩ := requests.log
    refine ⟨events, grows, fun event member => ?_⟩
    cases event with
    | requested method url data => rfl
    | _ => cases all _ member
  tls := requests.tls
  mqtt := requests.mqtt
  mqttTls := by rw [requests.mqttTls]
  impl := by rw [requests.impl]
  lastError := .inl (congrArg Impl.lastError requests.impl)
  replies := requests.replies

theorem authenticate_authenticates : Keeps Authenticates (Client.authenticate platform) := by
  have emits {event : Event} (own : event.authenticates) : Keeps Authenticates (emit event) :=
    Keeps.modify fun _ => ⟨⟨[event], rfl, by simpa using own⟩, rfl, rfl, rfl, rfl, .inl rfl, rfl⟩
  refine Keeps.bind Keeps.get fun m => Keeps.ite (fun _ => Keeps.pure _) fun _ => Keeps.tryCatch ?_ ?_
  · refine Keeps.bind (Keeps.modify fun _ => ⟨⟨[], by simp⟩, rfl, rfl, rfl, rfl, .inr (.inl rfl), rfl⟩) fun _ => ?_
    refine Keeps.bind Keeps.get fun m => ?_
    refine Keeps.bind ((mpinAuthenticate_requests platform _ _).mono Requests.authenticates) fun result => ?_
    refine Keeps.bind ?_ fun _ => ?_
    · cases result.newIdentity with
      | none => exact Keeps.pure _
      | some newIdentity =>
          refine Keeps.bind (Keeps.modify fun _ => ?_) fun _ => emits rfl
          exact ⟨⟨[], by simp⟩, rfl, rfl, rfl, rfl, .inl rfl, rfl⟩
    · refine Keeps.bind (Keeps.modify fun _ => ?_) fun _ => Keeps.bind (emits rfl) fun _ => Keeps.pure _
      exact ⟨⟨[], by simp⟩, rfl, rfl, rfl, rfl, .inl rfl, rfl⟩
  · intro fault
    cases fault with
    | iot what =>
        refine Keeps.bind (Keeps.modify fun _ => ?_) fun _ => Keeps.pure _
        exact ⟨⟨[], by simp⟩, rfl, rfl, rfl, rfl, .inr (.inr ⟨_, rfl⟩), rfl⟩
    | _ => exact Keeps.throw _

theorem Authenticates.steady {before after : Machine} (authenticates : Authenticates before after) : Steady before after where
  log := by
    obtain ⟨events, grows, all⟩ := authenticates.log
    refine ⟨events, grows, fun event member => ?_⟩
    cases event with
    | requested method url data => rfl
    | callback made => cases made <;> first | rfl | cases all _ member
    | _ => cases all _ member
  inflight := congrArg Mqtt.inflight authenticates.mqtt
  isconnected := congrArg Mqtt.isconnected authenticates.mqtt
  cleansession := congrArg Mqtt.cleansession authenticates.mqtt
  qos := by rw [authenticates.mqttTls]
  sessionPresent present := by rwa [authenticates.mqttTls] at present
  useMqttQoS2 := by rw [authenticates.impl]
  state := by rw [authenticates.impl]
  subscriptions := by rw [authenticates.impl]
  privateMessagesTopic := by rw [authenticates.impl]
  authenticated := by rw [authenticates.impl]
  connected isOpen := by rwa [authenticates.tls] at isOpen
  reads := by
    rw [authenticates.replies]
    exact List.Subset.refl _

theorem authenticate_steady : Keeps Steady (Client.authenticate platform) :=
  (authenticate_authenticates platform).mono Authenticates.steady

theorem mpinAuthenticate_steady (server : Bytes) (id : Identity) :
    Keeps Steady (MpinFull.authenticate platform server id) :=
  (mpinAuthenticate_requests platform server id).mono fun requests => requests.authenticates.steady

/-! ## Reporting -/

theorem readSuback_waits : Keeps (Waits Event.quiet) (Mqtt.readSuback platform) :=
  Keeps.bind Keeps.get fun _ => Keeps.bind (ofExcept_waits _) fun _ => Keeps.pure _

theorem onError_steady (error : Bytes) : Keeps Steady (MqttTls.onError error) := by
  refine Keeps.bind Keeps.get fun m => Keeps.bind (Keeps.modify fun _ => ?_) fun _ => Keeps.pure _
  exact ⟨⟨[], by simp⟩, rfl, rfl, rfl, rfl, by simp, rfl, rfl, rfl, rfl, rfl, id, List.Subset.refl _⟩

theorem absent_steady :
    Keeps Steady (MqttTls.update fun client => { client with sessionPresent := false }) :=
  Keeps.modify fun _ => ⟨⟨[], by simp⟩, rfl, rfl, rfl, rfl, by simp, rfl, rfl, rfl, rfl, rfl, id, List.Subset.refl _⟩

theorem runMessageLoop_steady (timeout : Nat) : Keeps Steady (MqttTls.runMessageLoop platform timeout) := by
  refine Keeps.bind (steady_of_passive (yield_waits platform timeout)) fun _ => ?_
  refine Keeps.ite (fun _ => Keeps.pure _) fun _ => Keeps.bind Keeps.get fun _ => ?_
  exact Keeps.ite (fun _ => Keeps.pure _) fun _ => onError_steady _

theorem reportLastError_steady : Keeps Steady Client.reportLastError :=
  Keeps.bind Keeps.get fun _ => emit_steady rfl

theorem reportClientError_steady : Keeps Steady Client.reportClientError :=
  Keeps.bind Keeps.get fun _ => emit_steady rfl

end IotClient
