import IotClient.Proof.InFlight
import IotClient.Proof.Mute

namespace IotClient
open Logic

/-! ## Connection events -/

theorem filterMap_connection {newer older : List Event} (silent : ∀ event ∈ newer, event.connection = none) :
    (newer ++ older).filterMap Event.connection = older.filterMap Event.connection := by
  rw [List.filterMap_append, List.filterMap_eq_nil_iff.mpr silent, List.nil_append]

theorem authenticatedFirst_append {newer older : List Event} (silent : ∀ event ∈ newer, event.connection = none)
    (first : AuthenticatedFirst older) : AuthenticatedFirst (newer ++ older) := by
  induction newer with
  | nil => exact first
  | cons event rest ih =>
      have rest' := ih fun other member => silent other (List.mem_cons_of_mem _ member)
      have own := silent event List.mem_cons_self
      cases event with
      | callback made => cases made <;> first | exact rest' | cases own
      | _ => exact rest'

theorem authenticatedLast_append {newer older : List Event} (silent : ∀ event ∈ newer, event.connection = none)
    (last : AuthenticatedLast older) : AuthenticatedLast (newer ++ older) := by
  induction newer with
  | nil => exact last
  | cons event rest ih =>
      have rest' := ih fun other member => silent other (List.mem_cons_of_mem _ member)
      have own := silent event List.mem_cons_self
      cases event with
      | callback made => cases made <;> first | exact rest' | trivial
      | _ => exact rest'

structure Ordered (base : List Event) (session : List Event) (m : Machine) : Prop where
  log : m.log = session ++ base
  alternates : Alternates (session.filterMap Event.connection)
  connected : m.impl.state = .connected ↔ (session.filterMap Event.connection).head? = some true
  authenticated : AuthenticatedFirst session

theorem Ordered.silent {base session : List Event} {before after : Machine} (ordered : Ordered base session before)
    {events : List Event} (grows : after.log = events ++ before.log)
    (silent : ∀ event ∈ events, event.connection = none) (state : after.impl.state = before.impl.state) :
    Ordered base (events ++ session) after := by
  refine ⟨by rw [grows, ordered.log, List.append_assoc], ?_, ?_, authenticatedFirst_append silent ordered.authenticated⟩
  · rw [filterMap_connection silent]
    exact ordered.alternates
  · rw [filterMap_connection silent, state]
    exact ordered.connected

theorem alternates_lost {connections : List Bool} (alternates : Alternates connections)
    (connected : connections.head? = some true) : Alternates (false :: connections) := by
  cases connections with
  | nil => cases connected
  | cons newest older =>
      cases connected
      exact ⟨by simp, alternates⟩

theorem alternates_connected {connections : List Bool} (alternates : Alternates connections)
    (lost : connections.head? ≠ some true) : Alternates (true :: connections) := by
  cases connections with
  | nil => rfl
  | cons newest older =>
      refine ⟨fun same => lost ?_, alternates⟩
      rw [← same]
      rfl

/-! ## Invariants of a session -/

def InOrder (base : List Event) (m : Machine) : Prop :=
  (∃ session, Ordered base session m) ∧ m.impl.authenticated = false

theorem InOrder.mute {base : List Event} {before after : Machine} (mute : Mute before after)
    (inOrder : InOrder base before) : InOrder base after := by
  obtain ⟨⟨session, ordered⟩, unauthenticated⟩ := inOrder
  obtain ⟨events, grows, silent⟩ := mute.log
  exact ⟨⟨events ++ session, ordered.silent grows silent (by rw [mute.impl])⟩, by rw [mute.impl]; exact unauthenticated⟩

theorem connection_of_aside {event : Event} (aside : event.aside) : event.connection = none := by
  cases event with
  | callback made => cases made <;> first | rfl | cases aside
  | _ => rfl

theorem InOrder.steady {base : List Event} {before after : Machine} (steady : Steady before after)
    (inOrder : InOrder base before) : InOrder base after := by
  obtain ⟨⟨session, ordered⟩, unauthenticated⟩ := inOrder
  obtain ⟨events, grows, aside⟩ := steady.log
  refine ⟨⟨events ++ session, ordered.silent grows (fun event member => connection_of_aside (aside event member))
    steady.state⟩, steady.authenticated.trans unauthenticated⟩

/-! ## Connecting -/

section Connecting

variable (platform : Platform)

theorem Calm.mute {sign : CharSign} {topic : Bytes} {before after : Machine} (mute : Mute before after)
    (calm : Calm sign topic before) : Calm sign topic after :=
  ⟨(congrArg Impl.privateMessagesTopic mute.impl).trans calm.1, fun reply member => calm.2 reply (mute.reads member)⟩

theorem connectSession_safe {topic : Bytes} (cleanSession : Bool) :
    Safe (Calm platform.sign topic) (MqttTls.connectSession platform cleanSession) := by
  have safe {α : Type} {program : M α} (mute : Keeps Mute program) (throws : Throws (fun _ => False) program) :
      Safe (Calm platform.sign topic) program := mute.safe throws Calm.mute
  have done {result : Bool} : Safe (Calm platform.sign topic) (pure result : M Bool) := Triple.pure fun _ calm => calm
  refine Triple.bind (safe linkage_mute.isConnected isConnected_throws) fun _ => Triple.ite (fun _ => done) fun _ => ?_
  refine Triple.bind (safe tlsConnect_mute tlsConnect_throws) fun _ => ?_
  refine Triple.ite (fun _ => Triple.read fun _ => safe (linkage_mute.onError (.tlsConnect _ _)) (onError_throws _)) fun _ => ?_
  have connecting : Safe (Calm platform.sign topic) (MqttTls.mqttConnect platform cleanSession) := by
    refine Triple.read fun m => Triple.bind (mqttConnect_safe platform _ _) fun _ => ?_
    exact Triple.ite (fun _ => done) fun _ => safe (linkage_mute.onError .mqttConnect) (onError_throws _)
  refine Triple.bind connecting fun _ => Triple.ite (fun _ => ?_) fun _ => ?_
  · exact Triple.bind (safe (mqttTls_mute _) (Throws.modify _)) fun _ => done
  · exact Triple.bind (safe (mute_of_quiet (close_waits rfl)) close_throws) fun _ => done

theorem clientConnect_safe {topic : Bytes} : Safe (Calm platform.sign topic) (MqttTls.connect platform) := by
  have done {result : Bool} : Safe (Calm platform.sign topic) (pure result : M Bool) := Triple.pure fun _ calm => calm
  refine Triple.bind (connectSession_safe platform true) fun _ => Triple.ite (fun _ => done) fun _ => ?_
  refine Triple.read fun m => Triple.ite (fun _ => done) fun _ => ?_
  refine Triple.bind (linkage_mute.disconnect.safe clientDisconnect_throws Calm.mute) fun _ => ?_
  exact connectSession_safe platform false

def Unlinked (m : Machine) : Prop := m.mqtt.isconnected = false

theorem Unlinked.loose {before after : Machine} (loose : Loose before after) (unlinked : Unlinked before) :
    Unlinked after := by
  unfold Unlinked at unlinked ⊢
  cases connected : after.mqtt.isconnected with
  | false => rfl
  | true => exact (loose.isconnected connected).symm.trans unlinked

theorem mqttConnect_links (clientId : Bytes) (cleansession : Bool) :
    Triple Unlinked (Mqtt.connect platform clientId cleansession) (fun rc m => m.mqtt.isconnected = rc) Unlinked := by
  have keeps {α : Type} {program : M α} (loose : Keeps Loose program) : Preserves Unlinked program :=
    loose.preserves Unlinked.loose
  have waits {before after : Machine} (waits : Waits (fun _ => true) before after) (unlinked : Unlinked before) :
      Unlinked after := waits.isconnected.trans unlinked
  refine Triple.read fun m => Triple.bind (keeps (loose_of_quiet (startTimer_waits rfl))) fun timer => ?_
  refine Triple.read fun m => Triple.ite (fun _ => Triple.pure fun _ unlinked => unlinked) fun _ => ?_
  refine Triple.bind (keeps (mqtt_loose fun _ => id)) fun _ => ?_
  refine Triple.ite (fun _ => Triple.pure fun _ unlinked => unlinked) fun _ => ?_
  have sending : Keeps (Waits fun _ => true)
      (Mqtt.sendPacket (.sent (.connect clientId cleansession Mqtt.defaultKeepAlive)) timer) :=
    sendPacket_waits timer rfl rfl
  refine Triple.bind (sending.preserves waits) fun outcome => ?_
  refine Triple.ite (fun _ => Triple.pure fun _ unlinked => unlinked) fun _ => ?_
  refine Triple.bind (keeps (loose_of_passive (waitfor_waits platform _ _))) fun waited => ?_
  have answered : Preserves Unlinked (if waited.1 then Mqtt.readConnack else pure false) := by
    refine Triple.ite (fun _ => ?_) fun _ => Triple.pure fun _ unlinked => unlinked
    refine Triple.read fun m => Triple.bind (keeps (loose_of_quiet (ofExcept_waits _))) fun _ => ?_
    exact Triple.bind (Triple.modify fun _ unlinked => unlinked) fun _ => Triple.pure fun _ unlinked => unlinked
  refine Triple.bind answered fun accepted => Triple.bind (keeps (resend_loose platform _ _)) fun rc => ?_
  cases rc with
  | false =>
      have unchanged : Triple Unlinked (onlyIf false (Mqtt.update fun mqtt => { mqtt with isconnected := true }))
          (fun _ => Unlinked) Unlinked := Triple.pure fun _ unlinked => unlinked
      exact Triple.bind unchanged fun _ => Triple.pure fun _ unlinked => unlinked
  | true =>
      have linked : Triple Unlinked (onlyIf true (Mqtt.update fun mqtt => { mqtt with isconnected := true }))
          (fun _ m => m.mqtt.isconnected = true) Unlinked := Triple.modify fun _ _ => rfl
      exact Triple.bind linked fun _ => Triple.pure fun _ linked => linked

theorem close_closes {invariant faulty : Machine → Prop} (kept : Preserves invariant TlsConnection.close) :
    Triple invariant TlsConnection.close (fun _ m => invariant m ∧ m.tls.connected = false) faulty := by
  refine triple_of_returns ?_ close_throws
  intro before _ after given run
  refine ⟨kept.returns given run, ?_⟩
  rw [tlsClose_returns run]
  split
  · rfl
  · rename_i closed
    simpa using closed

def Settled (connected : Bool) (m : Machine) : Prop :=
  m.mqtt.isconnected = connected ∧ (connected = false → m.tls.connected = false)

theorem isConnected_settles {faulty : Machine → Prop} :
    Triple (fun _ => True) MqttTls.isConnected Settled faulty := by
  refine triple_of_returns ?_ isConnected_throws
  intro before connected after _ run
  have outcome := isConnected_returns run
  cases connected with
  | true =>
      obtain ⟨_, linked, rfl⟩ := outcome
      exact ⟨linked, by simp⟩
  | false =>
      obtain ⟨_, closed, mqtt, _⟩ := outcome
      refine ⟨?_, fun _ => closed⟩
      rw [mqtt]
      split
      · unfold Mqtt.ended
        split <;> rfl
      · rename_i unlinked
        simpa using unlinked

theorem connectSession_settles (cleanSession : Bool) :
    Triple (fun _ => True) (MqttTls.connectSession platform cleanSession) Settled Unlinked := by
  refine Triple.bind isConnected_settles fun connected => ?_
  cases connected with
  | true => exact Triple.pure fun _ settled => settled
  | false =>
      have trying : Triple (Settled false) TlsConnection.connect
          (fun reached m => Unlinked m ∧ (reached = false → m.tls.connected = false)) Unlinked := by
        refine triple_of_returns ?_ tlsConnect_throws
        rintro before reached after ⟨unlinked, closed⟩ run
        have unchanged := tlsConnect_returns (closed rfl) run
        refine ⟨by unfold Unlinked; rw [unchanged.1]; exact unlinked, ?_⟩
        rintro rfl
        exact tlsConnect_fails (closed rfl) run
      refine Triple.bind trying fun reached => ?_
      cases reached with
      | false =>
          have reporting (error : Bytes) :
              Triple (fun m => Unlinked m ∧ (false = false → m.tls.connected = false)) (MqttTls.onError error)
                Settled Unlinked := by
            refine triple_of_returns ?_ (onError_throws error)
            rintro before result after ⟨unlinked, closed⟩ run
            obtain ⟨rfl, same⟩ := onError_returns run
            rw [same]
            exact ⟨unlinked, closed⟩
          exact Triple.read fun m => reporting _
      | true =>
          have connecting : Triple (fun m => Unlinked m ∧ (true = false → m.tls.connected = false))
              (MqttTls.mqttConnect platform cleanSession) (fun accepted m => m.mqtt.isconnected = accepted) Unlinked := by
            refine Triple.read fun m => Triple.bind ((mqttConnect_links platform _ _).starting fun _ given => given.1) ?_
            intro rc
            cases rc with
            | true => exact Triple.pure fun _ linked => linked
            | false =>
                refine triple_of_returns ?_ (onError_throws _)
                intro before result after unlinked run
                obtain ⟨rfl, same⟩ := onError_returns run
                rw [same]
                exact unlinked
          refine Triple.bind connecting fun accepted => ?_
          cases accepted with
          | true =>
              refine Triple.bind (Triple.modify fun _ linked => ?_) fun _ => Triple.pure fun _ settled => settled
              exact ⟨linked, by simp⟩
          | false =>
              refine Triple.bind (close_closes ((loose_of_quiet (close_waits rfl)).preserves Unlinked.loose)) fun _ => ?_
              exact Triple.pure fun _ given => ⟨given.1, fun _ => given.2⟩

theorem clientConnect_settles : Triple (fun _ => True) (MqttTls.connect platform) Settled Unlinked := by
  refine Triple.bind (connectSession_settles platform true) fun connected => ?_
  cases connected with
  | false => exact Triple.pure fun _ settled => settled
  | true =>
      refine Triple.read fun m => Triple.ite (fun _ => Triple.pure fun _ settled => settled) fun _ => ?_
      have left : Triple (Settled true) MqttTls.disconnect (fun _ _ => True) Unlinked := by
        refine triple_of_returns ?_ clientDisconnect_throws
        exact fun _ _ => trivial
      exact Triple.bind left fun _ => connectSession_settles platform false

theorem restore_links (topics : List Bytes) :
    Yields (fun m => m.mqtt.isconnected = true) (Client.restore platform topics) fun restored m =>
      m.mqtt.isconnected = restored := by
  induction topics with
  | nil => exact Triple.pure fun _ linked => linked
  | cons filter rest ih =>
      have subscribing : Yields (fun m => m.mqtt.isconnected = true) (MqttTls.subscribe platform filter)
          fun granted m => m.mqtt.isconnected = granted := by
        apply yields_of_returns
        intro before granted after _ run
        unfold MqttTls.subscribe at run
        rw [run_get_bind] at run
        obtain ⟨rc, between, requesting, run⟩ := run_bind_eq_ok.mp run
        have linked := ((request_connection platform (readSuback_waits platform) _ _).returns ⟨rfl, rfl⟩ requesting).2
        cases rc with
        | true =>
            obtain ⟨rfl, rfl⟩ := run_pure_eq_ok.mp run
            exact linked
        | false =>
            obtain ⟨rfl, same⟩ := onError_returns run
            rw [same]
            exact linked
      refine Triple.bind subscribing fun granted => ?_
      cases granted with
      | true => exact ih
      | false =>
          have reporting : Yields Unlinked Client.reportClientError fun _ => Unlinked :=
            (loose_of_steady reportClientError_steady).yields Unlinked.loose
          exact Triple.bind reporting fun _ => Triple.pure fun _ unlinked => unlinked

end Connecting

/-! ## The session through a call -/

def Prepared (base : List Event) (m : Machine) : Prop :=
  (∃ session, Ordered base session m ∧ AuthenticatedLast session) ∧ m.impl.authenticated = false

theorem Prepared.inOrder {base : List Event} {m : Machine} (prepared : Prepared base m) : InOrder base m := by
  obtain ⟨⟨session, ordered, _⟩, unauthenticated⟩ := prepared
  exact ⟨⟨session, ordered⟩, unauthenticated⟩

theorem Prepared.mute {base : List Event} {before after : Machine} (mute : Mute before after)
    (prepared : Prepared base before) : Prepared base after := by
  obtain ⟨⟨session, ordered, last⟩, unauthenticated⟩ := prepared
  obtain ⟨events, grows, silent⟩ := mute.log
  refine ⟨⟨events ++ session, ordered.silent grows silent (by rw [mute.impl]), authenticatedLast_append silent last⟩, ?_⟩
  rw [mute.impl]
  exact unauthenticated

structure Down (base : List Event) (m : Machine) : Prop where
  inOrder : InOrder base m
  state : m.impl.state = .disconnected
  unlinked : Unlinked m

structure Begun (base : List Event) (m : Machine) : Prop where
  inOrder : InOrder base m
  state : m.impl.state = .initial
  subscriptions : m.impl.subscriptions = []
  closed : m.tls.connected = false

structure Sound (base : List Event) (m : Machine) : Prop where
  inOrder : InOrder base m
  unlinked : m.impl.state = .disconnected → Unlinked m
  idle : m.impl.state = .noSession ∨ m.impl.state = .initial → m.impl.subscriptions = [] ∧ m.tls.connected = false

theorem closed_of_steady {before after : Machine} (steady : Steady before after) (closed : before.tls.connected = false) :
    after.tls.connected = false := by
  cases connected : after.tls.connected with
  | false => rfl
  | true => exact (steady.connected connected).symm.trans closed

theorem Down.steady {base : List Event} {before after : Machine} (steady : Steady before after)
    (down : Down base before) : Down base after :=
  ⟨down.inOrder.steady steady, steady.state.trans down.state, steady.isconnected.trans down.unlinked⟩

theorem Begun.steady {base : List Event} {before after : Machine} (steady : Steady before after)
    (begun : Begun base before) : Begun base after :=
  ⟨begun.inOrder.steady steady, steady.state.trans begun.state, steady.subscriptions.trans begun.subscriptions,
    closed_of_steady steady begun.closed⟩

theorem Sound.steady {base : List Event} {before after : Machine} (steady : Steady before after)
    (sound : Sound base before) : Sound base after := by
  refine ⟨sound.inOrder.steady steady, ?_, ?_⟩
  · rw [steady.state]
    exact fun lost => steady.isconnected.trans (sound.unlinked lost)
  · rw [steady.state, steady.subscriptions]
    exact fun idle => ⟨(sound.idle idle).1, closed_of_steady steady (sound.idle idle).2⟩

theorem Down.sound {base : List Event} {m : Machine} (down : Down base m) : Sound base m := by
  refine ⟨down.inOrder, fun _ => down.unlinked, ?_⟩
  rw [down.state]
  simp

theorem Begun.sound {base : List Event} {m : Machine} (begun : Begun base m) : Sound base m := by
  refine ⟨begun.inOrder, ?_, fun _ => ⟨begun.subscriptions, begun.closed⟩⟩
  rw [begun.state]
  simp

theorem sound_of_connected {base : List Event} {m : Machine} (inOrder : InOrder base m)
    (connected : m.impl.state = .connected) : Sound base m := by
  refine ⟨inOrder, ?_, ?_⟩ <;> rw [connected] <;> simp

section Call

variable (platform : Platform) {base : List Event} {topic : Bytes}

theorem authenticated_prepares {faulty : Machine → Prop} :
    Triple (InOrder base) (notify .onAuthenticated) (fun _ => Prepared base) faulty := by
  refine Triple.modify fun m inOrder => ?_
  obtain ⟨⟨session, ordered⟩, unauthenticated⟩ := inOrder
  have noted : Ordered base ([.callback .onAuthenticated] ++ session)
      { m with log := .callback .onAuthenticated :: m.log } := ordered.silent rfl (by simp [Event.connection]) rfl
  exact ⟨⟨_, noted, trivial⟩, unauthenticated⟩

theorem authenticate_prepares :
    Triple (InOrder base) (Client.authenticate platform) (fun ok m => InOrder base m ∧ (ok = true → Prepared base m))
      (InOrder base) := by
  have keeps {α : Type} {program : M α} (steady : Keeps Steady program) : Preserves (InOrder base) program :=
    steady.preserves InOrder.steady
  have kept {change : Impl → Impl} (state : ∀ impl, (change impl).state = impl.state)
      (authenticated : ∀ impl, (change impl).authenticated = impl.authenticated) :
      Preserves (InOrder base) (Client.update change) := by
    refine Triple.modify fun m inOrder => ?_
    obtain ⟨⟨session, ordered⟩, unauthenticated⟩ := inOrder
    refine ⟨⟨session, ordered.log, ordered.alternates, ?_, ordered.authenticated⟩, (authenticated _).trans unauthenticated⟩
    exact (state m.impl) ▸ ordered.connected
  apply Triple.get
  rintro read
  apply Triple.ite
  · rintro authenticated m ⟨rfl, _, unauthenticated⟩
    rw [unauthenticated] at authenticated
    cases authenticated
  intro _
  have from' {program : M Bool} {handler : Fault → M Bool}
      (first : Triple (InOrder base) program (fun ok m => InOrder base m ∧ (ok = true → Prepared base m)) (InOrder base))
      (second : ∀ fault, Triple (InOrder base) (handler fault)
        (fun ok m => InOrder base m ∧ (ok = true → Prepared base m)) (InOrder base)) :
      Triple (fun m => m = read ∧ InOrder base m) (tryCatch program handler)
        (fun ok m => InOrder base m ∧ (ok = true → Prepared base m)) (InOrder base) :=
    (Triple.tryCatch first second).starting fun _ given => given.2
  refine from' ?_ fun fault => ?_
  · refine Triple.bind (kept (fun _ => rfl) fun _ => rfl) fun _ => ?_
    refine Triple.read fun _ => Triple.bind (keeps (mpinAuthenticate_steady platform _ _)) fun result => ?_
    have renewed : Preserves (InOrder base) (result.newIdentity.forM fun newIdentity => do
        Client.update fun impl => { impl with conf := { impl.conf with identity := newIdentity } }
        notify (.onIdentityChanged newIdentity)) := by
      cases result.newIdentity with
      | none => exact Triple.pure fun _ given => given
      | some newIdentity =>
          exact Triple.bind (kept (fun _ => rfl) fun _ => rfl) fun _ => keeps (emit_steady rfl)
    refine Triple.bind renewed fun _ => Triple.bind ((mqttTls_mute _).preserves InOrder.mute) fun _ => ?_
    exact Triple.bind authenticated_prepares fun _ => Triple.pure fun _ prepared => ⟨prepared.inOrder, fun _ => prepared⟩
  · cases fault with
    | iot what =>
        refine Triple.bind (kept (fun _ => rfl) fun _ => rfl) fun _ => Triple.pure fun _ inOrder => ⟨inOrder, ?_⟩
        intro impossible
        cases impossible
    | _ => exact Triple.throw fun _ inOrder => inOrder

theorem restore_mute (topics : List Bytes) : Keeps Mute (Client.restore platform topics) := by
  induction topics with
  | nil => exact Keeps.pure _
  | cons filter rest ih =>
      refine Keeps.bind ((mechanics_mute platform).subscribe filter) fun _ => Keeps.ite (fun _ => ih) fun _ => ?_
      exact Keeps.bind (Keeps.bind Keeps.get fun _ => emit_mute rfl) fun _ => Keeps.pure _

structure Resuming (base : List Event) (sign : CharSign) (topic : Bytes) (state : State) (m : Machine) : Prop where
  prepared : Prepared base m
  state : m.impl.state = state
  calm : Calm sign topic m

theorem Resuming.mute {sign : CharSign} {state : State} {before after : Machine} (mute : Mute before after)
    (resuming : Resuming base sign topic state before) : Resuming base sign topic state after :=
  ⟨resuming.prepared.mute mute, (congrArg Impl.state mute.impl).trans resuming.state, resuming.calm.mute mute⟩

theorem reconnect_sound :
    Triple (fun m => Down base m ∧ Calm platform.sign topic m) (Client.reconnect platform)
      (fun ok m => if ok then Prepared base m ∧ m.impl.state = .disconnected else Down base m) (Down base) := by
  have kept {before after : Machine} (steady : Steady before after)
      (given : Down base before ∧ Calm platform.sign topic before) : Down base after ∧ Calm platform.sign topic after :=
    ⟨given.1.steady steady, given.2.steady steady⟩
  refine Triple.bind (((authenticate_prepares platform).keeping (authenticate_steady platform) kept).weaken
    (fun _ given => ⟨given.1.inOrder, given⟩) (fun _ _ given => given) fun _ given => given.2.1) fun authenticated => ?_
  cases authenticated with
  | false => exact Triple.pure fun _ given => given.2.1
  | true =>
      have resuming : Triple (fun m => (InOrder base m ∧ (true = true → Prepared base m)) ∧ Down base m ∧
            Calm platform.sign topic m) (MqttTls.reconnect platform)
          (fun connected m => Settled connected m ∧ Resuming base platform.sign topic .disconnected m) (Down base) := by
        refine Triple.read fun m => ((connectSession_settles platform _).keeping ((mechanics_mute platform).connectSession _)
          Resuming.mute).weaken ?_ (fun _ _ given => given) ?_
        · rintro m ⟨⟨_, prepared⟩, down, calm⟩
          exact ⟨trivial, prepared rfl, down.state, calm⟩
        · rintro m ⟨unlinked, resuming⟩
          exact ⟨resuming.prepared.inOrder, resuming.state, unlinked⟩
      refine Triple.bind resuming fun connected => ?_
      cases connected with
      | false =>
          refine Triple.pure fun m given => ?_
          exact ⟨given.2.prepared.inOrder, given.2.state, given.1.1⟩
      | true =>
          refine Triple.read fun m => Triple.ite (fun _ => ?_) fun _ => Triple.read fun m => ?_
          · exact Triple.pure fun m given => ⟨given.2.prepared, given.2.state⟩
          · have safe : Safe (Calm platform.sign topic) (Client.restore platform m.impl.subscriptions) :=
              restore_safe platform _
            have kept {before after : Machine} (mute : Mute before after)
                (resuming : Resuming base platform.sign topic .disconnected before) :
                Resuming base platform.sign topic .disconnected after := resuming.mute mute
            have restoring := ((restore_links platform _).and safe).keeping (restore_mute platform _) kept
            refine restoring.weaken ?_ ?_ fun _ impossible => impossible.1.2.elim
            · exact fun _ given => ⟨⟨given.1.1, given.2.calm⟩, given.2⟩
            · intro restored m given
              cases restored with
              | true => exact ⟨given.2.prepared, given.2.state⟩
              | false => exact ⟨given.2.prepared.inOrder, given.2.state, given.1.1⟩

theorem reportConnected_sound {state : State} (unconnected : state ≠ .connected) {faulty : Machine → Prop} :
    Triple (fun m => Prepared base m ∧ m.impl.state = state) Client.reportConnected
      (fun connected m => connected = true ∧ InOrder base m ∧ m.impl.state = .connected) faulty := by
  rintro m ⟨⟨⟨session, ordered, last⟩, unauthenticated⟩, rfl⟩
  have lost := mt ordered.connected.mpr unconnected
  have noted : Ordered base (.callback .onConnected :: session)
      { m with impl := { m.impl with state := .connected }, log := .callback .onConnected :: m.log } := by
    refine ⟨congrArg _ ordered.log, ?_, iff_of_true rfl rfl, last, ordered.authenticated⟩
    exact alternates_connected ordered.alternates lost
  exact ⟨rfl, ⟨⟨_, noted⟩, unauthenticated⟩, rfl⟩

structure Live (base : List Event) (sign : CharSign) (topic : Bytes) (m : Machine) : Prop where
  sound : Sound base m
  calm : Calm sign topic m
  state : m.impl.state = .connected ∨ m.impl.state = .disconnected

theorem Live.muteLoose {sign : CharSign} {before after : Machine} (both : Mute before after ∧ Loose before after)
    (live : Live base sign topic before) : Live base sign topic after := by
  obtain ⟨mute, loose⟩ := both
  obtain ⟨sound, calm, state⟩ := live
  refine ⟨⟨sound.inOrder.mute mute, ?_, ?_⟩, calm.mute mute, by rwa [loose.state]⟩
  · rw [loose.state]
    exact fun lost => (sound.unlinked lost).loose loose
  · rw [loose.state]
    intro idle
    rcases state with state | state <;> rw [state] at idle <;> simp at idle

theorem reportLost_sound {sign : CharSign} {faulty : Machine → Prop} :
    Triple (fun m => (InOrder base m ∧ Calm sign topic m) ∧ m.impl.state = .connected ∧ Unlinked m) Client.reportLost
      (fun _ m => Down base m ∧ Calm sign topic m) faulty := by
  rintro m ⟨⟨⟨⟨session, ordered⟩, unauthenticated⟩, calm⟩, connected, unlinked⟩
  have noted (error : Bytes) : Ordered base (.callback (.onConnectionLost error) :: session)
      { m with
        impl := { m.impl with state := .disconnected }
        log := .callback (.onConnectionLost error) :: m.log } := by
    refine ⟨congrArg _ ordered.log, ?_, iff_of_false nofun nofun, ordered.authenticated⟩
    exact alternates_lost ordered.alternates (ordered.connected.mp connected)
  exact ⟨⟨⟨⟨_, noted _⟩, unauthenticated⟩, rfl, unlinked⟩, calm⟩

def Checked (base : List Event) (ok : Bool) (m : Machine) : Prop :=
  Sound base m ∧ (ok = true → m.impl.state = .connected)

theorem checkConnection_sound :
    Triple (Live base platform.sign topic) (Client.checkConnection platform) (Checked base) (Sound base) := by
  have looking : Triple (Live base platform.sign topic) MqttTls.isConnected
      (fun connected m => Settled connected m ∧ Live base platform.sign topic m) (Sound base) :=
    ((@isConnected_settles fun _ => False).keeping (linkage_mute.isConnected.and isConnected_loose) Live.muteLoose).weaken
      (fun _ live => ⟨trivial, live⟩) (fun _ _ given => given) fun _ impossible => impossible.1.elim
  refine Triple.bind looking fun connected => ?_
  cases connected with
  | true =>
      refine Triple.get fun read => Triple.pure ?_
      rintro m ⟨rfl, given⟩
      exact ⟨given.2.sound, fun connected => of_decide_eq_true connected⟩
  | false =>
      have lost (read : Machine) :
          Triple (fun m => m = read ∧ Settled false m ∧ Live base platform.sign topic m)
            (onlyIf (read.impl.state = .connected) Client.reportLost)
            (fun _ m => Down base m ∧ Calm platform.sign topic m) (Sound base) := by
        refine Triple.ite (fun connected => ?_) fun unconnected => Triple.pure ?_
        · refine reportLost_sound.starting ?_
          rintro m ⟨rfl, settled, live⟩
          exact ⟨⟨live.sound.inOrder, live.calm⟩, of_decide_eq_true connected, settled.1⟩
        · rintro m ⟨rfl, settled, live⟩
          have lost := live.state.resolve_left fun connected => unconnected (decide_eq_true connected)
          exact ⟨⟨live.sound.inOrder, lost, settled.1⟩, live.calm⟩
      refine Triple.get fun read => Triple.bind (lost read) fun _ => ?_
      refine Triple.bind ((reconnect_sound platform).weaken (fun _ given => given) (fun _ _ given => given)
        fun _ down => down.sound) fun reconnected => ?_
      cases reconnected with
      | true =>
          refine (reportConnected_sound (by simp)).weaken (fun _ given => given) ?_ fun _ given => given
          exact fun _ _ given => ⟨sound_of_connected given.2.1 given.2.2, fun _ => given.2.2⟩
      | false =>
          refine Triple.bind ((reportLastError_steady.preserves Down.steady).weaken (fun _ given => given)
            (fun _ _ given => given) fun _ down => down.sound) fun _ => Triple.get fun read => Triple.pure ?_
          rintro m ⟨rfl, down⟩
          exact ⟨down.sound, fun connected => of_decide_eq_true connected⟩

theorem initialConnect_sound :
    Triple (fun m => Begun base m ∧ Calm platform.sign topic m) (Client.initialConnect platform)
      (fun ok m => if ok then Prepared base m ∧ m.impl.state = .initial else Begun base m) (Begun base) := by
  have kept {before after : Machine} (steady : Steady before after)
      (given : Begun base before ∧ Calm platform.sign topic before) : Begun base after ∧ Calm platform.sign topic after :=
    ⟨given.1.steady steady, given.2.steady steady⟩
  refine Triple.bind (((authenticate_prepares platform).keeping (authenticate_steady platform) kept).weaken
    (fun _ given => ⟨given.1.inOrder, given⟩) (fun _ _ given => given) fun _ given => given.2.1) fun authenticated => ?_
  cases authenticated with
  | false => exact Triple.pure fun _ given => given.2.1
  | true =>
      have safe : Safe (Calm platform.sign topic) (MqttTls.connect platform) := clientConnect_safe platform
      have kept {before after : Machine} (mute : Mute before after)
          (given : Resuming base platform.sign topic .initial before ∧ before.impl.subscriptions = []) :
          Resuming base platform.sign topic .initial after ∧ after.impl.subscriptions = [] :=
        ⟨given.1.mute mute, (congrArg Impl.subscriptions mute.impl).trans given.2⟩
      refine (((clientConnect_settles platform).and safe).keeping ((mechanics_mute platform).connect) kept).weaken ?_ ?_
        fun _ impossible => impossible.1.2.elim
      · rintro m ⟨⟨_, prepared⟩, begun, calm⟩
        exact ⟨⟨trivial, calm⟩, ⟨prepared rfl, begun.state, calm⟩, begun.subscriptions⟩
      · rintro connected m ⟨⟨settled, _⟩, resuming, empty⟩
        cases connected with
        | true => exact ⟨resuming.prepared, resuming.state⟩
        | false => exact ⟨resuming.prepared.inOrder, resuming.state, empty, settled.2 rfl⟩

structure Fit (base : List Event) (sign : CharSign) (topic : Bytes) (m : Machine) : Prop where
  sound : Sound base m
  calm : m.impl.state ≠ .noSession → Calm sign topic m

theorem Fit.steady {sign : CharSign} {before after : Machine} (steady : Steady before after)
    (fit : Fit base sign topic before) : Fit base sign topic after := by
  refine ⟨fit.sound.steady steady, ?_⟩
  rw [steady.state]
  exact fun session => (fit.calm session).steady steady

theorem checkState_sound :
    Triple (Fit base platform.sign topic) (Client.checkState platform) (Checked base) (Sound base) := by
  have live {read : Machine} (state : read.impl.state = .connected ∨ read.impl.state = .disconnected) :
      Triple (fun m => m = read ∧ Fit base platform.sign topic m) (Client.checkConnection platform)
        (Checked base) (Sound base) := by
    rintro m ⟨rfl, fit⟩
    refine checkConnection_sound platform m ⟨fit.sound, fit.calm fun none => ?_, state⟩
    rcases state with state | state <;> rw [none] at state <;> cases state
  refine Triple.get fun read => ?_
  cases state : read.impl.state with
  | noSession =>
      have reporting (error : Bytes) : Preserves (Sound base) (notify (.onError error)) :=
        (emit_steady rfl).preserves Sound.steady
      refine Triple.bind ((reporting _).starting fun _ given => given.2.sound) fun _ => Triple.pure fun _ sound => ?_
      exact ⟨sound, by simp⟩
  | initial =>
      have connecting : Triple (fun m => m = read ∧ Fit base platform.sign topic m) (Client.initialConnect platform)
          (fun ok m => if ok then Prepared base m ∧ m.impl.state = .initial else Begun base m) (Sound base) := by
        have begun (m : Machine) (given : m = read ∧ Fit base platform.sign topic m) :
            Begun base m ∧ Calm platform.sign topic m := by
          obtain ⟨rfl, sound, calm⟩ := given
          have idle := sound.idle (.inr state)
          exact ⟨⟨sound.inOrder, state, idle.1, idle.2⟩, calm (by simp [state])⟩
        exact (initialConnect_sound platform).weaken begun (fun _ _ given => given) fun _ begun => begun.sound
      refine Triple.bind connecting fun connected => ?_
      cases connected with
      | true =>
          refine (reportConnected_sound (by simp)).weaken (fun _ given => given) ?_ fun _ given => given
          exact fun _ _ given => ⟨sound_of_connected given.2.1 given.2.2, fun _ => given.2.2⟩
      | false =>
          refine Triple.bind ((reportLastError_steady.preserves Begun.steady).weaken (fun _ given => given)
            (fun _ _ given => given) fun _ begun => begun.sound) fun _ => Triple.pure fun m begun => ?_
          exact ⟨begun.sound, by simp⟩
  | connected => exact live (.inl state)
  | disconnected => exact live (.inr state)

theorem command_sound {action : M Bool} (mute : Keeps Mute action) {success : Impl → Impl}
    (state : ∀ impl, (success impl).state = impl.state)
    (authenticated : ∀ impl, (success impl).authenticated = impl.authenticated) :
    Triple (Fit base platform.sign topic) (Client.command platform action success) (fun _ => Sound base)
      (Sound base) := by
  refine Triple.bind (checkState_sound platform) fun ok => ?_
  cases ok with
  | false => exact Triple.pure fun _ checked => checked.1
  | true =>
      have kept {before after : Machine} (mute : Mute before after)
          (given : InOrder base before ∧ before.impl.state = .connected) :
          InOrder base after ∧ after.impl.state = .connected :=
        ⟨given.1.mute mute, (congrArg Impl.state mute.impl).trans given.2⟩
      refine Triple.bind ((mute.preserves kept).weaken (fun _ checked => ⟨checked.1.inOrder, checked.2 rfl⟩)
        (fun _ _ given => given) fun _ given => sound_of_connected given.1 given.2) fun done => ?_
      cases done with
      | false =>
          refine Triple.bind ((reportClientError_steady.preserves Sound.steady).starting fun _ given =>
            sound_of_connected given.1 given.2) fun _ => Triple.pure fun _ sound => sound
      | true =>
          refine Triple.bind (Triple.modify fun m given => ?_) fun _ => Triple.pure fun _ sound => sound
          obtain ⟨⟨⟨session, ordered⟩, unauthenticated⟩, connected⟩ := given
          refine sound_of_connected ⟨⟨session, ordered.log, ordered.alternates, ?_, ordered.authenticated⟩, ?_⟩ ?_
          · exact (state m.impl) ▸ ordered.connected
          · exact (authenticated m.impl).trans unauthenticated
          · exact (state m.impl).trans connected

theorem publish_sound (filter payload : Bytes) :
    Triple (Fit base platform.sign topic) (Client.publish platform filter payload) (fun _ => Sound base) (Sound base) :=
  command_sound platform ((mechanics_mute platform).publish filter payload) (fun _ => rfl) fun _ => rfl

theorem subscribe_sound (filter : Bytes) :
    Triple (Fit base platform.sign topic) (Client.subscribe platform filter) (fun _ => Sound base) (Sound base) :=
  command_sound platform ((mechanics_mute platform).subscribe filter) (fun _ => rfl) fun _ => rfl

theorem sendPrivateMessage_sound (userIdTo payload : Bytes) (encrypt : Bool) :
    Triple (Fit base platform.sign topic) (Client.sendPrivateMessage platform userIdTo payload encrypt)
      (fun _ => Sound base) (Sound base) := by
  have kept {α : Type} {program : M α} (steady : Keeps Steady program) :
      Triple (Fit base platform.sign topic) program (fun _ => Fit base platform.sign topic) (Sound base) :=
    (steady.preserves Fit.steady).weaken (fun _ given => given) (fun _ _ given => given) fun _ fit => fit.sound
  have seeded : Keeps Steady (if encrypt then nextIv else pure none) :=
    Keeps.ite (fun _ => reply_steady (fun _ => rfl) fun _ => List.Subset.refl _) fun _ => Keeps.pure _
  refine Triple.tryCatch (Triple.bind (kept seeded) fun random => Triple.read fun m => ?_) fun fault => ?_
  · exact Triple.bind (kept (ofExcept_steady _)) fun text => publish_sound platform _ text
  · cases fault with
    | iot what =>
        exact Triple.bind ((emit_steady rfl).preserves Sound.steady) fun _ => Triple.pure fun _ sound => sound
    | _ => exact Triple.throw fun _ sound => sound

/-! ## Sessions -/

theorem startSession_started (platform : Platform) {m : Machine} (started : m.impl.state ≠ .noSession) :
    Client.perform platform .startSession m = .ok true m := by
  refine run_bind_eq_ok.mpr ⟨⟨⟩, m, ?_, rfl⟩
  unfold Client.startSession
  rw [run_get_bind, if_neg started]
  rfl

section NoSession

variable (platform : Platform) {invariant : Machine → Prop}
  (refuses : Preserves invariant (notify (.onError (bytes "No session started"))))
include refuses

theorem command_noSession (action : M Bool) (success : Impl → Impl) :
    Triple (fun m => invariant m ∧ m.impl.state = .noSession) (Client.command platform action success)
      (fun _ => invariant) invariant := by
  rintro m ⟨given, state⟩
  have checking : Client.checkState platform m = .ok false
      { m with log := .callback (.onError (bytes "No session started")) :: m.log } := by
    unfold Client.checkState
    rw [run_get_bind, state]
    rfl
  unfold Client.command
  rw [run_bind_ok checking]
  exact refuses m given

theorem sendPrivateMessage_noSession
    (unsent : ∀ what, Preserves invariant (notify (.onError (bytes "Failed to serialize private message: " ++ what))))
    (draws : Preserves invariant nextIv) (userIdTo payload : Bytes) (encrypt : Bool) :
    Triple (fun m => invariant m ∧ m.impl.state = .noSession)
      (Client.sendPrivateMessage platform userIdTo payload encrypt) (fun _ => invariant) invariant := by
  have drawing : Triple (fun m => invariant m ∧ m.impl.state = .noSession) nextIv
      (fun _ m => invariant m ∧ m.impl.state = .noSession) invariant := by
    rintro m ⟨given, state⟩
    exact ⟨draws m given, state⟩
  have serializing (result : Except Fault Bytes) : Triple (fun m => invariant m ∧ m.impl.state = .noSession)
      (M.ofExcept result) (fun _ m => invariant m ∧ m.impl.state = .noSession) invariant := by
    intro m given
    cases result with
    | ok text => exact given
    | error fault => exact given.1
  refine @Triple.tryCatch _ _ _ _ _ _ _ _ invariant ?_ fun fault => ?_
  · refine Triple.bind (Triple.ite (fun _ => drawing) fun _ => Triple.pure fun _ given => given) fun random => ?_
    exact Triple.read fun read => Triple.bind (serializing _) fun text => command_noSession platform refuses _ _
  · cases fault with
    | iot what => exact Triple.bind (unsent _) fun _ => Triple.pure fun _ given => given
    | _ => exact Triple.throw fun _ given => given

end NoSession

theorem endSession_noSession {m : Machine} (state : m.impl.state = .noSession) : Client.endSession m = .ok ⟨⟩ m := by
  unfold Client.endSession
  rw [run_get_bind, if_pos state]
  rfl

theorem prepare_eq (conf : Config) (userId : Bytes) (m : Machine) :
    Client.prepare conf userId m = .ok () { m with
      impl := { m.impl with
        userId := userId, privateMessagesTopic := getPrivateMessageTopic userId, state := .initial }
      tls := { m.tls with
        host := (addr conf.mqttTlsBrokerAddr Client.defaultMqttTlsPort).1
        port := (addr conf.mqttTlsBrokerAddr Client.defaultMqttTlsPort).2 }
      mqtt := { m.mqtt with
        commandTimeout := if conf.mqttCommandTimeoutMillisec > 0 then conf.mqttCommandTimeoutMillisec
          else m.mqtt.commandTimeout }
      mqttTls := { m.mqttTls with
        clientId := userId
        qos := if conf.useMqttQoS2 then .qos2 else .qos1
        usePersistentSession := conf.useMqttPersistentSession } } := by
  unfold Client.prepare
  by_cases timed : conf.mqttCommandTimeoutMillisec > 0
  · simp only [timed, if_true]
    rfl
  · simp only [timed, if_false]
    rfl

theorem noSession_sound {m : Machine} (state : m.impl.state = .noSession) (unauthenticated : m.impl.authenticated = false)
    (empty : m.impl.subscriptions = []) (closed : m.tls.connected = false) : Sound m.log m := by
  refine ⟨⟨⟨[], rfl, trivial, ?_, trivial⟩, unauthenticated⟩, ?_, fun _ => ⟨empty, closed⟩⟩ <;> rw [state] <;> simp

theorem Machine.ownTopic_noSession {sign : CharSign} {userId : Bytes} (m : Machine) (state : m.impl.state = .noSession)
    (identified : m.impl.conf.identity.getUserId sign = .ok userId) : m.ownTopic sign = getPrivateMessageTopic userId := by
  unfold ownTopic
  rw [state, identified]

theorem Machine.ownTopic_started {sign : CharSign} (m : Machine) (started : m.impl.state ≠ .noSession) :
    m.ownTopic sign = m.impl.privateMessagesTopic := by
  unfold ownTopic
  split
  · exact absurd ‹_› started
  · rfl

theorem prepare_begins {m : Machine} {userId : Bytes} (sound : Sound base m) (digests : m.Digests platform.sign)
    (state : m.impl.state = .noSession) (identified : m.impl.conf.identity.getUserId platform.sign = .ok userId)
    {faulty : Machine → Prop} :
    Triple (fun s => s = m) (Client.prepare m.impl.conf userId)
      (fun _ => Fit m.log platform.sign (getPrivateMessageTopic userId)) faulty := by
  rintro s rfl
  rw [prepare_eq]
  have idle := sound.idle (.inl state)
  -- the private topic set here is the one the packets to come are digestible for
  have own := s.ownTopic_noSession state identified
  refine ⟨Begun.sound ⟨⟨⟨[], rfl, trivial, ?_, trivial⟩, sound.inOrder.2⟩, rfl, idle.1, idle.2⟩, fun _ => ⟨rfl, ?_⟩⟩
  · exact iff_of_false nofun nofun
  · exact own ▸ digests

theorem startSession_sound {m : Machine} (sound : Sound base m) (digests : m.Digests platform.sign)
    (state : m.impl.state = .noSession) :
    Triple (fun s => s = m) (Client.startSession platform) (fun _ => Sound m.log) (Sound m.log) := by
  have idle := sound.idle (.inl state)
  have identifying : Triple (fun s => s = m) (M.ofExcept (m.impl.conf.identity.getUserId platform.sign))
      (fun userId s => s = m ∧ m.impl.conf.identity.getUserId platform.sign = .ok userId) (Sound m.log) := by
    cases m.impl.conf.identity.getUserId platform.sign with
    | ok userId => exact Triple.pure fun s same => ⟨same, rfl⟩
    | error fault =>
        refine Triple.throw ?_
        rintro _ rfl
        exact noSession_sound state sound.inOrder.2 idle.1 idle.2
  refine Triple.get fun read => Triple.ite (fun _ => Triple.get fun conf => ?_) fun other => ?_
  · rintro s ⟨rfl, rfl, rfl⟩
    refine Triple.bind identifying (fun userId => ?_) s rfl
    have preparing {faulty : Machine → Prop} : Triple
        (fun between => between = s ∧ s.impl.conf.identity.getUserId platform.sign = .ok userId)
        (Client.prepare s.impl.conf userId) (fun _ => Fit s.log platform.sign (getPrivateMessageTopic userId)) faulty := by
      rintro between ⟨same, identified⟩
      exact prepare_begins platform sound digests state identified between same
    refine Triple.bind preparing fun _ => Triple.bind (checkState_sound platform) fun _ => ?_
    exact Triple.pure fun _ checked => checked.1
  · rintro s ⟨rfl, rfl⟩
    exact absurd state other

theorem endSession_sound : Triple (Sound base) Client.endSession (fun _ m => Sound m.log m) (fun _ => False) := by
  refine Triple.get fun read => Triple.ite (fun state => Triple.pure ?_) fun _ => ?_
  · rintro m ⟨rfl, sound⟩
    have idle := sound.idle (.inl state)
    exact noSession_sound state sound.inOrder.2 idle.1 idle.2
  · have kept {before after : Machine} (mute : Mute before after) (given : before.impl.authenticated = false) :
        after.impl.authenticated = false := (congrArg Impl.authenticated mute.impl).trans given
    have leaving : Triple (fun m => m = read ∧ Sound base m) MqttTls.disconnect
        (fun _ m => m.impl.authenticated = false ∧ m.tls.connected = false) (fun _ => False) := by
      refine Triple.read fun m => Triple.bind (((onlyIf_keeps fun _ => linkage_mute.mqttDisconnect).safe
        (onlyIf_throws mqttDisconnect_throws) kept).starting fun _ given => given.2.inOrder.2) fun _ => ?_
      refine Triple.bind (close_closes ((mute_of_quiet (close_waits rfl)).preserves kept)) fun _ => ?_
      exact Triple.modify fun _ given => given
    refine Triple.bind leaving fun _ => Triple.modify fun m given => ?_
    exact noSession_sound rfl given.1 rfl given.2

theorem isConnected_sound : Preserves (Sound base) MqttTls.isConnected := by
  refine triple_of_returns ?_ isConnected_throws
  intro before connected after sound run
  have loose := isConnected_loose.returns run
  refine ⟨sound.inOrder.mute (linkage_mute.isConnected.returns run), ?_, ?_⟩
  · rw [loose.state]
    exact fun lost => (sound.unlinked lost).loose loose
  · rw [loose.state, loose.subscriptions]
    refine fun idle => ⟨(sound.idle idle).1, ?_⟩
    have outcome := isConnected_returns run
    cases connected with
    | true =>
        obtain ⟨_, _, rfl⟩ := outcome
        exact (sound.idle idle).2
    | false => exact outcome.2.1

theorem configure_sound (conf : Config) : Preserves (Sound base) (Client.configure conf) := by
  refine Triple.modify fun m sound => ⟨⟨?_, sound.inOrder.2⟩, sound.unlinked, sound.idle⟩
  obtain ⟨session, ordered⟩ := sound.inOrder.1
  exact ⟨session, ordered.log, ordered.alternates, ordered.connected, ordered.authenticated⟩

end Call

/-! ## The log of a call -/

def Grows (before after : Machine) : Prop := ∃ events, after.log = events ++ before.log

instance : Following Grows where
  refl m := ⟨[], rfl⟩
  trans first second := by
    obtain ⟨older, grows⟩ := first
    obtain ⟨newer, grows'⟩ := second
    exact ⟨newer ++ older, by rw [grows', grows, List.append_assoc]⟩

section Grows

theorem grows_of_steady {α : Type} {program : M α} (steady : Keeps Steady program) : Keeps Grows program :=
  steady.mono fun steady => let ⟨events, grows, _⟩ := steady.log; ⟨events, grows⟩

theorem grows_of_mute {α : Type} {program : M α} (mute : Keeps Mute program) : Keeps Grows program :=
  mute.mono fun mute => let ⟨events, grows, _⟩ := mute.log; ⟨events, grows⟩

theorem update_grows (change : Impl → Impl) : Keeps Grows (Client.update change) :=
  Keeps.modify fun _ => ⟨[], rfl⟩

theorem emit_grows (event : Event) : Keeps Grows (emit event) :=
  Keeps.modify fun _ => ⟨[event], rfl⟩

variable (platform : Platform)

theorem conduct_grows : Conduct platform Grows where
  startTimer _ := grows_of_mute (linkage_mute.startTimer _)
  sendPacket outgoing timer := grows_of_mute (linkage_mute.sendPacket outgoing timer)
  nextUnset := grows_of_mute linkage_mute.nextUnset
  mqtt same := grows_of_mute (linkage_mute.mqtt same)
  clean := grows_of_mute linkage_mute.clean
  ended := grows_of_mute linkage_mute.ended
  client kept := grows_of_mute (linkage_mute.client kept)
  onError text := grows_of_mute (linkage_mute.onError text)
  tlsConnect := grows_of_mute linkage_mute.tlsConnect
  close := grows_of_mute linkage_mute.close
  cycle timer := grows_of_mute ((mechanics_mute platform).cycle timer)
  authenticate := grows_of_steady (authenticate_steady platform)
  impl _ := update_grows _
  onConnected := emit_grows _
  reportLost := Keeps.bind (update_grows _) fun _ => Keeps.bind Keeps.get fun _ => emit_grows _
  reportLastError := grows_of_steady reportLastError_steady
  reportClientError := grows_of_steady reportClientError_steady
  noSession := emit_grows _
  unsent _ := emit_grows _
  nextIv := Keeps.modifyGet fun _ => ⟨[], rfl⟩

theorem startSession_grows : Keeps Grows (Client.startSession platform) := by
  refine Keeps.bind Keeps.get fun _ => Keeps.ite (fun _ => Keeps.bind Keeps.get fun _ => ?_) fun _ => Keeps.pure _
  refine Keeps.bind (ofExcept_keeps _) fun userId => ?_
  refine Keeps.bind (fun m => ?_) fun _ => Keeps.bind (conduct_grows platform).checkState fun _ => Keeps.pure _
  rw [prepare_eq]
  exact ⟨[], rfl⟩

theorem perform_grows (call : Client.Call) : Keeps Grows (Client.perform platform call) := by
  by_cases starting : call = .startSession
  · subst starting
    exact Keeps.bind (startSession_grows platform) fun _ => Keeps.pure _
  · exact (conduct_grows platform).perform starting

end Grows

/-! ## Runs -/

section Runs

variable (platform : Platform)

def InSession (session : List Event) (m : Machine) : Prop :=
  ∃ base, m.log = session ++ base ∧ Sound base m

theorem fresh_inSession (readbuf : Bytes) (replies : Replies) : InSession [] (Client.fresh readbuf replies) := by
  have sound : Sound (Client.fresh readbuf replies).log (Client.fresh readbuf replies) := noSession_sound rfl rfl rfl rfl
  exact ⟨[], rfl, sound⟩

theorem perform_sound {base : List Event} {topic : Bytes} {call : Client.Call} (starting : call ≠ .startSession)
    (ending : call ≠ .endSession) :
    Triple (Fit base platform.sign topic) (Client.perform platform call) (fun _ => Sound base) (Sound base) := by
  have alone {α : Type} {program : M α} (preserves : Preserves (Sound base) program) :
      Triple (Fit base platform.sign topic) program (fun _ => Sound base) (Sound base) :=
    preserves.starting fun _ fit => fit.sound
  cases call with
  | configure conf => exact Triple.bind (alone (configure_sound conf)) fun _ => Triple.pure fun _ sound => sound
  | startSession => exact absurd rfl starting
  | endSession => exact absurd rfl ending
  | isConnected => exact alone isConnected_sound
  | subscribe filter => exact subscribe_sound platform filter
  | unsubscribe filter =>
      exact command_sound platform ((mechanics_mute platform).unsubscribe filter) (fun _ => rfl) fun _ => rfl
  | publish filter payload => exact publish_sound platform filter payload
  | listenForPrivateMessages => exact Triple.read fun m => subscribe_sound platform _
  | sendPrivateMessage userIdTo payload encrypt => exact sendPrivateMessage_sound platform userIdTo payload encrypt
  | runMessageLoop timeout =>
      exact command_sound platform ((mechanics_mute platform).runMessageLoop timeout) (fun _ => rfl) fun _ => rfl

theorem perform_startSession_sound {base : List Event} {m : Machine} (sound : Sound base m)
    (digests : m.Digests platform.sign) :
    Triple (fun s => s = m) (Client.perform platform .startSession)
      (fun _ => Sound (if m.impl.state = .noSession then m.log else base))
      (Sound (if m.impl.state = .noSession then m.log else base)) := by
  refine Triple.bind ?_ fun _ => Triple.pure fun _ sound => sound
  by_cases state : m.impl.state = .noSession
  · rw [if_pos state]
    exact startSession_sound platform sound digests state
  · rw [if_neg state]
    refine Triple.get fun read => ?_
    rintro s ⟨rfl, rfl⟩
    rw [if_neg state]
    exact sound

theorem perform_inSession {m : Machine} {session : List Event} (inSession : InSession session m)
    (digests : m.Digests platform.sign) (call : Client.Call) :
    InSession (call.session m (last (Client.perform platform call m)) session) (last (Client.perform platform call m)) := by
  obtain ⟨base, log, sound⟩ := inSession
  obtain ⟨events, grows⟩ := perform_grows platform call m
  have since := since_append m _ events grows
  have within (sound : Sound base (last (Client.perform platform call m))) :
      InSession (m.since (last (Client.perform platform call m)) ++ session) (last (Client.perform platform call m)) := by
    refine ⟨base, ?_, sound⟩
    rw [since, grows, log, List.append_assoc]
  have fit : Fit base platform.sign m.impl.privateMessagesTopic m := by
    refine ⟨sound, fun state => ⟨rfl, ?_⟩⟩
    rw [← m.ownTopic_started state]
    exact digests
  have ordinary (starting : call ≠ .startSession) (ending : call ≠ .endSession) :=
    within ((perform_sound platform starting ending).last fit)
  cases call with
  | startSession =>
      have started := (perform_startSession_sound platform sound digests).last rfl
      unfold Client.Call.session
      by_cases state : m.impl.state = .noSession
      · simp only [if_pos state] at started ⊢
        exact ⟨m.log, by rw [since, grows], started⟩
      · simp only [if_neg state] at started ⊢
        exact within started
  | endSession =>
      have ended : Triple (Sound base) (Client.perform platform .endSession) (fun _ m => Sound m.log m)
          (fun m => Sound m.log m) :=
        Triple.bind (endSession_sound.weaken (fun _ sound => sound) (fun _ _ sound => sound) fun _ impossible =>
          impossible.elim) fun _ => Triple.pure fun _ sound => sound
      exact ⟨_, rfl, ended.last sound⟩
  | _ => exact ordinary nofun nofun

theorem reached_inSession {m : Machine} {session : List Event}
    (reached : Client.Reached platform (Machine.Digests platform.sign) m session) : InSession session m := by
  let within (followed : Machine × List Event) : Prop := InSession followed.2 followed.1
  refine Reachable.invariant within ?_ (fun followed call held met => perform_inSession platform held met call) reached
  rintro _ ⟨readbuf, replies, rfl⟩
  exact fresh_inSession readbuf replies

/-- While every packet to come can be processed, the connection events of each session alternate. -/
theorem reached_orderly {m : Machine} {session : List Event}
    (reached : Client.Reached platform (Machine.Digests platform.sign) m session) : Orderly m session := by
  obtain ⟨base, log, sound⟩ := reached_inSession platform reached
  obtain ⟨recorded, ordered⟩ := sound.inOrder.1
  obtain rfl : recorded = session := List.append_cancel_right (ordered.log.symm.trans log)
  exact ⟨ordered.alternates, ordered.connected, ordered.authenticated, sound.idle⟩

end Runs

/-! ## Sample runs -/

theorem Client.reached_fresh (platform : Platform) (calls : List Call) (readbuf : Bytes) (replies : Replies) :
    Client.Reached platform (fun _ => True) (calls.foldl (Client.follow platform) (Client.fresh readbuf replies, [])).1
      (calls.foldl (Client.follow platform) (Client.fresh readbuf replies, [])).2 :=
  calls.foldlRecOn _ (Reachable.start ⟨readbuf, replies, rfl⟩) fun _ reached call _ => reached.next call trivial

def Frame.unassuming (frame : Frame) : Bool :=
  packetType frame.header != .publish && (packetType frame.header != .suback || frame.body.length ≤ 3)

def Machine.unassuming (m : Machine) : Bool :=
  m.replies.reads.all fun reply =>
    match reply.reading with
    | .packet frame => frame.unassuming
    | _ => true

theorem Frame.digestible_of_unassuming {sign : CharSign} {topic : Bytes} (frame : Frame) (unassuming : frame.unassuming) :
    frame.Digestible sign topic := by
  simp only [Frame.unassuming, Bool.and_eq_true, Bool.or_eq_true, bne_iff_ne, decide_eq_true_eq] at unassuming
  unfold Frame.Digestible
  cases type : packetType frame.header with
  | publish => exact absurd type unassuming.1
  | suback => exact unassuming.2.resolve_left fun other => other type
  | _ => trivial

theorem Machine.digests_of_unassuming {sign : CharSign} (m : Machine) (unassuming : m.unassuming) : m.Digests sign := by
  intro reply member frame packet
  have own := List.all_eq_true.mp unassuming reply member
  rw [packet] at own
  exact frame.digestible_of_unassuming own

theorem Client.reached_digests {platform : Platform} {calls : List Call} {readbuf : Bytes} {replies : Replies}
    (passed : passes (Client.follow platform) (fun followed _ => followed.1.unassuming) calls
      (Client.fresh readbuf replies, [])) :
    Client.Reached platform (Machine.Digests platform.sign)
      (calls.foldl (Client.follow platform) (Client.fresh readbuf replies, [])).1
      (calls.foldl (Client.follow platform) (Client.fresh readbuf replies, [])).2 :=
  Reachable.run (fun (followed : Machine × List Event) _ => followed.1.digests_of_unassuming)
    (.start ⟨readbuf, replies, rfl⟩) passed

def subscribeAndListen (loops : Nat) : List Client.Call :=
  [.configure (sampleConf true false), .startSession, .subscribe (bytes "t")] ++
    List.replicate loops (.runMessageLoop 100)

def sampleSuback (id : UInt8) : ReadReply := samplePacket 0x90 [0, id, 2] (by simp)

def malformedPublish : ReadReply := samplePacket 0x32 [0, 1, 116] (by simp)

theorem reached_orderly_reconnected : ∃ m session,
    session.filterMap Event.connection = [true, false, true] ∧ Orderly m session := by
  have passed : passes (Client.follow (plainPlatform .signed)) (fun followed _ => followed.1.unassuming)
      (subscribeAndListen 2) (Client.fresh []
        (secondChance [sampleConnack 0, sampleSuback 1, lostConnection, sampleConnack 0, sampleSuback 2]), []) := by
    decide +kernel
  refine ⟨_, _, ?_, reached_orderly (plainPlatform .signed) (Client.reached_digests passed)⟩
  decide +kernel

/-- A packet that raises an exception while the first connection is made leaves it open. -/
theorem not_reached_orderly : ¬ ∀ (platform : Platform) (m : Machine) (session : List Event),
    Client.Reached platform (fun _ => True) m session → Orderly m session := by
  intro orderly
  have reached := Client.reached_fresh (plainPlatform .signed) [.configure (sampleConf true false), .startSession] []
    (sampleReplies [1] [none] [.sent false] [malformedPublish])
  have outcome : let m := ([.configure (sampleConf true false), .startSession].foldl (Client.follow (plainPlatform .signed))
      (Client.fresh [] (sampleReplies [1] [none] [.sent false] [malformedPublish]), [])).1
      m.impl.state = .initial ∧ m.tls.connected = true := by
    decide +kernel
  have closed := ((orderly _ _ _ reached).idle (.inr outcome.1)).2
  rw [outcome.2] at closed
  cases closed

end IotClient
