import IotClient.Proof.Session
import IotClient.Proof.Twins
import IotClient.Spec.Configuration

namespace IotClient
open Logic

/-! ## Calls in a session -/

section Reports

variable {known : Known}

theorem reportClientError_twins (clientError : known.clientError) :
    Respects (Machine.Twin known) Client.reportClientError :=
  Relates.read (fun _ _ twin => by simp only [twin.mqttTls.lastError clientError]) fun _ => emit_twins _

theorem getLastError_twins {m other : Machine} (ownError : known.ownError)
    (told : m.impl.lastError ≠ [] ∨ known.clientError) (twin : m.Twin known other) :
    Client.getLastError other = Client.getLastError m := by
  unfold Client.getLastError
  rw [twin.impl.lastError ownError]
  split
  next silent => exact twin.mqttTls.lastError (told.resolve_left fun told => told silent)
  next => rfl

theorem reportConnected_twins : Respects (Machine.Twin known) Client.reportConnected :=
  Relates.bind (impl_twins fun twin => { twin with state := rfl }) fun _ => Relates.bind (emit_twins _) fun _ =>
    Relates.pure fun _ _ twin => twin

end Reports

/-- Both clients have the same error texts, and the same session. -/
def Known.Settled (known : Known) : Prop := known.ownError ∧ known.clientError ∧ known.session

section Calls

variable (platform : Platform) {known : Known} (settled : known.Settled)
include settled

theorem reportLastError_twins : Respects (Machine.Twin known) Client.reportLastError :=
  Relates.read (fun _ _ twin => by simp only [getLastError_twins settled.1 (.inr settled.2.1) twin]) fun _ => emit_twins _

theorem reportLost_twins : Respects (Machine.Twin known) Client.reportLost := by
  refine Relates.bind (impl_twins fun twin => { twin with state := rfl }) fun _ => ?_
  exact Relates.read (fun _ _ twin => by simp only [getLastError_twins settled.1 (.inr settled.2.1) twin]) fun _ => emit_twins _

theorem clientAuthenticate_twins : Respects (Machine.Twin known) (Client.authenticate platform) :=
  (authenticate_twins platform).weaken (fun _ _ twin => ⟨.inl settled.1, twin⟩)
    (fun _ _ _ ended => ended.2.weaken Iff.rfl (fun _ => trivial) id id id id id id) fun _ _ twin => twin

theorem restore_twins (topics : List Bytes) : Respects (Machine.Twin known) (Client.restore platform topics) := by
  induction topics with
  | nil => exact Relates.pure fun _ _ twin => twin
  | cons topic rest continued =>
      refine Relates.bind (subscribe_twins platform settled.2.2 topic) fun _ => Relates.ite (fun _ => continued) fun _ => ?_
      exact Relates.bind (reportClientError_twins settled.2.1) fun _ => Relates.pure fun _ _ twin => twin

theorem clientReconnect_twins : Respects (Machine.Twin known) (Client.reconnect platform) := by
  refine Relates.bind (clientAuthenticate_twins platform settled) fun _ => Relates.ite (fun _ => ?_) fun _ => ?_
  · exact Relates.pure fun _ _ twin => twin
  refine Relates.bind (reconnect_twins platform settled.2.2) fun _ => Relates.ite (fun _ => ?_) fun _ => ?_
  · exact Relates.pure fun _ _ twin => twin
  refine Relates.read (fun _ _ twin => by simp only [twin.mqttTls.sessionPresent]) fun m => ?_
  refine Relates.ite (fun _ => Relates.pure fun _ _ twin => twin) fun _ => ?_
  exact Relates.read (fun _ _ twin => by simp only [twin.impl.subscriptions]) fun m => restore_twins platform settled _

theorem checkConnection_twins : Respects (Machine.Twin known) (Client.checkConnection platform) := by
  refine Relates.bind (isConnected_twins settled.2.2) fun _ => Relates.ite (fun _ => ?_) fun _ => ?_
  · exact Relates.read (fun _ _ twin => by simp only [twin.impl.state]) fun _ => Relates.pure fun _ _ twin => twin
  refine Relates.read (fun _ _ twin => by simp only [twin.impl.state]) fun m => ?_
  refine Relates.bind (onlyIf_twins fun _ => reportLost_twins settled) fun _ => ?_
  refine Relates.bind (clientReconnect_twins platform settled) fun _ => Relates.ite (fun _ => reportConnected_twins) fun _ => ?_
  refine Relates.bind (reportLastError_twins settled) fun _ => ?_
  exact Relates.read (fun _ _ twin => by simp only [twin.impl.state]) fun _ => Relates.pure fun _ _ twin => twin

theorem checkState_twins : Respects (Machine.Twin known) (Client.checkState platform) := by
  refine Relates.read (fun _ _ twin => by simp only [twin.impl.state]) fun m => ?_
  cases m.impl.state with
  | noSession => exact Relates.bind (emit_twins _) fun _ => Relates.pure fun _ _ twin => twin
  | initial =>
      refine Relates.bind (Relates.bind (clientAuthenticate_twins platform settled) fun _ => Relates.ite (fun _ =>
        connect_twins platform settled.2.2) fun _ => Relates.pure fun _ _ twin => twin) fun _ => ?_
      refine Relates.ite (fun _ => reportConnected_twins) fun _ => ?_
      exact Relates.bind (reportLastError_twins settled) fun _ => Relates.pure fun _ _ twin => twin
  | connected => exact checkConnection_twins platform settled
  | disconnected => exact checkConnection_twins platform settled

theorem command_twins {action : M Bool} (acts : Respects (Machine.Twin known) action) {success : Impl → Impl}
    (kept : ∀ {impl other : Impl}, impl.Twin known.ownError known.settings other →
      (success impl).Twin known.ownError known.settings (success other)) :
    Respects (Machine.Twin known) (Client.command platform action success) := by
  refine Relates.bind (checkState_twins platform settled) fun _ => Relates.ite (fun _ => ?_) fun _ => ?_
  · exact Relates.pure fun _ _ twin => twin
  refine Relates.bind acts fun _ => Relates.ite (fun _ => ?_) fun _ => ?_
  · exact Relates.bind (impl_twins kept) fun _ => Relates.pure fun _ _ twin => twin
  · exact Relates.bind (reportClientError_twins settled.2.1) fun _ => Relates.pure fun _ _ twin => twin

theorem clientSubscribe_twins (topic : Bytes) : Respects (Machine.Twin known) (Client.subscribe platform topic) :=
  command_twins platform settled (subscribe_twins platform settled.2.2 topic) fun twin =>
    { twin with subscriptions := by simp only [twin.subscriptions] }

theorem clientPublish_twins (topic payload : Bytes) :
    Respects (Machine.Twin known) (Client.publish platform topic payload) :=
  command_twins platform settled (publish_twins platform settled.2.2 topic payload) id

theorem sendPrivateMessage_twins (userIdTo payload : Bytes) (encrypt : Bool) :
    Respects (Machine.Twin known) (Client.sendPrivateMessage platform userIdTo payload encrypt) := by
  refine Relates.tryCatch (?_ : Respects (Machine.Twin known) _) fun fault => ?_
  · refine Relates.bind (Relates.ite (fun _ => reply_twins (fun same => by simp only [same, and_self]) (fun _ => rfl)
      fun _ => List.Subset.refl _) fun _ => Relates.pure fun _ _ twin => twin) fun random => ?_
    refine Relates.read (fun _ _ twin => by simp only [twin.impl.userId, twin.impl.identity]) fun m => ?_
    exact Relates.bind (ofExcept_twins _) fun text => clientPublish_twins platform settled _ _
  · cases fault with
    | iot what => exact Relates.bind (emit_twins _) fun _ => Relates.pure fun _ _ twin => twin
    | _ => exact Relates.throw fun _ _ twin => twin

theorem endSession_twins : Respects (Machine.Twin known) Client.endSession := by
  refine Relates.read (fun _ _ twin => by simp only [twin.impl.state]) fun m => ?_
  refine Relates.ite (fun _ => Relates.pure fun _ _ twin => twin) fun _ => ?_
  exact Relates.bind (disconnect_twins settled.2.2) fun _ => impl_twins fun twin =>
    { twin with subscriptions := rfl, state := rfl }

/-- `Configure` and `StartSession` are apart: only they use all of the configuration. -/
theorem perform_twins {call : Client.Call} (configuring : ∀ conf, call ≠ .configure conf) (starting : call ≠ .startSession) :
    Respects (Machine.Twin known) (Client.perform platform call) := by
  cases call with
  | configure conf => exact absurd rfl (configuring conf)
  | startSession => exact absurd rfl starting
  | endSession => exact Relates.bind (endSession_twins settled) fun _ => Relates.pure fun _ _ twin => twin
  | isConnected => exact isConnected_twins settled.2.2
  | subscribe topic => exact clientSubscribe_twins platform settled topic
  | unsubscribe topic =>
      exact command_twins platform settled (unsubscribe_twins platform settled.2.2 topic) fun twin =>
        { twin with subscriptions := by simp only [twin.subscriptions] }
  | publish topic payload => exact clientPublish_twins platform settled topic payload
  | listenForPrivateMessages =>
      exact Relates.read (fun _ _ twin => by simp only [twin.impl.privateMessagesTopic]) fun _ =>
        clientSubscribe_twins platform settled _
  | sendPrivateMessage userIdTo payload encrypt => exact sendPrivateMessage_twins platform settled userIdTo payload encrypt
  | runMessageLoop timeout => exact command_twins platform settled (runMessageLoop_twins platform settled.2.2 timeout) id

end Calls

/-! ## How far a session has come -/

def State.stage : State → Nat
  | .noSession => 0
  | .initial => 1
  | .connected => 2
  | .disconnected => 2

def Onward (before after : Machine) : Prop := before.impl.state.stage ≤ after.impl.state.stage

instance : Following Onward where
  refl _ := Nat.le_refl _
  trans first second := Nat.le_trans first second

theorem onward_of_mute {α : Type} {program : M α} (mute : Keeps Mute program) : Keeps Onward program :=
  mute.mono fun mute => by rw [Onward, mute.impl]

theorem onward_of_steady {α : Type} {program : M α} (steady : Keeps Steady program) : Keeps Onward program :=
  steady.mono fun steady => by rw [Onward, steady.state]

theorem impl_onward {change : Impl → Impl} (kept : ∀ impl : Impl, impl.state.stage ≤ (change impl).state.stage) :
    Keeps Onward (Client.update change) :=
  Keeps.modify fun m => kept m.impl

theorem active_onward {state : State} (active : state.stage = 2) : Keeps Onward (Client.setState state) :=
  impl_onward fun impl => by
    rw [active]
    cases impl.state <;> decide

theorem emit_onward (event : Event) : Keeps Onward (emit event) := Keeps.modify fun _ => Nat.le_refl _

section Onward

variable (platform : Platform)

theorem reportConnected_onward : Keeps Onward Client.reportConnected :=
  Keeps.bind (active_onward rfl) fun _ => Keeps.bind (emit_onward _) fun _ => Keeps.pure _

theorem clientReconnect_onward : Keeps Onward (Client.reconnect platform) := by
  refine Keeps.bind (onward_of_steady (authenticate_steady platform)) fun _ => Keeps.ite (fun _ => Keeps.pure _) fun _ => ?_
  refine Keeps.bind (onward_of_mute (mechanics_mute platform).reconnect) fun _ => Keeps.ite (fun _ => Keeps.pure _) fun _ => ?_
  refine Keeps.bind Keeps.get fun _ => Keeps.ite (fun _ => Keeps.pure _) fun _ => ?_
  exact Keeps.bind Keeps.get fun _ => onward_of_mute (restore_mute platform _)

theorem checkConnection_onward : Keeps Onward (Client.checkConnection platform) := by
  refine Keeps.bind (onward_of_mute linkage_mute.isConnected) fun _ => Keeps.ite (fun _ => ?_) fun _ => ?_
  · exact Keeps.bind Keeps.get fun _ => Keeps.pure _
  have lost : Keeps Onward Client.reportLost :=
    Keeps.bind (active_onward rfl) fun _ => Keeps.bind Keeps.get fun _ => emit_onward _
  refine Keeps.bind Keeps.get fun _ => Keeps.bind (onlyIf_keeps fun _ => lost) fun _ => ?_
  refine Keeps.bind (clientReconnect_onward platform) fun _ => Keeps.ite (fun _ => reportConnected_onward) fun _ => ?_
  exact Keeps.bind (onward_of_steady reportLastError_steady) fun _ => Keeps.bind Keeps.get fun _ => Keeps.pure _

theorem checkState_onward : Keeps Onward (Client.checkState platform) := by
  refine Keeps.bind Keeps.get fun m => ?_
  cases m.impl.state with
  | noSession => exact Keeps.bind (emit_onward _) fun _ => Keeps.pure _
  | initial =>
      refine Keeps.bind (Keeps.bind (onward_of_steady (authenticate_steady platform)) fun _ => Keeps.ite (fun _ =>
        onward_of_mute (mechanics_mute platform).connect) fun _ => Keeps.pure _) fun _ => ?_
      refine Keeps.ite (fun _ => reportConnected_onward) fun _ => ?_
      exact Keeps.bind (onward_of_steady reportLastError_steady) fun _ => Keeps.pure _
  | connected => exact checkConnection_onward platform
  | disconnected => exact checkConnection_onward platform

theorem command_onward {action : M Bool} (acts : Keeps Mute action) {success : Impl → Impl}
    (kept : ∀ impl, (success impl).state = impl.state) : Keeps Onward (Client.command platform action success) := by
  refine Keeps.bind (checkState_onward platform) fun _ => Keeps.ite (fun _ => Keeps.pure _) fun _ => ?_
  refine Keeps.bind (onward_of_mute acts) fun _ => Keeps.ite (fun _ => ?_) fun _ => ?_
  · exact Keeps.bind (impl_onward fun impl => by rw [kept]) fun _ => Keeps.pure _
  · exact Keeps.bind (onward_of_steady reportClientError_steady) fun _ => Keeps.pure _

theorem sendPrivateMessage_onward (userIdTo payload : Bytes) (encrypt : Bool) :
    Keeps Onward (Client.sendPrivateMessage platform userIdTo payload encrypt) := by
  refine Keeps.tryCatch ?_ fun fault => ?_
  · refine Keeps.bind (Keeps.ite (fun _ => Keeps.modifyGet fun _ => Nat.le_refl _) fun _ => Keeps.pure _) fun _ => ?_
    refine Keeps.bind Keeps.get fun _ => Keeps.bind (ofExcept_keeps _) fun _ => ?_
    exact command_onward platform ((mechanics_mute platform).publish _ _) fun _ => rfl
  · cases fault with
    | iot what => exact Keeps.bind (emit_onward _) fun _ => Keeps.pure _
    | _ => exact Keeps.throw _

theorem perform_onward {call : Client.Call} (ending : call ≠ .endSession) : Keeps Onward (Client.perform platform call) := by
  have parts := mechanics_mute platform
  cases call with
  | endSession => exact absurd rfl ending
  | configure conf => exact Keeps.bind (impl_onward fun _ => Nat.le_refl _) fun _ => Keeps.pure _
  | startSession =>
      intro m
      by_cases starting : m.impl.state = .noSession
      · rw [Onward, starting]
        exact Nat.zero_le _
      · rw [startSession_started platform starting]
        exact Nat.le_refl _
  | isConnected => exact onward_of_mute linkage_mute.isConnected
  | subscribe topic => exact command_onward platform (parts.subscribe topic) fun _ => rfl
  | unsubscribe topic => exact command_onward platform (parts.unsubscribe topic) fun _ => rfl
  | publish topic payload => exact command_onward platform (parts.publish topic payload) fun _ => rfl
  | listenForPrivateMessages =>
      exact Keeps.bind Keeps.get fun _ => command_onward platform (parts.subscribe _) fun _ => rfl
  | sendPrivateMessage userIdTo payload encrypt => exact sendPrivateMessage_onward platform userIdTo payload encrypt
  | runMessageLoop timeout => exact command_onward platform (parts.runMessageLoop timeout) fun _ => rfl

end Onward

/-! ## Two runs, with and without the edits -/

namespace Client

/-- All but the settings that only `StartSession` reads is the same. -/
def editing : Known where
  ownError := True
  clientError := True
  session := True
  exact := True
  buffer := True
  line := False
  settings := False
  secret := True

theorem twin_refl (m : Machine) : m.Twin editing m where
  tls := rfl
  mqtt := ⟨rfl, fun _ => rfl, fun _ => ⟨rfl, rfl, rfl, fun _ => rfl⟩, fun _ => rfl, rfl, fun _ => rfl, rfl, rfl, rfl,
    fun _ => rfl, rfl⟩
  mqttTls := ⟨fun _ => ⟨rfl, rfl⟩, rfl, rfl, rfl, fun _ => rfl, rfl⟩
  impl := ⟨False.elim, rfl, rfl, rfl, rfl, rfl, rfl, rfl, fun _ => rfl⟩
  http := ⟨rfl, rfl, rfl, rfl, False.elim⟩
  replies := rfl
  log := rfl
  complete := .inl trivial

variable (platform : Platform) {m other : Machine}

theorem edit_twins {conf : Config} (twin : m.Twin editing other) (harmless : (Call.configure conf).Harmless other) :
    m.Twin editing (step platform other (.configure conf)) :=
  { twin with impl := { twin.impl with
      conf := False.elim
      authServerUrl := harmless.1.trans twin.impl.authServerUrl
      identity := harmless.2.trans twin.impl.identity } }

theorem step_twins {call : Call} (edits : call.edits = false) (running : m.impl.state ≠ .noSession)
    (twin : m.Twin editing other) : (step platform m call).Twin editing (step platform other call) := by
  by_cases starting : call = .startSession
  · subst starting
    have running' : other.impl.state ≠ .noSession := by rwa [twin.impl.state]
    unfold step
    rwa [startSession_started platform running, startSession_started platform running']
  · refine Relates.last (perform_twins platform ⟨trivial, trivial, trivial⟩ ?_ starting) twin
    rintro conf rfl
    cases edits

theorem run_twins {calls : List Call} (running : m.impl.state ≠ .noSession) (twin : m.Twin editing other)
    (harmless : Harmless platform calls other) :
    (run platform (calls.filter (!·.edits)) m).Twin editing (run platform calls other) := by
  induction calls generalizing m other with
  | nil => exact twin
  | cons call rest continued =>
      obtain ⟨first, later⟩ := harmless
      by_cases edits : call.edits = true
      · have skipped : (call :: rest).filter (!·.edits) = rest.filter (!·.edits) := by simp [edits]
        cases call with
        | configure conf =>
            rw [skipped]
            exact continued running (edit_twins platform twin first) later
        | _ => cases edits
      · have edits : call.edits = false := by simpa using edits
        have kept : (call :: rest).filter (!·.edits) = call :: rest.filter (!·.edits) := by simp [edits]
        have ending : call ≠ .endSession := by
          rintro rfl
          exact first
        have runs : (step platform m call).impl.state ≠ .noSession := by
          have onward := perform_onward platform ending m
          intro ended
          rw [Onward, show (last (perform platform call m)).impl.state = .noSession from ended] at onward
          revert onward running
          cases m.impl.state <;> simp [State.stage]
        rw [kept]
        exact continued runs (step_twins platform edits running twin) later

theorem editsIgnored {calls : List Call} (running : m.impl.state ≠ .noSession) (harmless : Harmless platform calls m) :
    EditsIgnored platform m calls := by
  have twin := run_twins platform running (twin_refl m) harmless
  have seen {m other : Machine} (twin : m.Twin editing other) : seen other = seen m := by
    simp only [Client.seen, twin.log, twin.mqttTls.psk trivial]
  rintro ending (rfl | rfl)
  · rw [List.append_nil, List.append_nil]
    exact seen twin
  · unfold run at twin ⊢
    rw [List.foldl_append, List.foldl_append]
    refine seen (Relates.last (perform_twins platform ⟨trivial, trivial, trivial⟩ ?_ ?_) twin)
    · exact fun conf => by simp
    · simp

def otherBroker : Config := { sampleConf false false with mqttTlsBrokerAddr := bytes "other", mqttCommandTimeoutMillisec := 1 }

theorem editsIgnored_otherBroker :
    ((inSession .signed true []).impl.state ≠ .noSession ∧
        Harmless (plainPlatform .signed) [.configure otherBroker, .publish [1] [2]] (inSession .signed true [])) ∧
      EditsIgnored (plainPlatform .signed) (inSession .signed true []) [.configure otherBroker, .publish [1] [2]] := by
  have running : (inSession .signed true []).impl.state ≠ .noSession := by decide +kernel
  have harmless : Harmless (plainPlatform .signed) [.configure otherBroker, .publish [1] [2]] (inSession .signed true []) :=
    ⟨⟨by decide +kernel, by decide +kernel⟩, trivial, trivial⟩
  exact ⟨⟨running, harmless⟩, editsIgnored _ running harmless⟩

def requestTarget : Event → Option Url
  | .requested _ url _ => some url
  | _ => none

/-- The first attempt to authenticate fails, since no connection can be made. -/
def unauthenticated : Machine :=
  started (plainPlatform .signed) (sampleConf true true)
    { sampleReplies [] [] [] [] with exchanges := ⟨some [], none, [], none⟩ :: sampleExchanges }

/-- The next attempt goes to the server of an edit that was made in between. -/
theorem not_editsIgnored_authServerUrl :
    ¬EditsIgnored (plainPlatform .signed) unauthenticated
      [.configure { sampleConf true true with authServerUrl := bytes "https://other" }, .runMessageLoop 0] := by
  intro ignored
  have differ : ((run (plainPlatform .signed) [.configure { sampleConf true true with authServerUrl := bytes "https://other" },
        .runMessageLoop 0] unauthenticated).log.filterMap requestTarget) ≠
      ((run (plainPlatform .signed) [.runMessageLoop 0] unauthenticated).log.filterMap requestTarget) := by
    decide +kernel
  have same := ignored [] (.inl rfl)
  rw [List.append_nil, List.append_nil, show List.filter _ _ = [Call.runMessageLoop 0] from rfl] at same
  exact differ (congrArg (List.filterMap requestTarget) (Prod.mk.inj same).1)

end Client

end IotClient
