import IotClient.Logic.Program
import IotClient.Model.Authentication
import IotClient.Model.MqttTlsClient

namespace IotClient

/-- A text that is no JSON object with a string `userID` gives the empty user id. -/
def Identity.getUserId (sign : CharSign) (identity : Identity) : Except Fault Bytes :=
  match (do (← (← jsonParse sign identity.mpinId).index (bytes "userID")).toBytes) with
  | .error (.json _) => .ok []
  | result => result

def addr (address defaultPort : Bytes) : Bytes × Bytes :=
  match address.span (· != 58) with
  | (host, _ :: port) => (host, port)
  | (host, []) => (host, defaultPort)

def insertTopic (topic : Bytes) : List Bytes → List Bytes
  | [] => [topic]
  | other :: rest =>
      if topic = other then other :: rest
      else if topic < other then topic :: other :: rest
      else other :: insertTopic topic rest

/-! ## `Client::Impl` -/

namespace Client

def update (change : Impl → Impl) : M Unit :=
  modify fun m => { m with impl := change m.impl }

def setState (state : State) : M Unit :=
  update fun impl => { impl with state := state }

def getLastError (m : Machine) : Bytes :=
  if m.impl.lastError = [] then m.mqttTls.lastError else m.impl.lastError

def reportLastError : M Unit := do
  notify (.onError (getLastError (← get)))

def reportClientError : M Unit := do
  notify (.onError (← get).mqttTls.lastError)

def configure (conf : Config) : M Unit :=
  update fun impl => { impl with conf := conf }

variable (platform : Platform)

def authenticate : M Bool := do
  if (← get).impl.authenticated then return true
  else
    tryCatch
      (do
        update fun impl => { impl with lastError := [] }
        let conf := (← get).impl.conf
        let result ← MpinFull.authenticate platform conf.authServerUrl conf.identity
        result.newIdentity.forM fun newIdentity => do
          update fun impl => { impl with conf := { impl.conf with identity := newIdentity } }
          notify (.onIdentityChanged newIdentity)
        MqttTls.update fun client =>
          { client with psk := result.sharedSecret, pskId := hexEncode result.clientId }
        notify .onAuthenticated
        return true)
      fun
        | .iot what => do
            update fun impl =>
              { impl with lastError := bytes "Authentication failed: " ++ cString what }
            return false
        | fault => throw fault

def initialConnect : M Bool := do
  if ← authenticate platform then MqttTls.connect platform else return false

def restore : List Bytes → M Bool
  | [] => return true
  | topic :: rest => do
      if ← MqttTls.subscribe platform topic then restore rest
      else do
        reportClientError
        return false

def restoreSubscriptions : M Bool := do
  restore platform (← get).impl.subscriptions

def reconnect : M Bool := do
  if !(← authenticate platform) then return false
  else if !(← MqttTls.reconnect platform) then return false
  else if (← get).mqttTls.sessionPresent then return true
  else restoreSubscriptions platform

def reportConnected : M Bool := do
  setState .connected
  notify .onConnected
  return true

def reportLost : M Unit := do
  setState .disconnected
  notify (.onConnectionLost (getLastError (← get)))

def checkConnection : M Bool := do
  if ← MqttTls.isConnected then return (← get).impl.state = .connected
  else do
    onlyIf ((← get).impl.state = .connected) reportLost
    if ← reconnect platform then reportConnected
    else do
      reportLastError
      return (← get).impl.state = .connected

def checkState : M Bool := do
  match (← get).impl.state with
  | .noSession => do
      notify (.onError (bytes "No session started"))
      return false
  | .initial => do
      if ← initialConnect platform then reportConnected
      else do
        reportLastError
        return false
  | .connected => checkConnection platform
  | .disconnected => checkConnection platform

def defaultMqttTlsPort : Bytes := bytes "8443"

def prepare (conf : Config) (userId : Bytes) : M Unit := do
  update fun impl => { impl with userId := userId, privateMessagesTopic := getPrivateMessageTopic userId }
  let (host, port) := addr conf.mqttTlsBrokerAddr defaultMqttTlsPort
  modify fun m => { m with tls := { m.tls with host := host, port := port } }
  onlyIf (conf.mqttCommandTimeoutMillisec > 0) (Mqtt.update fun mqtt =>
    { mqtt with commandTimeout := conf.mqttCommandTimeoutMillisec })
  MqttTls.update fun client =>
    { client with
      clientId := userId
      qos := if conf.useMqttQoS2 then .qos2 else .qos1
      usePersistentSession := conf.useMqttPersistentSession }
  setState .initial

def startSession : M Unit := do
  if (← get).impl.state = .noSession then do
    let conf := (← get).impl.conf
    let userId ← M.ofExcept (conf.identity.getUserId platform.sign)
    prepare conf userId
    let _ ← checkState platform
  else pure ()

def endSession : M Unit := do
  if (← get).impl.state = .noSession then pure ()
  else do
    MqttTls.disconnect
    update fun impl => { impl with subscriptions := [], state := .noSession }

/-- What `Publish`, `Subscribe`, `Unsubscribe` and `RunMessageLoop` share: the state is checked, the command is carried
out, and a failure is reported. -/
def command (action : M Bool) (success : Impl → Impl) : M Bool := do
  if !(← checkState platform) then return false
  else if ← action then do
    update success
    return true
  else do
    reportClientError
    return false

def subscribe (topic : Bytes) : M Bool :=
  command platform (MqttTls.subscribe platform topic)
    fun impl => { impl with subscriptions := insertTopic topic impl.subscriptions }

def unsubscribe (topic : Bytes) : M Bool :=
  command platform (MqttTls.unsubscribe platform topic)
    fun impl => { impl with subscriptions := impl.subscriptions.filter (· != topic) }

def publish (topic payload : Bytes) : M Bool :=
  command platform (MqttTls.publish platform topic payload) id

def listenForPrivateMessages : M Bool := do
  subscribe platform (← get).impl.privateMessagesTopic

def sendPrivateMessage (userIdTo payload : Bytes) (encrypt : Bool) : M Bool :=
  tryCatch
    (do
      let random ← (if encrypt then nextIv else pure none)
      let impl := (← get).impl
      let text ← M.ofExcept (serializePrivateMessage platform.sok random impl.userId
        impl.conf.identity.sokSendKey userIdTo payload encrypt)
      publish platform (getPrivateMessageTopic userIdTo) text)
    fun
      | .iot what => do
          notify (.onError (bytes "Failed to serialize private message: " ++ cString what))
          return false
      | fault => throw fault

/-- When the state check fails, `RunMessageLoop` sleeps for the rest of the time. -/
def runMessageLoop (timeout : Nat) : M Bool :=
  command platform (MqttTls.runMessageLoop platform timeout) id

/-! ## Runs -/

/-- A freshly constructed client. What its read buffer holds is not determined. -/
def fresh (readbuf : Bytes) (replies : Replies) : Machine where
  tls := ⟨[], [], false, none⟩
  mqtt := Mqtt.clean
    { commandTimeout := 30000
      readbuf := readbuf
      keepAliveInterval := 0
      pingOutstanding := false
      cleansession := false
      packetid := 0
      isconnected := false
      inflight := none
      pubrel := false
      incomingQoS2messages := [] }
  mqttTls := ⟨[], [], [], .qos2, true, [], false⟩
  impl :=
    { conf := ⟨[], ⟨[], [], [], [], []⟩, [], 0, true, true⟩
      authenticated := false
      state := .noSession
      subscriptions := []
      userId := []
      privateMessagesTopic := []
      lastError := [] }
  http := ⟨none, none, ⟨[], [], false, none⟩, ⟨[], [], false, none⟩, none⟩
  replies := replies
  log := []

inductive Call where
  | configure (conf : Config)
  | startSession
  | endSession
  | isConnected
  | subscribe (topic : Bytes)
  | unsubscribe (topic : Bytes)
  | publish (topic payload : Bytes)
  | listenForPrivateMessages
  | sendPrivateMessage (userIdTo payload : Bytes) (encrypt : Bool)
  | runMessageLoop (timeout : Nat)
  deriving DecidableEq, Repr

def perform : Call → M Bool
  | .configure conf => do
      configure conf
      return true
  | .startSession => do
      startSession platform
      return true
  | .endSession => do
      endSession
      return true
  | .isConnected => MqttTls.isConnected
  | .subscribe topic => subscribe platform topic
  | .unsubscribe topic => unsubscribe platform topic
  | .publish topic payload => publish platform topic payload
  | .listenForPrivateMessages => listenForPrivateMessages platform
  | .sendPrivateMessage userIdTo payload encrypt => sendPrivateMessage platform userIdTo payload encrypt
  | .runMessageLoop timeout => runMessageLoop platform timeout

def step (m : Machine) (call : Call) : Machine := Logic.last (perform platform call m)

def run (calls : List Call) (m : Machine) : Machine := calls.foldl (step platform) m

end Client

end IotClient
