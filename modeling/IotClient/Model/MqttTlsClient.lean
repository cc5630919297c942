import IotClient.Model.Mqtt

namespace IotClient.MqttTls

def update (change : MqttTls → MqttTls) : M Unit :=
  modify fun m => { m with mqttTls := change m.mqttTls }

def onError (error : Bytes) : M Bool := do
  let m ← get
  let reason := if m.tls.connected then bytes "MQTT::Client specific error" else m.tls.lastError.text
  update fun client =>
    { client with lastError := error ++ bytes ". Reason: " ++ reason, sessionPresent := false }
  return false

def isConnected : M Bool := do
  let m ← get
  if !m.tls.connected then do
    onlyIf m.mqtt.isconnected do
      Mqtt.disconnect
      update fun client => { client with sessionPresent := false }
    return false
  else if !m.mqtt.isconnected then do
    TlsConnection.close
    update fun client => { client with sessionPresent := false }
    return false
  else return true

def disconnect : M Unit := do
  onlyIf (← get).mqtt.isconnected Mqtt.disconnect
  TlsConnection.close
  update fun client => { client with sessionPresent := false }

variable (platform : Platform)

def mqttConnect (cleanSession : Bool) : M Bool := do
  if ← Mqtt.connect platform (← get).mqttTls.clientId cleanSession then return true
  else onError (bytes "Failed to connect MQTT client")

def connectSession (cleanSession : Bool) : M Bool := do
  if ← isConnected then return true
  else if !(← TlsConnection.connect) then
    let tls := (← get).tls
    onError (bytes "Failed to connect to " ++ tls.host ++ bytes ":" ++ tls.port)
  else if ← mqttConnect platform cleanSession then do
    update fun client => { client with lastError := [] }
    return true
  else do
    TlsConnection.close
    return false

def connect : M Bool := do
  if !(← connectSession platform true) then return false
  else if !(← get).mqttTls.usePersistentSession then return true
  else do
    disconnect
    connectSession platform false

def reconnect : M Bool := do
  connectSession platform !(← get).mqttTls.usePersistentSession

def subscribe (topic : Bytes) : M Bool := do
  if ← Mqtt.subscribe platform (cString topic) (← get).mqttTls.qos then return true
  else onError (bytes "Failed to subscribe MQTT client to " ++ topic ++ bytes " topic")

def unsubscribe (topic : Bytes) : M Bool := do
  if ← Mqtt.unsubscribe platform (cString topic) then return true
  else onError (bytes "Failed to unsubscribe MQTT client from " ++ topic ++ bytes " topic")

def publish (topic message : Bytes) : M Bool := do
  if ← Mqtt.publish platform (cString topic) message (← get).mqttTls.qos then return true
  else onError (bytes "Failed to publish message to " ++ topic ++ bytes " topic")

/-- `yield` has no other failure than -1, so the branch for `BUFFER_OVERFLOW` is never taken. -/
def runMessageLoop (timeout : Nat) : M Bool := do
  if ← Mqtt.yield platform timeout then return true
  else if (← get).tls.connected then return true
  else onError (bytes "MQTT message loop failed with code -1")

/-! ## Runs -/

/-- The public calls besides those that only read a field. `SetMessageHandler` is left out: the handler is that of
`Client::Impl`. -/
inductive Call where
  | setId (clientId : Bytes)
  | setBrokerAddress (host port : Bytes)
  | setPsk (psk pskId : Bytes)
  | setCommandTimeout (timeout : Nat)
  | setQoS (qos : QoS)
  | usePersistentSession (usePersistentSession : Bool)
  | connect
  | reconnect
  | disconnect
  | isConnected
  | subscribe (topic : Bytes)
  | unsubscribe (topic : Bytes)
  | publish (topic message : Bytes)
  | runMessageLoop (timeout : Nat)
  deriving DecidableEq, Repr

def perform : Call → M Bool
  | .setId clientId => do
      update fun client => { client with clientId := clientId }
      return true
  | .setBrokerAddress host port => do
      modify fun m => { m with tls := { m.tls with host := host, port := port } }
      return true
  | .setPsk psk pskId => do
      update fun client => { client with psk := psk, pskId := pskId }
      return true
  | .setCommandTimeout timeout => do
      Mqtt.update fun mqtt => { mqtt with commandTimeout := timeout }
      return true
  | .setQoS qos => do
      update fun client => { client with qos := qos }
      return true
  | .usePersistentSession usePersistentSession => do
      update fun client => { client with usePersistentSession := usePersistentSession }
      return true
  | .connect => connect platform
  | .reconnect => reconnect platform
  | .disconnect => do
      disconnect
      return true
  | .isConnected => isConnected
  | .subscribe topic => subscribe platform topic
  | .unsubscribe topic => unsubscribe platform topic
  | .publish topic message => publish platform topic message
  | .runMessageLoop timeout => runMessageLoop platform timeout

end IotClient.MqttTls
