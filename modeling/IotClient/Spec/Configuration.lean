import IotClient.Model.Client

namespace IotClient.Client

/-! ## Edits of the configuration during a session -/

/-- `Configure`, and every change that is made through the reference that `GetConfig` returns. -/
def Call.edits : Call → Bool
  | .configure _ => true
  | _ => false

def seen (m : Machine) : List Event × Bytes × Bytes := (m.log, m.mqttTls.psk, m.mqttTls.pskId)

/-- What is seen of the rest of a session, to its end, is what is seen when no edit is made. -/
def EditsIgnored (platform : Platform) (m : Machine) (calls : List Call) : Prop :=
  ∀ ending, ending = [] ∨ ending = [.endSession] →
    seen (run platform (calls ++ ending) m) = seen (run platform (calls.filter (!·.edits) ++ ending) m)

/-- The edit leaves alone what is read again whenever a connection is made or a private message is sent or received. -/
def Call.Harmless (m : Machine) : Call → Prop
  | .configure conf => conf.authServerUrl = m.impl.conf.authServerUrl ∧ conf.identity = m.impl.conf.identity
  | .endSession => False
  | _ => True

def Harmless (platform : Platform) : List Call → Machine → Prop
  | [], _ => True
  | call :: rest, m => call.Harmless m ∧ Harmless platform rest (step platform m call)

end IotClient.Client
