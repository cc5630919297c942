import IotClient.Proof.Authentication
import IotClient.Proof.Configuration
import IotClient.Spec.Independence

namespace IotClient
open Logic

namespace Client

/-! ## Two sessions that begin alike -/

/-- What is known of two clients when only one of them has had sessions. -/
def renewed : Known where
  ownError := False
  clientError := False
  session := False
  exact := False
  buffer := False
  line := False
  settings := True
  secret := False

def Resting (state : State) (m : Machine) : Prop :=
  m.impl.state = state ∧ m.mqtt.isconnected = false ∧ m.impl.authenticated = false

def Dormant (state : State) (m other : Machine) : Prop := Resting state m ∧ m.Twin renewed other

def live : Known := { renewed with ownError := True, clientError := True, session := True }

def Live (m other : Machine) : Prop := m.impl.state.stage = 2 ∧ m.Twin live other

/-- The two clients are at the same point of a session, or between two sessions. -/
def Paired (m other : Machine) : Prop := Dormant .noSession m other ∨ Dormant .initial m other ∨ Live m other

theorem Resting.steady {state : State} {before after : Machine} (steady : Steady before after) (resting : Resting state before) :
    Resting state after :=
  ⟨steady.state.trans resting.1, steady.isconnected.trans resting.2.1, steady.authenticated.trans resting.2.2⟩

section Calls

variable (platform : Platform)

def noted : Known := { renewed with ownError := True }

theorem Dormant.paired {state : State} (idle : state = .noSession ∨ state = .initial) {m other : Machine}
    (dormant : Dormant state m other) : Paired m other := by
  rcases idle with rfl | rfl
  · exact .inl dormant
  · exact .inr (.inl dormant)

variable {m other : Machine}

theorem Paired.log (paired : Paired m other) : other.log = m.log := by
  rcases paired with dormant | dormant | awake
  · exact dormant.2.log
  · exact dormant.2.log
  · exact awake.2.log

/-- The client without what `StartSession` sets. -/
def blank (m : Machine) : Machine :=
  { m with
    tls := { m.tls with host := [], port := [] }
    mqtt := { m.mqtt with commandTimeout := 30000 }
    mqttTls := { m.mqttTls with clientId := [], qos := .qos2, usePersistentSession := true }
    impl := { m.impl with userId := [], privateMessagesTopic := [] } }

end Calls

end Client

end IotClient
