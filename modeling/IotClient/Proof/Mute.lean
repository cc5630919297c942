import IotClient.Proof.Digestion
import IotClient.Proof.Mechanics
import IotClient.Proof.Subscriptions

namespace IotClient
open Logic

/-! ## What leaves the session to the client -/

/-- The MQTT client calls the listener for no connection event, and does not touch what is the client's own. -/
structure Mute (before after : Machine) : Prop where
  log : ∃ events, after.log = events ++ before.log ∧ ∀ event ∈ events, event.connection = none
  impl : after.impl = before.impl
  reads : after.replies.reads ⊆ before.replies.reads

instance : Following Mute where
  refl m := ⟨⟨[], by simp⟩, rfl, List.Subset.refl _⟩
  trans first second := by
    obtain ⟨older, grows, all⟩ := first.log
    obtain ⟨newer, grows', all'⟩ := second.log
    refine ⟨⟨newer ++ older, ?_, ?_⟩, second.impl.trans first.impl, List.Subset.trans second.reads first.reads⟩
    · rw [grows', grows, List.append_assoc]
    · intro event member
      rcases List.mem_append.mp member with member | member
      · exact all' event member
      · exact all event member

theorem connection_of_passive {event : Event} (passive : event.passive) : event.connection = none := by
  cases event with
  | callback made => cases made <;> first | rfl | cases passive
  | _ => rfl

theorem Waits.mute {before after : Machine} (waits : Waits Event.passive before after) : Mute before after := by
  obtain ⟨events, grows, all⟩ := waits.log
  exact ⟨⟨events, grows, fun event member => connection_of_passive (all event member)⟩, waits.impl, waits.reads⟩

theorem mute_of_passive {α : Type} {program : M α} (waits : Keeps (Waits Event.passive) program) : Keeps Mute program :=
  waits.mono Waits.mute

theorem mute_of_quiet {α : Type} {program : M α} (waits : Keeps (Waits Event.quiet) program) : Keeps Mute program :=
  waits.mono fun quiet => quiet.passive.mute

theorem emit_mute {event : Event} (silent : event.connection = none) : Keeps Mute (emit event) :=
  Keeps.modify fun _ => ⟨⟨[event], rfl, by simpa using silent⟩, rfl, List.Subset.refl _⟩

theorem mqtt_mute (change : Mqtt → Mqtt) : Keeps Mute (Mqtt.update change) :=
  Keeps.modify fun _ => ⟨⟨[], by simp⟩, rfl, List.Subset.refl _⟩

theorem mqttTls_mute (change : MqttTls → MqttTls) : Keeps Mute (MqttTls.update change) :=
  Keeps.modify fun _ => ⟨⟨[], by simp⟩, rfl, List.Subset.refl _⟩

theorem sendPacket_mute {event : Event} (silent : event.connection = none) (timer : Timer) :
    Keeps Mute (Mqtt.sendPacket event timer) := by
  have waits : Keeps (Waits fun event => event.connection = none) (Mqtt.sendPacket event timer) :=
    sendPacket_waits timer (by simpa using silent) rfl
  refine waits.mono fun {before after} waits => ?_
  obtain ⟨⟨events, grows, all⟩, _, _, _, impl, _, reads⟩ := waits
  exact ⟨⟨events, grows, fun event member => by simpa using all event member⟩, impl, reads⟩

theorem tlsConnect_mute : Keeps Mute TlsConnection.connect := by
  refine Keeps.bind Keeps.get fun m => Keeps.ite (fun _ => Keeps.pure _) fun _ => ?_
  refine Keeps.bind (mute_of_quiet (reply_waits (fun _ => rfl) fun _ => List.Subset.refl _)) fun reply => ?_
  cases reply with
  | some error => exact Keeps.bind (mute_of_quiet (fail_waits error)) fun _ => Keeps.pure _
  | none =>
      refine Keeps.bind (Keeps.modify fun _ => ?_) fun _ => Keeps.bind (emit_mute rfl) fun _ => Keeps.pure _
      exact ⟨⟨[], by simp⟩, rfl, List.Subset.refl _⟩

theorem linkage_mute : Linkage Mute where
  startTimer _ := mute_of_quiet (startTimer_waits rfl)
  sendPacket outgoing timer := by cases outgoing <;> exact sendPacket_mute rfl timer
  nextUnset := mute_of_quiet (reply_waits (fun _ => rfl) fun _ => List.Subset.refl _)
  mqtt _ := mqtt_mute _
  clean := mqtt_mute _
  ended := mqtt_mute _
  client _ := mqttTls_mute _
  onError _ := Keeps.bind Keeps.get fun _ => Keeps.bind (mqttTls_mute _) fun _ => Keeps.pure _
  tlsConnect := tlsConnect_mute
  close := mute_of_quiet (close_waits rfl)

theorem mechanics_mute (platform : Platform) : Mechanics platform Mute where
  toLinkage := linkage_mute
  cycle timer := mute_of_passive (cycle_waits platform timer)

end IotClient
