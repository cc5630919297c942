import IotClient.Proof.Session

namespace IotClient
open Logic

/-! ## Reports of failures -/

def Since (base : List Event) (m : Machine) : Prop := ∃ events, m.log = events ++ base

def Reported (base : List Event) (m : Machine) : Prop :=
  ∃ error events, m.log = .callback (.onError error) :: events ++ base

def Answers (base : List Event) (ok : Bool) (m : Machine) : Prop :=
  if ok then Since base m else Reported base m

def Unstuck (base : List Event) (m : Machine) : Prop := Since base m ∧ ¬ m.Stuck

section Reports

variable (platform : Platform) {base : List Event}

theorem since_of_grows {α : Type} {program : M α} (grows : Keeps Grows program) : Preserves (Since base) program := by
  refine grows.preserves ?_
  rintro before after ⟨newer, grows⟩ ⟨events, log⟩
  exact ⟨newer ++ events, by rw [grows, log, List.append_assoc]⟩

theorem notify_reports (error : Bytes) {faulty : Machine → Prop} :
    Triple (Since base) (notify (.onError error)) (fun _ => Reported base) faulty := by
  refine Triple.modify ?_
  rintro m ⟨events, log⟩
  exact ⟨error, events, congrArg _ log⟩

theorem Unstuck.steady {before after : Machine} (steady : Steady before after) (unstuck : Unstuck base before) :
    Unstuck base after := by
  obtain ⟨⟨events, log⟩, unstuck⟩ := unstuck
  obtain ⟨newer, grows, _⟩ := steady.log
  refine ⟨⟨newer ++ events, by rw [grows, log, List.append_assoc]⟩, ?_⟩
  rintro ⟨state, connected, isconnected⟩
  exact unstuck ⟨steady.state ▸ state, steady.connected connected, steady.isconnected ▸ isconnected⟩

theorem isConnected_unstuck :
    Triple (fun m => Unstuck base m ∧ (m.impl.state = .connected ∨ m.impl.state = .disconnected)) MqttTls.isConnected
      (fun connected m => Since base m ∧ (connected = true → m.impl.state = .connected)) (Since base) := by
  refine triple_of_returns ?_ isConnected_throws
  rintro before connected after ⟨⟨since, unstuck⟩, state⟩ run
  refine ⟨(since_of_grows (grows_of_mute linkage_mute.isConnected)).returns since run, ?_⟩
  rintro rfl
  obtain ⟨open', linked, rfl⟩ := isConnected_returns run
  exact state.resolve_right fun lost => unstuck ⟨lost, open', linked⟩

theorem reportConnected_answers : Triple (Since base) Client.reportConnected (Answers base) (Since base) := by
  refine Triple.bind (since_of_grows (update_grows _)) fun _ => ?_
  exact Triple.bind (since_of_grows (emit_grows _)) fun _ => Triple.pure fun _ since => since

theorem checkConnection_answers :
    Triple (fun m => Unstuck base m ∧ (m.impl.state = .connected ∨ m.impl.state = .disconnected))
      (Client.checkConnection platform) (Answers base) (Since base) := by
  refine Triple.bind isConnected_unstuck fun connected => ?_
  cases connected with
  | true =>
      refine Triple.get fun read => Triple.pure ?_
      rintro m ⟨rfl, since, connected⟩
      rw [connected rfl]
      exact since
  | false =>
      have lost (read : Machine) : Preserves (Since base) (onlyIf (read.impl.state = .connected) Client.reportLost) :=
        since_of_grows (onlyIf_keeps fun _ => (conduct_grows platform).reportLost)
      refine Triple.read fun read => Triple.bind ((lost read).starting fun _ given => given.1) fun _ => ?_
      refine Triple.bind (since_of_grows (conduct_grows platform).reconnect) fun reconnected => ?_
      cases reconnected with
      | true => exact reportConnected_answers
      | false =>
          refine Triple.bind (Triple.read fun m => notify_reports _) fun _ => Triple.get fun read => Triple.pure ?_
          rintro m ⟨rfl, error, events, log⟩
          cases decide (m.impl.state = .connected) with
          | true => exact ⟨_, log⟩
          | false => exact ⟨error, events, log⟩

theorem checkState_answers :
    Triple (Unstuck base) (Client.checkState platform) (Answers base) (Since base) := by
  refine Triple.get fun read => ?_
  cases state : read.impl.state with
  | noSession =>
      refine Triple.bind ((notify_reports _).starting fun _ given => given.2.1) fun _ => Triple.pure fun _ reported => ?_
      exact reported
  | initial =>
      have connecting : Preserves (Since base) (Client.initialConnect platform) :=
        since_of_grows (conduct_grows platform).initialConnect
      refine Triple.bind (connecting.starting fun _ given => given.2.1) fun connected => ?_
      cases connected with
      | true => exact reportConnected_answers
      | false => exact Triple.bind (Triple.read fun m => notify_reports _) fun _ => Triple.pure fun _ reported => reported
  | connected =>
      refine (checkConnection_answers platform).starting ?_
      rintro m ⟨rfl, unstuck⟩
      exact ⟨unstuck, .inl state⟩
  | disconnected =>
      refine (checkConnection_answers platform).starting ?_
      rintro m ⟨rfl, unstuck⟩
      exact ⟨unstuck, .inr state⟩

theorem command_answers {action : M Bool} (mute : Keeps Mute action) (success : Impl → Impl) :
    Triple (Unstuck base) (Client.command platform action success) (Answers base) (Since base) := by
  refine Triple.bind (checkState_answers platform) fun ok => ?_
  cases ok with
  | false => exact Triple.pure fun _ reported => reported
  | true =>
      refine Triple.bind (since_of_grows (grows_of_mute mute)) fun done => ?_
      cases done with
      | true => exact Triple.bind (since_of_grows (update_grows _)) fun _ => Triple.pure fun _ since => since
      | false => exact Triple.bind (Triple.read fun m => notify_reports _) fun _ => Triple.pure fun _ reported => reported

theorem sendPrivateMessage_answers (userIdTo payload : Bytes) (encrypt : Bool) :
    Triple (Unstuck base) (Client.sendPrivateMessage platform userIdTo payload encrypt) (Answers base) (Since base) := by
  have kept {α : Type} {program : M α} (steady : Keeps Steady program) :
      Triple (Unstuck base) program (fun _ => Unstuck base) (Since base) :=
    (steady.preserves Unstuck.steady).weaken (fun _ given => given) (fun _ _ given => given) fun _ unstuck => unstuck.1
  have seeded : Keeps Steady (if encrypt then nextIv else pure none) :=
    Keeps.ite (fun _ => reply_steady (fun _ => rfl) fun _ => List.Subset.refl _) fun _ => Keeps.pure _
  refine Triple.tryCatch (Triple.bind (kept seeded) fun random => Triple.read fun m => ?_) fun fault => ?_
  · refine Triple.bind (kept (ofExcept_steady _)) fun text => ?_
    exact command_answers platform ((mechanics_mute platform).publish _ text) id
  · cases fault with
    | iot what => exact Triple.bind (notify_reports _) fun _ => Triple.pure fun _ reported => reported
    | _ => exact Triple.throw fun _ since => since

theorem perform_answers {call : Client.Call} (command : call.command) :
    Triple (Unstuck base) (Client.perform platform call) (Answers base) (Since base) := by
  cases call with
  | subscribe topic => exact command_answers platform ((mechanics_mute platform).subscribe topic) _
  | unsubscribe topic => exact command_answers platform ((mechanics_mute platform).unsubscribe topic) _
  | publish topic payload => exact command_answers platform ((mechanics_mute platform).publish topic payload) _
  | listenForPrivateMessages =>
      exact Triple.read fun m => command_answers platform ((mechanics_mute platform).subscribe _) _
  | sendPrivateMessage userIdTo payload encrypt => exact sendPrivateMessage_answers platform userIdTo payload encrypt
  | runMessageLoop timeout => exact command_answers platform ((mechanics_mute platform).runMessageLoop timeout) _
  | _ => cases command

theorem reportsFailures_of_unstuck {m : Machine} (unstuck : ¬ m.Stuck) : ReportsFailures platform m := by
  intro call after command run
  obtain ⟨error, events, log⟩ := (perform_answers platform command).returns ⟨⟨[], rfl⟩, unstuck⟩ run
  rw [since_append m after _ log]
  exact ⟨error, List.mem_cons_self⟩

/-- While every packet to come can be processed, the two layers agree on the connection and no failure is silent. -/
theorem reached_reportsFailures {m : Machine} {session : List Event}
    (reached : Client.Reached platform (Machine.Digests platform.sign) m session) :
    ReportsFailures platform m ∧ ¬ m.Stuck := by
  obtain ⟨base, log, sound⟩ := reached_inSession platform reached
  have unstuck : ¬ m.Stuck := by
    rintro ⟨lost, _, linked⟩
    rw [sound.unlinked lost] at linked
    cases linked
  exact ⟨reportsFailures_of_unstuck platform unstuck, unstuck⟩

end Reports

/-! ## Sample runs -/

theorem reached_reportsFailures_lost : ∃ m : Machine,
    m.impl.state = .connected ∧ m.tls.connected = false ∧ ReportsFailures (plainPlatform .signed) m ∧ ¬ m.Stuck := by
  have passed : passes (Client.follow (plainPlatform .signed)) (fun followed _ => followed.1.unassuming)
      (subscribeAndListen 1) (Client.fresh [] (secondChance [sampleConnack 0, sampleSuback 1, lostConnection]), []) := by
    decide +kernel
  refine ⟨_, ?_, ?_, reached_reportsFailures (plainPlatform .signed) (Client.reached_digests passed)⟩
  · decide +kernel
  · decide +kernel

def restoringReplies : Replies :=
  secondChance [sampleConnack 0, sampleSuback 1, lostConnection, sampleConnack 0, malformedPublish]

def failsSilently (m : Machine) : EStateM.Result Fault Machine Bool → Bool
  | .ok result after => !result && (m.since after).isEmpty
  | .error _ _ => false

theorem not_reportsFailures {platform : Platform} {call : Client.Call} {m : Machine} (command : call.command)
    (silent : failsSilently m (Client.perform platform call m)) : ¬ ReportsFailures platform m := by
  intro reports
  cases run : Client.perform platform call m with
  | ok result after =>
      rw [run, failsSilently, Bool.and_eq_true, List.isEmpty_iff] at silent
      cases result with
      | true => cases silent.1
      | false =>
          obtain ⟨error, member⟩ := reports call after command run
          rw [silent.2] at member
          cases member
  | error fault after =>
      rw [run] at silent
      cases silent

/-- The session stays disconnected on an open connection, and every further command fails without a report. -/
theorem not_reached_reportsFailures : ¬ ∀ (platform : Platform) (m : Machine) (session : List Event),
    Client.Reached platform (fun _ => True) m session → ReportsFailures platform m ∧ ¬ m.Stuck := by
  intro reports
  have reached := Client.reached_fresh (plainPlatform .signed) (subscribeAndListen 2) [] restoringReplies
  have command : Client.Call.command (.publish (bytes "t") (bytes "p")) := rfl
  refine not_reportsFailures command ?_ (reports _ _ _ reached).1
  decide +kernel

end IotClient
