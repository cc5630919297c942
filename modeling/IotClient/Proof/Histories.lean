import IotClient.Proof.Faults
import IotClient.Proof.InFlight
import IotClient.Proof.Subscriptions

namespace IotClient
open Logic

theorem mem_insertTopic {topic other : Bytes} {topics : List Bytes} :
    other ∈ insertTopic topic topics ↔ other = topic ∨ other ∈ topics := by
  induction topics with
  | nil => simp [insertTopic]
  | cons first rest ih =>
      rw [insertTopic]
      split
      · rename_i same
        simp [same]
      · split
        · simp
        · simp only [List.mem_cons, ih]
          constructor
          · rintro (first | same | member) <;> simp [*]
          · rintro (same | first | member) <;> simp [*]

theorem getPrivateMessageTopic_plain (userId : Bytes) : 0 ∉ getPrivateMessageTopic userId := by
  have hex : 0 ∉ hexEncode userId := by
    induction userId with
    | nil => simp [hexEncode]
    | cons c rest ih =>
        have all : ∀ n : Fin 256, 0 ∉ [hexChar (UInt8.ofFin n >>> 4), hexChar (UInt8.ofFin n &&& 15)] := by
          decide +kernel
        have digits := all c.toFin
        rw [hexEncode_cons]
        simp only [List.mem_cons, List.not_mem_nil, or_false, not_or] at digits ⊢
        exact ⟨digits.1, digits.2, ih⟩
  have suffix : (0 : UInt8) ∉ bytes "/pm" := by decide
  simp [getPrivateMessageTopic, hex, suffix]

/-! ## Commands -/

section Commands

variable {subs : List Bytes} {topic : Bytes} (platform : Platform)

theorem command_yields (plain : ∀ other ∈ subs, 0 ∉ other) {action : M Bool} {success : Impl → Impl}
    {subs' : List Bytes} (acts : Yields (Online subs topic) action fun done m =>
      if done then Linked subs' topic { m with impl := success m.impl } else Linked subs topic m) :
    Yields (Linked subs topic) (Client.command platform action success) fun done m =>
      if done then Linked subs' topic m else Linked subs topic m := by
  refine Triple.bind (checkState_yields platform plain) fun checked => ?_
  cases checked with
  | false => exact Triple.pure fun _ given => given
  | true =>
      refine Triple.bind acts fun done => ?_
      cases done with
      | true =>
          have updated : Yields (fun m => Linked subs' topic { m with impl := success m.impl }) (Client.update success)
              fun _ => Linked subs' topic := Triple.modify fun _ given => given
          exact Triple.bind updated fun _ => Triple.pure fun _ given => given
      | false =>
          have reported : Yields (Linked subs topic) Client.reportClientError fun _ => Linked subs topic :=
            (loose_of_steady reportClientError_steady).yields Linked.loose
          exact Triple.bind reported fun _ => Triple.pure fun _ given => given

theorem subscribe_yields (plain : ∀ other ∈ subs, 0 ∉ other) {filter : Bytes} (plainFilter : 0 ∉ filter) :
    Yields (Linked subs topic) (Client.subscribe platform filter) fun done m =>
      if done then Linked (insertTopic filter subs) topic m else Linked subs topic m := by
  apply command_yields platform plain
  apply yields_of_returns
  rintro before done after ⟨⟨linked, state⟩, _⟩ run
  have outcome := clientSubscribe_outcome platform plainFilter run
  cases done with
  | false =>
      have at' : At subs topic (fun _ => True) before := ⟨linked, trivial⟩
      exact (at'.broken outcome).1
  | true =>
      obtain ⟨answered, subscribes⟩ := outcome
      have subscriptions : after.impl.subscriptions = subs := by
        rw [answered.impl]
        exact linked.subscriptions
      simp only [if_true, subscriptions]
      refine linked.answered answered (fun other member => ?_) (by simp [state])
      rcases mem_insertTopic.mp member with rfl | member
      · exact .inr subscribes
      · exact .inl ⟨member, trivial⟩

theorem unsubscribe_yields (plain : ∀ other ∈ subs, 0 ∉ other) {filter : Bytes} (plainFilter : 0 ∉ filter) :
    Yields (Linked subs topic) (Client.unsubscribe platform filter) fun done m =>
      if done then Linked (subs.filter (· != filter)) topic m else Linked subs topic m := by
  apply command_yields platform plain
  apply yields_of_returns
  rintro before done after ⟨⟨linked, state⟩, _⟩ run
  have outcome := clientUnsubscribe_outcome platform plainFilter run
  cases done with
  | false =>
      have at' : At subs topic (fun _ => True) before := ⟨linked, trivial⟩
      exact (at'.broken outcome).1
  | true =>
      have subscriptions : after.impl.subscriptions = subs := by
        rw [outcome.impl]
        exact linked.subscriptions
      simp only [if_true, subscriptions]
      refine linked.answered outcome (fun other member => .inl ?_) (by simp [state])
      simpa using member

theorem loose_command_yields (plain : ∀ other ∈ subs, 0 ∉ other) {action : M Bool} (loose : Keeps Loose action) :
    Yields (Linked subs topic) (Client.command platform action id) fun _ => Linked subs topic := by
  have acts : Yields (Online subs topic) action fun done m =>
      if done then Linked subs topic { m with impl := id m.impl } else Linked subs topic m :=
    (loose.yields Linked.loose).weaken (fun _ given => given.1.1) (fun _ _ given => by simpa using given)
      fun _ given => given
  exact (command_yields platform plain acts).weaken (fun _ given => given) (fun _ _ given => by simpa using given)
    fun _ given => given

/-! ## Sessions -/

theorem prepare_yields (conf : Config) (userId : Bytes) :
    Yields (Linked [] topic) (Client.prepare conf userId) fun _ => Linked [] (getPrivateMessageTopic userId) := by
  have updated {topic topic' : Bytes} {change : Machine → Machine}
      (impl : ∀ m, (change m).impl.subscriptions = m.impl.subscriptions)
      (private' : ∀ m, m.impl.privateMessagesTopic = topic → (change m).impl.privateMessagesTopic = topic')
      (isconnected : ∀ m, (change m).mqtt.isconnected = m.mqtt.isconnected)
      (sessionPresent : ∀ m, (change m).mqttTls.sessionPresent = m.mqttTls.sessionPresent)
      (log : ∀ m, (change m).log = m.log) :
      Yields (Linked [] topic) (modify change : M PUnit) fun _ => Linked [] topic' := by
    apply Triple.modify
    intro m linked
    refine ⟨(impl m).trans linked.subscriptions, private' m linked.privateMessagesTopic, ?_, ?_,
      fun _ _ => .inr (by simp), by simp⟩
    · rw [isconnected, log]
      exact linked.complete
    · rw [sessionPresent, log]
      exact linked.present
  refine Triple.bind (updated (fun _ => rfl) (fun _ _ => rfl) (fun _ => rfl) (fun _ => rfl) fun _ => rfl) fun _ => ?_
  refine Triple.bind (updated (fun _ => rfl) (fun _ same => same) (fun _ => rfl) (fun _ => rfl) fun _ => rfl) fun _ => ?_
  have timed : Yields (Linked [] (getPrivateMessageTopic userId))
      (onlyIf (conf.mqttCommandTimeoutMillisec > 0) (Mqtt.update fun mqtt =>
        { mqtt with commandTimeout := conf.mqttCommandTimeoutMillisec }))
      fun _ => Linked [] (getPrivateMessageTopic userId) := by
    refine Triple.ite (fun _ => ?_) fun _ => Triple.pure fun _ given => given
    exact updated (fun _ => rfl) (fun _ same => same) (fun _ => rfl) (fun _ => rfl) fun _ => rfl
  refine Triple.bind timed fun _ => ?_
  refine Triple.bind (updated (fun _ => rfl) (fun _ same => same) (fun _ => rfl) (fun _ => rfl) fun _ => rfl) fun _ => ?_
  exact updated (fun _ => rfl) (fun _ same => same) (fun _ => rfl) (fun _ => rfl) fun _ => rfl

def Kept (topics : List Bytes) (m : Machine) : Prop :=
  ∃ subs topic, Linked subs topic m ∧ (∀ other ∈ subs, 0 ∉ other) ∧ 0 ∉ topic ∧ ∀ other ∈ topics, other ∈ subs

theorem kept_of_yields {topics : List Bytes} {program : M Bool} {after : Bool → List Bytes}
    (yields : ∀ subs topic, (∀ other ∈ subs, 0 ∉ other) → 0 ∉ topic → (∀ other ∈ topics, other ∈ subs) →
      Yields (Linked subs topic) program fun result m => Kept (after result) m) :
    Yields (Kept topics) program fun result => Kept (after result) := by
  rintro m ⟨subs, topic, linked, plain, plainTopic, member⟩
  exact yields subs topic plain plainTopic member m linked

theorem startSession_kept (topics : List Bytes) :
    Yields (Kept topics) (Client.startSession platform) fun _ => Kept topics := by
  apply Triple.get
  intro read
  apply Triple.ite
  · intro state
    apply Triple.get
    intro _
    apply yields_of_returns
    rintro before _ after ⟨_, rfl, subs, topic, linked, plain, _, members⟩ run
    obtain rfl : subs = [] := linked.empty (.inl state)
    obtain ⟨userId, between, identified, run⟩ := run_bind_eq_ok.mp run
    have linked' := linked.loose ((loose_of_steady (ofExcept_steady _)).returns identified)
    obtain ⟨_, prepared, preparing, run⟩ := run_bind_eq_ok.mp run
    have linked'' := (prepare_yields _ _).returns linked' preparing
    obtain ⟨checked, final, checking, run⟩ := run_bind_eq_ok.mp run
    obtain ⟨_, rfl⟩ := run_pure_eq_ok.mp run
    have outcome := (checkState_yields platform plain).returns linked'' checking
    refine ⟨[], getPrivateMessageTopic userId, ?_, by simp, getPrivateMessageTopic_plain userId, members⟩
    cases checked with
    | true => exact outcome.1.1
    | false => exact outcome
  · intro _
    exact Triple.pure fun _ given => given.2

theorem endSession_kept (topics : List Bytes) :
    Yields (Kept topics) Client.endSession fun _ => Kept [] := by
  refine Triple.read fun m => Triple.ite (fun _ => Triple.pure ?_) fun _ => ?_
  · rintro m ⟨subs, topic, linked, plain, plainTopic, _⟩
    exact ⟨subs, topic, linked, plain, plainTopic, by simp⟩
  · apply yields_of_returns
    rintro before _ after ⟨subs, topic, linked, _, plainTopic, _⟩ run
    obtain ⟨_, between, disconnecting, run⟩ := run_bind_eq_ok.mp run
    have linked' := linked.loose (clientDisconnect_loose.returns disconnecting)
    obtain rfl := run_modify_eq_ok.mp run
    exact ⟨[], topic, ⟨rfl, linked'.privateMessagesTopic, linked'.complete, linked'.present, by simp, by simp⟩,
      by simp, plainTopic, by simp⟩

theorem Kept.loose {topics : List Bytes} {before after : Machine} (loose : Loose before after)
    (kept : Kept topics before) : Kept topics after := by
  obtain ⟨subs, topic, linked, rest⟩ := kept
  exact ⟨subs, topic, linked.loose loose, rest⟩

theorem sendPrivateMessage_kept (topics : List Bytes) (userIdTo payload : Bytes) (encrypt : Bool) :
    Yields (Kept topics) (Client.sendPrivateMessage platform userIdTo payload encrypt) fun _ => Kept topics := by
  apply yields_of_returns
  intro before result after kept run
  have publishing (topic text : Bytes) :
      Yields (Kept topics) (Client.publish platform topic text) fun _ => Kept topics :=
    kept_of_yields fun subs topic plain plainTopic members =>
      (loose_command_yields platform plain (clientPublish_loose platform _ _)).weaken (fun _ given => given)
        (fun _ m given => ⟨subs, topic, given, plain, plainTopic, members⟩) fun _ given => given
  have seeded : Keeps Loose (if encrypt then nextIv else pure none) :=
    Keeps.ite (fun _ => loose_of_steady (reply_steady (fun _ => rfl) fun _ => List.Subset.refl _)) fun _ => Keeps.pure _
  rcases run_tryCatch_eq_ok.mp run with run | ⟨fault, between, raised, handled⟩
  · obtain ⟨random, seededState, seeding, run⟩ := run_bind_eq_ok.mp run
    have kept' := kept.loose (seeded.returns seeding)
    obtain ⟨text, between, serializing, run⟩ := run_bind_eq_ok.mp (run_get_bind ▸ run)
    have kept'' := kept'.loose ((loose_of_steady (ofExcept_steady _)).returns serializing)
    exact (publishing _ _).returns kept'' run
  · cases fault with
    | iot what =>
        have kept' : Kept topics between := by
          rcases run_bind_eq_error.mp raised with seeding | ⟨random, seededState, seeding, raised⟩
          · have none : Throws (fun _ => False) (if encrypt then nextIv else pure none) :=
              Throws.ite (Throws.modifyGet _) (Throws.pure _)
            exact (none _ _ _ seeding).elim
          · have kept' := kept.loose (seeded.returns seeding)
            rcases run_bind_eq_error.mp (run_get_bind ▸ raised) with serializing | ⟨text, _, _, publishing⟩
            · exact kept'.loose ((loose_of_steady (ofExcept_steady _)).faults serializing)
            · exact (publish_throws platform _ _ _ _ _ publishing).elim
        obtain ⟨_, notified, notifying, handled⟩ := run_bind_eq_ok.mp handled
        obtain ⟨_, rfl⟩ := run_pure_eq_ok.mp handled
        exact kept'.loose ((loose_of_steady (emit_steady rfl)).returns notifying)
    | _ => exact absurd handled run_throw_ne_ok

theorem perform_kept {topics : List Bytes} {call : Client.Call} (plainCall : call.plain) (before : Machine) :
    Yields (fun m => m = before ∧ Kept topics m) (Client.perform platform call)
      fun result m => Kept (call.keep before result topics) m := by
  have whole {after : Bool → List Bytes} (yields : Yields (Kept topics) (Client.perform platform call)
      fun result m => Kept (after result) m) :
      Yields (fun m => m = before ∧ Kept topics m) (Client.perform platform call)
        fun result m => Kept (after result) m :=
    yields.weaken (fun _ given => given.2) (fun _ _ given => given) fun _ given => given
  have subscribing {filter : Bytes} (plainFilter : 0 ∉ filter) :
      Yields (Kept topics) (Client.subscribe platform filter)
        fun result m => Kept (if result then filter :: topics else topics) m := by
    apply kept_of_yields
    intro subs topic plain plainTopic members
    refine (subscribe_yields platform plain plainFilter).weaken (fun _ given => given) ?_ fun _ given => given
    intro result m linked
    cases result with
    | false => exact ⟨subs, topic, linked, plain, plainTopic, members⟩
    | true =>
        refine ⟨insertTopic filter subs, topic, linked, fun other member => ?_, plainTopic, fun other member => ?_⟩
        · rcases mem_insertTopic.mp member with rfl | member
          · exact plainFilter
          · exact plain other member
        · rcases List.mem_cons.mp member with rfl | member
          · exact mem_insertTopic.mpr (.inl rfl)
          · exact mem_insertTopic.mpr (.inr (members other member))
  have aside {action : M Bool} (loose : Keeps Loose action) :
      Yields (Kept topics) (Client.command platform action id) fun _ => Kept topics :=
    kept_of_yields fun subs topic plain plainTopic members =>
      (loose_command_yields platform plain loose).weaken (fun _ given => given)
        (fun _ m given => ⟨subs, topic, given, plain, plainTopic, members⟩) fun _ given => given
  cases call with
  | configure conf =>
      apply whole
      refine Triple.bind (Triple.modify ?_) fun _ => Triple.pure fun _ given => given
      rintro m ⟨subs, topic, linked, rest⟩
      exact ⟨subs, topic, ⟨linked.subscriptions, linked.privateMessagesTopic, linked.complete, linked.present,
        linked.restored, linked.empty⟩, rest⟩
  | startSession => exact whole (Triple.bind (startSession_kept platform topics) fun _ => Triple.pure fun _ given => given)
  | endSession => exact whole (Triple.bind (endSession_kept topics) fun _ => Triple.pure fun _ given => given)
  | isConnected => exact whole (isConnected_loose.yields Kept.loose)
  | subscribe filter => exact whole (subscribing plainCall)
  | unsubscribe filter =>
      apply whole
      apply kept_of_yields
      intro subs topic plain plainTopic members
      refine (unsubscribe_yields platform plain plainCall).weaken (fun _ given => given) ?_ fun _ given => given
      intro result m linked
      cases result with
      | false =>
          refine ⟨subs, topic, linked, plain, plainTopic, fun other member => members other ?_⟩
          exact (List.mem_filter.mp member).1
      | true =>
          refine ⟨subs.filter (· != filter), topic, linked, fun other member => plain other (List.mem_filter.mp member).1,
            plainTopic, fun other member => ?_⟩
          obtain ⟨kept, different⟩ := List.mem_filter.mp member
          exact List.mem_filter.mpr ⟨members other kept, by simpa using different⟩
  | publish filter payload => exact whole (aside (clientPublish_loose platform filter payload))
  | listenForPrivateMessages =>
      rintro m ⟨rfl, subs, topic, linked, plain, plainTopic, members⟩
      have plainOwn : 0 ∉ m.impl.privateMessagesTopic := by
        rw [linked.privateMessagesTopic]
        exact plainTopic
      exact subscribing plainOwn m ⟨subs, topic, linked, plain, plainTopic, members⟩
  | sendPrivateMessage userIdTo payload encrypt =>
      exact whole (sendPrivateMessage_kept platform topics userIdTo payload encrypt)
  | runMessageLoop timeout => exact whole (aside (loose_of_steady (runMessageLoop_steady platform timeout)))

theorem fresh_kept (readbuf : Bytes) (replies : Replies) : Kept [] (Client.fresh readbuf replies) := by
  refine ⟨[], [], ⟨rfl, rfl, ?_, ?_, ?_, fun _ => rfl⟩, by simp, by simp, by simp⟩
  · intro connected
    cases connected
  · intro present
    cases present
  · intro state
    cases state

theorem history_kept {m : Machine} {topics : List Bytes} (history : Client.History platform m topics) :
    Kept topics m := by
  refine history.invariant (fun played => Kept played.2 played.1) ?_ ?_
  · rintro _ ⟨readbuf, replies, rfl⟩
    exact fresh_kept readbuf replies
  · rintro played call kept ⟨plain, result, after, run⟩
    rw [Client.play, run]
    exact (perform_kept platform plain _).returns ⟨rfl, kept⟩ run

/-! ## Durability -/

theorem Behaves.not_oddConnack {log : List Event} {world : World} (behaves : Behaves log world) :
    ¬ OddConnack log := by
  induction behaves with
  | start stored =>
      rintro ⟨frame, member, _⟩
      cases member
  | step _ _ ih => exact ih
  | @event log world next event _ seen ih =>
      rintro ⟨frame, member, typed, odd⟩
      rcases List.mem_cons.mp member with rfl | member
      · simp [World.sees, typed, odd] at seen
      · exact ih ⟨frame, member, typed, odd⟩

/-- When the state check succeeds, the broker's session holds the topics, unless it was dropped after the
CONNECT of the current connection. -/
theorem checkState_durable {m after : Machine} {topics : List Bytes} (history : Client.History platform m topics)
    (check : Client.checkState platform m = .ok true after) {world : World} (behaves : Behaves after.log world)
    (current : world.dropped = false) : Durable topics world := by
  obtain ⟨subs, topic, linked, plain, _, members⟩ := history_kept platform history
  obtain ⟨⟨linked', state⟩, isconnected⟩ := (checkState_yields platform plain).returns linked check
  have restored := (linked'.restored state isconnected).resolve_left behaves.not_oddConnack
  intro other member
  exact behaves.holds (linked'.complete isconnected) (restored other (members other member)) current

end Commands

/-! ## Sample histories -/

def World.eager (stored : List Bytes) : List Event → Option World
  | [] => some (World.initial stored)
  | event :: log => do
      let next ← (← eager stored log).sees event
      match event with
      | .sent packet => return { next with pending := [] }.process next.connections packet
      | _ => return next

theorem World.sees_received {world next : World} {frame : Frame} (seen : world.sees (.received frame) = some next) :
    next.pending = world.pending := by
  rw [World.sees] at seen
  split at seen
  · split at seen
    · cases seen
      rfl
    · cases seen
  · split at seen
    · cases seen
      rfl
    · cases seen
  · cases seen
    rfl

theorem World.eager_behaves {stored : List Bytes} {log : List Event} {world : World}
    (processed : World.eager stored log = some world) : Behaves log world ∧ world.pending = [] := by
  induction log generalizing world with
  | nil =>
      cases processed
      exact ⟨.start stored, rfl⟩
  | cons event log ih =>
      rw [World.eager] at processed
      obtain ⟨earlier, processedEarlier, processed⟩ := Option.bind_eq_some_iff.mp processed
      obtain ⟨next, seen, processed⟩ := Option.bind_eq_some_iff.mp processed
      obtain ⟨behaves, idle⟩ := ih processedEarlier
      have behaves' := behaves.event seen
      cases event with
      | sent packet =>
          cases processed
          cases seen
          have pending : earlier.pending ++ [(earlier.connections, packet)] =
              [] ++ (earlier.connections, packet) :: [] := by
            rw [idle]
          have first : ∀ other ∈ ([] : List (Nat × Packet)), other.1 ≠ earlier.connections := by simp
          exact ⟨behaves'.step (.process pending first), (World.process_pending _ _ _).1⟩
      | received frame =>
          cases processed
          exact ⟨behaves', (World.sees_received seen).trans idle⟩
      | _ =>
          cases processed
          cases seen
          exact ⟨behaves', idle⟩

def subscribeOnce : List Client.Call :=
  [.configure (sampleConf true true), .startSession, .subscribe (bytes "t")]

def grantingReplies : Replies :=
  sampleReplies (List.replicate 6 1) [none, none] (List.replicate 6 (.sent false))
    [sampleConnack 0, sampleConnack 0, samplePacket 0x90 [0, 1, 2] (by simp)]

def returned {ε σ α : Type} : EStateM.Result ε σ α → Bool
  | .ok _ _ => true
  | .error _ _ => false

theorem Client.history_played {platform : Platform} {calls : List Client.Call} {readbuf : Bytes} {replies : Replies}
    (passed : passes (Client.play platform)
      (fun played call => call.plain && returned (Client.perform platform call played.1)) calls
      (Client.fresh readbuf replies, [])) :
    Client.History platform (calls.foldl (Client.play platform) (Client.fresh readbuf replies, [])).1
      (calls.foldl (Client.play platform) (Client.fresh readbuf replies, [])).2 := by
  refine Reachable.run ?_ (.start ⟨readbuf, replies, rfl⟩) passed
  intro played call test
  rw [Bool.and_eq_true, decide_eq_true_eq] at test
  refine ⟨test.1, ?_⟩
  cases run : Client.perform platform call played.1 with
  | ok result after => exact ⟨result, after, rfl⟩
  | error fault after =>
      rw [run] at test
      cases test.2

def Client.checked (platform : Platform) (m : Machine) : Option (Machine × World) :=
  match Client.checkState platform m with
  | .ok true after => do return (after, ← World.eager [] after.log)
  | _ => none

theorem Client.checked_behaves {platform : Platform} {m after : Machine} {world : World}
    (checked : Client.checked platform m = some (after, world)) :
    Client.checkState platform m = .ok true after ∧ Behaves after.log world := by
  unfold Client.checked at checked
  split at checked
  · rename_i final check
    obtain ⟨eager, processed, same⟩ := Option.bind_eq_some_iff.mp checked
    cases same
    exact ⟨check, (World.eager_behaves processed).1⟩
  · cases checked

theorem subscribeOnce_checked : ∃ m after world,
    Client.History (plainPlatform .signed) m [bytes "t"] ∧
      Client.checkState (plainPlatform .signed) m = .ok true after ∧ Behaves after.log world ∧
      world.dropped = false := by
  -- the run is named, so that nothing but the kernel evaluates it
  obtain ⟨played, run⟩ : ∃ played, played =
    subscribeOnce.foldl (Client.play (plainPlatform .signed)) (Client.fresh [] grantingReplies, []) := ⟨_, rfl⟩
  have history : Client.History (plainPlatform .signed) played.1 played.2 := by
    rw [run]
    exact Client.history_played (by decide +kernel)
  have topics : played.2 = [bytes "t"] := by
    rw [run]
    decide +kernel
  have evaluated : (Client.checked (plainPlatform .signed) played.1).any fun outcome => outcome.2.dropped = false := by
    rw [run]
    decide +kernel
  obtain ⟨⟨after, world⟩, checked, current⟩ := (Option.any_eq_true _ _).mp evaluated
  obtain ⟨check, behaves⟩ := Client.checked_behaves checked
  exact ⟨played.1, after, world, topics ▸ history, check, behaves, of_decide_eq_true current⟩

theorem checkState_durable_granted : ∃ m after world,
    Client.History (plainPlatform .signed) m [bytes "t"] ∧
      Client.checkState (plainPlatform .signed) m = .ok true after ∧ Behaves after.log world ∧
      world.dropped = false ∧ Durable [bytes "t"] world := by
  obtain ⟨m, after, world, history, check, behaves, current⟩ := subscribeOnce_checked
  exact ⟨m, after, world, history, check, behaves, current,
    checkState_durable (plainPlatform .signed) history check behaves current⟩

/-- The broker sees the end of the connection and forgets the session, and the client has noticed nothing. -/
theorem not_checkState_durable : ¬ ∀ (platform : Platform) (m after : Machine) (topics : List Bytes) (world : World),
    Client.History platform m topics → Client.checkState platform m = .ok true after → Behaves after.log world →
      Durable topics world := by
  intro durable
  obtain ⟨m, after, world, history, check, behaves, _⟩ := subscribeOnce_checked
  have offline : world.detach.attached = none := by
    unfold World.detach
    split <;> rfl
  have forgotten := (behaves.step .detach).step (.forget offline)
  have held := durable _ _ _ _ _ history check forgotten (bytes "t") (by simp)
  cases held

end IotClient
