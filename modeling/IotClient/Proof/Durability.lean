import IotClient.Proof.Steady
import IotClient.Spec.Durability

namespace IotClient
open Logic

/-! ## The current connection -/

def asked : List Event → Nat
  | [] => 0
  | .opened :: _ => 0
  | .sent (.subscribe _ _ _) :: older => asked older + 1
  | _ :: older => asked older

def answered : List Event → Nat
  | [] => 0
  | .opened :: _ => 0
  | .received frame :: older => answered older + if packetType frame.header = .suback then 1 else 0
  | _ :: older => answered older

def subscribed (topic : Bytes) : List Event → Bool
  | [] => false
  | .opened :: _ => false
  | .sent (.connect _ _ _) :: _ => false
  | .sent (.subscribe _ other _) :: older => other = topic || subscribed topic older
  | .sent (.unsubscribe _ other) :: older => other ≠ topic && subscribed topic older
  | _ :: older => subscribed topic older

/-! ## The broker -/

def Packet.subscribes : Packet → Nat
  | .subscribe _ _ _ => 1
  | _ => 0

def subscribes : List Packet → Nat
  | [] => 0
  | packet :: later => packet.subscribes + subscribes later

def Packet.effect (topic : Bytes) : Packet → Option Bool
  | .connect _ _ _ => some false
  | .subscribe _ other _ => if other = topic then some true else none
  | .unsubscribe _ other => if other = topic then some false else none
  | _ => none

def fate (topic : Bytes) : List Packet → Option Bool
  | [] => none
  | packet :: later => (fate topic later).or (packet.effect topic)

namespace World

def current (world : World) : List Packet :=
  world.pending.filterMap fun (connection, packet) => if connection = world.connections then some packet else none

def holds (world : World) (topic : Bytes) : Prop :=
  world.dropped ∨ (topic ∈ world.session ∧ ∀ connection, world.attached = some connection → connection = world.connections)

end World

/-- Every SUBSCRIBE over the current connection is still under way, answered or lost, and unless one is lost
the session is what the packets say. -/
structure Accounted (log : List Event) (world : World) : Prop where
  numbered : ∀ other ∈ world.pending, other.1 ≤ world.connections
  count : world.subacks + answered log + subscribes world.current ≤ asked log
  kept : ∀ topic, subscribed topic log →
    world.subacks + answered log + subscribes world.current < asked log ∨ fate topic world.current = some true ∨
      (fate topic world.current = none ∧ world.holds topic)

theorem subscribes_append (packets : List Packet) (packet : Packet) :
    subscribes (packets ++ [packet]) = subscribes packets + packet.subscribes := by
  induction packets with
  | nil => simp [subscribes]
  | cons first rest ih =>
      simp only [List.cons_append, subscribes, ih]
      omega

theorem fate_append (topic : Bytes) (packets : List Packet) (packet : Packet) :
    fate topic (packets ++ [packet]) = (packet.effect topic).or (fate topic packets) := by
  induction packets with
  | nil => simp [fate]
  | cons first rest ih => simp only [List.cons_append, fate, ih, Option.or_assoc]

theorem Packet.subscribes_of_effect {topic : Bytes} {packet : Packet} (effect : packet.effect topic = some true) :
    packet.subscribes = 1 := by
  cases packet <;> simp_all [Packet.effect, Packet.subscribes]

theorem fate_ne_some_true {topic : Bytes} {packets : List Packet} (silent : subscribes packets = 0) :
    fate topic packets ≠ some true := by
  induction packets with
  | nil => simp [fate]
  | cons packet later ih =>
      simp only [subscribes, Nat.add_eq_zero_iff] at silent
      intro last
      simp only [fate, Option.or_eq_some_iff] at last
      rcases last with last | ⟨_, own⟩
      · exact ih silent.2 last
      · exact absurd (Packet.subscribes_of_effect own) (by omega)

theorem Accounted.start (stored : List Bytes) : Accounted [] (World.initial stored) :=
  ⟨by simp [World.initial], by simp [World.initial, World.current, subscribes, answered, asked],
    by simp [subscribed]⟩

theorem Accounted.sent {log : List Event} {world : World} (accounted : Accounted log world) (packet : Packet) :
    Accounted (.sent packet :: log)
      { world with pending := world.pending ++ [(world.connections, packet)] } := by
  have current : World.current { world with pending := world.pending ++ [(world.connections, packet)] } =
      world.current ++ [packet] := by
    simp [World.current, List.filterMap_append]
  refine ⟨?_, ?_, ?_⟩
  · intro other member
    rcases List.mem_append.mp member with member | member
    · exact accounted.numbered other member
    · obtain rfl := List.mem_singleton.mp member
      exact Nat.le_refl _
  · have count := accounted.count
    rw [current, subscribes_append]
    cases packet <;> simp only [Packet.subscribes, asked, answered] <;> omega
  · intro topic last
    rw [current, subscribes_append, fate_append]
    cases packet with
    | connect => simp [subscribed] at last
    | subscribe id other qos =>
        by_cases same : other = topic
        · exact .inr (.inl (by simp [Packet.effect, same]))
        · have kept := accounted.kept topic (by simpa [subscribed, same] using last)
          simp only [Packet.subscribes, asked, answered, Packet.effect, same, if_false, Option.none_or]
          refine kept.imp_left fun lost => ?_
          omega
    | unsubscribe id other =>
        simp only [subscribed, Bool.and_eq_true, decide_eq_true_eq] at last
        have kept := accounted.kept topic last.2
        simpa [Packet.subscribes, asked, answered, Packet.effect, last.1, World.holds] using kept
    | _ => simpa [Packet.subscribes, asked, answered, Packet.effect, World.holds] using accounted.kept topic last

theorem Accounted.opened {log : List Event} {world : World} (accounted : Accounted log world) :
    Accounted (.opened :: log) { world with connections := world.connections + 1, subacks := 0 } := by
  have current : World.current { world with connections := world.connections + 1, subacks := 0 } = [] := by
    simp only [World.current, List.filterMap_eq_nil_iff, ite_eq_right_iff, reduceCtorEq, imp_false]
    intro other member
    have := accounted.numbered other member
    omega
  refine ⟨fun other member => Nat.le_succ_of_le (accounted.numbered other member), ?_, by simp [subscribed]⟩
  rw [current]
  simp [subscribes, answered, asked]

theorem Accounted.received {log : List Event} {world next : World} {frame : Frame}
    (accounted : Accounted log world) (seen : world.sees (.received frame) = some next) :
    Accounted (.received frame :: log) next := by
  simp only [World.sees] at seen
  by_cases suback : packetType frame.header = .suback
  · simp only [suback, Option.ite_none_right_eq_some, Option.some.injEq] at seen
    obtain ⟨some', rfl⟩ := seen
    have sum : world.subacks - 1 + answered (.received frame :: log) = world.subacks + answered log := by
      simp only [answered, suback, if_true]
      omega
    refine ⟨accounted.numbered, ?_, fun topic last => ?_⟩
    · show world.subacks - 1 + answered (.received frame :: log) + subscribes world.current ≤ asked log
      rw [sum]
      exact accounted.count
    · show world.subacks - 1 + answered (.received frame :: log) + subscribes world.current < asked log ∨ _
      rw [sum]
      exact accounted.kept topic last
  · have same : next = world := by
      split at seen
      · contradiction
      · simp only [Option.ite_none_right_eq_some, Option.some.injEq] at seen
        exact seen.2.symm
      · exact (Option.some.inj seen).symm
    subst same
    refine ⟨accounted.numbered, ?_, fun topic last => ?_⟩
    · simpa [answered, suback, asked] using accounted.count
    · simpa [answered, suback, asked] using accounted.kept topic last

theorem Accounted.event {log : List Event} {world next : World} {event : Event} (accounted : Accounted log world)
    (seen : world.sees event = some next) : Accounted (event :: log) next := by
  cases event with
  | opened =>
      obtain rfl := Option.some.inj seen
      exact accounted.opened
  | sent packet =>
      obtain rfl := Option.some.inj seen
      exact accounted.sent packet
  | received frame => exact accounted.received seen
  | _ =>
      obtain rfl := Option.some.inj seen
      exact ⟨accounted.numbered, accounted.count, accounted.kept⟩

/-! ## What the broker does -/

theorem World.detach_pending (world : World) :
    world.detach.pending = world.pending ∧ world.detach.connections = world.connections ∧
      world.detach.subacks = world.subacks := by
  unfold World.detach
  split <;> exact ⟨rfl, rfl, rfl⟩

theorem World.process_pending (world : World) (connection : Nat) (packet : Packet) :
    (world.process connection packet).pending = world.pending ∧
      (world.process connection packet).connections = world.connections := by
  cases packet with
  | connect => exact ⟨rfl, rfl⟩
  | subscribe => dsimp only [World.process]; split <;> exact ⟨rfl, rfl⟩
  | unsubscribe => dsimp only [World.process]; split <;> exact ⟨rfl, rfl⟩
  | disconnect =>
      dsimp only [World.process]
      split
      · exact ⟨world.detach_pending.1, world.detach_pending.2.1⟩
      · exact ⟨rfl, rfl⟩
  | _ => exact ⟨rfl, rfl⟩

theorem World.holds_detach {world : World} {topic : Bytes} (holds : world.holds topic) :
    world.detach.holds topic := by
  unfold World.detach
  split
  · exact .inl rfl
  · exact holds.imp_right fun held => ⟨held.1, by simp⟩

theorem World.holds_process_older (world : World) {connection : Nat} (older : connection ≠ world.connections)
    (packet : Packet) {topic : Bytes} (holds : world.holds topic) :
    (world.process connection packet).holds topic := by
  have unattached : world.attached = some connection → world.dropped := by
    intro attached
    rcases holds with dropped | ⟨_, only⟩
    · exact dropped
    · exact absurd (only connection attached) older
  cases packet with
  | connect => exact .inl (by simp [World.process, older])
  | subscribe =>
      simp only [World.process]
      split
      · exact .inl (unattached ‹_›)
      · exact holds
  | unsubscribe =>
      simp only [World.process]
      split
      · exact .inl (unattached ‹_›)
      · exact holds
  | disconnect =>
      simp only [World.process]
      split
      · exact World.holds_detach holds
      · exact holds
  | _ => exact holds

theorem World.subacks_process_older (world : World) {connection : Nat} (older : connection ≠ world.connections)
    (packet : Packet) : (world.process connection packet).subacks = world.subacks := by
  cases packet with
  | subscribe =>
      simp only [World.process, older, if_false]
      split <;> rfl
  | unsubscribe => dsimp only [World.process]; split <;> rfl
  | disconnect =>
      dsimp only [World.process]
      split
      · exact world.detach_pending.2.2
      · rfl
  | _ => rfl

theorem World.current_eq {world other : World} (pending : other.pending = world.pending)
    (connections : other.connections = world.connections) : other.current = world.current := by
  simp only [World.current, pending, connections]

theorem Accounted.process_older {log : List Event} {world : World} {earlier later : List (Nat × Packet)}
    {connection : Nat} {packet : Packet} (accounted : Accounted log world)
    (pending : world.pending = earlier ++ (connection, packet) :: later)
    (older : connection ≠ world.connections) :
    Accounted log ({ world with pending := earlier ++ later }.process connection packet) := by
  obtain ⟨samePending, sameConnections⟩ :=
    World.process_pending { world with pending := earlier ++ later } connection packet
  have current : ({ world with pending := earlier ++ later }.process connection packet).current = world.current := by
    rw [World.current_eq samePending sameConnections]
    simp [World.current, pending, List.filterMap_append, older]
  have subacks := World.subacks_process_older { world with pending := earlier ++ later } older packet
  refine ⟨?_, ?_, fun topic last => ?_⟩
  · intro other member
    rw [samePending] at member
    rw [sameConnections]
    apply accounted.numbered other
    rw [pending]
    rcases List.mem_append.mp member with member | member
    · exact List.mem_append_left _ member
    · exact List.mem_append_right _ (List.mem_cons_of_mem _ member)
  · rw [subacks, current]
    exact accounted.count
  · rw [subacks, current]
    refine (accounted.kept topic last).imp_right (Or.imp_right fun kept => ⟨kept.1, ?_⟩)
    exact World.holds_process_older { world with pending := earlier ++ later } older packet kept.2

theorem World.holds_process (world : World) {packet : Packet} {topic : Bytes}
    (effective : packet.effect topic = some true → world.attached = some world.connections)
    (harmless : packet.effect topic ≠ some false)
    (holds : packet.effect topic = none → world.holds topic) :
    (world.process world.connections packet).holds topic := by
  cases packet with
  | connect => simp [Packet.effect] at harmless
  | subscribe id other qos =>
      simp only [World.process]
      by_cases attached : world.attached = some world.connections
      · rw [if_pos attached]
        by_cases same : other = topic
        · subst same
          exact .inr ⟨List.mem_cons_self, fun connection held => by simpa [attached] using held.symm⟩
        · exact (holds (by simp [Packet.effect, same])).imp_right fun held => ⟨List.mem_cons_of_mem _ held.1, held.2⟩
      · rw [if_neg attached]
        by_cases same : other = topic
        · exact absurd (effective (by simp [Packet.effect, same])) attached
        · exact holds (by simp [Packet.effect, same])
  | unsubscribe id other =>
      have different : other ≠ topic := by
        intro same
        simp [Packet.effect, same] at harmless
      have held := holds (by simp [Packet.effect, different])
      simp only [World.process]
      split
      · refine held.imp_right fun held => ⟨?_, held.2⟩
        simp [held.1, Ne.symm different]
      · exact held
  | disconnect =>
      have held := holds rfl
      simp only [World.process]
      split
      · exact World.holds_detach held
      · exact held
  | publish => exact holds rfl
  | ack => exact holds rfl
  | pingreq => exact holds rfl

theorem World.subacks_process (world : World) (packet : Packet) :
    (world.process world.connections packet).subacks =
      world.subacks + if world.attached = some world.connections then packet.subscribes else 0 := by
  cases packet with
  | subscribe =>
      simp only [World.process, Packet.subscribes, if_true]
      split <;> rfl
  | unsubscribe =>
      simp only [World.process, Packet.subscribes, ite_self, Nat.add_zero]
      split <;> rfl
  | disconnect =>
      simp only [World.process, Packet.subscribes, ite_self, Nat.add_zero]
      split
      · exact world.detach_pending.2.2
      · rfl
  | _ => simp [World.process, Packet.subscribes]

theorem Accounted.process_current {log : List Event} {world : World} {earlier later : List (Nat × Packet)}
    {packet : Packet} (accounted : Accounted log world)
    (pending : world.pending = earlier ++ (world.connections, packet) :: later)
    (first : ∀ other ∈ earlier, other.1 ≠ world.connections) :
    Accounted log ({ world with pending := earlier ++ later }.process world.connections packet) := by
  obtain ⟨samePending, sameConnections⟩ :=
    World.process_pending { world with pending := earlier ++ later } world.connections packet
  have split : world.current =
      packet :: ({ world with pending := earlier ++ later }.process world.connections packet).current := by
    rw [World.current_eq samePending sameConnections]
    have none : earlier.filterMap (fun other => if other.1 = world.connections then some other.2 else none) = [] := by
      simp only [List.filterMap_eq_nil_iff, ite_eq_right_iff, reduceCtorEq, imp_false]
      exact first
    simp only [World.current, pending, List.filterMap_append, none, List.nil_append]
    simp
  have subacks : ({ world with pending := earlier ++ later }.process world.connections packet).subacks =
      world.subacks + if world.attached = some world.connections then packet.subscribes else 0 :=
    World.subacks_process { world with pending := earlier ++ later } packet
  have count := accounted.count
  rw [split, subscribes] at count
  refine ⟨?_, ?_, fun topic last => ?_⟩
  · intro other member
    rw [samePending] at member
    rw [sameConnections]
    apply accounted.numbered other
    rw [pending]
    rcases List.mem_append.mp member with member | member
    · exact List.mem_append_left _ member
    · exact List.mem_append_right _ (List.mem_cons_of_mem _ member)
  · rw [subacks]
    split <;> omega
  · have kept := accounted.kept topic last
    rw [split, subscribes, fate] at kept
    by_cases attached : world.attached = some world.connections
    · rw [subacks, if_pos attached]
      rcases kept with lost | last | ⟨last, holds⟩
      · exact .inl (by omega)
      · rcases Option.or_eq_some_iff.mp last with last | ⟨last, own⟩
        · exact .inr (.inl last)
        · refine .inr (.inr ⟨last, ?_⟩)
          exact World.holds_process { world with pending := earlier ++ later } (fun _ => attached)
            (by simp [own]) (by simp [own])
      · obtain ⟨last, own⟩ := Option.or_eq_none_iff.mp last
        refine .inr (.inr ⟨last, ?_⟩)
        exact World.holds_process { world with pending := earlier ++ later } (fun _ => attached)
          (by simp [own]) fun _ => holds
    · rw [subacks, if_neg attached]
      rcases kept with lost | last | ⟨last, holds⟩
      · exact .inl (by omega)
      · rcases Option.or_eq_some_iff.mp last with last | ⟨last, own⟩
        · exact .inr (.inl last)
        · have one := Packet.subscribes_of_effect own
          exact .inl (by omega)
      · obtain ⟨last, own⟩ := Option.or_eq_none_iff.mp last
        refine .inr (.inr ⟨last, ?_⟩)
        exact World.holds_process { world with pending := earlier ++ later } (by simp [own])
          (by simp [own]) fun _ => holds

theorem Accounted.step {log : List Event} {world next : World} (accounted : Accounted log world)
    (step : world.Step next) : Accounted log next := by
  cases step with
  | @process earlier later connection packet pending first =>
      by_cases older : connection ≠ world.connections
      · exact accounted.process_older pending older
      · obtain rfl := Decidable.not_not.mp older
        exact accounted.process_current pending first
  | detach =>
      obtain ⟨samePending, sameConnections, subacks⟩ := world.detach_pending
      refine ⟨?_, ?_, fun topic last => ?_⟩
      · rw [samePending, sameConnections]
        exact accounted.numbered
      · rw [subacks, World.current_eq samePending sameConnections]
        exact accounted.count
      · rw [subacks, World.current_eq samePending sameConnections]
        refine (accounted.kept topic last).imp_right (Or.imp_right fun kept => ⟨kept.1, ?_⟩)
        exact World.holds_detach kept.2
  | forget offline =>
      refine ⟨accounted.numbered, accounted.count, fun topic last => ?_⟩
      exact (accounted.kept topic last).imp_right (Or.imp_right fun kept => ⟨kept.1, .inl rfl⟩)

theorem Behaves.accounted {log : List Event} {world : World} (behaves : Behaves log world) :
    Accounted log world := by
  induction behaves with
  | start stored => exact .start stored
  | step behaves step ih => exact ih.step step
  | event behaves seen ih => exact ih.event seen

theorem Behaves.holds {log : List Event} {world : World} (behaves : Behaves log world)
    (complete : asked log ≤ answered log) {topic : Bytes} (last : subscribed topic log)
    (current : world.dropped = false) : topic ∈ world.session := by
  have accounted := behaves.accounted
  have count := accounted.count
  rcases accounted.kept topic last with lost | pending | ⟨_, dropped | held⟩
  · omega
  · exact absurd pending (fate_ne_some_true (by omega))
  · rw [current] at dropped
    cases dropped
  · exact held.1

end IotClient
