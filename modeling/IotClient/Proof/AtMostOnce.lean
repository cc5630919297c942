import IotClient.Spec.AtMostOnce

namespace IotClient

/-! ## Logs -/

def ResendsLast : List Event → Prop
  | [] => True
  | .resent message :: older => lastPublished older = some message ∧ ResendsLast older
  | _ :: older => ResendsLast older

inductive Event.Bearing : Event → Prop where
  | connect (clientId : Bytes) (cleansession : Bool) (keepAlive : Nat) :
      Bearing (.sent (.connect clientId cleansession keepAlive))
  | publish (message : Publish) : Bearing (.sent (.publish message))
  | resent (message : Publish) : Bearing (.resent message)
  | pubrel (id : Nat) : Bearing (.sent (.ack .pubrel id))
  | foreign {event : Event} (arrivals : ∀ older, arrivals (event :: older) = arrivals older)
      (published : ∀ older, published (event :: older) = published older)
      (lastPublished : ∀ older, lastPublished (event :: older) = lastPublished older)
      (unreleased : ∀ id older, unreleased id (event :: older) = unreleased id older)
      (resendsUnreleased : ∀ older, resendsUnreleased (event :: older) = resendsUnreleased older)
      (resendsLast : ∀ older, ResendsLast (event :: older) ↔ ResendsLast older) : Bearing event

theorem Event.bearing (event : Event) : event.Bearing := by
  have foreign {event : Event} (arrivals : ∀ older, arrivals (event :: older) = arrivals older)
      (published : ∀ older, published (event :: older) = published older)
      (lastPublished : ∀ older, lastPublished (event :: older) = lastPublished older)
      (unreleased : ∀ id older, unreleased id (event :: older) = unreleased id older)
      (resendsUnreleased : ∀ older, resendsUnreleased (event :: older) = resendsUnreleased older)
      (resendsLast : ∀ older, ResendsLast (event :: older) = ResendsLast older) : event.Bearing :=
    .foreign arrivals published lastPublished unreleased resendsUnreleased fun older =>
      iff_of_eq (resendsLast older)
  cases event with
  | sent packet =>
      cases packet with
      | connect clientId cleansession keepAlive => exact .connect ..
      | publish message => exact .publish message
      | ack type id =>
          cases type with
          | pubrel => exact .pubrel id
          | _ => exact foreign (fun _ => rfl) (fun _ => rfl) (fun _ => rfl) (fun _ _ => rfl) (fun _ => rfl) fun _ => rfl
      | _ => exact foreign (fun _ => rfl) (fun _ => rfl) (fun _ => rfl) (fun _ _ => rfl) (fun _ => rfl) fun _ => rfl
  | resent message => exact .resent message
  | _ => exact foreign (fun _ => rfl) (fun _ => rfl) (fun _ => rfl) (fun _ _ => rfl) (fun _ => rfl) fun _ => rfl

/-! ## The broker -/

/-- What holds of the broker while no message is sent again after its release. -/
structure Deduplicates (log : List Event) (broker : Broker) : Prop where
  nodup : broker.accepted.Nodup
  bound : ∀ origin ∈ broker.accepted, origin ≤ published log
  awaits : ∀ message, lastPublished log = some message → unreleased message.id log →
    published log ∈ broker.accepted → message.id ∈ broker.awaiting

namespace Deduplicates

variable {log : List Event} {broker : Broker}

theorem not_accepted (deduplicates : Deduplicates log broker) {origin : Nat} (later : published log < origin) :
    origin ∉ broker.accepted := by
  intro member
  exact absurd (deduplicates.bound origin member) (Nat.not_le.mpr later)

theorem connect (deduplicates : Deduplicates log broker) (clientId : Bytes) (cleansession : Bool) (keepAlive : Nat) :
    Deduplicates (.sent (.connect clientId cleansession keepAlive) :: log) (broker.arrive (.connect cleansession)) := by
  cases cleansession with
  | true => exact ⟨deduplicates.nodup, deduplicates.bound, fun _ _ released => by simp [unreleased] at released⟩
  | false =>
      refine ⟨deduplicates.nodup, deduplicates.bound, fun message last free accepted => ?_⟩
      exact deduplicates.awaits message last (by simpa [unreleased] using free) accepted

theorem lost_connect (deduplicates : Deduplicates log broker) (clientId : Bytes) (cleansession : Bool)
    (keepAlive : Nat) : Deduplicates (.sent (.connect clientId cleansession keepAlive) :: log) broker := by
  refine ⟨deduplicates.nodup, deduplicates.bound, fun message last free accepted => ?_⟩
  simp only [unreleased, Bool.and_eq_true] at free
  exact deduplicates.awaits message last free.2 accepted

theorem lost_publish (deduplicates : Deduplicates log broker) (message : Publish) :
    Deduplicates (.sent (.publish message) :: log) broker := by
  refine ⟨deduplicates.nodup, fun origin member => Nat.le_succ_of_le (deduplicates.bound origin member), ?_⟩
  intro _ _ _ accepted
  exact absurd accepted (deduplicates.not_accepted (Nat.lt_succ_self _))

theorem publish (deduplicates : Deduplicates log broker) {message : Publish} (qos2 : message.qos = .qos2) :
    Deduplicates (.sent (.publish message) :: log) (broker.arrive (.publish (published log + 1) message)) := by
  by_cases awaited : message.id ∈ broker.awaiting
  · simp only [Broker.arrive, qos2, ne_eq, not_true_eq_false, if_false, awaited, if_true]
    exact deduplicates.lost_publish message
  · simp only [Broker.arrive, qos2, ne_eq, not_true_eq_false, if_false, awaited]
    refine ⟨?_, ?_, ?_⟩
    · exact List.nodup_cons.mpr ⟨deduplicates.not_accepted (Nat.lt_succ_self _), deduplicates.nodup⟩
    · intro origin member
      rcases List.mem_cons.mp member with rfl | member
      · exact Nat.le_refl _
      · exact Nat.le_succ_of_le (deduplicates.bound origin member)
    · intro other last _ _
      obtain rfl := Option.some.inj last
      exact List.mem_cons_self

theorem lost_resent (deduplicates : Deduplicates log broker) (message : Publish) :
    Deduplicates (.resent message :: log) broker :=
  ⟨deduplicates.nodup, deduplicates.bound, deduplicates.awaits⟩

theorem resent (deduplicates : Deduplicates log broker) {message : Publish} (qos2 : message.qos = .qos2)
    (last : lastPublished log = some message) (free : unreleased message.id log) :
    Deduplicates (.resent message :: log) (broker.arrive (.publish (published log) message)) := by
  by_cases awaited : message.id ∈ broker.awaiting
  · simp only [Broker.arrive, qos2, ne_eq, not_true_eq_false, if_false, awaited, if_true]
    exact deduplicates.lost_resent message
  · simp only [Broker.arrive, qos2, ne_eq, not_true_eq_false, if_false, awaited]
    have fresh : published log ∉ broker.accepted :=
      fun accepted => awaited (deduplicates.awaits message last free accepted)
    refine ⟨List.nodup_cons.mpr ⟨fresh, deduplicates.nodup⟩, ?_, ?_⟩
    · intro origin member
      rcases List.mem_cons.mp member with rfl | member
      · exact Nat.le_refl _
      · exact deduplicates.bound origin member
    · intro other last' _ _
      have same : some message = some other := last.symm.trans last'
      obtain rfl := Option.some.inj same
      exact List.mem_cons_self

theorem lost_pubrel (deduplicates : Deduplicates log broker) (id : Nat) :
    Deduplicates (.sent (.ack .pubrel id) :: log) broker := by
  refine ⟨deduplicates.nodup, deduplicates.bound, fun message last free accepted => ?_⟩
  simp only [unreleased, Bool.and_eq_true] at free
  exact deduplicates.awaits message last free.2 accepted

theorem pubrel (deduplicates : Deduplicates log broker) (id : Nat) :
    Deduplicates (.sent (.ack .pubrel id) :: log) (broker.arrive (.pubrel id)) := by
  refine ⟨deduplicates.nodup, deduplicates.bound, fun message last free accepted => ?_⟩
  simp only [unreleased, Bool.and_eq_true, decide_eq_true_eq] at free
  have awaited := deduplicates.awaits message last free.2 accepted
  simp [Broker.arrive, awaited, Ne.symm free.1]

end Deduplicates

theorem lastPublished_mem {log : List Event} {message : Publish} (last : lastPublished log = some message) :
    .sent (.publish message) ∈ log := by
  induction log with
  | nil => cases last
  | cons event older ih =>
      cases event.bearing with
      | publish other =>
          obtain rfl := Option.some.inj last
          exact List.mem_cons_self
      | foreign _ _ same => exact List.mem_cons_of_mem _ (ih ((same older).symm.trans last))
      | _ => exact List.mem_cons_of_mem _ (ih last)

theorem deduplicates_of_resendsUnreleased {log : List Event} (resends : ResendsLast log)
    (unreleased : resendsUnreleased log) (qos2 : ∀ message, .sent (.publish message) ∈ log → message.qos = .qos2)
    {arrived : List Arrival} (through : arrived.Sublist (arrivals log)) :
    Deduplicates log (Broker.afterAll arrived) := by
  induction log generalizing arrived with
  | nil =>
      rw [List.sublist_nil.mp through]
      exact ⟨List.nodup_nil, by simp [Broker.afterAll], by simp [lastPublished]⟩
  | cons event older ih =>
      have qos2' : ∀ message, .sent (.publish message) ∈ older → message.qos = .qos2 :=
        fun message member => qos2 message (List.mem_cons_of_mem _ member)
      cases event.bearing with
      | connect clientId cleansession keepAlive =>
          cases through with
          | cons _ through => exact (ih resends unreleased qos2' through).lost_connect ..
          | cons_cons _ through => exact (ih resends unreleased qos2' through).connect ..
      | publish message =>
          cases through with
          | cons _ through => exact (ih resends unreleased qos2' through).lost_publish message
          | cons_cons _ through =>
              exact (ih resends unreleased qos2' through).publish (qos2 message List.mem_cons_self)
      | resent message =>
          obtain ⟨last, resends⟩ := resends
          simp only [resendsUnreleased, Bool.and_eq_true] at unreleased
          cases through with
          | cons _ through => exact (ih resends unreleased.2 qos2' through).lost_resent message
          | cons_cons _ through =>
              exact (ih resends unreleased.2 qos2' through).resent (qos2' message (lastPublished_mem last)) last
                unreleased.1
      | pubrel id =>
          cases through with
          | cons _ through => exact (ih resends unreleased qos2' through).lost_pubrel id
          | cons_cons _ through => exact (ih resends unreleased qos2' through).pubrel id
      | foreign arrivals published lastPublished unreleased' resendsUnreleased resendsLast =>
          rw [arrivals] at through
          rw [resendsUnreleased] at unreleased
          have deduplicates := ih ((resendsLast older).mp resends) unreleased qos2' through
          refine ⟨deduplicates.nodup, ?_, ?_⟩
          · rw [published]
            exact deduplicates.bound
          · intro message
            rw [published, lastPublished, unreleased']
            exact deduplicates.awaits message

/-! ## A message accepted twice -/

def Arrival.releases (id : Nat) (arrival : Arrival) : Prop :=
  arrival = .pubrel id ∨ arrival = .connect true

theorem publish_sublist (log : List Event) {message : Publish} (last : lastPublished log = some message) :
    [.publish (published log) message].Sublist (arrivals log) := by
  induction log with
  | nil => cases last
  | cons event older ih =>
      cases event.bearing with
      | connect => exact (ih last).cons _
      | publish other =>
          obtain rfl := Option.some.inj last
          exact (List.nil_sublist _).cons_cons _
      | resent => exact (ih last).cons _
      | pubrel => exact (ih last).cons _
      | foreign arrivals published lastPublished =>
          rw [arrivals, published]
          rw [lastPublished] at last
          exact ih last

theorem exists_release {log : List Event} {message : Publish} (last : lastPublished log = some message)
    (released : unreleased message.id log = false) :
    ∃ release : Arrival, release.releases message.id ∧
      [release, .publish (published log) message].Sublist (arrivals log) := by
  induction log with
  | nil => cases last
  | cons event older ih =>
      cases event.bearing with
      | connect _ cleansession _ =>
          cases cleansession with
          | true => exact ⟨.connect true, .inr rfl, (publish_sublist older last).cons_cons _⟩
          | false =>
              obtain ⟨release, releases, sent⟩ := ih last (by simpa [unreleased] using released)
              exact ⟨release, releases, sent.cons _⟩
      | publish => cases released
      | resent =>
          obtain ⟨release, releases, sent⟩ := ih last released
          exact ⟨release, releases, sent.cons _⟩
      | pubrel id =>
          by_cases same : id = message.id
          · subst same
            exact ⟨.pubrel _, .inl rfl, (publish_sublist older last).cons_cons _⟩
          · obtain ⟨release, releases, sent⟩ := ih last (by simpa [unreleased, same] using released)
            exact ⟨release, releases, sent.cons _⟩
      | foreign arrivals published lastPublished unreleased =>
          rw [arrivals, published]
          rw [lastPublished] at last
          rw [unreleased] at released
          exact ih last released

theorem accepted_twice {message : Publish} (qos2 : message.qos = .qos2) {release : Arrival}
    (releases : release.releases message.id) (origin : Nat) :
    (Broker.afterAll [.publish origin message, release, .publish origin message]).accepted = [origin, origin] := by
  rcases releases with rfl | rfl <;> simp [Broker.afterAll, Broker.arrive, qos2]

theorem not_atMostOnce_of_released {log : List Event} (resends : ResendsLast log)
    (qos2 : ∀ message, .sent (.publish message) ∈ log → message.qos = .qos2)
    (released : resendsUnreleased log = false) : ¬ AtMostOnce log := by
  induction log with
  | nil => cases released
  | cons event older ih =>
      have qos2' : ∀ message, .sent (.publish message) ∈ older → message.qos = .qos2 :=
        fun message member => qos2 message (List.mem_cons_of_mem _ member)
      cases event.bearing with
      | connect => exact fun once => ih resends qos2' released fun arrived through => once arrived (through.cons _)
      | publish => exact fun once => ih resends qos2' released fun arrived through => once arrived (through.cons _)
      | pubrel => exact fun once => ih resends qos2' released fun arrived through => once arrived (through.cons _)
      | resent message =>
          obtain ⟨last, resends⟩ := resends
          intro once
          cases free : unreleased message.id older with
          | true =>
              refine ih resends qos2' ?_ fun arrived through => once arrived (through.cons _)
              simpa [resendsUnreleased, free] using released
          | false =>
              obtain ⟨release, releases, sent⟩ := exists_release last free
              have nodup := once _ (sent.cons_cons (.publish (published older) message))
              rw [accepted_twice (qos2' message (lastPublished_mem last)) releases] at nodup
              simp at nodup
      | foreign arrivals _ _ _ resendsUnreleased resendsLast =>
          rw [resendsUnreleased] at released
          intro once
          apply ih ((resendsLast older).mp resends) qos2' released
          intro arrived through
          exact once arrived (by rwa [arrivals])

theorem atMostOnce_iff_resendsUnreleased {log : List Event} (resends : ResendsLast log)
    (qos2 : ∀ message, .sent (.publish message) ∈ log → message.qos = .qos2) :
    AtMostOnce log ↔ resendsUnreleased log := by
  constructor
  · intro once
    cases released : resendsUnreleased log with
    | true => rfl
    | false => exact absurd once (not_atMostOnce_of_released resends qos2 released)
  · intro unreleased arrived through
    exact (deduplicates_of_resendsUnreleased resends unreleased qos2 through).nodup

end IotClient
