import IotClient.Spec.ExactlyOnce
import Mathlib.Data.List.Nodup
import Mathlib.Data.List.Perm.Subperm

namespace IotClient

/-! ## The table of packet identifiers -/

def notedIds (slots : List Nat) : List Nat := slots.filter (· != 0)

theorem mem_notedIds {slots : List Nat} {id : Nat} : id ∈ notedIds slots ↔ id ∈ slots ∧ id ≠ 0 := by
  simp [notedIds]

theorem notedIds_append_cons (front back : List Nat) (id : Nat) :
    notedIds (front ++ id :: back) = if id = 0 then notedIds front ++ notedIds back
      else notedIds front ++ id :: notedIds back := by
  by_cases free : id = 0 <;> simp [notedIds, free]

theorem useQoS2msgid_eq_some {id : Nat} {slots used : List Nat} (uses : useQoS2msgid id slots = some used) :
    ∃ front back, slots = front ++ 0 :: back ∧ used = front ++ id :: back := by
  induction slots generalizing used with
  | nil => cases uses
  | cons slot rest ih =>
      unfold useQoS2msgid at uses
      split at uses
      · rename_i free
        cases uses
        exact ⟨[], rest, by rw [free]; rfl, rfl⟩
      · obtain ⟨later, usesLater, rfl⟩ := Option.map_eq_some_iff.mp uses
        obtain ⟨front, back, rfl, rfl⟩ := ih usesLater
        exact ⟨slot :: front, back, rfl, rfl⟩

theorem freeQoS2msgid_cases (id : Nat) (slots : List Nat) :
    (id ∉ slots ∧ freeQoS2msgid id slots = slots) ∨
      ∃ front back, slots = front ++ id :: back ∧ freeQoS2msgid id slots = front ++ 0 :: back := by
  induction slots with
  | nil => exact .inl ⟨by simp, rfl⟩
  | cons slot rest ih =>
      unfold freeQoS2msgid
      split
      · rename_i found
        exact .inr ⟨[], rest, by rw [found]; rfl, rfl⟩
      · rename_i other
        rcases ih with ⟨absent, same⟩ | ⟨front, back, rfl, freed⟩
        · exact .inl ⟨by simp [Ne.symm other, absent], by rw [same]⟩
        · exact .inr ⟨slot :: front, back, rfl, by rw [freed]; rfl⟩

theorem notedIds_freeQoS2msgid {id : Nat} {slots : List Nat} (distinct : (notedIds slots).Nodup) :
    notedIds (freeQoS2msgid id slots) = (notedIds slots).filter (· != id) := by
  have others {ids : List Nat} (absent : id ∉ ids) : ids.filter (· != id) = ids := by
    rw [List.filter_eq_self]
    intro other member
    exact bne_iff_ne.mpr fun same => absent (same ▸ member)
  rcases freeQoS2msgid_cases id slots with ⟨absent, same⟩ | ⟨front, back, rfl, freed⟩
  · rw [same, others fun member => absent (mem_notedIds.mp member).1]
  · rw [freed]
    simp only [notedIds_append_cons, if_true] at distinct ⊢
    by_cases free : id = 0
    · have absent : id ∉ notedIds front ++ notedIds back := by
        simp [mem_notedIds, free]
      rw [if_pos free, others absent]
    · rw [if_neg free] at distinct ⊢
      have fresh := (List.nodup_middle.mp distinct).notMem
      rw [List.filter_append, List.filter_cons_of_neg (by simp), ← List.filter_append, others fresh]

theorem length_freeQoS2msgid (id : Nat) (slots : List Nat) : (freeQoS2msgid id slots).length = slots.length := by
  rcases freeQoS2msgid_cases id slots with ⟨_, same⟩ | ⟨front, back, rfl, freed⟩
  · rw [same]
  · simp [freed]

theorem mem_zero_of_length {slots : List Nat} (fewer : (notedIds slots).length < slots.length) : 0 ∈ slots := by
  by_contra full
  have all : notedIds slots = slots := by
    rw [notedIds, List.filter_eq_self]
    intro id member
    exact bne_iff_ne.mpr fun free => full (free ▸ member)
  rw [all] at fewer
  exact absurd fewer (Nat.lt_irrefl _)

/-! ## The table and the log -/

def Callback.unrelated : Callback → Bool
  | .onMessageArrived _ _ => false
  | .onPrivateMessageArrived _ _ => false
  | .onError error => !(bytes "Failed to deserialize private message: ").isPrefixOf error
  | _ => true

def Event.inert : Event → Bool
  | .received _ => false
  | .sent (.ack .pubrec _) => false
  | .sent (.ack .pubcomp _) => false
  | .sent (.connect _ true _) => false
  | .callback made => made.unrelated
  | _ => true

theorem openIds_inert {event : Event} (inert : event.inert) (log : List Event) :
    openIds (event :: log) = openIds log := by
  cases event with
  | received frame => cases inert
  | sent packet =>
      cases packet with
      | ack type id => cases type <;> first | rfl | cases inert
      | connect clientId cleansession keepAliveInterval =>
          cases cleansession with
          | true => cases inert
          | false => rfl
      | _ => rfl
  | _ => rfl

theorem openIds_inerts {events : List Event} (all : ∀ event ∈ events, event.inert) (log : List Event) :
    openIds (events ++ log) = openIds log := by
  induction events with
  | nil => rfl
  | cons event rest ih =>
      rw [List.cons_append, openIds_inert (all event (by simp)), ih fun other member => all other (List.mem_cons_of_mem _ member)]

theorem SenderRules.older {event : Event} {log : List Event} (rules : SenderRules (event :: log)) : SenderRules log := by
  cases event with
  | received frame => exact rules.1
  | _ => exact rules

theorem Uncrowded.older {event : Event} {log : List Event} (uncrowded : Uncrowded (event :: log)) : Uncrowded log := by
  cases event with
  | received frame => exact uncrowded.1
  | _ => exact uncrowded

theorem SenderRules.append {events log : List Event} (rules : SenderRules (events ++ log)) : SenderRules log := by
  induction events with
  | nil => exact rules
  | cons event rest ih => exact ih rules.older

theorem Uncrowded.append {events log : List Event} (uncrowded : Uncrowded (events ++ log)) : Uncrowded log := by
  induction events with
  | nil => exact uncrowded
  | cons event rest ih => exact ih uncrowded.older

/-- The table holds the messages that have begun and not ended, and every message in it has been passed on. -/
structure Tally (slots : List Nat) (log : List Event) : Prop where
  noted : ∀ id, id ∈ notedIds slots ↔ id ∈ openIds log
  distinct : (notedIds slots).Nodup
  room : slots.length = maxIncomingQoS2Messages
  counted : ∀ id, id ∈ openIds log ∨ acknowledged id log → deliveries id log = 1
  once : ExactlyOnce log

namespace Tally

variable {slots : List Nat} {log : List Event}

theorem next {later : List Nat} {event : Event} (tally : Tally slots log)
    (noted : ∀ id, id ∈ notedIds later ↔ id ∈ openIds (event :: log)) (distinct : (notedIds later).Nodup)
    (room : later.length = slots.length)
    (known : ∀ id, id ∈ openIds (event :: log) ∨ acknowledged id (event :: log) → id ∈ openIds log ∨ acknowledged id log)
    (same : ∀ id, deliveries id (event :: log) = deliveries id log) : Tally later (event :: log) where
  noted := noted
  distinct := distinct
  room := room.trans tally.room
  counted id given := (same id).trans (tally.counted id (known id given))
  once := ⟨tally.once, fun id given => (same id).trans (tally.counted id (known id (.inr given)))⟩

theorem keep {event : Event} (tally : Tally slots log) (opens : openIds (event :: log) = openIds log)
    (answers : ∀ id, acknowledged id (event :: log) = acknowledged id log)
    (same : ∀ id, deliveries id (event :: log) = deliveries id log) : Tally slots (event :: log) := by
  refine tally.next ?_ tally.distinct rfl ?_ same
  · rw [opens]
    exact tally.noted
  · intro id given
    rwa [opens, answers] at given

theorem callback {made : Callback} (tally : Tally slots log) (other : ∀ id, passedOn id made log = false) :
    Tally slots (.callback made :: log) :=
  tally.keep rfl (fun _ => rfl) fun id => by simp [deliveries, other id]

theorem passedOn_unrelated {made : Callback} (unrelated : made.unrelated) (id : Nat) (log : List Event) :
    passedOn id made log = false := by
  cases log with
  | nil => rfl
  | cons event older =>
      cases event with
      | received frame =>
          cases made with
          | onError error =>
              simp only [Callback.unrelated, Bool.not_eq_true'] at unrelated
              simp [passedOn, Callback.passes, unrelated]
          | onMessageArrived topic payload => cases unrelated
          | onPrivateMessageArrived userIdFrom payload => cases unrelated
          | _ => simp [passedOn, Callback.passes]
      | _ => rfl

theorem inert {event : Event} (tally : Tally slots log) (inert : event.inert) : Tally slots (event :: log) := by
  have opens := openIds_inert inert log
  cases event with
  | received frame => cases inert
  | callback made => exact tally.callback fun id => passedOn_unrelated inert id log
  | sent packet =>
      refine tally.keep opens (fun _ => ?_) fun _ => rfl
      cases packet with
      | ack type id => cases type <;> first | rfl | cases inert
      | _ => rfl
  | _ => exact tally.keep opens (fun _ => rfl) fun _ => rfl

theorem inerts {events : List Event} (tally : Tally slots log) (all : ∀ event ∈ events, event.inert) :
    Tally slots (events ++ log) := by
  induction events with
  | nil => exact tally
  | cons event rest ih =>
      exact (ih fun other member => all other (List.mem_cons_of_mem _ member)).inert (all event (by simp))

theorem received {frame : Frame} (tally : Tally slots log) (begun : ∀ id, ¬ frame.begins id log) :
    Tally slots (.received frame :: log) := by
  refine tally.keep ?_ (fun id => by simp [acknowledged, begun id]) fun id => by simp [deliveries, begun id]
  cases qos2Id : frame.qos2Id with
  | none => simp [openIds, qos2Id]
  | some id =>
      have member : id ∈ openIds log := by
        by_contra absent
        exact begun id ⟨qos2Id, absent⟩
      simp [openIds, qos2Id, member]

theorem delivered {frame : Frame} {made : Callback} {front back : List Nat} {id : Nat}
    (tally : Tally (front ++ 0 :: back) log) (begins : frame.begins id log) (nonzero : id ≠ 0)
    (passes : made.passes frame) : Tally (front ++ id :: back) (.callback made :: .received frame :: log) := by
  have opens : openIds (.callback made :: .received frame :: log) = id :: openIds log := by
    simp [openIds, begins.1, begins.2]
  have others {other : Nat} (different : other ≠ id) : ¬ frame.begins other log := by
    rintro ⟨qos2Id, _⟩
    rw [begins.1] at qos2Id
    exact different (Option.some.inj qos2Id).symm
  have passed (other : Nat) : deliveries other (.callback made :: .received frame :: log) =
      if other = id then 1 else deliveries other log := by
    by_cases same : other = id
    · subst same
      simp [deliveries, begins, passedOn, begins.1, passes]
    · have unpassed : passedOn other made (.received frame :: log) = false := by
        simp [passedOn, begins.1, Ne.symm same]
      simp [deliveries, others same, unpassed, same]
  have answers (other : Nat) : acknowledged other (.callback made :: .received frame :: log) →
      other ≠ id ∧ acknowledged other log := by
    intro given
    simp only [acknowledged, Bool.and_eq_true, Bool.not_eq_true', decide_eq_false_iff_not] at given
    exact ⟨fun same => given.1 (same ▸ begins), given.2⟩
  have counted (other : Nat) (given : other ∈ openIds (.callback made :: .received frame :: log) ∨
      acknowledged other (.callback made :: .received frame :: log)) :
      deliveries other (.callback made :: .received frame :: log) = 1 := by
    rw [passed]
    split
    · rfl
    · rename_i different
      apply tally.counted
      rcases given with opened | given
      · rw [opens] at opened
        exact .inl ((List.mem_cons.mp opened).resolve_left different)
      · exact .inr (answers other given).2
  have ids : notedIds (front ++ 0 :: back) = notedIds front ++ notedIds back := by
    rw [notedIds_append_cons, if_pos rfl]
  have ids' : notedIds (front ++ id :: back) = notedIds front ++ id :: notedIds back := by
    rw [notedIds_append_cons, if_neg nonzero]
  refine ⟨fun other => ?_, ?_, ?_, counted, ⟨⟨tally.once, fun other given => ?_⟩, fun other given => counted other (.inr given)⟩⟩
  · rw [opens, ids', List.mem_cons, ← tally.noted other, ids]
    simp only [List.mem_append, List.mem_cons]
    tauto
  · have distinct := tally.distinct
    rw [ids] at distinct
    rw [ids', List.nodup_middle, List.nodup_cons]
    refine ⟨fun member => begins.2 ((tally.noted id).mp ?_), distinct⟩
    rwa [ids]
  · have room := tally.room
    simp only [List.length_append, List.length_cons] at room ⊢
    exact room
  · have different := (answers other given).1
    rw [show deliveries other (.received frame :: log) = deliveries other log by simp [deliveries, others different]]
    exact tally.counted other (.inr (answers other given).2)

theorem pubrec {id : Nat} (tally : Tally slots log) (opened : id ∈ openIds log) :
    Tally slots (.sent (.ack .pubrec id) :: log) := by
  refine tally.next tally.noted tally.distinct rfl (fun other given => ?_) fun _ => rfl
  rcases given with given | given
  · exact .inl given
  · simp only [acknowledged, Bool.or_eq_true, decide_eq_true_eq] at given
    rcases given with same | given
    · exact .inl (same ▸ opened)
    · exact .inr given

theorem pubcomp (id : Nat) (tally : Tally slots log) :
    Tally (freeQoS2msgid id slots) (.sent (.ack .pubcomp id) :: log) := by
  have ids := @notedIds_freeQoS2msgid id slots tally.distinct
  refine tally.next (fun other => ?_) ?_ (length_freeQoS2msgid id slots) (fun other given => ?_) fun _ => rfl
  · rw [ids, openIds, List.mem_filter, List.mem_filter, tally.noted other]
  · rw [ids]
    exact tally.distinct.filter _
  · rcases given with given | given
    · exact .inl (List.mem_of_mem_filter given)
    · exact .inr given

theorem openIds_eq_nil (tally : Tally slots log) (empty : ∀ id ∈ slots, id = 0) : openIds log = [] := by
  rw [List.eq_nil_iff_forall_not_mem]
  intro id member
  have noted := mem_notedIds.mp ((tally.noted id).mpr member)
  exact noted.2 (empty id noted.1)

theorem connect {clientId : Bytes} {keepAliveInterval : Nat} (tally : Tally slots log) (empty : ∀ id ∈ slots, id = 0) :
    Tally slots (.sent (.connect clientId true keepAliveInterval) :: log) := by
  refine tally.keep ?_ (fun _ => rfl) fun _ => rfl
  rw [tally.openIds_eq_nil empty]
  rfl

theorem clean (tally : Tally slots log) (empty : ∀ id ∈ slots, id = 0) :
    Tally (List.replicate maxIncomingQoS2Messages 0) log := by
  refine ⟨fun id => ?_, by decide, rfl, tally.counted, tally.once⟩
  rw [tally.openIds_eq_nil empty]
  simp [mem_notedIds]

theorem free (tally : Tally slots log) (fewer : (openIds log).length < maxIncomingQoS2Messages) : 0 ∈ slots := by
  apply mem_zero_of_length
  have noted := (List.subperm_of_subset tally.distinct fun id member => (tally.noted id).mp member).length_le
  rw [tally.room]
  omega

end Tally

end IotClient
