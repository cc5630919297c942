import IotClient.Proof.Session
import IotClient.Spec.Authentication
import IotClient.Spec.ExactlyOnce

namespace IotClient

open Logic

/-! ## `DoAuth` as one exchange -/

section Mirrored

variable {α β γ σ : Type}

theorem outcome_bind {program : M α} {mirror : CryptoM α} {rest : α → M β} {mirrors : α → CryptoM β} {m : Machine}
    {calls : List Routine} (first : outcome (program m) = outcome (mirror calls))
    (second : ∀ value after calls', program m = .ok value after →
      outcome (rest value after) = outcome (mirrors value calls')) :
    outcome ((program >>= rest) m) = outcome ((mirror >>= mirrors) calls) := by
  show outcome (EStateM.bind program rest m) = outcome (EStateM.bind mirror mirrors calls)
  unfold EStateM.bind
  cases run : program m with
  | ok value after =>
      cases mirrored : mirror calls with
      | ok value' calls' =>
          rw [run, mirrored] at first
          cases first
          exact second value after calls' run
      | error fault calls' =>
          rw [run, mirrored] at first
          cases first
  | error fault after =>
      cases mirrored : mirror calls with
      | ok value' calls' =>
          rw [run, mirrored] at first
          cases first
      | error fault' calls' =>
          rw [run, mirrored] at first
          cases first
          rfl

def Mirrored (program : M α) (mirror : γ → CryptoM α) : Prop :=
  ∀ m, ∃ answers, ∀ calls, outcome (program m) = outcome (mirror answers calls)

namespace Mirrored

variable [Nonempty γ] {rest : α → M β} {mirrors : γ → α → CryptoM β}

protected theorem pure (value : α) : Mirrored (pure value) fun _ : γ => pure value :=
  fun _ => ⟨Classical.choice ‹_›, fun _ => rfl⟩

theorem ask {δ : Type} {program : M α} (mirror : δ → CryptoM α) (read : γ → δ) (put : δ → γ → γ)
    (first : ∀ m, ∃ answer, ∀ calls, outcome (program m) = outcome (mirror answer calls))
    (second : ∀ value, Mirrored (rest value) fun answers => mirrors answers value)
    (read_put : ∀ answer answers, read (put answer answers) = answer)
    (mirrors_put : ∀ answer answers value, mirrors (put answer answers) value = mirrors answers value) :
    Mirrored (program >>= rest) fun answers => mirror (read answers) >>= mirrors answers := by
  intro m
  obtain ⟨answer, alike⟩ := first m
  cases run : program m with
  | ok value after =>
      obtain ⟨answers, later⟩ := second value after
      refine ⟨put answer answers, fun calls => outcome_bind ?_ fun value' after' calls' run' => ?_⟩
      · rw [read_put]
        exact alike calls
      · rw [run] at run'
        cases run'
        rw [mirrors_put]
        exact later calls'
  | error fault after =>
      refine ⟨put answer (Classical.choice ‹_›), fun calls => outcome_bind ?_ fun value' after' calls' run' => ?_⟩
      · rw [read_put]
        exact alike calls
      · rw [run] at run'
        cases run'

theorem same {program : M α} {mirror : CryptoM α} (first : ∀ m calls, outcome (program m) = outcome (mirror calls))
    (second : ∀ value, Mirrored (rest value) fun answers => mirrors answers value) :
    Mirrored (program >>= rest) fun answers => mirror >>= mirrors answers :=
  ask (fun _ : Unit => mirror) (fun _ => ⟨⟩) (fun _ answers => answers) (fun m => ⟨⟨⟩, first m⟩) second (fun _ _ => rfl)
    fun _ _ _ => rfl

omit [Nonempty γ] in
theorem map {program : M α} {mirror : γ → CryptoM α} (mirrored : Mirrored program mirror) (make : α → β) :
    Mirrored (do return make (← program)) fun answers => do return make (← mirror answers) := by
  intro m
  obtain ⟨answers, alike⟩ := mirrored m
  exact ⟨answers, fun calls => outcome_bind (alike calls) fun _ _ _ _ => rfl⟩

end Mirrored

end Mirrored

namespace MpinFull

theorem outcome_ofExcept {α : Type} (result : Except Fault α) (m : Machine) (calls : List Routine) :
    outcome (M.ofExcept result m) = outcome (Crypto.ofExcept result calls) := by
  cases result <;> rfl

theorem outcome_call {α : Type} (function : String) (routine : Routine) (result : Except Int α) (m : Machine)
    (calls : List Routine) : outcome (check function result m) = outcome (Crypto.call function routine result calls) := by
  cases result <;> rfl

theorem outcome_random (m : Machine) :
    ∃ random, ∀ calls, outcome (MpinFull.random m) = outcome (Crypto.createRngOnce random calls) := by
  refine ⟨m.replies.randoms.headD none, fun calls => ?_⟩
  have drawn : nextRandom m = .ok (m.replies.randoms.headD none)
      { m with replies := { m.replies with randoms := m.replies.randoms.tail } } := rfl
  unfold MpinFull.random
  rw [run_bind_ok drawn]
  cases m.replies.randoms.headD none <;> rfl

theorem outcome_request {α : Type} (program : M α) (m : Machine) :
    ∃ answer, ∀ calls, outcome (program m) = outcome (Crypto.ofExcept answer calls) := by
  refine ⟨outcome (program m), fun calls => ?_⟩
  cases outcome (program m) <;> rfl

abbrev Env := Randoms × Answers

instance : Nonempty Env :=
  ⟨⟨none, none⟩, .error (cryptoError []), .error (cryptoError []), .error (cryptoError []), .error (cryptoError [])⟩

variable (platform : Platform)

theorem renew_mirrored (renewSecret : Json) (id : Identity) :
    Mirrored (renewExpiredIdentity platform renewSecret id)
      fun env : Env => renew platform.mpin env.2 renewSecret id := by
  unfold renewExpiredIdentity renew
  refine .same (outcome_ofExcept _) fun mpinId => .same (outcome_ofExcept _) fun dtaList => ?_
  refine .same (outcome_ofExcept _) fun cs1 => .same (outcome_ofExcept _) fun cs2Url => ?_
  refine .ask Crypto.ofExcept (fun env : Env => env.2.clientSecret)
    (fun answer (env : Env) => (env.1, { env.2 with clientSecret := answer }))
    (outcome_request _) (fun response => ?_) (fun _ _ => rfl) fun _ _ _ => rfl
  exact .same (outcome_ofExcept _) fun cs2 => .same (outcome_call _ _ _) fun clientSecret => .pure _

theorem doAuth_mirrored (server : Bytes) (id : Identity) :
    Mirrored (doAuth platform server id) fun env : Env => exchange platform.mpin env.1 env.2 id := by
  unfold doAuth exchange
  simp only [Crypto.client1, Crypto.getG1Multiple, bind_assoc]
  refine .ask Crypto.createRngOnce (fun env : Env => env.1.client1)
    (fun answer (env : Env) => ({ env.1 with client1 := answer }, env.2))
    outcome_random (fun random => .same (outcome_call _ _ _) fun pass1 => ?_) (fun _ _ => rfl) fun _ _ _ => rfl
  refine .ask Crypto.ofExcept (fun env : Env => env.2.pass1)
    (fun answer (env : Env) => (env.1, { env.2 with pass1 := answer }))
    (outcome_request _) (fun response => .same (outcome_ofExcept _) fun y => ?_) (fun _ _ => rfl) fun _ _ _ => rfl
  refine .same (outcome_call _ _ _) fun v => ?_
  refine .ask Crypto.createRngOnce (fun env : Env => env.1.getG1Multiple)
    (fun answer (env : Env) => ({ env.1 with getG1Multiple := answer }, env.2)) outcome_random
    (fun random => .same (outcome_call _ _ _) fun multiple => ?_) (fun _ _ => rfl) fun _ _ _ => rfl
  refine .ask Crypto.ofExcept (fun env : Env => env.2.pass2)
    (fun answer (env : Env) => (env.1, { env.2 with pass2 := answer }))
    (outcome_request _) (fun response => .same (outcome_ofExcept _) fun authOTT => ?_) (fun _ _ => rfl) fun _ _ _ => rfl
  refine .ask Crypto.ofExcept (fun env : Env => env.2.authenticate)
    (fun answer (env : Env) => (env.1, { env.2 with authenticate := answer }))
    (outcome_request _) (fun response => .same (outcome_ofExcept _) fun t => ?_) (fun _ _ => rfl) fun _ _ _ => rfl
  refine .same (outcome_call _ _ _) fun precomp => .same (outcome_call _ _ _) fun sharedSecret => ?_
  refine .same (outcome_ofExcept _) fun members => ?_
  cases Json.find members (bytes "renewSecret") with
  | none => exact .pure _
  | some renewSecret => exact (renew_mirrored platform renewSecret id).map _

end MpinFull

/-! ## The replies that one exchange uses -/

theorem run_ofExcept_eq_ok {α : Type} {result : Except Fault α} {value : α} {before after : Machine} :
    M.ofExcept result before = .ok value after ↔ result = .ok value ∧ before = after := by
  cases result with
  | ok other =>
      simp only [M.ofExcept, run_pure_eq_ok, Except.ok.injEq]
  | error fault => simp [M.ofExcept]

namespace Http

variable (platform : Platform)

def SameReplies (before after : Machine) : Prop := after.replies = before.replies

instance : Following SameReplies where
  refl _ := rfl
  trans first second := second.trans first

theorem update_sameReplies (change : Http → Http) : Keeps SameReplies (update change) := Keeps.modify fun _ => rfl

theorem readResponse_sameReplies (stop : Status) (parser : ResponseParser) (reads : List Bytes) :
    Keeps SameReplies (readResponse platform stop parser reads) := by
  induction reads generalizing parser with
  | nil =>
      unfold readResponse
      exact .ite (fun _ => .pure _) fun _ => .bind (update_sameReplies _) fun _ => ofExcept_keeps _
  | cons data rest continued =>
      unfold readResponse
      exact .ite (fun _ => .pure _) fun _ => .bind (ofExcept_keeps _) fun parser => continued parser

theorem readResponse_ok {stop : Status} {parser result : ResponseParser} {reads : List Bytes} {before after : Machine}
    (run : readResponse platform stop parser reads before = .ok result after) :
    parser.fedAll platform reads = .ok result := by
  induction reads generalizing parser before with
  | nil =>
      unfold readResponse at run
      unfold ResponseParser.fedAll
      split at run
      next complete => 
        rw [if_pos complete, (run_pure_eq_ok.1 run).1]
      next incomplete =>
        rw [if_neg incomplete]
        obtain ⟨_, between, -, fed⟩ := run_bind_eq_ok.1 run
        exact (run_ofExcept_eq_ok.1 fed).1
  | cons data rest continued =>
      unfold readResponse at run
      unfold ResponseParser.fedAll
      split at run
      next complete => 
        rw [if_pos complete, (run_pure_eq_ok.1 run).1]
      next incomplete =>
        rw [if_neg incomplete]
        obtain ⟨later, between, fed, rest⟩ := run_bind_eq_ok.1 run
        rw [(run_ofExcept_eq_ok.1 fed).1]
        exact continued rest

theorem connectTo_ok {url : Url} {exchange : Exchange} {before after : Machine}
    (run : connectTo url before = .ok (some exchange) after) :
    before.replies.exchanges = exchange :: after.replies.exchanges ∧ exchange.connect = none ∧
      after.replies.randoms = before.replies.randoms := by
  unfold connectTo at run
  obtain ⟨_, closed, first, run⟩ := run_bind_eq_ok.1 run
  have kept : closed.replies = before.replies := (update_sameReplies _).returns first
  rw [← kept]
  cases scheme : transportOf url.scheme with
  | none =>
      rw [scheme] at run
      obtain ⟨_, _, -, run⟩ := run_bind_eq_ok.1 run
      simp at run
  | some transport =>
      rw [scheme] at run
      obtain ⟨next, taken, asked, run⟩ := run_bind_eq_ok.1 run
      have asked := run_modifyGet_eq_ok.1 asked
      cases connects : next.connect with
      | some error =>
          rw [connects] at run
          obtain ⟨_, _, -, run⟩ := run_bind_eq_ok.1 run
          simp at run
      | none =>
          rw [connects] at run
          obtain ⟨_, made, update, run⟩ := run_bind_eq_ok.1 run
          have update : made.replies = taken.replies := (update_sameReplies _).returns update
          obtain ⟨is, rfl⟩ := run_pure_eq_ok.1 run
          cases is
          cases asked
          cases exchanges : closed.replies.exchanges with
          | nil =>
              rw [exchanges] at connects
              cases connects
          | cons head tail =>
              rw [exchanges] at connects
              refine ⟨?_, connects, ?_⟩
              · rw [update, exchanges]
                rfl
              · rw [update]

theorem execute_ok {method : Method} {url data : Bytes} {response : ResponseParser} {before after : Machine}
    (run : execute platform method url data before = .ok (some response) after) :
    ∃ exchange, before.replies.exchanges = exchange :: after.replies.exchanges ∧
      after.replies.randoms = before.replies.randoms ∧ ResponseParser.fedAll platform exchange.reads {} = .ok response ∧
      (exchange.connect.isSome || exchange.write.isSome || response.error.isSome) = false := by
  unfold execute at run
  cases parsed : platform.http.parseUrl url with
  | none =>
    rw [parsed] at run
    obtain ⟨_, _, -, run⟩ := run_bind_eq_ok.1 run
    simp at run
  | some target =>
    rw [parsed] at run
    obtain ⟨connection, connected, connects, run⟩ := run_bind_eq_ok.1 run
    cases connection with
    | none =>
        obtain ⟨_, _, -, run⟩ := run_bind_eq_ok.1 run
        simp at run
    | some exchange =>
        obtain ⟨taken, made, randoms⟩ := connectTo_ok connects
        obtain ⟨_, requested, emitted, run⟩ := run_bind_eq_ok.1 run
        have emitted := run_modify_eq_ok.1 emitted
        split at run
        · obtain ⟨_, _, -, run⟩ := run_bind_eq_ok.1 run
          obtain ⟨_, _, -, run⟩ := run_bind_eq_ok.1 run
          obtain ⟨_, _, -, run⟩ := run_bind_eq_ok.1 run
          simp at run
        next written =>
          obtain ⟨parser, read, reads, run⟩ := run_bind_eq_ok.1 run
          have kept := (readResponse_sameReplies platform _ _ _).returns reads
          have fed := readResponse_ok platform reads
          split at run
          · obtain ⟨_, _, -, run⟩ := run_bind_eq_ok.1 run
            obtain ⟨_, _, -, run⟩ := run_bind_eq_ok.1 run
            simp at run
          next fine =>
            obtain ⟨_, closed, closes, run⟩ := run_bind_eq_ok.1 run
            have closes : closed.replies = read.replies := (update_sameReplies _).returns closes
            obtain ⟨is, rfl⟩ := run_pure_eq_ok.1 run
            cases is
            cases emitted
            refine ⟨exchange, ?_, ?_, fed, by simp [made, written, fine]⟩
            · rw [closes, kept, taken]
            · rw [closes, kept, ← randoms]

theorem makeRequest_ok {method : Method} {url data : Bytes} {json : Json} {before after : Machine}
    (run : makeRequest platform method url data before = .ok json after) :
    ∃ exchange, before.replies.exchanges = exchange :: after.replies.exchanges ∧ exchange.json platform = some json ∧
      after.replies.randoms = before.replies.randoms := by
  unfold makeRequest at run
  obtain ⟨response, between, executed, run⟩ := run_bind_eq_ok.1 run
  cases response with
  | none =>
      obtain ⟨_, _, -, run⟩ := run_bind_eq_ok.1 run
      simp at run
  | some response =>
      obtain ⟨exchange, taken, randoms, fed, fine⟩ := execute_ok platform executed
      have json_eq : exchange.json platform = response.json platform := by
        simp only [Exchange.json, fed, fine, Bool.false_eq_true, if_false]
      refine ⟨exchange, ?_⟩
      rw [json_eq, ResponseParser.json]
      simp only at run
      split at run
      · simp at run
      next ok =>
        rw [if_neg ok]
        split at run
        next empty =>
          obtain ⟨rfl, rfl⟩ := run_pure_eq_ok.1 run
          exact ⟨taken, by rw [if_pos empty], randoms⟩
        next some =>
          obtain ⟨value, _, read, run⟩ := run_bind_eq_ok.1 run
          obtain ⟨text, rfl⟩ := run_ofExcept_eq_ok.1 read
          rw [if_neg some, text]
          cases value <;>
          · obtain ⟨rfl, rfl⟩ := run_pure_eq_ok.1 run
            exact ⟨taken, rfl, randoms⟩

end Http

namespace MpinFull

section Ends

variable {α β : Type} {value : α} {result : β}

def Ends (program : CryptoM α) (value : α) : Prop := ∀ calls, ∃ calls', program calls = .ok value calls'

theorem Ends.bind {program : CryptoM α} {rest : α → CryptoM β} (first : Ends program value)
    (second : Ends (rest value) result) : Ends (program >>= rest) result := by
  intro calls
  obtain ⟨between, first⟩ := first calls
  rw [run_bind_ok first]
  exact second between

theorem ends_ofExcept {computed : Except Fault α} (ok : computed = .ok value) : Ends (Crypto.ofExcept computed) value := by
  intro calls
  rw [ok]
  exact ⟨calls, rfl⟩

theorem ends_call {function : String} {routine : Routine} {computed : Except Int α} (ok : computed = .ok value) :
    Ends (Crypto.call function routine computed) value := by
  intro calls
  rw [ok]
  exact ⟨routine :: calls, rfl⟩

theorem ends_random {random : Option Bytes} {drawn : Bytes} (some : random = some drawn) :
    Ends (Crypto.createRngOnce random) drawn := by
  intro calls
  rw [some]
  exact ⟨calls, rfl⟩

end Ends

variable {platform : Platform}

theorem run_check_eq_ok {α : Type} {function : String} {result : Except Int α} {value : α} {before after : Machine} :
    check function result before = .ok value after ↔ result = .ok value ∧ before = after := by
  cases result <;> simp [check]

theorem random_ok {drawn : Bytes} {before after : Machine} (run : MpinFull.random before = .ok drawn after) :
    before.replies.randoms = some drawn :: after.replies.randoms ∧
      after.replies.exchanges = before.replies.exchanges := by
  unfold MpinFull.random at run
  obtain ⟨next, between, asked, run⟩ := run_bind_eq_ok.1 run
  cases run_modifyGet_eq_ok.1 asked
  cases randoms : before.replies.randoms with
  | nil => simp [randoms] at run
  | cons head tail =>
      cases head with
      | none => simp [randoms] at run
      | some bytes =>
          simp only [randoms, List.headD_cons, run_pure_eq_ok] at run
          obtain ⟨rfl, rfl⟩ := run
          exact ⟨rfl, rfl⟩

theorem makePostRequest_ok {url : Bytes} {data : List (Bytes × Json)} {json : Json} {before after : Machine}
    (run : makePostRequest platform url data before = .ok json after) :
    ∃ exchange, before.replies.exchanges = exchange :: after.replies.exchanges ∧ exchange.json platform = some json ∧
      after.replies.randoms = before.replies.randoms := by
  obtain ⟨text, _, written, run⟩ := run_bind_eq_ok.1 run
  obtain ⟨-, rfl⟩ := run_ofExcept_eq_ok.1 written
  exact Http.makeRequest_ok platform run

theorem renew_ends {renewSecret : Json} {id new : Identity} {answers : Answers} {before after : Machine}
    (answered : ∀ exchange later json, before.replies.exchanges = exchange :: later → exchange.json platform = some json →
      answers.clientSecret = .ok json)
    (run : renewExpiredIdentity platform renewSecret id before = .ok new after) :
    Ends (renew platform.mpin answers renewSecret id) new := by
  obtain ⟨mpinId, _, first, run⟩ := run_bind_eq_ok.1 run
  obtain ⟨mpinId_eq, rfl⟩ := run_ofExcept_eq_ok.1 first
  obtain ⟨dtaList, _, first, run⟩ := run_bind_eq_ok.1 run
  obtain ⟨dtaList_eq, rfl⟩ := run_ofExcept_eq_ok.1 first
  obtain ⟨cs1, _, first, run⟩ := run_bind_eq_ok.1 run
  obtain ⟨cs1_eq, rfl⟩ := run_ofExcept_eq_ok.1 first
  obtain ⟨cs2Url, _, first, run⟩ := run_bind_eq_ok.1 run
  obtain ⟨cs2Url_eq, rfl⟩ := run_ofExcept_eq_ok.1 first
  obtain ⟨response, _, first, run⟩ := run_bind_eq_ok.1 run
  obtain ⟨exchange, taken, json, -⟩ := Http.makeRequest_ok platform first
  obtain ⟨cs2, _, second, run⟩ := run_bind_eq_ok.1 run
  obtain ⟨cs2_eq, rfl⟩ := run_ofExcept_eq_ok.1 second
  obtain ⟨clientSecret, _, second, run⟩ := run_bind_eq_ok.1 run
  obtain ⟨recombined, rfl⟩ := run_check_eq_ok.1 second
  obtain ⟨rfl, -⟩ := run_pure_eq_ok.1 run
  refine .bind (ends_ofExcept mpinId_eq) (.bind (ends_ofExcept dtaList_eq) (.bind (ends_ofExcept cs1_eq) ?_))
  refine .bind (ends_ofExcept cs2Url_eq) (.bind (ends_ofExcept (answered _ _ _ taken json)) ?_)
  refine .bind (ends_ofExcept cs2_eq) (.bind (ends_call recombined) ?_)
  exact fun calls => ⟨calls, rfl⟩

theorem doAuth_ends {server : Bytes} {id : Identity} {result : AuthResult} {m after : Machine}
    (run : doAuth platform server id m = .ok result after) :
    Ends (exchange platform.mpin (.of m.replies) (.of platform m.replies) id) result := by
  obtain ⟨random1, m1, drawn1, run⟩ := run_bind_eq_ok.1 run
  obtain ⟨pass1, _, first, run⟩ := run_bind_eq_ok.1 run
  obtain ⟨client1, rfl⟩ := run_check_eq_ok.1 first
  obtain ⟨response1, m2, request1, run⟩ := run_bind_eq_ok.1 run
  obtain ⟨y, _, first, run⟩ := run_bind_eq_ok.1 run
  obtain ⟨y_eq, rfl⟩ := run_ofExcept_eq_ok.1 first
  obtain ⟨v, _, first, run⟩ := run_bind_eq_ok.1 run
  obtain ⟨client2, rfl⟩ := run_check_eq_ok.1 first
  obtain ⟨random2, m3, drawn2, run⟩ := run_bind_eq_ok.1 run
  obtain ⟨⟨z, r⟩, _, first, run⟩ := run_bind_eq_ok.1 run
  obtain ⟨multiple, rfl⟩ := run_check_eq_ok.1 first
  obtain ⟨response2, m4, request2, run⟩ := run_bind_eq_ok.1 run
  obtain ⟨authOTT, _, first, run⟩ := run_bind_eq_ok.1 run
  obtain ⟨authOTT_eq, rfl⟩ := run_ofExcept_eq_ok.1 first
  obtain ⟨response3, m5, request3, run⟩ := run_bind_eq_ok.1 run
  obtain ⟨t, _, first, run⟩ := run_bind_eq_ok.1 run
  obtain ⟨t_eq, rfl⟩ := run_ofExcept_eq_ok.1 first
  obtain ⟨precomp, _, first, run⟩ := run_bind_eq_ok.1 run
  obtain ⟨precompute, rfl⟩ := run_check_eq_ok.1 first
  obtain ⟨sharedSecret, _, first, run⟩ := run_bind_eq_ok.1 run
  obtain ⟨clientKey, rfl⟩ := run_check_eq_ok.1 first
  obtain ⟨members, _, first, run⟩ := run_bind_eq_ok.1 run
  obtain ⟨members_eq, rfl⟩ := run_ofExcept_eq_ok.1 first
  obtain ⟨randoms1, exchanges1⟩ := random_ok drawn1
  obtain ⟨exchange1, taken1, json1, kept1⟩ := makePostRequest_ok request1
  obtain ⟨randoms2, exchanges2⟩ := random_ok drawn2
  obtain ⟨exchange2, taken2, json2, kept2⟩ := makePostRequest_ok request2
  obtain ⟨exchange3, taken3, json3, kept3⟩ := makePostRequest_ok request3
  have randoms : m.replies.randoms = some random1 :: some random2 :: m3.replies.randoms := by
    rw [randoms1, ← kept1, randoms2]
  have exchanges : m.replies.exchanges = exchange1 :: exchange2 :: exchange3 :: m5.replies.exchanges := by
    rw [← exchanges1, taken1, ← exchanges2, taken2, taken3]
  unfold exchange Crypto.client1 Crypto.client2 Crypto.getG1Multiple Crypto.precompute Crypto.sharedKey
  refine .bind (.bind (ends_random (by rw [Randoms.of, randoms]; rfl)) (ends_call client1)) ?_
  refine .bind (ends_ofExcept (by rw [Answers.of]; simp [exchanges, json1])) (.bind (ends_ofExcept y_eq) ?_)
  refine .bind (ends_call client2) (.bind (.bind (ends_random (by rw [Randoms.of, randoms]; rfl)) (ends_call multiple)) ?_)
  refine .bind (ends_ofExcept (by rw [Answers.of]; simp [exchanges, json2])) (.bind (ends_ofExcept authOTT_eq) ?_)
  refine .bind (ends_ofExcept (by rw [Answers.of]; simp [exchanges, json3])) (.bind (ends_ofExcept t_eq) ?_)
  refine .bind (ends_call precompute) (.bind (ends_call clientKey) (.bind (ends_ofExcept members_eq) ?_))
  cases found : Json.find members (bytes "renewSecret") with
  | none =>
      rw [found] at run
      obtain ⟨rfl, -⟩ := run_pure_eq_ok.1 run
      exact fun calls => ⟨calls, rfl⟩
  | some renewSecret =>
      rw [found] at run
      obtain ⟨new, between, renewed, run⟩ := run_bind_eq_ok.1 run
      obtain ⟨rfl, -⟩ := run_pure_eq_ok.1 run
      refine .bind (renew_ends (fun exchange later json taken answer => ?_) renewed) fun calls => ⟨calls, rfl⟩
      rw [Answers.of]
      simp [exchanges, taken, answer]

end MpinFull

/-! ## `Authenticate` -/

section Authenticate

variable (platform : Platform)

theorem renew_keys {mpin : Mpin} {answers : MpinFull.Answers} {renewSecret : Json} {old new : Identity}
    {calls calls' : List Routine} (run : MpinFull.renew mpin answers renewSecret old calls = .ok new calls') :
    new.sokSendKey = old.sokSendKey ∧ new.sokRecvKey = old.sokRecvKey := by
  have keys : Returns (fun new => new.sokSendKey = old.sokSendKey ∧ new.sokRecvKey = old.sokRecvKey)
      (MpinFull.renew mpin answers renewSecret old) := by
    refine .bind fun _ => .bind fun _ => .bind fun _ => .bind fun _ => .bind fun _ => .bind fun _ => .bind fun _ => ?_
    exact .pure ⟨rfl, rfl⟩
  exact keys calls new calls' run

theorem returns_ofExcept {α β : Type} {condition : β → Prop} {result : Except Fault α} {rest : α → CryptoM β}
    (each : ∀ value, result = .ok value → Returns condition (rest value)) :
    Returns condition (Crypto.ofExcept result >>= rest) := by
  cases result with
  | ok value => exact each value rfl
  | error fault =>
      intro before result after run
      cases run

theorem exchange_renewed (mpin : Mpin) (randoms : MpinFull.Randoms) (answers : MpinFull.Answers) (id : Identity) :
    Returns (fun result => ∀ new, result.newIdentity = some new → Renewed mpin answers id new)
      (MpinFull.exchange mpin randoms answers id) := by
  refine .bind fun pass1 => .bind fun _ => .bind fun y => .bind fun v => .bind fun multiple => ?_
  refine .bind fun _ => .bind fun _ => returns_ofExcept fun response authenticated => .bind fun t => ?_
  refine .bind fun precomp => .bind fun sharedSecret => returns_ofExcept fun members asObject => ?_
  cases found : Json.find members (bytes "renewSecret") with
  | none => exact .pure fun new impossible => by cases impossible
  | some renewSecret =>
      intro before result after run
      obtain ⟨new, between, renewed, finished⟩ := run_bind_eq_ok.mp run
      obtain ⟨rfl, -⟩ := run_pure_eq_ok.mp finished
      rintro _ ⟨⟩
      exact ⟨⟨response, members, renewSecret, before, between, authenticated, asObject, found, renewed⟩, renew_keys renewed⟩

theorem Untouched.requests {m before after : Machine} (requests : Requests before after) (untouched : Untouched m before) :
    Untouched m after := by
  obtain ⟨older, grows, all⟩ := untouched.log
  obtain ⟨newer, grows', all'⟩ := requests.log
  refine ⟨?_, ?_, ?_, ?_, ?_, newer ++ older, by rw [grows', grows, List.append_assoc], fun made member => ?_⟩
  · rw [requests.impl, untouched.conf]
  · rw [requests.mqttTls, untouched.psk]
  · rw [requests.mqttTls, untouched.pskId]
  · rw [requests.impl, untouched.state]
  · rw [requests.impl, untouched.subscriptions]
  · rcases List.mem_append.mp member with member | member
    · cases all' _ member
    · exact all made member

def Client.accept (result : AuthResult) : M Bool := do
  result.newIdentity.forM fun newIdentity => do
    update fun impl => { impl with conf := { impl.conf with identity := newIdentity } }
    notify (.onIdentityChanged newIdentity)
  MqttTls.update fun client => { client with psk := result.sharedSecret, pskId := hexEncode result.clientId }
  notify .onAuthenticated
  return true

theorem accept_eq (result : AuthResult) (m : Machine) :
    ∃ after, Client.accept result m = .ok true after ∧ after.mqttTls.psk = result.sharedSecret ∧
      after.mqttTls.pskId = hexEncode result.clientId ∧
        after.impl.conf = { m.impl.conf with identity := result.newIdentity.getD m.impl.conf.identity } := by
  obtain ⟨clientId, sharedSecret, newIdentity⟩ := result
  cases newIdentity with
  | none => exact ⟨_, rfl, rfl, rfl, rfl⟩
  | some newIdentity => exact ⟨_, rfl, rfl, rfl, rfl⟩

def Machine.failed (m : Machine) (what : Bytes) : Machine :=
  { m with impl := { m.impl with lastError := bytes "Authentication failed: " ++ cString what } }

theorem authenticate_eq {m : Machine} (unset : m.impl.authenticated = false) :
    Client.authenticate platform m =
      match MpinFull.authenticate platform m.impl.conf.authServerUrl m.impl.conf.identity m.cleared with
      | .ok result between => Client.accept result between
      | .error (.iot what) between => .ok false (between.failed what)
      | .error fault between => .error fault between := by
  unfold Client.authenticate
  rw [run_get_bind, unset]
  cases exchanged : MpinFull.authenticate platform m.impl.conf.authServerUrl m.impl.conf.identity m.cleared with
  | ok result between =>
      obtain ⟨after, accepted, -⟩ := accept_eq result between
      simp only [accepted]
      exact run_tryCatch_eq_ok.mpr (.inl ((run_bind_ok exchanged).trans accepted))
  | error fault between => cases fault <;> exact run_tryCatch_error (run_bind_eq_error.mpr (.inl exchanged))

theorem cleared_untouched (m : Machine) : Untouched m m.cleared :=
  ⟨rfl, rfl, rfl, rfl, rfl, [], rfl, by simp⟩

theorem authenticate_caught {m : Machine} (unset : m.impl.authenticated = false) {fault : Fault} {between : Machine}
    (raised : MpinFull.doAuth platform m.impl.conf.authServerUrl m.impl.conf.identity m.cleared = .error fault between)
    (caught : fault.caught) : ∃ after, Client.authenticate platform m = .ok false after := by
  have thrown : ∃ what, MpinFull.authenticate platform m.impl.conf.authServerUrl m.impl.conf.identity m.cleared =
      .error (.iot what) between := by
    have handled : MpinFull.authenticate platform m.impl.conf.authServerUrl m.impl.conf.identity m.cleared = _ :=
      run_tryCatch_error raised
    cases fault with
    | iot what => exact ⟨what, handled⟩
    | json what => exact ⟨_, handled⟩
    | _ => cases caught
  obtain ⟨what, thrown⟩ := thrown
  rw [authenticate_eq platform unset, thrown]
  exact ⟨_, rfl⟩

theorem authenticate_false {m after : Machine} (unset : m.impl.authenticated = false)
    (run : Client.authenticate platform m = .ok false after) : Untouched m after := by
  rw [authenticate_eq platform unset] at run
  cases exchanged : MpinFull.authenticate platform m.impl.conf.authServerUrl m.impl.conf.identity m.cleared with
  | ok result between =>
      obtain ⟨_, accepted, -⟩ := accept_eq result between
      simp only [exchanged, accepted] at run
      cases run
  | error fault between =>
      have untouched := (cleared_untouched m).requests ((mpinAuthenticate_requests platform _ _).faults exchanged)
      rw [exchanged] at run
      cases fault with
      | iot what =>
          cases run
          exact ⟨untouched.conf, untouched.psk, untouched.pskId, untouched.state, untouched.subscriptions, untouched.log⟩
      | _ => cases run

theorem authenticate_true {m after : Machine} (unset : m.impl.authenticated = false)
    (run : Client.authenticate platform m = .ok true after) : ∃ result, AuthenticatedBy platform m after result := by
  rw [authenticate_eq platform unset] at run
  cases exchanged : MpinFull.authenticate platform m.impl.conf.authServerUrl m.impl.conf.identity m.cleared with
  | ok result between =>
      obtain ⟨after', accepted, psk, pskId, conf⟩ := accept_eq result between
      simp only [exchanged, accepted] at run
      cases run
      have kept := ((mpinAuthenticate_requests platform _ _).returns exchanged).impl
      have done : MpinFull.doAuth platform m.impl.conf.authServerUrl m.impl.conf.identity m.cleared = .ok result between := by
        rcases run_tryCatch_eq_ok.mp exchanged with done | ⟨fault, _, _, handled⟩
        · exact done
        · cases fault <;> cases handled
      obtain ⟨calls, ends⟩ := MpinFull.doAuth_ends done []
      refine ⟨result, ⟨between, done⟩, congrArg outcome ends, psk, pskId, by rw [conf, kept]; rfl, fun new renewed => ?_⟩
      exact exchange_renewed _ _ _ _ _ _ _ ends new renewed
  | error fault between =>
      rw [exchanged] at run
      cases fault <;> cases run

/-- An authentication that fails changes nothing, and one that succeeds takes all it sets from its own exchange. -/
theorem authenticate_atomic (m : Machine) (unset : m.impl.authenticated = false) :
    (∀ fault between,
        MpinFull.doAuth platform m.impl.conf.authServerUrl m.impl.conf.identity m.cleared = .error fault between →
          fault.caught → ∃ after, Client.authenticate platform m = .ok false after) ∧
      (∀ after, Client.authenticate platform m = .ok false after → Untouched m after) ∧
      ∀ after, Client.authenticate platform m = .ok true after →
        ∃ result, AuthenticatedBy platform m after result :=
  ⟨fun _ _ => authenticate_caught platform unset, fun _ => authenticate_false platform unset,
    fun _ => authenticate_true platform unset⟩

end Authenticate

theorem authenticate_atomic_sample :
    let m := { Client.fresh [] (sampleReplies [] [] [] []) with
      impl := { (Client.fresh [] (sampleReplies [] [] [] [])).impl with conf := sampleConf true true } }
    ∃ after, Client.authenticate (plainPlatform .signed) m = .ok true after ∧
      ∃ result, AuthenticatedBy (plainPlatform .signed) m after result := by
  intro m
  have returned : returnsTrue (Client.authenticate (plainPlatform .signed) m) := by decide +kernel
  have run := eq_ok_of_returnsTrue returned
  exact ⟨_, run, (authenticate_atomic (plainPlatform .signed) m rfl).2.2 _ run⟩

/-! ## The flag `m_authenticated` -/

section Flag

def SameFlag (before after : Machine) : Prop := after.impl.authenticated = before.impl.authenticated

instance : Following SameFlag where
  refl _ := rfl
  trans first second := second.trans first

theorem sameFlag_of_mute {α : Type} {program : M α} (mute : Keeps Mute program) : Keeps SameFlag program :=
  mute.mono fun mute => congrArg Impl.authenticated mute.impl

variable (platform : Platform)

theorem conduct_sameFlag : Conduct platform SameFlag where
  startTimer _ := sameFlag_of_mute (linkage_mute.startTimer _)
  sendPacket outgoing timer := sameFlag_of_mute (linkage_mute.sendPacket outgoing timer)
  nextUnset := sameFlag_of_mute linkage_mute.nextUnset
  mqtt same := sameFlag_of_mute (linkage_mute.mqtt same)
  clean := sameFlag_of_mute linkage_mute.clean
  ended := sameFlag_of_mute linkage_mute.ended
  client kept := sameFlag_of_mute (linkage_mute.client kept)
  onError text := sameFlag_of_mute (linkage_mute.onError text)
  tlsConnect := sameFlag_of_mute linkage_mute.tlsConnect
  close := sameFlag_of_mute linkage_mute.close
  cycle timer := sameFlag_of_mute ((mechanics_mute platform).cycle timer)
  authenticate := (authenticate_steady platform).mono Steady.authenticated
  impl kept := Keeps.modify fun m => (kept m.impl).2.2
  onConnected := Keeps.modify fun _ => rfl
  reportLost := Keeps.bind (Keeps.modify fun _ => rfl) fun _ => Keeps.bind Keeps.get fun _ => Keeps.modify fun _ => rfl
  reportLastError := reportLastError_steady.mono Steady.authenticated
  reportClientError := reportClientError_steady.mono Steady.authenticated
  noSession := Keeps.modify fun _ => rfl
  unsent _ := Keeps.modify fun _ => rfl
  nextIv := Keeps.modifyGet fun _ => rfl

theorem perform_sameFlag (call : Client.Call) : Keeps SameFlag (Client.perform platform call) := by
  by_cases starting : call = .startSession
  · subst starting
    refine Keeps.bind (Keeps.bind Keeps.get fun _ => Keeps.ite (fun _ => Keeps.bind Keeps.get fun _ => ?_) fun _ =>
      Keeps.pure _) fun _ => Keeps.pure _
    refine Keeps.bind (ofExcept_keeps _) fun userId => Keeps.bind (fun m => ?_) fun _ =>
      Keeps.bind (conduct_sameFlag platform).checkState fun _ => Keeps.pure _
    rw [prepare_eq]
    rfl
  · exact (conduct_sameFlag platform).perform starting

theorem visited_unauthenticated {condition : Machine → Client.Call → Prop} {m : Machine}
    (visited : Client.Visited platform condition m) : m.impl.authenticated = false := by
  refine visited.invariant (·.impl.authenticated = false) ?_ fun m visit unset _ =>
    (perform_sameFlag platform visit.2 { m with replies := visit.1 }).trans unset
  rintro _ ⟨readbuf, replies, rfl⟩
  rfl

end Flag

end IotClient
