import IotClient.Spec.HttpRequest

namespace IotClient.Net

/-! ## One character -/

theorem parseUrlChar_graphic {s : UrlState} {ch : UInt8} (accepted : parseUrlChar s ch ≠ .dead) :
    33 ≤ ch ∧ ch ≤ 126 := by
  have all : ∀ n : Fin 256, parseUrlChar s (UInt8.ofFin n) ≠ .dead → 33 ≤ UInt8.ofFin n ∧ UInt8.ofFin n ≤ 126 := by
    cases s <;> decide +kernel
  exact all ch.toFin accepted

theorem scanChar_graphic {position : Nat} {scan next : UrlScan} {ch : UInt8}
    (step : scanChar position scan ch = some next) : 33 ≤ ch ∧ ch ≤ 126 := by
  apply @parseUrlChar_graphic scan.state
  intro dead
  simp [scanChar, dead] at step

theorem scanUrl_graphic {position : Nat} {scan final : UrlScan} {text : Bytes}
    (run : scanUrl position scan text = some final) : ∀ c ∈ text, 33 ≤ c ∧ c ≤ 126 := by
  induction text generalizing position scan with
  | nil => simp
  | cons ch rest continued =>
      simp only [scanUrl] at run
      split at run
      · cases run
      next next step =>
        intro c member
        rcases List.mem_cons.1 member with same | member
        · rw [same]
          exact scanChar_graphic step
        · exact continued run c member

@[simp] theorem extend_state (scan : UrlScan) (position : Nat) (field : UrlField) :
    (scan.extend position field).state = scan.state := rfl

@[simp] theorem extend_oldField (scan : UrlScan) (position : Nat) (field : UrlField) :
    (scan.extend position field).oldField = some field := rfl

theorem extend_other (scan : UrlScan) (position : Nat) {field other : UrlField} (differs : other ≠ field) :
    (scan.extend position field).fields other = scan.fields other := by
  simp [UrlScan.extend, UrlFields.set, differs]

theorem extend_first {scan : UrlScan} (position : Nat) {field : UrlField} (fresh : scan.oldField ≠ some field) :
    (scan.extend position field).fields field = some ⟨.ofNat position, 1⟩ := by
  simp [UrlScan.extend, UrlFields.set, fresh]

theorem extend_again {scan : UrlScan} (position : Nat) {field : UrlField} {span : Span}
    (same : scan.oldField = some field) (set : scan.fields field = some span) :
    (scan.extend position field).fields field = some span.grow := by
  simp [UrlScan.extend, UrlFields.set, same, set]

theorem scanChar_fragment {position : Nat} {scan next : UrlScan} {ch : UInt8}
    (state : scan.state = .fragmentStart ∨ scan.state = .fragment) (step : scanChar position scan ch = some next) :
    (next.state = .fragmentStart ∨ next.state = .fragment) ∧
      ∀ field, field ≠ .fragment → next.fields field = scan.fields field := by
  have parsed : parseUrlChar scan.state ch = .fragmentStart ∨ parseUrlChar scan.state ch = .fragment ∨
      parseUrlChar scan.state ch = .dead := by
    rcases state with state | state <;> rw [state] <;> simp only [parseUrlChar] <;> grind
  rcases parsed with parsed | parsed | parsed <;> simp only [scanChar, parsed] at step <;> cases step
  · exact ⟨.inl rfl, fun _ _ => rfl⟩
  · exact ⟨.inr rfl, fun field differs => extend_other _ _ differs⟩

theorem scanChar_query {position : Nat} {scan next : UrlScan} {ch : UInt8}
    (state : scan.state = .queryStringStart ∨ scan.state = .queryString)
    (step : scanChar position scan ch = some next) :
    (ch ≠ 35 ∧ next = UrlScan.extend { scan with state := .queryString } position .query) ∨
      (ch = 35 ∧ next = { scan with state := .fragmentStart }) := by
  have parsed : (ch ≠ 35 ∧ parseUrlChar scan.state ch = .queryString) ∨
      (ch = 35 ∧ parseUrlChar scan.state ch = .fragmentStart) ∨ parseUrlChar scan.state ch = .dead := by
    rcases state with state | state <;> rw [state] <;> simp only [parseUrlChar, isUrlChar] <;> grind
  rcases parsed with ⟨other, parsed⟩ | ⟨sign, parsed⟩ | parsed <;> simp only [scanChar, parsed] at step <;> cases step
  · exact .inl ⟨other, rfl⟩
  · exact .inr ⟨sign, rfl⟩

theorem scanChar_path {position : Nat} {scan next : UrlScan} {ch : UInt8} (state : scan.state = .path)
    (step : scanChar position scan ch = some next) :
    (endsPath ch = false ∧ next = UrlScan.extend { scan with state := .path } position .path) ∨
      (ch = 63 ∧ next = { scan with state := .queryStringStart }) ∨
        (ch = 35 ∧ next = { scan with state := .fragmentStart }) := by
  have parsed : (endsPath ch = false ∧ parseUrlChar scan.state ch = .path) ∨
      (ch = 63 ∧ parseUrlChar scan.state ch = .queryStringStart) ∨
        (ch = 35 ∧ parseUrlChar scan.state ch = .fragmentStart) ∨ parseUrlChar scan.state ch = .dead := by
    rw [state]
    simp only [parseUrlChar, isUrlChar, endsPath]
    grind
  rcases parsed with ⟨other, parsed⟩ | ⟨sign, parsed⟩ | ⟨sign, parsed⟩ | parsed <;>
    simp only [scanChar, parsed] at step <;> cases step
  · exact .inl ⟨other, rfl⟩
  · exact .inr (.inl ⟨sign, rfl⟩)
  · exact .inr (.inr ⟨sign, rfl⟩)

def InServer (state : UrlState) : Prop :=
  state = .serverStart ∨ state = .server ∨ state = .serverWithAt

theorem parseServerChar_cases (ch : UInt8) :
    (ch = 47 ∧ parseServerChar ch = .path) ∨ (ch = 63 ∧ parseServerChar ch = .queryStringStart) ∨
      (endsAuthority ch = false ∧ (parseServerChar ch = .server ∨ parseServerChar ch = .serverWithAt)) ∨
        parseServerChar ch = .dead := by
  have all : ∀ n : Fin 256, (UInt8.ofFin n = 47 ∧ parseServerChar (UInt8.ofFin n) = .path) ∨
      (UInt8.ofFin n = 63 ∧ parseServerChar (UInt8.ofFin n) = .queryStringStart) ∨
        (endsAuthority (UInt8.ofFin n) = false ∧ (parseServerChar (UInt8.ofFin n) = .server ∨
          parseServerChar (UInt8.ofFin n) = .serverWithAt)) ∨ parseServerChar (UInt8.ofFin n) = .dead := by
    decide +kernel
  exact all ch.toFin

theorem scanChar_server {position : Nat} {scan next : UrlScan} {ch : UInt8} (state : InServer scan.state)
    (step : scanChar position scan ch = some next) :
    (ch = 47 ∧ next = UrlScan.extend { scan with state := .path } position .path) ∨
      (ch = 63 ∧ next = { scan with state := .queryStringStart }) ∨
        (endsAuthority ch = false ∧ InServer next.state ∧ next.oldField = some .host ∧
          ∀ field, field ≠ .host → next.fields field = scan.fields field) := by
  have parsed : parseUrlChar scan.state ch = parseServerChar ch ∨ parseUrlChar scan.state ch = .dead := by
    rcases state with state | state | state <;> rw [state] <;> simp only [parseUrlChar] <;> grind
  rcases parsed with parsed | parsed
  · rcases parseServerChar_cases ch with ⟨sign, server⟩ | ⟨sign, server⟩ | ⟨other, server | server⟩ | server <;>
      rw [server] at parsed <;> simp only [scanChar, parsed] at step <;> cases step
    · exact .inl ⟨sign, rfl⟩
    · exact .inr (.inl ⟨sign, rfl⟩)
    · exact .inr (.inr ⟨other, .inr (.inl rfl), rfl, fun field differs => extend_other _ _ differs⟩)
    · exact .inr (.inr ⟨other, .inr (.inr rfl), rfl, fun field differs => extend_other _ _ differs⟩)
  · simp [scanChar, parsed] at step

/-! ## The rest of the text, state by state -/

theorem scanUrl_cons {position : Nat} {scan final : UrlScan} {ch : UInt8} {rest : Bytes}
    (run : scanUrl position scan (ch :: rest) = some final) :
    ∃ next, scanChar position scan ch = some next ∧ scanUrl (position + 1) next rest = some final := by
  simp only [scanUrl] at run
  split at run
  · cases run
  next next step => exact ⟨next, step, run⟩

theorem scanUrl_fragment {position : Nat} {scan final : UrlScan} {rest : Bytes}
    (state : scan.state = .fragmentStart ∨ scan.state = .fragment)
    (run : scanUrl position scan rest = some final) :
    ∀ field, field ≠ .fragment → final.fields field = scan.fields field := by
  induction rest generalizing position scan with
  | nil =>
      cases run
      exact fun _ _ => rfl
  | cons ch rest continued =>
      obtain ⟨next, step, run⟩ := scanUrl_cons run
      obtain ⟨nextState, same⟩ := scanChar_fragment state step
      exact fun field differs => (continued nextState run field differs).trans (same field differs)

def spanOf (start : Nat) (part : Bytes) : Option Span :=
  if part = [] then none else some ⟨.ofNat start, .ofNat part.length⟩

def Span.longer (span : Span) (more : Nat) : Span := ⟨span.off, span.len + .ofNat more⟩

theorem grow_longer (span : Span) (more : Nat) : span.grow.longer more = span.longer (more + 1) := by
  simp only [Span.longer, Span.grow, UInt16.ofNat_add]
  congr 1
  rw [UInt16.add_assoc, UInt16.add_comm 1]
  rfl

theorem longer_zero (span : Span) : span.longer 0 = span := by
  simp [Span.longer]

theorem spanOf_cons (start : Nat) (c : UInt8) (rest : Bytes) :
    spanOf start (c :: rest) = some (Span.longer ⟨.ofNat start, 1⟩ rest.length) := by
  simp only [spanOf, reduceCtorEq, if_false, Span.longer, List.length_cons, UInt16.ofNat_add]
  rw [UInt16.add_comm]
  rfl

theorem scanUrl_query {position : Nat} {scan final : UrlScan} {rest : Bytes} {span : Span}
    (run : scanUrl position scan rest = some final)
    (state : scan.state = .queryString) (old : scan.oldField = some .query) (set : scan.fields .query = some span) :
    final.fields .query = some (span.longer (rest.takeWhile (· != 35)).length) ∧
      final.fields .path = scan.fields .path := by
  induction rest generalizing position scan span with
  | nil =>
      cases run
      exact ⟨by simp [set, longer_zero], rfl⟩
  | cons ch rest continued =>
      obtain ⟨next, step, run⟩ := scanUrl_cons run
      rcases scanChar_query (.inr state) step with ⟨other, same⟩ | ⟨sign, same⟩
      · subst same
        have grown : (UrlScan.extend { scan with state := .queryString } position .query).fields .query =
            some span.grow := extend_again _ old set
        obtain ⟨query, path⟩ := continued run rfl rfl grown
        refine ⟨?_, path.trans (extend_other _ _ (by decide))⟩
        rw [query, grow_longer, List.takeWhile_cons_of_pos (by simpa using other), List.length_cons]
      · subst same
        have kept := scanUrl_fragment (.inl rfl) run
        refine ⟨?_, kept .path (by decide)⟩
        rw [kept .query (by decide), List.takeWhile_cons_of_neg (by simp [sign])]
        simpa [longer_zero] using set

theorem scanUrl_queryStart {position : Nat} {scan final : UrlScan} {rest : Bytes}
    (run : scanUrl position scan rest = some final)
    (state : scan.state = .queryStringStart) (old : scan.oldField ≠ some .query) (unset : scan.fields .query = none) :
    final.fields .query = spanOf position (rest.takeWhile (· != 35)) ∧ final.fields .path = scan.fields .path := by
  cases rest with
  | nil =>
      cases run
      exact ⟨unset, rfl⟩
  | cons ch rest =>
      obtain ⟨next, step, run⟩ := scanUrl_cons run
      rcases scanChar_query (.inl state) step with ⟨other, same⟩ | ⟨sign, same⟩
      · subst same
        obtain ⟨query, path⟩ := scanUrl_query run rfl rfl (extend_first position old)
        refine ⟨?_, path.trans (extend_other _ _ (by decide))⟩
        rw [query, List.takeWhile_cons_of_pos (by simpa using other), spanOf_cons]
      · subst same
        have kept := scanUrl_fragment (.inl rfl) run
        refine ⟨?_, kept .path (by decide)⟩
        rw [kept .query (by decide), List.takeWhile_cons_of_neg (by simp [sign])]
        exact unset

def Splits (position : Nat) (rest : Bytes) (final : UrlScan) : Prop :=
  final.fields .path = spanOf position (pathPart rest) ∧
    final.fields .query = spanOf (position + (pathPart rest).length + 1) (queryPart rest)

theorem scanUrl_path {position : Nat} {scan final : UrlScan} {rest : Bytes} {span : Span}
    (run : scanUrl position scan rest = some final)
    (state : scan.state = .path) (old : scan.oldField = some .path) (set : scan.fields .path = some span)
    (unset : scan.fields .query = none) :
    final.fields .path = some (span.longer (pathPart rest).length) ∧
      final.fields .query = spanOf (position + (pathPart rest).length + 1) (queryPart rest) := by
  induction rest generalizing position scan span with
  | nil =>
      cases run
      exact ⟨by simpa [pathPart, longer_zero] using set, unset⟩
  | cons ch rest continued =>
      obtain ⟨next, step, run⟩ := scanUrl_cons run
      rcases scanChar_path state step with ⟨other, same⟩ | ⟨sign, same⟩ | ⟨sign, same⟩
      · subst same
        have grown : (UrlScan.extend { scan with state := .path } position .path).fields .path = some span.grow :=
          extend_again _ old set
        obtain ⟨path, query⟩ := continued run rfl rfl grown ((extend_other _ _ (by decide)).trans unset)
        have longer : pathPart (ch :: rest) = ch :: pathPart rest := List.takeWhile_cons_of_pos (by simp [other])
        have later : queryPart (ch :: rest) = queryPart rest := by
          simp [queryPart, List.dropWhile_cons_of_pos, other]
        rw [path, query, grow_longer, longer, later]
        exact ⟨rfl, by simp only [List.length_cons]; congr 1; omega⟩
      · subst same
        obtain ⟨query, path⟩ := scanUrl_queryStart run rfl (by simp [old]) unset
        have ended : pathPart (ch :: rest) = [] := List.takeWhile_cons_of_neg (by simp [sign, endsPath])
        have asked : queryPart (ch :: rest) = rest.takeWhile (· != 35) := by
          simp [queryPart, sign, endsPath, List.dropWhile_cons_of_neg]
        rw [ended, asked, query, path]
        exact ⟨by simpa [longer_zero] using set, rfl⟩
      · subst same
        have kept := scanUrl_fragment (.inl rfl) run
        have ended : pathPart (ch :: rest) = [] := List.takeWhile_cons_of_neg (by simp [sign, endsPath])
        have none : queryPart (ch :: rest) = [] := by
          simp [queryPart, sign, endsPath, List.dropWhile_cons_of_neg]
        rw [kept .path (by decide), kept .query (by decide), ended, none]
        exact ⟨by simpa [longer_zero] using set, unset⟩

theorem scanUrl_server {position : Nat} {scan final : UrlScan} {rest : Bytes}
    (run : scanUrl position scan rest = some final) (state : InServer scan.state)
    (old : scan.oldField ≠ some .path ∧ scan.oldField ≠ some .query)
    (unset : scan.fields .path = none ∧ scan.fields .query = none) :
    Splits (position + (rest.takeWhile fun c => !endsAuthority c).length)
      (rest.dropWhile fun c => !endsAuthority c) final := by
  induction rest generalizing position scan with
  | nil =>
      cases run
      exact unset
  | cons ch rest continued =>
      obtain ⟨next, step, run⟩ := scanUrl_cons run
      rcases scanChar_server state step with ⟨sign, same⟩ | ⟨sign, same⟩ | ⟨other, nextState, nextOld, same⟩
      · subst same
        obtain ⟨path, query⟩ :=
          scanUrl_path run rfl rfl (extend_first position old.1) ((extend_other _ _ (by decide)).trans unset.2)
        have starts : pathPart (ch :: rest) = ch :: pathPart rest :=
          List.takeWhile_cons_of_pos (by simp [sign, endsPath])
        have later : queryPart (ch :: rest) = queryPart rest := by
          simp [queryPart, List.dropWhile_cons_of_pos, sign, endsPath]
        rw [List.takeWhile_cons_of_neg (by simp [sign, endsAuthority]),
          List.dropWhile_cons_of_neg (by simp [sign, endsAuthority])]
        constructor
        · rw [path, starts, spanOf_cons]
          rfl
        · rw [query, starts, later]
          simp only [List.length_cons, List.length_nil]
          congr 1
          omega
      · subst same
        obtain ⟨query, path⟩ := scanUrl_queryStart run rfl old.2 unset.2
        rw [List.takeWhile_cons_of_neg (by simp [sign, endsAuthority]),
          List.dropWhile_cons_of_neg (by simp [sign, endsAuthority])]
        have ended : pathPart (ch :: rest) = [] := List.takeWhile_cons_of_neg (by simp [sign, endsPath])
        have asked : queryPart (ch :: rest) = rest.takeWhile (· != 35) := by
          simp [queryPart, sign, endsPath, List.dropWhile_cons_of_neg]
        constructor
        · rw [path, ended]
          exact unset.1
        · rw [query, ended, asked]
          rfl
      · have split := continued run nextState (by simp [nextOld])
          ⟨(same .path (by decide)).trans unset.1, (same .query (by decide)).trans unset.2⟩
        rw [List.takeWhile_cons_of_pos (by simp [other]), List.dropWhile_cons_of_pos (by simp [other]),
          List.length_cons, Nat.add_comm _ 1, ← Nat.add_assoc]
        exact split

/-! ## From the start -/

def PastAuthority (state : UrlState) : Prop :=
  state = .path ∨ (state = .queryStringStart ∨ state = .queryString) ∨ (state = .fragmentStart ∨ state = .fragment)

theorem scanUrl_pastAuthority {position : Nat} {scan final : UrlScan} {rest : Bytes}
    (run : scanUrl position scan rest = some final) (state : PastAuthority scan.state) :
    final.fields .host = scan.fields .host := by
  induction rest generalizing position scan with
  | nil =>
      cases run
      rfl
  | cons ch rest continued =>
      obtain ⟨next, step, run⟩ := scanUrl_cons run
      have kept : PastAuthority next.state ∧ next.fields .host = scan.fields .host := by
        rcases state with state | state | state
        · rcases scanChar_path state step with ⟨-, same⟩ | ⟨-, same⟩ | ⟨-, same⟩ <;> subst same
          · exact ⟨.inl rfl, extend_other _ _ (by decide)⟩
          · exact ⟨.inr (.inl (.inl rfl)), rfl⟩
          · exact ⟨.inr (.inr (.inl rfl)), rfl⟩
        · rcases scanChar_query state step with ⟨-, same⟩ | ⟨-, same⟩ <;> subst same
          · exact ⟨.inr (.inl (.inr rfl)), extend_other _ _ (by decide)⟩
          · exact ⟨.inr (.inr (.inl rfl)), rfl⟩
        · obtain ⟨nextState, same⟩ := scanChar_fragment state step
          exact ⟨.inr (.inr nextState), same .host (by decide)⟩
      exact (continued run kept.1).trans kept.2

theorem scanChar_schema {position : Nat} {scan next : UrlScan} {ch : UInt8} (state : scan.state = .schema)
    (step : scanChar position scan ch = some next) :
    (ch ≠ 58 ∧ next = UrlScan.extend { scan with state := .schema } position .schema) ∨
      (ch = 58 ∧ next = { scan with state := .schemaSlash }) := by
  have parsed : ∀ n : Fin 256, (UInt8.ofFin n ≠ 58 ∧ parseUrlChar .schema (UInt8.ofFin n) = .schema) ∨
      (UInt8.ofFin n = 58 ∧ parseUrlChar .schema (UInt8.ofFin n) = .schemaSlash) ∨
        parseUrlChar .schema (UInt8.ofFin n) = .dead := by
    decide +kernel
  rcases parsed ch.toFin with ⟨other, parsed⟩ | ⟨colon, parsed⟩ | parsed <;>
    rw [UInt8.ofFin_toFin] at * <;> simp only [scanChar, state, parsed] at step <;> cases step
  · exact .inl ⟨other, rfl⟩
  · exact .inr ⟨colon, rfl⟩

theorem scanChar_slash {position : Nat} {scan next : UrlScan} {ch : UInt8}
    (step : scanChar position scan ch = some next) :
    (scan.state = .schemaSlash → ch = 47 ∧ next = { scan with state := .schemaSlashSlash }) ∧
      (scan.state = .schemaSlashSlash → ch = 47 ∧ next = { scan with state := .serverStart }) := by
  constructor <;> intro state <;> by_cases slash : ch = 47
  all_goals simp [scanChar, parseUrlChar, state, slash] at step
  all_goals exact ⟨slash, step.symm⟩

theorem scanUrl_schema {position : Nat} {scan final : UrlScan} {rest : Bytes}
    (run : scanUrl position scan rest = some final) (state : scan.state = .schema)
    (old : scan.oldField = some .schema)
    (unset : scan.fields .host = none ∧ scan.fields .path = none ∧ scan.fields .query = none)
    (host : (final.fields .host).isSome) :
    Splits (position + (rest.length - (afterAuthority rest).length)) (afterAuthority rest) final := by
  induction rest generalizing position scan with
  | nil =>
      cases run
      simp [unset.1] at host
  | cons ch rest continued =>
      obtain ⟨next, step, run⟩ := scanUrl_cons run
      rcases scanChar_schema state step with ⟨other, same⟩ | ⟨colon, same⟩
      · subst same
        have split := continued run rfl rfl
          ⟨(extend_other _ _ (by decide)).trans unset.1, (extend_other _ _ (by decide)).trans unset.2.1,
            (extend_other _ _ (by decide)).trans unset.2.2⟩
        have skipped : afterAuthority (ch :: rest) = afterAuthority rest := by
          simp only [afterAuthority]
          rw [List.dropWhile_cons_of_pos (by simpa using other)]
        have shorter : (afterAuthority rest).length ≤ rest.length :=
          ((List.dropWhile_sublist _).trans ((List.drop_sublist _ _).trans (List.dropWhile_sublist _))).length_le
        rw [skipped, List.length_cons, Nat.add_comm rest.length 1, Nat.add_sub_assoc shorter, ← Nat.add_assoc]
        exact split
      · subst same
        -- the two slashes have to follow, or there is no host
        cases rest with
        | nil =>
            cases run
            simp [unset.1] at host
        | cons first rest =>
            obtain ⟨next, step, run⟩ := scanUrl_cons run
            obtain ⟨slash, same⟩ := (scanChar_slash step).1 rfl
            subst same
            cases rest with
            | nil =>
                cases run
                simp [unset.1] at host
            | cons second rest =>
                obtain ⟨next, step, run⟩ := scanUrl_cons run
                obtain ⟨slash', same⟩ := (scanChar_slash step).2 rfl
                subst same
                have split := scanUrl_server run (.inl rfl) (by simp [old]) unset.2
                have skipped : afterAuthority (ch :: first :: second :: rest) =
                    rest.dropWhile fun c => !endsAuthority c := by
                  simp only [afterAuthority]
                  rw [List.dropWhile_cons_of_neg (by simp [colon])]
                  rfl
                have lengths : (rest.takeWhile fun c => !endsAuthority c).length +
                    (rest.dropWhile fun c => !endsAuthority c).length = rest.length := by
                  rw [← List.length_append, List.takeWhile_append_dropWhile]
                rw [skipped]
                simp only [List.length_cons]
                have same : position + (rest.length + 1 + 1 + 1 - (rest.dropWhile fun c => !endsAuthority c).length) =
                    position + 1 + 1 + 1 + (rest.takeWhile fun c => !endsAuthority c).length := by omega
                rw [same]
                exact split

theorem scanUrl_splits {text : Bytes} {final : UrlScan} (run : scanUrl 0 .start text = some final)
    (host : (final.fields .host).isSome) : Splits (pathStart text) (afterAuthority text) final := by
  cases text with
  | nil =>
      cases run
      cases host
  | cons ch rest =>
      obtain ⟨next, step, run⟩ := scanUrl_cons run
      have parsed : ∀ n : Fin 256, parseUrlChar .spacesBeforeUrl (UInt8.ofFin n) = .path ∨
          (UInt8.ofFin n ≠ 58 ∧ parseUrlChar .spacesBeforeUrl (UInt8.ofFin n) = .schema) ∨
            parseUrlChar .spacesBeforeUrl (UInt8.ofFin n) = .dead := by
        decide +kernel
      rcases parsed ch.toFin with parsed | ⟨other, parsed⟩ | parsed <;>
        rw [UInt8.ofFin_toFin] at * <;> simp only [scanChar, UrlScan.start, parsed] at step <;> cases step
      · rw [scanUrl_pastAuthority run (.inl rfl), extend_other _ _ (by decide)] at host
        cases host
      · have split := scanUrl_schema run rfl rfl ⟨rfl, rfl, rfl⟩ host
        have skipped : afterAuthority (ch :: rest) = afterAuthority rest := by
          simp only [afterAuthority]
          rw [List.dropWhile_cons_of_pos (by simpa using other)]
        have shorter : (afterAuthority rest).length ≤ rest.length :=
          ((List.dropWhile_sublist _).trans ((List.drop_sublist _ _).trans (List.dropWhile_sublist _))).length_le
        rw [pathStart, skipped, List.length_cons, Nat.add_comm rest.length 1, Nat.add_sub_assoc shorter]
        rw [Nat.zero_add] at split
        exact split

/-! ## Clipped parts -/

theorem clipped_length {text : Bytes} {start : Nat} {part : Bytes} (inside : start + part.length ≤ text.length) :
    (clipped text start part).length = part.length % 2 ^ 16 := by
  have startLess := Nat.mod_le start (2 ^ 16)
  have partLess := Nat.mod_le part.length (2 ^ 16)
  simp only [clipped, List.length_take, List.length_drop]
  omega

theorem afterAuthority_length (text : Bytes) : (afterAuthority text).length ≤ text.length :=
  ((List.dropWhile_sublist _).trans ((List.drop_sublist _ _).trans (List.dropWhile_sublist _))).length_le

theorem pathPart_queryPart_length (text : Bytes) :
    (pathPart text).length ≤ text.length ∧
      (queryPart text ≠ [] → (pathPart text).length + 1 + (queryPart text).length ≤ text.length) := by
  have lengths : (pathPart text).length + (text.dropWhile fun c => !endsPath c).length = text.length := by
    rw [pathPart, ← List.length_append, List.takeWhile_append_dropWhile]
  refine ⟨by omega, fun some => ?_⟩
  simp only [queryPart] at some ⊢
  split
  next rest found =>
    have shorter := (List.takeWhile_sublist (l := rest) (· != 35)).length_le
    rw [found, List.length_cons] at lengths
    omega
  next other =>
    refine absurd ?_ some
    split
    next rest found => exact absurd found (other rest)
    · rfl

theorem urlPath_length (text : Bytes) :
    (clipped text (pathStart text) (urlPath text)).length = (urlPath text).length % 2 ^ 16 := by
  have hier := afterAuthority_length text
  have parts := (pathPart_queryPart_length (afterAuthority text)).1
  apply clipped_length
  simp only [pathStart, urlPath]
  omega

theorem urlQuery_length (text : Bytes) :
    (clipped text (queryStart text) (urlQuery text)).length = (urlQuery text).length % 2 ^ 16 := by
  by_cases none : urlQuery text = []
  · simp [clipped, none]
  · have hier := afterAuthority_length text
    have parts := (pathPart_queryPart_length (afterAuthority text)).2 none
    apply clipped_length
    simp only [queryStart, pathStart, urlPath, urlQuery]
    omega

def joined (path query : Bytes) : Bytes :=
  path ++ if query = [] then [] else bytes "?" ++ query

theorem joined_graphic {text first second : Bytes} {start next : Nat} (graphic : ∀ c ∈ text, 33 ≤ c ∧ c ≤ 126) :
    32 ∉ joined (clipped text start first) (clipped text next second) ∧
      13 ∉ joined (clipped text start first) (clipped text next second) := by
  have inside : ∀ {start : Nat} {part : Bytes} {c : UInt8}, c ∈ clipped text start part → 33 ≤ c :=
    fun member => (graphic _ (List.mem_of_mem_drop (List.mem_of_mem_take member))).1
  have all : ∀ c ∈ joined (clipped text start first) (clipped text next second), 33 ≤ c := by
    intro c member
    rcases List.mem_append.1 member with member | member
    · exact inside member
    · split at member
      · cases member
      · rcases List.mem_append.1 member with member | member
        · rw [List.mem_singleton.1 member]
          decide
        · exact inside member
  exact ⟨fun member => absurd (all 32 member) (by decide), fun member => absurd (all 13 member) (by decide)⟩

theorem joined_length (path query : Bytes) :
    (query.length = 0 ∧ (joined path query).length = path.length) ∨
      (0 < query.length ∧ (joined path query).length = path.length + 1 + query.length) := by
  by_cases none : query = []
  · exact .inl ⟨by simp [none], by simp [joined, none]⟩
  · refine .inr ⟨List.length_pos_iff.2 none, ?_⟩
    simp only [joined, none, if_false, List.length_append]
    rw [show (bytes "?").length = 1 from rfl, Nat.add_assoc]

/-- A path and a query, as far as their lengths have been clipped, make the request-target only when nothing is lost and
the path is there. -/
theorem target_iff {path query clippedPath clippedQuery : Bytes}
    (pathLength : clippedPath.length = path.length % 2 ^ 16)
    (queryLength : clippedQuery.length = query.length % 2 ^ 16) :
    (if joined clippedPath clippedQuery = [] then bytes "/" else joined clippedPath clippedQuery) =
        joined (if path = [] then bytes "/" else path) query ↔
      (path ≠ [] ∨ query = []) ∧ clippedPath = path ∧ clippedQuery = query := by
  have clip := joined_length clippedPath clippedQuery
  constructor
  · intro same
    have lengths := congrArg List.length same
    by_cases noPath : path = []
    · have full := joined_length (bytes "/") query
      rw [show (bytes "/").length = 1 from rfl] at full
      rw [if_pos noPath] at lengths
      rw [noPath, List.length_nil, Nat.zero_mod] at pathLength
      have noQuery : query.length = 0 := by
        split at lengths
        · rw [show (bytes "/").length = 1 from rfl] at lengths
          omega
        · omega
      rw [noQuery, Nat.zero_mod] at queryLength
      rw [List.length_eq_zero_iff] at pathLength queryLength noQuery
      exact ⟨.inr noQuery, pathLength.trans noPath.symm, queryLength.trans noQuery.symm⟩
    · have full := joined_length path query
      have positive := List.length_pos_iff.2 noPath
      rw [if_neg noPath] at same lengths
      have target : joined clippedPath clippedQuery ≠ [] := by
        intro empty
        rw [if_pos empty, show (bytes "/").length = 1 from rfl] at lengths
        rw [empty, List.length_nil] at clip
        omega
      rw [if_neg target] at same lengths
      have samePath : clippedPath.length = path.length := by omega
      have sameQuery : clippedQuery.length = query.length := by omega
      have parts := List.append_inj same samePath
      refine ⟨.inl noPath, parts.1, ?_⟩
      by_cases noQuery : query = []
      · rw [noQuery, List.length_nil, List.length_eq_zero_iff] at sameQuery
        rw [noQuery, sameQuery]
      · have someQuery : clippedQuery ≠ [] := by
          intro empty
          rw [empty] at sameQuery
          exact noQuery (List.length_eq_zero_iff.1 sameQuery.symm)
        simpa [noQuery, someQuery] using parts.2
  · rintro ⟨rooted, rfl, rfl⟩
    by_cases noPath : clippedPath = []
    · have noQuery := rooted.resolve_left (absurd noPath)
      simp [noPath, noQuery, joined]
    · simp [noPath, joined]

/-! ## `Url::Set` -/

theorem parseHost_other {text : Bytes} {span : Span} {foundAt : Bool} {fields parsed : UrlFields}
    (accepted : parseHost text span foundAt fields = some parsed) :
    parsed .path = fields .path ∧ parsed .query = fields .query ∧ parsed .schema = fields .schema := by
  simp only [parseHost] at accepted
  split at accepted
  · cases accepted
  · split at accepted <;> cases accepted
    simp [UrlFields.set]

theorem httpParserParseUrl_ok {text : Bytes} {fields : UrlFields} (accepted : httpParserParseUrl text = some fields) :
    ∃ scan, scanUrl 0 .start text = some scan ∧
      ((scan.fields .host).isNone → fields .host = none) ∧
      fields .path = scan.fields .path ∧ fields .query = scan.fields .query := by
  simp only [httpParserParseUrl] at accepted
  split at accepted
  · cases accepted
  next scan run =>
    refine ⟨scan, run, ?_⟩
    split at accepted
    · cases accepted
    next =>
      cases host : scan.fields .host with
      | none =>
          simp only [host] at accepted
          split at accepted
          · split at accepted <;> cases accepted
            exact ⟨fun _ => host, rfl, rfl⟩
          · cases accepted
            exact ⟨fun _ => host, rfl, rfl⟩
      | some span =>
          simp only [host] at accepted
          split at accepted
          · cases accepted
          next parsed hosted =>
            obtain ⟨path, query, -⟩ := parseHost_other hosted
            have same : fields = parsed := by
              split at accepted
              · split at accepted <;> cases accepted
                rfl
              · cases accepted
                rfl
            rw [same]
            exact ⟨nofun, path, query⟩

theorem get_spanOf (text : Bytes) {fields : UrlFields} {field : UrlField} {start : Nat} {part : Bytes}
    (same : fields field = spanOf start part) : fields.get text field "" = clipped text start part := by
  rw [UrlFields.get, same, spanOf]
  split
  next span is =>
    split at is <;> cases is
    simp [Span.get, clipped]
  next is =>
    split at is
    next empty => simp [clipped, empty]; rfl
    next => cases is

theorem get_subset {text : Bytes} {fields : UrlFields} {field : UrlField} {c : UInt8}
    (member : c ∈ fields.get text field "") : c ∈ text := by
  rw [UrlFields.get] at member
  split at member
  · exact List.mem_of_mem_drop (List.mem_of_mem_take member)
  · cases member

theorem urlSet_ok {text : Bytes} {url : Url} (accepted : urlSet text = some url) (host : url.host ≠ []) :
    url.path = joined (clipped text (pathStart text) (urlPath text)) (clipped text (queryStart text) (urlQuery text)) ∧
      (∀ c ∈ text, 33 ≤ c ∧ c ≤ 126) ∧ url.host.length < 2 ^ 16 ∧ ∀ c ∈ url.host, ∃ d ∈ text, c = toLower d := by
  simp only [urlSet] at accepted
  split at accepted
  · cases accepted
  next fields parsed =>
    cases accepted
    obtain ⟨scan, run, hostless, path, query⟩ := httpParserParseUrl_ok parsed
    have hosted : (scan.fields .host).isSome := by
      cases found : scan.fields .host with
      | some span => rfl
      | none =>
          refine absurd ?_ host
          show (fields.get text .host "").map toLower = []
          rw [UrlFields.get, hostless (by simp [found])]
          rfl
    obtain ⟨pathSpan, querySpan⟩ := scanUrl_splits run hosted
    have pathText := get_spanOf text (path.trans pathSpan)
    have queryText := get_spanOf text (query.trans querySpan)
    refine ⟨?_, scanUrl_graphic run, ?_, ?_⟩
    · simp only [pathText, queryText]
      rw [show pathPart (afterAuthority text) = urlPath text from rfl,
        show queryPart (afterAuthority text) = urlQuery text from rfl,
        show pathStart text + (urlPath text).length + 1 = queryStart text from rfl]
      simp only [joined]
      split <;> simp
    · simp only [List.length_map, UrlFields.get]
      split
      next span _ =>
        have := span.len.toNat_lt
        simp only [Span.get, List.length_take]
        omega
      · decide
    · intro c member
      obtain ⟨d, member, same⟩ := List.mem_map.1 member
      exact ⟨d, get_subset member, same.symm⟩

end IotClient.Net
