import IotClient.Proof.Hex
import IotClient.Proof.JsonText
import IotClient.Spec.PrivateMessage

namespace IotClient
open Logic

theorem backslashesPaired_of_notMem {value : Bytes} (notMem : 92 ∉ value) : backslashesPaired value := by
  induction value using backslashesPaired.induct with
  | case1 => rfl
  | case2 c =>
      have notBackslash : c ≠ 92 := fun equal => notMem (by simp [equal])
      simpa [backslashesPaired] using notBackslash
  | case3 => simp at notMem
  | case4 c d rest notBackslash inductive_hypothesis =>
      simp only [backslashesPaired, notBackslash, if_false]
      exact inductive_hypothesis fun listed => notMem (by simp [listed])

theorem backslashesPaired_hexEncode (data : Bytes) : backslashesPaired (hexEncode data) := by
  apply backslashesPaired_of_notMem
  have notBackslash (c : UInt8) : hexChar c ≠ 92 := by
    have all : ∀ n : Fin 256, hexChar (UInt8.ofFin n) ≠ 92 := by decide +kernel
    exact all c.toFin
  induction data with
  | nil => simp [hexEncode]
  | cons c data inductive_hypothesis =>
      simp only [hexEncode_cons, List.mem_cons, not_or]
      exact ⟨(notBackslash _).symm, (notBackslash _).symm, inductive_hypothesis⟩

/-! ## Reading a private message -/

theorem index_eq_ok {element value : Json} {name : Bytes} :
    element.index name = .ok value ↔
      ∃ members, element = .object members ∧ Json.find members name = some value := by
  cases element with
  | object members =>
      simp only [Json.index, Json.toObject, Json.lookup, bind, Except.bind]
      cases found : Json.find members name <;> simp [found]
  | null | boolean | number | string | array => simp [Json.index, Json.toObject, bind, Except.bind]

theorem toBytes_eq_ok {element : Json} {value : Bytes} :
    element.toBytes = .ok value ↔ element = .string value := by
  cases element <;> simp [Json.toBytes]

theorem toBoolean_eq_ok {element : Json} {value : Bool} :
    element.toBoolean = .ok value ↔ element = .boolean value := by
  cases element <;> simp [Json.toBoolean]

theorem sokDecrypt_eq_ok {sok : Sok} {data : SokData} {sokRecvKey userIdFrom text : Bytes} :
    sokDecrypt sok data sokRecvKey userIdFrom = .ok text ↔
      sokRecvKey.length = g2s ∧ ∃ key, sok.pair2 sokRecvKey userIdFrom = .ok key ∧
        sok.decrypt key data.iv userIdFrom data.ciphertext = (text, data.tag) := by
  unfold sokDecrypt
  by_cases size : sokRecvKey.length = g2s
  · cases pairing : sok.pair2 sokRecvKey userIdFrom with
    | error code => simp [size]
    | ok key =>
        rcases decrypted : sok.decrypt key data.iv userIdFrom data.ciphertext with ⟨plaintext, tag⟩
        by_cases same : data.tag = tag
        · simp [size, decrypted, same]
        · simp [size, decrypted, same, eq_comm]
  · simp [size]

theorem stringField_eq_ok {α : Type} {members : List (Bytes × Json)} {name : Bytes}
    {next : Bytes → Except Fault α} {result : α} :
    ((Json.object members).index name >>= fun element => element.toBytes >>= next) = .ok result ↔
      ∃ value, Json.find members name = some (.string value) ∧ next value = .ok result := by
  simp only [bind_eq_ok, index_eq_ok, toBytes_eq_ok]
  grind

theorem readPrivateMessage_eq_ok {sok : Sok} {sign : CharSign} {sokRecvKey payload userIdFrom text : Bytes} :
    readPrivateMessage sok sign sokRecvKey payload = .ok (userIdFrom, text) ↔
      DescribesPrivateMessage sok sign sokRecvKey payload userIdFrom text := by
  unfold readPrivateMessage
  constructor
  · intro read
    obtain ⟨json, parsed, readFrom⟩ := bind_eq_ok.mp read
    obtain ⟨members, rfl⟩ : ∃ members, json = .object members := by
      obtain ⟨_, indexed, _⟩ := bind_eq_ok.mp readFrom
      obtain ⟨members, equal, _⟩ := index_eq_ok.mp indexed
      exact ⟨members, equal⟩
    obtain ⟨sender, foundFrom, readEncrypted⟩ := stringField_eq_ok.mp readFrom
    obtain ⟨element, indexed, readValue⟩ := bind_eq_ok.mp readEncrypted
    obtain ⟨encrypted, isBoolean, readRest⟩ := bind_eq_ok.mp readValue
    obtain ⟨_, same, foundEncrypted⟩ := index_eq_ok.mp indexed
    rw [toBoolean_eq_ok.mp isBoolean, ← Json.object.inj same] at foundEncrypted
    cases encrypted with
    | false =>
        obtain ⟨data, foundData, equal⟩ := stringField_eq_ok.mp readRest
        obtain ⟨rfl, rfl⟩ := Prod.mk.inj (Except.ok.inj equal)
        exact .plain parsed foundFrom foundEncrypted foundData
    | true =>
        obtain ⟨iv, foundIv, readCiphertext⟩ := stringField_eq_ok.mp readRest
        obtain ⟨ciphertext, foundCiphertext, readTag⟩ := stringField_eq_ok.mp readCiphertext
        obtain ⟨tag, foundTag, readPayload⟩ := stringField_eq_ok.mp readTag
        obtain ⟨plaintext, decryption, readEmpty⟩ := bind_eq_ok.mp readPayload
        obtain ⟨size, key, pairing, decrypted⟩ := sokDecrypt_eq_ok.mp decryption
        by_cases empty : (hexDecode iv).isEmpty || (hexDecode ciphertext).isEmpty || (hexDecode tag).isEmpty
        · simp [empty, throw, throwThe, MonadExceptOf.throw, bind, Except.bind] at readEmpty
        · simp only [empty, Bool.false_eq_true, if_false] at readEmpty
          obtain ⟨rfl, rfl⟩ := Prod.mk.inj (Except.ok.inj readEmpty)
          simp only [Bool.or_eq_true, List.isEmpty_iff, not_or] at empty
          exact .encrypted parsed foundFrom foundEncrypted foundIv foundCiphertext foundTag empty.1.1
            empty.1.2 empty.2 size pairing decrypted
  · intro describes
    cases describes with
    | plain parsed foundFrom foundEncrypted foundData =>
        simp [parsed, index_eq_ok.mpr ⟨_, rfl, foundFrom⟩, index_eq_ok.mpr ⟨_, rfl, foundEncrypted⟩,
          index_eq_ok.mpr ⟨_, rfl, foundData⟩, Json.toBytes, Json.toBoolean, bind, Except.bind, pure,
          Except.pure]
    | @encrypted members iv ciphertext tag key parsed foundFrom foundEncrypted foundIv foundCiphertext
        foundTag ivNonempty ciphertextNonempty tagNonempty size pairing decrypted =>
        have decryption : sokDecrypt sok ⟨hexDecode iv, hexDecode ciphertext, hexDecode tag⟩ sokRecvKey
            userIdFrom = .ok text := sokDecrypt_eq_ok.mpr ⟨size, key, pairing, decrypted⟩
        simp [parsed, index_eq_ok.mpr ⟨_, rfl, foundFrom⟩, index_eq_ok.mpr ⟨_, rfl, foundEncrypted⟩,
          index_eq_ok.mpr ⟨_, rfl, foundIv⟩, index_eq_ok.mpr ⟨_, rfl, foundCiphertext⟩,
          index_eq_ok.mpr ⟨_, rfl, foundTag⟩, ivNonempty, ciphertextNonempty, tagNonempty, decryption,
          Json.toBytes, Json.toBoolean, bind, Except.bind, pure, Except.pure]

theorem privateMessage_eq_ok {sok : Sok} {sign : CharSign} {sokRecvKey payload userIdFrom text : Bytes} :
    privateMessage sok sign sokRecvKey payload = .ok (userIdFrom, text) ↔
      DescribesPrivateMessage sok sign sokRecvKey payload userIdFrom text := by
  rw [← readPrivateMessage_eq_ok, privateMessage]
  unfold catchJson
  split <;> simp_all

theorem classifyMessage_private {sok : Sok} {sign : CharSign}
    {topic sokRecvKey payload userIdFrom text : Bytes} :
    classifyMessage sok sign topic sokRecvKey topic payload = .ok (.onPrivateMessageArrived userIdFrom text) ↔
      DescribesPrivateMessage sok sign sokRecvKey payload userIdFrom text := by
  rw [← privateMessage_eq_ok, classifyMessage, if_pos rfl]
  split <;> simp_all

/-! ## From sender to addressee -/

theorem find_from_unpaired {sign : CharSign} {userId text : Bytes} {encrypted : Bool}
    {members parsed : List (Bytes × Json)} (unpaired : backslashesPaired userId = false)
    (written : jsonToString id (.object ((bytes "from", .string userId) ::
      (bytes "encrypted", .boolean encrypted) :: members)) = .ok text)
    (isParsed : jsonParse sign text = .ok (.object parsed)) :
    Json.find parsed (bytes "from") ≠ some (.string userId) := by
  have writtenObject := written
  rw [jsonToString_object (by simp)] at writtenObject
  obtain ⟨objectText, writtenMembers, _⟩ := map_eq_ok.mp writtenObject
  obtain ⟨_, fromText, restText, _, writtenFrom, writtenRest, _⟩ := writeMembers_eq_ok writtenMembers
  obtain ⟨valueText, writtenValue, _⟩ := writeString_eq_ok writtenFrom
  obtain ⟨nameText, _, tailText, writtenName, _, _, equal⟩ := writeMembers_eq_ok writtenRest
  obtain rfl : [34] ++ bytes "encrypted" ++ [34] = nameText := Except.ok.inj writtenName
  obtain ⟨result, rest, tokens, more, matched, scanned, object⟩ :=
    jsonParse_stringMember [] _ (by simp) (by decide) writtenValue writtenRest written isParsed
  obtain rfl := Json.object.inj object
  intro found
  obtain rfl : result = userId := by simpa [Json.find] using found
  rcases matchChars_unpaired unpaired writtenValue matched with shorter | overrun
  · simp at shorter
  · obtain ⟨skipped, string, uni, small, read⟩ := overrun
    -- The next quote opens the name of the second member, which then stands outside any string.
    obtain ⟨tail, suffix⟩ : ∃ tail, separator ((bytes "encrypted", Json.boolean encrypted) :: members) ++
        (restText ++ [125]) = [44, 10, 9] ++ 34 :: 101 :: tail :=
      ⟨_, by rw [equal]; simp [separator, bytes, tabs]; rfl⟩
    rw [suffix, List.drop_append_of_le_length (by simpa using small)] at read
    have plain : ∀ c ∈ ([44, 10, 9] : Bytes), c ≠ 34 ∧ c ≠ 92 := by simp
    obtain rfl := matchChars_plain (fun c listed => plain c (List.mem_of_mem_drop listed)) read
    rw [scan_token sign tail rfl] at scanned
    cases scanned

theorem find_data_unpaired {sign : CharSign} {userId payload text : Bytes} {parsed : List (Bytes × Json)}
    (paired : backslashesPaired userId) (unpaired : backslashesPaired payload = false)
    (written : jsonToString id (.object [(bytes "from", .string userId),
      (bytes "encrypted", .boolean false), (bytes "data", .string payload)]) = .ok text)
    (isParsed : jsonParse sign text = .ok (.object parsed)) :
    Json.find parsed (bytes "encrypted") = some (.boolean false) ∧
      Json.find parsed (bytes "data") ≠ some (.string payload) := by
  have writtenObject := written
  rw [jsonToString_object (by simp)] at writtenObject
  obtain ⟨objectText, writtenMembers, _⟩ := map_eq_ok.mp writtenObject
  obtain ⟨_, _, _, _, _, writtenEncrypted, _⟩ := writeMembers_eq_ok writtenMembers
  obtain ⟨_, _, _, _, _, writtenData, _⟩ := writeMembers_eq_ok writtenEncrypted
  obtain ⟨_, _, _, _, writtenString, _, _⟩ := writeMembers_eq_ok writtenData
  obtain ⟨valueText, writtenValue, _⟩ := writeString_eq_ok writtenString
  obtain ⟨result, rest, tokens, more, matched, scanned, object⟩ :=
    jsonParse_stringMember [(bytes "from", .string userId), (bytes "encrypted", .boolean false)] []
      (by simp [flat, paired]; decide) (by decide) writtenValue rfl written isParsed
  obtain rfl := Json.object.inj object
  refine ⟨rfl, fun found => ?_⟩
  obtain rfl : result = payload := by
    simpa [Json.find, show bytes "from" ≠ bytes "data" by decide,
      show bytes "encrypted" ≠ bytes "data" by decide] using found
  rcases matchChars_unpaired unpaired writtenValue matched with shorter | overrun
  · simp at shorter
  · obtain ⟨skipped, string, uni, _, read⟩ := overrun
    have plain : ∀ c ∈ ([10, 125] : Bytes), c ≠ 34 ∧ c ≠ 92 := by simp
    exact matchChars_unclosed (fun c listed => plain c (List.mem_of_mem_drop listed)) _ read

theorem jsonToString_eq_error {members : List (Bytes × Json)} {failure : Fault}
    (scalars : ∀ member ∈ members, scalar member.2) (nonempty : members ≠ [])
    (failed : jsonToString id (.object members) = .error failure) : failure = .outOfRange := by
  rw [jsonToString_object nonempty, map_eq_error] at failed
  clear nonempty
  have string {value : Bytes} (failed : writeString value = .error failure) : failure = .outOfRange := by
    rcases bind_eq_error.mp failed with failed | ⟨_, _, failed⟩
    · exact writeChars_eq_error failed
    · contradiction
  induction members with
  | nil => contradiction
  | cons member members inductive_hypothesis =>
      rw [writeMembers] at failed
      rcases bind_eq_error.mp failed with failed | ⟨_, _, failed⟩
      · exact string failed
      rcases bind_eq_error.mp failed with failed | ⟨_, _, failed⟩
      · have isScalar := scalars member (by simp)
        cases value : member.2 with
        | string => exact string (by simpa [value, writeElement] using failed)
        | boolean => simp [value, writeElement] at failed
        | null | number | array | object => simp [value, scalar] at isScalar
      rcases bind_eq_error.mp failed with failed | ⟨_, _, failed⟩
      · exact inductive_hypothesis (fun member listed => scalars member (by simp [listed])) failed
      · contradiction

theorem DescribesPrivateMessage.backslashesPaired_from {sok : Sok} {sign : CharSign}
    {sokRecvKey text userIdFrom payload : Bytes} {encrypted : Bool} {members : List (Bytes × Json)}
    (describes : DescribesPrivateMessage sok sign sokRecvKey text userIdFrom payload)
    (written : jsonToString id (.object ((bytes "from", .string userIdFrom) ::
      (bytes "encrypted", .boolean encrypted) :: members)) = .ok text) :
    backslashesPaired userIdFrom := by
  cases unpaired : backslashesPaired userIdFrom with
  | true => rfl
  | false =>
      cases describes with
      | plain parsed found => exact absurd found (find_from_unpaired unpaired written parsed)
      | encrypted parsed found => exact absurd found (find_from_unpaired unpaired written parsed)

theorem roundTrips_iff_describes {sok : Sok} {sign : CharSign} {random : Option Iv}
    {sokSendKey sokRecvKey userIdFrom userIdTo payload : Bytes} {encrypt : Bool}
    (members : List (Bytes × Json)) (scalars : ∀ member ∈ members, scalar member.2) (nonempty : members ≠ [])
    (object : privateMessageObject sok random userIdFrom sokSendKey userIdTo payload encrypt = .ok members) :
    RoundTrips sok sign random sokSendKey sokRecvKey userIdFrom userIdTo payload encrypt ↔
      ∃ text, jsonToString id (.object members) = .ok text ∧
        DescribesPrivateMessage sok sign sokRecvKey text userIdFrom payload := by
  have serialized : serializePrivateMessage sok random userIdFrom sokSendKey userIdTo payload encrypt =
      jsonToString id (.object members) := by
    rw [serializePrivateMessage, object]
    rfl
  simp only [RoundTrips, serialized, classifyMessage_private]
  constructor
  · rintro ⟨inside, arrives, _⟩
    cases written : jsonToString id (.object members) with
    | error failure =>
        rw [written, jsonToString_eq_error scalars nonempty written] at inside
        contradiction
    | ok text => exact ⟨text, rfl, arrives text written⟩
  · rintro ⟨text, written, describes⟩
    refine ⟨by simp [written], fun other isOther => ?_, fun other different equal => ?_⟩
    · obtain rfl := Except.ok.inj (written.symm.trans isOther)
      exact describes
    · exact different (getPrivateMessageTopic_injective equal)

theorem roundTrips_plain_iff {sok : Sok} {sign : CharSign} {random : Option Iv}
    {sokSendKey sokRecvKey userIdFrom userIdTo payload : Bytes} :
    RoundTrips sok sign random sokSendKey sokRecvKey userIdFrom userIdTo payload false ↔
      backslashesPaired userIdFrom ∧ backslashesPaired payload := by
  rw [roundTrips_iff_describes [(bytes "from", .string userIdFrom),
    (bytes "encrypted", .boolean false), (bytes "data", .string payload)] (by simp [scalar]) (by simp) rfl]
  constructor
  · rintro ⟨text, written, describes⟩
    have pairedFrom := describes.backslashesPaired_from written
    refine ⟨pairedFrom, ?_⟩
    cases unpaired : backslashesPaired payload with
    | true => rfl
    | false =>
        cases describes with
        | plain parsed _ _ foundData =>
            exact absurd foundData (find_data_unpaired pairedFrom unpaired written parsed).2
        | encrypted parsed _ foundEncrypted =>
            rw [(find_data_unpaired pairedFrom unpaired written parsed).1] at foundEncrypted
            simp at foundEncrypted
  · rintro ⟨pairedFrom, pairedPayload⟩
    obtain ⟨text, written, parsed⟩ := jsonParse_jsonToString sign
      [(bytes "from", .string userIdFrom), (bytes "encrypted", .boolean false),
        (bytes "data", .string payload)]
      (by simp [flat, pairedFrom, pairedPayload]; decide) (by simp)
      (show [bytes "from", bytes "encrypted", bytes "data"].Nodup by decide)
    exact ⟨text, written, .plain parsed rfl rfl rfl⟩

theorem roundTrips_encrypted_iff {sok : Sok} {sign : CharSign}
    {sokSendKey sokRecvKey userIdFrom userIdTo payload : Bytes} (iv : Iv)
    (matching : MatchingKeys sok sokSendKey sokRecvKey userIdFrom userIdTo) (inverts : sok.Inverts) :
    RoundTrips sok sign (some iv) sokSendKey sokRecvKey userIdFrom userIdTo payload true ↔
      backslashesPaired userIdFrom ∧ payload ≠ [] := by
  obtain ⟨key, sending, receiving⟩ := matching.shared
  have encrypted := sok.encrypt_length key iv.val userIdFrom payload
  have tagged := sok.encrypt_tag key iv.val userIdFrom payload
  have decrypted := inverts key iv.val userIdFrom payload
  generalize ciphertext : sok.encrypt key iv.val userIdFrom payload = sealed at encrypted tagged decrypted
  rw [roundTrips_iff_describes [(bytes "from", .string userIdFrom),
    (bytes "encrypted", .boolean true), (bytes "iv", .string (hexEncode iv.val)),
    (bytes "ciphertext", .string (hexEncode sealed.1)), (bytes "tag", .string (hexEncode sealed.2))]
    (by simp [scalar]) (by simp) (by
      simp [privateMessageObject, sokEncrypt, matching.sendSize, sending, ciphertext, bind, Except.bind, pure,
        Except.pure])]
  have parses (paired : backslashesPaired userIdFrom) := jsonParse_jsonToString sign
    [(bytes "from", .string userIdFrom), (bytes "encrypted", .boolean true),
      (bytes "iv", .string (hexEncode iv.val)), (bytes "ciphertext", .string (hexEncode sealed.1)),
      (bytes "tag", .string (hexEncode sealed.2))]
    (by simp [flat, paired, backslashesPaired_hexEncode]; decide) (by simp)
    (show [bytes "from", bytes "encrypted", bytes "iv", bytes "ciphertext", bytes "tag"].Nodup by decide)
  constructor
  · rintro ⟨text, written, describes⟩
    have paired := describes.backslashesPaired_from written
    obtain ⟨_, same, parsed⟩ := parses paired
    obtain rfl := Except.ok.inj (written.symm.trans same)
    refine ⟨paired, ?_⟩
    rintro rfl
    -- An empty payload has an empty ciphertext, which is refused after the decryption.
    cases describes with
    | plain isParsed _ foundEncrypted =>
        obtain rfl := Json.object.inj (Except.ok.inj (parsed.symm.trans isParsed))
        contradiction
    | encrypted isParsed _ _ _ foundCiphertext _ _ nonempty =>
        obtain rfl := Json.object.inj (Except.ok.inj (parsed.symm.trans isParsed))
        obtain rfl := Json.string.inj (Option.some.inj foundCiphertext)
        rw [hexDecode_hexEncode] at nonempty
        exact absurd (List.length_eq_zero_iff.mp encrypted) nonempty
  · rintro ⟨paired, nonempty⟩
    obtain ⟨text, written, parsed⟩ := parses paired
    have ivNonempty : iv.val ≠ [] := fun empty => by simpa [empty, piv] using iv.length_eq
    have tagNonempty : sealed.2 ≠ [] := fun empty => by simp [empty, ptag] at tagged
    have sealedNonempty : sealed.1 ≠ [] := fun empty => by
      rw [empty] at encrypted
      exact nonempty (List.length_eq_zero_iff.mp encrypted.symm)
    exact ⟨text, written, .encrypted parsed rfl rfl rfl rfl rfl (by simpa using ivNonempty)
      (by simpa using sealedNonempty) (by simpa using tagNonempty) matching.recvSize receiving
      (by simpa using decrypted)⟩

/-- Which private messages arrive as they were sent. -/
theorem roundTrips_iff {sok : Sok} {sign : CharSign} {random : Option Iv}
    {sokSendKey sokRecvKey userIdFrom userIdTo payload : Bytes} {encrypt : Bool}
    (matching : MatchingKeys sok sokSendKey sokRecvKey userIdFrom userIdTo) (inverts : sok.Inverts) :
    RoundTrips sok sign random sokSendKey sokRecvKey userIdFrom userIdTo payload encrypt ↔
      (encrypt ∧ random = none) ∨
        (backslashesPaired userIdFrom ∧ if encrypt then payload ≠ [] else backslashesPaired payload) := by
  cases encrypt with
  | false => simpa using roundTrips_plain_iff
  | true =>
      cases random with
      | some iv => simpa using roundTrips_encrypted_iff iv matching inverts
      | none =>
          have failed : serializePrivateMessage sok none userIdFrom sokSendKey userIdTo payload true =
              .error (cryptoError (bytes "GenerateRandomSeed() failed")) := rfl
          simp only [RoundTrips, failed, true_and, true_or, iff_true]
          exact ⟨by simp [cryptoError], by simp,
            fun other different equal => different (getPrivateMessageTopic_injective equal)⟩

theorem plain_length (_ _ _ text : Bytes) : ((text, List.replicate ptag 0) : Bytes × Bytes).1.length = text.length :=
  rfl

theorem plain_tag (_ _ _ text : Bytes) : ((text, List.replicate ptag 0) : Bytes × Bytes).2.length = ptag :=
  List.length_replicate

def plainSok : Sok where
  pair1 _ _ := .ok []
  pair2 _ _ := .ok []
  encrypt _ _ _ plaintext := (plaintext, List.replicate ptag 0)
  decrypt _ _ _ ciphertext := (ciphertext, List.replicate ptag 0)
  encrypt_length := plain_length
  encrypt_tag := plain_tag
  decrypt_length := plain_length
  decrypt_tag := plain_tag

def sampleIv : Iv := ⟨List.replicate piv 7, rfl⟩

theorem plainSok_matchingKeys (userIdFrom userIdTo : Bytes) :
    MatchingKeys plainSok (List.replicate g1s 1) (List.replicate g2s 2) userIdFrom userIdTo :=
  ⟨List.length_replicate, List.length_replicate, [], rfl, rfl⟩

theorem roundTrips_quoted :
    RoundTrips plainSok .signed (some sampleIv) (List.replicate g1s 1) (List.replicate g2s 2)
      (bytes "alice") (bytes "bob") (bytes "say \"hi\"\n") true :=
  (roundTrips_iff (plainSok_matchingKeys _ _) fun _ _ _ _ => rfl).mpr (.inr (by decide))

theorem not_roundTrips_backslash :
    ¬ RoundTrips plainSok .signed (some sampleIv) (List.replicate g1s 1) (List.replicate g2s 2)
        (bytes "alice") (bytes "bob") (bytes "C:\\") false ∧
      ¬ RoundTrips plainSok .signed (some sampleIv) (List.replicate g1s 1) (List.replicate g2s 2)
        (bytes "CORP\\alice") (bytes "bob") (bytes "hi") false ∧
      ¬ RoundTrips plainSok .signed (some sampleIv) (List.replicate g1s 1) (List.replicate g2s 2)
        (bytes "alice") (bytes "bob") [] true := by
  refine ⟨?_, ?_, ?_⟩
  · rw [roundTrips_plain_iff]
    decide
  · rw [roundTrips_plain_iff]
    decide
  · rw [roundTrips_encrypted_iff sampleIv (plainSok_matchingKeys _ _) fun _ _ _ _ => rfl]
    decide

end IotClient
