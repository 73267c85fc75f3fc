import Zuicity.Tuic.Fragment

/-!
# Authentication of a connection (`verify_authentication_stream_with`)

A client shows who it is on a unidirectional stream: two bytes of version and command, the UUID of
a user and a token, which the TLS exporter makes from UUID and password.  The verifier takes the
streams of the connection one after the other and skips those with another command; of a stream that
it skips it reads everything first.
-/

namespace Zuicity

open List Res

def version0 : UInt8 := 0
def cmdAuthentication : UInt8 := 0
def commandHeaderLen : Nat := 2
def authUuidLen : Nat := 16
def authTokenLen : Nat := 32
def authenticationFrameLen : Nat := commandHeaderLen + authUuidLen + authTokenLen
def tuicCommandAuthenticate : UInt8 := 0x00
def tuicUniStreamMaxLen : Nat := 70000

abbrev Uuid := Octets authUuidLen
abbrev Token := Octets authTokenLen

structure AuthenticationRequest where
  uuid : Uuid
  token : Token
deriving DecidableEq

namespace AuthenticationRequest

def encodeTo (r : AuthenticationRequest) (dst : Bytes) : Bytes :=
  dst ++ [version0] ++ [cmdAuthentication] ++ r.uuid.octets ++ r.token.octets

def decode (input : Bytes) : Res ProtocolError (AuthenticationRequest × Bytes) := do
  requireLen input authenticationFrameLen
  let version ← Res.index input 0
  if version ≠ version0 then .err (.unexpectedVersion version)
  else do
    let command ← Res.index input 1
    if command ≠ cmdAuthentication then .err (.unexpectedCommandType command)
    else do
      let uuid ← Octets.ofSlice authUuidLen
        (← Res.slice input commandHeaderLen (commandHeaderLen + authUuidLen))
      let token ← Octets.ofSlice authTokenLen
        (← Res.slice input (commandHeaderLen + authUuidLen) authenticationFrameLen)
      .ok (⟨uuid, token⟩, ← Res.sliceFrom input authenticationFrameLen)

end AuthenticationRequest

open AuthenticationRequest

inductive ProxyProtocol where
  | juicity
  | tuic
deriving DecidableEq

/-! ## streams -/

inductive ReadToEndError where
  | read (e : ReadError)
  | tooLong
deriving DecidableEq

/-- `RecvStream::read_to_end`: `none` while it waits for more; the chunks come in order -/
def readToEnd (sizeLimit : Nat) (avail : Bytes) (ending : StreamEnd ReadError) :
    Option (Except ReadToEndError Bytes) :=
  if avail.length > sizeLimit then some (.error .tooLong)
  else match ending with
    | .open => none
    | .fin => some (.ok avail)
    | .failed e => some (.error (.read e))

/-- a unidirectional stream; a RESET clears what has arrived and is not read -/
structure UniStream where
  bytes : Bytes
  ending : StreamEnd ReadError
  /-- how many bytes are read before the RESET, if there is one -/
  readFirst : Nat := 0
deriving DecidableEq

def UniStream.readable (s : UniStream) : Bytes :=
  match s.ending with
  | .failed (.reset _) => s.bytes.take s.readFirst
  | _ => s.bytes

/-- the streams of a client: `pre_authentication_server_policy` lets it have one at a time, so that
each has ended before the next -/
structure IncomingStreams where
  streams : List UniStream
  serial : streams.Pairwise fun s _ => s.ending ≠ .open

/-! ## the verifier -/

/-- the exporter of a TLS session, as a function of label and context -/
abbrev Exporter := Bytes → Bytes → Token

structure Verified where
  result : Res TransportError ProxyProtocol
  close : Option (UInt32 × String) := none
  keepsStream : Bool := false
deriving DecidableEq

def isAuthFrame (head : Bytes) : Bool :=
  head[0]? = some version0
    || (head[0]? = some tuicVersion5 && head[1]? = some tuicCommandAuthenticate)

/-- the loop over the streams: the payload of the first frame with an authentication command;
`none` while it waits, for a stream (unless the connection is `lost`) or for bytes of one -/
def authenticationPayload (lost : Option ConnectionError) :
    List UniStream → Option (Res TransportError Bytes)
  | [] => lost.map fun e => .err (.connection e)
  | stream :: streams => match (readExact 2).poll [] stream.readable stream.ending with
    | .pending _ _ => none
    | .ready (.err e) _ => some (.err e)
    | .ready .panic _ => some .panic
    | .ready (.ok head) rest =>
      if isAuthFrame head then
        match (readExact (authenticationFrameLen - 2)).poll [] rest stream.ending with
        | .pending _ _ => none
        | .ready r _ => some (do .ok (head ++ (← r)))
      else match readToEnd tuicUniStreamMaxLen rest stream.ending with
        | none => none
        | some _ => authenticationPayload lost streams

def parseAuthentication (payload : Bytes) :
    Res TransportError (Option (ProxyProtocol × Uuid × Token)) := do
  let version ← Res.index payload 0
  if version = version0 then do
    let (request, rest) ← (decode payload).mapErr .protocol
    if rest.isEmpty then .ok (some (.juicity, request.uuid, request.token)) else .panic
  else if version = tuicVersion5 ∧ payload[1]? = some tuicCommandAuthenticate then do
    let uuid ← Octets.ofSlice authUuidLen
      (← Res.slice payload commandHeaderLen (commandHeaderLen + authUuidLen))
    let token ← Octets.ofSlice authTokenLen
      (← Res.slice payload (commandHeaderLen + authUuidLen) authenticationFrameLen)
    .ok (some (.tuic, uuid, token))
  else .ok none

section
variable (exporter : Exporter)

def exportAuthenticationToken (uuid : Uuid) (password : Bytes) : Token :=
  exporter uuid.octets password

/-- the loop over the credentials, which ends at the first entry of the user -/
def tokenMatches (uuid : Uuid) (token : Token) : List (Uuid × Bytes) → Bool
  | [] => false
  | (user, password) :: credentials =>
    if uuid ≠ user then tokenMatches uuid token credentials
    else token = exportAuthenticationToken exporter user password

def checkAuthentication (credentials : List (Uuid × Bytes)) (payload : Res TransportError Bytes) :
    Verified :=
  match payload >>= parseAuthentication with
  | .panic => { result := .panic }
  | .err e => { result := .err e }
  | .ok (some (protocol, uuid, token)) =>
    if tokenMatches exporter uuid token credentials then
      { result := .ok protocol, keepsStream := protocol = .juicity }
    else { result := .err .authenticationRejected, close := some (1, "authentication rejected") }
  | .ok none =>
    { result := .err .authenticationRejected, close := some (1, "authentication rejected") }

def verifyAuthenticationStreamWith (lost : Option ConnectionError) (streams : List UniStream)
    (credentials : List (Uuid × Bytes)) : Option Verified :=
  (authenticationPayload lost streams).map (checkAuthentication exporter credentials)

end

/-! ## the payload -/

def UniStream.authShaped (s : UniStream) : Bool := isAuthFrame s.bytes

lemma UniStream.readable_prefix_bytes (s : UniStream) : s.readable <+: s.bytes := by
  unfold readable
  split
  · exact take_prefix _ _
  · exact prefix_rfl

def junkBefore (streams : List UniStream) : List UniStream := streams.takeWhile fun s => !s.authShaped

section
variable {lost : Option ConnectionError} {s : UniStream} {streams : List UniStream} {payload : Bytes}

lemma authenticationPayload_two {a b : UInt8} {rest : Bytes} (hs : s.readable = a :: b :: rest) :
    authenticationPayload lost (s :: streams) =
      if s.authShaped then
        match (readExact (authenticationFrameLen - 2)).poll [] rest s.ending with
        | .pending _ _ => none
        | .ready r _ => some (do .ok ([a, b] ++ (← r)))
      else match readToEnd tuicUniStreamMaxLen rest s.ending with
        | none => none
        | some _ => authenticationPayload lost streams := by
  have hpoll : (readExact 2).poll [] s.readable s.ending = .ready (.ok [a, b]) rest := by
    rw [hs]
    exact Reader.poll_fill_append _ [a, b] rest s.ending rfl
  have hshaped : isAuthFrame [a, b] = s.authShaped := by
    obtain ⟨more, hbytes⟩ := s.readable_prefix_bytes
    rw [UniStream.authShaped, ← hbytes, hs]
    rfl
  rw [authenticationPayload, hpoll, ← hshaped]

lemma two_le_of_payload (h : authenticationPayload lost (s :: streams) = some (.ok payload)) :
    2 ≤ s.readable.length := by
  by_contra hs
  have hst := Reader.starved_fill (ε := TransportError) .readExact s.readable s.ending
    (Nat.lt_of_not_le hs)
  unfold authenticationPayload at h
  split at h
  · cases h
  · cases h
  · cases h
  · rename_i head rest hpoll
    exact hst.ne_ok _ head rest hpoll

lemma exists_of_two_le (hs : 2 ≤ s.readable.length) : ∃ a b rest, s.readable = a :: b :: rest := by
  match s.readable, hs with
  | a :: b :: rest, _ => exact ⟨a, b, rest, rfl⟩

lemma poll_frame {rest : Bytes} (hlen : authenticationFrameLen - 2 ≤ rest.length)
    (e : StreamEnd ReadError) : (readExact (authenticationFrameLen - 2)).poll [] rest e =
      .ready (.ok (rest.take (authenticationFrameLen - 2))) (rest.drop (authenticationFrameLen - 2)) := by
  have happ := Reader.poll_fill_append (ε := TransportError) .readExact
    (rest.take (authenticationFrameLen - 2)) (rest.drop (authenticationFrameLen - 2)) e
    (length_take_of_le hlen)
  rw [take_append_drop] at happ
  exact happ

lemma authenticationPayload_shaped (hshaped : s.authShaped = true) :
    authenticationPayload lost (s :: streams) = some (.ok payload) ↔
      authenticationFrameLen ≤ s.readable.length ∧ payload = s.bytes.take authenticationFrameLen := by
  have htake (h : authenticationFrameLen ≤ s.readable.length) :
      s.bytes.take authenticationFrameLen = s.readable.take authenticationFrameLen := by
    obtain ⟨more, hbytes⟩ := s.readable_prefix_bytes
    rw [← hbytes, take_append_of_le_length h]
  constructor
  · intro h
    obtain ⟨a, b, rest, hs⟩ := exists_of_two_le (two_le_of_payload h)
    rw [authenticationPayload_two hs, if_pos hshaped] at h
    by_cases hlen : authenticationFrameLen - 2 ≤ rest.length
    · have hle : authenticationFrameLen ≤ s.readable.length := by
        rw [hs]
        exact Nat.add_le_add_right hlen 2
      refine ⟨hle, ?_⟩
      rw [poll_frame hlen _] at h
      rw [htake hle, hs]
      cases h
      rfl
    · have hst := Reader.starved_fill (ε := TransportError) .readExact rest s.ending
        (Nat.lt_of_not_le hlen)
      split at h
      · cases h
      · rename_i r rest' hpoll
        cases r with
        | ok bytes => exact absurd hpoll (hst.ne_ok _ bytes rest')
        | err e => cases h
        | panic => cases h
  · rintro ⟨hle, rfl⟩
    obtain ⟨a, b, rest, hs⟩ := exists_of_two_le (Nat.le_trans (by decide) hle)
    have hlen : authenticationFrameLen - 2 ≤ rest.length := by
      rw [hs] at hle
      exact Nat.sub_le_sub_right hle 2
    rw [authenticationPayload_two hs, if_pos hshaped, poll_frame hlen, htake hle, hs]
    rfl

section
variable (hshaped : s.authShaped = false)
include hshaped

lemma authenticationPayload_skip (hs : 2 ≤ s.readable.length) (hend : s.ending ≠ .open) :
    authenticationPayload lost (s :: streams) = authenticationPayload lost streams := by
  obtain ⟨a, b, rest, hs⟩ := exists_of_two_le hs
  rw [authenticationPayload_two hs, if_neg (by rw [hshaped]; decide), readToEnd.eq_def]
  by_cases hlong : rest.length > tuicUniStreamMaxLen
  · rw [if_pos hlong]
  · rw [if_neg hlong]
    match he : s.ending with
    | .open => exact absurd he hend
    | .fin => rfl
    | .failed e => rfl

lemma authenticationPayload_last : authenticationPayload lost [s] ≠ some (.ok payload) := by
  intro h
  obtain ⟨a, b, rest, hs⟩ := exists_of_two_le (two_le_of_payload h)
  rw [authenticationPayload_two hs, if_neg (by rw [hshaped]; decide)] at h
  split at h
  · cases h
  · cases lost with
    | none => cases h
    | some e => cases h

end

/-- **The loop over the streams**: it gets a payload if and only if it reads the heads of the streams
before the first frame, and all of this frame. -/
lemma authenticationPayload_eq_ok (lost : Option ConnectionError) (payload : Bytes)
    (streams : List UniStream) (hserial : streams.Pairwise fun s _ => s.ending ≠ .open) :
    authenticationPayload lost streams = some (.ok payload) ↔
      (∀ s ∈ junkBefore streams, 2 ≤ s.readable.length) ∧
      ∃ s, streams.find? UniStream.authShaped = some s ∧ authenticationFrameLen ≤ s.readable.length ∧
        payload = s.bytes.take authenticationFrameLen := by
  unfold junkBefore
  induction streams with
  | nil =>
    constructor
    · intro h
      cases lost with
      | none => cases h
      | some e => cases h
    · rintro ⟨-, s, hs, -⟩
      cases hs
  | cons s streams ih =>
    obtain ⟨hend, hserial⟩ := pairwise_cons.mp hserial
    cases hshaped : s.authShaped with
    | true =>
      rw [authenticationPayload_shaped hshaped, takeWhile_cons_of_neg (by simp [hshaped]),
        find?_cons_of_pos hshaped]
      constructor
      · intro h
        exact ⟨nofun, s, rfl, h⟩
      · rintro ⟨-, s', hs', h⟩
        cases hs'
        exact h
    | false =>
      rw [takeWhile_cons_of_pos (by simp [hshaped]), find?_cons_of_neg (by simp [hshaped]),
        forall_mem_cons, and_assoc]
      cases streams with
      | nil =>
        refine ⟨fun h => absurd h (authenticationPayload_last hshaped), ?_⟩
        rintro ⟨-, -, t, ht, -⟩
        cases ht
      | cons next streams =>
        have hend : s.ending ≠ .open := hend next mem_cons_self
        constructor
        · intro h
          have hs := two_le_of_payload h
          rw [authenticationPayload_skip hshaped hs hend] at h
          exact ⟨hs, (ih hserial).mp h⟩
        · rintro ⟨hs, h⟩
          rw [authenticationPayload_skip hshaped hs hend]
          exact (ih hserial).mpr h

end

/-! ## the frame of a payload -/

section
variable (protocol : ProxyProtocol) (uuid : Uuid) (token : Token)

def authenticationFrame : Bytes :=
  match protocol with
  | .juicity => encodeTo ⟨uuid, token⟩ []
  | .tuic => [tuicVersion5, tuicCommandAuthenticate] ++ uuid.octets ++ token.octets

def ProxyProtocol.head : ProxyProtocol → UInt8 × UInt8
  | .juicity => (version0, cmdAuthentication)
  | .tuic => (tuicVersion5, tuicCommandAuthenticate)

lemma authenticationFrame_eq : authenticationFrame protocol uuid token
      = [protocol.head.1, protocol.head.2] ++ (uuid.octets ++ token.octets) := by
  cases protocol with
  | juicity => exact append_assoc _ _ _
  | tuic => exact append_assoc _ _ _

lemma length_authenticationFrame :
    (authenticationFrame protocol uuid token).length = authenticationFrameLen := by
  rw [authenticationFrame_eq, length_append, length_append, uuid.length_eq, token.length_eq]
  rfl

end

section
variable (version command : UInt8) (uuid : Uuid) (token : Token)

variable {ε : Type}

lemma slice_uuid : (Res.slice ([version, command] ++ (uuid.octets ++ token.octets)) commandHeaderLen
      (commandHeaderLen + authUuidLen) : Res ε Bytes) = .ok uuid.octets :=
  slice_mid _ _ _ rfl (by rw [uuid.length_eq])

lemma slice_token :
    (Res.slice ([version, command] ++ (uuid.octets ++ token.octets)) (commandHeaderLen + authUuidLen)
      authenticationFrameLen : Res ε Bytes) = .ok token.octets := by
  have h := slice_mid (ε := ε) ([version, command] ++ uuid.octets) token.octets []
    (i := commandHeaderLen + authUuidLen) (j := authenticationFrameLen)
    (by rw [length_append, uuid.length_eq]; rfl) (by rw [token.length_eq]; rfl)
  rw [append_nil, append_assoc] at h
  exact h

lemma sliceFrom_frame :
    (Res.sliceFrom ([version, command] ++ (uuid.octets ++ token.octets)) authenticationFrameLen
      : Res ε Bytes) = .ok [] := by
  have h := sliceFrom_mid (ε := ε) ([version, command] ++ (uuid.octets ++ token.octets)) []
    (i := authenticationFrameLen)
    (by rw [length_append, length_append, uuid.length_eq, token.length_eq]; rfl)
  rw [append_nil] at h
  exact h

lemma ofSlice_octets {n : Nat} (o : Octets n) : (Octets.ofSlice n o.octets : Res ε (Octets n)) = .ok o :=
    Octets.ofSlice_eq o.length_eq

lemma decode_frame : decode ([version, command] ++ (uuid.octets ++ token.octets)) =
      if version ≠ version0 then .err (.unexpectedVersion version)
      else if command ≠ cmdAuthentication then .err (.unexpectedCommandType command)
      else .ok (⟨uuid, token⟩, []) := by
  have hlen : requireLen ([version, command] ++ (uuid.octets ++ token.octets)) authenticationFrameLen
      = .ok () := by
    unfold requireLen
    rw [length_append, length_append, uuid.length_eq, token.length_eq]
    rfl
  unfold decode
  rw [hlen, ok_bind, slice_uuid, slice_token, sliceFrom_frame]
  simp only [cons_append, index_zero, index_one, ok_bind, ofSlice_octets]

lemma parseAuthentication_frame :
    parseAuthentication ([version, command] ++ (uuid.octets ++ token.octets)) =
      if version = version0 then
        if command ≠ cmdAuthentication then .err (.protocol (.unexpectedCommandType command))
        else .ok (some (.juicity, uuid, token))
      else if version = tuicVersion5 ∧ command = tuicCommandAuthenticate then
        .ok (some (.tuic, uuid, token))
      else .ok none := by
  unfold parseAuthentication
  rw [decode_frame, slice_uuid, slice_token]
  simp only [cons_append, index_zero, ok_bind, ofSlice_octets,
    getElem?_cons_succ, getElem?_cons_zero, Option.some.injEq]
  by_cases hv : version = version0
  · rw [if_pos hv, if_pos hv, if_neg (not_not.mpr hv)]
    by_cases hc : command = cmdAuthentication
    · rw [if_neg (not_not.mpr hc), if_neg (not_not.mpr hc)]
      rfl
    · rw [if_pos hc, if_pos hc]
      rfl
  · rw [if_neg hv, if_neg hv]

end

variable {payload : Bytes}

lemma exists_eq_frame (hlen : payload.length = authenticationFrameLen) :
    ∃ (version command : UInt8) (uuid : Uuid) (token : Token),
      payload = [version, command] ++ (uuid.octets ++ token.octets) := by
  match payload with
  | [] => cases hlen
  | [_] => cases hlen
  | version :: command :: rest =>
    have hlen : rest.length + 2 = authUuidLen + authTokenLen + 2 := hlen
    have hrest : rest.length = authUuidLen + authTokenLen := Nat.add_right_cancel hlen
    have huuid : (rest.take authUuidLen).length = authUuidLen :=
      length_take_of_le (by rw [hrest]; exact Nat.le_add_right _ _)
    have htoken : (rest.drop authUuidLen).length = authTokenLen := by
      rw [length_drop, hrest]
      rfl
    refine ⟨version, command, ⟨_, huuid⟩, ⟨_, htoken⟩, ?_⟩
    dsimp only
    rw [take_append_drop]
    rfl

/-- **The parser accepts exactly the frames of the two protocols.** -/
lemma parseAuthentication_eq_some (hlen : payload.length = authenticationFrameLen)
    (protocol : ProxyProtocol) (uuid : Uuid) (token : Token) :
    parseAuthentication payload = .ok (some (protocol, uuid, token)) ↔
      payload = authenticationFrame protocol uuid token := by
  constructor
  · intro h
    obtain ⟨version, command, u, t, rfl⟩ := exists_eq_frame hlen
    rw [parseAuthentication_frame] at h
    rw [authenticationFrame_eq]
    by_cases hv : version = version0
    · rw [if_pos hv] at h
      by_cases hc : command = cmdAuthentication
      · rw [if_neg (not_not.mpr hc)] at h
        cases h
        rw [hv, hc]
        rfl
      · rw [if_pos hc] at h
        cases h
    · rw [if_neg hv] at h
      by_cases hc : version = tuicVersion5 ∧ command = tuicCommandAuthenticate
      · rw [if_pos hc] at h
        cases h
        rw [hc.1, hc.2]
        rfl
      · rw [if_neg hc] at h
        cases h
  · rintro rfl
    rw [authenticationFrame_eq, parseAuthentication_frame]
    cases protocol with
    | juicity => rfl
    | tuic => rfl

section
variable {exporter : Exporter} {credentials : List (Uuid × Bytes)}

lemma tokenMatches_iff (hnodup : (credentials.map Prod.fst).Nodup) (uuid : Uuid) (token : Token) :
    tokenMatches exporter uuid token credentials = true ↔ ∃ password, (uuid, password) ∈ credentials ∧
        token = exportAuthenticationToken exporter uuid password := by
  induction credentials with
  | nil => simp [tokenMatches]
  | cons c credentials ih =>
    obtain ⟨user, pw⟩ := c
    obtain ⟨hnot, hnodup⟩ := nodup_cons.mp hnodup
    unfold tokenMatches
    by_cases hu : uuid = user
    · subst hu
      rw [if_neg (not_not.mpr rfl), decide_eq_true_iff]
      constructor
      · intro h
        exact ⟨pw, mem_cons_self, h⟩
      · rintro ⟨password, hmem, h⟩
        rcases mem_cons.mp hmem with heq | hmem
        · cases heq
          exact h
        · exact absurd (mem_map_of_mem hmem) hnot
    · rw [if_pos hu, ih hnodup]
      constructor
      · rintro ⟨password, hmem, h⟩
        exact ⟨password, mem_cons_of_mem _ hmem, h⟩
      · rintro ⟨password, hmem, h⟩
        rcases mem_cons.mp hmem with heq | hmem
        · cases heq
          exact absurd rfl hu
        · exact ⟨password, hmem, h⟩

lemma tokenMatches_congr {credentials' : List (Uuid × Bytes)} {uuid : Uuid}
    (hnodup : (credentials.map Prod.fst).Nodup) (hnodup' : (credentials'.map Prod.fst).Nodup)
    (hsame : ∀ password, (uuid, password) ∈ credentials' ↔ (uuid, password) ∈ credentials)
    (token : Token) :
    tokenMatches exporter uuid token credentials' = tokenMatches exporter uuid token credentials := by
  rw [Bool.eq_iff_iff, tokenMatches_iff hnodup, tokenMatches_iff hnodup']
  simp only [hsame]

lemma checkAuthentication_eq_ok (payload : Res TransportError Bytes) (protocol : ProxyProtocol) :
    (checkAuthentication exporter credentials payload).result = .ok protocol ↔
      ∃ uuid token, payload >>= parseAuthentication = .ok (some (protocol, uuid, token)) ∧
        tokenMatches exporter uuid token credentials = true := by
  unfold checkAuthentication
  match hp : payload >>= parseAuthentication with
  | .panic => simp
  | .err e => simp
  | .ok none => simp
  | .ok (some (protocol', uuid, token)) =>
    dsimp only
    by_cases ht : tokenMatches exporter uuid token credentials = true
    · rw [if_pos ht]
      constructor
      · intro h
        cases h
        exact ⟨uuid, token, rfl, ht⟩
      · rintro ⟨u, t, h, -⟩
        cases h
        rfl
    · rw [if_neg ht]
      constructor
      · nofun
      · rintro ⟨u, t, h, ht'⟩
        cases h
        exact absurd ht' ht

end

/-! ## what is accepted -/

/-- a RESET clears some of the first `n` bytes before they are read -/
def UniStream.ResetBefore (s : UniStream) (n : Nat) : Prop := s.readable.length < min n s.bytes.length

instance (s : UniStream) (n : Nat) : Decidable (s.ResetBefore n) := Nat.decLt _ _

section
variable (exporter : Exporter) (lost : Option ConnectionError)

section
variable (streams : List UniStream)

def Authenticates (credentials : List (Uuid × Bytes)) (protocol : ProxyProtocol) : Prop :=
  ∃ v, verifyAuthenticationStreamWith exporter lost streams credentials = some v ∧
    v.result = .ok protocol

/-- the first stream that looks like an authentication has a complete frame -/
def FirstFrame (protocol : ProxyProtocol) (uuid : Uuid) (token : Token) : Prop :=
  ∃ s, streams.find? UniStream.authShaped = some s ∧ authenticationFrame protocol uuid token <+: s.bytes

/-- no stream is reset before the verifier has read the head of those before the first frame, and
this frame -/
def ReadInTime : Prop := (∀ s ∈ junkBefore streams, ¬ s.ResetBefore commandHeaderLen) ∧
  ∀ s, streams.find? UniStream.authShaped = some s → ¬ s.ResetBefore authenticationFrameLen

end

lemma take_eq_frame_iff (s : UniStream) (protocol : ProxyProtocol) (uuid : Uuid) (token : Token) :
    authenticationFrameLen ≤ s.bytes.length ∧
        s.bytes.take authenticationFrameLen = authenticationFrame protocol uuid token ↔
      authenticationFrame protocol uuid token <+: s.bytes := by
  rw [prefix_iff_eq_take, length_authenticationFrame]
  constructor
  · rintro ⟨-, h⟩
    exact h.symm
  · intro h
    refine ⟨?_, h.symm⟩
    have hlen := congrArg List.length h
    rw [length_authenticationFrame, length_take] at hlen
    omega

lemma UniStream.le_readable_iff {s : UniStream} {n : Nat} :
    n ≤ s.readable.length ↔ ¬ s.ResetBefore n ∧ n ≤ s.bytes.length := by
  have hle := s.readable_prefix_bytes.length_le
  unfold ResetBefore
  omega

variable (incoming : IncomingStreams)

lemma authenticates_iff {credentials : List (Uuid × Bytes)} (hnodup : (credentials.map Prod.fst).Nodup)
    (hjunk : ∀ s ∈ junkBefore incoming.streams, 2 ≤ s.bytes.length) (protocol : ProxyProtocol) :
    Authenticates exporter lost incoming.streams credentials protocol ↔ ReadInTime incoming.streams ∧
      ∃ uuid token password, FirstFrame incoming.streams protocol uuid token ∧
        (uuid, password) ∈ credentials ∧ token = exportAuthenticationToken exporter uuid password := by
  have hloop (payload : Bytes) := authenticationPayload_eq_ok lost payload _ incoming.serial
  constructor
  · rintro ⟨v, hv, hok⟩
    unfold verifyAuthenticationStreamWith at hv
    obtain ⟨r, hr, rfl⟩ := Option.map_eq_some_iff.mp hv
    obtain ⟨uuid, token, hbind, hmatch⟩ := (checkAuthentication_eq_ok r protocol).mp hok
    obtain ⟨payload, rfl, hparse⟩ := bind_eq_ok.mp hbind
    obtain ⟨hheads, s, hs, hlen, rfl⟩ := (hloop payload).mp hr
    obtain ⟨htime, hlen⟩ := UniStream.le_readable_iff.mp hlen
    rw [parseAuthentication_eq_some (length_take_of_le hlen)] at hparse
    obtain ⟨password, hmem, htoken⟩ := (tokenMatches_iff hnodup uuid token).mp hmatch
    refine ⟨⟨fun t ht => (UniStream.le_readable_iff.mp (hheads t ht)).1, fun t ht => ?_⟩,
      uuid, token, password, ⟨s, hs, (take_eq_frame_iff s protocol uuid token).mp ⟨hlen, hparse⟩⟩,
      hmem, htoken⟩
    rw [hs] at ht
    cases ht
    exact htime
  · rintro ⟨⟨hheads, htime⟩, uuid, token, password, ⟨s, hs, hfirst⟩, hmem, htoken⟩
    obtain ⟨hlen, hframe⟩ := (take_eq_frame_iff s protocol uuid token).mpr hfirst
    have hr := (hloop _).mpr ⟨fun t ht => UniStream.le_readable_iff.mpr ⟨hheads t ht, hjunk t ht⟩, s, hs,
      UniStream.le_readable_iff.mpr ⟨htime s hs, hlen⟩, rfl⟩
    refine ⟨checkAuthentication exporter credentials (.ok (s.bytes.take authenticationFrameLen)),
      ?_, ?_⟩
    · rw [verifyAuthenticationStreamWith, hr]
      rfl
    · refine (checkAuthentication_eq_ok _ protocol).mpr ⟨uuid, token, ?_, ?_⟩
      · exact (parseAuthentication_eq_some (length_take_of_le hlen) _ _ _).mpr hframe
      · exact (tokenMatches_iff hnodup uuid token).mpr ⟨password, hmem, htoken⟩

/-- **Non-interference**: the outcome depends on the entry of the user of the first frame only. -/
lemma verify_congr
    {credentials credentials' : List (Uuid × Bytes)} (hnodup : (credentials.map Prod.fst).Nodup)
    (hnodup' : (credentials'.map Prod.fst).Nodup)
    (hsame : ∀ protocol uuid token, FirstFrame incoming.streams protocol uuid token →
      ∀ password, (uuid, password) ∈ credentials' ↔ (uuid, password) ∈ credentials) :
    verifyAuthenticationStreamWith exporter lost incoming.streams credentials'
      = verifyAuthenticationStreamWith exporter lost incoming.streams credentials := by
  unfold verifyAuthenticationStreamWith
  match hr : authenticationPayload lost incoming.streams with
  | none => rfl
  | some .panic => rfl
  | some (.err e) => rfl
  | some (.ok payload) =>
    rw [Option.map_some, Option.map_some]
    unfold checkAuthentication
    rw [ok_bind]
    match hparse : parseAuthentication payload with
    | .panic => rfl
    | .err e => rfl
    | .ok none => rfl
    | .ok (some (protocol, uuid, token)) =>
      obtain ⟨-, s, hs, hlen, rfl⟩ :=
        (authenticationPayload_eq_ok lost payload _ incoming.serial).mp hr
      have hlen := (UniStream.le_readable_iff.mp hlen).2
      rw [parseAuthentication_eq_some (length_take_of_le hlen)] at hparse
      have hfirst : FirstFrame incoming.streams protocol uuid token :=
        ⟨s, hs, (take_eq_frame_iff s _ _ _).mp ⟨hlen, hparse⟩⟩
      dsimp only
      rw [tokenMatches_congr hnodup hnodup' (hsame protocol uuid token hfirst)]

end

/-- **Authentication** succeeds if and only if no stream is reset before it is read, and the first frame is
complete and has the token of its user; whatever the order of the credentials and the entries of other users. -/
theorem authentication_decided_by_first_frame (exporter : Exporter) (lost : Option ConnectionError)
    (incoming : IncomingStreams) (credentials : List (Uuid × Bytes))
    (hjunk : ∀ s ∈ junkBefore incoming.streams, 2 ≤ s.bytes.length)
    (hnodup : (credentials.map Prod.fst).Nodup) :
    (∀ protocol, Authenticates exporter lost incoming.streams credentials protocol ↔
      ReadInTime incoming.streams ∧
      ∃ uuid token password, FirstFrame incoming.streams protocol uuid token ∧
        (uuid, password) ∈ credentials ∧ token = exportAuthenticationToken exporter uuid password) ∧
    (∀ credentials', List.Perm credentials' credentials →
      verifyAuthenticationStreamWith exporter lost incoming.streams credentials'
        = verifyAuthenticationStreamWith exporter lost incoming.streams credentials) ∧
    (∀ credentials' : List (Uuid × Bytes), (credentials'.map Prod.fst).Nodup →
      (∀ protocol uuid token, FirstFrame incoming.streams protocol uuid token →
        ∀ password, (uuid, password) ∈ credentials' ↔ (uuid, password) ∈ credentials) →
      verifyAuthenticationStreamWith exporter lost incoming.streams credentials'
        = verifyAuthenticationStreamWith exporter lost incoming.streams credentials) := by
  refine ⟨authenticates_iff exporter lost incoming hnodup hjunk, ?_, ?_⟩
  · intro credentials' hperm
    have hnodup' : (credentials'.map Prod.fst).Nodup := (hperm.map Prod.fst).nodup_iff.mpr hnodup
    exact verify_congr exporter lost incoming hnodup hnodup' fun _ _ _ _ _ => hperm.mem_iff
  · intro credentials' hnodup' hsame
    exact verify_congr exporter lost incoming hnodup hnodup' hsame

def nilUuid : Uuid := .zeros 16
def nilToken : Token := .zeros 32

/-- a stream that ends and one that is reset after its head was read come before the frame -/
theorem authentication_after_junk_streams : Authenticates (fun _ _ => nilToken) none
      [⟨[5, 4], .fin, 0⟩, ⟨[5, 4, 7], .failed (.reset 0), 2⟩,
        ⟨authenticationFrame .juicity nilUuid nilToken, .open, 0⟩]
      [(nilUuid, [])] .juicity := by
  refine ((authentication_decided_by_first_frame _ _ ⟨[⟨[5, 4], .fin, 0⟩,
    ⟨[5, 4, 7], .failed (.reset 0), 2⟩, ⟨authenticationFrame .juicity nilUuid nilToken, .open, 0⟩],
    by decide⟩ _ (by decide) (by decide)).1 .juicity).mpr
    ⟨⟨by decide, ?_⟩, nilUuid, nilToken, [], ⟨_, rfl, prefix_rfl⟩, mem_singleton.mpr rfl, rfl⟩
  intro s hs
  cases hs
  decide

/-- the RESET comes before the verifier reads the frame, which is complete -/
theorem reset_before_read_fails_authentication :
    ¬ ∀ (exporter : Exporter) (lost : Option ConnectionError) (incoming : IncomingStreams)
        (credentials : List (Uuid × Bytes)),
      (∀ s ∈ junkBefore incoming.streams, 2 ≤ s.bytes.length) → (credentials.map Prod.fst).Nodup →
      ∀ protocol, Authenticates exporter lost incoming.streams credentials protocol ↔
        ∃ uuid token password, FirstFrame incoming.streams protocol uuid token ∧
          (uuid, password) ∈ credentials ∧ token = exportAuthenticationToken exporter uuid password := by
  intro h
  obtain ⟨v, hv, hok⟩ := (h (fun _ _ => nilToken) none
    ⟨[⟨authenticationFrame .juicity nilUuid nilToken, .failed (.reset 0), 0⟩], by decide⟩
    [(nilUuid, [])] (by decide) (by decide) .juicity).mpr
    ⟨nilUuid, nilToken, [], ⟨_, rfl, prefix_rfl⟩, mem_singleton.mpr rfl, rfl⟩
  cases hv
  cases hok

end Zuicity
