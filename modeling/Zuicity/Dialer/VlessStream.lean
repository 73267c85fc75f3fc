import Zuicity.Text

/-!
# The stream behind a VLESS proxy (`VlessTcpProxyTargetStream`)

A VLESS proxy puts a header in front of what the target sends: a version, the length of the addons, and
the addons.  `poll_read` takes the header off on the way, whatever parts it comes in, and polls the
inner stream as often as it has to until that is pending.

The inner stream is the bytes that it has not delivered yet.  During one call it answers as a list says
and is pending after the last answer; it is at its end when an answer has no bytes for a buffer that
has room.
-/

namespace Zuicity

open List

structure ReadBuf (capacity : Nat) where
  filled : Bytes
  length_le : filled.length ≤ capacity

/-- what a read is answered with: some bytes, `n + 1` at most, or an error -/
inductive InnerRead where
  | upTo (n : Nat)
  | failed (e : IoError)
deriving DecidableEq

lemma ReadBuf.length_take_le (inner : Bytes) (n capacity : Nat) :
    (inner.take (min n capacity)).length ≤ capacity := by
  rw [length_take]
  omega

def InnerRead.poll (inner : Bytes) (capacity : Nat) : InnerRead → IoResult (ReadBuf capacity) × Bytes
  | .upTo n => (.ok ⟨inner.take (min (n + 1) capacity), ReadBuf.length_take_le inner (n + 1) capacity⟩,
      inner.drop (min (n + 1) capacity))
  | .failed e => (.error e, inner)

/-! ## the header -/

structure VlessPrefix where
  bytes : Octets 2
  read : Nat
  read_le : read ≤ 2

namespace VlessPrefix

abbrev Buf (p : VlessPrefix) := ReadBuf (2 - p.read)

variable (p : VlessPrefix) (buf : p.Buf)

lemma read_add_le : p.read + buf.filled.length ≤ 2 := by
  have hread := p.read_le
  have hbuf := buf.length_le
  omega

lemma length_written : (p.bytes.octets.take p.read ++ buf.filled
    ++ p.bytes.octets.drop (p.read + buf.filled.length)).length = 2 := by
  have hle := p.read_add_le buf
  simp only [length_append, length_take, length_drop, p.bytes.length_eq]
  omega

/-- the bytes after a read, which starts behind those that are there -/
def fill : VlessPrefix where
  bytes := ⟨_, p.length_written buf⟩
  read := p.read + buf.filled.length
  read_le := p.read_add_le buf

lemma length_pos : 0 < p.bytes.octets.length := by
  rw [p.bytes.length_eq]
  decide

lemma one_lt_length : 1 < p.bytes.octets.length := by
  rw [p.bytes.length_eq]
  decide

def version : UInt8 := p.bytes.octets.get ⟨0, p.length_pos⟩
def addonsLength : Nat := (p.bytes.octets.get ⟨1, p.one_lt_length⟩).toNat

end VlessPrefix

inductive VlessResponseHeaderState where
  | prefixBytes (p : VlessPrefix)
  | addons (remaining : Nat)
  | ready

namespace VlessResponseHeaderState

def isReady : VlessResponseHeaderState → Bool
  | .ready => true
  | _ => false

def room : VlessResponseHeaderState → Nat
  | .prefixBytes p => 2 - p.read
  | .addons remaining => min remaining 64
  | .ready => 0

def truncatedHeader : IoError := .custom .unexpectedEof "truncated VLESS response header"
def truncatedAddons : IoError := .custom .unexpectedEof "truncated VLESS response addons"
def invalidVersion (version : UInt8) : IoError :=
  .custom .invalidData ("invalid VLESS response version " ++ ascii (decimal version.toNat))

/-- a part of the first two bytes has been read: the next state, with an error if the call ends so -/
def prefixReceived (before : VlessPrefix) (buf : before.Buf) :
    IoResult Unit × VlessResponseHeaderState :=
  let p := before.fill buf
  if p.read = before.read then (.error truncatedHeader, .prefixBytes p)
  else if p.read = 2 then
    if p.version ≠ 0 then (.error (invalidVersion p.version), .prefixBytes p)
    else (.ok (), if p.addonsLength = 0 then .ready else .addons p.addonsLength)
  else (.ok (), .prefixBytes p)

def addonsReceived (remaining : Nat) (discard : ReadBuf (min remaining 64)) :
    IoResult Unit × VlessResponseHeaderState :=
  let read := discard.filled.length
  if read = 0 then (.error truncatedAddons, .addons remaining)
  else (.ok (), if remaining - read = 0 then .ready else .addons (remaining - read))

def received : (header : VlessResponseHeaderState) → ReadBuf header.room →
    IoResult Unit × VlessResponseHeaderState
  | .prefixBytes before, buf => prefixReceived before buf
  | .addons remaining, discard => addonsReceived remaining discard
  | .ready, _ => (.ok (), .ready)

end VlessResponseHeaderState

/-! ## the stream -/

inductive ReadPoll where
  | pending
  | ready (result : IoResult Bytes)

def ReadPoll.bytes : ReadPoll → Bytes
  | .ready (.ok bytes) => bytes
  | _ => []

structure VlessTcpProxyTargetStream where
  inner : Bytes
  responseHeader : VlessResponseHeaderState

variable {e : IoError} {payload seen : Bytes}

namespace VlessTcpProxyTargetStream

lemma length_zero_zero : ([0, 0] : Bytes).length = 2 := rfl

def new (inner : Bytes) : VlessTcpProxyTargetStream :=
  ⟨inner, .prefixBytes ⟨⟨[0, 0], length_zero_zero⟩, 0, Nat.zero_le 2⟩⟩

def pollRead (capacity : Nat) : List InnerRead → VlessTcpProxyTargetStream →
    ReadPoll × VlessTcpProxyTargetStream
  | [], s => (.pending, s)
  | answer :: answers, s =>
    if s.responseHeader.isReady then
      let read := answer.poll s.inner capacity
      (.ready (read.1.map ReadBuf.filled), { s with inner := read.2 })
    else
      let read := answer.poll s.inner s.responseHeader.room
      match read.1 with
      | .error e => (.ready (.error e), { s with inner := read.2 })
      | .ok buf =>
        let next := s.responseHeader.received buf
        match next.1 with
        | .error e => (.ready (.error e), ⟨read.2, next.2⟩)
        | .ok () => pollRead capacity answers ⟨read.2, next.2⟩

section
variable {capacity : Nat} {s : VlessTcpProxyTargetStream} {answers : List InnerRead}

lemma pollRead_ready (h : s.responseHeader.isReady = true) (answer : InnerRead) :
    s.pollRead capacity (answer :: answers)
      = (.ready ((answer.poll s.inner capacity).1.map ReadBuf.filled),
        { s with inner := (answer.poll s.inner capacity).2 }) := by
  rw [pollRead, if_pos h]

lemma pollRead_failed (h : s.responseHeader.isReady = false) (e : IoError) :
    s.pollRead capacity (.failed e :: answers) = (.ready (.error e), s) := by
  rw [pollRead, if_neg (Bool.eq_false_iff.mp h)]
  rfl

def headerPart (s : VlessTcpProxyTargetStream) (n : Nat) : ReadBuf s.responseHeader.room :=
  ⟨s.inner.take (min (n + 1) s.responseHeader.room), ReadBuf.length_take_le _ _ _⟩

def afterPart (s : VlessTcpProxyTargetStream) (n : Nat) : VlessTcpProxyTargetStream :=
  ⟨s.inner.drop (min (n + 1) s.responseHeader.room), (s.responseHeader.received (s.headerPart n)).2⟩

lemma pollRead_error (h : s.responseHeader.isReady = false) {n : Nat}
    (he : (s.responseHeader.received (s.headerPart n)).1 = .error e) :
    s.pollRead capacity (.upTo n :: answers) = (.ready (.error e), s.afterPart n) := by
  rw [pollRead, if_neg (Bool.eq_false_iff.mp h)]
  show (match (s.responseHeader.received (s.headerPart n)).1 with
    | .error e => (ReadPoll.ready (.error e), s.afterPart n)
    | .ok () => pollRead capacity answers (s.afterPart n)) = _
  rw [he]

lemma pollRead_part (h : s.responseHeader.isReady = false) {n : Nat}
    (hok : (s.responseHeader.received (s.headerPart n)).1 = .ok ()) :
    s.pollRead capacity (.upTo n :: answers) = (s.afterPart n).pollRead capacity answers := by
  rw [pollRead, if_neg (Bool.eq_false_iff.mp h)]
  show (match (s.responseHeader.received (s.headerPart n)).1 with
    | .error e => (ReadPoll.ready (.error e), s.afterPart n)
    | .ok () => pollRead capacity answers (s.afterPart n)) = _
  rw [hok]

end

/-- any calls, each with its buffer and the answers that the inner stream gives it -/
def pollReads : List (Nat × List InnerRead) → VlessTcpProxyTargetStream →
    List ReadPoll × VlessTcpProxyTargetStream
  | [], s => ([], s)
  | call :: calls, s =>
    let polled := pollRead call.1 call.2 s
    let others := pollReads calls polled.2
    (polled.1 :: others.1, others.2)

end VlessTcpProxyTargetStream

open VlessTcpProxyTargetStream

/-! ## what the header says -/

/-- a stream without its header; nothing if the version is not 0 or the header is not complete -/
def vlessPayload : Bytes → Option Bytes
  | version :: length :: rest =>
    if version = 0 ∧ length.toNat ≤ rest.length then some (rest.drop length.toNat) else none
  | _ => none

lemma vlessPayload_cons_cons (version length : UInt8) (rest : Bytes) :
    vlessPayload (version :: length :: rest)
      = if version = 0 ∧ length.toNat ≤ rest.length then some (rest.drop length.toNat) else none := rfl

/-- **the header**: a version 0, a length, and addons of this length -/
lemma vlessPayload_eq_some {stream : Bytes} : vlessPayload stream = some payload ↔
    ∃ length addons, stream = 0 :: length :: (addons ++ payload) ∧ addons.length = length.toNat := by
  constructor
  · intro h
    cases stream with
    | nil => cases h
    | cons version stream =>
      cases stream with
      | nil => cases h
      | cons length rest =>
        rw [vlessPayload_cons_cons] at h
        by_cases hok : version = 0 ∧ length.toNat ≤ rest.length
        · rw [if_pos hok] at h
          refine ⟨length, rest.take length.toNat, ?_, ?_⟩
          · rw [← Option.some.inj h, take_append_drop, hok.1]
          · rw [length_take]
            omega
        · rw [if_neg hok] at h
          cases h
  · rintro ⟨length, addons, rfl, hlen⟩
    have hle : length.toNat ≤ (addons ++ payload).length := by
      rw [length_append]
      omega
    rw [vlessPayload_cons_cons, if_pos ⟨rfl, hle⟩, ← hlen, drop_left]

lemma vlessPayload_append (h : vlessPayload seen = some payload) (more : Bytes) :
    vlessPayload (seen ++ more) = some (payload ++ more) := by
  obtain ⟨length, addons, rfl, hlen⟩ := vlessPayload_eq_some.mp h
  refine vlessPayload_eq_some.mpr ⟨length, addons, ?_, hlen⟩
  rw [← append_assoc]
  rfl

lemma vlessPayload_of_append_eq_none {more : Bytes} (h : vlessPayload (seen ++ more) = none) :
    vlessPayload seen = none := by
  cases hseen : vlessPayload seen with
  | none => rfl
  | some payload =>
    rw [vlessPayload_append hseen] at h
    cases h

def vlessDelivered (seen : Bytes) : Bytes := (vlessPayload seen).getD []

lemma vlessDelivered_of_some (h : vlessPayload seen = some payload) : vlessDelivered seen = payload := by
  unfold vlessDelivered
  rw [h]
  rfl

lemma vlessDelivered_of_none (h : vlessPayload seen = none) : vlessDelivered seen = [] := by
  unfold vlessDelivered
  rw [h]
  rfl

/-! ## the header, part by part -/

namespace VlessPrefix

variable {p : VlessPrefix} {buf : p.Buf}

lemma length_take : (p.bytes.octets.take p.read).length = p.read := by
  rw [List.length_take, p.bytes.length_eq, Nat.min_eq_left p.read_le]

lemma take_fill : (p.fill buf).bytes.octets.take (p.fill buf).read
    = p.bytes.octets.take p.read ++ buf.filled := by
  have hlen : (p.bytes.octets.take p.read ++ buf.filled).length = (p.fill buf).read := by
    rw [length_append, length_take]
    rfl
  rw [← hlen]
  exact take_left

lemma take_full (h : p.read = 2) : ∃ length, p.bytes.octets.take p.read = [p.version, length] ∧
    length.toNat = p.addonsLength := by
  obtain ⟨⟨octets, hoctets⟩, read, hread⟩ := p
  obtain ⟨version, length, rfl⟩ := length_eq_two.mp hoctets
  cases h
  exact ⟨length, rfl, rfl⟩

end VlessPrefix

namespace VlessResponseHeaderState

def Took : VlessResponseHeaderState → Bytes → Prop
  | .prefixBytes p, seen =>
    p.bytes.octets.take p.read = seen ∧ ∀ length version, seen = [version, length] → version ≠ 0
  | .addons remaining, seen => ∃ length addons, seen = 0 :: length :: addons ∧
    addons.length + remaining = length.toNat ∧ 0 < remaining
  | .ready, seen => ∃ payload, vlessPayload seen = some payload

lemma took_remaining {length : UInt8} {addons : Bytes} {remaining : Nat}
    (h : addons.length + remaining = length.toNat) :
    (if remaining = 0 then ready else .addons remaining).Took (0 :: length :: addons) ∧
      vlessDelivered (0 :: length :: addons) = [] := by
  by_cases hzero : remaining = 0
  · have hpayload : vlessPayload (0 :: length :: addons) = some [] :=
      vlessPayload_eq_some.mpr ⟨length, addons, by rw [append_nil], by omega⟩
    rw [if_pos hzero]
    exact ⟨⟨[], hpayload⟩, vlessDelivered_of_some hpayload⟩
  · rw [if_neg hzero]
    refine ⟨⟨length, addons, rfl, h, Nat.pos_of_ne_zero hzero⟩, vlessDelivered_of_none ?_⟩
    rw [vlessPayload_cons_cons]
    exact if_neg fun hok => by omega

variable {header : VlessResponseHeaderState} {seen : Bytes}

lemma Took.payload_eq_none (h : header.Took seen) (hready : header.isReady = false) :
    vlessPayload seen = none := by
  cases hpayload : vlessPayload seen with
  | none => rfl
  | some payload =>
    obtain ⟨length, addons, rfl, hlen⟩ := vlessPayload_eq_some.mp hpayload
    cases header with
    | ready => cases hready
    | addons remaining =>
      obtain ⟨length', addons', hseen, hsum, hpos⟩ := h
      cases hseen
      rw [length_append] at hsum
      omega
    | prefixBytes p =>
      -- only two bytes are there, and the first is not 0
      obtain ⟨hseen, hversion⟩ := h
      have hle := congrArg List.length hseen
      rw [VlessPrefix.length_take, length_cons, length_cons] at hle
      have hnil : addons ++ payload = [] := by
        have hread := p.read_le
        exact length_eq_zero_iff.mp (by omega)
      rw [hnil] at hversion
      exact absurd rfl (hversion length 0 rfl)

lemma Took.payload_eq_some (h : header.Took seen) (hready : header.isReady = true) :
    ∃ payload, vlessPayload seen = some payload := by
  cases header with
  | ready => exact h
  | addons remaining => cases hready
  | prefixBytes p => cases hready

lemma Took.delivered_eq_nil (h : header.Took seen) (hready : header.isReady = false) :
    vlessDelivered seen = [] := vlessDelivered_of_none (h.payload_eq_none hready)

/-! ### what a turn of the loop does -/

def need : VlessResponseHeaderState → Nat
  | .prefixBytes p => 257 - p.read
  | .addons remaining => remaining
  | .ready => 0

lemma Took.need_le (h : header.Took seen) : header.need ≤ 257 := by
  cases header with
  | prefixBytes p => exact Nat.sub_le _ _
  | addons remaining =>
    obtain ⟨length, addons, -, hsum, -⟩ := h
    have hlength := length.toNat_lt
    show remaining ≤ 257
    omega
  | ready => exact Nat.zero_le _

lemma need_remaining (remaining : Nat) :
    (if remaining = 0 then ready else .addons remaining).need = remaining := by
  by_cases hzero : remaining = 0
  · rw [if_pos hzero, hzero]
    rfl
  · rw [if_neg hzero]
    rfl

/-- **a part of the header**: the state is that of all bytes so far, and none of them is payload; there is less to
come, or the call ends for want of bytes or with a bad version -/
structure Received (header : VlessResponseHeaderState) (seen part : Bytes)
    (r : IoResult Unit × VlessResponseHeaderState) : Prop where
  took : r.2.Took (seen ++ part)
  delivered : vlessDelivered (seen ++ part) = []
  need : r.1 = .ok () → r.2.need < header.need
  error : r.1 ≠ .ok () → part = [] ∨ ∃ p, r.2 = .prefixBytes p ∧ p.read = 2

lemma Took.addonsReceived {remaining : Nat} (h : (addons remaining).Took seen)
    (discard : ReadBuf (min remaining 64)) :
    Received (addons remaining) seen discard.filled (addonsReceived remaining discard) := by
  unfold VlessResponseHeaderState.addonsReceived
  by_cases hread : discard.filled.length = 0
  · have hnil := length_eq_zero_iff.mp hread
    rw [if_pos hread]
    refine ⟨?_, ?_, fun hok => (by cases hok), fun _ => .inl hnil⟩
    · rw [hnil, append_nil]
      exact h
    · rw [hnil, append_nil]
      exact h.delivered_eq_nil rfl
  · obtain ⟨length, addons, rfl, hsum, hpos⟩ := h
    have hroom := discard.length_le
    have hrest : (addons ++ discard.filled).length + (remaining - discard.filled.length) = length.toNat := by
      rw [length_append]
      omega
    rw [if_neg hread]
    obtain ⟨htook, hnone⟩ := took_remaining hrest
    refine ⟨htook, hnone, fun _ => ?_, fun herror => absurd rfl herror⟩
    rw [need_remaining]
    show remaining - discard.filled.length < remaining
    omega

lemma Took.prefixReceived {before : VlessPrefix} (h : (prefixBytes before).Took seen) (buf : before.Buf) :
    Received (prefixBytes before) seen buf.filled (prefixReceived before buf) := by
  obtain ⟨hseen, hfirst⟩ := h
  have hle := before.read_add_le buf
  have htake : (before.fill buf).bytes.octets.take (before.fill buf).read = seen ++ buf.filled := by
    rw [← hseen]
    exact VlessPrefix.take_fill
  -- the states with the two bytes
  have hkeep (hversion : ∀ length version, seen ++ buf.filled = [version, length] → version ≠ 0) :
      (prefixBytes (before.fill buf)).Took (seen ++ buf.filled) ∧
        vlessDelivered (seen ++ buf.filled) = [] := by
    have htook : (prefixBytes (before.fill buf)).Took (seen ++ buf.filled) := ⟨htake, hversion⟩
    exact ⟨htook, htook.delivered_eq_nil rfl⟩
  have hread : (before.fill buf).read = before.read + buf.filled.length := rfl
  unfold VlessResponseHeaderState.prefixReceived
  dsimp only
  split
  · have hnil : buf.filled = [] := length_eq_zero_iff.mp (by omega)
    obtain ⟨htook, hnone⟩ := hkeep (by rw [hnil, append_nil]; exact hfirst)
    exact ⟨htook, hnone, fun hok => (by cases hok), fun _ => .inl hnil⟩
  split
  · rename_i hfull
    obtain ⟨length, hbytes, hlength⟩ := VlessPrefix.take_full hfull
    split
    · rename_i hversion
      obtain ⟨htook, hnone⟩ := hkeep fun length' version hboth => by
        rw [← htake, hbytes] at hboth
        rw [← (List.cons.inj hboth).1]
        exact hversion
      exact ⟨htook, hnone, fun hok => (by cases hok), fun _ => .inr ⟨_, rfl, hfull⟩⟩
    · rename_i hversion
      have hbyte := length.toNat_lt
      have hrest : ([] : Bytes).length + (before.fill buf).addonsLength = length.toNat := by
        rw [length_nil, Nat.zero_add, hlength]
      have hall := took_remaining hrest
      rw [← not_not.mp hversion, ← hbytes, htake] at hall
      refine ⟨hall.1, hall.2, fun _ => ?_, fun herror => absurd rfl herror⟩
      rw [need_remaining]
      show _ < 257 - before.read
      omega
  · rename_i hpart
    obtain ⟨htook, hnone⟩ := hkeep fun length version hboth => absurd (by
      rw [← VlessPrefix.length_take, htake, hboth]
      rfl) hpart
    refine ⟨htook, hnone, fun _ => ?_, fun herror => absurd rfl herror⟩
    show 257 - (before.fill buf).read < 257 - before.read
    omega

lemma Took.received (h : header.Took seen) (hready : header.isReady = false) (buf : ReadBuf header.room) :
    Received header seen buf.filled (header.received buf) := by
  cases header with
  | ready => cases hready
  | addons remaining => exact h.addonsReceived buf
  | prefixBytes before => exact h.prefixReceived buf

lemma Took.payload_append_eq_none {p : VlessPrefix} (h : (prefixBytes p).Took seen)
    (hfull : p.read = 2) (more : Bytes) : vlessPayload (seen ++ more) = none := by
  obtain ⟨length, hbytes, -⟩ := VlessPrefix.take_full hfull
  rw [h.1] at hbytes
  have hversion := h.2 length p.version hbytes
  rw [hbytes]
  show vlessPayload (p.version :: length :: more) = none
  rw [vlessPayload_cons_cons]
  exact if_neg fun hok => hversion hok.1

lemma Took.room_eq_zero (h : header.Took seen) (hready : header.isReady = false)
    (hroom : header.room = 0) : ∃ p, header = .prefixBytes p ∧ p.read = 2 := by
  cases header with
  | ready => cases hready
  | addons remaining =>
    obtain ⟨-, -, -, -, hpos⟩ := h
    change min remaining 64 = 0 at hroom
    omega
  | prefixBytes p =>
    have hle := p.read_le
    change 2 - p.read = 0 at hroom
    exact ⟨p, rfl, by omega⟩

end VlessResponseHeaderState

/-! ## calls -/

namespace VlessTcpProxyTargetStream

open VlessResponseHeaderState

/-- what a call does: it reads on from the bytes `seen` up to the bytes `seen'` -/
structure Reads (capacity : Nat) (answers : List InnerRead) (s : VlessTcpProxyTargetStream)
    (seen : Bytes) (r : ReadPoll × VlessTcpProxyTargetStream) (seen' : Bytes) : Prop where
  stream : seen' ++ r.2.inner = seen ++ s.inner
  took : r.2.responseHeader.Took seen'
  delivered : vlessDelivered seen' = vlessDelivered seen ++ r.1.bytes
  ok : ∀ bytes, r.1 = .ready (.ok bytes) →
    r.2.responseHeader = .ready ∧ (0 < capacity → bytes = [] → r.2.inner = [])
  error : ∀ e, r.1 = .ready (.error e) →
    .failed e ∈ answers ∨ vlessPayload (seen ++ s.inner) = none
  pending : r.1 = .pending → answers.length ≤ s.responseHeader.need

lemma eq_ready_of_isReady {header : VlessResponseHeaderState} (h : header.isReady = true) :
    header = .ready := by
  cases header with
  | ready => rfl
  | addons remaining => cases h
  | prefixBytes p => cases h

variable {capacity : Nat} {s : VlessTcpProxyTargetStream} {seen : Bytes}

variable {n : Nat}

lemma eq_nil_of_take_eq_nil {inner : Bytes} {room : Nat} (hroom : 0 < room)
    (h : inner.take (min (n + 1) room) = []) : inner = [] := by
  cases take_eq_nil_iff.mp h with
  | inl hzero => omega
  | inr hnil => exact hnil

lemma Reads.of_ready (h : s.responseHeader.Took seen) (hready : s.responseHeader = .ready)
    (answer : InnerRead) (answers : List InnerRead) :
    ∃ seen', Reads capacity (answer :: answers) s seen
      (s.pollRead capacity (answer :: answers)) seen' := by
  rw [pollRead_ready (by rw [hready]; rfl)]
  cases answer with
  | failed e =>
    refine ⟨seen, rfl, h, (append_nil _).symm, fun bytes hok => ?_, fun e' he => ?_, fun hp => ?_⟩
    · cases hok
    · cases he
      exact .inl mem_cons_self
    · cases hp
  | upTo n =>
    obtain ⟨payload, hpayload⟩ : ∃ payload, vlessPayload seen = some payload := by
      rw [hready] at h
      exact h
    have hmore := vlessPayload_append hpayload (s.inner.take (min (n + 1) capacity))
    refine ⟨seen ++ s.inner.take (min (n + 1) capacity), ?_, ?_, ?_, fun bytes hok => ?_,
      fun e' he => ?_, fun hp => ?_⟩
    · show seen ++ _ ++ s.inner.drop _ = _
      rw [append_assoc, take_append_drop]
    · show s.responseHeader.Took _
      rw [hready]
      exact ⟨_, hmore⟩
    · rw [vlessDelivered_of_some hmore, vlessDelivered_of_some hpayload]
      rfl
    · cases hok
      refine ⟨hready, fun hpos hnil => ?_⟩
      show s.inner.drop _ = []
      rw [eq_nil_of_take_eq_nil hpos hnil, drop_nil]
    · cases he
    · cases hp

lemma Reads.after {answers : List InnerRead} {s' : VlessTcpProxyTargetStream} {more seen' : Bytes}
    {r : ReadPoll × VlessTcpProxyTargetStream} (h : Reads capacity answers s' (seen ++ more) r seen')
    (hinner : s.inner = more ++ s'.inner)
    (hdelivered : vlessDelivered (seen ++ more) = vlessDelivered seen)
    (hneed : s'.responseHeader.need < s.responseHeader.need) :
    Reads capacity (.upTo n :: answers) s seen r seen' := by
  have hstream : seen ++ more ++ s'.inner = seen ++ s.inner := by
    rw [hinner, append_assoc]
  refine ⟨h.stream.trans hstream, h.took, ?_, h.ok, fun e he => ?_, fun hp => ?_⟩
  · rw [← hdelivered]
    exact h.delivered
  · rw [← hstream]
    exact (h.error e he).imp_left (mem_cons_of_mem _)
  · have hle := h.pending hp
    rw [length_cons]
    omega

lemma payload_eq_none_of_error (h : s.responseHeader.Took seen)
    (hready : s.responseHeader.isReady = false)
    (herror : (s.responseHeader.received (s.headerPart n)).1 = .error e) :
    vlessPayload (seen ++ s.inner) = none := by
  have hpart := h.received hready (s.headerPart n)
  have htook := hpart.took
  have hinner : s.inner = (s.headerPart n).filled ++ (s.afterPart n).inner :=
    (take_append_drop _ _).symm
  obtain hnil | ⟨p, hp, hfull⟩ := hpart.error (by rw [herror]; intro h; cases h)
  · cases Nat.eq_zero_or_pos s.responseHeader.room with
    | inl hroom =>
      obtain ⟨p, hp, hfull⟩ := h.room_eq_zero hready hroom
      rw [hp] at h
      exact h.payload_append_eq_none hfull _
    | inr hroom =>
      rw [eq_nil_of_take_eq_nil hroom hnil, append_nil]
      exact h.payload_eq_none hready
  · rw [hp] at htook
    rw [hinner, ← append_assoc]
    exact htook.payload_append_eq_none hfull _

lemma reads_pollRead (capacity : Nat) (answers : List InnerRead) :
    ∀ (s : VlessTcpProxyTargetStream) (seen : Bytes), s.responseHeader.Took seen →
      ∃ seen', Reads capacity answers s seen (s.pollRead capacity answers) seen' := by
  induction answers with
  | nil =>
    intro s seen h
    refine ⟨seen, rfl, h, (append_nil _).symm, fun bytes hok => ?_, fun e he => ?_,
      fun _ => Nat.zero_le _⟩
    · cases hok
    · cases he
  | cons answer answers ih =>
    intro s seen h
    cases hready : s.responseHeader.isReady with
    | true => exact Reads.of_ready h (eq_ready_of_isReady hready) answer answers
    | false =>
      cases answer with
      | failed e =>
        rw [pollRead_failed hready]
        refine ⟨seen, rfl, h, (append_nil _).symm, fun bytes hok => ?_, fun e' he => ?_, fun hp => ?_⟩
        · cases hok
        · cases he
          exact .inl mem_cons_self
        · cases hp
      | upTo n =>
        have hpart := h.received hready (s.headerPart n)
        have hinner : s.inner = (s.headerPart n).filled ++ (s.afterPart n).inner :=
          (take_append_drop _ _).symm
        have hdelivered : vlessDelivered (seen ++ (s.headerPart n).filled) = vlessDelivered seen :=
          hpart.delivered.trans (h.delivered_eq_nil hready).symm
        cases hresult : (s.responseHeader.received (s.headerPart n)).1 with
        | ok u =>
          rw [pollRead_part hready hresult]
          obtain ⟨seen', hreads⟩ := ih (s.afterPart n) _ hpart.took
          exact ⟨seen', hreads.after hinner hdelivered (hpart.need hresult)⟩
        | error e =>
          rw [pollRead_error hready hresult]
          refine ⟨seen ++ (s.headerPart n).filled, ?_, hpart.took, ?_, fun bytes hok => ?_, fun e' _ => ?_,
            fun hp => ?_⟩
          · rw [append_assoc, ← hinner]
          · rw [hdelivered]
            exact (append_nil _).symm
          · cases hok
          · exact .inr (payload_eq_none_of_error h hready hresult)
          · cases hp

lemma took_pollReads (calls : List (Nat × List InnerRead)) :
    ∀ (s : VlessTcpProxyTargetStream) (seen : Bytes), s.responseHeader.Took seen →
      ∃ seen', seen' ++ (s.pollReads calls).2.inner = seen ++ s.inner ∧
        (s.pollReads calls).2.responseHeader.Took seen' ∧
        vlessDelivered seen' = vlessDelivered seen ++ (s.pollReads calls).1.flatMap ReadPoll.bytes := by
  induction calls with
  | nil =>
    intro s seen h
    exact ⟨seen, rfl, h, (append_nil _).symm⟩
  | cons call calls ih =>
    intro s seen h
    obtain ⟨mid, hreads⟩ := reads_pollRead call.1 call.2 s seen h
    obtain ⟨seen', hstream, htook, hdelivered⟩ := ih _ mid hreads.took
    refine ⟨seen', hstream.trans hreads.stream, htook, ?_⟩
    rw [hdelivered, hreads.delivered, append_assoc]
    rfl

end VlessTcpProxyTargetStream

/-- **The stream without the header**, read by any calls and whatever the inner stream answers: no byte is
lost or read again, and what is delivered is the stream behind its header, or nothing if it has none.  A call
fails only by the inner stream or for want of a header, and does not wait for ever. -/
theorem vless_stream_drops_header (stream : Bytes) (calls : List (Nat × List InnerRead)) :
    let s := ((new stream).pollReads calls).2
    let delivered :=
      ((new stream).pollReads calls).1.flatMap ReadPoll.bytes
    (∃ seen, stream = seen ++ s.inner ∧ s.responseHeader.Took seen ∧
      delivered = (vlessPayload seen).getD []) ∧
    (∀ payload, vlessPayload stream = some payload →
      (∃ todo, payload = delivered ++ todo ∧ (s.responseHeader = .ready → todo = s.inner)) ∧
      ∀ capacity answers,
        (∀ e, (s.pollRead capacity answers).1 = .ready (.error e) → .failed e ∈ answers) ∧
        (0 < capacity → (s.pollRead capacity answers).1 = .ready (.ok []) → delivered = payload)) ∧
    (vlessPayload stream = none → delivered = [] ∧
      ∀ capacity answers bytes, (s.pollRead capacity answers).1 ≠ .ready (.ok bytes)) ∧
    ∀ capacity answers, 258 ≤ answers.length → (s.pollRead capacity answers).1 ≠ .pending := by
  intro s delivered
  obtain ⟨seen, hstream, htook, hdelivered⟩ : ∃ seen, seen ++ s.inner = stream ∧
      s.responseHeader.Took seen ∧ vlessDelivered seen = delivered :=
    took_pollReads calls (.new stream) [] ⟨rfl, fun length version h => by cases h⟩
  refine ⟨⟨seen, hstream.symm, htook, hdelivered.symm⟩, fun payload hpayload => ⟨?_, ?_⟩,
    fun hnone => ⟨?_, ?_⟩, fun capacity answers hlong hpending => ?_⟩
  · cases hready : s.responseHeader.isReady with
    | true =>
      obtain ⟨front, hfront⟩ := htook.payload_eq_some hready
      have hall := vlessPayload_append hfront s.inner
      rw [hstream, hpayload] at hall
      refine ⟨s.inner, ?_, fun _ => rfl⟩
      rw [Option.some.inj hall, ← hdelivered, vlessDelivered_of_some hfront]
    | false =>
      refine ⟨payload, ?_, fun h => ?_⟩
      · rw [← hdelivered, htook.delivered_eq_nil hready]
        rfl
      · rw [h] at hready
        cases hready
  · intro capacity answers
    obtain ⟨seen', hreads⟩ := reads_pollRead capacity answers s seen htook
    refine ⟨fun e he => (hreads.error e he).resolve_right ?_, fun hpos hend => ?_⟩
    · rw [hstream, hpayload]
      exact Option.some_ne_none payload
    · have hall := hreads.stream
      rw [(hreads.ok [] hend).2 hpos rfl, append_nil, hstream] at hall
      have hlast := hreads.delivered
      rw [hend, hall, vlessDelivered_of_some hpayload, hdelivered] at hlast
      rw [hlast]
      exact (append_nil _).symm
  · rw [← hstream] at hnone
    rw [← hdelivered]
    exact vlessDelivered_of_none (vlessPayload_of_append_eq_none hnone)
  · intro capacity answers bytes hok
    obtain ⟨seen', hreads⟩ := reads_pollRead capacity answers s seen htook
    obtain ⟨front, hfront⟩ := hreads.took.payload_eq_some (by rw [(hreads.ok bytes hok).1]; rfl)
    have hall := vlessPayload_append hfront (s.pollRead capacity answers).2.inner
    rw [hreads.stream, hstream, hnone] at hall
    cases hall
  · obtain ⟨seen', hreads⟩ := reads_pollRead capacity answers s seen htook
    have hle := hreads.pending hpending
    have hneed := htook.need_le
    omega

theorem vless_stream_drops_header_in_parts : ((new [0, 1, 9, 7, 8]).pollReads
      [(16, [.upTo 0]), (16, [.upTo 0, .upTo 5]), (16, [.upTo 5])]).1.flatMap ReadPoll.bytes = [7, 8] :=
  ((vless_stream_drops_header [0, 1, 9, 7, 8] _).2.1 [7, 8] rfl).2 16 [.upTo 0] |>.2 (by decide) rfl

end Zuicity
