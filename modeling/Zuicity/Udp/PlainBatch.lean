import Zuicity.Io
import Zuicity.Lib.Chunks
import Zuicity.Net

/-!
# Batches of plain UDP datagrams (`zuicity-transport`, `udp_plain_batch.rs`)

A transmit is one buffer that is cut into datagrams of `segmentSize` bytes.  A batch of datagrams
that the kernel took only in part goes on as an owned copy of the suffix (`OwnedTransmit`), of
which `start` bytes are done.
-/

namespace Zuicity

open List

def maxPlainBatchDatagrams : Nat := 128

/-- what QUIC hands to the socket (`quinn::udp::Transmit`) -/
structure Transmit where
  destination : SocketAddr
  contents : Bytes
  segmentSize : Option Nat
deriving DecidableEq

structure PlainTransmit where
  destination : SocketAddr
  contents : Bytes
  segmentSize : Option Nat
deriving DecidableEq

namespace PlainTransmit

variable (t : PlainTransmit)

def normalizedSegmentSize : Nat :=
  max (t.segmentSize.getD t.contents.length) 1

def datagrams : List Bytes := chunks t.normalizedSegmentSize t.contents

def datagramLengths : List Nat := t.datagrams.map List.length

def datagramCount : Nat := t.datagrams.length

def borrow (transmit : Transmit) : IoResult PlainTransmit :=
  let t : PlainTransmit := ⟨transmit.destination, transmit.contents, transmit.segmentSize⟩
  if t.datagramCount > maxPlainBatchDatagrams then
    .error (.custom .invalidInput "ordinary UDP batch exceeds the 128-datagram sender capacity")
  else .ok t

/-- how many datagrams went out in full length before the first that did not, and whether all
that went out did -/
def sentPrefix (sentLengths : List Nat) : IoResult (Nat × Bool) :=
  if sentLengths.length > t.datagramCount then .error (.simple .invalidData)
  else
    let fullPrefix := ((sentLengths.zip t.datagramLengths).takeWhile
      fun (actual, expected) => actual == expected).length
    .ok (fullPrefix, fullPrefix == sentLengths.length)

end PlainTransmit

structure OwnedTransmit where
  destination : SocketAddr
  contents : Bytes
  segmentSize : Option Nat
  start : Nat
  start_le : start ≤ contents.length
deriving DecidableEq

namespace OwnedTransmit

/-- an own copy of what follows the first `count` datagrams; `reserved` is the answer of the
allocator -/
def copySuffix (transmit : PlainTransmit) (count : Nat) (reserved : Bool) : IoResult OwnedTransmit :=
  if count > transmit.datagramCount then .error (.simple .invalidData)
  else
    let acceptedBytes := (transmit.datagramLengths.take count).sum
    if acceptedBytes > transmit.contents.length then .error (.simple .invalidData)
    else if !reserved then .error (.simple .outOfMemory)
    else .ok ⟨transmit.destination, transmit.contents.drop acceptedBytes, transmit.segmentSize, 0,
      Nat.zero_le _⟩

variable (t : OwnedTransmit)

def isEmpty : Bool := t.start == t.contents.length

def transmit : PlainTransmit :=
  ⟨t.destination, t.contents.drop t.start, t.segmentSize⟩

def advance (bytes : Nat) : IoResult OwnedTransmit :=
  if h : t.start + bytes ≤ t.contents.length then .ok { t with start := t.start + bytes, start_le := h }
  else .error (.simple .invalidData)

end OwnedTransmit

inductive ProgressDecision where
  | complete
  | pending
deriving DecidableEq

structure BatchProgress where
  owned : OwnedTransmit
deriving DecidableEq

namespace BatchProgress

variable (p : BatchProgress)

def transmit : PlainTransmit := p.owned.transmit

def remainingDatagrams : Nat := p.transmit.datagramCount

def commitPrefix (count : Nat) : IoResult ProgressDecision × BatchProgress :=
  let offered := p.remainingDatagrams
  if count > offered then (.error (.simple .invalidData), p)
  else if count = 0 then
    (if offered = 0 then .ok .complete else .error (.simple .writeZero), p)
  else
    let acceptedBytes := (p.transmit.datagramLengths.take count).sum
    match p.owned.advance acceptedBytes with
    | .error e => (.error e, p)
    | .ok owned => (.ok (if owned.isEmpty then .complete else .pending), ⟨owned⟩)

def recordSent (sentLengths : List Nat) : IoResult ProgressDecision × BatchProgress :=
  match p.transmit.sentPrefix sentLengths with
  | .error e => (.error e, p)
  | .ok (fullPrefix, allFull) =>
    if !allFull then
      if fullPrefix > 0 then
        match p.commitPrefix fullPrefix with
        | (.error e, p) => (.error e, p)
        | (.ok _, p) => (.error (.simple .writeZero), p)
      else (.error (.simple .writeZero), p)
    else p.commitPrefix fullPrefix

end BatchProgress

variable {t : PlainTransmit}

namespace PlainTransmit

lemma normalizedSegmentSize_pos (t : PlainTransmit) : 0 < t.normalizedSegmentSize :=
  Nat.lt_of_lt_of_le Nat.zero_lt_one (Nat.le_max_right _ _)

lemma datagramCount_le_one (h : t.segmentSize = none) : t.datagramCount ≤ 1 := by
  unfold datagramCount datagrams
  rw [length_chunks, ceilDiv_le_iff_le_mul t.normalizedSegmentSize_pos, Nat.mul_one]
  unfold normalizedSegmentSize
  rw [h]
  exact Nat.le_max_left _ _

lemma sum_take_datagramLengths (t : PlainTransmit) (count : Nat) : (t.datagramLengths.take count).sum
      = (t.contents.take (count * t.normalizedSegmentSize)).length := by
  unfold datagramLengths datagrams
  rw [← map_take, ← length_flatten, flatten_take_chunks t.normalizedSegmentSize_pos]

lemma chunks_drop_sum (t : PlainTransmit) (count : Nat) :
    chunks t.normalizedSegmentSize (t.contents.drop (t.datagramLengths.take count).sum)
      = t.datagrams.drop count := by
  unfold datagrams
  rw [drop_chunks t.normalizedSegmentSize_pos, sum_take_datagramLengths, length_take]
  by_cases h : count * t.normalizedSegmentSize ≤ t.contents.length
  · rw [Nat.min_eq_left h]
  · rw [Nat.min_eq_right (by omega), drop_of_length_le (Nat.le_refl _), drop_of_length_le (by omega)]

lemma sum_take_datagramLengths_le (t : PlainTransmit) (count : Nat) :
    (t.datagramLengths.take count).sum ≤ t.contents.length := by
  rw [sum_take_datagramLengths, length_take]
  exact Nat.min_le_right _ _

end PlainTransmit

namespace BatchProgress

structure Left (p : BatchProgress) (destination : SocketAddr) (segment : Nat)
    (rest : List Bytes) : Prop where
  destination_eq : p.transmit.destination = destination
  segmentSize_eq : p.transmit.segmentSize = some segment
  datagrams_eq : p.transmit.datagrams = rest

variable {segment : Nat}

lemma normalizedSegmentSize_eq {t' : PlainTransmit} (h : t.segmentSize = some segment)
    (h' : t'.segmentSize = some segment) : t'.normalizedSegmentSize = t.normalizedSegmentSize := by
  unfold PlainTransmit.normalizedSegmentSize
  rw [h, h']
  rfl

/-- **commit**: some more of the datagrams that are left are done -/
lemma commitPrefix_spec {p : BatchProgress} {destination : SocketAddr} {rest : List Bytes}
    (h : p.Left destination segment rest) {count : Nat} (h0 : 0 < count) (hle : count ≤ rest.length) :
    ∃ p', p.commitPrefix count = (.ok (if count = rest.length then .complete else .pending), p') ∧
      p'.Left destination segment (rest.drop count) := by
  obtain ⟨hdest, hseg, hrest⟩ := h
  have hcount : p.remainingDatagrams = rest.length := congrArg List.length hrest
  have hbytes := p.transmit.sum_take_datagramLengths_le count
  have hleft := p.transmit.chunks_drop_sum count
  have hcontents : p.transmit.contents.length = p.owned.contents.length - p.owned.start :=
    length_drop
  have hadv : p.owned.start + (p.transmit.datagramLengths.take count).sum ≤ p.owned.contents.length := by
    have := p.owned.start_le
    omega
  let owned : OwnedTransmit :=
    { p.owned with
      start := p.owned.start + (p.transmit.datagramLengths.take count).sum, start_le := hadv }
  have howned : p.owned.advance (p.transmit.datagramLengths.take count).sum = .ok owned := dif_pos hadv
  have hdrop : (⟨owned⟩ : BatchProgress).transmit.contents
      = p.transmit.contents.drop (p.transmit.datagramLengths.take count).sum := by
    show p.owned.contents.drop _ = (p.owned.contents.drop p.owned.start).drop _
    rw [drop_drop]
  have hsize : (⟨owned⟩ : BatchProgress).transmit.normalizedSegmentSize
      = p.transmit.normalizedSegmentSize := normalizedSegmentSize_eq hseg hseg
  have hdatagrams : (⟨owned⟩ : BatchProgress).transmit.datagrams = rest.drop count := by
    unfold PlainTransmit.datagrams
    rw [hdrop, hsize, hleft, hrest]
  have hempty : owned.isEmpty = true ↔ count = rest.length := by
    have h1 : owned.isEmpty = true ↔ (⟨owned⟩ : BatchProgress).transmit.contents = [] := by
      show (owned.start == owned.contents.length) = true ↔ owned.contents.drop owned.start = []
      rw [beq_iff_eq, drop_eq_nil_iff]
      have := owned.start_le
      omega
    rw [h1, ← chunks_eq_nil (⟨owned⟩ : BatchProgress).transmit.normalizedSegmentSize_pos]
    show (⟨owned⟩ : BatchProgress).transmit.datagrams = [] ↔ _
    rw [hdatagrams, drop_eq_nil_iff]
    omega
  refine ⟨⟨owned⟩, ?_, hdest, hseg, hdatagrams⟩
  unfold commitPrefix
  dsimp only
  rw [hcount, if_neg (Nat.not_lt.mpr hle), if_neg (by omega), howned]
  dsimp only
  by_cases hc : count = rest.length
  · rw [if_pos (hempty.mpr hc), if_pos hc]
  · rw [if_neg (hempty.not.mpr hc), if_neg hc]

lemma copySuffix_spec (hseg : t.segmentSize = some segment) {count : Nat}
    (hle : count ≤ t.datagramCount) (reserved : Bool) :
    ∃ owned, OwnedTransmit.copySuffix t count reserved
        = (if !reserved then .error (.simple .outOfMemory) else .ok owned) ∧
      (⟨owned⟩ : BatchProgress).Left t.destination segment (t.datagrams.drop count) := by
  have hbytes := t.sum_take_datagramLengths_le count
  let owned : OwnedTransmit := ⟨t.destination, t.contents.drop (t.datagramLengths.take count).sum,
    t.segmentSize, 0, Nat.zero_le _⟩
  have hsize : (⟨owned⟩ : BatchProgress).transmit.normalizedSegmentSize = t.normalizedSegmentSize :=
    normalizedSegmentSize_eq hseg hseg
  refine ⟨owned, ?_, rfl, hseg, ?_⟩
  · unfold OwnedTransmit.copySuffix
    rw [if_neg (Nat.not_lt.mpr hle)]
    dsimp only
    rw [if_neg (Nat.not_lt.mpr hbytes)]
  · rw [← t.chunks_drop_sum count, ← hsize]
    rfl

end BatchProgress

end Zuicity
