import Mathlib.Data.List.AList
import Zuicity.Lib.Slots
import Zuicity.Tuic.Fragment

/-!
# The reassembler of TUIC UDP fragments (`zuicity-transport`)

`TuicUdpReassembler` keeps one buffer for each (association id, packet id) of which some but not
all fragments have arrived.  Instants are nanoseconds on a monotonic clock.
-/

namespace Zuicity

def defaultNatTimeout : Nat := 180 * 1000000000

structure TuicUdpReassemblyBuffer where
  fragments : List (Option Bytes)
  received : UInt8
  target : Option SocketAddr
  created : Nat
deriving DecidableEq

structure TuicUdpReassembler where
  buffers : AList (fun _ : UInt16 × UInt16 => TuicUdpReassemblyBuffer)

namespace TuicUdpReassembler

def joinFragments : List (Option Bytes) → Res TransportError Bytes
  | [] => .ok []
  | chunk :: fragments => do
    let bytes ← Res.expect chunk
    let payload ← joinFragments fragments
    .ok (bytes ++ payload)

lemma joinFragments_map_some (pieces : List Bytes) :
    joinFragments (pieces.map some) = .ok pieces.flatten := by
  induction pieces with
  | nil => rfl
  | cons x pieces ih =>
    rw [List.map_cons, joinFragments, ih]
    rfl

def finish (buffer : TuicUdpReassemblyBuffer) : Res TransportError (Option (Bytes × SocketAddr)) := do
  let target ← Res.okOr buffer.target (tuicPacketError "reassembled TUIC packet has no address")
  let payload ← joinFragments buffer.fragments
  .ok (some (payload, target))

def entryKey (fragment : TuicUdpFragment) : UInt16 × UInt16 :=
  (fragment.associationId, fragment.packetId)

def emptyBuffer (fragment : TuicUdpFragment) (now : Nat) : TuicUdpReassemblyBuffer :=
  ⟨List.replicate fragment.fragmentTotal.toNat none, 0, none, now⟩

def place (buffer : TuicUdpReassemblyBuffer) (fragment : TuicUdpFragment) : TuicUdpReassemblyBuffer :=
  { buffer with
    target := if fragment.fragmentId = 0 then fragment.target else buffer.target
    fragments := buffer.fragments.set fragment.fragmentId.toNat (some fragment.payload)
    received := buffer.received + 1 }

/-- one fragment at the instant `now`: the result of the call and the reassembler after it -/
def accept (self : TuicUdpReassembler) (fragment : TuicUdpFragment) (now : Nat) :
    Res TransportError (Option (Bytes × SocketAddr)) × TuicUdpReassembler :=
  if fragment.fragmentTotal = 1 then
    match fragment.target with
    | some target => (.ok (some (fragment.payload, target)), self)
    | none => (.err (tuicPacketError "first TUIC fragment is missing its address"), self)
  else
    let key := entryKey fragment
    -- `entry(key).or_insert_with(..)`
    let buffer := (self.buffers.lookup key).getD (emptyBuffer fragment now)
    let entered := self.buffers.insert key buffer
    if buffer.fragments.length ≠ fragment.fragmentTotal.toNat then
      (.err (tuicPacketError "TUIC fragment total changed mid-packet"), ⟨entered.erase key⟩)
    else match buffer.fragments[fragment.fragmentId.toNat]? with
      | none => (.panic, ⟨entered⟩)
      | some (some _) => (.err (tuicPacketError "duplicate TUIC fragment"), ⟨entered⟩)
      | some none =>
        if fragment.fragmentId = 0 ∧ fragment.target = none then
          (.err (tuicPacketError "first TUIC fragment is missing its address"), ⟨entered⟩)
        else
          let buffer := place buffer fragment
          if buffer.received.toNat = buffer.fragments.length then
            (finish buffer, ⟨entered.erase key⟩)
          else (.ok none, ⟨entered.insert key buffer⟩)

lemma accept_place (self : TuicUdpReassembler) (fragment : TuicUdpFragment) (now : Nat)
    {buffer : TuicUdpReassemblyBuffer} (hone : fragment.fragmentTotal ≠ 1)
    (hbuffer : (self.buffers.lookup (entryKey fragment)).getD (emptyBuffer fragment now) = buffer)
    (hlen : buffer.fragments.length = fragment.fragmentTotal.toNat)
    (hslot : buffer.fragments[fragment.fragmentId.toNat]? = some none)
    (htarget : ¬ (fragment.fragmentId = 0 ∧ fragment.target = none)) :
    self.accept fragment now
      = if (place buffer fragment).received.toNat = (place buffer fragment).fragments.length then
          (finish (place buffer fragment),
            ⟨(self.buffers.insert (entryKey fragment) buffer).erase (entryKey fragment)⟩)
        else (.ok none, ⟨(self.buffers.insert (entryKey fragment) buffer).insert (entryKey fragment)
          (place buffer fragment)⟩) := by
  unfold accept
  rw [if_neg hone]
  dsimp only
  rw [hbuffer, if_neg (not_not.mpr hlen), hslot]
  dsimp only
  rw [if_neg htarget]

/-- drop the buffers that were created too long before `now` -/
def collectGarbage (self : TuicUdpReassembler) (now : Nat) : TuicUdpReassembler :=
  ⟨⟨self.buffers.entries.filter (fun e => now - e.2.created < defaultNatTimeout),
    self.buffers.nodupKeys.sublist List.filter_sublist⟩⟩

instance : Inhabited TuicUdpReassembler := ⟨⟨∅⟩⟩

variable (toSocketAddrs : String → UInt16 → Except IoError (List SocketAddr))

def receive (self : TuicUdpReassembler) (datagram : Bytes) (now : Nat) :
    Res TransportError (Option (Bytes × SocketAddr)) × TuicUdpReassembler :=
  match decodeTuicUdpFragment toSocketAddrs datagram with
  | .ok fragment => self.accept fragment now
  | .err e => (.err e, self)
  | .panic => (.panic, self)

/-- the results of all datagrams (each with the instant it arrives) and the reassembler at the end -/
def receiveAll (self : TuicUdpReassembler) : List (Bytes × Nat) →
    List (Res TransportError (Option (Bytes × SocketAddr))) × TuicUdpReassembler
  | [] => ([], self)
  | (datagram, now) :: feed =>
    let (r, next) := self.receive toSocketAddrs datagram now
    let (rs, last) := next.receiveAll feed
    (r :: rs, last)

end TuicUdpReassembler

end Zuicity
