import Zuicity.Lib.Runs
import Zuicity.Relay.UdpOverStream
import Zuicity.Transport.Authenticate
import Zuicity.Tuic.Reassembler

/-!
# The UDP relay of a TUIC connection (`run_tuic_udp_datagram_relay`)

The relay takes the packets of a client, which come as datagrams or on unidirectional streams, puts
their fragments together and hands the payloads to associations, one task for each association id.
A task sends the payloads from a socket of its own and sends what comes back to the client.

`TuicUdpDatagramRelay.step` is one event in the loop or in one of the tasks.  The loop waits inside
its branches as well: for the end of a stream that it reads, and for room in the channel of a task.
-/

namespace Zuicity

open List

def tuicCommandDissociate : UInt8 := 0x03
def tuicCommandHeartbeat : UInt8 := 0x04

def tuicAssociationQueue : Nat := 64

/-- `ToSocketAddrs` for a domain and a port -/
abbrev Resolver := String → UInt16 → Except IoError (List SocketAddr)

/-! ## associations -/

structure TuicUdpAssociation where
  associationId : UInt16
  receiver : List (Bytes × SocketAddr) := []
  /-- the family of the socket: whether it is IPv4 -/
  relaySocket : Option Bool := none
  packetId : UInt16 := 0
  /-- `abort` was called: a task that runs just then goes on to its next wait -/
  aborted : Bool := false
  ended : Bool := false
  /-- log: the datagrams that left the socket -/
  sent : List (SocketAddr × Bytes) := []
  /-- log: the datagrams that were given to the connection -/
  responses : List Bytes := []

inductive TuicAssociationEvent where
  /-- the next payload in the channel, and what the system says about its target -/
  | inbound (answer : TargetAnswer)
  /-- the channel is empty and its sender gone -/
  | disconnected
  /-- a datagram from the socket; the connection takes as many of its fragments -/
  | reply (reply : Reply) (maxDatagramSize : Option Nat) (taken : Nat)
  | recvFailed
  | idle
  | abort

namespace TuicUdpAssociation

def finish (a : TuicUdpAssociation) : TuicUdpAssociation := { a with ended := true, receiver := [] }

def abort (a : TuicUdpAssociation) : TuicUdpAssociation := { a with aborted := true }

/-- a payload at the head of the channel: it is dropped where no socket can send it, and an error of
`send_to` is ignored -/
def inbound (egress : ProxyEgressPolicy) (answer : TargetAnswer) (a : TuicUdpAssociation) :
    TuicUdpAssociation :=
  match a.receiver with
  | [] => a
  | (payload, target) :: receiver =>
    let a := { a with receiver := receiver }
    if egressSourceMismatchesTarget egress target then a
    else match relaySocketFor egress answer a.relaySocket target.isIpv4 with
      | .error _ => a
      | .ok () =>
        let a := { a with relaySocket := some target.isIpv4 }
        match answer.sendTo with
        | .ok () => { a with sent := a.sent ++ [(target, payload)] }
        | .error _ => a

def respond (reply : Reply) (maxDatagramSize : Option Nat) (taken : Nat) (a : TuicUdpAssociation) :
    TuicUdpAssociation :=
  match maxDatagramSize with
  | none => a
  | some size =>
    let header := OwnedProxyHeader.fromIp .udp reply.peer.ip reply.peer.port
    match encodeTuicUdpFragments header reply.payload a.associationId a.packetId size with
    | .err _ => a
    | .panic => a.finish
    | .ok fragments =>
      let a := { a with
        packetId := a.packetId + 1, responses := a.responses ++ fragments.take taken }
      if taken < fragments.length then a.finish else a

/-- one event; `connected` says whether the relay still has the sender of the channel -/
def step (egress : ProxyEgressPolicy) (connected : Bool) (a : TuicUdpAssociation)
    (event : TuicAssociationEvent) : TuicUdpAssociation :=
  if a.ended then a
  else match event with
    | .inbound answer => a.inbound egress answer
    | .disconnected => if a.receiver = [] ∧ connected = false then a.finish else a
    | .reply reply maxDatagramSize taken =>
      if a.relaySocket.isSome then a.respond reply maxDatagramSize taken else a
    | .recvFailed => if a.relaySocket.isSome then a.finish else a
    | .idle => a.finish
    | .abort => if a.aborted then a.finish else a

end TuicUdpAssociation

/-! ## the relay -/

inductive TuicRelayPhase where
  | select
  | reading (bytes : Bytes)
  | sending (associationId : UInt16) (forward : Bytes × SocketAddr)
  | returned
  | panicked

structure TuicUdpDatagramRelay where
  phase : TuicRelayPhase := .select
  /-- the handles: positions in `tasks` -/
  associations : AList (fun _ : UInt16 => Nat) := ∅
  tasks : List TuicUdpAssociation := []
  reassembler : TuicUdpReassembler := default

inductive TuicRelayEvent where
  | shutdown
  | gc (now : Nat)
  | acceptUni
  | uniData (bytes : Bytes) (ending : StreamEnd ReadError) (now : Nat) (resolver : Resolver)
  | datagram (raw : Bytes) (now : Nat) (resolver : Resolver)
  /-- `accept_uni` or `read_datagram` fails -/
  | connectionLost
  | pollSend
  | dropped
  | association (i : Nat) (event : TuicAssociationEvent)

namespace TuicUdpDatagramRelay

def sent (s : TuicUdpDatagramRelay) : List (SocketAddr × Bytes) := s.tasks.flatMap (·.sent)

def modifyTask (s : TuicUdpDatagramRelay) (i : Nat) (f : TuicUdpAssociation → TuicUdpAssociation) :
    TuicUdpDatagramRelay :=
  { s with tasks := s.tasks.modify i f }

def remove (s : TuicUdpDatagramRelay) (associationId : UInt16) : TuicUdpDatagramRelay :=
  match s.associations.lookup associationId with
  | none => s
  | some i =>
    { s.modifyTask i .abort with associations := s.associations.erase associationId }

def spawn (s : TuicUdpDatagramRelay) (associationId : UInt16) (forward : Bytes × SocketAddr) :
    TuicUdpDatagramRelay :=
  { s with
    associations := s.associations.insert associationId s.tasks.length
    tasks := s.tasks ++ [{ associationId := associationId, receiver := [forward] }] }

/-- a task whose channel is closed makes place for a new one -/
def forward (s : TuicUdpDatagramRelay) (associationId : UInt16) (forward : Bytes × SocketAddr) :
    TuicUdpDatagramRelay :=
  match s.associations.lookup associationId with
  | none => { s.spawn associationId forward with phase := .select }
  | some i => match s.tasks[i]? with
    | none => s
    | some task =>
      if task.ended then
        { (s.remove associationId).spawn associationId forward with phase := .select }
      else if task.receiver.length < tuicAssociationQueue then
        { s.modifyTask i fun task => { task with receiver := task.receiver ++ [forward] } with
          phase := .select }
      else { s with phase := .sending associationId forward }

/-- the task of the relay goes away with its handles; the tasks of the associations go on -/
def leave (s : TuicUdpDatagramRelay) (phase : TuicRelayPhase) : TuicUdpDatagramRelay :=
  { s with phase := phase, associations := ∅ }

/-- the fragment of a packet; errors are dropped -/
def packet (s : TuicUdpDatagramRelay) (fragment : Res TransportError TuicUdpFragment) (now : Nat) :
    TuicUdpDatagramRelay :=
  match fragment with
  | .err _ => s
  | .panic => s.leave .panicked
  | .ok fragment =>
    let (result, reassembler) := s.reassembler.accept fragment now
    let s := { s with reassembler := reassembler }
    match result with
    | .ok (some payload) => s.forward fragment.associationId payload
    | .ok none => s
    | .err _ => s
    | .panic => s.leave .panicked

/-- a unidirectional stream that was read to its end; a short DISSOCIATE is ignored, as other
commands are -/
def uniStream (s : TuicUdpDatagramRelay) (raw : Bytes) (now : Nat) (resolver : Resolver) :
    TuicUdpDatagramRelay :=
  match raw with
  | version :: command :: rest =>
    if version ≠ tuicVersion5 then s
    else if command = tuicCommandDissociate then
      match rest with
      | high :: low :: _ => s.remove (Be16.fromBeBytes high low)
      | _ => s
    else if command = tuicCommandPacket then s.packet (decodeTuicUdpFragment resolver raw) now
    else s
  | _ => s

def datagram (s : TuicUdpDatagramRelay) (raw : Bytes) (now : Nat) (resolver : Resolver) :
    TuicUdpDatagramRelay :=
  if raw.take 2 = [tuicVersion5, tuicCommandHeartbeat] then s
  else s.packet (decodeTuicUdpFragment resolver raw) now

def handles (s : TuicUdpDatagramRelay) : List Nat := s.associations.entries.map (·.2)

/-- after the loop every task that has a handle is aborted -/
def finish (s : TuicUdpDatagramRelay) : TuicUdpDatagramRelay :=
  { s with
    phase := .returned
    associations := ∅
    tasks := s.tasks.mapIdx fun i task => if i ∈ s.handles then task.abort else task }

def step (egress : ProxyEgressPolicy) (s : TuicUdpDatagramRelay) (event : TuicRelayEvent) :
    TuicUdpDatagramRelay :=
  match event, s.phase with
  | .shutdown, .select => s.finish
  | .connectionLost, .select => s.finish
  | .gc now, .select => { s with reassembler := s.reassembler.collectGarbage now }
  | .acceptUni, .select => { s with phase := .reading [] }
  | .uniData bytes ending now resolver, .reading got =>
    match readToEnd tuicUniStreamMaxLen (got ++ bytes) ending with
    | none => { s with phase := .reading (got ++ bytes) }
    | some (.error _) => { s with phase := .select }
    | some (.ok raw) => { s with phase := .select }.uniStream raw now resolver
  | .datagram raw now resolver, .select => s.datagram raw now resolver
  | .pollSend, .sending associationId payload => s.forward associationId payload
  | .dropped, _ => s.leave .returned
  | .association i event, _ => s.modifyTask i fun task => task.step egress (i ∈ s.handles) event
  | _, _ => s

def Arrives (s : TuicUdpDatagramRelay) (event : TuicRelayEvent) (fragment : TuicUdpFragment) : Prop :=
  match event, s.phase with
  | .datagram raw _ resolver, .select => decodeTuicUdpFragment resolver raw = .ok fragment
  | .uniData bytes ending _ resolver, .reading got =>
    ∃ raw, readToEnd tuicUniStreamMaxLen (got ++ bytes) ending = some (.ok raw) ∧
      decodeTuicUdpFragment resolver raw = .ok fragment
  | _, _ => False

/-- a fragment arrives whose target, resolved, has the property -/
def Names (P : SocketAddr → Prop) (s : TuicUdpDatagramRelay) (event : TuicRelayEvent) : Prop :=
  ∃ fragment target, s.Arrives event fragment ∧ fragment.target = some target ∧ P target

end TuicUdpDatagramRelay

/-! ## where payloads go -/

variable {P : SocketAddr → Prop}

section
variable (P : SocketAddr → Prop)

def TuicUdpReassembler.Aimed (self : TuicUdpReassembler) : Prop :=
  ∀ e ∈ self.buffers.entries, ∀ target ∈ e.2.target, P target

structure TuicUdpAssociation.Aimed (a : TuicUdpAssociation) : Prop where
  receiver : ∀ payload ∈ a.receiver, P payload.2
  sent : ∀ p ∈ a.sent, P p.1

structure TuicUdpDatagramRelay.Aimed (s : TuicUdpDatagramRelay) : Prop where
  reassembler : s.reassembler.Aimed P
  tasks : ∀ task ∈ s.tasks, task.Aimed P
  waiting : ∀ associationId payload, s.phase = .sending associationId payload → P payload.2

end

namespace TuicUdpReassembler

variable {self : TuicUdpReassembler}

section
variable (h : self.Aimed P)
include h

variable (key : UInt16 × UInt16)

lemma Aimed.insert {buffer : TuicUdpReassemblyBuffer}
    (hb : ∀ target ∈ buffer.target, P target) : Aimed P ⟨self.buffers.insert key buffer⟩ := by
  intro e he
  rw [AList.entries_insert] at he
  rcases mem_cons.mp he with rfl | he
  · exact hb
  · exact h e ((kerase_sublist _ _).subset he)

lemma Aimed.erase : Aimed P ⟨self.buffers.erase key⟩ :=
  fun e he => h e ((kerase_sublist _ _).subset he)

lemma Aimed.collectGarbage (now : Nat) : (self.collectGarbage now).Aimed P :=
  fun e he => h e (mem_of_mem_filter he)

lemma Aimed.entry (fragment : TuicUdpFragment) (now : Nat) :
    ∀ target ∈ ((self.buffers.lookup (entryKey fragment)).getD
      (emptyBuffer fragment now)).target, P target := by
  intro target ht
  cases hl : self.buffers.lookup (entryKey fragment) with
  | none =>
    rw [hl] at ht
    cases ht
  | some buffer =>
    rw [hl] at ht
    exact h ⟨_, buffer⟩ (AList.mem_lookup_iff.mp hl) target ht

end

lemma finish_target {buffer : TuicUdpReassemblyBuffer} {payload : Bytes} {target : SocketAddr}
    (h : finish buffer = .ok (some (payload, target))) : buffer.target = some target := by
  unfold finish at h
  cases ht : buffer.target with
  | none =>
    rw [ht] at h
    cases h
  | some t =>
    rw [ht] at h
    cases hj : joinFragments buffer.fragments with
    | ok bytes =>
      simp only [Res.okOr, hj] at h
      cases h
      rfl
    | err e =>
      simp only [Res.okOr, hj] at h
      cases h
    | panic =>
      simp only [Res.okOr, hj] at h
      cases h

lemma accept_aimed (h : self.Aimed P) {fragment : TuicUdpFragment}
    (hf : ∀ target ∈ fragment.target, P target) (now : Nat) :
    (self.accept fragment now).2.Aimed P ∧
      ∀ payload target, (self.accept fragment now).1 = .ok (some (payload, target)) → P target := by
  have hentry := h.entry fragment now
  have hentered := h.insert (entryKey fragment) hentry
  unfold accept
  split
  · cases ht : fragment.target with
    | none => exact ⟨h, nofun⟩
    | some t =>
      refine ⟨h, fun payload target hr => ?_⟩
      cases hr
      exact hf _ ht
  · dsimp only
    split
    · exact ⟨hentered.erase _, nofun⟩
    · split
      · exact ⟨hentered, nofun⟩
      · exact ⟨hentered, nofun⟩
      · split
        · exact ⟨hentered, nofun⟩
        · -- the target of the buffer is that of the fragment, or what it was
          have hplace : ∀ target ∈ (place ((self.buffers.lookup (entryKey fragment)).getD
              (emptyBuffer fragment now)) fragment).target, P target := by
            intro target ht
            unfold place at ht
            dsimp only at ht
            split at ht
            · exact hf target ht
            · exact hentry target ht
          split
          · exact ⟨hentered.erase _, fun payload target hr => hplace target (finish_target hr)⟩
          · exact ⟨hentered.insert _ hplace, nofun⟩

end TuicUdpReassembler

namespace TuicUdpAssociation

variable {a : TuicUdpAssociation}

lemma Aimed.finish (h : a.Aimed P) : a.finish.Aimed P := ⟨nofun, h.sent⟩

lemma Aimed.inbound (h : a.Aimed P) (egress : ProxyEgressPolicy) (answer : TargetAnswer) :
    (a.inbound egress answer).Aimed P := by
  unfold TuicUdpAssociation.inbound
  split
  · exact h
  · next payload target receiver heq =>
    have hreceiver : ∀ payload ∈ receiver, P payload.2 :=
      fun p hp => h.receiver p (by rw [heq]; exact mem_cons_of_mem _ hp)
    have htarget : P target := h.receiver (payload, target) (by rw [heq]; exact mem_cons_self)
    dsimp only
    split
    · exact ⟨hreceiver, h.sent⟩
    · split
      · exact ⟨hreceiver, h.sent⟩
      · split
        · refine ⟨hreceiver, fun p hp => ?_⟩
          rcases mem_append.mp hp with hp | hp
          · exact h.sent p hp
          · rw [mem_singleton.mp hp]
            exact htarget
        · exact ⟨hreceiver, h.sent⟩

lemma Aimed.respond (h : a.Aimed P) (reply : Reply) (maxDatagramSize : Option Nat) (taken : Nat) :
    (a.respond reply maxDatagramSize taken).Aimed P := by
  unfold TuicUdpAssociation.respond
  split
  · exact h
  · dsimp only
    split
    · exact h
    · exact h.finish
    · split
      · exact ⟨nofun, h.sent⟩
      · exact ⟨h.receiver, h.sent⟩

lemma Aimed.step (h : a.Aimed P) (egress : ProxyEgressPolicy) (connected : Bool)
    (event : TuicAssociationEvent) : (a.step egress connected event).Aimed P := by
  unfold TuicUdpAssociation.step
  split
  · exact h
  · cases event with
    | inbound answer => exact h.inbound egress answer
    | reply reply maxDatagramSize taken =>
      dsimp only
      split
      · exact h.respond reply maxDatagramSize taken
      · exact h
    | idle => exact h.finish
    | disconnected | recvFailed | abort =>
      dsimp only
      split
      · exact h.finish
      · exact h

end TuicUdpAssociation

namespace TuicUdpDatagramRelay

variable {s : TuicUdpDatagramRelay}

lemma Aimed.modifyTask (h : s.Aimed P) (i : Nat) {f : TuicUdpAssociation → TuicUdpAssociation}
    (hf : ∀ task : TuicUdpAssociation, task.Aimed P → (f task).Aimed P) :
    (s.modifyTask i f).Aimed P := by
  refine ⟨h.reassembler, fun task ht => ?_, h.waiting⟩
  obtain ⟨j, hj⟩ := mem_iff_getElem?.mp ht
  have hget : (s.tasks.modify i f)[j]? = some task := hj
  rw [getElem?_modify] at hget
  obtain ⟨old, hold, rfl⟩ := Option.map_eq_some_iff.mp hget
  have haimed := h.tasks old (mem_of_getElem? hold)
  split
  · exact hf old haimed
  · exact haimed

lemma Aimed.withPhase (h : s.Aimed P) {phase : TuicRelayPhase}
    (hphase : ∀ associationId payload, phase ≠ .sending associationId payload) :
    Aimed P { s with phase := phase } :=
  ⟨h.reassembler, h.tasks, fun _ _ heq => absurd heq (hphase _ _)⟩

lemma Aimed.leave (h : s.Aimed P) {phase : TuicRelayPhase}
    (hphase : ∀ associationId payload, phase ≠ .sending associationId payload) :
    (s.leave phase).Aimed P :=
  ⟨h.reassembler, h.tasks, (h.withPhase hphase).waiting⟩

lemma Aimed.remove (h : s.Aimed P) (associationId : UInt16) : (s.remove associationId).Aimed P := by
  unfold TuicUdpDatagramRelay.remove
  split
  · exact h
  · next i _ =>
    have hmod : (s.modifyTask i .abort).Aimed P := h.modifyTask i fun _ ht => ⟨ht.receiver, ht.sent⟩
    exact ⟨hmod.reassembler, hmod.tasks, hmod.waiting⟩

variable {payload : Bytes × SocketAddr}

section
variable (h : s.Aimed P)
include h

lemma Aimed.spawn (associationId : UInt16) (hp : P payload.2) :
    (s.spawn associationId payload).Aimed P := by
  refine ⟨h.reassembler, fun task ht => ?_, h.waiting⟩
  rcases mem_append.mp ht with ht | ht
  · exact h.tasks task ht
  · rw [mem_singleton.mp ht]
    exact ⟨forall_mem_singleton.mpr hp, nofun⟩

lemma Aimed.enqueue (i : Nat) (hp : P payload.2) :
    (s.modifyTask i fun task => { task with receiver := task.receiver ++ [payload] }).Aimed P := by
  refine h.modifyTask i fun task ht => ⟨fun p hq => ?_, ht.sent⟩
  rcases mem_append.mp hq with hq | hq
  · exact ht.receiver p hq
  · rw [mem_singleton.mp hq]
    exact hp

lemma Aimed.forward (associationId : UInt16) (hp : P payload.2) :
    (s.forward associationId payload).Aimed P := by
  unfold TuicUdpDatagramRelay.forward
  cases s.associations.lookup associationId with
  | none => exact (h.spawn associationId hp).withPhase nofun
  | some i =>
    dsimp only
    cases s.tasks[i]? with
    | none => exact h
    | some task =>
      dsimp only
      split
      · exact ((h.remove associationId).spawn associationId hp).withPhase nofun
      · split
        · exact (h.enqueue i hp).withPhase nofun
        · refine ⟨h.reassembler, h.tasks, fun id p heq => ?_⟩
          cases heq
          exact hp

lemma Aimed.packet {fragment : Res TransportError TuicUdpFragment}
    (hf : ∀ f, fragment = .ok f → ∀ target ∈ f.target, P target) (now : Nat) :
    (s.packet fragment now).Aimed P := by
  cases fragment with
  | err e => exact h
  | panic => exact h.leave nofun
  | ok f =>
    obtain ⟨hre, htarget⟩ := TuicUdpReassembler.accept_aimed h.reassembler (hf f rfl) now
    have hnext : Aimed P { s with reassembler := (s.reassembler.accept f now).2 } :=
      ⟨hre, h.tasks, h.waiting⟩
    unfold TuicUdpDatagramRelay.packet
    dsimp only
    split
    · next payload hr => exact hnext.forward _ (htarget payload.1 payload.2 hr)
    · exact hnext
    · exact hnext
    · exact hnext.leave nofun

lemma Aimed.uniStream {raw : Bytes} {resolver : Resolver}
    (hf : ∀ f, decodeTuicUdpFragment resolver raw = .ok f → ∀ target ∈ f.target, P target)
    (now : Nat) : (s.uniStream raw now resolver).Aimed P := by
  unfold TuicUdpDatagramRelay.uniStream
  split
  · split
    · exact h
    · split
      · split
        · exact h.remove _
        · exact h
      · split
        · exact h.packet hf now
        · exact h
  · exact h

lemma Aimed.finish : s.finish.Aimed P := by
  refine ⟨h.reassembler, fun task ht => ?_, nofun⟩
  obtain ⟨i, hi, rfl⟩ := mem_mapIdx.mp ht
  have haimed := h.tasks s.tasks[i] (getElem_mem hi)
  split
  · exact ⟨haimed.receiver, haimed.sent⟩
  · exact haimed

end

lemma Aimed.step (h : s.Aimed (¬ P ·)) (egress : ProxyEgressPolicy) {event : TuicRelayEvent}
    (hnames : ¬ s.Names P event) : (s.step egress event).Aimed (¬ P ·) := by
  have harrives : ∀ f, s.Arrives event f → ∀ target ∈ f.target, ¬ P target :=
    fun f hf target ht hp => hnames ⟨f, target, hf, ht, hp⟩
  unfold TuicUdpDatagramRelay.step
  split
  · exact h.finish
  · exact h.finish
  · exact ⟨h.reassembler.collectGarbage _, h.tasks, h.waiting⟩
  · exact h.withPhase nofun
  · next got hphase =>
    split
    · exact h.withPhase nofun
    · exact h.withPhase nofun
    · next raw hraw =>
      have hselect : Aimed (¬ P ·) { s with phase := .select } := h.withPhase nofun
      refine hselect.uniStream (fun f hf => harrives f ?_) _
      unfold Arrives
      rw [hphase]
      exact ⟨raw, hraw, hf⟩
  · next hphase =>
    unfold TuicUdpDatagramRelay.datagram
    split
    · exact h
    · refine h.packet (fun f hf => harrives f ?_) _
      unfold Arrives
      rw [hphase]
      exact hf
  · next hphase => exact h.forward _ (h.waiting _ _ hphase)
  · exact h.leave nofun
  · exact h.modifyTask _ fun task ht => ht.step egress _ _
  · exact h

lemma sent_aimed (egress : ProxyEgressPolicy) (events : List TuicRelayEvent)
    (h : Runs.Avoids (step egress) (Names P) {} events) :
    ∀ p ∈ (Runs.run (step egress) {} events).sent, ¬ P p.1 := by
  have hstart : Aimed (¬ P ·) {} := ⟨nofun, nofun, nofun⟩
  have hend := Runs.always_of_avoids (fun s e hs hn => hs.step egress hn) events hstart h events [] (append_nil _).symm
  intro p hp
  obtain ⟨task, htask, hp⟩ := mem_flatMap.mp hp
  exact (hend.tasks task htask).sent p hp

/-- **Payloads go where fragments say**: each target that an association sent to was named by a fragment. -/
theorem sent_only_where_named (egress : ProxyEgressPolicy) (events : List TuicRelayEvent) :
    {target | ∃ payload, (target, payload) ∈ (Runs.run (step egress) {} events).sent} ⊆
      {target | ¬ Runs.Avoids (step egress) (Names (· = target)) {} events} := by
  rintro target ⟨payload, hsent⟩ havoids
  exact sent_aimed egress events havoids _ hsent rfl

end TuicUdpDatagramRelay

end Zuicity
