import Zuicity.Transport.TargetEncoders
import Zuicity.Transport.UdpDecoders

/-!
# UDP packets on a stream to a Trojan proxy (`zuicity-transport`)

A packet is a frame on the stream: target, length of the payload, `\r\n`, payload.  The reader has no
use for the line break except to check it; the length alone says where the frame ends.
-/

namespace Zuicity

open List Be16
open Reader (Takes takes_fill takes_pure PassesOn)

abbrev ProxyRecv (α : Type) := Reader UInt8 IoError TransportError α

namespace ProxyRecv

def readError (e : ReadExactError IoError) : TransportError := .io e.toIo

def readExact (n : Nat) : ProxyRecv Bytes := Reader.fill readError n

def fail {α : Type} (e : TransportError) : ProxyRecv α := Reader.lift (.err e)

def index (b : Bytes) (i : Nat) : ProxyRecv UInt8 := Reader.lift (Res.index b i)

end ProxyRecv

open ProxyRecv

def writeTrojanUdpPacketFrame (header : OwnedProxyHeader) (payload : Bytes) : Dial Unit :=
  if payload.length > u16Max then
    Dial.fail (.trojanProxy "udp packet" "UDP payload exceeds Trojan packet length")
  else do
    let frame ← Talk.lift (encodeTrojanMetadata [] header)
    Dial.writeAll (frame ++ toBeBytes (UInt16.ofNat payload.length) ++ asBytes "\r\n" ++ payload)

def readTrojanUdpPort : ProxyRecv UInt16 := do
  let port ← ProxyRecv.readExact 2
  pure (fromBeBytes (← index port 0) (← index port 1))

section
variable (lookupHost : String → UInt16 → Except IoError (List SocketAddr))

def readTrojanUdpMetadata (stage : String) : ProxyRecv SocketAddr := do
  let addressType ← ProxyRecv.readExact 1
  let value ← index addressType 0
  if value = 1 then do
    let raw ← ProxyRecv.readExact 4
    let port ← readTrojanUdpPort
    pure (SocketAddr.new (.v4 (← Reader.lift (Octets.ofSlice 4 raw))) port)
  else if value = 3 then do
    let len ← ProxyRecv.readExact 1
    let domain ← ProxyRecv.readExact (← index len 0).toNat
    let domain ← Reader.lift (fromUtf8 domain)
    let port ← readTrojanUdpPort
    Reader.lift (Machine.firstSocketAddr lookupHost domain port)
  else if value = 4 then do
    let raw ← ProxyRecv.readExact 16
    let port ← readTrojanUdpPort
    pure (SocketAddr.new (.v6 (← Reader.lift (Octets.ofSlice 16 raw))) port)
  else fail (.trojanProxy stage ("unsupported Trojan UDP metadata type " ++ toString value))

/-- what follows the length: the line break, and the payload into the front of the buffer -/
def readTrojanUdpPayload (payload : Bytes) (peer : SocketAddr) (payloadLen : Nat) :
    ProxyRecv ((SocketAddr × Nat) × Bytes) := do
  let crlf ← ProxyRecv.readExact 2
  if crlf ≠ asBytes "\r\n" then
    fail (.trojanProxy "udp response" "missing Trojan UDP packet CRLF")
  else if payloadLen > payload.length then
    fail (.trojanProxy "udp response" "Trojan UDP response exceeds receive buffer")
  else do
    let received ← ProxyRecv.readExact payloadLen
    pure ((peer, payloadLen), received ++ payload.drop payloadLen)

def readTrojanUdpPacketFrame (payload : Bytes) : ProxyRecv ((SocketAddr × Nat) × Bytes) := do
  let peer ← readTrojanUdpMetadata lookupHost "udp response"
  let payloadLen ← ProxyRecv.readExact 2
  let payloadLen := fromBeBytes (← index payloadLen 0) (← index payloadLen 1)
  readTrojanUdpPayload payload peer payloadLen.toNat

/-- so many calls of the reader with one buffer, of which each keeps its payload -/
def readTrojanUdpPacketFrames : Nat → Bytes → ProxyRecv (List (SocketAddr × Bytes))
  | 0, _ => pure []
  | n + 1, payload => do
    let ((peer, len), payload) ← readTrojanUdpPacketFrame lookupHost payload
    let frames ← readTrojanUdpPacketFrames n payload
    pure ((peer, payload.take len) :: frames)

end

/-! ## frames on the wire -/

/-- a packet to an IP address, small enough for the length field -/
structure TrojanFrame where
  ip : IpAddr
  port : UInt16
  payload : Bytes
  size : payload.length ≤ u16Max

namespace TrojanFrame

def header (f : TrojanFrame) : OwnedProxyHeader := .fromIp .udp f.ip f.port

def target (f : TrojanFrame) : SocketAddr := .new f.ip f.port

def metadata (f : TrojanFrame) : Bytes :=
  TargetEncoder.trojan.targetBytes f.header.address f.header.port

def length (f : TrojanFrame) : Bytes := toBeBytes (UInt16.ofNat f.payload.length)

def bytes (f : TrojanFrame) : Bytes := f.metadata ++ (f.length ++ (asBytes "\r\n" ++ f.payload))

lemma poll_writeTrojanUdpPacketFrame (f : TrojanFrame) (avail : Bytes) (e : StreamEnd IoError) :
    (writeTrojanUdpPacketFrame f.header f.payload).poll [] avail e = .ready (.ok ()) avail f.bytes := by
  have hfits : f.header.address.Fits := by
    unfold header
    cases f.ip <;> exact trivial
  have hencode : encodeTrojanMetadata [] f.header = .ok f.metadata :=
    TargetEncoder.encode_eq .trojan hfits []
  unfold writeTrojanUdpPacketFrame
  rw [if_neg (Nat.not_lt.mpr f.size), hencode]
  show TalkPoll.ready _ _ _ = _
  rw [nil_append, append_assoc, append_assoc]
  rfl

/-! ## reading a frame -/

lemma takes_proxyReadExact {n : Nat} {s : Bytes} (h : s.length = n) :
    Takes (ProxyRecv.readExact n) s s := takes_fill _ h

lemma takes_port (port : UInt16) : Takes readTrojanUdpPort (toBeBytes port) port := by
  refine Takes.then (takes_proxyReadExact (n := 2) rfl) ?_
  show (pure (fromBeBytes _ _) : ProxyRecv UInt16) = _
  rw [fromBeBytes_toBeBytes]

variable (lookupHost : String → UInt16 → Except IoError (List SocketAddr))

lemma takes_addr {n : Nat} (a : Octets n) (port : UInt16) (f : Octets n → IpAddr) : Takes (do
      let raw ← ProxyRecv.readExact n
      let port ← readTrojanUdpPort
      pure (SocketAddr.new (f (← Reader.lift (Octets.ofSlice n raw))) port))
      (a.octets ++ toBeBytes port) (SocketAddr.new (f a) port) := by
  refine Takes.bind (takes_proxyReadExact a.length_octets) ?_
  refine (takes_port port).then ?_
  rw [Octets.ofSlice_eq a.length_octets]
  rfl

lemma takes_metadata (stage : String) (f : TrojanFrame) :
    Takes (readTrojanUdpMetadata lookupHost stage) f.metadata f.target := by
  unfold metadata target header
  cases f.ip with
  | v4 a =>
    show Takes _ ([1] ++ (a.octets ++ toBeBytes f.port)) _
    refine Takes.bind (takes_proxyReadExact (n := 1) rfl) ?_
    exact takes_addr a f.port .v4
  | v6 a =>
    show Takes _ ([4] ++ (a.octets ++ toBeBytes f.port)) _
    refine Takes.bind (takes_proxyReadExact (n := 1) rfl) ?_
    exact takes_addr a f.port .v6

lemma poll_head (f : TrojanFrame) (payload rest : Bytes) (e : StreamEnd IoError) :
    (readTrojanUdpPacketFrame lookupHost payload).poll [] (f.metadata ++ (f.length ++ rest)) e
      = (readTrojanUdpPayload payload f.target f.payload.length).poll [] rest e := by
  unfold readTrojanUdpPacketFrame
  rw [Reader.poll_bind, takes_metadata lookupHost _ f]
  refine (Reader.poll_fill_bind _ f.length rest _ e rfl).trans ?_
  show (readTrojanUdpPayload payload f.target (fromBeBytes _ _).toNat).poll [] rest e = _
  rw [fromBeBytes_toBeBytes, toNat_ofNat_length f.payload f.size]

lemma takes_bytes (f : TrojanFrame) {payload : Bytes} (h : f.payload.length ≤ payload.length) :
    Takes (readTrojanUdpPacketFrame lookupHost payload) f.bytes
      ((f.target, f.payload.length), f.payload ++ payload.drop f.payload.length) := by
  intro rest e
  unfold bytes
  simp only [append_assoc]
  rw [poll_head]
  refine (Reader.poll_fill_bind _ (asBytes "\r\n") _ _ e rfl).trans ?_
  rw [if_neg (not_not.mpr rfl), if_neg (Nat.not_lt.mpr h)]
  exact Reader.poll_fill_bind _ f.payload rest _ e rfl

lemma poll_wrong_crlf (f : TrojanFrame) (payload rest : Bytes) {crlf : Bytes}
    (hlen : crlf.length = 2) (hcrlf : crlf ≠ asBytes "\r\n") (e : StreamEnd IoError) :
    (readTrojanUdpPacketFrame lookupHost payload).poll [] (f.metadata ++ (f.length ++ (crlf ++ rest))) e
      = .ready (.err (.trojanProxy "udp response" "missing Trojan UDP packet CRLF")) rest := by
  rw [poll_head]
  refine (Reader.poll_fill_bind _ crlf rest _ e hlen).trans ?_
  rw [if_pos hcrlf]
  rfl

end TrojanFrame

/-! ## a stream that breaks off -/

variable (lookupHost : String → UInt16 → Except IoError (List SocketAddr))

lemma passesOn_readExact_bind {α : Type} (n : Nat) {f : Bytes → ProxyRecv α}
    (hf : ∀ b, PassesOn readError (f b)) :
    PassesOn readError (ProxyRecv.readExact n >>= f) :=
  (PassesOn.fill n).bind hf

lemma passesOn_index_bind {α : Type} (b : Bytes) (i : Nat) {f : UInt8 → ProxyRecv α}
    (hf : ∀ x, PassesOn readError (f x)) :
    PassesOn readError (index b i >>= f) :=
  (PassesOn.done _).bind hf

lemma passesOn_port : PassesOn readError readTrojanUdpPort :=
  passesOn_readExact_bind 2 fun _ => passesOn_index_bind _ _ fun _ => passesOn_index_bind _ _ fun _ =>
    .done _

lemma passesOn_metadata (stage : String) :
    PassesOn readError (readTrojanUdpMetadata lookupHost stage) := by
  refine passesOn_readExact_bind 1 fun addressType => passesOn_index_bind _ _ fun value => ?_
  split
  · exact passesOn_readExact_bind 4 fun raw => passesOn_port.bind fun port =>
      (PassesOn.done _).bind fun _ => .done _
  split
  · refine passesOn_readExact_bind 1 fun len => passesOn_index_bind _ _ fun n => ?_
    exact passesOn_readExact_bind _ fun domain => (PassesOn.done _).bind fun domain =>
      passesOn_port.bind fun port => .done _
  split
  · exact passesOn_readExact_bind 16 fun raw => passesOn_port.bind fun port =>
      (PassesOn.done _).bind fun _ => .done _
  · exact .done _

lemma passesOn_frame (payload : Bytes) :
    PassesOn readError (readTrojanUdpPacketFrame lookupHost payload) := by
  refine (passesOn_metadata lookupHost _).bind fun peer => passesOn_readExact_bind 2 fun len =>
    passesOn_index_bind _ _ fun hi => passesOn_index_bind _ _ fun lo =>
      passesOn_readExact_bind 2 fun crlf => ?_
  split
  · exact .done _
  split
  · exact .done _
  · exact passesOn_readExact_bind _ fun received => .done _

lemma TrojanFrame.takes_frames (fs : List TrojanFrame) : ∀ {payload : Bytes}, payload.length = u16Max →
      Takes (readTrojanUdpPacketFrames lookupHost fs.length payload) (fs.flatMap bytes)
        (fs.map fun f => (f.target, f.payload)) := by
  induction fs with
  | nil => exact fun _ => takes_pure _
  | cons f fs ih =>
    intro payload hlen
    have hsize : f.payload.length ≤ payload.length := hlen ▸ f.size
    have hbuffer : (f.payload ++ payload.drop f.payload.length).length = u16Max := by
      rw [length_append, length_drop]
      omega
    rw [flatMap_cons]
    refine (f.takes_bytes lookupHost hsize).bind ((ih hbuffer).then ?_)
    rw [take_left]
    rfl

/-- **Trojan UDP frames** are read back one by one, in whatever pieces.  A frame without its line break, or cut
off, is an error. -/
theorem trojan_frames_round_trip : (∀ (f : TrojanFrame) (avail : Bytes) (e : StreamEnd IoError),
      (writeTrojanUdpPacketFrame f.header f.payload).poll [] avail e = .ready (.ok ()) avail f.bytes) ∧
    ∀ payload : Bytes, payload.length = 65535 →
      (∀ (fs : List TrojanFrame) (pieces : List Bytes) (tail : Bytes) (e : StreamEnd IoError),
        pieces.flatten = fs.flatMap TrojanFrame.bytes ++ tail →
        (readTrojanUdpPacketFrames lookupHost fs.length payload).drive [] pieces e
          = .ready (.ok (fs.map fun f => (f.target, f.payload))) tail) ∧
      ∀ f : TrojanFrame, (∀ (pieces : List Bytes) (rest : Bytes) (e : StreamEnd IoError),
          pieces.flatten = f.bytes ++ rest →
          ∃ payload', payload'.length = 65535 ∧ payload'.take f.payload.length = f.payload ∧
            (readTrojanUdpPacketFrame lookupHost payload).drive [] pieces e
              = .ready (.ok ((f.target, f.payload.length), payload')) rest) ∧
        (∀ (crlf rest : Bytes) (pieces : List Bytes) (e : StreamEnd IoError),
          crlf.length = 2 → crlf ≠ asBytes "\r\n" →
          pieces.flatten = f.metadata ++ (f.length ++ (crlf ++ rest)) →
          (readTrojanUdpPacketFrame lookupHost payload).drive [] pieces e
            = .ready (.err (.trojanProxy "udp response" "missing Trojan UDP packet CRLF")) rest) ∧
        ∀ (pieces : List Bytes) (missing : Bytes), missing ≠ [] → pieces.flatten ++ missing = f.bytes →
          (readTrojanUdpPacketFrame lookupHost payload).drive [] pieces .fin
            = .ready (.err (.io (.custom .unexpectedEof "early eof"))) [] ∧
          ∀ x, (readTrojanUdpPacketFrame lookupHost payload).drive [] pieces (.failed x)
            = .ready (.err (.io x)) [] := by
  refine ⟨TrojanFrame.poll_writeTrojanUdpPacketFrame, fun payload hlen => ⟨?_, fun f => ?_⟩⟩
  · intro fs pieces tail e hpieces
    rw [Reader.drive_eq, hpieces]
    exact TrojanFrame.takes_frames lookupHost fs hlen tail e
  have hsize : f.payload.length ≤ payload.length := hlen ▸ f.size
  have htakes := f.takes_bytes lookupHost hsize
  refine ⟨?_, ?_, ?_⟩
  · intro pieces rest e hpieces
    rw [Reader.drive_eq, hpieces]
    refine ⟨_, ?_, take_left, htakes rest e⟩
    rw [length_append, length_drop]
    omega
  · intro crlf rest pieces e hcrlf hwrong hpieces
    rw [Reader.drive_eq, hpieces]
    exact f.poll_wrong_crlf lookupHost payload rest hcrlf hwrong e
  · intro pieces missing hmissing hpieces
    -- the whole frame would be taken, so the reader waits before its end
    have hall := htakes [] .open
    rw [append_nil, ← hpieces] at hall
    obtain ⟨q, qbuf, hpending⟩ := Reader.exists_pending_of_append hall hmissing
    simp only [Reader.drive_eq]
    exact (passesOn_frame lookupHost payload).poll_fin hpending

theorem trojan_frames_round_trip_two :
    let f : TrojanFrame := ⟨.v4 (.new 127 0 0 1), 53, [13, 10], by decide⟩
    let g : TrojanFrame := ⟨.v4 (.new 127 0 0 1), 54, [], by decide⟩
    (readTrojanUdpPacketFrames (fun _ _ => .ok []) 2 (List.replicate 65535 0)).drive []
        [f.bytes, g.bytes, [1]] .fin
      = .ready (.ok [(f.target, [13, 10]), (g.target, [])]) [1] := by
  intro f g
  refine ((trojan_frames_round_trip (fun _ _ => .ok [])).2 _ length_replicate).1 [f, g] _ [1] .fin ?_
  simp

end Zuicity
