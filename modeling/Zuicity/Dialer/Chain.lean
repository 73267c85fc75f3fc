import Zuicity.Dialer.Connect

/-!
# What a chain of links does (`connect_tcp_proxy_target_via_dialer_chain`)

A run of the dialer is the list of its calls, with what the system and the proxies answer.
-/

namespace Zuicity

open List Proc

abbrev NetCalls := List ((q : NetCall) × q.Answer)

abbrev Dialed := ProcRun NetCall NetCall.Answer TransportError TcpProxyTargetStream

/-! ## what the calls are about -/

section
variable (calls : NetCalls)

def dialed : List SocketAddr :=
  calls.filterMap fun c => match c with
    | ⟨.connectTcp target _, _⟩ => some target
    | _ => none

def opened : List SocketAddr :=
  calls.filterMap fun c => match c with
    | ⟨.connectTcp target _, .ok ()⟩ => some target
    | _ => none

/-- the proxies that were asked for a target, with the targets -/
def requests : List (ProxyDialerLink × OwnedProxyHeader) :=
  calls.filterMap fun c => match c with
    | ⟨.request link header, _⟩ => some (link, header)
    | _ => none

variable (calls more : NetCalls)

lemma dialed_append : dialed (calls ++ more) = dialed calls ++ dialed more := filterMap_append

lemma opened_append : opened (calls ++ more) = opened calls ++ opened more := filterMap_append

lemma requests_append : requests (calls ++ more) = requests calls ++ requests more := filterMap_append

lemma opened_sublist_dialed : (opened calls).Sublist (dialed calls) := by
  induction calls with
  | nil => exact List.Sublist.refl _
  | cons c calls ih =>
    obtain ⟨q, a⟩ := c
    cases q with
    | connectTcp target egress =>
      cases a with
      | ok u => exact ih.cons_cons target
      | error e => exact ih.cons target
    | _ => exact ih

end

lemma opened_eq_nil {calls : NetCalls} (h : dialed calls = []) : opened calls = [] :=
  sublist_nil.mp (h ▸ opened_sublist_dialed calls)

def NetCall.isTcp : NetCall → Bool
  | .lookupHost _ _ | .connectTcp _ _ | .plain _ | .timeout _ | .tls _ | .request _ _ => true
  | _ => false

def ProxyDialerLink.isTcpCapable : ProxyDialerLink → Bool
  | .httpConnect _ | .socks5 _ | .shadowsocks _ | .shadowsocksR _ | .trojan _ | .vmess _ | .vless _ =>
    true
  | .juicity _ | .tuic _ | .hysteria2 _ | .chain _ => false

lemma ProxyDialerLink.endpoint_of_isTcpCapable {link : ProxyDialerLink}
    (h : link.isTcpCapable = true) : ∃ host port, link.endpoint = some (host, port) := by
  cases link with
  | httpConnect link | socks5 link | shadowsocks link | shadowsocksR link | trojan link | vmess link
  | vless link => exact ⟨_, _, rfl⟩
  | juicity link | tuic link | hysteria2 link | chain links => cases h

section
variable (answer : Nat → (q : NetCall) → q.Answer)

/-! ## the socket -/

/-- a run of the loop over the addresses of a proxy, in which no proxy is asked for anything -/
structure SocketRan (targets : List SocketAddr) (ran : Dialed) : Prop where
  dialed_mem : ∀ target ∈ dialed ran.calls, target ∈ targets
  noRequest : requests ran.calls = []
  returned : ((opened ran.calls).length ≤ 1 ∧ ∃ e, ran.result = .err e) ∨
    ∃ stream, ran.result = .ok stream ∧ opened ran.calls = [stream.socket] ∧ stream.route = []

variable {targets : List SocketAddr} {ran : Dialed} {link last : ProxyDialerLink} {host : String}
  {port : UInt16} {calls : NetCalls}

lemma SocketRan.cons {target : SocketAddr} (h : SocketRan targets ran) :
    SocketRan (target :: targets) ran :=
  ⟨fun t ht => mem_cons_of_mem _ (h.dialed_mem t ht), h.noRequest, h.returned⟩

lemma SocketRan.refused {target : SocketAddr} (h : SocketRan targets ran) (egress : ProxyEgressPolicy)
    (e : IoError) :
    SocketRan (target :: targets) ⟨⟨.connectTcp target egress, .error e⟩ :: ran.calls, ran.result⟩ := by
  refine ⟨fun t ht => ?_, h.noRequest, h.returned⟩
  rcases mem_cons.mp ht with rfl | ht
  · exact mem_cons_self
  · exact mem_cons_of_mem _ (h.dialed_mem t ht)

variable (egress : ProxyEgressPolicy)

lemma run_dialTcp_pure (target : SocketAddr) (n : Nat) : (∃ e, (dialTcp egress pure target).run answer n
      = ⟨[⟨.connectTcp target egress, .error e⟩], .ok (.error (.io e))⟩) ∨
    (∃ e, (dialTcp egress pure target).run answer n
      = ⟨[⟨.connectTcp target egress, .ok ()⟩, ⟨.plain target, .error e⟩], .err (.io e)⟩) ∨
    ∃ peerAddr, (dialTcp egress pure target).run answer n
      = ⟨[⟨.connectTcp target egress, .ok ()⟩, ⟨.plain target, .ok peerAddr⟩],
        .ok (.ok ⟨target, peerAddr, []⟩)⟩ := by
  unfold dialTcp Net.connectTcp
  rw [run_ask_bind]
  cases answer n (.connectTcp target egress) with
  | error e => exact .inl ⟨e, rfl⟩
  | ok u =>
    refine .inr ?_
    dsimp only
    rw [run_ask_bind]
    cases answer (n + 1) (.plain target) with
    | error e => exact .inl ⟨e, rfl⟩
    | ok peerAddr => exact .inr ⟨peerAddr, rfl⟩

lemma run_firstUsable (skip : SocketAddr → Bool)
    (noTarget : TransportError) (targets : List SocketAddr) :
    ∀ (n : Nat) (lastError : Option TransportError), SocketRan targets
      ((firstUsable skip noTarget (dialTcp egress pure) lastError targets).run answer n) := by
  induction targets with
  | nil =>
    intro n lastError
    cases lastError <;>
      exact ⟨fun t ht => absurd ht not_mem_nil, rfl, .inl ⟨Nat.zero_le 1, _, rfl⟩⟩
  | cons target targets ih =>
    intro n lastError
    rw [firstUsable]
    split
    · exact (ih n lastError).cons
    · rcases run_dialTcp_pure answer egress target n with
        ⟨e, h⟩ | ⟨e, h⟩ | ⟨peerAddr, h⟩
      · rw [run_bind_ok _ _ n (congrArg ProcRun.result h), h]
        exact (ih _ _).refused egress e
      · rw [run_bind_err _ _ n (congrArg ProcRun.result h), h]
        exact ⟨fun t ht => mem_cons.mpr (.inl (mem_singleton.mp ht)), rfl,
          .inl ⟨Nat.le_refl 1, _, rfl⟩⟩
      · rw [run_bind_ok _ _ n (congrArg ProcRun.result h), h]
        exact ⟨fun t ht => mem_cons.mpr (.inl (mem_singleton.mp ht)), rfl,
          .inr ⟨_, rfl, rfl, rfl⟩⟩

/-! ## the requests -/

variable (stream : TcpProxyTargetStream)

structure LinkRan (header : OwnedProxyHeader) (link : ProxyDialerLink) (ran : Dialed) : Prop where
  noSocket : dialed ran.calls = []
  asked : requests ran.calls = [] ∨ requests ran.calls = [(link, header)]
  returned : (∃ e, ran.result = .err e) ∨
    ran.result = .ok { stream with route := stream.route ++ [(link, header)] } ∧
      requests ran.calls = [(link, header)] ∧ link.isTcpCapable = true

section
variable (header : OwnedProxyHeader) (h : link.isTcpCapable = true) (n : Nat)
include header h

lemma run_request : LinkRan stream header link ((request link header stream).run answer n) := by
  unfold request
  rw [run_ask_bind]
  cases answer n (.request link header) with
  | error e => exact ⟨rfl, .inr rfl, .inl ⟨e, rfl⟩⟩
  | ok u => exact ⟨rfl, .inr rfl, .inr ⟨rfl, rfl, h⟩⟩

lemma run_tls_request : LinkRan stream header link
      ((tls link stream >>= fun stream => request link header stream).run answer n) := by
  cases htls : answer n (.tls link) with
  | error e =>
    have hrun : (tls link stream).run answer n = ⟨[⟨.tls link, .error e⟩], .err e⟩ := by
      unfold tls
      rw [run_ask_bind, htls]
      rfl
    rw [run_bind_err _ _ n (congrArg ProcRun.result hrun), hrun]
    exact ⟨rfl, .inl rfl, .inl ⟨e, rfl⟩⟩
  | ok u =>
    have hrun : (tls link stream).run answer n = ⟨[⟨.tls link, .ok u⟩], .ok stream⟩ := by
      unfold tls
      rw [run_ask_bind, htls]
      rfl
    rw [run_bind_ok _ _ n (congrArg ProcRun.result hrun), hrun]
    obtain ⟨hdialed, hrequests, hreturned⟩ := run_request answer stream header h (n + 1)
    exact ⟨hdialed, hrequests, hreturned⟩

end

lemma run_connectTcpDialerLink (header : OwnedProxyHeader) (link : ProxyDialerLink) (n : Nat) :
    LinkRan stream header link ((connectTcpDialerLink stream header link).run answer n) := by
  unfold connectTcpDialerLink
  cases link with
  | httpConnect link =>
    dsimp only
    unfold connectHttpConnectTlsIfNeeded
    split
    · exact run_tls_request answer stream header rfl n
    · exact run_request answer stream header rfl n
  | trojan link => exact run_tls_request answer stream header rfl n
  | socks5 link | shadowsocks link | shadowsocksR link | vmess link | vless link =>
    exact run_request answer stream header rfl n
  | juicity link | tuic link | hysteria2 link | chain links =>
    exact ⟨rfl, .inl rfl, .inl ⟨_, rfl⟩⟩

variable (texts : TextParsers) (header : OwnedProxyHeader) (links : List ProxyDialerLink)

/-- link `i` and what its proxy is to be asked for: the endpoint of the link before, or the target -/
def Hop (i : Nat) (hop : ProxyDialerLink × OwnedProxyHeader) : Prop :=
  links[i]? = some hop.1 ∧ (i = 0 → hop.2 = header) ∧
    ∀ j, i = j + 1 → ∃ previous host port, links[j]? = some previous ∧
      previous.endpoint = some (host, port) ∧ hop.2 = proxyEndpointHeader texts .tcp host port

lemma dialerLinkEndpointHeader_some (h : link.endpoint = some (host, port)) :
    dialerLinkEndpointHeader texts link = .ok (proxyEndpointHeader texts .tcp host port) := by
  unfold dialerLinkEndpointHeader dialerLinkEndpoint
  rw [h]
  rfl

lemma dialerLinkEndpointHeader_none (h : link.endpoint = none) :
    ∃ e, dialerLinkEndpointHeader texts link = .err e := by
  unfold dialerLinkEndpointHeader dialerLinkEndpoint
  rw [h]
  exact ⟨_, rfl⟩

lemma hopTarget_cases {i : Nat} (h : links[i]? = some link) :
    (∃ e, hopTarget texts header links i = .err e) ∨
      ∃ target, hopTarget texts header links i = .ok target ∧
        Hop texts header links i (link, target) := by
  unfold hopTarget
  cases i with
  | zero => exact .inr ⟨header, rfl, h, fun _ => rfl, fun j hj => absurd hj (Nat.succ_ne_zero j).symm⟩
  | succ j =>
    have hlt : j + 1 < links.length := (List.getElem?_eq_some_iff.mp h).1
    have hprevious : links[j]? = some links[j] := getElem?_eq_getElem (by omega)
    rw [if_neg (Nat.succ_ne_zero j), Nat.add_sub_cancel, Res.index, hprevious, Res.expect_some,
      Res.ok_bind]
    cases hendpoint : links[j].endpoint with
    | none => exact .inl (dialerLinkEndpointHeader_none texts hendpoint)
    | some endpoint =>
      refine .inr ⟨_, dialerLinkEndpointHeader_some texts hendpoint, h,
        fun h0 => absurd h0 (Nat.succ_ne_zero j), fun k hk => ?_⟩
      obtain rfl : j = k := Nat.succ.inj hk
      exact ⟨links[j], endpoint.1, endpoint.2, hprevious, hendpoint, rfl⟩

variable (index : Nat)

def HopsDown (hops : List (ProxyDialerLink × OwnedProxyHeader)) : Prop :=
  ∀ k i hop, hops[k]? = some hop → i + k + 1 = index → Hop texts header links i hop

/-- a run of the loop over the links, down from the one before `index` -/
structure HopsRan (stream : TcpProxyTargetStream) (ran : Dialed) : Prop where
  noSocket : dialed ran.calls = []
  length_le : (requests ran.calls).length ≤ index
  hops : HopsDown texts header links index (requests ran.calls)
  returned : (∃ e, ran.result = .err e) ∨ ∃ last, ran.result = .ok last ∧
    (requests ran.calls).length = index ∧ last.socket = stream.socket ∧
    last.route = stream.route ++ requests ran.calls ∧
    ∀ i link, i < index → links[i]? = some link → link.isTcpCapable = true

/-- The calls of a chain whose last link is at `host` and `port`: sockets to an address of this name, one of them
connected at most; then the requests. -/
structure ChainCalls (host : String) (port : UInt16) (calls : NetCalls) : Prop where
  resolved : ∀ before target egress a after, calls = before ++ ⟨.connectTcp target egress, a⟩ :: after →
    ∃ addresses, ⟨.lookupHost host port, .ok addresses⟩ ∈ before ∧ target ∈ addresses
  only : (opened calls).length ≤ 1
  order : ∃ before after, calls = before ++ after ∧ requests before = [] ∧ dialed after = []
  length_le : (requests calls).length ≤ links.length
  hops : HopsDown texts header links links.length (requests calls)

structure ChainDialed (ran : Dialed) : Prop where
  calls : ∃ last host port, links.getLast? = some last ∧ last.endpoint = some (host, port) ∧
    ChainCalls texts header links host port ran.calls
  returned : (∃ e, ran.result = .err e) ∨ ∃ stream, ran.result = .ok stream ∧
    opened ran.calls = [stream.socket] ∧ (requests ran.calls).length = links.length ∧
    stream.route = requests ran.calls

variable {texts header links}

lemma HopsDown.nil : HopsDown texts header links index [] := by
  intro k i hop hk
  cases hk

lemma HopsDown.cons {index : Nat} {hop : ProxyDialerLink × OwnedProxyHeader}
    {hops : List (ProxyDialerLink × OwnedProxyHeader)} (hhop : Hop texts header links index hop)
    (hhops : HopsDown texts header links index hops) :
    HopsDown texts header links (index + 1) (hop :: hops) := by
  intro k i hop' hk hi
  cases k with
  | zero =>
    obtain rfl : hop = hop' := Option.some.inj hk
    obtain rfl : i = index := Nat.succ.inj hi
    exact hhop
  | succ k => exact hhops k i hop' hk (by omega)

lemma run_connectHops : ∀ (n : Nat) (stream : TcpProxyTargetStream),
    index ≤ links.length → HopsRan texts header links index stream
      ((connectHops texts header links index stream).run answer n) := by
  induction index with
  | zero =>
    intro n stream _
    exact ⟨rfl, Nat.le_refl 0, .nil 0, .inr ⟨stream, rfl, rfl, rfl,
      (append_nil _).symm, fun i link hi => absurd hi (Nat.not_lt_zero i)⟩⟩
  | succ index ih =>
    intro n stream hle
    have hlink : links[index]? = some links[index] := getElem?_eq_getElem hle
    rw [connectHops]
    rcases hopTarget_cases texts header links hlink with ⟨e, he⟩ | ⟨target, htarget, hhop⟩
    · rw [he]
      exact ⟨rfl, Nat.zero_le _, .nil _, .inl ⟨e, rfl⟩⟩
    · rw [htarget, Res.index, hlink]
      show HopsRan texts header links (index + 1) stream
        ((connectTcpDialerLink stream target links[index] >>= connectHops texts header links index).run
          answer n)
      obtain ⟨hsocket, hasked, hreturned⟩ :=
        run_connectTcpDialerLink answer stream target links[index] n
      rcases hreturned with ⟨e, he⟩ | ⟨hok, hrequest, hcapable⟩
      · rw [run_bind_err _ _ n he]
        rcases hasked with hnone | hone
        · exact ⟨hsocket, by rw [hnone]; exact Nat.zero_le _,
            by rw [hnone]; exact .nil _, .inl ⟨e, rfl⟩⟩
        · exact ⟨hsocket, by rw [hone]; exact Nat.succ_le_succ (Nat.zero_le _),
            by rw [hone]; exact .cons hhop (.nil _), .inl ⟨e, rfl⟩⟩
      · rw [run_bind_ok _ _ n hok]
        obtain ⟨hsocket', hlength, hhops, hreturned⟩ := ih
          (n + ((connectTcpDialerLink stream target links[index]).run answer n).calls.length)
          { stream with route := stream.route ++ [(links[index], target)] } (by omega)
        refine ⟨by rw [dialed_append, hsocket, hsocket']; rfl, ?_, ?_, hreturned.imp id ?_⟩
        · rw [requests_append, hrequest]
          exact Nat.succ_le_succ hlength
        · rw [requests_append, hrequest]
          exact .cons hhop hhops
        · rintro ⟨last, hlast, hcount, hsame, hroute, hcapables⟩
          rw [requests_append, hrequest]
          refine ⟨last, hlast, congrArg Nat.succ hcount, hsame, ?_, fun i link hi hl => ?_⟩
          · rw [hroute, append_assoc]
          · rcases Nat.lt_succ_iff_lt_or_eq.mp hi with hi | rfl
            · exact hcapables i link hi hl
            · rw [hlink] at hl
              exact Option.some.inj hl ▸ hcapable

lemma HopsDown.of_prefix {index : Nat} {hops more : List (ProxyDialerLink × OwnedProxyHeader)}
    (h : HopsDown texts header links index more) (hfirst : hops <+: more) :
    HopsDown texts header links index hops := by
  intro k i hop hk
  obtain ⟨rest, rfl⟩ := hfirst
  exact h k i hop (List.getElem?_append_left (List.getElem?_eq_some_iff.mp hk).1 ▸ hk)

/-! ## the whole chain -/

lemma ChainCalls.of_prefix {more : NetCalls} (h : ChainCalls texts header links host port more)
    (hfirst : calls <+: more) : ChainCalls texts header links host port calls := by
  have hrequests : requests calls <+: requests more := hfirst.filterMap _
  have hopened : opened calls <+: opened more := hfirst.filterMap _
  refine ⟨?_, hopened.length_le.trans h.only, ?_, hrequests.length_le.trans h.length_le,
    h.hops.of_prefix hrequests⟩
  · rintro before target egress a after rfl
    obtain ⟨rest, rfl⟩ := hfirst
    exact h.resolved before target egress a (after ++ rest) (by rw [append_assoc]; rfl)
  · obtain ⟨before, after, rfl, hbefore, hafter⟩ := h.order
    obtain ⟨rest, hrest⟩ := hfirst
    rcases append_eq_append_iff.mp hrest with ⟨later, rfl, -⟩ | ⟨first, rfl, rfl⟩
    · rw [requests_append] at hbefore
      exact ⟨calls, [], (append_nil _).symm, (append_eq_nil_iff.mp hbefore).1, rfl⟩
    · rw [dialed_append] at hafter
      exact ⟨before, first, rfl, hbefore, (append_eq_nil_iff.mp hafter).1⟩

variable (egress : ProxyEgressPolicy)

lemma run_connectTcpVia (host : String) (port : UInt16) (n : Nat) :
    (∃ e, (connectTcpVia egress .noUsableTcpTarget host port pure).run answer n
      = ⟨[⟨.lookupHost host port, .error e⟩], .err (.io e)⟩) ∨
    ∃ targets ran, SocketRan targets ran ∧
      (connectTcpVia egress .noUsableTcpTarget host port pure).run answer n
        = ⟨⟨.lookupHost host port, .ok targets⟩ :: ran.calls, ran.result⟩ := by
  unfold connectTcpVia
  cases hlookup : answer n (.lookupHost host port) with
  | error e =>
    have hrun : (Net.lookupHost host port).run answer n
        = ⟨[⟨.lookupHost host port, .error e⟩], .err (.io e)⟩ := by
      unfold Net.lookupHost
      rw [run_ask_bind, hlookup]
      rfl
    rw [run_bind_err _ _ n (congrArg ProcRun.result hrun), hrun]
    exact .inl ⟨e, rfl⟩
  | ok targets =>
    have hrun : (Net.lookupHost host port).run answer n
        = ⟨[⟨.lookupHost host port, .ok targets⟩], .ok targets⟩ := by
      unfold Net.lookupHost
      rw [run_ask_bind, hlookup]
      rfl
    rw [run_bind_ok _ _ n (congrArg ProcRun.result hrun), hrun]
    exact .inr ⟨targets, _, run_firstUsable answer egress _ _ targets _ none, rfl⟩

lemma ChainCalls.of_parts {more : NetCalls} (hdialed : ∀ target ∈ dialed calls, target ∈ targets)
    (hnone : requests calls = []) (honly : (opened calls).length ≤ 1) (hsocket : dialed more = [])
    (hlength : (requests more).length ≤ links.length)
    (hhops : HopsDown texts header links links.length (requests more)) :
    ChainCalls texts header links host port
      (⟨.lookupHost host port, .ok targets⟩ :: calls ++ more) := by
  have hrequests : requests (⟨.lookupHost host port, .ok targets⟩ :: calls ++ more)
      = requests more := by
    rw [requests_append]
    show requests calls ++ requests more = requests more
    rw [hnone, nil_append]
  refine ⟨?_, ?_, ⟨_, more, rfl, hnone, hsocket⟩, hrequests ▸ hlength, hrequests ▸ hhops⟩
  · intro before target egress a after heq
    cases before with
    | nil => cases heq
    | cons first before =>
      obtain ⟨rfl, htail⟩ := List.cons.inj heq
      refine ⟨targets, mem_cons_self, hdialed target ?_⟩
      have hmem : target ∈ dialed (calls ++ more) := by
        have htail : calls ++ more = before ++ ⟨.connectTcp target egress, a⟩ :: after := htail
        rw [htail, dialed_append]
        exact mem_append_right _ mem_cons_self
      rwa [dialed_append, hsocket, append_nil] at hmem
  · rw [opened_append, opened_eq_nil hsocket, append_nil]
    exact honly

lemma ChainCalls.timed (h : ChainCalls texts header links host port calls) (duration : Nat)
    (elapsed : Option Nat) :
    ChainCalls texts header links host port (⟨.timeout duration, elapsed⟩ :: calls) := by
  refine ⟨?_, h.only, ?_, h.length_le, h.hops⟩
  · intro before target egress a after heq
    cases before with
    | nil => cases heq
    | cons first before =>
      obtain ⟨addresses, hmem, htarget⟩ :=
        h.resolved before target egress a after (List.cons.inj heq).2
      exact ⟨addresses, mem_cons_of_mem _ hmem, htarget⟩
  · obtain ⟨before, after, rfl, hbefore, hafter⟩ := h.order
    exact ⟨⟨.timeout duration, elapsed⟩ :: before, after, rfl, hbefore, hafter⟩

lemma run_parts (hlast : links.getLast? = some last) (hendpoint : last.endpoint = some (host, port))
    {socket hops : Dialed} (hsocket : SocketRan targets socket) {stream : TcpProxyTargetStream}
    (hopened : opened socket.calls = [stream.socket]) (hroute : stream.route = [])
    (hhops : HopsRan texts header links links.length stream hops) :
    ChainDialed texts header links
        ⟨⟨.lookupHost host port, .ok targets⟩ :: socket.calls ++ hops.calls, hops.result⟩ ∧
      ∀ stream, hops.result = .ok stream → ∀ link ∈ links, link.isTcpCapable = true := by
  have hrequests : requests (⟨.lookupHost host port, .ok targets⟩ :: socket.calls ++ hops.calls)
      = requests hops.calls := by
    rw [requests_append]
    show requests socket.calls ++ requests hops.calls = requests hops.calls
    rw [hsocket.noRequest, nil_append]
  refine ⟨⟨⟨last, host, port, hlast, hendpoint, .of_parts hsocket.dialed_mem
    hsocket.noRequest (by rw [hopened]; exact Nat.le_refl 1) hhops.noSocket hhops.length_le
    hhops.hops⟩, hhops.returned.imp id ?_⟩, fun final hfinal link hlink => ?_⟩
  · rintro ⟨final, hfinal, hcount, hsame, hfinalRoute, -⟩
    refine ⟨final, hfinal, ?_, hrequests ▸ hcount, ?_⟩
    · rw [opened_append, opened_eq_nil hhops.noSocket, append_nil, hsame]
      exact hopened
    · rw [hfinalRoute, hroute, nil_append, hrequests]
  · rcases hhops.returned with ⟨e, he⟩ | ⟨final', -, -, -, -, hcapable⟩
    · rw [he] at hfinal
      cases hfinal
    · obtain ⟨i, hi⟩ := mem_iff_getElem?.mp hlink
      exact hcapable i link (List.getElem?_eq_some_iff.mp hi).1 hi

lemma connectTcpSocketToDialerLink_eq (h : link.endpoint = some (host, port)) :
    connectTcpSocketToDialerLink egress link
      = connectTcpVia egress .noUsableTcpTarget host port pure := by
  unfold connectTcpSocketToDialerLink dialerLinkEndpoint
  rw [h]
  rfl

variable (texts header links)

/-- **A run without a timer**: what it does, and that it fails unless every link works over TCP. -/
lemma run_inner (hlast : links.getLast? = some last)
    (hendpoint : last.endpoint = some (host, port)) (n : Nat)
    (hran : (connectTcpProxyTargetViaDialerChainInner texts header egress links).run answer n = ran) :
    ChainDialed texts header links ran ∧
      ∀ stream, ran.result = .ok stream → ∀ link ∈ links, link.isTcpCapable = true := by
  have hinner : connectTcpProxyTargetViaDialerChainInner texts header egress links
      = connectTcpVia egress .noUsableTcpTarget host port pure
        >>= connectHops texts header links links.length := by
    unfold connectTcpProxyTargetViaDialerChainInner
    rw [hlast]
    dsimp only
    rw [connectTcpSocketToDialerLink_eq egress hendpoint]
  have hfailed : ∀ {calls : NetCalls} {e : TransportError},
      ChainCalls texts header links host port calls → ChainDialed texts header links ⟨calls, .err e⟩ ∧
        ∀ stream, (.err e : Res TransportError TcpProxyTargetStream) = .ok stream →
          ∀ link ∈ links, link.isTcpCapable = true := by
    intro calls e hcalls
    refine ⟨⟨⟨last, host, port, hlast, hendpoint, hcalls⟩, .inl ⟨e, rfl⟩⟩, fun stream hs => ?_⟩
    cases hs
  rw [hinner] at hran
  subst hran
  rcases run_connectTcpVia answer egress host port n with ⟨e, h⟩ | ⟨targets, socket, hsocket, h⟩
  · rw [run_bind_err _ _ n (congrArg ProcRun.result h), h]
    -- nothing but the lookup
    refine hfailed ⟨?_, Nat.zero_le 1, ⟨[⟨.lookupHost host port, .error e⟩], [], rfl, rfl, rfl⟩,
      Nat.zero_le _, .nil _⟩
    intro before target egress a after heq
    cases before with
    | nil => cases heq
    | cons first before => exact absurd (List.cons.inj heq).2 (by simp)
  · rcases hsocket.returned with ⟨honly, e, he⟩ | ⟨stream, hok, hopened, hroute⟩
    · rw [run_bind_err _ _ n ((congrArg ProcRun.result h).trans he), h]
      have hparts : ChainCalls texts header links host port
          (⟨.lookupHost host port, .ok targets⟩ :: socket.calls ++ []) :=
        .of_parts hsocket.dialed_mem hsocket.noRequest honly rfl (Nat.zero_le _)
          (.nil _)
      rw [append_nil] at hparts
      exact hfailed hparts
    · rw [run_bind_ok _ _ n ((congrArg ProcRun.result h).trans hok), h]
      exact run_parts hlast hendpoint hsocket hopened hroute
        (run_connectHops answer links.length _ stream (Nat.le_refl _))

lemma run_timed (duration : Nat) (setup : Net TcpProxyTargetStream) (n : Nat) :
    ∃ elapsed cut, (socks5SetupWithTimeout duration setup).run answer n
        = ⟨⟨.timeout duration, elapsed⟩ :: cut.calls, cut.result⟩ ∧
      cut.calls <+: (setup.run answer (n + 1)).calls ∧
      ((∃ e, cut.result = .err e) ∨ cut = setup.run answer (n + 1)) := by
  obtain ⟨hcalls, hresult⟩ := run_cut answer (.socks5SetupTimedOut duration)
    (answer n (.timeout duration)) setup (n + 1)
  exact ⟨_, _, rfl, hcalls, hresult.imp (fun h => ⟨_, h⟩) id⟩

lemma run_dialer_chain (hlast : links.getLast? = some last)
    (hendpoint : last.endpoint = some (host, port)) (n : Nat) :
    ChainDialed texts header links
      ((connectTcpProxyTargetViaDialerChain texts header egress links).run answer n) := by
  unfold connectTcpProxyTargetViaDialerChain
  split
  · obtain ⟨elapsed, cut, hrun, hfirst, hcut⟩ := run_timed answer socks5SetupTimeout
      (connectTcpProxyTargetViaDialerChainInner texts header egress links) n
    obtain ⟨⟨⟨last', host', port', hlast', hendpoint', hcalls⟩, hreturned⟩, -⟩ :=
      run_inner answer texts header links egress hlast hendpoint (n + 1) rfl
    rw [hrun]
    refine ⟨⟨last', host', port', hlast', hendpoint',
      (hcalls.of_prefix hfirst).timed _ _⟩, ?_⟩
    rcases hcut with hfailed | rfl
    · exact .inl hfailed
    · exact hreturned
  · exact (run_inner answer texts header links egress hlast hendpoint n rfl).1

variable (hlink : link ∈ links) (h : link.isTcpCapable = false) (n : Nat)
include hlink h

lemma run_inner_err :
    ∃ e, ((connectTcpProxyTargetViaDialerChainInner texts header egress links).run answer n).result
      = .err e := by
  cases hlast : links.getLast? with
  | none =>
    rw [getLast?_eq_none_iff.mp hlast] at hlink
    cases hlink
  | some last =>
    cases hendpoint : last.endpoint with
    | none =>
      unfold connectTcpProxyTargetViaDialerChainInner connectTcpSocketToDialerLink dialerLinkEndpoint
      rw [hlast]
      dsimp only
      rw [hendpoint]
      exact ⟨_, rfl⟩
    | some endpoint =>
      obtain ⟨hran, hcapable⟩ := run_inner answer texts header links egress hlast hendpoint n rfl
      rcases hran.returned with herr | ⟨stream, hok, -⟩
      · exact herr
      · rw [hcapable stream hok link hlink] at h
        cases h

lemma run_dialer_chain_err :
    ∃ e, ((connectTcpProxyTargetViaDialerChain texts header egress links).run answer n).result
      = .err e := by
  unfold connectTcpProxyTargetViaDialerChain
  split
  · obtain ⟨elapsed, cut, hrun, -, hcut⟩ := run_timed answer socks5SetupTimeout
      (connectTcpProxyTargetViaDialerChainInner texts header egress links) n
    rw [hrun]
    rcases hcut with hfailed | rfl
    · exact hfailed
    · exact run_inner_err answer texts header links egress hlink h (n + 1)
  · exact run_inner_err answer texts header links egress hlink h n

end

section
variable {S : ((q : NetCall) × q.Answer) → Prop} {P : NetCall → Prop}
  (h : ∀ q : NetCall, q.isTcp = true → P q)
include h

lemma meets_connectTcpProxyTargetViaDialerChain (texts : TextParsers) (header : OwnedProxyHeader)
    (egress : ProxyEgressPolicy) (links : List ProxyDialerLink) :
    (connectTcpProxyTargetViaDialerChain texts header egress links).Meets S P fun stream =>
      ∃ last host port addresses, links.getLast? = some last ∧ last.endpoint = some (host, port) ∧
        S ⟨.lookupHost host port, .ok addresses⟩ ∧ stream.socket ∈ addresses := by
  have hinner : (connectTcpProxyTargetViaDialerChainInner texts header egress links).Meets S P
      fun stream => ∃ last host port addresses, links.getLast? = some last ∧
        last.endpoint = some (host, port) ∧ S ⟨.lookupHost host port, .ok addresses⟩ ∧
        stream.socket ∈ addresses := by
    unfold connectTcpProxyTargetViaDialerChainInner
    cases hlast : links.getLast? with
    | none => exact .fail _
    | some last =>
      dsimp only
      cases hendpoint : last.endpoint with
      | none =>
        unfold connectTcpSocketToDialerLink dialerLinkEndpoint
        rw [hendpoint]
        exact .fail _
      | some endpoint =>
        rw [connectTcpSocketToDialerLink_eq egress hendpoint]
        have hsocket : (connectTcpVia egress .noUsableTcpTarget endpoint.1 endpoint.2 pure).Meets S P
            fun stream => ∃ addresses, S ⟨.lookupHost endpoint.1 endpoint.2, .ok addresses⟩ ∧
              stream.socket ∈ addresses :=
          meets_connectTcpVia (h _ rfl) fun addresses ha target ht =>
            ⟨h _ rfl, h _ rfl, fun peerAddr => .pure ⟨addresses, ha, ht⟩⟩
        refine hsocket.bind ?_
        rintro stream ⟨addresses, ha, ht⟩
        refine (meets_connectHops (fun _ => h _ rfl) (fun _ _ => h _ rfl) links.length stream).imp
          fun next hnext => ?_
        exact ⟨last, endpoint.1, endpoint.2, addresses, rfl, hendpoint, ha, hnext ▸ ht⟩
  unfold connectTcpProxyTargetViaDialerChain
  split
  · exact meets_socks5SetupWithTimeout (h _ rfl) hinner
  · exact hinner

end

/-- a run of the dialer of a chain, in which nothing but TCP streams is used -/
structure ChainRan (texts : TextParsers) (header : OwnedProxyHeader) (links : List ProxyDialerLink)
    (ran : Dialed) : Prop extends ChainDialed texts header links ran where
  tcp : ∀ c ∈ ran.calls, c.1.isTcp = true

open ProxyDialerLink

/-- **Chains** of two or more links over TCP open one socket, to the last link, and ask each proxy for what comes
before it; others fail.  Links put together with `->` give their chain, and no hop may be empty. -/
theorem dialer_chains {Url : Type} (parsers : LinkParsers Url) (texts : TextParsers)
    (egress : ProxyEgressPolicy) :
    (∀ header links answer n, 2 ≤ links.length → (∀ link ∈ links, link.isTcpCapable = true) →
      header.network = .tcp → ChainRan texts header links
        ((connectTcpProxyTargetViaDialerChain texts header egress links).run answer n)) ∧
    (∀ header links answer n, (∃ link ∈ links, link.isTcpCapable = false) →
      ∃ e, ((connectTcpProxyTargetViaDialerChain texts header egress links).run answer n).result
        = .err e) ∧
    (∀ hops links, 2 ≤ hops.length → (∀ hop ∈ hops, IsHop hop) →
      List.Forall₂ (fun hop link => parse parsers hop = .ok link) hops links →
      parse parsers ("->".intercalate hops) = .ok (.chain links)) ∧
    ∀ hops, (∀ hop ∈ hops, IsHop hop) → (∃ hop ∈ hops, Blank hop) →
      ∃ e, parse parsers ("->".intercalate hops) = .error e := by
  refine ⟨?_, ?_, ?_, ?_⟩
  · intro header links answer n hlen hcapable _
    have hne : links ≠ [] := by
      rintro rfl
      cases hlen
    obtain ⟨host, port, hendpoint⟩ := endpoint_of_isTcpCapable (hcapable _ (getLast_mem hne))
    refine ⟨run_dialer_chain answer texts header links egress (getLast?_eq_some_getLast hne)
      hendpoint n, ?_⟩
    have hmeets := meets_connectTcpProxyTargetViaDialerChain (S := fun _ => True) (fun q hq => hq)
      texts header egress links
    exact (hmeets.run n fun c _ => trivial).1
  · rintro header links answer n ⟨link, hlink, h⟩
    exact run_dialer_chain_err answer texts header links egress hlink h n
  · intro hops links hlen hhops h
    exact parse_chain parsers hlen hhops h
  · rintro hops hhops ⟨hop, hmem, hblank⟩
    exact parse_of_empty_hop parsers hhops hmem hblank

/-! ## two proxies -/

/-- every text is a URL of a SOCKS5 proxy with this name -/
def namesOnly : LinkParsers String where
  url raw := if raw = "" then .error "relative URL without a base" else .ok raw
  url_empty := ⟨_, rfl⟩
  scheme _ := "socks5"
  httpConnect raw _ := .error (.invalidProxyDialerLink raw "")
  socks5 raw _ := .ok ⟨raw, 1080, none, none⟩
  shadowsocks raw _ := .error (.invalidProxyDialerLink raw "")
  shadowsocksR raw := .error (.invalidProxyDialerLink raw "")
  trojan raw _ := .error (.invalidProxyDialerLink raw "")
  juicity raw _ := .error (.invalidProxyDialerLink raw "")
  tuic raw _ := .error (.invalidProxyDialerLink raw "")
  hysteria2 raw _ := .error (.invalidProxyDialerLink raw "")
  vmess raw _ := .error (.invalidProxyDialerLink raw "")
  vless raw _ := .error (.invalidProxyDialerLink raw "")

def domainsOnly : TextParsers := ⟨fun _ => none, fun _ => .error ""⟩

def loopback : SocketAddr := .v4 (Ipv4Addr.new 127 0 0 1) 1080

def allGoesWell (address : SocketAddr) : Nat → (q : NetCall) → q.Answer := fun _ q => match q with
  | .lookupHost _ _ => .ok [address]
  | .connectTcp _ _ => .ok ()
  | .plain target => .ok target
  | .timeout _ => none
  | .tls _ => .ok ()
  | .request _ _ => .ok ()
  | .connectQuic _ _ _ => .ok ()
  | .bindUdp _ _ => .ok ()
  | .udpAssociate _ => .ok (.ip address)
  | .serverConfig _ => .ok ()
  | .connectShadowsocksUdp _ _ => .ok address
  | .randomU16 _ => .ok 0
  | .dissociate _ => .ok ()
  | .sendPayload _ _ => .ok ()
  | .recv => .ok []
  | .recvFrom => .ok (address, [])
  | .recvAddressed => .ok (.ip address, [])
  | .respond _ _ => .ok ()

def socks5At (host : String) : ProxyDialerLink := .socks5 ⟨host, 1080, none, none⟩

theorem dialer_chains_of_two : (parse namesOnly "a->b" = .ok (.chain [socks5At "a", socks5At "b"]) ∧
      ∃ e, parse namesOnly "a-> " = .error e) ∧
    (requests ((connectTcpProxyTargetViaDialerChain domainsOnly ⟨.tcp, .domain "c", 80⟩ ⟨none, none⟩
        [socks5At "a", socks5At "b"]).run (allGoesWell loopback) 0).calls
      = [(socks5At "b", ⟨.tcp, .domain "a", 1080⟩), (socks5At "a", ⟨.tcp, .domain "c", 80⟩)] ∧
    ChainRan domainsOnly ⟨.tcp, .domain "c", 80⟩ [socks5At "a", socks5At "b"]
      ((connectTcpProxyTargetViaDialerChain domainsOnly ⟨.tcp, .domain "c", 80⟩ ⟨none, none⟩
        [socks5At "a", socks5At "b"]).run (allGoesWell loopback) 0)) ∧
    ∃ e, ((connectTcpProxyTargetViaDialerChain domainsOnly ⟨.tcp, .domain "c", 80⟩ ⟨none, none⟩
      [socks5At "a", .chain []]).run (allGoesWell loopback) 0).result = .err e := by
  obtain ⟨hworks, hfails, hparses, hempty⟩ := dialer_chains namesOnly domainsOnly ⟨none, none⟩
  refine ⟨⟨?_, ?_⟩, ⟨rfl, ?_⟩, ?_⟩
  · refine hparses ["a", "b"] _ (Nat.le_refl 2) ?_ ?_
    · decide
    · exact .cons rfl (.cons rfl .nil)
  · refine hempty ["a", " "] (by decide) ⟨" ", by decide, by decide⟩
  · exact hworks _ _ _ 0 (Nat.le_refl 2) (by simp [socks5At, isTcpCapable]) rfl
  · exact hfails _ _ _ 0 ⟨.chain [], mem_cons_of_mem _ mem_cons_self, rfl⟩

end Zuicity
