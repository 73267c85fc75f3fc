import Zuicity.Client.HttpConnect

/-!
# Targets of the dae adapter (`DaeProxyTarget`)

The adapter and the client read a target `host:port` each with a parser of its own.
-/

namespace Zuicity

inductive DaeAdapterError where
  | invalidTarget (value : String)
  | invalidTargetPort (value source : String)
deriving DecidableEq

inductive DaeProxyTarget where
  | ip (addr : SocketAddr)
  | domain (host : String) (port : UInt16)
deriving DecidableEq

def DaeProxyTarget.forward : DaeProxyTarget → TcpForwardTarget
  | .ip addr => .ip addr
  | .domain host port => .domain host port

section
variable (v6 : Bytes → Option SocketAddr) (portError : Bytes → String)

def DaeProxyTarget.parse (value : String) : Except DaeAdapterError DaeProxyTarget :=
  match parseSocketAddr v6 (asBytes value) with
  | some addr => .ok (.ip addr)
  | none => match rsplitOnce ':' value.toList with
    | none => .error (.invalidTarget value)
    | some (host, port) =>
      if host.isEmpty || port.isEmpty || host.head? == some '[' || host.getLast? == some ']' then
        .error (.invalidTarget value)
      else match parseU16 (asBytes (String.ofList port)) with
        | none => .error (.invalidTargetPort value (portError (asBytes (String.ofList port))))
        | some port => .ok (.domain (String.ofList host) port)

@[mk_iff]
structure SameTarget (value : String) : Prop where
  agree : ∀ target, TcpForwardTarget.ipOrDomain v6 value = .ok target ↔
    ∃ daeTarget, DaeProxyTarget.parse v6 portError value = .ok daeTarget ∧ daeTarget.forward = target
  plain : ∀ domain port, TcpForwardTarget.ipOrDomain v6 value = .ok (.domain domain port) →
    ':' ∉ domain.toList ∧ '[' ∉ domain.toList ∧ ']' ∉ domain.toList

end

section
variable {v6 : Bytes → Option SocketAddr} {portError : Bytes → String} {value : String} {host port : List Char}
  (haddr : parseSocketAddr v6 (asBytes value) = none)
  (hvalue : value.toList = host ++ ':' :: port) (hport : ':' ∉ port)
include haddr hvalue hport

lemma ipOrDomain_ok_iff (target : TcpForwardTarget) :
    TcpForwardTarget.ipOrDomain v6 value = .ok target ↔ ∃ n, parseU16 (asBytes (String.ofList port)) = some n ∧
      (host ≠ [] ∧ host.head? ≠ some '[') ∧ ':' ∉ host ∧ .domain (String.ofList host) n = target := by
  unfold TcpForwardTarget.ipOrDomain splitDomainPort
  rw [haddr, hvalue, rsplitOnce_append _ hport]
  dsimp only
  cases hn : parseU16 (asBytes (String.ofList port)) with
  | none => simp
  | some n =>
    have hne : port ≠ [] := by
      rintro rfl
      cases hn
    by_cases hguard : (host ≠ [] ∧ host.head? ≠ some '[') ∧ ':' ∉ host
    · simp [hguard, hne]
    · have hreject : host = [] ∨ host.head? = some '[' ∨ ':' ∈ host := by tauto
      rcases hreject with h | h | h <;> simp [h]

lemma parse_ok_iff (target : DaeProxyTarget) :
    DaeProxyTarget.parse v6 portError value = .ok target ↔ ∃ n, parseU16 (asBytes (String.ofList port)) = some n ∧
      (host ≠ [] ∧ host.head? ≠ some '[') ∧ host.getLast? ≠ some ']' ∧
        .domain (String.ofList host) n = target := by
  unfold DaeProxyTarget.parse
  rw [haddr, hvalue, rsplitOnce_append _ hport]
  dsimp only
  cases hn : parseU16 (asBytes (String.ofList port)) with
  | none =>
    split
    · simp
    · simp
  | some n =>
    have hne : port ≠ [] := by
      rintro rfl
      cases hn
    by_cases hguard : (host ≠ [] ∧ host.head? ≠ some '[') ∧ host.getLast? ≠ some ']'
    · simp [hguard, hne]
    · have hreject : host = [] ∨ host.head? = some '[' ∨ host.getLast? = some ']' := by tauto
      rcases hreject with h | h | h <;> simp [h]

/-- **One accepts** exactly what the other does, if a colon in the host and a bracket at its end come
together. -/
lemma sameTarget_split : SameTarget v6 portError value ↔
    host = [] ∨ parseU16 (asBytes (String.ofList port)) = none ∨ host.head? = some '[' ∨
      ':' ∈ host ∧ host.getLast? = some ']' ∨ ':' ∉ host ∧ '[' ∉ host ∧ ']' ∉ host := by
  have hclient := ipOrDomain_ok_iff haddr hvalue hport
  have hdae := @parse_ok_iff v6 portError value host port haddr hvalue hport
  rw [sameTarget_iff]
  simp only [hclient, hdae]
  cases hn : parseU16 (asBytes (String.ofList port)) with
  | none => simp
  | some n =>
    by_cases hguard : host ≠ [] ∧ host.head? ≠ some '['
    · have hlast : host.getLast? = some ']' → ']' ∈ host := List.mem_of_mem_getLast?
      by_cases hcolon : ':' ∈ host <;> by_cases hlast' : host.getLast? = some ']'
      · simp [hguard, hcolon, hlast']
      · simp [hguard, hcolon, hlast']
      · simp [hguard, hcolon, hlast', hlast hlast']
      · simp [hguard, hcolon, hlast', DaeProxyTarget.forward]
    · simp [hguard]
      tauto

end

/-- **Both parsers** treat a text alike and give plain domains, exactly if it is an address, has no host or port,
begins with a bracket, or its host has a colon and a bracket at the end, or neither. -/
theorem same_target_iff (v6 : Bytes → Option SocketAddr) (portError : Bytes → String) (value : String) :
    SameTarget v6 portError value ↔ (parseSocketAddr v6 (asBytes value)).isSome ∨
      ∀ host port, value.toList = host ++ ':' :: port → ':' ∉ port →
        host = [] ∨ parseU16 (asBytes (String.ofList port)) = none ∨ host.head? = some '[' ∨
          ':' ∈ host ∧ host.getLast? = some ']' ∨ ':' ∉ host ∧ '[' ∉ host ∧ ']' ∉ host := by
  cases haddr : parseSocketAddr v6 (asBytes value) with
  | some addr =>
    have hdae : DaeProxyTarget.parse v6 portError value = .ok (.ip addr) := by
      unfold DaeProxyTarget.parse
      rw [haddr]
    have hclient : TcpForwardTarget.ipOrDomain v6 value = .ok (.ip addr) := by
      unfold TcpForwardTarget.ipOrDomain
      rw [haddr]
    rw [sameTarget_iff, hclient, hdae]
    simp [DaeProxyTarget.forward]
  | none =>
    rw [Option.isSome_none, Bool.false_eq_true, false_or]
    rcases rsplitOnce_cases ':' value.toList with ⟨hnone, hcolon⟩ | ⟨host, port, hvalue, hport, -⟩
    · refine iff_of_true ?_ fun host port hvalue => ?_
      · rw [sameTarget_iff]
        unfold TcpForwardTarget.ipOrDomain splitDomainPort DaeProxyTarget.parse
        rw [haddr, hnone]
        simp
      · exact absurd (hvalue ▸ List.mem_append_right _ List.mem_cons_self) hcolon
    · rw [forall_rsplit_iff hvalue hport, sameTarget_split haddr hvalue hport]

/-- the adapter takes `::1:80` for a domain, the client `a]:80`, and both `a[b:80` -/
theorem targets_with_stray_characters :
    ¬ SameTarget (fun _ => none) (fun _ => "") "::1:80" ∧ ¬ SameTarget (fun _ => none) (fun _ => "") "a]:80" ∧
      ¬ SameTarget (fun _ => none) (fun _ => "") "a[b:80" := by
  refine ⟨fun h => ?_, fun h => ?_, fun h => ?_⟩
  · have hdae : DaeProxyTarget.parse (fun _ => none) (fun _ => "") "::1:80" = .ok (.domain "::1" 80) := by
      decide +kernel
    have hclient := (h.agree _).mpr ⟨_, hdae, rfl⟩
    exact absurd hclient (by decide +kernel)
  · have hclient : TcpForwardTarget.ipOrDomain (fun _ => none) "a]:80" = .ok (.domain "a]" 80) := by
      decide +kernel
    exact absurd (h.plain _ _ hclient).2.2 (by decide)
  · have hclient : TcpForwardTarget.ipOrDomain (fun _ => none) "a[b:80" = .ok (.domain "a[b" 80) := by
      decide +kernel
    exact absurd (h.plain _ _ hclient).2.1 (by decide)

end Zuicity
