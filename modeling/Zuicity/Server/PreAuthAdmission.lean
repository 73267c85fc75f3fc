import Zuicity.Lib.Counts
import Zuicity.Lib.Runs
import Zuicity.Net

/-!
# Admission before authentication (`PreAuthAdmission`)

A connection that is not yet authenticated holds a permit.  The state behind the permits counts all
of them and those of each source address; both counts are limited.  A permit gives its place back
when it is dropped.
-/

namespace Zuicity

open Counts

def maxPendingServerAuthentications : Nat := 128
def maxPendingAuthentications : Nat := maxPendingServerAuthentications
def maxPendingAuthenticationsPerIp : Nat := maxPendingAuthentications / 2

structure PreAuthAdmissionState where
  total : Nat := 0
  perIp : AList (fun _ : IpAddr => Nat) := ∅
deriving DecidableEq

structure PreAuthPermit where
  ip : IpAddr
deriving DecidableEq

namespace PreAuthAdmissionState

def hasGlobalCapacity (s : PreAuthAdmissionState) : Bool := s.total < maxPendingAuthentications

def tryAdmit (s : PreAuthAdmissionState) (ip : IpAddr) :
    PreAuthAdmissionState × Except Unit PreAuthPermit :=
  let count := count s.perIp ip
  if s.total ≥ maxPendingAuthentications ∨ count ≥ maxPendingAuthenticationsPerIp then
    (s, .error ())
  else (⟨s.total + 1, s.perIp.insert ip (count + 1)⟩, .ok ⟨ip⟩)

end PreAuthAdmissionState

/-- `Drop` of a permit: both subtractions saturate, as those of `Nat` do -/
def PreAuthPermit.drop (p : PreAuthPermit) (s : PreAuthAdmissionState) : PreAuthAdmissionState :=
  ⟨s.total - 1, decr s.perIp p.ip⟩

structure Admission where
  state : PreAuthAdmissionState := {}
  live : List PreAuthPermit := []

inductive AdmissionEvent where
  | tryAdmit (ip : IpAddr)
  /-- the permit at this place among the live ones is dropped -/
  | drop (place : Nat)

namespace Admission

def step (a : Admission) : AdmissionEvent → Admission
  | .tryAdmit ip => match a.state.tryAdmit ip with
    | (state, .ok permit) => ⟨state, permit :: a.live⟩
    | (state, .error ()) => { a with state := state }
  | .drop place => match a.live[place]? with
    | some permit => ⟨permit.drop a.state, a.live.eraseIdx place⟩
    | none => a

/-- the state counts the live permits, within the limits -/
structure Inv (a : Admission) : Prop where
  total_eq : a.state.total = a.live.length
  tallies : Counts.Tallies a.state.perIp (a.live.map PreAuthPermit.ip)
  total_le : a.state.total ≤ maxPendingAuthentications
  count_le : ∀ ip, count a.state.perIp ip ≤ maxPendingAuthenticationsPerIp

lemma inv_start : ({} : Admission).Inv := by
  refine ⟨rfl, Counts.Tallies.nil, Nat.zero_le _, ?_⟩
  intro ip
  exact Nat.zero_le _

variable {a : Admission}

lemma Inv.tryAdmit (hi : a.Inv) (ip : IpAddr) : (a.step (.tryAdmit ip)).Inv := by
  unfold step PreAuthAdmissionState.tryAdmit
  dsimp only
  split
  · next permit hadmit =>
    split at hadmit
    · cases hadmit
    · next hroom =>
      obtain ⟨hs, hp⟩ := Prod.mk.inj hadmit
      obtain rfl := Except.ok.inj hp
      subst hs
      obtain ⟨htotal, hcount⟩ := not_or.mp hroom
      refine ⟨?_, hi.tallies.incr ip, Nat.lt_of_not_ge htotal, ?_⟩
      · show a.state.total + 1 = a.live.length + 1
        rw [hi.total_eq]
      · intro ip'
        show count (a.state.perIp.insert ip _) ip' ≤ _
        rw [count_insert]
        split
        · exact Nat.lt_of_not_ge hcount
        · exact hi.count_le ip'
  · next hreject =>
    split at hreject
    · obtain ⟨hs, _⟩ := Prod.mk.inj hreject
      subst hs
      exact hi
    · cases hreject

lemma live_perm {place : Nat} {permit : PreAuthPermit} (h : a.live[place]? = some permit) :
    (a.live.map PreAuthPermit.ip).Perm (permit.ip :: (a.live.eraseIdx place).map PreAuthPermit.ip) := by
  obtain ⟨hlt, hget⟩ := List.getElem?_eq_some_iff.mp h
  have hp := List.getElem_cons_eraseIdx_perm hlt
  rw [hget] at hp
  exact (hp.map PreAuthPermit.ip).symm

lemma Inv.counted (hi : a.Inv) {permit : PreAuthPermit} (h : permit ∈ a.live) :
    0 < a.state.total ∧ ∃ n, a.state.perIp.lookup permit.ip = some n ∧ 0 < n := by
  constructor
  · rw [hi.total_eq]
    exact List.length_pos_of_mem h
  · exact hi.tallies.lookup_of_mem (List.mem_map_of_mem h)

lemma Inv.drop (hi : a.Inv) (place : Nat) : (a.step (.drop place)).Inv := by
  unfold step
  dsimp only
  cases hp : a.live[place]? with
  | none => exact hi
  | some permit =>
    have hlt : place < a.live.length := (List.getElem?_eq_some_iff.mp hp).1
    have hrest : Counts.Tallies (decr a.state.perIp permit.ip)
        ((a.live.eraseIdx place).map PreAuthPermit.ip) :=
      (hi.tallies.perm (live_perm hp)).decr
    refine ⟨?_, hrest, Nat.le_trans (Nat.sub_le _ 1) hi.total_le, ?_⟩
    · show a.state.total - 1 = (a.live.eraseIdx place).length
      rw [hi.total_eq, List.length_eraseIdx, if_pos hlt]
    · intro ip
      show count (decr a.state.perIp permit.ip) ip ≤ _
      rw [hrest.count_eq]
      refine Nat.le_trans ?_ (hi.count_le ip)
      rw [hi.tallies.count_eq, (live_perm hp).count_eq]
      exact List.count_le_count_cons

lemma Inv.step (hi : a.Inv) (event : AdmissionEvent) : (a.step event).Inv := by
  cases event with
  | tryAdmit ip => exact hi.tryAdmit ip
  | drop place => exact hi.drop place

end Admission

/-- what the counts should be, what a rejection means, and that no subtraction saturates -/
structure Admission.Accounts (a : Admission) : Prop where
  total_live : a.state.total = a.live.length
  total_sum : a.state.total = total a.state.perIp
  per_ip : ∀ ip, count a.state.perIp ip = (a.live.map PreAuthPermit.ip).count ip
  total_le : a.state.total ≤ 128
  per_ip_le : ∀ ip, count a.state.perIp ip ≤ 64
  no_zero : ∀ ip, a.state.perIp.lookup ip ≠ some 0
  rejected : ∀ ip, (a.state.tryAdmit ip).2 = .error () → (a.state.tryAdmit ip).1 = a.state ∧
      (a.state.total = 128 ∨ count a.state.perIp ip = 64)
  no_saturation : ∀ permit ∈ a.live,
    0 < a.state.total ∧ ∃ n, a.state.perIp.lookup permit.ip = some n ∧ 0 < n

lemma Admission.Inv.accounts {a : Admission} (hi : a.Inv) : a.Accounts := by
  refine ⟨hi.total_eq, ?_, hi.tallies.count_eq, hi.total_le, hi.count_le, hi.tallies.ne_zero,
    ?_, fun permit h => hi.counted h⟩
  · rw [hi.total_eq, hi.tallies.sum_eq, List.length_map]
  · intro ip hrej
    have hle := hi.total_le
    have hcount := hi.count_le ip
    unfold PreAuthAdmissionState.tryAdmit at hrej ⊢
    dsimp only at hrej ⊢
    split at hrej
    · next hlimit =>
      rw [if_pos hlimit]
      refine ⟨rfl, ?_⟩
      rcases hlimit with htotal | hip
      · exact .inl (Nat.le_antisymm hle htotal)
      · exact .inr (Nat.le_antisymm hcount hip)
    · cases hrej

/-- **Admissions and drops in any order**: the counts are those of the live permits, within the
limits. -/
theorem admission_counts_live_permits (events : List AdmissionEvent) :
    (Runs.run Admission.step {} events).Accounts := by
  have hi : (Runs.run Admission.step {} events).Inv :=
    Runs.run_keeps (fun _ event h => h.step event) events Admission.inv_start
  exact hi.accounts

end Zuicity
