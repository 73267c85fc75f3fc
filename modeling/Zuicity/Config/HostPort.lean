import Mathlib.Data.List.TakeWhile
import Zuicity.Config.Client

/-!
# The host of the server (`tls_server_name`)

Without a configured name the client takes the host of its server, as Go's `net.SplitHostPort` does.
-/

namespace Zuicity

open List

def goSplitHostPort (s : List Char) : Option (List Char × List Char) :=
  match rsplitOnce ':' s with
  | none => none
  | some (front, port) =>
    if s.head? = some '[' then
      let host := front.tail.takeWhile (· != ']')
      if front = '[' :: host ++ [']'] ∧ '[' ∉ host ∧ '[' ∉ port ∧ ']' ∉ port then some (host, port)
      else none
    else if ':' ∉ front ∧ '[' ∉ front ∧ ']' ∉ front ∧ '[' ∉ port ∧ ']' ∉ port then some (front, port)
    else none

def goServerName (server : String) : String :=
  String.ofList (((goSplitHostPort server.toList).map Prod.fst).getD [])

def bracketed (host : List Char) : Bool := host.head? == some '[' && host.getLast? == some ']'

def unbracket (host : List Char) : List Char := if bracketed host then host.tail.dropLast else host

def StrayBracket (host port : List Char) : Prop :=
  '[' ∈ unbracket host ∨ ']' ∈ unbracket host ∨ '[' ∈ port ∨ ']' ∈ port

def StrayColon (host : List Char) : Prop := ':' ∈ host ∧ bracketed host = false

section
variable {host port : List Char}

instance : Decidable (StrayBracket host port) := inferInstanceAs (Decidable (_ ∨ _))

instance : Decidable (StrayColon host) := inferInstanceAs (Decidable (_ ∧ _))

lemma eq_of_bracketed (h : bracketed host = true) : host = '[' :: unbracket host ++ [']'] := by
  have hboth := h
  unfold bracketed at hboth
  rw [Bool.and_eq_true, beq_iff_eq, beq_iff_eq] at hboth
  obtain ⟨hfirst, hlast⟩ := hboth
  unfold unbracket
  rw [if_pos h]
  cases host with
  | nil => cases hfirst
  | cons c rest =>
    cases hfirst
    cases rest with
    | nil => cases hlast
    | cons d rest =>
      rw [getLast?_cons_cons] at hlast
      rw [tail_cons, cons_append, dropLast_append_getLast? _ hlast]

lemma bracketed_append (inner : List Char) : bracketed ('[' :: inner ++ [']']) = true := by
  unfold bracketed
  rw [getLast?_append]
  rfl

lemma unbracket_append (inner : List Char) : unbracket ('[' :: inner ++ [']']) = inner := by
  unfold unbracket
  rw [if_pos (bracketed_append inner), cons_append, tail_cons, dropLast_concat]

lemma not_mem_takeWhile (c : Char) (l : List Char) : c ∉ l.takeWhile (· != c) := by
  intro hc
  simpa using mem_takeWhile_imp hc

/-! ## the two, on a split server -/

lemma takeWhile_unbracket (h : bracketed host = true) (hclose : ']' ∉ unbracket host) :
    host.tail.takeWhile (· != ']') = unbracket host := by
  have hall : ∀ c ∈ unbracket host, (c != ']') = true :=
    fun c hc => bne_iff_ne.mpr fun heq => hclose (heq ▸ hc)
  have htail : host.tail = unbracket host ++ [']'] := by
    conv_lhs => rw [eq_of_bracketed h]
    rfl
  rw [htail, takeWhile_append_of_pos hall]
  exact append_nil _

lemma bracketed_of_not_stray (hhead : host.head? = some '[') (h : ¬ StrayBracket host port) :
    bracketed host = true := by
  by_contra hb
  have hunbracket : unbracket host = host := if_neg hb
  refine h (.inl ?_)
  rw [hunbracket]
  exact mem_of_mem_head? hhead

lemma bracketed_of_head_ne (hhead : host.head? ≠ some '[') : bracketed host = false := by
  unfold bracketed
  rw [beq_eq_false_iff_ne.mpr hhead]
  rfl

lemma goSplitHostPort_bracket (hport : ':' ∉ port) (hhead : host.head? = some '[') :
    goSplitHostPort (host ++ ':' :: port)
      = if StrayBracket host port then none else some (unbracket host, port) := by
  have hfirst : (host ++ ':' :: port).head? = some '[' := by rw [head?_append, hhead]; rfl
  unfold goSplitHostPort
  rw [rsplitOnce_append _ hport]
  dsimp only
  rw [if_pos hfirst]
  by_cases hstray : StrayBracket host port
  · rw [if_pos hstray, if_neg]
    rintro ⟨heq, hopen, hports⟩
    have hunbracket : unbracket host = host.tail.takeWhile (· != ']') := by
      conv_lhs => rw [heq]
      exact unbracket_append _
    simp [StrayBracket, hunbracket, hopen, hports, not_mem_takeWhile] at hstray
  · have hbracketed := bracketed_of_not_stray hhead hstray
    rw [if_neg hstray]
    obtain ⟨hopen, hclose, hports⟩ : '[' ∉ unbracket host ∧ ']' ∉ unbracket host ∧ _ := by
      simpa only [StrayBracket, not_or] using hstray
    rw [takeWhile_unbracket hbracketed hclose, if_pos ⟨eq_of_bracketed hbracketed, hopen, hports⟩]

lemma goSplitHostPort_plain (hport : ':' ∉ port) (hhead : host.head? ≠ some '[') :
    goSplitHostPort (host ++ ':' :: port)
      = if StrayBracket host port ∨ ':' ∈ host then none else some (host, port) := by
  have hunbracket : unbracket host = host := if_neg (Bool.eq_false_iff.mp (bracketed_of_head_ne hhead))
  have hfirst : (host ++ ':' :: port).head? ≠ some '[' := by
    cases host with
    | nil => simp
    | cons c rest => exact hhead
  unfold goSplitHostPort
  rw [rsplitOnce_append _ hport]
  dsimp only
  rw [if_neg hfirst, ← ite_not]
  refine if_congr ?_ rfl rfl
  unfold StrayBracket
  rw [hunbracket]
  tauto

/-! ## the names -/

lemma goSplitHostPort_eq (hport : ':' ∉ port) :
    ((goSplitHostPort (host ++ ':' :: port)).map Prod.fst).getD []
      = if StrayBracket host port ∨ StrayColon host then [] else unbracket host := by
  by_cases hhead : host.head? = some '['
  · rw [goSplitHostPort_bracket hport hhead]
    by_cases hstray : StrayBracket host port
    · simp [hstray]
    · simp [hstray, StrayColon, bracketed_of_not_stray hhead hstray]
  · have hb := bracketed_of_head_ne hhead
    rw [goSplitHostPort_plain hport hhead]
    simp only [StrayColon, unbracket, hb]
    split
    · simp [*]
    · simp [*]

lemma splitHostPortHost_eq {value : String} (hvalue : value.toList = host ++ ':' :: port)
    (hport : ':' ∉ port) : (splitHostPortHost value).getD ""
      = String.ofList (if host = [] ∨ port = [] ∨ StrayColon host then [] else unbracket host) := by
  unfold splitHostPortHost
  rw [hvalue, rsplitOnce_append _ hport]
  show (if host.isEmpty || port.isEmpty then _ else if bracketed host then _ else _ : Option String).getD "" = _
  by_cases hempty : host = [] ∨ port = []
  · simp [hempty, ← or_assoc]
  · obtain ⟨hhost, hports⟩ := not_or.mp hempty
    by_cases hb : bracketed host = true
    · simp [hhost, hports, StrayColon, unbracket, hb]
    · by_cases hcolon : ':' ∈ host
      · simp [hhost, hports, StrayColon, hb, hcolon]
      · simp [hhost, hports, StrayColon, unbracket, hb, hcolon]

end

lemma agree_iff {p e c s : Prop} [Decidable p] [Decidable e] [Decidable c] [Decidable s] {u : List Char}
    (hp : p → u = []) : (if p ∨ e ∨ c then [] else u) = (if s ∨ c then [] else u) ↔
      u = [] ∨ c ∨ (e ↔ s) := by
  by_cases hu : u = []
  · subst hu
    simp
  · have hnp : ¬ p := fun h => hu (hp h)
    by_cases hc : c <;> by_cases he : e <;> by_cases hs : s <;> simp [hnp, hc, he, hs, hu, Ne.symm hu]

/-- **The name** of the server is Go's, exactly if the server has no colon, or its host is empty or has a
stray colon, or its port is empty just when there is a stray bracket. -/
theorem tls_server_name_is_go_iff (config : ClientConfig) (hsni : config.raw.sni = "") :
    config.tlsServerName = goServerName config.raw.server ↔
      ∀ host port, config.raw.server.toList = host ++ ':' :: port → ':' ∉ port →
        unbracket host = [] ∨ StrayColon host ∨ (port = [] ↔ StrayBracket host port) := by
  unfold ClientConfig.tlsServerName goServerName
  rw [if_neg (not_not_intro hsni)]
  rcases rsplitOnce_cases ':' config.raw.server.toList with ⟨hnone, hcolon⟩ | ⟨host, port, hserver, hport, -⟩
  · refine iff_of_true ?_ fun host port hserver => ?_
    · unfold splitHostPortHost goSplitHostPort
      rw [hnone]
      rfl
    · exact absurd (hserver ▸ mem_append_right _ mem_cons_self) hcolon
  · rw [forall_rsplit_iff hserver hport, splitHostPortHost_eq hserver hport, hserver, goSplitHostPort_eq hport,
      String.ofList_inj, agree_iff]
    rintro rfl
    rfl

def clientOf (server : String) : ClientConfig where
  raw := ⟨server, "", "", "", false, "", ""⟩
  uuid := .zeros 16
  congestionControl := none
  pinnedCertchainSha256 := none

theorem tls_server_name_is_go_for_ipv6 : (clientOf "[::1]:443").raw.sni = "" ∧
    ∀ host port, "[::1]:443".toList = host ++ ':' :: port → ':' ∉ port →
      unbracket host = [] ∨ StrayColon host ∨ (port = [] ↔ StrayBracket host port) :=
  ⟨rfl, (tls_server_name_is_go_iff (clientOf "[::1]:443") rfl).mp (by decide +kernel)⟩

/-- Go takes the host before an empty port, and no host with a stray bracket -/
theorem server_names_differ_from_go :
    (clientOf "example.com:").tlsServerName = "" ∧ goServerName "example.com:" = "example.com" ∧
      (clientOf "a[b:1").tlsServerName = "a[b" ∧ goServerName "a[b:1" = "" := by
  refine ⟨?_, ?_, ?_, ?_⟩ <;> decide +kernel

end Zuicity
