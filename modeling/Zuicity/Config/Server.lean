import Mathlib.Data.List.Dedup
import Zuicity.Config.Fwmark
import Zuicity.Dialer.VlessKey
import Zuicity.Server.Egress

/-!
# Server configuration (`validate_server`)

The users of a server are a map from texts to passwords.  Validation parses the texts as UUIDs and puts
the passwords into a map from UUIDs.
-/

namespace Zuicity

open List Except AList

structure RawServerConfig extends ServerRawConfig where
  users : AList (fun _ : String => String)
  fwmark : String
  sendThrough : String
  outbound : Option RawOutboundConfig
  congestionControl : String

structure ValidServerConfig extends ServerConfig where
  users : AList (fun _ : Uuid => String)
  congestionControl : Option CongestionControl

structure ServerCrates where
  url : UrlCrate
  parseUuid : String → Except String Uuid
  parseIp : String → Except String IpAddr

section
variable (crates : ServerCrates)

/-- the loop over the users; a UUID that is there gets the new password -/
def validateUsers : List (Σ _ : String, String) → AList (fun _ : Uuid => String) →
    Except ConfigError (AList fun _ : Uuid => String)
  | [], users => .ok users
  | ⟨uuid, password⟩ :: rest, users =>
    match crates.parseUuid uuid with
    | .error source => .error (.invalidUserUuid uuid source)
    | .ok parsed => validateUsers rest (users.insert parsed password)

def validateFwmark (fwmark : String) : Except ConfigError (Option UInt32) :=
  if fwmark = "" then .ok none
  else match parseU32Base0 (asBytes fwmark) with
    | .error kind => .error (.invalidFwmark fwmark kind)
    | .ok mark => .ok (some (UInt32.ofNat mark))

def validateSendThrough (sendThrough : String) : Except ConfigError (Option IpAddr) :=
  if sendThrough = "" then .ok none
  else match crates.parseIp sendThrough with
    | .error source => .error (.invalidSendThrough sendThrough source)
    | .ok ip => .ok (some ip)

variable (raw : RawServerConfig)

def resolveServerDialerLink : Except ConfigError (Option String) := do
  let fromOutbound ← match raw.outbound with
    | none => .ok none
    | some outbound => some <$> socks5DialerLinkFromOutbound crates.url outbound
  match fromOutbound, if raw.dialerLink = "" then none else some raw.dialerLink with
  | none, none => .ok none
  | some link, none => .ok (some link)
  | none, some link => .ok (some link)
  | some outboundLink, some dialerLink =>
    if outboundLink = dialerLink then .ok (some outboundLink)
    else .error .conflictingOutboundAndDialerLink

def validateServer : Except ConfigError ValidServerConfig := do
  let users ← validateUsers crates raw.users.entries ∅
  let fwmark ← validateFwmark raw.fwmark
  let sendThrough ← validateSendThrough crates raw.sendThrough
  let dialerLink ← resolveServerDialerLink crates raw
  .ok { raw := { raw.toServerRawConfig with dialerLink := dialerLink.getD raw.dialerLink }
        fwmark, sendThrough, dialerLink, users
        congestionControl := optionalKnownCongestionControl raw.congestionControl }

def ValidServerConfig.credentials (config : ValidServerConfig) : List (Uuid × Bytes) :=
  config.users.entries.map fun user => (user.1, asBytes user.2)

/-! ## no password is lost -/

structure KeepsCredentials : Prop where
  counts : ∀ config, validateServer crates raw = .ok config →
    config.users.entries.length = raw.users.entries.length
  authenticates : ∀ config, validateServer crates raw = .ok config →
    ∀ user ∈ raw.users.entries, ∀ uuid, crates.parseUuid user.1 = .ok uuid → ∀ exporter,
      tokenMatches exporter uuid (exportAuthenticationToken exporter uuid (asBytes user.2))
        config.credentials = true
  rejects : ∀ user ∈ raw.users.entries, ∀ other ∈ raw.users.entries, user.1 ≠ other.1 →
    crates.parseUuid user.1 = crates.parseUuid other.1 → ∃ e, validateServer crates raw = .error e

def DistinctUsers : Prop :=
  ∀ user ∈ raw.users.entries, ∀ other ∈ raw.users.entries,
    crates.parseUuid user.1 = crates.parseUuid other.1 → user.1 = other.1

def OtherwiseRefused : Prop :=
  (∃ e, validateFwmark raw.fwmark = .error e) ∨ (∃ e, validateSendThrough crates raw.sendThrough = .error e) ∨
    ∃ e, resolveServerDialerLink crates raw = .error e

end

/-! ## the loop over the users -/

section
variable {crates : ServerCrates} {l : List (Σ _ : String, String)} {m users : AList fun _ : Uuid => String}

lemma validateUsers_cons {user : Σ _ : String, String} :
    validateUsers crates (user :: l) m = .ok users ↔
      ∃ uuid, crates.parseUuid user.1 = .ok uuid ∧ validateUsers crates l (m.insert uuid user.2) = .ok users := by
  rw [validateUsers]
  cases crates.parseUuid user.1 with
  | error source => simp
  | ok uuid => simp

/-- **The loop**: the UUIDs of the map are those that were there and those of the texts. -/
lemma validateUsers_ok (h : ∀ user ∈ l, ∃ uuid, crates.parseUuid user.1 = .ok uuid) :
    ∃ users, validateUsers crates l m = .ok users ∧
      ∀ uuid, uuid ∈ users ↔ uuid ∈ m ∨ .ok uuid ∈ l.map fun user => crates.parseUuid user.1 := by
  induction l generalizing m with
  | nil => exact ⟨m, rfl, by simp⟩
  | cons user l ih =>
    obtain ⟨⟨parsed, hparsed⟩, hrest⟩ := forall_mem_cons.mp h
    obtain ⟨users, hok, hmem⟩ := @ih (m.insert parsed user.2) hrest
    refine ⟨users, validateUsers_cons.mpr ⟨parsed, hparsed, hok⟩, fun uuid => ?_⟩
    rw [hmem, mem_insert, map_cons, hparsed, mem_cons, ok.injEq]
    tauto

lemma lookup_of_not_mem {uuid : Uuid} (hnot : .ok uuid ∉ l.map fun user => crates.parseUuid user.1)
    (h : validateUsers crates l m = .ok users) : users.lookup uuid = m.lookup uuid := by
  induction l generalizing m with
  | nil =>
    cases h
    rfl
  | cons user l ih =>
    rw [map_cons, mem_cons, not_or] at hnot
    obtain ⟨parsed, hparsed, h⟩ := validateUsers_cons.mp h
    rw [ih hnot.2 h, lookup_insert_ne fun heq => hnot.1 (by rw [hparsed, heq])]

lemma lookup_of_mem (hnodup : (l.map fun user => crates.parseUuid user.1).Nodup)
    (h : validateUsers crates l m = .ok users) : ∀ user ∈ l, ∀ uuid, crates.parseUuid user.1 = .ok uuid →
      users.lookup uuid = some user.2 := by
  induction l generalizing m with
  | nil => simp
  | cons user l ih =>
    obtain ⟨hnot, hnodup⟩ := nodup_cons.mp hnodup
    obtain ⟨parsed, hparsed, h⟩ := validateUsers_cons.mp h
    refine forall_mem_cons.mpr ⟨fun uuid huuid => ?_, ih hnodup h⟩
    obtain rfl : parsed = uuid := ok.inj (hparsed.symm.trans huuid)
    rw [lookup_of_not_mem (hparsed ▸ hnot) h, lookup_insert]

lemma length_validateUsers (h : ∀ user ∈ l, ∃ uuid, crates.parseUuid user.1 = .ok uuid)
    (hok : validateUsers crates l ∅ = .ok users) :
    users.entries.length = (l.map fun user => crates.parseUuid user.1).dedup.length := by
  obtain ⟨users', hok', hmem⟩ := validateUsers_ok (m := ∅) h
  obtain rfl : users = users' := ok.inj (hok.symm.trans hok')
  have hperm : (users.keys.map ok).Perm (l.map fun user => crates.parseUuid user.1).dedup := by
    refine (perm_ext_iff_of_nodup ?_ (nodup_dedup _)).mpr fun x => ?_
    · exact users.keys_nodup.map fun _ _ => ok.inj
    · rw [mem_dedup, mem_map]
      constructor
      · rintro ⟨uuid, huuid, rfl⟩
        exact ((hmem uuid).mp (mem_keys.mpr huuid)).resolve_left (notMem_empty uuid)
      · intro hx
        obtain ⟨user, huser, rfl⟩ := mem_map.mp hx
        obtain ⟨uuid, huuid⟩ := h user huser
        rw [huuid] at hx ⊢
        exact ⟨uuid, mem_keys.mp ((hmem uuid).mpr (.inr hx)), rfl⟩
  have hlen := hperm.length_eq
  rw [length_map] at hlen
  exact (length_map _).symm.trans hlen

lemma nodup_users_iff {raw : RawServerConfig} :
    (raw.users.entries.map fun user => crates.parseUuid user.1).Nodup ↔ DistinctUsers crates raw := by
  constructor
  · intro hnodup user huser other hother heq
    rw [inj_on_of_nodup_map hnodup huser hother heq]
  · intro hdistinct
    refine Nodup.map_on (fun user huser other hother heq => ?_) raw.users.nodupKeys.nodup
    exact raw.users.nodupKeys.eq_of_fst_eq huser hother (hdistinct user huser other hother heq)

lemma nodup_credentials (config : ValidServerConfig) : (config.credentials.map Prod.fst).Nodup := by
  unfold ValidServerConfig.credentials
  rw [map_map]
  exact config.users.keys_nodup

end

/-! ## validation -/

section
variable {crates : ServerCrates} {raw : RawServerConfig}

lemma validateServer_ok {config : ValidServerConfig} (h : validateServer crates raw = .ok config) :
    validateUsers crates raw.users.entries ∅ = .ok config.users := by
  unfold validateServer at h
  obtain ⟨users, husers, h⟩ := bind_ok_iff.mp h
  obtain ⟨fwmark, -, h⟩ := bind_ok_iff.mp h
  obtain ⟨sendThrough, -, h⟩ := bind_ok_iff.mp h
  obtain ⟨dialerLink, -, h⟩ := bind_ok_iff.mp h
  cases h
  exact husers

variable (h : ∀ user ∈ raw.users.entries, ∃ uuid, crates.parseUuid user.1 = .ok uuid)
include h

/-- **Validation** refuses a config with parsed users just for another field. -/
lemma refused_iff : (∃ e, validateServer crates raw = .error e) ↔ OtherwiseRefused crates raw := by
  obtain ⟨users, husers, -⟩ := validateUsers_ok (m := ∅) h
  unfold validateServer OtherwiseRefused
  rw [husers]
  cases validateFwmark raw.fwmark with
  | error e => exact iff_of_true ⟨e, rfl⟩ (.inl ⟨e, rfl⟩)
  | ok fwmark =>
    cases validateSendThrough crates raw.sendThrough with
    | error e => exact iff_of_true ⟨e, rfl⟩ (.inr (.inl ⟨e, rfl⟩))
    | ok sendThrough =>
      cases resolveServerDialerLink crates raw with
      | error e => exact iff_of_true ⟨e, rfl⟩ (.inr (.inr ⟨e, rfl⟩))
      | ok dialerLink =>
        refine iff_of_false ?_ (by simp)
        rintro ⟨e, he⟩
        cases he

/-- **The cardinality law**: an accepted config keeps the number of its users just if they are distinct. -/
lemma length_users_iff {config : ValidServerConfig} (hconfig : validateServer crates raw = .ok config) :
    config.users.entries.length = raw.users.entries.length ↔ DistinctUsers crates raw := by
  rw [length_validateUsers h (validateServer_ok hconfig), ← nodup_users_iff, ← dedup_eq_self]
  constructor
  · intro hlen
    exact (dedup_sublist _).eq_of_length (by rw [hlen, length_map])
  · intro hdedup
    rw [hdedup, length_map]

end

/-- **No password is lost**, exactly if no two texts are the same UUID or another field of the config is not
valid. -/
theorem credentials_kept_iff (crates : ServerCrates) (raw : RawServerConfig)
    (h : ∀ user ∈ raw.users.entries, ∃ uuid, crates.parseUuid user.1 = .ok uuid) :
    (KeepsCredentials crates raw ↔ DistinctUsers crates raw ∨ OtherwiseRefused crates raw) ∧
      ∀ config, validateServer crates raw = .ok config →
        (config.users.entries.length = raw.users.entries.length ↔ DistinctUsers crates raw) := by
  refine ⟨?_, fun config hconfig => length_users_iff h hconfig⟩
  rw [← refused_iff h]
  constructor
  · intro hkeeps
    by_cases hrefused : ∃ e, validateServer crates raw = .error e
    · exact .inr hrefused
    · refine .inl fun user huser other hother heq => ?_
      by_contra hne
      exact hrefused (hkeeps.rejects user huser other hother hne heq)
  · rintro (hdistinct | ⟨e, he⟩)
    · refine ⟨fun config hconfig => ?_, fun config hconfig user huser uuid huuid exporter => ?_, ?_⟩
      · exact (length_users_iff h hconfig).mpr hdistinct
      · have hlookup := lookup_of_mem (nodup_users_iff.mpr hdistinct) (validateServer_ok hconfig) user huser
          uuid huuid
        rw [tokenMatches_iff (nodup_credentials config)]
        exact ⟨_, mem_map_of_mem (mem_lookup_iff.mp hlookup), rfl⟩
      · exact fun user huser other hother hne heq => absurd (hdistinct user huser other hother heq) hne
    · have hnot : ∀ config, validateServer crates raw ≠ .ok config := by simp [he]
      exact ⟨fun config h => absurd h (hnot config), fun config h => absurd h (hnot config),
        fun _ _ _ _ _ _ => ⟨e, he⟩⟩

/-! ## two spellings of one UUID -/

def simpleUuid (s : String) : Except String Uuid :=
  match spelled (asBytes s) with
  | none => .error "invalid character"
  | some b => if h : b.length = authUuidLen then .ok ⟨b, h⟩ else .error "invalid length"

def simpleCrates : ServerCrates where
  url := plainCrates.url
  parseUuid := simpleUuid
  parseIp _ := .error "invalid IP address syntax"

def serverOf (user other : String) : RawServerConfig where
  dialerLink := ""
  disableOutboundUdp443 := false
  users := [⟨user, "first"⟩, ⟨other, "second"⟩].toAList
  fwmark := ""
  sendThrough := ""
  outbound := none
  congestionControl := ""

theorem credentials_kept_for_two_users : KeepsCredentials simpleCrates
    (serverOf "0000000000000000000000000000000a" "0000000000000000000000000000000b") :=
  (credentials_kept_iff _ _ (forall_mem_cons.mpr ⟨⟨_, rfl⟩, forall_mem_singleton.mpr ⟨_, rfl⟩⟩)).1.mpr
    (.inl (by unfold DistinctUsers; decide +kernel))

/-- the letter of a UUID is written in both cases: the password of one is lost -/
theorem password_lost_with_two_spellings : ¬ KeepsCredentials simpleCrates
    (serverOf "0000000000000000000000000000000A" "0000000000000000000000000000000a") := by
  intro h
  have hok : ∃ config, validateServer simpleCrates
      (serverOf "0000000000000000000000000000000A" "0000000000000000000000000000000a") = .ok config ∧
        config.users.entries.length = 1 := ⟨_, rfl, by decide +kernel⟩
  obtain ⟨config, hconfig, hone⟩ := hok
  have htwo := h.counts config hconfig
  rw [hone] at htwo
  exact absurd htwo (by decide +kernel)

end Zuicity
