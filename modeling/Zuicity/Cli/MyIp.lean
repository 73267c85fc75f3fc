import Zuicity.Lib.Total
import Zuicity.Net

/-!
# The answer of the name server (`parse_dns_a_response`)

The server asks for its own address, and walks over the questions and the answers of the response until
it finds one.  The offset is never behind the end, and is followed as what is left of the response.

* `skipDnsName`, `parseDnsAResponse`   as the source has them
* `DnsResponse.wire`                   a well-formed response
-/

namespace Zuicity

open List Res Be16

def lookupError (what : String) : String := "lookup myip.opendns.com: " ++ what

def skipDnsLabels : Nat → Bytes → Res String Bytes
  | 0, _ => .err (lookupError "dns name pointer loop")
  | _ + 1, [] => .err (lookupError "truncated dns name")
  | n + 1, len :: left =>
    if len &&& 0xc0 = 0xc0 then
      if left.length = 0 then .err (lookupError "truncated dns pointer") else .ok left.tail
    else if len = 0 then .ok left
    else if len.toNat > left.length then .err (lookupError "truncated dns label")
    else skipDnsLabels n (left.drop len.toNat)

def skipDnsName (left : Bytes) : Res String Bytes := skipDnsLabels 128 left

def dnsU16 (left : Bytes) (i : Nat) : Res String UInt16 := do
  let hi ← Res.index left i
  let lo ← Res.index left (i + 1)
  .ok (fromBeBytes hi lo)

def skipDnsQuestions : Nat → Bytes → Res String Bytes
  | 0, left => .ok left
  | n + 1, left => do
    let left ← skipDnsName left
    if left.length < 4 then .err (lookupError "truncated dns question")
    else skipDnsQuestions n (left.drop 4)

def findDnsAddress : Nat → Bytes → Res String Ipv4Addr
  | 0, _ => .err (lookupError "no address")
  | n + 1, left => do
    let left ← skipDnsName left
    if left.length < 10 then .err (lookupError "truncated dns answer")
    else do
      let recordType ← dnsU16 left 0
      let recordClass ← dnsU16 left 2
      let rdlength ← dnsU16 left 8
      let left := left.drop 10
      if left.length < rdlength.toNat then .err (lookupError "truncated dns rdata")
      else if recordType = 1 ∧ recordClass = 1 ∧ rdlength = 4 then do
        let a ← Res.index left 0
        let b ← Res.index left 1
        let c ← Res.index left 2
        let d ← Res.index left 3
        .ok (Ipv4Addr.new a b c d)
      else findDnsAddress n (left.drop rdlength.toNat)

def parseDnsAResponse (response : Bytes) (expectedId : UInt16) : Res String Ipv4Addr :=
  if response.length < 12 then .err (lookupError "short dns response")
  else do
    let id ← dnsU16 response 0
    if id ≠ expectedId then .err (lookupError "mismatched dns response")
    else do
      let qdcount ← dnsU16 response 4
      let ancount ← dnsU16 response 6
      findDnsAddress ancount.toNat (← skipDnsQuestions qdcount.toNat (response.drop 12))

/-! ## no index out of range -/

lemma total_skipDnsName (left : Bytes) : Total (fun _ => True) (skipDnsName left) := by
  have hlabels : ∀ n left, Total (fun _ => True) (skipDnsLabels n left) := by
    intro n
    induction n with
    | zero => exact fun _ => trivial
    | succ n ih =>
      intro left
      cases left with
      | nil => trivial
      | cons len left =>
        refine total_ite (fun _ => total_ite (fun _ => trivial) fun _ => trivial) fun _ => ?_
        exact total_ite (fun _ => trivial) fun _ => total_ite (fun _ => trivial) fun _ => ih _
  exact hlabels 128 left

lemma total_dnsU16_bind {α : Type} {P : α → Prop} {left : Bytes} {i : Nat} {f : UInt16 → Res String α}
    (h : i + 1 < left.length) (hf : ∀ v, Total P (f v)) : Total P (dnsU16 left i >>= f) := by
  refine total_bind ?_ fun v (_ : True) => hf v
  exact total_index_bind (by omega) fun _ => total_index_bind h fun _ => trivial

lemma total_skipDnsQuestions (n : Nat) : ∀ left, Total (fun _ => True) (skipDnsQuestions n left) := by
  induction n with
  | zero => exact fun _ => trivial
  | succ n ih =>
    intro left
    exact total_bind (total_skipDnsName left) fun _ _ => total_ite (fun _ => trivial) fun _ => ih _

lemma total_findDnsAddress (n : Nat) : ∀ left, Total (fun _ => True) (findDnsAddress n left) := by
  induction n with
  | zero => exact fun _ => trivial
  | succ n ih =>
    intro left
    refine total_bind (total_skipDnsName left) fun left _ => total_ite (fun _ => trivial) fun h => ?_
    iterate 3 refine total_dnsU16_bind (by omega) fun _ => ?_
    refine total_ite (fun _ => trivial) fun hdata => total_ite (fun haddress => ?_) fun _ => ih _
    rw [haddress.2.2] at hdata
    have hlen : 4 ≤ (left.drop 10).length := Nat.le_of_not_lt hdata
    iterate 4 refine total_index_bind (by omega) fun _ => ?_
    trivial

lemma parseDnsAResponse_ne_panic (response : Bytes) (expectedId : UInt16) :
    parseDnsAResponse response expectedId ≠ .panic := by
  refine Total.ne_panic (P := fun _ => True) (total_ite (fun _ => trivial) fun h => ?_)
  refine total_dnsU16_bind (by omega) fun _ => total_ite (fun _ => trivial) fun _ => ?_
  iterate 2 refine total_dnsU16_bind (by omega) fun _ => ?_
  exact total_bind (total_skipDnsQuestions _ _) fun _ _ => total_findDnsAddress _ _

/-! ## well-formed responses -/

inductive DnsNameEnd where
  | root
  | pointer (hi lo : UInt8) (h : hi &&& 0xc0 = 0xc0)

def DnsNameEnd.wire : DnsNameEnd → Bytes
  | .root => [0]
  | .pointer hi lo _ => [hi, lo]

structure DnsName where
  labels : List Bytes
  ending : DnsNameEnd
  few : labels.length ≤ 127
  sizes : ∀ label ∈ labels, 1 ≤ label.length ∧ label.length ≤ 63

def labelsWire (labels : List Bytes) : Bytes := labels.flatMap fun label => UInt8.ofNat label.length :: label

def DnsName.wire (name : DnsName) : Bytes := labelsWire name.labels ++ name.ending.wire

structure DnsQuestion where
  name : DnsName
  /-- type and class -/
  asked : Octets 4

def DnsQuestion.wire (q : DnsQuestion) : Bytes := q.name.wire ++ q.asked.octets

structure DnsRecord where
  name : DnsName
  recordType : UInt16
  recordClass : UInt16
  ttl : Octets 4
  data : Bytes
  fits : data.length < 65536

def DnsRecord.head (r : DnsRecord) : Bytes :=
  toBeBytes r.recordType ++ (toBeBytes r.recordClass ++ (r.ttl.octets ++
    toBeBytes (UInt16.ofNat r.data.length)))

def DnsRecord.wire (r : DnsRecord) : Bytes := r.name.wire ++ (r.head ++ r.data)

structure DnsResponse where
  id : UInt16
  flags : Octets 2
  questions : List DnsQuestion
  answers : List DnsRecord
  /-- NSCOUNT and ARCOUNT -/
  counts : Octets 4
  rest : Bytes
  qdcount : questions.length < 65536
  ancount : answers.length < 65536

def DnsResponse.header (m : DnsResponse) : Bytes :=
  toBeBytes m.id ++ (m.flags.octets ++ (toBeBytes (UInt16.ofNat m.questions.length) ++
    (toBeBytes (UInt16.ofNat m.answers.length) ++ m.counts.octets)))

def DnsResponse.wire (m : DnsResponse) : Bytes :=
  m.header ++ (m.questions.flatMap DnsQuestion.wire ++ (m.answers.flatMap DnsRecord.wire ++ m.rest))

/-- the address in a record of type A and class IN -/
def DnsRecord.address (r : DnsRecord) : Option Ipv4Addr :=
  if h : r.recordType = 1 ∧ r.recordClass = 1 ∧ r.data.length = 4 then some ⟨r.data, h.2.2⟩ else none

/-! ## what is found -/

lemma skipDnsLabels_wire (ending : DnsNameEnd) (post : Bytes) (labels : List Bytes) : ∀ n, labels.length < n →
    (∀ label ∈ labels, 1 ≤ label.length ∧ label.length ≤ 63) →
    skipDnsLabels n (labelsWire labels ++ (ending.wire ++ post)) = .ok post := by
  induction labels with
  | nil =>
    intro n hn _
    obtain ⟨n, rfl⟩ := Nat.exists_eq_add_one_of_ne_zero (Nat.ne_of_gt hn)
    cases ending with
    | root => rfl
    | pointer hi lo h => exact (if_pos h).trans (if_neg (Nat.succ_ne_zero _))
  | cons label labels ih =>
    intro n hn hsizes
    obtain ⟨n, rfl⟩ := Nat.exists_eq_add_one_of_ne_zero (Nat.ne_of_gt (Nat.zero_lt_of_lt hn))
    obtain ⟨hpos, hle⟩ := hsizes label mem_cons_self
    have hsmall : ∀ k < 64, UInt8.ofNat k &&& 0xc0 = 0 := by decide
    have hnat : (UInt8.ofNat label.length).toNat = label.length := by
      rw [UInt8.toNat_ofNat']
      omega
    have hne : UInt8.ofNat label.length ≠ 0 := by
      intro h
      rw [h] at hnat
      exact Nat.ne_of_lt hpos hnat
    have hwire : labelsWire (label :: labels) ++ (ending.wire ++ post) = UInt8.ofNat label.length ::
        (label ++ (labelsWire labels ++ (ending.wire ++ post))) := by simp [labelsWire]
    rw [hwire, skipDnsLabels, hsmall _ (Nat.lt_succ_of_le hle), if_neg (by decide), if_neg hne, hnat, if_neg,
      drop_left]
    · exact ih n (Nat.lt_of_succ_lt_succ hn) fun l hl => hsizes l (mem_cons_of_mem _ hl)
    · exact Nat.not_lt.mpr (prefix_append _ _).length_le

lemma skipDnsName_wire (name : DnsName) (post : Bytes) : skipDnsName (name.wire ++ post) = .ok post := by
  unfold skipDnsName DnsName.wire
  rw [append_assoc]
  exact skipDnsLabels_wire name.ending post name.labels 128 (Nat.lt_succ_of_le name.few) name.sizes

lemma skipDnsQuestions_wire (post : Bytes) (questions : List DnsQuestion) :
    skipDnsQuestions questions.length (questions.flatMap DnsQuestion.wire ++ post) = .ok post := by
  induction questions with
  | nil => rfl
  | cons q questions ih =>
    have hlen := q.asked.length_eq
    rw [length_cons, flatMap_cons, DnsQuestion.wire, append_assoc, append_assoc, skipDnsQuestions,
      skipDnsName_wire, ok_bind, if_neg, drop_left' hlen, ih]
    rw [length_append, hlen]
    omega

lemma dnsU16_head (r : DnsRecord) (post : Bytes) : dnsU16 (r.head ++ post) 0 = .ok r.recordType ∧
    dnsU16 (r.head ++ post) 2 = .ok r.recordClass ∧
    dnsU16 (r.head ++ post) 8 = .ok (UInt16.ofNat r.data.length) := by
  obtain ⟨name, recordType, recordClass, ⟨ttl, httl⟩, data, fits⟩ := r
  obtain ⟨a, b, c, d, rfl⟩ := length_eq_four.mp httl
  exact ⟨congrArg Res.ok (fromBeBytes_toBeBytes _), congrArg Res.ok (fromBeBytes_toBeBytes _),
    congrArg Res.ok (fromBeBytes_toBeBytes _)⟩

lemma findDnsAddress_wire (post : Bytes) (answers : List DnsRecord) :
    findDnsAddress answers.length (answers.flatMap DnsRecord.wire ++ post)
      = Res.okOr (answers.findSome? DnsRecord.address) (lookupError "no address") := by
  induction answers with
  | nil => rfl
  | cons r answers ih =>
    let more := answers.flatMap DnsRecord.wire ++ post
    have hwire : (r :: answers).flatMap DnsRecord.wire ++ post = r.name.wire ++ (r.head ++ (r.data ++ more)) := by
      simp [more, DnsRecord.wire]
    have hlen := UInt16.toNat_ofNat_of_lt' r.fits
    have hhead : r.head.length = 10 := by simp [DnsRecord.head]
    have hfour : UInt16.ofNat r.data.length = 4 ↔ r.data.length = 4 := by
      rw [← UInt16.toNat_inj, hlen]
      exact Iff.rfl
    obtain ⟨htype, hclass, hsize⟩ := dnsU16_head r (r.data ++ more)
    rw [length_cons, findDnsAddress, hwire, skipDnsName_wire, ok_bind, if_neg, htype, ok_bind, hclass, ok_bind,
      hsize, ok_bind, ← hhead, drop_left]
    · dsimp only
      rw [hlen, if_neg (Nat.not_lt.mpr (prefix_append _ _).length_le), drop_left]
      by_cases haddress : r.recordType = 1 ∧ r.recordClass = 1 ∧ r.data.length = 4
      · have hfound : r.address = some ⟨r.data, haddress.2.2⟩ := dif_pos haddress
        rw [if_pos (haddress.imp_right (And.imp_right hfour.mpr)), findSome?_cons, hfound]
        obtain ⟨a, b, c, d, hdata⟩ := length_eq_four.mp haddress.2.2
        simp only [hdata]
        rfl
      · have hnone : r.address = none := dif_neg haddress
        rw [if_neg fun h => haddress (h.imp_right (And.imp_right hfour.mp)), findSome?_cons, hnone]
        exact ih
    · rw [length_append, hhead]
      omega

/-- **The address in a response.**  No index is out of range; and in a well-formed response with the expected id, the
first record of type A, class IN and length 4 is found, whatever precedes it. -/
theorem dns_response_parsed : (∀ response expectedId, parseDnsAResponse response expectedId ≠ .panic) ∧
    ∀ m : DnsResponse, parseDnsAResponse m.wire m.id
      = Res.okOr (m.answers.findSome? DnsRecord.address) (lookupError "no address") := by
  refine ⟨parseDnsAResponse_ne_panic, fun m => ?_⟩
  have hlen : m.header.length = 12 := by simp [DnsResponse.header]
  have hids (post : Bytes) : dnsU16 (m.header ++ post) 0 = .ok m.id ∧
      dnsU16 (m.header ++ post) 4 = .ok (UInt16.ofNat m.questions.length) ∧
      dnsU16 (m.header ++ post) 6 = .ok (UInt16.ofNat m.answers.length) := by
    obtain ⟨id, ⟨flags, hflags⟩, questions, answers, counts, rest, hq, ha⟩ := m
    obtain ⟨a, b, rfl⟩ := length_eq_two.mp hflags
    exact ⟨congrArg Res.ok (fromBeBytes_toBeBytes _), congrArg Res.ok (fromBeBytes_toBeBytes _),
      congrArg Res.ok (fromBeBytes_toBeBytes _)⟩
  obtain ⟨hid, hqdcount, hancount⟩ := hids (m.questions.flatMap DnsQuestion.wire ++
    (m.answers.flatMap DnsRecord.wire ++ m.rest))
  rw [parseDnsAResponse, DnsResponse.wire, hid, ok_bind, if_neg (not_not.mpr rfl), hqdcount, ok_bind, hancount,
    ok_bind, UInt16.toNat_ofNat_of_lt' m.qdcount, UInt16.toNat_ofNat_of_lt' m.ancount, if_neg, ← hlen, drop_left,
    skipDnsQuestions_wire, ok_bind, findDnsAddress_wire]
  rw [← hlen]
  exact Nat.not_lt.mpr (prefix_append _ _).length_le

end Zuicity
