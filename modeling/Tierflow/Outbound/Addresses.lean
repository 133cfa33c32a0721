import Tierflow.Foundation.AddressBlocks

/-! Addresses of hosts. An address has four bytes or sixteen, and some of those with sixteen stand for one with four.
The addresses that no request may go to are listed as nets; here they are ranges of numbers. -/
namespace Tierflow
namespace Outbound
open AddressBlocks

/-! ## Addresses and nets -/

structure IP where
  bytes : List ℕ
  length : bytes.length = 4 ∨ bytes.length = 16
  byte : Bytes bytes
  deriving DecidableEq

/-- The four bytes of an address that has no more, or stands for one. -/
def IP.to4 (ip : IP) : Option (List ℕ) :=
  if ip.bytes.length = 4 then some ip.bytes
  else if ip.bytes.take 12 = [0,0,0,0,0,0,0,0,0,0,255,255] then some (ip.bytes.drop 12)
  else none

def IP.equal (ip x : IP) : Bool :=
  if ip.bytes.length = x.bytes.length then ip.bytes = x.bytes else ip.to4 = x.to4

def netIPv4 (a b c d : Fin 256) : IP where
  bytes := [0,0,0,0,0,0,0,0,0,0,255,255,a,b,c,d]
  length := .inr rfl
  byte := by simp [Bytes]

def netIPv6 (g0 g1 g2 g3 g4 g5 g6 g7 : Fin 65536) : IP where
  bytes := [g0,g1,g2,g3,g4,g5,g6,g7].flatMap (fun g => [g.val/256,g.val%256])
  length := .inr rfl
  byte := by
    intro b hb
    obtain ⟨g,-,hb⟩ := List.mem_flatMap.mp hb
    have := g.isLt
    rcases List.mem_pair.mp hb with rfl | rfl <;> omega

structure IPNet where
  ip : IP
  mask : List ℕ
  deriving DecidableEq

/-- The bytes that a net compares, and its mask for them. -/
def networkNumberAndMask (n : IPNet) : List ℕ × List ℕ :=
  let ip := n.ip.to4.getD n.ip.bytes
  if n.mask.length = 4 then if ip.length = 4 then (ip,n.mask) else ([],[])
  else if n.mask.length = 16 then if ip.length = 4 then (ip,n.mask.drop 12) else (ip,n.mask)
  else ([],[])

def IPNet.contains (n : IPNet) (ip : IP) : Bool :=
  let x := ip.to4.getD ip.bytes
  let number := networkNumberAndMask n
  x.length = number.1.length && agree number.2 number.1 x

/-! ## Special addresses -/

def firstTwo (l : List ℕ) (p : ℕ → ℕ → Bool) : Bool :=
  match l with
  | a::b::_ => p a b
  | _ => false

/-- An address that anybody may reach. -/
def publicAddress : IP := netIPv4 8 8 8 8

def IP.isUnspecified (ip : IP) : Bool := ip.equal (netIPv4 0 0 0 0) || ip.equal (netIPv6 0 0 0 0 0 0 0 0)

def IP.isLoopback (ip : IP) : Bool :=
  match ip.to4 with
  | some ip4 => ip4.head? = some 127
  | none => ip.equal (netIPv6 0 0 0 0 0 0 0 1)

def IP.isLinkLocalUnicast (ip : IP) : Bool :=
  match ip.to4 with
  | some ip4 => firstTwo ip4 (fun a b => a = 169 && b = 254)
  | none => firstTwo ip.bytes (fun a b => a = 0xfe && (192 &&& b) = 0x80)

def IP.isLinkLocalMulticast (ip : IP) : Bool :=
  match ip.to4 with
  | some ip4 => ip4.take 3 = [224,0,0]
  | none => firstTwo ip.bytes (fun a b => a = 0xff && (15 &&& b) = 2)

def IP.isInterfaceLocalMulticast (ip : IP) : Bool :=
  ip.bytes.length = 16 && firstTwo ip.bytes (fun a b => a = 0xff && (15 &&& b) = 1)

def IP.isPrivate (ip : IP) : Bool :=
  match ip.to4 with
  | some ip4 => firstTwo ip4 (fun a b => a = 10 || a = 172 && (240 &&& b) = 16 || a = 192 && b = 168)
  | none => firstTwo ip.bytes (fun a _ => (254 &&& a) = 0xfc)

def privateIPv4Nets : List IPNet :=
  [⟨netIPv4 0 0 0 0,mask 8 4⟩,⟨netIPv4 10 0 0 0,mask 8 4⟩,⟨netIPv4 100 64 0 0,mask 10 4⟩,⟨netIPv4 127 0 0 0,mask 8 4⟩,
    ⟨netIPv4 169 254 0 0,mask 16 4⟩,⟨netIPv4 172 16 0 0,mask 12 4⟩,⟨netIPv4 192 0 0 0,mask 24 4⟩,
    ⟨netIPv4 192 0 2 0,mask 24 4⟩,⟨netIPv4 192 168 0 0,mask 16 4⟩,⟨netIPv4 198 18 0 0,mask 15 4⟩,
    ⟨netIPv4 198 51 100 0,mask 24 4⟩,⟨netIPv4 203 0 113 0,mask 24 4⟩,⟨netIPv4 224 0 0 0,mask 4 4⟩,
    ⟨netIPv4 240 0 0 0,mask 4 4⟩,⟨netIPv4 255 255 255 255,mask 32 4⟩]

/-- The nets as they are read from their texts. -/
def privateIPv6Nets : List IPNet :=
  [⟨netIPv6 0 0 0 0 0 0 0 0,mask 128 16⟩,⟨netIPv6 0 0 0 0 0 0 0 1,mask 128 16⟩,
    ⟨netIPv6 0 0 0 0 0 0xffff 0 0,mask 96 16⟩,⟨netIPv6 0x64 0xff9b 0 0 0 0 0 0,mask 96 16⟩,
    ⟨netIPv6 0x100 0 0 0 0 0 0 0,mask 64 16⟩,⟨netIPv6 0x2001 0 0 0 0 0 0 0,mask 23 16⟩,
    ⟨netIPv6 0x2001 0xdb8 0 0 0 0 0 0,mask 32 16⟩,⟨netIPv6 0xfc00 0 0 0 0 0 0 0,mask 7 16⟩,
    ⟨netIPv6 0xfe80 0 0 0 0 0 0 0,mask 10 16⟩,⟨netIPv6 0xff00 0 0 0 0 0 0 0,mask 8 16⟩]

def isPrivateIP (ip : Option IP) : Bool :=
  match ip with
  | none => true
  | some ip =>
    if ip.isUnspecified then true
    else if ip.isLoopback || ip.isLinkLocalUnicast || ip.isLinkLocalMulticast then true
    else if ip.isInterfaceLocalMulticast then true
    else if ip.to4.isSome then privateIPv4Nets.any (fun privateNet => privateNet.contains ip)
    else privateIPv6Nets.any (fun privateNet => privateNet.contains ip) || ip.isPrivate

/-! ## Ranges -/

def v4 (a b c d : ℕ) : ℕ := value [a,b,c,d]

def v6 (g0 g1 g2 g3 g4 g5 g6 g7 : ℕ) : ℕ :=
  value ([g0,g1,g2,g3,g4,g5,g6,g7].flatMap (fun g => [g/256,g%256]))

/-- The first and the last address of each special range. -/
def privateRanges4 : List (ℕ × ℕ) :=
  [(v4 0 0 0 0,v4 0 255 255 255),(v4 10 0 0 0,v4 10 255 255 255),(v4 100 64 0 0,v4 100 127 255 255),
    (v4 127 0 0 0,v4 127 255 255 255),(v4 169 254 0 0,v4 169 254 255 255),(v4 172 16 0 0,v4 172 31 255 255),
    (v4 192 0 0 0,v4 192 0 0 255),(v4 192 0 2 0,v4 192 0 2 255),(v4 192 168 0 0,v4 192 168 255 255),
    (v4 198 18 0 0,v4 198 19 255 255),(v4 198 51 100 0,v4 198 51 100 255),(v4 203 0 113 0,v4 203 0 113 255),
    (v4 224 0 0 0,v4 239 255 255 255),(v4 240 0 0 0,v4 255 255 255 255),(v4 255 255 255 255,v4 255 255 255 255)]

def privateRanges6 : List (ℕ × ℕ) :=
  [(v6 0 0 0 0 0 0 0 0,v6 0 0 0 0 0 0 0 0),(v6 0 0 0 0 0 0 0 1,v6 0 0 0 0 0 0 0 1),
    (v6 0x64 0xff9b 0 0 0 0 0 0,v6 0x64 0xff9b 0 0 0 0 0xffff 0xffff),
    (v6 0x100 0 0 0 0 0 0 0,v6 0x100 0 0 0 0xffff 0xffff 0xffff 0xffff),
    (v6 0x2001 0 0 0 0 0 0 0,v6 0x2001 0x1ff 0xffff 0xffff 0xffff 0xffff 0xffff 0xffff),
    (v6 0x2001 0xdb8 0 0 0 0 0 0,v6 0x2001 0xdb8 0xffff 0xffff 0xffff 0xffff 0xffff 0xffff),
    (v6 0xfc00 0 0 0 0 0 0 0,v6 0xfdff 0xffff 0xffff 0xffff 0xffff 0xffff 0xffff 0xffff),
    (v6 0xfe80 0 0 0 0 0 0 0,v6 0xfebf 0xffff 0xffff 0xffff 0xffff 0xffff 0xffff 0xffff),
    (v6 0xff00 0 0 0 0 0 0 0,v6 0xffff 0xffff 0xffff 0xffff 0xffff 0xffff 0xffff 0xffff)]

/-- An address of one of the special ranges, those of addresses with four bytes or those of the others. -/
def Special (ip : IP) : Prop :=
  match ip.to4 with
  | some ip4 => ∃ r∈privateRanges4, r.1 ≤ value ip4 ∧ value ip4 ≤ r.2
  | none => ∃ r∈privateRanges6, r.1 ≤ value ip.bytes ∧ value ip.bytes ≤ r.2

/-! ## Bytes -/

section BytesOf
variable {ip x : IP} {l : List ℕ}

lemma mask_length (ones n : ℕ) : (mask ones n).length = n := by
  induction n generalizing ones with
  | zero => rfl
  | succ n ih =>
    rw [mask]
    split_ifs <;> rw [List.length_cons,ih]

lemma to4_some (h : ip.to4 = some l) : l.length = 4 ∧ Bytes l := by
  unfold IP.to4 at h
  split_ifs at h with h4 hmapped
  · obtain rfl := Option.some.inj h
    exact ⟨h4,ip.byte⟩
  · obtain rfl := Option.some.inj h
    have h16 := ip.length.resolve_left h4
    exact ⟨by rw [List.length_drop,h16],fun b hb => ip.byte b (List.mem_of_mem_drop hb)⟩

lemma length_of_to4_none (h : ip.to4 = none) : ip.bytes.length = 16 := by
  refine ip.length.resolve_left fun h4 => ?_
  rw [IP.to4,if_pos h4] at h
  cases h

lemma to4_of_equal (h : ip.equal x = true) : ip.to4 = x.to4 := by
  unfold IP.equal at h
  split_ifs at h
  · rw [IP.to4,IP.to4,of_decide_eq_true h]
  · exact of_decide_eq_true h

lemma to4_netIPv4 (a b c d : Fin 256) : (netIPv4 a b c d).to4 = some [a.val,b.val,c.val,d.val] := rfl

end BytesOf

/-! ## Blocks -/

section Blocks
variable {ip : IP} {l : List ℕ}

lemma contains_netIPv4 (a b c d : Fin 256) (ones : ℕ) (h : ip.to4 = some l) :
    (IPNet.mk (netIPv4 a b c d) (mask ones 4)).contains ip = agree (mask ones 4) [a.val,b.val,c.val,d.val] l := by
  have hnumber : networkNumberAndMask ⟨netIPv4 a b c d,mask ones 4⟩ = ([a.val,b.val,c.val,d.val],mask ones 4) := by
    rw [networkNumberAndMask,to4_netIPv4,if_pos (mask_length ones 4)]
    rfl
  rw [IPNet.contains,hnumber,h,Option.getD_some]
  simp [(to4_some h).1]

/-- A net of addresses with four bytes and the range that it covers. -/
def Covers4 (n : IPNet) (r : ℕ × ℕ) : Prop :=
  ∀ ip l, ip.to4 = some l → (n.contains ip = true ↔ r.1 ≤ value l ∧ value l ≤ r.2)

lemma covers4_mk (a b c d : Fin 256) {ones last : ℕ} (hones : ones≤32) (haligned : 2^(32-ones)∣v4 a b c d)
    (hlast : v4 a b c d+2^(32-ones) = last+1) : Covers4 ⟨netIPv4 a b c d,mask ones 4⟩ (v4 a b c d,last) := by
  intro ip l h
  have hbytes : Bytes [a.val,b.val,c.val,d.val] := by simp [Bytes]
  obtain ⟨hlen,hl⟩ := to4_some h
  rw [contains_netIPv4 a b c d ones h]
  refine (agree_iff_range hbytes hl hlen.symm hones haligned).trans ?_
  have hval : value [a.val,b.val,c.val,d.val] = v4 a b c d := rfl
  have hexp : 8*[a.val,b.val,c.val,d.val].length-ones = 32-ones := rfl
  rw [hval,hexp,hlast,Nat.lt_succ_iff]

theorem privateIPv4Nets_cover : List.Forall₂ Covers4 privateIPv4Nets privateRanges4 :=
  .cons (covers4_mk 0 0 0 0 (by decide) (by decide) (by decide)) <|
  .cons (covers4_mk 10 0 0 0 (by decide) (by decide) (by decide)) <|
  .cons (covers4_mk 100 64 0 0 (by decide) (by decide) (by decide)) <|
  .cons (covers4_mk 127 0 0 0 (by decide) (by decide) (by decide)) <|
  .cons (covers4_mk 169 254 0 0 (by decide) (by decide) (by decide)) <|
  .cons (covers4_mk 172 16 0 0 (by decide) (by decide) (by decide)) <|
  .cons (covers4_mk 192 0 0 0 (by decide) (by decide) (by decide)) <|
  .cons (covers4_mk 192 0 2 0 (by decide) (by decide) (by decide)) <|
  .cons (covers4_mk 192 168 0 0 (by decide) (by decide) (by decide)) <|
  .cons (covers4_mk 198 18 0 0 (by decide) (by decide) (by decide)) <|
  .cons (covers4_mk 198 51 100 0 (by decide) (by decide) (by decide)) <|
  .cons (covers4_mk 203 0 113 0 (by decide) (by decide) (by decide)) <|
  .cons (covers4_mk 224 0 0 0 (by decide) (by decide) (by decide)) <|
  .cons (covers4_mk 240 0 0 0 (by decide) (by decide) (by decide)) <|
  .cons (covers4_mk 255 255 255 255 (by decide) (by decide) (by decide)) <|
  .nil

/-- A net of addresses with sixteen bytes and the range that it covers. -/
def Covers6 (n : IPNet) (r : ℕ × ℕ) : Prop :=
  ∀ ip, ip.to4 = none → (n.contains ip = true ↔ r.1 ≤ value ip.bytes ∧ value ip.bytes ≤ r.2)

lemma contains_of_to4_none {x : IP} (hx : x.to4 = none) (ones : ℕ) (h : ip.to4 = none) :
    (IPNet.mk x (mask ones 16)).contains ip = agree (mask ones 16) x.bytes ip.bytes := by
  have hnumber : networkNumberAndMask ⟨x,mask ones 16⟩ = (x.bytes,mask ones 16) := by
    have h16 := length_of_to4_none hx
    rw [networkNumberAndMask,hx,Option.getD_none,mask_length,if_neg (by norm_num),if_pos rfl,h16,if_neg (by norm_num)]
  rw [IPNet.contains,hnumber,h,Option.getD_none]
  simp [length_of_to4_none h,length_of_to4_none hx]

lemma covers6_mk {x : IP} (hx : x.to4 = none) {ones first last : ℕ} (hones : ones≤128) (hfirst : value x.bytes = first)
    (haligned : 2^(128-ones)∣first) (hlast : first+2^(128-ones) = last+1) :
    Covers6 ⟨x,mask ones 16⟩ (first,last) := by
  intro ip h
  have hxlen := length_of_to4_none hx
  have hlen := length_of_to4_none h
  have hexp : 8*x.bytes.length-ones = 128-ones := by rw [hxlen]
  have hmask : mask ones 16 = mask ones x.bytes.length := by rw [hxlen]
  rw [contains_of_to4_none hx ones h,hmask]
  have hones' : ones≤8*x.bytes.length := by omega
  have hdvd : 2^(8*x.bytes.length-ones)∣value x.bytes := by rwa [hexp,hfirst]
  rw [agree_iff_range x.byte ip.byte (hxlen.trans hlen.symm) hones' hdvd,hexp,hfirst,hlast,Nat.lt_succ_iff]

/-- The net of the addresses that stand for one with four bytes contains no other address. -/
lemma mapped_not_contains (h : ip.to4 = none) :
    (IPNet.mk (netIPv6 0 0 0 0 0 0xffff 0 0) (mask 96 16)).contains ip = false := by
  have hnumber : (networkNumberAndMask ⟨netIPv6 0 0 0 0 0 0xffff 0 0,mask 96 16⟩).1.length = 4 := by decide
  rw [IPNet.contains,h,Option.getD_none,length_of_to4_none h,hnumber]
  rfl

/-- The nets for addresses with sixteen bytes, without the one for those that stand for an address with four. -/
def nets6 : List IPNet :=
  privateIPv6Nets.filter (fun n => n≠⟨netIPv6 0 0 0 0 0 0xffff 0 0,mask 96 16⟩)

lemma any_nets6 (h : ip.to4 = none) :
    (∃ n∈privateIPv6Nets, n.contains ip = true) ↔ ∃ n∈nets6, n.contains ip = true := by
  constructor
  · rintro ⟨n,hn,hc⟩
    refine ⟨n,List.mem_filter.mpr ⟨hn,decide_eq_true fun hmapped => ?_⟩,hc⟩
    rw [hmapped,mapped_not_contains h] at hc
    cases hc
  · rintro ⟨n,hn,hc⟩
    exact ⟨n,(List.mem_filter.mp hn).1,hc⟩

theorem nets6_cover : List.Forall₂ Covers6 nets6 privateRanges6 :=
  .cons (covers6_mk (by decide) (by decide) rfl (by decide) (by decide)) <|
  .cons (covers6_mk (by decide) (by decide) rfl (by decide) (by decide)) <|
  .cons (covers6_mk (by decide) (by decide) rfl (by decide) (by decide)) <|
  .cons (covers6_mk (by decide) (by decide) rfl (by decide) (by decide)) <|
  .cons (covers6_mk (by decide) (by decide) rfl (by decide) (by decide)) <|
  .cons (covers6_mk (by decide) (by decide) rfl (by decide) (by decide)) <|
  .cons (covers6_mk (by decide) (by decide) rfl (by decide) (by decide)) <|
  .cons (covers6_mk (by decide) (by decide) rfl (by decide) (by decide)) <|
  .cons (covers6_mk (by decide) (by decide) rfl (by decide) (by decide)) <|
  .nil

/-- What holds of nets holds of their ranges. -/
lemma exists_congr_of_forall₂ {α β : Type*} {R : α → β → Prop} {P : α → Prop} {Q : β → Prop} {l : List α} {m : List β}
    (h : List.Forall₂ R l m) (hPQ : ∀ a b, R a b → (P a ↔ Q b)) : (∃ a∈l, P a) ↔ ∃ b∈m, Q b := by
  induction h with
  | nil => simp
  | cons hab _ ih => rw [List.exists_mem_cons_iff,List.exists_mem_cons_iff,ih,hPQ _ _ hab]

end Blocks

/-! ## Private addresses -/

section Private
variable {ip : IP} {l : List ℕ} {p : ℕ → ℕ → Bool}

lemma firstTwo_eq_true (h : firstTwo l p = true) : ∃ a b t, l = a::b::t ∧ p a b = true := by
  match l,h with
  | a::b::t,h => exact ⟨a,b,t,rfl,h⟩

lemma bounds_of_firstTwo (hl : Bytes l) (hlen : l.length = 4) (h : firstTwo l p = true) :
    ∃ a b, p a b = true ∧ (a*256+b)*65536≤value l ∧ value l<(a*256+b+1)*65536 := by
  obtain ⟨a,b,t,rfl,hp⟩ := firstTwo_eq_true h
  have ht : t.length = 2 := by simpa using hlen
  have hv := value_lt (fun c hc => hl c (List.mem_cons_of_mem _ (List.mem_cons_of_mem _ hc)) : Bytes t)
  refine ⟨a,b,hp,?_⟩
  rw [value,value,List.length_cons,ht] at *
  omega

/-- The standard predicates say nothing of an address with four bytes that its nets do not. -/
lemma special_of_standard4 (h4 : ip.to4 = some l)
    (h : ip.isUnspecified = true ∨ ip.isLoopback = true ∨ ip.isLinkLocalUnicast = true ∨
      ip.isLinkLocalMulticast = true ∨ ip.isInterfaceLocalMulticast = true) : Special ip := by
  obtain ⟨hlen,hl⟩ := to4_some h4
  have hspecial : (∃ r∈privateRanges4, r.1 ≤ value l ∧ value l ≤ r.2) → Special ip := by
    intro hr
    rwa [Special,h4]
  apply hspecial
  rcases h with h | h | h | h | h
  · -- only the address with four zeros is unspecified
    rw [IP.isUnspecified,Bool.or_eq_true] at h
    rcases h with h | h
    · have hzero := h4.symm.trans (to4_of_equal h)
      rw [to4_netIPv4,Option.some.injEq] at hzero
      exact ⟨(v4 0 0 0 0,v4 0 255 255 255),by decide,by rw [hzero]; decide⟩
    · have hnone := h4.symm.trans (to4_of_equal h)
      cases hnone
  · rw [IP.isLoopback,h4,decide_eq_true_eq] at h
    match l,h with
    | a::t,h =>
      obtain rfl : a = 127 := Option.some.inj h
      have ht : t.length = 3 := by simpa using hlen
      have hb := value_cons_bounds 127 (fun c hc => hl c (List.mem_cons_of_mem _ hc) : Bytes t)
      rw [ht] at hb
      have hrange : v4 127 0 0 0 = 127*256^3 ∧ v4 127 255 255 255+1 = 128*256^3 := by decide
      exact ⟨(v4 127 0 0 0,v4 127 255 255 255),by decide,by dsimp only; omega⟩
  · rw [IP.isLinkLocalUnicast,h4] at h
    obtain ⟨a,b,hab,hb⟩ := bounds_of_firstTwo hl hlen h
    simp only [Bool.and_eq_true,decide_eq_true_eq] at hab
    have hrange : v4 169 254 0 0 = (169*256+254)*65536 ∧ v4 169 254 255 255+1 = (169*256+255)*65536 := by decide
    exact ⟨(v4 169 254 0 0,v4 169 254 255 255),by decide,by dsimp only; omega⟩
  · rw [IP.isLinkLocalMulticast,h4,decide_eq_true_eq] at h
    match l,h with
    | a::t,h =>
      obtain rfl : a = 224 := (List.cons.inj h).1
      have ht : t.length = 3 := by simpa using hlen
      have hb := value_cons_bounds 224 (fun c hc => hl c (List.mem_cons_of_mem _ hc) : Bytes t)
      rw [ht] at hb
      have hrange : v4 224 0 0 0 = 224*256^3 ∧ v4 239 255 255 255+1 = 240*256^3 := by decide
      exact ⟨(v4 224 0 0 0,v4 239 255 255 255),by decide,by dsimp only; omega⟩
  · -- an address that stands for one with four bytes begins with a zero
    rw [IP.isInterfaceLocalMulticast,Bool.and_eq_true,decide_eq_true_eq] at h
    obtain ⟨a,b,t,ht,hab⟩ := firstTwo_eq_true h.2
    rw [IP.to4,if_neg (by omega),ht] at h4
    split_ifs at h4 with hmapped
    have hzero : a = 0 := (List.cons.inj hmapped).1
    rw [hzero] at hab
    cases hab

lemma bytes_of_equal {x : IP} (h : ip.to4 = none) (hx : x.to4 = none) (heq : ip.equal x = true) :
    ip.bytes = x.bytes := by
  rw [IP.equal,if_pos ((length_of_to4_none h).trans (length_of_to4_none hx).symm)] at heq
  exact of_decide_eq_true heq

lemma bounds_of_firstTwo6 (hl : Bytes l) (hlen : l.length = 16) (h : firstTwo l p = true) :
    ∃ a b, a<256 ∧ b<256 ∧ p a b = true ∧ (a*256+b)*256^14≤value l ∧ value l<(a*256+b+1)*256^14 := by
  obtain ⟨a,b,t,rfl,hp⟩ := firstTwo_eq_true h
  have ht : t.length = 14 := by simpa using hlen
  have hv := value_lt (fun c hc => hl c (List.mem_cons_of_mem _ (List.mem_cons_of_mem _ hc)) : Bytes t)
  refine ⟨a,b,hl a (by simp),hl b (by simp),hp,?_⟩
  rw [value,value,List.length_cons,ht] at *
  omega

lemma special_of_standard6 (h6 : ip.to4 = none)
    (h : ip.isUnspecified = true ∨ ip.isLoopback = true ∨ ip.isLinkLocalUnicast = true ∨
      ip.isLinkLocalMulticast = true ∨ ip.isInterfaceLocalMulticast = true ∨ ip.isPrivate = true) : Special ip := by
  have hlen := length_of_to4_none h6
  have hspecial : (∃ r∈privateRanges6, r.1 ≤ value ip.bytes ∧ value ip.bytes ≤ r.2) → Special ip := by
    intro hr
    rwa [Special,h6]
  -- every multicast address begins with the byte 255
  have hmulticast : ∀ {p : ℕ → Bool}, firstTwo ip.bytes (fun a b => a = 0xff && p b) = true → Special ip := by
    intro p h
    obtain ⟨a,b,-,hlt,hab,hb⟩ := bounds_of_firstTwo6 ip.byte hlen h
    have hbyte : a = 0xff := of_decide_eq_true (Bool.and_eq_true_iff.mp hab).1
    have hrange : v6 0xff00 0 0 0 0 0 0 0 = 255*256*256^14 ∧
        v6 0xffff 0xffff 0xffff 0xffff 0xffff 0xffff 0xffff 0xffff+1 = 256*256*256^14 := by decide
    refine hspecial ⟨(v6 0xff00 0 0 0 0 0 0 0,v6 0xffff 0xffff 0xffff 0xffff 0xffff 0xffff 0xffff 0xffff),by decide,?_⟩
    dsimp only
    omega
  rcases h with h | h | h | h | h | h
  · rw [IP.isUnspecified,Bool.or_eq_true] at h
    rcases h with h | h
    · have hsome := h6.symm.trans (to4_of_equal h)
      cases hsome
    · refine hspecial ⟨(v6 0 0 0 0 0 0 0 0,v6 0 0 0 0 0 0 0 0),by decide,?_⟩
      rw [bytes_of_equal h6 (by decide) h]
      exact ⟨le_rfl,le_rfl⟩
  · rw [IP.isLoopback,h6] at h
    refine hspecial ⟨(v6 0 0 0 0 0 0 0 1,v6 0 0 0 0 0 0 0 1),by decide,?_⟩
    rw [bytes_of_equal h6 (by decide) h]
    exact ⟨le_rfl,le_rfl⟩
  · rw [IP.isLinkLocalUnicast,h6] at h
    obtain ⟨a,b,ha,hb,hab,hv⟩ := bounds_of_firstTwo6 ip.byte hlen h
    simp only [Bool.and_eq_true,decide_eq_true_eq] at hab
    have hbits : b/2^6*2^6 = 0x80 := (land_mask hb (by norm_num)).symm.trans hab.2
    have hrange : v6 0xfe80 0 0 0 0 0 0 0 = (254*256+128)*256^14 ∧
        v6 0xfebf 0xffff 0xffff 0xffff 0xffff 0xffff 0xffff 0xffff+1 = (254*256+192)*256^14 := by decide
    refine hspecial ⟨(v6 0xfe80 0 0 0 0 0 0 0,v6 0xfebf 0xffff 0xffff 0xffff 0xffff 0xffff 0xffff 0xffff),by decide,?_⟩
    dsimp only
    omega
  · rw [IP.isLinkLocalMulticast,h6] at h
    exact hmulticast h
  · rw [IP.isInterfaceLocalMulticast,Bool.and_eq_true] at h
    exact hmulticast h.2
  · rw [IP.isPrivate,h6] at h
    obtain ⟨a,b,ha,hb,hab,hv⟩ := bounds_of_firstTwo6 ip.byte hlen h
    rw [decide_eq_true_eq] at hab
    have hbits : a/2^1*2^1 = 0xfc := (land_mask ha (by norm_num)).symm.trans hab
    have hrange : v6 0xfc00 0 0 0 0 0 0 0 = 252*256*256^14 ∧
        v6 0xfdff 0xffff 0xffff 0xffff 0xffff 0xffff 0xffff 0xffff+1 = 254*256*256^14 := by decide
    refine hspecial ⟨(v6 0xfc00 0 0 0 0 0 0 0,v6 0xfdff 0xffff 0xffff 0xffff 0xffff 0xffff 0xffff 0xffff),by decide,?_⟩
    dsimp only
    omega

/-- The private addresses are those of the special ranges. -/
theorem isPrivateIP_iff (ip : IP) : isPrivateIP (some ip) = true ↔ Special ip := by
  have hstandard : isPrivateIP (some ip) = true ↔ ip.isUnspecified = true ∨ ip.isLoopback = true ∨
      ip.isLinkLocalUnicast = true ∨ ip.isLinkLocalMulticast = true ∨ ip.isInterfaceLocalMulticast = true ∨
      (if ip.to4.isSome = true then privateIPv4Nets.any (fun privateNet => privateNet.contains ip)
      else privateIPv6Nets.any (fun privateNet => privateNet.contains ip) || ip.isPrivate) = true := by
    rw [isPrivateIP]
    split_ifs with h1 h2 h3 <;> simp only [Bool.or_eq_true] at * <;> tauto
  rw [hstandard]
  cases h4 : ip.to4 with
  | some l =>
    have hnets : privateIPv4Nets.any (fun privateNet => privateNet.contains ip) = true ↔ Special ip := by
      rw [List.any_eq_true,Special,h4]
      exact exists_congr_of_forall₂ privateIPv4Nets_cover fun n r hcovers => hcovers ip l h4
    rw [Option.isSome_some,if_pos rfl,hnets]
    constructor
    · rintro (h | h | h | h | h | h)
      · exact special_of_standard4 h4 (.inl h)
      · exact special_of_standard4 h4 (.inr (.inl h))
      · exact special_of_standard4 h4 (.inr (.inr (.inl h)))
      · exact special_of_standard4 h4 (.inr (.inr (.inr (.inl h))))
      · exact special_of_standard4 h4 (.inr (.inr (.inr (.inr h))))
      · exact h
    · exact fun h => .inr (.inr (.inr (.inr (.inr h))))
  | none =>
    have hnets : privateIPv6Nets.any (fun privateNet => privateNet.contains ip) = true ↔ Special ip := by
      rw [List.any_eq_true,any_nets6 h4,Special,h4]
      exact exists_congr_of_forall₂ nets6_cover fun n r hcovers => hcovers ip h4
    rw [Option.isSome_none,if_neg Bool.false_ne_true,Bool.or_eq_true,hnets]
    constructor
    · rintro (h | h | h | h | h | h | h)
      · exact special_of_standard6 h4 (.inl h)
      · exact special_of_standard6 h4 (.inr (.inl h))
      · exact special_of_standard6 h4 (.inr (.inr (.inl h)))
      · exact special_of_standard6 h4 (.inr (.inr (.inr (.inl h))))
      · exact special_of_standard6 h4 (.inr (.inr (.inr (.inr (.inl h)))))
      · exact h
      · exact special_of_standard6 h4 (.inr (.inr (.inr (.inr (.inr h)))))
    · exact fun h => .inr (.inr (.inr (.inr (.inr (.inl h)))))

end Private

end Outbound
end Tierflow
