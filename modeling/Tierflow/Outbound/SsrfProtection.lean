import Tierflow.Foundation.Text
import Tierflow.Foundation.Wildcards
import Tierflow.Outbound.Addresses

/-! The check of a URL before it is fetched. Its host must be an address, or have addresses only, that a request may
go to, and must not be excluded by name. -/
namespace Tierflow
namespace Outbound
open Text Wildcards

/-! ## URLs and names -/

structure URL where
  scheme : String
  host : String
  deriving DecidableEq

/-- How texts are read as URLs, hosts and addresses, and what the name service answers. -/
structure Network where
  parseURL : String → Except String URL
  splitHostPort : String → Except String (String × String)
  hostname : String → String
  parseIP : String → Option IP
  parseCIDR : String → Option IPNet
  ipString : IP → String
  lookupIP : String → Except String (List IP)

/-- Lower case letter by letter; no letter becomes a dot. -/
structure CaseMap where
  lower : Char → Char
  ascii : ∀ c, c.toNat<128 → lower c = c.toLower
  dot : ∀ c, lower c = '.' → c = '.'

def CaseMap.toLower (cm : CaseMap) (s : String) : String := String.ofList (s.toList.map cm.lower)

structure SSRFProtection where
  allowPrivateIp : Bool
  domainFilterMode : Bool
  domainList : List String
  ipFilterMode : Bool
  ipList : List String
  allowedPorts : List ℤ
  applyIPFilterForDomain : Bool

def hasSuffix (s t : String) : Bool := t.toList.isSuffixOf s.toList

def isDomainListed (cm : CaseMap) (domain : String) (list : List String) : Bool :=
  if list.length = 0 then false
  else
    let domain := cm.toLower domain
    list.any (fun item =>
      let item := cm.toLower (trimSpace item)
      if item = "" then false
      else if domain = item then true
      else if hasPrefix item "*." then
        let suffix := (cutPrefix item "*.").getD item
        hasSuffix domain ("."++suffix) || domain = suffix
      else false)

def isIpInCIDRList (net : Network) (ip : IP) (cidrList : List String) : Bool :=
  cidrList.any (fun cidr =>
    match net.parseCIDR cidr with
    | none =>
      match net.parseIP cidr with
      | some whitelistIP => ip.equal whitelistIP
      | none => false
    | some network => network.contains ip)

def isIPListed (net : Network) (ip : IP) (list : List String) : Bool :=
  if list.length = 0 then false else isIpInCIDRList net ip list

/-- The host and the text of the port. -/
def hostPort (net : Network) (u : URL) : String × String :=
  match net.splitHostPort u.host with
  | .ok hostPort => hostPort
  | .error _ => (net.hostname u.host,if u.scheme = "https" then "443" else "80")

namespace SSRFProtection

section Checks
variable (p : SSRFProtection) (net : Network) (cm : CaseMap)

def isAllowedPort (port : ℤ) : Bool :=
  if p.allowedPorts.length = 0 then true else p.allowedPorts.any (fun allowedPort => port = allowedPort)

def isDomainAllowed (domain : String) : Bool :=
  let listed := isDomainListed cm domain p.domainList
  if p.domainFilterMode then listed else !listed

def isIPAccessAllowed (ip : IP) : Bool :=
  if isPrivateIP (some ip) && !p.allowPrivateIp then false
  else
    let listed := isIPListed net ip p.ipList
    if p.ipFilterMode then listed else !listed

/-- Why an address is refused; `isPrivate` says whether it counts as a private one. -/
def ipError (isPrivate : Bool) (text : String) : String :=
  if isPrivate then "private IP address not allowed: "++text
  else if p.ipFilterMode then "ip not in whitelist: "++text
  else "ip in blacklist: "++text

def validateHost (host : String) : Except String Unit :=
  match net.parseIP host with
  | some ip =>
    if p.isIPAccessAllowed net ip then .ok ()
    else .error (p.ipError (isPrivateIP (some ip)) (net.ipString ip))
  | none =>
    if !p.isDomainAllowed cm host then
      .error (if p.domainFilterMode then "domain not in whitelist: "++host else "domain in blacklist: "++host)
    else if !p.applyIPFilterForDomain then .ok ()
    else
      match net.lookupIP host with
      | .error err => .error ("DNS resolution failed for "++host++": "++err)
      | .ok ips =>
        match ips.find? (fun ip => !p.isIPAccessAllowed net ip) with
        | some ip =>
          .error (p.ipError (isPrivateIP (some ip) && !p.allowPrivateIp) (host++" resolves to "++net.ipString ip))
        | none => .ok ()

def validateURL (urlStr : String) : Except String Unit :=
  match net.parseURL urlStr with
  | .error err => .error ("invalid URL format: "++err)
  | .ok u =>
    if u.scheme≠"http" ∧ u.scheme≠"https" then
      .error ("unsupported protocol: "++u.scheme++" (only http/https allowed)")
    else
      match parseInt64 (hostPort net u).2 with
      | none => .error ("invalid port: "++(hostPort net u).2)
      | some port =>
        if !p.isAllowedPort port then .error ("port "++printInt port++" is not allowed")
        else p.validateHost net cm (hostPort net u).1

end Checks

/-! ## What the filter is for -/

section Purpose
variable (p : SSRFProtection) (net : Network) (cm : CaseMap)

/-- An entry of the list of addresses: a net, or else a single address. Other entries stand for nothing. -/
def EntryCovers (entry : String) (ip : IP) : Prop :=
  (∃ network, net.parseCIDR entry = some network ∧ network.contains ip = true) ∨
  (net.parseCIDR entry = none ∧ ∃ x, net.parseIP entry = some x ∧ ip.equal x = true)

def PassesList (ip : IP) : Prop :=
  if p.ipFilterMode = true then ∃ entry∈p.ipList, EntryCovers net entry ip
  else ∀ entry∈p.ipList, ¬EntryCovers net entry ip

/-- The addresses of a host: its own where it is written as one, and otherwise those of its name. -/
def LeadsTo (host : String) (ips : List IP) : Prop :=
  match net.parseIP host with
  | some ip => ips = [ip]
  | none => net.lookupIP host = .ok ips

/-- A URL that may be fetched. -/
def Harmless (urlStr : String) : Prop :=
  ∃ u ips, net.parseURL urlStr = .ok u ∧ (u.scheme = "http" ∨ u.scheme = "https") ∧
    (∃ port, parseInt64 (hostPort net u).2 = some port ∧ (p.allowedPorts = [] ∨ port∈p.allowedPorts)) ∧
    LeadsTo net (hostPort net u).1 ips ∧ ∀ ip∈ips, ¬Special ip ∧ p.PassesList net ip

/-- Texts that differ in the case of letters only. -/
def SameLetters (s t : String) : Prop := s.toList.map Char.toLower = t.toList.map Char.toLower

/-- Spellings of one name: up to the case of letters, and with or without a dot at the end. -/
def Spelling (h x : String) : Prop :=
  SameLetters h x ∨ (Plain '.' h.toList ∧ SameLetters (h++".") x) ∨ (Plain '.' x.toList ∧ SameLetters (x++".") h)

/-- The filter lets harmless URLs pass only, and the spelling of a name makes no difference to it. -/
structure Filters : Prop where
  harmless : ∀ urlStr, p.validateURL net cm urlStr = .ok () → p.Harmless net urlStr
  spellings : ∀ h x, Spelling h x → isDomainListed cm h p.domainList = isDomainListed cm x p.domainList
  blacklist : p.domainFilterMode = false → ∀ h, isDomainListed cm h p.domainList = true →
    ∀ urlStr u, net.parseURL urlStr = .ok u → Spelling h (hostPort net u).1 → net.parseIP (hostPort net u).1 = none →
      p.validateURL net cm urlStr≠.ok ()

end Purpose

end SSRFProtection

/-! ## Entries -/

/-- The names that an entry of a domain list stands for. -/
def patterns (cm : CaseMap) (item : String) : List (Pattern Char) :=
  let item := cm.toLower (trimSpace item)
  if item = "" then []
  else .exact item.toList::((cutPrefix item "*.").map (fun suffix => .below suffix.toList)).toList

section Entries
variable {cm : CaseMap} {domain item s t : String} {q : Pattern Char}

@[simp] lemma toList_toLower (cm : CaseMap) (s : String) : (cm.toLower s).toList = s.toList.map cm.lower := by
  rw [CaseMap.toLower,String.toList_ofList]

lemma hasSuffix_dot_iff : hasSuffix s ("."++t) = true ↔ '.'::t.toList<:+s.toList := by
  rw [hasSuffix,List.isSuffixOf_iff_suffix,String.toList_append]
  rfl

lemma mem_patterns_iff : q∈patterns cm item ↔ cm.toLower (trimSpace item)≠"" ∧
    (q = .exact (cm.toLower (trimSpace item)).toList ∨
      ∃ suffix, cm.toLower (trimSpace item) = "*."++suffix ∧ q = .below suffix.toList) := by
  rw [patterns]
  split_ifs with hempty
  · simp [hempty]
  · rw [List.mem_cons,Option.mem_toList,Option.map_eq_some_iff]
    simp only [cutPrefix_eq_some,ne_eq,hempty,not_false_eq_true,true_and]
    exact or_congr_right (exists_congr fun suffix => and_congr_right fun _ => eq_comm)

/-- A domain is listed when it matches one of the patterns of the entries. -/
theorem isDomainListed_iff {list : List String} : isDomainListed cm domain list = true ↔
    Listed '.' (list.flatMap (patterns cm)) (domain.toList.map cm.lower) := by
  have hentry : ∀ item, (let item := cm.toLower (trimSpace item)
      if item = "" then false
      else if cm.toLower domain = item then true
      else if hasPrefix item "*." then
        let suffix := (cutPrefix item "*.").getD item
        hasSuffix (cm.toLower domain) ("."++suffix) || cm.toLower domain = suffix
      else false) = true ↔ ∃ q∈patterns cm item, q.Matches '.' (domain.toList.map cm.lower) := by
    intro item
    rw [←toList_toLower]
    simp only [mem_patterns_iff]
    generalize cm.toLower (trimSpace item) = item
    generalize cm.toLower domain = domain
    constructor
    · intro h
      split_ifs at h with hempty hexact hprefix
      · exact ⟨_,⟨hempty,.inl rfl⟩,congrArg String.toList hexact⟩
      · obtain ⟨suffix,rfl⟩ := hasPrefix_iff.mp hprefix
        rw [cutPrefix_append,Option.getD_some,Bool.or_eq_true,hasSuffix_dot_iff,decide_eq_true_eq] at h
        refine ⟨_,⟨hempty,.inr ⟨suffix,rfl,rfl⟩⟩,?_⟩
        rcases h with h | rfl
        · exact .inr h
        · exact .inl rfl
    · rintro ⟨q,⟨hempty,rfl | ⟨suffix,rfl,rfl⟩⟩,hmatch⟩
      · rw [if_neg hempty,if_pos (String.toList_injective hmatch)]
      · rw [if_neg hempty,if_pos (hasPrefix_iff.mpr ⟨suffix,rfl⟩)]
        split_ifs
        · rfl
        · rw [cutPrefix_append,Option.getD_some,Bool.or_eq_true,hasSuffix_dot_iff,decide_eq_true_eq]
          rcases hmatch with h | h
          · exact .inr (String.toList_injective h)
          · exact .inl h
  rw [isDomainListed]
  split_ifs with hlen
  · obtain rfl := List.length_eq_zero_iff.mp hlen
    simp [Listed]
  · rw [List.any_eq_true]
    simp only [Listed,List.mem_flatMap]
    constructor
    · rintro ⟨item,hitem,h⟩
      obtain ⟨q,hq,hmatch⟩ := (hentry item).mp h
      exact ⟨q,⟨item,hitem,hq⟩,hmatch⟩
    · rintro ⟨q,⟨item,hitem,hq⟩,hmatch⟩
      exact ⟨item,hitem,(hentry item).mpr ⟨q,hq,hmatch⟩⟩

/-- The patterns are in lower case. -/
lemma lower_of_mem_patterns {list : List String} (h : q∈list.flatMap (patterns cm)) :
    ∀ c∈q.name, c∈Set.range cm.lower := by
  obtain ⟨item,-,hq⟩ := List.mem_flatMap.mp h
  obtain ⟨-,rfl | ⟨suffix,hsuffix,rfl⟩⟩ := mem_patterns_iff.mp hq
  · intro c hc
    rw [Pattern.name,toList_toLower] at hc
    obtain ⟨b,-,rfl⟩ := List.mem_map.mp hc
    exact ⟨b,rfl⟩
  · intro c hc
    have hmem : c∈(cm.toLower (trimSpace item)).toList := by
      rw [hsuffix,String.toList_append]
      exact List.mem_append_right _ hc
    rw [toList_toLower] at hmem
    obtain ⟨b,-,rfl⟩ := List.mem_map.mp hmem
    exact ⟨b,rfl⟩

end Entries

/-! ## Spellings -/

section Spellings
open SSRFProtection
variable {cm : CaseMap} {h x : String} {list : List String}

lemma lower_dot (cm : CaseMap) : cm.lower '.' = '.' := cm.ascii '.' (by decide)

lemma toLower_of_not_ascii {c : Char} (hc : 128 ≤ c.toNat) : c.toLower = c := by
  have hupper : ¬(c.val ≥ 'A'.val ∧ c.val ≤ 'Z'.val) := by
    rintro ⟨-,hle⟩
    have : c.toNat≤90 := UInt32.le_iff_toNat_le.mp hle
    omega
  exact dif_neg hupper

lemma toLower_ascii {c : Char} (hc : c.toNat<128) : c.toLower.toNat<128 := by
  have hall : ∀ n : Fin 128, (Char.ofNat n.val).toLower.toNat<128 := by decide
  have := hall ⟨c.toNat,hc⟩
  rwa [Char.ofNat_toNat] at this

lemma lower_eq_of_toLower_eq {c d : Char} (h : c.toLower = d.toLower) : cm.lower c = cm.lower d := by
  rcases Nat.lt_or_ge c.toNat 128 with hc | hc
  · rcases Nat.lt_or_ge d.toNat 128 with hd | hd
    · rw [cm.ascii c hc,cm.ascii d hd,h]
    · have hlt := toLower_ascii hc
      rw [h,toLower_of_not_ascii hd] at hlt
      omega
  · rcases Nat.lt_or_ge d.toNat 128 with hd | hd
    · have hlt := toLower_ascii hd
      rw [←h,toLower_of_not_ascii hc] at hlt
      omega
    · rw [toLower_of_not_ascii hc,toLower_of_not_ascii hd] at h
      rw [h]

lemma map_lower_eq (hletters : SameLetters h x) : h.toList.map cm.lower = x.toList.map cm.lower := by
  have hfactors : cm.lower.FactorsThrough Char.toLower := fun c d => lower_eq_of_toLower_eq
  obtain ⟨e,he⟩ := (Function.factorsThrough_iff cm.lower).mp hfactors
  rw [he,←List.map_map,hletters,List.map_map]

lemma plain_map_lower_iff {l : List Char} : Plain '.' (l.map cm.lower) ↔ Plain '.' l := by
  constructor
  · rintro ⟨e,a,ha,heq⟩
    obtain ⟨e,t,rfl,-,ht⟩ := List.map_eq_append_iff.mp heq
    obtain ⟨c,rfl,rfl⟩ := List.map_eq_singleton_iff.mp ht
    exact ⟨e,c,fun hc => ha (by rw [hc,lower_dot]),rfl⟩
  · rintro ⟨e,a,ha,rfl⟩
    exact ⟨e.map cm.lower,cm.lower a,fun hc => ha (cm.dot a hc),by rw [List.map_append]; rfl⟩

lemma map_lower_dot (cm : CaseMap) (h : String) : (h++".").toList.map cm.lower = h.toList.map cm.lower++['.'] := by
  rw [String.toList_append,List.map_append]
  exact congrArg (fun c => _++[c]) (lower_dot cm)

theorem spellings_iff_closed :
    (∀ h x, Spelling h x → isDomainListed cm h list = isDomainListed cm x list) ↔
      Closed '.' (Set.range cm.lower) (list.flatMap (patterns cm)) := by
  constructor
  · intro hall d hd hplain
    obtain ⟨l,rfl⟩ : d∈Set.range (List.map cm.lower) := by
      rw [Set.range_list_map]
      exact hd
    have hspelling : Spelling (String.ofList l) (String.ofList l++".") :=
      .inr (.inl ⟨by rw [String.toList_ofList]; exact plain_map_lower_iff.mp hplain,rfl⟩)
    have heq := Bool.eq_iff_iff.mp (hall _ _ hspelling)
    rwa [isDomainListed_iff,isDomainListed_iff,map_lower_dot,String.toList_ofList] at heq
  · intro hclosed h x hspelling
    have hrange : ∀ l : List Char, ∀ c∈l.map cm.lower, c∈Set.range cm.lower := by
      intro l c hc
      obtain ⟨b,-,rfl⟩ := List.mem_map.mp hc
      exact ⟨b,rfl⟩
    rw [Bool.eq_iff_iff,isDomainListed_iff,isDomainListed_iff]
    rcases hspelling with hletters | ⟨hplain,hletters⟩ | ⟨hplain,hletters⟩
    · rw [map_lower_eq hletters]
    · rw [←map_lower_eq hletters,map_lower_dot]
      exact hclosed _ (hrange _) (plain_map_lower_iff.mpr hplain)
    · rw [←map_lower_eq hletters,map_lower_dot]
      exact (hclosed _ (hrange _) (plain_map_lower_iff.mpr hplain)).symm

end Spellings

/-! ## Accepted URLs -/

section Accepted
variable {p : SSRFProtection} {net : Network} {cm : CaseMap} {ip : IP} {host urlStr : String}
open SSRFProtection

lemma isIpInCIDRList_iff {list : List String} :
    isIpInCIDRList net ip list = true ↔ ∃ entry∈list, EntryCovers net entry ip := by
  rw [isIpInCIDRList,List.any_eq_true]
  refine exists_congr fun entry => and_congr_right fun _ => ?_
  rw [EntryCovers]
  cases net.parseCIDR entry with
  | some network => simp
  | none => cases net.parseIP entry <;> simp

lemma isIPListed_iff {list : List String} :
    isIPListed net ip list = true ↔ ∃ entry∈list, EntryCovers net entry ip := by
  rw [isIPListed]
  split_ifs with hlen
  · simp [List.length_eq_zero_iff.mp hlen]
  · exact isIpInCIDRList_iff

lemma isIPAccessAllowed_iff (hprivate : p.allowPrivateIp = false) :
    p.isIPAccessAllowed net ip = true ↔ ¬Special ip ∧ p.PassesList net ip := by
  rw [isIPAccessAllowed,hprivate,Bool.not_false,Bool.and_true,PassesList,←isPrivateIP_iff]
  cases hspecial : isPrivateIP (some ip) with
  | true => simp
  | false =>
    cases hmode : p.ipFilterMode with
    | true => simp [isIPListed_iff]
    | false =>
      have hlisted : isIPListed net ip p.ipList = true ↔ ∃ entry∈p.ipList, EntryCovers net entry ip := isIPListed_iff
      cases hl : isIPListed net ip p.ipList <;> simp_all

lemma isAllowedPort_iff {port : ℤ} : p.isAllowedPort port = true ↔ p.allowedPorts = [] ∨ port∈p.allowedPorts := by
  rw [isAllowedPort]
  split_ifs with hlen
  · simp [List.length_eq_zero_iff.mp hlen]
  · have hne : p.allowedPorts≠[] := fun h => hlen (by rw [h]; rfl)
    simp [hne]

/-- An accepted host leads to addresses that may be reached, and its name is allowed. -/
lemma validateHost_ok (happly : p.applyIPFilterForDomain = true) (h : p.validateHost net cm host = .ok ()) :
    (∃ ips, LeadsTo net host ips ∧ ∀ ip∈ips, p.isIPAccessAllowed net ip = true) ∧
      (net.parseIP host = none → p.isDomainAllowed cm host = true) := by
  unfold validateHost at h
  cases hip : net.parseIP host with
  | some ip =>
    simp only [hip] at h
    refine ⟨⟨[ip],by simp [LeadsTo,hip],?_⟩,fun hnone => by cases hnone⟩
    intro x hx
    rw [List.mem_singleton.mp hx]
    split_ifs at h with hallowed
    exact hallowed
  | none =>
    simp only [hip,happly,Bool.not_true,Bool.false_eq_true,if_false] at h
    split_ifs at h with hdomain
    cases hlookup : net.lookupIP host with
    | error err =>
      simp only [hlookup] at h
      cases h
    | ok ips =>
      simp only [hlookup] at h
      cases hfind : ips.find? (fun ip => !p.isIPAccessAllowed net ip) with
      | some ip =>
        simp only [hfind] at h
        cases h
      | none =>
        refine ⟨⟨ips,by simp [LeadsTo,hip,hlookup],fun x hx => ?_⟩,fun _ => by simpa using hdomain⟩
        have hx' := List.find?_eq_none.mp hfind x hx
        simpa using hx'

lemma validateURL_ok (h : p.validateURL net cm urlStr = .ok ()) :
    ∃ u, net.parseURL urlStr = .ok u ∧ (u.scheme = "http" ∨ u.scheme = "https") ∧
      (∃ port, parseInt64 (hostPort net u).2 = some port ∧ p.isAllowedPort port = true) ∧
      p.validateHost net cm (hostPort net u).1 = .ok () := by
  unfold validateURL at h
  cases hparse : net.parseURL urlStr with
  | error err =>
    simp only [hparse] at h
    cases h
  | ok u =>
    simp only [hparse] at h
    split_ifs at h with hscheme
    cases hport : parseInt64 (hostPort net u).2 with
    | none =>
      simp only [hport] at h
      cases h
    | some port =>
      simp only [hport] at h
      split_ifs at h with hallowed
      refine ⟨u,rfl,?_,⟨port,hport,by simpa using hallowed⟩,h⟩
      tauto

theorem harmless_of_ok (hprivate : p.allowPrivateIp = false) (happly : p.applyIPFilterForDomain = true)
    (h : p.validateURL net cm urlStr = .ok ()) : p.Harmless net urlStr := by
  obtain ⟨u,hparse,hscheme,⟨port,hport,hallowed⟩,hhost⟩ := validateURL_ok h
  obtain ⟨⟨ips,hleads,hips⟩,-⟩ := validateHost_ok happly hhost
  exact ⟨u,ips,hparse,hscheme,⟨port,hport,isAllowedPort_iff.mp hallowed⟩,hleads,
    fun ip hip => (isIPAccessAllowed_iff hprivate).mp (hips ip hip)⟩

/-- The filter does what it is for when each pattern of the domain list has its twin with or without the dot. -/
theorem filters_iff (hprivate : p.allowPrivateIp = false) (happly : p.applyIPFilterForDomain = true) :
    p.Filters net cm ↔ ∀ q∈p.domainList.flatMap (patterns cm), Mated '.' (p.domainList.flatMap (patterns cm)) q := by
  constructor
  · intro h
    have ha : 'a'∈Set.range cm.lower := ⟨'a',cm.ascii 'a' (by decide)⟩
    have hdot : '.'∈Set.range cm.lower := ⟨'.',lower_dot cm⟩
    exact mated_of_closed hdot ha (by decide) (fun q hq => lower_of_mem_patterns hq)
      (spellings_iff_closed.mp h.spellings)
  · intro h
    have hspellings := spellings_iff_closed.mpr (closed_of_mated (A := Set.range cm.lower) h)
    refine ⟨fun urlStr => harmless_of_ok hprivate happly,hspellings,?_⟩
    intro hmode x hlisted urlStr u hparse hspelling hip hok
    obtain ⟨v,hv,-,-,hhost⟩ := validateURL_ok hok
    obtain rfl : u = v := Except.ok.inj (hparse.symm.trans hv)
    have hallowed := (validateHost_ok happly hhost).2 hip
    rw [isDomainAllowed,hmode,←hspellings x _ hspelling,hlisted] at hallowed
    cases hallowed

end Accepted

/-! ## A name with a dot -/

section Dotted
open SSRFProtection

def asciiCase : CaseMap where
  lower := Char.toLower
  ascii _ _ := rfl
  dot c h := by
    rcases Nat.lt_or_ge c.toNat 128 with hc | hc
    · have hall : ∀ n : Fin 128, (Char.ofNat n.val).toLower = '.' → Char.ofNat n.val = '.' := by decide
      have := hall ⟨c.toNat,hc⟩
      rw [Char.ofNat_toNat] at this
      exact this h
    · rwa [toLower_of_not_ascii hc] at h

def publicNetwork : Network where
  parseURL s := if s = "http://evil.com./" then .ok ⟨"http","evil.com."⟩ else .error "missing protocol scheme"
  splitHostPort _ := .error "missing port in address"
  hostname s := s
  parseIP _ := none
  parseCIDR _ := none
  ipString _ := "8.8.8.8"
  lookupIP _ := .ok [publicAddress]

/-- Some names are excluded, and nothing else. -/
def excluding (names : List String) : SSRFProtection := ⟨false,false,names,false,[],[80,443],true⟩

theorem both_spellings_excluded : (excluding ["evil.com","evil.com."]).Filters publicNetwork asciiCase := by
  refine (filters_iff rfl rfl).mpr fun q hq => ?_
  have hpatterns : (excluding ["evil.com","evil.com."]).domainList.flatMap (patterns asciiCase) =
      [.exact "evil.com".toList,.exact "evil.com.".toList] := by decide
  have htwin : "evil.com.".toList = "evil.com".toList++['.'] := by decide
  rw [hpatterns] at hq ⊢
  rcases List.mem_pair.mp hq with rfl | rfl
  · refine ⟨fun _ => ⟨_,List.mem_cons_of_mem _ List.mem_cons_self,htwin.symm⟩,fun c _ hc => ?_⟩
    have hlast := congrArg List.getLast? hc
    rw [List.getLast?_concat] at hlast
    exact absurd hlast (by decide)
  · refine ⟨fun hplain => ?_,fun c _ hc => ⟨_,List.mem_cons_self,?_⟩⟩
    · exact absurd hplain (not_plain_dot (d := "evil.com".toList))
    · exact List.append_inj_left' (hc.symm.trans htwin) rfl

theorem dotted_name_accepted :
    (excluding ["evil.com"]).validateURL publicNetwork asciiCase "http://evil.com./" = .ok () ∧
      ¬(excluding ["evil.com"]).Filters publicNetwork asciiCase := by
  have hok : (excluding ["evil.com"]).validateURL publicNetwork asciiCase "http://evil.com./" = .ok () := by
    decide
  refine ⟨hok,fun h => ?_⟩
  have hspelling : Spelling "evil.com" "evil.com." :=
    .inr (.inl ⟨⟨"evil.co".toList,'m',by decide,by decide⟩,rfl⟩)
  exact h.blacklist rfl "evil.com" (by decide) "http://evil.com./" ⟨"http","evil.com."⟩ (by decide)
    hspelling rfl hok

end Dotted

end Outbound
end Tierflow
