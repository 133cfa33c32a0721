import Tierflow.Foundation.RoundRobin
import Tierflow.Routing.Keys

/-! One key of a multi-key channel after the other. In polling mode the next turn begins at an index that is read
from the cache, or from the row when there is no cache, and written to the channel that the key is asked of. -/
namespace Tierflow
namespace Routing
open RouteHealth (Manager)

/-- The code that an error goes out with. -/
def KeyError.code : KeyError → String
  | noKeysAvailable | noEnabledKeys => "channel:no_available_key"
  | getChannelFailed => "get_channel_failed"

/-- A channel as a caller holds it, which is the cached one or another copy, and what is stored of its key state. -/
structure HeldChannel where
  id : ℕ
  key : String
  channel : Channel
  memoryCacheEnabled : Bool
  isCached : Bool
  cached : Option ChannelInfo
  row : Option ChannelInfo
  deriving DecidableEq, Repr

namespace HeldChannel

def cacheGetChannelInfo (s : HeldChannel) : Option ChannelInfo :=
  if !s.memoryCacheEnabled then s.row
  else if s.isCached then some s.channel.channelInfo
  else s.cached

def saveChannelInfo (s : HeldChannel) : HeldChannel := { s with row := s.row.map (fun _ => s.channel.channelInfo) }

def setPollingIndex (s : HeldChannel) (i : ℤ) : HeldChannel :=
  { s with channel := { s.channel with channelInfo := { s.channel.channelInfo with multiKeyPollingIndex := i } } }

/-- The next call begins behind the key that was found. -/
def afterPolling (s : HeldChannel) (m : Manager) (exclude : List ℕ) (info : ChannelInfo) : HeldChannel :=
  let found := s.channel.pollKey info.multiKeyPollingIndex (s.channel.availableKeys m s.id exclude)
  let s' := match found with
    | some i => s.setPollingIndex ((i+1)%s.channel.keys.length : ℕ)
    | none => s
  if s.memoryCacheEnabled then s' else s'.saveChannelInfo

def afterKey (s : HeldChannel) (m : Manager) (exclude : List ℕ) : HeldChannel :=
  match s.channel.channelInfo.isMultiKey,s.channel.channelInfo.multiKeyMode,s.cacheGetChannelInfo with
  | true,.polling,some info => s.afterPolling m exclude info
  | _,_,_ => s

def keyAt (s : HeldChannel) (i : ℕ) : String :=
  if s.channel.channelInfo.isMultiKey then s.channel.keys.getD i "" else s.key

/-- The next key with its index, and what the call leaves behind. -/
def getNextEnabledKeyExcluding (s : HeldChannel) (m : Manager) (exclude : List ℕ) (roll : ℕ) :
    Except KeyError (String × ℕ) × HeldChannel :=
  match s.channel.getNextEnabledKeyExcluding m s.cacheGetChannelInfo s.id exclude roll with
  | .error e => (.error e,s)
  | .ok i => (.ok (s.keyAt i,i),s.afterKey m exclude)

/-- Consecutive calls, one for each number drawn, while nothing else happens. -/
def nextKeys (m : Manager) (exclude : List ℕ) : List ℕ → HeldChannel → List (Except KeyError (String × ℕ))
  | [],_ => []
  | roll::rolls,s =>
    let r := s.getNextEnabledKeyExcluding m exclude roll
    r.1::nextKeys m exclude rolls r.2

/-- The index that is written is the one that is read. -/
def Persists (s : HeldChannel) : Prop := s.memoryCacheEnabled = false ∨ s.isCached = true

instance (s : HeldChannel) : Decidable s.Persists := instDecidableOr

variable {s : HeldChannel} {m : Manager} {exclude : List ℕ} {roll : ℕ}

/-! ## One call -/

lemma result_eq_ok {key : String} {i : ℕ} (h : (s.getNextEnabledKeyExcluding m exclude roll).1 = .ok (key,i)) :
    s.channel.getNextEnabledKeyExcluding m s.cacheGetChannelInfo s.id exclude roll = .ok i ∧ key = s.keyAt i := by
  unfold getNextEnabledKeyExcluding at h
  cases hc : s.channel.getNextEnabledKeyExcluding m s.cacheGetChannelInfo s.id exclude roll with
  | error e =>
    rw [hc] at h
    contradiction
  | ok j =>
    rw [hc] at h
    obtain ⟨hkey,hi⟩ := Prod.mk.inj (Except.ok.inj h)
    subst hi
    exact ⟨rfl,hkey.symm⟩

lemma result_eq_error {e : KeyError} : (s.getNextEnabledKeyExcluding m exclude roll).1 = .error e ↔
    s.channel.getNextEnabledKeyExcluding m s.cacheGetChannelInfo s.id exclude roll = .error e := by
  unfold getNextEnabledKeyExcluding
  cases s.channel.getNextEnabledKeyExcluding m s.cacheGetChannelInfo s.id exclude roll with
  | error e' => simp
  | ok j => simp

end HeldChannel

namespace Channel
variable {c : Channel} {m : Manager} {cached : Option ChannelInfo} {id roll : ℕ} {exclude : List ℕ}

/-- Which index a multi-key channel with keys left comes to. -/
lemma getNextEnabledKeyExcluding_of_untried (m : Manager) (cached : Option ChannelInfo) (id roll : ℕ)
    (hmulti : c.channelInfo.isMultiKey = true) (hne : c.untriedKeys exclude≠[]) :
    ∃ first rest, c.availableKeys m id exclude = first::rest ∧
      c.getNextEnabledKeyExcluding m cached id exclude roll = match c.channelInfo.multiKeyMode with
        | .random => orFail .noEnabledKeys (first::rest)[roll%(first::rest).length]?
        | .polling =>
          match cached with
          | none => .error .getChannelFailed
          | some info => .ok ((c.pollKey info.multiKeyPollingIndex (first::rest)).getD first)
        | .unknown => .ok first := by
  have hkeys : c.keys≠[] := by
    intro hnil
    apply hne
    rw [List.eq_nil_iff_forall_not_mem]
    intro i hi
    have := (mem_untriedKeys.mp hi).1
    rw [hnil,List.length_nil] at this
    omega
  have hav : c.availableKeys m id exclude≠[] := fun hnil => hne (availableKeys_eq_nil.mp hnil)
  obtain ⟨first,rest,ha⟩ := List.exists_cons_of_ne_nil hav
  refine ⟨first,rest,ha,?_⟩
  unfold getNextEnabledKeyExcluding
  rw [hmulti,if_neg (by simp),if_neg hkeys]
  cases c.channelInfo.multiKeyMode with
  | random => simp only [ha]
  | polling =>
    cases cached with
    | none => simp only [ha]
    | some info => simp only [ha]
  | unknown => simp only [ha]

/-- Keys that cool down are available only when all that are left do. -/
lemma available_of_mem {i : ℕ} (hi : i∈c.availableKeys m id exclude) (hcool : m.isAvailable id i = false) :
    ∀ j∈c.untriedKeys exclude, m.isAvailable id j = false := by
  unfold availableKeys at hi
  simp only at hi
  split_ifs at hi with hnone
  · intro j hj
    by_contra hav
    have hmem : j∈(c.untriedKeys exclude).filter (fun i : ℕ => m.isAvailable id i) :=
      List.mem_filter.mpr ⟨hj,by rwa [Bool.not_eq_false] at hav⟩
    rw [hnone] at hmem
    exact absurd hmem List.not_mem_nil
  · have := (List.mem_filter.mp hi).2
    rw [hcool] at this
    contradiction

lemma nextKey_available {i : ℕ} (hmulti : c.channelInfo.isMultiKey = true)
    (h : c.getNextEnabledKeyExcluding m cached id exclude roll = .ok i) : i∈c.availableKeys m id exclude := by
  have hne : c.untriedKeys exclude≠[] := List.ne_nil_of_mem (nextKey_untried hmulti h)
  obtain ⟨first,rest,ha,hres⟩ := getNextEnabledKeyExcluding_of_untried m cached id roll hmulti hne
  rw [ha]
  rw [hres] at h
  split at h
  · exact List.mem_of_getElem? (orFail_eq_ok.mp h)
  · cases cached with
    | none => contradiction
    | some info =>
      rw [←Except.ok.inj h]
      cases hp : c.pollKey info.multiKeyPollingIndex (first::rest) with
      | none => exact List.mem_cons_self
      | some i => exact c.pollKey_mem hp
  · rw [←Except.ok.inj h]
    exact List.mem_cons_self

/-- The keys have run out exactly when no key is left. -/
lemma noAvailableKey_iff (hmulti : c.channelInfo.isMultiKey = true) :
    (∃ e, c.getNextEnabledKeyExcluding m cached id exclude roll = .error e ∧ e.code = KeyError.noEnabledKeys.code) ↔
      c.hasUntriedEnabledKey exclude = false := by
  have huntried : c.hasUntriedEnabledKey exclude = false ↔ c.untriedKeys exclude = [] := by
    rw [←Bool.not_eq_true,hasUntriedEnabledKey_iff,not_and,not_not]
    exact ⟨fun h => h hmulti,fun h _ => h⟩
  rw [huntried]
  constructor
  · rintro ⟨e,he,hcode⟩
    by_contra hne
    obtain ⟨first,rest,ha,hres⟩ := getNextEnabledKeyExcluding_of_untried m cached id roll hmulti hne
    rw [hres] at he
    split at he
    · have hlt : roll%(first::rest).length<(first::rest).length := Nat.mod_lt _ (by simp)
      rw [List.getElem?_eq_getElem hlt] at he
      contradiction
    · cases cached with
      | none =>
        rw [←Except.error.inj he] at hcode
        revert hcode
        decide
      | some info => contradiction
    · contradiction
  · intro hnil
    unfold getNextEnabledKeyExcluding
    rw [hmulti,if_neg (by simp)]
    by_cases hkeys : c.keys = []
    · exact ⟨.noKeysAvailable,if_pos hkeys,rfl⟩
    · refine ⟨.noEnabledKeys,?_,rfl⟩
      rw [if_neg hkeys]
      simp only [availableKeys_eq_nil.mpr hnil]

/-- Where the search for the next key begins. -/
def pollStart (c : Channel) (pollingIndex : ℤ) : ℕ :=
  if pollingIndex<0 ∨ c.keys.length≤pollingIndex then 0 else pollingIndex.toNat

/-- The keys that may have a turn. -/
def takesTurns (c : Channel) (m : Manager) (id : ℕ) (exclude : List ℕ) (i : ℕ) : Bool :=
  c.keyStatus i = .enabled ∧ i∈c.availableKeys m id exclude

lemma pollKey_eq_next (c : Channel) (m : Manager) (id : ℕ) (exclude : List ℕ) (pollingIndex : ℤ) :
    c.pollKey pollingIndex (c.availableKeys m id exclude) =
      RoundRobin.next (c.takesTurns m id exclude) c.keys.length (c.pollStart pollingIndex) := rfl

lemma pollStart_natCast (c : Channel) {i : ℕ} (hi : i < c.keys.length) : c.pollStart (i : ℤ) = i := by
  rw [pollStart,if_neg (by omega),Int.toNat_natCast]

lemma availableKeys_nodup (c : Channel) (m : Manager) (id : ℕ) (exclude : List ℕ) :
    (c.availableKeys m id exclude).Nodup := by
  have huntried : (c.untriedKeys exclude).Nodup := List.nodup_range.filter _
  unfold availableKeys
  simp only
  split_ifs
  · exact huntried
  · exact huntried.filter _

/-- The line of waiting keys consists of the available ones. -/
lemma waiting_perm (c : Channel) (m : Manager) (id : ℕ) (exclude : List ℕ) (start : ℕ) :
    (RoundRobin.waiting (c.takesTurns m id exclude) c.keys.length start).Perm (c.availableKeys m id exclude) := by
  rw [List.perm_ext_iff_of_nodup (RoundRobin.waiting_nodup start) (c.availableKeys_nodup m id exclude)]
  intro i
  rw [RoundRobin.mem_waiting,takesTurns,decide_eq_true_eq]
  constructor
  · exact fun h => h.2.2
  · intro hi
    have hmem := mem_untriedKeys.mp (c.availableKeys_subset m id exclude hi)
    exact ⟨hmem.1,hmem.2.2,hi⟩

end Channel

namespace HeldChannel
variable {s : HeldChannel} {m : Manager} {exclude : List ℕ}

/-! ## Turn after turn -/

/-- What a call in polling mode leaves behind, if the index is kept where it is read. -/
structure Moved (s s' : HeldChannel) (i : ℕ) : Prop where
  id : s'.id = s.id
  channel : s'.channel = { s.channel with
    channelInfo := { s.channel.channelInfo with multiKeyPollingIndex := ((i+1)%s.channel.keys.length : ℕ) } }
  persists : s'.Persists
  index : ∃ info, s'.cacheGetChannelInfo = some info ∧ info.multiKeyPollingIndex = ((i+1)%s.channel.keys.length : ℕ)

lemma moved_afterPolling (hp : s.Persists) {info : ChannelInfo} (hinfo : s.cacheGetChannelInfo = some info) {i : ℕ}
    (hi : s.channel.pollKey info.multiKeyPollingIndex (s.channel.availableKeys m s.id exclude) = some i) :
    s.Moved (s.afterPolling m exclude info) i := by
  unfold afterPolling
  simp only [hi]
  cases hm : s.memoryCacheEnabled with
  | false =>
    have hrow : ∃ row, s.row = some row := by
      rw [cacheGetChannelInfo,hm] at hinfo
      exact ⟨info,hinfo⟩
    obtain ⟨row,hrow⟩ := hrow
    refine ⟨rfl,rfl,.inl hm,?_⟩
    simp [cacheGetChannelInfo,saveChannelInfo,setPollingIndex,hm,hrow]
  | true =>
    have hcached : s.isCached = true := by
      rcases hp with hp | hp
      · rw [hm] at hp
        contradiction
      · exact hp
    refine ⟨rfl,rfl,.inr hcached,?_⟩
    simp [cacheGetChannelInfo,setPollingIndex,hm,hcached]

/-- A call in polling mode returns the key whose turn it is. -/
lemma polling_call (hmulti : s.channel.channelInfo.isMultiKey = true)
    (hmode : s.channel.channelInfo.multiKeyMode = .polling) {info : ChannelInfo}
    (hinfo : s.cacheGetChannelInfo = some info) (hne : s.channel.availableKeys m s.id exclude≠[]) (roll : ℕ) :
    ∃ i, s.channel.pollKey info.multiKeyPollingIndex (s.channel.availableKeys m s.id exclude) = some i ∧
      s.getNextEnabledKeyExcluding m exclude roll = (.ok (s.keyAt i,i),s.afterPolling m exclude info) := by
  have huntried : s.channel.untriedKeys exclude≠[] := fun h => hne (Channel.availableKeys_eq_nil.mpr h)
  obtain ⟨first,rest,ha,hres⟩ :=
    Channel.getNextEnabledKeyExcluding_of_untried m s.cacheGetChannelInfo s.id roll hmulti huntried
  have hsome : ∃ i, s.channel.pollKey info.multiKeyPollingIndex (s.channel.availableKeys m s.id exclude) = some i := by
    rw [Channel.pollKey_eq_next,RoundRobin.next_eq_head]
    have hperm := s.channel.waiting_perm m s.id exclude (s.channel.pollStart info.multiKeyPollingIndex)
    cases hw : RoundRobin.waiting (s.channel.takesTurns m s.id exclude) s.channel.keys.length
        (s.channel.pollStart info.multiKeyPollingIndex) with
    | nil =>
      rw [hw] at hperm
      exact absurd hperm.symm.eq_nil hne
    | cons i line => exact ⟨i,rfl⟩
  obtain ⟨i,hi⟩ := hsome
  refine ⟨i,hi,?_⟩
  have hcall : s.channel.getNextEnabledKeyExcluding m s.cacheGetChannelInfo s.id exclude roll = .ok i := by
    rw [ha] at hi
    rw [hres,hmode,hinfo]
    simp only [hi,Option.getD_some]
  unfold getNextEnabledKeyExcluding afterKey
  rw [hcall]
  simp only [hmulti,hmode,hinfo]

/-- The calls go through the line of waiting keys. -/
lemma nextKeys_eq_turns (rolls : List ℕ) (hp : s.Persists) (hmulti : s.channel.channelInfo.isMultiKey = true)
    (hmode : s.channel.channelInfo.multiKeyMode = .polling) {info : ChannelInfo}
    (hinfo : s.cacheGetChannelInfo = some info) (hne : s.channel.availableKeys m s.id exclude≠[]) :
    s.nextKeys m exclude rolls =
      (RoundRobin.turns (s.channel.takesTurns m s.id exclude) s.channel.keys.length rolls.length
        (s.channel.pollStart info.multiKeyPollingIndex)).map (fun i => .ok (s.keyAt i,i)) := by
  induction rolls generalizing s info with
  | nil => rfl
  | cons roll rolls ih =>
    obtain ⟨i,hi,hcall⟩ := polling_call hmulti hmode hinfo hne roll
    obtain ⟨hid,hchannel,hpersists,info',hinfo',hindex⟩ := moved_afterPolling hp hinfo hi
    have hkeys : 0 < s.channel.keys.length := by
      have hmem := Channel.mem_untriedKeys.mp
        (s.channel.availableKeys_subset m s.id exclude (s.channel.pollKey_mem hi))
      omega
    generalize hs' : s.afterPolling m exclude info = s' at hcall hid hchannel hpersists hinfo'
    have havail : s'.channel.availableKeys m s'.id exclude = s.channel.availableKeys m s.id exclude := by
      rw [hid,hchannel]
      rfl
    have hturns : s'.channel.takesTurns m s'.id exclude = s.channel.takesTurns m s.id exclude := by
      rw [hid,hchannel]
      rfl
    have hlength : s'.channel.keys.length = s.channel.keys.length := by rw [hchannel]
    have hkeyAt : s'.keyAt = s.keyAt := by
      funext j
      unfold keyAt
      rw [hchannel]
      simp only [hmulti,if_true]
    have hrest := ih hpersists (by rw [hchannel]; exact hmulti) (by rw [hchannel]; exact hmode) hinfo'
      (by rw [havail]; exact hne)
    have hstart : s'.channel.pollStart info'.multiKeyPollingIndex = (i+1)%s.channel.keys.length := by
      rw [hindex]
      exact s'.channel.pollStart_natCast (by rw [hlength]; exact Nat.mod_lt _ hkeys)
    rw [hturns,hlength,hstart,hkeyAt] at hrest
    rw [Channel.pollKey_eq_next] at hi
    rw [nextKeys,hcall,List.length_cons,RoundRobin.turns,hi]
    dsimp only
    rw [hrest,List.map_cons]

/-- All calls succeed and no key comes twice. -/
def AllDistinct (results : List (Except KeyError (String × ℕ))) : Prop :=
  ∃ l : List (String × ℕ), results = l.map .ok ∧ (l.map Prod.snd).Nodup

lemma distinct_of_persists {rolls : List ℕ} (hp : s.Persists) (hmulti : s.channel.channelInfo.isMultiKey = true)
    (hmode : s.channel.channelInfo.multiKeyMode = .polling) {info : ChannelInfo}
    (hinfo : s.cacheGetChannelInfo = some info) (hne : s.channel.availableKeys m s.id exclude≠[])
    (hlength : rolls.length = (s.channel.availableKeys m s.id exclude).length) :
    AllDistinct (s.nextKeys m exclude rolls) := by
  rw [nextKeys_eq_turns rolls hp hmulti hmode hinfo hne]
  have hperm := s.channel.waiting_perm m s.id exclude (s.channel.pollStart info.multiKeyPollingIndex)
  rw [hlength,←hperm.length_eq]
  set start := s.channel.pollStart info.multiKeyPollingIndex
  set waits := s.channel.takesTurns m s.id exclude
  set line := RoundRobin.turns waits s.channel.keys.length
    (RoundRobin.waiting waits s.channel.keys.length start).length start with hline
  have hnodup : line.Nodup := (RoundRobin.turns_perm start start).nodup_iff.mpr (RoundRobin.waiting_nodup start)
  refine ⟨line.map (fun i => (s.keyAt i,i)),?_,?_⟩
  · rw [List.map_map]
    rfl
  · rw [List.map_map]
    have hindex : Prod.snd ∘ (fun i => (s.keyAt i,i)) = fun i => i := rfl
    rw [hindex,List.map_id']
    exact hnodup

/-- An index that is written elsewhere leaves the next call where this one began. -/
lemma same_key_again (hp : ¬s.Persists) (hmulti : s.channel.channelInfo.isMultiKey = true)
    (hmode : s.channel.channelInfo.multiKeyMode = .polling) {info : ChannelInfo}
    (hinfo : s.cacheGetChannelInfo = some info) (hne : s.channel.availableKeys m s.id exclude≠[]) (roll roll' : ℕ)
    (rolls : List ℕ) : ∃ i rest, s.nextKeys m exclude (roll::roll'::rolls) =
      .ok (s.keyAt i,i)::.ok (s.keyAt i,i)::rest := by
  unfold Persists at hp
  rw [not_or,Bool.not_eq_false,Bool.not_eq_true] at hp
  obtain ⟨i,hi,hcall⟩ := polling_call hmulti hmode hinfo hne roll
  have hafter : s.afterPolling m exclude info = s.setPollingIndex ((i+1)%s.channel.keys.length : ℕ) := by
    unfold afterPolling
    simp only [hi,hp.1,if_true]
  rw [hafter] at hcall
  set s' := s.setPollingIndex ((i+1)%s.channel.keys.length : ℕ) with hs'
  have hinfo' : s'.cacheGetChannelInfo = some info := by
    rw [←hinfo,hs']
    simp [cacheGetChannelInfo,setPollingIndex,hp.1,hp.2]
  obtain ⟨i',hi',hcall'⟩ := polling_call (s := s') hmulti hmode hinfo' hne roll'
  have hsame : i' = i := Option.some.inj (hi'.symm.trans hi)
  refine ⟨i,s'.afterPolling m exclude info |>.nextKeys m exclude rolls,?_⟩
  rw [nextKeys,nextKeys,hcall]
  dsimp only
  rw [hcall',hsame]
  rfl

/-- What it takes for so many calls to come round: a stored index, and that it is kept unless there is one key. -/
def Rotates (s : HeldChannel) (k : ℕ) : Prop := k = 0 ∨ (s.cacheGetChannelInfo≠none ∧ (s.Persists ∨ k = 1))

lemma allDistinct_iff {rolls : List ℕ} (hmulti : s.channel.channelInfo.isMultiKey = true)
    (hmode : s.channel.channelInfo.multiKeyMode = .polling)
    (hlength : rolls.length = (s.channel.availableKeys m s.id exclude).length) :
    AllDistinct (s.nextKeys m exclude rolls) ↔ s.Rotates rolls.length := by
  cases rolls with
  | nil => exact iff_of_true ⟨[],rfl,List.nodup_nil⟩ (.inl rfl)
  | cons roll rolls =>
    have hne : s.channel.availableKeys m s.id exclude≠[] := by
      intro hnil
      rw [hnil] at hlength
      contradiction
    cases hinfo : s.cacheGetChannelInfo with
    | none =>
      apply iff_of_false
      · rintro ⟨l,hl,-⟩
        have huntried : s.channel.untriedKeys exclude≠[] := fun h => hne (Channel.availableKeys_eq_nil.mpr h)
        obtain ⟨first,rest,ha,hres⟩ :=
          Channel.getNextEnabledKeyExcluding_of_untried m s.cacheGetChannelInfo s.id roll hmulti huntried
        rw [hmode,hinfo] at hres
        have herror : (s.getNextEnabledKeyExcluding m exclude roll).1 = .error .getChannelFailed := by
          rw [result_eq_error,hinfo]
          exact hres
        rw [nextKeys,herror] at hl
        cases l with
        | nil => contradiction
        | cons r l => exact absurd (List.cons.inj hl).1 (by simp)
      · rintro (h | h)
        · contradiction
        · exact h.1 hinfo
    | some info =>
      by_cases hp : s.Persists
      · apply iff_of_true
        · exact distinct_of_persists hp hmulti hmode hinfo hne hlength
        · exact .inr ⟨by rw [hinfo]; exact Option.some_ne_none info,.inl hp⟩
      · cases rolls with
        | nil =>
          apply iff_of_true
          · obtain ⟨i,hi,hcall⟩ := polling_call hmulti hmode hinfo hne roll
            refine ⟨[(s.keyAt i,i)],?_,List.nodup_singleton _⟩
            rw [nextKeys,hcall]
            rfl
          · exact .inr ⟨by rw [hinfo]; exact Option.some_ne_none info,.inr rfl⟩
        | cons roll' rolls =>
          apply iff_of_false
          · rintro ⟨l,hl,hnodup⟩
            obtain ⟨i,rest,hsame⟩ := same_key_again hp hmulti hmode hinfo hne roll roll' rolls
            rw [hsame] at hl
            match l,hl with
            | r::r'::l,hl =>
              obtain ⟨hr,htail⟩ := List.cons.inj hl
              have hr' := (List.cons.inj htail).1
              rw [←Except.ok.inj hr,←Except.ok.inj hr'] at hnodup
              simp at hnodup
          · rintro (h | ⟨-,h | h⟩)
            · contradiction
            · exact hp h
            · rw [List.length_cons,List.length_cons] at h
              omega

/-- A key that is returned is enabled, was not excluded, and cools down only when all that are left do; the keys have
run out exactly when none is left; and in polling mode the calls go round exactly when the index is written where
it is read. -/
theorem next_key_sound (s : HeldChannel) (m : Manager) (exclude : List ℕ)
    (hmulti : s.channel.channelInfo.isMultiKey = true) :
    (∀ roll key i, (s.getNextEnabledKeyExcluding m exclude roll).1 = .ok (key,i) →
      i∉exclude ∧ s.channel.keyStatus i = .enabled ∧ s.channel.keys[i]? = some key ∧
        (m.isAvailable s.id i = false → ∀ j∈s.channel.untriedKeys exclude, m.isAvailable s.id j = false)) ∧
    (∀ roll, (∃ e, (s.getNextEnabledKeyExcluding m exclude roll).1 = .error e ∧ e.code = "channel:no_available_key") ↔
      s.channel.hasUntriedEnabledKey exclude = false) ∧
    (s.channel.channelInfo.multiKeyMode = .polling → ∀ rolls : List ℕ,
      rolls.length = (s.channel.availableKeys m s.id exclude).length →
        (AllDistinct (s.nextKeys m exclude rolls) ↔ s.Rotates rolls.length)) := by
  refine ⟨?_,?_,fun hmode rolls hlength => allDistinct_iff hmulti hmode hlength⟩
  · intro roll key i h
    obtain ⟨hi,hkey⟩ := result_eq_ok h
    have hmem := Channel.mem_untriedKeys.mp (Channel.nextKey_untried hmulti hi)
    refine ⟨hmem.2.1,hmem.2.2,?_,Channel.available_of_mem (Channel.nextKey_available hmulti hi)⟩
    rw [hkey,keyAt,if_pos hmulti,List.getD_eq_getElem?_getD,List.getElem?_eq_getElem hmem.1,Option.getD_some]
  · intro roll
    simp only [result_eq_error]
    exact Channel.noAvailableKey_iff hmulti

/-- A channel with three keys in polling mode, as the cache holds it. -/
def threeKeys : HeldChannel :=
  let info : ChannelInfo := ⟨true,[],0,.polling⟩
  { id := 1
    key := "k0\nk1\nk2"
    channel := ⟨.enabled,none,"m","default",none,["k0","k1","k2"],info⟩
    memoryCacheEnabled := true
    isCached := true
    cached := some info
    row := some info }

def idleBreaker : Manager := ⟨∅,RouteHealth.defaultConfig,0⟩

theorem next_key_sound_threeKeys : AllDistinct (threeKeys.nextKeys idleBreaker [] [0,0,0]) :=
  ((next_key_sound threeKeys idleBreaker [] rfl).2.2 rfl [0,0,0] (by decide +kernel)).mpr
    (.inr ⟨by decide +kernel,.inl (.inr rfl)⟩)

/-- A copy read from the database beside the cache, as for a token that is confined to the channel, uses its first
key again and again. -/
theorem copied_channel_repeats_key :
    ¬AllDistinct ({ threeKeys with isCached := false }.nextKeys idleBreaker [] [0,0,0]) := by
  rintro ⟨l,hl,hnodup⟩
  have hsame : { threeKeys with isCached := false }.nextKeys idleBreaker [] [0,0,0] =
      [.ok ("k0",0),.ok ("k0",0),.ok ("k0",0)] := by rfl
  rw [hsame] at hl
  match l,hl with
  | [r,r',_],hl =>
    obtain ⟨hr,htail⟩ := List.cons.inj hl
    have hr' := (List.cons.inj htail).1
    rw [←Except.ok.inj hr,←Except.ok.inj hr'] at hnodup
    simp at hnodup

end HeldChannel

end Routing
end Tierflow
