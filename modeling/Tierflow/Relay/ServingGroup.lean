import Tierflow.Billing.ServingRatio
import Tierflow.Relay.GroupAttempts

/-! The group that serves a request of an auto group. Every search for a channel leaves its group in the context,
and the group ratio of the price data is taken from there before the attempt; a frozen snapshot keeps the one of the
admission. -/
namespace Tierflow
namespace Relay
open Routing Billing

/-! ## The group of an attempt -/

/-- The group in which a search from position `i` on finds its channel, which is what `autoGroupLoop` leaves in the
context. -/
def autoGroupSelected (w : Surroundings) (started : Bool) : ℕ → List String → RetryParam → Option String
  | _,[],_ => none
  | i,autoGroup::groups,p =>
    let priorityRetry := if started then 0 else p.retry
    match getRandomSatisfiedChannelConstrained w (p.request autoGroup priorityRetry) (w.channelRoll i) with
    | .ok (some _) => some autoGroup
    | _ => autoGroupSelected w true (i+1) groups { p with retry := 0 }

/-- What `CacheGetRandomSatisfiedChannel` sets `auto_group` to, if it does. -/
def selectedGroup (w : Surroundings) (p : RetryParam) (c : Context) : Option String :=
  if p.tokenGroup = "auto" ∧ w.autoGroups≠[] then
    let start := c.autoGroupIndex.getD 0
    autoGroupSelected w false start (w.userAutoGroup.drop start) p
  else none

/-- The context key `auto_group`, the group in use and the ratio in the price data; and, for the account, the group
in which the channel of the latest attempt was found. -/
structure PriceTrack where
  autoGroup : Option String
  usingGroup : String
  groupRatioInfo : GroupRatioInfo
  servingGroup : String

def handleGroupRatio (R : GroupRatios) (userGroup : String) (t : PriceTrack) : PriceTrack :=
  let usingGroup := t.autoGroup.getD t.usingGroup
  { t with usingGroup := usingGroup, groupRatioInfo := groupRatioInfo R userGroup usingGroup }

/-- What the choice of the channel of a pass does to it; the first attempt has its channel already. -/
def trackChannel (S : RelaySettings) (R : GroupRatios) (userGroup : String) (w : Surroundings) (s : RelayState)
    (t : PriceTrack) : PriceTrack :=
  if ¬s.param.retry≤S.retryTimes ∨ maxTotalAttempts S ≤ s.attempts ∨ s.ctx.channelMeta = false then t
  else
    match s.stickyChannel with
    | some _ => handleGroupRatio R userGroup t
    | none =>
      match selectedGroup w (prepare w s) s.ctx with
      | none => handleGroupRatio R userGroup t
      | some g => handleGroupRatio R userGroup { t with autoGroup := some g, servingGroup := g }

/-- A pass of the relay loop together with the price data. -/
def pricedPass (S : RelaySettings) (R : GroupRatios) (userGroup : String) (w : Surroundings)
    (st : RelayState × PriceTrack) : Pass (RelayState × PriceTrack) :=
  match relayPass S w st.1 with
  | .next s => .next (s,trackChannel S R userGroup w st.1 st.2)
  | .done s => .done (s,trackChannel S R userGroup w st.1 st.2)

/-- The price data of a request that the distributor admitted with a channel of the group. -/
def admitted (R : GroupRatios) (userGroup g : String) : PriceTrack :=
  ⟨some g,g,groupRatioInfo R userGroup g,g⟩

/-- The channel is one of the group: it was drawn there, or is a preferred channel that the group lists. -/
inductive Offered (g : String) (id : ℕ) : Prop
  | drawn (w : Surroundings) (p : RetryParam) (retry : ℕ) (channel : Channel)
      (h : MayDraw w (p.request g retry) (id,channel))
  | preferred (w : Surroundings) (modelName : String) (h : isChannelEnabledForGroupModel w g modelName id = true)

/-- A request of an auto group that the distributor gave a channel of the group `g` ended with a successful
attempt. -/
structure Succeeds (S : RelaySettings) (R : GroupRatios) (userGroup modelName g : String) (c : Context)
    (st : RelayState × PriceTrack) : Prop where
  fresh : c.channelMeta = false
  first : Offered g c.channelId
  run : ∃ st' w, Reaches (pricedPass S R userGroup) (initialState "auto" modelName c,admitted R userGroup g) st' ∧
    pricedPass S R userGroup w st' = .done st
  success : st.1.newAPIError = none
  attempted : st.1.trail≠[]

/-- A search that finds a channel leaves a group of the channel behind, and one that finds none leaves nothing. -/
def SelectedFrom : Option (ℕ × Channel) → Option String → Prop
  | none,none => True
  | some ch,some g => Offered g ch.1
  | _,_ => False

section Track
variable {S : RelaySettings} {R : GroupRatios} {userGroup : String} {w : Surroundings}

lemma autoGroupLoop_selected (groups : List String) (started : Bool) (i : ℕ) (p : RetryParam) (c : Context) :
    SelectedFrom (autoGroupLoop S w started i groups p c).1 (autoGroupSelected w started i groups p) := by
  induction groups generalizing started i p c with
  | nil => exact trivial
  | cons g groups ih =>
    have hrest := ih true (i+1) { p with retry := 0 } { c with autoGroupIndex := some (i+1) }
    rw [autoGroupLoop,autoGroupSelected]
    cases hd : getRandomSatisfiedChannelConstrained w (p.request g (if started then 0 else p.retry))
        (w.channelRoll i) with
    | error e => exact hrest
    | ok o =>
      cases o with
      | none => exact hrest
      | some channel =>
        have hoff : Offered g channel.1 := .drawn w p _ channel.2 ((exists_draw_iff w _ channel).mp ⟨_,hd⟩)
        simp only
        split_ifs <;> exact hoff

lemma cacheGet_selected {p : RetryParam} (hp : p.tokenGroup = "auto") (c : Context) :
    match (cacheGetRandomSatisfiedChannel S w p c).1 with
    | .error _ => selectedGroup w p c = none
    | .ok ch => ∃ g, selectedGroup w p c = some g ∧ Offered g ch.1 := by
  unfold cacheGetRandomSatisfiedChannel selectedGroup
  rw [if_pos hp]
  by_cases ha : w.autoGroups = []
  · rw [if_pos ha,if_neg (fun h => h.2 ha)]
  · rw [if_neg ha,if_pos ⟨hp,ha⟩]
    have hsel := autoGroupLoop_selected (S := S) (w := w) (w.userAutoGroup.drop (c.autoGroupIndex.getD 0)) false
      (c.autoGroupIndex.getD 0) p c
    show match orFail getChannelFailed (autoGroupLoop S w false (c.autoGroupIndex.getD 0)
      (w.userAutoGroup.drop (c.autoGroupIndex.getD 0)) p c).1 with
      | .error _ => _
      | .ok ch => _
    generalize autoGroupSelected w false (c.autoGroupIndex.getD 0) _ p = o at hsel ⊢
    generalize (autoGroupLoop S w false (c.autoGroupIndex.getD 0) _ p c).1 = found at hsel ⊢
    cases found with
    | none =>
      cases o with
      | none => rfl
      | some g => exact hsel.elim
    | some ch =>
      cases o with
      | none => exact hsel.elim
      | some g => exact ⟨g,rfl,hsel⟩

lemma tokenGroup_advance (c : Context) (p : RetryParam) :
    (advanceModelGroupMemberForAttempt w c p).tokenGroup = p.tokenGroup := by
  unfold advanceModelGroupMemberForAttempt
  split <;> rfl

lemma tokenGroup_prepare (s : RelayState) : (prepare w s).tokenGroup = s.param.tokenGroup := by
  unfold prepare
  cases s.stickyChannel with
  | some ch => rfl
  | none =>
    simp only
    split_ifs
    · exact tokenGroup_advance _ _
    · rfl

lemma tokenGroup_autoGroupLoop (groups : List String) (started : Bool) (i : ℕ) (p : RetryParam) (c : Context) :
    (autoGroupLoop S w started i groups p c).2.1.tokenGroup = p.tokenGroup := by
  induction groups generalizing started i p c with
  | nil => rfl
  | cons g groups ih =>
    rw [autoGroupLoop]
    split
    · split_ifs <;> rfl
    · exact ih true (i+1) { p with retry := 0 } { c with autoGroupIndex := some (i+1) }

lemma tokenGroup_cacheGet (p : RetryParam) (c : Context) :
    (cacheGetRandomSatisfiedChannel S w p c).2.1.tokenGroup = p.tokenGroup := by
  unfold cacheGetRandomSatisfiedChannel
  split_ifs
  · rfl
  · exact tokenGroup_autoGroupLoop _ _ _ _ _
  · split <;> rfl

lemma tokenGroup_attempted (s : RelayState) (id : ℕ) (p : RetryParam) (c : Context) :
    (attempted s id p c).param.tokenGroup = p.tokenGroup := by
  show (if c.channelIsMultiKey then p.markKeyTried id (breakerKeyIndex c) else p).tokenGroup = _
  unfold RetryParam.markKeyTried
  split_ifs <;> rfl

lemma tokenGroup_increaseRetry (p : RetryParam) : p.increaseRetry.tokenGroup = p.tokenGroup := by
  unfold RetryParam.increaseRetry
  split_ifs <;> rfl

/-- What follows a failed attempt keeps its record; a channel that is rotated is the one that failed. -/
lemma afterFailure_keeps (s : RelayState) (id : ℕ) (e : RelayError) :
    let s' := (afterFailure S w s id e).state
    s'.trail = s.trail ∧ s'.newAPIError = s.newAPIError ∧ s'.ctx.channelMeta = s.ctx.channelMeta ∧
      s'.param.tokenGroup = s.param.tokenGroup ∧ ∀ ch∈s'.stickyChannel, ch.1 = id := by
  unfold afterFailure
  cases hr : rotateTo S w s id e with
  | some ch =>
    refine ⟨rfl,rfl,rfl,tokenGroup_increaseRetry _,?_⟩
    intro ch' hch
    rw [←Option.some.inj hch]
    exact (rotateTo_eq_some hr).1
  | none =>
    simp only
    split_ifs
    · exact ⟨rfl,rfl,rfl,tokenGroup_increaseRetry _,fun ch h => nomatch h⟩
    · exact ⟨rfl,rfl,rfl,rfl,fun ch h => nomatch h⟩

/-- What holds at the head of every pass: the ratio of the price data is that of the group whose channel was tried
last, which is also the one that the context has. -/
structure Tracks (R : GroupRatios) (userGroup : String) (st : RelayState × PriceTrack) : Prop where
  context : st.2.autoGroup = some st.2.servingGroup
  ratio : st.2.groupRatioInfo = groupRatioInfo R userGroup st.2.servingGroup
  served : ∀ a∈st.1.trail.head?, Offered st.2.servingGroup a.channelId
  sticky : ∀ ch∈st.1.stickyChannel, Offered st.2.servingGroup ch.1
  first : st.1.ctx.channelMeta = false → Offered st.2.servingGroup st.1.ctx.channelId
  auto : st.1.param.tokenGroup = "auto"

/-- The price data follow the channel that a pass chooses. -/
lemma Tracks.chosen {st : RelayState × PriceTrack} {id : ℕ} {p : RetryParam} {c : Context}
    (h : Tracks R userGroup st) (hatt : Attempts S w st.1 id p c) :
    let t := trackChannel S R userGroup w st.1 st.2
    t.autoGroup = some t.servingGroup ∧ t.groupRatioInfo = groupRatioInfo R userGroup t.servingGroup ∧
      Offered t.servingGroup id ∧ p.tokenGroup = "auto" := by
  obtain ⟨s,t⟩ := st
  have hget := hatt.channel
  have hprep : (prepare w s).tokenGroup = "auto" := (tokenGroup_prepare s).trans h.auto
  have hctx : t.autoGroup = some t.servingGroup := h.context
  unfold getChannel at hget
  unfold trackChannel
  cases hm : s.ctx.channelMeta with
  | false =>
    rw [hm] at hget
    obtain ⟨rfl,h'⟩ := Prod.mk.inj (Except.ok.inj hget)
    obtain ⟨rfl,rfl⟩ := Prod.mk.inj h'
    rw [if_pos (.inr (.inr rfl))]
    exact ⟨h.context,h.ratio,h.first hm,hprep⟩
  | true =>
    have hgo : ¬(¬(s.param.retry : ℤ)≤S.retryTimes ∨ maxTotalAttempts S ≤ s.attempts ∨ true = false) := by
      rintro (hr | hm | hf)
      · exact hr hatt.retries
      · exact absurd hatt.budget (not_lt.mpr hm)
      · contradiction
    rw [if_neg hgo]
    simp only [hm,Bool.not_true,Bool.false_eq_true,if_false] at hget
    cases hs : s.stickyChannel with
    | some ch =>
      rw [hs] at hget
      obtain ⟨c2,-,he⟩ := bind_eq_ok.mp hget
      obtain ⟨rfl,h'⟩ := Prod.mk.inj (Except.ok.inj he)
      obtain ⟨rfl,-⟩ := Prod.mk.inj h'
      simp only [handleGroupRatio,hctx,Option.getD_some]
      exact ⟨trivial,trivial,h.sticky ch hs,hprep⟩
    | none =>
      rw [hs] at hget
      have hsel := cacheGet_selected (S := S) (w := w) hprep s.ctx
      have htoken := tokenGroup_cacheGet (S := S) (w := w) (prepare w s) s.ctx
      revert hget hsel htoken
      generalize cacheGetRandomSatisfiedChannel S w (prepare w s) s.ctx = found
      intro hget hsel htoken
      obtain ⟨res,p2,c2⟩ := found
      cases res with
      | error e => contradiction
      | ok ch =>
        obtain ⟨c3,-,he⟩ := bind_eq_ok.mp hget
        obtain ⟨rfl,h'⟩ := Prod.mk.inj (Except.ok.inj he)
        obtain ⟨rfl,-⟩ := Prod.mk.inj h'
        obtain ⟨g,hg,hoff⟩ := hsel
        simp only [hg,handleGroupRatio,Option.getD_some]
        exact ⟨trivial,trivial,hoff,htoken.trans hprep⟩

lemma pricedPass_next {st st' : RelayState × PriceTrack} (h : pricedPass S R userGroup w st = .next st') :
    relayPass S w st.1 = .next st'.1 ∧ st'.2 = trackChannel S R userGroup w st.1 st.2 := by
  unfold pricedPass at h
  split at h
  · rename_i s hs
    obtain rfl := Pass.next.inj h
    exact ⟨hs,rfl⟩
  · contradiction

lemma pricedPass_done {st st' : RelayState × PriceTrack} (h : pricedPass S R userGroup w st = .done st') :
    relayPass S w st.1 = .done st'.1 ∧ st'.2 = trackChannel S R userGroup w st.1 st.2 := by
  unfold pricedPass at h
  split at h
  · contradiction
  · rename_i s hs
    obtain rfl := Pass.done.inj h
    exact ⟨hs,rfl⟩

/-- What one pass preserves. -/
lemma Tracks.next {st st' : RelayState × PriceTrack} (h : Tracks R userGroup st)
    (hpass : pricedPass S R userGroup w st = .next st') : Tracks R userGroup st' := by
  obtain ⟨hrelay,htrack⟩ := pricedPass_next hpass
  obtain ⟨id,p,c,e,hatt,hafter⟩ := relayPass_eq_next hrelay
  obtain ⟨hctx,hratio,hoff,hauto⟩ := h.chosen hatt
  rw [←htrack] at hctx hratio hoff
  have hkeeps := afterFailure_keeps (S := S) (w := w)
    { attempted st.1 id p c with ctx := { c with channelMeta := true }, newAPIError := some e } id e
  rw [hafter] at hkeeps
  obtain ⟨htrail,-,hmeta,htoken,hsticky⟩ := hkeeps
  refine ⟨hctx,hratio,?_,?_,?_,?_⟩
  · intro a ha
    rw [show st'.1.trail = _ from htrail] at ha
    obtain rfl := Option.some.inj ha
    exact hoff
  · intro ch hch
    rw [hsticky ch hch]
    exact hoff
  · intro hfresh
    rw [show st'.1.ctx.channelMeta = true from hmeta] at hfresh
    contradiction
  · exact htoken.trans ((tokenGroup_attempted st.1 id p c).trans hauto)

/-- A run that ends with a success ends with the price data of the group that served it. -/
lemma Tracks.success {st st' : RelayState × PriceTrack} (h : Tracks R userGroup st)
    (hpass : pricedPass S R userGroup w st = .done st') (hok : st'.1.newAPIError = none) :
    st'.2.groupRatioInfo = groupRatioInfo R userGroup st'.2.servingGroup ∧
      ∀ a∈st'.1.trail.head?, Offered st'.2.servingGroup a.channelId := by
  obtain ⟨hrelay,htrack⟩ := pricedPass_done hpass
  have hstay : trackChannel S R userGroup w st.1 st.2 = st.2 → st'.1 = st.1 →
      st'.2.groupRatioInfo = groupRatioInfo R userGroup st'.2.servingGroup ∧
        ∀ a∈st'.1.trail.head?, Offered st'.2.servingGroup a.channelId := by
    intro ht hs
    rw [htrack,ht,hs]
    exact ⟨h.ratio,h.served⟩
  by_cases hr : (st.1.param.retry : ℤ)≤S.retryTimes
  swap
  · apply hstay
    · exact if_pos (.inl hr)
    · unfold relayPass at hrelay
      rw [if_pos hr] at hrelay
      exact (Pass.done.inj hrelay).symm
  by_cases hm : maxTotalAttempts S ≤ st.1.attempts
  · apply hstay
    · exact if_pos (.inr (.inl hm))
    · unfold relayPass at hrelay
      rw [if_neg (not_not.mpr hr),if_pos hm] at hrelay
      exact (Pass.done.inj hrelay).symm
  cases hget : getChannel S w (prepare w st.1) st.1.ctx st.1.stickyChannel with
  | error e =>
    unfold relayPass at hrelay
    rw [if_neg (not_not.mpr hr),if_neg hm] at hrelay
    simp only [hget] at hrelay
    rw [←Pass.done.inj hrelay] at hok
    contradiction
  | ok r =>
    obtain ⟨id,p,c⟩ := r
    have hatt : Attempts S w st.1 id p c := ⟨hr,not_le.mp hm,hget⟩
    obtain ⟨-,hratio,hoff,-⟩ := h.chosen hatt
    rw [←htrack] at hratio hoff
    refine ⟨hratio,?_⟩
    rw [relayPass_of_attempts hatt] at hrelay
    cases hbody : w.bodyError with
    | some e =>
      rw [hbody] at hrelay
      rw [←Pass.done.inj hrelay] at hok
      contradiction
    | none =>
      rw [hbody] at hrelay
      cases hout : w.outcome with
      | none =>
        rw [hout] at hrelay
        rw [←Pass.done.inj hrelay]
        intro a ha
        obtain rfl := Option.some.inj ha
        exact hoff
      | some e =>
        rw [hout] at hrelay
        have hkeeps := afterFailure_keeps (S := S) (w := w)
          { attempted st.1 id p c with ctx := { c with channelMeta := true }, newAPIError := some e } id e
        simp only at hrelay hkeeps
        rw [hrelay] at hkeeps
        rw [show st'.1.newAPIError = some e from hkeeps.2.1] at hok
        contradiction

lemma tracks_admitted {modelName g : String} {c : Context} (hfirst : Offered g c.channelId) :
    Tracks R userGroup (initialState "auto" modelName c,admitted R userGroup g) where
  context := rfl
  ratio := rfl
  served := fun _ ha => nomatch ha
  sticky := fun _ hch => nomatch hch
  first := fun _ => hfirst
  auto := rfl

/-- At the end of a successful run the price data have the ratio of the group whose channel served it. -/
lemma Succeeds.serving {modelName g : String} {c : Context} {st : RelayState × PriceTrack}
    (h : Succeeds S R userGroup modelName g c st) :
    st.2.groupRatioInfo = groupRatioInfo R userGroup st.2.servingGroup ∧
      ∃ a, st.1.trail.head? = some a ∧ Offered st.2.servingGroup a.channelId := by
  obtain ⟨st',w,hrun,hpass⟩ := h.run
  have htracks : Tracks R userGroup st' :=
    hrun.invariant (fun w s s' hs hnext => hs.next hnext) (tracks_admitted h.first)
  obtain ⟨hratio,hserved⟩ := htracks.success hpass h.success
  refine ⟨hratio,?_⟩
  cases htrail : st.1.trail with
  | nil => exact absurd htrail h.attempted
  | cons a rest =>
    refine ⟨a,rfl,hserved a ?_⟩
    rw [htrail]
    rfl

end Track

/-- A request of an auto group that succeeds was served by a channel of the group that the price data follow, and
it is settled wholly with the ratio of that group, whatever its prices, its usage and its expression are, exactly if
no expression settles it or that ratio is the one of the group that it was admitted in. -/
theorem settled_with_serving_ratio_iff (S : RelaySettings) (R : GroupRatios) (userGroup modelName g : String)
    (c : Context) (st : RelayState × PriceTrack) (hst : Succeeds S R userGroup modelName g c st)
    (tiered override : Bool) :
    (∃ a, st.1.trail.head? = some a ∧ Offered st.2.servingGroup a.channelId) ∧
    ((∀ P f r usage, Priced P r tiered override →
      settledAcross P f r (groupRatioInfo R userGroup g) st.2.groupRatioInfo usage =
        settledAcross P f r (groupRatioInfo R userGroup st.2.servingGroup)
          (groupRatioInfo R userGroup st.2.servingGroup) usage) ↔
      tiered = false ∧ override = false ∨
        (groupRatioInfo R userGroup g).groupRatio = (groupRatioInfo R userGroup st.2.servingGroup).groupRatio) := by
  obtain ⟨hratio,hserved⟩ := hst.serving
  refine ⟨hserved,?_⟩
  rw [hratio]
  exact settledAcross_iff tiered override _ _

/-! ## A run through two groups -/

/-- Group `b` costs three times as much as group `a`. -/
def twoRatios : GroupRatios := ⟨fun _ _ => none,fun g => if g = "b" then 3 else 1⟩

def oneRetry : RelaySettings := ⟨1,0,false,0,[],[⟨500,599⟩]⟩

/-- Channel 1 is in group `a` and channel 2 in group `b`; the status of channel 1 is given. -/
def twoGroups (status : ChannelStatus) (outcome : Option RelayError) : Surroundings where
  memoryCacheEnabled := false
  tables := withChannel (withChannel ⟨.empty,[]⟩ { plainChannel 5 1 with status := status, models := "m", group := "a" })
    { plainChannel 5 1 with models := "m", group := "b" }
  cache := ⟨fun _ _ => [],fun _ => none⟩
  breaker := quietBreaker
  autoGroups := ["a","b"]
  userAutoGroup := ["a","b"]
  channelRoll := fun _ => 0
  keyRoll := 0
  bodyError := none
  outcome := outcome
  skipRetryAfterChannelAffinityFailure := false

def firstContext : Context where
  channelId := 1
  channelIsMultiKey := false
  channelMultiKeyIndex := 0
  channelMeta := false
  autoGroupIndex := some 0
  abandonedChannel := []
  tokenCrossGroupRetry := false
  specificChannelId := false
  modelGroupMembers := []

/-- The attempt on channel 1 fails, and channel 1 is disabled for it. -/
def afterFirst : RelayState × PriceTrack :=
  (pricedPass oneRetry twoRatios "u" (twoGroups .enabled (some ⟨500,"bad_response_status_code",false⟩))
    (initialState "auto" "m" firstContext,admitted twoRatios "u" "a")).state

/-- The attempt on channel 2 succeeds. -/
def afterSecond : RelayState × PriceTrack :=
  (pricedPass oneRetry twoRatios "u" (twoGroups .autoDisabled none) afterFirst).state

lemma succeeds_afterSecond : Succeeds oneRetry twoRatios "u" "m" "a" firstContext afterSecond where
  fresh := rfl
  first := .preferred (twoGroups .enabled none) "m" (by decide)
  run := ⟨afterFirst,twoGroups .autoDisabled none,.next _ .refl (Pass.eq_next (by decide)),
    Pass.eq_done (by decide)⟩
  success := by decide
  attempted := by decide

theorem afterSecond_settled :
    afterSecond.2.servingGroup = "b" ∧
    (∀ P f r usage, Priced P r false false →
      settledAcross P f r (groupRatioInfo twoRatios "u" "a") afterSecond.2.groupRatioInfo usage =
        settledAcross P f r (groupRatioInfo twoRatios "u" afterSecond.2.servingGroup)
          (groupRatioInfo twoRatios "u" afterSecond.2.servingGroup) usage) :=
  ⟨by decide,((settled_with_serving_ratio_iff oneRetry twoRatios "u" "m" "a" firstContext afterSecond
    succeeds_afterSecond false false).2).mpr (.inl ⟨rfl,rfl⟩)⟩

/-- A model with the expression `p * 3 + c * 15` and web searches at ten for a thousand. -/
def tieredPrices : PriceSettings :=
  { probeSettings true false (.error "") 0 with
    quotaPerUnit := 500000
    compile := fun _ => flatPrice
    toolPriceForModel := fun tool _ => if tool = "web_search_preview" then 10 else 0 }

def searchRequest : TextRequest :=
  { probeRequest with channelId := 2, responsesUsageInfo := some ⟨some 1,none⟩ }

/-- A request that group `b` served is settled by the expression with the ratio of group `a`, and its web search with
that of group `b`. -/
theorem crossGroup_mixes_ratios :
    Succeeds oneRetry twoRatios "u" "m" "a" firstContext afterSecond ∧ afterSecond.2.servingGroup = "b" ∧
    (settledAcross tieredPrices .wallet searchRequest (groupRatioInfo twoRatios "u" "a") afterSecond.2.groupRatioInfo
      (some ⟨⟨1000,500,"",⟨0,0,0,0⟩,⟨0,0⟩,0,0⟩,"",none⟩)).toOption = some 20250 ∧
    (settledAcross tieredPrices .wallet searchRequest (groupRatioInfo twoRatios "u" "b")
      (groupRatioInfo twoRatios "u" "b") (some ⟨⟨1000,500,"",⟨0,0,0,0⟩,⟨0,0⟩,0,0⟩,"",none⟩)).toOption =
        some 30750 :=
  ⟨succeeds_afterSecond,by decide +kernel,by decide +kernel,by decide +kernel⟩

end Relay
end Tierflow
