import Tierflow.Relay.Distribute
import Tierflow.Routing.Candidates

/-! What the distributor can choose as the first channel of a request, over all random numbers. -/
namespace Tierflow
namespace Relay
open Routing

/-! ## What a draw may come to -/

/-- The channels that a draw may return. -/
def MayDraw (w : Surroundings) (r : Request) (c : ℕ × Channel) : Prop :=
  if w.memoryCacheEnabled then
    RowsCached w.cache r ∧ Pickable (filterSelectableChannels w.breaker r.exclude (targetChannels w.cache r)) c
  else
    w.tables.channels.find? c.1 = some c.2 ∧
      ∃ a∈filterSelectableAbilities w.breaker r.exclude (targetAbilities w.tables r), a.channelId = c.1

/-- A draw may find nothing. -/
def MayMiss (w : Surroundings) (r : Request) : Prop :=
  if w.memoryCacheEnabled then ¬RowsCached w.cache r ∨ allowedChannels w.cache r = []
  else
    targetAbilities w.tables r = [] ∨
      ∃ a∈filterSelectableAbilities w.breaker r.exclude (targetAbilities w.tables r),
        w.tables.channels.find? a.channelId = none

lemma exists_draw_iff (w : Surroundings) (r : Request) (c : ℕ × Channel) :
    (∃ roll, getRandomSatisfiedChannelConstrained w r roll = .ok (some c)) ↔ MayDraw w r c := by
  unfold getRandomSatisfiedChannelConstrained MayDraw
  cases hm : w.memoryCacheEnabled with
  | false => exact exists_getChannelConstrained_iff w.tables w.breaker r c.1 c.2
  | true =>
    simp only [Bool.not_true,Bool.false_eq_true,if_false,if_true]
    constructor
    · intro h
      have hrows : RowsCached w.cache r := by
        obtain ⟨roll,hroll⟩ := h
        exact rowsCached_of_pick hroll
      exact ⟨hrows,(exists_getCachedChannel_iff_of_rows hrows w.breaker c).mp h⟩
    · exact fun h => (exists_getCachedChannel_iff_of_rows h.1 w.breaker c).mpr h.2

lemma exists_miss_iff (w : Surroundings) (r : Request) :
    (∃ roll, ∀ c, getRandomSatisfiedChannelConstrained w r roll≠.ok (some c)) ↔ MayMiss w r := by
  unfold getRandomSatisfiedChannelConstrained MayMiss
  cases hm : w.memoryCacheEnabled with
  | false => exact exists_getChannelConstrained_miss_iff w.tables w.breaker r
  | true =>
    simp only [Bool.not_true,Bool.false_eq_true,if_false,if_true]
    constructor
    · rintro ⟨roll,hmiss⟩
      by_contra hcon
      push Not at hcon
      obtain ⟨c,hc⟩ := exists_of_rowsCached hcon.1 hcon.2 w.breaker roll
      exact hmiss c hc
    · intro h
      refine ⟨0,fun c hc => ?_⟩
      have hrows := rowsCached_of_pick hc
      have hpick := (exists_getCachedChannel_iff_of_rows hrows w.breaker c).mp ⟨0,hc⟩
      have hmem := Selection.relax_subset _ _ hpick.1
      rw [h.resolve_left (not_not.mpr hrows) |> targetChannels_of_nil] at hmem
      exact absurd hmem List.not_mem_nil

/-- What a search through groups may come to: what one of them offers, if all before it may be missed. -/
def MayFind (w : Surroundings) (request : String → Request) : List String → ℕ × Channel → Prop
  | [],_ => False
  | g::gs,c => MayDraw w (request g) c ∨ MayMiss w (request g) ∧ MayFind w request gs c

/-- The groups that are searched for a channel. -/
def searchedGroups (w : Surroundings) (usingGroup : String) : List String :=
  if usingGroup = "auto" then if w.autoGroups = [] then [] else w.userAutoGroup else [usingGroup]

/-- The same surroundings with other random numbers. -/
def Surroundings.rolled (w : Surroundings) (rolls : ℕ → ℕ) : Surroundings := { w with channelRoll := rolls }

/-- A search uses the numbers from its position on. -/
lemma autoGroupLoop_congr (S : RelaySettings) (w : Surroundings) {rolls rolls' : ℕ → ℕ} (groups : List String)
    (started : Bool) (i : ℕ) (p : RetryParam) (c : Context) (h : ∀ j, i≤j → rolls j = rolls' j) :
    autoGroupLoop S (w.rolled rolls) started i groups p c =
      autoGroupLoop S (w.rolled rolls') started i groups p c := by
  induction groups generalizing started i p c with
  | nil => rfl
  | cons g groups ih =>
    have hroll : (w.rolled rolls).channelRoll i = (w.rolled rolls').channelRoll i := h i le_rfl
    have hget : ∀ r n, getRandomSatisfiedChannelConstrained (w.rolled rolls) r n =
        getRandomSatisfiedChannelConstrained (w.rolled rolls') r n := fun r n => rfl
    rw [autoGroupLoop,autoGroupLoop,hroll]
    simp only [hget,ih true (i+1) _ _ (fun j hj => h j (by omega))]

/-- One group of the search, on the first try. -/
lemma autoGroupLoop_cons (S : RelaySettings) (w : Surroundings) (g : String) (groups : List String) (started : Bool)
    (i : ℕ) {p : RetryParam} (c : Context) (hp : p.retry = 0) (rolls : ℕ → ℕ) :
    (autoGroupLoop S (w.rolled rolls) started i (g::groups) p c).1 =
      match getRandomSatisfiedChannelConstrained w (p.request g 0) (rolls i) with
      | .ok (some channel) => some channel
      | _ => (autoGroupLoop S (w.rolled rolls) true (i+1) groups { p with retry := 0 }
          { c with autoGroupIndex := some (i+1) }).1 := by
  have hretry : (if started then 0 else p.retry) = 0 := by
    rw [hp]
    exact ite_self 0
  rw [autoGroupLoop]
  simp only [hretry]
  have hsame : getRandomSatisfiedChannelConstrained (w.rolled rolls) (p.request g 0)
      ((w.rolled rolls).channelRoll i) = getRandomSatisfiedChannelConstrained w (p.request g 0) (rolls i) := rfl
  rw [hsame]
  cases getRandomSatisfiedChannelConstrained w (p.request g 0) (rolls i) with
  | error e => rfl
  | ok found =>
    cases found with
    | none => rfl
    | some channel =>
      dsimp only
      split_ifs <;> rfl

lemma exists_autoGroupLoop_iff (S : RelaySettings) (w : Surroundings) (groups : List String) (started : Bool)
    (i : ℕ) (p : RetryParam) (c : Context) (hp : p.retry = 0) (ch : ℕ × Channel) :
    (∃ rolls, (autoGroupLoop S (w.rolled rolls) started i groups p c).1 = some ch) ↔
      MayFind w (fun g => p.request g 0) groups ch := by
  induction groups generalizing started i p c with
  | nil => simp [autoGroupLoop,MayFind]
  | cons g groups ih =>
    have hrest := ih true (i+1) { p with retry := 0 } { c with autoGroupIndex := some (i+1) } rfl
    simp only [autoGroupLoop_cons S w g groups started i c hp,MayFind]
    rw [←exists_draw_iff,←exists_miss_iff]
    constructor
    · rintro ⟨rolls,h⟩
      split at h
      · rename_i channel hdraw
        exact .inl ⟨rolls i,by rw [hdraw,h]⟩
      · rename_i hmiss
        exact .inr ⟨⟨rolls i,fun d hd => hmiss d hd⟩,hrest.mp ⟨rolls,h⟩⟩
    · rintro (⟨roll,hdraw⟩ | ⟨⟨roll,hmiss⟩,hfind⟩)
      · exact ⟨fun _ => roll,by rw [hdraw]⟩
      · obtain ⟨rolls,hrolls⟩ := hrest.mpr hfind
        refine ⟨Function.update rolls i roll,?_⟩
        rw [Function.update_self]
        split
        · rename_i channel hdraw
          exact absurd hdraw (hmiss channel)
        · rw [autoGroupLoop_congr S w groups true (i+1) _ _
            (fun j hj => Function.update_of_ne (by omega) roll rolls)]
          exact hrolls

/-- What the search for a first channel may come to. -/
lemma exists_search_iff (S : RelaySettings) (w : Surroundings) (q : RelayRequest) (r : RoutedRequest)
    (modelName : String) (ch : ℕ × Channel) :
    (∃ rolls, (cacheGetRandomSatisfiedChannel S (w.rolled rolls) (selectionParam q r modelName)
      (requestContext q r)).1 = .ok ch) ↔
      MayFind w (fun g => (selectionParam q r modelName).request g 0) (searchedGroups w q.usingGroup) ch := by
  unfold cacheGetRandomSatisfiedChannel searchedGroups
  by_cases hauto : q.usingGroup = "auto"
  · have htoken : (selectionParam q r modelName).tokenGroup = "auto" := hauto
    by_cases hnone : w.autoGroups = []
    · have hnone' : ∀ rolls, (w.rolled rolls).autoGroups = [] := fun _ => hnone
      simp [htoken,hauto,hnone,hnone',MayFind]
    · have hsome : ∀ rolls, (w.rolled rolls).autoGroups≠[] := fun _ => hnone
      simp only [htoken,hauto,hnone,hsome,if_true,if_false,orFail_eq_ok]
      exact exists_autoGroupLoop_iff S w w.userAutoGroup false 0 (selectionParam q r modelName)
        (requestContext q r) rfl ch
  · have htoken : (selectionParam q r modelName).tokenGroup≠"auto" := hauto
    simp only [htoken,hauto,if_false,MayFind,and_false,or_false]
    rw [←exists_draw_iff]
    constructor
    · rintro ⟨rolls,h⟩
      refine ⟨rolls 0,?_⟩
      split at h
      · rename_i channel hdraw
        rw [←Except.ok.inj h]
        exact hdraw
      · contradiction
    · rintro ⟨roll,hdraw⟩
      refine ⟨fun _ => roll,?_⟩
      have hdraw' : getRandomSatisfiedChannelConstrained (w.rolled (fun _ => roll))
          ((selectionParam q r modelName).request (selectionParam q r modelName).tokenGroup
            (selectionParam q r modelName).retry) ((w.rolled (fun _ => roll)).channelRoll 0) = .ok (some ch) := hdraw
      rw [hdraw']

/-! ## The first channel -/

/-- The request uses the channel that an earlier one left as preferred. -/
def UsesPreferred (w : Surroundings) (q : RelayRequest) (modelName : String) (id : ℕ) : Prop :=
  q.preferredChannelId = some id ∧ ∃ channel, cacheGetChannel w id = some channel ∧ channel.status = .enabled ∧
    servesPreferred w q.usingGroup modelName id = true

/-- The request is refused because its preferred channel is disabled. -/
def RefusesPreferred (w : Surroundings) (q : RelayRequest) : Prop :=
  ∃ id channel, q.preferredChannelId = some id ∧ cacheGetChannel w id = some channel ∧ channel.status≠.enabled ∧
    w.skipRetryAfterChannelAffinityFailure = true

/-- What may be chosen first: the token's own channel, the preferred one, or what a search comes to. -/
def MayChoose (w : Surroundings) (q : RelayRequest) (r : RoutedRequest) (modelName : String) (id : ℕ) : Prop :=
  match q.tokenSpecificChannelId with
  | some specific => id = specific ∧ ∃ channel, w.tables.channels.find? id = some channel ∧ channel.status = .enabled
  | none =>
    checkTokenModelLimit q (r.autoRouteAlias.getD modelName) = .ok () ∧ modelName≠"" ∧
      (UsesPreferred w q modelName id ∨ (∀ j, ¬UsesPreferred w q modelName j) ∧ ¬RefusesPreferred w q ∧
        ∃ channel, MayFind w (fun g => (selectionParam q r modelName).request g 0)
          (searchedGroups w q.usingGroup) (id,channel))

/-- The channels that the first attempt may go to. -/
def FirstChannel (w : Surroundings) (q : RelayRequest) (r : RoutedRequest) (id : ℕ) : Prop :=
  isDirectModelCall q r (getModelRequest q.endpoint r.model) = false ∧
    MayChoose w q r (getModelRequest q.endpoint r.model) id

lemma preferredChannel_cases (w : Surroundings) (q : RelayRequest) (modelName : String) :
    (∃ ch, preferredChannel w q modelName = .ok (some ch) ∧ ∀ id, UsesPreferred w q modelName id ↔ id = ch.1) ∨
      (preferredChannel w q modelName = .ok none ∧ (∀ id, ¬UsesPreferred w q modelName id) ∧ ¬RefusesPreferred w q) ∨
        (∃ e, preferredChannel w q modelName = .error e) ∧ (∀ id, ¬UsesPreferred w q modelName id) ∧
          RefusesPreferred w q := by
  unfold preferredChannel UsesPreferred RefusesPreferred
  cases hp : q.preferredChannelId with
  | none => exact .inr (.inl ⟨rfl,by simp,by simp⟩)
  | some id =>
    simp only [Option.some.injEq]
    cases hch : cacheGetChannel w id with
    | none =>
      refine .inr (.inl ⟨rfl,?_,?_⟩)
      · rintro j ⟨rfl,channel,hc,-⟩
        rw [hch] at hc
        contradiction
      · rintro ⟨j,channel,rfl,hc,-⟩
        rw [hch] at hc
        contradiction
    | some channel =>
      simp only
      have hunused : (channel.status≠.enabled ∨ servesPreferred w q.usingGroup modelName id = false) →
          ∀ j, ¬(id = j ∧ ∃ channel, cacheGetChannel w j = some channel ∧ channel.status = .enabled ∧
            servesPreferred w q.usingGroup modelName j = true) := by
        rintro hor j ⟨rfl,d,hd,he,hs⟩
        rw [hch] at hd
        obtain rfl := Option.some.inj hd
        rcases hor with hor | hor
        · exact hor he
        · rw [hs] at hor
          contradiction
      by_cases he : channel.status = .enabled
      · rw [if_neg (not_not.mpr he)]
        have hkept : ¬∃ j d, id = j ∧ cacheGetChannel w j = some d ∧ d.status≠.enabled ∧
            w.skipRetryAfterChannelAffinityFailure = true := by
          rintro ⟨j,d,rfl,hd,hne,-⟩
          rw [hch] at hd
          exact hne (Option.some.inj hd ▸ he)
        by_cases hs : servesPreferred w q.usingGroup modelName id = true
        · rw [if_pos hs]
          refine .inl ⟨(id,channel),rfl,fun j => ⟨fun h => h.1.symm,?_⟩⟩
          rintro rfl
          exact ⟨rfl,channel,hch,he,hs⟩
        · rw [if_neg hs]
          exact .inr (.inl ⟨rfl,hunused (.inr (Bool.eq_false_iff.mpr hs)),hkept⟩)
      · rw [if_pos he]
        by_cases hskip : w.skipRetryAfterChannelAffinityFailure = true
        · rw [if_pos hskip]
          exact .inr (.inr ⟨⟨_,rfl⟩,hunused (.inl he),id,channel,rfl,hch,he,hskip⟩)
        · rw [if_neg hskip]
          refine .inr (.inl ⟨rfl,hunused (.inl he),?_⟩)
          rintro ⟨_,_,-,-,-,hs⟩
          exact hskip hs

lemma channelId_setupContext (w : Surroundings) (c : Context) (ch : ℕ × Channel) :
    (setupContextForSelectedChannel w c ch).channelId = ch.1 := by
  unfold setupContextForSelectedChannel
  split
  · rename_i c' h
    unfold setupContextForSelectedChannelExcluding at h
    simp only at h
    split at h
    · contradiction
    · split_ifs at h <;> rw [←Except.ok.inj h]
  · rfl

/-- What the distributor chooses for some random numbers. -/
lemma exists_chooseChannel_iff (S : RelaySettings) (w : Surroundings) (q : RelayRequest) (r : RoutedRequest)
    (modelName : String) (id : ℕ) : (∃ rolls ch c, chooseChannel S (w.rolled rolls) q r modelName = .ok (ch,c) ∧
      ch.1 = id) ↔ MayChoose w q r modelName id := by
  unfold chooseChannel MayChoose
  cases q.tokenSpecificChannelId with
  | some specific =>
    simp only
    constructor
    · rintro ⟨rolls,ch,c,h,rfl⟩
      obtain ⟨channel,hf,h⟩ := bind_eq_ok.mp h
      obtain ⟨_,he,h⟩ := bind_eq_ok.mp h
      obtain ⟨rfl,-⟩ := Prod.mk.inj (Except.ok.inj h)
      exact ⟨rfl,channel,orFail_eq_ok.mp hf,require_eq_ok.mp he⟩
    · rintro ⟨rfl,channel,hf,he⟩
      refine ⟨fun _ => 0,(id,channel),requestContext q r,?_,rfl⟩
      have hf' : (w.rolled (fun _ => 0)).tables.channels.find? id = some channel := hf
      simp only [hf',orFail_some,ok_bind,require_of he]
      rfl
  | none =>
    simp only
    cases hlimit : checkTokenModelLimit q (r.autoRouteAlias.getD modelName) with
    | error e =>
      constructor
      · rintro ⟨_,_,_,h,_⟩
        cases h
      · rintro ⟨h,_⟩
        cases h
    | ok u =>
      by_cases hname : modelName≠""
      swap
      · constructor
        · rintro ⟨_,_,_,h,_⟩
          obtain ⟨_,-,h⟩ := bind_eq_ok.mp h
          obtain ⟨_,hreq,-⟩ := bind_eq_ok.mp h
          exact absurd (require_eq_ok.mp hreq) hname
        · exact fun h => absurd h.2.1 hname
      have hpref : ∀ rolls, preferredChannel (w.rolled rolls) q modelName = preferredChannel w q modelName :=
        fun _ => rfl
      rw [and_iff_right (show (Except.ok u : Except DistributeError Unit) = .ok () from rfl),and_iff_right hname]
      simp only [ok_bind,require_of hname,hpref]
      obtain ⟨ch,hch,huse⟩ | ⟨hch,huse,hkept⟩ | ⟨⟨e,hch⟩,huse,hrefuse⟩ := preferredChannel_cases w q modelName
      · simp only [hch,ok_bind]
        constructor
        · rintro ⟨_,d,c,h,rfl⟩
          obtain ⟨rfl,-⟩ := Prod.mk.inj (Except.ok.inj h)
          exact .inl ((huse ch.1).mpr rfl)
        · rintro (h | ⟨h,-⟩)
          · exact ⟨fun _ => 0,ch,_,rfl,((huse id).mp h).symm⟩
          · exact absurd ((huse ch.1).mpr rfl) (h ch.1)
      · simp only [hch,ok_bind,huse,false_or,not_false_eq_true,implies_true,hkept,true_and]
        simp only [←exists_search_iff S w q r modelName]
        constructor
        · rintro ⟨rolls,d,c,h,rfl⟩
          split at h
          · rename_i channel p c' hsearch
            obtain ⟨rfl,-⟩ := Prod.mk.inj (Except.ok.inj h)
            exact ⟨channel.2,rolls,by rw [hsearch]⟩
          · contradiction
        · rintro ⟨channel,rolls,h⟩
          refine ⟨rolls,(id,channel),?_⟩
          split
          · rename_i d p c' hsearch
            rw [hsearch] at h
            exact ⟨c',by rw [Except.ok.inj h]; rfl,rfl⟩
          · rename_i e p hsearch
            rw [hsearch] at h
            contradiction
      · simp only [hch]
        constructor
        · rintro ⟨_,_,_,h,_⟩
          cases h
        · rintro (h | ⟨-,h,-⟩)
          · exact absurd h (huse id)
          · exact absurd hrefuse h

theorem exists_distribute_iff (S : RelaySettings) (w : Surroundings) (q : RelayRequest) (r : RoutedRequest) (id : ℕ) :
    (∃ rolls c, distribute S (w.rolled rolls) q r = .ok c ∧ c.channelId = id) ↔ FirstChannel w q r id := by
  unfold FirstChannel distribute
  rw [←exists_chooseChannel_iff S]
  simp only
  constructor
  · rintro ⟨rolls,c,h,rfl⟩
    obtain ⟨_,hdirect,h⟩ := bind_eq_ok.mp h
    obtain ⟨⟨ch,d⟩,hchoose,h⟩ := bind_eq_ok.mp h
    obtain rfl := Except.ok.inj h
    exact ⟨require_eq_ok.mp hdirect,rolls,ch,d,hchoose,(channelId_setupContext _ d ch).symm⟩
  · rintro ⟨hdirect,rolls,ch,d,hchoose,rfl⟩
    refine ⟨rolls,setupContextForSelectedChannel (w.rolled rolls) d ch,?_,channelId_setupContext _ d ch⟩
    rw [require_of hdirect,hchoose]
    rfl

end Relay
end Tierflow
