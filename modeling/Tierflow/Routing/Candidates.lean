import Tierflow.Routing.Channels

/-! What the two ways to pick a channel can return, over all random numbers. -/
namespace Tierflow
namespace Routing
open RouteHealth (Manager)

/-! ## Weighted picks -/

/-- Among candidates of different weight those of weight zero are never picked. -/
def Pickable (l : List (ℕ × Channel)) (c : ℕ × Channel) : Prop :=
  c∈l ∧ (0 < c.2.getWeight ∨ ∀ d∈l, d.2.getWeight = 0)

lemma exists_pickable {l : List (ℕ × Channel)} (h : l≠[]) : ∃ c, Pickable l c := by
  by_cases hz : ∀ d∈l, d.2.getWeight = 0
  · obtain ⟨c,cs,rfl⟩ := List.exists_cons_of_ne_nil h
    exact ⟨c,List.mem_cons_self,.inr hz⟩
  · push Not at hz
    obtain ⟨c,hc,hw⟩ := hz
    exact ⟨c,hc,.inl (Nat.pos_of_ne_zero hw)⟩

lemma sum_eq_zero_iff_weights {l : List (ℕ × Channel)} :
    (l.map (fun c => c.2.getWeight)).sum = 0 ↔ ∀ d∈l, d.2.getWeight = 0 := by
  rw [List.sum_eq_zero_iff,List.forall_mem_map]

/-- The smoothed weights add up to the number below which is rolled, and smoothing keeps positive
weights positive. -/
lemma smoothing_spec {l : List (ℕ × Channel)} (h : l≠[]) :
    let f := fun c : ℕ × Channel => c.2.getWeight*(smoothing l).2.1+(smoothing l).2.2
    (l.map f).sum = (smoothing l).1*(smoothing l).2.1 ∧ 0<(l.map f).sum ∧
      ∀ c∈l, 0<f c ↔ 0 < c.2.getWeight ∨ ∀ d∈l, d.2.getWeight = 0 := by
  have hlen : 0<l.length := List.length_pos_iff.mpr h
  by_cases hz : (l.map (fun c => c.2.getWeight)).sum = 0
  · have hall := sum_eq_zero_iff_weights.mp hz
    have hs : smoothing l = (l.length*100,1,100) := by
      unfold smoothing
      rw [if_pos hz]
    have hconst : (l.map (fun c : ℕ × Channel => c.2.getWeight*1+100)).sum = l.length*100 := by
      rw [List.map_congr_left (g := fun _ => 100) (fun c hc => by rw [hall c hc])]
      simp
    rw [hs]
    simp only [mul_one] at hconst ⊢
    refine ⟨hconst,by omega,?_⟩
    exact fun c _ => iff_of_true (by omega) (.inr hall)
  · have hnot : ¬∀ d∈l, d.2.getWeight = 0 := fun hc => hz (sum_eq_zero_iff_weights.mpr hc)
    have hs : ∃ k, 0<k ∧ smoothing l = ((l.map (fun c => c.2.getWeight)).sum,k,0) := by
      unfold smoothing
      rw [if_neg hz]
      split_ifs
      · exact ⟨100,by omega,rfl⟩
      · exact ⟨1,by omega,rfl⟩
    obtain ⟨k,hk,hs⟩ := hs
    rw [hs]
    simp only [add_zero]
    have hmul : (l.map (fun c : ℕ × Channel => c.2.getWeight*k)).sum = (l.map (fun c => c.2.getWeight)).sum*k :=
      List.sum_map_mul_right _ _ _
    refine ⟨hmul,?_,?_⟩
    · rw [hmul]
      exact Nat.mul_pos (Nat.pos_of_ne_zero hz) hk
    · intro c _
      constructor
      · exact fun hp => .inl (Nat.pos_of_mul_pos_right hp)
      · exact fun hp => Nat.mul_pos (hp.resolve_right hnot) hk

theorem exists_weightedPick_iff (l : List (ℕ × Channel)) (c : ℕ × Channel) :
    (∃ roll, weightedPickChannel l roll = .ok c) ↔ Pickable l c := by
  match l with
  | [] =>
    constructor
    · rintro ⟨_,h⟩
      exact nomatch h
    · exact fun h => absurd h.1 List.not_mem_nil
  | [d] =>
    constructor
    · rintro ⟨_,h⟩
      obtain rfl := Except.ok.inj h
      refine ⟨List.mem_singleton_self d,?_⟩
      rcases Nat.eq_zero_or_pos d.2.getWeight with hz | hp
      · exact .inr (by simpa using hz)
      · exact .inl hp
    · intro h
      exact ⟨0,by rw [List.mem_singleton.mp h.1]; rfl⟩
  | d::e::l =>
    obtain ⟨hsum,hpos,hiff⟩ := smoothing_spec (l := d::e::l) (by simp)
    have hdraw := Selection.exists_drawBelow_iff (fun c : ℕ × Channel =>
      c.2.getWeight*(smoothing (d::e::l)).2.1+(smoothing (d::e::l)).2.2) (d::e::l) c
    rw [hsum] at hdraw hpos
    have hpick : ∀ roll, weightedPickChannel (d::e::l) roll = orFail .channelNotFound
        (Selection.drawBelow (fun c => c.2.getWeight*(smoothing (d::e::l)).2.1+(smoothing (d::e::l)).2.2)
          (d::e::l) (roll%((smoothing (d::e::l)).1*(smoothing (d::e::l)).2.1) : ℕ)) := fun _ => rfl
    constructor
    · rintro ⟨roll,h⟩
      rw [hpick,orFail_eq_ok] at h
      have hm := hdraw.mp ⟨_,Nat.mod_lt roll hpos,h⟩
      exact ⟨hm.1,(hiff c hm.1).mp hm.2⟩
    · rintro ⟨hm,hw⟩
      obtain ⟨r,hr,hd⟩ := hdraw.mpr ⟨hm,(hiff c hm).mpr hw⟩
      refine ⟨r,?_⟩
      rw [hpick,orFail_eq_ok,Nat.mod_eq_of_lt hr]
      exact hd

/-! ## The cache -/

/-- A channel is listed under a group and a model. -/
def Channel.Lists (c : Channel) (group model : String) : Prop :=
  group∈Text.split c.group ',' ∧ model∈Text.split c.models ','

lemma listings_pos {c : Channel} {group model : String} : 0 < c.listings group model ↔ c.Lists group model := by
  unfold Channel.listings Channel.Lists
  rw [Nat.pos_iff_ne_zero,Nat.mul_ne_zero_iff,←Nat.pos_iff_ne_zero,←Nat.pos_iff_ne_zero,List.count_pos_iff,
    List.count_pos_iff]

/-- The pool of a group and a model are the enabled channels listed under them. -/
lemma mem_cachedPool {t : Tables} {group model : String} {id : ℕ} : id∈cachedPool t group model ↔
    ∃ c, t.channels.find? id = some c ∧ c.status = .enabled ∧ c.Lists group model := by
  unfold cachedPool
  simp only [List.mem_map,List.mem_insertionSort,List.mem_flatMap,List.mem_filter,List.mem_replicate,
    decide_eq_true_eq]
  constructor
  · rintro ⟨r,⟨s,⟨hs,he⟩,hn,rfl⟩,rfl⟩
    exact ⟨r.2,(t.channels.mem_rows_iff r).mp hs,he,listings_pos.mp (Nat.pos_of_ne_zero hn)⟩
  · rintro ⟨c,hf,he,hl⟩
    exact ⟨(id,c),⟨(id,c),⟨(t.channels.mem_rows_iff (id,c)).mpr hf,he⟩,(listings_pos.mpr hl).ne',rfl⟩,rfl⟩

/-- The rows of cached ids. -/
def rowsOf (cache : ChannelCache) (ids : List ℕ) : List (ℕ × Channel) :=
  ids.filterMap (fun id => (cache.channelsIDM id).map (fun c => (id,c)))

lemma mem_rowsOf {cache : ChannelCache} {ids : List ℕ} {c : ℕ × Channel} :
    c∈rowsOf cache ids ↔ c.1∈ids ∧ cache.channelsIDM c.1 = some c.2 := by
  unfold rowsOf
  rw [List.mem_filterMap]
  constructor
  · rintro ⟨id,hid,h⟩
    obtain ⟨d,hd,rfl⟩ := Option.map_eq_some_iff.mp h
    exact ⟨hid,hd⟩
  · rintro ⟨hid,h⟩
    exact ⟨c.1,hid,by rw [h]; rfl⟩

lemma loadChannels_eq {cache : ChannelCache} {ids : List ℕ} (h : ∀ id∈ids, ∃ c, cache.channelsIDM id = some c) :
    loadChannels cache ids = .ok (rowsOf cache ids) := by
  induction ids with
  | nil => rfl
  | cons id ids ih =>
    obtain ⟨c,hc⟩ := h id List.mem_cons_self
    have ht := ih (fun j hj => h j (List.mem_cons_of_mem _ hj))
    have hr : rowsOf cache (id::ids) = (id,c)::rowsOf cache ids := by
      unfold rowsOf
      rw [List.filterMap_cons_some (by rw [hc]; rfl)]
    rw [loadChannels,hc,ht,hr]
    rfl

/-- The allowed channels of the pool. -/
def allowedChannels (cache : ChannelCache) (r : Request) : List (ℕ × Channel) :=
  rowsOf cache ((requestPool cache r).filter r.allows)

def priorities (l : List (ℕ × Channel)) : List ℤ := l.map (fun c => c.2.getPriority)

/-- The allowed channels in the tier of the retry number. -/
def targetChannels (cache : ChannelCache) (r : Request) : List (ℕ × Channel) :=
  let allowed := allowedChannels cache r
  allowed.filter (fun c => Selection.tierAt (priorities allowed) r.retry = some c.2.getPriority)

/-- Every pooled id is the id of a cached row. -/
def ChannelCache.Complete (cache : ChannelCache) : Prop :=
  ∀ group model, ∀ id∈cache.group2model2channels group model, ∃ c, cache.channelsIDM id = some c

lemma complete_initChannelCache {t : Tables} {cache : ChannelCache} (h : initChannelCache t = some cache) :
    cache.Complete := by
  unfold initChannelCache at h
  split_ifs at h
  obtain rfl := Option.some.inj h
  intro group model id hid
  obtain ⟨c,hc,-⟩ := mem_cachedPool.mp hid
  exact ⟨c,hc⟩

lemma ChannelCache.Complete.requestPool {cache : ChannelCache} (h : cache.Complete) (r : Request) :
    ∀ id∈requestPool cache r, ∃ c, cache.channelsIDM id = some c := by
  intro id hid
  unfold Routing.requestPool at hid
  simp only at hid
  split_ifs at hid
  · exact h _ _ id hid
  · exact h _ _ id hid

lemma targetChannels_ne_nil {cache : ChannelCache} {r : Request} (h : allowedChannels cache r≠[]) :
    targetChannels cache r≠[] := by
  have hne : priorities (allowedChannels cache r)≠[] := by simpa [priorities] using h
  obtain ⟨p,hp⟩ := Selection.exists_tierAt hne r.retry
  obtain ⟨c,hc,rfl⟩ := List.mem_map.mp (Selection.tierAt_mem hp)
  exact List.ne_nil_of_mem (List.mem_filter.mpr ⟨hc,decide_eq_true hp⟩)

lemma targetChannels_of_nil {cache : ChannelCache} {r : Request} (h : allowedChannels cache r = []) :
    targetChannels cache r = [] := by
  unfold targetChannels
  rw [h]
  rfl

lemma tierAt_singleton (p : ℤ) (n : ℕ) : Selection.tierAt [p] n = some p := by
  obtain ⟨q,hq⟩ := Selection.exists_tierAt (List.cons_ne_nil p []) n
  rw [hq,List.mem_singleton.mp (Selection.tierAt_mem hq)]

/-- The clamped retry number is the position of the tier. -/
lemma tierAt_eq_clamped (ps : List ℤ) (n : ℕ) :
    (Selection.tiers ps)[if (Selection.tiers ps).length≤n then (Selection.tiers ps).length-1 else n]? =
      Selection.tierAt ps n := by
  unfold Selection.tierAt
  congr 1
  split_ifs <;> omega

/-- The allowed channels of the pool are all cached; a pick fails otherwise. -/
def RowsCached (cache : ChannelCache) (r : Request) : Prop :=
  ∀ id∈(requestPool cache r).filter r.allows, ∃ c, cache.channelsIDM id = some c

lemma ChannelCache.Complete.rowsCached {cache : ChannelCache} (h : cache.Complete) (r : Request) :
    RowsCached cache r := fun id hid => h.requestPool r id (List.mem_filter.mp hid).1

lemma selectable_singleton (m : Manager) (exclude : List ℕ) (d : ℕ × Channel) :
    filterSelectableChannels m exclude [d] = [d] := by
  unfold filterSelectableChannels filterSelectable
  simp only [Selection.relax]
  split_ifs with h1 h2
  · rfl
  · simpa using h2
  · simpa using h1

/-- With all rows cached and one allowed, a pick is a weighted pick among the selectable ones of the tier. -/
lemma getCachedChannel_of_rows {cache : ChannelCache} {r : Request} (hall : RowsCached cache r)
    (hne : allowedChannels cache r≠[]) (m : Manager) (roll : ℕ) : getCachedChannel cache m r roll =
      (weightedPickChannel (filterSelectableChannels m r.exclude (targetChannels cache r)) roll).map some := by
  have htarget := targetChannels_ne_nil hne
  unfold RowsCached at hall
  unfold getCachedChannel
  unfold targetChannels allowedChannels at htarget ⊢
  unfold allowedChannels at hne
  generalize (requestPool cache r).filter r.allows = ids at hall htarget hne ⊢
  match ids with
  | [] => exact absurd rfl hne
  | [id] =>
    obtain ⟨d,hd⟩ := hall id List.mem_cons_self
    have hrow : rowsOf cache [id] = [(id,d)] := by
      unfold rowsOf
      rw [List.filterMap_cons_some (by rw [hd]; rfl)]
      rfl
    have htier : Selection.tierAt (priorities [(id,d)]) r.retry = some d.getPriority :=
      tierAt_singleton d.getPriority r.retry
    rw [hrow]
    simp only [List.filter_cons,htier,decide_true,if_true,List.filter_nil,selectable_singleton,hd,orFail_some]
    rfl
  | id::id'::ids =>
    have hload := loadChannels_eq hall
    generalize rowsOf cache (id::id'::ids) = rows at hne hload htarget ⊢
    obtain ⟨p,hp⟩ := Selection.exists_tierAt
      (show priorities rows≠[] from fun h => hne (List.map_eq_nil_iff.mp h)) r.retry
    have hindex := tierAt_eq_clamped (priorities rows) r.retry
    rw [hp] at hindex
    have hsame : rows.filter (fun c => Selection.tierAt (priorities rows) r.retry = some c.2.getPriority) =
        rows.filter (fun c => c.2.getPriority = p) := by
      apply List.filter_congr
      intro c _
      rw [hp]
      exact decide_eq_decide.mpr ⟨fun h => (Option.some.inj h).symm,fun h => by rw [h]⟩
    simp only [hsame] at htarget ⊢
    unfold priorities at hindex
    simp only [hload,ok_bind,hindex,orFail_some,require_of htarget]
    generalize weightedPickChannel _ roll = picked
    cases picked <;> rfl

lemma allowedChannels_eq_nil {cache : ChannelCache} {r : Request} (hall : RowsCached cache r)
    (h : allowedChannels cache r = []) : (requestPool cache r).filter r.allows = [] := by
  unfold RowsCached at hall
  unfold allowedChannels at h
  generalize (requestPool cache r).filter r.allows = ids at hall h ⊢
  cases ids with
  | nil => rfl
  | cons id ids =>
    obtain ⟨d,hd⟩ := hall id List.mem_cons_self
    have hmem : (id,d)∈rowsOf cache (id::ids) := mem_rowsOf.mpr ⟨List.mem_cons_self,hd⟩
    rw [h] at hmem
    exact absurd hmem List.not_mem_nil

/-- What can be picked from the pool of one request. -/
theorem exists_getCachedChannel_iff_of_rows {cache : ChannelCache} {r : Request} (hall : RowsCached cache r)
    (m : Manager) (c : ℕ × Channel) : (∃ roll, getCachedChannel cache m r roll = .ok (some c)) ↔
      Pickable (filterSelectableChannels m r.exclude (targetChannels cache r)) c := by
  by_cases hne : allowedChannels cache r = []
  · have hnone : ∀ roll, getCachedChannel cache m r roll = .ok none := by
      intro roll
      unfold getCachedChannel
      rw [allowedChannels_eq_nil hall hne]
    simp only [hnone]
    rw [targetChannels_of_nil hne]
    constructor
    · rintro ⟨_,h⟩
      exact nomatch h
    · exact fun h => absurd (Selection.relax_subset _ _ h.1) List.not_mem_nil
  · rw [←exists_weightedPick_iff]
    apply exists_congr
    intro roll
    rw [getCachedChannel_of_rows hall hne m roll]
    generalize weightedPickChannel _ roll = picked
    cases picked with
    | error e => simp [Except.map]
    | ok d => simp [Except.map]

/-- What can be picked from the cache: the pickable ones among the selectable channels of the tier. -/
theorem exists_getCachedChannel_iff {cache : ChannelCache} (hc : cache.Complete) (m : Manager) (r : Request)
    (c : ℕ × Channel) : (∃ roll, getCachedChannel cache m r roll = .ok (some c)) ↔
      Pickable (filterSelectableChannels m r.exclude (targetChannels cache r)) c :=
  exists_getCachedChannel_iff_of_rows (hc.rowsCached r) m c

lemma exists_of_loadChannels {cache : ChannelCache} {ids : List ℕ} {l : List (ℕ × Channel)}
    (h : loadChannels cache ids = .ok l) : ∀ id∈ids, ∃ c, cache.channelsIDM id = some c := by
  induction ids generalizing l with
  | nil => exact fun id hid => absurd hid List.not_mem_nil
  | cons j ids ih =>
    rw [loadChannels] at h
    obtain ⟨c,hc,h⟩ := bind_eq_ok.mp h
    obtain ⟨cs,hcs,-⟩ := bind_eq_ok.mp h
    intro id hid
    rcases List.mem_cons.mp hid with rfl | hid
    · exact ⟨c,orFail_eq_ok.mp hc⟩
    · exact ih hcs id hid

lemma rowsCached_of_pick {cache : ChannelCache} {m : Manager} {r : Request} {roll : ℕ} {c : ℕ × Channel}
    (h : getCachedChannel cache m r roll = .ok (some c)) : RowsCached cache r := by
  unfold getCachedChannel at h
  unfold RowsCached
  generalize (requestPool cache r).filter r.allows = ids at h ⊢
  match ids with
  | [] => exact fun id hid => absurd hid List.not_mem_nil
  | [j] =>
    obtain ⟨d,hd,-⟩ := bind_eq_ok.mp h
    intro id hid
    rw [List.mem_singleton.mp hid]
    exact ⟨d,orFail_eq_ok.mp hd⟩
  | j::j'::ids =>
    obtain ⟨l,hl,-⟩ := bind_eq_ok.mp h
    exact exists_of_loadChannels hl

lemma exists_of_weightedPick {l : List (ℕ × Channel)} (h : l≠[]) (roll : ℕ) :
    ∃ c, weightedPickChannel l roll = .ok c := by
  match l with
  | [d] => exact ⟨d,rfl⟩
  | d::e::l =>
    obtain ⟨hsum,hpos,-⟩ := smoothing_spec (l := d::e::l) (by simp)
    rw [hsum] at hpos
    have hlt := Nat.mod_lt roll hpos
    rw [←hsum] at hlt
    obtain ⟨c,hc⟩ := Selection.exists_drawBelow_of_lt _ (Int.natCast_nonneg _) (Int.ofNat_lt.mpr hlt)
    refine ⟨c,?_⟩
    rw [hsum] at hc
    exact orFail_eq_ok.mpr hc

/-- Where something can be picked every roll picks something. -/
lemma exists_of_rowsCached {cache : ChannelCache} {r : Request} (hall : RowsCached cache r)
    (hne : allowedChannels cache r≠[]) (m : Manager) (roll : ℕ) :
    ∃ c, getCachedChannel cache m r roll = .ok (some c) := by
  obtain ⟨c,hc⟩ := exists_of_weightedPick (l := filterSelectableChannels m r.exclude (targetChannels cache r))
    (Selection.relax_ne_nil _ (targetChannels_ne_nil hne)) roll
  exact ⟨c,by rw [getCachedChannel_of_rows hall hne m roll,hc]; rfl⟩

/-! ## The database -/

/-- The enabled abilities in the tier of the retry number, those allowed of them. -/
def targetAbilities (t : Tables) (r : Request) : List Ability :=
  let rows := enabledAbilities t r
  (rows.filter (fun a => Selection.tierAt (rows.map Ability.priority) r.retry = some a.priority)).filter
    (fun a => r.allows a.channelId)

lemma max?_eq_tierAt (ps : List ℤ) : ps.max? = Selection.tierAt ps 0 := by
  cases ps with
  | nil => rfl
  | cons p ps =>
    obtain ⟨q,hq⟩ := Selection.exists_tierAt (List.cons_ne_nil p ps) 0
    rw [hq,List.max?_eq_some_iff]
    exact ⟨Selection.tierAt_mem hq,Selection.tierAt_zero hq⟩

lemma getPriority_eq {t : Tables} {r : Request} {p : ℤ} :
    getPriority t r = .ok p ↔ Selection.tierAt ((enabledAbilities t r).map Ability.priority) r.retry = some p := by
  unfold getPriority
  simp only
  rw [←tierAt_eq_clamped]
  generalize Selection.tiers ((enabledAbilities t r).map Ability.priority) = ts
  by_cases hnil : ts = []
  · subst hnil
    simp
  · have hpos : 0<ts.length := List.length_pos_iff.mpr hnil
    rw [if_neg hnil]
    by_cases hr : ts.length ≤ r.retry
    · rw [if_pos hr,if_pos hr,orFail_eq_ok,List.getLast?_eq_getElem?]
    · rw [if_neg hr,if_neg hr,orFail_eq_ok]

lemma channelQuery_eq {t : Tables} {r : Request} {rows : List Ability} (h : channelQuery t r = .ok rows) :
    rows = (enabledAbilities t r).filter (fun a =>
      Selection.tierAt ((enabledAbilities t r).map Ability.priority) r.retry = some a.priority) := by
  unfold channelQuery at h
  by_cases hr : r.retry≠0
  · rw [if_pos hr] at h
    obtain ⟨p,hp,hrows⟩ := bind_eq_ok.mp h
    rw [←Except.ok.inj hrows,getPriority_eq.mp hp]
    apply List.filter_congr
    intro a _
    exact decide_eq_decide.mpr ⟨fun h => by rw [h],fun h => (Option.some.inj h).symm⟩
  · rw [if_neg hr] at h
    rw [←Except.ok.inj h,max?_eq_tierAt,not_not.mp hr]

/-- Without a tier there is nothing to pick. -/
lemma channelQuery_error {t : Tables} {r : Request} {e : SelectError} (h : channelQuery t r = .error e) :
    targetAbilities t r = [] := by
  unfold channelQuery at h
  split_ifs at h with hr
  have hnone : Selection.tierAt ((enabledAbilities t r).map Ability.priority) r.retry = none := by
    cases ht : Selection.tierAt ((enabledAbilities t r).map Ability.priority) r.retry with
    | none => rfl
    | some p =>
      rw [getPriority_eq.mpr ht] at h
      contradiction
  simp [targetAbilities,hnone]

lemma mem_map_selectable (m : Manager) (exclude : List ℕ) {l l' : List Ability}
    (h : ∀ a, a∈l ↔ a∈l') (a : Ability) :
    a∈filterSelectableAbilities m exclude l ↔ a∈filterSelectableAbilities m exclude l' :=
  Selection.mem_relax_congr _ h a

/-- The channel of the ability that a number draws. -/
def drawAbility (t : Tables) (abilities : List Ability) (roll : ℕ) : Except SelectError (Option (ℕ × Channel)) :=
  match abilities with
  | [] => .ok none
  | abilities => do
    let weightSum := (abilities.map (fun a => a.weight+10)).sum
    let id := ((Selection.drawUpTo (fun a => a.weight+10) abilities (roll%weightSum : ℕ)).map
      Ability.channelId).getD 0
    let c ← orFail .recordNotFound (t.channels.find? id)
    return some (id,c)

/-- A number draws one of the abilities, whose channel may be missing. -/
lemma drawAbility_spec (t : Tables) {l : List Ability} (hne : l≠[]) (roll : ℕ) : ∃ a∈l,
    drawAbility t l roll = (orFail .recordNotFound (t.channels.find? a.channelId)).map
      (fun c => some (a.channelId,c)) := by
  obtain ⟨b,l,rfl⟩ := List.exists_cons_of_ne_nil hne
  have hpos : 0<((b::l).map (fun a : Ability => a.weight+10)).sum := by
    rw [List.map_cons,List.sum_cons]
    omega
  have hlt := Nat.mod_lt roll hpos
  obtain ⟨a,ha⟩ := Selection.exists_drawUpTo_of_le (fun a : Ability => a.weight+10) (List.cons_ne_nil b l)
    (Int.ofNat_le.mpr hlt.le)
  refine ⟨a,Selection.drawUpTo_mem _ ha,?_⟩
  unfold drawAbility
  simp only [ha,Option.map_some,Option.getD_some]
  cases t.channels.find? a.channelId <;> rfl

lemma exists_drawAbility (t : Tables) {l : List Ability} {a : Ability} (ha : a∈l) : ∃ roll,
    drawAbility t l roll = (orFail .recordNotFound (t.channels.find? a.channelId)).map
      (fun c => some (a.channelId,c)) := by
  obtain ⟨b,l,rfl⟩ := List.exists_cons_of_ne_nil (List.ne_nil_of_mem ha)
  obtain ⟨roll,_,hlt,hdraw⟩ :=
    Selection.exists_drawUpTo (fun a : Ability => a.weight+10) (fun a _ => by omega) ha
  refine ⟨roll,?_⟩
  unfold drawAbility
  simp only [Nat.mod_eq_of_lt hlt,hdraw,Option.map_some,Option.getD_some]
  cases t.channels.find? a.channelId <;> rfl

/-- A pick from the database draws among the selectable abilities of the tier. -/
lemma getChannelConstrained_draws (t : Tables) (m : Manager) (r : Request) : ∃ l,
    (∀ a, a∈l ↔ a∈filterSelectableAbilities m r.exclude (targetAbilities t r)) ∧
      ∀ roll c, getChannelConstrained t m r roll = .ok (some c) ↔ drawAbility t l roll = .ok (some c) := by
  cases hq : channelQuery t r with
  | error e =>
    have hnil := channelQuery_error hq
    refine ⟨[],fun a => ?_,fun roll c => ?_⟩
    · rw [hnil]
      exact iff_of_false List.not_mem_nil (fun ha => absurd (Selection.relax_subset _ _ ha) List.not_mem_nil)
    · have hleft : getChannelConstrained t m r roll = .error e := by
        unfold getChannelConstrained
        rw [hq]
        rfl
      rw [hleft]
      constructor <;> exact fun h => nomatch h
  | ok rows =>
    refine ⟨filterSelectableAbilities m r.exclude
      ((rows.insertionSort (fun a b => b.weight≤a.weight)).filter (fun a => r.allows a.channelId)),?_,?_⟩
    · apply mem_map_selectable
      intro a
      unfold targetAbilities
      rw [List.mem_filter,List.mem_filter,List.mem_insertionSort,channelQuery_eq hq]
    · intro roll c
      unfold getChannelConstrained
      simp only [hq,ok_bind]
      cases filterSelectableAbilities m r.exclude
        ((rows.insertionSort (fun a b => b.weight≤a.weight)).filter (fun a => r.allows a.channelId)) <;> exact Iff.rfl

/-- What can be picked from the database: every selectable ability of the tier whose channel exists. -/
theorem exists_getChannelConstrained_iff (t : Tables) (m : Manager) (r : Request) (id : ℕ) (c : Channel) :
    (∃ roll, getChannelConstrained t m r roll = .ok (some (id,c))) ↔
      t.channels.find? id = some c ∧
        ∃ a∈filterSelectableAbilities m r.exclude (targetAbilities t r), a.channelId = id := by
  obtain ⟨l,hmem,hdraw⟩ := getChannelConstrained_draws t m r
  simp only [hdraw,←hmem]
  constructor
  · rintro ⟨roll,h⟩
    have hne : l≠[] := by
      rintro rfl
      exact nomatch h
    obtain ⟨a,ha,hspec⟩ := drawAbility_spec t hne roll
    rw [h] at hspec
    cases hf : t.channels.find? a.channelId with
    | none =>
      rw [hf] at hspec
      contradiction
    | some d =>
      rw [hf] at hspec
      obtain ⟨rfl,rfl⟩ := Prod.mk.inj (Option.some.inj (Except.ok.inj hspec))
      exact ⟨hf,a,ha,rfl⟩
  · rintro ⟨hf,a,ha,rfl⟩
    obtain ⟨roll,hroll⟩ := exists_drawAbility t ha
    refine ⟨roll,?_⟩
    rw [hroll,hf]
    rfl

/-- A pick from the database comes to nothing where nothing is selectable, or on an ability whose channel is
missing. -/
theorem exists_getChannelConstrained_miss_iff (t : Tables) (m : Manager) (r : Request) :
    (∃ roll, ∀ c, getChannelConstrained t m r roll≠.ok (some c)) ↔
      targetAbilities t r = [] ∨
        ∃ a∈filterSelectableAbilities m r.exclude (targetAbilities t r), t.channels.find? a.channelId = none := by
  obtain ⟨l,hmem,hdraw⟩ := getChannelConstrained_draws t m r
  have hnil : targetAbilities t r = [] ↔ l = [] := by
    rw [List.eq_nil_iff_forall_not_mem (l := l)]
    simp only [hmem]
    constructor
    · intro h a ha
      rw [h] at ha
      exact absurd (Selection.relax_subset _ _ ha) List.not_mem_nil
    · intro h
      by_contra hne
      exact Selection.relax_ne_nil _ hne (List.eq_nil_iff_forall_not_mem.mpr h)
  simp only [ne_eq,hdraw,hnil,←hmem]
  constructor
  · rintro ⟨roll,hmiss⟩
    by_cases hl : l = []
    · exact .inl hl
    · obtain ⟨a,ha,hspec⟩ := drawAbility_spec t hl roll
      refine .inr ⟨a,ha,?_⟩
      cases hf : t.channels.find? a.channelId with
      | none => rfl
      | some d =>
        rw [hf] at hspec
        exact absurd hspec (hmiss (a.channelId,d))
  · rintro (rfl | ⟨a,ha,hf⟩)
    · exact ⟨0,fun c h => nomatch h⟩
    · obtain ⟨roll,hroll⟩ := exists_drawAbility t ha
      refine ⟨roll,fun c h => ?_⟩
      rw [hroll,hf] at h
      contradiction

end Routing
end Tierflow
