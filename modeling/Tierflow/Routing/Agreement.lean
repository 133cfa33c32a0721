import Tierflow.Routing.Abilities

/-! When the cache and the database pick from the same channels. The cache confines the pool to the
allowed channels before it looks for the tier, normalizes model names without a pool, and leaves out
channels of weight zero beside weighted ones; the database does none of this. -/
namespace Tierflow
namespace Routing
open RouteHealth (Manager)

/-- The retry number leads to the same tier before and after the pool is confined. -/
def SameTier (cache : ChannelCache) (r : Request) : Prop :=
  Selection.tierAt (priorities (allowedChannels cache r)) r.retry =
    Selection.tierAt (priorities (rowsOf cache (requestPool cache r))) r.retry

/-- No candidate of weight zero stands beside one with a weight. -/
def UniformWeights (l : List (ℕ × Channel)) : Prop :=
  (∀ c∈l, c.2.getWeight = 0) ∨ ∀ c∈l, 0 < c.2.getWeight

def PathsAlign (cache : ChannelCache) (m : Manager) (r : Request) : Prop :=
  if cache.group2model2channels r.group r.model = [] then allowedChannels cache r = []
  else allowedChannels cache r≠[] →
    SameTier cache r ∧ UniformWeights (filterSelectableChannels m r.exclude (targetChannels cache r))

instance (cache : ChannelCache) (r : Request) : Decidable (SameTier cache r) := by
  unfold SameTier
  infer_instance

instance (l : List (ℕ × Channel)) : Decidable (UniformWeights l) := by
  unfold UniformWeights
  infer_instance

instance (cache : ChannelCache) (m : Manager) (r : Request) : Decidable (PathsAlign cache m r) := by
  unfold PathsAlign
  infer_instance

/-- All candidates can be picked exactly when their weights are uniform. -/
lemma uniformWeights_iff {l : List (ℕ × Channel)} : UniformWeights l ↔ ∀ c∈l, Pickable l c := by
  constructor
  · rintro (hz | hp) c hc
    · exact ⟨hc,.inr hz⟩
    · exact ⟨hc,.inl (hp c hc)⟩
  · intro h
    by_cases hz : ∀ d∈l, d.2.getWeight = 0
    · exact .inl hz
    · exact .inr (fun c hc => (h c hc).2.resolve_right hz)

section InStep
variable {t : Tables} {cache : ChannelCache} {m : Manager} {r : Request}

lemma initChannelCache_eq (h : initChannelCache t = some cache) : cache = ⟨cachedPool t,t.channels.find?⟩ := by
  unfold initChannelCache at h
  split_ifs at h
  exact (Option.some.inj h).symm

/-- The enabled abilities of a request are the rows of its pool. -/
lemma mem_enabledAbilities (hinit : initChannelCache t = some cache) (ht : InStep t) (a : Ability) :
    a∈enabledAbilities t r ↔ ∃ c, (a.channelId,c)∈rowsOf cache (cache.group2model2channels r.group r.model) ∧
      a = ⟨r.group,r.model,a.channelId,true,c.getPriority,c.getWeight⟩ := by
  obtain rfl := initChannelCache_eq hinit
  unfold enabledAbilities
  rw [List.mem_filter,decide_eq_true_eq]
  constructor
  · rintro ⟨ha,hg,hm,he⟩
    obtain ⟨c,hf,hs,hl,hp,hw⟩ := (ht.enabled a he).mp ha
    refine ⟨c,mem_rowsOf.mpr ⟨mem_cachedPool.mpr ⟨c,hf,hs,?_⟩,hf⟩,?_⟩
    · rwa [←hg,←hm]
    · rw [←hg,←hm,hp,hw,←he]
  · rintro ⟨c,hc,ha⟩
    obtain ⟨hpool,hf⟩ := mem_rowsOf.mp hc
    obtain ⟨d,hd,hs,hl⟩ := mem_cachedPool.mp hpool
    obtain rfl := Option.some.inj (hf.symm.trans hd)
    have he : a.enabled = true := by rw [ha]
    refine ⟨(ht.enabled a he).mpr ⟨c,hf,hs,?_,?_,?_⟩,?_,?_,he⟩ <;> rw [ha]
    exact hl

/-- The tiers of the abilities are the tiers of the whole pool. -/
lemma tierAt_abilities (hinit : initChannelCache t = some cache) (ht : InStep t) (n : ℕ) :
    Selection.tierAt ((enabledAbilities t r).map Ability.priority) n =
      Selection.tierAt (priorities (rowsOf cache (cache.group2model2channels r.group r.model))) n := by
  apply Selection.tierAt_congr
  intro p
  unfold priorities
  rw [List.mem_map,List.mem_map]
  constructor
  · rintro ⟨a,ha,rfl⟩
    obtain ⟨c,hc,he⟩ := (mem_enabledAbilities hinit ht a).mp ha
    exact ⟨(a.channelId,c),hc,by rw [he]⟩
  · rintro ⟨c,hc,rfl⟩
    exact ⟨⟨r.group,r.model,c.1,true,c.2.getPriority,c.2.getWeight⟩,
      (mem_enabledAbilities hinit ht _).mpr ⟨c.2,hc,rfl⟩,rfl⟩

/-- The target abilities are the allowed channels in the tier of the whole pool. -/
lemma mem_targetAbilities_ids (hinit : initChannelCache t = some cache) (ht : InStep t) (id : ℕ) :
    id∈(targetAbilities t r).map Ability.channelId ↔
      ∃ c, (id,c)∈rowsOf cache (cache.group2model2channels r.group r.model) ∧ r.allows id = true ∧
        Selection.tierAt (priorities (rowsOf cache (cache.group2model2channels r.group r.model))) r.retry =
          some c.getPriority := by
  unfold targetAbilities
  simp only [List.mem_map,List.mem_filter,decide_eq_true_eq,tierAt_abilities hinit ht]
  constructor
  · rintro ⟨a,⟨⟨ha,htier⟩,hallow⟩,rfl⟩
    obtain ⟨c,hc,he⟩ := (mem_enabledAbilities hinit ht a).mp ha
    refine ⟨c,hc,hallow,?_⟩
    rw [htier,he]
  · rintro ⟨c,hc,hallow,htier⟩
    exact ⟨⟨r.group,r.model,id,true,c.getPriority,c.getWeight⟩,
      ⟨⟨(mem_enabledAbilities hinit ht _).mpr ⟨c,hc,rfl⟩,htier⟩,hallow⟩,rfl⟩

lemma mem_allowedChannels {c : ℕ × Channel} :
    c∈allowedChannels cache r ↔ c∈rowsOf cache (requestPool cache r) ∧ r.allows c.1 = true := by
  unfold allowedChannels
  rw [mem_rowsOf,mem_rowsOf,List.mem_filter]
  exact ⟨fun h => ⟨⟨h.1.1,h.2⟩,h.1.2⟩,fun h => ⟨⟨h.1.1,h.2⟩,h.1.2⟩⟩

lemma mem_targetChannels {c : ℕ × Channel} : c∈targetChannels cache r ↔ c∈allowedChannels cache r ∧
    Selection.tierAt (priorities (allowedChannels cache r)) r.retry = some c.2.getPriority := by
  unfold targetChannels
  simp only [List.mem_filter,decide_eq_true_eq]

lemma mem_selectable_ids {id : ℕ} {l : List Ability} (exclude : List ℕ) :
    (∃ a∈filterSelectableAbilities m exclude l, a.channelId = id) ↔
      id∈Selection.relax [fun id => id∉exclude ∧ m.isAvailable id (-1),fun id => id∉exclude]
        (l.map Ability.channelId) := by
  rw [←Selection.relax_map Ability.channelId,List.mem_map]
  rfl

lemma mem_selectable_rows {cache : ChannelCache} {l : List (ℕ × Channel)} (exclude : List ℕ)
    (hl : ∀ c∈l, cache.channelsIDM c.1 = some c.2) (c : ℕ × Channel) :
    c∈filterSelectableChannels m exclude l ↔ cache.channelsIDM c.1 = some c.2 ∧
      c.1∈Selection.relax [fun id => id∉exclude ∧ m.isAvailable id (-1),fun id => id∉exclude]
        (l.map Prod.fst) := by
  rw [←Selection.relax_map Prod.fst,List.mem_map]
  constructor
  · intro h
    exact ⟨hl c (Selection.relax_subset _ _ h),c,h,rfl⟩
  · rintro ⟨hc,d,hd,hid⟩
    have hdc := hl d (Selection.relax_subset _ _ hd)
    rw [hid,hc] at hdc
    have hcd : c = d := Prod.ext hid.symm (Option.some.inj hdc)
    rw [hcd]
    exact hd

lemma targetRows (c : ℕ × Channel) (h : c∈targetChannels cache r) : cache.channelsIDM c.1 = some c.2 :=
  (mem_rowsOf.mp (mem_allowedChannels.mp (mem_targetChannels.mp h).1).1).2

/-- Something can be picked from the cache whenever some channel of the pool is allowed. -/
lemma exists_cached_pick (h : allowedChannels cache r≠[]) :
    ∃ c, Pickable (filterSelectableChannels m r.exclude (targetChannels cache r)) c :=
  exists_pickable (Selection.relax_ne_nil _ (targetChannels_ne_nil h))

lemma not_pickable_of_not_allowed (h : allowedChannels cache r = []) (c : ℕ × Channel) :
    ¬Pickable (filterSelectableChannels m r.exclude (targetChannels cache r)) c := by
  intro hp
  have hmem := (mem_targetChannels.mp (Selection.relax_subset _ _ hp.1)).1
  rw [h] at hmem
  exact absurd hmem List.not_mem_nil

/-- In the same tier the database picks from all candidates of the cache. -/
lemma database_candidates (hinit : initChannelCache t = some cache) (ht : InStep t)
    (hpool : requestPool cache r = cache.group2model2channels r.group r.model) (hsame : SameTier cache r)
    (id : ℕ) (c : Channel) : (t.channels.find? id = some c ∧
      ∃ a∈filterSelectableAbilities m r.exclude (targetAbilities t r), a.channelId = id) ↔
        (id,c)∈filterSelectableChannels m r.exclude (targetChannels cache r) := by
  rw [mem_selectable_ids,mem_selectable_rows r.exclude targetRows]
  have hids : ∀ j, j∈(targetAbilities t r).map Ability.channelId ↔ j∈(targetChannels cache r).map Prod.fst := by
    intro j
    rw [mem_targetAbilities_ids hinit ht,List.mem_map,←hpool,←hsame]
    constructor
    · rintro ⟨d,hd,hallow,htier⟩
      exact ⟨(j,d),mem_targetChannels.mpr ⟨mem_allowedChannels.mpr ⟨hd,hallow⟩,htier⟩,rfl⟩
    · rintro ⟨d,hd,rfl⟩
      obtain ⟨hallowed,htier⟩ := mem_targetChannels.mp hd
      obtain ⟨hrow,hallow⟩ := mem_allowedChannels.mp hallowed
      exact ⟨d.2,hrow,hallow,htier⟩
  rw [Selection.mem_relax_congr _ hids,initChannelCache_eq hinit]

/-- What the database picks is in the tier of the whole pool. -/
lemma database_tier (hinit : initChannelCache t = some cache) (ht : InStep t) {id : ℕ} {c : Channel}
    (hf : t.channels.find? id = some c)
    (h : ∃ a∈filterSelectableAbilities m r.exclude (targetAbilities t r), a.channelId = id) :
    (id,c)∈rowsOf cache (cache.group2model2channels r.group r.model) ∧ r.allows id = true ∧
      Selection.tierAt (priorities (rowsOf cache (cache.group2model2channels r.group r.model))) r.retry =
        some c.getPriority := by
  obtain ⟨a,ha,rfl⟩ := h
  have hmem := List.mem_map_of_mem (f := Ability.channelId) (Selection.relax_subset _ _ ha)
  obtain ⟨d,hd,hallow,htier⟩ := (mem_targetAbilities_ids hinit ht _).mp hmem
  have hrow := (mem_rowsOf.mp hd).2
  rw [initChannelCache_eq hinit] at hrow
  obtain rfl := Option.some.inj (hrow.symm.trans hf)
  exact ⟨hd,hallow,htier⟩

end InStep

/-! ## Two channels in two tiers -/

/-- A channel that offers one model in one group. -/
def plainChannel (priority : ℤ) (weight : ℕ) : Channel where
  status := .enabled
  weight := some weight
  models := "model"
  group := "default"
  priority := some priority
  keys := ["key"]
  channelInfo := ⟨false,[],0,.random⟩

def withChannel (t : Tables) (c : Channel) : Tables :=
  addAbilities { t with channels := t.channels.insert c } t.channels.next c

/-- Channel 1 in the first tier, channel 2 in the second. -/
def twoTiers : Tables := withChannel (withChannel ⟨.empty,[]⟩ (plainChannel 10 1)) (plainChannel 5 1)

def twoTiersCache : ChannelCache := ⟨cachedPool twoTiers,twoTiers.channels.find?⟩

def quietBreaker : Manager := ⟨∅,RouteHealth.defaultConfig,0⟩

lemma inStep_twoTiers : InStep twoTiers := by
  have hempty : InStep ⟨.empty,[]⟩ := by
    constructor
    · exact fun a ha => absurd ha List.not_mem_nil
    · intro a _
      constructor
      · exact fun ha => absurd ha List.not_mem_nil
      · rintro ⟨c,hc,-⟩
        exact nomatch hc
  exact (hempty.insert (by decide)).insert (by decide)

lemma initChannelCache_twoTiers : initChannelCache twoTiers = some twoTiersCache :=
  if_pos (by decide)

end Routing
end Tierflow
