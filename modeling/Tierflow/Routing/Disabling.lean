import Tierflow.Routing.CacheInit

/-! What becomes of a disabled channel in the memory cache. A disabling update strikes its id once from every pool; a
row that repeats a group or a model put it there more than once. -/
namespace Tierflow
namespace Routing
open RouteHealth (Manager)
open TxSystem

/-! ## Updates of the cache -/

namespace ChannelCache

/-- The first entry of a channel that is not enabled goes out of each pool. -/
def cacheUpdateChannelStatus (cache : ChannelCache) (id : ℕ) (status : ChannelStatus) : ChannelCache where
  group2model2channels := fun group model =>
    if status≠.enabled then (cache.group2model2channels group model).erase id
    else cache.group2model2channels group model
  channelsIDM := Function.update cache.channelsIDM id
    ((cache.channelsIDM id).map (fun c => { c with status := status }))

def cacheUpdateChannel (cache : ChannelCache) (id : ℕ) (c : Channel) : ChannelCache :=
  { cache with channelsIDM := Function.update cache.channelsIDM id (some c) }

end ChannelCache

/-- What changes the cache between two builds. -/
inductive CacheUpdate
  | updateStatus (id : ℕ) (status : ChannelStatus)
  | updateChannel (id : ℕ) (c : Channel)

def CacheUpdate.apply (cache : ChannelCache) : CacheUpdate → ChannelCache
  | .updateStatus id status => cache.cacheUpdateChannelStatus id status
  | .updateChannel id c => cache.cacheUpdateChannel id c

def CacheUpdate.Disables (id : ℕ) : CacheUpdate → Prop
  | .updateStatus j status => j = id ∧ status≠.enabled
  | .updateChannel _ _ => False

instance (id : ℕ) (u : CacheUpdate) : Decidable (u.Disables id) := by
  cases u with
  | updateStatus j status => exact inferInstanceAs (Decidable (j = id ∧ status≠.enabled))
  | updateChannel j c => exact inferInstanceAs (Decidable False)

def disablings (id : ℕ) (us : List CacheUpdate) : ℕ := us.countP (fun u => u.Disables id)

def cacheSystem : TxSystem ChannelCache CacheUpdate Unit where
  step cache u := some (u.apply cache,[])

namespace ChannelCache
variable {cache : ChannelCache} {m : Manager} {r : Request} {roll id : ℕ} {c : Channel}

/-- Whatever is asked for, the channel is not what is picked. -/
def Unreachable (cache : ChannelCache) (id : ℕ) : Prop :=
  ∀ (m : Manager) (r : Request) (roll : ℕ) (c : Channel), getCachedChannel cache m r roll≠.ok (some (id,c))

lemma mem_pool_of_pick (h : getCachedChannel cache m r roll = .ok (some (id,c))) :
    ∃ model, id∈cache.group2model2channels r.group model := by
  have hpick := (exists_getCachedChannel_iff_of_rows (rowsCached_of_pick h) m (id,c)).mp ⟨roll,h⟩
  have htarget : (id,c)∈targetChannels cache r := Selection.relax_subset _ _ hpick.1
  have hallowed := mem_rowsOf.mp (List.mem_filter.mp htarget).1
  have hpool := (List.mem_filter.mp hallowed.1).1
  unfold requestPool at hpool
  dsimp only at hpool
  split_ifs at hpool
  · exact ⟨_,hpool⟩
  · exact ⟨_,hpool⟩

/-- A request that is confined to a pooled channel gets it. -/
lemma exists_pick_of_mem (hcomplete : cache.Complete) {group model : String}
    (h : id∈cache.group2model2channels group model) (m : Manager) :
    ∃ r roll c, getCachedChannel cache m r roll = .ok (some (id,c)) := by
  obtain ⟨c,hc⟩ := hcomplete group model id h
  let r : Request := ⟨group,model,0,[],some [id]⟩
  have hpool : requestPool cache r = cache.group2model2channels group model := by
    unfold requestPool
    exact if_neg (List.ne_nil_of_mem h)
  have hmem : (id,c)∈allowedChannels cache r := by
    apply mem_rowsOf.mpr
    refine ⟨List.mem_filter.mpr ⟨by rw [hpool]; exact h,?_⟩,hc⟩
    exact decide_eq_true List.mem_cons_self
  obtain ⟨d,hd⟩ := exists_of_rowsCached (hcomplete.rowsCached r) (List.ne_nil_of_mem hmem) m 0
  refine ⟨r,0,d.2,?_⟩
  have hpick := (exists_getCachedChannel_iff hcomplete m r d).mp ⟨0,hd⟩
  have htarget : d∈targetChannels cache r := Selection.relax_subset _ _ hpick.1
  have hallow := (List.mem_filter.mp (mem_rowsOf.mp (List.mem_filter.mp htarget).1).1).2
  have hid : d.1 = id := List.mem_singleton.mp (of_decide_eq_true hallow)
  rw [hd,←hid]

lemma unreachable_iff (hcomplete : cache.Complete) :
    cache.Unreachable id ↔ ∀ group model, id∉cache.group2model2channels group model := by
  constructor
  · intro h group model hmem
    obtain ⟨r,roll,c,hpick⟩ := exists_pick_of_mem hcomplete hmem ⟨∅,RouteHealth.defaultConfig,0⟩
    exact h _ r roll c hpick
  · intro h m r roll c hpick
    obtain ⟨model,hmem⟩ := mem_pool_of_pick hpick
    exact h r.group model hmem

/-! ## Entries that are left -/

/-- An update strikes an entry of the channel exactly when it disables it. -/
lemma count_apply (u : CacheUpdate) (group model : String) :
    ((u.apply cache).group2model2channels group model).count id =
      (cache.group2model2channels group model).count id - if u.Disables id then 1 else 0 := by
  cases u with
  | updateChannel j c => rfl
  | updateStatus j status =>
    change (if status≠.enabled then (cache.group2model2channels group model).erase j
      else cache.group2model2channels group model).count id = _
    by_cases hs : status = .enabled
    · rw [if_neg (not_not.mpr hs),if_neg (fun h => h.2 hs)]
      rfl
    · rw [if_pos hs,List.count_erase]
      by_cases hj : j = id
      · rw [if_pos (show CacheUpdate.Disables id (.updateStatus j status) from ⟨hj,hs⟩),if_pos (beq_iff_eq.mpr hj)]
      · rw [if_neg (show ¬CacheUpdate.Disables id (.updateStatus j status) from fun h => hj h.1),
          if_neg (by simpa using hj)]

/-- No update loses the row of a channel. -/
lemma isSome_apply (u : CacheUpdate) {j : ℕ} (h : (cache.channelsIDM j).isSome) :
    ((u.apply cache).channelsIDM j).isSome := by
  cases u with
  | updateStatus id status =>
    change (Function.update cache.channelsIDM id _ j).isSome
    by_cases hj : j = id
    · subst hj
      rwa [Function.update_self,Option.isSome_map]
    · rwa [Function.update_of_ne hj]
  | updateChannel id c =>
    change (Function.update cache.channelsIDM id _ j).isSome
    by_cases hj : j = id
    · subst hj
      rw [Function.update_self]
      rfl
    · rwa [Function.update_of_ne hj]

lemma Complete.apply (h : cache.Complete) (u : CacheUpdate) : (u.apply cache).Complete := by
  intro group model j hj
  apply Option.isSome_iff_exists.mp
  apply isSome_apply u
  apply Option.isSome_iff_exists.mpr
  apply h group model j
  rw [←List.count_pos_iff] at hj ⊢
  rw [count_apply] at hj
  omega

lemma count_run (us : List CacheUpdate) (group model : String) :
    ∀ cache : ChannelCache, ((cacheSystem.run ⟨cache,[]⟩ us).state.group2model2channels group model).count id =
      (cache.group2model2channels group model).count id-disablings id us := by
  induction us with
  | nil => exact fun _ => rfl
  | cons u us ih =>
    intro cache
    change ((cacheSystem.run ⟨u.apply cache,[]⟩ us).state.group2model2channels group model).count id = _
    rw [ih,count_apply,disablings,disablings,List.countP_cons]
    simp only [decide_eq_true_eq]
    omega

lemma Complete.run (us : List CacheUpdate) :
    ∀ {cache : ChannelCache}, cache.Complete → (cacheSystem.run ⟨cache,[]⟩ us).state.Complete := by
  induction us with
  | nil => exact fun h => h
  | cons u us ih => exact fun h => ih (h.apply u)

/-- Once it is in no pool, no update brings a channel back. -/
lemma always_unreachable (hcomplete : cache.Complete) (h : cache.Unreachable id) (us : List CacheUpdate) :
    cacheSystem.Always (fun d => d.state.Unreachable id) ⟨cache,[]⟩ us := by
  induction us generalizing cache with
  | nil => exact h
  | cons u us ih =>
    refine ⟨h,ih (hcomplete.apply u) ?_⟩
    rw [unreachable_iff (hcomplete.apply u)]
    rw [unreachable_iff hcomplete] at h
    intro group model
    rw [←List.count_eq_zero,count_apply,List.count_eq_zero.mpr (h group model),Nat.zero_sub]

end ChannelCache

/-! ## Built caches -/

namespace CacheInit
variable {sorter : Sorter} {old : ℕ → Option Channel} {t : Tables} {cache : ChannelCache} {id : ℕ}

lemma count_flatMap_replicate {rows : List (ℕ × Channel)} (h : rows.Pairwise (fun r s => r.1 < s.1))
    (n : ℕ × Channel → ℕ) (id : ℕ) : (rows.flatMap (fun r => List.replicate (n r) r.1)).count id =
      ((rows.find? (fun r => r.1 == id)).map n).getD 0 := by
  induction rows with
  | nil => rfl
  | cons r rows ih =>
    have hrest := ih h.of_cons
    rw [List.flatMap_cons,List.count_append,List.count_replicate,hrest,List.find?_cons]
    by_cases hid : r.1 = id
    · have hnone : rows.find? (fun s => s.1 == id) = none := by
        rw [List.find?_eq_none]
        intro s hs
        have hlt := List.rel_of_pairwise_cons h hs
        simp only [beq_iff_eq]
        omega
      simp [hid,hnone]
    · have hne : (r.1 == id) = false := beq_false_of_ne hid
      simp [hne]

/-- How often a channel is in a pool that was built. -/
lemma count_listed (t : Tables) (group model : String) (id : ℕ) : (listed t group model).count id =
    ((t.channels.find? id).map (fun c => if c.status = .enabled then c.listings group model else 0)).getD 0 := by
  have hlisted : listed t group model = t.channels.rows.flatMap (fun r =>
      List.replicate (if r.2.status = .enabled then r.2.listings group model else 0) r.1) := by
    unfold listed
    congr 1
    funext r
    split_ifs <;> rfl
  rw [hlisted,count_flatMap_replicate t.channels.ascending,Table.find?,Option.map_map]
  rfl

lemma count_built (h : initChannelCache sorter old t = some cache) (group model : String) (id : ℕ) :
    (cache.group2model2channels group model).count id =
      ((t.channels.find? id).map (fun c => if c.status = .enabled then c.listings group model else 0)).getD 0 := by
  obtain ⟨-,rfl⟩ := initChannelCache_eq_some_iff.mp h
  rw [←count_listed]
  exact (sorter.perm _ _).count_eq id

lemma complete_built (h : initChannelCache sorter old t = some cache) : cache.Complete := by
  obtain ⟨-,rfl⟩ := initChannelCache_eq_some_iff.mp h
  intro group model j hj
  obtain ⟨c,hc,-⟩ := ((complete_builtCache sorter old t).listed group model j).mp hj
  refine ⟨keepPollingIndex (old j) c,?_⟩
  change (t.channels.find? j).map (keepPollingIndex (old j)) = _
  rw [hc]
  rfl

/-- A channel is disabled in the cache for good exactly when its row, if it was enabled, does not list it more often
under any group and model than it has been disabled since. -/
theorem disabled_unreachable_iff (sorter : Sorter) (old : ℕ → Option Channel) (t : Tables) (cache : ChannelCache)
    (h : initChannelCache sorter old t = some cache) (us vs : List CacheUpdate) (id : ℕ) (status : ChannelStatus)
    (hs : status≠.enabled) :
    cacheSystem.Always (fun d => d.state.Unreachable id)
      ⟨(cacheSystem.run ⟨cache,[]⟩ us).state.cacheUpdateChannelStatus id status,[]⟩ vs ↔
    ∀ c, t.channels.find? id = some c → c.status = .enabled →
      ∀ group model, c.listings group model≤disablings id us+1 := by
  have hcomplete := ((complete_built h).run us).apply (.updateStatus id status)
  have hstart : ((cacheSystem.run ⟨cache,[]⟩ us).state.cacheUpdateChannelStatus id status).Unreachable id ↔
      ∀ c, t.channels.find? id = some c → c.status = .enabled →
        ∀ group model, c.listings group model≤disablings id us+1 := by
    have hleft : ∀ group model, id∉(CacheUpdate.apply (cacheSystem.run ⟨cache,[]⟩ us).state
        (.updateStatus id status)).group2model2channels group model ↔
          ((t.channels.find? id).map (fun c => if c.status = .enabled then c.listings group model else 0)).getD 0≤
            disablings id us+1 := by
      intro group model
      rw [←List.count_eq_zero,ChannelCache.count_apply,ChannelCache.count_run,count_built h,
        if_pos (show CacheUpdate.Disables id (.updateStatus id status) from ⟨rfl,hs⟩)]
      omega
    refine (ChannelCache.unreachable_iff hcomplete).trans ?_
    simp only [hleft]
    cases hf : t.channels.find? id with
    | none => simp
    | some c =>
      by_cases he : c.status = .enabled
      · simp [he]
      · simp [he]
  constructor
  · exact fun hall => hstart.mp hall.head
  · exact fun hrow => ChannelCache.always_unreachable hcomplete (hstart.mpr hrow) vs

/-- One enabled channel of one model. -/
def oneChannel (group : String) : Tables where
  channels := Table.empty.insert ⟨.enabled,none,"m",group,none,["k"],⟨false,[],0,.random⟩⟩
  abilities := [⟨"default","m",1,true,0,0⟩]

theorem disabled_unreachable_oneChannel :
    ∃ cache, initChannelCache .stable (fun _ => none) (oneChannel "default") = some cache ∧
      cacheSystem.Always (fun d => d.state.Unreachable 1) ⟨cache.cacheUpdateChannelStatus 1 .autoDisabled,[]⟩
        [.updateStatus 1 .manuallyDisabled] := by
  have hsome : (initChannelCache .stable (fun _ => none) (oneChannel "default")).isSome := by decide
  obtain ⟨cache,hinit⟩ := Option.isSome_iff_exists.mp hsome
  refine ⟨cache,hinit,(disabled_unreachable_iff .stable _ _ cache hinit [] _ 1 .autoDisabled (by decide)).mpr ?_⟩
  intro c hf _ group model
  have hrow : (oneChannel "default").channels.find? 1 =
      some ⟨.enabled,none,"m","default",none,["k"],⟨false,[],0,.random⟩⟩ := by decide
  obtain rfl := Option.some.inj (hrow.symm.trans hf)
  have hgroup : (Text.split "default" ',').length = 1 := by decide
  have hmodel : (Text.split "m" ',').length = 1 := by decide
  exact Nat.mul_le_mul (List.count_le_length.trans hgroup.le) (List.count_le_length.trans hmodel.le)

/-- A group that is named twice leaves an entry of the disabled channel behind. -/
theorem repeatedGroup_stays :
    ∃ cache, initChannelCache .stable (fun _ => none) (oneChannel "default,default") = some cache ∧
      ¬cacheSystem.Always (fun d => d.state.Unreachable 1) ⟨cache.cacheUpdateChannelStatus 1 .autoDisabled,[]⟩ [] := by
  have hpick : (initChannelCache .stable (fun _ => none) (oneChannel "default,default")).map
      (fun cache => getCachedChannel (cache.cacheUpdateChannelStatus 1 .autoDisabled)
        ⟨∅,RouteHealth.defaultConfig,0⟩ ⟨"default","m",0,[],none⟩ 0) =
      some (.ok (some (1,⟨.autoDisabled,none,"m","default,default",none,["k"],⟨false,[],0,.random⟩⟩))) := by
    decide
  obtain ⟨cache,hinit,hcache⟩ := Option.map_eq_some_iff.mp hpick
  exact ⟨cache,hinit,fun h => h _ _ _ _ hcache⟩

end CacheInit
end Routing
end Tierflow
