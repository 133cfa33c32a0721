import Tierflow.Routing.Abilities

/-! How the cache is built from the tables: one map per group that occurs among the abilities, filled with the
enabled channels and sorted. Writing under a group that has no map stops the program. -/
namespace Tierflow
namespace Routing
namespace CacheInit

/-- The outer map; a missing entry of an inner map reads as an empty list. -/
abbrev Pools := String → Option (String → List ℕ)

/-- A sort that may leave ties in any order. -/
structure Sorter where
  sort : (ℕ → ℤ) → List ℕ → List ℕ
  perm : ∀ f l, (sort f l).Perm l
  descending : ∀ f l, (sort f l).Pairwise (fun i j => f j≤f i)

/-! ## The loops -/

def newPools (abilities : List Ability) : Pools := fun group =>
  if ∃ a∈abilities, a.group = group then some (fun _ => []) else none

def appendChannel (group : String) (id : ℕ) (p : Pools) (model : String) : Option Pools :=
  (p group).map (fun inner => Function.update p group (some (Function.update inner model (inner model++[id]))))

def appendModels (c : Channel) (id : ℕ) (p : Pools) (group : String) : Option Pools :=
  (Text.split c.models ',').foldlM (appendChannel group id) p

def appendGroups (p : Pools) (r : ℕ × Channel) : Option Pools :=
  if r.2.status≠.enabled then some p else (Text.split r.2.group ',').foldlM (appendModels r.2 r.1) p

def fillPools (t : Tables) : Option Pools := t.channels.rows.foldlM appendGroups (newPools t.abilities)

def priorityOf (t : Tables) (id : ℕ) : ℤ := ((t.channels.find? id).map Channel.getPriority).getD 0

/-- A channel that is polled keeps the index it had in the cache. -/
def keepPollingIndex (old : Option Channel) (c : Channel) : Channel :=
  match old with
  | none => c
  | some o =>
    if c.channelInfo.isMultiKey ∧ c.channelInfo.multiKeyMode = .polling ∧
        o.channelInfo.isMultiKey ∧ o.channelInfo.multiKeyMode = .polling then
      { c with channelInfo := { c.channelInfo with multiKeyPollingIndex := o.channelInfo.multiKeyPollingIndex } }
    else c

/-- The new cache, from the tables and from the channels cached before. -/
def initChannelCache (sorter : Sorter) (old : ℕ → Option Channel) (t : Tables) : Option ChannelCache :=
  (fillPools t).map (fun p =>
    { group2model2channels := fun group model =>
        sorter.sort (priorityOf t) (((p group).map (fun inner => inner model)).getD [])
      channelsIDM := fun id => (t.channels.find? id).map (keepPollingIndex (old id)) })

/-! ## What the loops append -/

section Plus
variable {α : Type*}

def plus (p : Pools) (f : String → String → List ℕ) : Pools := fun group =>
  (p group).map (fun inner model => inner model++f group model)

@[simp] lemma isSome_plus (p : Pools) (f : String → String → List ℕ) (group : String) :
    (plus p f group).isSome = (p group).isSome := Option.isSome_map

lemma plus_nil (p : Pools) : plus p (fun _ _ => []) = p := by
  funext group
  unfold plus
  cases p group with
  | none => rfl
  | some inner => simp

lemma plus_plus (p : Pools) (f g : String → String → List ℕ) :
    plus (plus p f) g = plus p (fun group model => f group model++g group model) := by
  funext group
  unfold plus
  cases p group with
  | none => rfl
  | some inner => simp

/-- A step fails unless the maps it writes to are there, and otherwise appends. -/
def Appends (step : Pools → α → Option Pools) (group : α → String → Prop) (f : α → String → String → List ℕ) : Prop :=
  ∀ p a q, step p a = some q ↔ (∀ g, group a g → (p g).isSome) ∧ q = plus p (f a)

/-- A loop of such steps is such a step. -/
lemma Appends.foldlM {step : Pools → α → Option Pools} {group : α → String → Prop}
    {f : α → String → String → List ℕ} (h : Appends step group f) (l : List α) (p q : Pools) :
    l.foldlM step p = some q ↔ (∀ a∈l, ∀ g, group a g → (p g).isSome) ∧
      q = plus p (fun g m => l.flatMap (fun a => f a g m)) := by
  induction l generalizing p with
  | nil =>
    simp only [List.foldlM_nil,List.flatMap_nil,plus_nil]
    constructor
    · exact fun hq => ⟨fun a ha => absurd ha List.not_mem_nil,(Option.some.inj hq).symm⟩
    · exact fun hq => congrArg some hq.2.symm
  | cons a l ih =>
    rw [List.foldlM_cons,Option.bind_eq_bind,Option.bind_eq_some_iff]
    constructor
    · rintro ⟨p',hp',hq⟩
      obtain ⟨ha,rfl⟩ := (h p a p').mp hp'
      obtain ⟨hl,rfl⟩ := (ih _).mp hq
      refine ⟨?_,?_⟩
      · intro b hb g hg
        rcases List.mem_cons.mp hb with rfl | hb
        · exact ha g hg
        · simpa using hl b hb g hg
      · rw [plus_plus]
        rfl
    · rintro ⟨hl,rfl⟩
      refine ⟨_,(h p a _).mpr ⟨hl a List.mem_cons_self,rfl⟩,(ih _).mpr ⟨?_,?_⟩⟩
      · intro b hb g hg
        rw [isSome_plus]
        exact hl b (List.mem_cons_of_mem _ hb) g hg
      · rw [plus_plus]
        rfl

end Plus

lemma appendChannel_appends (group : String) (id : ℕ) : Appends (appendChannel group id) (fun _ g => g = group)
    (fun model g m => if g = group ∧ m = model then [id] else []) := by
  intro p model q
  unfold appendChannel
  have hplus : ∀ inner, p group = some inner →
      Function.update p group (some (Function.update inner model (inner model++[id]))) =
        plus p (fun g m => if g = group ∧ m = model then [id] else []) := by
    intro inner hin
    funext g
    unfold plus
    by_cases hg : g = group
    · subst g
      rw [Function.update_self,hin,Option.map_some]
      congr 1
      funext m
      by_cases hm : m = model
      · subst m
        simp
      · simp [hm]
    · rw [Function.update_of_ne hg]
      cases p g <;> simp [hg]
  cases hin : p group with
  | none => simp [hin]
  | some inner =>
    rw [Option.map_some,hplus inner hin,Option.some.injEq,eq_comm]
    refine (and_iff_right ?_).symm
    rintro g rfl
    rw [hin]
    rfl

/-- How often a channel is appended under a group and a model. -/
lemma flatMap_count {α : Type*} [DecidableEq α] (l : List α) (b : α) (n id : ℕ) :
    l.flatMap (fun a => if b = a then List.replicate n id else []) = List.replicate (l.count b*n) id := by
  induction l with
  | nil => simp
  | cons a l ih =>
    rw [List.flatMap_cons,ih,List.count_cons]
    by_cases hb : b = a
    · subst b
      rw [if_pos rfl,List.replicate_append_replicate]
      congr 1
      simp [Nat.add_mul,Nat.add_comm]
    · have hb' : (a == b) = false := beq_false_of_ne (Ne.symm hb)
      simp [hb,hb']

lemma appendModels_appends (c : Channel) (id : ℕ) : Appends (appendModels c id) (fun group g => g = group)
    (fun group g m => if g = group then List.replicate ((Text.split c.models ',').count m) id else []) := by
  intro p group q
  unfold appendModels
  rw [(appendChannel_appends group id).foldlM]
  have hmaps : (∀ model∈Text.split c.models ',', ∀ g, g = group → (p g).isSome) ↔ ∀ g, g = group → (p g).isSome := by
    obtain ⟨model,models,hm⟩ := List.exists_cons_of_ne_nil (Text.split_ne_nil c.models ',')
    constructor
    · exact fun h => h model (by rw [hm]; exact List.mem_cons_self)
    · exact fun h _ _ => h
  have hlists : (fun g m => (Text.split c.models ',').flatMap (fun model => if g = group ∧ m = model then [id] else [])) =
      fun g m => if g = group then List.replicate ((Text.split c.models ',').count m) id else [] := by
    funext g m
    by_cases hg : g = group
    · simpa [hg] using flatMap_count (Text.split c.models ',') m 1 id
    · simp [hg]
  rw [hmaps,hlists]

lemma appendGroups_appends : Appends appendGroups (fun r g => r.2.status = .enabled ∧ g∈Text.split r.2.group ',')
    (fun r g m => if r.2.status = .enabled then List.replicate (r.2.listings g m) r.1 else []) := by
  intro p r q
  unfold appendGroups
  by_cases he : r.2.status = .enabled
  · rw [if_neg (not_not.mpr he),(appendModels_appends r.2 r.1).foldlM]
    have hmaps : (∀ group∈Text.split r.2.group ',', ∀ g, g = group → (p g).isSome) ↔
        ∀ g, r.2.status = .enabled ∧ g∈Text.split r.2.group ',' → (p g).isSome := by
      constructor
      · exact fun h g hg => h g hg.2 g rfl
      · rintro h group hgroup g rfl
        exact h g ⟨he,hgroup⟩
    have hlists : (fun g m => (Text.split r.2.group ',').flatMap (fun group =>
        if g = group then List.replicate ((Text.split r.2.models ',').count m) r.1 else [])) =
        fun g m => if r.2.status = .enabled then List.replicate (r.2.listings g m) r.1 else [] := by
      funext g m
      rw [flatMap_count,if_pos he]
      rfl
    rw [hmaps,hlists]
  · rw [if_pos he,Option.some.injEq]
    simp only [he,false_and,false_imp_iff,implies_true,true_and,if_false]
    rw [plus_nil,eq_comm]

/-- Every group of an enabled channel occurs among the abilities. -/
def Covered (t : Tables) : Prop :=
  ∀ id c, t.channels.find? id = some c → c.status = .enabled →
    ∀ g∈Text.split c.group ',', ∃ a∈t.abilities, a.group = g

/-- The enabled channels listed under a group and a model, in the order of the table. -/
def listed (t : Tables) (group model : String) : List ℕ :=
  t.channels.rows.flatMap (fun r =>
    if r.2.status = .enabled then List.replicate (r.2.listings group model) r.1 else [])

lemma mem_listed {t : Tables} {group model : String} {id : ℕ} : id∈listed t group model ↔
    ∃ c, t.channels.find? id = some c ∧ c.status = .enabled ∧ c.Lists group model := by
  unfold listed
  rw [List.mem_flatMap]
  constructor
  · rintro ⟨r,hr,hid⟩
    split_ifs at hid with he
    · obtain ⟨hn,rfl⟩ := List.mem_replicate.mp hid
      exact ⟨r.2,(t.channels.mem_rows_iff r).mp hr,he,listings_pos.mp (Nat.pos_of_ne_zero hn)⟩
    · exact absurd hid List.not_mem_nil
  · rintro ⟨c,hf,he,hl⟩
    refine ⟨(id,c),(t.channels.mem_rows_iff (id,c)).mpr hf,?_⟩
    rw [if_pos he]
    exact List.mem_replicate.mpr ⟨(listings_pos.mpr hl).ne',rfl⟩

lemma isSome_newPools {abilities : List Ability} {group : String} :
    (newPools abilities group).isSome ↔ ∃ a∈abilities, a.group = group := by
  unfold newPools
  split_ifs with h <;> simpa using h

/-- The loops run to their end exactly when there is a map for every group they write to. -/
lemma fillPools_eq_some_iff {t : Tables} {p : Pools} :
    fillPools t = some p ↔ Covered t ∧ p = plus (newPools t.abilities) (listed t) := by
  unfold fillPools
  rw [appendGroups_appends.foldlM]
  refine and_congr_left (fun _ => ?_)
  constructor
  · intro h id c hf he g hg
    exact isSome_newPools.mp (h (id,c) ((t.channels.mem_rows_iff (id,c)).mpr hf) g ⟨he,hg⟩)
  · intro h r hr g hg
    exact isSome_newPools.mpr (h r.1 r.2 ((t.channels.mem_rows_iff r).mp hr) hg.1 g hg.2)

/-- Groups without a map have no channels. -/
lemma pool_eq_listed {t : Tables} (h : Covered t) (group model : String) :
    ((plus (newPools t.abilities) (listed t) group).map (fun inner => inner model)).getD [] = listed t group model := by
  unfold plus newPools
  split_ifs with hg
  · simp
  · rw [Option.map_none,Option.map_none,Option.getD_none,eq_comm,List.eq_nil_iff_forall_not_mem]
    intro id hid
    obtain ⟨c,hf,he,hl⟩ := mem_listed.mp hid
    exact hg (h id c hf he group hl.1)

/-- The cache that is built, if one is. -/
def builtCache (sorter : Sorter) (old : ℕ → Option Channel) (t : Tables) : ChannelCache where
  group2model2channels := fun group model => sorter.sort (priorityOf t) (listed t group model)
  channelsIDM := fun id => (t.channels.find? id).map (keepPollingIndex (old id))

lemma initChannelCache_eq_some_iff {sorter : Sorter} {old : ℕ → Option Channel} {t : Tables} {cache : ChannelCache} :
    initChannelCache sorter old t = some cache ↔ Covered t ∧ cache = builtCache sorter old t := by
  unfold initChannelCache
  rw [Option.map_eq_some_iff]
  constructor
  · rintro ⟨p,hp,rfl⟩
    obtain ⟨hc,rfl⟩ := fillPools_eq_some_iff.mp hp
    refine ⟨hc,?_⟩
    simp only [pool_eq_listed hc]
    rfl
  · rintro ⟨hc,rfl⟩
    refine ⟨_,fillPools_eq_some_iff.mpr ⟨hc,rfl⟩,?_⟩
    simp only [pool_eq_listed hc]
    rfl

/-- Each pool has the enabled channels listed under its group and model, the greatest priority first. -/
structure Complete (t : Tables) (cache : ChannelCache) : Prop where
  listed : ∀ group model id, id∈cache.group2model2channels group model ↔
    ∃ c, t.channels.find? id = some c ∧ c.status = .enabled ∧ c.Lists group model
  descending : ∀ group model,
    (cache.group2model2channels group model).Pairwise (fun i j => priorityOf t j≤priorityOf t i)

lemma complete_builtCache (sorter : Sorter) (old : ℕ → Option Channel) (t : Tables) :
    Complete t (builtCache sorter old t) := by
  constructor
  · intro group model id
    rw [←mem_listed]
    exact (sorter.perm _ _).mem_iff
  · intro group model
    exact sorter.descending _ _

/-- A complete cache is built exactly from tables in which every group of an enabled channel has an ability;
from any others none is built at all. -/
theorem initChannelCache_complete_iff (sorter : Sorter) (old : ℕ → Option Channel) (t : Tables) :
    (∃ cache, initChannelCache sorter old t = some cache ∧ Complete t cache) ↔ Covered t := by
  constructor
  · rintro ⟨cache,h,-⟩
    exact (initChannelCache_eq_some_iff.mp h).1
  · intro h
    exact ⟨_,initChannelCache_eq_some_iff.mpr ⟨h,rfl⟩,complete_builtCache sorter old t⟩

/-! ## Tables between two writes -/

section Writes
variable {t : Tables} {c : Channel} {g : String}

lemma initChannelCache_eq_none_iff {sorter : Sorter} {old : ℕ → Option Channel} :
    initChannelCache sorter old t = none ↔ ¬Covered t := by
  rw [Option.eq_none_iff_forall_ne_some]
  constructor
  · exact fun h hc => h _ (initChannelCache_eq_some_iff.mpr ⟨hc,rfl⟩)
  · exact fun h cache hcache => h (initChannelCache_eq_some_iff.mp hcache).1

/-- A channel that was created under a new group has no abilities before they are added. -/
lemma not_covered_created (he : c.status = .enabled) (hg : g∈Text.split c.group ',')
    (hno : ∀ a∈t.abilities, a.group≠g) : ¬Covered { t with channels := t.channels.insert c } := by
  intro h
  obtain ⟨a,ha,hag⟩ := h t.channels.next c (t.channels.find?_insert_self c) he g hg
  exact hno a ha hag

/-- While the abilities are rebuilt, the first enabled channel stops the program. -/
lemma not_covered_truncated {id : ℕ} (hf : t.channels.find? id = some c) (he : c.status = .enabled) :
    ¬Covered { t with abilities := [] } := by
  intro h
  obtain ⟨g,gs,hg⟩ := List.exists_cons_of_ne_nil (Text.split_ne_nil c.group ',')
  obtain ⟨a,ha,-⟩ := h id c hf he g (by rw [hg]; exact List.mem_cons_self)
  exact absurd ha List.not_mem_nil

/-- An insert that was completed leaves the tables as they have to be. -/
lemma covered_insert (h : Covered t) (hc : c.BarFree) :
    Covered (addAbilities { t with channels := t.channels.insert c } t.channels.next c) := by
  intro id d hf he g hg
  change (t.channels.insert c).find? id = some d at hf
  rw [Table.find?_insert] at hf
  split_ifs at hf with hid
  · obtain rfl := Option.some.inj hf
    obtain ⟨m,ms,hm⟩ := List.exists_cons_of_ne_nil (Text.split_ne_nil c.models ',')
    have hmem : abilityOf t.channels.next c (g,m)∈channelAbilities t.channels.next c :=
      (mem_channelAbilities hc _).mpr ⟨⟨hg,by change m∈_; rw [hm]; exact List.mem_cons_self⟩,rfl⟩
    by_cases hnew : ∀ b∈t.abilities, ¬(abilityOf t.channels.next c (g,m)).SameKey b
    · exact ⟨_,List.mem_append_right _ (List.mem_filter.mpr ⟨hmem,decide_eq_true hnew⟩),rfl⟩
    · push Not at hnew
      obtain ⟨b,hb,hkey⟩ := hnew
      exact ⟨b,List.mem_append_left _ hb,hkey.1.symm⟩
  · obtain ⟨a,ha,hag⟩ := h id d hf he g hg
    exact ⟨a,List.mem_append_left _ ha,hag⟩

end Writes

/-! ## The closed form -/

/-- Among channels of one priority the order of the table is kept. -/
def Sorter.stable : Sorter where
  sort f l := l.insertionSort (fun i j => f j≤f i)
  perm _ l := List.perm_insertionSort _ l
  descending f l :=
    have : Std.Total (fun i j => f j≤f i) := ⟨fun i j => le_total (f j) (f i)⟩
    have : IsTrans ℕ (fun i j => f j≤f i) := ⟨fun _ _ _ h h' => h'.trans h⟩
    List.pairwise_insertionSort _ l

/-- With a stable sort and no cache before, the loops build the cache of the closed form. -/
theorem initChannelCache_stable (t : Tables) :
    initChannelCache .stable (fun _ => none) t = Routing.initChannelCache t := by
  have hpools : ∀ group model, cachedPool t group model =
      (listed t group model).insertionSort (fun i j => priorityOf t j≤priorityOf t i) := by
    intro group model
    have hrows : listed t group model = ((t.channels.rows.filter (fun r => r.2.status = .enabled)).flatMap
        (fun r => List.replicate (r.2.listings group model) r)).map Prod.fst := by
      unfold listed
      rw [List.map_flatMap]
      induction t.channels.rows with
      | nil => rfl
      | cons r rows ih =>
        rw [List.flatMap_cons,List.filter_cons,ih]
        by_cases he : r.2.status = .enabled
        · simp [he]
        · simp [he]
    unfold cachedPool
    rw [hrows]
    apply List.map_insertionSort
    have hprio : ∀ r∈(t.channels.rows.filter (fun r => r.2.status = .enabled)).flatMap
        (fun r => List.replicate (r.2.listings group model) r), priorityOf t r.1 = r.2.getPriority := by
      intro r hr
      obtain ⟨s,hs,hm⟩ := List.mem_flatMap.mp hr
      obtain ⟨-,rfl⟩ := List.mem_replicate.mp hm
      unfold priorityOf
      rw [(t.channels.mem_rows_iff r).mp (List.mem_filter.mp hs).1]
      rfl
    intro r hr s hs
    rw [hprio r hr,hprio s hs]
  have hcover : Covered t ↔ ∀ r∈t.channels.rows, r.2.status = .enabled →
      ∀ g∈Text.split r.2.group ',', ∃ a∈t.abilities, a.group = g := by
    constructor
    · exact fun h r hr => h r.1 r.2 ((t.channels.mem_rows_iff r).mp hr)
    · exact fun h id c hf => h (id,c) ((t.channels.mem_rows_iff (id,c)).mpr hf)
  have hbuilt : builtCache .stable (fun _ => none) t = ⟨cachedPool t,t.channels.find?⟩ := by
    unfold builtCache
    congr 1
    · funext group model
      exact (hpools group model).symm
    · funext id
      cases t.channels.find? id <;> rfl
  unfold Routing.initChannelCache
  split_ifs with h
  · exact initChannelCache_eq_some_iff.mpr ⟨hcover.mpr h,hbuilt.symm⟩
  · exact initChannelCache_eq_none_iff.mpr (fun hc => h (hcover.mp hc))

/-- An enabled channel of a new group whose abilities are still to be written. -/
def createdTables : Tables where
  channels := Table.empty.insert ⟨.enabled,none,"m","vip",none,["k"],⟨false,[],0,.random⟩⟩
  abilities := []

theorem createdTables_stop :
    ¬∃ cache, initChannelCache .stable (fun _ => none) createdTables = some cache ∧ Complete createdTables cache := by
  rintro ⟨cache,h,-⟩
  have hnone : initChannelCache .stable (fun _ => none) createdTables = none := by decide
  rw [hnone] at h
  contradiction

end CacheInit
end Routing
end Tierflow
