import Tierflow.Routing.ChannelAffinity

/-! The keys of a namespaced cache. Callers bring raw keys or full ones, and every stored key is its own full key, so
that whatever lists the keys of the cache can hand them back to it. -/
namespace Tierflow
namespace Routing
namespace Affinity
open Text

/-! ## Deleting -/

/-- A key goes, and whether it was there is noted for it. -/
def HybridCache.delete (s : HybridCache × Keyed String Bool) (k : String) : HybridCache × Keyed String Bool :=
  (s.1.erase k,s.2.put k (s.1.find? k).isSome)

/-- Both raw and full keys are taken; the answer tells for every full key whether it was deleted. -/
def HybridCache.deleteMany (cache : HybridCache) (n : String) (keys : List String) :
    HybridCache × Keyed String Bool :=
  ((keys.map (fullKey n)).filter (· ≠ "")).foldl HybridCache.delete (cache,Keyed.empty)

/-- The prefix that is looked for ends with a colon. -/
def deletedPrefix (n keyPrefix : String) : String :=
  let full := fullKey n keyPrefix
  if full = "" ∨ full.toList.getLast? = some ':' then full else full++":"

/-- The keys with the prefix are listed and handed to `deleteMany`, and the deleted ones are counted. -/
def HybridCache.deleteByPrefix (cache : HybridCache) (n keyPrefix : String) : HybridCache × ℕ :=
  let full := deletedPrefix n keyPrefix
  if full = "" then (cache,0)
  else
    let keys := (cache.rows.map Prod.fst).filter (fun k => hasPrefix k full)
    let res := cache.deleteMany n keys
    (res.1,(res.2.rows.filter Prod.snd).length)

inductive CacheOp
  | set (key : String) (v ttlSeconds : ℤ)
  | deleteMany (keys : List String)
  | deleteByPrefix (keyPrefix : String)
  | purge

def CacheOp.apply (n : String) (cache : HybridCache) : CacheOp → HybridCache
  | .set key v ttlSeconds => cache.setWithTTL n key v ttlSeconds
  | .deleteMany keys => (cache.deleteMany n keys).1
  | .deleteByPrefix keyPrefix => (cache.deleteByPrefix n keyPrefix).1
  | .purge => Keyed.empty

/-! ## Full keys -/

section
variable {n : String}

lemma trimSpace_of_ends {s : String} (hh : ∀c∈s.toList.head?,isSpace c = false)
    (hl : ∀c∈s.toList.getLast?,isSpace c = false) : trimSpace s = s := by
  rw [trimSpace_of_last hl,dropWhile_eq_self_iff.mpr hh,String.ofList_toList]

lemma head?_trimSpace (s : String) : ∀c∈(trimSpace s).toList.head?,isSpace c = false := by
  intro c hc
  have hi := congrArg String.toList (trimSpace_idem s)
  by_contra hsp
  rw [Bool.not_eq_false] at hsp
  generalize trimSpace s = t at *
  cases ht : t.toList with
  | nil => simp [ht] at hc
  | cons d l =>
    obtain rfl : d=c := by simpa [ht] using hc
    have hlen := congrArg List.length hi
    rw [trimSpace,String.toList_ofList,trimChars,ht,List.dropWhile_cons_of_pos hsp,List.length_reverse] at hlen
    have h1 := (List.dropWhile_suffix isSpace (l := (l.dropWhile isSpace).reverse)).length_le
    have h2 := (List.dropWhile_suffix isSpace (l := l)).length_le
    rw [List.length_reverse] at h1
    simp only [List.length_cons] at hlen
    omega

lemma getLast?_trimSpace (s : String) : ∀c∈(trimSpace s).toList.getLast?,isSpace c = false := by
  intro c hc
  rw [trimSpace,String.toList_ofList] at hc
  exact getLast?_trimChars hc

/-- A prefix begins with no blank and ends with its colon. -/
lemma namespacePrefix_ends (hn : namespacePrefix n≠"") : (namespacePrefix n).toList≠[] ∧
    (∀c∈(namespacePrefix n).toList.head?,isSpace c = false) ∧ (namespacePrefix n).toList.getLast? = some ':' := by
  unfold namespacePrefix at hn ⊢
  dsimp only at hn ⊢
  split_ifs at hn ⊢ with h
  · exact absurd rfl hn
  · rw [String.toList_append]
    have hne : (trimRightColons (trimSpace n)).toList≠[] := by simpa using h
    refine ⟨by simp,fun c hc => ?_,by simp⟩
    rw [List.head?_append_of_ne_nil _ hne,trimRightColons,String.toList_ofList] at hc
    obtain ⟨r,hr⟩ := List.dropWhile_suffix (fun c => decide (c = ':')) (l := (trimSpace n).toList.reverse)
    refine head?_trimSpace n c ?_
    have hsplit := congrArg List.reverse hr
    rw [List.reverse_append,List.reverse_reverse] at hsplit
    rw [←hsplit,List.head?_append,hc]
    rfl

/-- A full key is empty, or the prefix and something that ends with no blank. -/
lemma fullKey_cases (hn : namespacePrefix n≠"") (key : String) : fullKey n key = "" ∨
    ∃r,fullKey n key = namespacePrefix n++r ∧ ∀c∈r.toList.getLast?,isSpace c = false := by
  unfold fullKey
  dsimp only
  by_cases hk : trimSpace key = ""
  · exact .inl (if_pos hk)
  rw [if_neg hk,if_neg hn]
  have hl := getLast?_trimSpace key
  by_cases hp : hasPrefix (trimSpace key) (namespacePrefix n) = true
  · obtain ⟨r,hr⟩ := hasPrefix_iff.mp hp
    rw [if_pos hp]
    refine .inr ⟨r,hr,fun c hc => hl c ?_⟩
    rw [hr,String.toList_append,List.getLast?_append,hc]
    rfl
  · rw [if_neg hp]
    refine .inr ⟨_,rfl,fun c hc => hl c ?_⟩
    obtain ⟨r,hr⟩ := List.dropWhile_suffix (fun c => decide (c = ':')) (l := (trimSpace key).toList)
    rw [trimLeftColons,String.toList_ofList] at hc
    rw [←hr,List.getLast?_append,hc]
    rfl

/-- Raw and full keys are interchangeable. -/
lemma fullKey_fullKey (hn : namespacePrefix n≠"") (key : String) : fullKey n (fullKey n key) = fullKey n key := by
  rcases fullKey_cases hn key with h | ⟨r,h,hr⟩
  · rw [h]
    rfl
  · obtain ⟨hne,hhead,hlast⟩ := namespacePrefix_ends hn
    have htrim : trimSpace (namespacePrefix n++r) = namespacePrefix n++r := by
      apply trimSpace_of_ends <;> intro c hc <;> rw [String.toList_append] at hc
      · rw [List.head?_append_of_ne_nil _ hne] at hc
        exact hhead c hc
      · rw [List.getLast?_append] at hc
        cases hr' : r.toList.getLast? with
        | none =>
          rw [hr',Option.none_or,hlast] at hc
          obtain rfl : ':' = c := Option.some.inj hc
          decide
        | some d =>
          rw [hr',Option.some_or] at hc
          exact hr c (hr' ▸ hc)
    rw [h,fullKey,htrim]
    dsimp only
    rw [if_neg (fun h0 => hn (String.append_eq_empty_iff.mp h0).1),if_neg hn,if_pos (hasPrefix_iff.mpr ⟨r,rfl⟩)]

/-! ## The keys of a cache -/

/-- Every stored key is its own full key. -/
def FullKeys (n : String) (cache : HybridCache) : Prop := ∀k v,cache.find? k = some v → fullKey n k = k ∧ k≠""

lemma find?_foldl_delete (keys : List String) (s : HybridCache × Keyed String Bool) (k : String) :
    (keys.foldl HybridCache.delete s).1.find? k = if k∈keys then none else s.1.find? k := by
  induction keys generalizing s with
  | nil => rfl
  | cons j keys ih =>
    rw [List.foldl_cons,ih,HybridCache.delete,Keyed.find?_erase]
    by_cases hk : k=j
    · simp [hk]
    · simp [hk]

lemma find?_deleteMany (cache : HybridCache) (keys : List String) (k : String) :
    (cache.deleteMany n keys).1.find? k = if k≠"" ∧ k∈keys.map (fullKey n) then none else cache.find? k := by
  rw [HybridCache.deleteMany,find?_foldl_delete]
  simp only [List.mem_filter,decide_eq_true_eq,and_comm]

lemma FullKeys.deleteMany {cache : HybridCache} (h : FullKeys n cache) (keys : List String) :
    FullKeys n (cache.deleteMany n keys).1 := by
  intro k v hk
  rw [find?_deleteMany] at hk
  split_ifs at hk
  exact h k v hk

lemma FullKeys.apply (hn : namespacePrefix n≠"") {cache : HybridCache} (h : FullKeys n cache) (op : CacheOp) :
    FullKeys n (op.apply n cache) := by
  cases op with
  | set key v ttlSeconds =>
    intro k w hk
    rw [CacheOp.apply,HybridCache.setWithTTL] at hk
    split_ifs at hk with h0
    · exact h k w hk
    · rw [Keyed.find?_put] at hk
      by_cases hkk : k=fullKey n key
      · subst hkk
        exact ⟨fullKey_fullKey hn key,h0⟩
      · rw [beq_false_of_ne hkk] at hk
        exact h k w hk
  | deleteMany keys => exact h.deleteMany keys
  | deleteByPrefix keyPrefix =>
    unfold CacheOp.apply HybridCache.deleteByPrefix
    dsimp only
    split_ifs
    · exact h
    · exact h.deleteMany _
  | purge =>
    intro k w hk
    rw [CacheOp.apply,Keyed.find?_empty] at hk
    cases hk

/-- A listed key that is handed back is found again under itself. -/
lemma FullKeys.listed {cache : HybridCache} (h : FullKeys n cache) {k : String} (hk : k∈cache.rows.map Prod.fst) :
    fullKey n k = k ∧ k≠"" := by
  obtain ⟨r,hr,rfl⟩ := List.mem_map.mp hk
  exact h r.1 r.2 ((cache.find?_eq_some_iff _ _).mpr hr)

/-- What `deleteMany` goes through when listed keys are handed back to it. -/
lemma FullKeys.handed_back {cache : HybridCache} (h : FullKeys n cache) (p : String → Bool) :
    (((cache.rows.map Prod.fst).filter p).map (fullKey n)).filter (· ≠ "") = (cache.rows.map Prod.fst).filter p := by
  have hself : ((cache.rows.map Prod.fst).filter p).map (fullKey n) = (cache.rows.map Prod.fst).filter p :=
    (List.map_congr_left (fun k hk => (h.listed (List.mem_filter.mp hk).1).1)).trans (List.map_id _)
  rw [hself]
  exact List.filter_eq_self.mpr (fun k hk => decide_eq_true (h.listed (List.mem_filter.mp hk).1).2)

/-- Listed keys that are handed back go, and only these. -/
lemma FullKeys.find?_deleteListed {cache : HybridCache} (h : FullKeys n cache) (p : String → Bool) (k : String) :
    (cache.deleteMany n ((cache.rows.map Prod.fst).filter p)).1.find? k = (cache.find? k).filter (fun _ => !p k) := by
  rw [HybridCache.deleteMany,h.handed_back,find?_foldl_delete]
  cases hk : cache.find? k with
  | none => simp
  | some v =>
    have hrow : k∈cache.rows.map Prod.fst := List.mem_map.mpr ⟨(k,v),(cache.find?_eq_some_iff k v).mp hk,rfl⟩
    cases hp : p k with
    | true =>
      rw [if_pos (List.mem_filter.mpr ⟨hrow,hp⟩)]
      rfl
    | false =>
      rw [if_neg (fun hmem => by simp [hp] at hmem)]
      rfl

/-- Distinct keys that are in the cache, and not noted yet, are all noted as deleted. -/
lemma deleted_foldl_delete {keys : List String} (hnodup : keys.Nodup) {s : HybridCache × Keyed String Bool}
    (hin : ∀k∈keys,(s.1.find? k).isSome = true) (hnew : ∀k∈keys,k∉s.2.rows.map Prod.fst) :
    ((keys.foldl HybridCache.delete s).2.rows.filter Prod.snd).length =
      (s.2.rows.filter Prod.snd).length+keys.length := by
  induction keys generalizing s with
  | nil => rfl
  | cons j keys ih =>
    obtain ⟨hj,hnodup⟩ := List.nodup_cons.mp hnodup
    have hrows : (HybridCache.delete s j).2.rows = s.2.rows++[(j,true)] := by
      have hself : (s.2.erase j).rows = s.2.rows := by
        refine List.filter_eq_self.mpr (fun r hr => ?_)
        have hne : (r.1 == j) = false :=
          beq_false_of_ne (fun h => hnew j List.mem_cons_self (List.mem_map.mpr ⟨r,hr,h⟩))
        exact congrArg not hne
      rw [HybridCache.delete,hin j List.mem_cons_self,Keyed.put,Keyed.insertNew,
        dif_neg (by rw [hself]; exact hnew j List.mem_cons_self)]
      exact congrArg (· ++ _) hself
    rw [List.foldl_cons,ih hnodup]
    · rw [hrows,List.filter_append,List.length_append,List.length_cons]
      simp only [List.filter_cons_of_pos,List.filter_nil,List.length_singleton]
      omega
    · intro k hk
      rw [HybridCache.delete,Keyed.find?_erase,beq_false_of_ne (fun h : k=j => hj (h ▸ hk))]
      exact hin k (List.mem_cons_of_mem _ hk)
    · intro k hk hmem
      rw [hrows,List.map_append,List.mem_append] at hmem
      rcases hmem with hmem | hmem
      · exact hnew k (List.mem_cons_of_mem _ hk) hmem
      · obtain rfl : k=j := by simpa using hmem
        exact hj hk

/-- The count is that of the entries with the prefix. -/
lemma FullKeys.deleteByPrefix_count {cache : HybridCache} (h : FullKeys n cache) {keyPrefix : String}
    (hp : deletedPrefix n keyPrefix≠"") : (cache.deleteByPrefix n keyPrefix).2 =
      (cache.rows.filter (fun r => hasPrefix r.1 (deletedPrefix n keyPrefix))).length := by
  unfold HybridCache.deleteByPrefix
  dsimp only
  rw [if_neg hp]
  generalize deletedPrefix n keyPrefix = full
  rw [HybridCache.deleteMany,h.handed_back,deleted_foldl_delete (cache.nodup.filter _),List.filter_map,List.length_map]
  · exact Nat.zero_add _
  · intro k hk
    obtain ⟨r,hr,rfl⟩ := List.mem_map.mp (List.mem_filter.mp hk).1
    rw [(cache.find?_eq_some_iff r.1 r.2).mpr hr]
    rfl
  · exact fun k _ hk => List.not_mem_nil hk

end

/-- After any history of a cache in a namespace that is not blank: a raw key and its full key find the same, and deleting
by a prefix takes away exactly the entries whose key has the prefix, and counts just these. -/
theorem hybridCache_keys (n : String) (hn : namespacePrefix n≠"") (ops : List CacheOp) :
    let cache := ops.foldl (CacheOp.apply n) Keyed.empty
    (∀key,cache.get n (fullKey n key) = cache.get n key) ∧
    (∀keyPrefix k,deletedPrefix n keyPrefix≠"" → (cache.deleteByPrefix n keyPrefix).1.find? k =
      (cache.find? k).filter (fun _ => !hasPrefix k (deletedPrefix n keyPrefix))) ∧
    ∀keyPrefix,deletedPrefix n keyPrefix≠"" → (cache.deleteByPrefix n keyPrefix).2 =
      (cache.rows.filter (fun r => hasPrefix r.1 (deletedPrefix n keyPrefix))).length := by
  intro cache
  have hrun : ∀(ops : List CacheOp) (c : HybridCache),FullKeys n c → FullKeys n (ops.foldl (CacheOp.apply n) c) := by
    intro ops
    induction ops with
    | nil => exact fun _ h => h
    | cons op ops ih => exact fun c h => ih _ (h.apply hn op)
  have hfull : FullKeys n cache := hrun ops Keyed.empty nofun
  clear_value cache
  refine ⟨fun key => ?_,fun keyPrefix k hp => ?_,fun _ hp => hfull.deleteByPrefix_count hp⟩
  · rw [HybridCache.get,HybridCache.get,fullKey_fullKey hn]
  · unfold HybridCache.deleteByPrefix
    dsimp only
    rw [if_neg hp]
    exact hfull.find?_deleteListed _ k

theorem hybridCache_keys_tagged : HybridCache.get (HybridCache.setWithTTL Keyed.empty "a:" "r:x" 7 60) "a:"
    (fullKey "a:" "r:x") = HybridCache.get (HybridCache.setWithTTL Keyed.empty "a:" "r:x" 7 60) "a:" "r:x" :=
  (hybridCache_keys "a:" (by decide) [.set "r:x" 7 60]).1 "r:x"

end Affinity
end Routing
end Tierflow
