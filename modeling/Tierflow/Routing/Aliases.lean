import Tierflow.Foundation.Keyed
import Tierflow.Foundation.Text

/-! The aliases of routing profiles: the cache that finds the profile of an alias, and the model names that a user
gets to see. Names are told apart by their lower case. -/
namespace Tierflow
namespace Routing

section FirstOfEach
variable {α κ : Type*} [DecidableEq κ] {key : α → κ}

/-- An item is appended unless its key has been seen. -/
def addUnseen (key : α → κ) (out : List α) (a : α) : List α := if key a∈out.map key then out else out++[a]

/-- The first item of each key. -/
def firstOfEach (key : α → κ) (out l : List α) : List α := l.foldl (addUnseen key) out

lemma firstOfEach_nodup {out : List α} (l : List α) (h : (out.map key).Nodup) :
    ((firstOfEach key out l).map key).Nodup := by
  induction l generalizing out with
  | nil => exact h
  | cons a l ih =>
    show ((firstOfEach key (addUnseen key out a) l).map key).Nodup
    refine ih ?_
    unfold addUnseen
    split_ifs with ha
    · exact h
    · rw [List.map_append,List.map_singleton,←List.concat_eq_append]
      exact h.concat ha

lemma mem_firstOfEach {out l : List α} {k : κ} :
    k∈(firstOfEach key out l).map key ↔ k∈out.map key ∨ k∈l.map key := by
  induction l generalizing out with
  | nil => simp [firstOfEach]
  | cons a l ih =>
    rw [firstOfEach,List.foldl_cons,←firstOfEach,ih,addUnseen,List.map_cons,List.mem_cons]
    split_ifs with ha
    · constructor
      · exact fun h => h.imp id .inr
      · rintro (h | rfl | h)
        · exact .inl h
        · exact .inl ha
        · exact .inr h
    · rw [List.map_append,List.map_singleton,List.mem_append,List.mem_singleton,or_assoc]

/-- Keys that are all there add nothing. -/
lemma firstOfEach_of_mem {out l : List α} (h : ∀a∈l,key a∈out.map key) : firstOfEach key out l = out := by
  induction l with
  | nil => rfl
  | cons a l ih =>
    rw [firstOfEach,List.foldl_cons,addUnseen,if_pos (h a (by simp))]
    exact ih (fun b hb => h b (by simp [hb]))

lemma firstOfEach_of_nodup {out l : List α} (h : ((out++l).map key).Nodup) : firstOfEach key out l = out++l := by
  induction l generalizing out with
  | nil => rw [firstOfEach,List.foldl_nil,List.append_nil]
  | cons a l ih =>
    have hnew : key a∉out.map key := by
      rw [List.map_append,List.map_cons] at h
      exact fun hmem => List.disjoint_of_nodup_append h hmem (by simp)
    rw [firstOfEach,List.foldl_cons,addUnseen,if_neg hnew,←firstOfEach,ih (by rwa [List.append_assoc]),List.append_assoc]
    rfl

end FirstOfEach

/-! ## The code -/

/-- A stored profile, with the names it may be called by. -/
structure ProfileRow (P : Type*) where
  profile : P
  aliases : String
  enabled : Bool

section
variable {P : Type*} (lower : String → String) (rows : List (ProfileRow P))

def ProfileRow.aliasNames (r : ProfileRow P) : List String :=
  ((Text.split r.aliases ',').map Text.trimSpace).filter (· ≠ "")

/-- The aliases of the enabled profiles, each with its profile. -/
def enabledAliases : List (String × P) :=
  (rows.filter ProfileRow.enabled).flatMap (fun r => r.aliasNames.map (·,r.profile))

/-- `routingProfileByAlias` after a reload -/
def profileByAlias : Keyed String P := (enabledAliases rows).foldl (fun m r => m.put (lower r.1) r.2) .empty

/-- `routingAliasList` after a reload -/
def routingAliasList : List String := firstOfEach lower [] ((enabledAliases rows).map Prod.fst)

def getRoutingProfileByAlias (name : String) : Option P := (profileByAlias lower rows).find? (lower (Text.trimSpace name))

def applyRoutingModelVisibility (expose : Bool) (models : List String) : List String :=
  let aliases := routingAliasList lower rows
  let out := if expose then firstOfEach lower [] models
    else firstOfEach lower [] (models.filter (fun m => lower m∈aliases.map lower))
  firstOfEach lower out aliases

end

/-! ## Lookups -/

section
variable {P : Type*} {lower : String → String} {rows : List (ProfileRow P)}

lemma find?_foldl_put (l : List (String × P)) (m : Keyed String P) (k : String) :
    (l.foldl (fun m r => m.put (lower r.1) r.2) m).find? k =
      ((l.reverse.find? (fun r => lower r.1 = k)).map Prod.snd).or (m.find? k) := by
  induction l generalizing m with
  | nil => rfl
  | cons r l ih =>
    rw [List.foldl_cons,ih,List.reverse_cons,List.find?_append,Keyed.find?_put]
    cases l.reverse.find? (fun r => lower r.1 = k) with
    | some s => rfl
    | none =>
      by_cases hk : lower r.1 = k
      · simp [hk]
      · simp [hk,eq_comm (a := k)]

lemma mem_enabledAliases {r : String × P} : r∈enabledAliases rows ↔
    ∃row∈rows,row.enabled = true ∧ row.profile=r.2 ∧ r.1∈row.aliasNames := by
  obtain ⟨a,p⟩ := r
  simp only [enabledAliases,List.mem_flatMap,List.mem_filter,List.mem_map,Prod.mk.injEq]
  constructor
  · rintro ⟨row,⟨hrow,he⟩,b,hb,rfl,rfl⟩
    exact ⟨row,hrow,he,rfl,hb⟩
  · rintro ⟨row,hrow,he,rfl,ha⟩
    exact ⟨row,⟨hrow,he⟩,a,ha,rfl,rfl⟩

lemma mem_routingAliasList {k : String} :
    k∈(routingAliasList lower rows).map lower ↔ ∃r∈enabledAliases rows,lower r.1 = k := by
  rw [routingAliasList,mem_firstOfEach]
  simp

/-- The profile of an alias is that of the last enabled row that lists it. -/
lemma find?_profileByAlias (k : String) : (profileByAlias lower rows).find? k =
    ((enabledAliases rows).reverse.find? (fun r => lower r.1 = k)).map Prod.snd := by
  rw [profileByAlias,find?_foldl_put,Keyed.find?_empty,Option.or_none]

lemma isSome_profileByAlias {k : String} :
    ((profileByAlias lower rows).find? k).isSome = true ↔ k∈(routingAliasList lower rows).map lower := by
  rw [find?_profileByAlias,Option.isSome_map,List.find?_isSome,mem_routingAliasList]
  simp

lemma trimSpace_of_mem {row : ProfileRow P} {a : String} (h : a∈row.aliasNames) : Text.trimSpace a = a := by
  obtain ⟨b,-,rfl⟩ := List.mem_map.mp (List.mem_filter.mp h).1
  exact Text.trimSpace_idem b

end

/-- For all stored profiles, model names and both settings: a user sees no two names that differ in case only; the
names that are seen are the aliases of enabled profiles and, where models are exposed, the given names; a listed alias
is exactly a name for which a profile is found, and the profile is an enabled one that lists it; and what has been made
visible once stays as it is. -/
theorem routing_visibility {P : Type*} (lower : String → String) (rows : List (ProfileRow P)) (expose : Bool)
    (models : List String) :
    ((applyRoutingModelVisibility lower rows expose models).map lower).Nodup ∧
    (∀k,k∈(applyRoutingModelVisibility lower rows expose models).map lower ↔
      ((profileByAlias lower rows).find? k).isSome = true ∨ expose = true ∧ k∈models.map lower) ∧
    (∀row∈rows,row.enabled = true → ∀a∈row.aliasNames,∃p,getRoutingProfileByAlias lower rows a = some p ∧
      ∃row'∈rows,row'.enabled = true ∧ row'.profile=p ∧ lower a∈row'.aliasNames.map lower) ∧
    applyRoutingModelVisibility lower rows expose (applyRoutingModelVisibility lower rows expose models) =
      applyRoutingModelVisibility lower rows expose models := by
  set aliases := routingAliasList lower rows with haliases
  have hout : ∀ms,applyRoutingModelVisibility lower rows expose ms = firstOfEach lower (firstOfEach lower []
      (if expose then ms else ms.filter (fun m => lower m∈aliases.map lower))) aliases := by
    intro ms
    cases expose <;> rfl
  have hnodup : ∀ms,((applyRoutingModelVisibility lower rows expose ms).map lower).Nodup := fun ms => by
    rw [hout]
    exact firstOfEach_nodup _ (firstOfEach_nodup _ List.nodup_nil)
  have hmem : ∀ms k,k∈(applyRoutingModelVisibility lower rows expose ms).map lower ↔
      ((profileByAlias lower rows).find? k).isSome = true ∨ expose = true ∧ k∈ms.map lower := by
    intro ms k
    rw [hout,mem_firstOfEach,mem_firstOfEach,isSome_profileByAlias,←haliases]
    cases expose with
    | true => simp [or_comm]
    | false =>
      have hsub : k∈(ms.filter (fun m => lower m∈aliases.map lower)).map lower → k∈aliases.map lower := by
        intro h
        obtain ⟨m,hm,rfl⟩ := List.mem_map.mp h
        simpa using (List.mem_filter.mp hm).2
      simpa using hsub
  refine ⟨hnodup models,hmem models,?_,?_⟩
  · intro row hrow he a ha
    have hin : (a,row.profile)∈enabledAliases rows := mem_enabledAliases.mpr ⟨row,hrow,he,rfl,ha⟩
    rw [getRoutingProfileByAlias,trimSpace_of_mem ha,find?_profileByAlias]
    have hsome : ((enabledAliases rows).reverse.find? (fun r => lower r.1 = lower a)).isSome = true := by
      rw [List.find?_isSome]
      exact ⟨_,List.mem_reverse.mpr hin,by simp⟩
    obtain ⟨r,hr⟩ := Option.isSome_iff_exists.mp hsome
    have hlow : lower r.1 = lower a := by simpa using List.find?_some hr
    obtain ⟨row',hrow',he',hp,ha'⟩ := mem_enabledAliases.mp (List.mem_reverse.mp (List.mem_of_find?_eq_some hr))
    exact ⟨r.2,by rw [hr,Option.map_some],row',hrow',he',hp,List.mem_map.mpr ⟨_,ha',hlow⟩⟩
  · have hall : ∀a∈aliases,lower a∈(applyRoutingModelVisibility lower rows expose models).map lower := fun a ha =>
      (hmem models _).mpr (.inl (isSome_profileByAlias.mpr (List.mem_map_of_mem ha)))
    have hfilter : (if expose then applyRoutingModelVisibility lower rows expose models else
        (applyRoutingModelVisibility lower rows expose models).filter (fun m => lower m∈aliases.map lower)) =
        applyRoutingModelVisibility lower rows expose models := by
      cases he : expose with
      | true => rfl
      | false =>
        refine List.filter_eq_self.mpr fun m hm => ?_
        have := (hmem models (lower m)).mp (List.mem_map_of_mem (he ▸ hm))
        rw [isSome_profileByAlias,he] at this
        simpa using this
    have hself : firstOfEach lower [] (applyRoutingModelVisibility lower rows expose models) =
        applyRoutingModelVisibility lower rows expose models := firstOfEach_of_nodup (hnodup models)
    rw [hout (applyRoutingModelVisibility lower rows expose models),hfilter,hself,firstOfEach_of_mem hall]

end Routing
end Tierflow
