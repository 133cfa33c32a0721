import Tierflow.Relay.SubscriptionGate

/-! Plan model sets under maintenance: sets are added, replaced and deleted, plans come to refer to them, and a cache
that is filled on first use answers which bucket a model group belongs to. -/
namespace Tierflow
open TxSystem
namespace Relay

/-- The tables, the plans that refer to sets, the cached pairs of a set and a group, and when the next attempt to fill
an empty cache may be made. -/
structure SetStore where
  tables : SetTables
  plans : Table PlanSets
  cache : Option (List (ℕ × ℕ))
  nextRetry : ℤ

def planModelSetRetryInterval : ℤ := 10

/-! ## The code -/

/-- The pairs that a reload collects: the members of the enabled sets. -/
def reloadPlanModelSetCache (t : SetTables) : List (ℕ × ℕ) :=
  (t.planModelSetMembers.rows.filter (fun r => (t.planModelSets.find? r.2.setId).any PlanModelSet.enabled)).map
    (fun r => (r.2.setId,r.2.modelGroupId.id))

/-- After a write; a reload that fails leaves the cache as it was. -/
def invalidatePlanModelSetCache (s : SetStore) (reloads : Bool) : SetStore :=
  if reloads then { s with cache := some (reloadPlanModelSetCache s.tables) } else s

/-- Before a lookup; after a failure the database is left alone for a while. -/
def ensurePlanModelSetCache (s : SetStore) (now : ℤ) (reloads : Bool) : SetStore :=
  if s.cache.isSome then s
  else if now < s.nextRetry then s
  else if reloads then { s with cache := some (reloadPlanModelSetCache s.tables) }
  else { s with nextRetry := now+planModelSetRetryInterval }

def planSetContains (s : SetStore) (setId modelGroupId : ℕ) : Bool :=
  s.cache.any (fun pairs => decide ((setId,modelGroupId)∈pairs))

/-- The bucket of a model group as the cache tells it. -/
def cachedModelBucket (s : SetStore) (plan : PlanSets) (modelGroupId : ℕ) : Bucket :=
  if plan.basicSetId≠0 ∧ planSetContains s plan.basicSetId modelGroupId = true then .basic else .premium

def validatePlanModelSetMembers (t : SetTables) (members : List GroupRef) : Bool :=
  decide ((members.map GroupRef.id).Nodup) && members.all (fun g => (t.modelGroups.find? g.id).isSome)

def createMembers (m : Table PlanModelSetMember) (setId : ℕ) (members : List GroupRef) : Table PlanModelSetMember :=
  members.foldl (fun m g => m.insert ⟨setId,g⟩) m

def addPlanModelSet (s : SetStore) (set : PlanModelSet) (members : List GroupRef) (reloads : Bool) : Option SetStore :=
  if validatePlanModelSetMembers s.tables members then
    some (invalidatePlanModelSetCache { s with tables := { s.tables with
      planModelSets := s.tables.planModelSets.insert set
      planModelSetMembers := createMembers s.tables.planModelSetMembers s.tables.planModelSets.next members } } reloads)
  else none

/-- A set that exists, with all its members replaced. -/
def updatePlanModelSet (s : SetStore) (id : ℕ) (set : PlanModelSet) (members : List GroupRef) (reloads : Bool) :
    Option SetStore :=
  if (s.tables.planModelSets.find? id).isSome ∧ validatePlanModelSetMembers s.tables members = true then
    some (invalidatePlanModelSetCache { s with tables := { s.tables with
      planModelSets := s.tables.planModelSets.set id set
      planModelSetMembers :=
        createMembers (s.tables.planModelSetMembers.deleteWhere (fun r => r.2.setId=id)) id members } } reloads)
  else none

/-- A set that a plan refers to is not deleted. -/
def deletePlanModelSetById (s : SetStore) (id : ℕ) (reloads : Bool) : Option SetStore :=
  if 0 < s.plans.count (fun r => r.2.premiumSetId=id ∨ r.2.basicSetId=id) then none
  else some (invalidatePlanModelSetCache { s with tables := { s.tables with
    planModelSets := s.tables.planModelSets.delete id
    planModelSetMembers := s.tables.planModelSetMembers.deleteWhere (fun r => r.2.setId=id) } } reloads)

def validatePlanModelSetId (s : SetStore) (id : ℕ) : Bool := id == 0 || (s.tables.planModelSets.find? id).isSome

/-- A plan is created, or the one under a key is given other sets. -/
def savePlanSets (s : SetStore) (key : Option ℕ) (p : PlanSets) : Option SetStore :=
  if validatePlanModelSetId s p.premiumSetId ∧ validatePlanModelSetId s p.basicSetId = true then
    some { s with plans := key.elim (s.plans.insert p) (fun k => s.plans.set k p) }
  else none

inductive SetOp
  | add (set : PlanModelSet) (members : List GroupRef) (reloads : Bool)
  | update (id : ℕ) (set : PlanModelSet) (members : List GroupRef) (reloads : Bool)
  | delete (id : ℕ) (reloads : Bool)
  | savePlan (key : Option ℕ) (p : PlanSets)
  | lookup (now : ℤ) (reloads : Bool)

def setSystem : TxSystem SetStore SetOp Empty where
  step s
    | .add set members reloads => (addPlanModelSet s set members reloads).map (·,[])
    | .update id set members reloads => (updatePlanModelSet s id set members reloads).map (·,[])
    | .delete id reloads => (deletePlanModelSetById s id reloads).map (·,[])
    | .savePlan key p => (savePlanSets s key p).map (·,[])
    | .lookup now reloads => some (ensurePlanModelSetCache s now reloads,[])

/-- The reload that follows a write succeeds; the first fill of the cache may fail. -/
def SetOp.Reloads : SetOp → Prop
  | .add _ _ reloads => reloads = true
  | .update _ _ _ reloads => reloads = true
  | .delete _ reloads => reloads = true
  | _ => True

/-! ## Invariants -/

/-- The cache, once filled, holds what the tables say, and no plan refers to a set that is gone. -/
structure SetsSound (s : SetStore) : Prop where
  cached : ∀pairs,s.cache = some pairs → ∀setId gid,(setId,gid)∈pairs ↔ gid∈planSetGroupIds s.tables setId
  planned : ∀k p,s.plans.find? k = some p →
    validatePlanModelSetId s p.premiumSetId = true ∧ validatePlanModelSetId s p.basicSetId = true

section
variable {s s' : SetStore}

lemma mem_reloadPlanModelSetCache (t : SetTables) (setId gid : ℕ) :
    (setId,gid)∈reloadPlanModelSetCache t ↔ gid∈planSetGroupIds t setId := by
  unfold reloadPlanModelSetCache planSetGroupIds
  simp only [List.mem_map,List.mem_filter,Prod.mk.injEq]
  constructor
  · rintro ⟨r,⟨hr,he⟩,rfl,rfl⟩
    cases hset : t.planModelSets.find? r.2.setId with
    | none => simp [hset] at he
    | some set =>
      rw [hset,Option.any_some] at he
      dsimp only
      rw [if_pos he]
      exact List.mem_map.mpr ⟨r.2,List.mem_filter.mpr ⟨List.mem_map_of_mem hr,by simp⟩,rfl⟩
  · intro h
    cases hset : t.planModelSets.find? setId with
    | none => simp [hset] at h
    | some set =>
      rw [hset] at h
      dsimp only at h
      split_ifs at h with hen
      · obtain ⟨m,hm,rfl⟩ := List.mem_map.mp h
        obtain ⟨hm,hid⟩ := List.mem_filter.mp hm
        obtain ⟨r,hr,rfl⟩ := List.mem_map.mp hm
        have hid' : r.2.setId=setId := by simpa using hid
        exact ⟨r,⟨hr,by simp [hid',hset,hen]⟩,hid',rfl⟩
      · cases h

/-- A write that is followed by a reload is sound if it leaves the sets that plans refer to. -/
lemma SetsSound.reload {s : SetStore} (h : ∀k p,s.plans.find? k = some p →
    validatePlanModelSetId s p.premiumSetId = true ∧ validatePlanModelSetId s p.basicSetId = true) :
    SetsSound (invalidatePlanModelSetCache s true) := by
  refine ⟨?_,h⟩
  rintro pairs ⟨⟩ setId gid
  exact mem_reloadPlanModelSetCache s.tables setId gid

lemma validate_mono {id : ℕ} (h : (s.tables.planModelSets.find? id).isSome = true →
    (s'.tables.planModelSets.find? id).isSome = true) (hv : validatePlanModelSetId s id = true) :
    validatePlanModelSetId s' id = true := by
  unfold validatePlanModelSetId at *
  rw [Bool.or_eq_true] at *
  exact hv.imp_right h

/-- Only the deletion of a set takes one away, and it is refused while a plan refers to the set. -/
theorem SetsSound.step {op : SetOp} {es : List Empty} (h : SetsSound s) (hr : op.Reloads)
    (hs : setSystem.step s op = some (s',es)) : SetsSound s' := by
  cases op with
  | add set members reloads =>
    obtain ⟨s1,h1,⟨⟩⟩ := Option.map_eq_some_iff.mp hs
    unfold addPlanModelSet at h1
    split_ifs at h1
    obtain rfl := Option.some.inj h1
    obtain rfl : reloads = true := hr
    have hkept : ∀id,(s.tables.planModelSets.find? id).isSome = true →
        ((s.tables.planModelSets.insert set).find? id).isSome = true := fun id hid => by
      obtain ⟨b,hb⟩ := Option.isSome_iff_exists.mp hid
      rw [Table.find?_insert_of_some set hb]
      rfl
    exact SetsSound.reload fun k p hp => (h.planned k p hp).imp (validate_mono (hkept _)) (validate_mono (hkept _))
  | update id set members reloads =>
    obtain ⟨s1,h1,⟨⟩⟩ := Option.map_eq_some_iff.mp hs
    unfold updatePlanModelSet at h1
    split_ifs at h1
    obtain rfl := Option.some.inj h1
    obtain rfl : reloads = true := hr
    have hkept : ∀j,(s.tables.planModelSets.find? j).isSome = true →
        ((s.tables.planModelSets.set id set).find? j).isSome = true := fun j hj => by
      simpa [Table.set] using hj
    exact SetsSound.reload fun k p hp => (h.planned k p hp).imp (validate_mono (hkept _)) (validate_mono (hkept _))
  | delete id reloads =>
    obtain ⟨s1,h1,⟨⟩⟩ := Option.map_eq_some_iff.mp hs
    unfold deletePlanModelSetById at h1
    split_ifs at h1 with hfree
    obtain rfl := Option.some.inj h1
    obtain rfl : reloads = true := hr
    rw [Table.count,List.length_pos_iff,not_not,Table.select_eq_nil_iff] at hfree
    have hkept : ∀j,j≠id → (s.tables.planModelSets.find? j).isSome = true →
        ((s.tables.planModelSets.delete id).find? j).isSome = true := fun j hj hsome => by
      rwa [Table.find?_delete,if_neg hj]
    refine SetsSound.reload fun k p hp => ?_
    have hne := of_decide_eq_false (hfree k p hp)
    exact (h.planned k p hp).imp (validate_mono (hkept _ fun he => hne (.inl he)))
      (validate_mono (hkept _ fun he => hne (.inr he)))
  | savePlan key p =>
    obtain ⟨s1,h1,⟨⟩⟩ := Option.map_eq_some_iff.mp hs
    unfold savePlanSets at h1
    split_ifs at h1 with hv
    obtain rfl := Option.some.inj h1
    refine ⟨h.cached,fun k q hq => ?_⟩
    cases key with
    | none =>
      dsimp only [Option.elim_none] at hq
      rw [Table.find?_insert] at hq
      split_ifs at hq
      · obtain rfl := Option.some.inj hq
        exact hv
      · exact h.planned k q hq
    | some j =>
      dsimp only [Option.elim_some] at hq
      rw [Table.set,Table.find?_mapRows] at hq
      obtain ⟨b,hb,hbq⟩ := Option.map_eq_some_iff.mp hq
      split_ifs at hbq
      · exact hbq ▸ hv
      · exact hbq ▸ h.planned k b hb
  | lookup now reloads =>
    obtain ⟨rfl,-⟩ := Prod.mk.inj (Option.some.inj hs)
    unfold ensurePlanModelSetCache
    split_ifs
    · exact h
    · exact h
    · exact SetsSound.reload h.planned
    · exact ⟨h.cached,h.planned⟩

/-- Where the cache is filled, it names the bucket that the tables name. -/
lemma SetsSound.bucket (h : SetsSound s) (hc : s.cache.isSome = true) (plan : PlanSets) {gid : ℕ} (hg : 0 < gid) :
    cachedModelBucket s plan gid = resolveModelBucket s.tables plan gid "" := by
  obtain ⟨pairs,hp⟩ := Option.isSome_iff_exists.mp hc
  have hmem := h.cached pairs hp plan.basicSetId gid
  unfold cachedModelBucket resolveModelBucket setContainsModel planSetContains
  rw [hp,if_pos hg]
  by_cases hz : plan.basicSetId=0
  · simp [hz]
  · simp [hz,hmem]

end

/-- In every state of every run from an empty cache in which the reload after each write succeeds, while the first fill
may fail any number of times: a filled cache names for every plan and model group the bucket that the tables name, an
empty one the premium bucket, and every stored plan refers to sets that exist, or to none. -/
theorem planModelSets_sound (tables : SetTables) (now : ℤ) (ops : List SetOp) (hops : ∀op∈ops,op.Reloads) :
    setSystem.Always (fun c =>
      (∀plan gid,0<gid → cachedModelBucket c.state plan gid =
        if c.state.cache.isSome then resolveModelBucket c.state.tables plan gid "" else .premium) ∧
      ∀k p,c.state.plans.find? k = some p →
        validatePlanModelSetId c.state p.premiumSetId = true ∧ validatePlanModelSetId c.state p.basicSetId = true)
      ⟨⟨tables,.empty,none,now⟩,[]⟩ ops := by
  have hempty : SetsSound ⟨tables,.empty,none,now⟩ := ⟨nofun,fun k p hp => by simp at hp⟩
  refine (always_of_guarded (P := fun c => SetsSound c.state) hempty (fun d op s es h hr hs => h.step hr hs)
    (guarded_of_forall fun op hop _ => hops op hop)).mono fun c h => ⟨fun plan gid hg => ?_,h.planned⟩
  split_ifs with hc
  · exact h.bucket hc plan hg
  · rw [Bool.not_eq_true,Option.isSome_eq_false_iff,Option.isNone_iff_eq_none] at hc
    simp [cachedModelBucket,planSetContains,hc]

/-- A first fill that fails, a set with one group, and a plan that refers to it. -/
theorem planModelSets_sound_basic : setSystem.Always (fun c =>
      ∀plan gid,0<gid → cachedModelBucket c.state plan gid =
        if c.state.cache.isSome then resolveModelBucket c.state.tables plan gid "" else .premium)
    ⟨⟨⟨⟨Table.empty.insert ⟨true⟩,.empty⟩,.empty,.empty⟩,.empty,none,0⟩,[]⟩
    [.lookup 0 false,.add ⟨true⟩ [⟨1,by decide,by decide⟩] true,.savePlan none ⟨0,1⟩] :=
  (planModelSets_sound ⟨⟨Table.empty.insert ⟨true⟩,.empty⟩,.empty,.empty⟩ 0
    [.lookup 0 false,.add ⟨true⟩ [⟨1,by decide,by decide⟩] true,.savePlan none ⟨0,1⟩]
    (by simp [SetOp.Reloads])).mono fun _ h => h.1

end Relay
end Tierflow
