import Tierflow.Relay.SubscriptionGate

/-! Whether the bucket that a subscription is charged in is the bucket of the group that serves the request. -/
namespace Tierflow
namespace Relay
open RouteHealth (Manager)

variable {t : SetTables}

/-! ## Picking a group -/

lemma foldl_least_mem (ids : List ℕ) (best : ℕ) (h : best = 0 ∨ 0<best) :
    ids.foldl (fun best gid => if best = 0 ∨ gid<best then gid else best) best = best ∨
      ids.foldl (fun best gid => if best = 0 ∨ gid<best then gid else best) best∈ids := by
  induction ids generalizing best with
  | nil => exact .inl rfl
  | cons a ids ih =>
    rw [List.foldl_cons]
    split_ifs with hless
    · rcases ih a (Nat.eq_zero_or_pos a) with heq | hmem
      · rw [heq]
        exact .inr List.mem_cons_self
      · exact .inr (List.mem_cons_of_mem a hmem)
    · exact (ih best h).imp_right (List.mem_cons_of_mem a)

lemma mem_planSetGroupIds_range {setId gid : ℕ} (h : gid∈planSetGroupIds t setId) : 0<gid ∧ gid<2^63 := by
  unfold planSetGroupIds at h
  split at h
  · exact absurd h List.not_mem_nil
  · split_ifs at h
    · obtain ⟨r,-,rfl⟩ := List.mem_map.mp h
      exact ⟨r.modelGroupId.pos,r.modelGroupId.fits⟩
    · exact absurd h List.not_mem_nil

lemma planSetGroupIds_zero : planSetGroupIds t 0 = [] := by
  unfold planSetGroupIds
  rw [Table.find?_zero]

/-- The picked group is one of the set. -/
lemma pickSetModelGroup_mem {setId gid : ℕ} (h : pickSetModelGroup t setId = some gid) :
    gid∈planSetGroupIds t setId := by
  unfold pickSetModelGroup planSetMinGroupId at h
  simp only at h
  split_ifs at h with hpos
  rw [←Option.some.inj h]
  rcases foldl_least_mem (planSetGroupIds t setId) 0 (.inl rfl) with hzero | hmem
  · omega
  · exact hmem

/-- The picked group is referred to by what the gate writes. -/
lemma parseModelGroupRef_pick {setId gid : ℕ} (h : pickSetModelGroup t setId = some gid) :
    parseModelGroupRef (formatModelGroupRef gid) = some gid := by
  obtain ⟨hpos,hfits⟩ := mem_planSetGroupIds_range (pickSetModelGroup_mem h)
  exact parseModelGroupRef_format hpos hfits

lemma resolveModelBucket_eq_basic {plan : PlanSets} {gid : ℕ} (hpos : 0<gid) :
    resolveModelBucket t plan gid "" = .basic ↔ gid∈planSetGroupIds t plan.basicSetId := by
  unfold resolveModelBucket setContainsModel
  by_cases hset : plan.basicSetId = 0
  · simp [hset,planSetGroupIds_zero]
  · simp [hset,hpos]

/-- A group picked from the basic set is basic. -/
lemma bucket_of_pick_basic {plan : PlanSets} {gid : ℕ} (h : pickSetModelGroup t plan.basicSetId = some gid) :
    resolveModelBucket t plan gid "" = .basic := by
  have hmem := pickSetModelGroup_mem h
  exact (resolveModelBucket_eq_basic (mem_planSetGroupIds_range hmem).1).mpr hmem

lemma Bucket.eq_premium {b : Bucket} : b = .premium ↔ b≠.basic := by
  cases b <;> simp

/-! ## What the gate and the router do -/

/-- The ways in which the gate lets a request pass. -/
inductive Passes (t : SetTables) (plan : PlanSets) (balances : SubscriptionBucketBalances) (isLong : Bool)
    (tierValue : String) (d : GateResult) : Prop
  | kept (hd : d = ⟨tierValue,tierBucket t plan tierValue,"",false,true⟩)
      (hlong : isLong = true → balances.premiumAvailable = true →
        (pickSetModelGroup t plan.premiumSetId).isSome = true → tierBucket t plan tierValue = .premium)
  | raised (gid : ℕ) (hd : d = ⟨formatModelGroupRef gid,.premium,"long_context",false,true⟩)
      (hlong : isLong = true) (hpremium : balances.premiumAvailable = true)
      (htier : tierBucket t plan tierValue = .basic) (hpick : pickSetModelGroup t plan.premiumSetId = some gid)
  | lowered (gid : ℕ) (hd : d = ⟨formatModelGroupRef gid,.basic,"premium_exhausted",false,true⟩)
      (hpremium : balances.premiumAvailable = false) (hbasic : balances.basicAvailable = true)
      (hpick : pickSetModelGroup t plan.basicSetId = some gid)

lemma gateDecision_passes {plan : PlanSets} {balances : SubscriptionBucketBalances} {isLong : Bool}
    {tierValue : String} (h : (gateDecision t plan balances isLong tierValue).aborted = false) :
    Passes t plan balances isLong tierValue (gateDecision t plan balances isLong tierValue) := by
  have hkept : gateDecision t plan balances isLong tierValue =
      ⟨tierValue,tierBucket t plan tierValue,"",false,true⟩ →
        (isLong = true → balances.premiumAvailable = true →
          (pickSetModelGroup t plan.premiumSetId).isSome = true → tierBucket t plan tierValue = .premium) →
            Passes t plan balances isLong tierValue (gateDecision t plan balances isLong tierValue) :=
    fun hd hlong => .kept hd hlong
  cases isLong with
  | true =>
    cases hp : balances.premiumAvailable with
    | false =>
      simp [gateDecision,hp] at h
    | true =>
      cases hb : tierBucket t plan tierValue with
      | premium => exact hkept (by simp [gateDecision,hp,hb]) (fun _ _ _ => hb)
      | basic =>
        cases hpick : pickSetModelGroup t plan.premiumSetId with
        | some gid => exact .raised gid (by simp [gateDecision,hp,hb,hpick]) rfl hp hb hpick
        | none =>
          refine hkept (by simp [gateDecision,hp,hb,hpick]) (fun _ _ hsome => ?_)
          rw [hpick] at hsome
          cases hsome
  | false =>
    have hshort : false = true → balances.premiumAvailable = true →
        (pickSetModelGroup t plan.premiumSetId).isSome = true → tierBucket t plan tierValue = .premium :=
      fun hf => absurd hf Bool.false_ne_true
    cases hp : balances.premiumAvailable with
    | true => exact hkept (by simp [gateDecision,hp]) hshort
    | false =>
      cases hb : tierBucket t plan tierValue with
      | basic => exact hkept (by simp [gateDecision,hp,hb]) hshort
      | premium =>
        cases hbasic : balances.basicAvailable with
        | false => exact hkept (by simp [gateDecision,hp,hb,hbasic]) hshort
        | true =>
          cases hpick : pickSetModelGroup t plan.basicSetId with
          | some gid => exact .lowered gid (by simp [gateDecision,hp,hb,hbasic,hpick]) hp hbasic hpick
          | none => exact hkept (by simp [gateDecision,hp,hb,hbasic,hpick]) hshort

/-- A group serves what refers to it, if it has members. -/
lemma modelGroupId_routeToTier {g : GroupTables} {m : Manager} {bodyWritten : Bool} {requestedModel tierValue : String}
    {groupId : ℕ} : (routeToTier g m bodyWritten requestedModel tierValue).modelGroupId = some groupId ↔
      parseModelGroupRef tierValue = some groupId ∧ getOrderedModelGroupMembers g groupId≠[] := by
  unfold routeToTier
  cases hparse : parseModelGroupRef tierValue with
  | none =>
    simp only [reduceCtorEq,false_and,iff_false]
    split_ifs <;> exact fun h => nomatch h
  | some gid =>
    simp only [Option.some.injEq]
    unfold routeToGroup
    simp only
    cases hpick : pickModelGroupMember m (getOrderedModelGroupMembers g gid) [] with
    | none =>
      constructor
      · exact fun h => nomatch h
      · rintro ⟨rfl,hne⟩
        obtain ⟨member,hmember⟩ := exists_pickModelGroupMember m [] hne
        rw [hpick] at hmember
        cases hmember
    | some member =>
      simp only [Option.some.injEq]
      constructor
      · rintro rfl
        exact ⟨rfl,List.ne_nil_of_mem (pickModelGroupMember_mem hpick)⟩
      · exact fun h => h.1

/-- What the gate has resolved is what the session charges. -/
lemma chargedBucket_of_name {reads : SubscriptionReads} {endpoint : Endpoint} {r : RoutedRequest} {env : BillingEnv}
    {info : RelayInfo} (b : Bucket) : chargedBucket t reads endpoint ⟨r,b.name⟩ env info = b := by
  cases b <;> rfl

lemma chargedBucket_of_empty {reads : SubscriptionReads} {endpoint : Endpoint} {r : RoutedRequest} {env : BillingEnv}
    {info : RelayInfo} : chargedBucket t reads endpoint ⟨r,""⟩ env info =
      resolveBucketForUserSubscription t reads (getModelRequest endpoint r.model) := rfl

/-- The session of a subscription's key charges the bucket it came to. -/
lemma bucket_newBillingSession {env : BillingEnv} {info : RelayInfo} {preConsumedQuota : ℕ} {d d' : Desk}
    {b : BillingSession} (happliance : env.applianceMode = false) (hkey : 0 < info.tokenSubscriptionId)
    (h : newBillingSession env info preConsumedQuota d = (d',.ok b)) :
    ∃ sf, b.funding = .subscription sf ∧ sf.bucket = sessionBucket env info := by
  unfold newBillingSession at h
  rw [happliance,if_neg Bool.false_ne_true,if_pos hkey] at h
  unfold BillingSession.preConsume at h
  simp only [BillingSession.ofFunding,FundingSource.preConsume] at h
  split at h
  · exact nomatch (Prod.mk.inj h).2
  · split at h
    · exact nomatch (Prod.mk.inj h).2
    · rename_i hfunding
      split at hfunding
      · exact nomatch (Prod.mk.inj hfunding).2
      · obtain rfl := Except.ok.inj (Prod.mk.inj hfunding).2
        obtain rfl := Except.ok.inj (Prod.mk.inj h).2
        exact ⟨_,rfl,rfl⟩

/-! ## Agreement -/

/-- The plan and the balances of a subscription as they are. -/
structure SubscriptionState where
  planId : ℕ
  plan : PlanSets
  balances : SubscriptionBucketBalances

/-- Which reads of the state fail. -/
structure ReadFailures where
  planInfo : Bool
  plan : Bool
  balances : Bool

def SubscriptionState.reads (v : SubscriptionState) (f : ReadFailures) : SubscriptionReads where
  planId := if f.planInfo then none else some v.planId
  plan := if f.plan then none else some v.plan
  balances := if f.balances then none else some v.balances

/-- The bucket charged is the serving group's; no group of the basic set serves a long context while a premium
group is there with quota left; and premium gives way to basic only where that is available. -/
structure Agrees (t : SetTables) (v : SubscriptionState) (isLong : Bool) (tierValue : String) (groupId : ℕ)
    (charged : Bucket) : Prop where
  charged : charged = resolveModelBucket t v.plan groupId ""
  longContext : isLong = true → v.balances.premiumAvailable = true →
    (pickSetModelGroup t v.plan.premiumSetId).isSome = true → resolveModelBucket t v.plan groupId "" = .premium
  fallback : tierBucket t v.plan tierValue = .premium → resolveModelBucket t v.plan groupId "" = .basic →
    v.balances.basicAvailable = true

/-- The gate can read what it needs. -/
def Readable (v : SubscriptionState) (f : ReadFailures) : Prop :=
  f.planInfo = false ∧ f.plan = false ∧ f.balances = false ∧ v.planId≠0

lemma reads_of_readable {v : SubscriptionState} {f : ReadFailures} (h : Readable v f) :
    (v.reads f).planSets = some v.plan ∧ (v.reads f).balances = some v.balances := by
  obtain ⟨h1,h2,h3,h4⟩ := h
  simp [SubscriptionReads.planSets,SubscriptionState.reads,h1,h2,h3,h4]

lemma reads_of_not_readable {v : SubscriptionState} {f : ReadFailures} (h : ¬Readable v f) :
    (v.reads f).planSets = none ∨ (v.reads f).balances = none := by
  by_contra hcon
  push Not at hcon
  apply h
  obtain ⟨hplan,hbalances⟩ := hcon
  unfold SubscriptionReads.planSets SubscriptionState.reads at hplan
  unfold SubscriptionState.reads at hbalances
  simp only at hplan hbalances
  refine ⟨?_,?_,?_,?_⟩
  · by_contra hf
    rw [if_pos (Bool.eq_true_of_not_eq_false hf)] at hplan
    exact hplan rfl
  · by_contra hf
    rw [if_pos (Bool.eq_true_of_not_eq_false hf)] at hplan
    split at hplan
    · contradiction
    · split_ifs at hplan <;> contradiction
  · by_contra hf
    rw [if_pos (Bool.eq_true_of_not_eq_false hf)] at hbalances
    exact hbalances rfl
  · intro hzero
    split at hplan
    · contradiction
    · rename_i id hid
      by_cases hf : f.planInfo = true
      · rw [if_pos hf] at hid
        cases hid
      · rw [if_neg hf,hzero] at hid
        rw [if_pos (Option.some.inj hid).symm] at hplan
        exact hplan rfl

/-- When gate and billing agree. Where the gate could read plan and balances: unless a long context on a basic
tier is raised to a group that the basic set contains too. Where it could not: if the model's name leads billing
to the bucket of the tier's group, and a long context has no premium group to be raised to. -/
def AgreeWhen (t : SetTables) (v : SubscriptionState) (f : ReadFailures) (billing : SubscriptionReads) (isLong : Bool)
    (m : Manager) (bodyWritten : Bool) (requestedModel tierValue : String) (endpoint : Endpoint) : Prop :=
  (Readable v f → ∀ gid, isLong = true → v.balances.premiumAvailable = true →
    tierBucket t v.plan tierValue = .basic → pickSetModelGroup t v.plan.premiumSetId = some gid →
      getOrderedModelGroupMembers t.toGroupTables gid≠[] → gid∉planSetGroupIds t v.plan.basicSetId) ∧
  (¬Readable v f → ∀ gid, parseModelGroupRef tierValue = some gid →
    getOrderedModelGroupMembers t.toGroupTables gid≠[] →
      resolveBucketForUserSubscription t billing (getModelRequest endpoint
        (routeToGroup t.toGroupTables m bodyWritten requestedModel gid).model) = resolveModelBucket t v.plan gid "" ∧
        (isLong = true → v.balances.premiumAvailable = true →
          (pickSetModelGroup t v.plan.premiumSetId).isSome = true → resolveModelBucket t v.plan gid "" = .premium))

section
variable {cfg : GateSettings} {v : SubscriptionState} {f : ReadFailures} {billing : SubscriptionReads} {m : Manager}
  {bodyWritten : Bool} {requestedModel tierValue : String} {body : RequestBody} {endpoint : Endpoint}
  {env : BillingEnv} {info : RelayInfo}

/-- A readable request is routed by the gate's decision. -/
lemma autoRoute_of_readable (cfg : GateSettings) (m : Manager) (bodyWritten : Bool) (requestedModel : String)
    (h : Readable v f)
    (hpass : (gateDecision t v.plan v.balances (longContext cfg body) tierValue).aborted = false) :
    autoRoute cfg t m bodyWritten (v.reads f) requestedModel tierValue body = some
      ⟨routeToTier t.toGroupTables m bodyWritten requestedModel
        (gateDecision t v.plan v.balances (longContext cfg body) tierValue).tierValue,
        (gateDecision t v.plan v.balances (longContext cfg body) tierValue).bucket.name⟩ := by
  have hresolved : (gateDecision t v.plan v.balances (longContext cfg body) tierValue).resolved = true := by
    rcases gateDecision_passes hpass with ⟨hd,-⟩ | ⟨gid,hd,-⟩ | ⟨gid,hd,-⟩ <;> rw [hd]
  obtain ⟨hplan,hbalances⟩ := reads_of_readable h
  unfold autoRoute applySubscriptionGate
  simp only [hplan,hbalances,hpass,hresolved,Bool.false_eq_true,if_false,if_true]

lemma not_aborted_of_autoRoute (h : Readable v f) {out : GatedRequest}
    (hout : autoRoute cfg t m bodyWritten (v.reads f) requestedModel tierValue body = some out) :
    (gateDecision t v.plan v.balances (longContext cfg body) tierValue).aborted = false := by
  obtain ⟨hplan,hbalances⟩ := reads_of_readable h
  unfold autoRoute applySubscriptionGate at hout
  simp only [hplan,hbalances] at hout
  by_contra habort
  rw [if_pos (Bool.eq_true_of_not_eq_false habort)] at hout
  cases hout

/-- An unreadable request is routed as its tier says. -/
lemma autoRoute_of_not_readable (cfg : GateSettings) (t : SetTables) (m : Manager) (bodyWritten : Bool)
    (requestedModel tierValue : String) (body : RequestBody) (h : ¬Readable v f) :
    autoRoute cfg t m bodyWritten (v.reads f) requestedModel tierValue body =
      some ⟨routeToTier t.toGroupTables m bodyWritten requestedModel tierValue,""⟩ := by
  have hgate : applySubscriptionGate cfg t (v.reads f) tierValue body = ⟨tierValue,.premium,"",false,false⟩ := by
    unfold applySubscriptionGate
    rcases reads_of_not_readable h with hnone | hnone
    · rw [hnone]
    · rw [hnone]
      cases (v.reads f).planSets <;> rfl
  unfold autoRoute
  simp only [hgate,Bool.false_eq_true,if_false]

lemma tierBucket_of_ref (t : SetTables) (plan : PlanSets) {gid : ℕ} (h : parseModelGroupRef tierValue = some gid) :
    tierBucket t plan tierValue = resolveModelBucket t plan gid "" := by
  unfold tierBucket
  rw [h]

/-- What the gate lets pass is charged in the bucket of the serving group, unless it was raised to a basic one. -/
lemma Passes.agrees {d : GateResult} {isLong : Bool} {r : RoutedRequest} {groupId : ℕ}
    (h : Passes t v.plan v.balances isLong tierValue d) (hparse : parseModelGroupRef d.tierValue = some groupId)
    (hraised : isLong = true → v.balances.premiumAvailable = true → tierBucket t v.plan tierValue = .basic →
      pickSetModelGroup t v.plan.premiumSetId = some groupId → groupId∉planSetGroupIds t v.plan.basicSetId) :
    Agrees t v isLong tierValue groupId (chargedBucket t billing endpoint ⟨r,d.bucket.name⟩ env info) := by
  rw [chargedBucket_of_name]
  cases h with
  | kept hd hlong =>
    have hvalue : d.tierValue = tierValue := by rw [hd]
    have hbucket : d.bucket = tierBucket t v.plan tierValue := by rw [hd]
    rw [hvalue] at hparse
    have htier := tierBucket_of_ref t v.plan hparse
    rw [hbucket,htier]
    refine ⟨rfl,?_,?_⟩
    · intro h1 h2 h3
      rw [←htier]
      exact hlong h1 h2 h3
    · intro h1 h2
      rw [htier,h2] at h1
      cases h1
  | raised gid hd hlong hpremium htier hpick =>
    have hvalue : d.tierValue = formatModelGroupRef gid := by rw [hd]
    have hbucket : d.bucket = .premium := by rw [hd]
    rw [hvalue,parseModelGroupRef_pick hpick] at hparse
    obtain rfl := Option.some.inj hparse
    have hpos := (mem_planSetGroupIds_range (pickSetModelGroup_mem hpick)).1
    have hserving : resolveModelBucket t v.plan gid "" = .premium := by
      rw [Bucket.eq_premium,ne_eq,resolveModelBucket_eq_basic hpos]
      exact hraised hlong hpremium htier hpick
    rw [hbucket]
    refine ⟨hserving.symm,fun _ _ _ => hserving,?_⟩
    intro h1 _
    rw [htier] at h1
    cases h1
  | lowered gid hd hpremium hbasic hpick =>
    have hvalue : d.tierValue = formatModelGroupRef gid := by rw [hd]
    have hbucket : d.bucket = .basic := by rw [hd]
    rw [hvalue,parseModelGroupRef_pick hpick] at hparse
    obtain rfl := Option.some.inj hparse
    rw [hbucket]
    refine ⟨(bucket_of_pick_basic hpick).symm,?_,fun _ _ => hbasic⟩
    intro _ h2
    rw [hpremium] at h2
    cases h2

end

/-- Gate and billing agree on every request that a group serves exactly under that condition, whatever the sets
of the plan, the balances and the reads that fail. -/
theorem gate_agrees_iff (cfg : GateSettings) (t : SetTables) (v : SubscriptionState) (f : ReadFailures)
    (billing : SubscriptionReads) (m : Manager) (bodyWritten : Bool) (requestedModel tierValue : String)
    (body : RequestBody) (endpoint : Endpoint) (env : BillingEnv) (info : RelayInfo) :
    (∀ out groupId, autoRoute cfg t m bodyWritten (v.reads f) requestedModel tierValue body = some out →
      out.routed.modelGroupId = some groupId →
        Agrees t v (longContext cfg body) tierValue groupId (chargedBucket t billing endpoint out env info)) ↔
      AgreeWhen t v f billing (longContext cfg body) m bodyWritten requestedModel tierValue endpoint := by
  unfold AgreeWhen
  by_cases hread : Readable v f
  · rw [and_iff_left (fun hn => absurd hread hn),forall_prop_of_true hread]
    constructor
    · intro h gid hlong hpremium htier hpick hmembers hbasic
      have hraised : gateDecision t v.plan v.balances (longContext cfg body) tierValue =
          ⟨formatModelGroupRef gid,.premium,"long_context",false,true⟩ := by
        simp [gateDecision,hlong,hpremium,htier,hpick]
      have hvalue : (gateDecision t v.plan v.balances (longContext cfg body) tierValue).tierValue =
          formatModelGroupRef gid := by
        rw [hraised]
      have hroute := autoRoute_of_readable cfg m bodyWritten requestedModel hread (by rw [hraised])
      have hserved : (routeToTier t.toGroupTables m bodyWritten requestedModel
          (formatModelGroupRef gid)).modelGroupId = some gid :=
        modelGroupId_routeToTier.mpr ⟨parseModelGroupRef_pick hpick,hmembers⟩
      rw [hvalue] at hroute
      have hcharged := (h _ gid hroute hserved).charged
      have hpos := (mem_planSetGroupIds_range (pickSetModelGroup_mem hpick)).1
      rw [chargedBucket_of_name,hraised,(resolveModelBucket_eq_basic hpos).mpr hbasic] at hcharged
      cases hcharged
    · intro h out groupId hout hserved
      have hpass := not_aborted_of_autoRoute hread hout
      rw [autoRoute_of_readable cfg m bodyWritten requestedModel hread hpass] at hout
      rw [←Option.some.inj hout] at hserved ⊢
      dsimp only at hserved
      obtain ⟨hparse,hmembers⟩ := modelGroupId_routeToTier.mp hserved
      apply (gateDecision_passes hpass).agrees hparse
      intro h1 h2 h3 h4
      exact h groupId h1 h2 h3 h4 hmembers
  · rw [and_iff_right (fun hr => absurd hr hread),forall_prop_of_true hread]
    have hroute := autoRoute_of_not_readable cfg t m bodyWritten requestedModel tierValue body hread
    have hsame : ∀ gid, parseModelGroupRef tierValue = some gid →
        routeToTier t.toGroupTables m bodyWritten requestedModel tierValue =
          routeToGroup t.toGroupTables m bodyWritten requestedModel gid := by
      intro gid hparse
      unfold routeToTier
      rw [hparse]
    constructor
    · intro h gid hparse hmembers
      have hserved : (routeToTier t.toGroupTables m bodyWritten requestedModel tierValue).modelGroupId = some gid :=
        modelGroupId_routeToTier.mpr ⟨hparse,hmembers⟩
      have hagrees := h _ gid hroute hserved
      rw [chargedBucket_of_empty,hsame gid hparse] at hagrees
      exact ⟨hagrees.charged,hagrees.longContext⟩
    · intro h out groupId hout hserved
      rw [hroute] at hout
      rw [←Option.some.inj hout] at hserved ⊢
      dsimp only at hserved
      obtain ⟨hparse,hmembers⟩ := modelGroupId_routeToTier.mp hserved
      obtain ⟨hcharged,hlong⟩ := h groupId hparse hmembers
      rw [chargedBucket_of_empty,hsame groupId hparse]
      refine ⟨hcharged,hlong,?_⟩
      intro h1 h2
      rw [tierBucket_of_ref t v.plan hparse,h2] at h1
      cases h1

/-- Group 1 is basic; group 2 is in both sets of the plan. -/
def overlappingSets : SetTables where
  modelGroups := (Table.empty.insert ⟨true⟩).insert ⟨true⟩
  modelGroupMembers := (Table.empty.insert ⟨1,1,"small",none⟩).insert ⟨2,2,"large",none⟩
  planModelSets := (Table.empty.insert ⟨true⟩).insert ⟨true⟩
  planModelSetMembers := ((Table.empty.insert ⟨1,⟨1,by decide,by decide⟩⟩).insert
    ⟨1,⟨2,by decide,by decide⟩⟩).insert ⟨2,⟨2,by decide,by decide⟩⟩

/-- A long request of the basic tier is raised to a group that is basic too, and charged as premium. -/
theorem overlappingSets_disagree :
    ¬∀ (cfg : GateSettings) (t : SetTables) (v : SubscriptionState) (f : ReadFailures) (billing : SubscriptionReads)
      (m : Manager) (bodyWritten : Bool) (requestedModel tierValue : String) (body : RequestBody) (endpoint : Endpoint)
      (env : BillingEnv) (info : RelayInfo) (out : GatedRequest) (groupId : ℕ),
        autoRoute cfg t m bodyWritten (v.reads f) requestedModel tierValue body = some out →
          out.routed.modelGroupId = some groupId → Agrees t v (longContext cfg body) tierValue groupId
            (chargedBucket t billing endpoint out env info) := by
  intro h
  let cfg : GateSettings := ⟨240000,1500⟩
  let v : SubscriptionState := ⟨1,⟨2,1⟩,⟨100,false,100,false,true⟩⟩
  let f : ReadFailures := ⟨false,false,false⟩
  let m : Manager := ⟨∅,RouteHealth.defaultConfig,0⟩
  let body : RequestBody := ⟨900000,some [.text],none⟩
  have hread : Readable v f := ⟨rfl,rfl,rfl,one_ne_zero⟩
  have hlong : longContext cfg body = true := by decide
  have htier : tierBucket overlappingSets v.plan "mg:1" = .basic := by decide
  have hpick : pickSetModelGroup overlappingSets v.plan.premiumSetId = some 2 := by decide
  have hmembers : getOrderedModelGroupMembers overlappingSets.toGroupTables 2≠[] := by decide
  have hraised : gateDecision overlappingSets v.plan v.balances (longContext cfg body) "mg:1" =
      ⟨formatModelGroupRef 2,.premium,"long_context",false,true⟩ := by
    rw [hlong]
    simp [gateDecision,htier,hpick,v,SubscriptionBucketBalances.premiumAvailable]
  have hroute := autoRoute_of_readable cfg m true "auto" hread (by rw [hraised])
  rw [hraised] at hroute
  have hserved : (routeToTier overlappingSets.toGroupTables m true "auto" (formatModelGroupRef 2)).modelGroupId =
      some 2 := modelGroupId_routeToTier.mpr ⟨parseModelGroupRef_pick hpick,hmembers⟩
  have hcharged := (h cfg overlappingSets v f (v.reads f) m true "auto" "mg:1" body (.body "") ⟨false,0,0,0,.premium⟩
    ⟨1,1,false,0,0,"r",false,1,"",10,0⟩ _ 2 hroute hserved).charged
  rw [chargedBucket_of_name] at hcharged
  have hserving : resolveModelBucket overlappingSets v.plan 2 "" = .basic := by decide
  rw [hserving] at hcharged
  cases hcharged

end Relay
end Tierflow
