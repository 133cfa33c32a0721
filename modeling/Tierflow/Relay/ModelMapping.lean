import Tierflow.Foundation.Chains
import Tierflow.Foundation.Keyed
import Tierflow.Foundation.Loop
import Tierflow.Relay.Distribute

/-! The model that a channel is asked for. A channel maps models to models, link by link, and the request of each
attempt starts from the model that the attempt before left in the record of the request. -/
namespace Tierflow
namespace Relay
namespace ModelMapping
open Chains Relation

/-! ## The walk along a mapping -/

abbrev ModelMap := Keyed String String

/-- Why the walk stopped: no further target, a cycle, or the client's model mapped to itself. -/
inductive WalkEnd
  | chainEnd
  | cycle
  | sameModel
  deriving DecidableEq, Repr

structure Walk where
  currentModel : String
  visitedModels : List String
  isModelMapped : Bool
  ended : WalkEnd
  deriving DecidableEq, Repr

def walkPass (modelMap : ModelMap) (originModelName : String) (s : Walk) : Pass Walk :=
  match (modelMap.find? s.currentModel).filter (fun m => m≠"") with
  | none => .done s
  | some mappedModel =>
    if mappedModel∈s.visitedModels then
      if mappedModel = s.currentModel then
        if s.currentModel = originModelName then .done { s with isModelMapped := false, ended := .sameModel }
        else .done { s with isModelMapped := true }
      else .done { s with ended := .cycle }
    else .next { s with currentModel := mappedModel, visitedModels := mappedModel::s.visitedModels, isModelMapped := true }

/-- A walk never takes more links than the mapping has. -/
def walk (modelMap : ModelMap) (originModelName mappingModelName : String) (isModelMapped : Bool) : Option Walk :=
  runLoop (fun _ => walkPass modelMap originModelName) (modelMap.rows.length+1) 0
    ⟨mappingModelName,[mappingModelName],isModelMapped,.chainEnd⟩

/-! ## The helper -/

inductive RelayMode
  | unknown | chatCompletions | completions | embeddings | moderations | imagesGenerations | imagesEdits | edits
  | audioSpeech | audioTranscription | audioTranslation | rerank | responses | realtime | gemini | responsesCompact
  deriving DecidableEq, Repr

inductive MappingError
  | unmarshalFailed
  | containsCycle
  deriving DecidableEq, Repr

/-- The names of models in the record of a request and in the request for the channel. -/
structure MappedInfo where
  originModelName : String
  upstreamModelName : String
  isModelMapped : Bool
  requestModel : String
  deriving DecidableEq, Repr

def trimCompactSuffix (modelName : String) : String := (Text.cutSuffix modelName compactModelSuffix).getD modelName

def mappingModelName (mode : RelayMode) (originModelName : String) : String :=
  if mode = .responsesCompact then trimCompactSuffix originModelName else originModelName

/-- The end of the helper. -/
def setModelNames (mode : RelayMode) (mappingName : String) (info : MappedInfo) : MappedInfo :=
  let info := if mode = .responsesCompact then
      let finalUpstreamModelName :=
        if info.isModelMapped ∧ info.upstreamModelName≠"" then info.upstreamModelName else mappingName
      { info with
        upstreamModelName := finalUpstreamModelName
        originModelName := withCompactModelSuffix finalUpstreamModelName }
    else info
  { info with requestModel := info.upstreamModelName }

/-- The helper after the walk. -/
def afterWalk (mode : RelayMode) (mappingName : String) (info : MappedInfo) (w : Walk) :
    Except MappingError MappedInfo :=
  match w.ended with
  | .cycle => .error .containsCycle
  | .sameModel => .ok { info with isModelMapped := false }
  | .chainEnd => .ok (setModelNames mode mappingName { info with
      isModelMapped := w.isModelMapped
      upstreamModelName := if w.isModelMapped then w.currentModel else info.upstreamModelName })

/-- `unmarshal` reads the JSON text of a mapping. -/
def modelMappedHelper (unmarshal : String → Option ModelMap) (mode : RelayMode) (modelMapping : String)
    (info : MappedInfo) : Option (Except MappingError MappedInfo) :=
  let mappingName := mappingModelName mode info.originModelName
  if modelMapping≠"" ∧ modelMapping≠"\x7b\x7d" then
    match unmarshal modelMapping with
    | none => some (.error .unmarshalFailed)
    | some modelMap =>
      (walk modelMap info.originModelName mappingName info.isModelMapped).map (afterWalk mode mappingName info)
  else some (.ok (setModelNames mode mappingName info))

/-! ## Attempts -/

/-- What all attempts of a request have in common; `noThinking` tells that the thinking adapter is on and the request
asks for a budget of zero. -/
structure MappedRequest where
  relayMode : RelayMode
  noThinking : Bool
  hasModelBillingConfig : String → Bool

/-- The Gemini handler goes on under the name of the model without thinking if that has a price. -/
def MappedRequest.rename (R : MappedRequest) (originModelName : String) : String :=
  if R.relayMode = .gemini ∧ R.noThinking = true ∧ Text.contains originModelName "-nothinking" = false ∧
    R.hasModelBillingConfig (originModelName++"-nothinking") = true then originModelName++"-nothinking"
  else originModelName

/-- The model that the distributor writes into the record. -/
def MappedRequest.originModelName (R : MappedRequest) (model : String) : String :=
  getModelRequest (if R.relayMode = .responsesCompact then .compact else .modelPath model) model

/-- `InitChannelMeta` after the channel of the attempt was set up. -/
def initChannelMeta (originModelName : String) : MappedInfo := ⟨originModelName,originModelName,false,originModelName⟩

/-- The model that the record has after an attempt. -/
def MappedRequest.record (R : MappedRequest) (originModelName : String) : Except MappingError MappedInfo → String
  | .error _ => originModelName
  | .ok info => R.rename info.originModelName

def attempt (unmarshal : String → Option ModelMap) (R : MappedRequest) (originModelName modelMapping : String) :
    Option (Except MappingError MappedInfo) :=
  modelMappedHelper unmarshal R.relayMode modelMapping (initChannelMeta originModelName)

/-- The record's model after attempts on channels with the given mappings. -/
def afterAttempts (unmarshal : String → Option ModelMap) (R : MappedRequest) (originModelName : String) :
    List String → Option String
  | [] => some originModelName
  | modelMapping::rest =>
    (attempt unmarshal R originModelName modelMapping).bind
      (fun result => afterAttempts unmarshal R (R.record originModelName result) rest)

/-! ## What a mapping says -/

/-- The mapping of a channel; an empty one is not read. -/
def mappingOf (unmarshal : String → Option ModelMap) (modelMapping : String) : Option ModelMap :=
  if modelMapping≠"" ∧ modelMapping≠"\x7b\x7d" then unmarshal modelMapping else some .empty

/-- The model that a mapping leads to: another one, and not the empty one. -/
def nextModel (modelMap : ModelMap) (model : String) : Option String :=
  (modelMap.find? model).filter (fun m => m≠"" ∧ m≠model)

/-- The result follows the mapping from a model: the cycle error exactly when the chain enters a cycle, and the end
of the chain otherwise. -/
def FollowsMapping (unmarshal : String → Option ModelMap) (modelMapping model : String)
    (result : Except MappingError MappedInfo) : Prop :=
  match mappingOf unmarshal modelMapping with
  | none => result = .error .unmarshalFailed
  | some modelMap =>
    (result = .error .containsCycle ↔ EntersCycle (nextModel modelMap) model) ∧
    (¬EntersCycle (nextModel modelMap) model →
      ∃ info, result = .ok info ∧ EndsAt (nextModel modelMap) model info.upstreamModelName ∧
        info.requestModel = info.upstreamModelName)

/-- Where the channels of earlier attempts lead the record's model, one after another. -/
inductive Led (unmarshal : String → Option ModelMap) (R : MappedRequest) : String → List String → String → Prop
  | start (origin : String) : Led unmarshal R origin [] origin
  | unread {origin modelMapping final : String} {rest : List String} (hmap : mappingOf unmarshal modelMapping = none)
      (hrest : Led unmarshal R origin rest final) : Led unmarshal R origin (modelMapping::rest) final
  | cycle {origin modelMapping final : String} {rest : List String} {modelMap : ModelMap}
      (hmap : mappingOf unmarshal modelMapping = some modelMap)
      (hcycle : EntersCycle (nextModel modelMap) (mappingModelName R.relayMode origin))
      (hrest : Led unmarshal R origin rest final) : Led unmarshal R origin (modelMapping::rest) final
  | moved {origin modelMapping model final : String} {rest : List String} {modelMap : ModelMap}
      (hmap : mappingOf unmarshal modelMapping = some modelMap)
      (hend : EndsAt (nextModel modelMap) (mappingModelName R.relayMode origin) model)
      (hrest : Led unmarshal R
        (R.rename (if R.relayMode = .responsesCompact then withCompactModelSuffix model else origin)) rest final) :
      Led unmarshal R origin (modelMapping::rest) final

/-! ## The walk follows the chain -/

section
variable {modelMap : ModelMap} {origin start model : String}

lemma nextModel_of_mapped {target : String} (h : (modelMap.find? model).filter (fun m => m≠"") = some target) :
    nextModel modelMap model = if target = model then none else some target := by
  obtain ⟨hfind,hne⟩ := Option.filter_eq_some_iff.mp h
  unfold nextModel
  rw [hfind]
  by_cases heq : target = model
  · rw [if_pos heq]
    simp [heq]
  · rw [if_neg heq]
    simpa [heq] using hne

lemma nextModel_of_unmapped (h : (modelMap.find? model).filter (fun m => m≠"") = none) :
    nextModel modelMap model = none := by
  unfold nextModel
  rw [Option.filter_eq_none_iff] at h ⊢
  intro target htarget hcond
  simp only [decide_eq_true_eq] at hcond
  exact h target htarget (by simpa using hcond.1)

/-- What every pass of a walk keeps: the models visited lead to the current one. -/
structure OnTheWay (modelMap : ModelMap) (start : String) (s : Walk) : Prop where
  reached : ReflTransGen (Step (nextModel modelMap)) start s.currentModel
  visited : ∃ departed, s.visitedModels = s.currentModel::departed
  nodup : s.visitedModels.Nodup
  leads : ∀ v∈s.visitedModels, ReflTransGen (Step (nextModel modelMap)) v s.currentModel
  unmapped : s.isModelMapped = false → s.currentModel = start
  mapped : s.isModelMapped = true → s.currentModel≠""
  ended : s.ended = .chainEnd

/-- How a walk ends. -/
def Arrived (modelMap : ModelMap) (origin start : String) (w : Walk) : Prop :=
  match w.ended with
  | .cycle => EntersCycle (nextModel modelMap) start
  | .sameModel => EndsAt (nextModel modelMap) start origin ∧ origin≠""
  | .chainEnd => EndsAt (nextModel modelMap) start w.currentModel ∧ (w.isModelMapped = false → w.currentModel = start) ∧
      (w.isModelMapped = true → w.currentModel≠"")

/-- The models of the mapping that the walk has not left yet. -/
def ahead (modelMap : ModelMap) (s : Walk) : ℕ :=
  ((modelMap.rows.map Prod.fst).filter (fun m => m∉s.visitedModels.tail)).length

lemma walkPass_next {s s' : Walk} (h : OnTheWay modelMap start s) (hp : walkPass modelMap origin s = .next s') :
    OnTheWay modelMap start s' ∧ ahead modelMap s'<ahead modelMap s := by
  obtain ⟨departed,hvisited⟩ := h.visited
  unfold walkPass at hp
  split at hp
  · exact nomatch hp
  · rename_i target htarget
    have hnew : target∉s.visitedModels := by
      intro hmem
      rw [if_pos hmem] at hp
      split_ifs at hp
    rw [if_neg hnew] at hp
    obtain rfl := Pass.next.inj hp
    have hne : target≠s.currentModel := by
      rintro rfl
      exact hnew (by rw [hvisited]; exact List.mem_cons_self)
    have hstep : Step (nextModel modelMap) s.currentModel target := by
      rw [Step,nextModel_of_mapped htarget,if_neg hne]
    obtain ⟨hfind,hfilter⟩ := Option.filter_eq_some_iff.mp htarget
    constructor
    · refine ⟨h.reached.tail hstep,⟨s.visitedModels,rfl⟩,List.nodup_cons.mpr ⟨hnew,h.nodup⟩,?_,
        (fun hfalse => nomatch hfalse),fun _ => by simpa using hfilter,h.ended⟩
      intro v hv
      rcases List.mem_cons.mp hv with rfl | hv
      · exact .refl
      · exact (h.leads v hv).tail hstep
    · have hkey : s.currentModel∈modelMap.rows.map Prod.fst :=
        List.mem_map.mpr ⟨_,(modelMap.find?_eq_some_iff _ _).mp hfind,rfl⟩
      have hfresh : s.currentModel∉departed := by
        have hnodup := h.nodup
        rw [hvisited] at hnodup
        exact (List.nodup_cons.mp hnodup).1
      unfold ahead
      rw [hvisited,List.tail_cons,List.tail_cons]
      have hshrink : (modelMap.rows.map Prod.fst).filter (fun m => m∉s.currentModel::departed) =
          ((modelMap.rows.map Prod.fst).filter (fun m => m∉departed)).filter (fun m => m≠s.currentModel) := by
        rw [List.filter_filter]
        apply List.filter_congr
        intro m _
        simp only [List.mem_cons,not_or]
        rw [Bool.decide_and]
      rw [hshrink]
      apply List.length_filter_lt_length_iff_exists.mpr
      exact ⟨s.currentModel,List.mem_filter.mpr ⟨hkey,by simpa using hfresh⟩,by simp⟩

lemma walkPass_done {s w : Walk} (h : OnTheWay modelMap start s) (hp : walkPass modelMap origin s = .done w) :
    Arrived modelMap origin start w := by
  unfold walkPass at hp
  split at hp
  · rename_i hnone
    obtain rfl := Pass.done.inj hp
    unfold Arrived
    rw [h.ended]
    exact ⟨⟨h.reached,nextModel_of_unmapped hnone⟩,h.unmapped,h.mapped⟩
  · rename_i target htarget
    have hnext := nextModel_of_mapped htarget
    have hne : target≠"" := by simpa using (Option.filter_eq_some_iff.mp htarget).2
    split_ifs at hp with hmem hself horigin
    · obtain rfl := Pass.done.inj hp
      rw [if_pos hself] at hnext
      rw [hself,horigin] at hne
      exact ⟨horigin ▸ ⟨h.reached,hnext⟩,hne⟩
    · obtain rfl := Pass.done.inj hp
      rw [if_pos hself] at hnext
      rw [hself] at hne
      unfold Arrived
      dsimp only
      rw [h.ended]
      exact ⟨⟨h.reached,hnext⟩,(fun hfalse => nomatch hfalse),fun _ => hne⟩
    · obtain rfl := Pass.done.inj hp
      rw [if_neg hself] at hnext
      exact ⟨s.currentModel,h.reached,TransGen.head' hnext (h.leads target hmem)⟩

theorem walk_arrives (modelMap : ModelMap) (origin start : String) :
    ∃ w, walk modelMap origin start false = some w ∧ Arrived modelMap origin start w := by
  apply runLoop_spec (I := OnTheWay modelMap start) (ahead modelMap)
  · exact fun k s s' hs hp => walkPass_next hs hp
  · exact fun k s w hs hp => walkPass_done hs hp
  · refine ⟨.refl,⟨[],rfl⟩,List.nodup_singleton _,?_,fun _ => rfl,(fun hfalse => nomatch hfalse),rfl⟩
    intro v hv
    rw [List.mem_singleton.mp hv]
  · unfold ahead
    exact Nat.lt_succ_of_le ((List.length_filter_le _ _).trans (by simp))

end

/-! ## One attempt -/

/-- In compact mode the model of the record has the suffix, unless the request names no model. -/
def Suffixed (R : MappedRequest) (origin : String) : Prop :=
  R.relayMode = .responsesCompact → withCompactModelSuffix origin = origin ∨ origin = ""

lemma withCompactModelSuffix_idem (model : String) :
    withCompactModelSuffix (withCompactModelSuffix model) = withCompactModelSuffix model := by
  have happend : (Text.cutSuffix (model++compactModelSuffix) compactModelSuffix).isSome = true := by
    unfold Text.cutSuffix
    rw [if_pos]
    · rfl
    · rw [List.isSuffixOf_iff_suffix,String.toList_append]
      exact List.suffix_append _ _
  unfold withCompactModelSuffix
  by_cases h : (Text.cutSuffix model compactModelSuffix).isSome = true
  · rw [if_pos h,if_pos h]
  · rw [if_neg h,if_pos happend]

lemma suffixed_originModelName (R : MappedRequest) (model : String) : Suffixed R (R.originModelName model) := by
  intro hmode
  unfold MappedRequest.originModelName
  rw [if_pos hmode,getModelRequest]
  split_ifs with hempty
  · exact .inr hempty
  · exact .inl (withCompactModelSuffix_idem model)

section
variable {unmarshal : String → Option ModelMap} {R : MappedRequest} {origin modelMapping : String}

lemma rename_of_compact (h : R.relayMode = .responsesCompact) (origin : String) : R.rename origin = origin := by
  unfold MappedRequest.rename
  rw [if_neg]
  rintro ⟨hgemini,-⟩
  exact absurd (h.symm.trans hgemini) (by decide)

/-- The record after a chain that ends. -/
def MappedRequest.after (R : MappedRequest) (origin model : String) : String :=
  R.rename (if R.relayMode = .responsesCompact then withCompactModelSuffix model else origin)

lemma suffixed_after (R : MappedRequest) (origin model : String) : Suffixed R (R.after origin model) := by
  intro hmode
  unfold MappedRequest.after
  rw [if_pos hmode,rename_of_compact hmode]
  exact .inl (withCompactModelSuffix_idem model)

/-- The names that the helper sets when the chain ends with a model. -/
lemma setModelNames_eq {mode : RelayMode} {model upstream requestModel : String} {isMapped : Bool}
    (hmapped : isMapped = true → upstream = model ∧ model≠"")
    (hunmapped : isMapped = false → upstream = origin ∧ model = mappingModelName mode origin) :
    setModelNames mode (mappingModelName mode origin) ⟨origin,upstream,isMapped,requestModel⟩ =
      ⟨if mode = .responsesCompact then withCompactModelSuffix model else origin,model,isMapped,model⟩ := by
  unfold setModelNames
  by_cases hmode : mode = .responsesCompact
  · rw [if_pos hmode,if_pos hmode]
    cases isMapped with
    | true =>
      obtain ⟨rfl,hne⟩ := hmapped rfl
      simp [hne]
    | false =>
      obtain ⟨-,rfl⟩ := hunmapped rfl
      simp
  · rw [if_neg hmode,if_neg hmode]
    cases isMapped with
    | true =>
      obtain ⟨rfl,-⟩ := hmapped rfl
      rfl
    | false =>
      obtain ⟨rfl,rfl⟩ := hunmapped rfl
      unfold mappingModelName
      rw [if_neg hmode]

/-- A result that follows a mapping, and what it leaves in the record. -/
structure Right (R : MappedRequest) (modelMap : ModelMap) (origin : String) (result : Except MappingError MappedInfo) :
    Prop where
  cycle : result = .error .containsCycle ↔ EntersCycle (nextModel modelMap) (mappingModelName R.relayMode origin)
  ended : ¬EntersCycle (nextModel modelMap) (mappingModelName R.relayMode origin) → ∃ info, result = .ok info ∧
    EndsAt (nextModel modelMap) (mappingModelName R.relayMode origin) info.upstreamModelName ∧
      info.requestModel = info.upstreamModelName
  record : ∀ model, EndsAt (nextModel modelMap) (mappingModelName R.relayMode origin) model →
    R.record origin result = R.after origin model

lemma right_of_endsAt {modelMap : ModelMap} {model : String} {info : MappedInfo}
    (hend : EndsAt (nextModel modelMap) (mappingModelName R.relayMode origin) model)
    (hupstream : info.upstreamModelName = model) (hrequest : info.requestModel = model)
    (hrecord : R.rename info.originModelName = R.after origin model) : Right R modelMap origin (.ok info) := by
  have hcycle := hend.not_entersCycle
  refine ⟨iff_of_false (by simp) hcycle,fun _ => ⟨info,rfl,hupstream ▸ hend,hrequest.trans hupstream.symm⟩,?_⟩
  intro model' hend'
  rw [←hend.unique hend']
  exact hrecord

lemma afterWalk_right (ho : Suffixed R origin) {modelMap : ModelMap} {w : Walk}
    (harrived : Arrived modelMap origin (mappingModelName R.relayMode origin) w) :
    Right R modelMap origin
      (afterWalk R.relayMode (mappingModelName R.relayMode origin) (initChannelMeta origin) w) := by
  unfold Arrived at harrived
  unfold afterWalk
  cases hended : w.ended with
  | cycle =>
    rw [hended] at harrived
    exact ⟨iff_of_true rfl harrived,fun h => absurd harrived h,
      fun model hend => absurd harrived hend.not_entersCycle⟩
  | sameModel =>
    rw [hended] at harrived
    obtain ⟨hend,hne⟩ := harrived
    refine right_of_endsAt hend rfl rfl ?_
    unfold MappedRequest.after
    by_cases hmode : R.relayMode = .responsesCompact
    · rw [if_pos hmode,(ho hmode).resolve_right hne]
      rfl
    · rw [if_neg hmode]
      rfl
  | chainEnd =>
    rw [hended] at harrived
    obtain ⟨hend,hunmapped,hmapped⟩ := harrived
    dsimp only [initChannelMeta]
    rw [setModelNames_eq (fun h => ⟨if_pos h,hmapped h⟩) (fun h => ⟨if_neg (by rw [h]; decide),hunmapped h⟩)]
    exact right_of_endsAt hend rfl rfl rfl

variable (unmarshal modelMapping) in
/-- Every attempt comes to a result, by the mapping of its channel and the model of the record. -/
theorem attempt_cases (ho : Suffixed R origin) :
    (mappingOf unmarshal modelMapping = none ∧
      attempt unmarshal R origin modelMapping = some (.error .unmarshalFailed)) ∨
    ∃ modelMap result, mappingOf unmarshal modelMapping = some modelMap ∧
      attempt unmarshal R origin modelMapping = some result ∧ Right R modelMap origin result := by
  unfold attempt modelMappedHelper mappingOf
  by_cases hread : modelMapping≠"" ∧ modelMapping≠"\x7b\x7d"
  · rw [if_pos hread,if_pos hread]
    cases unmarshal modelMapping with
    | none => exact .inl ⟨rfl,rfl⟩
    | some modelMap =>
      obtain ⟨w,hw,harrived⟩ := walk_arrives modelMap origin (mappingModelName R.relayMode origin)
      refine .inr ⟨modelMap,_,rfl,?_,afterWalk_right ho harrived⟩
      exact congrArg (Option.map _) hw
  · rw [if_neg hread,if_neg hread]
    refine .inr ⟨.empty,_,rfl,rfl,?_⟩
    have hend : EndsAt (nextModel .empty) (mappingModelName R.relayMode origin) (mappingModelName R.relayMode origin) :=
      EndsAt.of_none rfl
    have hnames : setModelNames R.relayMode (mappingModelName R.relayMode origin) ⟨origin,origin,false,origin⟩ = _ :=
      setModelNames_eq (fun h => absurd h (by decide)) (fun _ => ⟨rfl,rfl⟩)
    dsimp only [initChannelMeta]
    rw [hnames]
    exact right_of_endsAt hend rfl rfl rfl

lemma Right.follows {modelMap : ModelMap} {result : Except MappingError MappedInfo} (h : Right R modelMap origin result)
    (hmap : mappingOf unmarshal modelMapping = some modelMap) :
    FollowsMapping unmarshal modelMapping (mappingModelName R.relayMode origin) result := by
  unfold FollowsMapping
  rw [hmap]
  exact ⟨h.cycle,h.ended⟩

lemma Right.record_of_cycle {modelMap : ModelMap} {result : Except MappingError MappedInfo}
    (h : Right R modelMap origin result)
    (hcycle : EntersCycle (nextModel modelMap) (mappingModelName R.relayMode origin)) :
    R.record origin result = origin := by
  rw [h.cycle.mpr hcycle]
  rfl

/-! ## Attempts in a row -/

lemma suffixed_record (ho : Suffixed R origin) {modelMap : ModelMap} {result : Except MappingError MappedInfo}
    (h : Right R modelMap origin result) : Suffixed R (R.record origin result) := by
  by_cases hcycle : EntersCycle (nextModel modelMap) (mappingModelName R.relayMode origin)
  · rw [h.record_of_cycle hcycle]
    exact ho
  · obtain ⟨info,-,hend,-⟩ := h.ended hcycle
    rw [h.record _ hend]
    exact suffixed_after R origin _

variable (unmarshal) in
/-- The attempts take the record's model where the mappings lead it. -/
theorem afterAttempts_led (ho : Suffixed R origin) (mappings : List String) :
    ∃ final, afterAttempts unmarshal R origin mappings = some final ∧ Led unmarshal R origin mappings final ∧
      Suffixed R final := by
  induction mappings generalizing origin with
  | nil => exact ⟨origin,rfl,.start origin,ho⟩
  | cons modelMapping rest ih =>
    rw [afterAttempts]
    rcases attempt_cases unmarshal modelMapping ho with
      ⟨hmap,hattempt⟩ | ⟨modelMap,result,hmap,hattempt,hright⟩
    · obtain ⟨final,hfinal,hled,hsuffixed⟩ := ih ho
      rw [hattempt]
      exact ⟨final,hfinal,.unread hmap hled,hsuffixed⟩
    · obtain ⟨final,hfinal,hled,hsuffixed⟩ := ih (suffixed_record ho hright)
      rw [hattempt]
      refine ⟨final,hfinal,?_,hsuffixed⟩
      by_cases hcycle : EntersCycle (nextModel modelMap) (mappingModelName R.relayMode origin)
      · rw [hright.record_of_cycle hcycle] at hled
        exact .cycle hmap hcycle hled
      · obtain ⟨info,-,hend,-⟩ := hright.ended hcycle
        rw [hright.record _ hend] at hled
        exact .moved hmap hend hled

/-- The mappings lead the record's model to one place. -/
theorem Led.unique {mappings : List String} {final final' : String} (h : Led unmarshal R origin mappings final)
    (h' : Led unmarshal R origin mappings final') : final = final' := by
  induction h with
  | start origin =>
    cases h' with
    | start => rfl
  | unread hmap hrest ih =>
    cases h' with
    | unread hmap' hrest' => exact ih hrest'
    | cycle hmap' hcycle' hrest' => exact nomatch hmap.symm.trans hmap'
    | moved hmap' hend' hrest' => exact nomatch hmap.symm.trans hmap'
  | cycle hmap hcycle hrest ih =>
    cases h' with
    | unread hmap' hrest' => exact nomatch hmap.symm.trans hmap'
    | cycle hmap' hcycle' hrest' => exact ih hrest'
    | moved hmap' hend' hrest' =>
      obtain rfl := Option.some.inj (hmap.symm.trans hmap')
      exact absurd hcycle hend'.not_entersCycle
  | moved hmap hend hrest ih =>
    cases h' with
    | unread hmap' hrest' => exact nomatch hmap.symm.trans hmap'
    | cycle hmap' hcycle' hrest' =>
      obtain rfl := Option.some.inj (hmap.symm.trans hmap')
      exact absurd hcycle' hend.not_entersCycle
    | moved hmap' hend' hrest' =>
      obtain rfl := Option.some.inj (hmap.symm.trans hmap')
      obtain rfl := hend.unique hend'
      exact ih hrest'

end

/-- After attempts on any channels, the attempt on any channel ends and follows the channel's mapping from the model
that the client asked for exactly when the earlier channels lead that model back to itself. -/
theorem retry_follows_iff (unmarshal : String → Option ModelMap) (R : MappedRequest) (model : String)
    (earlier : List String) :
    (∃ origin, afterAttempts unmarshal R (R.originModelName model) earlier = some origin ∧
      ∀ modelMapping, ∃ result, attempt unmarshal R origin modelMapping = some result ∧
        FollowsMapping unmarshal modelMapping (mappingModelName R.relayMode (R.originModelName model)) result) ↔
    ∃ origin, Led unmarshal R (R.originModelName model) earlier origin ∧
      mappingModelName R.relayMode origin = mappingModelName R.relayMode (R.originModelName model) := by
  obtain ⟨final,hfinal,hled,hsuffixed⟩ :=
    afterAttempts_led unmarshal (suffixed_originModelName R model) earlier
  constructor
  · rintro ⟨origin,horigin,hfollows⟩
    obtain rfl := Option.some.inj (hfinal.symm.trans horigin)
    refine ⟨final,hled,?_⟩
    obtain ⟨result,hattempt,hright⟩ := hfollows ""
    have hmap : mappingOf unmarshal "" = some .empty := if_neg (fun h => h.1 rfl)
    have hstays : ∀ m, EndsAt (nextModel .empty) m m := fun m => EndsAt.of_none rfl
    rcases attempt_cases unmarshal "" hsuffixed with
      ⟨hnone,-⟩ | ⟨modelMap,result',hmap',hattempt',hright'⟩
    · exact nomatch hnone.symm.trans hmap
    · obtain rfl := Option.some.inj (hmap'.symm.trans hmap)
      obtain rfl := Option.some.inj (hattempt.symm.trans hattempt')
      unfold FollowsMapping at hright
      rw [hmap] at hright
      obtain ⟨info,rfl,hend,-⟩ := hright.2 (hstays _).not_entersCycle
      obtain ⟨info',hinfo,hend',-⟩ := hright'.ended (hstays _).not_entersCycle
      obtain rfl := Except.ok.inj hinfo
      rw [(hstays _).unique hend,(hstays _).unique hend']
  · rintro ⟨origin,horigin,hback⟩
    obtain rfl := hled.unique horigin
    refine ⟨final,hfinal,?_⟩
    intro modelMapping
    rw [←hback]
    rcases attempt_cases unmarshal modelMapping hsuffixed with
      ⟨hmap,hattempt⟩ | ⟨modelMap,result,hmap,hattempt,hright⟩
    · refine ⟨_,hattempt,?_⟩
      unfold FollowsMapping
      rw [hmap]
    · exact ⟨result,hattempt,hright.follows hmap⟩

/-- A compact request for a model that the first channel calls by another name. -/
def compactRequest : MappedRequest := ⟨.responsesCompact,false,fun _ => false⟩

def renamedMapping : ModelMap := Keyed.empty.insertNew ("gpt-5","deploy-5")

/-- The second channel, which maps nothing, is asked for the name that the first one uses. -/
theorem compact_retry_astray : ¬∀ (unmarshal : String → Option ModelMap) (R : MappedRequest) (model : String)
    (earlier : List String), ∃ origin, afterAttempts unmarshal R (R.originModelName model) earlier = some origin ∧
      ∀ modelMapping, ∃ result, attempt unmarshal R origin modelMapping = some result ∧
        FollowsMapping unmarshal modelMapping (mappingModelName R.relayMode (R.originModelName model)) result := by
  intro h
  obtain ⟨origin,horigin,hfollows⟩ := h (fun _ => some renamedMapping) compactRequest "gpt-5" ["mapping"]
  have hdeploy : origin = "deploy-5-openai-compact" :=
    Option.some.inj (horigin.symm.trans (by decide))
  obtain ⟨result,hattempt,hright⟩ := hfollows ""
  have hresult : attempt (fun _ => some renamedMapping) compactRequest "deploy-5-openai-compact" "" =
      some (.ok ⟨"deploy-5-openai-compact","deploy-5",false,"deploy-5"⟩) := rfl
  rw [hdeploy] at hattempt
  obtain rfl := Option.some.inj (hattempt.symm.trans hresult)
  obtain ⟨info,hinfo,hend,-⟩ := hright.2 (EndsAt.of_none rfl).not_entersCycle
  obtain rfl := Except.ok.inj hinfo
  have hstays : ∀ m, EndsAt (nextModel .empty) m m := fun m => EndsAt.of_none rfl
  have hsame := (hstays _).unique hend
  exact absurd hsame (by decide)

end ModelMapping
end Relay
end Tierflow
