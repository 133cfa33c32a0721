import Mathlib
import Tierflow.Foundation.CleanLists
import Tierflow.Foundation.Pieces

/-! The models of a channel and those of its upstream. What the upstream has more or less is pending until it is taken
over or ignored; the models of a channel are kept in one text, with commas between them. -/
namespace Tierflow
namespace Routing
namespace UpstreamModels
open Text CleanLists

/-! ## Lists of names -/

def cleanName (model : String) : Option String := if trimSpace model≠"" then some (trimSpace model) else none

def normalizeModelNames (models : List String) : List String := CleanLists.normalize cleanName models

def mergeModelNames (base appended : List String) : List String := merge cleanName base appended

def subtractModelNames (base removed : List String) : List String := subtract cleanName base removed

def intersectModelNames (base allowed : List String) : List String := intersect cleanName base allowed

def applySelectedModelChanges (originModels addModels removeModels : List String) : List String :=
  let normalizedAdd := normalizeModelNames addModels
  let normalizedRemove := subtractModelNames (normalizeModelNames removeModels) normalizedAdd
  subtractModelNames (mergeModelNames originModels normalizedAdd) normalizedRemove

/-! ## Pending changes -/

/-- Targets of the models that a channel renames. -/
abbrev ModelMapping := List (String × String)

section Pending
variable (matchString : String → String → Bool)

/-- An ignored model is a name or, behind `regex:`, a pattern. A pattern that does not compile matches nothing. -/
def isIgnored (ignoredModels : List String) (modelName : String) : Bool :=
  ignoredModels.any (fun ignoredModel =>
    match cutPrefix ignoredModel "regex:" with
    | some regexBody => matchString (trimSpace regexBody) modelName
    | none => ignoredModel = modelName)

def collectPendingUpstreamModelChangesFromModels (localModels upstreamModels ignoredModels : List String)
    (modelMapping : ModelMapping) : List String × List String :=
  let localModels := normalizeModelNames localModels
  let upstreamModels := normalizeModelNames upstreamModels
  let normalizedIgnoredModels := normalizeModelNames ignoredModels
  let pendingAdd := upstreamModels.filter (fun modelName =>
    modelName∉localModels && modelName∉modelMapping.map Prod.snd &&
      !isIgnored matchString normalizedIgnoredModels modelName)
  let pendingRemove := localModels.filter (fun modelName =>
    modelName∉modelMapping.map Prod.fst && modelName∉upstreamModels)
  (normalizeModelNames pendingAdd,normalizeModelNames pendingRemove)

end Pending

/-! ## Channels -/

structure UpstreamSettings where
  autoSyncEnabled : Bool
  lastCheckTime : ℤ
  lastDetectedModels : List String
  lastRemovedModels : List String
  ignoredModels : List String
  deriving DecidableEq, Repr

structure SyncedChannel where
  models : String
  settings : UpstreamSettings
  deriving DecidableEq, Repr

def SyncedChannel.getModels (c : SyncedChannel) : List String :=
  if c.models = "" then [] else split (trimSep ',' c.models) ','

/-- The models of a channel. -/
def SyncedChannel.modelNames (c : SyncedChannel) : List String := normalizeModelNames c.getModels

section Checks
variable (matchString : String → String → Bool) (modelMapping : ModelMapping)

def SyncedChannel.pending (c : SyncedChannel) (upstreamModels : List String) : List String × List String :=
  collectPendingUpstreamModelChangesFromModels matchString c.getModels upstreamModels c.settings.ignoredModels
    modelMapping

structure CheckResult where
  channel : SyncedChannel
  modelsChanged : Bool
  autoAdded : ℕ
  deriving DecidableEq, Repr

/-- A check for changes. The list of the upstream is missing where it could not be fetched. -/
def checkAndPersistChannelUpstreamModelUpdates (now minInterval : ℤ) (force allowAutoApply : Bool)
    (upstreamModels : Option (List String)) (c : SyncedChannel) : CheckResult :=
  if force = false ∧ 0 < c.settings.lastCheckTime ∧ now-c.settings.lastCheckTime < minInterval then ⟨c,false,0⟩
  else
    let settings := { c.settings with lastCheckTime := now }
    match upstreamModels with
    | none => ⟨{ c with settings := settings },false,0⟩
    | some upstreamModels =>
      let pending := c.pending matchString modelMapping upstreamModels
      let settings := { settings with lastRemovedModels := pending.2 }
      if allowAutoApply = true ∧ settings.autoSyncEnabled = true ∧ 0<pending.1.length then
        let originModels := c.modelNames
        let mergedModels := mergeModelNames originModels pending.1
        let settings := { settings with lastDetectedModels := [] }
        if originModels.length < mergedModels.length then
          ⟨⟨",".intercalate mergedModels,settings⟩,true,mergedModels.length-originModels.length⟩
        else ⟨{ c with settings := settings },false,0⟩
      else ⟨{ c with settings := { settings with lastDetectedModels := pending.1 } },false,0⟩

end Checks

structure ApplyResult where
  channel : SyncedChannel
  addedModels : List String
  removedModels : List String
  remainingModels : List String
  remainingRemoveModels : List String
  modelsChanged : Bool
  deriving DecidableEq, Repr

def applyChannelUpstreamModelUpdates (now : ℤ) (c : SyncedChannel)
    (addModelsInput ignoreModelsInput removeModelsInput : List String) : ApplyResult :=
  let pendingAddModels := normalizeModelNames c.settings.lastDetectedModels
  let pendingRemoveModels := normalizeModelNames c.settings.lastRemovedModels
  let addModels := intersectModelNames addModelsInput pendingAddModels
  let ignoreModels := intersectModelNames ignoreModelsInput pendingAddModels
  let removeModels := subtractModelNames (intersectModelNames removeModelsInput pendingRemoveModels) addModels
  let originModels := c.modelNames
  let nextModels := applySelectedModelChanges originModels addModels removeModels
  let modelsChanged := originModels≠nextModels
  let models := if modelsChanged then ",".intercalate nextModels else c.models
  let ignoredModels := mergeModelNames c.settings.ignoredModels ignoreModels
  let ignoredModels := if 0<addModels.length then subtractModelNames ignoredModels addModels else ignoredModels
  let remainingModels := subtractModelNames pendingAddModels (addModels++ignoreModels)
  let remainingRemoveModels := subtractModelNames pendingRemoveModels removeModels
  ⟨⟨models,{ c.settings with
      ignoredModels := ignoredModels
      lastDetectedModels := remainingModels
      lastRemovedModels := remainingRemoveModels
      lastCheckTime := now }⟩,
    addModels,removeModels,remainingModels,remainingRemoveModels,modelsChanged⟩

/-! ## Names -/

lemma cleanName_eq_some {s t : String} : cleanName s = some t ↔ trimSpace s = t ∧ t≠"" := by
  rw [cleanName,Option.ite_none_right_eq_some,Option.some_inj]
  constructor
  · rintro ⟨hne,rfl⟩
    exact ⟨rfl,hne⟩
  · rintro ⟨rfl,hne⟩
    exact ⟨hne,rfl⟩

lemma cleanName_idem (s t : String) (h : cleanName s = some t) : cleanName t = some t := by
  obtain ⟨rfl,hne⟩ := cleanName_eq_some.mp h
  exact cleanName_eq_some.mpr ⟨trimSpace_idem s,hne⟩

lemma cleanName_empty : cleanName "" = none := by decide

lemma mem_trimSpace {s : String} {c : Char} (h : c∈(trimSpace s).toList) : c∈s.toList := by
  rw [trimSpace,String.toList_ofList,trimChars,List.mem_reverse] at h
  exact (List.dropWhile_sublist isSpace).mem (List.mem_reverse.mp ((List.dropWhile_sublist isSpace).mem h))

lemma normalizeModelNames_idem (l : List String) :
    normalizeModelNames (normalizeModelNames l) = normalizeModelNames l := normalize_idem cleanName_idem l

lemma intersect_normalized (l m : List String) : intersectModelNames l (normalizeModelNames m) =
    (normalizeModelNames l).filter (fun a => a∈normalizeModelNames m) := by
  rw [intersectModelNames,intersect,←normalizeModelNames,←normalizeModelNames,normalizeModelNames_idem]

lemma subtract_of_clean {l m : List String} (hl : Clean cleanName l) (hm : Clean cleanName m) :
    subtractModelNames l m = l.filter (fun a => a∉m) := by
  rw [subtractModelNames,subtract,normalize_of_clean hl,normalize_of_clean hm]

/-- An addition wins over a removal. -/
theorem applySelected_eq {origin add remove : List String} (ho : Clean cleanName origin) (ha : Clean cleanName add)
    (hr : Clean cleanName remove) : applySelectedModelChanges origin add remove =
      origin.filter (fun m => ¬(m∈remove ∧ m∉add))++add.filter (fun m => m∉origin) := by
  have hsub : Clean cleanName (remove.filter (fun m => m∉add)) := hr.filter _
  have hmerge := merge_eq cleanName_idem origin add
  have hclean := clean_merge cleanName_idem origin add
  rw [normalize_of_clean ho,normalize_of_clean ha] at hmerge
  rw [applySelectedModelChanges,normalizeModelNames,normalizeModelNames,normalize_of_clean ha,normalize_of_clean hr,
    subtract_of_clean hr ha,mergeModelNames,subtract_of_clean hclean hsub,hmerge,List.filter_append,List.filter_filter]
  refine congrArg₂ (·++·) (List.filter_congr fun m _ => ?_) (List.filter_congr fun m hm => ?_)
  · simp only [List.mem_filter,decide_eq_true_eq]
  · simp [hm]

/-! ## The text of the models -/

section ModelsText
variable {c : SyncedChannel} {l : List String} {m : String}

lemma modelNames_eq (c : SyncedChannel) : c.modelNames = normalizeModelNames (split c.models ',') := by
  rw [SyncedChannel.modelNames,SyncedChannel.getModels,normalizeModelNames,normalizeModelNames,
    CleanLists.normalize,CleanLists.normalize]
  split_ifs with h
  · rw [h]
    rfl
  · rw [filterMap_split_trimSep cleanName_empty]

lemma clean_modelNames (c : SyncedChannel) : Clean cleanName c.modelNames := clean_normalize cleanName_idem _

/-- No name of a channel has a comma. -/
lemma comma_notMem_modelNames (h : m∈c.modelNames) : ','∉m.toList := by
  rw [modelNames_eq] at h
  obtain ⟨p,hp,hm⟩ := mem_normalize.mp h
  obtain ⟨rfl,-⟩ := cleanName_eq_some.mp hm
  exact fun hc => sep_notMem_of_mem_split hp (mem_trimSpace hc)

lemma names_join (l : List String) (s : UpstreamSettings) :
    (⟨",".intercalate l,s⟩ : SyncedChannel).modelNames =
      normalizeModelNames (l.flatMap (fun p => split p ',')) := by
  rw [modelNames_eq]
  by_cases hl : l = []
  · rw [hl]
    rfl
  · exact congrArg normalizeModelNames (split_intercalate_flatMap hl)

lemma split_of_no_comma (h : ','∉m.toList) : split m ',' = [m] := by
  rw [split,splitChars_word h,List.map_singleton,String.ofList_toList]

/-- Names without commas are read as they were written. -/
theorem names_join_of_clean (hl : Clean cleanName l) (hcomma : ∀ m∈l, ','∉m.toList) (s : UpstreamSettings) :
    (⟨",".intercalate l,s⟩ : SyncedChannel).modelNames = l := by
  have hflat : l.flatMap (fun p => split p ',') = l := by
    rw [List.flatMap_congr (fun m hm => split_of_no_comma (hcomma m hm)),List.flatMap_singleton']
  rw [names_join,hflat]
  exact normalize_of_clean hl

lemma mem_names_join (hm : m∈l) (hclean : cleanName m = some m) (hcomma : ','∉m.toList) (s : UpstreamSettings) :
    m∈(⟨",".intercalate l,s⟩ : SyncedChannel).modelNames := by
  rw [names_join]
  refine mem_normalize.mpr ⟨m,List.mem_flatMap.mpr ⟨m,hm,?_⟩,hclean⟩
  rw [split_of_no_comma hcomma]
  exact List.mem_singleton_self m

end ModelsText

/-! ## What an application does -/

/-- The pending names among those that are asked for. -/
def chosen (input pending : List String) : List String :=
  (normalizeModelNames input).filter (fun m => m∈normalizeModelNames pending)

section Choices
variable (c : SyncedChannel) (now : ℤ) (add ignore remove : List String)

def SyncedChannel.chosenAdds : List String := chosen add c.settings.lastDetectedModels

def SyncedChannel.chosenIgnores : List String := chosen ignore c.settings.lastDetectedModels

/-- A model that is added too is not removed. -/
def SyncedChannel.chosenRemoves : List String :=
  (chosen remove c.settings.lastRemovedModels).filter (fun m => m∉c.chosenAdds add)

/-- The models without those that are removed, and behind them those that are new. -/
def SyncedChannel.chosenModels : List String :=
  c.modelNames.filter (fun m => m∉c.chosenRemoves add remove)++(c.chosenAdds add).filter (fun m => m∉c.modelNames)

/-- The models are those that were chosen, and what was handled is pending no more. -/
structure AppliesChoice (r : ApplyResult) : Prop where
  models : r.channel.modelNames = c.chosenModels add remove
  nodup : r.channel.modelNames.Nodup
  remainingModels : r.channel.settings.lastDetectedModels =
    (normalizeModelNames c.settings.lastDetectedModels).filter
      (fun m => m∉c.chosenAdds add ∧ m∉c.chosenIgnores ignore)
  remainingRemoveModels : r.channel.settings.lastRemovedModels =
    (normalizeModelNames c.settings.lastRemovedModels).filter (fun m => m∉c.chosenRemoves add remove)
  returned : r.remainingModels = r.channel.settings.lastDetectedModels ∧
    r.remainingRemoveModels = r.channel.settings.lastRemovedModels

end Choices

section Applying
variable {c : SyncedChannel} {now : ℤ} {add ignore remove : List String} {m : String}

lemma clean_normalized (l : List String) : Clean cleanName (normalizeModelNames l) := clean_normalize cleanName_idem l

lemma clean_chosen (l p : List String) : Clean cleanName (chosen l p) := (clean_normalized l).filter _

lemma clean_chosenAdds : Clean cleanName (c.chosenAdds add) := clean_chosen _ _

lemma clean_chosenRemoves : Clean cleanName (c.chosenRemoves add remove) := (clean_chosen _ _).filter _

lemma clean_chosenModels : Clean cleanName (c.chosenModels add remove) := by
  refine ((clean_modelNames c).filter _).append (clean_chosenAdds.filter _) fun m hm hmem => ?_
  exact of_decide_eq_true (List.mem_filter.mp hm).2 (List.mem_of_mem_filter hmem)

lemma mem_chosenModels : m∈c.chosenModels add remove ↔
    m∈c.modelNames ∧ m∉c.chosenRemoves add remove ∨ m∈c.chosenAdds add := by
  rw [SyncedChannel.chosenModels,List.mem_append,List.mem_filter,List.mem_filter,decide_eq_true_eq,decide_eq_true_eq]
  constructor
  · rintro (h | h)
    · exact .inl h
    · exact .inr h.1
  · rintro (h | h)
    · exact .inl h
    · by_cases hm : m∈c.modelNames
      · refine .inl ⟨hm,fun hr => ?_⟩
        exact of_decide_eq_true (List.mem_filter.mp hr).2 h
      · exact .inr ⟨h,hm⟩

lemma chosen_eq (input pending : List String) :
    intersectModelNames input (normalizeModelNames pending) = chosen input pending := intersect_normalized input pending

lemma nextModels_eq : applySelectedModelChanges c.modelNames (c.chosenAdds add) (c.chosenRemoves add remove) =
    c.chosenModels add remove := by
  rw [applySelected_eq (clean_modelNames c) clean_chosenAdds clean_chosenRemoves,SyncedChannel.chosenModels]
  refine congrArg (·++_) (List.filter_congr fun m _ => decide_eq_decide.mpr (not_congr ?_))
  refine and_iff_left_of_imp fun h => ?_
  exact of_decide_eq_true (List.mem_filter.mp h).2

/-- The text of the models after an application. -/
def SyncedChannel.nextModelsText (c : SyncedChannel) (add remove : List String) : String :=
  if c.modelNames≠c.chosenModels add remove then ",".intercalate (c.chosenModels add remove) else c.models

def SyncedChannel.nextIgnored (c : SyncedChannel) (add ignore : List String) : List String :=
  let ignored := mergeModelNames c.settings.ignoredModels (c.chosenIgnores ignore)
  if 0 < (c.chosenAdds add).length then subtractModelNames ignored (c.chosenAdds add) else ignored

lemma remaining_eq : subtractModelNames (normalizeModelNames c.settings.lastDetectedModels)
    (c.chosenAdds add++c.chosenIgnores ignore) = (normalizeModelNames c.settings.lastDetectedModels).filter
      (fun m => m∉c.chosenAdds add ∧ m∉c.chosenIgnores ignore) := by
  have hfixed : ∀ m∈c.chosenAdds add++c.chosenIgnores ignore, cleanName m = some m := fun m hm =>
    (List.mem_append.mp hm).elim (clean_chosenAdds.fixed m) ((clean_chosen _ _).fixed m)
  rw [subtractModelNames,subtract,normalize_of_clean (clean_normalized _)]
  refine List.filter_congr fun m _ => decide_eq_decide.mpr ?_
  rw [mem_normalize_of_fixed hfixed,List.mem_append,not_or]

theorem apply_eq : applyChannelUpstreamModelUpdates now c add ignore remove =
    ⟨⟨c.nextModelsText add remove,{ c.settings with
        ignoredModels := c.nextIgnored add ignore
        lastDetectedModels := (normalizeModelNames c.settings.lastDetectedModels).filter
          (fun m => m∉c.chosenAdds add ∧ m∉c.chosenIgnores ignore)
        lastRemovedModels := (normalizeModelNames c.settings.lastRemovedModels).filter
          (fun m => m∉c.chosenRemoves add remove)
        lastCheckTime := now }⟩,
      c.chosenAdds add,c.chosenRemoves add remove,
      (normalizeModelNames c.settings.lastDetectedModels).filter
        (fun m => m∉c.chosenAdds add ∧ m∉c.chosenIgnores ignore),
      (normalizeModelNames c.settings.lastRemovedModels).filter (fun m => m∉c.chosenRemoves add remove),
      c.modelNames≠c.chosenModels add remove⟩ := by
  have hadd : intersectModelNames add (normalizeModelNames c.settings.lastDetectedModels) = c.chosenAdds add :=
    chosen_eq _ _
  have hignore : intersectModelNames ignore (normalizeModelNames c.settings.lastDetectedModels) =
    c.chosenIgnores ignore := chosen_eq _ _
  have hremove : subtractModelNames (intersectModelNames remove (normalizeModelNames c.settings.lastRemovedModels))
      (c.chosenAdds add) = c.chosenRemoves add remove := by
    rw [chosen_eq,subtract_of_clean (clean_chosen _ _) clean_chosenAdds]
    rfl
  rw [applyChannelUpstreamModelUpdates,hadd,hignore,hremove,nextModels_eq,remaining_eq,
    subtract_of_clean (clean_normalized _) clean_chosenRemoves]
  rfl

variable (now ignore remove) in
/-- The models are those that were chosen if no comma is in what is added. -/
theorem apply_modelNames_iff : (applyChannelUpstreamModelUpdates now c add ignore remove).channel.modelNames =
    c.chosenModels add remove ↔ ∀ m∈c.chosenAdds add, ','∉m.toList := by
  rw [apply_eq]
  dsimp only
  constructor
  · intro h m hm
    exact comma_notMem_modelNames (h ▸ mem_chosenModels.mpr (.inr hm))
  · intro hcomma
    rw [SyncedChannel.nextModelsText]
    by_cases hsame : c.modelNames = c.chosenModels add remove
    · rw [if_neg (not_not.mpr hsame)]
      exact hsame
    · rw [if_pos hsame]
      refine names_join_of_clean clean_chosenModels (fun m hm => ?_) _
      rcases mem_chosenModels.mp hm with h | h
      · exact comma_notMem_modelNames h.1
      · exact hcomma m h

theorem appliesChoice_iff :
    AppliesChoice c add ignore remove (applyChannelUpstreamModelUpdates now c add ignore remove) ↔
      ∀ m∈c.chosenAdds add, ','∉m.toList := by
  rw [←apply_modelNames_iff now ignore remove]
  constructor
  · exact fun h => h.models
  · intro h
    refine ⟨h,(clean_modelNames _).nodup,by rw [apply_eq],by rw [apply_eq],?_⟩
    rw [apply_eq]
    exact ⟨rfl,rfl⟩

end Applying

/-! ## What is pending -/

section PendingModels
variable {matchString : String → String → Bool} {modelMapping : ModelMapping} {c : SyncedChannel}
variable {upstream ignored : List String} {m : String}

lemma isIgnored_iff (hregex : ∀ a∈ignored, cutPrefix a "regex:" = none) :
    isIgnored matchString ignored m = true ↔ m∈ignored := by
  rw [isIgnored,List.any_eq_true]
  constructor
  · rintro ⟨a,ha,h⟩
    rw [hregex a ha] at h
    rwa [←of_decide_eq_true h]
  · exact fun hm => ⟨m,hm,by rw [hregex m hm]; exact decide_eq_true rfl⟩

lemma clean_pendingAdd : Clean cleanName (c.pending matchString modelMapping upstream).1 := clean_normalized _

variable (matchString) in
lemma clean_pendingRemove : Clean cleanName (c.pending matchString modelMapping upstream).2 := clean_normalized _

lemma mem_pendingAdd (hregex : ∀ a∈normalizeModelNames c.settings.ignoredModels, cutPrefix a "regex:" = none) :
    m∈(c.pending matchString modelMapping upstream).1 ↔ m∈normalizeModelNames upstream ∧ m∉c.modelNames ∧
      m∉modelMapping.map Prod.snd ∧ m∉normalizeModelNames c.settings.ignoredModels := by
  have hfixed := ((clean_normalized upstream).filter (fun modelName =>
    modelName∉c.modelNames && modelName∉modelMapping.map Prod.snd &&
      !isIgnored matchString (normalizeModelNames c.settings.ignoredModels) modelName)).fixed
  refine (mem_normalize_of_fixed hfixed).trans ?_
  rw [List.mem_filter,Bool.and_eq_true,Bool.and_eq_true,decide_eq_true_eq,decide_eq_true_eq,Bool.not_eq_true',
    ←Bool.not_eq_true,isIgnored_iff hregex,and_assoc]

lemma mem_pendingRemove : m∈(c.pending matchString modelMapping upstream).2 ↔
    m∈c.modelNames ∧ m∉modelMapping.map Prod.fst ∧ m∉normalizeModelNames upstream := by
  have hfixed := ((clean_modelNames c).filter (fun modelName =>
    modelName∉modelMapping.map Prod.fst && modelName∉normalizeModelNames upstream)).fixed
  refine (mem_normalize_of_fixed hfixed).trans ?_
  rw [List.mem_filter,Bool.and_eq_true,decide_eq_true_eq,decide_eq_true_eq]

end PendingModels

end UpstreamModels
end Routing
end Tierflow
