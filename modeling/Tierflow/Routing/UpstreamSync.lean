import Tierflow.Routing.UpstreamModels

/-! The models of a channel checked against those of its upstream, again and again. When all that is pending has been
applied, nothing is pending, unless a name of the upstream has a comma. -/
namespace Tierflow
namespace Routing
namespace UpstreamModels
open Text CleanLists

/-! ## Checks -/

section CheckedChannel
variable {matchString : String → String → Bool} {modelMapping : ModelMapping} {c : SyncedChannel}
variable {now minInterval : ℤ} {force allowAutoApply : Bool} {upstream : List String} {m : String}

/-- What a check found is noted. -/
def SyncedChannel.noted (c : SyncedChannel) (now : ℤ) (pending : List String × List String) : SyncedChannel :=
  ⟨c.models,{ c.settings with
    lastCheckTime := now
    lastDetectedModels := pending.1
    lastRemovedModels := pending.2 }⟩

/-- What the upstream has more is taken over at once. -/
def SyncedChannel.taken (c : SyncedChannel) (now : ℤ) (pending : List String × List String) : SyncedChannel :=
  ⟨",".intercalate (mergeModelNames c.modelNames pending.1),{ c.settings with
    lastCheckTime := now
    lastDetectedModels := []
    lastRemovedModels := pending.2 }⟩

lemma notMem_of_pendingAdd (hm : m∈(c.pending matchString modelMapping upstream).1) : m∉c.modelNames := by
  obtain ⟨a,ha,hclean⟩ := mem_normalize.mp hm
  obtain ⟨hup,ha⟩ := List.mem_filter.mp ha
  obtain rfl : a = m := Option.some.inj (((clean_normalized upstream).fixed a hup).symm.trans hclean)
  rw [Bool.and_eq_true,Bool.and_eq_true,decide_eq_true_eq] at ha
  exact ha.1.1

lemma merged_eq : mergeModelNames c.modelNames (c.pending matchString modelMapping upstream).1 =
    c.modelNames++(c.pending matchString modelMapping upstream).1 := by
  rw [mergeModelNames,merge_eq cleanName_idem,normalize_of_clean (clean_modelNames c),
    normalize_of_clean clean_pendingAdd]
  refine congrArg (c.modelNames++·) (List.filter_eq_self.mpr fun m hm => ?_)
  exact decide_eq_true (notMem_of_pendingAdd hm)

theorem check_forced : (checkAndPersistChannelUpstreamModelUpdates matchString modelMapping now minInterval true
    allowAutoApply (some upstream) c).channel =
      if allowAutoApply = true ∧ c.settings.autoSyncEnabled = true ∧
        0 < (c.pending matchString modelMapping upstream).1.length
      then c.taken now (c.pending matchString modelMapping upstream)
      else c.noted now (c.pending matchString modelMapping upstream) := by
  rw [checkAndPersistChannelUpstreamModelUpdates,if_neg (by simp)]
  dsimp only
  by_cases h : allowAutoApply = true ∧ c.settings.autoSyncEnabled = true ∧
      0 < (c.pending matchString modelMapping upstream).1.length
  · rw [if_pos h,if_pos h,merged_eq,if_pos (by rw [List.length_append]; omega),SyncedChannel.taken,merged_eq]
  · rw [if_neg h,if_neg h]
    rfl

variable (matchString modelMapping c now minInterval force allowAutoApply) in
/-- A check that is not due, or has no list of the upstream, changes nothing but its time. -/
theorem check_cases (upstream? : Option (List String)) :
    let r := checkAndPersistChannelUpstreamModelUpdates matchString modelMapping now minInterval force allowAutoApply
      upstream? c
    (∃ t, r.channel = ⟨c.models,{ c.settings with lastCheckTime := t }⟩) ∨
      ∃ upstream, r.channel = c.taken now (c.pending matchString modelMapping upstream) ∨
        r.channel = c.noted now (c.pending matchString modelMapping upstream) := by
  dsimp only
  by_cases hdue : force = false ∧ 0 < c.settings.lastCheckTime ∧ now-c.settings.lastCheckTime < minInterval
  · rw [checkAndPersistChannelUpstreamModelUpdates,if_pos hdue]
    exact .inl ⟨c.settings.lastCheckTime,rfl⟩
  · cases upstream? with
    | none =>
      rw [checkAndPersistChannelUpstreamModelUpdates,if_neg hdue]
      exact .inl ⟨now,rfl⟩
    | some upstream =>
      have hforced : checkAndPersistChannelUpstreamModelUpdates matchString modelMapping now minInterval force
          allowAutoApply (some upstream) c = checkAndPersistChannelUpstreamModelUpdates matchString modelMapping now
          minInterval true allowAutoApply (some upstream) c := by
        rw [checkAndPersistChannelUpstreamModelUpdates,if_neg hdue,checkAndPersistChannelUpstreamModelUpdates,
          if_neg (by simp)]
      rw [hforced,check_forced]
      refine .inr ⟨upstream,?_⟩
      split_ifs
      · exact .inl rfl
      · exact .inr rfl

end CheckedChannel

/-! ## Detecting, applying, detecting -/

section Settling
variable {matchString : String → String → Bool} {modelMapping : ModelMapping} {c d : SyncedChannel}
variable {now now' minInterval : ℤ} {allowAutoApply : Bool} {upstream : List String} {m : String}

/-- A check whose pending changes are applied as a whole, the ignored models staying as they are. -/
def SyncedChannel.settled (matchString : String → String → Bool) (modelMapping : ModelMapping)
    (now minInterval now' : ℤ) (allowAutoApply : Bool) (upstream : List String) (c : SyncedChannel) : SyncedChannel :=
  let d := (checkAndPersistChannelUpstreamModelUpdates matchString modelMapping now minInterval true allowAutoApply
    (some upstream) c).channel
  (applyChannelUpstreamModelUpdates now' d d.settings.lastDetectedModels [] d.settings.lastRemovedModels).channel

/-- A name with a comma is covered by a target of the mapping or ignored. -/
def CommasCovered (modelMapping : ModelMapping) (c : SyncedChannel) (upstream : List String) : Prop :=
  ∀ m∈normalizeModelNames upstream, ','∈m.toList →
    m∈modelMapping.map Prod.snd ∨ m∈normalizeModelNames c.settings.ignoredModels

variable (matchString) in
lemma commasCovered_iff (hregex : ∀ a∈normalizeModelNames c.settings.ignoredModels, cutPrefix a "regex:" = none) :
    CommasCovered modelMapping c upstream ↔
      ∀ m∈(c.pending matchString modelMapping upstream).1, ','∉m.toList := by
  constructor
  · intro h m hm hcomma
    obtain ⟨hup,-,htarget,hignored⟩ := (mem_pendingAdd hregex).mp hm
    exact (h m hup hcomma).elim htarget hignored
  · intro h m hup hcomma
    by_contra hnot
    rw [not_or] at hnot
    refine h m ((mem_pendingAdd hregex).mpr ⟨hup,fun hm => ?_,hnot⟩) hcomma
    exact comma_notMem_modelNames hm hcomma

lemma chosen_nil (pending : List String) : chosen [] pending = [] := rfl

lemma chosen_self {l : List String} (hl : Clean cleanName l) : chosen l l = l := by
  rw [chosen,normalizeModelNames,normalize_of_clean hl,List.filter_eq_self]
  exact fun m hm => decide_eq_true hm

lemma mem_nextIgnored {add ignore : List String} : m∈normalizeModelNames (d.nextIgnored add ignore) ↔
    (m∈normalizeModelNames d.settings.ignoredModels ∨ m∈d.chosenIgnores ignore) ∧ m∉d.chosenAdds add := by
  have hmerge : Clean cleanName (mergeModelNames d.settings.ignoredModels (d.chosenIgnores ignore)) :=
    clean_merge cleanName_idem _ _
  have hmem : m∈mergeModelNames d.settings.ignoredModels (d.chosenIgnores ignore) ↔
      m∈normalizeModelNames d.settings.ignoredModels ∨ m∈d.chosenIgnores ignore := by
    exact (mem_merge cleanName_idem).trans (or_congr_right (mem_normalize_of_fixed (clean_chosen _ _).fixed))
  rw [SyncedChannel.nextIgnored]
  split_ifs with h
  · rw [subtract_of_clean hmerge clean_chosenAdds,normalizeModelNames,normalize_of_clean (hmerge.filter _),
      List.mem_filter,hmem,decide_eq_true_eq]
  · have hnil : d.chosenAdds add = [] := List.length_eq_zero_iff.mp (by omega)
    rw [normalizeModelNames,normalize_of_clean hmerge,hmem,hnil]
    exact (and_iff_left List.not_mem_nil).symm

/-- A channel after its pending changes were applied. -/
structure Settles (pending : List String × List String) (c d : SyncedChannel) : Prop where
  models : ∀ m, m∈d.modelNames ↔ m∈c.modelNames ∧ m∉pending.2 ∨ m∈pending.1
  ignored : ∀ m, m∈normalizeModelNames d.settings.ignoredModels →
    m∈normalizeModelNames c.settings.ignoredModels
  kept : ∀ m, m∈normalizeModelNames c.settings.ignoredModels → m∉pending.1 →
    m∈normalizeModelNames d.settings.ignoredModels

section Applied
variable {add remove : List String}

lemma apply_ignored (h : m∈normalizeModelNames
    (applyChannelUpstreamModelUpdates now' d add [] remove).channel.settings.ignoredModels) :
    m∈normalizeModelNames d.settings.ignoredModels := by
  rw [apply_eq] at h
  have hm := mem_nextIgnored.mp h
  rw [SyncedChannel.chosenIgnores,chosen_nil] at hm
  exact hm.1.resolve_right List.not_mem_nil

lemma apply_kept (h : m∈normalizeModelNames d.settings.ignoredModels) (hm : m∉d.chosenAdds add) :
    m∈normalizeModelNames
      (applyChannelUpstreamModelUpdates now' d add [] remove).channel.settings.ignoredModels := by
  rw [apply_eq]
  exact mem_nextIgnored.mpr ⟨.inl h,hm⟩

end Applied

lemma disjoint_pending (hm : m∈(c.pending matchString modelMapping upstream).1) :
    m∉(c.pending matchString modelMapping upstream).2 :=
  fun h => notMem_of_pendingAdd hm (mem_pendingRemove.mp h).1

/-- The pending changes of a channel that are noted and applied. -/
lemma settles_noted (hcomma : ∀ m∈(c.pending matchString modelMapping upstream).1, ','∉m.toList) :
    let d := c.noted now (c.pending matchString modelMapping upstream)
    Settles (c.pending matchString modelMapping upstream) c
      (applyChannelUpstreamModelUpdates now' d d.settings.lastDetectedModels []
        d.settings.lastRemovedModels).channel := by
  intro d
  have hadd : d.chosenAdds d.settings.lastDetectedModels = (c.pending matchString modelMapping upstream).1 :=
    chosen_self clean_pendingAdd
  have hremove : d.chosenRemoves d.settings.lastDetectedModels d.settings.lastRemovedModels =
      (c.pending matchString modelMapping upstream).2 := by
    rw [SyncedChannel.chosenRemoves,hadd]
    refine Eq.trans (congrArg (List.filter _) (chosen_self (clean_pendingRemove matchString)))
      (List.filter_eq_self.mpr fun m hm => ?_)
    exact decide_eq_true (fun h => disjoint_pending h hm)
  refine ⟨fun m => ?_,fun m => apply_ignored,fun m h hm => apply_kept h (hadd ▸ hm)⟩
  rw [(apply_modelNames_iff now' _ _).mpr (by rw [hadd]; exact hcomma),mem_chosenModels,hadd,hremove]
  rfl

/-- Those of a channel whose additions were taken over by the check. -/
lemma settles_taken (hcomma : ∀ m∈(c.pending matchString modelMapping upstream).1, ','∉m.toList) :
    let d := c.taken now (c.pending matchString modelMapping upstream)
    Settles (c.pending matchString modelMapping upstream) c
      (applyChannelUpstreamModelUpdates now' d d.settings.lastDetectedModels []
        d.settings.lastRemovedModels).channel := by
  intro d
  have hclean : Clean cleanName (c.modelNames++(c.pending matchString modelMapping upstream).1) :=
    (clean_modelNames c).append clean_pendingAdd (fun m hm => notMem_of_pendingAdd hm)
  have hnames : d.modelNames = c.modelNames++(c.pending matchString modelMapping upstream).1 := by
    refine (congrArg (fun l => (⟨",".intercalate l,d.settings⟩ : SyncedChannel).modelNames) merged_eq).trans ?_
    refine names_join_of_clean hclean (fun m hm => ?_) _
    exact (List.mem_append.mp hm).elim comma_notMem_modelNames (hcomma m)
  have hadd : d.chosenAdds d.settings.lastDetectedModels = [] := rfl
  have hremove : d.chosenRemoves d.settings.lastDetectedModels d.settings.lastRemovedModels =
      (c.pending matchString modelMapping upstream).2 := by
    rw [SyncedChannel.chosenRemoves,hadd]
    refine Eq.trans (congrArg (List.filter _) (chosen_self (clean_pendingRemove matchString)))
      (List.filter_eq_self.mpr fun m _ => ?_)
    exact decide_eq_true List.not_mem_nil
  refine ⟨fun m => ?_,fun m => apply_ignored,fun m h _ => apply_kept h (hadd ▸ List.not_mem_nil)⟩
  rw [(apply_modelNames_iff now' _ _).mpr (by rw [hadd]; simp),mem_chosenModels,hadd,hremove,hnames,List.mem_append,
    or_iff_left List.not_mem_nil,or_and_right]
  exact or_congr_right (and_iff_left_of_imp disjoint_pending)

/-- Nothing is pending for a channel that has what was pending. -/
theorem no_pending_of_settles
    (hregex : ∀ a∈normalizeModelNames c.settings.ignoredModels, cutPrefix a "regex:" = none)
    (h : Settles (c.pending matchString modelMapping upstream) c d) :
    d.pending matchString modelMapping upstream = ([],[]) := by
  have hregex' : ∀ a∈normalizeModelNames d.settings.ignoredModels, cutPrefix a "regex:" = none :=
    fun a ha => hregex a (h.ignored a ha)
  refine Prod.ext (List.eq_nil_iff_forall_not_mem.mpr fun m hm => ?_)
    (List.eq_nil_iff_forall_not_mem.mpr fun m hm => ?_)
  · obtain ⟨hup,hnot,htarget,hignored⟩ := (mem_pendingAdd hregex').mp hm
    rw [h.models,not_or,not_and,not_not] at hnot
    by_cases hc : m∈c.modelNames
    · -- a model that was removed is not in the upstream
      exact (mem_pendingRemove.mp (hnot.1 hc)).2.2 hup
    · exact hnot.2 ((mem_pendingAdd hregex).mpr ⟨hup,hc,htarget,fun hi => hignored (h.kept m hi hnot.2)⟩)
  · obtain ⟨hd,hsource,hup⟩ := mem_pendingRemove.mp hm
    rcases (h.models m).mp hd with hc | hadd
    · exact hc.2 (mem_pendingRemove.mpr ⟨hc.1,hsource,hup⟩)
    · exact hup ((mem_pendingAdd hregex).mp hadd).1

lemma forced_settles (hcomma : ∀ m∈(c.pending matchString modelMapping upstream).1, ','∉m.toList) :
    Settles (c.pending matchString modelMapping upstream) c
      (c.settled matchString modelMapping now minInterval now' allowAutoApply upstream) := by
  rw [SyncedChannel.settled,check_forced]
  split_ifs
  · exact settles_taken hcomma
  · exact settles_noted hcomma

variable (now minInterval now' allowAutoApply) in
/-- A name with a comma is pending again. -/
lemma comma_pending_again
    (hregex : ∀ a∈normalizeModelNames c.settings.ignoredModels, cutPrefix a "regex:" = none)
    (hm : m∈(c.pending matchString modelMapping upstream).1) (hcomma : ','∈m.toList) :
    m∈((c.settled matchString modelMapping now minInterval now' allowAutoApply upstream).pending matchString
      modelMapping upstream).1 := by
  have hsub : ∀ a∈normalizeModelNames (c.settled matchString modelMapping now minInterval now' allowAutoApply
      upstream).settings.ignoredModels, a∈normalizeModelNames c.settings.ignoredModels := by
    intro a ha
    have h := apply_ignored ha
    rw [check_forced] at h
    split_ifs at h
    · exact h
    · exact h
  obtain ⟨hup,-,htarget,hignored⟩ := (mem_pendingAdd hregex).mp hm
  exact (mem_pendingAdd (fun a ha => hregex a (hsub a ha))).mpr
    ⟨hup,fun h => comma_notMem_modelNames h hcomma,htarget,fun h => hignored (hsub m h)⟩

/-- After everything pending was applied nothing is pending, exactly if the names with commas are covered. -/
theorem settled_iff (hregex : ∀ a∈normalizeModelNames c.settings.ignoredModels, cutPrefix a "regex:" = none) :
    (c.settled matchString modelMapping now minInterval now' allowAutoApply upstream).pending matchString modelMapping
        upstream = ([],[]) ↔ CommasCovered modelMapping c upstream := by
  rw [commasCovered_iff matchString hregex]
  constructor
  · intro h m hm hcomma
    have hagain := comma_pending_again now now' minInterval allowAutoApply hregex hm hcomma
    rw [h] at hagain
    exact List.not_mem_nil hagain
  · exact fun hcomma => no_pending_of_settles hregex (forced_settles hcomma)

end Settling

/-! ## Runs -/

inductive SyncOp
  | check (now minInterval : ℤ) (force allowAutoApply : Bool) (upstreamModels : Option (List String))
  | apply (now : ℤ) (addModels ignoreModels removeModels : List String)

section Runs
variable (matchString : String → String → Bool) (modelMapping : ModelMapping)

def SyncedChannel.step (c : SyncedChannel) : SyncOp → SyncedChannel
  | .check now minInterval force allowAutoApply upstreamModels =>
    (checkAndPersistChannelUpstreamModelUpdates matchString modelMapping now minInterval force allowAutoApply
      upstreamModels c).channel
  | .apply now addModels ignoreModels removeModels =>
    (applyChannelUpstreamModelUpdates now c addModels ignoreModels removeModels).channel

def SyncedChannel.run (c : SyncedChannel) (ops : List SyncOp) : SyncedChannel :=
  ops.foldl (SyncedChannel.step matchString modelMapping) c

/-- No model that the channel renames is to be removed. -/
def SourcesStay (c : SyncedChannel) : Prop :=
  ∀ m∈normalizeModelNames c.settings.lastRemovedModels, m∉modelMapping.map Prod.fst

variable {matchString modelMapping} {c : SyncedChannel} {m : String}

lemma sourcesStay_noted (c : SyncedChannel) (now : ℤ) (upstream : List String) :
    SourcesStay modelMapping (c.noted now (c.pending matchString modelMapping upstream)) := by
  intro m hm
  have hm := (mem_normalize_of_fixed (clean_pendingRemove matchString).fixed).mp hm
  exact (mem_pendingRemove.mp hm).2.1

lemma names_taken (hm : m∈c.modelNames) (now : ℤ) (upstream : List String) :
    m∈(c.taken now (c.pending matchString modelMapping upstream)).modelNames := by
  refine mem_names_join ?_ ((clean_modelNames c).fixed m hm) (comma_notMem_modelNames hm) _
  rw [merged_eq]
  exact List.mem_append_left _ hm

variable (matchString) in
/-- A check takes no model away. -/
lemma check_sources (now minInterval : ℤ) (force allowAutoApply : Bool) (upstream? : Option (List String))
    (h : SourcesStay modelMapping c) :
    let d := (checkAndPersistChannelUpstreamModelUpdates matchString modelMapping now minInterval force allowAutoApply
      upstream? c).channel
    (∀ m∈c.modelNames, m∈d.modelNames) ∧ SourcesStay modelMapping d := by
  obtain ⟨t,hd⟩ | ⟨upstream,hd | hd⟩ := check_cases matchString modelMapping c now minInterval force
    allowAutoApply upstream?
  · rw [hd]
    exact ⟨fun m hm => hm,h⟩
  · rw [hd]
    exact ⟨fun m hm => names_taken hm now upstream,sourcesStay_noted c now upstream⟩
  · rw [hd]
    exact ⟨fun m hm => hm,sourcesStay_noted c now upstream⟩

variable (matchString modelMapping c) in
/-- Behind a check that was made in any case no source is to be removed. -/
lemma forced_sources (now minInterval : ℤ) (allowAutoApply : Bool) (upstream : List String) :
    let d := (checkAndPersistChannelUpstreamModelUpdates matchString modelMapping now minInterval true allowAutoApply
      (some upstream) c).channel
    (∀ m∈c.modelNames, m∈d.modelNames) ∧ SourcesStay modelMapping d := by
  rw [check_forced]
  split_ifs
  · exact ⟨fun m hm => names_taken hm now upstream,sourcesStay_noted c now upstream⟩
  · exact ⟨fun m hm => hm,sourcesStay_noted c now upstream⟩

/-- An application takes none of the sources away. -/
lemma apply_sources (now : ℤ) (add ignore remove : List String) (h : SourcesStay modelMapping c) :
    let d := (applyChannelUpstreamModelUpdates now c add ignore remove).channel
    (∀ m∈c.modelNames, m∈modelMapping.map Prod.fst → m∈d.modelNames) ∧ SourcesStay modelMapping d := by
  intro d
  have hd : d = (applyChannelUpstreamModelUpdates now c add ignore remove).channel := rfl
  rw [apply_eq] at hd
  constructor
  · intro m hm hsource
    have hstays : m∈c.chosenModels add remove := by
      refine mem_chosenModels.mpr (.inl ⟨hm,fun hr => ?_⟩)
      have hr := List.mem_of_mem_filter hr
      exact h m (of_decide_eq_true (List.mem_filter.mp hr).2) hsource
    rw [hd]
    dsimp only
    rw [SyncedChannel.nextModelsText]
    split_ifs
    · exact mem_names_join hstays ((clean_modelNames c).fixed m hm) (comma_notMem_modelNames hm) _
    · exact hm
  · intro m hm
    rw [hd] at hm
    have hclean := (clean_normalized c.settings.lastRemovedModels).filter (fun m => m∉c.chosenRemoves add remove)
    exact h m (List.mem_of_mem_filter ((mem_normalize_of_fixed hclean.fixed).mp hm))

theorem run_sources (h : SourcesStay modelMapping c) (ops : List SyncOp) :
    ∀ m∈c.modelNames, m∈modelMapping.map Prod.fst → m∈(c.run matchString modelMapping ops).modelNames := by
  induction ops generalizing c with
  | nil => exact fun m hm _ => hm
  | cons op ops ih =>
    intro m hm hsource
    cases op with
    | check now minInterval force allowAutoApply upstream? =>
      have hcheck := check_sources matchString now minInterval force allowAutoApply upstream? h
      exact ih hcheck.2 m (hcheck.1 m hm) hsource
    | apply now add ignore remove =>
      have happly := apply_sources now add ignore remove h
      exact ih happly.2 m (happly.1 m hm hsource) hsource

end Runs

/-- An application takes what was chosen and leaves the rest pending, a channel settles, and neither does a run take a
source of the mapping away nor a check propose an ignored model, exactly if no name with a comma is to be added. -/
theorem upstreamSync_iff (matchString : String → String → Bool) (modelMapping : ModelMapping) (c : SyncedChannel)
    (add ignore remove upstream : List String) (now now' minInterval : ℤ) (allowAutoApply : Bool)
    (hregex : ∀ a∈normalizeModelNames c.settings.ignoredModels, cutPrefix a "regex:" = none) :
    (AppliesChoice c add ignore remove (applyChannelUpstreamModelUpdates now c add ignore remove) ∧
      (c.settled matchString modelMapping now minInterval now' allowAutoApply upstream).pending matchString modelMapping
        upstream = ([],[]) ∧
      (∀ ops, ∀ m∈c.modelNames, m∈modelMapping.map Prod.fst →
        m∈((checkAndPersistChannelUpstreamModelUpdates matchString modelMapping now minInterval true allowAutoApply
          (some upstream) c).channel.run matchString modelMapping ops).modelNames) ∧
      ∀ m∈(c.pending matchString modelMapping upstream).1, m∉normalizeModelNames c.settings.ignoredModels) ↔
      (∀ m∈normalizeModelNames add, m∈normalizeModelNames c.settings.lastDetectedModels → ','∉m.toList) ∧
        CommasCovered modelMapping c upstream := by
  have hchosen : (∀ m∈c.chosenAdds add, ','∉m.toList) ↔
      ∀ m∈normalizeModelNames add, m∈normalizeModelNames c.settings.lastDetectedModels → ','∉m.toList := by
    refine forall_congr' fun m => ?_
    rw [SyncedChannel.chosenAdds,chosen,List.mem_filter,decide_eq_true_eq,and_imp]
  rw [appliesChoice_iff,hchosen,settled_iff hregex]
  refine and_congr_right fun _ => and_iff_left ⟨fun ops m hm hsource => ?_,fun m hm => ?_⟩
  · have hforced := forced_sources matchString modelMapping c now minInterval allowAutoApply upstream
    exact run_sources hforced.2 ops m (hforced.1 m hm) hsource
  · exact ((mem_pendingAdd hregex).mp hm).2.2.2

/-- A channel with a renamed model, an ignored one and one that the upstream has no more. -/
def renamedChannel : SyncedChannel := ⟨"alias,old,kept",⟨false,0,["new"],["old"],["beta"]⟩⟩

theorem renamedChannel_syncs :
    AppliesChoice renamedChannel ["new"] [] ["old"]
        (applyChannelUpstreamModelUpdates 1 renamedChannel ["new"] [] ["old"]) ∧
      (renamedChannel.settled (fun _ _ => false) [("alias","target")] 1 0 1 false
        ["kept","new","target","beta"]).pending (fun _ _ => false) [("alias","target")]
        ["kept","new","target","beta"] = ([],[]) ∧
      (∀ ops, ∀ m∈renamedChannel.modelNames, m∈[("alias","target")].map Prod.fst →
        m∈((checkAndPersistChannelUpstreamModelUpdates (fun _ _ => false) [("alias","target")] 1 0 true false
          (some ["kept","new","target","beta"]) renamedChannel).channel.run (fun _ _ => false) [("alias","target")]
            ops).modelNames) ∧
      ∀ m∈(renamedChannel.pending (fun _ _ => false) [("alias","target")] ["kept","new","target","beta"]).1,
        m∉normalizeModelNames renamedChannel.settings.ignoredModels :=
  (upstreamSync_iff (fun _ _ => false) [("alias","target")] renamedChannel ["new"] [] ["old"]
    ["kept","new","target","beta"] 1 1 0 false (by decide)).mpr ⟨by decide,by
      unfold CommasCovered
      decide⟩

/-- A name with a comma is added and removed again and again. -/
theorem comma_name_pending : ¬∀ (matchString : String → String → Bool) (modelMapping : ModelMapping)
    (c : SyncedChannel) (upstream : List String),
    (∀ a∈normalizeModelNames c.settings.ignoredModels, cutPrefix a "regex:" = none) →
      (c.settled matchString modelMapping 1 0 1 false upstream).pending matchString modelMapping upstream =
        ([],[]) := by
  intro h
  have hnone := h (fun _ _ => false) [] ⟨"kept",⟨false,0,[],[],[]⟩⟩ ["kept","a,b"] (by decide)
  exact absurd hnone (by decide)

end UpstreamModels
end Routing
end Tierflow
