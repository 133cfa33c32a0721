import Tierflow.Routing.Channels

/-! The key of a multi-key channel that is used next. Keys that were tried already for the request are
never chosen again; among the others the ones that are not cooling come first. -/
namespace Tierflow
namespace Routing
open RouteHealth (Manager)

inductive KeyError
  | noKeysAvailable
  | noEnabledKeys
  | getChannelFailed
  deriving DecidableEq, Repr

namespace Channel

/-- A key without a recorded status is enabled. -/
def keyStatus (c : Channel) (idx : ℕ) : ChannelStatus :=
  (c.channelInfo.multiKeyStatusList.lookup idx).getD .enabled

/-- The enabled keys that were not tried. -/
def untriedKeys (c : Channel) (exclude : List ℕ) : List ℕ :=
  (List.range c.keys.length).filter (fun i => i∉exclude ∧ c.keyStatus i = .enabled)

/-- The untried keys that are not cooling, or all untried keys if all of them are. -/
def availableKeys (c : Channel) (m : Manager) (id : ℕ) (exclude : List ℕ) : List ℕ :=
  let enabledIdx := c.untriedKeys exclude
  let availIdx := enabledIdx.filter (fun i : ℕ => m.isAvailable id i)
  if availIdx = [] then enabledIdx else availIdx

/-- The first available key from the saved index on, going round. -/
def pollKey (c : Channel) (pollingIndex : ℤ) (availIdx : List ℕ) : Option ℕ :=
  let n := c.keys.length
  let start := if pollingIndex<0 ∨ n≤pollingIndex then 0 else pollingIndex.toNat
  ((List.range n).map (fun i => (start+i)%n)).find? (fun i => c.keyStatus i = .enabled ∧ i∈availIdx)

/-- The index of the next key; a channel that is not in multi-key mode has only the key of index
zero. `cached` is the cached state of the channel, if there is one. -/
def getNextEnabledKeyExcluding (c : Channel) (m : Manager) (cached : Option ChannelInfo) (id : ℕ)
    (exclude : List ℕ) (roll : ℕ) : Except KeyError ℕ :=
  if !c.channelInfo.isMultiKey then .ok 0
  else if c.keys = [] then .error .noKeysAvailable
  else
    let availIdx := c.availableKeys m id exclude
    match availIdx with
    | [] => .error .noEnabledKeys
    | first::_ =>
      match c.channelInfo.multiKeyMode with
      | .random => orFail .noEnabledKeys availIdx[roll%availIdx.length]?
      | .polling =>
        match cached with
        | none => .error .getChannelFailed
        | some info => .ok ((c.pollKey info.multiKeyPollingIndex availIdx).getD first)
      | .unknown => .ok first

def hasUntriedEnabledKey (c : Channel) (exclude : List ℕ) : Bool :=
  if !c.channelInfo.isMultiKey then false
  else (List.range c.keys.length).any (fun i => i∉exclude ∧ c.keyStatus i = .enabled)

lemma mem_untriedKeys {c : Channel} {exclude : List ℕ} {i : ℕ} :
    i∈c.untriedKeys exclude ↔ i < c.keys.length ∧ i∉exclude ∧ c.keyStatus i = .enabled := by
  unfold untriedKeys
  rw [List.mem_filter,List.mem_range,decide_eq_true_eq]

lemma availableKeys_subset (c : Channel) (m : Manager) (id : ℕ) (exclude : List ℕ) :
    c.availableKeys m id exclude⊆c.untriedKeys exclude := by
  unfold availableKeys
  simp only
  split_ifs
  · exact List.Subset.refl _
  · exact fun i hi => (List.mem_filter.mp hi).1

lemma availableKeys_eq_nil {c : Channel} {m : Manager} {id : ℕ} {exclude : List ℕ} :
    c.availableKeys m id exclude = [] ↔ c.untriedKeys exclude = [] := by
  unfold availableKeys
  simp only
  split_ifs with h
  · exact Iff.rfl
  · refine iff_of_false h ?_
    intro hnil
    rw [hnil] at h
    exact h rfl

lemma pollKey_mem (c : Channel) {pollingIndex : ℤ} {availIdx : List ℕ} {i : ℕ}
    (h : c.pollKey pollingIndex availIdx = some i) : i∈availIdx := by
  have hs := List.find?_some (p := fun i => decide (c.keyStatus i = .enabled ∧ i∈availIdx)) h
  exact (of_decide_eq_true hs).2

/-- The key that a multi-key channel uses next is enabled and was not tried before. -/
theorem nextKey_untried {c : Channel} {m : Manager} {cached : Option ChannelInfo} {id roll idx : ℕ}
    {exclude : List ℕ} (hc : c.channelInfo.isMultiKey = true)
    (h : c.getNextEnabledKeyExcluding m cached id exclude roll = .ok idx) : idx∈c.untriedKeys exclude := by
  unfold getNextEnabledKeyExcluding at h
  rw [hc] at h
  simp only [Bool.not_true,Bool.false_eq_true,if_false] at h
  split_ifs at h
  apply c.availableKeys_subset m id exclude
  cases ha : c.availableKeys m id exclude with
  | nil =>
    rw [ha] at h
    contradiction
  | cons first rest =>
    rw [ha] at h
    simp only at h
    split at h
    · exact List.mem_of_getElem? (orFail_eq_ok.mp h)
    · cases cached with
      | none => contradiction
      | some info =>
        rw [←Except.ok.inj h]
        cases hp : c.pollKey info.multiKeyPollingIndex (first::rest) with
        | none => exact List.mem_cons_self
        | some i => exact c.pollKey_mem hp
    · rw [←Except.ok.inj h]
      exact List.mem_cons_self

lemma hasUntriedEnabledKey_iff {c : Channel} {exclude : List ℕ} :
    c.hasUntriedEnabledKey exclude = true ↔ c.channelInfo.isMultiKey = true ∧ c.untriedKeys exclude≠[] := by
  unfold hasUntriedEnabledKey
  cases c.channelInfo.isMultiKey with
  | false => simp
  | true =>
    simp only [Bool.not_true,Bool.false_eq_true,if_false,List.any_eq_true,true_and]
    rw [Ne,List.eq_nil_iff_forall_not_mem]
    push Not
    apply exists_congr
    intro i
    rw [mem_untriedKeys,List.mem_range,decide_eq_true_eq]

/-- As long as a key is left, the channel has a next key. -/
theorem exists_nextKey {c : Channel} {exclude : List ℕ} (h : c.hasUntriedEnabledKey exclude = true)
    (m : Manager) (info : ChannelInfo) (id roll : ℕ) :
    ∃ idx, c.getNextEnabledKeyExcluding m (some info) id exclude roll = .ok idx := by
  obtain ⟨hmulti,hne⟩ := hasUntriedEnabledKey_iff.mp h
  have hkeys : c.keys≠[] := by
    rintro hnil
    apply hne
    rw [List.eq_nil_iff_forall_not_mem]
    intro i hi
    have := (mem_untriedKeys.mp hi).1
    simp [hnil] at this
  have hav : c.availableKeys m id exclude≠[] := fun hnil => hne (availableKeys_eq_nil.mp hnil)
  obtain ⟨first,rest,ha⟩ := List.exists_cons_of_ne_nil hav
  unfold getNextEnabledKeyExcluding
  rw [hmulti,if_neg (by simp),if_neg hkeys]
  simp only [ha]
  split
  · have hlt : roll%(first::rest).length<(first::rest).length := Nat.mod_lt _ (by simp)
    exact ⟨_,orFail_eq_ok.mpr (List.getElem?_eq_getElem hlt)⟩
  · exact ⟨_,rfl⟩
  · exact ⟨first,rfl⟩

end Channel
end Routing
end Tierflow
