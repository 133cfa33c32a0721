import Tierflow.Routing.Agreement

/-! Whether a retry makes progress. Channels that were given up on are left out only after the tier was
chosen, so a tier of nothing else gives such a channel once more. -/
namespace Tierflow
namespace Routing
open RouteHealth (Manager)

lemma selectable_fresh {α : Type*} (m : Manager) (exclude : List ℕ) (id : α → ℕ) {l : List α}
    (h : ∃ a∈l, id a∉exclude) : ∀ a∈filterSelectable m exclude id l, id a∉exclude := by
  obtain ⟨a,ha,hfresh⟩ := h
  apply Selection.relax_meets (q := fun a => id a∉exclude)
  · intro p hp b hb
    rcases List.mem_cons.mp hp with rfl | hp
    · exact (of_decide_eq_true hb).1
    · rw [List.mem_singleton.mp hp] at hb
      exact of_decide_eq_true hb
  · exact ⟨_,List.mem_cons_of_mem _ (List.mem_singleton_self _),a,ha,decide_eq_true hfresh⟩

/-- The same of the pick from the database, whose tier may have no allowed channel at all. -/
theorem retry_progress_database_iff (t : Tables) (m : Manager) (r : Request)
    (hknown : ∀ a∈t.abilities, ∃ c, t.channels.find? a.channelId = some c) :
    (∀ roll id c, getChannelConstrained t m r roll = .ok (some (id,c)) → id∉r.exclude) ↔
      (targetAbilities t r≠[] → ∃ a∈targetAbilities t r, a.channelId∉r.exclude) := by
  have hpick := exists_getChannelConstrained_iff t m r
  constructor
  · intro h hne
    obtain ⟨a,as,ha⟩ := List.exists_cons_of_ne_nil (Selection.relax_ne_nil
      [fun a : Ability => a.channelId∉r.exclude ∧ m.isAvailable a.channelId (-1),
        fun a => a.channelId∉r.exclude] hne)
    have hsel : a∈filterSelectableAbilities m r.exclude (targetAbilities t r) := by
      rw [filterSelectableAbilities,filterSelectable,ha]
      exact List.mem_cons_self
    have hmem := Selection.relax_subset _ _ hsel
    have hab : a∈t.abilities :=
      (List.mem_filter.mp (List.mem_filter.mp (List.mem_filter.mp hmem).1).1).1
    obtain ⟨c,hc⟩ := hknown a hab
    obtain ⟨roll,hroll⟩ := (hpick a.channelId c).mpr ⟨hc,a,hsel,rfl⟩
    exact ⟨a,hmem,h roll _ c hroll⟩
  · intro h roll id c hroll
    obtain ⟨_,a,ha,rfl⟩ := (hpick id c).mp ⟨roll,hroll⟩
    exact selectable_fresh m r.exclude Ability.channelId
      (h (List.ne_nil_of_mem (Selection.relax_subset _ _ ha))) a ha

/-- Channels 1 and 2 in the first tier, channel 3 in the second. -/
def sharedTier : Tables :=
  withChannel (withChannel (withChannel ⟨.empty,[]⟩ (plainChannel 10 1)) (plainChannel 10 1)) (plainChannel 5 1)

def sharedTierCache : ChannelCache := ⟨cachedPool sharedTier,sharedTier.channels.find?⟩

lemma initChannelCache_sharedTier : initChannelCache sharedTier = some sharedTierCache :=
  if_pos (by decide)

/-- In the database, too, channel 2 is left when channel 1 has failed. -/
theorem retry_progress_database_iff_sharedTier :
    (∃ a∈targetAbilities sharedTier ⟨"default","model",0,[1],none⟩, a.channelId∉[1]) ∧
      ∀ roll id c, getChannelConstrained sharedTier quietBreaker ⟨"default","model",0,[1],none⟩ roll =
        .ok (some (id,c)) → id∉[1] := by
  have hids : ∀ a∈sharedTier.abilities, (sharedTier.channels.find? a.channelId).isSome = true := by decide
  have hfresh : ∃ a∈targetAbilities sharedTier ⟨"default","model",0,[1],none⟩, a.channelId∉[1] := by decide
  exact ⟨hfresh,(retry_progress_database_iff sharedTier quietBreaker ⟨"default","model",0,[1],none⟩
    fun a ha => Option.isSome_iff_exists.mp (hids a ha)).mpr fun _ => hfresh⟩

end Routing
end Tierflow
