import Tierflow.Foundation.JsonValues

/-! Fields that a channel does not let pass. A body with one of them is read into tables and written again without it,
any other body stays as it is. -/
namespace Tierflow
namespace Relay
open Json

structure ChannelOtherSettings where
  allowServiceTier : Bool := false
  allowInferenceGeo : Bool := false
  allowSpeed : Bool := false
  disableStore : Bool := false
  allowSafetyIdentifier : Bool := false
  allowIncludeObfuscation : Bool := false
  deriving DecidableEq, Repr

/-- The members of a body that are taken out, in the order of the code. -/
def removedFields (settings : ChannelOtherSettings) : List String :=
  [(!settings.allowServiceTier,"service_tier"),(!settings.allowInferenceGeo,"inference_geo"),
    (!settings.allowSpeed,"speed"),(settings.disableStore,"store"),
    (!settings.allowSafetyIdentifier,"safety_identifier")].filterMap (fun r => if r.1 then some r.2 else none)

def hasRemovableDisabledField (jsonData : Json) (settings : ChannelOtherSettings) : Bool :=
  (removedFields settings).any (fun k => reaches [k] jsonData) ||
    !settings.allowIncludeObfuscation && reaches ["stream_options","include_obfuscation"] jsonData

def delete (k : String) (data : Members) : Members := data.filter (fun r => r.1≠k)

def deleteIncludeObfuscation (data : Members) : Members :=
  match data.lookup "stream_options" with
  | some (.object streamOptions) =>
    let streamOptions := delete "include_obfuscation" streamOptions
    if streamOptions.isEmpty then delete "stream_options" data
    else assign data "stream_options" (.object streamOptions)
  | _ => data

def deleteDisabled (settings : ChannelOtherSettings) (data : Members) : Members :=
  let data := (removedFields settings).foldl (fun data k => delete k data) data
  if settings.allowIncludeObfuscation then data else deleteIncludeObfuscation data

/-- Only objects can be read. -/
def unmarshal (read : String → ℚ → Option (String × ℚ)) : Json → Option Members
  | .object members => rereadMembers read members
  | _ => none

section Removal
variable (read : String → ℚ → Option (String × ℚ)) (passThroughRequestEnabled : Bool)
variable (settings : ChannelOtherSettings) (channelPassThroughEnabled : Bool)

def removeDisabledFields (jsonData : Json) : Json :=
  if passThroughRequestEnabled || channelPassThroughEnabled then jsonData
  else if !hasRemovableDisabledField jsonData settings then jsonData
  else match unmarshal read jsonData with
    | some data => .object (deleteDisabled settings data)
    | none => jsonData

end Removal

/-! ## What is left of a body -/

/-- An object without one member. It goes itself if it had no other one. -/
noncomputable def withoutMember (k : String) : JsonValue → Option JsonValue
  | .object g => by
    classical
    exact if g k≠none ∧ Function.update g k none = (fun _ => none) then none
      else some (.object (Function.update g k none))
  | v => some v

noncomputable def keptFields (settings : ChannelOtherSettings) (f : String → Option JsonValue) (k : String) :
    Option JsonValue :=
  if k∈removedFields settings then none
  else if k = "stream_options" ∧ settings.allowIncludeObfuscation = false then
    (f k).bind (withoutMember "include_obfuscation")
  else f k

lemma withoutMember_object {k : String} {g h : String → Option JsonValue}
    (hg : withoutMember k (.object g) = some (.object h)) : h k = none := by
  rw [withoutMember,Option.ite_none_left_eq_some] at hg
  rw [←JsonValue.object.inj (Option.some.inj hg.2)]
  exact Function.update_self k none g

lemma withoutMember_of_none {k : String} {v : JsonValue} (h : ∀ g, v = .object g → g k = none) :
    withoutMember k v = some v := by
  cases v with
  | object g =>
    have hg := h g rfl
    rw [withoutMember,if_neg (fun h => h.1 hg),←hg,Function.update_eq_self]
  | _ => rfl

/-! ## Deleting -/

section Deleting
variable {settings : ChannelOtherSettings} {data : Members}

lemma streamOptions_not_removed (settings : ChannelOtherSettings) : "stream_options"∉removedFields settings := by
  simp [removedFields]

lemma nodup_delete (k : String) (hd : (data.map Prod.fst).Nodup) : ((delete k data).map Prod.fst).Nodup :=
  hd.sublist (List.filter_sublist.map Prod.fst)

lemma nodup_deleteAll (ks : List String) (hd : (data.map Prod.fst).Nodup) :
    ((ks.foldl (fun data k => delete k data) data).map Prod.fst).Nodup := by
  induction ks generalizing data with
  | nil => exact hd
  | cons k ks ih => exact ih (nodup_delete k hd)

lemma membersValue_delete (k : String) (data : Members) :
    membersValue (delete k data) = Function.update (membersValue data) k none := membersValue_filter data k

lemma membersValue_deleteAll (ks : List String) (data : Members) (j : String) :
    membersValue (ks.foldl (fun data k => delete k data) data) j = if j∈ks then none else membersValue data j := by
  induction ks generalizing data with
  | nil => rw [if_neg (by simp)]; rfl
  | cons k ks ih =>
    rw [List.foldl_cons,ih,membersValue_delete,Function.update_apply]
    by_cases hj : j = k <;> simp [hj]

lemma nodup_deleteIncludeObfuscation (hd : (data.map Prod.fst).Nodup) :
    ((deleteIncludeObfuscation data).map Prod.fst).Nodup := by
  unfold deleteIncludeObfuscation
  split
  next streamOptions h =>
    have hk : "stream_options"∈data.map Prod.fst :=
      List.mem_map_of_mem ((Keyed.lookup_eq_some_iff hd _ _).mp h)
    dsimp only
    split_ifs
    · exact nodup_delete _ hd
    · rw [fst_assign _ hk]
      exact hd
  next => exact hd

lemma membersValue_eq_empty_iff : membersValue data = (fun _ => none) ↔ data = [] := by
  constructor
  · cases data with
    | nil => exact fun _ => rfl
    | cons r l =>
      intro h
      exact absurd List.mem_cons_self (membersValue_eq_none_iff.mp (congrFun h r.1))
  · rintro rfl
    rfl

/-- Of the stream options goes one member, and with it the options if it is their only one. -/
lemma membersValue_deleteIncludeObfuscation (hd : (data.map Prod.fst).Nodup)
    (hne : membersValue data "stream_options"≠some (.object (fun _ => none))) :
    membersValue (deleteIncludeObfuscation data) = Function.update (membersValue data) "stream_options"
      ((membersValue data "stream_options").bind (withoutMember "include_obfuscation")) := by
  have hv := membersValue_eq_lookup hd "stream_options"
  unfold deleteIncludeObfuscation
  split
  next streamOptions h =>
    have hk : "stream_options"∈data.map Prod.fst :=
      List.mem_map_of_mem ((Keyed.lookup_eq_some_iff hd _ _).mp h)
    rw [h,Option.map_some,value] at hv
    rw [hv,Option.bind_some,withoutMember]
    have hw := membersValue_delete "include_obfuscation" streamOptions
    dsimp only
    by_cases he : (delete "include_obfuscation" streamOptions).isEmpty
    · have h0 := membersValue_eq_empty_iff.mpr (List.isEmpty_iff.mp he)
      have hg : membersValue streamOptions "include_obfuscation"≠none := by
        intro hg
        rw [Function.update_eq_self_iff.mpr hg.symm] at hw
        exact hne (by rw [hv,←hw,h0])
      rw [if_pos he,if_pos ⟨hg,hw.symm.trans h0⟩,membersValue_delete]
    · have h0 := mt (fun h => List.isEmpty_iff.mpr (membersValue_eq_empty_iff.mp (hw.trans h))) he
      rw [if_neg he,if_neg (fun h => h0 h.2),membersValue_assign hd hk,value,hw]
  next h =>
    have hsame : (membersValue data "stream_options").bind (withoutMember "include_obfuscation") =
        membersValue data "stream_options" := by
      rw [hv]
      cases hl : data.lookup "stream_options" with
      | none => rfl
      | some a =>
        cases a with
        | object n => exact absurd hl (h n)
        | _ => rfl
    rw [hsame,Function.update_eq_self]

lemma nodup_deleteDisabled (settings : ChannelOtherSettings) (hd : (data.map Prod.fst).Nodup) :
    ((deleteDisabled settings data).map Prod.fst).Nodup := by
  have hall := nodup_deleteAll (removedFields settings) hd
  unfold deleteDisabled
  cases settings.allowIncludeObfuscation
  · exact nodup_deleteIncludeObfuscation hall
  · exact hall

lemma membersValue_deleteDisabled (hd : (data.map Prod.fst).Nodup)
    (hne : settings.allowIncludeObfuscation = false →
      membersValue data "stream_options"≠some (.object (fun _ => none))) :
    membersValue (deleteDisabled settings data) = keptFields settings (membersValue data) := by
  have hall := membersValue_deleteAll (removedFields settings) data
  have hso := hall "stream_options"
  rw [if_neg (streamOptions_not_removed settings)] at hso
  funext j
  unfold deleteDisabled keptFields
  cases h : settings.allowIncludeObfuscation with
  | true =>
    rw [if_pos rfl,hall,if_neg (c := j = "stream_options" ∧ _) (by simp)]
  | false =>
    rw [if_neg Bool.false_ne_true,
      membersValue_deleteIncludeObfuscation (nodup_deleteAll _ hd) (by rw [hso]; exact hne h),
      Function.update_apply,hso,hall]
    by_cases hj : j = "stream_options"
    · rw [if_pos hj,hj,if_neg (streamOptions_not_removed settings),if_pos ⟨rfl,rfl⟩]
    · rw [if_neg hj,if_neg (c := j = "stream_options" ∧ _) (fun h => hj h.1)]

end Deleting

/-! ## What is kept -/

section Kept
variable {settings : ChannelOtherSettings} {data : Members} {f : String → Option JsonValue}

lemma keptFields_of_removed {k : String} (hk : k∈removedFields settings) : keptFields settings f k = none := if_pos hk

/-- What is left has none of the fields that are looked for. -/
lemma hasRemovable_of_kept (hd : (data.map Prod.fst).Nodup) (hv : membersValue data = keptFields settings f) :
    hasRemovableDisabledField (.object data) settings = false := by
  rw [hasRemovableDisabledField,Bool.or_eq_false_iff]
  constructor
  · rw [List.any_eq_false]
    intro k hk h
    exact reaches_singleton.mp h (by rw [hv,keptFields_of_removed hk])
  · by_contra h
    rw [Bool.not_eq_false,Bool.and_eq_true,Bool.not_eq_true'] at h
    obtain ⟨n,hn,hj⟩ := reaches_pair hd h.2
    have hso := membersValue_eq_lookup hd "stream_options"
    rw [hn,hv,keptFields,if_neg (streamOptions_not_removed settings),if_pos ⟨rfl,h.1⟩] at hso
    obtain ⟨v,hv,hw⟩ := Option.bind_eq_some_iff.mp hso
    cases v with
    | object g => exact hj (withoutMember_object hw)
    | _ => cases hw

lemma keptFields_of_untouched (h : hasRemovableDisabledField (.object data) settings = false) :
    keptFields settings (membersValue data) = membersValue data := by
  rw [hasRemovableDisabledField,Bool.or_eq_false_iff] at h
  obtain ⟨hall,hso⟩ := h
  funext k
  unfold keptFields
  split_ifs with hk hk
  · have h := List.any_eq_false.mp hall k hk
    rw [reaches_singleton,not_not] at h
    exact h.symm
  · obtain ⟨rfl,ha⟩ := hk
    rw [ha,Bool.not_false,Bool.true_and] at hso
    cases hv : membersValue data "stream_options" with
    | none => rfl
    | some v =>
      refine withoutMember_of_none fun g hg => ?_
      by_contra hne
      rw [hg] at hv
      exact Bool.false_ne_true (hso.symm.trans (reaches_pair_of_value hv hne))
  · rfl

end Kept

section Result
variable (read : String → ℚ → Option (String × ℚ)) {settings : ChannelOtherSettings} {members : Members}

lemma removeDisabledFields_of_touched (h : hasRemovableDisabledField (.object members) settings = true)
    {data : Members} (hd : rereadMembers read members = some data) :
    removeDisabledFields read false settings false (.object members) = .object (deleteDisabled settings data) := by
  rw [removeDisabledFields,if_neg (by decide),h,if_neg (by decide),unmarshal,hd]

lemma removeDisabledFields_of_untouched (h : hasRemovableDisabledField (.object members) settings = false) :
    removeDisabledFields read false settings false (.object members) = .object members := by
  rw [removeDisabledFields,if_neg (by decide),h,if_pos (by decide)]

end Result

/-- A request to store, with a tier that does not pass, an empty object and one of two options. -/
def tieredBody : Members :=
  [("service_tier",.string "flex"),("store",.bool true),("metadata",.object []),("n",.number "1" 1),
    ("stream_options",.object [("include_usage",.bool true),("include_obfuscation",.bool false)])]

end Relay
end Tierflow
