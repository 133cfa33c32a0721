import Tierflow.Relay.Loop

/-! Model groups. A tier of a routing profile may refer to a group; a request of such a tier is addressed to
the members of the group, each of them a channel together with the upstream model to ask it for. -/
namespace Tierflow
namespace Relay
open RouteHealth (Manager)

structure ModelGroup where
  enabled : Bool
  deriving DecidableEq, Repr

structure ModelGroupMemberRow where
  groupId : ℕ
  channelId : ℕ
  modelName : String
  priority : Option ℤ
  deriving DecidableEq, Repr

/-- The rows from which the cache of group members was last built. -/
structure GroupTables where
  modelGroups : Table ModelGroup
  modelGroupMembers : Table ModelGroupMemberRow

def ModelGroupMemberRow.member (r : ModelGroupMemberRow) : ModelGroupMember := ⟨r.channelId,r.modelName⟩

/-- Only enabled groups are cached. -/
def getModelGroupMembers (t : GroupTables) (groupId : ℕ) : List ModelGroupMemberRow :=
  match t.modelGroups.find? groupId with
  | none => []
  | some g =>
    if g.enabled then (t.modelGroupMembers.rows.map Prod.snd).filter (fun r => r.groupId = groupId) else []

def memberPriority (r : ModelGroupMemberRow) : ℤ := r.priority.getD 0

/-- The highest priority first, members of equal priority in the order of their rows. -/
def getOrderedModelGroupMembers (t : GroupTables) (groupId : ℕ) : List ModelGroupMember :=
  ((getModelGroupMembers t groupId).insertionSort (fun a b => memberPriority b ≤ memberPriority a)).map
    ModelGroupMemberRow.member

def allowedChannelIdsFromMembers (members : List ModelGroupMember) : Option (List ℕ) :=
  if members = [] then none else some (members.map ModelGroupMember.channelId)

/-! ## References to groups -/

def modelGroupRefPrefix : String := "mg:"

def parseModelGroupRef (tierValue : String) : Option ℕ :=
  match Text.cutPrefix (Text.trimSpace tierValue) modelGroupRefPrefix with
  | none => none
  | some rest =>
    match Text.parseInt64 (Text.trimSpace rest) with
    | none => none
    | some id => if id≤0 then none else some id.toNat

def formatModelGroupRef (groupId : ℕ) : String := modelGroupRefPrefix++Text.printInt groupId

/-- What is written as a reference is read back, if it is a machine integer at all. -/
theorem parseModelGroupRef_format {groupId : ℕ} (hpos : 0<groupId) (hfits : groupId<2^63) :
    parseModelGroupRef (formatModelGroupRef groupId) = some groupId := by
  have hdigit : ∀ c∈(Text.printInt groupId).toList, Text.isSpace c = false := by
    intro c hc
    rw [Text.toList_printInt_of_nonneg (Int.natCast_nonneg groupId)] at hc
    exact Text.isSpace_of_isDigit (Nat.isDigit_of_mem_toDigits (by decide) (by decide) hc)
  have hword : Text.IsWord (Text.printInt groupId) := by
    refine ⟨?_,hdigit⟩
    rw [Text.toList_printInt_of_nonneg (Int.natCast_nonneg groupId)]
    exact Nat.toDigits_ne_nil
  have hlead : Text.IsWord modelGroupRefPrefix := by
    have hchars : modelGroupRefPrefix.toList = ['m','g',':'] := rfl
    unfold Text.IsWord
    rw [hchars]
    refine ⟨List.cons_ne_nil _ _,?_⟩
    simp only [List.forall_mem_cons]
    exact ⟨rfl,rfl,rfl,fun c hc => absurd hc List.not_mem_nil⟩
  have hlt : (groupId : ℤ)<2^63 := by omega
  unfold parseModelGroupRef formatModelGroupRef
  rw [Text.trimSpace_word (hlead.append hdigit),Text.cutPrefix_append]
  simp only
  rw [Text.trimSpace_word hword,Text.parseInt64_printInt (Int.natCast_nonneg groupId),if_pos hlt]
  simp only
  rw [if_neg (by omega),Int.toNat_natCast]

/-! ## Routing to a group -/

/-- A request as the router passes it on. -/
structure RoutedRequest where
  model : String
  autoRouteAlias : Option String
  modelGroupId : Option ℕ
  modelGroupMembers : List ModelGroupMember
  allowedChannelIds : Option (List ℕ)

/-- A request that the router leaves as it is. -/
def RoutedRequest.unchanged (requestedModel : String) : RoutedRequest where
  model := requestedModel
  autoRouteAlias := none
  modelGroupId := none
  modelGroupMembers := []
  allowedChannelIds := none

/-- The first member that is available; a request whose body cannot be written keeps its model. -/
def routeToGroup (t : GroupTables) (m : Manager) (bodyWritten : Bool) (requestedModel : String) (groupId : ℕ) :
    RoutedRequest :=
  let members := getOrderedModelGroupMembers t groupId
  match pickModelGroupMember m members [] with
  | none => .unchanged requestedModel
  | some member =>
    { model := if bodyWritten then member.modelName else requestedModel
      autoRouteAlias := if bodyWritten then some requestedModel else none
      modelGroupId := some groupId
      modelGroupMembers := members
      allowedChannelIds := allowedChannelIdsFromMembers members }

/-- A tier is a model by itself or refers to a group. -/
def routeToTier (t : GroupTables) (m : Manager) (bodyWritten : Bool) (requestedModel tierValue : String) :
    RoutedRequest :=
  match parseModelGroupRef tierValue with
  | some groupId => routeToGroup t m bodyWritten requestedModel groupId
  | none =>
    if bodyWritten then
      { RoutedRequest.unchanged requestedModel with
        model := tierValue
        autoRouteAlias := some requestedModel }
    else .unchanged requestedModel

variable {t : GroupTables} {groupId : ℕ}

lemma mem_getModelGroupMembers {r : ModelGroupMemberRow} : r∈getModelGroupMembers t groupId ↔
    (∃ g, t.modelGroups.find? groupId = some g ∧ g.enabled = true) ∧ r.groupId = groupId ∧
      ∃ id, t.modelGroupMembers.find? id = some r := by
  have hrows : r∈t.modelGroupMembers.rows.map Prod.snd ↔ ∃ id, t.modelGroupMembers.find? id = some r := by
    rw [List.mem_map]
    constructor
    · rintro ⟨⟨id,r⟩,hr,rfl⟩
      exact ⟨id,(t.modelGroupMembers.mem_rows_iff (id,r)).mp hr⟩
    · rintro ⟨id,hr⟩
      exact ⟨(id,r),(t.modelGroupMembers.mem_rows_iff (id,r)).mpr hr,rfl⟩
  unfold getModelGroupMembers
  cases hg : t.modelGroups.find? groupId with
  | none => simp
  | some g =>
    by_cases he : g.enabled = true
    · simp only [he,if_true,List.mem_filter,hrows,decide_eq_true_eq,Option.some.injEq,exists_eq_left',true_and]
      exact and_comm
    · simp [he]

/-- The members of a group are the rows of the enabled group, whatever their order. -/
lemma mem_getOrderedModelGroupMembers {member : ModelGroupMember} :
    member∈getOrderedModelGroupMembers t groupId ↔
      ∃ r∈getModelGroupMembers t groupId, r.member = member := by
  unfold getOrderedModelGroupMembers
  simp only [List.mem_map,List.mem_insertionSort]

lemma pickModelGroupMember_mem {m : Manager} {members : List ModelGroupMember} {exclude : List ℕ}
    {member : ModelGroupMember} (h : pickModelGroupMember m members exclude = some member) : member∈members :=
  Selection.relax_subset _ _ (List.mem_of_head? h)

/-- Only of no members none is picked. -/
lemma exists_pickModelGroupMember (m : Manager) {members : List ModelGroupMember} (exclude : List ℕ)
    (h : members≠[]) : ∃ member, pickModelGroupMember m members exclude = some member := by
  unfold pickModelGroupMember
  obtain ⟨member,rest,hpick⟩ := List.exists_cons_of_ne_nil (Selection.relax_ne_nil
    [fun a : ModelGroupMember => a.channelId∉exclude ∧ m.isAvailable a.channelId (-1),
      fun a => a.channelId∉exclude] h)
  exact ⟨member,by rw [hpick]; rfl⟩

/-- Whatever becomes of it, a request for a group is passed on with all members of the group or with none
because there is none. -/
lemma members_routeToGroup (m : Manager) (bodyWritten : Bool) (requestedModel : String) :
    (routeToGroup t m bodyWritten requestedModel groupId).modelGroupMembers = getOrderedModelGroupMembers t groupId := by
  unfold routeToGroup
  simp only
  cases hpick : pickModelGroupMember m (getOrderedModelGroupMembers t groupId) [] with
  | some member => rfl
  | none =>
    by_contra hne
    obtain ⟨member,hmember⟩ := exists_pickModelGroupMember m [] (Ne.symm hne)
    rw [hpick] at hmember
    contradiction

end Relay
end Tierflow
