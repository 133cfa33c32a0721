import Mathlib.Data.List.Sort
import Mathlib.Logic.Function.Basic
import Tierflow.Foundation.JsonTree
import Tierflow.Foundation.Keyed

/-! What a JSON text says, whatever the order of the members of its objects: of several members of one name the last one
counts. A text can be read into tables and written again. Then the members are sorted, and only the numbers can
change. -/
namespace Tierflow

inductive JsonValue
  | null
  | bool (b : Bool)
  | number (value : ℚ)
  | string (s : String)
  | array (items : List JsonValue)
  | object (members : String → Option JsonValue)

namespace Json

mutual

def value : Json → JsonValue
  | .null => .null
  | .bool b => .bool b
  | .number _ value => .number value
  | .string s => .string s
  | .array items => .array (itemsValue items)
  | .object members => .object (membersValue members)

def itemsValue : List Json → List JsonValue
  | [] => []
  | a::l => value a::itemsValue l

def membersValue : Members → String → Option JsonValue
  | [],_ => none
  | (k,a)::l,j => (membersValue l j).or (if j = k then some (value a) else none)

end

/-- A path that ends at a member. Where it ends in none of the objects, it goes on behind them. -/
def reaches : List String → Json → Bool
  | [],_ => true
  | k::path,.object members => members.any (fun r => r.1 = k && reaches path r.2)
  | _::_,_ => false

/-! ## Members -/

section Members
variable (l : Members) (k j : String)

lemma membersValue_cons (r : String × Json) :
    membersValue (r::l) j = (membersValue l j).or (if j = r.1 then some (value r.2) else none) := rfl

variable {l k j}

lemma membersValue_eq_none_iff : membersValue l k = none ↔ k∉l.map Prod.fst := by
  induction l with
  | nil => simp [membersValue]
  | cons r l ih =>
    rw [membersValue_cons,Option.or_eq_none_iff,ih,List.map_cons,List.mem_cons,not_or,and_comm]
    exact and_congr_left fun _ => by simp

lemma exists_of_membersValue {v : JsonValue} (h : membersValue l k = some v) : ∃ a, (k,a)∈l ∧ value a = v := by
  induction l with
  | nil => cases h
  | cons r l ih =>
    rw [membersValue_cons,Option.or_eq_some_iff] at h
    rcases h with h | ⟨-,h⟩
    · obtain ⟨a,ha,hv⟩ := ih h
      exact ⟨a,List.mem_cons_of_mem _ ha,hv⟩
    · rw [Option.ite_none_right_eq_some] at h
      obtain ⟨hk,hv⟩ := h
      exact ⟨r.2,by rw [hk]; exact List.mem_cons_self,Option.some.inj hv⟩

variable (l k) in
lemma membersValue_filter : membersValue (l.filter (fun r => r.1≠k)) = Function.update (membersValue l) k none := by
  funext j
  induction l with
  | nil => by_cases hj : j = k <;> simp [membersValue,Function.update_apply]
  | cons r l ih =>
    rw [Function.update_apply] at ih ⊢
    by_cases hr : r.1 = k
    · rw [List.filter_cons_of_neg (by simpa using hr),ih,membersValue_cons]
      by_cases hj : j = k
      · rw [if_pos hj,if_pos hj]
      · rw [if_neg hj,if_neg hj,if_neg (fun h => hj (h.trans hr)),Option.or_none]
    · rw [List.filter_cons_of_pos (by simpa using hr),membersValue_cons,ih,membersValue_cons]
      by_cases hj : j = k
      · rw [if_pos hj,if_pos hj,if_neg (fun h => hr (h.symm.trans hj)),Option.none_or]
      · rw [if_neg hj,if_neg hj]

lemma membersValue_eq_lookup (hl : (l.map Prod.fst).Nodup) (k : String) :
    membersValue l k = (l.lookup k).map value := by
  induction l with
  | nil => rfl
  | cons r l ih =>
    obtain ⟨hr,hl⟩ := List.nodup_cons.mp hl
    rw [membersValue_cons,List.lookup_cons]
    by_cases hk : k = r.1
    · rw [hk,membersValue_eq_none_iff.mpr hr,beq_self_eq_true,if_pos rfl]
      rfl
    · rw [if_neg hk,Option.or_none,ih hl,beq_false_of_ne hk]

lemma fst_assign (v : Json) (hk : k∈l.map Prod.fst) : (assign l k v).map Prod.fst = l.map Prod.fst := by
  induction l with
  | nil => cases hk
  | cons r l ih =>
    obtain ⟨i,a⟩ := r
    rw [assign]
    split_ifs with hi
    · rw [List.map_cons,List.map_cons,hi]
    · rw [List.map_cons,List.map_cons,ih ((List.mem_cons.mp hk).resolve_left (fun h => hi h.symm))]

lemma membersValue_assign (hl : (l.map Prod.fst).Nodup) (hk : k∈l.map Prod.fst) (v : Json) :
    membersValue (assign l k v) = Function.update (membersValue l) k (some (value v)) := by
  funext j
  rw [membersValue_eq_lookup (by rwa [fst_assign v hk]),lookup_assign,Function.update_apply]
  split_ifs with hj
  · rfl
  · exact (membersValue_eq_lookup hl j).symm

end Members

/-! ## Reaching -/

section Reaching
variable {l : Members} {k j : String}

lemma reaches_singleton : reaches [k] (.object l) = true ↔ membersValue l k≠none := by
  rw [ne_eq,membersValue_eq_none_iff,not_not,reaches,List.any_eq_true,List.mem_map]
  refine exists_congr fun r => and_congr_right fun _ => ?_
  simp [reaches]

/-- An object that counts is one of those that are looked into. -/
lemma reaches_pair_of_value {g : String → Option JsonValue} (h : membersValue l k = some (.object g))
    (hj : g j≠none) : reaches [k,j] (.object l) = true := by
  obtain ⟨a,ha,hv⟩ := exists_of_membersValue h
  rw [reaches,List.any_eq_true]
  refine ⟨(k,a),ha,?_⟩
  cases a with
  | object n =>
    obtain rfl : membersValue n = g := JsonValue.object.inj hv
    rw [reaches_singleton.mpr hj]
    simp
  | _ => cases hv

lemma reaches_pair (hl : (l.map Prod.fst).Nodup) (h : reaches [k,j] (.object l) = true) :
    ∃ n, l.lookup k = some (.object n) ∧ membersValue n j≠none := by
  rw [reaches,List.any_eq_true] at h
  obtain ⟨⟨i,a⟩,ha,h⟩ := h
  rw [Bool.and_eq_true,decide_eq_true_eq] at h
  obtain ⟨rfl,h⟩ := h
  cases a with
  | object n => exact ⟨n,(Keyed.lookup_eq_some_iff hl i (.object n)).mpr ha,reaches_singleton.mp h⟩
  | _ => cases h

end Reaching

/-! ## Reading into tables -/

/-- An earlier member, which counts only where there is no later one of its name. -/
def insertMember (r : String × Json) (m : Members) : Members :=
  if r.1∈m.map Prod.fst then m else m.orderedInsert (fun r s => r.1 ≤ s.1) r

lemma nodup_insertMember (r : String × Json) {m : Members} (hm : (m.map Prod.fst).Nodup) :
    ((insertMember r m).map Prod.fst).Nodup := by
  rw [insertMember]
  split_ifs with hr
  · exact hm
  · rw [((List.perm_orderedInsert _ r m).map Prod.fst).nodup_iff]
    exact List.nodup_cons.mpr ⟨hr,hm⟩

lemma membersValue_orderedInsert {r : String × Json} {m : Members} (hr : r.1∉m.map Prod.fst) :
    membersValue (m.orderedInsert (fun r s => r.1 ≤ s.1) r) = membersValue (r::m) := by
  funext j
  induction m with
  | nil => rfl
  | cons s m ih =>
    rw [List.map_cons,List.mem_cons,not_or] at hr
    rw [List.orderedInsert_cons]
    split_ifs
    · rfl
    · rw [membersValue_cons,ih hr.2,membersValue_cons,membersValue_cons,membersValue_cons]
      by_cases hj : j = r.1
      · rw [if_neg (fun h => hr.1 (hj.symm.trans h)),Option.or_none,Option.or_none]
      · rw [if_neg hj,Option.or_none,Option.or_none]

lemma membersValue_insertMember (r : String × Json) (m : Members) :
    membersValue (insertMember r m) = membersValue (r::m) := by
  rw [insertMember]
  split_ifs with hr
  · funext j
    rw [membersValue_cons]
    split_ifs with hj
    · obtain ⟨v,hv⟩ := Option.ne_none_iff_exists'.mp (fun h => membersValue_eq_none_iff.mp h (hj ▸ hr))
      rw [hv,Option.some_or]
    · exact Option.or_none.symm
  · exact membersValue_orderedInsert hr

section Reading
variable (read : String → ℚ → Option (String × ℚ))

mutual

/-- A text that is read and written again. Not every number can be read. -/
def reread : Json → Option Json
  | .number text value => (read text value).map (fun r => .number r.1 r.2)
  | .array items => (rereadItems items).map .array
  | .object members => (rereadMembers members).map .object
  | .null => some .null
  | .bool b => some (.bool b)
  | .string s => some (.string s)

def rereadItems : List Json → Option (List Json)
  | [] => some []
  | a::l => (reread a).bind (fun b => (rereadItems l).map (fun l => b::l))

/-- A later member of the same name takes the place of an earlier one. -/
def rereadMembers : Members → Option Members
  | [] => some []
  | (k,a)::l => (reread a).bind (fun b => (rereadMembers l).map (insertMember (k,b)))

end

mutual

/-- Every number of a text is read as the number that it is. -/
def Survives : Json → Prop
  | .number text value => ∃ text', read text value = some (text',value)
  | .array items => ItemsSurvive items
  | .object members => MembersSurvive members
  | _ => True

def ItemsSurvive : List Json → Prop
  | [] => True
  | a::l => Survives a ∧ ItemsSurvive l

def MembersSurvive : Members → Prop
  | [] => True
  | (_,a)::l => Survives a ∧ MembersSurvive l

end

variable {read}

lemma rereadMembers_nodup : ∀ {l m : Members}, rereadMembers read l = some m → (m.map Prod.fst).Nodup
  | [],_,h => by
    cases h
    exact List.nodup_nil
  | (k,a)::l,m,h => by
    obtain ⟨b,-,h⟩ := Option.bind_eq_some_iff.mp h
    obtain ⟨m',hm,rfl⟩ := Option.map_eq_some_iff.mp h
    exact nodup_insertMember (k,b) (rereadMembers_nodup hm)

mutual

theorem reread_value : ∀ a, Survives read a → ∃ b, reread read a = some b ∧ b.value = a.value
  | .null,_ => ⟨.null,rfl,rfl⟩
  | .bool b,_ => ⟨.bool b,rfl,rfl⟩
  | .string s,_ => ⟨.string s,rfl,rfl⟩
  | .number text v,h => by
    obtain ⟨text',h⟩ := h
    exact ⟨.number text' v,by rw [reread,h]; rfl,rfl⟩
  | .array l,h => by
    obtain ⟨l',hl,hv⟩ := rereadItems_value l h
    exact ⟨.array l',by rw [reread,hl]; rfl,congrArg JsonValue.array hv⟩
  | .object l,h => by
    obtain ⟨m,hm,hv⟩ := rereadMembers_value l h
    exact ⟨.object m,by rw [reread,hm]; rfl,congrArg JsonValue.object hv⟩

theorem rereadItems_value : ∀ l, ItemsSurvive read l →
    ∃ l', rereadItems read l = some l' ∧ itemsValue l' = itemsValue l
  | [],_ => ⟨[],rfl,rfl⟩
  | a::l,h => by
    obtain ⟨b,hb,hv⟩ := reread_value a h.1
    obtain ⟨l',hl,hv'⟩ := rereadItems_value l h.2
    exact ⟨b::l',by rw [rereadItems,hb,hl]; rfl,congrArg₂ List.cons hv hv'⟩

theorem rereadMembers_value : ∀ l, MembersSurvive read l →
    ∃ m, rereadMembers read l = some m ∧ membersValue m = membersValue l
  | [],_ => ⟨[],rfl,rfl⟩
  | (k,a)::l,h => by
    obtain ⟨b,hb,hv⟩ := reread_value a h.1
    obtain ⟨m,hm,hv'⟩ := rereadMembers_value l h.2
    refine ⟨insertMember (k,b) m,by rw [rereadMembers,hb,hm]; rfl,?_⟩
    rw [membersValue_insertMember]
    funext j
    rw [membersValue_cons,hv',hv]
    rfl

end

end Reading

end Json
end Tierflow
