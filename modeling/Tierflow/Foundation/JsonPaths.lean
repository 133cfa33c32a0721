import Mathlib.Data.List.Infix
import Tierflow.Foundation.JsonTree

/-! Writing and deleting at paths of a JSON tree. What a path needs and the tree does not have is made: objects, and
arrays that are filled up with nulls. Deleting an element of an array moves those behind it. -/
namespace Tierflow
namespace Json

/-! ## Steps -/

/-- An array or an object with one child, for a step into something that has none. -/
def container (s : String) (b : Json) : Json :=
  match index? s with
  | some n => .array (List.replicate n .null++[b])
  | none => .object [(s,b)]

/-- The child of a step becomes a value. An array has no place for a step that is no position. -/
def put (d : Json) (s : String) (b : Json) : Option Json :=
  match d with
  | .array l =>
    (index? s).map (fun n => .array (if n<l.length then l.set n b else l++List.replicate (n-l.length) .null++[b]))
  | .object m => some (.object (assign m s b))
  | _ => some (container s b)

def remove (d : Json) (s : String) : Json :=
  match d with
  | .array l => .array ((index? s).elim l l.eraseIdx)
  | .object m => .object (m.eraseP (fun r => r.1 = s))
  | d => d

/-- A child that is put here needs no nulls before it. -/
def New (d : Json) (s : String) : Prop :=
  match d with
  | .array l => ∃ n, index? s = some n ∧ n ≤ l.length
  | .object _ => True
  | _ => (index? s).getD 0 = 0

/-- A child that no other one takes the place of when it is removed. -/
def Sole (d : Json) (s : String) : Prop :=
  match d with
  | .array l => index? s = some (l.length-1)
  | .object m => (m.map Prod.fst).count s ≤ 1
  | _ => True

section Steps
variable {d e a b : Json} {s t : String}

lemma index?_eq_some_iff {n : ℕ} : index? s = some n ↔ s = Text.printNat n := by
  unfold index?
  rw [Option.filter_eq_some_iff]
  constructor
  · exact fun h => (of_decide_eq_true h.2).symm
  · rintro rfl
    unfold Text.printNat
    rw [String.toList_ofList,Text.digits?_toDigits]
    exact ⟨rfl,by simp⟩

lemma index?_printNat (n : ℕ) : index? (Text.printNat n) = some n := index?_eq_some_iff.mpr rfl

lemma index?_inj {n : ℕ} (hs : index? s = some n) (ht : index? t = some n) : t = s :=
  (index?_eq_some_iff.mp ht).trans (index?_eq_some_iff.mp hs).symm

lemma child_array (l : List Json) (s : String) : (array l).child s = (index? s).bind (fun n => l[n]?) := rfl

lemma child_object (m : Members) (s : String) : (object m).child s = m.lookup s := rfl

lemma child_container_self : (container s b).child s = some b := by
  unfold container
  cases h : index? s with
  | none => simp [child]
  | some n => simp [child,h]

lemma child_container_ne (hnew : (index? s).getD 0 = 0) (ht : t≠s) : (container s b).child t = none := by
  unfold container
  cases h : index? s with
  | none => simp [child,ht]
  | some n =>
    rw [h,Option.getD_some] at hnew
    subst hnew
    dsimp only
    rw [List.replicate_zero,List.nil_append,child_array]
    cases ht' : index? t with
    | none => rfl
    | some k =>
      have hk : k≠0 := fun h0 => ht (index?_inj h (h0 ▸ ht'))
      exact List.getElem?_eq_none (by rw [List.length_singleton]; omega)

/-- A container that is filled up has a null at the first place. -/
lemma child_container_pad (hpad : (index? s).getD 0≠0) : Text.printNat 0≠s ∧
    (container s b).child (Text.printNat 0)≠none := by
  unfold container
  cases h : index? s with
  | none => exact absurd (by rw [h]; rfl) hpad
  | some n =>
    rw [h,Option.getD_some] at hpad
    refine ⟨fun heq => ?_,?_⟩
    · rw [←heq,index?_printNat] at h
      exact hpad (Option.some.inj h).symm
    · rw [child_array,index?_printNat]
      simp [List.getElem?_append,Nat.pos_of_ne_zero hpad]

lemma child_put_self (h : d.put s b = some e) : e.child s = some b := by
  cases d with
  | array l =>
    obtain ⟨n,hn,rfl⟩ := Option.map_eq_some_iff.mp h
    rw [child_array,hn,Option.bind_some]
    split_ifs with hlt
    · exact List.getElem?_set_self hlt
    · rw [List.getElem?_append_right (by simp; omega)]
      simp [show n-(l.length+(n-l.length)) = 0 by omega]
  | object m =>
    rw [←Option.some.inj h,child_object,lookup_assign,if_pos rfl]
  | _ => rw [←Option.some.inj h,child_container_self]

/-- A child of another step stays. -/
lemma child_put_of_some (h : d.put s b = some e) (hne : t≠s) (ht : d.child t = some a) : e.child t = some a := by
  cases d with
  | array l =>
    obtain ⟨n,hn,rfl⟩ := Option.map_eq_some_iff.mp h
    obtain ⟨k,hk,hget⟩ := Option.bind_eq_some_iff.mp ht
    obtain ⟨hlt,-⟩ := List.getElem?_eq_some_iff.mp hget
    have hkn : n≠k := fun heq => hne (index?_inj hn (heq ▸ hk))
    rw [child_array,hk,Option.bind_some]
    split_ifs
    · rw [List.getElem?_set_ne hkn]
      exact hget
    · rw [List.append_assoc,List.getElem?_append_left hlt]
      exact hget
  | object m =>
    rw [←Option.some.inj h,child_object,lookup_assign,if_neg hne]
    exact ht
  | _ => cases ht

lemma child_put_ne (hnew : d.New s) (h : d.put s b = some e) (hne : t≠s) : e.child t = d.child t := by
  cases d with
  | array l =>
    obtain ⟨n,hn,rfl⟩ := Option.map_eq_some_iff.mp h
    obtain ⟨n',hn',hle⟩ := hnew
    obtain rfl : n' = n := Option.some.inj (hn'.symm.trans hn)
    rw [child_array,child_array]
    cases hk : index? t with
    | none => rfl
    | some k =>
      have hkn : n'≠k := fun heq => hne (index?_inj hn (heq ▸ hk))
      rw [Option.bind_some,Option.bind_some]
      split_ifs with hlt
      · exact List.getElem?_set_ne hkn
      · obtain rfl : n' = l.length := by omega
        rw [Nat.sub_self,List.replicate_zero,List.append_nil]
        by_cases hkl : k<l.length
        · exact List.getElem?_append_left hkl
        · have hnone : (l++[b])[k]? = none := by
            apply List.getElem?_eq_none
            rw [List.length_append,List.length_singleton]
            omega
          rw [hnone,List.getElem?_eq_none (by omega)]
  | object m => rw [←Option.some.inj h,child_object,lookup_assign,if_neg hne,child_object]
  | _ => exact (congrArg (fun e => e.child t) (Option.some.inj h)).symm.trans (child_container_ne hnew hne)

lemma put_of_new (h : d.New s) (b : Json) : ∃ e, d.put s b = some e := by
  cases d with
  | array l =>
    obtain ⟨n,hn,-⟩ := h
    exact ⟨_,by rw [put,hn]; rfl⟩
  | _ => exact ⟨_,rfl⟩

/-- Where nulls are needed one of them is new. -/
lemma exists_null (hnew : ¬d.New s) (h : d.put s b = some e) : ∃ t≠s, d.child t = none ∧ e.child t≠none := by
  cases d with
  | array l =>
    obtain ⟨n,hn,rfl⟩ := Option.map_eq_some_iff.mp h
    have hlt : l.length<n := by
      by_contra hle
      exact hnew ⟨n,hn,by omega⟩
    refine ⟨Text.printNat l.length,fun heq => ?_,?_,?_⟩
    · rw [←heq,index?_printNat] at hn
      exact absurd (Option.some.inj hn) (by omega)
    · rw [child_array,index?_printNat,Option.bind_some]
      exact List.getElem?_eq_none le_rfl
    · rw [child_array,index?_printNat,Option.bind_some,if_neg (by omega),List.append_assoc,
        List.getElem?_append_right le_rfl]
      simp [show 0<n-l.length by omega]
  | object m => exact absurd trivial hnew
  | _ =>
    obtain ⟨hne,hpad⟩ := child_container_pad (b := b) hnew
    exact ⟨_,hne,rfl,Option.some.inj h ▸ hpad⟩

lemma new_of_child (h : d.child s = some a) : d.New s := by
  cases d with
  | array l =>
    obtain ⟨n,hn,hget⟩ := Option.bind_eq_some_iff.mp h
    obtain ⟨hlt,-⟩ := List.getElem?_eq_some_iff.mp hget
    exact ⟨n,hn,hlt.le⟩
  | object m => trivial
  | _ => cases h

lemma assign_self {m : Members} (h : m.lookup s = some a) : assign m s a = m := by
  induction m with
  | nil => cases h
  | cons r m ih =>
    obtain ⟨k,c⟩ := r
    rw [List.lookup_cons] at h
    rw [assign]
    by_cases hk : k = s
    · subst hk
      rw [beq_self_eq_true] at h
      rw [if_pos rfl,Option.some.inj h]
    · rw [beq_false_of_ne (fun heq => hk heq.symm)] at h
      rw [if_neg hk,ih h]

lemma put_child (h : d.child s = some a) : d.put s a = some d := by
  cases d with
  | array l =>
    obtain ⟨n,hn,hget⟩ := Option.bind_eq_some_iff.mp h
    obtain ⟨hlt,hget⟩ := List.getElem?_eq_some_iff.mp hget
    rw [put,hn,Option.map_some,if_pos hlt,←hget,List.set_getElem_self]
  | object m =>
    rw [put,assign_self h]
  | _ => cases h

/-! ### Removing -/

lemma remove_array (l : List Json) (s : String) : (array l).remove s = array ((index? s).elim l l.eraseIdx) := rfl

lemma remove_object (m : Members) (s : String) : (object m).remove s = object (m.eraseP (fun r => r.1 = s)) := rfl

lemma sole_array {l : List Json} : (array l).Sole s ↔ index? s = some (l.length-1) := Iff.rfl

lemma sole_object {m : Members} : (object m).Sole s ↔ (m.map Prod.fst).count s ≤ 1 := Iff.rfl

lemma lookup_none_iff {m : Members} : m.lookup s = none ↔ s∉m.map Prod.fst := by
  rw [List.lookup_eq_none_iff,List.mem_map]
  constructor
  · rintro h ⟨r,hr,rfl⟩
    exact bne_iff_ne.mp (h r hr) rfl
  · exact fun h r hr => bne_iff_ne.mpr (fun heq => h ⟨r,hr,heq.symm⟩)

/-- What stands first of a key is gone; the key is gone if it stood there once. -/
lemma lookup_eraseP_self {m : Members} (h : s∈m.map Prod.fst) :
    (m.eraseP (fun r => r.1 = s)).lookup s = none ↔ (m.map Prod.fst).count s ≤ 1 := by
  induction m with
  | nil => exact absurd h List.not_mem_nil
  | cons r m ih =>
    obtain ⟨k,c⟩ := r
    by_cases hk : k = s
    · subst hk
      rw [List.eraseP_cons_of_pos (by simp),List.map_cons,List.count_cons_self,lookup_none_iff,←List.count_eq_zero]
      omega
    · rw [List.map_cons,List.mem_cons] at h
      rw [List.eraseP_cons_of_neg (by simpa using hk),List.lookup_cons,beq_false_of_ne (fun heq => hk heq.symm),
        List.map_cons,List.count_cons_of_ne (by simpa using hk)]
      exact ih (h.resolve_left (fun heq => hk heq.symm))

lemma lookup_eraseP_ne (m : Members) (hne : t≠s) : (m.eraseP (fun r => r.1 = s)).lookup t = m.lookup t := by
  induction m with
  | nil => rfl
  | cons r m ih =>
    obtain ⟨k,c⟩ := r
    by_cases hk : k = s
    · rw [List.eraseP_cons_of_pos (by simpa using hk),List.lookup_cons,beq_false_of_ne (hk ▸ hne)]
    · rw [List.eraseP_cons_of_neg (by simpa using hk),List.lookup_cons,List.lookup_cons,ih]

/-- The position of a child in an array. -/
lemma exists_index {l : List Json} (h : (array l).child s = some a) : ∃ n, index? s = some n ∧ n<l.length := by
  obtain ⟨n,hn,hget⟩ := Option.bind_eq_some_iff.mp h
  exact ⟨n,hn,(List.getElem?_eq_some_iff.mp hget).1⟩

lemma key_mem {m : Members} (h : (object m).child s = some a) : s∈m.map Prod.fst := by
  by_contra hnone
  rw [child_object,lookup_none_iff.mpr hnone] at h
  cases h

lemma child_remove_self (h : d.child s = some a) : (d.remove s).child s = none ↔ d.Sole s := by
  cases d with
  | array l =>
    obtain ⟨n,hn,hlt⟩ := exists_index h
    rw [remove_array,sole_array,child_array,hn,Option.elim_some,Option.bind_some,List.getElem?_eq_none_iff,
      List.length_eraseIdx_of_lt hlt,Option.some.injEq]
    omega
  | object m =>
    rw [remove_object,sole_object,child_object]
    exact lookup_eraseP_self (key_mem h)
  | _ => cases h

lemma child_remove_ne (hsole : d.Sole s) (h : d.child s = some a) (hne : t≠s) :
    (d.remove s).child t = d.child t := by
  cases d with
  | array l =>
    obtain ⟨n,hn,hlt⟩ := exists_index h
    rw [sole_array,hn,Option.some.injEq] at hsole
    rw [remove_array,hn,Option.elim_some,child_array,child_array]
    cases hk : index? t with
    | none => rfl
    | some k =>
      have hkn : k≠n := fun heq => hne (index?_inj hn (heq ▸ hk))
      rw [Option.bind_some,Option.bind_some,List.getElem?_eraseIdx]
      split_ifs with hlt'
      · rfl
      · rw [List.getElem?_eq_none (by omega),List.getElem?_eq_none (by omega)]
  | object m =>
    rw [remove_object,child_object,child_object]
    exact lookup_eraseP_ne m hne
  | _ => cases h

lemma remove_ne (h : d.child s = some a) : d.remove s≠d := by
  cases d with
  | array l =>
    obtain ⟨n,hn,hlt⟩ := exists_index h
    rw [remove_array,hn,Option.elim_some]
    intro heq
    have hlength := congrArg List.length (array.inj heq)
    rw [List.length_eraseIdx_of_lt hlt] at hlength
    omega
  | object m =>
    rw [remove_object]
    intro heq
    obtain ⟨r,hr,hrs⟩ := List.mem_map.mp (key_mem h)
    have hlength := congrArg List.length (object.inj heq)
    rw [List.length_eraseP_of_mem hr (by simpa using hrs)] at hlength
    have hpos := List.length_pos_of_mem hr
    omega
  | _ => cases h

lemma remove_of_none (h : d.child s = none) : d.remove s = d := by
  cases d with
  | array l =>
    rw [child_array] at h
    rw [remove_array]
    cases hn : index? s with
    | none => rfl
    | some n =>
      rw [hn,Option.bind_some,List.getElem?_eq_none_iff] at h
      rw [Option.elim_some,List.eraseIdx_of_length_le h]
  | object m =>
    rw [child_object,lookup_none_iff] at h
    rw [remove_object,List.eraseP_of_forall_not]
    intro r hr hrs
    exact h (of_decide_eq_true hrs ▸ List.mem_map_of_mem hr)
  | _ => rfl

end Steps

/-! ## Paths -/

/-- Write a value at a path. What is missing is made as it is made below a null. -/
def set : List String → Json → Json → Option Json
  | [],_,v => some v
  | s::p,d,v => (set p ((d.child s).getD .null) v).bind (d.put s)

/-- Delete what a path leads to, if it leads to anything. -/
def delete : List String → Json → Json
  | [],d => d
  | [s],d => d.remove s
  | s::t::p,d =>
    match d.child s with
    | some a => (d.put s (delete (t::p) a)).getD d
    | none => d

/-- Neither path leads on from the other. -/
def Apart (p q : List String) : Prop := ¬p<+:q ∧ ¬q<+:p

/-- Writing at the path makes nothing but what is on the path. -/
def Fits : List String → Json → Prop
  | [],_ => True
  | s::p,d => d.New s ∧ Fits p ((d.child s).getD .null)

section Paths
variable {p q : List String} {s t : String} {d e a v : Json}

lemma Apart.symm (h : Apart p q) : Apart q p := ⟨h.2,h.1⟩

lemma not_apart_nil : ¬Apart [] q := fun h => h.1 List.nil_prefix

lemma apart_cons : Apart (s::p) (t::q) ↔ s≠t ∨ Apart p q := by
  unfold Apart
  rw [List.cons_prefix_cons,List.cons_prefix_cons]
  by_cases hst : s = t
  · simp [hst]
  · simp [hst,Ne.symm hst]

lemma get_cons (s : String) (p : List String) (d : Json) : get (s::p) d = (d.child s).bind (get p) := rfl

lemma get_append (p q : List String) (d : Json) : get (p++q) d = (get p d).bind (get q) := by
  induction p generalizing d with
  | nil => rfl
  | cons s p ih =>
    rw [List.cons_append,get_cons,get_cons,Option.bind_assoc]
    exact congrArg (Option.bind (d.child s)) (funext ih)

/-- What a longer path leads to is below what the path leads to. -/
lemma get_of_prefix (h : p<+:q) (hq : get q d = some a) : ∃ c, get p d = some c := by
  obtain ⟨r,rfl⟩ := h
  rw [get_append] at hq
  obtain ⟨c,hc,-⟩ := Option.bind_eq_some_iff.mp hq
  exact ⟨c,hc⟩

lemma get_null (h : p≠[]) : get p .null = none := by
  cases p with
  | nil => exact absurd rfl h
  | cons s p => rfl

lemma get_getD (h : p≠[]) (d : Json) (s : String) : get p ((d.child s).getD .null) = (d.child s).bind (get p) := by
  cases d.child s with
  | none => exact get_null h
  | some a => rfl

/-! ### Writing -/

lemma set_cons (s : String) (p : List String) (d v : Json) :
    set (s::p) d v = (set p ((d.child s).getD .null) v).bind (d.put s) := rfl

lemma set_cons_some (h : set (s::p) d v = some e) :
    ∃ b, set p ((d.child s).getD .null) v = some b ∧ d.put s b = some e := Option.bind_eq_some_iff.mp h

theorem get_set (h : set p d v = some e) : get p e = some v := by
  induction p generalizing d e with
  | nil => exact h.symm
  | cons s p ih =>
    obtain ⟨b,hb,he⟩ := set_cons_some h
    rw [get_cons,child_put_self he,Option.bind_some,ih hb]

/-- What is there apart from the path stays. -/
lemma get_set_of_some (h : set p d v = some e) (hapart : Apart q p) (hq : get q d = some a) : get q e = some a := by
  induction p generalizing d e q with
  | nil => exact absurd hapart.symm not_apart_nil
  | cons s p ih =>
    obtain ⟨b,hb,he⟩ := set_cons_some h
    cases q with
    | nil => exact absurd hapart not_apart_nil
    | cons t q =>
      rw [get_cons] at hq ⊢
      obtain ⟨c,hc,hcq⟩ := Option.bind_eq_some_iff.mp hq
      by_cases hts : t = s
      · subst hts
        have hrest : Apart q p := (apart_cons.mp hapart).resolve_left (fun hne => hne rfl)
        rw [child_put_self he,Option.bind_some]
        rw [hc,Option.getD_some] at hb
        exact ih hb hrest hcq
      · rw [child_put_of_some he hts hc,Option.bind_some,hcq]

lemma fits_of_get (h : get p d = some a) : Fits p d := by
  induction p generalizing d with
  | nil => trivial
  | cons s p ih =>
    obtain ⟨c,hc,hcp⟩ := Option.bind_eq_some_iff.mp h
    refine ⟨new_of_child hc,?_⟩
    rw [hc,Option.getD_some]
    exact ih hcp

lemma set_of_fits (h : Fits p d) (v : Json) : ∃ e, set p d v = some e := by
  induction p generalizing d with
  | nil => exact ⟨v,rfl⟩
  | cons s p ih =>
    obtain ⟨b,hb⟩ := ih h.2
    obtain ⟨e,he⟩ := put_of_new h.1 b
    exact ⟨e,by rw [set_cons,hb]; exact he⟩

/-- Where the path fits nothing changes apart from it. -/
theorem get_set_of_fits (hfits : Fits p d) (h : set p d v = some e) (hapart : Apart q p) : get q e = get q d := by
  induction p generalizing d e q with
  | nil => exact absurd hapart.symm not_apart_nil
  | cons s p ih =>
    obtain ⟨b,hb,he⟩ := set_cons_some h
    cases q with
    | nil => exact absurd hapart not_apart_nil
    | cons t q =>
      rw [get_cons,get_cons]
      by_cases hts : t = s
      · subst hts
        have hrest : Apart q p := (apart_cons.mp hapart).resolve_left (fun hne => hne rfl)
        have hq : q≠[] := fun hnil => not_apart_nil (hnil ▸ hrest)
        rw [child_put_self he,Option.bind_some,ih hfits.2 hb hrest,get_getD hq]
      · rw [child_put_ne hfits.1 he hts]

/-- Where the path does not fit a null appears beside it. -/
lemma exists_beside (hfits : ¬Fits p d) (h : set p d v = some e) :
    ∃ before t s, t≠s ∧ before++[s]<+:p ∧ get (before++[t]) d = none ∧ get (before++[t]) e≠none := by
  induction p generalizing d e with
  | nil => exact absurd trivial hfits
  | cons s p ih =>
    obtain ⟨b,hb,he⟩ := set_cons_some h
    by_cases hnew : d.New s
    · obtain ⟨before,t,s',hne,hstarts,hnone,hsome⟩ := ih (fun hrest => hfits ⟨hnew,hrest⟩) hb
      refine ⟨s::before,t,s',hne,?_,?_,?_⟩
      · rw [List.cons_append,List.cons_prefix_cons]
        exact ⟨rfl,hstarts⟩
      · rw [List.cons_append,get_cons,←get_getD (List.append_ne_nil_of_right_ne_nil _ (List.cons_ne_nil _ _)),hnone]
      · rw [List.cons_append,get_cons,child_put_self he,Option.bind_some]
        exact hsome
    · obtain ⟨t,hne,hnone,hsome⟩ := exists_null hnew he
      refine ⟨[],t,s,hne,?_,?_,?_⟩
      · rw [List.nil_append,List.cons_prefix_cons]
        exact ⟨rfl,List.nil_prefix⟩
      · rw [List.nil_append,get_cons,hnone]
        rfl
      · rw [List.nil_append,get_cons]
        obtain ⟨c,hc⟩ := Option.ne_none_iff_exists'.mp hsome
        rw [hc]
        exact Option.some_ne_none c

/-- Writing further down is writing into what the path leads to. -/
lemma set_append (h : set (p++q) d v = some e) (hp : get p d = some a) :
    ∃ b, set q a v = some b ∧ get p e = some b := by
  induction p generalizing d e with
  | nil =>
    obtain rfl := Option.some.inj hp
    exact ⟨e,h,rfl⟩
  | cons s p ih =>
    obtain ⟨b,hb,he⟩ := set_cons_some h
    obtain ⟨c,hc,hcp⟩ := Option.bind_eq_some_iff.mp hp
    rw [hc,Option.getD_some] at hb
    obtain ⟨b',hb',hget⟩ := ih hb hcp
    refine ⟨b',hb',?_⟩
    rw [get_cons,child_put_self he]
    exact hget

/-! ### Deleting -/

lemma delete_cons (hp : p≠[]) (h : d.child s = some a) : d.put s (delete p a) = some (delete (s::p) d) := by
  obtain ⟨t,q,rfl⟩ := List.exists_cons_of_ne_nil hp
  obtain ⟨e,he⟩ := put_of_new (new_of_child h) (delete (t::q) a)
  rw [delete,h]
  dsimp only
  rw [he]
  rfl

lemma delete_cons_of_none (h : d.child s = none) : delete (s::p) d = d := by
  cases p with
  | nil => exact remove_of_none h
  | cons t p => rw [delete,h]

/-- What is not there is not deleted. -/
lemma delete_of_none (h : get p d = none) : delete p d = d := by
  induction p generalizing d with
  | nil => cases h
  | cons s p ih =>
    cases hc : d.child s with
    | none => exact delete_cons_of_none hc
    | some a =>
      rw [get_cons,hc,Option.bind_some] at h
      have hp : p≠[] := by
        rintro rfl
        cases h
      have hput := delete_cons hp hc
      rw [ih h,put_child hc] at hput
      exact (Option.some.inj hput).symm

lemma delete_ne (hp : p≠[]) (h : get p d = some a) : delete p d≠d := by
  induction p generalizing d with
  | nil => exact absurd rfl hp
  | cons s p ih =>
    obtain ⟨c,hc,hcp⟩ := Option.bind_eq_some_iff.mp h
    by_cases hnil : p = []
    · subst hnil
      exact remove_ne hc
    · intro heq
      have hput := delete_cons hnil hc
      rw [heq] at hput
      have hsame := child_put_self hput
      rw [hc] at hsame
      exact ih hnil hcp (Option.some.inj hsame).symm

/-- Deleting further down is deleting in what the path leads to. -/
lemma get_delete_append (hq : q≠[]) (h : get p d = some a) : get p (delete (p++q) d) = some (delete q a) := by
  induction p generalizing d with
  | nil =>
    obtain rfl := Option.some.inj h
    rfl
  | cons s p ih =>
    obtain ⟨c,hc,hcp⟩ := Option.bind_eq_some_iff.mp h
    have hput := delete_cons (List.append_ne_nil_of_right_ne_nil p hq) hc
    rw [List.cons_append,get_cons,child_put_self hput]
    exact ih hcp

/-- Deleting a child that no other one takes the place of changes nothing apart from the path. -/
lemma get_delete_of_sole (hp : get p d = some a) (hsole : a.Sole s) (hs : a.child s = some v)
    (hapart : Apart q (p++[s])) : get q (delete (p++[s]) d) = get q d := by
  induction p generalizing d q with
  | nil =>
    obtain rfl := Option.some.inj hp
    cases q with
    | nil => exact absurd hapart not_apart_nil
    | cons t q =>
      have hts : t≠s := by
        rintro rfl
        exact ((apart_cons.mp hapart).resolve_left (fun hne => hne rfl)).2 List.nil_prefix
      rw [List.nil_append,get_cons,get_cons,delete,child_remove_ne hsole hs hts]
  | cons r p ih =>
    obtain ⟨c,hc,hcp⟩ := Option.bind_eq_some_iff.mp hp
    have hput := delete_cons (List.append_ne_nil_of_right_ne_nil p (List.cons_ne_nil s [])) hc
    cases q with
    | nil => exact absurd hapart not_apart_nil
    | cons t q =>
      rw [List.cons_append,get_cons,get_cons]
      by_cases htr : t = r
      · subst htr
        have hrest : Apart q (p++[s]) := (apart_cons.mp hapart).resolve_left (fun hne => hne rfl)
        rw [child_put_self hput,hc,Option.bind_some,Option.bind_some,ih hcp hrest]
      · rw [child_put_ne (new_of_child hc) hput htr]

/-! ### Writing beside a child -/

lemma fits_append (h : Fits (p++q) d) (hp : get p d = some a) : Fits q a := by
  induction p generalizing d with
  | nil =>
    obtain rfl := Option.some.inj hp
    exact h
  | cons s p ih =>
    obtain ⟨c,hc,hcp⟩ := Option.bind_eq_some_iff.mp hp
    have hrest := h.2
    rw [hc,Option.getD_some] at hrest
    exact ih hrest hcp

lemma count_assign_ne (m : Members) (b : Json) (hne : t≠s) :
    ((assign m t b).map Prod.fst).count s = (m.map Prod.fst).count s := by
  induction m with
  | nil => exact List.count_eq_zero_of_not_mem (by simpa [assign] using hne.symm)
  | cons r m ih =>
    obtain ⟨k,c⟩ := r
    rw [assign]
    split_ifs with hk
    · rw [List.map_cons,List.map_cons,hk]
    · rw [List.map_cons,List.map_cons,List.count_cons,List.count_cons,ih]

/-- A child that is put beside another leaves it the only one of its key, but an element that is appended comes to
stand behind it. -/
lemma sole_put (hnew : d.New t) (h : d.put t a = some e) (hne : t≠s) (hs : d.child s = some v) :
    e.Sole s ↔ d.Sole s ∧ ∀ l, d = array l → t≠Text.printNat l.length := by
  cases d with
  | array l =>
    obtain ⟨n,hn,rfl⟩ := Option.map_eq_some_iff.mp h
    obtain ⟨n',hn',hle⟩ := hnew
    obtain rfl : n' = n := Option.some.inj (hn'.symm.trans hn)
    obtain ⟨k,hk,hlt⟩ := exists_index hs
    rw [sole_array,sole_array,hk]
    by_cases hinner : n'<l.length
    · rw [if_pos hinner,List.length_set]
      refine ⟨fun hsole => ⟨hsole,?_⟩,fun hsole => hsole.1⟩
      rintro l' hl rfl
      obtain rfl := array.inj hl
      rw [index?_printNat,Option.some.injEq] at hn
      omega
    · obtain rfl : n' = l.length := by omega
      rw [if_neg hinner,Nat.sub_self,List.replicate_zero,List.append_nil,List.length_append,List.length_singleton,
        Nat.add_sub_cancel,Option.some.injEq]
      constructor
      · omega
      · exact fun hsole => absurd (index?_eq_some_iff.mp hn) (hsole.2 l rfl)
  | object m =>
    rw [←Option.some.inj h,sole_object,sole_object,count_assign_ne m a hne]
    exact ⟨fun hsole => ⟨hsole,fun l hl => Json.noConfusion hl⟩,fun hsole => hsole.1⟩
  | _ => cases hs

lemma length_assign {m : Members} (h : s∈m.map Prod.fst) (b : Json) : (assign m s b).length = m.length := by
  induction m with
  | nil => exact absurd h List.not_mem_nil
  | cons r m ih =>
    obtain ⟨k,c⟩ := r
    rw [assign]
    split_ifs with hk
    · rfl
    · rw [List.map_cons,List.mem_cons] at h
      rw [List.length_cons,List.length_cons,ih (h.resolve_left (fun heq => hk heq.symm))]

/-- Removing a child does not bring back what was there before it was put. -/
lemma remove_put_ne (hs : d.child s = some v) (h : d.put s a = some e) : e.remove s≠d := by
  cases d with
  | array l =>
    obtain ⟨n,hn,hlt⟩ := exists_index hs
    rw [put,hn,Option.map_some,if_pos hlt] at h
    rw [←Option.some.inj h,remove_array,hn,Option.elim_some]
    intro heq
    have hlength := congrArg List.length (array.inj heq)
    rw [List.length_eraseIdx_of_lt (by rwa [List.length_set]),List.length_set] at hlength
    omega
  | object m =>
    rw [←Option.some.inj h,remove_object]
    intro heq
    have hkey := key_mem (child_put_self (d := object m) rfl : (object (assign m s a)).child s = some a)
    obtain ⟨r,hr,hrs⟩ := List.mem_map.mp hkey
    have hlength := congrArg List.length (object.inj heq)
    rw [List.length_eraseP_of_mem hr (by simpa using hrs),length_assign (key_mem hs)] at hlength
    have hpos := List.length_pos_of_mem hr
    rw [length_assign (key_mem hs)] at hpos
    omega
  | _ => cases hs

end Paths

end Json
end Tierflow
