import Mathlib.Data.List.Dedup
import Mathlib.Data.List.Sort
import Tierflow.Foundation.JsonPaths

/-! Patterns of steps over JSON trees, with a star for every child. The positions of a pattern are found first, and then
something is done at one after the other. This does to each match what it should as long as nothing that is done at one
position moves what another one leads to. -/
namespace Tierflow
namespace Json

inductive Pick
  | every
  | only (s : String)
  | nothing
deriving DecidableEq

/-! ## Positions -/

/-- The keys of an object in their order. -/
def keys (m : Members) : List String := (m.map Prod.fst).dedup.insertionSort (·≤·)

/-- The steps that a pick leads on with, and the children. A key that is picked need not be there. -/
def branches : Pick → Json → List (String × Json)
  | .every,.array l => l.mapIdx (fun n a => (Text.printNat n,a))
  | .every,.object m => (keys m).map (fun k => (k,(m.lookup k).getD .null))
  | .only s,.array l => ((array l).child s).toList.map (fun a => (s,a))
  | .only s,.object m => [(s,(m.lookup s).getD .null)]
  | _,_ => []

def positions : List Pick → Json → List (List String)
  | [],_ => [[]]
  | p::rest,d => (branches p d).flatMap (fun r => (positions rest r.2).map (r.1::·))

/-- The children that a pick leads to. -/
def reached : Pick → Json → List Json
  | .every,.array l => l
  | .every,.object m => m.map Prod.snd
  | .only s,d => (d.child s).toList
  | _,_ => []

/-- The values that a pattern comes to, with the picks that it goes on with. -/
def met : List Pick → Json → List (Pick × Json)
  | [],_ => []
  | p::rest,d => (p,d)::(reached p d).flatMap (met rest)

/-- The values that the last pick comes to. -/
def holders : List Pick → Json → List (Pick × Json)
  | [],_ => []
  | [p],d => [(p,d)]
  | p::q::rest,d => (reached p d).flatMap (holders (q::rest))

/-- No key that is picked stands twice in the object. -/
def Single : Pick → Json → Prop
  | .every,.object m => (m.map Prod.fst).Nodup
  | .only s,.object m => (m.map Prod.fst).count s ≤ 1
  | _,_ => True

/-! ## What is done at every match -/

/-- Something happens to every child that a pick leads to. -/
def onward (change : Json → Option Json) : Pick → Json → Option Json
  | .every,.array l => (l.mapM change).map .array
  | .every,.object m => (m.mapM (fun r => (change r.2).map (Prod.mk r.1))).map .object
  | .only s,d => (d.child s).elim (some d) (fun a => (change a).bind (d.put s))
  | _,d => some d

/-- Something happens, by the last pick, to everything that a pattern comes to. -/
def distribute (last : Pick → Json → Option Json) : List Pick → Json → Option Json
  | [],d => some d
  | [p],d => last p d
  | p::q::rest,d => onward (distribute last (q::rest)) p d

/-- The children become other values. A key that is picked and not there becomes a new one. -/
def rewrite (change : Option Json → Option Json) : Pick → Json → Option Json
  | .only s,.object m => (change (m.lookup s)).map (fun b => .object (assign m s b))
  | p,d => onward (change∘some) p d

/-- The children are gone. -/
def erase : Pick → Json → Json
  | .every,.array _ => .array []
  | .every,.object _ => .object []
  | .only s,d => d.remove s
  | _,d => d

/-! ## One after the other -/

section Performing
variable (act : List String → Json → Option Json)

def perform (ps : List (List String)) (d : Json) : Option Json := ps.foldlM (fun d p => act p d) d

/-- What is done below a child is done to the child. -/
def Descends (p : List String) : Prop :=
  ∀ d s a, d.child s = some a → act (s::p) d = (act p a).bind (d.put s)

variable {act} {d e a b c : Json} {s : String} {m : Members} {l : List Json} {ps qs : List (List String)}

lemma perform_nil (d : Json) : perform act [] d = some d := rfl

lemma perform_cons (p : List String) (ps : List (List String)) (d : Json) :
    perform act (p::ps) d = (act p d).bind (perform act ps) := rfl

lemma perform_singleton (p : List String) (d : Json) : perform act [p] d = act p d := by
  rw [perform_cons]
  cases act p d <;> rfl

lemma perform_append (ps qs : List (List String)) (d : Json) :
    perform act (ps++qs) d = (perform act ps d).bind (perform act qs) := List.foldlM_append

lemma assign_assign (m : Members) (s : String) (b c : Json) : assign (assign m s b) s c = assign m s c := by
  induction m with
  | nil => simp [assign]
  | cons r m ih =>
    obtain ⟨k,a⟩ := r
    by_cases hk : k = s
    · rw [assign,if_pos hk,assign,if_pos rfl,assign,if_pos hk]
    · rw [assign,if_neg hk,assign,if_neg hk,assign,if_neg hk,ih]

lemma put_put (h : d.child s = some a) (hput : d.put s b = some e) (c : Json) : e.put s c = d.put s c := by
  cases d with
  | array l =>
    obtain ⟨n,hn,hlt⟩ := exists_index h
    rw [put,hn,Option.map_some,if_pos hlt] at hput
    rw [←Option.some.inj hput,put,put,hn,Option.map_some,Option.map_some,List.length_set,if_pos hlt,if_pos hlt,
      List.set_set]
  | object m => rw [←Option.some.inj hput,put,put,assign_assign]
  | _ => cases h

lemma perform_child (hact : ∀ p∈ps, Descends act p) (h : d.child s = some a) :
    perform act (ps.map (s::·)) d = (perform act ps a).bind (d.put s) := by
  induction ps generalizing d a with
  | nil => exact (put_child h).symm
  | cons p ps ih =>
    rw [List.map_cons,perform_cons,perform_cons,hact p List.mem_cons_self d s a h,Option.bind_assoc,Option.bind_assoc]
    congr 1
    funext b
    obtain ⟨e,he⟩ := put_of_new (new_of_child h) b
    rw [he,Option.bind_some,ih (fun q hq => hact q (List.mem_cons_of_mem p hq)) (child_put_self he)]
    congr 1
    funext c
    exact put_put h he c

/-! ### Stars -/

section Mapping
variable {α β : Type} {f g : α → Option β}

lemma mapM_cons (f : α → Option β) (a : α) (l : List α) :
    (a::l).mapM f = (f a).bind (fun b => (l.mapM f).map (b::·)) := by
  rw [List.mapM_cons]
  cases f a with
  | none => rfl
  | some b => cases l.mapM f <;> rfl

lemma mapM_congr {l : List α} (h : ∀ a∈l, f a = g a) : l.mapM f = l.mapM g := by
  induction l with
  | nil => rfl
  | cons a l ih =>
    rw [mapM_cons,mapM_cons,h a List.mem_cons_self,ih (fun b hb => h b (List.mem_cons_of_mem a hb))]

lemma mapM_self {f : α → Option α} {l : List α} (h : ∀ a∈l, f a = some a) : l.mapM f = some l := by
  induction l with
  | nil => rfl
  | cons a l ih =>
    rw [mapM_cons,h a List.mem_cons_self,ih (fun b hb => h b (List.mem_cons_of_mem a hb))]
    rfl

lemma mapM_total (h : ∀ a, ∃ b, f a = some b) (l : List α) : ∃ bs, l.mapM f = some bs := by
  induction l with
  | nil => exact ⟨[],rfl⟩
  | cons a l ih =>
    obtain ⟨b,hb⟩ := h a
    obtain ⟨bs,hbs⟩ := ih
    exact ⟨b::bs,by rw [mapM_cons,hb,hbs]; rfl⟩

lemma eq_of_mapM_eq (hf : ∀ a, ∃ b, f a = some b) (hg : ∀ a, ∃ b, g a = some b) {l : List α}
    (h : l.mapM f = l.mapM g) : ∀ a∈l, f a = g a := by
  induction l with
  | nil => exact fun a ha => absurd ha List.not_mem_nil
  | cons a l ih =>
    obtain ⟨b,hb⟩ := hf a
    obtain ⟨c,hc⟩ := hg a
    obtain ⟨bs,hbs⟩ := mapM_total hf l
    obtain ⟨cs,hcs⟩ := mapM_total hg l
    rw [mapM_cons,mapM_cons,hb,hc,hbs,hcs] at h
    obtain ⟨rfl,rfl⟩ := List.cons_eq_cons.mp (Option.some.inj h)
    intro x hx
    rcases List.mem_cons.mp hx with rfl | hx
    · rw [hb,hc]
    · exact ih (hbs.trans hcs.symm) x hx

end Mapping

section Below
variable (below : Json → List (List String)) (change : Json → Option Json)

variable (act) in
/-- What happens at the positions below a child is the change of the child. -/
def Carried (a : Json) : Prop :=
  ∀ d s, d.child s = some a → perform act ((below a).map (s::·)) d = (change a).bind (d.put s)

variable {below change}

lemma perform_elements (done l : List Json) (h : ∀ a∈l, Carried act below change a) :
    perform act ((l.mapIdx (fun n a => (Text.printNat (done.length+n),a))).flatMap
      (fun r => (below r.2).map (r.1::·))) (array (done++l)) = (l.mapM change).map (fun l' => array (done++l')) := by
  induction l generalizing done with
  | nil => rfl
  | cons a l ih =>
    have hchild : (array (done++a::l)).child (Text.printNat done.length) = some a := by
      rw [child_array,index?_printNat]
      simp
    have hput : ∀ b, (array (done++a::l)).put (Text.printNat done.length) b = some (array (done++[b]++l)) := by
      intro b
      rw [put,index?_printNat,Option.map_some,if_pos (by simp)]
      simp
    have hrest := fun b => ih (done++[b]) (fun c hc => h c (List.mem_cons_of_mem a hc))
    rw [List.mapIdx_cons,List.flatMap_cons,perform_append,Nat.add_zero,h a List.mem_cons_self _ _ hchild,mapM_cons]
    cases change a with
    | none => rfl
    | some b =>
      have hnumber : ∀ n, (done++[b]).length+n = done.length+(n+1) := by
        intro n
        rw [List.length_append,List.length_singleton]
        omega
      specialize hrest b
      simp only [hnumber] at hrest
      rw [Option.bind_some,Option.bind_some,hput,Option.bind_some,hrest,Option.map_map]
      congr 1
      funext l'
      simp

/-! ### Members -/

lemma map_fst_assign (h : s∈m.map Prod.fst) (b : Json) : (assign m s b).map Prod.fst = m.map Prod.fst := by
  induction m with
  | nil => exact absurd h List.not_mem_nil
  | cons r m ih =>
    obtain ⟨k,a⟩ := r
    by_cases hk : k = s
    · rw [assign,if_pos hk,List.map_cons,List.map_cons,hk]
    · rw [List.map_cons,List.mem_cons] at h
      rw [assign,if_neg hk,List.map_cons,List.map_cons,ih (h.resolve_left (fun heq => hk heq.symm))]

/-- The change of a member whose key is among these. -/
def changed (change : Json → Option Json) (ks : List String) (r : String × Json) : Option (String × Json) :=
  if r.1∈ks then (change r.2).map (Prod.mk r.1) else some r

lemma changed_cons_ne {k : String} {ks : List String} {r : String × Json} (h : r.1≠k) :
    changed change (k::ks) r = changed change ks r := by
  unfold changed
  simp [h]

lemma mapM_changed_cons {k : String} {ks : List String} (hnodup : (m.map Prod.fst).Nodup) (hk : m.lookup k = some a)
    (hks : k∉ks) :
    m.mapM (changed change (k::ks)) = (change a).bind (fun b => (assign m k b).mapM (changed change ks)) := by
  induction m with
  | nil => cases hk
  | cons r m ih =>
    obtain ⟨j,c⟩ := r
    rw [List.map_cons,List.nodup_cons] at hnodup
    rw [List.lookup_cons] at hk
    rw [mapM_cons]
    by_cases hj : j = k
    · subst hj
      rw [beq_self_eq_true] at hk
      obtain rfl := Option.some.inj hk
      have hrest : m.mapM (changed change (j::ks)) = m.mapM (changed change ks) := by
        refine mapM_congr (fun r hr => changed_cons_ne ?_)
        rintro rfl
        exact hnodup.1 (List.mem_map.mpr ⟨r,hr,rfl⟩)
      rw [hrest,changed,if_pos List.mem_cons_self]
      cases change c with
      | none => rfl
      | some b =>
        rw [Option.map_some,Option.bind_some,Option.bind_some,assign,if_pos rfl,mapM_cons,changed,if_neg hks]
        rfl
    · rw [beq_false_of_ne (fun heq => hj heq.symm)] at hk
      rw [ih hnodup.2 hk,changed_cons_ne hj]
      cases change a with
      | none => cases changed change ks (j,c) <;> rfl
      | some b => rw [Option.bind_some,Option.bind_some,assign,if_neg hj,mapM_cons]

lemma perform_members {ks : List String} (hks : ks.Nodup) (hnodup : (m.map Prod.fst).Nodup)
    (hmem : ∀ k∈ks, k∈m.map Prod.fst)
    (h : ∀ k∈ks, ∀ a, m.lookup k = some a → Carried act below change a) :
    perform act (ks.flatMap (fun k => (below ((m.lookup k).getD .null)).map (k::·))) (object m) =
      (m.mapM (changed change ks)).map object := by
  induction ks generalizing m with
  | nil =>
    have hsame : m.mapM (changed change []) = some m := mapM_self (fun r _ => if_neg List.not_mem_nil)
    rw [hsame]
    rfl
  | cons k ks ih =>
    obtain ⟨hfresh,hks⟩ := List.nodup_cons.mp hks
    have hkey := hmem k List.mem_cons_self
    obtain ⟨a,ha⟩ := Option.ne_none_iff_exists'.mp (fun hnone => lookup_none_iff.mp hnone hkey)
    have hcarried := h k List.mem_cons_self a ha (object m) k ha
    rw [List.flatMap_cons,perform_append,ha,Option.getD_some,hcarried,mapM_changed_cons hnodup ha hfresh]
    cases change a with
    | none => rfl
    | some b =>
      have hothers : ∀ k'∈ks, (assign m k b).lookup k' = m.lookup k' := by
        intro k' hk'
        rw [lookup_assign,if_neg]
        rintro rfl
        exact hfresh hk'
      have hrest : ks.flatMap (fun k' => (below ((m.lookup k').getD .null)).map (k'::·)) =
          ks.flatMap (fun k' => (below (((assign m k b).lookup k').getD .null)).map (k'::·)) :=
        List.flatMap_congr (fun k' hk' => by rw [hothers k' hk'])
      have hkeys := map_fst_assign hkey b
      rw [Option.bind_some,Option.bind_some,put,Option.bind_some,hrest]
      refine ih hks (hkeys ▸ hnodup) (fun k' hk' => hkeys ▸ hmem k' (List.mem_cons_of_mem k hk')) ?_
      intro k' hk' a' ha'
      rw [hothers k' hk'] at ha'
      exact h k' (List.mem_cons_of_mem k hk') a' ha'

lemma mem_keys {k : String} : k∈keys m ↔ k∈m.map Prod.fst := by
  rw [keys,List.mem_insertionSort,List.mem_dedup]

lemma keys_nodup (m : Members) : (keys m).Nodup :=
  (List.perm_insertionSort _ _).nodup_iff.mpr (List.nodup_dedup _)

/-! ### Picks -/

lemma mem_of_lookup {k : String} (h : m.lookup k = some a) : (k,a)∈m := by
  obtain ⟨before,after,rfl,-⟩ := List.lookup_eq_some_iff.mp h
  exact List.mem_append_right _ List.mem_cons_self

/-- What happens below the children of a pick, one after the other, happens to each of them. -/
theorem perform_branches {p : Pick} (hsingle : Single p d)
    (hnull : ∀ s m, p = .only s → d = .object m → below .null = [])
    (h : ∀ a∈reached p d, Carried act below change a) :
    perform act ((branches p d).flatMap (fun r => (below r.2).map (r.1::·))) d = onward change p d := by
  cases p with
  | nothing => cases d <;> rfl
  | only s =>
    have honward : onward change (.only s) d = (d.child s).elim (some d) (fun a => (change a).bind (d.put s)) := by
      cases d <;> rfl
    have hone : ∀ a, d.child s = some a →
        perform act ([(s,a)].flatMap (fun r => (below r.2).map (r.1::·))) d = (change a).bind (d.put s) := by
      intro a ha
      have hreached : a∈reached (.only s) d := by
        cases d <;> exact Option.mem_toList.mpr ha
      rw [List.flatMap_singleton]
      exact h a hreached d s ha
    rw [honward]
    cases hchild : d.child s with
    | some a =>
      have hbranches : branches (.only s) d = [(s,a)] := by
        cases d with
        | array l => rw [branches,hchild]; rfl
        | object m => rw [branches,←child_object,hchild]; rfl
        | _ => cases hchild
      rw [hbranches]
      exact hone a hchild
    | none =>
      have hempty : (branches (.only s) d).flatMap (fun r => (below r.2).map (r.1::·)) = [] := by
        cases d with
        | array l => rw [branches,hchild]; rfl
        | object m => rw [branches,←child_object,hchild,List.flatMap_singleton,Option.getD_none,hnull s m rfl rfl]; rfl
        | _ => rfl
      rw [hempty]
      rfl
  | every =>
    cases d with
    | array l =>
      have helements := perform_elements [] l h
      simp only [List.length_nil,Nat.zero_add,List.nil_append] at helements
      exact helements
    | object m =>
      have hmembers := perform_members (keys_nodup m) hsingle (fun k hk => mem_keys.mp hk)
        (fun k _ a ha => h a (List.mem_map.mpr ⟨(k,a),mem_of_lookup ha,rfl⟩))
      have hall : m.mapM (changed change (keys m)) = m.mapM (fun r => (change r.2).map (Prod.mk r.1)) :=
        mapM_congr (fun r hr => if_pos (mem_keys.mpr (List.mem_map_of_mem hr)))
      rw [branches,onward,List.flatMap_map,←hall]
      exact hmembers
    | _ => rfl

end Below

lemma ne_nil_of_mem_positions {p : Pick} {rest : List Pick} {q : List String} (h : q∈positions (p::rest) d) :
    q≠[] := by
  obtain ⟨r,-,hq⟩ := List.mem_flatMap.mp h
  obtain ⟨q',-,rfl⟩ := List.mem_map.mp hq
  exact List.cons_ne_nil r.1 q'

lemma positions_null (p : Pick) (rest : List Pick) : positions (p::rest) .null = [] := by
  cases p <;> rfl

/-- Something is done at every position, one after the other, as if it were done separately to everything that the
pattern comes to. -/
theorem perform_positions {p : Pick} {rest : List Pick} (hact : ∀ q≠[], Descends act q)
    (hsingle : ∀ r∈met (p::rest) d, Single r.1 r.2) :
    perform act (positions (p::rest) d) d = distribute (fun p h => perform act (positions [p] h) h) (p::rest) d := by
  induction rest generalizing p d with
  | nil => rfl
  | cons q rest ih =>
    refine perform_branches (hsingle (p,d) List.mem_cons_self) (fun _ _ _ _ => positions_null q rest) ?_
    intro a ha d' s hchild
    have hbelow : ∀ r∈met (q::rest) a, Single r.1 r.2 :=
      fun r hr => hsingle r (List.mem_cons_of_mem _ (List.mem_flatMap.mpr ⟨a,ha,hr⟩))
    rw [perform_child (fun q' hq' => hact q' (ne_nil_of_mem_positions hq')) hchild,ih hbelow]

end Performing

/-! ### Different positions -/

lemma branches_nodup (p : Pick) (d : Json) : ((branches p d).map Prod.fst).Nodup := by
  cases p with
  | nothing => cases d <;> exact List.nodup_nil
  | only s =>
    cases d with
    | array l =>
      rw [branches]
      cases (array l).child s with
      | none => exact List.nodup_nil
      | some a => exact List.nodup_singleton s
    | object m => exact List.nodup_singleton s
    | _ => exact List.nodup_nil
  | every =>
    cases d with
    | array l =>
      have hnumbers : (branches .every (array l)).map Prod.fst = (List.range l.length).map Text.printNat := by
        apply List.ext_getElem
        · simp [branches]
        · intro n h h'
          simp [branches]
      rw [hnumbers]
      exact List.nodup_range.map Text.printNat_injective
    | object m =>
      rw [branches,List.map_map]
      exact (List.map_id (keys m)).symm ▸ keys_nodup m
    | _ => exact List.nodup_nil

/-- No position is found twice. -/
theorem positions_nodup (ps : List Pick) (d : Json) : (positions ps d).Nodup := by
  induction ps generalizing d with
  | nil => exact List.nodup_singleton []
  | cons p ps ih =>
    refine List.nodup_flatMap.mpr ⟨fun r _ => (ih r.2).map (List.cons_injective),?_⟩
    have hfst := List.pairwise_map.mp (branches_nodup p d)
    refine hfst.imp (fun hne => ?_)
    intro q hq hq'
    obtain ⟨q1,-,rfl⟩ := List.mem_map.mp hq
    obtain ⟨q2,-,heq⟩ := List.mem_map.mp hq'
    exact hne (List.cons_eq_cons.mp heq).1.symm

/-! ## Separately -/

section Distributing
variable {change change' : Json → Option Json} {last last' : Pick → Json → Option Json} {p : Pick} {rest : List Pick}
  {d : Json}

lemma onward_congr (h : ∀ a∈reached p d, change a = change' a) : onward change p d = onward change' p d := by
  cases p with
  | nothing => cases d <;> rfl
  | only s =>
    have hchild : ∀ a, d.child s = some a → change a = change' a := by
      intro a ha
      exact h a (by cases d <;> exact Option.mem_toList.mpr ha)
    rw [onward,onward]
    cases hd : d.child s with
    | none => rfl
    | some a => rw [Option.elim_some,Option.elim_some,hchild a hd]
  | every =>
    cases d with
    | array l => exact congrArg (Option.map array) (mapM_congr h)
    | object m =>
      rw [onward,onward]
      refine congrArg (Option.map object) (mapM_congr (fun r hr => ?_))
      rw [h r.2 (List.mem_map_of_mem hr)]
    | _ => rfl

lemma distribute_congr (h : ∀ r∈holders (p::rest) d, last r.1 r.2 = last' r.1 r.2) :
    distribute last (p::rest) d = distribute last' (p::rest) d := by
  induction rest generalizing p d with
  | nil => exact h (p,d) List.mem_cons_self
  | cons q rest ih =>
    refine onward_congr (fun a ha => ih (fun r hr => h r ?_))
    exact List.mem_flatMap.mpr ⟨a,ha,hr⟩

lemma holders_subset {r : Pick × Json} (h : r∈holders (p::rest) d) : r∈met (p::rest) d := by
  induction rest generalizing p d with
  | nil => exact List.mem_cons.mpr (.inl (List.mem_singleton.mp h))
  | cons q rest ih =>
    obtain ⟨a,ha,hr⟩ := List.mem_flatMap.mp h
    exact List.mem_cons_of_mem _ (List.mem_flatMap.mpr ⟨a,ha,ih hr⟩)

lemma member_total (h : ∀ a, ∃ b, change a = some b) (r : String × Json) :
    ∃ r', (change r.2).map (Prod.mk r.1) = some r' := by
  obtain ⟨b,hb⟩ := h r.2
  exact ⟨(r.1,b),by rw [hb]; rfl⟩

lemma onward_total (h : ∀ a, ∃ b, change a = some b) (p : Pick) (d : Json) : ∃ e, onward change p d = some e := by
  cases p with
  | nothing => exact ⟨d,by cases d <;> rfl⟩
  | only s =>
    rw [onward]
    cases hd : d.child s with
    | none => exact ⟨d,rfl⟩
    | some a =>
      obtain ⟨b,hb⟩ := h a
      obtain ⟨e,he⟩ := put_of_new (new_of_child hd) b
      exact ⟨e,by rw [Option.elim_some,hb,Option.bind_some,he]⟩
  | every =>
    cases d with
    | array l =>
      obtain ⟨l',hl⟩ := mapM_total h l
      exact ⟨array l',by rw [onward,hl]; rfl⟩
    | object m =>
      obtain ⟨m',hm⟩ := mapM_total (member_total h) m
      exact ⟨object m',by rw [onward,hm]; rfl⟩
    | _ => exact ⟨_,rfl⟩

lemma eq_of_onward_eq (hf : ∀ a, ∃ b, change a = some b) (hg : ∀ a, ∃ b, change' a = some b)
    (h : onward change p d = onward change' p d) : ∀ a∈reached p d, change a = change' a := by
  cases p with
  | nothing => exact fun a ha => absurd ha (by cases d <;> exact List.not_mem_nil)
  | only s =>
    intro a ha
    have hd : d.child s = some a := by cases d <;> exact Option.mem_toList.mp ha
    obtain ⟨b,hb⟩ := hf a
    obtain ⟨c,hc⟩ := hg a
    obtain ⟨e,he⟩ := put_of_new (new_of_child hd) b
    rw [onward,onward,hd,Option.elim_some,Option.elim_some,hb,hc,Option.bind_some,Option.bind_some] at h
    rw [hb,hc,←child_put_self he,←child_put_self (h.symm.trans he)]
  | every =>
    cases d with
    | array l =>
      exact eq_of_mapM_eq hf hg (Option.map_injective (fun _ _ => array.inj) h)
    | object m =>
      intro a ha
      obtain ⟨r,hr,rfl⟩ := List.mem_map.mp ha
      have hmapped := eq_of_mapM_eq (member_total hf) (member_total hg)
        (Option.map_injective (fun _ _ => object.inj) h) r hr
      exact Option.map_injective (fun _ _ heq => (Prod.mk.inj heq).2) hmapped
    | _ => exact fun a ha => absurd ha List.not_mem_nil

lemma distribute_total (h : ∀ p d, ∃ e, last p d = some e) (p : Pick) (rest : List Pick) (d : Json) :
    ∃ e, distribute last (p::rest) d = some e := by
  induction rest generalizing p d with
  | nil => exact h p d
  | cons q rest ih => exact onward_total (fun a => ih q a) p d

/-- What is done separately is seen in the result. -/
theorem distribute_eq_iff (hlast : ∀ p d, ∃ e, last p d = some e) (hlast' : ∀ p d, ∃ e, last' p d = some e) :
    distribute last (p::rest) d = distribute last' (p::rest) d ↔
      ∀ r∈holders (p::rest) d, last r.1 r.2 = last' r.1 r.2 := by
  refine ⟨fun h => ?_,distribute_congr⟩
  induction rest generalizing p d with
  | nil =>
    intro r hr
    rw [List.mem_singleton.mp hr]
    exact h
  | cons q rest ih =>
    intro r hr
    obtain ⟨a,ha,hr⟩ := List.mem_flatMap.mp hr
    exact ih (eq_of_onward_eq (distribute_total hlast q rest) (distribute_total hlast' q rest) h a ha) r hr

end Distributing

/-! ## Writing and deleting -/

/-- A value is written that depends on what is there. -/
def writing (change : Option Json → Option Json) (p : List String) (d : Json) : Option Json :=
  (change (get p d)).bind (set p d)

def deleting (p : List String) (d : Json) : Option Json := some (delete p d)

/-- No star that ends the pattern comes to an array of more than one element. -/
def Short (ps : List Pick) (d : Json) : Prop := ∀ l, (.every,.array l)∈holders ps d → l.length ≤ 1

section Acting
variable {change : Option Json → Option Json} {p : Pick} {rest : List Pick} {d a : Json} {m : Members} {s : String}

lemma descends_writing (q : List String) : Descends (writing change) q := by
  intro d s a h
  unfold writing
  rw [get_cons,h,Option.bind_some,Option.bind_assoc]
  congr 1
  funext v
  rw [set_cons,h,Option.getD_some]

lemma descends_deleting {q : List String} (hq : q≠[]) : Descends deleting q := by
  intro d s a h
  exact (delete_cons hq h).symm

lemma set_of_get {q : List String} (h : get q d = some a) : set q d a = some d := by
  induction q generalizing d with
  | nil => exact h.symm
  | cons s q ih =>
    obtain ⟨b,hb,hbq⟩ := Option.bind_eq_some_iff.mp h
    rw [set_cons,hb,Option.getD_some,ih hbq]
    exact put_child hb

/-! ### Writing -/

lemma perform_last_writing (hsingle : Single p d) :
    perform (writing change) (positions [p] d) d = rewrite change p d := by
  by_cases hmember : ∃ s m, p = .only s ∧ d = .object m
  · obtain ⟨s,m,rfl,rfl⟩ := hmember
    have hget : get [s] (object m) = m.lookup s := by
      rw [get_cons,child_object]
      cases m.lookup s <;> rfl
    have hset : set [s] (object m) = fun v => some (object (assign m s v)) := rfl
    have hpositions : positions [.only s] (object m) = [[s]] := rfl
    rw [hpositions,perform_singleton,writing,hget,hset,rewrite]
    cases change (m.lookup s) <;> rfl
  · have hrewrite : rewrite change p d = onward (change∘some) p d := by
      cases p with
      | only s =>
        cases d with
        | object m => exact absurd ⟨s,m,rfl,rfl⟩ hmember
        | _ => rfl
      | _ => rfl
    rw [hrewrite]
    refine perform_branches hsingle (fun s m hp hd => absurd ⟨s,m,hp,hd⟩ hmember) (fun a _ d' s hchild => ?_)
    have hself : writing change [] a = change (some a) := by
      rw [writing,get]
      cases change (some a) <;> rfl
    rw [perform_child (fun q _ => descends_writing q) hchild,positions,perform_singleton,hself]
    rfl

theorem perform_writing (hsingle : ∀ r∈met (p::rest) d, Single r.1 r.2) :
    perform (writing change) (positions (p::rest) d) d = distribute (rewrite change) (p::rest) d := by
  rw [perform_positions (fun q _ => descends_writing q) hsingle]
  exact distribute_congr (fun r hr => perform_last_writing (hsingle r (holders_subset hr)))

/-! ### Deleting -/

lemma delete_single (s : String) (d : Json) : delete [s] d = d.remove s := rfl

/-- The first element stays while others are deleted. -/
lemma perform_behind (ns : List ℕ) (hns : ∀ n∈ns, n≠0) (a : Json) (l : List Json) :
    ∃ l', perform deleting (ns.map (fun n => [Text.printNat n])) (array (a::l)) = some (array (a::l')) := by
  induction ns generalizing l with
  | nil => exact ⟨l,rfl⟩
  | cons n ns ih =>
    obtain ⟨k,rfl⟩ := Nat.exists_eq_succ_of_ne_zero (hns n List.mem_cons_self)
    obtain ⟨l',hl⟩ := ih (fun i hi => hns i (List.mem_cons_of_mem _ hi)) (l.eraseIdx k)
    refine ⟨l',?_⟩
    rw [List.map_cons,perform_cons,deleting,delete_single,remove_array,index?_printNat]
    exact hl

/-- Deleting all keys leaves nothing. -/
lemma perform_keys {ks : List String} (hnodup : (m.map Prod.fst).Nodup) (hks : ∀ k∈m.map Prod.fst, k∈ks) :
    perform deleting (ks.map (fun k => [k])) (object m) = some (object []) := by
  induction ks generalizing m with
  | nil =>
    have hempty : m = [] := List.map_eq_nil_iff.mp (List.eq_nil_iff_forall_not_mem.mpr (fun k hk => by
      exact absurd (hks k hk) List.not_mem_nil))
    rw [hempty]
    rfl
  | cons k ks ih =>
    rw [List.map_cons,perform_cons,deleting,delete_single,remove_object,Option.bind_some]
    have hsub : ((m.eraseP (fun r => r.1 = k)).map Prod.fst).Sublist (m.map Prod.fst) :=
      List.eraseP_sublist.map Prod.fst
    have hgone : k∉(m.eraseP (fun r => r.1 = k)).map Prod.fst := by
      by_cases hk : k∈m.map Prod.fst
      · exact lookup_none_iff.mp ((lookup_eraseP_self hk).mpr (List.nodup_iff_count_le_one.mp hnodup k))
      · exact fun h => hk (hsub.subset h)
    refine ih (hnodup.sublist hsub) (fun j hj => ?_)
    exact (List.mem_cons.mp (hks j (hsub.subset hj))).resolve_left (fun heq => hgone (heq ▸ hj))

lemma perform_deleting_total (ps : List (List String)) (d : Json) : ∃ e, perform deleting ps d = some e := by
  induction ps generalizing d with
  | nil => exact ⟨d,rfl⟩
  | cons q ps ih => exact ih (delete q d)

lemma positions_single (p : Pick) (d : Json) : positions [p] d = (branches p d).map (fun r => [r.1]) :=
  List.map_eq_flatMap.symm

lemma positions_elements (l : List Json) :
    positions [.every] (array l) = (List.range l.length).map (fun n => [Text.printNat n]) := by
  rw [positions_single,branches]
  apply List.ext_getElem
  · simp
  · intro n h h'
    simp

lemma perform_elements_iff (l : List Json) :
    perform deleting (positions [.every] (array l)) (array l) = some (array []) ↔ l.length ≤ 1 := by
  rw [positions_elements]
  match l with
  | [] => exact ⟨fun _ => Nat.zero_le 1,fun _ => rfl⟩
  | [a] =>
    refine ⟨fun _ => le_rfl,fun _ => ?_⟩
    rw [List.length_singleton,List.range_one,List.map_singleton,perform_singleton,deleting,delete_single,remove_array,
      index?_printNat]
    rfl
  | a::b::l =>
    obtain ⟨l',hl⟩ := perform_behind ((List.range (b::l).length).map Nat.succ) (by simp) b l
    rw [List.length_cons,List.range_succ_eq_map,List.map_cons,perform_cons,deleting,delete_single,remove_array,
      index?_printNat,Option.elim_some,Option.bind_some,List.eraseIdx_cons_zero,hl]
    constructor
    · intro h
      cases h
    · intro h
      rw [List.length_cons] at h
      omega

lemma perform_last_deleting (hsingle : Single p d) :
    perform deleting (positions [p] d) d = some (erase p d) ↔ ∀ l, (.every,.array l) = (p,d) → l.length ≤ 1 := by
  cases p with
  | nothing =>
    refine iff_of_true ?_ (fun l hl => ?_)
    · cases d <;> rfl
    · cases hl
  | only s =>
    refine iff_of_true ?_ (fun l hl => ?_)
    swap
    · cases hl
    rw [positions_single]
    cases hd : d.child s with
    | some a =>
      have hbranches : (branches (.only s) d).map (fun r => [r.1]) = [[s]] := by
        cases d with
        | array l => rw [branches,hd]; rfl
        | object m => rfl
        | _ => cases hd
      rw [hbranches,perform_singleton]
      cases d <;> rfl
    | none =>
      cases d with
      | array l =>
        rw [branches,hd,erase,remove_of_none hd]
        rfl
      | _ => rfl
  | every =>
    cases d with
    | array l =>
      rw [erase,perform_elements_iff]
      constructor
      · intro h l' hl
        cases hl
        exact h
      · exact fun h => h l rfl
    | object m =>
      refine iff_of_true ?_ (fun l hl => ?_)
      · rw [positions_single,branches,List.map_map]
        exact perform_keys hsingle (fun k hk => mem_keys.mpr hk)
      · cases hl
    | _ =>
      refine iff_of_true rfl (fun l hl => ?_)
      cases hl

theorem perform_deleting_iff (hsingle : ∀ r∈met (p::rest) d, Single r.1 r.2) :
    perform deleting (positions (p::rest) d) d = distribute (fun p h => some (erase p h)) (p::rest) d ↔
      Short (p::rest) d := by
  rw [perform_positions (fun q hq => descends_deleting hq) hsingle,
    distribute_eq_iff (fun _ h => perform_deleting_total _ h) (fun p h => ⟨erase p h,rfl⟩)]
  unfold Short
  constructor
  · exact fun h l hl => (perform_last_deleting (hsingle _ (holders_subset hl))).mp (h _ hl) l rfl
  · exact fun h r hr => (perform_last_deleting (hsingle r (holders_subset hr))).mpr (fun l hl => h l (hl ▸ hr))

end Acting

end Json
end Tierflow
