import Mathlib.Data.List.Forall2
import Mathlib.Tactic

/-! Lists made of segments: two of them agree when they agree segment by segment, and a reply in one of them
belongs to the last element before it that is no reply. -/
namespace Tierflow
namespace Segments

section Agree
variable {α β : Type*} {f g : α → List β} {l : List α}

lemma length_flatMap_le (h : ∀ a∈l, (f a).length ≤ (g a).length) : (l.flatMap f).length ≤ (l.flatMap g).length := by
  induction l with
  | nil => exact le_rfl
  | cons a l ih =>
    have hl := ih (fun b hb => h b (List.mem_cons_of_mem _ hb))
    have ha := h a List.mem_cons_self
    rw [List.flatMap_cons,List.flatMap_cons,List.length_append,List.length_append]
    omega

/-- If no segment is longer than its counterpart, the lists are equal only when all segments are. -/
theorem flatMap_eq_iff (h : ∀ a∈l, (f a).length ≤ (g a).length) :
    l.flatMap f = l.flatMap g ↔ ∀ a∈l, f a = g a := by
  induction l with
  | nil => simp
  | cons a l ih =>
    have htail : ∀ b∈l, (f b).length ≤ (g b).length := fun b hb => h b (List.mem_cons_of_mem _ hb)
    have hl := length_flatMap_le htail
    have ha := h a List.mem_cons_self
    rw [List.flatMap_cons,List.flatMap_cons,List.forall_mem_cons]
    constructor
    · intro heq
      have hlen := congrArg List.length heq
      rw [List.length_append,List.length_append] at hlen
      obtain ⟨hhead,hrest⟩ := List.append_inj heq (by omega)
      exact ⟨hhead,(ih htail).mp hrest⟩
    · rintro ⟨hhead,hrest⟩
      rw [hhead,(ih htail).mpr hrest]

/-- What all segments carry is what their counterparts hold. -/
lemma flatMap_flatten {γ : Type*} {R : α → List β → Prop} {carried : β → List γ} {held : α → List γ}
    (hR : ∀ a segment, R a segment → segment.flatMap carried = held a) {segments : List (List β)}
    (h : List.Forall₂ R l segments) : segments.flatten.flatMap carried = l.flatMap held := by
  induction h with
  | nil => rfl
  | cons h _ ih => rw [List.flatten_cons,List.flatMap_append,hR _ _ h,ih,List.flatMap_cons]

end Agree

section Replies
variable {α : Type*} (reply : α → Bool) (answers : α → α → Prop)

/-- Every reply comes, behind other replies only, after an element that it answers. -/
def Directly (l : List α) : Prop :=
  ∀ old m new, l = old++m::new → reply m = true →
    ∃ before a between, old = before++a::between ∧ reply a = false ∧ answers a m ∧ ∀ t∈between, reply t = true

/-- The same, read from left to right; `last` is the last element so far that is no reply. -/
def scan : Option α → List α → Prop
  | _,[] => True
  | last,m::ms =>
    if reply m then (∃ a∈last, answers a m) ∧ scan last ms else scan (some m) ms

variable {reply answers}

lemma exists_last_iff {p : α → Prop} (l : List α) :
    (∃ before a between, l = before++a::between ∧ reply a = false ∧ p a ∧ ∀ t∈between, reply t = true) ↔
      ∃ a∈l.reverse.find? (fun a => !reply a), p a := by
  constructor
  · rintro ⟨before,a,between,rfl,ha,hp,hb⟩
    refine ⟨a,?_,hp⟩
    rw [Option.mem_def,List.find?_eq_some_iff_append]
    refine ⟨by simp [ha],between.reverse,before.reverse,by simp,?_⟩
    intro t ht
    simpa using hb t (List.mem_reverse.mp ht)
  · rintro ⟨a,ha,hp⟩
    rw [Option.mem_def,List.find?_eq_some_iff_append] at ha
    obtain ⟨hr,before,after,heq,hall⟩ := ha
    refine ⟨after.reverse,a,before.reverse,?_,by simpa using hr,hp,?_⟩
    · rw [←List.reverse_reverse l,heq]
      simp
    · intro t ht
      simpa using hall t (List.mem_reverse.mp ht)

lemma scan_iff (old l : List α) :
    scan reply answers (old.reverse.find? (fun a => !reply a)) l ↔ ∀ mid m new, l = mid++m::new → reply m = true →
      ∃ before a between, old++mid = before++a::between ∧ reply a = false ∧ answers a m ∧
        ∀ t∈between, reply t = true := by
  induction l generalizing old with
  | nil =>
    refine iff_of_true trivial (fun mid m new h => ?_)
    simp at h
  | cons x xs ih =>
    have hx := ih (old++[x])
    rw [List.reverse_append,List.reverse_singleton,List.singleton_append,List.find?_cons] at hx
    have hstep : (∀ mid m new, x::xs = mid++m::new → reply m = true →
        ∃ before a between, old++mid = before++a::between ∧ reply a = false ∧ answers a m ∧
          ∀ t∈between, reply t = true) ↔
        (reply x = true → ∃ a∈old.reverse.find? (fun a => !reply a), answers a x) ∧
          ∀ mid m new, xs = mid++m::new → reply m = true →
            ∃ before a between, old++[x]++mid = before++a::between ∧ reply a = false ∧ answers a m ∧
              ∀ t∈between, reply t = true := by
      constructor
      · intro h
        refine ⟨fun hr => (exists_last_iff old).mp (by simpa using h [] x xs rfl hr),?_⟩
        intro mid m new heq hr
        have := h (x::mid) m new (by rw [heq,List.cons_append]) hr
        simpa using this
      · rintro ⟨hhead,htail⟩ mid m new heq hr
        cases mid with
        | nil =>
          rw [List.nil_append,List.cons.injEq] at heq
          obtain ⟨rfl,rfl⟩ := heq
          rw [List.append_nil]
          exact (exists_last_iff old).mpr (hhead hr)
        | cons y mid =>
          rw [List.cons_append,List.cons.injEq] at heq
          obtain ⟨rfl,rfl⟩ := heq
          simpa using htail mid m new rfl hr
    rw [hstep,scan]
    cases hr : reply x with
    | true =>
      rw [hr] at hx
      simp only [if_true,forall_true_left]
      exact and_congr_right fun _ => hx
    | false =>
      rw [hr] at hx
      simp only [Bool.false_eq_true,if_false,false_implies,true_and]
      exact hx

/-- The reading from left to right finds every reply that is out of place. -/
theorem directly_iff_scan (l : List α) : Directly reply answers l ↔ scan reply answers none l :=
  (scan_iff [] l).symm

end Replies

section Pending
variable {α β : Type*} {f g : α → List β} {P : β → Prop}

/-- Two segments that differ at a place both of them have. -/
def Clash (s t : List β) : Prop := ∃ p x y s' t', x≠y ∧ s = p++x::s' ∧ t = p++y::t'

/-- The second segment cannot make up for pieces of the given kind that the second list still owes. -/
inductive Strict (P : β → Prop) : List β → List β → Prop
  | empty : Strict P [] []
  | same (w : β) (h : P w) : Strict P [w] [w]
  | other {s t : List β} (y : β) (h : ¬P y) : Strict P s (y::t)
  | second {s t : List β} (v w y : β) (hv : P v) (hy : ¬P y) : Strict P (v::s) (w::y::t)

lemma Clash.append_ne {s t : List β} (h : Clash s t) (u v : List β) : s++u≠t++v := by
  obtain ⟨p,x,y,s',t',hne,rfl,rfl⟩ := h
  intro heq
  rw [List.append_assoc,List.append_assoc,List.append_cancel_left_eq,List.cons_append,List.cons_append,
    List.cons.injEq] at heq
  exact hne heq.1

lemma Clash.ne {s t : List β} (h : Clash s t) : s≠t := by
  have := h.append_ne [] []
  rwa [List.append_nil,List.append_nil] at this

lemma Clash.append_left {s t : List β} (h : Clash s t) (u : List β) : Clash (u++s) (u++t) := by
  obtain ⟨p,x,y,s',t',hne,rfl,rfl⟩ := h
  exact ⟨u++p,x,y,s',t',hne,by rw [List.append_assoc],by rw [List.append_assoc]⟩

lemma Clash.map {γ : Type*} {s t : List β} (h : Clash s t) {e : β → γ} (he : Function.Injective e) :
    Clash (s.map e) (t.map e) := by
  obtain ⟨p,x,y,s',t',hne,rfl,rfl⟩ := h
  exact ⟨p.map e,e x,e y,s'.map e,t'.map e,fun h => hne (he h),List.map_append,List.map_append⟩

lemma Strict.map {γ : Type*} {Q : γ → Prop} {s t : List β} (h : Strict P s t) {e : β → γ}
    (he : ∀ x, Q (e x) ↔ P x) : Strict Q (s.map e) (t.map e) := by
  cases h with
  | empty => exact .empty
  | same w hw => exact .same _ ((he w).mpr hw)
  | other y hy => exact .other _ (fun h => hy ((he y).mp h))
  | second v w y hv hy => exact .second _ _ _ ((he v).mpr hv) (fun h => hy ((he y).mp h))

/-- Pieces that are owed are owed to the end: a segment only passes them on. -/
lemma pending_ne {l : List α} (h : ∀ a∈l, Strict P (f a) (g a)) {owed : List β} (hne : owed≠[])
    (hP : ∀ w∈owed, P w) : owed++l.flatMap f≠l.flatMap g := by
  induction l generalizing owed with
  | nil =>
    rw [List.flatMap_nil,List.flatMap_nil,List.append_nil]
    exact hne
  | cons a l ih =>
    have htail : ∀ b∈l, Strict P (f b) (g b) := fun b hb => h b (List.mem_cons_of_mem _ hb)
    have ha := h a List.mem_cons_self
    obtain ⟨w,owed,rfl⟩ := List.exists_cons_of_ne_nil hne
    have hw := hP w List.mem_cons_self
    rw [List.flatMap_cons,List.flatMap_cons]
    generalize f a = s,g a = t at ha
    cases ha with
    | empty => exact ih htail hne hP
    | same v hv =>
      intro heq
      rw [List.cons_append,List.singleton_append,List.singleton_append,List.cons.injEq] at heq
      have hnext : owed++[v]≠[] := by simp
      refine ih htail hnext ?_ (by simpa using heq.2)
      intro u hu
      rw [List.mem_append,List.mem_singleton] at hu
      exact hu.elim (fun hu => hP u (List.mem_cons_of_mem _ hu)) (fun hu => hu ▸ hv)
    | other y hy =>
      intro heq
      rw [List.cons_append,List.cons_append,List.cons.injEq] at heq
      exact hy (heq.1 ▸ hw)
    | second v u y hv hy =>
      intro heq
      rw [List.cons_append,List.cons_append,List.cons_append,List.cons.injEq] at heq
      cases owed with
      | nil => exact hy ((List.cons.inj heq.2).1 ▸ hv)
      | cons z owed => exact hy ((List.cons.inj heq.2).1 ▸ hP z (by simp))

/-- Where each segment agrees with its counterpart, clashes with it or leaves pieces of the given kind out at its
end, the lists are equal only when all segments are. -/
theorem flatMap_eq_iff_of_strict {l : List α} (hs : ∀ a∈l, Strict P (f a) (g a))
    (hcases : ∀ a∈l, f a = g a ∨ Clash (f a) (g a) ∨ ∃ owed≠[], (∀ w∈owed, P w) ∧ f a = g a++owed) :
    l.flatMap f = l.flatMap g ↔ ∀ a∈l, f a = g a := by
  induction l with
  | nil => simp
  | cons a l ih =>
    have hl := ih (fun b hb => hs b (List.mem_cons_of_mem _ hb)) (fun b hb => hcases b (List.mem_cons_of_mem _ hb))
    rw [List.flatMap_cons,List.flatMap_cons,List.forall_mem_cons,←hl]
    obtain heq | hclash | ⟨owed,hne,hP,heq⟩ := hcases a List.mem_cons_self
    · rw [heq,List.append_cancel_left_eq]
      exact (and_iff_right rfl).symm
    · exact iff_of_false (hclash.append_ne _ _) (fun h => hclash.ne h.1)
    · refine iff_of_false ?_ ?_
      · rw [heq,List.append_assoc,List.append_cancel_left_eq]
        exact pending_ne (fun b hb => hs b (List.mem_cons_of_mem _ hb)) hne hP
      · rw [heq]
        exact fun h => hne (List.append_right_eq_self.mp h.1)

end Pending

end Segments
end Tierflow
