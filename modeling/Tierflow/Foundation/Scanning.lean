import Mathlib.Data.List.Infix
import Mathlib.Tactic

/-! Reading a list from the left: its first place with a given beginning, and all the pieces that one reader
cuts off it, one after the other. -/
namespace Tierflow
namespace Scanning

variable {α : Type*}

lemma drop_suffix_of_suffix {l l' : List α} (h : l<:+l') (n : ℕ) : l.drop n<:+l'.drop n := by
  refine List.suffix_of_suffix_length_le ((List.drop_suffix n l).trans h) (List.drop_suffix n l') ?_
  have := h.length_le
  rw [List.length_drop,List.length_drop]
  omega

section Break
variable [DecidableEq α]

/-- The list up to the first occurrence of a pattern, and the rest, which begins with it. -/
def breakAt (p : List α) : List α → Option (List α × List α)
  | [] => if p.isPrefixOf [] then some ([],[]) else none
  | c::cs =>
    if p.isPrefixOf (c::cs) then some ([],c::cs) else (breakAt p cs).map (fun s => (c::s.1,s.2))

lemma breakAt_of_starts {p l : List α} (h : p<+:l) : breakAt p l = some ([],l) := by
  have hp : p.isPrefixOf l = true := List.isPrefixOf_iff_prefix.mpr h
  cases l with
  | nil => rw [breakAt,if_pos hp]
  | cons c cs => rw [breakAt,if_pos hp]

lemma breakAt_cons {p : List α} {c : α} {cs : List α} (h : ¬p<+:c::cs) :
    breakAt p (c::cs) = (breakAt p cs).map (fun s => (c::s.1,s.2)) := by
  have hp : ¬p.isPrefixOf (c::cs) = true := fun hp => h (List.isPrefixOf_iff_prefix.mp hp)
  rw [breakAt,if_neg hp]

variable {p l a f : List α}

lemma breakAt_append (h : breakAt p l = some (a,f)) : l = a++f := by
  induction l generalizing a with
  | nil =>
    rw [breakAt] at h
    split_ifs at h
    cases h
    rfl
  | cons c cs ih =>
    by_cases hp : p<+:c::cs
    · rw [breakAt_of_starts hp] at h
      cases h
      rfl
    · rw [breakAt_cons hp,Option.map_eq_some_iff] at h
      obtain ⟨⟨a',f'⟩,hs,heq⟩ := h
      cases heq
      rw [List.cons_append,←ih hs]

lemma breakAt_starts (h : breakAt p l = some (a,f)) : p<+:f := by
  induction l generalizing a with
  | nil =>
    rw [breakAt] at h
    split_ifs at h with hp
    cases h
    exact List.isPrefixOf_iff_prefix.mp hp
  | cons c cs ih =>
    by_cases hp : p<+:c::cs
    · rw [breakAt_of_starts hp] at h
      cases h
      exact hp
    · rw [breakAt_cons hp,Option.map_eq_some_iff] at h
      obtain ⟨⟨a',f'⟩,hs,heq⟩ := h
      cases heq
      exact ih hs

/-- No occurrence comes before the one that is found. -/
lemma breakAt_first {x y : List α} (h : breakAt p l = some (a,f)) (hl : l = x++y) (hy : p<+:y) :
    a.length ≤ x.length := by
  induction l generalizing a x with
  | nil =>
    rw [breakAt] at h
    split_ifs at h
    cases h
    exact Nat.zero_le _
  | cons c cs ih =>
    by_cases hp : p<+:c::cs
    · rw [breakAt_of_starts hp] at h
      cases h
      exact Nat.zero_le _
    · rw [breakAt_cons hp,Option.map_eq_some_iff] at h
      obtain ⟨⟨a',f'⟩,hs,heq⟩ := h
      cases heq
      cases x with
      | nil =>
        rw [List.nil_append] at hl
        exact absurd (hl.symm ▸ hy) hp
      | cons d x =>
        rw [List.cons_append,List.cons.injEq] at hl
        have := ih hs hl.2
        simp only [List.length_cons]
        omega

lemma exists_breakAt {x y : List α} (hl : l = x++y) (hy : p<+:y) : ∃ s, breakAt p l = some s := by
  induction l generalizing x with
  | nil =>
    obtain ⟨-,rfl⟩ := List.append_eq_nil_iff.mp hl.symm
    exact ⟨_,breakAt_of_starts hy⟩
  | cons c cs ih =>
    by_cases hp : p<+:c::cs
    · exact ⟨_,breakAt_of_starts hp⟩
    · rw [breakAt_cons hp]
      cases x with
      | nil =>
        rw [List.nil_append] at hl
        exact absurd (hl.symm ▸ hy) hp
      | cons d x =>
        rw [List.cons_append,List.cons.injEq] at hl
        obtain ⟨s,hs⟩ := ih hl.2
        exact ⟨_,by rw [hs,Option.map_some]⟩

/-- What is found in the end of a list is found in the whole list, there or before. -/
lemma breakAt_of_suffix {l' : List α} (hl : l<:+l') (h : breakAt p l = some (a,f)) :
    ∃ a' f', breakAt p l' = some (a',f') ∧ f<:+f' := by
  obtain ⟨x,rfl⟩ := hl
  have hsplit := breakAt_append h
  have heq : x++l = (x++a)++f := by rw [hsplit,List.append_assoc]
  obtain ⟨⟨a',f'⟩,hs⟩ := exists_breakAt heq (breakAt_starts h)
  have hlen := breakAt_first hs heq (breakAt_starts h)
  have hf : f<:+x++l := ⟨x++a,heq.symm⟩
  have hf' : f'<:+x++l := ⟨a',(breakAt_append hs).symm⟩
  refine ⟨a',f',hs,List.suffix_of_suffix_length_le hf hf' ?_⟩
  have := congrArg List.length ((breakAt_append hs).symm.trans heq)
  rw [List.length_append,List.length_append] at this
  omega

end Break

section Chop
variable {β : Type*} (cut : List α → Option (β × List α))

/-- The pieces that a reader cuts off, at most so many, and what is left. -/
def chopUpTo : ℕ → List α → List β × List α
  | 0,l => ([],l)
  | n+1,l =>
    match cut l with
    | none => ([],l)
    | some (b,rest) => (b::(chopUpTo n rest).1,(chopUpTo n rest).2)

/-- All the pieces, and what is left. -/
def chop (l : List α) : List β × List α := chopUpTo cut l.length l

/-- Every piece takes something off the list. -/
def Shrinks : Prop := ∀ l b rest, cut l = some (b,rest) → rest.length < l.length

variable {cut}

lemma chopUpTo_eq (h : Shrinks cut) {n m : ℕ} {l : List α} (hn : l.length≤n) (hm : l.length ≤ m) :
    chopUpTo cut n l = chopUpTo cut m l := by
  induction n generalizing m l with
  | zero =>
    cases m with
    | zero => rfl
    | succ m =>
      rw [chopUpTo,chopUpTo]
      cases hc : cut l with
      | none => rfl
      | some s =>
        have := h l s.1 s.2 hc
        omega
  | succ n ih =>
    cases hc : cut l with
    | none =>
      cases m with
      | zero => rw [chopUpTo,chopUpTo,hc]
      | succ m => rw [chopUpTo,chopUpTo,hc]
    | some s =>
      have hs := h l s.1 s.2 hc
      cases m with
      | zero => omega
      | succ m =>
        rw [chopUpTo,chopUpTo,hc]
        show (s.1::(chopUpTo cut n s.2).1,(chopUpTo cut n s.2).2) =
          (s.1::(chopUpTo cut m s.2).1,(chopUpTo cut m s.2).2)
        rw [ih (m := m) (l := s.2) (by omega) (by omega)]

lemma chop_none {l : List α} (hl : cut l = none) : chop cut l = ([],l) := by
  unfold chop
  cases l.length with
  | zero => rfl
  | succ n => rw [chopUpTo,hl]

lemma chop_some (h : Shrinks cut) {l rest : List α} {b : β} (hl : cut l = some (b,rest)) :
    chop cut l = (b::(chop cut rest).1,(chop cut rest).2) := by
  have hlt := h l b rest hl
  unfold chop
  obtain ⟨n,hn⟩ : ∃ n, l.length = n+1 := ⟨l.length-1,by omega⟩
  rw [hn,chopUpTo,hl]
  show (b::(chopUpTo cut n rest).1,(chopUpTo cut n rest).2) = _
  rw [chopUpTo_eq h (show rest.length≤n by omega) le_rfl]

/-- Induction along the pieces. -/
theorem chop_induction (h : Shrinks cut) {P : List α → Prop} (last : ∀ l, cut l = none → P l)
    (piece : ∀ l b rest, cut l = some (b,rest) → P rest → P l) (l : List α) : P l := by
  induction hn : l.length using Nat.strong_induction_on generalizing l with
  | _ n ih =>
    cases hc : cut l with
    | none => exact last l hc
    | some s => exact piece l s.1 s.2 hc (ih s.2.length (hn ▸ h l s.1 s.2 hc) s.2 rfl)

end Chop

end Scanning
end Tierflow
