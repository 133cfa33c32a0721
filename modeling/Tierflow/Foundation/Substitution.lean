import Mathlib.Data.List.Infix
import Mathlib.Tactic

/-! The first occurrence of a word in a text, and another word in its place. -/
namespace Tierflow
namespace Substitution
variable {α : Type*} [BEq α]

/-- What stands before the first occurrence of the word, everything if it does not occur. -/
def textBefore (word l : List α) : List α := ((l.dropInfix? word).map Prod.fst).getD l

def replaceFirst (word new l : List α) : List α :=
  match l.dropInfix? word with
  | some (p,s) => p++new++s
  | none => l

/-- Replacing one word after the other, each where it occurs first. -/
def substitute (changes : List (List α × List α)) (l : List α) : List α :=
  changes.foldl (fun l c => replaceFirst c.1 c.2 l) l

section First
variable [LawfulBEq α] {word new p s : List α}

lemma dropInfix?_append (h : ∀ p' s', p++word++s = p'++word++s' → p.length≤p'.length) :
    (p++word++s).dropInfix? word = some (p,s) := by
  rw [List.dropInfix?_eq_some_iff]
  refine ⟨⟨word,rfl,beq_self_eq_true word⟩,?_⟩
  intro p' i' s' heq hi
  rw [beq_iff_eq.mp hi] at heq
  exact h p' s' heq

lemma textBefore_append (h : ∀ p' s', p++word++s = p'++word++s' → p.length≤p'.length) :
    textBefore word (p++word++s) = p := by
  unfold textBefore
  rw [dropInfix?_append h]
  rfl

lemma replaceFirst_append (h : ∀ p' s', p++word++s = p'++word++s' → p.length≤p'.length) :
    replaceFirst word new (p++word++s) = p++new++s := by
  unfold replaceFirst
  rw [dropInfix?_append h]

/-- A word takes no more than its letters with it. -/
lemma count_le_replaceFirst (a : α) (word new l : List α) :
    l.count a≤(replaceFirst word new l).count a+word.count a := by
  unfold replaceFirst
  cases h : l.dropInfix? word with
  | none => exact Nat.le_add_right _ _
  | some ps =>
    obtain ⟨⟨i,hl,hi⟩,-⟩ := List.dropInfix?_eq_some_iff.mp h
    rw [hl,beq_iff_eq.mp hi]
    dsimp only
    rw [List.count_append,List.count_append,List.count_append,List.count_append]
    omega

/-- So many words with one letter each take no more of them than there are words. -/
lemma count_le_substitute (a : α) (l : List α) {changes : List (List α × List α)} (h : ∀ c∈changes, c.1.count a≤1) :
    l.count a≤(substitute changes l).count a+changes.length := by
  unfold substitute
  induction changes generalizing l with
  | nil => simp
  | cons c changes ih =>
    have hone := h c List.mem_cons_self
    have hstep := count_le_replaceFirst a c.1 c.2 l
    have hrest := ih (replaceFirst c.1 c.2 l) (fun c' hc' => h c' (List.mem_cons_of_mem c hc'))
    rw [List.foldl_cons,List.length_cons]
    omega

end First

end Substitution
end Tierflow
