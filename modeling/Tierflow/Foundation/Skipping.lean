import Mathlib.Data.List.Infix
import Mathlib.Tactic

/-! Searching a word by windows: after a mismatch the window moves by what the symbol behind it allows. A move that
never passes the last place of that symbol in the word loses no occurrence. -/
namespace Tierflow
namespace Skipping
variable {α : Type*}

/-- The search from alignment `i` on, for at most `fuel` windows. -/
def scan [DecidableEq α] (shift : α → ℕ) (word text : List α) : ℕ → ℕ → Bool
  | 0,_ => false
  | fuel+1,i =>
    if i+word.length≤text.length then
      if word.isPrefixOf (text.drop i) then true
      else match text[i+word.length]? with
        | some next => scan shift word text fuel (i+shift next)
        | none => false
    else false

/-- The word stands at alignment `k`. -/
def Occurs (word text : List α) (k : ℕ) : Prop := k+word.length≤text.length ∧ word<+:text.drop k

/-- A move stays behind every place of the symbol in the word. -/
structure Safe (shift : α → ℕ) (word : List α) : Prop where
  pos : ∀ a, 0 < shift a
  le : ∀ a, shift a≤word.length+1
  place : ∀ a j, word[j]? = some a → shift a+j≤word.length

variable {shift : α → ℕ} {word text : List α}

lemma infix_iff_occurs : word<:+:text ↔ ∃ k, Occurs word text k := by
  constructor
  · rintro ⟨s,t,rfl⟩
    refine ⟨s.length,?_,?_⟩
    · simp only [List.length_append]
      omega
    · rw [List.append_assoc,List.drop_left]
      exact List.prefix_append word t
  · rintro ⟨k,-,h⟩
    exact h.isInfix.trans (List.drop_suffix k text).isInfix

/-- An occurrence behind the window is not passed. -/
lemma Safe.le_occurs (hs : Safe shift word) {i k : ℕ} {a : α} (ho : Occurs word text k) (hik : i<k)
    (ha : text[i+word.length]? = some a) : i+shift a≤k := by
  by_contra hlt
  have hle := hs.le a
  obtain ⟨t,ht⟩ := ho.2
  have hj : i+word.length-k<word.length := by omega
  have hplace : word[i+word.length-k]? = some a := by
    have happ : (word++t)[i+word.length-k]? = word[i+word.length-k]? := List.getElem?_append_left hj
    rw [←happ,ht,List.getElem?_drop,←ha]
    congr 1
    omega
  have := hs.place a _ hplace
  omega

variable [DecidableEq α]

/-- With a safe move the search finds what stands in the text from the alignment on. -/
theorem scan_iff (hs : Safe shift word) {fuel i : ℕ} (hf : text.length<fuel+i) :
    scan shift word text fuel i = true ↔ ∃ k, i≤k ∧ Occurs word text k := by
  induction fuel generalizing i with
  | zero =>
    simp only [scan,Bool.false_eq_true,false_iff]
    rintro ⟨k,hk,ho,-⟩
    omega
  | succ fuel ih =>
    rw [scan]
    split_ifs with hlen hpre
    · exact ⟨fun _ => ⟨i,le_refl i,hlen,List.isPrefixOf_iff_prefix.mp hpre⟩,fun _ => rfl⟩
    · have hne : ∀ k, i≤k → Occurs word text k → i<k := by
        intro k hk ho
        refine lt_of_le_of_ne hk ?_
        rintro rfl
        exact hpre (List.isPrefixOf_iff_prefix.mpr ho.2)
      cases ha : text[i+word.length]? with
      | none =>
        simp only [Bool.false_eq_true,false_iff]
        rintro ⟨k,hk,ho⟩
        have := List.getElem?_eq_none_iff.mp ha
        have := hne k hk ho
        have := ho.1
        omega
      | some a =>
        have hpos := hs.pos a
        rw [ih (by omega)]
        constructor
        · rintro ⟨k,hk,ho⟩
          exact ⟨k,by omega,ho⟩
        · rintro ⟨k,hk,ho⟩
          exact ⟨k,hs.le_occurs ho (hne k hk ho) ha,ho⟩
    · simp only [false_iff]
      rintro ⟨k,hk,ho,-⟩
      omega

lemma scan_past {fuel i : ℕ} (h : text.length < i+word.length) : scan shift word text fuel i = false := by
  cases fuel with
  | zero => rfl
  | succ fuel => rw [scan,if_neg (not_le.mpr h)]

end Skipping
end Tierflow
