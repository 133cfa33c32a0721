import Mathlib.Logic.Relation
import Mathlib.Tactic

/-! Chains of a partial function: from each element to the next one, until there is none. A chain ends in one
place or enters a cycle, never both. -/
namespace Tierflow
namespace Chains
open Relation

variable {α : Type*} (next : α → Option α)

def Step (a b : α) : Prop := next a = some b

def EndsAt (a e : α) : Prop := ReflTransGen (Step next) a e ∧ next e = none

def EntersCycle (a : α) : Prop := ∃ b, ReflTransGen (Step next) a b ∧ TransGen (Step next) b b

variable {next} {a b e e' : α}

lemma Step.unique {c : α} (hb : Step next a b) (hc : Step next a c) : b = c := Option.some.inj (hb.symm.trans hc)

lemma EndsAt.of_none (h : next a = none) : EndsAt next a a := ⟨.refl,h⟩

/-- Where a chain ends, so do its tails. -/
lemma EndsAt.tail (h : EndsAt next a e) (hs : Step next a b) : EndsAt next b e := by
  obtain ⟨hchain,hend⟩ := h
  refine ⟨?_,hend⟩
  rcases ReflTransGen.cases_head hchain with rfl | ⟨c,hc,hrest⟩
  · exact nomatch hend.symm.trans hs
  · exact hc.unique hs ▸ hrest

theorem EndsAt.unique (h : EndsAt next a e) (h' : EndsAt next a e') : e = e' := by
  obtain ⟨hchain,hend⟩ := h
  induction hchain using ReflTransGen.head_induction_on with
  | refl =>
    rcases ReflTransGen.cases_head h'.1 with rfl | ⟨c,hc,-⟩
    · rfl
    · exact nomatch hend.symm.trans hc
  | head hs hrest ih => exact ih (h'.tail hs)

/-- An element of a cycle has a next one in the cycle. -/
lemma transGen_next (h : TransGen (Step next) a a) (hs : Step next a b) : TransGen (Step next) b b := by
  obtain ⟨c,hc,hrest⟩ := TransGen.head'_iff.mp h
  obtain rfl := hc.unique hs
  exact TransGen.tail' hrest hs

lemma not_transGen_of_endsAt (h : EndsAt next a e) : ¬TransGen (Step next) a a := by
  obtain ⟨hchain,hend⟩ := h
  induction hchain using ReflTransGen.head_induction_on with
  | refl =>
    intro hcycle
    obtain ⟨c,hc,-⟩ := TransGen.head'_iff.mp hcycle
    exact nomatch hend.symm.trans hc
  | head hs hrest ih => exact fun hcycle => ih (transGen_next hcycle hs)

theorem EndsAt.not_entersCycle (h : EndsAt next a e) : ¬EntersCycle next a := by
  rintro ⟨b,hb,hcycle⟩
  induction hb using ReflTransGen.head_induction_on with
  | refl => exact not_transGen_of_endsAt h hcycle
  | head hs hrest ih => exact ih (h.tail hs)

end Chains
end Tierflow
