import Mathlib.Algebra.BigOperators.Group.Finset.Basic
import Mathlib.Tactic

/-! Sums over the processes of a system, of which one takes a step at a time. -/
namespace Tierflow

section Moved
variable {P M : Type*} [Fintype P] [DecidableEq P] [AddCommGroup M] {f f' : P → M} {p : P}

/-- A sum changes by what it changes at the only process that moves. -/
lemma sum_moved (h : ∀ q, q≠p → f' q=f q) : ∑ q, f' q=∑ q, f q+(f' p-f p) := by
  rw [←Finset.add_sum_erase Finset.univ f' (Finset.mem_univ p),←Finset.add_sum_erase Finset.univ f (Finset.mem_univ p),
    Finset.sum_congr rfl (fun q hq => h q (Finset.ne_of_mem_erase hq))]
  abel

/-- A sum over the values that the processes have after one of them is set. -/
lemma sum_update {α : Type*} (g : P → α) (a : α) (v : α → M) :
    ∑ q, v (Function.update g p a q)=∑ q, v (g q)+(v a-v (g p)) := by
  rw [sum_moved (f := fun q => v (g q)) (p := p)]
  · rw [Function.update_self]
  · intro q hq
    rw [Function.update_of_ne hq]

end Moved

end Tierflow
