import Mathlib.Data.List.Rotate
import Mathlib.Tactic

/-! Taking turns. The positions below a bound are gone through in a circle; from where the last turn ended, the next
position that qualifies has its turn. As long as nothing changes, nobody has a second turn before all had one. -/
namespace Tierflow
namespace RoundRobin
variable (p : ℕ → Bool) (n : ℕ)

/-- All positions in their order from a given one on. -/
def circle (start : ℕ) : List ℕ := (List.range n).map (fun i => (start+i)%n)

/-- The next position that qualifies. -/
def next (start : ℕ) : Option ℕ := (circle n start).find? p

/-- So many turns, each beginning behind the one before. -/
def turns : ℕ → ℕ → List ℕ
  | 0,_ => []
  | k+1,start =>
    match next p n start with
    | none => []
    | some i => i::turns k ((i+1)%n)

/-- Who is to have a turn, in the order of the turns. -/
def waiting (start : ℕ) : List ℕ := (circle n start).filter p

variable {p n} {start : ℕ}

lemma circle_eq_rotate (start : ℕ) : circle n start = (List.range n).rotate start := by
  apply List.ext_getElem
  · simp [circle]
  · intro i h h'
    simp only [circle,List.getElem_map,List.getElem_range,List.getElem_rotate,List.length_range]
    rw [Nat.add_comm]

lemma circle_mod (start : ℕ) : circle n (start%n) = circle n start := by
  have h := (List.range n).rotate_mod start
  rw [List.length_range] at h
  rw [circle_eq_rotate,circle_eq_rotate,h]

lemma mem_circle {i : ℕ} : i∈circle n start ↔ i < n := by
  rw [circle_eq_rotate,List.mem_rotate,List.mem_range]

lemma mem_waiting {i : ℕ} : i∈waiting p n start ↔ i < n ∧ p i = true := by
  rw [waiting,List.mem_filter,mem_circle]

lemma waiting_nodup (start : ℕ) : (waiting p n start).Nodup := by
  unfold waiting
  rw [circle_eq_rotate]
  exact (List.nodup_rotate.mpr List.nodup_range).filter _

lemma waiting_perm (start start' : ℕ) : (waiting p n start).Perm (waiting p n start') := by
  rw [List.perm_ext_iff_of_nodup (waiting_nodup start) (waiting_nodup start')]
  intro i
  rw [mem_waiting,mem_waiting]

lemma next_eq_head (start : ℕ) : next p n start = (waiting p n start).head? := List.head?_filter.symm

/-- Whoever had a turn goes to the end of the line. -/
lemma waiting_after {i : ℕ} {rest : List ℕ} (h : waiting p n start = i::rest) :
    waiting p n ((i+1)%n) = rest++[i] := by
  obtain ⟨before,after,hcircle,hbefore,hi,hrest⟩ := List.filter_eq_cons_iff.mp h
  have hnone : before.filter p = [] := List.filter_eq_nil_iff.mpr hbefore
  have hlength : before.length < n := by
    have hl := congrArg List.length hcircle
    rw [circle,List.length_map,List.length_range,List.length_append,List.length_cons] at hl
    omega
  have hat : i = (start+before.length)%n := by
    have hget : (circle n start)[before.length]? = some i := by
      rw [hcircle]
      simp
    rw [circle,List.getElem?_map,List.getElem?_range hlength] at hget
    exact (Option.some.inj hget).symm
  have hnext : circle n ((i+1)%n) = after++(before++[i]) := by
    have hstart : circle n ((i+1)%n) = circle n (start+(before++[i]).length) := by
      have hturn : (i+1)%n = (start+(before++[i]).length)%n := by
        rw [List.length_append,List.length_singleton,←Nat.add_assoc,hat,Nat.mod_add_mod]
      rw [hturn,circle_mod]
    rw [hstart,circle_eq_rotate,←List.rotate_rotate,←circle_eq_rotate,hcircle]
    have hsplit : before++i::after = (before++[i])++after := by simp
    rw [hsplit,List.rotate_append_length_eq]
  unfold waiting
  rw [hnext,List.filter_append,List.filter_append,hnone,hrest]
  simp [hi]

/-- The turns follow the line. -/
theorem turns_eq_take (k : ℕ) (start : ℕ) (hk : k ≤ (waiting p n start).length) :
    turns p n k start = (waiting p n start).take k := by
  induction k generalizing start with
  | zero => rfl
  | succ k ih =>
    unfold turns
    rw [next_eq_head]
    cases hw : waiting p n start with
    | nil =>
      rw [hw,List.length_nil] at hk
      omega
    | cons i rest =>
      have hafter := waiting_after hw
      rw [hw,List.length_cons] at hk
      dsimp only [List.head?_cons]
      rw [ih ((i+1)%n) (by rw [hafter,List.length_append]; omega),hafter,List.take_succ_cons,
        List.take_append_of_le_length (by omega)]

/-- As many turns as there are positions that qualify: each of them has one. -/
theorem turns_perm (start start' : ℕ) :
    (turns p n (waiting p n start).length start).Perm (waiting p n start') := by
  rw [turns_eq_take _ start le_rfl,List.take_length]
  exact waiting_perm start start'

end RoundRobin
end Tierflow
