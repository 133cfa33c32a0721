import Mathlib.Order.Bounds.Basic
import Mathlib.Tactic

/-! Catching up with a schedule. `next b` is the mark that follows `b`, and nothing positive when
there is none; a loop moves from mark to mark while the next one is due. The loop carries fuel and
answers `none` while it has not ended. -/
namespace Tierflow.Schedule

def Due (next : ℤ → ℤ) (now b : ℤ) : Prop := 0<next b ∧ next b≤now

instance (next : ℤ → ℤ) (now b : ℤ) : Decidable (Due next now b) :=
  inferInstanceAs (Decidable (0<next b ∧ next b≤now))

def catchUp (next : ℤ → ℤ) (now : ℤ) : ℕ → ℤ → Option ℤ
  | 0,_ => none
  | n+1,b => if Due next now b then catchUp next now n (next b) else some b

/-- The loop ends at `c` for some amount of fuel. -/
def Settles (next : ℤ → ℤ) (now b c : ℤ) : Prop := ∃n,catchUp next now n b = some c

/-- Every mark lies after the one before it. -/
def Advances (next : ℤ → ℤ) : Prop := ∀b,0<next b → b<next b

section
variable {next : ℤ → ℤ} {now b c d : ℤ} {n : ℕ}

lemma Due.mono {later : ℤ} (h : Due next now b) (hl : now≤later) : Due next later b :=
  ⟨h.1,h.2.trans hl⟩

/-- More fuel does not change where the loop ends. -/
lemma catchUp_add (h : catchUp next now n b = some c) (k : ℕ) : catchUp next now (n+k) b = some c := by
  induction n generalizing b with
  | zero => contradiction
  | succ n ih =>
    rw [Nat.add_right_comm,catchUp]
    rw [catchUp] at h
    by_cases hd : Due next now b
    · rw [if_pos hd] at h ⊢
      exact ih h
    · rw [if_neg hd] at h ⊢
      exact h

lemma Settles.unique (h : Settles next now b c) (h' : Settles next now b d) : c=d := by
  obtain ⟨m,hm⟩ := h
  obtain ⟨n,hn⟩ := h'
  have h1 := catchUp_add hm n
  have h2 := catchUp_add hn m
  rw [Nat.add_comm] at h2
  exact Option.some.inj (h1.symm.trans h2)

/-- What holds at the start and is kept by every step holds where the loop ends. -/
theorem Settles.induct {P : ℤ → Prop} (h : Settles next now b c) (hb : P b)
    (hstep : ∀b,P b → Due next now b → P (next b)) : P c := by
  obtain ⟨n,hn⟩ := h
  induction n generalizing b with
  | zero => contradiction
  | succ n ih =>
    rw [catchUp] at hn
    by_cases hd : Due next now b
    · rw [if_pos hd] at hn
      exact ih (hstep b hb hd) hn
    · rw [if_neg hd] at hn
      exact Option.some.inj hn ▸ hb

lemma Settles.step (hd : Due next now b) (h : Settles next now (next b) c) : Settles next now b c := by
  obtain ⟨n,hn⟩ := h
  exact ⟨n+1,by rw [catchUp,if_pos hd,hn]⟩

lemma settles_self (hd : ¬Due next now b) : Settles next now b b :=
  ⟨1,by rw [catchUp,if_neg hd]⟩

lemma Settles.not_due (h : Settles next now b c) : ¬Due next now c := by
  obtain ⟨n,hn⟩ := h
  induction n generalizing b with
  | zero => contradiction
  | succ n ih =>
    rw [catchUp] at hn
    by_cases hd : Due next now b
    · rw [if_pos hd] at hn
      exact ih hn
    · rw [if_neg hd] at hn
      exact Option.some.inj hn ▸ hd

/-- The loop ends: each round moves closer to `now`. -/
theorem Advances.settles (ha : Advances next) (now b : ℤ) : ∃c,Settles next now b c := by
  have h : ∀n : ℕ,∀b,now-b≤n → ∃c,Settles next now b c := by
    intro n
    induction n with
    | zero =>
      intro b hb
      refine ⟨b,settles_self fun hd => ?_⟩
      have := ha b hd.1
      have := hd.2
      push_cast at hb
      omega
    | succ n ih =>
      intro b hb
      by_cases hd : Due next now b
      · have := ha b hd.1
        obtain ⟨c,hc⟩ := ih (next b) (by push_cast at hb; omega)
        exact ⟨c,hc.step hd⟩
      · exact ⟨b,settles_self hd⟩
  exact h (now-b).toNat b (Int.self_le_toNat _)

/-- Catching up on the way makes no difference to where a later catch-up ends. -/
theorem Settles.trans {later : ℤ} (h : Settles next now b c) (hl : now≤later)
    (h' : Settles next later c d) : Settles next later b d := by
  obtain ⟨n,hn⟩ := h
  induction n generalizing b with
  | zero => contradiction
  | succ n ih =>
    rw [catchUp] at hn
    by_cases hd : Due next now b
    · rw [if_pos hd] at hn
      exact (ih hn).step (hd.mono hl)
    · rw [if_neg hd] at hn
      exact Option.some.inj hn ▸ h'

lemma Settles.pos (h : Settles next now b c) (hb : 0<b) : 0 < c :=
  h.induct hb fun _ _ hd => hd.1

lemma Settles.le_now (h : Settles next now b c) (hb : b≤now) : c≤now :=
  h.induct (P := (· ≤now)) hb fun _ _ hd => hd.2

/-- After a due start the loop ends at a mark, which is positive and not after `now`. -/
lemma Settles.of_due (h : Settles next now b c) (hd : Due next now b) : 0 < c ∧ c≤now := by
  obtain ⟨n,hn⟩ := h
  cases n with
  | zero => contradiction
  | succ n =>
    rw [catchUp,if_pos hd] at hn
    have ht : Settles next now (next b) c := ⟨n,hn⟩
    exact ⟨ht.pos hd.1,ht.le_now hd.2⟩

/-- `next` follows the marks of `M`: after a mark it answers the least later one, or nothing
when the mark is the last. -/
structure Follows (M : Set ℤ) (next : ℤ → ℤ) : Prop where
  least : ∀b∈M,0<next b → IsLeast {m | m∈M ∧ b < m} (next b)
  last : ∀b∈M,next b≤0 → ∀m∈M, m≤b

/-- From a mark, the loop ends at the greatest mark that is not after `now`. -/
theorem Follows.isGreatest {M : Set ℤ} (hf : Follows M next) (hb : b∈M) (hn : b≤now)
    (h : Settles next now b c) : IsGreatest {m | m∈M ∧ m≤now} c := by
  have hM : c∈M := h.induct hb fun b hb hd => (hf.least b hb hd.1).1.1
  refine ⟨⟨hM,h.le_now hn⟩,fun m hm => ?_⟩
  by_contra hlt
  rw [not_le] at hlt
  by_cases hp : 0<next c
  · have hle : next c ≤ m := (hf.least c hM hp).2 ⟨hm.1,hlt⟩
    exact h.not_due ⟨hp,hle.trans hm.2⟩
  · exact absurd (hf.last c hM (not_lt.mp hp) m hm.1) (not_le.mpr hlt)

/-- The mark that follows the end of the loop is the least one after `now`. -/
theorem Follows.isLeast {M : Set ℤ} (hf : Follows M next) (hb : b∈M) (hn : b≤now)
    (h : Settles next now b c) (hp : 0<next c) : IsLeast {m | m∈M ∧ now < m} (next c) := by
  have hg := hf.isGreatest hb hn h
  have hl := hf.least c hg.1.1 hp
  refine ⟨⟨hl.1.1,?_⟩,fun m hm => hl.2 ⟨hm.1,hg.1.2.trans_lt hm.2⟩⟩
  by_contra hle
  exact h.not_due ⟨hp,not_lt.mp hle⟩

end
end Tierflow.Schedule
