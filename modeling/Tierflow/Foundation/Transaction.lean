import Mathlib.Data.List.Basic
import Mathlib.Tactic

/-! Transactions and runs of transactions. A transaction body either returns or fails; an
operation of a system commits, with a next state and the events it emits, or is rolled back and
leaves everything as it was. The rules below lift a step property to every state of a run. -/
namespace Tierflow

section Body
universe u
variable {ε : Type*} {α β : Type u}

/-- A body that returns has returned from each of its parts. -/
lemma bind_eq_ok {x : Except ε α} {f : α → Except ε β} {b : β} :
    (x >>= f)=.ok b ↔ ∃ a, x=.ok a ∧ f a=.ok b := by
  rcases x with e | a
  · constructor
    · intro h
      exact nomatch h
    · rintro ⟨a,h,-⟩
      exact nomatch h
  · constructor
    · intro h
      exact ⟨a,rfl,h⟩
    · rintro ⟨a',h,hf⟩
      obtain rfl := Except.ok.inj h
      exact hf

lemma toOption_eq_some {x : Except ε α} {a : α} : x.toOption = some a ↔ x = .ok a := by
  cases x <;> simp [Except.toOption]

@[simp] lemma ok_bind (a : α) (f : α → Except ε β) : ((.ok a : Except ε α) >>= f) = f a := rfl

/-- Fail with an error unless a condition holds. -/
def require (e : ε) (p : Prop) [Decidable p] : Except ε Unit := if p then .ok () else .error e

@[simp] lemma require_eq_ok {e : ε} {p : Prop} [Decidable p] {u : Unit} :
    require e p = .ok u ↔ p := by
  unfold require
  split_ifs with h <;> simp [h]

lemma require_of {e : ε} {p : Prop} [Decidable p] (h : p) : require e p = .ok () := if_pos h

/-- The row that a lookup found, or an error. -/
def orFail (e : ε) : Option α → Except ε α
  | none => .error e
  | some a => .ok a

@[simp] lemma orFail_eq_ok {e : ε} {o : Option α} {a : α} : orFail e o = .ok a ↔ o = some a := by
  cases o <;> simp [orFail]

@[simp] lemma orFail_some (e : ε) (a : α) : orFail e (some a) = .ok a := rfl

end Body

/-- `step s i` is `none` exactly when operation `i` is rolled back in state `s`. -/
structure TxSystem (σ ι ε : Type*) where
  step : σ → ι → Option (σ × List ε)

namespace TxSystem
variable {σ ι ε : Type*}

/-- A state together with everything emitted so far, the newest event first. -/
structure Config (σ ε : Type*) where
  state : σ
  history : List ε

variable (M : TxSystem σ ι ε)

def exec (c : Config σ ε) (i : ι) : Config σ ε :=
  match M.step c.state i with
  | none => c
  | some (s,es) => ⟨s,es++c.history⟩

def run (c : Config σ ε) : List ι → Config σ ε
  | [] => c
  | i::is => run (M.exec c i) is

/-- Every configuration that a run passes through satisfies `P`. -/
def Always (P : Config σ ε → Prop) (c : Config σ ε) : List ι → Prop
  | [] => P c
  | i::is => P c ∧ Always P (M.exec c i) is

/-- Every operation of a run is issued in a configuration that meets the condition `G`. -/
def Guarded (G : Config σ ε → ι → Prop) (c : Config σ ε) : List ι → Prop
  | [] => True
  | i::is => G c i ∧ Guarded G (M.exec c i) is

instance decidableGuarded (G : Config σ ε → ι → Prop) [h : ∀ c i, Decidable (G c i)] :
    ∀ c is, Decidable (M.Guarded G c is)
  | _,[] => instDecidableTrue
  | c,i::is => @instDecidableAnd _ _ (h c i) (decidableGuarded G (M.exec c i) is)

instance decidableAlways (P : Config σ ε → Prop) [h : ∀ c, Decidable (P c)] :
    ∀ c is, Decidable (M.Always P c is)
  | c,[] => h c
  | c,i::is => @instDecidableAnd _ _ (h c) (decidableAlways P (M.exec c i) is)

variable {M} {P Q : Config σ ε → Prop} {G : Config σ ε → ι → Prop}

lemma exec_of_some {c : Config σ ε} {i : ι} {s : σ} {es : List ε} (h : M.step c.state i = some (s,es)) :
    M.exec c i = ⟨s,es++c.history⟩ := by rw [exec,h]

lemma exec_of_none {c : Config σ ε} {i : ι} (h : M.step c.state i = none) : M.exec c i = c := by
  rw [exec,h]

@[simp] lemma run_append (c : Config σ ε) (is js : List ι) :
    M.run c (is++js) = M.run (M.run c is) js := by
  induction is generalizing c with
  | nil => rfl
  | cons i is ih => exact ih _

/-- A run only adds to the history. -/
lemma history_subset_run (c : Config σ ε) (is : List ι) : c.history ⊆ (M.run c is).history := by
  induction is generalizing c with
  | nil => exact List.Subset.refl _
  | cons i is ih =>
    refine List.Subset.trans ?_ (ih (M.exec c i))
    cases h : M.step c.state i with
    | none => rw [exec_of_none h]; exact List.Subset.refl _
    | some r => rw [exec_of_some h]; exact List.subset_append_right _ _

lemma Always.head {c : Config σ ε} {is : List ι} (h : M.Always P c is) : P c := by
  cases is with
  | nil => exact h
  | cons i is => exact h.1

lemma Always.last {c : Config σ ε} {is : List ι} (h : M.Always P c is) : P (M.run c is) := by
  induction is generalizing c with
  | nil => exact h
  | cons i is ih => exact ih h.2

lemma Always.mono {c : Config σ ε} {is : List ι} (hPQ : ∀ d, P d → Q d) (h : M.Always P c is) :
    M.Always Q c is := by
  induction is generalizing c with
  | nil => exact hPQ c h
  | cons i is ih => exact ⟨hPQ c h.1,ih h.2⟩

lemma always_of_forall (h : ∀ d, P d) (c : Config σ ε) (is : List ι) : M.Always P c is := by
  induction is generalizing c with
  | nil => exact h c
  | cons i is ih => exact ⟨h c,ih (M.exec c i)⟩

lemma Always.and {c : Config σ ε} {is : List ι} (hP : M.Always P c is) (hQ : M.Always Q c is) :
    M.Always (fun d => P d ∧ Q d) c is := by
  induction is generalizing c with
  | nil => exact ⟨hP,hQ⟩
  | cons i is ih => exact ⟨⟨hP.1,hQ.1⟩,ih hP.2 hQ.2⟩

/-- A property kept by every committed operation holds throughout every run. -/
theorem always_of_step {c : Config σ ε} (h0 : P c)
    (hstep : ∀ d i s es, P d → M.step d.state i = some (s,es) → P ⟨s,es++d.history⟩) (is : List ι) :
    M.Always P c is := by
  induction is generalizing c with
  | nil => exact h0
  | cons i is ih =>
    refine ⟨h0,ih ?_⟩
    cases h : M.step c.state i with
    | none => rwa [exec_of_none h]
    | some r => rw [exec_of_some h]; exact hstep c i r.1 r.2 h0 h

/-- The same rule when only operations that meet a condition keep the property. -/
theorem always_of_guarded {c : Config σ ε} {is : List ι} (h0 : P c)
    (hstep : ∀ d i s es, P d → G d i → M.step d.state i = some (s,es) → P ⟨s,es++d.history⟩)
    (hG : M.Guarded G c is) : M.Always P c is := by
  induction is generalizing c with
  | nil => exact h0
  | cons i is ih =>
    refine ⟨h0,ih ?_ hG.2⟩
    cases h : M.step c.state i with
    | none => rwa [exec_of_none h]
    | some r => rw [exec_of_some h]; exact hstep c i r.1 r.2 h0 hG.1 h

lemma guarded_of_forall {c : Config σ ε} {is : List ι} (h : ∀ i∈is, ∀ d, G d i) : M.Guarded G c is := by
  induction is generalizing c with
  | nil => trivial
  | cons i is ih => exact ⟨h i (by simp) c,ih (fun j hj => h j (by simp [hj]))⟩

/-- What holds of the whole history of a run holds of the events of each of its operations. -/
lemma guarded_of_history {E : ε → Prop} {c : Config σ ε} {is : List ι}
    (h : ∀ e∈(M.run c is).history, E e) :
    M.Guarded (fun d i => ∀ s es, M.step d.state i = some (s,es) → ∀ e∈es, E e) c is := by
  induction is generalizing c with
  | nil => trivial
  | cons i is ih =>
    refine ⟨?_,ih h⟩
    intro s es hs e he
    apply h
    rw [run,exec_of_some hs]
    exact history_subset_run _ _ (List.mem_append_left _ he)

lemma Guarded.and {G' : Config σ ε → ι → Prop} {c : Config σ ε} {is : List ι} (h : M.Guarded G c is)
    (h' : M.Guarded G' c is) : M.Guarded (fun d i => G d i ∧ G' d i) c is := by
  induction is generalizing c with
  | nil => trivial
  | cons i is ih => exact ⟨⟨h.1,h'.1⟩,ih h.2 h'.2⟩

lemma Guarded.of_prefix {c : Config σ ε} {is js : List ι} (h : M.Guarded G c is) (hj : js<+:is) :
    M.Guarded G c js := by
  obtain ⟨ks,rfl⟩ := hj
  induction js generalizing c with
  | nil => trivial
  | cons j js ih => exact ⟨h.1,ih h.2⟩

/-- If an invariant `P` is kept by every operation, and under `P` an operation leads to a `Q`-state
exactly when it meets the condition, then a run stays in `Q` exactly when all its operations do. -/
theorem always_iff_guarded {c : Config σ ε} {is : List ι} (hP : M.Always P c is) (hQ : Q c)
    (hiff : ∀ d i, P d → Q d → (Q (M.exec d i) ↔ G d i)) :
    M.Always Q c is ↔ M.Guarded G c is := by
  induction is generalizing c with
  | nil => exact iff_of_true hQ trivial
  | cons i is ih =>
    constructor
    · rintro ⟨_,h⟩
      exact ⟨(hiff c i hP.1 hQ).mp h.head,(ih hP.2 h.head).mp h⟩
    · rintro ⟨hg,h⟩
      have hq := (hiff c i hP.1 hQ).mpr hg
      exact ⟨hQ,(ih hP.2 hq).mpr h⟩

variable (M) in
/-- Every operation of a run relates the configuration it is issued in to the one it leaves. -/
def Transitions (R : Config σ ε → ι → Config σ ε → Prop) (c : Config σ ε) : List ι → Prop
  | [] => True
  | i::is => R c i (M.exec c i) ∧ Transitions R (M.exec c i) is

/-- A relation that holds of every committed operation, and of an operation that changes nothing, holds of all
operations of a run whose operations meet a condition, as far as an invariant `P` provides for it. -/
theorem transitions_of_guarded {R : Config σ ε → ι → Config σ ε → Prop} {c : Config σ ε} {is : List ι}
    (hP : M.Always P c is) (hG : M.Guarded G c is)
    (hrefl : ∀ d i, P d → G d i → M.step d.state i = none → R d i d)
    (hstep : ∀ d i s es, P d → G d i → M.step d.state i = some (s,es) → R d i ⟨s,es++d.history⟩) :
    M.Transitions R c is := by
  induction is generalizing c with
  | nil => trivial
  | cons i is ih =>
    refine ⟨?_,ih hP.2 hG.2⟩
    cases h : M.step c.state i with
    | none => rw [exec_of_none h]; exact hrefl c i hP.1 hG.1 h
    | some r => rw [exec_of_some h]; exact hstep c i r.1 r.2 hP.1 hG.1 h

/-- The same rule for runs of any operations. -/
theorem transitions_of_step {R : Config σ ε → ι → Config σ ε → Prop} {c : Config σ ε} {is : List ι}
    (hP : M.Always P c is) (hrefl : ∀ d i, P d → M.step d.state i = none → R d i d)
    (hstep : ∀ d i s es, P d → M.step d.state i = some (s,es) → R d i ⟨s,es++d.history⟩) :
    M.Transitions R c is :=
  transitions_of_guarded (G := fun _ _ => True) hP (guarded_of_forall (fun _ _ _ => trivial))
    (fun d i hd _ h => hrefl d i hd h) (fun d i s es hd _ h => hstep d i s es hd h)

end TxSystem
end Tierflow
