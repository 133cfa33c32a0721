import Tierflow.Foundation.Transaction

/-! Requests and tasks. A request acts on the shared state at once and leaves tasks behind; a task is a
sequence of atomic statements, and any pending task may take its next statement at any moment. -/
namespace Tierflow

/-- `start` is what a request does at once, `advance` the next statement of a task; both give the tasks that
are still to be run and the events they emit. -/
structure TaskSystem (σ τ ι ε : Type*) where
  start : σ → ι → σ × List τ × List ε
  advance : σ → τ → σ × List τ × List ε

namespace TaskSystem
variable {σ τ ι ε : Type*}

inductive Op (ι : Type*)
  | start (i : ι)
  | proceed (k : ℕ)
  deriving DecidableEq, Repr

/-- The shared state and the tasks that are pending. -/
structure Pool (σ τ : Type*) where
  shared : σ
  tasks : List τ

variable (T : TaskSystem σ τ ι ε)

/-- Every order of statements of any number of tasks is a run of this system. -/
def toTx : TxSystem (Pool σ τ) (Op ι) ε where
  step s
    | .start i => some (⟨(T.start s.shared i).1,s.tasks++(T.start s.shared i).2.1⟩,(T.start s.shared i).2.2)
    | .proceed k => (s.tasks[k]?).map fun t =>
      (⟨(T.advance s.shared t).1,s.tasks.eraseIdx k++(T.advance s.shared t).2.1⟩,(T.advance s.shared t).2.2)

/-- The state and the history together. -/
abbrev Config (σ τ ε : Type*) := TxSystem.Config (Pool σ τ) ε

/-- A shared state with no task pending and nothing emitted. -/
def initial (s : σ) : Config σ τ ε := ⟨⟨s,[]⟩,[]⟩

/-- A condition on requests, and one on a task that is about to take a statement beside the others. -/
def Each (A : Pool σ τ → ι → Prop) (B : σ → List τ → τ → Prop) (c : Config σ τ ε) : Op ι → Prop
  | .start i => A c.state i
  | .proceed k => ∀ t∈c.state.tasks[k]?, B c.state.shared (c.state.tasks.eraseIdx k) t

instance {A : Pool σ τ → ι → Prop} {B : σ → List τ → τ → Prop} [hA : ∀ s i, Decidable (A s i)]
    [hB : ∀ s ts t, Decidable (B s ts t)] (c : Config σ τ ε) : ∀ o, Decidable (Each A B c o)
  | .start i => hA c.state i
  | .proceed k => by
    unfold Each
    infer_instance

lemma getElem?_length_append (l : List τ) (t : τ) (r : List τ) : (l++t::r)[l.length]? = some t := by simp

lemma eraseIdx_length_append (l : List τ) (t : τ) (r : List τ) : (l++t::r).eraseIdx l.length = l++r := by
  induction l with
  | nil => rfl
  | cons a l ih => exact congrArg (a::·) ih

/-- The pending tasks split around the one that is picked. -/
lemma exists_split {ts : List τ} {k : ℕ} {t : τ} (h : ts[k]? = some t) :
    ∃ l r, ts = l++t::r ∧ k = l.length := by
  induction ts generalizing k with
  | nil => simp at h
  | cons a ts ih =>
    cases k with
    | zero => exact ⟨[],ts,by simpa using h,rfl⟩
    | succ k =>
      obtain ⟨l,r,rfl,rfl⟩ := ih (by simpa using h)
      exact ⟨a::l,r,rfl,rfl⟩

variable {T}

lemma exec_start (s : σ) (ts : List τ) (h : List ε) (i : ι) :
    T.toTx.exec ⟨⟨s,ts⟩,h⟩ (.start i) =
      ⟨⟨(T.start s i).1,ts++(T.start s i).2.1⟩,(T.start s i).2.2++h⟩ := rfl

lemma exec_proceed (s : σ) (l : List τ) (t : τ) (r : List τ) (h : List ε) :
    T.toTx.exec ⟨⟨s,l++t::r⟩,h⟩ (.proceed l.length) =
      ⟨⟨(T.advance s t).1,l++r++(T.advance s t).2.1⟩,(T.advance s t).2.2++h⟩ := by
  apply TxSystem.exec_of_some
  show ((l++t::r)[l.length]?).map _ = _
  rw [getElem?_length_append,Option.map_some,eraseIdx_length_append]

lemma exec_proceed_none {s : σ} {ts : List τ} {h : List ε} {k : ℕ} (hk : ts[k]? = none) :
    T.toTx.exec ⟨⟨s,ts⟩,h⟩ (.proceed k) = ⟨⟨s,ts⟩,h⟩ := by
  apply TxSystem.exec_of_none
  show (ts[k]?).map _ = none
  rw [hk,Option.map_none]

variable {A : Pool σ τ → ι → Prop} {B : σ → List τ → τ → Prop} {P : Config σ τ ε → Prop}

lemma each_proceed {s : σ} {l : List τ} {t : τ} {r : List τ} {h : List ε} :
    Each A B ⟨⟨s,l++t::r⟩,h⟩ (.proceed l.length) ↔ B s (l++r) t := by
  show (∀ t'∈(l++t::r)[l.length]?, B s ((l++t::r).eraseIdx l.length) t') ↔ B s (l++r) t
  rw [getElem?_length_append,eraseIdx_length_append]
  simp

lemma each_proceed_none {s : σ} {ts : List τ} {h : List ε} {k : ℕ} (hk : ts[k]? = none) :
    Each A B (⟨⟨s,ts⟩,h⟩ : Config σ τ ε) (.proceed k) := by
  show ∀ t'∈ts[k]?, _
  rw [hk]
  simp

/-- A property that requests and statements keep, where they meet their conditions, holds throughout every
run in which they do. -/
theorem always_of_each {c : Config σ τ ε} {ops : List (Op ι)} (h0 : P c)
    (hstart : ∀ s ts h i, P ⟨⟨s,ts⟩,h⟩ → A ⟨s,ts⟩ i →
      P ⟨⟨(T.start s i).1,ts++(T.start s i).2.1⟩,(T.start s i).2.2++h⟩)
    (hproceed : ∀ s l t r h, P ⟨⟨s,l++t::r⟩,h⟩ → B s (l++r) t →
      P ⟨⟨(T.advance s t).1,l++r++(T.advance s t).2.1⟩,(T.advance s t).2.2++h⟩)
    (hG : T.toTx.Guarded (Each A B) c ops) : T.toTx.Always P c ops := by
  refine TxSystem.always_of_guarded h0 ?_ hG
  rintro ⟨⟨s,ts⟩,h⟩ i s' es hP hg hs
  cases i with
  | start i =>
    cases hs
    exact hstart s ts h i hP hg
  | proceed k =>
    cases hk : ts[k]? with
    | none => simp [toTx,hk] at hs
    | some t =>
      obtain ⟨l,r,rfl,rfl⟩ := exists_split hk
      have he := exec_proceed (T := T) s l t r h
      rw [TxSystem.exec_of_some hs] at he
      rw [he]
      exact hproceed s l t r h hP (each_proceed.mp hg)

/-- If a request or a statement keeps a property exactly when it meets its condition, then the property holds
throughout exactly the runs in which they all do. -/
theorem always_iff_each {c : Config σ τ ε} {ops : List (Op ι)} (h0 : P c)
    (hstart : ∀ s ts h i, P ⟨⟨s,ts⟩,h⟩ →
      (P ⟨⟨(T.start s i).1,ts++(T.start s i).2.1⟩,(T.start s i).2.2++h⟩ ↔ A ⟨s,ts⟩ i))
    (hproceed : ∀ s l t r h, P ⟨⟨s,l++t::r⟩,h⟩ →
      (P ⟨⟨(T.advance s t).1,l++r++(T.advance s t).2.1⟩,(T.advance s t).2.2++h⟩ ↔ B s (l++r) t)) :
    T.toTx.Always P c ops ↔ T.toTx.Guarded (Each A B) c ops := by
  have hP : T.toTx.Always (fun _ => True) c ops := TxSystem.always_of_forall (fun _ => trivial) c ops
  refine TxSystem.always_iff_guarded hP h0 ?_
  rintro ⟨⟨s,ts⟩,h⟩ i - hQ
  cases i with
  | start i => exact hstart s ts h i hQ
  | proceed k =>
    cases hk : ts[k]? with
    | none =>
      rw [exec_proceed_none hk]
      exact iff_of_true hQ (each_proceed_none hk)
    | some t =>
      obtain ⟨l,r,rfl,rfl⟩ := exists_split hk
      rw [exec_proceed,each_proceed]
      exact hproceed s l t r h hQ

end TaskSystem
end Tierflow
