import Mathlib.Tactic

/-! Loops whose body goes on or stops at each pass. The number of a pass stands for what the outside
world does during it. -/
namespace Tierflow

/-- The outcome of one pass. -/
inductive Pass (σ : Type*)
  | next (s : σ)
  | done (s : σ)

/-- The state at the end of the pass. -/
def Pass.state {σ : Type*} : Pass σ → σ
  | .next s => s
  | .done s => s

def Pass.goesOn {σ : Type*} : Pass σ → Bool
  | .next _ => true
  | .done _ => false

lemma Pass.eq_next {σ : Type*} {p : Pass σ} (h : p.goesOn = true) : p = .next p.state := by
  cases p with
  | next s => rfl
  | done s => contradiction

lemma Pass.eq_done {σ : Type*} {p : Pass σ} (h : p.goesOn = false) : p = .done p.state := by
  cases p with
  | next s => contradiction
  | done s => rfl

/-- What a loop reaches when the outside world may be a different one at each pass. -/
inductive Reaches {ω σ : Type*} (body : ω → σ → Pass σ) (s : σ) : σ → Prop
  | refl : Reaches body s s
  | next {t u : σ} (w : ω) (h : Reaches body s t) (hpass : body w t = .next u) : Reaches body s u

/-- What every pass keeps holds at the head of every pass. -/
theorem Reaches.invariant {ω σ : Type*} {body : ω → σ → Pass σ} {I : σ → Prop}
    (hnext : ∀ w s s', I s → body w s = .next s' → I s') {s t : σ} (h : Reaches body s t) (hs : I s) : I t := by
  induction h with
  | refl => exact hs
  | next w h hpass ih => exact hnext w _ _ ih hpass

/-- What a loop reaches through passes that all meet a condition. -/
inductive ReachesWhile {ω σ : Type*} (meets : ω → σ → Prop) (body : ω → σ → Pass σ) (s : σ) : σ → Prop
  | refl : ReachesWhile meets body s s
  | next {t u : σ} (w : ω) (h : ReachesWhile meets body s t) (hw : meets w t) (hpass : body w t = .next u) :
      ReachesWhile meets body s u

/-- What every such pass keeps holds at the head of every pass. -/
theorem ReachesWhile.invariant {ω σ : Type*} {meets : ω → σ → Prop} {body : ω → σ → Pass σ} {I : σ → Prop}
    (hnext : ∀ w s s', I s → meets w s → body w s = .next s' → I s') {s t : σ} (h : ReachesWhile meets body s t)
    (hs : I s) : I t := by
  induction h with
  | refl => exact hs
  | next w h hw hpass ih => exact hnext w _ _ ih hw hpass

section Recording
variable {ω σ ε : Type*} (emit : ω → σ → List ε) (body : ω → σ → Pass σ)

/-- The loop together with what its passes emit, the newest first. -/
def recording (w : ω) (p : σ × List ε) : Pass (σ × List ε) :=
  match body w p.1 with
  | .next s => .next (s,emit w p.1++p.2)
  | .done s => .done (s,emit w p.1++p.2)

variable {emit body} {w : ω} {p : σ × List ε}

lemma recording_recorded : (recording emit body w p).state.2 = emit w p.1++p.2 := by
  unfold recording
  cases body w p.1 <;> rfl

lemma recording_eq_next {q : σ × List ε} (h : recording emit body w p = .next q) :
    body w p.1 = .next q.1 ∧ q.2 = emit w p.1++p.2 := by
  unfold recording at h
  cases hb : body w p.1 with
  | next s =>
    rw [hb] at h
    obtain rfl := Pass.next.inj h
    exact ⟨rfl,rfl⟩
  | done s =>
    rw [hb] at h
    contradiction

end Recording

/-- The state in which the loop stops, if it does within so many passes. -/
def runLoop {σ : Type*} (body : ℕ → σ → Pass σ) : ℕ → ℕ → σ → Option σ
  | 0,_,_ => none
  | n+1,k,s =>
    match body k s with
    | .done s' => some s'
    | .next s' => runLoop body n (k+1) s'

/-- Total correctness: an invariant is kept by every pass that goes on, and a measure decreases. -/
theorem runLoop_spec {σ : Type*} {body : ℕ → σ → Pass σ} {I J : σ → Prop} (μ : σ → ℕ)
    (hnext : ∀ k s s', I s → body k s = .next s' → I s' ∧ μ s'<μ s)
    (hdone : ∀ k s s', I s → body k s = .done s' → J s') (n k : ℕ) {s : σ} (hs : I s) (hn : μ s<n) :
    ∃ s', runLoop body n k s = some s' ∧ J s' := by
  induction n generalizing k s with
  | zero => omega
  | succ n ih =>
    rw [runLoop]
    cases hb : body k s with
    | done s' => exact ⟨s',rfl,hdone k s s' hs hb⟩
    | next s' =>
      obtain ⟨hs',hlt⟩ := hnext k s s' hs hb
      exact ih (k+1) hs' (by omega)

end Tierflow
