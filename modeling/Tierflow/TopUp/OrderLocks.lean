import Tierflow.Foundation.Process
import Tierflow.Foundation.Transaction

/-! The locks of payment orders: a map from trade numbers to mutexes with a reference count. Goroutines
take the atomic steps of `LockOrder` and `UnlockOrder` in any order. -/
set_option linter.unusedSectionVars false

namespace Tierflow
open TxSystem

/-- A mutex with a reference count, so that only its last user deletes it from the map. -/
structure RefCountedMutex where
  locked : Bool
  refCount : ℤ
deriving Repr, DecidableEq

/-- How far a goroutine is in `LockOrder`; `createLock` is held up to `counted`. -/
inductive LockStage
  | create
  | absent
  | found (rcm : ℕ)
  | counted (rcm : ℕ)
  | waiting (rcm : ℕ)
deriving Repr, DecidableEq

/-- How far a goroutine is in `UnlockOrder`; `createLock` is held from `recreate` on. -/
inductive UnlockStage
  | loaded (rcm : ℕ)
  | released (rcm : ℕ)
  | recreate (rcm : ℕ)
  | discounted (rcm : ℕ)
  | checked
deriving Repr, DecidableEq

inductive OrderCall (T : Type*)
  | idle
  | locking (tradeNo : T) (stage : LockStage)
  | unlocking (tradeNo : T) (stage : UnlockStage)
deriving Repr, DecidableEq

section Calls
variable {T : Type*} [DecidableEq T]

/-- The entry that a goroutine inside a function has loaded for a trade number. -/
def OrderCall.pointer? (tradeNo : T) : OrderCall T → Option ℕ
  | .locking t (.found rcm) | .locking t (.counted rcm) | .locking t (.waiting rcm) =>
    if t = tradeNo then some rcm else none
  | .unlocking t (.loaded rcm) | .unlocking t (.released rcm) | .unlocking t (.recreate rcm)
  | .unlocking t (.discounted rcm) => if t = tradeNo then some rcm else none
  | _ => none

/-- The goroutine has been counted for a trade number whose lock it has not taken, or given back. -/
def OrderCall.counts (tradeNo : T) : OrderCall T → ℤ
  | .locking t (.counted _) | .locking t (.waiting _) => if t = tradeNo then 1 else 0
  | .unlocking t (.released _) | .unlocking t (.recreate _) => if t = tradeNo then 1 else 0
  | _ => 0

/-- The goroutine is between taking and releasing `createLock`. -/
def OrderCall.inCreate : OrderCall T → Bool
  | .locking _ (.waiting _) => false
  | .locking _ _ => true
  | .unlocking _ (.loaded _) | .unlocking _ (.released _) => false
  | .unlocking _ _ => true
  | .idle => false

end Calls

/-- The two globals `createLock` and `orderLocks`, the mutexes allocated so far, and the goroutines:
the call each is in, and the trade numbers whose lock it has taken and not yet given back. -/
structure OrderLocks (G T : Type*) where
  createLock : Bool
  orderLocks : T → Option ℕ
  mutexes : ℕ → RefCountedMutex
  next : ℕ
  call : G → OrderCall T
  held : G → T → Bool

namespace OrderLocks
variable {G T : Type*}

def initial : OrderLocks G T where
  createLock := false
  orderLocks _ := none
  mutexes _ := ⟨false,0⟩
  next := 0
  call _ := .idle
  held _ _ := false

variable [DecidableEq G] [DecidableEq T]

def goto (s : OrderLocks G T) (g : G) (c : OrderCall T) : OrderLocks G T :=
  { s with call := Function.update s.call g c }

def setMutex (s : OrderLocks G T) (rcm : ℕ) (m : RefCountedMutex) : OrderLocks G T :=
  { s with mutexes := Function.update s.mutexes rcm m }

def setEntry (s : OrderLocks G T) (tradeNo : T) (e : Option ℕ) : OrderLocks G T :=
  { s with orderLocks := Function.update s.orderLocks tradeNo e }

def setHeld (s : OrderLocks G T) (g : G) (tradeNo : T) (b : Bool) : OrderLocks G T :=
  { s with held := Function.update s.held g (Function.update (s.held g) tradeNo b) }

/-- The next atomic step inside `LockOrder`; `none` while the goroutine is blocked. -/
def lockStep (s : OrderLocks G T) (g : G) (tradeNo : T) : LockStage → Option (OrderLocks G T)
  | .create => match s.orderLocks tradeNo with
    | some rcm => some (s.goto g (.locking tradeNo (.found rcm)))
    | none => some (s.goto g (.locking tradeNo .absent))
  | .absent => some ((({ s with next := s.next+1 }.setMutex s.next ⟨false,0⟩).setEntry tradeNo
      (some s.next)).goto g (.locking tradeNo (.found s.next)))
  | .found rcm => some ((s.setMutex rcm ⟨(s.mutexes rcm).locked,(s.mutexes rcm).refCount+1⟩).goto g
      (.locking tradeNo (.counted rcm)))
  | .counted rcm => some ({ s with createLock := false }.goto g (.locking tradeNo (.waiting rcm)))
  | .waiting rcm => if (s.mutexes rcm).locked then none else
      some (((s.setMutex rcm ⟨true,(s.mutexes rcm).refCount⟩).setHeld g tradeNo true).goto g .idle)

/-- The next atomic step inside `UnlockOrder`; `none` while the goroutine is blocked, and for the fatal
error of unlocking a mutex that is not locked. -/
def unlockStep (s : OrderLocks G T) (g : G) (tradeNo : T) : UnlockStage → Option (OrderLocks G T)
  | .loaded rcm => if (s.mutexes rcm).locked then
      some (((s.setMutex rcm ⟨false,(s.mutexes rcm).refCount⟩).setHeld g tradeNo false).goto g
        (.unlocking tradeNo (.released rcm))) else none
  | .released rcm => if s.createLock then none else
      some ({ s with createLock := true }.goto g (.unlocking tradeNo (.recreate rcm)))
  | .recreate rcm => some ((s.setMutex rcm ⟨(s.mutexes rcm).locked,(s.mutexes rcm).refCount-1⟩).goto g
      (.unlocking tradeNo (.discounted rcm)))
  | .discounted rcm => if (s.mutexes rcm).refCount = 0 then
      some ((s.setEntry tradeNo none).goto g (.unlocking tradeNo .checked))
    else some (s.goto g (.unlocking tradeNo .checked))
  | .checked => some ({ s with createLock := false }.goto g .idle)

/-- `LockOrder` is called: its first step takes `createLock`. -/
def lockOrder (s : OrderLocks G T) (g : G) (tradeNo : T) : Option (OrderLocks G T) :=
  if s.call g = .idle ∧ s.createLock = false then
    some ({ s with createLock := true }.goto g (.locking tradeNo .create)) else none

/-- `UnlockOrder` is called by a goroutine that has the lock: its first step loads the entry, and
without an entry it returns at once. -/
def unlockOrder (s : OrderLocks G T) (g : G) (tradeNo : T) : Option (OrderLocks G T) :=
  if s.call g = .idle ∧ s.held g tradeNo = true then
    match s.orderLocks tradeNo with
    | some rcm => some (s.goto g (.unlocking tradeNo (.loaded rcm)))
    | none => some (s.setHeld g tradeNo false)
  else none

/-- What a goroutine does next: enter a function, or take a step inside the one it is in. -/
inductive Op (T : Type*)
  | lockOrder (tradeNo : T)
  | unlockOrder (tradeNo : T)
  | proceed
deriving Repr, DecidableEq

def step (s : OrderLocks G T) (g : G) : Op T → Option (OrderLocks G T)
  | .lockOrder tradeNo => s.lockOrder g tradeNo
  | .unlockOrder tradeNo => s.unlockOrder g tradeNo
  | .proceed => match s.call g with
    | .idle => none
    | .locking tradeNo stage => s.lockStep g tradeNo stage
    | .unlocking tradeNo stage => s.unlockStep g tradeNo stage

/-- The system of all goroutines; nothing is emitted. -/
def system (G T : Type*) [DecidableEq G] [DecidableEq T] : TxSystem (OrderLocks G T) (G × Op T) Empty where
  step s i := (s.step i.1 i.2).map (fun s' => (s',[]))

/-! ## Fields after each update -/

section Fields
variable (s : OrderLocks G T) (g x : G) (c : OrderCall T) (t u : T) (p q : ℕ) (m : RefCountedMutex)
  (e : Option ℕ) (b : Bool)

@[simp,grind =] lemma call_goto : (s.goto g c).call x = if x=g then c else s.call x := Function.update_apply ..
@[simp,grind =] lemma createLock_goto : (s.goto g c).createLock = s.createLock := rfl
@[simp,grind =] lemma orderLocks_goto : (s.goto g c).orderLocks u = s.orderLocks u := rfl
@[simp,grind =] lemma mutexes_goto : (s.goto g c).mutexes q = s.mutexes q := rfl
@[simp,grind =] lemma next_goto : (s.goto g c).next = s.next := rfl
@[simp,grind =] lemma held_goto : (s.goto g c).held x u = s.held x u := rfl
@[simp,grind =] lemma mutexes_setMutex : (s.setMutex p m).mutexes q = if q=p then m else s.mutexes q :=
  Function.update_apply ..
@[simp,grind =] lemma call_setMutex : (s.setMutex p m).call x = s.call x := rfl
@[simp,grind =] lemma createLock_setMutex : (s.setMutex p m).createLock = s.createLock := rfl
@[simp,grind =] lemma orderLocks_setMutex : (s.setMutex p m).orderLocks u = s.orderLocks u := rfl
@[simp,grind =] lemma next_setMutex : (s.setMutex p m).next = s.next := rfl
@[simp,grind =] lemma held_setMutex : (s.setMutex p m).held x u = s.held x u := rfl
@[simp,grind =] lemma orderLocks_setEntry : (s.setEntry t e).orderLocks u = if u=t then e else s.orderLocks u :=
  Function.update_apply ..
@[simp,grind =] lemma call_setEntry : (s.setEntry t e).call x = s.call x := rfl
@[simp,grind =] lemma createLock_setEntry : (s.setEntry t e).createLock = s.createLock := rfl
@[simp,grind =] lemma mutexes_setEntry : (s.setEntry t e).mutexes q = s.mutexes q := rfl
@[simp,grind =] lemma next_setEntry : (s.setEntry t e).next = s.next := rfl
@[simp,grind =] lemma held_setEntry : (s.setEntry t e).held x u = s.held x u := rfl
@[simp,grind =] lemma held_setHeld : (s.setHeld g t b).held x u = if x=g ∧ u=t then b else s.held x u := by
  by_cases hx : x=g
  · subst hx
    simp [setHeld,Function.update_apply]
  · simp [setHeld,hx]
@[simp,grind =] lemma call_setHeld : (s.setHeld g t b).call x = s.call x := rfl
@[simp,grind =] lemma createLock_setHeld : (s.setHeld g t b).createLock = s.createLock := rfl
@[simp,grind =] lemma orderLocks_setHeld : (s.setHeld g t b).orderLocks u = s.orderLocks u := rfl
@[simp,grind =] lemma mutexes_setHeld : (s.setHeld g t b).mutexes q = s.mutexes q := rfl
@[simp,grind =] lemma next_setHeld : (s.setHeld g t b).next = s.next := rfl

end Fields

/-! ## Steps -/

/-- What one atomic step of the goroutine `g` can do. -/
inductive Step (s : OrderLocks G T) (g : G) : OrderLocks G T → Prop
  | lock {t : T} (hc : s.call g = .idle) (free : s.createLock = false) :
    Step s g ({ s with createLock := true }.goto g (.locking t .create))
  | load {t : T} {p : ℕ} (hc : s.call g = .locking t .create) (he : s.orderLocks t = some p) :
    Step s g (s.goto g (.locking t (.found p)))
  | miss {t : T} (hc : s.call g = .locking t .create) (he : s.orderLocks t = none) :
    Step s g (s.goto g (.locking t .absent))
  | store {t : T} (hc : s.call g = .locking t .absent) :
    Step s g ((({ s with next := s.next+1 }.setMutex s.next ⟨false,0⟩).setEntry t (some s.next)).goto g
      (.locking t (.found s.next)))
  | count {t : T} {p : ℕ} (hc : s.call g = .locking t (.found p)) :
    Step s g ((s.setMutex p ⟨(s.mutexes p).locked,(s.mutexes p).refCount+1⟩).goto g (.locking t (.counted p)))
  | wait {t : T} {p : ℕ} (hc : s.call g = .locking t (.counted p)) :
    Step s g ({ s with createLock := false }.goto g (.locking t (.waiting p)))
  | acquire {t : T} {p : ℕ} (hc : s.call g = .locking t (.waiting p)) (free : (s.mutexes p).locked = false) :
    Step s g (((s.setMutex p ⟨true,(s.mutexes p).refCount⟩).setHeld g t true).goto g .idle)
  | unlock {t : T} {p : ℕ} (hc : s.call g = .idle) (hh : s.held g t = true) (he : s.orderLocks t = some p) :
    Step s g (s.goto g (.unlocking t (.loaded p)))
  | skip {t : T} (hc : s.call g = .idle) (hh : s.held g t = true) (he : s.orderLocks t = none) :
    Step s g (s.setHeld g t false)
  | release {t : T} {p : ℕ} (hc : s.call g = .unlocking t (.loaded p)) (taken : (s.mutexes p).locked = true) :
    Step s g (((s.setMutex p ⟨false,(s.mutexes p).refCount⟩).setHeld g t false).goto g
      (.unlocking t (.released p)))
  | relock {t : T} {p : ℕ} (hc : s.call g = .unlocking t (.released p)) (free : s.createLock = false) :
    Step s g ({ s with createLock := true }.goto g (.unlocking t (.recreate p)))
  | discount {t : T} {p : ℕ} (hc : s.call g = .unlocking t (.recreate p)) :
    Step s g ((s.setMutex p ⟨(s.mutexes p).locked,(s.mutexes p).refCount-1⟩).goto g
      (.unlocking t (.discounted p)))
  | delete {t : T} {p : ℕ} (hc : s.call g = .unlocking t (.discounted p)) (last : (s.mutexes p).refCount = 0) :
    Step s g ((s.setEntry t none).goto g (.unlocking t .checked))
  | keep {t : T} {p : ℕ} (hc : s.call g = .unlocking t (.discounted p)) (more : (s.mutexes p).refCount≠0) :
    Step s g (s.goto g (.unlocking t .checked))
  | done {t : T} (hc : s.call g = .unlocking t .checked) :
    Step s g ({ s with createLock := false }.goto g .idle)

section Steps
variable {s s' : OrderLocks G T} {g : G} {op : Op T}

lemma step_cases (h : s.step g op = some s') : Step s g s' := by
  cases op with
  | lockOrder t => grind [step,lockOrder,Step]
  | unlockOrder t => grind [step,unlockOrder,Step]
  | proceed =>
    unfold step at h
    cases hc : s.call g with
    | idle => simp [hc] at h
    | locking t stage => cases stage <;> grind [lockStep,Step]
    | unlocking t stage => cases stage <;> grind [unlockStep,Step]

lemma system_cases {i : G × Op T} {r : OrderLocks G T × List Empty} (h : (system G T).step s i = some r) :
    Step s i.1 r.1 := by
  obtain ⟨s1,hs,rfl⟩ := Option.map_eq_some_iff.mp h
  exact step_cases hs

end Steps

/-! ## The invariant -/

/-- How often a goroutine counts for a trade number: as the holder of its lock, and inside a call. -/
def uses (s : OrderLocks G T) (tradeNo : T) (g : G) : ℤ :=
  (if s.held g tradeNo then 1 else 0)+(s.call g).counts tradeNo

/-- What holds of every reachable state: who is inside `createLock`, that every entry in use is the one
in the map, that the map's entries are distinct mutexes, and that each reference count is the number
of its users. -/
structure Inv [Fintype G] (s : OrderLocks G T) : Prop where
  createLocked : ∀ g, (s.call g).inCreate = true → s.createLock = true
  createOnce : ∀ g h, (s.call g).inCreate = true → (s.call h).inCreate = true → g=h
  absent : ∀ g t, s.call g = .locking t .absent → s.orderLocks t = none
  entry : ∀ g t p, (s.call g).pointer? t = some p → s.orderLocks t = some p
  loaded : ∀ g t p, s.call g = .unlocking t (.loaded p) → s.held g t = true
  heldEntry : ∀ g t, s.held g t = true → ∃ p, s.orderLocks t = some p ∧ (s.mutexes p).locked = true
  heldOnce : ∀ g h t, s.held g t = true → s.held h t = true → g=h
  distinct : ∀ t t' p, s.orderLocks t = some p → s.orderLocks t' = some p → t=t'
  fresh : ∀ t p, s.orderLocks t = some p → p < s.next
  counted : ∀ t p, s.orderLocks t = some p → (s.mutexes p).refCount = ∑ g, s.uses t g
  used : ∀ t p, s.orderLocks t = some p → ∑ g, s.uses t g = 0 →
    ∃ g, s.call g = .locking t (.found p) ∨ s.call g = .unlocking t (.discounted p)

/-- The goroutine has found the entry of the trade number, and does not have the lock yet. -/
def waitsFor (s : OrderLocks G T) (t : T) (x : G) : Prop :=
  ∃ p, s.call x = .locking t (.found p) ∨ s.call x = .locking t (.counted p) ∨ s.call x = .locking t (.waiting p)

/-- The goroutine neither has the lock of the trade number nor is inside a call for it. -/
def doneWith (s : OrderLocks G T) (t : T) (x : G) : Prop :=
  s.held x t = false ∧ (∀ stage, s.call x≠.locking t stage) ∧ ∀ stage, s.call x≠.unlocking t stage

/-- No two goroutines have the lock of one trade number, and an entry is gone once all goroutines are
done with its trade number. -/
structure Exclusive (s : OrderLocks G T) : Prop where
  heldOnce : ∀ t x y, s.held x t = true → s.held y t = true → x=y
  gone : ∀ t, (∀ x, s.doneWith t x) → s.orderLocks t = none

/-- The entry of a trade number whose lock somebody has or waits for stays in the map. -/
def KeepsEntries (s s' : OrderLocks G T) : Prop :=
  ∀ t x, s.held x t = true ∨ s.waitsFor t x → s.orderLocks t≠none ∧ s'.orderLocks t = s.orderLocks t

attribute [local grind] OrderCall.inCreate OrderCall.pointer? OrderCall.counts

section Invariant
variable [Fintype G] {s s' : OrderLocks G T} {g : G}

lemma Step.createLocked (h : s.Inv) (hs : Step s g s') : ∀ x, (s'.call x).inCreate = true →
    s'.createLock = true := by
  intro x hx
  have := h.createLocked x
  have := h.createLocked g
  have := h.createOnce x g
  cases hs <;> grind

lemma Step.createOnce (h : s.Inv) (hs : Step s g s') :
    ∀ x y, (s'.call x).inCreate = true → (s'.call y).inCreate = true → x=y := by
  intro x y hx hy
  have := h.createLocked x
  have := h.createLocked y
  have := h.createOnce x g
  have := h.createOnce y g
  have := h.createOnce x y
  cases hs <;> grind

lemma Step.absent (h : s.Inv) (hs : Step s g s') :
    ∀ x t, s'.call x = .locking t .absent → s'.orderLocks t = none := by
  intro x t hx
  have := h.absent x t
  have := h.createOnce x g
  cases hs <;> grind

lemma Step.loaded (h : s.Inv) (hs : Step s g s') :
    ∀ x t p, s'.call x = .unlocking t (.loaded p) → s'.held x t = true := by
  intro x t p hx
  have := h.loaded x t p
  cases hs <;> grind

lemma counts_nonneg (t : T) (c : OrderCall T) : 0 ≤ c.counts t := by
  unfold OrderCall.counts
  grind

lemma uses_nonneg (s : OrderLocks G T) (t : T) (x : G) : 0 ≤ s.uses t x := by
  have := counts_nonneg t (s.call x)
  unfold uses
  grind

/-- An entry whose count has dropped to zero is used by nobody but the goroutine about to delete it. -/
lemma Inv.unused {t : T} {p : ℕ} (h : s.Inv) (hc : s.call g = .unlocking t (.discounted p))
    (last : (s.mutexes p).refCount = 0) (x : G) : s.held x t = false ∧ (x≠g → (s.call x).pointer? t = none) := by
  have he : s.orderLocks t = some p := h.entry g t p (by simp [hc,OrderCall.pointer?])
  have hsum : ∑ y, s.uses t y = 0 := by rw [←h.counted t p he,last]
  have hx : s.uses t x = 0 := (Finset.sum_eq_zero_iff_of_nonneg (fun y _ => s.uses_nonneg t y)).mp hsum x (by simp)
  have hcounts := counts_nonneg t (s.call x)
  have hheld : s.held x t = false := by
    unfold uses at hx
    grind
  have hzero : (s.call x).counts t = 0 := by simpa [uses,hheld] using hx
  refine ⟨hheld,?_⟩
  intro hne
  have hout : (s.call x).inCreate = false := by
    by_contra hin
    exact hne (h.createOnce x g (by simpa using hin) (by simp [hc,OrderCall.inCreate]))
  have hload := h.loaded x t
  cases hx : s.call x with
  | idle => rfl
  | locking u stage => cases stage <;> grind
  | unlocking u stage => cases stage <;> grind

lemma counts_of_entry {t : T} {c : OrderCall T} (h : c.pointer? t = none) : c.counts t = 0 := by
  cases c with
  | idle => rfl
  | locking u stage => cases stage <;> grind
  | unlocking u stage => cases stage <;> grind

lemma Inv.sum_of_none {t : T} (h : s.Inv) (he : s.orderLocks t = none) : ∑ x, s.uses t x = 0 := by
  refine Finset.sum_eq_zero ?_
  intro x _
  have hentry : (s.call x).pointer? t = none := by
    cases hx : (s.call x).pointer? t with
    | none => rfl
    | some p => exact absurd (h.entry x t p hx) (by simp [he])
  have hheld := h.heldEntry x t
  simp only [uses,counts_of_entry hentry]
  grind

lemma Step.entry (h : s.Inv) (hs : Step s g s') :
    ∀ x t p, (s'.call x).pointer? t = some p → s'.orderLocks t = some p := by
  intro x t p hx
  have := h.entry x t p
  have := h.absent g t
  have := h.createOnce x g
  cases hs with
  | delete hc last =>
    have := h.unused hc last x
    grind
  | _ => grind

lemma Step.heldEntry (h : s.Inv) (hs : Step s g s') :
    ∀ x t, s'.held x t = true → ∃ p, s'.orderLocks t = some p ∧ (s'.mutexes p).locked = true := by
  intro x t hx
  have := h.heldEntry x t
  have := h.heldOnce x g t
  have := h.entry g
  have := h.absent g t
  have := h.distinct t
  have := h.fresh
  have := h.loaded g
  cases hs with
  | @acquire u p hc free =>
    have := h.entry g u p (by simp [hc,OrderCall.pointer?])
    grind
  | @release u p hc taken =>
    have := h.entry g u p (by simp [hc,OrderCall.pointer?])
    have := h.loaded g u p hc
    grind
  | delete hc last =>
    have := h.unused hc last x
    grind
  | _ => grind

lemma Step.heldOnce (h : s.Inv) (hs : Step s g s') :
    ∀ x y t, s'.held x t = true → s'.held y t = true → x=y := by
  intro x y t hx hy
  have := h.heldEntry x t
  have := h.heldEntry y t
  have := h.heldOnce x y t
  have := h.entry g
  cases hs <;> grind

lemma Step.distinct (h : s.Inv) (hs : Step s g s') :
    ∀ t u p, s'.orderLocks t = some p → s'.orderLocks u = some p → t=u := by
  intro t u p ht hu
  have := h.distinct t u p
  have := h.fresh
  cases hs <;> grind

lemma Step.fresh (h : s.Inv) (hs : Step s g s') :
    ∀ t p, s'.orderLocks t = some p → p < s'.next := by
  intro t p ht
  have := h.fresh t p
  cases hs <;> grind

lemma Step.counted (h : s.Inv) (hs : Step s g s') :
    ∀ t p, s'.orderLocks t = some p → (s'.mutexes p).refCount = ∑ x, s'.uses t x := by
  intro t p ht
  -- only `g` changes how it counts, and by as much as it changes the reference count
  rw [sum_moved (f := s.uses t) (p := g)]
  · have := h.counted t p
    have := h.entry g
    have := h.absent g
    have := h.fresh
    have := h.distinct t
    have := h.loaded g
    have := h.heldEntry g
    cases hs with
    | store hc =>
      have := h.sum_of_none (h.absent g _ hc)
      grind [uses]
    | count hc =>
      have := h.entry g _ _ (by rw [hc]; exact if_pos rfl)
      grind [uses]
    | acquire hc free =>
      have := h.entry g _ _ (by rw [hc]; exact if_pos rfl)
      grind [uses]
    | discount hc =>
      have := h.entry g _ _ (by rw [hc]; exact if_pos rfl)
      grind [uses]
    | _ => grind [uses]
  · intro x hx
    cases hs <;> grind [uses]

lemma Step.used (h : s.Inv) (hs : Step s g s') :
    ∀ t p, s'.orderLocks t = some p → ∑ x, s'.uses t x = 0 →
    ∃ x, s'.call x = .locking t (.found p) ∨ s'.call x = .unlocking t (.discounted p) := by
  intro t p ht
  rw [sum_moved (f := s.uses t) (p := g)]
  · intro hsum
    -- a goroutine that justified the unused entry before is inside `createLock`, so it is `g` that moved
    by_contra hno
    push Not at hno
    have hg := hno g
    have hold : s.orderLocks t = some p → ∑ x, s.uses t x = 0 → ∃ x, (s.call x = .locking t (.found p) ∨
        s.call x = .unlocking t (.discounted p)) ∧ s'.call x≠.locking t (.found p) ∧
        s'.call x≠.unlocking t (.discounted p) := by
      intro he hz
      obtain ⟨x,hx⟩ := h.used t p he hz
      exact ⟨x,hx,hno x⟩
    have := h.createOnce g
    have := h.counted t p
    have := h.heldEntry g
    have := Finset.sum_nonneg (fun x (_ : x∈Finset.univ) => s.uses_nonneg t x)
    have := s.uses_nonneg t g
    cases hs with
    | acquire hc free =>
      have := h.entry g _ _ (by rw [hc]; exact if_pos rfl)
      grind [uses]
    | discount hc =>
      have := h.entry g _ _ (by rw [hc]; exact if_pos rfl)
      grind [uses]
    | _ => grind [uses]
  · intro x hx
    cases hs <;> grind [uses]

lemma Step.inv (h : s.Inv) (hs : Step s g s') : s'.Inv where
  createLocked := hs.createLocked h
  createOnce := hs.createOnce h
  absent := hs.absent h
  entry := hs.entry h
  loaded := hs.loaded h
  heldEntry := hs.heldEntry h
  heldOnce := hs.heldOnce h
  distinct := hs.distinct h
  fresh := hs.fresh h
  counted := hs.counted h
  used := hs.used h

lemma inv_initial : (initial : OrderLocks G T).Inv := by
  constructor <;> simp [initial,OrderCall.inCreate,OrderCall.pointer?]

lemma Inv.entry_in_use {t : T} {x : G} (h : s.Inv) (hx : s.held x t = true ∨ s.waitsFor t x) :
    s.orderLocks t≠none := by
  rcases hx with hx | ⟨p,hx⟩
  · obtain ⟨p,hp,-⟩ := h.heldEntry x t hx
    simp [hp]
  · have := h.entry x t p
    grind

lemma Step.keepsEntries (h : s.Inv) (hs : Step s g s') : KeepsEntries s s' := by
  intro t x hx
  have hentry := h.entry_in_use hx
  refine ⟨hentry,?_⟩
  have := h.absent g t
  cases hs with
  | delete hc last =>
    have := h.unused hc last x
    unfold waitsFor at hx
    grind
  | _ => grind

lemma Inv.exclusive (h : s.Inv) : s.Exclusive where
  heldOnce t x y := h.heldOnce x y t
  gone t hdone := by
    by_contra he
    obtain ⟨p,hp⟩ := Option.ne_none_iff_exists'.mp he
    have hsum : ∑ x, s.uses t x = 0 := by
      refine Finset.sum_eq_zero ?_
      intro x _
      have hx := hdone x
      have hcounts : (s.call x).counts t = 0 := by
        cases hc : s.call x with
        | idle => rfl
        | locking u stage => cases stage <;> grind [doneWith]
        | unlocking u stage => cases stage <;> grind [doneWith]
      simp [uses,hx.1,hcounts]
    obtain ⟨x,hx⟩ := h.used t p hp hsum
    have := hdone x
    grind [doneWith]

lemma always_inv (is : List (G × Op T)) : (system G T).Always (fun c => c.state.Inv) ⟨initial,[]⟩ is := by
  refine always_of_step inv_initial ?_ is
  intro d i s' es h hs
  exact (system_cases hs).inv h

/-- However the goroutines interleave, an order lock has at most one holder, and its entry is in the
map, unchanged, exactly while it is needed. -/
theorem lockOrder_unlockOrder (is : List (G × Op T)) :
    (system G T).Always (fun c => c.state.Exclusive) ⟨initial,[]⟩ is ∧
    (system G T).Transitions (fun c _ c' => KeepsEntries c.state c'.state) ⟨initial,[]⟩ is := by
  have hinv := always_inv (G := G) is
  refine ⟨hinv.mono (fun d hd => hd.exclusive),transitions_of_step hinv ?_ ?_⟩
  · intro d i hd _ t x hx
    exact ⟨hd.entry_in_use hx,rfl⟩
  · intro d i s' es hd hs
    exact (system_cases hs).keepsEntries hd

end Invariant
end OrderLocks
end Tierflow
