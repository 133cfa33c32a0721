import Tierflow.TopUp.Callback

/-! How often a top-up is credited. A callback that has saved the order still owes the credit; paid
and owed credits together are one once the order was successful, exactly as long as a callback only
saves an order that is still pending, and is not cut off between its two writes. -/
namespace Tierflow
open TxSystem

def TopUpEvent.credit? : TopUpEvent → Option (ℕ × ℤ)
  | .credited userId quota => some (userId,quota)
  | _ => none

/-- The credits of a run: who received how much. -/
def credits (es : List TopUpEvent) : List (ℕ × ℤ) := es.filterMap TopUpEvent.credit?

def TopUpEvent.walletChange (u : ℕ) : TopUpEvent → ℤ
  | .succeeded => 0
  | .credited userId quota => if userId=u then quota else 0
  | .clawedBack userId quota => if userId=u then -quota else 0
  | .spent userId quota => if userId=u then -quota else 0

def walletChange (u : ℕ) (es : List TopUpEvent) : ℤ := (es.map (TopUpEvent.walletChange u)).sum

/-- The number of callbacks between their two writes. -/
def TopUpState.owedCredits (c : TopUpState) : ℕ :=
  c.callbacks.sum (fun _ cb => if cb.phase.awaitsCredit then 1 else 0)

/-- User `u` has been credited `n` once if the order has been successful, and not at all otherwise;
a callback between its two writes counts with the credit it is about to give. -/
structure CreditedOnce (u : ℕ) (n : ℤ) (c : Config TopUpState TopUpEvent) : Prop where
  amounts : ∀ x∈credits c.history, x=(u,n)
  once : (credits c.history).length+c.state.owedCredits=if .succeeded∈c.history then 1 else 0

/-- The copy of the order that a callback holds agrees with the order in what the credit depends on. -/
def CallbackPhase.Holds (tradeNo : String) (k u : ℕ) (amount : ℤ) : CallbackPhase → Prop
  | .loaded id t => id=k ∧ t.tradeNo=tradeNo ∧ t.userId=u ∧ t.amount=amount
  | .saved t => t.userId=u ∧ t.amount=amount
  | _ => True

/-- The stored order, which is pending exactly until it first becomes successful. -/
def OrderRow (tradeNo : String) (k u : ℕ) (amount : ℤ) (s : Store) (hist : List TopUpEvent) : Prop :=
  ∃ topUp, getTopUpByTradeNo s tradeNo = some (k,topUp) ∧ topUp.userId=u ∧ topUp.amount=amount ∧
    (topUp.status = .pending ↔ .succeeded∉hist)

structure Tracked (tradeNo : String) (k u : ℕ) (amount : ℤ) (c : Config TopUpState TopUpEvent) : Prop where
  row : OrderRow tradeNo k u amount c.state.store c.history
  copies : ∀ i cb, c.state.callbacks.find? i = some cb → cb.phase.Holds tradeNo k u amount

/-- A save finds the order still pending, a credit does not fail, and no server crashes while a
callback on it is between its two writes. -/
def CallbackUndisturbed (S : Settings) (c : Config TopUpState TopUpEvent) : TopUpOp → Prop
  | .saveOrder i _ ok => ok = true → ∀ cb id t row, c.state.callbacks.find? i = some cb →
      cb.phase = .loaded id t → c.state.store.topUps.find? id = some row → row.status = .pending
  | .creditUser i ok => ∀ cb t, c.state.callbacks.find? i = some cb → cb.phase = .saved t →
      ok = true ∧ 0≤topUpQuota S t.amount
  | .crash server => ∀ i cb, c.state.callbacks.find? i = some cb → cb.server=server → cb.phase.awaitsCredit = false
  | _ => True

@[simp] lemma awaitsCredit_ended : CallbackPhase.ended.awaitsCredit = false := rfl

@[simp] lemma credits_nil : credits [] = [] := rfl

@[simp] lemma credits_append (es hist : List TopUpEvent) : credits (es++hist) = credits es++credits hist :=
  List.filterMap_append

@[simp] lemma walletChange_append (u : ℕ) (es hist : List TopUpEvent) :
    walletChange u (es++hist) = walletChange u es+walletChange u hist := by simp [walletChange]

section Rows
variable {s : Store} {tradeNo : String} {id : ℕ} {topUp paid : TopUp}

lemma getTopUp_spec (h : getTopUpByTradeNo s tradeNo = some (id,topUp)) :
    s.topUps.find? id = some topUp ∧ topUp.tradeNo=tradeNo := by
  obtain ⟨hf,ht⟩ := Table.first?_some h
  exact ⟨hf,by simpa using ht⟩

/-- Overwriting the order keeps it the order of its trade number. -/
lemma getTopUp_set {users : Table User} (h : getTopUpByTradeNo s tradeNo = some (id,topUp))
    (hp : paid.tradeNo=tradeNo) :
    getTopUpByTradeNo { s with topUps := s.topUps.set id paid, users := users } tradeNo = some (id,paid) := by
  obtain ⟨hf,ht⟩ := getTopUp_spec h
  unfold getTopUpByTradeNo at h ⊢
  rw [Table.first?_set hf (by simp [hp,ht]),h]
  simp

end Rows

section Callbacks
variable {c : TopUpState} {i : ℕ} {cb : Callback}

/-- A step of one callback changes its own share of the owed credits. -/
lemma owedCredits_set (store : Store) (phase : CallbackPhase) (h : c.callbacks.find? i = some cb) :
    (TopUpState.mk store (c.callbacks.set i { cb with phase := phase })).owedCredits+
        (if cb.phase.awaitsCredit then 1 else 0)=
      c.owedCredits+(if phase.awaitsCredit then 1 else 0) :=
  Table.sum_set { cb with phase := phase } (fun _ cb => if cb.phase.awaitsCredit then 1 else 0) h

/-- A crash takes credits away exactly when it hits a callback between its two writes. -/
lemma owedCredits_crash_iff (c : TopUpState) (server : ℕ) :
    (TopUpState.mk c.store (c.callbacks.updateWhere (fun r => r.2.server=server)
        (fun cb => { cb with phase := .ended }))).owedCredits=c.owedCredits ↔
      ∀ i cb, c.callbacks.find? i = some cb → cb.server=server → cb.phase.awaitsCredit = false := by
  unfold TopUpState.owedCredits Table.updateWhere
  rw [Table.sum_mapRows]
  constructor
  · intro he i cb hi hs
    rw [←Bool.not_eq_true]
    intro ha
    apply he.not_lt
    apply Table.sum_lt_sum _ hi
    · simp [hs,ha]
    · intro j cb' _
      by_cases hs' : cb'.server=server <;> simp [hs']
  · intro hn
    apply Table.sum_congr
    intro i cb hi
    by_cases hs : cb.server=server
    · simp [hs,hn i cb hi hs]
    · simp [hs]

lemma callbacks_set (phase : CallbackPhase) (h : c.callbacks.find? i = some cb) {j : ℕ} {cb' : Callback}
    (hj : (c.callbacks.set i { cb with phase := phase }).find? j = some cb') :
    cb'.phase = phase ∨ c.callbacks.find? j = some cb' := by
  rw [Table.find?_set,h] at hj
  split_ifs at hj
  · obtain rfl := Option.some.inj hj
    exact .inl rfl
  · exact .inr hj

end Callbacks

section Step
variable {S : Settings} {tradeNo : String} {k u : ℕ} {amount : ℤ} {c : Config TopUpState TopUpEvent}

lemma OrderRow.keep {s s' : Store} {hist es : List TopUpEvent} (h : OrderRow tradeNo k u amount s hist)
    (hs : s'.topUps = s.topUps) (he : .succeeded∉es) : OrderRow tradeNo k u amount s' (es++hist) := by
  obtain ⟨topUp,hg,hu,ha,hst⟩ := h
  refine ⟨topUp,?_,hu,ha,?_⟩
  · unfold getTopUpByTradeNo at hg ⊢
    rwa [hs]
  · simpa [he] using hst

/-- The order is overwritten with one that is no longer pending. -/
lemma orderRow_write {s : Store} (users : Table User) {topUp paid : TopUp} {hist es : List TopUpEvent}
    (h : getTopUpByTradeNo s tradeNo = some (k,topUp)) (ht : paid.tradeNo=tradeNo) (hu : paid.userId=u)
    (ha : paid.amount=amount) (hst : paid.status≠.pending) (hs : .succeeded∈es++hist) :
    OrderRow tradeNo k u amount { s with topUps := s.topUps.set k paid, users := users } (es++hist) :=
  ⟨paid,getTopUp_set h ht,hu,ha,iff_of_false hst (not_not.mpr hs)⟩

lemma Tracked.set {i : ℕ} {cb : Callback} {phase : CallbackPhase} {store : Store} {es : List TopUpEvent}
    (hc : Tracked tradeNo k u amount c) (hi : c.state.callbacks.find? i = some cb)
    (hrow : OrderRow tradeNo k u amount store (es++c.history)) (hphase : phase.Holds tradeNo k u amount) :
    Tracked tradeNo k u amount ⟨⟨store,c.state.callbacks.set i { cb with phase := phase }⟩,es++c.history⟩ where
  row := hrow
  copies j cb' hj := by
    rcases callbacks_set phase hi hj with hp | hj
    · rwa [hp]
    · exact hc.copies j cb' hj

/-- Every step keeps the copies in agreement with the order. -/
theorem tracked_step {op : TopUpOp} {s' : TopUpState} {es : List TopUpEvent} (hc : Tracked tradeNo k u amount c)
    (h : (topUpSystem S tradeNo).step c.state op = some (s',es)) :
    Tracked tradeNo k u amount ⟨s',es++c.history⟩ := by
  obtain ⟨topUp,hg,hu,ha,hst⟩ := hc.row
  cases op with
  | notify server type =>
    obtain ⟨rfl,rfl⟩ := Prod.mk.inj (Option.some.inj h)
    refine ⟨hc.row.keep rfl (by simp),?_⟩
    intro i cb hi
    rw [Table.find?_insert] at hi
    split_ifs at hi
    · obtain rfl := Option.some.inj hi
      trivial
    · exact hc.copies i cb hi
  | lockOrder i =>
    obtain ⟨cb,phase,store,hi,hf,rfl⟩ := advance_cases h
    obtain ⟨-,ho,-⟩ := lockOrderStep_cases hf
    cases ho
    apply hc.set hi
    · exact hc.row.keep rfl (by simp)
    · trivial
  | readOrder i ok =>
    obtain ⟨cb,phase,store,hi,hf,rfl⟩ := advance_cases h
    obtain ⟨-,ho,hphase⟩ := readOrderStep_cases hf
    cases ho
    apply hc.set hi
    · exact hc.row.keep rfl (by simp)
    · rcases hphase with rfl | ⟨id,t,rfl,ht,-⟩
      · trivial
      · obtain ⟨rfl,rfl⟩ := Prod.mk.inj (Option.some.inj (hg.symm.trans ht))
        exact ⟨rfl,(getTopUp_spec hg).2,hu,ha⟩
  | saveOrder i now ok =>
    obtain ⟨cb,phase,store,hi,hf,rfl⟩ := advance_cases h
    obtain ⟨id,t,hp,⟨-,ho⟩ | ⟨-,ho⟩⟩ := saveOrderStep_cases hf
    · cases ho
      apply hc.set hi
      · exact hc.row.keep rfl (by simp)
      · trivial
    · cases ho
      have hh := hc.copies i cb hi
      rw [hp] at hh
      obtain ⟨rfl,htn,htu,hta⟩ := hh
      apply hc.set hi
      · exact orderRow_write c.state.store.users hg htn htu hta (by simp [paidTopUp]) (by simp)
      · exact ⟨htu,hta⟩
  | creditUser i ok =>
    obtain ⟨cb,phase,store,hi,hf,rfl⟩ := advance_cases h
    obtain ⟨t,-,⟨-,ho⟩ | ⟨-,-,s,hs,ho⟩⟩ := creditUserStep_cases hf
    · cases ho
      apply hc.set hi
      · exact hc.row.keep rfl (by simp)
      · trivial
    · cases ho
      apply hc.set hi
      · rw [increaseUserQuota_ok hs]
        exact hc.row.keep rfl (by simp)
      · trivial
  | crash server =>
    obtain ⟨rfl,rfl⟩ := Prod.mk.inj (Option.some.inj h)
    refine ⟨hc.row.keep rfl (by simp),?_⟩
    intro i cb hi
    simp only [Table.find?_updateWhere] at hi
    obtain ⟨cb0,h0,rfl⟩ := Option.map_eq_some_iff.mp hi
    split_ifs
    · trivial
    · exact hc.copies i cb0 h0
  | manualComplete now =>
    obtain ⟨o,ho,heq⟩ := Option.map_eq_some_iff.mp h
    obtain ⟨id,t,ht,⟨-,rfl⟩ | ⟨-,rfl⟩⟩ := manualComplete_cases (toOption_eq_some.mp ho)
    · obtain ⟨rfl,rfl⟩ := Prod.mk.inj heq
      exact ⟨hc.row.keep rfl (by simp),hc.copies⟩
    · obtain ⟨rfl,rfl⟩ := Prod.mk.inj heq
      obtain ⟨rfl,rfl⟩ := Prod.mk.inj (Option.some.inj (hg.symm.trans ht))
      exact ⟨orderRow_write _ hg (getTopUp_spec hg).2 hu ha (by simp) (by simp),hc.copies⟩
  | adminRefund now =>
    obtain ⟨o,ho,heq⟩ := Option.map_eq_some_iff.mp h
    obtain ⟨id,t,ht,⟨-,rfl⟩ | ⟨hs,users,es',rfl,-⟩⟩ := adminRefund_cases (toOption_eq_some.mp ho)
    · obtain ⟨rfl,rfl⟩ := Prod.mk.inj heq
      exact ⟨hc.row.keep rfl (by simp),hc.copies⟩
    · obtain ⟨rfl,rfl⟩ := Prod.mk.inj heq
      obtain ⟨rfl,rfl⟩ := Prod.mk.inj (Option.some.inj (hg.symm.trans ht))
      have hsucc : .succeeded∈c.history := by
        by_contra hn
        have hpend := hst.mpr hn
        rw [hs] at hpend
        contradiction
      exact ⟨orderRow_write _ hg (getTopUp_spec hg).2 hu ha (by simp) (by simp [hsucc]),hc.copies⟩
  | spend userId quota =>
    obtain ⟨s,hs,heq⟩ := Option.map_eq_some_iff.mp h
    obtain ⟨rfl,rfl⟩ := Prod.mk.inj heq
    rw [decreaseUserQuota_ok (toOption_eq_some.mp hs)]
    exact ⟨hc.row.keep rfl (by simp),hc.copies⟩

lemma advance_none {s : TopUpState} {i : ℕ} {f : Callback → Option (CallbackPhase × Store × List TopUpEvent)}
    (h : s.advance i f = none) {cb : Callback} (hi : s.callbacks.find? i = some cb) : f cb = none := by
  cases hf : f cb with
  | none => rfl
  | some o => simp [TopUpState.advance,hi,hf] at h

/-- A step that is refused would have been undisturbed. -/
lemma undisturbed_of_none {op : TopUpOp} (h : (topUpSystem S tradeNo).step c.state op = none) :
    CallbackUndisturbed S c op := by
  cases op with
  | saveOrder i now ok =>
    intro _ cb id t row hi hp _
    have hn := advance_none h hi
    cases ok <;> simp [saveOrderStep,hp] at hn
  | creditUser i ok =>
    intro cb t hi hp
    have hn := advance_none h hi
    simp only [creditUserStep,hp] at hn
    split at hn <;> contradiction
  | crash server => contradiction
  | _ => trivial

section Count
variable {n : ℤ} {s' : TopUpState} {es : List TopUpEvent}

/-- Steps that neither complete the order nor credit it. -/
lemma CreditedOnce.keep (hq : CreditedOnce u n c) (hcr : credits es=[]) (hs : .succeeded∉es)
    (ho : s'.owedCredits=c.state.owedCredits) : CreditedOnce u n ⟨s',es++c.history⟩ := by
  constructor
  · simpa [hcr] using hq.amounts
  · simpa [hcr,hs,ho] using hq.once

/-- A save adds an owed credit, so it has to be the first. -/
lemma creditedOnce_save_iff (hq : CreditedOnce u n c) (ho : s'.owedCredits=c.state.owedCredits+1) :
    CreditedOnce u n ⟨s',.succeeded::c.history⟩ ↔ .succeeded∉c.history := by
  have honce := hq.once
  constructor
  · intro h hin
    have honce' := h.once
    rw [if_pos hin] at honce
    rw [if_pos (by simp),ho] at honce'
    have hc : credits (.succeeded::c.history) = credits c.history := rfl
    rw [hc] at honce'
    omega
  · intro hnot
    rw [if_neg hnot] at honce
    refine ⟨hq.amounts,?_⟩
    rw [if_pos (by simp),ho]
    have hc : credits (.succeeded::c.history) = credits c.history := rfl
    rw [hc]
    omega

/-- A credit pays what was owed. -/
lemma CreditedOnce.pay (hq : CreditedOnce u n c) (ho : s'.owedCredits+1=c.state.owedCredits) :
    CreditedOnce u n ⟨s',.credited u n::c.history⟩ := by
  have hc : credits (.credited u n::c.history) = (u,n)::credits c.history := rfl
  constructor
  · simpa [hc] using hq.amounts
  · have honce := hq.once
    simp only [hc,List.length_cons,List.mem_cons,reduceCtorEq,false_or]
    omega

/-- Completing and crediting in one transaction. -/
lemma CreditedOnce.complete (hq : CreditedOnce u n c) (hs : .succeeded∉c.history)
    (ho : s'.owedCredits=c.state.owedCredits) : CreditedOnce u n ⟨s',.credited u n::.succeeded::c.history⟩ := by
  have hc : credits (.credited u n::.succeeded::c.history) = (u,n)::credits c.history := rfl
  constructor
  · simpa [hc] using hq.amounts
  · have honce := hq.once
    rw [if_neg hs] at honce
    rw [hc,if_pos (by simp),List.length_cons,ho]
    omega

/-- An owed credit that is given up is never made good. -/
lemma not_creditedOnce_of_lost (hq : CreditedOnce u n c) (ho : s'.owedCredits < c.state.owedCredits) :
    ¬ CreditedOnce u n ⟨s',c.history⟩ := by
  intro h
  have honce := hq.once
  have honce' := h.once
  dsimp only at honce'
  omega

end Count

/-- A step keeps the credits at one exactly when it is undisturbed. -/
theorem creditedOnce_exec_iff {op : TopUpOp} (hc : Tracked tradeNo k u amount c)
    (hq : CreditedOnce u (topUpQuota S amount) c) :
    CreditedOnce u (topUpQuota S amount) ((topUpSystem S tradeNo).exec c op) ↔ CallbackUndisturbed S c op := by
  obtain ⟨topUp,hg,hu,ha,hst⟩ := hc.row
  cases h : (topUpSystem S tradeNo).step c.state op with
  | none =>
    rw [exec_of_none h]
    exact iff_of_true hq (undisturbed_of_none h)
  | some r =>
  obtain ⟨s',es⟩ := r
  rw [exec_of_some h]
  cases op with
  | notify server type =>
    obtain ⟨rfl,rfl⟩ := Prod.mk.inj (Option.some.inj h)
    refine iff_of_true (hq.keep rfl (by simp) ?_) trivial
    exact (Table.sum_insert _ _ _).trans (add_zero _)
  | lockOrder i =>
    obtain ⟨cb,phase,store,hi,hf,rfl⟩ := advance_cases h
    obtain ⟨hp,ho,-⟩ := lockOrderStep_cases hf
    cases ho
    refine iff_of_true (hq.keep rfl (by simp) ?_) trivial
    have hset := owedCredits_set c.state.store .locked hi
    rw [hp] at hset
    exact hset
  | readOrder i ok =>
    obtain ⟨cb,phase,store,hi,hf,rfl⟩ := advance_cases h
    obtain ⟨hp,ho,hphase⟩ := readOrderStep_cases hf
    cases ho
    refine iff_of_true (hq.keep rfl (by simp) ?_) trivial
    have hset := owedCredits_set c.state.store phase hi
    rw [hp] at hset
    rcases hphase with rfl | ⟨id,t,rfl,-⟩
    · exact hset
    · exact hset
  | saveOrder i now ok =>
    obtain ⟨cb,phase,store,hi,hf,rfl⟩ := advance_cases h
    obtain ⟨id,t,hp,⟨hok,ho⟩ | ⟨hok,ho⟩⟩ := saveOrderStep_cases hf
    · cases ho
      refine iff_of_true (hq.keep rfl (by simp) ?_) ?_
      · have hset := owedCredits_set c.state.store .ended hi
        rw [hp] at hset
        exact hset
      · intro htrue
        rw [hok] at htrue
        contradiction
    · cases ho
      have hh := hc.copies i cb hi
      rw [hp] at hh
      obtain ⟨rfl,-,-,-⟩ := hh
      have hset := owedCredits_set { c.state.store with
        topUps := c.state.store.topUps.set id (paidTopUp cb.type now t) } (.saved (paidTopUp cb.type now t)) hi
      rw [hp] at hset
      refine (creditedOnce_save_iff hq hset).trans (hst.symm.trans ?_)
      -- the only row that the copy can be written back to is the order itself
      constructor
      · intro hpend _ cb' id' t' row hi' hp' hrow
        obtain rfl := Option.some.inj (hi.symm.trans hi')
        obtain ⟨rfl,-⟩ := CallbackPhase.loaded.inj (hp.symm.trans hp')
        obtain rfl := Option.some.inj (hrow.symm.trans (getTopUp_spec hg).1)
        exact hpend
      · intro hall
        exact hall hok cb id t topUp hi hp (getTopUp_spec hg).1
  | creditUser i ok =>
    obtain ⟨cb,phase,store,hi,hf,rfl⟩ := advance_cases h
    obtain ⟨t,hp,⟨hbad,ho⟩ | ⟨hok,hn,s,hs,ho⟩⟩ := creditUserStep_cases hf
    · cases ho
      refine iff_of_false (not_creditedOnce_of_lost hq ?_) (fun hall => hbad (hall cb t hi hp))
      have hset := owedCredits_set c.state.store .ended hi
      rw [hp] at hset
      exact Nat.lt_of_succ_le hset.le
    · cases ho
      have hh := hc.copies i cb hi
      rw [hp] at hh
      obtain ⟨htu,hta⟩ := hh
      have hset := owedCredits_set store .ended hi
      rw [hp] at hset
      rw [hta,htu]
      refine iff_of_true (hq.pay hset) ?_
      intro cb' t' hi' hp'
      obtain rfl := Option.some.inj (hi.symm.trans hi')
      obtain rfl := CallbackPhase.saved.inj (hp.symm.trans hp')
      exact ⟨hok,hn⟩
  | crash server =>
    obtain ⟨rfl,rfl⟩ := Prod.mk.inj (Option.some.inj h)
    refine Iff.trans ?_ (owedCredits_crash_iff c.state server)
    constructor
    · intro hq'
      have honce := hq.once
      have honce' := hq'.once
      dsimp only [List.nil_append] at honce'
      omega
    · exact hq.keep rfl (by simp)
  | manualComplete now =>
    obtain ⟨o,ho,heq⟩ := Option.map_eq_some_iff.mp h
    refine iff_of_true ?_ trivial
    obtain ⟨id,t,ht,⟨-,rfl⟩ | ⟨hs,rfl⟩⟩ := manualComplete_cases (toOption_eq_some.mp ho)
    · obtain ⟨rfl,rfl⟩ := Prod.mk.inj heq
      exact hq.keep rfl (by simp) rfl
    · obtain ⟨rfl,rfl⟩ := Prod.mk.inj heq
      obtain ⟨rfl,rfl⟩ := Prod.mk.inj (Option.some.inj (hg.symm.trans ht))
      rw [hu,ha]
      exact hq.complete (hst.mp hs) rfl
  | adminRefund now =>
    obtain ⟨o,ho,heq⟩ := Option.map_eq_some_iff.mp h
    refine iff_of_true ?_ trivial
    obtain ⟨id,t,ht,⟨-,rfl⟩ | ⟨-,users,es',rfl,hes⟩⟩ := adminRefund_cases (toOption_eq_some.mp ho)
    · obtain ⟨rfl,rfl⟩ := Prod.mk.inj heq
      exact hq.keep rfl (by simp) rfl
    · obtain ⟨rfl,rfl⟩ := Prod.mk.inj heq
      rcases hes with ⟨-,rfl⟩ | ⟨n,rfl,-⟩
      · exact hq.keep rfl (by simp) rfl
      · exact hq.keep rfl (by simp) rfl
  | spend userId quota =>
    obtain ⟨s,hs,heq⟩ := Option.map_eq_some_iff.mp h
    obtain ⟨rfl,rfl⟩ := Prod.mk.inj heq
    exact iff_of_true (hq.keep rfl (by simp) rfl) trivial

end Step

/-! ## The wallet -/

/-- Wallets change by what the events say. -/
def WalletMoved (u : ℕ) (q : ℤ) (c : Config TopUpState TopUpEvent) : Prop :=
  (c.state.store.users.find? u).map (fun user => user.quota) = some (q+walletChange u c.history)

lemma wallet_update {users : Table User} {u v : ℕ} {q n : ℤ} {f : User → User}
    (h : (users.find? u).map (fun user => user.quota) = some q) (hf : ∀ user, (f user).quota=user.quota+n) :
    ((users.updateWhere (fun r => r.1=v) f).find? u).map (fun user => user.quota) =
      some (q+if v=u then n else 0) := by
  obtain ⟨user,hu,rfl⟩ := Option.map_eq_some_iff.mp h
  rw [Table.find?_updateWhere,hu]
  rcases eq_or_ne v u with rfl | hv
  · simp [hf]
  · simp [hv,hv.symm]

section Wallet
variable {S : Settings} {tradeNo : String} {u : ℕ} {q : ℤ} {c : Config TopUpState TopUpEvent}

lemma WalletMoved.keep {s' : TopUpState} {es : List TopUpEvent} (hw : WalletMoved u q c)
    (hs : s'.store.users = c.state.store.users) (he : walletChange u es=0) : WalletMoved u q ⟨s',es++c.history⟩ := by
  unfold WalletMoved at hw ⊢
  rw [hs,walletChange_append,he,zero_add]
  exact hw

lemma WalletMoved.move {s' : TopUpState} {es : List TopUpEvent} {v : ℕ} {n : ℤ} {f : User → User}
    (hw : WalletMoved u q c) (hs : s'.store.users = c.state.store.users.updateWhere (fun r => r.1=v) f)
    (hf : ∀ user, (f user).quota=user.quota+n) (he : walletChange u es=if v=u then n else 0) :
    WalletMoved u q ⟨s',es++c.history⟩ := by
  unfold WalletMoved at hw ⊢
  rw [hs,walletChange_append,he,wallet_update hw hf]
  congr 1
  ring

theorem walletMoved_step {op : TopUpOp} {s' : TopUpState} {es : List TopUpEvent} (hw : WalletMoved u q c)
    (h : (topUpSystem S tradeNo).step c.state op = some (s',es)) : WalletMoved u q ⟨s',es++c.history⟩ := by
  cases op with
  | notify server type =>
    obtain ⟨rfl,rfl⟩ := Prod.mk.inj (Option.some.inj h)
    exact hw.keep rfl rfl
  | lockOrder i =>
    obtain ⟨cb,phase,store,hi,hf,rfl⟩ := advance_cases h
    obtain ⟨-,ho,-⟩ := lockOrderStep_cases hf
    cases ho
    exact hw.keep rfl rfl
  | readOrder i ok =>
    obtain ⟨cb,phase,store,hi,hf,rfl⟩ := advance_cases h
    obtain ⟨-,ho,-⟩ := readOrderStep_cases hf
    cases ho
    exact hw.keep rfl rfl
  | saveOrder i now ok =>
    obtain ⟨cb,phase,store,hi,hf,rfl⟩ := advance_cases h
    obtain ⟨id,t,-,⟨-,ho⟩ | ⟨-,ho⟩⟩ := saveOrderStep_cases hf
    · cases ho
      exact hw.keep rfl rfl
    · cases ho
      exact hw.keep rfl rfl
  | creditUser i ok =>
    obtain ⟨cb,phase,store,hi,hf,rfl⟩ := advance_cases h
    obtain ⟨t,-,⟨-,ho⟩ | ⟨-,-,s,hs,ho⟩⟩ := creditUserStep_cases hf
    · cases ho
      exact hw.keep rfl rfl
    · cases ho
      rw [increaseUserQuota_ok hs]
      exact hw.move (f := fun v => { v with quota := v.quota+topUpQuota S t.amount }) rfl (fun _ => rfl) (add_zero _)
  | crash server =>
    obtain ⟨rfl,rfl⟩ := Prod.mk.inj (Option.some.inj h)
    exact hw.keep rfl rfl
  | manualComplete now =>
    obtain ⟨o,ho,heq⟩ := Option.map_eq_some_iff.mp h
    obtain ⟨id,t,-,⟨-,rfl⟩ | ⟨-,rfl⟩⟩ := manualComplete_cases (toOption_eq_some.mp ho)
    · obtain ⟨rfl,rfl⟩ := Prod.mk.inj heq
      exact hw.keep rfl rfl
    · obtain ⟨rfl,rfl⟩ := Prod.mk.inj heq
      exact hw.move (f := fun v => { v with quota := v.quota+topUpQuota S t.amount }) rfl (fun _ => rfl) (add_zero _)
  | adminRefund now =>
    obtain ⟨o,ho,heq⟩ := Option.map_eq_some_iff.mp h
    obtain ⟨id,t,-,⟨-,rfl⟩ | ⟨-,users,es',rfl,hes⟩⟩ := adminRefund_cases (toOption_eq_some.mp ho)
    · obtain ⟨rfl,rfl⟩ := Prod.mk.inj heq
      exact hw.keep rfl rfl
    · obtain ⟨rfl,rfl⟩ := Prod.mk.inj heq
      rcases hes with ⟨rfl,rfl⟩ | ⟨n,rfl,rfl⟩
      · exact hw.keep rfl rfl
      · exact hw.move (f := fun v => { v with quota := v.quota-n }) rfl (fun _ => rfl) (add_zero _)
  | spend userId quota =>
    obtain ⟨s,hs,heq⟩ := Option.map_eq_some_iff.mp h
    obtain ⟨rfl,rfl⟩ := Prod.mk.inj heq
    rw [decreaseUserQuota_ok (toOption_eq_some.mp hs)]
    exact hw.move (f := fun v => { v with quota := v.quota-quota }) rfl (fun _ => rfl) (add_zero _)

end Wallet

/-- Throughout a run that starts with a pending top-up and no callback, the wallet changes by what
the events say, and the user has been credited once if the order became successful and not at all
otherwise, exactly when all steps of the run are undisturbed. -/
theorem topUp_credited_once_iff (S : Settings) (tradeNo : String) (s : Store) (id : ℕ) (topUp : TopUp) (user : User)
    (hrow : getTopUpByTradeNo s tradeNo = some (id,topUp)) (hst : topUp.status = .pending)
    (huser : s.users.find? topUp.userId = some user) (ops : List TopUpOp) :
    (topUpSystem S tradeNo).Always (WalletMoved topUp.userId user.quota) ⟨⟨s,.empty⟩,[]⟩ ops ∧
    ((topUpSystem S tradeNo).Always (CreditedOnce topUp.userId (topUpQuota S topUp.amount)) ⟨⟨s,.empty⟩,[]⟩ ops ↔
      (topUpSystem S tradeNo).Guarded (CallbackUndisturbed S) ⟨⟨s,.empty⟩,[]⟩ ops) := by
  have hc : Tracked tradeNo id topUp.userId topUp.amount ⟨⟨s,.empty⟩,[]⟩ := by
    constructor
    · exact ⟨topUp,hrow,rfl,rfl,by simp [hst]⟩
    · intro i cb hi
      contradiction
  constructor
  · apply always_of_step
    · simp [WalletMoved,huser,walletChange]
    · intro d op s' es hd h
      exact walletMoved_step hd h
  · apply always_iff_guarded (always_of_step hc (fun _ _ _ _ hd h => tracked_step hd h) ops)
    · exact ⟨by simp,by simp [TopUpState.owedCredits]⟩
    · intro d op hd hq
      exact creditedOnce_exec_iff hd hq

/-! ## Top-ups that are credited not once -/

def unitSettings : Settings := ⟨7,500000,0⟩

def pendingTopUp : TopUp where
  userId := 1
  amount := 10
  money := 73
  tradeNo := "T1"
  paymentMethod := "alipay"
  paymentProvider := .epay
  createTime := 1
  completeTime := 0
  status := .pending

def topUpStart : Config TopUpState TopUpEvent :=
  ⟨⟨{ Store.empty with
    users := Table.empty.insert ⟨0,"default"⟩
    topUps := Table.empty.insert pendingTopUp },.empty⟩,[]⟩

/-- The server crashes after it saved the order; the gateway was already told of success. -/
def crashBetweenWrites : List TopUpOp :=
  [.notify 1 "alipay",.lockOrder 1,.readOrder 1 true,.saveOrder 1 100 true,.crash 1,.manualComplete 200]

/-- The same payment is delivered to two servers, whose locks do not know of each other. -/
def twoServers : List TopUpOp :=
  [.notify 1 "alipay",.notify 2 "alipay",.lockOrder 1,.lockOrder 2,.readOrder 1 true,.readOrder 2 true,
    .saveOrder 1 100 true,.creditUser 1 true,.saveOrder 2 100 true,.creditUser 2 true]

/-- An administrator completes the order while a callback holds a pending copy of it. -/
def completedMeanwhile : List TopUpOp :=
  [.notify 1 "alipay",.lockOrder 1,.readOrder 1 true,.manualComplete 100,.saveOrder 1 101 true,.creditUser 1 true]

theorem topUp_credited_once_iff_twoServers :
    (topUpSystem unitSettings "T1").Always (WalletMoved 1 0) topUpStart twoServers ∧
    ((topUpSystem unitSettings "T1").Always (CreditedOnce 1 (topUpQuota unitSettings 10)) topUpStart twoServers ↔
      (topUpSystem unitSettings "T1").Guarded (CallbackUndisturbed unitSettings) topUpStart twoServers) :=
  topUp_credited_once_iff unitSettings "T1" topUpStart.state.store 1 pendingTopUp ⟨0,"default"⟩ rfl rfl rfl twoServers

/-- After each of these runs the order was successful and no callback is under way, but the user
was credited never in the first and twice in the others. -/
theorem topUp_credited_never_or_twice :
    (let c := (topUpSystem unitSettings "T1").run topUpStart crashBetweenWrites;
      c.state.owedCredits=0 ∧ .succeeded∈c.history ∧ credits c.history = []) ∧
    (∀ ops∈[twoServers,completedMeanwhile],
      let c := (topUpSystem unitSettings "T1").run topUpStart ops;
      c.state.owedCredits=0 ∧ .succeeded∈c.history ∧ credits c.history = [(1,5000000),(1,5000000)]) := by
  decide +kernel

end Tierflow
