import Tierflow.Subscription.Effects

/-! Redemption codes. Redeeming locks the row of the code; operators edit a code by reading its row,
and writing it back later without a lock. -/
namespace Tierflow
open TxSystem

inductive RedemptionStatus
  | enabled | disabled | used | other (code : ℤ)
  deriving DecidableEq, Repr

inductive RedemptionType
  | quota | subscription | other (code : ℤ)
  deriving DecidableEq, Repr

structure Redemption where
  key : String
  status : RedemptionStatus
  name : String
  quota : ℤ
  redeemedTime : ℤ
  usedUserId : ℕ
  expiredTime : ℤ
  type : RedemptionType
  planId : ℕ

/-- Errors of `Redeem` that reach the user; everything else is reported as `redeemFailed`. -/
inductive RedeemError
  | redemptionInvalid
  | redemptionUsed
  | redemptionDisabled
  | redemptionExpired
  | invalidUserId
  | subscription (e : TxError)
  | redeemFailed
  deriving DecidableEq

def redeemErrorOf : TxError → RedeemError
  | .redemptionPlanMissing => .subscription .redemptionPlanMissing
  | .redemptionPlanDisabled => .subscription .redemptionPlanDisabled
  | .subscriptionNotUpgradable => .subscription .subscriptionNotUpgradable
  | .subscriptionUpgradeOnly => .subscription .subscriptionUpgradeOnly
  | .subscriptionPurchaseLimitReached => .subscription .subscriptionPurchaseLimitReached
  | _ => .redeemFailed

def redemptionUserMissingMessage : String := "redemption target user missing"

/-- An edit between its read and its write, with the row it is going to write. -/
structure PendingEdit where
  id : ℕ
  row : Redemption

structure CodeState where
  store : Store
  codes : Table Redemption
  edits : Table PendingEdit

inductive RedemptionEvent
  | redeemed (id userId : ℕ)
  deriving DecidableEq

/-! ## Redeeming -/

/-- A code of the wallet adds its quota to the account, which must exist. -/
def redeemQuotaTx (s : Store) (userId : ℕ) (quota : ℤ) : Except TxError Store := do
  let _ ← orFail (.message redemptionUserMissingMessage) (s.users.find? userId)
  .ok (creditUser s userId quota)

/-- What a code grants. -/
def grantTx (tz : ℤ) (s : Store) (now : ℤ) (tradeNo : String) (userId id : ℕ) (code : Redemption) :
    Except TxError Store :=
  if code.type = .subscription then do
    let (s',_) ← redeemSubscriptionTx tz s now tradeNo userId code.planId id
    .ok s'
  else redeemQuotaTx s userId code.quota

/-- Only an enabled code can be redeemed. -/
def checkCodeStatus : RedemptionStatus → Except RedeemError Unit
  | .enabled => .ok ()
  | .disabled => .error .redemptionDisabled
  | _ => .error .redemptionUsed

def redeem (tz : ℤ) (c : CodeState) (now : ℤ) (tradeNo key : String) (userId : ℕ) :
    Except RedeemError (CodeState × List RedemptionEvent) := do
  require .redemptionInvalid (key≠"")
  require .invalidUserId (userId≠0)
  let (id,code) ← orFail .redemptionInvalid (c.codes.first? (fun r => r.2.key=key))
  checkCodeStatus code.status
  require .redemptionExpired (¬(code.expiredTime≠0 ∧ code.expiredTime<now))
  let store ← (grantTx tz c.store now tradeNo userId id code).mapError redeemErrorOf
  .ok ({ c with
    store := store
    codes := c.codes.set id { code with redeemedTime := now, status := .used, usedUserId := userId } },
    [.redeemed id userId])

/-! ## Editing -/

inductive EditError
  | recordNotFound
  | expireTimeInvalid
  | planRequired
  | planMissing
  | typeInvalid
  | usedImmutable
  | usedStatusImmutable
  deriving DecidableEq

/-- The body of a request; omitted fields keep the values that were read. -/
structure RedemptionEdit where
  id : ℕ
  name : Option String
  status : Option RedemptionStatus
  quota : Option ℤ
  expiredTime : Option ℤ
  type : Option RedemptionType
  planId : Option ℕ

def RedemptionEdit.bind (e : RedemptionEdit) (row : Redemption) : Redemption :=
  { row with
    name := e.name.getD row.name
    status := e.status.getD row.status
    quota := e.quota.getD row.quota
    expiredTime := e.expiredTime.getD row.expiredTime
    type := e.type.getD row.type
    planId := e.planId.getD row.planId }

def validExpiredTime (expired now : ℤ) : Prop := ¬(expired≠0 ∧ expired<now)

instance (expired now : ℤ) : Decidable (validExpiredTime expired now) := by unfold validExpiredTime; infer_instance

/-- A code of the wallet has no plan, a code for a subscription no quota but a plan that exists. -/
def validateRedemptionTypeAndPlan (s : Store) (row : Redemption) : Except EditError Redemption :=
  match row.type with
  | .quota => .ok { row with planId := 0 }
  | .subscription => do
    require .planRequired (row.planId≠0)
    match getSubscriptionPlanByIdTx s row.planId with
    | .error _ => .error .planMissing
    | .ok _ => .ok { row with quota := 0 }
  | .other _ => .error .typeInvalid

/-- The part of `UpdateRedemption` before its write. The plan is looked up later than the code is
read, on the store `seen`. -/
def readEdit (seen : Store) (codes : Table Redemption) (now : ℤ) (statusOnly : Bool) (e : RedemptionEdit) :
    Except EditError PendingEdit := do
  let row ← orFail .recordNotFound (codes.find? e.id)
  let asked := e.bind row
  if statusOnly then do
    require .usedStatusImmutable (¬(row.status = .used ∧ asked.status≠.used))
    .ok ⟨e.id,{ row with status := asked.status }⟩
  else do
    require .usedImmutable (row.status≠.used)
    require .expireTimeInvalid (validExpiredTime asked.expiredTime now)
    let checked ← validateRedemptionTypeAndPlan seen asked
    .ok ⟨e.id,{ row with
      name := checked.name
      quota := checked.quota
      expiredTime := checked.expiredTime
      type := checked.type
      planId := checked.planId }⟩

/-- `Redemption.Update` writes its columns from the copy, the status among them. -/
def writeEdit (codes : Table Redemption) (p : PendingEdit) : Table Redemption :=
  codes.updateWhere (fun r => r.1=p.id) (fun row => { row with
    name := p.row.name
    status := p.row.status
    quota := p.row.quota
    redeemedTime := p.row.redeemedTime
    expiredTime := p.row.expiredTime
    type := p.row.type
    planId := p.row.planId })

inductive CodeOp
  | redeem (now : ℤ) (tradeNo key : String) (userId : ℕ)
  | readEdit (seen : Store) (now : ℤ) (statusOnly : Bool) (e : RedemptionEdit)
  | writeEdit (edit : ℕ)
  /-- Anything else happens to the rest of the database. -/
  | world (store : Store)

def codeSystem (tz : ℤ) : TxSystem CodeState CodeOp RedemptionEvent where
  step c
    | .redeem now tn key u => (redeem tz c now tn key u).toOption
    | .readEdit seen now statusOnly e =>
      (readEdit seen c.codes now statusOnly e).toOption.map (fun p => ({ c with edits := c.edits.insert p },[]))
    | .writeEdit i =>
      (c.edits.find? i).map (fun p => ({ c with codes := writeEdit c.codes p, edits := c.edits.delete i },[]))
    | .world store => some ({ c with store := store },[])

/-! ## At most once -/

def RedemptionEvent.of? (id : ℕ) : RedemptionEvent → Option ℕ
  | .redeemed code userId => if code=id then some userId else none

/-- The users that have redeemed a code. -/
def redemptions (id : ℕ) (es : List RedemptionEvent) : List ℕ := es.filterMap (RedemptionEvent.of? id)

def codeStatus (id : ℕ) (c : CodeState) : Option RedemptionStatus := (c.codes.find? id).map Redemption.status

/-- No edit writes another status over a code that has been used since the edit read it. -/
def KeepsUsed (c : Config CodeState RedemptionEvent) : CodeOp → Prop
  | .writeEdit i => ∀ p∈c.state.edits.find? i, codeStatus p.id c.state = some .used → p.row.status = .used
  | _ => True

/-- A redeemed code is used, and has been redeemed once. -/
structure RedeemedOnce (c : Config CodeState RedemptionEvent) : Prop where
  once : ∀ id, (redemptions id c.history).length≤1
  used : ∀ id, redemptions id c.history≠[] → codeStatus id c.state = some .used

section Steps
variable {tz : ℤ} {c c' : CodeState}

@[simp] lemma redemptions_append (id : ℕ) (es hist : List RedemptionEvent) :
    redemptions id (es++hist) = redemptions id es++redemptions id hist := List.filterMap_append

lemma redemptions_redeemed (id code u : ℕ) : redemptions id [.redeemed code u] = if code=id then [u] else [] := by
  unfold redemptions
  by_cases h : code=id <;> simp [RedemptionEvent.of?,h]

/-- A code that is redeemed was enabled, is used afterwards, and no other code changes. -/
theorem redeem_cases {now : ℤ} {tn key : String} {u : ℕ} {es : List RedemptionEvent}
    (h : redeem tz c now tn key u = .ok (c',es)) :
    ∃ id, es = [.redeemed id u] ∧ codeStatus id c = some .enabled ∧ codeStatus id c' = some .used ∧
      ∀ j, j≠id → codeStatus j c' = codeStatus j c := by
  obtain ⟨_,-,h⟩ := bind_eq_ok.mp h
  obtain ⟨_,-,h⟩ := bind_eq_ok.mp h
  obtain ⟨⟨id,code⟩,hcode,h⟩ := bind_eq_ok.mp h
  obtain ⟨_,hst,h⟩ := bind_eq_ok.mp h
  obtain ⟨_,-,h⟩ := bind_eq_ok.mp h
  obtain ⟨store,-,h⟩ := bind_eq_ok.mp h
  obtain ⟨rfl,rfl⟩ := Prod.mk.inj (Except.ok.inj h)
  obtain ⟨hfind,-⟩ := Table.first?_some (orFail_eq_ok.mp hcode)
  have henabled : code.status = .enabled := by
    unfold checkCodeStatus at hst
    split at hst
    · assumption
    · contradiction
    · contradiction
  refine ⟨id,rfl,?_,?_,?_⟩
  · rw [codeStatus,hfind,Option.map_some,henabled]
  · rw [codeStatus,Table.find?_set_self _ hfind]
    rfl
  · intro j hj
    rw [codeStatus,codeStatus,Table.find?_set_of_ne _ _ hj]

lemma codeStatus_writeEdit (p : PendingEdit) (edits : Table PendingEdit) (id : ℕ) :
    codeStatus id { c with codes := writeEdit c.codes p, edits := edits } =
      if id=p.id then (codeStatus id c).map (fun _ => p.row.status) else codeStatus id c := by
  unfold codeStatus writeEdit
  rw [Table.find?_updateWhere]
  cases c.codes.find? id with
  | none => simp
  | some row =>
    by_cases h : id=p.id <;> simp [h]

lemma redeemedOnce_step {d : Config CodeState RedemptionEvent} {op : CodeOp} {es : List RedemptionEvent}
    (hd : RedeemedOnce d) (hop : KeepsUsed d op) (h : (codeSystem tz).step d.state op = some (c',es)) :
    RedeemedOnce ⟨c',es++d.history⟩ := by
  cases op with
  | redeem now tn key u =>
    obtain ⟨id,rfl,henabled,hused,hother⟩ := redeem_cases (toOption_eq_some.mp h)
    have hfirst : redemptions id d.history = [] := by
      by_contra hne
      rw [hd.used id hne] at henabled
      contradiction
    constructor
    · intro j
      rw [redemptions_append,redemptions_redeemed]
      split_ifs with hj
      · subst j
        rw [hfirst]
        rfl
      · exact hd.once j
    · intro j hne
      by_cases hj : j=id
      · rw [hj]
        exact hused
      · rw [redemptions_append,redemptions_redeemed,if_neg (fun he => hj he.symm),List.nil_append] at hne
        exact (hother j hj).trans (hd.used j hne)
  | readEdit seen now statusOnly e =>
    obtain ⟨p,-,heq⟩ := Option.map_eq_some_iff.mp h
    obtain ⟨rfl,rfl⟩ := Prod.mk.inj heq
    exact ⟨hd.once,hd.used⟩
  | writeEdit i =>
    obtain ⟨p,hp,heq⟩ := Option.map_eq_some_iff.mp h
    obtain ⟨rfl,rfl⟩ := Prod.mk.inj heq
    refine ⟨hd.once,?_⟩
    intro j hne
    have hused := hd.used j hne
    rw [codeStatus_writeEdit,hused]
    split_ifs with hj
    · subst j
      rw [Option.map_some,hop p hp hused]
    · rfl
  | world store =>
    obtain ⟨rfl,rfl⟩ := Prod.mk.inj (Option.some.inj h)
    exact ⟨hd.once,hd.used⟩

/-- In every run whose edits leave used codes used, each code is redeemed at most once; and a
rejected redemption changes neither codes nor accounts nor subscriptions. -/
theorem redeemed_once (tz : ℤ) (s : Store) (codes : Table Redemption) (ops : List CodeOp)
    (hops : (codeSystem tz).Guarded KeepsUsed ⟨⟨s,codes,.empty⟩,[]⟩ ops) :
    (codeSystem tz).Always (fun c => ∀ id, (redemptions id c.history).length≤1) ⟨⟨s,codes,.empty⟩,[]⟩ ops ∧
    (codeSystem tz).Transitions (fun c op d => ∀ now tn key u e, op = .redeem now tn key u →
      redeem tz c.state now tn key u = .error e → d.state = c.state) ⟨⟨s,codes,.empty⟩,[]⟩ ops := by
  have h0 : RedeemedOnce ⟨⟨s,codes,.empty⟩,[]⟩ := ⟨fun _ => Nat.zero_le _,fun _ hne => absurd rfl hne⟩
  have hinv := always_of_guarded h0 (fun _ _ _ _ hd hop h => redeemedOnce_step hd hop h) hops
  refine ⟨hinv.mono (fun d hd => hd.once),?_⟩
  apply transitions_of_step hinv
  · exact fun _ _ _ _ _ _ _ _ _ _ _ => rfl
  · rintro d op c' es - h now tn key u e rfl herr
    have hok := toOption_eq_some.mp h
    rw [herr] at hok
    contradiction

end Steps

instance (c : Config CodeState RedemptionEvent) (op : CodeOp) : Decidable (KeepsUsed c op) := by
  cases op <;> unfold KeepsUsed <;> infer_instance

/-! ## An edit that is overtaken -/

def giftCodes : Table Redemption :=
  Table.empty.insert ⟨"gift",.enabled,"gift",500,0,0,0,.quota,0⟩

def giftRename : RedemptionEdit := ⟨1,some "present",none,none,none,none,none⟩

def renamedCode : List CodeOp :=
  [.readEdit .empty 1000 false giftRename,.writeEdit 1,.redeem 1001 "" "gift" 1,.redeem 1002 "" "gift" 1]

/-- The code is redeemed between the read and the write of an edit that only changes its name. -/
def overtakenRename : List CodeOp :=
  [.readEdit .empty 1000 false giftRename,.redeem 1001 "" "gift" 1,.writeEdit 1,.redeem 1002 "" "gift" 1]

theorem redeemed_once_renamedCode :
    (codeSystem 0).Always (fun c => ∀ id, (redemptions id c.history).length≤1)
      ⟨⟨shop .empty,giftCodes,.empty⟩,[]⟩ renamedCode ∧
    (codeSystem 0).Transitions (fun c op d => ∀ now tn key u e, op = .redeem now tn key u →
      redeem 0 c.state now tn key u = .error e → d.state = c.state) ⟨⟨shop .empty,giftCodes,.empty⟩,[]⟩ renamedCode :=
  redeemed_once 0 (shop .empty) giftCodes renamedCode (by decide)

theorem overtakenRename_redeemed_twice :
    (let c := (codeSystem 0).run ⟨⟨shop .empty,giftCodes,.empty⟩,[]⟩ overtakenRename;
      redemptions 1 c.history = [1,1] ∧ userQuota c.state.store.users 1 = some 100001000) ∧
    ¬(codeSystem 0).Always (fun c => ∀ id, (redemptions id c.history).length≤1)
      ⟨⟨shop .empty,giftCodes,.empty⟩,[]⟩ overtakenRename := by
  have hrun : let c := (codeSystem 0).run ⟨⟨shop .empty,giftCodes,.empty⟩,[]⟩ overtakenRename;
      redemptions 1 c.history = [1,1] ∧ userQuota c.state.store.users 1 = some 100001000 := by decide
  refine ⟨hrun,?_⟩
  intro h
  have hlast := h.last 1
  rw [hrun.1] at hlast
  exact absurd hlast (by decide)

end Tierflow
