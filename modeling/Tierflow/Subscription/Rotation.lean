import Tierflow.Subscription.Revocation

/-! Rotation of the key of a subscription. The subscription is read and found active before the
transaction that deletes its keys and issues a new one, and anything may happen in between. -/
namespace Tierflow
open TxSystem

def rotateInactiveMessage : String := "订阅未生效,无法更新 Key"
def invalidOwnedSubscriptionMessage : String := "invalid subscription id"

/-- A rotation between its read and its transaction, with its copy of the subscription. -/
structure Rotation where
  userId : ℕ
  id : ℕ
  sub : UserSubscription

structure RotationState where
  store : Store
  rotations : Table Rotation

inductive RotationOp
  | subscription (op : SubscriptionOp)
  | readRotation (now : ℤ) (userId id : ℕ)
  | commitRotation (rotation : ℕ)

def getUserSubscriptionOwned (s : Store) (userId id : ℕ) : Except TxError UserSubscription := do
  require (.message invalidOwnedSubscriptionMessage) (userId≠0 ∧ id≠0)
  orFail .recordNotFound ((s.subscriptions.find? id).filter (fun sub => sub.userId=userId))

/-- The part of `RotateSubscriptionToken` before its transaction. -/
def readRotation (s : Store) (now : ℤ) (userId id : ℕ) : Except TxError Rotation := do
  let sub ← getUserSubscriptionOwned s userId id
  require (.message rotateInactiveMessage) (sub.status = .active ∧ ¬(0 < sub.endTime ∧ sub.endTime≤now))
  .ok ⟨userId,id,sub⟩

/-- The transaction of `RotateSubscriptionToken`. -/
def commitRotation (s : Store) (r : Rotation) : Store :=
  { s with
    tokens := (s.tokens.deleteWhere (fun t => t.2.userId=r.userId ∧ t.2.userSubscriptionId=r.id)).insert
      (subscriptionToken r.userId r.id r.sub.endTime) }

def rotationSystem (S : Settings) : TxSystem RotationState RotationOp SubscriptionEvent where
  step c
    | .subscription op => ((subscriptionSystem S).step c.store op).map (fun o => ({ c with store := o.1 },o.2))
    | .readRotation now u id =>
      (readRotation c.store now u id).toOption.map (fun r => ({ c with rotations := c.rotations.insert r },[]))
    | .commitRotation i =>
      (c.rotations.find? i).map (fun r => (⟨commitRotation c.store r,c.rotations.delete i⟩,[]))

/-- The subscription is still active when the transaction of its rotation runs. -/
def RotatesActive (c : Config RotationState SubscriptionEvent) : RotationOp → Prop
  | .commitRotation i => ∀ r∈c.state.rotations.find? i, ∃ sub∈c.state.store.subscriptions.find? r.id, sub.status = .active
  | _ => True

section Steps
variable {S : Settings} {s : Store} {r : Rotation}

/-- Every pending rotation names a subscription. -/
def RotationsNamed (c : Config RotationState SubscriptionEvent) : Prop :=
  ∀ i r, c.state.rotations.find? i = some r → r.id≠0

lemma readRotation_ok {now : ℤ} {u id : ℕ} (h : readRotation s now u id = .ok r) : r.id≠0 := by
  obtain ⟨sub,hsub,h⟩ := bind_eq_ok.mp h
  obtain ⟨_,hid,-⟩ := bind_eq_ok.mp hsub
  obtain ⟨_,-,h⟩ := bind_eq_ok.mp h
  obtain rfl := Except.ok.inj h
  exact (require_eq_ok.mp hid).2

lemma rotationsNamed_step {d : Config RotationState SubscriptionEvent} {op : RotationOp} {c : RotationState}
    {es : List SubscriptionEvent} (hd : RotationsNamed d) (h : (rotationSystem S).step d.state op = some (c,es)) :
    RotationsNamed ⟨c,es++d.history⟩ := by
  intro i r hi
  cases op with
  | subscription op =>
    obtain ⟨o,-,heq⟩ := Option.map_eq_some_iff.mp h
    obtain ⟨rfl,-⟩ := Prod.mk.inj heq
    exact hd i r hi
  | readRotation now u id =>
    obtain ⟨x,hx,heq⟩ := Option.map_eq_some_iff.mp h
    obtain ⟨rfl,-⟩ := Prod.mk.inj heq
    rw [Table.find?_insert] at hi
    split_ifs at hi
    · obtain rfl := Option.some.inj hi
      exact readRotation_ok (toOption_eq_some.mp hx)
    · exact hd i r hi
  | commitRotation j =>
    obtain ⟨x,-,heq⟩ := Option.map_eq_some_iff.mp h
    obtain ⟨rfl,-⟩ := Prod.mk.inj heq
    rw [Table.find?_delete] at hi
    split_ifs at hi
    exact hd i r hi

/-- The new key is enabled, and all keys that it does not replace stay. -/
lemma keysLive_commitRotation (h : KeysLive s) (hr : r.id≠0) :
    KeysLive (commitRotation s r) ↔ ∃ sub∈s.subscriptions.find? r.id, sub.status = .active := by
  constructor
  · intro h'
    obtain ⟨sub,hsub,ha⟩ := h' s.tokens.next (subscriptionToken r.userId r.id r.sub.endTime)
      (Table.find?_insert_self _ _) rfl hr
    exact ⟨sub,hsub,ha⟩
  · rintro ⟨sub,hsub,ha⟩ id token htoken he hk
    simp only [commitRotation,Table.find?_insert] at htoken
    split_ifs at htoken
    · obtain rfl := Option.some.inj htoken
      exact ⟨sub,hsub,ha⟩
    · exact h id token (Table.find?_deleteWhere_eq_some.mp htoken).1 he hk

/-- Keys of ended subscriptions stay disabled exactly as long as no rotation is completed after its
subscription has ended. -/
theorem rotation_keysLive_iff (S : Settings) (s : Store) (hs : KeysLive s) (ops : List RotationOp) :
    (rotationSystem S).Always (fun c => KeysLive c.state.store) ⟨⟨s,.empty⟩,[]⟩ ops ↔
      (rotationSystem S).Guarded RotatesActive ⟨⟨s,.empty⟩,[]⟩ ops := by
  have h0 : RotationsNamed ⟨⟨s,.empty⟩,[]⟩ := fun _ _ h => nomatch h
  apply always_iff_guarded (always_of_step h0 (fun _ _ _ _ hd h => rotationsNamed_step hd h) ops) hs
  intro d op hd hq
  cases op with
  | subscription op =>
    refine iff_of_true ?_ trivial
    cases h : (rotationSystem S).step d.state (.subscription op) with
    | none => rwa [exec_of_none h]
    | some o =>
      rw [exec_of_some h]
      obtain ⟨⟨s',es⟩,hstep,heq⟩ := Option.map_eq_some_iff.mp h
      subst o
      obtain ⟨new,hl,-⟩ := stepEffect_of_step hstep
      exact hl.keysLive hq
  | readRotation now u id =>
    refine iff_of_true ?_ trivial
    cases h : (rotationSystem S).step d.state (.readRotation now u id) with
    | none => rwa [exec_of_none h]
    | some o =>
      rw [exec_of_some h]
      obtain ⟨r,-,heq⟩ := Option.map_eq_some_iff.mp h
      subst o
      exact hq
  | commitRotation i =>
    unfold RotatesActive
    cases hi : d.state.rotations.find? i with
    | none =>
      have h : (rotationSystem S).step d.state (.commitRotation i) = none := by
        change (d.state.rotations.find? i).map _ = none
        rw [hi]
        rfl
      rw [exec_of_none h]
      refine iff_of_true hq ?_
      intro r hr
      rw [hi] at hr
      contradiction
    | some r =>
      have h : (rotationSystem S).step d.state (.commitRotation i) =
          some (⟨commitRotation d.state.store r,d.state.rotations.delete i⟩,[]) := by
        change (d.state.rotations.find? i).map _ = _
        rw [hi]
        rfl
      rw [exec_of_some h]
      constructor
      · intro hq' r' hr'
        obtain rfl := Option.some.inj (hi.symm.trans hr')
        exact (keysLive_commitRotation hq (hd i r hi)).mp hq'
      · intro hg
        exact (keysLive_commitRotation hq (hd i r hi)).mpr (hg r hi)

end Steps

instance (c : Config RotationState SubscriptionEvent) (op : RotationOp) : Decidable (RotatesActive c op) := by
  cases op <;> unfold RotatesActive <;> infer_instance

/-! ## A rotation that is overtaken -/

def rotatedKey : List RotationOp :=
  [.subscription (.purchaseWithBalance 1000 "T1" 1 1),.readRotation 1000 1 1,.commitRotation 1]

/-- Between the read and the transaction an operator invalidates the subscription. -/
def overtakenRotation : List RotationOp :=
  [.subscription (.purchaseWithBalance 1000 "T1" 1 1),.readRotation 1000 1 1,
    .subscription (.adminInvalidate 1000 1),.commitRotation 1]

theorem rotation_keysLive_rotatedKey :
    (rotationSystem shopSettings).Always (fun c => KeysLive c.state.store) ⟨⟨monthlyShop,.empty⟩,[]⟩ rotatedKey ↔
      (rotationSystem shopSettings).Guarded RotatesActive ⟨⟨monthlyShop,.empty⟩,[]⟩ rotatedKey :=
  rotation_keysLive_iff shopSettings monthlyShop (fun _ _ h => nomatch h) rotatedKey

/-- In the end an enabled key is bound to a cancelled subscription. -/
theorem overtakenRotation_not_keysLive :
    ¬KeysLive ((rotationSystem shopSettings).run ⟨⟨monthlyShop,.empty⟩,[]⟩ overtakenRotation).state.store := by
  intro h
  have hrun : let s := ((rotationSystem shopSettings).run ⟨⟨monthlyShop,.empty⟩,[]⟩ overtakenRotation).state.store;
      (s.tokens.find? 2).map (fun t => (t.status,t.userSubscriptionId)) = some (.enabled,1) ∧
      (s.subscriptions.find? 1).map UserSubscription.status = some .cancelled := by decide +kernel
  obtain ⟨htoken,hsub⟩ := hrun
  obtain ⟨token,ht,heq⟩ := Option.map_eq_some_iff.mp htoken
  obtain ⟨he,hk⟩ := Prod.mk.inj heq
  obtain ⟨sub,hs,ha⟩ := h 2 token ht he (by rw [hk]; decide)
  rw [hk] at hs
  rw [hs,Option.map_some,ha] at hsub
  contradiction

end Tierflow
