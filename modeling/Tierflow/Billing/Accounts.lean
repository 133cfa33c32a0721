import Tierflow.Foundation.Transaction
import Tierflow.Store.Schema

/-! Wallet and token quota: the single-row updates that billing is made of. Updates that batching
would defer are written at once. -/
namespace Tierflow

def negativeQuotaMessage : String := "quota 不能为负数！"

def increaseUserQuota (s : Store) (id : ℕ) (quota : ℤ) : Except TxError Store := do
  require (.message negativeQuotaMessage) (0≤quota)
  .ok { s with users := s.users.updateWhere (fun r => r.1=id) (fun u => { u with quota := u.quota+quota }) }

def decreaseUserQuota (s : Store) (id : ℕ) (quota : ℤ) : Except TxError Store := do
  require (.message negativeQuotaMessage) (0≤quota)
  .ok { s with users := s.users.updateWhere (fun r => r.1=id) (fun u => { u with quota := u.quota-quota }) }

def increaseTokenQuota (s : Store) (id : ℕ) (quota : ℤ) : Except TxError Store := do
  require (.message negativeQuotaMessage) (0≤quota)
  .ok { s with
    tokens := s.tokens.updateWhere (fun r => r.1=id)
      (fun t => { t with remainQuota := t.remainQuota+quota, usedQuota := t.usedQuota-quota }) }

def decreaseTokenQuota (s : Store) (id : ℕ) (quota : ℤ) : Except TxError Store := do
  require (.message negativeQuotaMessage) (0≤quota)
  .ok { s with
    tokens := s.tokens.updateWhere (fun r => r.1=id)
      (fun t => { t with remainQuota := t.remainQuota-quota, usedQuota := t.usedQuota+quota }) }

/-- What a user has spent from the wallet, up to a constant. -/
def walletSpent (s : Store) (id : ℕ) : Option ℤ := (s.users.find? id).map (fun u => -u.quota)

/-- What has been spent through a token. -/
def tokenSpent (s : Store) (id : ℕ) : Option ℤ := (s.tokens.find? id).map (fun t => t.usedQuota)

lemma increaseUserQuota_ok {s s' : Store} {id : ℕ} {n : ℤ} (h : increaseUserQuota s id n = .ok s') :
    s' = { s with users := s.users.updateWhere (fun r => r.1=id) (fun u => { u with quota := u.quota+n }) } := by
  obtain ⟨_,-,h⟩ := bind_eq_ok.mp h
  exact (Except.ok.inj h).symm

lemma decreaseUserQuota_ok {s s' : Store} {id : ℕ} {n : ℤ} (h : decreaseUserQuota s id n = .ok s') :
    s' = { s with users := s.users.updateWhere (fun r => r.1=id) (fun u => { u with quota := u.quota-n }) } := by
  obtain ⟨_,-,h⟩ := bind_eq_ok.mp h
  exact (Except.ok.inj h).symm

lemma increaseTokenQuota_ok {s s' : Store} {id : ℕ} {n : ℤ} (h : increaseTokenQuota s id n = .ok s') :
    s' = { s with
      tokens := s.tokens.updateWhere (fun r => r.1=id)
        (fun t => { t with remainQuota := t.remainQuota+n, usedQuota := t.usedQuota-n }) } := by
  obtain ⟨_,-,h⟩ := bind_eq_ok.mp h
  exact (Except.ok.inj h).symm

lemma decreaseTokenQuota_ok {s s' : Store} {id : ℕ} {n : ℤ} (h : decreaseTokenQuota s id n = .ok s') :
    s' = { s with
      tokens := s.tokens.updateWhere (fun r => r.1=id)
        (fun t => { t with remainQuota := t.remainQuota-n, usedQuota := t.usedQuota+n }) } := by
  obtain ⟨_,-,h⟩ := bind_eq_ok.mp h
  exact (Except.ok.inj h).symm

theorem walletSpent_increase {s s' : Store} {id : ℕ} {n w : ℤ} (h : increaseUserQuota s id n = .ok s')
    (hw : walletSpent s id = some w) : walletSpent s' id = some (w-n) := by
  obtain ⟨u,hu,rfl⟩ := Option.map_eq_some_iff.mp hw
  rw [increaseUserQuota_ok h]
  simp [walletSpent,hu]
  ring

theorem walletSpent_decrease {s s' : Store} {id : ℕ} {n w : ℤ} (h : decreaseUserQuota s id n = .ok s')
    (hw : walletSpent s id = some w) : walletSpent s' id = some (w+n) := by
  obtain ⟨u,hu,rfl⟩ := Option.map_eq_some_iff.mp hw
  rw [decreaseUserQuota_ok h]
  simp [walletSpent,hu]
  ring

theorem tokenSpent_increase {s s' : Store} {id : ℕ} {n w : ℤ} (h : increaseTokenQuota s id n = .ok s')
    (hw : tokenSpent s id = some w) : tokenSpent s' id = some (w-n) := by
  obtain ⟨t,ht,rfl⟩ := Option.map_eq_some_iff.mp hw
  rw [increaseTokenQuota_ok h]
  simp [tokenSpent,ht]

theorem tokenSpent_decrease {s s' : Store} {id : ℕ} {n w : ℤ} (h : decreaseTokenQuota s id n = .ok s')
    (hw : tokenSpent s id = some w) : tokenSpent s' id = some (w+n) := by
  obtain ⟨t,ht,rfl⟩ := Option.map_eq_some_iff.mp hw
  rw [decreaseTokenQuota_ok h]
  simp [tokenSpent,ht]

end Tierflow
