import Tierflow.Foundation.Machine

/-! The counters of users, tokens and channels in the database, and the statements that change them. A
statement that would leave the range of a column fails as a whole; one whose row is missing changes
nothing. The access time that the token statements also write is read by none of them. -/
namespace Tierflow
namespace Counters

/-- The kinds of records that are batched. -/
inductive BatchUpdateType
  | userQuota
  | tokenQuota
  | usedQuota
  | channelUsedQuota
  | requestCount
deriving Repr, DecidableEq

/-- A value of a 64-bit column. -/
abbrev SqlInt : Type := {x : ℤ // -2^63≤x ∧ x<2^63}

def SqlInt.plus (a : SqlInt) (d : ℤ) : Option SqlInt :=
  if h : -2^63≤a.val+d ∧ a.val+d<2^63 then some ⟨a.val+d,h⟩ else none

structure UserCounters where
  quota : SqlInt
  usedQuota : SqlInt
  requestCount : SqlInt

structure TokenCounters where
  remainQuota : SqlInt
  usedQuota : SqlInt

structure CounterDb where
  users : ℤ → Option UserCounters
  tokens : ℤ → Option TokenCounters
  channels : ℤ → Option SqlInt

/-- `UPDATE … WHERE id = ?` -/
def updateRow {α : Type} (rows : ℤ → Option α) (id : ℤ) (f : α → Option α) : Option (ℤ → Option α) :=
  match rows id with
  | none => some rows
  | some r => (f r).map (fun r' => Function.update rows id (some r'))

namespace CounterDb

def updateUser (db : CounterDb) (id : ℤ) (f : UserCounters → Option UserCounters) : Option CounterDb :=
  (updateRow db.users id f).map (fun rows => { db with users := rows })

def updateToken (db : CounterDb) (id : ℤ) (f : TokenCounters → Option TokenCounters) : Option CounterDb :=
  (updateRow db.tokens id f).map (fun rows => { db with tokens := rows })

def increaseTokenQuota (db : CounterDb) (id quota : ℤ) : Option CounterDb :=
  db.updateToken id (fun r => do
    let remainQuota ← r.remainQuota.plus quota
    let usedQuota ← r.usedQuota.plus (-quota)
    return ⟨remainQuota,usedQuota⟩)

def decreaseTokenQuota (db : CounterDb) (id quota : ℤ) : Option CounterDb :=
  db.updateToken id (fun r => do
    let remainQuota ← r.remainQuota.plus (-quota)
    let usedQuota ← r.usedQuota.plus quota
    return ⟨remainQuota,usedQuota⟩)

def increaseUserQuota (db : CounterDb) (id quota : ℤ) : Option CounterDb :=
  db.updateUser id (fun r => do
    let q ← r.quota.plus quota
    return { r with quota := q })

def decreaseUserQuota (db : CounterDb) (id quota : ℤ) : Option CounterDb :=
  db.updateUser id (fun r => do
    let q ← r.quota.plus (-quota)
    return { r with quota := q })

def updateUserUsedQuotaAndRequestCount (db : CounterDb) (id quota count : ℤ) : Option CounterDb :=
  db.updateUser id (fun r => do
    let usedQuota ← r.usedQuota.plus quota
    let requestCount ← r.requestCount.plus count
    return { r with usedQuota := usedQuota, requestCount := requestCount })

def updateUserQuotaUsedQuotaAndRequestCount (db : CounterDb) (id quota usedQuota requestCount : ℤ) :
    Option CounterDb :=
  if quota = 0 ∧ usedQuota = 0 ∧ requestCount = 0 then some db else
  db.updateUser id (fun r => do
    let q ← r.quota.plus quota
    let u ← r.usedQuota.plus usedQuota
    let c ← r.requestCount.plus requestCount
    return ⟨q,u,c⟩)

def updateUserUsedQuota (db : CounterDb) (id quota : ℤ) : Option CounterDb :=
  db.updateUser id (fun r => do
    let usedQuota ← r.usedQuota.plus quota
    return { r with usedQuota := usedQuota })

def updateUserRequestCount (db : CounterDb) (id count : ℤ) : Option CounterDb :=
  db.updateUser id (fun r => do
    let requestCount ← r.requestCount.plus count
    return { r with requestCount := requestCount })

def updateChannelUsedQuota (db : CounterDb) (id quota : ℤ) : Option CounterDb :=
  (updateRow db.channels id (fun r => r.plus quota)).map (fun rows => { db with channels := rows })

end CounterDb

/-! ## One view of all counters -/

inductive Column
  | quota
  | usedQuota
  | requestCount
  | remainQuota
  | tokenUsedQuota
  | channelUsedQuota
deriving Repr, DecidableEq

/-- The kind of record that a counter collects. -/
def Column.type : Column → BatchUpdateType
  | .quota => .userQuota
  | .usedQuota => .usedQuota
  | .requestCount => .requestCount
  | .remainQuota | .tokenUsedQuota => .tokenQuota
  | .channelUsedQuota => .channelUsedQuota

/-- A token's used quota falls by what its remaining quota gains. -/
def Column.sign : Column → ℤ
  | .tokenUsedQuota => -1
  | _ => 1

/-- By how much a record changes a counter. -/
def Column.change (c : Column) (type : BatchUpdateType) (value : ℤ) : ℤ :=
  if c.type = type then c.sign*value else 0

def CounterDb.value (db : CounterDb) (c : Column) (id : ℤ) : Option ℤ :=
  match c with
  | .quota => (db.users id).map (fun r => r.quota.val)
  | .usedQuota => (db.users id).map (fun r => r.usedQuota.val)
  | .requestCount => (db.users id).map (fun r => r.requestCount.val)
  | .remainQuota => (db.tokens id).map (fun r => r.remainQuota.val)
  | .tokenUsedQuota => (db.tokens id).map (fun r => r.usedQuota.val)
  | .channelUsedQuota => (db.channels id).map (fun r => r.val)

/-- Every counter of `db'` is that of `db` shifted by `d`. -/
def Shifted (d : Column → ℤ → ℤ) (db db' : CounterDb) : Prop :=
  ∀ c i, db'.value c i = (db.value c i).map (fun v => v+d c i)

/-- The shift that one record of a kind is for. -/
def recordShift (type : BatchUpdateType) (id value : ℤ) : Column → ℤ → ℤ :=
  fun c i => if i=id then c.change type value else 0

@[simp] lemma change_zero (c : Column) (type : BatchUpdateType) : c.change type 0 = 0 := by
  simp [Column.change]

lemma SqlInt.plus_spec {a b : SqlInt} {d : ℤ} (h : a.plus d = some b) : b.val=a.val+d := by
  unfold SqlInt.plus at h
  split_ifs at h
  obtain rfl := Option.some.inj h
  rfl

section Shifts
variable {db db' db'' : CounterDb} {d e : Column → ℤ → ℤ} {id quota usedQuota requestCount : ℤ}

lemma Shifted.refl (db : CounterDb) : Shifted (fun _ _ => 0) db db := by
  intro c i
  simp

lemma Shifted.trans (h : Shifted d db db') (h' : Shifted e db' db'') :
    Shifted (fun c i => d c i+e c i) db db'' := by
  intro c i
  rw [h' c i,h c i,Option.map_map]
  congr 1
  funext v
  simp [add_assoc]

/-- A column whose value every updated row shifts by `x`. -/
lemma updateRow_map {α : Type} {rows rows' : ℤ → Option α} {f : α → Option α} {g : α → ℤ} {x : ℤ}
    (hf : ∀ r r', f r = some r' → g r'=g r+x) (h : updateRow rows id f = some rows') (i : ℤ) :
    (rows' i).map g = ((rows i).map g).map (fun v => v+if i=id then x else 0) := by
  unfold updateRow at h
  by_cases hi : i=id
  · subst hi
    cases hr : rows i with
    | none =>
      simp only [hr,Option.some.injEq] at h
      subst h
      simp [hr]
    | some r =>
      simp only [hr] at h
      obtain ⟨r',hr',rfl⟩ := Option.map_eq_some_iff.mp h
      simp [hf r r' hr']
  · simp only [if_neg hi,add_zero,Option.map_id']
    cases hr : rows id with
    | none =>
      simp only [hr,Option.some.injEq] at h
      rw [h]
    | some r =>
      simp only [hr] at h
      obtain ⟨r',-,rfl⟩ := Option.map_eq_some_iff.mp h
      simp [hi]

lemma updateUser_shifted {f : UserCounters → Option UserCounters} (quota usedQuota requestCount : ℤ)
    (hf : ∀ r r', f r = some r' → r'.quota.val=r.quota.val+quota ∧ r'.usedQuota.val=r.usedQuota.val+usedQuota ∧
      r'.requestCount.val=r.requestCount.val+requestCount) (h : db.updateUser id f = some db') :
    Shifted (fun c i => if i=id then c.change .userQuota quota+c.change .usedQuota usedQuota+
      c.change .requestCount requestCount else 0) db db' := by
  obtain ⟨rows,hrows,rfl⟩ := Option.map_eq_some_iff.mp h
  intro c i
  cases c with
  | quota =>
    have hmap := updateRow_map (g := fun r => r.quota.val) (fun r r' hr => (hf r r' hr).1) hrows i
    simpa [CounterDb.value,Column.change,Column.type,Column.sign] using hmap
  | usedQuota =>
    have hmap := updateRow_map (g := fun r => r.usedQuota.val) (fun r r' hr => (hf r r' hr).2.1) hrows i
    simpa [CounterDb.value,Column.change,Column.type,Column.sign] using hmap
  | requestCount =>
    have hmap := updateRow_map (g := fun r => r.requestCount.val) (fun r r' hr => (hf r r' hr).2.2) hrows i
    simpa [CounterDb.value,Column.change,Column.type,Column.sign] using hmap
  | _ => simp [CounterDb.value,Column.change,Column.type,Function.comp_def]

lemma updateToken_shifted {f : TokenCounters → Option TokenCounters}
    (hf : ∀ r r', f r = some r' → r'.remainQuota.val=r.remainQuota.val+quota ∧
      r'.usedQuota.val=r.usedQuota.val+-quota) (h : db.updateToken id f = some db') :
    Shifted (recordShift .tokenQuota id quota) db db' := by
  obtain ⟨rows,hrows,rfl⟩ := Option.map_eq_some_iff.mp h
  intro c i
  cases c with
  | remainQuota =>
    have hmap := updateRow_map (g := fun r => r.remainQuota.val) (fun r r' hr => (hf r r' hr).1) hrows i
    simpa [CounterDb.value,recordShift,Column.change,Column.type,Column.sign] using hmap
  | tokenUsedQuota =>
    have hmap := updateRow_map (g := fun r => r.usedQuota.val) (fun r r' hr => (hf r r' hr).2) hrows i
    simpa [CounterDb.value,recordShift,Column.change,Column.type,Column.sign] using hmap
  | _ => simp [CounterDb.value,recordShift,Column.change,Column.type,Function.comp_def]

lemma updateChannelUsedQuota_shifted (h : db.updateChannelUsedQuota id quota = some db') :
    Shifted (recordShift .channelUsedQuota id quota) db db' := by
  obtain ⟨rows,hrows,rfl⟩ := Option.map_eq_some_iff.mp h
  intro c i
  cases c with
  | channelUsedQuota =>
    have hmap := updateRow_map (g := Subtype.val) (fun r r' hr => SqlInt.plus_spec hr) hrows i
    simpa [CounterDb.value,recordShift,Column.change,Column.type,Column.sign] using hmap
  | _ => simp [CounterDb.value,recordShift,Column.change,Column.type,Function.comp_def]

lemma increaseTokenQuota_shifted (h : db.increaseTokenQuota id quota = some db') :
    Shifted (recordShift .tokenQuota id quota) db db' := by
  refine updateToken_shifted ?_ h
  intro r r' hr
  simp only [Option.bind_eq_bind,Option.bind_eq_some_iff,Option.pure_def,Option.some.injEq] at hr
  obtain ⟨a,ha,b,hb,rfl⟩ := hr
  exact ⟨SqlInt.plus_spec ha,SqlInt.plus_spec hb⟩

lemma decreaseTokenQuota_shifted (h : db.decreaseTokenQuota id quota = some db') :
    Shifted (recordShift .tokenQuota id (-quota)) db db' := by
  refine updateToken_shifted ?_ h
  intro r r' hr
  simp only [Option.bind_eq_bind,Option.bind_eq_some_iff,Option.pure_def,Option.some.injEq] at hr
  obtain ⟨a,ha,b,hb,rfl⟩ := hr
  exact ⟨SqlInt.plus_spec ha,by rw [SqlInt.plus_spec hb,neg_neg]⟩

lemma updateUserQuotaUsedQuotaAndRequestCount_shifted
    (h : db.updateUserQuotaUsedQuotaAndRequestCount id quota usedQuota requestCount = some db') :
    Shifted (fun c i => if i=id then c.change .userQuota quota+c.change .usedQuota usedQuota+
      c.change .requestCount requestCount else 0) db db' := by
  unfold CounterDb.updateUserQuotaUsedQuotaAndRequestCount at h
  split_ifs at h with hz
  · obtain ⟨rfl,rfl,rfl⟩ := hz
    obtain rfl := Option.some.inj h
    simpa using Shifted.refl db
  · refine updateUser_shifted _ _ _ ?_ h
    intro r r' hr
    simp only [Option.bind_eq_bind,Option.bind_eq_some_iff,Option.pure_def,Option.some.injEq] at hr
    obtain ⟨a,ha,b,hb,n,hn,rfl⟩ := hr
    exact ⟨SqlInt.plus_spec ha,SqlInt.plus_spec hb,SqlInt.plus_spec hn⟩

lemma Shifted.congr (h : Shifted d db db') (hd : ∀ c i, d c i=e c i) : Shifted e db db' := by
  intro c i
  rw [h c i]
  simp only [hd]

lemma increaseUserQuota_shifted (h : db.increaseUserQuota id quota = some db') :
    Shifted (recordShift .userQuota id quota) db db' := by
  refine (updateUser_shifted quota 0 0 ?_ h).congr (by simp [recordShift])
  intro r r' hr
  simp only [Option.bind_eq_bind,Option.bind_eq_some_iff,Option.pure_def,Option.some.injEq] at hr
  obtain ⟨a,ha,rfl⟩ := hr
  simpa using SqlInt.plus_spec ha

lemma decreaseUserQuota_shifted (h : db.decreaseUserQuota id quota = some db') :
    Shifted (recordShift .userQuota id (-quota)) db db' := by
  refine (updateUser_shifted (-quota) 0 0 ?_ h).congr (by simp [recordShift])
  intro r r' hr
  simp only [Option.bind_eq_bind,Option.bind_eq_some_iff,Option.pure_def,Option.some.injEq] at hr
  obtain ⟨a,ha,rfl⟩ := hr
  simpa using SqlInt.plus_spec ha

lemma updateUserUsedQuota_shifted (h : db.updateUserUsedQuota id quota = some db') :
    Shifted (recordShift .usedQuota id quota) db db' := by
  refine (updateUser_shifted 0 quota 0 ?_ h).congr (by simp [recordShift])
  intro r r' hr
  simp only [Option.bind_eq_bind,Option.bind_eq_some_iff,Option.pure_def,Option.some.injEq] at hr
  obtain ⟨a,ha,rfl⟩ := hr
  simpa using SqlInt.plus_spec ha

lemma updateUserRequestCount_shifted (h : db.updateUserRequestCount id quota = some db') :
    Shifted (recordShift .requestCount id quota) db db' := by
  refine (updateUser_shifted 0 0 quota ?_ h).congr (by simp [recordShift])
  intro r r' hr
  simp only [Option.bind_eq_bind,Option.bind_eq_some_iff,Option.pure_def,Option.some.injEq] at hr
  obtain ⟨a,ha,rfl⟩ := hr
  simpa using SqlInt.plus_spec ha

end Shifts

end Counters
end Tierflow
