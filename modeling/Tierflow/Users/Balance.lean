import Tierflow.Foundation.Tasks

/-! The balances of one user under requests that change them by increments and requests that read the whole
row and write it back. -/
namespace Tierflow
open TxSystem TaskSystem
namespace Users

/-! ## The row -/

structure UserSetting where
  language : String
  /-- The other settings, as one text. -/
  others : String
  deriving DecidableEq, Repr

/-- The columns that requests read or write; the setting is `none` where the column is empty. -/
structure UserRow where
  status : ℤ
  group : String
  accessToken : Option String
  quota : ℤ
  affCode : String
  affCount : ℤ
  affQuota : ℤ
  affHistoryQuota : ℤ
  setting : Option UserSetting
  deriving DecidableEq, Repr

/-- A column after an update from a struct, which skips zero values. -/
def written {α : Type*} [DecidableEq α] (zero old new : α) : α := if new=zero then old else new

/-- `DB.Model(user).Updates(newUser)`. -/
def UserRow.updates (row newUser : UserRow) : UserRow where
  status := written 0 row.status newUser.status
  group := written "" row.group newUser.group
  accessToken := written none row.accessToken newUser.accessToken
  quota := written 0 row.quota newUser.quota
  affCode := written "" row.affCode newUser.affCode
  affCount := written 0 row.affCount newUser.affCount
  affQuota := written 0 row.affQuota newUser.affQuota
  affHistoryQuota := written 0 row.affHistoryQuota newUser.affHistoryQuota
  setting := written none row.setting newUser.setting

def UserRow.getSetting (row : UserRow) : UserSetting := row.setting.getD ⟨"",""⟩

lemma written_eq_iff {zero old new : ℤ} : written zero old new=old ↔ new=zero ∨ new=old := by
  unfold written
  split_ifs with h <;> simp [h]

/-! ## Requests and their statements -/

structure UserSettings where
  quotaForInviter : ℤ
  quotaPerUnit : ℚ
  batchUpdateEnabled : Bool

/-- The row, and the quota that the batch store still holds for the user. -/
structure UserState where
  row : UserRow
  batch : ℤ
  deriving DecidableEq, Repr

/-- What a completed request adds to the balances. -/
structure Amounts where
  quota : ℤ
  affQuota : ℤ
  affHistoryQuota : ℤ
  deriving DecidableEq, Repr

inductive UserRequest
  | generateAccessToken (key : String)
  | getAffCode (code : String)
  | changeLanguage (language : String)
  | inviteUser
  | transferAffQuotaToQuota (quota : ℤ)
  | increaseUserQuota (quota : ℤ) (db : Bool)
  | decreaseUserQuota (quota : ℤ) (db : Bool)
  | batchUpdate
  deriving DecidableEq, Repr

/-- The rest of a request after its read: the check that a token is new, the write of `User.Update`, the
save of `inviteUser`, and the increment of a batch that was drained. -/
inductive UserTask
  | checkToken (user : UserRow)
  | update (newUser : UserRow)
  | save (user : UserRow)
  | increase (amount : ℤ)
  deriving DecidableEq, Repr

/-- The two functions that change the quota by an amount, at once or through the batch store. -/
def changeQuota (E : UserSettings) (s : UserState) (db : Bool) (delta : ℤ) : UserState :=
  if db = false ∧ E.batchUpdateEnabled then { s with batch := s.batch+delta }
  else { s with row := { s.row with quota := s.row.quota+delta } }

/-- `TransferAffQuotaToQuota`: one transaction that locks the row. -/
def transferAffQuotaToQuota (E : UserSettings) (row : UserRow) (quota : ℤ) : Option UserRow :=
  if (quota : ℚ)<E.quotaPerUnit then none
  else if row.affQuota<quota then none
  else some { row with affQuota := row.affQuota-quota, quota := row.quota+quota }

def startRequest (E : UserSettings) (s : UserState) : UserRequest → UserState × List UserTask × List Amounts
  | .generateAccessToken key => (s,[.checkToken { s.row with accessToken := some key }],[])
  | .getAffCode code =>
    if s.row.affCode="" then (s,[.update { s.row with affCode := code }],[]) else (s,[],[])
  | .changeLanguage language =>
    (s,[.update { s.row with setting := some { s.row.getSetting with language := language } }],[])
  | .inviteUser => (s,[.save s.row],[])
  | .transferAffQuotaToQuota quota =>
    match transferAffQuotaToQuota E s.row quota with
    | none => (s,[],[])
    | some row => ({ s with row := row },[],[⟨quota,-quota,0⟩])
  | .increaseUserQuota quota db =>
    if quota<0 then (s,[],[]) else (changeQuota E s db quota,[],[⟨quota,0,0⟩])
  | .decreaseUserQuota quota db =>
    if quota<0 then (s,[],[]) else (changeQuota E s db (-quota),[],[⟨-quota,0,0⟩])
  | .batchUpdate => ({ s with batch := 0 },[.increase s.batch],[])

def advanceTask (E : UserSettings) (s : UserState) : UserTask → UserState × List UserTask × List Amounts
  | .checkToken user => if s.row.accessToken=user.accessToken then (s,[],[]) else (s,[.update user],[])
  | .update newUser => ({ s with row := s.row.updates newUser },[],[⟨0,0,0⟩])
  | .save user => ({ s with
      row := { user with
        affCount := user.affCount+1
        affQuota := user.affQuota+E.quotaForInviter
        affHistoryQuota := user.affHistoryQuota+E.quotaForInviter } },[],
      [⟨0,E.quotaForInviter,E.quotaForInviter⟩])
  | .increase amount => ({ s with row := { s.row with quota := s.row.quota+amount } },[],[])

def userSystem (E : UserSettings) : TaskSystem UserState UserTask UserRequest Amounts where
  start := startRequest E
  advance := advanceTask E

/-! ## Balances -/

/-- The quota that a task is to write to the row. -/
def UserTask.drained : UserTask → ℤ
  | .increase amount => amount
  | _ => 0

/-- Each balance is its first value and all that completed requests added to it, where quota that is on its
way from the batch store to the row counts as written. -/
def Balanced (row : UserRow) (c : Config UserState UserTask Amounts) : Prop :=
  c.state.shared.row.quota+c.state.shared.batch+(c.state.tasks.map UserTask.drained).sum =
      row.quota+(c.history.map Amounts.quota).sum ∧
  c.state.shared.row.affQuota=row.affQuota+(c.history.map Amounts.affQuota).sum ∧
  c.state.shared.row.affHistoryQuota=row.affHistoryQuota+(c.history.map Amounts.affHistoryQuota).sum

instance (row : UserRow) (c : Config UserState UserTask Amounts) : Decidable (Balanced row c) :=
  inferInstanceAs (Decidable (_∧_))

/-- Writing a value back leaves the column as it is. -/
def Keeps (value held : ℤ) : Prop := value=0 ∨ value=held

instance (value held : ℤ) : Decidable (Keeps value held) := inferInstanceAs (Decidable (_∨_))

/-- A write-back finds the balances that it read; `User.Update` does not write those it read as zero. -/
def Current (s : UserState) (_ : List UserTask) : UserTask → Prop
  | .update newUser => Keeps newUser.quota s.row.quota ∧ Keeps newUser.affQuota s.row.affQuota ∧
      Keeps newUser.affHistoryQuota s.row.affHistoryQuota
  | .save user => user.quota=s.row.quota ∧ user.affQuota=s.row.affQuota ∧
      user.affHistoryQuota=s.row.affHistoryQuota
  | _ => True

instance (s : UserState) (ts : List UserTask) : ∀ t, Decidable (Current s ts t)
  | .update _ => inferInstanceAs (Decidable (_∧_))
  | .save _ => inferInstanceAs (Decidable (_∧_))
  | .checkToken _ => instDecidableTrue
  | .increase _ => instDecidableTrue

section Steps
variable {E : UserSettings} {row : UserRow}

/-- What a step leaves adds up to what it found, given the quota that its task was to write, and what it
completes. -/
def Accounted (s : UserState) (d : ℤ) (r : UserState × List UserTask × List Amounts) : Prop :=
  r.1.row.quota+r.1.batch+(r.2.1.map UserTask.drained).sum=s.row.quota+s.batch+d+(r.2.2.map Amounts.quota).sum ∧
  r.1.row.affQuota=s.row.affQuota+(r.2.2.map Amounts.affQuota).sum ∧
  r.1.row.affHistoryQuota=s.row.affHistoryQuota+(r.2.2.map Amounts.affHistoryQuota).sum

lemma accounted_refl (s : UserState) {ts : List UserTask} (h : (ts.map UserTask.drained).sum=0) :
    Accounted s 0 (s,ts,[]) := by
  refine ⟨?_,?_,?_⟩ <;> simp [h]

lemma accounted_changeQuota (s : UserState) (db : Bool) (delta : ℤ) :
    Accounted s 0 (changeQuota E s db delta,[],[⟨delta,0,0⟩]) := by
  unfold changeQuota
  split_ifs
  · refine ⟨?_,?_,?_⟩ <;> simp
    ring
  · refine ⟨?_,?_,?_⟩ <;> simp
    ring

lemma accounted_transfer {s : UserState} {r : UserRow} {quota : ℤ}
    (h : transferAffQuotaToQuota E s.row quota=some r) :
    Accounted s 0 ({ s with row := r },[],[⟨quota,-quota,0⟩]) := by
  unfold transferAffQuotaToQuota at h
  split_ifs at h
  cases h
  refine ⟨?_,?_,?_⟩ <;> simp
  · ring
  · ring

lemma accounted_start (s : UserState) (i : UserRequest) : Accounted s 0 (startRequest E s i) := by
  cases i with
  | generateAccessToken key => exact accounted_refl s rfl
  | getAffCode code =>
    unfold startRequest
    split_ifs
    · exact accounted_refl s rfl
    · exact accounted_refl s rfl
  | changeLanguage language => exact accounted_refl s rfl
  | inviteUser => exact accounted_refl s rfl
  | transferAffQuotaToQuota quota =>
    simp only [startRequest]
    cases ht : transferAffQuotaToQuota E s.row quota with
    | none => exact accounted_refl s rfl
    | some r => exact accounted_transfer ht
  | increaseUserQuota quota db =>
    simp only [startRequest]
    split_ifs
    · exact accounted_refl s rfl
    · exact accounted_changeQuota s db quota
  | decreaseUserQuota quota db =>
    simp only [startRequest]
    split_ifs
    · exact accounted_refl s rfl
    · exact accounted_changeQuota s db (-quota)
  | batchUpdate => refine ⟨?_,?_,?_⟩ <;> simp [startRequest,UserTask.drained]

/-- A statement accounts for what it does exactly when what it writes back is current. -/
lemma accounted_advance_iff (s : UserState) (ts : List UserTask) (t : UserTask) :
    Accounted s t.drained (advanceTask E s t) ↔ Current s ts t := by
  cases t with
  | checkToken user =>
    refine iff_of_true ?_ trivial
    simp only [advanceTask]
    split_ifs
    · exact accounted_refl s rfl
    · exact accounted_refl s rfl
  | update newUser =>
    simp [Accounted,advanceTask,UserRow.updates,Current,Keeps,←written_eq_iff,UserTask.drained]
  | save user => simp [Accounted,advanceTask,Current,UserTask.drained]
  | increase amount =>
    refine iff_of_true ?_ trivial
    refine ⟨?_,?_,?_⟩ <;> simp [advanceTask,UserTask.drained]
    ring

/-- Balances that were right stay right exactly when the step accounts for what it does. -/
lemma balanced_after_iff {s : UserState} {ts ts' : List UserTask} {h : List Amounts} {d : ℤ}
    (r : UserState × List UserTask × List Amounts) (hd : (ts.map UserTask.drained).sum=(ts'.map UserTask.drained).sum+d)
    (hb : Balanced row ⟨⟨s,ts⟩,h⟩) :
    Balanced row ⟨⟨r.1,ts'++r.2.1⟩,r.2.2++h⟩ ↔ Accounted s d r := by
  obtain ⟨hq,ha,hh⟩ := hb
  simp only at hq ha hh
  simp only [Balanced,Accounted,List.map_append,List.sum_append]
  constructor
  · rintro ⟨h₁,h₂,h₃⟩
    exact ⟨by linarith,by linarith,by linarith⟩
  · rintro ⟨h₁,h₂,h₃⟩
    exact ⟨by linarith,by linarith,by linarith⟩

end Steps

/-- The balances are right throughout a run exactly when every write-back of the run finds the balances that
it read. -/
theorem balanced_iff_current (E : UserSettings) (row : UserRow)
    (ops : List (Op UserRequest)) :
    (userSystem E).toTx.Always (Balanced row) (initial ⟨row,0⟩) ops ↔
      (userSystem E).toTx.Guarded (Each (fun _ _ => True) Current) (initial ⟨row,0⟩) ops := by
  refine always_iff_each ⟨by simp [initial],by simp [initial],by simp [initial]⟩ ?_ ?_
  · intro s ts h i hb
    exact iff_of_true ((balanced_after_iff _ (add_zero _).symm hb).mpr (accounted_start s i)) trivial
  · intro s l t r h hb
    refine (balanced_after_iff _ ?_ hb).trans (accounted_advance_iff s (l++r) t)
    simp only [List.map_append,List.map_cons,List.sum_append,List.sum_cons]
    ring

/-- A user with a quota of a thousand. -/
def thousand : UserRow := ⟨1,"default",none,1000,"ab12",0,0,0,none⟩

def plainSettings : UserSettings := ⟨0,500000,false⟩

/-- A change of language reads the row, four hundred are spent, and the change writes the row back: when all
is done the quota is what it was before. -/
theorem languageChange_restores_quota :
    let c := (userSystem plainSettings).toTx.run (initial ⟨thousand,0⟩)
      [.start (.changeLanguage "en"),.start (.decreaseUserQuota 400 true),.proceed 0]
    c.state.tasks=[] ∧ c.state.shared.batch=0 ∧ c.state.shared.row.quota=1000 ∧
    thousand.quota+(c.history.map Amounts.quota).sum=600 := by
  refine ⟨rfl,rfl,rfl,rfl⟩

end Users
end Tierflow
