import Tierflow.Foundation.Tasks

/-! One limited token under the charges of requests, which are increments, and under checks and edits, which
read the whole row and write parts of it back. -/
namespace Tierflow
open TxSystem TaskSystem
namespace Tokens

/-! ## The row -/

def tokenStatusEnabled : ℤ := 1
def tokenStatusExpired : ℤ := 3
def tokenStatusExhausted : ℤ := 4

/-- A row of `tokens`, without its keys. Clients may store any status. -/
structure TokenRow where
  status : ℤ
  name : String
  accessedTime : ℤ
  /-- `-1` for a token that never expires. -/
  expiredTime : ℤ
  remainQuota : ℤ
  unlimitedQuota : Bool
  modelLimitsEnabled : Bool
  modelLimits : String
  allowIps : Option String
  usedQuota : ℤ
  group : String
  crossGroupRetry : Bool
  userSubscriptionId : ℕ
  deriving DecidableEq, Repr

/-- `Token.Update` writes these columns of the struct, whatever their values. -/
def TokenRow.update (row token : TokenRow) : TokenRow :=
  { row with
    name := token.name, status := token.status, expiredTime := token.expiredTime
    remainQuota := token.remainQuota, unlimitedQuota := token.unlimitedQuota
    modelLimitsEnabled := token.modelLimitsEnabled, modelLimits := token.modelLimits
    allowIps := token.allowIps, group := token.group, crossGroupRetry := token.crossGroupRetry }

def TokenRow.selectUpdate (row token : TokenRow) : TokenRow :=
  { row with accessedTime := token.accessedTime, status := token.status }

/-- The test of `ValidateUserToken`. -/
def TokenRow.Expired (row : TokenRow) (now : ℤ) : Prop := row.expiredTime≠-1 ∧ row.expiredTime<now

instance (row : TokenRow) (now : ℤ) : Decidable (row.Expired now) := inferInstanceAs (Decidable (_∧_))

/-! ## Requests and their statements -/

inductive QuotaCall
  | increaseTokenQuota (quota : ℤ)
  | decreaseTokenQuota (quota : ℤ)
  deriving DecidableEq, Repr

/-- What a call adds to the remaining quota; a negative quota is refused. -/
def QuotaCall.amount : QuotaCall → Option ℤ
  | .increaseTokenQuota quota => if quota<0 then none else some quota
  | .decreaseTokenQuota quota => if quota<0 then none else some (-quota)

/-- The fields of the body of an edit that a change of status reads. -/
structure TokenEdit where
  name : String
  status : ℤ
  remainQuota : ℤ
  unlimitedQuota : Bool
  deriving DecidableEq, Repr

inductive TokenRequest
  /-- A relayed request or a background task, by the calls that it makes in turn. -/
  | inFlight (calls : List QuotaCall)
  /-- An edit with `status_only` set. -/
  | updateToken (edit : TokenEdit)
  | disableModelLimits
  | validateUserToken
  | wait (seconds : ℕ)
  deriving DecidableEq, Repr

/-- The rest of a request: its further calls, or the write-back of a row that it read. -/
inductive TokenTask
  | inFlight (call : QuotaCall) (calls : List QuotaCall)
  | update (token : TokenRow) (byOwner : Bool)
  | selectUpdate (token : TokenRow)
  deriving DecidableEq, Repr

inductive TokenEvent
  /-- A call changed the remaining quota. -/
  | charged (amount : ℤ)
  /-- An edit of the owner stored a status. -/
  | ownerSet (status : ℤ)
  deriving DecidableEq, Repr

structure TokenState where
  row : TokenRow
  now : ℤ
  deriving DecidableEq, Repr

/-- The verdict on a token as it was read, and the status that is to be stored. -/
def validateUserToken (now : ℤ) (token : TokenRow) : Bool × Option ℤ :=
  if token.status≠tokenStatusEnabled then (false,none)
  else if token.Expired now then (false,some tokenStatusExpired)
  else if token.unlimitedQuota = false ∧ token.remainQuota≤0 then (false,some tokenStatusExhausted)
  else (true,none)

/-- The row that an edit of the status writes back, unless it is refused. -/
def updateToken (maxQuotaValue now : ℤ) (edit : TokenEdit) (cleanToken : TokenRow) : Option TokenRow :=
  if 50<edit.name.utf8ByteSize then none
  else if edit.unlimitedQuota = false ∧ (edit.remainQuota<0 ∨ maxQuotaValue<edit.remainQuota) then none
  else if 0 < cleanToken.userSubscriptionId then none
  else if edit.status=tokenStatusEnabled ∧
      (cleanToken.status=tokenStatusExpired ∧ cleanToken.expiredTime≤now ∧ cleanToken.expiredTime≠-1 ∨
        cleanToken.status=tokenStatusExhausted ∧ cleanToken.remainQuota≤0 ∧ cleanToken.unlimitedQuota = false) then none
  else some { cleanToken with status := edit.status }

def startCalls : List QuotaCall → List TokenTask
  | [] => []
  | call::calls => [.inFlight call calls]

def startToken (maxQuotaValue : ℤ) (s : TokenState) : TokenRequest → TokenState × List TokenTask × List TokenEvent
  | .inFlight calls => (s,startCalls calls,[])
  | .updateToken edit => (s,((updateToken maxQuotaValue s.now edit s.row).map (TokenTask.update · true)).toList,[])
  | .disableModelLimits => (s,[.update { s.row with modelLimitsEnabled := false, modelLimits := "" } false],[])
  | .validateUserToken =>
    (s,((validateUserToken s.now s.row).2.map (fun n => TokenTask.selectUpdate { s.row with status := n })).toList,[])
  | .wait seconds => ({ s with now := s.now+seconds },[],[])

def advanceToken (s : TokenState) : TokenTask → TokenState × List TokenTask × List TokenEvent
  | .inFlight call calls =>
    match call.amount with
    | none => (s,startCalls calls,[])
    | some n =>
      ({ s with row := { s.row with remainQuota := s.row.remainQuota+n, usedQuota := s.row.usedQuota-n,
                                    accessedTime := s.now } },startCalls calls,[.charged n])
  | .update token byOwner =>
    ({ s with row := s.row.update token },[],if byOwner then [.ownerSet token.status] else [])
  | .selectUpdate token => ({ s with row := s.row.selectUpdate token },[],[])

def tokenSystem (maxQuotaValue : ℤ) : TaskSystem TokenState TokenTask TokenRequest TokenEvent where
  start := startToken maxQuotaValue
  advance := advanceToken

/-! ## What a run is to keep -/

def TokenEvent.amount : TokenEvent → ℤ
  | .charged amount => amount
  | .ownerSet _ => 0

/-- The remaining quota is the first one and all charges, and what was spent is counted as used. -/
def Balanced (row0 row : TokenRow) (h : List TokenEvent) : Prop :=
  row.remainQuota=row0.remainQuota+(h.map TokenEvent.amount).sum ∧
    row.remainQuota+row.usedQuota=row0.remainQuota+row0.usedQuota

/-- The status that the owner last stored, at first that of the row. -/
def ownerStatus (row0 : TokenRow) : List TokenEvent → ℤ
  | [] => row0.status
  | .ownerSet status::_ => status
  | .charged _::h => ownerStatus row0 h

def TokenTask.isInFlight : TokenTask → Bool
  | .inFlight _ _ => true
  | _ => false

/-- When all is done the quota adds up, and while no request is in flight the owner's word counts for a token
with time and quota left. -/
def ChargesSurvive (row0 : TokenRow) (c : Config TokenState TokenTask TokenEvent) : Prop :=
  (c.state.tasks=[] → Balanced row0 c.state.shared.row c.history) ∧
  ((∀ t∈c.state.tasks, t.isInFlight = false) → ownerStatus row0 c.history = tokenStatusEnabled →
    ¬c.state.shared.row.Expired c.state.shared.now → 0 < c.state.shared.row.remainQuota →
    (validateUserToken c.state.shared.now c.state.shared.row).1 = true)

/-- A row is written back only over the quota that was read, and over the status that was read unless the
owner chose it; a token is stored as exhausted only while it has no quota, and given quota again only under
another status. -/
def KeepsCharges (s : TokenState) (_ : List TokenTask) : TokenTask → Prop
  | .inFlight call _ => ∀ n∈call.amount, s.row.status=tokenStatusExhausted → s.row.remainQuota≤0 → s.row.remainQuota+n≤0
  | .update token byOwner => token.remainQuota=s.row.remainQuota ∧ (byOwner = false → token.status=s.row.status)
  | .selectUpdate token => token.status=tokenStatusExhausted → s.row.remainQuota≤0

instance (s : TokenState) (ts : List TokenTask) : ∀ t, Decidable (KeepsCharges s ts t)
  | .inFlight call _ => inferInstanceAs (Decidable (∀ n∈call.amount, _))
  | .update _ _ => inferInstanceAs (Decidable (_∧_))
  | .selectUpdate _ => inferInstanceAs (Decidable (_→_))

/-! ## The invariant -/

/-- What a pending write-back may hold: the fixed columns of the row, or a status that has its reason. -/
def TokenTask.Sound (row0 : TokenRow) (now : ℤ) : TokenTask → Prop
  | .inFlight _ _ => True
  | .update token _ => token.unlimitedQuota = false ∧ token.expiredTime=row0.expiredTime
  | .selectUpdate token => token.status=tokenStatusExhausted ∨ token.status=tokenStatusExpired ∧ row0.Expired now

/-- A token that its owner enabled is stored as enabled, or there is a reason why not. -/
def Explained (row0 : TokenRow) (now : ℤ) (row : TokenRow) (h : List TokenEvent) : Prop :=
  ownerStatus row0 h = tokenStatusEnabled → ¬row0.Expired now →
    row.status=tokenStatusEnabled ∨ row.status=tokenStatusExhausted ∧ row.remainQuota≤0

structure ChargeInv (row0 : TokenRow) (c : Config TokenState TokenTask TokenEvent) : Prop where
  limited : c.state.shared.row.unlimitedQuota = false
  expiry : c.state.shared.row.expiredTime=row0.expiredTime
  balanced : Balanced row0 c.state.shared.row c.history
  explained : Explained row0 c.state.shared.now c.state.shared.row c.history
  tasks : ∀ t∈c.state.tasks, t.Sound row0 c.state.shared.now

section Steps
variable {row0 row : TokenRow} {s : TokenState} {ts : List TokenTask} {h : List TokenEvent} {now : ℤ}

lemma expired_congr (he : row.expiredTime=row0.expiredTime) : row.Expired now ↔ row0.Expired now := by
  simp only [TokenRow.Expired,he]

lemma Expired_later {later : ℤ} (hl : now≤later) (h : row.Expired now) : row.Expired later :=
  ⟨h.1,lt_of_lt_of_le h.2 hl⟩

lemma TokenTask.Sound.later {t : TokenTask} {later : ℤ} (hl : now≤later) (h : t.Sound row0 now) :
    t.Sound row0 later := by
  cases t with
  | inFlight call calls => trivial
  | update token byOwner => exact h
  | selectUpdate token => exact h.imp_right (fun he => ⟨he.1,Expired_later hl he.2⟩)

lemma startCalls_sound (calls : List QuotaCall) : ∀ t∈startCalls calls, t.Sound row0 now := by
  cases calls with
  | nil => exact fun _ ht => absurd ht List.not_mem_nil
  | cons call calls =>
    intro t ht
    rw [List.mem_singleton.mp ht]
    trivial

/-- A status that a check stores has its reason. -/
lemma validateUserToken_sound {token : TokenRow} {n : ℤ} (he : token.expiredTime=row0.expiredTime)
    (hn : (validateUserToken now token).2=some n) :
    n=tokenStatusExhausted ∨ n=tokenStatusExpired ∧ row0.Expired now := by
  unfold validateUserToken at hn
  split_ifs at hn with h1 h2 h3
  · exact .inr ⟨(Option.some.inj hn).symm,(expired_congr he).mp h2⟩
  · exact .inl (Option.some.inj hn).symm

lemma updateToken_columns {maxQuotaValue : ℤ} {edit : TokenEdit} {cleanToken token : TokenRow}
    (hu : updateToken maxQuotaValue now edit cleanToken=some token) :
    token.unlimitedQuota=cleanToken.unlimitedQuota ∧ token.expiredTime=cleanToken.expiredTime := by
  unfold updateToken at hu
  split_ifs at hu
  cases hu
  exact ⟨rfl,rfl⟩

/-- A request starts with sound tasks, and changes nothing but the time. -/
theorem ChargeInv.start {maxQuotaValue : ℤ} (i : TokenRequest) (hinv : ChargeInv row0 ⟨⟨s,ts⟩,h⟩) :
    let r := startToken maxQuotaValue s i
    ChargeInv row0 ⟨⟨r.1,ts++r.2.1⟩,r.2.2++h⟩ := by
  have keep : ∀ new : List TokenTask, (∀ t∈new, t.Sound row0 s.now) → ChargeInv row0 ⟨⟨s,ts++new⟩,h⟩ := by
    intro new hnew
    refine { hinv with tasks := ?_ }
    intro t ht
    exact (List.mem_append.mp ht).elim (hinv.tasks t) (hnew t)
  cases i with
  | inFlight calls => exact keep _ (startCalls_sound calls)
  | updateToken edit =>
    refine keep _ ?_
    intro t ht
    obtain ⟨token,hu,rfl⟩ := Option.map_eq_some_iff.mp (Option.mem_toList.mp ht)
    obtain ⟨hl,he⟩ := updateToken_columns hu
    exact ⟨hl.trans hinv.limited,he.trans hinv.expiry⟩
  | disableModelLimits =>
    refine keep _ ?_
    intro t ht
    rw [List.mem_singleton.mp ht]
    exact ⟨hinv.limited,hinv.expiry⟩
  | validateUserToken =>
    refine keep _ ?_
    intro t ht
    obtain ⟨n,hn,rfl⟩ := Option.map_eq_some_iff.mp (Option.mem_toList.mp ht)
    exact validateUserToken_sound hinv.expiry hn
  | wait seconds =>
    have hl : s.now ≤ s.now+seconds := by omega
    refine { limited := hinv.limited, expiry := hinv.expiry, balanced := hinv.balanced, explained := ?_, tasks := ?_ }
    · exact fun ho he => hinv.explained ho (fun hx => he (Expired_later hl hx))
    · intro t ht
      rw [startToken,List.append_nil] at ht
      exact (hinv.tasks t ht).later hl

/-- A statement that meets its condition keeps the invariant. -/
theorem ChargeInv.advance {l r : List TokenTask} {t : TokenTask} (hinv : ChargeInv row0 ⟨⟨s,l++t::r⟩,h⟩)
    (ht : KeepsCharges s (l++r) t) :
    let o := advanceToken s t
    ChargeInv row0 ⟨⟨o.1,l++r++o.2.1⟩,o.2.2++h⟩ := by
  have hold : ∀ u∈l++r, u.Sound row0 s.now := by
    intro u hu
    refine hinv.tasks u ?_
    simp only [List.mem_append,List.mem_cons] at hu ⊢
    tauto
  have hself : t.Sound row0 s.now := hinv.tasks t (by simp)
  have hb := hinv.balanced
  have hx := hinv.explained
  cases t with
  | inFlight call calls =>
    have htasks : ∀ u∈l++r++startCalls calls, u.Sound row0 s.now := fun u hu =>
      (List.mem_append.mp hu).elim (hold u) (startCalls_sound calls u)
    dsimp only [advanceToken]
    cases hn : call.amount with
    | none => exact { hinv with tasks := htasks }
    | some n =>
      refine { limited := hinv.limited, expiry := hinv.expiry, balanced := ?_, explained := ?_, tasks := htasks }
      · obtain ⟨h1,h2⟩ := hb
        simp only [Balanced,TokenEvent.amount,List.cons_append,List.nil_append,List.map_cons,List.sum_cons] at h1 h2 ⊢
        exact ⟨by linarith,by linarith⟩
      · intro ho he
        refine (hx ho he).imp_right ?_
        rintro ⟨hs,hq⟩
        exact ⟨hs,ht n hn hs hq⟩
  | update token byOwner =>
    obtain ⟨hq,hst⟩ := ht
    refine { limited := hself.1, expiry := hself.2, balanced := ?_, explained := ?_, tasks := ?_ }
    · obtain ⟨h1,h2⟩ := hb
      cases byOwner <;>
        simpa [advanceToken,Balanced,TokenRow.update,hq,TokenEvent.amount] using And.intro h1 h2
    · intro ho he
      cases byOwner with
      | true => exact .inl ho
      | false =>
        dsimp only [advanceToken,TokenRow.update]
        rw [hq,hst rfl]
        exact hx ho he
    · simpa [advanceToken] using hold
  | selectUpdate token =>
    refine { limited := hinv.limited, expiry := hinv.expiry, balanced := hb, explained := ?_, tasks := ?_ }
    · intro ho he
      rcases hself with hs | ⟨-,hexp⟩
      · exact .inr ⟨hs,ht hs⟩
      · exact absurd hexp he
    · simpa [advanceToken] using hold

end Steps

/-- The invariant gives the owner what is asked for. -/
lemma ChargeInv.survive {row0 : TokenRow} {c : Config TokenState TokenTask TokenEvent} (hinv : ChargeInv row0 c) :
    ChargesSurvive row0 c := by
  refine ⟨fun _ => hinv.balanced,?_⟩
  intro _ ho he hq
  have hstatus : c.state.shared.row.status=tokenStatusEnabled := by
    rcases hinv.explained ho (fun hx => he ((expired_congr hinv.expiry).mpr hx)) with hs | ⟨-,hle⟩
    · exact hs
    · exact absurd hle (not_le.mpr hq)
  unfold validateUserToken
  rw [if_neg (not_not.mpr hstatus),if_neg he,if_neg (fun hl => absurd hl.2 (not_le.mpr hq))]

/-- In every run whose write-backs find what they read, and in which no token that a check stored as
exhausted is given quota again, charges survive edits and checks. -/
theorem charges_survive (maxQuotaValue : ℤ) (row : TokenRow) (now : ℤ) (hl : row.unlimitedQuota = false)
    (ops : List (Op TokenRequest))
    (hG : (tokenSystem maxQuotaValue).toTx.Guarded (Each (fun _ _ => True) KeepsCharges) (initial ⟨row,now⟩) ops) :
    (tokenSystem maxQuotaValue).toTx.Always (ChargesSurvive row) (initial ⟨row,now⟩) ops := by
  have h0 : ChargeInv row (initial ⟨row,now⟩) := {
    limited := hl
    expiry := rfl
    balanced := by simp [initial,Balanced]
    explained := fun ho _ => .inl ho
    tasks := fun _ ht => absurd ht List.not_mem_nil }
  refine (always_of_each h0 ?_ ?_ hG).mono (fun c hc => hc.survive)
  · intro s ts h i hinv _
    exact hinv.start i
  · intro s l t r h hinv ht
    exact hinv.advance ht

/-- A token with a hundred units that never expires. -/
def hundred : TokenRow := ⟨tokenStatusEnabled,"t",0,-1,100,false,false,"",none,0,"default",false,0⟩

theorem charges_survive_refund :
    (tokenSystem 1000).toTx.Always (ChargesSurvive hundred) (initial ⟨hundred,5⟩)
      [.start (.inFlight [.decreaseTokenQuota 60,.increaseTokenQuota 20]),.proceed 0,.start .validateUserToken,
        .proceed 0,.start .disableModelLimits,.proceed 0] :=
  charges_survive 1000 hundred 5 rfl _ (by decide)

/-- A change of status reads the row, forty units are spent, and the row is written back. A hundred units are
reserved, a check finds the token without quota and stores it as exhausted, and the hundred are given back. -/
theorem edit_and_check_break_token :
    ¬ChargesSurvive hundred ((tokenSystem 1000).toTx.run (initial ⟨hundred,5⟩)
      [.start (.updateToken ⟨"t",2,100,false⟩),.start (.inFlight [.decreaseTokenQuota 40]),.proceed 1,.proceed 0]) ∧
    ¬ChargesSurvive hundred ((tokenSystem 1000).toTx.run (initial ⟨hundred,5⟩)
      [.start (.inFlight [.decreaseTokenQuota 100,.increaseTokenQuota 100]),.proceed 0,.start .validateUserToken,
        .proceed 1,.proceed 0]) := by
  constructor
  · intro h
    exact absurd (h.1 (by decide)).1 (by decide)
  · intro h
    have haccept := h.2 (by decide) (by decide) (by decide) (by decide)
    exact absurd haccept (by decide)

end Tokens
end Tierflow
