import Tierflow.Foundation.Keyed

/-! Mailed verification codes. The map of pending codes is swept when it has grown too large; what a
code is good for depends on the last thing that was done to its own key and nothing else. -/
namespace Tierflow.Users

/-- What a code was sent for; its text is put before the key. -/
inductive VerificationPurpose
  | email
  | passwordReset
  deriving DecidableEq, Repr

def VerificationPurpose.text : VerificationPurpose → String
  | .email => "v"
  | .passwordReset => "r"

/-- A code and the time of its registration, in nanoseconds. -/
structure VerificationValue where
  code : String
  time : ℤ
  deriving DecidableEq, Repr

abbrev VerificationMap := Keyed String VerificationValue

section
variable (validMinutes : ℤ) (maxSize : ℕ)

/-- `int(now.Sub(t).Seconds()) >= VerificationValidMinutes*60` -/
def verificationExpired (now : ℤ) (v : VerificationValue) : Bool :=
  decide (validMinutes*60 ≤ (now-v.time).tdiv 1000000000)

def removeExpiredPairs (m : VerificationMap) (now : ℤ) : VerificationMap :=
  m.deleteWhere (fun r => verificationExpired validMinutes now r.2)

def registerVerificationCodeWithKey (m : VerificationMap) (now : ℤ) (key code : String)
    (purpose : VerificationPurpose) : VerificationMap :=
  let m' := m.put (purpose.text++key) ⟨code,now⟩
  if maxSize < m'.rows.length then removeExpiredPairs validMinutes m' now else m'

def verifyCodeWithKey (m : VerificationMap) (now : ℤ) (key code : String) (purpose : VerificationPurpose) : Bool :=
  match m.find? (purpose.text++key) with
  | none => false
  | some v => if verificationExpired validMinutes now v then false else decide (code=v.code)

def deleteKey (m : VerificationMap) (key : String) (purpose : VerificationPurpose) : VerificationMap :=
  m.erase (purpose.text++key)

inductive VerificationOp
  | register (key code : String) (purpose : VerificationPurpose)
  | delete (key : String) (purpose : VerificationPurpose)
  deriving DecidableEq, Repr

/-- The map after a history, newest entry first. -/
def verificationMap : List (ℤ × VerificationOp) → VerificationMap
  | [] => Keyed.empty
  | (now,.register key code purpose)::h =>
    registerVerificationCodeWithKey validMinutes maxSize (verificationMap h) now key code purpose
  | (_,.delete key purpose)::h => deleteKey (verificationMap h) key purpose

end

/-! ## Without the sweep -/

/-- The code that the last entry for this very key and purpose has left. -/
def lastRegistered (key : String) (purpose : VerificationPurpose) : List (ℤ × VerificationOp) → Option VerificationValue
  | [] => none
  | (now,.register k code p)::h => if p=purpose ∧ k=key then some ⟨code,now⟩ else lastRegistered key purpose h
  | (_,.delete k p)::h => if p=purpose ∧ k=key then none else lastRegistered key purpose h

lemma text_append_eq_iff {p q : VerificationPurpose} {k j : String} : p.text++k = q.text++j ↔ p=q ∧ k=j := by
  constructor
  · intro h
    have hl := congrArg String.toList h
    rw [String.toList_append,String.toList_append] at hl
    cases p <;> cases q <;> simp_all [VerificationPurpose.text,String.toList_inj]
  · rintro ⟨rfl,rfl⟩
    rfl

section
variable {validMinutes : ℤ} {maxSize : ℕ} {now later : ℤ}

lemma verificationExpired_mono (hl : now≤later) {v : VerificationValue}
    (h : verificationExpired validMinutes now v = true) : verificationExpired validMinutes later v = true := by
  unfold verificationExpired at *
  rw [decide_eq_true_eq] at *
  exact h.trans (Int.tdiv_le_tdiv (by decide) (by omega))

/-- The entry of a map that is still good for something at `now`. -/
def liveCode (validMinutes now : ℤ) (v : Option VerificationValue) : Option VerificationValue :=
  v.filter (fun v => !verificationExpired validMinutes now v)

/-- A sweep in the past is not noticed. -/
lemma liveCode_swept (hl : now≤later) (v : Option VerificationValue) :
    liveCode validMinutes later (liveCode validMinutes now v) = liveCode validMinutes later v := by
  unfold liveCode
  rw [Option.filter_filter]
  congr 1
  funext v
  cases hn : verificationExpired validMinutes now v with
  | false => simp
  | true => simp [verificationExpired_mono hl hn]

lemma find?_register (m : VerificationMap) (key code : String) (purpose : VerificationPurpose) (hl : now≤later)
    (slot : String) : liveCode validMinutes later
      ((registerVerificationCodeWithKey validMinutes maxSize m now key code purpose).find? slot) =
        liveCode validMinutes later (if slot = purpose.text++key then some ⟨code,now⟩ else m.find? slot) := by
  have hput : (m.put (purpose.text++key) ⟨code,now⟩).find? slot =
      if slot = purpose.text++key then some ⟨code,now⟩ else m.find? slot := by
    rw [Keyed.find?_put]
    simp only [beq_iff_eq]
  unfold registerVerificationCodeWithKey
  dsimp only
  rw [←hput]
  by_cases hsize : maxSize < (m.put (purpose.text++key) ⟨code,now⟩).rows.length
  · rw [if_pos hsize,removeExpiredPairs,Keyed.find?_deleteWhere]
    exact liveCode_swept hl _
  · rw [if_neg hsize]

/-- The map and the history agree on everything that has not expired. -/
lemma liveCode_verificationMap {h : List (ℤ × VerificationOp)} (hs : ∀e∈h,e.1≤now) (key : String)
    (purpose : VerificationPurpose) :
    liveCode validMinutes now ((verificationMap validMinutes maxSize h).find? (purpose.text++key)) =
      liveCode validMinutes now (lastRegistered key purpose h) := by
  induction h with
  | nil => rfl
  | cons e h ih =>
    have hrest := ih (fun e he => hs e (List.mem_cons_of_mem _ he))
    have he : e.1≤now := hs e (by simp)
    obtain ⟨t,op⟩ := e
    cases op with
    | register k c p =>
      rw [verificationMap,find?_register _ k c p he,lastRegistered]
      simp only [text_append_eq_iff,eq_comm (a := purpose),eq_comm (a := key)]
      split_ifs
      · rfl
      · exact hrest
    | delete k p =>
      rw [verificationMap,deleteKey,Keyed.find?_erase,lastRegistered]
      simp only [beq_iff_eq,text_append_eq_iff,eq_comm (a := purpose),eq_comm (a := key)]
      split_ifs
      · rfl
      · exact hrest

end

/-- A code is accepted exactly when the last entry in the history for this very key and purpose is the
registration of that code, and the registration has not expired. No sweep and no traffic on other keys
or for the other purpose makes a difference. -/
theorem verifyCodeWithKey_iff (validMinutes : ℤ) (maxSize : ℕ) {now : ℤ} {h : List (ℤ × VerificationOp)}
    (hs : ∀e∈h,e.1≤now) (key code : String) (purpose : VerificationPurpose) :
    verifyCodeWithKey validMinutes (verificationMap validMinutes maxSize h) now key code purpose = true ↔
      ∃t,lastRegistered key purpose h = some ⟨code,t⟩ ∧ (now-t).tdiv 1000000000<validMinutes*60 := by
  have hlive : liveCode validMinutes now ((verificationMap validMinutes maxSize h).find? (purpose.text++key)) =
      liveCode validMinutes now (lastRegistered key purpose h) := liveCode_verificationMap hs key purpose
  have hv : ∀m : VerificationMap,verifyCodeWithKey validMinutes m now key code purpose = true ↔
      ∃t,liveCode validMinutes now (m.find? (purpose.text++key)) = some ⟨code,t⟩ := by
    intro m
    unfold verifyCodeWithKey liveCode
    cases m.find? (purpose.text++key) with
    | none => simp
    | some v =>
      obtain ⟨c,t⟩ := v
      dsimp only
      rw [Option.filter_some]
      cases verificationExpired validMinutes now ⟨c,t⟩ with
      | true => simp
      | false => simp [eq_comm]
  rw [hv,hlive]
  simp only [liveCode,Option.filter_eq_some_iff,verificationExpired,Bool.not_eq_true',decide_eq_false_iff_not,not_le]

/-- The second key makes this map too large, and its sweep leaves the first code in force. -/
theorem verifyCodeWithKey_iff_swept : verifyCodeWithKey 10 (verificationMap 10 1
    [(5,.register "b" "2" .email),(3,.register "a" "9" .passwordReset),(2,.register "a" "1" .email)]) 7 "a" "1" .email =
      true :=
  (verifyCodeWithKey_iff 10 1 (by decide) "a" "1" .email).mpr ⟨2,by decide,by decide⟩

end Tierflow.Users
