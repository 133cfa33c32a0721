import Tierflow.Foundation.Tasks

/-! Two-factor records and backup codes of one user, and the requests that check codes against them. Every
request reads the whole record and later saves it whole. -/
namespace Tierflow
open TxSystem TaskSystem
namespace Users

/-! ## Codes -/

def backupCodeLength : ℕ := 8

def maxFailAttempts : ℕ := 5

/-- `LockoutDuration`, of which the clock counts nanoseconds. -/
def lockoutDuration : ℤ := 300*1000000000

/-- What `strconv.Atoi` accepts: a sign, perhaps, and digits. -/
def isInteger : List Char → Bool
  | '+'::ds | '-'::ds => !ds.isEmpty && ds.all Char.isDigit
  | ds => !ds.isEmpty && ds.all Char.isDigit

/-- `ValidateNumericCode`. -/
def validateNumericCode (code : String) : Option String :=
  let cs := code.toList.filter (· ≠ ' ')
  if cs.length = 6 ∧ isInteger cs = true then some (String.ofList cs) else none

/-- The characters beyond ASCII whose upper case is a letter from A to Z are the dotless i and the long s. -/
def toUpperChar (c : Char) : Char := if c = 'ı' then 'I' else if c = 'ſ' then 'S' else c.toUpper

/-- The code without dashes, in upper case. -/
def cleanBackupCode (code : String) : List Char := (code.toList.filter (· ≠ '-')).map toUpperChar

def isBackupChar (c : Char) : Bool := decide ('A' ≤ c ∧ c ≤ 'Z') || decide ('0' ≤ c ∧ c ≤ '9')

/-- `ValidateBackupCode` of the `common` package. -/
def validateBackupCode (code : String) : Bool :=
  decide ((cleanBackupCode code).length = backupCodeLength) && (cleanBackupCode code).all isBackupChar

/-- `NormalizeBackupCode`. -/
def normalizeBackupCode (code : String) : String :=
  let cs := cleanBackupCode code
  if cs.length = backupCodeLength then String.ofList (cs.take 4 ++ '-'::cs.drop 4) else code

/-! ## Rows -/

structure TwoFA where
  secret : String
  isEnabled : Bool
  failedAttempts : ℤ
  lockedUntil : Option ℤ
  lastUsedAt : Option ℤ
  deriving DecidableEq, Repr

/-- A backup code; `deleted` is the mark of a soft deletion. -/
structure BackupCode where
  id : ℕ
  codeHash : String
  isUsed : Bool
  usedAt : Option ℤ
  deleted : Bool
  deriving DecidableEq, Repr

/-- The clock, the two-factor record, the backup codes and the next id of a backup code. -/
structure TwoFactorState where
  now : ℤ
  twoFA : Option TwoFA
  codes : List BackupCode
  nextId : ℕ
  deriving DecidableEq, Repr

/-- The libraries that check a code of six digits against a secret at a moment, and a backup code against a
hash. -/
structure Validators where
  validateTOTP : String → String → ℤ → Bool
  validatePasswordAndHash : String → String → Bool

/-- `IsLocked`. -/
def TwoFA.isLocked (t : TwoFA) (now : ℤ) : Bool := t.lockedUntil.elim false (fun u => decide (now<u))

/-- `IncrementFailedAttempts` before its save. -/
def TwoFA.incrementFailedAttempts (t : TwoFA) (now : ℤ) : TwoFA :=
  { t with
    failedAttempts := t.failedAttempts+1
    lockedUntil := if (maxFailAttempts : ℤ)≤t.failedAttempts+1 then some (now+lockoutDuration) else t.lockedUntil }

/-- The record after a code was accepted, before its save. -/
def TwoFA.usedAt (t : TwoFA) (now : ℤ) : TwoFA :=
  { t with failedAttempts := 0, lockedUntil := none, lastUsedAt := some now }

/-- `DB.Save` of a backup code: an update of the live row, or an insertion that overwrites the row of that id. -/
def saveRow (codes : List BackupCode) (bc : BackupCode) : List BackupCode :=
  if codes.any (fun row => row.id = bc.id) then
    codes.map (fun row => if row.id = bc.id then { bc with deleted := false } else row)
  else codes++[{ bc with deleted := false }]

/-- The rows of new codes, numbered from an id on. -/
def newRows (nextId : ℕ) (hashes : List String) : List BackupCode :=
  hashes.zipIdx.map (fun h => ⟨nextId+h.2,h.1,false,none,false⟩)

/-! ## Requests and their statements -/

/-- What a code is given for; a regeneration brings the hashes of the new codes. -/
inductive Purpose
  | login
  | disable
  | regenerate (hashes : List String)
  deriving DecidableEq, Repr

inductive TwoFactorRequest
  | verify (p : Purpose) (code : String)
  /-- `DisableTwoFA` by itself. -/
  | disableTwoFA
  /-- Time passes. -/
  | tick (d : ℕ)
  deriving DecidableEq, Repr

/-- How a request goes on after it saved the record. -/
inductive AfterSave
  | reject
  | tryBackup (p : Purpose) (code : String)
  | accept (p : Purpose)
  deriving DecidableEq, Repr

/-- What is left of a request: a code to be evaluated with the record that was read, a record or a backup code
to be saved (`base` is the record as it was read or last saved by the request), the read and the transaction
of `DisableTwoFA`, the transaction of `CreateBackupCodes`. -/
inductive TwoFactorTask
  | check (t : TwoFA) (p : Purpose) (code : String)
  | checkBackup (t : TwoFA) (p : Purpose) (code : String)
  | save (base new : TwoFA) (k : AfterSave)
  | saveCode (bc : BackupCode) (t : TwoFA) (p : Purpose)
  | disableTwoFA
  | delete
  | createBackupCodes (hashes : List String)
  deriving DecidableEq, Repr

inductive TwoFactorEvent
  | wrong (moment : ℤ)
  | accepted
  | backupAccepted (id : ℕ)
  | disabled
  /-- New codes have ids from this one on. -/
  | regenerated (firstId : ℕ)
  deriving DecidableEq, Repr

abbrev TwoFactorOutcome := TwoFactorState × List TwoFactorTask × List TwoFactorEvent

def startTwoFactor (s : TwoFactorState) : TwoFactorRequest → TwoFactorOutcome
  | .verify p code =>
    match s.twoFA with
    | none => (s,[],[])
    | some t => if t.isEnabled then (s,[.check t p code],[]) else (s,[],[])
  | .disableTwoFA => (s,[.disableTwoFA],[])
  | .tick d => ({ s with now := s.now+d },[],[])

/-- The way to the backup codes, which a regeneration does not take. -/
def Purpose.fallback (p : Purpose) (t : TwoFA) (code : String) : List TwoFactorTask :=
  match p with
  | .regenerate _ => []
  | p => [.checkBackup t p code]

def Purpose.afterWrong (p : Purpose) (code : String) : AfterSave :=
  match p with
  | .regenerate _ => .reject
  | p => .tryBackup p code

/-- `ValidateTOTPAndUpdateUsage` up to its save. -/
def checkTOTP (V : Validators) (s : TwoFactorState) (t : TwoFA) (p : Purpose) (code : String) : TwoFactorOutcome :=
  match validateNumericCode code with
  | none => (s,p.fallback t code,[])
  | some clean =>
    if t.isLocked s.now then (s,p.fallback t code,[])
    else if V.validateTOTP t.secret clean s.now then
      (s,[.save t (t.usedAt s.now) (.accept p)],[.accepted])
    else (s,[.save t (t.incrementFailedAttempts s.now) (p.afterWrong code)],[.wrong s.now])

/-- The unused code that a code matches. -/
def findBackupCode (V : Validators) (s : TwoFactorState) (code : String) : Option BackupCode :=
  s.codes.find? (fun row => !row.isUsed && !row.deleted &&
    V.validatePasswordAndHash (normalizeBackupCode code) row.codeHash)

/-- `ValidateBackupCodeAndUpdateUsage` up to its first save. -/
def checkBackup (V : Validators) (s : TwoFactorState) (t : TwoFA) (p : Purpose) (code : String) :
    TwoFactorOutcome :=
  if t.isLocked s.now then (s,[],[])
  else if validateBackupCode code then
    match findBackupCode V s code with
    | some row => (s,[.saveCode { row with isUsed := true, usedAt := some s.now } t p],[])
    | none => (s,[.save t (t.incrementFailedAttempts s.now) .reject],[.wrong s.now])
  else (s,[],[])

def afterSave (new : TwoFA) : AfterSave → List TwoFactorTask
  | .reject => []
  | .tryBackup p code => [.checkBackup new p code]
  | .accept .login => []
  | .accept .disable => [.disableTwoFA]
  | .accept (.regenerate hashes) => [.createBackupCodes hashes]

def advanceTwoFactor (V : Validators) (s : TwoFactorState) : TwoFactorTask → TwoFactorOutcome
  | .check t p code => checkTOTP V s t p code
  | .checkBackup t p code => checkBackup V s t p code
  | .save _ new k => ({ s with twoFA := some new },afterSave new k,[])
  | .saveCode bc t p =>
    ({ s with codes := saveRow s.codes bc },[.save t (t.usedAt s.now) (.accept p)],[.backupAccepted bc.id])
  | .disableTwoFA => (s,if s.twoFA.isSome then [.delete] else [],[])
  | .delete => ({ s with twoFA := none, codes := [] },[],[.disabled])
  | .createBackupCodes hashes =>
    ({ s with
        codes := s.codes.map (fun row => { row with deleted := true })++newRows s.nextId hashes
        nextId := s.nextId+hashes.length },[],[.regenerated s.nextId])

def twoFactorSystem (V : Validators) :
    TaskSystem TwoFactorState TwoFactorTask TwoFactorRequest TwoFactorEvent where
  start := startTwoFactor
  advance := advanceTwoFactor V

/-- The state in which a setup leaves the user: the record is enabled and the codes are unused. -/
def afterSetup (now : ℤ) (secret : String) (hashes : List String) : TwoFactorState :=
  ⟨now,some ⟨secret,true,0,none,none⟩,newRows 1 hashes,1+hashes.length⟩

/-! ## What is promised -/

/-- The moments of the wrong codes since a code was last accepted, newest first. -/
def wrongs : List TwoFactorEvent → List ℤ
  | [] => []
  | .wrong w::h => w::wrongs h
  | .accepted::_ | .backupAccepted _::_ => []
  | .disabled::h | .regenerated _::h => wrongs h

/-- No span of the lockout duration holds more wrong codes than are allowed. -/
def Within (ws : List ℤ) : Prop :=
  ∀ start, ws.countP (fun w => decide (start≤w ∧ w < start+lockoutDuration)) ≤ maxFailAttempts

/-- A backup code is accepted once, and not after a regeneration that came after it. -/
def Compatible : TwoFactorEvent → TwoFactorEvent → Prop
  | .backupAccepted id,.backupAccepted id' => id≠id'
  | .backupAccepted id,.regenerated firstId => firstId ≤ id
  | _,_ => True

/-- The newest event comes first in a history. -/
def TwoFactorSafe (c : Config TwoFactorState TwoFactorTask TwoFactorEvent) : Prop :=
  c.history.Pairwise Compatible ∧ (.disabled∈c.history → c.state.shared.twoFA = none) ∧ Within (wrongs c.history)

end Users
end Tierflow
