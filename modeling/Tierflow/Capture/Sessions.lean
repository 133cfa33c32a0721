import Tierflow.Foundation.Keyed
import Tierflow.Foundation.Text

/-! Captured conversations. A request carries no conversation id: its messages, all but the last ones, are the
messages of an earlier request and the reply to it, and a hash chained over them finds the cursor of that
conversation. -/
namespace Tierflow
namespace Capture
open Text

/-- What the message store reads of a parsed message. -/
structure ParsedMessage where
  role : String
  text : String
  toolCalls : String
  toolId : String
  deriving DecidableEq, Repr

structure SessionCursor where
  cid : String
  seq : ℤ
  deriving DecidableEq, Repr

abbrev Cursors := Keyed String SessionCursor

/-- A queued task after its user was looked up and its bodies were parsed. -/
structure MsgTask where
  userId : ℤ
  uid : String
  ts : ℤ
  reqMsgs : List ParsedMessage
  assistant : Option ParsedMessage
  deriving DecidableEq, Repr

structure MessageCaptureSetting where
  quotaPerDay : ℤ
  maxReplayMessages : ℤ
  deriving DecidableEq, Repr

/-! ## Chained hashes -/

section
variable (sha256 : String → String)

/-- One link; the hash is written in hexadecimal digits and half of it is kept. -/
def chainStep (prev role text : String) : String :=
  String.ofList ((sha256 (prev++"\n"++role++"\n"++sha256 text)).toList.take 32)

def chainHashesFrom (prev : String) : List ParsedMessage → List String
  | [] => []
  | m::msgs => chainStep sha256 prev m.role m.text::chainHashesFrom (chainStep sha256 prev m.role m.text) msgs

def chainHashes (msgs : List ParsedMessage) : List String := chainHashesFrom sha256 "" msgs

def cursorKey (userId : ℤ) (chain : String) : String := "chain:"++printInt userId++":"++chain

def loadCursor (cursors : Cursors) (userId : ℤ) (chain : String) : Option SessionCursor :=
  cursors.find? (cursorKey userId chain)

def saveCursor (cursors : Cursors) (userId : ℤ) (chain : String) (c : SessionCursor) : Cursors :=
  cursors.put (cursorKey userId chain) c

def deleteCursor (cursors : Cursors) (userId : ℤ) (chain : String) : Cursors :=
  cursors.erase (cursorKey userId chain)

/-! ## Sessions -/

structure Session where
  cid : String
  startSeq : ℤ
  fresh : List ParsedMessage
  matchedChain : String
  deriving DecidableEq, Repr

/-- The search from prefix `i` down to the shortest one. -/
def searchPrefix (cursors : Cursors) (userId : ℤ) (reqMsgs : List ParsedMessage) (chains : List String) :
    ℕ → Option Session
  | 0 => none
  | i+1 =>
    match loadCursor cursors userId (chains.getD i "") with
    | some c => some ⟨c.cid,c.seq,reqMsgs.drop (i+1),chains.getD i ""⟩
    | none => searchPrefix cursors userId reqMsgs chains i

/-- The session of a request; a request that no cursor is found for opens one under a new id. -/
def resolveSession (cursors : Cursors) (userId : ℤ) (reqMsgs : List ParsedMessage) (newConversationId : String) :
    Session :=
  if reqMsgs.isEmpty then ⟨"",0,[],""⟩
  else (searchPrefix cursors userId reqMsgs (chainHashes sha256 reqMsgs) (reqMsgs.length-1)).getD
    ⟨newConversationId,0,reqMsgs,""⟩

def commitSession (cursors : Cursors) (userId : ℤ) (cid : String) (allMsgs : List ParsedMessage) (nextSeq : ℤ)
    (consumedChain : String) : Cursors :=
  if allMsgs.isEmpty then cursors
  else
    let tail := (chainHashes sha256 allMsgs).getLastD ""
    let saved := saveCursor cursors userId tail ⟨cid,nextSeq⟩
    if consumedChain≠"" ∧ consumedChain≠tail then deleteCursor saved userId consumedChain else saved

end

/-- The search finds the cursor of the longest prefix that has one. -/
lemma searchPrefix_cases (cursors : Cursors) (userId : ℤ) (reqMsgs : List ParsedMessage) (chains : List String) (n : ℕ) :
    (∃ i c, i<n ∧ loadCursor cursors userId (chains.getD i "") = some c ∧
      (∀ j, i<j → j<n → loadCursor cursors userId (chains.getD j "") = none) ∧
      searchPrefix cursors userId reqMsgs chains n = some ⟨c.cid,c.seq,reqMsgs.drop (i+1),chains.getD i ""⟩) ∨
    ((∀ i<n, loadCursor cursors userId (chains.getD i "") = none) ∧
      searchPrefix cursors userId reqMsgs chains n = none) := by
  induction n with
  | zero => exact .inr ⟨fun i hi => absurd hi (Nat.not_lt_zero i),rfl⟩
  | succ n ih =>
    rw [searchPrefix]
    cases hload : loadCursor cursors userId (chains.getD n "") with
    | some c =>
      refine .inl ⟨n,c,n.lt_succ_self,hload,?_,rfl⟩
      intro j hj hjn
      omega
    | none =>
      rcases ih with ⟨i,c,hi,hc,hlast,heq⟩ | ⟨hnone,heq⟩
      · refine .inl ⟨i,c,hi.trans n.lt_succ_self,hc,?_,heq⟩
        intro j hj hjn
        rcases Nat.lt_succ_iff_lt_or_eq.mp hjn with hlt | rfl
        · exact hlast j hj hlt
        · exact hload
      · refine .inr ⟨?_,heq⟩
        intro i hi
        rcases Nat.lt_succ_iff_lt_or_eq.mp hi with hlt | rfl
        · exact hnone i hlt
        · exact hload

/-- A cursor after a commit is the new one or was there before. -/
lemma commitSession_eq_some {sha256 : String → String} {cursors : Cursors} {userId : ℤ} {cid consumedChain k : String}
    {allMsgs : List ParsedMessage} {nextSeq : ℤ} {c : SessionCursor}
    (h : (commitSession sha256 cursors userId cid allMsgs nextSeq consumedChain).find? k = some c) :
    c.seq = nextSeq ∨ cursors.find? k = some c := by
  have hsaved : ∀ tail, (saveCursor cursors userId tail ⟨cid,nextSeq⟩).find? k = some c →
      c.seq = nextSeq ∨ cursors.find? k = some c := by
    intro tail htail
    rw [saveCursor,Keyed.find?_put] at htail
    split_ifs at htail
    · obtain rfl := Option.some.inj htail
      exact .inl rfl
    · exact .inr htail
  unfold commitSession at h
  split_ifs at h
  · exact .inr h
  · dsimp only at h
    split_ifs at h
    · rw [deleteCursor,Keyed.find?_erase] at h
      split_ifs at h
      exact hsaved _ h
    · exact hsaved _ h

/-! ## The turn to be recorded -/

/-- How many messages of a conversation without a cursor are replayed. -/
def replayLimit (S : MessageCaptureSetting) : ℤ :=
  let limit := if S.maxReplayMessages≤0 then 50 else S.maxReplayMessages
  if 1<S.quotaPerDay ∧ S.quotaPerDay-1<limit then S.quotaPerDay-1 else limit

/-- The new messages that are kept, and whether some were dropped. -/
def replay (S : MessageCaptureSetting) (startSeq : ℤ) (fresh : List ParsedMessage) : List ParsedMessage × Bool :=
  if startSeq = 0 ∧ fresh≠[] ∧ replayLimit S<fresh.length then
    (fresh.drop (fresh.length-(replayLimit S).toNat),true)
  else (fresh,false)

/-- Whether a later request that repeats the message has it parsed again. -/
def chainVisible (pm : ParsedMessage) : Bool := pm.text≠"" ∨ pm.toolCalls≠"" ∨ pm.toolId≠""

/-- A turn that asks for its place in the day's quota. -/
structure Turn where
  task : MsgTask
  session : Session
  pending : List ParsedMessage
  replayDropped : Bool
  deriving DecidableEq, Repr

/-- Tasks that are not recorded, whatever the quota. -/
def MsgTask.Dropped (task : MsgTask) : Prop := task.userId≤0 ∨ task.uid = "" ∨ task.reqMsgs = []

instance (task : MsgTask) : Decidable task.Dropped := by
  unfold MsgTask.Dropped
  infer_instance

/-- The part of `processMsgTask` before the quota. -/
def prepareTurn (sha256 : String → String) (S : MessageCaptureSetting) (cursors : Cursors) (task : MsgTask)
    (newConversationId : String) : Option Turn :=
  if task.Dropped then none
  else
    let session := resolveSession sha256 cursors task.userId task.reqMsgs newConversationId
    let kept := replay S session.startSeq session.fresh
    let pending := kept.1++task.assistant.toList
    if pending.isEmpty then none else some ⟨task,session,pending,kept.2⟩

/-- The part after the quota: the cursor moves to the end of the chain. -/
def Turn.commit (sha256 : String → String) (t : Turn) (cursors : Cursors) : Cursors :=
  commitSession sha256 cursors t.task.userId t.session.cid
    (t.task.reqMsgs++(t.task.assistant.filter chainVisible).toList) (t.session.startSeq+t.pending.length)
    t.session.matchedChain

/-! ## How long a turn is -/

section
variable (sha256 : String → String) (S : MessageCaptureSetting) (cursors : Cursors) (task : MsgTask)

/-- Whether a cursor is stored for the first `i+1` messages of a request. -/
def HasCursor (i : ℕ) : Prop :=
  loadCursor cursors task.userId ((chainHashes sha256 task.reqMsgs).getD i "")≠none

/-- The turn fits into a day: what is new behind the longest prefix with a cursor, together with the reply; without
a cursor, any limit above one fits, and a limit of one if there is a single message to keep and no reply. -/
def Fits : Prop :=
  (∀ i, i+1<task.reqMsgs.length → HasCursor sha256 cursors task i →
    (∀ j, i<j → j+1<task.reqMsgs.length → ¬HasCursor sha256 cursors task j) →
    (task.reqMsgs.length-(i+1)+task.assistant.toList.length : ℤ)≤S.quotaPerDay) ∧
  ((∀ i, i+1<task.reqMsgs.length → ¬HasCursor sha256 cursors task i) →
    2≤S.quotaPerDay ∨ task.assistant = none ∧ (task.reqMsgs.length = 1 ∨ S.maxReplayMessages = 1))

variable {sha256 S cursors task}

lemma replayLimit_pos : 1 ≤ replayLimit S := by
  unfold replayLimit
  dsimp only
  split_ifs <;> omega

lemma replay_of_ne {startSeq : ℤ} (h : startSeq≠0) (fresh : List ParsedMessage) :
    (replay S startSeq fresh).1 = fresh := by
  unfold replay
  rw [if_neg (fun hc => h hc.1)]

lemma length_replay_zero {fresh : List ParsedMessage} (h : fresh≠[]) :
    ((replay S 0 fresh).1.length : ℤ) = min (fresh.length : ℤ) (replayLimit S) := by
  have hpos : 1 ≤ replayLimit S := replayLimit_pos
  unfold replay
  by_cases hlt : replayLimit S<fresh.length
  · rw [if_pos ⟨rfl,h,hlt⟩,List.length_drop]
    omega
  · rw [if_neg (fun hc => hlt hc.2.2)]
    exact (min_eq_left (not_lt.mp hlt)).symm

/-- Any limit above one has room for the replayed messages and a reply. -/
lemma replay_fits_iff (hQ : 1≤S.quotaPerDay) {n : ℕ} (hn : 1≤n) (assistant : Option ParsedMessage) :
    min (n : ℤ) (replayLimit S)+assistant.toList.length≤S.quotaPerDay ↔
      2≤S.quotaPerDay ∨ assistant = none ∧ (n = 1 ∨ S.maxReplayMessages = 1) := by
  have hlen : assistant.toList.length = 0 ∧ assistant = none ∨ assistant.toList.length = 1 ∧ assistant≠none := by
    cases assistant <;> simp
  unfold replayLimit
  dsimp only
  rcases hlen with ⟨hlen,ha⟩ | ⟨hlen,ha⟩
  · rw [hlen]
    simp only [ha,true_and]
    split_ifs <;> omega
  · rw [hlen]
    simp only [ha,false_and,or_false]
    split_ifs <;> omega

lemma prepareTurn_eq_some {newConversationId : String} {t : Turn}
    (h : prepareTurn sha256 S cursors task newConversationId = some t) :
    ¬task.Dropped ∧ t.task = task ∧
      t.session = resolveSession sha256 cursors task.userId task.reqMsgs newConversationId ∧
      t.pending = (replay S t.session.startSeq t.session.fresh).1++task.assistant.toList := by
  unfold prepareTurn at h
  split_ifs at h with hdrop
  dsimp only at h
  split_ifs at h with hempty
  obtain rfl := Option.some.inj h
  exact ⟨hdrop,rfl,rfl,rfl⟩

lemma MsgTask.reqMsgs_ne_nil (h : ¬task.Dropped) : task.reqMsgs≠[] := fun hmsgs => h (.inr (.inr hmsgs))

variable (sha256 cursors) in
/-- What a request is resolved to: the messages behind the longest prefix with a cursor, or all of them. -/
lemma resolveSession_cases (hmsgs : task.reqMsgs≠[]) (newConversationId : String) :
    (∃ i c, i+1<task.reqMsgs.length ∧
      loadCursor cursors task.userId ((chainHashes sha256 task.reqMsgs).getD i "") = some c ∧
      (∀ j, i<j → j+1<task.reqMsgs.length → ¬HasCursor sha256 cursors task j) ∧
      resolveSession sha256 cursors task.userId task.reqMsgs newConversationId =
        ⟨c.cid,c.seq,task.reqMsgs.drop (i+1),(chainHashes sha256 task.reqMsgs).getD i ""⟩) ∨
    ((∀ i, i+1<task.reqMsgs.length → ¬HasCursor sha256 cursors task i) ∧
      resolveSession sha256 cursors task.userId task.reqMsgs newConversationId =
        ⟨newConversationId,0,task.reqMsgs,""⟩) := by
  have hempty : task.reqMsgs.isEmpty = false := List.isEmpty_eq_false_iff.mpr hmsgs
  unfold resolveSession
  rw [hempty]
  rcases searchPrefix_cases cursors task.userId task.reqMsgs (chainHashes sha256 task.reqMsgs)
    (task.reqMsgs.length-1) with ⟨i,c,hi,hc,hlast,heq⟩ | ⟨hnone,heq⟩
  · refine .inl ⟨i,c,by omega,hc,?_,by rw [heq]; rfl⟩
    intro j hj hjn hcursor
    exact hcursor (hlast j hj (by omega))
  · refine .inr ⟨?_,by rw [heq]; rfl⟩
    intro i hi hcursor
    exact hcursor (hnone i (by omega))

lemma startSeq_prepareTurn (hseq : ∀ k c, cursors.find? k = some c → 0 < c.seq) {newConversationId : String} {t : Turn}
    (h : prepareTurn sha256 S cursors task newConversationId = some t) : 0≤t.session.startSeq := by
  obtain ⟨hkept,-,hsession,-⟩ := prepareTurn_eq_some h
  have hmsgs := MsgTask.reqMsgs_ne_nil hkept
  rw [hsession]
  rcases resolveSession_cases sha256 cursors hmsgs newConversationId with
    ⟨i,c,-,hc,-,heq⟩ | ⟨-,heq⟩
  · rw [heq]
    exact (hseq _ c hc).le
  · rw [heq]

/-- A turn asks for at most a day's quota exactly when it fits into a day. -/
theorem pending_le_iff_fits (hQ : 1≤S.quotaPerDay) (hseq : ∀ k c, cursors.find? k = some c → 0 < c.seq)
    {newConversationId : String} {t : Turn} (h : prepareTurn sha256 S cursors task newConversationId = some t) :
    0<t.pending.length ∧ (t.pending.length≤S.quotaPerDay ↔ Fits sha256 S cursors task) := by
  obtain ⟨hkept,-,hsession,hpending⟩ := prepareTurn_eq_some h
  have hmsgs := MsgTask.reqMsgs_ne_nil hkept
  have hpos : 0<task.reqMsgs.length := List.length_pos_iff.mpr hmsgs
  rw [hpending,hsession]
  rcases resolveSession_cases sha256 cursors hmsgs newConversationId with
    ⟨i,c,hi,hc,hlast,heq⟩ | ⟨hnone,heq⟩
  · rw [heq,replay_of_ne (hseq _ c hc).ne',List.length_append,List.length_drop]
    refine ⟨by omega,?_⟩
    constructor
    · intro hle
      refine ⟨?_,fun hnone => absurd (by rw [HasCursor,hc]; simp) (hnone i hi)⟩
      intro j hj hcursor hjlast
      have hij : j = i := by
        rcases Nat.lt_trichotomy i j with hlt | heq | hlt
        · exact absurd hcursor (hlast j hlt hj)
        · exact heq.symm
        · exact absurd (by rw [HasCursor,hc]; simp) (hjlast i hlt hi)
      subst j
      omega
    · intro hfits
      have hle := hfits.1 i hi (by rw [HasCursor,hc]; simp) hlast
      omega
  · rw [heq,List.length_append]
    have hlen := length_replay_zero (S := S) hmsgs
    have hlimit : 1 ≤ replayLimit S := replayLimit_pos
    dsimp only at hlen ⊢
    refine ⟨by omega,?_⟩
    rw [Nat.cast_add,hlen,replay_fits_iff hQ hpos]
    constructor
    · intro hle
      exact ⟨fun i hi hcursor _ => absurd hcursor (hnone i hi),fun _ => hle⟩
    · intro hfits
      exact hfits.2 hnone

end

end Capture
end Tierflow
