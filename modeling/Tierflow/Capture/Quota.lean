import Tierflow.Capture.Sessions
import Tierflow.Foundation.Transaction

/-! The daily quota of captured messages. A turn is recorded whole or not at all; with Redis the nodes count first
and take back what went over the limit, so that between the two commands other turns see the refused messages. -/
namespace Tierflow
namespace Capture
open Text

/-! ## The counters -/

def quotaKey (userId : ℤ) (date : String) : String := "msgquota:"++printInt userId++":"++date

abbrev Quotas := Keyed String ℤ

def quotaOf (quotas : Quotas) (key : String) : ℤ := (quotas.find? key).getD 0

/-- What becomes of a turn; one that went over the limit has been counted and is to be taken back. -/
inductive Verdict
  | accepted
  | over
  | refused
  deriving DecidableEq, Repr

/-- The counters of the other dates go when there are too many. -/
def tidyQuotas (quotas : Quotas) (date : String) : Quotas :=
  if 4096<quotas.rows.length then quotas.deleteWhere (fun r => !(":"++date).toList.isSuffixOf r.1.toList) else quotas

/-- The decision; `DecrBy` comes as a step of its own. -/
def tryConsumeQuota (redisEnabled : Bool) (S : MessageCaptureSetting) (quotas : Quotas) (userId : ℤ) (date : String)
    (n : ℤ) : Quotas × Verdict :=
  if n≤0 then (quotas,.refused)
  else if S.quotaPerDay≤0 then (quotas,.refused)
  else
    let key := quotaKey userId date
    if redisEnabled then
      let newVal := quotaOf quotas key+n
      (quotas.put key newVal,if S.quotaPerDay<newVal then .over else .accepted)
    else
      let quotas := tidyQuotas quotas date
      if S.quotaPerDay<quotaOf quotas key+n then (quotas,.refused)
      else (quotas.put key (quotaOf quotas key+n),.accepted)

/-! ## Turns side by side -/

/-- Messages that a user has asked for on a date. -/
structure Charge where
  userId : ℤ
  date : String
  n : ℤ
  deriving DecidableEq, Repr

/-- What surrounds the store: where the counters are, the time zone and the digest. -/
structure Surroundings where
  redisEnabled : Bool
  dateOf : ℤ → String
  sha256 : String → String

/-- Turns that wait for the quota, turns whose messages are to be taken back, turns that are being written, and all
that was ever accepted. -/
structure CaptureState where
  cursors : Cursors
  quotas : Quotas
  resolved : List Turn
  refused : List Charge
  writing : List Turn
  recorded : List Charge

inductive CaptureOp
  | prepare (task : MsgTask) (newConversationId : String)
  | consume (i : ℕ)
  | consumeFails (i : ℕ)
  | giveBack (i : ℕ)
  | giveBackFails (i : ℕ)
  | commit (i : ℕ)
  | expireCursor (key : String)
  | expireQuota (key : String)
  deriving DecidableEq, Repr

section
variable (E : Surroundings) (S : MessageCaptureSetting)

def Turn.charge (t : Turn) : Charge := ⟨t.task.userId,E.dateOf t.task.ts,t.pending.length⟩

def Charge.key (c : Charge) : String := quotaKey c.userId c.date

namespace CaptureState

/-- Turn `i` asks for its place. -/
def consume (s : CaptureState) (i : ℕ) (t : Turn) : CaptureState :=
  let c := t.charge E
  let result := tryConsumeQuota E.redisEnabled S s.quotas c.userId c.date c.n
  let s := { s with quotas := result.1, resolved := s.resolved.eraseIdx i }
  match result.2 with
  | .accepted => { s with writing := s.writing++[t], recorded := c::s.recorded }
  | .over => { s with refused := s.refused++[c] }
  | .refused => s

/-- `DecrBy` of a turn that went over the limit. -/
def giveBack (s : CaptureState) (i : ℕ) (c : Charge) : CaptureState :=
  { s with quotas := s.quotas.put c.key (quotaOf s.quotas c.key-c.n), refused := s.refused.eraseIdx i }

end CaptureState

/-- Tasks on any number of nodes, whose commands may come in any order and may fail; cursors and counters may expire. -/
def captureSystem : TxSystem CaptureState CaptureOp Empty where
  step s
    | .prepare task newConversationId =>
      (prepareTurn E.sha256 S s.cursors task newConversationId).map
        (fun t => ({ s with resolved := s.resolved++[t] },[]))
    | .consume i => s.resolved[i]?.map (fun t => (s.consume E S i t,[]))
    | .consumeFails i => s.resolved[i]?.map (fun _ => ({ s with resolved := s.resolved.eraseIdx i },[]))
    | .giveBack i => s.refused[i]?.map (fun c => (s.giveBack i c,[]))
    | .giveBackFails i => s.refused[i]?.map (fun _ => ({ s with refused := s.refused.eraseIdx i },[]))
    | .commit i => s.writing[i]?.map
        (fun t => ({ s with cursors := t.commit E.sha256 s.cursors, writing := s.writing.eraseIdx i },[]))
    | .expireCursor key => some ({ s with cursors := s.cursors.erase key },[])
    | .expireQuota key => some ({ s with quotas := s.quotas.erase key },[])

def CaptureState.init : CaptureState := ⟨.empty,.empty,[],[],[],[]⟩

end

/-! ## Sums of messages -/

/-- The messages of a user and day in a list of charges. -/
def messagesOf (l : List Charge) (userId : ℤ) (date : String) : ℤ :=
  ((l.filter (fun c => c.userId = userId ∧ c.date = date)).map Charge.n).sum

section
variable {l m : List Charge} {userId : ℤ} {date : String}

@[simp] lemma messagesOf_nil : messagesOf [] userId date = 0 := rfl

lemma messagesOf_cons (c : Charge) : messagesOf (c::l) userId date =
    (if c.userId = userId ∧ c.date = date then c.n else 0)+messagesOf l userId date := by
  unfold messagesOf
  rw [List.filter_cons]
  by_cases hc : c.userId = userId ∧ c.date = date
  · rw [if_pos hc,if_pos (by simpa using hc),List.map_cons,List.sum_cons]
  · rw [if_neg hc,if_neg (by simpa using hc),zero_add]

lemma messagesOf_perm (h : l.Perm m) (userId : ℤ) (date : String) : messagesOf l userId date = messagesOf m userId date :=
  ((h.filter _).map Charge.n).sum_eq

lemma messagesOf_append_singleton (c : Charge) : messagesOf (l++[c]) userId date =
    (if c.userId = userId ∧ c.date = date then c.n else 0)+messagesOf l userId date := by
  rw [messagesOf_perm (List.perm_append_singleton c l) userId date,messagesOf_cons]

lemma messagesOf_eraseIdx {i : ℕ} {c : Charge} (h : l[i]? = some c) (userId : ℤ) (date : String) : messagesOf (l.eraseIdx i) userId date =
    messagesOf l userId date-(if c.userId = userId ∧ c.date = date then c.n else 0) := by
  obtain ⟨hi,rfl⟩ := List.getElem?_eq_some_iff.mp h
  have hsum := messagesOf_perm (List.getElem_cons_eraseIdx_perm hi) userId date
  rw [messagesOf_cons] at hsum
  omega

end

/-! ## What the counters tell -/

lemma quotaKey_inj {u v : ℤ} {d e : String} : quotaKey u d = quotaKey v e ↔ u = v ∧ d = e := by
  constructor
  · intro h
    have hne : ∀ z : ℤ, ∀ c∈(printInt z).toList, c ≠ ':' := by
      intro z c hc hcolon
      subst hcolon
      rcases mem_printInt hc with h | h <;> exact absurd h (by decide)
    have hlist := congrArg String.toList h
    simp only [quotaKey,String.toList_append,List.append_assoc,List.append_cancel_left_eq] at hlist
    obtain ⟨hu,hd⟩ := append_sep_inj (hne u) (hne v) (by simp) (by simp) hlist
    exact ⟨printInt_injective (String.toList_inj.mp hu),String.toList_inj.mp (List.append_cancel_left hd)⟩
  · rintro ⟨rfl,rfl⟩
    rfl

section
variable {redisEnabled : Bool} {S : MessageCaptureSetting} {quotas : Quotas} {userId : ℤ} {date : String} {n : ℤ}

/-- The tidying leaves the counter that is asked for. -/
lemma find?_tidyQuotas_self (quotas : Quotas) (userId : ℤ) (date : String) :
    (tidyQuotas quotas date).find? (quotaKey userId date) = quotas.find? (quotaKey userId date) := by
  unfold tidyQuotas
  split_ifs
  · have hsuffix : (":"++date).toList.isSuffixOf (quotaKey userId date).toList = true := by
      rw [List.isSuffixOf_iff_suffix]
      exact ⟨("msgquota:"++printInt userId).toList,by simp [quotaKey]⟩
    rw [Keyed.find?_deleteWhere]
    simp only [hsuffix,Bool.not_true,Bool.not_false]
    cases quotas.find? (quotaKey userId date) <;> rfl
  · rfl

lemma find?_tidyQuotas (quotas : Quotas) (date key : String) :
    (tidyQuotas quotas date).find? key = quotas.find? key ∨ (tidyQuotas quotas date).find? key = none := by
  unfold tidyQuotas
  split_ifs
  · rw [Keyed.find?_deleteWhere]
    cases quotas.find? key with
    | none => exact .inl rfl
    | some v =>
      dsimp only
      cases (":"++date).toList.isSuffixOf key.toList with
      | true => exact .inl rfl
      | false => exact .inr rfl
  · exact .inl rfl

variable (redisEnabled quotas userId date) in
/-- A decision: within the limit the messages are counted; above it Redis has counted them all the same. -/
lemma tryConsumeQuota_cases (hQ : 1≤S.quotaPerDay) (hn : 0<n) :
    (quotaOf quotas (quotaKey userId date)+n≤S.quotaPerDay ∧ tryConsumeQuota redisEnabled S quotas userId date n =
      ((if redisEnabled then quotas else tidyQuotas quotas date).put (quotaKey userId date)
        (quotaOf quotas (quotaKey userId date)+n),.accepted)) ∨
    (S.quotaPerDay<quotaOf quotas (quotaKey userId date)+n ∧
      ((redisEnabled = true ∧ tryConsumeQuota redisEnabled S quotas userId date n =
        (quotas.put (quotaKey userId date) (quotaOf quotas (quotaKey userId date)+n),.over)) ∨
      (redisEnabled = false ∧ tryConsumeQuota redisEnabled S quotas userId date n =
        (tidyQuotas quotas date,.refused)))) := by
  have hself : quotaOf (tidyQuotas quotas date) (quotaKey userId date) = quotaOf quotas (quotaKey userId date) := by
    rw [quotaOf,quotaOf,find?_tidyQuotas_self]
  unfold tryConsumeQuota
  rw [if_neg (not_le.mpr hn),if_neg (by omega)]
  dsimp only
  rw [hself]
  by_cases hlimit : S.quotaPerDay<quotaOf quotas (quotaKey userId date)+n
  · refine .inr ⟨hlimit,?_⟩
    rw [if_pos hlimit,if_pos hlimit]
    cases redisEnabled with
    | true => exact .inl ⟨rfl,rfl⟩
    | false => exact .inr ⟨rfl,rfl⟩
  · refine .inl ⟨not_lt.mp hlimit,?_⟩
    rw [if_neg hlimit,if_neg hlimit]
    cases redisEnabled <;> rfl

end

/-! ## Invariants -/

lemma messagesOf_nonneg {l : List Charge} (h : ∀ c∈l, 0 < c.n) (userId : ℤ) (date : String) :
    0 ≤ messagesOf l userId date := by
  apply List.sum_nonneg
  intro x hx
  obtain ⟨c,hc,rfl⟩ := List.mem_map.mp hx
  exact (h c (List.mem_of_mem_filter hc)).le

lemma messagesOf_eq_zero {l : List Charge} {userId : ℤ} {date : String}
    (h : ∀ c∈l, ¬(c.userId = userId ∧ c.date = date)) : messagesOf l userId date = 0 := by
  unfold messagesOf
  rw [List.filter_eq_nil_iff.mpr (by simpa using h)]
  rfl

section
variable {E : Surroundings} {S : MessageCaptureSetting} {s s' : CaptureState} {op : CaptureOp} {es : List Empty}

/-- What every run keeps: sequence numbers count from zero, and no turn asks for nothing. -/
structure Proper (E : Surroundings) (s : CaptureState) : Prop where
  cursors : ∀ k c, s.cursors.find? k = some c → 0 < c.seq
  resolved : ∀ t∈s.resolved, 0≤t.session.startSeq ∧ 0<t.pending.length
  writing : ∀ t∈s.writing, 0≤t.session.startSeq ∧ 0<t.pending.length
  refused : ∀ c∈s.refused, 0 < c.n
  recorded : ∀ c∈s.recorded, 0 < c.n
  localOnly : E.redisEnabled = false → s.refused = []

/-- The state after a turn has asked for its place. -/
lemma consume_cases (hQ : 1≤S.quotaPerDay) {t : Turn} (ht : 0<t.pending.length) (i : ℕ) :
    (quotaOf s.quotas (t.charge E).key+t.pending.length≤S.quotaPerDay ∧ s.consume E S i t = { s with
      quotas := (if E.redisEnabled then s.quotas else tidyQuotas s.quotas (t.charge E).date).put (t.charge E).key
        (quotaOf s.quotas (t.charge E).key+t.pending.length)
      resolved := s.resolved.eraseIdx i
      writing := s.writing++[t]
      recorded := t.charge E::s.recorded }) ∨
    (S.quotaPerDay<quotaOf s.quotas (t.charge E).key+t.pending.length ∧
      ((E.redisEnabled = true ∧ s.consume E S i t = { s with
        quotas := s.quotas.put (t.charge E).key (quotaOf s.quotas (t.charge E).key+t.pending.length)
        resolved := s.resolved.eraseIdx i
        refused := s.refused++[t.charge E] }) ∨
      (E.redisEnabled = false ∧ s.consume E S i t = { s with
        quotas := tidyQuotas s.quotas (t.charge E).date
        resolved := s.resolved.eraseIdx i }))) := by
  have hn : 0<(t.charge E).n := Nat.cast_pos.mpr ht
  unfold CaptureState.consume
  rcases tryConsumeQuota_cases E.redisEnabled s.quotas (t.charge E).userId (t.charge E).date hQ hn with ⟨hle,heq⟩ | ⟨hlt,⟨hredis,heq⟩ | ⟨hredis,heq⟩⟩
  · refine .inl ⟨hle,?_⟩
    dsimp only
    rw [heq]
    rfl
  · refine .inr ⟨hlt,.inl ⟨hredis,?_⟩⟩
    dsimp only
    rw [heq]
    rfl
  · refine .inr ⟨hlt,.inr ⟨hredis,?_⟩⟩
    dsimp only
    rw [heq]

lemma proper_step (hQ : 1≤S.quotaPerDay) (h : Proper E s) (hs : (captureSystem E S).step s op = some (s',es)) :
    Proper E s' := by
  cases op with
  | prepare task newConversationId =>
    obtain ⟨t,ht,heq⟩ := Option.map_eq_some_iff.mp hs
    obtain rfl := (Prod.mk.inj heq).1
    refine { h with resolved := ?_ }
    intro t' ht'
    rcases List.mem_append.mp ht' with hold | hnew
    · exact h.resolved t' hold
    · obtain rfl := List.mem_singleton.mp hnew
      exact ⟨startSeq_prepareTurn h.cursors ht,(pending_le_iff_fits hQ h.cursors ht).1⟩
  | consume i =>
    obtain ⟨t,ht,heq⟩ := Option.map_eq_some_iff.mp hs
    obtain rfl := (Prod.mk.inj heq).1
    have hmem := h.resolved t (List.mem_of_getElem? ht)
    have hpos : 0<(t.charge E).n := Nat.cast_pos.mpr hmem.2
    have herase : ∀ t∈s.resolved.eraseIdx i, 0≤t.session.startSeq ∧ 0<t.pending.length :=
      fun t ht => h.resolved t (List.mem_of_mem_eraseIdx ht)
    rcases consume_cases (E := E) (s := s) hQ hmem.2 i with ⟨-,heq⟩ | ⟨-,⟨hredis,heq⟩ | ⟨-,heq⟩⟩
    · rw [heq]
      refine { h with resolved := herase, writing := ?_, recorded := List.forall_mem_cons.mpr ⟨hpos,h.recorded⟩ }
      exact List.forall_mem_append.mpr ⟨h.writing,List.forall_mem_singleton.mpr hmem⟩
    · rw [heq]
      refine { h with resolved := herase, refused := ?_, localOnly := ?_ }
      · exact List.forall_mem_append.mpr ⟨h.refused,List.forall_mem_singleton.mpr hpos⟩
      · intro hlocal
        exact absurd (hredis.symm.trans hlocal) (by decide)
    · rw [heq]
      exact { h with resolved := herase }
  | consumeFails i =>
    obtain ⟨t,-,heq⟩ := Option.map_eq_some_iff.mp hs
    obtain rfl := (Prod.mk.inj heq).1
    exact { h with resolved := fun t ht => h.resolved t (List.mem_of_mem_eraseIdx ht) }
  | giveBack i =>
    obtain ⟨c,-,heq⟩ := Option.map_eq_some_iff.mp hs
    obtain rfl := (Prod.mk.inj heq).1
    refine { h with refused := fun c hc => h.refused c (List.mem_of_mem_eraseIdx hc), localOnly := ?_ }
    intro hlocal
    rw [CaptureState.giveBack,h.localOnly hlocal]
    rfl
  | giveBackFails i =>
    obtain ⟨c,-,heq⟩ := Option.map_eq_some_iff.mp hs
    obtain rfl := (Prod.mk.inj heq).1
    refine { h with refused := fun c hc => h.refused c (List.mem_of_mem_eraseIdx hc), localOnly := ?_ }
    intro hlocal
    rw [h.localOnly hlocal]
    rfl
  | commit i =>
    obtain ⟨t,ht,heq⟩ := Option.map_eq_some_iff.mp hs
    obtain rfl := (Prod.mk.inj heq).1
    have hmem := h.writing t (List.mem_of_getElem? ht)
    refine { h with cursors := ?_, writing := fun t ht => h.writing t (List.mem_of_mem_eraseIdx ht) }
    intro k c hc
    rcases commitSession_eq_some hc with hseq | hold
    · omega
    · exact h.cursors k c hold
  | expireCursor key =>
    obtain rfl := (Prod.mk.inj (Option.some.inj hs)).1
    refine { h with cursors := ?_ }
    intro k c hc
    rw [Keyed.find?_erase] at hc
    split_ifs at hc
    exact h.cursors k c hc
  | expireQuota key =>
    obtain rfl := (Prod.mk.inj (Option.some.inj hs)).1
    exact { h with }

variable (E S) in
/-- A turn that asks on a day with nothing recorded fits into a day, the commands succeed, and the counter of a day
is neither tidied away before the last turn of the day nor expires while a turn is to be taken back from it. -/
def Meets (c : TxSystem.Config CaptureState Empty) : CaptureOp → Prop
  | .prepare task _ => task.Dropped ∨ 0 < messagesOf c.state.recorded task.userId (E.dateOf task.ts) ∨
      Fits E.sha256 S c.state.cursors task
  | .consume i => ∀ t∈c.state.resolved[i]?,
      messagesOf c.state.recorded (t.charge E).userId (t.charge E).date = 0 ∨
        c.state.quotas.find? (t.charge E).key≠none
  | .consumeFails _ | .giveBackFails _ => False
  | .expireQuota key => ∀ r∈c.state.refused, r.key≠key
  | _ => True

variable (E S) in
/-- What runs keep whose operations meet the condition: a counter holds what was recorded and what is to be taken
back, and only turns of a day with something recorded are ever taken back. -/
structure Balanced (s : CaptureState) : Prop where
  pending : ∀ t∈s.resolved, (t.charge E).n≤S.quotaPerDay ∨
    0 < messagesOf s.recorded (t.charge E).userId (t.charge E).date
  refused : ∀ c∈s.refused, 0 < messagesOf s.recorded c.userId c.date
  value : ∀ u d, s.quotas.find? (quotaKey u d)≠none →
    quotaOf s.quotas (quotaKey u d) = messagesOf s.recorded u d+messagesOf s.refused u d
  absent : ∀ u d, s.quotas.find? (quotaKey u d) = none → messagesOf s.refused u d = 0
  limit : ∀ u d, messagesOf s.recorded u d≤S.quotaPerDay

lemma messagesOf_le_cons {l : List Charge} {c : Charge} (hc : 0 < c.n) (userId : ℤ) (date : String) :
    messagesOf l userId date ≤ messagesOf (c::l) userId date := by
  rw [messagesOf_cons]
  split_ifs <;> omega

/-- Nothing is to be taken back on a day with nothing recorded. -/
lemma Balanced.refused_eq_zero (h : Balanced E S s) {u : ℤ} {d : String} (hu : messagesOf s.recorded u d = 0) :
    messagesOf s.refused u d = 0 := by
  apply messagesOf_eq_zero
  rintro c hc ⟨rfl,rfl⟩
  exact absurd hu (h.refused c hc).ne'

/-- The counter that a turn finds. -/
lemma Balanced.quotaOf_eq (h : Balanced E S s) {u : ℤ} {d : String}
    (hu : messagesOf s.recorded u d = 0 ∨ s.quotas.find? (quotaKey u d)≠none) :
    quotaOf s.quotas (quotaKey u d) = messagesOf s.recorded u d+messagesOf s.refused u d := by
  by_cases hfind : s.quotas.find? (quotaKey u d) = none
  · rw [hu.resolve_right (not_not.mpr hfind),h.absent u d hfind,quotaOf,hfind]
    rfl
  · exact h.value u d hfind

lemma quotaOf_put_self (quotas : Quotas) (key : String) (v : ℤ) : quotaOf (quotas.put key v) key = v := by
  rw [quotaOf,Keyed.find?_put_self]
  rfl

lemma quotaOf_put_of_ne {quotas : Quotas} {key key' : String} (v : ℤ) (h : key'≠key) :
    quotaOf (quotas.put key v) key' = quotaOf quotas key' := by
  rw [quotaOf,Keyed.find?_put_of_ne _ _ h,quotaOf]

lemma balanced_accepted (hp : Proper E s) (h : Balanced E S s) {i : ℕ} {t : Turn} (hpos : 0<(t.charge E).n)
    (hv : quotaOf s.quotas (t.charge E).key = messagesOf s.recorded (t.charge E).userId (t.charge E).date+
      messagesOf s.refused (t.charge E).userId (t.charge E).date)
    (hle : quotaOf s.quotas (t.charge E).key+(t.charge E).n≤S.quotaPerDay) :
    Balanced E S { s with
      quotas := (if E.redisEnabled then s.quotas else tidyQuotas s.quotas (t.charge E).date).put (t.charge E).key
        (quotaOf s.quotas (t.charge E).key+(t.charge E).n)
      resolved := s.resolved.eraseIdx i
      writing := s.writing++[t]
      recorded := t.charge E::s.recorded } := by
  have hgrow := messagesOf_le_cons (l := s.recorded) hpos
  have hown : ∀ u d, quotaKey u d = (t.charge E).key ↔ (t.charge E).userId = u ∧ (t.charge E).date = d := by
    intro u d
    rw [eq_comm]
    exact quotaKey_inj
  constructor
  · intro t' ht'
    exact (h.pending t' (List.mem_of_mem_eraseIdx ht')).imp_right (fun hlt => hlt.trans_le (hgrow _ _))
  · intro c hc
    exact (h.refused c hc).trans_le (hgrow _ _)
  · intro u d hfind
    by_cases hkey : quotaKey u d = (t.charge E).key
    · obtain ⟨rfl,rfl⟩ := (hown u d).mp hkey
      rw [hkey,quotaOf_put_self,messagesOf_cons,if_pos ⟨rfl,rfl⟩,hv]
      ring
    · rw [messagesOf_cons,if_neg (fun hc => hkey ((hown u d).mpr hc)),zero_add,quotaOf_put_of_ne _ hkey]
      rw [Keyed.find?_put_of_ne _ _ hkey] at hfind
      cases hredis : E.redisEnabled with
      | true =>
        rw [hredis] at hfind
        exact h.value u d hfind
      | false =>
        rw [hredis] at hfind
        rcases find?_tidyQuotas s.quotas (t.charge E).date (quotaKey u d) with hsame | hnone
        · have hvalue := h.value u d (by rw [←hsame]; exact hfind)
          rw [←hvalue]
          exact congrArg (Option.getD · 0) hsame
        · exact absurd hnone hfind
  · intro u d hfind
    have hkey : quotaKey u d≠(t.charge E).key := by
      intro hkey
      rw [hkey,Keyed.find?_put_self] at hfind
      exact absurd hfind (by simp)
    rw [Keyed.find?_put_of_ne _ _ hkey] at hfind
    cases hredis : E.redisEnabled with
    | true =>
      rw [hredis] at hfind
      exact h.absent u d hfind
    | false =>
      change messagesOf s.refused u d = 0
      rw [hp.localOnly hredis]
      rfl
  · intro u d
    have hnonneg := messagesOf_nonneg hp.refused (t.charge E).userId (t.charge E).date
    have hlimit := h.limit u d
    change messagesOf (t.charge E::s.recorded) u d≤S.quotaPerDay
    rw [messagesOf_cons]
    by_cases hc : (t.charge E).userId = u ∧ (t.charge E).date = d
    · obtain ⟨rfl,rfl⟩ := hc
      rw [if_pos ⟨rfl,rfl⟩]
      omega
    · rw [if_neg hc,zero_add]
      exact hlimit

lemma charge_key_iff {c : Charge} {u : ℤ} {d : String} : quotaKey u d = c.key ↔ c.userId = u ∧ c.date = d := by
  rw [eq_comm]
  exact quotaKey_inj

/-- A turn that Redis counted above the limit: something is recorded on its day. -/
lemma balanced_over (h : Balanced E S s) {i : ℕ} {c : Charge}
    (hpending : c.n≤S.quotaPerDay ∨ 0 < messagesOf s.recorded c.userId c.date)
    (hrecorded : 0 ≤ messagesOf s.recorded c.userId c.date)
    (hv : quotaOf s.quotas c.key = messagesOf s.recorded c.userId c.date+messagesOf s.refused c.userId c.date)
    (hlt : S.quotaPerDay<quotaOf s.quotas c.key+c.n) :
    Balanced E S { s with
      quotas := s.quotas.put c.key (quotaOf s.quotas c.key+c.n)
      resolved := s.resolved.eraseIdx i
      refused := s.refused++[c] } := by
  have hday : 0 < messagesOf s.recorded c.userId c.date := by
    rcases hrecorded.eq_or_lt with hzero | hpos
    · have hnone := h.refused_eq_zero hzero.symm
      omega
    · exact hpos
  constructor
  · intro t ht
    exact h.pending t (List.mem_of_mem_eraseIdx ht)
  · exact List.forall_mem_append.mpr ⟨h.refused,List.forall_mem_singleton.mpr hday⟩
  · intro u d hfind
    rw [messagesOf_append_singleton]
    by_cases hkey : quotaKey u d = c.key
    · obtain ⟨rfl,rfl⟩ := charge_key_iff.mp hkey
      rw [hkey,quotaOf_put_self,if_pos ⟨rfl,rfl⟩,hv]
      ring
    · rw [Keyed.find?_put_of_ne _ _ hkey] at hfind
      rw [if_neg (fun hc => hkey (charge_key_iff.mpr hc)),zero_add,quotaOf_put_of_ne _ hkey]
      exact h.value u d hfind
  · intro u d hfind
    have hkey : quotaKey u d≠c.key := by
      intro hkey
      rw [hkey,Keyed.find?_put_self] at hfind
      exact absurd hfind (by simp)
    rw [Keyed.find?_put_of_ne _ _ hkey] at hfind
    rw [messagesOf_append_singleton,if_neg (fun hc => hkey (charge_key_iff.mpr hc)),zero_add]
    exact h.absent u d hfind
  · exact h.limit

lemma balanced_tidied (hnone : s.refused = []) (h : Balanced E S s) (i : ℕ) (date : String) :
    Balanced E S { s with quotas := tidyQuotas s.quotas date, resolved := s.resolved.eraseIdx i } := by
  constructor
  · intro t ht
    exact h.pending t (List.mem_of_mem_eraseIdx ht)
  · exact h.refused
  · intro u d hfind
    rcases find?_tidyQuotas s.quotas date (quotaKey u d) with hsame | hgone
    · rw [←h.value u d (by rw [←hsame]; exact hfind)]
      exact congrArg (Option.getD · 0) hsame
    · exact absurd hgone hfind
  · intro u d _
    change messagesOf s.refused u d = 0
    rw [hnone]
    rfl
  · exact h.limit

/-- The counter of a turn that is to be taken back is there. -/
lemma Balanced.quotaOf_refused (hp : Proper E s) (h : Balanced E S s) {i : ℕ} {c : Charge}
    (hc : s.refused[i]? = some c) : quotaOf s.quotas c.key =
      messagesOf s.recorded c.userId c.date+messagesOf s.refused c.userId c.date := by
  apply h.value
  intro hfind
  have hzero := h.absent c.userId c.date hfind
  have herase := messagesOf_eraseIdx hc c.userId c.date
  have hnonneg := messagesOf_nonneg (fun r hr => hp.refused r (List.mem_of_mem_eraseIdx hr)) (l := s.refused.eraseIdx i)
    c.userId c.date
  have hpos := hp.refused c (List.mem_of_getElem? hc)
  rw [if_pos ⟨rfl,rfl⟩] at herase
  omega

lemma balanced_giveBack (hp : Proper E s) (h : Balanced E S s) {i : ℕ} {c : Charge} (hc : s.refused[i]? = some c) :
    Balanced E S (s.giveBack i c) := by
  have hv := h.quotaOf_refused hp hc
  unfold CaptureState.giveBack
  constructor
  · exact h.pending
  · exact fun r hr => h.refused r (List.mem_of_mem_eraseIdx hr)
  · intro u d hfind
    dsimp only at hfind ⊢
    rw [messagesOf_eraseIdx hc]
    by_cases hkey : quotaKey u d = c.key
    · obtain ⟨rfl,rfl⟩ := charge_key_iff.mp hkey
      rw [hkey,quotaOf_put_self,if_pos ⟨rfl,rfl⟩,hv]
      ring
    · rw [Keyed.find?_put_of_ne _ _ hkey] at hfind
      rw [if_neg (fun hc => hkey (charge_key_iff.mpr hc)),sub_zero,quotaOf_put_of_ne _ hkey]
      exact h.value u d hfind
  · intro u d hfind
    dsimp only at hfind ⊢
    have hkey : quotaKey u d≠c.key := by
      intro hkey
      rw [hkey,Keyed.find?_put_self] at hfind
      exact absurd hfind (by simp)
    rw [Keyed.find?_put_of_ne _ _ hkey] at hfind
    rw [messagesOf_eraseIdx hc,if_neg (fun hc => hkey (charge_key_iff.mpr hc)),sub_zero]
    exact h.absent u d hfind
  · exact h.limit

lemma balanced_step (hQ : 1≤S.quotaPerDay) {c : TxSystem.Config CaptureState Empty} (hp : Proper E c.state)
    (h : Balanced E S c.state) (hg : Meets E S c op) (hs : (captureSystem E S).step c.state op = some (s',es)) :
    Balanced E S s' := by
  cases op with
  | prepare task newConversationId =>
    obtain ⟨t,ht,heq⟩ := Option.map_eq_some_iff.mp hs
    obtain rfl := (Prod.mk.inj heq).1
    refine { h with pending := List.forall_mem_append.mpr ⟨h.pending,List.forall_mem_singleton.mpr ?_⟩ }
    rcases hg with hdropped | hday | hfits
    · exact absurd hdropped (prepareTurn_eq_some ht).1
    · refine .inr ?_
      rw [Turn.charge,(prepareTurn_eq_some ht).2.1]
      exact hday
    · exact .inl ((pending_le_iff_fits hQ hp.cursors ht).2.mpr hfits)
  | consume i =>
    obtain ⟨t,ht,heq⟩ := Option.map_eq_some_iff.mp hs
    obtain rfl := (Prod.mk.inj heq).1
    have hmem := List.mem_of_getElem? ht
    have hpos := (hp.resolved t hmem).2
    have hv := h.quotaOf_eq (hg t ht)
    rcases consume_cases (E := E) (s := c.state) hQ hpos i with ⟨hle,heq⟩ | ⟨hlt,⟨-,heq⟩ | ⟨hlocal,heq⟩⟩
    · rw [heq]
      exact balanced_accepted hp h (Nat.cast_pos.mpr hpos) hv hle
    · rw [heq]
      exact balanced_over h (h.pending t hmem) (messagesOf_nonneg hp.recorded _ _) hv hlt
    · rw [heq]
      exact balanced_tidied (hp.localOnly hlocal) h i _
  | consumeFails i => exact hg.elim
  | giveBack i =>
    obtain ⟨r,hr,heq⟩ := Option.map_eq_some_iff.mp hs
    obtain rfl := (Prod.mk.inj heq).1
    exact balanced_giveBack hp h hr
  | giveBackFails i => exact hg.elim
  | commit i =>
    obtain ⟨t,-,heq⟩ := Option.map_eq_some_iff.mp hs
    obtain rfl := (Prod.mk.inj heq).1
    exact { h with }
  | expireCursor key =>
    obtain rfl := (Prod.mk.inj (Option.some.inj hs)).1
    exact { h with }
  | expireQuota key =>
    obtain rfl := (Prod.mk.inj (Option.some.inj hs)).1
    refine { h with value := ?_, absent := ?_ }
    · intro u d hfind
      dsimp only at hfind ⊢
      rw [Keyed.find?_erase] at hfind
      split_ifs at hfind with hkey
      · exact absurd rfl hfind
      · rw [←h.value u d hfind,quotaOf,quotaOf,Keyed.find?_erase,if_neg hkey]
    · intro u d hfind
      dsimp only at hfind ⊢
      rw [Keyed.find?_erase] at hfind
      split_ifs at hfind with hkey
      · apply messagesOf_eq_zero
        intro r hr hc
        exact hg r hr ((charge_key_iff.mpr hc).symm.trans (beq_iff_eq.mp hkey))
      · exact h.absent u d hfind

/-! ## The quota -/

/-- What a counter comes to when all turns of its day that went over the limit have been taken back. -/
def CaptureState.settled (s : CaptureState) (c : Charge) : ℤ :=
  quotaOf s.quotas c.key-messagesOf s.refused c.userId c.date

variable (E S) in
/-- The first turn of a day is accepted, with at most the day's quota; a refused turn leaves its counter unchanged,
with Redis once it has been taken back. -/
def QuotaFair (c : TxSystem.Config CaptureState Empty) (op : CaptureOp) (c' : TxSystem.Config CaptureState Empty) :
    Prop :=
  match op with
  | .consume i => ∀ t∈c.state.resolved[i]?,
    (messagesOf c.state.recorded (t.charge E).userId (t.charge E).date = 0 →
      t.pending.length≤S.quotaPerDay ∧ c'.state.recorded = t.charge E::c.state.recorded) ∧
    (c'.state.recorded = c.state.recorded → c'.state.settled (t.charge E) = c.state.settled (t.charge E) ∧
      (E.redisEnabled = false → quotaOf c'.state.quotas (t.charge E).key = quotaOf c.state.quotas (t.charge E).key))
  | .giveBack i => ∀ r∈c.state.refused[i]?, c'.state.settled r = c.state.settled r
  | _ => True

lemma settled_giveBack {i : ℕ} {r : Charge} (hr : s.refused[i]? = some r) : (s.giveBack i r).settled r = s.settled r := by
  unfold CaptureState.settled CaptureState.giveBack
  dsimp only
  rw [quotaOf_put_self,messagesOf_eraseIdx hr,if_pos ⟨rfl,rfl⟩]
  ring

lemma consume_fair (hQ : 1≤S.quotaPerDay) {c : TxSystem.Config CaptureState Empty} (hp : Proper E c.state)
    (h : Balanced E S c.state) {i : ℕ} (hg : Meets E S c (.consume i)) {t : Turn} (ht : c.state.resolved[i]? = some t)
    (history : List Empty) : QuotaFair E S c (.consume i) ⟨c.state.consume E S i t,history⟩ := by
  intro t' ht'
  obtain rfl := Option.some.inj (ht.symm.trans ht')
  have hmem := List.mem_of_getElem? ht
  have hpos := (hp.resolved t hmem).2
  have hv := h.quotaOf_eq (hg t ht)
  have hrecorded := messagesOf_nonneg hp.recorded (t.charge E).userId (t.charge E).date
  have hlong : S.quotaPerDay<quotaOf c.state.quotas (t.charge E).key+t.pending.length →
      messagesOf c.state.recorded (t.charge E).userId (t.charge E).date≠0 := by
    intro hlt hzero
    have hnone := h.refused_eq_zero hzero
    have hday := (h.pending t hmem).resolve_right (by omega)
    change (t.pending.length : ℤ)≤S.quotaPerDay at hday
    rw [Charge.key] at hlt
    omega
  rcases consume_cases (E := E) (s := c.state) hQ hpos i with ⟨hle,heq⟩ | ⟨hlt,⟨hredis,heq⟩ | ⟨-,heq⟩⟩
  · rw [heq]
    constructor
    · intro hzero
      have hnone := h.refused_eq_zero hzero
      refine ⟨?_,rfl⟩
      rw [Charge.key] at hle
      omega
    · intro hsame
      exact absurd hsame (List.cons_ne_self _ _)
  · rw [heq]
    refine ⟨fun hzero => absurd hzero (hlong hlt),fun _ => ⟨?_,?_⟩⟩
    · unfold CaptureState.settled
      rw [quotaOf_put_self,messagesOf_append_singleton,if_pos ⟨rfl,rfl⟩]
      change _ +(t.pending.length : ℤ)-((t.pending.length : ℤ)+_) = _
      ring
    · intro hlocal
      exact absurd (hredis.symm.trans hlocal) (by decide)
  · rw [heq]
    have hself : quotaOf (tidyQuotas c.state.quotas (t.charge E).date) (t.charge E).key =
        quotaOf c.state.quotas (t.charge E).key :=
      congrArg (Option.getD · 0) (find?_tidyQuotas_self c.state.quotas _ _)
    refine ⟨fun hzero => absurd hzero (hlong hlt),fun _ => ⟨?_,fun _ => hself⟩⟩
    unfold CaptureState.settled
    rw [hself]

end

/-- In any interleaving whose operations meet the condition, the first turn of a day is accepted, no day has more
messages recorded than the quota, and refused turns leave no residue. -/
theorem first_turn_accepted (E : Surroundings) (S : MessageCaptureSetting) (hQ : 1≤S.quotaPerDay) (ops : List CaptureOp)
    (h : (captureSystem E S).Guarded (Meets E S) ⟨.init,[]⟩ ops) :
    (captureSystem E S).Always (fun c => ∀ u d, messagesOf c.state.recorded u d≤S.quotaPerDay) ⟨.init,[]⟩ ops ∧
      (captureSystem E S).Transitions (QuotaFair E S) ⟨.init,[]⟩ ops := by
  have hinv : (captureSystem E S).Always (fun c => Proper E c.state ∧ Balanced E S c.state) ⟨.init,[]⟩ ops := by
    apply TxSystem.always_of_guarded _ _ h
    · refine ⟨⟨?_,by simp [CaptureState.init],by simp [CaptureState.init],by simp [CaptureState.init],
        by simp [CaptureState.init],fun _ => rfl⟩,⟨by simp [CaptureState.init],by simp [CaptureState.init],
        fun u d hfind => absurd rfl hfind,fun u d _ => rfl,fun u d => zero_le_one.trans hQ⟩⟩
      intro k c hc
      exact nomatch hc
    · intro d op s' es hd hg hs
      exact ⟨proper_step hQ hd.1 hs,balanced_step hQ hd.1 hd.2 hg hs⟩
  refine ⟨hinv.mono (fun c hc => hc.2.limit),TxSystem.transitions_of_guarded hinv h ?_ ?_⟩
  · intro d op _ _ hs
    cases op with
    | consume i =>
      intro t ht
      exact absurd (ht.symm.trans (Option.map_eq_none_iff.mp hs)) (by simp)
    | giveBack i =>
      intro r hr
      exact absurd (hr.symm.trans (Option.map_eq_none_iff.mp hs)) (by simp)
    | _ => trivial
  · intro d op s' es hd hg hs
    cases op with
    | consume i =>
      obtain ⟨t,ht,heq⟩ := Option.map_eq_some_iff.mp hs
      obtain ⟨rfl,rfl⟩ := Prod.mk.inj heq
      exact consume_fair hQ hd.1 hd.2 hg ht _
    | giveBack i =>
      obtain ⟨r,hr,heq⟩ := Option.map_eq_some_iff.mp hs
      obtain rfl := (Prod.mk.inj heq).1
      intro r' hr'
      obtain rfl := Option.some.inj (hr.symm.trans hr')
      exact settled_giveBack hr
    | _ => trivial

/-! ## A conversation that outgrows the quota -/

/-- A digest for examples: the characters as digits of one number. -/
def digitsDigest (s : String) : String := printNat (s.toList.foldl (fun h c => (h*257+c.toNat)%(2^61-1)) 7)

/-- One process without Redis; a day is a thousand seconds long. -/
def oneProcess : Surroundings where
  redisEnabled := false
  dateOf ts := if ts<1000 then "2026-08-03" else "2026-08-04"
  sha256 := digitsDigest

def twoADay : MessageCaptureSetting := ⟨2,50⟩

def said (role text : String) : ParsedMessage := ⟨role,text,"",""⟩

/-- A request for a reply to everything said so far. -/
def chat (ts : ℤ) (texts : List (String × String)) (reply : String) : MsgTask :=
  ⟨7,"912345678901",ts,texts.map (fun m => said m.1 m.2),some (said "assistant" reply)⟩

/-- The first turn of the second day answers the turn that the first day had no room for. -/
def outgrown : List CaptureOp :=
  [.prepare (chat 1 [("user","a")] "b") "c_1",.consume 0,.commit 0,
    .prepare (chat 2 [("user","a"),("assistant","b"),("user","c")] "d") "c_2",.consume 0,
    .prepare (chat 1000 [("user","a"),("assistant","b"),("user","c"),("assistant","d"),("user","e")] "f") "c_3",
    .consume 0]

/-- The second day begins with a new conversation. -/
def restarted : List CaptureOp :=
  [.prepare (chat 1 [("user","a")] "b") "c_1",.consume 0,.commit 0,.prepare (chat 1000 [("user","e")] "f") "c_2",
    .consume 0]

theorem restarted_accepted :
    (captureSystem oneProcess twoADay).Always (fun c => ∀ u d, messagesOf c.state.recorded u d≤twoADay.quotaPerDay)
      ⟨.init,[]⟩ restarted ∧
    (captureSystem oneProcess twoADay).Transitions (QuotaFair oneProcess twoADay) ⟨.init,[]⟩ restarted := by
  apply first_turn_accepted oneProcess twoADay (by decide)
  have hshort : ∀ cursors ts text reply, Fits digitsDigest twoADay cursors (chat ts [("user",text)] reply) := by
    intro cursors ts text reply
    exact ⟨fun i hi => absurd hi (by simp [chat]),fun _ => .inl (by decide)⟩
  refine ⟨.inr (.inr (hshort _ _ _ _)),?_,trivial,.inr (.inr (hshort _ _ _ _)),?_,trivial⟩
  · intro t ht
    obtain rfl := Option.some.inj ht
    exact .inl rfl
  · intro t ht
    obtain rfl := Option.some.inj ht
    exact .inl (by decide +kernel)

/-- Every turn of the conversation answers what the quota had no room for, so that none has room any more. -/
theorem outgrown_refused : ¬∀ (E : Surroundings) (S : MessageCaptureSetting), 1≤S.quotaPerDay → ∀ ops : List CaptureOp,
    (captureSystem E S).Always (fun c => ∀ u d, messagesOf c.state.recorded u d≤S.quotaPerDay) ⟨.init,[]⟩ ops ∧
      (captureSystem E S).Transitions (QuotaFair E S) ⟨.init,[]⟩ ops := by
  intro h
  obtain ⟨-,-,-,-,-,-,hlast,-⟩ := (h oneProcess twoADay (by decide) outgrown).2
  have hstarved : ∀ c c', QuotaFair oneProcess twoADay c (.consume 0) c' →
      c.state.resolved[0]?.any (fun t => messagesOf c.state.recorded (t.charge oneProcess).userId
        (t.charge oneProcess).date = 0 ∧ twoADay.quotaPerDay<t.pending.length) = false := by
    intro c c' hfair
    rw [Option.any_eq_false]
    intro t ht
    have hfirst := (hfair t ht).1
    apply decide_eq_false
    rintro ⟨hzero,hlt⟩
    exact absurd (hfirst hzero).1 (not_le.mpr hlt)
  have hfirst := hstarved _ _ hlast
  exact absurd hfirst (by decide +kernel)

end Capture
end Tierflow
