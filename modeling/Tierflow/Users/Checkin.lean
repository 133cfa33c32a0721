import Tierflow.Foundation.Table
import Tierflow.Foundation.Tasks

/-! Daily check-ins. A request looks for today's row, and only then makes one and credits the award: in one
transaction, or with SQLite statement by statement, taking the row back when the credit fails. Any statement may fail,
and those of different requests may be interleaved. -/
namespace Tierflow
open TxSystem TaskSystem
namespace Users

structure Checkin where
  userId : ℕ
  checkinDate : String
  quotaAwarded : ℤ
  createdAt : ℤ
  deriving DecidableEq, Repr

/-- The check-ins under their unique index, and the quotas of the users. -/
structure CheckinStore where
  checkins : Table Checkin
  unique : checkins.Unique (fun c => (c.userId,c.checkinDate))
  quota : ℕ → Option ℤ

/-- The settings; the statements of SQLite stand alone. -/
structure CheckinSetting where
  enabled : Bool
  minQuota : ℤ
  maxQuota : ℤ
  usingSQLite : Bool

/-- Which statements the database will refuse. -/
structure CheckinFaults where
  create : Bool
  increase : Bool
  delete : Bool

/-- A request reads the date twice, and draws a number. -/
structure CheckinRequest where
  userId : ℕ
  checkedOn : String
  createdOn : String
  createdAt : ℤ
  roll : ℕ
  faults : CheckinFaults

inductive CheckinTask
  | create (c : Checkin) (f : CheckinFaults)
  | increase (id : ℕ) (c : Checkin) (f : CheckinFaults)
  | delete (id : ℕ) (c : Checkin) (f : CheckinFaults)

inductive CheckinEvent
  | failed (message : String)
  | credited (userId : ℕ) (award : ℤ)
  /-- The row stays although its award was not credited. -/
  | orphaned (userId : ℕ) (award : ℤ)

/-! ## The code -/

def CheckinStore.insert (s : CheckinStore) (c : Checkin)
    (h : ∀k b,s.checkins.find? k = some b → (b.userId,b.checkinDate)≠(c.userId,c.checkinDate)) : CheckinStore :=
  ⟨s.checkins.insert c,s.unique.insert h,s.quota⟩

lemma unique_delete {t : Table Checkin} (h : t.Unique (fun c => (c.userId,c.checkinDate))) (id : ℕ) :
    (t.delete id).Unique (fun c => (c.userId,c.checkinDate)) := by
  intro j k a b hj hk hab
  rw [Table.find?_delete] at hj hk
  split_ifs at hj hk
  exact h j k a b hj hk hab

def CheckinStore.increaseQuota (s : CheckinStore) (userId : ℕ) (award : ℤ) : CheckinStore :=
  { s with quota := Function.update s.quota userId ((s.quota userId).map (· + award)) }

/-- The number that is drawn is below the width of the range. -/
def CheckinSetting.award (S : CheckinSetting) (roll : ℕ) : ℤ :=
  if S.minQuota<S.maxQuota then S.minQuota+(roll%(S.maxQuota-S.minQuota+1).toNat : ℕ) else S.minQuota

def userCheckin (S : CheckinSetting) (s : CheckinStore) (r : CheckinRequest) :
    CheckinStore × List CheckinTask × List CheckinEvent :=
  if S.enabled = false then (s,[],[.failed "签到功能未启用"])
  else if 0 < s.checkins.count (fun c => c.2.userId=r.userId ∧ c.2.checkinDate=r.checkedOn) then
    (s,[],[.failed "今日已签到"])
  else (s,[.create ⟨r.userId,r.createdOn,S.award r.roll,r.createdAt⟩ r.faults],[])

/-- The next statement; with a transaction there is only one. -/
def checkinStatement (S : CheckinSetting) (s : CheckinStore) :
    CheckinTask → CheckinStore × List CheckinTask × List CheckinEvent
  | .create c f =>
    if h : f.create = false ∧ s.checkins.first? (fun r => (r.2.userId,r.2.checkinDate)=(c.userId,c.checkinDate)) = none then
      let s' := s.insert c (fun k b hk => by simpa using Table.first?_eq_none_iff.mp h.2 k b hk)
      if S.usingSQLite then (s',[.increase s.checkins.next c f],[])
      else if f.increase then (s,[],[.failed "签到失败：更新额度出错"])
      else (s'.increaseQuota c.userId c.quotaAwarded,[],[.credited c.userId c.quotaAwarded])
    else (s,[],[.failed "签到失败，请稍后重试"])
  | .increase id c f =>
    if c.quotaAwarded<0 ∨ f.increase = true then (s,[.delete id c f],[])
    else (s.increaseQuota c.userId c.quotaAwarded,[],[.credited c.userId c.quotaAwarded])
  | .delete id c f =>
    if f.delete then (s,[],[.orphaned c.userId c.quotaAwarded,.failed "签到失败：更新额度出错"])
    else (⟨s.checkins.delete id,unique_delete s.unique id,s.quota⟩,[],[.failed "签到失败：更新额度出错"])

def checkinSystem (S : CheckinSetting) : TaskSystem CheckinStore CheckinTask CheckinRequest CheckinEvent where
  start := userCheckin S
  advance := checkinStatement S

/-! ## The account -/

def creditedTo (u : ℕ) : CheckinEvent → ℤ
  | .credited v a => if v=u then a else 0
  | _ => 0

def orphanedOf (u : ℕ) : CheckinEvent → ℤ
  | .orphaned v a => if v=u then a else 0
  | _ => 0

/-- The row that a task has still to account for. -/
def CheckinTask.row? : CheckinTask → Option (ℕ × Checkin)
  | .create _ _ => none
  | .increase id c _ => some (id,c)
  | .delete id c _ => some (id,c)

def CheckinTask.id? (t : CheckinTask) : Option ℕ := t.row?.map Prod.fst

def CheckinTask.checkin : CheckinTask → Checkin
  | .create c _ => c
  | .increase _ c _ => c
  | .delete _ c _ => c

def awardOf (u : ℕ) (c : Checkin) : ℤ := if c.userId=u then c.quotaAwarded else 0

def pendingOf (u : ℕ) (t : CheckinTask) : ℤ := (t.row?.map (fun r => awardOf u r.2)).getD 0

def recordedFor (u : ℕ) (s : CheckinStore) : ℤ := s.checkins.sum (fun _ c => awardOf u c)

def CheckinSetting.Offers (S : CheckinSetting) (a : ℤ) : Prop := S.minQuota≤a ∧ a ≤ max S.minQuota S.maxQuota

/-- What is recorded for a user is what was credited, what is still to be credited or taken back, and what could not be
taken back; every quota has grown by what was credited; and every new award is one that the settings offer. -/
structure CheckinsBalanced (S : CheckinSetting) (s0 : CheckinStore) (c : Config CheckinStore CheckinTask CheckinEvent) :
    Prop where
  recorded : ∀u,recordedFor u c.state.shared = recordedFor u s0+(c.history.map (creditedTo u)).sum+
    (c.history.map (orphanedOf u)).sum+(c.state.tasks.map (pendingOf u)).sum
  quota : ∀u,c.state.shared.quota u = (s0.quota u).map (· + (c.history.map (creditedTo u)).sum)
  offered : ∀k a,c.state.shared.checkins.find? k = some a → s0.checkins.find? k = some a ∨ S.Offers a.quotaAwarded

/-- The tasks hold rows of their own. -/
structure CheckinsHeld (S : CheckinSetting) (s : CheckinStore) (ts : List CheckinTask) : Prop where
  held : ∀t∈ts,∀r∈t.row?,s.checkins.find? r.1 = some r.2
  distinct : (ts.filterMap CheckinTask.id?).Nodup
  offered : ∀t∈ts,S.Offers t.checkin.quotaAwarded

section
variable {S : CheckinSetting} {s s0 : CheckinStore}

lemma CheckinSetting.offers_award (S : CheckinSetting) (roll : ℕ) : S.Offers (S.award roll) := by
  unfold CheckinSetting.Offers CheckinSetting.award
  split_ifs with h
  · have := Nat.mod_lt roll (show 0 < (S.maxQuota-S.minQuota+1).toNat by omega)
    omega
  · omega

lemma CheckinsHeld.perm {ts ts' : List CheckinTask} (hp : ts.Perm ts') (h : CheckinsHeld S s ts) :
    CheckinsHeld S s ts' where
  held t ht := h.held t (hp.mem_iff.mpr ht)
  distinct := (hp.filterMap _).nodup_iff.mp h.distinct
  offered t ht := h.offered t (hp.mem_iff.mpr ht)

lemma sum_delete {t : Table Checkin} {k : ℕ} {c : Checkin} (h : t.find? k = some c) (f : Checkin → ℤ) :
    (t.delete k).sum (fun _ c => f c) = t.sum (fun _ c => f c)-f c := by
  have hsplit : ∀l : List (ℕ × Checkin),(l.map Prod.fst).Nodup → (k,c)∈l →
      ((l.filter (fun r => r.1 != k)).map (fun r => f r.2)).sum = (l.map (fun r => f r.2)).sum-f c := by
    intro l hl hm
    induction l with
    | nil => cases hm
    | cons r l ih =>
      obtain ⟨hr,hl⟩ := List.nodup_cons.mp hl
      rcases List.mem_cons.mp hm with rfl | hm
      · have hrest : l.filter (fun r => r.1 != k) = l := List.filter_eq_self.mpr fun x hx => by
          simpa using fun hxk => hr (List.mem_map.mpr ⟨x,hx,hxk⟩)
        simp [hrest]
      · have hne : r.1≠k := fun hrk => hr (List.mem_map.mpr ⟨(k,c),hm,hrk.symm⟩)
        rw [List.filter_cons_of_pos (by simpa using hne),List.map_cons,List.sum_cons,ih hl hm,List.map_cons,
          List.sum_cons]
        omega
  exact hsplit t.rows t.keys_nodup ((t.find?_eq_some_iff k c).mp h)

/-- What one statement of a task does, to the sums and to the rows of the others. -/
structure StatementSpec (S : CheckinSetting) (s : CheckinStore) (t : CheckinTask)
    (o : CheckinStore × List CheckinTask × List CheckinEvent) : Prop where
  recorded : ∀u,recordedFor u o.1+pendingOf u t = recordedFor u s+(o.2.2.map (creditedTo u)).sum+
    (o.2.2.map (orphanedOf u)).sum+(o.2.1.map (pendingOf u)).sum
  quota : ∀u,o.1.quota u = (s.quota u).map (· + (o.2.2.map (creditedTo u)).sum)
  offered : ∀k a,o.1.checkins.find? k = some a → s.checkins.find? k = some a ∨ S.Offers a.quotaAwarded
  held : CheckinsHeld S o.1 o.2.1
  others : ∀k c,s.checkins.find? k = some c → t.id?≠some k →
    o.1.checkins.find? k = some c ∧ ∀t'∈o.2.1,t'.id?≠some k

lemma quota_increaseQuota (s : CheckinStore) (u v : ℕ) (a : ℤ) :
    (s.increaseQuota v a).quota u = (s.quota u).map (· + if v=u then a else 0) := by
  unfold CheckinStore.increaseQuota
  by_cases hu : u=v
  · subst hu
    simp
  · simp [Function.update_of_ne hu,Ne.symm hu]

/-- A statement that fails leaves everything as it is. -/
lemma statementSpec_failed (message : String) (t : CheckinTask) (ht : t.row? = none) :
    StatementSpec S s t (s,[],[.failed message]) := by
  refine ⟨fun u => ?_,fun u => ?_,fun k a h => .inl h,⟨nofun,List.nodup_nil,nofun⟩,fun k c hk _ => ⟨hk,nofun⟩⟩
  · simp [pendingOf,ht,creditedTo,orphanedOf]
  · simp [creditedTo]

theorem statement_spec {t : CheckinTask} (hrow : ∀r∈t.row?,s.checkins.find? r.1 = some r.2)
    (hoff : S.Offers t.checkin.quotaAwarded) : StatementSpec S s t (checkinStatement S s t) := by
  cases t with
  | create c f =>
    rw [checkinStatement]
    by_cases h : f.create = false ∧
        s.checkins.first? (fun r => (r.2.userId,r.2.checkinDate)=(c.userId,c.checkinDate)) = none
    swap
    · rw [dif_neg h]
      exact statementSpec_failed _ _ rfl
    rw [dif_pos h]
    dsimp only
    have hkept : ∀k b,s.checkins.find? k = some b → (s.checkins.insert c).find? k = some b := fun k b hk =>
      Table.find?_insert_of_some c hk
    have hnew : ∀k b,(s.checkins.insert c).find? k = some b → s.checkins.find? k = some b ∨ S.Offers b.quotaAwarded := by
      intro k b hk
      rw [Table.find?_insert] at hk
      split_ifs at hk
      · obtain rfl := Option.some.inj hk
        exact .inr hoff
      · exact .inl hk
    split_ifs with hs hf
    · refine ⟨fun u => ?_,fun u => ?_,hnew,⟨?_,?_,?_⟩,fun k b hk _ => ⟨hkept k b hk,?_⟩⟩
      · simp [CheckinStore.insert,recordedFor,pendingOf,CheckinTask.row?]
      · simp [CheckinStore.insert]
      · simp [CheckinTask.row?,CheckinStore.insert]
      · exact List.nodup_singleton _
      · simpa [CheckinTask.checkin] using hoff
      · have := (Table.find?_lt hk).2
        simp [CheckinTask.id?,CheckinTask.row?]
        omega
    · exact statementSpec_failed _ _ rfl
    · refine ⟨fun u => ?_,fun u => ?_,hnew,⟨nofun,List.nodup_nil,nofun⟩,fun k b hk _ => ⟨hkept k b hk,nofun⟩⟩
      · simp [CheckinStore.insert,CheckinStore.increaseQuota,recordedFor,pendingOf,CheckinTask.row?,creditedTo,
          orphanedOf,awardOf]
      · rw [quota_increaseQuota]
        simp [CheckinStore.insert,creditedTo]
  | increase id c f =>
    have hid := hrow (id,c) rfl
    rw [checkinStatement]
    split_ifs with h
    · refine ⟨fun u => ?_,fun u => ?_,fun k a h => .inl h,⟨?_,?_,?_⟩,fun k b hk hne => ⟨hk,?_⟩⟩
      · simp [pendingOf,CheckinTask.row?]
      · simp
      · simpa [CheckinTask.row?] using hid
      · exact List.nodup_singleton _
      · simpa [CheckinTask.checkin] using hoff
      · simpa [CheckinTask.id?,CheckinTask.row?] using hne
    · refine ⟨fun u => ?_,fun u => ?_,fun k a h => .inl h,⟨nofun,List.nodup_nil,nofun⟩,fun k b hk _ => ⟨hk,nofun⟩⟩
      · simp [pendingOf,CheckinTask.row?,creditedTo,orphanedOf,awardOf,recordedFor,CheckinStore.increaseQuota]
      · rw [quota_increaseQuota]
        simp [creditedTo]
  | delete id c f =>
    have hid := hrow (id,c) rfl
    rw [checkinStatement]
    split_ifs with h
    · refine ⟨fun u => ?_,fun u => ?_,fun k a h => .inl h,⟨nofun,List.nodup_nil,nofun⟩,fun k b hk _ => ⟨hk,nofun⟩⟩
      · simp [pendingOf,CheckinTask.row?,creditedTo,orphanedOf,awardOf]
      · simp [creditedTo]
    · refine ⟨fun u => ?_,fun u => ?_,fun k a hk => ?_,⟨nofun,List.nodup_nil,nofun⟩,fun k b hk hne => ⟨?_,nofun⟩⟩
      · simp [pendingOf,CheckinTask.row?,creditedTo,orphanedOf,recordedFor,sum_delete hid]
      · simp [creditedTo]
      · rw [Table.find?_delete] at hk
        split_ifs at hk
        exact .inl hk
      · rw [Table.find?_delete,if_neg,hk]
        rintro rfl
        exact hne rfl

/-- The tasks after a statement of one of them. -/
lemma CheckinsHeld.step {t : CheckinTask} {ts : List CheckinTask} {o : CheckinStore × List CheckinTask × List CheckinEvent}
    (h : CheckinsHeld S s (t::ts)) (hs : StatementSpec S s t o) : CheckinsHeld S o.1 (ts++o.2.1) := by
  have hdistinct := h.distinct
  have hother : ∀t'∈ts,∀r∈t'.row?,o.1.checkins.find? r.1 = some r.2 ∧ ∀t''∈o.2.1,t''.id?≠some r.1 := by
    intro t' ht' r hr
    refine hs.others r.1 r.2 (h.held t' (List.mem_cons_of_mem _ ht') r hr) fun hid => ?_
    rw [List.filterMap_cons_some hid,List.nodup_cons] at hdistinct
    exact hdistinct.1 (List.mem_filterMap.mpr ⟨t',ht',by rw [CheckinTask.id?,hr]; rfl⟩)
  refine ⟨fun t' ht' r hr => ?_,?_,fun t' ht' => ?_⟩
  · rcases List.mem_append.mp ht' with ht' | ht'
    · exact (hother t' ht' r hr).1
    · exact hs.held.held t' ht' r hr
  · rw [List.filterMap_append,List.nodup_append]
    refine ⟨?_,hs.held.distinct,?_⟩
    · exact hdistinct.sublist ((List.sublist_cons_self t ts).filterMap _)
    · rintro i hi j hj rfl
      obtain ⟨t',ht',hid⟩ := List.mem_filterMap.mp hi
      obtain ⟨r,hr,rfl⟩ := Option.map_eq_some_iff.mp hid
      obtain ⟨t'',ht'',hid'⟩ := List.mem_filterMap.mp hj
      exact (hother t' ht' r hr).2 t'' ht'' hid'
  · rcases List.mem_append.mp ht' with ht' | ht'
    · exact h.offered t' (List.mem_cons_of_mem _ ht')
    · exact hs.held.offered t' ht'

/-- The account after a statement of one task. -/
lemma CheckinsBalanced.step {t : CheckinTask} {l r : List CheckinTask} {h : List CheckinEvent}
    {o : CheckinStore × List CheckinTask × List CheckinEvent} (hb : CheckinsBalanced S s0 ⟨⟨s,l++t::r⟩,h⟩)
    (hs : StatementSpec S s t o) : CheckinsBalanced S s0 ⟨⟨o.1,l++r++o.2.1⟩,o.2.2++h⟩ := by
  refine ⟨fun u => ?_,fun u => ?_,fun k a hk => ?_⟩
  · have h1 := hb.recorded u
    have h2 := hs.recorded u
    simp only [List.map_append,List.map_cons,List.sum_append,List.sum_cons] at h1 ⊢
    omega
  · have h1 : s.quota u = (s0.quota u).map (· + (h.map (creditedTo u)).sum) := hb.quota u
    dsimp only
    rw [hs.quota u,h1,Option.map_map,List.map_append,List.sum_append]
    congr 1
    funext q
    simp only [Function.comp_apply]
    omega
  · exact (hs.offered k a hk).elim (hb.offered k a) .inr

/-- A request writes nothing; it leaves a task without a row, or none. -/
lemma userCheckin_cases (S : CheckinSetting) (s : CheckinStore) (r : CheckinRequest) :
    (∃message,userCheckin S s r=(s,[],[.failed message])) ∨ ∃c f,userCheckin S s r=(s,[.create c f],[]) ∧
      S.Offers c.quotaAwarded := by
  unfold userCheckin
  split_ifs
  · exact .inl ⟨_,rfl⟩
  · exact .inl ⟨_,rfl⟩
  · exact .inr ⟨_,_,rfl,S.offers_award r.roll⟩

/-- Over every run of any number of check-ins, whatever statements fail and however they are interleaved, in either mode:
the account of every user is in balance. A user has no two check-ins of one day, as the index of the store says. -/
theorem checkins_balanced (S : CheckinSetting) (s0 : CheckinStore) (ops : List (Op CheckinRequest)) :
    (checkinSystem S).toTx.Always (CheckinsBalanced S s0) (initial s0) ops := by
  refine (always_of_each (A := fun _ _ => True) (B := fun _ _ _ => True)
    (P := fun c => CheckinsBalanced S s0 c ∧ CheckinsHeld S c.state.shared c.state.tasks) ?_ ?_ ?_ ?_).mono fun _ h => h.1
  · refine ⟨⟨fun u => ?_,fun u => ?_,fun k a h => .inl h⟩,?_,List.nodup_nil,?_⟩ <;> simp [initial]
  · rintro s ts h i ⟨hb,hh⟩ -
    dsimp only [checkinSystem]
    rcases userCheckin_cases S s i with ⟨message,he⟩ | ⟨c,f,he,hoff⟩
    · rw [he,List.append_nil]
      exact ⟨⟨fun u => by simpa [creditedTo,orphanedOf] using hb.recorded u,
        fun u => by simpa [creditedTo] using hb.quota u,hb.offered⟩,hh⟩
    · rw [he]
      refine ⟨⟨fun u => by simpa [pendingOf,CheckinTask.row?] using hb.recorded u,hb.quota,hb.offered⟩,
        fun t ht r hr => ?_,?_,fun t ht => ?_⟩
      · rcases List.mem_append.mp ht with ht | ht
        · exact hh.held t ht r hr
        · obtain rfl := List.mem_singleton.mp ht
          cases hr
      · rw [List.filterMap_append]
        exact (List.append_nil _).symm ▸ hh.distinct
      · rcases List.mem_append.mp ht with ht | ht
        · exact hh.offered t ht
        · obtain rfl := List.mem_singleton.mp ht
          exact hoff
  · rintro s l t r h ⟨hb,hh⟩ -
    have hs := statement_spec (hh.held t (by simp)) (hh.offered t (by simp))
    exact ⟨hb.step hs,(hh.perm List.perm_middle).step hs⟩
  · refine guarded_of_forall fun i _ d => ?_
    cases i <;> simp [Each]

end
end Users
end Tierflow
