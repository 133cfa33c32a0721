import Mathlib.Data.List.Sort
import Tierflow.Foundation.Keyed
import Tierflow.Foundation.Machine
import Tierflow.Foundation.Text
import Tierflow.Foundation.Transaction

/-! The usage of each hour: calls are gathered under a text key and written to the rows of `quota_data`. A call
is told from another by seven values; the key is these values joined by `-`, while a row is found by the values
themselves. The counters of the table do not leave the range of their columns. -/
namespace Tierflow
namespace Counters
open Text

/-- What a row of the table is for. -/
@[ext]
structure Dims where
  userID : ℤ
  username : String
  strategy : String
  modelGroup : String
  billingSource : String
  subscriptionBucket : String
  createdAt : ℤ
deriving Repr, DecidableEq

structure QuotaData extends Dims where
  id : ℤ := 0
  count : ℤ
  quota : ℤ
  tokenUsed : ℤ
deriving Repr, DecidableEq

inductive Measure
  | count
  | quota
  | tokenUsed
deriving Repr, DecidableEq

lemma Measure.forall_iff {p : Measure → Prop} : (∀ m, p m) ↔ p .count ∧ p .quota ∧ p .tokenUsed :=
  ⟨fun h => ⟨h _,h _,h _⟩,fun ⟨hc,hq,ht⟩ m => by cases m <;> assumption⟩

instance (p : Measure → Prop) [DecidablePred p] : Decidable (∀ m, p m) := decidable_of_iff _ Measure.forall_iff.symm

def QuotaData.value (r : QuotaData) : Measure → ℤ
  | .count => r.count
  | .quota => r.quota
  | .tokenUsed => r.tokenUsed

structure Call where
  userId : ℤ
  username : String
  modelName : String
  modelGroup : String
  billingSource : String
  subscriptionBucket : String
  quota : ℤ
  createdAt : ℤ
  tokenUsed : ℤ
deriving Repr, DecidableEq

def normalizeBillingDims (billingSource subscriptionBucket : String) : String × String :=
  if billingSource = "subscription" then
    (billingSource,if subscriptionBucket = "" then "premium" else subscriptionBucket)
  else (billingSource,"")

/-- The remainder of the machine has the sign of the time. -/
def hour (createdAt : ℤ) : ℤ := createdAt-createdAt.tmod 3600

namespace Call

/-- The values that a call is booked under. -/
def toDims (c : Call) : Dims :=
  let (billingSource,subscriptionBucket) := normalizeBillingDims c.billingSource c.subscriptionBucket
  ⟨c.userId,c.username,c.modelName,c.modelGroup,billingSource,subscriptionBucket,hour c.createdAt⟩

def value (c : Call) : Measure → ℤ
  | .count => 1
  | .quota => c.quota
  | .tokenUsed => c.tokenUsed

def toQuotaData (c : Call) : QuotaData where
  toDims := c.toDims
  count := 1
  quota := c.quota
  tokenUsed := c.tokenUsed

end Call

def Dims.texts (d : Dims) : List String :=
  [d.username,d.strategy,d.modelGroup,d.billingSource,d.subscriptionBucket]

def Dims.key (d : Dims) : String :=
  "-".intercalate (printInt d.userID::(d.texts++[printInt d.createdAt]))

namespace QuotaData

/-- The entry of a key takes a call. -/
def merge (r : QuotaData) (c : Call) : QuotaData :=
  { r with
    count := wrap64 (r.count+1)
    quota := wrap64 (r.quota+c.quota)
    tokenUsed := wrap64 (r.tokenUsed+c.tokenUsed) }

def increase (r e : QuotaData) : QuotaData :=
  { r with count := r.count+e.count, quota := r.quota+e.quota, tokenUsed := r.tokenUsed+e.tokenUsed }

end QuotaData

/-- Values that are not negative and texts without a dash. -/
def Dims.Plain (d : Dims) : Prop :=
  0≤d.userID ∧ 0≤d.createdAt ∧ ∀ s∈d.texts, '-'∉s.toList

lemma dash_notMem_printInt {z : ℤ} (h : 0≤z) : '-'∉(printInt z).toList := by
  rw [printInt,if_neg (not_lt.mpr h),printNat,String.toList_ofList]
  intro hmem
  have hdigit := Nat.isDigit_of_mem_toDigits (b := 10) (by decide) (by decide) hmem
  exact absurd hdigit (by decide)

lemma Dims.Plain.split_key {d : Dims} (h : d.Plain) :
    split d.key '-' = printInt d.userID::(d.texts++[printInt d.createdAt]) := by
  obtain ⟨hu,hc,hd⟩ := h
  refine split_intercalate (List.cons_ne_nil _ _) fun w hw => ?_
  rcases List.mem_cons.mp hw with rfl | hw
  · exact dash_notMem_printInt hu
  · rcases List.mem_append.mp hw with hw | hw
    · exact hd w hw
    · rw [List.mem_singleton.mp hw]
      exact dash_notMem_printInt hc

/-- Only a dash in one of the texts can bring two combinations under one key. -/
theorem Dims.key_injOn : Set.InjOn Dims.key {d | d.Plain} := by
  intro d hd e he hkey
  have hlist := hd.split_key
  rw [hkey,he.split_key] at hlist
  obtain ⟨huser,hrest⟩ := List.cons.inj hlist
  obtain ⟨htexts,htime⟩ := List.append_inj hrest rfl
  simp only [Dims.texts,List.cons.injEq,and_true] at htexts htime
  obtain ⟨hname,hstrategy,hgroup,hsource,hbucket⟩ := htexts
  exact Dims.ext (printInt_injective huser).symm hname.symm hstrategy.symm hgroup.symm hsource.symm hbucket.symm
    (printInt_injective htime).symm

/-! ## The table -/

/-- The rows that the database has numbered. -/
structure QuotaTable where
  rows : List QuotaData
  numbered : ∀ r∈rows, 0 < r.id

namespace QuotaTable

def matching (t : QuotaTable) (d : Dims) : List QuotaData := t.rows.filter (fun r => r.toDims = d)

/-- The row of the least number, or the record as it was. -/
def first (t : QuotaTable) (d : Dims) (r : QuotaData) : QuotaData :=
  ((t.matching d).insertionSort (fun a b => a.id≤b.id)).head?.getD r

def nextId (t : QuotaTable) : ℤ := t.rows.foldr (fun r n => max r.id n) 0+1

lemma nextId_pos (t : QuotaTable) : 0<t.nextId := by
  unfold nextId
  induction t.rows with
  | nil => simp
  | cons r l ih => simp only [List.foldr_cons]; omega

def create (t : QuotaTable) (e : QuotaData) : QuotaTable where
  rows := t.rows++[{ e with id := t.nextId }]
  numbered := by
    intro r hr
    rcases List.mem_append.mp hr with hr | hr
    · exact t.numbered r hr
    · rw [List.mem_singleton.mp hr]
      exact t.nextId_pos

def increaseQuotaData (t : QuotaTable) (key : QuotaData) : QuotaTable where
  rows := t.rows.map (fun r => if r.toDims = key.toDims then r.increase key else r)
  numbered := by
    intro r hr
    obtain ⟨r',hr',rfl⟩ := List.mem_map.mp hr
    have h := t.numbered r' hr'
    split_ifs
    · exact h
    · exact h

def zero : QuotaData := ⟨⟨0,"","","","","",0⟩,0,0,0,0⟩

/-- One entry of the cache is written. -/
def save (t : QuotaTable) (e : QuotaData) : QuotaTable :=
  let quotaDataDB := t.first e.toDims zero
  if 0<quotaDataDB.id then t.increaseQuotaData e else t.create e

/-- What the rows for some values hold together. -/
def total (t : QuotaTable) (m : Measure) (d : Dims) : ℤ := ((t.matching d).map (fun r => r.value m)).sum

end QuotaTable

/-! ## The process -/

structure UsageState where
  cache : Keyed String QuotaData
  table : QuotaTable

/-- An order in which a map is gone over. -/
structure Traversal where
  of : List (String × QuotaData) → List (String × QuotaData)
  perm : ∀ l, (of l).Perm l

inductive UsageOp
  | logQuotaData (c : Call)
  | saveQuotaDataCache (order : Traversal)

namespace UsageState

def logQuotaDataCache (s : UsageState) (c : Call) : UsageState :=
  let key := c.toDims.key
  let quotaData := match s.cache.find? key with
    | some r => r.merge c
    | none => c.toQuotaData
  { s with cache := s.cache.put key quotaData }

def saveQuotaDataCache (s : UsageState) (order : Traversal) : UsageState where
  cache := .empty
  table := (order.of s.cache.rows).foldl (fun t e => t.save e.2) s.table

end UsageState

/-- The calls are the events of a run. -/
def usage : TxSystem UsageState UsageOp Call where
  step s op := match op with
    | .logQuotaData c => some (s.logQuotaDataCache c,[c])
    | .saveQuotaDataCache order => some (s.saveQuotaDataCache order,[])

/-! ## What a row and a call hold of a total -/

section Shares
variable (m : Measure) (d : Dims)

def QuotaData.share (r : QuotaData) : ℤ := if r.toDims = d then r.value m else 0

def Call.share (c : Call) : ℤ := if c.toDims = d then c.value m else 0

def UsageOp.call? : UsageOp → Option Call
  | .logQuotaData c => some c
  | .saveQuotaDataCache _ => none

/-- The calls of a run, in their order. -/
def UsageOp.calls (ops : List UsageOp) : List Call := ops.filterMap UsageOp.call?

def UsageState.pending (s : UsageState) : ℤ := (s.cache.rows.map (fun r => r.2.share m d)).sum

variable {m d} {t : QuotaTable} {e : QuotaData}

lemma total_eq_sum : t.total m d = (t.rows.map (fun r => r.share m d)).sum := by
  unfold QuotaTable.total QuotaTable.matching
  induction t.rows with
  | nil => rfl
  | cons r l ih =>
    rw [List.map_cons,List.sum_cons,←ih,QuotaData.share]
    by_cases h : r.toDims = d
    · rw [List.filter_cons_of_pos (by simpa using h),List.map_cons,List.sum_cons,if_pos h]
    · rw [List.filter_cons_of_neg (by simpa using h),if_neg h,zero_add]

lemma value_increase (r e : QuotaData) : (r.increase e).value m = r.value m+e.value m := by
  cases m <;> rfl

lemma value_toQuotaData (c : Call) : c.toQuotaData.value m = c.value m := by
  cases m <;> rfl

/-- A merge that stays in range is exact. -/
lemma value_merge {r : QuotaData} {c : Call}
    (h : ∀ m, -2^63 ≤ r.value m+c.value m ∧ r.value m+c.value m<2^63) : (r.merge c).value m = r.value m+c.value m := by
  cases m with
  | count => exact wrap64_of_range (h .count).1 (h .count).2
  | quota => exact wrap64_of_range (h .quota).1 (h .quota).2
  | tokenUsed => exact wrap64_of_range (h .tokenUsed).1 (h .tokenUsed).2

end Shares

/-! ## Writing an entry -/

namespace QuotaTable
variable {t : QuotaTable} {d : Dims} {m : Measure} {e : QuotaData}

/-- No two rows are for these values. -/
def Single (t : QuotaTable) (d : Dims) : Prop := (t.matching d).length≤1

instance (t : QuotaTable) (d : Dims) : Decidable (t.Single d) := by unfold Single; infer_instance

lemma first_id_pos_iff : 0<(t.first d zero).id ↔ t.matching d≠[] := by
  have hperm := (t.matching d).perm_insertionSort (fun a b => a.id≤b.id)
  unfold first
  cases h : (t.matching d).insertionSort (fun a b => a.id≤b.id) with
  | nil =>
    rw [h] at hperm
    simp [hperm.nil_eq.symm,zero]
  | cons r l =>
    rw [h] at hperm
    have hr : r∈t.matching d := hperm.subset List.mem_cons_self
    exact iff_of_true (t.numbered r (List.mem_filter.mp hr).1) (List.ne_nil_of_mem hr)

lemma save_of_nil (h : t.matching e.toDims = []) : t.save e = t.create e := by
  have hid : ¬0<(t.first e.toDims zero).id := fun hid => first_id_pos_iff.mp hid h
  simp only [save,if_neg hid]

lemma save_of_ne (h : t.matching e.toDims≠[]) : t.save e = t.increaseQuotaData e := by
  simp only [save,if_pos (first_id_pos_iff.mpr h)]

lemma matching_create : (t.create e).matching d =
    t.matching d++if e.toDims = d then [{ e with id := t.nextId }] else [] := by
  unfold matching create
  rw [List.filter_append]
  by_cases h : e.toDims = d
  · rw [if_pos h,List.filter_cons_of_pos (by simpa using h),List.filter_nil]
  · rw [if_neg h,List.filter_cons_of_neg (by simpa using h),List.filter_nil]

lemma total_create : (t.create e).total m d = t.total m d+e.share m d := by
  rw [total_eq_sum,total_eq_sum,create,List.map_append,List.sum_append]
  simp only [List.map_singleton,List.sum_singleton,add_right_inj,QuotaData.share]
  cases m <;> rfl

lemma matching_increase : (t.increaseQuotaData e).matching d =
    (t.matching d).map (fun r => if r.toDims = e.toDims then r.increase e else r) := by
  have hdims : ∀ r : QuotaData, (if r.toDims = e.toDims then r.increase e else r).toDims = r.toDims := by
    intro r
    split_ifs <;> rfl
  simp only [matching,increaseQuotaData,List.filter_map,Function.comp_def,hdims]

lemma sum_increase {l : List QuotaData} (h : ∀ r∈l, r.toDims = e.toDims) :
    ((l.map (fun r => if r.toDims = e.toDims then r.increase e else r)).map (fun r => r.value m)).sum =
      (l.map (fun r => r.value m)).sum+l.length*e.value m := by
  induction l with
  | nil => simp
  | cons r l ih =>
    obtain ⟨hr,hl⟩ := List.forall_mem_cons.mp h
    simp only [List.map_cons,List.sum_cons,ih hl,if_pos hr,value_increase,List.length_cons,Nat.cast_add,Nat.cast_one]
    ring

/-- Every row of these values takes what is added. -/
lemma total_increase : (t.increaseQuotaData e).total m d = t.total m d+(t.matching e.toDims).length*e.share m d := by
  rw [total,matching_increase,total,QuotaData.share]
  have hall : ∀ r∈t.matching d, r.toDims = d := fun r hr => by simpa using (List.mem_filter.mp hr).2
  by_cases h : e.toDims = d
  · subst h
    rw [if_pos rfl,sum_increase hall]
  · rw [if_neg h,mul_zero,add_zero,List.map_map]
    refine congrArg List.sum (List.map_congr_left fun r hr => ?_)
    rw [Function.comp_apply,if_neg (fun hn => h (hn.symm.trans (hall r hr)))]

/-- An entry whose values have one row at most is added to their total and to no other. -/
lemma total_save (h : t.Single e.toDims) : (t.save e).total m d = t.total m d+e.share m d := by
  by_cases hnil : t.matching e.toDims = []
  · rw [save_of_nil hnil,total_create]
  · have hone : (t.matching e.toDims).length = 1 :=
      le_antisymm h (List.length_pos_iff.mpr hnil)
    rw [save_of_ne hnil,total_increase,hone,Nat.cast_one,one_mul]

lemma Single.save (h : t.Single d) : (t.save e).Single d := by
  unfold Single at h ⊢
  by_cases hnil : t.matching e.toDims = []
  · rw [save_of_nil hnil,matching_create]
    by_cases hd : e.toDims = d
    · rw [if_pos hd,←hd,hnil]
      exact le_rfl
    · rwa [if_neg hd,List.append_nil]
  · rwa [save_of_ne hnil,matching_increase,List.length_map]

lemma total_saves {l : List (String × QuotaData)} (h : ∀ e∈l, t.Single e.2.toDims) :
    (l.foldl (fun t e => t.save e.2) t).total m d = t.total m d+(l.map (fun e => e.2.share m d)).sum := by
  induction l generalizing t with
  | nil => simp
  | cons e l ih =>
    obtain ⟨he,hl⟩ := List.forall_mem_cons.mp h
    rw [List.foldl_cons,ih (fun e he => (hl e he).save),total_save he,List.map_cons,List.sum_cons,add_assoc]

end QuotaTable

/-! ## Runs -/

section Runs
variable {m : Measure} {d : Dims}

/-- No call meets the entry of other values under its key or moves an entry out of range, and no entry is written
to several rows. -/
def Distinct (s : TxSystem.Config UsageState Call) : UsageOp → Prop
  | .logQuotaData c => ∀ r∈s.state.cache.find? c.toDims.key, r.toDims = c.toDims ∧
      ∀ m, -2^63 ≤ r.value m+c.value m ∧ r.value m+c.value m<2^63
  | .saveQuotaDataCache _ => ∀ r∈s.state.cache.rows, s.state.table.Single r.2.toDims

/-- What the table and the cache hold together. -/
def UsageState.held (s : UsageState) (m : Measure) (d : Dims) : ℤ := s.table.total m d+s.pending m d

/-- A call that meets no other values is held with the values it has. -/
lemma held_log {s : UsageState} {c : Call} {es : List Call} (h : Distinct ⟨s,es⟩ (.logQuotaData c)) :
    (s.logQuotaDataCache c).held m d = s.held m d+c.share m d := by
  have hsum := Keyed.sum_put (fun r => r.2.share m d) s.cache c.toDims.key
  simp only [UsageState.held,UsageState.pending,UsageState.logQuotaDataCache,add_assoc,add_right_inj]
  cases hr : s.cache.find? c.toDims.key with
  | none =>
    have hput := hsum c.toQuotaData
    rw [hr,Option.elim_none,add_zero] at hput
    rw [hput,add_right_inj,QuotaData.share,Call.share,value_toQuotaData]
    rfl
  | some r =>
    obtain ⟨hdims,hrange⟩ := h r hr
    have hput := hsum (r.merge c)
    have hshare : (r.merge c).share m d = r.share m d+c.share m d := by
      have hmerge : (r.merge c).toDims = r.toDims := rfl
      rw [QuotaData.share,QuotaData.share,Call.share,hmerge,←hdims,value_merge hrange]
      split_ifs
      · rfl
      · rfl
    rw [hr,Option.elim_some] at hput
    dsimp only at hput ⊢
    rw [hshare] at hput
    omega

lemma held_save {s : UsageState} {order : Traversal} {es : List Call}
    (h : Distinct ⟨s,es⟩ (.saveQuotaDataCache order)) :
    (s.saveQuotaDataCache order).table.total m d = s.held m d ∧ (s.saveQuotaDataCache order).pending m d = 0 := by
  refine ⟨?_,rfl⟩
  have hperm := order.perm s.cache.rows
  rw [UsageState.saveQuotaDataCache,QuotaTable.total_saves (fun e he => h e (hperm.subset he)),UsageState.held,
    UsageState.pending,(hperm.map (fun e => e.2.share m d)).sum_eq]

lemma run_history (s : TxSystem.Config UsageState Call) (ops : List UsageOp) :
    (usage.run s ops).history = (UsageOp.calls ops).reverse++s.history := by
  induction ops generalizing s with
  | nil => rfl
  | cons op ops ih =>
    refine (ih (usage.exec s op)).trans ?_
    cases op with
    | logQuotaData c =>
      have hcalls : UsageOp.calls (.logQuotaData c::ops) = c::UsageOp.calls ops := List.filterMap_cons_some rfl
      rw [hcalls,List.reverse_cons,List.append_assoc]
      rfl
    | saveQuotaDataCache order =>
      have hcalls : UsageOp.calls (.saveQuotaDataCache order::ops) = UsageOp.calls ops := List.filterMap_cons_none rfl
      rw [hcalls]
      rfl

/-- Throughout a run of such operations, nothing is lost and nothing is booked elsewhere. -/
lemma held_run {table : QuotaTable} {ops : List UsageOp} (h : usage.Guarded Distinct ⟨⟨.empty,table⟩,[]⟩ ops) :
    usage.Always (fun s => ∀ m d, s.state.held m d = table.total m d+(s.history.map (fun c => c.share m d)).sum)
      ⟨⟨.empty,table⟩,[]⟩ ops := by
  refine TxSystem.always_of_guarded (fun m d => rfl) ?_ h
  rintro ⟨s,es⟩ op s' es' hheld hdistinct hstep m d
  cases op with
  | logQuotaData c =>
    obtain ⟨rfl,rfl⟩ := Prod.mk.inj (Option.some.inj hstep)
    rw [held_log hdistinct,hheld m d]
    simp only [List.cons_append,List.nil_append,List.map_cons,List.sum_cons]
    ring
  | saveQuotaDataCache order =>
    obtain ⟨rfl,rfl⟩ := Prod.mk.inj (Option.some.inj hstep)
    obtain ⟨htable,hpending⟩ := held_save (m := m) (d := d) hdistinct
    rw [UsageState.held,htable,hpending,add_zero]
    exact hheld m d

/-- After a last flush the total of each combination has grown by its own calls. -/
theorem totals_exact {table : QuotaTable} {ops : List UsageOp} {order : Traversal}
    (h : usage.Guarded Distinct ⟨⟨.empty,table⟩,[]⟩ (ops++[.saveQuotaDataCache order])) (m : Measure) (d : Dims) :
    (usage.run ⟨⟨.empty,table⟩,[]⟩ (ops++[.saveQuotaDataCache order])).state.table.total m d =
      table.total m d+((UsageOp.calls ops).map (fun c => c.share m d)).sum := by
  have hheld := (held_run h).last m d
  have hpending : (usage.run ⟨⟨.empty,table⟩,[]⟩ (ops++[.saveQuotaDataCache order])).state.pending m d = 0 := by
    rw [TxSystem.run_append]
    rfl
  have hcalls : UsageOp.calls (ops++[.saveQuotaDataCache order]) = UsageOp.calls ops := by
    rw [UsageOp.calls,List.filterMap_append]
    exact List.append_nil _
  rw [UsageState.held,hpending,add_zero,run_history,hcalls,List.append_nil,List.map_reverse,List.sum_reverse] at hheld
  exact hheld

instance : ∀ (s : TxSystem.Config UsageState Call) (op : UsageOp), Decidable (Distinct s op)
  | s,.logQuotaData c => by
    unfold Distinct
    infer_instance
  | s,.saveQuotaDataCache _ => by
    unfold Distinct
    infer_instance

def asStored : Traversal := ⟨id,fun l => List.Perm.refl l⟩

def emptyTable : QuotaTable := ⟨[],fun _ h => nomatch h⟩

/-- Two models of one user, the second with a dash, before and after a flush. -/
def twoModels : List UsageOp :=
  [.logQuotaData ⟨1,"ann","gpt","","wallet","",5,7201,3⟩,.saveQuotaDataCache asStored,
    .logQuotaData ⟨1,"ann","gpt","","wallet","premium",4,7500,2⟩,.logQuotaData ⟨1,"ann","gpt-4","","wallet","",9,7202,1⟩]

theorem twoModels_exact :
    usage.Guarded Distinct ⟨⟨.empty,emptyTable⟩,[]⟩ (twoModels++[.saveQuotaDataCache asStored]) ∧
    (usage.run ⟨⟨.empty,emptyTable⟩,[]⟩ (twoModels++[.saveQuotaDataCache asStored])).state.table.total .quota
      ⟨1,"ann","gpt","","wallet","",7200⟩ = 9 := by
  have hdistinct : usage.Guarded Distinct ⟨⟨.empty,emptyTable⟩,[]⟩ (twoModels++[.saveQuotaDataCache asStored]) := by
    decide
  exact ⟨hdistinct,(totals_exact hdistinct _ _).trans (by decide)⟩

/-- User `a` with model `b-c` and user `a-b` with model `c` share an entry. -/
theorem usage_misbooked : ¬∀ (table : QuotaTable) (ops : List UsageOp) (order : Traversal) (m : Measure) (d : Dims),
    (usage.run ⟨⟨.empty,table⟩,[]⟩ (ops++[.saveQuotaDataCache order])).state.table.total m d =
      table.total m d+((UsageOp.calls ops).map (fun c => c.share m d)).sum := by
  intro h
  have hbooked := h emptyTable [.logQuotaData ⟨1,"a","b-c","","wallet","",5,7200,3⟩,
    .logQuotaData ⟨1,"a-b","c","","wallet","",7,7200,4⟩] asStored .count ⟨1,"a-b","c","","wallet","",7200⟩
  revert hbooked
  decide

end Runs

end Counters
end Tierflow
