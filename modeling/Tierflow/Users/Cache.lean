import Mathlib.Data.Fintype.Basic
import Tierflow.Users.Balance

/-! The cached record of one user and the statements, of the database and of Redis, by which reads fill it
and changes follow it. -/
namespace Tierflow
open TxSystem TaskSystem
namespace Users

/-! ## The cached record -/

inductive Field
  | quota | status | group | setting
  deriving DecidableEq, Repr

instance : Fintype Field where
  elems := {.quota,.status,.group,.setting}
  complete f := by cases f <;> decide

inductive FieldValue
  | int (n : ℤ)
  | text (s : String)
  | setting (o : Option UserSetting)
  deriving DecidableEq, Repr

/-- A Redis hash; a command that sets one field may leave a hash that lacks the others. -/
abbrev CachedUser := Field → Option FieldValue

def UserRow.field (row : UserRow) : Field → FieldValue
  | .quota => .int row.quota
  | .status => .int row.status
  | .group => .text row.group
  | .setting => .setting row.setting

/-- `ToBaseUser`: the hash of a whole row. -/
def UserRow.toBaseUser (row : UserRow) : CachedUser := fun f => some (row.field f)

/-- `HINCRBY` on a field, which counts as zero when it is missing. -/
def hincrBy (delta : ℤ) : Option FieldValue → Option FieldValue
  | none => some (.int delta)
  | some (.int n) => some (.int (n+delta))
  | some v => some v

/-! ## Requests and their statements -/

structure CacheSettings where
  redisKeyCacheSeconds : ℤ
  batchUpdateEnabled : Bool

structure CacheState where
  row : UserRow
  batch : ℤ
  cache : Option CachedUser

inductive CacheRequest
  | getUserCache
  | getUserQuota (fromDB : Bool)
  | getUserGroup (fromDB : Bool)
  | increaseUserQuota (quota : ℤ) (db : Bool)
  | decreaseUserQuota (quota : ℤ) (db : Bool)
  | batchUpdate
  /-- A change of status, after which the record is deleted if the user was disabled. -/
  | manageUser (status : ℤ) (disable : Bool)
  | updateSetting (setting : UserSetting)
  /-- An edit by an administrator. -/
  | edit (group : String)
  /-- A group that comes with a subscription. -/
  | assignGroup (group : String)
  deriving DecidableEq, Repr

/-- What is left of a request, or of a task that it spawned: statements of the database (`readRow`, `reload`,
`writeRow`, `editWrite`, `addQuota`, `addRow`) and commands of Redis. -/
inductive CacheTask
  | readRow
  | reload (newUser : UserRow) (disable : Bool)
  | writeRow (user newUser : UserRow) (disable : Bool)
  | editWrite (user : UserRow) (group : String)
  | hSetObj (user : UserRow) (disable : Bool)
  | del
  | fieldTtl (f : Field) (v : FieldValue)
  | hSetField (f : Field) (v : FieldValue)
  | incrTtl (delta : ℤ)
  | hIncrBy (delta : ℤ)
  | addQuota (delta : ℤ) (db : Bool)
  | addRow (amount : ℤ)
  deriving DecidableEq, Repr

/-- A read of the cached record; a miss goes on to the database. -/
def lookup (s : CacheState) : List CacheTask := if s.cache.isSome then [] else [.readRow]

def startCached (s : CacheState) : CacheRequest → CacheState × List CacheTask × List Unit
  | .getUserCache => (s,lookup s,[])
  | .getUserQuota fromDB => (s,if fromDB then [.fieldTtl .quota (s.row.field .quota)] else lookup s,[])
  | .getUserGroup fromDB => (s,if fromDB then [.fieldTtl .group (s.row.field .group)] else lookup s,[])
  | .increaseUserQuota quota db => (s,if quota<0 then [] else [.incrTtl quota,.addQuota quota db],[])
  | .decreaseUserQuota quota db => (s,if quota<0 then [] else [.incrTtl (-quota),.addQuota (-quota) db],[])
  | .batchUpdate => ({ s with batch := 0 },[.addRow s.batch],[])
  | .manageUser status disable => (s,[.reload { s.row with status := status } disable],[])
  | .updateSetting setting => (s,[.reload { s.row with setting := some setting } false],[])
  | .edit group => (s,[.editWrite s.row group],[])
  | .assignGroup group =>
    ({ s with row := { s.row with group := group } },[.fieldTtl .group (.text group)],[])

/-- The key is there and has a time to live. -/
def CacheState.ttlPositive (E : CacheSettings) (s : CacheState) : Bool :=
  s.cache.isSome && decide (0<E.redisKeyCacheSeconds)

/-- A hash without any field, which a command on a missing key starts from. -/
def emptyHash : CachedUser := fun _ => none

def CacheState.setField (s : CacheState) (f : Field) (v : Option FieldValue → Option FieldValue) : CacheState :=
  { s with cache := some (Function.update (s.cache.getD emptyHash) f (v (s.cache.getD emptyHash f))) }

def advanceCached (E : CacheSettings) (s : CacheState) : CacheTask → CacheState × List CacheTask × List Unit
  | .readRow => (s,[.hSetObj s.row false],[])
  | .reload newUser disable => (s,[.writeRow s.row newUser disable],[])
  | .writeRow user newUser disable =>
    ({ s with row := s.row.updates newUser },[.hSetObj (user.updates newUser) disable],[])
  | .editWrite user group =>
    ({ s with row := { s.row with group := group } },[.hSetObj { user with group := group } false],[])
  | .hSetObj user disable => ({ s with cache := some user.toBaseUser },if disable then [.del] else [],[])
  | .del => ({ s with cache := none },[],[])
  | .fieldTtl f v => (s,if s.ttlPositive E then [.hSetField f v] else [],[])
  | .hSetField f v => (s.setField f (fun _ => some v),[],[])
  | .incrTtl delta => (s,if s.ttlPositive E then [.hIncrBy delta] else [],[])
  | .hIncrBy delta => (s.setField .quota (hincrBy delta),[],[])
  | .addQuota delta db => (if db = false ∧ E.batchUpdateEnabled then { s with batch := s.batch+delta }
      else { s with row := { s.row with quota := s.row.quota+delta } },[],[])
  | .addRow amount => ({ s with row := { s.row with quota := s.row.quota+amount } },[],[])

def cacheSystem (E : CacheSettings) : TaskSystem CacheState CacheTask CacheRequest Unit where
  start := startCached
  advance := advanceCached E

/-! ## Coherence -/

/-- The record, if there is one, has the values of the row. -/
def Coherent (s : CacheState) : Prop := ∀ h∈s.cache, ∀ f, h f = some (s.row.field f)

instance (s : CacheState) : Decidable (Coherent s) := by
  unfold Coherent
  infer_instance

/-- The task ends in a command that writes the field, or in the deletion of the record. -/
def CacheTask.repairs : CacheTask → Field → Bool
  | .readRow,_ | .reload _ _,_ | .writeRow _ _ _,_ | .editWrite _ _,_ | .hSetObj _ _,_ | .del,_ => true
  | .fieldTtl f _,g | .hSetField f _,g => f = g
  | _,_ => false

/-- Quota that a task has still to add to the row, less what it has still to add to the cached number. -/
def CacheTask.owed : CacheTask → ℤ
  | .addQuota delta _ | .addRow delta => delta
  | .incrTtl delta | .hIncrBy delta => -delta
  | _ => 0

def owed (ts : List CacheTask) : ℤ := (ts.map CacheTask.owed).sum

/-- What the record should hold beside the pending tasks: the quota with all increments that are not written
yet, less those that have not reached the record. -/
def due (s : CacheState) (ts : List CacheTask) : Field → FieldValue
  | .quota => .int (s.row.quota+s.batch+owed ts)
  | f => s.row.field f

def Agrees (s : CacheState) (ts : List CacheTask) (f : Field) : Prop := ∀ h∈s.cache, h f = some (due s ts f)

def Repaired (ts : List CacheTask) (f : Field) : Prop := ∃ t∈ts, t.repairs f = true

/-- The field is right, or a pending task is going to write it. -/
def Sound (s : CacheState) (ts : List CacheTask) (f : Field) : Prop := Agrees s ts f ∨ Repaired ts f

instance (s : CacheState) (ts : List CacheTask) (f : Field) : Decidable (Agrees s ts f) := by
  unfold Agrees
  infer_instance

instance (ts : List CacheTask) (f : Field) : Decidable (Repaired ts f) := by
  unfold Repaired
  infer_instance

instance (s : CacheState) (ts : List CacheTask) (f : Field) : Decidable (Sound s ts f) :=
  inferInstanceAs (Decidable (_∨_))

/-- The condition on a statement. The last pending task that writes a field writes what is due; a command on
one field finds the record; and a task stops at the time to live only if nothing is lost with it. -/
def Fresh (E : CacheSettings) (s : CacheState) (ts : List CacheTask) : CacheTask → Prop
  | .hSetObj user disable => ∀ f, disable = true ∨ user.field f = due s ts f ∨ Repaired ts f
  | .fieldTtl f _ => s.ttlPositive E = true ∨ Sound s ts f
  | .hSetField f v => (v = due s ts f ∨ Repaired ts f) ∧ ∀ g, g = f ∨ s.cache.isSome = true ∨ Repaired ts g
  | .incrTtl _ => s.ttlPositive E = true ∨ Sound s ts .quota
  | .hIncrBy _ => ∀ g, s.cache.isSome = true ∨ Repaired ts g
  | _ => True

instance (E : CacheSettings) (s : CacheState) (ts : List CacheTask) : ∀ t, Decidable (Fresh E s ts t)
  | .hSetObj _ _ | .hIncrBy _ | .fieldTtl _ _ | .hSetField _ _ | .incrTtl _ => by
    unfold Fresh
    infer_instance
  | .readRow | .reload _ _ | .writeRow _ _ _ | .editWrite _ _ | .del | .addQuota _ _ | .addRow _ =>
    instDecidableTrue

/-! ## Steps -/

section Steps
variable {E : CacheSettings} {s s' : CacheState} {ts us : List CacheTask} {f : Field}

@[simp] lemma owed_append (ts us : List CacheTask) : owed (ts++us) = owed ts+owed us := by
  simp [owed]

@[simp] lemma owed_cons (t : CacheTask) (ts : List CacheTask) : owed (t::ts) = t.owed+owed ts := by
  simp [owed]

@[simp] lemma owed_nil : owed [] = 0 := rfl

lemma repaired_append_left (h : Repaired ts f) : Repaired (ts++us) f := by
  obtain ⟨t,ht,hf⟩ := h
  exact ⟨t,List.mem_append_left _ ht,hf⟩

lemma repaired_append_right (h : Repaired us f) : Repaired (ts++us) f := by
  obtain ⟨t,ht,hf⟩ := h
  exact ⟨t,List.mem_append_right _ ht,hf⟩

lemma repaired_singleton {t : CacheTask} (h : t.repairs f = true) : Repaired [t] f := ⟨t,by simp,h⟩

/-- A task that does not repair a field is not the one that the field waits for. -/
lemma repaired_without {l r : List CacheTask} {t : CacheTask} (ht : t.repairs f = false)
    (h : Repaired (l++t::r) f) : Repaired (l++r) f := by
  obtain ⟨u,hu,hf⟩ := h
  have hne : u≠t := by
    rintro rfl
    simp [ht] at hf
  refine ⟨u,?_,hf⟩
  simpa [hne] using hu

/-- What is due depends on the row and, for the quota, on the sum of what is owed. -/
lemma due_congr (hrow : ∀ g, g≠.quota → s'.row.field g = s.row.field g)
    (hq : s'.row.quota+s'.batch+owed us = s.row.quota+s.batch+owed ts) : due s' us f = due s ts f := by
  cases f with
  | quota => exact congrArg FieldValue.int hq
  | status => exact hrow .status (by decide)
  | group => exact hrow .group (by decide)
  | setting => exact hrow .setting (by decide)

lemma Agrees.congr (h : Agrees s ts f) (hc : s'.cache = s.cache) (hd : due s' us f = due s ts f) :
    Agrees s' us f := by
  intro c hm
  rw [hd]
  exact h c (by rwa [←hc])

/-- A step that leaves the record and what is due alone, and whose task does not repair the field. -/
lemma Sound.keep {l r k : List CacheTask} {t : CacheTask} (h : Sound s (l++t::r) f)
    (hc : s'.cache = s.cache) (ht : t.repairs f = false)
    (hd : due s' (l++r++k) f = due s (l++t::r) f) : Sound s' (l++r++k) f :=
  h.imp (fun ha => ha.congr hc hd) (fun hr => repaired_append_left (repaired_without ht hr))

/-- A step after which what the task still does repairs the field. -/
lemma sound_of_rest {l r rest : List CacheTask} (h : Repaired rest f) : Sound s' (l++r++rest) f :=
  .inr (repaired_append_right h)

lemma due_without {l r k : List CacheTask} {t : CacheTask} (h : t.owed = owed k) :
    due s (l++r++k) f = due s (l++t::r) f := by
  apply due_congr
  · intro g _
    rfl
  · simp only [owed_append,owed_cons,h]
    ring

lemma sound_start (i : CacheRequest) (h : ∀ f, Sound s ts f) (f : Field) :
    Sound (startCached s i).1 (ts++(startCached s i).2.1) f := by
  -- a request that leaves the row alone and owes nothing
  have hkeep : ∀ us, owed us = 0 → Sound s (ts++us) f := by
    intro us hu
    refine (h f).imp (fun ha => ha.congr rfl ?_) repaired_append_left
    apply due_congr
    · intro g _
      rfl
    · simp [hu]
  have hlookup : Sound s (ts++lookup s) f := by
    apply hkeep
    unfold lookup
    split_ifs <;> rfl
  cases i with
  | getUserCache => exact hlookup
  | getUserQuota fromDB =>
    cases fromDB with
    | true => exact hkeep _ rfl
    | false => exact hlookup
  | getUserGroup fromDB =>
    cases fromDB with
    | true => exact hkeep _ rfl
    | false => exact hlookup
  | increaseUserQuota quota db =>
    apply hkeep
    simp only [startCached]
    split_ifs <;> simp [CacheTask.owed]
  | decreaseUserQuota quota db =>
    apply hkeep
    simp only [startCached]
    split_ifs <;> simp [CacheTask.owed]
  | batchUpdate =>
    refine (h f).imp (fun ha => ha.congr rfl ?_) repaired_append_left
    apply due_congr
    · intro g _
      rfl
    · simp [startCached,CacheTask.owed]
      ring
  | manageUser status disable => exact hkeep _ rfl
  | updateSetting setting => exact hkeep _ rfl
  | edit group => exact hkeep _ rfl
  | assignGroup group =>
    by_cases hf : f = .group
    · subst hf
      exact .inr (repaired_append_right (repaired_singleton rfl))
    · refine (h f).imp (fun ha => ha.congr rfl ?_) repaired_append_left
      cases f with
      | quota => simp [startCached,due,CacheTask.owed]
      | group => exact absurd rfl hf
      | status => rfl
      | setting => rfl

/-- A command on one field leaves the other fields of a record that is there. -/
lemma Sound.setField_of_ne {l r : List CacheTask} {t : CacheTask} {g : Field}
    {v : Option FieldValue → Option FieldValue} (h : Sound s (l++t::r) f) (hfg : f≠g) (ht : t.repairs f = false)
    (hd : due s (l++r) f = due s (l++t::r) f) (hc : s.cache.isSome = true ∨ Repaired (l++r) f) :
    Sound (s.setField g v) (l++r) f := by
  cases hc with
  | inr hr => exact .inr hr
  | inl hc =>
    refine h.imp ?_ (repaired_without ht)
    intro ha c hm
    obtain ⟨c₀,hc₀⟩ := Option.isSome_iff_exists.mp hc
    cases hm
    have hv := ha c₀ hc₀
    simp only [hc₀,Option.getD_some,Function.update_of_ne hfg]
    rw [hv,←hd]
    rfl

/-- `HINCRBY` on a record moves the quota of the record by what the task owed it. -/
lemma sound_hIncrBy {l r : List CacheTask} {delta : ℤ} (h : Sound s (l++.hIncrBy delta::r) .quota)
    (hc : s.cache.isSome = true ∨ Repaired (l++r) .quota) :
    Sound (s.setField .quota (hincrBy delta)) (l++r) .quota := by
  cases hc with
  | inr hr => exact .inr hr
  | inl hc =>
    refine h.imp ?_ (repaired_without rfl)
    intro ha c hm
    obtain ⟨c₀,hc₀⟩ := Option.isSome_iff_exists.mp hc
    cases hm
    have hv := ha c₀ hc₀
    simp only [hc₀,Option.getD_some,Function.update_self,hv,due,hincrBy,CacheState.setField,owed_append,owed_cons,
      CacheTask.owed]
    congr 2
    ring

lemma sound_advance {l r : List CacheTask} (t : CacheTask) (h : ∀ f, Sound s (l++t::r) f)
    (hg : Fresh E s (l++r) t) (f : Field) :
    Sound (advanceCached E s t).1 (l++r++(advanceCached E s t).2.1) f := by
  cases t with
  | readRow => exact sound_of_rest (repaired_singleton rfl)
  | reload newUser disable => exact sound_of_rest (repaired_singleton rfl)
  | writeRow user newUser disable => exact sound_of_rest (repaired_singleton rfl)
  | editWrite user group => exact sound_of_rest (repaired_singleton rfl)
  | hSetObj user disable =>
    cases disable with
    | true => exact sound_of_rest (repaired_singleton rfl)
    | false =>
      simp only [advanceCached,Bool.false_eq_true,if_false,List.append_nil]
      rcases hg f with hf | hf | hf
      · exact absurd hf (by decide)
      · left
        rintro c ⟨⟩
        exact congrArg some hf
      · exact .inr hf
  | del =>
    left
    rintro c ⟨⟩
  | fieldTtl g v =>
    simp only [advanceCached]
    by_cases hfg : g = f
    · subst hfg
      split_ifs with ht
      · exact sound_of_rest (repaired_singleton (by simp [CacheTask.repairs]))
      · rw [List.append_nil]
        exact hg.resolve_left ht
    · have hr : (CacheTask.fieldTtl g v).repairs f = false := by simp [CacheTask.repairs,hfg]
      apply (h f).keep rfl hr
      apply due_without
      split_ifs <;> rfl
  | hSetField g v =>
    simp only [advanceCached,List.append_nil]
    by_cases hfg : f = g
    · subst hfg
      refine hg.1.imp ?_ id
      rintro rfl c ⟨⟩
      simp only [Function.update_self]
      rfl
    · refine (h f).setField_of_ne hfg ?_ ?_ ((hg.2 f).resolve_left hfg)
      · simp [CacheTask.repairs,Ne.symm hfg]
      · simpa using due_without (s := s) (f := f) (l := l) (r := r) (k := []) (t := .hSetField g v) rfl
  | incrTtl delta =>
    simp only [advanceCached]
    by_cases ht : s.ttlPositive E = true
    · rw [if_pos ht]
      apply (h f).keep rfl rfl
      exact due_without (by simp [CacheTask.owed])
    · rw [if_neg ht,List.append_nil]
      by_cases hf : f = .quota
      · subst hf
        exact hg.resolve_left ht
      · have hk : Sound s _ f := (h f).keep (k := []) rfl rfl ?_
        · simpa using hk
        · cases f with
          | quota => exact absurd rfl hf
          | status => rfl
          | group => rfl
          | setting => rfl
  | hIncrBy delta =>
    simp only [advanceCached,List.append_nil]
    by_cases hf : f = .quota
    · subst hf
      exact sound_hIncrBy (h .quota) (hg .quota)
    · refine (h f).setField_of_ne hf rfl ?_ (hg f)
      cases f with
      | quota => exact absurd rfl hf
      | status => rfl
      | group => rfl
      | setting => rfl
  | addQuota delta db =>
    simp only [advanceCached]
    split_ifs
    · refine (h f).keep rfl rfl (due_congr (fun g _ => rfl) ?_)
      simp [CacheTask.owed]
      ring
    · refine (h f).keep rfl rfl (due_congr (fun g hg => ?_) ?_)
      · cases g with
        | quota => exact absurd rfl hg
        | _ => rfl
      · simp [CacheTask.owed]
        ring
  | addRow amount =>
    refine (h f).keep rfl rfl (due_congr (fun g hg => ?_) ?_)
    · cases g with
      | quota => exact absurd rfl hg
      | _ => rfl
    · simp [advanceCached,CacheTask.owed]
      ring

end Steps

/-- When no task is left and the batch store is empty, sound fields are coherent. -/
lemma coherent_of_sound {s : CacheState} (hb : s.batch = 0) (h : ∀ f, Sound s [] f) : Coherent s := by
  intro c hc f
  have ha : Agrees s [] f := by
    refine (h f).resolve_right ?_
    rintro ⟨t,ht,-⟩
    simp at ht
  rw [ha c hc]
  cases f with
  | quota => simp [due,UserRow.field,hb]
  | status => rfl
  | group => rfl
  | setting => rfl

/-- In every run whose statements meet the condition, the record is coherent whenever all tasks have
finished and nothing is left in the batch store. -/
theorem cache_coherent_of_fresh (E : CacheSettings) (row : UserRow) (ops : List (Op CacheRequest))
    (hfresh : (cacheSystem E).toTx.Guarded (Each (fun _ _ => True) (Fresh E)) (initial ⟨row,0,none⟩) ops) :
    (cacheSystem E).toTx.Always
      (fun c => c.state.tasks = [] → c.state.shared.batch = 0 → Coherent c.state.shared)
      (initial ⟨row,0,none⟩) ops := by
  have hs : (cacheSystem E).toTx.Always (fun c => ∀ f, Sound c.state.shared c.state.tasks f)
      (initial ⟨row,0,none⟩) ops := by
    apply always_of_each ?_ ?_ ?_ hfresh
    · intro f
      left
      rintro c ⟨⟩
    · intro s ts h i hP _
      exact sound_start i hP
    · intro s l t r h hP hg
      exact sound_advance t hP hg
  refine hs.mono ?_
  rintro ⟨⟨s,ts⟩,h⟩ hP ht hb
  cases ht
  exact coherent_of_sound hb hP

def minuteCache : CacheSettings := ⟨60,false⟩

/-- A read fills the record, quota is spent and the user is disabled, one after the other. -/
theorem quiet_coherent :
    let ops : List (Op CacheRequest) := [.start .getUserCache,.proceed 0,.proceed 0,
      .start (.decreaseUserQuota 400 false),.proceed 0,.proceed 0,.proceed 0,
      .start (.assignGroup "vip"),.proceed 0,.proceed 0,.start (.manageUser 2 true),.proceed 0,.proceed 0,.proceed 0,
      .proceed 0,.start .getUserCache,.proceed 0,.proceed 0]
    (cacheSystem minuteCache).toTx.Always
      (fun c => c.state.tasks = [] → c.state.shared.batch = 0 → Coherent c.state.shared)
      (initial ⟨thousand,0,none⟩) ops :=
  cache_coherent_of_fresh minuteCache thousand _ (by decide)

/-- A read misses and takes the row of an enabled user; the user is disabled and the record deleted; then the
read fills the record. -/
theorem lateFill_keeps_enabled :
    let c := (cacheSystem minuteCache).toTx.run (initial ⟨thousand,0,none⟩)
      [.start .getUserCache,.proceed 0,.start (.manageUser 2 true),.proceed 1,.proceed 1,.proceed 1,.proceed 1,.proceed 0]
    c.state.tasks = [] ∧ c.state.shared.batch = 0 ∧ c.state.shared.row.status = 2 ∧
    c.state.shared.cache.map (fun h => h .status) = some (some (.int 1)) ∧ ¬Coherent c.state.shared := by
  decide

end Users
end Tierflow
