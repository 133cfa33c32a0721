import Mathlib.Data.List.AList
import Tierflow.Counters.Columns
import Tierflow.Foundation.Process
import Tierflow.Foundation.Transaction

/-! Batched counters: writers add records to one store for each kind, and flushes drain the stores, each
under its own lock, and write the sums to the database. What is in the database together with what is
pending, in a store or inside a flush, is what has been recorded. -/
set_option linter.unusedSectionVars false

namespace Tierflow
open TxSystem
namespace Counters

/-- A Go map from ids to sums. -/
abbrev Sums := AList (fun _ : ℤ => ℤ)

/-- Reading a map at a key that it does not have gives zero. -/
def get (m : Sums) (id : ℤ) : ℤ := (m.lookup id).getD 0

structure Record where
  type : BatchUpdateType
  id : ℤ
  value : ℤ
deriving Repr, DecidableEq

/-- The kinds in the order of their numbers. -/
def allTypes : List BatchUpdateType := [.userQuota,.tokenQuota,.usedQuota,.channelUsedQuota,.requestCount]

inductive FlushPhase
  | idle
  | check (rest : List BatchUpdateType)
  | drain (rest : List BatchUpdateType)
  | tokens
  | channels
  | users
deriving Repr, DecidableEq

/-- One execution of `batchUpdate`: how far it is, and the part of the drained stores that it has not yet
written. -/
structure Flush where
  phase : FlushPhase
  stores : BatchUpdateType → Sums

structure BatchState (F : Type*) where
  stores : BatchUpdateType → Sums
  db : CounterDb
  flush : F → Flush

inductive BatchEvent
  | recorded (r : Record)
  | databaseError
deriving Repr, DecidableEq

inductive BatchOp (F : Type*)
  | addNewRecord (r : Record)
  | batchUpdate (f : F)
  | proceed (f : F)
  | update (f : F) (key : ℤ)
deriving Repr, DecidableEq

/-- The flush that takes a step; a writer's step is none. -/
def BatchOp.flusher {F : Type*} : BatchOp F → Option F
  | .addNewRecord _ => none
  | .batchUpdate f | .proceed f | .update f _ => some f

def emptyFlush : Flush where
  phase := .idle
  stores _ := ∅

/-- What is left of a flush's stores when the sums of one id are written. -/
def Flush.written (x : Flush) (key : ℤ) (ts : List BatchUpdateType) : Flush :=
  { x with stores := fun t => if t∈ts then (x.stores t).erase key else x.stores t }

def addNewRecord (stores : BatchUpdateType → Sums) (r : Record) : BatchUpdateType → Sums :=
  Function.update stores r.type (match (stores r.type).lookup r.id with
    | none => (stores r.type).insert r.id r.value
    | some v => (stores r.type).insert r.id (wrap64 (v+r.value)))

namespace BatchState
variable {F : Type*} [DecidableEq F]

def initial (db : CounterDb) : BatchState F where
  stores _ := ∅
  db := db
  flush _ := emptyFlush

def setFlush (s : BatchState F) (f : F) (x : Flush) : BatchState F :=
  { s with flush := Function.update s.flush f x }

/-- The loops of `batchUpdate` that look for data and that drain the stores, one lock at a time. -/
def proceed (s : BatchState F) (f : F) : Option (BatchState F) :=
  let x := s.flush f
  match x.phase with
  | .idle => none
  | .check [] => some (s.setFlush f emptyFlush)
  | .check (t::rest) =>
    if (s.stores t).entries.isEmpty then some (s.setFlush f { x with phase := .check rest })
    else some (s.setFlush f ⟨.drain allTypes,fun _ => ∅⟩)
  | .drain [] => some (s.setFlush f { x with phase := .tokens })
  | .drain (t::rest) => some ({ s with stores := Function.update s.stores t ∅ }.setFlush f
      ⟨.drain rest,Function.update x.stores t (s.stores t)⟩)
  | .tokens => if (x.stores .tokenQuota).entries.isEmpty then some (s.setFlush f { x with phase := .channels })
    else none
  | .channels => if (x.stores .channelUsedQuota).entries.isEmpty then
      some (s.setFlush f { x with phase := .users }) else none
  | .users => if (x.stores .userQuota).entries.isEmpty ∧ (x.stores .usedQuota).entries.isEmpty ∧
      (x.stores .requestCount).entries.isEmpty then some (s.setFlush f emptyFlush) else none

/-- A failed statement is only logged, so that its sums are lost. -/
def finish (s : BatchState F) (f : F) (x : Flush) : Option CounterDb → BatchState F × List BatchEvent
  | some db => ({ s with db := db }.setFlush f x,[])
  | none => (s.setFlush f x,[.databaseError])

/-- One round of the loops that write the sums; maps are iterated over in any order. -/
def update (s : BatchState F) (f : F) (key : ℤ) : Option (BatchState F × List BatchEvent) :=
  let x := s.flush f
  match x.phase with
  | .tokens => ((x.stores .tokenQuota).lookup key).map (fun value =>
      s.finish f (Flush.written x key [.tokenQuota]) (s.db.increaseTokenQuota key value))
  | .channels => ((x.stores .channelUsedQuota).lookup key).map (fun value =>
      s.finish f (Flush.written x key [.channelUsedQuota]) (s.db.updateChannelUsedQuota key value))
  | .users => if key∈x.stores .userQuota ∨ key∈x.stores .usedQuota ∨ key∈x.stores .requestCount then
      some (s.finish f (Flush.written x key [.userQuota,.usedQuota,.requestCount])
        (s.db.updateUserQuotaUsedQuotaAndRequestCount key (get (x.stores .userQuota) key)
          (get (x.stores .usedQuota) key) (get (x.stores .requestCount) key))) else none
  | _ => none

def step (s : BatchState F) : BatchOp F → Option (BatchState F × List BatchEvent)
  | .addNewRecord r => some ({ s with stores := addNewRecord s.stores r },[.recorded r])
  | .batchUpdate f => if (s.flush f).phase = .idle then
      some (s.setFlush f ⟨.check allTypes,fun _ => ∅⟩,[]) else none
  | .proceed f => (s.proceed f).map (fun s' => (s',[]))
  | .update f key => s.update f key

/-- All writers and flushes of one process. -/
def system (F : Type*) [DecidableEq F] : TxSystem (BatchState F) (BatchOp F) BatchEvent := ⟨step⟩

end BatchState
lemma flush_setFlush {F : Type*} [DecidableEq F] (s : BatchState F) (f g : F) (x : Flush) :
    (s.setFlush f x).flush g=if g=f then x else s.flush g := Function.update_apply ..

/-! ## What is pending -/

@[simp] lemma get_empty (id : ℤ) : get ∅ id=0 := rfl

lemma get_insert (m : Sums) (id key v : ℤ) : get (m.insert key v) id=if id=key then v else get m id := by
  by_cases h : id=key
  · subst h
    simp [get]
  · simp [get,AList.lookup_insert_ne h,h]

lemma get_erase (m : Sums) (id key : ℤ) : get (m.erase key) id=if id=key then 0 else get m id := by
  by_cases h : id=key
  · subst h
    simp [get]
  · simp [get,AList.lookup_erase_ne h,h]

lemma eq_empty_of_isEmpty {m : Sums} (h : m.entries.isEmpty = true) : m=∅ := by
  apply AList.ext
  simpa using h

/-- Adding a record to the stores adds its value, up to a wrap, to the sum of its id. -/
lemma get_addNewRecord (stores : BatchUpdateType → Sums) (r : Record) (t : BatchUpdateType) (id : ℤ) :
    (get (addNewRecord stores r t) id : ZMod wordSize)=
      get (stores t) id+(if t = r.type ∧ id=r.id then r.value else 0 : ℤ) := by
  unfold addNewRecord
  by_cases ht : t = r.type
  · subst ht
    rw [Function.update_self]
    by_cases hid : id=r.id
    · subst hid
      cases hl : (stores r.type).lookup r.id with
      | none => simp [get,hl]
      | some v => simp [get,hl,wrap64_cast]
    · cases hl : (stores r.type).lookup r.id <;> simp [get_insert,hid]
  · simp [ht]

section Pending
variable {F : Type*} [DecidableEq F] [Fintype F]

/-- The sum that is still to be written for an id, modulo the number of machine integers. -/
def BatchState.pending (s : BatchState F) (t : BatchUpdateType) (id : ℤ) : ZMod wordSize :=
  get (s.stores t) id+∑ f, (get ((s.flush f).stores t) id : ZMod wordSize)

variable {s : BatchState F} {f : F} {x : Flush} {t : BatchUpdateType} {id : ℤ}

lemma pending_setFlush : (s.setFlush f x).pending t id=
    s.pending t id+((get (x.stores t) id : ZMod wordSize)-get ((s.flush f).stores t) id) := by
  unfold BatchState.pending BatchState.setFlush
  rw [sum_update s.flush x (fun y => (get (y.stores t) id : ZMod wordSize))]
  ring

/-- A flush that changes its phase only leaves everything pending. -/
lemma pending_setPhase (h : x.stores=(s.flush f).stores) : (s.setFlush f x).pending t id=s.pending t id := by
  rw [pending_setFlush,h]
  ring

end Pending

/-- What a flush has not yet drained it does not hold, and what it is done with is written. -/
def Flush.Sound (x : Flush) : Prop :=
  match x.phase with
  | .idle | .check _ => ∀ t, x.stores t=∅
  | .drain rest => rest.Nodup ∧ ∀ t∈rest, x.stores t=∅
  | .tokens => True
  | .channels => x.stores .tokenQuota=∅
  | .users => x.stores .tokenQuota=∅ ∧ x.stores .channelUsedQuota=∅

/-- By how much the records among some events change a counter. -/
def recordedSum (c : Column) (i : ℤ) (es : List BatchEvent) : ℤ :=
  (es.map (fun | .recorded r => recordShift r.type r.id r.value c i | .databaseError => 0)).sum

@[simp] lemma recordedSum_append (c : Column) (i : ℤ) (es hist : List BatchEvent) :
    recordedSum c i (es++hist)=recordedSum c i es+recordedSum c i hist := by simp [recordedSum]

section Steps
variable {F : Type*} [DecidableEq F] [Fintype F] {s s' : BatchState F} {op : BatchOp F} {f : F} {es : List BatchEvent}

/-- What the database gains in a step, and what becomes pending, together are what the step records. -/
def Balances (s s' : BatchState F) (es : List BatchEvent) : Prop :=
  ∃ d, Shifted d s.db s'.db ∧ ∀ c i, (d c i : ZMod wordSize)+c.sign*(s'.pending c.type i-s.pending c.type i)=
    recordedSum c i es

lemma Balances.of_pending (hdb : s'.db=s.db) (h : ∀ t i, s'.pending t i=s.pending t i) : Balances s s' [] := by
  refine ⟨fun _ _ => 0,by rw [hdb]; exact Shifted.refl _,?_⟩
  intro c i
  simp [h,recordedSum]

lemma addNewRecord_balances (s : BatchState F) (r : Record) :
    Balances s { s with stores := addNewRecord s.stores r } [.recorded r] := by
  refine ⟨fun _ _ => 0,Shifted.refl _,?_⟩
  intro c i
  simp only [BatchState.pending,get_addNewRecord,recordedSum,recordShift,Column.change,List.map_cons,List.map_nil,
    List.sum_cons,List.sum_nil]
  by_cases ht : c.type = r.type
  · by_cases hi : i=r.id
    · simp [ht,hi]
    · simp [ht,hi]
  · simp [ht]

lemma sound_setFlush {x : Flush} (h : ∀ g, (s.flush g).Sound) (hx : x.Sound) (g : F) :
    ((s.setFlush f x).flush g).Sound := by
  rw [flush_setFlush]
  split_ifs
  · exact hx
  · exact h g

/-- A flush that only moves on. -/
lemma setPhase_balances {x : Flush} (h : ∀ g, (s.flush g).Sound) (hx : x.Sound)
    (hstores : ∀ t, x.stores t=(s.flush f).stores t) :
    Balances s (s.setFlush f x) [] ∧ ∀ g, ((s.setFlush f x).flush g).Sound :=
  ⟨.of_pending rfl (fun _ _ => pending_setPhase (funext hstores)),sound_setFlush h hx⟩

lemma drain_balances {t : BatchUpdateType} {rest : List BatchUpdateType} (hsound : ∀ g, (s.flush g).Sound)
    (hphase : (s.flush f).phase = .drain (t::rest)) :
    let s' := { s with stores := Function.update s.stores t ∅ }.setFlush f
      ⟨.drain rest,Function.update (s.flush f).stores t (s.stores t)⟩
    Balances s s' [] ∧ ∀ g, (s'.flush g).Sound := by
  have hf := hsound f
  simp only [Flush.Sound,hphase,List.nodup_cons] at hf
  obtain ⟨⟨hnot,hrest⟩,hempty⟩ := hf
  constructor
  · refine .of_pending rfl ?_
    intro u i
    rw [pending_setFlush]
    by_cases hu : u=t
    · subst hu
      simp [BatchState.pending,hempty]
      ring
    · simp [BatchState.pending,hu]
  · refine sound_setFlush hsound ⟨hrest,?_⟩
    intro u hu
    have hne : u≠t := fun h => hnot (h ▸ hu)
    simp only [Function.update_of_ne hne]
    exact hempty u (List.mem_cons_of_mem _ hu)

lemma proceed_balances (hsound : ∀ g, (s.flush g).Sound) (h : s.proceed f = some s') :
    Balances s s' [] ∧ ∀ g, (s'.flush g).Sound := by
  have hf := hsound f
  unfold BatchState.proceed at h
  dsimp only at h
  unfold Flush.Sound at hf
  split at h
  · cases h
  · next hphase =>
    obtain rfl := Option.some.inj h
    rw [hphase] at hf
    exact setPhase_balances hsound (fun _ => rfl) (fun t => (hf t).symm)
  · next t rest hphase =>
    rw [hphase] at hf
    split_ifs at h with hempty
    · obtain rfl := Option.some.inj h
      exact setPhase_balances hsound hf (fun _ => rfl)
    · obtain rfl := Option.some.inj h
      exact setPhase_balances hsound ⟨by decide,fun _ _ => rfl⟩ (fun t => (hf t).symm)
  · obtain rfl := Option.some.inj h
    exact setPhase_balances hsound trivial (fun _ => rfl)
  · next t rest hphase =>
    obtain rfl := Option.some.inj h
    exact drain_balances hsound hphase
  · split_ifs at h with hempty
    obtain rfl := Option.some.inj h
    exact setPhase_balances hsound (eq_empty_of_isEmpty hempty) (fun _ => rfl)
  · next hphase =>
    rw [hphase] at hf
    split_ifs at h with hempty
    obtain rfl := Option.some.inj h
    exact setPhase_balances hsound ⟨hf,eq_empty_of_isEmpty hempty⟩ (fun _ => rfl)
  · next hphase =>
    rw [hphase] at hf
    split_ifs at h with hempty
    obtain rfl := Option.some.inj h
    obtain ⟨huser,hused,hcount⟩ := hempty
    refine setPhase_balances hsound (fun _ => rfl) ?_
    intro t
    cases t with
    | userQuota => exact (eq_empty_of_isEmpty huser).symm
    | usedQuota => exact (eq_empty_of_isEmpty hused).symm
    | requestCount => exact (eq_empty_of_isEmpty hcount).symm
    | tokenQuota => exact hf.1.symm
    | channelUsedQuota => exact hf.2.symm

/-- What a flush has written for a key is no longer pending. -/
lemma pending_written (s : BatchState F) (f : F) (db : CounterDb) (key : ℤ) (ts : List BatchUpdateType)
    (t : BatchUpdateType) (i : ℤ) :
    ({ s with db := db }.setFlush f ((s.flush f).written key ts)).pending t i=
      s.pending t i-(if t∈ts ∧ i=key then get ((s.flush f).stores t) key else 0 : ℤ) := by
  rw [pending_setFlush]
  by_cases ht : t∈ts
  · by_cases hi : i=key
    · subst hi
      simp [Flush.written,ht,get_erase,BatchState.pending]
      ring
    · simp [Flush.written,ht,hi,get_erase,BatchState.pending]
  · simp [Flush.written,ht,BatchState.pending]

lemma Flush.Sound.written {x : Flush} {key : ℤ} {ts : List BatchUpdateType} (h : x.Sound) :
    (x.written key ts).Sound := by
  have herase : ∀ t, x.stores t=∅ → (x.written key ts).stores t=∅ := by
    intro t ht
    by_cases hm : t∈ts
    · simp only [Flush.written,hm,if_true,ht]
      rfl
    · simpa [Flush.written,hm] using ht
  have hphase : (x.written key ts).phase=x.phase := rfl
  unfold Flush.Sound at h ⊢
  rw [hphase]
  cases hx : x.phase with
  | tokens => trivial
  | idle => simp only [hx] at h ⊢; exact fun t => herase t (h t)
  | check rest => simp only [hx] at h ⊢; exact fun t => herase t (h t)
  | drain rest => simp only [hx] at h ⊢; exact ⟨h.1,fun t ht => herase t (h.2 t ht)⟩
  | channels => simp only [hx] at h ⊢; exact herase _ h
  | users => simp only [hx] at h ⊢; exact ⟨herase _ h.1,herase _ h.2⟩

lemma finish_balances {key : ℤ} {ts : List BatchUpdateType} {d : Column → ℤ → ℤ} {o : Option CounterDb}
    (hsound : ∀ g, (s.flush g).Sound) (hshift : ∀ db, o = some db → Shifted d s.db db)
    (hd : ∀ c i, d c i=c.sign*(if c.type∈ts ∧ i=key then get ((s.flush f).stores c.type) key else 0)) :
    (.databaseError∈(s.finish f ((s.flush f).written key ts) o).2 ∨
      Balances s (s.finish f ((s.flush f).written key ts) o).1 (s.finish f ((s.flush f).written key ts) o).2) ∧
    ∀ g, ((s.finish f ((s.flush f).written key ts) o).1.flush g).Sound := by
  cases o with
  | none => exact ⟨.inl (by simp [BatchState.finish]),sound_setFlush hsound (hsound f).written⟩
  | some db =>
    refine ⟨.inr ⟨d,hshift db rfl,?_⟩,sound_setFlush hsound (hsound f).written⟩
    intro c i
    simp only [BatchState.finish,pending_written,hd,recordedSum,List.map_nil,List.sum_nil]
    push_cast
    ring

/-- A round of a writing loop moves the sums of its key from pending to the database, or fails. -/
lemma update_balances {key : ℤ} (hsound : ∀ g, (s.flush g).Sound) (h : s.update f key = some (s',es)) :
    (.databaseError∈es ∨ Balances s s' es) ∧ ∀ g, (s'.flush g).Sound := by
  unfold BatchState.update at h
  dsimp only at h
  split at h
  · obtain ⟨value,hvalue,h⟩ := Option.map_eq_some_iff.mp h
    rw [←(Prod.mk.inj h).1,←(Prod.mk.inj h).2]
    refine finish_balances (d := recordShift .tokenQuota key value) hsound
      (fun db hdb => increaseTokenQuota_shifted hdb) ?_
    intro c i
    cases c <;> simp [recordShift,Column.change,Column.type,get,hvalue]
  · obtain ⟨value,hvalue,h⟩ := Option.map_eq_some_iff.mp h
    rw [←(Prod.mk.inj h).1,←(Prod.mk.inj h).2]
    refine finish_balances (d := recordShift .channelUsedQuota key value) hsound
      (fun db hdb => updateChannelUsedQuota_shifted hdb) ?_
    intro c i
    cases c <;> simp [recordShift,Column.change,Column.type,get,hvalue]
  · split_ifs at h
    obtain h := Option.some.inj h
    rw [←(Prod.mk.inj h).1,←(Prod.mk.inj h).2]
    refine finish_balances hsound (fun db hdb => updateUserQuotaUsedQuotaAndRequestCount_shifted hdb) ?_
    intro c i
    cases c <;> simp [Column.change,Column.type]
  · cases h

lemma step_balances (hsound : ∀ g, (s.flush g).Sound) (h : s.step op = some (s',es)) :
    (.databaseError∈es ∨ Balances s s' es) ∧ ∀ g, (s'.flush g).Sound := by
  cases op with
  | addNewRecord r =>
    obtain ⟨rfl,rfl⟩ := Prod.mk.inj (Option.some.inj h)
    exact ⟨.inr (addNewRecord_balances s r),hsound⟩
  | batchUpdate f =>
    simp only [BatchState.step] at h
    split_ifs at h with hidle
    obtain ⟨rfl,rfl⟩ := Prod.mk.inj (Option.some.inj h)
    have hf := hsound f
    simp only [Flush.Sound,hidle] at hf
    obtain ⟨hb,hs⟩ := setPhase_balances (x := ⟨.check allTypes,fun _ => ∅⟩) hsound (fun _ => rfl)
      (fun t => (hf t).symm)
    exact ⟨.inr hb,hs⟩
  | proceed f =>
    obtain ⟨s1,h1,h⟩ := Option.map_eq_some_iff.mp h
    obtain ⟨rfl,rfl⟩ := Prod.mk.inj h
    obtain ⟨hb,hs⟩ := proceed_balances hsound h1
    exact ⟨.inr hb,hs⟩
  | update f key => exact update_balances hsound h

end Steps

section Runs
variable {F : Type*} [DecidableEq F] [Fintype F] {db0 : CounterDb}

/-- Database and pending sums together have changed by what has been recorded, as long as no statement
has failed. -/
structure Conserved (db0 : CounterDb) (c : Config (BatchState F) BatchEvent) : Prop where
  sound : ∀ f, (c.state.flush f).Sound
  balance : .databaseError∉c.history → ∀ col i,
    (c.state.db.value col i).map (fun v : ℤ => (v : ZMod wordSize)+col.sign*c.state.pending col.type i)=
      (db0.value col i).map (fun v : ℤ => (v : ZMod wordSize)+recordedSum col i c.history)

lemma conserved_initial (db0 : CounterDb) : Conserved db0 ⟨(BatchState.initial db0 : BatchState F),[]⟩ where
  sound _ _ := rfl
  balance _ col i := by
    simp [BatchState.initial,BatchState.pending,emptyFlush,recordedSum]

lemma Conserved.step {c : Config (BatchState F) BatchEvent} {op : BatchOp F} {s : BatchState F} {es : List BatchEvent}
    (h : Conserved db0 c) (hs : c.state.step op = some (s,es)) : Conserved db0 ⟨s,es++c.history⟩ := by
  obtain ⟨hb,hsound⟩ := step_balances h.sound hs
  refine ⟨hsound,?_⟩
  intro herr col i
  simp only [List.mem_append,not_or] at herr
  obtain ⟨d,hd,hsum⟩ := hb.resolve_left herr.1
  have hold := h.balance herr.2 col i
  have hnew := hsum col i
  rw [hd col i]
  cases hv : c.state.db.value col i with
  | none =>
    rw [hv] at hold
    cases h0 : db0.value col i with
    | none => rfl
    | some v0 => simp [h0] at hold
  | some v =>
    rw [hv] at hold
    cases h0 : db0.value col i with
    | none => simp [h0] at hold
    | some v0 =>
      rw [h0] at hold
      have hv0 := Option.some.inj hold
      refine congrArg some ?_
      rw [recordedSum_append]
      push_cast
      linear_combination hv0+hnew

lemma conserved_run (is : List (BatchOp F)) :
    (BatchState.system F).Always (Conserved db0) ⟨.initial db0,[]⟩ is :=
  always_of_step (conserved_initial db0) (fun _ _ _ _ h hs => h.step hs) is

/-! ## The final flush -/

/-- The last flush `f` runs alone and has emptied the stores that it has passed. -/
structure LastFlush (f : F) (s : BatchState F) : Prop where
  others : ∀ g, g≠f → (s.flush g).phase = .idle
  emptied : ∀ t, (∀ rest, (s.flush f).phase = .check rest ∨ (s.flush f).phase = .drain rest → t∉rest) →
    s.stores t=∅

lemma BatchOp.ne_record {op : BatchOp F} {f : F} (h : op.flusher = some f) :
    op = .batchUpdate f ∨ op = .proceed f ∨ ∃ key, op = .update f key := by
  cases op <;> simp_all [BatchOp.flusher]

variable {s s' : BatchState F} {f : F} {op : BatchOp F} {es : List BatchEvent}

lemma lastFlush_setFlush {x : Flush} (h : LastFlush f s)
    (hx : ∀ t, (∀ rest, x.phase = .check rest ∨ x.phase = .drain rest → t∉rest) → s.stores t=∅) :
    LastFlush f (s.setFlush f x) where
  others g hg := by
    rw [flush_setFlush,if_neg hg]
    exact h.others g hg
  emptied t ht := by
    rw [flush_setFlush,if_pos rfl] at ht
    exact hx t ht

lemma LastFlush.proceed (h : LastFlush f s) (hs : s.proceed f = some s') : LastFlush f s' := by
  have hemptied := h.emptied
  unfold BatchState.proceed at hs
  dsimp only at hs
  split at hs
  · cases hs
  · next hphase =>
    obtain rfl := Option.some.inj hs
    exact lastFlush_setFlush h (fun t _ => hemptied t (by simp [hphase]))
  · next t rest hphase =>
    split_ifs at hs with hempty
    · obtain rfl := Option.some.inj hs
      refine lastFlush_setFlush h ?_
      intro u hu
      by_cases hut : u=t
      · rw [hut]
        exact eq_empty_of_isEmpty hempty
      · refine hemptied u ?_
        simp_all
    · obtain rfl := Option.some.inj hs
      refine lastFlush_setFlush h ?_
      intro u hu
      have hall : u∈allTypes := by cases u <;> decide
      exact absurd hall (hu allTypes (.inr rfl))
  · next hphase =>
    obtain rfl := Option.some.inj hs
    exact lastFlush_setFlush h (fun t _ => hemptied t (by simp [hphase]))
  · next t rest hphase =>
    obtain rfl := Option.some.inj hs
    refine lastFlush_setFlush ⟨h.others,?_⟩ ?_
    · intro u hu
      by_cases hut : u=t
      · simp [hut]
      · simp only [Function.update_of_ne hut]
        exact hemptied u hu
    · intro u hu
      by_cases hut : u=t
      · simp [hut]
      · simp only [Function.update_of_ne hut]
        refine hemptied u ?_
        simp_all
  · next hphase =>
    split_ifs at hs with hempty
    obtain rfl := Option.some.inj hs
    exact lastFlush_setFlush h (fun t _ => hemptied t (by simp [hphase]))
  · next hphase =>
    split_ifs at hs with hempty
    obtain rfl := Option.some.inj hs
    exact lastFlush_setFlush h (fun t _ => hemptied t (by simp [hphase]))
  · next hphase =>
    split_ifs at hs with hempty
    obtain rfl := Option.some.inj hs
    exact lastFlush_setFlush h (fun t _ => hemptied t (by simp [hphase]))

lemma lastFlush_finish {x : Flush} {o : Option CounterDb} (h : LastFlush f s) (hx : x.phase = (s.flush f).phase) :
    LastFlush f (s.finish f x o).1 := by
  cases o with
  | none => exact lastFlush_setFlush h (fun t ht => h.emptied t (by rwa [←hx]))
  | some db =>
    have hdb : LastFlush f { s with db := db } := ⟨h.others,h.emptied⟩
    exact lastFlush_setFlush hdb (fun t ht => h.emptied t (by rwa [←hx]))

lemma LastFlush.update {key : ℤ} (h : LastFlush f s) (hs : s.update f key = some (s',es)) : LastFlush f s' := by
  unfold BatchState.update at hs
  dsimp only at hs
  split at hs
  · obtain ⟨value,-,hs⟩ := Option.map_eq_some_iff.mp hs
    rw [←(Prod.mk.inj hs).1]
    exact lastFlush_finish h rfl
  · obtain ⟨value,-,hs⟩ := Option.map_eq_some_iff.mp hs
    rw [←(Prod.mk.inj hs).1]
    exact lastFlush_finish h rfl
  · split_ifs at hs
    obtain hs := Option.some.inj hs
    rw [←(Prod.mk.inj hs).1]
    exact lastFlush_finish h rfl
  · cases hs

lemma lastFlush_start (h : ∀ g, g≠f → (s.flush g).phase = .idle) :
    LastFlush f (s.setFlush f ⟨.check allTypes,fun _ => ∅⟩) where
  others g hg := by
    rw [flush_setFlush,if_neg hg]
    exact h g hg
  emptied t ht := by
    have hall : t∈allTypes := by cases t <;> decide
    exact absurd hall (ht allTypes (.inl (by rw [flush_setFlush,if_pos rfl])))

lemma LastFlush.step (h : LastFlush f s) (hop : op.flusher = some f) (hs : s.step op = some (s',es)) :
    LastFlush f s' := by
  rcases BatchOp.ne_record hop with rfl | rfl | ⟨key,rfl⟩
  · simp only [BatchState.step] at hs
    split_ifs at hs
    rw [←(Prod.mk.inj (Option.some.inj hs)).1]
    exact lastFlush_start h.others
  · obtain ⟨s1,h1,hs⟩ := Option.map_eq_some_iff.mp hs
    rw [←(Prod.mk.inj hs).1]
    exact h.proceed h1
  · exact h.update hs

lemma LastFlush.run {c : Config (BatchState F) BatchEvent} {js : List (BatchOp F)} (h : LastFlush f c.state)
    (hops : ∀ op∈js, op.flusher = some f) : LastFlush f ((BatchState.system F).run c js).state := by
  refine (always_of_guarded (P := fun d => LastFlush f d.state) (G := fun _ op => op.flusher = some f) h ?_ ?_).last
  · intro d op s' es hd hop hs
    exact hd.step hop hs
  · exact guarded_of_forall (fun op hop _ => hops op hop)

/-- Once the last flush has ended nothing is pending. -/
lemma LastFlush.pending_eq_zero (h : LastFlush f s) (hsound : ∀ g, (s.flush g).Sound)
    (hdone : (s.flush f).phase = .idle) (t : BatchUpdateType) (i : ℤ) : s.pending t i=0 := by
  have hidle : ∀ g, (s.flush g).phase = .idle := by
    intro g
    by_cases hg : g=f
    · rw [hg]
      exact hdone
    · exact h.others g hg
  have hstore : s.stores t=∅ := h.emptied t (by simp [hdone])
  have hflush : ∀ g, (s.flush g).stores t=∅ := by
    intro g
    have hg := hsound g
    simp only [Flush.Sound,hidle g] at hg
    exact hg t
  simp [BatchState.pending,hstore,hflush]

end Runs

/-! ## The unbatched mode -/

/-- What the record stands for when nothing is batched. -/
def Record.direct (r : Record) (db : CounterDb) : Option CounterDb :=
  match r.type with
  | .userQuota => if 0 ≤ r.value then db.increaseUserQuota r.id r.value else db.decreaseUserQuota r.id (-r.value)
  | .tokenQuota => if 0 ≤ r.value then db.increaseTokenQuota r.id r.value else db.decreaseTokenQuota r.id (-r.value)
  | .usedQuota => db.updateUserUsedQuota r.id r.value
  | .channelUsedQuota => db.updateChannelUsedQuota r.id r.value
  | .requestCount => db.updateUserRequestCount r.id r.value

/-- The records of a history, in the order in which they were made. -/
def recordsOf (hist : List BatchEvent) : List Record :=
  (hist.filterMap (fun | .recorded r => some r | .databaseError => none)).reverse

/-- All records written at once, each by its own statement; `none` if a statement fails. -/
def directAll (db : CounterDb) (rs : List Record) : Option CounterDb := rs.foldlM (fun d r => r.direct d) db

inductive CounterError
  | negativeQuota
  | database
deriving Repr, DecidableEq

/-- The functions that change counters, as their callers see them. -/
inductive Entry
  | increaseTokenQuota (id quota : ℤ)
  | decreaseTokenQuota (id quota : ℤ)
  | increaseUserQuota (id quota : ℤ) (db : Bool)
  | decreaseUserQuota (id quota : ℤ) (db : Bool)
  | updateUserUsedQuotaAndRequestCount (id quota : ℤ)
  | updateChannelUsedQuota (id quota : ℤ)
deriving Repr, DecidableEq

/-- The quota functions refuse a negative quota; in batch mode they make a record, else they write at once. -/
def quotaEntry (batch : Bool) (quota : ℤ) (r : Record) (direct : Option CounterDb) (db : CounterDb) :
    Except CounterError (CounterDb × List Record) :=
  if quota<0 then .error .negativeQuota else
  if batch then .ok (db,[r]) else
  match direct with
  | some db' => .ok (db',[])
  | none => .error .database

/-- A call with and without batching: the database after it, and the records it has made. The usage
functions only log a failed statement. -/
def Entry.run (batch : Bool) (db : CounterDb) : Entry → Except CounterError (CounterDb × List Record)
  | .increaseTokenQuota id quota =>
    quotaEntry batch quota ⟨.tokenQuota,id,quota⟩ (db.increaseTokenQuota id quota) db
  | .decreaseTokenQuota id quota =>
    quotaEntry batch quota ⟨.tokenQuota,id,-quota⟩ (db.decreaseTokenQuota id quota) db
  | .increaseUserQuota id quota direct =>
    quotaEntry (!direct && batch) quota ⟨.userQuota,id,quota⟩ (db.increaseUserQuota id quota) db
  | .decreaseUserQuota id quota direct =>
    quotaEntry (!direct && batch) quota ⟨.userQuota,id,-quota⟩ (db.decreaseUserQuota id quota) db
  | .updateUserUsedQuotaAndRequestCount id quota =>
    if batch then .ok (db,[⟨.usedQuota,id,quota⟩,⟨.requestCount,id,1⟩])
    else .ok ((db.updateUserUsedQuotaAndRequestCount id quota 1).getD db,[])
  | .updateChannelUsedQuota id quota =>
    if batch then .ok (db,[⟨.channelUsedQuota,id,quota⟩])
    else .ok ((db.updateChannelUsedQuota id quota).getD db,[])

lemma updateRow_bind {α : Type} (rows : ℤ → Option α) (id : ℤ) (f g : α → Option α) :
    (updateRow rows id f).bind (fun rows' => updateRow rows' id g)=updateRow rows id (fun r => (f r).bind g) := by
  unfold updateRow
  cases hr : rows id with
  | none => simp [hr]
  | some r =>
    cases hf : f r with
    | none => simp [hf]
    | some r' => simp [hf]

/-- Used quota and request count may be written one after the other. -/
lemma usage_bind (db : CounterDb) (id quota : ℤ) :
    (db.updateUserUsedQuota id quota).bind (fun db' => db'.updateUserRequestCount id 1)=
      db.updateUserUsedQuotaAndRequestCount id quota 1 := by
  have hrows := updateRow_bind db.users id
    (fun r => (r.usedQuota.plus quota).bind (fun usedQuota => some { r with usedQuota := usedQuota }))
    (fun r => (r.requestCount.plus 1).bind (fun count => some { r with requestCount := count }))
  simp only [CounterDb.updateUserUsedQuota,CounterDb.updateUserRequestCount,CounterDb.updateUser,
    CounterDb.updateUserUsedQuotaAndRequestCount,Option.bind_eq_bind,Option.pure_def,Option.bind_map]
  rw [Function.comp_def]
  simp only [Option.bind_assoc,Option.bind_some] at hrows
  rw [←hrows,Option.map_bind]
  rfl

lemma direct_decreaseToken {db : CounterDb} {id quota : ℤ} (h : 0≤quota) :
    Record.direct ⟨.tokenQuota,id,-quota⟩ db=db.decreaseTokenQuota id quota := by
  simp only [Record.direct,neg_neg]
  split_ifs with hneg
  · obtain rfl : quota=0 := by omega
    simp [CounterDb.increaseTokenQuota,CounterDb.decreaseTokenQuota]
  · rfl

lemma direct_decreaseUser {db : CounterDb} {id quota : ℤ} (h : 0≤quota) :
    Record.direct ⟨.userQuota,id,-quota⟩ db=db.decreaseUserQuota id quota := by
  simp only [Record.direct,neg_neg]
  split_ifs with hneg
  · obtain rfl : quota=0 := by omega
    simp [CounterDb.increaseUserQuota,CounterDb.decreaseUserQuota]
  · rfl

section Modes
variable {db db1 db2 : CounterDb} {rs : List Record} {quota : ℤ} {r : Record} {direct : Option CounterDb}

lemma quotaEntry_modes (hr : 0≤quota → r.direct db=direct) (h : quotaEntry true quota r direct db = .ok (db1,rs))
    (hdirect : directAll db1 rs = some db2) : quotaEntry false quota r direct db = .ok (db2,[]) := by
  unfold quotaEntry at h ⊢
  simp only [if_true] at h
  split_ifs at h with hq
  obtain ⟨rfl,rfl⟩ := Prod.mk.inj (Except.ok.inj h)
  have hone : direct = some db2 := by
    rw [←hr (by omega)]
    simpa [directAll] using hdirect
  simp [hq,hone]

lemma quotaEntry_direct (h : quotaEntry false quota r direct db = .ok (db1,rs)) (hdirect : directAll db1 rs = some db2) :
    quotaEntry false quota r direct db = .ok (db2,[]) := by
  have hrs : rs = [] := by
    unfold quotaEntry at h
    simp only [Bool.false_eq_true,if_false] at h
    split_ifs at h
    split at h
    · exact (Prod.mk.inj (Except.ok.inj h)).2.symm
    · cases h
  subst hrs
  obtain rfl : db1=db2 := Option.some.inj hdirect
  exact h

end Modes

/-- The records of a call that batches amount to what the call does when it does not. -/
theorem entry_modes {e : Entry} {db db1 db2 : CounterDb} {rs : List Record} (h : e.run true db = .ok (db1,rs))
    (hdirect : directAll db1 rs = some db2) : e.run false db = .ok (db2,[]) := by
  cases e with
  | increaseTokenQuota id quota => exact quotaEntry_modes (fun hq => by simp [Record.direct,hq]) h hdirect
  | decreaseTokenQuota id quota => exact quotaEntry_modes (fun hq => direct_decreaseToken hq) h hdirect
  | increaseUserQuota id quota direct =>
    cases direct with
    | false => exact quotaEntry_modes (fun hq => by simp [Record.direct,hq]) h hdirect
    | true => exact quotaEntry_direct h hdirect
  | decreaseUserQuota id quota direct =>
    cases direct with
    | false => exact quotaEntry_modes (fun hq => direct_decreaseUser hq) h hdirect
    | true => exact quotaEntry_direct h hdirect
  | updateUserUsedQuotaAndRequestCount id quota =>
    simp only [Entry.run,if_true,Except.ok.injEq,Prod.mk.injEq] at h
    obtain ⟨rfl,rfl⟩ := h
    have hboth : db.updateUserUsedQuotaAndRequestCount id quota 1 = some db2 := by
      rw [←usage_bind]
      simpa [directAll,Record.direct] using hdirect
    simp [Entry.run,hboth]
  | updateChannelUsedQuota id quota =>
    simp only [Entry.run,if_true,Except.ok.injEq,Prod.mk.injEq] at h
    obtain ⟨rfl,rfl⟩ := h
    have hone : db.updateChannelUsedQuota id quota = some db2 := by simpa [directAll,Record.direct] using hdirect
    simp [Entry.run,hone]

lemma direct_shifted {r : Record} {db db' : CounterDb} (h : r.direct db = some db') :
    Shifted (recordShift r.type r.id r.value) db db' := by
  obtain ⟨type,id,value⟩ := r
  cases type with
  | userQuota =>
    simp only [Record.direct] at h
    split_ifs at h
    · exact increaseUserQuota_shifted h
    · simpa using decreaseUserQuota_shifted h
  | tokenQuota =>
    simp only [Record.direct] at h
    split_ifs at h
    · exact increaseTokenQuota_shifted h
    · simpa using decreaseTokenQuota_shifted h
  | usedQuota => exact updateUserUsedQuota_shifted h
  | channelUsedQuota => exact updateChannelUsedQuota_shifted h
  | requestCount => exact updateUserRequestCount_shifted h

lemma directAll_shifted {rs : List Record} {db db' : CounterDb} (h : directAll db rs = some db') :
    Shifted (fun c i => (rs.map (fun r => recordShift r.type r.id r.value c i)).sum) db db' := by
  induction rs generalizing db with
  | nil =>
    obtain rfl := Option.some.inj h
    exact Shifted.refl db
  | cons r rs ih =>
    obtain ⟨d,hd,h⟩ := Option.bind_eq_some_iff.mp h
    simpa using (direct_shifted hd).trans (ih h)

lemma recordedSum_eq (c : Column) (i : ℤ) (hist : List BatchEvent) :
    recordedSum c i hist=((recordsOf hist).map (fun r => recordShift r.type r.id r.value c i)).sum := by
  rw [recordsOf,List.map_reverse,List.sum_reverse]
  induction hist with
  | nil => rfl
  | cons e hist ih =>
    cases e with
    | recorded r => simpa [recordedSum] using ih
    | databaseError => simpa [recordedSum] using ih

lemma value_range {db : CounterDb} {c : Column} {i v : ℤ} (h : db.value c i = some v) : -2^63≤v ∧ v<2^63 := by
  cases c <;> obtain ⟨r,-,rfl⟩ := Option.map_eq_some_iff.mp h
  · exact r.quota.property
  · exact r.usedQuota.property
  · exact r.requestCount.property
  · exact r.remainQuota.property
  · exact r.usedQuota.property
  · exact r.property

/-- Batched counters are the counters of the unbatched mode: once the writers are done, a last flush has
run and no statement has failed in either mode, every counter has changed by the sum of its records. -/
theorem batched_eq_direct {F : Type*} [DecidableEq F] [Fintype F] {db0 db' : CounterDb} {is js : List (BatchOp F)}
    {f : F} {final : Config (BatchState F) BatchEvent}
    (hidle : ∀ g, (((BatchState.system F).run ⟨.initial db0,[]⟩ is).state.flush g).phase = .idle)
    (hrun : (BatchState.system F).run ⟨.initial db0,[]⟩ (is++.batchUpdate f::js)=final)
    (hlast : ∀ op∈js, op.flusher = some f) (hdone : (final.state.flush f).phase = .idle)
    (herr : .databaseError∉final.history) (hdirect : directAll db0 (recordsOf final.history) = some db') :
    ∀ c i, final.state.db.value c i=(db0.value c i).map (fun v => v+recordedSum c i final.history) ∧
      final.state.db.value c i=db'.value c i := by
  intro c i
  have hconserved : Conserved db0 final := hrun ▸ (conserved_run _).last
  have hlastFlush : LastFlush f final.state := by
    rw [←hrun,run_append]
    refine LastFlush.run (c := (BatchState.system F).exec _ (.batchUpdate f)) ?_ hlast
    rw [exec_of_some (if_pos (hidle f))]
    exact lastFlush_start (fun g _ => hidle g)
  have hpending := hlastFlush.pending_eq_zero hconserved.sound hdone c.type i
  have hbalance := hconserved.balance herr c i
  have hvalue : db'.value c i=(db0.value c i).map (fun v => v+recordedSum c i final.history) := by
    rw [recordedSum_eq]
    exact directAll_shifted hdirect c i
  rw [hpending] at hbalance
  suffices h : final.state.db.value c i=db'.value c i from ⟨by rw [h,hvalue],h⟩
  cases h0 : db0.value c i with
  | none =>
    rw [h0] at hbalance hvalue
    rw [hvalue]
    exact Option.map_eq_none_iff.mp hbalance
  | some v0 =>
    rw [h0] at hbalance hvalue
    obtain ⟨v,hv,hsum⟩ := Option.map_eq_some_iff.mp hbalance
    have hrange := value_range hvalue
    rw [hvalue,hv]
    refine congrArg some (eq_of_cast_eq (value_range hv) hrange ?_)
    push_cast
    simpa using hsum

def zeroInt : SqlInt := ⟨0,by decide⟩

/-- One user and one token. -/
def smallDb : CounterDb where
  users id := if id=1 then some ⟨zeroInt,zeroInt,zeroInt⟩ else none
  tokens id := if id=2 then some ⟨zeroInt,zeroInt⟩ else none
  channels _ := none

theorem entry_modes_smallDb : ∃db, (Entry.decreaseUserQuota 1 5 false).run false smallDb = .ok (db,[]) := by
  have hdirect : (directAll smallDb [⟨.userQuota,1,-5⟩]).isSome = true := by decide
  obtain ⟨db,hdb⟩ := Option.isSome_iff_exists.mp hdirect
  exact ⟨db,entry_modes rfl hdb⟩

/-- A flush during which a record for an id that it has just drained is made. -/
def overtakenFlush : List (BatchOp Unit) :=
  [.addNewRecord ⟨.userQuota,1,5⟩,.batchUpdate (),.proceed (),.proceed (),.addNewRecord ⟨.userQuota,1,-2⟩,
    .addNewRecord ⟨.tokenQuota,2,7⟩,.proceed (),.proceed (),.proceed (),.proceed (),.proceed (),.update () 2,
    .proceed (),.proceed (),.update () 1,.proceed ()]

def lastRounds : List (BatchOp Unit) :=
  [.proceed (),.proceed (),.proceed (),.proceed (),.proceed (),.proceed (),.proceed (),.proceed (),.proceed (),
    .update () 1,.proceed ()]

theorem batched_eq_direct_overtakenFlush :
    ((BatchState.system Unit).run ⟨.initial smallDb,[]⟩ (overtakenFlush++.batchUpdate ()::lastRounds)).state.db.value
      .quota 1 = some 3 := by
  have hidle : ∀ g : Unit,
      (((BatchState.system Unit).run ⟨.initial smallDb,[]⟩ overtakenFlush).state.flush g).phase = .idle := by
    decide
  have hlast : ∀ op∈lastRounds, op.flusher = some () := by decide
  have hdirect : (directAll smallDb [⟨.userQuota,1,5⟩,⟨.userQuota,1,-2⟩,⟨.tokenQuota,2,7⟩]).isSome = true := by
    decide
  obtain ⟨db',hdirect⟩ := Option.isSome_iff_exists.mp hdirect
  exact (batched_eq_direct hidle rfl hlast (by decide) (by decide) hdirect .quota 1).1.trans
    (by decide)

end Counters
end Tierflow
