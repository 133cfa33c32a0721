import Tierflow.Users.TwoFactor

/-! Two-factor safety in runs in which no request is overtaken between its read of a row and the save of
it. -/
namespace Tierflow
open TxSystem TaskSystem
namespace Users

/-- The task holds an evaluated code whose result is not saved yet. -/
def TwoFactorTask.unsaved : TwoFactorTask → Bool
  | .save _ _ _ | .saveCode _ _ _ => true
  | _ => false

/-- The task will evaluate its code, which is of a kind to be evaluated, as the record is not locked. -/
def TwoFactorTask.evaluates (now : ℤ) : TwoFactorTask → Bool
  | .check t _ code => (validateNumericCode code).isSome && !t.isLocked now
  | .checkBackup t _ code => validateBackupCode code && !t.isLocked now
  | _ => false

/-- The condition on a statement: a code is evaluated while the record is the one that was read and no other
request is between an evaluation and its saves; a record is saved over the one that it came from; a backup
code is saved while its row is there and unused. -/
def Undisturbed (s : TwoFactorState) (ts : List TwoFactorTask) : TwoFactorTask → Prop
  | .check t p code => TwoFactorTask.evaluates s.now (.check t p code) = true →
      s.twoFA = some t ∧ ∀ u∈ts, u.unsaved = false
  | .checkBackup t p code => TwoFactorTask.evaluates s.now (.checkBackup t p code) = true →
      s.twoFA = some t ∧ ∀ u∈ts, u.unsaved = false
  | .save base _ _ => s.twoFA = some base
  | .saveCode bc _ _ => ∃ row∈s.codes, row.id = bc.id ∧ row.isUsed = false ∧ row.deleted = false
  | _ => True

instance (s : TwoFactorState) (ts : List TwoFactorTask) : ∀ t, Decidable (Undisturbed s ts t)
  | .check _ _ _ | .checkBackup _ _ _ | .save _ _ _ | .saveCode _ _ _ => by
    unfold Undisturbed
    infer_instance
  | .disableTwoFA | .delete | .createBackupCodes _ => instDecidableTrue

/-! ## Backup codes -/

lemma mem_saveRow {codes : List BackupCode} {bc row : BackupCode} (h : row∈saveRow codes bc) :
    row = { bc with deleted := false } ∨ row∈codes ∧ row.id≠bc.id := by
  unfold saveRow at h
  split_ifs at h with hany
  · obtain ⟨old,hold,rfl⟩ := List.mem_map.mp h
    by_cases hid : old.id = bc.id
    · exact .inl (if_pos hid)
    · right
      rw [if_neg hid]
      exact ⟨hold,hid⟩
  · cases List.mem_append.mp h with
    | inl hm =>
      right
      refine ⟨hm,fun hid => hany ?_⟩
      rw [List.any_eq_true]
      exact ⟨row,hm,decide_eq_true hid⟩
    | inr hm => exact .inl (by simpa using hm)

lemma mem_newRows {nextId : ℕ} {hashes : List String} {row : BackupCode} (h : row∈newRows nextId hashes) :
    nextId ≤ row.id ∧ row.id<nextId+hashes.length ∧ row.isUsed = false := by
  unfold newRows at h
  obtain ⟨⟨x,k⟩,hk,rfl⟩ := List.mem_map.mp h
  have hlt := (List.mem_zipIdx' hk).1
  refine ⟨?_,?_,rfl⟩
  · show nextId≤nextId+k
    omega
  · show nextId+k<nextId+hashes.length
    omega

/-- What the rows keep of the history: accepted codes are used, and live rows are not older than any
regeneration. -/
structure CodesHeld (s : TwoFactorState) (h : List TwoFactorEvent) : Prop where
  ids : ∀ row∈s.codes, row.id < s.nextId
  used : ∀ id, .backupAccepted id∈h → id < s.nextId ∧ ∀ row∈s.codes, row.id = id → row.isUsed = true
  recent : ∀ firstId, .regenerated firstId∈h →
    firstId ≤ s.nextId ∧ ∀ row∈s.codes, row.deleted = false → firstId ≤ row.id
  compatible : h.Pairwise Compatible

/-- Events that are about no backup code. -/
def Plain (es : List TwoFactorEvent) : Prop :=
  ∀ e∈es, (∀ id, e≠.backupAccepted id) ∧ ∀ firstId, e≠.regenerated firstId

lemma compatible_of_plain {e e' : TwoFactorEvent} (h : ∀ id, e≠.backupAccepted id) : Compatible e e' := by
  cases e with
  | backupAccepted id => exact absurd rfl (h id)
  | _ => trivial

lemma pairwise_of_plain {es h : List TwoFactorEvent} (hes : Plain es) (hp : h.Pairwise Compatible) :
    (es++h).Pairwise Compatible := by
  induction es with
  | nil => exact hp
  | cons e es ih =>
    rw [List.cons_append,List.pairwise_cons]
    refine ⟨fun e' _ => compatible_of_plain (hes e (by simp)).1,ih ?_⟩
    intro e' he'
    exact hes e' (List.mem_cons_of_mem _ he')

/-- A step that leaves the codes alone and emits no event about them. -/
lemma CodesHeld.plain {s s' : TwoFactorState} {h k : List TwoFactorEvent} (hh : CodesHeld s h)
    (hc : s'.codes = s.codes) (hn : s'.nextId = s.nextId) (hes : Plain k) : CodesHeld s' (k++h) := by
  have hmem : ∀ id, TwoFactorEvent.backupAccepted id∈k++h → TwoFactorEvent.backupAccepted id∈h := by
    intro id hid
    refine (List.mem_append.mp hid).resolve_left ?_
    intro he
    exact (hes _ he).1 id rfl
  have hmem' : ∀ n, TwoFactorEvent.regenerated n∈k++h → TwoFactorEvent.regenerated n∈h := by
    intro n hid
    refine (List.mem_append.mp hid).resolve_left ?_
    intro he
    exact (hes _ he).2 n rfl
  constructor
  · rw [hc,hn]
    exact hh.ids
  · intro id hid
    rw [hc,hn]
    exact hh.used id (hmem id hid)
  · intro n hid
    rw [hc,hn]
    exact hh.recent n (hmem' n hid)
  · exact pairwise_of_plain hes hh.compatible

/-- A backup code whose row is there and unused is accepted for the first time, and after no regeneration
that it did not come from. -/
lemma CodesHeld.saveCode {s : TwoFactorState} {h : List TwoFactorEvent} {bc : BackupCode} (hh : CodesHeld s h)
    (hu : bc.isUsed = true)
    (hrow : ∃ row∈s.codes, row.id = bc.id ∧ row.isUsed = false ∧ row.deleted = false) :
    CodesHeld { s with codes := saveRow s.codes bc } (.backupAccepted bc.id::h) := by
  obtain ⟨old,hold,hid,hunused,hlive⟩ := hrow
  have hlt : bc.id < s.nextId := hid ▸ hh.ids old hold
  constructor
  · intro row hm
    cases mem_saveRow hm with
    | inl he => rw [he]; exact hlt
    | inr hm => exact hh.ids row hm.1
  · intro id hm
    have hid' : id < s.nextId := by
      cases List.mem_cons.mp hm with
      | inl he => cases he; exact hlt
      | inr hm => exact (hh.used id hm).1
    refine ⟨hid',?_⟩
    intro row hrow he
    cases mem_saveRow hrow with
    | inl hr => rw [hr]; exact hu
    | inr hr =>
      cases List.mem_cons.mp hm with
      | inl hi => cases hi; exact absurd he hr.2
      | inr hm => exact (hh.used id hm).2 row hr.1 he
  · intro n hm
    have hm' : TwoFactorEvent.regenerated n∈h := (List.mem_cons.mp hm).resolve_left (by simp)
    obtain ⟨hn,hl⟩ := hh.recent n hm'
    refine ⟨hn,?_⟩
    intro row hrow hd
    cases mem_saveRow hrow with
    | inl hr => rw [hr]; exact hid ▸ hl old hold hlive
    | inr hr => exact hl row hr.1 hd
  · rw [List.pairwise_cons]
    refine ⟨?_,hh.compatible⟩
    intro e he
    cases e with
    | backupAccepted id =>
      intro heq
      have husedOld := (hh.used id he).2 old hold (by rw [hid,heq])
      rw [hunused] at husedOld
      exact Bool.false_ne_true husedOld
    | regenerated n =>
      show n≤bc.id
      exact hid ▸ (hh.recent n he).2 old hold hlive
    | _ => trivial

lemma CodesHeld.createBackupCodes {s : TwoFactorState} {h : List TwoFactorEvent} (hashes : List String)
    (hh : CodesHeld s h) :
    CodesHeld { s with
      codes := s.codes.map (fun row => { row with deleted := true })++newRows s.nextId hashes
      nextId := s.nextId+hashes.length } (.regenerated s.nextId::h) := by
  have hcases : ∀ row∈s.codes.map (fun row => { row with deleted := true })++newRows s.nextId hashes,
      (∃ old∈s.codes, row.id = old.id ∧ row.isUsed = old.isUsed ∧ row.deleted = true) ∨
      row∈newRows s.nextId hashes := by
    intro row hm
    refine (List.mem_append.mp hm).imp ?_ id
    intro hm
    obtain ⟨old,hold,rfl⟩ := List.mem_map.mp hm
    exact ⟨old,hold,rfl,rfl,rfl⟩
  constructor
  · intro row hm
    show row.id < s.nextId+hashes.length
    cases hcases row hm with
    | inl ho =>
      obtain ⟨old,hold,hid,-⟩ := ho
      have hlt := hh.ids old hold
      omega
    | inr hn => exact (mem_newRows hn).2.1
  · intro id hm
    have hm' : TwoFactorEvent.backupAccepted id∈h := (List.mem_cons.mp hm).resolve_left (by simp)
    obtain ⟨hlt,hused⟩ := hh.used id hm'
    refine ⟨by show id < s.nextId+hashes.length; omega,?_⟩
    intro row hrow he
    cases hcases row hrow with
    | inl ho =>
      obtain ⟨old,hold,hid,hu,-⟩ := ho
      rw [hu]
      exact hused old hold (hid ▸ he)
    | inr hn =>
      have hle := (mem_newRows hn).1
      omega
  · intro n hm
    have hn : n ≤ s.nextId := by
      cases List.mem_cons.mp hm with
      | inl he => cases he; exact le_rfl
      | inr hm => exact (hh.recent n hm).1
    refine ⟨by show n ≤ s.nextId+hashes.length; omega,?_⟩
    intro row hrow hd
    cases hcases row hrow with
    | inl ho =>
      obtain ⟨old,-,-,-,hdel⟩ := ho
      rw [hd] at hdel
      exact absurd hdel Bool.false_ne_true
    | inr hr => exact hn.trans (mem_newRows hr).1
  · rw [List.pairwise_cons]
    exact ⟨fun e _ => compatible_of_plain (by simp),hh.compatible⟩

lemma CodesHeld.delete {s : TwoFactorState} {h : List TwoFactorEvent} (hh : CodesHeld s h) :
    CodesHeld { s with twoFA := none, codes := [] } (.disabled::h) := by
  constructor
  · intro row hm
    cases hm
  · intro id hm
    have hm' : TwoFactorEvent.backupAccepted id∈h := (List.mem_cons.mp hm).resolve_left (by simp)
    refine ⟨(hh.used id hm').1,?_⟩
    intro row hrow
    cases hrow
  · intro n hm
    have hm' : TwoFactorEvent.regenerated n∈h := (List.mem_cons.mp hm).resolve_left (by simp)
    refine ⟨(hh.recent n hm').1,?_⟩
    intro row hrow
    cases hrow
  · rw [List.pairwise_cons]
    exact ⟨fun e _ => compatible_of_plain (by simp),hh.compatible⟩

/-! ## Wrong codes -/

/-- The record counts the wrong codes, and once it has counted enough of them it is locked for the lockout
duration after each. -/
def Counts (ws : List ℤ) (t : TwoFA) : Prop :=
  (ws.length : ℤ)≤t.failedAttempts ∧
  ((maxFailAttempts : ℤ)≤t.failedAttempts → ∀ w∈ws, ∃ u, t.lockedUntil = some u ∧ w+lockoutDuration≤u)

lemma counts_nil {t : TwoFA} (h : 0≤t.failedAttempts) : Counts [] t :=
  ⟨by simpa using h,fun _ w hw => by cases hw⟩

lemma counts_usedAt (t : TwoFA) (now : ℤ) : Counts [] (t.usedAt now) := counts_nil le_rfl

lemma counts_increment {ws : List ℤ} {t : TwoFA} {now : ℤ} (h : Counts ws t) (hpast : ∀ w∈ws, w≤now) :
    Counts (now::ws) (t.incrementFailedAttempts now) := by
  constructor
  · show ((now::ws).length : ℤ)≤t.failedAttempts+1
    have hl := h.1
    push_cast [List.length_cons]
    omega
  · intro hmax w hw
    refine ⟨now+lockoutDuration,if_pos hmax,?_⟩
    have hle : w≤now := by
      cases List.mem_cons.mp hw with
      | inl he => exact he.le
      | inr hm => exact hpast w hm
    omega

/-- A wrong code that is evaluated while the record is not locked leaves every span within the bound: either
fewer were counted so far, or all of them are out of the span. -/
lemma within_cons {ws : List ℤ} {t : TwoFA} {now : ℤ} (h : Counts ws t) (hw : Within ws)
    (hlock : t.isLocked now = false) : Within (now::ws) := by
  intro start
  rw [List.countP_cons]
  split_ifs with hin
  · have hin' : start≤now ∧ now < start+lockoutDuration := by simpa using hin
    by_cases hmax : (maxFailAttempts : ℤ)≤t.failedAttempts
    · have hzero : ws.countP (fun w => decide (start≤w ∧ w < start+lockoutDuration)) = 0 := by
        rw [List.countP_eq_zero]
        intro w hm
        obtain ⟨u,hu,hle⟩ := h.2 hmax w hm
        have hun : u≤now := by simpa [TwoFA.isLocked,hu] using hlock
        simp only [decide_eq_true_eq,not_and]
        intro hs
        omega
      rw [hzero]
      decide
    · have hlen : ws.countP (fun w => decide (start≤w ∧ w < start+lockoutDuration))≤ws.length :=
        List.countP_le_length
      have hl := h.1
      omega
  · exact hw start

/-- The counter is right: the record or, while a result is not saved, the record that is to be saved. -/
structure Counted (s : TwoFactorState) (ts : List TwoFactorTask) (h : List TwoFactorEvent) : Prop where
  past : ∀ w∈wrongs h, w ≤ s.now
  within : Within (wrongs h)
  one : ts.countP TwoFactorTask.unsaved≤1
  pending : ∀ base new k, .save base new k∈ts → Counts (wrongs h) new
  settled : ts.countP TwoFactorTask.unsaved = 0 → ∀ t∈s.twoFA, Counts (wrongs h) t

lemma countP_unsaved_eq_zero {ts : List TwoFactorTask} :
    ts.countP TwoFactorTask.unsaved = 0 ↔ ∀ u∈ts, u.unsaved = false := by
  simp [List.countP_eq_zero]

lemma countP_split (l : List TwoFactorTask) (t : TwoFactorTask) (r : List TwoFactorTask) :
    (l++t::r).countP TwoFactorTask.unsaved = (l++r).countP TwoFactorTask.unsaved+if t.unsaved then 1 else 0 := by
  simp only [List.countP_append,List.countP_cons]
  omega

section Counted
variable {s s' : TwoFactorState} {l r rest : List TwoFactorTask} {t : TwoFactorTask} {h k : List TwoFactorEvent}

/-- A step that evaluates nothing and saves nothing. -/
lemma Counted.quiet (hc : Counted s (l++t::r) h) (ht : t.unsaved = false)
    (hrest : ∀ u∈rest, u.unsaved = false) (hw : wrongs (k++h) = wrongs h) (hnow : s.now ≤ s'.now)
    (hrec : ∀ x∈s'.twoFA, s.twoFA = some x) : Counted s' (l++r++rest) (k++h) := by
  have hcount : (l++r++rest).countP TwoFactorTask.unsaved = (l++t::r).countP TwoFactorTask.unsaved := by
    rw [List.countP_append,countP_split,countP_unsaved_eq_zero.mpr hrest,ht]
    simp
  constructor
  · intro w hm
    rw [hw] at hm
    exact (hc.past w hm).trans hnow
  · rw [hw]
    exact hc.within
  · rw [hcount]
    exact hc.one
  · intro base new k hm
    rw [hw]
    cases List.mem_append.mp hm with
    | inl hm =>
      apply hc.pending base new k
      cases List.mem_append.mp hm with
      | inl hm => exact List.mem_append_left _ hm
      | inr hm => exact List.mem_append_right _ (List.mem_cons_of_mem _ hm)
    | inr hm =>
      have hf := hrest _ hm
      simp [TwoFactorTask.unsaved] at hf
  · intro hz x hx
    rw [hw]
    exact hc.settled (hcount ▸ hz) x (hrec x hx)

/-- A step after which the only result that is not saved is the one that the step's task is to save. -/
lemma counted_saving {base new : TwoFA} {k : AfterSave} (hz : (l++r).countP TwoFactorTask.unsaved = 0)
    (hpast : ∀ w∈wrongs h, w ≤ s.now) (hwithin : Within (wrongs h)) (hnew : Counts (wrongs h) new) :
    Counted s (l++r++[.save base new k]) h := by
  constructor
  · exact hpast
  · exact hwithin
  · rw [List.countP_append,hz]
    simp [TwoFactorTask.unsaved]
  · intro base' new' k' hm
    cases List.mem_append.mp hm with
    | inl hm =>
      have hf := countP_unsaved_eq_zero.mp hz _ hm
      simp [TwoFactorTask.unsaved] at hf
    | inr hm =>
      have he : TwoFactorTask.save base' new' k' = .save base new k := by simpa using hm
      cases he
      exact hnew
  · intro hzero
    rw [List.countP_append,hz] at hzero
    simp [TwoFactorTask.unsaved] at hzero

end Counted

/-! ## Steps -/

/-- The invariant of undisturbed runs; the codes that are to be saved are marked as used. -/
structure TwoFactorInv (c : Config TwoFactorState TwoFactorTask TwoFactorEvent) : Prop where
  codes : CodesHeld c.state.shared c.history
  disabled : .disabled∈c.history → c.state.shared.twoFA = none
  counted : Counted c.state.shared c.state.tasks c.history
  used : ∀ bc t p, .saveCode bc t p∈c.state.tasks → bc.isUsed = true

section Steps
variable {V : Validators} {s s' : TwoFactorState} {l r rest ts : List TwoFactorTask} {t : TwoFactorTask}
  {h es : List TwoFactorEvent}

lemma plain_nil : Plain [] := fun e he => by cases he

lemma used_of_rest (hu : ∀ bc x p, .saveCode bc x p∈l++t::r → bc.isUsed = true)
    (hrest : ∀ bc x p, .saveCode bc x p∈rest → bc.isUsed = true) :
    ∀ bc x p, .saveCode bc x p∈l++r++rest → bc.isUsed = true := by
  intro bc x p hm
  cases List.mem_append.mp hm with
  | inr hm => exact hrest bc x p hm
  | inl hm =>
    apply hu bc x p
    cases List.mem_append.mp hm with
    | inl hm => exact List.mem_append_left _ hm
    | inr hm => exact List.mem_append_right _ (List.mem_cons_of_mem _ hm)

/-- A statement that evaluates nothing, saves nothing and leaves the state alone. -/
lemma TwoFactorInv.idle (hi : TwoFactorInv ⟨⟨s,l++t::r⟩,h⟩) (ht : t.unsaved = false)
    (hrest : ∀ u∈rest, u.unsaved = false) : TwoFactorInv ⟨⟨s,l++r++rest⟩,h⟩ where
  codes := hi.codes
  disabled := hi.disabled
  counted := hi.counted.quiet (k := []) ht hrest rfl le_rfl (fun _ hx => hx)
  used := used_of_rest hi.used (fun bc t p hm => by
    have hf := hrest _ hm
    simp [TwoFactorTask.unsaved] at hf)

/-- A wrong code. -/
lemma TwoFactorInv.wrong {x : TwoFA} {k : AfterSave} (hi : TwoFactorInv ⟨⟨s,l++t::r⟩,h⟩)
    (hx : s.twoFA = some x) (hz : ∀ u∈l++r, u.unsaved = false) (ht : t.unsaved = false)
    (hlock : x.isLocked s.now = false) :
    TwoFactorInv ⟨⟨s,l++r++[.save x (x.incrementFailedAttempts s.now) k]⟩,.wrong s.now::h⟩ := by
  have hzero : (l++t::r).countP TwoFactorTask.unsaved = 0 := by
    rw [countP_split,countP_unsaved_eq_zero.mpr hz,ht]
    simp
  have hcounts : Counts (wrongs h) x := hi.counted.settled hzero x hx
  constructor
  · exact hi.codes.plain (k := [.wrong s.now]) rfl rfl (by simp [Plain])
  · intro hm
    exact hi.disabled ((List.mem_cons.mp hm).resolve_left (by simp))
  · apply counted_saving (countP_unsaved_eq_zero.mpr hz)
    · intro w hm
      cases List.mem_cons.mp hm with
      | inl he => exact he.le
      | inr hm => exact hi.counted.past w hm
    · exact within_cons hcounts hi.counted.within hlock
    · exact counts_increment hcounts hi.counted.past
  · exact used_of_rest hi.used (by simp)

lemma within_nil : Within [] := fun _ => Nat.zero_le _

/-- A code of six digits that is right. -/
lemma TwoFactorInv.accepted {x : TwoFA} {k : AfterSave} (hi : TwoFactorInv ⟨⟨s,l++t::r⟩,h⟩)
    (hz : ∀ u∈l++r, u.unsaved = false) :
    TwoFactorInv ⟨⟨s,l++r++[.save x (x.usedAt s.now) k]⟩,.accepted::h⟩ := by
  constructor
  · exact hi.codes.plain (k := [.accepted]) rfl rfl (by simp [Plain])
  · intro hm
    exact hi.disabled ((List.mem_cons.mp hm).resolve_left (by simp))
  · exact counted_saving (countP_unsaved_eq_zero.mpr hz) (by simp [wrongs]) within_nil (counts_usedAt x s.now)
  · exact used_of_rest hi.used (by simp)

lemma fallback_unsaved (p : Purpose) (x : TwoFA) (code : String) : ∀ u∈p.fallback x code, u.unsaved = false := by
  cases p <;> simp [Purpose.fallback,TwoFactorTask.unsaved]

lemma afterSave_unsaved (x : TwoFA) (k : AfterSave) : ∀ u∈afterSave x k, u.unsaved = false := by
  cases k with
  | reject => simp [afterSave]
  | tryBackup p code => simp [afterSave,TwoFactorTask.unsaved]
  | accept p => cases p <;> simp [afterSave,TwoFactorTask.unsaved]

lemma inv_checkTOTP {x : TwoFA} {p : Purpose} {code : String}
    (hi : TwoFactorInv ⟨⟨s,l++.check x p code::r⟩,h⟩) (hg : Undisturbed s (l++r) (.check x p code)) :
    TwoFactorInv ⟨⟨(checkTOTP V s x p code).1,l++r++(checkTOTP V s x p code).2.1⟩,
      (checkTOTP V s x p code).2.2++h⟩ := by
  unfold checkTOTP
  cases hn : validateNumericCode code with
  | none => exact hi.idle rfl (fallback_unsaved p x code)
  | some clean =>
    cases hl : x.isLocked s.now with
    | true => exact hi.idle rfl (fallback_unsaved p x code)
    | false =>
      obtain ⟨hx,hz⟩ := hg (by simp [TwoFactorTask.evaluates,hn,hl])
      simp only [Bool.false_eq_true,if_false]
      split_ifs
      · exact hi.accepted hz
      · exact hi.wrong hx hz rfl hl

lemma inv_checkBackup {x : TwoFA} {p : Purpose} {code : String}
    (hi : TwoFactorInv ⟨⟨s,l++.checkBackup x p code::r⟩,h⟩) (hg : Undisturbed s (l++r) (.checkBackup x p code)) :
    TwoFactorInv ⟨⟨(checkBackup V s x p code).1,l++r++(checkBackup V s x p code).2.1⟩,
      (checkBackup V s x p code).2.2++h⟩ := by
  unfold checkBackup
  cases hl : x.isLocked s.now with
  | true => exact hi.idle rfl (by simp)
  | false =>
    simp only [Bool.false_eq_true,if_false]
    cases hv : validateBackupCode code with
    | false => exact hi.idle rfl (by simp)
    | true =>
      obtain ⟨hx,hz⟩ := hg (by simp [TwoFactorTask.evaluates,hv,hl])
      simp only [if_true]
      cases findBackupCode V s code with
      | none => exact hi.wrong hx hz rfl hl
      | some row =>
        constructor
        · exact hi.codes
        · exact hi.disabled
        · constructor
          · exact hi.counted.past
          · exact hi.counted.within
          · rw [List.countP_append,countP_unsaved_eq_zero.mpr hz]
            simp [TwoFactorTask.unsaved]
          · intro base new k hm
            cases List.mem_append.mp hm with
            | inl hm =>
              have hf := hz _ hm
              simp [TwoFactorTask.unsaved] at hf
            | inr hm => simp at hm
          · intro hzero
            simp [List.countP_append,TwoFactorTask.unsaved] at hzero
        · apply used_of_rest hi.used
          intro bc t p hm
          have he : TwoFactorTask.saveCode bc t p = _ := List.mem_singleton.mp hm
          cases he
          rfl

lemma inv_save {base new : TwoFA} {k : AfterSave} (hi : TwoFactorInv ⟨⟨s,l++.save base new k::r⟩,h⟩)
    (hg : s.twoFA = some base) :
    TwoFactorInv ⟨⟨{ s with twoFA := some new },l++r++afterSave new k⟩,h⟩ := by
  have hone := hi.counted.one
  rw [countP_split] at hone
  have hz : (l++r).countP TwoFactorTask.unsaved = 0 := by
    simp only [TwoFactorTask.unsaved,if_true] at hone
    omega
  have hrest := afterSave_unsaved new k
  have hnew : Counts (wrongs h) new := hi.counted.pending base new k (by simp)
  constructor
  · exact hi.codes.plain (k := []) rfl rfl plain_nil
  · intro hm
    have hnone := hi.disabled hm
    rw [hg] at hnone
    cases hnone
  · constructor
    · exact hi.counted.past
    · exact hi.counted.within
    · rw [List.countP_append,hz,countP_unsaved_eq_zero.mpr hrest]
      exact Nat.zero_le _
    · intro base' new' k' hm
      have hf : (TwoFactorTask.save base' new' k').unsaved = false := by
        cases List.mem_append.mp hm with
        | inl hm => exact countP_unsaved_eq_zero.mp hz _ hm
        | inr hm => exact hrest _ hm
      simp [TwoFactorTask.unsaved] at hf
    · rintro - x ⟨⟩
      exact hnew
  · apply used_of_rest hi.used
    intro bc t p hm
    have hf := hrest _ hm
    simp [TwoFactorTask.unsaved] at hf

lemma inv_saveCode {bc : BackupCode} {x : TwoFA} {p : Purpose} (hi : TwoFactorInv ⟨⟨s,l++.saveCode bc x p::r⟩,h⟩)
    (hg : ∃ row∈s.codes, row.id = bc.id ∧ row.isUsed = false ∧ row.deleted = false) :
    TwoFactorInv ⟨⟨{ s with codes := saveRow s.codes bc },l++r++[.save x (x.usedAt s.now) (.accept p)]⟩,
      .backupAccepted bc.id::h⟩ := by
  have hone := hi.counted.one
  rw [countP_split] at hone
  have hz : (l++r).countP TwoFactorTask.unsaved = 0 := by
    simp only [TwoFactorTask.unsaved,if_true] at hone
    omega
  constructor
  · exact hi.codes.saveCode (hi.used bc x p (by simp)) hg
  · intro hm
    exact hi.disabled ((List.mem_cons.mp hm).resolve_left (by simp))
  · exact counted_saving hz (by simp [wrongs]) within_nil (counts_usedAt x s.now)
  · exact used_of_rest hi.used (by simp)

lemma inv_advance (hi : TwoFactorInv ⟨⟨s,l++t::r⟩,h⟩) (hg : Undisturbed s (l++r) t) :
    TwoFactorInv ⟨⟨(advanceTwoFactor V s t).1,l++r++(advanceTwoFactor V s t).2.1⟩,
      (advanceTwoFactor V s t).2.2++h⟩ := by
  cases t with
  | check x p code => exact inv_checkTOTP hi hg
  | checkBackup x p code => exact inv_checkBackup hi hg
  | save base new k => exact inv_save hi hg
  | saveCode bc x p => exact inv_saveCode hi hg
  | disableTwoFA =>
    apply hi.idle rfl
    simp only [advanceTwoFactor]
    split_ifs <;> simp [TwoFactorTask.unsaved]
  | delete =>
    constructor
    · exact hi.codes.delete
    · intro _
      rfl
    · refine hi.counted.quiet (k := [.disabled]) rfl (by simp [advanceTwoFactor]) rfl le_rfl ?_
      rintro x ⟨⟩
    · exact used_of_rest hi.used (by simp [advanceTwoFactor])
  | createBackupCodes hashes =>
    constructor
    · exact hi.codes.createBackupCodes hashes
    · intro hm
      exact hi.disabled ((List.mem_cons.mp hm).resolve_left (by simp))
    · exact hi.counted.quiet (k := [.regenerated s.nextId]) rfl (by simp [advanceTwoFactor]) rfl le_rfl
        (fun _ hx => hx)
    · exact used_of_rest hi.used (by simp [advanceTwoFactor])

/-- New tasks that hold no result. -/
lemma TwoFactorInv.extend (hi : TwoFactorInv ⟨⟨s,ts⟩,h⟩) (hrest : ∀ u∈rest, u.unsaved = false)
    (hnow : s.now ≤ s'.now) (hrec : s'.twoFA = s.twoFA) (hcodes : s'.codes = s.codes) (hnext : s'.nextId = s.nextId) :
    TwoFactorInv ⟨⟨s',ts++rest⟩,h⟩ := by
  have hcount : (ts++rest).countP TwoFactorTask.unsaved = ts.countP TwoFactorTask.unsaved := by
    rw [List.countP_append,countP_unsaved_eq_zero.mpr hrest,add_zero]
  have hmem : ∀ u∈ts++rest, u.unsaved = true → u∈ts := by
    intro u hm hu
    refine (List.mem_append.mp hm).resolve_right ?_
    intro hm
    rw [hrest u hm] at hu
    exact Bool.false_ne_true hu
  constructor
  · exact hi.codes.plain (k := []) hcodes hnext plain_nil
  · intro hm
    rw [show s'.twoFA = s.twoFA from hrec]
    exact hi.disabled hm
  · constructor
    · exact fun w hm => (hi.counted.past w hm).trans hnow
    · exact hi.counted.within
    · rw [hcount]
      exact hi.counted.one
    · exact fun base new k hm => hi.counted.pending base new k (hmem _ hm rfl)
    · intro hz x hx
      exact hi.counted.settled (hcount ▸ hz) x (hrec ▸ hx)
  · exact fun bc t p hm => hi.used bc t p (hmem _ hm rfl)

lemma inv_start (i : TwoFactorRequest) (hi : TwoFactorInv ⟨⟨s,ts⟩,h⟩) :
    TwoFactorInv ⟨⟨(startTwoFactor s i).1,ts++(startTwoFactor s i).2.1⟩,(startTwoFactor s i).2.2++h⟩ := by
  cases i with
  | verify p code =>
    simp only [startTwoFactor]
    cases s.twoFA with
    | none => exact hi.extend (by simp) le_rfl rfl rfl rfl
    | some x =>
      simp only
      split_ifs
      · exact hi.extend (by simp [TwoFactorTask.unsaved]) le_rfl rfl rfl rfl
      · exact hi.extend (by simp) le_rfl rfl rfl rfl
  | disableTwoFA => exact hi.extend (by simp [startTwoFactor,TwoFactorTask.unsaved]) le_rfl rfl rfl rfl
  | tick d => exact hi.extend (by simp [startTwoFactor]) (by show s.now ≤ s.now+d; omega) rfl rfl rfl

end Steps

lemma inv_afterSetup (now : ℤ) (secret : String) (hashes : List String) :
    TwoFactorInv (initial (afterSetup now secret hashes)) := by
  constructor
  · constructor
    · exact fun row hm => (mem_newRows hm).2.1
    · rintro id ⟨⟩
    · rintro n ⟨⟩
    · exact List.Pairwise.nil
  · rintro ⟨⟩
  · constructor
    · rintro w ⟨⟩
    · exact within_nil
    · exact Nat.zero_le _
    · rintro base new k ⟨⟩
    · rintro - x ⟨⟩
      exact counts_nil le_rfl
  · rintro bc t p ⟨⟩

/-- In every run in which each statement is undisturbed, each backup code is accepted at most once and none
after a later regeneration, no record is left once a disabling has succeeded, and no span of the lockout
duration holds more wrong codes than are allowed between two accepted ones. -/
theorem twoFactor_safe_of_undisturbed (V : Validators) (now : ℤ) (secret : String) (hashes : List String)
    (ops : List (Op TwoFactorRequest))
    (hund : (twoFactorSystem V).toTx.Guarded (Each (fun _ _ => True) Undisturbed)
      (initial (afterSetup now secret hashes)) ops) :
    (twoFactorSystem V).toTx.Always TwoFactorSafe (initial (afterSetup now secret hashes)) ops := by
  have hinv : (twoFactorSystem V).toTx.Always TwoFactorInv (initial (afterSetup now secret hashes)) ops := by
    apply always_of_each (inv_afterSetup now secret hashes) ?_ ?_ hund
    · intro s ts h i hi _
      exact inv_start i hi
    · intro s l t r h hi hg
      exact inv_advance hi hg
  apply hinv.mono
  intro c hi
  exact ⟨hi.codes.compatible,hi.disabled,hi.counted.within⟩

/-- The code of the moment is the secret, and a backup code is its own hash. -/
def plainValidators : Validators := ⟨fun secret code _ => code = secret,fun code hash => code = hash⟩

/-- A wrong code, a backup code, a regeneration and a disabling, one after the other. -/
theorem oneByOne_safe :
    let ops : List (Op TwoFactorRequest) := [
      .start (.verify .login "111111"),.proceed 0,.proceed 0,.proceed 0,
      .start (.verify .login "abcd-0001"),.proceed 0,.proceed 0,.proceed 0,.proceed 0,
      .start (.verify (.regenerate ["EFGH-0001"]) "123456"),.proceed 0,.proceed 0,.proceed 0,
      .start (.verify .disable "EFGH-0001"),.proceed 0,.proceed 0,.proceed 0,.proceed 0,.proceed 0,.proceed 0]
    (twoFactorSystem plainValidators).toTx.Always TwoFactorSafe
      (initial (afterSetup 0 "123456" ["ABCD-0001","ABCD-0002"])) ops :=
  twoFactor_safe_of_undisturbed plainValidators 0 "123456" ["ABCD-0001","ABCD-0002"] _ (by decide)

/-- What a user with one backup code, of id 1, comes to by some statements. -/
def oneCodeRun (ops : List (Op TwoFactorRequest)) : Config TwoFactorState TwoFactorTask TwoFactorEvent :=
  (twoFactorSystem plainValidators).toTx.run (initial (afterSetup 0 "123456" ["ABCD-0001"])) ops

/-- Two logins read the unused code before either marks it. -/
def bothReadCode : List (Op TwoFactorRequest) :=
  [.start (.verify .login "ABCD-0001"),.start (.verify .login "ABCD-0001"),.proceed 0,.proceed 0,.proceed 0,.proceed 0,
    .proceed 0,.proceed 0]

/-- A wrong code is evaluated, the record is deleted, and the count of the wrong code is saved. -/
def savedAfterDelete : List (Op TwoFactorRequest) :=
  [.start (.verify .login "111111"),.proceed 0,.start .disableTwoFA,.proceed 1,.proceed 1,.proceed 0]

/-- A login finds the old code, the codes are regenerated, and the login marks the old code. -/
def markedAfterRegeneration : List (Op TwoFactorRequest) :=
  [.start (.verify .login "ABCD-0001"),.proceed 0,.proceed 0,.start (.verify (.regenerate ["EFGH-0001"]) "123456"),
    .proceed 1,.proceed 1,.proceed 1,.proceed 0]

/-- Six requests read the record before the first of them saves a count. -/
def sixAtOnce : List (Op TwoFactorRequest) :=
  List.replicate 6 (.start (.verify .login "111111"))++List.replicate 6 (.proceed 0)

lemma bothReadCode_history :
    (oneCodeRun bothReadCode).history = [.backupAccepted 1,.backupAccepted 1] := by decide

lemma savedAfterDelete_record :
    .disabled∈(oneCodeRun savedAfterDelete).history ∧
    (oneCodeRun savedAfterDelete).state.shared.twoFA≠none := by decide

lemma markedAfterRegeneration_history :
    (oneCodeRun markedAfterRegeneration).history = [.backupAccepted 1,.regenerated 2,.accepted] := by decide

lemma sixAtOnce_wrongs : wrongs (oneCodeRun sixAtOnce).history = List.replicate 6 0 := by decide

/-- A code is accepted twice, a deleted record comes back, an old code is accepted after a regeneration, and
six wrong codes are evaluated at one moment. -/
theorem overtaken_unsafe :
    ¬TwoFactorSafe (oneCodeRun bothReadCode) ∧ ¬TwoFactorSafe (oneCodeRun savedAfterDelete) ∧
    ¬TwoFactorSafe (oneCodeRun markedAfterRegeneration) ∧ ¬TwoFactorSafe (oneCodeRun sixAtOnce) := by
  refine ⟨?_,?_,?_,?_⟩
  · rintro ⟨hp,-,-⟩
    rw [bothReadCode_history,List.pairwise_cons] at hp
    exact hp.1 (.backupAccepted 1) (by simp) rfl
  · rintro ⟨-,hd,-⟩
    exact savedAfterDelete_record.2 (hd savedAfterDelete_record.1)
  · rintro ⟨hp,-,-⟩
    rw [markedAfterRegeneration_history,List.pairwise_cons] at hp
    have hle : 2≤1 := hp.1 (.regenerated 2) (by simp)
    omega
  · rintro ⟨-,-,hw⟩
    rw [sixAtOnce_wrongs] at hw
    have h0 := hw 0
    revert h0
    decide

end Users
end Tierflow
