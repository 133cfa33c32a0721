import Tierflow.Foundation.JsonText
import Tierflow.Foundation.Keyed
import Tierflow.Routing.KeyStatus

/-! Keys of a multi-key channel are deleted. The keys are one text, a line for each or a JSON array, and their
statuses are listed by index; a deletion writes the keys that remain as lines and moves their statuses along. What
is read back are the keys that remain, as long as the lines are read as they were written. -/
namespace Tierflow
open TxSystem
namespace Routing

/-! ## The text of the keys -/

def trimBreaks (l : List Char) : List Char :=
  ((l.dropWhile (fun c => c = '\n')).reverse.dropWhile (fun c => c = '\n')).reverse

/-- The lines of a text, without the line breaks around it. -/
def keyLines (key : String) : List String := (Text.splitChars '\n' (trimBreaks key.toList)).map String.ofList

def getKeys (key : String) : List String :=
  if key = "" then []
  else
    let trimmed := Text.trimSpace key
    if Text.hasPrefix trimmed "[" then (JsonText.rawArray trimmed).getD (keyLines key)
    else keyLines key

/-- The keys that an update counts; here an empty array is read as a line. -/
def countedKeys (key : String) : List String :=
  if key = "" then []
  else
    let trimmed := Text.trimSpace key
    let parsed := if Text.hasPrefix trimmed "[" then (JsonText.rawArray trimmed).getD [] else []
    if parsed = [] then keyLines key else parsed

/-! ## Rows -/

/-- What a row holds of the keys of a channel. -/
structure KeyRow where
  key : String
  isMultiKey : Bool
  multiKeySize : ℕ
  multiKeyStatusList : List (ℕ × ChannelStatus)
  multiKeyDisabledReason : List (ℕ × String)
  multiKeyDisabledTime : List (ℕ × ℤ)
  deriving DecidableEq, Repr

inductive ManageError
  | notMultiKey
  | indexMissing
  | indexOutOfRange
  | lastKey
  | nothingToDelete
  deriving DecidableEq, Repr

def ManageError.message : ManageError → String
  | notMultiKey => "该渠道不是多密钥模式"
  | indexMissing => "未指定要删除的密钥索引"
  | indexOutOfRange => "密钥索引超出范围"
  | lastKey => "不能删除最后一个密钥"
  | nothingToDelete => "没有需要删除的自动禁用密钥"

/-- The keys that remain, with what is listed of them under their new indexes. -/
structure Remaining where
  keys : List String
  statusList : List (ℕ × ChannelStatus)
  disabledReason : List (ℕ × String)
  disabledTime : List (ℕ × ℤ)

def Remaining.none : Remaining := ⟨[],[],[],[]⟩

/-- An entry of a list, if there is one to be made. -/
def listed {α : Type*} (i : ℕ) (o : Option α) : List (ℕ × α) := o.toList.map (fun a => (i,a))

def Remaining.add (r : Remaining) (key : String) (status : Option ChannelStatus) (reason : Option String)
    (time : Option ℤ) : Remaining where
  keys := r.keys++[key]
  statusList := r.statusList++listed r.keys.length status
  disabledReason := r.disabledReason++listed r.keys.length reason
  disabledTime := r.disabledTime++listed r.keys.length time

namespace KeyRow

def statusAt (c : KeyRow) (i : ℕ) : ChannelStatus := (c.multiKeyStatusList.lookup i).getD .enabled

/-- One key on the way of `delete_key`. -/
def passKey (c : KeyRow) (keyIndex : ℤ) (r : Remaining) (k : String × ℕ) : Remaining :=
  if (k.2 : ℤ) = keyIndex then r
  else
    r.add k.1 ((c.multiKeyStatusList.lookup k.2).filter (fun s => s≠.enabled)) (c.multiKeyDisabledReason.lookup k.2)
      (c.multiKeyDisabledTime.lookup k.2)

/-- One key on the way of `delete_disabled_keys`, which only deletes what was disabled automatically. -/
def passEnabled (c : KeyRow) (r : Remaining) (k : String × ℕ) : Remaining :=
  if c.statusAt k.2 = .autoDisabled then r
  else if c.statusAt k.2≠.enabled then
    r.add k.1 (some (c.statusAt k.2)) (c.multiKeyDisabledReason.lookup k.2) (c.multiKeyDisabledTime.lookup k.2)
  else r.add k.1 .none .none .none

def take (c : KeyRow) (r : Remaining) : KeyRow :=
  { c with
    key := "\n".intercalate r.keys
    multiKeySize := r.keys.length
    multiKeyStatusList := r.statusList
    multiKeyDisabledReason := r.disabledReason
    multiKeyDisabledTime := r.disabledTime }

/-- The row after it was updated from a channel: an empty key text is not written, and the size counts the keys of
the text that was there before. -/
def update (row c : KeyRow) : KeyRow :=
  let keyStr := if c.key≠"" then c.key else row.key
  let size := (countedKeys keyStr).length
  if c.isMultiKey then
    { c with
      key := keyStr
      multiKeySize := size
      multiKeyStatusList := c.multiKeyStatusList.filter (fun e => e.1 < size) }
  else { c with key := keyStr }

end KeyRow

inductive ManageAction
  | deleteKey (keyIndex : Option ℤ)
  | deleteDisabledKeys
  deriving DecidableEq, Repr

/-- What was deleted: the key of an index, or the keys that were disabled automatically. -/
inductive Deletion
  | key (i : ℕ)
  | autoDisabled
  deriving DecidableEq, Repr

namespace KeyRow

/-- The channel is read from the row and written back. -/
def manageMultiKeys (row : KeyRow) : ManageAction → Except ManageError (KeyRow × Deletion)
  | .deleteKey keyIndex => do
    require .notMultiKey (row.isMultiKey = true)
    let i ← orFail .indexMissing keyIndex
    require .indexOutOfRange (0 ≤ i ∧ i < row.multiKeySize)
    let r := (getKeys row.key).zipIdx.foldl (row.passKey i) .none
    require .lastKey (r.keys≠[])
    return (row.update (row.take r),.key i.toNat)
  | .deleteDisabledKeys => do
    require .notMultiKey (row.isMultiKey = true)
    let keys := getKeys row.key
    let r := keys.zipIdx.foldl row.passEnabled .none
    require .nothingToDelete (r.keys.length≠keys.length)
    return (row.update (row.take r),.autoDisabled)

end KeyRow

def keySystem : TxSystem KeyRow ManageAction Deletion where
  step row a := (row.manageMultiKeys a).toOption.map (fun r => (r.1,[r.2]))

/-! ## Records of keys -/

/-- All that is known of a key, wherever it stands. -/
structure KeyRecord where
  key : String
  status : ChannelStatus
  reason : Option String
  time : Option ℤ
  deriving DecidableEq, Repr

def recordsOf (keys : List String) (status : List (ℕ × ChannelStatus)) (reason : List (ℕ × String))
    (time : List (ℕ × ℤ)) : List KeyRecord :=
  keys.mapIdx (fun i k => ⟨k,(status.lookup i).getD .enabled,reason.lookup i,time.lookup i⟩)

def KeyRow.records (c : KeyRow) : List KeyRecord :=
  recordsOf (getKeys c.key) c.multiKeyStatusList c.multiKeyDisabledReason c.multiKeyDisabledTime

def Remaining.records (r : Remaining) : List KeyRecord :=
  recordsOf r.keys r.statusList r.disabledReason r.disabledTime

/-- What a deletion is to do. -/
def Deletion.apply (records : List KeyRecord) : Deletion → List KeyRecord
  | key i => records.eraseIdx i
  | autoDisabled => records.filter (fun r => r.status≠.autoDisabled)

/-- Nothing is listed beyond the keys. -/
structure Remaining.Within (r : Remaining) : Prop where
  status : ∀ e∈r.statusList, e.1 < r.keys.length
  reason : ∀ e∈r.disabledReason, e.1 < r.keys.length
  time : ∀ e∈r.disabledTime, e.1 < r.keys.length

section Lookup
variable {α : Type*} {l : List (ℕ × α)} {n : ℕ}

lemma lookup_of_within (h : ∀ e∈l, e.1 < n) {i : ℕ} (hi : n ≤ i) : l.lookup i = none := by
  rw [Keyed.lookup_eq_none_iff]
  intro hmem
  obtain ⟨e,he,rfl⟩ := List.mem_map.mp hmem
  have := h e he
  omega

lemma lookup_listed (i n : ℕ) (o : Option α) : (listed n o).lookup i = if i = n then o else none := by
  cases o with
  | none => simp [listed]
  | some a =>
    rw [listed,Option.toList_some,List.map_singleton,List.lookup_cons]
    by_cases hi : i = n
    · simp [hi]
    · rw [beq_false_of_ne hi,if_neg hi]
      rfl

lemma lookup_append_listed (h : ∀ e∈l, e.1 < n) (o : Option α) (i : ℕ) :
    (l++listed n o).lookup i = if i = n then o else l.lookup i := by
  rw [Keyed.lookup_append,lookup_listed]
  by_cases hi : i = n
  · rw [if_pos hi,if_pos hi,lookup_of_within h (by omega)]
    rfl
  · rw [if_neg hi,if_neg hi,Option.or_none]

lemma within_append_listed (h : ∀ e∈l, e.1 < n) (o : Option α) : ∀ e∈l++listed n o, e.1 < n+1 := by
  intro e he
  rcases List.mem_append.mp he with hl | hn
  · have := h e hl
    omega
  · obtain ⟨a,-,rfl⟩ := List.mem_map.mp hn
    exact Nat.lt_succ_self n

end Lookup

lemma Remaining.within_add {r : Remaining} (h : r.Within) (key : String) (status : Option ChannelStatus)
    (reason : Option String) (time : Option ℤ) : (r.add key status reason time).Within := by
  unfold Remaining.add
  constructor
  all_goals
    simp only [List.length_append,List.length_singleton]
  · exact within_append_listed h.status status
  · exact within_append_listed h.reason reason
  · exact within_append_listed h.time time

/-- A key is added with its record, and the others keep theirs. -/
lemma Remaining.records_add {r : Remaining} (h : r.Within) (key : String) (status : Option ChannelStatus)
    (reason : Option String) (time : Option ℤ) :
    (r.add key status reason time).records = r.records++[⟨key,status.getD .enabled,reason,time⟩] := by
  unfold Remaining.records recordsOf
  simp only [Remaining.add,List.mapIdx_append,lookup_append_listed h.status,lookup_append_listed h.reason,
    lookup_append_listed h.time]
  congr 1
  · apply List.mapIdx_eq_mapIdx_iff.mpr
    intro i hi
    have hne : i≠r.keys.length := by omega
    simp only [if_neg hne]
  · simp

namespace KeyRow
variable (c : KeyRow)

def record (k : String × ℕ) : KeyRecord :=
  ⟨k.1,c.statusAt k.2,c.multiKeyDisabledReason.lookup k.2,c.multiKeyDisabledTime.lookup k.2⟩

lemma records_eq_map : c.records = (getKeys c.key).zipIdx.map c.record := by
  rw [records,recordsOf,List.mapIdx_eq_zipIdx_map]
  rfl

/-- A pass that leaves keys out and gives the others a record. -/
lemma foldl_pass (pass : Remaining → String × ℕ → Remaining) (keep : ℕ → Bool) (record : String × ℕ → KeyRecord)
    (hdrop : ∀ r k, keep k.2 = false → pass r k = r)
    (hadd : ∀ r k, keep k.2 = true → ∃ status reason time, pass r k = r.add k.1 status reason time ∧
      record k = ⟨k.1,status.getD .enabled,reason,time⟩) (l : List (String × ℕ)) {r : Remaining} (hr : r.Within) :
    (l.foldl pass r).Within ∧ (l.foldl pass r).records = r.records++(l.filter (fun k => keep k.2)).map record ∧
      (l.foldl pass r).keys = r.keys++(l.filter (fun k => keep k.2)).map Prod.fst := by
  induction l generalizing r with
  | nil => exact ⟨hr,(List.append_nil _).symm,(List.append_nil _).symm⟩
  | cons k l ih =>
    rw [List.foldl_cons]
    cases hk : keep k.2 with
    | false =>
      rw [hdrop r k hk,List.filter_cons_of_neg (by simp [hk])]
      exact ih hr
    | true =>
      obtain ⟨status,reason,time,hpass,hrecord⟩ := hadd r k hk
      obtain ⟨hw,hrs,hks⟩ := ih (Remaining.within_add hr k.1 status reason time)
      rw [hpass,List.filter_cons_of_pos (by simp [hk]),List.map_cons,List.map_cons]
      refine ⟨hw,?_,?_⟩
      · rw [hrs,Remaining.records_add hr,hrecord,List.append_assoc,List.singleton_append]
      · rw [hks,Remaining.add,List.append_assoc,List.singleton_append]

lemma within_none : Remaining.none.Within :=
  ⟨fun _ h => absurd h List.not_mem_nil,fun _ h => absurd h List.not_mem_nil,fun _ h => absurd h List.not_mem_nil⟩

lemma filter_zipIdx_ne {α : Type*} (l : List α) (i n : ℕ) :
    (l.zipIdx n).filter (fun p => p.2≠n+i) = (l.zipIdx n).eraseIdx i := by
  induction l generalizing i n with
  | nil => rfl
  | cons a l ih =>
    rw [List.zipIdx_cons]
    cases i with
    | zero =>
      rw [List.filter_cons_of_neg (by simp),List.eraseIdx_cons_zero,List.filter_eq_self]
      intro p hp
      have := List.le_snd_of_mem_zipIdx hp
      exact decide_eq_true (by omega)
    | succ i =>
      rw [List.filter_cons_of_pos (by simp),List.eraseIdx_cons_succ,←ih i (n+1)]
      congr 1
      apply List.filter_congr
      intro p _
      rw [show n+(i+1) = n+1+i by omega]

/-- What `delete_key` keeps. -/
lemma passKey_spec (i : ℕ) : let r := (getKeys c.key).zipIdx.foldl (c.passKey i) .none
    r.Within ∧ r.records = c.records.eraseIdx i ∧ r.keys = (getKeys c.key).eraseIdx i := by
  have hdrop : ∀ (r : Remaining) (k : String × ℕ), decide (k.2≠i) = false → c.passKey i r k = r := by
    intro r k hk
    have hi : (k.2 : ℤ) = i := by simpa using hk
    rw [passKey,if_pos hi]
  have hadd : ∀ (r : Remaining) (k : String × ℕ), decide (k.2≠i) = true → ∃ status reason time,
      c.passKey i r k = r.add k.1 status reason time ∧ c.record k = ⟨k.1,status.getD .enabled,reason,time⟩ := by
    intro r k hk
    have hi : ¬(k.2 : ℤ) = i := by simpa using hk
    refine ⟨_,_,_,by rw [passKey,if_neg hi],?_⟩
    rw [record,statusAt]
    cases c.multiKeyStatusList.lookup k.2 with
    | none => rfl
    | some status => cases status <;> rfl
  obtain ⟨hw,hr,hk⟩ := foldl_pass (c.passKey i) (fun j => j≠i) c.record hdrop hadd (getKeys c.key).zipIdx within_none
  have hfilter : (getKeys c.key).zipIdx.filter (fun k => decide (k.2≠i)) = (getKeys c.key).zipIdx.eraseIdx i := by
    have h := filter_zipIdx_ne (getKeys c.key) i 0
    rwa [Nat.zero_add] at h
  rw [hfilter] at hr hk
  refine ⟨hw,?_,?_⟩
  · rw [hr,records_eq_map,List.eraseIdx_map]
    rfl
  · rw [hk,←List.eraseIdx_map,List.zipIdx_map_fst]
    rfl

/-- Enabled keys have no notes on why and when they were disabled. -/
def NoNotes : Prop := ∀ i < (getKeys c.key).length, c.statusAt i = .enabled →
  c.multiKeyDisabledReason.lookup i = none ∧ c.multiKeyDisabledTime.lookup i = none

/-- The record that `delete_disabled_keys` writes. -/
def bareRecord (k : String × ℕ) : KeyRecord :=
  if c.statusAt k.2 = .enabled then ⟨k.1,.enabled,none,none⟩ else c.record k

/-- What `delete_disabled_keys` keeps. -/
lemma passEnabled_spec : let r := (getKeys c.key).zipIdx.foldl c.passEnabled .none
    let kept := (getKeys c.key).zipIdx.filter (fun k => c.statusAt k.2≠.autoDisabled)
    r.Within ∧ r.records = kept.map c.bareRecord ∧ r.keys = kept.map Prod.fst := by
  have hdrop : ∀ (r : Remaining) (k : String × ℕ), decide (c.statusAt k.2≠.autoDisabled) = false →
      c.passEnabled r k = r := by
    intro r k hk
    have hs : c.statusAt k.2 = .autoDisabled := by simpa using hk
    rw [passEnabled,if_pos hs]
  have hadd : ∀ (r : Remaining) (k : String × ℕ), decide (c.statusAt k.2≠.autoDisabled) = true →
      ∃ status reason time, c.passEnabled r k = r.add k.1 status reason time ∧
        c.bareRecord k = ⟨k.1,status.getD .enabled,reason,time⟩ := by
    intro r k hk
    have hs : ¬c.statusAt k.2 = .autoDisabled := by simpa using hk
    rw [passEnabled,if_neg hs,bareRecord]
    by_cases he : c.statusAt k.2 = .enabled
    · exact ⟨none,none,none,by rw [if_neg (not_not.mpr he)],by rw [if_pos he]; rfl⟩
    · exact ⟨some (c.statusAt k.2),_,_,by rw [if_pos he],by rw [if_neg he]; rfl⟩
  exact foldl_pass c.passEnabled (fun j => c.statusAt j≠.autoDisabled) c.bareRecord hdrop hadd
    (getKeys c.key).zipIdx within_none

lemma bareRecord_eq (hc : c.NoNotes) {k : String × ℕ} (hk : k∈(getKeys c.key).zipIdx) :
    c.bareRecord k = c.record k := by
  have hlt := List.snd_lt_of_mem_zipIdx hk
  unfold bareRecord
  split_ifs with he
  · obtain ⟨hreason,htime⟩ := hc k.2 (by omega) he
    rw [record,he,hreason,htime]
  · rfl

/-- Without notes on enabled keys, the keys that remain keep all that is known of them. -/
lemma passEnabled_records (hc : c.NoNotes) : ((getKeys c.key).zipIdx.foldl c.passEnabled .none).records =
    c.records.filter (fun r => r.status≠.autoDisabled) := by
  have hkeep : (fun r : KeyRecord => decide (r.status≠.autoDisabled)) ∘ c.record =
      fun k => decide (c.statusAt k.2≠.autoDisabled) := rfl
  rw [c.passEnabled_spec.2.1,records_eq_map,List.filter_map,hkeep]
  exact List.map_congr_left (fun k hk => c.bareRecord_eq hc (List.mem_filter.mp hk).1)

end KeyRow

/-! ## Reading back what was written -/

/-- Keys that are read back from the lines they were written as. -/
structure Readable (keys : List String) : Prop where
  nonempty : keys≠[]
  unbroken : ∀ k∈keys, '\n'∉k.toList
  first : keys.head?≠some ""
  last : keys.getLast?≠some ""
  lines : let trimmed := Text.trimSpace ("\n".intercalate keys)
    Text.hasPrefix trimmed "[" = true → JsonText.rawArray trimmed = none

section Readable
variable {keys : List String}

lemma dropWhile_of_head {l : List Char} (h : l.head?≠some '\n') : l.dropWhile (fun c => c = '\n') = l := by
  cases l with
  | nil => rfl
  | cons c l =>
    have hc : c≠ '\n' := fun hc => h (by rw [hc]; rfl)
    simp [hc]

lemma trimBreaks_of_ends {l : List Char} (hhead : l.head?≠some '\n') (hlast : l.getLast?≠some '\n') :
    trimBreaks l = l := by
  rw [trimBreaks,dropWhile_of_head hhead,dropWhile_of_head (by rwa [List.head?_reverse]),List.reverse_reverse]

lemma toList_joinLines (keys : List String) :
    ("\n".intercalate keys).toList = ['\n'].intercalate (keys.map String.toList) := by
  rw [String.toList_intercalate]
  rfl

lemma Readable.head_join (h : Readable keys) : ∃ c, c≠ '\n' ∧ ("\n".intercalate keys).toList.head? = some c := by
  rw [toList_joinLines]
  obtain ⟨k,ks,rfl⟩ := List.exists_cons_of_ne_nil h.nonempty
  have hk : k.toList≠[] := by
    intro hnil
    exact h.first (by rw [List.head?_cons,String.toList_eq_nil_iff.mp hnil])
  obtain ⟨c,l,hl⟩ := List.exists_cons_of_ne_nil hk
  have hc := h.unbroken k List.mem_cons_self
  rw [hl,List.mem_cons,not_or] at hc
  refine ⟨c,Ne.symm hc.1,?_⟩
  rw [List.map_cons,hl]
  cases ks with
  | nil => rfl
  | cons k' ks => rfl

/-- A join ends as its last piece does, unless that piece is empty. -/
lemma getLast?_intercalate {sep : List Char} {ls : List (List Char)} {w : List Char} (hw : ls.getLast? = some w)
    (hne : w≠[]) : (sep.intercalate ls).getLast? = w.getLast? := by
  induction ls with
  | nil => contradiction
  | cons v ls ih =>
    cases ls with
    | nil =>
      rw [List.intercalate_singleton]
      rw [List.getLast?_singleton] at hw
      rw [Option.some.inj hw]
    | cons u ls =>
      rw [List.getLast?_cons_cons] at hw
      obtain ⟨c,hc⟩ := Option.isSome_iff_exists.mp (List.getLast?_isSome.mpr hne)
      rw [List.intercalate_cons_cons,List.getLast?_append,ih hw,hc]
      rfl

lemma Readable.last_join (h : Readable keys) : ("\n".intercalate keys).toList.getLast?≠some '\n' := by
  rw [toList_joinLines]
  obtain ⟨k,hk⟩ := Option.isSome_iff_exists.mp (List.getLast?_isSome.mpr h.nonempty)
  have hne : k.toList≠[] := by
    intro hnil
    exact h.last (by rw [hk,String.toList_eq_nil_iff.mp hnil])
  have hlast : (keys.map String.toList).getLast? = some k.toList := by
    rw [List.getLast?_map,hk]
    rfl
  rw [getLast?_intercalate hlast hne]
  intro hbreak
  exact h.unbroken k (List.mem_of_getLast? hk) (List.mem_of_getLast? hbreak)

/-- The lines are the keys. -/
lemma Readable.keyLines_join (h : Readable keys) : keyLines ("\n".intercalate keys) = keys := by
  obtain ⟨c,hc,hhead⟩ := h.head_join
  have htrim : trimBreaks ("\n".intercalate keys).toList = ("\n".intercalate keys).toList := by
    apply trimBreaks_of_ends
    · rw [hhead]
      exact fun he => hc (Option.some.inj he)
    · exact h.last_join
  unfold keyLines
  rw [htrim]
  exact Text.split_intercalate h.nonempty h.unbroken

lemma Readable.join_ne_empty (h : Readable keys) : "\n".intercalate keys≠"" := by
  obtain ⟨c,-,hhead⟩ := h.head_join
  intro he
  rw [he] at hhead
  contradiction

lemma Readable.getKeys_join (h : Readable keys) : getKeys ("\n".intercalate keys) = keys := by
  unfold getKeys
  rw [if_neg h.join_ne_empty]
  dsimp only
  split_ifs with hp
  · rw [h.lines hp,Option.getD_none,h.keyLines_join]
  · exact h.keyLines_join

lemma Readable.countedKeys_join (h : Readable keys) : countedKeys ("\n".intercalate keys) = keys := by
  have hparsed : (if Text.hasPrefix (Text.trimSpace ("\n".intercalate keys)) "[" then
      (JsonText.rawArray (Text.trimSpace ("\n".intercalate keys))).getD [] else []) = [] := by
    split_ifs with hp
    · rw [h.lines hp]
      rfl
    · rfl
  unfold countedKeys
  rw [if_neg h.join_ne_empty]
  dsimp only
  rw [hparsed,if_pos rfl]
  exact h.keyLines_join

end Readable

/-! ## Deletions -/

namespace KeyRow
variable {row : KeyRow}

/-- A row that was updated with readable keys holds their records. -/
lemma records_update {r : Remaining} (hmulti : row.isMultiKey = true) (hr : r.Within) (hkeys : Readable r.keys) :
    (row.update (row.take r)).records = r.records ∧ (row.update (row.take r)).isMultiKey = true := by
  have hkey : (if (row.take r).key≠"" then (row.take r).key else row.key) = "\n".intercalate r.keys :=
    if_pos hkeys.join_ne_empty
  have hupdate : row.update (row.take r) = { row.take r with
      multiKeyStatusList := r.statusList.filter (fun e => e.1 < r.keys.length) } := by
    unfold update
    dsimp only
    rw [hkey,hkeys.countedKeys_join,if_pos (show (row.take r).isMultiKey = true from hmulti)]
    rfl
  have hstatus : r.statusList.filter (fun e => e.1 < r.keys.length) = r.statusList :=
    List.filter_eq_self.mpr (fun e he => decide_eq_true (hr.status e he))
  rw [hupdate,hstatus]
  refine ⟨?_,hmulti⟩
  unfold records
  rw [show getKeys (row.take r).key = r.keys from hkeys.getKeys_join]
  rfl

/-- What a deletion has to leave: readable keys and, among those that are only filtered, no notes on enabled ones. -/
def Deletable (row : KeyRow) : ManageAction → Prop
  | .deleteKey keyIndex => ∀ i∈keyIndex, 0 ≤ i → i < row.multiKeySize →
      (getKeys row.key).eraseIdx i.toNat≠[] → Readable ((getKeys row.key).eraseIdx i.toNat)
  | .deleteDisabledKeys => (∃ i < (getKeys row.key).length, row.statusAt i = .autoDisabled) →
      Readable (((getKeys row.key).zipIdx.filter (fun k => row.statusAt k.2≠.autoDisabled)).map Prod.fst) ∧ row.NoNotes

/-- A deletion deletes, and does nothing else. -/
lemma manageMultiKeys_spec {a : ManageAction} {row' : KeyRow} {e : Deletion} (ha : row.Deletable a)
    (h : row.manageMultiKeys a = .ok (row',e)) : row'.records = e.apply row.records := by
  cases a with
  | deleteKey keyIndex =>
    simp only [manageMultiKeys,bind_eq_ok,require_eq_ok,orFail_eq_ok] at h
    obtain ⟨_,hmulti,i,hi,_,hrange,_,hne,hres⟩ := h
    obtain ⟨rfl,rfl⟩ := Prod.mk.inj (Except.ok.inj hres)
    obtain ⟨n,rfl⟩ := Int.eq_ofNat_of_zero_le hrange.1
    obtain ⟨hw,hrecords,hkeys⟩ := row.passKey_spec n
    rw [hkeys] at hne
    have hread := ha n hi hrange.1 hrange.2 hne
    rw [Int.toNat_natCast,←hkeys] at hread
    rw [(records_update hmulti hw hread).1,hrecords]
    rfl
  | deleteDisabledKeys =>
    simp only [manageMultiKeys,bind_eq_ok,require_eq_ok] at h
    obtain ⟨_,hmulti,_,hne,hres⟩ := h
    obtain ⟨rfl,rfl⟩ := Prod.mk.inj (Except.ok.inj hres)
    obtain ⟨hw,-,hkeys⟩ := row.passEnabled_spec
    have hdeletes : ∃ i < (getKeys row.key).length, row.statusAt i = .autoDisabled := by
      by_contra hnone
      push Not at hnone
      have hall : (getKeys row.key).zipIdx.filter (fun k => row.statusAt k.2≠.autoDisabled) =
          (getKeys row.key).zipIdx := by
        rw [List.filter_eq_self]
        intro k hk
        have hlt := List.snd_lt_of_mem_zipIdx hk
        exact decide_eq_true (hnone k.2 (by omega))
      rw [hall,List.zipIdx_map_fst] at hkeys
      exact hne (by rw [hkeys])
    obtain ⟨hread,hnotes⟩ := ha hdeletes
    rw [←hkeys] at hread
    rw [(records_update hmulti hw hread).1,row.passEnabled_records hnotes]
    rfl

end KeyRow

lemma Deletion.apply_sublist (e : Deletion) (records : List KeyRecord) : (e.apply records).Sublist records := by
  cases e with
  | key i => exact List.eraseIdx_sublist records i
  | autoDisabled => exact List.filter_sublist

/-- The keys are the ones of the beginning without those that were deleted, each with all that was known of it. -/
def KeptFrom (row : KeyRow) (d : Config KeyRow Deletion) : Prop :=
  d.state.records = d.history.foldr (fun e records => e.apply records) row.records ∧
    d.state.records.Sublist row.records

/-- As long as every deletion leaves keys that are read back, a run deletes what it says and nothing else. -/
theorem deletions_exact (row : KeyRow) (as : List ManageAction)
    (h : keySystem.Guarded (fun d a => d.state.Deletable a) ⟨row,[]⟩ as) :
    keySystem.Always (KeptFrom row) ⟨row,[]⟩ as := by
  apply always_of_guarded (G := fun d a => d.state.Deletable a) ⟨rfl,List.Sublist.refl _⟩ _ h
  intro d a row' es hd ha hstep
  obtain ⟨⟨row'',e⟩,hok,hpair⟩ := Option.map_eq_some_iff.mp hstep
  obtain ⟨rfl,rfl⟩ := Prod.mk.inj hpair
  have hspec := KeyRow.manageMultiKeys_spec ha (toOption_eq_some.mp hok)
  constructor
  · rw [hspec,hd.1]
    rfl
  · rw [hspec]
    exact (e.apply_sublist d.state.records).trans hd.2

/-- Three keys, the second disabled by hand and the last automatically. -/
def threeLines : KeyRow where
  key := "a\nb\nc"
  isMultiKey := true
  multiKeySize := 3
  multiKeyStatusList := [(1,.manuallyDisabled),(2,.autoDisabled)]
  multiKeyDisabledReason := [(2,"quota")]
  multiKeyDisabledTime := [(2,1700000000)]

theorem deletions_exact_threeLines :
    keySystem.Always (KeptFrom threeLines) ⟨threeLines,[]⟩ [.deleteKey (some 0),.deleteDisabledKeys] := by
  apply deletions_exact threeLines
  refine ⟨?_,?_,trivial⟩
  · intro i hi _ _ _
    obtain rfl := Option.some.inj hi
    exact ⟨by decide +kernel,by decide +kernel,by decide +kernel,by decide +kernel,by decide +kernel⟩
  · intro _
    exact ⟨⟨by decide +kernel,by decide +kernel,by decide +kernel,by decide +kernel,by decide +kernel⟩,
      by unfold KeyRow.NoNotes; decide +kernel⟩

/-- Two keys, both disabled automatically. -/
def deadLines : KeyRow where
  key := "a\nb"
  isMultiKey := true
  multiKeySize := 2
  multiKeyStatusList := [(0,.autoDisabled),(1,.autoDisabled)]
  multiKeyDisabledReason := [(0,"banned"),(1,"banned")]
  multiKeyDisabledTime := [(0,1700000000),(1,1700000000)]

/-- When no key would remain, the keys all stay, and their statuses go. -/
theorem deadLines_come_back : ¬keySystem.Always (KeptFrom deadLines) ⟨deadLines,[]⟩ [.deleteDisabledKeys] := by
  intro h
  have hlast := h.last.1
  revert hlast
  decide +kernel

/-- Keys of an array that are written over several lines fall apart. -/
example : getKeys (keySystem.run ⟨{ deadLines with
    key := "[\x7b\"k\":\n1\x7d,2,3]",multiKeySize := 3,multiKeyStatusList := [] },[]⟩ [.deleteKey (some 1)]).state.key =
      ["\x7b\"k\":","1\x7d","3"] := by decide +kernel

end Routing
end Tierflow
