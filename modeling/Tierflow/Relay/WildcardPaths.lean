import Tierflow.Foundation.JsonStars
import Tierflow.Relay.LegacyOverride
import Tierflow.Relay.MoveValue
import Tierflow.Relay.NegativeIndex

/-! Operations on all values of a request that a path with stars matches. The paths of the matches are collected first,
and then each of them is handed to the libraries that read and write at a path. -/
namespace Tierflow
namespace Relay
namespace WildcardPaths
open Json

/-! ## Libraries -/

/-- A key or a position that a path takes for itself. -/
def PlainStep (s : String) : Prop :=
  s≠"" ∧ (∀ c∈s.toList, c∉LegacyOverride.pathChars) ∧ ∀ c∈s.toList.head?, c∉LegacyOverride.startChars

instance (s : String) : Decidable (PlainStep s) :=
  have : Decidable (∀ c∈s.toList, c∉LegacyOverride.pathChars) := List.decidableBAll _ _
  have : Decidable (∀ c∈s.toList.head?.toList, c∉LegacyOverride.startChars) := List.decidableBAll _ _
  decidable_of_iff (s≠"" ∧ (∀ c∈s.toList, c∉LegacyOverride.pathChars) ∧
    ∀ c∈s.toList.head?.toList, c∉LegacyOverride.startChars) (by simp [PlainStep])

def joined (p : List String) : String := ".".intercalate p

/-- The libraries that read and write at paths, where dots part the steps, and the printing of a value. -/
structure DottedLibrary extends MoveValue.PathLibrary where
  sprint : Json → String
  steps_plain : ∀ p≠[], (∀ s∈p, PlainStep s) → steps (joined p) = some p

/-! ## The paths of an operation -/

/-- Arrays have fewer elements than sixty-three bits count. -/
def arrayLength : Json → Option ℕ
  | .array l => some (l.length%2^63)
  | _ => none

lemma arrayLength_lt {a : Json} {n : ℕ} (h : arrayLength a = some n) : n<2^63 := by
  cases a with
  | array l =>
    rw [←Option.some.inj h]
    exact Nat.mod_lt _ (by decide)
  | _ => cases h

/-- What negative positions of a path count in. -/
def document (lib : DottedLibrary) (data : Json) : NegativeIndex.Document where
  root := arrayLength data
  arrayAt path := (lib.getBytes data path).bind arrayLength
  root_lt n h := arrayLength_lt h
  arrayAt_lt path n h := by
    obtain ⟨a,-,ha⟩ := Option.bind_eq_some_iff.mp h
    exact arrayLength_lt ha

/-- The value of a key in a map: what stands last is what counts. -/
def entry (m : Members) (key : String) : Option Json := m.reverse.lookup key

def collectWildcardPaths : List String → Json → List String → List String
  | [],_,before => [joined before]
  | raw::rest,node,before =>
    let segment := Text.trimSpace raw
    if segment = "" then [] else
    if segment = "*" then
      match node with
      | .object m =>
        (keys m).flatMap (fun key => collectWildcardPaths rest ((entry m key).getD .null) (before++[key]))
      | .array l =>
        (l.mapIdx (fun index a => (Text.printNat index,a))).flatMap
          (fun r => collectWildcardPaths rest r.2 (before++[r.1]))
      | _ => []
    else
      match node with
      | .object m =>
        if rest = [] then [joined (before++[segment])] else
        match entry m segment with
        | none => []
        | some next => collectWildcardPaths rest next (before++[segment])
      | .array l =>
        match Text.parseInt64 segment with
        | none => []
        | some index =>
          if index<0 ∨ l.length ≤ index then [] else
          if rest = [] then [joined (before++[segment])] else
          collectWildcardPaths rest (l.getD index.toNat .null) (before++[segment])
      | _ => []

/-- What stands first stays. -/
def uniq (l : List String) : List String := l.reverse.dedup.reverse

def expandWildcardPaths (data : Json) (path : String) : List String :=
  uniq (collectWildcardPaths (Text.split path '.') data [])

def resolveOperationPaths (data : Json) (path : String) : List String :=
  if '*'∈path.toList then expandWildcardPaths data path else [path]

/-! ## Operations -/

inductive Mode
  | delete
  | set
  | trimPrefix
  | trimSuffix
  | trimSpace
  | replace
deriving DecidableEq

structure ParamOperation where
  path : String
  mode : Mode
  value : Json
  keepOrigin : Bool
  source : String
  target : String

/-- The type of what a library finds. -/
def typeName : Option Json → String
  | none => "Null"
  | some .null => "Null"
  | some (.bool b) => if b then "True" else "False"
  | some (.number _ _) => "Number"
  | some (.string _) => "String"
  | some (.array _) => "JSON"
  | some (.object _) => "JSON"

def isNil : Json → Bool
  | .null => true
  | _ => false

/-- Every occurrence of a word is replaced; `skip` characters still belong to the last one. -/
def replaceAll (word new : List Char) : ℕ → List Char → List Char
  | _,[] => []
  | skip+1,_::l => replaceAll word new skip l
  | 0,c::l =>
    if word.isPrefixOf (c::l) then new++replaceAll word new (word.length-1) l else c::replaceAll word new 0 l

section Operations
variable (lib : DottedLibrary)

def deleteValue (data : Json) (path : String) : Except String Json :=
  if Text.trimSpace path = "" then .ok data else lib.deleteBytes data path

/-- A text is read, changed and written. -/
def changeStringValue (data : Json) (path : String) (change : String → Except String String) : Except String Json :=
  match lib.getBytes data path with
  | some (.string current) =>
    match change current with
    | .ok newStr => lib.setBytes data path (.string newStr)
    | .error e => .error e
  | current => .error ("operation not supported for type: "++typeName current)

def trimmed (value : Json) (isPrefix : Bool) (current : String) : Except String String :=
  if isNil value then .error "trim value is required" else
  .ok (((if isPrefix then Text.cutPrefix else Text.cutSuffix) current (lib.sprint value)).getD current)

def replaced (source target current : String) : Except String String :=
  if source = "" then .error "replace from is required" else
  .ok (String.ofList (replaceAll source.toList target.toList 0 current.toList))

def trimStringValue (data : Json) (path : String) (value : Json) (isPrefix : Bool) : Except String Json :=
  changeStringValue lib data path (trimmed lib value isPrefix)

def transformStringValue (data : Json) (path : String) (transform : String → String) : Except String Json :=
  changeStringValue lib data path (fun current => .ok (transform current))

def replaceStringValue (data : Json) (path source target : String) : Except String Json :=
  changeStringValue lib data path (replaced source target)

variable (op : ParamOperation)

/-- The operation at one path. -/
def applyAt (result : Json) (path : String) : Except String Json :=
  match op.mode with
  | .delete => deleteValue lib result path
  | .set =>
    if op.keepOrigin && (lib.getBytes result path).isSome then .ok result else lib.setBytes result path op.value
  | .trimPrefix => trimStringValue lib result path op.value true
  | .trimSuffix => trimStringValue lib result path op.value false
  | .trimSpace => transformStringValue lib result path Text.trimSpace
  | .replace => replaceStringValue lib result path op.source op.target

/-- The path of the operation with positions from the end counted from the front. -/
def opPath (data : Json) : String := NegativeIndex.processNegativeIndex (document lib data) op.path

def applyOperation (data : Json) : Except String Json :=
  (resolveOperationPaths data (opPath lib op data)).foldlM (applyAt lib op) data

/-! ## What an operation should do -/

/-- A segment of a path. -/
def pick (raw : String) : Pick :=
  if Text.trimSpace raw = "" then .nothing else if Text.trimSpace raw = "*" then .every else .only (Text.trimSpace raw)

def pattern (path : String) : List Pick := (Text.split path '.').map pick

/-- What becomes of a text. -/
def textEffect : Mode → String → Option String
  | .trimPrefix,s => (trimmed lib op.value true s).toOption
  | .trimSuffix,s => (trimmed lib op.value false s).toOption
  | .trimSpace,s => some (Text.trimSpace s)
  | .replace,s => (replaced op.source op.target s).toOption
  | _,_ => none

/-- What becomes of one value, or of a key that is not there. -/
def effect (current : Option Json) : Option Json :=
  match op.mode,current with
  | .set,some a => some (if op.keepOrigin then a else op.value)
  | .set,none => some op.value
  | mode,some (.string s) => (textEffect lib op mode s).map .string
  | _,_ => none

/-- The operation on the children that a pick leads to. -/
def effectOn (p : Pick) (d : Json) : Option Json :=
  if op.mode = .delete then some (erase p d) else rewrite (effect lib op) p d

/-- Every match is operated on once as it was in the request, and nothing else is. -/
def Applied (data : Json) : Prop :=
  (applyOperation lib op data).toOption = distribute (effectOn lib op) (pattern (opPath lib op data)) data

/-- The path and the request say what they mean: a number in the path that leads into an array is written as the array
counts, a key that is picked stands in its object once, and the steps of a match are plain. -/
structure Plain (data : Json) : Prop where
  starred : '*'∈(opPath lib op data).toList
  counted : ∀ s l, (.only s,.array l)∈met (pattern (opPath lib op data)) data →
    ∀ n : ℕ, n<l.length → (Text.parseInt64 s = some (n : ℤ) ↔ s = Text.printNat n)
  single : ∀ r∈met (pattern (opPath lib op data)) data, Single r.1 r.2
  steps : ∀ p∈positions (pattern (opPath lib op data)) data, ∀ s∈p, PlainStep s
  notBlank : op.mode = .delete → ∀ p∈positions (pattern (opPath lib op data)) data, Text.trimSpace (joined p)≠""

end Operations

/-! ## The collected paths -/

section Collecting
variable {d a : Json} {m : Members} {l : List Json} {key s : String}

lemma entry_eq (h : (m.map Prod.fst).count key ≤ 1) : entry m key = m.lookup key := by
  unfold entry
  induction m with
  | nil => rfl
  | cons r m ih =>
    obtain ⟨k,a⟩ := r
    rw [List.reverse_cons,List.lookup_append]
    by_cases hk : key = k
    · subst hk
      rw [List.map_cons,List.count_cons_self] at h
      have hnone : m.lookup key = none := lookup_none_iff.mpr (List.count_eq_zero.mp (by omega))
      rw [ih (by omega),hnone,List.lookup_cons,List.lookup_cons,beq_self_eq_true]
      rfl
    · rw [List.map_cons,List.count_cons_of_ne (fun heq => hk heq.symm)] at h
      rw [ih h,List.lookup_cons,List.lookup_cons,beq_false_of_ne hk,List.lookup_nil,Option.or_none]

/-- What counts in an array. -/
lemma child_of_counted (h : ∀ n : ℕ, n<l.length → (Text.parseInt64 s = some (n : ℤ) ↔ s = Text.printNat n)) :
    ((array l).child s = none ∧ ∀ z, Text.parseInt64 s = some z → z<0 ∨ l.length≤z) ∨
      ∃ n a, n<l.length ∧ Text.parseInt64 s = some (n : ℤ) ∧ l.getD n .null = a ∧ (array l).child s = some a := by
  cases hchild : (array l).child s with
  | some a =>
    right
    obtain ⟨n,hn,hget⟩ := Option.bind_eq_some_iff.mp hchild
    obtain ⟨hlt,hget⟩ := List.getElem?_eq_some_iff.mp hget
    refine ⟨n,a,hlt,(h n hlt).mpr (index?_eq_some_iff.mp hn),?_,rfl⟩
    rw [List.getD_eq_getElem?_getD,List.getElem?_eq_getElem hlt,hget,Option.getD_some]
  | none =>
    left
    refine ⟨rfl,fun z hz => ?_⟩
    by_contra hin
    push Not at hin
    obtain ⟨n,rfl⟩ := Int.eq_ofNat_of_zero_le hin.1
    have hlt : n<l.length := by omega
    rw [child_array,(h n hlt).mp hz,index?_printNat,Option.bind_some,List.getElem?_eq_getElem hlt] at hchild
    cases hchild

lemma pick_of_blank {raw : String} (h : Text.trimSpace raw = "") : pick raw = .nothing := if_pos h

lemma pick_of_star {raw : String} (h : Text.trimSpace raw≠"") (hstar : Text.trimSpace raw = "*") :
    pick raw = .every := by
  rw [pick,if_neg h,if_pos hstar]

lemma pick_of_name {raw : String} (h : Text.trimSpace raw≠"") (hstar : Text.trimSpace raw≠"*") :
    pick raw = .only (Text.trimSpace raw) := by
  rw [pick,if_neg h,if_neg hstar]

/-- Numbers in the pattern are written as arrays count, and no key that is picked stands twice in its object. -/
structure Clear (ps : List Pick) (d : Json) : Prop where
  counted : ∀ s l, (.only s,.array l)∈met ps d →
    ∀ n : ℕ, n<l.length → (Text.parseInt64 s = some (n : ℤ) ↔ s = Text.printNat n)
  single : ∀ r∈met ps d, Single r.1 r.2

lemma clear_null (ps : List Pick) : Clear ps .null := by
  have hmet : ∀ r∈met ps .null, r.2 = .null := by
    intro r hr
    cases ps with
    | nil => exact absurd hr List.not_mem_nil
    | cons p ps =>
      have hnone : reached p .null = [] := by cases p <;> rfl
      rw [met,hnone,List.flatMap_nil,List.mem_singleton] at hr
      rw [hr]
  constructor
  · exact fun s l hr => Json.noConfusion (hmet _ hr)
  · intro r hr
    obtain ⟨p,d⟩ := r
    obtain rfl : d = .null := hmet _ hr
    cases p <;> trivial

lemma Clear.below {p : Pick} {ps : List Pick} (h : Clear (p::ps) d) (ha : a∈reached p d) : Clear ps a := by
  have hmet : ∀ r∈met ps a, r∈met (p::ps) d :=
    fun r hr => List.mem_cons_of_mem _ (List.mem_flatMap.mpr ⟨a,ha,hr⟩)
  exact ⟨fun s l hr => h.counted s l (hmet _ hr),fun r hr => h.single r (hmet r hr)⟩

lemma mem_reached_of_lookup (h : m.lookup key = some a) : a∈reached .every (.object m) :=
  List.mem_map.mpr ⟨(key,a),mem_of_lookup h,rfl⟩

/-- A pick leads to children, or to a key that is not there. -/
lemma Clear.branch {p : Pick} {ps : List Pick} (h : Clear (p::ps) d) {r : String × Json} (hr : r∈branches p d) :
    Clear ps r.2 := by
  have hlookup : ∀ (m : Members) k, (∀ a, m.lookup k = some a → Clear ps a) →
      Clear ps ((m.lookup k).getD .null) := by
    intro m k hsome
    cases hk : m.lookup k with
    | none => exact clear_null ps
    | some a => exact hsome a hk
  cases p with
  | nothing => exact absurd hr (by cases d <;> exact List.not_mem_nil)
  | only s =>
    cases d with
    | array l =>
      obtain ⟨a,ha,rfl⟩ := List.mem_map.mp hr
      exact h.below ha
    | object m =>
      rw [List.mem_singleton.mp hr]
      exact hlookup m s (fun a ha => h.below (Option.mem_toList.mpr ha))
    | _ => exact absurd hr List.not_mem_nil
  | every =>
    cases d with
    | array l =>
      obtain ⟨n,hn,rfl⟩ := List.mem_mapIdx.mp hr
      exact h.below (List.getElem_mem hn)
    | object m =>
      obtain ⟨k,-,rfl⟩ := List.mem_map.mp hr
      exact hlookup m k (fun a ha => h.below (mem_reached_of_lookup ha))
    | _ => exact absurd hr List.not_mem_nil

lemma collect_null {segments : List String} (h : segments≠[]) (before : List String) :
    collectWildcardPaths segments .null before = [] := by
  obtain ⟨raw,rest,rfl⟩ := List.exists_cons_of_ne_nil h
  unfold collectWildcardPaths
  dsimp only
  split_ifs <;> rfl

/-- What a segment leads to, and the paths from there. -/
lemma collect_cons {raw : String} {rest before : List String} (h : Clear (pick raw::rest.map pick) d) :
    collectWildcardPaths (raw::rest) d before =
      (branches (pick raw) d).flatMap (fun r => collectWildcardPaths rest r.2 (before++[r.1])) := by
  conv_lhs => unfold collectWildcardPaths
  dsimp only
  by_cases hblank : Text.trimSpace raw = ""
  · rw [if_pos hblank,pick_of_blank hblank]
    cases d <;> rfl
  rw [if_neg hblank]
  by_cases hstar : Text.trimSpace raw = "*"
  · rw [if_pos hstar]
    rw [pick_of_star hblank hstar] at h ⊢
    cases d with
    | object m =>
      have hnodup : (m.map Prod.fst).Nodup := h.single (.every,.object m) List.mem_cons_self
      rw [branches,List.flatMap_map]
      refine List.flatMap_congr (fun k _ => ?_)
      rw [entry_eq (List.nodup_iff_count_le_one.mp hnodup k)]
    | _ => rfl
  · rw [if_neg hstar]
    rw [pick_of_name hblank hstar] at h ⊢
    generalize Text.trimSpace raw = s at *
    cases d with
    | object m =>
      have hcount : (m.map Prod.fst).count s ≤ 1 := h.single (.only s,.object m) List.mem_cons_self
      dsimp only
      rw [branches,List.flatMap_singleton,entry_eq hcount]
      by_cases hrest : rest = []
      · rw [if_pos hrest,hrest]
        rfl
      · rw [if_neg hrest]
        cases m.lookup s with
        | none => exact (collect_null hrest _).symm
        | some a => rfl
    | array l =>
      rw [branches]
      rcases child_of_counted (h.counted s l List.mem_cons_self) with ⟨hchild,hout⟩ | ⟨n,a,hlt,hparse,hget,hchild⟩
      · rw [hchild]
        cases hparse : Text.parseInt64 s with
        | none => rfl
        | some z => exact if_pos (hout z hparse)
      · rw [hchild,hparse]
        dsimp only
        rw [if_neg (by omega),Int.toNat_natCast,hget,Option.toList_some,List.map_singleton,List.flatMap_singleton]
        by_cases hrest : rest = []
        · rw [if_pos hrest,hrest]
          rfl
        · rw [if_neg hrest]
    | _ => rfl

theorem collect_eq {segments before : List String} (h : Clear (segments.map pick) d) :
    collectWildcardPaths segments d before =
      (positions (segments.map pick) d).map (fun p => joined (before++p)) := by
  induction segments generalizing d before with
  | nil => simp [collectWildcardPaths,positions]
  | cons raw rest ih =>
    rw [List.map_cons] at h
    rw [collect_cons h,List.map_cons,positions,List.map_flatMap]
    refine List.flatMap_congr (fun r hr => ?_)
    rw [ih (h.branch hr),List.map_map]
    refine List.map_congr_left (fun q _ => ?_)
    rw [List.append_assoc]
    rfl

lemma uniq_of_nodup {l : List String} (h : l.Nodup) : uniq l = l := by
  rw [uniq,(List.nodup_reverse.mpr h).dedup,List.reverse_reverse]

end Collecting

/-! ## One path after the other -/

section Applying
variable {lib : DottedLibrary} {op : ParamOperation} {data : Json}

lemma joined_inj {p q : List String} (hp : p≠[]) (hq : q≠[]) (hplain : ∀ s∈p, PlainStep s)
    (hplain' : ∀ s∈q, PlainStep s) (lib : DottedLibrary) (h : joined p = joined q) : p = q := by
  have hsteps := lib.steps_plain p hp hplain
  rw [h,lib.steps_plain q hq hplain'] at hsteps
  exact (Option.some.inj hsteps).symm

lemma exists_pattern (path : String) : ∃ p rest, pattern path = p::rest := by
  have hne : pattern path≠[] := by
    unfold pattern Text.split
    simpa using Text.splitChars_ne_nil '.' path.toList
  exact List.exists_cons_of_ne_nil hne

lemma Plain.nonempty {p : List String} (hp : p∈positions (pattern (opPath lib op data)) data) : p≠[] := by
  obtain ⟨first,rest,heq⟩ := exists_pattern (opPath lib op data)
  exact ne_nil_of_mem_positions (heq ▸ hp)

lemma resolve_eq (h : Plain lib op data) : resolveOperationPaths data (opPath lib op data) =
    (positions (pattern (opPath lib op data)) data).map joined := by
  have hcollect : collectWildcardPaths (Text.split (opPath lib op data) '.') data [] =
      (positions (pattern (opPath lib op data)) data).map joined := collect_eq ⟨h.counted,h.single⟩
  rw [resolveOperationPaths,if_pos h.starred,expandWildcardPaths,hcollect]
  refine uniq_of_nodup ((positions_nodup _ data).map_on ?_)
  exact fun p hp q hq heq => joined_inj (Plain.nonempty hp) (Plain.nonempty hq) (h.steps p hp) (h.steps q hq) lib heq

/-- What happens at a position that a path leads to. -/
def act (lib : DottedLibrary) (op : ParamOperation) : List String → Json → Option Json :=
  if op.mode = .delete then deleting else writing (effect lib op)

/-- A text that is changed is read and written at the same position. -/
lemma changeStringValue_toOption {text : String} {p : List String} (hsteps : lib.steps text = some p) (d : Json)
    {change : String → Except String String} {next : Option Json → Option Json}
    (hnext : ∀ s, next (some (.string s)) = (change s).toOption.map .string)
    (hnone : ∀ current, (∀ s, current≠some (.string s)) → next current = none) :
    (changeStringValue lib d text change).toOption = writing next p d := by
  unfold changeStringValue writing
  rw [lib.get_steps text p hsteps]
  by_cases htext : ∃ s, Json.get p d = some (.string s)
  · obtain ⟨s,hs⟩ := htext
    rw [hs,hnext]
    dsimp only
    cases change s with
    | error e => rfl
    | ok newStr => exact lib.set_steps text p hsteps d (.string newStr)
  · rw [hnone _ (fun s hs => htext ⟨s,hs⟩)]
    cases hget : Json.get p d with
    | none => rfl
    | some a =>
      cases a with
      | string s => exact absurd ⟨s,hget⟩ htext
      | _ => rfl

lemma effect_string (hmode : op.mode≠.delete) (hset : op.mode≠.set) (s : String) :
    effect lib op (some (.string s)) = (textEffect lib op op.mode s).map .string := by
  unfold effect
  cases h : op.mode with
  | delete => exact absurd h hmode
  | set => exact absurd h hset
  | _ => rfl

lemma effect_other (hset : op.mode≠.set) {current : Option Json} (h : ∀ s, current≠some (.string s)) :
    effect lib op current = none := by
  unfold effect
  cases hmode : op.mode with
  | set => exact absurd hmode hset
  | _ =>
    cases current with
    | none => rfl
    | some a =>
      cases a with
      | string s => exact absurd rfl (h s)
      | _ => rfl

lemma setAt_toOption {text : String} {p : List String} (hsteps : lib.steps text = some p) (hmode : op.mode = .set)
    (d : Json) :
    (if op.keepOrigin && (lib.getBytes d text).isSome then .ok d else lib.setBytes d text op.value).toOption =
      writing (effect lib op) p d := by
  rw [lib.get_steps text p hsteps,writing]
  unfold effect
  rw [hmode]
  cases hget : Json.get p d with
  | none =>
    rw [Option.isSome_none,Bool.and_false,if_neg Bool.false_ne_true,lib.set_steps text p hsteps]
    rfl
  | some a =>
    cases op.keepOrigin with
    | true => exact (set_of_get hget).symm
    | false => exact lib.set_steps text p hsteps d op.value

lemma applyAt_toOption {text : String} {p : List String} (hsteps : lib.steps text = some p)
    (hblank : op.mode = .delete → Text.trimSpace text≠"") (d : Json) :
    (applyAt lib op d text).toOption = act lib op p d := by
  unfold applyAt act
  by_cases hset : op.mode = .set
  · rw [hset]
    exact setAt_toOption hsteps hset d
  by_cases hdelete : op.mode = .delete
  · rw [if_pos hdelete,hdelete]
    dsimp only
    rw [deleteValue,if_neg (hblank hdelete),lib.delete_steps text p hsteps]
    rfl
  rw [if_neg hdelete]
  have htext : ∀ change : String → Except String String,
      (∀ s, (change s).toOption = textEffect lib op op.mode s) →
        (changeStringValue lib d text change).toOption = writing (effect lib op) p d := by
    intro change hchange
    refine changeStringValue_toOption hsteps d (fun s => ?_) (fun current h => effect_other hset h)
    rw [effect_string hdelete hset,hchange]
  cases hmode : op.mode with
  | delete => exact absurd hmode hdelete
  | set => exact absurd hmode hset
  | trimPrefix => exact htext _ (fun s => by rw [hmode]; rfl)
  | trimSuffix => exact htext _ (fun s => by rw [hmode]; rfl)
  | trimSpace => exact htext _ (fun s => by rw [hmode]; rfl)
  | replace => exact htext _ (fun s => by rw [hmode]; rfl)

lemma foldlM_toOption {f : Json → String → Except String Json} {g : List String → Json → Option Json}
    {ps : List (List String)} (h : ∀ p∈ps, ∀ d, (f d (joined p)).toOption = g p d) (d : Json) :
    ((ps.map joined).foldlM f d).toOption = perform g ps d := by
  induction ps generalizing d with
  | nil => rfl
  | cons p ps ih =>
    rw [List.map_cons,List.foldlM_cons,perform_cons,←h p List.mem_cons_self d]
    cases f d (joined p) with
    | error e => rfl
    | ok e => exact ih (fun q hq => h q (List.mem_cons_of_mem p hq)) e

theorem applyOperation_toOption (h : Plain lib op data) :
    (applyOperation lib op data).toOption =
      perform (act lib op) (positions (pattern (opPath lib op data)) data) data := by
  rw [applyOperation,resolve_eq h]
  refine foldlM_toOption (fun p hp d => applyAt_toOption ?_ (fun hmode => h.notBlank hmode p hp) d) data
  exact lib.steps_plain p (Plain.nonempty hp) (h.steps p hp)

lemma applied_of_writing (h : Plain lib op data) (hmode : op.mode≠.delete) : Applied lib op data := by
  obtain ⟨p,rest,heq⟩ := exists_pattern (opPath lib op data)
  have hsingle := h.single
  rw [Applied,applyOperation_toOption h]
  rw [heq] at hsingle ⊢
  have hact : act lib op = writing (effect lib op) := if_neg hmode
  have heffect : effectOn lib op = rewrite (effect lib op) := by
    funext p d
    exact if_neg hmode
  rw [hact,heffect,perform_writing hsingle]

lemma applied_deleting_iff (h : Plain lib op data) (hmode : op.mode = .delete) :
    Applied lib op data ↔ Short (pattern (opPath lib op data)) data := by
  obtain ⟨p,rest,heq⟩ := exists_pattern (opPath lib op data)
  have hsingle := h.single
  rw [Applied,applyOperation_toOption h]
  rw [heq] at hsingle ⊢
  have hact : act lib op = deleting := if_pos hmode
  have heffect : effectOn lib op = fun p d => some (erase p d) := by
    funext p d
    exact if_pos hmode
  rw [hact,heffect]
  exact perform_deleting_iff hsingle

end Applying

/-! ## Libraries that know no other paths -/

section Sample

def dottedSteps (path : String) : Option (List String) :=
  if ∀ s∈Text.split path '.', PlainStep s then some (Text.split path '.') else none

lemma split_ne_nil (path : String) : Text.split path '.'≠[] := by
  unfold Text.split
  simpa using Text.splitChars_ne_nil '.' path.toList

lemma dottedSteps_joined {p : List String} (hp : p≠[]) (h : ∀ s∈p, PlainStep s) : dottedSteps (joined p) = some p := by
  have hsplit : Text.split (joined p) '.' = p :=
    Text.split_intercalate hp (fun s hs hdot => (h s hs).2.1 '.' hdot (by decide))
  rw [dottedSteps,hsplit,if_pos h]

/-- Texts are printed as they are. -/
def printed : Json → String
  | .string s => s
  | d => String.ofList d.text

def dottedLibrary : DottedLibrary where
  steps := dottedSteps
  getBytes data path := (dottedSteps path).bind (fun steps => Json.get steps data)
  setBytes data path v :=
    match (dottedSteps path).bind (fun steps => Json.set steps data v) with
    | some written => .ok written
    | none => .error "path cannot be set"
  deleteBytes data path :=
    match dottedSteps path with
    | some steps => .ok (Json.delete steps data)
    | none => .error "path cannot be deleted"
  value := id
  sprint := printed
  steps_ne_nil path steps h := by
    unfold dottedSteps at h
    split_ifs at h
    exact Option.some.inj h ▸ split_ne_nil path
  get_steps path steps h data := by
    rw [h]
    rfl
  set_steps path steps h data v := by
    rw [h,Option.bind_some]
    cases Json.set steps data v <;> rfl
  delete_steps path steps h data := by
    rw [h]
  steps_plain p hp h := dottedSteps_joined hp h

def deleteElements : ParamOperation := ⟨"arr.*",.delete,.null,false,"",""⟩

def withElements (l : List Json) : Json := .object [("arr",.array l)]

lemma pattern_elements (data : Json) : pattern (opPath dottedLibrary deleteElements data) = [.only "arr",.every] := by
  have hpath : opPath dottedLibrary deleteElements data = "arr.*" := rfl
  rw [hpath]
  decide

lemma plainStep_printNat (n : ℕ) : PlainStep (Text.printNat n) := by
  have hdigit : ∀ c∈(Text.printNat n).toList, c.isDigit = true := by
    intro c hc
    rw [Text.printNat,String.toList_ofList] at hc
    exact List.all_eq_true.mp (Text.isDigit_toDigits n) c hc
  have hnot : ∀ l : List Char, l.any Char.isDigit = false → ∀ c, c.isDigit = true → c∉l := by
    intro l hl c hc hmem
    exact absurd hc (by simpa using List.any_eq_false.mp hl c hmem)
  refine ⟨fun hempty => ?_,fun c hc => hnot _ (by decide) c (hdigit c hc),fun c hc => ?_⟩
  · have hchars := congrArg String.toList hempty
    rw [Text.printNat,String.toList_ofList] at hchars
    exact Nat.toDigits_ne_nil hchars
  · exact hnot _ (by decide) c (hdigit c (List.mem_of_mem_head? hc))

lemma mem_positions_elements {l : List Json} {p : List String}
    (hp : p∈positions [.only "arr",.every] (withElements l)) : ∃ n, p = ["arr",Text.printNat n] := by
  obtain ⟨r,hr,hp⟩ := List.mem_flatMap.mp hp
  obtain rfl := List.mem_singleton.mp hr
  obtain ⟨q,hq,rfl⟩ := List.mem_map.mp hp
  have harray : (List.lookup "arr" [("arr",array l)]).getD .null = array l := rfl
  rw [harray,positions_elements] at hq
  obtain ⟨n,-,rfl⟩ := List.mem_map.mp hq
  exact ⟨n,rfl⟩

lemma plain_elements (l : List Json) : Plain dottedLibrary deleteElements (withElements l) := by
  have hmet : met [.only "arr",.every] (withElements l) = [(.only "arr",withElements l),(.every,array l)] := by
    have hnone : l.flatMap (met []) = [] := List.flatMap_eq_nil_iff.mpr (fun a _ => rfl)
    have hrest : met [.every] (array l) = [(.every,array l)] := congrArg (List.cons (Pick.every,array l)) hnone
    have hreached : reached (.only "arr") (withElements l) = [array l] := rfl
    rw [met,hreached,List.flatMap_singleton,hrest]
  refine ⟨?_,?_,?_,?_,?_⟩
  · have hpath : opPath dottedLibrary deleteElements (withElements l) = "arr.*" := rfl
    rw [hpath]
    decide
  · intro s l' hr
    rw [pattern_elements,hmet] at hr
    simp [withElements] at hr
  · intro r hr
    rw [pattern_elements,hmet] at hr
    simp only [List.mem_cons,List.not_mem_nil,or_false] at hr
    rcases hr with rfl | rfl
    · exact List.count_le_length
    · trivial
  · intro p hp s hs
    rw [pattern_elements] at hp
    obtain ⟨n,rfl⟩ := mem_positions_elements hp
    simp only [List.mem_cons,List.not_mem_nil,or_false] at hs
    rcases hs with rfl | rfl
    · decide
    · exact plainStep_printNat n
  · intro _ p hp
    rw [pattern_elements] at hp
    obtain ⟨n,rfl⟩ := mem_positions_elements hp
    have hword : Text.IsWord (joined ["arr",Text.printNat n]) := by
      have hjoined : joined ["arr",Text.printNat n] = "arr"++"."++Text.printNat n := rfl
      rw [hjoined]
      exact Text.IsWord.append (by decide) (Text.printNat_noSpace n)
    rw [Text.trimSpace_word hword]
    intro hempty
    exact hword.1 (congrArg String.toList hempty)

end Sample

end WildcardPaths
end Relay
end Tierflow
