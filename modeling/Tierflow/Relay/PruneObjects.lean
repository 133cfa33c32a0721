import Tierflow.Foundation.JsonTree
import Tierflow.Relay.NegativeIndex

/-! Pruning the objects of a request that satisfy a condition. An object is judged with the content that it has in the
request, before that content is pruned. -/
namespace Tierflow
namespace Relay
namespace PruneObjects

structure ConditionOperation where
  path : String
  mode : String
  value : Json
  invert : Bool
  passMissingKey : Bool

/-- What is used of the library that reads documents: the value at a path, and what a value says as a string. -/
structure Gjson where
  get : Json → String → Option Json
  string : Json → String

/-! ## Comparing values -/

def typeName : Json → String
  | .null => "Null"
  | .bool false => "False"
  | .bool true => "True"
  | .number _ _ => "Number"
  | .string _ => "String"
  | .array _ => "JSON"
  | .object _ => "JSON"

section Conditions
variable (g : Gjson)

def compareEqual (jsonValue targetValue : Json) : Except String Bool :=
  if typeName jsonValue = "Null" || typeName targetValue = "Null" then
    .ok (typeName jsonValue = "Null" && typeName targetValue = "Null")
  else
    match jsonValue,targetValue with
    | .bool a,.bool b => .ok (a = b)
    | .number _ a,.number _ b => .ok (a = b)
    | .string a,.string b => .ok (a = b)
    | a,b =>
      if typeName a≠typeName b then
        .error ("compare for different types, got "++typeName a++" and "++typeName b)
      else .ok (g.string a = g.string b)

/-- The order that a mode names, for two numbers only. -/
def compareNumeric (jsonValue targetValue : Json) (holds : ℚ → ℚ → Bool) : Except String Bool :=
  match jsonValue,targetValue with
  | .number _ a,.number _ b => .ok (holds a b)
  | a,b => .error ("numeric comparison requires both values to be numbers, got "++typeName a++" and "++typeName b)

def compareGjsonValues (jsonValue targetValue : Json) (mode : String) : Except String Bool :=
  match mode with
  | "full" => compareEqual g jsonValue targetValue
  | "prefix" => .ok (Text.hasPrefix (g.string jsonValue) (g.string targetValue))
  | "suffix" => .ok (Text.cutSuffix (g.string jsonValue) (g.string targetValue)).isSome
  | "contains" => .ok (Text.contains (g.string jsonValue) (g.string targetValue))
  | "gt" => compareNumeric jsonValue targetValue (fun a b => b < a)
  | "gte" => compareNumeric jsonValue targetValue (fun a b => b ≤ a)
  | "lt" => compareNumeric jsonValue targetValue (fun a b => a < b)
  | "lte" => compareNumeric jsonValue targetValue (fun a b => a ≤ b)
  | mode => .error ("unsupported comparison mode: "++mode)

/-- Lower case, as far as the names of the modes are concerned. -/
def toLower (s : String) : String := s.map (fun c => if c = '\u0130' then 'i' else c.toLower)

lemma no_root : ∀ n : ℕ, (none : Option ℕ) = some n → n<2^63 := nofun

/-- The arrays of a document, as negative indexes read them. -/
def arraysOf (data : Json) : NegativeIndex.Document where
  root := none
  arrayAt path :=
    match g.get data path with
    | some (.array l) => if l.length<2^63 then some l.length else none
    | _ => none
  root_lt := no_root
  arrayAt_lt path n h := by
    split at h
    · split_ifs at h with hlt
      rw [←Option.some.inj h]
      exact hlt
    · cases h

/-- A value that the document does not have is looked for in the context. -/
def checkSingleCondition (data : Json) (context : Option Json) (condition : ConditionOperation) : Except String Bool :=
  let path := NegativeIndex.processNegativeIndex (arraysOf g data) condition.path
  match (g.get data path).or (context.bind (fun c => g.get c condition.path)) with
  | none => .ok condition.passMissingKey
  | some value =>
    match compareGjsonValues g value condition.value (toLower condition.mode) with
    | .error e => .error ("comparison failed for path "++condition.path++": "++e)
    | .ok result => .ok (if condition.invert then !result else result)

def checkConditions (data : Json) (context : Option Json) (conditions : List ConditionOperation) (logic : String) :
    Except String Bool :=
  if conditions.isEmpty then .ok true
  else (conditions.mapM (checkSingleCondition g data context)).map (fun results =>
    if logic.toUpper = "AND" then results.all id else results.any id)

structure PruneObjectsOptions where
  conditions : List ConditionOperation
  logic : String
  recursive : Bool

def shouldPruneObject (node : Json.Members) (options : PruneObjectsOptions) (context : Option Json) :
    Except String Bool := checkConditions g (.object node) context options.conditions options.logic

end Conditions

/-! ## The walk -/

section Walk
variable (g : Gjson) (options : PruneObjectsOptions) (context : Option Json)

mutual

/-- What is left of a node, or nothing when it is dropped. -/
def pruneObjectsNode : Json → Bool → Except String (Option Json)
  | .array items,_ => (pruneItems items).map (fun l => some (.array l))
  | .object members,isRoot =>
    match shouldPruneObject g members options context with
    | .error e => .error e
    | .ok shouldDrop =>
      if shouldDrop && !isRoot then .ok none
      else if !options.recursive then .ok (some (.object members))
      else (pruneMembers members).map (fun l => some (.object l))
  | node,_ => .ok (some node)

def pruneItems : List Json → Except String (List Json)
  | [] => .ok []
  | a::l =>
    match pruneObjectsNode a false with
    | .error e => .error e
    | .ok none => pruneItems l
    | .ok (some b) => (pruneItems l).map (fun l' => b::l')

def pruneMembers : Json.Members → Except String Json.Members
  | [] => .ok []
  | (k,a)::l =>
    match pruneObjectsNode a false with
    | .error e => .error e
    | .ok none => pruneMembers l
    | .ok (some b) => (pruneMembers l).map (fun l' => (k,b)::l')

end

end Walk

/-! ## What is left -/

section Results
variable {g : Gjson} {options : PruneObjectsOptions} {context : Option Json}

/-- The condition holds of an object as it stands. -/
def Satisfies (g : Gjson) (options : PruneObjectsOptions) (context : Option Json) (m : Json.Members) : Prop :=
  shouldPruneObject g m options context = .ok true

lemma map_eq_ok {α β : Type*} {f : α → β} {r : Except String α} {b : β} (h : r.map f = .ok b) :
    ∃ a, r = .ok a ∧ f a = b := by
  cases r with
  | error e => cases h
  | ok a => exact ⟨a,rfl,Except.ok.inj h⟩

lemma pruneArray {l : List Json} {isRoot : Bool} {left : Option Json}
    (h : pruneObjectsNode g options context (.array l) isRoot = .ok left) :
    ∃ l', pruneItems g options context l = .ok l' ∧ left = some (.array l') := by
  rw [pruneObjectsNode] at h
  obtain ⟨l',hl,rfl⟩ := map_eq_ok h
  exact ⟨l',hl,rfl⟩

/-- An object is judged as it stands. It is dropped below the root, it is left alone, or its members are pruned. -/
lemma pruneObject {m : Json.Members} {isRoot : Bool} {left : Option Json}
    (h : pruneObjectsNode g options context (.object m) isRoot = .ok left) :
    ∃ shouldDrop, shouldPruneObject g m options context = .ok shouldDrop ∧
      if shouldDrop = true ∧ isRoot = false then left = none
      else if options.recursive = false then left = some (.object m)
      else ∃ m', pruneMembers g options context m = .ok m' ∧ left = some (.object m') := by
  rw [pruneObjectsNode] at h
  cases hm : shouldPruneObject g m options context with
  | error e =>
    rw [hm] at h
    cases h
  | ok shouldDrop =>
    simp only [hm,Bool.and_eq_true,Bool.not_eq_true'] at h
    refine ⟨shouldDrop,rfl,?_⟩
    by_cases hdrop : shouldDrop = true ∧ isRoot = false
    · rw [if_pos hdrop] at h ⊢
      exact (Except.ok.inj h).symm
    · rw [if_neg hdrop] at h ⊢
      by_cases hrec : options.recursive = false
      · rw [if_pos hrec] at h ⊢
        exact (Except.ok.inj h).symm
      · rw [if_neg hrec] at h ⊢
        obtain ⟨m',hm',rfl⟩ := map_eq_ok h
        exact ⟨m',hm',rfl⟩

/-- A node that is dropped is an object that satisfies the condition. -/
lemma pruneObjectsNode_none {a : Json} {isRoot : Bool} (h : pruneObjectsNode g options context a isRoot = .ok none) :
    ∃ m, a = .object m ∧ Satisfies g options context m := by
  cases a with
  | null => cases h
  | bool => cases h
  | number => cases h
  | string => cases h
  | array l =>
    obtain ⟨l',-,hleft⟩ := pruneArray h
    cases hleft
  | object m =>
    obtain ⟨shouldDrop,hshould,hleft⟩ := pruneObject h
    split_ifs at hleft with hdrop
    · rw [hdrop.1] at hshould
      exact ⟨m,rfl,hshould⟩
    · obtain ⟨m',-,hleft⟩ := hleft
      cases hleft

lemma not_satisfies {a : Json} {b : Json} (h : pruneObjectsNode g options context a false = .ok (some b)) :
    ∀ m, a = .object m → ¬Satisfies g options context m := by
  rintro m rfl hm
  obtain ⟨shouldDrop,hshould,hleft⟩ := pruneObject h
  have hdrop : shouldDrop = true := Except.ok.inj (hshould.symm.trans hm)
  rw [if_pos ⟨hdrop,rfl⟩] at hleft
  cases hleft

mutual

/-- Exactly the objects below the root that satisfy the condition as they stand are gone. -/
lemma sifted_of_prune : ∀ (x : Json) {isRoot : Bool} {y : Json},
    pruneObjectsNode g options context x isRoot = .ok (some y) →
      Json.Sifted (Satisfies g options context) options.recursive x y
  | .null,_,_,h => by
    cases h
    exact .null
  | .bool b,_,_,h => by
    cases h
    exact .bool b
  | .number text value,_,_,h => by
    cases h
    exact .number text value
  | .string s,_,_,h => by
    cases h
    exact .string s
  | .array l,_,_,h => by
    obtain ⟨l',hl,hleft⟩ := pruneArray h
    rw [Option.some.inj hleft]
    exact .array (sifted_of_pruneItems l hl)
  | .object m,_,_,h => by
    obtain ⟨shouldDrop,-,hleft⟩ := pruneObject h
    split_ifs at hleft with hdrop hrec
    · rw [Option.some.inj hleft]
      exact .shallow m hrec
    · obtain ⟨m',hm,hleft⟩ := hleft
      rw [Option.some.inj hleft]
      exact .object (Bool.eq_true_of_not_eq_false hrec) (sifted_of_pruneMembers m hm)

lemma sifted_of_pruneItems : ∀ (l : List Json) {l' : List Json}, pruneItems g options context l = .ok l' →
    Json.SiftedItems (Satisfies g options context) options.recursive l l'
  | [],_,h => by
    cases h
    exact .nil
  | a::l,_,h => by
    rw [pruneItems] at h
    cases ha : pruneObjectsNode g options context a false with
    | error e =>
      rw [ha] at h
      cases h
    | ok left =>
      rw [ha] at h
      cases left with
      | none =>
        obtain ⟨m,rfl,hm⟩ := pruneObjectsNode_none ha
        exact .drop hm (sifted_of_pruneItems l h)
      | some b =>
        cases hl : pruneItems g options context l with
        | error e =>
          rw [hl] at h
          cases h
        | ok rest =>
          rw [hl] at h
          cases h
          exact .keep (not_satisfies ha) (sifted_of_prune a ha) (sifted_of_pruneItems l hl)

lemma sifted_of_pruneMembers : ∀ (l : Json.Members) {l' : Json.Members}, pruneMembers g options context l = .ok l' →
    Json.SiftedMembers (Satisfies g options context) options.recursive l l'
  | [],_,h => by
    cases h
    exact .nil
  | (k,a)::l,_,h => by
    rw [pruneMembers] at h
    cases ha : pruneObjectsNode g options context a false with
    | error e =>
      rw [ha] at h
      cases h
    | ok left =>
      rw [ha] at h
      cases left with
      | none =>
        obtain ⟨m,rfl,hm⟩ := pruneObjectsNode_none ha
        exact .drop k hm (sifted_of_pruneMembers l h)
      | some b =>
        cases hl : pruneMembers g options context l with
        | error e =>
          rw [hl] at h
          cases h
        | ok rest =>
          rw [hl] at h
          cases h
          exact .keep k (not_satisfies ha) (sifted_of_prune a ha) (sifted_of_pruneMembers l hl)

end

/-! ## A second time -/

/-- The condition was evaluated and found not to hold. -/
def Spared (g : Gjson) (options : PruneObjectsOptions) (context : Option Json) (m : Json.Members) : Prop :=
  shouldPruneObject g m options context = .ok false

mutual

/-- A walk that goes deep changes nothing exactly when it spares every object. -/
lemma prune_self_iff (hrec : options.recursive = true) : ∀ a : Json,
    pruneObjectsNode g options context a false = .ok (some a) ↔ ∀ o∈a.objects, Spared g options context o
  | .null => ⟨fun _ _ ho => absurd ho List.not_mem_nil,fun _ => rfl⟩
  | .bool _ => ⟨fun _ _ ho => absurd ho List.not_mem_nil,fun _ => rfl⟩
  | .number _ _ => ⟨fun _ _ ho => absurd ho List.not_mem_nil,fun _ => rfl⟩
  | .string _ => ⟨fun _ _ ho => absurd ho List.not_mem_nil,fun _ => rfl⟩
  | .array l => by
    rw [Json.objects,←pruneItems_self_iff hrec l]
    constructor
    · intro h
      obtain ⟨l',hl,hleft⟩ := pruneArray h
      rw [hl,Json.array.inj (Option.some.inj hleft)]
    · intro h
      rw [pruneObjectsNode,h]
      rfl
  | .object m => by
    rw [Json.objects,List.forall_mem_cons,←pruneMembers_self_iff hrec m]
    constructor
    · intro h
      obtain ⟨shouldDrop,hshould,hleft⟩ := pruneObject h
      split_ifs at hleft with hdrop hshallow
      · rw [hrec] at hshallow
        cases hshallow
      · obtain ⟨m',hm',hleft⟩ := hleft
        have hfalse : shouldDrop = false := Bool.eq_false_iff.mpr (fun htrue => hdrop ⟨htrue,rfl⟩)
        refine ⟨hshould.trans (congrArg _ hfalse),?_⟩
        rw [hm',Json.object.inj (Option.some.inj hleft)]
    · rintro ⟨hshould,hm⟩
      unfold Spared at hshould
      rw [pruneObjectsNode,hshould]
      simp only [Bool.false_and,Bool.false_eq_true,if_false,hrec,Bool.not_true]
      rw [hm]
      rfl

lemma pruneItems_self_iff (hrec : options.recursive = true) : ∀ l : List Json,
    pruneItems g options context l = .ok l ↔ ∀ o∈Json.objectsOfItems l, Spared g options context o
  | [] => ⟨fun _ _ ho => absurd ho List.not_mem_nil,fun _ => rfl⟩
  | a::l => by
    rw [Json.objectsOfItems,List.forall_mem_append,←prune_self_iff hrec a,←pruneItems_self_iff hrec l]
    constructor
    · intro h
      rw [pruneItems] at h
      cases ha : pruneObjectsNode g options context a false with
      | error e =>
        rw [ha] at h
        cases h
      | ok left =>
        rw [ha] at h
        cases left with
        | none =>
          -- what is left of the rest would be longer than the rest
          have hlength := (sifted_of_pruneItems l h).length_le
          rw [List.length_cons] at hlength
          omega
        | some b =>
          obtain ⟨l',hl,hcons⟩ := map_eq_ok h
          obtain ⟨rfl,rfl⟩ := List.cons.inj hcons
          exact ⟨rfl,hl⟩
    · rintro ⟨ha,hl⟩
      rw [pruneItems,ha]
      dsimp only
      rw [hl]
      rfl

lemma pruneMembers_self_iff (hrec : options.recursive = true) : ∀ l : Json.Members,
    pruneMembers g options context l = .ok l ↔ ∀ o∈Json.objectsOfMembers l, Spared g options context o
  | [] => ⟨fun _ _ ho => absurd ho List.not_mem_nil,fun _ => rfl⟩
  | (k,a)::l => by
    rw [Json.objectsOfMembers,List.forall_mem_append,←prune_self_iff hrec a,←pruneMembers_self_iff hrec l]
    constructor
    · intro h
      rw [pruneMembers] at h
      cases ha : pruneObjectsNode g options context a false with
      | error e =>
        rw [ha] at h
        cases h
      | ok left =>
        rw [ha] at h
        cases left with
        | none =>
          have hlength := (sifted_of_pruneMembers l h).length_le
          rw [List.length_cons] at hlength
          omega
        | some b =>
          obtain ⟨l',hl,hcons⟩ := map_eq_ok h
          obtain ⟨hpair,rfl⟩ := List.cons.inj hcons
          rw [(Prod.mk.inj hpair).2]
          exact ⟨rfl,hl⟩
    · rintro ⟨ha,hl⟩
      rw [pruneMembers,ha]
      dsimp only
      rw [hl]
      rfl

end

/-- The root is judged as well, but never dropped. -/
def RootJudged (g : Gjson) (options : PruneObjectsOptions) (context : Option Json) (x : Json) : Prop :=
  ∀ m, x = .object m → ∃ b, shouldPruneObject g m options context = .ok b

lemma prune_root_self_iff (hrec : options.recursive = true) (x : Json) :
    pruneObjectsNode g options context x true = .ok (some x) ↔
      RootJudged g options context x ∧ ∀ o∈x.objectsBelow, Spared g options context o := by
  have hleaf : x.objectsBelow = [] → (∀ m, x≠.object m) →
      pruneObjectsNode g options context x true = .ok (some x) → (pruneObjectsNode g options context x true =
        .ok (some x) ↔ RootJudged g options context x ∧ ∀ o∈x.objectsBelow, Spared g options context o) := by
    intro hnone hne h
    refine ⟨fun _ => ⟨fun m hm => absurd hm (hne m),?_⟩,fun _ => h⟩
    rw [hnone]
    exact fun o ho => absurd ho List.not_mem_nil
  cases x with
  | null => exact hleaf rfl (fun _ => Json.noConfusion) rfl
  | bool => exact hleaf rfl (fun _ => Json.noConfusion) rfl
  | number => exact hleaf rfl (fun _ => Json.noConfusion) rfl
  | string => exact hleaf rfl (fun _ => Json.noConfusion) rfl
  | array l =>
    rw [Json.objectsBelow,←pruneItems_self_iff hrec l]
    constructor
    · intro h
      obtain ⟨l',hl,hleft⟩ := pruneArray h
      refine ⟨fun m hm => Json.noConfusion hm,?_⟩
      rw [hl,Json.array.inj (Option.some.inj hleft)]
    · rintro ⟨-,hl⟩
      rw [pruneObjectsNode,hl]
      rfl
  | object m =>
    rw [Json.objectsBelow,←pruneMembers_self_iff hrec m]
    constructor
    · intro h
      obtain ⟨shouldDrop,hshould,hleft⟩ := pruneObject h
      rw [if_neg (by simp),if_neg (by rw [hrec]; decide)] at hleft
      obtain ⟨m',hm',hleft⟩ := hleft
      refine ⟨fun _ heq => ⟨shouldDrop,Json.object.inj heq ▸ hshould⟩,?_⟩
      rw [hm',Json.object.inj (Option.some.inj hleft)]
    · rintro ⟨hroot,hm⟩
      obtain ⟨shouldDrop,hshould⟩ := hroot m rfl
      rw [pruneObjectsNode,hshould]
      simp only [Bool.not_true,Bool.and_false,Bool.false_eq_true,if_false,hrec]
      rw [hm]
      rfl

mutual

/-- Where the walk does not go below objects, what is left is left again. -/
lemma prune_shallow (hrec : options.recursive = false) : ∀ (x : Json) {isRoot : Bool} {y : Json},
    pruneObjectsNode g options context x isRoot = .ok (some y) →
      pruneObjectsNode g options context y isRoot = .ok (some y)
  | .null,_,_,h => by
    cases h
    rfl
  | .bool _,_,_,h => by
    cases h
    rfl
  | .number _ _,_,_,h => by
    cases h
    rfl
  | .string _,_,_,h => by
    cases h
    rfl
  | .array l,_,_,h => by
    obtain ⟨l',hl,hleft⟩ := pruneArray h
    rw [Option.some.inj hleft,pruneObjectsNode,pruneItems_shallow hrec l hl]
    rfl
  | .object m,_,_,h => by
    obtain ⟨shouldDrop,hshould,hleft⟩ := pruneObject h
    split_ifs at hleft with hdrop
    rw [Option.some.inj hleft]
    rw [Option.some.inj hleft] at h
    exact h

lemma pruneItems_shallow (hrec : options.recursive = false) : ∀ (l : List Json) {l' : List Json},
    pruneItems g options context l = .ok l' → pruneItems g options context l' = .ok l'
  | [],_,h => by
    cases h
    rfl
  | a::l,_,h => by
    rw [pruneItems] at h
    cases ha : pruneObjectsNode g options context a false with
    | error e =>
      rw [ha] at h
      cases h
    | ok left =>
      rw [ha] at h
      cases left with
      | none => exact pruneItems_shallow hrec l h
      | some b =>
        obtain ⟨l',hl,rfl⟩ := map_eq_ok h
        rw [pruneItems,prune_shallow hrec a ha]
        dsimp only
        rw [pruneItems_shallow hrec l hl]
        rfl

end

/-! ## Failing -/

mutual

lemma prune_error : ∀ (x : Json) {isRoot : Bool} {e : String}, pruneObjectsNode g options context x isRoot = .error e →
    ∃ o∈x.objects, shouldPruneObject g o options context = .error e
  | .null,_,_,h => by cases h
  | .bool _,_,_,h => by cases h
  | .number _ _,_,_,h => by cases h
  | .string _,_,_,h => by cases h
  | .array l,_,e,h => by
    rw [pruneObjectsNode] at h
    cases hl : pruneItems g options context l with
    | error e' =>
      rw [hl] at h
      exact Except.error.inj h ▸ pruneItems_error l hl
    | ok l' =>
      rw [hl] at h
      cases h
  | .object m,_,e,h => by
    rw [pruneObjectsNode] at h
    cases hshould : shouldPruneObject g m options context with
    | error e' =>
      rw [hshould] at h
      exact ⟨m,List.mem_cons_self,Except.error.inj h ▸ hshould⟩
    | ok shouldDrop =>
      simp only [hshould] at h
      split_ifs at h
      cases hm : pruneMembers g options context m with
      | error e' =>
        rw [hm] at h
        obtain ⟨o,ho,ho'⟩ := pruneMembers_error m hm
        exact ⟨o,List.mem_cons_of_mem _ ho,Except.error.inj h ▸ ho'⟩
      | ok m' =>
        rw [hm] at h
        cases h

lemma pruneItems_error : ∀ (l : List Json) {e : String}, pruneItems g options context l = .error e →
    ∃ o∈Json.objectsOfItems l, shouldPruneObject g o options context = .error e
  | [],_,h => by cases h
  | a::l,e,h => by
    rw [pruneItems] at h
    have hrest : ∀ {e'}, pruneItems g options context l = .error e' →
        ∃ o∈Json.objectsOfItems (a::l), shouldPruneObject g o options context = .error e' := by
      intro e' hl
      obtain ⟨o,ho,ho'⟩ := pruneItems_error l hl
      exact ⟨o,List.mem_append_right _ ho,ho'⟩
    cases ha : pruneObjectsNode g options context a false with
    | error e' =>
      rw [ha] at h
      obtain ⟨o,ho,ho'⟩ := prune_error a ha
      exact ⟨o,List.mem_append_left _ ho,Except.error.inj h ▸ ho'⟩
    | ok left =>
      rw [ha] at h
      cases left with
      | none => exact hrest h
      | some b =>
        cases hl : pruneItems g options context l with
        | error e' =>
          rw [hl] at h
          exact Except.error.inj h ▸ hrest hl
        | ok l' =>
          rw [hl] at h
          cases h

lemma pruneMembers_error : ∀ (l : Json.Members) {e : String}, pruneMembers g options context l = .error e →
    ∃ o∈Json.objectsOfMembers l, shouldPruneObject g o options context = .error e
  | [],_,h => by cases h
  | (k,a)::l,e,h => by
    rw [pruneMembers] at h
    have hrest : ∀ {e'}, pruneMembers g options context l = .error e' →
        ∃ o∈Json.objectsOfMembers ((k,a)::l), shouldPruneObject g o options context = .error e' := by
      intro e' hl
      obtain ⟨o,ho,ho'⟩ := pruneMembers_error l hl
      exact ⟨o,List.mem_append_right _ ho,ho'⟩
    cases ha : pruneObjectsNode g options context a false with
    | error e' =>
      rw [ha] at h
      obtain ⟨o,ho,ho'⟩ := prune_error a ha
      exact ⟨o,List.mem_append_left _ ho,Except.error.inj h ▸ ho'⟩
    | ok left =>
      rw [ha] at h
      cases left with
      | none => exact hrest h
      | some b =>
        cases hl : pruneMembers g options context l with
        | error e' =>
          rw [hl] at h
          exact Except.error.inj h ▸ hrest hl
        | ok l' =>
          rw [hl] at h
          cases h

end

end Results

/-! ## Pruning is exact as far as objects are judged as they stand -/

section Exact
variable (g : Gjson) (options : PruneObjectsOptions) (context : Option Json)

/-- What is left satisfies the condition nowhere below the root, nothing else is gone, and it is left again. -/
structure Exact (x y : Json) : Prop where
  clean : options.recursive = true → ∀ o∈y.objectsBelow, ¬Satisfies g options context o
  sifted : Json.Sifted (Satisfies g options context) options.recursive x y
  again : pruneObjectsNode g options context y true = .ok (some y)

/-- Exactly the objects are gone that satisfy the condition as they stand in the request. What is left is left again
unless an object satisfies the condition only after its content was pruned, or cannot be judged any more. -/
structure Judged (x y : Json) : Prop where
  sifted : Json.Sifted (Satisfies g options context) options.recursive x y
  again : pruneObjectsNode g options context y true = .ok (some y) ↔ (options.recursive = true →
    RootJudged g options context y ∧ ∀ o∈y.objectsBelow, Spared g options context o)

end Exact

/-! ## An object that is emptied -/

section Sample

/-- Keys, positions, and the number of elements of an array. -/
def gjson : Gjson where
  get d path :=
    match (Text.split path '.').reverse with
    | "#"::before =>
      match d.get before.reverse with
      | some (.array l) => some (.number (Text.printNat l.length) l.length)
      | _ => none
    | _ => if path = "" then none else d.get (Text.split path '.')
  string
    | .null => ""
    | .number text _ => text
    | .string s => s
    | d => String.ofList d.text

/-- Objects without content. -/
def emptyContent : PruneObjectsOptions := ⟨[⟨"content.#","full",.number "0" 0,false,false⟩],"AND",true⟩

def emptyPart : Json.Members := [("content",.array [])]

/-- A message whose only part has no content. -/
def message : Json.Members := [("content",.array [.object emptyPart])]

def nested : Json := .object [("m",.object message)]

lemma prune_nested : pruneObjectsNode gjson emptyContent none nested true =
    .ok (some (.object [("m",.object emptyPart)])) := by
  have hroot : shouldPruneObject gjson [("m",.object message)] emptyContent none = .ok false := by decide +kernel
  have hmessage : shouldPruneObject gjson message emptyContent none = .ok false := by decide +kernel
  have hpart : shouldPruneObject gjson emptyPart emptyContent none = .ok true := by decide +kernel
  have hitems : pruneItems gjson emptyContent none [.object emptyPart] = .ok [] := by
    rw [pruneItems,pruneObjectsNode,hpart]
    rfl
  have hmember : pruneObjectsNode gjson emptyContent none (.object message) false = .ok (some (.object emptyPart)) := by
    rw [pruneObjectsNode,hmessage]
    unfold message
    simp only [pruneMembers,pruneObjectsNode,hitems]
    rfl
  unfold nested
  rw [pruneObjectsNode,hroot]
  simp only [pruneMembers,hmember]
  rfl

end Sample

end PruneObjects
end Relay
end Tierflow
