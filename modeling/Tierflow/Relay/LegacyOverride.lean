import Mathlib
import Tierflow.Foundation.JsonTree
import Tierflow.Foundation.Keyed

/-! The legacy override of a request. Every key of the override is escaped and handed to a library that reads it as a
path; the code means each of them to be a key of the request itself. -/
namespace Tierflow
namespace Relay
namespace LegacyOverride

/-! ## Paths of the library -/

/-- A path as it is spelled: characters with a mark for those that have a backslash in front. -/
abbrev Spelling := List (Char × Bool)

def spell (l : Spelling) : String := String.ofList (l.flatMap (fun p => if p.2 then ['\\',p.1] else [p.1]))

def spelled (l : Spelling) : String := String.ofList (l.map Prod.fst)

/-- Characters that lead to queries, pipes and modifiers. -/
def complexChars : List Char := ['|','#','@']

/-- Characters that a path does not take for themselves. -/
def pathChars : List Char := ['.','*','?','\\']++complexChars

/-- Characters that a path does not take for themselves where it begins. -/
def startChars : List Char := [':','!','[','\x7b']

/-- Nothing in the path stands for anything but itself. -/
structure Plain (l : Spelling) : Prop where
  nonempty : l≠[]
  chars : ∀ p∈l, p.2 = false → p.1∉pathChars
  start : ∀ p∈l.head?, p.2 = false → p.1∉startChars

/-- The library that sets a value of an object, as far as its paths are documented. -/
structure Sjson where
  setBytes : Json.Members → String → Json → Except String Json.Members
  /-- A plain path is a key. -/
  set_plain : ∀ body l v, Plain l → setBytes body (spell l) v = .ok (Json.assign body (spelled l) v)
  /-- One step of a path writes one key. -/
  set_step : ∀ body l v body', (∀ p∈l, p.2 = false → p.1∉pathChars) → l.head?≠some (':',false) →
    setBytes body (spell l) v = .ok body' → ∀ k∈body'.map Prod.fst, k∈body.map Prod.fst ∨ k = spelled l
  /-- A colon in front says that the rest is a key, and is no part of it. -/
  set_forced : ∀ body l v body', (∀ p∈l, p.2 = false → p.1∉pathChars) → setBytes body (":"++spell l) v = .ok body' →
    ∀ k∈body'.map Prod.fst, k∈body.map Prod.fst ∨ k = spelled l
  /-- A query sets what it finds. -/
  set_complex : ∀ body l v body', (∀ p∈l, p.2 = false → p.1≠ '\\') → (∃ p∈l, p.2 = false ∧ p.1∈complexChars) →
    setBytes body (spell l) v = .ok body' → body'.map Prod.fst = body.map Prod.fst
  set_empty : ∀ body v, ∃ e, setBytes body "" v = .error e

/-! ## The override -/

/-- The characters that get a backslash. -/
def escapedChars : List Char := ['.','*','?','\\']

def escapeSjsonLiteralKey (key : String) : String :=
  if key.toList.any (fun c => c∈escapedChars) then
    String.ofList (key.toList.flatMap (fun c => if c∈escapedChars then ['\\',c] else [c]))
  else key

/-- The members of the override are gone over in any order. -/
def applyOperationsLegacy (sjson : Sjson) (jsonData : Json.Members) (order : List (String × Json)) :
    Except String Json.Members :=
  order.foldlM (fun result r => sjson.setBytes result (escapeSjsonLiteralKey r.1) r.2) jsonData

/-- Each key of the override has its value, and every other key keeps its own. -/
def Assigns (sjson : Sjson) (jsonData : Json.Members) (order : List (String × Json)) : Prop :=
  ∃ result, applyOperationsLegacy sjson jsonData order = .ok result ∧
    ∀ k, result.lookup k = (order.lookup k).or (jsonData.lookup k)

/-- The override is a map assignment for every request and in every order. -/
def Assignment (sjson : Sjson) (paramOverride : Keyed String Json) : Prop :=
  ∀ jsonData order, order.Perm paramOverride.rows → Assigns sjson jsonData order

/-! ## Escaped keys -/

def spellingOf (key : String) : Spelling := key.toList.map (fun c => (c,decide (c∈escapedChars)))

lemma spelled_spellingOf (key : String) : spelled (spellingOf key) = key := by
  unfold spelled spellingOf
  rw [List.map_map]
  have hfst : (Prod.fst∘fun c => (c,decide (c∈escapedChars))) = (id : Char → Char) := rfl
  rw [hfst,List.map_id,String.ofList_toList]

lemma escape_eq_spell (key : String) : escapeSjsonLiteralKey key = spell (spellingOf key) := by
  have hchars : spell (spellingOf key) =
      String.ofList (key.toList.flatMap (fun c => if c∈escapedChars then ['\\',c] else [c])) := by
    unfold spell spellingOf
    rw [List.flatMap_map]
    refine congrArg String.ofList (congrArg (fun f => List.flatMap f key.toList) ?_)
    funext c
    by_cases hc : c∈escapedChars
    · rw [if_pos hc,decide_eq_true hc]
      rfl
    · rw [if_neg hc,decide_eq_false hc]
      rfl
  unfold escapeSjsonLiteralKey
  split_ifs with h
  · exact hchars.symm
  · rw [hchars]
    have hnone : ∀ c∈key.toList, (if c∈escapedChars then ['\\',c] else [c]) = [c] := by
      intro c hc
      rw [if_neg (fun hmem => h (List.any_eq_true.mpr ⟨c,hc,decide_eq_true hmem⟩))]
    rw [List.flatMap_congr hnone,List.flatMap_singleton',String.ofList_toList]

/-- A key in which no character is taken for more than itself. -/
structure Safe (key : String) : Prop where
  nonempty : key≠""
  noColon : key.toList.head?≠some ':'
  chars : ∀ c∈key.toList, c∉complexChars

/-- A safe key that is not taken for a literal or a list of paths either. -/
structure Literal (key : String) : Prop extends Safe key where
  start : ∀ c∈key.toList.head?, c∉startChars

lemma unescaped_of_mem {key : String} {p : Char × Bool} (hp : p∈spellingOf key) (hfalse : p.2 = false) :
    p.1∈key.toList ∧ p.1∉escapedChars := by
  obtain ⟨c,hc,rfl⟩ := List.mem_map.mp hp
  exact ⟨hc,of_decide_eq_false hfalse⟩

lemma unescaped_chars {key : String} (h : ∀ c∈key.toList, c∉complexChars) {p : Char × Bool} (hp : p∈spellingOf key)
    (hfalse : p.2 = false) : p.1∉pathChars := by
  obtain ⟨hmem,hescaped⟩ := unescaped_of_mem hp hfalse
  intro hpath
  rcases List.mem_append.mp hpath with hpath | hpath
  · exact hescaped hpath
  · exact h _ hmem hpath

lemma Literal.plain {key : String} (h : Literal key) : Plain (spellingOf key) where
  nonempty hnil := h.nonempty (String.toList_eq_nil_iff.mp (List.map_eq_nil_iff.mp hnil))
  chars _ hp hfalse := unescaped_chars h.chars hp hfalse
  start p hp _ := by
    unfold spellingOf at hp
    rw [List.head?_map] at hp
    obtain ⟨c,hc,rfl⟩ := Option.map_eq_some_iff.mp hp
    exact h.start c hc

lemma set_of_literal {sjson : Sjson} {key : String} (h : Literal key) (body : Json.Members) (v : Json) :
    sjson.setBytes body (escapeSjsonLiteralKey key) v = .ok (Json.assign body key v) := by
  rw [escape_eq_spell,sjson.set_plain _ _ _ h.plain,spelled_spellingOf]

/-! ## What is written -/

/-- The key that is written for a key of the override. -/
def written (key : String) : Option String :=
  if ∃ c∈key.toList, c∈complexChars then none
  else
    match key.toList with
    | ':'::l => some (String.ofList l)
    | _ => some key

section Keys
variable {sjson : Sjson}

lemma keys_set {key : String} {body body' : Json.Members} {v : Json}
    (h : sjson.setBytes body (escapeSjsonLiteralKey key) v = .ok body') :
    ∀ k∈body'.map Prod.fst, k∈body.map Prod.fst ∨ written key = some k := by
  intro k hk
  rw [escape_eq_spell] at h
  unfold written
  by_cases hcomplex : ∃ c∈key.toList, c∈complexChars
  · obtain ⟨c,hc,hc'⟩ := hcomplex
    have hunescaped : c∉escapedChars := by
      intro hescaped
      simp only [complexChars,List.mem_cons,List.not_mem_nil,or_false] at hc'
      rcases hc' with rfl | rfl | rfl <;> exact absurd hescaped (by decide)
    left
    rw [sjson.set_complex body (spellingOf key) v body' ?_ ?_ h] at hk
    · exact hk
    · intro p hp hfalse heq
      exact (unescaped_of_mem hp hfalse).2 (heq ▸ by decide)
    · exact ⟨(c,decide (c∈escapedChars)),List.mem_map_of_mem hc,decide_eq_false hunescaped,hc'⟩
  · rw [if_neg hcomplex]
    have hsimple : ∀ c∈key.toList, c∉complexChars := fun c hc hc' => hcomplex ⟨c,hc,hc'⟩
    have hplain : ∀ p∈spellingOf key, p.2 = false → p.1∉pathChars := fun p hp => unescaped_chars hsimple hp
    by_cases hcolon : ∃ l, key.toList = ':'::l
    · obtain ⟨l,hl⟩ := hcolon
      have hrest : spellingOf key = (':',false)::spellingOf (String.ofList l) := by
        unfold spellingOf
        rw [hl,List.map_cons,String.toList_ofList]
        rfl
      have hspell : spell (spellingOf key) = ":"++spell (spellingOf (String.ofList l)) := by
        rw [hrest]
        unfold spell
        rw [List.flatMap_cons,String.ofList_append]
        rfl
      rw [hspell] at h
      rw [hrest] at hplain
      rw [hl]
      refine (sjson.set_forced body _ v body' (fun p hp => hplain p (List.mem_cons_of_mem _ hp)) h k hk).imp_right ?_
      exact fun hkey => congrArg some (hkey.trans (spelled_spellingOf _)).symm
    · have hhead : (spellingOf key).head?≠some (':',false) := by
        unfold spellingOf
        rw [List.head?_map]
        intro hhead
        obtain ⟨c,hc,hpair⟩ := Option.map_eq_some_iff.mp hhead
        obtain ⟨l,hl⟩ := List.head?_eq_some_iff.mp hc
        exact hcolon ⟨l,by rw [hl,(Prod.mk.inj hpair).1]⟩
      have hself : (match key.toList with
          | ':'::l => some (String.ofList l)
          | _ => some key) = some key := by
        split
        · rename_i l hl
          exact absurd ⟨l,hl⟩ hcolon
        · rfl
      rw [hself]
      refine (sjson.set_step body _ v body' hplain hhead h k hk).imp_right ?_
      intro hkey
      rw [hkey,spelled_spellingOf]

/-- A run that returns has set every key, and has no other keys than it has written. -/
lemma keys_apply {order : List (String × Json)} {body result : Json.Members}
    (h : applyOperationsLegacy sjson body order = .ok result) :
    (∀ r∈order, r.1≠"") ∧
      ∀ k∈result.map Prod.fst, k∈body.map Prod.fst ∨ ∃ r∈order, written r.1 = some k := by
  unfold applyOperationsLegacy at h
  induction order generalizing body with
  | nil =>
    cases h
    exact ⟨fun r hr => absurd hr List.not_mem_nil,fun k hk => Or.inl hk⟩
  | cons r order ih =>
    rw [List.foldlM_cons] at h
    cases hset : sjson.setBytes body (escapeSjsonLiteralKey r.1) r.2 with
    | error e =>
      rw [hset] at h
      cases h
    | ok next =>
      rw [hset] at h
      obtain ⟨hnonempty,hkeys⟩ := ih h
      constructor
      · intro s hs
        rcases List.mem_cons.mp hs with rfl | hs
        · intro hempty
          obtain ⟨e,he⟩ := sjson.set_empty body s.2
          rw [hempty] at hset
          cases he.symm.trans hset
        · exact hnonempty s hs
      · intro k hk
        rcases hkeys k hk with hk | ⟨s,hs,hk⟩
        · exact (keys_set hset k hk).imp_right (fun hw => ⟨r,List.mem_cons_self,hw⟩)
        · exact Or.inr ⟨s,List.mem_cons_of_mem _ hs,hk⟩

end Keys

/-- A key that is not safe is written for a longer one only, which is not safe either. -/
lemma written_of_not_safe {key k : String} (hkey : key≠"") (hk : ¬Safe k) (h : written key = some k) :
    ¬Safe key ∧ k.length<key.length := by
  unfold written at h
  split_ifs at h with hcomplex
  have hsimple : ∀ c∈key.toList, c∉complexChars := fun c hc hc' => hcomplex ⟨c,hc,hc'⟩
  split at h
  · rename_i l hl
    have hlength : k.length<key.length := by
      rw [←Option.some.inj h,String.length_ofList,←String.length_toList,hl,List.length_cons]
      exact Nat.lt_succ_self _
    refine ⟨fun hsafe => hsafe.noColon ?_,hlength⟩
    rw [hl]
    rfl
  · rename_i hcolon
    refine absurd ⟨hkey,fun hhead => ?_,hsimple⟩ ((Option.some.inj h).symm ▸ hk)
    obtain ⟨l,hl⟩ := List.head?_eq_some_iff.mp hhead
    exact hcolon l hl

/-! ## When the override is a map assignment -/

lemma apply_of_literal {sjson : Sjson} {order : List (String × Json)} (h : ∀ r∈order, Literal r.1)
    (body : Json.Members) :
    applyOperationsLegacy sjson body order = .ok (order.foldl (fun b r => Json.assign b r.1 r.2) body) := by
  unfold applyOperationsLegacy
  induction order generalizing body with
  | nil => rfl
  | cons r order ih =>
    rw [List.foldlM_cons,set_of_literal (h r List.mem_cons_self)]
    exact ih (fun s hs => h s (List.mem_cons_of_mem _ hs)) _

lemma lookup_foldl_assign {order : List (String × Json)} (h : (order.map Prod.fst).Nodup) (body : Json.Members)
    (k : String) : (order.foldl (fun b r => Json.assign b r.1 r.2) body).lookup k =
      (order.lookup k).or (body.lookup k) := by
  induction order generalizing body with
  | nil => rfl
  | cons r order ih =>
    obtain ⟨hr,horder⟩ := List.nodup_cons.mp h
    rw [List.foldl_cons,ih horder,Json.lookup_assign,List.lookup_cons]
    by_cases hk : k = r.1
    · rw [if_pos hk,hk,beq_self_eq_true,Keyed.lookup_eq_none_iff.mpr hr]
      rfl
    · rw [if_neg hk,beq_false_of_ne hk]

section Sample

/-- The key that a path of one step names; other paths are left alone. -/
def readStep : List Char → Option (List Char)
  | [] => some []
  | '\\'::l =>
    match l with
    | [] => some []
    | c::l => (readStep l).map (fun k => c::k)
  | c::l => if c∈pathChars then none else (readStep l).map (fun k => c::k)

def setStep (body : Json.Members) (v : Json) (l : List Char) : Json.Members :=
  match readStep l with
  | none => body
  | some k => Json.assign body (String.ofList k) v

def chars (l : Spelling) : List Char := l.flatMap (fun p => if p.2 then ['\\',p.1] else [p.1])

lemma chars_cons (c : Char) (escaped : Bool) (l : Spelling) :
    chars ((c,escaped)::l) = if escaped then '\\'::c::chars l else c::chars l := by
  cases escaped <;> rfl

lemma readStep_of_ne {c : Char} (hc : c≠ '\\') (l : List Char) :
    readStep (c::l) = if c∈pathChars then none else (readStep l).map (fun k => c::k) := by
  rw [readStep.eq_def]
  split
  · contradiction
  · rename_i h
    exact absurd (List.cons.inj h).1 hc
  · rename_i h
    obtain ⟨rfl,rfl⟩ := List.cons.inj h
    rfl

lemma readStep_chars {l : Spelling} (h : ∀ p∈l, p.2 = false → p.1∉pathChars) :
    readStep (chars l) = some (l.map Prod.fst) := by
  induction l with
  | nil => rfl
  | cons p l ih =>
    obtain ⟨c,escaped⟩ := p
    have hrest := ih (fun p hp => h p (List.mem_cons_of_mem _ hp))
    rw [chars_cons]
    cases escaped with
    | true => exact congrArg (Option.map _) hrest
    | false =>
      have hc : c∉pathChars := h _ List.mem_cons_self rfl
      have hslash : c≠ '\\' := by
        rintro rfl
        exact hc (by decide)
      rw [if_neg (by decide),readStep_of_ne hslash,if_neg hc,hrest]
      rfl

lemma readStep_complex {l : Spelling} (h : ∀ p∈l, p.2 = false → p.1≠ '\\')
    (hcomplex : ∃ p∈l, p.2 = false ∧ p.1∈complexChars) : readStep (chars l) = none := by
  induction l with
  | nil =>
    obtain ⟨p,hp,-⟩ := hcomplex
    exact absurd hp List.not_mem_nil
  | cons p l ih =>
    obtain ⟨c,escaped⟩ := p
    have hrest : (∃ p∈l, p.2 = false ∧ p.1∈complexChars) → readStep (chars l) = none :=
      ih (fun p hp => h p (List.mem_cons_of_mem _ hp))
    obtain ⟨q,hq,hfalse,hq'⟩ := hcomplex
    rw [chars_cons]
    cases escaped with
    | true =>
      rcases List.mem_cons.mp hq with rfl | hq
      · cases hfalse
      · exact congrArg (Option.map _) (hrest ⟨q,hq,hfalse,hq'⟩)
    | false =>
      rw [if_neg (by decide),readStep_of_ne (h _ List.mem_cons_self rfl)]
      split_ifs with hc
      · rfl
      · rcases List.mem_cons.mp hq with rfl | hq
        · exact absurd (List.mem_append_right _ hq') hc
        · rw [hrest ⟨q,hq,hfalse,hq'⟩]
          rfl

lemma keys_assign (m : Json.Members) (k : String) (v : Json) :
    ∀ j∈(Json.assign m k v).map Prod.fst, j∈m.map Prod.fst ∨ j = k := by
  intro j hj
  by_contra hne
  obtain ⟨hold,hnew⟩ := not_or.mp hne
  have hnone := Json.lookup_assign m k v j
  rw [if_neg hnew,Keyed.lookup_eq_none_iff.mpr hold] at hnone
  exact Keyed.lookup_eq_none_iff.mp hnone hj

lemma keys_setStep {l : Spelling} (h : ∀ p∈l, p.2 = false → p.1∉pathChars) (body : Json.Members) (v : Json) :
    ∀ k∈(setStep body v (chars l)).map Prod.fst, k∈body.map Prod.fst ∨ k = spelled l := by
  unfold setStep
  rw [readStep_chars h]
  exact keys_assign body _ v

/-- A library that sets keys and leaves alone what it takes for a query. -/
def setChars (body : Json.Members) (v : Json) : List Char → Except String Json.Members
  | [] => .error "path cannot be empty"
  | ':'::l => .ok (setStep body v l)
  | c::l => .ok (setStep body v (c::l))

def setKeys (body : Json.Members) (path : String) (v : Json) : Except String Json.Members :=
  setChars body v path.toList

lemma setChars_of_ne {c : Char} (hc : c≠ ':') (body : Json.Members) (v : Json) (l : List Char) :
    setChars body v (c::l) = .ok (setStep body v (c::l)) := by
  rw [setChars.eq_def]
  split
  · contradiction
  · rename_i h
    exact absurd (List.cons.inj h).1 hc
  · rename_i h
    rw [h]

lemma setKeys_spell {l : Spelling} (hl : l≠[]) (hhead : l.head?≠some (':',false)) (body : Json.Members) (v : Json) :
    setKeys body (spell l) v = .ok (setStep body v (chars l)) := by
  have hpath : (spell l).toList = chars l := String.toList_ofList
  unfold setKeys
  rw [hpath]
  cases l with
  | nil => exact absurd rfl hl
  | cons p l =>
    obtain ⟨c,escaped⟩ := p
    rw [chars_cons]
    cases escaped with
    | true => exact setChars_of_ne (by decide) body v (c::chars l)
    | false =>
      have hc : c≠ ':' := fun heq => hhead (by rw [heq]; rfl)
      exact setChars_of_ne hc body v (chars l)

lemma setKeys_colon (l : Spelling) (body : Json.Members) (v : Json) :
    setKeys body (":"++spell l) v = .ok (setStep body v (chars l)) := by
  have hpath : (":"++spell l).toList = ':'::chars l := by
    rw [String.toList_append]
    exact congrArg (fun k => ':'::k) String.toList_ofList
  unfold setKeys
  rw [hpath,setChars]

def stepSjson : Sjson where
  setBytes := setKeys
  set_plain body l v h := by
    have hhead : l.head?≠some (':',false) := fun hhead => h.start _ hhead rfl (by decide)
    rw [setKeys_spell h.nonempty hhead,setStep,readStep_chars h.chars]
    rfl
  set_step body l v body' h hhead hset := by
    by_cases hl : l = []
    · rw [hl] at hset
      cases hset
    · rw [setKeys_spell hl hhead] at hset
      rw [←Except.ok.inj hset]
      exact keys_setStep h body v
  set_forced body l v body' h hset := by
    rw [setKeys_colon] at hset
    rw [←Except.ok.inj hset]
    exact keys_setStep h body v
  set_complex body l v body' h hcomplex hset := by
    have hl : l≠[] := by
      rintro rfl
      obtain ⟨p,hp,-⟩ := hcomplex
      exact absurd hp List.not_mem_nil
    by_cases hhead : l.head? = some (':',false)
    · obtain ⟨rest,rfl⟩ := List.head?_eq_some_iff.mp hhead
      have hrest : ∃ p∈rest, p.2 = false ∧ p.1∈complexChars := by
        obtain ⟨p,hp,hfalse,hp'⟩ := hcomplex
        rcases List.mem_cons.mp hp with rfl | hp
        · exact absurd hp' (by decide)
        · exact ⟨p,hp,hfalse,hp'⟩
      have hcolon : spell ((':',false)::rest) = ":"++spell rest := by
        unfold spell
        rw [List.flatMap_cons,String.ofList_append]
        rfl
      rw [hcolon,setKeys_colon,setStep,readStep_complex (fun p hp => h p (List.mem_cons_of_mem _ hp)) hrest] at hset
      rw [←Except.ok.inj hset]
    · rw [setKeys_spell hl hhead,setStep,readStep_complex h hcomplex] at hset
      rw [←Except.ok.inj hset]
  set_empty _ _ := ⟨_,rfl⟩

end Sample

end LegacyOverride
end Relay
end Tierflow
