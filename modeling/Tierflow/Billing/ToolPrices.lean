import Mathlib.Data.List.Sort
import Tierflow.Foundation.Keyed
import Tierflow.Foundation.Text

/-! The price of a tool call. Prices are kept under the name of a tool, alone or with a prefix of model names; an
index lists the prefixes of each tool with the long ones first. The rows of a map come in any order, and sorting may
leave prefixes of one length in any order. -/
namespace Tierflow
namespace Billing
namespace ToolPrices
open Text

abbrev Prices : Type := Keyed String ℚ

def defaultToolPrices : List (String × ℚ) :=
  [("web_search",10),("web_search_preview",10),("file_search",5/2),("google_search",14)]

def defaultToolPriceOverrides : List (String × ℚ) :=
  [("web_search_preview:gpt-4o*",25),("web_search_preview:gpt-4.1*",25),("web_search_preview:gpt-4o-mini*",25),
    ("web_search_preview:gpt-4.1-mini*",25)]

/-- The rows of a map are written over what is there. -/
def copyInto (t : Prices) (rows : List (String × ℚ)) : Prices := rows.foldl (fun t r => t.put r.1 r.2) t

/-- The prices in force, from those that are saved. -/
def merged (saved : Prices) : Prices :=
  copyInto (copyInto (copyInto .empty defaultToolPrices) defaultToolPriceOverrides) saved.rows

lemma find?_copyInto {rows : List (String × ℚ)} (h : (rows.map Prod.fst).Nodup) (t : Prices) (key : String) :
    (copyInto t rows).find? key = (rows.lookup key).or (t.find? key) := by
  induction rows generalizing t with
  | nil => rfl
  | cons r rows ih =>
    obtain ⟨hr,hrows⟩ := List.nodup_cons.mp h
    change (copyInto (t.put r.1 r.2) rows).find? key = _
    rw [ih hrows,Keyed.find?_put,List.lookup_cons]
    by_cases hkey : key = r.1
    · have hnone : rows.lookup key = none := Keyed.lookup_eq_none_iff.mpr (hkey ▸ hr)
      rw [hnone,hkey,beq_self_eq_true]
      rfl
    · rw [beq_false_of_ne hkey]
      rfl

/-- A saved price stands before the prices that come with the program. -/
theorem find?_merged (saved : Prices) (key : String) : (merged saved).find? key =
    (saved.find? key).or ((defaultToolPriceOverrides.lookup key).or (defaultToolPrices.lookup key)) := by
  rw [merged,find?_copyInto saved.nodup,find?_copyInto (by decide),find?_copyInto (by decide),Keyed.find?_empty,
    Option.or_none]
  rfl

/-! ## The index -/

structure PrefixEntry where
  modelPrefix : String
  price : ℚ
deriving Repr, DecidableEq

/-- A tool without prefixes reads as an empty list. -/
structure ToolPriceIndex where
  defaults : String → Option ℚ
  prefixes : String → List PrefixEntry

def cutColon : List Char → Option (List Char × List Char)
  | [] => none
  | c::l => if c = ':' then some ([],l) else (cutColon l).map (fun p => (c::p.1,p.2))

/-- What stands before the first colon of a key and what stands behind it. -/
def cutKey (key : String) : Option (String × String) :=
  (cutColon key.toList).map (fun p => (String.ofList p.1,String.ofList p.2))

def trimSuffix (s p : String) : String := (cutSuffix s p).getD s

def addKey (idx : ToolPriceIndex) (r : String × ℚ) : ToolPriceIndex :=
  match cutKey r.1 with
  | none => { idx with defaults := Function.update idx.defaults r.1 (some r.2) }
  | some (toolName,modelPart) =>
    { idx with
      prefixes := Function.update idx.prefixes toolName
        (idx.prefixes toolName++[⟨trimSuffix modelPart "*",r.2⟩]) }

/-- One way in which the index of a map can come to be. -/
structure Build (prices : Prices) where
  order : List (String × ℚ)
  order_perm : order.Perm prices.rows
  sort : List PrefixEntry → List PrefixEntry
  sort_perm : ∀ l, (sort l).Perm l
  descending : ∀ l, (sort l).Pairwise (fun e e' => e'.modelPrefix.utf8ByteSize≤e.modelPrefix.utf8ByteSize)

def rebuildToolPriceIndex {prices : Prices} (b : Build prices) : ToolPriceIndex :=
  let idx := b.order.foldl addKey ⟨fun _ => none,fun _ => []⟩
  { idx with prefixes := fun tool => b.sort (idx.prefixes tool) }

/-- An index is there from the start. -/
def getToolPriceForModel (idx : ToolPriceIndex) (toolName modelName : String) : ℚ :=
  match if modelName≠"" then (idx.prefixes toolName).find? (fun e => hasPrefix modelName e.modelPrefix) else none with
  | some e => e.price
  | none => (idx.defaults toolName).getD 0

/-! ## What the keys stand for -/

section Meaning
variable (prices : Prices) (tool model : String)

/-- A key names the tool and, maybe with a star, the prefix. -/
def Configured (modelPrefix : String) (price : ℚ) : Prop :=
  ∃ modelPart, prices.find? (tool++":"++modelPart) = some price ∧ ':'∉tool.toList ∧
    trimSuffix modelPart "*" = modelPrefix

def Longest (modelPrefix : String) (price : ℚ) : Prop :=
  Configured prices tool modelPrefix price ∧ hasPrefix model modelPrefix ∧
    ∀ p q, Configured prices tool p q → hasPrefix model p → p.length ≤ modelPrefix.length

/-- A key with a colon is not the name of a tool. -/
def defaultPrice : Option ℚ := if ':'∈tool.toList then none else prices.find? tool

/-- The price of an entry with the longest prefix, else the default, else zero. -/
def IsPrice (price : ℚ) : Prop :=
  (∃ p, Longest prices tool model p price) ∨
    (∀ p q, Configured prices tool p q → hasPrefix model p = false) ∧ price = (defaultPrice prices tool).getD 0

/-- Every index of the map gives the price, and all give the same. -/
def Exact : Prop :=
  (∀ b : Build prices, IsPrice prices tool model (getToolPriceForModel (rebuildToolPriceIndex b) tool model)) ∧
    ∀ b b' : Build prices, getToolPriceForModel (rebuildToolPriceIndex b) tool model =
      getToolPriceForModel (rebuildToolPriceIndex b') tool model

/-- The entries with the longest prefix have one price. Where no model is named, an entry for every model has the
default price. -/
def Unambiguous : Prop :=
  (model≠"" → ∀ p q q', Longest prices tool model p q → Longest prices tool model p q' → q = q') ∧
    (model = "" → (∃ q, Configured prices tool "" q) →
      Configured prices tool "" ((defaultPrice prices tool).getD 0))

end Meaning

/-! ## Keys and texts -/

lemma cutColon_eq_none_iff {l : List Char} : cutColon l = none ↔ ':'∉l := by
  induction l with
  | nil => simp [cutColon]
  | cons c l ih =>
    by_cases hc : c = ':'
    · simp [cutColon,hc]
    · simp [cutColon,hc,ih,Ne.symm hc]

lemma cutColon_eq_some_iff {l a b : List Char} : cutColon l = some (a,b) ↔ l = a++ ':'::b ∧ ':'∉a := by
  induction l generalizing a with
  | nil => simp [cutColon]
  | cons c l ih =>
    by_cases hc : c = ':'
    · subst hc
      cases a with
      | nil => simp [cutColon]
      | cons x a =>
        simp only [cutColon,if_true,Option.some.injEq,Prod.mk.injEq,reduceCtorEq,false_and,List.cons_append,
          List.cons.injEq,List.mem_cons,false_iff]
        rintro ⟨⟨rfl,-⟩,h⟩
        exact h (.inl rfl)
    · cases a with
      | nil => simp [cutColon,hc]
      | cons x a =>
        simp only [cutColon,hc,if_false,Option.map_eq_some_iff,Prod.exists,Prod.mk.injEq,List.cons_append,
          List.cons.injEq,List.mem_cons,not_or]
        constructor
        · rintro ⟨a',b',h,⟨rfl,rfl⟩,rfl⟩
          obtain ⟨rfl,ha⟩ := ih.mp h
          exact ⟨⟨rfl,rfl⟩,Ne.symm hc,ha⟩
        · rintro ⟨⟨rfl,rfl⟩,-,ha⟩
          exact ⟨a,b,ih.mpr ⟨rfl,ha⟩,⟨rfl,rfl⟩,rfl⟩

lemma cutKey_eq_none_iff {key : String} : cutKey key = none ↔ ':'∉key.toList := by
  rw [cutKey,Option.map_eq_none_iff,cutColon_eq_none_iff]

lemma cutKey_eq_some_iff {key tool part : String} :
    cutKey key = some (tool,part) ↔ key = tool++":"++part ∧ ':'∉tool.toList := by
  simp only [cutKey,Option.map_eq_some_iff,Prod.exists,Prod.mk.injEq]
  constructor
  · rintro ⟨a,b,h,rfl,rfl⟩
    obtain ⟨hkey,ha⟩ := cutColon_eq_some_iff.mp h
    refine ⟨String.toList_inj.mp ?_,by simpa using ha⟩
    simp [hkey]
  · rintro ⟨rfl,h⟩
    exact ⟨tool.toList,part.toList,cutColon_eq_some_iff.mpr ⟨by simp,h⟩,by simp,by simp⟩

/-- Of two beginnings of one text, the longer has more bytes. -/
lemma length_le_of_size_le {model p q : String} (hp : hasPrefix model p) (hq : hasPrefix model q)
    (h : q.utf8ByteSize≤p.utf8ByteSize) : q.length≤p.length := by
  obtain ⟨r,hr⟩ := hasPrefix_iff.mp hp
  obtain ⟨s,hs⟩ := hasPrefix_iff.mp hq
  have hlists : p.toList++r.toList = q.toList++s.toList := by
    rw [←String.toList_append,←String.toList_append,←hr,←hs]
  rcases List.append_eq_append_iff.mp hlists with ⟨t,hqt,-⟩ | ⟨t,hpt,-⟩
  · have hq : q = p++String.ofList t := String.toList_inj.mp (by simpa using hqt)
    rw [hq,String.utf8ByteSize_append] at h
    have ht : String.ofList t = "" := String.utf8ByteSize_eq_zero_iff.mp (by omega)
    rw [hq,ht,String.append_empty]
  · have hp : p = q++String.ofList t := String.toList_inj.mp (by simpa using hpt)
    rw [hp,String.length_append]
    omega

lemma size_le_of_length_le {model p q : String} (hp : hasPrefix model p) (hq : hasPrefix model q)
    (h : q.length≤p.length) : q.utf8ByteSize≤p.utf8ByteSize := by
  by_contra hlt
  rw [not_le] at hlt
  have hle := length_le_of_size_le hq hp hlt.le
  obtain ⟨r,hr⟩ := hasPrefix_iff.mp hp
  obtain ⟨s,hs⟩ := hasPrefix_iff.mp hq
  have hlists : p.toList++r.toList = q.toList++s.toList := by
    rw [←String.toList_append,←String.toList_append,←hr,←hs]
  have heq : p = q := String.toList_inj.mp (List.append_inj_left hlists (le_antisymm hle h))
  rw [heq] at hlt
  exact lt_irrefl _ hlt

/-! ## The rows of the map in the index -/

section Rows

/-- The entry that a row makes for a tool. -/
def entryOf (tool : String) (r : String × ℚ) : Option PrefixEntry :=
  match cutKey r.1 with
  | none => none
  | some (toolName,modelPart) => if toolName = tool then some ⟨trimSuffix modelPart "*",r.2⟩ else none

variable {prices : Prices} {tool model : String}

lemma prefixes_foldl (rows : List (String × ℚ)) (idx : ToolPriceIndex) (tool : String) :
    (rows.foldl addKey idx).prefixes tool = idx.prefixes tool++rows.filterMap (entryOf tool) := by
  induction rows generalizing idx with
  | nil => exact (List.append_nil _).symm
  | cons r rows ih =>
    rw [List.foldl_cons,ih]
    cases h : cutKey r.1 with
    | none =>
      have hentry : entryOf tool r = none := by rw [entryOf,h]
      rw [List.filterMap_cons_none hentry,addKey,h]
    | some p =>
      obtain ⟨toolName,modelPart⟩ := p
      rw [addKey,h]
      dsimp only
      by_cases htool : toolName = tool
      · have hentry : entryOf tool r = some ⟨trimSuffix modelPart "*",r.2⟩ := by rw [entryOf,h]; exact if_pos htool
        rw [List.filterMap_cons_some hentry,htool,Function.update_self,List.append_assoc,List.singleton_append]
      · have hentry : entryOf tool r = none := by rw [entryOf,h]; exact if_neg htool
        rw [List.filterMap_cons_none hentry,Function.update_of_ne (Ne.symm htool)]

lemma defaults_foldl_of_colon {rows : List (String × ℚ)} {idx : ToolPriceIndex} (h : ':'∈tool.toList) :
    (rows.foldl addKey idx).defaults tool = idx.defaults tool := by
  induction rows generalizing idx with
  | nil => rfl
  | cons r rows ih =>
    rw [List.foldl_cons,ih,addKey]
    cases hcut : cutKey r.1 with
    | none =>
      have hne : tool≠r.1 := by
        rintro rfl
        exact cutKey_eq_none_iff.mp hcut h
      exact Function.update_of_ne hne _ _
    | some p => rfl

lemma defaults_foldl {rows : List (String × ℚ)} {idx : ToolPriceIndex} (hrows : (rows.map Prod.fst).Nodup)
    (h : ':'∉tool.toList) : (rows.foldl addKey idx).defaults tool = (rows.lookup tool).or (idx.defaults tool) := by
  induction rows generalizing idx with
  | nil => rfl
  | cons r rows ih =>
    obtain ⟨hr,hrows⟩ := List.nodup_cons.mp hrows
    rw [List.foldl_cons,ih hrows,List.lookup_cons,addKey]
    by_cases hkey : tool = r.1
    · have hnone : rows.lookup tool = none := Keyed.lookup_eq_none_iff.mpr (hkey ▸ hr)
      rw [hkey] at h ⊢
      rw [hkey] at hnone
      rw [hnone,cutKey_eq_none_iff.mpr h,beq_self_eq_true]
      exact Function.update_self _ _ _
    · rw [beq_false_of_ne hkey]
      cases cutKey r.1 with
      | none => exact congrArg _ (Function.update_of_ne hkey _ _)
      | some p => rfl

lemma mem_entries {p : String} {q : ℚ} :
    ⟨p,q⟩∈prices.rows.filterMap (entryOf tool) ↔ Configured prices tool p q := by
  rw [List.mem_filterMap]
  constructor
  · rintro ⟨⟨key,price⟩,hmem,hentry⟩
    unfold entryOf at hentry
    cases hcut : cutKey key with
    | none => simp only [hcut,reduceCtorEq] at hentry
    | some c =>
      obtain ⟨toolName,modelPart⟩ := c
      simp only [hcut] at hentry
      by_cases htool : toolName = tool
      · rw [if_pos htool,Option.some.injEq,PrefixEntry.mk.injEq] at hentry
        obtain ⟨rfl,rfl⟩ := hentry
        obtain ⟨rfl,hcolon⟩ := cutKey_eq_some_iff.mp hcut
        rw [htool] at hmem hcolon
        exact ⟨modelPart,(prices.find?_eq_some_iff _ _).mpr hmem,hcolon,rfl⟩
      · rw [if_neg htool] at hentry
        cases hentry
  · rintro ⟨modelPart,hfind,hcolon,rfl⟩
    refine ⟨(tool++":"++modelPart,q),(prices.find?_eq_some_iff _ _).mp hfind,?_⟩
    rw [entryOf,cutKey_eq_some_iff.mpr ⟨rfl,hcolon⟩]
    exact if_pos rfl

variable (b : Build prices)

lemma mem_prefixes {p : String} {q : ℚ} :
    ⟨p,q⟩∈(rebuildToolPriceIndex b).prefixes tool ↔ Configured prices tool p q := by
  rw [rebuildToolPriceIndex]
  dsimp only
  rw [prefixes_foldl,List.nil_append,(b.sort_perm _).mem_iff,←mem_entries]
  exact (b.order_perm.filterMap _).mem_iff

lemma defaults_eq : (rebuildToolPriceIndex b).defaults tool = defaultPrice prices tool := by
  rw [rebuildToolPriceIndex,defaultPrice]
  dsimp only
  by_cases h : ':'∈tool.toList
  · rw [if_pos h,defaults_foldl_of_colon h]
  · have hnodup : (b.order.map Prod.fst).Nodup := (b.order_perm.map Prod.fst).nodup_iff.mpr prices.nodup
    rw [if_neg h,defaults_foldl hnodup h,Option.or_none]
    ext q
    rw [Keyed.lookup_eq_some_iff hnodup,b.order_perm.mem_iff,←prices.find?_eq_some_iff]

end Rows

/-! ## The lookup -/

section Lookup
variable {prices : Prices} {tool model : String}

lemma eq_of_longest {p p' : String} {q q' : ℚ} (h : Longest prices tool model p q)
    (h' : Longest prices tool model p' q') : p = p' := by
  have hlength := le_antisymm (h'.2.2 p q h.1 h.2.1) (h.2.2 p' q' h'.1 h'.2.1)
  obtain ⟨r,hr⟩ := hasPrefix_iff.mp h.2.1
  obtain ⟨s,hs⟩ := hasPrefix_iff.mp h'.2.1
  have hlists : p.toList++r.toList = p'.toList++s.toList := by
    rw [←String.toList_append,←String.toList_append,←hr,←hs]
  exact String.toList_inj.mp (List.append_inj_left hlists hlength)

/-- The first entry that fits has the longest prefix. -/
lemma longest_of_find {b : Build prices} {e : PrefixEntry}
    (h : ((rebuildToolPriceIndex b).prefixes tool).find? (fun e => hasPrefix model e.modelPrefix) = some e) :
    Longest prices tool model e.modelPrefix e.price := by
  obtain ⟨hfits,before,after,hlist,hbefore⟩ := List.find?_eq_some_iff_append.mp h
  have hmem : e∈(rebuildToolPriceIndex b).prefixes tool := by rw [hlist]; simp
  refine ⟨(mem_prefixes b).mp hmem,hfits,fun p q hconfigured hp => ?_⟩
  have hpair := (mem_prefixes b).mpr hconfigured
  rw [hlist] at hpair
  rcases List.mem_append.mp hpair with hin | hin
  · have hno := hbefore _ hin
    rw [hp] at hno
    cases hno
  · rcases List.mem_cons.mp hin with rfl | hin
    · exact le_rfl
    · have hsorted := b.descending (((b.order.foldl addKey ⟨fun _ => none,fun _ => []⟩)).prefixes tool)
      have hsorted : (before++e::after).Pairwise
          (fun e e' => e'.modelPrefix.utf8ByteSize≤e.modelPrefix.utf8ByteSize) := hlist ▸ hsorted
      have hle := (List.pairwise_cons.mp (List.pairwise_append.mp hsorted).2.1).1 _ hin
      exact length_le_of_size_le hfits hp hle

lemma price_of_named (b : Build prices) (hmodel : model≠"") :
    IsPrice prices tool model (getToolPriceForModel (rebuildToolPriceIndex b) tool model) := by
  unfold getToolPriceForModel
  rw [if_pos hmodel]
  cases h : ((rebuildToolPriceIndex b).prefixes tool).find? (fun e => hasPrefix model e.modelPrefix) with
  | some e => exact .inl ⟨_,longest_of_find h⟩
  | none =>
    refine .inr ⟨fun p q hconfigured => ?_,by rw [defaults_eq]⟩
    have hno := List.find?_eq_none.mp h _ ((mem_prefixes b).mpr hconfigured)
    simpa using hno

lemma price_of_unnamed (b : Build prices) :
    getToolPriceForModel (rebuildToolPriceIndex b) tool "" = (defaultPrice prices tool).getD 0 := by
  unfold getToolPriceForModel
  rw [if_neg (fun h => h rfl),defaults_eq]

end Lookup

/-! ## An index for each entry -/

section Orders
variable {prices : Prices} {tool model : String}

/-- The index that is built from the rows in some order, with a sort that keeps the order of ties. -/
def Build.ofOrder (order : List (String × ℚ)) (h : order.Perm prices.rows) : Build prices where
  order := order
  order_perm := h
  sort := List.insertionSort (fun e e' => e'.modelPrefix.utf8ByteSize≤e.modelPrefix.utf8ByteSize)
  sort_perm l := List.perm_insertionSort _ l
  descending l := by
    have : Std.Total (fun e e' : PrefixEntry => e'.modelPrefix.utf8ByteSize≤e.modelPrefix.utf8ByteSize) :=
      ⟨fun e e' => le_total _ _⟩
    have : IsTrans PrefixEntry (fun e e' => e'.modelPrefix.utf8ByteSize≤e.modelPrefix.utf8ByteSize) :=
      ⟨fun _ _ _ h h' => h'.trans h⟩
    exact List.pairwise_insertionSort _ l

/-- What is inserted is found before all that is not ordered before it. -/
lemma find_orderedInsert {α : Type*} {r : α → α → Prop} [DecidableRel r] {fits : α → Bool} {e : α} {l : List α}
    (he : fits e) (h : ∀ a∈l, fits a → r e a) : (l.orderedInsert r e).find? fits = some e := by
  induction l with
  | nil => rw [List.orderedInsert_nil,List.find?_cons_of_pos he]
  | cons a l ih =>
    obtain ⟨ha,hl⟩ := List.forall_mem_cons.mp h
    rw [List.orderedInsert_cons]
    by_cases hr : r e a
    · rw [if_pos hr,List.find?_cons_of_pos he]
    · have hno : ¬fits a := fun hfits => hr (ha hfits)
      rw [if_neg hr,List.find?_cons_of_neg hno,ih hl]

/-- Each entry with the longest prefix is the one that some index finds. -/
lemma exists_price {p : String} {q : ℚ} (hmodel : model≠"") (h : Longest prices tool model p q) :
    ∃ b : Build prices, getToolPriceForModel (rebuildToolPriceIndex b) tool model = q := by
  obtain ⟨⟨modelPart,hfind,hcolon,rfl⟩,hfits,hlongest⟩ := h
  have hmem := (prices.find?_eq_some_iff _ _).mp hfind
  let order := (tool++":"++modelPart,q)::prices.rows.erase (tool++":"++modelPart,q)
  have hperm : order.Perm prices.rows := (List.perm_cons_erase hmem).symm
  refine ⟨.ofOrder order hperm,?_⟩
  have hentry : entryOf tool (tool++":"++modelPart,q) = some ⟨trimSuffix modelPart "*",q⟩ := by
    rw [entryOf,cutKey_eq_some_iff.mpr ⟨rfl,hcolon⟩]
    exact if_pos rfl
  have hprefixes : (rebuildToolPriceIndex (.ofOrder order hperm)).prefixes tool =
      ((order.filterMap (entryOf tool)).insertionSort
        (fun e e' => e'.modelPrefix.utf8ByteSize≤e.modelPrefix.utf8ByteSize)) := by
    rw [rebuildToolPriceIndex]
    dsimp only
    rw [prefixes_foldl,List.nil_append]
    rfl
  have hfound : ((rebuildToolPriceIndex (.ofOrder order hperm)).prefixes tool).find?
      (fun e => hasPrefix model e.modelPrefix) = some ⟨trimSuffix modelPart "*",q⟩ := by
    rw [hprefixes,List.filterMap_cons_some hentry,List.insertionSort_cons]
    refine find_orderedInsert hfits fun a ha hafits => ?_
    have ha := (List.perm_insertionSort _ _).mem_iff.mp ha
    have hconfigured : Configured prices tool a.modelPrefix a.price := by
      refine mem_entries.mp ?_
      exact (hperm.filterMap _).mem_iff.mp (by rw [List.filterMap_cons_some hentry]; exact List.mem_cons_of_mem _ ha)
    exact size_le_of_length_le hfits hafits (hlongest _ _ hconfigured hafits)
  rw [getToolPriceForModel,if_pos hmodel,hfound]

end Orders

/-! ## When the answer is that of the map -/

lemma hasPrefix_empty_iff {p : String} : hasPrefix "" p = true ↔ p = "" := by
  rw [hasPrefix_iff]
  constructor
  · rintro ⟨r,hr⟩
    exact (String.append_eq_empty_iff.mp hr.symm).1
  · rintro rfl
    exact ⟨"",rfl⟩

section Answers
variable {prices : Prices} {tool : String}

/-- Where no model is named the default price is that of the map unless an entry for every model says otherwise. -/
lemma isPrice_unnamed_iff : IsPrice prices tool "" ((defaultPrice prices tool).getD 0) ↔
    ((∃ q, Configured prices tool "" q) → Configured prices tool "" ((defaultPrice prices tool).getD 0)) := by
  constructor
  · rintro (⟨p,hp,hfits,-⟩ | ⟨hnone,-⟩) ⟨q,hq⟩
    · rwa [hasPrefix_empty_iff.mp hfits] at hp
    · have hno := hnone "" q hq
      rw [hasPrefix_empty_iff.mpr rfl] at hno
      cases hno
  · intro h
    by_cases hsome : ∃ q, Configured prices tool "" q
    · refine .inl ⟨"",h hsome,hasPrefix_empty_iff.mpr rfl,fun p q _ hfits => ?_⟩
      rw [hasPrefix_empty_iff.mp hfits]
    · refine .inr ⟨fun p q hp => Bool.eq_false_iff.mpr fun hfits => hsome ⟨q,?_⟩,rfl⟩
      rwa [hasPrefix_empty_iff.mp hfits] at hp

lemma isPrice_unique {model : String} {q q' : ℚ}
    (h : ∀ p q q', Longest prices tool model p q → Longest prices tool model p q' → q = q')
    (hq : IsPrice prices tool model q) (hq' : IsPrice prices tool model q') : q = q' := by
  rcases hq with ⟨p,hp⟩ | ⟨hnone,hq⟩
  · rcases hq' with ⟨p',hp'⟩ | ⟨hnone',-⟩
    · rw [eq_of_longest hp hp'] at hp
      exact h p' q q' hp hp'
    · exact absurd hp.2.1 (Bool.eq_false_iff.mp (hnone' p q hp.1))
  · rcases hq' with ⟨p',hp'⟩ | ⟨-,hq'⟩
    · exact absurd hp'.2.1 (Bool.eq_false_iff.mp (hnone p' q' hp'.1))
    · rw [hq,hq']

end Answers

/-- The lookup is exact for the maps whose entries leave no choice, and for no others. -/
theorem toolPrice_exact_iff (saved : Prices) (tool model : String) :
    Exact (merged saved) tool model ↔ Unambiguous (merged saved) tool model := by
  constructor
  · rintro ⟨hprice,hsame⟩
    constructor
    · intro hmodel p q q' h h'
      obtain ⟨b,hb⟩ := exists_price hmodel h
      obtain ⟨b',hb'⟩ := exists_price hmodel h'
      rw [←hb,←hb',hsame b b']
    · rintro rfl
      have h := hprice (.ofOrder _ (List.Perm.refl _))
      rw [price_of_unnamed] at h
      exact isPrice_unnamed_iff.mp h
  · rintro ⟨hnamed,hunnamed⟩
    by_cases hmodel : model = ""
    · subst hmodel
      refine ⟨fun b => ?_,fun b b' => by rw [price_of_unnamed,price_of_unnamed]⟩
      rw [price_of_unnamed]
      exact isPrice_unnamed_iff.mpr (hunnamed rfl)
    · exact ⟨fun b => price_of_named b hmodel,fun b b' =>
        isPrice_unique (hnamed hmodel) (price_of_named b hmodel) (price_of_named b' hmodel)⟩

/-- One prefix, written with a star and without. -/
def twiceWritten : Prices := ⟨[("file_search:gpt",1),("file_search:gpt*",2)],by decide⟩

theorem toolPrice_by_chance : ¬∀ (saved : Prices) (tool model : String), Exact (merged saved) tool model := by
  intro h
  have hsame := (h twiceWritten "file_search" "gpt-5").2 (.ofOrder _ (List.Perm.refl _))
    (.ofOrder _ (List.reverse_perm _))
  revert hsame
  decide +kernel

end ToolPrices
end Billing
end Tierflow
