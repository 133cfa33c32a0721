import Mathlib.Data.List.Infix
import Mathlib.Tactic

/-! Lists of dotted names with wildcards. A name can be written with a dot at its end; a list treats both spellings
alike when each pattern has its twin. -/
namespace Tierflow
namespace Wildcards

/-- A name as it stands, or a name with everything below it. -/
inductive Pattern (α : Type*) where
  | exact (l : List α)
  | below (s : List α)
  deriving DecidableEq

def Pattern.name {α : Type*} : Pattern α → List α
  | .exact l => l
  | .below s => s

section Names
variable {α : Type*} (dot : α)

def Pattern.Matches (d : List α) : Pattern α → Prop
  | .exact l => d = l
  | .below s => d = s ∨ dot::s<:+d

def Listed (P : List (Pattern α)) (d : List α) : Prop := ∃ p∈P, p.Matches dot d

/-- Names that are not empty and do not end with a dot. -/
def Plain (d : List α) : Prop := ∃ e a, a≠dot ∧ d = e++[a]

/-- Everything that is below a name is below one of the list. -/
def Covered (P : List (Pattern α)) (s : List α) : Prop := ∃ t, .below t∈P ∧ (s = t ∨ dot::t<:+s)

/-- What a list needs to hold for one of its patterns. -/
def Mated (P : List (Pattern α)) : Pattern α → Prop
  | .exact l => (Plain dot l → Listed dot P (l++[dot])) ∧ ∀ c, Plain dot c → l = c++[dot] → Listed dot P c
  | .below s => s≠[] ∧ (Plain dot s → Covered dot P (s++[dot])) ∧ ∀ c, Plain dot c → s = c++[dot] → Covered dot P c

/-- Over an alphabet, a name is listed when it is with a dot at its end. -/
def Closed (A : Set α) (P : List (Pattern α)) : Prop :=
  ∀ d, (∀ c∈d, c∈A) → Plain dot d → (Listed dot P d ↔ Listed dot P (d++[dot]))

end Names

/-! ## Suffixes -/

section Suffixes
variable {α : Type*} {dot : α} {P : List (Pattern α)} {d e s t : List α}

lemma plain_of_suffix (hs : s≠[]) (hd : Plain dot d) (h : s<:+d) : Plain dot s := by
  obtain ⟨e,a,ha,rfl⟩ := hd
  rcases List.suffix_concat_iff.mp h with rfl | ⟨t,rfl,-⟩
  · exact absurd rfl hs
  · exact ⟨t,a,ha,rfl⟩

lemma plain_append (hs : Plain dot s) : Plain dot (e++s) := by
  obtain ⟨t,a,ha,rfl⟩ := hs
  exact ⟨e++t,a,ha,(List.append_assoc e t [a]).symm⟩

lemma Plain.ne_nil (h : Plain dot d) : d≠[] := by
  obtain ⟨e,a,-,rfl⟩ := h
  exact List.concat_ne_nil a e

lemma not_plain_dot : ¬Plain dot (d++[dot]) := by
  rintro ⟨e,a,ha,h⟩
  exact ha (List.append_inj_right' h rfl |> List.cons.inj |>.1).symm

/-- A suffix that begins with a dot lies within what follows the dots. -/
lemma suffix_of_dot_suffix (he : dot∉e) (h : dot::t<:+e++dot::s) : t = s ∨ dot::t<:+s := by
  induction e with
  | nil =>
    rcases List.suffix_cons_iff.mp h with heq | hsuffix
    · exact .inl (List.cons.inj heq).2
    · exact .inr hsuffix
  | cons a e ih =>
    have ha : dot≠a := fun heq => he (heq ▸ List.mem_cons_self)
    rcases List.suffix_cons_iff.mp h with heq | hsuffix
    · exact absurd (List.cons.inj heq).1 ha
    · exact ih (fun hmem => he (List.mem_cons_of_mem a hmem)) hsuffix

lemma Covered.listed (h : Covered dot P s) (hd : d = s ∨ dot::s<:+d) : Listed dot P d := by
  obtain ⟨t,ht,hst⟩ := h
  refine ⟨.below t,ht,?_⟩
  rcases hd with rfl | hd
  · exact hst
  · rcases hst with rfl | hst
    · exact .inr hd
    · exact .inr ((hst.trans (List.suffix_cons dot s)).trans hd)

end Suffixes

/-! ## Lists that know both spellings -/

section Spellings
variable {α : Type*} {dot : α} {A : Set α} {P : List (Pattern α)}

lemma exists_longer (P : List (Pattern α)) : ∃ n, ∀ p∈P, p.name.length<n := by
  induction P with
  | nil => exact ⟨0,fun p hp => by cases hp⟩
  | cons p P ih =>
    obtain ⟨n,hn⟩ := ih
    refine ⟨max n (p.name.length+1),fun q hq => ?_⟩
    rcases List.mem_cons.mp hq with rfl | hq
    · omega
    · exact lt_max_of_lt_left (hn q hq)

/-- A prefix that makes a name too long for the patterns. -/
lemma covered_of_long (a : α) (ha : a≠dot) :
    ∃ n, 0<n ∧ (∀ s, Listed dot P (List.replicate n a++dot::s) → Covered dot P s) ∧
      ¬Listed dot P (List.replicate n a) := by
  obtain ⟨n,hn⟩ := exists_longer P
  have hdots : dot∉List.replicate (n+1) a := fun h => ha (List.eq_of_mem_replicate h).symm
  refine ⟨n+1,Nat.succ_pos n,?_,?_⟩
  · rintro s ⟨p,hp,hmatch⟩
    cases p with
    | exact l =>
      have hlen : l.length<n := hn _ hp
      rw [←show _ = l from hmatch] at hlen
      simp at hlen
      omega
    | below t =>
      rcases hmatch with heq | hsuffix
      · have hlen : t.length<n := hn _ hp
        rw [←heq] at hlen
        simp at hlen
        omega
      · rcases suffix_of_dot_suffix hdots hsuffix with rfl | h
        · exact ⟨t,hp,.inl rfl⟩
        · exact ⟨t,hp,.inr h⟩
  · rintro ⟨p,hp,hmatch⟩
    cases p with
    | exact l =>
      have hlen : l.length<n := hn _ hp
      rw [←show _ = l from hmatch] at hlen
      simp at hlen
    | below t =>
      rcases hmatch with heq | hsuffix
      · have hlen : t.length<n := hn _ hp
        rw [←heq] at hlen
        simp at hlen
      · exact hdots (hsuffix.subset List.mem_cons_self)

/-- A list whose patterns have their twins lists both spellings of a name, or none. -/
theorem closed_of_mated (h : ∀ p∈P, Mated dot P p) : Closed dot A P := by
  intro d _ hd
  constructor
  · rintro ⟨p,hp,hmatch⟩
    cases p with
    | exact l =>
      obtain rfl : d = l := hmatch
      exact (h _ hp).1 hd
    | below s =>
      obtain ⟨hs,hplain,-⟩ := h _ hp
      rcases hmatch with rfl | hsuffix
      · exact (hplain hd).listed (.inl rfl)
      · have hsplain := plain_of_suffix hs hd ((List.suffix_cons dot s).trans hsuffix)
        obtain ⟨e,rfl⟩ := hsuffix
        exact (hplain hsplain).listed (.inr ⟨e,by simp⟩)
  · rintro ⟨p,hp,hmatch⟩
    cases p with
    | exact l => exact (h _ hp).2 d hd (show _ = l from hmatch).symm
    | below s =>
      obtain ⟨hs,-,hdotted⟩ := h _ hp
      rcases hmatch with heq | hsuffix
      · exact (hdotted d hd heq.symm).listed (.inl rfl)
      · obtain ⟨e,he⟩ := hsuffix
        obtain ⟨t,b,rfl⟩ := List.eq_nil_or_concat' s |>.resolve_left hs
        have hsplit : (e++dot::t)++[b] = d++[dot] := by simpa using he
        have hb : b = dot := (List.cons.inj (List.append_inj_right' hsplit rfl)).1
        have hd' : e++dot::t = d := List.append_inj_left' hsplit rfl
        have ht : t≠[] := by
          rintro rfl
          exact not_plain_dot (hd' ▸ hd)
        have htplain := plain_of_suffix ht hd ⟨e++[dot],by simpa using hd'⟩
        exact (hdotted t htplain (by rw [hb])).listed (.inr ⟨e,hd'⟩)

/-- Over an alphabet with the dot and another letter, such a list has a twin for each of its patterns. -/
theorem mated_of_closed (hdot : dot∈A) {a : α} (ha : a∈A) (hne : a≠dot)
    (hP : ∀ p∈P, ∀ c∈p.name, c∈A)
    (h : Closed dot A P) : ∀ p∈P, Mated dot P p := by
  obtain ⟨n,hn,hlong,hnone⟩ := covered_of_long (P := P) a hne
  have hword : ∀ {s : List α}, (∀ c∈s, c∈A) → ∀ c∈List.replicate n a++dot::s, c∈A := by
    intro s hs c hc
    rcases List.mem_append.mp hc with hc | hc
    · rw [List.eq_of_mem_replicate hc]
      exact ha
    · rcases List.mem_cons.mp hc with rfl | hc
      · exact hdot
      · exact hs c hc
  intro p hp
  cases p with
  | exact l =>
    have hl : ∀ c∈l, c∈A := hP _ hp
    refine ⟨fun hplain => (h l hl hplain).mp ⟨_,hp,rfl⟩,fun c hc heq => ?_⟩
    have hcA : ∀ x∈c, x∈A := fun x hx => hl x (heq ▸ List.mem_append_left _ hx)
    exact (h c hcA hc).mpr ⟨_,hp,heq.symm⟩
  | below s =>
    have hs : ∀ c∈s, c∈A := hP _ hp
    refine ⟨?_,fun hplain => ?_,fun c hc heq => ?_⟩
    · -- with nothing below the star, every name with a dot at its end is listed
      rintro rfl
      obtain ⟨m,rfl⟩ : ∃ m, n = m+1 := ⟨n-1,by omega⟩
      have hreplicate : Plain dot (List.replicate (m+1) a) :=
        ⟨List.replicate m a,a,hne,List.replicate_succ'⟩
      have hrA : ∀ c∈List.replicate (m+1) a, c∈A := fun c hc => List.eq_of_mem_replicate hc ▸ ha
      exact hnone ((h _ hrA hreplicate).mpr ⟨_,hp,.inr ⟨List.replicate (m+1) a,rfl⟩⟩)
    · have hlisted : Listed dot P (List.replicate n a++dot::s) := ⟨_,hp,.inr ⟨_,rfl⟩⟩
      have hd : Plain dot (List.replicate n a++dot::s) := by
        have := plain_append (e := List.replicate n a++[dot]) hplain
        simpa using this
      have hdotted := (h _ (hword hs) hd).mp hlisted
      rw [List.append_assoc,List.cons_append] at hdotted
      exact hlong _ hdotted
    · have hcA : ∀ x∈c, x∈A := fun x hx => hs x (heq ▸ List.mem_append_left _ hx)
      have hd : Plain dot (List.replicate n a++dot::c) := by
        have := plain_append (e := List.replicate n a++[dot]) hc
        simpa using this
      refine hlong _ ((h _ (hword hcA) hd).mpr ⟨_,hp,.inr ⟨List.replicate n a,?_⟩⟩)
      rw [heq,List.append_assoc,List.cons_append]

end Spellings

end Wildcards
end Tierflow
