import Tierflow.Foundation.Text

/-! Texts that are joined with a separator which they may hold themselves. The joined text knows the pieces between the
separators, but not which of them belong together. -/
namespace Tierflow
namespace Text
variable {sep : Char}

lemma splitChars_append_sep (l r : List Char) : splitChars sep (l++sep::r) = splitChars sep l++splitChars sep r := by
  induction l with
  | nil => exact splitChars_append List.not_mem_nil r
  | cons c l ih =>
    rw [List.cons_append,splitChars,splitChars,ih]
    cases hs : splitChars sep l with
    | nil => exact absurd hs (splitChars_ne_nil sep l)
    | cons w ws =>
      simp only [List.cons_append]
      split_ifs <;> rfl

lemma split_append_sep (s t : String) : split (s++String.singleton sep++t) sep = split s sep++split t sep := by
  rw [split,split,split,←List.map_append,←splitChars_append_sep]
  simp

lemma split_injective (sep : Char) : Function.Injective (fun s => split s sep) := by
  intro s t h
  rw [←intercalate_split s sep,←intercalate_split t sep]
  exact congrArg _ h

/-- Joined texts fall into the pieces of each. -/
theorem split_intercalate_flatMap {l : List String} (hl : l≠[]) :
    split ((String.singleton sep).intercalate l) sep = l.flatMap (fun s => split s sep) := by
  induction l with
  | nil => exact absurd rfl hl
  | cons s l ih =>
    cases l with
    | nil => simp
    | cons t l =>
      rw [String.intercalate_cons_cons,split_append_sep,ih (List.cons_ne_nil t l)]
      rfl

variable (sep) in
lemma hasPrefix_sep_iff {s t : String} :
    hasPrefix s (t++String.singleton sep) = true ↔ ∃ rest, rest≠[] ∧ split s sep = split t sep++rest := by
  rw [hasPrefix_iff]
  constructor
  · rintro ⟨r,rfl⟩
    exact ⟨split r sep,split_ne_nil r sep,split_append_sep t r⟩
  · rintro ⟨rest,hrest,h⟩
    refine ⟨(String.singleton sep).intercalate rest,?_⟩
    rw [←intercalate_split s sep,h,String.intercalate_append_of_ne_nil (split_ne_nil t sep) hrest,intercalate_split]

lemma intercalate_ends (sep s : String) (l : List String) :
    ∃ t, (sep.intercalate (l++[s])).toList = t++s.toList := by
  by_cases hl : l = []
  · exact ⟨[],by rw [hl]; simp⟩
  · rw [String.intercalate_append_of_ne_nil hl (List.cons_ne_nil s [])]
    exact ⟨_,by rw [String.toList_append,String.intercalate_singleton]⟩

/-! ## Trimmed texts -/

def trimSep (sep : Char) (s : String) : String :=
  String.ofList ((s.toList.dropWhile (fun c => c = sep)).reverse.dropWhile (fun c => c = sep)).reverse

section Trim
variable {β : Type*} {f : List Char → Option β}

lemma splitChars_sep_cons (l : List Char) : splitChars sep (sep::l) = []::splitChars sep l :=
  splitChars_append_sep [] l

lemma filterMap_splitChars_dropWhile (hf : f [] = none) (l : List Char) :
    (splitChars sep (l.dropWhile (fun c => c = sep))).filterMap f = (splitChars sep l).filterMap f := by
  induction l with
  | nil => rfl
  | cons c l ih =>
    by_cases hc : c = sep
    · rw [List.dropWhile_cons_of_pos (by simpa using hc),ih,hc,splitChars_sep_cons,List.filterMap_cons_none hf]
    · rw [List.dropWhile_cons_of_neg (by simpa using hc)]

lemma filterMap_splitChars_rdropWhile (hf : f [] = none) (l : List Char) :
    (splitChars sep (l.dropWhile (fun c => c = sep)).reverse).filterMap f =
      (splitChars sep l.reverse).filterMap f := by
  induction l with
  | nil => rfl
  | cons c l ih =>
    by_cases hc : c = sep
    · rw [List.dropWhile_cons_of_pos (by simpa using hc),ih,hc,List.reverse_cons,splitChars_append_sep,
        List.filterMap_append,show splitChars sep [] = [[]] from rfl,List.filterMap_cons_none hf,List.filterMap_nil,
        List.append_nil]
    · rw [List.dropWhile_cons_of_neg (by simpa using hc)]

end Trim

/-- Separators at the ends only make pieces that are empty. -/
theorem filterMap_split_trimSep {β : Type*} {f : String → Option β} (hf : f "" = none) (s : String) :
    (split (trimSep sep s) sep).filterMap f = (split s sep).filterMap f := by
  rw [split,split,List.filterMap_map,List.filterMap_map,trimSep,String.toList_ofList,
    filterMap_splitChars_rdropWhile (f := f ∘ String.ofList) hf,List.reverse_reverse,
    filterMap_splitChars_dropWhile (f := f ∘ String.ofList) hf]

/-! ## Texts trimmed by what counts as blank -/

/-- What is left between the blanks at both ends. -/
def trimBy (blank : Char → Bool) (l : List Char) : List Char :=
  ((l.dropWhile blank).reverse.dropWhile blank).reverse

section TrimBy
variable {blank : Char → Bool} {l pre post : List Char}

lemma trimBy_isSpace (l : List Char) : trimBy isSpace l = trimChars l := rfl

/-- What is cut off at the ends is blank. -/
lemma exists_trimBy (blank : Char → Bool) (l : List Char) : ∃ pre post, l = pre++trimBy blank l++post ∧
    (∀ c∈pre, blank c = true) ∧ ∀ c∈post, blank c = true := by
  refine ⟨l.takeWhile blank,((l.dropWhile blank).reverse.takeWhile blank).reverse,?_,
    fun c hc => List.mem_takeWhile_imp hc,fun c hc => List.mem_takeWhile_imp (List.mem_reverse.mp hc)⟩
  rw [trimBy,List.append_assoc,←List.reverse_append,List.takeWhile_append_dropWhile,List.reverse_reverse,
    List.takeWhile_append_dropWhile]

lemma trimBy_append_left (h : ∀ c∈pre, blank c = true) : trimBy blank (pre++l) = trimBy blank l := by
  rw [trimBy,List.dropWhile_append_of_pos h,trimBy]

lemma trimBy_append_right (h : ∀ c∈post, blank c = true) : trimBy blank (l++post) = trimBy blank l := by
  have hpost : post.dropWhile blank = [] := List.dropWhile_eq_nil_iff.mpr h
  induction l with
  | nil => rw [List.nil_append,trimBy,hpost]; rfl
  | cons c l ih =>
    by_cases hc : blank c
    · rw [trimBy,List.cons_append,List.dropWhile_cons_of_pos hc,trimBy,List.dropWhile_cons_of_pos hc]
      exact ih
    · rw [trimBy,List.cons_append,List.dropWhile_cons_of_neg hc,trimBy,List.dropWhile_cons_of_neg hc,←List.cons_append,
        List.reverse_append,List.dropWhile_append_of_pos (fun a ha => h a (List.mem_reverse.mp ha))]

lemma trimBy_eq_nil_iff : trimBy blank l = [] ↔ ∀ c∈l, blank c = true := by
  constructor
  · intro h
    obtain ⟨pre,post,hl,hpre,hpost⟩ := exists_trimBy blank l
    rw [h,List.append_nil] at hl
    rw [hl]
    exact fun c hc => (List.mem_append.mp hc).elim (hpre c) (hpost c)
  · intro h
    rw [trimBy,List.dropWhile_eq_nil_iff.mpr h]
    rfl

/-- What is not blank is kept. -/
lemma filter_trimBy {p : Char → Bool} (h : ∀ c, blank c = true → p c = false) :
    (trimBy blank l).filter p = l.filter p := by
  obtain ⟨pre,post,hl,hpre,hpost⟩ := exists_trimBy blank l
  have hnone : ∀ m : List Char, (∀ c∈m, blank c = true) → m.filter p = [] := fun m hm =>
    List.filter_eq_nil_iff.mpr fun c hc => by simp [h c (hm c hc)]
  conv_rhs => rw [hl,List.filter_append,List.filter_append,hnone pre hpre,hnone post hpost,List.append_nil,
    List.nil_append]

lemma mem_trimBy {c : Char} (h : blank c = false) : c∈trimBy blank l ↔ c∈l := by
  have hmem : (trimBy blank l).filter (fun a => !blank a) = l.filter (fun a => !blank a) :=
    filter_trimBy (fun a ha => by simp [ha])
  constructor
  · intro hc
    have hin : c∈(trimBy blank l).filter (fun a => !blank a) := List.mem_filter.mpr ⟨hc,by simp [h]⟩
    exact (List.mem_filter.mp (hmem ▸ hin)).1
  · intro hc
    have hin : c∈l.filter (fun a => !blank a) := List.mem_filter.mpr ⟨hc,by simp [h]⟩
    exact (List.mem_filter.mp (hmem.symm ▸ hin)).1

lemma trimBy_map {f : Char → Char} (h : ∀ c, blank (f c) = blank c) : trimBy blank (l.map f) = (trimBy blank l).map f := by
  have hcomp : blank ∘ f = blank := funext h
  rw [trimBy,List.dropWhile_map,hcomp,←List.map_reverse,List.dropWhile_map,hcomp,←List.map_reverse,trimBy]

lemma splitChars_prepend (h : sep∉pre) (l : List Char) :
    ∃ w ws, splitChars sep l = w::ws ∧ splitChars sep (pre++l) = (pre++w)::ws := by
  induction pre with
  | nil =>
    obtain ⟨w,ws,hl⟩ := List.exists_cons_of_ne_nil (splitChars_ne_nil sep l)
    exact ⟨w,ws,hl,hl⟩
  | cons c pre ih =>
    rw [List.mem_cons,not_or] at h
    obtain ⟨w,ws,hl,hpre⟩ := ih h.2
    refine ⟨w,ws,hl,?_⟩
    rw [List.cons_append,splitChars,hpre]
    exact if_neg (Ne.symm h.1)

lemma splitChars_append_of_notMem (h : sep∉post) (l : List Char) :
    ∃ qs w, splitChars sep l = qs++[w] ∧ splitChars sep (l++post) = qs++[w++post] := by
  induction l with
  | nil =>
    obtain ⟨w,ws,hl,hpost⟩ := splitChars_prepend h []
    rw [splitChars,List.cons.injEq] at hl
    obtain ⟨rfl,rfl⟩ := hl
    rw [List.append_nil] at hpost
    exact ⟨[],[],rfl,by rw [List.nil_append,hpost]; rfl⟩
  | cons c l ih =>
    obtain ⟨qs,w,hl,happend⟩ := ih
    rw [List.cons_append,splitChars,splitChars,hl,happend]
    cases qs with
    | nil =>
      by_cases hc : c = sep
      · exact ⟨[[]],w,if_pos hc,if_pos hc⟩
      · exact ⟨[],c::w,if_neg hc,if_neg hc⟩
    | cons q qs =>
      by_cases hc : c = sep
      · exact ⟨[]::q::qs,w,if_pos hc,if_pos hc⟩
      · exact ⟨(c::q)::qs,w,if_neg hc,if_neg hc⟩

/-- It does not matter to the trimmed pieces whether the whole is trimmed first. -/
theorem map_trimBy_splitChars (hsep : blank sep = false) (l : List Char) :
    (splitChars sep (trimBy blank l)).map (trimBy blank) = (splitChars sep l).map (trimBy blank) := by
  obtain ⟨pre,post,hl,hpre,hpost⟩ := exists_trimBy blank l
  have hnot : ∀ m : List Char, (∀ c∈m, blank c = true) → sep∉m := fun m hm hc => by simp [hm sep hc] at hsep
  obtain ⟨w,ws,hsplit,hleft⟩ := splitChars_prepend (hnot pre hpre) (trimBy blank l)
  obtain ⟨qs,v,hqs,hright⟩ := splitChars_append_of_notMem (hnot post hpost) (pre++trimBy blank l)
  conv_rhs => rw [hl]
  rw [hright,List.map_append,List.map_singleton,trimBy_append_right hpost,←List.map_singleton,←List.map_append,←hqs,
    hleft,hsplit,List.map_cons,List.map_cons,trimBy_append_left hpre]

end TrimBy

/-! ## Filled texts -/

/-- The pieces of a text that has none when it is empty. -/
def pieces (sep : Char) (s : String) : List String := if s = "" then [] else split s sep

lemma pieces_injective (sep : Char) : Function.Injective (pieces sep) := by
  intro s t h
  rw [pieces,pieces] at h
  split_ifs at h with hs ht ht
  · rw [hs,ht]
  · exact absurd h.symm (split_ne_nil t sep)
  · exact absurd h (split_ne_nil s sep)
  · exact split_injective sep h

def joinFilled (sep : Char) (l : List String) : String := (String.singleton sep).intercalate (l.filter (fun s => s≠""))

lemma split_joinFilled {l : List String} (hl : ∃ s∈l, s≠"") :
    split (joinFilled sep l) sep = l.flatMap (pieces sep) := by
  have hne : l.filter (fun s => s≠"")≠[] := by
    obtain ⟨s,hs,hne⟩ := hl
    exact List.ne_nil_of_mem (List.mem_filter.mpr ⟨hs,decide_eq_true hne⟩)
  rw [joinFilled,split_intercalate_flatMap hne]
  clear hl hne
  induction l with
  | nil => rfl
  | cons s l ih =>
    rw [List.flatMap_cons,pieces,←ih]
    by_cases hs : s = ""
    · rw [if_pos hs,List.filter_cons_of_neg (by simpa using hs)]
      rfl
    · rw [if_neg hs,List.filter_cons_of_pos (by simpa using hs),List.flatMap_cons]

theorem joinFilled_eq_iff {l m : List String} (hl : ∃ s∈l, s≠"") (hm : ∃ s∈m, s≠"") :
    joinFilled sep l = joinFilled sep m ↔ l.flatMap (pieces sep) = m.flatMap (pieces sep) := by
  rw [←split_joinFilled hl,←split_joinFilled hm]
  exact (split_injective sep).eq_iff.symm

end Text
end Tierflow
