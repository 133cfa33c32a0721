import Tierflow.Relay.Loop

/-! Lists of status codes as they are written in the settings: single codes and ranges, separated by commas. What is
read is merged into ranges that are sorted and apart from each other. -/
namespace Tierflow
namespace Relay

/-! ## Reading and printing -/

def removeSpaces (s : String) : String := String.ofList (s.toList.filter (fun c => c≠ ' '))

def parseHTTPStatusCodeToken (token : String) : Except String StatusCodeRange :=
  let token := removeSpaces (Text.trimSpace token)
  if token = "" then .error "empty token"
  else if '-'∈token.toList then
    match Text.split token '-' with
    | [first,second] =>
      if first = "" ∨ second = "" then .error ("invalid range token: "++token)
      else do
        let start ← orFail ("invalid range start: "++token) (Text.parseInt64 first)
        let stop ← orFail ("invalid range end: "++token) (Text.parseInt64 second)
        require ("range start > end: "++token) (start ≤ stop)
        require ("range out of bounds: "++token) (100 ≤ start ∧ stop≤599)
        return ⟨start,stop⟩
    | _ => .error ("invalid range token: "++token)
  else do
    let code ← orFail ("invalid status code: "++token) (Text.parseInt64 token)
    require ("status code out of bounds: "++token) (100 ≤ code ∧ code≤599)
    return ⟨code,code⟩

/-- The full-width comma separates too. -/
def replaceComma (s : String) : String := String.ofList (s.toList.map (fun c => if c = '，' then ',' else c))

/-- The tokens of an input; empty ones are left out. -/
def tokens (input : String) : List String :=
  ((Text.split (replaceComma (Text.trimSpace input)) ',').map Text.trimSpace).filter (fun seg => seg≠"")

/-- By start, and by stop among those of one start. -/
def StatusCodeRange.Before (r s : StatusCodeRange) : Prop :=
  if r.start = s.start then r.stop ≤ s.stop else r.start < s.start

instance : DecidableRel StatusCodeRange.Before :=
  fun r s => inferInstanceAs (Decidable (if r.start = s.start then r.stop ≤ s.stop else r.start < s.start))

/-- The last range so far takes in what overlaps or touches it. -/
def mergeInto (last : StatusCodeRange) : List StatusCodeRange → List StatusCodeRange
  | [] => [last]
  | r::rs =>
    if r.start≤last.stop+1 then mergeInto ⟨last.start,if last.stop < r.stop then r.stop else last.stop⟩ rs
    else last::mergeInto r rs

def mergeRanges : List StatusCodeRange → List StatusCodeRange
  | [] => []
  | r::rs => mergeInto r rs

def parseHTTPStatusCodeRanges (input : String) : Except String (List StatusCodeRange) :=
  if Text.trimSpace input = "" then .ok []
  else
    let invalid := (tokens input).filter (fun seg => (parseHTTPStatusCodeToken seg).toOption.isNone)
    if invalid≠[] then .error ("invalid http status code rules: "++", ".intercalate invalid)
    else
      let ranges := (tokens input).filterMap (fun seg => (parseHTTPStatusCodeToken seg).toOption)
      .ok (mergeRanges (ranges.insertionSort StatusCodeRange.Before))

def printRange (r : StatusCodeRange) : String :=
  if r.start = r.stop then Text.printInt r.start else Text.printInt r.start++"-"++Text.printInt r.stop

def statusCodeRangesToString (ranges : List StatusCodeRange) : String := ",".intercalate (ranges.map printRange)

/-! ## Tokens -/

/-- A token is one number, or two with a dash between them. -/
def Denotes (token : String) (start stop : ℤ) : Prop :=
  let token := removeSpaces (Text.trimSpace token)
  ('-'∉token.toList ∧ Text.parseInt64 token = some start ∧ stop = start) ∨
    ∃ first second : String, token = first++"-"++second ∧ '-'∉first.toList ∧ '-'∉second.toList ∧
      Text.parseInt64 first = some start ∧ Text.parseInt64 second = some stop

def TokenCovers (token : String) (code : ℤ) : Prop :=
  ∃ start stop, Denotes token start stop ∧ start ≤ code ∧ code ≤ stop

def StatusCodeRange.Covers (r : StatusCodeRange) (code : ℤ) : Prop := r.start ≤ code ∧ code ≤ r.stop

/-- A range within the status codes. -/
def StatusCodeRange.Valid (r : StatusCodeRange) : Prop := 100 ≤ r.start ∧ r.start ≤ r.stop ∧ r.stop≤599

section Tokens
variable {token : String} {r : StatusCodeRange}

lemma dash_singleton : String.singleton '-' = "-" := rfl

lemma split_dash {first second : String} (hf : '-'∉first.toList) (hs : '-'∉second.toList) :
    Text.split (first++"-"++second) '-' = [first,second] := by
  have hjoin : (String.singleton '-').intercalate [first,second] = first++"-"++second := by
    simp [String.intercalate_cons_cons,dash_singleton,String.append_assoc]
  rw [←hjoin]
  apply Text.split_intercalate (List.cons_ne_nil _ _)
  intro w hw
  rcases List.mem_cons.mp hw with rfl | hw
  · exact hf
  · rwa [List.mem_singleton.mp hw]

lemma dash_mem_append (first second : String) : '-'∈(first++"-"++second).toList := by
  simp

lemma join_dash {s first second : String} (h : Text.split s '-' = [first,second]) :
    s = first++"-"++second ∧ '-'∉first.toList ∧ '-'∉second.toList := by
  have hjoin := Text.intercalate_split s '-'
  rw [h] at hjoin
  refine ⟨?_,?_,?_⟩
  · rw [←hjoin]
    simp [String.intercalate_cons_cons,dash_singleton,String.append_assoc]
  · exact Text.sep_notMem_of_mem_split (h ▸ List.mem_cons_self)
  · exact Text.sep_notMem_of_mem_split (h ▸ List.mem_cons_of_mem _ List.mem_cons_self)

/-- A token that is accepted stands for the range that is read. -/
lemma parseToken_spec (h : parseHTTPStatusCodeToken token = .ok r) :
    r.Valid ∧ ∀ start stop, Denotes token start stop ↔ start = r.start ∧ stop = r.stop := by
  unfold parseHTTPStatusCodeToken at h
  unfold Denotes
  dsimp only at h ⊢
  generalize removeSpaces (Text.trimSpace token) = t at h
  split_ifs at h with hempty hdash
  · split at h
    · rename_i first second hsplit
      split_ifs at h with hparts
      simp only [bind_eq_ok,orFail_eq_ok,require_eq_ok] at h
      obtain ⟨start,hstart,stop,hstop,_,hle,_,hbounds,hr⟩ := h
      obtain rfl := Except.ok.inj hr
      obtain ⟨rfl,hfirst,hsecond⟩ := join_dash hsplit
      refine ⟨⟨hbounds.1,hle,hbounds.2⟩,?_⟩
      intro lo hi
      constructor
      · rintro (⟨hno,-⟩ | ⟨first',second',heq,hf',hs',hlo,hhi⟩)
        · exact absurd (dash_mem_append first second) hno
        · rw [heq,split_dash hf' hs'] at hsplit
          obtain ⟨rfl,hrest⟩ := List.cons.inj hsplit
          obtain ⟨rfl,-⟩ := List.cons.inj hrest
          rw [hstart] at hlo
          rw [hstop] at hhi
          exact ⟨(Option.some.inj hlo).symm,(Option.some.inj hhi).symm⟩
      · rintro ⟨rfl,rfl⟩
        exact .inr ⟨first,second,rfl,hfirst,hsecond,hstart,hstop⟩
    · contradiction
  · simp only [bind_eq_ok,orFail_eq_ok,require_eq_ok] at h
    obtain ⟨code,hcode,_,hbounds,hr⟩ := h
    obtain rfl := Except.ok.inj hr
    refine ⟨⟨hbounds.1,le_rfl,hbounds.2⟩,?_⟩
    intro lo hi
    constructor
    · rintro (⟨-,hlo,rfl⟩ | ⟨first,second,rfl,-⟩)
      · rw [hcode] at hlo
        exact ⟨(Option.some.inj hlo).symm,(Option.some.inj hlo).symm⟩
      · exact absurd (dash_mem_append first second) hdash
    · rintro ⟨rfl,rfl⟩
      exact .inl ⟨hdash,hcode,rfl⟩

lemma tokenCovers_iff (h : parseHTTPStatusCodeToken token = .ok r) (code : ℤ) :
    TokenCovers token code ↔ r.Covers code := by
  unfold TokenCovers
  simp only [(parseToken_spec h).2]
  constructor
  · rintro ⟨start,stop,⟨rfl,rfl⟩,hcovers⟩
    exact hcovers
  · exact fun hcovers => ⟨r.start,r.stop,⟨rfl,rfl⟩,hcovers⟩

end Tokens

/-! ## Merging -/

/-- Sorted, and with a code in between. -/
def Apart (ranges : List StatusCodeRange) : Prop := ranges.Pairwise (fun r s => r.stop+1 < s.start)

section Merge
variable {r l : StatusCodeRange} {rs : List StatusCodeRange} {code : ℤ}

lemma before_start {r s : StatusCodeRange} (h : r.Before s) : r.start ≤ s.start := by
  unfold StatusCodeRange.Before at h
  split_ifs at h with heq
  · exact heq.le
  · exact h.le

/-- Merging covers what was covered. -/
lemma mergeInto_covers (hsorted : ∀ s∈rs, l.start ≤ s.start) (hrs : rs.Pairwise StatusCodeRange.Before)
    (hlast : l.start≤l.stop) (hvalid : ∀ s∈rs, s.start ≤ s.stop) :
    (∃ s∈mergeInto l rs, s.Covers code) ↔ l.Covers code ∨ ∃ s∈rs, s.Covers code := by
  induction rs generalizing l with
  | nil => simp [mergeInto]
  | cons r rs ih =>
    have hstart := hsorted r List.mem_cons_self
    have hr := hvalid r List.mem_cons_self
    have hrest := List.pairwise_cons.mp hrs
    rw [mergeInto]
    by_cases htouch : r.start≤l.stop+1
    · rw [if_pos htouch]
      have hmerged := ih (l := ⟨l.start,if l.stop < r.stop then r.stop else l.stop⟩)
        (fun s hs => hsorted s (List.mem_cons_of_mem _ hs)) hrest.2 (by dsimp only; split_ifs <;> omega)
        (fun s hs => hvalid s (List.mem_cons_of_mem _ hs))
      rw [hmerged]
      simp only [List.exists_mem_cons_iff,StatusCodeRange.Covers,←or_assoc]
      apply or_congr_left
      split_ifs <;> omega
    · rw [if_neg htouch]
      have hmerged := ih (l := r) (fun s hs => before_start (hrest.1 s hs)) hrest.2 hr
        (fun s hs => hvalid s (List.mem_cons_of_mem _ hs))
      rw [List.exists_mem_cons_iff,hmerged,List.exists_mem_cons_iff]

lemma mergeInto_start : ∀ s∈mergeInto l rs, s.start = l.start ∨ ∃ t∈rs, s.start = t.start := by
  induction rs generalizing l with
  | nil =>
    intro s hs
    rw [List.mem_singleton.mp hs]
    exact .inl rfl
  | cons r rs ih =>
    intro s hs
    rw [mergeInto] at hs
    by_cases htouch : r.start≤l.stop+1
    · rw [if_pos htouch] at hs
      rcases ih s hs with h | ⟨t,ht,h⟩
      · exact .inl h
      · exact .inr ⟨t,List.mem_cons_of_mem _ ht,h⟩
    · rw [if_neg htouch] at hs
      rcases List.mem_cons.mp hs with rfl | hs
      · exact .inl rfl
      · rcases ih s hs with h | ⟨t,ht,h⟩
        · exact .inr ⟨r,List.mem_cons_self,h⟩
        · exact .inr ⟨t,List.mem_cons_of_mem _ ht,h⟩

/-- What is merged is apart, and within the codes. -/
lemma mergeInto_apart (hsorted : ∀ s∈rs, l.start ≤ s.start) (hrs : rs.Pairwise StatusCodeRange.Before)
    (hlast : l.Valid) (hvalid : ∀ s∈rs, s.Valid) :
    Apart (mergeInto l rs) ∧ ∀ s∈mergeInto l rs, s.Valid := by
  induction rs generalizing l with
  | nil => exact ⟨List.pairwise_singleton _ _,fun s hs => List.mem_singleton.mp hs ▸ hlast⟩
  | cons r rs ih =>
    have hr := hvalid r List.mem_cons_self
    have hrest := List.pairwise_cons.mp hrs
    have hvalid' : ∀ s∈rs, s.Valid := fun s hs => hvalid s (List.mem_cons_of_mem _ hs)
    rw [mergeInto]
    unfold StatusCodeRange.Valid at hr hlast
    by_cases htouch : r.start≤l.stop+1
    · rw [if_pos htouch]
      apply ih (l := ⟨l.start,if l.stop < r.stop then r.stop else l.stop⟩)
        (fun s hs => hsorted s (List.mem_cons_of_mem _ hs)) hrest.2 ?_ hvalid'
      unfold StatusCodeRange.Valid
      dsimp only
      split_ifs <;> omega
    · rw [if_neg htouch]
      obtain ⟨hapart,hall⟩ := ih (l := r) (fun s hs => before_start (hrest.1 s hs)) hrest.2 hr hvalid'
      constructor
      · apply List.pairwise_cons.mpr ⟨?_,hapart⟩
        intro s hs
        rcases mergeInto_start s hs with h | ⟨t,ht,h⟩
        · omega
        · have := before_start (hrest.1 t ht)
          omega
      · intro s hs
        rcases List.mem_cons.mp hs with rfl | hs
        · exact hlast
        · exact hall s hs

/-- Ranges that are apart stay as they are. -/
lemma mergeInto_of_apart (h : Apart (l::rs)) : mergeInto l rs = l::rs := by
  induction rs generalizing l with
  | nil => rfl
  | cons r rs ih =>
    have hparts := List.pairwise_cons.mp h
    have hlt := hparts.1 r List.mem_cons_self
    rw [mergeInto,if_neg (by omega),ih hparts.2]

lemma before_total (r s : StatusCodeRange) : r.Before s ∨ s.Before r := by
  unfold StatusCodeRange.Before
  split_ifs <;> omega

lemma before_trans {r s t : StatusCodeRange} (h : r.Before s) (h' : s.Before t) : r.Before t := by
  unfold StatusCodeRange.Before at h h' ⊢
  split_ifs at h h' ⊢ <;> omega

lemma sorted_ranges (ranges : List StatusCodeRange) :
    (ranges.insertionSort StatusCodeRange.Before).Pairwise StatusCodeRange.Before :=
  have : Std.Total StatusCodeRange.Before := ⟨before_total⟩
  have : IsTrans StatusCodeRange StatusCodeRange.Before := ⟨fun _ _ _ => before_trans⟩
  List.pairwise_insertionSort _ ranges

/-- Sorting and merging covers what was covered, by ranges that are apart. -/
lemma mergeRanges_spec {ranges : List StatusCodeRange} (hvalid : ∀ s∈ranges, s.Valid) :
    let merged := mergeRanges (ranges.insertionSort StatusCodeRange.Before)
    (∀ code, (∃ s∈merged, s.Covers code) ↔ ∃ s∈ranges, s.Covers code) ∧ Apart merged ∧ ∀ s∈merged, s.Valid := by
  intro merged
  have hmem : ∀ s, s∈ranges.insertionSort StatusCodeRange.Before ↔ s∈ranges := fun s => List.mem_insertionSort _
  have hsorted := sorted_ranges ranges
  have hall : ∀ s∈ranges.insertionSort StatusCodeRange.Before, s.Valid := fun s hs => hvalid s ((hmem s).mp hs)
  have hcovers : ∀ code, (∃ s∈ranges, s.Covers code) ↔
      ∃ s∈ranges.insertionSort StatusCodeRange.Before, s.Covers code := by
    intro code
    exact exists_congr (fun s => and_congr_left (fun _ => (hmem s).symm))
  simp only [hcovers]
  change (∀ code, (∃ s∈mergeRanges (ranges.insertionSort StatusCodeRange.Before), s.Covers code) ↔ _) ∧
    Apart (mergeRanges (ranges.insertionSort StatusCodeRange.Before)) ∧
      ∀ s∈mergeRanges (ranges.insertionSort StatusCodeRange.Before), s.Valid
  generalize ranges.insertionSort StatusCodeRange.Before = sorted at hsorted hall
  cases sorted with
  | nil => exact ⟨fun code => Iff.rfl,List.Pairwise.nil,hall⟩
  | cons r rs =>
    have hrest := List.pairwise_cons.mp hsorted
    have hstarts : ∀ s∈rs, r.start ≤ s.start := fun s hs => before_start (hrest.1 s hs)
    have hr := hall r List.mem_cons_self
    have hrs : ∀ s∈rs, s.Valid := fun s hs => hall s (List.mem_cons_of_mem _ hs)
    refine ⟨?_,mergeInto_apart hstarts hrest.2 hr hrs⟩
    intro code
    rw [mergeRanges,mergeInto_covers hstarts hrest.2 hr.2.1 (fun s hs => (hrs s hs).2.1),List.exists_mem_cons_iff]

/-- The search may stop at the first range behind the code. -/
lemma shouldMatchRanges_iff {ranges : List StatusCodeRange} (hapart : Apart ranges) (hvalid : ∀ s∈ranges, s.Valid) :
    shouldMatchRanges code ranges = true ↔ ∃ s∈ranges, s.Covers code := by
  induction ranges with
  | nil => simp [shouldMatchRanges]
  | cons r rs ih =>
    have hparts := List.pairwise_cons.mp hapart
    have hrest := ih hparts.2 (fun s hs => hvalid s (List.mem_cons_of_mem _ hs))
    rw [shouldMatchRanges,List.exists_mem_cons_iff,←hrest]
    by_cases hlow : code < r.start
    · rw [if_pos hlow]
      apply iff_of_false (by simp)
      rintro (hr | htail)
      · exact absurd hr.1 (not_le.mpr hlow)
      · obtain ⟨s,hs,hcovers⟩ := hrest.mp htail
        have hlt := hparts.1 s hs
        have hr := hvalid r List.mem_cons_self
        unfold StatusCodeRange.Covers at hcovers
        unfold StatusCodeRange.Valid at hr
        omega
    · rw [if_neg hlow]
      by_cases hhigh : code ≤ r.stop
      · rw [if_pos hhigh]
        exact iff_of_true rfl (.inl ⟨not_lt.mp hlow,hhigh⟩)
      · rw [if_neg hhigh]
        exact (or_iff_right (fun h => hhigh h.2)).symm

end Merge

/-! ## The printed form -/

section Print
variable {r : StatusCodeRange}

lemma printInt_word {z : ℤ} (h : 0≤z) :
    Text.IsWord (Text.printInt z) ∧ ∀ c∈(Text.printInt z).toList, c.isDigit = true := by
  rw [Text.IsWord,Text.toList_printInt_of_nonneg h]
  have hdigits := List.all_eq_true.mp (Text.isDigit_toDigits z.natAbs)
  exact ⟨⟨Nat.toDigits_ne_nil,fun c hc => Text.isSpace_of_isDigit (hdigits c hc)⟩,hdigits⟩

lemma parseInt64_code {z : ℤ} (h : 100≤z ∧ z≤599) : Text.parseInt64 (Text.printInt z) = some z := by
  rw [Text.parseInt64_printInt (by omega),if_pos (by omega)]

lemma mem_printRange (hr : r.Valid) {c : Char} (hc : c∈(printRange r).toList) : c = '-' ∨ c.isDigit = true := by
  obtain ⟨h100,hle,h599⟩ := hr
  unfold printRange at hc
  split_ifs at hc
  · exact .inr ((printInt_word (by omega)).2 c hc)
  · rw [String.toList_append,String.toList_append,List.mem_append,List.mem_append] at hc
    rcases hc with (hc | hc) | hc
    · exact .inr ((printInt_word (by omega)).2 c hc)
    · exact .inl (List.mem_singleton.mp hc)
    · exact .inr ((printInt_word (by omega)).2 c hc)

lemma printRange_ne_empty (hr : r.Valid) : (printRange r).toList≠[] := by
  obtain ⟨h100,hle,h599⟩ := hr
  unfold printRange
  split_ifs
  · exact (printInt_word (by omega)).1.1
  · simp

lemma not_special {c : Char} (h : c = '-' ∨ c.isDigit = true) :
    Text.isSpace c = false ∧ c≠ ' ' ∧ c≠ ',' ∧ c≠ '，' := by
  rcases h with rfl | h
  · decide
  · refine ⟨Text.isSpace_of_isDigit h,?_,?_,?_⟩ <;> rintro rfl <;> contradiction

lemma printRange_word (hr : r.Valid) : Text.IsWord (printRange r) :=
  ⟨printRange_ne_empty hr,fun _ hc => (not_special (mem_printRange hr hc)).1⟩

lemma removeSpaces_printRange (hr : r.Valid) : removeSpaces (Text.trimSpace (printRange r)) = printRange r := by
  rw [Text.trimSpace_word (printRange_word hr),removeSpaces,List.filter_eq_self.mpr ?_,String.ofList_toList]
  exact fun c hc => decide_eq_true (not_special (mem_printRange hr hc)).2.1

/-- A printed range is read back. -/
lemma parseToken_printRange (hr : r.Valid) : parseHTTPStatusCodeToken (printRange r) = .ok r := by
  have hne : printRange r≠"" := fun h => printRange_ne_empty hr (by rw [h]; rfl)
  have hdigits : ∀ z : ℤ, 0≤z → '-'∉(Text.printInt z).toList := by
    intro z hz hc
    exact absurd ((printInt_word hz).2 '-' hc) (by decide)
  obtain ⟨h100,hle,h599⟩ := hr
  unfold parseHTTPStatusCodeToken
  dsimp only
  rw [removeSpaces_printRange ⟨h100,hle,h599⟩,if_neg hne]
  unfold printRange
  by_cases heq : r.start = r.stop
  · rw [if_pos heq,if_neg (hdigits r.start (by omega)),parseInt64_code ⟨h100,by omega⟩,orFail_some,ok_bind,
      require_of ⟨h100,by omega⟩,ok_bind]
    change Except.ok (⟨r.start,r.start⟩ : StatusCodeRange) = .ok r
    obtain ⟨start,stop⟩ := r
    dsimp only at heq
    rw [heq]
  · have hfirst := (printInt_word (show 0 ≤ r.start by omega)).1.1
    have hsecond := (printInt_word (show 0 ≤ r.stop by omega)).1.1
    have hparts : ¬(Text.printInt r.start = "" ∨ Text.printInt r.stop = "") := by
      rintro (h | h)
      · exact hfirst (by rw [h]; rfl)
      · exact hsecond (by rw [h]; rfl)
    rw [if_neg heq,if_pos (dash_mem_append _ _),split_dash (hdigits r.start (by omega)) (hdigits r.stop (by omega))]
    dsimp only
    rw [if_neg hparts,parseInt64_code ⟨h100,by omega⟩,orFail_some,ok_bind,parseInt64_code ⟨by omega,h599⟩,orFail_some,
      ok_bind,require_of hle,ok_bind,require_of ⟨h100,h599⟩,ok_bind]
    rfl

lemma mem_join {l : List String} {c : Char} (hc : c∈(",".intercalate l).toList) : c = ',' ∨ ∃ s∈l, c∈s.toList := by
  induction l with
  | nil => exact absurd hc (by simp)
  | cons s l ih =>
    cases l with
    | nil =>
      rw [String.intercalate_singleton] at hc
      exact .inr ⟨s,List.mem_cons_self,hc⟩
    | cons t l =>
      rw [String.intercalate_cons_cons,String.toList_append,String.toList_append,List.mem_append,List.mem_append] at hc
      rcases hc with (hc | hc) | hc
      · exact .inr ⟨s,List.mem_cons_self,hc⟩
      · exact .inl (List.mem_singleton.mp hc)
      · rcases ih hc with h | ⟨u,hu,h⟩
        · exact .inl h
        · exact .inr ⟨u,List.mem_cons_of_mem _ hu,h⟩

/-- The tokens of the printed form are the printed ranges. -/
lemma tokens_print {ranges : List StatusCodeRange} (hne : ranges≠[]) (hvalid : ∀ s∈ranges, s.Valid) :
    Text.trimSpace (statusCodeRangesToString ranges)≠"" ∧
      tokens (statusCodeRangesToString ranges) = ranges.map printRange := by
  have hchars : ∀ c∈(statusCodeRangesToString ranges).toList, Text.isSpace c = false ∧ c≠ '，' := by
    intro c hc
    rcases mem_join hc with rfl | ⟨s,hs,hc⟩
    · decide
    · obtain ⟨r,hr,rfl⟩ := List.mem_map.mp hs
      have hspecial := not_special (mem_printRange (hvalid r hr) hc)
      exact ⟨hspecial.1,hspecial.2.2.2⟩
  have hsplit : Text.split (statusCodeRangesToString ranges) ',' = ranges.map printRange := by
    apply Text.split_intercalate (by simpa using hne)
    intro w hw hcomma
    obtain ⟨r,hr,rfl⟩ := List.mem_map.mp hw
    exact (not_special (mem_printRange (hvalid r hr) hcomma)).2.2.1 rfl
  have hword : Text.IsWord (statusCodeRangesToString ranges) := by
    refine ⟨?_,fun c hc => (hchars c hc).1⟩
    intro hnil
    obtain ⟨r,rs,rfl⟩ := List.exists_cons_of_ne_nil hne
    have hempty : statusCodeRangesToString (r::rs) = "" := String.toList_injective hnil
    rw [hempty] at hsplit
    have hfirst := (List.cons.inj hsplit).1
    exact printRange_ne_empty (hvalid r List.mem_cons_self) (by rw [←hfirst]; rfl)
  have hreplace : replaceComma (statusCodeRangesToString ranges) = statusCodeRangesToString ranges := by
    unfold replaceComma
    have hmap : (statusCodeRangesToString ranges).toList.map (fun c => if c = '，' then ',' else c) =
        (statusCodeRangesToString ranges).toList.map id :=
      List.map_congr_left (fun c hc => if_neg (hchars c hc).2)
    rw [hmap,List.map_id,String.ofList_toList]
  constructor
  · rw [Text.trimSpace_word hword]
    intro h
    exact hword.1 (by rw [h]; rfl)
  · unfold tokens
    rw [Text.trimSpace_word hword,hreplace,hsplit,List.map_map]
    have htrim : ranges.map (Text.trimSpace ∘ printRange) = ranges.map printRange :=
      List.map_congr_left (fun r hr => Text.trimSpace_word (printRange_word (hvalid r hr)))
    rw [htrim,List.filter_eq_self]
    intro s hs
    obtain ⟨r,hr,rfl⟩ := List.mem_map.mp hs
    exact decide_eq_true (fun h => printRange_ne_empty (hvalid r hr) (by rw [h]; rfl))

lemma filterMap_printed {ranges : List StatusCodeRange} (hvalid : ∀ s∈ranges, s.Valid) :
    (ranges.map printRange).filterMap (fun seg => (parseHTTPStatusCodeToken seg).toOption) = ranges := by
  induction ranges with
  | nil => rfl
  | cons r rs ih =>
    have hr : (parseHTTPStatusCodeToken (printRange r)).toOption = some r :=
      toOption_eq_some.mpr (parseToken_printRange (hvalid r List.mem_cons_self))
    rw [List.map_cons,List.filterMap_cons,ih (fun s hs => hvalid s (List.mem_cons_of_mem _ hs)),hr]

lemma insertionSort_of_apart {ranges : List StatusCodeRange} (hapart : Apart ranges) (hvalid : ∀ s∈ranges, s.Valid) :
    ranges.insertionSort StatusCodeRange.Before = ranges := by
  apply List.Pairwise.insertionSort_eq
  apply hapart.imp_of_mem
  intro s t hs _ hlt
  have hs := hvalid s hs
  unfold StatusCodeRange.Valid at hs
  unfold StatusCodeRange.Before
  rw [if_neg (by omega)]
  omega

lemma mergeRanges_of_apart {ranges : List StatusCodeRange} (hapart : Apart ranges) : mergeRanges ranges = ranges := by
  cases ranges with
  | nil => rfl
  | cons r rs => exact mergeInto_of_apart hapart

/-- Ranges that are apart are read back from their printed form. -/
lemma parse_print {ranges : List StatusCodeRange} (hapart : Apart ranges) (hvalid : ∀ s∈ranges, s.Valid) :
    parseHTTPStatusCodeRanges (statusCodeRangesToString ranges) = .ok ranges := by
  by_cases hnil : ranges = []
  · subst hnil
    rfl
  · obtain ⟨hne,htokens⟩ := tokens_print hnil hvalid
    have hinvalid : (ranges.map printRange).filter
        (fun seg => (parseHTTPStatusCodeToken seg).toOption.isNone) = [] := by
      rw [List.filter_eq_nil_iff]
      intro seg hseg
      obtain ⟨s,hs,rfl⟩ := List.mem_map.mp hseg
      rw [toOption_eq_some.mpr (parseToken_printRange (hvalid s hs))]
      simp
    unfold parseHTTPStatusCodeRanges
    rw [if_neg hne,htokens]
    dsimp only
    rw [if_neg (not_not.mpr hinvalid),filterMap_printed hvalid,insertionSort_of_apart hapart hvalid,
      mergeRanges_of_apart hapart]

end Print

/-- The ranges that are read match a code exactly if a token of the input covers it, they are sorted and apart, and
they are read back from their printed form. -/
theorem parseHTTPStatusCodeRanges_spec (input : String) (ranges : List StatusCodeRange)
    (h : parseHTTPStatusCodeRanges input = .ok ranges) :
    (∀ code, shouldMatchStatusCodeRanges ranges code = true ↔ ∃ token∈tokens input, TokenCovers token code) ∧
      Apart ranges ∧ (∀ r∈ranges, r.Valid) ∧
      parseHTTPStatusCodeRanges (statusCodeRangesToString ranges) = .ok ranges := by
  have hranges : ∃ parsed : List StatusCodeRange, (∀ s∈parsed, s.Valid) ∧
      (∀ code, (∃ s∈parsed, s.Covers code) ↔ ∃ token∈tokens input, TokenCovers token code) ∧
      ranges = mergeRanges (parsed.insertionSort StatusCodeRange.Before) := by
    unfold parseHTTPStatusCodeRanges at h
    split_ifs at h with hempty
    · obtain rfl := Except.ok.inj h
      refine ⟨[],fun s hs => absurd hs List.not_mem_nil,?_,rfl⟩
      intro code
      have hnone : tokens input = [] := by
        unfold tokens
        rw [hempty]
        decide
      rw [hnone]
      simp
    · dsimp only at h
      split_ifs at h with hinvalid
      rw [not_not] at hinvalid
      obtain rfl := Except.ok.inj h
      have hok : ∀ token∈tokens input, ∃ r, parseHTTPStatusCodeToken token = .ok r := by
        intro token htoken
        have hsome := List.filter_eq_nil_iff.mp hinvalid token htoken
        rw [Bool.not_eq_true,Option.isNone_eq_false_iff] at hsome
        obtain ⟨r,hr⟩ := Option.isSome_iff_exists.mp hsome
        exact ⟨r,toOption_eq_some.mp hr⟩
      refine ⟨_,?_,?_,rfl⟩
      · intro s hs
        obtain ⟨token,-,htoken⟩ := List.mem_filterMap.mp hs
        exact (parseToken_spec (toOption_eq_some.mp htoken)).1
      · intro code
        constructor
        · rintro ⟨s,hs,hcovers⟩
          obtain ⟨token,hmem,htoken⟩ := List.mem_filterMap.mp hs
          exact ⟨token,hmem,(tokenCovers_iff (toOption_eq_some.mp htoken) code).mpr hcovers⟩
        · rintro ⟨token,hmem,hcovers⟩
          obtain ⟨r,hr⟩ := hok token hmem
          exact ⟨r,List.mem_filterMap.mpr ⟨token,hmem,toOption_eq_some.mpr hr⟩,(tokenCovers_iff hr code).mp hcovers⟩
  obtain ⟨parsed,hvalid,htokens,rfl⟩ := hranges
  obtain ⟨hcovers,hapart,hmerged⟩ := mergeRanges_spec hvalid
  refine ⟨?_,hapart,hmerged,parse_print hapart hmerged⟩
  intro code
  rw [←htokens,←hcovers,←shouldMatchRanges_iff hapart hmerged]
  unfold shouldMatchStatusCodeRanges
  by_cases hbounds : code<100 ∨ 599 < code
  · rw [if_pos hbounds]
    apply iff_of_false (by simp)
    intro hmatch
    obtain ⟨s,hs,hcover⟩ := (shouldMatchRanges_iff hapart hmerged).mp hmatch
    have hs := hmerged s hs
    unfold StatusCodeRange.Covers at hcover
    unfold StatusCodeRange.Valid at hs
    omega
  · rw [if_neg hbounds]

theorem parseHTTPStatusCodeRanges_spec_tokens :
    parseHTTPStatusCodeRanges (statusCodeRangesToString [⟨400,499⟩,⟨503,504⟩]) = .ok [⟨400,499⟩,⟨503,504⟩] :=
  (parseHTTPStatusCodeRanges_spec " 404，400-450, 451 - 499,503,504,, " _ (by decide)).2.2.2

end Relay
end Tierflow
