import Tierflow.Foundation.Pieces
import Tierflow.Relay.StatusCodeRanges

/-! The status code rules as the console reads them, beside the server. Both cut the input at commas and merge what
they read; they differ in what counts as blank, in signs, and in what may stand behind a range. -/
namespace Tierflow
namespace Relay
namespace Console
open Text

/-- The white space of the console: the next-line character is none, the byte-order mark is. -/
def isBlank (c : Char) : Bool := (isSpace c && c.toNat != 0x85) || c.toNat == 0xFEFF

def trim (s : String) : String := String.ofList (trimBy isBlank s.toList)

/-- A text without its white space. -/
def bare (s : String) : String := String.ofList (s.toList.filter (fun c => !isBlank c))

def isValidCode (code : ℕ) : Bool := 100 ≤ code && code≤599

/-- What stands behind a second dash is not looked at. -/
def parseToken (token : String) : Option StatusCodeRange :=
  let cleaned := bare (trim token)
  if cleaned = "" then none
  else if '-'∈cleaned.toList then
    match split cleaned '-' with
    | a::b::_ => do
      let start ← digits? a.toList
      let stop ← digits? b.toList
      if !isValidCode start || !isValidCode stop || start>stop then none else some ⟨start,stop⟩
    | _ => none
  else do
    let code ← digits? cleaned.toList
    if !isValidCode code then none else some ⟨code,code⟩

/-- The next range is put behind the others or taken in by the last of them. -/
def mergeStep (merged : List StatusCodeRange) (current : StatusCodeRange) : List StatusCodeRange :=
  match merged.getLast? with
  | none => merged++[current]
  | some last =>
    if current.start>last.stop+1 then merged++[current]
    else merged.dropLast++[⟨last.start,max last.stop current.stop⟩]

def mergeRanges (ranges : List StatusCodeRange) : List StatusCodeRange :=
  if ranges.length = 0 then [] else (ranges.insertionSort StatusCodeRange.Before).foldl mergeStep []

structure ParsedHttpStatusCodeRules where
  ok : Bool
  ranges : List StatusCodeRange
  tokens : List String
  normalized : String
  invalidTokens : List String
deriving Repr, DecidableEq

def segments (raw : String) : List String := ((split (replaceComma raw) ',').map trim).filter (fun s => s≠"")

def parseHttpStatusCodeRules (input : String) : ParsedHttpStatusCodeRules :=
  let raw := trim input
  if raw.length = 0 then ⟨true,[],[],"",[]⟩
  else
    let invalidTokens := (segments raw).filter (fun segment => (parseToken segment).isNone)
    if invalidTokens.length>0 then ⟨false,[],[],raw,invalidTokens⟩
    else
      let merged := mergeRanges ((segments raw).filterMap parseToken)
      let tokens := merged.map printRange
      ⟨true,merged,tokens,",".intercalate tokens,[]⟩

/-! ## What each side accepts -/

/-- Digits that spell a status code. -/
def Spells (s : String) (n : ℕ) : Prop := digits? s.toList = some n ∧ 100≤n ∧ n≤599

/-- A code, or two with a dash between them and maybe more behind another dash. -/
def Reads (u : String) (r : StatusCodeRange) : Prop :=
  (∃ n : ℕ, Spells u n ∧ r = ⟨n,n⟩) ∨
    ∃ (a b : String) (m n : ℕ), (u = a++"-"++b ∨ ∃ rest, u = a++"-"++b++"-"++rest) ∧ Spells a m ∧ Spells b n ∧ m≤n ∧
      r = ⟨m,n⟩

/-- A piece that the console reads or skips. -/
def Accepts (p : String) : Prop := bare p = "" ∨ ∃ r, Reads (bare p) r

/-- A piece that the server reads or skips. -/
def ServerAccepts (p : String) : Prop :=
  trimSpace p = "" ∨ ∃ start stop, Denotes p start stop ∧ 100 ≤ start ∧ start ≤ stop ∧ stop≤599

/-- White space that is not cut off and not a plain blank, a byte-order mark, or a second dash. -/
def Loose (p : String) : Prop :=
  (∃ c∈p.toList, c.toNat = 0xFEFF) ∨ (∃ c∈(trimSpace p).toList, isSpace c ∧ c≠ ' ') ∨ 2≤p.toList.count '-'

/-- A plus sign or a next-line character. -/
def Signed (p : String) : Prop := '+'∈p.toList ∨ ∃ c∈p.toList, c.toNat = 0x85

def pieces (input : String) : List String := split (replaceComma input) ','

/-- Both sides accept the input or both refuse it, and what they accept means the same to them. -/
def Agree (input : String) : Prop :=
  ((parseHttpStatusCodeRules input).ok = true ↔ ∃ ranges, parseHTTPStatusCodeRanges input = .ok ranges) ∧
    ∀ ranges, (parseHttpStatusCodeRules input).ok = true → parseHTTPStatusCodeRanges input = .ok ranges →
      (parseHttpStatusCodeRules input).ranges = ranges

/-! ## Merging -/

lemma foldl_mergeStep (pre : List StatusCodeRange) (last : StatusCodeRange) (rs : List StatusCodeRange) :
    rs.foldl mergeStep (pre++[last]) = pre++mergeInto last rs := by
  induction rs generalizing pre last with
  | nil => rfl
  | cons r rs ih =>
    rw [List.foldl_cons,mergeStep,List.getLast?_concat,mergeInto]
    dsimp only
    by_cases htouch : r.start≤last.stop+1
    · have hmax : max last.stop r.stop = if last.stop < r.stop then r.stop else last.stop := by
        split_ifs <;> omega
      rw [if_neg (not_lt.mpr htouch),if_pos htouch,List.dropLast_concat,ih,hmax]
    · rw [if_pos (not_le.mp htouch),if_neg htouch,ih,List.append_assoc,List.singleton_append]

/-- Both sides merge alike. -/
lemma mergeRanges_eq (ranges : List StatusCodeRange) :
    mergeRanges ranges = Relay.mergeRanges (ranges.insertionSort StatusCodeRange.Before) := by
  unfold mergeRanges
  cases h : ranges.insertionSort StatusCodeRange.Before with
  | nil =>
    rw [List.foldl_nil,ite_self]
    rfl
  | cons r rs =>
    have hne : ranges.length≠0 := by
      have hperm := List.perm_insertionSort StatusCodeRange.Before ranges
      rw [h] at hperm
      rw [←hperm.length_eq]
      simp
    rw [if_neg hne]
    exact foldl_mergeStep [] r rs

/-! ## From the input to its pieces -/

section Pieces
variable {blank : Char → Bool} {input token p : String} {r : StatusCodeRange}

lemma map_trim_split (hcomma : blank ',' = false) (hwide : blank '，' = false) (input : String) :
    (split (replaceComma (String.ofList (trimBy blank input.toList))) ',').map
        (fun s => String.ofList (trimBy blank s.toList)) =
      (split (replaceComma input) ',').map (fun s => String.ofList (trimBy blank s.toList)) := by
  have hmap : ∀ c, blank (if c = '，' then ',' else c) = blank c := by
    intro c
    split_ifs with hc
    · rw [hc,hcomma,hwide]
    · rfl
  have h := congrArg (List.map String.ofList)
    (map_trimBy_splitChars hcomma (input.toList.map (fun c => if c = '，' then ',' else c)))
  rw [trimBy_map hmap] at h
  simpa only [split,replaceComma,String.toList_ofList,List.map_map,Function.comp_def] using h

lemma segments_trim (input : String) : segments (trim input) = ((pieces input).map trim).filter (fun s => s≠"") := by
  have hcomma : isBlank ',' = false := by decide
  have hwide : isBlank '，' = false := by decide
  exact congrArg (List.filter _) (map_trim_split hcomma hwide input)

lemma tokens_eq (input : String) : tokens input = ((pieces input).map trimSpace).filter (fun s => s≠"") := by
  have hcomma : isSpace ',' = false := by decide
  have hwide : isSpace '，' = false := by decide
  exact congrArg (List.filter _) (map_trim_split hcomma hwide input)

lemma ok_iff : (parseHttpStatusCodeRules input).ok = true ↔
    ∀ segment∈segments (trim input), ∃ r, parseToken segment = some r := by
  have hfilter : (segments (trim input)).filter (fun segment => (parseToken segment).isNone) = [] ↔
      ∀ segment∈segments (trim input), ∃ r, parseToken segment = some r := by
    rw [List.filter_eq_nil_iff]
    refine forall₂_congr fun segment _ => ?_
    cases parseToken segment <;> simp
  unfold parseHttpStatusCodeRules
  dsimp only
  by_cases hempty : (trim input).length = 0
  · have hnone : segments (trim input) = [] := by
      rw [String.length_eq_zero_iff.mp hempty]
      decide
    rw [if_pos hempty,hnone]
    simp
  · rw [if_neg hempty,←hfilter]
    by_cases h : (segments (trim input)).filter (fun segment => (parseToken segment).isNone) = []
    · simp [h]
    · have hpos := List.length_pos_iff.mpr h
      simp [h,hpos]

lemma ranges_of_ok (h : (parseHttpStatusCodeRules input).ok = true) :
    (parseHttpStatusCodeRules input).ranges = mergeRanges ((segments (trim input)).filterMap parseToken) := by
  unfold parseHttpStatusCodeRules at h ⊢
  dsimp only at h ⊢
  by_cases hempty : (trim input).length = 0
  · have hnone : segments (trim input) = [] := by
      rw [String.length_eq_zero_iff.mp hempty]
      decide
    rw [if_pos hempty,hnone]
    rfl
  · rw [if_neg hempty] at h ⊢
    by_cases hinvalid : ((segments (trim input)).filter (fun segment => (parseToken segment).isNone)).length>0
    · rw [if_pos hinvalid] at h
      cases h
    · rw [if_neg hinvalid]

lemma server_ok_iff {ranges : List StatusCodeRange} : parseHTTPStatusCodeRanges input = .ok ranges ↔
    (∀ seg∈tokens input, ∃ r, parseHTTPStatusCodeToken seg = .ok r) ∧
      ranges = Relay.mergeRanges (((tokens input).filterMap
        (fun seg => (parseHTTPStatusCodeToken seg).toOption)).insertionSort StatusCodeRange.Before) := by
  have hfilter : (tokens input).filter (fun seg => (parseHTTPStatusCodeToken seg).toOption.isNone) = [] ↔
      ∀ seg∈tokens input, ∃ r, parseHTTPStatusCodeToken seg = .ok r := by
    rw [List.filter_eq_nil_iff]
    refine forall₂_congr fun seg _ => ?_
    cases parseHTTPStatusCodeToken seg <;> simp [Except.toOption]
  unfold parseHTTPStatusCodeRanges
  by_cases hempty : trimSpace input = ""
  · have hnone : tokens input = [] := by
      rw [tokens,hempty]
      decide
    rw [if_pos hempty,hnone,Except.ok.injEq,eq_comm]
    exact (and_iff_right (fun seg hseg => absurd hseg List.not_mem_nil)).symm
  · rw [if_neg hempty]
    dsimp only
    by_cases h : (tokens input).filter (fun seg => (parseHTTPStatusCodeToken seg).toOption.isNone) = []
    · rw [if_neg (not_not.mpr h),Except.ok.injEq,eq_comm]
      exact (and_iff_right (hfilter.mp h)).symm
    · rw [if_pos h]
      exact iff_of_false (by rintro ⟨⟩) (fun hn => h (hfilter.mpr hn.1))

lemma bare_trim (s : String) : bare (trim s) = bare s := by
  unfold bare trim
  rw [String.toList_ofList,filter_trimBy (fun c hc => by simp [hc])]

lemma trim_eq_empty_iff {s : String} : trim s = "" ↔ bare s = "" := by
  rw [trim,bare,String.ofList_eq_empty_iff,String.ofList_eq_empty_iff,trimBy_eq_nil_iff,List.filter_eq_nil_iff]
  simp

end Pieces

/-! ## Tokens -/

section Tokens
variable {u token a b : String} {m n : ℕ} {r : StatusCodeRange}

lemma digits_of_spells (h : Spells u n) : u.toList≠[] ∧ ∀ c∈u.toList, c.isDigit = true := by
  have hd := h.1
  unfold digits? at hd
  split_ifs at hd with hall
  exact ⟨hall.1,by simpa using hall.2⟩

lemma dash_notMem_of_spells (h : Spells u n) : '-'∉u.toList := fun hmem =>
  absurd ((digits_of_spells h).2 _ hmem) (by decide)

lemma split_of_notMem {s : String} (h : '-'∉s.toList) : split s '-' = [s] := by
  rw [split,splitChars_word h,List.map_singleton,String.ofList_toList]

/-- Between dashes, only the first two pieces are looked at. -/
lemma split_two_iff (ha : '-'∉a.toList) (hb : '-'∉b.toList) :
    (∃ rest, split u '-' = a::b::rest) ↔ u = a++"-"++b ∨ ∃ rest, u = a++"-"++b++"-"++rest := by
  have hsep : String.singleton '-' = "-" := rfl
  constructor
  · rintro ⟨rest,h⟩
    have hjoin := intercalate_split u '-'
    rw [h,hsep] at hjoin
    cases rest with
    | nil =>
      refine .inl (hjoin.symm.trans ?_)
      simp [String.intercalate_cons_cons,String.append_assoc]
    | cons c rest =>
      refine .inr ⟨"-".intercalate (c::rest),hjoin.symm.trans ?_⟩
      simp [String.intercalate_cons_cons,String.append_assoc]
  · have ha' : split a '-' = [a] := split_of_notMem ha
    have hb' : split b '-' = [b] := split_of_notMem hb
    rintro (rfl | ⟨rest,rfl⟩)
    · exact ⟨[],by rw [←hsep,split_append_sep,ha',hb']; rfl⟩
    · exact ⟨split rest '-',by rw [←hsep,split_append_sep,split_append_sep,ha',hb']; rfl⟩

lemma isValidCode_iff : isValidCode n = true ↔ 100≤n ∧ n≤599 := by
  rw [isValidCode,Bool.and_eq_true,decide_eq_true_eq,decide_eq_true_eq]

lemma parseToken_iff : parseToken token = some r ↔ Reads (bare token) r := by
  unfold parseToken
  rw [bare_trim]
  dsimp only
  generalize bare token = u
  by_cases hempty : u = ""
  · rw [if_pos hempty]
    refine iff_of_false (fun h => nomatch h) ?_
    rintro (⟨n,h,-⟩ | ⟨a,b,m,n,h,-⟩)
    · exact (digits_of_spells h).1 (by rw [hempty]; rfl)
    · rcases h with h | ⟨rest,h⟩
      · exact absurd (hempty ▸ h) (by simp)
      · exact absurd (hempty ▸ h) (by simp)
  rw [if_neg hempty]
  by_cases hdash : '-'∈u.toList
  · rw [if_pos hdash]
    cases hs : split u '-' with
    | nil => exact absurd hs (split_ne_nil u '-')
    | cons a rest =>
      have ha : '-'∉a.toList := sep_notMem_of_mem_split (hs ▸ List.mem_cons_self)
      cases rest with
      | nil =>
        have hjoin := intercalate_split u '-'
        rw [hs,String.intercalate_singleton] at hjoin
        exact absurd (hjoin ▸ hdash) ha
      | cons b rest =>
        have hb : '-'∉b.toList := sep_notMem_of_mem_split (hs ▸ List.mem_cons_of_mem _ List.mem_cons_self)
        simp only [Option.bind_eq_bind,Option.bind_eq_some_iff]
        constructor
        · rintro ⟨start,hstart,stop,hstop,hvalid⟩
          split_ifs at hvalid with hbad
          simp only [Bool.or_eq_true,Bool.not_eq_true',decide_eq_true_eq,not_or,Bool.not_eq_false,not_lt,
            isValidCode_iff] at hbad
          exact .inr ⟨a,b,start,stop,(split_two_iff ha hb).mp ⟨rest,hs⟩,⟨hstart,hbad.1.1⟩,⟨hstop,hbad.1.2⟩,hbad.2,
            (Option.some.inj hvalid).symm⟩
        · rintro (⟨n,h,-⟩ | ⟨a',b',m,n,hform,ha',hb',hle,rfl⟩)
          · exact absurd hdash (dash_notMem_of_spells h)
          · obtain ⟨rest',hs'⟩ :=
              (split_two_iff (dash_notMem_of_spells ha') (dash_notMem_of_spells hb')).mpr hform
            rw [hs] at hs'
            obtain ⟨rfl,htail⟩ := List.cons.inj hs'
            obtain ⟨rfl,-⟩ := List.cons.inj htail
            refine ⟨m,ha'.1,n,hb'.1,if_neg ?_⟩
            simp only [Bool.or_eq_true,Bool.not_eq_true',decide_eq_true_eq,not_or,Bool.not_eq_false,not_lt,
              isValidCode_iff]
            exact ⟨⟨ha'.2,hb'.2⟩,hle⟩
  · rw [if_neg hdash]
    simp only [Option.bind_eq_bind,Option.bind_eq_some_iff]
    constructor
    · rintro ⟨code,hcode,hvalid⟩
      split_ifs at hvalid with hbad
      rw [Bool.not_eq_true,Bool.not_eq_false',isValidCode_iff] at hbad
      exact .inl ⟨code,⟨hcode,hbad⟩,(Option.some.inj hvalid).symm⟩
    · rintro (⟨n,h,rfl⟩ | ⟨a,b,m,n,hform,-⟩)
      · refine ⟨n,h.1,if_neg ?_⟩
        rw [Bool.not_eq_true,Bool.not_eq_false',isValidCode_iff]
        exact h.2
      · rcases hform with rfl | ⟨rest,rfl⟩
        · exact absurd (by simp) hdash
        · exact absurd (by simp) hdash

/-- Without a sign, an integer of the server is digits. -/
lemma parseInt64_eq_some_iff {z : ℤ} (hplus : '+'∉u.toList) (hdash : '-'∉u.toList) (hz : 100≤z ∧ z≤599) :
    parseInt64 u = some z ↔ ∃ n : ℕ, Spells u n ∧ z = n := by
  have hunsigned : ∀ read : List Char → Option ℤ, signed? read u.toList = read u.toList := by
    intro read
    cases hl : u.toList with
    | nil => rfl
    | cons c l =>
      rw [hl,List.mem_cons,not_or] at hplus hdash
      unfold signed?
      split
      · next h => exact absurd (List.cons.inj h).1.symm hdash.1
      · next h => exact absurd (List.cons.inj h).1.symm hplus.1
      · rfl
  rw [parseInt64,hunsigned,Option.filter_eq_some_iff,Option.map_eq_some_iff]
  constructor
  · rintro ⟨⟨n,hn,rfl⟩,-⟩
    exact ⟨n,⟨hn,by omega⟩,rfl⟩
  · rintro ⟨n,hn,rfl⟩
    refine ⟨⟨n,hn.1,rfl⟩,?_⟩
    simp only [Bool.and_eq_true,decide_eq_true_eq]
    omega

/-- An integer of the server holds nothing but digits and a sign. -/
lemma mem_of_parseInt64 {z : ℤ} (h : parseInt64 u = some z) {c : Char} (hc : c∈u.toList) :
    c.isDigit = true ∨ c = '+' ∨ c = '-' := by
  have hdigits : ∀ l : List Char, (digits? l).map (fun n : ℕ => (n : ℤ))≠none → ∀ c∈l, c.isDigit = true := by
    intro l hl
    unfold digits? at hl
    split_ifs at hl with hall
    · simpa using hall.2
    · exact absurd rfl hl
  rw [parseInt64,Option.filter_eq_some_iff] at h
  obtain ⟨h,-⟩ := h
  revert hc
  cases hl : u.toList with
  | nil => exact fun hc => nomatch hc
  | cons d l =>
    rw [hl] at h
    unfold signed? at h
    intro hc
    split at h
    · next hcons =>
      obtain ⟨rfl,rfl⟩ := List.cons.inj hcons
      rcases List.mem_cons.mp hc with rfl | hc
      · exact .inr (.inr rfl)
      · exact .inl (hdigits _ (fun hn => by simp [hn] at h) c hc)
    · next hcons =>
      obtain ⟨rfl,rfl⟩ := List.cons.inj hcons
      rcases List.mem_cons.mp hc with rfl | hc
      · exact .inr (.inl rfl)
      · exact .inl (hdigits _ (fun hn => by simp [hn] at h) c hc)
    · exact .inl (hdigits _ (fun hn => by simp [hn] at h) c hc)

end Tokens

/-! ## Where the two sides differ -/

section Sides
variable {p u : String} {r : StatusCodeRange} {c : Char}

/-- What a text without blanks stands for on the server. -/
def Names (u : String) (start stop : ℤ) : Prop :=
  ('-'∉u.toList ∧ parseInt64 u = some start ∧ stop = start) ∨
    ∃ first second : String, u = first++"-"++second ∧ '-'∉first.toList ∧ '-'∉second.toList ∧
      parseInt64 first = some start ∧ parseInt64 second = some stop

lemma denotes_iff {start stop : ℤ} : Denotes p start stop ↔ Names (removeSpaces (trimSpace p)) start stop := Iff.rfl

lemma parseInt64_empty : parseInt64 "" = none := by decide

lemma serverToken_iff : parseHTTPStatusCodeToken p = .ok r ↔ Denotes p r.start r.stop ∧ r.Valid := by
  constructor
  · intro h
    obtain ⟨hvalid,hdenotes⟩ := parseToken_spec h
    exact ⟨(hdenotes _ _).mpr ⟨rfl,rfl⟩,hvalid⟩
  · rintro ⟨hdenotes,hstart,hle,hstop⟩
    rw [denotes_iff] at hdenotes
    unfold parseHTTPStatusCodeToken
    dsimp only
    generalize removeSpaces (trimSpace p) = u at hdenotes ⊢
    rcases hdenotes with ⟨hdash,hcode,hsame⟩ | ⟨first,second,rfl,hfirst,hsecond,hlo,hhi⟩
    · have hne : u≠"" := by
        rintro rfl
        rw [parseInt64_empty] at hcode
        cases hcode
      rw [if_neg hne,if_neg hdash,hcode,orFail_some,ok_bind,require_of ⟨hstart,hsame ▸ hstop⟩,ok_bind]
      cases r
      exact congrArg Except.ok (congrArg _ hsame.symm)
    · have hne : first++"-"++second≠"" := by simp
      have hfilled : ¬(first = "" ∨ second = "") := by
        rintro (rfl | rfl)
        · rw [parseInt64_empty] at hlo
          cases hlo
        · rw [parseInt64_empty] at hhi
          cases hhi
      rw [if_neg hne,if_pos (dash_mem_append first second),split_dash hfirst hsecond]
      dsimp only
      rw [if_neg hfilled,hlo,hhi,orFail_some,orFail_some,ok_bind,ok_bind,require_of hle,ok_bind,
        require_of ⟨hstart,hstop⟩,ok_bind]
      rfl

lemma mem_bare : c∈(bare p).toList ↔ c∈p.toList ∧ isBlank c = false := by
  rw [bare,String.toList_ofList,List.mem_filter]
  simp

lemma mem_removeSpaces (h : isSpace c = false) : c∈(removeSpaces (trimSpace p)).toList ↔ c∈p.toList := by
  have hne : c≠ ' ' := by
    rintro rfl
    exact absurd h (by decide)
  rw [removeSpaces,String.toList_ofList,List.mem_filter,trimSpace,String.toList_ofList,←trimBy_isSpace,mem_trimBy h]
  simp [hne]

lemma count_bare : (bare p).toList.count '-' = p.toList.count '-' := by
  rw [bare,String.toList_ofList,List.count_filter (by decide)]

lemma count_removeSpaces : (removeSpaces (trimSpace p)).toList.count '-' = p.toList.count '-' := by
  have hkept : (trimBy isSpace p.toList).filter (fun a => !isSpace a) = p.toList.filter (fun a => !isSpace a) :=
    filter_trimBy (fun a ha => by simp [ha])
  have hcount := congrArg (List.count '-') hkept
  rw [List.count_filter (by decide),List.count_filter (by decide)] at hcount
  rw [removeSpaces,String.toList_ofList,List.count_filter (by decide),trimSpace,String.toList_ofList,←trimBy_isSpace,
    hcount]

lemma isSpace_mark (h : c.toNat = 0xFEFF) : isSpace c = false := by
  unfold isSpace
  simp [h]

lemma isBlank_nextLine (h : c.toNat = 0x85) : isBlank c = false := by
  unfold isBlank
  simp [h]

lemma mem_of_names {start stop : ℤ} (h : Names u start stop) (hc : c∈u.toList) :
    c.isDigit = true ∨ c = '+' ∨ c = '-' := by
  rcases h with ⟨-,hcode,-⟩ | ⟨first,second,rfl,-,-,hlo,hhi⟩
  · exact mem_of_parseInt64 hcode hc
  · rw [String.toList_append,String.toList_append,List.mem_append,List.mem_append] at hc
    rcases hc with (hc | hc) | hc
    · exact mem_of_parseInt64 hlo hc
    · exact .inr (.inr (List.mem_singleton.mp hc))
    · exact mem_of_parseInt64 hhi hc

lemma count_of_names {start stop : ℤ} (h : Names u start stop) : u.toList.count '-'≤1 := by
  rcases h with ⟨hdash,-⟩ | ⟨first,second,rfl,hfirst,hsecond,-⟩
  · rw [List.count_eq_zero.mpr hdash]
    exact zero_le_one
  · rw [String.toList_append,String.toList_append,List.count_append,List.count_append,List.count_eq_zero.mpr hfirst,
      List.count_eq_zero.mpr hsecond]
    decide

/-- No digit and no sign is white space or a mark. -/
lemma plain_of_sign (h : c.isDigit = true ∨ c = '+' ∨ c = '-') : isSpace c = false ∧ c.toNat≠0xFEFF := by
  rcases h with h | rfl | rfl
  · refine ⟨isSpace_of_isDigit h,?_⟩
    have hrange : c.toNat≤57 := by
      rw [Char.isDigit,Bool.and_eq_true,decide_eq_true_eq,decide_eq_true_eq] at h
      exact UInt32.le_iff_toNat_le.mp h.2
    omega
  · decide
  · decide

/-- The server accepts nothing loose. -/
lemma not_loose_of_server (h : ServerAccepts p) : ¬Loose p := by
  rcases h with hempty | ⟨start,stop,hdenotes,-⟩
  · have hall : ∀ c∈p.toList, isSpace c = true := by
      rw [trimSpace,String.ofList_eq_empty_iff,←trimBy_isSpace,trimBy_eq_nil_iff] at hempty
      exact hempty
    rintro (⟨c,hc,hmark⟩ | ⟨c,hc,-⟩ | hcount)
    · exact absurd (hall c hc) (by simp [isSpace_mark hmark])
    · rw [hempty] at hc
      cases hc
    · have hnone : '-'∉p.toList := fun hc => absurd (hall _ hc) (by decide)
      rw [List.count_eq_zero.mpr hnone] at hcount
      omega
  · rw [denotes_iff] at hdenotes
    rintro (⟨c,hc,hmark⟩ | ⟨c,hc,hspace,hne⟩ | hcount)
    · have hin := (mem_removeSpaces (isSpace_mark hmark)).mpr hc
      exact (plain_of_sign (mem_of_names hdenotes hin)).2 hmark
    · have hin : c∈(removeSpaces (trimSpace p)).toList := by
        rw [removeSpaces,String.toList_ofList,List.mem_filter]
        exact ⟨hc,by simpa using hne⟩
      exact absurd hspace (by simp [(plain_of_sign (mem_of_names hdenotes hin)).1])
    · have hone := count_of_names hdenotes
      rw [count_removeSpaces] at hone
      omega

lemma mem_of_reads (h : Reads u r) (hcount : u.toList.count '-'≤1) (hc : c∈u.toList) :
    c.isDigit = true ∨ c = '-' := by
  rcases h with ⟨n,hn,-⟩ | ⟨a,b,m,n,hform,ha,hb,-⟩
  · exact .inl ((digits_of_spells hn).2 c hc)
  · rcases hform with rfl | ⟨rest,rfl⟩
    · rw [String.toList_append,String.toList_append,List.mem_append,List.mem_append] at hc
      rcases hc with (hc | hc) | hc
      · exact .inl ((digits_of_spells ha).2 c hc)
      · exact .inr (List.mem_singleton.mp hc)
      · exact .inl ((digits_of_spells hb).2 c hc)
    · have htwo : 2≤(a++"-"++b++"-"++rest).toList.count '-' := by
        simp only [String.toList_append,List.count_append]
        have hdash : "-".toList.count '-' = 1 := by decide
        omega
      omega

/-- What the console accepts and is not loose has no sign. -/
lemma not_signed_of_accepts (h : Accepts p) (hloose : ¬Loose p) : ¬Signed p := by
  have hplus : isBlank '+' = false := by decide
  rcases h with hempty | ⟨r,hreads⟩
  · rintro (hc | ⟨c,hc,hline⟩)
    · have hin := mem_bare.mpr ⟨hc,hplus⟩
      rw [hempty] at hin
      cases hin
    · have hin := mem_bare.mpr ⟨hc,isBlank_nextLine hline⟩
      rw [hempty] at hin
      cases hin
  · have hcount : (bare p).toList.count '-'≤1 := by
      rw [count_bare]
      by_contra hn
      exact hloose (.inr (.inr (by omega)))
    rintro (hc | ⟨c,hc,hline⟩)
    · rcases mem_of_reads hreads hcount (mem_bare.mpr ⟨hc,hplus⟩) with h | h
      · exact absurd h (by decide)
      · exact absurd h (by decide)
    · rcases mem_of_reads hreads hcount (mem_bare.mpr ⟨hc,isBlank_nextLine hline⟩) with h | h
      · have hspace := isSpace_of_isDigit h
        unfold isSpace at hspace
        simp [hline] at hspace
      · rw [h] at hline
        exact absurd hline (by decide)

/-- On what is neither loose nor signed, both sides see the same blanks. -/
lemma isBlank_eq (hloose : ¬Loose p) (hsigned : ¬Signed p) (hc : c∈p.toList) : isBlank c = isSpace c := by
  have hmark : c.toNat≠0xFEFF := fun h => hloose (.inl ⟨c,hc,h⟩)
  have hline : c.toNat≠0x85 := fun h => hsigned (.inr ⟨c,hc,h⟩)
  have hother : (c.toNat != 0x85) = true := bne_iff_ne.mpr hline
  have hno : (c.toNat == 0xFEFF) = false := beq_false_of_ne hmark
  rw [isBlank,hother,hno,Bool.and_true,Bool.or_false]

lemma bare_eq (hloose : ¬Loose p) (hsigned : ¬Signed p) : bare p = removeSpaces (trimSpace p) := by
  have hbare : p.toList.filter (fun c => !isBlank c) = p.toList.filter (fun c => !isSpace c) :=
    List.filter_congr fun c hc => by rw [isBlank_eq hloose hsigned hc]
  have hinner : (trimSpace p).toList.filter (fun c => !isSpace c) = (trimSpace p).toList.filter (fun c => c≠ ' ') := by
    refine List.filter_congr fun c hc => ?_
    by_cases hne : c = ' '
    · rw [hne]
      decide
    · have hspace : isSpace c = false :=
        Bool.eq_false_iff.mpr fun h => hloose (.inr (.inl ⟨c,hc,h,hne⟩))
      simp [hspace,hne]
  have htrim : (trimBy isSpace p.toList).filter (fun c => !isSpace c) = p.toList.filter (fun c => !isSpace c) :=
    filter_trimBy (fun a ha => by simp [ha])
  rw [bare,hbare,←htrim,trimBy_isSpace,removeSpaces,←hinner,trimSpace,String.toList_ofList]

lemma reads_iff_names (hplus : '+'∉u.toList) (hcount : u.toList.count '-'≤1) :
    Reads u r ↔ Names u r.start r.stop ∧ r.Valid := by
  constructor
  · rintro (⟨n,hn,rfl⟩ | ⟨a,b,m,n,hform,ha,hb,hle,rfl⟩)
    · have hdash := dash_notMem_of_spells hn
      have hbounds : (100 : ℤ)≤n ∧ (n : ℤ)≤599 := by exact_mod_cast hn.2
      exact ⟨.inl ⟨hdash,(parseInt64_eq_some_iff hplus hdash hbounds).mpr ⟨n,hn,rfl⟩,rfl⟩,hbounds.1,le_rfl,hbounds.2⟩
    · rcases hform with rfl | ⟨rest,rfl⟩
      · have hdasha := dash_notMem_of_spells ha
        have hdashb := dash_notMem_of_spells hb
        simp only [String.toList_append,List.mem_append,not_or] at hplus
        have hm : (100 : ℤ) ≤ m ∧ (m : ℤ)≤599 := by exact_mod_cast ha.2
        have hn : (100 : ℤ)≤n ∧ (n : ℤ)≤599 := by exact_mod_cast hb.2
        exact ⟨.inr ⟨a,b,rfl,hdasha,hdashb,(parseInt64_eq_some_iff hplus.1.1 hdasha hm).mpr ⟨m,ha,rfl⟩,
          (parseInt64_eq_some_iff hplus.2 hdashb hn).mpr ⟨n,hb,rfl⟩⟩,hm.1,Int.ofNat_le.mpr hle,hn.2⟩
      · simp only [String.toList_append,List.count_append] at hcount
        have hdash : "-".toList.count '-' = 1 := by decide
        omega
  · obtain ⟨lo,hi⟩ := r
    rintro ⟨⟨hdash,hcode,hsame⟩ | ⟨first,second,rfl,hfirst,hsecond,hlo,hhi⟩,hlow,hle,hhigh⟩
    · dsimp only at hcode hsame hlow hle hhigh
      subst hsame
      obtain ⟨n,hn,rfl⟩ := (parseInt64_eq_some_iff hplus hdash ⟨hlow,hhigh⟩).mp hcode
      exact .inl ⟨n,hn,rfl⟩
    · dsimp only at hlo hhi hlow hle hhigh
      simp only [String.toList_append,List.mem_append,not_or] at hplus
      obtain ⟨m,hm,rfl⟩ := (parseInt64_eq_some_iff hplus.1.1 hfirst ⟨hlow,hle.trans hhigh⟩).mp hlo
      obtain ⟨n,hn,rfl⟩ := (parseInt64_eq_some_iff hplus.2 hsecond ⟨hlow.trans hle,hhigh⟩).mp hhi
      exact .inr ⟨first,second,m,n,.inl rfl,hm,hn,Int.ofNat_le.mp hle,rfl⟩

/-- What is neither loose nor signed is read alike. -/
lemma tokens_agree (hloose : ¬Loose p) (hsigned : ¬Signed p) :
    parseToken (trim p) = some r ↔ parseHTTPStatusCodeToken (trimSpace p) = .ok r := by
  have hbare := bare_eq hloose hsigned
  have hplus : '+'∉(bare p).toList := fun h => hsigned (.inl (mem_bare.mp h).1)
  have hcount : (bare p).toList.count '-'≤1 := by
    rw [count_bare]
    by_contra hn
    exact hloose (.inr (.inr (by omega)))
  rw [parseToken_iff,bare_trim,reads_iff_names hplus hcount,serverToken_iff,denotes_iff,trimSpace_idem,hbare]

lemma empty_agree (hloose : ¬Loose p) (hsigned : ¬Signed p) : trim p = "" ↔ trimSpace p = "" := by
  rw [trim,trimSpace,String.ofList_eq_empty_iff,String.ofList_eq_empty_iff,←trimBy_isSpace,trimBy_eq_nil_iff,
    trimBy_eq_nil_iff]
  exact forall₂_congr fun c hc => by rw [isBlank_eq hloose hsigned hc]

lemma accepts_iff : Accepts p ↔ trim p = "" ∨ ∃ r, parseToken (trim p) = some r := by
  simp only [Accepts,trim_eq_empty_iff,parseToken_iff,bare_trim]

lemma serverAccepts_iff : ServerAccepts p ↔ trimSpace p = "" ∨ ∃ r, parseHTTPStatusCodeToken (trimSpace p) = .ok r := by
  refine or_congr_right ?_
  simp only [serverToken_iff,denotes_iff,trimSpace_idem]
  constructor
  · rintro ⟨start,stop,hdenotes,hstart,hle,hstop⟩
    exact ⟨⟨start,stop⟩,hdenotes,hstart,hle,hstop⟩
  · rintro ⟨r,hdenotes,hstart,hle,hstop⟩
    exact ⟨r.start,r.stop,hdenotes,hstart,hle,hstop⟩

lemma both_accept (hloose : ¬Loose p) (hsigned : ¬Signed p) : Accepts p ↔ ServerAccepts p := by
  rw [accepts_iff,serverAccepts_iff,empty_agree hloose hsigned]
  simp only [tokens_agree hloose hsigned]

end Sides

/-! ## The whole input -/

section Whole
variable {input : String}

lemma mem_filled {f : String → String} {l : List String} {seg : String} :
    seg∈(l.map f).filter (fun s => s≠"") ↔ ∃ p∈l, f p = seg ∧ seg≠"" := by
  rw [List.mem_filter,List.mem_map,decide_eq_true_eq]
  constructor
  · rintro ⟨⟨p,hp,hseg⟩,hne⟩
    exact ⟨p,hp,hseg,hne⟩
  · rintro ⟨p,hp,hseg,hne⟩
    exact ⟨⟨p,hp,hseg⟩,hne⟩

lemma filterMap_filled {α : Type*} (f : String → String) (g : String → Option α) (l : List String) :
    ((l.map f).filter (fun s => s≠"")).filterMap g = l.filterMap (fun p => if f p = "" then none else g (f p)) := by
  rw [List.filterMap_filter,List.filterMap_map]
  refine List.filterMap_congr fun p _ => ?_
  by_cases h : f p = "" <;> simp [h]

lemma ok_iff_accepts : (parseHttpStatusCodeRules input).ok = true ↔ ∀ p∈pieces input, Accepts p := by
  rw [ok_iff,segments_trim]
  simp only [mem_filled,accepts_iff]
  constructor
  · intro h p hp
    by_cases hempty : trim p = ""
    · exact .inl hempty
    · exact .inr (h _ ⟨p,hp,rfl,hempty⟩)
  · rintro h seg ⟨p,hp,rfl,hne⟩
    exact (h p hp).resolve_left hne

lemma server_ok_iff_accepts :
    (∃ ranges, parseHTTPStatusCodeRanges input = .ok ranges) ↔ ∀ p∈pieces input, ServerAccepts p := by
  simp only [server_ok_iff,exists_and_left,exists_eq,and_true,tokens_eq,mem_filled,serverAccepts_iff]
  constructor
  · intro h p hp
    by_cases hempty : trimSpace p = ""
    · exact .inl hempty
    · exact .inr (h _ ⟨p,hp,rfl,hempty⟩)
  · rintro h seg ⟨p,hp,rfl,hne⟩
    exact (h p hp).resolve_left hne

/-- Pieces that are neither loose nor signed give the same ranges. -/
lemma ranges_agree (h : ∀ p∈pieces input, ¬Loose p ∧ ¬Signed p) : (segments (trim input)).filterMap parseToken =
    (tokens input).filterMap (fun seg => (parseHTTPStatusCodeToken seg).toOption) := by
  rw [segments_trim,tokens_eq,filterMap_filled,filterMap_filled]
  refine List.filterMap_congr fun p hp => ?_
  obtain ⟨hloose,hsigned⟩ := h p hp
  simp only [empty_agree hloose hsigned]
  split_ifs
  · rfl
  · ext r
    rw [tokens_agree hloose hsigned,toOption_eq_some]

/-- The two sides agree on an input unless the console accepts all of it and a piece is loose, or the server accepts
all of it and a piece is signed. -/
theorem rules_agree_iff (input : String) : Agree input ↔
    ((∀ p∈pieces input, Accepts p) → ∀ p∈pieces input, ¬Loose p) ∧
      ((∀ p∈pieces input, ServerAccepts p) → ∀ p∈pieces input, ¬Signed p) := by
  unfold Agree
  rw [ok_iff_accepts,server_ok_iff_accepts]
  constructor
  · rintro ⟨hok,-⟩
    exact ⟨fun h p hp => not_loose_of_server (hok.mp h p hp),fun h p hp =>
      not_signed_of_accepts (hok.mpr h p hp) (not_loose_of_server (h p hp))⟩
  · rintro ⟨hconsole,hserver⟩
    have htidy : (∀ p∈pieces input, Accepts p) → ∀ p∈pieces input, ¬Loose p ∧ ¬Signed p := fun h p hp =>
      ⟨hconsole h p hp,not_signed_of_accepts (h p hp) (hconsole h p hp)⟩
    refine ⟨⟨fun h p hp => ?_,fun h p hp => ?_⟩,fun ranges h hranges => ?_⟩
    · exact (both_accept (htidy h p hp).1 (htidy h p hp).2).mp (h p hp)
    · exact (both_accept (not_loose_of_server (h p hp)) (hserver h p hp)).mpr (h p hp)
    · rw [ranges_of_ok (ok_iff_accepts.mpr h),(server_ok_iff.mp hranges).2,mergeRanges_eq,ranges_agree (htidy h)]

lemma not_agree_of_console (hok : (parseHttpStatusCodeRules input).ok = true)
    (hserver : (parseHTTPStatusCodeRanges input).toOption = none) : ¬Agree input := by
  intro h
  obtain ⟨ranges,hranges⟩ := h.1.mp hok
  rw [hranges] at hserver
  cases hserver

/-- A plus sign is read by the server alone; a third code, and a tab inside, are passed over by the console alone. -/
theorem rules_disagree : ¬Agree "+200" ∧ ¬Agree "200-300-400" ∧ ¬Agree "200\t-300" := by
  refine ⟨fun h => ?_,not_agree_of_console (by decide +kernel) (by decide +kernel),
    not_agree_of_console (by decide +kernel) (by decide +kernel)⟩
  have hok := h.1.mpr ⟨[⟨200,200⟩],by decide +kernel⟩
  revert hok
  decide +kernel

end Whole

end Console
end Relay
end Tierflow
