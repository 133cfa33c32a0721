import Mathlib.Data.Rat.Floor
import Mathlib.Data.List.DropRight
import Mathlib.Tactic

/-! Plain text: blanks, words, decimal numerals. The writers print decimal numbers, the readers
accept them back, and the round trips below say that nothing is lost on the way. -/
namespace Tierflow
namespace Text

/-- The Unicode white space characters. -/
def isSpace (c : Char) : Bool :=
  let n := c.toNat
  (9≤n && n≤13) || n==32 || n==0x85 || n==0xA0 || n==0x1680 || (0x2000≤n && n≤0x200A) ||
    n==0x2028 || n==0x2029 || n==0x202F || n==0x205F || n==0x3000

def trimChars (l : List Char) : List Char :=
  ((l.dropWhile isSpace).reverse.dropWhile isSpace).reverse

def trimSpace (s : String) : String := String.ofList (trimChars s.toList)

/-- Split at blanks; `cur` is the word being read, reversed. -/
def splitWords : List Char → List Char → List (List Char)
  | [],[] => []
  | cur@(_::_),[] => [cur.reverse]
  | [],c::cs => if isSpace c then splitWords [] cs else splitWords [c] cs
  | cur@(_::_),c::cs => if isSpace c then cur.reverse::splitWords [] cs else splitWords (c::cur) cs

/-- The maximal blank-free pieces of a text. -/
def fields (s : String) : List String := (splitWords [] s.toList).map String.ofList

def cutPrefix (s p : String) : Option String :=
  if p.toList.isPrefixOf s.toList then some (String.ofList (s.toList.drop p.toList.length)) else none

def hasPrefix (s p : String) : Bool := p.toList.isPrefixOf s.toList

def cutSuffix (s p : String) : Option String :=
  if p.toList.isSuffixOf s.toList then some (String.ofList (s.toList.take (s.toList.length-p.toList.length))) else none

def contains (s p : String) : Bool := p.toList<:+:s.toList

def splitChars (sep : Char) : List Char → List (List Char)
  | [] => [[]]
  | c::cs =>
    match splitChars sep cs with
    | [] => [[c]]
    | w::ws => if c = sep then []::w::ws else (c::w)::ws

/-- The pieces between the separators; one piece where there is no separator. -/
def split (s : String) (sep : Char) : List String := (splitChars sep s.toList).map String.ofList

def digits? (l : List Char) : Option ℕ :=
  if l≠[] ∧ l.all Char.isDigit then some (Nat.ofDigitChars 10 l 0) else none

def signed? {α : Type*} [Neg α] (read : List Char → Option α) : List Char → Option α
  | '-'::l => (read l).map (fun a => -a)
  | '+'::l => read l
  | l => read l

/-- A decimal integer that fits sixty-four bits. -/
def parseInt64 (s : String) : Option ℤ :=
  (signed? (fun l => (digits? l).map (fun n : ℕ => (n : ℤ))) s.toList).filter
    (fun z => -2^63≤z && z<2^63)

/-- Digits with an optional fraction; at least one digit in all. -/
def mantissa? (l : List Char) : Option ℚ :=
  let whole := l.takeWhile Char.isDigit
  match l.dropWhile Char.isDigit with
  | [] => (digits? whole).map (fun n : ℕ => (n : ℚ))
  | c::frac =>
    if c = '.' ∧ frac.all Char.isDigit ∧ whole++frac≠[] then
      some ((Nat.ofDigitChars 10 whole 0 : ℚ)+(Nat.ofDigitChars 10 frac 0 : ℚ)/10^frac.length)
    else none

/-- A decimal number with an optional sign, fraction and exponent. -/
def parseDecimal (s : String) : Option ℚ :=
  signed? (fun l =>
    let notE := fun c : Char => c != 'e' && c != 'E'
    match l.dropWhile notE with
    | [] => mantissa? l
    | _::ex => do
      let m ← mantissa? (l.takeWhile notE)
      let e ← signed? (fun d => (digits? d).map (fun n : ℕ => (n : ℤ))) ex
      return m*(10 : ℚ)^e) s.toList

def printNat (n : ℕ) : String := String.ofList (Nat.toDigits 10 n)

def printInt (z : ℤ) : String := if z<0 then "-"++printNat z.natAbs else printNat z.natAbs

/-- The nearest integer of a nonnegative rational, halves going to the even neighbour. -/
def halfEven (q : ℚ) : ℕ :=
  let f := ⌊q⌋.toNat
  let r := q-f
  if r<1/2 then f else if 1/2 < r then f+1 else f+f%2

/-- Two fixed decimals. -/
def printFixed2 (q : ℚ) : String :=
  let n := halfEven (abs q * 100)
  (if q<0 then "-" else "")++
    String.ofList (Nat.toDigits 10 (n/100)++['.',Nat.digitChar (n%100/10),Nat.digitChar (n%10)])

/-! ## Words -/

lemma splitWords_append {w : List Char} (hw : ∀ c∈w, isSpace c = false) (cur rest : List Char) :
    splitWords cur (w++rest) = splitWords (w.reverse++cur) rest := by
  induction w generalizing cur with
  | nil => rfl
  | cons c w ih =>
    have hc := hw c (by simp)
    have ht := ih (fun d hd => hw d (by simp [hd])) (c::cur)
    rw [List.reverse_cons,List.append_assoc,List.singleton_append,←ht]
    cases cur <;> simp [splitWords,hc]

lemma splitWords_word {w : List Char} (hne : w≠[]) (hw : ∀ c∈w, isSpace c = false) (rest : List Char) :
    splitWords [] (w ++ ' '::rest) = w::splitWords [] rest := by
  have hr : w.reverse≠[] := by simpa using hne
  obtain ⟨d,l,hl⟩ := List.exists_cons_of_ne_nil hr
  rw [splitWords_append hw,List.append_nil,hl]
  have hs : isSpace ' ' = true := by decide
  simp [splitWords,hs,←hl]

lemma splitWords_last {w : List Char} (hne : w≠[]) (hw : ∀ c∈w, isSpace c = false) :
    splitWords [] w = [w] := by
  have hr : w.reverse≠[] := by simpa using hne
  obtain ⟨d,l,hl⟩ := List.exists_cons_of_ne_nil hr
  have h := splitWords_append hw [] []
  rw [List.append_nil,List.append_nil,hl] at h
  rw [h]
  simp [splitWords,←hl]

/-- Blank-free and not empty, so that `fields` returns it unchanged. -/
def IsWord (s : String) : Prop := s.toList≠[] ∧ ∀ c∈s.toList, isSpace c = false

instance (s : String) : Decidable (IsWord s) :=
  have : Decidable (∀ c∈s.toList, isSpace c = false) := List.decidableBAll _ _
  instDecidableAnd

theorem fields_cons {w s : String} (hw : IsWord w) : fields (w++" "++s) = w::fields s := by
  unfold fields
  rw [String.toList_append,String.toList_append,List.append_assoc]
  have h := splitWords_word hw.1 hw.2 s.toList
  simpa [String.ofList_toList] using congrArg (List.map String.ofList) h

theorem fields_word {w : String} (hw : IsWord w) : fields w = [w] := by
  unfold fields
  rw [splitWords_last hw.1 hw.2]
  simp [String.ofList_toList]

lemma IsWord.append {s t : String} (hs : IsWord s) (ht : ∀ c∈t.toList, isSpace c = false) : IsWord (s++t) := by
  constructor
  · simp [String.toList_append,hs.1]
  · intro c hc
    rw [String.toList_append,List.mem_append] at hc
    exact hc.elim (hs.2 c) (ht c)

lemma isSpace_of_isDigit {c : Char} (h : c.isDigit = true) : isSpace c = false := by
  simp only [Char.isDigit,Bool.and_eq_true,decide_eq_true_eq] at h
  have h1 : 48 ≤ c.toNat := h.1
  have h2 : c.toNat≤57 := h.2
  unfold isSpace
  simp only [Bool.or_eq_false_iff,Bool.and_eq_false_iff,decide_eq_false_iff_not,beq_eq_false_iff_ne]
  omega

lemma printNat_noSpace (n : ℕ) : ∀ c∈(printNat n).toList, isSpace c = false := by
  intro c hc
  rw [printNat,String.toList_ofList] at hc
  exact isSpace_of_isDigit (Nat.isDigit_of_mem_toDigits (by decide) (by decide) hc)

lemma cutPrefix_append (p s : String) : cutPrefix (p++s) p = some s := by
  unfold cutPrefix
  rw [String.toList_append,if_pos (by simp),List.drop_left,String.ofList_toList]

lemma cutPrefix_eq_some {s p r : String} : cutPrefix s p = some r ↔ s = p++r := by
  constructor
  · intro h
    unfold cutPrefix at h
    split_ifs at h with hprefix
    obtain ⟨t,ht⟩ := List.isPrefixOf_iff_prefix.mp hprefix
    rw [←Option.some.inj h,←ht,List.drop_left]
    apply String.toList_injective
    rw [String.toList_append,String.toList_ofList,ht]
  · rintro rfl
    exact cutPrefix_append p r

lemma hasPrefix_iff {s p : String} : hasPrefix s p = true ↔ ∃ r, s = p++r := by
  unfold hasPrefix
  rw [List.isPrefixOf_iff_prefix]
  constructor
  · rintro ⟨r,hr⟩
    refine ⟨String.ofList r,?_⟩
    apply String.toList_injective
    rw [String.toList_append,String.toList_ofList,hr]
  · rintro ⟨r,rfl⟩
    exact ⟨r.toList,String.toList_append.symm⟩

/-! ## Pieces -/

lemma splitChars_ne_nil (sep : Char) (l : List Char) : splitChars sep l≠[] := by
  cases l with
  | nil => simp [splitChars]
  | cons c cs =>
    rw [splitChars]
    cases splitChars sep cs with
    | nil => simp
    | cons w ws =>
      simp only
      split_ifs <;> simp

lemma split_ne_nil (s : String) (sep : Char) : split s sep≠[] := by
  unfold split
  rw [Ne,List.map_eq_nil_iff]
  exact splitChars_ne_nil sep s.toList

lemma splitChars_word {sep : Char} {w : List Char} (h : sep∉w) : splitChars sep w = [w] := by
  induction w with
  | nil => rfl
  | cons c w ih =>
    rw [List.mem_cons,not_or] at h
    rw [splitChars,ih h.2]
    exact if_neg (Ne.symm h.1)

lemma splitChars_append {sep : Char} {w : List Char} (h : sep∉w) (rest : List Char) :
    splitChars sep (w++sep::rest) = w::splitChars sep rest := by
  induction w with
  | nil =>
    cases hs : splitChars sep rest with
    | nil => exact absurd hs (splitChars_ne_nil sep rest)
    | cons v vs => simp [splitChars,hs]
  | cons c w ih =>
    rw [List.mem_cons,not_or] at h
    rw [List.cons_append,splitChars,ih h.2]
    exact if_neg (Ne.symm h.1)

/-- Pieces that were joined come apart again, unless one of them holds the separator. -/
theorem splitChars_intercalate {sep : Char} {l : List (List Char)} (hl : l≠[]) (h : ∀ w∈l, sep∉w) :
    splitChars sep ([sep].intercalate l) = l := by
  induction l with
  | nil => exact absurd rfl hl
  | cons w l ih =>
    have hw := h w List.mem_cons_self
    cases l with
    | nil => rw [List.intercalate_singleton,splitChars_word hw]
    | cons v l =>
      rw [List.intercalate_cons_cons,List.append_assoc,List.singleton_append,splitChars_append hw,
        ih (List.cons_ne_nil v l) (fun u hu => h u (List.mem_cons_of_mem w hu))]

theorem split_intercalate {sep : Char} {l : List String} (hl : l≠[]) (h : ∀ w∈l, sep∉w.toList) :
    split ((String.singleton sep).intercalate l) sep = l := by
  have hchars : ∀ w∈l.map String.toList, sep∉w := by
    intro w hw
    obtain ⟨s,hs,rfl⟩ := List.mem_map.mp hw
    exact h s hs
  rw [split,String.toList_intercalate,String.toList_singleton,splitChars_intercalate (by simpa using hl) hchars,
    List.map_map]
  simp [Function.comp_def]

lemma intercalate_splitChars (sep : Char) (l : List Char) : [sep].intercalate (splitChars sep l) = l := by
  induction l with
  | nil => rfl
  | cons c cs ih =>
    rw [splitChars]
    cases hs : splitChars sep cs with
    | nil => exact absurd hs (splitChars_ne_nil sep cs)
    | cons w ws =>
      rw [hs] at ih
      by_cases hc : c = sep
      · simp only [if_pos hc]
        rw [List.intercalate_cons_cons,ih,hc]
        rfl
      · simp only [if_neg hc]
        cases ws with
        | nil =>
          rw [List.intercalate_singleton] at ih ⊢
          rw [ih]
        | cons v vs =>
          rw [List.intercalate_cons_cons] at ih ⊢
          rw [←ih]
          rfl

lemma sep_notMem_of_mem_splitChars {sep : Char} {l w : List Char} (h : w∈splitChars sep l) : sep∉w := by
  induction l generalizing w with
  | nil =>
    rw [List.mem_singleton.mp h]
    exact List.not_mem_nil
  | cons c cs ih =>
    rw [splitChars] at h
    cases hs : splitChars sep cs with
    | nil => exact absurd hs (splitChars_ne_nil sep cs)
    | cons v vs =>
      rw [hs] at h ih
      by_cases hc : c = sep
      · simp only [if_pos hc] at h
        rcases List.mem_cons.mp h with rfl | h
        · exact List.not_mem_nil
        · exact ih h
      · simp only [if_neg hc] at h
        rcases List.mem_cons.mp h with rfl | h
        · intro hmem
          rcases List.mem_cons.mp hmem with rfl | hmem
          · exact hc rfl
          · exact ih List.mem_cons_self hmem
        · exact ih (List.mem_cons_of_mem _ h)

/-- The pieces of a text joined again are the text. -/
theorem intercalate_split (s : String) (sep : Char) : (String.singleton sep).intercalate (split s sep) = s := by
  apply String.toList_injective
  rw [String.toList_intercalate,String.toList_singleton,split,List.map_map]
  have hid : String.toList ∘ String.ofList = id := by
    funext l
    simp
  rw [hid,List.map_id,intercalate_splitChars]

lemma sep_notMem_of_mem_split {s w : String} {sep : Char} (h : w∈split s sep) : sep∉w.toList := by
  obtain ⟨l,hl,rfl⟩ := List.mem_map.mp h
  rw [String.toList_ofList]
  exact sep_notMem_of_mem_splitChars hl

/-! ## Numerals -/

lemma isDigit_toDigits (n : ℕ) : (Nat.toDigits 10 n).all Char.isDigit = true := by
  rw [List.all_eq_true]
  exact fun c hc => Nat.isDigit_of_mem_toDigits (by decide) (by decide) hc

lemma digits?_toDigits (n : ℕ) : digits? (Nat.toDigits 10 n) = some n := by
  rw [digits?,if_pos ⟨Nat.toDigits_ne_nil,isDigit_toDigits n⟩,Nat.ofDigitChars_ten_toDigits]

lemma printNat_injective : Function.Injective printNat := by
  intro n m h
  have hvalue := congrArg (fun s => digits? (String.toList s)) h
  unfold printNat at hvalue
  rw [String.toList_ofList,String.toList_ofList,digits?_toDigits,digits?_toDigits] at hvalue
  exact Option.some.inj hvalue

lemma signed?_of_isDigit {α : Type*} [Neg α] (read : List Char → Option α) {l : List Char}
    (hne : l≠[]) (hd : ∀ c, l.head? = some c → c.isDigit = true) : signed? read l = read l := by
  obtain ⟨c,cs,rfl⟩ := List.exists_cons_of_ne_nil hne
  have hc := hd c rfl
  unfold signed?
  split
  · next h => rw [(List.cons.inj h).1] at hc; contradiction
  · next h => rw [(List.cons.inj h).1] at hc; contradiction
  · rfl

lemma head?_toDigits_append (n : ℕ) (l : List Char) (c : Char)
    (h : (Nat.toDigits 10 n++l).head? = some c) : c.isDigit = true := by
  obtain ⟨d,ds,hds⟩ := List.exists_cons_of_ne_nil (Nat.toDigits_ne_nil (n := n) (b := 10))
  rw [hds,List.cons_append,List.head?_cons,Option.some.injEq] at h
  subst h
  exact Nat.isDigit_of_mem_toDigits (b := 10) (by decide) (by decide) (by rw [hds]; simp)

theorem parseInt64_printInt {z : ℤ} (h0 : 0≤z) :
    parseInt64 (printInt z) = if z<2^63 then some z else none := by
  have hd : (printInt z).toList = Nat.toDigits 10 z.natAbs := by
    rw [printInt,if_neg (not_lt.mpr h0),printNat,String.toList_ofList]
  have hz : ((z.natAbs : ℕ) : ℤ)=z := Int.natAbs_of_nonneg h0
  unfold parseInt64
  rw [hd,signed?_of_isDigit _ Nat.toDigits_ne_nil
    (fun c hc => head?_toDigits_append z.natAbs [] c (by simpa using hc)),digits?_toDigits]
  rw [Option.map_some,hz]
  have hl : -2^63≤z := by linarith [show (0 : ℤ)≤2^63 by norm_num]
  by_cases hu : z<2^63 <;> simp only [Option.filter,hl,hu,decide_true,decide_false,Bool.and_true,
    Bool.and_false,if_true,if_false,Bool.false_eq_true]

lemma digitChar_isDigit {d : ℕ} (h : d<10) : (Nat.digitChar d).isDigit = true := by
  interval_cases d <;> rfl

lemma ofDigitChars_pair {a b : ℕ} (ha : a<10) (hb : b<10) :
    Nat.ofDigitChars 10 [Nat.digitChar a,Nat.digitChar b] 0 = 10*a+b := by
  rw [Nat.ofDigitChars_cons_digitChar_of_lt_ten ha,Nat.ofDigitChars_cons_digitChar_of_lt_ten hb]
  simp

lemma halfEven_natCast (n : ℕ) : halfEven (n : ℚ) = n := by
  have hf : ⌊(n : ℚ)⌋.toNat = n := by simp
  unfold halfEven
  simp only [hf,sub_self]
  norm_num

/-- A number of whole hundredths survives printing and reading. -/
theorem parseDecimal_printFixed2 {q : ℚ} {n : ℕ} (hq : q*100 = n) :
    parseDecimal (printFixed2 q) = some q := by
  have h0 : 0≤q := by
    have : (0 : ℚ)≤n := Nat.cast_nonneg n
    linarith
  have hn : halfEven (abs q * 100) = n := by rw [abs_of_nonneg h0,hq,halfEven_natCast]
  set frac := [Nat.digitChar (n%100/10),Nat.digitChar (n%10)] with hfrac
  have ht : (printFixed2 q).toList = Nat.toDigits 10 (n/100) ++ '.'::frac := by
    rw [printFixed2,hn]
    simp [not_lt.mpr h0,String.toList_append,hfrac]
  have hfd : frac.all Char.isDigit = true := by
    simp [hfrac,digitChar_isDigit (show n%100/10<10 by omega),digitChar_isDigit (show n%10<10 by omega)]
  have hwhole : ∀ c∈Nat.toDigits 10 (n/100), c.isDigit = true :=
    fun c hc => Nat.isDigit_of_mem_toDigits (by decide) (by decide) hc
  -- no digit and no dot starts an exponent
  have hE : ∀ c∈Nat.toDigits 10 (n/100) ++ '.'::frac, (c != 'e' && c != 'E') = true := by
    intro c hc
    have hcd : c.isDigit = true ∨ c = '.' := by
      rcases List.mem_append.mp hc with h | h
      · exact .inl (hwhole c h)
      · rcases List.mem_cons.mp h with h | h
        · exact .inr h
        · exact .inl (List.all_eq_true.mp hfd c h)
    rcases hcd with h | rfl
    · have he : c ≠ 'e' := by rintro rfl; contradiction
      have hE : c ≠ 'E' := by rintro rfl; contradiction
      simp [he,hE]
    · decide
  have hdrop : (Nat.toDigits 10 (n/100) ++ '.'::frac).dropWhile (fun c => c != 'e' && c != 'E') = [] :=
    List.dropWhile_eq_nil_iff.mpr hE
  have hdot : Char.isDigit '.' = false := by decide
  have htake : (Nat.toDigits 10 (n/100) ++ '.'::frac).takeWhile Char.isDigit = Nat.toDigits 10 (n/100) := by
    rw [List.takeWhile_append_of_pos hwhole,List.takeWhile_cons_of_neg (by simp [hdot]),List.append_nil]
  have hdropd : (Nat.toDigits 10 (n/100) ++ '.'::frac).dropWhile Char.isDigit = '.'::frac := by
    rw [List.dropWhile_append_of_pos hwhole,List.dropWhile_cons_of_neg (by simp [hdot])]
  unfold parseDecimal
  rw [ht,signed?_of_isDigit _ (by simp) (head?_toDigits_append (n/100) _)]
  simp only [hdrop,mantissa?,htake,hdropd]
  rw [if_pos ⟨trivial,hfd,by simp [hfrac]⟩,Nat.ofDigitChars_ten_toDigits,hfrac,
    ofDigitChars_pair (by omega) (by omega)]
  have hsplit : (n : ℚ) = 100*((n/100 : ℕ) : ℚ)+((10*(n%100/10)+n%10 : ℕ) : ℚ) := by
    exact_mod_cast (show n = 100*(n/100)+(10*(n%100/10)+n%10) by omega)
  simp only [List.length_cons,List.length_nil,Option.some.injEq]
  linarith

/-! ## Trimming -/

lemma dropWhile_isSpace_idem (l : List Char) :
    (l.dropWhile isSpace).dropWhile isSpace = l.dropWhile isSpace := List.dropWhile_idempotent _ _

lemma head?_dropWhile_isSpace {l : List Char} {c : Char} (h : (l.dropWhile isSpace).head? = some c) :
    isSpace c = false := by
  have hh := List.head?_dropWhile_not isSpace l
  rw [h] at hh
  simpa using hh

/-- Trimming a trimmed text changes nothing. -/
theorem trimSpace_idem (s : String) : trimSpace (trimSpace s) = trimSpace s := by
  unfold trimSpace
  rw [String.toList_ofList]
  congr 1
  set m := s.toList.dropWhile isSpace with hm
  have ht : trimChars s.toList = (m.reverse.dropWhile isSpace).reverse := rfl
  -- dropping blanks at the end keeps the first character
  have hhead : ∀ c, (m.reverse.dropWhile isSpace).reverse.head? = some c → isSpace c = false := by
    intro c hc
    obtain ⟨r,hr⟩ := List.dropWhile_suffix isSpace (l := m.reverse)
    have hpre : (m.reverse.dropWhile isSpace).reverse<+:m := by
      refine ⟨r.reverse,?_⟩
      rw [←List.reverse_append,hr,List.reverse_reverse]
    obtain ⟨t,ht⟩ := hpre
    apply head?_dropWhile_isSpace (l := s.toList) (c := c)
    rw [←hm,←ht,List.head?_append,hc]
    rfl
  rw [ht,trimChars]
  have h1 : ((m.reverse.dropWhile isSpace).reverse).dropWhile isSpace =
      (m.reverse.dropWhile isSpace).reverse := by
    cases hl : (m.reverse.dropWhile isSpace).reverse with
    | nil => rfl
    | cons c l => rw [List.dropWhile_cons_of_neg (by simp [hhead c (by rw [hl]; rfl)])]
  rw [h1,List.reverse_reverse,dropWhile_isSpace_idem]

@[simp] lemma trimSpace_empty : trimSpace "" = "" := by decide

/-- A word has nothing to trim. -/
lemma trimSpace_word {w : String} (h : IsWord w) : trimSpace w = w := by
  have hkeep : ∀ l : List Char, (∀ c∈l, isSpace c = false) → l.dropWhile isSpace = l := by
    intro l hl
    rw [List.dropWhile_eq_self_iff]
    intro hpos
    simpa using hl _ (List.getElem_mem hpos)
  unfold trimSpace trimChars
  rw [hkeep _ h.2,hkeep _ (by simpa using h.2),List.reverse_reverse,String.ofList_toList]

/-! ## Separators -/

/-- A text up to its first separator is known from the whole. -/
lemma append_sep_inj {sep : Char} {a b r r' : List Char} (ha : ∀ c∈a, c≠sep) (hb : ∀ c∈b, c≠sep)
    (hr : ∀ c∈r.head?, c = sep) (hr' : ∀ c∈r'.head?, c = sep) (h : a++r = b++r') : a = b ∧ r = r' := by
  have hstop : ∀ r : List Char, (∀ c∈r.head?, c = sep) → r.takeWhile (fun c => c != sep) = [] := by
    intro r hr
    cases r with
    | nil => rfl
    | cons c r => simp [hr c rfl]
  have ht := congrArg (List.takeWhile (fun c => c != sep)) h
  rw [List.takeWhile_append_of_pos (fun c hc => by simpa using ha c hc),
    List.takeWhile_append_of_pos (fun c hc => by simpa using hb c hc),hstop r hr,hstop r' hr',
    List.append_nil,List.append_nil] at ht
  subst ht
  exact ⟨rfl,List.append_cancel_left h⟩

/-! ## Integers -/

lemma toList_printInt_of_nonneg {z : ℤ} (h : 0≤z) : (printInt z).toList = Nat.toDigits 10 z.natAbs := by
  rw [printInt,if_neg (not_lt.mpr h),printNat,String.toList_ofList]

lemma toList_printInt_of_neg {z : ℤ} (h : z<0) :
    (printInt z).toList = '-'::Nat.toDigits 10 z.natAbs := by
  have hm : "-".toList = ['-'] := rfl
  rw [printInt,if_pos h,String.toList_append,hm,printNat]
  simp only [String.toList_ofList,List.singleton_append]

theorem signed?_printInt (z : ℤ) :
    signed? (fun l => (digits? l).map (fun n : ℕ => (n : ℤ))) (printInt z).toList = some z := by
  rcases lt_or_ge z 0 with h | h
  · rw [toList_printInt_of_neg h]
    simp only [signed?,digits?_toDigits,Option.map_some,Option.some.injEq]
    omega
  · rw [toList_printInt_of_nonneg h,signed?_of_isDigit _ Nat.toDigits_ne_nil
      (fun c hc => head?_toDigits_append z.natAbs [] c (by simpa using hc)),digits?_toDigits]
    simp only [Option.map_some,Option.some.injEq]
    omega

/-- Different integers have different numerals. -/
theorem printInt_injective : Function.Injective printInt := by
  intro y z h
  have hz := signed?_printInt z
  rw [←h,signed?_printInt] at hz
  exact Option.some.inj hz

/-- A numeral consists of digits, with a sign in front perhaps. -/
lemma mem_printInt {z : ℤ} {c : Char} (h : c∈(printInt z).toList) : c = '-' ∨ c.isDigit = true := by
  rcases lt_or_ge z 0 with hz | hz
  · rw [toList_printInt_of_neg hz] at h
    rcases List.mem_cons.mp h with h | h
    · exact .inl h
    · exact .inr (List.all_eq_true.mp (isDigit_toDigits _) c h)
  · rw [toList_printInt_of_nonneg hz] at h
    exact .inr (List.all_eq_true.mp (isDigit_toDigits _) c h)

/-! ## Joining -/

lemma join_eq_empty_iff {l : List String} : String.join l = "" ↔ ∀ s∈l, s = "" := by
  induction l with
  | nil => simp
  | cons s l ih => rw [String.join_cons,String.append_eq_empty_iff,ih,List.forall_mem_cons]

/-- A join is its last piece exactly when every other piece is empty. -/
lemma join_eq_getLastD_iff {l : List String} : String.join l = l.getLastD "" ↔ ∀ s∈l.dropLast, s = "" := by
  rcases List.eq_nil_or_concat l with rfl | ⟨l,s,rfl⟩
  · simp
  · rw [List.concat_eq_append,List.dropLast_concat,List.getLastD_concat,String.join_append,←join_eq_empty_iff]
    have hone : String.join [s] = s := by simp
    rw [hone]
    constructor
    · intro h
      have hlen := congrArg String.length h
      rw [String.length_append] at hlen
      exact String.length_eq_zero_iff.mp (by omega)
    · intro h
      rw [h,String.empty_append]

/-- No piece is longer than the join. -/
lemma length_le_join {l : List String} {s : String} (h : s∈l) : s.length≤(String.join l).length := by
  rw [String.length_join]
  exact List.single_le_sum (by simp) _ (List.mem_map_of_mem h)

end Text
end Tierflow
