import Tierflow.Foundation.Substitution
import Tierflow.Foundation.Text

/-! The negative indexes in the path of an override. The code looks for an array where the path as it was written
first spells the index, and writes the position where the text so far first spells it. What a path means is told by
its components: an index counts from the end of the array that the components before it lead to. -/
namespace Tierflow
namespace Relay
namespace NegativeIndex
open Substitution

/-- The lengths of the arrays of a document: its own, if it is one, and that of the array that a path leads to. -/
structure Document where
  root : Option ℕ
  arrayAt : String → Option ℕ
  root_lt : ∀ n, root = some n → n<2^63
  arrayAt_lt : ∀ path n, arrayAt path = some n → n<2^63

/-- A match of `\.(-\d+)` that begins here; what is caught of it is the minus and all the digits. -/
def matchAt : List Char → Option (List Char)
  | c::d::l =>
    if c = '.' ∧ d = '-' ∧ l.takeWhile Char.isDigit≠[] then some ( '-'::l.takeWhile Char.isDigit) else none
  | _ => none

/-- A match has no dot but its first, so that no match begins within another. -/
def findAllSubmatch (l : List Char) : List (List Char) := l.tails.filterMap matchAt

/-- What does not fit sixty-four bits is cut off. -/
def atoi (l : List Char) : ℤ :=
  ((Text.signed? (fun l => (Text.digits? l).map (fun n : ℕ => (n : ℤ))) l).map
    (fun z => max (-2^63) (min (2^63-1) z))).getD 0

def itoa (n : ℕ) : List Char := (Text.printNat n).toList

/-- The text before the first spelling of the index, without a dot at its end. -/
def arrayPath (path negIndex : List Char) : List Char :=
  let before := textBefore negIndex path
  if before.getLast? = some '.' then before.dropLast else before

/-- The position in the array that is found. -/
def actualIndex (data : Document) (path negIndex : List Char) : Option ℕ :=
  (data.arrayAt (String.ofList (arrayPath path negIndex))).bind (fun length =>
    if 0≤(length : ℤ)+atoi negIndex ∧ (length : ℤ)+atoi negIndex < length then
      some ((length : ℤ)+atoi negIndex).toNat
    else none)

def processNegativeIndex (data : Document) (path : String) : String :=
  String.ofList ((findAllSubmatch path.toList).foldl (fun result negIndex =>
    match actualIndex data path.toList negIndex with
    | some n => replaceFirst ( '.'::negIndex) ( '.'::itoa n) result
    | none => result) path.toList)

/-! ## Paths -/

/-- A word of a path that has no negative index in it. -/
structure Key where
  text : List Char
  plain : findAllSubmatch ( '.'::text) = []

/-- The digits of a negative index. -/
structure FromEnd where
  digits : List Char
  ne_nil : digits≠[]
  isDigit : ∀ c∈digits, c.isDigit = true

namespace FromEnd

def text (i : FromEnd) : List Char := '-'::i.digits

/-- So many elements from the end. -/
def places (i : FromEnd) : ℕ := Nat.ofDigitChars 10 i.digits 0

end FromEnd

inductive Component
  | key (k : Key)
  | fromEnd (i : FromEnd)

def Component.text : Component → List Char
  | .key k => k.text
  | .fromEnd i => i.text

inductive Separator
  | dot
  | pipe
deriving DecidableEq

def Separator.char : Separator → Char
  | .dot => '.'
  | .pipe => '|'

/-- The rest of a path as it is written. -/
def restText (rest : List (Separator × Component)) : List Char := rest.flatMap (fun p => p.1.char::p.2.text)

/-- The rest of a path with positions for its negative indexes. -/
def fill : List (Separator × Component) → List ℕ → List Char
  | [],_ => []
  | (sep,.key k)::rest,ns => sep.char::(k.text++fill rest ns)
  | (sep,.fromEnd i)::rest,[] => sep.char::(i.text++fill rest [])
  | (sep,.fromEnd _)::rest,n::ns => sep.char::(itoa n++fill rest ns)

/-- A negative index, what is before it, and the length of the array that it counts in. -/
structure Level where
  separator : Option Separator
  index : FromEnd
  array : Option ℕ

/-- The position of the element that is so many from the end. -/
def Level.position (lv : Level) : ℕ := lv.array.getD 0-lv.index.places

/-- The array has that many elements. -/
def Level.Found (lv : Level) : Prop :=
  ∃ length, lv.array = some length ∧ 1 ≤ lv.index.places ∧ lv.index.places≤length

/-- The levels after a part of the path in which the positions are known. -/
def levelsFrom (data : Document) : List Char → List (Separator × Component) → List Level
  | _,[] => []
  | resolved,(sep,.key k)::rest => levelsFrom data (resolved++sep.char::k.text) rest
  | resolved,(sep,.fromEnd i)::rest =>
    let lv : Level := ⟨some sep,i,data.arrayAt (String.ofList resolved)⟩
    lv::levelsFrom data (resolved++sep.char::itoa lv.position) rest

structure OverridePath where
  first : Component
  rest : List (Separator × Component)

namespace OverridePath

def chars (p : OverridePath) : List Char := p.first.text++restText p.rest

def text (p : OverridePath) : String := String.ofList p.chars

def levels (data : Document) (p : OverridePath) : List Level :=
  match p.first with
  | .key k => levelsFrom data k.text p.rest
  | .fromEnd i =>
    let lv : Level := ⟨none,i,data.root⟩
    lv::levelsFrom data (itoa lv.position) p.rest

def filled (p : OverridePath) (ns : List ℕ) : List Char :=
  match p.first,ns with
  | .key k,ns => k.text++fill p.rest ns
  | .fromEnd i,[] => i.text++fill p.rest []
  | .fromEnd _,n::ns => itoa n++fill p.rest ns

/-- The path to the elements that are so many from the end. -/
def resolved (data : Document) (p : OverridePath) : String :=
  String.ofList (p.filled ((p.levels data).map Level.position))

end OverridePath

/-! ## Where the pattern matches -/

section Matches
variable {l u r : List Char}

lemma Separator.isDigit_char (s : Separator) : s.char.isDigit = false := by
  cases s <;> rfl

lemma Separator.char_ne (s : Separator) : s.char≠ '-' := by
  cases s <;> decide

lemma findAllSubmatch_cons (c : Char) (l : List Char) :
    findAllSubmatch (c::l) = (matchAt (c::l)).toList++findAllSubmatch l := by
  unfold findAllSubmatch
  rw [List.tails_cons,List.filterMap_cons]
  cases matchAt (c::l) <;> rfl

lemma matchAt_of_suffix (h : findAllSubmatch l = []) (hu : u<:+l) : matchAt u = none :=
  List.filterMap_eq_nil_iff.mp h u ((List.mem_tails u l).mpr hu)

lemma findAllSubmatch_of_no_dot (h : '.'∉l) : findAllSubmatch l = [] := by
  induction l with
  | nil => rfl
  | cons c l ih =>
    have hc : c≠ '.' := fun heq => h (heq ▸ List.mem_cons_self)
    have hnone : matchAt (c::l) = none := by
      cases l with
      | nil => rfl
      | cons d l => rw [matchAt,if_neg (fun hmatch => hc hmatch.1)]
    rw [findAllSubmatch_cons,hnone,ih (fun hmem => h (List.mem_cons_of_mem c hmem))]
    rfl

/-- No digits are gained after a separator. -/
lemma takeWhile_separator (s : Separator) (l r : List Char) :
    (l++s.char::r).takeWhile Char.isDigit = l.takeWhile Char.isDigit := by
  induction l with
  | nil => simp [s.isDigit_char]
  | cons c l ih => simp only [List.cons_append,List.takeWhile_cons,ih]

/-- A match does not go beyond a separator. -/
lemma matchAt_append (s : Separator) (hu : u≠[]) (r : List Char) : matchAt (u++s.char::r) = matchAt u := by
  match u with
  | [] => exact absurd rfl hu
  | [c] => exact if_neg (fun hmatch => s.char_ne hmatch.2.1)
  | c::d::u =>
    rw [List.cons_append,List.cons_append,matchAt,matchAt,takeWhile_separator]

lemma findAllSubmatch_append (s : Separator) (u r : List Char) :
    findAllSubmatch (u++s.char::r) = findAllSubmatch u++findAllSubmatch (s.char::r) := by
  induction u with
  | nil => rfl
  | cons c u ih =>
    have hhere := matchAt_append s (List.cons_ne_nil c u) r
    rw [List.cons_append] at hhere
    rw [List.cons_append,findAllSubmatch_cons,findAllSubmatch_cons,hhere,ih,List.append_assoc]

lemma findAllSubmatch_key (s : Separator) (k : Key) : findAllSubmatch (s.char::k.text) = [] := by
  have hplain := k.plain
  cases s with
  | dot => exact hplain
  | pipe =>
    rw [findAllSubmatch_cons,List.append_eq_nil_iff] at hplain
    rw [findAllSubmatch_cons,hplain.2]
    cases k.text with
    | nil => rfl
    | cons c l => rw [matchAt,if_neg (fun hmatch => absurd hmatch.1 (by decide))]; rfl

lemma takeWhile_digits (i : FromEnd) : i.digits.takeWhile Char.isDigit = i.digits :=
  List.takeWhile_eq_self_iff.mpr i.isDigit

lemma FromEnd.dot_notMem (i : FromEnd) : '.'∉i.text := by
  intro hmem
  rcases List.mem_cons.mp hmem with h | h
  · exact absurd h (by decide)
  · exact absurd (i.isDigit _ h) (by decide)

lemma findAllSubmatch_index (i : FromEnd) : findAllSubmatch ( '.'::i.text) = [i.text] := by
  have hmatch : matchAt ( '.'::i.text) = some i.text := by
    unfold FromEnd.text
    rw [matchAt,takeWhile_digits,if_pos ⟨rfl,rfl,i.ne_nil⟩]
  rw [findAllSubmatch_cons,hmatch,findAllSubmatch_of_no_dot i.dot_notMem]
  rfl

lemma findAllSubmatch_piped (i : FromEnd) : findAllSubmatch ( '|'::i.text) = [] := by
  apply findAllSubmatch_of_no_dot
  intro hmem
  rcases List.mem_cons.mp hmem with h | h
  · exact absurd h (by decide)
  · exact i.dot_notMem h

lemma isDigit_itoa {n : ℕ} {c : Char} (h : c∈itoa n) : c.isDigit = true := by
  unfold itoa Text.printNat at h
  rw [String.toList_ofList] at h
  exact Nat.isDigit_of_mem_toDigits (by decide) (by decide) h

lemma findAllSubmatch_position (s : Separator) (n : ℕ) : findAllSubmatch (s.char::itoa n) = [] := by
  have hnone : matchAt (s.char::itoa n) = none := by
    cases hn : itoa n with
    | nil => rfl
    | cons d l =>
      have hd : d.isDigit = true := @isDigit_itoa n d (hn ▸ List.mem_cons_self)
      exact if_neg (fun hmatch => absurd (hmatch.2.1 ▸ hd) (by decide))
  rw [findAllSubmatch_cons,hnone]
  exact findAllSubmatch_of_no_dot (fun hmem => absurd (isDigit_itoa hmem) (by decide))

/-- The pattern finds the indexes that follow a dot. -/
lemma findAllSubmatch_restText (data : Document) (u resolved : List Char) (rest : List (Separator × Component)) :
    findAllSubmatch (u++restText rest) = findAllSubmatch u++
      ((levelsFrom data resolved rest).filter (fun lv => lv.separator = some .dot)).map (fun lv => lv.index.text) := by
  induction rest generalizing u resolved with
  | nil => simp [restText,levelsFrom]
  | cons p rest ih =>
    obtain ⟨s,c⟩ := p
    have hsplit : u++restText ((s,c)::rest) = (u++s.char::c.text)++restText rest := by
      simp [restText]
    rw [hsplit]
    cases c with
    | key k =>
      rw [levelsFrom,ih _ (resolved++s.char::k.text),findAllSubmatch_append,Component.text,findAllSubmatch_key]
      simp
    | fromEnd i =>
      rw [levelsFrom,ih _ (resolved++s.char::itoa (Level.position ⟨some s,i,data.arrayAt (String.ofList resolved)⟩)),
        findAllSubmatch_append,Component.text]
      cases s with
      | dot =>
        rw [Separator.char,findAllSubmatch_index]
        simp
      | pipe =>
        rw [Separator.char,findAllSubmatch_piped]
        simp

end Matches

/-! ## What the replacements write -/

section Fill
variable {data : Document} {u r r' resolved : List Char} {rest : List (Separator × Component)} {n m : ℕ}

lemma matchAt_spelled (i : FromEnd) (r : List Char) : matchAt ( '.'::i.text++r)≠none := by
  obtain ⟨c,l,hcl⟩ := List.exists_cons_of_ne_nil i.ne_nil
  have hc : c.isDigit = true := i.isDigit c (hcl ▸ List.mem_cons_self)
  have hne : (i.digits++r).takeWhile Char.isDigit≠[] := by
    rw [hcl,List.cons_append,List.takeWhile_cons_of_pos hc]
    exact List.cons_ne_nil _ _
  unfold FromEnd.text
  rw [List.cons_append,List.cons_append,matchAt,if_pos ⟨rfl,rfl,hne⟩]
  exact Option.some_ne_none _

/-- The first spelling of an index is its own, if the pattern is not found before it. -/
lemma replaceFirst_index (hu : findAllSubmatch u = []) (i : FromEnd) (n : ℕ) (r : List Char) :
    replaceFirst ( '.'::i.text) ( '.'::itoa n) (u++ '.'::(i.text++r)) = u++ '.'::(itoa n++r) := by
  have hfirst : ∀ p' s', u++( '.'::i.text)++r = p'++( '.'::i.text)++s' → u.length≤p'.length := by
    intro p' s' heq
    rw [List.append_assoc,List.append_assoc,List.append_eq_append_iff] at heq
    rcases heq with ⟨v,hp,-⟩ | ⟨v,hp,hv⟩
    · rw [hp,List.length_append]
      exact Nat.le_add_right _ _
    · by_contra hlt
      have hne : v≠[] := by
        intro hnil
        rw [hp,hnil,List.append_nil] at hlt
        exact hlt le_rfl
      have hnone : matchAt v = none := matchAt_of_suffix hu ⟨p',hp.symm⟩
      apply matchAt_spelled i s'
      rw [hv]
      exact (matchAt_append .dot hne _).trans hnone
  have hreplace := @replaceFirst_append Char _ _ _ ( '.'::itoa n) _ _ hfirst
  simpa using hreplace

/-- If every index follows a dot, each is replaced by its position. -/
lemma substitute_levels (f : FromEnd → ℕ) (hu : findAllSubmatch u = [])
    (hdot : ∀ lv∈levelsFrom data resolved rest, lv.separator = some .dot) :
    substitute ((levelsFrom data resolved rest).map (fun lv => ( '.'::lv.index.text, '.'::itoa (f lv.index))))
      (u++restText rest) = u++fill rest ((levelsFrom data resolved rest).map (fun lv => f lv.index)) := by
  induction rest generalizing u resolved with
  | nil => simp [levelsFrom,substitute,restText,fill]
  | cons p rest ih =>
    obtain ⟨s,c⟩ := p
    cases c with
    | key k =>
      have hclear : findAllSubmatch (u++s.char::k.text) = [] := by
        rw [findAllSubmatch_append,hu,findAllSubmatch_key]
        rfl
      have hrest := @ih _ (resolved++s.char::k.text) hclear (fun lv hlv => hdot lv hlv)
      simpa [restText,fill,levelsFrom,Component.text] using hrest
    | fromEnd i =>
      rw [levelsFrom] at hdot ⊢
      have hs : s = .dot := Option.some.inj (hdot _ List.mem_cons_self)
      subst hs
      have hclear : findAllSubmatch (u++ '.'::itoa (f i)) = [] := by
        have happend := findAllSubmatch_append .dot u (itoa (f i))
        rw [findAllSubmatch_position] at happend
        exact happend.trans (by rw [hu]; rfl)
      have hrest := ih hclear (fun lv hlv => hdot lv (List.mem_cons_of_mem _ hlv))
      have hfirst := replaceFirst_index hu i (f i) (restText rest)
      rw [List.map_cons,List.map_cons,fill]
      change substitute _ (replaceFirst ( '.'::i.text) ( '.'::itoa (f i)) (u++ '.'::(i.text++restText rest))) = _
      rw [hfirst]
      simpa [Separator.char] using hrest

lemma itoa_append_inj (hr : r.takeWhile Char.isDigit = []) (hr' : r'.takeWhile Char.isDigit = [])
    (h : itoa n++r = itoa m++r') : n = m ∧ r = r' := by
  have hdigits : itoa n = itoa m := by
    have htake := congrArg (List.takeWhile Char.isDigit) h
    rw [List.takeWhile_append_of_pos (fun c hc => isDigit_itoa hc),
      List.takeWhile_append_of_pos (fun c hc => isDigit_itoa hc),hr,hr',List.append_nil,List.append_nil] at htake
    exact htake
  refine ⟨?_,List.append_cancel_left (hdigits ▸ h)⟩
  exact Text.printNat_injective (String.toList_injective hdigits)

lemma takeWhile_fill (rest : List (Separator × Component)) (ns : List ℕ) :
    (fill rest ns).takeWhile Char.isDigit = [] := by
  match rest,ns with
  | [],_ => rfl
  | (s,.key k)::rest,ns => exact takeWhile_separator s [] _
  | (s,.fromEnd i)::rest,[] => exact takeWhile_separator s [] _
  | (s,.fromEnd i)::rest,n::ns => exact takeWhile_separator s [] _

/-- The positions are read back from the path. -/
lemma fill_inj {f g : Level → ℕ}
    (h : fill rest ((levelsFrom data resolved rest).map f) = fill rest ((levelsFrom data resolved rest).map g)) :
    ∀ lv∈levelsFrom data resolved rest, f lv = g lv := by
  induction rest generalizing resolved with
  | nil => exact fun lv hlv => absurd hlv List.not_mem_nil
  | cons p rest ih =>
    obtain ⟨s,c⟩ := p
    cases c with
    | key k =>
      rw [levelsFrom,fill,fill] at h
      exact ih (List.append_cancel_left (List.cons.inj h).2)
    | fromEnd i =>
      rw [levelsFrom] at h ⊢
      rw [List.map_cons,List.map_cons,fill,fill] at h
      obtain ⟨hhere,hrest⟩ := itoa_append_inj (takeWhile_fill _ _) (takeWhile_fill _ _) (List.cons.inj h).2
      exact List.forall_mem_cons.mpr ⟨hhere,ih hrest⟩

lemma count_digits {l : List Char} (h : ∀ c∈l, c.isDigit = true) : l.count '-' = 0 :=
  List.count_eq_zero_of_not_mem (fun hmem => absurd (h _ hmem) (by decide))

lemma count_index (i : FromEnd) : i.text.count '-' = 1 := by
  unfold FromEnd.text
  rw [List.count_cons_self,count_digits i.isDigit]

/-- With its positions a path has as many minus signs less as it had indexes. -/
lemma count_fill (f : Level → ℕ) :
    (fill rest ((levelsFrom data resolved rest).map f)).count '-'+(levelsFrom data resolved rest).length =
      (restText rest).count '-' := by
  induction rest generalizing resolved with
  | nil => rfl
  | cons p rest ih =>
    obtain ⟨s,c⟩ := p
    have htext : restText ((s,c)::rest) = s.char::(c.text++restText rest) := rfl
    rw [htext,levelsFrom.eq_def]
    cases c with
    | key k =>
      dsimp only
      have hrest := @ih (resolved++s.char::k.text)
      rw [fill,List.count_cons,List.count_cons,List.count_append,List.count_append,Component.text]
      omega
    | fromEnd i =>
      dsimp only
      have hrest := @ih
        (resolved++s.char::itoa (Level.position ⟨some s,i,data.arrayAt (String.ofList resolved)⟩))
      rw [List.map_cons,fill,List.count_cons,List.count_cons,List.count_append,List.count_append,Component.text,
        count_index,count_digits (fun c hc => isDigit_itoa hc),List.length_cons]
      omega

end Fill

namespace OverridePath
variable {data : Document} {p : OverridePath}

lemma findAllSubmatch_text (k : Key) : findAllSubmatch k.text = [] := by
  have hplain := k.plain
  rw [findAllSubmatch_cons,List.append_eq_nil_iff] at hplain
  exact hplain.2

lemma findAllSubmatch_chars (data : Document) (p : OverridePath) :
    findAllSubmatch p.chars =
      ((p.levels data).filter (fun lv => lv.separator = some .dot)).map (fun lv => lv.index.text) := by
  obtain ⟨c,rest⟩ := p
  cases c with
  | key k =>
    have hrest := findAllSubmatch_restText data k.text k.text rest
    rw [findAllSubmatch_text] at hrest
    exact hrest
  | fromEnd i =>
    have hrest := findAllSubmatch_restText data i.text (itoa (Level.position ⟨none,i,data.root⟩)) rest
    rw [findAllSubmatch_of_no_dot i.dot_notMem] at hrest
    exact hrest

lemma substitute_chars (f : FromEnd → ℕ) (hdot : ∀ lv∈p.levels data, lv.separator = some .dot) :
    substitute ((p.levels data).map (fun lv => ( '.'::lv.index.text, '.'::itoa (f lv.index)))) p.chars =
      p.filled ((p.levels data).map (fun lv => f lv.index)) := by
  obtain ⟨c,rest⟩ := p
  cases c with
  | key k => exact substitute_levels f (findAllSubmatch_text k) hdot
  | fromEnd i => exact nomatch hdot _ List.mem_cons_self

lemma filled_inj {f g : Level → ℕ}
    (h : p.filled ((p.levels data).map f) = p.filled ((p.levels data).map g)) :
    ∀ lv∈p.levels data, f lv = g lv := by
  obtain ⟨c,rest⟩ := p
  cases c with
  | key k => exact fill_inj (List.append_cancel_left h)
  | fromEnd i =>
    obtain ⟨hhere,hrest⟩ := itoa_append_inj (takeWhile_fill _ _) (takeWhile_fill _ _) h
    exact List.forall_mem_cons.mpr ⟨hhere,fill_inj hrest⟩

lemma count_filled (f : Level → ℕ) (p : OverridePath) :
    (p.filled ((p.levels data).map f)).count '-'+(p.levels data).length = p.chars.count '-' := by
  obtain ⟨c,rest⟩ := p
  cases c with
  | key k =>
    have hrest := @count_fill data k.text rest f
    change (k.text++fill rest ((levelsFrom data k.text rest).map f)).count '-'+(levelsFrom data k.text rest).length =
      (k.text++restText rest).count '-'
    rw [List.count_append,List.count_append]
    omega
  | fromEnd i =>
    let resolved := itoa (Level.position ⟨none,i,data.root⟩)
    have hrest := @count_fill data resolved rest f
    change (itoa _++fill rest ((levelsFrom data resolved rest).map f)).count '-'+
      ((levelsFrom data resolved rest).length+1) = (i.text++restText rest).count '-'
    rw [List.count_append,List.count_append,count_index,count_digits (fun c hc => isDigit_itoa hc)]
    omega

lemma levelsFrom_lt {resolved : List Char} {rest : List (Separator × Component)} {lv : Level} {n : ℕ}
    (hlv : lv∈levelsFrom data resolved rest) (hn : lv.array = some n) : n<2^63 := by
  induction rest generalizing resolved with
  | nil => exact absurd hlv List.not_mem_nil
  | cons q rest ih =>
    obtain ⟨s,c⟩ := q
    cases c with
    | key k => exact ih hlv
    | fromEnd i =>
      rcases List.mem_cons.mp hlv with rfl | hlv
      · exact data.arrayAt_lt _ n hn
      · exact ih hlv

lemma levels_lt {lv : Level} {n : ℕ} (hlv : lv∈p.levels data) (hn : lv.array = some n) : n<2^63 := by
  obtain ⟨c,rest⟩ := p
  cases c with
  | key k => exact levelsFrom_lt hlv hn
  | fromEnd i =>
    rcases List.mem_cons.mp hlv with rfl | hlv
    · exact data.root_lt n hn
    · exact levelsFrom_lt hlv hn

end OverridePath

/-! ## When the path is resolved -/

section Resolved
variable {data : Document} {p : OverridePath} {path : List Char} {i : FromEnd} {length n : ℕ}

lemma atoi_text (h : i.places≤2^63) : atoi i.text = -(i.places : ℤ) := by
  have hread : Text.signed? (fun l => (Text.digits? l).map (fun n : ℕ => (n : ℤ))) i.text = some (-(i.places : ℤ)) := by
    have hdigits : Text.digits? i.digits = some i.places := if_pos ⟨i.ne_nil,List.all_eq_true.mpr i.isDigit⟩
    change ((Text.digits? i.digits).map (fun n : ℕ => (n : ℤ))).map (fun a => -a) = _
    rw [hdigits]
    rfl
  unfold atoi
  rw [hread,Option.map_some,Option.getD_some]
  omega

lemma actualIndex_of_arrayAt (h : data.arrayAt (String.ofList (arrayPath path i.text)) = some length)
    (hpos : 1 ≤ i.places) (hle : i.places≤length) : actualIndex data path i.text = some (length-i.places) := by
  have hlt := data.arrayAt_lt _ _ h
  unfold actualIndex
  rw [h,Option.bind_some,atoi_text (by omega),if_pos (by omega)]
  congr 1
  omega

lemma arrayAt_of_actualIndex (h : actualIndex data path i.text = some n) (hle : i.places≤2^63) :
    data.arrayAt (String.ofList (arrayPath path i.text)) = some (n+i.places) := by
  unfold actualIndex at h
  obtain ⟨length,hlength,hn⟩ := Option.bind_eq_some_iff.mp h
  rw [atoi_text hle] at hn
  split_ifs at hn with hrange
  rw [hlength]
  have hn' := Option.some.inj hn
  congr 1
  omega

def changeOf (data : Document) (path negIndex : List Char) : Option (List Char × List Char) :=
  (actualIndex data path negIndex).map (fun n => ( '.'::negIndex, '.'::itoa n))

lemma processNegativeIndex_eq (data : Document) (path : List Char) :
    processNegativeIndex data (String.ofList path) =
      String.ofList (substitute ((findAllSubmatch path).filterMap (changeOf data path)) path) := by
  unfold processNegativeIndex substitute changeOf
  rw [String.toList_ofList,List.foldl_filterMap]
  congr 2
  funext result negIndex
  cases actualIndex data path negIndex with
  | none => rfl
  | some n => rfl

/-- If every index has its dot and its array is found, the code writes the positions that it has in these. -/
lemma processNegativeIndex_of_found (hdot : ∀ lv∈p.levels data, lv.separator = some .dot)
    (hsome : ∀ lv∈p.levels data, (actualIndex data p.chars lv.index.text).isSome) :
    processNegativeIndex data p.text = String.ofList (p.filled ((p.levels data).map (fun lv =>
      (actualIndex data p.chars lv.index.text).getD 0))) := by
  have hmatches : findAllSubmatch p.chars = (p.levels data).map (fun lv => lv.index.text) := by
    rw [OverridePath.findAllSubmatch_chars data,List.filter_eq_self.mpr (fun lv hlv => decide_eq_true (hdot lv hlv))]
  have hchanges : (findAllSubmatch p.chars).filterMap (changeOf data p.chars) = (p.levels data).map (fun lv =>
      ( '.'::lv.index.text, '.'::itoa ((actualIndex data p.chars lv.index.text).getD 0))) := by
    rw [hmatches,List.filterMap_map,←List.filterMap_eq_map]
    apply List.filterMap_congr
    intro lv hlv
    obtain ⟨n,hn⟩ := Option.isSome_iff_exists.mp (hsome lv hlv)
    simp [changeOf,hn]
  unfold OverridePath.text
  rw [processNegativeIndex_eq,hchanges]
  exact congrArg String.ofList (OverridePath.substitute_chars
    (fun i => (actualIndex data p.chars i.text).getD 0) hdot)

/-- Every minus sign of an index is taken only if every index is matched and found. -/
lemma all_found (h : processNegativeIndex data p.text = p.resolved data) :
    (∀ lv∈p.levels data, lv.separator = some .dot) ∧
      ∀ lv∈p.levels data, (actualIndex data p.chars lv.index.text).isSome := by
  have hmatches := OverridePath.findAllSubmatch_chars data p
  have hone : ∀ c∈(findAllSubmatch p.chars).filterMap (changeOf data p.chars), c.1.count '-'≤1 := by
    intro c hc
    obtain ⟨negIndex,hmem,hchange⟩ := List.mem_filterMap.mp hc
    rw [hmatches] at hmem
    obtain ⟨lv,-,rfl⟩ := List.mem_map.mp hmem
    obtain ⟨n,-,rfl⟩ := Option.map_eq_some_iff.mp hchange
    dsimp only
    rw [List.count_cons_of_ne (by decide),count_index]
  have hcount := count_le_substitute '-' p.chars hone
  have hfilled := @OverridePath.count_filled data Level.position p
  have htext := h
  unfold OverridePath.text OverridePath.resolved at htext
  rw [processNegativeIndex_eq] at htext
  rw [String.ofList_injective htext] at hcount
  have hfound := List.length_filterMap_le (changeOf data p.chars) (findAllSubmatch p.chars)
  have hdotted := List.length_filter_le (fun lv => decide (Level.separator lv = some .dot)) (p.levels data)
  have hlen := congrArg List.length hmatches
  rw [List.length_map] at hlen
  have hdot := List.length_filter_eq_length_iff.mp (by omega :
    ((p.levels data).filter (fun lv => lv.separator = some .dot)).length = (p.levels data).length)
  have hsome := List.filterMap_length_eq_length.mp (by omega :
    ((findAllSubmatch p.chars).filterMap (changeOf data p.chars)).length = (findAllSubmatch p.chars).length)
  constructor
  · exact fun lv hlv => of_decide_eq_true (hdot lv hlv)
  · intro lv hlv
    have hmem : lv.index.text∈findAllSubmatch p.chars := by
      rw [hmatches]
      exact List.mem_map_of_mem (List.mem_filter.mpr ⟨hlv,hdot lv hlv⟩)
    have hchange := hsome _ hmem
    unfold changeOf at hchange
    rwa [Option.isSome_map] at hchange

/-- In a path that leads to elements the indexes are replaced by their positions exactly if each follows a dot and the
array before its first spelling in the written path is as long as its own. -/
theorem processNegativeIndex_spec (data : Document) (p : OverridePath) (h : ∀ lv∈p.levels data, lv.Found) :
    processNegativeIndex data p.text = p.resolved data ↔ ∀ lv∈p.levels data, lv.separator = some .dot ∧
      data.arrayAt (String.ofList (arrayPath p.chars lv.index.text)) = lv.array := by
  constructor
  · intro heq
    obtain ⟨hdot,hsome⟩ := all_found heq
    rw [processNegativeIndex_of_found hdot hsome] at heq
    have hpositions := OverridePath.filled_inj (String.ofList_injective heq)
    intro lv hlv
    obtain ⟨length,hlength,hpos,hle⟩ := h lv hlv
    have hlt := OverridePath.levels_lt hlv hlength
    obtain ⟨n,hn⟩ := Option.isSome_iff_exists.mp (hsome lv hlv)
    have hposition := hpositions lv hlv
    unfold Level.position at hposition
    rw [hn,Option.getD_some,hlength,Option.getD_some] at hposition
    refine ⟨hdot lv hlv,?_⟩
    rw [arrayAt_of_actualIndex hn (by omega),hlength]
    congr 1
    omega
  · intro hall
    have hindex : ∀ lv∈p.levels data, actualIndex data p.chars lv.index.text = some lv.position := by
      intro lv hlv
      obtain ⟨length,hlength,hpos,hle⟩ := h lv hlv
      have harray := (hall lv hlv).2
      rw [hlength] at harray
      rw [actualIndex_of_arrayAt harray hpos hle,Level.position,hlength]
      rfl
    rw [processNegativeIndex_of_found (fun lv hlv => (hall lv hlv).1)
      (fun lv hlv => by rw [hindex lv hlv]; rfl),OverridePath.resolved]
    congr 2
    apply List.map_congr_left
    intro lv hlv
    rw [hindex lv hlv]
    rfl

end Resolved

/-! ## An array in an array -/

/-- `{"a":[[1],[2],[3,4]]}` -/
def nestedArrays : Document where
  root := none
  arrayAt := fun path => if path = "a" then some 3 else if path = "a.2" then some 2 else none
  root_lt := fun n h => nomatch h
  arrayAt_lt := by
    intro path n h
    split_ifs at h with ha ha2
    · rw [←Option.some.inj h]
      decide
    · rw [←Option.some.inj h]
      decide

def keyA : Component := .key ⟨['a'],by decide⟩

def minusOne : Component := .fromEnd ⟨['1'],List.cons_ne_nil _ _,List.forall_mem_singleton.mpr rfl⟩

/-- `a.-1` -/
def lastRow : OverridePath := ⟨keyA,[(.dot,minusOne)]⟩

/-- `a.-1.-1` -/
def lastCell : OverridePath := ⟨keyA,[(.dot,minusOne),(.dot,minusOne)]⟩

lemma lastRow_found : ∀ lv∈lastRow.levels nestedArrays, lv.Found :=
  List.forall_mem_singleton.mpr ⟨3,rfl,by decide,by decide⟩

theorem processNegativeIndex_lastRow :
    processNegativeIndex nestedArrays lastRow.text = lastRow.resolved nestedArrays :=
  (processNegativeIndex_spec nestedArrays lastRow lastRow_found).mpr
    (List.forall_mem_singleton.mpr ⟨rfl,by decide⟩)

/-- The last of the inner array is looked for in the place that the last of the outer one has. -/
theorem processNegativeIndex_lastCell : (∀ lv∈lastCell.levels nestedArrays, lv.Found) ∧
    processNegativeIndex nestedArrays lastCell.text = "a.2.2" ∧ lastCell.resolved nestedArrays = "a.2.1" := by
  refine ⟨?_,by decide,by decide⟩
  have harray : nestedArrays.arrayAt (String.ofList (['a']++ '.'::itoa 2)) = some 2 := by decide
  exact List.forall_mem_cons.mpr ⟨⟨3,rfl,by decide,by decide⟩,
    List.forall_mem_singleton.mpr ⟨2,harray,by decide,by decide⟩⟩

end NegativeIndex
end Relay
end Tierflow
