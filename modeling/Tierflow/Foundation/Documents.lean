import Mathlib.Data.List.Infix
import Mathlib.Tactic

/-! JSON documents as trees that remember how many bytes their text takes, and documents with a place in them for a
string. A path of keys leads to the first value that it matches; where the place comes into it is known before the
string is. -/
namespace Tierflow

/-- A character of a string and the bytes of its spelling, an escape or the character itself. -/
structure JsonChar where
  char : Char
  spelled : ℕ
  fits : char.utf8Size ≤ spelled

/-- A string as it is written. -/
abbrev Literal := List JsonChar

namespace Literal

def text (s : Literal) : String := String.ofList (s.map JsonChar.char)

def bytes (s : Literal) : ℕ := (s.map (fun c => c.char.utf8Size)).sum

/-- The bytes that escapes add. -/
def escapes (s : Literal) : ℕ := (s.map (fun c => c.spelled-c.char.utf8Size)).sum

/-- The bytes between the quotes. -/
def spelled (s : Literal) : ℕ := (s.map JsonChar.spelled).sum

lemma spelled_eq (s : Literal) : s.spelled = s.bytes+s.escapes := by
  unfold spelled bytes escapes
  induction s with
  | nil => rfl
  | cons c s ih =>
    have hc := c.fits
    rw [List.map_cons,List.map_cons,List.map_cons,List.sum_cons,List.sum_cons,List.sum_cons,ih]
    omega

/-- Nothing is escaped. -/
def plain (s : String) : Literal := s.toList.map (fun c => ⟨c,c.utf8Size,le_rfl⟩)

/-- Letters that are not escaped. -/
def letters (n : ℕ) : Literal := List.replicate n ⟨'a',1,le_rfl⟩

lemma bytes_letters (n : ℕ) : (letters n).bytes = n := by
  unfold letters bytes
  rw [List.map_replicate,List.sum_replicate,smul_eq_mul]
  exact Nat.mul_one n

lemma escapes_letters (n : ℕ) : (letters n).escapes = 0 := by
  unfold letters escapes
  rw [List.map_replicate,List.sum_replicate,smul_eq_mul]
  exact Nat.mul_zero n

end Literal

/-- The layout of a value are the bytes of its brackets, separators and blanks. -/
inductive Doc
  | literal (s : Literal)
  | scalar (bytes : ℕ)
  | array (layout : ℕ) (items : List Doc)
  | object (layout : ℕ) (members : List (Literal × Doc))

namespace Doc

mutual

/-- The bytes of the text. -/
def size : Doc → ℕ
  | .literal s => s.spelled+2
  | .scalar n => n
  | .array layout items => layout+sizeItems items
  | .object layout members => layout+sizeMembers members

def sizeItems : List Doc → ℕ
  | [] => 0
  | d::ds => d.size+sizeItems ds

def sizeMembers : List (Literal × Doc) → ℕ
  | [] => 0
  | (k,d)::ms => k.spelled+2+d.size+sizeMembers ms

end

/-- The first value in the order of the text that the path of keys matches. Only objects have members. -/
def get : List String → Doc → Option Doc
  | [],d => some d
  | key::path,.object _ members => members.findSome? (fun m => if m.1.text = key then get path m.2 else none)
  | _::_,_ => none

/-! ## A place for a string -/

/-- One step on the way down to the place. -/
inductive Frame
  | item (layout : ℕ) (before after : List Doc)
  | member (layout : ℕ) (before : List (Literal × Doc)) (key : Literal) (after : List (Literal × Doc))

/-- The document with something in the place that the steps lead to. -/
def plug : List Frame → Doc → Doc
  | [],d => d
  | .item layout before after::fs,d => .array layout (before++plug fs d::after)
  | .member layout before key after::fs,d => .object layout (before++(key,plug fs d)::after)

lemma sizeItems_append (ds es : List Doc) : sizeItems (ds++es) = sizeItems ds+sizeItems es := by
  induction ds with
  | nil => simp [sizeItems]
  | cons d ds ih => simp [sizeItems,ih,Nat.add_assoc]

lemma sizeMembers_append (ms ns : List (Literal × Doc)) : sizeMembers (ms++ns) = sizeMembers ms+sizeMembers ns := by
  induction ms with
  | nil => simp [sizeMembers]
  | cons m ms ih => simp [sizeMembers,ih,Nat.add_assoc]

/-- What surrounds the place has its size, whatever is in it. -/
lemma exists_size_plug (fs : List Frame) : ∃ n, ∀ d, (plug fs d).size = n+d.size := by
  induction fs with
  | nil => exact ⟨0,fun d => (Nat.zero_add _).symm⟩
  | cons f fs ih =>
    obtain ⟨n,hn⟩ := ih
    cases f with
    | item layout before after =>
      refine ⟨layout+sizeItems before+n+sizeItems after,?_⟩
      intro d
      rw [plug,size,sizeItems_append,sizeItems,hn]
      omega
    | member layout before key after =>
      refine ⟨layout+sizeMembers before+(key.spelled+2)+n+sizeMembers after,?_⟩
      intro d
      rw [plug,size,sizeMembers_append,sizeMembers,hn]
      omega

/-- The rest of the way from where a path ends, if the path ends on the way. -/
def follow : List String → List Frame → Option (List Frame)
  | [],fs => some fs
  | key::path,.member _ before k _::fs =>
    if (before.findSome? (fun m => if m.1.text = key then get path m.2 else none)).isSome then none
    else if k.text = key then follow path fs
    else none
  | _::_,_ => none

lemma follow_suffix {path : List String} {fs fs' : List Frame} (h : follow path fs = some fs') : fs'<:+fs := by
  induction path generalizing fs with
  | nil =>
    obtain rfl := Option.some.inj h
    exact List.suffix_refl _
  | cons key path ih =>
    match fs with
    | .member layout before k after::fs =>
      rw [follow] at h
      split_ifs at h
      exact (ih h).trans (List.suffix_cons _ _)

/-- A path that ends on the way finds what is there, with the place in it. -/
lemma get_of_follow {path : List String} {fs fs' : List Frame} (h : follow path fs = some fs') (d : Doc) :
    get path (plug fs d) = some (plug fs' d) := by
  induction path generalizing fs with
  | nil =>
    obtain rfl := Option.some.inj h
    rfl
  | cons key path ih =>
    match fs with
    | .member layout before k after::fs =>
      rw [follow] at h
      split_ifs at h with hbefore hk
      rw [Option.not_isSome_iff_eq_none] at hbefore
      rw [plug,get,List.findSome?_append,hbefore,Option.none_or,List.findSome?_cons,if_pos hk,ih h]

/-- Any other path finds the same, whatever string is in the place. -/
lemma get_of_not_follow {path : List String} {fs : List Frame} (h : follow path fs = none) (s s' : Literal) :
    get path (plug fs (.literal s)) = get path (plug fs (.literal s')) := by
  induction path generalizing fs with
  | nil => contradiction
  | cons key path ih =>
    match fs with
    | [] => rfl
    | .item layout before after::fs => rfl
    | .member layout before k after::fs =>
      rw [plug,plug,get,get,List.findSome?_append,List.findSome?_append]
      cases hbefore : before.findSome? (fun m => if m.1.text = key then get path m.2 else none) with
      | some d => rfl
      | none =>
        rw [Option.none_or,Option.none_or,List.findSome?_cons,List.findSome?_cons]
        dsimp only
        by_cases hk : k.text = key
        · rw [if_pos hk,if_pos hk]
          rw [follow,hbefore,if_neg (by simp),if_pos hk] at h
          rw [ih h]
        · rw [if_neg hk,if_neg hk]

end Doc
end Tierflow
