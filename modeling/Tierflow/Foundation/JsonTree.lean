import Mathlib.Data.List.Basic
import Mathlib.Data.Rat.Defs
import Mathlib.Tactic
import Tierflow.Foundation.JsonText
import Tierflow.Foundation.Text

/-! JSON values as trees. A number comes with its text. The objects of a tree are listed as they stand in it, and trees
are sifted from the top: what is dropped is judged before its content is looked at. -/
namespace Tierflow

inductive Json
  | null
  | bool (b : Bool)
  | number (text : String) (value : ℚ)
  | string (s : String)
  | array (items : List Json)
  | object (members : List (String × Json))

namespace Json

abbrev Members := List (String × Json)

/-! ## Texts -/

mutual

/-- A value as it is written without blanks. -/
def text : Json → List Char
  | .null => "null".toList
  | .bool b => (toString b).toList
  | .number text _ => text.toList
  | .string s => JsonText.quote s
  | .array items => '[' :: textOfItems items++[']']
  | .object members => '\x7b' :: textOfMembers members++['\x7d']

def textOfItems : List Json → List Char
  | [] => []
  | [a] => text a
  | a::l => text a ++ ',' :: textOfItems l

def textOfMembers : Members → List Char
  | [] => []
  | [(k,a)] => JsonText.quote k ++ ':' :: text a
  | (k,a)::l => JsonText.quote k ++ ':' :: (text a ++ ',' :: textOfMembers l)

end

/-! ## Paths -/

/-- The position that a step of a path names, which is written without zeros in front. -/
def index? (step : String) : Option ℕ := (Text.digits? step.toList).filter (fun n => Text.printNat n = step)

def child : Json → String → Option Json
  | .array items,step => (index? step).bind (fun n => items[n]?)
  | .object members,step => members.lookup step
  | _,_ => none

/-- The value that a path of keys and positions leads to. -/
def get : List String → Json → Option Json
  | [],d => some d
  | step::path,d => (d.child step).bind (get path)

/-- The first member of a key has the value, or there is a new member. -/
def assign : Members → String → Json → Members
  | [],k,v => [(k,v)]
  | (j,a)::l,k,v => if j = k then (k,v)::l else (j,a)::assign l k v

lemma lookup_assign (m : Members) (k : String) (v : Json) (j : String) :
    (assign m k v).lookup j = if j = k then some v else m.lookup j := by
  induction m with
  | nil =>
    rw [assign,List.lookup_cons,List.lookup_nil]
    by_cases hj : j = k
    · rw [if_pos hj,hj,beq_self_eq_true]
    · rw [if_neg hj,beq_false_of_ne hj]
  | cons r m ih =>
    obtain ⟨i,a⟩ := r
    rw [assign]
    by_cases hi : i = k
    · rw [if_pos hi,List.lookup_cons,List.lookup_cons,hi]
      by_cases hj : j = k
      · rw [if_pos hj,hj,beq_self_eq_true]
      · rw [if_neg hj,beq_false_of_ne hj]
    · rw [if_neg hi,List.lookup_cons,List.lookup_cons,ih]
      by_cases hj : j = i
      · subst hj
        rw [beq_self_eq_true]
        exact (if_neg hi).symm
      · rw [beq_false_of_ne hj]

/-! ## Objects -/

mutual

/-- The objects of a tree. -/
def objects : Json → List Members
  | .array items => objectsOfItems items
  | .object members => members::objectsOfMembers members
  | _ => []

def objectsOfItems : List Json → List Members
  | [] => []
  | a::l => objects a++objectsOfItems l

def objectsOfMembers : Members → List Members
  | [] => []
  | (_,a)::l => objects a++objectsOfMembers l

end

/-- The objects that are not the tree itself. -/
def objectsBelow : Json → List Members
  | .array items => objectsOfItems items
  | .object members => objectsOfMembers members
  | _ => []

/-! ## Sifting -/

section Sifting
variable (drops : Members → Prop) (deep : Bool)

mutual

/-- What is left of a tree. Below an object nothing is dropped unless the sifting goes deep. -/
inductive Sifted : Json → Json → Prop
  | null : Sifted .null .null
  | bool (b : Bool) : Sifted (.bool b) (.bool b)
  | number (text : String) (value : ℚ) : Sifted (.number text value) (.number text value)
  | string (s : String) : Sifted (.string s) (.string s)
  | array {l l' : List Json} : SiftedItems l l' → Sifted (.array l) (.array l')
  | shallow (m : Members) : deep = false → Sifted (.object m) (.object m)
  | object {m m' : Members} : deep = true → SiftedMembers m m' → Sifted (.object m) (.object m')

inductive SiftedItems : List Json → List Json → Prop
  | nil : SiftedItems [] []
  | drop {m : Members} {l l' : List Json} : drops m → SiftedItems l l' → SiftedItems (.object m::l) l'
  | keep {a b : Json} {l l' : List Json} : (∀ m, a = .object m → ¬drops m) → Sifted a b → SiftedItems l l' →
      SiftedItems (a::l) (b::l')

inductive SiftedMembers : Members → Members → Prop
  | nil : SiftedMembers [] []
  | drop {m l l' : Members} (k : String) : drops m → SiftedMembers l l' → SiftedMembers ((k,.object m)::l) l'
  | keep {a b : Json} {l l' : Members} (k : String) : (∀ m, a = .object m → ¬drops m) → Sifted a b →
      SiftedMembers l l' → SiftedMembers ((k,a)::l) ((k,b)::l')

end

variable {drops deep}

lemma SiftedItems.length_le : ∀ {l l' : List Json}, SiftedItems drops deep l l' → l'.length ≤ l.length
  | _,_,.nil => le_rfl
  | _,_,.drop _ h => (SiftedItems.length_le h).trans (Nat.le_succ _)
  | _,_,.keep _ _ h => Nat.succ_le_succ (SiftedItems.length_le h)

lemma SiftedMembers.length_le : ∀ {l l' : Members}, SiftedMembers drops deep l l' → l'.length ≤ l.length
  | _,_,.nil => le_rfl
  | _,_,.drop _ _ h => (SiftedMembers.length_le h).trans (Nat.le_succ _)
  | _,_,.keep _ _ _ h => Nat.succ_le_succ (SiftedMembers.length_le h)

end Sifting

end Json
end Tierflow
