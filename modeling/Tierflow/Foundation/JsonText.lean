import Mathlib.Tactic

/-! JSON read as text. A scanner goes over one value and returns what stands behind it; the items of an array are the
pieces of text that it goes over between the brackets. -/
namespace Tierflow
namespace JsonText

def isBlank (c : Char) : Bool := c = ' ' || c = '\t' || c = '\n' || c = '\r'

def skipBlanks (l : List Char) : List Char := l.dropWhile isBlank

def isHexDigit (c : Char) : Bool := c.isDigit || ('a' ≤ c && c ≤ 'f') || ('A' ≤ c && c ≤ 'F')

/-- Behind the closing quote of a string. -/
def scanString : List Char → Option (List Char)
  | [] => none
  | '"'::l => some l
  | '\\' :: 'u' :: a :: b :: c :: d :: l =>
    if isHexDigit a && isHexDigit b && isHexDigit c && isHexDigit d then scanString l else none
  | '\\'::c::l => if c∈['"','\\','/','b','f','n','r','t'] then scanString l else none
  | c::l => if c.toNat<0x20 then none else scanString l

def scanDigits : List Char → Option (List Char)
  | [] => none
  | c::l => if c.isDigit then some (l.dropWhile Char.isDigit) else none

def scanExponent : List Char → Option (List Char)
  | c::l =>
    if c = 'e' || c = 'E' then
      match l with
      | '+'::l => scanDigits l
      | '-'::l => scanDigits l
      | l => scanDigits l
    else some (c::l)
  | [] => some []

def scanFraction : List Char → Option (List Char)
  | '.'::l => (scanDigits l).bind scanExponent
  | l => scanExponent l

/-- A number has no zeros in front. -/
def scanUnsigned : List Char → Option (List Char)
  | '0'::l => scanFraction l
  | l => (scanDigits l).bind scanFraction

def scanNumber : List Char → Option (List Char)
  | '-'::l => scanUnsigned l
  | l => scanUnsigned l

mutual

/-- Behind one value, with so much fuel and so many levels left to go down. -/
def scanValue : ℕ → ℕ → List Char → Option (List Char)
  | 0,_,_ => none
  | n+1,depth,l =>
    match l with
    | '"'::l => scanString l
    | '['::l =>
      match depth,skipBlanks l with
      | 0,_ => none
      | _+1,']'::l => some l
      | depth+1,l => scanItems n depth l
    | '{'::l =>
      match depth,skipBlanks l with
      | 0,_ => none
      | _+1,'}'::l => some l
      | depth+1,l => scanMembers n depth l
    | 't' :: 'r' :: 'u' :: 'e' :: l => some l
    | 'f' :: 'a' :: 'l' :: 's' :: 'e' :: l => some l
    | 'n' :: 'u' :: 'l' :: 'l' :: l => some l
    | l => scanNumber l

/-- Behind an array of which an item comes next. -/
def scanItems : ℕ → ℕ → List Char → Option (List Char)
  | 0,_,_ => none
  | n+1,depth,l =>
    match (scanValue n depth l).map skipBlanks with
    | some (','::l) => scanItems n depth (skipBlanks l)
    | some (']'::l) => some l
    | _ => none

/-- Behind an object of which a member comes next. -/
def scanMembers : ℕ → ℕ → List Char → Option (List Char)
  | 0,_,_ => none
  | n+1,depth,l =>
    match l with
    | '"'::l =>
      match (scanString l).map skipBlanks with
      | some (':'::l) =>
        match (scanValue n depth (skipBlanks l)).map skipBlanks with
        | some (','::l) => scanMembers n depth (skipBlanks l)
        | some ('}'::l) => some l
        | _ => none
      | _ => none
    | _ => none

end

def maxNestingDepth : ℕ := 10000

/-- The items of an array of which one comes next, each as it is written. -/
def items : ℕ → List Char → Option (List (List Char))
  | 0,_ => none
  | n+1,l =>
    match scanValue (2*l.length) (maxNestingDepth-1) l with
    | none => none
    | some rest =>
      let item := l.take (l.length-rest.length)
      match skipBlanks rest with
      | ','::l => (items n (skipBlanks l)).map (fun tail => item::tail)
      | ']'::l => if skipBlanks l = [] then some [item] else none
      | _ => none

/-- The items of a text that is one array. -/
def rawArray (s : String) : Option (List String) :=
  match s.toList with
  | '['::l =>
    match skipBlanks l with
    | ']'::l => if skipBlanks l = [] then some [] else none
    | l => (items l.length l).map (fun l => l.map String.ofList)
  | _ => none

example : rawArray "[ \x7b\"a\": [1, -2.5e+3]\x7d ,\"x\\u00e9\",null]" =
    some ["\x7b\"a\": [1, -2.5e+3]\x7d","\"x\\u00e9\"","null"] := by decide +kernel

/-! ## Writing strings -/

/-- A string that holds no control characters, as it is written. -/
def quote (s : String) : List Char :=
  '"' :: s.toList.flatMap (fun c => if c = '"' ∨ c = '\\' then ['\\',c] else [c])++['"']

/-- What stands up to the closing quote, and what comes behind it. -/
def unquoted : List Char → Option (List Char × List Char)
  | [] => none
  | '"'::l => some ([],l)
  | '\\' :: c :: l => (unquoted l).map (fun r => (c::r.1,r.2))
  | c::l => (unquoted l).map (fun r => (c::r.1,r.2))

def unquote : List Char → Option (String × List Char)
  | '"'::l => (unquoted l).map (fun r => (String.ofList r.1,r.2))
  | _ => none

/-- Behind a text that must come next. -/
def expect : List Char → List Char → Option (List Char)
  | [],l => some l
  | c::w,d::l => if c = d then expect w l else none
  | _::_,[] => none

lemma unquoted_flatMap (s rest : List Char) :
    unquoted (s.flatMap (fun c => if c = '"' ∨ c = '\\' then ['\\',c] else [c]) ++ '"' :: rest) = some (s,rest) := by
  induction s with
  | nil => rfl
  | cons c s ih =>
    rw [List.flatMap_cons,List.append_assoc]
    by_cases hc : c = '"' ∨ c = '\\'
    · rw [if_pos hc]
      exact congrArg (Option.map _) ih
    · rw [if_neg hc]
      obtain ⟨hquote,hescape⟩ := not_or.mp hc
      have hread : unquoted (c::(s.flatMap (fun c => if c = '"' ∨ c = '\\' then ['\\',c] else [c]) ++ '"' :: rest)) =
          (unquoted (s.flatMap (fun c => if c = '"' ∨ c = '\\' then ['\\',c] else [c]) ++ '"' :: rest)).map
            (fun r => (c::r.1,r.2)) := by
        rw [unquoted.eq_def]
        split
        · contradiction
        · rename_i h
          exact absurd (List.cons.inj h).1 hquote
        · rename_i h
          exact absurd (List.cons.inj h).1 hescape
        · rename_i h
          obtain ⟨rfl,rfl⟩ := List.cons.inj h
          rfl
      exact hread.trans (by rw [ih]; rfl)

@[simp] lemma unquote_quote (s : String) (rest : List Char) : unquote (quote s++rest) = some (s,rest) := by
  unfold quote
  rw [List.append_assoc,List.cons_append,List.singleton_append,unquote,unquoted_flatMap,Option.map_some,
    String.ofList_toList]

@[simp] lemma expect_append (w l : List Char) : expect w (w++l) = some l := by
  induction w with
  | nil => cases l <;> rfl
  | cons c w ih => rw [List.cons_append,expect,if_pos rfl,ih]

end JsonText
end Tierflow
