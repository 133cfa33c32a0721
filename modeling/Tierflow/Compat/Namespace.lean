import Tierflow.Foundation.Text

/-! Names of namespace tools. A chat tool has one name, so the namespace and the name go into it encoded; what does
not decode is an ordinary name. -/
namespace Tierflow
namespace Compat

/-! ## Base 64 with the URL alphabet, without padding -/

def sextet? (c : Char) : Option ℕ :=
  if 'A' ≤ c ∧ c ≤ 'Z' then some (c.toNat-65)
  else if 'a' ≤ c ∧ c ≤ 'z' then some (c.toNat-97+26)
  else if '0' ≤ c ∧ c ≤ '9' then some (c.toNat-48+52)
  else if c = '-' then some 62
  else if c = '_' then some 63
  else none

/-- Three bytes for four sextets; the bits that are left over at the end are not looked at. -/
def bytesOfSextets : List ℕ → Option (List ℕ)
  | [] => some []
  | [_] => none
  | [a,b] => some [a*4+b/16]
  | [a,b,c] => some [a*4+b/16,b%16*16+c/4]
  | a::b::c::d::rest => (bytesOfSextets rest).map (fun l => [a*4+b/16,b%16*16+c/4,c%4*64+d]++l)

/-- Line breaks between the characters are skipped. -/
def decodeBase64 (s : List Char) : Option (List ℕ) :=
  ((s.filter (fun c => c ≠ '\n' ∧ c ≠ '\r')).mapM sextet?).bind bytesOfSextets

def sextetChar (n : ℕ) : Char :=
  if n<26 then Char.ofNat (n+65)
  else if n<52 then Char.ofNat (n-26+97)
  else if n<62 then Char.ofNat (n-52+48)
  else if n = 62 then '-'
  else '_'

def sextetsOfBytes : List ℕ → List ℕ
  | [] => []
  | [a] => [a/4,a%4*16]
  | [a,b] => [a/4,a%4*16+b/16,b%16*4]
  | a::b::c::rest => [a/4,a%4*16+b/16,b%16*4+c/64,c%64]++sextetsOfBytes rest

def encodeBase64 (bytes : List ℕ) : List Char := (sextetsOfBytes bytes).map sextetChar

/-- The character that begins with this byte, and how many of the bytes after it belong to it. -/
def leadingRune (a : ℕ) (rest : List ℕ) : Char × ℕ :=
  let b := rest.getD 0 0
  let c := rest.getD 1 0
  let d := rest.getD 2 0
  let two := a%32*64+b%64
  let three := a%16*4096+b%64*64+c%64
  let four := a%8*262144+b%64*4096+c%64*64+d%64
  if a<128 then (Char.ofNat a,0)
  else if a/32 = 6 ∧ b/64 = 2 ∧ 128≤two then (Char.ofNat two,1)
  else if a/16 = 14 ∧ b/64 = 2 ∧ c/64 = 2 ∧ 2048≤three ∧ three.isValidChar then (Char.ofNat three,2)
  else if a/8 = 30 ∧ b/64 = 2 ∧ c/64 = 2 ∧ d/64 = 2 ∧ 65536≤four ∧ four.isValidChar then (Char.ofNat four,3)
  else ('\ufffd',0)

/-- The text of the bytes after the given number of them; a byte that belongs to no character shows as the replacement
character. -/
def textOfBytes : ℕ → List ℕ → List Char
  | _,[] => []
  | 0,a::rest => (leadingRune a rest).1::textOfBytes (leadingRune a rest).2 rest
  | n+1,_::rest => textOfBytes n rest

/-! ## Names -/

def responsesNamespaceToolPrefix : String := "tfns__"

/-- The pieces between double underscores. -/
def splitUnderscores : List Char → List (List Char)
  | [] => [[]]
  | ['_'] => [['_']]
  | '_' :: '_' :: rest => []::splitUnderscores rest
  | c::rest =>
    match splitUnderscores rest with
    | [] => [[c]]
    | w::ws => (c::w)::ws

/-- The namespace and the name, if both are encoded in this name. -/
def decodeResponsesNamespaceToolName (encoded : String) : Option (String × String) :=
  match Text.cutPrefix encoded responsesNamespaceToolPrefix with
  | none => none
  | some rest =>
    match splitUnderscores rest.toList with
    | [namespacePart,namePart] =>
      if namespacePart = [] ∨ namePart = [] then none
      else
        match decodeBase64 namespacePart,decodeBase64 namePart with
        | some namespaceBytes,some nameBytes =>
          if namespaceBytes = [] ∨ nameBytes = [] then none
          else some (String.ofList (textOfBytes 0 namespaceBytes),String.ofList (textOfBytes 0 nameBytes))
        | _,_ => none
    | _ => none

def encodeResponsesNamespaceToolName (namespaceName name : String) : String :=
  if namespaceName = "" then name
  else responsesNamespaceToolPrefix++
    String.ofList (encodeBase64 (namespaceName.toUTF8.toList.map UInt8.toNat))++"__"++
      String.ofList (encodeBase64 (name.toUTF8.toList.map UInt8.toNat))

example : decodeResponsesNamespaceToolName "tfns__Y3Jt__bG9va3Vw" = some ("crm","lookup") := by decide

end Compat
end Tierflow
