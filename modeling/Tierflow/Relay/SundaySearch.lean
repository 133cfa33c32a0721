import Tierflow.Foundation.Skipping

/-! The text search that picks the usage records out of an audio stream. Its table of moves is keyed by the characters
of the word, its windows are cut from the bytes of the text. -/
namespace Tierflow
namespace Relay
open Skipping

def encode (word : List Char) : List UInt8 := word.flatMap String.utf8EncodeChar

/-- Each character is entered with the distance of its first byte from the end; a later one replaces it. -/
def offsetTable (total : ℕ) : List Char → ℕ → (ℕ → Option ℕ) → ℕ → Option ℕ
  | [],_,offset => offset
  | c::cs,i,offset =>
    offsetTable total cs (i+(String.utf8EncodeChar c).length) (Function.update offset c.toNat (some (total-i)))

def sundayShift (pattern : List Char) (next : UInt8) : ℕ :=
  let total := (encode pattern).length
  (offsetTable total pattern 0 (fun _ => none) next.toNat).getD (total+1)

def sundaySearch (text : List UInt8) (pattern : String) : Bool :=
  scan (sundayShift pattern.toList) (encode pattern.toList) text (text.length+1) 0

def IsAscii (word : List Char) : Prop := ∀ c∈word, c.toNat<128

section Table
variable {total i : ℕ} {word : List Char} {offset : ℕ → Option ℕ} {r v : ℕ}

lemma encode_cons (c : Char) (cs : List Char) : encode (c::cs) = String.utf8EncodeChar c++encode cs := rfl

lemma encode_append (l m : List Char) : encode (l++m) = encode l++encode m := List.flatMap_append

lemma encode_char {c : Char} (h : c.toNat<128) : String.utf8EncodeChar c = [UInt8.ofNat c.toNat] := by
  have hc : c.val.toNat≤0x7f := Nat.le_of_lt_succ h
  simp only [String.utf8EncodeChar,hc,if_true]
  rfl

lemma offsetTable_absent (h : ∀ c∈word, c.toNat≠r) : offsetTable total word i offset r = offset r := by
  induction word generalizing i offset with
  | nil => rfl
  | cons c cs ih =>
    rw [offsetTable,ih (fun d hd => h d (List.mem_cons_of_mem c hd))]
    exact Function.update_of_ne (h c List.mem_cons_self).symm _ _

/-- An entry of the table is that of a character of the word. -/
lemma offsetTable_some (h : offsetTable total word i offset r = some v) :
    offset r = some v ∨ ∃ pre c post, word = pre++c::post ∧ c.toNat = r ∧ v = total-(i+(encode pre).length) := by
  induction word generalizing i offset with
  | nil => exact .inl h
  | cons c cs ih =>
    rcases ih h with ho | ⟨pre,d,post,hcs,hd,hv⟩
    · by_cases hr : r = c.toNat
      · rw [hr,Function.update_self,Option.some.injEq] at ho
        exact .inr ⟨[],c,cs,rfl,hr.symm,by rw [←ho]; rfl⟩
      · rw [Function.update_of_ne hr] at ho
        exact .inl ho
    · refine .inr ⟨c::pre,d,post,by rw [hcs]; rfl,hd,?_⟩
      rw [hv,encode_cons,List.length_append]
      omega

/-- In an ASCII word the entry of a byte is that of its last place. -/
lemma offsetTable_ascii (ha : IsAscii word) {j : ℕ} {b : UInt8} (hb : (encode word)[j]? = some b) :
    ∃ k, j≤k ∧ k<(encode word).length ∧ offsetTable total word i offset b.toNat = some (total-(i+k)) := by
  induction word generalizing i offset j with
  | nil => cases hb
  | cons c cs ih =>
    have hc := encode_char (ha c List.mem_cons_self)
    have hcs : IsAscii cs := fun d hd => ha d (List.mem_cons_of_mem c hd)
    have later : ∀ j', (encode cs)[j']? = some b → ∃ k, j'+1≤k ∧ k<(encode (c::cs)).length ∧
        offsetTable total (c::cs) i offset b.toNat = some (total-(i+k)) := by
      intro j' hj
      obtain ⟨k,hk,hl,ht⟩ : ∃k,j'≤k ∧ k<(encode cs).length ∧ offsetTable total cs (i+1)
          (Function.update offset c.toNat (some (total-i))) b.toNat = some (total-(i+1+k)) := ih hcs hj
      refine ⟨k+1,by omega,?_,?_⟩
      · rw [encode_cons,hc,List.length_append,List.length_singleton]
        omega
      · rw [offsetTable,hc,List.length_singleton,ht]
        congr 2
        omega
    rw [encode_cons,hc] at hb
    cases j with
    | succ j => exact later j hb
    | zero =>
      by_cases hmem : b∈encode cs
      · obtain ⟨j',hj'⟩ := List.getElem?_of_mem hmem
        obtain ⟨k,hk,hl,ht⟩ := later j' hj'
        exact ⟨k,by omega,hl,ht⟩
      · have hbc : b.toNat = c.toNat := by
          have hbe : UInt8.ofNat c.toNat = b := Option.some.inj hb
          have hlt := ha c List.mem_cons_self
          rw [←hbe,UInt8.toNat_ofNat']
          omega
        refine ⟨0,le_refl 0,?_,?_⟩
        · rw [encode_cons,hc,List.length_append,List.length_singleton]
          omega
        · rw [offsetTable,offsetTable_absent,hbc,Function.update_self]
          · rfl
          · intro d hd hdb
            refine hmem (List.mem_flatMap.mpr ⟨d,hd,?_⟩)
            rw [encode_char (hcs d hd),hdb,UInt8.ofNat_toNat]
            exact List.mem_singleton_self b

end Table

lemma sundayShift_pos (word : List Char) (b : UInt8) : 0 < sundayShift word b ∧
    sundayShift word b≤(encode word).length+1 := by
  rw [sundayShift]
  cases ht : offsetTable (encode word).length word 0 (fun _ => none) b.toNat with
  | none =>
    simp
  | some v =>
    obtain h | ⟨pre,c,post,hw,-,hv⟩ := offsetTable_some ht
    · cases h
    · have hc : 0<(String.utf8EncodeChar c).length := by
        rw [String.length_utf8EncodeChar]
        exact c.utf8Size_pos
      have hl : (encode word).length = (encode pre).length+((String.utf8EncodeChar c).length+(encode post).length) := by
        rw [hw,encode_append,encode_cons,List.length_append,List.length_append]
      rw [Option.getD_some]
      omega

lemma sundayShift_safe {word : List Char} (ha : IsAscii word) : Safe (sundayShift word) (encode word) where
  pos b := (sundayShift_pos word b).1
  le b := (sundayShift_pos word b).2
  place b j hb := by
    obtain ⟨k,hk,hl,ht⟩ : ∃k,j≤k ∧ k<(encode word).length ∧ offsetTable (encode word).length word 0 (fun _ => none)
        b.toNat = some ((encode word).length-(0+k)) := offsetTable_ascii ha hb
    rw [sundayShift,ht,Option.getD_some]
    omega

/-! ## Words that are not ASCII -/

lemma exists_continuation {c : Char} (h : 128 ≤ c.toNat) :
    ∃ b∈String.utf8EncodeChar c, 0x80≤b.toNat ∧ b.toNat<0xC0 := by
  have hc : ¬c.val.toNat≤0x7f := by
    have : c.toNat = c.val.toNat := rfl
    omega
  have hb : 0x80≤(UInt8.ofNat (c.val.toNat%0x40+0x80)).toNat ∧ (UInt8.ofNat (c.val.toNat%0x40+0x80)).toNat<0xC0 := by
    rw [UInt8.toNat_ofNat']
    omega
  refine ⟨UInt8.ofNat (c.val.toNat%0x40+0x80),?_,hb⟩
  simp only [String.utf8EncodeChar,hc,if_false]
  split_ifs <;> simp

lemma encode_continuation {c : Char} (h : 0x80 ≤ c.toNat) (h' : c.toNat<0xC0) :
    String.utf8EncodeChar c = [0xC2,UInt8.ofNat c.toNat] := by
  have hv : c.toNat = c.val.toNat := rfl
  have h1 : ¬c.val.toNat≤0x7f := by omega
  have h2 : c.val.toNat≤0x7ff := by omega
  have h3 : c.val.toNat/64%0x20+0xc0 = 0xC2 := by omega
  have h4 : c.val.toNat%0x40+0x80 = c.val.toNat := by omega
  simp only [String.utf8EncodeChar,h1,h2,if_true,if_false,h3,h4]
  rfl

lemma exists_last_place {b : UInt8} {l : List UInt8} (h : b∈l) : ∃ pre post, l = pre++b::post ∧ b∉post := by
  obtain ⟨as,bs,hl,has⟩ := List.eq_append_cons_of_mem (List.mem_reverse.mpr h)
  refine ⟨bs.reverse,as.reverse,?_,fun hb => has (List.mem_reverse.mp hb)⟩
  rw [←List.reverse_reverse l,hl]
  simp

/-- A byte that continues a character moves the window past the last place of that byte. -/
lemma lt_sundayShift {word : List Char} {b : UInt8} {pre post : List UInt8} (hb : 0x80≤b.toNat) (hb' : b.toNat<0xC0)
    (hw : encode word = pre++b::post) (hpost : b∉post) : post.length+1 < sundayShift word b := by
  have hm : (encode word).length = pre.length+(post.length+1) := by
    rw [hw,List.length_append,List.length_cons]
  rw [sundayShift]
  cases ht : offsetTable (encode word).length word 0 (fun _ => none) b.toNat with
  | none =>
    rw [Option.getD_none]
    omega
  | some v =>
    obtain h | ⟨front,c,back,hword,hc,hv⟩ := offsetTable_some ht
    · cases h
    · have henc := encode_continuation (c := c) (by omega) (by omega)
      rw [hc,UInt8.ofNat_toNat] at henc
      have hsplit : pre++b::post = encode front++0xC2::b::encode back := by
        rw [←hw,hword,encode_append,encode_cons,henc]
        rfl
      have hplace : (encode front).length+1≤pre.length := by
        by_contra hlt
        refine hpost ?_
        have hget : (pre++b::post)[(encode front).length+1]? = some b := by
          rw [hsplit,List.getElem?_append_right (by omega),Nat.add_sub_cancel_left]
          rfl
        obtain ⟨k,hk⟩ : ∃ k, (encode front).length = pre.length+k := ⟨_,(Nat.add_sub_cancel' (by omega)).symm⟩
        rw [hk,Nat.add_assoc,List.getElem?_append_right (by omega),Nat.add_sub_cancel_left,List.getElem?_cons_succ]
          at hget
        exact List.mem_of_getElem? hget
      rw [Option.getD_some]
      omega

/-- Behind a foreign byte for each byte from that place on, the word itself is missed. -/
lemma exists_missed {word : List Char} (h : ¬IsAscii word) :
    ∃ text, encode word<:+:text ∧ scan (sundayShift word) (encode word) text (text.length+1) 0 = false := by
  simp only [IsAscii,not_forall,not_lt] at h
  obtain ⟨c,hc,hbig⟩ := h
  obtain ⟨b,hbc,hb,hb'⟩ := exists_continuation hbig
  have hmem : b∈encode word := List.mem_flatMap.mpr ⟨c,hc,hbc⟩
  obtain ⟨pre,post,hw,hpost⟩ := exists_last_place hmem
  obtain ⟨w,ws,hcons⟩ : ∃ w ws, encode word = w::ws := by
    cases hpre : encode word with
    | nil =>
      rw [hw] at hpre
      simp at hpre
    | cons w ws => exact ⟨w,ws,rfl⟩
  have hm : (encode word).length = pre.length+(post.length+1) := by
    rw [hw,List.length_append,List.length_cons]
  refine ⟨List.replicate (post.length+1) (w+1)++encode word,(List.suffix_append _ _).isInfix,?_⟩
  have hne : ¬(encode word).isPrefixOf (List.replicate (post.length+1) (w+1)++encode word) := by
    rw [List.isPrefixOf_iff_prefix,hcons,List.replicate_succ,List.cons_append,List.cons_prefix_cons]
    intro he
    have hw1 : w+1≠w := by simp
    exact hw1 he.1.symm
  have hnext : (List.replicate (post.length+1) (w+1)++encode word)[0+(encode word).length]? = some b := by
    rw [List.getElem?_append_right (by rw [List.length_replicate]; omega),List.length_replicate,hm,hw]
    have : 0+(pre.length+(post.length+1))-(post.length+1) = pre.length := by omega
    rw [this]
    simp
  have hlen : (List.replicate (post.length+1) (w+1)++encode word).length = post.length+1+(encode word).length := by
    rw [List.length_append,List.length_replicate]
  rw [scan,if_pos (by rw [hlen]; omega),List.drop_zero,if_neg hne,hnext]
  have := lt_sundayShift hb hb' hw hpost
  exact scan_past (by rw [hlen]; omega)

/-- The search answers right for every text exactly when its word is ASCII. -/
theorem sundaySearch_exact_iff (pattern : String) :
    (∀ text, sundaySearch text pattern = true ↔ encode pattern.toList<:+:text) ↔ IsAscii pattern.toList := by
  constructor
  · intro h
    by_contra ha
    obtain ⟨text,hin,hmiss⟩ := exists_missed ha
    have hfound := (h text).mpr hin
    rw [sundaySearch,hmiss] at hfound
    cases hfound
  · intro ha text
    rw [infix_iff_occurs,sundaySearch,scan_iff (sundayShift_safe ha) (by omega)]
    simp

end Relay
end Tierflow
