import Mathlib
import Tierflow.Compat.Responses

/-! The encoded names of namespace tools, decoded again. Base 64 of a UTF-8 text has no double underscore and does not
begin with an underscore, but it may end with one, and the decoder splits at the first double underscore. -/
namespace Tierflow
namespace Compat

/-! ## Base 64 -/

section Base64
variable {bytes : List ℕ}

lemma sextet?_sextetChar {n : ℕ} (h : n<64) : sextet? (sextetChar n) = some n := by
  have hall : ∀ i : Fin 64, sextet? (sextetChar i) = some i.val := by decide
  exact hall ⟨n,h⟩

lemma sextetChar_ne_break {n : ℕ} (h : n<64) : sextetChar n≠ '\n' ∧ sextetChar n≠ '\r' := by
  have hall : ∀ i : Fin 64, sextetChar i≠ '\n' ∧ sextetChar i≠ '\r' := by decide
  exact hall ⟨n,h⟩

lemma sextetChar_eq_underscore {n : ℕ} (h : n<64) : sextetChar n = '_' ↔ n = 63 := by
  have hall : ∀ i : Fin 64, sextetChar i = '_' ↔ i.val = 63 := by decide
  exact hall ⟨n,h⟩

lemma sextetsOfBytes_lt (h : ∀ a∈bytes, a<256) : ∀ n∈sextetsOfBytes bytes, n<64 := by
  induction bytes using sextetsOfBytes.induct with
  | case1 => simp [sextetsOfBytes]
  | case2 a =>
    have ha := h a (by simp)
    simp only [sextetsOfBytes,List.forall_mem_cons]
    refine ⟨by omega,by omega,by simp⟩
  | case3 a b =>
    have ha := h a (by simp)
    have hb := h b (by simp)
    simp only [sextetsOfBytes,List.forall_mem_cons]
    refine ⟨by omega,by omega,by omega,by simp⟩
  | case4 a b c rest ih =>
    have ha := h a (by simp)
    have hb := h b (by simp)
    have hc := h c (by simp)
    have hrest := ih (fun x hx => h x (by simp [hx]))
    simp only [sextetsOfBytes,List.cons_append,List.nil_append,List.forall_mem_cons]
    exact ⟨by omega,by omega,by omega,by omega,hrest⟩

lemma bytesOfSextets_sextetsOfBytes (h : ∀ a∈bytes, a<256) :
    bytesOfSextets (sextetsOfBytes bytes) = some bytes := by
  induction bytes using sextetsOfBytes.induct with
  | case1 => rfl
  | case2 a =>
    have ha := h a (by simp)
    simp only [sextetsOfBytes,bytesOfSextets]
    congr 2
    omega
  | case3 a b =>
    have ha := h a (by simp)
    have hb := h b (by simp)
    simp only [sextetsOfBytes,bytesOfSextets,Option.some.injEq,List.cons.injEq,and_true]
    exact ⟨by omega,by omega⟩
  | case4 a b c rest ih =>
    have ha := h a (by simp)
    have hb := h b (by simp)
    have hc := h c (by simp)
    have hrest := ih (fun x hx => h x (by simp [hx]))
    simp only [sextetsOfBytes,List.cons_append,List.nil_append,bytesOfSextets,hrest,Option.map_some,
      Option.some.injEq,List.cons.injEq,and_true]
    exact ⟨by omega,by omega,by omega⟩

lemma mapM_sextet? {l : List ℕ} (h : ∀ n∈l, n<64) : (l.map sextetChar).mapM sextet? = some l := by
  induction l with
  | nil => rfl
  | cons n l ih =>
    obtain ⟨hn,hl⟩ := List.forall_mem_cons.mp h
    rw [List.map_cons,List.mapM_cons,sextet?_sextetChar hn,ih hl]
    rfl

/-- Sextets are read as they are written. -/
lemma decodeBase64_sextets {l : List ℕ} (h : ∀ n∈l, n<64) :
    decodeBase64 (l.map sextetChar) = bytesOfSextets l := by
  have hfilter : (l.map sextetChar).filter (fun c => c ≠ '\n' ∧ c ≠ '\r') = l.map sextetChar := by
    rw [List.filter_eq_self]
    intro c hc
    obtain ⟨n,hn,rfl⟩ := List.mem_map.mp hc
    exact decide_eq_true (sextetChar_ne_break (h n hn))
  unfold decodeBase64
  rw [hfilter,mapM_sextet? h]
  rfl

theorem decodeBase64_encodeBase64 (h : ∀ a∈bytes, a<256) : decodeBase64 (encodeBase64 bytes) = some bytes := by
  unfold encodeBase64
  rw [decodeBase64_sextets (sextetsOfBytes_lt h),bytesOfSextets_sextetsOfBytes h]

end Base64

/-! ## Underscores -/

/-- There is no double underscore. -/
def Single (w : List Char) : Prop := ¬['_','_']<:+:w

section Underscores
variable {w v : List Char}

lemma single_nil : Single [] := by
  intro h
  simpa using h.length_le

lemma Single.tail {c : Char} (h : Single (c::w)) : Single w := fun hw => h (hw.trans (List.suffix_cons c w).isInfix)

lemma single_cons {c : Char} (h : Single w) (hc : c = '_' → w.head?≠some '_') : Single (c::w) := by
  intro hinfix
  rcases List.infix_cons_iff.mp hinfix with hprefix | hinfix
  · obtain ⟨rest,hrest⟩ := hprefix
    obtain ⟨hhead,htail⟩ := List.cons.inj hrest
    apply hc hhead.symm
    rw [←htail]
    rfl
  · exact h hinfix

lemma Single.head {c : Char} (h : Single (c::w)) (hc : c = '_') : w.head?≠some '_' := by
  intro hw
  cases w with
  | nil => contradiction
  | cons d w =>
    rw [hc,Option.some.inj hw] at h
    exact h ⟨[],w,rfl⟩

lemma splitUnderscores_cons {c : Char} (h : c = '_' → w.head?≠some '_') (hw : c = '_' → w≠[]) {u : List Char}
    {us : List (List Char)} (hs : splitUnderscores w = u::us) : splitUnderscores (c::w) = (c::u)::us := by
  rw [splitUnderscores.eq_def]
  split
  · next heq => exact absurd heq (List.cons_ne_nil c w)
  · next heq => exact absurd (List.cons.inj heq).2 (hw (List.cons.inj heq).1)
  · next heq =>
    apply absurd _ (h (List.cons.inj heq).1)
    rw [(List.cons.inj heq).2]
    rfl
  · next heq =>
    rw [←(List.cons.inj heq).2,←(List.cons.inj heq).1,hs]

lemma splitUnderscores_single (h : Single w) : splitUnderscores w = [w] := by
  induction w with
  | nil => rfl
  | cons c w ih =>
    by_cases hw : c = '_' ∧ w = []
    · rw [hw.1,hw.2]
      rfl
    · exact splitUnderscores_cons h.head (fun hc hnil => hw ⟨hc,hnil⟩) (ih h.tail)

/-- The first double underscore cuts. -/
lemma splitUnderscores_append (h : Single (w++['_'])) (v : List Char) :
    splitUnderscores (w++ '_':: '_'::v) = w::splitUnderscores v := by
  induction w with
  | nil => rfl
  | cons c w ih =>
    apply splitUnderscores_cons _ _ (ih h.tail)
    · intro hc hhead
      apply h.head hc
      cases w with
      | nil => rfl
      | cons d w => exact hhead
    · intro _ hnil
      exact absurd hnil (by simp)

end Underscores

/-- The encoded text ends with an underscore. -/
def EndsOpen (bytes : List ℕ) : Prop := bytes.length%3 = 0 ∧ ∃ a, bytes.getLast? = some a ∧ a%64 = 63

section Encoded
variable {bytes : List ℕ}

lemma ne_underscore {n : ℕ} (h : n<63) : sextetChar n≠ '_' :=
  fun heq => absurd ((sextetChar_eq_underscore (by omega)).mp heq) (by omega)

/-- Two sextets of ones in a row take a byte that UTF-8 does not have. -/
lemma encodeBase64_single (h : ∀ a∈bytes, a<252) :
    Single (encodeBase64 bytes) ∧ (encodeBase64 bytes).head?≠some '_' := by
  induction bytes using sextetsOfBytes.induct with
  | case1 => exact ⟨single_nil,by decide⟩
  | case2 a =>
    have ha := h a (by simp)
    have h1 : sextetChar (a/4)≠ '_' := ne_underscore (by omega)
    have h2 : sextetChar (a%4*16)≠ '_' := ne_underscore (by omega)
    change Single [sextetChar (a/4),sextetChar (a%4*16)] ∧ some (sextetChar (a/4))≠some '_'
    refine ⟨single_cons (single_cons single_nil ?_) ?_,?_⟩
    · exact fun hc => absurd hc h2
    · exact fun hc => absurd hc h1
    · exact fun hc => h1 (Option.some.inj hc)
  | case3 a b =>
    have ha := h a (by simp)
    have hb := h b (by simp)
    have h1 : sextetChar (a/4)≠ '_' := ne_underscore (by omega)
    have h3 : sextetChar (b%16*4)≠ '_' := ne_underscore (by omega)
    change Single [sextetChar (a/4),sextetChar (a%4*16+b/16),sextetChar (b%16*4)] ∧ some (sextetChar (a/4))≠some '_'
    refine ⟨single_cons (single_cons (single_cons single_nil ?_) ?_) ?_,?_⟩
    · exact fun hc => absurd hc h3
    · exact fun _ hc => h3 (Option.some.inj hc)
    · exact fun hc => absurd hc h1
    · exact fun hc => h1 (Option.some.inj hc)
  | case4 a b c rest ih =>
    have ha := h a (by simp)
    have hb := h b (by simp)
    have hc := h c (by simp)
    obtain ⟨hsingle,hhead⟩ := ih (fun x hx => h x (by simp [hx]))
    have h1 : sextetChar (a/4)≠ '_' := ne_underscore (by omega)
    change Single (sextetChar (a/4)::sextetChar (a%4*16+b/16)::sextetChar (b%16*4+c/64)::sextetChar (c%64)::
      encodeBase64 rest) ∧ some (sextetChar (a/4))≠some '_'
    refine ⟨single_cons (single_cons (single_cons (single_cons hsingle ?_) ?_) ?_) ?_,?_⟩
    · exact fun _ => hhead
    · intro h3 h4
      have h3 := (sextetChar_eq_underscore (by omega)).mp h3
      have h4 := (sextetChar_eq_underscore (by omega)).mp (Option.some.inj h4)
      omega
    · intro h2 h3
      have h2 := (sextetChar_eq_underscore (by omega)).mp h2
      have h3 := (sextetChar_eq_underscore (by omega)).mp (Option.some.inj h3)
      omega
    · exact fun hc => absurd hc h1
    · exact fun hc => h1 (Option.some.inj hc)

lemma encodeBase64_ne_nil (h : bytes≠[]) : encodeBase64 bytes≠[] := by
  match bytes with
  | [] => exact absurd rfl h
  | [a] => exact List.cons_ne_nil _ _
  | [a,b] => exact List.cons_ne_nil _ _
  | a::b::c::rest => exact List.cons_ne_nil _ _

/-- A text that ends open, without its last sextet. -/
lemma sextetsOfBytes_open (h : ∀ a∈bytes, a<252) (hopen : EndsOpen bytes) :
    ∃ l, sextetsOfBytes bytes = l++[63] ∧ bytesOfSextets l = some bytes.dropLast := by
  obtain ⟨hlength,z,hz,hz63⟩ := hopen
  induction bytes using sextetsOfBytes.induct with
  | case1 => simp at hz
  | case2 a => simp at hlength
  | case3 a b => simp at hlength
  | case4 a b c rest ih =>
    have ha := h a (by simp)
    have hb := h b (by simp)
    have hc := h c (by simp)
    cases hr : rest with
    | nil =>
      rw [hr] at hz
      have hcz : c = z := by simpa using hz
      refine ⟨[a/4,a%4*16+b/16,b%16*4+c/64],?_,?_⟩
      · simp only [sextetsOfBytes,List.append_nil,List.cons_append,List.nil_append]
        rw [hcz,hz63]
      · simp only [bytesOfSextets,List.dropLast_cons₂,List.dropLast_singleton,Option.some.injEq,List.cons.injEq,
          and_true]
        exact ⟨by omega,by omega⟩
    | cons d rest' =>
      rw [←hr]
      have hne : rest≠[] := by rw [hr]; exact List.cons_ne_nil _ _
      have hlength' : rest.length%3 = 0 := by
        simp only [List.length_cons] at hlength
        omega
      obtain ⟨l,hl,hbytes⟩ := ih (fun x hx => h x (by simp [hx])) hlength' (by rw [hr] at hz ⊢; simpa using hz)
      refine ⟨(a/4)::(a%4*16+b/16)::(b%16*4+c/64)::(c%64)::l,?_,?_⟩
      · simp only [sextetsOfBytes,hl,List.cons_append,List.nil_append]
      · simp only [bytesOfSextets,hbytes,Option.map_some,List.cons_append,List.nil_append]
        rw [List.dropLast_cons_of_ne_nil (by simp),List.dropLast_cons_of_ne_nil (by simp),
          List.dropLast_cons_of_ne_nil hne]
        simp only [Option.some.injEq,List.cons.injEq,and_true]
        exact ⟨by omega,by omega,by omega⟩

lemma getLast?_sextets (h : ∀ a∈bytes, a<252) (hclosed : ¬EndsOpen bytes) :
    (sextetsOfBytes bytes).getLast?≠some 63 := by
  induction bytes using sextetsOfBytes.induct with
  | case1 => simp [sextetsOfBytes]
  | case2 a =>
    simp only [sextetsOfBytes,List.getLast?_cons_cons,List.getLast?_singleton,ne_eq,Option.some.injEq]
    omega
  | case3 a b =>
    simp only [sextetsOfBytes,List.getLast?_cons_cons,List.getLast?_singleton,ne_eq,Option.some.injEq]
    omega
  | case4 a b c rest ih =>
    cases hr : rest with
    | nil =>
      rw [hr] at hclosed
      have hc63 : c%64≠63 := fun hc63 => hclosed ⟨by simp,c,by simp,hc63⟩
      simpa [sextetsOfBytes] using hc63
    | cons d rest' =>
      rw [←hr]
      have hlast : (a::b::c::rest).getLast? = rest.getLast? := by rw [hr]; simp
      have hrest := ih (fun x hx => h x (by simp [hx])) (by
        intro hopen
        refine hclosed ⟨?_,hlast ▸ hopen.2⟩
        have := hopen.1
        simp only [List.length_cons]
        omega)
      have hne : sextetsOfBytes rest≠[] := by
        intro hnil
        apply (@encodeBase64_ne_nil rest) (by rw [hr]; exact List.cons_ne_nil _ _)
        unfold encodeBase64
        rw [hnil]
        rfl
      obtain ⟨n,l,hnl⟩ := List.exists_cons_of_ne_nil hne
      rw [hnl] at hrest
      simpa [sextetsOfBytes,hnl] using hrest

lemma encodeBase64_closed (h : ∀ a∈bytes, a<252) (hclosed : ¬EndsOpen bytes) :
    (encodeBase64 bytes).getLast?≠some '_' := by
  intro hlast
  unfold encodeBase64 at hlast
  rw [List.getLast?_map] at hlast
  obtain ⟨n,hn,hunderscore⟩ := Option.map_eq_some_iff.mp hlast
  have hn64 := sextetsOfBytes_lt (fun a ha => (h a ha).trans (by decide)) n (List.mem_of_getLast? hn)
  apply getLast?_sextets h hclosed
  rw [hn,(sextetChar_eq_underscore hn64).mp hunderscore]

end Encoded

/-! ## UTF-8 -/

def charBytes (c : Char) : List ℕ := (String.utf8EncodeChar c).map UInt8.toNat

section Utf8
variable {c : Char} {s : String}

lemma toList_loop (bs : ByteArray) (n i : ℕ) (r : List UInt8) (h : bs.size = i+n) :
    ByteArray.toList.loop bs i r = r.reverse++bs.data.toList.drop i := by
  induction n generalizing i r with
  | zero =>
    rw [ByteArray.toList.loop,if_neg (by omega),List.drop_eq_nil_of_le,List.append_nil]
    change bs.size ≤ i
    omega
  | succ n ih =>
    have hi : i<bs.size := by omega
    have hlist : i<bs.data.toList.length := hi
    have hget : bs.get! i = bs.data.toList[i] := getElem!_pos bs.data i hi
    rw [ByteArray.toList.loop,if_pos hi,ih (i+1) _ (by omega),hget,List.drop_eq_getElem_cons hlist,List.reverse_cons,
      List.append_assoc]
    rfl

lemma bytes_toUTF8 (s : String) : s.toUTF8.toList.map UInt8.toNat = s.toList.flatMap charBytes := by
  have hlist : s.toUTF8.toList = s.toByteArray.data.toList := by
    unfold ByteArray.toList
    rw [toList_loop _ _ 0 [] (Nat.zero_add _).symm]
    rfl
  rw [hlist,←String.utf8Encode_toList,List.utf8Encode,List.toList_data_toByteArray,List.map_flatMap]
  rfl

lemma charBytes_eq (c : Char) : charBytes c =
    if c.toNat≤127 then [c.toNat]
    else if c.toNat≤2047 then [c.toNat/64%32+192,c.toNat%64+128]
    else if c.toNat≤65535 then [c.toNat/4096%16+224,c.toNat/64%64+128,c.toNat%64+128]
    else [c.toNat/262144%8+240,c.toNat/4096%64+128,c.toNat/64%64+128,c.toNat%64+128] := by
  have hbyte : ∀ n : ℕ, n<256 → (UInt8.ofNat n).toNat = n := by
    intro n hn
    rw [UInt8.toNat_ofNat',Nat.mod_eq_of_lt hn]
  unfold charBytes String.utf8EncodeChar
  dsimp only
  rw [show c.val.toNat = c.toNat from rfl]
  split_ifs with h1 h2 h3
  · simp only [List.map_cons,List.map_nil]
    rw [hbyte _ (by omega)]
  · simp only [List.map_cons,List.map_nil]
    rw [hbyte _ (by omega),hbyte _ (by omega)]
  · simp only [List.map_cons,List.map_nil]
    rw [hbyte _ (by omega),hbyte _ (by omega),hbyte _ (by omega)]
  · simp only [List.map_cons,List.map_nil]
    rw [hbyte _ (by omega),hbyte _ (by omega),hbyte _ (by omega),hbyte _ (by omega)]

lemma charBytes_lt : ∀ a∈charBytes c, a<248 := by
  rw [charBytes_eq]
  split_ifs with h1 h2 h3
  all_goals
    simp only [List.forall_mem_cons]
  · exact ⟨by omega,by simp⟩
  · exact ⟨by omega,by omega,by simp⟩
  · exact ⟨by omega,by omega,by omega,by simp⟩
  · exact ⟨by omega,by omega,by omega,by omega,by simp⟩

lemma toNat_bounds (c : Char) : c.toNat.isValidChar := c.valid

/-- A character is read as it is written. -/
lemma textOfBytes_char (c : Char) (rest : List ℕ) : textOfBytes 0 (charBytes c++rest) = c::textOfBytes 0 rest := by
  have hvalid := toNat_bounds c
  have hlt : c.toNat<1114112 := by
    rcases hvalid with h | h
    · exact h.trans (by decide)
    · exact h.2
  rw [charBytes_eq]
  split_ifs with h1 h2 h3
  · have hrune : leadingRune c.toNat rest = (c,0) := by
      unfold leadingRune
      dsimp only
      rw [if_pos (by omega),Char.ofNat_toNat]
    rw [List.singleton_append,textOfBytes,hrune]
  · have hrune : leadingRune (c.toNat/64%32+192) ((c.toNat%64+128)::rest) = (c,1) := by
      simp only [leadingRune,List.getD_cons_zero]
      have hvalue : (c.toNat/64%32+192)%32*64+(c.toNat%64+128)%64 = c.toNat := by omega
      rw [if_neg (by omega),if_pos (by omega),hvalue,Char.ofNat_toNat]
    rw [List.cons_append,List.singleton_append,textOfBytes,hrune]
    rfl
  · have hrune : leadingRune (c.toNat/4096%16+224) ((c.toNat/64%64+128)::(c.toNat%64+128)::rest) = (c,2) := by
      simp only [leadingRune,List.getD_cons_zero,List.getD_cons_succ]
      have hvalue : (c.toNat/4096%16+224)%16*4096+(c.toNat/64%64+128)%64*64+(c.toNat%64+128)%64 = c.toNat := by omega
      rw [if_neg (by omega),if_neg (by omega),hvalue,if_pos ⟨by omega,by omega,by omega,by omega,hvalid⟩,
        Char.ofNat_toNat]
    rw [List.cons_append,List.cons_append,List.singleton_append,textOfBytes,hrune]
    rfl
  · have hrune : leadingRune (c.toNat/262144%8+240)
        ((c.toNat/4096%64+128)::(c.toNat/64%64+128)::(c.toNat%64+128)::rest) = (c,3) := by
      simp only [leadingRune,List.getD_cons_zero,List.getD_cons_succ]
      have hvalue : (c.toNat/262144%8+240)%8*262144+(c.toNat/4096%64+128)%64*4096+
          (c.toNat/64%64+128)%64*64+(c.toNat%64+128)%64 = c.toNat := by omega
      rw [if_neg (by omega),if_neg (by omega),if_neg (by omega),hvalue,
        if_pos ⟨by omega,by omega,by omega,by omega,by omega,hvalid⟩,Char.ofNat_toNat]
    rw [List.cons_append,List.cons_append,List.cons_append,List.singleton_append,textOfBytes,hrune]
    rfl

lemma textOfBytes_chars (l : List Char) (rest : List ℕ) :
    textOfBytes 0 (l.flatMap charBytes++rest) = l++textOfBytes 0 rest := by
  induction l with
  | nil => rfl
  | cons c l ih => rw [List.flatMap_cons,List.append_assoc,textOfBytes_char,ih,List.cons_append]

/-- A character that lacks its last byte is not read as itself. -/
lemma textOfBytes_dropLast_ne (c : Char) : textOfBytes 0 (charBytes c).dropLast≠[c] := by
  rw [charBytes_eq]
  split_ifs with h1 h2 h3
  · exact List.cons_ne_nil _ _ |>.symm
  · have hrune : leadingRune (c.toNat/64%32+192) [] = ('\ufffd',0) := by
      unfold leadingRune
      dsimp only
      rw [if_neg (by omega),if_neg (by simp),if_neg (by omega),if_neg (by omega)]
    intro hc
    change (leadingRune (c.toNat/64%32+192) []).1::textOfBytes (leadingRune (c.toNat/64%32+192) []).2 [] = [c] at hc
    rw [hrune] at hc
    rw [←(List.cons.inj hc).1] at h2
    exact absurd h2 (by decide)
  · have hrune : leadingRune (c.toNat/4096%16+224) [c.toNat/64%64+128] = ('\ufffd',0) := by
      simp only [leadingRune,List.getD_cons_zero,List.getD_cons_succ,List.getD_nil]
      rw [if_neg (by omega),if_neg (by omega),if_neg (by omega),if_neg (by omega)]
    intro hc
    change (leadingRune (c.toNat/4096%16+224) [c.toNat/64%64+128]).1::
      textOfBytes (leadingRune (c.toNat/4096%16+224) [c.toNat/64%64+128]).2 [c.toNat/64%64+128] = [c] at hc
    rw [hrune] at hc
    exact absurd (List.cons.inj hc).2 (List.cons_ne_nil _ _)
  · have hrune : leadingRune (c.toNat/262144%8+240) [c.toNat/4096%64+128,c.toNat/64%64+128] = ('\ufffd',0) := by
      simp only [leadingRune,List.getD_cons_zero,List.getD_cons_succ,List.getD_nil]
      rw [if_neg (by omega),if_neg (by omega),if_neg (by omega),if_neg (by omega)]
    intro hc
    change (leadingRune (c.toNat/262144%8+240) [c.toNat/4096%64+128,c.toNat/64%64+128]).1::
      textOfBytes (leadingRune (c.toNat/262144%8+240) [c.toNat/4096%64+128,c.toNat/64%64+128]).2
        [c.toNat/4096%64+128,c.toNat/64%64+128] = [c] at hc
    rw [hrune] at hc
    exact absurd (List.cons.inj hc).2 (List.cons_ne_nil _ _)

end Utf8

/-! ## Encoded names -/

def utf8Bytes (s : String) : List ℕ := s.toUTF8.toList.map UInt8.toNat

section Names
variable {s t : String}

lemma utf8Bytes_eq (s : String) : utf8Bytes s = s.toList.flatMap charBytes := bytes_toUTF8 s

lemma utf8Bytes_lt (s : String) : ∀ a∈utf8Bytes s, a<248 := by
  intro a ha
  rw [utf8Bytes_eq] at ha
  obtain ⟨c,_,hc⟩ := List.mem_flatMap.mp ha
  exact charBytes_lt a hc

lemma charBytes_ne_nil (c : Char) : charBytes c≠[] := by
  rw [charBytes_eq]
  split_ifs <;> exact List.cons_ne_nil _ _

lemma textOfBytes_utf8Bytes (s : String) : String.ofList (textOfBytes 0 (utf8Bytes s)) = s := by
  have htext := textOfBytes_chars s.toList []
  rw [List.append_nil,show textOfBytes 0 [] = [] from rfl,List.append_nil] at htext
  rw [utf8Bytes_eq,htext,String.ofList_toList]

lemma utf8Bytes_ne_nil (h : s≠"") : utf8Bytes s≠[] := by
  intro hnil
  have htext := textOfBytes_utf8Bytes s
  rw [hnil] at htext
  exact h htext.symm

lemma utf8Bytes_injective (h : encodeBase64 (utf8Bytes s) = encodeBase64 (utf8Bytes t)) : s = t := by
  have hs := decodeBase64_encodeBase64 (fun a ha => (utf8Bytes_lt s a ha).trans (by decide))
  have ht := decodeBase64_encodeBase64 (fun a ha => (utf8Bytes_lt t a ha).trans (by decide))
  rw [h,ht] at hs
  rw [←textOfBytes_utf8Bytes s,←Option.some.inj hs,textOfBytes_utf8Bytes]

/-- A text that lacks its last byte is not read as itself. -/
lemma textOfBytes_dropLast (h : s≠"") : String.ofList (textOfBytes 0 (utf8Bytes s).dropLast)≠s := by
  intro htext
  have hlist : textOfBytes 0 (utf8Bytes s).dropLast = s.toList := by
    have hchars := congrArg String.toList htext
    rwa [String.toList_ofList] at hchars
  rcases List.eq_nil_or_concat s.toList with hnil | ⟨pre,c,hs⟩
  · exact h (String.toList_eq_nil_iff.mp hnil)
  · rw [utf8Bytes_eq,hs,List.concat_eq_append,List.flatMap_append,List.flatMap_singleton,
      List.dropLast_append_of_ne_nil (charBytes_ne_nil c),textOfBytes_chars] at hlist
    exact textOfBytes_dropLast_ne c (List.append_cancel_left hlist)

end Names

/-- The pieces of a name that may be an encoded one. -/
def decodePieces : List (List Char) → Option (String × String)
  | [namespacePart,namePart] =>
    if namespacePart = [] ∨ namePart = [] then none
    else
      match decodeBase64 namespacePart,decodeBase64 namePart with
      | some namespaceBytes,some nameBytes =>
        if namespaceBytes = [] ∨ nameBytes = [] then none
        else some (String.ofList (textOfBytes 0 namespaceBytes),String.ofList (textOfBytes 0 nameBytes))
      | _,_ => none
  | _ => none

lemma decode_eq_pieces (encoded : String) : decodeResponsesNamespaceToolName encoded =
    (Text.cutPrefix encoded responsesNamespaceToolPrefix).bind
      (fun rest => decodePieces (splitUnderscores rest.toList)) := by
  unfold decodeResponsesNamespaceToolName
  cases Text.cutPrefix encoded responsesNamespaceToolPrefix with
  | none => rfl
  | some rest => rfl

/-- Both pieces decode to something. -/
lemma decodePieces_eq_some {pieces : List (List Char)} {p : String × String} : decodePieces pieces = some p ↔
    ∃ u v a b, pieces = [u,v] ∧ decodeBase64 u = some a ∧ decodeBase64 v = some b ∧ a≠[] ∧ b≠[] ∧
      p = (String.ofList (textOfBytes 0 a),String.ofList (textOfBytes 0 b)) := by
  have hempty : decodeBase64 [] = some [] := rfl
  constructor
  · intro h
    unfold decodePieces at h
    split at h
    · next u v =>
      split_ifs at h
      split at h
      · next a b ha hb =>
        split_ifs at h with hnil
        exact ⟨u,v,a,b,rfl,ha,hb,fun hn => hnil (.inl hn),fun hn => hnil (.inr hn),(Option.some.inj h).symm⟩
      · contradiction
    · contradiction
  · rintro ⟨u,v,a,b,rfl,hu,hv,ha,hb,rfl⟩
    have hne : ¬(u = [] ∨ v = []) := by
      rintro (rfl | rfl)
      · exact ha (Option.some.inj (hu.symm.trans hempty))
      · exact hb (Option.some.inj (hv.symm.trans hempty))
    change (if u = [] ∨ v = [] then none else _) = _
    rw [if_neg hne,hu,hv]
    exact if_neg (not_or.mpr ⟨ha,hb⟩)

section Pairs
variable {namespaceName name : String}

lemma decode_encode_eq (h : namespaceName≠"") :
    decodeResponsesNamespaceToolName (encodeResponsesNamespaceToolName namespaceName name) =
      decodePieces (splitUnderscores (encodeBase64 (utf8Bytes namespaceName)++
        '_' :: '_' :: encodeBase64 (utf8Bytes name))) := by
  have hencode : encodeResponsesNamespaceToolName namespaceName name = responsesNamespaceToolPrefix++
      (String.ofList (encodeBase64 (utf8Bytes namespaceName))++"__"++
        String.ofList (encodeBase64 (utf8Bytes name))) := by
    unfold encodeResponsesNamespaceToolName
    rw [if_neg h,String.append_assoc,String.append_assoc,String.append_assoc]
    rfl
  rw [decode_eq_pieces,hencode,Text.cutPrefix_append,Option.bind_some]
  simp only [String.toList_append,String.toList_ofList,List.append_assoc]
  rfl

lemma Single.append_underscore {w : List Char} (h : Single w) (hlast : w.getLast?≠some '_') : Single (w++['_']) := by
  induction w with
  | nil => exact single_cons single_nil (fun _ => by simp)
  | cons c w ih =>
    cases w with
    | nil =>
      apply single_cons (single_cons single_nil (fun _ => by simp))
      intro hc
      exact absurd (congrArg some hc) hlast
    | cons d w => exact single_cons (ih h.tail (by simpa using hlast)) h.head

lemma base64_single (s : String) :
    Single (encodeBase64 (utf8Bytes s)) ∧ (encodeBase64 (utf8Bytes s)).head?≠some '_' :=
  encodeBase64_single (fun a ha => (utf8Bytes_lt s a ha).trans (by decide))

lemma decode_encode_closed (hns : namespaceName≠"") (hname : name≠"") (h : ¬EndsOpen (utf8Bytes namespaceName)) :
    decodeResponsesNamespaceToolName (encodeResponsesNamespaceToolName namespaceName name) =
      some (namespaceName,name) := by
  have hlast := encodeBase64_closed (fun a ha => (utf8Bytes_lt namespaceName a ha).trans (by decide)) h
  have hpieces := splitUnderscores_append ((base64_single namespaceName).1.append_underscore hlast)
    (encodeBase64 (utf8Bytes name))
  rw [splitUnderscores_single (base64_single name).1] at hpieces
  have hbytes : ∀ s : String, decodeBase64 (encodeBase64 (utf8Bytes s)) = some (utf8Bytes s) :=
    fun s => decodeBase64_encodeBase64 (fun a ha => (utf8Bytes_lt s a ha).trans (by decide))
  rw [decode_encode_eq hns,hpieces,decodePieces_eq_some]
  refine ⟨_,_,_,_,rfl,hbytes _,hbytes _,utf8Bytes_ne_nil hns,utf8Bytes_ne_nil hname,?_⟩
  rw [textOfBytes_utf8Bytes,textOfBytes_utf8Bytes]

/-- The last underscore of the namespace is taken for the separator. -/
lemma decode_encode_open (hns : namespaceName≠"") (h : EndsOpen (utf8Bytes namespaceName)) :
    decodeResponsesNamespaceToolName (encodeResponsesNamespaceToolName namespaceName name)≠
      some (namespaceName,name) := by
  have hlt : ∀ a∈utf8Bytes namespaceName, a<252 := fun a ha => (utf8Bytes_lt namespaceName a ha).trans (by decide)
  obtain ⟨l,hl,hbytes⟩ := sextetsOfBytes_open hlt h
  have hencode : encodeBase64 (utf8Bytes namespaceName) = l.map sextetChar++['_'] := by
    unfold encodeBase64
    rw [hl,List.map_append]
    rfl
  have hsingle := (base64_single namespaceName).1
  rw [hencode] at hsingle
  have hname : Single ( '_' :: encodeBase64 (utf8Bytes name)) :=
    single_cons (base64_single name).1 (fun _ => (base64_single name).2)
  have hpieces := splitUnderscores_append hsingle ( '_' :: encodeBase64 (utf8Bytes name))
  rw [splitUnderscores_single hname] at hpieces
  have hl64 : ∀ n∈l, n<64 := by
    intro n hn
    apply sextetsOfBytes_lt (fun a ha => (hlt a ha).trans (by decide)) n
    rw [hl]
    exact List.mem_append_left _ hn
  rw [decode_encode_eq hns,hencode,List.append_assoc,List.singleton_append,hpieces,ne_eq,decodePieces_eq_some]
  rintro ⟨u,v,a,b,huv,hu,_,_,_,hpair⟩
  rw [←(List.cons.inj huv).1,decodeBase64_sextets hl64,hbytes] at hu
  rw [←Option.some.inj hu] at hpair
  exact textOfBytes_dropLast hns (congrArg Prod.fst hpair).symm

/-- What is joined by a double underscore is known from the joined text. -/
lemma joined_injective {u v u' v' : List Char} (hu : Single u) (hu' : Single u') (hv : v.head?≠some '_')
    (hv' : v'.head?≠some '_') (h : u++ '_' :: '_' :: v = u'++ '_' :: '_' :: v') : u = u' ∧ v = v' := by
  have hlonger : ∀ {x y x' y' : List Char} (d : List Char), Single x' → y.head?≠some '_' → x' = x++d →
      '_' :: '_' :: y = d++ '_' :: '_' :: y' → x = x' ∧ y = y' := by
    intro x y x' y' d hx' hy hx heq
    match d with
    | [] =>
      rw [List.append_nil] at hx
      exact ⟨hx.symm,(List.cons.inj (List.cons.inj heq).2).2⟩
    | [a] =>
      have hy' := (List.cons.inj (List.cons.inj heq).2).2
      apply absurd _ hy
      rw [hy']
      rfl
    | a::b::d =>
      obtain ⟨ha,heq⟩ := List.cons.inj heq
      obtain ⟨hb,heq⟩ := List.cons.inj heq
      apply absurd _ hx'
      rw [hx,←ha,←hb]
      exact ⟨x,d,by simp⟩
  rcases List.append_eq_append_iff.mp h with ⟨d,hd,heq⟩ | ⟨d,hd,heq⟩
  · exact hlonger d hu' hv hd heq
  · obtain ⟨h1,h2⟩ := hlonger d hu hv' hd heq
    exact ⟨h1.symm,h2.symm⟩

lemma encode_injective {namespaceName' name' : String} (hns : namespaceName≠"") (hns' : namespaceName'≠"")
    (h : encodeResponsesNamespaceToolName namespaceName name = encodeResponsesNamespaceToolName namespaceName' name') :
    (namespaceName,name) = (namespaceName',name') := by
  unfold encodeResponsesNamespaceToolName at h
  rw [if_neg hns,if_neg hns'] at h
  have hlist := congrArg String.toList h
  simp only [String.toList_append,String.toList_ofList,List.append_assoc] at hlist
  obtain ⟨h1,h2⟩ := joined_injective (base64_single namespaceName).1 (base64_single namespaceName').1
    (base64_single name).2 (base64_single name').2 (List.append_cancel_left hlist)
  rw [utf8Bytes_injective h1,utf8Bytes_injective h2]

end Pairs

/-! ## Plain names -/

def isBreak (c : Char) : Bool := c = '\n' ∨ c = '\r'

/-- Base 64 of at least one byte. Line breaks do not count. -/
structure IsEncoding (w : List Char) : Prop where
  alphabet : ∀ c∈w, isBreak c = false → c.isAlphanum ∨ c = '-' ∨ c = '_'
  two_le : 2 ≤ (w.filter (fun c => !isBreak c)).length
  complete : (w.filter (fun c => !isBreak c)).length%4≠1

/-- The prefix and two encodings with the only double underscore between them. -/
def LooksEncoded (s : String) : Prop :=
  ∃ u v, s = responsesNamespaceToolPrefix++String.ofList (u++ '_' :: '_' :: v) ∧ Single (u++['_']) ∧ Single v ∧
    IsEncoding u ∧ IsEncoding v

section Plain
variable {w u v : List Char} {vs : List (List Char)} {s : String}

lemma splitUnderscores_ne_nil (w : List Char) : splitUnderscores w≠[] := by
  induction w using splitUnderscores.induct with
  | case1 => exact List.cons_ne_nil _ _
  | case2 => exact List.cons_ne_nil _ _
  | case3 => exact List.cons_ne_nil _ _
  | case4 c rest h1 h2 hrest ih => exact absurd hrest ih
  | case5 c rest h1 h2 w ws hrest ih =>
    rw [splitUnderscores]
    · rw [hrest]
      exact List.cons_ne_nil _ _
    · exact h1
    · exact h2

/-- The first piece ends at the first double underscore. -/
lemma splitUnderscores_eq_cons (h : splitUnderscores w = u::vs) :
    (vs = [] ∧ w = u ∧ Single w) ∨
      ∃ v, w = u++ '_' :: '_' :: v ∧ Single (u++['_']) ∧ splitUnderscores v = vs := by
  induction w using splitUnderscores.induct generalizing u vs with
  | case1 =>
    obtain ⟨rfl,rfl⟩ := List.cons.inj h
    exact .inl ⟨rfl,rfl,single_nil⟩
  | case2 =>
    obtain ⟨rfl,rfl⟩ := List.cons.inj h
    exact .inl ⟨rfl,rfl,single_cons single_nil (fun _ => by simp)⟩
  | case3 rest ih =>
    obtain ⟨rfl,hvs⟩ := List.cons.inj h
    exact .inr ⟨rest,rfl,single_cons single_nil (fun _ => by simp),hvs⟩
  | case4 c rest h1 h2 hrest ih => exact absurd hrest (splitUnderscores_ne_nil rest)
  | case5 c rest h1 h2 w ws hrest ih =>
    rw [splitUnderscores.eq_def] at h
    simp only [hrest] at h
    obtain ⟨rfl,rfl⟩ := List.cons.inj h
    have hhead : c = '_' → rest.head?≠some '_' := by
      intro hc hr
      cases rest with
      | nil => contradiction
      | cons d rest => exact h2 rest hc (by rw [Option.some.inj hr])
    rcases ih hrest with ⟨hws,hw,hsingle⟩ | ⟨v,hv,hsingle,hws⟩
    · exact .inl ⟨hws,by rw [hw],single_cons hsingle hhead⟩
    · refine .inr ⟨v,by rw [hv,List.cons_append],?_,hws⟩
      apply single_cons hsingle
      intro hc hr
      apply hhead hc
      rw [hv]
      cases w with
      | nil => rfl
      | cons d w => exact hr

lemma splitUnderscores_eq_pair :
    splitUnderscores w = [u,v] ↔ w = u++ '_' :: '_' :: v ∧ Single (u++['_']) ∧ Single v := by
  constructor
  · intro h
    rcases splitUnderscores_eq_cons h with ⟨hvs,_⟩ | ⟨v',hw,hsingle,hv'⟩
    · contradiction
    · rcases splitUnderscores_eq_cons hv' with ⟨_,hv,hv1⟩ | ⟨v'',_,_,hvs⟩
      · exact ⟨hv ▸ hw,hsingle,hv ▸ hv1⟩
      · exact absurd hvs (splitUnderscores_ne_nil v'')
  · rintro ⟨rfl,hu,hv⟩
    rw [splitUnderscores_append hu,splitUnderscores_single hv]

lemma sextet?_ne_none (c : Char) : sextet? c≠none ↔ c.isAlphanum ∨ c = '-' ∨ c = '_' := by
  have halpha : c.isAlphanum ↔ ('A' ≤ c ∧ c ≤ 'Z') ∨ ('a' ≤ c ∧ c ≤ 'z') ∨ ('0' ≤ c ∧ c ≤ '9') := by
    simp only [Char.isAlphanum,Char.isAlpha,Char.isUpper,Char.isLower,Char.isDigit,Bool.or_eq_true,
      Bool.and_eq_true,decide_eq_true_eq,or_assoc]
    rfl
  rw [halpha]
  unfold sextet?
  split_ifs <;> simp_all

lemma mapM_sextet?_eq_some (w : List Char) : (∃ l, w.mapM sextet? = some l ∧ l.length = w.length) ↔
    ∀ c∈w, c.isAlphanum ∨ c = '-' ∨ c = '_' := by
  induction w with
  | nil => simp
  | cons c w ih =>
    rw [List.forall_mem_cons,←ih,←sextet?_ne_none,List.mapM_cons]
    cases hc : sextet? c with
    | none => simp
    | some n =>
      cases hw : w.mapM sextet? with
      | none => simp
      | some l => simp

lemma length_of_mapM {l : List ℕ} (h : w.mapM sextet? = some l) : l.length = w.length := by
  induction w generalizing l with
  | nil =>
    rw [List.mapM_nil] at h
    rw [←Option.some.inj h]
    rfl
  | cons c w ih =>
    rw [List.mapM_cons] at h
    cases hc : sextet? c with
    | none =>
      rw [hc] at h
      contradiction
    | some n =>
      cases hw : w.mapM sextet? with
      | none =>
        rw [hc,hw] at h
        contradiction
      | some l' =>
        rw [hc,hw] at h
        rw [←Option.some.inj h,List.length_cons,List.length_cons,ih hw]

lemma bytesOfSextets_eq_some (l : List ℕ) :
    (∃ b, bytesOfSextets l = some b ∧ b≠[]) ↔ 2 ≤ l.length ∧ l.length%4≠1 := by
  have hall : (∃ b, bytesOfSextets l = some b ∧ (b = [] → l = [])) ↔ l.length%4≠1 := by
    induction l using bytesOfSextets.induct with
    | case1 => simp [bytesOfSextets]
    | case2 => simp [bytesOfSextets]
    | case3 => simp [bytesOfSextets]
    | case4 => simp [bytesOfSextets]
    | case5 a b c d rest ih =>
      have hlength : (a::b::c::d::rest).length%4 = rest.length%4 := by
        simp only [List.length_cons]
        omega
      rw [hlength,←ih]
      cases hrest : bytesOfSextets rest with
      | none => simp [bytesOfSextets,hrest]
      | some r =>
        constructor
        · intro _
          refine ⟨r,rfl,?_⟩
          rintro rfl
          match rest with
          | [] => rfl
          | [_] => simp [bytesOfSextets] at hrest
          | [_,_] => simp [bytesOfSextets] at hrest
          | [_,_,_] => simp [bytesOfSextets] at hrest
          | _::_::_::_::rest' =>
            rw [bytesOfSextets,Option.map_eq_some_iff] at hrest
            obtain ⟨_,_,heq⟩ := hrest
            simp at heq
        · intro _
          simp [bytesOfSextets,hrest]
  constructor
  · rintro ⟨b,hb,hne⟩
    refine ⟨?_,hall.mp ⟨b,hb,fun hnil => absurd hnil hne⟩⟩
    match l with
    | [] => exact absurd (Option.some.inj hb).symm hne
    | [_] => contradiction
    | _::_::l => simp
  · rintro ⟨htwo,hlength⟩
    obtain ⟨b,hb,hnil⟩ := hall.mpr hlength
    refine ⟨b,hb,fun hn => ?_⟩
    rw [hnil hn] at htwo
    exact absurd htwo (by decide)

lemma decodeBase64_eq_some (w : List Char) : (∃ b, decodeBase64 w = some b ∧ b≠[]) ↔ IsEncoding w := by
  have hfilter : w.filter (fun c => c ≠ '\n' ∧ c ≠ '\r') = w.filter (fun c => !isBreak c) := by
    apply List.filter_congr
    intro c _
    simp [isBreak]
  have halphabet : (∀ c∈w.filter (fun c => !isBreak c), c.isAlphanum ∨ c = '-' ∨ c = '_') ↔
      ∀ c∈w, isBreak c = false → c.isAlphanum ∨ c = '-' ∨ c = '_' := by
    constructor
    · intro h c hc hbreak
      exact h c (List.mem_filter.mpr ⟨hc,by rw [hbreak]; rfl⟩)
    · intro h c hc
      obtain ⟨hc,hbreak⟩ := List.mem_filter.mp hc
      exact h c hc (by simpa using hbreak)
  unfold decodeBase64
  rw [hfilter]
  constructor
  · rintro ⟨b,hb,hne⟩
    obtain ⟨l,hl,hbytes⟩ := Option.bind_eq_some_iff.mp hb
    obtain ⟨htwo,hlength⟩ := (bytesOfSextets_eq_some l).mp ⟨b,hbytes,hne⟩
    rw [length_of_mapM hl] at htwo hlength
    exact ⟨halphabet.mp ((mapM_sextet?_eq_some _).mp ⟨l,hl,length_of_mapM hl⟩),htwo,hlength⟩
  · intro h
    obtain ⟨l,hl,hlength⟩ := (mapM_sextet?_eq_some _).mpr (halphabet.mpr h.alphabet)
    obtain ⟨b,hb,hne⟩ := (bytesOfSextets_eq_some l).mpr (by rw [hlength]; exact ⟨h.two_le,h.complete⟩)
    exact ⟨b,by rw [hl,Option.bind_some,hb],hne⟩

/-- A name that looks encoded is decoded, and to a namespace that is not empty. -/
lemma decode_eq_some (s : String) :
    (∃ p, decodeResponsesNamespaceToolName s = some p ∧ p.1≠"") ↔ LooksEncoded s := by
  rw [decode_eq_pieces]
  constructor
  · rintro ⟨p,hp,_⟩
    obtain ⟨rest,hrest,hpieces⟩ := Option.bind_eq_some_iff.mp hp
    obtain ⟨u,v,a,b,huv,hu,hv,ha,hb,_⟩ := decodePieces_eq_some.mp hpieces
    obtain ⟨hjoined,hu1,hv1⟩ := splitUnderscores_eq_pair.mp huv
    refine ⟨u,v,?_,hu1,hv1,(decodeBase64_eq_some u).mp ⟨a,hu,ha⟩,(decodeBase64_eq_some v).mp ⟨b,hv,hb⟩⟩
    rw [←hjoined,String.ofList_toList]
    exact Text.cutPrefix_eq_some.mp hrest
  · rintro ⟨u,v,rfl,hu1,hv1,hu,hv⟩
    obtain ⟨a,ha,ha0⟩ := (decodeBase64_eq_some u).mpr hu
    obtain ⟨b,hb,hb0⟩ := (decodeBase64_eq_some v).mpr hv
    refine ⟨_,Option.bind_eq_some_iff.mpr ⟨_,Text.cutPrefix_append _ _,decodePieces_eq_some.mpr
      ⟨u,v,a,b,?_,ha,hb,ha0,hb0,rfl⟩⟩,?_⟩
    · rw [String.toList_ofList]
      exact splitUnderscores_eq_pair.mpr ⟨rfl,hu1,hv1⟩
    · intro hempty
      obtain ⟨x,a,rfl⟩ := List.exists_cons_of_ne_nil ha0
      have hlist := congrArg String.toList hempty
      rw [String.toList_ofList,textOfBytes] at hlist
      exact List.cons_ne_nil _ _ hlist

end Plain

/-! ## The round trip -/

section RoundTrip
variable {namespaceName name plain : String}

/-- What the tool names of a request come back as. A plain name is one that was sent without a namespace. -/
structure NamesReturn (namespaceName name plain : String) : Prop where
  decoded : namespaceName≠"" → name≠"" →
    decodeResponsesNamespaceToolName (encodeResponsesNamespaceToolName namespaceName name) = some (namespaceName,name)
  distinct : namespaceName≠"" → name≠"" → ∀ namespaceName' name', namespaceName'≠"" → name'≠"" →
    (namespaceName,name)≠(namespaceName',name') →
      encodeResponsesNamespaceToolName namespaceName name≠encodeResponsesNamespaceToolName namespaceName' name'
  plain : ∀ respId tc i o, tc.name = encodeResponsesNamespaceToolName "" plain →
    callOutput respId tc i = some o → o.namespaceName = ""

lemma callOutput_namespaceName {respId : String} {tc : ToolCall} {i : ℕ} {o : ResponsesOutput}
    (h : callOutput respId tc i = some o) :
    o.namespaceName =
      ((decodeResponsesNamespaceToolName (Text.trimSpace tc.name)).getD ("",Text.trimSpace tc.name)).1 := by
  unfold callOutput at h
  dsimp only at h
  split_ifs at h <;> rw [←Option.some.inj h]

lemma plain_returns :
    (∀ respId tc i o, tc.name = encodeResponsesNamespaceToolName "" plain →
      callOutput respId tc i = some o → o.namespaceName = "") ↔ ¬LooksEncoded (Text.trimSpace plain) := by
  have hencode : encodeResponsesNamespaceToolName "" plain = plain := rfl
  rw [hencode,←decode_eq_some]
  constructor
  · rintro h ⟨p,hp,hne⟩
    have hname : Text.trimSpace plain≠"" := by
      intro hempty
      rw [hempty] at hp
      exact absurd hp.symm (Option.some_ne_none p)
    have hcall : ∃ o, callOutput "" ⟨"","",plain,""⟩ 0 = some o := by
      unfold callOutput
      rw [if_neg (by simp),if_neg hname]
      exact ⟨_,rfl⟩
    obtain ⟨o,ho⟩ := hcall
    apply hne
    rw [←h _ _ _ _ rfl ho,callOutput_namespaceName ho,hp]
    rfl
  · intro h respId tc i o htc ho
    rw [callOutput_namespaceName ho,htc]
    cases hp : decodeResponsesNamespaceToolName (Text.trimSpace plain) with
    | none => rfl
    | some p =>
      by_contra hne
      exact h ⟨p,hp,hne⟩

/-- Names come back as they were sent, unless the encoded namespace ends with an underscore or a plain name looks like
an encoded one. -/
theorem namesReturn_iff : NamesReturn namespaceName name plain ↔
    (namespaceName≠"" → name≠"" → ¬EndsOpen (utf8Bytes namespaceName)) ∧ ¬LooksEncoded (Text.trimSpace plain) := by
  constructor
  · intro h
    refine ⟨fun hns hname hopen => ?_,plain_returns.mp h.plain⟩
    exact decode_encode_open hns hopen (h.decoded hns hname)
  · rintro ⟨hclosed,hplain⟩
    refine ⟨fun hns hname => ?_,fun hns _ _ _ hns' _ hne heq => ?_,plain_returns.mpr hplain⟩
    · exact decode_encode_closed hns hname (hclosed hns hname)
    · exact hne (encode_injective hns hns' heq)

/-- The namespace "ab?" is encoded as "YWI_". -/
theorem namesReturn_not_always : ¬∀ namespaceName name plain, NamesReturn namespaceName name plain := by
  intro h
  have hdecoded := (h "ab?" "f" "plain").decoded (by decide) (by decide)
  exact absurd hdecoded (by decide +kernel)

end RoundTrip

end Compat
end Tierflow
