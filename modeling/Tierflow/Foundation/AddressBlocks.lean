import Mathlib.Data.Nat.Bitwise
import Mathlib.Tactic

/-! Addresses as lists of bytes, and blocks of addresses that agree in their first bits. A mask compares byte by byte;
as numbers, the addresses of a block are those between two bounds. -/
namespace Tierflow
namespace AddressBlocks

/-- The number that is written in bytes, the first byte weighing most. -/
def value : List ℕ → ℕ
  | [] => 0
  | b::l => b*256^l.length+value l

/-- A mask of so many leading ones, by its number of bytes. -/
def mask : ℕ → ℕ → List ℕ
  | _,0 => []
  | ones,l+1 => if 8≤ones then 255::mask (ones-8) l else (256-2^(8-ones))::mask 0 l

/-- Two addresses that agree under a mask. -/
def agree : List ℕ → List ℕ → List ℕ → Bool
  | m::mask,a::l,b::r => (m &&& a) = (m &&& b) && agree mask l r
  | _,_,_ => true

def Bytes (l : List ℕ) : Prop := ∀ b∈l, b<256

lemma value_lt {l : List ℕ} (hl : Bytes l) : value l<256^l.length := by
  induction l with
  | nil => exact Nat.one_pos
  | cons b l ih =>
    have hb := hl b List.mem_cons_self
    have hv := ih (fun c hc => hl c (List.mem_cons_of_mem _ hc))
    rw [value,List.length_cons,pow_succ]
    nlinarith [Nat.one_le_pow l.length 256 (by norm_num)]

/-- The first byte bounds the number. -/
lemma value_cons_bounds (b : ℕ) {l : List ℕ} (hl : Bytes l) :
    b*256^l.length≤value (b::l) ∧ value (b::l)<(b+1)*256^l.length := by
  have hv := value_lt hl
  rw [value,Nat.add_mul,Nat.one_mul]
  omega

/-- A byte under a mask of leading ones. -/
lemma land_mask {b j : ℕ} (hb : b<256) (hj : j≤8) : (256-2^j) &&& b = b/2^j*2^j := by
  have hall : ∀ j : Fin 9, ∀ b : Fin 256, (256-2^j.val) &&& b.val = b.val/2^j.val*2^j.val := by decide +kernel
  exact hall ⟨j,by omega⟩ ⟨b,hb⟩

lemma land_mask_eq_iff {a b j : ℕ} (ha : a<256) (hb : b<256) (hj : j≤8) :
    (256-2^j) &&& a = (256-2^j) &&& b ↔ a/2^j = b/2^j := by
  rw [land_mask ha hj,land_mask hb hj]
  exact Nat.mul_left_inj (Nat.two_pow_pos j).ne'

lemma agree_zero (n : ℕ) (l r : List ℕ) : agree (mask 0 n) l r = true := by
  induction n generalizing l r with
  | zero => rfl
  | succ n ih =>
    rw [mask,if_neg (by omega)]
    cases l with
    | nil => rfl
    | cons a l =>
      cases r with
      | nil => rfl
      | cons b r => simp [agree,ih l r]

/-- Two numbers with a high and a low part. -/
lemma high_low_inj {a b u v n : ℕ} (hu : u<n) (hv : v<n) : a*n+u = b*n+v ↔ a = b ∧ u = v := by
  constructor
  · intro h
    have hab : a = b := by
      rcases Nat.lt_trichotomy a b with hlt | heq | hlt
      · nlinarith [Nat.mul_le_mul_right n (Nat.succ_le_of_lt hlt)]
      · exact heq
      · nlinarith [Nat.mul_le_mul_right n (Nat.succ_le_of_lt hlt)]
    exact ⟨hab,by rw [hab] at h; omega⟩
  · rintro ⟨rfl,rfl⟩
    rfl

lemma value_div_of_le {a k : ℕ} {l : List ℕ} (hk : k≤8*l.length) :
    value (a::l)/2^k = a*2^(8*l.length-k)+value l/2^k := by
  have hpow : 256^l.length = 2^k*2^(8*l.length-k) := by
    rw [←pow_add,Nat.add_sub_cancel' hk,pow_mul]
    norm_num
  rw [value,hpow,show a*(2^k*2^(8*l.length-k)) = 2^k*(a*2^(8*l.length-k)) by ring,
    Nat.mul_add_div (Nat.two_pow_pos k)]

lemma value_div_of_head {a j : ℕ} {l : List ℕ} (hl : Bytes l) : value (a::l)/2^(8*l.length+j) = a/2^j := by
  have hpow : 2^(8*l.length) = 256^l.length := by
    rw [pow_mul]
    norm_num
  rw [value,pow_add,←Nat.div_div_eq_div_mul,hpow,Nat.add_comm,Nat.add_mul_div_right _ _ (by positivity),
    Nat.div_eq_of_lt (value_lt hl),Nat.zero_add]

/-- Addresses agree under a mask when their leading bits are the same number. -/
theorem agree_iff {l r : List ℕ} (hl : Bytes l) (hr : Bytes r) (hlen : l.length = r.length) {ones : ℕ}
    (hones : ones≤8*l.length) : agree (mask ones l.length) l r = true ↔
      value l/2^(8*l.length-ones) = value r/2^(8*l.length-ones) := by
  induction l generalizing r ones with
  | nil =>
    obtain rfl := List.length_eq_zero_iff.mp hlen.symm
    simp [agree]
  | cons a l ih =>
    obtain ⟨b,r,rfl⟩ := List.exists_cons_of_length_eq_add_one hlen.symm
    have ha := hl a List.mem_cons_self
    have hb := hr b List.mem_cons_self
    have hl' : Bytes l := fun c hc => hl c (List.mem_cons_of_mem _ hc)
    have hr' : Bytes r := fun c hc => hr c (List.mem_cons_of_mem _ hc)
    rw [List.length_cons] at hones
    have hlen' : l.length = r.length := Nat.succ.inj hlen
    rw [List.length_cons,mask]
    by_cases h8 : 8≤ones
    · -- the first byte counts as a whole
      have hk : 8*(l.length+1)-ones = 8*l.length-(ones-8) := by omega
      have hle : 8*l.length-(ones-8)≤8*l.length := Nat.sub_le _ _
      have hbound : ∀ {t : List ℕ}, Bytes t → t.length = l.length →
          value t/2^(8*l.length-(ones-8))<2^(8*l.length-(8*l.length-(ones-8))) := by
        intro t ht hlt
        rw [Nat.div_lt_iff_lt_mul (Nat.two_pow_pos _),←pow_add,Nat.sub_add_cancel hle]
        have hv := value_lt ht
        rwa [hlt,show 256 = 2^8 by norm_num,←pow_mul] at hv
      have hbyte : ((255 &&& a) = (255 &&& b)) ↔ a = b := by
        have h := land_mask_eq_iff (j := 0) ha hb (by norm_num)
        simpa using h
      rw [if_pos h8,agree,Bool.and_eq_true,decide_eq_true_eq,hbyte,ih hl' hr' hlen' (by omega),hk,
        value_div_of_le hle,hlen',value_div_of_le (by omega),high_low_inj]
      · rw [←hlen']
        exact hbound hl' rfl
      · rw [←hlen']
        exact hbound hr' hlen'.symm
    · -- the mask ends within the first byte
      have hk : 8*(l.length+1)-ones = 8*l.length+(8-ones) := by omega
      rw [if_neg h8,agree,agree_zero,Bool.and_true,decide_eq_true_eq,
        land_mask_eq_iff ha hb (by omega),hk,value_div_of_head hl',hlen',value_div_of_head hr']

/-- The block of an aligned address is a range. -/
theorem agree_iff_range {l r : List ℕ} (hl : Bytes l) (hr : Bytes r) (hlen : l.length = r.length) {ones : ℕ}
    (hones : ones≤8*l.length) (haligned : 2^(8*l.length-ones)∣value l) : agree (mask ones l.length) l r = true ↔
      value l≤value r ∧ value r<value l+2^(8*l.length-ones) := by
  rw [agree_iff hl hr hlen hones]
  obtain ⟨q,hq⟩ := haligned
  have hpos := Nat.two_pow_pos (8*l.length-ones)
  rw [hq,Nat.mul_div_cancel_left q hpos,eq_comm,Nat.div_eq_iff hpos,Nat.mul_comm]
  omega

end AddressBlocks
end Tierflow
