import Tierflow.Foundation.SlidingWindow
import Tierflow.Foundation.Transaction

/-! The limit on successful requests with Redis. A request reserves a place in a list of moments before it runs and
gives a place back if it fails; the place it gives back is the newest one, whoever took it. -/
namespace Tierflow
namespace RateLimit
open SlidingWindow

/-! ## The list -/

/-- The list of a key, the newest moment first, and when the key expires. -/
structure WindowKey where
  entries : List ℤ
  expiresAt : ℤ
  deriving DecidableEq, Repr

/-- The script: drop what has left the window, check the limit, take a place. -/
def reserveWindowScript (max : ℕ) (windowSeconds now : ℤ) (key : WindowKey) : WindowKey × Bool :=
  let kept := key.entries.rdropWhile (fun t => t≤now-windowSeconds)
  if max≤kept.length then ({ key with entries := kept },false)
  else (⟨now::kept,now+windowSeconds+60⟩,true)

def reserveWindow (max : ℕ) (windowSeconds now : ℤ) (key : WindowKey) : WindowKey × Bool :=
  if max = 0 then (key,true) else reserveWindowScript max windowSeconds now key

def refundWindow (key : WindowKey) : WindowKey := { key with entries := key.entries.tail }

/-! ## The requests -/

structure WindowLimit where
  max : ℕ
  windowSeconds : ℤ
  pos : 0 < max

/-- The server's clock, the list of a user, and when the requests reserved that run or have succeeded. -/
structure WindowState where
  now : ℤ
  key : WindowKey
  running : List ℤ
  succeeded : List ℤ
  deriving DecidableEq, Repr

/-- The requests that have not failed. -/
def WindowState.surviving (s : WindowState) : List ℤ := s.running++s.succeeded

inductive WindowOp
  | tick (seconds : ℕ)
  | expire
  | reserve
  | finish (i : ℕ) (failed : Bool)
  deriving DecidableEq, Repr

namespace WindowState

def reserve (L : WindowLimit) (s : WindowState) : WindowState :=
  let (key,ok) := reserveWindow L.max L.windowSeconds s.now s.key
  { s with key := key, running := if ok then s.now::s.running else s.running }

/-- A running request ends; one that failed refunds. -/
def finish (s : WindowState) (i : ℕ) (t : ℤ) (failed : Bool) : WindowState :=
  if failed then { s with key := refundWindow s.key, running := s.running.eraseIdx i }
  else { s with running := s.running.eraseIdx i, succeeded := t::s.succeeded }

end WindowState

/-- Scripts and commands in any order; the clock never goes back. -/
def windowSystem (L : WindowLimit) : TxSystem WindowState WindowOp Empty where
  step s
    | .tick seconds => some ({ s with now := s.now+seconds },[])
    | .expire => if s.key.expiresAt ≤ s.now then some ({ s with key := { s.key with entries := [] } },[]) else none
    | .reserve => some (s.reserve L,[])
    | .finish i failed => s.running[i]?.map (fun t => (s.finish i t failed,[]))

def WindowState.init (now : ℤ) : WindowState := ⟨now,⟨[],now⟩,[],[]⟩

/-! ## What the list tells of the requests -/

section
variable {L : WindowLimit} {s : WindowState}

/-- Entries are moments of the past, the newest first, and gone from the window when the key expires. -/
structure WindowState.Ordered (L : WindowLimit) (s : WindowState) : Prop where
  sorted : s.key.entries.Pairwise (·≥·)
  past : ∀ e∈s.key.entries, e ≤ s.now
  expires : ∀ e∈s.key.entries, e+L.windowSeconds+60 ≤ s.key.expiresAt

/-- The list after a reservation. -/
lemma reserveWindow_cases (L : WindowLimit) (now : ℤ) (key : WindowKey) :
    (L.max≤(key.entries.rdropWhile (fun t => t≤now-L.windowSeconds)).length ∧
      reserveWindow L.max L.windowSeconds now key =
        ({ key with entries := key.entries.rdropWhile (fun t => t≤now-L.windowSeconds) },false)) ∨
    ((key.entries.rdropWhile (fun t => t≤now-L.windowSeconds)).length<L.max ∧
      reserveWindow L.max L.windowSeconds now key =
        (⟨now::key.entries.rdropWhile (fun t => t≤now-L.windowSeconds),now+L.windowSeconds+60⟩,true)) := by
  unfold reserveWindow reserveWindowScript
  rw [if_neg L.pos.ne']
  by_cases hmax : L.max≤(key.entries.rdropWhile (fun t => t≤now-L.windowSeconds)).length
  · exact .inl ⟨hmax,if_pos hmax⟩
  · exact .inr ⟨not_le.mp hmax,if_neg hmax⟩

lemma surviving_erase {i : ℕ} {t : ℤ} (h : s.running[i]? = some t) :
    s.surviving.Perm (t::(s.running.eraseIdx i++s.succeeded)) := by
  obtain ⟨hi,rfl⟩ := List.getElem?_eq_some_iff.mp h
  exact ((List.getElem_cons_eraseIdx_perm hi).symm.append_right s.succeeded)

/-- A request that succeeds survives. -/
lemma surviving_succeed {i : ℕ} {t : ℤ} (h : s.running[i]? = some t) :
    (s.finish i t false).surviving.Perm s.surviving :=
  List.perm_middle.trans (surviving_erase h).symm

lemma ordered_step {op : WindowOp} {s' : WindowState} {es : List Empty} (h : s.Ordered L)
    (hs : (windowSystem L).step s op = some (s',es)) : s'.Ordered L := by
  obtain ⟨hsorted,hpast,hexpires⟩ := h
  have htail : s.key.entries.tail.Sublist s.key.entries := List.tail_sublist _
  have hkept := (List.rdropWhile_prefix (fun t => decide (t ≤ s.now-L.windowSeconds)) s.key.entries).sublist
  cases op with
  | tick seconds =>
    obtain rfl := (Prod.mk.inj (Option.some.inj hs)).1
    refine ⟨hsorted,?_,hexpires⟩
    intro e he
    exact (hpast e he).trans (by simp)
  | expire =>
    simp only [windowSystem] at hs
    split_ifs at hs
    obtain rfl := (Prod.mk.inj (Option.some.inj hs)).1
    exact ⟨List.Pairwise.nil,by simp,by simp⟩
  | reserve =>
    obtain rfl := (Prod.mk.inj (Option.some.inj hs)).1
    unfold WindowState.reserve
    rcases reserveWindow_cases L s.now s.key with ⟨-,heq⟩ | ⟨-,heq⟩
    · rw [heq]
      exact ⟨hsorted.sublist hkept,fun e he => hpast e (hkept.subset he),fun e he => hexpires e (hkept.subset he)⟩
    · rw [heq]
      refine ⟨List.pairwise_cons.mpr ⟨fun e he => hpast e (hkept.subset he),hsorted.sublist hkept⟩,?_,?_⟩
      · intro e he
        rcases List.mem_cons.mp he with rfl | he
        · exact le_rfl
        · exact hpast e (hkept.subset he)
      · intro e he
        rcases List.mem_cons.mp he with rfl | he
        · exact le_rfl
        · have hle := hpast e (hkept.subset he)
          simp only
          omega
  | finish i failed =>
    obtain ⟨t,-,heq⟩ := Option.map_eq_some_iff.mp hs
    obtain rfl := (Prod.mk.inj heq).1
    cases failed with
    | false => exact ⟨hsorted,hpast,hexpires⟩
    | true => exact ⟨hsorted.sublist htail,fun e he => hpast e (htail.subset he),fun e he => hexpires e (htail.subset he)⟩

/-- When a key expires, all its entries have left the window. -/
lemma WindowState.Ordered.after_expired (h : s.Ordered L) (hexp : s.key.expiresAt ≤ s.now) {d : ℤ}
    (hd : s.now-L.windowSeconds≤d) : after d s.key.entries = 0 := by
  apply after_eq_zero
  intro e he
  have hle := h.expires e he
  omega

/-! ## The limit -/

/-- Every request of the window that has not failed has an entry, and no window has too many of them. -/
structure Accounted (L : WindowLimit) (s : WindowState) : Prop where
  covered : Covered (s.now-L.windowSeconds) s.surviving s.key.entries
  limit : ∀ x, within L.windowSeconds x s.surviving≤L.max

/-- A failed request gives back its own place, or one that is as old, or one that has left the window. -/
def RefundsOwn (L : WindowLimit) (c : TxSystem.Config WindowState Empty) : WindowOp → Prop
  | .finish i true => ∀ t∈c.state.running[i]?, ∀ e∈c.state.key.entries.head?,
    e≤t ∨ e ≤ c.state.now-L.windowSeconds
  | _ => True

lemma accounted_reserve (h : Accounted L s) : Accounted L (s.reserve L) := by
  obtain ⟨hcov,hlimit⟩ := h
  have hkept : Covered (s.now-L.windowSeconds) s.surviving
      (s.key.entries.rdropWhile (fun t => t ≤ s.now-L.windowSeconds)) :=
    hcov.trans_eq (fun d hd => after_rdropWhile s.key.entries hd)
  unfold WindowState.reserve
  rcases reserveWindow_cases L s.now s.key with ⟨-,heq⟩ | ⟨hlen,heq⟩
  · rw [heq]
    exact ⟨hkept,hlimit⟩
  · rw [heq]
    refine ⟨hkept.cons s.now,?_⟩
    exact within_cons_le hlimit (((hkept _ le_rfl).trans (after_le_length _ _)).trans_lt hlen)

lemma accounted_step {c : TxSystem.Config WindowState Empty} {op : WindowOp} {s' : WindowState} {es : List Empty}
    (ho : c.state.Ordered L) (h : Accounted L c.state) (hg : RefundsOwn L c op)
    (hs : (windowSystem L).step c.state op = some (s',es)) : Accounted L s' := by
  cases op with
  | tick seconds =>
    obtain rfl := (Prod.mk.inj (Option.some.inj hs)).1
    exact ⟨h.covered.later (by simp only; omega),h.limit⟩
  | expire =>
    simp only [windowSystem] at hs
    split_ifs at hs with hexp
    obtain rfl := (Prod.mk.inj (Option.some.inj hs)).1
    refine ⟨h.covered.trans_eq ?_,h.limit⟩
    intro d hd
    rw [ho.after_expired hexp hd]
    rfl
  | reserve =>
    obtain rfl := (Prod.mk.inj (Option.some.inj hs)).1
    exact accounted_reserve h
  | finish i failed =>
    obtain ⟨t,ht,heq⟩ := Option.map_eq_some_iff.mp hs
    obtain rfl := (Prod.mk.inj heq).1
    have herase := surviving_erase ht
    cases failed with
    | false =>
      have hperm := surviving_succeed ht
      refine ⟨h.covered.eq_trans (fun d _ => after_perm hperm),?_⟩
      intro x
      rw [within_perm hperm]
      exact h.limit x
    | true =>
      constructor
      · cases hentries : c.state.key.entries with
        | nil =>
          have hcov := h.covered
          intro d hd
          have hle := hcov d hd
          rw [hentries,after_perm herase,after_cons] at hle
          simp only [WindowState.finish,refundWindow,WindowState.surviving,hentries,if_true,List.tail_nil]
          omega
        | cons e entries =>
          have hown := hg t ht e (by rw [hentries]; rfl)
          have hcov := h.covered.erase herase hentries hown
          simpa [WindowState.finish,refundWindow,WindowState.surviving,hentries] using hcov
      · intro x
        have hle := h.limit x
        rw [within_perm herase,within_cons] at hle
        exact (Nat.le_add_right _ _).trans hle

end

/-- If failed requests give back their own places, no window ever has more successful requests than the limit. -/
theorem successes_within_limit (L : WindowLimit) (now : ℤ) (ops : List WindowOp)
    (h : (windowSystem L).Guarded (RefundsOwn L) ⟨.init now,[]⟩ ops) :
    (windowSystem L).Always (fun c => ∀ x, within L.windowSeconds x c.state.succeeded≤L.max) ⟨.init now,[]⟩ ops := by
  have hinv : (windowSystem L).Always (fun c => c.state.Ordered L ∧ Accounted L c.state) ⟨.init now,[]⟩ ops := by
    apply TxSystem.always_of_guarded _ _ h
    · exact ⟨⟨List.Pairwise.nil,by simp [WindowState.init],by simp [WindowState.init]⟩,
        ⟨fun d _ => le_rfl,fun x => Nat.zero_le _⟩⟩
    · intro d op s' es hd hg hs
      exact ⟨ordered_step hd.1 hs,accounted_step hd.1 hd.2 hg hs⟩
  apply hinv.mono
  intro c hc x
  have hle := hc.2.limit x
  unfold WindowState.surviving at hle
  rw [within_append] at hle
  exact (Nat.le_add_left _ _).trans hle

/-- One request at a time, within a minute. -/
def oneAMinute : WindowLimit := ⟨1,60,one_pos⟩

/-- The only running request fails and another one takes its place. -/
def ownRefund : List WindowOp := [.reserve,.tick 5,.finish 0 true,.reserve,.finish 0 false]

theorem ownRefund_within_limit : (windowSystem oneAMinute).Always
    (fun c => ∀ x, within oneAMinute.windowSeconds x c.state.succeeded≤oneAMinute.max) ⟨.init 0,[]⟩ ownRefund := by
  apply successes_within_limit
  refine ⟨trivial,trivial,?_,trivial,trivial,trivial⟩
  rintro t ⟨⟩ e ⟨⟩
  exact .inl le_rfl

/-- The first request has left the window when it fails, and takes away the place of the second one. -/
def slowFailure : List WindowOp :=
  [.reserve,.tick 60,.reserve,.finish 1 true,.reserve,.finish 0 false,.finish 0 false]

theorem slowFailure_exceeds_limit : ¬∀ (L : WindowLimit) (now : ℤ) (ops : List WindowOp),
    (windowSystem L).Always (fun c => ∀ x, within L.windowSeconds x c.state.succeeded≤L.max) ⟨.init now,[]⟩ ops := by
  intro h
  have hlast := (h oneAMinute 0 slowFailure).last 60
  exact absurd hlast (by decide)

end RateLimit
end Tierflow
