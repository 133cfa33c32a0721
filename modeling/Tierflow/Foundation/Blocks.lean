import Mathlib.Data.List.Basic
import Mathlib.Tactic

/-! Streams of blocks. Blocks are numbered in the order in which they start; each has a header, deltas that
fit the header, and an end, and the events of different blocks may alternate. A machine that keeps the open
blocks accepts exactly the well-formed streams. -/
namespace Tierflow
namespace Blocks

inductive Event (β δ : Type*)
  | start (i : ℤ) (b : β)
  | delta (i : ℤ) (d : δ)
  | stop (i : ℤ)
  deriving DecidableEq, Repr

namespace Event
variable {β δ : Type*}

def index : Event β δ → ℤ
  | start i _ | delta i _ | stop i => i

def starts : List (Event β δ) → List ℤ
  | [] => []
  | start i _::l => i::starts l
  | delta _ _::l | stop _::l => starts l

/-- The events of one block. -/
def line (i : ℤ) (l : List (Event β δ)) : List (Event β δ) := l.filter (fun e => e.index = i)

end Event

/-- The number of the next block and the headers of the open ones. -/
@[ext] structure State (β : Type*) where
  next : ℤ
  opened : ℤ → Option β

section Machine
variable {β δ : Type*} (fits : β → δ → Bool)

def State.init : State β := ⟨0,fun _ => none⟩

def State.begin (s : State β) (b : β) : State β := ⟨s.next+1,Function.update s.opened s.next (some b)⟩

def State.close (s : State β) (i : ℤ) : State β := ⟨s.next,Function.update s.opened i none⟩

@[simp] lemma State.next_begin (s : State β) (b : β) : (s.begin b).next = s.next+1 := rfl
@[simp] lemma State.next_close (s : State β) (i : ℤ) : (s.close i).next = s.next := rfl

lemma State.opened_begin (s : State β) (b : β) (i : ℤ) :
    (s.begin b).opened i = if i = s.next then some b else s.opened i := Function.update_apply _ _ _ _

lemma State.opened_close (s : State β) (i j : ℤ) :
    (s.close i).opened j = if j = i then none else s.opened j := Function.update_apply _ _ _ _

def step (s : State β) : Event β δ → Option (State β)
  | .start i b => if i = s.next then some (s.begin b) else none
  | .delta i d => (s.opened i).bind (fun b => if fits b d then some s else none)
  | .stop i => (s.opened i).map (fun _ => s.close i)

def run (s : State β) (l : List (Event β δ)) : Option (State β) := l.foldlM (step fits) s

/-- All blocks are closed in the end. -/
def Accepts (l : List (Event β δ)) : Prop := ∃ n, run fits .init l = some ⟨n,fun _ => none⟩

/-! ## Well-formed streams -/

/-- Deltas that fit a header, and the end of the block. -/
def Rest (i : ℤ) (b : β) (l : List (Event β δ)) : Prop :=
  ∃ ds : List δ, l = ds.map (.delta i)++[.stop i] ∧ ∀ d∈ds, fits b d = true

/-- A whole block. -/
def Line (i : ℤ) (l : List (Event β δ)) : Prop := ∃ b l', l = .start i b::l' ∧ Rest fits i b l'

structure WellFormed (l : List (Event β δ)) : Prop where
  ordered : ∃ k : ℕ, Event.starts l = (List.range k).map (fun j : ℕ => (j : ℤ))
  lines : ∀ e∈l, Line fits e.index (Event.line e.index l)

variable {fits}

@[simp] lemma run_nil (s : State β) : run fits s [] = some s := rfl

lemma run_cons (s : State β) (e : Event β δ) (l : List (Event β δ)) :
    run fits s (e::l) = (step fits s e).bind (fun t => run fits t l) := List.foldlM_cons

lemma run_append (s : State β) (l m : List (Event β δ)) :
    run fits s (l++m) = (run fits s l).bind (fun t => run fits t m) := List.foldlM_append

/-! ## Acceptance -/

variable (fits) in
/-- What remains of the events of one block: the rest of an open block, and otherwise nothing or, if its
number is not used up, a whole block. -/
def Remains (s : State β) (i : ℤ) (l : List (Event β δ)) : Prop :=
  match s.opened i with
  | some b => Rest fits i b l
  | none => l = [] ∨ s.next ≤ i ∧ Line fits i l

lemma rest_nil {i : ℤ} {b : β} : ¬Rest fits i b [] := by
  rintro ⟨ds,h,-⟩
  simp at h

lemma rest_stop {i : ℤ} {b : β} {l : List (Event β δ)} : Rest fits i b (.stop i::l) ↔ l = [] := by
  constructor
  · rintro ⟨ds,h,-⟩
    cases ds with
    | nil => simpa using h
    | cons d ds => simp at h
  · rintro rfl
    exact ⟨[],rfl,fun d hd => absurd hd List.not_mem_nil⟩

lemma rest_delta {i : ℤ} {b : β} {d : δ} {l : List (Event β δ)} :
    Rest fits i b (.delta i d::l) ↔ fits b d = true ∧ Rest fits i b l := by
  constructor
  · rintro ⟨ds,h,hfit⟩
    cases ds with
    | nil => simp at h
    | cons e ds =>
      rw [List.map_cons,List.cons_append,List.cons.injEq,Event.delta.injEq] at h
      obtain ⟨⟨-,rfl⟩,rfl⟩ := h
      exact ⟨hfit d List.mem_cons_self,ds,rfl,fun e he => hfit e (List.mem_cons_of_mem _ he)⟩
  · rintro ⟨hd,ds,rfl,hfit⟩
    refine ⟨d::ds,rfl,?_⟩
    intro e he
    rcases List.mem_cons.mp he with rfl | he
    · exact hd
    · exact hfit e he

lemma not_rest_start {i : ℤ} {b c : β} {l : List (Event β δ)} : ¬Rest fits i b (.start i c::l) := by
  rintro ⟨ds,h,-⟩
  cases ds <;> simp at h

lemma line_start {i : ℤ} {b : β} {l : List (Event β δ)} : Line fits i (.start i b::l) ↔ Rest fits i b l := by
  constructor
  · rintro ⟨c,l',h,hr⟩
    rw [List.cons.injEq,Event.start.injEq] at h
    obtain ⟨⟨-,rfl⟩,rfl⟩ := h
    exact hr
  · exact fun h => ⟨b,l,rfl,h⟩

@[simp] lemma line_cons_self (e : Event β δ) (l : List (Event β δ)) :
    Event.line e.index (e::l) = e::Event.line e.index l := by simp [Event.line]

lemma line_cons_of_ne {e : Event β δ} {i : ℤ} (h : e.index≠i) (l : List (Event β δ)) :
    Event.line i (e::l) = Event.line i l := by simp [Event.line,h]

section Remains
variable {s t : State β} {i : ℤ} {b : β} {l : List (Event β δ)}

lemma remains_of_open (h : s.opened i = some b) : Remains fits s i l ↔ Rest fits i b l := by
  unfold Remains
  rw [h]

lemma remains_of_closed (h : s.opened i = none) :
    Remains fits s i l ↔ l = [] ∨ s.next ≤ i ∧ Line fits i l := by
  unfold Remains
  rw [h]

lemma remains_cons_of_ne {e : Event β δ} (h : e.index≠i) (ho : t.opened i = s.opened i)
    (hn : s.next ≤ i ↔ t.next ≤ i) (l : List (Event β δ)) :
    Remains fits s i (Event.line i (e::l)) ↔ Remains fits t i (Event.line i l) := by
  unfold Remains
  rw [line_cons_of_ne h,ho,hn]

end Remains

variable (fits) in
/-- A stream starts blocks in order, and what it has of every block is what remains of it. -/
def Closes (s : State β) (n : ℤ) (l : List (Event β δ)) : Prop :=
  (∃ k : ℕ, n = s.next+k ∧ Event.starts l = (List.range k).map (fun j : ℕ => s.next+(j : ℤ))) ∧
    ∀ i, Remains fits s i (Event.line i l)

/-- The open blocks are numbered below the next one. -/
def State.Numbered (s : State β) : Prop := ∀ i b, s.opened i = some b → i < s.next

lemma State.Numbered.fresh {s : State β} (h : s.Numbered) : s.opened s.next = none := by
  cases ho : s.opened s.next with
  | none => rfl
  | some b => exact absurd (h _ b ho) (lt_irrefl _)

lemma State.Numbered.step {s t : State β} {e : Event β δ} (h : s.Numbered) (hstep : step fits s e = some t) :
    t.Numbered := by
  intro i b hi
  cases e with
  | start j c =>
    rw [Blocks.step] at hstep
    split_ifs at hstep with hj
    obtain rfl := Option.some.inj hstep
    rw [opened_begin] at hi
    rw [next_begin]
    split_ifs at hi with hne
    · omega
    · have := h i b hi
      omega
  | delta j d =>
    obtain ⟨c,-,hc⟩ := Option.bind_eq_some_iff.mp hstep
    split_ifs at hc
    obtain rfl := Option.some.inj hc
    exact h i b hi
  | stop j =>
    obtain ⟨c,-,rfl⟩ := Option.map_eq_some_iff.mp hstep
    rw [opened_close] at hi
    split_ifs at hi
    exact h i b hi

lemma range_succ_from (a : ℤ) (k : ℕ) :
    (List.range (k+1)).map (fun j : ℕ => a+(j : ℤ)) = a::(List.range k).map (fun j : ℕ => a+1+(j : ℤ)) := by
  rw [List.range_succ_eq_map,List.map_cons,List.map_map]
  congr 1
  · simp
  · apply List.map_congr_left
    intro j _
    simp only [Function.comp_apply]
    omega

section Closes
variable {s : State β} {n j : ℤ} {l : List (Event β δ)}

lemma closes_nil : Closes fits s n [] ↔ s = ⟨n,fun _ => none⟩ := by
  constructor
  · rintro ⟨⟨k,rfl,hk⟩,hi⟩
    have hk0 : k = 0 := by simpa [Event.starts] using (congrArg List.length hk).symm
    subst k
    apply State.ext
    · simp
    · funext i
      cases ho : s.opened i with
      | none => rfl
      | some b => exact absurd ((remains_of_open ho).mp (hi i)) rest_nil
  · rintro rfl
    exact ⟨⟨0,by simp,rfl⟩,fun i => (remains_of_closed rfl).mpr (.inl rfl)⟩

lemma closes_start {b : β} (hs : s.Numbered) :
    Closes fits s n (.start j b::l) ↔ j = s.next ∧ Closes fits (s.begin b) n l := by
  have hline : Event.line j (.start j b::l) = .start j b::Event.line j l := line_cons_self _ l
  have hself : (s.begin b).opened s.next = some b := by rw [State.opened_begin,if_pos rfl]
  have hother : ∀ i, i≠j → j = s.next → (Remains fits s i (Event.line i (.start j b::l)) ↔
      Remains fits (s.begin b) i (Event.line i l)) := by
    intro i hi hj
    refine remains_cons_of_ne (Ne.symm hi) ?_ ?_ l
    · rw [State.opened_begin,if_neg (hj ▸ hi)]
    · rw [State.next_begin]
      omega
  constructor
  · rintro ⟨⟨k,rfl,hk⟩,hr⟩
    cases k with
    | zero => simp [Event.starts] at hk
    | succ k =>
      rw [range_succ_from,Event.starts,List.cons.injEq] at hk
      obtain ⟨rfl,hk⟩ := hk
      refine ⟨rfl,⟨k,by push_cast [State.next_begin]; ring,hk⟩,?_⟩
      intro i
      by_cases hi : i = s.next
      · subst i
        rw [remains_of_open hself]
        have := (remains_of_closed hs.fresh).mp (hr s.next)
        rw [hline] at this
        exact line_start.mp (this.resolve_left (by simp)).2
      · exact (hother i hi rfl).mp (hr i)
  · rintro ⟨rfl,⟨k,rfl,hk⟩,hr⟩
    refine ⟨⟨k+1,by push_cast [State.next_begin]; ring,by rw [range_succ_from,Event.starts,hk,State.next_begin]⟩,?_⟩
    intro i
    by_cases hi : i = s.next
    · subst i
      have := hr s.next
      rw [remains_of_open hself] at this
      rw [remains_of_closed hs.fresh,hline]
      exact .inr ⟨le_rfl,line_start.mpr this⟩
    · exact (hother i hi rfl).mpr (hr i)

/-- A closed block has no delta and no end. -/
lemma not_closes_of_closed {e : Event β δ} (ho : s.opened e.index = none) (he : ∀ b, e≠.start e.index b) :
    ¬Closes fits s n (e::l) := by
  rintro ⟨-,hr⟩
  have := (remains_of_closed ho).mp (hr e.index)
  rw [line_cons_self] at this
  rcases this with h | ⟨-,b,l',h,-⟩
  · exact absurd h (List.cons_ne_nil _ _)
  · exact he b (List.cons.inj h).1

lemma closes_delta {d : δ} : Closes fits s n (.delta j d::l) ↔
    ∃ b, s.opened j = some b ∧ fits b d = true ∧ Closes fits s n l := by
  have hline : Event.line j (.delta j d::l) = .delta j d::Event.line j l := line_cons_self _ l
  have hother : ∀ i, i≠j → (Remains fits s i (Event.line i (.delta j d::l)) ↔
      Remains fits s i (Event.line i l)) := fun i hi => remains_cons_of_ne (Ne.symm hi) rfl Iff.rfl l
  cases ho : s.opened j with
  | none =>
    refine iff_of_false (not_closes_of_closed ho (fun b h => by contradiction)) ?_
    rintro ⟨b,h,-⟩
    contradiction
  | some b =>
    constructor
    · rintro ⟨hk,hr⟩
      have hj := (remains_of_open ho).mp (hr j)
      rw [hline,rest_delta] at hj
      refine ⟨b,rfl,hj.1,hk,?_⟩
      intro i
      by_cases hi : i = j
      · subst i
        exact (remains_of_open ho).mpr hj.2
      · exact (hother i hi).mp (hr i)
    · rintro ⟨c,hc,hf,hk,hr⟩
      obtain rfl := Option.some.inj hc
      refine ⟨hk,?_⟩
      intro i
      by_cases hi : i = j
      · subst i
        rw [remains_of_open ho,hline,rest_delta]
        exact ⟨hf,(remains_of_open ho).mp (hr j)⟩
      · exact (hother i hi).mpr (hr i)

lemma closes_stop (hs : s.Numbered) :
    Closes fits s n (.stop j::l) ↔ (s.opened j).isSome ∧ Closes fits (s.close j) n l := by
  have hline : Event.line j (.stop j::l) = .stop j::Event.line j l := line_cons_self _ l
  have hself : (s.close j).opened j = none := by rw [State.opened_close,if_pos rfl]
  have hother : ∀ i, i≠j → (Remains fits s i (Event.line i (.stop j::l)) ↔
      Remains fits (s.close j) i (Event.line i l)) := by
    intro i hi
    apply remains_cons_of_ne (Ne.symm hi) ?_ (by rw [State.next_close])
    rw [State.opened_close,if_neg hi]
  cases ho : s.opened j with
  | none =>
    refine iff_of_false (not_closes_of_closed ho (fun b h => by contradiction)) ?_
    exact fun h => absurd h.1 (by simp)
  | some b =>
    have hused := hs j b ho
    rw [Option.isSome_some]
    constructor
    · rintro ⟨hk,hr⟩
      refine ⟨rfl,hk,?_⟩
      intro i
      by_cases hi : i = j
      · subst i
        have hj := (remains_of_open ho).mp (hr j)
        rw [hline,rest_stop] at hj
        exact (remains_of_closed hself).mpr (.inl hj)
      · exact (hother i hi).mp (hr i)
    · rintro ⟨-,hk,hr⟩
      refine ⟨hk,?_⟩
      intro i
      by_cases hi : i = j
      · subst i
        have hj := (remains_of_closed hself).mp (hr j)
        rw [remains_of_open ho,hline,rest_stop]
        exact hj.resolve_right (fun h => absurd h.1 (not_le.mpr hused))
      · exact (hother i hi).mpr (hr i)

lemma closes_cons {e : Event β δ} (hs : s.Numbered) :
    Closes fits s n (e::l) ↔ ∃ t, step fits s e = some t ∧ Closes fits t n l := by
  cases e with
  | start j b =>
    rw [closes_start hs,step]
    by_cases hj : j = s.next <;> simp [hj]
  | delta j d =>
    rw [closes_delta,step]
    cases s.opened j with
    | none => simp
    | some b => by_cases hf : fits b d = true <;> simp [hf]
  | stop j =>
    rw [closes_stop hs,step]
    cases s.opened j <;> simp

end Closes

lemma run_eq_closed_iff {l : List (Event β δ)} {s : State β} (hs : s.Numbered) (n : ℤ) :
    run fits s l = some ⟨n,fun _ => none⟩ ↔ Closes fits s n l := by
  induction l generalizing s with
  | nil => rw [run_nil,Option.some.injEq,closes_nil]
  | cons e l ih =>
    rw [run_cons,closes_cons hs,Option.bind_eq_some_iff]
    apply exists_congr
    intro t
    apply and_congr_right
    exact fun ht => ih (hs.step ht)

lemma mem_starts {i : ℤ} {b : β} {l : List (Event β δ)} (hm : .start i b∈l) : i∈Event.starts l := by
  induction l with
  | nil => contradiction
  | cons e l ih =>
    rcases List.mem_cons.mp hm with rfl | hm
    · exact List.mem_cons_self
    · have hi := ih hm
      cases e with
      | start j c => exact List.mem_cons_of_mem _ hi
      | delta j d => exact hi
      | stop j => exact hi

/-- The machine accepts exactly the well-formed streams. -/
theorem accepts_iff {l : List (Event β δ)} : Accepts fits l ↔ WellFormed fits l := by
  have hinit : (State.init : State β).Numbered := fun i b h => by contradiction
  have hstarts : ∀ k : ℕ, (List.range k).map (fun j : ℕ => (State.init : State β).next+(j : ℤ)) =
      (List.range k).map (fun j : ℕ => (j : ℤ)) := by
    intro k
    apply List.map_congr_left
    intro j _
    exact zero_add _
  constructor
  · rintro ⟨n,h⟩
    obtain ⟨⟨k,-,hk⟩,hr⟩ := (run_eq_closed_iff hinit n).mp h
    refine ⟨⟨k,hk.trans (hstarts k)⟩,?_⟩
    intro e he
    have hne : Event.line e.index l≠[] := List.ne_nil_of_mem (List.mem_filter.mpr ⟨he,decide_eq_true rfl⟩)
    exact (((remains_of_closed rfl).mp (hr e.index)).resolve_left hne).2
  · rintro ⟨⟨k,hk⟩,hl⟩
    refine ⟨k,(run_eq_closed_iff hinit k).mpr ⟨⟨k,(zero_add _).symm,hk.trans (hstarts k).symm⟩,?_⟩⟩
    intro i
    rw [remains_of_closed rfl]
    by_cases hn : Event.line i l = []
    · exact .inl hn
    · obtain ⟨e,he⟩ := List.exists_mem_of_ne_nil _ hn
      obtain ⟨hmem,hi⟩ := List.mem_filter.mp he
      obtain rfl := of_decide_eq_true hi
      obtain ⟨b,l'',hl'',hrest⟩ := hl e hmem
      have hstart : .start e.index b∈l := (List.mem_filter.mp (show _∈Event.line e.index l by
        rw [hl'']; exact List.mem_cons_self)).1
      have hrange := mem_starts hstart
      rw [hk] at hrange
      obtain ⟨j,-,hj⟩ := List.mem_map.mp hrange
      exact .inr ⟨hj ▸ Int.natCast_nonneg j,hl e hmem⟩

end Machine
end Blocks
end Tierflow
