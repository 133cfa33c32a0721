import Tierflow.RateLimit.Handlers

/-! The limiter in memory that several handlers share, each with keys, limits and durations of its own. Whoever
starts it first says how long it keeps a queue that is not asked any more. -/
namespace Tierflow
namespace RateLimit
open SlidingWindow

/-! ## The limiter -/

structure KeyLimit where
  max : ℕ
  duration : ℤ
  pos : 0 < max

/-- The queues, the interval in nanoseconds once the limiter was started, and the requests that were accepted. -/
structure LimiterState (κ : Type*) where
  now : ℤ
  store : κ → Option (List ℤ)
  expirationDuration : Option ℤ
  accepted : κ → List ℤ

inductive LimiterOp (κ : Type*)
  | tick (seconds : ℕ)
  | init (expirationDuration : ℤ)
  | request (key : κ)
  | clearExpiredItems
  deriving DecidableEq, Repr

/-- The whole seconds of an interval. -/
def wholeSeconds (expirationDuration : ℤ) : ℤ := expirationDuration/10^9

section
variable {κ : Type*} [DecidableEq κ] (limits : κ → KeyLimit)

namespace LimiterState

def tick (s : LimiterState κ) (seconds : ℕ) : LimiterState κ := { s with now := s.now+seconds }

/-- The limiter is started once. -/
def start (s : LimiterState κ) (expirationDuration : ℤ) : LimiterState κ :=
  { s with expirationDuration := s.expirationDuration.or (some expirationDuration) }

/-- What a request for a key would be told now. -/
def answer (s : LimiterState κ) (key : κ) : List ℤ × Bool :=
  InMemoryRateLimiter.request (limits key).max (limits key).duration s.now (s.store key)

def request (s : LimiterState κ) (key : κ) : LimiterState κ :=
  { s with
    store := Function.update s.store key (some (s.answer limits key).1)
    accepted := if (s.answer limits key).2 then Function.update s.accepted key (s.now::s.accepted key)
      else s.accepted }

/-- A pass of the cleaner: queues whose newest moment is older than the interval go. -/
def clear (s : LimiterState κ) (expirationDuration : ℤ) : LimiterState κ :=
  { s with
    store := fun key =>
      (s.store key).filter (fun q => q≠[] ∧ s.now-q.getLastD s.now ≤ wholeSeconds expirationDuration) }

def init (now : ℤ) : LimiterState κ := ⟨now,fun _ => none,none,fun _ => []⟩

end LimiterState

/-- The limiter is started before it is asked; an interval that is not positive starts no cleaner. -/
def limiterSystem : TxSystem (LimiterState κ) (LimiterOp κ) Empty where
  step s
    | .tick seconds => some (s.tick seconds,[])
    | .init expirationDuration => some (s.start expirationDuration,[])
    | .request key => s.expirationDuration.map (fun _ => (s.request limits key,[]))
    | .clearExpiredItems => (s.expirationDuration.filter (fun e => 0<e)).map (fun e => (s.clear e,[]))

/-! ## The rule -/

/-- No window of a key has more accepted requests than its limit, and whoever is rejected comes within the duration
of as many. -/
def KeyRule (key : κ) (s : LimiterState κ) : Prop :=
  (∀ x, within (limits key).duration x (s.accepted key)≤(limits key).max) ∧
  ((s.answer limits key).2 = false → (limits key).max≤after (s.now-(limits key).duration) (s.accepted key))

/-- The queue of a key as the memory of its accepted requests: the accepted moments of the window are its moments. -/
structure Remembered (L : KeyLimit) (now : ℤ) (queue : Option (List ℤ)) (accepted : List ℤ) : Prop where
  limit : ∀ x, within L.duration x accepted ≤ L.max
  forgotten : queue = none → ∀ d, now-L.duration≤d → after d accepted = 0
  kept : ∀ q∈queue, q.length≤L.max ∧ q.Pairwise (·≤·) ∧ (∀ t∈q, t≤now) ∧
    ∀ d, now-L.duration≤d → after d accepted = after d q

end

section
variable {L : KeyLimit} {now : ℤ} {q : List ℤ} {accepted : List ℤ}

lemma after_append_singleton (d t : ℤ) (l : List ℤ) : after d (l++[t]) = after d (t::l) :=
  after_perm (List.perm_append_singleton t l)

lemma Remembered.later (h : Remembered L now (some q) accepted) (seconds : ℕ) :
    Remembered L (now+seconds) (some q) accepted := by
  obtain ⟨hlen,hsorted,hpast,hafter⟩ := h.kept q rfl
  refine ⟨h.limit,(fun hnone => nomatch hnone),?_⟩
  rintro q' ⟨⟩
  refine ⟨hlen,hsorted,fun t ht => (hpast t ht).trans (by omega),fun d hd => hafter d (by omega)⟩

lemma Remembered.forgotten_later (h : Remembered L now none accepted) (seconds : ℕ) :
    Remembered L (now+seconds) none accepted :=
  ⟨h.limit,fun _ d hd => h.forgotten rfl d (by omega),(fun q hq => nomatch hq)⟩

/-- A moment is added to what is remembered of the window, if that is less than the limit. -/
lemma Remembered.add (q' : List ℤ) (hlimit : ∀ x, within L.duration x accepted ≤ L.max)
    (hlen : q'.length<L.max) (hsorted : q'.Pairwise (·≤·)) (hpast : ∀ t∈q', t≤now)
    (hafter : ∀ d, now-L.duration≤d → after d accepted = after d q') :
    Remembered L now (some (q'++[now])) (now::accepted) := by
  refine ⟨?_,(fun hnone => nomatch hnone),?_⟩
  · apply within_cons_le hlimit
    rw [hafter _ le_rfl]
    exact (after_le_length _ _).trans_lt hlen
  · rintro q ⟨⟩
    refine ⟨by simpa using hlen,?_,?_,?_⟩
    · rw [List.pairwise_append]
      exact ⟨hsorted,List.pairwise_singleton _ _,fun t ht s hs => (List.mem_singleton.mp hs) ▸ hpast t ht⟩
    · intro t ht
      rcases List.mem_append.mp ht with ht | ht
      · exact hpast t ht
      · exact (List.mem_singleton.mp ht).le
    · intro d hd
      rw [after_append_singleton,after_cons,after_cons,hafter d hd]

/-- What the oldest moment counts for when it has left the window. -/
lemma after_tail {t d : ℤ} (ht : t≤d) (l : List ℤ) : after d (t::l) = after d l := by
  rw [after_cons,if_neg (not_lt.mpr ht),add_zero]

/-- A request: accepted moments are remembered, and one that is rejected finds as many as the limit. -/
lemma Remembered.request {queue : Option (List ℤ)} (h : Remembered L now queue accepted) :
    (∃ q', InMemoryRateLimiter.request L.max L.duration now queue = (q',true) ∧
      Remembered L now (some q') (now::accepted)) ∨
    (∃ q, queue = some q ∧ InMemoryRateLimiter.request L.max L.duration now queue = (q,false) ∧
      L.max≤after (now-L.duration) accepted) := by
  cases queue with
  | none =>
    refine .inl ⟨[now],rfl,?_⟩
    have hnone : ∀ d, now-L.duration≤d → after d accepted = after d [] := fun d hd => h.forgotten rfl d hd
    exact Remembered.add [] h.limit L.pos .nil (by simp) hnone
  | some q =>
    obtain ⟨hlen,hsorted,hpast,hafter⟩ := h.kept q rfl
    unfold InMemoryRateLimiter.request
    dsimp only
    by_cases hroom : q.length<L.max
    · rw [if_pos hroom]
      exact .inl ⟨_,rfl,Remembered.add q h.limit hroom hsorted hpast hafter⟩
    · rw [if_neg hroom]
      cases q with
      | nil => exact absurd L.pos hroom
      | cons t q =>
        rw [List.headD_cons,List.tail_cons]
        rw [List.length_cons] at hlen hroom
        by_cases hold : L.duration≤now-t
        · rw [if_pos hold]
          refine .inl ⟨_,rfl,Remembered.add q h.limit (by omega) hsorted.of_cons (fun s hs => hpast s (by simp [hs])) ?_⟩
          intro d hd
          rw [hafter d hd,after_tail (by omega)]
        · rw [if_neg hold]
          refine .inr ⟨_,rfl,rfl,?_⟩
          rw [hafter _ le_rfl,after_eq_length]
          · rw [List.length_cons]
            omega
          · intro s hs
            rcases List.mem_cons.mp hs with rfl | hs
            · omega
            · have hle := (List.pairwise_cons.mp hsorted).1 s hs
              omega

/-- A queue that the cleaner throws away has left the window, if the interval is no shorter. -/
lemma Remembered.clear {e : ℤ} (h : Remembered L now (some q) accepted) (he : L.duration≤wholeSeconds e+1) :
    Remembered L now ((some q).filter (fun q => q≠[] ∧ now-q.getLastD now ≤ wholeSeconds e)) accepted := by
  obtain ⟨hlen,hsorted,hpast,hafter⟩ := h.kept q rfl
  by_cases hkeep : q≠[] ∧ now-q.getLastD now ≤ wholeSeconds e
  · rw [Option.filter_some_pos (by simpa using hkeep)]
    exact h
  · rw [Option.filter_some_neg (by simpa using hkeep)]
    refine ⟨h.limit,fun _ d hd => ?_,(fun q hq => nomatch hq)⟩
    rw [hafter d hd]
    apply after_eq_zero
    intro t ht
    have hne := List.ne_nil_of_mem ht
    have hlast : q.getLastD now = q.getLast hne := by
      rw [List.getLastD_eq_getLast?,List.getLast?_eq_some_getLast hne]
      rfl
    have hle : t≤q.getLast hne := by
      rw [←List.dropLast_append_getLast hne,List.pairwise_append] at hsorted
      rw [←List.dropLast_append_getLast hne,List.mem_append,List.mem_singleton] at ht
      rcases ht with ht | ht
      · exact hsorted.2.2 t ht _ (List.mem_singleton_self _)
      · exact ht.le
    rw [hlast] at hkeep
    have hgone := not_le.mp (fun hlt => hkeep ⟨hne,hlt⟩)
    omega

end

section
variable {κ : Type*} [DecidableEq κ] {limits : κ → KeyLimit} {key : κ} {e : ℤ}

/-- What a run keeps for a key after a start with an interval. -/
structure KeyKept (limits : κ → KeyLimit) (key : κ) (e : ℤ) (s : LimiterState κ) : Prop where
  started : s.expirationDuration = some e
  remembered : Remembered (limits key) s.now (s.store key) (s.accepted key)

omit [DecidableEq κ] in
lemma KeyKept.rule {s : LimiterState κ} (h : KeyKept limits key e s) : KeyRule limits key s := by
  refine ⟨h.remembered.limit,?_⟩
  intro hreject
  unfold LimiterState.answer at hreject
  rcases h.remembered.request with ⟨q,hq,-⟩ | ⟨q,-,-,hfull⟩
  · rw [hq] at hreject
    exact nomatch hreject
  · exact hfull

lemma keyKept_step (he : e≤0 ∨ (limits key).duration≤wholeSeconds e+1) {s s' : LimiterState κ} {op : LimiterOp κ}
    {es : List Empty} (h : KeyKept limits key e s) (hs : (limiterSystem limits).step s op = some (s',es)) :
    KeyKept limits key e s' := by
  cases op with
  | tick seconds =>
    obtain rfl := (Prod.mk.inj (Option.some.inj hs)).1
    refine ⟨h.started,?_⟩
    have hkept := h.remembered
    unfold LimiterState.tick
    dsimp only
    cases hq : s.store key with
    | none =>
      rw [hq] at hkept
      exact hkept.forgotten_later seconds
    | some q =>
      rw [hq] at hkept
      exact hkept.later seconds
  | init e' =>
    obtain rfl := (Prod.mk.inj (Option.some.inj hs)).1
    refine ⟨?_,h.remembered⟩
    rw [LimiterState.start,h.started]
    rfl
  | request key' =>
    obtain ⟨-,-,heq⟩ := Option.map_eq_some_iff.mp hs
    obtain rfl := (Prod.mk.inj heq).1
    refine ⟨h.started,?_⟩
    unfold LimiterState.request LimiterState.answer
    dsimp only
    by_cases hkey : key = key'
    · subst hkey
      rw [Function.update_self]
      rcases h.remembered.request with ⟨q,hq,hadd⟩ | ⟨q,hstore,hq,-⟩
      · rw [hq,if_pos rfl,Function.update_self]
        exact hadd
      · rw [hq,if_neg Bool.false_ne_true,←hstore]
        exact h.remembered
    · rw [Function.update_of_ne hkey]
      have hsame : (if (InMemoryRateLimiter.request (limits key').max (limits key').duration s.now (s.store key')).2 then
          Function.update s.accepted key' (s.now::s.accepted key') else s.accepted) key = s.accepted key := by
        split_ifs
        · exact Function.update_of_ne hkey _ _
        · rfl
      rw [hsame]
      exact h.remembered
  | clearExpiredItems =>
    obtain ⟨e',he',heq⟩ := Option.map_eq_some_iff.mp hs
    obtain rfl := (Prod.mk.inj heq).1
    rw [h.started] at he'
    obtain ⟨hsome,hpos⟩ := Option.filter_eq_some_iff.mp he'
    obtain rfl := Option.some.inj hsome
    have hlong := he.resolve_left (not_le.mpr (of_decide_eq_true hpos))
    refine ⟨h.started,?_⟩
    have hkept := h.remembered
    unfold LimiterState.clear
    dsimp only
    cases hq : s.store key with
    | none =>
      rw [hq] at hkept
      exact hkept
    | some q =>
      rw [hq] at hkept
      exact hkept.clear hlong

/-! ## A key that is forgotten too early -/

/-- So many requests for a key were made, all at one moment. -/
structure Asked (key : κ) (e now : ℤ) (n : ℕ) (s : LimiterState κ) : Prop where
  clock : s.now = now
  started : s.expirationDuration = some e
  store : s.store key = if n = 0 then none else some (List.replicate n now)
  accepted : s.accepted key = List.replicate n now

variable (limits key)

lemma exec_tick (c : TxSystem.Config (LimiterState κ) Empty) (seconds : ℕ) :
    (limiterSystem limits).exec c (.tick seconds) = ⟨c.state.tick seconds,c.history⟩ := rfl

lemma exec_request {c : TxSystem.Config (LimiterState κ) Empty} (h : c.state.expirationDuration = some e) :
    (limiterSystem limits).exec c (.request key) = ⟨c.state.request limits key,c.history⟩ := by
  have hstep : (limiterSystem limits).step c.state (.request key) = some (c.state.request limits key,[]) := by
    unfold limiterSystem
    dsimp only
    rw [h]
    rfl
  rw [TxSystem.exec_of_some hstep]
  rfl

lemma exec_clear {c : TxSystem.Config (LimiterState κ) Empty} (h : c.state.expirationDuration = some e) (he : 0<e) :
    (limiterSystem limits).exec c .clearExpiredItems = ⟨c.state.clear e,c.history⟩ := by
  have hstep : (limiterSystem limits).step c.state .clearExpiredItems = some (c.state.clear e,[]) := by
    unfold limiterSystem
    dsimp only
    rw [h,Option.filter_some_pos (by simpa using he)]
    rfl
  rw [TxSystem.exec_of_some hstep]
  rfl

lemma asked_request {now : ℤ} {n : ℕ} {c : TxSystem.Config (LimiterState κ) Empty} (h : Asked key e now n c.state)
    (hn : n<(limits key).max) : Asked key e now (n+1) ((limiterSystem limits).exec c (.request key)).state := by
  have hanswer : c.state.answer limits key = (List.replicate (n+1) now,true) := by
    unfold LimiterState.answer InMemoryRateLimiter.request
    rw [h.store,h.clock]
    split_ifs with hzero
    · subst hzero
      rfl
    · dsimp only
      rw [if_pos (by simpa using hn),List.replicate_succ']
  rw [exec_request limits key h.started]
  unfold LimiterState.request
  rw [hanswer]
  refine ⟨h.clock,h.started,?_,?_⟩
  · exact Function.update_self _ _ _
  · dsimp only
    rw [if_pos rfl,Function.update_self,h.accepted,h.clock]
    rfl

lemma asked_run {now : ℤ} {c : TxSystem.Config (LimiterState κ) Empty} (h : Asked key e now 0 c.state) {n : ℕ}
    (hn : n≤(limits key).max) :
    Asked key e now n ((limiterSystem limits).run c (List.replicate n (.request key))).state := by
  induction n with
  | zero => exact h
  | succ n ih =>
    rw [List.replicate_succ',TxSystem.run_append]
    exact asked_request limits key (ih (by omega)) hn

/-- As many requests as the limit, a pass of the cleaner as soon as it forgets them, and one more request. -/
def forgottenEarly (e : ℤ) : List (LimiterOp κ) :=
  List.replicate (limits key).max (.request key)++
    [.tick (wholeSeconds e+1).toNat,.clearExpiredItems,.request key]

omit [DecidableEq κ] in
/-- The cleaner has thrown the queue away. -/
lemma store_clear_tick {now : ℤ} {n : ℕ} {s : LimiterState κ} (h : Asked key e now (n+1) s) (hseconds : 0≤wholeSeconds e) :
    ((s.tick (wholeSeconds e+1).toNat).clear e).store key = none := by
  have hlast : ∀ z, (List.replicate (n+1) now).getLastD z = now := by
    intro z
    rw [List.replicate_succ',List.getLastD_concat]
  unfold LimiterState.clear LimiterState.tick
  dsimp only
  rw [h.store,if_neg (Nat.succ_ne_zero n),Option.filter_some_neg]
  simp only [hlast,h.clock]
  apply decide_eq_false
  rintro ⟨-,hle⟩
  omega

/-- The window of the duration has one request too many, if it is longer than the interval and a second. -/
lemma forgottenEarly_exceeds (now : ℤ) (hpos : 0<e) (hlong : wholeSeconds e+1<(limits key).duration)
    {c : TxSystem.Config (LimiterState κ) Empty} (h : Asked key e now 0 c.state) :
    ¬KeyRule limits key ((limiterSystem limits).run c (forgottenEarly limits key e)).state := by
  have hseconds : 0≤wholeSeconds e := Int.ediv_nonneg hpos.le (by norm_num)
  have hasked := asked_run limits key h le_rfl
  unfold forgottenEarly
  rw [TxSystem.run_append]
  generalize (limiterSystem limits).run c (List.replicate (limits key).max (.request key)) = d at *
  have hclear := exec_clear limits (c := ⟨d.state.tick (wholeSeconds e+1).toNat,d.history⟩) hasked.started hpos
  have hrequest := exec_request limits key (c := ⟨(d.state.tick (wholeSeconds e+1).toNat).clear e,d.history⟩)
    hasked.started
  rw [TxSystem.run,TxSystem.run,TxSystem.run,TxSystem.run,exec_tick,hclear,hrequest]
  obtain ⟨m,hm⟩ := Nat.exists_eq_succ_of_ne_zero (limits key).pos.ne'
  have hstore : ((d.state.tick (wholeSeconds e+1).toNat).clear e).store key = none :=
    store_clear_tick key (hm ▸ hasked) hseconds
  intro hrule
  have hwithin := hrule.1 now
  have haccepted : (((d.state.tick (wholeSeconds e+1).toNat).clear e).request limits key).accepted key =
      (now+(wholeSeconds e+1))::List.replicate (limits key).max now := by
    have hanswer : ((d.state.tick (wholeSeconds e+1).toNat).clear e).answer limits key =
        ([(d.state.tick (wholeSeconds e+1).toNat).now],true) := by
      unfold LimiterState.answer
      rw [hstore]
      rfl
    unfold LimiterState.request
    rw [hanswer]
    dsimp only
    rw [if_pos rfl,Function.update_self]
    unfold LimiterState.clear LimiterState.tick
    dsimp only
    rw [hasked.accepted,hasked.clock,Int.toNat_of_nonneg (by omega)]
  rw [haccepted,within_cons,if_pos (by omega)] at hwithin
  have hall : within (limits key).duration now (List.replicate (limits key).max now) = (limits key).max := by
    unfold within
    rw [List.countP_replicate,if_pos (by simp; omega)]
  omega

end

/-- A key's limit holds in every run exactly when the interval that the limiter was started with starts no cleaner,
or the key's duration is longer than the interval by a second at most. -/
theorem keyRule_iff {κ : Type*} [DecidableEq κ] (limits : κ → KeyLimit) (key : κ) (e now : ℤ) :
    (∀ ops, (limiterSystem limits).Always (fun c => KeyRule limits key c.state) ⟨.init now,[]⟩ (.init e::ops)) ↔
      e≤0 ∨ (limits key).duration≤wholeSeconds e+1 := by
  constructor
  · intro h
    by_contra hbad
    obtain ⟨hpos,hlong⟩ := not_or.mp hbad
    have hasked : Asked key e now 0 ((limiterSystem limits).exec ⟨.init now,[]⟩ (.init e)).state :=
      ⟨rfl,rfl,rfl,rfl⟩
    exact forgottenEarly_exceeds limits key now (not_le.mp hpos) (not_le.mp hlong) hasked
      (h (forgottenEarly limits key e)).2.last
  · intro he ops
    have hempty : Remembered (limits key) now none [] := ⟨fun x => Nat.zero_le _,fun _ d _ => rfl,(fun q hq => nomatch hq)⟩
    have hkept : (limiterSystem limits).Always (fun c => KeyKept limits key e c.state)
        ((limiterSystem limits).exec ⟨.init now,[]⟩ (.init e)) ops :=
      TxSystem.always_of_step ⟨rfl,hempty⟩ (fun d op s es hd hs => keyKept_step he hd hs) ops
    exact ⟨⟨fun x => Nat.zero_le _,(fun h => nomatch h)⟩,hkept.mono (fun d hd => hd.rule)⟩

/-- One request an hour. -/
def hourly : Unit → KeyLimit := fun _ => ⟨1,3600,Nat.one_pos⟩

/-- The middleware for the web pages starts the limiter, with an interval of twenty minutes. -/
theorem hourly_forgotten : ¬∀ (κ : Type) [DecidableEq κ] (limits : κ → KeyLimit) (key : κ) (e now : ℤ)
    (ops : List (LimiterOp κ)),
    (limiterSystem limits).Always (fun c => KeyRule limits key c.state) ⟨.init now,[]⟩ (.init e::ops) := by
  intro h
  have hlast := (h Unit hourly () (1200*10^9) 0 [.request (),.tick 2400,.clearExpiredItems,.request ()]).last
  exact absurd (hlast.1 0) (by decide)

end RateLimit
end Tierflow
