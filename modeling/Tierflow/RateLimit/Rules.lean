import Tierflow.RateLimit.Handlers

/-! Which of their rules the two handlers of the limits keep. -/
namespace Tierflow
namespace RateLimit
open SlidingWindow

/-! ## Places with Redis -/

section
variable {L : WindowLimit} {s : WindowState}

/-- However places are given back, there are no more of them than requests that have not failed. -/
def Backed (s : WindowState) : Prop := ∀ d, after d s.key.entries≤after d s.surviving

lemma backed_refund {i : ℕ} {t : ℤ} (ho : s.Ordered L) (h : Backed s) (ht : s.running[i]? = some t) :
    Backed (s.finish i t true) := by
  intro d
  have hle := h d
  rw [after_perm (surviving_erase ht),after_cons] at hle
  simp only [WindowState.finish,refundWindow,WindowState.surviving,if_true]
  cases hentries : s.key.entries with
  | nil => exact Nat.zero_le _
  | cons e entries =>
    have hsorted := ho.sorted
    rw [hentries,List.pairwise_cons] at hsorted
    rw [hentries,after_cons] at hle
    rw [List.tail_cons]
    by_cases he : d<e
    · rw [if_pos he] at hle
      split_ifs at hle <;> omega
    · rw [after_eq_zero (fun t ht => (hsorted.1 t ht).trans (not_lt.mp he))]
      exact Nat.zero_le _

lemma backed_step {op : WindowOp} {s' : WindowState} {es : List Empty} (ho : s.Ordered L) (h : Backed s)
    (hs : (windowSystem L).step s op = some (s',es)) : Backed s' := by
  cases op with
  | tick seconds =>
    obtain rfl := (Prod.mk.inj (Option.some.inj hs)).1
    exact h
  | expire =>
    simp only [windowSystem] at hs
    split_ifs at hs
    obtain rfl := (Prod.mk.inj (Option.some.inj hs)).1
    exact fun d => Nat.zero_le _
  | reserve =>
    obtain rfl := (Prod.mk.inj (Option.some.inj hs)).1
    have hkept : ∀ d, after d (s.key.entries.rdropWhile (fun t => t ≤ s.now-L.windowSeconds))≤after d s.surviving :=
      fun d => (List.rdropWhile_prefix _ _).sublist.countP_le.trans (h d)
    unfold WindowState.reserve
    rcases reserveWindow_cases L s.now s.key with ⟨-,heq⟩ | ⟨-,heq⟩
    · rw [heq]
      exact hkept
    · rw [heq]
      intro d
      have hle := hkept d
      change after d (s.now::_)≤after d (s.now::s.surviving)
      rw [after_cons,after_cons]
      omega
  | finish i failed =>
    obtain ⟨t,ht,heq⟩ := Option.map_eq_some_iff.mp hs
    obtain rfl := (Prod.mk.inj heq).1
    cases failed with
    | false =>
      intro d
      rw [after_perm (surviving_succeed ht)]
      exact h d
    | true => exact backed_refund ho h ht

/-- Whoever is not let in finds the window full. -/
lemma full_of_rejected (ho : s.Ordered L) (h : Backed s)
    (hrej : (reserveWindow L.max L.windowSeconds s.now s.key).2 = false) :
    L.max≤after (s.now-L.windowSeconds) s.surviving := by
  rcases reserveWindow_cases L s.now s.key with ⟨hmax,-⟩ | ⟨-,heq⟩
  · rw [←after_eq_length (fun t ht => lt_of_mem_rdropWhile ho.sorted ht),after_rdropWhile _ le_rfl] at hmax
    exact hmax.trans (h _)
  · rw [heq] at hrej
    cases hrej

end

/-! ## The handler's requests hold places -/

section
variable {cfg : Limits} {s s' : RedisState}

/-- The list and the requests that hold its places. -/
def RedisState.toWindow (s : RedisState) : WindowState := ⟨s.now,s.key,s.requests.map Request.time,s.succeeded⟩

/-- The success limit of the handler. -/
def Limits.window (cfg : Limits) (h : 0 < cfg.successMaxCount) : WindowLimit := ⟨cfg.successMaxCount,cfg.duration,h⟩

lemma request_eq_some {i : ℕ} {p : Phase} {r : Request} (h : s.request i p = some r) : s.requests[i]? = some r :=
  (Option.filter_eq_some_iff.mp h).1

lemma map_time_set {i : ℕ} {r : Request} (h : s.requests[i]? = some r) (p : Phase) :
    (s.requests.set i ⟨r.time,p⟩).map Request.time = s.requests.map Request.time := by
  obtain ⟨hi,rfl⟩ := List.getElem?_eq_some_iff.mp h
  apply List.ext_getElem
  · simp
  · intro j _ _
    rw [List.getElem_map,List.getElem_map,List.getElem_set]
    split_ifs with hij
    · subst hij
      rfl
    · rfl

lemma toWindow_answer {i : ℕ} {r : Request} (h : s.requests[i]? = some r) (allowed : Bool) :
    (s.answer i r allowed).toWindow = s.toWindow := by
  cases allowed <;> simp [RedisState.answer,RedisState.toWindow,map_time_set h]

lemma toWindow_allow {i : ℕ} {r : Request} (h : s.requests[i]? = some r) (failed : Bool) :
    (s.allow cfg i r failed).toWindow = s.toWindow := by
  unfold RedisState.allow
  split_ifs
  · exact toWindow_answer h true
  · exact toWindow_answer h false
  · exact toWindow_answer (s := { s with bucket := some (rateLimitScript _ _ _ _ _).1 }) h
      (rateLimitScript cfg.duration cfg.totalMaxCount (cfg.totalMaxCount*cfg.duration) s.now s.bucket).2

lemma step_finish (hpos : 0 < cfg.successMaxCount) {i : ℕ} {r : Request} (h : s.requests[i]? = some r) (failed : Bool) :
    (windowSystem (cfg.window hpos)).step s.toWindow (.finish i failed) =
      some ((s.finish cfg i r failed).toWindow,[]) := by
  have htime : s.toWindow.running[i]? = some r.time := by
    simp [RedisState.toWindow,h]
  simp only [windowSystem,htime,Option.map_some]
  cases failed <;>
    simp [WindowState.finish,RedisState.finish,RedisState.toWindow,hpos.ne',List.eraseIdx_map]

/-- A call of the handler is a call of the window, or it leaves the window alone. -/
theorem redis_refines_window (hpos : 0 < cfg.successMaxCount) {op : RedisOp} {es : List Empty}
    (hs : (redisSystem cfg).step s op = some (s',es)) : s'.toWindow = s.toWindow ∨
      ∃ wop, (windowSystem (cfg.window hpos)).step s.toWindow wop = some (s'.toWindow,[]) := by
  cases op with
  | tick seconds =>
    obtain rfl := (Prod.mk.inj (Option.some.inj hs)).1
    exact .inr ⟨.tick seconds,rfl⟩
  | expireKey =>
    simp only [redisSystem] at hs
    split_ifs at hs with hexp
    obtain rfl := (Prod.mk.inj (Option.some.inj hs)).1
    exact .inr ⟨.expire,if_pos hexp⟩
  | expireBucket =>
    simp only [redisSystem] at hs
    split_ifs at hs
    obtain rfl := (Prod.mk.inj (Option.some.inj hs)).1
    exact .inl rfl
  | arrive =>
    obtain rfl := (Prod.mk.inj (Option.some.inj hs)).1
    refine .inr ⟨.reserve,?_⟩
    simp only [windowSystem,WindowState.reserve,RedisState.arrive,RedisState.toWindow,Limits.window]
    rw [apply_ite (List.map Request.time)]
    rfl
  | allow i failed =>
    obtain ⟨r,hr,heq⟩ := Option.map_eq_some_iff.mp hs
    obtain rfl := (Prod.mk.inj heq).1
    exact .inl (toWindow_allow (request_eq_some hr) failed)
  | finish i status =>
    obtain ⟨r,hr,heq⟩ := Option.map_eq_some_iff.mp hs
    obtain rfl := (Prod.mk.inj heq).1
    exact .inr ⟨_,step_finish hpos (request_eq_some hr) _⟩
  | refund i =>
    obtain ⟨r,hr,heq⟩ := Option.map_eq_some_iff.mp hs
    obtain rfl := (Prod.mk.inj heq).1
    exact .inr ⟨_,step_finish hpos (request_eq_some hr) true⟩

/-- The handler rejects by the success limit only for requests that have not failed. -/
lemma redis_successRule (cfg : Limits) (now : ℤ) (ops : List RedisOp) :
    (redisSystem cfg).Always (fun c => SuccessRule cfg (c.state.view cfg)) ⟨.init now,[]⟩ ops := by
  by_cases hpos : 0 < cfg.successMaxCount
  · have hinv : (redisSystem cfg).Always
        (fun c => c.state.toWindow.Ordered (cfg.window hpos) ∧ Backed c.state.toWindow) ⟨.init now,[]⟩ ops := by
      apply TxSystem.always_of_step
      · exact ⟨⟨List.Pairwise.nil,by simp [RedisState.init,RedisState.toWindow],
          by simp [RedisState.init,RedisState.toWindow]⟩,fun d => Nat.zero_le _⟩
      · intro d op s' es hd hs
        rcases redis_refines_window hpos hs with heq | ⟨wop,hstep⟩
        · simp only [heq]
          exact hd
        · exact ⟨ordered_step hd.1 hstep,backed_step hd.1 hd.2 hstep⟩
    apply hinv.mono
    intro c hc hrej
    have hfull : (reserveWindow cfg.successMaxCount cfg.duration c.state.now c.state.key).2 = false := by
      simpa [RedisState.view] using hrej
    exact full_of_rejected hc.1 hc.2 hfull
  · apply TxSystem.always_of_forall
    intro c _
    rw [Nat.eq_zero_of_not_pos hpos]
    exact Nat.zero_le _

end

/-! ## The bucket of tokens -/

section
variable {n : ℕ} {D now : ℤ} {admitted : List ℤ}

/-- What has been admitted from any moment on and what is left make no more than a full bucket and what has come
in since. Without a bucket, the time that has passed would have filled one. -/
def BucketBound (n : ℕ) (D now : ℤ) (admitted : List ℤ) : Option TokenBucket → Prop
  | none => ∀ x≤now, D*after (x-1) admitted≤n*(now-x)
  | some b => 0≤b.tokens ∧ b.lastTime≤now ∧ b.lastTime+D+60≤b.expiresAt ∧ (∀ t∈admitted, t≤b.lastTime) ∧
    ∀ x≤b.lastTime, D*after (x-1) admitted+b.tokens≤n*D+n*(b.lastTime-x)

/-- The same for the bucket as it would be found now. -/
lemma refilled_bound (hD : 0≤D) {bucket : Option TokenBucket}
    (h : BucketBound n D now admitted bucket) :
    0≤TokenBucket.refilled n (n*D) now bucket ∧
      ∀ x≤now, D*after (x-1) admitted+TokenBucket.refilled n (n*D) now bucket≤n*D+n*(now-x) := by
  have hfull : 0≤(n : ℤ)*D := by positivity
  cases bucket with
  | none =>
    refine ⟨hfull,?_⟩
    intro x hx
    have hle := h x hx
    simp only [TokenBucket.refilled]
    omega
  | some b =>
    obtain ⟨htokens,hlast,-,hbefore,hbound⟩ := h
    have hcome : 0≤(now-b.lastTime)*(n : ℤ) := mul_nonneg (sub_nonneg.mpr hlast) (by positivity)
    simp only [TokenBucket.refilled]
    refine ⟨le_min hfull (by omega),?_⟩
    intro x hx
    by_cases hxl : x≤b.lastTime
    · have hle := hbound x hxl
      have hmin := min_le_right ((n : ℤ)*D) (b.tokens+(now-b.lastTime)*n)
      have hsplit : (n : ℤ)*(now-x) = n*(b.lastTime-x)+(now-b.lastTime)*n := by ring
      omega
    · -- nothing has been admitted since the bucket was last looked at
      have hmin := min_le_left ((n : ℤ)*D) (b.tokens+(now-b.lastTime)*n)
      have hzero : after (x-1) admitted = 0 := by
        apply after_eq_zero
        intro t ht
        have hle := hbefore t ht
        omega
      have hnonneg : 0≤(n : ℤ)*(now-x) := mul_nonneg (by positivity) (by omega)
      rw [hzero,Nat.cast_zero,mul_zero]
      omega

/-- The script keeps the bound, whether it takes tokens out or not. -/
lemma script_bound (hn : 0 < n) (hD : 0≤D) (hpast : ∀ t∈admitted, t≤now) {bucket : Option TokenBucket}
    (h : BucketBound n D now admitted bucket) :
    BucketBound n D now (if (rateLimitScript D n (n*D) now bucket).2 then now::admitted else admitted)
      (some (rateLimitScript D n (n*D) now bucket).1) := by
  obtain ⟨hnonneg,hbound⟩ := refilled_bound hD h
  have hceil : -(-((n : ℤ)*D)/(n : ℤ)) = D := by
    rw [←mul_neg,Int.mul_ediv_cancel_left _ (by omega),neg_neg]
  unfold rateLimitScript
  simp only
  by_cases hreq : D≤TokenBucket.refilled n (n*D) now bucket
  · simp only [decide_eq_true hreq,if_true]
    refine ⟨by simp only; omega,le_rfl,by simp only; omega,?_,?_⟩
    · intro t ht
      rcases List.mem_cons.mp ht with rfl | ht
      · exact le_rfl
      · exact hpast t ht
    · intro x hx
      have hle := hbound x hx
      simp only at hx ⊢
      rw [after_cons,if_pos (by omega),Nat.cast_add,Nat.cast_one,mul_add,mul_one]
      omega
  · simp only [decide_eq_false hreq,Bool.false_eq_true,if_false]
    exact ⟨hnonneg,le_rfl,by simp only; omega,hpast,hbound⟩

/-- A bucket whose time to live is over has had time to fill. -/
lemma expired_bound {b : TokenBucket} (hexp : b.expiresAt≤now) (h : BucketBound n D now admitted (some b)) :
    BucketBound n D now admitted none := by
  obtain ⟨htokens,-,hlive,hbefore,hbound⟩ := h
  intro x hx
  by_cases hxl : x≤b.lastTime
  · have hle := hbound x hxl
    have htime : (n : ℤ)*(D+(b.lastTime-x))≤n*(now-x) := mul_le_mul_of_nonneg_left (by omega) (by positivity)
    rw [mul_add] at htime
    omega
  · have hzero : after (x-1) admitted = 0 := by
      apply after_eq_zero
      intro t ht
      have hle := hbefore t ht
      omega
    rw [hzero,Nat.cast_zero,mul_zero]
    exact mul_nonneg (by positivity) (by omega)

/-- Time that passes only adds to what may have come in. -/
lemma later_bound (seconds : ℕ) (hpast : ∀ t∈admitted, t≤now) {bucket : Option TokenBucket}
    (h : BucketBound n D now admitted bucket) : BucketBound n D (now+seconds) admitted bucket := by
  cases bucket with
  | some b => exact ⟨h.1,h.2.1.trans (by omega),h.2.2⟩
  | none =>
    intro x hx
    by_cases hxn : x≤now
    · have htime : (n : ℤ)*(now-x)≤n*(now+seconds-x) := mul_le_mul_of_nonneg_left (by omega) (by positivity)
      exact (h x hxn).trans htime
    · have hzero : after (x-1) admitted = 0 := by
        apply after_eq_zero
        intro t ht
        have hle := hpast t ht
        omega
      rw [hzero,Nat.cast_zero,mul_zero]
      exact mul_nonneg (by positivity) (by omega)

/-- Fewer than twice as many as the bucket holds fit into a window that ends with an admission. -/
lemma within_lt_of_bound {x : ℤ} (hx : x≤now ∧ now<x+D) (hn : 0 < n) {b : TokenBucket} (hlast : b.lastTime = now)
    (h : BucketBound n D now admitted (some b)) : within D x admitted<2*n := by
  have hle : within D x admitted≤after (x-1) admitted := by
    apply List.countP_mono_left
    intro t _ ht
    have hmem : x≤t ∧ t<x+D := by simpa using ht
    simpa using Int.sub_one_lt_of_le hmem.1
  obtain ⟨htokens,-,-,-,hbound⟩ := h
  have hat := hbound x (by omega)
  rw [hlast] at hat
  have hD : 0 < D := by omega
  have hcount : D*after (x-1) admitted<D*(2*n : ℕ) := by
    have hshort : (n : ℤ)*(now-x)<n*D := mul_lt_mul_of_pos_left (by omega) (by omega)
    have hdouble : D*((2*n : ℕ) : ℤ) = n*D+n*D := by
      push_cast
      ring
    omega
  have hlt := lt_of_mul_lt_mul_left hcount hD.le
  omega

end

section
variable {cfg : Limits} {s s' : RedisState}

/-- What is known of the bucket and of the windows of admitted requests. -/
structure Metered (cfg : Limits) (s : RedisState) : Prop where
  past : ∀ t∈s.admitted, t ≤ s.now
  bound : BucketBound cfg.totalMaxCount cfg.duration s.now s.admitted s.bucket
  limit : ∀ x, within cfg.duration x s.admitted<2*cfg.totalMaxCount

lemma metered_allow (hn : 0 < cfg.totalMaxCount) (hD : 0 < cfg.duration) (h : Metered cfg s) (i : ℕ) (r : Request)
    (failed : Bool) : Metered cfg (s.allow cfg i r failed) := by
  unfold RedisState.allow
  rw [if_neg hn.ne']
  split_ifs
  · exact ⟨h.past,h.bound,h.limit⟩
  · have hbound := script_bound hn hD.le h.past h.bound
    have hlast : (rateLimitScript cfg.duration cfg.totalMaxCount (cfg.totalMaxCount*cfg.duration) s.now
        s.bucket).1.lastTime = s.now := rfl
    revert hbound hlast
    generalize rateLimitScript cfg.duration cfg.totalMaxCount (cfg.totalMaxCount*cfg.duration) s.now s.bucket = answer
    obtain ⟨bucket,allowed⟩ := answer
    intro hbound hlast
    cases allowed with
    | false => exact ⟨h.past,hbound,h.limit⟩
    | true =>
      refine ⟨?_,hbound,?_⟩
      · intro t ht
        rcases List.mem_cons.mp ht with rfl | ht
        · exact le_rfl
        · exact h.past t ht
      · intro x
        change within cfg.duration x (s.now::s.admitted)<_
        by_cases hx : x ≤ s.now ∧ s.now<x+cfg.duration
        · exact within_lt_of_bound hx hn hlast hbound
        · rw [within_cons,if_neg hx]
          exact h.limit x

lemma metered_step (hn : 0 < cfg.totalMaxCount) (hD : 0 < cfg.duration) {op : RedisOp} {es : List Empty}
    (h : Metered cfg s) (hs : (redisSystem cfg).step s op = some (s',es)) : Metered cfg s' := by
  cases op with
  | tick seconds =>
    obtain rfl := (Prod.mk.inj (Option.some.inj hs)).1
    exact ⟨fun t ht => (h.past t ht).trans (by simp),later_bound seconds h.past h.bound,h.limit⟩
  | expireKey =>
    simp only [redisSystem] at hs
    split_ifs at hs
    obtain rfl := (Prod.mk.inj (Option.some.inj hs)).1
    exact ⟨h.past,h.bound,h.limit⟩
  | expireBucket =>
    simp only [redisSystem] at hs
    split_ifs at hs with hexp
    obtain rfl := (Prod.mk.inj (Option.some.inj hs)).1
    obtain ⟨b,hb,hle⟩ := hexp
    have hbound := h.bound
    rw [Option.mem_def.mp hb] at hbound
    exact ⟨h.past,expired_bound hle hbound,h.limit⟩
  | arrive =>
    obtain rfl := (Prod.mk.inj (Option.some.inj hs)).1
    exact ⟨h.past,h.bound,h.limit⟩
  | allow i failed =>
    obtain ⟨r,-,heq⟩ := Option.map_eq_some_iff.mp hs
    obtain rfl := (Prod.mk.inj heq).1
    exact metered_allow hn hD h i r failed
  | finish i status =>
    obtain ⟨r,-,heq⟩ := Option.map_eq_some_iff.mp hs
    obtain rfl := (Prod.mk.inj heq).1
    unfold RedisState.finish
    split_ifs <;> exact ⟨h.past,h.bound,h.limit⟩
  | refund i =>
    obtain ⟨r,-,heq⟩ := Option.map_eq_some_iff.mp hs
    obtain rfl := (Prod.mk.inj heq).1
    exact ⟨h.past,h.bound,h.limit⟩

lemma within_of_nonpos {W : ℤ} (hW : W≤0) (x : ℤ) (l : List ℤ) : within W x l = 0 := by
  apply List.countP_eq_zero.mpr
  intro t _
  simp only [decide_eq_true_eq]
  omega

/-- The bucket admits fewer requests into a window than two full buckets would. -/
lemma redis_totalRule (cfg : Limits) (now : ℤ) (ops : List RedisOp) : (redisSystem cfg).Always
    (fun c => TotalRule cfg (2*cfg.totalMaxCount-1) (c.state.view cfg)) ⟨.init now,[]⟩ ops := by
  by_cases hpos : 0 < cfg.totalMaxCount ∧ 0 < cfg.duration
  · have hinv : (redisSystem cfg).Always (fun c => Metered cfg c.state) ⟨.init now,[]⟩ ops := by
      apply TxSystem.always_of_step
      · refine ⟨by simp [RedisState.init],?_,?_⟩
        · intro x hx
          simp only [RedisState.init,after,List.countP_nil,Nat.cast_zero,mul_zero] at hx ⊢
          exact mul_nonneg (by positivity) (by omega)
        · intro x
          simp only [RedisState.init,within,List.countP_nil]
          omega
      · exact fun d op s' es hd hs => metered_step hpos.1 hpos.2 hd hs
    apply hinv.mono
    intro c hc _ x
    exact Nat.le_sub_one_of_lt (hc.limit x)
  · apply TxSystem.always_of_forall
    intro c hn x
    rw [within_of_nonpos (by omega)]
    exact Nat.zero_le _

end

/-! ## The queues in memory -/

section
variable {n : ℕ} {D now : ℤ} {queue : Option (List ℤ)} {log : List ℤ}

/-- The queue holds every moment of the log that still counts, the oldest first, and not too many. -/
structure Queued (n : ℕ) (D now : ℤ) (queue : Option (List ℤ)) (log : List ℤ) : Prop where
  sorted : (queue.getD []).Pairwise (·≤·)
  past : ∀ t∈queue.getD [], t≤now
  short : (queue.getD []).length≤n
  covered : Covered (now-D) log (queue.getD [])
  limit : ∀ x, within D x log≤n

lemma Queued.empty (n : ℕ) (D now : ℤ) : Queued n D now none [] :=
  ⟨List.Pairwise.nil,by simp,Nat.zero_le _,.refl _ _,fun _ => Nat.zero_le _⟩

lemma Queued.later (h : Queued n D now queue log) (seconds : ℕ) : Queued n D (now+seconds) queue log :=
  ⟨h.sorted,fun t ht => (h.past t ht).trans (by simp),h.short,h.covered.later (by omega),h.limit⟩

/-- A moment is put at the end of what is kept of the queue. -/
lemma Queued.push {kept : List ℤ} (h : Queued n D now queue log) (hsub : kept.Sublist (queue.getD []))
    (hcov : Covered (now-D) log kept) (hlen : kept.length<n) : Queued n D now (some (kept++[now])) (now::log) := by
  constructor
  case sorted =>
    apply List.pairwise_append.mpr
    refine ⟨h.sorted.sublist hsub,List.pairwise_singleton _ _,?_⟩
    intro t ht u hu
    rw [List.mem_singleton.mp hu]
    exact h.past t (hsub.subset ht)
  case past =>
    intro t ht
    rcases List.mem_append.mp ht with ht | ht
    · exact h.past t (hsub.subset ht)
    · exact (List.mem_singleton.mp ht).le
  case short =>
    simp only [Option.getD_some,List.length_append,List.length_singleton]
    omega
  case covered =>
    apply (hcov.cons now).trans_eq
    intro d _
    exact after_perm (List.perm_append_singleton now kept)
  case limit =>
    exact within_cons_le h.limit (((hcov _ le_rfl).trans (after_le_length _ _)).trans_lt hlen)

/-- The limiter keeps the queue, and writes down what it lets through. -/
lemma Queued.request (hn : 0 < n) (h : Queued n D now queue log) :
    Queued n D now (some (InMemoryRateLimiter.request n D now queue).1)
      (if (InMemoryRateLimiter.request n D now queue).2 then now::log else log) := by
  unfold InMemoryRateLimiter.request
  cases queue with
  | none => exact h.push (List.Sublist.refl _) h.covered hn
  | some q =>
    simp only
    by_cases hlen : q.length<n
    · simp only [if_pos hlen,if_true]
      exact h.push (List.Sublist.refl _) h.covered hlen
    · simp only [if_neg hlen]
      by_cases hold : D≤now-q.headD now
      · simp only [if_pos hold,if_true]
        cases q with
        | nil => exact absurd hn hlen
        | cons oldest rest =>
          have hshort := h.short
          simp only [Option.getD_some,List.length_cons,List.headD_cons] at hshort hold
          refine h.push (List.sublist_cons_self oldest rest) (h.covered.trans_eq ?_) (by simpa using hshort)
          intro d hd
          rw [Option.getD_some,after_cons,if_neg (by omega),add_zero,List.tail_cons]
      · simp only [if_neg hold,Bool.false_eq_true,if_false]
        exact h

/-- A queue that is thrown away has nothing that counts. -/
lemma Queued.clear (h : Queued n D now queue log) :
    Queued n D now (queue.filter (fun q => now-q.getLastD now≤D ∧ q≠[])) log := by
  cases queue with
  | none => exact h
  | some q =>
    rw [Option.filter_some]
    split_ifs with hkeep
    · exact h
    · refine ⟨List.Pairwise.nil,by simp,Nat.zero_le _,?_,h.limit⟩
      apply h.covered.trans_eq
      intro d hd
      change 0 = after d q
      symm
      apply after_eq_zero
      intro t ht
      have hne := List.ne_nil_of_mem ht
      have hsorted : (q.dropLast++[q.getLast hne]).Pairwise (·≤·) := by
        rw [List.dropLast_append_getLast]
        exact h.sorted
      have hlast : t≤q.getLast hne := by
        rw [←List.dropLast_append_getLast hne,List.mem_append,List.mem_singleton] at ht
        rcases ht with ht | ht
        · exact (List.pairwise_append.mp hsorted).2.2 t ht _ (List.mem_singleton_self _)
        · exact ht.le
      have hgone : ¬now-q.getLastD now≤D := by
        intro hle
        exact hkeep (decide_eq_true ⟨hle,hne⟩)
      rw [List.getLastD_eq_getLast?,List.getLast?_eq_getLast_of_ne_nil hne,Option.getD_some] at hgone
      omega

end

section
variable {cfg : Limits} {s s' : MemoryState}

variable (cfg s) in
lemma ask_total_other {k : MemoryKey} (hk : k≠.total) (m : ℕ) : (s.askIf cfg k m).1.store .total = s.store .total := by
  unfold MemoryState.askIf MemoryState.ask
  split_ifs
  · rfl
  · exact Function.update_of_ne hk.symm _ _

variable (cfg) in
lemma askIf_rest (s : MemoryState) (k : MemoryKey) (m : ℕ) :
    (s.askIf cfg k m).1.now = s.now ∧ (s.askIf cfg k m).1.admitted = s.admitted := by
  unfold MemoryState.askIf
  split_ifs <;> exact ⟨rfl,rfl⟩

/-- What the queue of all requests tells of the admitted ones. -/
def TotalQueued (cfg : Limits) (s : MemoryState) : Prop :=
  Queued cfg.totalMaxCount cfg.duration s.now (s.store .total) s.admitted

lemma totalQueued_of_same (h : TotalQueued cfg s) (hnow : s'.now = s.now) (hstore : s'.store .total = s.store .total)
    (hadmitted : s'.admitted = s.admitted) : TotalQueued cfg s' := by
  unfold TotalQueued
  rw [hnow,hstore,hadmitted]
  exact h

lemma totalQueued_arrive (hn : 0 < cfg.totalMaxCount) (h : TotalQueued cfg s) : TotalQueued cfg (s.arrive cfg) := by
  have hrequest := Queued.request hn h
  unfold MemoryState.arrive MemoryState.askIf MemoryState.ask
  rw [if_neg hn.ne']
  revert hrequest
  generalize InMemoryRateLimiter.request cfg.totalMaxCount cfg.duration s.now (s.store .total) = answer
  obtain ⟨q,ok⟩ := answer
  intro hrequest
  cases ok <;> simpa [TotalQueued] using hrequest

lemma totalQueued_step (hn : 0 < cfg.totalMaxCount) {op : MemoryOp} {es : List Empty} (h : TotalQueued cfg s)
    (hs : (memorySystem cfg).step s op = some (s',es)) : TotalQueued cfg s' := by
  cases op with
  | tick seconds =>
    obtain rfl := (Prod.mk.inj (Option.some.inj hs)).1
    exact Queued.later h seconds
  | clear =>
    obtain rfl := (Prod.mk.inj (Option.some.inj hs)).1
    unfold MemoryState.clear
    split_ifs
    · exact h
    · exact Queued.clear h
  | arrive =>
    obtain rfl := (Prod.mk.inj (Option.some.inj hs)).1
    exact totalQueued_arrive hn h
  | check i =>
    obtain ⟨r,-,heq⟩ := Option.map_eq_some_iff.mp hs
    obtain rfl := (Prod.mk.inj heq).1
    obtain ⟨hnow,hadmitted⟩ := askIf_rest cfg s .successCheck cfg.successMaxCount
    have hstore := ask_total_other cfg s (k:=.successCheck) (by decide) cfg.successMaxCount
    unfold MemoryState.check
    simp only
    split_ifs <;> exact totalQueued_of_same h hnow hstore hadmitted
  | finish i status =>
    obtain ⟨r,-,heq⟩ := Option.map_eq_some_iff.mp hs
    obtain rfl := (Prod.mk.inj heq).1
    obtain ⟨hnow,hadmitted⟩ := askIf_rest cfg s .success cfg.successMaxCount
    have hstore := ask_total_other cfg s (k:=.success) (by decide) cfg.successMaxCount
    unfold MemoryState.finish
    split_ifs
    · exact totalQueued_of_same h hnow hstore hadmitted
    · exact h

/-- In memory no window has more admitted requests than the limit. -/
lemma memory_totalRule (cfg : Limits) (now : ℤ) (ops : List MemoryOp) : (memorySystem cfg).Always
    (fun c => TotalRule cfg cfg.totalMaxCount (c.state.view cfg)) ⟨.init now,[]⟩ ops := by
  by_cases hpos : 0 < cfg.totalMaxCount
  · have hinv : (memorySystem cfg).Always (fun c => TotalQueued cfg c.state) ⟨.init now,[]⟩ ops := by
      apply TxSystem.always_of_step
      · exact .empty _ _ _
      · exact fun d op s' es hd hs => totalQueued_step hpos hd hs
    exact hinv.mono (fun c hc _ => hc.limit)
  · exact TxSystem.always_of_forall (fun c hn => absurd hn hpos) _ _

end

/-- Two requests a minute, of which one may succeed. -/
def twoAMinute : Limits := ⟨60,2,1⟩

/-- Two requests empty the bucket; half a minute later there is enough for a third one. -/
def refilledBucket : List RedisOp :=
  [.arrive,.allow 0 false,.finish 0 500,.arrive,.allow 0 false,.finish 0 500,.tick 30,.arrive,.allow 0 false]

/-- A failed request keeps its place in the queue of the check. -/
def failedInMemory : List MemoryOp := [.arrive,.check 0,.finish 0 500]

end RateLimit
end Tierflow
