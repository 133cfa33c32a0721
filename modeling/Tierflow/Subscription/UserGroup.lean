import Tierflow.Subscription.Effects

/-! The group of a user while subscriptions that raise it come and go. -/
namespace Tierflow
open TxSystem

/-- An active subscription of a user that came with a group. -/
def RaisedBy (u : ℕ) (s : Store) (k : ℕ) (sub : UserSubscription) : Prop :=
  s.subscriptions.find? k = some sub ∧ sub.userId=u ∧ sub.status = .active ∧ sub.upgradeGroup≠""

/-- A group name as operators write it. -/
def PlainGroup (g : String) : Prop := Text.trimSpace g = g ∧ g≠""

/-- Without an active subscription, a user has his own group. -/
def OwnGroup (u : ℕ) (g : String) (c : Config Store SubscriptionEvent) : Prop :=
  (∀ k sub, c.state.subscriptions.find? k = some sub → sub.userId=u → sub.status≠.active) →
    userGroup c.state.users u = some g

/-- No operation creates a subscription with a group for a user while he has another one that is
active, and none replaces a subscription with a group. -/
def OneGroupAtATime (u : ℕ) (c : Config Store SubscriptionEvent) (op : SubscriptionOp) : Prop :=
  ∀ new∈op.creation? c.state, new.user=u →
    (∀ old∈c.state.subscriptions.find? new.source, old.upgradeGroup = "") ∧
    (Text.trimSpace new.plan.upgradeGroup≠"" →
      ∀ r∈c.state.subscriptions.rows, ¬(r.2.userId=u ∧ r.2.status = .active ∧ r.2.upgradeGroup≠""))

instance (u : ℕ) (c : Config Store SubscriptionEvent) (op : SubscriptionOp) : Decidable (OneGroupAtATime u c op) := by
  unfold OneGroupAtATime; infer_instance

/-- A subscription remembers the own group `g` of its user, unless it came without a group or with `g`. -/
def Remembers (g : String) (sub : UserSubscription) : Prop :=
  Text.trimSpace sub.upgradeGroup = sub.upgradeGroup ∧
    (sub.prevUserGroup=g ∨ sub.prevUserGroup = "" ∧ (sub.upgradeGroup = "" ∨ sub.upgradeGroup=g))

/-- One subscription at a time raises the group, and that one ends after all that have expired. -/
structure GroupKept (u : ℕ) (g : String) (s : Store) : Prop where
  rows : ∀ k sub, s.subscriptions.find? k = some sub → sub.userId=u → Remembers g sub
  unique : ∀ j k x y, RaisedBy u s j x → RaisedBy u s k y → j=k
  ended : ∀ r x, s.subscriptions.find? r = some x → x.userId=u → x.status = .expired → x.upgradeGroup≠"" →
    x.endTime ≤ s.dbTime
  last : ∀ k y, RaisedBy u s k y → ∀ r x, s.subscriptions.find? r = some x → x.userId=u → x.status = .expired →
    x.upgradeGroup≠"" → x.endTime<y.endTime
  raised : ∀ k y, RaisedBy u s k y → userGroup s.users u = some g ∨ userGroup s.users u = some y.upgradeGroup
  own : (∀ k y, ¬RaisedBy u s k y) → userGroup s.users u = some g

section Steps
variable {u : ℕ} {g : String} {s s' : Store}

/-- Only the subscriptions and the group of the user matter. -/
lemma GroupKept.congr (h : GroupKept u g s)
    (hrows : ∀ k sub, sub.userId=u → (s'.subscriptions.find? k = some sub ↔ s.subscriptions.find? k = some sub))
    (hgroup : userGroup s'.users u = userGroup s.users u) (htime : s.dbTime ≤ s'.dbTime) : GroupKept u g s' := by
  have hraised : ∀ {k y}, RaisedBy u s' k y → RaisedBy u s k y := by
    intro k y hy
    exact ⟨(hrows k y hy.2.1).mp hy.1,hy.2⟩
  constructor
  · intro k sub hk hu
    exact h.rows k sub ((hrows k sub hu).mp hk) hu
  · intro j k x y hx hy
    exact h.unique j k x y (hraised hx) (hraised hy)
  · intro r x hr hu hst hg
    exact (h.ended r x ((hrows r x hu).mp hr) hu hst hg).trans htime
  · intro k y hy r x hr hu hst hg
    exact h.last k y (hraised hy) r x ((hrows r x hu).mp hr) hu hst hg
  · intro k y hy
    rw [hgroup]
    exact h.raised k y (hraised hy)
  · intro hnone
    rw [hgroup]
    apply h.own
    intro k y hy
    exact hnone k y ⟨(hrows k y hy.2.1).mpr hy.1,hy.2⟩

/-- A user who falls back keeps the group that he has or returns to his own. -/
lemma fellBack_group {sub : UserSubscription} {users users' : Table User} {blocked : Prop} {x : String}
    (hg : PlainGroup g) (hrow : Remembers g sub)
    (h : FellBack users users' u (Text.trimSpace sub.upgradeGroup) (Text.trimSpace sub.prevUserGroup) blocked)
    (huser : userGroup users u = some x) : userGroup users' u = some x ∨ userGroup users' u = some g := by
  cases h with
  | kept _ hv => exact .inl (by rw [hv,huser])
  | restored _ hprev hv =>
    right
    rcases hrow.2 with hp | ⟨hp,-⟩
    · rw [hv,if_pos rfl,huser,Option.map_some,hp,hg.1]
    · rw [hp,Text.trimSpace_empty] at hprev
      exact absurd rfl hprev

/-- When nothing else holds his group up, he returns to his own. -/
lemma fellBack_own {sub : UserSubscription} {users users' : Table User} {blocked : Prop} (hg : PlainGroup g)
    (hrow : Remembers g sub) (hup : sub.upgradeGroup≠"") (hfree : ¬blocked)
    (h : FellBack users users' u (Text.trimSpace sub.upgradeGroup) (Text.trimSpace sub.prevUserGroup) blocked)
    (huser : userGroup users u = some g ∨ userGroup users u = some sub.upgradeGroup) :
    userGroup users' u = some g := by
  rcases huser with huser | huser
  · rcases fellBack_group hg hrow h huser with h | h <;> exact h
  · cases h with
    | kept hwhy hv =>
      rw [hv,huser]
      rw [hrow.1,huser,Option.getD_some] at hwhy
      rcases hwhy with hwhy | hwhy | hwhy | hwhy | hwhy
      · exact absurd hwhy hup
      · exact absurd rfl hwhy
      · exact absurd hwhy hfree
      · rcases hrow.2 with hp | ⟨-,hp | hp⟩
        · rw [hp,hg.1] at hwhy
          exact absurd hwhy hg.2
        · exact absurd hp hup
        · rw [hp]
      · rcases hrow.2 with hp | ⟨-,hp | hp⟩
        · rw [hp,hg.1] at hwhy
          rw [hwhy]
        · exact absurd hp hup
        · rw [hp]
    | restored _ hprev hv =>
      rcases hrow.2 with hp | ⟨hp,-⟩
      · rw [hv,if_pos rfl,huser,Option.map_some,hp,hg.1]
      · rw [hp,Text.trimSpace_empty] at hprev
        exact absurd rfl hprev

/-- The group of a user is his own or that of his raising subscription, whatever is active. -/
lemma GroupKept.group (h : GroupKept u g s) : ∃ x, userGroup s.users u = some x := by
  by_cases hr : ∃ k y, RaisedBy u s k y
  · obtain ⟨k,y,hy⟩ := hr
    rcases h.raised k y hy with hu | hu
    · exact ⟨_,hu⟩
    · exact ⟨_,hu⟩
  · push Not at hr
    exact ⟨g,h.own hr⟩

/-- One subscription ends: by cancellation or by deletion. -/
lemma GroupKept.end_one (h : GroupKept u g s) (hg : PlainGroup g) {id : ℕ} {sub : UserSubscription} {blocked : Prop}
    (hk : s.subscriptions.find? id = some sub)
    (hrest : ∀ j, j≠id → s'.subscriptions.find? j = s.subscriptions.find? j)
    (hid : ∀ y, s'.subscriptions.find? id = some y → y.userId=sub.userId ∧ y.upgradeGroup=sub.upgradeGroup ∧
      y.prevUserGroup=sub.prevUserGroup ∧ y.status = .cancelled)
    (hfell : FellBack s.users s'.users sub.userId (Text.trimSpace sub.upgradeGroup) (Text.trimSpace sub.prevUserGroup)
      blocked)
    (hblocked : blocked → ∃ j y, j≠id ∧ RaisedBy sub.userId s j y) (htime : s.dbTime ≤ s'.dbTime) :
    GroupKept u g s' := by
  by_cases hu : sub.userId=u
  swap
  · apply h.congr
    · intro k y hy
      by_cases hkid : k=id
      · subst k
        constructor
        · intro hf
          exact absurd ((hid y hf).1.symm.trans hy) hu
        · intro hf
          obtain rfl := Option.some.inj (hk.symm.trans hf)
          exact absurd hy hu
      · rw [hrest k hkid]
    · cases hfell with
      | kept _ hv => exact hv u
      | restored _ _ hv => rw [hv,if_neg (fun he => hu he.symm)]
    · exact htime
  subst hu
  have hsub := h.rows id sub hk rfl
  have hraised : ∀ {k y}, RaisedBy sub.userId s' k y → k≠id ∧ RaisedBy sub.userId s k y := by
    intro k y hy
    have hne : k≠id := by
      rintro rfl
      have hc := (hid y hy.1).2.2.2
      rw [hy.2.2.1] at hc
      contradiction
    exact ⟨hne,by rw [←hrest k hne]; exact hy.1,hy.2⟩
  have hexpired : ∀ {r x}, s'.subscriptions.find? r = some x → x.status = .expired →
      s.subscriptions.find? r = some x := by
    intro r x hr hst
    have hne : r≠id := by
      rintro rfl
      have hc := (hid x hr).2.2.2
      rw [hst] at hc
      contradiction
    rw [←hrest r hne]
    exact hr
  constructor
  · intro k y hy hyu
    by_cases hkid : k=id
    · subst k
      obtain ⟨-,hug,hprev,-⟩ := hid y hy
      unfold Remembers
      rw [hug,hprev]
      exact hsub
    · rw [hrest k hkid] at hy
      exact h.rows k y hy hyu
  · intro j k x y hx hy
    exact h.unique j k x y (hraised hx).2 (hraised hy).2
  · intro r x hr hxu hst hxg
    exact (h.ended r x (hexpired hr hst) hxu hst hxg).trans htime
  · intro k y hy r x hr hxu hst hxg
    exact h.last k y (hraised hy).2 r x (hexpired hr hst) hxu hst hxg
  · intro k y hy
    rcases h.raised k y (hraised hy).2 with hgr | hgr
    · left
      rcases fellBack_group hg hsub hfell hgr with h' | h' <;> exact h'
    · rcases fellBack_group hg hsub hfell hgr with h' | h'
      · exact .inr h'
      · exact .inl h'
  · intro hnone
    have hkeep : ∀ {j y}, j≠id → ¬RaisedBy sub.userId s j y := by
      intro j y hj hy
      exact hnone j y ⟨by rw [hrest j hj]; exact hy.1,hy.2⟩
    by_cases hrid : RaisedBy sub.userId s id sub
    · apply fellBack_own hg hsub hrid.2.2.2 _ hfell (h.raised id sub hrid)
      intro hb
      obtain ⟨j,y,hj,hy⟩ := hblocked hb
      exact hkeep hj hy
    · have hown : userGroup s.users sub.userId = some g := by
        apply h.own
        intro j y hy
        by_cases hj : j=id
        · subst j
          obtain rfl := Option.some.inj (hk.symm.trans hy.1)
          exact hrid hy
        · exact hkeep hj hy
      rcases fellBack_group hg hsub hfell hown with h' | h' <;> exact h'

/-- A subscription without a group ends by an upgrade. -/
lemma GroupKept.replace (h : GroupKept u g s) {id : ℕ} {sub : UserSubscription} (now : ℤ)
    (hk : s.subscriptions.find? id = some sub) (hplain : sub.userId=u → sub.upgradeGroup = "") :
    GroupKept u g (disableTokensBySubscriptionIdsTx (cancelSubscription s id now) [id]) := by
  have hfind : ∀ {j y}, (cancelSubscription s id now).subscriptions.find? j = some y → y.userId=u →
      y.upgradeGroup≠"" → s.subscriptions.find? j = some y := by
    intro j y hy hyu hyg
    rw [cancelSubscription,Table.find?_updateWhere] at hy
    obtain ⟨x,hx,hy⟩ := Option.map_eq_some_iff.mp hy
    split_ifs at hy with hj
    · obtain rfl : j=id := by simpa using hj
      obtain rfl := Option.some.inj (hk.symm.trans hx)
      subst y
      exact absurd (hplain hyu) hyg
    · rw [hx,hy]
  have hraised : ∀ {j y}, RaisedBy u (cancelSubscription s id now) j y → RaisedBy u s j y := by
    intro j y hy
    exact ⟨hfind hy.1 hy.2.1 hy.2.2.2,hy.2⟩
  constructor
  · intro k y hy hyu
    by_cases hyg : y.upgradeGroup = ""
    · change (cancelSubscription s id now).subscriptions.find? k = some y at hy
      rw [cancelSubscription,Table.find?_updateWhere] at hy
      obtain ⟨x,hx,rfl⟩ := Option.map_eq_some_iff.mp hy
      have hsplit : ∀ b : Bool, Remembers g x → Remembers g
          (if b then { x with status := .cancelled, endTime := now } else x) := by
        intro b hxr
        cases b <;> exact hxr
      apply hsplit
      apply h.rows k x hx
      revert hyu
      split_ifs <;> exact fun hxu => hxu
    · exact h.rows k y (hfind hy hyu hyg) hyu
  · intro j k x y hx hy
    exact h.unique j k x y (hraised hx) (hraised hy)
  · intro r x hr hu hst hxg
    exact h.ended r x (hfind hr hu hxg) hu hst hxg
  · intro k y hy r x hr hu hst hxg
    exact h.last k y (hraised hy) r x (hfind hr hu hxg) hu hst hxg
  · intro k y hy
    exact h.raised k y (hraised hy)
  · intro hnone
    apply h.own
    intro k y hy
    have hne : k≠id := by
      rintro rfl
      obtain rfl := Option.some.inj (hk.symm.trans hy.1)
      exact hy.2.2.2 (hplain hy.2.1)
    refine hnone k y ⟨?_,hy.2⟩
    simp [disableTokensBySubscriptionIdsTx,cancelSubscription,hy.1,hne]

section Creation
variable {tz : ℤ} {p k v : ℕ} {plan : SubscriptionPlan} {source : SubscriptionSource}

lemma Created.fresh (hc : Created tz s s' v p plan source k) : s.subscriptions.find? k = none := by
  rw [hc.key]
  exact Table.find?_next _

lemma Created.find_of_ne (hc : Created tz s s' v p plan source k) {j : ℕ} (hj : j≠k) :
    s'.subscriptions.find? j = s.subscriptions.find? j := by
  obtain ⟨endTime,prev,-,hsubs,-⟩ := hc.row
  rw [hsubs,Table.find?_insert_of_ne _ _ (by rwa [←hc.key])]

lemma Created.find_self (hc : Created tz s s' v p plan source k) :
    ∃ endTime prev, s.dbTime<endTime ∧
      s'.subscriptions.find? k = some (newUserSubscription tz s.dbTime v p plan source endTime prev) ∧
      Raised s.users s'.users v (Text.trimSpace plan.upgradeGroup) prev := by
  obtain ⟨endTime,prev,hend,hsubs,-,hr⟩ := hc.row
  refine ⟨endTime,prev,hend,?_,hr⟩
  rw [hsubs,hc.key]
  exact Table.find?_insert_self _ _

lemma GroupKept.create_other (h : GroupKept u g s) (hc : Created tz s s' v p plan source k) (hv : v≠u) :
    GroupKept u g s' := by
  obtain ⟨endTime,prev,-,hnew,hr⟩ := hc.find_self
  apply h.congr
  · intro j y hy
    by_cases hj : j=k
    · subst j
      rw [hnew,hc.fresh]
      constructor
      · intro he
        obtain rfl := Option.some.inj he
        exact absurd hy hv
      · intro he
        contradiction
    · rw [hc.find_of_ne hj]
  · cases hr with
    | kept _ _ hw => exact hw u
    | raised _ _ _ hw => rw [hw,if_neg (fun he => hv he.symm)]
  · exact hc.dbTime.ge

/-- A subscription without a group changes nothing. -/
lemma GroupKept.create_plain (h : GroupKept u g s) (hc : Created tz s s' u p plan source k)
    (hup : Text.trimSpace plan.upgradeGroup = "") : GroupKept u g s' := by
  obtain ⟨endTime,prev,-,hnew,hr⟩ := hc.find_self
  have hold : ∀ {j y}, s'.subscriptions.find? j = some y → y.upgradeGroup≠"" →
      s.subscriptions.find? j = some y := by
    intro j y hy hyg
    have hj : j≠k := by
      rintro rfl
      obtain rfl := Option.some.inj (hnew.symm.trans hy)
      exact hyg hup
    rw [←hc.find_of_ne hj]
    exact hy
  have hraised : ∀ {j y}, RaisedBy u s' j y → RaisedBy u s j y := by
    intro j y hy
    exact ⟨hold hy.1 hy.2.2.2,hy.2⟩
  obtain ⟨hprev,hgroup⟩ : prev = "" ∧ ∀ w, userGroup s'.users w = userGroup s.users w := by
    cases hr with
    | kept _ hp hw => exact ⟨hp,hw⟩
    | raised hne => exact absurd hup hne
  constructor
  · intro j y hy hyu
    by_cases hj : j=k
    · subst j
      obtain rfl := Option.some.inj (hnew.symm.trans hy)
      exact ⟨Text.trimSpace_idem _,.inr ⟨hprev,.inl hup⟩⟩
    · rw [hc.find_of_ne hj] at hy
      exact h.rows j y hy hyu
  · intro i j x y hx hy
    exact h.unique i j x y (hraised hx) (hraised hy)
  · intro r x hx hxu hst hxg
    rw [hc.dbTime]
    exact h.ended r x (hold hx hxg) hxu hst hxg
  · intro j y hy r x hx hxu hst hxg
    exact h.last j y (hraised hy) r x (hold hx hxg) hxu hst hxg
  · intro j y hy
    rw [hgroup]
    exact h.raised j y (hraised hy)
  · intro hnone
    rw [hgroup]
    apply h.own
    intro j y hy
    have hj : j≠k := by
      rintro rfl
      exact nomatch hc.fresh.symm.trans hy.1
    exact hnone j y ⟨by rw [hc.find_of_ne hj]; exact hy.1,hy.2⟩

/-- The user has his own group when one is raised, and it is remembered. -/
lemma GroupKept.create_raised (h : GroupKept u g s) (hc : Created tz s s' u p plan source k)
    (hup : Text.trimSpace plan.upgradeGroup≠"") (hbase : ∀ j y, ¬RaisedBy u s j y) : GroupKept u g s' := by
  obtain ⟨endTime,prev,hend,hnew,hr⟩ := hc.find_self
  have hown := h.own hbase
  have honly : ∀ {j y}, RaisedBy u s' j y → j=k := by
    intro j y hy
    by_contra hj
    exact hbase j y ⟨by rw [←hc.find_of_ne hj]; exact hy.1,hy.2⟩
  have hself : RaisedBy u s' k (newUserSubscription tz s.dbTime u p plan source endTime prev) := ⟨hnew,rfl,rfl,hup⟩
  have hexpired : ∀ {r x}, s'.subscriptions.find? r = some x → x.status = .expired →
      s.subscriptions.find? r = some x := by
    intro r x hx hst
    have hj : r≠k := by
      rintro rfl
      obtain rfl := Option.some.inj (hnew.symm.trans hx)
      exact nomatch hst
    rw [←hc.find_of_ne hj]
    exact hx
  obtain ⟨hprev,hgroup⟩ : (prev=g ∨ prev = "" ∧ Text.trimSpace plan.upgradeGroup = g) ∧
      (userGroup s'.users u = some g ∨ userGroup s'.users u = some (Text.trimSpace plan.upgradeGroup)) := by
    cases hr with
    | kept hwhy hp hw =>
      rw [hown,Option.getD_some] at hwhy
      rcases hwhy with hwhy | hwhy
      · exact absurd hwhy hup
      · exact ⟨.inr ⟨hp,hwhy.symm⟩,.inl (by rw [hw,hown])⟩
    | raised _ hp _ hw =>
      rw [hown,Option.getD_some] at hp
      exact ⟨.inl hp.symm,.inr (by rw [hw,if_pos rfl,hown]; rfl)⟩
  constructor
  · intro j y hy hyu
    by_cases hj : j=k
    · subst j
      obtain rfl := Option.some.inj (hnew.symm.trans hy)
      refine ⟨Text.trimSpace_idem _,?_⟩
      rcases hprev with hp | ⟨hp,hp'⟩
      · exact .inl hp
      · exact .inr ⟨hp,.inr hp'⟩
    · rw [hc.find_of_ne hj] at hy
      exact h.rows j y hy hyu
  · intro i j x y hx hy
    rw [honly hx,honly hy]
  · intro r x hx hxu hst hxg
    rw [hc.dbTime]
    exact h.ended r x (hexpired hx hst) hxu hst hxg
  · intro j y hy r x hx hxu hst hxg
    obtain rfl := honly hy
    obtain rfl := Option.some.inj (hnew.symm.trans hy.1)
    exact (h.ended r x (hexpired hx hst) hxu hst hxg).trans_lt hend
  · intro j y hy
    obtain rfl := honly hy
    obtain rfl := Option.some.inj (hnew.symm.trans hy.1)
    exact hgroup
  · exact fun hnone => absurd hself (hnone _ _)

lemma GroupKept.create (h : GroupKept u g s) (hc : Created tz s s' v p plan source k)
    (hfree : v=u → Text.trimSpace plan.upgradeGroup≠"" → ∀ j y, ¬RaisedBy u s j y) : GroupKept u g s' := by
  by_cases hv : v=u
  · subst hv
    by_cases hup : Text.trimSpace plan.upgradeGroup = ""
    · exact h.create_plain hc hup
    · exact h.create_raised hc hup (hfree rfl hup)
  · exact h.create_other hc hv

end Creation

section Expiry
variable {now : ℤ} {v : ℕ}

/-- A row after a round of expirations: the old one, unless that was due. -/
lemma expireDueRows_find {j : ℕ} {y : UserSubscription} (h : (expireDueRows s now v).subscriptions.find? j = some y) :
    ∃ x, s.subscriptions.find? j = some x ∧
      (isDue v now (j,x) = false ∧ y = x ∨ isDue v now (j,x) = true ∧ y = { x with status := .expired }) := by
  change (s.subscriptions.updateWhere _ _).find? j = some y at h
  rw [Table.find?_updateWhere] at h
  obtain ⟨x,hx,h⟩ := Option.map_eq_some_iff.mp h
  refine ⟨x,hx,?_⟩
  by_cases hd : isDue v now (j,x)
  · rw [if_pos hd] at h
    exact .inr ⟨hd,h.symm⟩
  · rw [if_neg hd] at h
    exact .inl ⟨by simpa using hd,h.symm⟩

lemma expireDueRows_of_due {j : ℕ} {x : UserSubscription} (hx : s.subscriptions.find? j = some x)
    (hd : isDue v now (j,x) = true) :
    (expireDueRows s now v).subscriptions.find? j = some { x with status := .expired } := by
  change (s.subscriptions.updateWhere _ _).find? j = _
  rw [Table.find?_updateWhere,hx,Option.map_some,if_pos hd]

lemma expireDueRows_of_not_due {j : ℕ} {x : UserSubscription} (hx : s.subscriptions.find? j = some x)
    (hd : isDue v now (j,x) = false) : (expireDueRows s now v).subscriptions.find? j = some x := by
  change (s.subscriptions.updateWhere _ _).find? j = _
  rw [Table.find?_updateWhere,hx,Option.map_some,if_neg (by simp [hd])]

/-- Other users' rows are not due. -/
lemma expireDueRows_other (hv : v≠u) {j : ℕ} {y : UserSubscription} (hy : y.userId=u) :
    (expireDueRows s now v).subscriptions.find? j = some y ↔ s.subscriptions.find? j = some y := by
  constructor
  · intro h
    obtain ⟨x,hx,⟨-,rfl⟩ | ⟨hd,rfl⟩⟩ := expireDueRows_find h
    · exact hx
    · exact absurd ((of_decide_eq_true hd).1.symm.trans hy) hv
  · intro h
    have hd : isDue v now (j,y) = false := decide_eq_false (fun hd => hv (hd.1.symm.trans hy))
    exact expireDueRows_of_not_due h hd

lemma lastExpired_eq_none (h : lastExpired s v = none) {j : ℕ} {y : UserSubscription}
    (hy : s.subscriptions.find? j = some y) : ¬(y.userId=v ∧ y.status = .expired ∧ y.upgradeGroup≠"") := by
  have hspec := Table.latest?_spec (s.subscriptions.select
    (fun r => r.2.userId=v ∧ r.2.status = .expired ∧ r.2.upgradeGroup≠"")) UserSubscription.endTime
  unfold lastExpired at h
  rw [h] at hspec
  have hnot := Table.select_eq_nil_iff.mp hspec j y hy
  exact of_decide_eq_false hnot

lemma lastExpired_eq_some {id : ℕ} {last : UserSubscription} (h : lastExpired s v = some (id,last)) :
    (s.subscriptions.find? id = some last ∧ last.userId=v ∧ last.status = .expired ∧ last.upgradeGroup≠"") ∧
      ∀ r x, s.subscriptions.find? r = some x → x.userId=v → x.status = .expired → x.upgradeGroup≠"" →
        x.endTime≤last.endTime := by
  have hspec := Table.latest?_spec (s.subscriptions.select
    (fun r => r.2.userId=v ∧ r.2.status = .expired ∧ r.2.upgradeGroup≠"")) UserSubscription.endTime
  unfold lastExpired at h
  rw [h] at hspec
  obtain ⟨hmem,hmax⟩ := hspec
  obtain ⟨hf,hp⟩ := Table.mem_select.mp hmem
  refine ⟨⟨hf,of_decide_eq_true hp⟩,?_⟩
  intro r x hr hxu hst hxg
  exact hmax (r,x) (Table.mem_select.mpr ⟨hr,decide_eq_true ⟨hxu,hst,hxg⟩⟩)

/-- The due subscriptions of a user expire. The last to end among the expired is the one that raised
the group, when there was one. -/
lemma GroupKept.expire (h : GroupKept u g s) (hg : PlainGroup g) (hnow : now ≤ s.dbTime)
    (hsubs : s'.subscriptions = (expireDueRows s now v).subscriptions)
    (hfell : (lastExpired (expireDueRows s now v) v = none ∧ ∀ w, userGroup s'.users w = userGroup s.users w) ∨
      ∃ id last, lastExpired (expireDueRows s now v) v = some (id,last) ∧
        FellBack s.users s'.users v (Text.trimSpace last.upgradeGroup) (Text.trimSpace last.prevUserGroup)
          (activeUpgraded (expireDueRows s now v) v 0 now).isSome)
    (htime : s'.dbTime=s.dbTime) : GroupKept u g s' := by
  by_cases hv : v=u
  swap
  · apply h.congr
    · intro j y hy
      rw [hsubs]
      exact expireDueRows_other hv hy
    · rcases hfell with ⟨-,hw⟩ | ⟨_,_,_,hf⟩
      · exact hw u
      · cases hf with
        | kept _ hw => exact hw u
        | restored _ _ hw => rw [hw,if_neg (fun he => hv he.symm)]
    · exact htime.ge
  subst hv
  have hback : ∀ {j y}, s'.subscriptions.find? j = some y → ∃ x, s.subscriptions.find? j = some x ∧
      (isDue v now (j,x) = false ∧ y = x ∨ isDue v now (j,x) = true ∧ y = { x with status := .expired }) := by
    intro j y hy
    rw [hsubs] at hy
    exact expireDueRows_find hy
  have hraised : ∀ {j y}, RaisedBy v s' j y → RaisedBy v s j y ∧ isDue v now (j,y) = false := by
    intro j y hy
    obtain ⟨x,hx,⟨hd,rfl⟩ | ⟨-,rfl⟩⟩ := hback hy.1
    · exact ⟨⟨hx,hy.2⟩,hd⟩
    · exact nomatch hy.2.2.1
  -- what is expired now was expired before or raised the group until now
  have hexpired : ∀ {r x}, s'.subscriptions.find? r = some x → x.userId=v → x.status = .expired →
      x.upgradeGroup≠"" → (s.subscriptions.find? r = some x) ∨
        (∃ y, RaisedBy v s r y ∧ isDue v now (r,y) = true ∧ x = { y with status := .expired }) := by
    intro r x hx hxu hst hxg
    obtain ⟨y,hy,⟨-,rfl⟩ | ⟨hd,rfl⟩⟩ := hback hx
    · exact .inl hy
    · have hdue := of_decide_eq_true hd
      exact .inr ⟨y,⟨hy,hxu,hdue.2.1,hxg⟩,hd,rfl⟩
  have hrow : ∀ {j y}, s'.subscriptions.find? j = some y → y.userId=v → Remembers g y := by
    intro j y hy hyu
    obtain ⟨x,hx,⟨-,rfl⟩ | ⟨-,rfl⟩⟩ := hback hy
    · exact h.rows j _ hx hyu
    · exact h.rows j x hx hyu
  have hkeep : ∀ {x}, userGroup s.users v = some x →
      userGroup s'.users v = some x ∨ userGroup s'.users v = some g := by
    intro x hx
    rcases hfell with ⟨-,hw⟩ | ⟨id,last,hl,hf⟩
    · exact .inl (by rw [hw,hx])
    · obtain ⟨⟨hf',hu,-⟩,-⟩ := lastExpired_eq_some hl
      rw [←hsubs] at hf'
      exact fellBack_group hg (hrow hf' hu) hf hx
  constructor
  · exact fun j y hy hyu => hrow hy hyu
  · intro i j x y hx hy
    exact h.unique i j x y (hraised hx).1 (hraised hy).1
  · intro r x hr hxu hst hxg
    rw [htime]
    rcases hexpired hr hxu hst hxg with hx | ⟨y,-,hd,rfl⟩
    · exact h.ended r x hx hxu hst hxg
    · exact (of_decide_eq_true hd).2.2.2.trans hnow
  · intro k y hy r x hr hxu hst hxg
    obtain ⟨hy',hnd⟩ := hraised hy
    rcases hexpired hr hxu hst hxg with hx | ⟨z,hz,hd,rfl⟩
    · exact h.last k y hy' r x hx hxu hst hxg
    · obtain rfl := h.unique r k z y hz hy'
      obtain rfl := Option.some.inj (hz.1.symm.trans hy'.1)
      rw [hnd] at hd
      contradiction
  · intro k y hy
    rcases h.raised k y (hraised hy).1 with hgr | hgr
    · rcases hkeep hgr with h' | h' <;> exact .inl h'
    · rcases hkeep hgr with h' | h'
      · exact .inr h'
      · exact .inl h'
  · intro hnone
    by_cases hr : ∃ k y, RaisedBy v s k y
    swap
    · push Not at hr
      rcases hkeep (h.own hr) with h' | h' <;> exact h'
    obtain ⟨k,y,hy⟩ := hr
    have hdue : isDue v now (k,y) = true := by
      by_contra hd
      apply hnone k y
      refine ⟨?_,hy.2⟩
      rw [hsubs]
      exact expireDueRows_of_not_due hy.1 (by simpa using hd)
    have hself := expireDueRows_of_due hy.1 hdue
    rcases hfell with ⟨hl,-⟩ | ⟨id,last,hl,hf⟩
    · exact absurd ⟨hy.2.1,rfl,hy.2.2.2⟩ (lastExpired_eq_none hl hself)
    · obtain ⟨⟨hlast,hlu,hlst,hlg⟩,hmax⟩ := lastExpired_eq_some hl
      have hself' : s'.subscriptions.find? k = some { y with status := .expired } := by
        rw [hsubs]
        exact hself
      rw [←hsubs] at hlast
      have hlast' : last = { y with status := .expired } := by
        rcases hexpired hlast hlu hlst hlg with hx | ⟨z,hz,-,rfl⟩
        · have hlt := h.last k y hy id last hx hlu hlst hlg
          have hle := hmax k _ hself hy.2.1 rfl hy.2.2.2
          exact absurd hle (not_le.mpr hlt)
        · obtain rfl := h.unique id k z y hz hy
          obtain rfl := Option.some.inj (hz.1.symm.trans hy.1)
          rfl
      subst hlast'
      apply fellBack_own hg (hrow hself' hy.2.1) hy.2.2.2 _ hf (h.raised k y hy)
      intro hact
      obtain ⟨r,hact⟩ := Option.isSome_iff_exists.mp hact
      obtain ⟨hr,hp⟩ := Table.first?_some hact
      obtain ⟨hru,hrst,-,-,hrg⟩ := of_decide_eq_true hp
      exact hnone r.1 r.2 ⟨by rw [hsubs]; exact hr,hru,hrst,hrg⟩

end Expiry

lemma groupKept_effect {tz : ℤ} {op : SubscriptionOp} {new : Option ℕ} {hist : List SubscriptionEvent}
    (h : GroupKept u g s) (hg : PlainGroup g) (hop : OneGroupAtATime u ⟨s,hist⟩ op)
    (hl : LifeEffect tz op s s' new) : GroupKept u g s' := by
  unfold OneGroupAtATime at hop
  simp only [Option.mem_def] at hop
  have hfree : ∀ {v p k : ℕ} {plan : SubscriptionPlan}, op.creation? s = some ⟨v,p,plan,k⟩ → v=u →
      Text.trimSpace plan.upgradeGroup≠"" → ∀ j y, ¬RaisedBy u s j y := by
    intro v p k plan hc hu hup j y hy
    exact (hop _ hc hu).2 hup (j,y) ((Table.mem_rows_iff _ _).mpr hy.1) hy.2
  cases hl with
  | same hs => exact h.congr (fun k sub _ => by rw [hs.subscriptions]) (hs.group u) hs.dbTime.ge
  | later hs _ hu ht => exact h.congr (fun k sub _ => by rw [hs]) (hu u) ht
  | @created v p k plan source hc hcr => exact h.create hcr (fun hv => hfree hc hv)
  | @upgraded v p id k plan sub hc hk hu _ _ hcr =>
    have hplain : sub.userId=u → sub.upgradeGroup = "" := by
      intro hsu
      exact (hop _ hc (hu.symm.trans hsu)).1 sub hk
    have h1 := h.replace s.dbTime hk hplain
    apply h1.create hcr
    intro hv hup j y hy
    -- the source came without a group, so whatever raises the group now did so before
    rw [RaisedBy,disableTokensBySubscriptionIdsTx,cancelSubscription,Table.find?_updateWhere] at hy
    obtain ⟨hy,hyu,hya,hyg⟩ := hy
    obtain ⟨x,hx,hy⟩ := Option.map_eq_some_iff.mp hy
    split_ifs at hy with hj
    · subst y
      cases hya
    · subst y
      exact hfree hc hv hup j x ⟨hx,hyu,hya,hyg⟩
  | @cancelled id sub now hk hs _ hf ht =>
    apply h.end_one hg hk _ _ hf _ ht.ge
    · intro j hj
      simp [hs,cancelSubscription,hj]
    · intro y hy
      simp only [hs,cancelSubscription,Table.find?_updateWhere,hk,Option.map_some,Option.some.injEq] at hy
      subst y
      simp
    · intro hact
      obtain ⟨r,hact⟩ := Option.isSome_iff_exists.mp hact
      obtain ⟨hr,hp⟩ := Table.first?_some hact
      obtain ⟨hru,hrst,-,hne,hrg⟩ := of_decide_eq_true hp
      refine ⟨r.1,r.2,hne,?_,hru,hrst,hrg⟩
      simpa [cancelSubscription,hne] using hr
  | @deleted id sub now hk hs _ hf ht =>
    apply h.end_one hg hk _ _ hf _ ht.ge
    · intro j hj
      rw [hs,Table.find?_delete,if_neg hj]
    · intro y hy
      rw [hs,Table.find?_delete,if_pos rfl] at hy
      contradiction
    · intro hact
      obtain ⟨r,hact⟩ := Option.isSome_iff_exists.mp hact
      obtain ⟨hr,hp⟩ := Table.first?_some hact
      obtain ⟨hru,hrst,-,hne,hrg⟩ := of_decide_eq_true hp
      exact ⟨r.1,r.2,hne,hr,hru,hrst,hrg⟩
  | @expired now v hn hs _ hf ht => exact h.expire hg hn hs hf ht

end Steps

/-- Two plans that raise the group, to `vip` and to `pro`. -/
def groupShop : Store := shop ((Table.empty.insert (shopPlan 70 "vip")).insert (shopPlan 140 "pro"))

/-- A purchase runs out. -/
def oneSubscription : List SubscriptionOp :=
  [.purchaseWithBalance 1000 "T1" 1 1,.tick 2600000,.expireDue 2600000 1]

/-- A second subscription of the same plan is bought a second later; both run out in turn. -/
def stackedRenewal : List SubscriptionOp :=
  [.purchaseWithBalance 1000 "T1" 1 1,.tick 1001,.purchaseWithBalance 1001 "T2" 1 1,.tick 2593001,
    .expireDue 2593001 1]

/-- An upgrade between plans with groups runs out. -/
def upgradedGroup : List SubscriptionOp :=
  [.purchaseWithBalance 1000 "T1" 1 1,.upgradeWithBalance 1000 "T2" 1 1 2,.tick 2600000,.expireDue 2600000 1]

end Tierflow
