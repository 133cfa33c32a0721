import Tierflow.Routing.AbilityRows

/-! The abilities mirror the channels. What the two tables say about a channel is compared as two maps from
groups and models to rows, and every operation is described by what it does to the two maps. -/
namespace Tierflow
open TxSystem
namespace Routing

/-! ## The pairs that are written -/

def keyText (p : String × String) : String := p.1++"|"++p.2

lemma abilitySet_cons (seen : List String) (p : String × String) (ps : List (String × String)) :
    abilitySet seen (p::ps) =
      if keyText p∈seen then abilitySet seen ps else p::abilitySet (keyText p::seen) ps := rfl

lemma mem_of_mem_abilitySet {seen : List String} {ps : List (String × String)} {p : String × String}
    (h : p∈abilitySet seen ps) : p∈ps ∧ keyText p∉seen := by
  induction ps generalizing seen with
  | nil => exact absurd h List.not_mem_nil
  | cons q ps ih =>
    rw [abilitySet_cons] at h
    split_ifs at h with hq
    · exact ⟨List.mem_cons_of_mem _ (ih h).1,(ih h).2⟩
    · rcases List.mem_cons.mp h with rfl | h
      · exact ⟨List.mem_cons_self,hq⟩
      · exact ⟨List.mem_cons_of_mem _ (ih h).1,fun hs => (ih h).2 (List.mem_cons_of_mem _ hs)⟩

/-- No two pairs that are written have one key text. -/
lemma keyText_inj_abilitySet {seen : List String} {ps : List (String × String)} {p q : String × String}
    (hp : p∈abilitySet seen ps) (hq : q∈abilitySet seen ps) (h : keyText p = keyText q) : p = q := by
  induction ps generalizing seen with
  | nil => exact absurd hp List.not_mem_nil
  | cons r ps ih =>
    rw [abilitySet_cons] at hp hq
    split_ifs at hp hq with hr
    · exact ih hp hq
    · have hnew : ∀ x, x∈abilitySet (keyText r::seen) ps → keyText x≠keyText r := fun x hx hxr =>
        (mem_of_mem_abilitySet hx).2 (hxr ▸ List.mem_cons_self)
      rcases List.mem_cons.mp hp with rfl | hp <;> rcases List.mem_cons.mp hq with rfl | hq
      · rfl
      · exact absurd h.symm (hnew q hq)
      · exact absurd h (hnew p hp)
      · exact ih hp hq

/-- Pairs that come first are written as far as their key texts tell them apart. -/
lemma mem_abilitySet_append {seen : List String} {ps : List (String × String)} (rest : List (String × String))
    (hinj : ∀ p∈ps, ∀ q∈ps, keyText p = keyText q → p = q) {p : String × String} (hp : p∈ps)
    (hseen : keyText p∉seen) : p∈abilitySet seen (ps++rest) := by
  induction ps generalizing seen with
  | nil => exact absurd hp List.not_mem_nil
  | cons q ps ih =>
    have hinj' : ∀ p∈ps, ∀ r∈ps, keyText p = keyText r → p = r := fun p hp r hr =>
      hinj p (List.mem_cons_of_mem _ hp) r (List.mem_cons_of_mem _ hr)
    rw [List.cons_append,abilitySet_cons]
    by_cases hpq : p = q
    · subst q
      rw [if_neg hseen]
      exact List.mem_cons_self
    · have hps : p∈ps := (List.mem_cons.mp hp).resolve_left hpq
      split_ifs with hq
      · exact ih hinj' hps hseen
      · refine List.mem_cons_of_mem _ (ih hinj' hps ?_)
        rw [List.mem_cons,not_or]
        exact ⟨fun h => hpq (hinj p hp q List.mem_cons_self h),hseen⟩

namespace TaggedChannel
variable {c d : TaggedChannel}

/-- No two pairs of the channel have one key text. -/
def KeysDistinct (c : TaggedChannel) : Prop := ∀ p∈c.pairs, ∀ q∈c.pairs, keyText p = keyText q → p = q

lemma mem_pairs (c : TaggedChannel) (p : String × String) : p∈c.pairs ↔ c.Lists p.1 p.2 := by
  unfold pairs
  simp only [List.mem_flatMap,List.mem_map]
  constructor
  · rintro ⟨model,hm,group,hg,rfl⟩
    exact ⟨hg,hm⟩
  · exact fun h => ⟨p.2,h.2,p.1,h.1,rfl⟩

/-- Without a bar in the names of its groups a channel's pairs have key texts of their own. -/
lemma keysDistinct_of_barFree (h : c.BarFree) : c.KeysDistinct := fun p hp q hq hpq =>
  key_inj (h p.1 ((mem_pairs c p).mp hp).1) (h q.1 ((mem_pairs c q).mp hq).1) hpq

instance (c : TaggedChannel) (group model : String) : Decidable (c.Lists group model) := instDecidableAnd

/-- The ability that a channel should have for a group and a model. -/
def offers (c : TaggedChannel) : String × String → Option AbilityRow :=
  fun p => if c.Lists p.1 p.2 then some c.abilityRow else none

/-- The ability that is written for it. -/
def written (c : TaggedChannel) : String × String → Option AbilityRow :=
  fun p => if p∈abilitySet [] c.pairs then some c.abilityRow else none

/-- The groups and the first model of a channel are written in any case. -/
lemma exists_first (c : TaggedChannel) : ∃ model∈Text.split c.models ',', ∀ group∈Text.split c.group ',',
    (group,model)∈abilitySet [] c.pairs := by
  cases hm : Text.split c.models ',' with
  | nil => exact absurd hm (Text.split_ne_nil _ _)
  | cons model models =>
    refine ⟨model,List.mem_cons_self,?_⟩
    intro group hg
    unfold pairs
    rw [hm,List.flatMap_cons]
    apply mem_abilitySet_append _ _ (List.mem_map_of_mem hg) List.not_mem_nil
    intro p hp q hq hpq
    obtain ⟨g,-,rfl⟩ := List.mem_map.mp hp
    obtain ⟨g',-,rfl⟩ := List.mem_map.mp hq
    have hkeys := congrArg String.toList hpq
    simp only [keyText,String.toList_append,List.append_assoc] at hkeys
    rw [String.toList_inj.mp (List.append_cancel_right hkeys)]

lemma exists_written (c : TaggedChannel) : ∃ p, c.written p = some c.abilityRow ∧ c.Lists p.1 p.2 := by
  obtain ⟨model,hm,hfirst⟩ := c.exists_first
  obtain ⟨group,hg⟩ := List.exists_mem_of_ne_nil _ (Text.split_ne_nil c.group ',')
  exact ⟨(group,model),if_pos (hfirst group hg),hg,hm⟩

lemma written_eq_some {p : String × String} {a : AbilityRow} :
    c.written p = some a ↔ p∈abilitySet [] c.pairs ∧ c.abilityRow = a := by
  unfold written
  split_ifs with h <;> simp [h]

lemma offers_eq_some {p : String × String} {a : AbilityRow} :
    c.offers p = some a ↔ c.Lists p.1 p.2 ∧ c.abilityRow = a := by
  unfold offers
  split_ifs with h <;> simp [h]

/-- What is written for a channel is what another channel with the same models should have exactly when all
pairs are told apart and the channels agree. -/
lemma written_eq_offers_iff (hm : c.models = d.models) : c.written = d.offers ↔ c.KeysDistinct ∧
    (∀ group, group∈Text.split c.group ',' ↔ group∈Text.split d.group ',') ∧ c.abilityRow = d.abilityRow := by
  constructor
  · intro h
    obtain ⟨p,hp,-⟩ := c.exists_written
    have hrow : c.abilityRow = d.abilityRow := (offers_eq_some.mp (h ▸ hp)).2.symm
    obtain ⟨model,hmodel,hfirst⟩ := c.exists_first
    have hgroups : ∀ group, group∈Text.split c.group ',' ↔ group∈Text.split d.group ',' := by
      intro group
      constructor
      · intro hg
        have hw : c.written (group,model) = some c.abilityRow := written_eq_some.mpr ⟨hfirst group hg,rfl⟩
        exact (offers_eq_some.mp (h ▸ hw)).1.1
      · intro hg
        have ho : d.offers (group,model) = some d.abilityRow := offers_eq_some.mpr ⟨⟨hg,hm ▸ hmodel⟩,rfl⟩
        exact ((mem_pairs c _).mp (mem_of_mem_abilitySet (written_eq_some.mp (h ▸ ho)).1).1).1
    refine ⟨?_,hgroups,hrow⟩
    have hall : ∀ p∈c.pairs, p∈abilitySet [] c.pairs := by
      intro p hp
      have hl := (mem_pairs c p).mp hp
      have ho : d.offers p = some d.abilityRow := offers_eq_some.mpr ⟨⟨(hgroups _).mp hl.1,hm ▸ hl.2⟩,rfl⟩
      exact (written_eq_some.mp (h ▸ ho)).1
    exact fun p hp q hq => keyText_inj_abilitySet (hall p hp) (hall q hq)
  · rintro ⟨hkeys,hgroups,hrow⟩
    funext p
    have hmem : p∈abilitySet [] c.pairs ↔ d.Lists p.1 p.2 := by
      constructor
      · intro hp
        have hl := (mem_pairs c p).mp (mem_of_mem_abilitySet hp).1
        exact ⟨(hgroups _).mp hl.1,hm ▸ hl.2⟩
      · intro hl
        have hp := (mem_pairs c p).mpr ⟨(hgroups _).mpr hl.1,hm ▸ hl.2⟩
        simpa using mem_abilitySet_append [] hkeys hp List.not_mem_nil
    unfold written offers
    simp only [hmem,hrow]

lemma written_eq_self_iff : c.written = c.offers ↔ c.KeysDistinct := by
  rw [written_eq_offers_iff rfl]
  exact ⟨fun h => h.1,fun h => ⟨h,fun _ => Iff.rfl,rfl⟩⟩

lemma lookup_abilityRows (c : TaggedChannel) (id j : ℕ) (p : String × String) :
    (c.abilityRows id).lookup (p.1,p.2,j) = if j = id then c.written p else none := by
  unfold abilityRows
  split_ifs with h
  · subst j
    have hf : Function.Injective (fun q : String × String => (q.1,q.2,id)) := by
      intro q r h
      simp only [Prod.mk.injEq,and_true] at h
      exact Prod.ext h.1 h.2
    exact Keyed.lookup_map_const hf _ _ p
  · rw [Keyed.lookup_eq_none_iff,List.map_map,List.mem_map]
    rintro ⟨q,-,hq⟩
    exact h (congrArg (fun k : String × String × ℕ => k.2.2) hq).symm

end TaggedChannel

/-! ## The two maps -/

namespace TaggedTables
variable {s s' : TaggedTables} {id : ℕ}

def abilitiesOf (s : TaggedTables) (id : ℕ) : String × String → Option AbilityRow :=
  fun p => s.abilities.find? (p.1,p.2,id)

/-- The abilities that there should be; a channel that does not exist has none. -/
def offered (s : TaggedTables) (id : ℕ) : String × String → Option AbilityRow :=
  match s.channels.find? id with
  | none => fun _ => none
  | some c => c.offers

/-- For every channel one row for each pair of its groups and models, as the channel is, and no other row. -/
def Mirrors (s : TaggedTables) : Prop := ∀ id, s.abilitiesOf id = s.offered id

lemma offered_of_none (h : s.channels.find? id = none) : s.offered id = fun _ => none := by
  unfold offered
  rw [h]

lemma offered_of_some {c : TaggedChannel} (h : s.channels.find? id = some c) : s.offered id = c.offers := by
  unfold offered
  rw [h]

lemma mirrors_empty : empty.Mirrors := fun _ => rfl

lemma abilitiesOf_addAbilities (s : TaggedTables) (id j : ℕ) (c : TaggedChannel) (p : String × String) :
    (s.addAbilities id c).abilitiesOf j p = (s.abilitiesOf j p).or (if j = id then c.written p else none) := by
  unfold abilitiesOf addAbilities
  rw [Keyed.find?_insertAll,TaggedChannel.lookup_abilityRows]

lemma abilitiesOf_updateAbilities (s : TaggedTables) (id j : ℕ) (c : TaggedChannel) :
    (s.updateAbilities id c).abilitiesOf j = if j = id then c.written else s.abilitiesOf j := by
  funext p
  unfold updateAbilities
  rw [abilitiesOf_addAbilities]
  unfold abilitiesOf
  rw [Keyed.find?_deleteWhere]
  split_ifs with h
  · have hgone : ∀ o : Option AbilityRow, o.filter (fun _ => !decide (j = id)) = none := by
      intro o
      cases o <;> simp [h]
    rw [hgone]
    rfl
  · have hkept : ∀ o : Option AbilityRow, o.filter (fun _ => !decide (j = id)) = o := by
      intro o
      cases o <;> simp [h]
    rw [hkept,Option.or_none]

@[simp] lemma channels_updateAbilities (s : TaggedTables) (id : ℕ) (c : TaggedChannel) :
    (s.updateAbilities id c).channels = s.channels := rfl

@[simp] lemma channels_updateAllAbilities (s : TaggedTables) (rows : List (ℕ × TaggedChannel)) :
    (s.updateAllAbilities rows).channels = s.channels := by
  induction rows generalizing s with
  | nil => rfl
  | cons r rows ih => exact ih (s.updateAbilities r.1 r.2)

/-- Each channel of a list is written anew, and the others are left alone. -/
lemma abilitiesOf_updateAllAbilities (s : TaggedTables) {rows : List (ℕ × TaggedChannel)}
    (hrows : (rows.map Prod.fst).Nodup) (j : ℕ) : (s.updateAllAbilities rows).abilitiesOf j =
      (rows.lookup j).elim (s.abilitiesOf j) TaggedChannel.written := by
  induction rows generalizing s with
  | nil => rfl
  | cons r rows ih =>
    obtain ⟨hr,hrows⟩ := List.nodup_cons.mp hrows
    change ((s.updateAbilities r.1 r.2).updateAllAbilities rows).abilitiesOf j = _
    rw [ih _ hrows,abilitiesOf_updateAbilities,List.lookup_cons]
    by_cases hj : j = r.1
    · subst hj
      rw [Keyed.lookup_eq_none_iff.mpr hr,beq_self_eq_true,if_pos rfl]
      rfl
    · rw [beq_false_of_ne hj,if_neg hj]

/-! ## The three kinds of operations -/

/-- Channels are written, some of them new, and their abilities with them. -/
lemma mirrors_iff_of_rebuilt (rows : List (ℕ × TaggedChannel)) (hs : s.Mirrors)
    (hab : ∀ j, s'.abilitiesOf j = (rows.lookup j).elim (s.abilitiesOf j) TaggedChannel.written)
    (hrest : ∀ j, rows.lookup j = none → s'.offered j = s.offered j) :
    s'.Mirrors ↔ ∀ j c, rows.lookup j = some c → c.written = s'.offered j := by
  unfold Mirrors
  constructor
  · intro h j c hj
    have hw := hab j
    rw [hj,h j] at hw
    exact hw.symm
  · intro h j
    rw [hab j]
    cases hj : rows.lookup j with
    | none => exact (hs j).trans (hrest j hj).symm
    | some c => exact h j c hj

/-- Channels are changed in place, and their abilities too. -/
lemma mirrors_iff_of_inPlace {f : ℕ → AbilityRow → AbilityRow} {g : ℕ → TaggedChannel → TaggedChannel}
    (hs : s.Mirrors) (hab : ∀ j p, s'.abilitiesOf j p = (s.abilitiesOf j p).map (f j))
    (hch : ∀ j, s'.channels.find? j = (s.channels.find? j).map (g j))
    (hlists : ∀ j c, s.channels.find? j = some c → (g j c).models = c.models ∧ (g j c).group = c.group) :
    s'.Mirrors ↔ ∀ j c, s.channels.find? j = some c → f j c.abilityRow = (g j c).abilityRow := by
  have hoffers : ∀ j c, s.channels.find? j = some c → ∀ p,
      (g j c).offers p = if c.Lists p.1 p.2 then some (g j c).abilityRow else none := by
    intro j c hj p
    have hl : (g j c).Lists p.1 p.2 ↔ c.Lists p.1 p.2 := by
      unfold Channel.Lists
      rw [(hlists j c hj).1,(hlists j c hj).2]
    simp only [TaggedChannel.offers,hl]
  constructor
  · intro h j c hj
    obtain ⟨p,-,hp⟩ := c.exists_written
    have hv := congrFun (h j) p
    rw [hab,hs j,offered_of_some hj,offered_of_some ((hch j).trans (congrArg _ hj)),hoffers j c hj] at hv
    simpa [TaggedChannel.offers,hp] using hv
  · intro h j
    funext p
    rw [hab,hs j]
    cases hj : s.channels.find? j with
    | none => rw [offered_of_none hj,offered_of_none ((hch j).trans (congrArg _ hj))]; rfl
    | some c =>
      rw [offered_of_some hj,offered_of_some ((hch j).trans (congrArg _ hj)),hoffers j c hj,←h j c hj]
      unfold TaggedChannel.offers
      split_ifs <;> rfl

/-- Channels are deleted, and the abilities of some ids. -/
lemma mirrors_iff_of_deleted {p : ℕ → TaggedChannel → Bool} {q : ℕ → Bool} (hs : s.Mirrors)
    (hab : ∀ j x, s'.abilitiesOf j x = (s.abilitiesOf j x).filter (fun _ => !q j))
    (hch : ∀ j, s'.channels.find? j = (s.channels.find? j).filter (fun c => !p j c)) :
    s'.Mirrors ↔ ∀ j c, s.channels.find? j = some c → p j c = q j := by
  have hfilter : ∀ (b : Bool) (c : TaggedChannel), (some c).filter (fun _ => !b) = if b then none else some c := by
    intro b c
    cases b <;> rfl
  constructor
  · intro h j c hj
    obtain ⟨x,-,hx⟩ := c.exists_written
    have hv := congrFun (h j) x
    have hch' : s'.channels.find? j = if p j c then none else some c := by
      rw [hch j,hj]
      exact hfilter (p j c) c
    rw [hab,hs j,offered_of_some hj] at hv
    simp only [TaggedChannel.offers,if_pos hx] at hv
    cases hp : p j c <;> cases hq : q j
    · rfl
    · rw [offered_of_some (hch'.trans (by rw [hp]; rfl)),TaggedChannel.offers,if_pos hx,hq] at hv
      simp at hv
    · rw [offered_of_none (hch'.trans (by rw [hp]; rfl)),hq] at hv
      simp at hv
    · rfl
  · intro h j
    funext x
    rw [hab,hs j]
    cases hj : s.channels.find? j with
    | none => rw [offered_of_none hj,offered_of_none (by rw [hch j,hj]; rfl)]; rfl
    | some c =>
      have hpq := h j c hj
      rw [offered_of_some hj]
      cases hq : q j with
      | false =>
        have hkept : s'.channels.find? j = some c := by
          rw [hch j,hj]
          exact (hfilter (p j c) c).trans (by rw [hpq,hq]; rfl)
        rw [offered_of_some hkept]
        cases c.offers x <;> rfl
      | true =>
        have hgone : s'.channels.find? j = none := by
          rw [hch j,hj]
          exact (hfilter (p j c) c).trans (by rw [hpq,hq]; rfl)
        rw [offered_of_none hgone]
        cases c.offers x <;> rfl

/-! ## Each operation -/

lemma insert_eq_batchInsertChannels (s : TaggedTables) (id : ℕ) (c : TaggedChannel) :
    s.insert id c = s.batchInsertChannels [(id,c)] := by
  rw [batchInsertChannels]
  cases s.insert id c <;> rfl

/-- What the rows that were created are. -/
lemma insert_eq_some {c : TaggedChannel} (h : s.insert id c = some s') : s.channels.find? id = none ∧
    (∀ j, s'.channels.find? j = (s.channels.find? j).or (if j = id then some c.created else none)) ∧
    ∀ j p, s'.abilitiesOf j p = (s.abilitiesOf j p).or (if j = id then c.created.written p else none) := by
  unfold insert at h
  split_ifs at h with hfree
  obtain rfl := Option.some.inj h
  refine ⟨hfree.2,?_,fun j p => abilitiesOf_addAbilities _ id j c.created p⟩
  intro j
  change (s.channels.insertNew (id,c.created)).find? j = _
  rw [Keyed.find?_insertNew,List.lookup_cons,List.lookup_nil]
  by_cases hj : j = id
  · rw [if_pos hj,beq_iff_eq.mpr hj]
  · rw [if_neg hj,beq_false_of_ne hj]

lemma batchInsertChannels_eq_some {rows : List (ℕ × TaggedChannel)} (h : s.batchInsertChannels rows = some s') :
    (∀ j, (rows.lookup j).isSome → s.channels.find? j = none) ∧ (rows.map Prod.fst).Nodup ∧
    (∀ j, s'.channels.find? j = (s.channels.find? j).or ((rows.lookup j).map TaggedChannel.created)) ∧
    ∀ j p, s'.abilitiesOf j p =
      (s.abilitiesOf j p).or ((rows.lookup j).bind (fun c => c.created.written p)) := by
  induction rows generalizing s with
  | nil =>
    obtain rfl := Option.some.inj h
    exact ⟨fun j hj => by simp at hj,List.nodup_nil,fun j => Option.or_none.symm,fun j p => Option.or_none.symm⟩
  | cons r rows ih =>
    obtain ⟨t,ht,h⟩ := Option.bind_eq_some_iff.mp h
    obtain ⟨hfree,hch,hab⟩ := insert_eq_some ht
    obtain ⟨hnew,hnodup,hch',hab'⟩ := ih h
    have hr : rows.lookup r.1 = none := by
      by_contra hne
      have hx := hnew r.1 (Option.isSome_iff_ne_none.mpr hne)
      rw [hch r.1,if_pos rfl,hfree] at hx
      exact nomatch hx
    refine ⟨?_,?_,?_,?_⟩
    · intro j hj
      by_cases hjr : j = r.1
      · exact hjr ▸ hfree
      · rw [List.lookup_cons,beq_false_of_ne hjr] at hj
        have hx := hnew j hj
        rwa [hch j,if_neg hjr,Option.or_none] at hx
    · rw [List.map_cons,List.nodup_cons]
      exact ⟨Keyed.lookup_eq_none_iff.mp hr,hnodup⟩
    · intro j
      rw [hch' j,hch j,List.lookup_cons,Option.or_assoc]
      by_cases hjr : j = r.1
      · rw [if_pos hjr,beq_iff_eq.mpr hjr]
        rfl
      · rw [if_neg hjr,beq_false_of_ne hjr]
        rfl
    · intro j p
      rw [hab' j p,hab j p,List.lookup_cons,Option.or_assoc]
      by_cases hjr : j = r.1
      · subst hjr
        rw [if_pos rfl,beq_self_eq_true,hr]
        exact congrArg _ Option.or_none
      · rw [if_neg hjr,beq_false_of_ne hjr]
        rfl

lemma mirrors_batchInsertChannels_iff {rows : List (ℕ × TaggedChannel)} (hs : s.Mirrors)
    (h : s.batchInsertChannels rows = some s') : s'.Mirrors ↔ ∀ r∈rows, r.2.created.KeysDistinct := by
  obtain ⟨hnew,hnodup,hch,hab⟩ := batchInsertChannels_eq_some h
  have hlookup := Keyed.lookup_mapValues rows (fun _ c => c.created)
  have hoffered : ∀ j c, rows.lookup j = some c → s'.offered j = c.created.offers := by
    intro j c hj
    apply offered_of_some
    rw [hch j,hj,hnew j (by rw [hj]; rfl)]
    rfl
  rw [mirrors_iff_of_rebuilt (rows.map (fun r => (r.1,r.2.created))) hs]
  · constructor
    · intro hw r hr
      have hj := (Keyed.lookup_eq_some_iff hnodup r.1 r.2).mpr hr
      have hx := hw r.1 r.2.created (by rw [hlookup,hj]; rfl)
      rw [hoffered r.1 r.2 hj] at hx
      exact TaggedChannel.written_eq_self_iff.mp hx
    · intro hk j c hj
      rw [hlookup] at hj
      obtain ⟨d,hd,rfl⟩ := Option.map_eq_some_iff.mp hj
      rw [hoffered j d hd]
      exact TaggedChannel.written_eq_self_iff.mpr (hk (j,d) ((Keyed.lookup_eq_some_iff hnodup j d).mp hd))
  · intro j
    funext p
    rw [hab j p,hlookup]
    cases hj : rows.lookup j with
    | none => exact Option.or_none
    | some c =>
      have hnone : s.abilitiesOf j p = none := by
        rw [hs j,offered_of_none (hnew j (by rw [hj]; rfl))]
      rw [hnone]
      rfl
  · intro j hj
    rw [hlookup,Option.map_eq_none_iff] at hj
    unfold offered
    rw [hch j,hj,Option.map_none,Option.or_none]

/-- The abilities of some channels are written anew after rows were changed that may be those of the channels. -/
lemma mirrors_updateAllAbilities_iff (rows : List (ℕ × TaggedChannel)) (channels : Keyed ℕ TaggedChannel)
    (hs : s.Mirrors) (hrows : (rows.map Prod.fst).Nodup)
    (hch : ∀ j, rows.lookup j = none → channels.find? j = s.channels.find? j) :
    ({ s with channels := channels }.updateAllAbilities rows).Mirrors ↔
      ∀ j c, rows.lookup j = some c → c.written = { s with channels := channels }.offered j := by
  have hoffered : ∀ j, ({ s with channels := channels }.updateAllAbilities rows).offered j =
      { s with channels := channels }.offered j := by
    intro j
    unfold offered
    rw [channels_updateAllAbilities]
  have hrest : ∀ j, rows.lookup j = none →
      ({ s with channels := channels }.updateAllAbilities rows).offered j = s.offered j := by
    intro j hj
    rw [hoffered j]
    unfold offered
    rw [hch j hj]
  have hiff := mirrors_iff_of_rebuilt rows hs
    (abilitiesOf_updateAllAbilities { s with channels := channels } hrows) hrest
  simpa only [hoffered] using hiff

lemma written_eq_offered_iff {c : TaggedChannel} :
    c.written = s.offered id ↔ ∃ r, s.channels.find? id = some r ∧ c.written = r.offers := by
  cases hr : s.channels.find? id with
  | none =>
    rw [offered_of_none hr]
    constructor
    · intro h
      obtain ⟨p,hp,-⟩ := c.exists_written
      rw [h] at hp
      exact nomatch hp
    · rintro ⟨r,h,-⟩
      exact nomatch h
  | some r => simp [offered_of_some hr]

/-- The abilities of one channel are written anew. -/
lemma mirrors_updateAbilities_iff (channels : Keyed ℕ TaggedChannel) (c : TaggedChannel) (hs : s.Mirrors)
    (hch : ∀ j, j≠id → channels.find? j = s.channels.find? j) :
    ({ s with channels := channels }.updateAbilities id c).Mirrors ↔
      ∃ r, channels.find? id = some r ∧ c.written = r.offers := by
  have hne : ∀ j, List.lookup j [(id,c)] = none → j≠id := fun j hj h =>
    Keyed.lookup_eq_none_iff.mp hj (by simp [h])
  have hall := mirrors_updateAllAbilities_iff [(id,c)] channels hs (List.nodup_singleton _)
    (fun j hj => hch j (hne j hj))
  refine hall.trans ?_
  rw [←written_eq_offered_iff (s := { s with channels := channels })]
  constructor
  · exact fun h => h id c (by simp)
  · intro h j d hj
    obtain ⟨rfl,rfl⟩ : j = id ∧ d = c := by
      have hmem := (Keyed.lookup_eq_some_iff (l := [(id,c)]) (List.nodup_singleton _) j d).mp hj
      simpa using hmem
    exact h

lemma mirrors_update_iff {c : TaggedChannel} (hs : s.Mirrors) (h : s.update id c = some s') :
    s'.Mirrors ↔ ∃ r, s.channels.find? id = some r ∧ (r.updates (s.cleaned id c)).KeysDistinct := by
  unfold update at h
  dsimp only at h
  split_ifs at h
  obtain rfl := Option.some.inj h
  rw [mirrors_updateAbilities_iff _ _ hs (by intro j hj; simp [hj]),Keyed.find?_mapRows]
  cases s.channels.find? id with
  | none => simp
  | some r => simp [TaggedChannel.written_eq_self_iff]

/-- The channel that an upstream update holds is offered to the groups, and as, the row is. -/
def HeldCurrent (s : TaggedTables) (id : ℕ) (c : TaggedChannel) (models : String) : Prop :=
  ∃ r, s.channels.find? id = some r ∧ (∀ group, group∈Text.split c.group ',' ↔ group∈Text.split r.group ',') ∧
    c.abilityRow = r.abilityRow ∧ (c.setModels models).KeysDistinct

lemma mirrors_writeModels_iff {c : TaggedChannel} {models : Option String} (hs : s.Mirrors) :
    (s.writeModels id c models).Mirrors ↔ ∀ m, models = some m → s.HeldCurrent id c m := by
  cases models with
  | none => exact iff_of_true hs (fun m hm => nomatch hm)
  | some m =>
    unfold writeModels
    dsimp only
    rw [mirrors_updateAbilities_iff _ _ hs (by intro j hj; simp [hj]),Keyed.find?_mapRows]
    have hcurrent : (∀ m', some m = some m' → s.HeldCurrent id c m') ↔ s.HeldCurrent id c m :=
      ⟨fun h => h m rfl,fun h m' hm => Option.some.inj hm ▸ h⟩
    rw [hcurrent]
    unfold HeldCurrent
    have hrows : ∀ d : TaggedChannel, (d.setModels m).abilityRow = d.abilityRow := fun _ => rfl
    have hgroup : ∀ d : TaggedChannel, (d.setModels m).group = d.group := fun _ => rfl
    have hiff : ∀ r : TaggedChannel, (c.setModels m).written = (r.setModels m).offers ↔
        (∀ group, group∈Text.split c.group ',' ↔ group∈Text.split r.group ',') ∧
          c.abilityRow = r.abilityRow ∧ (c.setModels m).KeysDistinct := by
      intro r
      rw [TaggedChannel.written_eq_offers_iff (c := c.setModels m) (d := r.setModels m) rfl,hrows,hrows,hgroup,hgroup,and_comm,and_assoc]
    cases s.channels.find? id with
    | none => simp
    | some r => simp [hiff]

lemma mirrors_batchDeleteChannels (hs : s.Mirrors) (ids : List ℕ) : (s.batchDeleteChannels ids).Mirrors := by
  have hiff : (s.batchDeleteChannels ids).Mirrors ↔
      ∀ j c, s.channels.find? j = some c → decide (j∈ids) = decide (j∈ids) :=
    mirrors_iff_of_deleted (p := fun j _ => decide (j∈ids)) hs
      (fun j x => Keyed.find?_deleteWhere s.abilities _ (x.1,x.2,j)) (fun j => Keyed.find?_deleteWhere s.channels _ j)
  exact hiff.mpr (fun _ _ _ => rfl)

lemma mirrors_deleteDisabledChannel_iff (hs : s.Mirrors) : s.deleteDisabledChannel.Mirrors ↔
    ∀ r∈s.channels.rows, ¬(r.2.status = .autoDisabled ∨ r.2.status = .manuallyDisabled) := by
  have hiff : s.deleteDisabledChannel.Mirrors ↔ ∀ j c, s.channels.find? j = some c →
      decide (c.status = .autoDisabled ∨ c.status = .manuallyDisabled) = false := by
    apply mirrors_iff_of_deleted (q := fun _ => false) hs
    · intro j x
      change s.abilitiesOf j x = _
      cases s.abilitiesOf j x <;> rfl
    · exact fun j => Keyed.find?_deleteWhere s.channels _ j
  rw [hiff]
  simp only [decide_eq_false_iff_not,Prod.forall,Keyed.find?_eq_some_iff]

end TaggedTables

/-- A status that a call changes becomes enabled when the requested one is. -/
lemma KeyView.update_enabled {v : KeyView} {keys : List String} {usingKey : String} {status : ChannelStatus}
    (h : v.status≠(v.update keys usingKey status).status) :
    (v.update keys usingKey status).status = .enabled ↔ status = .enabled := by
  unfold update at h ⊢
  by_cases hk : keys = []
  · rw [if_pos hk]
  · rw [if_neg hk] at h ⊢
    cases hn : keys.idxOf? usingKey with
    | none =>
      rw [hn] at h
      simp only at h ⊢
      split_ifs at h ⊢
      · exact absurd rfl h
      · exact Iff.rfl
    | some n =>
      rw [hn] at h
      simp only [settle] at h ⊢
      cases ha : hasEnabledMultiKey keys (Function.update v.statusOf n (entry status)) with
      | true =>
        simp only [ha,Bool.not_true,Bool.false_eq_true,if_false] at h ⊢
        split_ifs at h ⊢ with he
        · simp [he]
        · exact absurd rfl h
      | false =>
        -- an enabled key leaves the channel with an enabled key
        have hne : status≠.enabled := by
          rintro rfl
          have hlt : n<keys.length := (List.idxOf?_eq_some_iff.mp hn).1
          have hany : hasEnabledMultiKey keys (Function.update v.statusOf n (entry .enabled)) = true := by
            refine List.any_eq_true.mpr ⟨n,List.mem_range.mpr hlt,?_⟩
            simp [entry]
          exact absurd (ha.symm.trans hany) (by simp)
        simp [hne]

/-- A call changes nothing of a channel but its status, its keys' statuses and its notes. -/
lemma StatusChannel.handlerMultiKeyUpdate_rest (c : StatusChannel) (usingKey : String) (status : ChannelStatus)
    (reason : String) (now : ℤ) :
    (c.handlerMultiKeyUpdate usingKey status reason now).models = c.models ∧
      (c.handlerMultiKeyUpdate usingKey status reason now).group = c.group ∧
      (c.handlerMultiKeyUpdate usingKey status reason now).priority = c.priority ∧
      (c.handlerMultiKeyUpdate usingKey status reason now).weight = c.weight := by
  unfold handlerMultiKeyUpdate settleStatus updateKey
  split
  · exact ⟨rfl,rfl,rfl,rfl⟩
  · split
    · split_ifs <;> exact ⟨rfl,rfl,rfl,rfl⟩
    · split_ifs <;> exact ⟨rfl,rfl,rfl,rfl⟩

namespace TaggedTables
variable {s s' : TaggedTables} {id : ℕ}

lemma calledChannel_enabled (r : TaggedChannel) (i : StatusCall)
    (h : r.channelInfo.isMultiKey = true → r.status≠(calledChannel r i).status) :
    (calledChannel r i).status = .enabled ↔ i.status = .enabled := by
  unfold calledChannel at h ⊢
  cases hm : r.channelInfo.isMultiKey with
  | false => rfl
  | true =>
    have hview := StatusChannel.view_handlerMultiKeyUpdate r.toStatusChannel i.usingKey i.status i.reason i.rowTime
    have hstatus := congrArg KeyView.status hview
    have hne := h hm
    rw [hm] at hne
    simp only [if_true] at hne ⊢
    change r.status≠(r.handlerMultiKeyUpdate i.usingKey i.status i.reason i.rowTime).view.status at hne
    change (r.handlerMultiKeyUpdate i.usingKey i.status i.reason i.rowTime).view.status = .enabled ↔ _
    rw [hstatus] at hne ⊢
    exact KeyView.update_enabled hne

lemma calledChannel_rest (r : TaggedChannel) (i : StatusCall) :
    (calledChannel r i).models = r.models ∧ (calledChannel r i).group = r.group ∧
      (calledChannel r i).getPriority = r.getPriority ∧ (calledChannel r i).getWeight = r.getWeight ∧
      (calledChannel r i).tag = r.tag := by
  unfold calledChannel
  cases r.channelInfo.isMultiKey with
  | false => exact ⟨rfl,rfl,rfl,rfl,rfl⟩
  | true =>
    obtain ⟨hm,hg,hp,hw⟩ := r.handlerMultiKeyUpdate_rest i.usingKey i.status i.reason i.rowTime
    exact ⟨hm,hg,congrArg (fun o => Option.getD o 0) hp,congrArg (fun o => Option.getD o 0) hw,rfl⟩

/-- One row is replaced, and its abilities are changed to be as the new row is. -/
lemma mirrors_replaceRow {r r' : TaggedChannel} {f : AbilityRow → AbilityRow} (hs : s.Mirrors)
    (hr : s.channels.find? id = some r) (hmodels : r'.models = r.models) (hgroup : r'.group = r.group)
    (hf : f r.abilityRow = r'.abilityRow)
    (hab : ∀ j p, s'.abilitiesOf j p = (s.abilitiesOf j p).map (fun a => if j = id then f a else a))
    (hch : ∀ j, s'.channels.find? j = (s.channels.find? j).map (fun c => if j = id then r' else c)) :
    s'.Mirrors := by
  have hself : ∀ j c, j = id → s.channels.find? j = some c → c = r := by
    intro j c hj hc
    rw [hj,hr] at hc
    exact (Option.some.inj hc).symm
  rw [mirrors_iff_of_inPlace hs hab hch]
  · intro j c hc
    split_ifs with hj
    · rw [hself j c hj hc,hf]
    · rfl
  · intro j c hc
    split_ifs with hj
    · rw [hself j c hj hc]
      exact ⟨hmodels,hgroup⟩
    · exact ⟨rfl,rfl⟩

lemma mirrors_updateChannelStatus (hs : s.Mirrors) (i : StatusCall) (cached : Option (Option StatusChannel)) :
    (s.updateChannelStatus i cached).Mirrors := by
  unfold updateChannelStatus
  cases hr : s.channels.find? i.channelId with
  | none => exact hs
  | some r =>
    obtain ⟨hmodels,hgroup,hpriority,hweight,htag⟩ := calledChannel_rest r i
    simp only
    split_ifs with hquiet hwritten
    · exact hs
    · have hstatus : (calledChannel r i).status = .enabled ↔ i.status = .enabled := by
        apply calledChannel_enabled
        intro hm
        simpa [hm] using hwritten
      have hrow : { r.abilityRow with enabled := decide (i.status = .enabled) } = (calledChannel r i).abilityRow :=
        AbilityRow.ext (decide_eq_decide.mpr hstatus.symm) hpriority.symm hweight.symm htag.symm
      exact mirrors_replaceRow (f := fun a => { a with enabled := decide (i.status = .enabled) }) hs hr hmodels hgroup
        hrow (fun j p => Keyed.find?_mapRows s.abilities _ (p.1,p.2,j)) (fun j => Keyed.find?_mapRows s.channels _ j)
    · -- the status stayed, and the abilities with it
      have hstatus : r.status = (calledChannel r i).status := by
        simp only [Bool.or_eq_true,Bool.not_eq_true',decide_eq_true_eq,not_or,not_not] at hwritten
        exact hwritten.2
      have hrow : r.abilityRow = (calledChannel r i).abilityRow :=
        AbilityRow.ext (congrArg (fun x => decide (x = ChannelStatus.enabled)) hstatus) hpriority.symm
          hweight.symm htag.symm
      apply mirrors_replaceRow (f := fun a => a) hs hr hmodels hgroup hrow
      · intro j p
        simp only [ite_self,Option.map_id']
        rfl
      · exact fun j => Keyed.find?_mapRows s.channels _ j

lemma mirrors_setStatusByTag (hs : s.Mirrors) (tag : String) (status : ChannelStatus) :
    (s.setStatusByTag tag status).Mirrors := by
  unfold setStatusByTag
  rw [mirrors_iff_of_inPlace (f := fun _ a => if a.tag = some tag then { a with enabled := status = .enabled } else a)
    (g := fun _ c => if c.tag = some tag then { c with status := status } else c) hs]
  · intro j c hj
    change (if c.tag = some tag then _ else _) = _
    split_ifs <;> rfl
  · exact fun j p => Keyed.find?_mapRows s.abilities _ (p.1,p.2,j)
  · exact fun j => Keyed.find?_mapRows s.channels _ j
  · intro j c hj
    split_ifs <;> exact ⟨rfl,rfl⟩

lemma abilityRow_editChannel_iff (e : TagEdit) (tag : String) (c : TaggedChannel) :
    e.editAbility tag c.abilityRow = (e.editChannel tag c).abilityRow ↔
      (c.tag = some tag → e.weight = some 0 → c.getWeight = 0) := by
  unfold TagEdit.editAbility TagEdit.editChannel
  change (if c.tag = some tag then _ else _) = _ ↔ _
  by_cases ht : c.tag = some tag
  · rw [if_pos ht,if_pos ht,AbilityRow.ext_iff]
    have htag : e.newTag.or c.tag = (e.updateData tag).tag.or c.tag := by
      unfold TagEdit.updateData
      dsimp only
      split_ifs with hn
      · rw [hn,ht]
        rfl
      · rfl
    have hpriority : e.priority.getD c.getPriority = (e.priority.or c.priority).getD 0 := by
      cases e.priority <;> rfl
    have hweight : (if e.weight.getD 0 = 0 then c.getWeight else e.weight.getD 0) = (e.weight.or c.weight).getD 0 ↔
        (e.weight = some 0 → c.getWeight = 0) := by
      cases e.weight with
      | none => simp [Channel.getWeight]
      | some w => by_cases hw : w = 0 <;> simp [hw]
    constructor
    · exact fun h _ => hweight.mp h.2.2.1
    · exact fun h => ⟨rfl,hpriority,hweight.mpr (h ht),htag⟩
  · rw [if_neg ht,if_neg ht]
    exact iff_of_true rfl (fun h => absurd h ht)

lemma tag_editChannel (e : TagEdit) {tag : String} {c : TaggedChannel} (h : c.tag = some tag) :
    (e.editChannel tag c).tag = some (e.updatedTag tag) := by
  unfold TagEdit.editChannel
  rw [if_pos h]
  change (e.updateData tag).tag.or c.tag = _
  unfold TagEdit.updateData TagEdit.updatedTag
  dsimp only
  split_ifs with hn
  · rw [hn,h]
    rfl
  · cases he : e.newTag with
    | none => exact h
    | some t => rfl

/-- All channels that meet a condition are written anew, the changed ones among them. -/
lemma mirrors_rebuild_iff (channels : Keyed ℕ TaggedChannel) (p : ℕ × TaggedChannel → Bool) (hs : s.Mirrors)
    (hch : ∀ j, (∀ c, channels.find? j = some c → p (j,c) = false) → channels.find? j = s.channels.find? j) :
    ({ s with channels := channels }.updateAllAbilities (channels.rows.filter p)).Mirrors ↔
      ∀ r∈channels.rows, p r → r.2.KeysDistinct := by
  have hlookup : ∀ j c, (channels.rows.filter p).lookup j = some c ↔ (j,c)∈channels.rows ∧ p (j,c) := by
    intro j c
    rw [Keyed.lookup_filter,Option.filter_eq_some_iff,Keyed.find?_eq_some_iff]
  have hrest : ∀ j, (channels.rows.filter p).lookup j = none → channels.find? j = s.channels.find? j := by
    intro j hj
    apply hch j
    intro c hc
    rw [Keyed.lookup_filter,hc] at hj
    simpa [Option.filter] using hj
  rw [mirrors_updateAllAbilities_iff _ channels hs (channels.nodup_filter p) hrest]
  constructor
  · intro h r hr hp
    have hw := h r.1 r.2 ((hlookup r.1 r.2).mpr ⟨hr,hp⟩)
    rw [offered_of_some (s := { s with channels := channels }) ((channels.find?_eq_some_iff r.1 r.2).mpr hr)] at hw
    exact TaggedChannel.written_eq_self_iff.mp hw
  · intro h j c hj
    obtain ⟨hr,hp⟩ := (hlookup j c).mp hj
    rw [offered_of_some (s := { s with channels := channels }) ((channels.find?_eq_some_iff j c).mpr hr)]
    exact TaggedChannel.written_eq_self_iff.mpr (h (j,c) hr hp)

lemma mirrors_editChannelByTag_iff (hs : s.Mirrors) (tag : String) (e : TagEdit) :
    (s.editChannelByTag tag e).Mirrors ↔
      if e.recreates then ∀ r∈s.channels.rows, (e.editChannel tag r.2).tag = some (e.updatedTag tag) →
        (e.editChannel tag r.2).KeysDistinct
      else ∀ r∈s.channels.rows, r.2.tag = some tag → e.weight = some 0 → r.2.getWeight = 0 := by
  unfold editChannelByTag
  cases hr : e.recreates with
  | false =>
    simp only [Bool.false_eq_true,if_false]
    rw [mirrors_iff_of_inPlace (f := fun _ a => e.editAbility tag a) (g := fun _ c => e.editChannel tag c) hs]
    · simp only [abilityRow_editChannel_iff,Prod.forall,Keyed.find?_eq_some_iff]
    · exact fun j p => Keyed.find?_mapRows s.abilities _ (p.1,p.2,j)
    · exact fun j => Keyed.find?_mapRows s.channels _ j
    · intro j c hj
      have hnone : e.models.getD "" = "" ∧ e.group.getD "" = "" := by
        simpa [TagEdit.recreates] using hr
      unfold TagEdit.editChannel
      split_ifs
      · exact ⟨if_pos hnone.1,if_pos hnone.2⟩
      · exact ⟨rfl,rfl⟩
  | true =>
    simp only [if_true]
    rw [mirrors_rebuild_iff _ _ hs]
    · simp only [Keyed.mapRows,List.forall_mem_map,decide_eq_true_eq]
    · intro j hj
      rw [Keyed.find?_mapRows] at hj ⊢
      cases hc : s.channels.find? j with
      | none => rfl
      | some c =>
        rw [hc] at hj
        have hne : c.tag≠some tag := fun ht => of_decide_eq_false (hj _ rfl) (tag_editChannel e ht)
        exact congrArg some (if_neg hne)

lemma mirrors_batchSetChannelTag_iff (hs : s.Mirrors) (ids : List ℕ) (tag : Option String) :
    (s.batchSetChannelTag ids tag).Mirrors ↔
      ∀ r∈s.channels.rows, r.1∈ids → r.2.tag = tag ∧ r.2.KeysDistinct := by
  unfold batchSetChannelTag
  have hfind : ∀ j, (s.channels.mapRows (fun id c => if id∈ids then { c with tag := tag } else c)).find? j =
      (s.channels.find? j).map (fun c => if j∈ids then { c with tag := tag } else c) := fun j =>
    Keyed.find?_mapRows _ _ j
  dsimp only
  generalize s.channels.mapRows (fun id c => if id∈ids then { c with tag := tag } else c) = channels at hfind ⊢
  have hlookup : ∀ j c, (s.channels.rows.filter (fun r => decide (r.1∈ids))).lookup j = some c ↔
      (j,c)∈s.channels.rows ∧ j∈ids := by
    intro j c
    rw [Keyed.lookup_filter,Option.filter_eq_some_iff,Keyed.find?_eq_some_iff]
    simp
  rw [mirrors_updateAllAbilities_iff _ _ hs (s.channels.nodup_filter _)]
  · have hone : ∀ j c, (j,c)∈s.channels.rows → j∈ids →
        (c.written = { s with channels := channels }.offered j ↔ c.tag = tag ∧ c.KeysDistinct) := by
      intro j c hc hj
      have hnew := hfind j
      rw [(s.channels.find?_eq_some_iff j c).mpr hc] at hnew
      simp only [Option.map_some,if_pos hj] at hnew
      rw [offered_of_some (s := { s with channels := channels }) hnew,
        TaggedChannel.written_eq_offers_iff (c := c) (d := { c with tag := tag }) rfl,AbilityRow.ext_iff]
      constructor
      · exact fun h => ⟨h.2.2.2.2.2,h.1⟩
      · exact fun h => ⟨h.2,fun _ => Iff.rfl,rfl,rfl,rfl,h.1⟩
    constructor
    · intro h r hr hj
      exact (hone r.1 r.2 hr hj).mp (h r.1 r.2 ((hlookup r.1 r.2).mpr ⟨hr,hj⟩))
    · intro h j c hj
      obtain ⟨hr,hid⟩ := (hlookup j c).mp hj
      exact (hone j c hr hid).mpr (h (j,c) hr hid)
  · intro j hj
    rw [hfind j]
    cases hc : s.channels.find? j with
    | none => rfl
    | some c =>
      have hid : j∉ids := by
        intro hid
        have hx := (hlookup j c).mpr ⟨(s.channels.find?_eq_some_iff j c).mp hc,hid⟩
        rw [hj] at hx
        exact nomatch hx
      simp [hid]

lemma mirrors_fixAbility_iff (hs : s.Mirrors) :
    s.fixAbility.Mirrors ↔ ∀ r∈s.channels.rows, r.2.KeysDistinct := by
  have hall : s.channels.rows.filter (fun _ => true) = s.channels.rows := List.filter_true _
  have hiff := mirrors_rebuild_iff s.channels (fun _ => true) hs (fun _ _ => rfl)
  rw [hall] at hiff
  simp only [forall_const] at hiff
  rw [←hiff]
  -- no row is left of a channel that is not listed, as there was none
  have hab : ∀ j, s.fixAbility.abilitiesOf j = (s.updateAllAbilities s.channels.rows).abilitiesOf j := by
    intro j
    unfold fixAbility
    rw [abilitiesOf_updateAllAbilities _ s.channels.nodup,abilitiesOf_updateAllAbilities _ s.channels.nodup]
    cases hj : s.channels.rows.lookup j with
    | none =>
      change (fun _ => none) = s.abilitiesOf j
      rw [hs j,offered_of_none hj]
    | some c => rfl
  have hoffered : ∀ j, s.fixAbility.offered j = (s.updateAllAbilities s.channels.rows).offered j := by
    intro j
    unfold offered fixAbility
    rw [channels_updateAllAbilities,channels_updateAllAbilities]
  unfold Mirrors
  simp only [hab,hoffered]

end TaggedTables

/-! ## Runs -/

/-- What keeps the mirror: of every channel whose abilities are written anew the pairs have key texts of their
own, and
- an update is for a channel that there is,
- the disabled channels that are deleted are none,
- a weight is set to zero by tag alone only where it is zero already,
- tags are set only to what they are,
- an upstream update holds what the row still says. -/
def ChannelOp.Keeps (s : TaggedTables) : ChannelOp → Prop
  | .batchInsertChannels channels => ∀ r∈channels, r.2.created.KeysDistinct
  | .insert _ c => c.created.KeysDistinct
  | .update id c => ∃ r, s.channels.find? id = some r ∧ (r.updates (s.cleaned id c)).KeysDistinct
  | .delete _ => True
  | .batchDeleteChannels _ => True
  | .deleteDisabledChannel =>
    ∀ r∈s.channels.rows, ¬(r.2.status = .autoDisabled ∨ r.2.status = .manuallyDisabled)
  | .updateChannelStatus _ _ => True
  | .enableChannelByTag _ => True
  | .disableChannelByTag _ => True
  | .editChannelByTag tag e =>
    if e.recreates then ∀ r∈s.channels.rows, (e.editChannel tag r.2).tag = some (e.updatedTag tag) →
      (e.editChannel tag r.2).KeysDistinct
    else ∀ r∈s.channels.rows, r.2.tag = some tag → e.weight = some 0 → r.2.getWeight = 0
  | .batchSetChannelTag ids tag => ∀ r∈s.channels.rows, r.1∈ids → r.2.tag = tag ∧ r.2.KeysDistinct
  | .holdChannels _ => True
  | .addUpstreamModels c pendingAddModels =>
    ∀ m, c.2.autoAddedModels pendingAddModels = some m → s.HeldCurrent c.1 c.2 m
  | .applyUpstreamModels c q => ∀ m, c.2.appliedModels q = some m → s.HeldCurrent c.1 c.2 m
  | .fixAbility => ∀ r∈s.channels.rows, r.2.KeysDistinct

/-- What each operation does to tables that mirror each other. -/
lemma mirrors_after_iff {s s' : TaggedTables} {op : ChannelOp} (hs : s.Mirrors) (h : s.after op = some s') :
    s'.Mirrors ↔ op.Keeps s := by
  cases op with
  | batchInsertChannels channels => exact TaggedTables.mirrors_batchInsertChannels_iff hs h
  | insert id c =>
    have hone := TaggedTables.mirrors_batchInsertChannels_iff hs ((s.insert_eq_batchInsertChannels id c).symm.trans h)
    refine hone.trans ⟨fun hk => hk (id,c) List.mem_cons_self,?_⟩
    intro hk r hr
    obtain rfl := List.mem_singleton.mp hr
    exact hk
  | update id c => exact TaggedTables.mirrors_update_iff hs h
  | delete id =>
    unfold TaggedTables.after TaggedTables.delete at h
    dsimp only at h
    split_ifs at h
    obtain rfl := Option.some.inj h
    exact iff_of_true (TaggedTables.mirrors_batchDeleteChannels hs [id]) trivial
  | batchDeleteChannels ids =>
    obtain rfl := Option.some.inj h
    exact iff_of_true (TaggedTables.mirrors_batchDeleteChannels hs ids) trivial
  | deleteDisabledChannel =>
    obtain rfl := Option.some.inj h
    exact TaggedTables.mirrors_deleteDisabledChannel_iff hs
  | updateChannelStatus i cached =>
    obtain rfl := Option.some.inj h
    exact iff_of_true (TaggedTables.mirrors_updateChannelStatus hs i cached) trivial
  | enableChannelByTag tag =>
    obtain rfl := Option.some.inj h
    exact iff_of_true (TaggedTables.mirrors_setStatusByTag hs tag .enabled) trivial
  | disableChannelByTag tag =>
    obtain rfl := Option.some.inj h
    exact iff_of_true (TaggedTables.mirrors_setStatusByTag hs tag .manuallyDisabled) trivial
  | editChannelByTag tag e =>
    obtain rfl := Option.some.inj h
    exact TaggedTables.mirrors_editChannelByTag_iff hs tag e
  | batchSetChannelTag ids tag =>
    obtain rfl := Option.some.inj h
    exact TaggedTables.mirrors_batchSetChannelTag_iff hs ids tag
  | holdChannels ids =>
    obtain rfl := Option.some.inj h
    exact iff_of_true hs trivial
  | addUpstreamModels c pendingAddModels =>
    unfold TaggedTables.after at h
    dsimp only at h
    split_ifs at h
    obtain rfl := Option.some.inj h
    exact TaggedTables.mirrors_writeModels_iff hs
  | applyUpstreamModels c q =>
    unfold TaggedTables.after at h
    dsimp only at h
    split_ifs at h
    obtain rfl := Option.some.inj h
    exact TaggedTables.mirrors_writeModels_iff hs
  | fixAbility =>
    obtain rfl := Option.some.inj h
    exact TaggedTables.mirrors_fixAbility_iff hs

/-- In a run from empty tables the abilities mirror the channels in every state exactly when every operation
that succeeds meets the condition. -/
theorem abilities_mirror_iff (ops : List ChannelOp) :
    channelSystem.Always (fun d => d.state.Mirrors) ⟨TaggedTables.empty,[]⟩ ops ↔
      channelSystem.Guarded (fun d op => (d.state.after op).isSome → op.Keeps d.state) ⟨TaggedTables.empty,[]⟩ ops := by
  apply always_iff_guarded (always_of_forall (P := fun _ => True) (fun _ => trivial) _ _)
    TaggedTables.mirrors_empty
  intro d op _ hs
  cases h : d.state.after op with
  | none =>
    have hstep : channelSystem.step d.state op = none := congrArg (Option.map (fun s => (s,[]))) h
    rw [exec_of_none hstep]
    exact iff_of_true hs (fun hx => nomatch hx)
  | some s =>
    have hstep : channelSystem.step d.state op = some (s,[]) := congrArg (Option.map (fun s => (s,[]))) h
    rw [exec_of_some hstep]
    exact (mirrors_after_iff hs h).trans ⟨fun hk _ => hk,fun hk => hk rfl⟩

/-- A channel for one model and one group. -/
def offeredOnce : TaggedChannel :=
  { TaggedChannel.zero with
    status := .enabled
    models := "model"
    group := "default"
    keys := ["key"] }

/-- The channel gets a tag, and all channels of the tag are disabled: the tag of the ability was left out, and
it stays enabled. -/
def retagAndDisable : List ChannelOp :=
  [.insert 1 offeredOnce,.batchSetChannelTag [1] (some "tag"),.disableChannelByTag "tag"]

theorem retagged_channel_stays_enabled :
    let s := (channelSystem.run ⟨TaggedTables.empty,[]⟩ retagAndDisable).state
    (s.channels.find? 1).map (fun c => c.status) = some .manuallyDisabled ∧
      (s.abilities.find? ("default","model",1)).map (fun a => a.enabled) = some true ∧
      ¬channelSystem.Always (fun d => d.state.Mirrors) ⟨TaggedTables.empty,[]⟩ retagAndDisable := by
  have hchannel : ((channelSystem.run ⟨TaggedTables.empty,[]⟩ retagAndDisable).state.channels.find? 1).map
      (fun c => c.status) = some .manuallyDisabled := by decide
  have hability : ((channelSystem.run ⟨TaggedTables.empty,[]⟩ retagAndDisable).state.abilities.find?
      ("default","model",1)).map (fun a => a.enabled) = some true := by decide
  refine ⟨hchannel,hability,?_⟩
  intro h
  have hview := congrFun (h.last 1) ("default","model")
  obtain ⟨c,hc,hstatus⟩ := Option.map_eq_some_iff.mp hchannel
  obtain ⟨a,ha,henabled⟩ := Option.map_eq_some_iff.mp hability
  rw [TaggedTables.offered_of_some hc] at hview
  have hoffers := TaggedChannel.offers_eq_some.mp (hview.symm.trans ha)
  rw [←hoffers.2] at henabled
  have hen : c.status = .enabled := of_decide_eq_true henabled
  rw [hstatus] at hen
  exact nomatch hen

end Routing
end Tierflow
