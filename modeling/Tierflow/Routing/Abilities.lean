import Tierflow.Routing.Candidates

/-! The abilities table follows the channels: whenever a channel is created or changed its abilities
are written anew, one for each of its groups and models. -/
namespace Tierflow
namespace Routing

/-- The pairs of group and model, each written once; a pair is known by one key text. -/
def abilitySet (seen : List String) : List (String × String) → List (String × String)
  | [] => []
  | p::ps =>
    let key := p.1++"|"++p.2
    if key∈seen then abilitySet seen ps else p::abilitySet (key::seen) ps

def abilityOf (id : ℕ) (c : Channel) (p : String × String) : Ability where
  group := p.1
  model := p.2
  channelId := id
  enabled := c.status = .enabled
  priority := c.getPriority
  weight := c.getWeight

def channelAbilities (id : ℕ) (c : Channel) : List Ability :=
  let pairs := (Text.split c.models ',').flatMap (fun model =>
    (Text.split c.group ',').map (fun group => (group,model)))
  (abilitySet [] pairs).map (abilityOf id c)

def Ability.SameKey (a b : Ability) : Prop :=
  a.group = b.group ∧ a.model = b.model ∧ a.channelId = b.channelId

instance (a b : Ability) : Decidable (a.SameKey b) := instDecidableAnd

/-- A row whose key is taken already is not written. -/
def addAbilities (t : Tables) (id : ℕ) (c : Channel) : Tables :=
  { t with abilities := t.abilities++
    (channelAbilities id c).filter (fun a => ∀ b∈t.abilities, ¬a.SameKey b) }

def updateAbilities (t : Tables) (id : ℕ) (c : Channel) : Tables :=
  addAbilities { t with abilities := t.abilities.filter (fun a => a.channelId≠id) } id c

/-- The enabled abilities are those of the enabled channels, with their priorities and weights. -/
structure InStep (t : Tables) : Prop where
  known : ∀ a∈t.abilities, ∃ c, t.channels.find? a.channelId = some c
  enabled : ∀ a : Ability, a.enabled = true → (a∈t.abilities ↔ ∃ c, t.channels.find? a.channelId = some c ∧
    c.status = .enabled ∧ c.Lists a.group a.model ∧ c.getPriority = a.priority ∧ c.getWeight = a.weight)

/-- A bar in a group's name could make two pairs share their key. -/
def Channel.BarFree (c : Channel) : Prop := ∀ g∈Text.split c.group ',', ∀ x∈g.toList, x ≠ '|'

instance (c : Channel) : Decidable c.BarFree :=
  have : ∀ g : String, Decidable (∀ x∈g.toList, x ≠ '|') := fun _ => List.decidableBAll _ _
  List.decidableBAll _ _

lemma key_inj {p q : String × String} (hp : ∀ x∈p.1.toList, x ≠ '|') (hq : ∀ x∈q.1.toList, x ≠ '|')
    (h : p.1++"|"++p.2 = q.1++"|"++q.2) : p = q := by
  have hbar : "|".toList = ['|'] := rfl
  have hl := congrArg String.toList h
  simp only [String.toList_append,List.append_assoc,hbar,List.singleton_append] at hl
  obtain ⟨h1,h2⟩ := Text.append_sep_inj hp hq (by simp) (by simp) hl
  exact Prod.ext (String.toList_inj.mp h1) (String.toList_inj.mp (List.cons.inj h2).2)

lemma mem_abilitySet {ps : List (String × String)} (hfree : ∀ p∈ps, ∀ x∈p.1.toList, x ≠ '|')
    (seen : List String) (p : String × String) :
    p∈abilitySet seen ps ↔ p∈ps ∧ p.1++"|"++p.2∉seen := by
  induction ps generalizing seen with
  | nil => simp [abilitySet]
  | cons q ps ih =>
    have hq := hfree q List.mem_cons_self
    have hps : ∀ p∈ps, ∀ x∈p.1.toList, x ≠ '|' := fun p hp => hfree p (List.mem_cons_of_mem _ hp)
    rw [abilitySet]
    by_cases hkey : q.1++"|"++q.2∈seen
    · simp only [hkey,if_true]
      rw [ih hps seen,List.mem_cons]
      constructor
      · exact fun h => ⟨.inr h.1,h.2⟩
      · rintro ⟨rfl | hm,hn⟩
        · exact absurd hkey hn
        · exact ⟨hm,hn⟩
    · simp only [hkey,if_false]
      rw [List.mem_cons,ih hps,List.mem_cons,List.mem_cons,not_or]
      constructor
      · rintro (rfl | ⟨hm,-,hn⟩)
        · exact ⟨.inl rfl,hkey⟩
        · exact ⟨.inr hm,hn⟩
      · rintro ⟨rfl | hm,hn⟩
        · exact .inl rfl
        · by_cases hpq : p = q
          · exact .inl hpq
          · exact .inr ⟨hm,fun hk => hpq (key_inj (hps p hm) hq hk),hn⟩

lemma mem_channelAbilities {id : ℕ} {c : Channel} (hc : c.BarFree) (a : Ability) :
    a∈channelAbilities id c ↔ c.Lists a.group a.model ∧ a = abilityOf id c (a.group,a.model) := by
  unfold channelAbilities
  have hpair : ∀ p : String × String, p∈(Text.split c.models ',').flatMap (fun model =>
      (Text.split c.group ',').map (fun group => (group,model))) ↔ c.Lists p.1 p.2 := by
    intro p
    simp only [List.mem_flatMap,List.mem_map]
    constructor
    · rintro ⟨model,hm,group,hg,rfl⟩
      exact ⟨hg,hm⟩
    · exact fun h => ⟨p.2,h.2,p.1,h.1,rfl⟩
  simp only [List.mem_map]
  constructor
  · rintro ⟨p,hp,rfl⟩
    rw [mem_abilitySet (fun q hq => hc q.1 ((hpair q).mp hq).1)] at hp
    exact ⟨(hpair p).mp hp.1,rfl⟩
  · rintro ⟨hl,ha⟩
    refine ⟨(a.group,a.model),?_,ha.symm⟩
    rw [mem_abilitySet (fun q hq => hc q.1 ((hpair q).mp hq).1)]
    exact ⟨(hpair _).mpr hl,List.not_mem_nil⟩

/-- Writing the abilities of a channel that has none yet. -/
lemma mem_addAbilities {t : Tables} {id : ℕ} {c : Channel} (hc : c.BarFree)
    (hno : ∀ b∈t.abilities, b.channelId≠id) (a : Ability) : a∈(addAbilities t id c).abilities ↔
      a∈t.abilities ∨ c.Lists a.group a.model ∧ a = abilityOf id c (a.group,a.model) := by
  unfold addAbilities
  rw [List.mem_append,List.mem_filter,mem_channelAbilities hc]
  constructor
  · rintro (h | h)
    · exact .inl h
    · exact .inr h.1
  · rintro (h | h)
    · exact .inl h
    · refine .inr ⟨h,decide_eq_true ?_⟩
      intro b hb hkey
      apply hno b hb
      rw [←hkey.2.2,h.2]
      rfl

/-- A channel whose row is written together with its abilities stays in step with them, and so do
all the others. -/
lemma inStep_write {t u : Tables} {id : ℕ} {c : Channel} (hc : c.BarFree)
    (hself : t.channels.find? id = some c)
    (hothers : ∀ j, j≠id → t.channels.find? j = u.channels.find? j)
    (hab : ∀ a, a∈t.abilities ↔ a∈u.abilities ∧ a.channelId≠id) (hu : InStep u) :
    InStep (addAbilities t id c) := by
  have hmem := mem_addAbilities (t := t) hc (fun b hb => ((hab b).mp hb).2)
  constructor
  · intro a ha
    rcases (hmem a).mp ha with h | ⟨-,h⟩
    · obtain ⟨hb,hne⟩ := (hab a).mp h
      obtain ⟨d,hd⟩ := hu.known a hb
      exact ⟨d,(hothers _ hne).trans hd⟩
    · rw [h]
      exact ⟨c,hself⟩
  · intro a he
    change a∈(addAbilities t id c).abilities ↔ ∃ d, t.channels.find? a.channelId = some d ∧ _
    rw [hmem a,hab a]
    by_cases hid : a.channelId = id
    · rw [hid,hself]
      constructor
      · rintro (⟨_,hne⟩ | ⟨hl,ha⟩)
        · exact absurd rfl hne
        · rw [ha] at he
          refine ⟨c,rfl,of_decide_eq_true he,hl,?_,?_⟩
          · rw [ha]
            rfl
          · rw [ha]
            rfl
      · rintro ⟨d,hd,hs,hl,hp,hw⟩
        obtain rfl := Option.some.inj hd
        refine .inr ⟨hl,?_⟩
        have hen : a.enabled = decide (c.status = .enabled) := by rw [he,hs]; rfl
        cases a
        simp only at hid hen hp hw
        subst hid hen hp hw
        rfl
    · rw [hothers _ hid,←hu.enabled a he]
      constructor
      · rintro (h | ⟨_,h⟩)
        · exact h.1
        · rw [h] at hid
          exact absurd rfl hid
      · exact fun h => .inl ⟨h,hid⟩

/-- A new channel is created together with its abilities. -/
theorem InStep.insert {t : Tables} {c : Channel} (h : InStep t) (hc : c.BarFree) :
    InStep (addAbilities { t with channels := t.channels.insert c } t.channels.next c) := by
  apply inStep_write hc (t.channels.find?_insert_self c) (fun j hj => t.channels.find?_insert_of_ne c hj) ?_ h
  intro a
  constructor
  · intro ha
    obtain ⟨d,hd⟩ := h.known a ha
    exact ⟨ha,(Table.find?_lt hd).2.ne⟩
  · exact fun ha => ha.1

/-- A changed channel has its abilities deleted and written anew. -/
theorem InStep.update {t : Tables} {id : ℕ} {old c : Channel} (h : InStep t)
    (hf : t.channels.find? id = some old) (hc : c.BarFree) :
    InStep (updateAbilities { t with channels := t.channels.set id c } id c) := by
  apply inStep_write hc (t.channels.find?_set_self c hf) (fun j hj => t.channels.find?_set_of_ne c hj) ?_ h
  intro a
  simp

end Routing
end Tierflow
