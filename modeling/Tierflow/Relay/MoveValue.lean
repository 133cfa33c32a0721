import Tierflow.Foundation.JsonPaths

/-! Moving a value of a request from one path to another: it is written at the new path, and then the old one is
deleted. -/
namespace Tierflow
namespace Relay
namespace MoveValue
open Json

/-- The libraries that read and write at paths, as far as a path is made of plain steps: keys, and positions without
zeros in front. -/
structure PathLibrary where
  steps : String → Option (List String)
  getBytes : Json → String → Option Json
  setBytes : Json → String → Json → Except String Json
  deleteBytes : Json → String → Except String Json
  /-- What a value is read as. -/
  value : Json → Json
  steps_ne_nil : ∀ path steps', steps path = some steps' → steps'≠[]
  get_steps : ∀ path steps', steps path = some steps' → ∀ data, getBytes data path = Json.get steps' data
  set_steps : ∀ path steps', steps path = some steps' → ∀ data v,
    (setBytes data path v).toOption = Json.set steps' data v
  delete_steps : ∀ path steps', steps path = some steps' → ∀ data, deleteBytes data path = .ok (Json.delete steps' data)

def moveValue (lib : PathLibrary) (data : Json) (fromPath toPath : String) : Except String Json :=
  match lib.getBytes data fromPath with
  | none => .error ("source path does not exist: "++fromPath)
  | some sourceValue =>
    match lib.setBytes data toPath (lib.value sourceValue) with
    | .error e => .error e
    | .ok result => lib.deleteBytes result fromPath

/-! ## What a move should do -/

/-- A path of plain steps. -/
structure Path (lib : PathLibrary) where
  text : String
  steps : List String
  reads : lib.steps text = some steps

section Moving
variable {lib : PathLibrary} (data : Json) (source target : Path lib)

/-- The value stands at the target, the source leads to nothing, and nothing changes apart from both. Where they are
equal nothing changes at all. -/
def Moved : Prop :=
  ∃ result, moveValue lib data source.text target.text = .ok result ∧
    get target.steps result = (get source.steps data).map lib.value ∧
    (if source.steps = target.steps then result = data else get source.steps result = none) ∧
    ∀ p, Apart p source.steps → Apart p target.steps → get p result = get p data

/-- A path goes on from an array with the place behind its last element. -/
def Appends (a : Json) (before steps : List String) : Prop :=
  ∃ l, a = .array l ∧ before++[Text.printNat l.length]<+:steps

/-- When a move does what it should. Either the target holds the source, and the value has nothing where it came from
seen from the target; or the paths lead apart, writing needs no nulls, and nothing takes the place of the value. -/
inductive Movable (v : Json) : Prop
  | outward (rest : List String) : source.steps = target.steps++rest → rest≠[] → get rest v = none → Movable v
  | across (before : List String) (last : String) (holder : Json) : Apart source.steps target.steps →
      Fits target.steps data → source.steps = before++[last] → get before data = some holder → holder.Sole last →
      ¬Appends holder before target.steps → Movable v

end Moving

/-! ## Moving -/

section Steps
variable {lib : PathLibrary} {data : Json} {source target : Path lib} {v : Json}

lemma moveValue_ok_iff (hv : get source.steps data = some v) {result : Json} :
    moveValue lib data source.text target.text = .ok result ↔
      ∃ written, set target.steps data (lib.value v) = some written ∧ Json.delete source.steps written = result := by
  unfold moveValue
  rw [lib.get_steps _ _ source.reads,hv,←lib.set_steps _ _ target.reads]
  dsimp only
  cases lib.setBytes data target.text (lib.value v) with
  | error e =>
    constructor
    · intro h
      cases h
    · rintro ⟨written,h,-⟩
      cases h
  | ok written =>
    dsimp only
    rw [lib.delete_steps _ _ source.reads]
    constructor
    · exact fun h => ⟨written,rfl,Except.ok.inj h⟩
    · rintro ⟨written',h,rfl⟩
      obtain rfl := Option.some.inj h
      rfl

/-- What appears beside the target is apart from the target, and from all that is there. -/
lemma apart_beside {before p q : List String} {s t : String} (hne : t≠s) (hq : before++[s]<+:q)
    (hnone : get (before++[t]) data = none) (hp : get p data = some v) (hapart : Apart p q) :
    Apart (before++[t]) p ∧ Apart (before++[t]) q := by
  have hbefore : before<+:q := (List.prefix_append before [s]).trans hq
  refine ⟨⟨fun h => ?_,fun h => ?_⟩,⟨fun h => ?_,fun h => ?_⟩⟩
  · obtain ⟨c,hc⟩ := get_of_prefix h hp
    rw [hnone] at hc
    cases hc
  · rcases List.prefix_concat_iff.mp h with rfl | h
    · rw [hnone] at hp
      cases hp
    · exact hapart.1 (h.trans hbefore)
  · have hboth := List.prefix_of_prefix_length_le h hq (by simp)
    exact hne (List.cons_prefix_cons.mp ((List.prefix_append_right_inj before).mp hboth)).1
  · have hboth := hq.trans h
    exact hne (List.cons_prefix_cons.mp ((List.prefix_append_right_inj before).mp hboth)).1.symm

/-- Nothing takes the place of the value after the target was written exactly when nothing does before, and the target
appends nothing to the array that holds the value. -/
lemma sole_set_iff {before p : List String} {last : String} {holder holder' w written : Json}
    (hholder : get before data = some holder) (hlast : holder.child last = some v)
    (hapart : Apart (before++[last]) p) (hfits : Fits p data) (hset : set p data w = some written)
    (hholder' : get before written = some holder') :
    holder'.Sole last ↔ holder.Sole last ∧ ¬Appends holder before p := by
  by_cases hbefore : before<+:p
  · obtain ⟨rest,rfl⟩ := hbefore
    cases rest with
    | nil =>
      rw [List.append_nil] at hapart
      exact absurd (List.prefix_append before [last]) hapart.2
    | cons t rest =>
      have hne : t≠last := by
        rintro rfl
        exact hapart.1 ⟨rest,by rw [List.append_assoc,List.singleton_append]⟩
      obtain ⟨b,hb,hgot⟩ := set_append hset hholder
      obtain rfl := Option.some.inj (hgot.symm.trans hholder')
      obtain ⟨c,-,hput⟩ := set_cons_some hb
      rw [sole_put (fits_append hfits hholder).1 hput hne hlast]
      refine and_congr_right (fun _ => ?_)
      unfold Appends
      push Not
      refine forall_congr' (fun l => imp_congr_right (fun _ => not_congr ?_))
      rw [List.prefix_append_right_inj,List.cons_prefix_cons]
      exact ⟨fun h => ⟨h.symm,List.nil_prefix⟩,fun h => h.1.symm⟩
  · have hbeside : Apart before p :=
      ⟨hbefore,fun h => hapart.2 (h.trans (List.prefix_append before [last]))⟩
    rw [get_set_of_fits hfits hset hbeside,hholder] at hholder'
    obtain rfl := Option.some.inj hholder'
    refine ⟨fun h => ⟨h,?_⟩,fun h => h.1⟩
    rintro ⟨l,-,hstarts⟩
    exact hbefore ((List.prefix_append before _).trans hstarts)

lemma get_concat {before : List String} {last : String} (h : get (before++[last]) data = some v) :
    ∃ holder, get before data = some holder ∧ holder.child last = some v := by
  rw [get_append] at h
  obtain ⟨holder,hholder,hlast⟩ := Option.bind_eq_some_iff.mp h
  obtain ⟨c,hc,hc'⟩ := Option.bind_eq_some_iff.mp hlast
  exact ⟨holder,hholder,hc.trans hc'⟩

/-- The value below the object or the array that holds it. -/
lemma exists_holder (hv : get source.steps data = some v) : ∃ before last holder,
    source.steps = before++[last] ∧ get before data = some holder ∧ holder.child last = some v := by
  obtain ⟨before,last,heq⟩ := (List.eq_nil_or_concat' _).resolve_left (lib.steps_ne_nil _ _ source.reads)
  obtain ⟨holder,hholder,hlast⟩ := get_concat (heq ▸ hv)
  exact ⟨before,last,holder,heq,hholder,hlast⟩

end Steps

/-! ## When a move does what it should -/

section Result
variable {lib : PathLibrary} {data : Json} {source target : Path lib} {v : Json}

lemma Movable.moved (hv : get source.steps data = some v) (h : Movable data source target (lib.value v)) :
    Moved data source target := by
  cases h with
  | outward rest heq hrest hnone =>
    have hne : source.steps≠target.steps := by
      rw [heq]
      exact fun h => hrest (by simpa using h)
    obtain ⟨c,hc⟩ := get_of_prefix ⟨rest,heq.symm⟩ hv
    have hfits := fits_of_get hc
    obtain ⟨written,hset⟩ := set_of_fits hfits (lib.value v)
    have hsource : get source.steps written = none := by
      rw [heq,get_append,get_set hset]
      exact hnone
    refine ⟨written,(moveValue_ok_iff hv).mpr ⟨written,hset,delete_of_none hsource⟩,?_,?_,?_⟩
    · rw [get_set hset,hv]
      rfl
    · rw [if_neg hne]
      exact hsource
    · exact fun p _ hp => get_set_of_fits hfits hset hp
  | across before last holder hapart hfits heq hholder hsole happends =>
    have hne : source.steps≠target.steps := fun h => hapart.1 (h ▸ List.prefix_refl _)
    obtain ⟨written,hset⟩ := set_of_fits hfits (lib.value v)
    have hlast : holder.child last = some v := by
      obtain ⟨c,hc,hlast⟩ := get_concat (heq ▸ hv)
      obtain rfl := Option.some.inj (hholder.symm.trans hc)
      exact hlast
    have hkept : get source.steps written = some v := get_set_of_some hset hapart hv
    obtain ⟨holder',hholder',hlast'⟩ := get_concat (heq ▸ hkept)
    have hsole' : holder'.Sole last :=
      (sole_set_iff hholder hlast (heq ▸ hapart) hfits hset hholder').mpr ⟨hsole,happends⟩
    have hframe : ∀ p, Apart p source.steps → get p (Json.delete source.steps written) = get p written := by
      intro p hp
      rw [heq] at hp ⊢
      exact get_delete_of_sole hholder' hsole' hlast' hp
    refine ⟨_,(moveValue_ok_iff hv).mpr ⟨written,hset,rfl⟩,?_,?_,?_⟩
    · rw [hframe _ hapart.symm,get_set hset,hv]
      rfl
    · rw [if_neg hne,heq,get_append,get_delete_append (List.cons_ne_nil last []) hholder',Option.bind_some,get_cons]
      have hremoved : (Json.delete [last] holder').child last = none := (child_remove_self hlast').mpr hsole'
      rw [hremoved]
      rfl
    · intro p hp hp'
      rw [hframe p hp,get_set_of_fits hfits hset hp']

/-- The value would be destroyed together with the source. -/
lemma not_moved_self (hv : get source.steps data = some v) (heq : source.steps = target.steps) :
    ¬Moved data source target := by
  rintro ⟨result,hmove,-,hsame,-⟩
  rw [if_pos heq] at hsame
  obtain ⟨written,hset,rfl⟩ := (moveValue_ok_iff hv).mp hmove
  obtain ⟨before,last,holder,hsteps,hholder,hlast⟩ := exists_holder hv
  rw [←heq,hsteps] at hset
  obtain ⟨holder',hset',hholder'⟩ := set_append hset hholder
  obtain ⟨b,-,hput⟩ := set_cons_some hset'
  rw [hsteps] at hsame
  have hremoved := get_delete_append (List.cons_ne_nil last []) hholder'
  rw [hsame,hholder] at hremoved
  exact remove_put_ne hlast hput (Option.some.inj hremoved).symm

lemma not_moved_inward (hv : get source.steps data = some v) (hstarts : source.steps<+:target.steps)
    (hne : source.steps≠target.steps) : ¬Moved data source target := by
  rintro ⟨result,-,htarget,hsource,-⟩
  rw [if_neg hne] at hsource
  rw [hv] at htarget
  obtain ⟨c,hc⟩ := get_of_prefix hstarts htarget
  rw [hsource] at hc
  cases hc

lemma movable_of_outward {rest : List String} (hv : get source.steps data = some v)
    (heq : source.steps = target.steps++rest) (hrest : rest≠[]) (h : Moved data source target) :
    Movable data source target (lib.value v) := by
  refine .outward rest heq hrest ?_
  obtain ⟨result,hmove,htarget,-,-⟩ := h
  obtain ⟨written,hset,rfl⟩ := (moveValue_ok_iff hv).mp hmove
  by_contra hsome
  obtain ⟨c,hc⟩ := Option.ne_none_iff_exists'.mp hsome
  rw [heq,get_delete_append hrest (get_set hset),←heq,hv] at htarget
  exact delete_ne hrest hc (Option.some.inj htarget)

lemma movable_of_apart (hv : get source.steps data = some v) (hapart : Apart source.steps target.steps)
    (h : Moved data source target) : Movable data source target (lib.value v) := by
  obtain ⟨result,hmove,-,hsource,hframe⟩ := h
  have hne : source.steps≠target.steps := fun h => hapart.1 (h ▸ List.prefix_refl _)
  rw [if_neg hne] at hsource
  obtain ⟨written,hset,rfl⟩ := (moveValue_ok_iff hv).mp hmove
  obtain ⟨before,last,holder,heq,hholder,hlast⟩ := exists_holder hv
  have hkept : get source.steps written = some v := get_set_of_some hset hapart hv
  obtain ⟨holder',hholder',hlast'⟩ := get_concat (heq ▸ hkept)
  have hsole' : holder'.Sole last := by
    rw [heq,get_append,get_delete_append (List.cons_ne_nil last []) hholder',Option.bind_some,get_cons] at hsource
    refine (child_remove_self hlast').mp ?_
    cases hremoved : (holder'.remove last).child last with
    | none => rfl
    | some b =>
      rw [Json.delete,hremoved] at hsource
      cases hsource
  -- a null that the target needs would appear beside it, and stay
  have hfits : Fits target.steps data := by
    by_contra hfits
    obtain ⟨q,t,s,hts,hq,hnone,hsome⟩ := exists_beside hfits hset
    obtain ⟨hfree,hfree'⟩ := apart_beside hts hq hnone hv hapart
    have hstays := hframe _ hfree hfree'
    rw [heq] at hfree hstays
    rw [get_delete_of_sole hholder' hsole' hlast' hfree,hnone] at hstays
    exact hsome hstays
  obtain ⟨hsole,happends⟩ := (sole_set_iff hholder hlast (heq ▸ hapart) hfits hset hholder').mp hsole'
  exact .across before last holder hapart hfits heq hholder hsole happends

theorem moved_iff (hv : get source.steps data = some v) :
    Moved data source target ↔ Movable data source target (lib.value v) := by
  refine ⟨fun h => ?_,Movable.moved hv⟩
  by_cases heq : source.steps = target.steps
  · exact absurd h (not_moved_self hv heq)
  · by_cases hinward : source.steps<+:target.steps
    · exact absurd h (not_moved_inward hv hinward heq)
    · by_cases houtward : target.steps<+:source.steps
      · obtain ⟨rest,hrest⟩ := houtward
        have hne : rest≠[] := by
          rintro rfl
          exact heq (hrest.symm.trans (List.append_nil _))
        exact movable_of_outward hv hrest.symm hne h
      · exact movable_of_apart hv ⟨hinward,houtward⟩ h

end Result

/-! ## Paths of letters and digits -/

section Sample

def plainStep (s : String) : Bool :=
  s≠"" && s.toList.all (fun c => c.isAlphanum || c = '_') &&
    ((Text.digits? s.toList).all fun n => Text.printNat n = s)

def plainSteps (path : String) : Option (List String) :=
  if Text.split path '.'≠[] ∧ (Text.split path '.').all plainStep then some (Text.split path '.') else none

/-- Libraries that know no other paths. -/
def plainLibrary : PathLibrary where
  steps := plainSteps
  getBytes data path := (plainSteps path).bind (fun steps => Json.get steps data)
  setBytes data path v :=
    match (plainSteps path).bind (fun steps => Json.set steps data v) with
    | some written => .ok written
    | none => .error "path cannot be set"
  deleteBytes data path :=
    match plainSteps path with
    | some steps => .ok (Json.delete steps data)
    | none => .error "path cannot be deleted"
  value := id
  steps_ne_nil path steps h := by
    unfold plainSteps at h
    split_ifs at h with hplain
    exact Option.some.inj h ▸ hplain.1
  get_steps path steps h data := by
    rw [h]
    rfl
  set_steps path steps h data v := by
    rw [h,Option.bind_some]
    cases Json.set steps data v <;> rfl
  delete_steps path steps h data := by
    rw [h]

def pathA : Path plainLibrary := ⟨"a",["a"],by decide⟩

def pathB : Path plainLibrary := ⟨"b",["b"],by decide⟩

theorem moved_iff_across :
    Moved (.object [("a",.bool true)]) pathA pathB ↔ Movable (.object [("a",.bool true)]) pathA pathB (.bool true) :=
  @moved_iff plainLibrary _ pathA pathB (.bool true) rfl

/-- A value that is moved to where it is is lost. -/
theorem moved_to_itself : ¬∀ (lib : PathLibrary) (data : Json) (source target : Path lib) (v : Json),
    get source.steps data = some v → Moved data source target := by
  intro h
  have hv : get pathA.steps (.object [("a",.bool true)]) = some (.bool true) := rfl
  exact not_moved_self hv rfl (h plainLibrary _ pathA pathA _ hv)

end Sample

end MoveValue
end Relay
end Tierflow
