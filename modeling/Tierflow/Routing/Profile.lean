import Tierflow.Foundation.Bands
import Tierflow.Foundation.Text

/-! Routing profiles: a difficulty score falls into a band, the band names a tier, and the tier has a model. -/
namespace Tierflow
namespace Routing
open Bands (Tiles Covers)

/-- A double-precision number; what is not a number compares with nothing. -/
inductive Double
  | finite (q : ℚ)
  | posInf
  | negInf
  | nan
  deriving DecidableEq

namespace Double

def le : Double → Double → Bool
  | .finite q,.finite r => q ≤ r
  | .nan,_ => false
  | _,.nan => false
  | .negInf,_ => true
  | _,.posInf => true
  | _,_ => false

def lt : Double → Double → Bool
  | .finite q,.finite r => decide (q < r)
  | .nan,_ => false
  | _,.nan => false
  | .posInf,_ => false
  | _,.negInf => false
  | _,_ => true

end Double

structure ScoreBand where
  lo : Double
  hi : Double
  tier : ℤ
  deriving DecidableEq

structure RoutingProfile where
  scoreBands : String
  tier1Model : String
  tier2Model : String
  tier3Model : String
  tier4Model : String
  tier5Model : String

/-! ## Reading the bands -/

/-- What stands before and after the first occurrence of a character. -/
def cutFirst (sep : Char) (s : String) : Option (String × String) :=
  match s.toList.dropWhile (· ≠ sep) with
  | [] => none
  | _::rest => some (String.ofList (s.toList.takeWhile (· ≠ sep)),String.ofList rest)

def cutLast (sep : Char) (s : String) : Option (String × String) :=
  (cutFirst sep (String.ofList s.toList.reverse)).map
    (fun p => (String.ofList p.2.toList.reverse,String.ofList p.1.toList.reverse))

section Parse
variable (parseFloat : String → Option Double)

/-- A band, such as `0-3:5`; a part that is none is skipped. -/
def parseScoreBand (part : String) : Option ScoreBand := do
  let (rangePart,tierPart) ← cutLast ':' (Text.trimSpace part)
  let tier ← Text.parseInt64 (Text.trimSpace tierPart)
  let (loPart,hiPart) ← cutFirst '-' (Text.trimSpace rangePart)
  if loPart = "" then none
  else
    let lo ← parseFloat (Text.trimSpace loPart)
    let hi ← parseFloat (Text.trimSpace hiPart)
    return ⟨lo,hi,tier⟩

def parseScoreBands (raw : String) : List ScoreBand := (Text.split raw ',').filterMap (parseScoreBand parseFloat)

end Parse

/-! ## From the score to the model -/

namespace RoutingProfile

def tierModel (p : RoutingProfile) (tier : ℤ) : String :=
  if tier = 1 then p.tier1Model
  else if tier = 2 then p.tier2Model
  else if tier = 3 then p.tier3Model
  else if tier = 4 then p.tier4Model
  else if tier = 5 then p.tier5Model
  else ""

/-- The third tier, or else the first one with a model. -/
def defaultModel (p : RoutingProfile) : String × ℤ :=
  if p.tierModel 3≠"" then (p.tierModel 3,3)
  else
    match ([1,2,3,4,5] : List ℤ).find? (fun t => p.tierModel t≠"") with
    | some t => (p.tierModel t,t)
    | none => ("",0)

end RoutingProfile

/-- The tier of the first band that a score falls into; the band that is listed last is closed. -/
def matchTier (score : Double) : List ScoreBand → ℤ
  | [] => 0
  | [b] => if (b.lo.le score && score.lt b.hi) || (b.lo.le score && score.le b.hi) then b.tier else 0
  | b::bands => if b.lo.le score && score.lt b.hi then b.tier else matchTier score bands

def RoutingProfile.resolveModel (parseFloat : String → Option Double) (p : RoutingProfile) (score : Double) :
    String × ℤ :=
  let matchedTier := matchTier score (parseScoreBands parseFloat p.scoreBands)
  if matchedTier = 0 then p.defaultModel
  else if p.tierModel matchedTier≠"" then (p.tierModel matchedTier,matchedTier)
  else p.defaultModel

/-! ## Tiers and their models -/

namespace RoutingProfile
variable {p : RoutingProfile} {tier : ℤ}

/-- What a tier comes to: its model, or the default of the profile. -/
def ofTier (p : RoutingProfile) (tier : ℤ) : String × ℤ :=
  if p.tierModel tier≠"" then (p.tierModel tier,tier) else p.defaultModel

/-- A model of the tier that is named with it, unless there is none at all. -/
def Configured (p : RoutingProfile) (r : String × ℤ) : Prop :=
  (r.1≠"" ∧ r.1 = p.tierModel r.2) ∨ ∀ t, p.tierModel t = ""

lemma tierModel_zero (p : RoutingProfile) : p.tierModel 0 = "" := rfl

lemma tierModel_of_none (h : ∀ t∈([1,2,3,4,5] : List ℤ), p.tierModel t = "") (tier : ℤ) : p.tierModel tier = "" := by
  by_cases ht : tier∈([1,2,3,4,5] : List ℤ)
  · exact h tier ht
  · simp only [List.mem_cons,List.not_mem_nil,or_false,not_or] at ht
    simp [tierModel,ht]

lemma defaultModel_fst (p : RoutingProfile) : p.defaultModel.1 = p.tierModel p.defaultModel.2 := by
  unfold defaultModel
  by_cases h3 : p.tierModel 3≠""
  · rw [if_pos h3]
  · rw [if_neg h3]
    cases ([1,2,3,4,5] : List ℤ).find? (fun t => p.tierModel t≠"") with
    | none => rfl
    | some t => rfl

lemma defaultModel_configured (p : RoutingProfile) : p.Configured p.defaultModel := by
  by_cases hne : p.defaultModel.1 = ""
  · right
    apply tierModel_of_none
    intro t ht
    by_contra hmodel
    unfold defaultModel at hne
    by_cases h3 : p.tierModel 3≠""
    · rw [if_pos h3] at hne
      exact h3 hne
    · rw [if_neg h3] at hne
      cases hfind : ([1,2,3,4,5] : List ℤ).find? (fun t => p.tierModel t≠"") with
      | none => exact absurd (decide_eq_true hmodel) (List.find?_eq_none.mp hfind t ht)
      | some t' =>
        have hsome := List.find?_some hfind
        rw [hfind] at hne
        exact of_decide_eq_true hsome hne
  · exact .inl ⟨hne,p.defaultModel_fst⟩

lemma ofTier_configured (p : RoutingProfile) (tier : ℤ) : p.Configured (p.ofTier tier) := by
  unfold ofTier
  split_ifs with h
  · exact .inl ⟨h,rfl⟩
  · exact p.defaultModel_configured

lemma resolveModel_eq (parseFloat : String → Option Double) (p : RoutingProfile) (score : Double) :
    p.resolveModel parseFloat score = p.ofTier (matchTier score (parseScoreBands parseFloat p.scoreBands)) := by
  unfold resolveModel ofTier
  dsimp only
  split_ifs with h0 hmodel
  · rw [h0] at hmodel
    exact absurd p.tierModel_zero hmodel
  · rfl
  · rfl
  · rfl

/-- No tier matched is as good as this one exactly when it has no model or is the default. -/
lemma default_eq_ofTier_iff : p.ofTier 0 = p.ofTier tier ↔ p.tierModel tier = "" ∨ tier = p.defaultModel.2 := by
  have h0 : p.ofTier 0 = p.defaultModel := if_neg (not_not.mpr p.tierModel_zero)
  rw [h0,ofTier]
  by_cases hmodel : p.tierModel tier = ""
  · rw [if_neg (not_not.mpr hmodel)]
    exact iff_of_true rfl (.inl hmodel)
  · rw [if_pos hmodel,or_iff_right hmodel]
    constructor
    · exact fun h => (congrArg Prod.snd h).symm
    · rintro rfl
      exact Prod.ext p.defaultModel_fst rfl

end RoutingProfile

/-! ## Tilings -/

/-- A band between two numbers. -/
structure ExactBand where
  lo : ℚ
  hi : ℚ
  tier : ℤ
  deriving DecidableEq

def ExactBand.scoreBand (b : ExactBand) : ScoreBand := ⟨.finite b.lo,.finite b.hi,b.tier⟩

section Match
variable {bands : List ExactBand} {b : ExactBand} {score : ℚ}

/-- Below the top the first band that matches is the one that covers the score. -/
lemma matchTier_of_lt (htop : score<10) (hb : b∈bands) (hcovers : Covers ExactBand.lo ExactBand.hi 10 score b)
    (hunique : ∀ c∈bands, Covers ExactBand.lo ExactBand.hi 10 score c → c = b) :
    matchTier (.finite score) (bands.map ExactBand.scoreBand) = b.tier := by
  have hin : b.lo ≤ score ∧ score<b.hi := ⟨hcovers.1,hcovers.2.resolve_right (fun h => htop.ne h.1)⟩
  induction bands with
  | nil => exact absurd hb List.not_mem_nil
  | cons c bands ih =>
    by_cases hc : c.lo ≤ score ∧ score < c.hi
    · obtain rfl := hunique c List.mem_cons_self ⟨hc.1,.inl hc.2⟩
      cases bands <;> simp [matchTier,ExactBand.scoreBand,Double.le,Double.lt,hc]
    · have hrest : b∈bands := by
        rcases List.mem_cons.mp hb with rfl | hrest
        · exact absurd hin hc
        · exact hrest
      have htail := ih hrest (fun d hd => hunique d (List.mem_cons_of_mem _ hd))
      cases bands with
      | nil => exact absurd hrest List.not_mem_nil
      | cons d bands =>
        have hmiss : (c.scoreBand.lo.le (.finite score) && (Double.finite score).lt c.scoreBand.hi) = false := by
          simpa [ExactBand.scoreBand,Double.le,Double.lt] using hc
        rw [List.map_cons,List.map_cons,matchTier,hmiss]
        · exact htail
        · exact List.cons_ne_nil _ _

/-- At the top only the band that is listed last can match, if it ends there. -/
lemma matchTier_top (hhi : ∀ c∈bands, c.hi≤10) (hlo : ∀ c∈bands, c.lo≤10) :
    matchTier (.finite 10) (bands.map ExactBand.scoreBand) =
      ((bands.getLast?.filter (fun c => c.hi = 10)).map ExactBand.tier).getD 0 := by
  induction bands with
  | nil => rfl
  | cons c bands ih =>
    have hclosed : (c.scoreBand.lo.le (.finite 10) && (Double.finite 10).lt c.scoreBand.hi) = false := by
      simpa [ExactBand.scoreBand,Double.le,Double.lt] using fun _ => hhi c List.mem_cons_self
    cases bands with
    | nil =>
      have hiff : (10 ≤ c.hi) = (c.hi = 10) :=
        propext ⟨fun h => le_antisymm (hhi c List.mem_cons_self) h,fun h => h.ge⟩
      have hle : (c.scoreBand.lo.le (.finite 10) && (Double.finite 10).le c.scoreBand.hi) = decide (c.hi = 10) := by
        simp [ExactBand.scoreBand,Double.le,hlo c List.mem_cons_self,hiff]
      rw [List.map_singleton,matchTier,hclosed,hle,Bool.false_or,List.getLast?_singleton]
      by_cases htop : c.hi = 10
      · rw [Option.filter_some_pos (by simpa using htop),if_pos (decide_eq_true htop)]
        rfl
      · rw [Option.filter_some_neg (by simpa using htop),if_neg (by simpa using htop)]
        rfl
    | cons d bands =>
      have htail := ih (fun e he => hhi e (List.mem_cons_of_mem _ he)) (fun e he => hlo e (List.mem_cons_of_mem _ he))
      rw [List.map_cons,List.map_cons,matchTier,hclosed,List.getLast?_cons_cons]
      · exact htail
      · exact List.cons_ne_nil _ _

end Match

/-- One band covers the score. Its tier decides, unless the score is the top, the top band is not listed last, and
its tier has a model and is not the default. What is returned is always a model of the tier returned with it. -/
theorem resolveModel_spec (parseFloat : String → Option Double) (p : RoutingProfile) (bands : List ExactBand)
    (score : ℚ) (hbands : parseScoreBands parseFloat p.scoreBands = bands.map ExactBand.scoreBand)
    (htiles : Tiles ExactBand.lo ExactBand.hi 0 10 bands) (h0 : 0 ≤ score) (h10 : score≤10) :
    p.Configured (p.resolveModel parseFloat (.finite score)) ∧
    ∃ b∈bands, Covers ExactBand.lo ExactBand.hi 10 score b ∧
      (∀ c∈bands, Covers ExactBand.lo ExactBand.hi 10 score c → c = b) ∧
      (p.resolveModel parseFloat (.finite score) = p.ofTier b.tier ↔
        score≠10 ∨ bands.getLast? = some b ∨ p.tierModel b.tier = "" ∨ b.tier = p.defaultModel.2) := by
  rw [RoutingProfile.resolveModel_eq,hbands]
  refine ⟨p.ofTier_configured _,?_⟩
  obtain ⟨b,hb,hcovers,hunique⟩ := htiles.exists_unique (by norm_num) h0 h10
  refine ⟨b,hb,hcovers,hunique,?_⟩
  by_cases htop : score = 10
  · subst htop
    have hhi : ∀ c∈bands, c.hi≤10 := fun c hc => htiles.hi_le hc
    have hlo : ∀ c∈bands, c.lo≤10 := fun c hc => htiles.lo_le hc
    have hbtop : b.hi = 10 := by
      rcases hcovers.2 with hlt | ⟨-,heq⟩
      · exact absurd (hhi b hb) (not_le.mpr hlt)
      · exact heq
    rw [matchTier_top hhi hlo,or_iff_right (not_not.mpr rfl)]
    by_cases hlast : bands.getLast? = some b
    · apply iff_of_true ?_ (.inl hlast)
      rw [hlast,Option.filter_some_pos (by simpa using hbtop)]
      rfl
    · have hnone : bands.getLast?.filter (fun c => c.hi = 10) = none := by
        rw [Option.filter_eq_none_iff]
        intro c hc hchi
        have hmem := List.mem_of_getLast? hc
        obtain rfl := hunique c hmem ⟨hlo c hmem,.inr ⟨rfl,of_decide_eq_true hchi⟩⟩
        exact hlast hc
      rw [hnone,or_iff_right hlast]
      exact RoutingProfile.default_eq_ofTier_iff
  · apply iff_of_true ?_ (.inl htop)
    rw [matchTier_of_lt (lt_of_le_of_ne h10 htop) hb hcovers hunique]

/-! ## Bands in two orders -/

def readDouble (s : String) : Option Double := (Text.parseDecimal s).map .finite

def threeModels (scoreBands : String) : RoutingProfile := ⟨scoreBands,"strong","","medium","","cheap"⟩

theorem resolveModel_spec_ascending : (threeModels "0-9:5,9-10:1").Configured
    ((threeModels "0-9:5,9-10:1").resolveModel readDouble (.finite 10)) := by
  have hbands : parseScoreBands readDouble (threeModels "0-9:5,9-10:1").scoreBands =
      ([⟨0,9,5⟩,⟨9,10,1⟩] : List ExactBand).map ExactBand.scoreBand := by decide
  have hchain : Bands.Chain ExactBand.lo ExactBand.hi 10 0 [⟨0,9,5⟩,⟨9,10,1⟩] :=
    ⟨rfl,by decide,rfl,by decide,rfl⟩
  exact (resolveModel_spec readDouble _ _ 10 hbands ⟨_,List.Perm.refl _,hchain⟩ (by decide) le_rfl).1

/-- With the top band listed first the top score goes to the default. -/
theorem top_score_unmatched :
    Tiles ExactBand.lo ExactBand.hi 0 10 [⟨9,10,1⟩,⟨0,9,5⟩] ∧
    parseScoreBands readDouble (threeModels "9-10:1,0-9:5").scoreBands =
      ([⟨9,10,1⟩,⟨0,9,5⟩] : List ExactBand).map ExactBand.scoreBand ∧
    ¬∃ b∈([⟨9,10,1⟩,⟨0,9,5⟩] : List ExactBand), Covers ExactBand.lo ExactBand.hi 10 10 b ∧
      (threeModels "9-10:1,0-9:5").resolveModel readDouble (.finite 10) =
          (threeModels "9-10:1,0-9:5").ofTier b.tier := by
  refine ⟨⟨[⟨0,9,5⟩,⟨9,10,1⟩],List.Perm.swap _ _ _,rfl,by decide,rfl,by decide,rfl⟩,
    by decide,?_⟩
  rintro ⟨b,hb,hcovers,heq⟩
  rcases List.mem_cons.mp hb with rfl | hb
  · revert heq
    decide
  · obtain rfl := List.mem_singleton.mp hb
    revert heq
    decide

end Routing
end Tierflow
