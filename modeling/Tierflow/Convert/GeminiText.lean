import Tierflow.Foundation.Scanning
import Tierflow.Foundation.Segments

/-! The images inside a text, written as `![alt](data:...)`: how the conversion cuts them out, and which parts the
text really has. -/
namespace Tierflow
namespace Convert
namespace Gemini

open Scanning

/-- An image with the text before it. -/
structure MarkdownImage where
  textBefore : List Char
  alt : List Char
  dataUrl : List Char
  deriving DecidableEq, Repr

/-! ## The scan of the conversion -/

/-- One pass of the loop: the first `![`, the first `](data:` from there on, the first `)` after its two
characters. -/
def cutImage? (text : List Char) : Option (MarkdownImage × List Char) := do
  let (textBefore,fromStart) ← breakAt ['!','['] text
  let (opening,fromBracket) ← breakAt [']','(','d','a','t','a',':'] fromStart
  let (dataUrl,fromClose) ← breakAt [')'] (fromBracket.drop 2)
  return (⟨textBefore,opening.drop 2,dataUrl⟩,fromClose.drop 1)

/-! ## Images -/

/-- Every bracket inside is closed; the number counts those that are open. -/
def balancedFrom : ℕ → List Char → Bool
  | n,[] => n == 0
  | n,c::cs =>
    if c = '[' then balancedFrom (n+1) cs
    else if c = ']' then n != 0 && balancedFrom (n-1) cs
    else balancedFrom n cs

def balanced (alt : List Char) : Bool := balancedFrom 0 alt

/-- What is between the two characters at the beginning and the next link to data, the link, and the rest. -/
def linkAt? (text : List Char) : Option (MarkdownImage × List Char) := do
  let (opening,fromBracket) ← breakAt [']','(','d','a','t','a',':'] text
  let (dataUrl,fromClose) ← breakAt [')'] (fromBracket.drop 2)
  return (⟨[],opening.drop 2,dataUrl⟩,fromClose.drop 1)

/-- The image that begins here, and what follows it: the brackets in its alternative text are balanced. -/
def imageAt? (text : List Char) : Option (MarkdownImage × List Char) :=
  if ['!','['].isPrefixOf text then (linkAt? text).filter (fun found => balanced found.1.alt) else none

/-- The image `m`, seen from further left. -/
def MarkdownImage.behind (m : MarkdownImage) (before : List Char) : MarkdownImage :=
  { m with textBefore := before++m.textBefore }

/-- The first image of a text. -/
def firstImage? : List Char → Option (MarkdownImage × List Char)
  | [] => none
  | c::cs =>
    match imageAt? (c::cs) with
    | some found => some found
    | none => (firstImage? cs).map (fun found => (found.1.behind [c],found.2))

/-! ## Parts of a text -/

inductive Fragment (δ : Type*)
  | text (s : List Char)
  | image (d : δ)
  deriving DecidableEq, Repr

def Fragment.IsText {δ : Type*} : Fragment δ → Prop
  | .text _ => True
  | .image _ => False

section Fragments
variable {δ : Type*}

/-- No part for an empty text. -/
def fragment (l : List Char) : List (Fragment δ) := if l = [] then [] else [.text l]

variable (decode : List Char → δ)

def MarkdownImage.fragments (m : MarkdownImage) : List (Fragment δ) :=
  fragment m.textBefore++[.image (decode m.dataUrl)]

/-- The parts of a text: its images, and the texts before, between and after them. -/
def splitText (text : List Char) : List (Fragment δ) :=
  (chop firstImage? text).1.flatMap (MarkdownImage.fragments decode)++fragment (chop firstImage? text).2

/-- The parts that the scan leaves: the whole text where no image was cut out. -/
def scanText (text : List Char) : List (Fragment δ) :=
  (chop cutImage? text).1.flatMap (MarkdownImage.fragments decode)++
    if (chop cutImage? text).1 = [] then fragment text else []

end Fragments

/-- Nothing follows the last image that the scan cuts out, and every alternative text that it passes over has its
brackets balanced. -/
def Kept (text : List Char) : Prop :=
  (∀ m∈(chop cutImage? text).1, balanced m.alt = true) ∧
    ((chop cutImage? text).1≠[] → (chop cutImage? text).2 = [])

instance (text : List Char) : Decidable (Kept text) := inferInstanceAs (Decidable (_ ∧ _))

/-! ## Where images begin -/

section Places
variable {text rest b f : List Char} {m : MarkdownImage}

/-- A link that is found in the end of a text is found in the whole text, there or before. -/
lemma linkAt?_of_suffix {text' : List Char} (hsuffix : text<:+text') {found} (h : linkAt? text = some found) :
    ∃ found', linkAt? text' = some found' := by
  simp only [linkAt?,Option.bind_eq_bind,Option.bind_eq_some_iff,Prod.exists] at h
  obtain ⟨opening,fromBracket,ho,dataUrl,fromClose,hu,-⟩ := h
  obtain ⟨opening',fromBracket',ho',hs⟩ := breakAt_of_suffix hsuffix ho
  obtain ⟨dataUrl',fromClose',hu',-⟩ := breakAt_of_suffix (drop_suffix_of_suffix hs 2) hu
  exact ⟨_,by simp only [linkAt?,Option.bind_eq_bind,ho',hu',Option.bind_some]; rfl⟩

/-- The scan looks for a link at the first `![`. -/
lemma cutImage?_eq (text : List Char) : cutImage? text =
    (breakAt ['!','['] text).bind (fun s => (linkAt? s.2).map (fun found => (found.1.behind s.1,found.2))) := by
  unfold cutImage? linkAt?
  cases breakAt ['!','['] text with
  | none => rfl
  | some s =>
    obtain ⟨textBefore,fromStart⟩ := s
    simp only [Option.bind_eq_bind,Option.bind_some]
    cases breakAt [']','(','d','a','t','a',':'] fromStart with
    | none => rfl
    | some t =>
      simp only [Option.bind_some]
      cases breakAt [')'] (t.2.drop 2) with
      | none => rfl
      | some u => simp [MarkdownImage.behind]

lemma cutImage?_some (h : cutImage? text = some (m,rest)) :
    ∃ f, breakAt ['!','['] text = some (m.textBefore,f) ∧ linkAt? f = some ({ m with textBefore := [] },rest) := by
  rw [cutImage?_eq,Option.bind_eq_some_iff] at h
  obtain ⟨⟨b,f⟩,hb,hl⟩ := h
  rw [Option.map_eq_some_iff] at hl
  obtain ⟨⟨i,r⟩,hl,heq⟩ := hl
  have hi : i.textBefore = [] := by
    simp only [linkAt?,Option.bind_eq_bind,Option.bind_eq_some_iff,Prod.exists] at hl
    obtain ⟨_,_,-,_,_,-,hi⟩ := hl
    cases hi
    rfl
  obtain ⟨_,alt,url⟩ := i
  cases hi
  cases heq
  refine ⟨f,?_,hl⟩
  rw [MarkdownImage.behind,List.append_nil]
  exact hb

lemma imageAt?_some {found} (h : imageAt? text = some found) :
    ['!','[']<+:text ∧ linkAt? text = some found ∧ balanced found.1.alt = true := by
  unfold imageAt? at h
  split_ifs at h with hp
  obtain ⟨hl,hb⟩ := Option.filter_eq_some_iff.mp h
  exact ⟨List.isPrefixOf_iff_prefix.mp hp,hl,by simpa using hb⟩

lemma imageAt?_of_starts {found} (hp : ['!','[']<+:text) (hl : linkAt? text = some found) :
    imageAt? text = if balanced found.1.alt then some found else none := by
  rw [imageAt?,if_pos (List.isPrefixOf_iff_prefix.mpr hp),hl]
  cases hb : balanced found.1.alt with
  | true => rw [if_pos rfl,Option.filter_some,if_pos hb]
  | false => rw [if_neg (by decide),Option.filter_some,if_neg (by rw [hb]; decide)]

lemma imageAt?_none (hp : ¬['!','[']<+:text) : imageAt? text = none := by
  rw [imageAt?,if_neg]
  exact fun h => hp (List.isPrefixOf_iff_prefix.mp h)

/-- Where the first image of a text begins. -/
lemma firstImage?_some (h : firstImage? text = some (m,rest)) :
    ∃ y, text = m.textBefore++y ∧ imageAt? y = some ({ m with textBefore := [] },rest) := by
  induction text generalizing m with
  | nil => cases h
  | cons c cs ih =>
    rw [firstImage?] at h
    cases hi : imageAt? (c::cs) with
    | some found =>
      rw [hi] at h
      cases h
      have hbefore : m.textBefore = [] := by
        have hl := (imageAt?_some hi).2.1
        simp only [linkAt?,Option.bind_eq_bind,Option.bind_eq_some_iff,Prod.exists] at hl
        obtain ⟨_,_,-,_,_,-,hm⟩ := hl
        cases hm
        rfl
      refine ⟨c::cs,by rw [hbefore,List.nil_append],?_⟩
      rw [hi]
      obtain ⟨_,alt,url⟩ := m
      cases hbefore
      rfl
    | none =>
      rw [hi] at h
      obtain ⟨⟨m',r⟩,hm,heq⟩ := Option.map_eq_some_iff.mp h
      cases heq
      obtain ⟨y,hy,himage⟩ := ih hm
      refine ⟨y,?_,himage⟩
      rw [hy]
      rfl

/-- Only at the first `![` can the scan and the reading from left to right meet for the first time. -/
lemma firstImage?_of_break {found} (hb : breakAt ['!','['] text = some (b,f)) (hi : imageAt? f = some found) :
    firstImage? text = some (found.1.behind b,found.2) := by
  induction text generalizing b with
  | nil =>
    rw [breakAt] at hb
    cases hb
  | cons c cs ih =>
    by_cases hp : ['!','[']<+:c::cs
    · rw [breakAt_of_starts hp] at hb
      cases hb
      rw [firstImage?,hi]
      rfl
    · rw [breakAt_cons hp] at hb
      obtain ⟨⟨b',f'⟩,hs,heq⟩ := Option.map_eq_some_iff.mp hb
      cases heq
      rw [firstImage?,imageAt?_none hp]
      show (firstImage? cs).map _ = _
      rw [ih hs]
      rfl

/-- Where the scan finds nothing, there is no image. -/
lemma firstImage?_none (h : cutImage? text = none) : firstImage? text = none := by
  cases hf : firstImage? text with
  | none => rfl
  | some found =>
    obtain ⟨y,hy,himage⟩ := firstImage?_some hf
    obtain ⟨hp,hl,-⟩ := imageAt?_some himage
    obtain ⟨b,f,hb,hs⟩ := breakAt_of_suffix ⟨_,hy.symm⟩ (breakAt_of_starts hp)
    obtain ⟨found',hl'⟩ := linkAt?_of_suffix hs hl
    rw [cutImage?_eq,hb,Option.bind_some,hl'] at h
    cases h

/-- The scan cuts the first image, if the alternative text is balanced. -/
lemma firstImage?_of_balanced (h : cutImage? text = some (m,rest)) (hbal : balanced m.alt = true) :
    firstImage? text = some (m,rest) := by
  obtain ⟨f,hb,hl⟩ := cutImage?_some h
  have hi := imageAt?_of_starts (breakAt_starts hb) hl
  rw [if_pos hbal] at hi
  rw [firstImage?_of_break hb hi]
  simp [MarkdownImage.behind]

/-- Otherwise the first image of the text comes later. -/
lemma firstImage?_of_unbalanced (h : cutImage? text = some (m,rest)) (hbal : balanced m.alt = false)
    {m' : MarkdownImage} {rest' : List Char} (hf : firstImage? text = some (m',rest')) :
    m.textBefore.length < m'.textBefore.length := by
  obtain ⟨f,hb,hl⟩ := cutImage?_some h
  obtain ⟨y,hy,himage⟩ := firstImage?_some hf
  obtain ⟨hp,-,-⟩ := imageAt?_some himage
  refine lt_of_le_of_ne (breakAt_first hb hy hp) (fun hlen => ?_)
  obtain ⟨-,rfl⟩ := List.append_inj ((breakAt_append hb).symm.trans hy) hlen
  have hi := imageAt?_of_starts (breakAt_starts hb) hl
  rw [himage,if_neg (by rw [hbal]; decide)] at hi
  cases hi

/-- No image begins before the place where the scan finds one. -/
lemma firstImage?_length_le (h : cutImage? text = some (m,rest)) {m' : MarkdownImage} {rest' : List Char}
    (hf : firstImage? text = some (m',rest')) : m.textBefore.length ≤ m'.textBefore.length := by
  obtain ⟨f,hb,-⟩ := cutImage?_some h
  obtain ⟨y,hy,himage⟩ := firstImage?_some hf
  exact breakAt_first hb hy (imageAt?_some himage).1

lemma linkAt?_rest {found} (h : linkAt? text = some found) : found.2.length < text.length := by
  simp only [linkAt?,Option.bind_eq_bind,Option.bind_eq_some_iff,Prod.exists] at h
  obtain ⟨opening,fromBracket,ho,dataUrl,fromClose,hu,heq⟩ := h
  cases heq
  have h1 := congrArg List.length (breakAt_append ho)
  have h2 := congrArg List.length (breakAt_append hu)
  have h3 := (breakAt_starts hu).length_le
  simp only [List.length_append,List.length_drop,List.length_singleton] at h1 h2 h3 ⊢
  omega

lemma cutImage?_shrinks : Shrinks cutImage? := by
  intro l m rest h
  obtain ⟨f,hb,hl⟩ := cutImage?_some h
  have h1 := congrArg List.length (breakAt_append hb)
  have h2 := linkAt?_rest hl
  rw [List.length_append] at h1
  simp only at h2
  omega

lemma firstImage?_shrinks : Shrinks firstImage? := by
  intro l m rest h
  obtain ⟨y,hy,himage⟩ := firstImage?_some h
  have h1 := congrArg List.length hy
  have h2 := linkAt?_rest (imageAt?_some himage).2.1
  rw [List.length_append] at h1
  simp only at h2
  omega

end Places

/-! ## The parts compared -/

section Compared
variable {δ : Type*} (decode : List Char → δ) {text rest : List Char} {m : MarkdownImage}

lemma fragment_ne_nil (h : text≠[]) : (fragment text : List (Fragment δ)) = [.text text] := if_neg h

lemma splitText_none (h : firstImage? text = none) : splitText decode text = fragment text := by
  rw [splitText,chop_none h,List.flatMap_nil,List.nil_append]

lemma splitText_some (h : firstImage? text = some (m,rest)) :
    splitText decode text = m.fragments decode++splitText decode rest := by
  rw [splitText,chop_some firstImage?_shrinks h,List.flatMap_cons,List.append_assoc]
  rfl

lemma scanText_none (h : cutImage? text = none) : scanText decode text = fragment text := by
  rw [scanText,chop_none h,if_pos rfl,List.flatMap_nil,List.nil_append]

/-- What the scan leaves of a text that begins with an image or behind one. -/
def cutFragments (text : List Char) : List (Fragment δ) :=
  (chop cutImage? text).1.flatMap (MarkdownImage.fragments decode)

lemma cutFragments_none (h : cutImage? text = none) : cutFragments decode text = [] := by
  rw [cutFragments,chop_none h,List.flatMap_nil]

lemma cutFragments_some (h : cutImage? text = some (m,rest)) :
    cutFragments decode text = m.fragments decode++cutFragments decode rest := by
  rw [cutFragments,chop_some cutImage?_shrinks h,List.flatMap_cons]
  rfl

lemma scanText_some (h : cutImage? text = some (m,rest)) : scanText decode text = cutFragments decode text := by
  rw [scanText,chop_some cutImage?_shrinks h,if_neg (List.cons_ne_nil _ _),List.append_nil,cutFragments,
    chop_some cutImage?_shrinks h]

lemma length_lt_of_cut (h : cutImage? text = some (m,rest)) : m.textBefore.length < text.length := by
  obtain ⟨f,hb,-⟩ := cutImage?_some h
  have h1 := congrArg List.length (breakAt_append hb)
  have h2 := (breakAt_starts hb).length_le
  rw [List.length_append] at h1
  simp only [List.length_cons,List.length_nil] at h2
  omega

/-- The first part of a text is a text, if no image begins the text. -/
lemma splitText_head {n : ℕ} (hne : n<text.length)
    (hlater : ∀ m' rest', firstImage? text = some (m',rest') → n < m'.textBefore.length) :
    ∃ w tail, splitText decode text = .text w::tail ∧ n<w.length := by
  cases hf : firstImage? text with
  | none =>
    refine ⟨text,[],?_,hne⟩
    rw [splitText_none decode hf,fragment_ne_nil (List.ne_nil_of_length_pos (by omega))]
  | some found =>
    have hlen := hlater found.1 found.2 hf
    refine ⟨found.1.textBefore,.image (decode found.1.dataUrl)::splitText decode found.2,?_,hlen⟩
    rw [splitText_some decode hf,MarkdownImage.fragments,
      fragment_ne_nil (List.ne_nil_of_length_pos (by omega))]
    rfl

/-- A part that the scan takes for an image and that is none. -/
lemma clash_of_unbalanced (h : cutImage? text = some (m,rest)) (hbal : balanced m.alt = false) :
    Segments.Clash (splitText decode text) (cutFragments decode text) := by
  obtain ⟨w,tail,hs,hw⟩ := splitText_head decode (length_lt_of_cut h)
    (fun m' rest' hf => firstImage?_of_unbalanced h hbal hf)
  rw [hs,cutFragments_some decode h,MarkdownImage.fragments]
  by_cases hb : m.textBefore = []
  · refine ⟨[],.text w,.image (decode m.dataUrl),tail,cutFragments decode rest,by simp,rfl,?_⟩
    rw [fragment,if_pos hb]
    rfl
  · refine ⟨[],.text w,.text m.textBefore,tail,.image (decode m.dataUrl)::cutFragments decode rest,?_,rfl,?_⟩
    · intro heq
      cases heq
      exact lt_irrefl _ hw
    · rw [fragment_ne_nil hb]
      rfl

/-- Behind the first image, only what is left at the end is missing, unless an alternative text is unbalanced. -/
lemma splitText_eq_or_clash (text : List Char) :
    ((∀ m∈(chop cutImage? text).1, balanced m.alt = true) ∧
      splitText decode text = cutFragments decode text++fragment (chop cutImage? text).2) ∨
    ((∃ m∈(chop cutImage? text).1, balanced m.alt = false) ∧
      Segments.Clash (splitText decode text) (cutFragments decode text)) := by
  induction text using chop_induction cutImage?_shrinks with
  | last l h =>
    refine .inl ⟨?_,?_⟩
    · rw [chop_none h]
      simp
    · rw [splitText_none decode (firstImage?_none h),cutFragments_none decode h,chop_none h]
      rfl
  | piece l m rest h ih =>
    rw [chop_some cutImage?_shrinks h]
    cases hbal : balanced m.alt with
    | false => exact .inr ⟨⟨m,List.mem_cons_self,hbal⟩,clash_of_unbalanced decode h hbal⟩
    | true =>
      rw [splitText_some decode (firstImage?_of_balanced h hbal),cutFragments_some decode h]
      obtain ⟨hall,heq⟩ | ⟨⟨m',hm',hb⟩,hclash⟩ := ih
      · refine .inl ⟨?_,?_⟩
        · rw [List.forall_mem_cons]
          exact ⟨hbal,hall⟩
        · rw [heq,List.append_assoc]
      · exact .inr ⟨⟨m',List.mem_cons_of_mem _ hm',hb⟩,hclash.append_left _⟩

/-- The scan leaves the parts of the text, or clashes with them, or owes the text at its end. -/
theorem splitText_cases (text : List Char) : splitText decode text = scanText decode text ∨
    Segments.Clash (splitText decode text) (scanText decode text) ∨
    ∃ owed≠[], (∀ w∈owed, Fragment.IsText w) ∧ splitText decode text = scanText decode text++owed := by
  cases h : cutImage? text with
  | none => exact .inl (by rw [splitText_none decode (firstImage?_none h),scanText_none decode h])
  | some found =>
    rw [scanText_some decode h]
    obtain ⟨-,heq⟩ | ⟨-,hclash⟩ := splitText_eq_or_clash decode text
    · by_cases hleft : (chop cutImage? text).2 = []
      · left
        rw [heq,fragment,if_pos hleft,List.append_nil]
      · refine .inr (.inr ⟨[.text (chop cutImage? text).2],List.cons_ne_nil _ _,?_,?_⟩)
        · simp [Fragment.IsText]
        · rw [heq,fragment_ne_nil hleft]
    · exact .inr (.inl hclash)

/-- The scan leaves exactly the parts of the text just when the text is one that it keeps. -/
theorem splitText_eq_scanText_iff (text : List Char) :
    splitText decode text = scanText decode text ↔ Kept text := by
  cases h : cutImage? text with
  | none =>
    refine iff_of_true (by rw [splitText_none decode (firstImage?_none h),scanText_none decode h]) ?_
    unfold Kept
    rw [chop_none h]
    simp
  | some found =>
    have hcuts : (chop cutImage? text).1≠[] := by
      rw [chop_some cutImage?_shrinks h]
      exact List.cons_ne_nil _ _
    rw [scanText_some decode h]
    obtain ⟨hall,heq⟩ | ⟨⟨m,hm,hbal⟩,hclash⟩ := splitText_eq_or_clash decode text
    · rw [heq,List.append_right_eq_self,fragment,ite_eq_left_iff]
      constructor
      · intro hleft
        refine ⟨hall,fun _ => ?_⟩
        by_contra hne
        cases hleft hne
      · intro hkept hne
        exact absurd (hkept.2 hcuts) hne
    · refine iff_of_false hclash.ne (fun hkept => ?_)
      rw [hkept.1 m hm] at hbal
      cases hbal

/-- The scan cannot make up for a text that was lost before. -/
theorem scanText_strict (text : List Char) :
    Segments.Strict Fragment.IsText (splitText decode text) (scanText decode text) := by
  cases h : cutImage? text with
  | none =>
    rw [splitText_none decode (firstImage?_none h),scanText_none decode h,fragment]
    split_ifs
    · exact .empty
    · exact .same _ trivial
  | some found =>
    have hcut : cutImage? text = some (found.1,found.2) := h
    rw [scanText_some decode hcut,cutFragments_some decode hcut,MarkdownImage.fragments]
    by_cases hb : found.1.textBefore = []
    · rw [fragment,if_pos hb]
      exact .other _ (by simp [Fragment.IsText])
    · obtain ⟨w,tail,hs,-⟩ := splitText_head decode (n := 0)
        (lt_of_le_of_lt (Nat.zero_le _) (length_lt_of_cut hcut))
        (fun m' rest' hf => lt_of_lt_of_le (List.length_pos_iff.mpr hb) (firstImage?_length_le hcut hf))
      rw [hs,fragment_ne_nil hb]
      exact .second _ _ _ trivial (by simp [Fragment.IsText])

end Compared

end Gemini
end Convert
end Tierflow
