import Mathlib.Data.List.Basic
import Mathlib.Tactic
import Tierflow.Foundation.Text

/-! Texts written piece by piece, with a line break between two pieces, and what is left of a text without its
line breaks. -/
namespace Tierflow
namespace Lines

/-- A text that is being written, and the number of its pieces. -/
structure Builder where
  content : String
  appended : ℕ
  deriving DecidableEq, Repr

def Builder.empty : Builder := ⟨"",0⟩

def Builder.write (b : Builder) (piece : String) : Builder :=
  ⟨(if 0<b.appended then b.content++"\n" else b.content)++piece,b.appended+1⟩

def written (pieces : List String) : Builder := pieces.foldl Builder.write .empty

lemma written_concat (pieces : List String) (piece : String) :
    written (pieces++[piece]) = (written pieces).write piece := by
  unfold written
  rw [List.foldl_append,List.foldl_cons,List.foldl_nil]

/-- The pieces are joined by line breaks. -/
theorem written_eq (pieces : List String) : written pieces = ⟨"\n".intercalate pieces,pieces.length⟩ := by
  induction pieces using List.reverseRecOn with
  | nil => simp [written,Builder.empty]
  | append_singleton pieces piece ih =>
    rw [written_concat,ih,Builder.write]
    cases pieces with
    | nil => simp
    | cons p ps =>
      rw [String.intercalate_append_of_ne_nil (List.cons_ne_nil p ps) (List.cons_ne_nil piece [])]
      simp

/-- The characters of a text other than line breaks. -/
def unbroken (s : String) : List Char := s.toList.filter (fun c => c ≠ '\n')

@[simp] lemma unbroken_empty : unbroken "" = [] := by simp [unbroken]

@[simp] lemma unbroken_break : unbroken "\n" = [] := by decide

@[simp] lemma unbroken_append (s t : String) : unbroken (s++t) = unbroken s++unbroken t := by simp [unbroken]

@[simp] lemma unbroken_intercalate (pieces : List String) :
    unbroken ("\n".intercalate pieces) = pieces.flatMap unbroken := by
  induction pieces with
  | nil => simp
  | cons p ps ih =>
    cases ps with
    | nil => simp
    | cons q qs => rw [String.intercalate_cons_cons,unbroken_append,unbroken_append,ih,unbroken_break]; simp

/-- One text occurs in another. -/
def Within (t s : String) : Prop := t.toList<:+:s.toList

lemma Within.append_left {t s : String} (h : Within t s) (r : String) : Within t (r++s) := by
  unfold Within
  rw [String.toList_append]
  exact h.trans (List.suffix_append _ _).isInfix

lemma Within.append_right {t s : String} (h : Within t s) (r : String) : Within t (s++r) := by
  unfold Within
  rw [String.toList_append]
  exact h.trans (List.prefix_append _ _).isInfix

lemma Within.refl (t : String) : Within t t := List.infix_refl _

lemma within_intercalate {t : String} {pieces : List String} (h : t∈pieces) : Within t ("\n".intercalate pieces) := by
  induction pieces with
  | nil => simp at h
  | cons p ps ih =>
    cases ps with
    | nil =>
      rw [String.intercalate_singleton,List.mem_singleton.mp h]
      exact .refl p
    | cons q qs =>
      rw [String.intercalate_cons_cons]
      rcases List.mem_cons.mp h with rfl | h
      · exact ((Within.refl t).append_right _).append_right _
      · exact (ih h).append_left _

lemma within_join {t s : String} {l : List String} (h : Within t s) (hs : s∈l) : Within t (String.join l) := by
  induction l with
  | nil => simp at hs
  | cons r l ih =>
    rw [String.join_cons]
    rcases List.mem_cons.mp hs with rfl | hs
    · exact h.append_right _
    · exact (ih hs).append_left _

/-! ## With and without line breaks -/

/-- A text behind what was written before, on a line of its own. -/
def below (sb text : String) : String := (if sb≠"" then sb++"\n" else sb)++text

lemma below_of_ne {sb : String} (h : sb≠"") (text : String) : below sb text = sb++"\n"++text := by
  rw [below,if_pos h]

@[simp] lemma below_empty (text : String) : below "" text = text := by simp [below]

lemma append_ne_empty {s : String} (h : s≠"") (t : String) : s++t≠"" := by
  intro heq
  have hlen := congrArg String.length heq
  rw [String.length_append,String.length_empty] at hlen
  exact h (String.length_eq_zero_iff.mp (by omega))

lemma foldl_below {sb : String} (h : sb≠"") (texts : List String) :
    texts.foldl below sb = sb++String.join (texts.map (fun t => "\n"++t)) := by
  induction texts generalizing sb with
  | nil => simp
  | cons t texts ih =>
    have hne : sb++"\n"++t≠"" := append_ne_empty (append_ne_empty h "\n") t
    rw [List.foldl_cons,below_of_ne h,ih hne,List.map_cons,String.join_cons,String.append_assoc,String.append_assoc,
      String.append_assoc]

lemma length_join_breaks (texts : List String) :
    (String.join (texts.map (fun t => "\n"++t))).length = texts.length+(String.join texts).length := by
  induction texts with
  | nil => simp
  | cons t texts ih =>
    rw [List.map_cons,String.join_cons,String.join_cons,String.length_append,String.length_append,String.length_append,
      ih,List.length_cons,show "\n".length = 1 from rfl]
    omega

/-- Lines make no difference where only the last text is not empty. -/
theorem foldl_below_eq_join_iff {texts : List String} :
    texts.foldl below "" = String.join texts ↔ ∀ t∈texts.dropLast, t = "" := by
  induction texts with
  | nil => simp
  | cons t texts ih =>
    rw [List.foldl_cons,below_empty,String.join_cons]
    cases texts with
    | nil => simp
    | cons u texts =>
      rw [List.dropLast_cons_cons,List.forall_mem_cons]
      by_cases ht : t = ""
      · rw [ht,String.empty_append,ih]
        simp
      · rw [foldl_below ht]
        constructor
        · intro h
          have hlen := congrArg String.length h
          rw [String.length_append,String.length_append,length_join_breaks,List.length_cons] at hlen
          omega
        · rintro ⟨h,-⟩
          exact absurd h ht

section Interleaved
variable {α : Type*} {f g : α → String} {l : List α}

lemma length_join_interleaved (f g : α → String) (l : List α) : (String.join (l.map (fun a => f a++g a))).length =
    (String.join (l.map f)).length+(String.join (l.map g)).length := by
  induction l with
  | nil => simp
  | cons a l ih =>
    rw [List.map_cons,List.map_cons,List.map_cons,String.join_cons,String.join_cons,String.join_cons,
      String.length_append,String.length_append,String.length_append,String.length_append,ih]
    omega

/-- Two texts that come piece by piece in turns are one of them only when the other one is empty. -/
theorem join_interleaved_eq_iff : String.join (l.map (fun a => f a++g a)) =
    (if String.join (l.map f) = "" then String.join (l.map g) else String.join (l.map f)) ↔
      String.join (l.map f) = "" ∨ String.join (l.map g) = "" := by
  constructor
  · intro h
    by_contra hne
    obtain ⟨hf,hg⟩ := not_or.mp hne
    have hlen := congrArg String.length h
    rw [if_neg hf,length_join_interleaved] at hlen
    exact hg (String.length_eq_zero_iff.mp (by omega))
  · rintro (h | h)
    · rw [if_pos h]
      have hempty := Text.join_eq_empty_iff.mp h
      congr 1
      apply List.map_congr_left
      intro a ha
      rw [hempty _ (List.mem_map_of_mem ha),String.empty_append]
    · have hempty := Text.join_eq_empty_iff.mp h
      have hjoin : String.join (l.map (fun a => f a++g a)) = String.join (l.map f) := by
        congr 1
        apply List.map_congr_left
        intro a ha
        rw [hempty _ (List.mem_map_of_mem ha),String.append_empty]
      rw [hjoin,h]
      split_ifs with hf
      · exact hf
      · rfl

end Interleaved

end Lines
end Tierflow
