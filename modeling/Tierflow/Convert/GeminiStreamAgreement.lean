import Tierflow.Convert.GeminiStreamRun

/-! The chat message of a streamed Gemini answer beside that of the whole answer. Calls and finish reason are the
same; so are text and thoughts up to the line breaks, where no response mixes them. -/
namespace Tierflow
namespace Convert
namespace GeminiReply
open Gemini (FunctionCall)
open Lines

section Shown
variable {J : Type*} {responses : List (List (Piece J))}

/-! ## What the two messages show -/

/-- No thought stands beside a part that is shown as text. -/
def Unmixed (ps : List (Piece J)) : Prop := thoughtsOf ps = [] ∨ ps.filterMap Piece.whole? = []

/-- All inline data are images. -/
def Pictured (ps : List (Piece J)) : Prop := ∀ d, .inlineData d∈ps → isImage d = true

def Piece.isCode : Piece J → Bool
  | .executableCode _ => true
  | .codeExecutionResult _ => true
  | _ => false

variable {ps : List (Piece J)}

lemma unbroken_streamed (ht : thoughtsOf ps = []) (hd : Pictured ps) :
    (ps.filterMap Piece.streamed?).flatMap unbroken = (ps.filterMap Piece.whole?).flatMap unbroken := by
  induction ps with
  | nil => rfl
  | cons p ps ih =>
    have hd' : Pictured ps := fun d hm => hd d (List.mem_cons_of_mem p hm)
    cases p with
    | inlineData d =>
      have hi : isImage d = true := hd d List.mem_cons_self
      simp [hi,ih ht hd']
    | functionCall call => exact ih ht hd'
    | thought s => simp [thoughtsOf] at ht
    | executableCode e => simp [ih ht hd']
    | codeExecutionResult output => simp [ih ht hd']
    | text s => by_cases hs : s = "\n" <;> simp [hs,ih ht hd']

lemma streamed_of_plain (ht : thoughtsOf ps = []) (hd : Pictured ps) (hc : ∀ p∈ps, p.isCode = false) :
    ps.filterMap Piece.streamed? = ps.filterMap Piece.whole? := by
  apply List.filterMap_congr
  intro p hp
  cases p with
  | inlineData d => simp [hd d hp]
  | functionCall call => rfl
  | thought s =>
    have hm : s∈thoughtsOf ps := List.mem_filterMap.mpr ⟨_,hp,rfl⟩
    rw [ht] at hm
    exact absurd hm List.not_mem_nil
  | executableCode e => exact absurd (hc _ hp) (by simp [Piece.isCode])
  | codeExecutionResult output => exact absurd (hc _ hp) (by simp [Piece.isCode])
  | text s => rfl

lemma streamed_of_hidden (hw : ps.filterMap Piece.whole? = []) : ps.filterMap Piece.streamed? = thoughtsOf ps := by
  apply List.filterMap_congr
  intro p hp
  have hn := List.filterMap_eq_nil_iff.mp hw p hp
  cases p with
  | inlineData d => simp at hn
  | functionCall call => rfl
  | thought s => rfl
  | executableCode e => simp at hn
  | codeExecutionResult output => simp at hn
  | text s => simpa using hn

/-- Up to line breaks the chunks carry the text of the whole answer. -/
theorem unbroken_textOf (h : ∀ ps∈responses, Pictured ps ∧ Unmixed ps) :
    unbroken (textOf responses) = unbroken (wholeText responses.flatten) := by
  unfold wholeText
  rw [unbroken_intercalate]
  induction responses with
  | nil => simp [textOf]
  | cons ps responses ih =>
    obtain ⟨hd,hu⟩ := h ps List.mem_cons_self
    have hrest := ih (fun qs hq => h qs (List.mem_cons_of_mem ps hq))
    unfold textOf at hrest ⊢
    rw [List.map_cons,String.join_cons,unbroken_append,hrest,List.flatten_cons,List.filterMap_append,
      List.flatMap_append]
    congr 1
    by_cases ht : thoughtsOf ps = []
    · rw [if_pos ht,chunkText,unbroken_intercalate,unbroken_streamed ht hd]
    · rw [if_neg ht,hu.resolve_left ht]
      simp

lemma textOf_append (l r : List (List (Piece J))) : textOf (l++r) = textOf l++textOf r := by
  unfold textOf
  rw [List.map_append,String.join_append]

lemma textOf_hidden (h : ∀ ps∈responses, ps.filterMap Piece.whole? = []) : textOf responses = "" := by
  induction responses with
  | nil => rfl
  | cons ps responses ih =>
    have hrest := ih (fun qs hq => h qs (List.mem_cons_of_mem ps hq))
    have hps : (if thoughtsOf ps = [] then chunkText ps else "") = "" := by
      split_ifs with ht
      · rw [chunkText,streamed_of_hidden (h ps List.mem_cons_self),ht,String.intercalate_nil]
      · rfl
    unfold textOf at hrest ⊢
    rw [List.map_cons,String.join_cons,hrest,hps]
    rfl

lemma whole_hidden (h : ∀ ps∈responses, ps.filterMap Piece.whole? = []) :
    responses.flatten.filterMap Piece.whole? = [] := by
  rw [List.filterMap_eq_nil_iff]
  intro p hp
  obtain ⟨ps,hps,hp⟩ := List.mem_flatten.mp hp
  exact List.filterMap_eq_nil_iff.mp (h ps hps) p hp

/-- Where only one response shows anything, and no code, the texts are the same. -/
theorem textOf_single {l r : List (List (Piece J))} (hd : Pictured ps) (hu : Unmixed ps) (hc : ∀ p∈ps, p.isCode = false)
    (hl : ∀ qs∈l++r, qs.filterMap Piece.whole? = []) : textOf (l++ps::r) = wholeText (l++ps::r).flatten := by
  have hleft : ∀ qs∈l, qs.filterMap Piece.whole? = [] := fun qs hq => hl qs (List.mem_append_left r hq)
  have hright : ∀ qs∈r, qs.filterMap Piece.whole? = [] := fun qs hq => hl qs (List.mem_append_right l hq)
  have hself : textOf [ps] = wholeText ps := by
    rcases hu with ht | hw
    · simp [textOf,ht,chunkText,wholeText,streamed_of_plain ht hd hc]
    · have hone : ∀ qs∈[ps], qs.filterMap Piece.whole? = [] := by simpa using hw
      rw [textOf_hidden hone,wholeText,hw,String.intercalate_nil]
  rw [show l++ps::r = l++([ps]++r) from rfl,textOf_append,textOf_append,textOf_hidden hleft,textOf_hidden hright,hself]
  unfold wholeText
  rw [List.flatten_append,List.filterMap_append,whole_hidden hleft,List.singleton_append,List.flatten_cons,
    List.filterMap_append,whole_hidden hright]
  simp

lemma thoughtsOf_append (l r : List (Piece J)) : thoughtsOf (l++r) = thoughtsOf l++thoughtsOf r :=
  List.filterMap_append

lemma reasoningOf_cons (ps : List (Piece J)) (responses : List (List (Piece J))) : reasoningOf (ps::responses) =
    (if thoughtsOf ps = [] then "" else chunkText ps)++reasoningOf responses := by
  unfold reasoningOf
  rw [List.map_cons,String.join_cons]

lemma reasoningOf_none (h : thoughtsOf responses.flatten = []) : reasoningOf responses = "" := by
  induction responses with
  | nil => rfl
  | cons ps responses ih =>
    rw [List.flatten_cons,thoughtsOf_append,List.append_eq_nil_iff] at h
    rw [reasoningOf_cons,if_pos h.1,ih h.2]
    rfl

/-- A single thought is carried as it is. -/
theorem reasoningOf_single (h : ∀ ps∈responses, Unmixed ps) (hone : (thoughtsOf responses.flatten).length≤1) :
    reasoningOf responses = (thoughtsOf responses.flatten).getLast?.getD "" := by
  induction responses with
  | nil => rfl
  | cons ps responses ih =>
    rw [List.flatten_cons,thoughtsOf_append] at hone ⊢
    rw [reasoningOf_cons]
    by_cases ht : thoughtsOf ps = []
    · rw [ht,List.nil_append] at hone ⊢
      rw [if_pos rfl,ih (fun qs hq => h qs (List.mem_cons_of_mem ps hq)) hone]
      simp
    · have hlen : 0<(thoughtsOf ps).length := List.length_pos_iff.mpr ht
      rw [List.length_append] at hone
      have hrest : thoughtsOf responses.flatten = [] := List.eq_nil_of_length_eq_zero (by omega)
      obtain ⟨t,hone'⟩ := List.length_eq_one_iff.mp (show (thoughtsOf ps).length = 1 by omega)
      have hs := streamed_of_hidden ((h ps List.mem_cons_self).resolve_left ht)
      rw [if_neg ht,hrest,reasoningOf_none hrest,chunkText,hs,hone']
      simp

/-- Texts and thoughts are contained in what carries them. -/
lemma within_whole {p : Piece J} {t : String} (hp : p∈ps) (hw : p.whole? = some t) : Within t (wholeText ps) :=
  within_intercalate (List.mem_filterMap.mpr ⟨p,hp,hw⟩)

lemma within_chunk {p : Piece J} {t : String} (hp : p∈ps) (hw : p.streamed? = some t) : Within t (chunkText ps) :=
  within_intercalate (List.mem_filterMap.mpr ⟨p,hp,hw⟩)

lemma within_textOf {t : String} (hps : ps∈responses) (ht : thoughtsOf ps = []) (h : Within t (chunkText ps)) :
    Within t (textOf responses) := by
  refine within_join h (List.mem_map.mpr ⟨ps,hps,?_⟩)
  rw [if_pos ht]

lemma within_reasoningOf {t : String} (hps : ps∈responses) (ht : t∈thoughtsOf ps) :
    Within t (reasoningOf responses) := by
  obtain ⟨p,hp,hpt⟩ := List.mem_filterMap.mp ht
  have hs : p.streamed? = some t := by
    cases p <;> simp_all
  refine within_join (within_chunk hp hs) (List.mem_map.mpr ⟨ps,hps,?_⟩)
  rw [if_neg (List.ne_nil_of_mem ht)]

end Shown

/-! ## Agreement -/

/-- How a message put together from the chunks of `responses`, and its finish reason, agree with the whole answer.
Line breaks between the parts aside, the texts are the same where no response mixes thoughts with text. -/
structure Agrees {J : Type*} (responses : List (List (Piece J))) (reason : Option String) (sent : List StreamResponse)
    (m : Message) (fr : Option String) (whole : OpenAIChoice) : Prop where
  calls : m.tools.map (fun t => (t.name,t.arguments)) = whole.message.tools.map (fun t => (t.name,t.arguments))
  /-- Each call has its own index. -/
  indexes : (openings sent).length = m.tools.length ∧ ((openings sent).map ToolCall.index).Nodup
  finish : reason ≠ none → reason = some "STOP" ∨ whole.message.tools = [] → fr = some whole.finishReason
  text : (∀ ps∈responses, Pictured ps ∧ Unmixed ps) → unbroken m.text = unbroken whole.message.text
  /-- Nothing comes between parts of one response, unless they are code. -/
  exactText : ∀ l ps r, responses = l++ps::r → Pictured ps → Unmixed ps → (∀ p∈ps, p.isCode = false) →
    (∀ qs∈l++r, qs.filterMap Piece.whole? = []) → m.text = whole.message.text
  reasoning : (∀ ps∈responses, Unmixed ps) → (thoughtsOf responses.flatten).length≤1 →
    m.reasoning = whole.message.reasoning
  texts : ∀ ps∈responses, ∀ t, .text t∈ps → t ≠ "\n" →
    Within t whole.message.text ∧ (thoughtsOf ps = [] → Within t m.text)
  thoughts : ∀ ps∈responses, ∀ t∈thoughtsOf ps, Within t m.reasoning

lemma calls_toolsFrom {J : Type*} (marshal : J → String) (uuid : ℕ → String) (n : ℕ) (calls : List (FunctionCall J)) :
    (toolsFrom marshal uuid n calls).map (fun t => (t.name,t.arguments)) =
      calls.map (fun call => (call.functionName,marshal call.arguments)) := by
  apply List.ext_getElem
  · simp
  · simp [toolsFrom]

/-- However an answer is cut into responses, the message that is put together from the chunks agrees with that of the
whole answer. -/
theorem gemini_stream_agrees {J : Type*} (marshal : J → String) (uuid uuid' : ℕ → String)
    (huuid : Function.Injective uuid) (id model : String) (usage : Option Usage) (cuts : List (List (ReplyPart J)))
    (last : List (ReplyPart J)) (reason : Option String) :
    let sent := geminiChatStreamHandler marshal uuid id model usage
      (cuts.map (fun parts => ⟨parts,none⟩)++[⟨last,reason⟩])
    ∃ m fr, received sent = some (m,fr) ∧
      Agrees ((cuts++[last]).map (fun parts => parts.map ReplyPart.piece)) reason sent m fr
        (responseGeminiChat2OpenAI marshal uuid' ⟨(cuts++[last]).flatten,reason⟩) := by
  intro sent
  set before := cuts.map (fun parts => (⟨parts,none⟩ : Candidate J)) with hbefore
  obtain ⟨fr0,h0⟩ : ∃ fr0, Sent marshal uuid (before.map pieces)
      (before.foldl (HandlerState.respond marshal uuid id model) .init) fr0 :=
    sent_responses id model huuid before
  obtain ⟨fr,h,hstop,hother⟩ := h0.respond id model huuid ⟨last,reason⟩
  have hR : before.map pieces++[pieces ⟨last,reason⟩] =
      (cuts++[last]).map (fun parts => parts.map ReplyPart.piece) := by
    simp [hbefore,pieces]
  have hflat : pieces (⟨(cuts++[last]).flatten,reason⟩ : Candidate J) =
      ((cuts++[last]).map (fun parts => parts.map ReplyPart.piece)).flatten := by
    unfold pieces
    rw [List.map_flatten]
  set done := before.foldl (HandlerState.respond marshal uuid id model) .init
  have hsent : sent = (done.respond marshal uuid id model ⟨last,reason⟩).sent++
      (usage.map (fun u => (⟨id,model,[],some u⟩ : StreamResponse))).toList := by
    show ((before++[(⟨last,reason⟩ : Candidate J)]).foldl (HandlerState.respond marshal uuid id model) .init).sent++_ = _
    rw [List.foldl_append]
    rfl
  have hlast : callsOf ((cuts++[last]).map (fun parts => parts.map ReplyPart.piece)).flatten = [] →
      callsOf (pieces (⟨last,reason⟩ : Candidate J)) = [] := by
    rw [←hR,flatten_concat,callsOf_append]
    exact fun hn => (List.append_eq_nil_iff.mp hn).2
  rw [hR] at h hstop
  generalize (cuts++[last]).map (fun parts => parts.map ReplyPart.piece) = R at h hflat hstop hlast ⊢
  have hopen : openings sent = openings (done.respond marshal uuid id model ⟨last,reason⟩).sent := by
    rw [hsent,openings_append]
    cases usage <;> simp [openings,StreamResponse.delta]
  have hrec : received sent = some (⟨textOf R,reasoningOf R,toolsFrom marshal uuid 0 (callsOf R.flatten)⟩,fr) := by
    rw [hsent,received_append,h.received]
    cases usage with
    | none => rfl
    | some u => simp [receive,StreamResponse.delta,reasonOf,Delta.getContentString,Delta.getReasoningContent]
  refine ⟨_,fr,hrec,?_⟩
  rw [response_eq,hflat]
  constructor
  · rw [calls_toolsFrom,calls_toolsFrom]
  · rw [hopen]
    constructor
    · have hl := congrArg List.length h.indexes
      rw [List.length_map,List.length_map,List.length_range'] at hl
      rw [hl,h.used,length_toolsFrom]
    · rw [h.indexes]
      refine List.Nodup.map ?_ List.nodup_range'
      intro j k hjk
      exact Int.ofNat_inj.mp (Option.some.inj hjk)
  · intro hne hcase
    by_cases hs : reason = some "STOP"
    · rw [hstop hs,hs]
      split_ifs <;> rfl
    · obtain ⟨r,hr⟩ := Option.ne_none_iff_exists'.mp hne
      have htools := hcase.resolve_left hs
      have hnil : callsOf R.flatten = [] := by
        have hl := congrArg List.length htools
        rw [length_toolsFrom] at hl
        exact List.eq_nil_of_length_eq_zero hl
      rw [hother r hr (fun he => hs (hr.trans (congrArg some he))) (hlast hnil),if_pos hnil,hr]
      rfl
  · exact unbroken_textOf
  · rintro l ps r rfl hd hu hc hl
    exact textOf_single hd hu hc hl
  · exact reasoningOf_single
  · intro ps hps t ht hne
    have hw : (Piece.text t : Piece J).whole? = some t := by simp [hne]
    have hs : (Piece.text t : Piece J).streamed? = some t := by simp [hne]
    exact ⟨within_whole (List.mem_flatten.mpr ⟨ps,hps,ht⟩) hw,fun hn => within_textOf hps hn (within_chunk ht hs)⟩
  · exact fun ps hps t ht => within_reasoningOf hps ht

def askedPart (text : String) : ReplyPart String := { text := text }

def calledPart (name arguments : String) : ReplyPart String := { functionCall := some ⟨name,arguments⟩ }

/-- Ids that differ. -/
def countedId (k : ℕ) : String := String.ofList (List.replicate k 'a')

lemma countedId_injective : Function.Injective countedId := by
  intro j k h
  have hl := congrArg String.length h
  simpa [countedId] using hl

theorem gemini_stream_agrees_call :
    ∃ m fr, received (geminiChatStreamHandler (fun a => a) countedId "i" "m" none
        [⟨[askedPart "a",calledPart "f" "1"],none⟩,⟨[calledPart "g" "2",askedPart "b"],some "STOP"⟩]) = some (m,fr) ∧
      m.tools.map (fun t => (t.name,t.arguments)) = [("f","1"),("g","2")] ∧ fr = some "tool_calls" := by
  obtain ⟨m,fr,hrec,h⟩ := gemini_stream_agrees (fun a : String => a) countedId countedId countedId_injective "i" "m"
    none [[askedPart "a",calledPart "f" "1"]] [calledPart "g" "2",askedPart "b"] (some "STOP")
  refine ⟨m,fr,hrec,h.calls.trans ?_,(h.finish nofun (.inl rfl)).trans ?_⟩
  · decide
  · decide

/-- Two texts are joined by a line break in the whole answer, but not where they come in two responses. -/
theorem gemini_texts_cut :
    (responseGeminiChat2OpenAI (fun a : String => a) countedId
      ⟨[askedPart "a",askedPart "b"],some "STOP"⟩).message.text = "a\nb" ∧
    received (geminiChatStreamHandler (fun a : String => a) countedId "i" "m" none
      [⟨[askedPart "a"],none⟩,⟨[askedPart "b"],some "STOP"⟩]) = some (⟨"ab","",[]⟩,some "stop") := by
  decide

end GeminiReply
end Convert
end Tierflow
