import Tierflow.Convert.Request

/-! Which Claude requests keep their content. What a turn holds is compared with what its messages carry, turn by
turn, and tool messages have to follow the message that made their calls. -/
namespace Tierflow
namespace Convert
namespace Request

variable {J : Type*} (enc : Encoding J)

/-! ## What a request holds -/

inductive Media
  | text (s : String)
  | image (url : String)
  deriving DecidableEq, Repr

/-- An image is at its address, or in the request itself. -/
def ClaudeMessageSource.imageUrl (s : ClaudeMessageSource J) : String := if s.url≠"" then s.url else s.dataUrl enc

namespace ClaudeMediaMessage
variable (b : ClaudeMediaMessage J)

def media : List Media :=
  if b.type = "text" ∨ b.type = "input_text" then [.text b.getText]
  else if b.type = "image" then [.image (b.source.elim "" (fun s => s.imageUrl enc))]
  else []

/-- A call with its name and its arguments. -/
def calls : List (String × String × String) :=
  if b.type = "tool_use" then [(b.id,b.name,enc.toJSONString b.input)] else []

/-- A result with the call that it belongs to. -/
def results : List (String × String) :=
  if b.type = "tool_result" then [(b.toolUseId,b.resultContent enc)] else []

end ClaudeMediaMessage

namespace ClaudeMessage
variable (m : ClaudeMessage J)

def media : List (String × Media) :=
  match m.content with
  | .string s => [(m.role,.text s)]
  | c => (c.parseOrNil.flatMap (fun b => b.media enc)).map (fun x => (m.role,x))

def calls : List (String × String × String × String) :=
  (m.content.parseOrNil.flatMap (fun b => b.calls enc)).map (fun x => (m.role,x))

def results : List (String × String) := m.content.parseOrNil.flatMap (fun b => b.results enc)

end ClaudeMessage

/-- The text of the system prompt, if there is one. -/
def ClaudeRequest.systemText (req : ClaudeRequest J) : List String :=
  match req.system with
  | .string s => if s≠"" then [s] else []
  | .blocks l => if l = [] then [] else [String.join (l.map (fun b => b.getText))]
  | _ => []

/-! ## What messages carry -/

def MediaContent.media (c : MediaContent J) : Media :=
  match c.imageUrl with
  | some url => .image url
  | none => .text c.text

namespace Message
variable (m : Message J)

def isTool : Bool := m.role = "tool"

def text : String := String.join (m.parseContent.map (fun c => c.text))

def media : List (String × Media) := if m.isTool then [] else m.parseContent.map (fun c => (m.role,c.media))

def calls : List (String × String × String × String) :=
  if m.isTool then [] else m.toolCalls.map (fun t => (m.role,t.id,t.function.name,t.function.arguments))

def results : List (String × String) := if m.isTool then [(m.toolCallId,m.text)] else []

/-- The calls that tool messages may answer. -/
def callIds : List String := if m.role = "assistant" then m.toolCalls.map (fun t => t.id) else []

end Message

/-- The messages carry what the turn holds: texts and images, calls, and results, each in their order. -/
structure Carries (t : ClaudeMessage J) (out : List (Message J)) : Prop where
  media : out.flatMap Message.media = t.media enc
  calls : out.flatMap Message.calls = t.calls enc
  results : out.flatMap Message.results = t.results enc

/-- The messages are the system prompt and then those of one turn after the other, and every tool message comes
directly after the assistant message that made its call. -/
structure Conserves (req : ClaudeRequest J) (out : List (Message J)) : Prop where
  turns : ∃ system segments, out = system++segments.flatten ∧
    system.map (fun m => (m.role,m.text)) = req.systemText.map (fun s => ("system",s)) ∧
    List.Forall₂ (Carries enc) req.messages segments
  placed : Segments.Directly Message.isTool (fun a m => m.toolCallId∈a.callIds) out

/-! ## Requests that keep their content -/

/-- An image without a source makes the conversion fail. -/
def ClaudeMediaMessage.broken (b : ClaudeMediaMessage J) : Bool := b.type = "image" && b.source.isNone

/-- The address of an image is looked at nowhere. -/
def ClaudeMediaMessage.shown (b : ClaudeMediaMessage J) : Bool :=
  b.type≠"image" || b.source.all (fun s => s.url = "" || s.url = s.dataUrl enc)

namespace ClaudeMessage
variable (m : ClaudeMessage J)

def readable : Bool :=
  match m.content with
  | .malformed => false
  | c => c.parseOrNil.all (fun b => !b.broken)

/-- The turn has a message besides its tool messages. -/
def speaks : Bool := m.media enc≠[] || m.calls enc≠[]

/-- Nothing stands beside tool calls, images have no address, and only tool messages have their role. -/
def sound : Bool :=
  m.readable && (m.media enc = [] || m.calls enc = []) && m.content.parseOrNil.all (fun b => b.shown enc) &&
    (!m.speaks enc || m.role≠"tool")

/-- The calls that results may belong to after the turn, if `open` were there before it. -/
def callIds (before : List String) : List String :=
  if m.speaks enc then if m.role = "assistant" then (m.calls enc).map (fun x => x.2.1) else [] else before

end ClaudeMessage

/-- Results belong to calls of the assistant message before them. -/
def placedTurns (before : List String) : List (ClaudeMessage J) → Bool
  | [] => true
  | m::ms => (m.results enc).all (fun x => before.contains x.1) && placedTurns (m.callIds enc before) ms

/-! ## What is made of a turn -/

namespace ClaudeMediaMessage
variable (b : ClaudeMediaMessage J) (req : ClaudeRequest J)

def mediaMessages : List (MediaContent J) :=
  if b.type = "text" ∨ b.type = "input_text" then [⟨"text",b.getText,none,b.cacheControl⟩]
  else if b.type = "image" then b.source.toList.map (fun s => ⟨"image_url","",some (s.dataUrl enc),none⟩)
  else []

def toolCalls : List (ToolCallRequest J) :=
  if b.type = "tool_use" then [⟨b.id,"function",⟨"",b.name,none,enc.toJSONString b.input⟩⟩] else []

def toolMessages : List (Message J) :=
  if b.type = "tool_result" then [⟨"tool",.string (b.resultContent enc),some (b.toolName req),[],b.toolUseId⟩] else []

end ClaudeMediaMessage

section Blocks
variable (req : ClaudeRequest J)

lemma convertBlock_eq (p : Parts J) (b : ClaudeMediaMessage J) : convertBlock enc req p b =
    if b.broken then .error .nilSource
    else .ok ⟨p.messages++b.toolMessages enc req,p.toolCalls++b.toolCalls enc,
      p.mediaMessages++b.mediaMessages enc⟩ := by
  unfold convertBlock ClaudeMediaMessage.broken ClaudeMediaMessage.toolMessages ClaudeMediaMessage.toolCalls
    ClaudeMediaMessage.mediaMessages
  by_cases ht : b.type = "text" ∨ b.type = "input_text"
  · rcases ht with h | h <;> simp [h]
  · by_cases hi : b.type = "image"
    · cases hs : b.source <;> simp [hi]
    · by_cases hu : b.type = "tool_use"
      · simp [hu]
      · by_cases hr : b.type = "tool_result"
        · simp [hr]
        · simp [ht,hi,hu,hr]

lemma foldlM_convertBlock (l : List (ClaudeMediaMessage J)) (p q : Parts J) :
    l.foldlM (convertBlock enc req) p = .ok q ↔ l.all (fun b => !b.broken) = true ∧
      q = ⟨p.messages++l.flatMap (fun b => b.toolMessages enc req),p.toolCalls++l.flatMap (fun b => b.toolCalls enc),
        p.mediaMessages++l.flatMap (fun b => b.mediaMessages enc)⟩ := by
  induction l generalizing p with
  | nil => simp [pure,Except.pure,eq_comm]
  | cons b l ih =>
    rw [List.foldlM_cons,convertBlock_eq,List.all_cons]
    cases hb : b.broken with
    | true =>
      simp only [Bool.not_true,Bool.false_and,if_true]
      refine iff_of_false ?_ (by simp)
      exact fun h => by contradiction
    | false =>
      simp only [Bool.not_false,Bool.true_and,Bool.false_eq_true,if_false]
      change List.foldlM (convertBlock enc req) _ l = .ok q ↔ _
      rw [ih]
      simp [List.append_assoc]

end Blocks

namespace ClaudeMessage
variable (m : ClaudeMessage J) (req : ClaudeRequest J)

/-- The media of the message for the rest of the turn. -/
def mediaMessages : List (MediaContent J) :=
  match m.content with
  | .string s => [⟨"text",s,none,none⟩]
  | c => c.parseOrNil.flatMap (fun b => b.mediaMessages enc)

def toolCalls : List (ToolCallRequest J) := m.content.parseOrNil.flatMap (fun b => b.toolCalls enc)

def toolMessages : List (Message J) := m.content.parseOrNil.flatMap (fun b => b.toolMessages enc req)

/-- The message for the rest of the turn. -/
def own : List (Message J) :=
  match m.content with
  | .string s => [⟨m.role,.string s,none,[],""⟩]
  | _ => appendMessage [] (Parts.message ⟨[],m.toolCalls enc,m.mediaMessages enc⟩ m.role)

def segment : List (Message J) := m.toolMessages enc req++m.own enc

end ClaudeMessage

lemma appendMessage_eq (out : List (Message J)) (m : Message J) : appendMessage out m = out++appendMessage [] m := by
  unfold appendMessage
  split_ifs <;> simp

lemma convertMessage_eq_ok_iff (req : ClaudeRequest J) (out out' : List (Message J)) (m : ClaudeMessage J) :
    convertMessage enc req out m = .ok out' ↔ m.readable = true ∧ out' = out++m.segment enc req := by
  unfold convertMessage ClaudeMessage.readable ClaudeMessage.segment ClaudeMessage.own ClaudeMessage.toolMessages
    ClaudeMessage.toolCalls ClaudeMessage.mediaMessages
  have hblocks : ∀ l : List (ClaudeMediaMessage J), (do
      let p ← l.foldlM (convertBlock enc req) ⟨out,[],[]⟩
      return appendMessage p.messages (p.message m.role) : Except Failure (List (Message J))) = .ok out' ↔
      l.all (fun b => !b.broken) = true ∧ out' = out++(l.flatMap (fun b => b.toolMessages enc req)++
        appendMessage [] (Parts.message ⟨[],l.flatMap (fun b => b.toolCalls enc),
          l.flatMap (fun b => b.mediaMessages enc)⟩ m.role)) := by
    intro l
    cases hp : l.foldlM (convertBlock enc req) ⟨out,[],[]⟩ with
    | error e =>
      refine iff_of_false (fun h => by contradiction) (fun h => ?_)
      have := (foldlM_convertBlock enc req l ⟨out,[],[]⟩ _).mpr ⟨h.1,rfl⟩
      rw [hp] at this
      contradiction
    | ok p =>
      obtain ⟨hall,rfl⟩ := (foldlM_convertBlock enc req l ⟨out,[],[]⟩ p).mp hp
      rw [hall]
      change Except.ok (appendMessage _ _) = Except.ok out' ↔ _
      rw [appendMessage_eq,Except.ok.injEq,List.append_assoc]
      simp only [true_and,List.nil_append]
      exact eq_comm
  cases hc : m.content with
  | null => exact hblocks []
  | string s =>
    simp [Content.isString,Content.getString,Content.parseOrNil,Content.parse,appendMessage,Message.parseContent,eq_comm]
  | blocks l => exact hblocks l
  | malformed =>
    refine iff_of_false (fun h => by contradiction) (by simp)

/-! ## What is carried of a turn -/

namespace ClaudeMediaMessage
variable (b : ClaudeMediaMessage J) (req : ClaudeRequest J)

lemma carried_toolMessages : (b.toolMessages enc req).flatMap Message.media = [] ∧
    (b.toolMessages enc req).flatMap Message.calls = [] ∧
    (b.toolMessages enc req).flatMap Message.results = b.results enc := by
  unfold toolMessages results
  split_ifs
  · simp [Message.media,Message.calls,Message.results,Message.isTool,Message.text,Message.parseContent,String.join]
  · exact ⟨rfl,rfl,rfl⟩

lemma calls_eq : (b.toolCalls enc).map (fun t => (t.id,t.function.name,t.function.arguments)) = b.calls enc := by
  unfold toolCalls calls
  split_ifs <;> rfl

lemma length_mediaMessages (h : b.broken = false) : (b.mediaMessages enc).length = (b.media enc).length := by
  unfold broken at h
  unfold mediaMessages media
  split_ifs with ht hi
  · rfl
  · cases hs : b.source with
    | none => simp [hi,hs] at h
    | some s => rfl
  · rfl

lemma media_eq_iff (h : b.broken = false) :
    (b.mediaMessages enc).map MediaContent.media = b.media enc ↔ b.shown enc = true := by
  unfold broken at h
  unfold mediaMessages media shown
  split_ifs with ht hi
  · refine iff_of_true rfl ?_
    rcases ht with ht | ht <;> simp [ht]
  · cases hs : b.source with
    | none => simp [hi,hs] at h
    | some s =>
      have himage : (Media.image (s.dataUrl enc) = Media.image (s.imageUrl enc)) ↔ s.url = "" ∨ s.url = s.dataUrl enc := by
        unfold ClaudeMessageSource.imageUrl
        rw [Media.image.injEq]
        by_cases hu : s.url = ""
        · simp [hu]
        · simp [hu,eq_comm]
      simpa [hi,MediaContent.media] using himage
  · exact iff_of_true rfl (by simp [hi])

end ClaudeMediaMessage

namespace ClaudeMessage
variable (m : ClaudeMessage J) (req : ClaudeRequest J)

lemma carried_toolMessages : (m.toolMessages enc req).flatMap Message.media = [] ∧
    (m.toolMessages enc req).flatMap Message.calls = [] ∧
    (m.toolMessages enc req).flatMap Message.results = m.results enc := by
  unfold toolMessages results
  induction m.content.parseOrNil with
  | nil => exact ⟨rfl,rfl,rfl⟩
  | cons b l ih =>
    obtain ⟨hm,hc,hr⟩ := b.carried_toolMessages enc req
    simp [List.flatMap_append,hm,hc,hr,ih.1,ih.2.1,ih.2.2]

lemma calls_eq : m.calls enc =
    (m.toolCalls enc).map (fun t => (m.role,t.id,t.function.name,t.function.arguments)) := by
  unfold calls toolCalls
  induction m.content.parseOrNil with
  | nil => rfl
  | cons b l ih =>
    rw [List.flatMap_cons,List.flatMap_cons,List.map_append,List.map_append,ih,←b.calls_eq enc,List.map_map]
    rfl

lemma calls_eq_nil_iff : m.calls enc = [] ↔ m.toolCalls enc = [] := by
  rw [calls_eq,List.map_eq_nil_iff]

/-- Of a turn that can be read, all media are there, but an image may have lost its address. -/
lemma media_spec (h : m.readable = true) : (m.mediaMessages enc).length = (m.media enc).length ∧
    ((m.mediaMessages enc).map (fun c => (m.role,c.media)) = m.media enc ↔
      m.content.parseOrNil.all (fun b => b.shown enc) = true) := by
  have hblocks : ∀ l : List (ClaudeMediaMessage J), l.all (fun b => !b.broken) = true →
      (l.flatMap (fun b => b.mediaMessages enc)).length =
        ((l.flatMap (fun b => b.media enc)).map (fun x => (m.role,x))).length ∧
      ((l.flatMap (fun b => b.mediaMessages enc)).map (fun c => (m.role,c.media)) =
        (l.flatMap (fun b => b.media enc)).map (fun x => (m.role,x)) ↔ l.all (fun b => b.shown enc) = true) := by
    intro l hl
    have hb : ∀ b∈l, b.broken = false := by simpa using hl
    have hlen : ∀ b∈l, ((b.mediaMessages enc).map MediaContent.media).length ≤ (b.media enc).length := by
      intro b hm
      rw [List.length_map,b.length_mediaMessages enc (hb b hm)]
    constructor
    · rw [List.length_map,List.length_flatMap,List.length_flatMap]
      congr 1
      apply List.map_congr_left
      intro b hm
      exact b.length_mediaMessages enc (hb b hm)
    · have hinj : Function.Injective (fun x : Media => (m.role,x)) := fun x y hxy => (Prod.mk.inj hxy).2
      have hmap : (l.flatMap (fun b => b.mediaMessages enc)).map (fun c => (m.role,c.media)) =
          (l.flatMap (fun b => (b.mediaMessages enc).map MediaContent.media)).map (fun x => (m.role,x)) := by
        rw [List.map_flatMap,List.map_flatMap]
        simp only [List.map_map]
        rfl
      rw [hmap,(List.map_injective_iff.mpr hinj).eq_iff,Segments.flatMap_eq_iff hlen,List.all_eq_true]
      exact forall₂_congr fun b hm => b.media_eq_iff enc (hb b hm)
  unfold readable at h
  unfold mediaMessages media
  cases hc : m.content with
  | null => exact hblocks [] rfl
  | string s => exact ⟨rfl,iff_of_true rfl rfl⟩
  | blocks l =>
    rw [hc] at h
    exact hblocks l h
  | malformed =>
    rw [hc] at h
    contradiction

/-- Besides its tool messages a turn becomes at most one message. -/
lemma own_cases : (m.own enc = [] ∧ m.mediaMessages enc = [] ∧ m.toolCalls enc = []) ∨
    ∃ x, m.own enc = [x] ∧ (m.mediaMessages enc≠[] ∨ m.toolCalls enc≠[]) ∧ x.role = m.role ∧
      x.toolCalls = m.toolCalls enc ∧
      x.parseContent = if m.toolCalls enc = [] then m.mediaMessages enc else [] := by
  have hparts : ∀ (calls : List (ToolCallRequest J)) (media : List (MediaContent J)),
      (appendMessage [] (Parts.message ⟨[],calls,media⟩ m.role) = [] ∧ media = [] ∧ calls = []) ∨
      ∃ x, appendMessage [] (Parts.message ⟨[],calls,media⟩ m.role) = [x] ∧ (media≠[] ∨ calls≠[]) ∧
        x.role = m.role ∧ x.toolCalls = calls ∧ x.parseContent = if calls = [] then media else [] := by
    intro calls media
    have hparse : (Parts.message ⟨[],calls,media⟩ m.role : Message J).parseContent =
        if calls = [] then media else [] := by
      unfold Parts.message Message.parseContent
      by_cases hc : calls = []
      · by_cases hm : media = [] <;> simp [hc,hm]
      · simp [hc]
    unfold appendMessage
    rw [hparse]
    by_cases hc : calls = []
    · by_cases hm : media = []
      · left
        simp [hc,hm,Parts.message]
      · right
        refine ⟨_,?_,.inl hm,rfl,rfl,hparse⟩
        simp [hc,hm]
    · right
      refine ⟨_,?_,.inr hc,rfl,rfl,hparse⟩
      simp [hc,Parts.message]
  unfold own
  cases hc : m.content with
  | string s =>
    right
    have hcalls : m.toolCalls enc = [] := by
      unfold toolCalls
      rw [hc]
      rfl
    have hmedia : m.mediaMessages enc = [⟨"text",s,none,none⟩] := by
      unfold mediaMessages
      rw [hc]
    rw [hcalls,hmedia]
    exact ⟨_,rfl,.inl (List.cons_ne_nil _ _),rfl,rfl,rfl⟩
  | null | blocks l | malformed => exact hparts _ _

/-- What the messages of a turn carry, in terms of what was made of its blocks. -/
lemma carried_segment : (m.segment enc req).flatMap Message.media = (m.own enc).flatMap Message.media ∧
    (m.segment enc req).flatMap Message.calls = (m.own enc).flatMap Message.calls ∧
    (m.segment enc req).flatMap Message.results = m.results enc++(m.own enc).flatMap Message.results := by
  obtain ⟨hm,hc,hr⟩ := m.carried_toolMessages enc req
  unfold segment
  rw [List.flatMap_append,List.flatMap_append,List.flatMap_append,hm,hc,hr]
  exact ⟨rfl,rfl,rfl⟩

lemma speaks_iff (h : m.readable = true) :
    m.speaks enc = true ↔ m.mediaMessages enc≠[] ∨ m.toolCalls enc≠[] := by
  have hnil : m.media enc = [] ↔ m.mediaMessages enc = [] := by
    rw [←List.length_eq_zero_iff,←(m.media_spec enc h).1,List.length_eq_zero_iff]
  unfold speaks
  rw [Bool.or_eq_true,decide_eq_true_eq,decide_eq_true_eq]
  exact or_congr (not_congr hnil) (not_congr (m.calls_eq_nil_iff enc))

/-- The messages of a turn carry no more media and calls than it holds, and no fewer results. -/
lemma length_carried (h : m.readable = true) :
    ((m.segment enc req).flatMap Message.media).length ≤ (m.media enc).length ∧
    ((m.segment enc req).flatMap Message.calls).length ≤ (m.calls enc).length ∧
    (m.results enc).length ≤ ((m.segment enc req).flatMap Message.results).length := by
  obtain ⟨hm,hc,hr⟩ := m.carried_segment enc req
  rw [hm,hc,hr]
  refine ⟨?_,?_,by simp⟩
  · rw [←(m.media_spec enc h).1]
    rcases m.own_cases enc with ⟨ho,-⟩ | ⟨x,ho,-,-,-,hp⟩
    · simp [ho]
    · rw [ho,List.flatMap_singleton,Message.media,hp]
      split_ifs <;> simp
  · rw [m.calls_eq enc,List.length_map]
    rcases m.own_cases enc with ⟨ho,-⟩ | ⟨x,ho,-,-,ht,-⟩
    · simp [ho]
    · rw [ho,List.flatMap_singleton,Message.calls,ht]
      split_ifs <;> simp

/-- The messages of a turn carry what it holds exactly when it is sound. -/
lemma carries_segment_iff (h : m.readable = true) : Carries enc m (m.segment enc req) ↔ m.sound enc = true := by
  obtain ⟨hm,hc,hr⟩ := m.carried_segment enc req
  obtain ⟨hlen,hshown⟩ := m.media_spec enc h
  have hspeaks := m.speaks_iff enc h
  have hnil : m.mediaMessages enc = [] ↔ m.media enc = [] := by
    rw [←List.length_eq_zero_iff,hlen,List.length_eq_zero_iff]
  have hcarries : Carries enc m (m.segment enc req) ↔ (m.own enc).flatMap Message.media = m.media enc ∧
      (m.own enc).flatMap Message.calls = m.calls enc ∧ (m.own enc).flatMap Message.results = [] := by
    constructor
    · rintro ⟨hm',hc',hr'⟩
      rw [hr] at hr'
      exact ⟨hm ▸ hm',hc ▸ hc',List.append_right_eq_self.mp hr'⟩
    · rintro ⟨hm',hc',hr'⟩
      exact ⟨hm.trans hm',hc.trans hc',by rw [hr,hr',List.append_nil]⟩
  have hsound : m.sound enc = true ↔ (m.media enc = [] ∨ m.calls enc = []) ∧
      m.content.parseOrNil.all (fun b => b.shown enc) = true ∧ (m.speaks enc = true → m.role≠"tool") := by
    unfold sound
    simp only [h,Bool.true_and,Bool.and_eq_true,Bool.or_eq_true,Bool.not_eq_true',decide_eq_true_eq,and_assoc]
    rw [←Bool.not_eq_true,imp_iff_not_or]
  rw [hcarries,hsound]
  rcases m.own_cases enc with ⟨ho,hmedia,hcalls⟩ | ⟨x,ho,hne,hrole,hx,hp⟩
  · have hs : m.speaks enc≠true := fun hs => (hspeaks.mp hs).elim (fun hn => hn hmedia) (fun hn => hn hcalls)
    rw [ho,hnil.mp hmedia,(m.calls_eq_nil_iff enc).mpr hcalls]
    refine iff_of_true ⟨rfl,rfl,rfl⟩ ⟨.inl rfl,hshown.mp ?_,fun hs' => absurd hs' hs⟩
    rw [hmedia,hnil.mp hmedia]
    rfl
  · have hs : m.speaks enc = true := hspeaks.mpr hne
    simp only [ho,List.flatMap_singleton,hs,forall_true_left]
    by_cases ht : m.role = "tool"
    · have htool : x.isTool = true := by
        unfold Message.isTool
        rw [hrole]
        exact decide_eq_true ht
      refine iff_of_false ?_ (fun hn => hn.2.2 ht)
      rintro ⟨-,-,hres⟩
      unfold Message.results at hres
      rw [if_pos htool] at hres
      exact List.cons_ne_nil _ _ hres
    · have htool : x.isTool = false := by
        unfold Message.isTool
        rw [hrole]
        exact decide_eq_false ht
      unfold Message.media Message.calls Message.results
      simp only [htool,Bool.false_eq_true,if_false,hrole,hx,hp,←m.calls_eq enc,and_true]
      by_cases hcalls : m.toolCalls enc = []
      · rw [if_pos hcalls,hshown,(m.calls_eq_nil_iff enc).mpr hcalls]
        exact ⟨fun hsh => ⟨.inr rfl,hsh,ht⟩,fun hn => hn.2.1⟩
      · rw [if_neg hcalls]
        have hcne := mt (m.calls_eq_nil_iff enc).mp hcalls
        constructor
        · intro hmn
          refine ⟨.inl hmn.symm,hshown.mp ?_,ht⟩
          rw [hnil.mpr hmn.symm,←hmn]
        · exact fun hn => (hn.1.resolve_right hcne).symm

end ClaudeMessage

/-! ## Whole requests -/

section Whole
variable (req : ClaudeRequest J) (info : RelayInfo)

lemma foldlM_convertMessage (l : List (ClaudeMessage J)) (out out' : List (Message J)) :
    l.foldlM (convertMessage enc req) out = .ok out' ↔
      (∀ m∈l, m.readable = true) ∧ out' = out++l.flatMap (fun m => m.segment enc req) := by
  induction l generalizing out with
  | nil =>
    rw [List.foldlM_nil,List.flatMap_nil,List.append_nil]
    change Except.ok out = .ok out' ↔ _
    rw [Except.ok.injEq]
    exact ⟨fun h => ⟨fun _ hm => absurd hm List.not_mem_nil,h.symm⟩,fun h => h.2.symm⟩
  | cons m l ih =>
    rw [List.foldlM_cons,List.forall_mem_cons,List.flatMap_cons]
    cases hm : convertMessage enc req out m with
    | error e =>
      refine iff_of_false (fun h => by contradiction) (fun h => ?_)
      have := (convertMessage_eq_ok_iff enc req out _ m).mpr ⟨h.1.1,rfl⟩
      rw [hm] at this
      contradiction
    | ok mid =>
      obtain ⟨hread,rfl⟩ := (convertMessage_eq_ok_iff enc req out mid m).mp hm
      change List.foldlM (convertMessage enc req) _ l = .ok out' ↔ _
      rw [ih,hread,List.append_assoc]
      simp

/-- The messages are the system prompt and the messages of one turn after the other. -/
lemma messages_of_ok {r : OpenAIRequest J} (h : claudeToOpenAIRequest enc req info = .ok r) :
    (∀ m∈req.messages, m.readable = true) ∧
      r.messages = convertSystem req info++req.messages.flatMap (fun m => m.segment enc req) := by
  unfold claudeToOpenAIRequest at h
  cases hf : req.messages.foldlM (convertMessage enc req) (convertSystem req info) with
  | error e =>
    rw [hf] at h
    contradiction
  | ok out =>
    rw [hf] at h
    obtain rfl := Except.ok.inj h
    exact (foldlM_convertMessage enc req req.messages _ out).mp hf

lemma ok_of_readable (h : ∀ m∈req.messages, m.readable = true) :
    ∃ r, claudeToOpenAIRequest enc req info = .ok r := by
  unfold claudeToOpenAIRequest
  rw [(foldlM_convertMessage enc req req.messages (convertSystem req info) _).mpr ⟨h,rfl⟩]
  exact ⟨_,rfl⟩

lemma convertSystem_spec :
    (convertSystem req info).map (fun m => (m.role,m.text)) = req.systemText.map (fun s => ("system",s)) := by
  unfold convertSystem ClaudeRequest.systemText
  have hjoin : ∀ l : List (ClaudeMediaMessage J), l.foldl (fun s b => s++b.getText) "" =
      String.join (l.map (fun b => b.getText)) := fun l => by rw [String.join,List.foldl_map]
  cases hs : req.system with
  | null => rfl
  | malformed => rfl
  | string s =>
    by_cases he : s = ""
    · simp [he,Content.isNil,Content.isString,Content.getString,Content.parseOrNil,Content.parse]
    · simp [he,Content.isNil,Content.isString,Content.getString,systemMessage,Message.text,Message.parseContent,
        String.join]
  | blocks l =>
    by_cases hl : l = []
    · simp [hl,Content.isNil,Content.isString,Content.parseOrNil,Content.parse]
    · simp only [Content.isNil,Content.isString,Content.parseOrNil,Content.parse,hl,Bool.false_eq_true,false_and,
        if_false]
      split_ifs
      · simp [systemMessage,Message.text,Message.parseContent,List.map_map,Function.comp_def]
      · simp [systemMessage,Message.text,Message.parseContent,hjoin,String.join]

/-- Turn by turn, the messages carry what the request holds exactly when all turns are sound. -/
lemma turns_iff (hread : ∀ m∈req.messages, m.readable = true) :
    (∃ system segments, convertSystem req info++req.messages.flatMap (fun m => m.segment enc req) =
      system++segments.flatten ∧ system.map (fun m => (m.role,m.text)) = req.systemText.map (fun s => ("system",s)) ∧
      List.Forall₂ (Carries enc) req.messages segments) ↔ ∀ m∈req.messages, m.sound enc = true := by
  constructor
  · rintro ⟨system,segments,heq,hsystem,hturns⟩
    have hlen : (convertSystem req info).length = system.length := by
      have := congrArg List.length ((convertSystem_spec req info).trans hsystem.symm)
      rwa [List.length_map,List.length_map] at this
    have hrest := (List.append_inj heq hlen).2
    -- Segments may be cut elsewhere than the turns are, but the totals agree.
    have htotal : ∀ {β : Type} (carried : Message J → List β) (held : ClaudeMessage J → List β),
        (∀ t out, Carries enc t out → out.flatMap carried = held t) →
        req.messages.flatMap (fun m => (m.segment enc req).flatMap carried) = req.messages.flatMap held := by
      intro β carried held hc
      have hflat := Segments.flatMap_flatten hc hturns
      rw [←hflat,←hrest,List.flatMap_assoc]
    have hmedia := (Segments.flatMap_eq_iff (fun m hm => (m.length_carried enc req (hread m hm)).1)).mp
      (htotal Message.media _ (fun _ _ h => h.media))
    have hcalls := (Segments.flatMap_eq_iff (fun m hm => (m.length_carried enc req (hread m hm)).2.1)).mp
      (htotal Message.calls _ (fun _ _ h => h.calls))
    have hresults := (Segments.flatMap_eq_iff (fun m hm => (m.length_carried enc req (hread m hm)).2.2)).mp
      (htotal Message.results _ (fun _ _ h => h.results)).symm
    intro m hm
    exact (m.carries_segment_iff enc req (hread m hm)).mp ⟨hmedia m hm,hcalls m hm,(hresults m hm).symm⟩
  · intro hsound
    refine ⟨convertSystem req info,req.messages.map (fun m => m.segment enc req),?_,convertSystem_spec req info,?_⟩
    · rw [List.flatMap_def]
    · rw [List.forall₂_map_right_iff,List.forall₂_same]
      exact fun m hm => (m.carries_segment_iff enc req (hread m hm)).mpr (hsound m hm)

/-! ### Tool messages in their place -/

/-- The calls of the last message that is no tool message. -/
def openCalls (last : Option (Message J)) : List String := last.elim [] Message.callIds

lemma scan_iff_of_open (last : Option (Message J)) (id : String) :
    (∃ a∈last, id∈a.callIds) ↔ id∈openCalls last := by
  cases last <;> simp [openCalls]

lemma scan_toolMessages (last : Option (Message J)) (m : ClaudeMessage J) (rest : List (Message J)) :
    Segments.scan Message.isTool (fun a m => m.toolCallId∈a.callIds) last (m.toolMessages enc req++rest) ↔
      (∀ x∈m.results enc, x.1∈openCalls last) ∧
        Segments.scan Message.isTool (fun a m => m.toolCallId∈a.callIds) last rest := by
  unfold ClaudeMessage.toolMessages ClaudeMessage.results
  induction m.content.parseOrNil with
  | nil => simp
  | cons b l ih =>
    rw [List.flatMap_cons,List.append_assoc,List.flatMap_cons]
    unfold ClaudeMediaMessage.toolMessages ClaudeMediaMessage.results at ih ⊢
    by_cases hb : b.type = "tool_result"
    · simp only [if_pos hb,List.singleton_append,Segments.scan,Message.isTool,decide_true,if_true,
        List.forall_mem_cons,scan_iff_of_open,ih]
      rw [and_assoc]
    · simp only [if_neg hb,List.nil_append]
      exact ih

/-- The message for the rest of the turn, if there is one, is the one whose calls are open next. -/
lemma scan_own (last : Option (Message J)) {m : ClaudeMessage J} (hread : m.readable = true)
    (hsound : m.sound enc = true) (rest : List (Message J)) :
    ∃ last', openCalls last' = m.callIds enc (openCalls last) ∧
      (Segments.scan Message.isTool (fun a m => m.toolCallId∈a.callIds) last (m.own enc++rest) ↔
        Segments.scan Message.isTool (fun a m => m.toolCallId∈a.callIds) last' rest) := by
  have hspeaks := m.speaks_iff enc hread
  unfold ClaudeMessage.callIds
  rcases m.own_cases enc with ⟨ho,hmedia,hcalls⟩ | ⟨x,ho,hne,hrole,hx,-⟩
  · have hs : ¬m.speaks enc = true := fun hs => (hspeaks.mp hs).elim (fun hn => hn hmedia) (fun hn => hn hcalls)
    rw [ho,if_neg hs]
    exact ⟨last,rfl,Iff.rfl⟩
  · have hs := hspeaks.mpr hne
    have ht : m.role≠"tool" := by
      unfold ClaudeMessage.sound at hsound
      simp only [hs,Bool.and_eq_true,Bool.not_true,Bool.false_or,decide_eq_true_eq] at hsound
      exact hsound.2
    have htool : x.isTool = false := by
      unfold Message.isTool
      rw [hrole]
      exact decide_eq_false ht
    refine ⟨some x,?_,?_⟩
    · rw [if_pos hs,m.calls_eq enc,List.map_map]
      change x.callIds = _
      unfold Message.callIds
      rw [hrole,hx]
      rfl
    · rw [ho,List.singleton_append,Segments.scan,htool]
      exact Iff.rfl

lemma scan_turns (last : Option (Message J)) (l : List (ClaudeMessage J)) (hread : ∀ m∈l, m.readable = true)
    (hsound : ∀ m∈l, m.sound enc = true) :
    Segments.scan Message.isTool (fun a m => m.toolCallId∈a.callIds) last (l.flatMap (fun m => m.segment enc req)) ↔
      placedTurns enc (openCalls last) l = true := by
  induction l generalizing last with
  | nil => exact iff_of_true trivial rfl
  | cons m l ih =>
    obtain ⟨last',hopen,hown⟩ := scan_own enc last (hread m List.mem_cons_self) (hsound m List.mem_cons_self)
      (l.flatMap (fun m => m.segment enc req))
    rw [List.flatMap_cons,ClaudeMessage.segment,List.append_assoc,scan_toolMessages,hown,
      ih last' (fun m hm => hread m (List.mem_cons_of_mem _ hm)) (fun m hm => hsound m (List.mem_cons_of_mem _ hm)),
      hopen,placedTurns,Bool.and_eq_true,List.all_eq_true]
    simp only [List.contains_iff_mem]

/-- The system prompt makes no calls. -/
lemma placed_iff (hread : ∀ m∈req.messages, m.readable = true) (hsound : ∀ m∈req.messages, m.sound enc = true) :
    Segments.Directly Message.isTool (fun a m => m.toolCallId∈a.callIds)
      (convertSystem req info++req.messages.flatMap (fun m => m.segment enc req)) ↔
      placedTurns enc [] req.messages = true := by
  rw [Segments.directly_iff_scan]
  have hsystem : convertSystem req info = [] ∨ ∃ content, convertSystem req info = [systemMessage content] := by
    unfold convertSystem
    simp only
    split_ifs
    · exact .inl rfl
    · exact .inr ⟨_,rfl⟩
    · exact .inl rfl
    · exact .inr ⟨_,rfl⟩
    · exact .inr ⟨_,rfl⟩
  rcases hsystem with h | ⟨content,h⟩
  · rw [h,List.nil_append]
    exact scan_turns enc req none req.messages hread hsound
  · rw [h,List.singleton_append]
    exact scan_turns enc req (some (systemMessage content)) req.messages hread hsound

/-- A request is converted without loss exactly when all its turns are sound and its results are in their place. -/
theorem conserves_iff :
    (∃ r, claudeToOpenAIRequest enc req info = .ok r ∧ Conserves enc req r.messages) ↔
      (∀ m∈req.messages, m.sound enc = true) ∧ placedTurns enc [] req.messages = true := by
  constructor
  · rintro ⟨r,hr,hturns,hplaced⟩
    obtain ⟨hread,hmessages⟩ := messages_of_ok enc req info hr
    rw [hmessages] at hturns hplaced
    have hsound := (turns_iff enc req info hread).mp hturns
    exact ⟨hsound,(placed_iff enc req info hread hsound).mp hplaced⟩
  · rintro ⟨hsound,hplaced⟩
    have hread : ∀ m∈req.messages, m.readable = true := by
      intro m hm
      have := hsound m hm
      unfold ClaudeMessage.sound at this
      simp only [Bool.and_eq_true] at this
      exact this.1.1.1
    obtain ⟨r,hr⟩ := ok_of_readable enc req info hread
    obtain ⟨-,hmessages⟩ := messages_of_ok enc req info hr
    refine ⟨r,hr,?_,?_⟩
    · rw [hmessages]
      exact (turns_iff enc req info hread).mpr hsound
    · rw [hmessages]
      exact (placed_iff enc req info hread hsound).mpr hplaced

/-- A call by itself, with its result in the next turn, is converted without loss. -/
example : (∃ r, claudeToOpenAIRequest (⟨id,String.join,id⟩ : Encoding String)
    ⟨"m",.string "Be brief.",[⟨"user",.string "What is in it?"⟩,
      ⟨"assistant",.blocks [⟨"tool_use",none,none,none,"t1","read","1",.null,""⟩]⟩,
      ⟨"user",.blocks [⟨"tool_result",none,none,none,"","","",.string "A key.","t1"⟩,
        ⟨"text",some "Well?",none,none,"","","",.null,""⟩]⟩],none,[],none,none,none,none,.null,none,""⟩
      ⟨false,"m","m"⟩ = .ok r ∧ r.messages.map Message.role = ["system","user","assistant","tool","user"]) :=
  ⟨_,rfl,rfl⟩

/-- Without a system prompt the messages carry all media of the turns. -/
lemma Conserves.media {out : List (Message J)} (h : Conserves enc req out) (hs : req.systemText = []) :
    out.flatMap Message.media = req.messages.flatMap (fun m => m.media enc) := by
  obtain ⟨system,segments,rfl,hsystem,hturns⟩ := h.turns
  rw [hs,List.map_nil,List.map_eq_nil_iff] at hsystem
  rw [hsystem,List.nil_append]
  exact Segments.flatMap_flatten (fun _ _ hc => hc.media) hturns

end Whole

/-! ## A conversation that is not kept -/

/-- Strings and null, the way they are printed. -/
def plainEncoding : Encoding (Option String) where
  toJSONString := fun j => j.elim "null" (fun s => s)
  marshal := fun l => String.join (l.map (fun j => j.getD "null"))
  sprint := fun j => j.getD "%!s(<nil>)"

/-- A user sends an image by its address, and the assistant answers with a text and a call. -/
def imageThenCall : ClaudeRequest (Option String) where
  model := "m"
  system := .null
  messages := [⟨"user",.blocks [⟨"image",none,some ⟨"",none,"/a.png"⟩,none,"","",none,.null,""⟩]⟩,
    ⟨"assistant",.blocks [⟨"text",some "Let me look.",none,none,"","",none,.null,""⟩,
      ⟨"tool_use",none,none,none,"t1","read",some "1",.null,""⟩]⟩,
    ⟨"user",.blocks [⟨"tool_result",none,none,none,"","",none,.string "A key.","t1"⟩]⟩]
  maxTokens := none
  stopSequences := []
  temperature := none
  topP := none
  topK := none
  stream := none
  tools := .null
  thinking := none
  efforts := ""

/-- The image arrives as `data:;base64,%!s(<nil>)`, and the text beside the call not at all. -/
theorem imageThenCall_not_conserved :
    ¬∃ r, claudeToOpenAIRequest plainEncoding imageThenCall ⟨false,"m","m"⟩ = .ok r ∧
      Conserves plainEncoding imageThenCall r.messages := by
  rintro ⟨r,hr,hc⟩
  obtain ⟨-,hmessages⟩ := messages_of_ok plainEncoding imageThenCall ⟨false,"m","m"⟩ hr
  have hmedia := hc.media plainEncoding imageThenCall rfl
  have hsystem : convertSystem imageThenCall ⟨false,"m","m"⟩ = [] := rfl
  rw [hmessages,hsystem] at hmedia
  revert hmedia
  decide

end Request
end Convert
end Tierflow
