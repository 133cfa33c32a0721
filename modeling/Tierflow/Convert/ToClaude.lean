import Tierflow.Foundation.Runs

/-! An OpenAI request turned into a Claude request. A first pass joins the texts of neighbours with one role and puts
dots where a content is empty; a second one keeps the instructions apart and writes tool results into messages of the
user. -/
namespace Tierflow
namespace Convert
namespace ToClaude

/-! ## Requests -/

/-- A string, or the texts of text parts. -/
inductive Content
  | null
  | string (s : String)
  | texts (l : List String)
  deriving DecidableEq, Repr

namespace Content

def isString : Content → Bool
  | string _ => true
  | _ => false

def stringContent : Content → String
  | null => ""
  | string s => s
  | texts l => String.join l

def parseContent : Content → List String
  | null => []
  | string s => [s]
  | texts l => l

end Content

structure ToolCall where
  id : String
  name : String
  arguments : String
  deriving DecidableEq, Repr

structure Message where
  role : String
  content : Content
  toolCalls : Option (List ToolCall)
  toolCallId : String
  deriving DecidableEq, Repr

/-- A value of which one sees whether it is a string. -/
inductive Value (J : Type*)
  | null
  | string (s : String)
  | other (j : J)
  deriving DecidableEq, Repr

/-- The parameters are kept if they are an object. -/
structure FunctionTool (J : Type*) where
  name : String
  description : String
  parameters : Option (List (String × Value J))
  deriving DecidableEq, Repr

inductive Stop (J : Type*)
  | none
  | one (s : String)
  | many (l : List (Value J))
  | other (j : J)
  deriving DecidableEq, Repr

structure OpenAIRequest (J : Type*) where
  tools : List (FunctionTool J)
  stop : Stop J
  messages : List Message
  deriving DecidableEq, Repr

structure ClaudeTool (J : Type*) where
  name : String
  description : String
  inputSchema : List (String × Value J)
  deriving DecidableEq, Repr

/-- The blocks that are made of texts. -/
inductive ClaudeMediaMessage (J : Type*)
  | text (s : String)
  | toolUse (id name : String) (input : J)
  | toolResult (toolUseId : String) (content : Content)
  deriving DecidableEq, Repr

inductive ClaudeContent (J : Type*)
  | string (s : String)
  | blocks (l : List (ClaudeMediaMessage J))
  deriving DecidableEq, Repr

structure ClaudeMessage (J : Type*) where
  role : String
  content : ClaudeContent J
  deriving DecidableEq, Repr

structure ClaudeRequest (J : Type*) where
  tools : List (ClaudeTool J)
  stopSequences : List String
  system : List String
  messages : List (ClaudeMessage J)
  deriving DecidableEq, Repr

variable {J : Type*}

/-! ## Tools and stop sequences -/

/-- Nothing if the type is asserted to be a string and is none. -/
def inputSchema (params : List (String × Value J)) : Option (List (String × Value J)) :=
  let rest := ("properties",(params.lookup "properties").getD .null)::
    ("required",(params.lookup "required").getD .null)::
    params.filter (fun p => p.1∉["type","properties","required"])
  match (params.lookup "type").getD .null with
  | .null => some rest
  | .string s => some (("type",.string s)::rest)
  | .other _ => none

def claudeTool (tool : FunctionTool J) (params : List (String × Value J)) : Option (ClaudeTool J) :=
  (inputSchema params).map (fun schema => ⟨tool.name,tool.description,schema⟩)

def claudeTools (tools : List (FunctionTool J)) : Option (List (ClaudeTool J)) :=
  (tools.filterMap (fun tool => tool.parameters.map (claudeTool tool))).mapM id

def Value.asString : Value J → Option String
  | .string s => some s
  | _ => none

/-- Nothing if a value of the list is asserted to be a string and is none. -/
def stopSequences : Stop J → Option (List String)
  | .one s => some [s]
  | .many l => l.mapM Value.asString
  | _ => some []

/-! ## The first pass -/

def trimQuotes (s : String) : String :=
  String.ofList (((s.toList.dropWhile (· == '"')).reverse.dropWhile (· == '"')).reverse)

/-- The content, or dots for an empty one. -/
def Content.orDots : Content → Content
  | .null => .string "..."
  | .string s => .string (if s = "" then "..." else s)
  | c => c

/-- What is kept of a message. -/
def fmtMessage (message : Message) (content : Content) : Message where
  role := message.role
  content := content.orDots
  toolCalls := if message.role = "assistant" then message.toolCalls else none
  toolCallId := if message.role = "tool" then message.toolCallId else ""

structure Formatting where
  formatMessages : List Message
  lastMessage : Message

def formatStep (s : Formatting) (message : Message) : Formatting :=
  if s.lastMessage.role = message.role ∧ s.lastMessage.role≠"tool" ∧ s.lastMessage.content.isString = true ∧
      message.content.isString = true then
    let fmt := fmtMessage message
      (.string (trimQuotes (s.lastMessage.content.stringContent++" "++message.content.stringContent)))
    ⟨s.formatMessages.dropLast++[fmt],fmt⟩
  else
    let fmt := fmtMessage message message.content
    ⟨s.formatMessages++[fmt],fmt⟩

def formatMessages (messages : List Message) : List Message :=
  (messages.foldl formatStep ⟨[],⟨"tool",.null,none,""⟩⟩).formatMessages

/-! ## The second pass -/

section Convert
variable (unmarshal : String → Option J)

def ClaudeContent.toBlocks : ClaudeContent J → List (ClaudeMediaMessage J)
  | .string s => [.text s]
  | .blocks l => l

/-- The calls of which the arguments can be read. -/
def toolUses (calls : List ToolCall) : List (ClaudeMediaMessage J) :=
  calls.filterMap (fun call => (unmarshal call.arguments).map (fun input => .toolUse call.id call.name input))

def orDotsBlock : List (ClaudeMediaMessage J) → List (ClaudeMediaMessage J)
  | [] => [.text "..."]
  | blocks => blocks

def claudeContent (message : Message) : ClaudeContent J :=
  if message.content.isString = true ∧ message.toolCalls = none then
    .string (if message.content.stringContent = "" then "..." else message.content.stringContent)
  else
    .blocks (orDotsBlock ((message.content.parseContent.filter (· ≠ "")).map .text++
      toolUses unmarshal (message.toolCalls.getD [])))

/-- A tool result joins the last message if it is the user's. -/
def addToolResult (messages : List (ClaudeMessage J)) (message : Message) : List (ClaudeMessage J) :=
  let result := ClaudeMediaMessage.toolResult message.toolCallId message.content
  match messages.getLast? with
  | some last =>
    if last.role = "user" then messages.dropLast++[⟨last.role,.blocks (last.content.toBlocks++[result])⟩]
    else messages++[⟨"user",.blocks [result]⟩]
  | none => messages++[⟨"user",.blocks [result]⟩]

structure Conversion (J : Type*) where
  claudeMessages : List (ClaudeMessage J)
  isFirstMessage : Bool
  systemMessages : List String

def convertStep (s : Conversion J) (message : Message) : Conversion J :=
  if message.role = "system" then
    { s with systemMessages := s.systemMessages++message.content.parseContent.filter (· ≠ "") }
  else
    let messages := if s.isFirstMessage = true ∧ message.role≠"user" then
      s.claudeMessages++[⟨"user",.blocks [.text "..."]⟩] else s.claudeMessages
    { s with
      isFirstMessage := false
      claudeMessages :=
        if message.role = "tool" then addToolResult messages message
        else messages++[⟨message.role,claudeContent unmarshal message⟩] }

def convertMessages (messages : List Message) : Conversion J := messages.foldl (convertStep unmarshal) ⟨[],true,[]⟩

/-- Nothing if a type assertion fails. -/
def requestOpenAI2ClaudeMessage (request : OpenAIRequest J) : Option (ClaudeRequest J) :=
  (claudeTools request.tools).bind (fun tools =>
    (stopSequences request.stop).map (fun stop =>
      let s := convertMessages unmarshal (formatMessages request.messages)
      ⟨tools,stop,s.systemMessages,s.claudeMessages⟩))

end Convert

/-! ## Runs of messages -/

/-- The texts of two neighbours are joined. -/
def Joins (m m' : Message) : Prop :=
  m.role = m'.role ∧ m.role≠"tool" ∧ (m.content = .null ∨ m.content.isString = true) ∧ m'.content.isString = true

instance (m m' : Message) : Decidable (Joins m m') := instDecidableAnd

/-- A text that is joined to another, without quotation marks at the ends. -/
def joinText (s : String) (m : Message) : String := trimQuotes (s++" "++m.content.stringContent)

/-- The text of a run of messages, or the content of a single one. -/
def runContent (r : List Message × Message) : Content :=
  match r.1 with
  | [] => r.2.content.orDots
  | m::ms => .string ((ms++[r.2]).foldl joinText m.content.orDots.stringContent)

/-- The message that is made of a run. -/
def runMessage (r : List Message × Message) : Message := fmtMessage r.2 (runContent r)

section Formatting
variable {r : List Message × Message} {m : Message} {s : String}

lemma orDots_orDots (c : Content) : c.orDots.orDots = c.orDots := by
  cases c with
  | null => rfl
  | string s =>
    unfold Content.orDots
    by_cases hs : s = ""
    · simp [hs]
    · simp [hs]
  | texts l => rfl

lemma trimQuotes_ne_empty {c : Char} (h : c∈s.toList) (hc : c≠ '"') : trimQuotes s≠"" := by
  have hdrop : ∀ l : List Char, c∈l → c∈l.dropWhile (· == '"') := by
    intro l hl
    induction l with
    | nil => exact hl
    | cons d l ih =>
      rw [List.dropWhile_cons]
      by_cases hd : d = '"'
      · rw [if_pos (beq_iff_eq.mpr hd)]
        rcases List.mem_cons.mp hl with heq | hl
        · exact absurd (heq.trans hd) hc
        · exact ih hl
      · rw [if_neg (fun hq => hd (beq_iff_eq.mp hq))]
        exact hl
  have hmem := List.mem_reverse.mpr (hdrop _ (List.mem_reverse.mpr (hdrop _ h)))
  intro hempty
  have hnil := congrArg String.toList hempty
  unfold trimQuotes at hnil
  rw [String.toList_ofList] at hnil
  rw [hnil] at hmem
  exact List.not_mem_nil hmem

lemma joinText_ne_empty (s : String) (m : Message) : joinText s m≠"" := by
  apply trimQuotes_ne_empty (c := ' ')
  · simp
  · decide

lemma runContent_concat (earlier : List Message) (m m' : Message) :
    runContent (earlier++[m],m') = .string (joinText (runContent (earlier,m)).stringContent m') := by
  cases earlier with
  | nil => rfl
  | cons c l =>
    change Content.string ((l++[m]++[m']).foldl joinText c.content.orDots.stringContent) =
      .string (joinText ((l++[m]).foldl joinText c.content.orDots.stringContent) m')
    rw [List.foldl_concat]

lemma orDots_runContent (r : List Message × Message) : (runContent r).orDots = runContent r := by
  obtain ⟨earlier,m'⟩ := r
  rcases List.eq_nil_or_concat earlier with rfl | ⟨earlier,m,rfl⟩
  · exact orDots_orDots _
  · rw [List.concat_eq_append,runContent_concat]
    change Content.string (if joinText (runContent (earlier,m)).stringContent m' = "" then "..." else _) = _
    rw [if_neg (joinText_ne_empty _ _)]

def startMessage (m : Message) : Message := fmtMessage m m.content

def meltMessage (last m : Message) : Message := fmtMessage m (.string (joinText last.content.stringContent m))

def Touches (last m : Message) : Prop :=
  last.role = m.role ∧ last.role≠"tool" ∧ last.content.isString = true ∧ m.content.isString = true

instance (last m : Message) : Decidable (Touches last m) := instDecidableAnd

lemma melted_eq (r : List Message × Message) : Runs.melted startMessage meltMessage r = runMessage r := by
  obtain ⟨earlier,m'⟩ := r
  induction earlier using List.reverseRecOn generalizing m' with
  | nil =>
    unfold Runs.melted startMessage runMessage fmtMessage runContent
    rw [orDots_orDots]
  | append_singleton earlier m ih =>
    rw [Runs.melted_concat,ih]
    unfold meltMessage runMessage
    rw [runContent_concat]
    unfold fmtMessage
    rw [orDots_runContent]

lemma isString_runContent (h : Runs.Joined Joins r) :
    (runContent r).isString = true ↔ r.2.content = .null ∨ r.2.content.isString = true := by
  obtain ⟨earlier,m'⟩ := r
  rcases List.eq_nil_or_concat earlier with rfl | ⟨earlier,m,rfl⟩
  · unfold runContent Content.orDots Content.isString
    cases m'.content <;> simp
  · obtain ⟨m,hm⟩ := h (by simp)
    rw [List.concat_eq_append,runContent_concat]
    exact iff_of_true rfl (.inr hm.2.2.2)

lemma touches_iff (h : Runs.Joined Joins r) (m : Message) :
    Touches (Runs.melted startMessage meltMessage r) m ↔ Joins r.2 m := by
  rw [melted_eq]
  unfold Touches Joins runMessage fmtMessage
  rw [orDots_runContent,isString_runContent h]

lemma foldl_formatStep (l : List Message) (s : Formatting) :
    (l.foldl formatStep s).formatMessages =
      (l.foldl (Runs.melting startMessage meltMessage Touches) (s.formatMessages,s.lastMessage)).1 := by
  induction l generalizing s with
  | nil => rfl
  | cons m l ih =>
    rw [List.foldl_cons,List.foldl_cons,ih]
    congr 2
    have hstep : formatStep s m = if Touches s.lastMessage m then
        ⟨s.formatMessages.dropLast++[meltMessage s.lastMessage m],meltMessage s.lastMessage m⟩
      else ⟨s.formatMessages++[startMessage m],startMessage m⟩ := rfl
    rw [hstep,Runs.melting]
    by_cases ht : Touches s.lastMessage m
    · rw [if_pos ht,if_pos ht]
    · rw [if_neg ht,if_neg ht]

/-- The first pass makes one message of each run. -/
theorem formatMessages_eq (messages : List Message) :
    formatMessages messages = (Runs.runs Joins messages).map runMessage := by
  unfold formatMessages
  rw [foldl_formatStep,Runs.foldl_melting_runs Joins (fun r hr m => touches_iff hr m) (fun m ht => ht.2.1 rfl)]
  apply List.map_congr_left
  intro r _
  exact melted_eq r

end Formatting

/-! ## What the second pass keeps -/

section Turns
variable (unmarshal : String → Option J)

/-- The messages that are no instructions. -/
def turns (l : List Message) : List Message := l.filter (fun m => m.role≠"system")

/-- The blocks that a message brings along. -/
def messageBlocks (m : Message) : List (ClaudeMediaMessage J) :=
  if m.role = "tool" then [.toolResult m.toolCallId m.content] else (claudeContent unmarshal m).toBlocks

/-- What stands before a conversation that the user has not opened. -/
def opening (l : List Message) : List (ClaudeMediaMessage J) :=
  match (turns l).head? with
  | none => []
  | some m => if m.role = "user" then [] else [.text "..."]

def ClaudeContent.Nonempty : ClaudeContent J → Prop
  | .string s => s≠""
  | .blocks l => l≠[]

/-- The conversion of `l`: every block in its place, and turns that the upstream takes. -/
structure Converted (l : List Message) (s : Conversion J) : Prop where
  blocks : s.claudeMessages.flatMap (fun c => c.content.toBlocks) =
    opening l++(turns l).flatMap (messageBlocks unmarshal)
  system : s.systemMessages = (l.filter (fun m => m.role = "system")).flatMap (fun m =>
    m.content.parseContent.filter (· ≠ ""))
  nonempty : ∀c∈s.claudeMessages,c.content.Nonempty
  roles : ∀c∈s.claudeMessages,c.role = "user" ∨ ∃m∈turns l,m.role≠"tool" ∧ c.role=m.role
  head : ∀c∈s.claudeMessages.head?,c.role = "user"
  first : s.isFirstMessage = true ↔ turns l = []
  started : s.claudeMessages = [] ↔ turns l = []

variable {unmarshal}

lemma orDotsBlock_ne_nil (l : List (ClaudeMediaMessage J)) : orDotsBlock l≠[] := by
  cases l <;> simp [orDotsBlock]

lemma nonempty_claudeContent (m : Message) : (claudeContent unmarshal m).Nonempty := by
  unfold claudeContent
  split_ifs with h hs
  · exact fun h => absurd h (by decide)
  · exact hs
  · exact orDotsBlock_ne_nil _

/-- A tool result adds its block, keeps the roles and keeps what is not empty. -/
lemma addToolResult_cases (messages : List (ClaudeMessage J)) (m : Message) :
    ∃pre c,(addToolResult messages m = pre++[c] ∧ c.role = "user" ∧ c.content.Nonempty) ∧
      ((pre=messages ∧ c.content.toBlocks=[.toolResult m.toolCallId m.content]) ∨
        ∃last,messages=pre++[last] ∧ last.role = "user" ∧
          c.content.toBlocks=last.content.toBlocks++[.toolResult m.toolCallId m.content]) := by
  unfold addToolResult
  rcases List.eq_nil_or_concat messages with rfl | ⟨pre,last,rfl⟩
  · exact ⟨[],_,⟨rfl,rfl,by simp [ClaudeContent.Nonempty]⟩,.inl ⟨rfl,rfl⟩⟩
  · simp only [List.concat_eq_append,List.getLast?_append_of_ne_nil _ (List.cons_ne_nil _ _),List.getLast?_singleton,
      List.dropLast_concat]
    by_cases hr : last.role = "user"
    · rw [if_pos hr]
      exact ⟨pre,_,⟨rfl,hr,by simp [ClaudeContent.Nonempty]⟩,.inr ⟨last,rfl,hr,rfl⟩⟩
    · rw [if_neg hr]
      exact ⟨pre++[last],_,⟨rfl,rfl,by simp [ClaudeContent.Nonempty]⟩,.inl ⟨rfl,rfl⟩⟩

lemma turns_concat (l : List Message) (m : Message) :
    turns (l++[m]) = if m.role = "system" then turns l else turns l++[m] := by
  unfold turns
  rw [List.filter_append,List.filter_singleton]
  split_ifs <;> simp_all

lemma opening_concat (l : List Message) (m : Message) (h : turns l≠[]) :
    opening (J := J) (l++[m]) = opening l := by
  unfold opening
  rw [turns_concat]
  obtain ⟨a,as,ha⟩ := List.exists_cons_of_ne_nil h
  split_ifs <;> simp [ha]

/-- The messages before a turn: with the opening if the turn is the first and not the user's. -/
lemma Converted.opened {l : List Message} {s : Conversion J} (h : Converted unmarshal l s) {m : Message}
    (hm : m.role≠"system") : ∃ms,(if s.isFirstMessage = true ∧ m.role≠"user" then
        s.claudeMessages++[⟨"user",.blocks [.text "..."]⟩] else s.claudeMessages) = ms ∧
      ms.flatMap (fun c => c.content.toBlocks) = opening (l++[m])++(turns l).flatMap (messageBlocks unmarshal) ∧
      (∀c∈ms,c.content.Nonempty) ∧ (∀c∈ms,c.role = "user" ∨ ∃m∈turns l,m.role≠"tool" ∧ c.role=m.role) ∧
      (∀c∈ms.head?,c.role = "user") ∧ (ms=[] → m.role = "user") := by
  refine ⟨_,rfl,?_⟩
  by_cases hl : turns l = []
  · have hnil : s.claudeMessages = [] := h.started.mpr hl
    have hopen : opening (J := J) (l++[m]) = if m.role = "user" then [] else [.text "..."] := by
      simp [opening,turns_concat,hl,hm]
    rw [hopen,hl,hnil,h.first.mpr hl]
    by_cases hu : m.role = "user" <;> simp [hu,ClaudeContent.Nonempty,ClaudeContent.toBlocks]
  · have hfirst : ¬(s.isFirstMessage = true ∧ m.role≠"user") := fun hc => hl (h.first.mp hc.1)
    rw [if_neg hfirst,opening_concat l m hl]
    exact ⟨h.blocks,h.nonempty,h.roles,h.head,fun hms => absurd (h.started.mp hms) hl⟩

lemma Converted.step {l : List Message} {s : Conversion J} (h : Converted unmarshal l s) (m : Message) :
    Converted unmarshal (l++[m]) (convertStep unmarshal s m) := by
  by_cases hm : m.role = "system"
  · have hturns : turns (l++[m]) = turns l := by rw [turns_concat,if_pos hm]
    have hopen : opening (J := J) (l++[m]) = opening l := by rw [opening,hturns,opening]
    rw [convertStep,if_pos hm]
    constructor
    · rw [hturns,hopen]
      exact h.blocks
    · simp [h.system,List.filter_append,hm]
    · exact h.nonempty
    · rw [hturns]
      exact h.roles
    · exact h.head
    · rw [hturns]
      exact h.first
    · rw [hturns]
      exact h.started
  have hturns : turns (l++[m]) = turns l++[m] := by rw [turns_concat,if_neg hm]
  obtain ⟨ms,hms,hblocks,hnonempty,hroles,hhead,hnil⟩ := h.opened hm
  have hroles' : ∀c∈ms,c.role = "user" ∨ ∃m'∈turns l++[m],m'.role≠"tool" ∧ c.role=m'.role :=
    fun c hc => (hroles c hc).imp id (fun ⟨m',hm',hr⟩ => ⟨m',List.mem_append_left _ hm',hr⟩)
  have hsystem : s.systemMessages = ((l++[m]).filter (fun m => m.role = "system")).flatMap (fun m =>
      m.content.parseContent.filter (· ≠ "")) := by simp [h.system,List.filter_append,hm]
  rw [convertStep,if_neg hm]
  dsimp only
  rw [hms]
  by_cases ht : m.role = "tool"
  · obtain ⟨pre,c,⟨happ,hcu,hcn⟩,hcase⟩ := addToolResult_cases ms m
    rw [if_pos ht,happ]
    have hb : messageBlocks unmarshal m = [.toolResult m.toolCallId m.content] := by rw [messageBlocks,if_pos ht]
    have hpre : ∀x∈pre,x∈ms := by
      rcases hcase with ⟨rfl,-⟩ | ⟨last,rfl,-⟩
      · exact fun x hx => hx
      · exact fun x hx => List.mem_append_left _ hx
    constructor
    · rw [hturns,List.flatMap_append,List.flatMap_append,←List.append_assoc,←hblocks]
      rcases hcase with ⟨rfl,hc⟩ | ⟨last,rfl,-,hc⟩ <;> simp [hc,hb]
    · exact hsystem
    · intro x hx
      rcases List.mem_append.mp hx with hx | hx
      · exact hnonempty x (hpre x hx)
      · rwa [List.mem_singleton.mp hx]
    · intro x hx
      rw [hturns]
      rcases List.mem_append.mp hx with hx | hx
      · exact hroles' x (hpre x hx)
      · rw [List.mem_singleton.mp hx]
        exact .inl hcu
    · rcases hcase with ⟨rfl,-⟩ | ⟨last,rfl,-⟩
      · cases pre with
        | nil => simpa using hcu
        | cons a as => exact hhead
      · cases pre with
        | nil => simpa using hcu
        | cons a as => exact hhead
    · simp [hturns]
    · simp [hturns]
  · rw [if_neg ht]
    have hb : messageBlocks unmarshal m = (claudeContent unmarshal m).toBlocks := by rw [messageBlocks,if_neg ht]
    constructor
    · rw [hturns,List.flatMap_append,List.flatMap_append,hblocks,←List.append_assoc]
      simp [hb]
    · exact hsystem
    · intro x hx
      rcases List.mem_append.mp hx with hx | hx
      · exact hnonempty x hx
      · rw [List.mem_singleton.mp hx]
        exact nonempty_claudeContent m
    · intro x hx
      rw [hturns]
      rcases List.mem_append.mp hx with hx | hx
      · exact hroles' x hx
      · rw [List.mem_singleton.mp hx]
        exact .inr ⟨m,by simp,ht,rfl⟩
    · cases ms with
      | nil => simpa using hnil rfl
      | cons a as => exact hhead
    · simp [hturns]
    · simp [hturns]

end Turns

/-- Every message list: the first pass makes one message of each run of neighbours, and the second one keeps every
block of these, in order and once, behind an opening where the user does not begin; no turn is empty, the first is the
user's, and the roles are those of the messages that are neither instructions nor tool results. -/
theorem converted_runs (unmarshal : String → Option J) (messages : List Message) :
    Converted unmarshal ((Runs.runs Joins messages).map runMessage)
      (convertMessages unmarshal (formatMessages messages)) := by
  rw [formatMessages_eq]
  unfold convertMessages
  induction (Runs.runs Joins messages).map runMessage using List.reverseRecOn with
  | nil => exact ⟨rfl,rfl,nofun,nofun,nofun,iff_of_true rfl rfl,iff_of_true rfl rfl⟩
  | append_singleton l m ih =>
    rw [List.foldl_append]
    exact ih.step m

end ToClaude
end Convert
end Tierflow
