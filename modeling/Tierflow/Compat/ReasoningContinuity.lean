import Tierflow.Foundation.Json
import Tierflow.Foundation.JsonText
import Tierflow.Foundation.Keyed
import Tierflow.Foundation.Slots
import Tierflow.Foundation.Text

/-! The cache of the reasoning texts that clients do not send back. An entry has its key from the text and the tool
calls of an assistant message, which are read off the whole response, gathered from the chunks of a stream, or taken
from the message that the client returns. -/
namespace Tierflow
namespace Compat
namespace ReasoningContinuity

/-- What the digest reads of a tool call. A collector keeps the same of each of its slots. -/
structure ToolCall where
  id : String
  name : String
  arguments : String
deriving DecidableEq

def ToolCall.empty : ToolCall := ⟨"","",""⟩

def ToolCall.filled (t : ToolCall) : Bool := !(t.id = "" && t.name = "" && t.arguments = "")

/-! ## Keys -/

structure ReasoningScope where
  userID : ℤ
  model : String

section Keys
variable (toLower sha256 : String → String) (codec : JsonCodec (List ToolCall))

def newReasoningScope (userID : ℤ) (modelName : String) : ReasoningScope := ⟨userID,toLower modelName⟩

def digest (calls : List ToolCall) : String :=
  String.join (calls.map (fun c => c.id++"\x1f"++c.name++"\x1f"++c.arguments++"\x1e"))

/-- Texts of equal calls have one digest. What cannot be read stands for itself. -/
def reasoningToolCallsDigest (raw : String) : String :=
  if raw = "" then ""
  else match codec.unmarshal raw with
    | none => raw
    | some calls => if calls.isEmpty then "" else digest calls

def reasoningKey (scope : ReasoningScope) (contentStr toolCalls : String) : String :=
  sha256 (Text.printInt scope.userID++"\x00"++scope.model++"\x00"++contentStr++"\x00"++
    reasoningToolCallsDigest codec toolCalls)

/-- The entries that are alive. -/
abbrev Cache := String → Option String

def RememberReasoning (userID : ℤ) (modelName contentStr toolCalls reasoning : String) (cache : Cache) : Cache :=
  if reasoning = "" ∨ (contentStr = "" ∧ reasoningToolCallsDigest codec toolCalls = "") then cache
  else
    Function.update cache (reasoningKey sha256 codec (newReasoningScope toLower userID modelName) contentStr toolCalls)
    (some reasoning)

def lookupReasoning (cache : Cache) (scope : ReasoningScope) (contentStr toolCalls : String) : Option String :=
  (cache (reasoningKey sha256 codec scope contentStr toolCalls)).filter (fun v => v≠"")

def deepSeekThinkingModelPrefix : String := "deepseek-v4"

def channelTypeDeepSeek : ℕ := 43

def NeedsReasoningContinuity (channelType : ℕ) (modelName : String) : Bool :=
  channelType = channelTypeDeepSeek && Text.hasPrefix (toLower modelName) deepSeekThinkingModelPrefix

end Keys

/-! ## Whole messages -/

/-- A part of a content that is an array. What is no object has neither of them. -/
structure Part where
  type : Option String
  text : Option String

inductive Content
  | missing
  | text (s : String)
  | parts (l : List Part)

/-- An assistant message of a response or a request. -/
structure Message where
  content : Content
  reasoningContent : Option String
  reasoning : Option String
  toolCalls : String

def Message.StringContent (m : Message) : String :=
  match m.content with
  | .missing => ""
  | .text s => s
  | .parts l => String.join (l.map (fun p => if p.type = some "text" then p.text.getD "" else ""))

/-- Reasoning under either name, of a message or of a delta. -/
def getReasoningContent (reasoningContent reasoning : Option String) : String :=
  (reasoningContent.or reasoning).getD ""

def Message.GetReasoningContent (m : Message) : String := getReasoningContent m.reasoningContent m.reasoning

/-! ## Streams -/

structure ToolDelta where
  index : Option ℤ
  id : String
  name : String
  arguments : String

/-- The slot that a delta names; without a proper index it is the first one. -/
def ToolDelta.slot (t : ToolDelta) : ℕ := (t.index.getD 0).toNat

structure ChoiceDelta where
  index : ℤ
  content : Option String
  reasoningContent : Option String
  reasoning : Option String
  toolCalls : List ToolDelta

def ChoiceDelta.GetContentString (d : ChoiceDelta) : String := d.content.getD ""

def ChoiceDelta.GetReasoningContent (d : ChoiceDelta) : String := getReasoningContent d.reasoningContent d.reasoning

/-- What has been gathered for a choice. -/
structure ChoiceAcc where
  content : String
  reasoning : String
  tools : List ToolCall

def ChoiceAcc.empty : ChoiceAcc := ⟨"","",[]⟩

structure ReasoningStreamCollector where
  userID : ℤ
  model : String
  choices : Keyed ℤ ChoiceAcc

def addTool (c : ToolCall) (t : ToolDelta) : ToolCall where
  id := if t.id≠"" then t.id else c.id
  name := if t.name≠"" then t.name else c.name
  arguments := c.arguments++t.arguments

def ChoiceAcc.add (acc : ChoiceAcc) (ch : ChoiceDelta) : ChoiceAcc where
  content := acc.content++ch.GetContentString
  reasoning := acc.reasoning++ch.GetReasoningContent
  tools := ch.toolCalls.foldl (Slots.put .empty addTool ToolDelta.slot) acc.tools

def addChoice (choices : Keyed ℤ ChoiceAcc) (ch : ChoiceDelta) : Keyed ℤ ChoiceAcc :=
  (choices.insertNew (ch.index,.empty)).mapRows (fun i acc => if i = ch.index then acc.add ch else acc)

/-- The choices of one chunk. -/
def ReasoningStreamCollector.Add (rc : ReasoningStreamCollector) (choices : List ChoiceDelta) :
    ReasoningStreamCollector := { rc with choices := choices.foldl addChoice rc.choices }

section Paths
variable (toLower sha256 : String → String) (codec : JsonCodec (List ToolCall))

def NewReasoningStreamCollector (channelType : ℕ) (userID : ℤ) (modelName : String) :
    Option ReasoningStreamCollector :=
  if NeedsReasoningContinuity toLower channelType modelName then some ⟨userID,modelName,.empty⟩ else none

/-- The calls of the slots in which anything has arrived, as they are written. -/
def ChoiceAcc.toolBytes (acc : ChoiceAcc) : String :=
  if acc.tools.isEmpty then ""
  else
    let arr := acc.tools.filter ToolCall.filled
    if arr.isEmpty then "" else codec.marshal arr

def ReasoningStreamCollector.flushChoice (rc : ReasoningStreamCollector) (acc : ChoiceAcc) (cache : Cache) : Cache :=
  if acc.reasoning = "" then cache
  else RememberReasoning toLower sha256 codec rc.userID rc.model acc.content (acc.toolBytes codec) acc.reasoning cache

/-- The choices are gone over in any order. -/
def ReasoningStreamCollector.Flush (rc : ReasoningStreamCollector) (order : List (ℤ × ChoiceAcc)) (cache : Cache) :
    Cache := order.foldl (fun cache r => rc.flushChoice toLower sha256 codec r.2 cache) cache

/-- What the handler of a whole response does with one of its choices. -/
def rememberMessage (userID : ℤ) (modelName : String) (m : Message) (cache : Cache) : Cache :=
  if m.GetReasoningContent≠"" then
    RememberReasoning toLower sha256 codec userID modelName m.StringContent m.toolCalls m.GetReasoningContent cache
  else cache

end Paths

/-! ## Keys of equal calls -/

section Digests
variable {codec : JsonCodec (List ToolCall)} {raw : String} {calls : List ToolCall}

/-- The text says these tool calls; no text says that there are none. -/
def Says (codec : JsonCodec (List ToolCall)) (raw : String) (calls : List ToolCall) : Prop :=
  if raw = "" then calls = [] else codec.unmarshal raw = some calls

lemma digest_said (h : Says codec raw calls) : reasoningToolCallsDigest codec raw = digest calls := by
  unfold Says at h
  unfold reasoningToolCallsDigest
  split_ifs at h ⊢ with hraw
  · rw [h]
    rfl
  · rw [h]
    cases calls <;> rfl

/-- Two texts of the same calls have the same key, however they are spelled. -/
lemma key_congr {sha256 : String → String} {raw' : String} (h : Says codec raw calls) (h' : Says codec raw' calls)
    (scope : ReasoningScope) (contentStr : String) :
    reasoningKey sha256 codec scope contentStr raw = reasoningKey sha256 codec scope contentStr raw' := by
  unfold reasoningKey
  rw [digest_said h,digest_said h']

lemma remember_congr {toLower sha256 : String → String} {raw' : String} (h : Says codec raw calls)
    (h' : Says codec raw' calls) (userID : ℤ) (modelName contentStr reasoning : String) (cache : Cache) :
    RememberReasoning toLower sha256 codec userID modelName contentStr raw reasoning cache =
      RememberReasoning toLower sha256 codec userID modelName contentStr raw' reasoning cache := by
  unfold RememberReasoning
  rw [key_congr h h',digest_said h,digest_said h']

lemma says_empty : Says codec "" [] := by
  unfold Says
  rw [if_pos rfl]

lemma toolBytes_says (acc : ChoiceAcc) : Says codec (acc.toolBytes codec) (acc.tools.filter ToolCall.filled) := by
  unfold ChoiceAcc.toolBytes
  by_cases htools : acc.tools.isEmpty
  · rw [if_pos htools,List.isEmpty_iff.mp htools]
    exact says_empty
  · rw [if_neg htools]
    by_cases harr : (acc.tools.filter ToolCall.filled).isEmpty
    · simp only [harr,if_true]
      rw [List.isEmpty_iff.mp harr]
      exact says_empty
    · simp only [harr,Bool.false_eq_true,if_false]
      unfold Says
      rw [if_neg (codec.marshal_ne_empty _)]
      exact codec.unmarshal_marshal _

end Digests

/-! ## What a collector gathers -/

/-- The deltas of a choice, in the order in which they arrive. -/
def deltas (stream : List (List ChoiceDelta)) (i : ℤ) : List ChoiceDelta :=
  stream.flatten.filter (fun ch => ch.index = i)

def fragments (stream : List (List ChoiceDelta)) (i : ℤ) : List ToolDelta :=
  (deltas stream i).flatMap ChoiceDelta.toolCalls

/-- The pieces of a call: its id and its name come with the first one. -/
def CutOf (c : ToolCall) (pieces : List ToolDelta) : Prop :=
  ∃ first later, pieces = first::later ∧ first.id = c.id ∧ first.name = c.name ∧
    (∀ t∈later, (t.id = "" ∨ t.id = c.id) ∧ (t.name = "" ∨ t.name = c.name)) ∧
    String.join (pieces.map ToolDelta.arguments) = c.arguments

/-- A choice of a stream is a cut of this message. The calls have slots of their own, and the pieces of different slots
are mixed in any way. -/
structure Splits (stream : List (List ChoiceDelta)) (i : ℤ) (text reasoning : String) (calls : List ToolCall) :
    Prop where
  text : String.join ((deltas stream i).map ChoiceDelta.GetContentString) = text
  reasoning : String.join ((deltas stream i).map ChoiceDelta.GetReasoningContent) = reasoning
  calls : ∃ slots : List ℕ, slots.Pairwise (fun s t => s < t) ∧ (∀ t∈fragments stream i, t.slot∈slots) ∧
    List.Forall₂ (fun s c => CutOf c ((fragments stream i).filter (fun t => t.slot = s))) slots calls

def ReasoningStreamCollector.acc (rc : ReasoningStreamCollector) (i : ℤ) : ChoiceAcc :=
  (rc.choices.find? i).getD .empty

section Gathering
variable {c : ToolCall} {stream : List (List ChoiceDelta)} {i : ℤ} {text reasoning : String} {calls : List ToolCall}

lemma foldl_addTool {later : List ToolDelta}
    (h : ∀ t∈later, (t.id = "" ∨ t.id = c.id) ∧ (t.name = "" ∨ t.name = c.name)) (arguments : String) :
    later.foldl addTool ⟨c.id,c.name,arguments⟩ =
      ⟨c.id,c.name,arguments++String.join (later.map ToolDelta.arguments)⟩ := by
  induction later generalizing arguments with
  | nil => simp
  | cons t later ih =>
    obtain ⟨hid,hname⟩ := h t List.mem_cons_self
    have hadd : addTool ⟨c.id,c.name,arguments⟩ t = ⟨c.id,c.name,arguments++t.arguments⟩ := by
      unfold addTool
      congr 1
      · rcases hid with hid | hid <;> simp [hid]
      · rcases hname with hname | hname <;> simp [hname]
    rw [List.foldl_cons,hadd,ih (fun t ht => h t (List.mem_cons_of_mem _ ht)),List.map_cons,String.join_cons,
      String.append_assoc]

/-- The pieces of a call come to the call. -/
lemma foldl_cut {pieces : List ToolDelta} (h : CutOf c pieces) : pieces.foldl addTool .empty = c := by
  obtain ⟨first,later,rfl,hid,hname,hlater,harguments⟩ := h
  have hfirst : addTool .empty first = ⟨c.id,c.name,first.arguments⟩ := by
    unfold addTool ToolCall.empty
    rw [hid,hname]
    congr 1
    · split_ifs with h
      · rfl
      · exact (not_not.mp h).symm
    · split_ifs with h
      · rfl
      · exact (not_not.mp h).symm
  rw [List.foldl_cons,hfirst,foldl_addTool hlater,←String.join_cons,←List.map_cons,harguments]

lemma foldl_add (l : List ChoiceDelta) (acc : ChoiceAcc) : l.foldl ChoiceAcc.add acc =
    { content := acc.content++String.join (l.map ChoiceDelta.GetContentString)
      reasoning := acc.reasoning++String.join (l.map ChoiceDelta.GetReasoningContent)
      tools := (l.flatMap ChoiceDelta.toolCalls).foldl (Slots.put .empty addTool ToolDelta.slot) acc.tools } := by
  induction l generalizing acc with
  | nil => simp
  | cons d l ih =>
    rw [List.foldl_cons,ih,ChoiceAcc.add,List.map_cons,List.map_cons,List.flatMap_cons,List.foldl_append,
      String.join_cons,String.join_cons,String.append_assoc,String.append_assoc]

lemma find?_addChoice (choices : Keyed ℤ ChoiceAcc) (ch : ChoiceDelta) (i : ℤ) :
    ((addChoice choices ch).find? i).getD .empty =
      if ch.index = i then ((choices.find? i).getD .empty).add ch else (choices.find? i).getD .empty := by
  unfold addChoice
  rw [Keyed.find?_mapRows,Keyed.find?_insertNew,List.lookup_cons,List.lookup_nil]
  by_cases hi : i = ch.index
  · subst hi
    rw [if_pos rfl,beq_self_eq_true]
    cases choices.find? ch.index <;> simp
  · rw [if_neg (fun h => hi h.symm),beq_false_of_ne hi]
    cases choices.find? i <;> simp [hi]

/-- Every choice has what its own deltas bring. -/
lemma acc_collected (rc : ReasoningStreamCollector) (stream : List (List ChoiceDelta)) (i : ℤ) :
    (stream.foldl .Add rc).acc i = (deltas stream i).foldl ChoiceAcc.add (rc.acc i) := by
  have hchunk : ∀ (l : List ChoiceDelta) (choices : Keyed ℤ ChoiceAcc),
      ((l.foldl addChoice choices).find? i).getD .empty =
        (l.filter (fun ch => ch.index = i)).foldl ChoiceAcc.add ((choices.find? i).getD .empty) := by
    intro l
    induction l with
    | nil => exact fun _ => rfl
    | cons ch l ih =>
      intro choices
      rw [List.foldl_cons,ih,find?_addChoice,List.filter_cons]
      by_cases hi : ch.index = i
      · rw [if_pos hi,if_pos (decide_eq_true hi),List.foldl_cons]
      · rw [if_neg hi,if_neg (by simpa using hi)]
  unfold deltas
  induction stream generalizing rc with
  | nil => rfl
  | cons chunk stream ih =>
    rw [List.foldl_cons,ih,List.flatten_cons,List.filter_append,List.foldl_append]
    exact congrArg (List.foldl _ · _) (hchunk chunk rc.choices)

/-- A cut message is gathered whole, but for the calls of which nothing has arrived. -/
lemma Splits.gathered (h : Splits stream i text reasoning calls) {rc : ReasoningStreamCollector}
    (hrc : rc.acc i = .empty) :
    ((stream.foldl .Add rc).acc i).content = text ∧ ((stream.foldl .Add rc).acc i).reasoning = reasoning ∧
      ((stream.foldl .Add rc).acc i).tools.filter ToolCall.filled = calls.filter ToolCall.filled := by
  obtain ⟨slots,hslots,hplace,hcut⟩ := h.calls
  rw [acc_collected,hrc,foldl_add]
  refine ⟨?_,?_,?_⟩
  · exact String.empty_append.trans h.text
  · exact String.empty_append.trans h.reasoning
  · refine (Slots.filter_foldl_put rfl hslots hplace).trans (congrArg (List.filter _) ?_)
    rw [←List.forall₂_eq_eq_eq,List.forall₂_map_left_iff]
    exact hcut.imp (fun s c hc => foldl_cut hc)

end Gathering

/-! ## What a flush leaves -/

section Flushing
variable (toLower sha256 : String → String) (codec : JsonCodec (List ToolCall)) (rc : ReasoningStreamCollector)

def ReasoningStreamCollector.scope : ReasoningScope := newReasoningScope toLower rc.userID rc.model

def ReasoningStreamCollector.keyOf (acc : ChoiceAcc) : String :=
  reasoningKey sha256 codec (rc.scope toLower) acc.content (acc.toolBytes codec)

/-- A choice with reasoning is remembered unless there is nothing to find it by. -/
def Remembered (acc : ChoiceAcc) : Prop :=
  acc.reasoning≠"" ∧ ¬(acc.content = "" ∧ reasoningToolCallsDigest codec (acc.toolBytes codec) = "")

variable {toLower sha256 codec rc}

lemma flushChoice_of_remembered {acc : ChoiceAcc} (h : Remembered codec acc) (cache : Cache) :
    rc.flushChoice toLower sha256 codec acc cache =
      Function.update cache (rc.keyOf toLower sha256 codec acc) (some acc.reasoning) := by
  unfold ReasoningStreamCollector.flushChoice RememberReasoning
  rw [if_neg h.1,if_neg (not_or.mpr h)]
  rfl

lemma flushChoice_of_not_remembered {acc : ChoiceAcc} (h : ¬Remembered codec acc) (cache : Cache) :
    rc.flushChoice toLower sha256 codec acc cache = cache := by
  unfold ReasoningStreamCollector.flushChoice RememberReasoning
  by_cases hreasoning : acc.reasoning = ""
  · rw [if_pos hreasoning]
  · rw [if_neg hreasoning,if_pos (Or.inr (not_not.mp (fun hne => h ⟨hreasoning,hne⟩)))]

/-- What stands under a key stays when the choices of the key agree. -/
lemma flush_apply {key reasoning : String} {order : List (ℤ × ChoiceAcc)}
    (hsame : ∀ r∈order, Remembered codec r.2 → rc.keyOf toLower sha256 codec r.2 = key → r.2.reasoning = reasoning)
    {cache : Cache}
    (h : cache key = some reasoning ∨ ∃ r∈order, Remembered codec r.2 ∧ rc.keyOf toLower sha256 codec r.2 = key) :
    rc.Flush toLower sha256 codec order cache key = some reasoning := by
  unfold ReasoningStreamCollector.Flush
  induction order generalizing cache with
  | nil => exact h.resolve_right (fun ⟨r,hr,_⟩ => List.not_mem_nil hr)
  | cons r order ih =>
    have hrest : ∀ s∈order, Remembered codec s.2 → rc.keyOf toLower sha256 codec s.2 = key →
        s.2.reasoning = reasoning := fun s hs => hsame s (List.mem_cons_of_mem _ hs)
    rw [List.foldl_cons]
    apply ih hrest
    by_cases hr : Remembered codec r.2
    · rw [flushChoice_of_remembered hr]
      by_cases hkey : rc.keyOf toLower sha256 codec r.2 = key
      · left
        rw [hkey,Function.update_self,hsame r List.mem_cons_self hr hkey]
      · rw [Function.update_of_ne (fun heq => hkey heq.symm)]
        refine h.imp_right ?_
        rintro ⟨s,hs,hs',hskey⟩
        rcases List.mem_cons.mp hs with rfl | hs
        · exact absurd hskey hkey
        · exact ⟨s,hs,hs',hskey⟩
    · rw [flushChoice_of_not_remembered hr]
      refine h.imp_right ?_
      rintro ⟨s,hs,hs',hskey⟩
      rcases List.mem_cons.mp hs with rfl | hs
      · exact absurd hs' hr
      · exact ⟨s,hs,hs',hskey⟩

end Flushing

/-! ## One key on every path -/

section Agreement
variable (toLower sha256 : String → String) (codec : JsonCodec (List ToolCall))

/-- A choice of a stream, the whole message and the message that is echoed have one key and one reasoning text. -/
structure Agrees (rc : ReasoningStreamCollector) (i : ℤ) (whole echo : Message) : Prop where
  key : rc.keyOf toLower sha256 codec (rc.acc i) =
    reasoningKey sha256 codec (rc.scope toLower) whole.StringContent whole.toolCalls
  lookup : rc.keyOf toLower sha256 codec (rc.acc i) =
    reasoningKey sha256 codec (rc.scope toLower) echo.StringContent echo.toolCalls
  written : ∀ cache, rc.flushChoice toLower sha256 codec (rc.acc i) cache =
    rememberMessage toLower sha256 codec rc.userID rc.model whole cache
  /-- The reasoning is found again, unless there is nothing to find it by or another choice of the stream leaves
  another text under the key. -/
  found : whole.GetReasoningContent≠"" →
    (whole.StringContent≠"" ∨ reasoningToolCallsDigest codec whole.toolCalls≠"") →
    ∀ (order : List (ℤ × ChoiceAcc)) (cache : Cache), order.Perm rc.choices.rows →
      (∀ r∈order, Remembered codec r.2 → rc.keyOf toLower sha256 codec r.2 = rc.keyOf toLower sha256 codec (rc.acc i) →
        r.2.reasoning = whole.GetReasoningContent) →
      lookupReasoning sha256 codec (rc.Flush toLower sha256 codec order cache) (rc.scope toLower) echo.StringContent
        echo.toolCalls = some whole.GetReasoningContent

variable {toLower sha256 codec} {rc : ReasoningStreamCollector} {stream : List (List ChoiceDelta)} {i : ℤ}
  {calls : List ToolCall} {whole echo : Message}

lemma foldl_Add_user (rc : ReasoningStreamCollector) (stream : List (List ChoiceDelta)) :
    (stream.foldl .Add rc).userID = rc.userID ∧ (stream.foldl .Add rc).model = rc.model := by
  induction stream generalizing rc with
  | nil => exact ⟨rfl,rfl⟩
  | cons chunk stream ih => exact ih (rc.Add chunk)

lemma row_of_reasoning (h : (rc.acc i).reasoning≠"") : (i,rc.acc i)∈rc.choices.rows := by
  rw [←Keyed.find?_eq_some_iff]
  cases hfind : rc.choices.find? i with
  | none =>
    unfold ReasoningStreamCollector.acc at h
    rw [hfind] at h
    exact absurd rfl h
  | some acc =>
    unfold ReasoningStreamCollector.acc
    rw [hfind]
    rfl

/-- However a message is cut, what is gathered of it agrees with it when each of its calls says anything. -/
theorem stream_agrees {channelType : ℕ} {userID : ℤ} {modelName : String}
    (hnew : NewReasoningStreamCollector toLower channelType userID modelName = some rc)
    (hsplit : Splits stream i whole.StringContent whole.GetReasoningContent calls)
    (hwhole : Says codec whole.toolCalls calls) (hecho : Says codec echo.toolCalls calls)
    (hcontent : echo.StringContent = whole.StringContent) (hcalls : ∀ c∈calls, c.filled) :
    Agrees toLower sha256 codec (stream.foldl .Add rc) i whole echo := by
  have hrc : rc.acc i = .empty := by
    unfold NewReasoningStreamCollector at hnew
    split_ifs at hnew
    rw [←Option.some.inj hnew]
    rfl
  obtain ⟨htext,hreasoning,htools⟩ := hsplit.gathered hrc
  rw [List.filter_eq_self.mpr hcalls] at htools
  set gathered := stream.foldl ReasoningStreamCollector.Add rc
  have hbytes : Says codec ((gathered.acc i).toolBytes codec) calls := by
    rw [←htools]
    exact toolBytes_says _
  have hkey : gathered.keyOf toLower sha256 codec (gathered.acc i) =
      reasoningKey sha256 codec (gathered.scope toLower) whole.StringContent whole.toolCalls := by
    unfold ReasoningStreamCollector.keyOf
    rw [htext,key_congr hbytes hwhole]
  have hlookup : gathered.keyOf toLower sha256 codec (gathered.acc i) =
      reasoningKey sha256 codec (gathered.scope toLower) echo.StringContent echo.toolCalls := by
    rw [hkey,hcontent,key_congr hwhole hecho]
  refine ⟨hkey,hlookup,?_,?_⟩
  · intro cache
    unfold ReasoningStreamCollector.flushChoice rememberMessage
    rw [hreasoning,htext,remember_congr hbytes hwhole,ite_not]
  · intro hne hfindable order cache hperm hsame
    have hremembered : Remembered codec (gathered.acc i) := by
      refine ⟨hreasoning ▸ hne,?_⟩
      rw [htext,digest_said hbytes,←digest_said hwhole]
      rintro ⟨htext',hdigest⟩
      exact hfindable.elim (fun h => h htext') (fun h => h hdigest)
    have hrow : (i,gathered.acc i)∈order := hperm.mem_iff.mpr (row_of_reasoning hremembered.1)
    unfold lookupReasoning
    rw [←hlookup,flush_apply hsame (Or.inr ⟨_,hrow,hremembered,rfl⟩)]
    exact Option.filter_some_pos (decide_eq_true hne)

end Agreement

/-! ## A codec -/

section Codec
open JsonText

/-- A call as a collector writes it. -/
def callText (c : ToolCall) : List Char :=
  "\x7b\"function\":\x7b\"arguments\":".toList++(quote c.arguments++(",\"name\":".toList++(quote c.name++
    ("\x7d,\"id\":".toList++(quote c.id++",\"type\":\"function\"\x7d".toList)))))

def readCall (l : List Char) : Option (ToolCall × List Char) :=
  (expect "\x7b\"function\":\x7b\"arguments\":".toList l).bind fun l =>
  (unquote l).bind fun arguments => (expect ",\"name\":".toList arguments.2).bind fun l =>
  (unquote l).bind fun name => (expect "\x7d,\"id\":".toList name.2).bind fun l =>
  (unquote l).bind fun id => (expect ",\"type\":\"function\"\x7d".toList id.2).map fun l =>
  (⟨id.1,name.1,arguments.1⟩,l)

def callsText : List ToolCall → List Char
  | [] => [']']
  | [c] => callText c++[']']
  | c::d::cs => callText c ++ ',' :: callsText (d::cs)

def readCalls : ℕ → List Char → Option (List ToolCall)
  | 0,_ => none
  | n+1,l =>
    match readCall l with
    | some (c,','::l) => (readCalls n l).map (fun cs => c::cs)
    | some (c,[']']) => some [c]
    | _ => none

lemma readCall_callText (c : ToolCall) (l : List Char) : readCall (callText c++l) = some (c,l) := by
  unfold readCall callText
  simp only [List.append_assoc,expect_append,unquote_quote,Option.bind_some,Option.map_some]

lemma readCalls_callsText {calls : List ToolCall} (hne : calls≠[]) {n : ℕ} (hn : calls.length ≤ n) :
    readCalls n (callsText calls) = some calls := by
  induction calls using callsText.induct generalizing n with
  | case1 => exact absurd rfl hne
  | case2 c =>
    obtain ⟨n,rfl⟩ := Nat.exists_eq_add_of_le' hn
    rw [callsText,List.length_singleton,readCalls,readCall_callText]
    rfl
  | case3 c d cs ih =>
    obtain ⟨n,rfl⟩ := Nat.exists_eq_add_of_le' (Nat.succ_le_of_lt (Nat.lt_of_lt_of_le (Nat.succ_pos _) hn))
    rw [callsText,Nat.succ_eq_add_one,Nat.zero_add,readCalls,readCall_callText]
    exact congrArg (Option.map _) (ih (List.cons_ne_nil _ _) (Nat.le_of_succ_le_succ hn))

lemma length_callsText (calls : List ToolCall) : calls.length ≤ (callsText calls).length := by
  induction calls using callsText.induct with
  | case1 => exact Nat.zero_le _
  | case2 c =>
    rw [callsText,List.length_append,List.length_singleton,List.length_singleton]
    omega
  | case3 c d cs ih =>
    rw [callsText,List.length_append,List.length_cons,List.length_cons (a := ',')]
    omega

def callsCodec : JsonCodec (List ToolCall) where
  marshal calls := String.ofList ('[' :: callsText calls)
  unmarshal s :=
    match s.toList with
    | '['::l => (readCalls l.length l).or (if l = [']'] then some [] else none)
    | _ => none
  emptyObject := []
  unmarshal_marshal calls := by
    rw [String.toList_ofList]
    cases calls with
    | nil => decide
    | cons c cs =>
      have hread := readCalls_callsText (List.cons_ne_nil c cs) (length_callsText (c::cs))
      exact congrArg (fun r => Option.or r _) hread
  unmarshal_empty := rfl

end Codec

/-! ## Two calls, and a call that says nothing -/

section Samples

def delta (content reasoning : Option String) (toolCalls : List ToolDelta) : List ChoiceDelta :=
  [⟨0,content,reasoning,none,toolCalls⟩]

def twoCalls : List ToolCall := [⟨"a","f","\x7b\x7d"⟩,⟨"b","g","[1]"⟩]

/-- The calls are mixed, and the second one has slot 2. -/
def twoCallsStream : List (List ChoiceDelta) :=
  [delta none (some "th") [],delta none (some "ink") [],delta (some "ok") none [⟨none,"a","f",""⟩,⟨some 2,"b","g","["⟩],
    delta none none [⟨some 0,"","","\x7b"⟩],delta none none [⟨some 2,"","g","1]"⟩,⟨some 0,"a","","\x7d"⟩]]

def messageOf (text reasoning : String) (calls : List ToolCall) : Message :=
  ⟨.text text,some reasoning,none,callsCodec.marshal calls⟩

lemma twoCalls_splits : Splits twoCallsStream 0 "ok" "think" twoCalls where
  text := by decide
  reasoning := by decide
  calls := by
    refine ⟨[0,2],by decide,by decide,?_⟩
    refine List.Forall₂.cons ?_ (List.Forall₂.cons ?_ List.Forall₂.nil)
    · exact ⟨⟨none,"a","f",""⟩,[⟨some 0,"","","\x7b"⟩,⟨some 0,"a","","\x7d"⟩],rfl,rfl,rfl,by simp,by decide⟩
    · exact ⟨⟨some 2,"b","g","["⟩,[⟨some 2,"","g","1]"⟩],rfl,rfl,rfl,by simp,by decide⟩

lemma says_marshal (calls : List ToolCall) : Says callsCodec (callsCodec.marshal calls) calls := by
  unfold Says
  rw [if_neg (callsCodec.marshal_ne_empty calls)]
  exact callsCodec.unmarshal_marshal calls

lemma says_messageOf (text reasoning : String) (calls : List ToolCall) :
    Says callsCodec (messageOf text reasoning calls).toolCalls calls := says_marshal calls

def collector : ReasoningStreamCollector := ⟨1,"deepseek-v4",.empty⟩

lemma collector_new : NewReasoningStreamCollector id 43 1 "deepseek-v4" = some collector := by
  unfold NewReasoningStreamCollector
  rw [if_pos (by decide)]
  rfl

/-- A message as a client sends it back, with its text in parts. -/
def echoOf (parts : List Part) (calls : List ToolCall) : Message := ⟨.parts parts,none,none,callsCodec.marshal calls⟩

lemma says_echoOf (parts : List Part) (calls : List ToolCall) : Says callsCodec (echoOf parts calls).toolCalls calls :=
  says_marshal calls

set_option maxRecDepth 5000 in
theorem twoCalls_agree : Agrees id id callsCodec (twoCallsStream.foldl .Add collector) 0
    (messageOf "ok" "think" twoCalls) (echoOf [⟨some "text",some "o"⟩,⟨some "text",some "k"⟩] twoCalls) :=
  @stream_agrees id id callsCodec collector twoCallsStream 0 twoCalls (messageOf "ok" "think" twoCalls)
    (echoOf [⟨some "text",some "o"⟩,⟨some "text",some "k"⟩] twoCalls) 43 1 "deepseek-v4" collector_new twoCalls_splits
    (says_messageOf "ok" "think" twoCalls) (says_echoOf [⟨some "text",some "o"⟩,⟨some "text",some "k"⟩] twoCalls)
    (by decide) (by decide)

/-- A stream leaves out a call that says nothing, and the whole message has it in its key. -/
theorem emptyCall_disagrees : ¬∀ (toLower sha256 : String → String) (codec : JsonCodec (List ToolCall))
    (channelType : ℕ) (userID : ℤ) (modelName : String) (rc : ReasoningStreamCollector)
    (stream : List (List ChoiceDelta)) (i : ℤ) (calls : List ToolCall) (whole echo : Message),
    NewReasoningStreamCollector toLower channelType userID modelName = some rc →
    Splits stream i whole.StringContent whole.GetReasoningContent calls →
    Says codec whole.toolCalls calls → Says codec echo.toolCalls calls → echo.StringContent = whole.StringContent →
    Agrees toLower sha256 codec (stream.foldl .Add rc) i whole echo := by
  intro h
  have hsplit : Splits [delta (some "ok") (some "think") [⟨some 0,"","",""⟩]] 0 "ok" "think" [ToolCall.empty] := by
    refine ⟨by decide,by decide,[0],by decide,by decide,?_⟩
    exact List.Forall₂.cons ⟨⟨some 0,"","",""⟩,[],rfl,rfl,rfl,by simp,by decide⟩ List.Forall₂.nil
  have hagrees := h id id callsCodec 43 1 "deepseek-v4" collector _ 0 [ToolCall.empty]
    (messageOf "ok" "think" [ToolCall.empty]) (messageOf "ok" "think" [ToolCall.empty]) collector_new hsplit
    (says_messageOf "ok" "think" [ToolCall.empty]) (says_messageOf "ok" "think" [ToolCall.empty]) rfl
  exact absurd hagrees.key (by decide)

end Samples

end ReasoningContinuity
end Compat
end Tierflow
