import Tierflow.Foundation.Text
import Tierflow.Convert.GeminiText

/-! An OpenAI request turned into a Gemini request: the messages become contents made of parts, the results of
tools join the last content of the user, and the instructions are kept apart. -/
namespace Tierflow
namespace Convert
namespace Gemini

open Scanning

/-! ## Requests -/

structure ToolCallRequest where
  id : String
  name : String
  arguments : String
  deriving DecidableEq, Repr

/-- A string, or the texts of text parts. -/
inductive MessageContent
  | null
  | string (s : String)
  | texts (l : List String)
  deriving DecidableEq, Repr

structure Message where
  role : String
  content : MessageContent
  name : Option String
  toolCalls : List ToolCallRequest
  toolCallId : String
  deriving DecidableEq, Repr

structure InlineData where
  mimeType : String
  data : String
  deriving DecidableEq, Repr

structure FunctionCall (J : Type*) where
  functionName : String
  arguments : J
  deriving DecidableEq, Repr

structure FunctionResponse (J : Type*) where
  name : String
  response : J
  deriving DecidableEq, Repr

structure Part (J : Type*) where
  text : String := ""
  inlineData : Option InlineData := none
  functionCall : Option (FunctionCall J) := none
  thoughtSignature : String := ""
  functionResponse : Option (FunctionResponse J) := none
  deriving DecidableEq, Repr

structure ChatContent (J : Type*) where
  role : String
  parts : List (Part J)
  deriving DecidableEq, Repr

structure ChatRequest (J : Type*) where
  contents : List (ChatContent J)
  systemInstructions : Option (ChatContent J)
  deriving DecidableEq, Repr

/-- How JSON texts and the headers of images are read. `object?` reads objects and null. -/
structure Readers (J : Type*) where
  object? : String → Option J
  array? : String → Option J
  emptyObject : J
  hasFields : J → Bool
  result : J → J
  content : String → J
  imageFormat : String → Except String String

namespace Message

/-- The texts of the parts that the content is read as. -/
def parseContent (m : Message) : List String :=
  match m.content with
  | .null => []
  | .string s => [s]
  | .texts l => l

def stringContent (m : Message) : String :=
  match m.content with
  | .null => ""
  | .string s => s
  | .texts l => String.join l

def isInstruction (m : Message) : Bool := m.role == "system" || m.role == "developer"

def isResult (m : Message) : Bool := m.role == "tool" || m.role == "function"

end Message

section
variable {J : Type*} (k : Readers J)

/-! ## Images and calls -/

def decodeBase64ImageData (base64String : List Char) : Except String (String × String) :=
  let base64String :=
    match breakAt [','] base64String with
    | some (_,fromComma) => fromComma.drop 1
    | none => base64String
  if base64String = [] then .error "base64 string is empty"
  else (k.imageFormat (String.ofList base64String)).map (fun format => (format,String.ofList base64String))

/-- The format is read from the data when the prefix does not name it. -/
def decodeAsImage (base64String : List Char) : Except String InlineData :=
  (decodeBase64ImageData k base64String).map (fun d => ⟨"image/"++d.1,d.2⟩)

def decodeBase64FileData (base64String : List Char) : Except String InlineData :=
  match breakAt [','] base64String with
  | none => decodeAsImage k base64String
  | some (mimeType,fromComma) =>
    match breakAt [';'] mimeType with
    | none => decodeAsImage k (fromComma.drop 1)
    | some (mimeType,_) =>
      match breakAt [':'] mimeType with
      | none => decodeAsImage k (fromComma.drop 1)
      | some (_,fromColon) => .ok ⟨String.ofList (fromColon.drop 1),String.ofList (fromComma.drop 1)⟩

def readArguments (call : ToolCallRequest) : Except String J :=
  if call.arguments = "" then .ok k.emptyObject
  else
    match k.object? call.arguments with
    | some args => .ok args
    | none => .error ("invalid arguments for function "++call.name++", args: "++call.arguments)

/-- An object, else a list in an object, else a text in an object. -/
def readResponse (contentStr : String) : J :=
  match k.object? contentStr with
  | some j => j
  | none =>
    match k.array? contentStr with
    | some j => k.result j
    | none => k.content contentStr

/-! ## Parts -/

/-- The value that lets a part pass without a signature, in quotes. -/
def thoughtSignatureBypassValue : String := "\"context_engineering_is_the_way_to_go\""

def hasFunctionCallContent (call : FunctionCall J) : Bool :=
  if Text.trimSpace call.functionName = "" then k.hasFields call.arguments else true

def callPart (call : FunctionCall J) (sign : Bool) : Part J :=
  { functionCall := some call, thoughtSignature := if sign then thoughtSignatureBypassValue else "" }

/-- The parts of the calls, and whether one of them has been signed. -/
def callParts (sign : Bool) : Bool → List ToolCallRequest → Except String (Bool × List (Part J))
  | attached,[] => .ok (attached,[])
  | attached,call::calls => do
    let args ← readArguments k call
    let toolCall : FunctionCall J := ⟨call.name,args⟩
    let now := sign && !attached && hasFunctionCallContent k toolCall
    let (attached,parts) ← callParts sign (attached || now) calls
    return (attached,callPart toolCall now::parts)

def textPart (text : List Char) : Part J := { text := String.ofList text }

def imgPart (data : InlineData) (sign : Bool) : Part J :=
  { inlineData := some data, thoughtSignature := if sign then thoughtSignatureBypassValue else "" }

/-- The images that are cut out of a text, each behind the text before it. -/
def imageParts (sign : Bool) : List MarkdownImage → Except String (List (Part J))
  | [] => .ok []
  | m::ms =>
    match decodeBase64FileData k m.dataUrl with
    | .error e => .error ("decode markdown base64 image data failed: "++e)
    | .ok data => do
      let parts ← imageParts sign ms
      return (if m.textBefore = [] then [] else [textPart m.textBefore])++imgPart data sign::parts

/-- What remains of the text behind its last image is not added. -/
def textParts (sign : Bool) (text : String) : Except String (List (Part J)) :=
  if text = "" then .ok []
  else do
    let images := (chop cutImage? text.toList).1
    let parts ← imageParts k sign images
    return parts++if images = [] then [textPart text.toList] else []

def contentParts (sign : Bool) : List String → Except String (List (Part J))
  | [] => .ok []
  | text::texts => do
    let parts ← textParts k sign text
    let rest ← contentParts sign texts
    return parts++rest

/-- The first part with a text gets the signature. -/
def signFirst : List (Part J) → List (Part J)
  | [] => []
  | p::ps =>
    if p.text = "" then p::signFirst ps else { p with thoughtSignature := thoughtSignatureBypassValue }::ps

/-! ## Messages -/

/-- What the loop over the messages keeps: the contents so far, the name of the call under each id, and the
instructions. -/
structure Converting (J : Type*) where
  contents : List (ChatContent J)
  toolCallIds : String → Option String
  systemContent : List String

def responsePart (response : FunctionResponse J) : Part J := { functionResponse := some response }

/-- A part joins the last content, unless that is one of the model. -/
def respond (contents : List (ChatContent J)) (p : Part J) : List (ChatContent J) :=
  match contents.getLast? with
  | none => contents++[⟨"user",[p]⟩]
  | some last =>
    if last.role = "model" then contents++[⟨"user",[p]⟩]
    else contents.dropLast++[{ last with parts := last.parts++[p] }]

def rememberCalls (ids : String → Option String) (calls : List ToolCallRequest) : String → Option String :=
  calls.foldl (fun ids call => Function.update ids call.id (some call.name)) ids

def nameOf (ids : String → Option String) (m : Message) : String :=
  match m.name with
  | some name => name
  | none => (ids m.toolCallId).getD ""

/-- A content without parts is left out. -/
def appendContent (contents : List (ChatContent J)) (content : ChatContent J) : List (ChatContent J) :=
  if content.parts.isEmpty then contents else contents++[content]

/-- A message of the user or of the model: its calls, then its texts. -/
def addTurn (attachThoughtSignature : Bool) (s : Converting J) (m : Message) : Except String (Converting J) := do
  let sign := attachThoughtSignature && (m.role == "assistant" || m.role == "model")
  let (attached,calls) ← callParts k sign false m.toolCalls
  let texts ← contentParts k sign m.parseContent
  let parts := if sign && !attached then signFirst (calls++texts) else calls++texts
  let role := if m.role = "assistant" then "model" else m.role
  return { s with
    toolCallIds := rememberCalls s.toolCallIds m.toolCalls
    contents := appendContent s.contents ⟨role,parts⟩ }

def addMessage (attachThoughtSignature : Bool) (s : Converting J) (m : Message) : Except String (Converting J) :=
  if m.isInstruction then .ok { s with systemContent := s.systemContent++[m.stringContent] }
  else if m.isResult then
    let functionResp := ⟨nameOf s.toolCallIds m,readResponse k m.stringContent⟩
    .ok { s with contents := respond s.contents (responsePart functionResp) }
  else addTurn k attachThoughtSignature s m

def addMessages (attachThoughtSignature : Bool) : Converting J → List Message → Except String (Converting J)
  | s,[] => .ok s
  | s,m::ms => do
    let s ← addMessage k attachThoughtSignature s m
    addMessages attachThoughtSignature s ms

/-- The messages of the request; the settings of the generation are left out. -/
def covertOpenAI2Gemini (attachThoughtSignature : Bool) (messages : List Message) : Except String (ChatRequest J) := do
  let s ← addMessages k attachThoughtSignature ⟨[],fun _ => none,[]⟩ messages
  return ⟨s.contents,if s.systemContent = [] then none
    else some ⟨"",[{ text := String.intercalate "\n" s.systemContent }]⟩⟩

/-! ## What is to be conserved -/

inductive Piece (J : Type*)
  | fragment (f : Fragment (Option InlineData))
  | call (name : String) (args : Option J)
  | result (name : String) (response : J)
  deriving DecidableEq, Repr

def Piece.IsText : Piece J → Prop
  | .fragment f => f.IsText
  | .call _ _ => False
  | .result _ _ => False

def Part.pieces (p : Part J) : List (Piece J) :=
  (if p.text = "" then [] else [.fragment (.text p.text.toList)])++
    p.inlineData.toList.map (fun data => .fragment (.image (some data)))++
    p.functionCall.toList.map (fun call => .call call.functionName (some call.arguments))++
    p.functionResponse.toList.map (fun response => .result response.name response.response)

def partPieces (parts : List (Part J)) : List (Piece J) := parts.flatMap Part.pieces

def contentPieces (contents : List (ChatContent J)) : List (Piece J) := contents.flatMap (fun c => partPieces c.parts)

/-- What stands in the messages, in order. -/
inductive Item (J : Type*)
  | call (c : ToolCallRequest)
  | text (s : String)
  | result (name : String) (response : J)

def decodeImage (dataUrl : List Char) : Option InlineData := (decodeBase64FileData k dataUrl).toOption

def Item.pieces : Item J → List (Piece J)
  | .call c => [.call c.name (readArguments k c).toOption]
  | .text s => (splitText (decodeImage k) s.toList).map .fragment
  | .result name response => [.result name response]

def Message.isTurn (m : Message) : Bool := !m.isInstruction && !m.isResult

def calls (messages : List Message) : List ToolCallRequest :=
  messages.flatMap (fun m => if m.isTurn then m.toolCalls else [])

/-- The name of the last of the calls with that id. -/
def callName (before : List Message) (id : String) : String :=
  (((calls before).reverse.find? (fun call => call.id = id)).map (fun call => call.name)).getD ""

def Message.items (before : List Message) (m : Message) : List (Item J) :=
  if m.isTurn then m.toolCalls.map .call++m.parseContent.map .text
  else if m.isResult && !m.isInstruction then
    [.result (m.name.getD (callName before m.toolCallId)) (readResponse k m.stringContent)]
  else []

def items : List Message → List Message → List (Item J)
  | _,[] => []
  | before,m::ms => m.items k before++items (before++[m]) ms

def instructions (messages : List Message) : List String :=
  (messages.filter Message.isInstruction).map Message.stringContent

/-- Every call, every part of a text and every result is in the contents once and in order, a result under the name
of the call it answers, and the instructions are in the system instruction. -/
structure Conserves (messages : List Message) (out : ChatRequest J) : Prop where
  pieces : contentPieces out.contents = (items k [] messages).flatMap (Item.pieces k)
  instructions : out.systemInstructions.map (fun c => c.parts.map Part.text) =
    if instructions messages = [] then none else some [String.intercalate "\n" (instructions messages)]

/-! ## What is conserved -/

/-- What the conversion leaves of an item. -/
def Item.scanned : Item J → List (Piece J)
  | .call c => [.call c.name (readArguments k c).toOption]
  | .text s => (scanText (decodeImage k) s.toList).map .fragment
  | .result name response => [.result name response]

@[simp] lemma partPieces_append (ps qs : List (Part J)) : partPieces (ps++qs) = partPieces ps++partPieces qs :=
  List.flatMap_append

@[simp] lemma partPieces_cons (p : Part J) (ps : List (Part J)) :
    partPieces (p::ps) = p.pieces++partPieces ps := List.flatMap_cons

@[simp] lemma partPieces_nil : partPieces ([] : List (Part J)) = [] := rfl

@[simp] lemma contentPieces_append (cs ds : List (ChatContent J)) :
    contentPieces (cs++ds) = contentPieces cs++contentPieces ds := List.flatMap_append

@[simp] lemma contentPieces_singleton (c : ChatContent J) : contentPieces [c] = partPieces c.parts :=
  List.flatMap_singleton _ _

@[simp] lemma pieces_callPart (call : FunctionCall J) (sign : Bool) :
    (callPart call sign).pieces = [.call call.functionName (some call.arguments)] := rfl

@[simp] lemma pieces_imgPart (data : InlineData) (sign : Bool) :
    (imgPart data sign : Part J).pieces = [.fragment (.image (some data))] := rfl

@[simp] lemma pieces_responsePart (response : FunctionResponse J) :
    (responsePart response).pieces = [.result response.name response.response] := rfl

lemma partPieces_textBefore (text : List Char) :
    partPieces (if text = [] then [] else [(textPart text : Part J)]) = (fragment text).map .fragment := by
  by_cases h : text = []
  · rw [if_pos h,fragment,if_pos h]
    rfl
  · have hne : String.ofList text≠"" := by
      intro heq
      have := congrArg String.toList heq
      rw [String.toList_ofList] at this
      exact h this
    rw [if_neg h,fragment,if_neg h]
    simp [textPart,Part.pieces,hne]

lemma signFirst_pieces (ps : List (Part J)) : partPieces (signFirst ps) = partPieces ps := by
  induction ps with
  | nil => rfl
  | cons p ps ih =>
    rw [signFirst]
    split_ifs
    · rw [partPieces_cons,partPieces_cons,ih]
    · rfl

lemma callParts_pieces {sign attached attached' : Bool} {l : List ToolCallRequest} {parts : List (Part J)}
    (h : callParts k sign attached l = .ok (attached',parts)) :
    partPieces parts = (l.map Item.call).flatMap (Item.scanned k) := by
  induction l generalizing attached parts with
  | nil =>
    rw [callParts] at h
    cases h
    rfl
  | cons call l ih =>
    rw [callParts] at h
    cases ha : readArguments k call with
    | error e =>
      rw [ha] at h
      cases h
    | ok args =>
      rw [ha] at h
      simp only [bind,Except.bind] at h
      generalize hr : callParts k sign _ l = r at h
      cases r with
      | error e => cases h
      | ok r =>
        cases h
        rw [partPieces_cons,ih hr,pieces_callPart,List.map_cons,List.flatMap_cons,Item.scanned,ha]
        rfl

lemma imageParts_pieces {sign : Bool} {ms : List MarkdownImage} {parts : List (Part J)}
    (h : imageParts k sign ms = .ok parts) :
    partPieces parts = (ms.flatMap (MarkdownImage.fragments (decodeImage k))).map .fragment := by
  induction ms generalizing parts with
  | nil =>
    rw [imageParts] at h
    cases h
    rfl
  | cons m ms ih =>
    rw [imageParts] at h
    cases hd : decodeBase64FileData k m.dataUrl with
    | error e =>
      rw [hd] at h
      cases h
    | ok data =>
      rw [hd] at h
      simp only [bind,Except.bind] at h
      cases hr : imageParts k sign ms with
      | error e =>
        rw [hr] at h
        cases h
      | ok rest =>
        rw [hr] at h
        cases h
        have hdata : decodeImage k m.dataUrl = some data := by rw [decodeImage,hd]; rfl
        rw [partPieces_append,partPieces_textBefore,partPieces_cons,pieces_imgPart,ih hr,List.flatMap_cons,
          MarkdownImage.fragments,hdata,List.map_append,List.map_append,List.append_assoc]
        rfl

lemma textParts_pieces {sign : Bool} {text : String} {parts : List (Part J)}
    (h : textParts k sign text = .ok parts) : partPieces parts = Item.scanned k (.text text) := by
  unfold textParts at h
  split_ifs at h with ht
  · cases h
    rw [ht]
    rfl
  · simp only [bind,Except.bind] at h
    cases hr : imageParts k sign (chop cutImage? text.toList).1 with
    | error e =>
      rw [hr] at h
      cases h
    | ok images =>
      rw [hr] at h
      cases h
      have hne : text.toList≠[] := fun heq => ht (String.toList_inj.mp heq)
      rw [partPieces_append,imageParts_pieces k hr,Item.scanned,scanText,List.map_append]
      congr 1
      split_ifs
      · have := partPieces_textBefore (J := J) text.toList
        rwa [if_neg hne] at this
      · rfl

lemma contentParts_pieces {sign : Bool} {texts : List String} {parts : List (Part J)}
    (h : contentParts k sign texts = .ok parts) :
    partPieces parts = (texts.map Item.text).flatMap (Item.scanned k) := by
  induction texts generalizing parts with
  | nil =>
    rw [contentParts] at h
    cases h
    rfl
  | cons text texts ih =>
    rw [contentParts] at h
    cases ht : textParts k sign text with
    | error e =>
      rw [ht] at h
      cases h
    | ok first =>
      rw [ht] at h
      simp only [bind,Except.bind] at h
      cases hr : contentParts k sign texts with
      | error e =>
        rw [hr] at h
        cases h
      | ok rest =>
        rw [hr] at h
        cases h
        rw [partPieces_append,textParts_pieces k ht,ih hr,List.map_cons,List.flatMap_cons]

lemma respond_pieces (contents : List (ChatContent J)) (p : Part J) :
    contentPieces (respond contents p) = contentPieces contents++p.pieces := by
  unfold respond
  cases hlast : contents.getLast? with
  | none => simp
  | some last =>
    have hsplit := List.dropLast_append_getLast? last hlast
    simp only
    split_ifs
    · simp
    · nth_rewrite 2 [←hsplit]
      simp

lemma appendContent_pieces (contents : List (ChatContent J)) (content : ChatContent J) :
    contentPieces (appendContent contents content) = contentPieces contents++partPieces content.parts := by
  unfold appendContent
  split_ifs with h
  · rw [List.isEmpty_iff.mp h,partPieces_nil,List.append_nil]
  · rw [contentPieces_append,contentPieces_singleton]

/-! ## The names of the calls -/

lemma rememberCalls_eq (ids : String → Option String) (l : List ToolCallRequest) (id : String) :
    rememberCalls ids l id = ((l.reverse.find? (fun call => call.id = id)).map (fun call => call.name)).or (ids id) := by
  induction l using List.reverseRecOn with
  | nil => rfl
  | append_singleton l call ih =>
    unfold rememberCalls at ih ⊢
    rw [List.foldl_append,List.foldl_cons,List.foldl_nil,List.reverse_append,List.reverse_singleton,
      List.singleton_append]
    by_cases h : call.id = id
    · rw [List.find?_cons_of_pos (by simpa using h),←h,Function.update_self]
      rfl
    · rw [List.find?_cons_of_neg (by simpa using h),Function.update_of_ne (Ne.symm h),ih]

/-- The names are those of the calls in the messages so far. -/
def Known (ids : String → Option String) (before : List Message) : Prop :=
  ∀ id, ids id = ((calls before).reverse.find? (fun call => call.id = id)).map (fun call => call.name)

lemma known_nil : Known (fun _ => none) [] := fun _ => rfl

lemma calls_concat (before : List Message) (m : Message) :
    calls (before++[m]) = calls before++if m.isTurn then m.toolCalls else [] := by
  unfold calls
  rw [List.flatMap_append,List.flatMap_singleton]

lemma Known.turn {ids : String → Option String} {before : List Message} (h : Known ids before) {m : Message}
    (hm : m.isTurn = true) : Known (rememberCalls ids m.toolCalls) (before++[m]) := by
  intro id
  rw [rememberCalls_eq,h id,calls_concat,if_pos hm,List.reverse_append,List.find?_append]
  cases List.find? (fun call => decide (call.id = id)) m.toolCalls.reverse <;> rfl

lemma Known.other {ids : String → Option String} {before : List Message} (h : Known ids before) {m : Message}
    (hm : m.isTurn = false) : Known ids (before++[m]) := by
  intro id
  rw [h id,calls_concat,hm,if_neg (by decide),List.append_nil]

lemma Known.nameOf {ids : String → Option String} {before : List Message} (h : Known ids before) (m : Message) :
    nameOf ids m = m.name.getD (callName before m.toolCallId) := by
  unfold Gemini.nameOf callName
  cases m.name with
  | some name => rfl
  | none => rw [h]; rfl

/-! ## The run over the messages -/

lemma addTurn_pieces {attach : Bool} {s t : Converting J} {m : Message} (h : addTurn k attach s m = .ok t) :
    contentPieces t.contents = contentPieces s.contents++
      (m.toolCalls.map Item.call++m.parseContent.map Item.text).flatMap (Item.scanned k) ∧
    t.toolCallIds = rememberCalls s.toolCallIds m.toolCalls ∧ t.systemContent = s.systemContent := by
  unfold addTurn at h
  simp only [bind,Except.bind] at h
  generalize hc : callParts k _ false m.toolCalls = c at h
  cases c with
  | error e => cases h
  | ok c =>
    simp only at h
    generalize ht : contentParts k _ m.parseContent = texts at h
    cases texts with
    | error e => cases h
    | ok texts =>
      cases h
      refine ⟨?_,rfl,rfl⟩
      have hall : partPieces (c.2++texts) =
          (m.toolCalls.map Item.call++m.parseContent.map Item.text).flatMap (Item.scanned k) := by
        rw [partPieces_append,callParts_pieces k hc,contentParts_pieces k ht,List.flatMap_append]
      rw [←hall]
      simp only [appendContent_pieces]
      split_ifs
      · rw [signFirst_pieces]
      · rfl

lemma addMessage_pieces {attach : Bool} {s t : Converting J} {m : Message} {before : List Message}
    (hk : Known s.toolCallIds before) (h : addMessage k attach s m = .ok t) :
    contentPieces t.contents = contentPieces s.contents++(m.items k before).flatMap (Item.scanned k) ∧
    Known t.toolCallIds (before++[m]) ∧ t.systemContent = s.systemContent++instructions [m] := by
  unfold addMessage at h
  unfold Message.items instructions
  cases hi : m.isInstruction with
  | true =>
    have hturn : m.isTurn = false := by rw [Message.isTurn,hi]; rfl
    rw [hi,if_pos rfl] at h
    cases h
    refine ⟨?_,hk.other hturn,?_⟩
    · simp [hturn]
    · simp [hi]
  | false =>
    rw [hi,if_neg (by decide)] at h
    cases hr : m.isResult with
    | true =>
      have hturn : m.isTurn = false := by rw [Message.isTurn,hr,Bool.not_true,Bool.and_false]
      rw [hr,if_pos rfl] at h
      cases h
      refine ⟨?_,hk.other hturn,?_⟩
      · simp [hturn,respond_pieces,hk.nameOf m,Item.scanned]
      · simp [hi]
    | false =>
      have hturn : m.isTurn = true := by rw [Message.isTurn,hi,hr]; rfl
      rw [hr,if_neg (by decide)] at h
      obtain ⟨hp,hids,hsys⟩ := addTurn_pieces k h
      refine ⟨?_,?_,?_⟩
      · rw [hp,if_pos hturn]
      · rw [hids]
        exact hk.turn hturn
      · rw [hsys]
        simp [hi]

/-- What a run over the messages adds. -/
theorem addMessages_pieces {attach : Bool} {s t : Converting J} {before ms : List Message}
    (hk : Known s.toolCallIds before) (h : addMessages k attach s ms = .ok t) :
    contentPieces t.contents = contentPieces s.contents++(items k before ms).flatMap (Item.scanned k) ∧
    t.systemContent = s.systemContent++instructions ms := by
  induction ms generalizing s before with
  | nil =>
    rw [addMessages] at h
    cases h
    refine ⟨?_,?_⟩
    · rw [items,List.flatMap_nil,List.append_nil]
    · rw [instructions,List.filter_nil,List.map_nil,List.append_nil]
  | cons m ms ih =>
    rw [addMessages] at h
    simp only [bind,Except.bind] at h
    cases hm : addMessage k attach s m with
    | error e =>
      rw [hm] at h
      cases h
    | ok u =>
      rw [hm] at h
      obtain ⟨hp,hknown,hsys⟩ := addMessage_pieces k hk hm
      obtain ⟨hp',hsys'⟩ := ih hknown h
      refine ⟨?_,?_⟩
      · rw [hp',hp,items,List.flatMap_append,List.append_assoc]
      · rw [hsys',hsys,List.append_assoc]
        congr 1
        rw [instructions,instructions,instructions,←List.map_append,←List.filter_append,List.singleton_append]

/-! ## When the contents are conserved -/

lemma fragment_injective : Function.Injective (Piece.fragment (J := J)) := fun _ _ h => Piece.fragment.inj h

lemma strict_item (i : Item J) : Segments.Strict Piece.IsText (i.pieces k) (i.scanned k) := by
  cases i with
  | call c => exact .other _ (by simp [Piece.IsText])
  | text s => exact (scanText_strict (decodeImage k) s.toList).map (fun _ => Iff.rfl)
  | result name response => exact .other _ (by simp [Piece.IsText])

lemma item_cases (i : Item J) : i.pieces k = i.scanned k ∨ Segments.Clash (i.pieces k) (i.scanned k) ∨
    ∃ owed≠[], (∀ w∈owed, Piece.IsText w) ∧ i.pieces k = i.scanned k++owed := by
  cases i with
  | call c => exact .inl rfl
  | result name response => exact .inl rfl
  | text s =>
    obtain heq | hclash | ⟨owed,hne,htext,heq⟩ := splitText_cases (decodeImage k) s.toList
    · left
      rw [Item.pieces,Item.scanned,heq]
    · exact .inr (.inl (hclash.map fragment_injective))
    · refine .inr (.inr ⟨owed.map .fragment,by simpa using hne,?_,?_⟩)
      · intro w hw
        obtain ⟨f,hf,rfl⟩ := List.mem_map.mp hw
        exact htext f hf
      · rw [Item.pieces,Item.scanned,heq,List.map_append]

/-- An item that the conversion keeps: only a text can be one that it does not. -/
def Item.Kept : Item J → Prop
  | .call _ => True
  | .text s => Gemini.Kept s.toList
  | .result _ _ => True

lemma item_pieces_iff (i : Item J) : i.pieces k = i.scanned k ↔ i.Kept := by
  cases i with
  | call c => exact iff_of_true rfl trivial
  | result name response => exact iff_of_true rfl trivial
  | text s =>
    rw [Item.pieces,Item.scanned,List.map_inj_right (fun _ _ h => fragment_injective h)]
    exact splitText_eq_scanText_iff (decodeImage k) s.toList

lemma forall_items_iff (before messages : List Message) : (∀ i∈items k before messages, i.Kept) ↔
    ∀ m∈messages, m.isTurn = true → ∀ text∈m.parseContent, Kept text.toList := by
  induction messages generalizing before with
  | nil => simp [items]
  | cons m ms ih =>
    rw [items,List.forall_mem_append,ih,List.forall_mem_cons]
    refine and_congr ?_ Iff.rfl
    unfold Message.items
    cases hturn : m.isTurn with
    | true =>
      simp only [if_true,List.forall_mem_append,List.forall_mem_map]
      exact ⟨fun h _ => h.2,fun h => ⟨fun _ _ => trivial,h trivial⟩⟩
    | false =>
      simp only [Bool.false_eq_true,if_false,false_implies,iff_true]
      split_ifs
      · simp [Item.Kept]
      · simp

/-- An accepted request is conserved exactly if in every text of the user and of the model nothing follows the last
image and the alternative texts are balanced. -/
theorem contents_conserved_iff (attachThoughtSignature : Bool) (messages : List Message) {out : ChatRequest J}
    (h : covertOpenAI2Gemini k attachThoughtSignature messages = .ok out) :
    Conserves k messages out ↔
      ∀ m∈messages, m.isTurn = true → ∀ text∈m.parseContent, Kept text.toList := by
  unfold covertOpenAI2Gemini at h
  simp only [bind,Except.bind] at h
  generalize hs : addMessages k attachThoughtSignature ⟨[],fun _ => none,[]⟩ messages = r at h
  cases r with
  | error e => cases h
  | ok s =>
    cases h
    obtain ⟨hp,hsys⟩ := addMessages_pieces k known_nil hs
    rw [List.nil_append] at hsys
    rw [show contentPieces ([] : List (ChatContent J)) = [] from rfl,List.nil_append] at hp
    rw [←forall_items_iff k []]
    have hflat := Segments.flatMap_eq_iff_of_strict (l := items k [] messages) (fun i _ => strict_item k i)
      (fun i _ => item_cases k i)
    have hitems : (∀ i∈items k [] messages, i.pieces k = i.scanned k) ↔ ∀ i∈items k [] messages, i.Kept :=
      forall₂_congr (fun i _ => item_pieces_iff k i)
    rw [←hitems,←hflat]
    constructor
    · intro hcons
      rw [←hp]
      exact hcons.pieces.symm
    · intro heq
      refine ⟨hp.trans heq.symm,?_⟩
      show Option.map _ (if s.systemContent = [] then none else _) = _
      rw [hsys]
      split_ifs
      · rfl
      · rfl

end

/-! ## A text behind an image -/

/-- Readers that know one object. -/
def plainReaders : Readers String where
  object? s := if s = "\x7b\x7d" then some s else none
  array? _ := none
  emptyObject := "\x7b\x7d"
  hasFields _ := false
  result j := "\x7b\"result\":"++j++"\x7d"
  content s := "\x7b\"content\":\""++s++"\"\x7d"
  imageFormat _ := .error "image: unknown format"

def userMessage (content : MessageContent) : Message := ⟨"user",content,none,[],""⟩

/-- A picture, a call and its result. -/
def shownImage : List Message :=
  [⟨"system",.string "Be brief.",none,[],""⟩,userMessage (.string "Look: ![a[1]](data:image/png;base64,AAAA)"),
    ⟨"assistant",.null,none,[⟨"call_1","describe","\x7b\x7d"⟩],""⟩,⟨"tool",.string "a cat",none,[],"call_1"⟩]

theorem shownImage_conserved : ∃ out, covertOpenAI2Gemini plainReaders true shownImage = .ok out ∧
    Conserves plainReaders shownImage out :=
  ⟨_,rfl,(contents_conserved_iff plainReaders true shownImage rfl).mpr (by decide)⟩

/-- The question behind the picture does not reach the model. -/
def askedAboutImage : List Message :=
  [userMessage (.string "Look: ![a](data:image/png;base64,AAAA) What is this?")]

theorem askedAboutImage_loses_text : ∃ out, covertOpenAI2Gemini plainReaders true askedAboutImage = .ok out ∧
    ¬Conserves plainReaders askedAboutImage out := by
  refine ⟨_,rfl,fun h => ?_⟩
  exact absurd h.pieces (by decide)

end Gemini
end Convert
end Tierflow
