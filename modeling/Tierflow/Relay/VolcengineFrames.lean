import Tierflow.Foundation.Bytes
import Tierflow.Foundation.Text
import Tierflow.Foundation.Transaction

/-! The binary frames of the speech connection: what is written, what is read back, and when the two agree. The fields
of a frame stand in one order in the list of writers and in another in the list of readers. -/
namespace Tierflow
namespace Relay
namespace Volcengine
open Text Bytes

def msgTypeFlagPositiveSeq : UInt8 := 0b1
def msgTypeFlagNegativeSeq : UInt8 := 0b11
def msgTypeFlagWithEvent : UInt8 := 0b100
def version1 : UInt8 := 1
def headerSize4 : UInt8 := 1
def serializationJSON : UInt8 := 0b1
def compressionNone : UInt8 := 0

def msgTypeFullClientRequest : UInt8 := 0b1
def msgTypeAudioOnlyClient : UInt8 := 0b10
def msgTypeFullServerResponse : UInt8 := 0b1001
def msgTypeAudioOnlyServer : UInt8 := 0b1011
def msgTypeFrontEndResultServer : UInt8 := 0b1100
def msgTypeError : UInt8 := 0b1111

def eventStartConnection : Int32 := 1
def eventFinishConnection : Int32 := 2
def eventConnectionStarted : Int32 := 50
def eventConnectionFailed : Int32 := 51
def eventConnectionFinished : Int32 := 52

def maxUint32 : ℕ := 2^32-1

structure Message where
  version : UInt8
  headerSize : UInt8
  msgType : UInt8
  msgTypeFlag : UInt8
  serialization : UInt8
  compression : UInt8
  eventType : Int32
  sessionID : List UInt8
  connectID : List UInt8
  sequence : Int32
  errorCode : UInt32
  payload : List UInt8
deriving Repr, DecidableEq

def newMessage (msgType flag : UInt8) : Message where
  version := version1
  headerSize := headerSize4
  msgType := msgType
  msgTypeFlag := flag
  serialization := serializationJSON
  compression := compressionNone
  eventType := 0
  sessionID := []
  connectID := []
  sequence := 0
  errorCode := 0
  payload := []

abbrev Writer := Message → Except String (List UInt8)
abbrev Reader := Message → List UInt8 → Except String (Message×List UInt8)

/-- The types that may carry a sequence number. -/
def plainTypes : List UInt8 :=
  [msgTypeFullClientRequest,msgTypeFullServerResponse,msgTypeFrontEndResultServer,msgTypeAudioOnlyClient,
    msgTypeAudioOnlyServer]

def hasSequence (m : Message) : Bool :=
  m.msgTypeFlag = msgTypeFlagPositiveSeq || m.msgTypeFlag = msgTypeFlagNegativeSeq

def unsupported (m : Message) : String := "unsupported message type: " ++ printNat m.msgType.toNat

/-- The length of a field and the field, where the length fits in four bytes. -/
def writeField (what : String) (field : List UInt8) : Except String (List UInt8) :=
  if field.length>maxUint32 then .error (what ++ " size (" ++ printNat field.length ++ ") exceeds max(uint32)")
  else .ok (be32 (UInt32.ofNat field.length)++field)

def writeEvent : Writer := fun m => .ok (be32 m.eventType.toUInt32)

/-- The events whose frames have no session. -/
def writesNoSession : List Int32 :=
  [eventStartConnection,eventFinishConnection,eventConnectionStarted,eventConnectionFailed]

def writeSessionID : Writer := fun m =>
  if m.eventType∈writesNoSession then .ok [] else writeField "session ID" m.sessionID

def writeSequence : Writer := fun m => .ok (be32 m.sequence.toUInt32)

def writeErrorCode : Writer := fun m => .ok (be32 m.errorCode)

def writePayload : Writer := fun m => writeField "payload" m.payload

def writers (m : Message) : Except String (List Writer) := do
  let first : List Writer := if m.msgTypeFlag = msgTypeFlagWithEvent then [writeEvent,writeSessionID] else []
  let middle : List Writer ←
    if m.msgType∈plainTypes then .ok (if hasSequence m then [writeSequence] else [])
    else if m.msgType = msgTypeError then .ok [writeErrorCode]
    else .error (unsupported m)
  return first++middle++[writePayload]

def writeAll (m : Message) : List Writer → Except String (List UInt8)
  | [] => .ok []
  | write::rest => do
    let part ← write m
    let tail ← writeAll m rest
    return part++tail

def header (m : Message) : List UInt8 :=
  [pack m.version m.headerSize,pack m.msgType m.msgTypeFlag,pack m.serialization m.compression]++
    List.replicate (4*m.headerSize.toNat-3) 0

def marshal (m : Message) : Except String (List UInt8) := do
  let ws ← writers m
  let body ← writeAll m ws
  return header m++body

/-- The bytes a length promises, or those that are left; the old field where the length is zero. -/
def readField (old : List UInt8) (buf : List UInt8) : Except String (List UInt8×List UInt8) := do
  let (size,buf) ← read32 buf
  if size>0 then return (buf.take size.toNat,buf.drop size.toNat) else return (old,buf)

def readEvent : Reader := fun m buf => do
  let (x,buf) ← read32 buf
  return ({m with eventType := x.toInt32},buf)

def readsNoSession : List Int32 :=
  [eventStartConnection,eventFinishConnection,eventConnectionStarted,eventConnectionFailed,eventConnectionFinished]

def readSessionID : Reader := fun m buf =>
  if m.eventType∈readsNoSession then .ok (m,buf)
  else do
    let (field,buf) ← readField m.sessionID buf
    return ({m with sessionID := field},buf)

/-- The events whose frames are read with a connection. -/
def readsConnection : List Int32 := [eventConnectionStarted,eventConnectionFailed,eventConnectionFinished]

def readConnectID : Reader := fun m buf =>
  if m.eventType∈readsConnection then do
    let (field,buf) ← readField m.connectID buf
    return ({m with connectID := field},buf)
  else .ok (m,buf)

def readSequence : Reader := fun m buf => do
  let (x,buf) ← read32 buf
  return ({m with sequence := x.toInt32},buf)

def readErrorCode : Reader := fun m buf => do
  let (x,buf) ← read32 buf
  return ({m with errorCode := x},buf)

def readPayload : Reader := fun m buf => do
  let (field,buf) ← readField m.payload buf
  return ({m with payload := field},buf)

def readers (m : Message) : Except String (List Reader) := do
  let first : List Reader ←
    if m.msgType∈plainTypes then .ok (if hasSequence m then [readSequence] else [])
    else if m.msgType = msgTypeError then .ok [readErrorCode]
    else .error (unsupported m)
  let middle : List Reader :=
    if m.msgTypeFlag = msgTypeFlagWithEvent then [readEvent,readSessionID,readConnectID] else []
  return first++middle++[readPayload]

def readAll : List Reader → Reader
  | [] => fun m buf => .ok (m,buf)
  | read::rest => fun m buf => do
    let (m,buf) ← read m buf
    readAll rest m buf

def unmarshal (m : Message) : List UInt8 → Except String Message
  | first::_::third::buf => do
    let m := {m with
      version := highNibble first
      headerSize := lowNibble first
      serialization := third &&& 0b11110000
      compression := lowNibble third}
    let paddingSize := 4*m.headerSize.toNat-3
    if buf.length<paddingSize then
      .error ("insufficient header bytes: expected " ++ printNat paddingSize ++ ", got " ++ printNat buf.length)
    else
      let rs ← readers m
      let (m,buf) ← readAll rs m (buf.drop paddingSize)
      if buf.isEmpty then return m else .error "unexpected data after message: <nil>"
  | _ => .error "EOF"

def newMessageFromBytes (data : List UInt8) : Except String Message :=
  match data with
  | first::second::third::buf =>
    unmarshal (newMessage (highNibble second) (lowNibble second)) (first::second::third::buf)
  | _ => .error ("data too short: expected at least 3 bytes, got " ++ printNat data.length)

def Supported (m : Message) : Prop := m.msgType∈plainTypes∨m.msgType = msgTypeError

/-- A field behind its length. -/
def withLength (field : List UInt8) : List UInt8 := be32 (UInt32.ofNat field.length)++field

lemma toNat_length {field : List UInt8} (h : field.length ≤ maxUint32) :
    (UInt32.ofNat field.length).toNat = field.length := by
  rw [UInt32.toNat_ofNat']
  exact Nat.mod_eq_of_lt (by simp only [maxUint32] at h; omega)

lemma withLength_ne_nil (field : List UInt8) : withLength field≠[] := by
  simp [withLength,be32]

@[simp] lemma length_withLength (field : List UInt8) : (withLength field).length = 4+field.length := by
  simp [withLength]

lemma writeField_iff {what : String} {field bytes : List UInt8} :
    writeField what field = .ok bytes ↔ field.length ≤ maxUint32∧bytes = withLength field := by
  by_cases h : field.length ≤ maxUint32
  · rw [writeField,if_neg (not_lt.mpr h),Except.ok.injEq]
    exact ⟨fun hb => ⟨h,hb.symm⟩,fun hb => hb.2.symm⟩
  · rw [writeField,if_pos (not_le.mp h)]
    constructor
    · intro hb
      cases hb
    · intro hb
      exact absurd hb.1 h

lemma pos_iff {x : UInt32} : x>0 ↔ x.toNat≠0 := by
  rw [gt_iff_lt,UInt32.lt_iff_toNat_lt,UInt32.toNat_zero]
  omega

lemma readField_append (size : UInt32) (buf : List UInt8) :
    readField [] (be32 size++buf) = .ok (buf.take size.toNat,buf.drop size.toNat) := by
  have hr : readField [] (be32 size++buf) =
      if size>0 then .ok (buf.take size.toNat,buf.drop size.toNat) else .ok ([],buf) := by
    rw [readField,read32_append]
    rfl
  rw [hr]
  by_cases hp : size>0
  · rw [if_pos hp]
  · have hz : size.toNat = 0 := not_not.mp (fun hne => hp (pos_iff.mpr hne))
    rw [if_neg hp,hz,List.take_zero,List.drop_zero]

/-- A field is what its length says, or all that is left. -/
lemma readField_iff {buf field rest : List UInt8} :
    readField [] buf = .ok (field,rest) ↔
      ∃ size : UInt32, buf = be32 size++(field++rest)∧field.length ≤ size.toNat∧
        (field.length = size.toNat∨rest = []) := by
  constructor
  · intro h
    obtain ⟨⟨size,tail⟩,hs,-⟩ := bind_eq_ok.mp h
    rw [read32_iff] at hs
    rw [hs,readField_append,Except.ok.injEq,Prod.mk.injEq] at h
    refine ⟨size,?_⟩
    rw [hs,←h.1,←h.2,List.take_append_drop,List.length_take,List.drop_eq_nil_iff]
    exact ⟨rfl,by omega,by omega⟩
  · rintro ⟨size,hb,hle,hend⟩
    have htake : (field++rest).take size.toNat = field∧(field++rest).drop size.toNat = rest := by
      rcases hend with he | he
      · exact ⟨List.take_left' he,List.drop_left' he⟩
      · rw [he,List.append_nil]
        exact ⟨List.take_of_length_le hle,List.drop_eq_nil_iff.mpr hle⟩
    rw [hb,readField_append,htake.1,htake.2]

lemma readField_before {buf field rest : List UInt8} (h : rest≠[]) :
    readField [] buf = .ok (field,rest) ↔ field.length ≤ maxUint32∧buf = withLength field++rest := by
  rw [readField_iff]
  constructor
  · rintro ⟨size,hb,-,hend⟩
    have hl : field.length = size.toNat := hend.resolve_right h
    have hs : size.toNat<2^32 := size.toNat_lt
    refine ⟨by simp only [maxUint32]; omega,?_⟩
    rw [hb,withLength,hl,UInt32.ofNat_toNat,List.append_assoc]
  · rintro ⟨hm,hb⟩
    have hl := toNat_length hm
    exact ⟨UInt32.ofNat field.length,by rw [hb,withLength,List.append_assoc],hl.ge,.inl hl.symm⟩

lemma readField_last {buf field : List UInt8} :
    readField [] buf = .ok (field,[]) ↔ ∃ size : UInt32, buf = be32 size++field∧field.length ≤ size.toNat := by
  simp [readField_iff]

/-- What stands before the payload besides the event: the code of an error, or the number of a frame in a sequence. -/
def lead (m : Message) : List UInt8 :=
  if m.msgType = msgTypeError then be32 m.errorCode
  else if hasSequence m then be32 m.sequence.toUInt32 else []

def HasEvent (m : Message) : Prop := m.msgTypeFlag = msgTypeFlagWithEvent

instance (m : Message) : Decidable (HasEvent m) := inferInstanceAs (Decidable (_ = _))

def writtenEvent (m : Message) : List UInt8 :=
  if HasEvent m then
    be32 m.eventType.toUInt32++if m.eventType∈writesNoSession then [] else withLength m.sessionID
  else []

def readEvents (m : Message) : List UInt8 :=
  if HasEvent m then
    be32 m.eventType.toUInt32++((if m.eventType∈readsNoSession then [] else withLength m.sessionID)++
      if m.eventType∈readsConnection then withLength m.connectID else [])
  else []

/-- The lengths of the written fields fit. -/
structure Writable (m : Message) : Prop where
  supported : Supported m
  payload : m.payload.length ≤ maxUint32
  session : HasEvent m → m.eventType∉writesNoSession → m.sessionID.length ≤ maxUint32

lemma not_plain_error : msgTypeError∉plainTypes := by decide

lemma writeAll_nil_iff {m : Message} {bytes : List UInt8} : writeAll m [] = .ok bytes ↔ bytes = [] := by
  rw [writeAll,Except.ok.injEq]
  exact eq_comm

lemma writeAll_cons_iff {m : Message} {write : Writer} {rest : List Writer} {bytes : List UInt8} :
    writeAll m (write::rest) = .ok bytes ↔
      ∃ part tail, write m = .ok part∧writeAll m rest = .ok tail∧bytes = part++tail := by
  simp only [writeAll,bind_eq_ok,pure,Except.pure,Except.ok.injEq]
  constructor
  · rintro ⟨part,hp,tail,ht,hb⟩
    exact ⟨part,tail,hp,ht,hb.symm⟩
  · rintro ⟨part,tail,hp,ht,hb⟩
    exact ⟨part,hp,tail,ht,hb.symm⟩

lemma writeAll_append_iff {m : Message} {xs ys : List Writer} {bytes : List UInt8} :
    writeAll m (xs++ys) = .ok bytes ↔
      ∃ front back, writeAll m xs = .ok front∧writeAll m ys = .ok back∧bytes = front++back := by
  induction xs generalizing bytes with
  | nil => simp [writeAll]
  | cons w xs ih =>
    simp only [List.cons_append,writeAll_cons_iff,ih]
    constructor
    · rintro ⟨part,_,hp,⟨front,back,hf,hk,rfl⟩,hb⟩
      exact ⟨part++front,back,⟨part,front,hp,hf,rfl⟩,hk,by rw [hb,List.append_assoc]⟩
    · rintro ⟨_,back,⟨part,front,hp,hf,rfl⟩,hk,hb⟩
      exact ⟨part,front++back,hp,⟨front,back,hf,hk,rfl⟩,by rw [hb,List.append_assoc]⟩

/-- The middle writers write what stands before the payload. -/
def leadWriters (m : Message) : List Writer :=
  if m.msgType = msgTypeError then [writeErrorCode] else if hasSequence m then [writeSequence] else []

def eventWriters (m : Message) : List Writer := if HasEvent m then [writeEvent,writeSessionID] else []

lemma writers_iff {m : Message} {ws : List Writer} :
    writers m = .ok ws ↔ Supported m∧ws = eventWriters m++(leadWriters m++[writePayload]) := by
  by_cases he : m.msgType = msgTypeError
  · have hs : Supported m := .inr he
    simp only [writers,he,not_plain_error,if_true,if_false,bind,Except.bind,pure,Except.pure,Except.ok.injEq,hs,true_and,
      leadWriters,eventWriters,HasEvent,List.append_assoc]
    exact eq_comm
  · by_cases hp : m.msgType∈plainTypes
    · have hs : Supported m := .inl hp
      simp only [writers,hp,he,if_true,if_false,bind,Except.bind,pure,Except.pure,Except.ok.injEq,hs,true_and,
        leadWriters,eventWriters,HasEvent,List.append_assoc]
      exact eq_comm
    · have hs : ¬Supported m := fun h => h.elim hp he
      simp only [writers,hp,he,if_false,bind,Except.bind,hs,false_and,reduceCtorEq]

lemma writeAll_lead_iff {m : Message} {bytes : List UInt8} :
    writeAll m (leadWriters m) = .ok bytes ↔ bytes = lead m := by
  unfold leadWriters lead
  split_ifs <;> simp [writeAll,writeErrorCode,writeSequence,bind,Except.bind,pure,Except.pure,eq_comm]

lemma writeAll_event_iff {m : Message} {bytes : List UInt8} :
    writeAll m (eventWriters m) = .ok bytes ↔
      (HasEvent m → m.eventType∉writesNoSession → m.sessionID.length ≤ maxUint32)∧bytes = writtenEvent m := by
  unfold eventWriters writtenEvent
  by_cases hf : HasEvent m
  · by_cases hn : m.eventType∈writesNoSession
    · simp [hf,hn,writeAll,writeEvent,writeSessionID,bind,Except.bind,pure,Except.pure,eq_comm]
    · simp only [hf,hn,if_true,if_false,writeAll_cons_iff,writeEvent,writeSessionID,writeField_iff,
        writeAll_nil_iff,Except.ok.injEq]
      constructor
      · rintro ⟨_,_,rfl,⟨_,_,⟨hm,rfl⟩,rfl,rfl⟩,hb⟩
        exact ⟨fun _ _ => hm,by rw [hb,List.append_nil]⟩
      · rintro ⟨hm,hb⟩
        exact ⟨_,_,rfl,⟨_,_,⟨hm trivial not_false,rfl⟩,rfl,rfl⟩,by rw [hb,List.append_nil]⟩
  · simp [hf,writeAll,eq_comm]

lemma marshal_iff {m : Message} {data : List UInt8} :
    marshal m = .ok data ↔
      Writable m∧data = header m++(writtenEvent m++(lead m++withLength m.payload)) := by
  have hbody : ∀ body, writeAll m (eventWriters m++(leadWriters m++[writePayload])) = .ok body ↔
      (HasEvent m → m.eventType∉writesNoSession → m.sessionID.length ≤ maxUint32)∧
        m.payload.length ≤ maxUint32∧body = writtenEvent m++(lead m++withLength m.payload) := by
    intro body
    simp only [writeAll_append_iff,writeAll_event_iff,writeAll_lead_iff,writeAll_cons_iff,writePayload,
      writeField_iff,writeAll_nil_iff]
    constructor
    · rintro ⟨_,_,⟨hs,rfl⟩,⟨_,_,rfl,⟨_,_,⟨hp,rfl⟩,rfl,rfl⟩,rfl⟩,hb⟩
      exact ⟨hs,hp,by rw [hb,List.append_nil]⟩
    · rintro ⟨hs,hp,hb⟩
      exact ⟨_,_,⟨hs,rfl⟩,⟨_,_,rfl,⟨_,_,⟨hp,rfl⟩,rfl,rfl⟩,rfl⟩,by rw [hb,List.append_nil]⟩
  simp only [marshal,bind_eq_ok,writers_iff,pure,Except.pure,Except.ok.injEq]
  constructor
  · rintro ⟨_,⟨hs,rfl⟩,body,hb,hd⟩
    obtain ⟨hse,hp,rfl⟩ := (hbody body).mp hb
    exact ⟨⟨hs,hp,hse⟩,hd.symm⟩
  · rintro ⟨hw,hd⟩
    exact ⟨_,⟨hw.supported,rfl⟩,_,(hbody _).mpr ⟨hw.session,hw.payload,rfl⟩,hd.symm⟩

/-- The header of a message, before anything behind it is read. -/
def Message.bare (m : Message) : Message :=
  {m with eventType := 0,sessionID := [],connectID := [],sequence := 0,errorCode := 0,payload := []}

/-- The session, the connection and the number in a sequence, where they are read. -/
def HasSession (m : Message) : Prop := HasEvent m∧m.eventType∉readsNoSession

def HasConnection (m : Message) : Prop := HasEvent m∧m.eventType∈readsConnection

def Sequenced (m : Message) : Prop := m.msgType≠msgTypeError∧hasSequence m

instance (m : Message) : Decidable (HasSession m) := inferInstanceAs (Decidable (_∧_))

instance (m : Message) : Decidable (HasConnection m) := inferInstanceAs (Decidable (_∧_))

instance (m : Message) : Decidable (Sequenced m) := inferInstanceAs (Decidable (_∧_))

/-- What the readers of the event leave: lengths that fit, and nothing in a field that is not read. -/
structure EventRead (m : Message) : Prop where
  event : ¬HasEvent m → m.eventType = 0
  session : if HasSession m then m.sessionID.length ≤ maxUint32 else m.sessionID = []
  connection : if HasConnection m then m.connectID.length ≤ maxUint32 else m.connectID = []

structure LeadRead (m : Message) : Prop where
  errorCode : m.msgType≠msgTypeError → m.errorCode = 0
  sequence : ¬Sequenced m → m.sequence = 0

def leadReaders (m : Message) : List Reader :=
  if m.msgType = msgTypeError then [readErrorCode] else if hasSequence m then [readSequence] else []

def eventReaders (m : Message) : List Reader :=
  if HasEvent m then [readEvent,readSessionID,readConnectID] else []

lemma readers_iff {m : Message} {rs : List Reader} :
    readers m = .ok rs ↔ Supported m∧rs = leadReaders m++(eventReaders m++[readPayload]) := by
  by_cases he : m.msgType = msgTypeError
  · have hs : Supported m := .inr he
    simp only [readers,he,not_plain_error,if_true,if_false,bind,Except.bind,pure,Except.pure,Except.ok.injEq,hs,
      true_and,leadReaders,eventReaders,HasEvent,List.append_assoc]
    exact eq_comm
  · by_cases hp : m.msgType∈plainTypes
    · have hs : Supported m := .inl hp
      simp only [readers,hp,he,if_true,if_false,bind,Except.bind,pure,Except.pure,Except.ok.injEq,hs,true_and,
        leadReaders,eventReaders,HasEvent,List.append_assoc]
      exact eq_comm
    · have hs : ¬Supported m := fun h => h.elim hp he
      simp only [readers,hp,he,if_false,bind,Except.bind,hs,false_and,reduceCtorEq]

section Reading
variable {m next : Message} {buf rest : List UInt8}

lemma readAll_nil_iff : readAll [] m buf = .ok (next,rest) ↔ next = m∧rest = buf := by
  rw [readAll,Except.ok.injEq,Prod.mk.injEq]
  exact and_congr eq_comm eq_comm

lemma readAll_cons_iff {read : Reader} {rs : List Reader} :
    readAll (read::rs) m buf = .ok (next,rest) ↔
      ∃ mid tail, read m buf = .ok (mid,tail)∧readAll rs mid tail = .ok (next,rest) := by
  simp only [readAll,bind_eq_ok,Prod.exists]

lemma readAll_append_iff {xs ys : List Reader} :
    readAll (xs++ys) m buf = .ok (next,rest) ↔
      ∃ mid tail, readAll xs m buf = .ok (mid,tail)∧readAll ys mid tail = .ok (next,rest) := by
  induction xs generalizing m buf with
  | nil =>
    simp only [List.nil_append,readAll_nil_iff]
    constructor
    · intro h
      exact ⟨m,buf,⟨rfl,rfl⟩,h⟩
    · rintro ⟨_,_,⟨rfl,rfl⟩,h⟩
      exact h
  | cons r xs ih =>
    simp only [List.cons_append,readAll_cons_iff,ih]
    constructor
    · rintro ⟨m1,b1,h1,m2,b2,h2,h3⟩
      exact ⟨m2,b2,⟨m1,b1,h1,h2⟩,h3⟩
    · rintro ⟨m2,b2,⟨m1,b1,h1,h2⟩,h3⟩
      exact ⟨m1,b1,h1,m2,b2,h2,h3⟩

lemma readEvent_iff :
    readEvent m buf = .ok (next,rest) ↔
      next = {m with eventType := next.eventType}∧buf = be32 next.eventType.toUInt32++rest := by
  simp only [readEvent,bind_eq_ok,Prod.exists,read32_iff,pure,Except.pure,Except.ok.injEq,Prod.mk.injEq]
  constructor
  · rintro ⟨x,tail,hb,hn,rfl⟩
    rw [←hn]
    exact ⟨rfl,by simpa using hb⟩
  · rintro ⟨hn,hb⟩
    exact ⟨_,rest,hb,by rw [Int32.toInt32_toUInt32]; exact hn.symm,rfl⟩

lemma readSequence_iff :
    readSequence m buf = .ok (next,rest) ↔
      next = {m with sequence := next.sequence}∧buf = be32 next.sequence.toUInt32++rest := by
  simp only [readSequence,bind_eq_ok,Prod.exists,read32_iff,pure,Except.pure,Except.ok.injEq,Prod.mk.injEq]
  constructor
  · rintro ⟨x,tail,hb,hn,rfl⟩
    rw [←hn]
    exact ⟨rfl,by simpa using hb⟩
  · rintro ⟨hn,hb⟩
    exact ⟨_,rest,hb,by rw [Int32.toInt32_toUInt32]; exact hn.symm,rfl⟩

lemma readErrorCode_iff :
    readErrorCode m buf = .ok (next,rest) ↔
      next = {m with errorCode := next.errorCode}∧buf = be32 next.errorCode++rest := by
  simp only [readErrorCode,bind_eq_ok,Prod.exists,read32_iff,pure,Except.pure,Except.ok.injEq,Prod.mk.injEq]
  constructor
  · rintro ⟨x,tail,hb,hn,rfl⟩
    rw [←hn]
    exact ⟨rfl,hb⟩
  · rintro ⟨hn,hb⟩
    exact ⟨_,rest,hb,hn.symm,rfl⟩

lemma readSessionID_iff (h0 : m.sessionID = []) (hr : rest≠[]) :
    readSessionID m buf = .ok (next,rest) ↔
      next = {m with sessionID := next.sessionID}∧
        (if m.eventType∈readsNoSession then next.sessionID = [] else next.sessionID.length ≤ maxUint32)∧
        buf = (if m.eventType∈readsNoSession then [] else withLength next.sessionID)++rest := by
  rw [readSessionID,h0]
  split_ifs with he
  · rw [Except.ok.injEq,Prod.mk.injEq]
    constructor
    · rintro ⟨rfl,rfl⟩
      exact ⟨rfl,h0,rfl⟩
    · rintro ⟨hn,hs,hb⟩
      rw [hs,←h0] at hn
      exact ⟨hn.symm,hb⟩
  · simp only [bind_eq_ok,Prod.exists,pure,Except.pure,Except.ok.injEq,Prod.mk.injEq]
    constructor
    · rintro ⟨field,tail,hf,hn,rfl⟩
      rw [readField_before hr] at hf
      rw [←hn]
      exact ⟨rfl,hf⟩
    · rintro ⟨hn,hs⟩
      exact ⟨_,rest,(readField_before hr).mpr hs,hn.symm,rfl⟩

lemma readSessionID_frame (h : readSessionID m buf = .ok (next,rest)) :
    next = {m with sessionID := next.sessionID} := by
  rw [readSessionID] at h
  split_ifs at h with he
  · rw [Except.ok.injEq,Prod.mk.injEq] at h
    rw [←h.1]
  · simp only [bind_eq_ok,Prod.exists,pure,Except.pure,Except.ok.injEq,Prod.mk.injEq] at h
    obtain ⟨field,tail,-,hn,-⟩ := h
    rw [←hn]

lemma readConnectID_iff (h0 : m.connectID = []) (hr : rest≠[]) :
    readConnectID m buf = .ok (next,rest) ↔
      next = {m with connectID := next.connectID}∧
        (if m.eventType∈readsConnection then next.connectID.length ≤ maxUint32 else next.connectID = [])∧
        buf = (if m.eventType∈readsConnection then withLength next.connectID else [])++rest := by
  rw [readConnectID,h0]
  split_ifs with he
  · simp only [bind_eq_ok,Prod.exists,pure,Except.pure,Except.ok.injEq,Prod.mk.injEq]
    constructor
    · rintro ⟨field,tail,hf,hn,rfl⟩
      rw [readField_before hr] at hf
      rw [←hn]
      exact ⟨rfl,hf⟩
    · rintro ⟨hn,hs⟩
      exact ⟨_,rest,(readField_before hr).mpr hs,hn.symm,rfl⟩
  · rw [Except.ok.injEq,Prod.mk.injEq]
    constructor
    · rintro ⟨rfl,rfl⟩
      exact ⟨rfl,h0,rfl⟩
    · rintro ⟨hn,hs,hb⟩
      rw [hs,←h0] at hn
      exact ⟨hn.symm,hb⟩

lemma readPayload_iff (h0 : m.payload = []) :
    readPayload m buf = .ok (next,[]) ↔
      next = {m with payload := next.payload}∧
        ∃ size : UInt32, buf = be32 size++next.payload∧next.payload.length ≤ size.toNat := by
  simp only [readPayload,h0,bind_eq_ok,Prod.exists,pure,Except.pure,Except.ok.injEq,Prod.mk.injEq]
  constructor
  · rintro ⟨field,tail,hf,hn,rfl⟩
    rw [readField_last] at hf
    rw [←hn]
    exact ⟨rfl,hf⟩
  · rintro ⟨hn,hs⟩
    exact ⟨_,[],readField_last.mpr hs,hn.symm,rfl⟩

lemma readLead_iff (hc : m.errorCode = 0) (hs : m.sequence = 0) :
    readAll (leadReaders m) m buf = .ok (next,rest) ↔
      next = {m with sequence := next.sequence,errorCode := next.errorCode}∧LeadRead next∧buf = lead next++rest := by
  by_cases he : m.msgType = msgTypeError
  · rw [leadReaders,if_pos he]
    simp only [readAll_cons_iff,readErrorCode_iff,readAll_nil_iff]
    constructor
    · rintro ⟨_,_,⟨hn,hb⟩,rfl,rfl⟩
      have ht : next.msgType = msgTypeError := by rw [hn]; exact he
      have hz : next.sequence = 0 := by rw [hn]; exact hs
      refine ⟨?_,⟨fun h => absurd ht h,fun _ => hz⟩,?_⟩
      · rw [hz,←hs]
        exact hn
      · rw [lead,if_pos ht]
        exact hb
    · rintro ⟨hn,hl,hb⟩
      have ht : next.msgType = msgTypeError := by rw [hn]; exact he
      rw [hl.sequence (fun h => h.1 ht),←hs] at hn
      rw [lead,if_pos ht] at hb
      exact ⟨next,rest,⟨hn,hb⟩,rfl,rfl⟩
  · by_cases hq : hasSequence m
    · rw [leadReaders,if_neg he,if_pos hq]
      simp only [readAll_cons_iff,readSequence_iff,readAll_nil_iff]
      constructor
      · rintro ⟨_,_,⟨hn,hb⟩,rfl,rfl⟩
        have ht : next.msgType≠msgTypeError := by rw [hn]; exact he
        have hf : hasSequence next := by rw [hn]; exact hq
        have hz : next.errorCode = 0 := by rw [hn]; exact hc
        refine ⟨?_,⟨fun _ => hz,fun h => absurd ⟨ht,hf⟩ h⟩,?_⟩
        · rw [hz,←hc]
          exact hn
        · rw [lead,if_neg ht,if_pos hf]
          exact hb
      · rintro ⟨hn,hl,hb⟩
        have ht : next.msgType≠msgTypeError := by rw [hn]; exact he
        have hf : hasSequence next := by rw [hn]; exact hq
        rw [hl.errorCode ht,←hc] at hn
        rw [lead,if_neg ht,if_pos hf] at hb
        exact ⟨next,rest,⟨hn,hb⟩,rfl,rfl⟩
    · rw [leadReaders,if_neg he,if_neg hq,readAll_nil_iff]
      constructor
      · rintro ⟨rfl,rfl⟩
        refine ⟨rfl,⟨fun _ => hc,fun _ => hs⟩,?_⟩
        rw [lead,if_neg he,if_neg hq,List.nil_append]
      · rintro ⟨hn,hl,hb⟩
        have ht : next.msgType≠msgTypeError := by rw [hn]; exact he
        have hf : ¬hasSequence next := by rw [hn]; exact hq
        rw [hl.errorCode ht,hl.sequence (fun h => hf h.2)] at hn
        rw [lead,if_neg ht,if_neg hf,List.nil_append] at hb
        exact ⟨by rw [hn,←hc,←hs],hb.symm⟩

lemma readEvents_iff (he : m.eventType = 0) (hs : m.sessionID = []) (hc : m.connectID = []) (hr : rest≠[]) :
    readAll (eventReaders m) m buf = .ok (next,rest) ↔
      next = {m with eventType := next.eventType,sessionID := next.sessionID,connectID := next.connectID}∧
        EventRead next∧buf = readEvents next++rest := by
  by_cases hf : HasEvent m
  · rw [eventReaders,if_pos hf]
    simp only [readAll_cons_iff,readAll_nil_iff,readEvent_iff]
    constructor
    · rintro ⟨m1,b1,⟨hn1,hb1⟩,m2,b2,h2,_,_,h3,rfl,rfl⟩
      have hc1 : m1.connectID = [] := by rw [hn1]; exact hc
      have hs1 : m1.sessionID = [] := by rw [hn1]; exact hs
      have hc2 : m2.connectID = [] := by rw [readSessionID_frame h2]; exact hc1
      obtain ⟨hn3,hl3,hb3⟩ := (readConnectID_iff hc2 hr).mp h3
      have hb2 : b2≠[] := by
        rw [hb3]
        simp [hr]
      obtain ⟨hn2,hl2,hbs⟩ := (readSessionID_iff hs1 hb2).mp h2
      have hs3 : next.sessionID = m2.sessionID := by rw [hn3]
      have he2 : m2.eventType = m1.eventType := by rw [hn2]
      have he3 : next.eventType = m1.eventType := by rw [hn3]; exact he2
      have hf3 : HasEvent next := by
        rw [hn3,hn2,hn1]
        exact hf
      have hn : next = {m with
          eventType := next.eventType,sessionID := next.sessionID,connectID := next.connectID} := by
        rw [he3,hs3,hn3,hn2,hn1]
      refine ⟨hn,⟨fun h => absurd hf3 h,?_,?_⟩,?_⟩
      · simp only [HasSession,hf3,true_and,ite_not,he3,hs3]
        exact hl2
      · simp only [HasConnection,hf3,true_and,he3]
        rw [he2] at hl3
        exact hl3
      · rw [readEvents,if_pos hf3,he3,hs3,hb1,hbs,hb3,he2]
        simp only [List.append_assoc]
    · rintro ⟨hn,hl,hb⟩
      have hf3 : HasEvent next := by
        rw [hn]
        exact hf
      have hl2 := hl.session
      have hl3 := hl.connection
      simp only [HasSession,HasConnection,hf3,true_and,ite_not] at hl2 hl3
      rw [readEvents,if_pos hf3] at hb
      simp only [List.append_assoc] at hb
      let m1 : Message := {m with eventType := next.eventType}
      let m2 : Message := {m1 with sessionID := next.sessionID}
      let b2 := (if next.eventType∈readsConnection then withLength next.connectID else [])++rest
      have hb2 : b2≠[] := fun h => hr (List.append_eq_nil_iff.mp h).2
      have hs1 : m1.sessionID = [] := hs
      have hc2 : m2.connectID = [] := hc
      have h2 : readSessionID m1 _ = .ok (m2,_) := (readSessionID_iff hs1 hb2).mpr ⟨rfl,hl2,rfl⟩
      have h3 : readConnectID m2 _ = .ok (next,_) := (readConnectID_iff hc2 hr).mpr ⟨hn,hl3,rfl⟩
      exact ⟨m1,_,⟨rfl,hb⟩,m2,b2,h2,next,rest,h3,rfl,rfl⟩
  · rw [eventReaders,if_neg hf,readAll_nil_iff]
    constructor
    · rintro ⟨rfl,rfl⟩
      refine ⟨rfl,⟨fun _ => he,?_,?_⟩,?_⟩
      · rw [if_neg (fun h => hf h.1)]
        exact hs
      · rw [if_neg (fun h => hf h.1)]
        exact hc
      · rw [readEvents,if_neg hf,List.nil_append]
    · rintro ⟨hn,hl,hb⟩
      have hf' : ¬HasEvent next := by rw [hn]; exact hf
      have h1 := hl.event hf'
      have h2 := hl.session
      have h3 := hl.connection
      rw [if_neg (fun h => hf' h.1)] at h2 h3
      rw [h1.trans he.symm,h2.trans hs.symm,h3.trans hc.symm] at hn
      rw [readEvents,if_neg hf',List.nil_append] at hb
      exact ⟨hn,hb.symm⟩

lemma readPayload_ne_nil (h : readPayload m buf = .ok (next,rest)) : buf≠[] := by
  obtain ⟨_,hf,-⟩ := bind_eq_ok.mp h
  obtain ⟨⟨size,tail⟩,hs,-⟩ := bind_eq_ok.mp hf
  rw [read32_iff] at hs
  rw [hs]
  simp [be32]

/-- What the readers take apart, field by field. -/
lemma readers_read_iff (hm : m.bare = m) :
    readAll (leadReaders m++(eventReaders m++[readPayload])) m buf = .ok (next,[]) ↔
      next.bare = m∧LeadRead next∧EventRead next∧
        ∃ size : UInt32, buf = lead next++(readEvents next++(be32 size++next.payload))∧
          next.payload.length ≤ size.toNat := by
  have he : m.eventType = 0 := (congrArg Message.eventType hm).symm
  have hs : m.sessionID = [] := (congrArg Message.sessionID hm).symm
  have hc : m.connectID = [] := (congrArg Message.connectID hm).symm
  have hq : m.sequence = 0 := (congrArg Message.sequence hm).symm
  have hx : m.errorCode = 0 := (congrArg Message.errorCode hm).symm
  have hp : m.payload = [] := (congrArg Message.payload hm).symm
  simp only [readAll_append_iff,readAll_cons_iff,readAll_nil_iff]
  constructor
  · rintro ⟨m1,b1,h1,m2,b2,h2,_,_,h3,rfl,rfl⟩
    have hb2 := readPayload_ne_nil h3
    obtain ⟨hn1,hl1,rfl⟩ := (readLead_iff hx hq).mp h1
    have hev : eventReaders m = eventReaders m1 := by
      rw [hn1]
      rfl
    rw [hev] at h2
    obtain ⟨hn2,hl2,rfl⟩ := (readEvents_iff (by rw [hn1]; exact he) (by rw [hn1]; exact hs)
      (by rw [hn1]; exact hc) hb2).mp h2
    obtain ⟨hn3,size,rfl,hle⟩ := (readPayload_iff (by rw [hn2,hn1]; exact hp)).mp h3
    have hlead : lead next = lead m1 := by
      rw [hn3,hn2]
      rfl
    have hevents : readEvents next = readEvents m2 := by
      rw [hn3]
      rfl
    refine ⟨?_,?_,?_,size,by rw [hlead,hevents],hle⟩
    · rw [hn3,hn2,hn1]
      exact hm
    · rw [hn3,hn2]
      exact ⟨hl1.errorCode,hl1.sequence⟩
    · rw [hn3]
      exact ⟨hl2.event,hl2.session,hl2.connection⟩
  · rintro ⟨rfl,hl,hv,size,hb,hle⟩
    let m1 : Message := {next.bare with sequence := next.sequence,errorCode := next.errorCode}
    let m2 : Message :=
      {m1 with eventType := next.eventType,sessionID := next.sessionID,connectID := next.connectID}
    have hne : be32 size++next.payload≠[] := by simp [be32]
    have h1 : readAll (leadReaders next.bare) next.bare buf =
        .ok (m1,readEvents next++(be32 size++next.payload)) :=
      (readLead_iff hx hq).mpr ⟨rfl,⟨hl.errorCode,hl.sequence⟩,hb⟩
    have h2 : readAll (eventReaders m1) m1 (readEvents next++(be32 size++next.payload)) =
        .ok (m2,be32 size++next.payload) :=
      (readEvents_iff rfl rfl rfl hne).mpr ⟨rfl,⟨hv.event,hv.session,hv.connection⟩,rfl⟩
    have h3 : readPayload m2 (be32 size++next.payload) = .ok (next,[]) :=
      (readPayload_iff rfl).mpr ⟨rfl,size,rfl,hle⟩
    exact ⟨m1,_,h1,m2,_,h2,next,[],h3,rfl,rfl⟩

end Reading

/-- How the bytes of a frame lie, as the readers take them: `third` is the third byte, `pad` the rest of the header and
`size` the length in front of the payload. -/
structure Layout (data : List UInt8) (m : Message) (third : UInt8) (pad : List UInt8) (size : UInt32) : Prop where
  bytes : data = pack m.version m.headerSize::pack m.msgType m.msgTypeFlag::third::
    (pad++(lead m++(readEvents m++(be32 size++m.payload))))
  nibbles : (m.version.toNat<16∧m.headerSize.toNat<16)∧m.msgType.toNat<16∧m.msgTypeFlag.toNat<16
  third : m.serialization = third &&& 0b11110000∧m.compression = lowNibble third
  pad : pad.length = 4*m.headerSize.toNat-3
  supported : Supported m
  leadRead : LeadRead m
  eventRead : EventRead m
  size : m.payload.length ≤ size.toNat

/-- The message with the header of a frame. -/
def start (first second third : UInt8) : Message :=
  {newMessage (highNibble second) (lowNibble second) with
    version := highNibble first
    headerSize := lowNibble first
    serialization := third &&& 0b11110000
    compression := lowNibble third}

lemma newMessageFromBytes_cons {first second third : UInt8} {buf : List UInt8} {m : Message} :
    newMessageFromBytes (first::second::third::buf) = .ok m ↔
      4*(lowNibble first).toNat-3 ≤ buf.length∧Supported (start first second third)∧
        readAll (leadReaders (start first second third)++(eventReaders (start first second third)++[readPayload]))
          (start first second third) (buf.drop (4*(lowNibble first).toNat-3)) = .ok (m,[]) := by
  have hun : newMessageFromBytes (first::second::third::buf) =
      if buf.length<4*(lowNibble first).toNat-3 then
        .error ("insufficient header bytes: expected " ++ printNat (4*(lowNibble first).toNat-3) ++ ", got " ++
          printNat buf.length)
      else (do
        let rs ← readers (start first second third)
        let (m,buf) ← readAll rs (start first second third) (buf.drop (4*(lowNibble first).toNat-3))
        if buf.isEmpty then return m else .error "unexpected data after message: <nil>") := rfl
  rw [hun]
  by_cases hlen : buf.length<4*(lowNibble first).toNat-3
  · rw [if_pos hlen]
    constructor
    · intro h
      cases h
    · intro h
      exact absurd hlen (not_lt.mpr h.1)
  · rw [if_neg hlen]
    simp only [bind_eq_ok,readers_iff,Prod.exists,List.isEmpty_iff,pure,Except.pure]
    constructor
    · rintro ⟨_,⟨hs,rfl⟩,next,rest,hr,hend⟩
      split_ifs at hend with he
      · rw [Except.ok.injEq] at hend
        rw [he,hend] at hr
        exact ⟨not_lt.mp hlen,hs,hr⟩
    · rintro ⟨-,hs,hr⟩
      exact ⟨_,⟨hs,rfl⟩,m,[],hr,if_pos rfl⟩

/-- What is read from bytes is a message whose frame they are, in the order of the readers. -/
theorem newMessageFromBytes_iff {data : List UInt8} {m : Message} :
    newMessageFromBytes data = .ok m ↔ ∃ third pad size, Layout data m third pad size := by
  constructor
  · intro h
    match data,h with
    | first::second::third::buf,h =>
      obtain ⟨hlen,hs,hr⟩ := newMessageFromBytes_cons.mp h
      obtain ⟨hm,hl,hv,size,hb,hle⟩ := (readers_read_iff rfl).mp hr
      have h1 : m.version = highNibble first := congrArg Message.version hm
      have h2 : m.headerSize = lowNibble first := congrArg Message.headerSize hm
      have h3 : m.msgType = highNibble second := congrArg Message.msgType hm
      have h4 : m.msgTypeFlag = lowNibble second := congrArg Message.msgTypeFlag hm
      have h5 : m.serialization = third &&& 0b11110000 := congrArg Message.serialization hm
      have h6 : m.compression = lowNibble third := congrArg Message.compression hm
      have hsup : Supported m := by
        rw [Supported,h3]
        exact hs
      refine ⟨third,buf.take (4*(lowNibble first).toNat-3),size,?_,?_,⟨h5,h6⟩,?_,hsup,hl,hv,hle⟩
      · rw [←hb,List.take_append_drop,h1,h2,h3,h4,pack_nibbles,pack_nibbles]
      · rw [h1,h2,h3,h4]
        exact ⟨⟨highNibble_lt _,lowNibble_lt _⟩,highNibble_lt _,lowNibble_lt _⟩
      · rw [h2,List.length_take,Nat.min_eq_left hlen]
  · rintro ⟨third,pad,size,h⟩
    have hv := nibbles_pack_iff.mpr h.nibbles.1
    have ht := nibbles_pack_iff.mpr h.nibbles.2
    have hstart : start (pack m.version m.headerSize) (pack m.msgType m.msgTypeFlag) third = m.bare := by
      rw [start,newMessage,hv.1,hv.2,ht.1,ht.2,←h.third.1,←h.third.2]
      rfl
    rw [h.bytes,newMessageFromBytes_cons,hstart,hv.2]
    refine ⟨?_,h.supported,?_⟩
    · rw [←h.pad,List.length_append]
      omega
    · rw [←h.pad,List.drop_left,readers_read_iff rfl]
      exact ⟨rfl,h.leadRead,h.eventRead,size,rfl,h.size⟩

end Volcengine
end Relay
end Tierflow
