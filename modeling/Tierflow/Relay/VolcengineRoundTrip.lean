import Tierflow.Relay.VolcengineFrames

/-! When a frame is read back as the message it was written from, and when bytes that are read are the frame of what
they are read as. -/
namespace Tierflow
namespace Relay
namespace Volcengine
open Text Bytes

/-- The events without session and connection on both sides, and those with a connection for the readers alone. -/
def quietEvents : List Int32 := [eventStartConnection,eventFinishConnection]

def openedEvents : List Int32 := [eventConnectionStarted,eventConnectionFailed]

lemma event_cases (e : Int32) :
    e∈quietEvents∨e∈openedEvents∨e = eventConnectionFinished∨e∉readsNoSession := by
  simp only [quietEvents,openedEvents,readsNoSession,List.mem_cons,List.not_mem_nil,or_false]
  tauto

lemma quiet_facts : ∀ e∈quietEvents,
    e∈writesNoSession∧e∈readsNoSession∧e∉readsConnection∧e∉openedEvents∧e≠eventConnectionFinished := by
  intro e he
  rcases List.mem_pair.mp he with rfl | rfl <;> decide

lemma opened_facts : ∀ e∈openedEvents,
    e∈writesNoSession∧e∈readsNoSession∧e∈readsConnection∧e∉quietEvents := by
  intro e he
  rcases List.mem_pair.mp he with rfl | rfl <;> decide

lemma connection_facts : ∀ e∈readsConnection,
    (e∈openedEvents∨e = eventConnectionFinished)∧e∉quietEvents∧e∈readsNoSession := by
  intro e he
  simp only [readsConnection,List.mem_cons,List.not_mem_nil,or_false] at he
  rcases he with rfl | rfl | rfl <;> decide

lemma finished_facts : eventConnectionFinished∉writesNoSession∧eventConnectionFinished∈readsNoSession∧
    eventConnectionFinished∈readsConnection∧eventConnectionFinished∉openedEvents∧
    eventConnectionFinished∉quietEvents := by
  decide

lemma other_facts {e : Int32} (h : e∉readsNoSession) :
    e∉writesNoSession∧e∉readsConnection∧e∉openedEvents∧e≠eventConnectionFinished∧e∉quietEvents := by
  have hw : writesNoSession ⊆ readsNoSession := by decide
  have hc : readsConnection ⊆ readsNoSession := by decide
  have ho : openedEvents ⊆ readsNoSession := by decide
  have hq : quietEvents ⊆ readsNoSession := by decide
  refine ⟨fun he => h (hw he),fun he => h (hc he),fun he => h (ho he),fun he => h ?_,fun he => h (hq he)⟩
  rw [he]
  exact finished_facts.2.1

/-- The event, the session and the connection lie the same for the writers and for the readers. -/
def EventsMeet (m : Message) : Prop :=
  HasEvent m →
    if m.msgType = msgTypeError then
      m.errorCode = m.eventType.toUInt32∧
        (m.eventType∈quietEvents∨m.eventType∉readsNoSession∧
          withLength m.sessionID++be32 m.eventType.toUInt32 = be32 m.eventType.toUInt32++withLength m.sessionID)
    else m.eventType∉openedEvents∧(m.eventType = eventConnectionFinished → m.connectID = [])

lemma withLength_nil_iff {field : List UInt8} : withLength [] = withLength field ↔ field = [] := by
  constructor
  · intro h
    have hl := congrArg List.length h
    simp only [length_withLength,List.length_nil] at hl
    exact List.length_eq_zero_iff.mp (by omega)
  · intro h
    rw [h]

lemma not_hasSequence {m : Message} (h : HasEvent m) : hasSequence m = false := by
  rw [hasSequence,h]
  rfl

lemma plain_events_iff {m : Message} (hr : EventRead m) (hf : HasEvent m) :
    writtenEvent m = readEvents m ↔
      m.eventType∉openedEvents∧(m.eventType = eventConnectionFinished → m.connectID = []) := by
  rw [writtenEvent,readEvents,if_pos hf,if_pos hf,be32_append_inj]
  rcases event_cases m.eventType with h | h | h | h
  · obtain ⟨hw,hn,hc,ho,hx⟩ := quiet_facts _ h
    simp [hw,hn,hc,ho,hx]
  · obtain ⟨hw,hn,hc,hq⟩ := opened_facts _ h
    simp [hw,hn,hc,h,(withLength_ne_nil m.connectID).symm]
  · obtain ⟨hw,hn,hc,ho,-⟩ := finished_facts
    have hs := hr.session
    rw [if_neg (by rw [HasSession,h]; exact fun hh => hh.2 hn)] at hs
    simp [h,hw,hn,hc,ho,hs,withLength_nil_iff]
  · obtain ⟨hw,hc,ho,hx,-⟩ := other_facts h
    simp [h,hw,hc,ho,hx]

lemma error_events_iff {m : Message} (hr : EventRead m) (hf : HasEvent m) :
    writtenEvent m++be32 m.errorCode = be32 m.errorCode++readEvents m ↔
      m.errorCode = m.eventType.toUInt32∧
        (m.eventType∈quietEvents∨m.eventType∉readsNoSession∧
          withLength m.sessionID++be32 m.eventType.toUInt32 =
            be32 m.eventType.toUInt32++withLength m.sessionID) := by
  rw [writtenEvent,readEvents,if_pos hf,if_pos hf,List.append_assoc,be32_append_inj,eq_comm,and_congr_right_iff]
  intro hcode
  rw [hcode]
  rcases event_cases m.eventType with h | h | h | h
  · obtain ⟨hw,hn,hc,-⟩ := quiet_facts _ h
    simp [h,hw,hn,hc]
  · obtain ⟨hw,hn,hc,hq⟩ := opened_facts _ h
    simp [hw,hn,hc,hq,withLength_ne_nil m.connectID]
  · obtain ⟨hw,hn,hc,-,hq⟩ := finished_facts
    have hs := hr.session
    rw [if_neg (by rw [HasSession,h]; exact fun hh => hh.2 hn)] at hs
    have hz : (0 : UInt32)≠eventConnectionFinished.toUInt32 := by decide
    simp [h,hw,hn,hc,hq,hs,withLength,be32_append_inj,hz]
  · obtain ⟨hw,hc,-,-,hq⟩ := other_facts h
    simp [h,hw,hc,hq]

lemma events_iff {m : Message} (hr : EventRead m) :
    writtenEvent m++lead m = lead m++readEvents m ↔ EventsMeet m := by
  by_cases hf : HasEvent m
  · by_cases he : m.msgType = msgTypeError
    · rw [lead,if_pos he,error_events_iff hr hf,EventsMeet,if_pos he]
      exact ⟨fun h _ => h,fun h => h hf⟩
    · have hl : lead m = [] := by
        rw [lead,if_neg he,not_hasSequence hf]
        rfl
      rw [hl,List.append_nil,List.nil_append,plain_events_iff hr hf,EventsMeet,if_neg he]
      exact ⟨fun h _ => h,fun h => h hf⟩
  · rw [writtenEvent,readEvents,if_neg hf,if_neg hf,List.append_nil,List.nil_append]
    exact ⟨fun _ h => absurd h hf,fun _ => rfl⟩

/-- The body that is written is the body that was read. -/
lemma body_iff {m : Message} {size : UInt32} (hr : EventRead m) :
    writtenEvent m++(lead m++withLength m.payload) = lead m++(readEvents m++(be32 size++m.payload)) ↔
      EventsMeet m∧size = UInt32.ofNat m.payload.length := by
  have hlen : (withLength m.payload).length = (be32 size++m.payload).length := by simp
  rw [←events_iff hr,←List.append_assoc,←List.append_assoc]
  constructor
  · intro h
    have hs := List.append_inj' h hlen
    rw [withLength,be32_append_inj] at hs
    exact ⟨hs.1,hs.2.1.symm⟩
  · rintro ⟨hb,hz⟩
    rw [hb,hz,withLength]

/-- The two messages agree on the header and on every field that the type and the flag carry. -/
structure Agree (m n : Message) : Prop where
  version : n.version = m.version
  headerSize : n.headerSize = m.headerSize
  msgType : n.msgType = m.msgType
  msgTypeFlag : n.msgTypeFlag = m.msgTypeFlag
  serialization : n.serialization = m.serialization
  compression : n.compression = m.compression
  event : HasEvent m → n.eventType = m.eventType
  session : HasEvent m → m.eventType∉writesNoSession → n.sessionID = m.sessionID
  connection : HasConnection m → n.connectID = m.connectID
  sequence : Sequenced m → n.sequence = m.sequence
  errorCode : m.msgType = msgTypeError → n.errorCode = m.errorCode
  payload : n.payload = m.payload

def RoundTrips (m : Message) : Prop :=
  ∃ data n, marshal m = .ok data∧newMessageFromBytes data = .ok n∧Agree m n

/-- Whatever is read from the bytes is written as these bytes again. -/
def Faithful (data : List UInt8) : Prop := ∀ m, newMessageFromBytes data = .ok m → marshal m = .ok data

/-- Every part of the message has its place in a frame, and the same for the writers and the readers. -/
structure FrameFits (m : Message) : Prop where
  supported : Supported m
  nibbles : (m.version.toNat<16∧m.headerSize.toNat<16)∧m.msgTypeFlag.toNat<16∧m.compression.toNat<16
  serialization : m.serialization = 0
  payload : m.payload.length ≤ maxUint32
  session : HasEvent m → m.eventType∉writesNoSession → m.sessionID.length ≤ maxUint32
  meet : EventsMeet m
  finished : HasEvent m → m.eventType = eventConnectionFinished → m.sessionID = []

/-- No bit of the frame is lost in the message: the upper half of the third byte and the rest of the header are zero,
the length is that of the payload, and the events lie the same for both sides. -/
structure Tight (m : Message) (third : UInt8) (pad : List UInt8) (size : UInt32) : Prop where
  third : third &&& 0b11110000 = 0
  pad : pad = List.replicate (4*m.headerSize.toNat-3) 0
  size : size = UInt32.ofNat m.payload.length
  meet : EventsMeet m

section Agreement
variable {m n : Message}

lemma Agree.hasEvent (h : Agree m n) : HasEvent n ↔ HasEvent m := by
  rw [HasEvent,HasEvent,h.msgTypeFlag]

lemma Agree.writtenEvent (h : Agree m n) : writtenEvent n = writtenEvent m := by
  by_cases hf : HasEvent m
  · rw [Volcengine.writtenEvent,Volcengine.writtenEvent,if_pos hf,if_pos (h.hasEvent.mpr hf),h.event hf]
    by_cases hw : m.eventType∈writesNoSession
    · rw [if_pos hw,if_pos hw]
    · rw [if_neg hw,if_neg hw,h.session hf hw]
  · rw [Volcengine.writtenEvent,Volcengine.writtenEvent,if_neg hf,if_neg (fun hn => hf (h.hasEvent.mp hn))]

lemma Agree.lead (h : Agree m n) : lead n = lead m := by
  have hq : hasSequence n = hasSequence m := by rw [hasSequence,hasSequence,h.msgTypeFlag]
  rw [Volcengine.lead,Volcengine.lead,h.msgType,hq]
  split_ifs with he hs
  · rw [h.errorCode he]
  · rw [h.sequence ⟨he,hs⟩]
  · rfl

lemma Agree.header (h : Agree m n) : header n = header m := by
  rw [Volcengine.header,Volcengine.header,h.version,h.headerSize,h.msgType,h.msgTypeFlag,h.serialization,
    h.compression]

lemma Agree.writable (h : Agree m n) : Writable n ↔ Writable m := by
  constructor
  · intro hw
    refine ⟨?_,?_,?_⟩
    · rw [Supported,←h.msgType]
      exact hw.supported
    · rw [←h.payload]
      exact hw.payload
    · intro hf he
      rw [←h.session hf he]
      exact hw.session (h.hasEvent.mpr hf) (by rw [h.event hf]; exact he)
  · intro hw
    refine ⟨?_,?_,?_⟩
    · rw [Supported,h.msgType]
      exact hw.supported
    · rw [h.payload]
      exact hw.payload
    · intro hf he
      have hm := h.hasEvent.mp hf
      rw [h.event hm] at he
      rw [h.session hm he]
      exact hw.session hm he

/-- Messages that agree have one frame. -/
lemma Agree.marshal_iff (h : Agree m n) {data : List UInt8} : marshal n = .ok data ↔ marshal m = .ok data := by
  rw [Volcengine.marshal_iff,Volcengine.marshal_iff,h.writable,h.header,h.writtenEvent,h.lead,h.payload]

lemma Agree.meet_iff (h : Agree m n) : EventsMeet n ↔ EventsMeet m := by
  by_cases hf : HasEvent m
  · have hn := h.hasEvent.mpr hf
    rw [EventsMeet,EventsMeet,h.msgType,h.event hf]
    simp only [hf,hn,true_imp_iff]
    split_ifs with he
    · rw [h.errorCode he]
      by_cases hr : m.eventType∈readsNoSession
      · simp only [hr,not_true,false_and]
      · rw [h.session hf (other_facts hr).1]
    · by_cases hx : m.eventType = eventConnectionFinished
      · have hc : HasConnection m := ⟨hf,by rw [hx]; exact finished_facts.2.2.1⟩
        rw [h.connection hc]
      · simp only [hx,false_imp_iff]
  · exact ⟨fun _ hm => absurd hm hf,fun _ hn => absurd (h.hasEvent.mp hn) hf⟩

end Agreement

section Layouts
variable {data pad : List UInt8} {m n : Message} {third : UInt8} {size : UInt32}

lemma Layout.writable (h : Layout data n third pad size) : Writable n := by
  refine ⟨h.supported,?_,?_⟩
  · have hs : size.toNat<2^32 := size.toNat_lt
    have hp := h.size
    simp only [maxUint32]
    omega
  · intro hf he
    have hs := h.eventRead.session
    split_ifs at hs
    · exact hs
    · rw [hs]
      exact Nat.zero_le _

/-- The bytes that were read are written again exactly where nothing of them is lost. -/
lemma Layout.marshal_iff (h : Layout data n third pad size) : marshal n = .ok data ↔ Tight n third pad size := by
  have hthird : pack n.serialization n.compression = third ↔ third &&& 0b11110000 = 0 := by
    rw [h.third.1,h.third.2,pack_high,lowNibble_eq_iff]
  have hlen : pad.length = (List.replicate (4*n.headerSize.toNat-3) (0 : UInt8)).length := by
    rw [h.pad,List.length_replicate]
  rw [Volcengine.marshal_iff,h.bytes,header]
  simp only [List.cons_append,List.nil_append,List.cons.injEq,true_and]
  constructor
  · rintro ⟨-,h3,hb⟩
    have hs := List.append_inj hb hlen
    have hbody := (body_iff h.eventRead).mp hs.2.symm
    exact ⟨hthird.mp h3.symm,hs.1,hbody.2,hbody.1⟩
  · intro ht
    refine ⟨h.writable,(hthird.mpr ht.third).symm,?_⟩
    rw [(body_iff h.eventRead).mpr ⟨ht.meet,ht.size⟩,←ht.pad]

/-- A message agrees with what is read from its frame only if every part of it fits. -/
lemma FrameFits.of_layout (h : Layout data n third pad size) (ha : Agree m n) (hm : marshal m = .ok data) :
    FrameFits m := by
  have ht := h.marshal_iff.mp (ha.marshal_iff.mpr hm)
  have hw := (Volcengine.marshal_iff.mp hm).1
  refine ⟨hw.supported,⟨?_,?_,?_⟩,?_,hw.payload,hw.session,ha.meet_iff.mp ht.meet,?_⟩
  · rw [←ha.version,←ha.headerSize]
    exact h.nibbles.1
  · rw [←ha.msgTypeFlag]
    exact h.nibbles.2.2
  · rw [←ha.compression,h.third.2]
    exact lowNibble_lt third
  · rw [←ha.serialization,h.third.1]
    exact ht.third
  · intro hf he
    have hs := h.eventRead.session
    rw [if_neg] at hs
    · rw [←ha.session hf (by rw [he]; exact finished_facts.1)]
      exact hs
    · rintro ⟨-,hn⟩
      rw [ha.event hf,he] at hn
      exact hn finished_facts.2.1

/-- What is read of a message: the fields that have no place in its frame are empty. -/
def Message.read (m : Message) : Message :=
  {m with
    eventType := if HasEvent m then m.eventType else 0
    sessionID := if HasSession m then m.sessionID else []
    connectID := []
    sequence := if Sequenced m then m.sequence else 0
    errorCode := if m.msgType = msgTypeError then m.errorCode else 0}

lemma supported_lt (h : Supported m) : m.msgType.toNat<16 := by
  rcases h with h | h
  · simp only [plainTypes,List.mem_cons,List.not_mem_nil,or_false] at h
    rcases h with h | h | h | h | h <;> (rw [h]; decide)
  · rw [h]
    decide

lemma FrameFits.agree (h : FrameFits m) : Agree m m.read where
  version := rfl
  headerSize := rfl
  msgType := rfl
  msgTypeFlag := rfl
  serialization := rfl
  compression := rfl
  event hf := if_pos hf
  session hf he := by
    by_cases hs : HasSession m
    · exact if_pos hs
    · have hx : m.eventType = eventConnectionFinished := by
        rcases event_cases m.eventType with hq | hq | hq | hq
        · exact absurd (quiet_facts _ hq).1 he
        · exact absurd (opened_facts _ hq).1 he
        · exact hq
        · exact absurd ⟨hf,hq⟩ hs
      rw [h.finished hf hx]
      exact if_neg hs
  connection hc := by
    have hm := h.meet hc.1
    obtain ⟨hcases,hquiet,hread⟩ := connection_facts _ hc.2
    split_ifs at hm with he
    · exact absurd hm.2 (fun hh => hh.elim hquiet (fun hh => hh.1 hread))
    · exact (hm.2 (hcases.resolve_left hm.1)).symm
  sequence hs := if_pos hs
  errorCode he := if_pos he
  payload := rfl

lemma hasSession_read : HasSession m.read ↔ HasSession m := by
  by_cases hf : HasEvent m
  · have he : m.read.eventType = m.eventType := if_pos hf
    rw [HasSession,HasSession,he]
    rfl
  · exact ⟨fun h => absurd h.1 hf,fun h => absurd h.1 hf⟩

lemma FrameFits.eventRead (h : FrameFits m) : EventRead m.read where
  event hf := if_neg hf
  session := by
    by_cases hs : HasSession m
    · rw [if_pos (hasSession_read.mpr hs)]
      have hw := h.session hs.1 (other_facts hs.2).1
      rw [show m.read.sessionID = m.sessionID from if_pos hs]
      exact hw
    · rw [if_neg (fun hr => hs (hasSession_read.mp hr))]
      exact if_neg hs
  connection := by
    split_ifs
    · exact Nat.zero_le _
    · rfl

/-- The frame of a message that fits: its third byte is the compression. -/
lemma FrameFits.layout (h : FrameFits m) : ∃ data third pad size,
    Layout data m.read third pad size∧Tight m.read third pad size := by
  have hlow := lowNibble_of_lt h.nibbles.2.2
  have hzero := lowNibble_eq_iff.mp hlow
  let pad : List UInt8 := List.replicate (4*m.headerSize.toNat-3) 0
  let size := UInt32.ofNat m.payload.length
  let data := pack m.version m.headerSize::pack m.msgType m.msgTypeFlag::m.compression::
    (pad++(lead m.read++(readEvents m.read++(be32 size++m.payload))))
  refine ⟨data,m.compression,pad,size,?_,?_⟩
  · exact {
      bytes := rfl
      nibbles := ⟨h.nibbles.1,supported_lt h.supported,h.nibbles.2.1⟩
      third := ⟨h.serialization.trans hzero.symm,hlow.symm⟩
      pad := List.length_replicate
      supported := h.supported
      leadRead := ⟨fun he => if_neg he,fun hs => if_neg hs⟩
      eventRead := h.eventRead
      size := (toNat_length h.payload).ge }
  · exact ⟨hzero,rfl,rfl,h.agree.meet_iff.mpr h.meet⟩

end Layouts

/-- A message is read back from its frame exactly where every part of it fits; bytes that are read are the frame of
what they are read as exactly where no bit of them is lost, however they lie for the readers. -/
theorem frames_iff (m : Message) (data : List UInt8) :
    (RoundTrips m ↔ FrameFits m)∧
      (Faithful data ↔ ∀ n third pad size, Layout data n third pad size → Tight n third pad size) := by
  constructor
  · constructor
    · rintro ⟨data,n,hm,hn,ha⟩
      obtain ⟨third,pad,size,hl⟩ := newMessageFromBytes_iff.mp hn
      exact FrameFits.of_layout hl ha hm
    · intro h
      obtain ⟨data,third,pad,size,hl,ht⟩ := h.layout
      exact ⟨data,m.read,h.agree.marshal_iff.mp (hl.marshal_iff.mpr ht),
        newMessageFromBytes_iff.mpr ⟨third,pad,size,hl⟩,h.agree⟩
  · constructor
    · intro hd n third pad size hl
      exact hl.marshal_iff.mp (hd n (newMessageFromBytes_iff.mpr ⟨third,pad,size,hl⟩))
    · intro hd n hn
      obtain ⟨third,pad,size,hl⟩ := newMessageFromBytes_iff.mp hn
      exact hl.marshal_iff.mpr (hd n third pad size hl)

/-- The message that the relay builds does not come back from its frame: its serialization is read unshifted. And a
payload that is cut short is taken for a whole one. -/
theorem frame_lost :
    (Supported (newMessage msgTypeFullClientRequest 0)∧¬RoundTrips (newMessage msgTypeFullClientRequest 0))∧
      ¬Faithful [0x11,0x10,0x00,0x00,0,0,0,5,7] := by
  refine ⟨⟨.inl (by decide),?_⟩,?_⟩
  · rintro ⟨data,n,hm,hn,ha⟩
    have hd : data = [0x11,0x10,0x10,0x00,0,0,0,0] := Except.ok.inj (hm.symm.trans (by decide))
    rw [hd] at hn
    have hs := ha.serialization
    have hn' : n = {newMessage msgTypeFullClientRequest 0 with serialization := 0x10} :=
      Except.ok.inj (hn.symm.trans (by decide))
    rw [hn'] at hs
    exact absurd hs (by decide)
  · intro h
    have hm := h {newMessage msgTypeFullClientRequest 0 with serialization := 0,payload := [7]} (by decide)
    exact absurd hm (by decide)

end Volcengine
end Relay
end Tierflow
