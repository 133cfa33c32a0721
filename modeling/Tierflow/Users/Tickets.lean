import Tierflow.Foundation.Table
import Tierflow.Foundation.Text
import Tierflow.Foundation.Transaction

/-! Support tickets. A ticket is created with its first message; each reply moves its state and is noted in the
ticket, which so mirrors the thread of its messages. -/
namespace Tierflow
open TxSystem
namespace Users

def TicketStatusOpen : String := "open"
def TicketStatusResolved : String := "resolved"
def TicketRoleUser : String := "user"
def TicketRoleAdmin : String := "admin"

structure Ticket where
  ticketNo : String
  userId : ℕ
  title : String
  category : String
  priority : String
  status : String
  assigneeId : ℕ
  lastReplyAt : ℤ
  lastReplyRole : String
  createdAt : ℤ
  updatedAt : ℤ
  deriving DecidableEq, Repr

structure TicketMessage where
  ticketId : ℕ
  authorId : ℕ
  authorRole : String
  content : String
  createdAt : ℤ
  deriving DecidableEq, Repr

structure TicketStore where
  tickets : Table Ticket
  messages : Table TicketMessage

def isValidTicketPriority (p : String) : Bool := decide (p∈["low","medium","high","urgent"])

def isValidTicketCategory (c : String) : Bool :=
  decide (c∈["technical","billing","finance","account","feature","other"])

def isValidTicketStatus (s : String) : Bool := decide (s = TicketStatusOpen ∨ s = TicketStatusResolved)

/-- `fmt.Sprintf("TK%06d", id)` -/
def ticketNumber (id : ℕ) : String :=
  String.ofList ( 'T'::( 'K'::(List.replicate (6-(Nat.toDigits 10 id).length) '0'++Nat.toDigits 10 id)))

/-! ## The code -/

/-- The row that is created for the first message. -/
def newTicket (now : ℤ) (id userId : ℕ) (title category priority : String) : Ticket where
  ticketNo := ticketNumber id
  userId := userId
  title := title
  category := if isValidTicketCategory category then category else "other"
  priority := if isValidTicketPriority priority then priority else "medium"
  status := TicketStatusOpen
  assigneeId := 0
  lastReplyAt := now
  lastReplyRole := TicketRoleUser
  createdAt := now
  updatedAt := now

/-- The row after a reply. -/
def Ticket.replied (t : Ticket) (now : ℤ) (authorRole : String) : Ticket :=
  { t with
    lastReplyAt := now
    lastReplyRole := authorRole
    updatedAt := now
    status := if authorRole = TicketRoleUser then TicketStatusOpen else TicketStatusResolved }

def addTicket (s : TicketStore) (now : ℤ) (userId : ℕ) (title category priority firstMessageContent : String) :
    Except String TicketStore :=
  let title := Text.trimSpace title
  let content := Text.trimSpace firstMessageContent
  if title = "" then .error "工单标题不能为空"
  else if 255<title.length then .error "工单标题过长"
  else if content = "" then .error "工单内容不能为空"
  else if userId=0 then .error "无效的用户"
  else .ok ⟨s.tickets.insert (newTicket now s.tickets.next userId title category priority),
    s.messages.insert ⟨s.tickets.next,userId,TicketRoleUser,content,now⟩⟩

def addTicketMessage (s : TicketStore) (now : ℤ) (ticketId authorId : ℕ) (authorRole content : String) :
    Except String TicketStore :=
  let content := Text.trimSpace content
  if content = "" then .error "回复内容不能为空"
  else if authorRole≠TicketRoleUser ∧ authorRole≠TicketRoleAdmin then .error "无效的作者角色"
  else
    match s.tickets.find? ticketId with
    | none => .error "record not found"
    | some t => .ok ⟨s.tickets.set ticketId (t.replied now authorRole),
      s.messages.insert ⟨ticketId,authorId,authorRole,content,now⟩⟩

/-- The fields that an administrator may send. -/
structure TicketFields where
  status : Option String
  priority : Option String
  category : Option String
  assigneeId : Option ℕ

/-- A reply of the user to a ticket of his own. -/
def replyMyTicket (s : TicketStore) (now : ℤ) (userId ticketId : ℕ) (content : String) : Except String TicketStore :=
  match s.tickets.first? (fun r => r.1=ticketId ∧ r.2.userId=userId) with
  | none => .error "工单不存在"
  | some _ => addTicketMessage s now ticketId userId TicketRoleUser content

/-- `mayAssign` says whether the administrator may give the ticket to the one named. -/
def adminUpdateTicket (s : TicketStore) (now : ℤ) (id : ℕ) (fields : TicketFields) (mayAssign : ℕ → Bool) :
    Except String TicketStore :=
  match s.tickets.find? id with
  | none => .error "工单不存在"
  | some t =>
    if fields.status.any (fun v => !isValidTicketStatus v) then .error "无效的状态"
    else if fields.priority.any (fun v => !isValidTicketPriority v) then .error "无效的优先级"
    else if fields.category.any (fun v => !isValidTicketCategory v) then .error "无效的分类"
    else if fields.assigneeId.any (fun v => v≠0 && !mayAssign v) then .error "无权重新指派工单"
    else if fields.status = none ∧ fields.priority = none ∧ fields.category = none ∧ fields.assigneeId = none then
      .error "没有可更新的字段"
    else .ok { s with tickets := s.tickets.set id { t with
      status := fields.status.getD t.status
      priority := fields.priority.getD t.priority
      category := fields.category.getD t.category
      assigneeId := fields.assigneeId.getD t.assigneeId
      updatedAt := now } }

inductive TicketOp
  | create (now : ℤ) (userId : ℕ) (title category priority content : String)
  | reply (now : ℤ) (userId ticketId : ℕ) (content : String)
  | adminReply (now : ℤ) (adminId ticketId : ℕ) (content : String)
  | update (now : ℤ) (id : ℕ) (fields : TicketFields) (mayAssign : ℕ → Bool)

def ticketSystem : TxSystem TicketStore TicketOp Empty where
  step s
    | .create now u title category priority content =>
      (addTicket s now u title category priority content).toOption.map (·,[])
    | .reply now u id content => (replyMyTicket s now u id content).toOption.map (·,[])
    | .adminReply now a id content => (addTicketMessage s now id a TicketRoleAdmin content).toOption.map (·,[])
    | .update now id fields mayAssign => (adminUpdateTicket s now id fields mayAssign).toOption.map (·,[])

/-! ## Threads -/

/-- The messages of a ticket, in the order in which they were written. -/
def thread (s : TicketStore) (id : ℕ) : List TicketMessage :=
  (s.messages.select (fun r => r.2.ticketId=id)).map Prod.snd

/-- The ticket `id` and its messages fit together. -/
structure TicketSound (id : ℕ) (t : Ticket) (thread : List TicketMessage) : Prop where
  number : t.ticketNo = ticketNumber id
  first : ∀m∈thread.head?,m.authorId=t.userId ∧ m.authorRole = TicketRoleUser
  last : ∃m,thread.getLast? = some m ∧ t.lastReplyAt=m.createdAt ∧ t.lastReplyRole=m.authorRole
  valid : isValidTicketStatus t.status = true ∧ isValidTicketPriority t.priority = true ∧
    isValidTicketCategory t.category = true

/-- Every ticket fits its thread, and there is no message without a ticket or without content. -/
structure TicketsSound (s : TicketStore) : Prop where
  ticket : ∀id t,s.tickets.find? id = some t → TicketSound id t (thread s id)
  message : ∀k m,s.messages.find? k = some m → (s.tickets.find? m.ticketId).isSome = true ∧ m.content≠""

lemma ticketNumber_injective : Function.Injective ticketNumber := by
  intro i j h
  have hvalue : ∀n,Nat.ofDigitChars 10 ((ticketNumber n).toList.drop 2) 0 = n := fun n => by
    rw [ticketNumber,String.toList_ofList]
    simp [Nat.ofDigitChars_append,Nat.ofDigitChars_replicate_zero,Nat.ofDigitChars_ten_toDigits]
  rw [←hvalue i,h,hvalue j]

lemma thread_insert (s : TicketStore) (t : Table Ticket) (m : TicketMessage) (id : ℕ) :
    thread ⟨t,s.messages.insert m⟩ id = thread s id++if m.ticketId=id then [m] else [] := by
  unfold thread Table.select Table.insert
  rw [List.filter_append,List.map_append]
  by_cases hm : m.ticketId=id <;> simp [hm]

lemma thread_eq_nil {s : TicketStore} (h : TicketsSound s) {id : ℕ} (hid : s.tickets.find? id = none) :
    thread s id = [] := by
  unfold thread
  rw [List.map_eq_nil_iff,Table.select_eq_nil_iff]
  intro k m hk
  have := (h.message k m hk).1
  refine decide_eq_false fun hm => ?_
  rw [hm,hid] at this
  cases this

theorem addTicket_sound {s s' : TicketStore} {now : ℤ} {userId : ℕ} {title category priority content : String}
    (h : TicketsSound s) (hs : addTicket s now userId title category priority content = .ok s') : TicketsSound s' := by
  unfold addTicket at hs
  dsimp only at hs
  split_ifs at hs with h1 h2 h3 h4
  obtain rfl := Except.ok.inj hs
  constructor
  · intro id t ht
    dsimp only at ht
    rw [thread_insert]
    rw [Table.find?_insert] at ht
    by_cases hid : id=s.tickets.next
    · rw [if_pos hid] at ht
      obtain rfl := Option.some.inj ht
      subst hid
      rw [thread_eq_nil h (Table.find?_next _),if_pos rfl,List.nil_append]
      refine ⟨rfl,?_,⟨_,rfl,rfl,rfl⟩,rfl,?_,?_⟩
      · rintro m ⟨⟩
        exact ⟨rfl,rfl⟩
      · unfold newTicket
        dsimp only
        split_ifs with hp
        · exact hp
        · rfl
      · unfold newTicket
        dsimp only
        split_ifs with hc
        · exact hc
        · rfl
    · rw [if_neg hid] at ht
      rw [if_neg (Ne.symm hid),List.append_nil]
      exact h.ticket id t ht
  · intro k m hk
    dsimp only at hk ⊢
    rw [Table.find?_insert] at hk ⊢
    split_ifs at hk with hkn
    · obtain rfl := Option.some.inj hk
      exact ⟨by simp,h3⟩
    · obtain ⟨hm,hc⟩ := h.message k m hk
      refine ⟨?_,hc⟩
      split_ifs
      · rfl
      · exact hm

theorem addTicketMessage_sound {s s' : TicketStore} {now : ℤ} {ticketId authorId : ℕ} {role content : String}
    (h : TicketsSound s) (hs : addTicketMessage s now ticketId authorId role content = .ok s') : TicketsSound s' := by
  unfold addTicketMessage at hs
  dsimp only at hs
  split_ifs at hs with h1 h2
  cases ht : s.tickets.find? ticketId with
  | none =>
    rw [ht] at hs
    cases hs
  | some t =>
    rw [ht] at hs
    obtain rfl := Except.ok.inj hs
    have hsound := h.ticket ticketId t ht
    constructor
    · intro id t' ht'
      dsimp only at ht'
      rw [thread_insert]
      rw [Table.find?_set] at ht'
      by_cases hid : id=ticketId
      · subst hid
        rw [if_pos rfl,ht] at ht'
        obtain rfl := Option.some.inj ht'
        rw [if_pos rfl]
        refine ⟨hsound.number,fun m hm => ?_,⟨_,List.getLast?_concat ..,rfl,rfl⟩,?_,hsound.valid.2⟩
        · obtain ⟨m',hm',-⟩ := hsound.last
          have hne : thread s id≠[] := fun hnil => by simp [hnil] at hm'
          rw [List.head?_append_of_ne_nil _ hne] at hm
          exact hsound.first m hm
        · unfold Ticket.replied
          dsimp only
          split_ifs <;> rfl
      · rw [if_neg hid] at ht'
        rw [if_neg (Ne.symm hid),List.append_nil]
        exact h.ticket id t' ht'
    · intro k m hk
      dsimp only at hk ⊢
      rw [Table.find?_insert] at hk
      rw [Table.find?_set]
      split_ifs at hk with hkn
      · obtain rfl := Option.some.inj hk
        exact ⟨by simp [ht],h1⟩
      · obtain ⟨hm,hc⟩ := h.message k m hk
        refine ⟨?_,hc⟩
        split_ifs with hid
        · rw [ht]
          rfl
        · exact hm

theorem adminUpdateTicket_sound {s s' : TicketStore} {now : ℤ} {id : ℕ} {fields : TicketFields} {mayAssign : ℕ → Bool}
    (h : TicketsSound s) (hs : adminUpdateTicket s now id fields mayAssign = .ok s') : TicketsSound s' := by
  unfold adminUpdateTicket at hs
  cases ht : s.tickets.find? id with
  | none =>
    rw [ht] at hs
    cases hs
  | some t =>
    rw [ht] at hs
    dsimp only at hs
    split_ifs at hs with h1 h2 h3 h4 h5
    obtain rfl := Except.ok.inj hs
    have hsound := h.ticket id t ht
    have hkeep : ∀{v : Option String} {old : String} {p : String → Bool},¬(v.any (fun v => !p v) = true) → p old = true →
        p (v.getD old) = true := by
      intro v old p hv hold
      cases v with
      | none => exact hold
      | some v => simpa using hv
    constructor
    · intro j t' ht'
      dsimp only at ht'
      rw [Table.find?_set] at ht'
      by_cases hid : j=id
      · subst hid
        rw [if_pos rfl,ht] at ht'
        obtain rfl := Option.some.inj ht'
        exact ⟨hsound.number,hsound.first,hsound.last,hkeep h1 hsound.valid.1,hkeep h2 hsound.valid.2.1,
          hkeep h3 hsound.valid.2.2⟩
      · rw [if_neg hid] at ht'
        exact h.ticket j t' ht'
    · intro k m hk
      obtain ⟨hm,hc⟩ := h.message k m hk
      refine ⟨?_,hc⟩
      dsimp only
      rw [Table.find?_set]
      split_ifs with hid
      · rw [ht]
        rfl
      · exact hm

/-- In every state that any sequence of operations reaches: each ticket has its own number, was opened by its user's
message, notes the time and the author's role of the last message of its thread and has values of the lists only; and
every message has content and belongs to a ticket. -/
theorem tickets_sound (ops : List TicketOp) :
    ticketSystem.Always (fun c => TicketsSound c.state ∧ ∀i j t t',c.state.tickets.find? i = some t →
      c.state.tickets.find? j = some t' → t.ticketNo=t'.ticketNo → i=j) ⟨⟨.empty,.empty⟩,[]⟩ ops := by
  have hsound : ticketSystem.Always (fun c => TicketsSound c.state) ⟨⟨.empty,.empty⟩,[]⟩ ops := by
    refine always_of_step ⟨nofun,nofun⟩ ?_ ops
    rintro c i s' es h hs
    have hok : ∀{r : Except String TicketStore},r.toOption.map (·,([] : List Empty)) = some (s',es) → r = .ok s' := by
      intro r hr
      cases r with
      | error e => cases hr
      | ok s =>
        obtain ⟨rfl,-⟩ := Prod.mk.inj (Option.some.inj hr)
        rfl
    cases i with
    | create now u title category priority content =>
      exact addTicket_sound h (hok hs)
    | reply now u id content =>
      have hr := hok hs
      unfold replyMyTicket at hr
      split at hr
      · cases hr
      · exact addTicketMessage_sound h hr
    | adminReply now a id content => exact addTicketMessage_sound h (hok hs)
    | update now id fields mayAssign => exact adminUpdateTicket_sound h (hok hs)
  refine hsound.mono fun c h => ⟨h,fun i j t t' hi hj hn => ticketNumber_injective ?_⟩
  rw [←(h.ticket i t hi).number,←(h.ticket j t' hj).number,hn]

end Users
end Tierflow
