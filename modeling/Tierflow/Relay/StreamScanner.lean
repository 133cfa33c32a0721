import Tierflow.Foundation.Text
import Tierflow.Foundation.Transaction

/-! Reading a stream of events. One goroutine scans the lines of the response, another hands their payloads to the
handler, a third sends pings; the caller waits for a stop signal and then for all of them. -/
namespace Tierflow
namespace Relay
namespace StreamScanner

/-! ## Lines -/

/-- What the scanner does with a line. -/
inductive Verdict
  | skip
  | send (data : String)
  | done
  deriving DecidableEq, Repr

def afterMark (data : String) : String := Text.trimSpace (String.ofList (data.toList.drop 5))

def readLine (data : String) : Verdict :=
  if data.utf8ByteSize<6 then .skip
  else if Text.hasPrefix data "data:" = false ∧ Text.hasPrefix data "[DONE]" = false then .skip
  else if afterMark data = "" then .skip
  else if Text.hasPrefix (afterMark data) "[DONE]" then .done
  else .send (afterMark data)

/-- A line of the response, without the carriage return that may end it. -/
def dropCR (line : String) : String := (Text.cutSuffix line "\r").getD line

/-! ## Goroutines -/

inductive Scanner
  | reading (lines : List String)
  | checking (line : String) (lines : List String)
  | sending (data : String) (lines : List String)
  | closing
  | departing
  | signalling
  | exited
  deriving DecidableEq, Repr

inductive Handler
  | waiting
  | handling (data : String)
  | signalling
  | exited
  deriving DecidableEq, Repr

inductive Main
  | waiting
  | cancelling
  | signalling
  | joining
  | closing
  | returned
  deriving DecidableEq, Repr

inductive Ping
  | running
  | exited
  deriving DecidableEq, Repr

/-- The goroutines and what they share. `handled` is what the handler has been called with. -/
structure State where
  scanner : Scanner
  handler : Handler
  main : Main
  ping : Ping
  dataChan : List String
  dataClosed : Bool
  stopChan : ℕ
  stopClosed : Bool
  cancelled : Bool
  handled : List String
  deriving DecidableEq, Repr

/-- Who takes the next step. Where more than one case of a `select` is ready, each of them is a step. -/
inductive Move
  | scan
  | scanStopped
  | scanCancelled
  | handle
  | main
  | pingStopped
  | pingCancelled
  | pingQuits
  | timeout
  | clientGone
  | handlerStops
  | waitExpires
  deriving DecidableEq, Repr

def initial (pingEnabled : Bool) (lines : List String) : State where
  scanner := .reading lines
  handler := .waiting
  main := .waiting
  ping := if pingEnabled then .running else .exited
  dataChan := []
  dataClosed := false
  stopChan := 0
  stopClosed := false
  cancelled := false
  handled := []

def State.stopReady (s : State) : Prop := 0 < s.stopChan ∨ s.stopClosed = true

instance (s : State) : Decidable s.stopReady := inferInstanceAs (Decidable (_ ∨ _))

def State.takeStop (s : State) : State := { s with stopChan := s.stopChan-1 }

/-- A send on the stop channel, which blocks if the channel is full and does nothing if it is closed. -/
def State.safeSend (s : State) : Option State :=
  if s.stopClosed then some s
  else if s.stopChan<3 then some { s with stopChan := s.stopChan+1 }
  else none

/-- The goroutines that the caller waits for have all left. -/
def State.joined (s : State) : Prop :=
  (s.scanner = .signalling ∨ s.scanner = .exited) ∧ (s.handler = .signalling ∨ s.handler = .exited) ∧
    s.ping = .exited

instance (s : State) : Decidable s.joined := inferInstanceAs (Decidable (_ ∧ _))

section Steps
variable (limit : ℕ)

/-- The scanner fails at a line that does not fit its buffer. -/
def scan (s : State) : Option State :=
  match s.scanner with
  | .reading [] => some { s with scanner := .closing }
  | .reading (line::lines) =>
    if limit ≤ line.utf8ByteSize then some { s with scanner := .closing }
    else some { s with scanner := .checking (dropCR line) lines }
  | .checking line lines =>
    if s.stopReady ∨ s.cancelled then none
    else
      match readLine line with
      | .skip => some { s with scanner := .reading lines }
      | .send data => some { s with scanner := .sending data lines }
      | .done => some { s with scanner := .closing }
  | .sending data lines =>
    if s.dataChan.length<10 then some { s with scanner := .reading lines, dataChan := s.dataChan++[data] }
    else none
  | .closing => some { s with scanner := .departing, dataClosed := true }
  | .departing => some { s with scanner := .signalling }
  | .signalling => s.safeSend.map (fun s => { s with scanner := .exited })
  | .exited => none

/-- The scanner is where it looks for a signal to stop. -/
def State.listening (s : State) : Bool :=
  match s.scanner with
  | .checking _ _ => true
  | .sending _ _ => true
  | _ => false

def handle (s : State) : Option State :=
  match s.handler with
  | .waiting =>
    match s.dataChan with
    | data::rest => some { s with handler := .handling data, dataChan := rest }
    | [] => if s.dataClosed then some { s with handler := .signalling } else none
  | .handling data => some { s with handler := .waiting, handled := s.handled++[data] }
  | .signalling => s.safeSend.map (fun s => { s with handler := .exited })
  | .exited => none

def main (s : State) : Option State :=
  match s.main with
  | .waiting => if 0 < s.stopChan then some { s.takeStop with main := .cancelling } else none
  | .cancelling => some { s with main := .signalling, cancelled := true }
  | .signalling => s.safeSend.map (fun s => { s with main := .joining })
  | .joining => if s.joined then some { s with main := .closing } else none
  | .closing => some { s with main := .returned, stopClosed := true }
  | .returned => none

def step (s : State) : Move → Option State
  | .scan => scan limit s
  | .scanStopped => if s.listening ∧ s.stopReady then some { s.takeStop with scanner := .closing } else none
  | .scanCancelled => if s.listening ∧ s.cancelled then some { s with scanner := .closing } else none
  | .handle => handle s
  | .main => main s
  | .pingStopped => if s.ping = .running ∧ s.stopReady then some { s.takeStop with ping := .exited } else none
  | .pingCancelled => if s.ping = .running ∧ s.cancelled then some { s with ping := .exited } else none
  | .pingQuits => if s.ping = .running then some { s with ping := .exited } else none
  | .timeout => if s.main = .waiting then some { s with main := .cancelling } else none
  | .clientGone =>
    match s.scanner with
    | .checking _ _ => some { s with scanner := .closing }
    | _ => none
  | .handlerStops =>
    match s.handler with
    | .handling data => some { s with handler := .signalling, handled := s.handled++[data] }
    | _ => none
  | .waitExpires => if s.main = .joining then some { s with main := .closing } else none

def streamScannerHandler : TxSystem State Move Empty where
  step s m := (step limit s m).map (fun s => (s,[]))

/-- No timeout, no disconnect, and the handler never stops the stream. -/
def Move.calm : Move → Prop
  | .timeout | .clientGone | .handlerStops | .waitExpires => False
  | _ => True

instance : DecidablePred Move.calm := by
  intro m
  cases m <;> unfold Move.calm <;> infer_instance

end Steps

/-! ## What is on its way -/

section Flow
variable (limit : ℕ)

/-- The payloads that the scanner sends for these lines. -/
def sent : List String → List String
  | [] => []
  | line::lines =>
    if limit ≤ line.utf8ByteSize then []
    else
      match readLine (dropCR line) with
      | .skip => sent lines
      | .send data => data::sent lines
      | .done => []

def Scanner.pending : Scanner → List String
  | .reading lines => sent limit lines
  | .checking line lines =>
    match readLine line with
    | .skip => sent limit lines
    | .send data => data::sent limit lines
    | .done => []
  | .sending data lines => data::sent limit lines
  | _ => []

def Handler.inHand : Handler → List String
  | .handling data => [data]
  | _ => []

/-- What was handled, is being handled, is buffered and is still to be sent, in this order. -/
def State.flow (s : State) : List String := s.handled++s.handler.inHand++s.dataChan++s.scanner.pending limit

end Flow

/-! ## Order of the ends -/

def Scanner.closed : Scanner → Bool
  | .departing | .signalling | .exited => true
  | _ => false

def Handler.gone : Handler → Bool
  | .signalling | .exited => true
  | _ => false

def Scanner.signals : Scanner → ℕ
  | .exited => 1
  | _ => 0

def Handler.signals : Handler → ℕ
  | .exited => 1
  | _ => 0

def Main.signals : Main → ℕ
  | .joining | .closing | .returned => 1
  | _ => 0

def Main.takes : Main → ℕ
  | .waiting => 0
  | _ => 1

def Ping.takes : Ping → ℕ
  | .running => 0
  | .exited => 1

/-- How many stop signals were sent. -/
def State.signals (s : State) : ℕ := s.scanner.signals+s.handler.signals+s.main.signals

/-- How many were taken, at most. -/
def State.takes (s : State) : ℕ := s.main.takes+s.ping.takes

/-- Nobody is told to stop before the scanner has closed the channel, and the handler leaves only when it is empty. -/
structure Orderly (limit : ℕ) (lines : List String) (s : State) : Prop where
  flow : s.flow limit = sent limit lines
  closed : s.dataClosed = s.scanner.closed
  early : s.scanner.closed = false →
    s.stopChan = 0 ∧ s.stopClosed = false ∧ s.cancelled = false ∧ s.main = .waiting ∧ s.handler.gone = false
  drained : s.handler.gone = true → s.dataChan = []
  left : s.main = .closing ∨ s.main = .returned → s.joined
  stopClosed : s.stopClosed = true ↔ s.main = .returned
  cancelled : s.main = .signalling ∨ s.main = .joining ∨ s.main = .closing → s.cancelled = true
  atMost : s.stopClosed = false → s.stopChan ≤ s.signals
  atLeast : s.stopClosed = false → s.signals ≤ s.stopChan+s.takes

section Invariant
variable {limit : ℕ} {lines : List String} {s s' : State}

lemma orderly_initial (pingEnabled : Bool) : Orderly limit lines (initial pingEnabled lines) := by
  refine ⟨rfl,rfl,fun _ => ⟨rfl,rfl,rfl,rfl,rfl⟩,?_,?_,?_,?_,fun _ => Nat.zero_le _,
    fun _ => Nat.zero_le _⟩
  · exact fun h => nomatch h
  · rintro (h | h) <;> contradiction
  · exact iff_of_false Bool.false_ne_true (fun h => nomatch h)
  · rintro (h | h | h) <;> contradiction

/-- While the scanner is at work, it may go on in any way that keeps the flow. -/
lemma Orderly.scans (h : Orderly limit lines s) (hs : s.scanner.closed = false) {scanner : Scanner}
    (hs' : scanner.closed = false) {dataChan : List String}
    (hflow : dataChan++scanner.pending limit = s.dataChan++s.scanner.pending limit) :
    Orderly limit lines { s with scanner := scanner, dataChan := dataChan } := by
  obtain ⟨h1,h2,h3,h4,h5⟩ := h.early hs
  refine ⟨?_,?_,fun _ => ⟨h1,h2,h3,h4,h5⟩,?_,?_,h.stopClosed,h.cancelled,?_,?_⟩
  · rw [←h.flow]
    simp only [State.flow,List.append_assoc,hflow]
  · rw [h.closed,hs]
    exact hs'.symm
  · intro hgone
    rw [show s.handler.gone = false from h5] at hgone
    contradiction
  · intro hmain
    rw [show s.main = .waiting from h4] at hmain
    rcases hmain with hmain | hmain <;> contradiction
  · intro _
    show s.stopChan ≤ _
    rw [h1]
    exact Nat.zero_le _
  · intro _
    have hsignals := h.atLeast h2
    cases scanner with
    | exited => exact absurd hs' (by decide)
    | _ =>
      simp only [State.signals,State.takes,Scanner.signals] at hsignals ⊢
      omega

lemma safeSend_eq_some {t : State} (h : s.safeSend = some t) :
    ∃ n, t = { s with stopChan := n } ∧ (s.stopClosed = false → n = s.stopChan+1) := by
  unfold State.safeSend at h
  split_ifs at h with hclosed
  · refine ⟨s.stopChan,(Option.some.inj h).symm,fun hopen => ?_⟩
    rw [hopen] at hclosed
    contradiction
  · exact ⟨s.stopChan+1,(Option.some.inj h).symm,fun _ => rfl⟩

lemma Orderly.scan (h : Orderly limit lines s) (hs : scan limit s = some s') : Orderly limit lines s' := by
  unfold StreamScanner.scan at hs
  cases hscanner : s.scanner with
  | reading rest =>
    rw [hscanner] at hs
    have hopen : s.scanner.closed = false := by rw [hscanner]; rfl
    cases rest with
    | nil =>
      rw [←Option.some.inj hs]
      exact h.scans hopen rfl (by rw [hscanner]; rfl)
    | cons line rest =>
      dsimp only at hs
      split_ifs at hs with hlimit <;> rw [←Option.some.inj hs]
      · refine h.scans hopen rfl ?_
        rw [hscanner]
        simp only [Scanner.pending,sent,if_pos hlimit]
      · refine h.scans hopen rfl ?_
        rw [hscanner]
        simp only [Scanner.pending,sent,if_neg hlimit]
  | checking line rest =>
    rw [hscanner] at hs
    have hopen : s.scanner.closed = false := by rw [hscanner]; rfl
    dsimp only at hs
    split_ifs at hs
    cases hread : readLine line with
    | skip =>
      simp only [hread] at hs
      rw [←Option.some.inj hs]
      exact h.scans hopen rfl (by rw [hscanner]; simp only [Scanner.pending,hread])
    | send data =>
      simp only [hread] at hs
      rw [←Option.some.inj hs]
      exact h.scans hopen rfl (by rw [hscanner]; simp only [Scanner.pending,hread])
    | done =>
      simp only [hread] at hs
      rw [←Option.some.inj hs]
      exact h.scans hopen rfl (by rw [hscanner]; simp only [Scanner.pending,hread])
  | sending data rest =>
    rw [hscanner] at hs
    have hopen : s.scanner.closed = false := by rw [hscanner]; rfl
    dsimp only at hs
    split_ifs at hs
    rw [←Option.some.inj hs]
    exact h.scans hopen rfl (by rw [hscanner]; simp [Scanner.pending])
  | closing =>
    rw [hscanner] at hs
    obtain ⟨h1,h2,h3,h4,h5⟩ := h.early (by rw [hscanner]; rfl)
    rw [←Option.some.inj hs]
    refine ⟨?_,rfl,(fun hopen => nomatch hopen),h.drained,?_,h.stopClosed,h.cancelled,fun _ => ?_,fun _ => ?_⟩
    · rw [←h.flow]
      simp only [State.flow,hscanner]
      rfl
    · rw [h4]
      rintro (hmain | hmain) <;> contradiction
    · show s.stopChan ≤ _
      rw [h1]
      exact Nat.zero_le _
    · have hsignals := h.atLeast h2
      simp only [State.signals,State.takes,hscanner,Scanner.signals] at hsignals ⊢
      exact hsignals
  | departing =>
    rw [hscanner] at hs
    rw [←Option.some.inj hs]
    refine ⟨?_,?_,(fun hopen => nomatch hopen),h.drained,?_,h.stopClosed,h.cancelled,?_,?_⟩
    · rw [←h.flow]
      simp only [State.flow,hscanner]
      rfl
    · rw [h.closed,hscanner]
      rfl
    · intro hmain
      have := (h.left hmain).1
      rw [hscanner] at this
      rcases this with this | this <;> contradiction
    · have hsignals := h.atMost
      simp only [State.signals,hscanner] at hsignals
      exact hsignals
    · have hsignals := h.atLeast
      simp only [State.signals,hscanner] at hsignals
      exact hsignals
  | signalling =>
    rw [hscanner] at hs
    obtain ⟨t,ht,rfl⟩ := Option.map_eq_some_iff.mp hs
    obtain ⟨n,rfl,hn⟩ := safeSend_eq_some ht
    have hmost := h.atMost
    have hleast := h.atLeast
    simp only [State.signals,State.takes,hscanner,Scanner.signals] at hmost hleast
    refine ⟨?_,?_,(fun hopen => nomatch hopen),h.drained,?_,h.stopClosed,h.cancelled,?_,?_⟩
    · rw [←h.flow]
      simp only [State.flow,hscanner]
      rfl
    · rw [h.closed,hscanner]
      rfl
    · exact fun hmain => ⟨.inr rfl,(h.left hmain).2⟩
    · intro hopen
      have := hmost hopen
      have := hn hopen
      simp only [State.signals,Scanner.signals]
      omega
    · intro hopen
      have := hleast hopen
      have := hn hopen
      simp only [State.signals,State.takes,Scanner.signals]
      omega
  | exited =>
    rw [hscanner] at hs
    contradiction

/-- While the handler is at work, it may go on in any way that keeps the flow. -/
lemma Orderly.handles (h : Orderly limit lines s) (hs : s.handler.gone = false) {handler : Handler}
    (hs' : handler.gone = false) {dataChan handled : List String}
    (hflow : handled++handler.inHand++dataChan = s.handled++s.handler.inHand++s.dataChan) :
    Orderly limit lines { s with handler := handler, dataChan := dataChan, handled := handled } := by
  have hsignals : ∀ k : Handler, k.gone = false → k.signals = 0 := by
    intro k hk
    cases k <;> first | rfl | contradiction
  refine ⟨?_,h.closed,?_,?_,?_,h.stopClosed,h.cancelled,?_,?_⟩
  · rw [←h.flow]
    simp only [State.flow,hflow]
  · intro hopen
    obtain ⟨h1,h2,h3,h4,_⟩ := h.early hopen
    exact ⟨h1,h2,h3,h4,hs'⟩
  · intro hgone
    rw [show handler.gone = true from hgone] at hs'
    contradiction
  · intro hmain
    have hjoined := (h.left hmain).2.1
    rcases hjoined with hjoined | hjoined <;> rw [hjoined] at hs <;> contradiction
  · have hmost := h.atMost
    simp only [State.signals,hsignals _ hs] at hmost
    simp only [State.signals,hsignals _ hs']
    exact hmost
  · have hleast := h.atLeast
    simp only [State.signals,hsignals _ hs] at hleast
    simp only [State.signals,hsignals _ hs']
    exact hleast

lemma Orderly.handle (h : Orderly limit lines s) (hs : handle s = some s') : Orderly limit lines s' := by
  unfold StreamScanner.handle at hs
  cases hhandler : s.handler with
  | waiting =>
    have hgone : s.handler.gone = false := by rw [hhandler]; rfl
    cases hchan : s.dataChan with
    | cons data rest =>
      simp only [hhandler,hchan] at hs
      rw [←Option.some.inj hs]
      exact h.handles hgone rfl (by rw [hhandler,hchan]; simp [Handler.inHand])
    | nil =>
      simp only [hhandler,hchan] at hs
      split_ifs at hs with hclosed
      rw [←Option.some.inj hs]
      rw [h.closed] at hclosed
      refine ⟨?_,h.closed,?_,fun _ => rfl,?_,h.stopClosed,h.cancelled,?_,?_⟩
      · rw [←h.flow]
        simp only [State.flow,hhandler,hchan]
        rfl
      · intro hopen
        rw [show s.scanner.closed = false from hopen] at hclosed
        contradiction
      · exact fun hmain => ⟨(h.left hmain).1,.inl rfl,(h.left hmain).2.2⟩
      · have hmost := h.atMost
        simp only [State.signals,hhandler] at hmost
        exact hmost
      · have hleast := h.atLeast
        simp only [State.signals,hhandler] at hleast
        exact hleast
  | handling data =>
    have hgone : s.handler.gone = false := by rw [hhandler]; rfl
    simp only [hhandler] at hs
    rw [←Option.some.inj hs]
    exact h.handles hgone rfl (by rw [hhandler]; simp [Handler.inHand])
  | signalling =>
    simp only [hhandler] at hs
    obtain ⟨t,ht,rfl⟩ := Option.map_eq_some_iff.mp hs
    obtain ⟨n,rfl,hn⟩ := safeSend_eq_some ht
    have hclosed : s.scanner.closed = true := by
      by_contra hopen
      obtain ⟨_,_,_,_,hgone⟩ := h.early (by simpa using hopen)
      rw [hhandler] at hgone
      contradiction
    have hmost := h.atMost
    have hleast := h.atLeast
    simp only [State.signals,State.takes,hhandler,Handler.signals] at hmost hleast
    refine ⟨?_,h.closed,?_,fun _ => h.drained (by rw [hhandler]; rfl),?_,h.stopClosed,h.cancelled,?_,?_⟩
    · rw [←h.flow]
      simp only [State.flow,hhandler]
      rfl
    · intro hopen
      rw [show s.scanner.closed = false from hopen] at hclosed
      contradiction
    · exact fun hmain => ⟨(h.left hmain).1,.inr rfl,(h.left hmain).2.2⟩
    · intro hopen
      have := hmost hopen
      have := hn hopen
      simp only [State.signals,Handler.signals]
      omega
    · intro hopen
      have := hleast hopen
      have := hn hopen
      simp only [State.signals,State.takes,Handler.signals]
      omega
  | exited =>
    simp only [hhandler] at hs
    contradiction

lemma Orderly.scanner_closed (h : Orderly limit lines s) (hmain : s.main≠.waiting) : s.scanner.closed = true := by
  by_contra hopen
  exact hmain (h.early (by simpa using hopen)).2.2.2.1

lemma Orderly.main (h : Orderly limit lines s) (hs : main s = some s') : Orderly limit lines s' := by
  have hmost := h.atMost
  have hleast := h.atLeast
  have hstop := h.stopClosed
  unfold StreamScanner.main at hs
  cases hmain : s.main with
  | waiting =>
    simp only [hmain] at hs
    split_ifs at hs with htoken
    rw [←Option.some.inj hs]
    simp only [State.signals,State.takes,hmain,Main.signals,Main.takes] at hmost hleast
    rw [hmain] at hstop
    refine ⟨h.flow,h.closed,?_,h.drained,?_,?_,?_,?_,?_⟩
    · intro hopen
      have htoken0 := (h.early hopen).1
      omega
    · rintro (h' | h') <;> contradiction
    · exact hstop.trans (iff_of_false (fun hc => nomatch hc) (fun hc => nomatch hc))
    · rintro (h' | h' | h') <;> contradiction
    · intro hopen
      have := hmost hopen
      simp only [State.signals,State.takeStop,Main.signals]
      omega
    · intro hopen
      have := hleast hopen
      simp only [State.signals,State.takes,State.takeStop,Main.signals,Main.takes]
      omega
  | cancelling =>
    simp only [hmain] at hs
    rw [←Option.some.inj hs]
    have hclosed := h.scanner_closed (by rw [hmain]; exact fun hc => nomatch hc)
    simp only [State.signals,State.takes,hmain,Main.signals,Main.takes] at hmost hleast
    rw [hmain] at hstop
    refine ⟨h.flow,h.closed,?_,h.drained,?_,?_,fun _ => rfl,hmost,hleast⟩
    · intro hopen
      rw [show s.scanner.closed = false from hopen] at hclosed
      contradiction
    · rintro (h' | h') <;> contradiction
    · exact hstop.trans (iff_of_false (fun hc => nomatch hc) (fun hc => nomatch hc))
  | signalling =>
    simp only [hmain] at hs
    obtain ⟨t,ht,rfl⟩ := Option.map_eq_some_iff.mp hs
    obtain ⟨n,rfl,hn⟩ := safeSend_eq_some ht
    have hclosed := h.scanner_closed (by rw [hmain]; exact fun hc => nomatch hc)
    simp only [State.signals,State.takes,hmain,Main.signals,Main.takes] at hmost hleast
    rw [hmain] at hstop
    refine ⟨h.flow,h.closed,?_,h.drained,?_,?_,fun _ => h.cancelled (.inl hmain),?_,?_⟩
    · intro hopen
      rw [show s.scanner.closed = false from hopen] at hclosed
      contradiction
    · rintro (h' | h') <;> contradiction
    · exact hstop.trans (iff_of_false (fun hc => nomatch hc) (fun hc => nomatch hc))
    · intro hopen
      have := hmost hopen
      have := hn hopen
      simp only [State.signals,Main.signals]
      omega
    · intro hopen
      have := hleast hopen
      have := hn hopen
      simp only [State.signals,State.takes,Main.signals,Main.takes]
      omega
  | joining =>
    simp only [hmain] at hs
    split_ifs at hs with hjoined
    rw [←Option.some.inj hs]
    have hclosed := h.scanner_closed (by rw [hmain]; exact fun hc => nomatch hc)
    simp only [State.signals,State.takes,hmain,Main.signals,Main.takes] at hmost hleast
    rw [hmain] at hstop
    refine ⟨h.flow,h.closed,?_,h.drained,fun _ => hjoined,?_,fun _ => h.cancelled (.inr (.inl hmain)),hmost,hleast⟩
    · intro hopen
      rw [show s.scanner.closed = false from hopen] at hclosed
      contradiction
    · exact hstop.trans (iff_of_false (fun hc => nomatch hc) (fun hc => nomatch hc))
  | closing =>
    simp only [hmain] at hs
    rw [←Option.some.inj hs]
    have hclosed := h.scanner_closed (by rw [hmain]; exact fun hc => nomatch hc)
    refine ⟨h.flow,h.closed,?_,h.drained,fun _ => h.left (.inl hmain),iff_of_true rfl rfl,?_,?_,?_⟩
    · intro hopen
      rw [show s.scanner.closed = false from hopen] at hclosed
      contradiction
    · rintro (h' | h' | h') <;> contradiction
    · exact (fun hopen => nomatch hopen)
    · exact (fun hopen => nomatch hopen)
  | returned =>
    simp only [hmain] at hs
    contradiction

/-- The pings end. -/
lemma Orderly.ping (h : Orderly limit lines s) (hping : s.ping = .running) {n : ℕ} (hle : n ≤ s.stopChan)
    (hn : s.stopChan ≤ n+1) : Orderly limit lines { s with ping := .exited, stopChan := n } := by
  have hmost := h.atMost
  have hleast := h.atLeast
  simp only [State.signals,State.takes,hping,Ping.takes] at hmost hleast
  refine ⟨h.flow,h.closed,?_,h.drained,?_,h.stopClosed,h.cancelled,?_,?_⟩
  · intro hopen
    obtain ⟨h1,h2,h3,h4,h5⟩ := h.early hopen
    exact ⟨by show n = 0; omega,h2,h3,h4,h5⟩
  · exact fun hmain => ⟨(h.left hmain).1,(h.left hmain).2.1,rfl⟩
  · intro hopen
    have := hmost hopen
    simp only [State.signals]
    omega
  · intro hopen
    have := hleast hopen
    simp only [State.signals,State.takes,Ping.takes]
    omega

/-- Where the scanner listens, it is not told to stop. -/
lemma Orderly.undisturbed (h : Orderly limit lines s) (hs : s.listening = true) :
    ¬s.stopReady ∧ s.cancelled = false := by
  have hopen : s.scanner.closed = false := by
    unfold State.listening at hs
    cases hscanner : s.scanner <;> rw [hscanner] at hs <;> first | rfl | contradiction
  obtain ⟨h1,h2,h3,_,_⟩ := h.early hopen
  refine ⟨?_,h3⟩
  unfold State.stopReady
  rw [h1,h2]
  decide

lemma Orderly.step (h : Orderly limit lines s) {m : Move} (hm : m.calm) (hs : step limit s m = some s') :
    Orderly limit lines s' := by
  cases m with
  | scan => exact h.scan hs
  | scanStopped =>
    simp only [StreamScanner.step] at hs
    split_ifs at hs with hready
    exact absurd hready.2 (h.undisturbed hready.1).1
  | scanCancelled =>
    simp only [StreamScanner.step] at hs
    split_ifs at hs with hready
    rw [(h.undisturbed hready.1).2] at hready
    exact absurd hready.2 (by decide)
  | handle => exact h.handle hs
  | main => exact h.main hs
  | pingStopped =>
    simp only [StreamScanner.step] at hs
    split_ifs at hs with hready
    rw [←Option.some.inj hs]
    exact h.ping hready.1 (Nat.sub_le _ _) (Nat.sub_le_iff_le_add.mp (Nat.le_refl _))
  | pingCancelled =>
    simp only [StreamScanner.step] at hs
    split_ifs at hs with hready
    rw [←Option.some.inj hs]
    exact h.ping hready.1 (Nat.le_refl _) (by omega)
  | pingQuits =>
    simp only [StreamScanner.step] at hs
    split_ifs at hs with hready
    rw [←Option.some.inj hs]
    exact h.ping hready (Nat.le_refl _) (by omega)
  | timeout => exact hm.elim
  | clientGone => exact hm.elim
  | handlerStops => exact hm.elim
  | waitExpires => exact hm.elim

/-! ## Runs -/

/-- Along calm runs the ends come in order. -/
lemma orderly_run (pingEnabled : Bool) {moves : List Move} (hmoves : ∀ m∈moves, m.calm) :
    Orderly limit lines ((streamScannerHandler limit).run ⟨initial pingEnabled lines,[]⟩ moves).state := by
  have halways := @TxSystem.always_of_guarded _ _ _ (streamScannerHandler limit)
    (fun c => Orderly limit lines c.state) (fun _ m => m.calm) ⟨initial pingEnabled lines,[]⟩ moves
    (orderly_initial pingEnabled) ?_ (TxSystem.guarded_of_forall (fun m hm _ => hmoves m hm))
  · exact halways.last
  · intro c m s es hc hm hs
    obtain ⟨t,ht,heq⟩ := Option.map_eq_some_iff.mp hs
    rw [←(Prod.mk.inj heq).1]
    exact hc.step hm ht

/-- When the caller returns, everything that is sent has been handled. -/
lemma Orderly.handled (h : Orderly limit lines s) (hmain : s.main = .returned) : s.handled = sent limit lines := by
  obtain ⟨hscanner,hhandler,_⟩ := h.left (.inr hmain)
  have hchan := h.drained (by rcases hhandler with hhandler | hhandler <;> rw [hhandler] <;> rfl)
  have hinHand : s.handler.inHand = [] := by rcases hhandler with hhandler | hhandler <;> rw [hhandler] <;> rfl
  have hpending : s.scanner.pending limit = [] := by
    rcases hscanner with hscanner | hscanner <;> rw [hscanner] <;> rfl
  have hflow := h.flow
  rw [State.flow,hchan,hinHand,hpending,List.append_nil,List.append_nil,List.append_nil] at hflow
  exact hflow

/-! ## Nobody waits for ever -/

def Scanner.work : Scanner → ℕ
  | .reading lines => 6*lines.length+6
  | .checking _ lines => 6*lines.length+11
  | .sending _ lines => 6*lines.length+10
  | .closing => 4
  | .departing => 3
  | .signalling => 2
  | .exited => 1

def Handler.work : Handler → ℕ
  | .waiting => 2
  | .handling _ => 3
  | .signalling => 1
  | .exited => 0

def Main.work : Main → ℕ
  | .waiting => 5
  | .cancelling => 4
  | .signalling => 3
  | .joining => 2
  | .closing => 1
  | .returned => 0

def Ping.work : Ping → ℕ
  | .running => 1
  | .exited => 0

/-- A bound on the steps that are still to be taken. -/
def State.work (s : State) : ℕ := s.scanner.work+2*s.dataChan.length+s.handler.work+s.main.work+s.ping.work

lemma scan_work (hs : StreamScanner.scan limit s = some s') : s'.work < s.work := by
  unfold StreamScanner.scan at hs
  cases hscanner : s.scanner with
  | reading rest =>
    cases rest with
    | nil =>
      simp only [hscanner] at hs
      rw [←Option.some.inj hs]
      simp only [State.work,hscanner,Scanner.work,List.length_nil]
      omega
    | cons line rest =>
      simp only [hscanner] at hs
      split_ifs at hs <;> rw [←Option.some.inj hs] <;>
        simp only [State.work,hscanner,Scanner.work,List.length_cons] <;> omega
  | checking line rest =>
    simp only [hscanner] at hs
    split_ifs at hs
    split at hs <;> rw [←Option.some.inj hs] <;> simp only [State.work,hscanner,Scanner.work] <;> omega
  | sending data rest =>
    simp only [hscanner] at hs
    split_ifs at hs
    rw [←Option.some.inj hs]
    simp only [State.work,hscanner,Scanner.work,List.length_append,List.length_singleton]
    omega
  | closing =>
    simp only [hscanner] at hs
    rw [←Option.some.inj hs]
    simp only [State.work,hscanner,Scanner.work]
    omega
  | departing =>
    simp only [hscanner] at hs
    rw [←Option.some.inj hs]
    simp only [State.work,hscanner,Scanner.work]
    omega
  | signalling =>
    simp only [hscanner] at hs
    obtain ⟨t,ht,rfl⟩ := Option.map_eq_some_iff.mp hs
    obtain ⟨n,rfl,_⟩ := safeSend_eq_some ht
    simp only [State.work,hscanner,Scanner.work]
    omega
  | exited =>
    simp only [hscanner] at hs
    contradiction

lemma handle_work (hs : StreamScanner.handle s = some s') : s'.work < s.work := by
  unfold StreamScanner.handle at hs
  cases hhandler : s.handler with
  | waiting =>
    cases hchan : s.dataChan with
    | cons data rest =>
      simp only [hhandler,hchan] at hs
      rw [←Option.some.inj hs]
      simp only [State.work,hhandler,hchan,Handler.work,List.length_cons]
      omega
    | nil =>
      simp only [hhandler,hchan] at hs
      split_ifs at hs
      rw [←Option.some.inj hs]
      simp only [State.work,hhandler,hchan,Handler.work]
      omega
  | handling data =>
    simp only [hhandler] at hs
    rw [←Option.some.inj hs]
    simp only [State.work,hhandler,Handler.work]
    omega
  | signalling =>
    simp only [hhandler] at hs
    obtain ⟨t,ht,rfl⟩ := Option.map_eq_some_iff.mp hs
    obtain ⟨n,rfl,_⟩ := safeSend_eq_some ht
    simp only [State.work,hhandler,Handler.work]
    omega
  | exited =>
    simp only [hhandler] at hs
    contradiction

lemma main_work (hs : StreamScanner.main s = some s') : s'.work < s.work := by
  unfold StreamScanner.main at hs
  cases hmain : s.main with
  | waiting =>
    simp only [hmain] at hs
    split_ifs at hs
    rw [←Option.some.inj hs]
    simp only [State.work,State.takeStop,hmain,Main.work]
    omega
  | cancelling =>
    simp only [hmain] at hs
    rw [←Option.some.inj hs]
    simp only [State.work,hmain,Main.work]
    omega
  | signalling =>
    simp only [hmain] at hs
    obtain ⟨t,ht,rfl⟩ := Option.map_eq_some_iff.mp hs
    obtain ⟨n,rfl,_⟩ := safeSend_eq_some ht
    simp only [State.work,hmain,Main.work]
    omega
  | joining =>
    simp only [hmain] at hs
    split_ifs at hs
    rw [←Option.some.inj hs]
    simp only [State.work,hmain,Main.work]
    omega
  | closing =>
    simp only [hmain] at hs
    rw [←Option.some.inj hs]
    simp only [State.work,hmain,Main.work]
    omega
  | returned =>
    simp only [hmain] at hs
    contradiction

/-- Every step that is taken is one of finitely many. -/
lemma step_work (h : Orderly limit lines s) {m : Move} (hm : m.calm) (hs : StreamScanner.step limit s m = some s') :
    s'.work < s.work := by
  cases m with
  | scan => exact scan_work hs
  | scanStopped =>
    simp only [StreamScanner.step] at hs
    split_ifs at hs with hready
    exact absurd hready.2 (h.undisturbed hready.1).1
  | scanCancelled =>
    simp only [StreamScanner.step] at hs
    split_ifs at hs with hready
    rw [(h.undisturbed hready.1).2] at hready
    exact absurd hready.2 (by decide)
  | handle => exact handle_work hs
  | main => exact main_work hs
  | pingStopped =>
    simp only [StreamScanner.step] at hs
    split_ifs at hs with hready
    rw [←Option.some.inj hs]
    simp only [State.work,State.takeStop,hready.1,Ping.work]
    omega
  | pingCancelled =>
    simp only [StreamScanner.step] at hs
    split_ifs at hs with hready
    rw [←Option.some.inj hs]
    simp only [State.work,hready.1,Ping.work]
    omega
  | pingQuits =>
    simp only [StreamScanner.step] at hs
    split_ifs at hs with hready
    rw [←Option.some.inj hs]
    simp only [State.work,hready,Ping.work]
    omega
  | timeout => exact hm.elim
  | clientGone => exact hm.elim
  | handlerStops => exact hm.elim
  | waitExpires => exact hm.elim

/-- The stop channel has room for everyone who still has to send. -/
lemma Orderly.safeSend (h : Orderly limit lines s) (hsignals : s.signals<3) : ∃ t, s.safeSend = some t := by
  unfold State.safeSend
  cases hclosed : s.stopClosed with
  | true => exact ⟨s,rfl⟩
  | false =>
    have hmost := h.atMost hclosed
    simp only [Bool.false_eq_true,if_false]
    rw [if_pos (by omega)]
    exact ⟨_,rfl⟩

lemma signals_le (s : State) : s.scanner.signals ≤ 1 ∧ s.handler.signals ≤ 1 ∧ s.main.signals ≤ 1 := by
  refine ⟨?_,?_,?_⟩
  · cases s.scanner <;> simp [Scanner.signals]
  · cases s.handler <;> simp [Handler.signals]
  · cases s.main <;> decide

lemma Orderly.scan_exists (h : Orderly limit lines s) (hscanner : s.scanner≠.exited)
    (hroom : ∀ data rest, s.scanner = .sending data rest → s.dataChan.length<10) :
    ∃ s', StreamScanner.scan limit s = some s' := by
  unfold StreamScanner.scan
  cases hs : s.scanner with
  | reading rest =>
    cases rest with
    | nil => exact ⟨_,rfl⟩
    | cons line rest =>
      dsimp only
      split_ifs
      · exact ⟨_,rfl⟩
      · exact ⟨_,rfl⟩
  | checking line rest =>
    obtain ⟨hready,hcancelled⟩ := h.undisturbed (by unfold State.listening; rw [hs])
    dsimp only
    rw [if_neg (by rw [hcancelled]; simpa using hready)]
    cases readLine line with
    | skip => exact ⟨_,rfl⟩
    | send data => exact ⟨_,rfl⟩
    | done => exact ⟨_,rfl⟩
  | sending data rest =>
    dsimp only
    rw [if_pos (hroom data rest hs)]
    exact ⟨_,rfl⟩
  | closing => exact ⟨_,rfl⟩
  | departing => exact ⟨_,rfl⟩
  | signalling =>
    obtain ⟨_,hh,hm⟩ := signals_le s
    have hs0 : s.scanner.signals = 0 := by rw [hs]; rfl
    obtain ⟨t,ht⟩ := h.safeSend (by unfold State.signals; omega)
    dsimp only
    rw [ht]
    exact ⟨_,rfl⟩
  | exited => exact absurd hs hscanner

lemma Orderly.handle_exists (h : Orderly limit lines s) (hhandler : s.handler≠.exited)
    (hready : s.handler = .waiting → s.dataChan≠[] ∨ s.dataClosed = true) :
    ∃ s', StreamScanner.handle s = some s' := by
  unfold StreamScanner.handle
  cases hh : s.handler with
  | waiting =>
    cases hchan : s.dataChan with
    | cons data rest => exact ⟨_,rfl⟩
    | nil =>
      rcases hready hh with hne | hclosed
      · exact absurd hchan hne
      · dsimp only
        rw [if_pos hclosed]
        exact ⟨_,rfl⟩
  | handling data => exact ⟨_,rfl⟩
  | signalling =>
    obtain ⟨hs,_,hm⟩ := signals_le s
    have hh0 : s.handler.signals = 0 := by rw [hh]; rfl
    obtain ⟨t,ht⟩ := h.safeSend (by unfold State.signals; omega)
    dsimp only
    rw [ht]
    exact ⟨_,rfl⟩
  | exited => exact absurd hh hhandler

/-- When the others have left, one of two stop signals is there for the caller. -/
lemma Orderly.main_exists (h : Orderly limit lines s) (hscanner : s.scanner = .exited) (hhandler : s.handler = .exited)
    (hping : s.main = .joining → s.ping = .exited) (hmain : s.main≠.returned) :
    ∃ s', StreamScanner.main s = some s' := by
  have hs1 : s.scanner.signals = 1 := by rw [hscanner]; rfl
  have hh1 : s.handler.signals = 1 := by rw [hhandler]; rfl
  unfold StreamScanner.main
  cases hm : s.main with
  | waiting =>
    have hopen : s.stopClosed = false := by
      by_contra hc
      exact hmain (h.stopClosed.mp (by simpa using hc))
    have hleast := h.atLeast hopen
    have htakes : s.takes ≤ 1 := by
      unfold State.takes
      rw [hm]
      cases s.ping <;> decide
    dsimp only
    rw [if_pos (by unfold State.signals at hleast; omega)]
    exact ⟨_,rfl⟩
  | cancelling => exact ⟨_,rfl⟩
  | signalling =>
    have hm0 : s.main.signals = 0 := by rw [hm]; rfl
    obtain ⟨t,ht⟩ := h.safeSend (by unfold State.signals; omega)
    dsimp only
    rw [ht]
    exact ⟨_,rfl⟩
  | joining =>
    dsimp only
    rw [if_pos ⟨.inr hscanner,.inr hhandler,hping hm⟩]
    exact ⟨_,rfl⟩
  | closing => exact ⟨_,rfl⟩
  | returned => exact absurd hm hmain

/-- Until the caller has returned, somebody can take a step. -/
lemma Orderly.exists_step (h : Orderly limit lines s) (hmain : s.main≠.returned) :
    ∃ m s', m.calm ∧ StreamScanner.step limit s m = some s' := by
  by_cases hscanner : s.scanner = .exited
  · have hclosed : s.dataClosed = true := by rw [h.closed,hscanner]; rfl
    by_cases hhandler : s.handler = .exited
    · by_cases hping : s.main = .joining ∧ s.ping = .running
      · have hready : s.ping = .running ∧ s.cancelled = true := ⟨hping.2,h.cancelled (.inr (.inl hping.1))⟩
        exact ⟨.pingCancelled,{ s with ping := .exited },trivial,if_pos hready⟩
      · have hexited : s.main = .joining → s.ping = .exited := by
          intro hjoining
          cases hp : s.ping with
          | running => exact absurd ⟨hjoining,hp⟩ hping
          | exited => rfl
        obtain ⟨s',hs'⟩ := h.main_exists hscanner hhandler hexited hmain
        exact ⟨.main,s',trivial,hs'⟩
    · obtain ⟨s',hs'⟩ := h.handle_exists hhandler (fun _ => .inr hclosed)
      exact ⟨.handle,s',trivial,hs'⟩
  · by_cases hfull : ∃ data rest, s.scanner = .sending data rest ∧ ¬s.dataChan.length<10
    · obtain ⟨data,rest,hsending,hfull⟩ := hfull
      have hgone := (h.early (by rw [hsending]; rfl)).2.2.2.2
      have hne : s.dataChan≠[] := by
        intro hnil
        rw [hnil] at hfull
        exact hfull (by decide)
      have hhandler : s.handler≠.exited := by
        intro hexited
        rw [hexited] at hgone
        contradiction
      obtain ⟨s',hs'⟩ := h.handle_exists hhandler (fun _ => .inl hne)
      exact ⟨.handle,s',trivial,hs'⟩
    · have hroom : ∀ data rest, s.scanner = .sending data rest → s.dataChan.length<10 := by
        intro data rest hsending
        by_contra hlength
        exact hfull ⟨data,rest,hsending,hlength⟩
      obtain ⟨s',hs'⟩ := h.scan_exists hscanner hroom
      exact ⟨.scan,s',trivial,hs'⟩

/-- From an orderly state the caller comes to its return. -/
lemma Orderly.returns (h : Orderly limit lines s) : ∃ moves, (∀ m∈moves, m.calm) ∧ ∀ es : List Empty,
    ((streamScannerHandler limit).run ⟨s,es⟩ moves).state.main = .returned := by
  induction hwork : s.work using Nat.strong_induction_on generalizing s with
  | _ n ih =>
    by_cases hmain : s.main = .returned
    · exact ⟨[],by simp,fun _ => hmain⟩
    · obtain ⟨m,s',hm,hs⟩ := h.exists_step hmain
      obtain ⟨moves,hmoves,hreturned⟩ := ih s'.work (hwork ▸ step_work h hm hs) (h.step hm hs) rfl
      refine ⟨m::moves,List.forall_mem_cons.mpr ⟨hm,hmoves⟩,fun es => ?_⟩
      have hstep : (streamScannerHandler limit).step s m = some (s',[]) := by
        show (StreamScanner.step limit s m).map _ = _
        rw [hs]
        rfl
      rw [TxSystem.run,TxSystem.exec_of_some hstep]
      exact hreturned _

end Invariant

/-! ## Payloads -/

/-- A line that ends the stream: a bare marker, or a data line with a marker. -/
def EndMarker (line : String) : Prop :=
  Text.hasPrefix line "[DONE]" = true ∨
    ∃ rest, Text.cutPrefix line "data:" = some rest ∧ Text.hasPrefix (Text.trimSpace rest) "[DONE]" = true

instance (line : String) : Decidable (EndMarker line) :=
  match h : Text.cutPrefix line "data:" with
  | none => decidable_of_iff (Text.hasPrefix line "[DONE]" = true) (by simp [EndMarker,h])
  | some rest =>
    decidable_of_iff (Text.hasPrefix line "[DONE]" = true ∨ Text.hasPrefix (Text.trimSpace rest) "[DONE]" = true)
      (by simp [EndMarker,h])

/-- The trimmed payload of a data line, if it is not empty. -/
def payload? (line : String) : Option String :=
  (Text.cutPrefix line "data:").bind fun rest =>
    if Text.trimSpace rest = "" then none else some (Text.trimSpace rest)

/-- The payloads before the first end marker. -/
def payloads (lines : List String) : List String :=
  (lines.takeWhile (fun line => ¬EndMarker line)).filterMap payload?

/-- The scanner comes to a data line with an end marker, to the last line, or to a line that does not fit its buffer
and is followed by no payload; it does not come to a bare marker. -/
def ReadsToEnd (limit : ℕ) : List String → Prop
  | [] => True
  | line::lines =>
    if limit ≤ line.utf8ByteSize then
      ∀ line'∈((line::lines).map dropCR).takeWhile (fun line => ¬EndMarker line), payload? line' = none
    else Text.hasPrefix (dropCR line) "[DONE]" = false ∧ (EndMarker (dropCR line) ∨ ReadsToEnd limit lines)

section Payloads
variable {limit : ℕ} {line : String} {lines : List String}

lemma afterMark_data (r : String) : afterMark ("data:"++r) = Text.trimSpace r := by
  have hdrop : ("data:"++r).toList.drop 5 = r.toList := by
    rw [String.toList_append]
    rfl
  rw [afterMark,hdrop,String.ofList_toList]

/-- What is cut off a bare marker is taken for a payload. -/
lemma afterMark_bare (r : String) : ∃ l, (afterMark ("[DONE]"++r)).toList = ']'::l := by
  have hdrop : ("[DONE]"++r).toList.drop 5 = ']'::r.toList := by
    rw [String.toList_append]
    rfl
  have hspace : Text.isSpace ']' = false := by decide
  rw [afterMark,hdrop,Text.trimSpace,String.toList_ofList,String.toList_ofList,Text.trimChars,
    List.dropWhile_cons_of_neg (by rw [hspace]; decide),List.reverse_cons]
  cases hl : r.toList.reverse.dropWhile Text.isSpace with
  | nil =>
    rw [List.dropWhile_append,hl]
    exact ⟨[],by simp [hspace]⟩
  | cons c l =>
    rw [List.dropWhile_append,hl]
    exact ⟨(c::l).reverse,by simp⟩

lemma readLine_bare (h : Text.hasPrefix line "[DONE]" = true) : ∃ data, readLine line = .send data := by
  obtain ⟨r,rfl⟩ := Text.hasPrefix_iff.mp h
  obtain ⟨l,hl⟩ := afterMark_bare r
  have hsize : ¬("[DONE]"++r).utf8ByteSize<6 := by
    rw [String.utf8ByteSize_append,show "[DONE]".utf8ByteSize = 6 from rfl]
    omega
  have hne : afterMark ("[DONE]"++r)≠"" := by
    intro hempty
    rw [hempty] at hl
    exact absurd hl (List.cons_ne_nil _ _).symm
  have hmark : ¬Text.hasPrefix (afterMark ("[DONE]"++r)) "[DONE]" = true := by
    unfold Text.hasPrefix
    rw [hl]
    exact fun hprefix => absurd hprefix (by simp)
  refine ⟨afterMark ("[DONE]"++r),?_⟩
  unfold readLine
  rw [if_neg hsize,if_neg (by rw [h]; simp),if_neg hne,if_neg hmark]

/-- Apart from bare markers, lines are read as they should be. -/
lemma readLine_eq (h : Text.hasPrefix line "[DONE]" = false) :
    readLine line = if EndMarker line then .done else
      match payload? line with
      | none => .skip
      | some data => .send data := by
  unfold readLine
  cases hdata : Text.hasPrefix line "data:" with
  | false =>
    have hcut : Text.cutPrefix line "data:" = none := by
      unfold Text.cutPrefix
      exact if_neg (by rw [show "data:".toList.isPrefixOf line.toList = false from hdata]; decide)
    have hmarker : ¬EndMarker line := by simp [EndMarker,h,hcut]
    rw [if_neg hmarker,payload?,hcut]
    by_cases hsize : line.utf8ByteSize<6
    · rw [if_pos hsize]
      rfl
    · rw [if_neg hsize,if_pos ⟨rfl,h⟩]
      rfl
  | true =>
    obtain ⟨r,rfl⟩ := Text.hasPrefix_iff.mp hdata
    have hmarker : EndMarker ("data:"++r) ↔ Text.hasPrefix (Text.trimSpace r) "[DONE]" = true := by
      simp [EndMarker,h,Text.cutPrefix_append]
    rw [payload?,Text.cutPrefix_append,Option.bind_some,afterMark_data]
    by_cases hempty : Text.trimSpace r = ""
    · have hnot : ¬EndMarker ("data:"++r) := by
        rw [hmarker,hempty]
        decide
      rw [if_neg hnot,if_pos hempty,hempty]
      simp
    · have hr : r.utf8ByteSize≠0 := by
        intro hr
        rw [String.utf8ByteSize_eq_zero_iff.mp hr] at hempty
        exact hempty Text.trimSpace_empty
      have hsize : ¬("data:"++r).utf8ByteSize<6 := by
        rw [String.utf8ByteSize_append,show "data:".utf8ByteSize = 5 from rfl]
        omega
      rw [if_neg hsize,if_neg (by simp),if_neg hempty,if_neg hempty]
      exact if_congr hmarker.symm rfl rfl

lemma payloads_cons_marker (h : EndMarker line) : payloads (line::lines) = [] := by
  unfold payloads
  rw [List.takeWhile_cons_of_neg (by simpa using h)]
  rfl

lemma payloads_cons (h : ¬EndMarker line) : payloads (line::lines) = (payload? line).toList++payloads lines := by
  unfold payloads
  rw [List.takeWhile_cons_of_pos (by simpa using h)]
  cases hp : payload? line with
  | none => rw [List.filterMap_cons_none hp]; rfl
  | some data => rw [List.filterMap_cons_some hp]; rfl

/-- The scanner sends what it should exactly where it reads to the end. -/
lemma sent_eq_payloads (lines : List String) :
    sent limit lines = payloads (lines.map dropCR) ↔ ReadsToEnd limit lines := by
  induction lines with
  | nil => exact iff_of_true rfl trivial
  | cons line lines ih =>
    by_cases hlimit : limit ≤ line.utf8ByteSize
    · rw [sent,if_pos hlimit,ReadsToEnd,if_pos hlimit,eq_comm]
      exact List.filterMap_eq_nil_iff
    · rw [sent,if_neg hlimit,ReadsToEnd,if_neg hlimit,List.map_cons]
      cases hbare : Text.hasPrefix (dropCR line) "[DONE]" with
      | true =>
        obtain ⟨data,hdata⟩ := readLine_bare hbare
        rw [hdata,payloads_cons_marker (.inl hbare)]
        exact iff_of_false (List.cons_ne_nil _ _) (fun hc => Bool.false_ne_true hc.1.symm)
      | false =>
        rw [readLine_eq hbare]
        by_cases hmarker : EndMarker (dropCR line)
        · rw [if_pos hmarker,payloads_cons_marker hmarker]
          exact iff_of_true rfl ⟨rfl,.inl hmarker⟩
        · rw [if_neg hmarker,payloads_cons hmarker]
          have hrest : ReadsToEnd limit lines ↔
              false = false ∧ (EndMarker (dropCR line) ∨ ReadsToEnd limit lines) := by
            simp [hmarker]
          rw [←hrest,←ih]
          cases payload? (dropCR line) with
          | none => exact Iff.rfl
          | some data => exact ⟨fun heq => (List.cons.inj heq).2,congrArg (data::·)⟩

end Payloads

/-! ## The whole stream -/

section Stream
variable {limit : ℕ} {lines : List String}

/-- However the goroutines take turns, the handler has seen just the payloads when the caller returns, and the caller
can always come to its return. -/
structure Delivers (limit : ℕ) (lines : List String) : Prop where
  exact : ∀ pingEnabled moves, (∀ m∈moves, Move.calm m) →
    ((streamScannerHandler limit).run ⟨initial pingEnabled lines,[]⟩ moves).state.main = .returned →
      ((streamScannerHandler limit).run ⟨initial pingEnabled lines,[]⟩ moves).state.handled =
        payloads (lines.map dropCR)
  returns : ∀ pingEnabled moves, (∀ m∈moves, Move.calm m) → ∃ moves', (∀ m∈moves', Move.calm m) ∧
    ((streamScannerHandler limit).run ⟨initial pingEnabled lines,[]⟩ (moves++moves')).state.main = .returned

lemma run_returns (pingEnabled : Bool) {moves : List Move} (hmoves : ∀ m∈moves, m.calm) :
    ∃ moves', (∀ m∈moves', m.calm) ∧
      ((streamScannerHandler limit).run ⟨initial pingEnabled lines,[]⟩ (moves++moves')).state.main = .returned := by
  obtain ⟨moves',hmoves',hreturned⟩ := (@orderly_run limit lines pingEnabled _ hmoves).returns
  refine ⟨moves',hmoves',?_⟩
  rw [TxSystem.run_append]
  exact hreturned _

/-- The stream is delivered exactly where the scanner reads to the end. -/
theorem delivers_iff : Delivers limit lines ↔ ReadsToEnd limit lines := by
  rw [←sent_eq_payloads]
  constructor
  · intro h
    obtain ⟨moves,hmoves,hreturned⟩ := @run_returns limit lines false [] (by simp)
    rw [←h.exact false moves hmoves hreturned,(orderly_run false hmoves).handled hreturned]
  · intro h
    refine ⟨?_,fun pingEnabled moves hmoves => run_returns pingEnabled hmoves⟩
    intro pingEnabled moves hmoves hreturned
    rw [(orderly_run pingEnabled hmoves).handled hreturned,h]

/-- A bare marker is handed on without its first five characters. -/
theorem delivers_not_always : ¬∀ limit lines, Delivers limit lines := by
  intro h
  have hdelivers := h 67108864 ["data: a","[DONE]"]
  obtain ⟨moves,hmoves,hreturned⟩ := @run_returns 67108864 ["data: a","[DONE]"] false [] (by simp)
  have hhandled := hdelivers.exact false moves hmoves hreturned
  rw [(orderly_run false hmoves).handled hreturned] at hhandled
  exact absurd hhandled (by decide)

end Stream

end StreamScanner
end Relay
end Tierflow
