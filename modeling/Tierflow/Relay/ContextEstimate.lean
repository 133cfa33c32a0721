import Tierflow.Foundation.Documents
import Tierflow.Relay.SubscriptionGate

/-! The estimate of a request's context. Text counts by its bytes and an attachment by a fixed number of tokens; the
payload of an attachment is taken off the bytes where the walk over the request recognizes it. -/
namespace Tierflow
namespace Relay
namespace RequestText
open Doc (Frame get plug follow)

/-- The fields with the payload of a part. -/
def attachmentPayloadFields : List (List String) :=
  [["image_url","url"],["image_url"],["file","file_data"],["file_data"],["input_audio","data"],["data"],
    ["video_url","url"]]

def stringOf : Doc → Option Literal
  | .literal s => some s
  | _ => none

def itemsOf : Doc → List Doc
  | .array _ items => items
  | _ => []

def isAttachment (part : Doc) : Bool :=
  match (get ["type"] part).bind stringOf with
  | some s => s.text∈attachmentTypes
  | none => false

/-- The string of the first field that has one. -/
def payloadOf (fields : List (List String)) (part : Doc) : Option Literal :=
  fields.findSome? (fun field => (get field part).bind stringOf)

/-- The bytes of the payload and the number of attachments. -/
def partStats (part : Doc) : ℕ × ℕ :=
  if isAttachment part then (((payloadOf attachmentPayloadFields part).map Literal.bytes).getD 0,1) else 0

/-- The sum over the items of the array under a key; nothing if there is none. -/
def sumUnder (key : String) (stats : Doc → ℕ × ℕ) (d : Doc) : ℕ × ℕ :=
  ((((get [key] d).map itemsOf).getD []).map stats).sum

def nonTextPayloadStats (body : Doc) : ℕ × ℕ :=
  sumUnder "messages" (sumUnder "content" partStats) body+sumUnder "input" (sumUnder "content" partStats) body

/-- A third of the bytes of the text, and so many tokens for each attachment. -/
def estimateContextTokens (tokensPerAttachment : ℤ) (body : Doc) : ℤ :=
  let (payloadBytes,attachments) := nonTextPayloadStats body
  ((body.size-payloadBytes)/3 : ℕ)+attachments*tokensPerAttachment

/-! ## The places that are counted -/

/-- The string is that of the first field of an attachment that has one. -/
def CountedInPart (fs : List Frame) : Prop :=
  isAttachment (plug fs (.literal [])) = true ∧
    ∃ earlier field later, attachmentPayloadFields = earlier++field::later ∧ follow field fs = some [] ∧
      ∀ f∈earlier, (get f (plug fs (.literal []))).bind stringOf = none

/-- The place is in an item, where it is counted, of the array under the key. -/
def CountedUnder (key : String) (counted : List Frame → Prop) (fs : List Frame) : Prop :=
  ∃ layout before after rest, follow [key] fs = some (.item layout before after::rest) ∧ counted rest

/-- The payload of a part in a content array of a message or an input item. -/
def Counted (fs : List Frame) : Prop :=
  CountedUnder "messages" (CountedUnder "content" CountedInPart) fs ∨
    CountedUnder "input" (CountedUnder "content" CountedInPart) fs

/-- The place is not that of the type of anything. -/
def NoType (fs : List Frame) : Prop :=
  ∀ layout before key after, [Frame.member layout before key after]<:+fs → key.text≠"type"

/-- What is counted of a string: its bytes, or nothing. -/
def Adds (counted : Prop) (f : Literal → ℕ × ℕ) : Prop :=
  (counted → ∃ q, ∀ s, f s = q+(s.bytes,0)) ∧ (¬counted → ∃ q, ∀ s, f s = q)

section Adds
variable {c c' : Prop} {f g : Literal → ℕ × ℕ} {fs : List Frame}

lemma Adds.of_const (h : ¬c) {q : ℕ × ℕ} (hf : ∀ s, f s = q) : Adds c f :=
  ⟨fun hc => absurd hc h,fun _ => ⟨q,hf⟩⟩

lemma Adds.congr (h : Adds c f) (hc : c' ↔ c) : Adds c' f :=
  ⟨fun hc' => h.1 (hc.mp hc'),fun hc' => h.2 (fun k => hc' (hc.mpr k))⟩

lemma Adds.sum (h : Adds c f) (before after : List (ℕ × ℕ)) : Adds c (fun s => (before++f s::after).sum) := by
  constructor
  · intro hc
    obtain ⟨q,hq⟩ := h.1 hc
    refine ⟨before.sum+q+after.sum,?_⟩
    intro s
    dsimp only
    rw [List.sum_append,List.sum_cons,hq]
    abel
  · intro hc
    obtain ⟨q,hq⟩ := h.2 hc
    refine ⟨before.sum+q+after.sum,?_⟩
    intro s
    dsimp only
    rw [List.sum_append,List.sum_cons,hq]
    abel

lemma Adds.add (hf : Adds c f) (hg : Adds c' g) (hnot : ¬(c ∧ c')) : Adds (c ∨ c') (fun s => f s+g s) := by
  constructor
  · rintro (hc | hc)
    · obtain ⟨q,hq⟩ := hf.1 hc
      obtain ⟨r,hr⟩ := hg.2 (fun hc' => hnot ⟨hc,hc'⟩)
      refine ⟨q+r,fun s => ?_⟩
      dsimp only
      rw [hq,hr]
      abel
    · obtain ⟨q,hq⟩ := hf.2 (fun hc' => hnot ⟨hc',hc⟩)
      obtain ⟨r,hr⟩ := hg.1 hc
      refine ⟨q+r,fun s => ?_⟩
      dsimp only
      rw [hq,hr]
      abel
  · intro hc
    obtain ⟨q,hq⟩ := hf.2 (fun h => hc (.inl h))
    obtain ⟨r,hr⟩ := hg.2 (fun h => hc (.inr h))
    exact ⟨q+r,fun s => congrArg₂ (· + ·) (hq s) (hr s)⟩

/-- A field that does not lead to the place has the same string, whatever is in the place. -/
lemma field_steady {field : List String} (h : follow field fs≠some []) (s : Literal) :
    (get field (plug fs (.literal s))).bind stringOf = (get field (plug fs (.literal []))).bind stringOf := by
  cases hf : follow field fs with
  | none => rw [Doc.get_of_not_follow hf s []]
  | some fs' =>
    rw [Doc.get_of_follow hf,Doc.get_of_follow hf]
    match fs',hf with
    | [],hf => exact absurd hf h
    | .item layout before after::fs',_ => rfl
    | .member layout before key after::fs',_ => rfl

lemma field_of_follow {field : List String} (h : follow field fs = some []) (s : Literal) :
    (get field (plug fs (.literal s))).bind stringOf = some s := by
  rw [Doc.get_of_follow h]
  rfl

/-- Either the fields take their string from the place or they always take the same one. -/
lemma payload_cases (fields : List (List String)) (fs : List Frame) :
    let leads := ∃ earlier field later, fields = earlier++field::later ∧ follow field fs = some [] ∧
      ∀ f∈earlier, (get f (plug fs (.literal []))).bind stringOf = none
    (leads → ∀ s, payloadOf fields (plug fs (.literal s)) = some s) ∧
      (¬leads → ∃ o, ∀ s, payloadOf fields (plug fs (.literal s)) = o) := by
  intro leads
  constructor
  · rintro ⟨earlier,field,later,rfl,hfield,hearlier⟩ s
    have hnone : earlier.findSome? (fun f => (get f (plug fs (.literal s))).bind stringOf) = none := by
      rw [List.findSome?_eq_none_iff]
      intro f hf
      have hsteady : follow f fs≠some [] := by
        intro hlead
        have hsome := field_of_follow hlead []
        rw [hearlier f hf] at hsome
        contradiction
      rw [field_steady hsteady,hearlier f hf]
    unfold payloadOf
    rw [List.findSome?_append,hnone,Option.none_or,List.findSome?_cons,field_of_follow hfield]
  · intro hnot
    induction fields with
    | nil => exact ⟨none,fun _ => rfl⟩
    | cons field fields ih =>
      have hsteady : follow field fs≠some [] :=
        fun hlead => hnot ⟨[],field,fields,rfl,hlead,fun f hf => absurd hf List.not_mem_nil⟩
      cases hfirst : (get field (plug fs (.literal []))).bind stringOf with
      | some v =>
        refine ⟨some v,fun s => ?_⟩
        unfold payloadOf
        rw [List.findSome?_cons,field_steady hsteady,hfirst]
      | none =>
        obtain ⟨o,ho⟩ := ih (by
          rintro ⟨earlier,field',later,rfl,hfield,hearlier⟩
          refine hnot ⟨field::earlier,field',later,rfl,hfield,?_⟩
          intro f hf
          rcases List.mem_cons.mp hf with rfl | hf
          · exact hfirst
          · exact hearlier f hf)
        refine ⟨o,fun s => ?_⟩
        rw [←ho s]
        unfold payloadOf
        rw [List.findSome?_cons,field_steady hsteady,hfirst]

lemma NoType.suffix {fs' : List Frame} (h : NoType fs) (hs : fs'<:+fs) : NoType fs' :=
  fun layout before key after hkey => h layout before key after (hkey.trans hs)

/-- What is in the place does not make an attachment of a part. -/
lemma isAttachment_steady (h : NoType fs) (s : Literal) :
    isAttachment (plug fs (.literal s)) = isAttachment (plug fs (.literal [])) := by
  have hsteady : follow ["type"] fs≠some [] := by
    intro hlead
    match fs with
    | .member layout before key after::fs =>
      rw [follow] at hlead
      split_ifs at hlead with hbefore hkey
      obtain rfl := Option.some.inj hlead
      exact h layout before key after (List.suffix_refl _) hkey
  unfold isAttachment
  rw [field_steady hsteady]

lemma adds_partStats (h : NoType fs) : Adds (CountedInPart fs) (fun s => partStats (plug fs (.literal s))) := by
  obtain ⟨hleads,hnot⟩ := payload_cases attachmentPayloadFields fs
  constructor
  · rintro ⟨hattach,hfield⟩
    refine ⟨(0,1),fun s => ?_⟩
    unfold partStats
    dsimp only
    rw [isAttachment_steady h,hattach,hleads hfield]
    simp
  · intro hc
    cases hattach : isAttachment (plug fs (.literal [])) with
    | false =>
      refine ⟨0,fun s => ?_⟩
      unfold partStats
      dsimp only
      rw [isAttachment_steady h,hattach]
      rfl
    | true =>
      obtain ⟨o,ho⟩ := hnot (fun hfield => hc ⟨hattach,hfield⟩)
      refine ⟨((o.map Literal.bytes).getD 0,1),fun s => ?_⟩
      unfold partStats
      dsimp only
      rw [isAttachment_steady h,hattach,ho s]
      rfl

/-- What is counted of the items is counted of the array, if the place is in it. -/
lemma adds_sumUnder {key : String} {counted : List Frame → Prop} {stats : Doc → ℕ × ℕ}
    (hitems : ∀ rest, rest<:+fs → Adds (counted rest) (fun s => stats (plug rest (.literal s)))) :
    Adds (CountedUnder key counted fs) (fun s => sumUnder key stats (plug fs (.literal s))) := by
  cases hf : follow [key] fs with
  | none =>
    apply Adds.of_const (q := sumUnder key stats (plug fs (.literal [])))
    · rintro ⟨layout,before,after,rest,hlead,-⟩
      rw [hf] at hlead
      contradiction
    · intro s
      unfold sumUnder
      rw [Doc.get_of_not_follow hf s []]
  | some fs' =>
    have hget : ∀ s, sumUnder key stats (plug fs (.literal s)) =
        ((itemsOf (plug fs' (.literal s))).map stats).sum := by
      intro s
      unfold sumUnder
      rw [Doc.get_of_follow hf]
      rfl
    simp only [hget]
    match fs',hf with
    | .item layout before after::rest,hf =>
      have hcounted : CountedUnder key counted fs ↔ counted rest := by
        constructor
        · rintro ⟨layout',before',after',rest',hlead,hc⟩
          rw [hf] at hlead
          obtain ⟨-,rfl⟩ := List.cons.inj (Option.some.inj hlead)
          exact hc
        · exact fun hc => ⟨layout,before,after,rest,hf,hc⟩
      have hrest := hitems rest ((List.suffix_cons _ _).trans (Doc.follow_suffix hf))
      have hsum := (hrest.sum (before.map stats) (after.map stats)).congr hcounted
      have hlist : ∀ s, (itemsOf (plug (.item layout before after::rest) (.literal s))).map stats =
          before.map stats++stats (plug rest (.literal s))::after.map stats := by
        intro s
        rw [plug,itemsOf,List.map_append,List.map_cons]
      simp only [hlist]
      exact hsum
    | [],hf =>
      apply Adds.of_const (q := 0)
      · rintro ⟨layout,before,after,rest,hlead,-⟩
        rw [hf] at hlead
        cases Option.some.inj hlead
      · exact fun _ => rfl
    | .member layout before k after::rest,hf =>
      apply Adds.of_const (q := 0)
      · rintro ⟨layout',before',after',rest',hlead,-⟩
        rw [hf] at hlead
        cases (List.cons.inj (Option.some.inj hlead)).1
      · exact fun _ => rfl

lemma key_of_follow {key : String} {fs' : List Frame} (h : follow [key] fs = some fs') :
    ∃ layout before k after, fs = .member layout before k after::fs' ∧ k.text = key := by
  match fs with
  | .member layout before k after::fs =>
    rw [follow] at h
    split_ifs at h with hbefore hkey
    obtain rfl := Option.some.inj h
    exact ⟨layout,before,k,after,rfl,hkey⟩

lemma adds_nonTextPayloadStats (h : NoType fs) :
    Adds (Counted fs) (fun s => nonTextPayloadStats (plug fs (.literal s))) := by
  have hroot : ∀ root, Adds (CountedUnder root (CountedUnder "content" CountedInPart) fs)
      (fun s => sumUnder root (sumUnder "content" partStats) (plug fs (.literal s))) := by
    intro root
    apply adds_sumUnder
    intro rest hrest
    apply adds_sumUnder
    intro part hpart
    exact adds_partStats (h.suffix (hpart.trans hrest))
  apply (hroot "messages").add (hroot "input")
  rintro ⟨⟨_,_,_,_,hmessages,-⟩,⟨_,_,_,_,hinput,-⟩⟩
  obtain ⟨_,_,k,_,hfs,hk⟩ := key_of_follow hmessages
  obtain ⟨_,_,k',_,hfs',hk'⟩ := key_of_follow hinput
  rw [hfs] at hfs'
  obtain ⟨hmember,-⟩ := List.cons.inj hfs'
  obtain ⟨-,-,rfl,-⟩ := Frame.member.inj hmember
  rw [hk] at hk'
  exact absurd hk' (by decide)

end Adds

/-- What is in a place of a request leaves the estimate alone, among strings with as many bytes of escapes, exactly if
the place is one that the walk counts. -/
theorem attachment_ignored_iff (tokensPerAttachment : ℤ) (fs : List Frame) (h : NoType fs) :
    (∀ s s' : Literal, s.escapes = s'.escapes → estimateContextTokens tokensPerAttachment (plug fs (.literal s)) =
      estimateContextTokens tokensPerAttachment (plug fs (.literal s'))) ↔ Counted fs := by
  obtain ⟨n,hn⟩ := Doc.exists_size_plug fs
  have hsize : ∀ s : Literal, (plug fs (.literal s)).size = n+(s.bytes+s.escapes+2) := by
    intro s
    rw [hn,Doc.size,s.spelled_eq]
  obtain ⟨hcounted,hnot⟩ := adds_nonTextPayloadStats h
  dsimp only at hcounted hnot
  constructor
  · intro hall
    by_contra hc
    obtain ⟨q,hq⟩ := hnot hc
    have heq := hall (.letters q.1) (.letters (q.1+3)) (by rw [Literal.escapes_letters,Literal.escapes_letters])
    unfold estimateContextTokens at heq
    rw [hq,hq,hsize,hsize,Literal.bytes_letters,Literal.bytes_letters,Literal.escapes_letters,
      Literal.escapes_letters] at heq
    dsimp only at heq
    omega
  · intro hc s s' hescapes
    obtain ⟨q,hq⟩ := hcounted hc
    have hbytes : n+(s.bytes+s.escapes+2)-(q.1+s.bytes) = n+(s'.bytes+s'.escapes+2)-(q.1+s'.bytes) := by omega
    unfold estimateContextTokens
    rw [hq,hq,hsize,hsize]
    dsimp only [Prod.fst_add,Prod.snd_add]
    rw [hbytes]

/-! ## The request as the gate sees it -/

/-- The type of a part and those of the payload fields that have a string. -/
def contentPart (part : Doc) : ContentPart where
  type := (((get ["type"] part).bind stringOf).map Literal.text).getD ""
  fields := attachmentPayloadFields.filterMap (fun field =>
    ((get field part).bind stringOf).map (fun s => (".".intercalate field,s.text)))

/-- A content without an array is one without parts. -/
def messageContent (message : Doc) : MessageContent :=
  .parts ((((get ["content"] message).map itemsOf).getD []).map contentPart)

def requestBody (body : Doc) : RequestBody where
  size := body.size
  messages := (get ["messages"] body).map (fun d => (itemsOf d).map messageContent)
  input := (get ["input"] body).map (fun d => (itemsOf d).map messageContent)

section Gate

lemma utf8ByteSize_text (s : Literal) : s.text.utf8ByteSize = s.bytes := by
  unfold Literal.text Literal.bytes
  induction s with
  | nil => rfl
  | cons c s ih =>
    rw [List.map_cons,List.map_cons,List.sum_cons,String.ofList_cons,String.utf8ByteSize_append,ih,
      String.utf8ByteSize_singleton]

/-- A table of the names that have a value is searched as the values themselves are. -/
lemma findSome_lookup {α β : Type} (name : α → String) (value : α → Option β) {l : List α}
    (h : (l.map name).Nodup) :
    (l.map name).findSome? (fun n => (l.filterMap (fun a => (value a).map (fun b => (name a,b)))).lookup n) =
      l.findSome? value := by
  have hlookup : ∀ l' : List α, (l'.map name).Nodup → ∀ a∈l',
      (l'.filterMap (fun a => (value a).map (fun b => (name a,b)))).lookup (name a) = value a := by
    intro l' hl'
    induction l' with
    | nil => exact fun a ha => absurd ha List.not_mem_nil
    | cons c l' ih =>
      rw [List.map_cons,List.nodup_cons] at hl'
      intro a ha
      rcases List.mem_cons.mp ha with rfl | hmem
      · cases hv : value a with
        | some b => simp [hv]
        | none =>
          simp only [List.filterMap_cons,hv,Option.map_none]
          rw [List.lookup_eq_none_iff]
          intro p hp
          obtain ⟨a',ha',hp'⟩ := List.mem_filterMap.mp hp
          obtain ⟨b,-,rfl⟩ := Option.map_eq_some_iff.mp hp'
          have hne : name a≠name a' := fun heq => hl'.1 (heq ▸ List.mem_map_of_mem ha')
          simpa using hne
      · have hne : name a≠name c := fun heq => hl'.1 (heq ▸ List.mem_map_of_mem hmem)
        cases hv : value c with
        | some b =>
          simp only [List.filterMap_cons,hv,Option.map_some,List.lookup_cons,beq_eq_false_iff_ne.mpr hne]
          exact ih hl'.2 a hmem
        | none =>
          simp only [List.filterMap_cons,hv,Option.map_none]
          exact ih hl'.2 a hmem
  rw [List.findSome?_map,←List.head?_filterMap,←List.head?_filterMap]
  congr 1
  apply List.filterMap_congr
  intro a ha
  exact hlookup l h a ha

lemma payload_contentPart (part : Doc) :
    (contentPart part).payload = ((payloadOf attachmentPayloadFields part).map Literal.bytes).getD 0 := by
  have hnames : Relay.attachmentPayloadFields = attachmentPayloadFields.map (".".intercalate) := by decide
  have hsearch := findSome_lookup (".".intercalate)
    (fun field => ((get field part).bind stringOf).map Literal.text) (l := attachmentPayloadFields) (by decide)
  have hmap : attachmentPayloadFields.findSome? (fun field => ((get field part).bind stringOf).map Literal.text) =
      (payloadOf attachmentPayloadFields part).map Literal.text := List.map_findSome?.symm
  simp only [Option.map_map] at hsearch
  rw [hmap] at hsearch
  unfold ContentPart.payload
  rw [hnames]
  apply (congrArg (fun o : Option String => (o.map String.utf8ByteSize).getD 0) hsearch).trans
  rw [Option.map_map]
  congr 2
  funext s
  exact utf8ByteSize_text s

lemma isAttachment_contentPart (part : Doc) :
    isAttachment part = decide ((contentPart part).type∈attachmentTypes) := by
  unfold isAttachment contentPart
  dsimp only
  cases (get ["type"] part).bind stringOf with
  | some s => rfl
  | none => exact (decide_eq_false (by decide)).symm

/-- The bytes and the number of some parts. -/
def partsStats (l : List ContentPart) : ℕ × ℕ := ((l.map ContentPart.payload).sum,l.length)

lemma partsStats_append (l m : List ContentPart) : partsStats (l++m) = partsStats l+partsStats m := by
  unfold partsStats
  rw [List.map_append,List.sum_append,List.length_append,Prod.mk_add_mk]

lemma partsStats_parts (ps : List Doc) :
    partsStats ((ps.map contentPart).filter (fun p => p.type∈attachmentTypes)) = (ps.map partStats).sum := by
  induction ps with
  | nil => rfl
  | cons part ps ih =>
    have hpart : partsStats ([contentPart part].filter (fun p => p.type∈attachmentTypes)) = partStats part := by
      unfold partStats
      rw [List.filter_singleton,←isAttachment_contentPart]
      cases isAttachment part with
      | true =>
        change ((contentPart part).payload+0,1) = _
        rw [payload_contentPart]
        rfl
      | false => rfl
    rw [List.map_cons,List.map_cons,List.sum_cons,←ih,←hpart,←partsStats_append,←List.filter_append]
    rfl

lemma partsStats_messages (ds : List Doc) :
    partsStats ((ds.map messageContent).flatMap (fun
      | .text => []
      | .parts l => l.filter (fun p => p.type∈attachmentTypes))) = (ds.map (sumUnder "content" partStats)).sum := by
  induction ds with
  | nil => rfl
  | cons d ds ih =>
    rw [List.map_cons,List.map_cons,List.sum_cons,List.flatMap_cons,partsStats_append,ih]
    congr 1
    exact partsStats_parts _

/-- The gate's estimate of a request is that of its text. -/
theorem estimateContextTokens_requestBody (cfg : GateSettings) (body : Doc) :
    Relay.estimateContextTokens cfg (requestBody body) = estimateContextTokens cfg.tokensPerAttachment body := by
  have hlist : ∀ key, ((get [key] body).map (fun d => (itemsOf d).map messageContent)).getD [] =
      (((get [key] body).map itemsOf).getD []).map messageContent := by
    intro key
    cases get [key] body with
    | some d => rfl
    | none => rfl
  have hstats : partsStats (attachments (requestBody body)) = nonTextPayloadStats body := by
    unfold attachments requestBody nonTextPayloadStats
    dsimp only
    rw [List.flatMap_append,partsStats_append,hlist,hlist]
    exact congrArg₂ (·+·) (partsStats_messages _) (partsStats_messages _)
  unfold Relay.estimateContextTokens estimateContextTokens
  rw [←hstats]
  rfl

end Gate

/-! ## An image in two formats -/

/-- `{"type":"image_url","image_url":{"url":…}}` -/
def chatImage : List Frame := [.member 2 [] (.plain "messages") [],.item 2 [] [],.member 2 [] (.plain "content") [],
  .item 2 [] [],.member 2 [(.plain "type",.literal (.plain "image_url"))] (.plain "image_url") [],
  .member 2 [] (.plain "url") []]

/-- `{"type":"image","source":{"type":"base64","data":…}}` -/
def claudeImage : List Frame := [.member 2 [] (.plain "messages") [],.item 2 [] [],.member 2 [] (.plain "content") [],
  .item 2 [] [],.member 2 [(.plain "type",.literal (.plain "image"))] (.plain "source") [],
  .member 2 [(.plain "type",.literal (.plain "base64"))] (.plain "data") []]

theorem attachment_ignored_chatImage : estimateContextTokens 1500 (plug chatImage (.literal (.letters 3000000))) =
    estimateContextTokens 1500 (plug chatImage (.literal (.letters 3))) := by
  apply (attachment_ignored_iff 1500 chatImage ?_).mpr ?_ _ _ ?_
  · intro layout before key after ⟨steps,hsteps⟩
    have hlast : some (Frame.member layout before key after) = some (.member 2 [] (.plain "url") []) := by
      rw [←List.getLast?_concat,hsteps]
      rfl
    obtain ⟨-,-,rfl,-⟩ := Frame.member.inj (Option.some.inj hlast)
    decide
  · exact .inl ⟨_,_,_,_,rfl,_,_,_,_,rfl,by decide,[],["image_url","url"],_,rfl,rfl,
      fun f hf => absurd hf List.not_mem_nil⟩
  · rw [Literal.escapes_letters,Literal.escapes_letters]

/-- The image of another format is counted as text. -/
theorem claudeImage_counts_as_text :
    ¬∀ s s' : Literal, s.escapes = s'.escapes → estimateContextTokens 1500 (plug claudeImage (.literal s)) =
      estimateContextTokens 1500 (plug claudeImage (.literal s')) := by
  intro h
  have heq := h (.letters 0) (.letters 3) (by rw [Literal.escapes_letters,Literal.escapes_letters])
  revert heq
  decide

end RequestText
end Relay
end Tierflow
