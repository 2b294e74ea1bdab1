import Mathlib.Data.List.TakeDrop
import Mathlib.Data.List.TakeWhile
import RavenBinding.Proofs.Http.PlainHost
import RavenBinding.Proofs.Store.Provenance

/-!
# The precondition of a write

A write of a document sends its metadata as headers and the expected etag as the precondition. The
names of headers are the same in any case, but the metadata are a map whose names are told apart by
case: an entry for the precondition that is spelled in another way is sent beside the etag, and
without an etag every such entry makes the write conditional. All other entries are sent with their
own values, except that credentials of the URL take the place of those of the metadata.

## Main definitions

- `Headers.valuesOf`: the values of all headers of a name in any case
- `Request.CarriesAsAsked`: the precondition is the etag, and all other metadata are sent

## Main statements

- `Session.valuesOf_completeHeaders`: what a request makes of the headers that it is given
- `StoreCall.valuesOf_of_put`: the headers of a write
- `StoreCall.put_carries_as_asked_iff`: which writes are conditional as asked
-/

namespace RavenBinding

namespace Headers

/-- The values of the headers of a name in any case, in order. -/
def valuesOf (headers : Headers) (name : Text) : List Text :=
  (headers.filter fun h => h.1.toLowerAscii == name.toLowerAscii).map Prod.snd

/-- All names are in lower case. -/
def IsLower (headers : Headers) : Prop := ∀ h ∈ headers, h.1.toLowerAscii = h.1

variable {headers before after : Headers} {name key value : Text}

theorem valuesOf_append (before after : Headers) (name : Text) :
    valuesOf (before ++ after) name = valuesOf before name ++ valuesOf after name := by
  rw [valuesOf, List.filter_append, List.map_append]
  rfl

theorem valuesOf_cons_of_eq (h : key.toLowerAscii = name.toLowerAscii) (value : Text)
    (headers : Headers) :
    valuesOf ((key, value) :: headers) name = value :: valuesOf headers name := by
  rw [valuesOf, List.filter_cons_of_pos (by simpa using h)]
  rfl

theorem valuesOf_cons_of_ne (h : key.toLowerAscii ≠ name.toLowerAscii) (value : Text)
    (headers : Headers) : valuesOf ((key, value) :: headers) name = valuesOf headers name := by
  rw [valuesOf, List.filter_cons_of_neg (by simpa using h)]
  rfl

theorem valuesOf_eq_nil_iff :
    valuesOf headers name = [] ↔ ∀ h ∈ headers, h.1.toLowerAscii ≠ name.toLowerAscii := by
  rw [valuesOf, List.map_eq_nil_iff, List.filter_eq_nil_iff]
  simp only [beq_iff_eq, ne_eq]

theorem valuesOf_congr {other : Text} (h : name.toLowerAscii = other.toLowerAscii)
    (headers : Headers) : valuesOf headers name = valuesOf headers other := by
  rw [valuesOf, h]
  rfl

/-- A header of another name makes no difference. -/
theorem valuesOf_insert_of_ne (h : key.toLowerAscii ≠ name.toLowerAscii) (value : Text)
    (before after : Headers) :
    valuesOf (before ++ (key, value) :: after) name = valuesOf (before ++ after) name := by
  rw [valuesOf_append, valuesOf_append, valuesOf_cons_of_ne h]

/-- Leaving headers of another name out makes no difference. -/
theorem valuesOf_filter_of_ne (h : key.toLowerAscii ≠ name.toLowerAscii) (headers : Headers) :
    valuesOf (headers.filter fun e => e.1 != key) name = valuesOf headers name := by
  rw [valuesOf, List.filter_filter, valuesOf]
  refine congrArg (List.map Prod.snd) (List.filter_congr fun e _ => ?_)
  by_cases he : e.1 = key
  · rw [he, beq_eq_false_iff_ne.2 h, Bool.false_and]
  · rw [bne_iff_ne.2 he, Bool.and_true]

end Headers

namespace Session

open Headers

variable {headers given shown : Headers} {name key value : Text}

/-! ### What is done with the headers of a request -/

/-- Headers are written with their names in lower case. -/
theorem eq_of_encodeHeaders (h : encodeHeaders headers = .ok given) :
    given = headers.map fun e => (e.1.toLowerAscii, e.2) := by
  induction headers generalizing given with
  | nil => exact (Except.ok.inj h).symm
  | cons e headers ih =>
    obtain ⟨_, -, h⟩ := Attempt.bind_eq_ok_iff.1 h
    obtain ⟨_, -, h⟩ := Attempt.bind_eq_ok_iff.1 h
    obtain ⟨others, hothers, h⟩ := Attempt.bind_eq_ok_iff.1 h
    rw [← Except.ok.inj h, ih hothers]
    rfl

theorem isLower_of_encodeHeaders (h : encodeHeaders headers = .ok given) : IsLower given := by
  rw [eq_of_encodeHeaders h]
  intro e he
  obtain ⟨e, -, rfl⟩ := List.mem_map.1 he
  exact Text.toLowerAscii_toLowerAscii e.1

theorem valuesOf_of_encodeHeaders (h : encodeHeaders headers = .ok given) (name : Text) :
    valuesOf given name = valuesOf headers name := by
  rw [eq_of_encodeHeaders h, valuesOf, valuesOf, List.filter_map, List.map_map]
  simp only [Function.comp_def, Text.toLowerAscii_toLowerAscii]

/-- The names of the headers that a request gets only if they are missing. -/
def fallbackNames : List Text := ["cookie", "content-type", "host"].map Text.ofString

/-- The headers of a name are those that are given: there are some, or none is added. -/
def KeepsGiven (headers : Headers) (name : Text) : Prop :=
  valuesOf headers name ≠ [] ∨ name.toLowerAscii ∉ fallbackNames

/-- A header that is added only if it is missing has another name than those that are kept. -/
theorem KeepsGiven.ne (h : KeepsGiven headers name) (hlower : IsLower headers)
    (hkey : key ∈ fallbackNames) (hmissing : hasHeader headers key = false) :
    key.toLowerAscii ≠ name.toLowerAscii := by
  intro heq
  have hkeylower : ∀ key ∈ fallbackNames, key.toLowerAscii = key := by decide
  have hname : name.toLowerAscii = key := by rw [← heq, hkeylower key hkey]
  have hfound := h.resolve_right fun hnot => hnot (hname ▸ hkey)
  obtain ⟨e, he, hlow⟩ : ∃ e ∈ headers, e.1.toLowerAscii = name.toLowerAscii := by
    by_contra hnone
    exact hfound (valuesOf_eq_nil_iff.2 fun e he hlow => hnone ⟨e, he, hlow⟩)
  have hhas : hasHeader headers key = true :=
    List.any_eq_true.2 ⟨e, he, by rw [← hlower e he, hlow, hname]; exact BEq.rfl⟩
  rw [hmissing] at hhas
  cases hhas

/-- Cookies are added behind the headers, unless there are some. -/
theorem cases_of_withCookies {session : Session} {url : Url}
    (h : session.withCookies url given = .ok shown) :
    shown = given ∨ hasHeader given (Text.ofString "cookie") = false ∧
      ∃ value, shown = given ++ [(Text.ofString "cookie", value)] := by
  rw [withCookies] at h
  split at h
  · exact Or.inl (Except.ok.inj h).symm
  · obtain ⟨origin, -, h⟩ := Attempt.bind_eq_ok_iff.1 h
    cases hcookies : session.cookies.header? origin with
    | none =>
      simp only [hcookies] at h
      exact Or.inl (Except.ok.inj h).symm
    | some value =>
      simp only [hcookies] at h
      obtain rfl := Except.ok.inj h
      cases hhas : hasHeader given (Text.ofString "cookie") with
      | true => exact Or.inl rfl
      | false => exact Or.inr ⟨rfl, value, rfl⟩

theorem isLower_append_singleton (h : IsLower headers) (hkey : key.toLowerAscii = key)
    (value : Text) : IsLower (headers ++ [(key, value)]) := by
  intro e he
  rcases List.mem_append.1 he with he | he
  · exact h e he
  · rw [List.mem_singleton.1 he]
    exact hkey

theorem valuesOf_of_withCookies {session : Session} {url : Url}
    (h : session.withCookies url given = .ok shown) (hlower : IsLower given)
    (hkeeps : KeepsGiven given name) :
    IsLower shown ∧ valuesOf shown name = valuesOf given name := by
  rcases cases_of_withCookies h with rfl | ⟨hmissing, value, rfl⟩
  · exact ⟨hlower, rfl⟩
  · refine ⟨isLower_append_singleton hlower (by decide) value, ?_⟩
    rw [valuesOf_insert_of_ne (hkeeps.ne hlower (by decide) hmissing), List.append_nil]

theorem setHeader_eq (headers : Headers) (key value : Text) :
    (hasHeader headers key = false ∧ setHeader headers key value = headers ++ [(key, value)]) ∨
      ∃ before old after, headers = before ++ (key, old) :: after ∧ hasHeader before key = false ∧
        setHeader headers key value =
          before ++ (key, value) :: after.filter fun e => e.1 != key := by
  have hsplit : headers = (headers.takeWhile fun e => e.1 != key) ++
      headers.dropWhile fun e => e.1 != key := (List.takeWhile_append_dropWhile).symm
  have hbefore : hasHeader (headers.takeWhile fun e => e.1 != key) key = false := by
    refine List.any_eq_false.2 fun e he => ?_
    simpa using List.mem_takeWhile_imp he
  rw [setHeader, List.span_eq_takeWhile_dropWhile]
  cases hdrop : headers.dropWhile fun e => e.1 != key with
  | nil =>
    rw [hdrop, List.append_nil] at hsplit
    rw [← hsplit] at hbefore ⊢
    exact Or.inl ⟨hbefore, rfl⟩
  | cons found after =>
    rw [hdrop] at hsplit
    have hfound : found.1 = key := by
      have hstop := List.head?_dropWhile_not (fun e : Text × Text => e.1 != key) headers
      rw [hdrop] at hstop
      simpa using hstop
    exact Or.inr ⟨_, found.2, after, hfound ▸ hsplit, hbefore, rfl⟩

/-- A header that is set is the only one of its name. -/
theorem valuesOf_setHeader_self (hlower : IsLower headers) (hkey : key.toLowerAscii = key)
    (value : Text) : valuesOf (setHeader headers key value) key = [value] := by
  have hnone : ∀ {part : Headers}, (∀ e ∈ part, e ∈ headers) → hasHeader part key = false →
      valuesOf part key = [] := by
    intro part hpart hmissing
    refine valuesOf_eq_nil_iff.2 fun e he heq => ?_
    rw [hlower e (hpart e he), hkey] at heq
    exact absurd (beq_iff_eq.2 heq) (List.any_eq_false.1 hmissing e he)
  rcases setHeader_eq headers key value with
    ⟨hmissing, hset⟩ | ⟨before, old, after, hheaders, hmissing, hset⟩
  · rw [hset, valuesOf_append, hnone (fun _ he => he) hmissing, valuesOf_cons_of_eq rfl]
    rfl
  · have hrest : hasHeader (after.filter fun e => e.1 != key) key = false := by
      refine List.any_eq_false.2 fun e he => ?_
      simpa using (List.mem_filter.1 he).2
    rw [hset, valuesOf_append, valuesOf_cons_of_eq rfl, hnone _ hmissing, hnone _ hrest]
    · rfl
    · intro e he
      rw [hheaders]
      exact List.mem_append_right _ (List.mem_cons_of_mem _ (List.mem_filter.1 he).1)
    · intro e he
      rw [hheaders]
      exact List.mem_append_left _ he

theorem valuesOf_setHeader_of_ne (h : key.toLowerAscii ≠ name.toLowerAscii) (headers : Headers)
    (value : Text) : valuesOf (setHeader headers key value) name = valuesOf headers name := by
  rcases setHeader_eq headers key value with ⟨-, hset⟩ | ⟨before, old, after, rfl, -, hset⟩
  · rw [hset, valuesOf_insert_of_ne h, List.append_nil]
  · rw [hset, valuesOf_insert_of_ne h, valuesOf_insert_of_ne h, valuesOf_append, valuesOf_append,
      valuesOf_filter_of_ne h]

/-- The headers with the type of the content. -/
def withType (given : Headers) (hasContent : Bool) : Headers :=
  if hasContent && !hasHeader given (Text.ofString "content-type") then
    given ++ [(Text.ofString "content-type", Text.ofString "application/json")]
  else given

/-- Headers with the host in front, unless it was given. -/
def withHost (url : Url) (given typed : Headers) : Headers :=
  if hasHeader given (Text.ofString "host") || url.host.isEmpty then typed
  else (Text.ofString "host", url.netloc) :: typed

theorem completeHeaders_eq (url : Url) (given : Headers) (hasContent : Bool) :
    completeHeaders url given hasContent =
      match credentials? url with
      | none => withHost url given (withType given hasContent)
      | some value => setHeader (withHost url given (withType given hasContent))
          (Text.ofString "authorization") value := rfl

theorem valuesOf_withType (hlower : IsLower given) (hkeeps : KeepsGiven given name)
    (hasContent : Bool) :
    IsLower (withType given hasContent) ∧
      valuesOf (withType given hasContent) name = valuesOf given name := by
  rw [withType]
  split
  · next h =>
    have hmissing : hasHeader given (Text.ofString "content-type") = false := by
      simpa using (Bool.and_eq_true_iff.1 h).2
    refine ⟨isLower_append_singleton hlower (by decide) _, ?_⟩
    rw [valuesOf_insert_of_ne (hkeeps.ne hlower (by decide) hmissing), List.append_nil]
  · exact ⟨hlower, rfl⟩

theorem valuesOf_withHost {typed : Headers} (hlower : IsLower given)
    (hkeeps : KeepsGiven given name) (htyped : IsLower typed) (url : Url) :
    IsLower (withHost url given typed) ∧
      valuesOf (withHost url given typed) name = valuesOf typed name := by
  rw [withHost]
  split
  · exact ⟨htyped, rfl⟩
  · next h =>
    have hmissing : hasHeader given (Text.ofString "host") = false := by
      rw [Bool.not_eq_true, Bool.or_eq_false_iff] at h
      exact h.1
    refine ⟨fun e he => ?_, valuesOf_cons_of_ne (hkeeps.ne hlower (by decide) hmissing) _ _⟩
    rcases List.mem_cons.1 he with rfl | he
    · show Text.toLowerAscii (Text.ofString "host") = Text.ofString "host"
      decide
    · exact htyped e he

/-- A request keeps the headers that it is given and adds others only where they are missing, but
credentials of the URL take the place of given ones. -/
theorem valuesOf_completeHeaders (hlower : IsLower given) (hkeeps : KeepsGiven given name)
    (url : Url) (hasContent : Bool) :
    valuesOf (completeHeaders url given hasContent) name =
      match credentials? url with
      | none => valuesOf given name
      | some value =>
        if name.toLowerAscii = Text.ofString "authorization" then [value]
        else valuesOf given name := by
  obtain ⟨htyped, htypedvalues⟩ := valuesOf_withType hlower hkeeps hasContent
  obtain ⟨hhosted, hhostedvalues⟩ := valuesOf_withHost hlower hkeeps htyped url
  have hkey : (Text.ofString "authorization").toLowerAscii = Text.ofString "authorization" := by
    decide
  rw [completeHeaders_eq]
  cases credentials? url with
  | none => exact hhostedvalues.trans htypedvalues
  | some value =>
    dsimp only
    split
    · next hname =>
      rw [valuesOf_congr (hname.trans hkey.symm), valuesOf_setHeader_self hhosted hkey]
    · next hname =>
      rw [valuesOf_setHeader_of_ne (by rw [hkey]; exact fun h => hname h.symm), hhostedvalues,
        htypedvalues]

end Session

/-! ### Writes -/

namespace StoreCall

open Headers

variable {call : StoreCall} {s : Store} {w : World} {request : Request} {key name : Text}
  {etag : Option Text} {document : Value} {metadata : FieldMap Text Text}

/-- A request that a call sends is what its session builds of its question. -/
theorem exists_of_sent (h : (call.perform.exec s w).2.sent = request :: w.sent) :
    ∃ session ask, s.session = some session ∧ call.ask? s = .ok ask ∧
      session.request ask = .ok request := by
  rw [sent_perform] at h
  cases hsent : call.sent? s with
  | none =>
    rw [hsent] at h
    exact absurd h.symm (List.cons_ne_self request w.sent)
  | some sent =>
    rw [hsent] at h
    obtain ⟨hrequest, -⟩ := List.cons.inj h
    obtain ⟨ask, hask, hsent⟩ := Option.bind_eq_some_iff.1 hsent
    obtain ⟨session, hs, hsent⟩ := Option.bind_eq_some_iff.1 hsent
    obtain ⟨built, hbuilt, hsent⟩ := Option.bind_eq_some_iff.1 hsent
    obtain rfl := Option.some.inj hsent
    obtain rfl : built = request := hrequest
    exact ⟨session, ask, hs, Attempt.toOption_eq_some_iff.1 hask,
      Attempt.toOption_eq_some_iff.1 hbuilt⟩

/-- The headers of a write are the metadata with the precondition, unless credentials of the URL
take the place of some of them. -/
theorem valuesOf_of_put
    (h : ((put key etag document metadata).perform.exec s w).2.sent = request :: w.sent)
    (hkeeps : Session.KeepsGiven (headersOf etag metadata) name) :
    valuesOf request.headers name =
      match Session.credentials? request.url with
      | none => valuesOf (headersOf etag metadata) name
      | some value =>
        if name.toLowerAscii = Text.ofString "authorization" then [value]
        else valuesOf (headersOf etag metadata) name := by
  obtain ⟨session, ask, -, hask, hrequest⟩ := exists_of_sent h
  obtain ⟨path, rfl⟩ := DocumentExchange.exists_path hask
  obtain ⟨url, given, shown, body, -, hgiven, hshown, -, -, rfl⟩ :=
    (Session.request_eq_ok_iff rfl).1 hrequest
  have hgivenvalues := Session.valuesOf_of_encodeHeaders hgiven
  have hgivenkeeps : Session.KeepsGiven given name := by
    rw [Session.KeepsGiven, hgivenvalues]
    exact hkeeps
  obtain ⟨hlower, hshownvalues⟩ := Session.valuesOf_of_withCookies hshown
    (Session.isLower_of_encodeHeaders hgiven) hgivenkeeps
  have hshownkeeps : Session.KeepsGiven shown name := by
    rw [Session.KeepsGiven, hshownvalues]
    exact hgivenkeeps
  have hcomplete := Session.valuesOf_completeHeaders hlower hshownkeeps url true
  rw [hshownvalues, hgivenvalues] at hcomplete
  exact hcomplete

/-! ### The precondition among the metadata -/

/-- An entry of the metadata is for the precondition, in any case. -/
def IsPrecondition (name : Text) : Prop :=
  name.toLowerAscii = Store.preconditionHeader.toLowerAscii

instance (name : Text) : Decidable (IsPrecondition name) := inferInstanceAs (Decidable (_ = _))

theorem valuesOf_headersOf_of_ne (h : ¬IsPrecondition name) :
    valuesOf (headersOf etag metadata) name = valuesOf metadata name := by
  cases etag with
  | none => rfl
  | some etag =>
    have hne : (Store.preconditionHeader.toLowerAscii == name.toLowerAscii) = false :=
      beq_eq_false_iff_ne.2 fun heq => h heq.symm
    have hfilter := FieldMap.filter_insert (fun key => key.toLowerAscii == name.toLowerAscii)
      metadata Store.preconditionHeader etag
    rw [if_neg (by rw [hne]; exact Bool.false_ne_true)] at hfilter
    exact congrArg (List.map Prod.snd) hfilter

/-- A value written under a name is the only one of the name in any case exactly if no other
spelling of it is there. -/
theorem valuesOf_insert_eq_iff (hmap : FieldMap.NodupKeys metadata) (name value : Text) :
    valuesOf (FieldMap.insert metadata name value) name = [value] ↔
      ∀ key ∈ metadata.keys, key.toLowerAscii = name.toLowerAscii → key = name := by
  induction metadata with
  | nil => exact iff_of_true (valuesOf_cons_of_eq rfl value []) nofun
  | cons e metadata ih =>
    obtain ⟨hnew, hrest⟩ := List.nodup_cons.1 hmap
    rw [FieldMap.keys_cons, List.forall_mem_cons]
    by_cases he : (e.1 == name) = true
    · -- the entry is written over, and the others have other names
      obtain rfl := eq_of_beq he
      rw [FieldMap.insert, if_pos he, valuesOf_cons_of_eq rfl, List.cons.injEq,
        and_iff_right rfl, and_iff_right fun _ => rfl, valuesOf_eq_nil_iff]
      constructor
      · intro h key hkey hlow
        obtain ⟨other, hother, rfl⟩ := List.mem_map.1 hkey
        exact absurd hlow (h other hother)
      · intro h other hother hlow
        exact hnew (h other.1 (List.mem_map_of_mem hother) hlow ▸ List.mem_map_of_mem hother)
    · have hne : e.1 ≠ name := fun heq => he (beq_iff_eq.2 heq)
      rw [FieldMap.insert, if_neg he]
      by_cases hlow : e.1.toLowerAscii = name.toLowerAscii
      · -- the value stands behind that of the other spelling
        refine iff_of_false (fun h => ?_) fun h => hne (h.1 hlow)
        rw [valuesOf_cons_of_eq hlow] at h
        have hnone := valuesOf_eq_nil_iff.1 (List.cons.inj h).2
        have hwritten := FieldMap.mem_of_get? (FieldMap.get?_insert_self metadata name value)
        exact hnone _ hwritten rfl
      · rw [valuesOf_cons_of_ne hlow, ih hrest, and_iff_right fun heq => absurd heq hlow]

/-- The precondition is the etag exactly if the metadata hold no entry for it, except one that is
spelled as the etag's own header and gives way to it. -/
theorem valuesOf_headersOf_eq_iff (hmap : FieldMap.NodupKeys metadata) (etag : Option Text) :
    valuesOf (headersOf etag metadata) Store.preconditionHeader = etag.toList ↔
      ∀ name ∈ metadata.keys, IsPrecondition name →
        etag.isSome = true ∧ name = Store.preconditionHeader := by
  cases etag with
  | none =>
    rw [headersOf, Option.toList_none, valuesOf_eq_nil_iff]
    constructor
    · intro h name hname hpre
      obtain ⟨e, he, rfl⟩ := List.mem_map.1 hname
      exact absurd hpre (h e he)
    · intro h e he hpre
      exact absurd (h e.1 (List.mem_map_of_mem he) hpre).1 Bool.false_ne_true
  | some etag =>
    rw [headersOf, Option.toList_some, valuesOf_insert_eq_iff hmap]
    simp only [Option.isSome_some, true_and]
    rfl

end StoreCall

/-- A request carries the etag as its only precondition, or none without an etag, and under every
other name of the metadata exactly their values. -/
structure Request.CarriesAsAsked (request : Request) (etag : Option Text)
    (metadata : FieldMap Text Text) : Prop where
  precondition : Headers.valuesOf request.headers Store.preconditionHeader = etag.toList
  others : ∀ name ∈ metadata.keys, ¬StoreCall.IsPrecondition name →
    Headers.valuesOf request.headers name = Headers.valuesOf metadata name

namespace StoreCall

open Headers

variable {s : Store} {w : World} {request : Request} {key : Text} {etag : Option Text}
  {document : Value} {metadata : FieldMap Text Text}

theorem precondition_of_put
    (h : ((put key etag document metadata).perform.exec s w).2.sent = request :: w.sent) :
    valuesOf request.headers Store.preconditionHeader =
      valuesOf (headersOf etag metadata) Store.preconditionHeader := by
  have hnames : Store.preconditionHeader.toLowerAscii ∉ Session.fallbackNames ∧
      Store.preconditionHeader.toLowerAscii ≠ Text.ofString "authorization" := by decide
  rw [valuesOf_of_put h (Or.inr hnames.1)]
  cases Session.credentials? request.url with
  | none => rfl
  | some value => exact if_neg hnames.2

theorem others_of_put
    (h : ((put key etag document metadata).perform.exec s w).2.sent = request :: w.sent)
    {name : Text} (hname : name ∈ metadata.keys) (hother : ¬IsPrecondition name) :
    valuesOf request.headers name =
      match Session.credentials? request.url with
      | none => valuesOf metadata name
      | some value =>
        if name.toLowerAscii = Text.ofString "authorization" then [value]
        else valuesOf metadata name := by
  have hvalues := @valuesOf_headersOf_of_ne name etag metadata hother
  have hkeeps : Session.KeepsGiven (headersOf etag metadata) name := by
    refine Or.inl fun hnone => ?_
    obtain ⟨e, he, rfl⟩ := List.mem_map.1 hname
    rw [hvalues] at hnone
    exact valuesOf_eq_nil_iff.1 hnone e he rfl
  rw [valuesOf_of_put h hkeeps, hvalues]

/-- A write that is sent is conditional exactly as asked, with the metadata as they are, unless
these hold an entry for the precondition: one that is spelled as the header of the etag gives way to
an etag, every other one is sent in addition. Beside that, credentials of the URL take the place of
those in the metadata. -/
theorem put_carries_as_asked_iff (hmap : FieldMap.NodupKeys metadata)
    (hsent : ((put key etag document metadata).perform.exec s w).2.sent = request :: w.sent) :
    request.CarriesAsAsked etag metadata ↔
      (∀ name ∈ metadata.keys, IsPrecondition name →
        etag.isSome = true ∧ name = Store.preconditionHeader) ∧
      (∀ value, Session.credentials? request.url = some value → ∀ name ∈ metadata.keys,
        name.toLowerAscii = Text.ofString "authorization" → valuesOf metadata name = [value]) := by
  have hprecondition := precondition_of_put hsent
  have hothers : ∀ name ∈ metadata.keys, ¬IsPrecondition name → _ :=
    fun name hname hother => others_of_put hsent hname hother
  constructor
  · rintro ⟨hpre, hrest⟩
    refine ⟨(valuesOf_headersOf_eq_iff hmap etag).1 (hprecondition ▸ hpre), ?_⟩
    intro value hvalue name hname hauthorization
    have hother : ¬IsPrecondition name := by
      rw [IsPrecondition, hauthorization]
      decide
    rw [← hrest name hname hother, hothers name hname hother, hvalue]
    exact if_pos hauthorization
  · rintro ⟨hpre, hcredentials⟩
    refine ⟨hprecondition.trans ((valuesOf_headersOf_eq_iff hmap etag).2 hpre), ?_⟩
    intro name hname hother
    rw [hothers name hname hother]
    cases hvalue : Session.credentials? request.url with
    | none => rfl
    | some value =>
      dsimp only
      split
      · next hauthorization => exact (hcredentials value hvalue name hname hauthorization).symm
      · rfl

/-- A call that can be written to the local server sends a request. -/
theorem exists_sent_localhost (call : StoreCall) (h : (call.sent? Store.localhost).isSome = true) :
    ∃ request, (call.perform.exec Store.localhost { server := ⟨[], 1⟩ }).2.sent = [request] := by
  obtain ⟨sent, hsent⟩ := Option.isSome_iff_exists.1 h
  exact ⟨sent.2, by rw [sent_perform, hsent]; rfl⟩

/-- An etag takes the place of an entry that is spelled as its own header. -/
theorem put_carries_as_asked_spelled :
    let metadata : FieldMap Text Text :=
      [(Text.ofString "Raven-Entity-Name", Text.ofString "Users"),
        (Text.ofString "If-None-Match", Text.ofString "stale")]
    let call := put (Text.ofString "user1") (some (Text.ofString "etag-1")) (.map []) metadata
    FieldMap.NodupKeys metadata ∧
      ∃ request, (call.perform.exec Store.localhost { server := ⟨[], 1⟩ }).2.sent = [request] ∧
        request.CarriesAsAsked (some (Text.ofString "etag-1")) metadata := by
  intro metadata call
  have hmap : FieldMap.NodupKeys metadata := by decide
  obtain ⟨request, hsent⟩ := exists_sent_localhost call rfl
  refine ⟨hmap, request, hsent, (put_carries_as_asked_iff hmap hsent).2 ⟨by decide, ?_⟩⟩
  intro value _ name hname hauthorization
  exact absurd hauthorization (by revert name; decide)

/-- An entry for the precondition that is spelled in lower case is sent beside the etag. -/
theorem put_carries_two_preconditions :
    let metadata : FieldMap Text Text := [(Text.ofString "if-none-match", Text.ofString "stale")]
    let call := put (Text.ofString "user1") (some (Text.ofString "etag-1")) (.map []) metadata
    ∃ request, (call.perform.exec Store.localhost { server := ⟨[], 1⟩ }).2.sent = [request] ∧
      valuesOf request.headers Store.preconditionHeader =
        [Text.ofString "stale", Text.ofString "etag-1"] := by
  intro metadata call
  obtain ⟨request, hsent⟩ := exists_sent_localhost call rfl
  refine ⟨request, hsent, ?_⟩
  rw [precondition_of_put hsent]
  decide

end StoreCall

end RavenBinding
