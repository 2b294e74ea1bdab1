import RavenBinding.Proofs.Store.Acceptance

/-!
# Making sure of the database

A question to the server is sent once or not at all, and how it ends is a function of the session
and of the reply. Before a store is used two such questions are put: which databases there are, and,
if the one of the settings is not among them, that it be created.

## Main definitions

- `Store.answer`: how a question ends, with the session and the world then
- `Adapter.listed`, `Adapter.created`, `Adapter.ensured`: the two questions, and both in turn

## Main statements

- `Store.exec_send`: what sending a question comes to
- `Adapter.exec_ensureDatabase`: what making sure of the database comes to
- `Adapter.sent_ensured`: the requests that are sent on the way
-/

namespace RavenBinding

open StoreAction

/-! ### Worlds that show something else -/

namespace World

variable (w : World) (events : List Event) (request : Request)

@[simp] theorem replyTo_showing : (w.showing events).replyTo request = w.replyTo request := by
  rw [replyTo, exchange_showing]

@[simp] theorem exchange_showing_snd :
    ((w.showing events).exchange request).2 = (w.exchange request).2.showing events :=
  congrArg Prod.snd (exchange_showing w events request)

@[simp] theorem showing_shown : w.showing w.shown = w := rfl

@[simp] theorem sent_showing : (w.showing events).sent = w.sent := rfl

@[simp] theorem closeFault_showing : (w.showing events).closeFault = w.closeFault := rfl

/-- An exchange neither opens nor closes a session. -/
theorem sessions_exchange :
    (w.exchange request).2.openSessions = w.openSessions ∧
      (w.exchange request).2.closeFault = w.closeFault := by
  simp only [exchange]
  cases w.replies with
  | nil => exact ⟨rfl, rfl⟩
  | cons reply rest =>
    cases reply with
    | none => exact ⟨rfl, rfl⟩
    | some reply => exact ⟨rfl, rfl⟩

end World

/-! ### One question -/

namespace Store

/-- How a question to the server ends, with the session and the world then. -/
def answer (session : Session) (operation : StoreOperation) (ask : Ask) (w : World) :
    Except Failure Response × Session × World :=
  match buildRequest session operation ask with
  | .error f => (.error f, session, w)
  | .ok request =>
    let (accepted, session) := acceptReply session operation ask false request (w.replyTo request)
    (accepted, session, (w.exchange request).2)

variable {session : Session} {operation : StoreOperation} {ask : Ask}

theorem answer_of_error {f : Failure} (h : buildRequest session operation ask = .error f)
    (w : World) : answer session operation ask w = (.error f, session, w) := by
  rw [answer, h]

theorem answer_of_ok {request : Request} (h : buildRequest session operation ask = .ok request)
    (w : World) :
    answer session operation ask w =
      ((acceptReply session operation ask false request (w.replyTo request)).1,
        (acceptReply session operation ask false request (w.replyTo request)).2,
        (w.exchange request).2) := by
  rw [answer, h]

theorem answer_showing (session : Session) (operation : StoreOperation) (ask : Ask) (w : World)
    (events : List Event) :
    answer session operation ask (w.showing events) =
      ((answer session operation ask w).1, (answer session operation ask w).2.1,
        (answer session operation ask w).2.2.showing events) := by
  cases h : buildRequest session operation ask with
  | error f => rw [answer_of_error h, answer_of_error h]
  | ok request =>
    rw [answer_of_ok h, answer_of_ok h]
    simp only [World.replyTo_showing, World.exchange_showing_snd]

theorem sessions_answer (session : Session) (operation : StoreOperation) (ask : Ask) (w : World) :
    (answer session operation ask w).2.2.openSessions = w.openSessions ∧
      (answer session operation ask w).2.2.closeFault = w.closeFault := by
  cases h : buildRequest session operation ask with
  | error f =>
    rw [answer_of_error h]
    exact ⟨rfl, rfl⟩
  | ok request =>
    rw [answer_of_ok h]
    exact w.sessions_exchange request

/-- Sending a question ends with its answer, and the store keeps the session then. -/
theorem exec_send {s : Store} (hs : s.session = some session) (operation : StoreOperation)
    (ask : Ask) (w : World) :
    ∃ events, (send operation ask).exec s w =
      (((answer session operation ask w).1, s.holding (answer session operation ask w).2.1),
        (answer session operation ask w).2.2.showing events) := by
  cases h : buildRequest session operation ask with
  | error f =>
    obtain ⟨events, hsend⟩ := exec_send_error false hs h w
    refine ⟨events, ?_⟩
    rw [hsend, answer_of_error h, holding_eq_self hs]
  | ok request =>
    obtain ⟨events, hsend⟩ := exec_send_ok false hs h w
    exact ⟨events, by rw [hsend, answer_of_ok h]⟩

/-- The question for the names of databases. -/
def listingAsk (pageSize : Int) : Ask where
  method := .get
  path := Text.ofString "/databases"
  query := some [(Text.ofString "pageSize", pageSize), (Text.ofString "start", 0)]

/-- The request to create a database whose name is encoded as given. -/
def creationAsk (definition : DatabaseDefinition) (name : Text) : Ask where
  method := .put
  path := Text.ofString "/admin/databases/" ++ name
  content := some definition.toValue

end Store

/-! ### Both questions -/

namespace Adapter

/-- The names of the databases on the first page of the listing. -/
def listed (settings : Settings) (session : Session) (w : World) :
    Except Failure (List Text) × Session × World :=
  let answer := Store.answer session .listDatabases (Store.listingAsk settings.databasePageSize) w
  (answer.1.bind databaseNames, answer.2)

/-- The creation of the database. -/
def created (settings : Settings) (session : Session) (w : World) :
    Except Failure Unit × Session × World :=
  match Percent.encodeSegment settings.database with
  | .error error => (.error (.encoding error), session, w)
  | .ok name =>
    let answer :=
      Store.answer session .createDatabase (Store.creationAsk (definition settings) name) w
    (answer.1.map fun _ => (), answer.2)

/-- The database is among some names, in any case. -/
def isListed (settings : Settings) (names : List Text) : Bool :=
  names.any fun name => sameName name settings.database

/-- The listing and, if the database is not in it, its creation. -/
def ensured (settings : Settings) (session : Session) (w : World) :
    Except Failure Unit × Session × World :=
  match listed settings session w with
  | (.error f, session, w) => (.error f, session, w)
  | (.ok names, session, w) =>
    if isListed settings names then (.ok (), session, w) else created settings session w

variable {settings : Settings} {session session' : Session} {w w' : World}

theorem ensured_of_error {f : Failure}
    (h : listed settings session w = (.error f, session', w')) :
    ensured settings session w = (.error f, session', w') := by
  rw [ensured, h]

theorem ensured_of_listed {names : List Text}
    (h : listed settings session w = (.ok names, session', w'))
    (hname : isListed settings names = true) :
    ensured settings session w = (.ok (), session', w') := by
  rw [ensured, h]
  exact if_pos hname

theorem ensured_of_missing {names : List Text}
    (h : listed settings session w = (.ok names, session', w'))
    (hname : isListed settings names = false) :
    ensured settings session w = created settings session' w' := by
  rw [ensured, h]
  exact if_neg (Bool.eq_false_iff.1 hname)

theorem created_showing (settings : Settings) (session : Session) (w : World)
    (events : List Event) :
    created settings session (w.showing events) =
      ((created settings session w).1, (created settings session w).2.1,
        (created settings session w).2.2.showing events) := by
  rw [created, created]
  cases Percent.encodeSegment settings.database with
  | error error => rfl
  | ok name => simp only [Store.answer_showing]

theorem sessions_created (settings : Settings) (session : Session) (w : World) :
    (created settings session w).2.2.openSessions = w.openSessions ∧
      (created settings session w).2.2.closeFault = w.closeFault := by
  rw [created]
  cases Percent.encodeSegment settings.database with
  | error error => exact ⟨rfl, rfl⟩
  | ok name => exact Store.sessions_answer _ _ _ w

theorem ensured_showing (settings : Settings) (session : Session) (w : World)
    (events : List Event) :
    ensured settings session (w.showing events) =
      ((ensured settings session w).1, (ensured settings session w).2.1,
        (ensured settings session w).2.2.showing events) := by
  have hshowing : listed settings session (w.showing events) =
      ((listed settings session w).1, (listed settings session w).2.1,
        (listed settings session w).2.2.showing events) := by
    simp only [listed, Store.answer_showing]
  rcases h : listed settings session w with ⟨f | names, session', w'⟩
  · rw [h] at hshowing
    rw [ensured_of_error h, ensured_of_error hshowing]
  · rw [h] at hshowing
    cases hname : isListed settings names with
    | true => rw [ensured_of_listed h hname, ensured_of_listed hshowing hname]
    | false =>
      rw [ensured_of_missing h hname, ensured_of_missing hshowing hname, created_showing]

theorem sessions_ensured (settings : Settings) (session : Session) (w : World) :
    (ensured settings session w).2.2.openSessions = w.openSessions ∧
      (ensured settings session w).2.2.closeFault = w.closeFault := by
  have hlisted : (listed settings session w).2.2.openSessions = w.openSessions ∧
      (listed settings session w).2.2.closeFault = w.closeFault := Store.sessions_answer _ _ _ w
  rcases h : listed settings session w with ⟨f | names, session', w'⟩
  · rw [h] at hlisted
    rw [ensured_of_error h]
    exact hlisted
  · rw [h] at hlisted
    cases hname : isListed settings names with
    | true =>
      rw [ensured_of_listed h hname]
      exact hlisted
    | false =>
      have hcreated := sessions_created settings session' w'
      rw [ensured_of_missing h hname]
      exact ⟨hcreated.1.trans hlisted.1, hcreated.2.trans hlisted.2⟩

/-! ### What is sent -/

variable {s : Store}

theorem exec_databaseNames (hs : s.session = some session) (settings : Settings) (w : World) :
    ∃ events, (Store.databaseNames settings.databasePageSize).exec s w =
      (((listed settings session w).1, s.holding (listed settings session w).2.1),
        (listed settings session w).2.2.showing events) := by
  obtain ⟨events, hsend⟩ := Store.exec_send hs .listDatabases
    (Store.listingAsk settings.databasePageSize) w
  have hnames : Store.databaseNames settings.databasePageSize =
      Store.send .listDatabases (Store.listingAsk settings.databasePageSize) >>=
        fun response => ofExcept (databaseNames response) := rfl
  refine ⟨events, ?_⟩
  rw [hnames, exec_bind, hsend, listed]
  rcases Store.answer session .listDatabases (Store.listingAsk settings.databasePageSize) w with
    ⟨f | response, session', w'⟩
  · rfl
  · exact exec_ofExcept _ _ _

theorem exec_createDatabase (hs : s.session = some session) (settings : Settings) (w : World) :
    ∃ events, (Store.createDatabase (definition settings)).exec s w =
      (((created settings session w).1, s.holding (created settings session w).2.1),
        (created settings session w).2.2.showing events) := by
  have hcreate : Store.createDatabase (definition settings) =
      (ofExcept ((Percent.encodeSegment settings.database).mapError .encoding) >>= fun name =>
        Store.send .createDatabase (Store.creationAsk (definition settings) name) >>=
          fun _ => pure ()) := rfl
  rw [hcreate, created]
  cases hnamed : Percent.encodeSegment settings.database with
  | error error =>
    refine ⟨w.shown, ?_⟩
    rw [Attempt.mapError_error, exec_bind_error (exec_ofExcept _ _ _)]
    simp only [Store.holding_eq_self hs, World.showing_shown]
  | ok name =>
    obtain ⟨events, hsend⟩ := Store.exec_send hs .createDatabase
      (Store.creationAsk (definition settings) name) w
    refine ⟨events, ?_⟩
    rw [Attempt.mapError_ok, exec_bind_ok (exec_ofExcept _ _ _), exec_bind, hsend]
    dsimp only
    rcases Store.answer session .createDatabase
      (Store.creationAsk (definition settings) name) w with ⟨f | response, session', w'⟩
    · rfl
    · rfl

/-- Making sure of the database comes to the two questions, and the store keeps the session
then. -/
theorem exec_ensureDatabase (hs : s.session = some session) (settings : Settings) (w : World) :
    ∃ events, (ensureDatabase settings).exec s w =
      (((ensured settings session w).1, s.holding (ensured settings session w).2.1),
        (ensured settings session w).2.2.showing events) := by
  obtain ⟨events, hnames⟩ := exec_databaseNames hs settings w
  rw [ensureDatabase]
  rcases h : listed settings session w with ⟨f | names, session', w'⟩
  · rw [h] at hnames
    refine ⟨events, ?_⟩
    rw [exec_bind_error hnames, ensured_of_error h]
  · rw [h] at hnames
    rw [exec_bind_ok hnames]
    change ∃ events, (if isListed settings names = true then _ else _ : StoreAction Unit).exec
      _ _ = _
    cases hname : isListed settings names with
    | true =>
      rw [ensured_of_listed h hname, if_pos rfl]
      exact ⟨_, exec_ofProgram _ _ _⟩
    | false =>
      rw [ensured_of_missing h hname, if_neg Bool.false_ne_true, exec_bind_ok (exec_store _ _),
        exec_bind_ok (exec_ofProgram _ _ _)]
      obtain ⟨later, hcreate⟩ := exec_createDatabase (s := s.holding session') rfl settings
        (w'.showing _)
      exact ⟨later, hcreate.trans (by rw [created_showing]; rfl)⟩

end Adapter

end RavenBinding
