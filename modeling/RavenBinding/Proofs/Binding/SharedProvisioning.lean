import RavenBinding.Proofs.Binding.SetUp
import RavenBinding.Proofs.Interaction.Interference
import RavenBinding.Proofs.Settings.Sources
import RavenBinding.Proofs.Store.Databases

/-!
# Provisioning among others

An adapter that is set up looks for its database in a listing and, if it is not there, sends a
creation. Between the two others may create the database or write documents. As long as they add no
database but this one, setting up ends well within a few steps, adds the database if it is missing
and changes nothing else.

## Main definitions

- `Server.Gains`: a server with the same databases, or with one more that was missing
- `Adapter.Provided`: the database is there, or a listing shows it in another case
- `Adapter.Provides`: what setting up does to the server

## Main statements

- `Adapter.settles_setUp`: how setting up ends among others
-/

namespace RavenBinding

open Program StoreAction

/-! ### Actions on a store -/

section Actions

variable {α β : Type} {rely guarantee : Server → Server → Prop}
  {post : Except Failure α × Store → Server → Prop} {s : Store} {server : Server}

theorem StoreAction.runOn_ofExcept (x : Except Failure α) (s : Store) :
    (ofExcept x : StoreAction α).runOn s = .done (x, s) := by
  cases x with
  | ok a => rfl
  | error f => rfl

theorem StoreAction.runOn_bind (x : StoreAction α) (f : α → StoreAction β) (s : Store) :
    (x >>= f).runOn s = (x.runOn s >>= fun ended =>
      match ended with
      | (.ok a, s) => (f a).runOn s
      | (.error e, s) => pure (.error e, s)) := by
  change (x.run.run s >>= fun p => _) = (x.run.run s >>= fun p => _)
  congr 1
  funext p
  rcases p with ⟨ending, s⟩
  cases ending with
  | ok a => rfl
  | error e => rfl

/-- An action that goes on settles in two parts, unless the first part fails. -/
theorem StoreAction.settles_bind (hrefl : ∀ s, rely s s) {x : StoreAction α}
    {f : α → StoreAction β} {result : Except Failure β × Store → Server → Prop} {m n : Nat}
    (h : Settles rely guarantee post m (x.runOn s) server)
    (hok : ∀ a s' v, post (.ok a, s') v → Settles rely guarantee result n ((f a).runOn s') v)
    (herror : ∀ e s' v, post (.error e, s') v →
      Settles rely guarantee result n (.done (.error e, s')) v) :
    Settles rely guarantee result (n + m) ((x >>= f).runOn s) server := by
  rw [runOn_bind]
  refine h.bind hrefl fun ended v hended => ?_
  rcases ended with ⟨ending, s'⟩
  cases ending with
  | ok a => exact hok a s' v hended
  | error e => exact herror e s' v hended

namespace Store

variable {session : Session} {operation : StoreOperation} {ask : Ask} {allow : Bool}

/-- What is shown before a request. -/
def askEvent (ask : Ask) : Event :=
  .log { level := Level.debug
         logger := loggerName
         message := loggerName ++ Text.ofString ":" ++ Text.ofString "_send" ++ Text.ofString " - "
           ++ (ask.method.name ++ Text.ofString " " ++ ask.path)
         context := [] }

theorem runOn_send (hs : s.session = some session) :
    (send operation ask allow).runOn s = .emit (askEvent ask)
      (match buildRequest session operation ask with
        | .error f => .done (.error f, s)
        | .ok request => .send request fun reply =>
          .done ((acceptReply session operation ask allow request reply).1,
            s.holding (acceptReply session operation ask allow request reply).2)) := by
  obtain ⟨url, database, timeout, session'⟩ := s
  obtain rfl : session' = some session := hs
  rw [send, runOn_bind]
  cases h : buildRequest session operation ask with
  | error f =>
    show (logStep _ _ >>= fun _ => _ : StoreAction Response).runOn _ = _
    rw [h]
    rfl
  | ok request =>
    show (logStep _ _ >>= fun _ => _ : StoreAction Response).runOn _ = _
    rw [h]
    show Program.emit (askEvent ask) (Program.send request _) = _
    congr 2
    funext reply
    show ((replace _ >>= fun _ => _ : StoreAction Response)).runOn _ = _
    rw [runOn_bind]
    exact runOn_ofExcept _ _

/-- An exchange takes two steps. The server changes in the second one, and later as others change
it. -/
theorem settles_send (hs : s.session = some session) {request : Request}
    (h : buildRequest session operation ask = .ok request) {response : Server → Response}
    {next : Server → Server}
    (hanswer : ∀ v : Server, v.answer request = (response v, next v) ∧
      acceptReply session operation ask allow request (.response (response v)) =
        (.ok (response v), session))
    (hchanges : ∀ later, rely server later → guarantee later (next later)) :
    Settles rely guarantee
      (fun ended last => ∃ later, rely server later ∧ rely (next later) last ∧
        ended = (.ok (response later), s)) 2 ((send operation ask allow).runOn s) server := by
  rw [runOn_send hs, h]
  refine .emit (.send (fun later hlater => ?_) fun later hlater => .done fun last hlast => ?_)
  · rw [(hanswer later).1]
    exact hchanges later hlater
  · rw [(hanswer later).1] at hlast ⊢
    refine ⟨later, hlater, hlast, ?_⟩
    rw [(hanswer later).2, holding_eq_self hs]

theorem settles_send_error (hs : s.session = some session) {f : Failure}
    (h : buildRequest session operation ask = .error f) :
    Settles rely guarantee (fun ended _ => ended = (.error f, s)) 1
      ((send operation ask allow).runOn s) server := by
  rw [runOn_send hs, h]
  exact .emit (.done fun _ _ => rfl)

end Store

end Actions

/-! ### What happens to the server -/

namespace Server

variable {server server' server'' : Server} {database : Text}

/-- The databases are the same, or one that was missing comes after them. -/
def Gains (database : Text) (server server' : Server) : Prop :=
  server'.names = server.names ∨
    (database ∉ server.names ∧ server'.names = server.names ++ [database])

theorem Gains.refl (database : Text) (server : Server) : server.Gains database server := Or.inl rfl

theorem Gains.trans (h : Gains database server server') (h' : Gains database server' server'') :
    Gains database server server'' := by
  rcases h with h | ⟨hmissing, h⟩
  · rcases h' with h' | ⟨hmissing', h'⟩
    · exact Or.inl (h'.trans h)
    · exact Or.inr ⟨h ▸ hmissing', h'.trans (by rw [h])⟩
  · rcases h' with h' | ⟨hmissing', -⟩
    · exact Or.inr ⟨hmissing, h'.trans h⟩
    · -- it is there by now
      rw [h] at hmissing'
      simp at hmissing'

theorem Gains.mem (h : Gains database server server') (hmem : database ∈ server.names) :
    database ∈ server'.names := by
  rcases h with h | ⟨-, h⟩
  · rwa [h]
  · rw [h]
    exact List.mem_append_left _ hmem

theorem hasKey_databases_iff (server : Server) (database : Text) :
    server.databases.hasKey database = true ↔ database ∈ server.names := by
  rw [FieldMap.hasKey, List.any_eq_true, names, FieldMap.keys, List.mem_map]
  simp

theorem addDatabase_of_mem (h : database ∈ server.names) : server.addDatabase database = server :=
  if_pos ((server.hasKey_databases_iff database).2 h)

theorem addDatabase_of_not_mem (h : database ∉ server.names) :
    server.addDatabase database =
      { server with databases := server.databases ++ [(database, [])] } :=
  if_neg (mt (server.hasKey_databases_iff database).1 h)

theorem names_addDatabase_of_not_mem (h : database ∉ server.names) :
    (server.addDatabase database).names = server.names ++ [database] := by
  rw [addDatabase_of_not_mem h, names, FieldMap.keys_append]
  rfl

theorem gains_addDatabase (server : Server) (database : Text) :
    server.Gains database (server.addDatabase database) := by
  by_cases h : database ∈ server.names
  · rw [addDatabase_of_mem h]
    exact Gains.refl database server
  · exact Or.inr ⟨h, names_addDatabase_of_not_mem h⟩

theorem mem_names_addDatabase (server : Server) (database : Text) :
    database ∈ (server.addDatabase database).names := by
  by_cases h : database ∈ server.names
  · rwa [addDatabase_of_mem h]
  · rw [names_addDatabase_of_not_mem h]
    simp

end Server

namespace Adapter

variable {settings : Settings} {server server' : Server} {late : Bool}

/-- The database is there, or the first page of a listing shows it in another case. -/
def Provided (settings : Settings) (server : Server) : Prop :=
  settings.database ∈ server.names ∨
    ∃ names, databaseNames (server.listing settings.databasePageSize) = .ok names ∧
      isListed settings names = true

theorem Provided.of_gains (h : Provided settings server)
    (hgains : server.Gains settings.database server') : Provided settings server' := by
  rcases hgains with hsame | ⟨-, hadded⟩
  · rw [Provided, Server.listing, Server.page, hsame]
    exact h
  · exact Or.inl (by rw [hadded]; simp)

/-- What setting up does to the server: nothing, or it adds the database. A late one does nothing,
and neither does one whose definition cannot be written. -/
def Provides (settings : Settings) (late : Bool) (server server' : Server) : Prop :=
  server' = server ∨
    (late = false ∧ settings.IsWritable ∧ server' = server.addDatabase settings.database)

theorem Provides.refl (settings : Settings) (late : Bool) (server : Server) :
    Provides settings late server server := Or.inl rfl

theorem Provides.gains (h : Provides settings late server server') :
    server.Gains settings.database server' := by
  rcases h with rfl | ⟨-, -, rfl⟩
  · exact Server.Gains.refl _ _
  · exact Server.gains_addDatabase server settings.database

/-- The program settles while others add no database but that of the settings, and does no more to
the server than setting up may do. -/
abbrev SettlesAmong {α : Type} (settings : Settings) (late : Bool) (post : α → Server → Prop)
    (n : Nat) (x : Program α) (server : Server) : Prop :=
  Settles (Server.Gains settings.database) (Provides settings late) post n x server

/-! ### Both questions -/

section Questions

variable {p : PlainUrl} {s : Store} {session : Session} (hs : s.session = some session)
  (hb : session.base = p.url)

include hs hb

/-- The names come from one moment between now and the end. -/
theorem settles_databaseNames (few : tooManyDigits settings.databasePageSize = false) :
    SettlesAmong settings late
      (fun ended v => ∃ names past, server.Gains settings.database past ∧
        past.Gains settings.database v ∧ ended = (.ok names, s) ∧
        databaseNames (past.listing settings.databasePageSize) = .ok names)
      2 ((Store.databaseNames settings.databasePageSize).runOn s) server := by
  obtain ⟨request, hbuild, -, hanswer⟩ := Store.exists_listing hb few
  have hsend : SettlesAmong settings late
      (fun ended v => ∃ past, server.Gains settings.database past ∧
        past.Gains settings.database v ∧
        ended = (.ok (past.listing settings.databasePageSize), s))
      2 ((Store.send .listDatabases (Store.listingAsk settings.databasePageSize)).runOn s) server :=
    Store.settles_send hs hbuild hanswer fun later _ => Provides.refl settings late later
  refine StoreAction.settles_bind (Server.Gains.refl _) hsend ?_ ?_
  · rintro response s' v ⟨past, hpast, hv, hended⟩
    obtain ⟨hresponse, rfl⟩ := Prod.mk.inj hended
    obtain rfl := Except.ok.inj hresponse
    obtain ⟨names, hnames, -⟩ := past.exists_databaseNames settings.databasePageSize
    rw [runOn_ofExcept, hnames]
    exact .done fun last hlast => ⟨names, past, hpast, hv.trans hlast, rfl, hnames⟩
  · rintro e s' v ⟨past, -, -, hended⟩
    cases hended

section Creation

variable (hd : settings.database.isScalar = true) (hdot : ¬settings.database.IsDotSegment)
  (hl : (Store.creationPath settings.database).length ≤ Url.maxLength)

include hd hdot hl

/-- A late creation finds the database there. -/
theorem settles_createDatabase (hw : settings.IsWritable)
    (hlate : late = true → settings.database ∈ server.names) :
    SettlesAmong settings late
      (fun ended v => ended = (.ok (), s) ∧ settings.database ∈ v.names)
      2 ((Store.createDatabase (definition settings)).runOn s) server := by
  obtain ⟨request, hbuild, -, hanswer⟩ := exists_creation hb hd hdot hl hw
  have hprovides : ∀ past, server.Gains settings.database past →
      Provides settings late past (past.addDatabase settings.database) := by
    intro past hpast
    cases hcase : late with
    | true => exact Or.inl (Server.addDatabase_of_mem (hpast.mem (hlate hcase)))
    | false => exact Or.inr ⟨rfl, hw, rfl⟩
  have hsend : SettlesAmong settings late
      (fun ended v => ∃ past, server.Gains settings.database past ∧
        (past.addDatabase settings.database).Gains settings.database v ∧
        ended = (.ok ⟨200, [], []⟩, s))
      2 ((Store.send .createDatabase (creationAsk settings)).runOn s) server :=
    Store.settles_send hs hbuild hanswer hprovides
  rw [Store.createDatabase, show (definition settings).id = settings.database from rfl,
    Percent.encodeSegment_of_isScalar hd]
  show SettlesAmong settings late _ 2
    ((Store.send .createDatabase (creationAsk settings) >>= fun _ => pure ()).runOn s) server
  refine StoreAction.settles_bind (Server.Gains.refl _) hsend ?_ ?_
  · rintro response s' v ⟨past, -, hv, hended⟩
    obtain ⟨-, rfl⟩ := Prod.mk.inj hended
    refine .done fun last hlast => ⟨rfl, hlast.mem (hv.mem ?_)⟩
    exact Server.mem_names_addDatabase past settings.database
  · rintro e s' v ⟨past, -, -, hended⟩
    cases hended

theorem settles_createDatabase_error (hw : ¬settings.IsWritable) :
    SettlesAmong settings late (fun ended _ => ∃ error, ended = (.error (.store error), s))
      1 ((Store.createDatabase (definition settings)).runOn s) server := by
  obtain ⟨error, hbuild⟩ := exists_creation_error hb hd hdot hl hw
  have hsend : SettlesAmong settings late (fun ended _ => ended = (.error (.store error), s)) 1
      ((Store.send .createDatabase (creationAsk settings)).runOn s) server :=
    Store.settles_send_error hs hbuild
  rw [Store.createDatabase, show (definition settings).id = settings.database from rfl,
    Percent.encodeSegment_of_isScalar hd]
  show SettlesAmong settings late _ 1
    ((Store.send .createDatabase (creationAsk settings) >>= fun _ => pure ()).runOn s) server
  refine StoreAction.settles_bind (Server.Gains.refl _) hsend ?_ ?_
  · rintro response s' v hended
    cases hended
  · rintro e s' v hended
    obtain ⟨he, rfl⟩ := Prod.mk.inj hended
    obtain rfl := Except.error.inj he
    exact .done fun _ _ => ⟨error, rfl⟩

/-- The database is made sure of, or its definition cannot be written. -/
def Ensured (settings : Settings) (s : Store) (ended : Except Failure Unit × Store)
    (v : Server) : Prop :=
  (ended = (.ok (), s) ∧ Provided settings v) ∨
    (¬settings.IsWritable ∧ ∃ error, ended = (.error (.store error), s))

theorem settles_ensureDatabase (few : tooManyDigits settings.databasePageSize = false)
    (hlate : late = true → settings.IsWritable → Provided settings server) :
    SettlesAmong settings late (Ensured settings s) 5 ((ensureDatabase settings).runOn s)
      server := by
  rw [ensureDatabase]
  refine StoreAction.settles_bind (Server.Gains.refl _) (settles_databaseNames hs hb few) ?_ ?_
  · rintro names s' v ⟨names', past, hpast, hv, hended, hnames⟩
    obtain ⟨hnames', rfl⟩ := Prod.mk.inj hended
    obtain rfl := Except.ok.inj hnames'
    show SettlesAmong settings late _ 3
      ((if isListed settings names = true then _ else _ : StoreAction Unit).runOn s') v
    cases hlisted : isListed settings names with
    | true =>
      have hprovided : Provided settings v :=
        Provided.of_gains (Or.inr ⟨names, hnames, hlisted⟩) hv
      rw [if_pos rfl]
      exact .emit (.done fun last hlast => Or.inl ⟨rfl, hprovided.of_gains hlast⟩)
    | false =>
      rw [if_neg Bool.false_ne_true]
      by_cases hw : settings.IsWritable
      · -- what is provided and not listed is there by its name
        have hthere : late = true → settings.database ∈ v.names := by
          intro h
          rcases (hlate h hw).of_gains hpast with hmem | ⟨listed, hlisting, hname⟩
          · exact hv.mem hmem
          · obtain rfl := Except.ok.inj (hlisting.symm.trans hnames)
            rw [hlisted] at hname
            cases hname
        have hcreate := settles_createDatabase hs hb hd hdot hl hw hthere
        exact .emit (hcreate.weaken (Nat.le_refl 2) fun ended last hended =>
          Or.inl ⟨hended.1, Or.inl hended.2⟩)
      · exact .emit ((settles_createDatabase_error hs hb hd hdot hl hw).weaken (Nat.le_succ 1)
          fun ended last hended => Or.inr ⟨hw, hended⟩)
  · rintro e s' v ⟨names, past, -, -, hended, -⟩
    cases hended

end Creation

end Questions

/-! ### Sessions -/

theorem settles_openSession {rely guarantee : Server → Server → Prop} {s : Store}
    {session : Session} (hs : s.session = none)
    (h : Session.open? s.url s.timeout = .ok session) :
    Settles rely guarantee (fun ended v => ended = (.ok (), s.holding session) ∧ rely server v) 2
      (Store.openSession.runOn s) server := by
  have hstore : store.runOn s = pure (.ok s, s) := rfl
  rw [Store.openSession, StoreAction.runOn_bind, hstore, LawfulMonad.pure_bind]
  simp only [hs, h]
  exact .openSession (.emit (.done fun _ hlast => ⟨rfl, hlast⟩))

theorem settles_closeSession {rely guarantee : Server → Server → Prop} {s : Store}
    {session : Session} (hs : s.session = some session) :
    Settles rely guarantee (fun ended _ => ended = (.ok (), s.released)) 2
      (Store.closeSession.runOn s) server := by
  obtain ⟨url, database, timeout, session'⟩ := s
  obtain rfl : session' = some session := hs
  exact .closeSession (.emit (.done fun _ _ => rfl))

/-! ### Setting up -/

/-- Setting up with a URL that is supported comes to connecting. -/
theorem run_setUp {env : Environment} {a : Adapter}
    (hread : Settings.ofProperties a.properties env = .ok settings)
    (hvalid : settings.hasValidUrl = true) :
    (setUp env).run a = (connect settings >>= fun
      | .ok store => pure (.ok (), a.holding settings store)
      | .error failure => pure (.error failure, a)) := by
  have hget : (StateT.get : AdapterAction Adapter).run a = pure (a, a) := rfl
  rw [setUp, StateT.run_bind, hget, LawfulMonad.pure_bind]
  simp only [hread]
  rw [if_pos hvalid, StateT.run_bind, StateT.run_lift, LawfulMonad.bind_assoc]
  congr 1
  funext result
  cases result with
  | ok store => rfl
  | error failure => rfl

/-- The store that setting up leaves on a plain URL. -/
def storeAt (settings : Settings) (p : PlainUrl) : Store :=
  (storeOf settings).holding { base := p.url, timeout := (storeOf settings).timeout }

/-- The adapter is ready and the database is there, or setting up failed because the definition
cannot be written. -/
def IsSetUp (settings : Settings) (p : PlainUrl) (a : Adapter)
    (ended : Except Failure Unit × Adapter) (v : Server) : Prop :=
  (ended = (.ok (), a.holding settings (storeAt settings p)) ∧ Provided settings v) ∨
    (¬settings.IsWritable ∧ ∃ failure, ended = (.error failure, a))

section SetUp

variable {p : PlainUrl} (hurl : settings.url = p.text)

include hurl

theorem hasValidUrl_of_url : settings.hasValidUrl = true := by
  rw [Settings.hasValidUrl, hurl]
  exact List.isPrefixOf_iff_prefix.2 (List.prefix_append _ _)

theorem session?_of_url : session? settings =
    .ok { base := p.url, timeout := (storeOf settings).timeout } := by
  have hstore : (storeOf settings).url = p.text := by
    rw [show (storeOf settings).url = settings.url.trimRight _ from rfl, hurl, p.trimRight_text]
  rw [session?, hstore, p.open?_eq]

variable (hd : settings.database.isScalar = true) (hdot : ¬settings.database.IsDotSegment)
  (hl : (Store.creationPath settings.database).length ≤ Url.maxLength)

include hd hdot hl

theorem settles_connect (few : tooManyDigits settings.databasePageSize = false)
    (hlate : late = true → settings.IsWritable → Provided settings server) :
    SettlesAmong settings late
      (fun result v => (result = .ok (storeAt settings p) ∧ Provided settings v) ∨
        (¬settings.IsWritable ∧ ∃ failure, result = .error failure))
      9 (connect settings) server := by
  have hopen : SettlesAmong settings late
      (fun ended v => ended = (.ok (), storeAt settings p) ∧ server.Gains settings.database v) 2
      (Store.openSession.runOn (storeOf settings)) server :=
    settles_openSession rfl (session?_of_url hurl)
  have hprovide : ∀ v, server.Gains settings.database v →
      SettlesAmong settings late (Ensured settings (storeAt settings p)) 5
        ((ensureDatabase settings).runOn (storeAt settings p)) v := fun v hv =>
    settles_ensureDatabase rfl rfl hd hdot hl few fun h hw => (hlate h hw).of_gains hv
  rw [connect]
  refine Settles.bind (m := 2) (n := 7) (Server.Gains.refl _) hopen ?_
  rintro ⟨opened, s⟩ v ⟨hopened, hv⟩
  obtain ⟨rfl, rfl⟩ := Prod.mk.inj hopened
  refine Settles.bind (m := 5) (n := 2) (Server.Gains.refl _) (hprovide v hv) ?_
  rintro ⟨ended, s⟩ v hensured
  rcases hensured with ⟨hended, hprovided⟩ | ⟨hw, error, hended⟩
  · obtain ⟨rfl, rfl⟩ := Prod.mk.inj hended
    exact .done fun last hlast => Or.inl ⟨rfl, hprovided.of_gains hlast⟩
  · obtain ⟨rfl, rfl⟩ := Prod.mk.inj hended
    have hclose : SettlesAmong settings late (fun ended _ => ended = (.ok (), _)) 2
        (Store.closeSession.runOn (storeAt settings p)) v := settles_closeSession rfl
    refine Settles.bind (m := 2) (n := 0) (Server.Gains.refl _) hclose ?_
    rintro ⟨closed, s⟩ v hclosed
    obtain ⟨rfl, -⟩ := Prod.mk.inj hclosed
    exact .done fun last hlast => Or.inr ⟨hw, _, rfl⟩

/-- Among others, setting up ends within nine steps, and the database is there then. It fails only
if the definition of the database cannot be written. -/
theorem settles_setUp {env : Environment} {a : Adapter}
    (hread : Settings.ofProperties a.properties env = .ok settings)
    (hlate : late = true → settings.IsWritable → Provided settings server) :
    SettlesAmong settings late (IsSetUp settings p a) 9 ((setUp env).run a) server := by
  have few : tooManyDigits settings.databasePageSize = false :=
    Settings.tooManyDigits_databasePageSize hread
  rw [run_setUp hread (hasValidUrl_of_url hurl)]
  refine Settles.bind (m := 9) (n := 0) (Server.Gains.refl _)
    (settles_connect hurl hd hdot hl few hlate) ?_
  rintro result v (⟨rfl, hprovided⟩ | ⟨hw, failure, rfl⟩)
  · exact .done fun last hlast => Or.inl ⟨rfl, hprovided.of_gains hlast⟩
  · exact .done fun last hlast => Or.inr ⟨hw, failure, rfl⟩

end SetUp

end Adapter

end RavenBinding
