import RavenBinding.Proofs.Interaction.Run

/-!
# Programs that share a server

A program that is not alone at a server takes one step at a time, and the server may change between
its steps. Two specifications hold of such a program through its steps. The first speaks of its
requests and of its result, whatever is replied. The second relies on what others do to the server,
and says what the program itself does to it, how it ends, and how soon.

## Main definitions

- `Program.step`: one step of a program at a server
- `Program.Respects`: the requests and the result of a program, whatever is replied
- `Program.Settles`: how a program ends among others, within some steps of its own

## Main statements

- `Program.respects_of_run`: what holds of all runs holds of the steps
- `Program.Settles.bind`: a program that goes on settles in two parts
- `Program.Settles.step`: what a step does, and that the rest settles
-/

namespace RavenBinding

namespace Program

variable {α β : Type}

/-- One step of a program at a server, which answers a request at once. A program that is done stays
as it is. -/
def step : Program α → Server → Program α × Server
  | done result, server => (done result, server)
  | send request next, server =>
    (next (.response (server.answer request).1), (server.answer request).2)
  | openSession next, server => (next, server)
  | closeSession next, server => (next none, server)
  | emit _ next, server => (next, server)

/-- The result of a program that is done. -/
def result? : Program α → Option α
  | done result => some result
  | _ => none

theorem eq_done_of_result? {x : Program α} {result : α} (h : x.result? = some result) :
    x = done result := by
  cases x with
  | done result' => exact congrArg done (Option.some.inj h)
  | _ => cases h

/-! ### Whatever is replied -/

/-- All requests of the program are as `ok` says, and its result is as `post` says, whatever is
replied. Closing a session raises nothing. -/
def Respects (ok : Request → Prop) (post : α → Prop) : Program α → Prop
  | done result => post result
  | send request next => ok request ∧ ∀ reply, Respects ok post (next reply)
  | openSession next => Respects ok post next
  | closeSession next => Respects ok post (next none)
  | emit _ next => Respects ok post next

variable {ok : Request → Prop} {post : α → Prop}

theorem Respects.bind {result : β → Prop} {x : Program α} (h : x.Respects ok post)
    {f : α → Program β} (hf : ∀ a, post a → (f a).Respects ok result) :
    (x >>= f).Respects ok result := by
  induction x with
  | done a => exact hf a h
  | send request next ih => exact ⟨h.1, fun reply => ih reply (h.2 reply)⟩
  | openSession next ih => exact ih h
  | closeSession next ih => exact ih none h
  | emit event next ih => exact ih h

theorem mem_sent_run (x : Program α) (w : World) {request : Request} (h : request ∈ w.sent) :
    request ∈ (x.run w).2.sent := by
  induction x generalizing w with
  | done result => exact h
  | send asked next ih =>
    refine ih _ _ ?_
    show request ∈ (w.exchange asked).2.sent
    rw [World.sent_exchange]
    exact List.mem_cons_of_mem _ h
  | openSession next ih => exact ih _ h
  | closeSession next ih => exact ih _ _ h
  | emit event next ih => exact ih _ h

/-- What holds of the requests and results of all runs from one record holds of the program. -/
theorem respects_of_run (x : Program α) (openSessions : Int) (sent : List Request)
    (shown : List Event)
    (h : ∀ server replies,
      post (x.run ⟨server, replies, none, openSessions, sent, shown⟩).1 ∧
        ∀ request ∈ (x.run ⟨server, replies, none, openSessions, sent, shown⟩).2.sent, ok request) :
    x.Respects ok post := by
  induction x generalizing openSessions sent shown with
  | done result => exact (h (Server.ofNames []) []).1
  | send request next ih =>
    constructor
    · have hsent := (h (Server.ofNames []) []).2 request
      exact hsent (mem_sent_run (next _) _ List.mem_cons_self)
    · -- the next reply is prepared, and the other ones come after it
      intro reply
      exact ih reply openSessions (request :: sent) shown
        fun server replies => h server (some reply :: replies)
  | openSession next ih => exact ih (openSessions + 1) sent shown h
  | closeSession next ih => exact ih none (openSessions - 1) sent shown h
  | emit event next ih => exact ih openSessions sent (event :: shown) h

/-- A step of such a program sends a request as `ok` says, or leaves the server as it is. -/
theorem Respects.step {x : Program α} (h : x.Respects ok post) (server : Server) :
    (x.step server).1.Respects ok post ∧
      ((x.step server).2 = server ∨
        ∃ request, ok request ∧ (x.step server).2 = (server.answer request).2) := by
  cases x with
  | done result => exact ⟨h, Or.inl rfl⟩
  | send request next => exact ⟨h.2 _, Or.inr ⟨request, h.1, rfl⟩⟩
  | openSession next => exact ⟨h, Or.inl rfl⟩
  | closeSession next => exact ⟨h, Or.inl rfl⟩
  | emit event next => exact ⟨h, Or.inl rfl⟩

theorem Respects.ends {x : Program α} {result : α} (h : x.Respects ok post)
    (hx : x.result? = some result) : post result := by
  obtain rfl := eq_done_of_result? hx
  exact h

/-! ### Among others -/

/-- While others change the server as in `rely`, the program changes it as in `guarantee`, and
within `n` steps of its own it ends as in `post`. -/
inductive Settles (rely guarantee : Server → Server → Prop) (post : α → Server → Prop) :
    Nat → Program α → Server → Prop where
  | done {n : Nat} {result : α} {server : Server}
    (ends : ∀ later, rely server later → post result later) :
    Settles rely guarantee post n (done result) server
  | send {n : Nat} {request : Request} {next : Reply → Program α} {server : Server}
    (changes : ∀ later, rely server later → guarantee later (later.answer request).2)
    (rest : ∀ later, rely server later → Settles rely guarantee post n
      (next (.response (later.answer request).1)) (later.answer request).2) :
    Settles rely guarantee post (n + 1) (send request next) server
  | openSession {n : Nat} {next : Program α} {server : Server}
    (rest : Settles rely guarantee post n next server) :
    Settles rely guarantee post (n + 1) (openSession next) server
  | closeSession {n : Nat} {next : Option Fault → Program α} {server : Server}
    (rest : Settles rely guarantee post n (next none) server) :
    Settles rely guarantee post (n + 1) (closeSession next) server
  | emit {n : Nat} {event : Event} {next : Program α} {server : Server}
    (rest : Settles rely guarantee post n next server) :
    Settles rely guarantee post (n + 1) (emit event next) server

namespace Settles

variable {rely guarantee : Server → Server → Prop} {post post' : α → Server → Prop} {m n : Nat}
  {x : Program α} {server later : Server}

/-- More steps may be allowed, and less may be said of the end. -/
theorem weaken (h : Settles rely guarantee post m x server) (hle : m ≤ n)
    (hpost : ∀ result s, post result s → post' result s) :
    Settles rely guarantee post' n x server := by
  obtain ⟨k, rfl⟩ := Nat.exists_eq_add_of_le' hle
  clear hle
  induction h with
  | done ends => exact .done fun later hlater => hpost _ _ (ends later hlater)
  | send changes _ ih => exact .send changes ih
  | openSession _ ih => exact .openSession ih
  | closeSession _ ih => exact .closeSession ih
  | emit _ ih => exact .emit ih

/-- What others do before the next step makes no difference. -/
theorem of_rely (htrans : ∀ {a b c}, rely a b → rely b c → rely a c)
    (h : Settles rely guarantee post n x server) (hlater : rely server later) :
    Settles rely guarantee post n x later := by
  induction h with
  | done ends => exact .done fun last hlast => ends last (htrans hlater hlast)
  | send changes rest =>
    exact .send (fun last hlast => changes last (htrans hlater hlast))
      fun last hlast => rest last (htrans hlater hlast)
  | openSession _ ih => exact .openSession (ih hlater)
  | closeSession _ ih => exact .closeSession (ih hlater)
  | emit _ ih => exact .emit (ih hlater)

/-- A program goes on where its first part ends. -/
theorem bind {result : β → Server → Prop} (hrefl : ∀ s, rely s s) {f : α → Program β}
    (h : Settles rely guarantee post m x server)
    (hf : ∀ a s, post a s → Settles rely guarantee result n (f a) s) :
    Settles rely guarantee result (n + m) (x >>= f) server := by
  induction h with
  | done ends =>
    exact (hf _ _ (ends _ (hrefl _))).weaken (Nat.le_add_right n _) fun _ _ hresult => hresult
  | send changes _ ih => exact .send changes ih
  | openSession _ ih => exact .openSession ih
  | closeSession _ ih => exact .closeSession ih
  | emit _ ih => exact .emit ih

/-- A program that is done has ended as it should. -/
theorem ends (hrefl : ∀ s, rely s s) {result : α} (h : Settles rely guarantee post n x server)
    (hx : x.result? = some result) : post result server := by
  cases h with
  | done ends => exact Option.some.inj hx ▸ ends server (hrefl server)
  | _ => cases hx

/-- A step of a program that is not done changes the server as is guaranteed, and the rest settles
within one step less. -/
theorem step (hrefl : ∀ s, rely s s) (hkept : ∀ s, guarantee s s)
    (h : Settles rely guarantee post n x server) (hx : x.result? = none) :
    guarantee server (x.step server).2 ∧
      ∃ m, n = m + 1 ∧ Settles rely guarantee post m (x.step server).1 (x.step server).2 := by
  cases h with
  | done ends => cases hx
  | send changes rest => exact ⟨changes server (hrefl server), _, rfl, rest server (hrefl server)⟩
  | openSession rest => exact ⟨hkept server, _, rfl, rest⟩
  | closeSession rest => exact ⟨hkept server, _, rfl, rest⟩
  | emit rest => exact ⟨hkept server, _, rfl, rest⟩

end Settles

end Program

end RavenBinding
