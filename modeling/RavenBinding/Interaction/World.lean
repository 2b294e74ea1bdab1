import RavenBinding.Interaction.Program
import RavenBinding.Server.State

/-!
# Running programs

A program runs in a world: a server, replies that come first, and a record of what was sent and
shown.

## Main definitions

- `World`: the surroundings of a program
- `Program.run`: the result of a program and the world after it
-/

namespace RavenBinding

/-- The surroundings of a program. -/
structure World where
  server : Server
  /-- Replies in place of those of the server, for one request each; `none` lets the server
  answer. -/
  replies : List (Option Reply) := []
  /-- What closing a session raises. -/
  closeFault : Option Fault := none
  /-- How many sessions were opened and not closed. -/
  openSessions : Int := 0
  /-- The requests so far, the last one first. -/
  sent : List Request := []
  /-- The events so far, the last one first. -/
  shown : List Event := []

namespace World

/-- The reply to a request, and the world after it. -/
def exchange (world : World) (request : Request) : Reply × World :=
  let world := { world with sent := request :: world.sent }
  match world.replies with
  | some reply :: rest => (reply, { world with replies := rest })
  | waiting =>
    let (response, server) := world.server.answer request
    (.response response, { world with server := server, replies := waiting.drop 1 })

/-- The requests in order. -/
def requests (world : World) : List Request := world.sent.reverse

/-- The events in order. -/
def events (world : World) : List Event := world.shown.reverse

/-- The world with an empty record. -/
def forget (world : World) : World := { world with sent := [], shown := [] }

end World

/-- Runs a program. -/
def Program.run {α : Type} : Program α → World → α × World
  | done result, world => (result, world)
  | send request next, world =>
    let (reply, world) := world.exchange request
    run (next reply) world
  | openSession next, world => run next { world with openSessions := world.openSessions + 1 }
  | closeSession next, world =>
    run (next world.closeFault) { world with openSessions := world.openSessions - 1 }
  | emit event next, world => run next { world with shown := event :: world.shown }

end RavenBinding
