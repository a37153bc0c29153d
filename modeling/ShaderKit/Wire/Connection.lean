import ShaderKit.Wire.Server

/-!
# Connections

The clients on one side of a connection, by the module they ask about, and the commands that they have
sent.
-/

namespace ShaderKit.Wire

/-- The clients of a server by their number, and the commands on their way to it. -/
structure Connection (κ : Type) where
  clients : NumberMap (Client κ) := .empty
  buffer : CommandBuffer := .empty

namespace Connection

variable {κ : Type}

/-- A new client.  One that asked about the same module goes. -/
def join (c : Connection κ) (id : UInt32) : Connection κ × List (Firing κ) :=
  ({ c with clients := c.clients.insert id.toNat { id } },
    (c.clients.find? id.toNat).elim [] (·.close))

/-- A client's request, if there is such a client. -/
def request (c : Connection κ) (id : UInt32) (callback : κ) :
    Option (Connection κ × List (Firing κ)) :=
  (c.clients.find? id.toNat).map fun client =>
    let (client, buffer, fired) := client.request callback c.buffer
    (⟨c.clients.insert id.toNat client, buffer⟩, fired)

/-- Passes a reply to a client, if there is such a client; says whether the client knows its serial. -/
def reply (c : Connection κ) (id : UInt32) (r : Reply) :
    Option (Connection κ × List (Firing κ) × Bool) :=
  (c.clients.find? id.toNat).map fun client =>
    let (client, fired, known) := client.reply r
    ({ c with clients := c.clients.insert id.toNat client }, fired, known)

/-- A client is disconnected, and its pending requests end. -/
def disconnect (c : Connection κ) (id : UInt32) : Option (Connection κ × List (Firing κ)) :=
  (c.clients.find? id.toNat).map fun client =>
    let (client, fired) := client.disconnect
    ({ c with clients := c.clients.insert id.toNat client }, fired)

/-- A client goes. -/
def leave (c : Connection κ) (id : UInt32) : Option (Connection κ × List (Firing κ)) :=
  (c.clients.find? id.toNat).map fun client =>
    ({ c with clients := c.clients.erase id.toNat }, client.close)

/-- All clients go, by ascending number. -/
def close (c : Connection κ) : List (Firing κ) :=
  c.clients.entries.flatMap fun (_, client) => client.close

/-- Takes the commands that were sent. -/
def take (c : Connection κ) : Except WireError (List Command) × Connection κ :=
  let (commands, buffer) := c.buffer.take
  (commands, { c with buffer })

/-- What came of a command: the server's answer, and whether the client that it went to knew its serial,
where there is such a client. -/
abbrev Delivery := Except WireError (Reply × Option Bool)

/-- Has the server answer a command, and passes the answer on. -/
def deliver (modules : UInt32 → Option ShaderModule) (c : Connection κ) (command : Command) :
    Connection κ × List (Firing κ) × Delivery :=
  match handle modules command with
  | .error e => (c, [], .error e)
  | .ok r => match c.reply command.moduleId r with
    | some (c, fired, known) => (c, fired, .ok (r, some known))
    | none => (c, [], .ok (r, none))

/-- Delivers commands one after the other. -/
def deliverAll (modules : UInt32 → Option ShaderModule) :
    Connection κ → List Command → Connection κ × List (Firing κ) × List Delivery
  | c, [] => (c, [], [])
  | c, command :: rest =>
    let (c, fired, delivery) := c.deliver modules command
    let (c, later, deliveries) := deliverAll modules c rest
    (c, fired ++ later, delivery :: deliveries)

end Connection

end ShaderKit.Wire
