import ShaderKit.Binding.NumberMap
import ShaderKit.ShaderModule.CompilationInfo
import ShaderKit.Wire.Command

/-!
# Clients

A client asks for the compilation info of one module on the server.  Each request carries a serial and a
callback; the callback fires once, with the reply to that serial, when the connection is lost, or when
the client goes.
-/

namespace ShaderKit.Wire

/-- How a request ended. -/
inductive RequestStatus
  | success
  | error
  | deviceLost
  /-- The request was given up. -/
  | unknown
  deriving DecidableEq

namespace RequestStatus

/-- The name of a status. -/
def name : RequestStatus → String
  | success => "Success"
  | error => "Error"
  | deviceLost => "DeviceLost"
  | unknown => "Unknown"

/-- The status of that name. -/
def ofName? (text : String) : Option RequestStatus :=
  [success, error, deviceLost, unknown].find? (·.name == text)

end RequestStatus

/-- What the server answers. -/
structure Reply where
  serial : UInt64
  status : RequestStatus
  info : Option CompilationInfo
  deriving DecidableEq

/-- A callback that runs, with what it is told. -/
structure Firing (κ : Type) where
  callback : κ
  status : RequestStatus
  info : Option CompilationInfo
  deriving DecidableEq

/-- A client of the module `id`, with callbacks of type `κ`. -/
structure Client (κ : Type) where
  id : UInt32
  nextSerial : UInt64 := 0
  /-- The callbacks that have not fired, by the serial of their request. -/
  requests : NumberMap κ := .empty
  disconnected : Bool := false

namespace Client

variable {κ : Type}

/-- How many requests have not ended. -/
def pending (c : Client κ) : Nat := c.requests.size

/-- A new request.  After the connection was lost it fails at once; otherwise it is sent. -/
def request (c : Client κ) (callback : κ) (buffer : CommandBuffer) :
    Client κ × CommandBuffer × List (Firing κ) :=
  if c.disconnected then (c, buffer, [⟨callback, .deviceLost, none⟩])
  else
    let sent := { c with
      nextSerial := c.nextSerial + 1
      requests := c.requests.insert c.nextSerial.toNat callback }
    (sent, buffer.push (.getCompilationInfo c.id c.nextSerial), [])

/-- Passes a reply to the request with its serial; says whether there is one.  Only a success has info. -/
def reply (c : Client κ) (r : Reply) : Client κ × List (Firing κ) × Bool :=
  match c.requests.find? r.serial.toNat with
  | none => (c, [], false)
  | some callback =>
    let info := if r.status = .success then r.info else none
    ({ c with requests := c.requests.erase r.serial.toNat }, [⟨callback, r.status, info⟩], true)

/-- All pending callbacks, by ascending serial, told the same. -/
def firings (c : Client κ) (status : RequestStatus) : List (Firing κ) :=
  c.requests.entries.map fun (_, callback) => ⟨callback, status, none⟩

/-- The connection is lost. -/
def disconnect (c : Client κ) : Client κ × List (Firing κ) :=
  ({ c with requests := .empty, disconnected := true }, c.firings .deviceLost)

/-- The client goes. -/
def close (c : Client κ) : List (Firing κ) := c.firings .unknown

/-- The client in one line. -/
def describe (c : Client κ) : String :=
  s!"ClientShaderModule \x7b id: {c.id}, next_serial: {c.nextSerial}, pending: {c.pending}, disconnected: {c.disconnected} \x7d"

end Client

end ShaderKit.Wire
