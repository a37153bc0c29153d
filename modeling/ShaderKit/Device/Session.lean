import ShaderKit.Device.Basic

/-!
# Sessions

A device with named handles of its modules.  A name holds one handle at most; a handle that a name gets
is there before the one that the name had is released, so a module can replace itself.
-/

namespace ShaderKit

/-- A device with names for handles to its modules. -/
structure Session where
  device : Device
  handles : List (String × ModuleId) := []

/-- What is done in a session. -/
inductive SessionStep
  | create (name : String) (descriptor : ModuleDescriptor)
  | createOrFailed (name : String) (descriptor : ModuleDescriptor)
  | createFailed (name : String) (label : Option String) (reason : String)
  | clone (source name : String)
  | drop (name : String)
  deriving DecidableEq

namespace Session

/-- A session with nothing in it. -/
def start (config : DeviceConfig) : Session := ⟨{ config }, []⟩

/-- The number of the module that a name has a handle of. -/
def id? (s : Session) (name : String) : Option ModuleId := s.handles.lookup name

/-- The module that a name stands for. -/
def module? (s : Session) (name : String) : Option ShaderModule :=
  (s.id? name).bind s.device.module?

/-- Releases the handle of a name. -/
def drop (s : Session) (name : String) : Session :=
  match s.id? name with
  | none => s
  | some id => ⟨s.device.release id, s.handles.filter (·.1 != name)⟩

/-- Gives a new handle to a name. -/
def assign (s : Session) (name : String) (id : ModuleId) : Session :=
  let s := s.drop name
  { s with handles := (name, id) :: s.handles }

/-- A handle that the device just gave out goes to a name. -/
def put (s : Session) (name : String) (created : ModuleId × Device) : Session :=
  ({ s with device := created.2 } : Session).assign name created.1

/-- Creates a module, and gives the handle a name. -/
def create (compiler : Wgsl.Compiler) (s : Session) (name : String) (d : ModuleDescriptor) :
    Except CreationError Session :=
  (s.device.create compiler d).map (s.put name)

/-- Creates a module, or a failed one in its place, and gives the handle a name. -/
def createOrFailed (compiler : Wgsl.Compiler) (s : Session) (name : String)
    (d : ModuleDescriptor) : Session :=
  s.put name (s.device.createOrFailed compiler d)

/-- Creates a module that failed for the reason, and gives the handle a name. -/
def createFailed (s : Session) (name : String) (label : Option String) (reason : String) : Session :=
  s.put name (s.device.createFailed label reason)

/-- One more handle of a module, for another name or the same. -/
def clone (s : Session) (source name : String) : Session :=
  match s.id? source with
  | none => s
  | some id => s.put name (id, s.device.retain id)

/-- A creation that fails changes nothing. -/
def step (compiler : Wgsl.Compiler) (s : Session) : SessionStep → Session
  | .create name d => match s.create compiler name d with
    | .ok next => next
    | .error _ => s
  | .createOrFailed name d => s.createOrFailed compiler name d
  | .createFailed name label reason => s.createFailed name label reason
  | .clone source name => s.clone source name
  | .drop name => s.drop name

/-- Takes steps one after another. -/
def run (compiler : Wgsl.Compiler) (s : Session) (steps : List SessionStep) : Session :=
  steps.foldl (step compiler) s

end Session

end ShaderKit
