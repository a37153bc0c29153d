import ShaderKit.Proofs.Device.Lifetime
import ShaderKit.Proofs.Std.List
import ShaderKit.Proofs.Wire.Codec
import ShaderKit.Proofs.Wire.Requests
import ShaderKit.Wire.Server

/-!
# From the request to the answer

A client asks a server about one module.  Its commands wait in a buffer until they are drained; the server
executes the drained ones, in any order; and each of its replies may arrive at any time, late, out of order
or more than once.  In between the connection may be lost, and the client may go.

## Key results

- `Exchange.step`: what can happen
- `Exchange.Inv`: what is true at every point; each kind of step keeps it, and so does `Exchange.Inv.run`
- `Exchange.Faithful`: what is promised of callbacks and requests
- `Exchange.run_faithful`: what callbacks are told, and that nothing gets lost on the way
-/

namespace ShaderKit.Wire

variable {κ : Type}

/-! ## What can happen -/

/-- A reply that the server sent, and whether it arrived; it may arrive again. -/
structure SentReply where
  reply : Reply
  arrived : Bool := false

/-- A client and a server, and what is on the way between them. -/
structure Exchange (κ : Type) where
  /-- The client, until it goes. -/
  client : Option (Client κ)
  buffer : CommandBuffer := .empty
  /-- The commands that were drained and not executed yet. -/
  taken : List Command := []
  sent : List SentReply := []
  /-- What happened to the client. -/
  history : History κ := []
  /-- The callbacks that fired, with what they were told. -/
  fired : List (Firing κ) := []

/-- One thing that happens in an exchange. -/
inductive ExchangeStep (κ : Type)
  | request (callback : κ)
  /-- The commands in the buffer go to the server. -/
  | drain
  /-- The server executes one of the commands that it got. -/
  | execute (i : Nat)
  /-- One of the replies that were sent arrives. -/
  | deliver (i : Nat)
  | disconnect
  /-- The client goes. -/
  | drop

/-- The callback that a step registers. -/
def ExchangeStep.callback? : ExchangeStep κ → Option κ
  | request callback => some callback
  | _ => none

/-- Whether the client goes in the step. -/
def ExchangeStep.isDrop : ExchangeStep κ → Bool
  | drop => true
  | _ => false

/-- The callbacks that some steps register, until the client goes. -/
def registered (steps : List (ExchangeStep κ)) : List κ :=
  (steps.takeWhile (!·.isDrop)).filterMap (·.callback?)

namespace Exchange

/-- A client of the module `id`, and nothing on the way. -/
def start (id : UInt32) : Exchange κ := { client := some { id } }

/-- Something happens to the client, if it is there. -/
def act (x : Exchange κ) (s : ClientStep κ) : Exchange κ :=
  match x.client with
  | none => x
  | some c => { x with
      client := some (c.step s).1
      history := x.history ++ [s]
      fired := x.fired ++ (c.step s).2 }

/-- Where there is no such command or reply, nothing happens. -/
def step (modules : UInt32 → Option ShaderModule) (x : Exchange κ) : ExchangeStep κ → Exchange κ
  | .request callback => match x.client with
    | none => x
    | some c => { x.act (.request callback x.buffer) with
        buffer := (c.request callback x.buffer).2.1 }
  | .drain => match x.buffer.take with
    | (.ok commands, buffer) => { x with buffer, taken := x.taken ++ commands }
    | (.error _, buffer) => { x with buffer }
  | .execute i => match x.taken[i]? with
    | none => x
    | some command => match handle modules command with
      | .ok reply => { x with taken := x.taken.eraseIdx i, sent := x.sent ++ [{ reply }] }
      | .error _ => { x with taken := x.taken.eraseIdx i }
  | .deliver i => match x.sent[i]? with
    | none => x
    | some s => { x.act (.reply s.reply) with sent := x.sent.set i { s with arrived := true } }
  | .disconnect => x.act .disconnect
  | .drop => match x.client with
    | none => x
    | some c => { x with client := none, fired := x.fired ++ c.close }

/-- The steps one after another. -/
def run (modules : UInt32 → Option ShaderModule) (x : Exchange κ) (steps : List (ExchangeStep κ)) :
    Exchange κ :=
  steps.foldl (step modules) x

/-- The callbacks that have not fired. -/
def pending (x : Exchange κ) : List κ :=
  match x.client with
  | none => []
  | some c => c.requests.entries.map (·.2)

/-- Every command was executed, and every reply arrived. -/
structure Settled (x : Exchange κ) : Prop where
  buffer : x.buffer = .empty
  taken : x.taken = []
  sent : ∀ s ∈ x.sent, s.arrived = true

end Exchange

/-- What callbacks were told after some steps of an exchange about the module `m`, and what became of
their requests. -/
structure Exchange.Faithful (modules : UInt32 → Option ShaderModule) (id : UInt32) (m : ShaderModule)
    (steps : List (ExchangeStep κ)) (x : Exchange κ) : Prop where
  /-- Only a valid module makes a success, with all that was found out about it, and that is no error. -/
  success : ∀ f ∈ x.fired, f.status = .success → m.isValid = true ∧ f.info = some m.info ∧
    ∀ message ∈ m.info.messages, message.kind ≠ .error
  /-- Only a module that stands for a failed creation makes an error, which comes without info. -/
  error : ∀ f ∈ x.fired, f.status = .error → m.isValid = false ∧ f.info = none
  deviceLost : ∀ f ∈ x.fired, f.status = .deviceLost → x.history.isLost = true ∧ f.info = none
  unknown : ∀ f ∈ x.fired, f.status = .unknown → x.client = none ∧ f.info = none
  /-- A reply finds no request only if its own one ended before. -/
  refused : ∀ c, x.client = some c → ∀ s ∈ x.sent, (c.reply s.reply).2.2 = false →
    x.history.Ended id s.reply.serial
  /-- Whatever is in the buffer can be decoded, and the server can answer it. -/
  decodes : ∃ commands, x.buffer.take = (.ok commands, .empty) ∧
    ∀ command ∈ commands ++ x.taken, ∃ reply, handle modules command = .ok reply
  /-- Nothing gets lost on the way. -/
  settled : x.Settled → x.pending = []
  /-- The callbacks that fired and the pending ones are those that were registered. -/
  once : (registered steps).length < UInt64.size →
    (x.fired.map (·.callback) ++ x.pending).Perm (registered steps)
  /-- So in the end each one fired exactly once. -/
  all : (registered steps).length < UInt64.size → x.Settled →
    (x.fired.map (·.callback)).Perm (registered steps)

theorem Reply.serial_ofModule (m : ShaderModule) (serial : UInt64) :
    (Reply.ofModule m serial).serial = serial := by
  unfold Reply.ofModule
  split <;> rfl

/-! ## What is true at every point -/

namespace Command

/-- The serial of the request that a command belongs to. -/
def serial : Command → UInt64
  | getCompilationInfo _ serial => serial

end Command

namespace Exchange

/-- The serials of the commands that were not executed yet, where `commands` are those in the buffer. -/
def asked (x : Exchange κ) (commands : List Command) : List UInt64 :=
  (commands ++ x.taken).map (·.serial)

/-- The serials of the replies that did not arrive yet. -/
def awaited (x : Exchange κ) : List UInt64 :=
  (x.sent.filter (!·.arrived)).map (·.reply.serial)

/-- A callback is told no more than what happened. -/
def Tells (m : ShaderModule) (x : Exchange κ) (f : Firing κ) : Prop :=
  match f.status with
  | .success => m.isValid = true ∧ f.info = some m.info
  | .error => m.isValid = false ∧ f.info = none
  | .deviceLost => x.history.isLost = true ∧ f.info = none
  | .unknown => x.client = none ∧ f.info = none

/-- What the client does, and what callbacks are told, in an exchange about the module `m`. -/
structure Acts (id : UInt32) (m : ShaderModule) (x : Exchange κ) : Prop where
  client : ∀ c, x.client = some c → c = Client.run { id } x.history
  fired : x.fired = Client.fires { id } x.history ++
    if x.client.isSome then [] else (Client.run { id } x.history).close
  tells : ∀ f ∈ x.fired, x.Tells m f

/-- An exchange about the module `m`, with these commands in the buffer. -/
structure Inv (id : UInt32) (m : ShaderModule) (x : Exchange κ) (commands : List Command) : Prop
    extends x.Acts id m where
  buffer : x.buffer.Has commands
  about : ∀ command ∈ commands ++ x.taken, command.moduleId = id
  sent : ∀ s ∈ x.sent, s.reply = .ofModule m s.reply.serial
  /-- The server is asked, and answers, only what was requested. -/
  known : ∀ serial ∈ x.asked commands ++ x.sent.map (·.reply.serial), x.history.Known id serial
  /-- A request that is pending is on its way to the server, or its reply is on its way back. -/
  owed : ∀ c, x.client = some c → ∀ n, (c.requests.find? n).isSome = true →
    ∃ serial ∈ x.asked commands ++ x.awaited, serial.toNat = n

variable {id : UInt32} {m : ShaderModule} {x : Exchange κ} {commands : List Command}
  {modules : UInt32 → Option ShaderModule} {c : Client κ}

theorem inv_start (id : UInt32) (m : ShaderModule) : (start id : Exchange κ).Inv id m [] where
  client c hc := (Option.some.inj hc).symm
  fired := rfl
  tells f hf := nomatch hf
  buffer := CommandBuffer.has_empty
  about command hcommand := nomatch hcommand
  sent s hs := nomatch hs
  known serial hserial := nomatch hserial
  owed c hc n hn := by
    obtain rfl := Option.some.inj hc
    simp at hn

/-! ### The client -/

theorem act_eq (hc : x.client = some c) (s : ClientStep κ) :
    x.act s = { x with
      client := some (c.step s).1
      history := x.history ++ [s]
      fired := x.fired ++ (c.step s).2 } := by
  unfold act
  rw [hc]

theorem act_of_none (hc : x.client = none) (s : ClientStep κ) : x.act s = x := by
  unfold act
  rw [hc]

/-- What callbacks were told stays true. -/
theorem tells_act {f : Firing κ} (hc : x.client = some c) (hf : x.Tells m f) (s : ClientStep κ) :
    (x.act s).Tells m f := by
  unfold Tells at *
  rw [act_eq hc]
  -- a status about the module stays true, and so does that of a lost connection, which is never
  -- found again
  cases hstatus : f.status with
  | success => simpa [hstatus] using hf
  | error => simpa [hstatus] using hf
  | deviceLost =>
    simp only [hstatus] at hf ⊢
    rw [History.isLost_step, hf.1]
    exact ⟨rfl, hf.2⟩
  | unknown => simp [hstatus, hc] at hf

theorem Acts.disconnected (h : x.Acts id m) (hc : x.client = some c) :
    c.disconnected = x.history.isLost := by
  rw [h.client c hc, Client.disconnected_run]
  exact Bool.false_or _

/-- The client does a step in which callbacks are told what happened. -/
theorem Acts.act (h : x.Acts id m) (hc : x.client = some c) (s : ClientStep κ)
    (hnew : ∀ f ∈ (c.step s).2, (x.act s).Tells m f) : (x.act s).Acts id m := by
  have hrun : c = Client.run { id } x.history := h.client c hc
  -- what was told before stays true, and what is told now is true by assumption
  have htells : ∀ f ∈ x.fired ++ (c.step s).2, (x.act s).Tells m f := by
    intro f hf
    rcases List.mem_append.1 hf with hold | hf
    · exact tells_act hc (h.tells f hold) s
    · exact hnew f hf
  rw [act_eq hc] at htells ⊢
  refine ⟨fun c' hc' => ?_, ?_, htells⟩
  · rw [← Option.some.inj hc', Client.run_step, hrun]
  · show x.fired ++ (c.step s).2 = Client.fires { id } (x.history ++ [s]) ++ []
    have hfired := h.fired
    rw [hc, Option.isSome_some, if_pos rfl, List.append_nil] at hfired
    rw [Client.fires_step, List.append_nil, hfired, hrun]

/-- The client goes. -/
theorem Acts.drop (h : x.Acts id m) (hc : x.client = some c) :
    ({ x with client := none, fired := x.fired ++ c.close } : Exchange κ).Acts id m := by
  refine ⟨fun c' hc' => (nomatch hc'), ?_, fun f hf => ?_⟩
  -- a client that is there has fired what its steps fire, and closing it adds the rest
  · have hfired := h.fired
    rw [hc, Option.isSome_some, if_pos rfl, List.append_nil] at hfired
    rw [hfired, h.client c hc]
    rfl
  -- of a client that is gone, a callback may be told that as well
  · rcases List.mem_append.1 hf with hold | hf
    · have htold := h.tells f hold
      unfold Tells at htold ⊢
      cases hstatus : f.status <;> simp_all
    · obtain ⟨entry, -, rfl⟩ := List.mem_map.1 hf
      exact ⟨rfl, rfl⟩

/-! ### What is on the way -/

/-- A request that is sent waits in the buffer. -/
private theorem Inv.request_of_connected (h : x.Inv id m commands) (hc : x.client = some c)
    (hlost : c.disconnected = false) (callback : κ) :
    ({ x.act (.request callback x.buffer) with
      buffer := (c.request callback x.buffer).2.1 } : Exchange κ).Inv id m
        (commands ++ [.getCompilationInfo c.id c.nextSerial]) := by
  have hacts := h.toActs.act hc (.request callback x.buffer) fun f hf => by
    simp [Client.step, Client.request_of_connected hlost] at hf
  have hrun : c = Client.run { id } x.history := h.client c hc
  have hid : c.id = id := by
    rw [hrun, Client.id_run]
  have hbuffer : (c.request callback x.buffer).2.1 =
      x.buffer.push (.getCompilationInfo c.id c.nextSerial) := by
    rw [Client.request_of_connected hlost]
  -- the new serial is asked for, beside those that were before
  have hasked : ∀ serial, serial ∈ x.asked (commands ++ [.getCompilationInfo c.id c.nextSerial]) ↔
      serial ∈ x.asked commands ∨ serial = c.nextSerial := by
    intro serial
    simp [asked, Command.serial, or_comm, or_left_comm]
  have hnew : (((c.step (.request callback x.buffer)).1.requests.find?
      c.nextSerial.toNat).isSome = true) :=
    Client.isSome_find?_request.2 (.inr ⟨hlost, rfl⟩)
  rw [act_eq hc] at hacts ⊢
  rw [hbuffer]
  refine {
    toActs := ⟨hacts.client, hacts.fired, hacts.tells⟩
    buffer := h.buffer.push _
    about := fun command hcommand => ?_
    sent := h.sent
    known := fun serial hserial => ?_
    owed := fun c' hc' n hn => ?_ }
  -- all commands in the buffer and on the way name the module
  · simp only [List.mem_append, List.mem_singleton] at hcommand
    rcases hcommand with (hold | rfl) | hold
    · exact h.about command (List.mem_append_left _ hold)
    · exact hid
    · exact h.about command (List.mem_append_right _ hold)
  -- every serial on the way is that of a request that was made
  · rcases List.mem_append.1 hserial with hserial | hserial
    · rcases (hasked serial).1 hserial with hold | rfl
      · exact (h.known serial (List.mem_append_left _ hold)).step _
      · -- the new request is in the table
        left
        show ((Client.run { id } (x.history ++ [_])).requests.find? _).isSome = true
        rw [Client.run_step, ← hrun]
        exact hnew
    · exact (h.known serial (List.mem_append_right _ hserial)).step _
  -- a pending request is on its way, and the new one is in the buffer
  · obtain rfl := Option.some.inj hc'
    rcases Client.isSome_find?_request.1 hn with hold | ⟨-, rfl⟩
    · obtain ⟨serial, hserial, hn⟩ := h.owed c hc n hold
      refine ⟨serial, ?_, hn⟩
      rw [List.mem_append] at hserial ⊢
      exact hserial.imp_left fun hserial => (hasked serial).2 (.inl hserial)
    · exact ⟨c.nextSerial, List.mem_append_left _ ((hasked _).2 (.inr rfl)), rfl⟩

/-- A request that is not sent is told so. -/
private theorem Inv.request_of_disconnected (h : x.Inv id m commands) (hc : x.client = some c)
    (hlost : c.disconnected = true) (callback : κ) :
    ({ x.act (.request callback x.buffer) with
      buffer := (c.request callback x.buffer).2.1 } : Exchange κ).Inv id m commands := by
  have hrequest := Client.request_of_disconnected hlost callback x.buffer
  -- the one callback that fires is told that the connection is lost, which is true
  have hacts := h.toActs.act hc (.request callback x.buffer) fun f hf => by
    obtain rfl : f = ⟨callback, .deviceLost, none⟩ := by
      simpa [Client.step, hrequest] using hf
    refine ⟨?_, rfl⟩
    rw [act_eq hc]
    show History.isLost (x.history ++ [_]) = true
    rw [History.isLost_step, ← h.toActs.disconnected hc, hlost, Bool.true_or]
  rw [act_eq hc] at hacts ⊢
  rw [hrequest]
  refine {
    toActs := hacts
    buffer := h.buffer
    about := h.about
    sent := h.sent
    known := fun serial hserial => (h.known serial hserial).step _
    owed := fun c' hc' n hn => ?_ }
  obtain rfl := Option.some.inj hc'
  -- the table is as it was
  have hn' : (c.requests.find? n).isSome = true := by
    simpa [Client.step, hrequest] using hn
  exact h.owed c hc n hn'

/-- A request enters the table and the buffer, or it fails at once. -/
theorem Inv.request (h : x.Inv id m commands) (callback : κ) :
    ∃ commands', (x.step modules (.request callback)).Inv id m commands' := by
  cases hc : x.client with
  | none =>
    refine ⟨commands, ?_⟩
    simp only [step, hc]
    exact h
  | some c =>
    simp only [step, hc]
    cases hlost : c.disconnected with
    | true => exact ⟨_, h.request_of_disconnected hc hlost callback⟩
    | false => exact ⟨_, h.request_of_connected hc hlost callback⟩

/-- Draining moves the commands to the server. -/
theorem Inv.drain (h : x.Inv id m commands) :
    (x.step modules .drain).Inv id m [] := by
  -- taking never fails, as the buffer has these commands
  have hstep : x.step modules .drain =
      { x with buffer := .empty, taken := x.taken ++ commands } := by
    simp only [step, h.buffer.take_eq]
  -- what waited in the buffer is now with the server, so the same serials are on the way
  have hasked : ∀ serial, serial ∈ ({ x with
      buffer := .empty, taken := x.taken ++ commands } : Exchange κ).asked [] ↔
      serial ∈ x.asked commands := by
    intro serial
    simp [asked, or_comm]
  rw [hstep]
  refine {
    toActs := ⟨h.client, h.fired, h.tells⟩
    buffer := CommandBuffer.has_empty
    about := fun command hcommand => h.about command ?_
    sent := h.sent
    known := fun serial hserial => h.known serial ?_
    owed := fun c hc n hn => ?_ }
  · simpa [or_comm] using hcommand
  · rw [List.mem_append] at hserial ⊢
    exact hserial.imp_left (hasked serial).1
  · obtain ⟨serial, hserial, hn⟩ := h.owed c hc n hn
    refine ⟨serial, ?_, hn⟩
    rw [List.mem_append] at hserial ⊢
    exact hserial.imp_left (hasked serial).2

/-- The server answers a command about its module. -/
theorem handle_eq (hmodules : modules id = some m) {command : Command}
    (hcommand : command.moduleId = id) :
    handle modules command = .ok (.ofModule m command.serial) := by
  cases command with
  | getCompilationInfo moduleId serial =>
    obtain rfl : moduleId = id := hcommand
    simp only [handle, hmodules]
    rfl

/-- Executing a command turns it into a reply with its serial. -/
theorem Inv.execute (h : x.Inv id m commands) (hmodules : modules id = some m) (i : Nat) :
    (x.step modules (.execute i)).Inv id m commands := by
  cases htaken : x.taken[i]? with
  | none =>
    simp only [step, htaken]
    exact h
  | some command =>
    have hmem : command ∈ x.taken := List.mem_of_getElem? htaken
    have hcommand := h.about command (List.mem_append_right _ hmem)
    have hserial : command.serial ∈ x.asked commands :=
      List.mem_map.2 ⟨command, List.mem_append_right _ hmem, rfl⟩
    simp only [step, htaken, handle_eq hmodules hcommand]
    -- what is left to execute was there before
    have hold : ∀ other ∈ commands ++ x.taken.eraseIdx i, other ∈ commands ++ x.taken := by
      intro other hother
      rw [List.mem_append] at hother ⊢
      exact hother.imp_right List.mem_of_mem_eraseIdx
    refine {
      toActs := ⟨h.client, h.fired, h.tells⟩
      buffer := h.buffer
      about := fun other hother => h.about other (hold other hother)
      sent := fun s hs => ?_
      known := fun serial hs => h.known serial ?_
      owed := fun c hc n hn => ?_ }
    -- the new reply is the one about the module with the serial of the command
    · rcases List.mem_append.1 hs with hs | hs
      · exact h.sent s hs
      · obtain rfl := List.mem_singleton.1 hs
        rw [Reply.serial_ofModule]
    · simp only [List.map_append, List.mem_append] at hs ⊢
      rcases hs with hs | hs | hs
      · obtain ⟨other, hother, rfl⟩ := List.mem_map.1 hs
        exact .inl (List.mem_map.2 ⟨other, hold other hother, rfl⟩)
      · exact .inr hs
      · obtain rfl : serial = command.serial := by
          simpa [Reply.serial_ofModule] using hs
        exact .inl hserial
    · obtain ⟨serial, hs, hn⟩ := h.owed c hc n hn
      refine ⟨serial, ?_, hn⟩
      simp only [asked, awaited, List.filter_append, List.map_append, List.mem_append] at hs ⊢
      rcases hs with (hs | hs) | hs
      · exact .inl (.inl hs)
      · -- the command may be the one that was executed
        obtain ⟨other, hother, rfl⟩ := List.mem_map.1 hs
        rcases List.mem_eraseIdx_or_eq htaken hother with hleft | rfl
        · exact .inl (.inr (List.mem_map.2 ⟨other, hleft, rfl⟩))
        · exact .inr (.inr (by simp [Reply.serial_ofModule]))
      · exact .inr (.inl hs)

/-- What the client is told by a reply about the module. -/
private theorem tells_of_reply {s : SentReply} (h : x.Inv id m commands) (hs : s ∈ x.sent) :
    ∀ f ∈ (c.step (.reply s.reply)).2, x.Tells m f := by
  intro f hf
  have hreply := h.sent s hs
  replace hf : f ∈ (c.reply s.reply).2.1 := hf
  rw [Client.reply_eq] at hf
  obtain ⟨callback, -, rfl⟩ := List.mem_map.1 hf
  rw [hreply]
  unfold Tells Reply.ofModule
  cases m.isValid <;> simp

/-- A reply that arrives is the one that was sent. -/
private theorem exists_sent_of_arrived {s t : SentReply} {i : Nat} (hs : x.sent[i]? = some s)
    (ht : t ∈ x.sent.set i { s with arrived := true }) : ∃ t' ∈ x.sent, t'.reply = t.reply := by
  rcases List.mem_or_eq_of_mem_set ht with hold | rfl
  · exact ⟨t, hold, rfl⟩
  · exact ⟨s, List.mem_of_getElem? hs, rfl⟩

/-- The requests that a reply leaves pending wait for other replies. -/
private theorem Inv.owed_of_arrived (h : x.Inv id m commands) (hc : x.client = some c)
    {s : SentReply} {i n : Nat} (hs : x.sent[i]? = some s)
    (hn : ((c.reply s.reply).1.requests.find? n).isSome = true) :
    ∃ serial ∈ x.asked commands ++
        ({ x with sent := x.sent.set i { s with arrived := true } } : Exchange κ).awaited,
      serial.toNat = n := by
  obtain ⟨hpending, hne⟩ := Client.isSome_find?_reply.1 hn
  obtain ⟨serial, hserial, rfl⟩ := h.owed c hc n hpending
  refine ⟨serial, ?_, rfl⟩
  rw [List.mem_append] at hserial ⊢
  refine hserial.imp_right fun hserial => ?_
  obtain ⟨t, ht, rfl⟩ := List.mem_map.1 hserial
  obtain ⟨ht, harrived⟩ := List.mem_filter.1 ht
  rcases List.mem_set_or_eq { s with arrived := true } hs ht with hleft | rfl
  · exact List.mem_map.2 ⟨t, List.mem_filter.2 ⟨hleft, harrived⟩, rfl⟩
  · exact absurd rfl hne

/-- A reply that arrives takes its request from the table. -/
theorem Inv.deliver (h : x.Inv id m commands) (i : Nat) :
    (x.step modules (.deliver i)).Inv id m commands := by
  cases hs : x.sent[i]? with
  | none =>
    simp only [step, hs]
    exact h
  | some s =>
    simp only [step, hs]
    -- the replies are those that were sent, whether they have arrived or not
    have hknown : ∀ serial ∈ x.asked commands ++
        (x.sent.set i { s with arrived := true }).map (·.reply.serial), x.history.Known id serial := by
      intro serial hserial
      refine h.known serial ?_
      rw [List.mem_append] at hserial ⊢
      refine hserial.imp_right fun hserial => ?_
      obtain ⟨t, ht, rfl⟩ := List.mem_map.1 hserial
      obtain ⟨t', ht', hreply⟩ := exists_sent_of_arrived hs ht
      exact List.mem_map.2 ⟨t', ht', by rw [hreply]⟩
    have hreplies : ∀ t ∈ x.sent.set i { s with arrived := true },
        t.reply = .ofModule m t.reply.serial := by
      intro t ht
      obtain ⟨t', ht', hreply⟩ := exists_sent_of_arrived hs ht
      rw [← hreply]
      exact h.sent t' ht'
    -- a reply that finds no client changes nothing else
    cases hc : x.client with
    | none =>
      rw [act_of_none hc]
      exact {
        toActs := ⟨h.client, h.fired, h.tells⟩
        buffer := h.buffer
        about := h.about
        sent := hreplies
        known := hknown
        owed := fun c hc' => nomatch hc.symm.trans hc' }
    | some c =>
      have hacts := h.toActs.act hc (.reply s.reply) fun f hf =>
        tells_act hc (tells_of_reply h (List.mem_of_getElem? hs) f hf) _
      rw [act_eq hc] at hacts ⊢
      exact {
        toActs := ⟨hacts.client, hacts.fired, hacts.tells⟩
        buffer := h.buffer
        about := h.about
        sent := hreplies
        known := fun serial hserial => (hknown serial hserial).step _
        owed := fun c' hc' n hn => by
          obtain rfl := Option.some.inj hc'
          exact h.owed_of_arrived hc hs hn }

/-- The loss of the connection ends all requests. -/
theorem Inv.disconnect (h : x.Inv id m commands) :
    (x.step modules .disconnect).Inv id m commands := by
  cases hc : x.client with
  | none =>
    simp only [step, act_of_none hc]
    exact h
  | some c =>
    -- all pending callbacks are told of the loss, which the history now has
    have hacts := h.toActs.act hc .disconnect fun f hf => by
      obtain ⟨entry, -, rfl⟩ := List.mem_map.1 hf
      refine ⟨?_, rfl⟩
      rw [act_eq hc]
      show History.isLost (x.history ++ [_]) = true
      rw [History.isLost_step]
      exact Bool.or_true _
    simp only [step]
    rw [act_eq hc] at hacts ⊢
    exact {
      toActs := hacts
      buffer := h.buffer
      about := h.about
      sent := h.sent
      known := fun serial hserial => (h.known serial hserial).step _
      owed := fun c' hc' n hn => by
        obtain rfl := Option.some.inj hc'
        simp [Client.step, Client.disconnect] at hn }

theorem Inv.drop (h : x.Inv id m commands) : (x.step modules .drop).Inv id m commands := by
  cases hc : x.client with
  | none =>
    simp only [step, hc]
    exact h
  | some c =>
    have hacts := h.toActs.drop hc
    simp only [step, hc]
    exact {
      toActs := hacts
      buffer := h.buffer
      about := h.about
      sent := h.sent
      known := h.known
      owed := fun c' hc' => nomatch hc' }

/-- Each step keeps the invariant. -/
theorem Inv.step (h : x.Inv id m commands) (hmodules : modules id = some m) (s : ExchangeStep κ) :
    ∃ commands', (x.step modules s).Inv id m commands' := by
  cases s with
  | request callback => exact h.request callback
  | drain => exact ⟨_, h.drain⟩
  | execute i => exact ⟨_, h.execute hmodules i⟩
  | deliver i => exact ⟨_, h.deliver i⟩
  | disconnect => exact ⟨_, h.disconnect⟩
  | drop => exact ⟨_, h.drop⟩

/-- So does a run. -/
theorem Inv.run (h : x.Inv id m commands) (hmodules : modules id = some m)
    (steps : List (ExchangeStep κ)) : ∃ commands', (x.run modules steps).Inv id m commands' := by
  induction steps generalizing x commands with
  | nil => exact ⟨commands, h⟩
  | cons s rest ih =>
    obtain ⟨_, hstep⟩ := h.step hmodules s
    exact ih hstep

/-! ## What becomes of requests -/

/-- The client is there until it goes, and its history grows by the requests that it makes. -/
theorem history_step (modules : UInt32 → Option ShaderModule) (x : Exchange κ) (s : ExchangeStep κ) :
    (x.step modules s).client.isSome = (x.client.isSome && !s.isDrop) ∧
      (x.step modules s).history.filterMap (·.callback?) = x.history.filterMap (·.callback?) ++
        if x.client.isSome then s.callback?.toList else [] := by
  -- what does not concern the client leaves it and its history alone
  have hsame : ∀ y : Exchange κ, y.client = x.client → y.history = x.history →
      y.client.isSome = (x.client.isSome && !false) ∧
        y.history.filterMap (·.callback?) = x.history.filterMap (·.callback?) ++
          if x.client.isSome then [] else [] := by
    intro y hclient hhistory
    rw [hclient, hhistory]
    simp
  cases s with
  | request callback =>
    cases hc : x.client with
    | none => simp [step, hc]
    | some c => simp [step, hc, act_eq hc, ClientStep.callback?, ExchangeStep.callback?,
        ExchangeStep.isDrop]
  | drain =>
    rcases htake : x.buffer.take with ⟨_ | commands, buffer⟩
    · simp only [step, htake]
      exact hsame _ rfl rfl
    · simp only [step, htake]
      exact hsame _ rfl rfl
  | execute i =>
    cases htaken : x.taken[i]? with
    | none =>
      simp only [step, htaken]
      exact hsame x rfl rfl
    | some command =>
      simp only [step, htaken]
      cases handle modules command <;> exact hsame _ rfl rfl
  | deliver i =>
    cases hsent : x.sent[i]? with
    | none =>
      simp only [step, hsent]
      exact hsame x rfl rfl
    | some s =>
      simp only [step, hsent]
      cases hc : x.client with
      | none => simp [act_of_none hc, hc]
      | some c => simp [act_eq hc, ClientStep.callback?, ExchangeStep.callback?, ExchangeStep.isDrop]
  | disconnect =>
    cases hc : x.client with
    | none => simp [step, act_of_none hc, hc]
    | some c => simp [step, act_eq hc, ClientStep.callback?, ExchangeStep.callback?,
        ExchangeStep.isDrop]
  | drop => cases hc : x.client <;> simp [step, hc, ExchangeStep.callback?, ExchangeStep.isDrop]

/-- The client's history has the requests that are made while the client is there. -/
theorem history_run (modules : UInt32 → Option ShaderModule) (x : Exchange κ)
    (steps : List (ExchangeStep κ)) :
    (x.run modules steps).history.filterMap (·.callback?) = x.history.filterMap (·.callback?) ++
      if x.client.isSome then registered steps else [] := by
  induction steps generalizing x with
  | nil =>
    show _ = _ ++ ite _ [] []
    rw [ite_self, List.append_nil]
    rfl
  | cons s rest ih =>
    obtain ⟨hclient, hhistory⟩ := history_step modules x s
    show ((x.step modules s).run modules rest).history.filterMap _ = _
    rw [ih, hclient, hhistory, List.append_assoc]
    congr 1
    unfold registered
    -- once the client is gone no request counts, and dropping it is the step after which none does
    cases hthere : x.client.isSome with
    | false => rfl
    | true =>
      cases s with
      | request callback => simp [ExchangeStep.isDrop, ExchangeStep.callback?]
      | drop => simp [ExchangeStep.isDrop, ExchangeStep.callback?]
      | drain => simp [ExchangeStep.isDrop, ExchangeStep.callback?]
      | execute i => simp [ExchangeStep.isDrop, ExchangeStep.callback?]
      | deliver i => simp [ExchangeStep.isDrop, ExchangeStep.callback?]
      | disconnect => simp [ExchangeStep.isDrop, ExchangeStep.callback?]

/-- Where everything was executed and arrived, no request is pending. -/
theorem Inv.pending_eq_nil (h : x.Inv id m commands) (hsettled : x.Settled) : x.pending = [] := by
  -- nothing is in the buffer, nothing is to be executed and no reply is on its way
  have hcommands : commands = [] := by
    have htake := h.buffer.take_eq
    rw [hsettled.buffer, CommandBuffer.has_empty.take_eq] at htake
    exact (Except.ok.inj (Prod.mk.inj htake).1).symm
  have hasked : x.asked commands = [] := by
    rw [asked, hcommands, hsettled.taken]
    rfl
  have hawaited : x.awaited = [] := by
    have hnone : x.sent.filter (!·.arrived) = [] :=
      List.filter_eq_nil_iff.2 fun s hs => by simp [hsettled.sent s hs]
    rw [awaited, hnone]
    rfl
  unfold pending
  cases hc : x.client with
  | none => rfl
  | some c =>
    refine List.map_eq_nil_iff.2 (List.eq_nil_iff_forall_not_mem.2 fun request hrequest => ?_)
    have hfind := (NumberMap.find?_eq_some_iff c.requests).2 hrequest
    -- a request that is pending would be on its way somewhere
    obtain ⟨serial, hserial, -⟩ := h.owed c hc request.1 (by rw [hfind]; rfl)
    rw [hasked, hawaited] at hserial
    exact nomatch hserial

/-- The callbacks that fired and the pending ones are those of the client's requests. -/
theorem Acts.perm (h : x.Acts id m) {callbacks : List κ}
    (hcallbacks : x.history.filterMap (·.callback?) = callbacks)
    (hfew : callbacks.length < UInt64.size) :
    (x.fired.map (·.callback) ++ x.pending).Perm callbacks := by
  have hcount : callbacks.length = x.history.requestCount := by
    rw [← hcallbacks]
    exact List.length_filterMap_eq_countP
  -- the client alone keeps track of its callbacks; here that is put in terms of the exchange
  have hperm := (Client.tracks_start (κ := κ) id).run_perm x.history (hcount ▸ hfew)
  rw [show (({ id } : Client κ).requests.entries.map (·.2) ++ _) = callbacks from hcallbacks] at hperm
  have hfired := h.fired
  unfold pending
  cases hc : x.client with
  | none =>
    -- a client that is gone has fired what was in its table too
    have hclose : (Client.run { id } x.history).close.map (·.callback) =
        (Client.run { id } x.history).requests.entries.map (·.2) := List.map_map
    rw [hc] at hfired
    rw [hfired, List.append_nil, List.map_append]
    exact hclose ▸ hperm
  | some c =>
    rw [hc, Option.isSome_some, if_pos rfl, List.append_nil] at hfired
    rw [hfired]
    show (_ ++ c.requests.entries.map (·.2)).Perm _
    rw [h.client c hc]
    exact hperm

/-- A reply that finds no request comes too late. -/
theorem Inv.refused (h : x.Inv id m commands) (hc : x.client = some c) {s : SentReply}
    (hs : s ∈ x.sent) (hrefused : (c.reply s.reply).2.2 = false) :
    x.history.Ended id s.reply.serial := by
  have hmem : s.reply.serial ∈ x.sent.map (·.reply.serial) := List.mem_map.2 ⟨s, hs, rfl⟩
  -- were the request pending, the reply would have found it
  rcases h.known _ (List.mem_append_right _ hmem) with hpending | hended
  · unfold History.Pending at hpending
    rw [← h.client c hc] at hpending
    rw [Client.reply_eq] at hrefused
    exact nomatch hpending.symm.trans hrefused
  · exact hended

/-- However a client, the server and what is between them take turns, callbacks are told what is true of
the module; no reply is refused without reason; all that is sent can be decoded and answered; and no
callback is lost, or fires twice.  The last holds of fewer requests than there are serials. -/
theorem run_faithful {compiler : Wgsl.Compiler} {config : DeviceConfig}
    {sessionSteps : List SessionStep} {name : String} {m : ShaderModule}
    (hm : ((Session.start config).run compiler sessionSteps).module? name = some m)
    {modules : UInt32 → Option ShaderModule} {id : UInt32} (hmodules : modules id = some m)
    (steps : List (ExchangeStep κ)) :
    ((start id : Exchange κ).run modules steps).Faithful modules id m steps := by
  -- all that is asked for is read off the invariant that holds after the run
  obtain ⟨commands, h⟩ := (inv_start id m : (start id : Exchange κ).Inv id m []).run hmodules steps
  have hregistered := history_run modules (start id) steps
  generalize (start id : Exchange κ).run modules steps = x at h hregistered ⊢
  have htells : ∀ f ∈ x.fired, ∀ status, f.status = status → x.Tells m { f with status } := by
    rintro f hf _ rfl
    exact h.tells f hf
  refine {
    success := fun f hf hstatus => ?_
    error := fun f hf hstatus => htells f hf _ hstatus
    deviceLost := fun f hf hstatus => htells f hf _ hstatus
    unknown := fun f hf hstatus => htells f hf _ hstatus
    refused := fun c hc s hs hrefused => h.refused hc hs hrefused
    decodes := ⟨commands, h.buffer.take_eq, fun command hcommand =>
      ⟨_, handle_eq hmodules (h.about command hcommand)⟩⟩
    settled := h.pending_eq_nil
    once := h.toActs.perm hregistered
    all := fun hfew hsettled => ?_ }
  · obtain ⟨hvalid, hinfo⟩ := htells f hf _ hstatus
    exact ⟨hvalid, hinfo, Session.kind_ne_error hm hvalid⟩
  · have hperm := h.toActs.perm hregistered hfew
    rwa [h.pending_eq_nil hsettled, List.append_nil] at hperm

/-- The later of two requests is answered first, and its reply arrives twice. -/
theorem run_faithful_outOfOrder :
    let m : ShaderModule := ⟨none, .valid ⟨.spirv, none, [7], .crossCompiler, true⟩, {}⟩
    let modules : UInt32 → Option ShaderModule := fun id => if id = 3 then some m else none
    let session := (Session.start { validate := false }).run Wgsl.compiler
      [.create "m" { chain := [.source (.spirv [7])] }]
    let steps : List (ExchangeStep String) := [.request "a", .request "b", .drain, .execute 1,
      .execute 0, .deliver 0, .deliver 0, .deliver 1]
    let x := (start 3).run modules steps
    session.module? "m" = some m ∧ modules 3 = some m ∧ x.Faithful modules 3 m steps ∧
      x.fired = [⟨"b", .success, some {}⟩, ⟨"a", .success, some {}⟩] := by
  intro m modules session steps x
  have hm : session.module? "m" = some m := rfl
  have hmodules : modules 3 = some m := rfl
  have hfired : x.fired = [⟨"b", .success, some {}⟩, ⟨"a", .success, some {}⟩] := by
    decide +kernel
  exact ⟨hm, hmodules, run_faithful hm hmodules _, hfired⟩

end Exchange

end ShaderKit.Wire
