import ShaderKit.Proofs.Wire.Callbacks

/-!
# Requests, whatever their number

What can be said of a client's requests without counting them: a request stays in the table until its reply
arrives or the connection is lost, even if the serials start again from zero.

## Key results

- `Client.fires_step`: what fires in some steps, and then in one more
- `Client.isSome_find?_request`, `Client.isSome_find?_reply`: what the table has after a step
- `History.Known.step`: a request that was made is pending, or it has ended
-/

namespace ShaderKit.Wire

variable {κ : Type}

/-! ## One more step -/

namespace Client

variable {c : Client κ} {h : History κ} {s : ClientStep κ} {serial : Nat}

theorem run_step (c : Client κ) (h : History κ) (s : ClientStep κ) :
    c.run (h ++ [s]) = ((c.run h).step s).1 := by
  unfold run
  rw [List.foldl_append]
  rfl

theorem id_step (c : Client κ) (s : ClientStep κ) : (c.step s).1.id = c.id := by
  cases s with
  | request callback buffer =>
    show (c.request callback buffer).1.id = c.id
    unfold request
    split <;> rfl
  | reply r =>
    show (c.reply r).1.id = c.id
    rw [reply_eq]
  | disconnect => rfl

theorem disconnected_step (c : Client κ) (s : ClientStep κ) :
    (c.step s).1.disconnected = (c.disconnected || s.isDisconnect) := by
  cases s with
  | request callback buffer =>
    show (c.request callback buffer).1.disconnected = (c.disconnected || false)
    rw [Bool.or_false]
    unfold request
    split <;> rfl
  | reply r =>
    show (c.reply r).1.disconnected = (c.disconnected || false)
    rw [Bool.or_false, reply_eq]
  | disconnect => exact (Bool.or_true _).symm

theorem id_run (c : Client κ) (h : History κ) : (c.run h).id = c.id := by
  induction h generalizing c with
  | nil => rfl
  | cons s h ih => exact (ih (c.step s).1).trans (id_step c s)

theorem disconnected_run (c : Client κ) (h : History κ) :
    (c.run h).disconnected = (c.disconnected || h.isLost) := by
  induction h generalizing c with
  | nil => exact (Bool.or_false _).symm
  | cons s h ih =>
    have hrest := ih (c.step s).1
    rw [disconnected_step, Bool.or_assoc] at hrest
    exact hrest

/-- The callbacks that fire in some steps. -/
def fires (c : Client κ) (h : History κ) : List (Firing κ) := ((c.life h).take h.length).flatten

theorem fires_step (c : Client κ) (h : History κ) (s : ClientStep κ) :
    c.fires (h ++ [s]) = c.fires h ++ ((c.run h).step s).2 := by
  -- the first step fires what it does in both, and the rest run from the client after it
  induction h generalizing c with
  | nil => simp [fires, life, run]
  | cons first h ih =>
    have hrest := ih (c.step first).1
    unfold fires at hrest ⊢
    rw [List.cons_append, life, life, List.length_cons, List.length_cons, List.take_succ_cons,
      List.take_succ_cons, List.flatten_cons, List.flatten_cons, hrest, List.append_assoc]
    rfl

/-- What a request leaves in the table: what was there, and its callback if it is sent. -/
theorem isSome_find?_request {callback : κ} {buffer : CommandBuffer} :
    ((c.request callback buffer).1.requests.find? serial).isSome = true ↔
      (c.requests.find? serial).isSome = true ∨
        c.disconnected = false ∧ serial = c.nextSerial.toNat := by
  cases hlost : c.disconnected with
  | true =>
    rw [request_of_disconnected hlost]
    simp
  | false =>
    rw [request_of_connected hlost]
    by_cases hserial : serial = c.nextSerial.toNat
    · simp [hserial]
    · simp [hserial, NumberMap.find?_insert_of_ne]

/-- A reply takes its own request from the table and no other one. -/
theorem isSome_find?_reply {r : Reply} :
    ((c.reply r).1.requests.find? serial).isSome = true ↔
      (c.requests.find? serial).isSome = true ∧ serial ≠ r.serial.toNat := by
  rw [reply_eq, NumberMap.find?_erase]
  by_cases hserial : serial = r.serial.toNat <;> simp [hserial]

end Client

/-! ## Pending requests and others -/

namespace History

variable {id : UInt32} {h : History κ} {serial : UInt64}

/-- The request with this serial is pending. -/
def Pending (id : UInt32) (h : History κ) (serial : UInt64) : Prop :=
  ((Client.run { id } h).requests.find? serial.toNat).isSome = true

/-- The request with this serial was pending, and then its reply arrived or the connection was lost. -/
def Ended (id : UInt32) (h : History κ) (serial : UInt64) : Prop :=
  ∃ before s after, h = before ++ s :: after ∧ Pending id before serial ∧
    (s.told? serial.toNat).isSome = true

theorem Ended.append (he : h.Ended id serial) (rest : History κ) : Ended id (h ++ rest) serial := by
  obtain ⟨before, s, after, rfl, hpending, htold⟩ := he
  exact ⟨before, s, after ++ rest, by simp, hpending, htold⟩

/-- The request with this serial was made: it is pending, or it has ended. -/
def Known (id : UInt32) (h : History κ) (serial : UInt64) : Prop :=
  h.Pending id serial ∨ h.Ended id serial

/-- A pending request stays pending, unless the step ends it. -/
theorem Pending.step (hp : h.Pending id serial) (s : ClientStep κ) : Known id (h ++ [s]) serial := by
  -- a step that tells the request something ends it, any other leaves it in the table
  cases htold : s.told? serial.toNat with
  | some told => exact .inr ⟨h, s, [], rfl, hp, by rw [htold]; rfl⟩
  | none =>
    left
    unfold Pending
    rw [Client.run_step]
    cases s with
    | request callback buffer => exact Client.isSome_find?_request.2 (.inl hp)
    | reply r =>
      have hne : serial.toNat ≠ r.serial.toNat := by
        intro heq
        simp [ClientStep.told?, heq] at htold
      exact Client.isSome_find?_reply.2 ⟨hp, hne⟩
    | disconnect => exact nomatch htold

theorem Known.step (hk : h.Known id serial) (s : ClientStep κ) : Known id (h ++ [s]) serial :=
  hk.elim (·.step s) fun he => .inr (he.append [s])

end History

end ShaderKit.Wire
