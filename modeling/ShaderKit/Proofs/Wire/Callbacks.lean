import Mathlib.Data.List.Basic
import ShaderKit.Proofs.Binding.NumberMap
import ShaderKit.Wire.Client

/-!
# Each callback fires once

What happens to a client is a list of steps, after which the client goes.  The callback of a request
fires at the first step that ends the request: at once where the connection was lost before, else with a
reply to the request's serial or with the loss of the connection.  Where no step ends the request, its
callback fires when the client goes.

## Key results

- `History.ending?_append`: a request that ended keeps its ending, whatever follows
- `Tracks.step`: the client's table has the requests that have not ended
- `Tracks.life_eq`: so the callbacks that run at each step are those of the requests that end there
- `Client.life_orderly`: the whole life of a client
-/

namespace ShaderKit.Wire

variable {κ : Type}

/-- One thing that happens to a client. -/
inductive ClientStep (κ : Type)
  | request (callback : κ) (buffer : CommandBuffer)
  | reply (r : Reply)
  | disconnect

namespace ClientStep

/-- The callback that a step registers. -/
def callback? : ClientStep κ → Option κ
  | request callback _ => some callback
  | reply _ => none
  | disconnect => none

/-- Whether the connection is lost in the step. -/
def isDisconnect : ClientStep κ → Bool
  | request .. => false
  | reply _ => false
  | disconnect => true

/-- What the pending request with a serial is told by a step that ends it. -/
def told? (serial : Nat) : ClientStep κ → Option (RequestStatus × Option CompilationInfo)
  | request .. => none
  | reply r =>
    if r.serial.toNat = serial then some (r.status, if r.status = .success then r.info else none)
    else none
  | disconnect => some (.deviceLost, none)

end ClientStep

/-- How a request ends: at which step, and what its callback is told. -/
structure Ending where
  position : Nat
  status : RequestStatus
  info : Option CompilationInfo

namespace Ending

/-- What a callback is told at step `j`. -/
def firing? (e : Ending) (j : Nat) (callback : κ) : Option (Firing κ) :=
  if e.position = j then some ⟨callback, e.status, e.info⟩ else none

theorem firing?_self (e : Ending) (callback : κ) :
    e.firing? e.position callback = some ⟨callback, e.status, e.info⟩ :=
  if_pos rfl

theorem firing?_of_ne {e : Ending} {j : Nat} (hne : e.position ≠ j) (callback : κ) :
    e.firing? j callback = none :=
  if_neg hne

end Ending

/-! ## Requests of a history -/

/-- What happened to a client, first to last. -/
abbrev History (κ : Type) := List (ClientStep κ)

namespace History

/-- The connection was lost. -/
def isLost (h : History κ) : Bool := h.any (·.isDisconnect)

/-- How many requests were made. -/
def requestCount (h : History κ) : Nat := h.countP (·.callback?.isSome)

/-- The serial of the request that is step `i`: requests are numbered as they are made. -/
def serial (h : History κ) (i : Nat) : Nat := requestCount (h.take i)

/-- The first of some steps that ends the pending request with a serial; they are numbered from
`start`. -/
def firstEnding (serial start : Nat) : History κ → Option Ending
  | [] => none
  | s :: rest => match s.told? serial with
    | some (status, info) => some ⟨start, status, info⟩
    | none => firstEnding serial (start + 1) rest

/-- How the request that is step `i` ended. -/
def ending? (h : History κ) (i : Nat) : Option Ending :=
  if isLost (h.take i) then some ⟨i, .deviceLost, none⟩
  else firstEnding (serial h i) (i + 1) (h.drop (i + 1))

/-- How the request that is step `i` ends, if the client goes after the last step. -/
def ending (h : History κ) (i : Nat) : Ending :=
  (ending? h i).getD ⟨h.length, .unknown, none⟩

/-- What the callback that step `i` registers is told at step `j`. -/
def firing? (h : History κ) (j i : Nat) : Option (Firing κ) :=
  (h[i]?.bind (·.callback?)).bind ((ending h i).firing? j)

/-- The callbacks that are told something at step `j`. -/
def firings (h : History κ) (j : Nat) : List (Firing κ) :=
  (List.range h.length).filterMap (firing? h j)

/-- The serial and the callback of step `i`, if it is a request that has not ended. -/
def waiting? (h : History κ) (i : Nat) : Option (Nat × κ) :=
  (h[i]?.bind (·.callback?)).bind fun callback =>
    if (ending? h i).isSome then none else some (serial h i, callback)

/-- The requests that have not ended. -/
def waiting (h : History κ) : List (Nat × κ) :=
  (List.range h.length).filterMap (waiting? h)

variable {h rest : History κ} {s : ClientStep κ} {e : Ending} {i j n : Nat}

theorem firstEnding_append (serial start : Nat) (h rest : History κ) :
    firstEnding serial start (h ++ rest) =
      (firstEnding serial start h).or (firstEnding serial (start + h.length) rest) := by
  induction h generalizing start with
  | nil => rfl
  | cons s h ih =>
    simp only [List.cons_append, firstEnding, List.length_cons]
    cases s.told? serial with
    | some t => rfl
    | none =>
      dsimp only
      rw [ih (start + 1), Nat.add_right_comm, Nat.add_assoc]

theorem firstEnding_position (he : firstEnding n j h = some e) :
    j ≤ e.position ∧ e.position < j + h.length := by
  induction h generalizing j with
  | nil => exact nomatch he
  | cons s h ih =>
    unfold firstEnding at he
    rw [List.length_cons]
    split at he
    · cases he
      exact ⟨Nat.le_refl _, by dsimp only; omega⟩
    · have := ih he
      omega

/-- Where no step ends a request, it ends at last. -/
theorem le_position_getD {last : Ending} (hlast : j ≤ last.position) :
    j ≤ ((firstEnding n j h).getD last).position := by
  cases he : firstEnding n j h with
  | none => exact hlast
  | some e => exact (firstEnding_position he).1

theorem isLost_step (h : History κ) (s : ClientStep κ) :
    isLost (h ++ [s]) = (isLost h || s.isDisconnect) := by
  rw [isLost, isLost, List.any_append, List.any_cons, List.any_nil, Bool.or_false]

theorem requestCount_step (h : History κ) (s : ClientStep κ) :
    requestCount (h ++ [s]) = requestCount h + if s.callback?.isSome then 1 else 0 := by
  rw [requestCount, requestCount, List.countP_append, List.countP_singleton]

theorem serial_append (rest : History κ) (hi : i ≤ h.length) : serial (h ++ rest) i = serial h i := by
  rw [serial, List.take_append_of_le_length hi, serial]

theorem serial_length (h rest : History κ) : serial (h ++ rest) h.length = requestCount h := by
  rw [serial, List.take_left]

/-- A request that ended keeps its ending; another one ends at the first later step that does it. -/
theorem ending?_append (rest : History κ) (hi : i < h.length) :
    ending? (h ++ rest) i = (ending? h i).or (firstEnding (serial h i) h.length rest) := by
  -- the search goes on with the number of the first step of `rest`
  have hrest : i + 1 + (h.drop (i + 1)).length = h.length := by
    rw [List.length_drop]
    omega
  unfold ending?
  rw [List.take_append_of_le_length (Nat.le_of_lt hi), List.drop_append_of_le_length hi,
    serial_append rest (Nat.le_of_lt hi), firstEnding_append, hrest]
  split <;> rfl

/-- A request ends at once exactly if the connection was lost before. -/
theorem ending?_length (h : History κ) (s : ClientStep κ) (rest : History κ) :
    ending? (h ++ s :: rest) h.length =
      if isLost h then some ⟨h.length, .deviceLost, none⟩
      else firstEnding (requestCount h) (h.length + 1) rest := by
  unfold ending?
  rw [List.take_left, serial_length, List.drop_append, List.drop_eq_nil_of_le (Nat.le_succ _),
    Nat.add_sub_cancel_left]
  rfl

/-- No request ends before it is made, and what ends it is a step of the history. -/
theorem ending?_position (hi : i < h.length) (he : ending? h i = some e) :
    i ≤ e.position ∧ e.position < h.length := by
  unfold ending? at he
  split at he
  · cases he
    exact ⟨Nat.le_refl _, hi⟩
  · have hposition := firstEnding_position he
    rw [List.length_drop] at hposition
    omega

theorem ending_position (hi : i < h.length) :
    i ≤ (ending h i).position ∧ (ending h i).position ≤ h.length := by
  unfold ending
  cases he : ending? h i with
  | none => exact ⟨Nat.le_of_lt hi, Nat.le_refl _⟩
  | some e =>
    have hposition := ending?_position hi he
    exact ⟨hposition.1, Nat.le_of_lt hposition.2⟩

/-- What ended a request is not changed by what follows. -/
theorem ending_of_ended (rest : History κ) (hi : i < h.length) (he : ending? h i = some e) :
    ending (h ++ rest) i = e := by
  rw [ending, ending?_append rest hi, he]
  rfl

/-- A pending request ends at a step that tells it something. -/
theorem ending_of_told (rest : History κ) (hi : i < h.length) (hpending : ending? h i = none)
    {told : RequestStatus × Option CompilationInfo} (htold : s.told? (serial h i) = some told) :
    ending (h ++ s :: rest) i = ⟨h.length, told.1, told.2⟩ := by
  rw [ending, ending?_append _ hi, hpending, firstEnding, htold]
  rfl

/-- Else it ends later. -/
theorem ending_of_not_told (rest : History κ) (hi : i < h.length) (hpending : ending? h i = none)
    (htold : s.told? (serial h i) = none) : h.length < (ending (h ++ s :: rest) i).position := by
  rw [ending, ending?_append _ hi, hpending, firstEnding, htold]
  exact le_position_getD (by simp)

/-! ## Who is told what at a step -/

/-- What a step tells a pending request. -/
def firingAt? (s : ClientStep κ) (request : Nat × κ) : Option (Firing κ) :=
  (s.told? request.1).map fun (status, info) => ⟨request.2, status, info⟩

/-- Of the requests made before a step, it ends those that are pending. -/
theorem firing?_earlier (s : ClientStep κ) (rest : History κ) (hi : i < h.length) :
    firing? (h ++ s :: rest) h.length i = (waiting? h i).bind (firingAt? s) := by
  unfold firing? waiting?
  rw [List.getElem?_append_left hi]
  cases h[i]?.bind (·.callback?) with
  | none => rfl
  | some callback =>
    simp only [Option.bind_some]
    -- a request that has ended is not told anything again
    cases he : ending? h i with
    | some e =>
      have hposition := (ending?_position hi he).2
      rw [ending_of_ended _ hi he, Ending.firing?_of_ne (Nat.ne_of_lt hposition)]
      rfl
    | none =>
      simp only [Option.isSome_none, Bool.false_eq_true, if_false, Option.bind_some, firingAt?]
      -- a pending one ends now if the step tells it something, and later if not
      cases htold : s.told? (serial h i) with
      | some told =>
        rw [ending_of_told rest hi he htold]
        exact Ending.firing?_self ..
      | none =>
        have hlater := ending_of_not_told rest hi he htold
        exact Ending.firing?_of_ne (Nat.ne_of_gt hlater) callback

/-- A request ends at once exactly if the connection was lost before. -/
theorem firing?_now (h : History κ) (s : ClientStep κ) (rest : History κ) :
    firing? (h ++ s :: rest) h.length h.length =
      if isLost h then s.callback?.map (⟨·, .deviceLost, none⟩) else none := by
  unfold firing? ending
  rw [List.getElem?_append_right (Nat.le_refl _), Nat.sub_self, ending?_length]
  show s.callback?.bind _ = _
  -- the ending of a request on a lost connection is the step that makes it, and any other is behind
  -- it
  by_cases hlost : isLost h = true
  · simp only [hlost, if_true, Option.getD_some]
    cases s.callback? with
    | none => rfl
    | some callback => exact Ending.firing?_self ..
  · simp only [hlost, Bool.false_eq_true, if_false]
    refine Option.bind_eq_none_iff.2 fun callback _ => Ending.firing?_of_ne (Nat.ne_of_gt ?_) callback
    exact le_position_getD (by simp)

/-- A request that is made after a step does not end there. -/
theorem firing?_later (hj : j < i) (hi : i < h.length) : firing? h j i = none := by
  refine Option.bind_eq_none_iff.2 fun callback _ => Ending.firing?_of_ne (Nat.ne_of_gt ?_) callback
  exact Nat.lt_of_lt_of_le hj (ending_position hi).1

/-- A step tells the requests that are pending; after a loss of the connection, it tells the one that it
makes. -/
theorem firings_step (h : History κ) (s : ClientStep κ) (rest : History κ) :
    firings (h ++ s :: rest) h.length =
      (waiting h).filterMap (firingAt? s) ++
        if isLost h then s.callback?.toList.map (⟨·, .deviceLost, none⟩) else [] := by
  -- the requests before the step, the one that it makes, and those after it
  have hearlier : (List.range h.length).filterMap (firing? (h ++ s :: rest) h.length) =
      (waiting h).filterMap (firingAt? s) := by
    rw [waiting, List.filterMap_filterMap]
    exact List.filterMap_congr fun i hi => firing?_earlier s rest (List.mem_range.1 hi)
  have hlater : ((List.range rest.length).map (h.length + 1 + ·)).filterMap
      (firing? (h ++ s :: rest) h.length) = [] := by
    refine List.filterMap_eq_nil_iff.2 fun i hi => ?_
    obtain ⟨k, hk, rfl⟩ := List.mem_map.1 hi
    have hk := List.mem_range.1 hk
    refine firing?_later (by omega) ?_
    rw [List.length_append, List.length_cons]
    omega
  have hlength : (h ++ s :: rest).length = h.length + 1 + rest.length := by simp; omega
  rw [firings, hlength, List.range_add, List.filterMap_append, hlater, List.append_nil,
    List.range_succ, List.filterMap_append, hearlier, List.filterMap_cons, firing?_now]
  congr 1
  by_cases hlost : isLost h = true
  · simp only [hlost, if_true]
    cases s.callback? <;> rfl
  · simp [hlost]

/-- The requests that are still pending are told that the client went. -/
theorem firings_last (h : History κ) :
    firings h h.length = (waiting h).map fun request => ⟨request.2, .unknown, none⟩ := by
  rw [firings, waiting, List.map_filterMap]
  refine List.filterMap_congr fun i hi => ?_
  unfold firing? waiting? ending
  cases h[i]?.bind (·.callback?) with
  | none => rfl
  | some callback =>
    simp only [Option.bind_some]
    -- a request that has not ended is told now, one that has was told before
    cases he : ending? h i with
    | none => exact Ending.firing?_self ⟨h.length, .unknown, none⟩ callback
    | some e =>
      have hposition := (ending?_position (List.mem_range.1 hi) he).2
      exact Ending.firing?_of_ne (Nat.ne_of_lt hposition) callback

/-! ## The pending requests -/

/-- A step takes the requests that it ends, and adds the one that it makes. -/
theorem waiting_step (h : History κ) (s : ClientStep κ) :
    waiting (h ++ [s]) = (waiting h).filter (fun request => (s.told? request.1).isNone) ++
      if isLost h then [] else s.callback?.toList.map (requestCount h, ·) := by
  -- of the requests made before, those go on waiting that had not ended and that the step does not
  -- end
  have hearlier : (List.range h.length).filterMap (waiting? (h ++ [s])) =
      (waiting h).filter fun request => (s.told? request.1).isNone := by
    rw [waiting, List.filter_filterMap]
    refine List.filterMap_congr fun i hi => ?_
    have hi := List.mem_range.1 hi
    unfold waiting?
    rw [List.getElem?_append_left hi, ending?_append _ hi, serial_append _ (Nat.le_of_lt hi)]
    cases h[i]?.bind (·.callback?) with
    | none => rfl
    | some callback =>
      cases ending? h i with
      | some e => rfl
      | none => cases htold : s.told? (serial h i) <;> simp [firstEnding, Option.filter, htold]
  -- the step itself makes one that waits, unless the connection was lost before
  have hnow : waiting? (h ++ [s]) h.length =
      if isLost h then none else s.callback?.map (requestCount h, ·) := by
    unfold waiting?
    rw [List.getElem?_append_right (Nat.le_refl _), Nat.sub_self, ending?_length, serial_length]
    show s.callback?.bind _ = _
    by_cases hlost : isLost h = true
    · simp [hlost]
    · simp only [hlost, Bool.false_eq_true, if_false]
      cases s.callback? <;> rfl
  rw [waiting, List.length_append, List.length_singleton, List.range_succ, List.filterMap_append,
    hearlier, List.filterMap_cons, hnow]
  congr 1
  by_cases hlost : isLost h = true
  · simp [hlost]
  · simp only [hlost, Bool.false_eq_true, if_false]
    cases s.callback? <;> rfl

/-- A request's serial is smaller than the number of requests. -/
theorem serial_lt_requestCount {callback : κ} (hi : h[i]?.bind (·.callback?) = some callback) :
    serial h i < requestCount h := by
  obtain ⟨s, hs, hcallback⟩ := Option.bind_eq_some_iff.1 hi
  obtain ⟨hlt, rfl⟩ := List.getElem?_eq_some_iff.1 hs
  have hsome : h[i].callback?.isSome = true := by rw [hcallback]; rfl
  -- the request itself is counted, behind those that its serial counts
  calc serial h i < requestCount (h.take (i + 1)) := by
        rw [serial, requestCount, requestCount, ← List.take_append_getElem hlt, List.countP_append,
          List.countP_singleton, if_pos hsome]
        exact Nat.lt_succ_self _
    _ ≤ requestCount h := (List.take_sublist _ _).countP_le

/-- The serials of the pending requests are those of earlier requests. -/
theorem fst_lt_requestCount {request : Nat × κ} (hmem : request ∈ waiting h) : request.1 < requestCount h := by
  obtain ⟨i, _, hwaiting⟩ := List.mem_filterMap.1 hmem
  obtain ⟨callback, hcallback, hrequest⟩ := Option.bind_eq_some_iff.1 hwaiting
  split at hrequest
  · exact nomatch hrequest
  · cases hrequest
    exact serial_lt_requestCount hcallback

/-- What came before some requests has fewer. -/
theorem few_of_few (hfew : requestCount (h ++ rest) < n) : requestCount h < n := by
  rw [requestCount, List.countP_append] at hfew
  exact Nat.lt_of_le_of_lt (Nat.le_add_right _ _) hfew

end History

/-! ## The client -/

namespace Client

open History

/-- The client after a step, and the callbacks that fire. -/
def step (c : Client κ) : ClientStep κ → Client κ × List (Firing κ)
  | .request callback buffer =>
    let (c, _, fired) := c.request callback buffer
    (c, fired)
  | .reply r =>
    let (c, fired, _) := c.reply r
    (c, fired)
  | .disconnect => c.disconnect

/-- The client after some steps. -/
def run (c : Client κ) (steps : History κ) : Client κ :=
  steps.foldl (fun c s => (c.step s).1) c

/-- The callbacks that fire at each step, and at last those that fire when the client goes. -/
def life (c : Client κ) : History κ → List (List (Firing κ))
  | [] => [c.close]
  | s :: rest => (c.step s).2 :: (c.step s).1.life rest

/-- The client of a module after what happened to it. -/
structure Tracks (id : UInt32) (h : History κ) (c : Client κ) : Prop where
  id : c.id = id
  disconnected : c.disconnected = isLost h
  /-- Requests are numbered until the connection is lost. -/
  nextSerial : isLost h = false → c.nextSerial.toNat = requestCount h
  entries : c.requests.entries = waiting h

variable {id : UInt32} {c : Client κ} {h : History κ}

theorem tracks_start (id : UInt32) : Tracks id ([] : History κ) { id } :=
  ⟨rfl, rfl, fun _ => rfl, rfl⟩

/-- A request after the loss of the connection. -/
theorem request_of_disconnected (hlost : c.disconnected = true) (callback : κ)
    (buffer : CommandBuffer) :
    c.request callback buffer = (c, buffer, [⟨callback, .deviceLost, none⟩]) :=
  if_pos hlost

/-- A request before the loss of the connection. -/
theorem request_of_connected (hlost : c.disconnected = false) (callback : κ)
    (buffer : CommandBuffer) : c.request callback buffer =
      ({ c with
          nextSerial := c.nextSerial + 1
          requests := c.requests.insert c.nextSerial.toNat callback },
        buffer.push (.getCompilationInfo c.id c.nextSerial), []) :=
  if_neg (by simp [hlost])

/-- A reply takes its request from the table. -/
theorem reply_eq (c : Client κ) (r : Reply) : c.reply r =
    ({ c with requests := c.requests.erase r.serial.toNat },
      (c.requests.find? r.serial.toNat).toList.map fun callback =>
        ⟨callback, r.status, if r.status = .success then r.info else none⟩,
      (c.requests.find? r.serial.toNat).isSome) := by
  unfold reply
  cases hfind : c.requests.find? r.serial.toNat with
  | some callback => rfl
  | none =>
    rw [NumberMap.erase_of_find?_eq_none hfind]
    rfl

/-- A step of the client tells its callbacks what the step of the history does. -/
theorem Tracks.step_snd (ht : Tracks id h c) (s : ClientStep κ) (rest : History κ) :
    (c.step s).2 = History.firings (h ++ s :: rest) h.length := by
  rw [firings_step, ← ht.entries, ← ht.disconnected]
  -- one case for each step: a request is only told of a loss before it, a reply only tells its own,
  -- a loss tells all
  cases s with
  | request callback buffer =>
    have hnone : c.requests.entries.filterMap (firingAt? (.request callback buffer)) = [] :=
      List.filterMap_eq_nil_iff.2 fun _ _ => rfl
    rw [hnone]
    show (c.request callback buffer).2.2 = _
    cases hlost : c.disconnected with
    | true => exact congrArg (·.2.2) (request_of_disconnected hlost callback buffer)
    | false => exact congrArg (·.2.2) (request_of_connected hlost callback buffer)
  | reply r =>
    show (c.reply r).2.1 = _ ++ ite _ [] []
    rw [reply_eq, ite_self, List.append_nil, ← NumberMap.filterMap_entries]
    refine List.filterMap_congr fun request _ => ?_
    show _ = Option.map _ (ite _ _ _)
    split <;> rfl
  | disconnect =>
    show c.firings .deviceLost = _ ++ ite _ [] []
    rw [ite_self, List.append_nil]
    exact (congrFun List.filterMap_eq_map _).symm

/-- A step of the client is a step of the history. -/
theorem Tracks.step (ht : Tracks id h c) (s : ClientStep κ)
    (hfew : requestCount (h ++ [s]) < UInt64.size) : Tracks id (h ++ [s]) (c.step s).1 := by
  have hwaiting := waiting_step h s
  cases s with
  | request callback buffer =>
    have hkept : (waiting h).filter (fun request =>
        ((ClientStep.request callback buffer).told? request.1).isNone) = waiting h :=
      List.filter_eq_self.2 fun _ _ => rfl
    have hlost' : isLost (h ++ [.request callback buffer]) = isLost h :=
      (isLost_step ..).trans (Bool.or_false _)
    rw [hkept] at hwaiting
    cases hlost : isLost h with
    | true =>
      rw [hlost, if_pos rfl, List.append_nil] at hwaiting
      show Tracks id _ (c.request callback buffer).1
      rw [request_of_disconnected (ht.disconnected.trans hlost)]
      exact ⟨ht.id, ht.disconnected.trans hlost'.symm,
        fun hnot => (nomatch (hlost.symm.trans hlost'.symm).trans hnot),
        ht.entries.trans hwaiting.symm⟩
    | false =>
      have hserial := ht.nextSerial hlost
      rw [hlost, if_neg Bool.false_ne_true] at hwaiting
      rw [requestCount_step] at hfew
      show Tracks id _ (c.request callback buffer).1
      rw [request_of_connected (ht.disconnected.trans hlost)]
      refine ⟨ht.id, ht.disconnected.trans hlost'.symm, fun _ => ?_, ?_⟩
      · -- the serial does not wrap around: this request is one of few
        show (c.nextSerial + 1).toNat = _
        rw [requestCount_step, UInt64.toNat_add, hserial]
        exact Nat.mod_eq_of_lt hfew
      · show (c.requests.insert c.nextSerial.toNat callback).entries = _
        rw [hwaiting, hserial, NumberMap.entries_insert_of_lt, ht.entries]
        · rfl
        · intro e he
          exact fst_lt_requestCount (ht.entries ▸ he)
  | reply r =>
    have hlost' : isLost (h ++ [.reply r]) = isLost h := (isLost_step ..).trans (Bool.or_false _)
    have hcount : requestCount (h ++ [.reply r]) = requestCount h := requestCount_step ..
    show Tracks id _ (c.reply r).1
    rw [reply_eq]
    refine ⟨ht.id, ht.disconnected.trans hlost'.symm, fun hnot => ?_, ?_⟩
    -- no request was made, so the next serial stays
    · rw [hcount]
      exact ht.nextSerial (hlost'.symm.trans hnot)
    · show c.requests.entries.filter _ = _
      rw [ht.entries, hwaiting]
      show _ = _ ++ ite _ [] []
      rw [ite_self, List.append_nil]
      refine List.filter_congr fun request _ => ?_
      show (request.1 != r.serial.toNat) = Option.isNone (ite (r.serial.toNat = request.1) _ _)
      -- the reply takes its own request out of the table, and ends that of the same serial
      by_cases heq : r.serial.toNat = request.1
      · simp [heq]
      · simp [heq, Ne.symm heq]
  | disconnect =>
    have hlost' : isLost (h ++ [.disconnect]) = true := (isLost_step ..).trans (Bool.or_true _)
    refine ⟨ht.id, hlost'.symm, fun hnot => (nomatch hlost'.symm.trans hnot), ?_⟩
    rw [hwaiting]
    show [] = _ ++ ite _ [] []
    rw [ite_self, List.append_nil]
    exact (List.filter_eq_nil_iff.2 fun _ _ => Bool.false_ne_true).symm

/-- A run of the client is a run of the history. -/
theorem Tracks.run (ht : Tracks id h c) (rest : History κ) (hfew : requestCount (h ++ rest) < UInt64.size) :
    Tracks id (h ++ rest) (c.run rest) := by
  induction rest generalizing h c with
  | nil =>
    rw [List.append_nil]
    exact ht
  | cons s rest ih =>
    rw [List.append_cons] at hfew ⊢
    exact ih (ht.step s (few_of_few hfew)) hfew

/-- The callbacks of a life fire as the history says. -/
theorem Tracks.life_eq (ht : Tracks id h c) (rest : History κ)
    (hfew : requestCount (h ++ rest) < UInt64.size) :
    c.life rest = (List.range' h.length (rest.length + 1)).map (History.firings (h ++ rest)) := by
  -- the first firing is that of the next step, and those of the rest follow from the client after
  -- it
  induction rest generalizing h c with
  | nil =>
    rw [List.append_nil]
    show [c.close] = [History.firings h h.length]
    rw [firings_last, ← ht.entries]
    rfl
  | cons s rest ih =>
    rw [List.length_cons, List.range'_succ, List.map_cons, ← ht.step_snd]
    rw [List.append_cons] at hfew ⊢
    have hrest := ih (ht.step s (few_of_few hfew)) hfew
    rw [List.length_append, List.length_singleton] at hrest
    exact congrArg _ hrest

/-- Telling the pending requests what a step tells them fires the callbacks of those it ends. -/
private theorem map_callback_filterMap (s : ClientStep κ) (l : List (Nat × κ)) :
    (l.filterMap (firingAt? s)).map (·.callback) =
      (l.filter fun request => (s.told? request.1).isSome).map (·.2) := by
  induction l with
  | nil => rfl
  | cons request l ih =>
    cases htold : s.told? request.1 <;> simp [firingAt?, htold, ih]

/-- In each step the callbacks that fire leave the table, and one that is registered fires or enters it. -/
theorem Tracks.step_perm (ht : Tracks id h c) (s : ClientStep κ)
    (hfew : requestCount (h ++ [s]) < UInt64.size) :
    ((c.step s).2.map (·.callback) ++ (c.step s).1.requests.entries.map (·.2)).Perm
      (c.requests.entries.map (·.2) ++ s.callback?.toList) := by
  rw [ht.step_snd s [], (ht.step s hfew).entries, ht.entries, firings_step, waiting_step,
    List.map_append, List.map_append, map_callback_filterMap]
  -- the requests that the step ends and those that it leaves are the pending ones
  have hparts := (List.filter_append_perm (fun request : Nat × κ => (s.told? request.1).isSome)
    (waiting h)).map (·.2)
  simp only [List.map_append, Option.not_isSome] at hparts
  cases isLost h with
  | true =>
    have hnew : (s.callback?.toList.map fun callback =>
        (⟨callback, .deviceLost, none⟩ : Firing κ)).map (·.callback) = s.callback?.toList := by
      rw [List.map_map]
      exact List.map_id _
    rw [if_pos rfl, if_pos rfl, hnew, List.map_nil, List.append_nil, List.append_assoc]
    refine (List.perm_append_comm.append_left _).trans ?_
    rw [← List.append_assoc]
    exact hparts.append_right _
  | false =>
    have hnew : (s.callback?.toList.map (requestCount h, ·)).map (·.2) = s.callback?.toList := by
      rw [List.map_map]
      exact List.map_id _
    rw [if_neg Bool.false_ne_true, if_neg Bool.false_ne_true, hnew, List.map_nil, List.append_nil,
      ← List.append_assoc]
    exact hparts.append_right _

/-- The callbacks that fired, and those in the table, are those that were there and those that were
registered since. -/
theorem Tracks.run_perm (ht : Tracks id h c) (rest : History κ)
    (hfew : requestCount (h ++ rest) < UInt64.size) :
    (((c.life rest).take rest.length).flatten.map (·.callback) ++
      (c.run rest).requests.entries.map (·.2)).Perm
      (c.requests.entries.map (·.2) ++ rest.filterMap (·.callback?)) := by
  induction rest generalizing h c with
  | nil =>
    rw [List.filterMap_nil, List.append_nil]
    exact .refl _
  | cons s rest ih =>
    rw [List.append_cons] at hfew
    -- what the first step fires and leaves, then what the rest do with what it left
    have hfirst := ht.step_perm s (few_of_few hfew)
    have hrest := ih (ht.step s (few_of_few hfew)) hfew
    have hregistered : (s :: rest).filterMap (·.callback?) =
        s.callback?.toList ++ rest.filterMap (·.callback?) := by
      rw [List.filterMap_cons]
      cases s.callback? <;> rfl
    rw [life, List.length_cons, List.take_succ_cons, List.flatten_cons, List.map_append,
      List.append_assoc, hregistered, ← List.append_assoc (c.requests.entries.map _)]
    refine (hrest.append_left _).trans ?_
    rw [← List.append_assoc]
    exact hfirst.append_right _

/-- What fires in some steps does not depend on what follows. -/
theorem take_life (c : Client κ) (h rest : History κ) :
    (c.life (h ++ rest)).take h.length = (c.life h).take h.length := by
  induction h generalizing c with
  | nil => rfl
  | cons s h ih => exact congrArg ((c.step s).2 :: ·) (ih (c.step s).1)

/-- After all steps the client goes. -/
theorem life_eq_take_append (c : Client κ) (h : History κ) :
    c.life h = (c.life h).take h.length ++ [(c.run h).close] := by
  induction h generalizing c with
  | nil => rfl
  | cons s h ih => exact congrArg ((c.step s).2 :: ·) (ih (c.step s).1)

/-- What a client does with its callbacks, if it lives through `h` and then goes. -/
structure Orderly (id : UInt32) (h : History κ) : Prop where
  /-- At each step the callbacks fire that are told something there, and so at last when the client
  goes. -/
  fires : life { id } h = (List.range (h.length + 1)).map (History.firings h)
  /-- Each request ends, and not before it is made. -/
  ends : ∀ i < h.length, i ≤ (ending h i).position ∧ (ending h i).position ≤ h.length
  /-- At every point the callbacks that fired and the pending ones are those that were registered. -/
  once : ∀ before after, h = before ++ after →
    (((life { id } h).take before.length).flatten.map (·.callback) ++
      (run { id } before).requests.entries.map (·.2)).Perm (before.filterMap (·.callback?))
  /-- In the end the callbacks that fired are those that were registered. -/
  all : ((life { id } h).flatten.map (·.callback)).Perm (h.filterMap (·.callback?))
  /-- A reply says that there is a request with its serial exactly if a callback fires. -/
  known : ∀ before r after, h = before ++ .reply r :: after →
    (((run { id } before).reply r).2.2 = true ↔ History.firings h before.length ≠ [])
  /-- A request is sent, with its number as the serial, exactly if the connection was not lost. -/
  sent : ∀ before callback buffer after, h = before ++ .request callback buffer :: after →
    if isLost before then ((run { id } before).request callback buffer).2.1 = buffer
    else ∃ serial : UInt64, serial.toNat = History.serial h before.length ∧
      ((run { id } before).request callback buffer).2.1 =
        buffer.push (.getCompilationInfo id serial)

/-- Each callback fires exactly once, as what happens to its request says. -/
theorem life_orderly (id : UInt32) (h : History κ) (hfew : requestCount h < UInt64.size) :
    Orderly id h := by
  -- the client is a fresh one at first, and every prefix of the history is a run of it
  have hruns : ∀ before after, h = before ++ after → Tracks id before (run { id } before) := by
    rintro before after rfl
    exact (tracks_start id).run before (few_of_few hfew)
  -- the firings of the first steps are the same in the whole life and in a life that ends there
  have honce : ∀ before after, h = before ++ after →
      (((life { id } h).take before.length).flatten.map (·.callback) ++
        (run { id } before).requests.entries.map (·.2)).Perm (before.filterMap (·.callback?)) := by
    rintro before after rfl
    rw [take_life]
    exact (tracks_start id).run_perm before (few_of_few hfew)
  refine {
    fires := ?_
    ends := fun i hi => ending_position hi
    once := honce
    all := ?_
    known := ?_
    sent := ?_ }
  · rw [List.range_eq_range']
    exact (tracks_start id).life_eq h hfew
  · rw [life_eq_take_append, List.flatten_append, List.map_append, List.flatten_singleton]
    have hclose : (run { id } h).close.map (·.callback) =
        (run { id } h).requests.entries.map (·.2) := List.map_map
    rw [hclose]
    exact honce h [] (List.append_nil h).symm
  · rintro before r after rfl
    rw [← (hruns before _ rfl).step_snd (.reply r) after]
    show ((run { id } before).reply r).2.2 = true ↔ ((run { id } before).reply r).2.1 ≠ []
    rw [reply_eq]
    cases (run { id } before).requests.find? r.serial.toNat <;> simp
  · rintro before callback buffer after rfl
    have ht := hruns before _ rfl
    cases hlost : isLost before with
    | true =>
      rw [if_pos rfl, request_of_disconnected (ht.disconnected.trans hlost)]
    | false =>
      rw [if_neg Bool.false_ne_true, request_of_connected (ht.disconnected.trans hlost), ht.id,
        serial_length]
      exact ⟨_, ht.nextSerial hlost, rfl⟩

/-- A reply that comes too early, one that comes in time and one that comes twice; then the connection is
lost, and a request is made after that. -/
theorem life_orderly_lost :
    let h : History String := [.request "a" .empty, .reply ⟨1, .error, none⟩, .request "b" .empty,
      .reply ⟨1, .success, some {}⟩, .reply ⟨1, .success, none⟩, .disconnect, .request "c" .empty]
    Orderly 7 h ∧ life { id := 7 } h =
      [[], [], [], [⟨"b", .success, some {}⟩], [], [⟨"a", .deviceLost, none⟩],
        [⟨"c", .deviceLost, none⟩], []] :=
  ⟨life_orderly 7 _ (by decide), rfl⟩

end Client

end ShaderKit.Wire
