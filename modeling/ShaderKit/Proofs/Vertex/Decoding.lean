import ShaderKit.Proofs.Vertex.Fetch

/-!
# Decoding attributes

Each of the five ways to read a format gives the components that the bytes of the words hold, and fitting
them to an input leaves out what is too much and fills up what is missing.

## Key results

- `components_yields`: decoding words gives the components that their bytes hold
- `fetch_yields`: fetching an attribute gives the components at its place
- `fit_yields`: fitted components are those of the attribute, or what missing ones read as
-/

namespace ShaderKit.Vertex

open Ir

namespace Format

variable {f : Format}

/-- Formats whose components are words. -/
theorem of_decoding_words (h : Build.decoding f = .words) :
    f.componentBytes = 4 ∧ f.components = f.words ∧
      ∀ c n, f.decode c n = .scalar .uint (UInt32.ofNat n) := by
  cases f <;> simp_all [Build.decoding, componentBytes, components, words, bytes, decode]

/-- Formats whose components are the bits of words. -/
theorem of_decoding_bits {kind : ScalarKind} (h : Build.decoding f = .bits kind) :
    f.componentBytes = 4 ∧ f.components = f.words ∧
      ∀ c n, f.decode c n = .scalar kind (UInt32.ofNat n) := by
  cases f <;> simp_all [Build.decoding, componentBytes, components, words, bytes, decode]

/-- Formats whose only word is unpacked. -/
theorem of_decoding_packed {g : MathFunction} (h : Build.decoding f = .packed g) :
    f.componentBytes = 1 ∧ f.components ≤ 4 ∧ f.words = 1 ∧
      ∀ c : ScalarConversions, ∃ float : UInt8 → UInt32,
        (∀ w, unpacked? c w g = some ((wordBytes w).map float)) ∧
        ∀ n, f.decode c n = .scalar .float (float (UInt8.ofNat n)) := by
  cases f <;> simp only [Build.decoding, reduceCtorEq, Build.Decoding.packed.injEq] at h <;>
    subst h <;> refine ⟨rfl, by decide, rfl, fun c => ⟨_, fun w => rfl, fun n => rfl⟩⟩

/-- Formats of which each word is unpacked to two components. -/
theorem of_decoding_packedPairs {g : MathFunction} (h : Build.decoding f = .packedPairs g) :
    f.componentBytes = 2 ∧ f.components = 2 * f.words ∧
      ∀ c : ScalarConversions, ∃ float : UInt16 → UInt32,
        (∀ w, unpacked? c w g = some ((wordHalves w).map float)) ∧
        ∀ n, f.decode c n = .scalar .float (float (UInt16.ofNat n)) := by
  cases f <;> simp only [Build.decoding, reduceCtorEq, Build.Decoding.packedPairs.injEq] at h <;>
    subst h <;> refine ⟨rfl, rfl, fun c => ⟨_, fun w => rfl, fun n => rfl⟩⟩

/-- Formats whose components are bit fields. -/
theorem of_decoding_fields {signed : Bool} {width : Nat}
    (h : Build.decoding f = .fields signed width) :
    width = 8 * f.componentBytes ∧ f.componentBytes ≤ 2 ∧
      f.components * f.componentBytes ≤ 4 * f.words ∧
      ∀ c n, f.decode c n = if signed then .scalar .sint (signExtended width n)
        else .scalar .uint (UInt32.ofNat n) := by
  cases f <;> simp only [Build.decoding, reduceCtorEq, Build.Decoding.fields.injEq] at h <;>
    obtain ⟨rfl, rfl⟩ := h <;> exact ⟨rfl, by decide, by decide, fun _ _ => rfl⟩

/-- A component that fills a word is that word. -/
theorem component_of_full_word (hbytes : f.componentBytes = 4) {c : ScalarConversions}
    {words : List UInt32} {i : Nat} {w : UInt32} (hw : words[i]? = some w) :
    f.component c (bytesOf words) 0 i = f.decode c w.toNat := by
  have hindex : i * f.componentBytes / 4 = i := by rw [hbytes, Nat.mul_div_cancel _ (by omega)]
  have hoffset : i * f.componentBytes % 4 = 0 := by rw [hbytes, Nat.mul_mod_left]
  have hlt := w.toNat_lt
  rw [component, stored_of_word (hindex.symm ▸ hw), hoffset, hbytes, Nat.mul_zero, Nat.pow_zero,
    Nat.div_one, Nat.mod_eq_of_lt (by omega)]

/-- The components of a format whose components fill words. -/
theorem map_component_of_full_words (hbytes : f.componentBytes = 4) {c : ScalarConversions}
    {words : List UInt32} (hlen : words.length = f.components) {kind : ScalarKind}
    (hdecode : ∀ n, f.decode c n = .scalar kind (UInt32.ofNat n)) :
    (List.range f.components).map (f.component c (bytesOf words) 0) = words.map (.scalar kind) := by
  apply List.ext_getElem
  · simp [hlen]
  · intro i h₁ h₂
    have hi : i < words.length := by simpa using h₂
    simp [component_of_full_word hbytes (List.getElem?_eq_getElem hi), hdecode]

end Format

/-- What a component that an attribute lacks reads as. -/
def padding (kind : ComponentKind) (i : Nat) : Value :=
  .scalar kind.scalarKind (if i = 3 then (if kind = .float then 0x3f800000 else 1) else 0)

namespace PullingRun

variable {r : PullingRun} {vs : List Value} {f : Format} {ids : List ExprId} {words : List UInt32}

variable (r f words) in
/-- What a format's words hold. -/
def held : List Value :=
  (List.range f.components).map (f.component r.invocation.machine.conversions (bytesOf words) 0)

/-- Words as components. -/
private theorem words_stand (hids : Stand vs ids (words.map (.scalar .uint)))
    (hlen : words.length = f.words) (hf : Build.decoding f = .words) :
    Stand vs ids (r.held f words) := by
  obtain ⟨hbytes, hcount, hdecode⟩ := Format.of_decoding_words hf
  rw [held, Format.map_component_of_full_words hbytes (hlen.trans hcount.symm) (hdecode _)]
  exact hids

/-- A scalar of another kind with the same bits. -/
def reinterpreted (kind : ScalarKind) : Value → Value
  | .scalar _ bits => .scalar kind bits
  | v => v

/-- The bits of words as components. -/
private theorem bits_yields (hids : Stand vs ids (words.map (.scalar .uint)))
    (hlen : words.length = f.words) {kind : ScalarKind} (hf : Build.decoding f = .bits kind) :
    r.Yields (ids.mapM (Build.bitcast kind)) vs fun us es => Stand us es (r.held f words) := by
  obtain ⟨hbytes, hcount, hdecode⟩ := Format.of_decoding_bits hf
  rw [held, Format.map_component_of_full_words hbytes (hlen.trans hcount.symm) (hdecode _)]
  have hmap : words.map (Value.scalar kind) =
      (words.map (Value.scalar .uint)).map (reinterpreted kind) := by
    rw [List.map_map]
    rfl
  rw [hmap]
  refine Yields.mapM_stand hids fun e v us hv hus he => ?_
  obtain ⟨w, _, rfl⟩ := List.mem_map.1 hv
  exact bitcast_yields he

/-- The bytes of a word as components. -/
private theorem packed_yields (hids : Stand vs ids (words.map (.scalar .uint)))
    (hlen : words.length = f.words) {g : MathFunction} (hf : Build.decoding f = .packed g) :
    r.Yields (Build.unpack g (ids.headD 0) f.components) vs fun us es =>
      Stand us es (r.held f words) := by
  obtain ⟨hbytes, hcount, hwords, hfloat⟩ := Format.of_decoding_packed hf
  obtain ⟨float, hunpacked, hdecode⟩ := hfloat r.invocation.machine.conversions
  obtain ⟨w, rfl⟩ := List.length_eq_one_iff.1 (hlen.trans hwords)
  refine unpack_yields (hids.headD rfl) (hunpacked w) fun i hi => ?_
  -- all components lie in the only word, component i at byte i
  have hindex : i * f.componentBytes / 4 = 0 := by rw [hbytes]; omega
  have hoffset : i * f.componentBytes % 4 = i := by rw [hbytes]; omega
  rw [Format.component, Format.stored_of_word (w := w) (by rw [hindex]; rfl), hdecode, hoffset,
    hbytes, List.getElem?_map, getElem?_wordBytes w (by omega)]
  rfl

/-- What half `i` of a word stands for. -/
def half (float : UInt16 → UInt32) (w : UInt32) (i : Nat) : Value :=
  .scalar .float (float (UInt16.ofNat (w.toNat / 2 ^ (16 * i) % 2 ^ 16)))

/-- What the two halves of a word stand for. -/
def halves (float : UInt16 → UInt32) : Value → List Value
  | .scalar _ w => (List.range 2).map (half float w)
  | _ => []

/-- The halves of words as components. -/
private theorem packedPairs_yields (hids : Stand vs ids (words.map (.scalar .uint)))
    (hlen : words.length = f.words) {g : MathFunction} (hf : Build.decoding f = .packedPairs g) :
    r.Yields (ids.mapM fun w => Build.unpack g w 2) vs fun us ess =>
      Stand us ess.flatten (r.held f words) := by
  obtain ⟨hbytes, hcount, hfloat⟩ := Format.of_decoding_packedPairs hf
  obtain ⟨float, hunpacked, hdecode⟩ := hfloat r.invocation.machine.conversions
  -- components 2 * q and 2 * q + 1 are the halves of word q
  have hheld : r.held f words = (words.map (Value.scalar .uint)).flatMap (halves float) := by
    rw [held, hcount, ← hlen, List.flatMap_map]
    refine List.map_range_two_mul fun q hq => ?_
    have hcomponent (i : Nat) (hi : i < 2) :
        f.component r.invocation.machine.conversions (bytesOf words) 0 (2 * q + i) =
          half float words[q] i := by
      have hindex : (2 * q + i) * f.componentBytes / 4 = q := by rw [hbytes]; omega
      have hoffset : 8 * ((2 * q + i) * f.componentBytes % 4) = 16 * i := by rw [hbytes]; omega
      rw [Format.component, Format.stored_of_word (by rw [hindex, List.getElem?_eq_getElem hq]),
        hdecode, hoffset, hbytes]
      rfl
    have hfirst := hcomponent 0 (by omega)
    have hsecond := hcomponent 1 (by omega)
    rw [Nat.add_zero] at hfirst
    rw [hfirst, hsecond]
    rfl
  rw [hheld]
  refine Yields.mapM_stand_flatten hids fun e v us hv hus he => ?_
  obtain ⟨w, _, rfl⟩ := List.mem_map.1 hv
  refine unpack_yields he (hunpacked w) fun i hi => ?_
  rw [List.getElem?_map, getElem?_wordHalves w hi]
  rfl

/-- Bit fields of words as components. -/
private theorem fields_yields (hids : Stand vs ids (words.map (.scalar .uint)))
    (hlen : words.length = f.words) {signed : Bool} {width : Nat}
    (hf : Build.decoding f = .fields signed width) :
    r.Yields ((List.range f.components).mapM fun i =>
      Build.extractBits (ids.getD (i / (32 / width)) 0) (UInt32.ofNat (i % (32 / width) * width))
        signed (UInt32.ofNat width)) vs fun us es => Stand us es (r.held f words) := by
  obtain ⟨hwidth, hbytes, hcount, hdecode⟩ := Format.of_decoding_fields hf
  refine Yields.mapM fun i hi us hus => ?_
  have hi : i < f.components := List.mem_range.1 hi
  have hbytes' : f.componentBytes = 1 ∨ f.componentBytes = 2 := by
    rcases f.componentBytes_cases with h | h | h <;> omega
  -- component i is field i % (32 / width) of word i / (32 / width)
  have hindex : i / (32 / width) = i * f.componentBytes / 4 := by
    rcases hbytes' with h | h <;> rw [hwidth, h] <;> omega
  have hoffset : i % (32 / width) * width = 8 * (i * f.componentBytes % 4) := by
    rcases hbytes' with h | h <;> rw [hwidth, h] <;> omega
  have hlt : i * f.componentBytes / 4 < words.length := by
    rcases hbytes' with h | h <;> rw [h] at hcount ⊢ <;> omega
  have hword : vs[ids.getD (i * f.componentBytes / 4) 0]? =
      some (.scalar .uint words[i * f.componentBytes / 4]) := hids.getD (by simp [hlt])
  rw [hindex, hoffset]
  refine (extractBits_yields (hus.getElem?_eq_some hword) _ signed _).mono fun zs e' hzs he' => ?_
  have hfit : 8 * (i * f.componentBytes % 4) + width ≤ 32 := by
    rcases hbytes' with h | h <;> rw [hwidth, h] <;> omega
  have hsize : UInt32.size = 2 ^ 32 := rfl
  have hnum : (UInt32.ofNat (8 * (i * f.componentBytes % 4))).toNat =
      8 * (i * f.componentBytes % 4) :=
    UInt32.toNat_ofNat_of_lt' (by omega)
  have hwidth' : (UInt32.ofNat width).toNat = width := UInt32.toNat_ofNat_of_lt' (by omega)
  rw [he', Format.component, Format.stored_of_word (List.getElem?_eq_getElem hlt), hdecode,
    bitField_eq signed _ (by rw [hnum, hwidth']; exact hfit), hnum, hwidth', ← hwidth]
  cases signed <;> rfl

/-- Decoding words gives the components that their bytes hold. -/
theorem components_yields (hids : Stand vs ids (words.map (.scalar .uint)))
    (hlen : words.length = f.words) :
    r.Yields (Build.components f ids) vs fun us es => Stand us es (r.held f words) := by
  unfold Build.components
  split
  · rename_i hf
    exact Yields.pure (words_stand hids hlen hf)
  · rename_i kind hf
    exact bits_yields hids hlen hf
  · rename_i g hf
    exact packed_yields hids hlen hf
  · rename_i g hf
    exact Yields.bind (packedPairs_yields hids hlen hf) fun ess us hus hess => Yields.pure hess
  · rename_i signed width hf
    exact fields_yields hids hlen hf

variable (r) in
/-- The words that are loaded for an attribute. -/
def fetched (p : Placement) : List UInt32 :=
  (List.range p.format.words).map fun w =>
    r.word p.buffer (r.elementBase p.buffer + (p.firstWord + UInt32.ofNat w))

/-- Fetching an attribute gives the components at its place. -/
theorem fetch_yields (hr : r.Serves) {p : Placement} {words : List UInt32}
    (hp : p.buffer < r.scope.layout.buffers.length) (hwords : p.words? = some words) :
    r.Yields (Build.fetch r.scope p words) vs fun us es =>
      Stand us es (r.held p.format (r.fetched p)) := by
  obtain ⟨_, rfl⟩ := Placement.words?_eq_some_iff.1 hwords
  unfold Build.fetch
  refine Yields.bind (Yields.mapM fun number _ us hus => loadWord_yields hr hp number)
    fun ids us hus hids => ?_
  -- the numbers have been added up as naturals, those of the words that are wanted modulo the size
  -- of a word
  have hfetched : Stand us ids ((r.fetched p).map (.scalar .uint)) := by
    simpa [fetched, Function.comp_def, UInt32.ofNat_add] using hids
  exact components_yields hfetched (by simp [fetched])

/-- Fitted components are those of the attribute, or what missing ones read as. -/
theorem fit_yields {es : List ExprId} {ws : List Value} (h : Stand vs es ws) (kind : ComponentKind)
    (count : Nat) :
    r.Yields (Build.fit kind.scalarKind count es) vs fun us es' =>
      Stand us es' ((List.range count).map fun i => ws[i]?.getD (padding kind i)) := by
  -- a missing component is read as the literal that is pushed for it
  have hpadding (i : Nat) :
      (Build.paddingLiteral kind.scalarKind i).value? = some (padding kind i) := by
    cases kind <;> by_cases hi : i = 3 <;>
      simp [Build.paddingLiteral, ComponentKind.scalarKind, Literal.value?, padding, hi] <;> rfl
  unfold Build.fit
  refine Yields.bind (Yields.mapM (g := padding kind) fun i _ us hus => Yields.push (hpadding i))
    fun missing us hus hmissing => Yields.pure ?_
  have hall := ((h.mono hus).append hmissing).take count
  -- component by component: one of the attribute, one of the padding, or none behind the count
  have hlist : (ws ++ ((List.range count).drop es.length).map (padding kind)).take count =
      (List.range count).map fun i => ws[i]?.getD (padding kind i) := by
    apply List.ext_getElem?
    intro i
    by_cases hi : i < count
    · rw [List.getElem?_take_of_lt hi, List.getElem?_map, List.getElem?_range hi]
      by_cases hw : i < ws.length
      · simp [List.getElem?_append_left hw, hw]
      · have hrest : es.length + (i - ws.length) = i := by rw [h.length_eq]; omega
        rw [List.getElem?_append_right (by omega), List.getElem?_map, List.getElem?_drop, hrest,
          List.getElem?_range hi]
        simp [hw]
    · simp [hi]
  rw [← hlist]
  exact hall

end PullingRun

end ShaderKit.Vertex
