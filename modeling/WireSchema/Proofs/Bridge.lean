/-
# What the classes come down to

Where the names of a message hold (`Proofs.Names`), its classes are the codec
by numbers. A message object comes down to the numbers of the fields and what
its attributes hold (`fieldValues`), a reader object to one slot for each field
with the notes of its two attributes (`numbered`). Writing, scanning, reading
and closing commute with these maps (`encodeTo_of_names`, `decode_of_names`,
`get_of_names`, `close_of_names`). Scans keep offsets and layouts of a field in
step, which is why pushing and pairing them never fails.

So the commands of a session that use a message by the names of its classes and
accessors are answered by the codec of its numbers (`run_decode_of_names`,
`run_get_of_names`, `run_encode_of_names`).

Key definitions: `LoadedModule.fieldValues`, `LoadedModule.slots`,
`LoadedModule.numbered`.
Key theorems: `LoadedModule.encodeTo_of_names`, `LoadedModule.scan_of_names`,
`LoadedModule.close_of_names`, `LoadedModule.decode_of_names`,
`LoadedModule.get_of_names`.
-/

import WireSchema.Proofs.Names
import WireSchema.Proofs.Slots

namespace WireSchema

/-- Noting changes the first slot of the number. -/
theorem noteOccurrence_append {number offset : Nat} {wire : WireType} {s : Slot} {after : List Slot}
    {a : Allocator} (hs : s.number = (number : Int)) : ∀ {before : List Slot},
    (∀ t ∈ before, t.number ≠ (number : Int)) →
    noteOccurrence number offset wire (before ++ s :: after) a =
      some (before ++ s.noted offset wire :: after, (s.acquire a).2)
  | [], _ => by
    rw [List.nil_append, noteOccurrence, if_pos hs, Slot.noted, ← Slot.acquire_fst s a]
    rfl
  | t :: before, h => by
    rw [List.forall_mem_cons] at h
    rw [List.cons_append, noteOccurrence, if_neg h.1, noteOccurrence_append hs h.2]
    rfl

theorem Slot.eq_of_number {s : Slot} {number : Int} (h : s.number = number) :
    (⟨number, s.offsets, s.wires⟩ : Slot) = s := by
  subst h
  rfl

theorem ne_of_nodup_map {α β : Type} {key : α → β} {before after : List α} {x : α}
    (h : ((before ++ x :: after).map key).Nodup) : ∀ y ∈ before ++ after, key y ≠ key x := by
  intro y hy he
  rw [List.map_append, List.map_cons, List.nodup_middle, List.nodup_cons, ← List.map_append] at h
  exact h.1 (List.mem_map.mpr ⟨y, hy, he⟩)

namespace LoadedModule

variable {M : LoadedModule} {m : MessagePlan} {f : FieldPlan} {o : MessageObject}
  {r r' : ReaderObject} {a a' : Allocator}

/-! ### Writing -/

/-- The numbers of the fields, and what an object holds in them. -/
def fieldValues (M : LoadedModule) (m : MessagePlan) (o : MessageObject) : List FieldValues :=
  m.fields.map fun f => ⟨f.number, M.valuesOf m o f⟩

theorem valueSize_of_names (h : M.WriterNames m) (v : Int) : M.valueSize v = .ok (int32Size v) := by
  rw [valueSize, integerOf, class?_eq_none_iff.mpr h.int_free]

theorem blockSize_of_names (h : M.WriterNames m) : ∀ values : List Int,
    M.blockSize values = .ok (packedSize values)
  | [] => rfl
  | v :: values => by
    rw [blockSize, valueSize_of_names h, blockSize_of_names h values]
    rfl

theorem shapeOf_of_names (h : M.WriterNames m) (values : Option (List Int)) :
    M.shapeOf values = .ok (.ofValues (values.getD [])) := by
  cases values with
  | none => rfl
  | some values => rw [shapeOf, lengthCounts, class?_eq_none_iff.mpr h.len_free, Option.getD_some]

theorem constant_of_writer {locals : List String} (h : M.NumbersFound m m.name locals)
    (hlocals : ["packed_size", "v"] ⊆ locals) (hm : m ∈ M.plan.messages) (hf : f ∈ m.fields)
    (afterBlock : Bool) : M.constant (writerScope m locals afterBlock) f = .ok f.number := by
  refine constant_eq h hm hf rfl rfl ?_
  cases afterBlock with
  | true => exact List.nil_subset _
  | false => exact hlocals

theorem fieldSize_of_names (h : M.WriterNames m) (hm : m ∈ M.plan.messages) (hf : f ∈ m.fields)
    (values : Option (List Int)) (afterBlock : Bool) : ∃ afterBlock',
    M.fieldSize m f values afterBlock =
      .ok (FieldValues.size ⟨f.number, values⟩, afterBlock') := by
  have hconst := constant_of_writer h.size (by decide) hm hf
  rw [fieldSize, shapeOf_of_names h]
  rcases values with _ | _ | ⟨v, _ | ⟨v', values⟩⟩
  · exact ⟨_, rfl⟩
  · exact ⟨_, rfl⟩
  · refine ⟨afterBlock, ?_⟩
    simp only [Option.getD_some, FieldShape.ofValues, hconst, valueSize_of_names h]
    rfl
  · refine ⟨true, ?_⟩
    simp only [Option.getD_some, FieldShape.ofValues, hconst, blockSize_of_names h]
    rfl

theorem writeField_of_names (h : M.WriterNames m) (hm : m ∈ M.plan.messages) (hf : f ∈ m.fields)
    (values : Option (List Int)) (afterBlock : Bool) (w : Writer) : ∃ afterBlock',
    M.writeField m f values afterBlock w =
      (.ok afterBlock', FieldValues.writeTo ⟨f.number, values⟩ w) := by
  have hconst := constant_of_writer h.encode (by decide) hm hf
  have hint : ∀ v, M.integerOf v = .ok (some v) := fun v => by
    rw [integerOf, class?_eq_none_iff.mpr h.int_free]
  rw [writeField, shapeOf_of_names h]
  rcases values with _ | _ | ⟨v, _ | ⟨v', values⟩⟩
  · exact ⟨_, rfl⟩
  · exact ⟨_, rfl⟩
  · refine ⟨afterBlock, ?_⟩
    simp only [Option.getD_some, FieldShape.ofValues, hconst, hint]
    rfl
  · refine ⟨true, ?_⟩
    simp only [Option.getD_some, FieldShape.ofValues, hconst, blockSize_of_names h]
    rfl

theorem fieldSizes_of_names (h : M.WriterNames m) (hm : m ∈ M.plan.messages) (o : MessageObject) :
    ∀ {fields : List FieldPlan}, fields ⊆ m.fields → ∀ afterBlock,
      M.fieldSizes m o fields afterBlock =
        .ok (encodedSize (fields.map fun f => ⟨f.number, M.valuesOf m o f⟩))
  | [], _, _ => rfl
  | f :: fields, hsub, afterBlock => by
    rw [List.cons_subset] at hsub
    obtain ⟨afterBlock', hsize⟩ := fieldSize_of_names h hm hsub.1 (M.valuesOf m o f) afterBlock
    rw [fieldSizes, hsize]
    simp only [fieldSizes_of_names h hm o hsub.2]
    rfl

theorem writeFields_of_names (h : M.WriterNames m) (hm : m ∈ M.plan.messages)
    (o : MessageObject) : ∀ {fields : List FieldPlan}, fields ⊆ m.fields → ∀ afterBlock w,
      M.writeFields m o fields afterBlock w =
        (.ok (), WireSchema.encodeTo (fields.map fun f => ⟨f.number, M.valuesOf m o f⟩) w)
  | [], _, _, _ => rfl
  | f :: fields, hsub, afterBlock, w => by
    rw [List.cons_subset] at hsub
    obtain ⟨afterBlock', hw⟩ := writeField_of_names h hm hsub.1 (M.valuesOf m o f) afterBlock w
    rw [writeFields, hw]
    simp only [writeFields_of_names h hm o hsub.2]
    rfl

/-- The predicted size is that of the numbers and values. -/
theorem calcSize_of_names (h : M.WriterNames m) (hm : m ∈ M.plan.messages) (o : MessageObject) :
    M.calcSize m o = .ok (encodedSize (M.fieldValues m o)) :=
  fieldSizes_of_names h hm o (List.Subset.refl _) false

/-- A message is written as its numbers and values. -/
theorem encodeTo_of_names (h : M.WriterNames m) (hm : m ∈ M.plan.messages) (o : MessageObject)
    (w : Writer) : M.encodeTo m o w = (.ok (), WireSchema.encodeTo (M.fieldValues m o) w) :=
  writeFields_of_names h hm o (List.Subset.refl _) false w

theorem encode_of_names (h : M.WriterNames m) (hm : m ∈ M.plan.messages) (o : MessageObject) :
    M.encode m o = .ok (WireSchema.encode (M.fieldValues m o)) := by
  rw [encode, encodeTo_of_names h hm]
  rfl

/-! ### Notes -/

/-- The notes of a field. -/
def slot (M : LoadedModule) (m : MessagePlan) (r : ReaderObject) (f : FieldPlan) : Slot where
  number := f.number
  offsets := r.offsets (M.storage m f).offsets
  wires := r.wires (M.storage m f).wires

@[simp] theorem number_slot (M : LoadedModule) (m : MessagePlan) (r : ReaderObject)
    (f : FieldPlan) : (M.slot m r f).number = f.number := rfl

/-- The notes of all fields, in order. -/
def slots (M : LoadedModule) (m : MessagePlan) (r : ReaderObject) : List Slot :=
  m.fields.map (M.slot m r)

/-- What a reader object comes down to. -/
def numbered (M : LoadedModule) (m : MessagePlan) (r : ReaderObject) : Reader :=
  ⟨r.buffer, M.slots m r⟩

/-- The lists of each field go in step. -/
def InStep (M : LoadedModule) (m : MessagePlan) (r : ReaderObject) : Prop :=
  ∀ s ∈ M.slots m r, s.InStep

theorem InStep.slot (h : M.InStep m r) (hf : f ∈ m.fields) : (M.slot m r f).InStep :=
  h _ (List.mem_map_of_mem hf)

theorem map_number_slots (M : LoadedModule) (m : MessagePlan) (r : ReaderObject) :
    (M.slots m r).map (·.number) = m.fields.map (·.number) := by
  rw [slots, List.map_map]
  rfl

/-- The attributes of a field as they are after an occurrence. -/
theorem note_of_inStep (h : (M.slot m r f).InStep) (offset : Nat) (wire : WireType)
    (a : Allocator) :
    r.note (M.storage m f) offset wire a =
      (none,
        (r.setOffsets (M.storage m f).offsets ((M.slot m r f).noted offset wire).offsets).setWires
          (M.storage m f).wires ((M.slot m r f).noted offset wire).wires,
        ((M.slot m r f).acquire a).2) := by
  cases ho : r.offsets (M.storage m f).offsets with
  | none =>
    simp only [ReaderObject.note, ReaderObject.acquire, ho, ReaderObject.push, if_true,
      ReaderObject.setOffsets, ReaderObject.setWires, slot, Slot.noted, Slot.acquire, Slot.push]
    congr 2
    congr 1 <;> funext x <;> split <;> simp_all
  | some os =>
    obtain ⟨ws, hw⟩ : ∃ ws, r.wires (M.storage m f).wires = some ws := by
      cases hw : r.wires (M.storage m f).wires with
      | none => simp [slot, Slot.InStep, ho, hw] at h
      | some ws => exact ⟨ws, rfl⟩
    simp only [ReaderObject.note, ReaderObject.acquire, ho, ReaderObject.push, hw, slot,
      Slot.noted, Slot.acquire, Slot.push]
    rfl

/-- Other fields keep their notes, unless they share an attribute. -/
theorem slot_set_of_ne {g : FieldPlan} (ho : (M.storage m g).offsets ≠ (M.storage m f).offsets)
    (hw : (M.storage m g).wires ≠ (M.storage m f).wires) (os : Option (List Nat))
    (ws : Option (List WireType)) :
    M.slot m ((r.setOffsets (M.storage m f).offsets os).setWires (M.storage m f).wires ws) g =
      M.slot m r g := by
  simp [slot, ReaderObject.setOffsets, ReaderObject.setWires, ho, hw]

theorem slot_set_self (os : Option (List Nat)) (ws : Option (List WireType)) :
    M.slot m ((r.setOffsets (M.storage m f).offsets os).setWires (M.storage m f).wires ws) f =
      ⟨f.number, os, ws⟩ := by
  simp [slot, ReaderObject.setOffsets, ReaderObject.setWires]

/-- Where no two fields share an attribute, the slot of one field is replaced
and those around it stay. -/
theorem slots_set (h : M.ScanNames m) {before after : List FieldPlan}
    (hfields : m.fields = before ++ f :: after) (os : Option (List Nat))
    (ws : Option (List WireType)) :
    M.slots m ((r.setOffsets (M.storage m f).offsets os).setWires (M.storage m f).wires ws) =
      before.map (M.slot m r) ++ ⟨f.number, os, ws⟩ :: after.map (M.slot m r) := by
  have hno := ne_of_nodup_map (hfields ▸ h.offsets_nodup)
  have hnw := ne_of_nodup_map (hfields ▸ h.wires_nodup)
  rw [slots, hfields, List.map_append, List.map_cons, slot_set_self]
  have hsame : ∀ g ∈ before ++ after, M.slot m ((r.setOffsets (M.storage m f).offsets os).setWires
      (M.storage m f).wires ws) g = M.slot m r g :=
    fun g hg => slot_set_of_ne (hno g hg) (hnw g hg) os ws
  rw [List.map_congr_left fun g hg => hsame g (List.mem_append_left _ hg),
    List.map_congr_left fun g hg => hsame g (List.mem_append_right _ hg)]

/-! ### The scan -/

/-- Where the constants of fields are their numbers, the first field of a number
is found. -/
theorem firstOfConstant_eq {constant : FieldPlan → Except NameFault Int} (number : Nat) :
    ∀ {fields : List FieldPlan}, (∀ f ∈ fields, constant f = .ok f.number) →
      firstOfConstant constant number fields =
        .ok (fields.find? fun f => f.number = (number : Int))
  | [], _ => rfl
  | f :: fields, h => by
    rw [List.forall_mem_cons] at h
    rw [firstOfConstant, h.1, List.find?_cons]
    by_cases hn : f.number = (number : Int)
    · simp [hn]
    · simp [hn, firstOfConstant_eq number h.2]

/-- A field is recognised by its number. -/
theorem recognise_of_names (h : M.ScanNames m) (hm : m ∈ M.plan.messages) (number : Nat) :
    M.recognise m number = .ok (m.fields.find? fun f => f.number = (number : Int)) := by
  have hpending : ["length_result", "result"] ⊆ decodeLocals := by decide
  exact firstOfConstant_eq number fun f hf => constant_eq h.numbers hm hf rfl rfl hpending

/-- **One payload.** Handling it is handling it by numbers, and keeps the lists
in step. -/
theorem scanPayload_of_names (h : M.ScanNames m) (hm : m ∈ M.plan.messages) (hr : M.InStep m r)
    {tag : Tag} {offset : Nat} {res : Except CodecError Nat}
    (hp : M.scanPayload m tag offset r a = (res, r', a')) :
    M.InStep m r' ∧ ∃ res', res = res'.mapError .decode ∧
      WireSchema.scanPayload r.buffer tag offset (M.slots m r) a = (res', M.slots m r', a') := by
  rw [scanPayload, recognise_of_names h hm] at hp
  rw [WireSchema.scanPayload]
  cases hf : m.fields.find? fun f => f.number = (tag.number : Int) with
  | none =>
    have hnone : (tag.number : Int) ∉ (M.slots m r).map (·.number) := by
      rw [map_number_slots]
      intro hmem
      obtain ⟨f, hf', he⟩ := List.mem_map.mp hmem
      simpa [he] using List.find?_eq_none.mp hf f hf'
    rw [hf] at hp
    cases hp
    rw [noteOccurrence_eq_none_iff.mpr hnone]
    exact ⟨hr, _, rfl, rfl⟩
  | some f =>
    obtain ⟨hnum, before, after, hfields, hbefore⟩ := List.find?_eq_some_iff_append.mp hf
    have hmem : f ∈ m.fields := List.mem_of_find?_eq_some hf
    have hne : ∀ t ∈ before.map (M.slot m r), t.number ≠ (tag.number : Int) := by
      intro t ht
      obtain ⟨g, hg, rfl⟩ := List.mem_map.mp ht
      simpa using hbefore g hg
    have hnote : noteOccurrence tag.number offset tag.wire
        (before.map (M.slot m r) ++ M.slot m r f :: after.map (M.slot m r)) a =
          some (before.map (M.slot m r) ++
            (M.slot m r f).noted offset tag.wire :: after.map (M.slot m r),
            ((M.slot m r f).acquire a).2) :=
      noteOccurrence_append (by simpa using hnum) hne
    have hslots : M.slots m r = before.map (M.slot m r) ++ M.slot m r f :: after.map (M.slot m r) := by
      rw [slots, hfields, List.map_append, List.map_cons]
    rw [hf] at hp
    simp only [note_of_inStep (hr.slot hmem)] at hp
    cases hp
    have hset := slots_set (r := r) h hfields ((M.slot m r f).noted offset tag.wire).offsets
      ((M.slot m r f).noted offset tag.wire).wires
    have hnumber : ((M.slot m r f).noted offset tag.wire).number = f.number :=
      Slot.number_noted _ _ _
    rw [Slot.eq_of_number hnumber] at hset
    rw [hslots, hnote, hset]
    refine ⟨?_, _, rfl, rfl⟩
    rw [InStep, hset]
    intro s hs
    have hold : ∀ g ∈ m.fields, (M.slot m r g).InStep := fun g hg => hr.slot hg
    rw [hfields] at hold
    simp only [List.mem_append, List.mem_cons, List.mem_map] at hs
    rcases hs with ⟨g, hg, rfl⟩ | rfl | ⟨g, hg, rfl⟩
    · exact hold g (by simp [hg])
    · exact (hr.slot hmem).noted offset tag.wire
    · exact hold g (by simp [hg])

/-- **The whole scan.** -/
theorem scan_of_names (h : M.ScanNames m) (hm : m ∈ M.plan.messages) (offset : Nat)
    (hr : M.InStep m r) {res : Except CodecError Unit}
    (hs : M.scan m offset r a = (res, r', a')) :
    M.InStep m r' ∧ r'.buffer = r.buffer ∧ ∃ res', res = res'.mapError .decode ∧
      WireSchema.scan r.buffer offset (M.slots m r) a = (res', M.slots m r', a') := by
  fun_induction M.scan m offset r a with
  | case1 offset r a hlt e ht =>
    cases hs
    exact ⟨hr, rfl, .error e, rfl, scan_of_readTag_error hlt ht⟩
  | case2 offset r a hlt tag ht e r₁ a₁ hp =>
    cases hs
    obtain ⟨hstep, res', hres, hp'⟩ := scanPayload_of_names h hm hr hp
    cases res' with
    | ok => cases hres
    | error e' => exact ⟨hstep, buffer_of_scanPayload hp, .error e', by cases hres; rfl,
        scan_of_payload_error hlt ht hp'⟩
  | case3 offset r a hlt tag ht next r₁ a₁ hp ih =>
    obtain ⟨hstep, res', hres, hp'⟩ := scanPayload_of_names h hm hr hp
    obtain ⟨hstep', hbuf, res'', hres', hs'⟩ := ih hstep hs
    have hbuf₁ := buffer_of_scanPayload hp
    rw [hbuf₁] at hbuf hs'
    cases res' with
    | error e => cases hres
    | ok next' =>
      cases hres
      exact ⟨hstep', hbuf, res'', hres', (scan_of_read hlt ht hp').trans hs'⟩
  | case4 offset r a hge =>
    cases hs
    exact ⟨hr, rfl, .ok (), rfl, scan_of_ge (Nat.le_of_not_lt hge)⟩

/-! ### Closing -/

/-- Giving the offsets of a field back, seen from its slot. -/
theorem slot_releaseOffsets (r : ReaderObject) (f : FieldPlan) (a : Allocator) :
    (M.slot m r f).releaseOffsets a =
      ((r.releaseOffsets (M.storage m f).offsets a).1,
        M.slot m (r.releaseOffsets (M.storage m f).offsets a).2.1 f,
        (r.releaseOffsets (M.storage m f).offsets a).2.2) := by
  unfold Slot.releaseOffsets ReaderObject.releaseOffsets
  cases ho : r.offsets (M.storage m f).offsets with
  | none => simp only [slot, ho]
  | some os => cases a.release <;> simp [slot, ho, ReaderObject.setOffsets]

/-- Giving the layouts of a field back, seen from its slot. -/
theorem slot_releaseWires (r : ReaderObject) (f : FieldPlan) (a : Allocator) :
    (M.slot m r f).releaseWires a =
      ((r.releaseWires (M.storage m f).wires a).1,
        M.slot m (r.releaseWires (M.storage m f).wires a).2.1 f,
        (r.releaseWires (M.storage m f).wires a).2.2) := by
  unfold Slot.releaseWires ReaderObject.releaseWires
  cases hw : r.wires (M.storage m f).wires with
  | none => simp only [slot, hw]
  | some ws => cases a.release <;> simp [slot, hw, ReaderObject.setWires]

/-- A reader in which only some attributes may have changed. -/
structure SameBut (offsets wires : List String) (r r' : ReaderObject) : Prop where
  buffer_eq : r'.buffer = r.buffer
  offsets_eq : ∀ name ∉ offsets, r'.offsets name = r.offsets name
  wires_eq : ∀ name ∉ wires, r'.wires name = r.wires name

theorem SameBut.slot_eq {offsets wires : List String} (h : SameBut offsets wires r r')
    (ho : (M.storage m f).offsets ∉ offsets) (hw : (M.storage m f).wires ∉ wires) :
    M.slot m r' f = M.slot m r f := by
  rw [slot, slot, h.offsets_eq _ ho, h.wires_eq _ hw]

theorem SameBut.trans {offsets wires offsets' wires' : List String} {r'' : ReaderObject}
    (h : SameBut offsets wires r r') (h' : SameBut offsets' wires' r' r'') :
    SameBut (offsets ++ offsets') (wires ++ wires') r r'' where
  buffer_eq := h'.buffer_eq.trans h.buffer_eq
  offsets_eq := fun name hn => by
    rw [List.mem_append, not_or] at hn
    rw [h'.offsets_eq name hn.2, h.offsets_eq name hn.1]
  wires_eq := fun name hn => by
    rw [List.mem_append, not_or] at hn
    rw [h'.wires_eq name hn.2, h.wires_eq name hn.1]

theorem SameBut.mono {offsets wires offsets' wires' : List String}
    (h : SameBut offsets wires r r') (ho : offsets ⊆ offsets') (hw : wires ⊆ wires') :
    SameBut offsets' wires' r r' where
  buffer_eq := h.buffer_eq
  offsets_eq := fun name hn => h.offsets_eq name fun hmem => hn (ho hmem)
  wires_eq := fun name hn => h.wires_eq name fun hmem => hn (hw hmem)

theorem sameBut_releaseOffsets (r : ReaderObject) (name : String) (a : Allocator) :
    SameBut [name] [] r (r.releaseOffsets name a).2.1 := by
  unfold ReaderObject.releaseOffsets
  cases r.offsets name with
  | none => exact ⟨rfl, fun _ _ => rfl, fun _ _ => rfl⟩
  | some os =>
    cases a.release with
    | error => exact ⟨rfl, fun _ _ => rfl, fun _ _ => rfl⟩
    | ok a' =>
      exact ⟨rfl, fun x hx => if_neg (by simpa using hx), fun _ _ => rfl⟩

theorem sameBut_releaseWires (r : ReaderObject) (name : String) (a : Allocator) :
    SameBut [] [name] r (r.releaseWires name a).2.1 := by
  unfold ReaderObject.releaseWires
  cases r.wires name with
  | none => exact ⟨rfl, fun _ _ => rfl, fun _ _ => rfl⟩
  | some ws =>
    cases a.release with
    | error => exact ⟨rfl, fun _ _ => rfl, fun _ _ => rfl⟩
    | ok a' =>
      exact ⟨rfl, fun _ _ => rfl, fun x hx => if_neg (by simpa using hx)⟩

/-- Giving back the lists of fields that share no attribute is closing their
slots, and reaches no other attribute. -/
theorem releaseAll_of_nodup : ∀ {fields : List FieldPlan} {r : ReaderObject} {a : Allocator},
    (fields.map fun f => (M.storage m f).offsets).Nodup →
    (fields.map fun f => (M.storage m f).wires).Nodup →
    closeSlots (fields.map (M.slot m r)) a =
      ((r.releaseAll (fields.map (M.storage m)) a).1,
        fields.map (M.slot m (r.releaseAll (fields.map (M.storage m)) a).2.1),
        (r.releaseAll (fields.map (M.storage m)) a).2.2) ∧
      SameBut (fields.map fun f => (M.storage m f).offsets)
        (fields.map fun f => (M.storage m f).wires) r
        (r.releaseAll (fields.map (M.storage m)) a).2.1
  | [], r, a, _, _ => ⟨rfl, rfl, fun _ _ => rfl, fun _ _ => rfl⟩
  | f :: fields, r, a, hno, hnw => by
    rw [List.map_cons, List.nodup_cons] at hno hnw
    have hso := slot_releaseOffsets (M := M) (m := m) r f a
    have hfo := sameBut_releaseOffsets r (M.storage m f).offsets a
    rw [List.map_cons, List.map_cons, closeSlots, ReaderObject.releaseAll, Slot.close, hso]
    -- the other fields keep their slots whatever the first one gives back
    have hrest : ∀ {r' : ReaderObject}, SameBut [(M.storage m f).offsets] [(M.storage m f).wires]
        r r' → fields.map (M.slot m r') = fields.map (M.slot m r) := by
      intro r' hsame
      refine List.map_congr_left fun g hg => hsame.slot_eq ?_ ?_
      · rw [List.mem_singleton]
        intro he
        exact hno.1 (List.mem_map.mpr ⟨g, hg, he⟩)
      · rw [List.mem_singleton]
        intro he
        exact hnw.1 (List.mem_map.mpr ⟨g, hg, he⟩)
    have hmono : ∀ {r' : ReaderObject}, SameBut [(M.storage m f).offsets] [(M.storage m f).wires]
        r r' → SameBut ((f :: fields).map fun f => (M.storage m f).offsets)
          ((f :: fields).map fun f => (M.storage m f).wires) r r' :=
      fun hsame => hsame.mono (List.cons_subset_cons _ (List.nil_subset _))
        (List.cons_subset_cons _ (List.nil_subset _))
    generalize r.releaseOffsets (M.storage m f).offsets a = p at hso hfo ⊢
    obtain ⟨e₁, r₁, a₁⟩ := p
    cases e₁ with
    | some e =>
      have hsame := hfo.mono (List.Subset.refl _) (List.nil_subset [(M.storage m f).wires])
      refine ⟨?_, hmono hsame⟩
      simp only [List.map_cons, hrest hsame]
    | none =>
      have hsw := slot_releaseWires (M := M) (m := m) r₁ f a₁
      have hsame := hfo.trans (sameBut_releaseWires r₁ (M.storage m f).wires a₁)
      simp only [hsw]
      generalize r₁.releaseWires (M.storage m f).wires a₁ = p at hsw hsame ⊢
      obtain ⟨e₂, r₂, a₂⟩ := p
      cases e₂ with
      | some e =>
        refine ⟨?_, hmono hsame⟩
        simp only [List.map_cons, hrest hsame]
      | none =>
        obtain ⟨ih, hsame'⟩ := releaseAll_of_nodup (r := r₂) (a := a₂) hno.2 hnw.2
        have hf := hsame'.slot_eq (M := M) (m := m) hno.1 hnw.1
        refine ⟨?_, hsame.trans hsame'⟩
        simp only [List.map_cons, ← hrest hsame, ih, hf]

/-- Closing a reader is closing its slots. -/
theorem close_of_names (h : M.ScanNames m) (r : ReaderObject) (a : Allocator) :
    (M.numbered m r).close a =
      ((M.close m r a).1, M.numbered m (M.close m r a).2.1, (M.close m r a).2.2) := by
  obtain ⟨hclose, hsame⟩ := releaseAll_of_nodup (r := r) (a := a) h.offsets_nodup h.wires_nodup
  rw [Reader.close, numbered, slots, hclose, numbered, close, slots, hsame.buffer_eq]

/-! ### Decoding -/

theorem inStep_fresh (M : LoadedModule) (m : MessagePlan) (data : Bytes) :
    M.InStep m { buffer := ⟨data⟩ } := by
  intro s hs
  obtain ⟨f, -, rfl⟩ := List.mem_map.mp hs
  rfl

/-- **Decoding by names is decoding by numbers.** -/
theorem decode_of_names (h : M.ScanNames m) (hm : m ∈ M.plan.messages) (data : Bytes)
    (a : Allocator) : Reader.decode (m.fields.map (·.number)) data a =
      ((M.decode m data a).1.map (M.numbered m), (M.decode m data a).2) := by
  have hfresh : (m.fields.map (·.number)).map (fun n => ({ number := n } : Slot)) =
      M.slots m { buffer := ⟨data⟩ } := by
    rw [slots, List.map_map]
    rfl
  rw [Reader.decode, hfresh, decode, h.decode_free, if_neg Bool.false_ne_true]
  cases hs : M.scan m 0 { buffer := ⟨data⟩ } a with
  | mk res state =>
    obtain ⟨r, a'⟩ := state
    obtain ⟨-, hbuf, res', rfl, hscan⟩ := scan_of_names h hm 0 (M.inStep_fresh m data) hs
    rw [hscan]
    cases res' with
    | ok =>
      simp only [Except.mapError, Except.map, numbered, hbuf]
    | error e =>
      have hclose := close_of_names h r a'
      rw [Reader.close] at hclose
      simp only [Except.mapError]
      generalize M.close m r a' = p at hclose ⊢
      obtain ⟨e', r', a''⟩ := p
      generalize hq : closeSlots (M.slots m r) a' = q
      obtain ⟨e'', ss, b''⟩ := q
      simp only [numbered, hq, Prod.mk.injEq] at hclose
      obtain ⟨rfl, -, rfl⟩ := hclose
      cases e'' with
      | none => rfl
      | some f => rfl

theorem numbered_of_decode (h : M.ScanNames m) (hm : m ∈ M.plan.messages) {data : Bytes}
    (hd : M.decode m data a = (.ok r, a')) :
    Reader.decode (m.fields.map (·.number)) data a = (.ok (M.numbered m r), a') := by
  rw [decode_of_names h hm, hd]
  rfl

theorem exists_of_numbered (h : M.ScanNames m) (hm : m ∈ M.plan.messages) {data : Bytes}
    {s : Reader} (hd : Reader.decode (m.fields.map (·.number)) data a = (.ok s, a')) :
    ∃ r, M.decode m data a = (.ok r, a') ∧ M.numbered m r = s := by
  rw [decode_of_names h hm] at hd
  cases hp : M.decode m data a with
  | mk res a'' =>
    rw [hp] at hd
    cases res with
    | error e => cases hd
    | ok r =>
      cases hd
      exact ⟨r, rfl, rfl⟩

theorem error_of_numbered (h : M.ScanNames m) (hm : m ∈ M.plan.messages) {data : Bytes}
    {e : CodecError} (hd : Reader.decode (m.fields.map (·.number)) data a = (.error e, a')) :
    M.decode m data a = (.error e, a') := by
  rw [decode_of_names h hm] at hd
  cases hp : M.decode m data a with
  | mk res a'' =>
    rw [hp] at hd
    cases res with
    | error e =>
      cases hd
      rfl
    | ok r => cases hd

theorem inStep_of_decode (h : M.ScanNames m) (hm : m ∈ M.plan.messages) {data : Bytes}
    (hd : M.decode m data a = (.ok r, a')) : M.InStep m r :=
  (scan_of_names h hm 0 (M.inStep_fresh m data) (scan_of_decode hd).2).1

end LoadedModule

/-! ### Accessors -/

section Convert

variable {convert : Int → Except NameFault EnumValue} {value : Int → EnumValue}
  (hconvert : ∀ v, convert v = .ok (value v)) (b : Buffer)

/-- What is read of integers, as values of an enum. -/
def asValues (value : Int → EnumValue) (read : Except DecodeError (List Int)) :
    Except CodecError (List EnumValue) :=
  (read.map (List.map value)).mapError .decode

include hconvert

theorem convertPacked_eq (start offset stop : Nat) : convertPacked convert b start offset stop =
    asValues value (readPacked b start offset stop) := by
  fun_induction readPacked b start offset stop with
  | case1 offset hlt e hr =>
    rw [convertPacked, if_pos hlt]
    split
    next h => rw [hr] at h; cases h; rfl
    next h => rw [hr] at h; cases h
  | case2 offset hlt r hr values hvalues ih =>
    rw [convertPacked, if_pos hlt]
    split
    next h => rw [hr] at h; cases h
    next r' h =>
      rw [hr] at h
      cases h
      rw [hvalues] at ih
      simp only [hconvert, ih]
      rfl
  | case3 offset hlt r hr e he ih =>
    rw [convertPacked, if_pos hlt]
    split
    next h => rw [hr] at h; cases h
    next r' h =>
      rw [hr] at h
      cases h
      rw [he] at ih
      simp only [hconvert, ih]
      rfl
  | case4 hlt =>
    rw [convertPacked, if_neg (by omega), if_pos rfl]
    rfl
  | case5 offset hlt hne =>
    rw [convertPacked, if_neg hlt, if_neg hne]
    rfl

theorem convertBlock_eq (start : Nat) :
    convertBlock convert b start = asValues value (readBlock b start) := by
  unfold convertBlock readBlock
  cases b.readVarint start with
  | error e => rfl
  | ok length =>
    simp only
    cases b.advance (start + length.size) length.value with
    | error e => rfl
    | ok stop => exact convertPacked_eq hconvert b start _ stop

theorem convertSingle_eq (start : Nat) {wire : WireType} (hw : wire ≠ .bytes) :
    convertSingle convert b start = asValues value (readOccurrence b start wire) := by
  have hread : readOccurrence b start wire = (b.readInt32 start).map fun r => [r.value] := by
    unfold readOccurrence
    cases hr : b.readInt32 start <;> cases wire <;> first | rfl | exact absurd rfl hw
  rw [hread]
  unfold convertSingle
  cases b.readInt32 start with
  | error e => rfl
  | ok r =>
    simp only [hconvert]
    rfl

end Convert

theorem convertOccurrences_eq {convert : Bool → Int → Except NameFault EnumValue}
    {value : Int → EnumValue} (hconvert : ∀ afterBlock v, convert afterBlock v = .ok (value v))
    (b : Buffer) : ∀ (occurrences : List (Nat × WireType)) (afterBlock : Bool),
    convertOccurrences convert b occurrences afterBlock =
      asValues value (readOccurrences b occurrences)
  | [], _ => rfl
  | (start, wire) :: rest, afterBlock => by
    have hpart : (if wire = .bytes then convertBlock (convert true) b start
        else convertSingle (convert afterBlock) b start) =
          asValues value (readOccurrence b start wire) := by
      split
      next hw => rw [hw, convertBlock_eq (hconvert true)]; rfl
      next hw => exact convertSingle_eq (hconvert afterBlock) b start hw
    simp only [convertOccurrences, hpart, readOccurrences,
      convertOccurrences_eq hconvert b rest]
    cases readOccurrence b start wire with
    | error e => rfl
    | ok values =>
      cases readOccurrences b rest with
      | error e => rfl
      | ok more => simp [asValues, Except.map, Except.mapError]

namespace LoadedModule

variable {M : LoadedModule} {m : MessagePlan} {f : FieldPlan} {r : ReaderObject}

/-- **An accessor reads the slot of its field.** -/
theorem get_of_names (h : M.AccessorNames m) (hm : m ∈ M.plan.messages) (hf : f ∈ m.fields)
    (hr : M.InStep m r) (a : Allocator) :
    M.get m f r a = (M.numbered m r).get (M.slot m r f) (M.declaredMembers f) a := by
  have hstep := hr.slot hf
  rw [get, Reader.get]
  cases ho : r.offsets (M.storage m f).offsets with
  | none =>
    have hocc : (M.slot m r f).occurrences = [] := by simp [slot, Slot.occurrences, ho]
    rw [hocc]
    rfl
  | some os =>
    obtain ⟨ws, hw⟩ : ∃ ws, r.wires (M.storage m f).wires = some ws := by
      cases hw : r.wires (M.storage m f).wires with
      | none => simp [slot, Slot.InStep, ho, hw] at hstep
      | some ws => exact ⟨ws, rfl⟩
    have hocc : (M.slot m r f).occurrences = os.zip ws := by
      simp [slot, Slot.occurrences, ho, hw]
    simp only [replay, class?_eq_none_iff.mpr h.zip_free, hw,
      convertOccurrences_eq (convert_eq h hm hf), hocc]
    rw [show (M.numbered m r).buffer = r.buffer from rfl]
    cases readOccurrences r.buffer (os.zip ws) with
    | ok values => rfl
    | error e => rfl

/-- An accessor returns a list of the allocator, or reports an error of the
message and leaves the allocator as it was. -/
theorem get_cases (h : M.AccessorNames m) (hm : m ∈ M.plan.messages) (hf : f ∈ m.fields)
    (hr : M.InStep m r) (a : Allocator) :
    (∃ values, M.get m f r a = (.ok values, a.newList)) ∨
      ∃ e, M.get m f r a = (.error (.decode e), a) := by
  rw [get_of_names h hm hf hr, Reader.get]
  cases readOccurrences (M.numbered m r).buffer (M.slot m r f).occurrences with
  | ok values => exact .inl ⟨_, rfl⟩
  | error e => exact .inr ⟨e, by simp only [Allocator.release_newList]⟩

end LoadedModule

/-! ### Sessions -/

namespace Session

open LoadedModule

variable {s : Session} {m : MessagePlan}

theorem writerClass?_name (hm : m ∈ s.loaded.plan.messages) : s.writerClass? m.name = some m := by
  refine find?_eq_of_unique hm (by simp) fun n hn hname => ?_
  rw [beq_iff_eq] at hname
  have hmem : m.name ∈ n.classNames := by simp [MessagePlan.classNames, hname]
  exact eq_of_mem_classNames hn hm hmem (by simp [MessagePlan.classNames])

theorem readerClass?_readerName (hm : m ∈ s.loaded.plan.messages) :
    s.readerClass? m.readerName = some m := by
  refine find?_eq_of_unique hm (by simp) fun n hn hname => ?_
  rw [beq_iff_eq] at hname
  have hmem : m.readerName ∈ n.classNames := by simp [MessagePlan.classNames, hname]
  exact eq_of_mem_classNames hn hm hmem (by simp [MessagePlan.classNames])

theorem accessor?_readerMethod {o : OpenReader} {f : FieldPlan}
    (hm : o.message ∈ s.loaded.plan.messages) (hf : f ∈ o.message.fields) :
    o.accessor? f.names.readerMethod = some f := by
  refine find?_eq_of_unique hf (by simp) fun g hg hname => ?_
  rw [beq_iff_eq] at hname
  have hnodup := nodup_of_mem_all hm (·.names.readerMethod)
    fun f _ => by simp [FieldNames.all]
  exact List.inj_on_of_nodup_map hnodup hg hf hname

/-- **Encoding a message by the name of its class** gives the bytes and the size
of its numbers and values. -/
theorem run_encode_of_names (hm : m ∈ s.loaded.plan.messages) (h : s.loaded.WriterNames m)
    {fields : List (String × Option (List Operand))} {values : List (String × Option (List Int))}
    (hvalues : s.loaded.assignment? fields = some values) :
    s.run (.encode m.name fields) =
      (.ok (.encoded (WireSchema.encode (s.loaded.fieldValues m (s.loaded.object m values)))
          (encodedSize (s.loaded.fieldValues m (s.loaded.object m values)))),
        { s with lastEncoded :=
          WireSchema.encode (s.loaded.fieldValues m (s.loaded.object m values)) }) := by
  simp only [run, object, writerClass?_name hm, hvalues, encode, encode_of_names h hm,
    calcSize_of_names h hm]

/-- **Decoding a message by the name of its class** is decoding it by numbers:
the session gets a reader that comes down to the one by numbers, or the same
error. -/
theorem run_decode_of_names (hm : m ∈ s.loaded.plan.messages) (h : s.loaded.ScanNames m)
    (data : Option Bytes) {k : Nat} {a : Allocator} (ha : s.allocatorFor? m k = some a) :
    match Reader.decode (m.fields.map (·.number)) (data.getD s.lastEncoded) a with
    | (.ok r, a') => ∃ o, s.loaded.InStep m o ∧ s.loaded.numbered m o = r ∧
      s.run (.decode m.readerName data k) = (.ok (.reader s.readers.length m.needsAllocator),
        { s with allocators := s.allocators.set k a', readers := s.readers ++ [⟨m, k, o⟩] })
    | (.error e, a') => s.run (.decode m.readerName data k) =
      (.error (.codec e), { s with allocators := s.allocators.set k a' }) := by
  rw [decode_of_names h hm]
  simp only [run, readerClass?_readerName hm, ha, decode]
  cases hd : s.loaded.decode m (data.getD s.lastEncoded) a with
  | mk res a' =>
    cases res with
    | ok o => exact ⟨o, inStep_of_decode h hm hd, rfl, rfl⟩
    | error e => rfl

/-- **Calling an accessor by its name** reads the slot of its field. -/
theorem run_get_of_names {i k : Nat} {o : OpenReader} {f : FieldPlan} {a : Allocator}
    (hm : o.message ∈ s.loaded.plan.messages) (h : s.loaded.AccessorNames o.message)
    (hf : f ∈ o.message.fields) (hi : s.readers[i]? = some o) (ha : s.allocators[k]? = some a)
    (hstep : s.loaded.InStep o.message o.reader) :
    s.run (.get i f.names.readerMethod k) =
      match (s.loaded.numbered o.message o.reader).get (s.loaded.slot o.message o.reader f)
        (s.loaded.declaredMembers f) a with
      | (.ok values, a') => (.ok (.values s.lists.length values),
        { s with allocators := s.allocators.set k a', lists := s.lists ++ [values] })
      | (.error e, a') =>
        (.error (.codec e), { s with allocators := s.allocators.set k a' }) := by
  have hrun : s.run (.get i f.names.readerMethod k) = s.get o f k a := by
    simp only [run, hi, ha, accessor?_readerMethod hm hf]
  rw [hrun, ← get_of_names h hm hf hstep]
  cases hg : s.loaded.get o.message f o.reader a with
  | mk res a' => cases res <;> simp only [get, hg]

end Session
end WireSchema
