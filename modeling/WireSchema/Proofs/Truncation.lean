/-
# Where a message can be cut

A scan goes from record to record. The places between two records are those
that its steps reach (`LoadedModule.EndsRecord`), and they are the only places
where a message that is decoded can be cut. A step reads nothing behind the
place it leads to, so it can be taken in any beginning of the message that
includes this place (`LoadedModule.ScanStep.cut`). A cut that no step leads to
falls into a tag, a length or a payload. There the scan of what is left stops,
with an error of the message (`LoadedModule.scan_of_cut`), since it refers to
the same names as the scan of the whole.

None of this needs names that hold. In particular a refused message can be
closed even where fields share their notes: an attribute holds at most one
list, and at least as many lists are outstanding (`LoadedModule.held_scan`,
`LoadedModule.close_of_scan`).

Key definitions: `ReaderObject.cut`, `ReaderObject.held`, `ScanState`,
`LoadedModule.ScanStep`, `LoadedModule.EndsRecord`.
Key theorems: `LoadedModule.scanPayload_elsewhere`, `LoadedModule.held_scan`,
`LoadedModule.ScanStep.cut`, `LoadedModule.scan_of_cut`,
`LoadedModule.decode_take_iff`.
-/

import WireSchema.Proofs.Scan
import Mathlib.Data.Finset.Card
import Mathlib.Logic.Relation

namespace WireSchema

/-! ### The beginning of a message -/

namespace Buffer

variable {b : Buffer} {offset next k : Nat}

/-- The first `k` bytes. -/
def take (b : Buffer) (k : Nat) : Buffer := ⟨b.data.take k⟩

theorem size_take (h : k ≤ b.size) : (b.take k).size = k := by
  show (b.data.take k).length = k
  rw [List.length_take]
  exact Nat.min_eq_left h

theorem HasAt.take {v : Bytes} (h : b.HasAt offset v) (hk : offset + v.length ≤ k) :
    (b.take k).HasAt offset v := by
  have hsize : offset ≤ (b.data.take k).length := by
    have := h.le
    rw [List.length_take]
    unfold size at this
    omega
  refine ⟨hsize, ?_⟩
  show v <+: (b.data.take k).drop offset
  rw [List.drop_take]
  exact List.prefix_take_iff.mpr ⟨h.2, by omega⟩

theorem HasAt.of_take {v : Bytes} (h : (b.take k).HasAt offset v) : b.HasAt offset v := by
  obtain ⟨hle, hp⟩ := h
  refine ⟨?_, ?_⟩
  · have hle : offset ≤ (b.data.take k).length := hle
    rw [List.length_take] at hle
    show offset ≤ b.data.length
    omega
  · have hp : v <+: (b.data.take k).drop offset := hp
    rw [List.drop_take] at hp
    exact hp.trans (List.take_prefix _ _)

/-- A tag that ends before the cut is read as it was. -/
theorem readTag_take {tag : Tag} (h : b.readTag offset = .ok tag) (hk : offset + tag.size ≤ k) :
    (b.take k).readTag offset = .ok tag := by
  obtain ⟨raw, hat, hd, hl, hpos⟩ := hasAt_of_readTag h
  obtain ⟨number, wire, size⟩ := tag
  subst hl
  exact readTag_of_denotes (hat.take hk) hpos hd

theorem readTag_of_take {tag : Tag} (h : (b.take k).readTag offset = .ok tag) :
    b.readTag offset = .ok tag := by
  obtain ⟨raw, hat, hd, hl, hpos⟩ := hasAt_of_readTag h
  obtain ⟨number, wire, size⟩ := tag
  subst hl
  exact readTag_of_denotes hat.of_take hpos hd

/-- A payload is passed over before the cut if and only if it ends there. -/
theorem skipPayload_take_iff {wire : WireType} (hk : k ≤ b.size) :
    (b.take k).skipPayload offset wire = .ok next ↔
      b.skipPayload offset wire = .ok next ∧ next ≤ k := by
  constructor
  · intro h
    obtain ⟨p, rfl, hat, rfl⟩ := hasAt_of_skipPayload h
    exact ⟨skipPayload_of_hasAt hat.of_take, size_take hk ▸ hat.le⟩
  · rintro ⟨h, hle⟩
    obtain ⟨p, rfl, hat, rfl⟩ := hasAt_of_skipPayload h
    exact skipPayload_of_hasAt (hat.take hle)

end Buffer

namespace ReaderObject

/-- The reader with the first `k` bytes of its message. -/
def cut (r : ReaderObject) (k : Nat) : ReaderObject := { r with buffer := r.buffer.take k }

@[simp] theorem buffer_cut (r : ReaderObject) (k : Nat) : (r.cut k).buffer = r.buffer.take k := rfl

theorem acquire_elsewhere (r : ReaderObject) (s : Storage) (a : Allocator) (b : Buffer)
    (c : Allocator) : ∃ c', ({ r with buffer := b } : ReaderObject).acquire s c =
      ({ (r.acquire s a).1 with buffer := b }, c') := by
  unfold acquire
  cases r.offsets s.offsets with
  | none => exact ⟨_, rfl⟩
  | some os => exact ⟨_, rfl⟩

theorem push_elsewhere (r : ReaderObject) (s : Storage) (offset : Nat) (wire : WireType)
    (b : Buffer) : ({ r with buffer := b } : ReaderObject).push s offset wire =
      ((r.push s offset wire).1, { (r.push s offset wire).2 with buffer := b }) := by
  unfold push
  cases r.wires s.wires with
  | none => rfl
  | some ws => rfl

/-- Noting looks neither at the message nor at how many lists are outstanding. -/
theorem note_elsewhere (r : ReaderObject) (s : Storage) (offset : Nat) (wire : WireType)
    (a : Allocator) (b : Buffer) (c : Allocator) :
    ∃ c', ({ r with buffer := b } : ReaderObject).note s offset wire c =
      ((r.note s offset wire a).1, { (r.note s offset wire a).2.1 with buffer := b }, c') := by
  obtain ⟨c', hc⟩ := r.acquire_elsewhere s a b c
  refine ⟨c', ?_⟩
  simp only [note, hc, push_elsewhere]

end ReaderObject

/-! ### What a reader holds -/

section Held

variable {α : Type} {store : String → Option α} {names : Finset String} {name : String}

/-- The number of these attributes that hold a list. -/
def heldIn (names : Finset String) (store : String → Option α) : Nat :=
  (names.filter fun x => (store x).isSome).card

theorem heldIn_set_le (names : Finset String) (store : String → Option α) (name : String)
    (list : Option α) :
    heldIn names (fun x => if x = name then list else store x) ≤ heldIn names store + 1 := by
  have hsub : (names.filter fun x => (if x = name then list else store x).isSome) ⊆
      insert name (names.filter fun x => (store x).isSome) := by
    intro x hx
    by_cases hn : x = name
    · rw [hn]
      exact Finset.mem_insert_self _ _
    · rw [Finset.mem_filter, if_neg hn] at hx
      exact Finset.mem_insert_of_mem (Finset.mem_filter.mpr hx)
  exact (Finset.card_le_card hsub).trans (Finset.card_insert_le _ _)

theorem heldIn_set_same (names : Finset String) (store : String → Option α) (name : String)
    {list : Option α} (h : list.isSome = (store name).isSome) :
    heldIn names (fun x => if x = name then list else store x) = heldIn names store := by
  refine congrArg Finset.card (Finset.filter_congr fun x _ => ?_)
  by_cases hn : x = name
  · simp [hn, h]
  · simp [hn]

theorem heldIn_set_none (hmem : name ∈ names) (h : (store name).isSome = true) :
    heldIn names (fun x => if x = name then none else store x) + 1 = heldIn names store := by
  have herase : (names.filter fun x => (if x = name then none else store x).isSome) =
      (names.filter fun x => (store x).isSome).erase name := by
    ext x
    rw [Finset.mem_filter, Finset.mem_erase, Finset.mem_filter]
    by_cases hn : x = name
    · simp [hn]
    · simp [hn]
  rw [heldIn, herase]
  exact Finset.card_erase_add_one (Finset.mem_filter.mpr ⟨hmem, h⟩)

end Held

namespace ReaderObject

/-- The number of attributes among these that hold a list. -/
def held (r : ReaderObject) (offsets wires : Finset String) : Nat :=
  heldIn offsets r.offsets + heldIn wires r.wires

variable {r : ReaderObject} {offsets wires : Finset String} {a : Allocator}

/-- A field takes a list for each attribute that comes to hold one. -/
theorem held_acquire (r : ReaderObject) (offsets wires : Finset String) (s : Storage)
    (a : Allocator) :
    (r.acquire s a).1.held offsets wires + a.outstanding ≤
      r.held offsets wires + (r.acquire s a).2.outstanding := by
  unfold acquire
  cases r.offsets s.offsets with
  | some os => exact Nat.le_refl _
  | none =>
    have ho := heldIn_set_le offsets r.offsets s.offsets (some [])
    have hw := heldIn_set_le wires r.wires s.wires (some [])
    show heldIn offsets _ + heldIn wires _ + a.outstanding ≤
      heldIn offsets r.offsets + heldIn wires r.wires + (a.outstanding + 1 + 1)
    simp only [setOffsets, setWires]
    omega

/-- Adding an occurrence takes no list. -/
theorem held_push (r : ReaderObject) (offsets wires : Finset String) (s : Storage)
    (offset : Nat) (wire : WireType) :
    (r.push s offset wire).2.held offsets wires = r.held offsets wires := by
  have hoffsets := heldIn_set_same offsets r.offsets s.offsets
    (Option.isSome_map (f := (· ++ [offset])))
  unfold push
  cases hw : r.wires s.wires with
  | none => exact congrArg (· + heldIn wires r.wires) hoffsets
  | some ws =>
    have hwires := heldIn_set_same wires r.wires s.wires
      (show (some (ws ++ [wire])).isSome = _ by rw [hw]; rfl)
    exact congrArg₂ (· + ·) hoffsets hwires

theorem held_note (r : ReaderObject) (offsets wires : Finset String) (s : Storage)
    (offset : Nat) (wire : WireType) (a : Allocator) :
    (r.note s offset wire a).2.1.held offsets wires + a.outstanding ≤
      r.held offsets wires + (r.note s offset wire a).2.2.outstanding := by
  simp only [note, held_push]
  exact r.held_acquire offsets wires s a

/-- A list of offsets can be given back as long as one is outstanding for each
list that is held. -/
theorem releaseOffsets_of_held (hle : r.held offsets wires ≤ a.outstanding) {name : String}
    (hmem : name ∈ offsets) : ∃ r' a', r.releaseOffsets name a = (none, r', a') ∧
      r'.held offsets wires ≤ a'.outstanding := by
  unfold releaseOffsets
  cases h : r.offsets name with
  | none => exact ⟨r, a, rfl, hle⟩
  | some os =>
    have hset := heldIn_set_none hmem (show (r.offsets name).isSome = true by rw [h]; rfl)
    have hpos : a.outstanding ≠ 0 := by
      unfold held at hle
      omega
    rw [Allocator.release, if_neg hpos]
    refine ⟨_, _, rfl, ?_⟩
    unfold held at hle ⊢
    show heldIn offsets _ + heldIn wires r.wires ≤ a.outstanding - 1
    simp only [setOffsets]
    omega

/-- And so can a list of layouts. -/
theorem releaseWires_of_held (hle : r.held offsets wires ≤ a.outstanding) {name : String}
    (hmem : name ∈ wires) : ∃ r' a', r.releaseWires name a = (none, r', a') ∧
      r'.held offsets wires ≤ a'.outstanding := by
  unfold releaseWires
  cases h : r.wires name with
  | none => exact ⟨r, a, rfl, hle⟩
  | some ws =>
    have hset := heldIn_set_none hmem (show (r.wires name).isSome = true by rw [h]; rfl)
    have hpos : a.outstanding ≠ 0 := by
      unfold held at hle
      omega
    rw [Allocator.release, if_neg hpos]
    refine ⟨_, _, rfl, ?_⟩
    unfold held at hle ⊢
    show heldIn offsets r.offsets + heldIn wires _ ≤ a.outstanding - 1
    simp only [setWires]
    omega

/-- Fields can be given back whether or not they share attributes. -/
theorem releaseAll_of_held : ∀ {fields : List Storage} {r : ReaderObject} {a : Allocator},
    r.held offsets wires ≤ a.outstanding →
    (∀ s ∈ fields, s.offsets ∈ offsets ∧ s.wires ∈ wires) →
    ∃ r' a', r.releaseAll fields a = (none, r', a')
  | [], r, a, _, _ => ⟨r, a, rfl⟩
  | s :: fields, r, a, hle, hmem => by
    rw [List.forall_mem_cons] at hmem
    obtain ⟨r₁, a₁, ho, hle₁⟩ := releaseOffsets_of_held hle hmem.1.1
    obtain ⟨r₂, a₂, hw, hle₂⟩ := releaseWires_of_held hle₁ hmem.1.2
    obtain ⟨r', a', hrest⟩ := releaseAll_of_held hle₂ hmem.2
    refine ⟨r', a', ?_⟩
    rw [releaseAll, ho]
    simp only [hw, hrest]

end ReaderObject

namespace LoadedModule

variable {M : LoadedModule} {m : MessagePlan} {r r' : ReaderObject} {a a' : Allocator}

/-- A payload takes a list for each attribute that comes to hold one. -/
theorem held_scanPayload (offsets wires : Finset String) {tag : Tag} {offset : Nat}
    {res : Except CodecError Nat} (h : M.scanPayload m tag offset r a = (res, r', a')) :
    r'.held offsets wires + a.outstanding ≤ r.held offsets wires + a'.outstanding := by
  have hnote (s : Storage) {e : Option NameFault} (hn : r.note s offset tag.wire a = (e, r', a')) :
      r'.held offsets wires + a.outstanding ≤ r.held offsets wires + a'.outstanding := by
    have hle := r.held_note offsets wires s offset tag.wire a
    rwa [hn] at hle
  rcases scanPayload_cases h with ⟨e, -, -, rfl, rfl⟩ | ⟨-, -, rfl, rfl⟩ |
    ⟨f, -, ⟨e, hn, -⟩ | ⟨hn, -⟩⟩
  · exact Nat.le_refl _
  · exact Nat.le_refl _
  · exact hnote _ hn
  · exact hnote _ hn

/-- Whether the scan succeeds or fails, it takes a list for each attribute that
comes to hold one. -/
theorem held_scan (offsets wires : Finset String) (offset : Nat) {res : Except CodecError Unit}
    (h : M.scan m offset r a = (res, r', a')) :
    r'.held offsets wires + a.outstanding ≤ r.held offsets wires + a'.outstanding := by
  fun_induction M.scan m offset r a with
  | case1 =>
    cases h
    exact Nat.le_refl _
  | case2 offset r a hlt tag ht e r₁ a₁ hp =>
    cases h
    exact held_scanPayload offsets wires hp
  | case3 offset r a hlt tag ht next r₁ a₁ hp ih =>
    have hrest := ih h
    have hone := held_scanPayload offsets wires hp
    omega
  | case4 =>
    cases h
    exact Nat.le_refl _

/-- After any scan the lists of a message can be given back. -/
theorem close_of_scan (data : Bytes) {c c' : Allocator} {res : Except CodecError Unit}
    (h : M.scan m 0 { buffer := ⟨data⟩ } c = (res, r, c')) :
    ∃ r' c'', M.close m r c' = (none, r', c'') := by
  let offsets := (m.fields.map fun f => (M.storage m f).offsets).toFinset
  let wires := (m.fields.map fun f => (M.storage m f).wires).toFinset
  have hfresh : ({ buffer := ⟨data⟩ } : ReaderObject).held offsets wires = 0 := by
    simp [ReaderObject.held, heldIn]
  have hheld := held_scan offsets wires 0 h
  refine ReaderObject.releaseAll_of_held (show r.held offsets wires ≤ _ by omega) ?_
  intro s hs
  obtain ⟨f, hf, rfl⟩ := List.mem_map.mp hs
  exact ⟨List.mem_toFinset.mpr (List.mem_map.mpr ⟨f, hf, rfl⟩),
    List.mem_toFinset.mpr (List.mem_map.mpr ⟨f, hf, rfl⟩)⟩

end LoadedModule

/-! ### Steps -/

/-- A scan between two records. -/
structure ScanState where
  offset : Nat
  reader : ReaderObject
  allocator : Allocator

namespace ScanState

/-- A scan before the first record. -/
def start (data : Bytes) (a : Allocator) : ScanState := ⟨0, { buffer := ⟨data⟩ }, a⟩

/-- The scan at the same place of the first `k` bytes, with another allocator. -/
def cut (s : ScanState) (k : Nat) (c : Allocator) : ScanState := ⟨s.offset, s.reader.cut k, c⟩

end ScanState

namespace LoadedModule

/-- One turn of the scan: a tag is read at the offset of `s`, and the payload
behind it ends at the offset of `t`. -/
def ScanStep (M : LoadedModule) (m : MessagePlan) (s t : ScanState) : Prop :=
  s.offset < s.reader.buffer.size ∧ ∃ tag, s.reader.buffer.readTag s.offset = .ok tag ∧
    M.scanPayload m tag (s.offset + tag.size) s.reader s.allocator =
      (.ok t.offset, t.reader, t.allocator)

/-- Some turns of the scan. -/
def ScanSteps (M : LoadedModule) (m : MessagePlan) : ScanState → ScanState → Prop :=
  Relation.ReflTransGen (M.ScanStep m)

/-- The scan of a message passes over a record that ends at `k`. -/
def EndsRecord (M : LoadedModule) (m : MessagePlan) (data : Bytes) (a : Allocator) (k : Nat) :
    Prop :=
  ∃ t, Relation.TransGen (M.ScanStep m) (.start data a) t ∧ t.offset = k

variable {M : LoadedModule} {m : MessagePlan} {s t u : ScanState} {r r' : ReaderObject}
  {a a' : Allocator} {tag : Tag} {offset next k : Nat}

/-- One turn, as an equation of the scan. -/
theorem scan_eq (M : LoadedModule) (m : MessagePlan) (offset : Nat) (r : ReaderObject)
    (a : Allocator) : M.scan m offset r a =
      if offset < r.buffer.size then
        match r.buffer.readTag offset with
        | .error e => (.error (.decode e), r, a)
        | .ok tag =>
          match M.scanPayload m tag (offset + tag.size) r a with
          | (.error e, r', a') => (.error e, r', a')
          | (.ok next, r', a') => M.scan m next r' a'
      else (.ok (), r, a) := by
  rw [scan]
  split
  next =>
    split
    next h => rw [h]
    next tag h =>
      rw [h]
      simp only
      split
      next h => rw [h]
      next h => rw [h]
  next => rfl

/-- A payload that is passed over would be handled alike in another message and
with another allocator, as far as that message goes. -/
theorem scanPayload_elsewhere (h : M.scanPayload m tag offset r a = (.ok next, r', a'))
    (b : Buffer) (c : Allocator) : ∃ c',
      M.scanPayload m tag offset { r with buffer := b } c =
        ((b.skipPayload offset tag.wire).mapError .decode, { r' with buffer := b }, c') := by
  rcases scanPayload_cases h with ⟨e, -, he, -⟩ | ⟨hrec, -, rfl, -⟩ |
    ⟨f, hrec, ⟨e, -, he⟩ | ⟨hn, hres⟩⟩
  · cases he
  · refine ⟨c, ?_⟩
    rw [scanPayload, hrec]
  · cases he
  · obtain ⟨c', hc⟩ := r.note_elsewhere (M.storage m f) offset tag.wire a b c
    rw [hn] at hc
    refine ⟨c', ?_⟩
    -- a known field was passed over, so its layout is one that both ways accept
    have hskip := ok_of_mapError hres.symm
    rw [skipKnown_eq] at hskip
    split at hskip
    next hwire =>
      rw [scanPayload, hrec]
      simp only [hc, skipKnown_eq, if_pos hwire]
    next => cases hskip

theorem skipPayload_of_scanPayload (h : M.scanPayload m tag offset r a = (.ok next, r', a')) :
    r.buffer.skipPayload offset tag.wire = .ok next := by
  obtain ⟨c', hc⟩ := scanPayload_elsewhere h r.buffer a
  exact ok_of_mapError (congrArg Prod.fst (hc.symm.trans h))

theorem scanPayload_cut (h : M.scanPayload m tag offset r a = (.ok next, r', a')) (k : Nat)
    (c : Allocator) : ∃ c', M.scanPayload m tag offset (r.cut k) c =
      (((r.buffer.take k).skipPayload offset tag.wire).mapError .decode, r'.cut k, c') := by
  obtain ⟨c', hc⟩ := scanPayload_elsewhere h (r.buffer.take k) c
  refine ⟨c', hc.trans ?_⟩
  rw [ReaderObject.cut, buffer_of_scanPayload h]

/-- A step leads forward, within the message. -/
theorem ScanStep.bounds (h : M.ScanStep m s t) :
    s.offset < t.offset ∧ t.offset ≤ s.reader.buffer.size := by
  obtain ⟨-, tag, ht, hp⟩ := h
  have hpos := Buffer.readTag_size_pos ht
  have hle := le_of_scanPayload hp
  obtain ⟨p, -, hat, hnext⟩ := Buffer.hasAt_of_skipPayload (skipPayload_of_scanPayload hp)
  exact ⟨by omega, hnext ▸ hat.le⟩

theorem ScanStep.buffer_eq (h : M.ScanStep m s t) : t.reader.buffer = s.reader.buffer := by
  obtain ⟨-, tag, -, hp⟩ := h
  exact buffer_of_scanPayload hp

/-- A step is a turn that the scan itself makes. -/
theorem ScanStep.scan_eq (h : M.ScanStep m s t) : M.scan m s.offset s.reader s.allocator =
    M.scan m t.offset t.reader t.allocator := by
  obtain ⟨hlt, tag, ht, hp⟩ := h
  rw [LoadedModule.scan_eq, if_pos hlt, ht]
  simp only [hp]

/-- **A step before the cut.** It can be taken in the first `k` bytes too. -/
theorem ScanStep.cut (h : M.ScanStep m s t) (hk : t.offset ≤ k)
    (hsize : k ≤ s.reader.buffer.size) (c : Allocator) :
    ∃ c', M.ScanStep m (s.cut k c) (t.cut k c') := by
  have hbounds := h.bounds
  obtain ⟨-, tag, ht, hp⟩ := h
  have hle := le_of_scanPayload hp
  have hskip : (s.reader.buffer.take k).skipPayload (s.offset + tag.size) tag.wire =
      .ok t.offset :=
    (Buffer.skipPayload_take_iff hsize).mpr ⟨skipPayload_of_scanPayload hp, hk⟩
  obtain ⟨c', hc⟩ := scanPayload_cut hp k c
  rw [hskip] at hc
  refine ⟨c', ?_, tag, Buffer.readTag_take ht (show s.offset + tag.size ≤ k by omega), hc⟩
  show s.offset < (s.reader.buffer.take k).size
  rw [Buffer.size_take hsize]
  omega

/-- **A step over the cut.** The scan of the first `k` bytes stops where the step
starts from, with an error of the message. -/
theorem scan_of_cut (h : M.ScanStep m s t) (hlt : s.offset < k) (hk : k < t.offset)
    (c : Allocator) : ∃ e r' c', M.scan m s.offset (s.reader.cut k) c =
      (.error (.decode e), r', c') ∧ 0 ≤ e.offset ∧ e.offset ≤ k := by
  have hsize : k ≤ s.reader.buffer.size := by
    have := h.bounds
    omega
  have hcut : (s.reader.buffer.take k).size = k := Buffer.size_take hsize
  obtain ⟨-, tag, ht, hp⟩ := h
  rw [LoadedModule.scan_eq, if_pos (by rw [ReaderObject.buffer_cut]; omega),
    ReaderObject.buffer_cut]
  cases hread : (s.reader.buffer.take k).readTag s.offset with
  | error e =>
    have := Buffer.offset_of_readTag_error hread
    exact ⟨e, _, _, rfl, by omega, by omega⟩
  | ok tag' =>
    obtain rfl : tag = tag' := Except.ok.inj (ht.symm.trans (Buffer.readTag_of_take hread))
    obtain ⟨raw, hat, -, hl, -⟩ := Buffer.hasAt_of_readTag hread
    have htag := hat.le
    obtain ⟨c', hc⟩ := scanPayload_cut hp k c
    simp only [hc]
    cases hskip : (s.reader.buffer.take k).skipPayload (s.offset + tag.size) tag.wire with
    | error e =>
      have := Buffer.offset_of_skipPayload_error (by omega) hskip
      exact ⟨e, _, _, rfl, by omega, by omega⟩
    | ok next =>
      -- the payload would end before the cut, and it ends behind it
      obtain ⟨hnext, hle⟩ := (Buffer.skipPayload_take_iff hsize).mp hskip
      rw [skipPayload_of_scanPayload hp, Except.ok.injEq] at hnext
      omega

/-! ### Runs -/

theorem ScanSteps.buffer_eq (h : M.ScanSteps m s t) : t.reader.buffer = s.reader.buffer := by
  induction h with
  | refl => rfl
  | tail _ hstep ih => rw [hstep.buffer_eq, ih]

theorem ScanSteps.scan_eq (h : M.ScanSteps m s t) : M.scan m s.offset s.reader s.allocator =
    M.scan m t.offset t.reader t.allocator := by
  induction h with
  | refl => rfl
  | tail _ hstep ih => rw [ih, hstep.scan_eq]

/-- Steps before the cut can be taken in the first `k` bytes. -/
theorem ScanSteps.cut (h : M.ScanSteps m s t) (hk : t.offset ≤ k)
    (hsize : k ≤ s.reader.buffer.size) (c : Allocator) :
    ∃ c', M.ScanSteps m (s.cut k c) (t.cut k c') := by
  induction h with
  | refl => exact ⟨c, .refl⟩
  | @tail u t hsteps hstep ih =>
    have hbounds := hstep.bounds
    obtain ⟨c', hc'⟩ := ih (by omega)
    have hbuf := ScanSteps.buffer_eq hsteps
    obtain ⟨c'', hc''⟩ := hstep.cut hk (hbuf ▸ hsize) c'
    exact ⟨c'', hc'.tail hc''⟩

/-- A scan that succeeds is a run to the end of the message. -/
theorem exists_steps_of_scan (hle : offset ≤ r.buffer.size)
    (h : M.scan m offset r a = (.ok (), r', a')) :
    ∃ t, M.ScanSteps m ⟨offset, r, a⟩ t ∧ t.offset = r.buffer.size := by
  fun_induction M.scan m offset r a with
  | case1 => cases h
  | case2 => cases h
  | case3 offset r a hlt tag ht next r₁ a₁ hp ih =>
    have hstep : M.ScanStep m ⟨offset, r, a⟩ ⟨next, r₁, a₁⟩ := ⟨hlt, tag, ht, hp⟩
    have hbuf := hstep.buffer_eq
    simp only at hbuf
    obtain ⟨t, hsteps, ht⟩ := ih (hbuf ▸ hstep.bounds.2) h
    exact ⟨t, .head hstep hsteps, hbuf ▸ ht⟩
  | case4 offset r a hge => exact ⟨_, .refl, by simp only; omega⟩

/-- A run passes any place between its ends: it stops there, or a step of it
leads over the place. -/
theorem ScanSteps.exists_at (h : M.ScanSteps m s t) (hs : s.offset ≤ k) (ht : k ≤ t.offset) :
    (∃ u, M.ScanSteps m s u ∧ u.offset = k) ∨
      ∃ u v, M.ScanSteps m s u ∧ M.ScanStep m u v ∧ u.offset < k ∧ k < v.offset := by
  induction h with
  | refl => exact .inl ⟨s, .refl, Nat.le_antisymm hs ht⟩
  | @tail u v hsteps hstep ih =>
    rcases Nat.lt_trichotomy k v.offset with hlt | heq | hgt
    · rcases Nat.lt_or_ge u.offset k with hu | hu
      · exact .inr ⟨u, v, hsteps, hstep, hu, hlt⟩
      · exact ih hu
    · exact .inl ⟨v, hsteps.tail hstep, heq.symm⟩
    · omega

/-- The places that the scan reaches are its start and the ends of records. -/
theorem exists_steps_iff {data : Bytes} :
    (∃ t, M.ScanSteps m (.start data a) t ∧ t.offset = k) ↔
      k = 0 ∨ M.EndsRecord m data a k := by
  constructor
  · rintro ⟨t, hsteps, rfl⟩
    rcases Relation.reflTransGen_iff_eq_or_transGen.mp hsteps with rfl | hsteps
    · exact .inl rfl
    · exact .inr ⟨t, hsteps, rfl⟩
  · rintro (rfl | ⟨t, hsteps, rfl⟩)
    · exact ⟨_, .refl, rfl⟩
    · exact ⟨t, hsteps.to_reflTransGen, rfl⟩

/-! ### Decoding -/

variable {data : Bytes}

/-- A scan that fails with an error of the message is what `decode` fails with. -/
theorem decode_of_scan_error {e : DecodeError} {c c' : Allocator} (hfree : M.hidesDecode m = false)
    (hs : M.scan m 0 { buffer := ⟨data⟩ } c = (.error (.decode e), r, c')) :
    ∃ c'', M.decode m data c = (.error (.decode e), c'') := by
  obtain ⟨r', c'', hclose⟩ := close_of_scan data hs
  refine ⟨c'', ?_⟩
  rw [decode, hfree, if_neg Bool.false_ne_true, hs]
  simp only [hclose]

/-- A cut between two records leaves a message. -/
theorem decode_of_reached (hfree : M.hidesDecode m = false) (hk : k ≤ data.length)
    (ht : M.ScanSteps m (.start data a) t) (hoff : t.offset = k) (c : Allocator) :
    ∃ r c', M.decode m (data.take k) c = (.ok r, c') := by
  obtain ⟨c', hsteps⟩ := ht.cut hoff.le hk c
  have hend : M.scan m t.offset (t.reader.cut k) c' = (.ok (), t.reader.cut k, c') := by
    have hsize : (t.reader.buffer.take k).size = k :=
      Buffer.size_take (ht.buffer_eq ▸ hk)
    rw [LoadedModule.scan_eq, if_neg (by rw [ReaderObject.buffer_cut]; omega)]
  have hscan : M.scan m 0 { buffer := ⟨data.take k⟩ } c = (.ok (), t.reader.cut k, c') :=
    hsteps.scan_eq.trans hend
  refine ⟨t.reader.cut k, c', ?_⟩
  rw [decode, hfree, if_neg Bool.false_ne_true, hscan]

/-- A cut inside a record is noticed. -/
theorem decode_of_inside (hfree : M.hidesDecode m = false) (ht : M.ScanSteps m (.start data a) t)
    (hstep : M.ScanStep m t u) (hlt : t.offset < k) (hk : k < u.offset) (c : Allocator) :
    ∃ e c', M.decode m (data.take k) c = (.error (.decode e), c') ∧
      0 ≤ e.offset ∧ e.offset ≤ k := by
  have hsize : k ≤ data.length := by
    have hend := hstep.bounds.2
    rw [ht.buffer_eq] at hend
    have hend : u.offset ≤ data.length := hend
    omega
  obtain ⟨c', hsteps⟩ := ht.cut hlt.le hsize c
  obtain ⟨e, r', c'', hstop, hoff⟩ := scan_of_cut hstep hlt hk c'
  have hscan : M.scan m 0 { buffer := ⟨data.take k⟩ } c = (.error (.decode e), r', c'') :=
    hsteps.scan_eq.trans hstop
  obtain ⟨c₁, hd⟩ := decode_of_scan_error hfree hscan
  exact ⟨e, c₁, hd, hoff⟩

/-- **A message can be cut only between records.** The first `k` bytes of a
message that is decoded are decoded if and only if `k` is 0 or the end of a
record that the scan of the message passes over. Any other cut is refused as
malformed, with an offset inside what is left. -/
theorem decode_take_iff (hd : M.decode m data a = (.ok r, a')) (k : Nat) (hk : k ≤ data.length)
    (c : Allocator) :
    ((∃ r' c', M.decode m (data.take k) c = (.ok r', c')) ↔
      k = 0 ∨ M.EndsRecord m data a k) ∧
    (¬ (k = 0 ∨ M.EndsRecord m data a k) →
      ∃ e c', M.decode m (data.take k) c = (.error (.decode e), c') ∧
        0 ≤ e.offset ∧ e.offset ≤ k) := by
  obtain ⟨hfree, hscan⟩ := scan_of_decode hd
  obtain ⟨t, hsteps, hend⟩ := exists_steps_of_scan (Nat.zero_le _) hscan
  rw [← exists_steps_iff]
  have hreached : (∃ u, M.ScanSteps m (.start data a) u ∧ u.offset = k) →
      ∃ r' c', M.decode m (data.take k) c = (.ok r', c') := by
    rintro ⟨u, hu, hoff⟩
    exact decode_of_reached hfree hk hu hoff c
  rcases hsteps.exists_at (Nat.zero_le k) (hend ▸ hk) with hat | ⟨u, v, hu, hstep, hlt, hgt⟩
  · exact ⟨⟨fun _ => hat, hreached⟩, fun hno => absurd hat hno⟩
  · obtain ⟨e, c', herr, hoff⟩ := decode_of_inside hfree hu hstep hlt hgt c
    refine ⟨⟨?_, hreached⟩, fun _ => ⟨e, c', herr, hoff⟩⟩
    rintro ⟨r', c'', hok⟩
    rw [herr] at hok
    cases hok

/-- Fields that share their notes; a block of two values, an unknown field, and a
value: the message can be cut after the block, and not inside the unknown
field. -/
theorem decode_take_iff_block :
    ∃ (data : Bytes) (r : ReaderObject) (a' : Allocator),
      data = [0x0A, 2, 2, 0, 0x1D, 1, 2, 3, 4, 0x10, 6] ∧ 7 ≤ data.length ∧
      sharedNotes.decode sharedMessage data {} = (.ok r, a') ∧
      sharedNotes.EndsRecord sharedMessage data {} 4 ∧
      ¬ sharedNotes.EndsRecord sharedMessage data {} 7 ∧
      ∃ e c', sharedNotes.decode sharedMessage (data.take 7) {} = (.error (.decode e), c') ∧
        0 ≤ e.offset ∧ e.offset ≤ 7 := by
  have hwhole : sharedNotes.answers sharedMessage [0x0A, 2, 2, 0, 0x1D, 1, 2, 3, 4, 0x10, 6] =
      some (sharedMessage.fields.map fun _ => .ok [.number 2, .member "LOW", .number 6]) := by
    decide +kernel
  have hblock : sharedNotes.answers sharedMessage [0x0A, 2, 2, 0] =
      some (sharedMessage.fields.map fun _ => .ok [.number 2, .member "LOW"]) := by
    decide +kernel
  have hinside : sharedNotes.answers sharedMessage [0x0A, 2, 2, 0, 0x1D, 1, 2] = none := by
    decide +kernel
  obtain ⟨r, a', hd, -⟩ := exists_of_answers hwhole
  obtain ⟨r₁, a₁, hd₁, -⟩ := exists_of_answers hblock
  have hends := (decode_take_iff hd 4 (by decide) {}).1.mp ⟨r₁, a₁, hd₁⟩
  have hno : ¬ (7 = 0 ∨ sharedNotes.EndsRecord sharedMessage
      [0x0A, 2, 2, 0, 0x1D, 1, 2, 3, 4, 0x10, 6] {} 7) := by
    intro h
    obtain ⟨r', c', hr⟩ := (decode_take_iff hd 7 (by decide) {}).1.mpr h
    have hr : sharedNotes.decode sharedMessage [0x0A, 2, 2, 0, 0x1D, 1, 2] {} = (.ok r', c') := hr
    rw [answers, hr] at hinside
    cases hinside
  exact ⟨_, r, a', rfl, by decide, hd, hends.resolve_left (by decide), fun h => hno (.inr h),
    (decode_take_iff hd 7 (by decide) {}).2 hno⟩

end LoadedModule
end WireSchema
