/-
# Replaying the notes

An accessor goes back to the noted offsets and reads from the whole message.
That is the same as reading each payload of the field on its own, when the
message comes in: a varint holds one value, and a block that is a sequence of
complete varints holds their values (`Body.Holds`). A value that starts in a
block and ends outside of it is read from the bytes after the block, but the
check at the end of the block refuses it (`items_of_readPacked`), so what
comes after a payload never shows in a result.

The offsets of the notes are still right when they are replayed, since at
each of them the payload of its record stands (`hasAt_of_mem_located`), and a
field has noted exactly the records it collects (`occurrences_of_decode`).

An accessor of a message can do this as long as its names hold
(`LoadedModule.get_ok_iff`). Where two fields share their notes, it returns the
values of both (`LoadedModule.get_of_shared`).

Key definitions: `Body.Holds`, `Packed`, `payloads`, `collected`,
`collectedPlaces`.
Key theorems: `readPacked_of_items`, `items_of_readPacked`,
`readOccurrences_ok_iff`, `occurrences_of_decode`, `LoadedModule.get_ok_iff`,
`LoadedModule.get_eq_eager`.
-/

import WireSchema.Proofs.Scan
import Mathlib.Data.List.Forall2
import Mathlib.Data.List.Nodup

namespace WireSchema

open Varint

/-- The values that a payload holds when it is read on its own: one for a
varint, and for a block one for each of the varints that make it up. -/
inductive Body.Holds : Body → List Int → Prop
  | value (v : Spelled) : Holds (.varint v) [v.int32]
  | block {length content : Bytes} {hl : Denotes length content.length} (items : List Spelled)
      (hc : content = items.flatMap Spelled.raw) :
      Holds (.bytes length content hl) (items.map Spelled.int32)

variable {b : Buffer} {start offset stop : Nat} {values : List Int}

/-! ### One payload -/

/-- The values of varints that stand one after the other are read. -/
theorem readPacked_of_items (start : Nat) : ∀ {items : List Spelled} {offset : Nat},
    b.HasAt offset (items.flatMap Spelled.raw) →
    readPacked b start offset (offset + (items.flatMap Spelled.raw).length) =
      .ok (items.map Spelled.int32)
  | [], offset, _ => by
    rw [readPacked, if_neg (by simp), if_pos (by simp)]
    rfl
  | v :: items, offset, h => by
    rw [List.flatMap_cons] at h ⊢
    have hpos := v.denotes.length_pos
    have hv := Buffer.readVarint_of_hasAt h.left v.denotes
    have hrest := readPacked_of_items start h.right
    rw [Nat.add_assoc, ← List.length_append] at hrest
    rw [readPacked, if_pos (by rw [List.length_append]; omega)]
    split
    next he => rw [hv] at he; cases he
    next r he =>
      rw [hv] at he
      cases he
      simp only [hrest, List.map_cons, toInt32_eq_bmod]
      rfl

/-- Values are never read past the end of their block. -/
theorem le_of_readPacked (h : readPacked b start offset stop = .ok values) : offset ≤ stop := by
  rw [readPacked] at h
  split at h
  next hlt => exact Nat.le_of_lt hlt
  next =>
    split at h
    next he => exact Nat.le_of_eq he
    next => cases h

/-- Only complete varints are read from a block, although they are read from
the whole message. -/
theorem items_of_readPacked {content : Bytes} (h : readPacked b start offset stop = .ok values)
    (hat : b.HasAt offset content) (hstop : stop = offset + content.length) :
    ∃ items : List Spelled, content = items.flatMap Spelled.raw ∧
      values = items.map Spelled.int32 := by
  fun_induction readPacked b start offset stop generalizing content values with
  | case1 => cases h
  | case2 offset hlt r hr more hmore ih =>
    cases h
    obtain ⟨raw, hraw, hd, hl⟩ := Buffer.hasAt_of_readVarint hr
    -- the rest was read up to `stop`, so this varint ends inside the block
    have hin := le_of_readPacked hmore
    obtain ⟨rest, rfl⟩ : raw <+: content :=
      List.prefix_of_prefix_length_le hraw.2 hat.2 (by omega)
    have hend : stop = offset + r.size + rest.length := by
      rw [hstop, List.length_append, hl, Nat.add_assoc]
    obtain ⟨items, rfl, rfl⟩ := ih hmore (hl ▸ hat.right) hend
    refine ⟨⟨raw, r.value, hd⟩ :: items, rfl, ?_⟩
    rw [toInt32_eq_bmod]
    rfl
  | case3 => cases h
  | case4 =>
    cases h
    refine ⟨[], ?_, rfl⟩
    rw [List.flatMap_nil, ← List.length_eq_zero_iff]
    omega
  | case5 => cases h

/-- An occurrence is read if and only if its payload, on its own, holds the
values. -/
theorem readOccurrence_ok_iff {p : Body} (h : b.HasAt start p.raw)
    (hw : p.wire = .varint ∨ p.wire = .bytes) :
    readOccurrence b start p.wire = .ok values ↔ p.Holds values := by
  cases p with
  | varint v =>
    have hr : readOccurrence b start .varint = .ok [v.int32] := by
      simp only [readOccurrence, Buffer.readInt32, Buffer.readVarint_of_hasAt h v.denotes,
        toInt32_eq_bmod]
      rfl
    rw [Body.wire, hr]
    constructor
    · intro hp
      cases hp
      exact .value v
    · intro hp
      cases hp
      rfl
  | bytes l c hl =>
    have hr : readOccurrence b start .bytes =
        readPacked b start (start + l.length) (start + l.length + c.length) := by
      simp only [readOccurrence, readBlock, Buffer.readVarint_of_hasAt h.left hl,
        Buffer.advance_of_hasAt h.right]
    rw [Body.wire, hr]
    constructor
    · intro hp
      obtain ⟨items, hc, rfl⟩ := items_of_readPacked hp h.right rfl
      exact .block items hc
    · intro hp
      cases hp with
      | block items hc =>
        subst hc
        exact readPacked_of_items start h.right
  | fixed64 => simp [Body.wire] at hw
  | fixed32 => simp [Body.wire] at hw

/-! ### The payloads of a field -/

/-- Occurrences are read if and only if each payload, on its own, holds its
part of the values. -/
theorem readOccurrences_ok_iff : ∀ {places : List (Nat × Record)} {values : List Int},
    (∀ p ∈ places, b.HasAt p.1 p.2.body.raw ∧
      (p.2.body.wire = .varint ∨ p.2.body.wire = .bytes)) →
    (readOccurrences b (places.map fun p => (p.1, p.2.body.wire)) = .ok values ↔
      ∃ parts, List.Forall₂ Body.Holds (places.map (·.2.body)) parts ∧ values = parts.flatten)
  | [], values, _ => by
    simp [readOccurrences, eq_comm]
  | p :: places, values, h => by
    obtain ⟨hat, hw⟩ := h p List.mem_cons_self
    have hplaces : ∀ q ∈ places, b.HasAt q.1 q.2.body.raw ∧
        (q.2.body.wire = .varint ∨ q.2.body.wire = .bytes) :=
      fun q hq => h q (List.mem_cons_of_mem p hq)
    rw [List.map_cons, List.map_cons, readOccurrences]
    constructor
    · intro hr
      split at hr
      next => cases hr
      next part hpart =>
        split at hr
        next more hmore =>
          cases hr
          obtain ⟨parts, hparts, rfl⟩ := (readOccurrences_ok_iff hplaces).mp hmore
          exact ⟨part :: parts, .cons ((readOccurrence_ok_iff hat hw).mp hpart) hparts, rfl⟩
        next => cases hr
    · rintro ⟨parts, hparts, rfl⟩
      cases hparts with
      | cons hpart hparts =>
        have hr := (readOccurrence_ok_iff hat hw).mpr hpart
        have hmore := (readOccurrences_ok_iff hplaces).mpr ⟨_, hparts, rfl⟩
        simp only [hr, hmore, List.flatten_cons]

/-- At every place of a record its payload stands. -/
theorem hasAt_of_mem_located : ∀ {records : List Record} {offset : Nat},
    offset ≤ b.size → b.data.drop offset = records.flatMap Record.raw →
    ∀ p ∈ located offset records, b.HasAt p.1 p.2.body.raw
  | [], _, _, _, p, hp => by cases hp
  | r :: records, offset, hle, hd, p, hp => by
    rw [List.flatMap_cons] at hd
    have hr := Buffer.hasAt_of_drop hle hd
    rcases List.mem_cons.mp hp with rfl | hp
    · exact hr.right
    · refine hasAt_of_mem_located hr.le ?_ p hp
      rw [← List.drop_drop, hd, List.drop_left]

theorem map_snd_located : ∀ (records : List Record) (offset : Nat),
    (located offset records).map (·.2) = records
  | [], _ => rfl
  | r :: records, offset => by rw [located, List.map_cons, map_snd_located records]

/-- Noting a record adds it to the field that collects it, and leaves the
other fields as they are. -/
theorem noteRecord_getElem? {numbers : List Int} {base i : Nat} {slots : List Slot}
    {a : Allocator} {s : Slot} (hn : Noted numbers base slots a) (hi : slots[i]? = some s)
    (p : Nat × Record) :
    ∃ s', (noteRecord (slots, a) p).1[i]? = some s' ∧
      s'.occurrences = s.occurrences ++
        if Collects numbers i p.2.number then [(p.1, p.2.body.wire)] else [] := by
  unfold noteRecord
  cases ho : noteOccurrence p.2.number p.1 p.2.body.wire slots a with
  | none =>
    have hno := noteOccurrence_eq_none_iff.mp ho
    rw [hn.numbers_eq] at hno
    refine ⟨s, hi, ?_⟩
    rw [if_neg fun hc => hno hc.mem, List.append_nil]
  | some state => exact hn.numbers_eq ▸ noteOccurrence_getElem? hn.inStep ho hi

/-- Noting records adds to a field those that it collects, in order. -/
theorem foldl_noteRecord_getElem? {numbers : List Int} {base i : Nat} :
    ∀ {places : List (Nat × Record)} {slots : List Slot} {a : Allocator} {s : Slot},
    Noted numbers base slots a → slots[i]? = some s →
    ∃ s', (places.foldl noteRecord (slots, a)).1[i]? = some s' ∧
      s'.occurrences = s.occurrences ++
        (places.filter fun p => Collects numbers i p.2.number).map fun p => (p.1, p.2.body.wire)
  | [], slots, a, s, _, hi => ⟨s, hi, by simp⟩
  | p :: places, slots, a, s, hn, hi => by
    obtain ⟨s₁, hi₁, hs₁⟩ := noteRecord_getElem? hn hi p
    obtain ⟨s', hi', hs'⟩ := foldl_noteRecord_getElem? (hn.noteRecord p) hi₁
    refine ⟨s', hi', ?_⟩
    rw [hs', hs₁, List.append_assoc, List.filter_cons]
    by_cases hc : Collects numbers i p.2.number <;> simp [hc]

/-! ### What a field collects -/

/-- The payloads that field `i` collects, in order. -/
def collected (numbers : List Int) (i : Nat) (records : List Record) : List Body :=
  (records.filter fun record => Collects numbers i record.number).map (·.body)

/-- The records that field `i` collects, with the places of their payloads. -/
def collectedPlaces (numbers : List Int) (i : Nat) (records : List Record) :
    List (Nat × Record) :=
  (located 0 records).filter fun p => Collects numbers i p.2.number

variable {numbers : List Int} {data : Bytes} {records : List Record} {r : Reader}
  {a a' : Allocator} {i : Nat}

theorem map_body_collectedPlaces (numbers : List Int) (i : Nat) (records : List Record) :
    (collectedPlaces numbers i records).map (·.2.body) = collected numbers i records := by
  unfold collectedPlaces collected
  conv_rhs => rw [← map_snd_located records 0, List.filter_map, List.map_map]
  rfl

theorem Reader.get_fst (r : Reader) (s : Slot) (members : List (String × Int)) (a : Allocator) :
    (r.get s members a).1 = match readOccurrences r.buffer s.occurrences with
      | .ok values => .ok (values.map (EnumValue.ofInt members))
      | .error e => .error (.decode e) := by
  unfold get
  split <;> simp_all

/-- A field collects only payloads that it can hold. -/
theorem wire_of_mem_collected (h : Accepted numbers data records) {p : Body}
    (hp : p ∈ collected numbers i records) : p.wire = .varint ∨ p.wire = .bytes := by
  obtain ⟨record, hrecord, rfl⟩ := List.mem_map.mp hp
  obtain ⟨hmem, hc⟩ := List.mem_filter.mp hrecord
  exact h.2 record hmem (of_decide_eq_true hc).mem

/-- A field of a decoded message has noted the places of the payloads that it
collects. -/
theorem occurrences_of_decode (h : Accepted numbers data records)
    (hd : Reader.decode numbers data a = (.ok r, a')) (hi : i < numbers.length) :
    ∃ s, r.slots[i]? = some s ∧ s.occurrences =
      (collectedPlaces numbers i records).map fun p => (p.1, p.2.body.wire) := by
  rw [decode_of_accepted a h] at hd
  cases hd
  have hfresh : (freshSlots numbers)[i]? = some { number := numbers[i] } := by
    simp [freshSlots, hi]
  exact foldl_noteRecord_getElem? (Noted.fresh numbers a) hfresh

/-- At the places that a field has noted, its payloads stand. -/
theorem hasAt_of_mem_collectedPlaces (h : Accepted numbers data records)
    (hd : Reader.decode numbers data a = (.ok r, a')) {p : Nat × Record}
    (hp : p ∈ collectedPlaces numbers i records) : r.buffer.HasAt p.1 p.2.body.raw := by
  rw [decode_of_accepted a h] at hd
  cases hd
  exact hasAt_of_mem_located (Nat.zero_le _) h.1 p (List.mem_filter.mp hp).1

/-! ### Fields with distinct numbers -/

namespace LoadedModule

variable {M : LoadedModule} {m : MessagePlan} {f : FieldPlan} {d : MessageDecl}
  {r : ReaderObject}

/-- A field of a decoded message has noted the places of the payloads that it
collects. -/
theorem occurrences_slot (h : M.ScanNames m) (hm : m ∈ M.plan.messages)
    (hacc : Accepted (m.fields.map (·.number)) data records)
    (hd : M.decode m data a = (.ok r, a')) (hi : m.fields[i]? = some f) :
    (M.slot m r f).occurrences =
      (collectedPlaces (m.fields.map (·.number)) i records).map fun p => (p.1, p.2.body.wire) := by
  have hlt : i < (m.fields.map (·.number)).length := by
    rw [List.length_map]
    exact (List.getElem?_eq_some_iff.mp hi).1
  obtain ⟨s, hs, hocc⟩ := occurrences_of_decode hacc (numbered_of_decode h hm hd) hlt
  have hslot : (M.numbered m r).slots[i]? = some (M.slot m r f) := by
    show (m.fields.map (M.slot m r))[i]? = _
    rw [List.getElem?_map, hi, Option.map_some]
  rw [hs, Option.some.injEq] at hslot
  exact hslot ▸ hocc

/-- What an accessor answers depends on the message and the noted places. -/
theorem get_fst (h : M.AccessorNames m) (hm : m ∈ M.plan.messages) (hf : f ∈ m.fields)
    (hr : M.InStep m r) (c : Allocator) :
    (M.get m f r c).1 = match readOccurrences r.buffer (M.slot m r f).occurrences with
      | .ok values => .ok (values.map (EnumValue.ofInt (M.declaredMembers f)))
      | .error e => .error (.decode e) := by
  rw [get_of_names h hm hf hr, Reader.get_fst]
  rfl

/-- An accessor succeeds with the values that the payloads of its field hold,
and with nothing else. -/
theorem get_ok_iff (h : M.ReaderNames m) (hm : m ∈ M.plan.messages)
    (hacc : Accepted (m.fields.map (·.number)) data records)
    (hd : M.decode m data a = (.ok r, a')) (hi : m.fields[i]? = some f) {c : Allocator}
    {out : List EnumValue} :
    (M.get m f r c).1 = .ok out ↔
      ∃ parts, List.Forall₂ Body.Holds (collected (m.fields.map (·.number)) i records) parts ∧
        out = parts.flatten.map (EnumValue.ofInt (M.declaredMembers f)) := by
  have hbodies := map_body_collectedPlaces (m.fields.map (·.number)) i records
  have hplaces : ∀ p ∈ collectedPlaces (m.fields.map (·.number)) i records,
      r.buffer.HasAt p.1 p.2.body.raw ∧
        (p.2.body.wire = .varint ∨ p.2.body.wire = .bytes) := by
    intro p hp
    refine ⟨hasAt_of_mem_collectedPlaces hacc (numbered_of_decode h.scan hm hd) hp,
      wire_of_mem_collected hacc (i := i) ?_⟩
    rw [← hbodies]
    exact List.mem_map_of_mem hp
  rw [get_fst h.accessor hm (List.mem_of_getElem? hi) (inStep_of_decode h.scan hm hd),
    occurrences_slot h.scan hm hacc hd hi, ← hbodies]
  constructor
  · intro ho
    split at ho
    next values hv =>
      cases ho
      obtain ⟨parts, hparts, rfl⟩ := (readOccurrences_ok_iff hplaces).mp hv
      exact ⟨parts, hparts, rfl⟩
    next => cases ho
  · rintro ⟨parts, hparts, rfl⟩
    rw [(readOccurrences_ok_iff hplaces).mpr ⟨parts, hparts, rfl⟩]

end LoadedModule
end WireSchema
