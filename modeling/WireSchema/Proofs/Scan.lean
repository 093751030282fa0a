/-
# What the scan accepts

The scan takes a message record by record. One step of it passes over a
record exactly if one stands at the offset and the reader expects its layout
(`scan_step_of_record`, `record_of_scan_step`). So the scan succeeds on the
concatenations of such records and on nothing else, and its notes are those
of the records in order (`scan_of_records`, `records_of_scan`). A failure is
reported inside the message (`offset_of_scan_error`), and what was noted
until then is given back (`decode_cases`).

All this is about numbers. A message of a module is decoded by its numbers as
long as the names of its scan hold, so it is decoded if and only if it is of
this grammar (`LoadedModule.decode_ok_iff_accepted`). Where a private name leads
to the constant of another field, it is not (`LoadedModule.decode_of_mistaken`).

Key definitions: `Expects`, `Accepted`, `located`, `noteRecord`.
Key theorems: `scan_of_records`, `records_of_scan`, `scan_noted`,
`decode_of_accepted`, `decode_cases`, `LoadedModule.decode_ok_iff_accepted`.
-/

import WireSchema.Proofs.Record
import WireSchema.Proofs.Bridge

namespace WireSchema

/-- What a reader with fields of the given numbers can pass over: in a field
it knows, a value or a block of values; in any other field, anything. -/
def Expects (numbers : List Int) (number : Nat) (wire : WireType) : Prop :=
  (number : Int) ∈ numbers → wire = .varint ∨ wire = .bytes

instance (numbers : List Int) (number : Nat) (wire : WireType) :
    Decidable (Expects numbers number wire) :=
  inferInstanceAs (Decidable (_ → _))

/-- Bytes that are the records one after the other, each of which a reader
with fields of the given numbers expects. -/
def Accepted (numbers : List Int) (bytes : Bytes) (records : List Record) : Prop :=
  bytes = records.flatMap Record.raw ∧ ∀ r ∈ records, Expects numbers r.number r.body.wire

/-- Records with the offsets of their payloads; the first one starts at
`offset`. -/
def located (offset : Nat) : List Record → List (Nat × Record)
  | [] => []
  | r :: rest => (offset + r.tag.length, r) :: located (offset + r.raw.length) rest

/-- Slots and allocator after a record, which changes nothing if no slot has
its number. -/
def noteRecord (state : List Slot × Allocator) (p : Nat × Record) : List Slot × Allocator :=
  (noteOccurrence p.2.number p.1 p.2.body.wire state.1 state.2).getD state

variable {b : Buffer} {offset next base : Nat} {tag : Tag} {numbers : List Int}
  {slots slots' : List Slot} {a a' : Allocator}

/-! ### One record -/

theorem skipKnown_eq (b : Buffer) (tag : Tag) (offset : Nat) : skipKnown b tag offset =
    if tag.wire = .varint ∨ tag.wire = .bytes then b.skipPayload offset tag.wire
    else .error ⟨.unexpectedWireType tag.number tag.wire, offset⟩ := by
  unfold skipKnown
  cases tag.wire <;> rfl

/-- A payload is passed over if it is expected, and noted in any case. -/
theorem scanPayload_eq (b : Buffer) (tag : Tag) (offset : Nat) (slots : List Slot)
    (a : Allocator) : scanPayload b tag offset slots a =
      (if Expects (slots.map (·.number)) tag.number tag.wire then b.skipPayload offset tag.wire
        else .error ⟨.unexpectedWireType tag.number tag.wire, offset⟩,
        (noteOccurrence tag.number offset tag.wire slots a).getD (slots, a)) := by
  unfold scanPayload
  cases hn : noteOccurrence tag.number offset tag.wire slots a with
  | none =>
    have he : Expects (slots.map (·.number)) tag.number tag.wire :=
      fun hm => absurd hm (noteOccurrence_eq_none_iff.mp hn)
    rw [if_pos he]
    rfl
  | some p =>
    have hm : (tag.number : Int) ∈ slots.map (·.number) := by
      by_contra hno
      rw [noteOccurrence_eq_none_iff.mpr hno] at hn
      cases hn
    simp only [skipKnown_eq, Expects, hm, forall_const, Option.getD_some]

theorem Noted.scanPayload {res : Except DecodeError Nat} (hn : Noted numbers base slots a)
    (hp : scanPayload b tag offset slots a = (res, slots', a')) :
    Noted numbers base slots' a' := by
  rw [scanPayload_eq, Prod.mk.injEq] at hp
  have := hn.note tag.number offset tag.wire
  rwa [hp.2] at this

theorem Noted.noteRecord (hn : Noted numbers base slots a) (p : Nat × Record) :
    Noted numbers base (noteRecord (slots, a) p).1 (noteRecord (slots, a) p).2 :=
  hn.note p.2.number p.1 p.2.body.wire

/-- A record that stands at the offset is read tag first, and its payload is
passed over and noted. -/
theorem read_of_record {r : Record} (hr : b.HasAt offset r.raw)
    (he : Expects (slots.map (·.number)) r.number r.body.wire) :
    b.readTag offset = .ok ⟨r.number, r.body.wire, r.tag.length⟩ ∧
      scanPayload b ⟨r.number, r.body.wire, r.tag.length⟩ (offset + r.tag.length) slots a =
        (.ok (offset + r.raw.length), noteRecord (slots, a) (offset + r.tag.length, r)) := by
  refine ⟨Buffer.readTag_of_hasAt hr.left, ?_⟩
  rw [scanPayload_eq, if_pos he, Buffer.skipPayload_of_hasAt hr.right, Nat.add_assoc,
    ← r.length_raw]
  rfl

/-- A step of the scan passes over the record that stands at the offset. -/
theorem scan_step_of_record {r : Record} (hr : b.HasAt offset r.raw)
    (he : Expects (slots.map (·.number)) r.number r.body.wire) :
    scan b offset slots a =
      scan b (offset + r.raw.length) (noteRecord (slots, a) (offset + r.tag.length, r)).1
        (noteRecord (slots, a) (offset + r.tag.length, r)).2 := by
  have hlt := hr.le
  have hpos := r.length_raw_pos
  obtain ⟨ht, hp⟩ := read_of_record hr he
  exact scan_of_read (by omega) ht hp

/-- A step of the scan passes over nothing but a record. -/
theorem record_of_scan_step (ht : b.readTag offset = .ok tag)
    (hp : scanPayload b tag (offset + tag.size) slots a = (.ok next, slots', a')) :
    ∃ r : Record, b.HasAt offset r.raw ∧ next = offset + r.raw.length ∧
      Expects (slots.map (·.number)) r.number r.body.wire := by
  obtain ⟨raw, hat, hd, hl, hpos⟩ := Buffer.hasAt_of_readTag ht
  obtain ⟨number, wire, size⟩ := tag
  rw [scanPayload_eq, Prod.mk.injEq] at hp
  obtain ⟨hs, -⟩ := hp
  split at hs
  next he =>
    obtain ⟨body, rfl, hbody, rfl⟩ := Buffer.hasAt_of_skipPayload hs
    refine ⟨⟨raw, number, body, hpos, hd⟩, hat.append (hl ▸ hbody), ?_, he⟩
    rw [Record.length_raw, hl, Nat.add_assoc]
  next => cases hs

/-! ### The whole scan -/

/-- Whether the scan succeeds or fails, its notes are in order. -/
theorem scan_noted (b : Buffer) (offset : Nat) (hn : Noted numbers base slots a) :
    Noted numbers base (scan b offset slots a).2.1 (scan b offset slots a).2.2 := by
  fun_induction scan b offset slots a with
  | case1 => exact hn
  | case2 offset slots a hlt tag ht e slots' a' hp =>
    exact hn.scanPayload hp
  | case3 offset slots a hlt tag ht next slots' a' hp ih =>
    exact ih (hn.scanPayload hp)
  | case4 => exact hn

/-- **The scan passes over records**, and notes each of them. -/
theorem scan_of_records : ∀ {records : List Record} {offset : Nat} {slots : List Slot}
    {a : Allocator}, Noted numbers base slots a → offset ≤ b.size →
    Accepted numbers (b.data.drop offset) records →
    scan b offset slots a = (.ok (), (located offset records).foldl noteRecord (slots, a))
  | [], offset, slots, a, _, _, ⟨hd, _⟩ => by
    have hl := congrArg List.length hd
    rw [List.length_drop, List.flatMap_nil, List.length_nil] at hl
    rw [scan, if_neg (by unfold Buffer.size; omega)]
    rfl
  | r :: records, offset, slots, a, hn, hle, ⟨hd, he⟩ => by
    rw [List.flatMap_cons] at hd
    have hr := Buffer.hasAt_of_drop hle hd
    have hrest : Accepted numbers (b.data.drop (offset + r.raw.length)) records := by
      refine ⟨?_, fun r' hr' => he r' (List.mem_cons_of_mem _ hr')⟩
      rw [← List.drop_drop, hd, List.drop_left]
    rw [scan_step_of_record hr (hn.numbers_eq ▸ he r List.mem_cons_self),
      scan_of_records (hn.noteRecord (offset + r.tag.length, r)) hr.le hrest]
    rfl

/-- **The scan passes over nothing but records.** -/
theorem records_of_scan (hn : Noted numbers base slots a) (hle : offset ≤ b.size)
    (h : scan b offset slots a = (.ok (), slots', a')) :
    ∃ records, Accepted numbers (b.data.drop offset) records := by
  fun_induction scan b offset slots a with
  | case1 => cases h
  | case2 => cases h
  | case3 offset slots a hlt tag ht next slots' a' hp ih =>
    obtain ⟨r, hr, rfl, he⟩ := record_of_scan_step ht hp
    obtain ⟨records, hd, hrest⟩ := ih (hn.scanPayload hp) hr.le h
    refine ⟨r :: records, ?_, ?_⟩
    · rw [List.flatMap_cons, ← hd, ← hr.drop_eq]
    · intro r' hr'
      rcases List.mem_cons.mp hr' with rfl | hr'
      · exact hn.numbers_eq ▸ he
      · exact hrest r' hr'
  | case4 offset slots a hge =>
    refine ⟨[], ?_, by simp⟩
    rw [List.flatMap_nil, List.drop_eq_nil_iff]
    unfold Buffer.size at hge
    omega

/-- A scan that fails reports an offset inside the message or at its end. -/
theorem offset_of_scan_error {e : DecodeError} (hle : offset ≤ b.size)
    (h : scan b offset slots a = (.error e, slots', a')) :
    0 ≤ e.offset ∧ e.offset ≤ b.size := by
  fun_induction scan b offset slots a with
  | case1 offset slots a hlt e' ht =>
    cases h
    have := Buffer.offset_of_readTag_error ht
    omega
  | case2 offset slots a hlt tag ht e' slots'' a'' hp =>
    cases h
    obtain ⟨raw, hat, -, hl, -⟩ := Buffer.hasAt_of_readTag ht
    have hin := hat.le
    rw [scanPayload_eq, Prod.mk.injEq] at hp
    obtain ⟨he, -⟩ := hp
    split at he
    next =>
      have := Buffer.offset_of_skipPayload_error (by omega) he
      omega
    next =>
      cases he
      simp only
      omega
  | case3 offset slots a hlt tag ht next slots'' a'' hp ih =>
    obtain ⟨r, hr, rfl, -⟩ := record_of_scan_step ht hp
    exact ih hr.le h
  | case4 => cases h

/-! ### Decoding -/

/-- The slots of fields that have not occurred. -/
def freshSlots (numbers : List Int) : List Slot := numbers.map fun n => { number := n }

/-- A message of expected records is decoded, and the notes of the reader are
those of the records in order. -/
theorem decode_of_accepted {data : Bytes} {records : List Record} (a : Allocator)
    (h : Accepted numbers data records) :
    Reader.decode numbers data a =
      (.ok ⟨⟨data⟩, ((located 0 records).foldl noteRecord (freshSlots numbers, a)).1⟩,
        ((located 0 records).foldl noteRecord (freshSlots numbers, a)).2) := by
  have hs := scan_of_records (b := ⟨data⟩) (Noted.fresh numbers a) (Nat.zero_le _)
    (by rwa [List.drop_zero])
  rw [Reader.decode, hs]
  rfl

/-- Any other message is refused, and the allocator has what it had. -/
theorem decode_cases (numbers : List Int) (data : Bytes) (a : Allocator) :
    (∃ records, Accepted numbers data records) ∨
      ∃ e, Reader.decode numbers data a = (.error (.decode e), a) ∧
        0 ≤ e.offset ∧ e.offset ≤ data.length := by
  have hfresh := Noted.fresh numbers a
  have hnoted := scan_noted ⟨data⟩ 0 hfresh
  cases hs : scan ⟨data⟩ 0 (numbers.map fun n => { number := n }) a with
  | mk res state =>
    obtain ⟨slots, a'⟩ := state
    cases res with
    | ok =>
      have := records_of_scan hfresh (Nat.zero_le _) hs
      exact .inl (by rwa [List.drop_zero] at this)
    | error e =>
      rw [hs] at hnoted
      refine .inr ⟨e, ?_, offset_of_scan_error (Nat.zero_le _) hs⟩
      rw [Reader.decode, hs]
      simp only [hnoted.closeSlots]

/-- A message that is decoded is a concatenation of expected records. -/
theorem exists_accepted_of_decode {data : Bytes} {r : Reader}
    (h : Reader.decode numbers data a = (.ok r, a')) :
    ∃ records, Accepted numbers data records := by
  rcases decode_cases numbers data a with hacc | ⟨e, he, -⟩
  · exact hacc
  · rw [h] at he
    cases he

/-! ### Messages of a module -/

namespace LoadedModule

variable {M : LoadedModule} {m : MessagePlan} {data : Bytes} {records : List Record}

/-- Where the names of its scan hold, a message that is decoded is a
concatenation of expected records. -/
theorem exists_accepted {r : ReaderObject} (h : M.ScanNames m) (hm : m ∈ M.plan.messages)
    (hd : M.decode m data a = (.ok r, a')) :
    ∃ records, Accepted (m.fields.map (·.number)) data records :=
  exists_accepted_of_decode (numbered_of_decode h hm hd)

theorem exists_decode (h : M.ScanNames m) (hm : m ∈ M.plan.messages)
    (hacc : Accepted (m.fields.map (·.number)) data records) (a : Allocator) :
    ∃ r a', M.decode m data a = (.ok r, a') := by
  obtain ⟨r, hd, -⟩ := exists_of_numbered h hm (decode_of_accepted a hacc)
  exact ⟨r, _, hd⟩

theorem exists_decode_error (h : M.ScanNames m) (hm : m ∈ M.plan.messages)
    (hno : ¬ ∃ records, Accepted (m.fields.map (·.number)) data records) (a : Allocator) :
    ∃ e, M.decode m data a = (.error (.decode e), a) ∧ 0 ≤ e.offset ∧ e.offset ≤ data.length := by
  obtain ⟨e, he, hoff⟩ := (decode_cases _ data a).resolve_left hno
  exact ⟨e, error_of_numbered h hm he, hoff⟩

/-- **The decoder accepts exactly its grammar.** Where the names of its scan
hold, a message is decoded if and only if it is a concatenation of records,
where the fields that were declared as repeated enums hold varints or blocks;
any other message is refused with an error that names an offset of the
message. -/
theorem decode_ok_iff_accepted {d : MessageDecl} (hm : M.Declares d m) (h : M.ScanNames m)
    (data : Bytes) (a : Allocator) :
    ((∃ r a', M.decode m data a = (.ok r, a')) ↔
      ∃ records, Accepted d.enumNumbers data records) ∧
    ((¬ ∃ records, Accepted d.enumNumbers data records) →
      ∃ e a', M.decode m data a = (.error (.decode e), a') ∧
        0 ≤ e.offset ∧ e.offset ≤ data.length) := by
  rw [← numbers_eq_of_declares hm]
  refine ⟨⟨?_, ?_⟩, ?_⟩
  · rintro ⟨r, a', hd⟩
    exact exists_accepted h hm.mem hd
  · rintro ⟨records, hacc⟩
    exact exists_decode h hm.mem hacc a
  · intro hno
    obtain ⟨e, he, hoff⟩ := exists_decode_error h hm.mem hno a
    exact ⟨e, a, he, hoff⟩

/-- A message of a known field and one of a field that is not known, and a known
field with a layout of a fixed length. -/
theorem decode_ok_iff_accepted_single :
    ∃ (M : LoadedModule) (d : MessageDecl) (m : MessagePlan), M.Declares d m ∧ M.ScanNames m ∧
      d.enumNumbers = [7] ∧
      (∃ records, Accepted d.enumNumbers [0x3A, 2, 2, 0, 0x0D, 1, 2, 3, 4] records) ∧
      ∃ e a', M.decode m [0x3D, 1, 2, 3, 4] {} = (.error (.decode e), a') ∧
        0 ≤ e.offset ∧ e.offset ≤ ([0x3D, 1, 2, 3, 4] : Bytes).length := by
  let fields : String × List (String × Int) := ("Order", [("levels", 7)])
  let M := levelsModule [fields] {} (by decide +kernel)
  let m := levelsMessage {} fields
  have hm : M.Declares ⟨"Order", ".Order", [⟨"levels", .enum, 7, .repeated, ".Level"⟩]⟩ m :=
    ⟨0, by decide +kernel, by decide +kernel⟩
  have hnames : M.ScanNames m := by decide +kernel
  have hok : M.answers m [0x3A, 2, 2, 0, 0x0D, 1, 2, 3, 4] =
      some [.ok [.number 2, .member "LOW"]] := by
    decide +kernel
  have hbad : M.answers m [0x3D, 1, 2, 3, 4] = none := by decide +kernel
  refine ⟨M, _, m, hm, hnames, rfl, ?_, ?_⟩
  · obtain ⟨r, a', hd, -⟩ := exists_of_answers hok
    exact (decode_ok_iff_accepted hm hnames _ {}).1.mp ⟨r, a', hd⟩
  · refine (decode_ok_iff_accepted hm hnames _ {}).2 fun hacc => ?_
    obtain ⟨r, a', hd⟩ := (decode_ok_iff_accepted hm hnames _ {}).1.mpr hacc
    rw [answers, hd] at hbad
    cases hbad

/-- **A field with the constant of another one.** In a class `ORDERREADER`, the
constant of `__x` has the name of the constant of `_orderreader__x`. Then the scan
knows no field by the number of `__x`, and accepts a layout that it refuses in
this field. -/
theorem decode_of_mistaken : ∃ d : MessageDecl, mistakenNumbers.Declares d mistakenMessage ∧
    d.enumNumbers = [1, 2] ∧ (¬ ∃ records, Accepted d.enumNumbers [0x0D, 0, 0, 0, 0] records) ∧
    ∃ r a', mistakenNumbers.decode mistakenMessage [0x0D, 0, 0, 0, 0] {} = (.ok r, a') := by
  have hrefused : (Reader.decode [1, 2] [0x0D, 0, 0, 0, 0] {}).1 =
      .error (.decode ⟨.unexpectedWireType 1 .fixed32, 1⟩) := by
    decide +kernel
  have haccepted : mistakenNumbers.answers mistakenMessage [0x0D, 0, 0, 0, 0] =
      some [.ok [], .ok []] := by
    decide +kernel
  refine ⟨⟨"ORDER", ".ORDER", [⟨"__x", .enum, 1, .repeated, ".Level"⟩,
    ⟨"_orderreader__x", .enum, 2, .repeated, ".Level"⟩]⟩,
    ⟨0, by decide +kernel, by decide +kernel⟩, rfl, ?_, ?_⟩
  · rintro ⟨records, hacc⟩
    have hacc : Accepted [1, 2] [0x0D, 0, 0, 0, 0] records := hacc
    rw [decode_of_accepted {} hacc] at hrefused
    cases hrefused
  · obtain ⟨r, a', hd, -⟩ := exists_of_answers haccepted
    exact ⟨r, a', hd⟩

end LoadedModule
end WireSchema
