/-
# The records of a message

A record is a tag and what the tag announces: a varint, eight bytes, four
bytes, or a block behind its length. `Record` holds these parts as they are
spelled, so a message is the concatenation of the bytes of its records. Bytes
that start with records are read as these first (`exists_append_of_raw`), so
the same bytes are never the concatenation of two lists of records
(`records_inj`).

A buffer reads a tag or skips a payload at an offset exactly if one stands
there (`readTag_of_hasAt`, `hasAt_of_readTag`, `skipPayload_of_hasAt`,
`hasAt_of_skipPayload`), whatever comes after it.

Key definitions: `Body`, `Record`, `Record.raw`, `Buffer.HasAt`.
Key theorems: `exists_append_of_raw`, `records_inj`,
`Buffer.readTag_of_hasAt`, `Buffer.hasAt_of_readTag`,
`Buffer.skipPayload_of_hasAt`, `Buffer.hasAt_of_skipPayload`.
-/

import WireSchema.Wire.Buffer
import WireSchema.Proofs.Varint

namespace WireSchema

open Varint

/-- What stands behind a tag, layout by layout. -/
inductive Body where
  | varint (number : Spelled)
  | fixed64 (content : Bytes) (length_eq : content.length = 8)
  | bytes (length content : Bytes) (length_denotes : Denotes length content.length)
  | fixed32 (content : Bytes) (length_eq : content.length = 4)

namespace Body

/-- The wire type that announces the layout. -/
def wire : Body → WireType
  | varint _ => .varint
  | fixed64 _ _ => .fixed64
  | bytes _ _ _ => .bytes
  | fixed32 _ _ => .fixed32

/-- The bytes as they stand in the message. -/
def raw : Body → Bytes
  | varint number => number.raw
  | fixed64 content _ => content
  | bytes length content _ => length ++ content
  | fixed32 content _ => content

end Body

/-- A tag with a field number of at least 1, and what it announces. -/
structure Record where
  tag : Bytes
  number : Nat
  body : Body
  number_pos : 1 ≤ number
  tag_denotes : Denotes tag (8 * number + body.wire.code)

namespace Record

/-- The bytes as they stand in the message. -/
def raw (r : Record) : Bytes := r.tag ++ r.body.raw

theorem length_raw (r : Record) : r.raw.length = r.tag.length + r.body.raw.length := by
  rw [raw, List.length_append]

theorem length_raw_pos (r : Record) : 0 < r.raw.length := by
  have := r.tag_denotes.length_pos
  rw [length_raw]
  omega

end Record

/-! ### One reading only -/

theorem WireType.code_inj {w w' : WireType} (h : w.code = w'.code) : w = w' := by
  have := ofCode?_code w
  rw [h, ofCode?_code] at this
  exact (Option.some.inj this).symm

theorem Body.append_inj {p p' : Body} {rest rest' : Bytes} (hw : p.wire = p'.wire)
    (he : p.raw ++ rest = p'.raw ++ rest') : p = p' ∧ rest = rest' := by
  cases p <;> cases p' <;> simp only [Body.wire, reduceCtorEq] at hw
  case varint.varint v v' =>
    obtain ⟨raw, value, hv⟩ := v
    obtain ⟨raw', value', hv'⟩ := v'
    obtain ⟨rfl, rfl, rfl⟩ := hv.append_inj hv' he
    exact ⟨rfl, rfl⟩
  case fixed64.fixed64 c hc c' hc' =>
    obtain ⟨rfl, rfl⟩ := List.append_inj he (hc.trans hc'.symm)
    exact ⟨rfl, rfl⟩
  case bytes.bytes l c hl l' c' hl' =>
    simp only [Body.raw, List.append_assoc] at he
    obtain ⟨rfl, hlen, he⟩ := hl.append_inj hl' he
    obtain ⟨rfl, rfl⟩ := List.append_inj he hlen
    exact ⟨rfl, rfl⟩
  case fixed32.fixed32 c hc c' hc' =>
    obtain ⟨rfl, rfl⟩ := List.append_inj he (hc.trans hc'.symm)
    exact ⟨rfl, rfl⟩

theorem Record.append_inj {r r' : Record} {rest rest' : Bytes}
    (he : r.raw ++ rest = r'.raw ++ rest') : r = r' ∧ rest = rest' := by
  obtain ⟨tag, number, body, hpos, htag⟩ := r
  obtain ⟨tag', number', body', hpos', htag'⟩ := r'
  simp only [Record.raw, List.append_assoc] at he
  obtain ⟨rfl, hword, he⟩ := htag.append_inj htag' he
  have h := body.wire.code_lt
  have h' := body'.wire.code_lt
  obtain rfl : number = number' := by omega
  obtain ⟨rfl, rfl⟩ := Body.append_inj (WireType.code_inj (by omega)) he
  exact ⟨rfl, rfl⟩

/-- The records of bytes that start with records start with these. -/
theorem exists_append_of_raw : ∀ {rs rs' : List Record} {rest : Bytes},
    rs'.flatMap Record.raw = rs.flatMap Record.raw ++ rest →
    ∃ more, rs' = rs ++ more ∧ rest = more.flatMap Record.raw
  | [], rs', _, h => ⟨rs', rfl, h.symm⟩
  | r :: _, [], _, h => by
    have := r.length_raw_pos
    have hl := congrArg List.length h
    simp only [List.flatMap_cons, List.flatMap_nil, List.length_append, List.length_nil] at hl
    omega
  | r :: rs, r' :: rs', rest, h => by
    rw [List.flatMap_cons, List.flatMap_cons, List.append_assoc] at h
    obtain ⟨rfl, hrest⟩ := Record.append_inj h
    obtain ⟨more, rfl, hmore⟩ := exists_append_of_raw hrest
    exact ⟨more, rfl, hmore⟩

namespace Buffer

variable {b : Buffer} {offset : Nat}

/-- The bytes `v` stand in the buffer at `offset`. -/
def HasAt (b : Buffer) (offset : Nat) (v : Bytes) : Prop :=
  offset ≤ b.size ∧ v <+: b.data.drop offset

theorem HasAt.le {v : Bytes} (h : b.HasAt offset v) : offset + v.length ≤ b.size := by
  obtain ⟨hle, hp⟩ := h
  have := hp.length_le
  rw [List.length_drop] at this
  unfold size at *
  omega

theorem HasAt.left {v w : Bytes} (h : b.HasAt offset (v ++ w)) : b.HasAt offset v :=
  ⟨h.1, (List.prefix_append v w).trans h.2⟩

theorem HasAt.right {v w : Bytes} (h : b.HasAt offset (v ++ w)) :
    b.HasAt (offset + v.length) w := by
  have hle := h.left.le
  obtain ⟨-, rest, hr⟩ := h
  refine ⟨hle, rest, ?_⟩
  rw [← List.drop_drop, ← hr, List.append_assoc, List.drop_left]

theorem HasAt.append {v w : Bytes} (hv : b.HasAt offset v)
    (hw : b.HasAt (offset + v.length) w) : b.HasAt offset (v ++ w) := by
  obtain ⟨hle, rest, hr⟩ := hv
  obtain ⟨-, rest', hr'⟩ := hw
  refine ⟨hle, rest', ?_⟩
  rw [← List.drop_drop, ← hr, List.drop_left] at hr'
  rw [← hr, ← hr', List.append_assoc]

theorem HasAt.drop_eq {v : Bytes} (h : b.HasAt offset v) :
    b.data.drop offset = v ++ b.data.drop (offset + v.length) := by
  obtain ⟨-, rest, hr⟩ := h
  rw [← List.drop_drop, ← hr, List.drop_left]

theorem hasAt_of_drop {v rest : Bytes} (hle : offset ≤ b.size)
    (h : b.data.drop offset = v ++ rest) : b.HasAt offset v :=
  ⟨hle, rest, h.symm⟩

theorem hasAt_of_le {n : Nat} (h : offset + n ≤ b.size) :
    ∃ v, v.length = n ∧ b.HasAt offset v := by
  refine ⟨(b.data.drop offset).take n, ?_, by omega, List.take_prefix _ _⟩
  rw [List.length_take, List.length_drop]
  unfold size at h
  omega

/-! ### Reading what stands at an offset -/

theorem readVarint_of_hasAt {raw : Bytes} {n : Nat} (h : b.HasAt offset raw)
    (hn : Denotes raw n) : b.readVarint offset = .ok ⟨n, raw.length⟩ := by
  obtain ⟨-, rest, hr⟩ := h
  rw [readVarint, ← hr, read_of_denotes hn rest]

theorem hasAt_of_readVarint {r : Sized Nat} (h : b.readVarint offset = .ok r) :
    ∃ raw, b.HasAt offset raw ∧ Denotes raw r.value ∧ raw.length = r.size := by
  rw [readVarint] at h
  split at h
  next value count hr =>
    cases h
    obtain ⟨raw, rest, hd, hn, hl⟩ := denotes_of_read hr
    -- a varint has a byte, so the offset is inside
    have hpos := hn.length_pos
    have hlen := congrArg List.length hd
    rw [List.length_drop, List.length_append] at hlen
    exact ⟨raw, hasAt_of_drop (by unfold size; omega) hd, hn, hl⟩
  next => cases h

theorem advance_of_hasAt {v : Bytes} (h : b.HasAt offset v) :
    b.advance offset v.length = .ok (offset + v.length) := by
  rw [advance, if_pos h.le]

theorem hasAt_of_advance {n next : Nat} (h : b.advance offset n = .ok next) :
    next = offset + n ∧ ∃ v, v.length = n ∧ b.HasAt offset v := by
  rw [advance] at h
  split at h
  next hle => cases h; exact ⟨rfl, hasAt_of_le hle⟩
  next => cases h

/-- A tag that stands at an offset is read there, that of a group too. -/
theorem readTag_of_denotes {raw : Bytes} {number : Nat} {wire : WireType}
    (h : b.HasAt offset raw) (hpos : 1 ≤ number) (hn : Denotes raw (8 * number + wire.code)) :
    b.readTag offset = .ok ⟨number, wire, raw.length⟩ := by
  have hw := wire.code_lt
  have hd : (8 * number + wire.code) / 8 = number := by omega
  have hm : (8 * number + wire.code) % 8 = wire.code := by omega
  rw [readTag, readVarint_of_hasAt h hn]
  simp only [hd, hm, WireType.ofCode?_code, if_neg (show number ≠ 0 by omega)]

theorem readTag_of_hasAt {r : Record} (h : b.HasAt offset r.tag) :
    b.readTag offset = .ok ⟨r.number, r.body.wire, r.tag.length⟩ :=
  readTag_of_denotes h r.number_pos r.tag_denotes

/-- Only tags are read as such. -/
theorem hasAt_of_readTag {t : Tag} (h : b.readTag offset = .ok t) :
    ∃ raw, b.HasAt offset raw ∧ Denotes raw (8 * t.number + t.wire.code) ∧
      raw.length = t.size ∧ 1 ≤ t.number := by
  rw [readTag] at h
  split at h
  next => cases h
  next r hr =>
    split at h
    next => cases h
    next hne =>
      split at h
      next wire hw =>
        cases h
        obtain ⟨raw, hat, hn, hl⟩ := hasAt_of_readVarint hr
        have hword : 8 * (r.value / 8) + wire.code = r.value := by
          rw [WireType.code_of_ofCode? hw]; omega
        refine ⟨raw, hat, ?_, hl, ?_⟩
        · rw [hword]; exact hn
        · exact Nat.pos_of_ne_zero hne
      next => cases h

/-- A payload that stands at an offset is skipped there. -/
theorem skipPayload_of_hasAt {p : Body} (h : b.HasAt offset p.raw) :
    b.skipPayload offset p.wire = .ok (offset + p.raw.length) := by
  cases p with
  | varint v =>
    simp only [skipPayload, Body.wire, Body.raw, skipVarint, readVarint_of_hasAt h v.denotes]
  | fixed64 c hc =>
    have := advance_of_hasAt h
    simpa only [skipPayload, Body.wire, Body.raw, hc] using this
  | bytes l c hl =>
    have := advance_of_hasAt h.right
    simp only [skipPayload, Body.wire, Body.raw, skipBlock, readVarint_of_hasAt h.left hl, this,
      List.length_append, Nat.add_assoc]
  | fixed32 c hc =>
    have := advance_of_hasAt h
    simpa only [skipPayload, Body.wire, Body.raw, hc] using this

/-- Only payloads are skipped as such. -/
theorem hasAt_of_skipPayload {wire : WireType} {next : Nat}
    (h : b.skipPayload offset wire = .ok next) :
    ∃ p : Body, p.wire = wire ∧ b.HasAt offset p.raw ∧ next = offset + p.raw.length := by
  cases wire <;> simp only [skipPayload] at h
  case varint =>
    rw [skipVarint] at h
    split at h
    next r hr =>
      cases h
      obtain ⟨raw, hat, hn, hl⟩ := hasAt_of_readVarint hr
      exact ⟨.varint ⟨raw, r.value, hn⟩, rfl, hat, by rw [Body.raw, hl]⟩
    next => cases h
  case fixed64 =>
    obtain ⟨rfl, v, hv, hat⟩ := hasAt_of_advance h
    exact ⟨.fixed64 v hv, rfl, hat, by rw [Body.raw, hv]⟩
  case bytes =>
    rw [skipBlock] at h
    split at h
    next r hr =>
      obtain ⟨raw, hat, hn, hl⟩ := hasAt_of_readVarint hr
      obtain ⟨rfl, v, hv, hat'⟩ := hasAt_of_advance h
      refine ⟨.bytes raw v (hv ▸ hn), rfl, hat.append (hl ▸ hat'), ?_⟩
      rw [Body.raw, List.length_append, hl, hv, Nat.add_assoc]
    next => cases h
  case startGroup => cases h
  case endGroup => cases h
  case fixed32 =>
    obtain ⟨rfl, v, hv, hat⟩ := hasAt_of_advance h
    exact ⟨.fixed32 v hv, rfl, hat, by rw [Body.raw, hv]⟩

/-! ### Where errors are reported -/

/-- A varint that cannot be read is reported where it should start. -/
theorem error_of_readVarint {e : DecodeError} (h : b.readVarint offset = .error e) :
    e = ⟨.varint (if b.size - offset ≤ maxSize then .truncated else .tooLong), offset⟩ := by
  rw [readVarint] at h
  split at h
  next => cases h
  next fault hr =>
    cases h
    rw [fault_of_read hr, List.length_drop, size]

theorem offset_of_readVarint_error {e : DecodeError} (h : b.readVarint offset = .error e) :
    e.offset = offset := by
  rw [error_of_readVarint h]

theorem offset_of_advance_error {n : Nat} {e : DecodeError} (h : b.advance offset n = .error e) :
    e.offset = offset := by
  rw [advance] at h
  split at h <;> cases h
  rfl

theorem offset_of_readTag_error {e : DecodeError} (h : b.readTag offset = .error e) :
    e.offset = offset := by
  rw [readTag] at h
  split at h
  next hr => cases h; exact offset_of_readVarint_error hr
  next =>
    split at h
    next => cases h; rfl
    next => split at h <;> cases h; rfl

/-- A payload that cannot be skipped is reported between its start and the end
of the buffer. -/
theorem offset_of_skipPayload_error {wire : WireType} {e : DecodeError} (hle : offset ≤ b.size)
    (h : b.skipPayload offset wire = .error e) : offset ≤ e.offset ∧ e.offset ≤ b.size := by
  cases wire <;> simp only [skipPayload] at h
  case varint =>
    rw [skipVarint] at h
    split at h
    next => cases h
    next hr => cases h; have := offset_of_readVarint_error hr; omega
  case fixed64 => have := offset_of_advance_error h; omega
  case bytes =>
    rw [skipBlock] at h
    split at h
    next r hr =>
      obtain ⟨raw, hat, -, hl⟩ := hasAt_of_readVarint hr
      have := hat.le
      have := offset_of_advance_error h
      omega
    next hr => cases h; have := offset_of_readVarint_error hr; omega
  case startGroup => cases h; simp only; omega
  case endGroup => cases h; simp only; omega
  case fixed32 => have := offset_of_advance_error h; omega

end Buffer
end WireSchema
