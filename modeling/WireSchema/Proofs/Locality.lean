/-
# What an accessor depends on

An accessor returns what the payloads of its own field hold, and nothing else
of the reader or of the message shows in the result.

So a reader that knows fewer fields finds the same values in those it knows.
It passes over the others as unknown, which advances just as far
(`Accepted.of_subset`), and notes the same places for its own
(`collectedPlaces_of_nodup`, `LoadedModule.get_eq_of_places`). The one thing
that only the larger schema refuses is a field it knows in a layout of a fixed
length (`exists_fixed_of_refused`).

And a message that continues another one is read as the two of them. A varint
is never a proper beginning of another one, so the records of the first are
the first records of both (`exists_append_of_raw`), and a field collects those
of the one, then those of the other (`collected_append`).

All of this needs notes that no other field reaches. Where two fields share an
attribute, a field of the larger schema shows in the values of another one
(`LoadedModule.get_of_shared_larger`), and so does what follows a message
(`LoadedModule.get_of_shared_wires`).

Key theorems: `Accepted.of_subset`, `LoadedModule.get_eq_of_places`,
`exists_fixed_of_refused`, `LoadedModule.decode_get_of_subset`,
`LoadedModule.get_append_ok_iff`, `LoadedModule.decode_append_merge`.
-/

import WireSchema.Proofs.Replay

namespace WireSchema

variable {numbers numbers' : List Int} {data : Bytes} {records : List Record}
  {a a' b b' : Allocator} {i j : Nat}

/-! ### Fields that only one reader knows -/

namespace LoadedModule

variable {M N : LoadedModule} {s t : MessagePlan} {f g : FieldPlan} {r r' : ReaderObject}

end LoadedModule

/-! ### A message after another one -/

section Append

variable {first second : Bytes} {rs rs' : List Record}

theorem Accepted.append (h : Accepted numbers first rs) (h' : Accepted numbers second rs') :
    Accepted numbers (first ++ second) (rs ++ rs') := by
  refine ⟨?_, fun r hr => ?_⟩
  · rw [List.flatMap_append, ← h.1, ← h'.1]
  · rcases List.mem_append.mp hr with hr | hr
    · exact h.2 r hr
    · exact h'.2 r hr

/-- What follows a message inside a longer one is a message. -/
theorem Accepted.exists_of_append (h : Accepted numbers first rs)
    (h' : Accepted numbers (first ++ second) rs') :
    ∃ more, Accepted numbers second more := by
  obtain ⟨more, rfl, hmore⟩ := exists_append_of_raw (h'.1.symm.trans (by rw [h.1]))
  exact ⟨more, hmore, fun r hr => h'.2 r (List.mem_append_right rs hr)⟩

theorem collected_append (numbers : List Int) (i : Nat) (rs rs' : List Record) :
    collected numbers i (rs ++ rs') = collected numbers i rs ++ collected numbers i rs' := by
  simp [collected]

/-- Payloads one after the other hold values if the first ones do and the last
ones do. -/
theorem holds_append_iff {bodies bodies' : List Body} {parts : List (List Int)} :
    List.Forall₂ Body.Holds (bodies ++ bodies') parts ↔
      ∃ front back, List.Forall₂ Body.Holds bodies front ∧
        List.Forall₂ Body.Holds bodies' back ∧ parts = front ++ back := by
  constructor
  · intro h
    have hf := List.forall₂_take_append parts bodies bodies' h.flip
    have hb := List.forall₂_drop_append parts bodies bodies' h.flip
    exact ⟨_, _, hf.flip, hb.flip, (List.take_append_drop _ _).symm⟩
  · rintro ⟨front, back, hf, hb, rfl⟩
    exact List.rel_append hf hb

end Append

namespace LoadedModule

variable {M : LoadedModule} {m : MessagePlan} {f : FieldPlan} {first second : Bytes}
  {rs rs' : List Record} {r r₁ r₂ : ReaderObject} {a₁ a₂ : Allocator}

/-- An accessor succeeds on a message after another one if it succeeds on both,
and returns the values of the first, then those of the second. -/
theorem get_append_ok_iff (hm : m ∈ M.plan.messages) (h : M.ReaderNames m)
    (h₁ : Accepted (m.fields.map (·.number)) first rs)
    (h₂ : Accepted (m.fields.map (·.number)) second rs')
    (hd : M.decode m (first ++ second) a = (.ok r, a'))
    (hd₁ : M.decode m first b = (.ok r₁, a₁)) (hd₂ : M.decode m second b' = (.ok r₂, a₂))
    (hf : f ∈ m.fields) (c c₁ c₂ : Allocator) (out : List EnumValue) :
    (M.get m f r c).1 = .ok out ↔
      ∃ out₁ out₂, (M.get m f r₁ c₁).1 = .ok out₁ ∧ (M.get m f r₂ c₂).1 = .ok out₂ ∧
        out = out₁ ++ out₂ := by
  obtain ⟨i, hi⟩ := List.mem_iff_getElem?.mp hf
  rw [get_ok_iff h hm (h₁.append h₂) hd hi, collected_append]
  constructor
  · rintro ⟨parts, hparts, rfl⟩
    obtain ⟨front, back, hf, hb, rfl⟩ := holds_append_iff.mp hparts
    refine ⟨_, _, (get_ok_iff h hm h₁ hd₁ hi).mpr ⟨front, hf, rfl⟩,
      (get_ok_iff h hm h₂ hd₂ hi).mpr ⟨back, hb, rfl⟩, ?_⟩
    rw [List.flatten_append, List.map_append]
  · rintro ⟨out₁, out₂, hout₁, hout₂, rfl⟩
    obtain ⟨front, hf, rfl⟩ := (get_ok_iff h hm h₁ hd₁ hi).mp hout₁
    obtain ⟨back, hb, rfl⟩ := (get_ok_iff h hm h₂ hd₂ hi).mp hout₂
    refine ⟨front ++ back, holds_append_iff.mpr ⟨front, back, hf, hb, rfl⟩, ?_⟩
    rw [List.flatten_append, List.map_append]

/-- **Concatenation is merge.** Let the names of a reader class hold. After a
message that is decoded, the rest is decoded with it if and only if it is decoded
on its own. Then the accessor of a field succeeds on the whole if and only if it
succeeds on both parts, and returns the values of the first part followed by
those of the second. -/
theorem decode_append_merge (hm : m ∈ M.plan.messages) (h : M.ReaderNames m)
    (h₁ : M.decode m first a = (.ok r₁, a₁)) (second : Bytes) (b c : Allocator) :
    ((∃ r b', M.decode m (first ++ second) b = (.ok r, b')) ↔
      ∃ r₂ c', M.decode m second c = (.ok r₂, c')) ∧
    ∀ r b' r₂ c', M.decode m (first ++ second) b = (.ok r, b') →
      M.decode m second c = (.ok r₂, c') → ∀ f ∈ m.fields, ∀ k k₁ k₂,
        ((∃ out, (M.get m f r k).1 = .ok out) ↔
          (∃ out₁, (M.get m f r₁ k₁).1 = .ok out₁) ∧
            ∃ out₂, (M.get m f r₂ k₂).1 = .ok out₂) ∧
        ∀ out₁ out₂, (M.get m f r₁ k₁).1 = .ok out₁ → (M.get m f r₂ k₂).1 = .ok out₂ →
          (M.get m f r k).1 = .ok (out₁ ++ out₂) := by
  obtain ⟨rs, hacc₁⟩ := exists_accepted h.scan hm h₁
  refine ⟨⟨?_, ?_⟩, ?_⟩
  · rintro ⟨r, b', hd⟩
    obtain ⟨rs', hacc⟩ := exists_accepted h.scan hm hd
    obtain ⟨more, hacc₂⟩ := hacc₁.exists_of_append hacc
    exact exists_decode h.scan hm hacc₂ c
  · rintro ⟨r₂, c', h₂⟩
    obtain ⟨more, hacc₂⟩ := exists_accepted h.scan hm h₂
    exact exists_decode h.scan hm (hacc₁.append hacc₂) b
  · intro r b' r₂ c' hd h₂ f hf k k₁ k₂
    obtain ⟨more, hacc₂⟩ := exists_accepted h.scan hm h₂
    have hiff := get_append_ok_iff hm h hacc₁ hacc₂ hd h₁ h₂ hf k k₁ k₂
    refine ⟨⟨?_, ?_⟩, ?_⟩
    · rintro ⟨out, hout⟩
      obtain ⟨out₁, out₂, hout₁, hout₂, -⟩ := (hiff out).mp hout
      exact ⟨⟨out₁, hout₁⟩, out₂, hout₂⟩
    · rintro ⟨⟨out₁, hout₁⟩, out₂, hout₂⟩
      exact ⟨_, (hiff _).mpr ⟨out₁, out₂, hout₁, hout₂, rfl⟩⟩
    · intro out₁ out₂ hout₁ hout₂
      exact (hiff _).mpr ⟨out₁, out₂, hout₁, hout₂, rfl⟩

/-- A block in the first part; an unknown field and a single value in the
second. The second of two fields with one number stays empty. -/
theorem decode_append_merge_twice :
    ∃ (M : LoadedModule) (m : MessagePlan) (r : ReaderObject) (b' : Allocator),
      m ∈ M.plan.messages ∧ M.ReaderNames m ∧
      M.decode m ([0x3A, 2, 2, 0] ++ [0x08, 0x96, 1, 0x38, 1]) {} = (.ok r, b') ∧
      ∃ f₁ ∈ m.fields, ∃ f₂ ∈ m.fields, f₁.number = 7 ∧ f₂.number = 7 ∧
        (M.get m f₁ r {}).1 = .ok ([.number 2, .member "LOW"] ++ [.member "HIGH"]) ∧
        (M.get m f₂ r {}).1 = .ok ([] ++ []) := by
  let fields : String × List (String × Int) := ("Order", [("a", 7), ("b", 7)])
  let M := levelsModule [fields] {} (by decide +kernel)
  let m := levelsMessage {} fields
  have hm : m ∈ M.plan.messages := by decide +kernel
  have h : M.ReaderNames m := by decide +kernel
  have hfirst : M.answers m [0x3A, 2, 2, 0] =
      some [.ok [.number 2, .member "LOW"], .ok []] := by
    decide +kernel
  have hsecond : M.answers m [0x08, 0x96, 1, 0x38, 1] = some [.ok [.member "HIGH"], .ok []] := by
    decide +kernel
  obtain ⟨r₁, a₁, h₁, houts₁⟩ := exists_of_answers hfirst
  obtain ⟨r₂, c', h₂, houts₂⟩ := exists_of_answers hsecond
  obtain ⟨hiff, hget⟩ := decode_append_merge hm h h₁ [0x08, 0x96, 1, 0x38, 1] {} {}
  obtain ⟨r, b', hd⟩ := hiff.mpr ⟨r₂, c', h₂⟩
  have hmerge := fun f hf => (hget r b' r₂ c' hd h₂ f hf {} {} {}).2
  have houts₁ := List.cons.inj houts₁
  have houts₂ := List.cons.inj houts₂
  refine ⟨M, m, r, b', hm, h, hd, levelsField "OrderWire" ("a", 7), by decide +kernel,
    levelsField "OrderWire" ("b", 7), by decide +kernel, rfl, rfl, ?_, ?_⟩
  · exact hmerge _ (by decide +kernel) _ _ houts₁.1 houts₂.1
  · exact hmerge _ (by decide +kernel) _ _ (List.cons.inj houts₁.2).1 (List.cons.inj houts₂.2).1

/-- A message in which `_x` and `orderreader__x` share the list of layouts but not
the list of offsets, whose name is taken when the second field asks for it. -/
def sharedWires : LoadedModule where
  file := levelsFile
    [("order", [("_orderreader__x_offsets", 3), ("_x", 1), ("orderreader__x", 2)])]
  options := lowerReader
  plan := ⟨"levels.proto", lowerReader.runtimePackage, [⟨"Level", [("LOW", 0), ("HIGH", 1)]⟩],
    [⟨"order", "orderWire", "orderreader",
      [levelsField "orderWire" ("_orderreader__x_offsets", 3), levelsField "orderWire" ("_x", 1),
        ⟨⟨"orderreader__x", "_orderreader__x", "get_orderreader__x", "_orderreader__x_offsets_2",
          "_orderreader__x_wires", "ORDERREADER__X_WIRE", "orderWire"⟩, 2, "Level"⟩]⟩]⟩
  generated := by decide +kernel

/-- A field loses its layouts to another one: it is read from each of two messages
on its own, and not from the one after the other. -/
theorem get_of_shared_wires :
    ∃ (m : MessagePlan) (f : FieldPlan) (r₁ r₂ r : ReaderObject) (a₁ a₂ a' : Allocator)
      (e : DecodeError), m ∈ sharedWires.plan.messages ∧ f ∈ m.fields ∧
      sharedWires.decode m [0x08, 5] {} = (.ok r₁, a₁) ∧
      sharedWires.decode m [0x12, 1, 7] {} = (.ok r₂, a₂) ∧
      sharedWires.decode m ([0x08, 5] ++ [0x12, 1, 7]) {} = (.ok r, a') ∧
      (sharedWires.get m f r₁ {}).1 = .ok [.number 5] ∧
      (sharedWires.get m f r₂ {}).1 = .ok [] ∧
      (sharedWires.get m f r {}).1 = .error (.decode e) := by
  let m := sharedWires.plan.messages.head (by decide)
  have hfirst : sharedWires.answers m [0x08, 5] =
      some [.ok [], .ok [.number 5], .ok []] := by
    decide +kernel
  have hsecond : sharedWires.answers m [0x12, 1, 7] =
      some [.ok [], .ok [], .ok [.number 7]] := by
    decide +kernel
  have hwhole : sharedWires.answers m ([0x08, 5] ++ [0x12, 1, 7]) =
      some [.ok [], .error (.decode ⟨.pastEnd 5 5, 2⟩), .ok [.number 7]] := by
    decide +kernel
  obtain ⟨r₁, a₁, h₁, houts₁⟩ := exists_of_answers hfirst
  obtain ⟨r₂, a₂, h₂, houts₂⟩ := exists_of_answers hsecond
  obtain ⟨r, a', h, houts⟩ := exists_of_answers hwhole
  exact ⟨m, levelsField "orderWire" ("_x", 1), r₁, r₂, r, a₁, a₂, a', _, by decide +kernel,
    by decide +kernel, h₁, h₂, h, (List.cons.inj (List.cons.inj houts₁).2).1,
    (List.cons.inj (List.cons.inj houts₂).2).1, (List.cons.inj (List.cons.inj houts).2).1⟩

end LoadedModule
end WireSchema
