/-
# The notes of a reader

An occurrence is noted in the first slot of its number
(`noteOccurrence_cases`) or, if there is no such slot, nowhere. From that one
fact follows what noting keeps (`Noted.note`): the numbers of the slots, that
offsets and layouts go in step, and that the allocator is short of exactly
the lists the slots hold. So whatever was noted, closing the slots succeeds
and gives the allocator back what it had (`Noted.closeSlots`).

Of several fields with one number only the first collects occurrences
(`Collects`); a field gets those it collects, in order
(`noteOccurrence_getElem?`).

Key definitions: `Slot.held`, `Slot.InStep`, `heldBy`, `Noted`, `Collects`.
Key theorems: `noteOccurrence_cases`, `Noted.note`, `Noted.closeSlots`,
`noteOccurrence_getElem?`.
-/

import WireSchema.Proofs.NumberedCodec

namespace WireSchema
namespace Slot

/-- The number of lists that the slot holds. -/
def held (s : Slot) : Nat :=
  (if s.offsets.isSome then 1 else 0) + (if s.wires.isSome then 1 else 0)

/-- The slot has both lists or neither, and they are equally long. -/
def InStep (s : Slot) : Prop := s.offsets.map List.length = s.wires.map List.length

/-- The slot without its lists. -/
def cleared (s : Slot) : Slot := { s with offsets := none, wires := none }

/-- The slot after an occurrence. -/
def noted (s : Slot) (offset : Nat) (wire : WireType) : Slot :=
  (s.acquire {}).1.push offset wire

theorem acquire_fst (s : Slot) (a : Allocator) : (s.acquire a).1 = (s.acquire {}).1 := by
  unfold acquire
  split <;> rfl

@[simp] theorem number_noted (s : Slot) (offset : Nat) (wire : WireType) :
    (s.noted offset wire).number = s.number := by
  unfold noted acquire push
  split <;> rfl

theorem InStep.noted {s : Slot} (h : s.InStep) (offset : Nat) (wire : WireType) :
    (s.noted offset wire).InStep := by
  obtain ⟨n, offsets, wires⟩ := s
  cases offsets <;> cases wires <;> simp_all [InStep, Slot.noted, acquire, push]

/-- A slot takes two lists when its field first occurs, and none later. -/
theorem InStep.outstanding_acquire {s : Slot} (h : s.InStep) (offset : Nat) (wire : WireType)
    (a : Allocator) :
    (s.acquire a).2.outstanding + s.held = a.outstanding + (s.noted offset wire).held := by
  obtain ⟨n, offsets, wires⟩ := s
  cases offsets <;> cases wires <;>
    simp_all [InStep, held, Slot.noted, acquire, push, Allocator.newList]

theorem InStep.occurrences_noted {s : Slot} (h : s.InStep) (offset : Nat) (wire : WireType) :
    (s.noted offset wire).occurrences = s.occurrences ++ [(offset, wire)] := by
  obtain ⟨n, offsets, wires⟩ := s
  cases offsets with
  | none =>
    cases wires with
    | none => rfl
    | some ws => simp [InStep] at h
  | some os =>
    cases wires with
    | none => simp [InStep] at h
    | some ws =>
      have hl : os.length = ws.length := by simpa [InStep] using h
      show (os ++ [offset]).zip (ws ++ [wire]) = os.zip ws ++ [(offset, wire)]
      rw [List.zip_append hl]
      rfl

end Slot

/-- The number of lists that slots hold together. -/
def heldBy : List Slot → Nat
  | [] => 0
  | s :: rest => s.held + heldBy rest

theorem heldBy_append : ∀ ss ss' : List Slot, heldBy (ss ++ ss') = heldBy ss + heldBy ss'
  | [], ss' => by simp [heldBy]
  | s :: ss, ss' => by rw [List.cons_append, heldBy, heldBy, heldBy_append ss ss', Nat.add_assoc]

/-! ### Noting an occurrence -/

variable {number offset : Nat} {wire : WireType} {slots slots' : List Slot} {a a' : Allocator}

/-- An occurrence of a number that no slot has is noted nowhere. -/
theorem noteOccurrence_eq_none_iff :
    noteOccurrence number offset wire slots a = none ↔ (number : Int) ∉ slots.map (·.number) := by
  induction slots with
  | nil => simp [noteOccurrence]
  | cons s rest ih =>
    rw [noteOccurrence]
    by_cases hs : s.number = (number : Int)
    · simp [hs]
    · rw [if_neg hs, List.map_cons, List.mem_cons, not_or, ← ih]
      split <;> simp_all [Ne.symm hs]

/-- **Noting in one step.** The first slot of the number changes, and the
other slots do not. -/
theorem noteOccurrence_cases
    (h : noteOccurrence number offset wire slots a = some (slots', a')) :
    ∃ before s after, slots = before ++ s :: after ∧
      (∀ t ∈ before, t.number ≠ (number : Int)) ∧ s.number = (number : Int) ∧
      slots' = before ++ s.noted offset wire :: after ∧ a' = (s.acquire a).2 := by
  induction slots generalizing slots' a' with
  | nil => simp [noteOccurrence] at h
  | cons s rest ih =>
    rw [noteOccurrence] at h
    by_cases hs : s.number = (number : Int)
    · rw [if_pos hs] at h
      simp only [Option.some.injEq, Prod.mk.injEq] at h
      refine ⟨[], s, rest, rfl, by simp, hs, ?_, h.2.symm⟩
      rw [← h.1, Slot.acquire_fst]
      rfl
    · rw [if_neg hs] at h
      split at h
      next rest' a'' hr =>
        cases h
        obtain ⟨before, t, after, rfl, hne, ht, rfl, rfl⟩ := ih hr
        refine ⟨s :: before, t, after, rfl, ?_, ht, rfl, rfl⟩
        intro u hu
        rcases List.mem_cons.mp hu with rfl | hu
        · exact hs
        · exact hne u hu
      next => cases h

/-- What noting keeps: the numbers of the slots, lists that go in step, and an
allocator that started with `base` lists outstanding and handed out those the
slots hold. -/
structure Noted (numbers : List Int) (base : Nat) (slots : List Slot) (a : Allocator) : Prop where
  numbers_eq : slots.map (·.number) = numbers
  inStep : ∀ s ∈ slots, s.InStep
  outstanding_eq : a.outstanding = base + heldBy slots

theorem Noted.fresh (numbers : List Int) (a : Allocator) :
    Noted numbers a.outstanding (numbers.map fun n => { number := n }) a where
  numbers_eq := by simp [Function.comp_def]
  inStep := by simp [Slot.InStep]
  outstanding_eq := by
    induction numbers with
    | nil => rfl
    | cons n rest ih => simpa [heldBy, Slot.held] using ih

/-- Noting, or finding nowhere to note, keeps all of it. -/
theorem Noted.note {numbers : List Int} {base : Nat} (hn : Noted numbers base slots a)
    (number offset : Nat) (wire : WireType) :
    Noted numbers base ((noteOccurrence number offset wire slots a).getD (slots, a)).1
      ((noteOccurrence number offset wire slots a).getD (slots, a)).2 := by
  cases h : noteOccurrence number offset wire slots a with
  | none => exact hn
  | some p =>
    obtain ⟨hnum, hstep, hout⟩ := hn
    obtain ⟨before, s, after, rfl, -, -, hp, ha⟩ := noteOccurrence_cases h
    have hs : s.InStep := hstep s (by simp)
    rw [Option.getD_some, hp, ha]
    refine ⟨?_, ?_, ?_⟩
    · simpa using hnum
    · intro t ht
      rcases List.mem_append.mp ht with ht | ht
      · exact hstep t (List.mem_append_left _ ht)
      · rcases List.mem_cons.mp ht with rfl | ht
        · exact hs.noted offset wire
        · exact hstep t (by simp [ht])
    · have := hs.outstanding_acquire offset wire a
      rw [heldBy_append, heldBy] at hout ⊢
      omega

/-! ### Closing -/

/-- Closing a slot succeeds if the allocator has its lists outstanding. -/
theorem Slot.close_of_held {s : Slot} (h : s.held ≤ a.outstanding) :
    s.close a = (none, s.cleared, ⟨a.outstanding - s.held⟩) := by
  obtain ⟨n, offsets, wires⟩ := s
  obtain ⟨count⟩ := a
  cases offsets <;> cases wires <;> simp only [held, Option.isSome] at h
  · rfl
  · have : count ≠ 0 := by simp at h; omega
    simp [close, releaseOffsets, releaseWires, Allocator.release, this, cleared, held]
  · have : count ≠ 0 := by simp at h; omega
    simp [close, releaseOffsets, releaseWires, Allocator.release, this, cleared, held]
  · have h0 : count ≠ 0 := by simp at h; omega
    have h1 : count - 1 ≠ 0 := by simp at h; omega
    simp [close, releaseOffsets, releaseWires, Allocator.release, h0, h1, cleared, held,
      Nat.sub_sub]

theorem closeSlots_of_held : ∀ {slots : List Slot} {a : Allocator}, heldBy slots ≤ a.outstanding →
    closeSlots slots a = (none, slots.map Slot.cleared, ⟨a.outstanding - heldBy slots⟩)
  | [], _, _ => rfl
  | s :: rest, a, h => by
    rw [heldBy] at h
    have hle : heldBy rest ≤ (⟨a.outstanding - s.held⟩ : Allocator).outstanding := by
      show heldBy rest ≤ a.outstanding - s.held
      omega
    rw [closeSlots, Slot.close_of_held (by omega)]
    simp only [closeSlots_of_held hle, List.map_cons, heldBy, Nat.sub_sub]

/-- Closing what was noted gives the allocator back what it had. -/
theorem Noted.closeSlots {numbers : List Int} {base : Nat} (hn : Noted numbers base slots a) :
    closeSlots slots a = (none, slots.map Slot.cleared, ⟨base⟩) := by
  have := hn.outstanding_eq
  rw [closeSlots_of_held (by omega), show a.outstanding - heldBy slots = base by omega]

/-! ### Which field gets an occurrence -/

/-- Field `i` collects the occurrences of a number: it has that number, and no
field before it does. -/
def Collects (numbers : List Int) (i number : Nat) : Prop :=
  numbers[i]? = some (number : Int) ∧ (number : Int) ∉ numbers.take i

instance (numbers : List Int) (i number : Nat) : Decidable (Collects numbers i number) :=
  inferInstanceAs (Decidable (_ ∧ _))

theorem Collects.mem {numbers : List Int} {i number : Nat} (h : Collects numbers i number) :
    (number : Int) ∈ numbers := List.mem_of_getElem? h.1

/-- The first field of a number is the one that collects it. -/
theorem collects_append_iff {before after : List Int} {i : Nat} (h : (number : Int) ∉ before) :
    Collects (before ++ (number : Int) :: after) i number ↔ i = before.length := by
  constructor
  · rintro ⟨hi, hno⟩
    rcases Nat.lt_trichotomy i before.length with hlt | rfl | hgt
    · rw [List.getElem?_append_left hlt] at hi
      exact absurd (List.mem_of_getElem? hi) h
    · rfl
    · refine absurd ?_ hno
      rw [List.take_append, List.take_of_length_le (by omega)]
      obtain ⟨k, hk⟩ : ∃ k, i - before.length = k + 1 := ⟨i - before.length - 1, by omega⟩
      simp [hk]
  · rintro rfl
    exact ⟨by simp, by simpa using h⟩

/-- Noting adds the occurrence to the field that collects it, at the end, and
to no other field. -/
theorem noteOccurrence_getElem? (hstep : ∀ s ∈ slots, s.InStep)
    (h : noteOccurrence number offset wire slots a = some (slots', a')) {i : Nat} {s : Slot}
    (hi : slots[i]? = some s) :
    ∃ s', slots'[i]? = some s' ∧ s'.occurrences = s.occurrences ++
      if Collects (slots.map (·.number)) i number then [(offset, wire)] else [] := by
  obtain ⟨before, t, after, rfl, hne, ht, rfl, -⟩ := noteOccurrence_cases h
  have hmem : (number : Int) ∉ before.map (·.number) := by
    intro hm
    obtain ⟨u, hu, he⟩ := List.mem_map.mp hm
    exact hne u hu he
  have hc : Collects ((before ++ t :: after).map (·.number)) i number ↔ i = before.length := by
    rw [List.map_append, List.map_cons, ht, collects_append_iff hmem, List.length_map]
  by_cases hi' : i = before.length
  · subst hi'
    obtain rfl : t = s := by simpa using hi
    refine ⟨t.noted offset wire, by simp, ?_⟩
    rw [if_pos (hc.mpr rfl), (hstep t (by simp)).occurrences_noted]
  · refine ⟨s, ?_, by rw [if_neg fun h' => hi' (hc.mp h'), List.append_nil]⟩
    rw [← hi]
    rcases Nat.lt_or_gt_of_ne hi' with hlt | hgt
    · rw [List.getElem?_append_left hlt, List.getElem?_append_left hlt]
    · rw [List.getElem?_append_right (by omega), List.getElem?_append_right (by omega)]
      obtain ⟨k, hk⟩ : ∃ k, i - before.length = k + 1 := ⟨i - before.length - 1, by omega⟩
      rw [hk, List.getElem?_cons_succ, List.getElem?_cons_succ]

end WireSchema
