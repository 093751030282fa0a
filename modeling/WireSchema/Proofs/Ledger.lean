/-
# What allocators are owed

An allocator only counts. Who owes it the lists that it counts is written in
a ledger beside the session: the readers that were decoded, with the notes of
their scans, and the lists that accessors returned (`Ledger`). The ledger sees
commands and replies (`Ledger.after`); nothing in the session depends on it.

A list is given back at most once and to the allocator that it came from
(`Ledger.Permits`); apart from that, commands come in any order. Then every
allocator has outstanding what the ledger says: two lists for each noted field
of an open reader, and one for each list that was not given back
(`outstanding_eq_owed`). One command keeps this balance or changes no more than
what was written (`run_outcome`), so it holds along every history
(`History.balanced`).

This is a law of modules whose reader classes have names that hold. Where two
fields share their notes, one pair of lists serves both of them
(`outstanding_of_shared`).

Key definitions: `Ledger`, `Ledger.owed`, `Ledger.after`, `Ledger.Permits`,
`History`, `Balanced`, `Outcome`.
Key theorems: `heldBy_of_decode`, `LoadedModule.close_of_held`, `run_outcome`,
`History.balanced`, `outstanding_eq_owed`.
-/

import WireSchema.Proofs.Scan

namespace WireSchema

/-! ### The ledger -/

/-- A reader that was decoded: with which allocator, the notes of its fields as
the scan left them, and whether it was closed since. -/
structure ReaderEntry where
  allocator : Nat
  slots : List Slot
  closed : Bool := false

/-- A list that an accessor returned: which allocator it came from, and
whether it was given back. -/
structure ListEntry where
  allocator : Nat
  released : Bool := false

/-- What a session was given, in order. -/
structure Ledger where
  readers : List ReaderEntry := []
  lists : List ListEntry := []

/-- The fields for which the scan noted an occurrence. -/
def notedFields (slots : List Slot) : List Slot := slots.filter fun s => s.occurrences ≠ []

/-- The noted fields of a reader, if it is open and allocator `k` was used. -/
def ReaderEntry.notes (e : ReaderEntry) (k : Nat) : List Slot :=
  if e.allocator = k ∧ e.closed = false then notedFields e.slots else []

namespace Ledger

/-- The noted fields of all open readers that were decoded with allocator `k`. -/
def notes (l : Ledger) (k : Nat) : List Slot := l.readers.flatMap (·.notes k)

/-- The lists from allocator `k` that were not given back. -/
def loans (l : Ledger) (k : Nat) : List ListEntry :=
  l.lists.filter fun e => e.allocator = k ∧ e.released = false

/-- The number of lists that allocator `k` should have outstanding. -/
def owed (l : Ledger) (k : Nat) : Nat := 2 * (l.notes k).length + (l.loans k).length

/-- The ledger after a command, given the reply and the session after it. -/
def after (l : Ledger) : Command → Except SessionError Reply × Session → Ledger
  | .decode _ _ k, (.ok (.reader i _), s) =>
    { l with readers := l.readers ++ s.readers[i]?.toList.map fun r =>
        ⟨k, s.loaded.slots r.message r.reader, false⟩ }
  | .get _ _ k, (.ok _, _) => { l with lists := l.lists ++ [⟨k, false⟩] }
  | .close i, (.ok _, _) =>
    { l with readers := l.readers.modify i fun e => { e with closed := true } }
  | .release i _, (.ok _, _) =>
    { l with lists := l.lists.modify i fun e => { e with released := true } }
  | _, _ => l

/-- A list is given back to the allocator it came from, and only once. All
other commands may come at any time. -/
def Permits (l : Ledger) : Command → Prop
  | .release i k => ∀ e, l.lists[i]? = some e → e.allocator = k ∧ e.released = false
  | _ => True

end Ledger

/-- The sessions that permitted commands lead to, with their ledgers, from a
session on a module with `n` allocators. -/
inductive History (M : LoadedModule) (n : Nat) : Session → Ledger → Prop
  | start : History M n (Session.start M n) {}
  | step {s : Session} {l : Ledger} {c : Command} (h : History M n s l) (hc : l.Permits c) :
      History M n (s.run c).2 (l.after c (s.run c))

/-! ### What a scan holds -/

/-- A slot that has lists has noted something in them. -/
theorem Slot.InStep.held_eq {s : Slot} (h : s.InStep) (hs : s.offsets ≠ some []) :
    s.held = if s.occurrences = [] then 0 else 2 := by
  obtain ⟨n, offsets, wires⟩ := s
  cases offsets with
  | none =>
    cases wires with
    | none => rfl
    | some ws => simp [InStep] at h
  | some os =>
    cases wires with
    | none => simp [InStep] at h
    | some ws =>
      have hl : os.length = ws.length := by simpa [InStep] using h
      cases os with
      | nil => exact absurd rfl hs
      | cons o os =>
        cases ws with
        | nil => cases hl
        | cons w ws => rfl

theorem heldBy_eq_noted : ∀ {slots : List Slot}, (∀ s ∈ slots, s.InStep) →
    (∀ s ∈ slots, s.offsets ≠ some []) → heldBy slots = 2 * (notedFields slots).length
  | [], _, _ => rfl
  | s :: slots, hstep, hs => by
    have hhead := (hstep s List.mem_cons_self).held_eq (hs s List.mem_cons_self)
    have ih := heldBy_eq_noted (fun t ht => hstep t (List.mem_cons_of_mem s ht))
      (fun t ht => hs t (List.mem_cons_of_mem s ht))
    unfold notedFields at ih ⊢
    rw [heldBy, hhead, ih, List.filter_cons]
    by_cases ho : s.occurrences = []
    · simp [ho]
    · simp [ho]
      omega

theorem Slot.offsets_noted_ne (s : Slot) (offset : Nat) (wire : WireType) :
    (s.noted offset wire).offsets ≠ some [] := by
  obtain ⟨n, offsets, wires⟩ := s
  cases offsets <;> simp [noted, acquire, push]

theorem noteRecord_offsets_ne {state : List Slot × Allocator}
    (h : ∀ s ∈ state.1, s.offsets ≠ some []) (p : Nat × Record) :
    ∀ s ∈ (noteRecord state p).1, s.offsets ≠ some [] := by
  obtain ⟨slots, a⟩ := state
  unfold noteRecord
  cases ho : noteOccurrence p.2.number p.1 p.2.body.wire slots a with
  | none => exact h
  | some state =>
    obtain ⟨before, t, after, rfl, -, -, hs, -⟩ := noteOccurrence_cases ho
    rw [Option.getD_some, hs]
    intro s hmem
    rcases List.mem_append.mp hmem with hmem | hmem
    · exact h s (List.mem_append_left _ hmem)
    · rcases List.mem_cons.mp hmem with rfl | hmem
      · exact t.offsets_noted_ne _ _
      · exact h s (by simp [hmem])

theorem foldl_noteRecord_noted {numbers : List Int} {base : Nat} :
    ∀ (places : List (Nat × Record)) (state : List Slot × Allocator),
    Noted numbers base state.1 state.2 → (∀ s ∈ state.1, s.offsets ≠ some []) →
    Noted numbers base (places.foldl noteRecord state).1 (places.foldl noteRecord state).2 ∧
      ∀ s ∈ (places.foldl noteRecord state).1, s.offsets ≠ some []
  | [], _, hn, hs => ⟨hn, hs⟩
  | p :: places, _, hn, hs =>
    foldl_noteRecord_noted places _ (hn.noteRecord p) (noteRecord_offsets_ne hs p)

/-- **A decoded reader holds two lists for each field that its scan noted**,
and these are what its allocator has outstanding more than before. -/
theorem heldBy_of_decode {numbers : List Int} {data : Bytes} {a a' : Allocator} {r : Reader}
    (h : Reader.decode numbers data a = (.ok r, a')) :
    heldBy r.slots = 2 * (notedFields r.slots).length ∧
      a'.outstanding = a.outstanding + heldBy r.slots := by
  obtain ⟨records, hacc⟩ := exists_accepted_of_decode h
  have hd := decode_of_accepted a hacc
  rw [h, Prod.mk.injEq, Except.ok.injEq] at hd
  obtain ⟨rfl, rfl⟩ := hd
  have hfresh : ∀ s ∈ freshSlots numbers, s.offsets ≠ some [] := by simp [freshSlots]
  obtain ⟨hn, hs⟩ := foldl_noteRecord_noted (located 0 records) (freshSlots numbers, a)
    (Noted.fresh numbers a) hfresh
  exact ⟨heldBy_eq_noted hn.inStep hs, hn.outstanding_eq⟩

/-! ### The balance -/

/-- A reader of the session and its entry: an open one holds two lists for each
noted field, a closed one holds none. -/
structure Tracks (M : LoadedModule) (n : Nat) (r : OpenReader) (e : ReaderEntry) : Prop where
  allocator_eq : r.allocator = e.allocator
  message_mem : r.message ∈ M.plan.messages
  inStep : M.InStep r.message r.reader
  allocator_lt : r.message.needsAllocator = true → r.allocator < n
  held_eq : heldBy (M.slots r.message r.reader) =
    if e.closed then 0 else 2 * (notedFields e.slots).length

/-- The session has given what the ledger says, and its `n` allocators have
outstanding what they are owed. -/
structure Balanced (M : LoadedModule) (n : Nat) (s : Session) (l : Ledger) : Prop where
  loaded_eq : s.loaded = M
  length_allocators : s.allocators.length = n
  length_readers : s.readers.length = l.readers.length
  length_lists : s.lists.length = l.lists.length
  tracks : ∀ (i : Nat) r e, s.readers[i]? = some r → l.readers[i]? = some e → Tracks M n r e
  allocator_lt : ∀ e ∈ l.lists, e.allocator < n
  outstanding_eq : ∀ (k : Nat) a, s.allocators[k]? = some a → a.outstanding = l.owed k

theorem Balanced.start (M : LoadedModule) (n : Nat) : Balanced M n (Session.start M n) {} where
  loaded_eq := rfl
  length_allocators := by simp [Session.start]
  length_readers := rfl
  length_lists := rfl
  tracks := by simp [Session.start]
  allocator_lt := by simp
  outstanding_eq := by
    intro k a ha
    rw [List.eq_of_mem_replicate (List.mem_of_getElem? ha)]
    rfl

variable {M : LoadedModule} {n k : Nat} {s : Session} {l : Ledger} {a a' : Allocator}
  {m : MessagePlan}

/-- Where one allocator changes, the others are owed what they were. -/
theorem outstanding_set {allocators : List Allocator} {owed owed' : Nat → Nat}
    (h : ∀ (k : Nat) a, allocators[k]? = some a → a.outstanding = owed k)
    (hk : ∀ a, allocators[k]? = some a → a'.outstanding = owed' k)
    (hne : ∀ j, j ≠ k → owed' j = owed j) :
    ∀ (j : Nat) b, (allocators.set k a')[j]? = some b → b.outstanding = owed' j := by
  intro j b hb
  by_cases hj : j = k
  · subst hj
    rw [List.getElem?_set_self'] at hb
    obtain ⟨a, ha, rfl⟩ := Option.map_eq_some_iff.mp hb
    exact hk a ha
  · rw [List.getElem?_set_ne (Ne.symm hj)] at hb
    rw [hne j hj]
    exact h j b hb

theorem set_of_getElem? {allocators : List Allocator} (h : allocators[k]? = some a) :
    allocators.set k a = allocators := by
  obtain ⟨hlt, rfl⟩ := List.getElem?_eq_some_iff.mp h
  exact List.set_getElem_self hlt

/-- An allocator for a message is one of the session's, unless the message has
no fields. -/
theorem allocatorFor?_cases (h : s.allocatorFor? m k = some a) :
    s.allocators[k]? = some a ∨ s.allocators[k]? = none ∧ m.needsAllocator = false ∧ a = {} := by
  unfold Session.allocatorFor? at h
  cases ha : s.allocators[k]? with
  | some b =>
    rw [ha] at h
    exact .inl h
  | none =>
    rw [ha] at h
    by_cases hm : m.needsAllocator = true
    · simp [hm] at h
    · simp only [Bool.not_eq_true] at hm
      rw [hm] at h
      exact .inr ⟨rfl, hm, (Option.some.inj h).symm⟩

theorem eq_of_allocatorFor? {b : Allocator} (h : s.allocatorFor? m k = some a)
    (hb : s.allocators[k]? = some b) : a = b := by
  rcases allocatorFor?_cases h with ha | ⟨hno, -, -⟩
  · exact Option.some.inj (ha.symm.trans hb)
  · rw [hb] at hno
    cases hno

theorem set_of_allocatorFor? (h : s.allocatorFor? m k = some a) :
    s.allocators.set k a = s.allocators := by
  rcases allocatorFor?_cases h with ha | ⟨hnone, -, -⟩
  · exact set_of_getElem? ha
  · exact List.set_eq_of_length_le (List.getElem?_eq_none_iff.mp hnone)

/-- What a command comes to: it fails, for another reason than that too much
was given back, and changes at most what was written; or it succeeds and keeps
the balance. -/
inductive Outcome (M : LoadedModule) (n : Nat) (s : Session) (l : Ledger) (c : Command) :
    Except SessionError Reply × Session → Prop
  | refused {e : SessionError} (writer : Writer) (he : ∀ f, e ≠ .codec (.release f)) :
      Outcome M n s l c (.error e, { s with writer })
  | done {reply : Reply} {s' : Session} (hb : Balanced M n s' (l.after c (.ok reply, s'))) :
      Outcome M n s l c (.ok reply, s')

/-! ### Decoding -/

theorem notes_of_ne {e : ReaderEntry} {j : Nat} (h : j ≠ e.allocator) : e.notes j = [] := by
  rw [ReaderEntry.notes, if_neg fun hj => h hj.1.symm]

theorem owed_append_reader (l : Ledger) (e : ReaderEntry) (j : Nat) :
    { l with readers := l.readers ++ [e] : Ledger }.owed j =
      l.owed j + 2 * (e.notes j).length := by
  simp only [Ledger.owed, Ledger.notes, Ledger.loans, List.flatMap_append, List.flatMap_singleton,
    List.length_append]
  omega

/-- Where a reader was added, the allocator is owed what the reader holds. -/
theorem Balanced.add_reader {r : ReaderObject} {bytes : Bytes} (h : Balanced M n s l)
    (hm : m ∈ M.plan.messages) (hnames : M.ScanNames m) (ha : s.allocatorFor? m k = some a)
    (hd : M.decode m bytes a = (.ok r, a')) :
    Balanced M n
      { s with allocators := s.allocators.set k a', readers := s.readers ++ [⟨m, k, r⟩] }
      { l with readers := l.readers ++ [⟨k, M.slots m r, false⟩] } := by
  obtain ⟨hheld, hout⟩ := heldBy_of_decode (LoadedModule.numbered_of_decode hnames hm hd)
  refine ⟨h.loaded_eq, ?_, ?_, h.length_lists, ?_, h.allocator_lt, ?_⟩
  · rw [List.length_set, h.length_allocators]
  · simp only [List.length_append, List.length_singleton, h.length_readers]
  · intro i r e hr he
    rcases Nat.lt_or_ge i s.readers.length with hi | hi
    · rw [List.getElem?_append_left hi] at hr
      rw [List.getElem?_append_left (h.length_readers ▸ hi)] at he
      exact h.tracks i r e hr he
    · rw [List.getElem?_append_right hi] at hr
      rw [List.getElem?_append_right (h.length_readers ▸ hi)] at he
      obtain rfl := List.mem_singleton.mp (List.mem_of_getElem? hr)
      obtain rfl := List.mem_singleton.mp (List.mem_of_getElem? he)
      refine ⟨rfl, hm, LoadedModule.inStep_of_decode hnames hm hd, fun hm => ?_, hheld⟩
      rcases allocatorFor?_cases ha with hk | ⟨-, hno, -⟩
      · exact h.length_allocators ▸ (List.getElem?_eq_some_iff.mp hk).1
      · rw [hm] at hno
        cases hno
  · refine outstanding_set h.outstanding_eq ?_ fun j hj => ?_
    · intro b hb
      obtain rfl := eq_of_allocatorFor? ha hb
      rw [owed_append_reader, hout, hheld, h.outstanding_eq k a hb, ReaderEntry.notes,
        if_pos ⟨rfl, rfl⟩]
      rfl
    · rw [owed_append_reader, notes_of_ne hj]
      rfl

/-- A scan that fails changes nothing, and one that succeeds adds a reader. -/
theorem Balanced.decode (h : Balanced M n s l) (hm : m ∈ M.plan.messages)
    (hnames : M.ScanNames m) (ha : s.allocatorFor? m k = some a) (bytes : Bytes) (name : String)
    (data : Option Bytes) : Outcome M n s l (.decode name data k) (s.decode m bytes k a) := by
  obtain rfl := h.loaded_eq
  unfold Session.decode
  by_cases hacc : ∃ records, Accepted (m.fields.map (·.number)) bytes records
  · obtain ⟨records, hacc⟩ := hacc
    obtain ⟨r, a', hd⟩ := LoadedModule.exists_decode hnames hm hacc a
    have hlast : (s.readers ++ [⟨m, k, r⟩])[s.readers.length]? = some ⟨m, k, r⟩ := by simp
    rw [hd]
    refine .done ?_
    simp only [Ledger.after, hlast, Option.toList_some, List.map_cons, List.map_nil]
    exact h.add_reader hm hnames ha hd
  · obtain ⟨e, he, -⟩ := LoadedModule.exists_decode_error hnames hm hacc a
    rw [he]
    simp only [set_of_allocatorFor? ha]
    exact .refused s.writer (by simp)

/-! ### Accessors -/

theorem owed_append_list (l : Ledger) (j k : Nat) :
    { l with lists := l.lists ++ [⟨k, false⟩] : Ledger }.owed j =
      l.owed j + if k = j then 1 else 0 := by
  simp only [Ledger.owed, Ledger.notes, Ledger.loans, List.filter_append, List.length_append]
  by_cases hk : k = j
  · simp [hk]
    omega
  · simp [hk]

variable {i : Nat} {r : OpenReader} {e : ReaderEntry}

/-- An accessor that fails changes nothing. One that succeeds adds a list. -/
theorem Balanced.get {f : FieldPlan} (h : Balanced M n s l) (ht : Tracks M n r e)
    (hnames : M.AccessorNames r.message) (hf : f ∈ r.message.fields)
    (ha : s.allocators[k]? = some a) (i : Nat) (accessor : String) :
    Outcome M n s l (.get i accessor k) (s.get r f k a) := by
  obtain rfl := h.loaded_eq
  unfold Session.get
  rcases LoadedModule.get_cases hnames ht.message_mem hf ht.inStep a with ⟨values, hv⟩ | ⟨e, he⟩
  · rw [hv]
    refine .done ⟨h.loaded_eq, ?_, h.length_readers, ?_, h.tracks, ?_, ?_⟩
    · rw [List.length_set, h.length_allocators]
    · simp only [Ledger.after, List.length_append, List.length_singleton, h.length_lists]
    · intro e he
      rcases List.mem_append.mp he with he | he
      · exact h.allocator_lt e he
      · rw [List.mem_singleton.mp he]
        exact h.length_allocators ▸ (List.getElem?_eq_some_iff.mp ha).1
    · refine outstanding_set h.outstanding_eq ?_ fun j hj => ?_
      · intro b hb
        obtain rfl := Option.some.inj (ha.symm.trans hb)
        rw [Ledger.after, owed_append_list, if_pos rfl, ← h.outstanding_eq k a ha]
        rfl
      · rw [Ledger.after, owed_append_list, if_neg (Ne.symm hj)]
        rfl
  · rw [he]
    simp only [set_of_getElem? ha]
    exact .refused s.writer (by simp)

/-! ### Closing -/

/-- What a reader holds is what the ledger writes down for its allocator. -/
theorem Tracks.held_eq_notes (h : Tracks M n r e) :
    heldBy (M.slots r.message r.reader) = 2 * (e.notes r.allocator).length := by
  rw [h.held_eq, ReaderEntry.notes, h.allocator_eq]
  cases e.closed <;> simp

/-- A reader without an allocator holds nothing. -/
theorem heldBy_eq_zero (hm : m.needsAllocator = false) (o : ReaderObject) :
    heldBy (M.slots m o) = 0 := by
  have hfields : m.fields = [] := by simpa [MessagePlan.needsAllocator] using hm
  rw [LoadedModule.slots, hfields]
  rfl

theorem heldBy_cleared : ∀ slots : List Slot, heldBy (slots.map Slot.cleared) = 0
  | [] => rfl
  | s :: slots => by
    rw [List.map_cons, heldBy, heldBy_cleared slots]
    rfl

/-- Closing succeeds if the allocator has outstanding what the reader holds, and
leaves no notes. -/
theorem LoadedModule.close_of_held {o : ReaderObject} (hnames : M.ScanNames m)
    (hheld : heldBy (M.slots m o) ≤ a.outstanding) :
    ∃ o', M.close m o a = (none, o', ⟨a.outstanding - heldBy (M.slots m o)⟩) ∧
      M.slots m o' = (M.slots m o).map Slot.cleared := by
  have hclose := close_of_names hnames o a
  rw [Reader.close, show (M.numbered m o).slots = M.slots m o from rfl,
    closeSlots_of_held hheld] at hclose
  simp only [Prod.mk.injEq] at hclose
  obtain ⟨hnone, hslots, ha⟩ := hclose
  refine ⟨(M.close m o a).2.1, Prod.ext hnone.symm (Prod.ext rfl ha.symm), ?_⟩
  exact (congrArg Reader.slots hslots).symm

theorem Tracks.cleared {o : ReaderObject} (h : Tracks M n r e)
    (ho : M.slots r.message o = (M.slots r.message r.reader).map Slot.cleared) :
    Tracks M n { r with reader := o } { e with closed := true } where
  allocator_eq := h.allocator_eq
  message_mem := h.message_mem
  inStep := by
    intro s hs
    rw [ho] at hs
    obtain ⟨t, -, rfl⟩ := List.mem_map.mp hs
    rfl
  allocator_lt := h.allocator_lt
  held_eq := by
    rw [ho]
    exact heldBy_cleared _

/-- Closing a reader strikes out its notes. -/
theorem owed_close (he : l.readers[i]? = some e) (j : Nat) :
    { l with readers := l.readers.modify i fun e => { e with closed := true } : Ledger }.owed j +
      2 * (e.notes j).length = l.owed j := by
  obtain ⟨hlt, -⟩ := List.getElem?_eq_some_iff.mp he
  obtain ⟨before, e', after, hl, rfl, hm⟩ :=
    List.exists_of_modify (fun e : ReaderEntry => { e with closed := true }) hlt
  obtain rfl : e' = e := by simpa [hl] using he
  have hclosed : ({ e' with closed := true } : ReaderEntry).notes j = [] := by
    simp [ReaderEntry.notes]
  simp only [Ledger.owed, Ledger.notes, Ledger.loans]
  rw [hm, hl]
  simp only [List.flatMap_append, List.flatMap_cons, hclosed, List.length_append, List.length_nil]
  omega

/-- The allocator of a reader is there, and has outstanding what the reader
holds. -/
theorem Balanced.exists_allocator (h : Balanced M n s l) (hr : s.readers[i]? = some r)
    (he : l.readers[i]? = some e) :
    ∃ a, s.allocatorFor? r.message r.allocator = some a ∧
      heldBy (M.slots r.message r.reader) ≤ a.outstanding := by
  have ht := h.tracks i r e hr he
  unfold Session.allocatorFor?
  cases ha : s.allocators[r.allocator]? with
  | some a =>
    have := owed_close he r.allocator
    refine ⟨a, rfl, ?_⟩
    rw [h.outstanding_eq _ a ha, ht.held_eq_notes]
    omega
  | none =>
    have hge := List.getElem?_eq_none_iff.mp ha
    have hm : r.message.needsAllocator = false := by
      cases hm : r.message.needsAllocator with
      | false => rfl
      | true =>
        have := ht.allocator_lt hm
        have := h.length_allocators
        omega
    rw [hm]
    exact ⟨{}, rfl, (heldBy_eq_zero hm _).le⟩

/-- A reader can be closed at any time, and any number of times. -/
theorem Balanced.close (h : Balanced M n s l)
    (hM : ∀ m ∈ M.plan.messages, M.ReaderNames m) (hr : s.readers[i]? = some r) :
    ∃ s', s.run (.close i) = (.ok .done, s') ∧
      Balanced M n s' { l with readers := l.readers.modify i fun e => { e with closed := true } } := by
  have hlt := (List.getElem?_eq_some_iff.mp hr).1
  have he := List.getElem?_eq_getElem (h.length_readers ▸ hlt)
  have ht := h.tracks i r _ hr he
  obtain ⟨a, ha, hheld⟩ := h.exists_allocator hr he
  have hrun : s.run (.close i) = s.close i r a := by simp only [Session.run, hr, ha]
  obtain ⟨o, hclose, hcleared⟩ := LoadedModule.close_of_held (hM _ ht.message_mem).scan hheld
  obtain rfl := h.loaded_eq
  rw [hrun, Session.close, hclose]
  refine ⟨_, rfl, rfl, ?_, ?_, h.length_lists, ?_, h.allocator_lt, ?_⟩
  · rw [List.length_set, h.length_allocators]
  · rw [List.length_set, List.length_modify, h.length_readers]
  · intro j r' e' hr' he'
    by_cases hj : i = j
    · subst hj
      rw [List.getElem?_set_self hlt] at hr'
      rw [List.getElem?_modify_eq, he] at he'
      cases hr'
      cases he'
      exact ht.cleared hcleared
    · rw [List.getElem?_set_ne hj] at hr'
      rw [List.getElem?_modify_ne _ _ hj] at he'
      exact h.tracks j r' e' hr' he'
  · refine outstanding_set h.outstanding_eq ?_ fun j hj => ?_
    · intro b hb
      obtain rfl := eq_of_allocatorFor? ha hb
      have := owed_close he r.allocator
      have := h.outstanding_eq _ a hb
      have := ht.held_eq_notes
      simp only
      omega
    · have := owed_close he j
      rw [notes_of_ne (ht.allocator_eq ▸ hj)] at this
      exact this

/-! ### Giving lists back -/

theorem owed_release {e : ListEntry} (he : l.lists[i]? = some e) (hopen : e.released = false)
    (j : Nat) :
    { l with lists := l.lists.modify i fun e => { e with released := true } : Ledger }.owed j +
      (if e.allocator = j then 1 else 0) = l.owed j := by
  obtain ⟨hlt, -⟩ := List.getElem?_eq_some_iff.mp he
  obtain ⟨before, e', after, hl, rfl, hm⟩ :=
    List.exists_of_modify (fun e : ListEntry => { e with released := true }) hlt
  obtain rfl : e' = e := by simpa [hl] using he
  simp only [Ledger.owed, Ledger.notes, Ledger.loans]
  rw [hm, hl]
  simp only [List.filter_append, List.filter_cons, List.length_append, hopen]
  by_cases hj : e'.allocator = j
  · simp [hj]
    omega
  · simp [hj]

/-- A list that is lent can be given back. -/
theorem Balanced.release {e : ListEntry} (h : Balanced M n s l) (he : l.lists[i]? = some e)
    (hopen : e.released = false) :
    ∃ s', s.run (.release i e.allocator) = (.ok .done, s') ∧
      Balanced M n s' { l with lists := l.lists.modify i fun e => { e with released := true } } := by
  have hlt := (List.getElem?_eq_some_iff.mp he).1
  have hlist := List.getElem?_eq_getElem (h.length_lists ▸ hlt)
  have hk : e.allocator < s.allocators.length :=
    h.length_allocators ▸ h.allocator_lt e (List.mem_of_getElem? he)
  have ha := List.getElem?_eq_getElem hk
  have howed := owed_release he hopen e.allocator
  rw [if_pos rfl] at howed
  have hout := h.outstanding_eq _ _ ha
  have hrel : s.allocators[e.allocator].release =
      .ok ⟨s.allocators[e.allocator].outstanding - 1⟩ := by
    rw [Allocator.release, if_neg (by omega)]
  simp only [Session.run, hlist, ha, hrel]
  refine ⟨_, rfl, h.loaded_eq, ?_, h.length_readers, ?_, h.tracks, ?_, ?_⟩
  · rw [List.length_set, h.length_allocators]
  · rw [List.length_set, List.length_modify, h.length_lists]
  · intro e' he'
    obtain ⟨j, hj⟩ := List.mem_iff_getElem?.mp he'
    rw [List.getElem?_modify] at hj
    obtain ⟨e₀, he₀, rfl⟩ := Option.map_eq_some_iff.mp hj
    have := h.allocator_lt e₀ (List.mem_of_getElem? he₀)
    split <;> exact this
  · refine outstanding_set h.outstanding_eq ?_ fun j hj => ?_
    · intro b hb
      show s.allocators[e.allocator].outstanding - 1 = _
      omega
    · have := owed_release he hopen j
      rw [if_neg (Ne.symm hj)] at this
      exact this

/-! ### One command, and many -/

theorem Ledger.after_error (l : Ledger) (c : Command) (e : SessionError) (s : Session) :
    l.after c (.error e, s) = l := by
  cases c <;> rfl

theorem object_error {name : String} {fields : List (String × Option (List Operand))}
    {e : SessionError} (h : s.object name fields = .error e) : e = .unknownName := by
  unfold Session.object at h
  split at h
  · cases h
  · cases h
    rfl

/-- Writing reaches neither readers nor lists nor allocators. -/
theorem Balanced.written (h : Balanced M n s l) (writer : Writer) (lastEncoded : Bytes) :
    Balanced M n { s with writer, lastEncoded } l :=
  ⟨h.loaded_eq, h.length_allocators, h.length_readers, h.length_lists, h.tracks, h.allocator_lt,
    h.outstanding_eq⟩

/-- **One command.** A permitted command changes at most what was written, or
keeps the balance. -/
theorem run_outcome {c : Command} (hM : ∀ m ∈ M.plan.messages, M.ReaderNames m)
    (h : Balanced M n s l) (hc : l.Permits c) : Outcome M n s l c (s.run c) := by
  cases c with
  | encode name fields =>
    rw [Session.run]
    split
    next e he => exact .refused s.writer (by simp [object_error he])
    next m o ho =>
      unfold Session.encode
      split
      next => exact .done (h.written s.writer _)
      next => exact .refused s.writer (by simp)
      next => exact .refused s.writer (by simp)
  | encodeTo name fields =>
    rw [Session.run]
    split
    next e he => exact .refused s.writer (by simp [object_error he])
    next m o ho =>
      unfold Session.encodeTo
      split
      next => exact .done (h.written _ _)
      next writer _ => exact .refused writer (by simp)
  | decode name data k =>
    rw [Session.run]
    split
    next => exact .refused s.writer (by simp)
    next m hm =>
      have hmem : m ∈ M.plan.messages := h.loaded_eq ▸ List.mem_of_find?_eq_some hm
      split
      next a ha => exact h.decode hmem (hM m hmem).scan ha _ name data
      next => exact .refused s.writer (by simp)
  | get i accessor k =>
    rw [Session.run]
    split
    next r a hr ha =>
      have hlt := (List.getElem?_eq_some_iff.mp hr).1
      have ht := h.tracks i r _ hr (List.getElem?_eq_getElem (h.length_readers ▸ hlt))
      split
      next f hf =>
        exact h.get ht (hM _ ht.message_mem).accessor (List.mem_of_find?_eq_some hf) ha i accessor
      next => exact .refused s.writer (by simp)
    next => exact .refused s.writer (by simp)
  | storage i offsets wires =>
    rw [Session.run]
    split
    next => exact .refused s.writer (by simp)
    next r hr =>
      split
      next => exact .done h
      next => exact .refused s.writer (by simp)
  | release i k =>
    cases he : l.lists[i]? with
    | none =>
      have hnone : s.lists[i]? = none := by
        rw [List.getElem?_eq_none_iff, h.length_lists, ← List.getElem?_eq_none_iff]
        exact he
      have hrun : s.run (.release i k) = (.error .noSuchHandle, s) := by
        simp only [Session.run, hnone]
      rw [hrun]
      exact .refused s.writer (by simp)
    | some e =>
      obtain ⟨rfl, hopen⟩ := hc e he
      obtain ⟨s', hok, hb⟩ := h.release he hopen
      rw [hok]
      exact .done hb
  | close i =>
    cases hr : s.readers[i]? with
    | none =>
      have hrun : s.run (.close i) = (.error .noSuchHandle, s) := by simp only [Session.run, hr]
      rw [hrun]
      exact .refused s.writer (by simp)
    | some r =>
      obtain ⟨s', hok, hb⟩ := h.close hM hr
      rw [hok]
      exact .done hb

/-- **Many commands.** The balance is kept along every history. -/
theorem History.balanced (hM : ∀ m ∈ M.plan.messages, M.ReaderNames m) (h : History M n s l) :
    Balanced M n s l := by
  induction h with
  | start => exact Balanced.start M n
  | @step s l c h hc ih =>
    have hout := run_outcome hM ih hc
    generalize s.run c = p at hout ⊢
    cases hout with
    | refused writer =>
      rw [l.after_error]
      exact ih.written writer s.lastEncoded
    | done hb => exact hb

theorem Ledger.owed_eq_zero (hr : ∀ e ∈ l.readers, e.closed = true)
    (hl : ∀ e ∈ l.lists, e.released = true) (k : Nat) : l.owed k = 0 := by
  have hnotes : l.notes k = [] := by
    rw [notes, List.flatMap_eq_nil_iff]
    intro e he
    simp [ReaderEntry.notes, hr e he]
  have hloans : l.loans k = [] := by
    rw [loans, List.filter_eq_nil_iff]
    intro e he
    simp [hl e he]
  rw [owed, hnotes, hloans]
  rfl

/-- **Allocators have outstanding what they are owed.** Let the names of all
reader classes of a module hold. After any permitted commands, in any order and
whether they succeeded or failed, each allocator has outstanding two lists for
each noted field of an open reader that was decoded with it, and one for each of
its lists that was not given back. No permitted command gives back too much, one
that fails changes nothing but what was written, readers can be closed and lists
given back, and when all of them are, nothing is outstanding. -/
theorem outstanding_eq_owed (hM : ∀ m ∈ M.plan.messages, M.ReaderNames m)
    (h : History M n s l) :
    s.allocators.length = n ∧
    (∀ (k : Nat) a, s.allocators[k]? = some a →
      a.outstanding = 2 * (l.notes k).length + (l.loans k).length) ∧
    (∀ c, l.Permits c → ∀ e, (s.run c).1 = .error e →
      (∀ f, e ≠ .codec (.release f)) ∧
        (s.run c).2 = { s with writer := (s.run c).2.writer }) ∧
    (∀ i < l.readers.length, (s.run (.close i)).1 = .ok .done) ∧
    (∀ (i : Nat) x, l.lists[i]? = some x → x.released = false →
      (s.run (.release i x.allocator)).1 = .ok .done) ∧
    ((∀ x ∈ l.readers, x.closed = true) → (∀ x ∈ l.lists, x.released = true) →
      ∀ count ∈ s.outstanding, count = 0) := by
  have hb := h.balanced hM
  refine ⟨hb.length_allocators, hb.outstanding_eq, ?_, ?_, ?_, ?_⟩
  · intro c hc e he
    have hout := run_outcome hM hb hc
    generalize s.run c = p at hout he ⊢
    cases hout with
    | refused writer hne =>
      cases he
      exact ⟨hne, rfl⟩
    | done => cases he
  · intro i hi
    have hr := List.getElem?_eq_getElem (hb.length_readers ▸ hi)
    obtain ⟨s', hrun, -⟩ := hb.close hM hr
    rw [hrun]
  · intro i x hx hopen
    obtain ⟨s', hrun, -⟩ := hb.release hx hopen
    rw [hrun]
  · intro hreaders hlists count hcount
    obtain ⟨a, ha, rfl⟩ := List.mem_map.mp hcount
    obtain ⟨k, hk⟩ := List.mem_iff_getElem?.mp ha
    rw [hb.outstanding_eq k a hk, Ledger.owed_eq_zero hreaders hlists]

/-- A reader decoded with the first of two allocators, a list from the second,
and a message that cannot be decoded. -/
theorem outstanding_eq_owed_two :
    ∃ (M : LoadedModule) (s : Session) (l : Ledger), (∀ m ∈ M.plan.messages, M.ReaderNames m) ∧
      History M 2 s l ∧ s.outstanding = [2, 1] ∧
      (∀ (k : Nat) a, s.allocators[k]? = some a →
        a.outstanding = 2 * (l.notes k).length + (l.loans k).length) ∧
      (l.notes 0).length = 1 ∧ (l.loans 1).length = 1 ∧ (s.run (.close 0)).1 = .ok .done := by
  let M := levelsModule [("Order", [("levels", 7)])] {} (by decide +kernel)
  have hM : ∀ m ∈ M.plan.messages, M.ReaderNames m := by decide +kernel
  have h := (((@History.start M 2).step
    (c := .decode "OrderReader" (some [0x3A, 2, 2, 0, 0x38, 1]) 0) trivial).step
    (c := .get 0 "get_levels" 1) trivial).step
    (c := .decode "OrderReader" (some [0x38, 1, 0x3A, 5]) 1) trivial
  obtain ⟨-, hout, -, hclose, -, -⟩ := outstanding_eq_owed hM h
  refine ⟨M, _, _, hM, h, ?_, hout, ?_, ?_, hclose 0 ?_⟩
  · decide +kernel
  · decide +kernel
  · decide +kernel
  · decide +kernel

/-- Two fields of a reader that share their notes: both were noted, and two lists
are outstanding for them, not four. -/
theorem outstanding_of_shared :
    ∃ (s : Session) (l : Ledger), History sharedNotes 1 s l ∧ (l.notes 0).length = 2 ∧
      (l.loans 0).length = 0 ∧ s.outstanding = [2] := by
  have h := (@History.start sharedNotes 1).step
    (c := .decode "orderreader" (some [0x08, 5, 0x10, 6]) 0) trivial
  refine ⟨_, _, h, ?_, ?_, ?_⟩
  · decide +kernel
  · decide +kernel
  · decide +kernel

end WireSchema
