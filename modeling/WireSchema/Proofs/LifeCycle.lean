/-
# The life of a builder

A builder is asked for its identifiers, resolved, asked for text and closed, in
any order and any number of times. What it answers depends on two things only:
whether it was closed before, and which class the last resolution set. So the
phase after any operations can be told from their list (`after_eq`), and with it
every answer. The identifiers are those of the start, and the registry they were
taken from is never touched again, not even when the builder is closed.

Key definitions: `FieldBuilder.Operation`, `FieldBuilder.Bench.after`,
`FieldBuilder.phaseAfter`.
Key theorems: `FieldBuilder.run_closed`, `FieldBuilder.run_emit`,
`FieldBuilder.after_eq`, `builder_lifeCycle`.
-/

import Mathlib.Data.List.Induction
import WireSchema.Proofs.Generation

namespace WireSchema
namespace FieldBuilder

/-- What can be asked of a builder. -/
inductive Operation where
  | names
  | resolve (enumClass : Option String)
  | close
  | emit (fragment : Fragment)
deriving DecidableEq, Repr

/-- What an operation that succeeds gives. -/
inductive Answer where
  | names (names : FieldNames)
  | text (text : String)
  | done
deriving DecidableEq, Repr

/-- A builder, and the registry that its identifiers were taken from. -/
structure Bench where
  registry : Registry
  builder : FieldBuilder
deriving DecidableEq, Repr

/-- The answer to an operation and the builder after it. -/
def perform (b : FieldBuilder) : Operation → Except BuilderError (Answer × FieldBuilder)
  | .names => b.names.map fun names => (.names names, b)
  | .resolve enumClass => (b.resolve enumClass).map fun b' => (.done, b')
  | .close => b.close.map fun b' => (.done, b')
  | .emit fragment => (b.emit fragment).map fun text => (.text text, b)

/-- An operation as work that can fail. -/
def Operation.run (op : Operation) : EStateM BuilderError Bench Answer := fun s =>
  match s.builder.perform op with
  | .ok (answer, b) => .ok answer { s with builder := b }
  | .error e => .error e s

/-- What a sequence of operations leaves, those that failed included. -/
def Bench.after (s : Bench) (ops : List Operation) : Bench :=
  ops.foldl (fun s op => leaves (op.run s)) s

/-- The class that an operation sets, if it is a resolution. -/
def Operation.resolution? : Operation → Option (Option String)
  | .resolve enumClass => some enumClass
  | _ => none

/-- The class that the last resolution among the operations set, if there was
one and it set one. -/
def lastResolved (ops : List Operation) : Option String :=
  (ops.filterMap Operation.resolution?).getLast?.join

/-- How far operations bring a builder that starts with these identifiers. -/
def phaseAfter (names : FieldNames) (ops : List Operation) : BuilderPhase :=
  if Operation.close ∈ ops then .closed else .active names (lastResolved ops)

variable {s t : Bench} {op : Operation} {ops : List Operation} {names : FieldNames}

/-! ### One operation -/

/-- What fails changes nothing. -/
theorem run_error {e : BuilderError} (h : op.run s = .error e t) : t = s := by
  unfold Operation.run at h
  split at h
  · cases h
  · cases h
    rfl

/-- Whether or not there are identifiers, to ask for them changes nothing. -/
theorem leaves_names (s : Bench) : leaves (Operation.names.run s) = s := by
  simp only [Operation.run, perform]
  cases s.builder.names <;> rfl

/-- Whether or not there is a text, to ask for it changes nothing. -/
theorem leaves_emit (s : Bench) (fragment : Fragment) :
    leaves ((Operation.emit fragment).run s) = s := by
  simp only [Operation.run, perform]
  cases s.builder.emit fragment <;> rfl

/-- A closed builder refuses everything. -/
theorem run_closed (h : s.builder.phase = .closed) (op : Operation) :
    op.run s = .error (if op = .close then .closedTwice else .usedAfterClose) s := by
  cases op with
  | names => simp [Operation.run, perform, FieldBuilder.names, h, Except.map]
  | resolve c => simp [Operation.run, perform, resolve, h, Except.map]
  | close => simp [Operation.run, perform, close, h, Except.map]
  | emit fragment =>
    cases fragment <;>
      simp [Operation.run, perform, emit, FieldBuilder.names, plan, h, Except.map]

/-- All but the constant is a text of the finished plan. -/
theorem run_emit {fragment : Fragment} (h : fragment ≠ .wireConst) :
    (Operation.emit fragment).run s =
      match s.builder.plan with
      | .ok plan => .ok (.text (plan.fragment fragment)) s
      | .error e => .error e s := by
  have hplan : s.builder.emit fragment = s.builder.plan.map (·.fragment fragment) := by
    unfold emit
    split
    · exact absurd rfl h
    · rfl
  simp only [Operation.run, perform, hplan]
  cases s.builder.plan <;> rfl

/-! ### Sequences of operations -/

theorem after_concat (s : Bench) (ops : List Operation) (op : Operation) :
    s.after (ops ++ [op]) = leaves (op.run (s.after ops)) := by
  simp [Bench.after]

theorem phaseAfter_of_mem (h : Operation.close ∈ ops) : phaseAfter names ops = .closed :=
  if_pos h

theorem phaseAfter_of_notMem (h : Operation.close ∉ ops) :
    phaseAfter names ops = .active names (lastResolved ops) :=
  if_neg h

theorem lastResolved_concat (ops : List Operation) (op : Operation) :
    lastResolved (ops ++ [op]) = op.resolution?.getD (lastResolved ops) := by
  cases op <;> simp [lastResolved, Operation.resolution?]

/-- **The list of operations tells the phase.** Everything else stays as it was
at the start. -/
theorem after_eq (r : Registry) (number : Int) (writerClass : String) (names : FieldNames)
    (ops : List Operation) :
    Bench.after ⟨r, number, writerClass, .active names none⟩ ops =
      ⟨r, number, writerClass, phaseAfter names ops⟩ := by
  induction ops using List.reverseRecOn with
  | nil => rfl
  | append_singleton ops op ih =>
    rw [after_concat, ih]
    by_cases hclosed : Operation.close ∈ ops
    · rw [phaseAfter_of_mem hclosed, run_closed rfl,
        phaseAfter_of_mem (List.mem_append_left _ hclosed)]
      rfl
    · rw [phaseAfter_of_notMem hclosed]
      cases op with
      | names =>
        rw [leaves_names, phaseAfter_of_notMem (by simpa using hclosed), lastResolved_concat]
        rfl
      | emit fragment =>
        rw [leaves_emit, phaseAfter_of_notMem (by simpa using hclosed), lastResolved_concat]
        rfl
      | resolve enumClass =>
        rw [phaseAfter_of_notMem (by simpa using hclosed), lastResolved_concat]
        rfl
      | close =>
        rw [phaseAfter_of_mem (by simp)]
        rfl

end FieldBuilder

open FieldBuilder

/-- **The life of a builder.** A builder is started and then goes through any
operations. The registry stays as the start left it, and an operation that fails
changes nothing. As long as the builder was not closed, its identifiers and its
constant can always be had, every other text exactly if the last resolution set
a class, and the texts are those of the identifiers taken at the start and of
that class; it can be resolved again, and closed. Once it was closed, every
operation fails. -/
theorem builder_lifeCycle {fieldName wireClass writerClass : String} {number : Int}
    {r r' : Registry} {b : FieldBuilder}
    (h : FieldBuilder.new fieldName number wireClass writerClass r = .ok b r') :
    ∃ names, FieldNames.derive fieldName wireClass r = .ok names r' ∧
      ∀ before : List Operation,
        let s := Bench.after ⟨r', b⟩ before
        s.registry = r' ∧
        (∀ op e t, Operation.run op s = .error e t → t = s) ∧
        (Operation.close ∉ before →
          Operation.names.run s = .ok (.names names) s ∧
          (Operation.emit .wireConst).run s = .ok (.text (names.wireConstText number)) s ∧
          (∀ fragment, fragment ≠ .wireConst →
            (∀ enumClass, lastResolved before = some enumClass →
              (Operation.emit fragment).run s =
                .ok (.text ((⟨names, number, enumClass⟩ : FieldPlan).fragment fragment)) s) ∧
            (lastResolved before = none →
              (Operation.emit fragment).run s =
                .error (.unresolved writerClass names.writerField) s)) ∧
          (∀ enumClass, ∃ t, (Operation.resolve enumClass).run s = .ok .done t) ∧
          ∃ t, Operation.close.run s = .ok .done t) ∧
        (Operation.close ∈ before → ∀ op, Operation.run op s =
          .error (if op = .close then .closedTwice else .usedAfterClose) s) := by
  unfold FieldBuilder.new at h
  obtain ⟨names, t, hderive, hb⟩ := bind_eq_ok_iff.mp h
  obtain ⟨rfl, rfl⟩ := pure_eq_ok_iff.mp hb
  refine ⟨names, hderive, fun before => ?_⟩
  rw [after_eq]
  refine ⟨rfl, fun op e t => run_error, fun hopen => ?_, fun hclosed => ?_⟩
  · rw [phaseAfter_of_notMem hopen]
    refine ⟨rfl, rfl, fun fragment hfragment => ⟨fun enumClass hlast => ?_, fun hlast => ?_⟩,
      fun enumClass => ⟨_, rfl⟩, ⟨_, rfl⟩⟩
    · rw [hlast, run_emit hfragment]
      rfl
    · rw [hlast, run_emit hfragment]
      rfl
  · rw [phaseAfter_of_mem hclosed]
    exact run_closed rfl

/-- Resolutions that replace each other, with a text in between. -/
def levelOperations : List Operation :=
  [.resolve (some "Old"), .emit .writer, .resolve none, .resolve (some "Level")]

theorem builder_lifeCycle_level :
    ∃ b r', FieldBuilder.new "levelCodes" 7 "TestWire" "Test" ⟨["level_codes"]⟩ = .ok b r' ∧
      (let s := Bench.after ⟨r', b⟩ levelOperations
       (Operation.emit .writerField).run s =
         .ok (.text "level_codes_2: Optional[List[Level]] = None") s) ∧
      (let s := Bench.after ⟨r', b⟩ (levelOperations ++ [.close, .names])
       Operation.close.run s = .error .closedTwice s) := by
  obtain ⟨names, r', hderive, -⟩ :=
    FieldNames.derive_of_ne ⟨["level_codes"]⟩ "TestWire" (show "levelCodes" ≠ "" by decide)
  have hnew : FieldBuilder.new "levelCodes" 7 "TestWire" "Test" ⟨["level_codes"]⟩ =
      .ok ⟨7, "Test", .active names none⟩ r' := by
    unfold FieldBuilder.new
    rw [bind_of_ok hderive]
    rfl
  have hfield : names.writerField = "level_codes_2" := by
    have hview : (match FieldNames.derive "levelCodes" "TestWire" ⟨["level_codes"]⟩ with
        | .ok names _ => some names.writerField
        | .error _ _ => none) = some "level_codes_2" := by
      decide +kernel
    rw [hderive] at hview
    exact Option.some.inj hview
  obtain ⟨names', hderive', hlife⟩ := builder_lifeCycle hnew
  obtain rfl : names = names' := by
    rw [hderive] at hderive'
    cases hderive'
    rfl
  refine ⟨_, r', hnew, ?_, ?_⟩
  · obtain ⟨-, -, hopen, -⟩ := hlife levelOperations
    obtain ⟨-, -, hemit, -⟩ := hopen (by decide)
    have htext := (hemit .writerField (by decide)).1 "Level" (by decide)
    rw [FieldPlan.fragment, FieldPlan.writerFieldText, hfield] at htext
    exact htext
  · obtain ⟨-, -, -, hclosed⟩ := hlife (levelOperations ++ [.close, .names])
    exact hclosed (by decide) .close

end WireSchema
