/-
# When a module can be generated

Where every declaration and every repeated enum field has a name, the one
thing that can go wrong is a field whose enum the file does not declare.

A field on its own has a plan if and only if its enum is declared, because the
scope finds exactly the enums of the file (`draftPlan_of_declares`,
`draftPlan_of_not_declares`). So a message is planned if all its fields are
covered, and else fails at the first one that is not (`exists_build_ok`,
`build_error_of_first`); the same holds of the messages of a file in order
(`exists_mapM_build_ok`, `mapM_of_error`). The error names the class that the
message claimed in this run (`ClaimsClass`). The enums of the file are always
found again, and builders are never used out of order.

Key definitions: `SchemaFile.Declares`, `SchemaFile.Named`,
`SchemaFile.FirstUndeclared`, `ClaimsClass`.
Key theorems: `exists_build_ok`, `build_error_of_first`,
`generate_ok_of_covers`, `generate_error_of_first`, `generate_ok_iff_declares`.
-/

import WireSchema.Proofs.Generation

namespace WireSchema

/-! ### Declared enums -/

namespace SchemaFile

/-- The file declares an enum of this full name. Dots in front of full names do
not count. -/
def Declares (file : SchemaFile) (fullName : String) : Prop :=
  ∃ e ∈ file.enums, dropDots fullName = dropDots e.fullName

instance (file : SchemaFile) (fullName : String) : Decidable (file.Declares fullName) :=
  inferInstanceAs (Decidable (∃ e ∈ file.enums, _))

/-- Code for the field needs no enum that the file does not declare. -/
def Covers (file : SchemaFile) (f : Field) : Prop :=
  f.isRepeatedEnum = true → file.Declares f.typeName

instance (file : SchemaFile) (f : Field) : Decidable (file.Covers f) :=
  inferInstanceAs (Decidable (_ → _))

/-- Nothing that gets an identifier is without a name. -/
structure Named (file : SchemaFile) : Prop where
  enums : ∀ e ∈ file.enums, flatName e.fullName file.package ≠ ""
  messages : ∀ m ∈ file.messages, flatName m.fullName file.package ≠ ""
  fields : ∀ m ∈ file.messages, ∀ f ∈ m.fields, f.isRepeatedEnum = true → f.name ≠ ""

/-- In the order of messages and fields, `f` in message `m` after the messages
`before` is the first repeated enum field whose enum is not declared. -/
structure FirstUndeclared (file : SchemaFile) (before : List MessageDecl) (m : MessageDecl)
    (f : Field) : Prop where
  messages_eq : ∃ after, file.messages = before ++ m :: after
  fields_eq : ∃ front back, m.fields = front ++ f :: back ∧ ∀ g ∈ front, file.Covers g
  covers_before : ∀ m' ∈ before, ∀ g ∈ m'.fields, file.Covers g
  not_covers : ¬ file.Covers f

end SchemaFile

/-- The class name that a message claims, once the enums of its file and the
messages before it have claimed theirs. -/
def ClaimsClass (file : SchemaFile) (options : Options) (before : List MessageDecl)
    (m : MessageDecl) (name : String) : Prop :=
  ∃ scope s ps t u, EnumScope.ofFile file {} = .ok scope s ∧
    before.mapM (MessagePlan.build scope file.package options) s = .ok ps t ∧
    Gen.claim (dropDots m.fullName) (flatName m.fullName file.package) t = .ok name u

/-- A list with an element that fails a test has a first one. -/
theorem exists_first_not {α : Type} {P : α → Prop} : ∀ {xs : List α}, (¬ ∀ x ∈ xs, P x) →
    ∃ front x back, xs = front ++ x :: back ∧ (∀ y ∈ front, P y) ∧ ¬ P x
  | [], h => absurd (by simp) h
  | x :: xs, h => by
    by_cases hx : P x
    · have hrest : ¬ ∀ y ∈ xs, P y := fun hall => h (List.forall_mem_cons.mpr ⟨hx, hall⟩)
      obtain ⟨front, y, back, rfl, hfront, hy⟩ := exists_first_not hrest
      exact ⟨x :: front, y, back, rfl, List.forall_mem_cons.mpr ⟨hx, hfront⟩, hy⟩
    · exact ⟨[], x, xs, rfl, by simp, hx⟩

theorem SchemaFile.exists_firstUndeclared {file : SchemaFile}
    (h : ¬ ∀ m ∈ file.messages, ∀ f ∈ m.fields, file.Covers f) :
    ∃ before m f, file.FirstUndeclared before m f := by
  obtain ⟨before, m, after, hmessages, hbefore, hm⟩ := exists_first_not h
  obtain ⟨front, f, back, hfields, hfront, hf⟩ := exists_first_not hm
  exact ⟨before, m, f, ⟨after, hmessages⟩, ⟨front, back, hfields, hfront⟩, hbefore, hf⟩

/-! ### Fields -/

variable {file : SchemaFile} {scope : EnumScope} {classes : List String} {writerClass : String}
  {d : Field × FieldNames}

theorem declares_iff_mem {fullName : String} :
    file.Declares fullName ↔ dropDots fullName ∈ enumKeys file.enums := by
  unfold SchemaFile.Declares enumKeys
  rw [List.mem_map]
  constructor
  · rintro ⟨e, he, heq⟩
    exact ⟨e, he, heq.symm⟩
  · rintro ⟨e, he, heq⟩
    exact ⟨e, he, heq.symm⟩

theorem exists_find?_of_declares {fullName : String}
    (hl : scope.Lists (enumKeys file.enums) classes) (h : file.Declares fullName) :
    ∃ name, scope.find? fullName = some name := by
  cases hf : scope.find? fullName with
  | some name => exact ⟨name, rfl⟩
  | none => exact absurd (declares_iff_mem.mp h) ((hl.find?_eq_none_iff fullName).mp hf)

theorem draftPlan_of_declares (hl : scope.Lists (enumKeys file.enums) classes)
    (h : file.Declares d.1.typeName) : ∃ p, draftPlan scope writerClass d = .ok p := by
  obtain ⟨name, hname⟩ := exists_find?_of_declares hl h
  exact ⟨⟨d.2, d.1.number, name⟩, by simp [draftPlan, EnumScope.resolve, hname, Except.map]⟩

/-- Fields that are covered have plans, those of them that have code. -/
theorem draftPlan_of_covers {drafts : List (Field × FieldNames)} {fields : List Field}
    (hl : scope.Lists (enumKeys file.enums) classes)
    (hdrafts : drafts.map (·.1) = fields.filter (·.isRepeatedEnum))
    (hcovers : ∀ f ∈ fields, file.Covers f) :
    ∀ d ∈ drafts, ∃ p, draftPlan scope writerClass d = .ok p := by
  intro d hd
  have hmem : d.1 ∈ fields.filter (·.isRepeatedEnum) := hdrafts ▸ List.mem_map_of_mem hd
  obtain ⟨hfield, henum⟩ := List.mem_filter.mp hmem
  exact draftPlan_of_declares hl (hcovers d.1 hfield henum)

theorem draftPlan_of_not_declares (hl : scope.Lists (enumKeys file.enums) classes)
    (h : ¬ file.Declares d.1.typeName) :
    draftPlan scope writerClass d =
      .error (.codegen ⟨.undefinedEnum d.1.typeName, writerClass, d.1.name⟩) := by
  have hnone := (hl.find?_eq_none_iff d.1.typeName).mpr fun hm => h (declares_iff_mem.mpr hm)
  simp [draftPlan, EnumScope.resolve, hnone, Except.map]

/-- The first field without a plan decides the error. -/
theorem mapM_except_of_error {α β ε : Type} {g : α → Except ε β} {front back : List α} {a : α}
    {e : ε} (hfront : ∀ x ∈ front, ∃ y, g x = .ok y) (ha : g a = .error e) :
    (front ++ a :: back).mapM g = .error e := by
  obtain ⟨out, hout⟩ := exists_mapM_except_ok hfront
  rw [List.mapM_append, List.mapM_cons, hout, ha]
  rfl

/-! ### Messages -/

variable {package : Option String} {options : Options} {m : MessageDecl}

/-- A message with names gets its classes and identifiers; what comes of it then
depends on the plans of its fields alone. -/
theorem build_of_named (scope : EnumScope) (options : Options) (s : GenState)
    (hm : flatName m.fullName package ≠ "")
    (hfields : ∀ f ∈ m.fields, f.isRepeatedEnum = true → f.name ≠ "") :
    ∃ name s₁, Gen.claim (dropDots m.fullName) (flatName m.fullName package) s = .ok name s₁ ∧
      ∃ drafts : List (Field × FieldNames),
        drafts.map (·.1) = m.fields.filter (·.isRepeatedEnum) ∧
        (∀ plans, drafts.mapM (draftPlan scope name) = .ok plans →
          ∃ p t, MessagePlan.build scope package options m s = .ok p t) ∧
        ∀ e, drafts.mapM (draftPlan scope name) = .error e →
          ∃ t, MessagePlan.build scope package options m s = .error e t := by
  obtain ⟨name, s₁, h₁, hname, -⟩ := Gen.claim_of_ne s (dropDots m.fullName) hm
  obtain ⟨wireName, s₂, h₂, -, -⟩ := Gen.claim_of_ne s₁ (dropDots m.fullName)
    (show name ++ options.wireSuffix ≠ "" by simp [hname])
  obtain ⟨readerName, s₃, h₃, -, -⟩ := Gen.claim_of_ne s₂ (dropDots m.fullName)
    (show name ++ options.readerSuffix ≠ "" by simp [hname])
  obtain ⟨bs, s₄, h₄⟩ := startBuilders_of_ne wireName name m.fields
    ⟨reservedMembers ++ s₃.names.used⟩ s₃ hfields
  obtain ⟨drafts, -, rfl, hdrafts, -, -⟩ := startBuilders_ok h₄
  refine ⟨name, s₁, h₁, drafts, hdrafts, fun plans hplans => ?_, fun e he => ?_⟩
  · rw [build_of_started h₁ h₂ h₃ h₄, planFields_begin, hplans]
    exact ⟨_, _, rfl⟩
  · refine ⟨s₄, ?_⟩
    rw [build_of_started h₁ h₂ h₃ h₄, planFields_begin, he]

/-- A message whose fields are covered is planned. -/
theorem exists_build_ok (hl : scope.Lists (enumKeys file.enums) classes) (options : Options)
    (s : GenState) (hm : flatName m.fullName package ≠ "")
    (hfields : ∀ f ∈ m.fields, f.isRepeatedEnum = true → f.name ≠ "")
    (hcovers : ∀ f ∈ m.fields, file.Covers f) :
    ∃ p t, MessagePlan.build scope package options m s = .ok p t := by
  obtain ⟨name, s₁, -, drafts, hdrafts, hok, -⟩ := build_of_named scope options s hm hfields
  obtain ⟨plans, hplans⟩ := exists_mapM_except_ok (draftPlan_of_covers hl hdrafts hcovers)
  exact hok plans hplans

/-- A message fails at its first field that is not covered, with the name of the
class that it claimed. -/
theorem build_error_of_first {f : Field} {front back : List Field}
    (hl : scope.Lists (enumKeys file.enums) classes) (options : Options)
    (s : GenState) (hm : flatName m.fullName package ≠ "")
    (hfields : ∀ f ∈ m.fields, f.isRepeatedEnum = true → f.name ≠ "")
    (heq : m.fields = front ++ f :: back) (hfront : ∀ g ∈ front, file.Covers g)
    (hf : ¬ file.Covers f) :
    ∃ name s₁ t, Gen.claim (dropDots m.fullName) (flatName m.fullName package) s = .ok name s₁ ∧
      MessagePlan.build scope package options m s =
        .error (.codegen ⟨.undefinedEnum f.typeName, name, f.name⟩) t := by
  obtain ⟨name, s₁, hclaim, drafts, hdrafts, -, herror⟩ := build_of_named scope options s hm hfields
  obtain ⟨henum, hnot⟩ : f.isRepeatedEnum = true ∧ ¬ file.Declares f.typeName := by
    simpa [SchemaFile.Covers] using hf
  rw [heq, List.filter_append, List.filter_cons_of_pos henum, List.map_eq_append_iff] at hdrafts
  obtain ⟨dfront, drest, rfl, hdfront, hdrest⟩ := hdrafts
  obtain ⟨d, dback, rfl, rfl, -⟩ := List.map_eq_cons_iff.mp hdrest
  have hplans : ∀ d ∈ dfront, ∃ p, draftPlan scope name d = .ok p :=
    draftPlan_of_covers hl hdfront hfront
  obtain ⟨t, ht⟩ := herror _ (mapM_except_of_error hplans (draftPlan_of_not_declares hl hnot))
  exact ⟨name, s₁, t, hclaim, ht⟩

theorem exists_mapM_build_ok (hl : scope.Lists (enumKeys file.enums) classes)
    (options : Options) : ∀ (messages : List MessageDecl) (s : GenState),
    (∀ m ∈ messages, flatName m.fullName package ≠ "") →
    (∀ m ∈ messages, ∀ f ∈ m.fields, f.isRepeatedEnum = true → f.name ≠ "") →
    (∀ m ∈ messages, ∀ f ∈ m.fields, file.Covers f) →
    ∃ ps t, messages.mapM (MessagePlan.build scope package options) s = .ok ps t
  | [], s, _, _, _ => ⟨[], s, rfl⟩
  | m :: messages, s, hm, hfields, hcovers => by
    rw [List.forall_mem_cons] at hm hfields hcovers
    obtain ⟨p, t, hp⟩ := exists_build_ok hl options s hm.1 hfields.1 hcovers.1
    obtain ⟨ps, u, hps⟩ := exists_mapM_build_ok hl options messages t hm.2 hfields.2 hcovers.2
    exact ⟨p :: ps, u, mapM_cons_eq_ok_iff.mpr ⟨p, t, ps, hp, hps, rfl⟩⟩

/-! ### Files -/

theorem exists_enumPlans (hl : scope.Lists (enumKeys file.enums) classes) :
    ∃ enumPlans, file.enums.mapM (enumPlan scope) = .ok enumPlans := by
  refine exists_mapM_except_ok fun e he => ?_
  obtain ⟨name, hname⟩ := exists_find?_of_declares hl ⟨e, he, rfl⟩
  exact ⟨EnumPlan.ofDecl name e, by simp [enumPlan, EnumScope.classOf, hname, Except.map]⟩

/-- A file whose fields are all covered has a module. -/
theorem generate_ok_of_covers (hnamed : file.Named) (options : Options)
    (hcovers : ∀ m ∈ file.messages, ∀ f ∈ m.fields, file.Covers f) :
    ∃ plan, (ModulePlan.generate file options).1 = .ok plan := by
  obtain ⟨scope, s, hscope⟩ := ofFile_of_ne {} hnamed.enums
  obtain ⟨classes, hl, -⟩ := ofFile_ok hscope
  obtain ⟨ps, t, hps⟩ := exists_mapM_build_ok hl options file.messages s hnamed.messages
    hnamed.fields hcovers
  obtain ⟨enumPlans, henums⟩ := exists_enumPlans hl
  exact ⟨⟨file.name, options.runtimePackage, enumPlans, ps⟩,
    generate_ok_iff.mpr ⟨scope, s, t, hscope, hps, henums, rfl, rfl⟩⟩

/-- Any other file fails at the first field that is not covered. -/
theorem generate_error_of_first (hnamed : file.Named) (options : Options)
    {before : List MessageDecl} {f : Field} (hfirst : file.FirstUndeclared before m f) :
    ∃ name, ClaimsClass file options before m name ∧
      (ModulePlan.generate file options).1 =
        .error (.codegen ⟨.undefinedEnum f.typeName, name, f.name⟩) := by
  obtain ⟨⟨after, hmessages⟩, ⟨front, back, hfields, hfront⟩, hbefore, hf⟩ := hfirst
  obtain ⟨scope, s, hscope⟩ := ofFile_of_ne {} hnamed.enums
  obtain ⟨classes, hl, -⟩ := ofFile_ok hscope
  have hmem : ∀ m' ∈ before, m' ∈ file.messages := fun m' hm' => by simp [hmessages, hm']
  have hm : m ∈ file.messages := by simp [hmessages]
  obtain ⟨ps, t, hps⟩ := exists_mapM_build_ok hl options before s
    (fun m' hm' => hnamed.messages m' (hmem m' hm'))
    (fun m' hm' => hnamed.fields m' (hmem m' hm')) hbefore
  obtain ⟨name, u, t', hclaim, herror⟩ := build_error_of_first hl options t
    (hnamed.messages m hm) (hnamed.fields m hm) hfields hfront hf
  refine ⟨name, ⟨scope, s, ps, t, u, hscope, hps, hclaim⟩, ?_⟩
  have hall : file.messages.mapM (MessagePlan.build scope file.package options) s =
      .error (.codegen ⟨.undefinedEnum f.typeName, name, f.name⟩) t' := by
    rw [hmessages]
    exact mapM_of_error hps herror
  unfold ModulePlan.generate ModulePlan.build
  rw [bind_of_ok hscope, bind_of_error hall]

/-- **Generation fails exactly on enums that are not declared.** Where nothing
is without a name, a file has a module if and only if each of its repeated enum
fields refers to an enum of the file. Otherwise the error names the first field
that does not, and the class name that its message claimed. No builder is used
out of order, and no enum of the file is without a class. -/
theorem generate_ok_iff_declares (file : SchemaFile) (options : Options) (hnamed : file.Named) :
    ((∃ plan, (ModulePlan.generate file options).1 = .ok plan) ↔
      ∀ m ∈ file.messages, ∀ f ∈ m.fields, f.isRepeatedEnum = true → file.Declares f.typeName) ∧
    ((¬ ∀ m ∈ file.messages, ∀ f ∈ m.fields, f.isRepeatedEnum = true →
        file.Declares f.typeName) →
      ∃ before m f name, file.FirstUndeclared before m f ∧
        ClaimsClass file options before m name ∧
        (ModulePlan.generate file options).1 =
          .error (.codegen ⟨.undefinedEnum f.typeName, name, f.name⟩)) ∧
    ∀ e, (ModulePlan.generate file options).1 = .error e →
      (∀ b, e ≠ .builder b) ∧ ∀ fullName, e ≠ .noClass fullName := by
  have hfail : (¬ ∀ m ∈ file.messages, ∀ f ∈ m.fields, file.Covers f) →
      ∃ before m f name, file.FirstUndeclared before m f ∧
        ClaimsClass file options before m name ∧
        (ModulePlan.generate file options).1 =
          .error (.codegen ⟨.undefinedEnum f.typeName, name, f.name⟩) := by
    intro hno
    obtain ⟨before, m, f, hfirst⟩ := SchemaFile.exists_firstUndeclared hno
    obtain ⟨name, hclaims, herror⟩ := generate_error_of_first hnamed options hfirst
    exact ⟨before, m, f, name, hfirst, hclaims, herror⟩
  refine ⟨⟨?_, generate_ok_of_covers hnamed options⟩, hfail, ?_⟩
  · rintro ⟨plan, hplan⟩
    by_contra hno
    obtain ⟨_, _, _, _, -, -, herror⟩ := hfail hno
    rw [hplan] at herror
    cases herror
  · intro e he
    by_cases hcovers : ∀ m ∈ file.messages, ∀ f ∈ m.fields, file.Covers f
    · obtain ⟨plan, hplan⟩ := generate_ok_of_covers hnamed options hcovers
      rw [hplan] at he
      cases he
    · obtain ⟨_, _, _, _, -, -, herror⟩ := hfail hcovers
      rw [herror] at he
      cases he
      simp

/-- A message with the name of an enum, and in it a field that refers to an enum
of another file. -/
def strayFile : SchemaFile where
  name := "stray.proto"
  package := some "p"
  enums := [⟨"Level", ".p.Level", [("LOW", 0)]⟩]
  messages := [⟨"M", ".p.M", [⟨"levels", .enum, 1, .repeated, "p.Level"⟩]⟩,
    ⟨"Level", ".p.Level", [⟨"id", .int32, 1, .repeated, ""⟩,
      ⟨"levels", .enum, 2, .repeated, "..p.Level"⟩, ⟨"strays", .enum, 3, .repeated, ".q.Stray"⟩,
      ⟨"others", .enum, 4, .repeated, "Level"⟩]⟩]

theorem generate_ok_iff_declares_stray : strayFile.Named ∧
    ∃ before m f, strayFile.FirstUndeclared before m f ∧ f.number = 3 ∧
      ClaimsClass strayFile {} before m "Level_2" ∧
      (ModulePlan.generate strayFile {}).1 =
        .error (.codegen ⟨.undefinedEnum ".q.Stray", "Level_2", "strays"⟩) := by
  have hnamed : strayFile.Named := ⟨by decide +kernel, by decide +kernel, by decide +kernel⟩
  have heval : (ModulePlan.generate strayFile {}).1 =
      .error (.codegen ⟨.undefinedEnum ".q.Stray", "Level_2", "strays"⟩) := by
    decide +kernel
  obtain ⟨before, m, f, name, hfirst, hclaims, herror⟩ :=
    (generate_ok_iff_declares strayFile {} hnamed).2.1 (by decide +kernel)
  have hnumber : ∀ m ∈ strayFile.messages, ∀ f ∈ m.fields, f.name = "strays" → f.number = 3 := by
    decide +kernel
  rw [heval] at herror
  simp only [Except.error.injEq, GenError.codegen.injEq, CodegenError.mk.injEq] at herror
  obtain ⟨-, rfl, hname⟩ := herror
  obtain ⟨after, hmessages⟩ := hfirst.messages_eq
  obtain ⟨front, back, hfields, -⟩ := hfirst.fields_eq
  have hf := hnumber m (by simp [hmessages]) f (by simp [hfields]) hname.symm
  exact ⟨hnamed, before, m, f, hfirst, hf, hclaims, heval⟩

end WireSchema
