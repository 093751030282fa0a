/-
# Names that hold

In a generated module a name stands for what it was written for as long as it
is left alone: no local variable has it, the interpreter takes it as it is
written, and no class hides a built-in function. That is what `NumbersFound`,
`WriterNames`, `ScanNames` and `AccessorNames` ask for, each for the methods
that need it. The rest follows from how the module was generated: the classes
of messages have names of their own (`class?_of_message`), no enum class is a
message class (`class?_enumClass`), and no two fields have one constant. So the
constant of a field is its number (`constant_eq`), and an accessor makes values
of the enum of its field (`convert_eq`).

Key definitions: `LoadedModule.Declares`, `LoadedModule.Hides`,
`LoadedModule.NumbersFound`, `LoadedModule.WriterNames`,
`LoadedModule.ScanNames`, `LoadedModule.AccessorNames`.
Key theorems: `numbers_eq_of_declares`, `LoadedModule.class?_of_message`,
`LoadedModule.class?_enumClass`, `LoadedModule.constant_eq`,
`LoadedModule.convert_eq`.
-/

import WireSchema.Codec.Session
import WireSchema.Proofs.Capture
import WireSchema.Proofs.DistinctNames
import Mathlib.Data.List.Find
import Mathlib.Data.List.Pairwise

namespace WireSchema

/-- The numbers of the fields of a message that have code. -/
def MessageDecl.enumNumbers (d : MessageDecl) : List Int :=
  (d.fields.filter (·.isRepeatedEnum)).map (·.number)

theorem find?_eq_of_unique {α : Type} {p : α → Bool} {xs : List α} {a : α} (ha : a ∈ xs)
    (hp : p a = true) (h : ∀ b ∈ xs, p b = true → b = a) : xs.find? p = some a := by
  cases hf : xs.find? p with
  | none => exact absurd hp (List.find?_eq_none.mp hf a ha)
  | some b => rw [h b (List.mem_of_find?_eq_some hf) (List.find?_some hf)]

namespace LoadedModule

/-- The classes of `m` are those of the message that was declared by `d`. -/
def Declares (M : LoadedModule) (d : MessageDecl) (m : MessagePlan) : Prop :=
  ∃ i : Nat, M.file.messages[i]? = some d ∧ M.plan.messages[i]? = some m

/-- A class of the module takes the place of a built-in function. -/
def Hides (M : LoadedModule) (name : String) : Prop := ∃ c ∈ M.plan.classes, M.normal c.1 = name

instance (M : LoadedModule) (name : String) : Decidable (M.Hides name) :=
  inferInstanceAs (Decidable (∃ c ∈ _, _))

/-- The members that the enum of a field was declared with. -/
def declaredMembers (M : LoadedModule) (f : FieldPlan) : List (String × Int) :=
  ((M.enumNamed? f.enumClass).map (·.members)).getD []

/-- Whether the interpreter has a use of its own for the name: it starts and ends
with two underscores. -/
def isSpecial (name : String) : Bool :=
  ['_', '_'].isPrefixOf name.toList && ['_', '_'].isSuffixOf name.toList

/-- In a class `owner`, a method that binds `locals` finds the numbers of a
message: neither the class that holds them nor a constant goes by another name
there, and no local variable hides the class. Classes with a name that is
special are left out (`Codec.Scope`). -/
structure NumbersFound (M : LoadedModule) (m : MessagePlan) (owner : String)
    (locals : List String) : Prop where
  classes_kept : ∀ c ∈ M.plan.classes, M.normal c.1 = c.1 ∧ isSpecial c.1 = false
  class_kept : M.ident owner m.wireName = m.wireName
  not_local : m.wireName ∉ locals
  constants_kept : ∀ f ∈ m.fields, M.ident owner f.names.wireConst = f.names.wireConst ∧
    M.ident m.wireName f.names.wireConst = f.names.wireConst

/-- The names in the writer class of a message hold, and no two fields share an
attribute. Fields with a name that is special are left out too. -/
structure WriterNames (M : LoadedModule) (m : MessagePlan) : Prop where
  size : M.NumbersFound m m.name sizeLocals
  encode : M.NumbersFound m m.name encodeLocals
  len_free : ¬ M.Hides "len"
  int_free : ¬ M.Hides "int"
  attributes_nodup : (m.fields.map fun f => M.ident m.name f.names.writerField).Nodup
  not_special : ∀ f ∈ m.fields, isSpecial f.names.writerField = false

/-- The names that the scan of a message refers to hold, and no two fields
share an attribute for their notes. -/
structure ScanNames (M : LoadedModule) (m : MessagePlan) : Prop where
  numbers : M.NumbersFound m m.readerName decodeLocals
  decode_free : M.hidesDecode m = false
  offsets_nodup : (m.fields.map fun f => (M.storage m f).offsets).Nodup
  wires_nodup : (m.fields.map fun f => (M.storage m f).wires).Nodup

/-- The names that the accessors of a message refer to hold: each finds the
class of its enum, which makes a member of every value that was declared, and
which accepts integers. -/
structure AccessorNames (M : LoadedModule) (m : MessagePlan) : Prop where
  classes_kept : ∀ c ∈ M.plan.classes, M.normal c.1 = c.1 ∧ isSpecial c.1 = false
  zip_free : ¬ M.Hides "zip"
  class_kept : ∀ f ∈ m.fields, M.ident m.readerName f.enumClass = f.enumClass
  not_local : ∀ f ∈ m.fields, f.enumClass ∉ accessorLocals
  members_made : ∀ f ∈ m.fields, ∀ x ∈ M.declaredMembers f,
    M.interpreter.makesMember f.enumClass x.1 = true ∧ M.ident f.enumClass x.1 = x.1
  memberless : M.interpreter.refusesMemberless = true →
    ∀ f ∈ m.fields, M.declaredMembers f ≠ []

/-- The names in the reader class of a message hold. -/
structure ReaderNames (M : LoadedModule) (m : MessagePlan) : Prop where
  scan : M.ScanNames m
  accessor : M.AccessorNames m

section Decidable

variable (M : LoadedModule) (m : MessagePlan)

instance (owner : String) (locals : List String) : Decidable (M.NumbersFound m owner locals) :=
  decidable_of_iff (_ ∧ _ ∧ _ ∧ _)
    ⟨fun ⟨h₁, h₂, h₃, h₄⟩ => ⟨h₁, h₂, h₃, h₄⟩, fun ⟨h₁, h₂, h₃, h₄⟩ => ⟨h₁, h₂, h₃, h₄⟩⟩

instance : Decidable (M.WriterNames m) :=
  decidable_of_iff (_ ∧ _ ∧ _ ∧ _ ∧ _ ∧ _)
    ⟨fun ⟨h₁, h₂, h₃, h₄, h₅, h₆⟩ => ⟨h₁, h₂, h₃, h₄, h₅, h₆⟩,
      fun ⟨h₁, h₂, h₃, h₄, h₅, h₆⟩ => ⟨h₁, h₂, h₃, h₄, h₅, h₆⟩⟩

instance : Decidable (M.ScanNames m) :=
  decidable_of_iff (_ ∧ _ ∧ _ ∧ _)
    ⟨fun ⟨h₁, h₂, h₃, h₄⟩ => ⟨h₁, h₂, h₃, h₄⟩, fun ⟨h₁, h₂, h₃, h₄⟩ => ⟨h₁, h₂, h₃, h₄⟩⟩

instance : Decidable (M.AccessorNames m) :=
  decidable_of_iff (_ ∧ _ ∧ _ ∧ _ ∧ _ ∧ _)
    ⟨fun ⟨h₁, h₂, h₃, h₄, h₅, h₆⟩ => ⟨h₁, h₂, h₃, h₄, h₅, h₆⟩,
      fun ⟨h₁, h₂, h₃, h₄, h₅, h₆⟩ => ⟨h₁, h₂, h₃, h₄, h₅, h₆⟩⟩

instance : Decidable (M.ReaderNames m) :=
  decidable_of_iff (_ ∧ _) ⟨fun ⟨h₁, h₂⟩ => ⟨h₁, h₂⟩, fun ⟨h₁, h₂⟩ => ⟨h₁, h₂⟩⟩

end Decidable

/-! ### What generation gives -/

variable {M : LoadedModule} {m n : MessagePlan} {d : MessageDecl} {f : FieldPlan}

theorem mem_classes {p : ModulePlan} {c : String × ModuleClass} : c ∈ p.classes ↔
    (∃ e ∈ p.enums, c = (e.className, .enum e)) ∨
      ∃ m ∈ p.messages, c = (m.wireName, .numbers m) ∨ c = (m.name, .writer m) ∨
        c = (m.readerName, .reader m) := by
  simp [ModulePlan.classes, eq_comm]

/-- A message of the module was built by a scope that finds its enums. -/
theorem exists_build (hm : m ∈ M.plan.messages) : ∃ scope s d t t',
    EnumScope.ofFile M.file {} = .ok scope s ∧
      MessagePlan.build scope M.file.package M.options d t = .ok m t' ∧
      M.file.enums.mapM (enumPlan scope) = .ok M.plan.enums := by
  obtain ⟨scope, s, s', hscope, hmessages, henums, -, -⟩ := generate_ok_iff.mp M.generated
  obtain ⟨d, -, t, t', hbuild⟩ := exists_of_mem_forall₂ (forall₂_of_mapM hmessages) hm
  exact ⟨scope, s, d, t, t', hscope, hbuild, henums⟩

theorem Declares.mem (h : M.Declares d m) : m ∈ M.plan.messages := by
  obtain ⟨i, -, hi⟩ := h
  exact List.mem_of_getElem? hi

/-- The fields of the classes are the repeated enums that were declared. -/
theorem numbers_eq_of_declares (h : M.Declares d m) : m.fields.map (·.number) = d.enumNumbers := by
  obtain ⟨scope, s, s', -, hmessages, -, -, -⟩ := generate_ok_iff.mp M.generated
  obtain ⟨i, hd, hm⟩ := h
  obtain ⟨hlt, rfl⟩ := List.getElem?_eq_some_iff.mp hd
  obtain ⟨hlt', rfl⟩ := List.getElem?_eq_some_iff.mp hm
  obtain ⟨t, t', hbuild⟩ := (List.forall₂_iff_get.mp (forall₂_of_mapM hmessages)).2 i hlt hlt'
  exact (gives_members_of_build hbuild).1

theorem memberNames_nodup (hm : m ∈ M.plan.messages) : m.memberNames.Nodup := by
  obtain ⟨scope, s, d, t, t', -, hbuild, -⟩ := exists_build hm
  obtain ⟨-, r', hgives⟩ := gives_members_of_build hbuild
  exact hgives.nodup

/-- One identifier of each field, of which there are no two alike. -/
theorem nodup_of_mem_all (hm : m ∈ M.plan.messages) (name : FieldPlan → String)
    (hname : ∀ f ∈ m.fields, name f ∈ f.names.all) : (m.fields.map name).Nodup := by
  have hnodup := memberNames_nodup hm
  unfold MessagePlan.memberNames at hnodup
  generalize m.fields = fields at hname hnodup
  induction fields with
  | nil => exact List.nodup_nil
  | cons f fields ih =>
    rw [List.flatMap_cons, List.nodup_append] at hnodup
    rw [List.map_cons, List.nodup_cons]
    refine ⟨fun hmem => ?_, ih (fun g hg => hname g (List.mem_cons_of_mem f hg)) hnodup.2.1⟩
    obtain ⟨g, hg, he⟩ := List.mem_map.mp hmem
    have hin : name g ∈ fields.flatMap (·.names.all) :=
      List.mem_flatMap.mpr ⟨g, hg, hname g (List.mem_cons_of_mem f hg)⟩
    exact hnodup.2.2 _ (hname f List.mem_cons_self) _ hin he.symm

theorem wireClass_eq (hm : m ∈ M.plan.messages) (hf : f ∈ m.fields) :
    f.names.wireClass = m.wireName := by
  obtain ⟨scope, s, d, t, t', hscope, hbuild, -⟩ := exists_build hm
  obtain ⟨_, -, hwire, -⟩ := exists_of_mem_forall₂ (references_of_build hscope hbuild) hf
  exact hwire

/-- The classes of messages have names of their own, which no enum class has. -/
theorem classNames_nodup (M : LoadedModule) :
    (M.plan.messages.flatMap (·.classNames)).Nodup ∧
      ∀ e ∈ M.plan.enums, e.className ∉ M.plan.messages.flatMap (·.classNames) := by
  obtain ⟨scope, s, s', hscope, hmessages, henums, -, -⟩ := generate_ok_iff.mp M.generated
  obtain ⟨classes, hlists, hgives⟩ := ofFile_ok hscope
  have hall := (hgives.trans (gives_of_mapM_build hmessages)).nodup
  rw [List.nodup_append] at hall
  refine ⟨hall.2.1, fun e he hmem => ?_⟩
  have hclass := className_mem hlists (mapM_except_eq_ok_iff.mp henums) e he
  exact hall.2.2 _ hclass _ hmem rfl

theorem eq_of_mem_classNames (hm : m ∈ M.plan.messages) (hn : n ∈ M.plan.messages)
    {name : String} (hname : name ∈ m.classNames) (hname' : name ∈ n.classNames) : m = n := by
  by_contra hne
  have hpairs := (List.nodup_flatMap.mp M.classNames_nodup.1).2
  have : Std.Symm (Function.onFun List.Disjoint MessagePlan.classNames) :=
    ⟨fun _ _ h _ hb ha => h ha hb⟩
  exact hpairs.forall hm hn hne hname hname'

theorem classNames_nodup_of_mem (hm : m ∈ M.plan.messages) : m.classNames.Nodup :=
  (List.nodup_flatMap.mp M.classNames_nodup.1).1 m hm

/-- A class with the name of a message class is that class. -/
theorem eq_of_class_name {c c' : String × ModuleClass} (hm : m ∈ M.plan.messages)
    (hc : c = (m.wireName, .numbers m) ∨ c = (m.name, .writer m) ∨ c = (m.readerName, .reader m))
    (hc' : c' ∈ M.plan.classes) (hname : c'.1 = c.1) : c' = c := by
  have hmem : c.1 ∈ m.classNames := by
    rcases hc with rfl | rfl | rfl <;> simp [MessagePlan.classNames]
  rcases mem_classes.mp hc' with ⟨e, he, rfl⟩ | ⟨n, hn, hc'⟩
  · refine absurd ?_ (M.classNames_nodup.2 e he)
    have hname : e.className = c.1 := hname
    exact List.mem_flatMap.mpr ⟨m, hm, hname ▸ hmem⟩
  · have hmem' : c'.1 ∈ n.classNames := by
      rcases hc' with rfl | rfl | rfl <;> simp [MessagePlan.classNames]
    obtain rfl := eq_of_mem_classNames hm hn hmem (hname ▸ hmem')
    have hdistinct := classNames_nodup_of_mem hm
    simp only [MessagePlan.classNames, List.nodup_cons, List.mem_cons, not_or] at hdistinct
    rcases hc with rfl | rfl | rfl <;> rcases hc' with rfl | rfl | rfl <;> simp_all

/-- The enum of a field has a class, and all classes of that name are enums. -/
theorem exists_enum_of_field (hm : m ∈ M.plan.messages) (hf : f ∈ m.fields) :
    ∃ e ∈ M.plan.enums, e.className = f.enumClass := by
  obtain ⟨scope, s, d, t, t', hscope, hbuild, henums⟩ := exists_build hm
  obtain ⟨g, -, -, hfind⟩ := exists_of_mem_forall₂ (fields_of_build hbuild) hf
  obtain ⟨e, he, hkey, -⟩ := exists_claim_of_find? hscope hfind
  rw [EnumScope.find?, ← hkey] at hfind
  obtain ⟨q, hq, hplan⟩ := exists_of_mem_forall₂ (mapM_except_eq_ok_iff.mp henums).flip he
  have hclass := find?_of_enumPlan hplan
  rw [EnumScope.find?, hfind, Option.some.injEq] at hclass
  exact ⟨q, hq, hclass.symm⟩

/-! ### Lookups -/

theorem class?_eq_none_iff {name : String} : M.class? name = none ↔ ¬ M.Hides name := by
  simp [class?, Hides]

/-- A class of a message is found by its name. -/
theorem class?_of_message {c : String × ModuleClass} (hm : m ∈ M.plan.messages)
    (hkept : ∀ c ∈ M.plan.classes, M.normal c.1 = c.1)
    (hc : c = (m.wireName, .numbers m) ∨ c = (m.name, .writer m) ∨
      c = (m.readerName, .reader m)) : M.class? c.1 = some c.2 := by
  have hmem : c ∈ M.plan.classes := mem_classes.mpr (.inr ⟨m, hm, hc⟩)
  have hfind : M.plan.classes.reverse.find? (fun x => M.normal x.1 == c.1) = some c := by
    refine find?_eq_of_unique (List.mem_reverse.mpr hmem) (by simp [hkept c hmem]) ?_
    intro x hx hname
    have hx := List.mem_reverse.mp hx
    rw [hkept x hx, beq_iff_eq] at hname
    exact eq_of_class_name hm hc hx hname
  rw [class?, hfind, Option.map_some]

/-- The class of a field's enum is found by its name. -/
theorem class?_enumClass (hm : m ∈ M.plan.messages) (hf : f ∈ m.fields)
    (hkept : ∀ c ∈ M.plan.classes, M.normal c.1 = c.1) :
    ∃ e, M.enumNamed? f.enumClass = some e ∧ M.class? f.enumClass = some (.enum e) := by
  obtain ⟨q, hq, hclass⟩ := exists_enum_of_field hm hf
  obtain ⟨e, he⟩ : ∃ e, M.enumNamed? f.enumClass = some e := by
    rw [← Option.isSome_iff_exists, enumNamed?, List.find?_isSome]
    exact ⟨q, List.mem_reverse.mpr hq, by simp [hclass]⟩
  have hmessages : ∀ c ∈ (M.plan.messages.flatMap fun m =>
      [(m.wireName, ModuleClass.numbers m), (m.name, .writer m), (m.readerName, .reader m)]).reverse,
      ¬ (M.normal c.1 == f.enumClass) = true := by
    intro c hc hname
    obtain ⟨n, hn, hc⟩ := List.mem_flatMap.mp (List.mem_reverse.mp hc)
    have hmem : c ∈ M.plan.classes := mem_classes.mpr (.inr ⟨n, hn, by simpa using hc⟩)
    rw [hkept c hmem, beq_iff_eq] at hname
    refine M.classNames_nodup.2 q hq (List.mem_flatMap.mpr ⟨n, hn, ?_⟩)
    rw [hclass, ← hname]
    simp only [List.mem_cons, List.not_mem_nil, or_false] at hc
    rcases hc with rfl | rfl | rfl <;> simp [MessagePlan.classNames]
  have henums : ∀ e ∈ M.plan.enums.reverse,
      (M.normal e.className == f.enumClass) = (e.className == f.enumClass) := by
    intro e he
    rw [hkept (e.className, .enum e) (mem_classes.mpr (.inl ⟨e, List.mem_reverse.mp he, rfl⟩))]
  refine ⟨e, he, ?_⟩
  rw [class?, ModulePlan.classes, List.reverse_append, List.find?_append,
    List.find?_eq_none.mpr hmessages, Option.none_or, ← List.map_reverse, List.find?_map]
  simp only [Function.comp_def]
  rw [List.find?_congr henums]
  rw [enumNamed?] at he
  rw [he]
  rfl

/-! ### References -/

/-- **The constant of a field is its number.** -/
theorem constant_eq {owner : String} {locals : List String} {scope : MethodScope}
    (h : M.NumbersFound m owner locals) (hm : m ∈ M.plan.messages) (hf : f ∈ m.fields)
    (howner : scope.owner = owner) (hlocals : scope.locals = locals)
    (hpending : scope.pending ⊆ locals) : M.constant scope f = .ok f.number := by
  have hclass := class?_of_message hm (fun c hc => (h.classes_kept c hc).1) (.inl rfl)
  have hconst : m.fields.reverse.find? (fun g => M.ident m.wireName g.names.wireConst ==
      f.names.wireConst) = some f := by
    refine find?_eq_of_unique (List.mem_reverse.mpr hf)
      (by simp [(h.constants_kept f hf).2]) ?_
    intro g hg hname
    have hg := List.mem_reverse.mp hg
    rw [(h.constants_kept g hg).2, beq_iff_eq] at hname
    have hnodup := nodup_of_mem_all hm (·.names.wireConst)
      fun f _ => by simp [FieldNames.all]
    exact List.inj_on_of_nodup_map hnodup hg hf hname
  rw [constant, refer, wireClass_eq hm hf, howner, h.class_kept, hlocals,
    if_neg fun hmem => h.not_local (hpending hmem), if_neg h.not_local]
  simp only [hclass, attribute?, (h.constants_kept f hf).1, hconst, Option.map_some]

theorem members_eq_of_made {e : EnumPlan} (h : ∀ x ∈ e.members,
    M.interpreter.makesMember e.className x.1 = true ∧ M.ident e.className x.1 = x.1) :
    M.members e = e.members := by
  rw [members, List.filter_eq_self.mpr fun x hx => (h x hx).1]
  conv_rhs => rw [← List.map_id e.members]
  exact List.map_congr_left fun x hx => by simp [(h x hx).2]

/-- **An accessor makes values of the enum of its field.** -/
theorem convert_eq (h : M.AccessorNames m) (hm : m ∈ M.plan.messages) (hf : f ∈ m.fields)
    (afterBlock : Bool) (v : Int) :
    M.convert (accessorScope m afterBlock) f v = .ok (.ofInt (M.declaredMembers f) v) := by
  obtain ⟨e, he, hclass⟩ := class?_enumClass hm hf fun c hc => (h.classes_kept c hc).1
  have hdecl : M.declaredMembers f = e.members := by rw [declaredMembers, he]; rfl
  have hname : e.className = f.enumClass := by simpa using List.find?_some he
  have hmembers : M.members e = e.members :=
    members_eq_of_made fun x hx => hname ▸ h.members_made f hf x (hdecl ▸ hx)
  have hpending : f.enumClass ∉ (accessorScope m afterBlock).pending := by
    intro hmem
    refine h.not_local f hf ?_
    cases afterBlock with
    | true => cases hmem
    | false =>
      revert hmem
      simp only [accessorScope, accessorLocals, Bool.false_eq_true, if_false, List.mem_cons,
        List.not_mem_nil, or_false]
      rintro (hc | hc | hc) <;> simp [hc]
  rw [convert, refer, show (accessorScope m afterBlock).owner = m.readerName from rfl,
    h.class_kept f hf, if_neg hpending,
    if_neg (show f.enumClass ∉ (accessorScope m afterBlock).locals from h.not_local f hf)]
  simp only [hclass, hmembers]
  rw [EnumValue.fromInt, hdecl, if_neg]
  intro hrefuse
  rw [Bool.and_eq_true, List.isEmpty_iff, ← hdecl] at hrefuse
  exact h.memberless hrefuse.1 f hf hrefuse.2

end LoadedModule

/-! ### Small modules

Files with one enum and messages of its values, under names that generation
leaves as they are. The results about messages are tried on them. -/

/-- A file with an enum of two values, and messages with fields of the given
names and numbers. -/
def levelsFile (messages : List (String × List (String × Int))) : SchemaFile where
  name := "levels.proto"
  package := none
  enums := [⟨"Level", ".Level", [("LOW", 0), ("HIGH", 1)]⟩]
  messages := messages.map fun m =>
    ⟨m.1, "." ++ m.1, m.2.map fun f => ⟨f.1, .enum, f.2, .repeated, ".Level"⟩⟩

/-- A field of such a message. -/
def levelsField (wireClass : String) (f : String × Int) : FieldPlan where
  names := ⟨f.1, "_" ++ f.1, "get_" ++ f.1, "_" ++ f.1 ++ "_offsets", "_" ++ f.1 ++ "_wires",
    f.1.map Char.toUpper ++ "_WIRE", wireClass⟩
  number := f.2
  enumClass := "Level"

/-- The classes of such a message. -/
def levelsMessage (options : Options) (m : String × List (String × Int)) : MessagePlan where
  name := m.1
  wireName := m.1 ++ options.wireSuffix
  readerName := m.1 ++ options.readerSuffix
  fields := m.2.map (levelsField (m.1 ++ options.wireSuffix))

/-- The module of such a file. -/
def levelsModule (messages : List (String × List (String × Int))) (options : Options)
    (h : (ModulePlan.generate (levelsFile messages) options).1 = .ok
      ⟨"levels.proto", options.runtimePackage, [⟨"Level", [("LOW", 0), ("HIGH", 1)]⟩],
        messages.map (levelsMessage options)⟩) : LoadedModule where
  file := levelsFile messages
  options
  plan := _
  generated := h

/-- What the accessors of a message answer, field by field, if it is decoded. In
contrast to a reader, this can be compared. -/
def LoadedModule.answers (M : LoadedModule) (m : MessagePlan) (data : Bytes) :
    Option (List (Except CodecError (List EnumValue))) :=
  (M.decode m data {}).1.toOption.map fun r => m.fields.map fun f => (M.get m f r {}).1

theorem LoadedModule.exists_of_answers {M : LoadedModule} {m : MessagePlan} {data : Bytes}
    {outs : List (Except CodecError (List EnumValue))} (h : M.answers m data = some outs) :
    ∃ r a', M.decode m data {} = (.ok r, a') ∧
      m.fields.map (fun f => (M.get m f r {}).1) = outs := by
  rw [answers] at h
  cases hd : M.decode m data {} with
  | mk res a' =>
    rw [hd] at h
    cases res with
    | error e => cases h
    | ok r => exact ⟨r, a', rfl, Option.some.inj h⟩

/-- A message whose first field has the constant of the second one: in the class
`ORDERREADER`, `__X_WIRE` is the name `_ORDERREADER__X_WIRE`. -/
def mistakenNumbers : LoadedModule :=
  levelsModule [("ORDER", [("__x", 1), ("_orderreader__x", 2)])] { readerSuffix := "READER" }
    (by decide +kernel)

/-- The message of `mistakenNumbers`. -/
def mistakenMessage : MessagePlan :=
  levelsMessage { readerSuffix := "READER" } ("ORDER", [("__x", 1), ("_orderreader__x", 2)])

/-- Options under which a reader class can be named so that a private name in it
is the name of another attribute. -/
def lowerReader : Options := { readerSuffix := "reader" }

/-- A message with two fields that share their notes: in the class `orderreader`,
`__x_offsets` is the name `_orderreader__x_offsets`. -/
def sharedNotes : LoadedModule :=
  levelsModule [("order", [("_x", 1), ("orderreader__x", 2)])] lowerReader (by decide +kernel)

/-- The message of `sharedNotes`. -/
def sharedMessage : MessagePlan :=
  levelsMessage lowerReader ("order", [("_x", 1), ("orderreader__x", 2)])

end WireSchema
