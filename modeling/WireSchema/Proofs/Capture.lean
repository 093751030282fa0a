/-
# Classes and local variables

The methods of a generated class refer to other classes by name: an accessor
to the class of its enum, and the statements that size, write and recognise a
field to the class of field numbers. A method also has parameters and local
variables, and the text fixes their names. A class of the same name would be
hidden by them, and the registry of class names does not know them.

So a class can be hidden (`references_captured`). But a registry changes a
name only by a number or an underscore at its end, and no local variable ends
so (`eq_of_claim_of_mem`). A class has the name of a local variable only where
the declaration itself has it, and elsewhere every reference is to the class
(`references_not_captured`).

Key definitions: `endsPlain`.
Key theorems: `Registry.eq_of_choose`, `eq_of_claim_of_mem`,
`exists_claim_of_find?`, `references_of_build`,
`references_not_captured`, `references_captured`.
-/

import WireSchema.Codec.Scope
import WireSchema.Proofs.Generation

namespace WireSchema

/-! ### Names that a registry changes -/

/-- Whether a name ends in neither a digit nor an underscore. -/
def endsPlain (name : String) : Bool :=
  name.toList.getLast?.any fun c => !c.isDigit && c != '_'

theorem endsPlain_of_mem_accessorLocals : ∀ name ∈ accessorLocals, endsPlain name = true := by
  decide +kernel

theorem endsPlain_of_mem_locals : ∀ locals ∈ [sizeLocals, encodeLocals, decodeLocals],
    ∀ name ∈ locals, endsPlain name = true := by
  decide +kernel

theorem endsPlain_variant (base : String) (k : Nat) :
    endsPlain (Registry.variant base k) = false := by
  obtain ⟨front, c, hdigits⟩ := (Nat.toDigits 10 k).eq_nil_or_concat.resolve_left
    Nat.toDigits_ne_nil
  have hmem : c ∈ Nat.toDigits 10 k := by simp [hdigits]
  have hdigit : c.isDigit = true := Nat.isDigit_of_mem_toDigits (by decide) (by decide) hmem
  have hlast : (Registry.variant base k).toList = base.toList ++ '_' :: front ++ [c] := by
    simp [Registry.variant, Nat.repr_eq_ofList_toDigits, hdigits]
  rw [endsPlain, hlast, List.getLast?_concat]
  simp [hdigit]

theorem endsPlain_underscore (word : String) : endsPlain (word ++ "_") = false := by
  simp [endsPlain]

/-- A name that ends plainly was given as it was asked for. -/
theorem Registry.eq_of_choose {r : Registry} {candidate : String}
    (h : endsPlain (r.choose (avoidKeyword candidate)) = true) :
    r.choose (avoidKeyword candidate) = candidate := by
  rcases r.choose_cases (avoidKeyword candidate) with heq | ⟨k, heq⟩
  · rw [heq] at h ⊢
    unfold avoidKeyword at h ⊢
    split at h
    · rw [endsPlain_underscore] at h
      cases h
    · rw [if_neg ‹_›]
  · rw [heq, endsPlain_variant] at h
    cases h

variable {s s' : GenState} {fullName candidate name : String}

theorem eq_choose_of_claim (h : Gen.claim fullName candidate s = .ok name s') :
    name = s.names.choose (avoidKeyword candidate) := by
  by_cases hc : candidate = ""
  · rw [hc, Gen.claim_empty] at h
    cases h
  · have hnaming : Gen.ofNaming (Naming.request candidate) s =
        .ok (s.names.choose (avoidKeyword candidate))
          { s with names := ⟨s.names.choose (avoidKeyword candidate) :: s.names.used⟩ } := by
      simp only [Gen.ofNaming, Naming.request, s.names.request_of_ne hc]
    unfold Gen.claim at h
    rw [bind_of_ok hnaming] at h
    split at h
    · obtain ⟨_, t, -, hpure⟩ := bind_eq_ok_iff.mp h
      exact (pure_eq_ok_iff.mp hpure).1.symm
    · exact (pure_eq_ok_iff.mp h).1.symm

/-- A class that has the name of a local variable was claimed under that name. -/
theorem eq_of_claim_of_mem {locals : List String} (hlocals : ∀ x ∈ locals, endsPlain x = true)
    (h : Gen.claim fullName candidate s = .ok name s') (hname : name ∈ locals) :
    name = candidate := by
  have hplain := hlocals name hname
  rw [eq_choose_of_claim h] at hplain ⊢
  exact Registry.eq_of_choose hplain

/-! ### Classes that a field refers to -/

variable {file : SchemaFile} {options : Options} {package : Option String}
  {scope scope' : EnumScope} {m : MessageDecl} {p : MessagePlan}

/-- Each class of a scope was claimed for one of the enums. -/
theorem exists_claim_of_mem : ∀ {enums : List EnumDecl} {scope : EnumScope} {s : GenState},
    EnumScope.claimAll package enums scope s = .ok scope' s' → ∀ x ∈ scope'.classes,
    x ∈ scope.classes ∨ ∃ e ∈ enums, x.1 = dropDots e.fullName ∧
      ∃ t t', Gen.claim (dropDots e.fullName) (flatName e.fullName package) t = .ok x.2 t'
  | [], _, _, h, x, hx => by
    obtain ⟨rfl, -⟩ := pure_eq_ok_iff.mp h
    exact .inl hx
  | e :: rest, scope, s, h, x, hx => by
    unfold EnumScope.claimAll at h
    obtain ⟨name, t, hclaim, hrest⟩ := bind_eq_ok_iff.mp h
    rcases exists_claim_of_mem hrest x hx with hx | ⟨e', he', hkey, hclaim'⟩
    · rcases List.mem_cons.mp hx with rfl | hx
      · exact .inr ⟨e, List.mem_cons_self, rfl, s, t, hclaim⟩
      · exact .inl hx
    · exact .inr ⟨e', List.mem_cons_of_mem _ he', hkey, hclaim'⟩

/-- What a scope finds was claimed for the enum that it is found by. -/
theorem exists_claim_of_find? {s₀ : GenState} {typeName : String}
    (hscope : EnumScope.ofFile file s₀ = .ok scope s)
    (hfind : scope.find? typeName = some name) :
    ∃ e ∈ file.enums, dropDots e.fullName = dropDots typeName ∧
      ∃ t t', Gen.claim (dropDots e.fullName) (flatName e.fullName file.package) t =
        .ok name t' := by
  obtain ⟨front, back, heq, -⟩ := List.lookup_eq_some_iff.mp hfind
  have hmem : (dropDots typeName, name) ∈ scope.classes := by simp [heq]
  rcases exists_claim_of_mem hscope _ hmem with hnil | ⟨e, he, hkey, hclaim⟩
  · cases hnil
  · exact ⟨e, he, hkey.symm, hclaim⟩

theorem wireClass_of_derive {fieldName wireClass : String} {r r' : Registry} {n : FieldNames}
    (h : FieldNames.derive fieldName wireClass r = .ok n r') : n.wireClass = wireClass := by
  unfold FieldNames.derive at h
  iterate 6 obtain ⟨_, _, -, h⟩ := bind_eq_ok_iff.mp h
  obtain ⟨rfl, -⟩ := pure_eq_ok_iff.mp h
  rfl

/-- **The classes that the fields of a message refer to.** Each field refers to
the class of field numbers of its message, and to the class that was claimed for
its enum. -/
theorem references_of_build {s₀ s₁ : GenState}
    (hscope : EnumScope.ofFile file s₀ = .ok scope s₁)
    (h : MessagePlan.build scope file.package options m s = .ok p s') :
    List.Forall₂ (fun (d : Field) (f : FieldPlan) => f.names.wireClass = p.wireName ∧
        ∃ e ∈ file.enums, dropDots e.fullName = dropDots d.typeName ∧
          ∃ t t', Gen.claim (dropDots e.fullName) (flatName e.fullName file.package) t =
            .ok f.enumClass t')
      (m.fields.filter (·.isRepeatedEnum)) p.fields := by
  refine (fields_of_build h).imp fun d f hd => ?_
  obtain ⟨⟨r, r', hderive⟩, hfind⟩ := hd
  exact ⟨wireClass_of_derive hderive, exists_claim_of_find? hscope hfind⟩

/-! ### References -/

/-- **A class is hidden only if its declaration is named like a local
variable.** In a generated module, the class that an accessor refers to is none
of the names that the accessor binds, unless the flattened name of its enum is
one. The class of field numbers is none of the names bound where it is referred
to, unless the class of the message and the suffix make one. -/
theorem references_not_captured (file : SchemaFile) (options : Options) (plan : ModulePlan)
    (h : (ModulePlan.generate file options).1 = .ok plan) :
    List.Forall₂ (fun (m : MessageDecl) (p : MessagePlan) =>
      List.Forall₂ (fun (d : Field) (f : FieldPlan) => f.names.wireClass = p.wireName ∧
          ∃ e ∈ file.enums, dropDots e.fullName = dropDots d.typeName ∧
            (flatName e.fullName file.package ∉ accessorLocals → f.enumClass ∉ accessorLocals))
        (m.fields.filter (·.isRepeatedEnum)) p.fields ∧
      ∀ locals ∈ [sizeLocals, encodeLocals, decodeLocals],
        p.name ++ options.wireSuffix ∉ locals → p.wireName ∉ locals)
      file.messages plan.messages := by
  obtain ⟨scope, s, s', hscope, hmessages, -, -, -⟩ := generate_ok_iff.mp h
  refine (forall₂_of_mapM hmessages).imp fun m p hbuild => ?_
  obtain ⟨t, t', hbuild⟩ := hbuild
  constructor
  · refine (references_of_build hscope hbuild).imp fun d f hrefs => ?_
    obtain ⟨hwire, e, he, hkey, u, u', hclaim⟩ := hrefs
    refine ⟨hwire, e, he, hkey, fun hname hmem => hname ?_⟩
    rw [← eq_of_claim_of_mem endsPlain_of_mem_accessorLocals hclaim hmem]
    exact hmem
  · intro locals hlocals hname hmem
    obtain ⟨s₁, s₂, s₃, bs, s₄, -, hclaim, -⟩ := build_ok_iff.mp hbuild
    apply hname
    rw [← eq_of_claim_of_mem (endsPlain_of_mem_locals locals hlocals) hclaim hmem]
    exact hmem

/-- Declarations with names close to local variables, and a keyword. -/
def sparedFile : SchemaFile where
  name := "spared.proto"
  package := some "p"
  enums := [⟨"Result", ".p.Result", [("LOW", 0)]⟩, ⟨"class", ".p.class", []⟩]
  messages := [⟨"res", ".p.res", [⟨"levels", .enum, 1, .repeated, ".p.Result"⟩,
    ⟨"id", .int32, 2, .optional, ""⟩, ⟨"kinds", .enum, 3, .repeated, ".p.class"⟩]⟩]

theorem references_not_captured_spared :
    ∃ plan p f g, (ModulePlan.generate sparedFile {}).1 = .ok plan ∧ plan.messages = [p] ∧
      p.fields = [f, g] ∧ f.enumClass = "Result" ∧ f.enumClass ∉ accessorLocals ∧
      g.enumClass = "class_" ∧ p.wireName = "resWire" ∧
      ∀ locals ∈ [sizeLocals, encodeLocals, decodeLocals], f.names.wireClass ∉ locals := by
  have hview : (ModulePlan.generate sparedFile {}).1.toOption.map (fun plan =>
      plan.messages.map fun p => (p.name, p.wireName, p.fields.map (·.enumClass))) =
        some [("res", "resWire", ["Result", "class_"])] := by
    decide +kernel
  obtain ⟨plan, h, hview⟩ := exists_ok_of_toOption_map hview
  obtain ⟨p, hmessages, hp⟩ := List.map_eq_singleton_iff.mp hview
  obtain ⟨hname, hwire, hclasses⟩ : p.name = "res" ∧ p.wireName = "resWire" ∧
      p.fields.map (·.enumClass) = ["Result", "class_"] := by simpa using hp
  obtain ⟨f, rest, hfields, hf, hrest⟩ := List.map_eq_cons_iff.mp hclasses
  obtain ⟨g, rfl, hg⟩ := List.map_eq_singleton_iff.mp hrest
  have hrefs := references_not_captured sparedFile {} plan h
  rw [hmessages] at hrefs
  obtain ⟨⟨hpfields, hlocals⟩, -⟩ := List.forall₂_cons.mp hrefs
  rw [hfields] at hpfields
  obtain ⟨⟨hfwire, e, he, hkey, hfclass⟩, -⟩ := List.forall₂_cons.mp hpfields
  have hflat : ∀ e ∈ sparedFile.enums, flatName e.fullName sparedFile.package ∉ accessorLocals := by
    decide +kernel
  refine ⟨plan, p, f, g, h, hmessages, hfields, hf, hfclass (hflat e he), hg, hwire, ?_⟩
  intro locals hmem
  rw [hfwire]
  refine hlocals locals hmem ?_
  rw [hname]
  revert locals
  decide +kernel

/-- An enum and a message that make classes named like local variables. -/
def capturedFile : SchemaFile where
  name := "captured.proto"
  package := none
  enums := [⟨"result", ".result", [("LOW", 0)]⟩]
  messages := [⟨"r", ".r", [⟨"levels", .enum, 1, .repeated, ".result"⟩]⟩]

/-- The accessor binds the name by which it refers to its enum, and the methods
that size and scan the message bind the name of the class of field numbers. -/
theorem references_captured :
    ∃ plan p f, (ModulePlan.generate capturedFile { wireSuffix := "es" }).1 = .ok plan ∧
      plan.messages = [p] ∧ p.fields = [f] ∧
      f.enumClass ∈ accessorLocals ∧
      (∃ ls, f.readerMethodText = joinLines ls ∧ "    result = allocator.new_list()" ∈ ls ∧
        "                result.append(wire.enum_from_int(result, value_result.value))" ∈ ls) ∧
      f.names.wireClass ∈ sizeLocals ∧ f.names.wireClass ∈ decodeLocals := by
  have hview : (ModulePlan.generate capturedFile { wireSuffix := "es" }).1.toOption.map (fun plan =>
      plan.messages.map fun p => p.fields.map fun f => (f.enumClass, f.names.wireClass)) =
        some [[("result", "res")]] := by
    decide +kernel
  obtain ⟨plan, h, hview⟩ := exists_ok_of_toOption_map hview
  obtain ⟨p, hmessages, hp⟩ := List.map_eq_singleton_iff.mp hview
  obtain ⟨f, hfields, hf⟩ := List.map_eq_singleton_iff.mp hp
  obtain ⟨hclass, hwire⟩ := Prod.mk.inj hf
  refine ⟨plan, p, f, h, hmessages, hfields, ?_, ?_, ?_, ?_⟩
  · rw [hclass]
    decide
  · unfold FieldPlan.readerMethodText
    rw [hclass]
    exact ⟨_, rfl, by simp, by simp⟩
  · rw [hwire]
    decide
  · rw [hwire]
    decide

end WireSchema
