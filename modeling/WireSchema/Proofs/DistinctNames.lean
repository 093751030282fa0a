/-
# No two names of a module coincide

All classes of a module come from one registry, the enums' first and then
three for each message, so no two of them have the same name
(`classNames_distinct`). This needs that the scope finds for each enum the
class that was claimed for it, which it does if no two enums have the same
full name (`map_className_eq`).

The fields of a message come from a registry of their own. It starts with the
members that every class has and with all class names of the module up to this
message (`classes_used_of_build`), so a field takes none of these
(`memberNames_distinct`).

Key definitions: `ModulePlan.classNames`.
Key theorems: `map_className_eq`, `classNames_distinct`,
`classes_used_of_build`, `memberNames_distinct`.
-/

import WireSchema.Proofs.Generation

namespace WireSchema

/-- The classes of a module: the enums', then those of each message. -/
def ModulePlan.classNames (plan : ModulePlan) : List String :=
  plan.enums.map (·.className) ++ plan.messages.flatMap (·.classNames)

variable {file : SchemaFile} {options : Options} {plan : ModulePlan} {scope : EnumScope}
  {enums : List EnumDecl} {enumPlans : List EnumPlan} {classes : List String}

/-! ### Classes -/

theorem find?_of_enumPlan {e : EnumDecl} {q : EnumPlan} (h : enumPlan scope e = .ok q) :
    scope.find? e.fullName = some q.className := by
  unfold enumPlan EnumScope.classOf at h
  cases hf : scope.find? e.fullName with
  | none =>
    rw [hf] at h
    cases h
  | some name =>
    rw [hf] at h
    cases h
    rfl

theorem forall₂_find? (h : enums.mapM (enumPlan scope) = .ok enumPlans) :
    List.Forall₂ (fun e name => scope.find? e.fullName = some name) enums
      (enumPlans.map (·.className)) := by
  rw [List.forall₂_map_right_iff]
  exact (mapM_except_eq_ok_iff.mp h).imp fun _ _ => find?_of_enumPlan

theorem className_mem {keys : List String} (hl : scope.Lists keys classes)
    (h : List.Forall₂ (fun e q => enumPlan scope e = .ok q) enums enumPlans) :
    ∀ q ∈ enumPlans, q.className ∈ classes := by
  induction h with
  | nil => simp
  | cons hhead _ ih =>
    intro q hq
    rcases List.mem_cons.mp hq with rfl | hq
    · exact hl.mem_of_find? (find?_of_enumPlan hhead)
    · exact ih q hq

/-- Each enum has the class that was claimed for it. -/
theorem map_className_eq (hl : scope.Lists (enumKeys enums) classes)
    (hkeys : (enumKeys enums).Nodup) (h : enums.mapM (enumPlan scope) = .ok enumPlans) :
    enumPlans.map (·.className) = classes := by
  have hclaimed := hl.forall₂_lookup hkeys
  rw [enumKeys, List.forall₂_map_left_iff] at hclaimed
  refine List.right_unique_forall₂' ?_ (forall₂_find? h) hclaimed
  intro e name name' hname hname'
  exact Option.some.inj (hname.symm.trans hname')

/-- **No two classes of a module have the same name.** If the full names of the
enums differ, so do all class names of a generated module, one for each enum
and three for each message; and none is a name that the module imports or a
keyword. -/
theorem classNames_distinct (file : SchemaFile) (options : Options) (plan : ModulePlan)
    (hkeys : (enumKeys file.enums).Nodup)
    (h : (ModulePlan.generate file options).1 = .ok plan) :
    plan.enums.length = file.enums.length ∧ plan.messages.length = file.messages.length ∧
      plan.classNames.Nodup ∧
      ∀ name ∈ plan.classNames, name ∉ moduleImports ∧ isKeyword name = false := by
  obtain ⟨scope, s, s', hscope, hmessages, henums, -, -⟩ := generate_ok_iff.mp h
  obtain ⟨classes, hlists, hgives⟩ := ofFile_ok hscope
  have hall := hgives.trans (gives_of_mapM_build hmessages)
  rw [← map_className_eq hlists hkeys henums] at hall
  refine ⟨(mapM_except_eq_ok_iff.mp henums).length_eq.symm, length_of_mapM hmessages, hall.nodup,
    fun name hname => ⟨hall.fresh name hname, hall.noKeyword name hname⟩⟩

/-- Declarations whose flattened names run into each other, into the reader of
another message, into an import and into a keyword. -/
def crowdedFile : SchemaFile where
  name := "crowded.proto"
  package := some "p"
  enums := [⟨"Level", ".p.Order.Level", [("LOW", 0)]⟩, ⟨"OrderLevel", "p.OrderLevel", []⟩]
  messages := [⟨"OrderLevel", ".p.OrderLevel", []⟩, ⟨"M", ".p.M", []⟩,
    ⟨"MReader", ".p.MReader", []⟩, ⟨"wire", ".p.wire", []⟩, ⟨"class", ".p.class", []⟩]

theorem classNames_distinct_crowded : (enumKeys crowdedFile.enums).Nodup ∧
    ∃ plan, (ModulePlan.generate crowdedFile {}).1 = .ok plan ∧
      plan.classNames = ["OrderLevel", "OrderLevel_2", "OrderLevel_3", "OrderLevel_3Wire",
        "OrderLevel_3Reader", "M", "MWire", "MReader", "MReader_2", "MReader_2Wire",
        "MReader_2Reader", "wire_2", "wire_2Wire", "wire_2Reader", "class_", "class_Wire",
        "class_Reader"] ∧
      plan.classNames.Nodup ∧
      ∀ name ∈ plan.classNames, name ∉ moduleImports ∧ isKeyword name = false := by
  have hkeys : (enumKeys crowdedFile.enums).Nodup := by decide +kernel
  have hnames : (ModulePlan.generate crowdedFile {}).1.toOption.map (·.classNames) =
      some ["OrderLevel", "OrderLevel_2", "OrderLevel_3", "OrderLevel_3Wire",
        "OrderLevel_3Reader", "M", "MWire", "MReader", "MReader_2", "MReader_2Wire",
        "MReader_2Reader", "wire_2", "wire_2Wire", "wire_2Reader", "class_", "class_Wire",
        "class_Reader"] := by
    decide +kernel
  obtain ⟨plan, h, hnames⟩ := exists_ok_of_toOption_map hnames
  exact ⟨hkeys, plan, h, hnames, (classNames_distinct crowdedFile {} plan hkeys h).2.2⟩

/-! ### Members -/

variable {package : Option String} {before after : List MessageDecl} {m : MessageDecl}
  {front back : List MessagePlan} {p : MessagePlan} {s t u : GenState}

/-- After a message was planned, the classes of all enums, of the messages
before it and of the message itself are taken. -/
theorem classes_used_of_build {s₀ : GenState} (hscope : EnumScope.ofFile file s₀ = .ok scope s)
    (henums : file.enums.mapM (enumPlan scope) = .ok enumPlans)
    (hfront : before.mapM (MessagePlan.build scope package options) s = .ok front t)
    (hp : MessagePlan.build scope package options m t = .ok p u) :
    (∀ q ∈ enumPlans, q.className ∈ u.names.used) ∧
      ∀ q ∈ front ++ [p], ∀ name ∈ q.classNames, name ∈ u.names.used := by
  obtain ⟨classes, hlists, hgives⟩ := ofFile_ok hscope
  have hgives' := gives_of_mapM_build hfront
  have hgives'' := gives_of_build hp
  constructor
  · intro q hq
    have hused := hgives.mem_used (className_mem hlists (mapM_except_eq_ok_iff.mp henums) q hq)
    exact hgives''.mem_used_of_mem (hgives'.mem_used_of_mem hused)
  · intro q hq name hname
    rcases List.mem_append.mp hq with hq | hq
    · have hused := hgives'.mem_used (List.mem_flatMap.mpr ⟨q, hq, hname⟩)
      exact hgives''.mem_used_of_mem hused
    · rw [List.mem_singleton.mp hq] at hname
      exact hgives''.mem_used hname

/-- **No identifier of a field coincides with another name.** In every message
of a generated module, the six identifiers of each repeated enum field differ
from each other and from those of all other fields; and none is a keyword, a
member that the classes have anyway, the class of an enum, or a class of this
message or of one before it. -/
theorem memberNames_distinct (file : SchemaFile) (options : Options) (plan : ModulePlan)
    (h : (ModulePlan.generate file options).1 = .ok plan) :
    plan.messages.length = file.messages.length ∧
    ∀ (i : Nat) m p, file.messages[i]? = some m → plan.messages[i]? = some p →
      p.fields.map (·.number) = (m.fields.filter (·.isRepeatedEnum)).map (·.number) ∧
      p.memberNames.Nodup ∧
      ∀ name ∈ p.memberNames, isKeyword name = false ∧ name ∉ reservedMembers ∧
        name ∉ plan.enums.map (·.className) ∧
        ∀ q ∈ plan.messages.take (i + 1), name ∉ q.classNames := by
  obtain ⟨scope, s, s', hscope, hmessages, henums, -, -⟩ := generate_ok_iff.mp h
  refine ⟨length_of_mapM hmessages, fun i m p hm hp => ?_⟩
  -- Cut the run at message `i`: the registry of its fields knows what was claimed up to there.
  obtain ⟨hlt, rfl⟩ := List.getElem?_eq_some_iff.mp hm
  have hsplit : file.messages.take i ++ file.messages[i] :: file.messages.drop (i + 1) =
      file.messages := by
    rw [← List.drop_eq_getElem_cons hlt, List.take_append_drop]
  rw [← hsplit, mapM_middle_eq_ok_iff] at hmessages
  obtain ⟨front, t, q, u, back, hfront, hq, -, hplans⟩ := hmessages
  have hlen : front.length = i := by
    rw [length_of_mapM hfront, List.length_take, Nat.min_eq_left (Nat.le_of_lt hlt)]
  obtain rfl : q = p := by simpa [hplans, hlen] using hp
  have htake : plan.messages.take (i + 1) = front ++ [q] := by
    rw [hplans, ← hlen, List.take_length_add_append]
    rfl
  obtain ⟨hnumbers, r', hgives⟩ := gives_members_of_build hq
  obtain ⟨henum, hclass⟩ := classes_used_of_build hscope henums hfront hq
  refine ⟨hnumbers, hgives.nodup, fun name hname => ?_⟩
  have hfresh := hgives.fresh name hname
  simp only [List.mem_append, not_or] at hfresh
  refine ⟨hgives.noKeyword name hname, hfresh.1, ?_, ?_⟩
  · intro hmem
    obtain ⟨e, he, rfl⟩ := List.mem_map.mp hmem
    exact hfresh.2 (henum e he)
  · intro q' hq' hmem
    rw [htake] at hq'
    exact hfresh.2 (hclass q' hq' name hmem)

/-- Fields whose names run into each other's identifiers, into an enum and into
a keyword. -/
def echoFile : SchemaFile where
  name := "echo.proto"
  package := none
  enums := [⟨"x_2", ".x_2", [("A", 0)]⟩]
  messages := [⟨"M", ".M", [⟨"x", .enum, 1, .repeated, ".x_2"⟩, ⟨"n", .int32, 2, .optional, ""⟩,
    ⟨"X", .enum, 3, .repeated, ".x_2"⟩, ⟨"_x", .enum, 4, .repeated, ".x_2"⟩,
    ⟨"get_x", .enum, 5, .repeated, ".x_2"⟩, ⟨"in", .enum, 6, .repeated, ".x_2"⟩]⟩]

theorem memberNames_distinct_echo :
    ∃ plan p, (ModulePlan.generate echoFile {}).1 = .ok plan ∧ plan.messages[0]? = some p ∧
      p.fields.map (·.names.writerField) = ["x", "x_3", "_x_2", "get_x_3", "in_"] ∧
      p.memberNames.Nodup ∧
      ∀ name ∈ p.memberNames, isKeyword name = false ∧ name ∉ reservedMembers ∧
        name ∉ plan.enums.map (·.className) ∧
        ∀ q ∈ plan.messages.take 1, name ∉ q.classNames := by
  have hnames : (ModulePlan.generate echoFile {}).1.toOption.map (fun plan =>
      plan.messages[0]?.map fun p => p.fields.map (·.names.writerField)) =
        some (some ["x", "x_3", "_x_2", "get_x_3", "in_"]) := by
    decide +kernel
  obtain ⟨plan, h, hfirst⟩ := exists_ok_of_toOption_map hnames
  obtain ⟨p, hp, hfields⟩ := Option.map_eq_some_iff.mp hfirst
  exact ⟨plan, p, h, hp, hfields, ((memberNames_distinct echoFile {} plan h).2 0 _ p rfl hp).2⟩

end WireSchema
