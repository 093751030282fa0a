/-
# What stands at the margin of a module

The text of a module is put together from fragments of several lines, and a
fragment belongs inside of a class. So the lines at the margin of a module are
its header and the lines that open its classes, and no others
(`topLines_of_generate`). This needs that no name in the file ends a line, as
such a name would bring a line of its own. The names of the module are then of
one line too (`SchemaFile.OneLine.plan`): those that a registry gives, which adds
figures and underscores, and those that are flattened or put in snake case.

`Shows pieces tops` says of pieces of text that they stay together and that the
lines `tops` are at the margin. It is put together like the text: from the
lines of a class, from classes, and from fragments, which show nothing
(`FieldPlan.OneLine.shows_fragment`).

Key definitions: `SchemaFile.OneLine`, `ModulePlan.OneLine`, `Shows`.
Key theorems: `SchemaFile.OneLine.plan`, `FieldPlan.OneLine.exists_lines`,
`MessagePlan.OneLine.shows`, `topLines_of_generate`.
-/

import WireSchema.Proofs.Capture
import WireSchema.Proofs.Lines

namespace WireSchema

/-! ### Names of one line -/

theorem oneLine_ofList {line : List Char} (h : line.all (!endsLine ·) = true) :
    oneLine (String.ofList line) = true := by
  rw [oneLine, String.toList_ofList, h]

theorem oneLine_avoidKeyword {word : String} (h : oneLine word = true) :
    oneLine (avoidKeyword word) = true := by
  unfold avoidKeyword
  split
  · rw [oneLine_append, h]
    decide
  · exact h

theorem Registry.oneLine_choose (r : Registry) {base : String} (h : oneLine base = true) :
    oneLine (r.choose base) = true := by
  rcases r.choose_cases base with heq | ⟨k, heq⟩
  · rw [heq, h]
  · have hk : oneLine (toString k) = true := oneLine_repr k
    rw [heq, Registry.variant, oneLine_append, oneLine_append, h, hk]
    decide

theorem mem_withinPackage {package : Option String} {name : List Char} {c : Char}
    (h : c ∈ withinPackage package name) : c ∈ name := by
  unfold withinPackage at h
  split at h
  · exact h
  · next p =>
    split at h
    · exact h
    · cases hrest : (p.toList ++ ['.']).isPrefixOf? name with
      | none => simpa [hrest] using h
      | some rest =>
        rw [← List.isPrefixOf?_eq_some_iff_append_eq.mp hrest]
        simp only [hrest, Option.getD_some] at h
        exact List.mem_append_right _ h

theorem oneLine_flatName {fullName : String} (package : Option String)
    (h : oneLine fullName = true) : oneLine (flatName fullName package) = true := by
  rw [oneLine_iff] at h ⊢
  rw [flatName, String.toList_ofList]
  intro c hc
  have hmem := mem_withinPackage (List.mem_filter.mp hc).1
  exact h c ((List.dropWhile_sublist _).subset hmem)

theorem Naming.oneLine_of_request {candidate name : String} {r r' : Registry}
    (h : oneLine candidate = true) (hname : Naming.request candidate r = .ok name r') :
    oneLine name = true := by
  by_cases hc : candidate = ""
  · rw [hc, Naming.request_empty] at hname
    cases hname
  · simp only [Naming.request, r.request_of_ne hc] at hname
    cases hname
    exact r.oneLine_choose (oneLine_avoidKeyword h)

theorem Gen.oneLine_of_claim {fullName candidate name : String} {s s' : GenState}
    (h : oneLine candidate = true) (hname : Gen.claim fullName candidate s = .ok name s') :
    oneLine name = true := by
  rw [eq_choose_of_claim hname]
  exact s.names.oneLine_choose (oneLine_avoidKeyword h)

/-! ### Plans of one line -/

/-- No text of a file and its options that gets into the module ends a line.
Nothing is asked of the package, of the names of types that fields refer to, or
of the suffix of the module's own name. -/
structure SchemaFile.OneLine (file : SchemaFile) (options : Options) : Prop where
  source : oneLine file.name = true
  runtimePackage : oneLine options.runtimePackage = true
  suffixes : oneLine options.wireSuffix = true ∧ oneLine options.readerSuffix = true
  enums : ∀ e ∈ file.enums, oneLine e.fullName = true ∧ ∀ v ∈ e.values, oneLine v.1 = true
  messages : ∀ m ∈ file.messages, oneLine m.fullName = true ∧
    ∀ f ∈ m.fields, oneLine f.name = true

/-- No text of a planned field ends a line. -/
structure FieldPlan.OneLine (f : FieldPlan) : Prop where
  names : ∀ name ∈ f.names.all, oneLine name = true
  wireClass : oneLine f.names.wireClass = true
  enumClass : oneLine f.enumClass = true

/-- No text of a planned enum ends a line. -/
structure EnumPlan.OneLine (e : EnumPlan) : Prop where
  className : oneLine e.className = true
  members : ∀ member ∈ e.members, oneLine member.1 = true

/-- No text of a planned message ends a line. -/
structure MessagePlan.OneLine (m : MessagePlan) : Prop where
  classes : ∀ name ∈ m.classNames, oneLine name = true
  fields : ∀ f ∈ m.fields, f.OneLine

/-- No text of a planned module ends a line. -/
structure ModulePlan.OneLine (plan : ModulePlan) : Prop where
  source : oneLine plan.source = true
  runtimePackage : oneLine plan.runtimePackage = true
  enums : ∀ e ∈ plan.enums, e.OneLine
  messages : ∀ m ∈ plan.messages, m.OneLine

variable {file : SchemaFile} {options : Options} {scope : EnumScope} {s s' : GenState}

theorem FieldNames.oneLine_of_derive {fieldName wireClass : String} {r r' : Registry}
    {n : FieldNames} (h : oneLine fieldName = true)
    (hn : FieldNames.derive fieldName wireClass r = .ok n r') :
    ∀ name ∈ n.all, oneLine name = true := by
  unfold FieldNames.derive Naming.field Naming.constant Naming.method at hn
  obtain ⟨writerField, r₁, h₁, hn⟩ := bind_eq_ok_iff.mp hn
  obtain ⟨wireConst, r₂, h₂, hn⟩ := bind_eq_ok_iff.mp hn
  obtain ⟨readerMethod, r₃, h₃, hn⟩ := bind_eq_ok_iff.mp hn
  obtain ⟨readerField, r₄, h₄, hn⟩ := bind_eq_ok_iff.mp hn
  obtain ⟨offsets, r₅, h₅, hn⟩ := bind_eq_ok_iff.mp hn
  obtain ⟨wires, r₆, h₆, hn⟩ := bind_eq_ok_iff.mp hn
  obtain ⟨rfl, -⟩ := pure_eq_ok_iff.mp hn
  have hwriter := Naming.oneLine_of_request (oneLine_toSnake h) h₁
  have hconst := Naming.oneLine_of_request
    (oneLine_toUpperSnake (by rw [oneLine_append, h]; decide)) h₂
  have hmethod := Naming.oneLine_of_request
    (oneLine_toSnake (by rw [oneLine_append, h]; decide)) h₃
  have hreader := Naming.oneLine_of_request (by rw [oneLine_append, hwriter]; decide) h₄
  have hoffsets := Naming.oneLine_of_request
    (by rw [oneLine_append, oneLine_append, hwriter]; decide) h₅
  have hwires := Naming.oneLine_of_request
    (by rw [oneLine_append, oneLine_append, hwriter]; decide) h₆
  simp [FieldNames.all, hwriter, hconst, hmethod, hreader, hoffsets, hwires]

namespace SchemaFile.OneLine

theorem of_find? {typeName name : String} (hline : file.OneLine options)
    (hscope : EnumScope.ofFile file {} = .ok scope s) (hfind : scope.find? typeName = some name) :
    oneLine name = true := by
  obtain ⟨e, he, -, t, t', hclaim⟩ := exists_claim_of_find? hscope hfind
  exact Gen.oneLine_of_claim (oneLine_flatName _ (hline.enums e he).1) hclaim

theorem message {m : MessageDecl} {p : MessagePlan} {t t' : GenState}
    (hline : file.OneLine options) (hscope : EnumScope.ofFile file {} = .ok scope s)
    (hm : m ∈ file.messages)
    (h : MessagePlan.build scope file.package options m t = .ok p t') : p.OneLine := by
  obtain ⟨hfull, hfields⟩ := hline.messages m hm
  obtain ⟨s₁, s₂, s₃, -, -, h₁, h₂, h₃, -⟩ := build_ok_iff.mp h
  have hname := Gen.oneLine_of_claim (oneLine_flatName _ hfull) h₁
  have hwire := Gen.oneLine_of_claim (by rw [oneLine_append, hname, hline.suffixes.1]; rfl) h₂
  have hreader := Gen.oneLine_of_claim (by rw [oneLine_append, hname, hline.suffixes.2]; rfl) h₃
  refine ⟨by simp [MessagePlan.classNames, hname, hwire, hreader], fun f hf => ?_⟩
  obtain ⟨d, hd, ⟨r, r', hderive⟩, hfind⟩ := exists_of_mem_forall₂ (fields_of_build h) hf
  have hd := hfields d (List.mem_filter.mp hd).1
  refine ⟨FieldNames.oneLine_of_derive hd hderive, ?_, hline.of_find? hscope hfind⟩
  rw [wireClass_of_derive hderive, hwire]

theorem enum {e : EnumDecl} {p : EnumPlan} (hline : file.OneLine options)
    (hscope : EnumScope.ofFile file {} = .ok scope s) (he : e ∈ file.enums)
    (h : enumPlan scope e = .ok p) : p.OneLine := by
  unfold enumPlan EnumScope.classOf at h
  cases hfind : scope.find? e.fullName with
  | none =>
    rw [hfind] at h
    cases h
  | some className =>
    rw [hfind] at h
    cases h
    refine ⟨hline.of_find? hscope hfind, fun member hmember => ?_⟩
    obtain ⟨v, hv, rfl⟩ := List.mem_map.mp hmember
    exact oneLine_avoidKeyword ((hline.enums e he).2 v hv)

/-- **The names of a module are of one line if those of its file are.** -/
theorem plan {plan : ModulePlan} (hline : file.OneLine options)
    (h : (ModulePlan.generate file options).1 = .ok plan) : plan.OneLine := by
  obtain ⟨scope, s, s', hscope, hmessages, henums, hsource, hpackage⟩ := generate_ok_iff.mp h
  refine ⟨hsource ▸ hline.source, hpackage ▸ hline.runtimePackage,
    fun e he => ?_, fun m hm => ?_⟩
  · obtain ⟨d, hd, hplan⟩ := exists_of_mem_forall₂ (mapM_except_eq_ok_iff.mp henums) he
    exact hline.enum hscope hd hplan
  · obtain ⟨d, hd, t, t', hbuild⟩ := exists_of_mem_forall₂ (forall₂_of_mapM hmessages) hm
    exact hline.message hscope hd hbuild

end SchemaFile.OneLine

/-! ### Pieces at the margin -/

/-- Each piece is settled, and the pieces at the margin are these. -/
def Shows (pieces tops : List String) : Prop :=
  (∀ piece ∈ pieces, Settled piece) ∧ pieces.filter (isTop ·.toList) = tops

section Shows

variable {α : Type} {xs : List α} {pieces pieces' tops tops' : List String}

theorem shows_of_oneLine (h : ∀ piece ∈ pieces, oneLine piece = true)
    (htops : pieces.filter (isTop ·.toList) = tops) : Shows pieces tops :=
  ⟨fun piece hpiece => settled_of_oneLine (h piece hpiece), htops⟩

theorem shows_nil : Shows [] [] := ⟨by simp, rfl⟩

/-- A line that is written out, and is not at the margin. -/
theorem Shows.cons_ofList {line : List Char} (h : Shows pieces tops)
    (hline : line.all (!endsLine ·) = true) (htop : isTop line = false) :
    Shows (String.ofList line :: pieces) tops := by
  refine ⟨?_, ?_⟩
  · rw [List.forall_mem_cons]
    exact ⟨settled_of_oneLine (oneLine_ofList hline), h.1⟩
  · rw [List.filter_cons_of_neg (by rw [String.toList_ofList, htop]; decide), h.2]

theorem Shows.append (h : Shows pieces tops) (h' : Shows pieces' tops') :
    Shows (pieces ++ pieces') (tops ++ tops') := by
  refine ⟨fun piece hpiece => ?_, by rw [List.filter_append, h.2, h'.2]⟩
  rcases List.mem_append.mp hpiece with hpiece | hpiece
  · exact h.1 piece hpiece
  · exact h'.1 piece hpiece

theorem Shows.append_nil (h : Shows pieces tops) (h' : Shows pieces' []) :
    Shows (pieces ++ pieces') tops := by
  have hall := h.append h'
  rwa [List.append_nil] at hall

theorem Shows.flatMap {pieces tops : α → List String} : ∀ {xs : List α},
    (∀ x ∈ xs, Shows (pieces x) (tops x)) → Shows (xs.flatMap pieces) (xs.flatMap tops)
  | [], _ => shows_nil
  | x :: xs, h => by
    rw [List.forall_mem_cons] at h
    rw [List.flatMap_cons, List.flatMap_cons]
    exact h.1.append (Shows.flatMap h.2)

theorem Shows.flatMap_nil {pieces : α → List String} (h : ∀ x ∈ xs, Shows (pieces x) []) :
    Shows (xs.flatMap pieces) [] := by
  have hall := Shows.flatMap h
  rwa [List.flatMap_eq_nil_iff.mpr fun _ _ => rfl] at hall

theorem Shows.map_nil {piece : α → String} (h : ∀ x ∈ xs, Shows [piece x] []) :
    Shows (xs.map piece) [] := by
  rw [List.map_eq_flatMap]
  exact Shows.flatMap_nil h

/-- A piece that is moved right is not at the margin. -/
theorem shows_margin (width : Nat) {margin text : String}
    (hmargin : margin = String.ofList (List.replicate width ' ')) (hwidth : 4 ≤ width)
    (h : Settled (margin ++ text)) : Shows [margin ++ text] [] := by
  refine ⟨by simpa using h, ?_⟩
  rw [List.filter_singleton, hmargin, String.toList_append, String.toList_ofList,
    isTop_margin hwidth]
  rfl

theorem shows_line {text : String} (h : oneLine text = true) : Shows ["    " ++ text] [] := by
  refine shows_margin 4 rfl (by decide) (settled_of_oneLine ?_)
  rw [oneLine_append, h]
  decide

end Shows

/-! ### Fragments -/

namespace FieldPlan.OneLine

variable {f : FieldPlan}

theorem wireConst (h : f.OneLine) : oneLine (f.fragment .wireConst) = true := by
  have hconst : oneLine f.names.wireConst = true := h.names _ (by simp [FieldNames.all])
  simp only [fragment, FieldNames.wireConstText, oneLine_append, hconst, oneLine_toString]
  decide

theorem writerField (h : f.OneLine) : oneLine (f.fragment .writerField) = true := by
  have hwriter : oneLine f.names.writerField = true := h.names _ (by simp [FieldNames.all])
  simp only [fragment, writerFieldText, oneLine_append, hwriter, h.enumClass]
  decide

/-- A fragment is a text of one or more lines. -/
theorem exists_lines (h : f.OneLine) (place : Fragment) :
    ∃ first more, f.fragment place = joinLines (first :: more) ∧
      ∀ line ∈ first :: more, oneLine line = true := by
  have hconst : oneLine f.names.wireConstPath = true := by
    have hname : oneLine f.names.wireConst = true := h.names _ (by simp [FieldNames.all])
    simp only [FieldNames.wireConstPath, oneLine_append, h.wireClass, hname]
    decide
  have henum := h.enumClass
  have hnames := h.names
  simp only [FieldNames.all, List.forall_mem_cons] at hnames
  obtain ⟨hwriter, -, hmethod, -, hoffsets, hwires, -⟩ := hnames
  cases place with
  | wireConst => exact ⟨f.fragment .wireConst, [], rfl, by simpa using h.wireConst⟩
  | writerField => exact ⟨f.fragment .writerField, [], rfl, by simpa using h.writerField⟩
  | sizeCheck =>
    refine ⟨_, _, rfl, List.all_eq_true.mp ?_⟩
    simp only [List.all_cons, List.all_nil, oneLine_append, Bool.and_eq_true, and_true,
      hwriter, hconst]
    and_intros <;> exact oneLine_ofList (by decide)
  | writer =>
    refine ⟨_, _, rfl, List.all_eq_true.mp ?_⟩
    simp only [List.all_cons, List.all_nil, oneLine_append, Bool.and_eq_true, and_true,
      hwriter, hconst]
    and_intros <;> exact oneLine_ofList (by decide)
  | readerFields =>
    refine ⟨_, _, rfl, List.all_eq_true.mp ?_⟩
    simp only [List.all_cons, List.all_nil, oneLine_append, Bool.and_eq_true, and_true, true_and,
      hoffsets, hwires]
    and_intros <;> exact oneLine_ofList (by decide)
  | readerCase =>
    refine ⟨_, _, rfl, List.all_eq_true.mp ?_⟩
    simp only [List.all_cons, List.all_nil, oneLine_append, Bool.and_eq_true, and_true,
      hoffsets, hwires, hconst]
    and_intros <;> exact oneLine_ofList (by decide)
  | readerMethod =>
    refine ⟨_, _, rfl, List.all_eq_true.mp ?_⟩
    simp only [List.all_cons, List.all_nil, oneLine_append, Bool.and_eq_true, and_true,
      hoffsets, hwires, henum, hmethod]
    and_intros <;> exact oneLine_ofList (by decide)
  | readerClose =>
    refine ⟨_, _, rfl, List.all_eq_true.mp ?_⟩
    simp only [List.all_cons, List.all_nil, oneLine_append, Bool.and_eq_true, and_true,
      hoffsets, hwires]
    and_intros <;> exact oneLine_ofList (by decide)

/-- **A fragment shows nothing** where it is moved right by four spaces or more. -/
theorem shows_fragment (h : f.OneLine) (width : Nat) {margin : String}
    (hmargin : margin = String.ofList (List.replicate width ' ')) (hwidth : 4 ≤ width)
    (place : Fragment) : Shows [margin ++ indent width (f.fragment place)] [] := by
  obtain ⟨first, more, htext, hlines⟩ := h.exists_lines place
  refine shows_margin width hmargin hwidth ?_
  rw [htext, hmargin]
  exact settled_indent hwidth hlines

end FieldPlan.OneLine

/-! ### Classes -/

/-- Two empty lines and the line that opens a class. -/
theorem shows_classLine {name ending : String} (hname : oneLine name = true)
    (hending : oneLine ending = true) :
    Shows ["", "", "class " ++ name ++ ending] ["class " ++ name ++ ending] := by
  refine shows_of_oneLine ?_ (by simp [isTop])
  simp only [List.forall_mem_cons, oneLine_append, hname, hending]
  decide

theorem EnumPlan.OneLine.shows {e : EnumPlan} (h : e.OneLine) :
    Shows e.textLines ["class " ++ e.className ++ "(enum.IntEnum):"] := by
  unfold EnumPlan.textLines
  refine (shows_classLine h.className (by decide)).append_nil ?_
  split
  · exact shows_of_oneLine (by decide) (by decide)
  · refine Shows.map_nil fun member hmember => ?_
    show Shows ["    " ++ member.1 ++ " = " ++ toString member.2] []
    rw [String.append_assoc, String.append_assoc]
    refine shows_line ?_
    simp only [oneLine_append, h.members member hmember, oneLine_toString]
    decide

namespace MessagePlan.OneLine

variable {m : MessagePlan}

theorem shows_fragments (h : m.OneLine) (width : Nat) {margin : String}
    (hmargin : margin = String.ofList (List.replicate width ' ')) (hwidth : 4 ≤ width)
    (place : Fragment) :
    Shows ((m.fragments place).map fun text => margin ++ indent width text) [] := by
  rw [fragments, List.map_map]
  exact Shows.map_nil fun f hf => (h.fields f hf).shows_fragment width hmargin hwidth place

theorem shows_blockOrPass (h : m.OneLine) (place : Fragment) :
    Shows (blockOrPass 8 (m.fragments place)) [] := by
  unfold blockOrPass
  split
  · exact shows_of_oneLine (by decide) (by decide)
  · exact h.shows_fragments 8 rfl (by decide) place

theorem shows_wireLines (h : m.OneLine) : Shows m.wireLines ["class " ++ m.wireName ++ ":"] := by
  have hname : oneLine m.wireName = true := h.classes _ (by simp [classNames])
  unfold wireLines
  refine (shows_classLine hname (by decide)).append_nil ?_
  split
  · exact shows_of_oneLine (by decide) (by decide)
  · rw [fragments, List.map_map]
    exact Shows.map_nil fun f hf => shows_line (h.fields f hf).wireConst

theorem shows_writerLines (h : m.OneLine) :
    Shows m.writerLines ["@dataclass", "class " ++ m.name ++ ":"] := by
  have hname : oneLine m.name = true := h.classes _ (by simp [classNames])
  unfold writerLines
  refine .append_nil (.append_nil (.append_nil (.append_nil (.append_nil (.append_nil
    ?first ?fields) ?size) ?sizes) ?encodeTo) ?writers) ?encode
  case first =>
    refine shows_of_oneLine ?_ (by simp [isTop])
    simp only [List.forall_mem_cons, oneLine_append, hname]
    decide
  case fields =>
    rw [fragments, List.map_map]
    exact Shows.map_nil fun f hf => shows_line (h.fields f hf).writerField
  case sizes => exact h.shows_fragments 8 rfl (by decide) .sizeCheck
  case writers => exact h.shows_blockOrPass .writer
  all_goals
    repeat refine Shows.cons_ofList ?_ (by decide) rfl
    exact shows_nil

theorem shows_setupLines (h : m.OneLine) : Shows m.setupLines [] := by
  have hname : oneLine m.readerName = true := h.classes _ (by simp [classNames])
  unfold setupLines
  split
  · refine shows_of_oneLine (List.all_eq_true.mp ?_) (by simp [isTop])
    simp only [List.all_cons, List.all_nil, oneLine_append, Bool.and_eq_true, and_true, hname]
    and_intros <;> exact oneLine_ofList (by decide)
  · refine shows_of_oneLine (List.all_eq_true.mp ?_) (by simp [isTop])
    simp only [List.all_cons, List.all_nil, oneLine_append, Bool.and_eq_true, and_true, hname]
    and_intros <;> exact oneLine_ofList (by decide)

theorem shows_methods (h : m.OneLine) :
    Shows ((m.fragments .readerMethod).flatMap fun text => ["", "    " ++ indent 4 text]) [] := by
  rw [fragments, List.flatMap_map]
  refine Shows.flatMap_nil fun f hf => ?_
  have hempty : Shows [""] [] := shows_of_oneLine (by decide) (by decide)
  have hmethod : Shows ["    " ++ indent 4 (f.fragment .readerMethod)] [] :=
    (h.fields f hf).shows_fragment 4 rfl (by decide) .readerMethod
  exact hempty.append_nil hmethod

theorem shows_readerLines (h : m.OneLine) :
    Shows m.readerLines ["class " ++ m.readerName ++ ":"] := by
  have hname : oneLine m.readerName = true := h.classes _ (by simp [classNames])
  unfold readerLines
  refine .append_nil (.append_nil (.append_nil (.append_nil (.append_nil (.append_nil (.append_nil
    (.append_nil (.append_nil
    ?first ?fields) ?blank) ?setup) ?scan) ?cases) ?scanEnd) ?methods) ?close) ?closes
  case first => exact shows_classLine hname (by decide)
  case fields => exact h.shows_fragments 4 rfl (by decide) .readerFields
  case setup => exact h.shows_setupLines
  case cases => exact h.shows_fragments 16 rfl (by decide) .readerCase
  case methods => exact h.shows_methods
  case closes => exact h.shows_blockOrPass .readerClose
  all_goals
    repeat refine Shows.cons_ofList ?_ (by decide) rfl
    exact shows_nil

/-- The lines at the margin that a message has. -/
theorem shows (h : m.OneLine) : Shows m.textLines ["class " ++ m.wireName ++ ":", "@dataclass",
    "class " ++ m.name ++ ":", "class " ++ m.readerName ++ ":"] :=
  (h.shows_wireLines.append h.shows_writerLines).append h.shows_readerLines

end MessagePlan.OneLine

theorem ModulePlan.OneLine.shows {plan : ModulePlan} (h : plan.OneLine) :
    Shows plan.textLines
      (["# Generated by protoc-wire-py from " ++ plan.source ++ ". DO NOT EDIT.",
        "import enum",
        "from dataclasses import dataclass",
        "from typing import List, Optional",
        "from " ++ plan.runtimePackage ++ " import wire"] ++
      plan.enums.flatMap (fun e => ["class " ++ e.className ++ "(enum.IntEnum):"]) ++
      plan.messages.flatMap fun m => ["class " ++ m.wireName ++ ":", "@dataclass",
        "class " ++ m.name ++ ":", "class " ++ m.readerName ++ ":"]) := by
  refine Shows.append (Shows.append (shows_of_oneLine (List.all_eq_true.mp ?_) ?_) ?_) ?_
  · simp only [headerLines, List.all_cons, List.all_nil, oneLine_append, Bool.and_eq_true,
      and_true, h.source, h.runtimePackage]
    and_intros <;> exact oneLine_ofList (by decide)
  · simp [headerLines, isTop]
  · exact Shows.flatMap fun e he => (h.enums e he).shows
  · exact Shows.flatMap fun m hm => (h.messages m hm).shows

/-! ### The margin of a module -/

/-- **The lines of a module at the margin are its header and the lines that open
its classes**, where no text of its file ends a line: one class for each enum of
the file and three for each message, in order. All else stands inside of a class,
whatever fields the messages have. -/
theorem topLines_of_generate (file : SchemaFile) (options : Options) (plan : ModulePlan)
    (hline : file.OneLine options) (h : (ModulePlan.generate file options).1 = .ok plan) :
    plan.enums.length = file.enums.length ∧ plan.messages.length = file.messages.length ∧
    topLines plan.text =
      ["# Generated by protoc-wire-py from " ++ file.name ++ ". DO NOT EDIT.",
       "import enum",
       "from dataclasses import dataclass",
       "from typing import List, Optional",
       "from " ++ options.runtimePackage ++ " import wire"] ++
      plan.enums.map (fun e => "class " ++ e.className ++ "(enum.IntEnum):") ++
      plan.messages.flatMap fun m => ["class " ++ m.wireName ++ ":", "@dataclass",
        "class " ++ m.name ++ ":", "class " ++ m.readerName ++ ":"] := by
  obtain ⟨hsettled, htops⟩ := (hline.plan h).shows
  obtain ⟨scope, s, s', hscope, hmessages, henums, hsource, hpackage⟩ := generate_ok_iff.mp h
  refine ⟨(mapM_except_eq_ok_iff.mp henums).length_eq.symm, length_of_mapM hmessages, ?_⟩
  rw [ModulePlan.text, topLines_join hsettled, htops, hsource, hpackage, List.map_eq_flatMap]

/-- A file with an enum without values, a message without fields, and names that
have to give way. -/
def marginFile : SchemaFile where
  name := "margin.proto"
  package := some "p"
  enums := [⟨"Level", ".p.A.Level", [("LOW", 0), ("None", 1)]⟩, ⟨"enum", ".p.enum", []⟩]
  messages := [⟨"ALevel", ".p.ALevel", []⟩,
    ⟨"A", ".p.A", [⟨"levels", .enum, 1, .repeated, ".p.A.Level"⟩,
      ⟨"id", .int32, 2, .optional, ""⟩]⟩]

theorem topLines_of_generate_margin :
    marginFile.OneLine {} ∧ ∃ plan, (ModulePlan.generate marginFile {}).1 = .ok plan ∧
      topLines plan.text =
        ["# Generated by protoc-wire-py from margin.proto. DO NOT EDIT.",
         "import enum",
         "from dataclasses import dataclass",
         "from typing import List, Optional",
         "from protoc_wire.runtime import wire",
         "class ALevel(enum.IntEnum):",
         "class enum_2(enum.IntEnum):",
         "class ALevel_2Wire:", "@dataclass", "class ALevel_2:", "class ALevel_2Reader:",
         "class AWire:", "@dataclass", "class A:", "class AReader:"] := by
  have hline : marginFile.OneLine {} := by
    constructor <;> decide +kernel
  have hview : (ModulePlan.generate marginFile {}).1.toOption.map (fun plan =>
      (plan.enums.map (·.className),
        plan.messages.map fun m => (m.wireName, m.name, m.readerName))) =
        some (["ALevel", "enum_2"], [("ALevel_2Wire", "ALevel_2", "ALevel_2Reader"),
          ("AWire", "A", "AReader")]) := by
    decide +kernel
  obtain ⟨plan, h, hview⟩ := exists_ok_of_toOption_map hview
  obtain ⟨henums, hmessages⟩ := Prod.mk.inj hview
  refine ⟨hline, plan, h, ?_⟩
  obtain ⟨-, -, htop⟩ := topLines_of_generate marginFile {} plan hline h
  have hclasses : plan.enums.map (fun e => "class " ++ e.className ++ "(enum.IntEnum):") =
      (plan.enums.map (·.className)).map fun name => "class " ++ name ++ "(enum.IntEnum):" := by
    rw [List.map_map]
    rfl
  have hopen : plan.messages.flatMap (fun m => ["class " ++ m.wireName ++ ":", "@dataclass",
      "class " ++ m.name ++ ":", "class " ++ m.readerName ++ ":"]) =
      (plan.messages.map fun m => (m.wireName, m.name, m.readerName)).flatMap fun c =>
        ["class " ++ c.1 ++ ":", "@dataclass", "class " ++ c.2.1 ++ ":",
          "class " ++ c.2.2 ++ ":"] := by
    rw [List.flatMap_map]
  rw [htop, hclasses, hopen, henums, hmessages]
  decide +kernel

end WireSchema
