/-
# How a module is generated

Generation is work that can fail on a registry of class names and a log. Such
work succeeds exactly if its parts succeed one after the other
(`bind_eq_ok_iff`, `mapM_middle_eq_ok_iff`), and this module says for each
part what its success means:

* a claim gives a name of the registry (`claim_of_ne`, `gives_of_claim`);
* the enums of a file claim one class each, and the scope finds the class of
  every full name among theirs (`claimAll_ok`, `find?_eq_none_iff`);
* the fields that have code get identifiers in order, and the others only a
  report (`startBuilders_cons_cases`, `startBuilders_ok`);
* planning comes to resolving each field on its own, because builders are
  asked for their plans while they are open and closed once
  (`planFields_begin`);
* a message claims three classes and plans its fields (`build_ok_iff`), and a
  module is its enums and messages (`generate_ok_iff`).

Key definitions: `Keeps`, `FieldBuilder.begin`, `draftPlan`, `enumPlan`,
`MessagePlan.classNames`, `MessagePlan.memberNames`.
Key theorems: `claimAll_ok`, `startBuilders_ok`, `planFields_begin`,
`build_ok_iff`, `gives_of_build`, `gives_members_of_build`, `fields_of_build`,
`generate_ok_iff`.
-/

import Mathlib.Data.List.Forall2
import WireSchema.Plan.Module
import WireSchema.Proofs.Registry

namespace WireSchema

/-! ### Work that can fail -/

section Work

variable {ε σ α β : Type} {x : EStateM ε σ α} {f : α → EStateM ε σ β} {s s' t : σ} {a : α}
  {e : ε}

theorem bind_of_ok (h : x s = .ok a t) : (x >>= f) s = f a t := by
  simp only [bind, EStateM.bind, h]

theorem bind_of_error (h : x s = .error e t) : (x >>= f) s = .error e t := by
  simp only [bind, EStateM.bind, h]

theorem bind_eq_ok_iff {b : β} :
    (x >>= f) s = .ok b s' ↔ ∃ a t, x s = .ok a t ∧ f a t = .ok b s' := by
  constructor
  · intro h
    cases hx : x s with
    | ok a t => exact ⟨a, t, rfl, (bind_of_ok hx).symm.trans h⟩
    | error e t =>
      rw [bind_of_error hx] at h
      cases h
  · rintro ⟨a, t, hx, hf⟩
    rw [bind_of_ok hx, hf]

/-- The state that work leaves, finished or not. -/
def leaves : EStateM.Result ε σ α → σ
  | .ok _ s => s
  | .error _ s => s

/-- Work that leaves every state in a relation to what it was. -/
def Keeps (R : σ → σ → Prop) (x : EStateM ε σ α) : Prop := ∀ s, R s (leaves (x s))

theorem Keeps.bind {R : σ → σ → Prop} (htrans : ∀ {s t u : σ}, R s t → R t u → R s u)
    (hx : Keeps R x) (hf : ∀ a, Keeps R (f a)) : Keeps R (x >>= f) := by
  intro s
  have hs := hx s
  cases h : x s with
  | ok a t =>
    rw [h] at hs
    rw [bind_of_ok h]
    exact htrans hs (hf a t)
  | error e t =>
    rw [h] at hs
    rw [bind_of_error h]
    exact hs

theorem pure_eq_ok_iff {b : α} : (pure a : EStateM ε σ α) s = .ok b s' ↔ a = b ∧ s = s' := by
  simp [pure, EStateM.pure]

variable {g : α → EStateM ε σ β} {xs ys : List α} {out : List β}

theorem mapM_nil_eq_ok_iff : ([] : List α).mapM g s = .ok out s' ↔ out = [] ∧ s' = s := by
  rw [List.mapM_nil, pure_eq_ok_iff]
  constructor
  · rintro ⟨rfl, rfl⟩
    exact ⟨rfl, rfl⟩
  · rintro ⟨rfl, rfl⟩
    exact ⟨rfl, rfl⟩

theorem mapM_cons_eq_ok_iff : (a :: xs).mapM g s = .ok out s' ↔
    ∃ b t more, g a s = .ok b t ∧ xs.mapM g t = .ok more s' ∧ out = b :: more := by
  simp only [List.mapM_cons, bind_eq_ok_iff, pure_eq_ok_iff]
  constructor
  · rintro ⟨b, t, hb, more, u, hmore, rfl, rfl⟩
    exact ⟨b, t, more, hb, hmore, rfl⟩
  · rintro ⟨b, t, more, hb, hmore, rfl⟩
    exact ⟨b, t, hb, more, s', hmore, rfl, rfl⟩

theorem mapM_append_eq_ok_iff : (xs ++ ys).mapM g s = .ok out s' ↔
    ∃ front t back, xs.mapM g s = .ok front t ∧ ys.mapM g t = .ok back s' ∧
      out = front ++ back := by
  simp only [List.mapM_append, bind_eq_ok_iff, pure_eq_ok_iff]
  constructor
  · rintro ⟨front, t, hfront, back, u, hback, rfl, rfl⟩
    exact ⟨front, t, back, hfront, hback, rfl⟩
  · rintro ⟨front, t, back, hfront, hback, rfl⟩
    exact ⟨front, t, hfront, back, s', hback, rfl, rfl⟩

/-- A run over a list, seen from one of its elements. -/
theorem mapM_middle_eq_ok_iff : (xs ++ a :: ys).mapM g s = .ok out s' ↔
    ∃ front t b u back, xs.mapM g s = .ok front t ∧ g a t = .ok b u ∧
      ys.mapM g u = .ok back s' ∧ out = front ++ b :: back := by
  simp only [mapM_append_eq_ok_iff, mapM_cons_eq_ok_iff]
  constructor
  · rintro ⟨front, t, -, hfront, ⟨b, u, back, hb, hback, rfl⟩, rfl⟩
    exact ⟨front, t, b, u, back, hfront, hb, hback, rfl⟩
  · rintro ⟨front, t, b, u, back, hfront, hb, hback, rfl⟩
    exact ⟨front, t, _, hfront, ⟨b, u, back, hb, hback, rfl⟩, rfl⟩

/-- A run over a list ends at the first element that fails. -/
theorem mapM_of_error {u : σ} (hxs : xs.mapM g s = .ok out t) (ha : g a t = .error e u) :
    (xs ++ a :: ys).mapM g s = .error e u := by
  have hcons : (a :: ys).mapM g t = .error e u := by
    rw [List.mapM_cons, bind_of_error ha]
  rw [List.mapM_append, bind_of_ok hxs, bind_of_error hcons]

/-- Each element of a list has its result, from some state of the run. -/
theorem forall₂_of_mapM : ∀ {xs : List α} {s : σ} {out : List β}, xs.mapM g s = .ok out s' →
    List.Forall₂ (fun a b => ∃ t t', g a t = .ok b t') xs out
  | [], _, _, h => by
    obtain ⟨rfl, -⟩ := mapM_nil_eq_ok_iff.mp h
    exact .nil
  | _ :: _, s, _, h => by
    obtain ⟨b, t, more, hb, hmore, rfl⟩ := mapM_cons_eq_ok_iff.mp h
    exact .cons ⟨s, t, hb⟩ (forall₂_of_mapM hmore)

theorem length_of_mapM (h : xs.mapM g s = .ok out s') : out.length = xs.length :=
  (forall₂_of_mapM h).length_eq.symm

/-- Work without a state succeeds on a list if it succeeds on each element. -/
theorem mapM_except_eq_ok_iff {g : α → Except ε β} : ∀ {xs : List α} {out : List β},
    xs.mapM g = .ok out ↔ List.Forall₂ (fun a b => g a = .ok b) xs out
  | [], out => by
    rw [List.mapM_nil, List.forall₂_nil_left_iff]
    constructor
    · rintro ⟨⟩
      rfl
    · rintro rfl
      rfl
  | a :: xs, out => by
    rw [List.mapM_cons, List.forall₂_cons_left_iff]
    constructor
    · intro h
      cases ha : g a with
      | error e => rw [ha] at h; cases h
      | ok b =>
        cases hmore : xs.mapM g with
        | error e => rw [ha, hmore] at h; cases h
        | ok more =>
          rw [ha, hmore] at h
          cases h
          exact ⟨b, more, rfl, mapM_except_eq_ok_iff.mp hmore, rfl⟩
    · rintro ⟨b, more, hb, hmore, rfl⟩
      rw [hb, mapM_except_eq_ok_iff.mpr hmore]
      rfl

/-- Each result comes from one of the elements. -/
theorem exists_of_mem_forall₂ {R : α → β → Prop} {b : β} (h : List.Forall₂ R xs out)
    (hb : b ∈ out) : ∃ a ∈ xs, R a b := by
  induction h with
  | nil => cases hb
  | cons hab _ ih =>
    rcases List.mem_cons.mp hb with rfl | hb
    · exact ⟨_, List.mem_cons_self, hab⟩
    · obtain ⟨a, ha, hab⟩ := ih hb
      exact ⟨a, List.mem_cons_of_mem _ ha, hab⟩

/-- A value that shows that work succeeded. -/
theorem exists_ok_of_toOption_map {γ : Type} {result : Except ε α} {view : α → γ} {c : γ}
    (h : result.toOption.map view = some c) : ∃ a, result = .ok a ∧ view a = c := by
  cases result with
  | error e => cases h
  | ok a => exact ⟨a, rfl, Option.some.inj h⟩

theorem exists_mapM_except_ok {g : α → Except ε β} (h : ∀ a ∈ xs, ∃ b, g a = .ok b) :
    ∃ out, xs.mapM g = .ok out := by
  induction xs with
  | nil => exact ⟨[], rfl⟩
  | cons a xs ih =>
    obtain ⟨b, hb⟩ := h a List.mem_cons_self
    obtain ⟨more, hmore⟩ := ih fun a ha => h a (List.mem_cons_of_mem _ ha)
    exact ⟨b :: more, by rw [List.mapM_cons, hb, hmore]; rfl⟩

end Work

/-! ### Identifiers -/

variable {r r' : Registry} {candidate fieldName : String}

theorem Naming.request_of_ne (r : Registry) (h : candidate ≠ "") :
    ∃ name r', Naming.request candidate r = .ok name r' ∧ name ≠ "" ∧ r.Gives [name] r' := by
  have hreq := r.request_of_ne h
  obtain ⟨-, hne, hgives⟩ := Registry.Gives.of_request hreq
  exact ⟨_, _, by simp only [Naming.request, hreq], hne, hgives⟩

theorem Naming.request_empty (r : Registry) :
    Naming.request "" r = .error .emptyIdentifier r := rfl

/-- A field that has a name gets six identifiers. -/
theorem FieldNames.derive_of_ne (r : Registry) (wireClass : String) (h : fieldName ≠ "") :
    ∃ n r', FieldNames.derive fieldName wireClass r = .ok n r' ∧ r.Gives n.all r' := by
  obtain ⟨writerField, r₁, h₁, -, g₁⟩ := Naming.request_of_ne r (toSnake_ne_empty h)
  obtain ⟨wireConst, r₂, h₂, -, g₂⟩ := Naming.request_of_ne r₁
    (toUpperSnake_ne_empty (show fieldName ++ "Wire" ≠ "" by simp))
  obtain ⟨readerMethod, r₃, h₃, -, g₃⟩ := Naming.request_of_ne r₂
    (toSnake_ne_empty (show "get_" ++ fieldName ≠ "" by simp))
  obtain ⟨readerField, r₄, h₄, -, g₄⟩ := Naming.request_of_ne r₃
    (show "_" ++ writerField ≠ "" by simp)
  obtain ⟨offsets, r₅, h₅, -, g₅⟩ := Naming.request_of_ne r₄
    (show "_" ++ writerField ++ "_offsets" ≠ "" by simp)
  obtain ⟨wires, r₆, h₆, -, g₆⟩ := Naming.request_of_ne r₅
    (show "_" ++ writerField ++ "_wires" ≠ "" by simp)
  refine ⟨⟨writerField, readerField, readerMethod, offsets, wires, wireConst, wireClass⟩, r₆, ?_,
    ((((g₁.trans g₂).trans g₃).trans g₄).trans g₅).trans g₆⟩
  unfold FieldNames.derive Naming.field Naming.constant Naming.method
  rw [bind_of_ok h₁, bind_of_ok h₂, bind_of_ok h₃, bind_of_ok h₄, bind_of_ok h₅, bind_of_ok h₆]
  rfl

theorem FieldNames.derive_empty (r : Registry) (wireClass : String) :
    FieldNames.derive "" wireClass r = .error .emptyIdentifier r := by
  unfold FieldNames.derive Naming.field
  rw [show toSnake "" = "" by decide +kernel, bind_of_error (Naming.request_empty r)]

/-! ### Claims -/

variable {s s' t : GenState} {fullName name : String}

theorem Gen.claim_of_ne (s : GenState) (fullName : String) (h : candidate ≠ "") :
    ∃ name s', Gen.claim fullName candidate s = .ok name s' ∧ name ≠ "" ∧
      s.names.Gives [name] s'.names := by
  obtain ⟨name, r', hreq, hne, hgives⟩ := Naming.request_of_ne s.names h
  have hnaming : Gen.ofNaming (Naming.request candidate) s = .ok name { s with names := r' } := by
    simp only [Gen.ofNaming, hreq]
  unfold Gen.claim
  rw [bind_of_ok hnaming]
  by_cases heq : name = candidate
  · refine ⟨name, { s with names := r' }, ?_, hne, hgives⟩
    simp only [heq, ne_eq, not_true_eq_false, if_false]
    rfl
  · refine ⟨name, ⟨r', s.log ++ [⟨.warning, .generator, fullName ++ ": class name '" ++ candidate
      ++ "' is taken; using '" ++ name ++ "'"⟩]⟩, ?_, hne, hgives⟩
    simp only [heq, ne_eq, not_false_eq_true, if_true]
    rfl

theorem Gen.claim_empty (s : GenState) (fullName : String) :
    Gen.claim fullName "" s = .error (.name .emptyIdentifier) s := rfl

/-- **A claim gives a class name that is free and no keyword.** -/
theorem gives_of_claim (h : Gen.claim fullName candidate s = .ok name s') :
    name ≠ "" ∧ s.names.Gives [name] s'.names := by
  by_cases hc : candidate = ""
  · rw [hc, Gen.claim_empty] at h
    cases h
  · obtain ⟨name', t, hclaim, hne, hgives⟩ := Gen.claim_of_ne s fullName hc
    rw [h] at hclaim
    cases hclaim
    exact ⟨hne, hgives⟩

/-! ### The classes of the enums -/

/-- The full names under which a scope finds the enums. -/
def enumKeys (enums : List EnumDecl) : List String := enums.map fun e => dropDots e.fullName

/-- A scope with one class for each of some full names, the latest first. -/
structure EnumScope.Lists (scope : EnumScope) (keys classes : List String) : Prop where
  classes_eq : scope.classes = (keys.zip classes).reverse
  length_eq : keys.length = classes.length

variable {package : Option String} {enums : List EnumDecl} {scope scope' : EnumScope}
  {keys classes : List String}

/-- **The enums claim their classes in order.** -/
theorem claimAll_ok : ∀ {enums : List EnumDecl} {scope : EnumScope} {s : GenState}
    {keys classes : List String}, EnumScope.claimAll package enums scope s = .ok scope' s' →
    scope.Lists keys classes →
    ∃ more, scope'.Lists (keys ++ enumKeys enums) (classes ++ more) ∧
      s.names.Gives more s'.names
  | [], _, _, keys, classes, h, hl => by
    obtain ⟨rfl, rfl⟩ := pure_eq_ok_iff.mp h
    refine ⟨[], ?_, .nil _⟩
    simpa [enumKeys] using hl
  | e :: enums, scope, s, keys, classes, h, hl => by
    unfold EnumScope.claimAll at h
    obtain ⟨name, t, hclaim, hrest⟩ := bind_eq_ok_iff.mp h
    -- The scope grows at the front, so its full names and classes grow at the end.
    have hstep : EnumScope.Lists ⟨(dropDots e.fullName, name) :: scope.classes⟩
        (keys ++ [dropDots e.fullName]) (classes ++ [name]) := by
      refine ⟨?_, by simp [hl.length_eq]⟩
      rw [List.zip_append hl.length_eq, hl.classes_eq]
      simp
    obtain ⟨more, hlists, hgives⟩ := claimAll_ok hrest hstep
    refine ⟨name :: more, ?_, (gives_of_claim hclaim).2.trans hgives⟩
    simpa [enumKeys] using hlists

theorem claimAll_of_ne : ∀ (enums : List EnumDecl) (scope : EnumScope) (s : GenState),
    (∀ e ∈ enums, flatName e.fullName package ≠ "") →
    ∃ scope' s', EnumScope.claimAll package enums scope s = .ok scope' s'
  | [], scope, s, _ => ⟨scope, s, rfl⟩
  | e :: enums, scope, s, hne => by
    obtain ⟨name, t, hclaim, -, -⟩ :=
      Gen.claim_of_ne s (dropDots e.fullName) (hne e List.mem_cons_self)
    obtain ⟨scope', s', hrest⟩ := claimAll_of_ne enums
      ⟨(dropDots e.fullName, name) :: scope.classes⟩ t
      fun e' he' => hne e' (List.mem_cons_of_mem _ he')
    refine ⟨scope', s', ?_⟩
    unfold EnumScope.claimAll
    rw [bind_of_ok hclaim, hrest]

theorem ofFile_ok {file : SchemaFile} (h : EnumScope.ofFile file s = .ok scope s') :
    ∃ classes, scope.Lists (enumKeys file.enums) classes ∧ s.names.Gives classes s'.names := by
  have hempty : EnumScope.Lists {} [] [] := ⟨rfl, rfl⟩
  simpa using claimAll_ok h hempty

theorem ofFile_of_ne {file : SchemaFile} (s : GenState)
    (h : ∀ e ∈ file.enums, flatName e.fullName file.package ≠ "") :
    ∃ scope s', EnumScope.ofFile file s = .ok scope s' :=
  claimAll_of_ne file.enums {} s h

namespace EnumScope.Lists

theorem map_fst (h : scope.Lists keys classes) :
    scope.classes.map (·.1) = keys.reverse := by
  rw [h.classes_eq, List.map_reverse, List.map_fst_zip (Nat.le_of_eq h.length_eq)]

/-- A scope finds a class for the full names that it has, and no others. -/
theorem find?_eq_none_iff (h : scope.Lists keys classes) (fullName : String) :
    scope.find? fullName = none ↔ dropDots fullName ∉ keys := by
  unfold find?
  rw [List.lookup_eq_none_iff, ← List.mem_reverse, ← h.map_fst, List.mem_map]
  constructor
  · rintro hall ⟨p, hp, heq⟩
    simpa [heq] using hall p hp
  · intro hno p hp
    simp only [bne_iff_ne]
    rintro heq
    exact hno ⟨p, hp, heq.symm⟩

/-- What a scope finds is one of its classes. -/
theorem mem_of_find? (h : scope.Lists keys classes) (hf : scope.find? fullName = some name) :
    name ∈ classes := by
  obtain ⟨front, back, heq, -⟩ := List.lookup_eq_some_iff.mp hf
  have hmem : (dropDots fullName, name) ∈ (keys.zip classes).reverse := by
    rw [← h.classes_eq, heq]
    simp
  exact (List.of_mem_zip (List.mem_reverse.mp hmem)).2

/-- Where the full names differ, each of them finds the class that was claimed
for it. -/
theorem forall₂_lookup (h : scope.Lists keys classes) (hnodup : keys.Nodup) :
    List.Forall₂ (fun key name => scope.classes.lookup key = some name) keys classes := by
  refine List.forall₂_iff_zip.mpr ⟨h.length_eq, fun {key name} hmem => ?_⟩
  have hin : (key, name) ∈ scope.classes := by
    rw [h.classes_eq]
    exact List.mem_reverse.mpr hmem
  obtain ⟨front, back, hsplit⟩ := List.append_of_mem hin
  refine List.lookup_eq_some_iff.mpr ⟨front, back, hsplit, fun p hp => ?_⟩
  have hfst : (scope.classes.map (·.1)).Nodup := by
    rw [h.map_fst]
    exact List.nodup_reverse.mpr hnodup
  rw [hsplit, List.map_append, List.map_cons, List.nodup_append] at hfst
  have hne := hfst.2.2 p.1 (List.mem_map_of_mem hp) key List.mem_cons_self
  simpa using Ne.symm hne

end EnumScope.Lists

/-! ### The fields of a message -/

variable {wireClass writerClass : String} {f : Field} {fields rest : List Field}
  {drafts : List (Field × FieldNames)} {bs : List (Field × FieldBuilder)}

/-- A field and its builder, when the identifiers were just taken. -/
def FieldBuilder.begin (writerClass : String) (d : Field × FieldNames) : Field × FieldBuilder :=
  (d.1, { number := d.1.number, writerClass, phase := .active d.2 none })

/-- A repeated enum without a name ends the walk. -/
theorem startBuilders_of_nameless (wireClass writerClass : String) (rest : List Field)
    (r : Registry) (hf : f.isRepeatedEnum = true) (hname : f.name = "") :
    MessagePlan.startBuilders wireClass writerClass (f :: rest) r =
      throw (.name .emptyIdentifier) := by
  have hnew : FieldBuilder.new f.name f.number wireClass writerClass r =
      .error .emptyIdentifier r := by
    unfold FieldBuilder.new
    rw [hname, bind_of_error (FieldNames.derive_empty r wireClass)]
  rw [MessagePlan.startBuilders, FieldBuilder.create, if_pos hf, hnew]

/-- What a field does to the registry of its message, whatever fields follow: a
repeated enum takes identifiers, or fails if it has no name; any other field
takes none. -/
theorem startBuilders_cons_cases (wireClass writerClass : String) (f : Field) (r : Registry) :
    (f.isRepeatedEnum = false ∧ ∀ rest,
      MessagePlan.startBuilders wireClass writerClass (f :: rest) r = do
        Gen.report .warning
          ((CodegenError.mk (.unsupportedField f.label f.type) writerClass f.name).text
            ++ "; skipping field")
        MessagePlan.startBuilders wireClass writerClass rest r) ∨
    (f.isRepeatedEnum = true ∧ ∃ n r',
      (FieldNames.derive f.name wireClass r = .ok n r' ∧ r.Gives n.all r') ∧ ∀ rest,
      MessagePlan.startBuilders wireClass writerClass (f :: rest) r = do
        let more ← MessagePlan.startBuilders wireClass writerClass rest r'
        return FieldBuilder.begin writerClass (f, n) :: more) ∨
    (f.isRepeatedEnum = true ∧ f.name = "" ∧ ∀ rest,
      MessagePlan.startBuilders wireClass writerClass (f :: rest) r =
        throw (.name .emptyIdentifier)) := by
  by_cases hf : f.isRepeatedEnum = true
  · by_cases hname : f.name = ""
    · exact .inr (.inr ⟨hf, hname, fun rest =>
        startBuilders_of_nameless wireClass writerClass rest r hf hname⟩)
    · obtain ⟨n, r', hderive, hgives⟩ := FieldNames.derive_of_ne r wireClass hname
      refine .inr (.inl ⟨hf, n, r', ⟨hderive, hgives⟩, fun rest => ?_⟩)
      have hnew : FieldBuilder.new f.name f.number wireClass writerClass r =
          .ok (FieldBuilder.begin writerClass (f, n)).2 r' := by
        unfold FieldBuilder.new
        rw [bind_of_ok hderive]
        rfl
      rw [MessagePlan.startBuilders, FieldBuilder.create, if_pos hf, hnew]
      rfl
  · refine .inl ⟨by simpa using hf, fun rest => ?_⟩
    rw [MessagePlan.startBuilders, FieldBuilder.create, if_neg hf]

/-- **The repeated enums of a message get their identifiers in order**, and no
class name is taken meanwhile. -/
theorem startBuilders_ok : ∀ {fields : List Field} {r : Registry} {s s' : GenState}
    {bs : List (Field × FieldBuilder)},
    MessagePlan.startBuilders wireClass writerClass fields r s = .ok bs s' →
    ∃ (drafts : List (Field × FieldNames)) (r' : Registry),
      bs = drafts.map (FieldBuilder.begin writerClass) ∧
      drafts.map (·.1) = fields.filter (·.isRepeatedEnum) ∧
      r.Gives (drafts.flatMap (·.2.all)) r' ∧ s'.names = s.names
  | [], r, s, s', bs, h => by
    obtain ⟨rfl, rfl⟩ := pure_eq_ok_iff.mp h
    exact ⟨[], r, rfl, rfl, .nil r, rfl⟩
  | f :: rest, r, s, s', bs, h => by
    rcases startBuilders_cons_cases wireClass writerClass f r with
      ⟨hf, heq⟩ | ⟨hf, n, r₁, ⟨-, hgives⟩, heq⟩ | ⟨-, -, heq⟩
    · rw [heq] at h
      obtain ⟨_, t, hreport, hrest⟩ := bind_eq_ok_iff.mp h
      cases hreport
      obtain ⟨drafts, r', rfl, hfields, hgives, hnames⟩ := startBuilders_ok hrest
      exact ⟨drafts, r', rfl, by rw [hfields, List.filter_cons_of_neg (by simp [hf])], hgives,
        hnames⟩
    · rw [heq] at h
      obtain ⟨more, t, hrest, hpure⟩ := bind_eq_ok_iff.mp h
      obtain ⟨rfl, rfl⟩ := pure_eq_ok_iff.mp hpure
      obtain ⟨drafts, r', rfl, hfields, hgives', hnames⟩ := startBuilders_ok hrest
      refine ⟨(f, n) :: drafts, r', rfl, ?_, ?_, hnames⟩
      · rw [List.map_cons, hfields, List.filter_cons_of_pos hf]
      · rw [List.flatMap_cons]
        exact hgives.trans hgives'
    · rw [heq] at h
      cases h

/-- Each builder holds the identifiers that its field derived. -/
theorem derive_of_startBuilders : ∀ {fields : List Field} {r : Registry} {s s' : GenState}
    {bs : List (Field × FieldBuilder)},
    MessagePlan.startBuilders wireClass writerClass fields r s = .ok bs s' →
    ∀ b ∈ bs, ∃ n t t', b.2.phase = .active n none ∧
      FieldNames.derive b.1.name wireClass t = .ok n t'
  | [], _, _, _, _, h => by
    obtain ⟨rfl, -⟩ := pure_eq_ok_iff.mp h
    simp
  | f :: rest, r, s, s', bs, h => by
    rcases startBuilders_cons_cases wireClass writerClass f r with
      ⟨-, heq⟩ | ⟨-, n, r', ⟨hderive, -⟩, heq⟩ | ⟨-, -, heq⟩
    · rw [heq] at h
      obtain ⟨_, t, -, hrest⟩ := bind_eq_ok_iff.mp h
      exact derive_of_startBuilders hrest
    · rw [heq] at h
      obtain ⟨more, t, hrest, hpure⟩ := bind_eq_ok_iff.mp h
      obtain ⟨rfl, -⟩ := pure_eq_ok_iff.mp hpure
      exact List.forall_mem_cons.mpr ⟨⟨n, r, r', rfl, hderive⟩, derive_of_startBuilders hrest⟩
    · rw [heq] at h
      cases h

theorem startBuilders_of_ne (wireClass writerClass : String) : ∀ (fields : List Field)
    (r : Registry) (s : GenState), (∀ f ∈ fields, f.isRepeatedEnum = true → f.name ≠ "") →
    ∃ bs s', MessagePlan.startBuilders wireClass writerClass fields r s = .ok bs s'
  | [], _, s, _ => ⟨[], s, rfl⟩
  | f :: rest, r, s, hne => by
    have ih := fun r s => startBuilders_of_ne wireClass writerClass rest r s
      fun f' hf' => hne f' (List.mem_cons_of_mem _ hf')
    rcases startBuilders_cons_cases wireClass writerClass f r with
      ⟨-, heq⟩ | ⟨-, n, r₁, -, heq⟩ | ⟨hf, hname, -⟩
    · rw [heq]
      exact ih r _
    · obtain ⟨bs, s', hrest⟩ := ih r₁ s
      exact ⟨FieldBuilder.begin writerClass (f, n) :: bs, s', by rw [heq, bind_of_ok hrest]; rfl⟩
    · exact absurd hname (hne f List.mem_cons_self hf)

/-- The plan of a field on its own. -/
def draftPlan (scope : EnumScope) (writerClass : String) (d : Field × FieldNames) :
    Except GenError FieldPlan :=
  (scope.resolve d.1.typeName writerClass d.1.name).map fun enumClass =>
    { names := d.2, number := d.1.number, enumClass }

theorem draftPlan_ok {d : Field × FieldNames} {p : FieldPlan}
    (h : draftPlan scope writerClass d = .ok p) : p.names = d.2 ∧ p.number = d.1.number := by
  unfold draftPlan at h
  cases hres : scope.resolve d.1.typeName writerClass d.1.name with
  | error e =>
    rw [hres] at h
    cases h
  | ok enumClass =>
    rw [hres] at h
    cases h
    exact ⟨rfl, rfl⟩

theorem find?_of_draftPlan {d : Field × FieldNames} {p : FieldPlan}
    (h : draftPlan scope writerClass d = .ok p) :
    scope.find? d.1.typeName = some p.enumClass := by
  unfold draftPlan EnumScope.resolve at h
  cases hfind : scope.find? d.1.typeName with
  | none =>
    rw [hfind] at h
    cases h
  | some enumClass =>
    rw [hfind] at h
    cases h
    rfl

theorem draftPlans_ok {plans : List FieldPlan}
    (h : List.Forall₂ (fun d p => draftPlan scope writerClass d = .ok p) drafts plans) :
    plans.flatMap (·.names.all) = drafts.flatMap (·.2.all) ∧
      plans.map (·.number) = (drafts.map (·.1)).map (·.number) := by
  induction h with
  | nil => exact ⟨rfl, rfl⟩
  | cons hd _ ih =>
    obtain ⟨hnames, hnumber⟩ := draftPlan_ok hd
    simp only [List.flatMap_cons, List.map_cons, hnames, hnumber, ih, and_self]

/-- A builder that was not closed can be closed. -/
theorem FieldBuilder.close_of_open {b : FieldBuilder} (h : b.phase ≠ .closed) :
    ∃ b', b.close = .ok b' := by
  unfold FieldBuilder.close
  cases hp : b.phase with
  | active names enumClass => exact ⟨_, rfl⟩
  | closed => exact absurd hp h

/-- A new builder takes the class that its scope finds. -/
theorem resolveBuilder_begin (scope : EnumScope) (writerClass : String)
    (d : Field × FieldNames) :
    MessagePlan.resolveBuilder scope writerClass d.1 (FieldBuilder.begin writerClass d).2 =
      (scope.resolve d.1.typeName writerClass d.1.name).map fun enumClass =>
        ⟨d.1.number, writerClass, .active d.2 (some enumClass)⟩ := by
  unfold MessagePlan.resolveBuilder
  cases scope.resolve d.1.typeName writerClass d.1.name <;> rfl

/-- After resolution, whether it succeeded or not, all builders are open; and
the plans to be had are those of the fields on their own. -/
theorem resolveBuilders_begin (scope : EnumScope) (writerClass : String) :
    ∀ drafts : List (Field × FieldNames), ∃ outcome left,
      MessagePlan.resolveBuilders scope writerClass
        (drafts.map (FieldBuilder.begin writerClass)) = (outcome, left) ∧
      (∀ b ∈ left, b.phase ≠ .closed) ∧
      (outcome.bind fun _ => (left.mapM FieldBuilder.plan).mapError .builder) =
        drafts.mapM (draftPlan scope writerClass)
  | [] => ⟨.ok (), [], rfl, by simp, rfl⟩
  | d :: drafts => by
    obtain ⟨outcome, left, heq, hopen, hplans⟩ := resolveBuilders_begin scope writerClass drafts
    have hhead := resolveBuilder_begin scope writerClass d
    rw [List.map_cons, List.mapM_cons]
    cases hres : scope.resolve d.1.typeName writerClass d.1.name with
    | error e =>
      -- The builders after this one are left as they were started.
      rw [hres, Except.map] at hhead
      refine ⟨.error e, (d :: drafts).map fun d => (FieldBuilder.begin writerClass d).2, ?_, ?_,
        ?_⟩
      · simp only [FieldBuilder.begin] at hhead
        simp [MessagePlan.resolveBuilders, FieldBuilder.begin, hhead]
      · intro b hb
        obtain ⟨d', -, rfl⟩ := List.mem_map.mp hb
        simp [FieldBuilder.begin]
      · simp [draftPlan, hres, Except.bind, Except.map, bind]
    | ok enumClass =>
      rw [hres, Except.map] at hhead
      refine ⟨outcome, ⟨d.1.number, writerClass, .active d.2 (some enumClass)⟩ :: left, ?_, ?_, ?_⟩
      · unfold MessagePlan.resolveBuilders
        simp only [FieldBuilder.begin] at hhead heq ⊢
        simp only [hhead, heq]
      · simpa using hopen
      · -- If a later field fails, its error comes before any plan is asked for.
        rw [← hplans, draftPlan, hres, List.mapM_cons]
        cases outcome with
        | error e => rfl
        | ok u =>
          simp only [Except.bind, FieldBuilder.plan]
          cases left.mapM FieldBuilder.plan <;> rfl

/-- **Planning resolves each field on its own.** No builder is used out of
order, on the way to an error neither. -/
theorem planFields_begin (scope : EnumScope) (writerClass : String)
    (drafts : List (Field × FieldNames)) :
    MessagePlan.planFields scope writerClass (drafts.map (FieldBuilder.begin writerClass)) =
      drafts.mapM (draftPlan scope writerClass) := by
  obtain ⟨outcome, left, heq, hopen, hplans⟩ := resolveBuilders_begin scope writerClass drafts
  obtain ⟨closed, hclosed⟩ :=
    exists_mapM_except_ok fun b hb => FieldBuilder.close_of_open (hopen b hb)
  unfold MessagePlan.planFields
  rw [heq]
  simp only [hclosed, hplans]
  rfl

/-! ### Messages -/

namespace MessagePlan

/-- The classes of a message, in the order in which they are claimed. -/
def classNames (p : MessagePlan) : List String := [p.name, p.wireName, p.readerName]

/-- The identifiers that the fields of a message took. -/
def memberNames (p : MessagePlan) : List String := p.fields.flatMap (·.names.all)

end MessagePlan

variable {options : Options} {m : MessageDecl} {messages : List MessageDecl} {p : MessagePlan}
  {ps : List MessagePlan}

/-- Once the classes are claimed and the identifiers taken, a message depends on
the plans of its fields alone. -/
theorem build_of_started {name wireName readerName : String} {s₁ s₂ s₃ s₄ : GenState}
    (h₁ : Gen.claim (dropDots m.fullName) (flatName m.fullName package) s = .ok name s₁)
    (h₂ : Gen.claim (dropDots m.fullName) (name ++ options.wireSuffix) s₁ = .ok wireName s₂)
    (h₃ : Gen.claim (dropDots m.fullName) (name ++ options.readerSuffix) s₂ = .ok readerName s₃)
    (h₄ : MessagePlan.startBuilders wireName name m.fields
      ⟨reservedMembers ++ s₃.names.used⟩ s₃ = .ok bs s₄) :
    MessagePlan.build scope package options m s =
      match MessagePlan.planFields scope name bs with
      | .error e => .error e s₄
      | .ok fields => .ok ⟨name, wireName, readerName, fields⟩ { s₄ with log := s₄.log ++
          [⟨.debug, .generator,
            "Generated " ++ name ++ " with " ++ toString fields.length ++ " field(s)"⟩] } := by
  have htaken : Gen.takenNames s₃ = .ok s₃.names.used s₃ := rfl
  unfold MessagePlan.build
  rw [bind_of_ok h₁, bind_of_ok h₂, bind_of_ok h₃, bind_of_ok htaken, bind_of_ok h₄]
  cases MessagePlan.planFields scope name bs <;> rfl

/-- A message has a plan if its three claims succeed, its fields get
identifiers, and each of them is resolved. -/
theorem build_ok_iff : MessagePlan.build scope package options m s = .ok p s' ↔
    ∃ s₁ s₂ s₃ bs s₄,
      Gen.claim (dropDots m.fullName) (flatName m.fullName package) s = .ok p.name s₁ ∧
      Gen.claim (dropDots m.fullName) (p.name ++ options.wireSuffix) s₁ = .ok p.wireName s₂ ∧
      Gen.claim (dropDots m.fullName) (p.name ++ options.readerSuffix) s₂ = .ok p.readerName s₃ ∧
      MessagePlan.startBuilders p.wireName p.name m.fields ⟨reservedMembers ++ s₃.names.used⟩ s₃ =
        .ok bs s₄ ∧
      MessagePlan.planFields scope p.name bs = .ok p.fields ∧
      s' = { s₄ with log := s₄.log ++ [⟨.debug, .generator,
        "Generated " ++ p.name ++ " with " ++ toString p.fields.length ++ " field(s)"⟩] } := by
  constructor
  · intro h
    -- One copy gives the parts of the run, the other what they come to.
    have hbuild := h
    unfold MessagePlan.build at h
    obtain ⟨name, s₁, h₁, h⟩ := bind_eq_ok_iff.mp h
    obtain ⟨wireName, s₂, h₂, h⟩ := bind_eq_ok_iff.mp h
    obtain ⟨readerName, s₃, h₃, h⟩ := bind_eq_ok_iff.mp h
    obtain ⟨taken, _, htaken, h⟩ := bind_eq_ok_iff.mp h
    cases htaken
    obtain ⟨bs, s₄, h₄, -⟩ := bind_eq_ok_iff.mp h
    rw [build_of_started h₁ h₂ h₃ h₄] at hbuild
    cases hplan : MessagePlan.planFields scope name bs with
    | error e =>
      rw [hplan] at hbuild
      cases hbuild
    | ok fields =>
      rw [hplan] at hbuild
      cases hbuild
      exact ⟨s₁, s₂, s₃, bs, s₄, h₁, h₂, h₃, h₄, hplan, rfl⟩
  · rintro ⟨s₁, s₂, s₃, bs, s₄, h₁, h₂, h₃, h₄, hplan, rfl⟩
    rw [build_of_started h₁ h₂ h₃ h₄, hplan]

/-- **A message claims three classes and nothing else.** -/
theorem gives_of_build (h : MessagePlan.build scope package options m s = .ok p s') :
    s.names.Gives p.classNames s'.names := by
  obtain ⟨s₁, s₂, s₃, bs, s₄, h₁, h₂, h₃, h₄, -, rfl⟩ := build_ok_iff.mp h
  obtain ⟨-, -, -, -, -, hnames⟩ := startBuilders_ok h₄
  have hgives := ((gives_of_claim h₁).2.trans (gives_of_claim h₂).2).trans (gives_of_claim h₃).2
  rw [← hnames] at hgives
  exact hgives

theorem gives_of_mapM_build : ∀ {messages : List MessageDecl} {s : GenState}
    {ps : List MessagePlan},
    messages.mapM (MessagePlan.build scope package options) s = .ok ps s' →
    s.names.Gives (ps.flatMap (·.classNames)) s'.names
  | [], s, ps, h => by
    obtain ⟨rfl, rfl⟩ := mapM_nil_eq_ok_iff.mp h
    exact .nil _
  | m :: messages, s, ps, h => by
    obtain ⟨p, t, more, hp, hmore, rfl⟩ := mapM_cons_eq_ok_iff.mp h
    rw [List.flatMap_cons]
    exact (gives_of_build hp).trans (gives_of_mapM_build hmore)

/-- **The fields of a message take identifiers beside the reserved members and
all class names so far**, six for each repeated enum. -/
theorem gives_members_of_build (h : MessagePlan.build scope package options m s = .ok p s') :
    p.fields.map (·.number) = (m.fields.filter (·.isRepeatedEnum)).map (·.number) ∧
      ∃ r', Registry.Gives ⟨reservedMembers ++ s'.names.used⟩ p.memberNames r' := by
  obtain ⟨s₁, s₂, s₃, bs, s₄, -, -, -, h₄, hplan, rfl⟩ := build_ok_iff.mp h
  obtain ⟨drafts, r', rfl, hfields, hgives, hnames⟩ := startBuilders_ok h₄
  rw [planFields_begin, mapM_except_eq_ok_iff] at hplan
  obtain ⟨hall, hnumbers⟩ := draftPlans_ok hplan
  refine ⟨by rw [hnumbers, hfields], r', ?_⟩
  rw [MessagePlan.memberNames, hall, hnames]
  exact hgives

/-- **What a planned field holds**: the identifiers that it derived, and the
class that the scope finds for its enum. -/
theorem fields_of_build (h : MessagePlan.build scope package options m s = .ok p s') :
    List.Forall₂ (fun (d : Field) (f : FieldPlan) =>
        (∃ r r', FieldNames.derive d.name p.wireName r = .ok f.names r') ∧
          scope.find? d.typeName = some f.enumClass)
      (m.fields.filter (·.isRepeatedEnum)) p.fields := by
  obtain ⟨s₁, s₂, s₃, bs, s₄, -, -, -, hstart, hplan, -⟩ := build_ok_iff.mp h
  have hderive := derive_of_startBuilders hstart
  obtain ⟨drafts, -, rfl, hfields, -, -⟩ := startBuilders_ok hstart
  rw [planFields_begin, mapM_except_eq_ok_iff] at hplan
  rw [← hfields, List.forall₂_map_left_iff]
  have hnames : ∀ d ∈ drafts, ∃ r r', FieldNames.derive d.1.name p.wireName r = .ok d.2 r' := by
    intro d hd
    obtain ⟨n, r, r', hphase, hn⟩ := hderive _ (List.mem_map_of_mem hd)
    cases hphase
    exact ⟨r, r', hn⟩
  refine ((List.forall₂_and_left _ _).mpr ⟨hnames, hplan⟩).imp fun d f hd => ?_
  obtain ⟨⟨r, r', hd⟩, hf⟩ := hd
  refine ⟨⟨r, r', ?_⟩, find?_of_draftPlan hf⟩
  rw [hd, (draftPlan_ok hf).1]

/-! ### Modules -/

/-- The plan of an enum by the class that its scope finds. -/
def enumPlan (scope : EnumScope) (e : EnumDecl) : Except GenError EnumPlan :=
  (scope.classOf e.fullName).map (EnumPlan.ofDecl · e)

/-- The plans of the enums only ask the scope. -/
theorem mapM_enumPlan (scope : EnumScope) (s : GenState) : ∀ enums : List EnumDecl,
    (enums.mapM fun e => do
      let className ← Gen.ofExcept (scope.classOf e.fullName)
      return EnumPlan.ofDecl className e : Gen (List EnumPlan)) s =
      Gen.ofExcept (enums.mapM (enumPlan scope)) s
  | [] => rfl
  | e :: enums => by
    rw [List.mapM_cons, List.mapM_cons, enumPlan]
    cases he : scope.classOf e.fullName with
    | error err => rfl
    | ok className =>
      have hhead : (do
          let className ← Gen.ofExcept (Except.ok className)
          return EnumPlan.ofDecl className e : Gen EnumPlan) s =
            .ok (EnumPlan.ofDecl className e) s := rfl
      rw [bind_of_ok hhead]
      have ih := mapM_enumPlan scope s enums
      cases hmore : enums.mapM (enumPlan scope) with
      | error err =>
        rw [hmore] at ih
        rw [bind_of_error ih]
        rfl
      | ok more =>
        rw [hmore] at ih
        rw [bind_of_ok ih]
        rfl

variable {file : SchemaFile} {plan : ModulePlan}

/-- A file has a module if its enums get classes, its messages get plans, and
each enum is found again. -/
theorem generate_ok_iff : (ModulePlan.generate file options).1 = .ok plan ↔
    ∃ scope s s', EnumScope.ofFile file {} = .ok scope s ∧
      file.messages.mapM (MessagePlan.build scope file.package options) s =
        .ok plan.messages s' ∧
      file.enums.mapM (enumPlan scope) = .ok plan.enums ∧
      plan.source = file.name ∧ plan.runtimePackage = options.runtimePackage := by
  have hbuild : (ModulePlan.generate file options).1 = .ok plan ↔
      ∃ s', ModulePlan.build file options {} = .ok plan s' := by
    unfold ModulePlan.generate
    cases ModulePlan.build file options {} <;> simp
  rw [hbuild]
  unfold ModulePlan.build
  constructor
  · rintro ⟨s', h⟩
    obtain ⟨scope, s, hscope, h⟩ := bind_eq_ok_iff.mp h
    obtain ⟨messages, t, hmessages, h⟩ := bind_eq_ok_iff.mp h
    obtain ⟨enums, u, henums, h⟩ := bind_eq_ok_iff.mp h
    rw [mapM_enumPlan] at henums
    cases hplan : file.enums.mapM (enumPlan scope) with
    | error e =>
      simp only [hplan, Gen.ofExcept] at henums
      cases henums
    | ok enums =>
      simp only [hplan, Gen.ofExcept] at henums
      cases henums
      cases h
      exact ⟨scope, s, _, hscope, hmessages, hplan, rfl, rfl⟩
  · rintro ⟨scope, s, t, hscope, hmessages, hplan, hsource, hpackage⟩
    refine ⟨t, ?_⟩
    rw [bind_of_ok hscope, bind_of_ok hmessages]
    have henums := mapM_enumPlan scope t file.enums
    rw [hplan] at henums
    rw [bind_of_ok henums, ← hsource, ← hpackage]
    rfl

end WireSchema
