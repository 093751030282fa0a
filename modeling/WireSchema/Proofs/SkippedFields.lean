/-
# Fields without code leave no trace but a report

A field that is not a repeated enum passes the same walk as the others and is
left out in the middle of it. It takes no name and no part in any later pass,
so a file without such fields has the same module, or fails with the same
error (`generate_onlyRepeatedEnums`).

Both runs are followed side by side. At every point the same class names are
taken, and the log of the run with the fields is the log of the other run with
some reports put in (`GenState.Beside`). Work that only reports keeps this up
(`Gen.OnlyReports.beside`); the walk over the fields of a message adds one
report for each field that it leaves out (`startBuilders_beside`).

Which fields those are is said of the file alone. The walk goes through the
messages up to the first that ends the run, and in that one up to the first
repeated enum without a name (`SchemaFile.skipped`).

Key definitions: `SchemaFile.onlyRepeatedEnums`, `SchemaFile.Completes`,
`SchemaFile.skipped`, `SkippedField.ReportedBy`, `Interleaved`.
Key theorems: `Gen.OnlyReports.beside`, `startBuilders_beside`,
`build_beside`, `mapM_build_beside`, `completes_of_build`,
`generate_onlyRepeatedEnums`.
-/

import Mathlib.Data.List.TakeWhile
import WireSchema.Proofs.Resolution
import WireSchema.Proofs.Stability

namespace WireSchema

/-! ### Fields that are left out -/

/-- The message with the fields that have code. -/
def MessageDecl.onlyRepeatedEnums (m : MessageDecl) : MessageDecl :=
  { m with fields := m.fields.filter (·.isRepeatedEnum) }

/-- The file with the fields that have code. -/
def SchemaFile.onlyRepeatedEnums (file : SchemaFile) : SchemaFile :=
  { file with messages := file.messages.map MessageDecl.onlyRepeatedEnums }

/-- The fields that the walk over a message passes: a repeated enum without a
name ends it. -/
def passedFields (fields : List Field) : List Field :=
  fields.takeWhile fun f => !(f.isRepeatedEnum && f.name == "")

/-- The fields that the walk over a message leaves out. -/
def leftOut (fields : List Field) : List Field :=
  (passedFields fields).filter (!·.isRepeatedEnum)

/-- A field that is left out, in a message that comes after the messages
`before`. -/
structure SkippedField where
  before : List MessageDecl
  message : MessageDecl
  field : Field
deriving DecidableEq

namespace SchemaFile

/-- Nothing in the message ends the run. -/
def Completes (file : SchemaFile) (m : MessageDecl) : Prop :=
  flatName m.fullName file.package ≠ "" ∧
    ∀ f ∈ m.fields, f.isRepeatedEnum = true → f.name ≠ "" ∧ file.Declares f.typeName

instance (file : SchemaFile) (m : MessageDecl) : Decidable (file.Completes m) :=
  inferInstanceAs (Decidable (_ ∧ _))

/-- The fields left out in one message. A message without a name gets no class
and is not walked. -/
def skippedIn (file : SchemaFile) (before : List MessageDecl) (m : MessageDecl) :
    List SkippedField :=
  if flatName m.fullName file.package = "" then []
  else (leftOut m.fields).map fun f => ⟨before, m, f⟩

/-- The fields left out from some message on, up to the one that ends the run. -/
def skippedFrom (file : SchemaFile) : List MessageDecl → List MessageDecl → List SkippedField
  | _, [] => []
  | before, m :: rest =>
    file.skippedIn before m ++
      if file.Completes m then file.skippedFrom (before ++ [m]) rest else []

/-- The fields left out in a run, in the order of messages and fields. An enum
without a name ends the run before the first message. -/
def skipped (file : SchemaFile) : List SkippedField :=
  if ∀ e ∈ file.enums, flatName e.fullName file.package ≠ "" then file.skippedFrom [] file.messages
  else []

end SchemaFile

/-- The report that a field is left out. -/
def skipReport (writerClass : String) (f : Field) : LogEntry :=
  ⟨.warning, .generator,
    (CodegenError.mk (.unsupportedField f.label f.type) writerClass f.name).text
      ++ "; skipping field"⟩

/-- The entry reports the field under the class name that its message claimed. -/
def SkippedField.ReportedBy (file : SchemaFile) (options : Options) (x : SkippedField)
    (entry : LogEntry) : Prop :=
  ∃ name, ClaimsClass file options x.before x.message name ∧ entry = skipReport name x.field

theorem passedFields_of_named {fields : List Field}
    (h : ∀ f ∈ fields, f.isRepeatedEnum = true → f.name ≠ "") : passedFields fields = fields := by
  refine List.takeWhile_eq_self_iff.mpr fun f hf => ?_
  by_cases henum : f.isRepeatedEnum = true
  · simp [henum, h f hf henum]
  · simp [henum]

theorem leftOut_cons_of_passed {f : Field} (rest : List Field)
    (h : f.isRepeatedEnum = true → f.name ≠ "") :
    leftOut (f :: rest) = (if f.isRepeatedEnum then [] else [f]) ++ leftOut rest := by
  unfold leftOut passedFields
  by_cases henum : f.isRepeatedEnum = true
  · simp [henum, h henum]
  · simp [henum]

theorem leftOut_cons_of_nameless {f : Field} (rest : List Field) (hf : f.isRepeatedEnum = true)
    (hname : f.name = "") : leftOut (f :: rest) = [] := by
  simp [leftOut, passedFields, hf, hname]

/-- Where every message completes, all fields without code are left out. -/
theorem skippedFrom_of_completes {file : SchemaFile} : ∀ (messages before : List MessageDecl),
    (∀ m ∈ messages, file.Completes m) →
    (file.skippedFrom before messages).map (·.field) =
      messages.flatMap fun m => m.fields.filter (!·.isRepeatedEnum)
  | [], _, _ => rfl
  | m :: rest, before, h => by
    obtain ⟨hm, hrest⟩ := List.forall_mem_cons.mp h
    have hnamed : ∀ f ∈ m.fields, f.isRepeatedEnum = true → f.name ≠ "" :=
      fun f hf henum => (hm.2 f hf henum).1
    rw [SchemaFile.skippedFrom, if_pos hm, List.map_append, List.flatMap_cons,
      skippedFrom_of_completes rest _ hrest, SchemaFile.skippedIn, if_neg hm.1, leftOut,
      passedFields_of_named hnamed]
    simp [Function.comp_def]

/-! ### Two runs side by side -/

/-- The third list has the entries of the first two, each in order. -/
inductive Interleaved {α : Type} : List α → List α → List α → Prop
  | nil : Interleaved [] [] []
  | left {x : α} {xs ys zs : List α} : Interleaved xs ys zs → Interleaved (x :: xs) ys (x :: zs)
  | right {y : α} {xs ys zs : List α} : Interleaved xs ys zs → Interleaved xs (y :: ys) (y :: zs)

namespace Interleaved

variable {α : Type} {xs ys zs xs' ys' zs' : List α}

theorem append (h : Interleaved xs ys zs) (h' : Interleaved xs' ys' zs') :
    Interleaved (xs ++ xs') (ys ++ ys') (zs ++ zs') := by
  induction h with
  | nil => exact h'
  | left _ ih => exact ih.left
  | right _ ih => exact ih.right

theorem only_right : ∀ ys : List α, Interleaved [] ys ys
  | [] => .nil
  | _ :: ys => (only_right ys).right

end Interleaved

/-- Two states of runs with the same class names; in the first, the `extra`
reports were made beside those of the second. -/
structure GenState.Beside (extra : List LogEntry) (s t : GenState) : Prop where
  names_eq : s.names = t.names
  log : Interleaved extra t.log s.log

/-- The same outcome, in states side by side. -/
inductive Gen.ResultBeside {α : Type} (extra : List LogEntry) :
    EStateM.Result GenError GenState α → EStateM.Result GenError GenState α → Prop
  | ok {a : α} {s t : GenState} (h : s.Beside extra t) : ResultBeside extra (.ok a s) (.ok a t)
  | error {e : GenError} {s t : GenState} (h : s.Beside extra t) :
      ResultBeside extra (.error e s) (.error e t)

section SideBySide

variable {α β : Type} {x y : Gen α} {f : α → Gen β} {s t : GenState} {a : α}
  {extra : List LogEntry}

theorem GenState.Beside.report (h : s.Beside extra t) (entry : LogEntry) :
    GenState.Beside (extra ++ [entry]) { s with log := s.log ++ [entry] } t := by
  have hlog := h.log.append (.left .nil : Interleaved [entry] [] [entry])
  rw [List.append_nil] at hlog
  exact ⟨h.names_eq, hlog⟩

/-- Work that only reports does the same from states side by side. -/
theorem Gen.OnlyReports.beside (hx : Gen.OnlyReports x) (h : s.Beside extra t) :
    Gen.ResultBeside extra (x s) (x t) := by
  have hstart : { s with log := [] } = { t with log := [] } := by rw [h.names_eq]
  have hlog := fun more => h.log.append (.only_right more)
  simp only [List.append_nil] at hlog
  rw [hx s, hx t, hstart]
  cases x { t with log := [] } with
  | ok a u => exact .ok ⟨rfl, hlog u.log⟩
  | error e u => exact .error ⟨rfl, hlog u.log⟩

theorem Gen.ResultBeside.bind (h : Gen.ResultBeside extra (x s) (y t))
    (hf : ∀ a, Gen.OnlyReports (f a)) : Gen.ResultBeside extra ((x >>= f) s) ((y >>= f) t) := by
  generalize hx : x s = result at h
  generalize hy : y t = result' at h
  cases h with
  | ok hbeside =>
    rw [bind_of_ok hx, bind_of_ok hy]
    exact (hf _).beside hbeside
  | error hbeside =>
    rw [bind_of_error hx, bind_of_error hy]
    exact .error hbeside

/-- Work that only reports and succeeds does so in the other run too. -/
theorem Gen.OnlyReports.beside_of_ok (hx : Gen.OnlyReports x) (h : s.Beside extra t)
    {s' : GenState} (hok : x s = .ok a s') : ∃ t', x t = .ok a t' ∧ s'.Beside extra t' := by
  have hres := hx.beside h
  rw [hok] at hres
  generalize hy : x t = result at hres
  cases hres with
  | ok hbeside => exact ⟨_, rfl, hbeside⟩

end SideBySide

/-! ### The walk over the fields -/

variable {file : SchemaFile} {scope : EnumScope} {classes : List String}
  {package : Option String} {options : Options} {m : MessageDecl} {s s' t : GenState}
  {extra : List LogEntry}

/-- **The walk reports each field that it leaves out**, and does nothing else
than the walk without these fields. -/
theorem startBuilders_beside (wireClass writerClass : String) : ∀ (fields : List Field)
    (r : Registry) {s t : GenState} {extra : List LogEntry}, s.Beside extra t →
    Gen.ResultBeside (extra ++ (leftOut fields).map (skipReport writerClass))
      (MessagePlan.startBuilders wireClass writerClass fields r s)
      (MessagePlan.startBuilders wireClass writerClass (fields.filter (·.isRepeatedEnum)) r t)
  | [], r, s, t, extra, h => by
    have hleft : leftOut [] = [] := rfl
    rw [hleft, List.map_nil, List.append_nil]
    exact .ok h
  | f :: rest, r, s, t, extra, h => by
    by_cases hnameless : f.isRepeatedEnum = true ∧ f.name = ""
    · -- Both walks end here.
      obtain ⟨hf, hname⟩ := hnameless
      rw [leftOut_cons_of_nameless rest hf hname, List.filter_cons_of_pos hf,
        startBuilders_of_nameless _ _ _ _ hf hname, startBuilders_of_nameless _ _ _ _ hf hname,
        List.map_nil, List.append_nil]
      exact .error h
    · have hpassed : f.isRepeatedEnum = true → f.name ≠ "" := fun hf hname => hnameless ⟨hf, hname⟩
      rw [leftOut_cons_of_passed rest hpassed]
      rcases startBuilders_cons_cases wireClass writerClass f r with
        ⟨hf, heq⟩ | ⟨hf, n, r', -, heq⟩ | ⟨hf, hname, -⟩
      · have ih := startBuilders_beside wireClass writerClass rest r
          (h.report (skipReport writerClass f))
        rw [heq, List.filter_cons_of_neg (by simp [hf]), if_neg (by simp [hf]), List.map_append,
          ← List.append_assoc]
        exact ih
      · have ih := startBuilders_beside wireClass writerClass rest r' h
        rw [heq, List.filter_cons_of_pos hf, heq]
        rw [if_pos hf, List.nil_append]
        exact ih.bind fun more => .pure _
      · exact absurd hname (hpassed hf)

/-! ### Messages -/

/-- A message with a name reports the fields that it leaves out under the class
name that it claims, and does nothing else than the message without them. -/
theorem build_beside (scope : EnumScope) (options : Options) (h : s.Beside extra t)
    (hm : flatName m.fullName package ≠ "") :
    ∃ name s₁, Gen.claim (dropDots m.fullName) (flatName m.fullName package) s = .ok name s₁ ∧
      Gen.ResultBeside (extra ++ (leftOut m.fields).map (skipReport name))
        (MessagePlan.build scope package options m s)
        (MessagePlan.build scope package options m.onlyRepeatedEnums t) := by
  obtain ⟨name, s₁, h₁, hname, -⟩ := Gen.claim_of_ne s (dropDots m.fullName) hm
  obtain ⟨wireName, s₂, h₂, -, -⟩ := Gen.claim_of_ne s₁ (dropDots m.fullName)
    (show name ++ options.wireSuffix ≠ "" by simp [hname])
  obtain ⟨readerName, s₃, h₃, -, -⟩ := Gen.claim_of_ne s₂ (dropDots m.fullName)
    (show name ++ options.readerSuffix ≠ "" by simp [hname])
  obtain ⟨t₁, ht₁, hb₁⟩ := (Gen.OnlyReports.claim _ _).beside_of_ok h h₁
  obtain ⟨t₂, ht₂, hb₂⟩ := (Gen.OnlyReports.claim _ _).beside_of_ok hb₁ h₂
  obtain ⟨t₃, ht₃, hb₃⟩ := (Gen.OnlyReports.claim _ _).beside_of_ok hb₂ h₃
  have htaken : Gen.takenNames s₃ = .ok s₃.names.used s₃ := rfl
  have htaken' : Gen.takenNames t₃ = .ok s₃.names.used t₃ := by
    rw [hb₃.names_eq]
    rfl
  refine ⟨name, s₁, h₁, ?_⟩
  unfold MessagePlan.build MessageDecl.onlyRepeatedEnums
  rw [bind_of_ok h₁, bind_of_ok h₂, bind_of_ok h₃, bind_of_ok htaken, bind_of_ok ht₁,
    bind_of_ok ht₂, bind_of_ok ht₃, bind_of_ok htaken']
  refine (startBuilders_beside wireName name m.fields _ hb₃).bind fun bs => ?_
  refine (Gen.OnlyReports.ofExcept _).bind fun fields => ?_
  exact (Gen.OnlyReports.report _ _).bind fun _ => .pure _

theorem build_of_nameless (scope : EnumScope) (options : Options) (s : GenState)
    (hm : flatName m.fullName package = "") :
    MessagePlan.build scope package options m s = .error (.name .emptyIdentifier) s := by
  unfold MessagePlan.build
  rw [hm, bind_of_error (Gen.claim_empty s _)]

theorem named_of_startBuilders {wireClass writerClass : String} : ∀ {fields : List Field}
    {r : Registry} {s s' : GenState} {bs : List (Field × FieldBuilder)},
    MessagePlan.startBuilders wireClass writerClass fields r s = .ok bs s' →
    ∀ f ∈ fields, f.isRepeatedEnum = true → f.name ≠ ""
  | [], _, _, _, _, _ => by simp
  | f :: rest, r, s, s', bs, h => by
    rw [List.forall_mem_cons]
    rcases startBuilders_cons_cases wireClass writerClass f r with
      ⟨hf, heq⟩ | ⟨-, n, r', -, heq⟩ | ⟨-, -, heq⟩
    · rw [heq] at h
      obtain ⟨_, u, -, hrest⟩ := bind_eq_ok_iff.mp h
      exact ⟨by simp [hf], named_of_startBuilders hrest⟩
    · refine ⟨fun hf hname => ?_, ?_⟩
      · rw [startBuilders_of_nameless _ _ _ _ hf hname] at h
        cases h
      · rw [heq] at h
        obtain ⟨bs', u, hrest, -⟩ := bind_eq_ok_iff.mp h
        exact named_of_startBuilders hrest
    · rw [heq] at h
      cases h

/-- A message that is planned completes. -/
theorem completes_of_build (hl : scope.Lists (enumKeys file.enums) classes) {p : MessagePlan}
    (h : MessagePlan.build scope file.package options m s = .ok p s') : file.Completes m := by
  refine ⟨fun hm => ?_, fun f hf henum => ?_⟩
  · rw [build_of_nameless scope options s hm] at h
    cases h
  · obtain ⟨s₁, s₂, s₃, bs, s₄, -, -, -, h₄, hplan, -⟩ := build_ok_iff.mp h
    refine ⟨named_of_startBuilders h₄ f hf henum, ?_⟩
    by_contra hnot
    obtain ⟨drafts, -, rfl, hfields, -, -⟩ := startBuilders_ok h₄
    have hmem : f ∈ drafts.map (·.1) := by
      rw [hfields]
      exact List.mem_filter.mpr ⟨hf, henum⟩
    obtain ⟨d, hd, rfl⟩ := List.mem_map.mp hmem
    rw [planFields_begin, mapM_except_eq_ok_iff] at hplan
    obtain ⟨q, -, hq⟩ := exists_of_mem_forall₂ hplan.flip hd
    rw [draftPlan_of_not_declares hl hnot] at hq
    cases hq

theorem exists_build_of_completes (hl : scope.Lists (enumKeys file.enums) classes)
    (options : Options) (s : GenState) (h : file.Completes m) :
    ∃ p t, MessagePlan.build scope file.package options m s = .ok p t :=
  exists_build_ok hl options s h.1 (fun f hf henum => (h.2 f hf henum).1)
    fun f hf henum => (h.2 f hf henum).2

/-- A message reports the fields that are left out in it. -/
theorem build_reports {s₀ : GenState} {before : List MessageDecl} {ps : List MessagePlan}
    (hscope : EnumScope.ofFile file {} = .ok scope s₀)
    (hbefore : before.mapM (MessagePlan.build scope file.package options) s₀ = .ok ps s)
    (h : s.Beside extra t) :
    ∃ more, List.Forall₂ (SkippedField.ReportedBy file options) (file.skippedIn before m) more ∧
      Gen.ResultBeside (extra ++ more) (MessagePlan.build scope file.package options m s)
        (MessagePlan.build scope file.package options m.onlyRepeatedEnums t) := by
  unfold SchemaFile.skippedIn
  by_cases hm : flatName m.fullName file.package = ""
  · refine ⟨[], by rw [if_pos hm]; exact .nil, ?_⟩
    rw [List.append_nil, build_of_nameless scope options s hm,
      build_of_nameless (m := m.onlyRepeatedEnums) scope options t hm]
    exact .error h
  · obtain ⟨name, s₁, hclaim, hbuild⟩ := build_beside scope options h hm
    refine ⟨(leftOut m.fields).map (skipReport name), ?_, hbuild⟩
    rw [if_neg hm, List.forall₂_map_left_iff, List.forall₂_map_right_iff, List.forall₂_same]
    exact fun f _ => ⟨name, ⟨scope, s₀, ps, s, s₁, hscope, hbefore, hclaim⟩, rfl⟩

/-- **The messages of a file report the fields that are left out**, up to the
one that ends the run, and do nothing else than the messages without them. -/
theorem mapM_build_beside {s₀ : GenState} (hscope : EnumScope.ofFile file {} = .ok scope s₀)
    (options : Options) : ∀ (messages before : List MessageDecl) {ps : List MessagePlan}
    {s t : GenState} {extra : List LogEntry},
    before.mapM (MessagePlan.build scope file.package options) s₀ = .ok ps s →
    s.Beside extra t →
    ∃ more, List.Forall₂ (SkippedField.ReportedBy file options)
        (file.skippedFrom before messages) more ∧
      Gen.ResultBeside (extra ++ more)
        (messages.mapM (MessagePlan.build scope file.package options) s)
        ((messages.map MessageDecl.onlyRepeatedEnums).mapM
          (MessagePlan.build scope file.package options) t)
  | [], before, ps, s, t, extra, hbefore, h => by
    refine ⟨[], .nil, ?_⟩
    rw [List.append_nil]
    exact .ok h
  | m :: rest, before, ps, s, t, extra, hbefore, h => by
    obtain ⟨classes, hl, -⟩ := ofFile_ok hscope
    obtain ⟨reports, hreports, hbuild⟩ := build_reports (m := m) hscope hbefore h
    rw [SchemaFile.skippedFrom, List.map_cons, List.mapM_cons, List.mapM_cons]
    generalize hresult : MessagePlan.build scope file.package options m s = result at hbuild
    generalize hresult' : MessagePlan.build scope file.package options m.onlyRepeatedEnums t =
      result' at hbuild
    cases hbuild with
    | ok hbeside =>
      have hbefore' := mapM_append_eq_ok_iff.mpr ⟨ps, s, _, hbefore,
        mapM_cons_eq_ok_iff.mpr ⟨_, _, [], hresult, mapM_nil_eq_ok_iff.mpr ⟨rfl, rfl⟩, rfl⟩, rfl⟩
      obtain ⟨more, hmore, hrest⟩ :=
        mapM_build_beside hscope options rest (before ++ [m]) hbefore' hbeside
      refine ⟨reports ++ more, ?_, ?_⟩
      · rw [if_pos (completes_of_build hl hresult)]
        exact List.rel_append hreports hmore
      · rw [← List.append_assoc, bind_of_ok hresult, bind_of_ok hresult']
        exact hrest.bind fun more => .pure _
    | error hbeside =>
      have hnot : ¬ file.Completes m := by
        intro hc
        obtain ⟨p, u, hok⟩ := exists_build_of_completes hl options s hc
        rw [hresult] at hok
        cases hok
      refine ⟨reports, ?_, ?_⟩
      · rw [if_neg hnot, List.append_nil]
        exact hreports
      · rw [bind_of_error hresult, bind_of_error hresult']
        exact .error hbeside

theorem completes_of_mapM_build (hl : scope.Lists (enumKeys file.enums) classes)
    {messages : List MessageDecl} {ps : List MessagePlan}
    (h : messages.mapM (MessagePlan.build scope file.package options) s = .ok ps s') :
    ∀ m ∈ messages, file.Completes m := by
  intro m hm
  obtain ⟨p, -, t, t', hbuild⟩ := exists_of_mem_forall₂ (forall₂_of_mapM h).flip hm
  exact completes_of_build hl hbuild

/-! ### Files -/

theorem named_of_claimAll {scope' : EnumScope} : ∀ {enums : List EnumDecl} {scope : EnumScope}
    {s : GenState}, EnumScope.claimAll package enums scope s = .ok scope' s' →
    ∀ e ∈ enums, flatName e.fullName package ≠ ""
  | [], _, _, _ => by simp
  | e :: rest, scope, s, h => by
    unfold EnumScope.claimAll at h
    obtain ⟨name, t, hclaim, hrest⟩ := bind_eq_ok_iff.mp h
    refine List.forall_mem_cons.mpr ⟨fun hname => ?_, named_of_claimAll hrest⟩
    rw [hname, Gen.claim_empty] at hclaim
    cases hclaim

/-- The two runs over a file, from the start to the end. -/
theorem build_module_beside (file : SchemaFile) (options : Options) :
    ∃ extra, List.Forall₂ (SkippedField.ReportedBy file options) file.skipped extra ∧
      Gen.ResultBeside extra (ModulePlan.build file options {})
        (ModulePlan.build file.onlyRepeatedEnums options {}) := by
  have hstart : GenState.Beside [] {} {} := ⟨rfl, .nil⟩
  have hsame : EnumScope.ofFile file.onlyRepeatedEnums = EnumScope.ofFile file := rfl
  unfold ModulePlan.build
  rw [hsame]
  cases hscope : EnumScope.ofFile file {} with
  | error e s =>
    have hnot : ¬ ∀ e ∈ file.enums, flatName e.fullName file.package ≠ "" := by
      intro hnamed
      obtain ⟨scope, t, hok⟩ := ofFile_of_ne {} hnamed
      rw [hscope] at hok
      cases hok
    refine ⟨[], ?_, ?_⟩
    · rw [SchemaFile.skipped, if_neg hnot]
      exact .nil
    · rw [bind_of_error hscope, bind_of_error hscope]
      exact .error ⟨rfl, .only_right _⟩
  | ok scope s =>
    have hbeside : s.Beside [] s := ⟨rfl, .only_right _⟩
    obtain ⟨more, hmore, hrun⟩ := mapM_build_beside hscope options file.messages []
      (mapM_nil_eq_ok_iff.mpr ⟨rfl, rfl⟩) hbeside
    refine ⟨more, ?_, ?_⟩
    · rw [SchemaFile.skipped, if_pos (named_of_claimAll hscope)]
      exact hmore
    · rw [bind_of_ok hscope, bind_of_ok hscope]
      refine hrun.bind fun messages => ?_
      refine (Gen.OnlyReports.mapM (fun e => ?_) file.enums).bind fun enums => .pure _
      exact (Gen.OnlyReports.ofExcept _).bind fun className => .pure _

theorem skipped_of_generate {plan : ModulePlan}
    (h : (ModulePlan.generate file options).1 = .ok plan) :
    file.skipped.map (·.field) =
      file.messages.flatMap fun m => m.fields.filter (!·.isRepeatedEnum) := by
  obtain ⟨scope, s, s', hscope, hmessages, -, -, -⟩ := generate_ok_iff.mp h
  obtain ⟨classes, hl, -⟩ := ofFile_ok hscope
  rw [SchemaFile.skipped, if_pos (named_of_claimAll hscope)]
  exact skippedFrom_of_completes _ _ (completes_of_mapM_build hl hmessages)

/-- **Fields without code do not influence the output.** A file and the same
file without the fields that are not repeated enums have the same module or the
same error. The log of the first has one more report for each field that the
walk left out before the run ended, in the order of messages and fields; these
are all fields without code if there is a module. -/
theorem generate_onlyRepeatedEnums (file : SchemaFile) (options : Options) :
    (ModulePlan.generate file options).1 =
        (ModulePlan.generate file.onlyRepeatedEnums options).1 ∧
      (∃ extra, List.Forall₂ (SkippedField.ReportedBy file options) file.skipped extra ∧
        Interleaved extra (ModulePlan.generate file.onlyRepeatedEnums options).2
          (ModulePlan.generate file options).2) ∧
      ∀ plan, (ModulePlan.generate file options).1 = .ok plan →
        file.skipped.map (·.field) =
          file.messages.flatMap fun m => m.fields.filter (!·.isRepeatedEnum) := by
  obtain ⟨extra, hextra, hrun⟩ := build_module_beside file options
  rw [← and_assoc]
  refine ⟨?_, fun plan => skipped_of_generate⟩
  unfold ModulePlan.generate
  generalize ModulePlan.build file options {} = result at hrun
  generalize ModulePlan.build file.onlyRepeatedEnums options {} = result' at hrun
  cases hrun with
  | ok hbeside => exact ⟨rfl, extra, hextra, hbeside.log⟩
  | error hbeside => exact ⟨rfl, extra, hextra, hbeside.log⟩

/-- Fields of several kinds, one of which is spelled like a repeated enum. -/
def mixedFile : SchemaFile where
  name := "mixed.proto"
  package := none
  enums := [⟨"Level", ".Level", [("LOW", 0)]⟩]
  messages := [⟨"M", ".M", [⟨"Levels", .string, 1, .repeated, ""⟩,
      ⟨"levels", .enum, 2, .repeated, ".Level"⟩, ⟨"level", .enum, 3, .optional, ".Level"⟩]⟩,
    ⟨"N", ".N", [⟨"id", .int32, 1, .required, ""⟩]⟩]

/-- The same with a message that ends the run at its second field, and a message
after that. -/
def endedFile : SchemaFile :=
  { mixedFile with messages := mixedFile.messages ++
      [⟨"P", ".P", [⟨"a", .bool, 1, .optional, ""⟩, ⟨"", .enum, 2, .repeated, ".Level"⟩,
        ⟨"b", .bool, 3, .optional, ""⟩]⟩, ⟨"Q", ".Q", [⟨"c", .bool, 1, .optional, ""⟩]⟩] }

theorem generate_onlyRepeatedEnums_mixed :
    (∃ plan, (ModulePlan.generate mixedFile {}).1 = .ok plan ∧
      (ModulePlan.generate mixedFile.onlyRepeatedEnums {}).1 = .ok plan ∧
      plan.messages.map (fun p => p.fields.map (·.names.writerField)) = [["levels"], []] ∧
      mixedFile.skipped.map (·.field) =
        mixedFile.messages.flatMap fun m => m.fields.filter (!·.isRepeatedEnum)) ∧
    (ModulePlan.generate endedFile {}).1 = .error (.name .emptyIdentifier) ∧
    (ModulePlan.generate endedFile.onlyRepeatedEnums {}).1 = .error (.name .emptyIdentifier) ∧
    endedFile.skipped.map (·.field.name) = ["Levels", "level", "id", "a"] ∧
    ∃ extra, List.Forall₂ (SkippedField.ReportedBy endedFile {}) endedFile.skipped extra ∧
      Interleaved extra (ModulePlan.generate endedFile.onlyRepeatedEnums {}).2
        (ModulePlan.generate endedFile {}).2 := by
  constructor
  · have hnames : (ModulePlan.generate mixedFile {}).1.toOption.map (fun plan =>
        plan.messages.map fun p => p.fields.map (·.names.writerField)) = some [["levels"], []] := by
      decide +kernel
    obtain ⟨plan, h, hfields⟩ := exists_ok_of_toOption_map hnames
    obtain ⟨hsame, -, hskipped⟩ := generate_onlyRepeatedEnums mixedFile {}
    exact ⟨plan, h, hsame ▸ h, hfields, hskipped plan h⟩
  · have herror : (ModulePlan.generate endedFile {}).1 = .error (.name .emptyIdentifier) := by
      decide +kernel
    obtain ⟨hsame, hlog, -⟩ := generate_onlyRepeatedEnums endedFile {}
    exact ⟨herror, hsame ▸ herror, by decide +kernel, hlog⟩

end WireSchema
