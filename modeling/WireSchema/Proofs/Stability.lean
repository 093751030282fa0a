/-
# What comes later changes nothing before it

A message at the end of a file is generated after all others, so the module
without it is the beginning of the module with it (`text_append_messages`).

A field at the end of a message comes after the other fields, which get the
same identifiers and plans as without it (`startBuilders_append`,
`planFields_append`), and it takes no class name, so the messages that follow
find the same registry (`build_append_field`). The one thing it leaves behind
is a report, and no work looks at the reports before it (`Gen.OnlyReports`).

Key definitions: `Gen.reportsAfter`, `Gen.OnlyReports`.
Key theorems: `Gen.OnlyReports.bind`, `onlyReports_build`,
`Gen.OnlyReports.ok_of_names_eq`, `build_append_field`,
`generate_append_stable`.
-/

import WireSchema.Proofs.Generation

namespace WireSchema

/-! ### Reports are not read -/

namespace Gen

variable {α β : Type} {x : Gen α} {f : α → Gen β} {s s' t : GenState} {a : α}

/-- A result with `log` before its reports. -/
def reportsAfter (log : List LogEntry) :
    EStateM.Result GenError GenState α → EStateM.Result GenError GenState α
  | .ok a s => .ok a { s with log := log ++ s.log }
  | .error e s => .error e { s with log := log ++ s.log }

/-- Work that adds to the log and does not look at it. -/
def OnlyReports (x : Gen α) : Prop :=
  ∀ s : GenState, x s = reportsAfter s.log (x { s with log := [] })

theorem reportsAfter_append (log log' : List LogEntry)
    (result : EStateM.Result GenError GenState α) :
    reportsAfter (log ++ log') result = reportsAfter log (reportsAfter log' result) := by
  cases result <;> simp [reportsAfter]

theorem OnlyReports.pure (a : α) : OnlyReports (Pure.pure a : Gen α) := by
  intro s
  simp [Pure.pure, EStateM.pure, reportsAfter]

theorem OnlyReports.throw (e : GenError) : OnlyReports (throw e : Gen α) := by
  intro s
  show EStateM.Result.error e s = reportsAfter s.log (.error e { s with log := [] })
  simp [reportsAfter]

theorem OnlyReports.report (level : LogLevel) (text : String) :
    OnlyReports (Gen.report level text) := by
  intro s
  simp [Gen.report, reportsAfter]

theorem OnlyReports.ofExcept (result : Except GenError α) :
    OnlyReports (Gen.ofExcept result) := by
  intro s
  cases result <;> simp [Gen.ofExcept, reportsAfter]

theorem OnlyReports.takenNames : OnlyReports Gen.takenNames := by
  intro s
  simp [Gen.takenNames, reportsAfter]

theorem OnlyReports.ofNaming (work : Naming α) : OnlyReports (Gen.ofNaming work) := by
  intro s
  unfold Gen.ofNaming
  cases work s.names <;> simp [reportsAfter]

theorem OnlyReports.bind (hx : OnlyReports x) (hf : ∀ a, OnlyReports (f a)) :
    OnlyReports (x >>= f) := by
  intro s
  have hs := hx s
  cases hr : x { s with log := [] } with
  | ok a t =>
    -- Both runs of `f a` are the one that starts with an empty log.
    rw [hr, reportsAfter] at hs
    rw [bind_of_ok hs, bind_of_ok hr, hf a t, hf a, reportsAfter_append]
  | error e t =>
    rw [hr, reportsAfter] at hs
    rw [bind_of_error hs, bind_of_error hr, reportsAfter]

theorem OnlyReports.mapM {g : α → Gen β} (hg : ∀ a, OnlyReports (g a)) :
    ∀ xs : List α, OnlyReports (xs.mapM g)
  | [] => by
    rw [List.mapM_nil]
    exact .pure []
  | a :: xs => by
    rw [List.mapM_cons]
    exact (hg a).bind fun b => (OnlyReports.mapM hg xs).bind fun more => .pure (b :: more)

/-- Work that only reports gives the same from states with the same names. -/
theorem OnlyReports.ok_of_names_eq (h : OnlyReports x) (hn : s.names = t.names)
    (hx : x s = .ok a s') : ∃ t', x t = .ok a t' ∧ t'.names = s'.names := by
  obtain ⟨names, log⟩ := s
  obtain ⟨names', log'⟩ := t
  obtain rfl : names = names' := hn
  have hs := h ⟨names, log⟩
  have ht := h ⟨names, log'⟩
  cases hr : x ⟨names, []⟩ with
  | ok b u =>
    rw [hx, hr] at hs
    cases hs
    rw [hr] at ht
    exact ⟨_, ht, rfl⟩
  | error e u =>
    rw [hx, hr] at hs
    cases hs

theorem OnlyReports.claim (fullName candidate : String) :
    OnlyReports (Gen.claim fullName candidate) := by
  unfold Gen.claim
  refine (OnlyReports.ofNaming _).bind fun name => ?_
  simp only
  split
  · exact (OnlyReports.report _ _).bind fun _ => .pure name
  · exact .pure name

end Gen

variable {scope : EnumScope} {package : Option String} {options : Options} {m : MessageDecl}
  {p' : MessagePlan} {s s' : GenState} {wireClass writerClass : String}

theorem onlyReports_startBuilders (wireClass writerClass : String) :
    ∀ (fields : List Field) (r : Registry),
      Gen.OnlyReports (MessagePlan.startBuilders wireClass writerClass fields r)
  | [], _ => .pure []
  | f :: rest, r => by
    have ih := onlyReports_startBuilders wireClass writerClass rest
    rcases startBuilders_cons_cases wireClass writerClass f r with
      ⟨-, heq⟩ | ⟨-, n, r', -, heq⟩ | ⟨-, -, heq⟩
    · rw [heq rest]
      exact (Gen.OnlyReports.report _ _).bind fun _ => ih r
    · rw [heq rest]
      exact (ih r').bind fun more => .pure _
    · rw [heq rest]
      exact .throw _

theorem onlyReports_build (scope : EnumScope) (package : Option String) (options : Options)
    (m : MessageDecl) : Gen.OnlyReports (MessagePlan.build scope package options m) := by
  unfold MessagePlan.build
  refine (Gen.OnlyReports.claim _ _).bind fun name => ?_
  refine (Gen.OnlyReports.claim _ _).bind fun wireName => ?_
  refine (Gen.OnlyReports.claim _ _).bind fun readerName => ?_
  refine Gen.OnlyReports.takenNames.bind fun taken => ?_
  refine (onlyReports_startBuilders wireName name _ _).bind fun bs => ?_
  refine (Gen.OnlyReports.ofExcept _).bind fun fields => ?_
  exact (Gen.OnlyReports.report _ _).bind fun _ => .pure _

/-! ### A field at the end of a message -/

/-- Fields get the same identifiers whatever follows them. -/
theorem startBuilders_append {more : List Field} : ∀ {fields : List Field} {r : Registry}
    {s s' : GenState} {bs : List (Field × FieldBuilder)},
    MessagePlan.startBuilders wireClass writerClass (fields ++ more) r s = .ok bs s' →
    ∃ front t back, MessagePlan.startBuilders wireClass writerClass fields r s = .ok front t ∧
      bs = front ++ back
  | [], _, s, _, bs, _ => ⟨[], s, bs, rfl, rfl⟩
  | f :: rest, r, s, s', bs, h => by
    rw [List.cons_append] at h
    rcases startBuilders_cons_cases wireClass writerClass f r with
      ⟨-, heq⟩ | ⟨-, n, r', -, heq⟩ | ⟨-, -, heq⟩
    · rw [heq] at h
      obtain ⟨_, u, hreport, hrest⟩ := bind_eq_ok_iff.mp h
      obtain ⟨front, t, back, hfront, rfl⟩ := startBuilders_append hrest
      exact ⟨front, t, back, by rw [heq, bind_of_ok hreport, hfront], rfl⟩
    · rw [heq] at h
      obtain ⟨bs', u, hrest, hpure⟩ := bind_eq_ok_iff.mp h
      obtain ⟨rfl, rfl⟩ := pure_eq_ok_iff.mp hpure
      obtain ⟨front, t, back, hfront, rfl⟩ := startBuilders_append hrest
      exact ⟨_ :: front, t, back, by rw [heq, bind_of_ok hfront]; rfl, rfl⟩
    · rw [heq] at h
      cases h

/-- Fields have the same plans whatever follows them. -/
theorem planFields_append {drafts : List (Field × FieldNames)}
    {front back : List (Field × FieldBuilder)} {plans : List FieldPlan}
    (hbs : drafts.map (FieldBuilder.begin writerClass) = front ++ back)
    (h : MessagePlan.planFields scope writerClass (front ++ back) = .ok plans) :
    ∃ plans', MessagePlan.planFields scope writerClass front = .ok plans' ∧ plans' <+: plans := by
  obtain ⟨drafts₁, drafts₂, rfl, rfl, rfl⟩ := List.map_eq_append_iff.mp hbs
  rw [← List.map_append, planFields_begin, List.mapM_append] at h
  rw [planFields_begin]
  cases h₁ : drafts₁.mapM (draftPlan scope writerClass) with
  | error e =>
    rw [h₁] at h
    cases h
  | ok plans₁ =>
    cases h₂ : drafts₂.mapM (draftPlan scope writerClass) with
    | error e =>
      rw [h₁, h₂] at h
      cases h
    | ok plans₂ =>
      rw [h₁, h₂] at h
      cases h
      exact ⟨plans₁, rfl, List.prefix_append _ _⟩

/-- **A field at the end of a message leaves the classes and the other fields
alone**, and the class names that are taken afterwards. -/
theorem build_append_field {more : List Field}
    (h : MessagePlan.build scope package options { m with fields := m.fields ++ more } s =
      .ok p' s') :
    ∃ p t, MessagePlan.build scope package options m s = .ok p t ∧ t.names = s'.names ∧
      p'.classNames = p.classNames ∧ p.fields <+: p'.fields := by
  obtain ⟨s₁, s₂, s₃, bs, s₄, h₁, h₂, h₃, h₄, hplan, rfl⟩ := build_ok_iff.mp h
  obtain ⟨front, t₄, back, hfront, rfl⟩ := startBuilders_append h₄
  obtain ⟨drafts, -, hbs, -, -, hnames⟩ := startBuilders_ok h₄
  obtain ⟨-, -, -, -, -, hnames'⟩ := startBuilders_ok hfront
  obtain ⟨plans, hplans, hprefix⟩ := planFields_append hbs.symm hplan
  refine ⟨⟨p'.name, p'.wireName, p'.readerName, plans⟩, _,
    build_ok_iff.mpr ⟨s₁, s₂, s₃, front, t₄, h₁, h₂, h₃, hfront, hplans, rfl⟩, ?_, rfl, hprefix⟩
  rw [hnames', hnames]

/-! ### A message at the end of a file -/

/-- Messages at the end add their text at the end. -/
theorem text_append_messages (plan : ModulePlan) (more : List MessagePlan) :
    { plan with messages := plan.messages ++ more : ModulePlan }.text =
      plan.text ++ String.join ((more.flatMap MessagePlan.textLines).map (· ++ "\n")) := by
  unfold ModulePlan.text ModulePlan.textLines ModulePlan.headerLines
  simp only [List.flatMap_append, List.map_append, String.join_append, String.append_assoc]

/-- **Generated code is stable under appending.** If a file with one more
message at its end has a module, the file has one, and its text is the
beginning of the other's. If a file with one more field at the end of a message
has a module, the file has one; all other messages have the same plans, and
this one has the same classes and in each place the same fragments first. -/
theorem generate_append_stable (file : SchemaFile) (options : Options) :
    (∀ m plan', (ModulePlan.generate { file with messages := file.messages ++ [m] } options).1 =
        .ok plan' →
      ∃ plan more, (ModulePlan.generate file options).1 = .ok plan ∧
        plan'.text = plan.text ++ more) ∧
    ∀ before m after f plan', file.messages = before ++ m :: after →
      (ModulePlan.generate { file with
          messages := before ++ { m with fields := m.fields ++ [f] } :: after } options).1 =
        .ok plan' →
      ∃ plan front p p' back, (ModulePlan.generate file options).1 = .ok plan ∧
        plan.messages = front ++ p :: back ∧ plan'.messages = front ++ p' :: back ∧
        front.length = before.length ∧ back.length = after.length ∧
        p'.classNames = p.classNames ∧ ∀ place, p.fragments place <+: p'.fragments place := by
  constructor
  · intro m plan' h
    obtain ⟨scope, s, s', hscope, hmessages, henums, hsource, hpackage⟩ := generate_ok_iff.mp h
    obtain ⟨front, t, back, hfront, -, hplans⟩ := mapM_append_eq_ok_iff.mp hmessages
    have htext := text_append_messages { plan' with messages := front } back
    rw [← hplans] at htext
    exact ⟨{ plan' with messages := front }, _,
      generate_ok_iff.mpr ⟨scope, s, t, hscope, hfront, henums, hsource, hpackage⟩, htext⟩
  · intro before m after f plan' hfile h
    obtain ⟨scope, s, s', hscope, hmessages, henums, hsource, hpackage⟩ := generate_ok_iff.mp h
    obtain ⟨front, t, p', u, back, hfront, hp', hback, hplans⟩ :=
      mapM_middle_eq_ok_iff.mp hmessages
    obtain ⟨p, u', hp, hnames, hclasses, hprefix⟩ := build_append_field hp'
    -- After the two versions of the message only the log differs.
    have hsame := Gen.OnlyReports.mapM (onlyReports_build scope file.package options) after
    obtain ⟨v, hback', -⟩ := hsame.ok_of_names_eq hnames.symm hback
    refine ⟨{ plan' with messages := front ++ p :: back }, front, p, p', back,
      generate_ok_iff.mpr ⟨scope, s, v, hscope, ?_, henums, hsource, hpackage⟩, rfl, hplans,
      length_of_mapM hfront, length_of_mapM hback, hclasses, fun place => ?_⟩
    · rw [hfile]
      exact mapM_middle_eq_ok_iff.mpr ⟨front, t, p, u', back, hfront, hp, hback', rfl⟩
    · exact hprefix.map _

/-- A message with one field, and one that has the name of a class of the first. -/
def pairFile : SchemaFile where
  name := "pair.proto"
  package := none
  enums := [⟨"Level", ".Level", [("LOW", 0), ("HIGH", 1)]⟩]
  messages := [⟨"M", ".M", [⟨"levels", .enum, 1, .repeated, ".Level"⟩]⟩,
    ⟨"MWire", ".MWire", [⟨"id", .int32, 1, .optional, ""⟩]⟩]

/-- The same with a third message, which has the name of an enum. -/
def tripleFile : SchemaFile :=
  { pairFile with messages := pairFile.messages ++ [⟨"Level", ".Level", []⟩] }

/-- The same with a second field in the first message, which has the name of an
accessor. -/
def widerFile : SchemaFile :=
  { pairFile with messages := [⟨"M", ".M", [⟨"levels", .enum, 1, .repeated, ".Level"⟩,
      ⟨"get_levels", .enum, 2, .repeated, ".Level"⟩]⟩,
    ⟨"MWire", ".MWire", [⟨"id", .int32, 1, .optional, ""⟩]⟩] }

theorem generate_append_stable_pair :
    (∃ plan plan' more, (ModulePlan.generate pairFile {}).1 = .ok plan ∧
      (ModulePlan.generate tripleFile {}).1 = .ok plan' ∧
      plan'.messages.map (·.name) = ["M", "MWire_2", "Level_2"] ∧
      plan'.text = plan.text ++ more) ∧
    ∃ plan plan' front p p' back, (ModulePlan.generate pairFile {}).1 = .ok plan ∧
      (ModulePlan.generate widerFile {}).1 = .ok plan' ∧
      plan.messages = front ++ p :: back ∧ plan'.messages = front ++ p' :: back ∧
      plan'.messages.map (fun q => q.fields.map (·.names.writerField)) =
        [["levels", "get_levels_2"], []] ∧
      p'.classNames = p.classNames ∧ ∀ place, p.fragments place <+: p'.fragments place := by
  obtain ⟨hmessage, hfield⟩ := generate_append_stable pairFile {}
  constructor
  · have hnames : (ModulePlan.generate tripleFile {}).1.toOption.map
        (fun plan => plan.messages.map (·.name)) = some ["M", "MWire_2", "Level_2"] := by
      decide +kernel
    obtain ⟨plan', h, hnames⟩ := exists_ok_of_toOption_map hnames
    obtain ⟨plan, more, hplan, htext⟩ := hmessage _ plan' h
    exact ⟨plan, plan', more, hplan, h, hnames, htext⟩
  · have hnames : (ModulePlan.generate widerFile {}).1.toOption.map
        (fun plan => plan.messages.map fun q => q.fields.map (·.names.writerField)) =
          some [["levels", "get_levels_2"], []] := by
      decide +kernel
    obtain ⟨plan', h, hnames⟩ := exists_ok_of_toOption_map hnames
    obtain ⟨plan, front, p, p', back, hplan, hmessages, hmessages', -, -, hclasses, hprefix⟩ :=
      hfield [] _ _ ⟨"get_levels", .enum, 2, .repeated, ".Level"⟩ plan' rfl h
    exact ⟨plan, plan', front, p, p', back, hplan, h, hmessages, hmessages', hnames, hclasses,
      hprefix⟩

end WireSchema
