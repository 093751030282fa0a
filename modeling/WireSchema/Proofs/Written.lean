/-
# What a run writes

A run on a descriptor set generates the modules of its files one after the
other. Two files can have the same output path, so the paths that a run gives,
what is found under them in the end, and what is reported are three different
views of one loop: the paths are those of the first files that have them, the
texts are those of the last, and the reports are of all but the first
(`Written`).

One turn of the loop keeps this (`Written.concat`), because no suffix without a
slash makes a module name that leads elsewhere, and different names lead to
different places (`apart_outputPath`). So every run that is not stopped by the
store ends so (`generateAll_cases`). A file that has no module stops the run
before anything is done for it, and the store is as the files before it left it
(`run_writes_modules`).

Key definitions: `outputPath`, `repeats`, `Written`.
Key theorems: `generateInto_cases`, `Written.concat`, `generateAll_cases`,
`run_writes_modules`.
-/

import Mathlib.Data.List.Induction
import WireSchema.Proofs.Places
import WireSchema.Run.Generate

namespace WireSchema

/-! ### Reports of a generation -/

namespace Gen

variable {α β : Type} {x : Gen α} {f : α → Gen β}

/-- What is in the log was there before, or the generator reported it. -/
def Reported (s s' : GenState) : Prop :=
  ∀ entry ∈ s'.log, entry ∈ s.log ∨ entry.source = .generator

/-- Work that reports under the name of the generator only. -/
def OwnReports (x : Gen α) : Prop := Keeps Reported x

theorem OwnReports.of_silent (h : ∀ s, (leaves (x s)).log = s.log) : OwnReports x := by
  intro s entry hentry
  rw [h s] at hentry
  exact .inl hentry

theorem OwnReports.report (level : LogLevel) (text : String) :
    OwnReports (Gen.report level text) := by
  intro s entry hentry
  rcases List.mem_append.mp hentry with hentry | hentry
  · exact .inl hentry
  · rw [List.mem_singleton.mp hentry]
    exact .inr rfl

theorem OwnReports.bind (hx : OwnReports x) (hf : ∀ a, OwnReports (f a)) :
    OwnReports (x >>= f) := by
  refine Keeps.bind (fun hst htu entry hentry => ?_) hx hf
  rcases htu entry hentry with hentry | hsource
  · exact hst entry hentry
  · exact .inr hsource

theorem OwnReports.ofExcept (result : Except GenError α) : OwnReports (Gen.ofExcept result) := by
  refine .of_silent fun s => ?_
  cases result <;> rfl

theorem OwnReports.mapM {g : α → Gen β} (hg : ∀ a, OwnReports (g a)) :
    ∀ xs : List α, OwnReports (xs.mapM g)
  | [] => by
    rw [List.mapM_nil]
    exact .of_silent fun _ => rfl
  | a :: xs => by
    rw [List.mapM_cons]
    exact (hg a).bind fun b => (OwnReports.mapM hg xs).bind fun more => .of_silent fun _ => rfl

theorem OwnReports.claim (fullName candidate : String) :
    OwnReports (Gen.claim fullName candidate) := by
  have hname : OwnReports (Gen.ofNaming (Naming.request candidate)) := by
    refine .of_silent fun s => ?_
    unfold Gen.ofNaming
    cases Naming.request candidate s.names <;> rfl
  unfold Gen.claim
  refine hname.bind fun name => ?_
  simp only
  split
  · exact (OwnReports.report _ _).bind fun _ => .of_silent fun _ => rfl
  · exact .of_silent fun _ => rfl

theorem OwnReports.claimAll (package : Option String) : ∀ (enums : List EnumDecl)
    (scope : EnumScope), OwnReports (EnumScope.claimAll package enums scope)
  | [], _ => .of_silent fun _ => rfl
  | _ :: rest, _ =>
    (OwnReports.claim _ _).bind fun _ => OwnReports.claimAll package rest _

theorem OwnReports.startBuilders (wireClass writerClass : String) : ∀ (fields : List Field)
    (r : Registry), OwnReports (MessagePlan.startBuilders wireClass writerClass fields r)
  | [], _ => .of_silent fun _ => rfl
  | f :: rest, r => by
    have ih := OwnReports.startBuilders wireClass writerClass rest
    rcases startBuilders_cons_cases wireClass writerClass f r with
      ⟨-, heq⟩ | ⟨-, n, r', -, heq⟩ | ⟨-, -, heq⟩
    · rw [heq rest]
      exact (OwnReports.report _ _).bind fun _ => ih r
    · rw [heq rest]
      exact (ih r').bind fun _ => .of_silent fun _ => rfl
    · rw [heq rest]
      exact .of_silent fun _ => rfl

theorem OwnReports.build (scope : EnumScope) (package : Option String) (options : Options)
    (m : MessageDecl) : OwnReports (MessagePlan.build scope package options m) :=
  (OwnReports.claim _ _).bind fun _ => (OwnReports.claim _ _).bind fun _ =>
    (OwnReports.claim _ _).bind fun _ => (OwnReports.of_silent fun _ => rfl).bind fun _ =>
      (OwnReports.startBuilders _ _ _ _).bind fun _ => (OwnReports.ofExcept _).bind fun _ =>
        (OwnReports.report _ _).bind fun _ => .of_silent fun _ => rfl

end Gen

theorem source_of_generate {file : SchemaFile} {options : Options} :
    ∀ entry ∈ (ModulePlan.generate file options).2, entry.source = .generator := by
  have hbuild : Gen.OwnReports (ModulePlan.build file options) := by
    refine (Gen.OwnReports.claimAll _ _ _).bind fun scope => ?_
    refine (Gen.OwnReports.mapM (Gen.OwnReports.build _ _ _) _).bind fun messages => ?_
    refine (Gen.OwnReports.mapM (fun e => ?_) _).bind fun enums => .of_silent fun _ => rfl
    exact (Gen.OwnReports.ofExcept _).bind fun _ => .of_silent fun _ => rfl
  intro entry hentry
  have hlog : (ModulePlan.generate file options).2 =
      (leaves (ModulePlan.build file options {})).log := by
    unfold ModulePlan.generate
    cases ModulePlan.build file options {} <;> rfl
  rw [hlog] at hentry
  rcases hbuild {} entry hentry with hnone | hsource
  · cases hnone
  · exact hsource

/-! ### Output paths -/

/-- Where the module of a file is written. -/
def outputPath (dir : String) (options : Options) (file : SchemaFile) : String :=
  Path.join dir (moduleFileName file.name options)

variable {dir : String} {options : Options} {file : SchemaFile} {w w' : World}

theorem isEntry_moduleFileName (name : String) (hsuffix : '/' ∉ options.outputSuffix.toList) :
    Path.IsEntry (moduleFileName name options) := by
  have htext : (moduleFileName name options).toList =
      (Path.stem name).toList ++ options.outputSuffix.toList ++ ['.', 'p', 'y'] := by
    simp [moduleFileName]
  have hlength : 3 ≤ (moduleFileName name options).toList.length := by
    rw [htext, List.length_append]
    exact Nat.le_add_left 3 _
  have hne : ∀ short : String, short.toList.length < 3 → moduleFileName name options ≠ short := by
    rintro short hshort rfl
    omega
  refine ⟨?_, ⟨hne "" (by decide), hne "." (by decide)⟩, hne ".." (by decide)⟩
  rw [htext, List.mem_append, List.mem_append, not_or, not_or]
  exact ⟨⟨Path.notMem_stem name, hsuffix⟩, by decide⟩

/-- **Different output paths lead to different places.** -/
theorem apart_outputPath {file' : SchemaFile} (hsuffix : '/' ∉ options.outputSuffix.toList)
    (hne : outputPath dir options file ≠ outputPath dir options file') {s : Store}
    {place : List String} (h : s.locate (Path.clean (outputPath dir options file)) = .ok place) :
    s.locate (Path.clean (outputPath dir options file')) ≠ .ok place := by
  have hends : ∀ f : SchemaFile, s.locate (Path.clean (outputPath dir options f)) = .ok place →
      place.getLast? = some (moduleFileName f.name options) := fun f =>
    Store.getLast?_of_locate (isEntry_moduleFileName f.name hsuffix)
      (Path.endsIn_clean_join dir (isEntry_moduleFileName f.name hsuffix))
  intro h'
  have hname := (hends file h).symm.trans (hends file' h')
  apply hne
  rw [outputPath, outputPath, Option.some.inj hname]

/-! ### One file -/

/-- The report that a module replaces an earlier one. -/
def overwriteReport (dir : String) (options : Options) (file : SchemaFile) : LogEntry :=
  ⟨.warning, .run, file.name ++ " overwrote " ++ outputPath dir options file ++
    " generated earlier in this run"⟩

/-- Generating comes first, and adds its reports to the log. -/
theorem generateFile_eq (out : Given) (w : World) :
    Run.generateFile file out options w =
      match (ModulePlan.generate file options).1 with
      | .error e =>
        .error (.generate e) { w with log := w.log ++ (ModulePlan.generate file options).2 }
      | .ok plan =>
        (do
          let dir ← Run.pathOf out
          Run.ofStore (Store.makeDirs dir)
          Run.writeFile (Path.clean (outputPath dir options file)) (encodeUtf8 plan.text)
          return outputPath dir options file : Run String)
        { w with log := w.log ++ (ModulePlan.generate file options).2 } := by
  unfold Run.generateFile
  rcases ModulePlan.generate file options with ⟨outcome, log⟩
  cases outcome <;> rfl

/-- A file that has a module is stopped by the store, or it is written. -/
theorem generateFile_cases {plan : ModulePlan} (dir : String) (w : World)
    (h : (ModulePlan.generate file options).1 = .ok plan) :
    (∃ e w', Run.generateFile file (.text dir) options w = .error (.file e) w') ∨
    ∃ w', Run.generateFile file (.text dir) options w = .ok (outputPath dir options file) w' ∧
      w.store.Writes (Path.clean (outputPath dir options file)) (encodeUtf8 plan.text) w'.store ∧
      w'.log = w.log ++ (ModulePlan.generate file options).2 := by
  have hadds := Store.OnlyAdds.makeDirsWithin dir.length dir w.store
  rw [generateFile_eq, h]
  simp only
  generalize w.log ++ (ModulePlan.generate file options).2 = log
  have hpath : Run.pathOf (.text dir) { w with log } = .ok dir { w with log } := rfl
  rw [bind_of_ok hpath]
  cases hdirs : Store.makeDirsWithin dir.length dir w.store with
  | error e t =>
    have hmake : Run.ofStore (Store.makeDirs dir) { w with log } =
        .error (.file e) { w with log, store := t } := by
      simp only [Run.ofStore, Store.makeDirs, hdirs]
    exact .inl ⟨e, _, bind_of_error hmake⟩
  | ok _ t =>
    have hmake : Run.ofStore (Store.makeDirs dir) { w with log } =
        .ok () { w with log, store := t } := by
      simp only [Run.ofStore, Store.makeDirs, hdirs]
    rw [hdirs] at hadds
    rw [bind_of_ok hmake]
    cases hwrite : t.write (Path.clean (outputPath dir options file)) (encodeUtf8 plan.text) with
    | error e =>
      have hfail : Run.writeFile (Path.clean (outputPath dir options file)) (encodeUtf8 plan.text)
          { w with log, store := t } = .error (.file e) { w with log, store := t } := by
        simp only [Run.writeFile, hwrite]
      exact .inl ⟨e, _, bind_of_error hfail⟩
    | ok t' =>
      have hdone : Run.writeFile (Path.clean (outputPath dir options file)) (encodeUtf8 plan.text)
          { w with log, store := t } = .ok () { w with log, store := t' } := by
        simp only [Run.writeFile, hwrite]
      rw [bind_of_ok hdone]
      exact .inr ⟨_, rfl, hadds.writes hwrite, rfl⟩

/-- **What one file does to a run.** If it has a module, the store stops it, or
its path is added unless it is there, and its module is written. -/
theorem generateInto_cases {plan : ModulePlan} (dir : String) (done : List String) (w : World)
    (h : (ModulePlan.generate file options).1 = .ok plan) :
    (∃ e w', Run.generateInto (.text dir) options done file w = .error (.file e) w') ∨
    ∃ w', Run.generateInto (.text dir) options done file w =
        .ok (if outputPath dir options file ∈ done then done
          else done ++ [outputPath dir options file]) w' ∧
      w.store.Writes (Path.clean (outputPath dir options file)) (encodeUtf8 plan.text) w'.store ∧
      w'.log = w.log ++ (ModulePlan.generate file options).2 ++
        if outputPath dir options file ∈ done then [overwriteReport dir options file] else [] := by
  unfold Run.generateInto
  rcases generateFile_cases dir w h with ⟨e, w₁, hfile⟩ | ⟨w₁, hfile, hwrites, hlog⟩
  · exact .inl ⟨e, w₁, bind_of_error hfile⟩
  · rw [bind_of_ok hfile]
    by_cases hdone : outputPath dir options file ∈ done
    · rw [if_pos (by simpa using hdone), if_pos hdone, if_pos hdone]
      exact .inr ⟨_, rfl, hwrites, by rw [← hlog]; rfl⟩
    · rw [if_neg (by simpa using hdone), if_neg hdone, if_neg hdone]
      exact .inr ⟨w₁, rfl, hwrites, by rw [hlog, List.append_nil]⟩

/-! ### Several files -/

variable {out : Given} {front back files : List SchemaFile} {done done' paths : List String}
  {before after : World}

theorem generateAll_append_of_ok : ∀ {front : List SchemaFile} {done : List String} {w : World},
    Run.generateAll out options front done w = .ok done' w' →
    Run.generateAll out options (front ++ back) done w = Run.generateAll out options back done' w'
  | [], _, _, h => by
    cases h
    rfl
  | f :: front, done, w, h => by
    obtain ⟨mid, w₁, hfirst, hrest⟩ := bind_eq_ok_iff.mp h
    rw [List.cons_append, Run.generateAll, bind_of_ok hfirst]
    exact generateAll_append_of_ok hrest

theorem generateAll_append_of_error {e : RunError} : ∀ {front : List SchemaFile}
    {done : List String} {w : World}, Run.generateAll out options front done w = .error e w' →
    Run.generateAll out options (front ++ back) done w = .error e w'
  | [], _, _, h => by cases h
  | f :: front, done, w, h => by
    rw [Run.generateAll] at h
    rw [List.cons_append, Run.generateAll]
    cases hfirst : Run.generateInto out options done f w with
    | ok mid w₁ =>
      rw [bind_of_ok hfirst] at h ⊢
      exact generateAll_append_of_error h
    | error e' w₁ =>
      rw [bind_of_error hfirst] at h ⊢
      exact h

theorem eraseDups_concat (xs : List String) (x : String) :
    (xs ++ [x]).eraseDups = if x ∈ xs then xs.eraseDups else xs.eraseDups ++ [x] := by
  rw [List.eraseDups_append]
  by_cases h : x ∈ xs
  · simp [h, List.removeAll]
  · have hx : [x].removeAll xs = [x] := by simp [h, List.removeAll]
    rw [hx, if_neg h]
    rfl

/-- The files whose path is that of a file before them, in order. -/
def repeats (path : SchemaFile → String) (files : List SchemaFile) : List SchemaFile :=
  (files.zipIdx.filter fun (f, i) => ((files.take i).map path).contains (path f)).map (·.1)

theorem repeats_concat (path : SchemaFile → String) (front : List SchemaFile) (f : SchemaFile) :
    repeats path (front ++ [f]) =
      repeats path front ++ if path f ∈ front.map path then [f] else [] := by
  have hfront : front.zipIdx.filter (fun (g, i) =>
      (((front ++ [f]).take i).map path).contains (path g)) =
      front.zipIdx.filter fun (g, i) => ((front.take i).map path).contains (path g) := by
    refine List.filter_congr fun x hx => ?_
    have hle : x.2 ≤ front.length := by
      have := (List.mem_zipIdx hx).2.1
      omega
    simp only [List.take_append_of_le_length hle]
  unfold repeats
  rw [List.zipIdx_append, List.filter_append, hfront, List.map_append]
  by_cases h : path f ∈ front.map path
  · simp [h]
  · simp [h]

/-! ### What is written -/

/-- What is found after the modules of some files were written to a directory,
where `paths` is given back. -/
structure Written (dir : String) (options : Options) (files : List SchemaFile)
    (before after : World) (paths : List String) : Prop where
  /-- The output paths, each where it occurs first. -/
  paths_eq : paths = (files.map (outputPath dir options)).eraseDups
  /-- Under each path, which is tidied up to read it as it is to write it, is the
  module of the last file that has it. -/
  last : ∀ path ∈ paths, ∃ front f back plan, files = front ++ f :: back ∧
    outputPath dir options f = path ∧ (∀ g ∈ back, outputPath dir options g ≠ path) ∧
    (ModulePlan.generate f options).1 = .ok plan ∧
    after.store.read (Path.clean path) = .ok (encodeUtf8 plan.text)
  /-- Where no path leads to, there are the same files as before. -/
  others : ∀ place, (∀ path ∈ paths, after.store.locate (Path.clean path) ≠ .ok place) →
    ∀ bytes, after.store.node? place = some (.file bytes) ↔
      before.store.node? place = some (.file bytes)
  /-- The run reports each file that has the path of an earlier one, once. -/
  reports : after.log.filter (·.source == .run) = before.log.filter (·.source == .run) ++
    (repeats (outputPath dir options) files).map (overwriteReport dir options)

theorem Written.nil (w : World) : Written dir options [] w w [] where
  paths_eq := rfl
  last := by simp
  others := fun _ _ _ => Iff.rfl
  reports := by simp [repeats]

theorem filter_generate_log (file : SchemaFile) (options : Options) :
    (ModulePlan.generate file options).2.filter (·.source == .run) = [] := by
  rw [List.filter_eq_nil_iff]
  intro entry hentry
  rw [source_of_generate entry hentry]
  decide

theorem Written.mem_iff (h : Written dir options files before after paths) {path : String} :
    path ∈ paths ↔ path ∈ files.map (outputPath dir options) := by
  rw [h.paths_eq, List.mem_eraseDups]

/-- **One more file** keeps what is written. It is the last one of its path, and
the modules of all other paths are elsewhere. -/
theorem Written.concat {plan : ModulePlan} (hsuffix : '/' ∉ options.outputSuffix.toList)
    (h : Written dir options files before w done)
    (hplan : (ModulePlan.generate file options).1 = .ok plan)
    (hwrites : w.store.Writes (Path.clean (outputPath dir options file)) (encodeUtf8 plan.text)
      after.store)
    (hlog : after.log = w.log ++ (ModulePlan.generate file options).2 ++
      if outputPath dir options file ∈ done then [overwriteReport dir options file] else []) :
    Written dir options (files ++ [file]) before after
      (if outputPath dir options file ∈ done then done
        else done ++ [outputPath dir options file]) := by
  have hmem : ∀ path, path ∈ (if outputPath dir options file ∈ done then done
      else done ++ [outputPath dir options file]) ↔
      path ∈ done ∨ path = outputPath dir options file := by
    intro path
    split
    · next hdone =>
      constructor
      · exact .inl
      · rintro (hpath | rfl)
        · exact hpath
        · exact hdone
    · simp
  constructor
  case paths_eq =>
    rw [List.map_append, List.map_singleton, eraseDups_concat, ← h.paths_eq]
    simp only [h.mem_iff]
  case last =>
    intro path hpath
    by_cases heq : outputPath dir options file = path
    · exact ⟨files, file, [], plan, rfl, heq, by simp, hplan, heq ▸ hwrites.read⟩
    · have hdone : path ∈ done := ((hmem path).mp hpath).resolve_right (Ne.symm heq)
      obtain ⟨front, f, back, plan', rfl, hf, hback, hplan', hread⟩ := h.last path hdone
      refine ⟨front, f, back ++ [file], plan', by simp, hf, ?_, hplan', ?_⟩
      · intro g hg
        rcases List.mem_append.mp hg with hg | hg
        · exact hback g hg
        · rw [List.mem_singleton.mp hg]
          exact heq
      · refine hwrites.read_of_apart (fun place hlocate => ?_) hread
        rw [← hf] at hlocate heq
        exact apart_outputPath hsuffix (Ne.symm heq) hlocate
  case others =>
    intro place hplace bytes
    have hnew := hplace _ ((hmem _).mpr (.inr rfl))
    rw [hwrites.file_iff hnew]
    refine h.others place (fun path hpath hlocate => ?_) bytes
    exact hplace path ((hmem path).mpr (.inl hpath)) (hwrites.grows.locate hlocate)
  case reports =>
    rw [hlog, List.filter_append, List.filter_append, filter_generate_log, List.append_nil,
      h.reports, repeats_concat, List.map_append, List.append_assoc]
    simp only [h.mem_iff]
    by_cases hdone : outputPath dir options file ∈ files.map (outputPath dir options)
    · rw [if_pos hdone, if_pos hdone]
      rfl
    · rw [if_neg hdone, if_neg hdone]
      rfl

/-- **A run over files that have modules is stopped by the store, or it writes
them.** -/
theorem generateAll_cases (dir : String) (w : World)
    (hsuffix : '/' ∉ options.outputSuffix.toList) (files : List SchemaFile)
    (h : ∀ f ∈ files, ∃ plan, (ModulePlan.generate f options).1 = .ok plan) :
    (∃ e w', Run.generateAll (.text dir) options files [] w = .error (.file e) w') ∨
    ∃ paths w', Run.generateAll (.text dir) options files [] w = .ok paths w' ∧
      Written dir options files w w' paths := by
  -- From the end of the list, since each turn looks back on the paths before it.
  induction files using List.reverseRecOn with
  | nil => exact .inr ⟨[], w, rfl, .nil w⟩
  | append_singleton front f ih =>
    obtain ⟨hfront, hf⟩ := List.forall_mem_append.mp h
    obtain ⟨plan, hplan⟩ := hf f (List.mem_singleton_self f)
    rcases ih hfront with ⟨e, w₁, hall⟩ | ⟨done, w₁, hall, hwritten⟩
    · exact .inl ⟨e, w₁, generateAll_append_of_error hall⟩
    · have hlast : Run.generateAll (.text dir) options [f] done w₁ =
          Run.generateInto (.text dir) options done f w₁ := by
        rw [Run.generateAll]
        cases hinto : Run.generateInto (.text dir) options done f w₁ with
        | ok paths w₂ => rw [bind_of_ok hinto]; rfl
        | error e w₂ => rw [bind_of_error hinto]
      rw [generateAll_append_of_ok hall, hlast]
      rcases generateInto_cases dir done w₁ hplan with ⟨e, w₂, hinto⟩ | ⟨w₂, hinto, hwrites, hlog⟩
      · exact .inl ⟨e, w₂, hinto⟩
      · exact .inr ⟨_, w₂, hinto, hwritten.concat hsuffix hplan hwrites hlog⟩

/-! ### Runs on a descriptor set -/

/-- The request for the modules of a descriptor set. -/
def Request.onSet (setPath dir : String) (includes : List String) (options : Options) :
    Request where
  proto := none
  descriptorSet := some (.text setPath)
  out := .text dir
  includes
  options

theorem run_eq_generateAll {setPath : String} {includes : List String} {protos : List FileProto}
    (h : parseSet setPath (w.store.read setPath) = .ok protos) :
    Run.run (.onSet setPath dir includes options) w =
      Run.generateAll (.text dir) options (protos.map FileProto.toSchema) [] w := by
  have hload : Run.loadSet setPath w = .ok protos w := by
    have hget : (get : Run World) w = .ok w w := rfl
    unfold Run.loadSet
    rw [bind_of_ok hget, h]
    rfl
  have hpath : Run.pathOf (.text setPath) w = .ok setPath w := rfl
  show (do
    let files ← Run.loadSet (← Run.pathOf (.text setPath))
    Run.generateAll (.text dir) options (files.map FileProto.toSchema) [] : Run _) w = _
  rw [bind_of_ok hpath, bind_of_ok hload]

/-- **What a run on a descriptor set writes**, where the store stops no write. If
every file has a module, the run ends and all modules are written. If a file has
none, its error ends the run, and the store is as a run on the files before it
leaves it; in particular nothing has changed if it is the first. -/
theorem run_writes_modules (w : World) (setPath dir : String) (includes : List String)
    (options : Options) (protos : List FileProto)
    (hsuffix : '/' ∉ options.outputSuffix.toList)
    (hset : parseSet setPath (w.store.read setPath) = .ok protos)
    (hstore : ∀ e w', Run.run (.onSet setPath dir includes options) w ≠ .error (.file e) w') :
    ((∀ p ∈ protos, ∃ plan, (ModulePlan.generate p.toSchema options).1 = .ok plan) →
      ∃ paths w', Run.run (.onSet setPath dir includes options) w = .ok paths w' ∧
        Written dir options (protos.map FileProto.toSchema) w w' paths) ∧
    ∀ front p back e, protos = front ++ p :: back →
      (∀ q ∈ front, ∃ plan, (ModulePlan.generate q.toSchema options).1 = .ok plan) →
      (ModulePlan.generate p.toSchema options).1 = .error e →
      ∃ done w₁ w',
        Run.generateAll (.text dir) options (front.map FileProto.toSchema) [] w = .ok done w₁ ∧
        (∀ setPath', parseSet setPath' (w.store.read setPath') = .ok front →
          Run.run (.onSet setPath' dir includes options) w = .ok done w₁) ∧
        Written dir options (front.map FileProto.toSchema) w w₁ done ∧
        Run.run (.onSet setPath dir includes options) w = .error (.generate e) w' ∧
        w'.store = w₁.store ∧ (front = [] → w'.store = w.store) := by
  have hrun : Run.run (.onSet setPath dir includes options) w = _ := run_eq_generateAll hset
  constructor
  · intro hall
    rcases generateAll_cases dir w hsuffix (protos.map FileProto.toSchema)
      (by simpa using hall) with ⟨e, w', hfail⟩ | ⟨paths, w', hok, hwritten⟩
    · exact absurd (hrun.trans hfail) (hstore e w')
    · exact ⟨paths, w', hrun.trans hok, hwritten⟩
  · rintro front p back e rfl hfront hp
    rw [List.map_append, List.map_cons] at hrun
    rcases generateAll_cases dir w hsuffix (front.map FileProto.toSchema)
      (by simpa using hfront) with ⟨e', w', hfail⟩ | ⟨done, w₁, hok, hwritten⟩
    · exact absurd (hrun.trans (generateAll_append_of_error hfail)) (hstore e' w')
    · have hinto : Run.generateInto (.text dir) options done p.toSchema w₁ = .error (.generate e)
          { w₁ with log := w₁.log ++ (ModulePlan.generate p.toSchema options).2 } := by
        refine bind_of_error ?_
        rw [generateFile_eq, hp]
      have hend : Run.run (.onSet setPath dir includes options) w = .error (.generate e)
          { w₁ with log := w₁.log ++ (ModulePlan.generate p.toSchema options).2 } := by
        rw [hrun, generateAll_append_of_ok hok]
        exact bind_of_error hinto
      refine ⟨done, w₁, _, hok, fun setPath' hset' => (run_eq_generateAll hset').trans hok, hwritten,
        hend, rfl, ?_⟩
      rintro rfl
      cases hok
      rfl

/-- How work on a world ends, without the world. -/
def Run.outcome {α : Type} : EStateM.Result RunError World α → Except RunError α
  | .ok a _ => .ok a
  | .error e _ => .error e

/-- The entry of a descriptor set for a file with a short name. -/
def setEntry (name : String) (rest : Bytes) : Bytes :=
  let body := [0x0a, UInt8.ofNat name.utf8ByteSize] ++ encodeUtf8 name ++ rest
  [0x0a, UInt8.ofNat body.length] ++ body

/-- A world with two descriptor sets. In the first, two files share an output
path; in the second, the enum of the last file has no name. -/
def sharedWorld : World where
  store := { nodes :=
    [(["set.pb"], .file (setEntry "a/x.proto" [] ++ setEntry "c.proto" [] ++
      setEntry "b/x.proto" [])),
     (["bad.pb"], .file (setEntry "a/x.proto" [] ++ setEntry "b/y.proto" [0x2a, 0x00]))] }

/-- A schema file that declares nothing. -/
def emptyFile (name : String) : SchemaFile where
  name
  package := none
  enums := []
  messages := []

/-- A schema file with an enum that has no name. -/
def namelessFile (name : String) : SchemaFile := { emptyFile name with enums := [⟨"", "", []⟩] }

theorem run_writes_modules_shared :
    (∃ w', Run.run (.onSet "set.pb" "out" [] {}) sharedWorld =
        .ok ["out/x_wire.py", "out/c_wire.py"] w' ∧
      Written "out" {} (["a/x.proto", "c.proto", "b/x.proto"].map emptyFile) sharedWorld w'
        ["out/x_wire.py", "out/c_wire.py"] ∧
      w'.log.filter (·.source == .run) = [⟨.warning, .run,
        "b/x.proto overwrote out/x_wire.py generated earlier in this run"⟩]) ∧
    ∃ w₁ w', Run.run (.onSet "bad.pb" "out" [] {}) sharedWorld =
        .error (.generate (.name .emptyIdentifier)) w' ∧ w'.store = w₁.store ∧
      Written "out" {} [emptyFile "a/x.proto"] sharedWorld w₁ ["out/x_wire.py"] := by
  have hsuffix : '/' ∉ ({} : Options).outputSuffix.toList := by decide
  have hplans : ∀ f ∈ ["a/x.proto", "c.proto", "b/x.proto"].map emptyFile,
      ((ModulePlan.generate f {}).1.toOption.map fun _ => ()) = some () := by
    decide +kernel
  have hplan : ∀ p : FileProto,
      p.toSchema ∈ ["a/x.proto", "c.proto", "b/x.proto"].map emptyFile →
      ∃ plan, (ModulePlan.generate p.toSchema {}).1 = .ok plan := by
    intro p hp
    obtain ⟨plan, hok, -⟩ := exists_ok_of_toOption_map (hplans _ hp)
    exact ⟨plan, hok⟩
  constructor
  · have hview : (parseSet "set.pb" (sharedWorld.store.read "set.pb")).toOption.map
        (·.map FileProto.toSchema) =
          some (["a/x.proto", "c.proto", "b/x.proto"].map emptyFile) := by
      decide +kernel
    have hends : Run.outcome (Run.run (.onSet "set.pb" "out" [] {}) sharedWorld) =
        .ok ["out/x_wire.py", "out/c_wire.py"] := by
      decide +kernel
    obtain ⟨protos, hset, hfiles⟩ := exists_ok_of_toOption_map hview
    have hstore : ∀ e w', Run.run (.onSet "set.pb" "out" [] {}) sharedWorld ≠
        .error (.file e) w' := by
      intro e w' h
      rw [h] at hends
      cases hends
    obtain ⟨hall, -⟩ := run_writes_modules sharedWorld "set.pb" "out" [] {} protos hsuffix hset hstore
    obtain ⟨paths, w', hrun, hwritten⟩ := hall fun p hp =>
      hplan p (hfiles ▸ List.mem_map_of_mem hp)
    rw [hrun] at hends
    cases hends
    rw [hfiles] at hwritten
    refine ⟨w', hrun, hwritten, ?_⟩
    rw [hwritten.reports]
    decide +kernel
  · have hview : (parseSet "bad.pb" (sharedWorld.store.read "bad.pb")).toOption.map
        (·.map FileProto.toSchema) =
          some [emptyFile "a/x.proto", namelessFile "b/y.proto"] := by
      decide +kernel
    have hends : Run.outcome (Run.run (.onSet "bad.pb" "out" [] {}) sharedWorld) =
        .error (.generate (.name .emptyIdentifier)) := by
      decide +kernel
    obtain ⟨protos, hset, hfiles⟩ := exists_ok_of_toOption_map hview
    obtain ⟨p, rest, rfl, hp, hrest⟩ := List.map_eq_cons_iff.mp hfiles
    obtain ⟨q, rfl, hq⟩ := List.map_eq_singleton_iff.mp hrest
    have hstore : ∀ e w', Run.run (.onSet "bad.pb" "out" [] {}) sharedWorld ≠
        .error (.file e) w' := by
      intro e w' h
      rw [h] at hends
      cases hends
    have hfail : (ModulePlan.generate q.toSchema {}).1 = .error (.name .emptyIdentifier) := by
      rw [hq]
      decide +kernel
    obtain ⟨-, hfirst⟩ := run_writes_modules sharedWorld "bad.pb" "out" [] {} [p, q] hsuffix hset hstore
    obtain ⟨done, w₁, w', -, -, hwritten, hrun, hsame, -⟩ := hfirst [p] q [] _ rfl
      (fun x hx => hplan x (by rw [List.mem_singleton.mp hx, hp]; simp)) hfail
    have hdone := hwritten.paths_eq
    rw [List.map_singleton, hp] at hwritten hdone
    rw [hdone] at hwritten
    exact ⟨w₁, w', hrun, hsame, hwritten⟩

end WireSchema
