/-
# Flattening a tree of declarations

A place in a file is a message with the messages around it, and with the
indices that lead to it. Indices in lexicographic order list a tree in
preorder: a message before those it holds, and siblings as they are declared.

A schema file holds exactly the messages that are no entries of maps and lie
in none, in that order, and the enums of the file and of those messages in the
same order (`toSchema_flattens`). A full name is the package and the names on
the way down, joined by dots. But a scope without text adds no dot, so a full
name starts with the first of them that has text (`dotted`,
`fullName_below_nameless`).

If names have text and no dots, and no scope declares one twice, then a full
name can be split into its path again. So no two full names are the same, and
the name of a class is what the names of the path give together.

Key definitions: `Place`, `Leads`, `dotted`, `FileProto.WellNamed`, `Scoped`.
Key theorems: `mem_places_iff`, `pairwise_placesFrom`, `declaredAll_eq`,
`FileProto.WellNamed.scoped`, `dotted_inj`, `flatName_dotted`,
`toSchema_flattens`, `fullName_below_nameless`.
-/

import Mathlib.Data.List.Nodup
import Mathlib.Data.List.Perm.Basic
import WireSchema.Descriptor.Basic

namespace WireSchema

/-! ### Places in a tree -/

namespace MessageProto

def name : MessageProto → String
  | .mk name _ _ _ _ => name

def fields : MessageProto → List FieldProto
  | .mk _ fields _ _ _ => fields

def enums : MessageProto → List EnumProto
  | .mk _ _ enums _ _ => enums

def nested : MessageProto → List MessageProto
  | .mk _ _ _ nested _ => nested

def mapEntry : MessageProto → Bool
  | .mk _ _ _ _ mapEntry => mapEntry

end MessageProto

/-- A message, the messages around it from the outermost on, and which one of
its siblings is taken at each level. -/
structure Place where
  indices : List Nat
  outer : List MessageProto
  message : MessageProto

namespace Place

/-- The place as seen from one level further up. -/
def under (k : Nat) (m : MessageProto) (p : Place) : Place :=
  ⟨k :: p.indices, m :: p.outer, p.message⟩

/-- The names on the way down. -/
def path (p : Place) : List String := (p.outer ++ [p.message]).map MessageProto.name

/-- The paths of a message and of its enums. -/
def paths (p : Place) : List (List String) :=
  p.path :: p.message.enums.map fun e => p.path ++ [e.name]

@[simp] theorem path_under (k : Nat) (m : MessageProto) (p : Place) :
    (p.under k m).path = m.name :: p.path := rfl

theorem paths_under (k : Nat) (m : MessageProto) (p : Place) :
    (p.under k m).paths = p.paths.map (m.name :: ·) := by
  simp [paths, under, path]

end Place

/-- The place is in the tree: its indices lead to its message, past the
messages around it. -/
inductive Leads : List MessageProto → Place → Prop
  | found {messages : List MessageProto} {k : Nat} {m : MessageProto} :
      messages[k]? = some m → Leads messages ⟨[k], [], m⟩
  | under {messages : List MessageProto} {k : Nat} {m : MessageProto} {p : Place} :
      messages[k]? = some m → Leads m.nested p → Leads messages (p.under k m)

/-- The message is in the tree, and neither it nor one around it is an entry of
a map. -/
def DeclaredIn (messages : List MessageProto) (p : Place) : Prop :=
  Leads messages p ∧ ∀ m ∈ p.outer ++ [p.message], m.mapEntry = false

mutual

/-- The declared messages of a tree, with their places. -/
def MessageProto.places (k : Nat) : MessageProto → List Place
  | .mk name fields enums nested mapEntry =>
    if mapEntry then []
    else
      let m := .mk name fields enums nested mapEntry
      ⟨[k], [], m⟩ :: (placesFrom 0 nested).map (Place.under k m)

/-- The declared messages of several trees; the first one has index `k`. -/
def placesFrom (k : Nat) : List MessageProto → List Place
  | [] => []
  | m :: rest => m.places k ++ placesFrom (k + 1) rest

end

theorem places_of_mapEntry {m : MessageProto} (h : m.mapEntry = true) (k : Nat) :
    m.places k = [] := by
  cases m with
  | mk => exact if_pos h

theorem places_of_not_mapEntry {m : MessageProto} (h : m.mapEntry = false) (k : Nat) :
    m.places k = ⟨[k], [], m⟩ :: (placesFrom 0 m.nested).map (Place.under k m) := by
  cases m with
  | mk =>
    cases h
    rfl

theorem mem_placesFrom {m : MessageProto} {p : Place} : ∀ {messages : List MessageProto}
    {i k : Nat}, messages[i]? = some m → p ∈ m.places (k + i) → p ∈ placesFrom k messages
  | _ :: _, 0, _, hm, hp => by
    cases hm
    exact List.mem_append_left _ hp
  | _ :: _, i + 1, k, hm, hp =>
    List.mem_append_right _ (mem_placesFrom hm (by rwa [Nat.succ_add_eq_add_succ]))


mutual

theorem MessageProto.declaredIn_of_mem_places : ∀ (m : MessageProto) {messages : List MessageProto}
    {k : Nat} {p : Place}, messages[k]? = some m → p ∈ m.places k → DeclaredIn messages p
  | .mk name fields enums nested mapEntry, messages, k, p, hm, hp => by
    cases mapEntry with
    | true => simp [MessageProto.places] at hp
    | false =>
      rcases List.mem_cons.mp hp with rfl | hp
      · exact ⟨.found hm, by simp [MessageProto.mapEntry]⟩
      · obtain ⟨q, hq, rfl⟩ := List.mem_map.mp hp
        obtain ⟨hleads, hentry⟩ := declaredIn_of_mem_placesFrom nested List.drop_zero hq
        exact ⟨.under hm hleads, List.forall_mem_cons.mpr ⟨rfl, hentry⟩⟩

theorem declaredIn_of_mem_placesFrom : ∀ (rest : List MessageProto) {messages : List MessageProto}
    {k : Nat} {p : Place}, messages.drop k = rest → p ∈ placesFrom k rest → DeclaredIn messages p
  | [], _, _, _, _, hp => nomatch hp
  | m :: rest, messages, k, p, hrest, hp => by
    rcases List.mem_append.mp hp with hp | hp
    · refine m.declaredIn_of_mem_places ?_ hp
      rw [← List.head?_drop, hrest, List.head?_cons]
    · refine declaredIn_of_mem_placesFrom rest ?_ hp
      rw [← List.tail_drop, hrest, List.tail_cons]

end

/-- The listed places are the places of the declared messages. -/
theorem mem_places_iff {messages : List MessageProto} {p : Place} :
    p ∈ placesFrom 0 messages ↔ DeclaredIn messages p := by
  refine ⟨declaredIn_of_mem_placesFrom messages List.drop_zero, ?_⟩
  rintro ⟨hleads, hentry⟩
  induction hleads with
  | found hm =>
    refine mem_placesFrom hm ?_
    rw [places_of_not_mapEntry (by simpa using hentry), Nat.zero_add]
    exact List.mem_cons_self
  | under hm _ ih =>
    obtain ⟨houter, hinner⟩ := List.forall_mem_cons.mp hentry
    refine mem_placesFrom hm ?_
    rw [places_of_not_mapEntry houter, Nat.zero_add]
    exact List.mem_cons_of_mem _ (List.mem_map_of_mem (ih hinner))

/-! ### The order of places -/

theorem exists_indices_of_mem_places {m : MessageProto} {k : Nat} {p : Place}
    (h : p ∈ m.places k) : ∃ rest, p.indices = k :: rest := by
  cases hentry : m.mapEntry with
  | true => simp [places_of_mapEntry hentry] at h
  | false =>
    rw [places_of_not_mapEntry hentry] at h
    rcases List.mem_cons.mp h with rfl | h
    · exact ⟨[], rfl⟩
    · obtain ⟨q, -, rfl⟩ := List.mem_map.mp h
      exact ⟨q.indices, rfl⟩

theorem exists_indices_of_mem_placesFrom : ∀ {messages : List MessageProto} {k : Nat} {p : Place},
    p ∈ placesFrom k messages → ∃ i rest, k ≤ i ∧ p.indices = i :: rest
  | m :: messages, k, p, hp => by
    rcases List.mem_append.mp hp with hp | hp
    · obtain ⟨rest, hrest⟩ := exists_indices_of_mem_places hp
      exact ⟨k, rest, Nat.le_refl k, hrest⟩
    · obtain ⟨i, rest, hi, hrest⟩ := exists_indices_of_mem_placesFrom hp
      exact ⟨i, rest, by omega, hrest⟩

mutual

theorem MessageProto.pairwise_places : ∀ (m : MessageProto) (k : Nat),
    (m.places k).Pairwise fun p q => p.indices < q.indices
  | .mk name fields enums nested mapEntry, k => by
    cases mapEntry with
    | true => exact .nil
    | false =>
      refine List.pairwise_cons.mpr ⟨fun q hq => ?_, List.pairwise_map.mpr ?_⟩
      · obtain ⟨p, hp, rfl⟩ := List.mem_map.mp hq
        obtain ⟨i, rest, -, hrest⟩ := exists_indices_of_mem_placesFrom hp
        simp [Place.under, hrest]
      · refine (pairwise_placesFrom nested 0).imp fun hlt => ?_
        exact List.cons_lt_cons_iff.mpr (.inr ⟨rfl, hlt⟩)

/-- The places are listed in preorder. -/
theorem pairwise_placesFrom : ∀ (messages : List MessageProto) (k : Nat),
    (placesFrom k messages).Pairwise fun p q => p.indices < q.indices
  | [], _ => .nil
  | m :: messages, k => by
    refine List.pairwise_append.mpr
      ⟨m.pairwise_places k, pairwise_placesFrom messages (k + 1), fun p hp q hq => ?_⟩
    obtain ⟨rest, hp⟩ := exists_indices_of_mem_places hp
    obtain ⟨i, rest', hi, hq⟩ := exists_indices_of_mem_placesFrom hq
    rw [hp, hq]
    exact List.cons_lt_cons_iff.mpr (.inl hi)

end

/-! ### Full names -/

/-- The package and the names of a path, joined by dots. -/
def joined (package : String) (path : List String) : String :=
  ".".intercalate (if package.isEmpty then path else package :: path)

/-- The package and the names of a path, joined by dots from the first one on
that has text. -/
def dotted (package : String) (path : List String) : String :=
  ".".intercalate ((package :: path).dropWhile String.isEmpty)

theorem dotted_of_package {package : String} (h : package ≠ "") (path : List String) :
    dotted package path = ".".intercalate (package :: path) := by
  rw [dotted, List.dropWhile_cons_of_neg (by simpa using h)]

/-- Nothing is left out if the package or the outermost name has text. -/
theorem dotted_eq_joined {package : String} {path : List String}
    (h : package ≠ "" ∨ path.head? ≠ some "") : dotted package path = joined package path := by
  by_cases hpackage : package = ""
  · subst hpackage
    cases path with
    | nil => rfl
    | cons name path =>
      have hname : name ≠ "" := by simpa using h
      simp [dotted, joined, hname]
  · simp [dotted_of_package hpackage, joined, hpackage]

theorem dotted_nil (scope : String) : dotted scope [] = scope := by
  by_cases h : scope = "" <;> simp [dotted, h]

/-- A name and what is below it, in a scope. -/
theorem dotted_cons (scope name : String) (path : List String) :
    dotted scope (name :: path) = dotted (qualify scope name) path := by
  by_cases h : scope = ""
  · simp [dotted, qualify, h]
  · have hne : scope ++ "." ++ name ≠ "" := by simp [h]
    rw [qualify, if_neg (by simpa using h), dotted_of_package hne, dotted_of_package h]
    simp [String.append_assoc]

/-- The declaration of the message at a place. -/
def Place.decl (package : String) (p : Place) : MessageDecl where
  name := p.message.name
  fullName := dotted package p.path
  fields := p.message.fields.map FieldProto.toField

/-- The declaration of an enum below a path. -/
def EnumProto.declBelow (package : String) (path : List String) (e : EnumProto) : EnumDecl where
  name := e.name
  fullName := dotted package (path ++ [e.name])
  values := e.values.foldl putValue []

/-- The declarations of the enums at a place. -/
def Place.enumDecls (package : String) (p : Place) : List EnumDecl :=
  p.message.enums.map (EnumProto.declBelow package p.path)

theorem EnumProto.toDecl_eq_declBelow (scope : String) :
    EnumProto.toDecl scope = EnumProto.declBelow scope [] := by
  funext e
  simp [EnumProto.toDecl, EnumProto.declBelow, dotted_cons, dotted_nil]

theorem Place.decls_under (scope : String) (k : Nat) (m : MessageProto) (p : Place) :
    ((p.under k m).decl scope, (p.under k m).enumDecls scope) =
      (p.decl (qualify scope m.name), p.enumDecls (qualify scope m.name)) := by
  unfold Place.decl Place.enumDecls EnumProto.declBelow
  simp only [path_under, List.cons_append, dotted_cons]
  rfl

mutual

theorem MessageProto.declared_eq : ∀ (m : MessageProto) (scope : String) (k : Nat),
    m.declared scope = (m.places k).map fun p => (p.decl scope, p.enumDecls scope)
  | .mk name fields enums nested mapEntry, scope, k => by
    cases mapEntry with
    | true => rfl
    | false =>
      simp only [MessageProto.declared, MessageProto.places, Bool.false_eq_true, if_false,
        List.map_cons, List.map_map, Function.comp_def, Place.decls_under]
      rw [declaredAll_eq nested (qualify scope name) 0]
      simp [Place.decl, Place.enumDecls, Place.path, EnumProto.toDecl_eq_declBelow,
        EnumProto.declBelow, MessageProto.name, MessageProto.fields, MessageProto.enums,
        dotted_cons, dotted_nil]

/-- The declarations of trees are those at their places. -/
theorem declaredAll_eq : ∀ (messages : List MessageProto) (scope : String) (k : Nat),
    declaredAll scope messages =
      (placesFrom k messages).map fun p => (p.decl scope, p.enumDecls scope)
  | [], _, _ => rfl
  | m :: messages, scope, k => by
    rw [declaredAll, placesFrom, List.map_append, m.declared_eq scope k,
      declaredAll_eq messages scope (k + 1)]

end

/-! ### Paths of well-named declarations -/

/-- A name with text and without dots. -/
def Undotted (name : String) : Prop := name ≠ "" ∧ '.' ∉ name.toList

instance (name : String) : Decidable (Undotted name) := inferInstanceAs (Decidable (_ ∧ _))

/-- Names with text and without dots, no two of them the same. -/
def GoodNames (names : List String) : Prop := names.Nodup ∧ ∀ name ∈ names, Undotted name

instance (names : List String) : Decidable (GoodNames names) := inferInstanceAs (Decidable (_ ∧ _))

theorem GoodNames.of_append {names names' : List String} (h : GoodNames (names ++ names')) :
    GoodNames names ∧ GoodNames names' :=
  ⟨⟨h.1.of_append_left, fun n hn => h.2 n (List.mem_append_left _ hn)⟩,
    ⟨h.1.of_append_right, fun n hn => h.2 n (List.mem_append_right _ hn)⟩⟩

/-- The names that a scope declares. -/
def scopeNames (enums : List EnumProto) (messages : List MessageProto) : List String :=
  enums.map EnumProto.name ++ messages.map MessageProto.name

mutual

/-- Every scope of a tree has good names. -/
def MessageProto.WellNamed : MessageProto → Prop
  | .mk _ _ enums nested _ => GoodNames (scopeNames enums nested) ∧ AllWellNamed nested

/-- Every scope of several trees has good names. -/
def AllWellNamed : List MessageProto → Prop
  | [] => True
  | m :: messages => m.WellNamed ∧ AllWellNamed messages

end

/-- The package does not start with a dot, and every scope has good names. -/
structure FileProto.WellNamed (f : FileProto) : Prop where
  package : f.package.toList.head? ≠ some '.'
  scope : GoodNames (scopeNames f.enums f.messages)
  messages : AllWellNamed f.messages

/-- Distinct paths of good names, each of which starts with one of `names`. -/
structure Scoped (names : List String) (paths : List (List String)) : Prop where
  nodup : paths.Nodup
  head : ∀ path ∈ paths, ∃ name ∈ names, path.head? = some name
  undotted : ∀ path ∈ paths, ∀ name ∈ path, Undotted name

namespace Scoped

variable {names names' : List String} {paths paths' : List (List String)}

theorem nil : Scoped names [] := ⟨.nil, by simp, by simp⟩

theorem ne_nil (h : Scoped names paths) : ∀ path ∈ paths, path ≠ [] := by
  rintro path hpath rfl
  obtain ⟨name, -, hname⟩ := h.head [] hpath
  cases hname

/-- A name and the paths below it. -/
theorem cons {name : String} (hname : Undotted name) (h : Scoped names paths) :
    Scoped [name] ([name] :: paths.map (name :: ·)) where
  nodup := by
    refine List.nodup_cons.mpr ⟨fun hmem => ?_, h.nodup.map List.cons_injective⟩
    obtain ⟨path, hpath, heq⟩ := List.mem_map.mp hmem
    exact h.ne_nil path hpath (List.cons.inj heq).2
  head := by simp
  undotted := by
    simp only [List.mem_cons, List.mem_map]
    rintro _ (rfl | ⟨path, hpath, rfl⟩) n hn
    · rwa [List.mem_singleton.mp hn]
    · rcases List.mem_cons.mp hn with rfl | hn
      · exact hname
      · exact h.undotted path hpath n hn

/-- Paths below different names. -/
theorem append (h : Scoped names paths) (h' : Scoped names' paths')
    (hnames : (names ++ names').Nodup) : Scoped (names ++ names') (paths ++ paths') where
  nodup := by
    refine h.nodup.append h'.nodup fun path hp hp' => ?_
    obtain ⟨name, hname, hhead⟩ := h.head path hp
    obtain ⟨name', hname', hhead'⟩ := h'.head path hp'
    obtain rfl : name = name' := Option.some.inj (hhead.symm.trans hhead')
    exact List.disjoint_of_nodup_append hnames hname hname'
  head path hpath := by
    rcases List.mem_append.mp hpath with hp | hp
    · obtain ⟨name, hname, hhead⟩ := h.head path hp
      exact ⟨name, List.mem_append_left _ hname, hhead⟩
    · obtain ⟨name, hname, hhead⟩ := h'.head path hp
      exact ⟨name, List.mem_append_right _ hname, hhead⟩
  undotted path hpath := by
    rcases List.mem_append.mp hpath with hp | hp
    · exact h.undotted path hp
    · exact h'.undotted path hp

theorem of_names (h : GoodNames names) : Scoped names (names.map fun name => [name]) where
  nodup := h.1.map List.singleton_injective
  head := by simp
  undotted path hpath n hn := by
    obtain ⟨name, hname, rfl⟩ := List.mem_map.mp hpath
    rw [List.mem_singleton.mp hn]
    exact h.2 name hname

end Scoped

/-- The paths of all that a scope declares, in it or further down. -/
def scopePaths (enums : List EnumProto) (messages : List MessageProto) : List (List String) :=
  (enums.map EnumProto.name).map (fun name => [name]) ++ (placesFrom 0 messages).flatMap Place.paths

theorem flatMap_paths_places {m : MessageProto} (h : m.mapEntry = false) (k : Nat) :
    (m.places k).flatMap Place.paths =
      [m.name] :: (scopePaths m.enums m.nested).map (m.name :: ·) := by
  rw [places_of_not_mapEntry h, List.flatMap_cons, List.flatMap_map]
  simp only [Place.paths_under, scopePaths, List.map_append, List.map_flatMap, List.map_map]
  rfl

theorem scoped_scopePaths {enums : List EnumProto} {messages : List MessageProto}
    (h : GoodNames (scopeNames enums messages))
    (hbelow : Scoped (messages.map MessageProto.name)
      ((placesFrom 0 messages).flatMap Place.paths)) :
    Scoped (scopeNames enums messages) (scopePaths enums messages) :=
  (Scoped.of_names h.of_append.1).append hbelow h.1

mutual

theorem MessageProto.scoped_places : ∀ (m : MessageProto) (k : Nat), Undotted m.name →
    m.WellNamed → Scoped [m.name] ((m.places k).flatMap Place.paths)
  | .mk name fields enums nested mapEntry, k, hname, ⟨hgood, hnested⟩ => by
    cases mapEntry with
    | true => exact .nil
    | false =>
      have hbelow := scoped_placesFrom nested 0 hgood.of_append.2 hnested
      rw [flatMap_paths_places rfl]
      exact .cons hname (scoped_scopePaths hgood hbelow)

theorem scoped_placesFrom : ∀ (messages : List MessageProto) (k : Nat),
    GoodNames (messages.map MessageProto.name) → AllWellNamed messages →
    Scoped (messages.map MessageProto.name) ((placesFrom k messages).flatMap Place.paths)
  | [], _, _, _ => .nil
  | m :: messages, k, hgood, ⟨hm, hmessages⟩ => by
    have hsplit : GoodNames ([m.name] ++ messages.map MessageProto.name) := hgood
    obtain ⟨hname, hnames⟩ := hsplit.of_append
    rw [placesFrom, List.flatMap_append]
    exact (m.scoped_places k (hname.2 _ List.mem_cons_self) hm).append
      (scoped_placesFrom messages (k + 1) hnames hmessages) hsplit.1

end

/-- **The paths of a well-named file are distinct**, and their names have text
and no dots. -/
theorem FileProto.WellNamed.scoped {f : FileProto} (h : f.WellNamed) :
    Scoped (scopeNames f.enums f.messages) (scopePaths f.enums f.messages) :=
  scoped_scopePaths h.scope (scoped_placesFrom f.messages 0 h.scope.of_append.2 h.messages)

/-! ### Reading dotted names -/

section Reading

variable {package : String} {path path' : List String}

theorem toList_dotted (hne : path ≠ []) (h : ∀ name ∈ path, Undotted name) :
    (dotted package path).toList =
      (if package.isEmpty then [] else package.toList ++ ['.']) ++
        ['.'].intercalate (path.map String.toList) := by
  have hhead : path.head? ≠ some "" := fun hhead => (h "" (List.mem_of_mem_head? hhead)).1 rfl
  rw [dotted_eq_joined (.inr hhead), joined]
  split
  · simp
  · rw [String.intercalate_cons_of_ne_nil hne]
    simp

theorem splitOn_intercalate_path (hne : path ≠ []) (h : ∀ name ∈ path, Undotted name) :
    (['.'].intercalate (path.map String.toList)).splitOn '.' = path.map String.toList := by
  refine List.splitOn_intercalate '.' ?_ (by simpa using hne)
  simpa using fun name hname => (h name hname).2

/-- The parts of a dotted name can be told apart. -/
theorem dotted_inj (hne : path ≠ []) (hne' : path' ≠ []) (h : ∀ name ∈ path, Undotted name)
    (h' : ∀ name ∈ path', Undotted name) (heq : dotted package path = dotted package path') :
    path = path' := by
  have hchars := congrArg String.toList heq
  rw [toList_dotted hne h, toList_dotted hne' h', List.append_cancel_left_eq] at hchars
  have hparts := congrArg (List.splitOn '.') hchars
  rw [splitOn_intercalate_path hne h, splitOn_intercalate_path hne' h'] at hparts
  exact List.map_injective_iff.mpr (fun _ _ => String.toList_inj.mp) hparts

theorem filter_intercalate_path : ∀ {path : List String}, (∀ name ∈ path, Undotted name) →
    (['.'].intercalate (path.map String.toList)).filter (· != '.') = path.flatMap String.toList
  | [], _ => rfl
  | name :: path, h => by
    obtain ⟨hname, hpath⟩ := List.forall_mem_cons.mp h
    have hfilter : name.toList.filter (· != '.') = name.toList :=
      List.filter_eq_self.mpr fun c hc => by
        have : c ≠ '.' := fun hdot => hname.2 (hdot ▸ hc)
        simpa using this
    have ih := filter_intercalate_path hpath
    cases path with
    | nil => simpa using hfilter
    | cons => simpa [hfilter] using ih

theorem head?_toList_dotted (hpackage : package.toList.head? ≠ some '.') (hne : path ≠ [])
    (h : ∀ name ∈ path, Undotted name) : (dotted package path).toList.head? ≠ some '.' := by
  obtain ⟨name, rest, rfl⟩ := List.exists_cons_of_ne_nil hne
  obtain ⟨hname, -⟩ := List.forall_mem_cons.mp h
  have hfirst : name.toList.head? ≠ some '.' := fun hdot => hname.2 (List.mem_of_mem_head? hdot)
  have htext : name.toList ≠ [] := by simpa using hname.1
  rw [toList_dotted hne h]
  by_cases hempty : package = ""
  · cases rest with
    | nil => simpa [hempty] using hfirst
    | cons => simpa [hempty, List.head?_append_of_ne_nil _ htext] using hfirst
  · have htext' : package.toList ≠ [] := by simpa using hempty
    simpa [hempty, List.head?_append_of_ne_nil _ htext'] using hpackage

theorem withinPackage_append (package : String) (chars : List Char) :
    withinPackage (if package.isEmpty then none else some package)
      ((if package.isEmpty then [] else package.toList ++ ['.']) ++ chars) = chars := by
  by_cases hempty : package.isEmpty
  · simp [withinPackage, hempty]
  · have hrest : (package.toList ++ ['.']).isPrefixOf? (package.toList ++ ['.'] ++ chars) =
        some chars := List.isPrefixOf?_eq_some_iff_append_eq.mpr rfl
    simp only [withinPackage, hempty, if_false, Bool.false_eq_true, hrest, Option.getD_some]

/-- **The class name of a dotted name is its path in one word.** -/
theorem flatName_dotted (hpackage : package.toList.head? ≠ some '.') (hne : path ≠ [])
    (h : ∀ name ∈ path, Undotted name) :
    flatName (dotted package path) (if package.isEmpty then none else some package) =
      String.join path := by
  have hdrop : (dotted package path).toList.dropWhile (· == '.') =
      (dotted package path).toList := by
    have hhead := head?_toList_dotted hpackage hne h
    cases hchars : (dotted package path).toList with
    | nil => rfl
    | cons c chars => exact List.dropWhile_cons_of_neg (by simpa [hchars] using hhead)
  refine String.toList_inj.mp ?_
  rw [flatName, hdrop, toList_dotted hne h, withinPackage_append, filter_intercalate_path h,
    String.toList_ofList, String.toList_join]

end Reading

/-! ### Flattening -/

/-- The path is that of an enum of the file, or of a declared message or one of
its enums. -/
def FileProto.HasPath (f : FileProto) (path : List String) : Prop :=
  (∃ e ∈ f.enums, path = [e.name]) ∨
    ∃ p, DeclaredIn f.messages p ∧
      (path = p.path ∨ ∃ e ∈ p.message.enums, path = p.path ++ [e.name])

theorem FileProto.HasPath.mem {f : FileProto} {path : List String} (h : f.HasPath path) :
    path ∈ scopePaths f.enums f.messages := by
  unfold scopePaths
  rcases h with ⟨e, he, rfl⟩ | ⟨p, hp, hpath⟩
  · exact List.mem_append_left _ (List.mem_map_of_mem (List.mem_map_of_mem he))
  · refine List.mem_append_right _ (List.mem_flatMap.mpr ⟨p, mem_places_iff.mpr hp, ?_⟩)
    rcases hpath with rfl | ⟨e, he, rfl⟩
    · exact List.mem_cons_self
    · exact List.mem_cons_of_mem _ (List.mem_map_of_mem he)

theorem toSchema_messages (f : FileProto) :
    f.toSchema.messages = (placesFrom 0 f.messages).map (Place.decl f.package) := by
  simp [FileProto.toSchema, declaredAll_eq f.messages f.package 0]

theorem toSchema_enums (f : FileProto) :
    f.toSchema.enums = f.enums.map (EnumProto.declBelow f.package []) ++
      (placesFrom 0 f.messages).flatMap (Place.enumDecls f.package) := by
  simp [FileProto.toSchema, declaredAll_eq f.messages f.package 0, EnumProto.toDecl_eq_declBelow,
    List.flatMap_map]

/-- The full names of a schema file are those of its paths. -/
theorem fullNames_perm (f : FileProto) :
    (f.toSchema.messages.map MessageDecl.fullName ++ f.toSchema.enums.map EnumDecl.fullName).Perm
      ((scopePaths f.enums f.messages).map (dotted f.package)) := by
  have hplaces := List.map_append_flatMap_perm (placesFrom 0 f.messages)
    (fun p => dotted f.package p.path)
    (fun p => p.message.enums.map fun e => dotted f.package (p.path ++ [e.name]))
  rw [toSchema_messages, toSchema_enums]
  simp only [scopePaths, Place.paths, Place.enumDecls, Place.decl, EnumProto.declBelow,
    List.map_append, List.map_map, List.map_flatMap, List.map_cons, Function.comp_def,
    List.nil_append]
  -- The enums of the file come between the messages and the nested enums.
  exact (List.perm_append_comm_assoc _ _ _).trans (hplaces.append_left _)

/-- **A file is flattened in preorder.** There is a list of places, in preorder,
of exactly the messages that are no entries of maps and lie in none. The schema
file has their declarations as its messages; its enums are those of the file,
then those of these messages. A full name joins the package and the path by
dots, from the first part on that has text. If the file is well named, then no
two full names are the same, and a class name is the path in one word. -/
theorem toSchema_flattens (f : FileProto) :
    ∃ places : List Place,
      (places.map Place.indices).Pairwise (· < ·) ∧
      (∀ p, p ∈ places ↔ DeclaredIn f.messages p) ∧
      f.toSchema.messages = places.map (Place.decl f.package) ∧
      f.toSchema.enums = f.enums.map (EnumProto.declBelow f.package []) ++
        places.flatMap (Place.enumDecls f.package) ∧
      (∀ path, f.package ≠ "" ∨ path.head? ≠ some "" →
        dotted f.package path = joined f.package path) ∧
      (f.WellNamed →
        (f.toSchema.messages.map MessageDecl.fullName ++
          f.toSchema.enums.map EnumDecl.fullName).Nodup ∧
        ∀ path, f.HasPath path →
          flatName (dotted f.package path) f.toSchema.package = String.join path) := by
  refine ⟨placesFrom 0 f.messages, List.pairwise_map.mpr (pairwise_placesFrom f.messages 0),
    fun p => mem_places_iff, toSchema_messages f, toSchema_enums f,
    fun path h => dotted_eq_joined h, fun h => ⟨?_, fun path hpath => ?_⟩⟩
  · refine (fullNames_perm f).nodup_iff.mpr (h.scoped.nodup.map_on ?_)
    intro path hpath path' hpath' heq
    exact dotted_inj (h.scoped.ne_nil path hpath) (h.scoped.ne_nil path' hpath')
      (h.scoped.undotted path hpath) (h.scoped.undotted path' hpath') heq
  · exact flatName_dotted h.package (h.scoped.ne_nil path hpath.mem)
      (h.scoped.undotted path hpath.mem)

/-- A message that holds an enum, a message with an enum, and an entry of a
map; a second message has the name of the inner one. -/
def ordersTree : FileProto where
  name := "orders.proto"
  package := "shop"
  enums := [{ name := "State" }]
  messages :=
    [.mk "Order" [] [{ name := "Kind" }]
      [.mk "Line" [{ name := "kind" }] [{ name := "State" }] [] false,
       .mk "TagsEntry" [] [] [] true] false,
     .mk "Line" [] [] [] false]

theorem toSchema_flattens_orders :
    ordersTree.WellNamed ∧
      (ordersTree.toSchema.messages.map MessageDecl.fullName ++
        ordersTree.toSchema.enums.map EnumDecl.fullName).Nodup ∧
      flatName "shop.Order.Line.State" ordersTree.toSchema.package = "OrderLineState" := by
  have hnamed : ordersTree.WellNamed := by
    refine ⟨by decide +kernel, by decide +kernel, ?_⟩
    refine ⟨⟨by decide +kernel, ⟨?_, trivial⟩, ⟨?_, trivial⟩, trivial⟩, ⟨?_, trivial⟩, trivial⟩
    all_goals decide +kernel
  have hpath : ordersTree.HasPath ["Order", "Line", "State"] :=
    .inr ⟨_, ⟨.under (k := 0) rfl (.found (k := 0) rfl), by decide⟩,
      .inr ⟨_, List.mem_cons_self, rfl⟩⟩
  have hdotted : dotted ordersTree.package ["Order", "Line", "State"] =
      "shop.Order.Line.State" := by
    decide +kernel
  obtain ⟨-, -, -, -, -, -, h⟩ := toSchema_flattens ordersTree
  obtain ⟨hnodup, hflat⟩ := h hnamed
  have hname := hflat _ hpath
  rw [hdotted] at hname
  exact ⟨hnamed, hnodup, hname.trans (by decide +kernel)⟩

/-- A message without a name that holds another one. -/
def namelessTree : FileProto where
  name := "x.proto"
  messages := [.mk "" [] [] [.mk "X" [] [] [] false] false]

/-- No message has the full name that joins the names on the way down by dots:
it would start with a dot, and a scope without a name adds none. -/
theorem fullName_below_nameless :
    ∃ p, DeclaredIn namelessTree.messages p ∧ p.path = ["", "X"] ∧
      joined namelessTree.package p.path ∉
        namelessTree.toSchema.messages.map MessageDecl.fullName :=
  ⟨_, ⟨.under (k := 0) rfl (.found (k := 0) rfl), by decide⟩, rfl, by decide +kernel⟩

end WireSchema
