/-
# Places that paths lead to

A path is followed from place to place, and it leads to the same place for as
long as the directories on its way are there. No operation takes a directory
away (`Store.Grows`), so a path that has led somewhere goes on to lead there
(`Store.Grows.locate`).

A path that ends in the name of an entry leads to a place of that name,
whatever comes before it (`Store.getLast?_of_locate`). This holds for a name that
was joined to a directory and tidied up, too (`Path.endsIn_clean_join`), so
different names below one directory lead to different places.

Making directories keeps all files and adds none, whether or not it succeeds
(`Store.OnlyAdds.makeDirsWithin`), and writing changes one place
(`Store.Writes.file_iff`).

Key definitions: `Path.IsEntry`, `Path.EndsIn`, `Store.Grows`, `Store.Adds`,
`Store.OnlyAdds`, `Store.Writes`.
Key theorems: `Path.endsIn_clean_join`, `Store.getLast?_of_locate`,
`Store.Grows.locate`, `Store.OnlyAdds.makeDirsWithin`, `Store.Writes.read`,
`Store.Writes.file_iff`.
-/

import WireSchema.Proofs.Generation
import WireSchema.Storage

namespace WireSchema

/-! ### Components -/

namespace Path

variable {path dir name : String}

theorem pieces_ne_nil : ∀ text : List Char, pieces text ≠ []
  | [] => by simp [pieces]
  | c :: text => by
    rw [pieces]
    split
    · simp
    · split <;> simp

theorem pieces_append : ∀ text rest : List Char,
    pieces (text ++ '/' :: rest) = pieces text ++ pieces rest
  | [], rest => by simp [pieces]
  | c :: text, rest => by
    have ih := pieces_append text rest
    rw [List.cons_append, pieces, pieces, ih]
    split
    · rfl
    · cases htext : pieces text with
      | nil => exact absurd htext (pieces_ne_nil text)
      | cons piece more => rfl

theorem pieces_of_notMem : ∀ {text : List Char}, '/' ∉ text → pieces text = [text]
  | [], _ => rfl
  | c :: text, h => by
    rw [List.mem_cons, not_or] at h
    rw [pieces, if_neg (Ne.symm h.1), pieces_of_notMem h.2]

theorem notMem_of_mem_pieces : ∀ {text piece : List Char}, piece ∈ pieces text → '/' ∉ piece
  | [], piece, h => by
    rw [List.mem_singleton.mp h]
    simp
  | c :: text, piece, h => by
    have ih : ∀ p ∈ pieces text, '/' ∉ p := fun p hp => notMem_of_mem_pieces hp
    rw [pieces] at h
    split at h
    · rcases List.mem_cons.mp h with rfl | h
      · simp
      · exact ih piece h
    · next hc =>
      split at h
      · rw [List.mem_singleton.mp h]
        simpa using Ne.symm hc
      · next first more hpieces =>
        rcases List.mem_cons.mp h with rfl | h
        · rw [List.mem_cons, not_or]
          exact ⟨Ne.symm hc, ih first (by simp [hpieces])⟩
        · exact ih piece (by simp [hpieces, h])

/-- Names an entry of a directory: one component, which leads neither nowhere
nor up. -/
structure IsEntry (name : String) : Prop where
  noSlash : '/' ∉ name.toList
  notVoid : name ≠ "" ∧ name ≠ "."
  notUp : name ≠ ".."

/-- The last component of a path. -/
def EndsIn (path name : String) : Prop := ∃ front, components path = front ++ [name]

/-- A text that a component can follow: it is empty or ends in a slash. -/
def Opens (text : String) : Prop := text = "" ∨ ∃ front, text = front ++ "/"

theorem opens_append {a b : String} (ha : Opens a) (hb : Opens b) : Opens (a ++ b) := by
  rcases hb with rfl | ⟨front, rfl⟩
  · rwa [String.append_empty]
  · exact .inr ⟨a ++ front, by rw [String.append_assoc]⟩

theorem opens_root (path : String) : Opens (root path) := by
  unfold root
  split
  · exact .inr ⟨"", rfl⟩
  · exact .inr ⟨"/", rfl⟩
  · exact .inr ⟨"", rfl⟩
  · exact .inl rfl

theorem EndsIn.of_opens {front : String} (h : Opens front) (hname : '/' ∉ name.toList) :
    EndsIn (front ++ name) name := by
  have hpieces := pieces_of_notMem hname
  rcases h with rfl | ⟨front, rfl⟩
  · refine ⟨[], ?_⟩
    rw [String.empty_append, components, hpieces]
    simp
  · refine ⟨components front, ?_⟩
    have htext : (front ++ "/" ++ name).toList = front.toList ++ '/' :: name.toList := by simp
    rw [components, htext, pieces_append, hpieces, List.map_append]
    simp [components]

/-- A name joined to a directory is the last component. -/
theorem endsIn_join (dir : String) (hname : '/' ∉ name.toList) : EndsIn (join dir name) name := by
  unfold join
  split
  · next hhead => exact absurd (List.mem_of_head? hhead) hname
  · split
    · next hdir =>
      refine EndsIn.of_opens ?_ hname
      rw [Bool.or_eq_true, String.isEmpty_iff, decide_eq_true_eq] at hdir
      rcases hdir with hdir | hdir
      · exact .inl hdir
      · obtain ⟨front, hfront⟩ := List.getLast?_eq_some_iff.mp hdir
        exact .inr ⟨String.ofList front, by rw [← String.toList_inj]; simp [hfront]⟩
    · exact EndsIn.of_opens (.inr ⟨dir, rfl⟩) hname

theorem exists_opens_of_intercalate (names : List String) : ∃ front, Opens front ∧
    "/".intercalate (names ++ [name]) = front ++ name := by
  by_cases h : names = []
  · exact ⟨"", .inl rfl, by simp [h]⟩
  · refine ⟨"/".intercalate names ++ "/", .inr ⟨_, rfl⟩, ?_⟩
    rw [String.intercalate_append_of_ne_nil h (by simp), String.intercalate_singleton]

/-- Tidying a path up keeps its last component. -/
theorem EndsIn.clean (h : EndsIn path name) (hname : IsEntry name) :
    EndsIn (Path.clean path) name := by
  obtain ⟨front, hfront⟩ := h
  obtain ⟨before, hopens, hbefore⟩ := exists_opens_of_intercalate
    (front.filter fun c => c != "" && c != ".")
  have hparts : parts path = (front.filter fun c => c != "" && c != ".") ++ [name] := by
    rw [parts, hfront, List.filter_append]
    simp [hname.notVoid]
  have hne : (root path ++ (before ++ name)).isEmpty = false := by
    simp [String.isEmpty_eq_false_iff, hname.notVoid]
  rw [Path.clean, ofParts, hparts, hbefore]
  simp only [hne, Bool.false_eq_true, if_false]
  rw [← String.append_assoc]
  exact EndsIn.of_opens (opens_append (opens_root path) hopens) hname.noSlash

theorem endsIn_clean_join (dir : String) (hname : IsEntry name) :
    EndsIn (Path.clean (join dir name)) name :=
  (endsIn_join dir hname.noSlash).clean hname

theorem notMem_of_mem_components {component : String} (h : component ∈ components path) :
    '/' ∉ component.toList := by
  obtain ⟨piece, hpiece, rfl⟩ := List.mem_map.mp h
  rw [String.toList_ofList]
  exact notMem_of_mem_pieces hpiece

theorem notMem_stem (path : String) : '/' ∉ (stem path).toList := by
  unfold stem
  split
  · simp
  · next name hlast =>
    have hname : '/' ∉ name.toList :=
      notMem_of_mem_components (List.mem_filter.mp (List.mem_of_getLast? hlast)).1
    simp only
    split
    · exact hname
    · rw [String.toList_ofList]
      exact fun h => hname (List.mem_of_mem_take h)

end Path

/-! ### Following a path -/

namespace Store

variable {s s' s'' : Store} {place target : List String} {path name : String} {bytes : Bytes}
  {node : Node}

/-- Where a component leads from a directory. -/
def enter (place : List String) (component : String) : Option (List String) :=
  if component == "" || component == "." then some place
  else if component == ".." then some place.dropLast
  else if componentLimit < component.utf8ByteSize then none
  else some (place ++ [component])

theorem follow_cons_eq_ok_iff {component : String} {rest : List String} :
    s.follow place (component :: rest) = .ok target ↔
      s.node? place = some .dir ∧
        ∃ next, enter place component = some next ∧ s.follow next rest = .ok target := by
  rw [follow]
  unfold enter
  cases s.node? place with
  | none => simp
  | some node =>
    cases node with
    | file bytes => simp
    | dir =>
      simp only [true_and]
      split
      · simp
      · split
        · simp
        · split <;> simp

theorem enter_of_isEntry {target : List String} (hname : Path.IsEntry name)
    (h : enter place name = some target) : target = place ++ [name] := by
  unfold enter at h
  rw [if_neg (by simp [hname.notVoid]), if_neg (by simp [hname.notUp])] at h
  split at h
  · cases h
  · exact (Option.some.inj h).symm

/-- What is followed to the name of an entry has that name. -/
theorem getLast?_of_follow (hname : Path.IsEntry name) : ∀ {front place : List String},
    s.follow place (front ++ [name]) = .ok target → target.getLast? = some name
  | [], place, h => by
    obtain ⟨-, next, hnext, hend⟩ := follow_cons_eq_ok_iff.mp h
    rw [follow] at hend
    cases hend
    rw [enter_of_isEntry hname hnext, List.getLast?_concat]
  | component :: front, place, h => by
    obtain ⟨-, next, -, hrest⟩ := follow_cons_eq_ok_iff.mp h
    exact getLast?_of_follow hname hrest

theorem locate_eq_ok_iff : s.locate path = .ok place ↔ pathFault? path = none ∧
    s.follow (if (Path.root path).isEmpty then s.cwd else []) (Path.components path) =
      .ok place := by
  unfold locate
  cases pathFault? path with
  | some fault => simp
  | none => cases (Path.root path).isEmpty <;> simp

/-- A path that ends in the name of an entry leads to a place of that name. -/
theorem getLast?_of_locate (hname : Path.IsEntry name) (hends : Path.EndsIn path name)
    (h : s.locate path = .ok place) : place.getLast? = some name := by
  obtain ⟨-, hfollow⟩ := locate_eq_ok_iff.mp h
  obtain ⟨front, hfront⟩ := hends
  rw [hfront] at hfollow
  exact getLast?_of_follow hname hfollow

/-! ### Changes of a store -/

@[simp] theorem node?_nil (s : Store) : s.node? [] = some .dir := rfl

theorem node?_put_self (s : Store) (node : Node) (h : place ≠ []) :
    (s.put place node).node? place = some node := by
  simp [node?, put, h]

theorem lookup_filter_of_ne (h : target ≠ place) : ∀ nodes : List (List String × Node),
    (nodes.filter (·.1 != place)).lookup target = nodes.lookup target
  | [] => rfl
  | (key, node) :: nodes => by
    have ih := lookup_filter_of_ne h nodes
    by_cases hkey : key = place
    · rw [List.filter_cons_of_neg (by simp [hkey]), ih, List.lookup_cons, hkey,
        beq_false_of_ne h]
    · rw [List.filter_cons_of_pos (by simp [hkey]), List.lookup_cons, List.lookup_cons, ih]

theorem node?_put_of_ne (s : Store) (node : Node) (h : target ≠ place) :
    (s.put place node).node? target = s.node? target := by
  have hlookup : (s.put place node).nodes.lookup target = s.nodes.lookup target := by
    rw [put, List.lookup_cons, beq_false_of_ne h]
    exact lookup_filter_of_ne h s.nodes
  rw [node?, node?, hlookup]

/-- Directories stay where they are. -/
structure Grows (s s' : Store) : Prop where
  cwd : s'.cwd = s.cwd
  dir : ∀ place, s.node? place = some .dir → s'.node? place = some .dir

/-- Nothing but directories is added. -/
structure Adds (s s' : Store) : Prop extends Grows s s' where
  file_iff : ∀ place bytes, s'.node? place = some (.file bytes) ↔ s.node? place = some (.file bytes)

theorem Grows.trans (h : s.Grows s') (h' : s'.Grows s'') : s.Grows s'' :=
  ⟨h'.cwd.trans h.cwd, fun place hplace => h'.dir place (h.dir place hplace)⟩

theorem Adds.refl (s : Store) : s.Adds s := ⟨⟨rfl, fun _ h => h⟩, fun _ _ => Iff.rfl⟩

theorem Adds.trans (h : s.Adds s') (h' : s'.Adds s'') : s.Adds s'' :=
  ⟨h.toGrows.trans h'.toGrows, fun place bytes => (h'.file_iff place bytes).trans
    (h.file_iff place bytes)⟩

theorem Grows.follow (h : s.Grows s') : ∀ {components place : List String},
    s.follow place components = .ok target → s'.follow place components = .ok target
  | [], _, hfollow => hfollow
  | component :: rest, place, hfollow => by
    obtain ⟨hdir, next, hnext, hrest⟩ := follow_cons_eq_ok_iff.mp hfollow
    exact follow_cons_eq_ok_iff.mpr ⟨h.dir place hdir, next, hnext, h.follow hrest⟩

/-- A path goes on to lead where it leads. -/
theorem Grows.locate (h : s.Grows s') (hlocate : s.locate path = .ok place) :
    s'.locate path = .ok place := by
  rw [locate_eq_ok_iff] at hlocate ⊢
  rw [h.cwd]
  exact ⟨hlocate.1, h.follow hlocate.2⟩

theorem ne_nil_of_ne_dir (h : s.node? place ≠ some .dir) : place ≠ [] := by
  rintro rfl
  exact h s.node?_nil

theorem grows_put (h : s.node? place ≠ some .dir) (node : Node) : s.Grows (s.put place node) := by
  refine ⟨rfl, fun other hother => ?_⟩
  rw [node?_put_of_ne s node (by rintro rfl; exact h hother), hother]

/-! ### Making directories -/

theorem adds_makeDir (h : s.makeDir path = .ok s') : s.Adds s' := by
  unfold makeDir at h
  split at h
  · cases h
  · split at h
    · cases h
    · next place hlocate =>
      split at h
      · cases h
      · next hnone =>
        cases h
        have hnone : s.node? place = none := by simpa using hnone
        refine ⟨grows_put (by rw [hnone]; simp) .dir, fun other bytes => ?_⟩
        by_cases heq : other = place
        · rw [heq, node?_put_self s .dir (ne_nil_of_ne_dir (by rw [hnone]; simp)), hnone]
          simp
        · rw [node?_put_of_ne s .dir heq]

/-- Work that adds nothing but directories, finished or not. -/
def OnlyAdds {α : Type} (x : EStateM FileError Store α) : Prop := Keeps Adds x

theorem OnlyAdds.bind {α β : Type} {x : EStateM FileError Store α}
    {f : α → EStateM FileError Store β} (hx : OnlyAdds x) (hf : ∀ a, OnlyAdds (f a)) :
    OnlyAdds (x >>= f) :=
  Keeps.bind Adds.trans hx hf

theorem OnlyAdds.ensureDir (path : String) : OnlyAdds (ensureDir path) := by
  intro s
  unfold Store.ensureDir
  cases h : s.makeDir path with
  | ok s' => exact adds_makeDir h
  | error e => cases s.isDir path <;> exact Adds.refl s

theorem OnlyAdds.unlessExists {x : EStateM FileError Store Unit} (hx : OnlyAdds x) :
    OnlyAdds (unlessExists x) := by
  intro s
  have hleaves : leaves (Store.unlessExists x s) = leaves (x s) := by
    unfold Store.unlessExists
    cases x s with
    | ok a t => rfl
    | error e t =>
      simp only
      split <;> rfl
  rw [hleaves]
  exact hx s

theorem OnlyAdds.makeDirsWithin : ∀ (bound : Nat) (path : String),
    OnlyAdds (makeDirsWithin bound path)
  | 0, path => .ensureDir path
  | bound + 1, path => by
    have ih := OnlyAdds.makeDirsWithin bound (splitLast path).1
    have hstay : OnlyAdds (pure PUnit.unit) := fun s => Adds.refl s
    unfold Store.makeDirsWithin
    simp only
    refine OnlyAdds.bind (fun s => Adds.refl s) fun s => ?_
    by_cases hhead : ((splitLast path).1.isEmpty || (splitLast path).2.isEmpty ||
        s.exists? (splitLast path).1) = true
    · rw [if_pos hhead]
      exact .ensureDir path
    · rw [if_neg hhead]
      refine ih.unlessExists.bind fun _ => ?_
      by_cases htail : ((splitLast path).2 != ".") = true
      · rw [if_pos htail]
        exact .ensureDir path
      · rw [if_neg htail]
        exact hstay

/-! ### Writing files -/

theorem read_eq_ok_iff : s.read path = .ok bytes ↔
    ∃ place, s.locate path = .ok place ∧ s.node? place = some (.file bytes) := by
  unfold read
  cases s.locate path with
  | error fault => simp
  | ok place =>
    simp only [Except.ok.injEq, exists_eq_left']
    cases s.node? place with
    | none => simp
    | some node => cases node <;> simp

/-- Directories are added, and then a file is written. -/
def Writes (s : Store) (path : String) (bytes : Bytes) (s' : Store) : Prop :=
  ∃ t place, s.Adds t ∧ t.locate path = .ok place ∧ t.node? place ≠ some .dir ∧
    s' = t.put place (.file bytes)

theorem Adds.writes {t : Store} (hadds : s.Adds t) (h : t.write path bytes = .ok s') :
    s.Writes path bytes s' := by
  unfold write at h
  split at h
  · cases h
  · next place hlocate =>
    split at h
    · cases h
    · next hdir =>
      cases h
      exact ⟨t, place, hadds, hlocate, hdir, rfl⟩

theorem Writes.grows (h : s.Writes path bytes s') : s.Grows s' := by
  obtain ⟨t, place, hadds, -, hdir, rfl⟩ := h
  exact hadds.toGrows.trans (grows_put hdir _)

theorem Writes.read (h : s.Writes path bytes s') : s'.read path = .ok bytes := by
  obtain ⟨t, place, -, hlocate, hdir, rfl⟩ := h
  exact read_eq_ok_iff.mpr ⟨place, (grows_put hdir _).locate hlocate,
    node?_put_self t _ (ne_nil_of_ne_dir hdir)⟩

/-- A write changes only the place that its path leads to. -/
theorem Writes.file_iff {bytes' : Bytes} (h : s.Writes path bytes s')
    (hplace : s'.locate path ≠ .ok place) :
    s'.node? place = some (.file bytes') ↔ s.node? place = some (.file bytes') := by
  obtain ⟨t, written, hadds, hlocate, hdir, rfl⟩ := h
  have hne : place ≠ written := by
    rintro rfl
    exact hplace ((grows_put hdir _).locate hlocate)
  rw [node?_put_of_ne t _ hne, hadds.file_iff]

/-- A file stays as it is while another place is written. -/
theorem Writes.read_of_apart {path' : String} {bytes' : Bytes} (h : s.Writes path bytes s')
    (hapart : ∀ place, s'.locate path' = .ok place → s'.locate path ≠ .ok place)
    (hread : s.read path' = .ok bytes') : s'.read path' = .ok bytes' := by
  obtain ⟨place, hlocate, hnode⟩ := read_eq_ok_iff.mp hread
  have hlocate' := h.grows.locate hlocate
  exact read_eq_ok_iff.mpr ⟨place, hlocate', (h.file_iff (hapart place hlocate')).mpr hnode⟩

end Store
end WireSchema
