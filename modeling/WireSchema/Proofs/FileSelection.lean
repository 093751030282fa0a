/-
# Which file of a set a path means

A path means the first file of a set whose name ends in the base name of the
path, as a component of its own (`endsInBase_iff`). A file that has the very
name, or the very base name, is one of those (`endsInBase_self`), but not
always the first of them: a set lists what a file imports before the file, and
an import in another directory can have the same base name
(`selectFile_passes_over`). So the file of that name is chosen exactly if no
file before it ends in the base name (`selectFile_exact_iff`).

Key definitions: `EndsInBase`.
Key theorems: `endsInBase_self`, `selectFile_of_exists`,
`selectFile_exact_iff`, `selectFile_passes_over`.
-/

import Mathlib.Tactic.ByContra
import WireSchema.Descriptor.Basic

namespace WireSchema

variable {α : Type} {nameOf : α → String} {path : String}

/-- The name is the base name, or the base name below a directory. -/
def EndsInBase (base name : String) : Prop := name = base ∨ ∃ dir, name = dir ++ "/" ++ base

theorem endsInBase_iff {base name : String} :
    namesBase base name = true ↔ EndsInBase base name := by
  have hsuffix : ('/' :: base.toList) <:+ name.toList ↔ ∃ dir, name = dir ++ "/" ++ base := by
    constructor
    · rintro ⟨dir, hdir⟩
      refine ⟨String.ofList dir, String.toList_inj.mp ?_⟩
      simpa using hdir.symm
    · rintro ⟨dir, rfl⟩
      exact ⟨dir.toList, by simp⟩
  unfold namesBase EndsInBase
  simp only [Bool.or_eq_true, beq_iff_eq, List.isSuffixOf_iff_suffix, hsuffix]

instance (base name : String) : Decidable (EndsInBase base name) :=
  decidable_of_iff _ endsInBase_iff

/-- A path ends in its base name. -/
theorem endsInBase_self (path : String) : EndsInBase (Path.base path) path := by
  have hsplit : path.toList = (path.toList.reverse.dropWhile (· != '/')).reverse ++
      (path.toList.reverse.takeWhile (· != '/')).reverse := by
    rw [← List.reverse_append, List.takeWhile_append_dropWhile, List.reverse_reverse]
  have hhead := List.head?_dropWhile_not (· != '/') path.toList.reverse
  cases hdrop : path.toList.reverse.dropWhile (· != '/') with
  | nil =>
    refine .inl (String.toList_inj.mp ?_)
    rw [hdrop] at hsplit
    simpa [Path.base] using hsplit
  | cons c rest =>
    -- The first character that stops the search from the end is a slash.
    obtain rfl : c = '/' := by simpa [hdrop] using hhead
    refine .inr ⟨String.ofList rest.reverse, String.toList_inj.mp ?_⟩
    rw [hdrop] at hsplit
    simpa [Path.base] using hsplit

/-- **The first file whose name ends in the base name is chosen**, if there is
one. -/
theorem selectFile_of_exists {files : List α}
    (h : ∃ f ∈ files, EndsInBase (Path.base path) (nameOf f)) :
    ∃ front chosen back, files = front ++ chosen :: back ∧
      selectFile nameOf files path = .ok chosen ∧
      EndsInBase (Path.base path) (nameOf chosen) ∧
      ∀ f ∈ front, ¬ EndsInBase (Path.base path) (nameOf f) := by
  cases hfind : files.find? (namesBase (Path.base path) ∘ nameOf) with
  | none =>
    obtain ⟨f, hf, hends⟩ := h
    exact absurd (endsInBase_iff.mpr hends) (List.find?_eq_none.mp hfind f hf)
  | some chosen =>
    obtain ⟨hchosen, front, back, hfiles, hfront⟩ := List.find?_eq_some_iff_append.mp hfind
    refine ⟨front, chosen, back, hfiles, by simp only [selectFile, hfind],
      endsInBase_iff.mp hchosen, fun f hf hends => ?_⟩
    have hno := hfront f hf
    simp [endsInBase_iff.mpr hends] at hno

/-- **When the exact file is chosen.** If a file of the set has the path, or the
base name of the path, for its name, then a file is chosen whose name ends in
the base name. It has that very name if and only if every file with another
name that ends in the base name comes after a file of that very name. -/
theorem selectFile_exact_iff (nameOf : α → String) (files : List α) (path wanted : String)
    (hwanted : wanted = path ∨ wanted = Path.base path)
    (hmem : ∃ file ∈ files, nameOf file = wanted) :
    ∃ chosen, selectFile nameOf files path = .ok chosen ∧
      EndsInBase (Path.base path) (nameOf chosen) ∧
      (nameOf chosen = wanted ↔
        ∀ front file back, files = front ++ file :: back → nameOf file ≠ wanted →
          EndsInBase (Path.base path) (nameOf file) → ∃ f ∈ front, nameOf f = wanted) := by
  have hends : EndsInBase (Path.base path) wanted := by
    rcases hwanted with rfl | rfl
    · exact endsInBase_self wanted
    · exact .inl rfl
  obtain ⟨exact, hexact, hname⟩ := hmem
  obtain ⟨front, chosen, back, hfiles, hselect, hchosen, hfront⟩ :=
    selectFile_of_exists ⟨exact, hexact, hname ▸ hends⟩
  refine ⟨chosen, hselect, hchosen, fun heq front' file back' hfiles' hne hfile => ?_, fun h => ?_⟩
  · -- Nothing before the chosen file ends in the base name, so `file` comes after it.
    rw [hfiles, List.append_eq_append_iff] at hfiles'
    rcases hfiles' with ⟨between, rfl, hrest⟩ | ⟨between, rfl, hrest⟩
    · rcases List.cons_eq_append_iff.mp hrest with ⟨rfl, hcons⟩ | ⟨more, rfl, -⟩
      · cases hcons
        exact absurd heq hne
      · exact ⟨chosen, by simp, heq⟩
    · rcases List.cons_eq_append_iff.mp hrest with ⟨rfl, hcons⟩ | ⟨more, rfl, -⟩
      · cases hcons
        exact absurd heq hne
      · exact absurd hfile (hfront file (by simp))
  · by_contra hne
    obtain ⟨f, hf, hnamed⟩ := h front chosen back hfiles hne hchosen
    exact hfront f hf (hnamed ▸ hends)

/-- Two files of one base name, and before them one that they import. -/
def listedFiles : List String := ["common/levels.proto", "orders.proto", "old/orders.proto"]

theorem selectFile_exact_iff_orders : "orders.proto" ∈ listedFiles ∧
    ∃ chosen, selectFile id listedFiles "protos/orders.proto" = .ok chosen ∧
      chosen = "orders.proto" := by
  have hmem : "orders.proto" ∈ listedFiles := by decide
  obtain ⟨chosen, hselect, -, hiff⟩ := selectFile_exact_iff id listedFiles "protos/orders.proto"
    "orders.proto" (.inr (by decide +kernel)) ⟨_, hmem, rfl⟩
  refine ⟨hmem, chosen, hselect, hiff.mpr fun front file back hfiles hne hends => ?_⟩
  rcases front with - | ⟨a, - | ⟨b, front⟩⟩
  · cases hfiles
    exact absurd hends (by decide +kernel)
  · cases hfiles
    exact absurd rfl hne
  · obtain ⟨-, rfl, -⟩ : "common/levels.proto" = a ∧ "orders.proto" = b ∧ _ := by
      simpa [listedFiles] using hfiles
    exact ⟨"orders.proto", by simp, rfl⟩

/-- A file and before it one that it imports, of the same base name. -/
def importFirst : List String := ["common/levels.proto", "levels.proto"]

/-- The file that has the very name, or the very base name, is passed over for
an import that is listed before it. -/
theorem selectFile_passes_over :
    ("levels.proto" ∈ importFirst ∧
      selectFile id importFirst "levels.proto" = .ok "common/levels.proto") ∧
    "protos/levels.proto" ∉ importFirst ∧ Path.base "protos/levels.proto" ∈ importFirst ∧
      selectFile id importFirst "protos/levels.proto" = .ok "common/levels.proto" :=
  ⟨⟨by decide, rfl⟩, by decide, by decide +kernel, rfl⟩

end WireSchema
