/-
# The members of an enum class

A member is named like the value it stands for, and a keyword gets an
underscore. No registry looks after these names, so the new name of a keyword
can be the name of another value (`enumMembers_collide`). That is the only way
in which two members come to have one name (`avoidKeyword_eq_iff`): the members
of an enum differ if and only if no value is named like a keyword of the enum
with an underscore (`enumMembers_nodup_iff`).

Key theorems: `avoidKeyword_eq_iff`, `enumMembers_nodup_iff`,
`enumMembers_collide`.
-/

import WireSchema.Plan.Module
import WireSchema.Proofs.Registry

namespace WireSchema

theorem isKeyword_underscore (word : String) : isKeyword (word ++ "_") = false :=
  isKeyword_of_underscore (by simp)

/-- Two words become one name if they are one word, or if one of them is a
keyword and the other one is what it is renamed to. -/
theorem avoidKeyword_eq_iff {word word' : String} :
    avoidKeyword word = avoidKeyword word' ↔
      word = word' ∨ (isKeyword word = true ∧ word' = word ++ "_") ∨
        (isKeyword word' = true ∧ word = word' ++ "_") := by
  unfold avoidKeyword
  constructor
  · intro h
    by_cases hw : isKeyword word = true
    · by_cases hw' : isKeyword word' = true
      · rw [if_pos hw, if_pos hw'] at h
        exact .inl (by simpa using h)
      · rw [if_pos hw, if_neg hw'] at h
        exact .inr (.inl ⟨hw, h.symm⟩)
    · by_cases hw' : isKeyword word' = true
      · rw [if_neg hw, if_pos hw'] at h
        exact .inr (.inr ⟨hw', h⟩)
      · rw [if_neg hw, if_neg hw'] at h
        exact .inl h
  · rintro (rfl | ⟨hw, rfl⟩ | ⟨hw', rfl⟩)
    · rfl
    · simp [hw, isKeyword_underscore]
    · simp [hw', isKeyword_underscore]

/-- Distinct words become distinct names unless a keyword meets the word that it
is renamed to. -/
theorem nodup_map_avoidKeyword_iff {words : List String} (h : words.Nodup) :
    (words.map avoidKeyword).Nodup ↔
      ∀ word ∈ words, isKeyword word = true → word ++ "_" ∉ words := by
  rw [List.nodup_map_iff_inj_on h]
  constructor
  · intro hinj word hword hkey hmem
    have heq := hinj word hword (word ++ "_") hmem (avoidKeyword_eq_iff.mpr (.inr (.inl ⟨hkey, rfl⟩)))
    rw [heq, isKeyword_underscore] at hkey
    cases hkey
  · intro hno word hword word' hword' heq
    rcases avoidKeyword_eq_iff.mp heq with heq | ⟨hkey, rfl⟩ | ⟨hkey, rfl⟩
    · exact heq
    · exact absurd hword' (hno word hword hkey)
    · exact absurd hword (hno word' hword' hkey)

/-- **When the members of an enum differ.** For an enum whose values have
distinct names, the members of its class have distinct names if and only if no
value is named like a keyword among the values with an underscore. In any case
no member is a keyword, and the members stand for the values in order: each has
the number of its value, and its name unless that is a keyword. -/
theorem enumMembers_nodup_iff (className : String) (e : EnumDecl)
    (hnames : (e.values.map (·.1)).Nodup) :
    (((EnumPlan.ofDecl className e).members.map (·.1)).Nodup ↔
      ∀ word ∈ e.values.map (·.1), isKeyword word = true → word ++ "_" ∉ e.values.map (·.1)) ∧
    (∀ member ∈ (EnumPlan.ofDecl className e).members, isKeyword member.1 = false) ∧
    List.Forall₂ (fun value member => member.2 = value.2 ∧
        member.1 = if isKeyword value.1 then value.1 ++ "_" else value.1)
      e.values (EnumPlan.ofDecl className e).members := by
  have hmembers : (EnumPlan.ofDecl className e).members.map (·.1) =
      (e.values.map (·.1)).map avoidKeyword := by
    simp [EnumPlan.ofDecl]
  refine ⟨?_, ?_, ?_⟩
  · rw [hmembers]
    exact nodup_map_avoidKeyword_iff hnames
  · intro member hmember
    obtain ⟨value, -, rfl⟩ := List.mem_map.mp hmember
    exact isKeyword_avoidKeyword value.1
  · unfold EnumPlan.ofDecl
    rw [List.forall₂_map_right_iff, List.forall₂_same]
    intro value _
    exact ⟨rfl, rfl⟩

/-- Two keywords, a word with an underscore, and a value of the number of
another one. -/
def logicEnum : EnumDecl :=
  ⟨"Logic", ".Logic", [("None", 0), ("or", 1), ("and_", 2), ("OR", 1)]⟩

theorem enumMembers_nodup_iff_logic : (logicEnum.values.map (·.1)).Nodup ∧
    (EnumPlan.ofDecl "Logic" logicEnum).members =
      [("None_", 0), ("or_", 1), ("and_", 2), ("OR", 1)] ∧
    ((EnumPlan.ofDecl "Logic" logicEnum).members.map (·.1)).Nodup := by
  have hnames : (logicEnum.values.map (·.1)).Nodup := by decide
  refine ⟨hnames, by decide, (enumMembers_nodup_iff "Logic" logicEnum hnames).1.mpr ?_⟩
  decide

/-- A keyword and the word that it is renamed to. -/
def clashingEnum : EnumDecl := ⟨"Kind", ".Kind", [("class", 0), ("class_", 1)]⟩

/-- Both values give a member of one name. -/
theorem enumMembers_collide : (clashingEnum.values.map (·.1)).Nodup ∧
    (EnumPlan.ofDecl "Kind" clashingEnum).members = [("class_", 0), ("class_", 1)] ∧
    ¬ ((EnumPlan.ofDecl "Kind" clashingEnum).members.map (·.1)).Nodup := by
  decide

end WireSchema
