/-
# What a registry gives

A request gives the candidate if it is free, and else a numbered variant. The
numbers make all variants different (`variant_injective`), so there are more
of them than taken names and the bounded search ends at a free one
(`freeVariant_notMem`), the one with the least number (`picks_choose`). No
keyword has an underscore, so neither a candidate that got one nor a variant is
a keyword (`isKeyword_choose`).

What a sequence of requests comes to is `Registry.Gives`: names that differ
from each other and from those taken before, none of them a keyword.

Only an empty candidate is refused, and no spelling of a name is empty
(`toSnake_ne_empty`, `toUpperSnake_ne_empty`).

Key definitions: `Registry.Picks`, `Registry.Gives`.
Key theorems: `Registry.freeVariant_cases`, `Registry.picks_choose`,
`Registry.Gives.of_request`, `Registry.Gives.trans`, `toSnake_ne_empty`.
-/

import Mathlib.Data.List.Nodup
import Mathlib.Data.List.Perm.Subperm
import WireSchema.Names.Registry
import WireSchema.Proofs.Snake

namespace WireSchema

/-! ### Keywords -/

theorem isKeyword_of_underscore {word : String} (h : '_' ∈ word.toList) :
    isKeyword word = false := by
  have hno : ∀ k ∈ keywords, '_' ∉ k.toList := by decide
  by_contra hk
  have hmem : word ∈ keywords := by simpa [isKeyword] using hk
  exact hno word hmem h

theorem isKeyword_avoidKeyword (word : String) : isKeyword (avoidKeyword word) = false := by
  unfold avoidKeyword
  by_cases h : isKeyword word = true
  · rw [if_pos h]
    exact isKeyword_of_underscore (by simp)
  · rw [if_neg h]
    simpa using h

theorem avoidKeyword_ne_empty {word : String} (h : word ≠ "") : avoidKeyword word ≠ "" := by
  unfold avoidKeyword
  split
  · simp
  · exact h

namespace Registry

variable {r r' r'' : Registry} {base candidate name : String} {names names' : List String}

/-! ### The search for a free variant -/

theorem variant_injective (base : String) : Function.Injective (variant base) := by
  intro i j h
  have hdigits : Nat.toDigits 10 i = Nat.toDigits 10 j := by
    simpa [variant, Nat.repr_eq_ofList_toDigits, String.ofList_inj] using h
  calc i = Nat.ofDigitChars 10 (Nat.toDigits 10 i) 0 :=
        (Nat.ofDigitChars_toDigits (by decide) (by decide)).symm
    _ = Nat.ofDigitChars 10 (Nat.toDigits 10 j) 0 := by rw [hdigits]
    _ = j := Nat.ofDigitChars_toDigits (by decide) (by decide)

/-- The search stops at the first free variant, or after `bound` taken ones. -/
theorem freeVariant_cases (r : Registry) (base : String) : ∀ bound k : Nat,
    ∃ j, k ≤ j ∧ j ≤ k + bound ∧ r.freeVariant base bound k = variant base j ∧
      (∀ i, k ≤ i → i < j → variant base i ∈ r.used) ∧
      (j < k + bound → variant base j ∉ r.used)
  | 0, k => ⟨k, Nat.le_refl k, Nat.le_refl k, rfl, by omega, by omega⟩
  | bound + 1, k => by
    unfold freeVariant
    by_cases hk : variant base k ∈ r.used
    · obtain ⟨j, hle, hle', heq, htaken, hfree⟩ := freeVariant_cases r base bound (k + 1)
      rw [if_pos (by simpa [contains] using hk)]
      refine ⟨j, by omega, by omega, heq, fun i hi hij => ?_, fun hj => hfree (by omega)⟩
      rcases Nat.eq_or_lt_of_le hi with rfl | hi
      · exact hk
      · exact htaken i hi hij
    · rw [if_neg (by simpa [contains] using hk)]
      exact ⟨k, Nat.le_refl k, by omega, rfl, by omega, fun _ => hk⟩

/-- One variant more than there are taken names cannot all be taken. -/
theorem exists_variant_notMem (r : Registry) (base : String) (k : Nat) :
    ∃ i, k ≤ i ∧ i ≤ k + r.used.length ∧ variant base i ∉ r.used := by
  by_contra hall
  have hsub : (List.range' k (r.used.length + 1)).map (variant base) ⊆ r.used := by
    intro name hname
    obtain ⟨i, hi, rfl⟩ := List.mem_map.mp hname
    have hbounds := List.mem_range'_1.mp hi
    by_contra hfree
    exact hall ⟨i, by omega, by omega, hfree⟩
  have hnodup : ((List.range' k (r.used.length + 1)).map (variant base)).Nodup :=
    (List.nodup_range' 1).map (variant_injective base)
  have hle := (hnodup.subperm hsub).length_le
  simp only [List.length_map, List.length_range'] at hle
  omega

theorem freeVariant_notMem (r : Registry) (base : String) (k : Nat) :
    r.freeVariant base r.used.length k ∉ r.used := by
  obtain ⟨j, hle, hle', heq, htaken, hfree⟩ := freeVariant_cases r base r.used.length k
  obtain ⟨i, hi, hi', hnot⟩ := exists_variant_notMem r base k
  rw [heq]
  by_cases hj : j < k + r.used.length
  · exact hfree hj
  · -- The search went all the way, so the free variant is the one it ended at.
    have hij : i = j := by
      by_contra hne
      exact hnot (htaken i hi (by omega))
    exact hij ▸ hnot

/-- What a search for `base` comes to: `base` if it is free, and else the variant
with the least number from 2 on that is free. No more variants are tried than
there are taken names and one. -/
def Picks (r : Registry) (base name : String) : Prop :=
  (base ∉ r.used ∧ name = base) ∨
  (base ∈ r.used ∧ ∃ k, 2 ≤ k ∧ k ≤ 2 + r.used.length ∧ name = variant base k ∧
    name ∉ r.used ∧ ∀ i, 2 ≤ i → i < k → variant base i ∈ r.used)

theorem picks_choose (r : Registry) (base : String) : r.Picks base (r.choose base) := by
  unfold choose
  by_cases h : base ∈ r.used
  · rw [if_pos (by simpa [contains] using h)]
    obtain ⟨k, hle, hle', heq, htaken, -⟩ := freeVariant_cases r base r.used.length 2
    exact .inr ⟨h, k, hle, hle', heq, r.freeVariant_notMem base 2, htaken⟩
  · rw [if_neg (by simpa [contains] using h)]
    exact .inl ⟨h, rfl⟩

theorem choose_notMem (r : Registry) (base : String) : r.choose base ∉ r.used := by
  rcases r.picks_choose base with ⟨hfree, heq⟩ | ⟨-, k, -, -, -, hfree, -⟩
  · rw [heq]
    exact hfree
  · exact hfree

theorem choose_cases (r : Registry) (base : String) :
    r.choose base = base ∨ ∃ k, r.choose base = variant base k := by
  rcases r.picks_choose base with ⟨-, heq⟩ | ⟨-, k, -, -, heq, -, -⟩
  · exact .inl heq
  · exact .inr ⟨k, heq⟩

theorem isKeyword_choose (r : Registry) (h : isKeyword base = false) :
    isKeyword (r.choose base) = false := by
  rcases r.choose_cases base with heq | ⟨k, heq⟩
  · rw [heq]
    exact h
  · rw [heq]
    exact isKeyword_of_underscore (by simp [variant])

theorem choose_ne_empty (r : Registry) (h : base ≠ "") : r.choose base ≠ "" := by
  rcases r.choose_cases base with heq | ⟨k, heq⟩
  · rw [heq]
    exact h
  · rw [heq]
    simp [variant]

/-! ### Sequences of requests -/

/-- From `r`, the names were given one after the other, and `r'` is what came
of it. -/
structure Gives (r : Registry) (names : List String) (r' : Registry) : Prop where
  used_eq : r'.used = names.reverse ++ r.used
  nodup : names.Nodup
  fresh : ∀ name ∈ names, name ∉ r.used
  noKeyword : ∀ name ∈ names, isKeyword name = false

theorem Gives.nil (r : Registry) : r.Gives [] r := ⟨rfl, by simp, by simp, by simp⟩

theorem Gives.trans (h : r.Gives names r') (h' : r'.Gives names' r'') :
    r.Gives (names ++ names') r'' where
  used_eq := by rw [h'.used_eq, h.used_eq, List.reverse_append, List.append_assoc]
  nodup := by
    -- What was given first is taken when the second part starts.
    refine h.nodup.append h'.nodup fun name hname hname' => ?_
    exact h'.fresh name hname' (by simp [h.used_eq, hname])
  fresh := by
    intro name hname
    rcases List.mem_append.mp hname with hname | hname
    · exact h.fresh name hname
    · intro hused
      exact h'.fresh name hname (by simp [h.used_eq, hused])
  noKeyword := by
    intro name hname
    rcases List.mem_append.mp hname with hname | hname
    · exact h.noKeyword name hname
    · exact h'.noKeyword name hname

theorem Gives.mem_used (h : r.Gives names r') (hname : name ∈ names) : name ∈ r'.used := by
  simp [h.used_eq, hname]

theorem Gives.mem_used_of_mem (h : r.Gives names r') (hname : name ∈ r.used) :
    name ∈ r'.used := by
  simp [h.used_eq, hname]

/-- Only an empty candidate is refused. -/
theorem request_of_ne (r : Registry) (h : candidate ≠ "") :
    r.request candidate = .ok (r.choose (avoidKeyword candidate),
      ⟨r.choose (avoidKeyword candidate) :: r.used⟩) := by
  rw [request, if_neg (by simpa using h)]

/-- **A request gives a name that is free and no keyword.** -/
theorem Gives.of_request (h : r.request candidate = .ok (name, r')) :
    candidate ≠ "" ∧ name ≠ "" ∧ r.Gives [name] r' := by
  have hne : candidate ≠ "" := by
    rintro rfl
    cases h
  rw [request_of_ne r hne] at h
  cases h
  refine ⟨hne, r.choose_ne_empty (avoidKeyword_ne_empty hne), rfl, by simp, ?_, ?_⟩
  · simpa using r.choose_notMem (avoidKeyword candidate)
  · simpa using r.isKeyword_choose (isKeyword_avoidKeyword candidate)

end Registry

/-! ### Spellings -/

/-- A table that lists no empty mapping never makes a character vanish. -/
theorem CaseTable.map_ne_nil {t : CaseTable} (h : ∀ p ∈ t.special, p.2 ≠ []) (c : Char) :
    t.map c ≠ [] := by
  unfold CaseTable.map
  split
  next n targets hfind =>
    have hne := h _ (List.mem_of_find?_eq_some hfind)
    simpa using hne
  next => split <;> simp

theorem lowerChar_ne_nil (c : Char) : lowerChar c ≠ [] := by
  unfold lowerChar
  split
  · simp
  · exact CaseTable.map_ne_nil (by decide) c

theorem upperChar_ne_nil (c : Char) : upperChar c ≠ [] := by
  unfold upperChar
  split
  · simp
  · exact CaseTable.map_ne_nil (by decide) c

theorem lowerChars_ne_nil {text : List Char} (h : text ≠ []) : lowerChars text ≠ [] := by
  obtain ⟨c, rest, rfl⟩ := List.exists_cons_of_ne_nil h
  unfold lowerChars lowerFrom
  simp only
  by_cases hc : c = 'Σ'
  · simp [hc]
  · simp [hc, lowerChar_ne_nil]

theorem upperChars_ne_nil {text : List Char} (h : text ≠ []) : upperChars text ≠ [] := by
  obtain ⟨c, rest, rfl⟩ := List.exists_cons_of_ne_nil h
  simp [upperChars, upperChar_ne_nil]

theorem snakeChars_ne_nil {text : List Char} (h : text ≠ []) : snakeChars text ≠ [] := by
  have hcut : cutWhere anyCut text ≠ [] := by
    rwa [ne_eq, ← List.head?_eq_none_iff, head?_cutWhere, List.head?_eq_none_iff]
  rw [snakeChars_eq]
  exact lowerChars_ne_nil (by simpa using hcut)

theorem toSnake_ne_empty {name : String} (h : name ≠ "") : toSnake name ≠ "" := by
  unfold toSnake
  have hsnake : snakeChars name.toList ≠ [] := snakeChars_ne_nil (by simpa using h)
  simpa using hsnake

theorem toUpperSnake_ne_empty {name : String} (h : name ≠ "") : toUpperSnake name ≠ "" := by
  unfold toUpperSnake
  have hsnake : snakeChars name.toList ≠ [] := snakeChars_ne_nil (by simpa using h)
  simpa using upperChars_ne_nil hsnake

end WireSchema
