/-
# Snake case by one local rule

Snake case is made in two passes, the second over what the first one left:
runs of capitals are split before their last letter if a small one follows, and
then small letters and figures are split from the capitals behind them. Each
pass alone puts an underscore behind some characters, and whether it does so
shows in the two characters after (`splitAcronyms_eq`, `splitWords_eq`). The
underscores of the first pass stand between capitals, where the second one has
nothing to do, and hide no capital from the character before it, so both passes
together are one such rule as well (`cutWhere_wordCut`).

On ASCII texts the rest is done character by character, which gives the snake
case by positions (`localSnake`). Nothing in a snake case asks for a change, so
it is its own snake case.

Key definitions: `cutWhere`, `wordEndsAt`, `localSnake`.
Key theorems: `splitAcronyms_eq`, `splitWords_eq`, `cutWhere_wordCut`,
`snakeChars_eq_local`, `toSnake_eq_local`.
-/

import Mathlib.Data.List.Basic
import WireSchema.Names.Snake

namespace WireSchema

/-! ### Underscores behind characters -/

/-- The text with an underscore behind each character that `cut` says. It is
asked with the character and what comes after it. -/
def cutWhere (cut : Char → List Char → Bool) : List Char → List Char
  | [] => []
  | c :: rest => if cut c rest then c :: '_' :: cutWhere cut rest else c :: cutWhere cut rest

/-- Whether the first pass cuts: between two capitals before a small letter. -/
def acronymCut (c : Char) : List Char → Bool
  | [] => false
  | d :: rest => isCapital c && isCapital d && startsSmall rest

/-- Whether the second pass cuts: between a small letter or a figure and a
capital. -/
def wordCut (c : Char) : List Char → Bool
  | [] => false
  | d :: _ => (isSmall c || isFigure c) && isCapital d

/-- Whether one of the passes cuts. -/
def anyCut (c : Char) (rest : List Char) : Bool := wordCut c rest || acronymCut c rest

variable {cut : Char → List Char → Bool} {c : Char} {rest : List Char}

theorem cutWhere_of_cut (h : cut c rest = true) :
    cutWhere cut (c :: rest) = c :: '_' :: cutWhere cut rest := by
  rw [cutWhere, if_pos h]

theorem cutWhere_of_not_cut (h : cut c rest = false) :
    cutWhere cut (c :: rest) = c :: cutWhere cut rest := by
  rw [cutWhere, if_neg (by simp [h])]

theorem head?_cutWhere (cut : Char → List Char → Bool) (text : List Char) :
    (cutWhere cut text).head? = text.head? := by
  cases text with
  | nil => rfl
  | cons c rest =>
    rw [cutWhere]
    split <;> rfl

theorem mem_cutWhere {d : Char} : ∀ {text : List Char},
    d ∈ cutWhere cut text → d = '_' ∨ d ∈ text
  | [], h => .inr h
  | c :: rest, h => by
    have hrest : d ∈ cutWhere cut rest → d = '_' ∨ d ∈ c :: rest := fun h =>
      (mem_cutWhere h).imp_right (List.mem_cons_of_mem c)
    rw [cutWhere] at h
    split at h
    · rcases List.mem_cons.mp h with rfl | h
      · simp
      · rcases List.mem_cons.mp h with rfl | h
        · exact .inl rfl
        · exact hrest h
    · rcases List.mem_cons.mp h with rfl | h
      · simp
      · exact hrest h

/-! ### The first pass -/

theorem isSmall_of_isCapital (h : isCapital c = true) : isSmall c = false := by
  simp only [isCapital, isSmall, Bool.and_eq_true, Bool.and_eq_false_iff, decide_eq_true_eq,
    decide_eq_false_iff_not] at h ⊢
  exact .inl fun ha => absurd (Char.le_trans ha h.2) (by decide)

theorem acronymCut_of_right (h : ∀ d ∈ rest.head?, isCapital d = false) :
    acronymCut c rest = false := by
  cases rest with
  | nil => rfl
  | cons d rest => simp [acronymCut, h d rfl]

theorem acronymCut_of_left (h : isCapital c = false) (rest : List Char) :
    acronymCut c rest = false := by
  cases rest <;> simp [acronymCut, h]

/-- Through a run of capitals, the first pass cuts before the last one if it
cuts at all. -/
theorem cutWhere_run : ∀ {run rest : List Char}, (∀ c ∈ run, isCapital c = true) →
    (∀ d ∈ rest.head?, isCapital d = false) →
    cutWhere acronymCut (run ++ rest) =
      (if startsSmall rest then detachLast run else run) ++ cutWhere acronymCut rest
  | [], rest, _, _ => by simp [detachLast]
  | [c], rest, _, hrest => by
    simp [cutWhere, acronymCut_of_right hrest, detachLast]
  | [c, d], rest, hrun, hrest => by
    have ih := @cutWhere_run [d] rest (fun x hx => hrun x (List.mem_cons_of_mem c hx)) hrest
    have hcut : acronymCut c ([d] ++ rest) = startsSmall rest := by
      simp [acronymCut, hrun c (by simp), hrun d (by simp)]
    rw [List.cons_append, cutWhere, ih, hcut]
    split <;> rfl
  | c :: d :: e :: run, rest, hrun, hrest => by
    have ih := @cutWhere_run (d :: e :: run) rest
      (fun x hx => hrun x (List.mem_cons_of_mem c hx)) hrest
    -- Two more capitals follow, so the next small letter is too far away.
    have hcut : acronymCut c (d :: e :: run ++ rest) = false := by
      simp [acronymCut, startsSmall, isSmall_of_isCapital (hrun e (by simp))]
    have hdetach : detachLast (c :: d :: e :: run) = c :: detachLast (d :: e :: run) := rfl
    rw [List.cons_append, cutWhere_of_not_cut hcut, ih, hdetach]
    split <;> rfl

/-- **The first pass cuts between two capitals before a small letter.** -/
theorem splitAcronyms_eq (text : List Char) : splitAcronyms text = cutWhere acronymCut text := by
  fun_induction splitAcronyms text with
  | case1 => rfl
  | case2 c cs hc run rest ih =>
    have hrun : ∀ x ∈ run, isCapital x = true := by
      intro x hx
      rcases List.mem_cons.mp hx with rfl | hx
      · exact hc
      · exact List.all_eq_true.mp List.all_takeWhile x hx
    have hrest : ∀ d ∈ rest.head?, isCapital d = false := by
      intro d hd
      have hnot := List.head?_dropWhile_not isCapital cs
      rw [show (cs.dropWhile isCapital).head? = some d from hd] at hnot
      exact hnot
    have hsplit : c :: cs = run ++ rest := by
      simp [run, rest]
    rw [ih, hsplit, cutWhere_run hrun hrest]
  | case3 c cs hc ih =>
    rw [ih, cutWhere_of_not_cut (acronymCut_of_left (by simpa using hc) cs)]

/-! ### Both passes -/

/-- **The second pass cuts between a small letter or a figure and a capital.** -/
theorem splitWords_eq (text : List Char) : splitWords text = cutWhere wordCut text := by
  fun_induction splitWords text with
  | case1 => rfl
  | case2 c => rfl
  | case3 c d rest h ih =>
    rw [ih, cutWhere_of_cut (show wordCut c (d :: rest) = true from h)]
  | case4 c d rest h ih =>
    have hcut : wordCut c (d :: rest) = false := by simpa [wordCut] using h
    rw [ih, cutWhere_of_not_cut hcut]

theorem wordCut_congr {rest' : List Char} (h : rest.head? = rest'.head?) :
    wordCut c rest = wordCut c rest' := by
  cases rest <;> cases rest' <;> simp_all [wordCut]

/-- **Two passes are one rule.** The second pass neither loses a place to the
underscores of the first one nor finds another there. -/
theorem cutWhere_wordCut : ∀ text : List Char,
    cutWhere wordCut (cutWhere acronymCut text) = cutWhere anyCut text
  | [] => rfl
  | c :: rest => by
    have ih := cutWhere_wordCut rest
    by_cases hc : acronymCut c rest = true
    · have hbefore : wordCut c ('_' :: cutWhere acronymCut rest) = false := by
        simp [wordCut, show isCapital '_' = false by decide]
      have hbehind : wordCut '_' (cutWhere acronymCut rest) = false := by
        cases cutWhere acronymCut rest <;> rfl
      rw [cutWhere_of_cut hc, cutWhere_of_not_cut hbefore, cutWhere_of_not_cut hbehind, ih,
        cutWhere_of_cut (by simp [anyCut, hc])]
    · have hsame : wordCut c (cutWhere acronymCut rest) = wordCut c rest :=
        wordCut_congr (head?_cutWhere acronymCut rest)
      have hany : anyCut c rest = wordCut c rest := by simp [anyCut, hc]
      rw [cutWhere_of_not_cut (by simpa using hc), cutWhere, cutWhere, hsame, hany, ih]

/-- Snake case cuts in one pass, then maps hyphens, then letters. -/
theorem snakeChars_eq (text : List Char) :
    snakeChars text =
      lowerChars ((cutWhere anyCut text).map fun c => if c = '-' then '_' else c) := by
  rw [snakeChars, splitAcronyms_eq, splitWords_eq, cutWhere_wordCut]

/-! ### The rule by positions -/

/-- Whether a word ends at position `i` of a text and another one starts behind
it: a small letter or a figure stands there and then a capital, or two capitals
and then a small letter. -/
def wordEndsAt (text : List Char) (i : Nat) : Bool :=
  (text[i]?.any (fun c => isSmall c || isFigure c) && text[i + 1]?.any isCapital) ||
    (text[i]?.any isCapital && text[i + 1]?.any isCapital && text[i + 2]?.any isSmall)

/-- A character in snake case. -/
def snakeChar (c : Char) : Char := if c = '-' then '_' else c.toLower

/-- Each character in snake case, and an underscore behind those where a word
ends. -/
def localSnake (text : List Char) : List Char :=
  text.zipIdx.flatMap fun (c, i) =>
    if wordEndsAt text i then [snakeChar c, '_'] else [snakeChar c]

theorem wordEndsAt_zero (c : Char) (rest : List Char) :
    wordEndsAt (c :: rest) 0 = anyCut c rest := by
  cases rest with
  | nil => simp [wordEndsAt, anyCut, wordCut, acronymCut]
  | cons d rest => cases rest <;> simp [wordEndsAt, anyCut, wordCut, acronymCut, startsSmall]

theorem localSnake_cons (c : Char) (rest : List Char) :
    localSnake (c :: rest) =
      (if anyCut c rest then [snakeChar c, '_'] else [snakeChar c]) ++ localSnake rest := by
  -- Behind the first character, all positions are one less.
  have hshift : ∀ i, wordEndsAt (c :: rest) (i + 1) = wordEndsAt rest i := fun _ => rfl
  simp only [localSnake, List.zipIdx_cons, List.zipIdx_succ, List.flatMap_cons, List.flatMap_map,
    wordEndsAt_zero, hshift]

theorem map_cutWhere_anyCut : ∀ text : List Char,
    (cutWhere anyCut text).map snakeChar = localSnake text
  | [] => rfl
  | c :: rest => by
    have ih := map_cutWhere_anyCut rest
    rw [localSnake_cons, ← ih, cutWhere]
    split <;> rfl

/-! ### ASCII texts -/

theorem lowerFrom_of_ascii : ∀ {text : List Char} (afterCased : Bool),
    (∀ c ∈ text, c.toNat < 128) → lowerFrom afterCased text = text.map Char.toLower
  | [], _, _ => rfl
  | c :: rest, afterCased, h => by
    rw [List.forall_mem_cons] at h
    have hsigma : c ≠ 'Σ' := by
      rintro rfl
      exact absurd h.1 (by decide)
    rw [lowerFrom, if_neg hsigma, lowerChar, if_pos h.1, lowerFrom_of_ascii _ h.2]
    rfl

/-- **The snake case of an ASCII text follows the local rule.** -/
theorem snakeChars_eq_local {text : List Char} (h : ∀ c ∈ text, c.toNat < 128) :
    snakeChars text = localSnake text := by
  have hascii : ∀ c ∈ (cutWhere anyCut text).map (fun c => if c = '-' then '_' else c),
      c.toNat < 128 := by
    intro c hc
    obtain ⟨d, hd, rfl⟩ := List.mem_map.mp hc
    split
    · decide
    · rcases mem_cutWhere hd with rfl | hd
      · decide
      · exact h d hd
  rw [snakeChars_eq, lowerChars, lowerFrom_of_ascii false hascii, List.map_map,
    ← map_cutWhere_anyCut]
  refine List.map_congr_left fun c _ => ?_
  simp only [Function.comp_apply, snakeChar]
  split <;> rfl

/-! ### Snake case once more -/

/-- An ASCII character that is not a capital and stays as it is. -/
def InSnake (c : Char) : Prop := c.toNat < 128 ∧ isCapital c = false ∧ snakeChar c = c

instance (c : Char) : Decidable (InSnake c) := inferInstanceAs (Decidable (_ ∧ _ ∧ _))

theorem inSnake_ascii : ∀ n < 128, InSnake (snakeChar (Char.ofNat n)) := by
  decide +kernel

theorem inSnake_snakeChar (h : c.toNat < 128) : InSnake (snakeChar c) := by
  simpa using inSnake_ascii c.toNat h

theorem mem_localSnake {d : Char} {text : List Char} (h : d ∈ localSnake text) :
    d = '_' ∨ ∃ c ∈ text, d = snakeChar c := by
  rw [← map_cutWhere_anyCut] at h
  obtain ⟨c, hc, rfl⟩ := List.mem_map.mp h
  rcases mem_cutWhere hc with rfl | hc
  · exact .inl (by decide)
  · exact .inr ⟨c, hc, rfl⟩

theorem anyCut_of_right (h : ∀ d ∈ rest.head?, isCapital d = false) : anyCut c rest = false := by
  have hword : wordCut c rest = false := by
    cases rest with
    | nil => rfl
    | cons d rest => simp [wordCut, h d rfl]
  rw [anyCut, hword, acronymCut_of_right h]
  rfl

theorem localSnake_of_inSnake : ∀ {text : List Char}, (∀ c ∈ text, InSnake c) →
    localSnake text = text
  | [], _ => rfl
  | c :: rest, h => by
    rw [List.forall_mem_cons] at h
    have hcut : anyCut c rest = false :=
      anyCut_of_right fun d hd => (h.2 d (List.mem_of_mem_head? hd)).2.1
    rw [localSnake_cons, hcut, localSnake_of_inSnake h.2, h.1.2.2]
    rfl

/-- **Snake case is its own snake case.** -/
theorem snakeChars_snakeChars {text : List Char} (h : ∀ c ∈ text, c.toNat < 128) :
    snakeChars (snakeChars text) = snakeChars text := by
  have hsnake : ∀ c ∈ snakeChars text, InSnake c := by
    intro d hd
    rw [snakeChars_eq_local h] at hd
    rcases mem_localSnake hd with rfl | ⟨c, hc, rfl⟩
    · decide
    · exact inSnake_snakeChar (h c hc)
  rw [snakeChars_eq_local fun c hc => (hsnake c hc).1, localSnake_of_inSnake hsnake]

/-! ### Identifiers -/

/-- Whether a text is a character that `start` allows, followed by any number of
such characters and figures. -/
def isWord (start : Char → Bool) : List Char → Bool
  | [] => false
  | c :: rest => start c && rest.all fun d => start d || isFigure d

/-- What an identifier of a schema can start with: `[A-Za-z_]`. -/
def startsIdentifier (c : Char) : Bool := isCapital c || isSmall c || c == '_'

/-- What an identifier in snake case can start with: `[a-z_]`. -/
def startsSnake (c : Char) : Bool := isSmall c || c == '_'

theorem ascii_of_identifier (h : (startsIdentifier c || isFigure c) = true) : c.toNat < 128 := by
  simp only [startsIdentifier, isCapital, isSmall, isFigure, Bool.or_eq_true, Bool.and_eq_true,
    decide_eq_true_eq, beq_iff_eq] at h
  rcases h with ((⟨-, h⟩ | ⟨-, h⟩) | rfl) | ⟨-, h⟩
  · exact Nat.lt_of_le_of_lt h (by decide)
  · exact Nat.lt_of_le_of_lt h (by decide)
  · decide
  · exact Nat.lt_of_le_of_lt h (by decide)

theorem startsSnake_ascii : ∀ n < 128,
    (startsIdentifier (Char.ofNat n) = true → startsSnake (snakeChar (Char.ofNat n)) = true) ∧
    (isFigure (Char.ofNat n) = true → isFigure (snakeChar (Char.ofNat n)) = true) := by
  decide +kernel

theorem startsSnake_snakeChar (h : startsIdentifier c = true) :
    startsSnake (snakeChar c) = true := by
  have hclass := startsSnake_ascii c.toNat (ascii_of_identifier (by simp [h]))
  rw [Char.ofNat_toNat] at hclass
  exact hclass.1 h

theorem isFigure_snakeChar (h : isFigure c = true) : isFigure (snakeChar c) = true := by
  have hclass := startsSnake_ascii c.toNat (ascii_of_identifier (by simp [h]))
  rw [Char.ofNat_toNat] at hclass
  exact hclass.2 h

/-- **The snake case of an identifier is an identifier without capitals.** -/
theorem isWord_snakeChars : ∀ {text : List Char}, isWord startsIdentifier text = true →
    isWord startsSnake (snakeChars text) = true
  | [], h => by cases h
  | c :: rest, h => by
    simp only [isWord, Bool.and_eq_true, List.all_eq_true] at h
    obtain ⟨hc, hrest⟩ := h
    have hascii : ∀ x ∈ c :: rest, x.toNat < 128 := by
      rw [List.forall_mem_cons]
      exact ⟨ascii_of_identifier (by simp [hc]), fun x hx => ascii_of_identifier (hrest x hx)⟩
    have hmore : ∀ d ∈ localSnake rest, (startsSnake d || isFigure d) = true := by
      intro d hd
      rcases mem_localSnake hd with rfl | ⟨x, hx, rfl⟩
      · decide
      · rcases Bool.or_eq_true_iff.mp (hrest x hx) with hx | hx
        · simp [startsSnake_snakeChar hx]
        · simp [isFigure_snakeChar hx]
    rw [snakeChars_eq_local hascii, localSnake_cons]
    split
    all_goals
      simp only [List.cons_append, List.nil_append, isWord, startsSnake_snakeChar hc, List.all_cons,
        List.all_eq_true.mpr hmore]
      decide

/-- **Snake case is one local rule.** On ASCII names, the snake case is the name
with hyphens turned into underscores, letters made small, and one underscore
wherever a word ends inside the name; doing it twice changes nothing. The snake
case of an identifier is an identifier without capitals. -/
theorem toSnake_eq_local (name : String) :
    ((∀ c ∈ name.toList, c.toNat < 128) →
      (toSnake name).toList = localSnake name.toList ∧
      toSnake (toSnake name) = toSnake name) ∧
    (isWord startsIdentifier name.toList = true → isWord startsSnake (toSnake name).toList = true) := by
  have hchars : (toSnake name).toList = snakeChars name.toList := String.toList_ofList
  refine ⟨fun h => ⟨?_, ?_⟩, fun h => ?_⟩
  · rw [hchars, snakeChars_eq_local h]
  · rw [toSnake, hchars, snakeChars_snakeChars h]
    rfl
  · rw [hchars]
    exact isWord_snakeChars h

/-- Runs of capitals with words behind them, a figure and a hyphen. -/
theorem toSnake_eq_local_mixed :
    (∀ c ∈ "getHTTPReply2XMLv-Id".toList, c.toNat < 128) ∧
    (toSnake "getHTTPReply2XMLv-Id").toList = "get_http_reply2_xm_lv_id".toList ∧
    toSnake (toSnake "getHTTPReply2XMLv-Id") = toSnake "getHTTPReply2XMLv-Id" ∧
    isWord startsIdentifier "_HTTPReply2X".toList = true ∧
    isWord startsSnake (toSnake "_HTTPReply2X").toList = true := by
  have hascii : ∀ c ∈ "getHTTPReply2XMLv-Id".toList, c.toNat < 128 := by
    have hall : ("getHTTPReply2XMLv-Id".toList.all (·.toNat < 128)) = true := by decide
    exact fun c hc => of_decide_eq_true (List.all_eq_true.mp hall c hc)
  have hword : isWord startsIdentifier "_HTTPReply2X".toList = true := by decide
  obtain ⟨hlocal, hagain⟩ := (toSnake_eq_local "getHTTPReply2XMLv-Id").1 hascii
  refine ⟨hascii, hlocal.trans (by decide +kernel), hagain, hword, ?_⟩
  exact (toSnake_eq_local "_HTTPReply2X").2 hword

end WireSchema
