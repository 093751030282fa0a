/-
# Lines at the margin

A line stands at the margin if it is not empty and does not start with four
spaces. The text of a module is written piece by piece, and a piece is one of
two things. Either it is a single line (`settled_of_oneLine`), or it is a
fragment moved right, and then none of its lines stands at the margin, because
all of them are moved or empty (`settled_indent`). So the lines at the margin
are the pieces at the margin (`topLines_join`).

What makes a text one line is that no character in it ends a line. This is
kept by all that happens to a name: case mappings, which lead to no such
character (`endsLine_lowerChar`, `endsLine_upperChar`, by a look at every run of
the tables), the underscores between the words of a name, and the figures of a
number.

Key definitions: `oneLine`, `isTop`, `topLines`, `Settled`.
Key theorems: `lines_append`, `settled_indent`, `topLines_join`,
`oneLine_toSnake`, `oneLine_toUpperSnake`.
-/

import Mathlib.Data.List.Basic
import WireSchema.Plan.Field
import WireSchema.Proofs.Snake
import WireSchema.Text.Lines

namespace WireSchema

/-- Whether no character of a text ends a line. -/
def oneLine (text : String) : Bool := text.toList.all (!endsLine ·)

/-- Whether a line is not empty and does not start with four spaces. -/
def isTop : List Char → Bool
  | [] => false
  | ' ' :: ' ' :: ' ' :: ' ' :: _ => false
  | _ => true

/-- The lines of a text that stand at the margin, in order. -/
def topLines (text : String) : List String :=
  ((lines text.toList).filter isTop).map String.ofList

/-! ### Lines of a text -/

theorem oneLine_iff {text : String} :
    oneLine text = true ↔ ∀ c ∈ text.toList, endsLine c = false := by
  simp [oneLine]

@[simp] theorem oneLine_append (s t : String) : oneLine (s ++ t) = (oneLine s && oneLine t) := by
  simp [oneLine]

/-- A line and a line feed are the first line of a text. -/
theorem lines_append : ∀ {line : List Char}, (∀ c ∈ line, endsLine c = false) →
    ∀ rest, lines (line ++ '\n' :: rest) = line :: lines rest
  | [], _, rest => by
    rw [List.nil_append, lines, if_pos (by decide)]
    intro _ h
    cases h
  | c :: line, h, rest => by
    rw [List.forall_mem_cons] at h
    have hcr : c ≠ '\r' := by
      rintro rfl
      exact absurd h.1 (by decide)
    rw [List.cons_append, lines, if_neg (by simp [h.1]), lines_append h.2 rest]
    intro _ heq
    exact absurd heq hcr

/-! ### Pieces -/

/-- A piece, ended by a line feed, has no line at the margin but possibly itself. -/
def Settled (piece : String) : Prop :=
  ∀ rest, (lines (piece.toList ++ '\n' :: rest)).filter isTop =
    [piece.toList].filter isTop ++ (lines rest).filter isTop

theorem settled_of_oneLine {piece : String} (h : oneLine piece = true) : Settled piece := by
  intro rest
  rw [lines_append (oneLine_iff.mp h), ← List.filter_append]
  rfl

theorem isTop_margin {width : Nat} (h : 4 ≤ width) (line : List Char) :
    isTop (List.replicate width ' ' ++ line) = false := by
  obtain ⟨k, rfl⟩ := Nat.exists_eq_add_of_le' h
  rfl

/-- A line moved right, unless it is empty. -/
def shifted (width : Nat) (line : List Char) : List Char :=
  if line.isEmpty then [] else List.replicate width ' ' ++ line

theorem isTop_shifted {width : Nat} (h : 4 ≤ width) (line : List Char) :
    isTop (shifted width line) = false := by
  unfold shifted
  split
  · rfl
  · exact isTop_margin h line

theorem endsLine_shifted {width : Nat} {line : List Char} (h : ∀ c ∈ line, endsLine c = false) :
    ∀ c ∈ shifted width line, endsLine c = false := by
  unfold shifted
  split
  · simp
  · intro c hc
    rcases List.mem_append.mp hc with hc | hc
    · rw [List.eq_of_mem_replicate hc]
      decide
    · exact h c hc

theorem lines_indented {width : Nat} : ∀ {more : List (List Char)} {first : List Char},
    (∀ c ∈ first, endsLine c = false) → (∀ line ∈ more, ∀ c ∈ line, endsLine c = false) →
    ∀ rest, lines (first ++ more.flatMap (indentLine width) ++ '\n' :: rest) =
      first :: more.map (shifted width) ++ lines rest
  | [], first, hfirst, _, rest => by
    simpa using lines_append hfirst rest
  | line :: more, first, hfirst, hmore, rest => by
    rw [List.forall_mem_cons] at hmore
    have hline : ∀ c ∈ shifted width line, endsLine c = false := endsLine_shifted hmore.1
    have hsplit : first ++ (line :: more).flatMap (indentLine width) ++ '\n' :: rest =
        first ++ '\n' :: (shifted width line ++ more.flatMap (indentLine width) ++ '\n' :: rest) := by
      simp [indentLine, shifted]
    rw [hsplit, lines_append hfirst, lines_indented hline hmore.2 rest]
    rfl

theorem lines_joinLines : ∀ {first : String} {more : List String}, oneLine first = true →
    (∀ line ∈ more, oneLine line = true) →
    lines ((joinLines (first :: more)).toList ++ ['\n']) = (first :: more).map String.toList
  | first, [], hfirst, _ => by
    have h := lines_append (oneLine_iff.mp hfirst) []
    simpa [joinLines, lines] using h
  | first, second :: more, hfirst, hmore => by
    rw [List.forall_mem_cons] at hmore
    have ih := lines_joinLines hmore.1 hmore.2
    have hsplit : (joinLines (first :: second :: more)).toList ++ ['\n'] =
        first.toList ++ '\n' :: ((joinLines (second :: more)).toList ++ ['\n']) := by
      simp [joinLines, String.toList_intercalate]
    rw [hsplit, lines_append (oneLine_iff.mp hfirst), ih]
    rfl

theorem toList_indent {first : String} {more : List String} (width : Nat)
    (hfirst : oneLine first = true) (hmore : ∀ line ∈ more, oneLine line = true) :
    (indent width (joinLines (first :: more))).toList =
      first.toList ++ (more.map String.toList).flatMap (indentLine width) := by
  rw [indent, lines_joinLines hfirst hmore, List.map_cons]
  exact String.toList_ofList

/-- **A fragment moved right has no line at the margin.** -/
theorem settled_indent {first : String} {more : List String} {width : Nat} (hwidth : 4 ≤ width)
    (hlines : ∀ line ∈ first :: more, oneLine line = true) :
    Settled (String.ofList (List.replicate width ' ') ++
      indent width (joinLines (first :: more))) := by
  intro rest
  rw [List.forall_mem_cons] at hlines
  obtain ⟨hfirst, hmore⟩ := hlines
  have hmargin : ∀ c ∈ List.replicate width ' ' ++ first.toList, endsLine c = false := by
    intro c hc
    rcases List.mem_append.mp hc with hc | hc
    · rw [List.eq_of_mem_replicate hc]
      decide
    · exact oneLine_iff.mp hfirst c hc
  have hrest : ∀ line ∈ more.map String.toList, ∀ c ∈ line, endsLine c = false := by
    intro line hline
    obtain ⟨s, hs, rfl⟩ := List.mem_map.mp hline
    exact oneLine_iff.mp (hmore s hs)
  rw [String.toList_append, String.toList_ofList, toList_indent width hfirst hmore,
    ← List.append_assoc, lines_indented hmargin hrest rest, List.filter_append]
  congr 1
  have hnone : ∀ line ∈ (List.replicate width ' ' ++ first.toList) ::
      (more.map String.toList).map (shifted width), isTop line = false := by
    rw [List.forall_mem_cons]
    refine ⟨isTop_margin hwidth _, fun line hline => ?_⟩
    obtain ⟨l, -, rfl⟩ := List.mem_map.mp hline
    exact isTop_shifted hwidth l
  rw [List.filter_eq_nil_iff.mpr fun line hline => by simp [hnone line hline],
    List.filter_singleton, List.append_assoc, isTop_margin hwidth]
  rfl

/-- **The lines at the margin are the pieces at the margin**, where no piece
hides others. -/
theorem topLines_join : ∀ {pieces : List String}, (∀ piece ∈ pieces, Settled piece) →
    topLines (String.join (pieces.map (· ++ "\n"))) = pieces.filter (isTop ·.toList)
  | [], _ => rfl
  | piece :: pieces, h => by
    rw [List.forall_mem_cons] at h
    have ih := topLines_join h.2
    have hsplit : (String.join ((piece :: pieces).map (· ++ "\n"))).toList =
        piece.toList ++ '\n' :: (String.join (pieces.map (· ++ "\n"))).toList := by
      simp [String.toList_join]
    unfold topLines at ih ⊢
    rw [hsplit, h.1, List.map_append, ih, List.filter_cons]
    by_cases htop : isTop piece.toList = true
    · simp [htop]
    · simp [htop]

/-! ### Characters that a case mapping leads to -/

/-- The code points of the characters that end a line. -/
def lineEndCodes : List Nat := [0x0A, 0x0D, 0x0B, 0x0C, 0x1C, 0x1D, 0x1E, 0x85, 0x2028, 0x2029]

/-- No code point of the run maps to one that ends a line. -/
def CaseRun.avoidsLineEnds (r : CaseRun) : Bool :=
  lineEndCodes.all fun code =>
    !(decide ((r.first : Int) + r.shift ≤ code) && decide ((code : Int) ≤ r.last + r.shift))

theorem toNat_mem_lineEndCodes {c : Char} (h : endsLine c = true) : c.toNat ∈ lineEndCodes := by
  unfold endsLine at h
  exact List.mem_map_of_mem (f := Char.toNat) (of_decide_eq_true h)

theorem mem_lineEndCodes {n : Nat} (h : endsLine (Char.ofNat n) = true) : n ∈ lineEndCodes := by
  by_cases hn : n.isValidChar
  · rw [Char.ofNat, dif_pos hn] at h
    exact toNat_mem_lineEndCodes h
  · rw [Char.ofNat, dif_neg hn] at h
    exact absurd h (by decide)

theorem CaseRun.endsLine_shift {r : CaseRun} {n : Nat} (h : r.avoidsLineEnds = true)
    (hn : r.has n = true) : endsLine (Char.ofNat ((n : Int) + r.shift).toNat) = false := by
  by_contra hends
  have hmem := mem_lineEndCodes (by simpa using hends)
  have hno := List.all_eq_true.mp h _ hmem
  simp only [CaseRun.has, Bool.and_eq_true, decide_eq_true_eq] at hn
  obtain ⟨⟨hfirst, hlast⟩, -⟩ := hn
  have hpos : 0 < ((n : Int) + r.shift).toNat := by
    have hcodes : ∀ code ∈ lineEndCodes, 0 < code := by decide
    exact hcodes _ hmem
  simp only [Bool.not_eq_true', Bool.and_eq_false_iff, decide_eq_false_iff_not] at hno
  omega

theorem CaseTable.endsLine_map {t : CaseTable}
    (hspecial : ∀ p ∈ t.special, ∀ n ∈ p.2, endsLine (Char.ofNat n) = false)
    (hruns : ∀ r ∈ t.runs, r.avoidsLineEnds = true) {c : Char} (hc : endsLine c = false) :
    ∀ d ∈ t.map c, endsLine d = false := by
  intro d hd
  unfold CaseTable.map at hd
  split at hd
  next n targets hfind =>
    obtain ⟨target, htarget, rfl⟩ := List.mem_map.mp hd
    exact hspecial _ (List.mem_of_find?_eq_some hfind) target htarget
  next =>
    split at hd
    next run hfind =>
      rw [List.mem_singleton.mp hd]
      have hhas : run.has c.toNat = true := by
        simpa using List.find?_some hfind
      exact CaseRun.endsLine_shift (hruns run (List.mem_of_find?_eq_some hfind)) hhas
    next =>
      rw [List.mem_singleton.mp hd]
      exact hc

theorem endsLine_ascii : ∀ n < 128, endsLine (Char.ofNat n) = false →
    endsLine (Char.ofNat n).toLower = false ∧ endsLine (Char.ofNat n).toUpper = false := by
  decide +kernel

theorem endsLine_lowerChar {c : Char} (hc : endsLine c = false) :
    ∀ d ∈ lowerChar c, endsLine d = false := by
  intro d hd
  unfold lowerChar at hd
  split at hd
  next hlt =>
    have h := endsLine_ascii c.toNat hlt
    rw [Char.ofNat_toNat] at h
    rw [List.mem_singleton.mp hd]
    exact (h hc).1
  next => exact CaseTable.endsLine_map (by decide +kernel) (by decide +kernel) hc d hd

theorem endsLine_upperChar {c : Char} (hc : endsLine c = false) :
    ∀ d ∈ upperChar c, endsLine d = false := by
  intro d hd
  unfold upperChar at hd
  split at hd
  next hlt =>
    have h := endsLine_ascii c.toNat hlt
    rw [Char.ofNat_toNat] at h
    rw [List.mem_singleton.mp hd]
    exact (h hc).2
  next => exact CaseTable.endsLine_map (by decide +kernel) (by decide +kernel) hc d hd

theorem endsLine_lowerFrom : ∀ {text : List Char} (afterCased : Bool),
    (∀ c ∈ text, endsLine c = false) → ∀ d ∈ lowerFrom afterCased text, endsLine d = false
  | [], _, _, d, hd => by cases hd
  | c :: text, afterCased, h, d, hd => by
    rw [List.forall_mem_cons] at h
    rw [lowerFrom] at hd
    split at hd
    · rcases List.mem_cons.mp hd with rfl | hd
      · split <;> decide
      · exact endsLine_lowerFrom _ h.2 d hd
    · rcases List.mem_append.mp hd with hd | hd
      · exact endsLine_lowerChar h.1 d hd
      · exact endsLine_lowerFrom _ h.2 d hd

/-! ### Names -/

theorem endsLine_snakeChars {text : List Char} (h : ∀ c ∈ text, endsLine c = false) :
    ∀ d ∈ snakeChars text, endsLine d = false := by
  rw [snakeChars_eq]
  refine endsLine_lowerFrom false fun c hc => ?_
  obtain ⟨x, hx, rfl⟩ := List.mem_map.mp hc
  split
  · decide
  · rcases mem_cutWhere hx with rfl | hx
    · decide
    · exact h x hx

theorem oneLine_toSnake {name : String} (h : oneLine name = true) :
    oneLine (toSnake name) = true := by
  rw [oneLine_iff, toSnake, String.toList_ofList]
  exact endsLine_snakeChars (oneLine_iff.mp h)

theorem oneLine_toUpperSnake {name : String} (h : oneLine name = true) :
    oneLine (toUpperSnake name) = true := by
  rw [oneLine_iff, toUpperSnake, String.toList_ofList]
  intro d hd
  obtain ⟨c, hc, hd⟩ := List.mem_flatMap.mp hd
  exact endsLine_upperChar (endsLine_snakeChars (oneLine_iff.mp h) c hc) d hd

theorem endsLine_of_isDigit {c : Char} (h : c.isDigit = true) : endsLine c = false := by
  by_contra hends
  have hmem := toNat_mem_lineEndCodes (by simpa using hends)
  have hno : ∀ code ∈ lineEndCodes, ¬ ('0'.toNat ≤ code ∧ code ≤ '9'.toNat) := by decide
  exact hno c.toNat hmem (Char.isDigit_iff_toNat.mp h)

theorem oneLine_repr (n : Nat) : oneLine n.repr = true := by
  rw [oneLine_iff, Nat.repr_eq_ofList_toDigits, String.toList_ofList]
  intro c hc
  exact endsLine_of_isDigit (Nat.isDigit_of_mem_toDigits (by decide) (by decide) hc)

theorem oneLine_toString (n : Int) : oneLine (toString n) = true := by
  cases n with
  | ofNat m => exact oneLine_repr m
  | negSucc m =>
    show oneLine ("-" ++ m.succ.repr) = true
    rw [oneLine_append, oneLine_repr]
    decide

end WireSchema
