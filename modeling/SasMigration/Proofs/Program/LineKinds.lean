import Mathlib.Data.List.Induction
import Mathlib.Data.List.Infix
import Mathlib.Tactic.Common
import SasMigration.Program.Complexity

namespace SasMigration.Complexity

variable {earlier lines : List Text} {line : Text}

/-- The lines end within a block comment: one of them opens it, and neither that line nor one after
it closes it. -/
def InBlock (earlier : List Text) : Prop :=
  ∃ first opening more, earlier = first ++ opening :: more ∧ startsComment opening ∧
    Text.occursIn "/*" opening ∧ ∀ line ∈ opening :: more, Text.occursIn "*/" line = false

theorem not_inBlock_nil : ¬ InBlock [] := by
  rintro ⟨first, opening, more, h, -⟩
  simp at h

theorem inBlock_concat : InBlock (earlier ++ [line]) ↔
    (InBlock earlier ∨ startsComment line ∧ Text.occursIn "/*" line) ∧
      Text.occursIn "*/" line = false := by
  constructor
  · rintro ⟨first, opening, more, h, hstarts, hopens, hclosed⟩
    rcases List.eq_nil_or_concat' more with rfl | ⟨more, last, rfl⟩
    · obtain ⟨rfl, rfl⟩ := List.append_singleton_inj.mp h
      exact ⟨.inr ⟨hstarts, hopens⟩, hclosed line List.mem_cons_self⟩
    · rw [← List.cons_append, ← List.append_assoc] at h
      obtain ⟨rfl, rfl⟩ := List.append_singleton_inj.mp h
      refine ⟨.inl ⟨first, opening, more, rfl, hstarts, hopens, fun l hl ↦ hclosed l ?_⟩,
        hclosed line (by simp)⟩
      rw [← List.cons_append]
      exact List.mem_append_left _ hl
  · rintro ⟨⟨first, opening, more, rfl, hstarts, hopens, hclosed⟩ | ⟨hstarts, hopens⟩, hline⟩
    · refine ⟨first, opening, more ++ [line], by simp, hstarts, hopens, fun l hl ↦ ?_⟩
      rw [← List.cons_append, List.mem_append, List.mem_singleton] at hl
      rcases hl with hl | rfl
      · exact hclosed l hl
      · exact hline
    · exact ⟨earlier, line, [], rfl, hstarts, hopens, by simpa using hline⟩

def openAfter (inside : Bool) (line : Text) : Bool :=
  (inside || startsComment line && Text.occursIn "/*" line) && !Text.occursIn "*/" line

def isInBlock (earlier : List Text) : Bool := earlier.foldl openAfter false

theorem isInBlock_concat (earlier : List Text) (line : Text) :
    isInBlock (earlier ++ [line]) = openAfter (isInBlock earlier) line := List.foldl_concat ..

theorem isInBlock_iff : isInBlock earlier ↔ InBlock earlier := by
  induction earlier using List.reverseRecOn with
  | nil => simp [isInBlock, not_inBlock_nil]
  | append_singleton earlier line ih =>
    rw [isInBlock_concat, inBlock_concat, ← ih, openAfter]
    simp

instance : DecidablePred InBlock := fun _ ↦ decidable_of_iff _ isInBlock_iff

/-! Counting -/

/-- The lines of a text, each with the lines before it. -/
def withEarlier (lines : List Text) : List (List Text × Text) := lines.inits.zip lines

theorem withEarlier_cons (line : Text) (lines : List Text) :
    withEarlier (line :: lines) =
      ([], line) :: (withEarlier lines).map fun p ↦ (line :: p.1, p.2) := by
  rw [withEarlier, List.inits_cons, List.zip_cons_cons, List.zip_map_left]
  rfl

theorem map_snd_withEarlier (lines : List Text) : (withEarlier lines).map (·.2) = lines := by
  induction lines with
  | nil => rfl
  | cons line lines ih =>
    rw [withEarlier_cons, List.map_cons, List.map_map]
    exact congrArg (line :: ·) ih

theorem countCommentLines_cons (inside : Bool) (line : Text) (lines : List Text) :
    countCommentLines inside (line :: lines) =
      countCommentLines (openAfter inside line) lines +
        if inside || startsComment line then 1 else 0 := by
  cases inside with
  | true => simp [countCommentLines, openAfter, Nat.add_comm]
  | false =>
    cases h : startsComment line with
    | true => simp [countCommentLines, openAfter, h, Nat.add_comm]
    | false => simp [countCommentLines, openAfter, h]

theorem countCommentLines_isInBlock (earlier lines : List Text) :
    countCommentLines (isInBlock earlier) lines =
      (withEarlier lines).countP fun p ↦ isInBlock (earlier ++ p.1) || startsComment p.2 := by
  -- the state of the count says whether the lines before those left end within a block comment
  induction lines generalizing earlier with
  | nil => cases isInBlock earlier <;> rfl
  | cons line lines ih =>
    rw [countCommentLines_cons, ← isInBlock_concat, ih, withEarlier_cons, List.countP_cons,
      List.countP_map, List.append_nil]
    simp only [Function.comp_def, List.append_assoc, List.singleton_append]

theorem isCodeLine_iff (line : Text) :
    isCodeLine line ↔ ¬ (Text.strip line).isEmpty ∧ ¬ startsComment line := by
  simp [isCodeLine]

theorem startsComment_of_blank (line : Text) (h : (Text.strip line).isEmpty) :
    startsComment line = false := by
  rw [startsComment, List.isEmpty_iff.mp h]
  rfl

theorem countP_add_countP {α : Type} (p q : α → Bool) (l : List α) :
    l.countP p + l.countP q = l.countP (fun a ↦ p a || q a) + l.countP fun a ↦ p a && q a := by
  induction l with
  | nil => rfl
  | cons a l ih =>
    simp only [List.countP_cons]
    cases p a <;> cases q a <;> simp <;> omega

theorem counts_iff (p : List Text × Text) :
    ((isCodeLine p.2 || decide (InBlock p.1 ∨ startsComment p.2)) ↔
        ¬ (¬ InBlock p.1 ∧ (Text.strip p.2).isEmpty)) ∧
      ((isCodeLine p.2 && decide (InBlock p.1 ∨ startsComment p.2)) ↔
        InBlock p.1 ∧ isCodeLine p.2) := by
  have hcode := isCodeLine_iff p.2
  have hblank := startsComment_of_blank p.2
  by_cases hin : InBlock p.1 <;> cases hstarts : startsComment p.2 <;>
    cases hempty : (Text.strip p.2).isEmpty <;> simp_all

theorem commentLines_ofCode (code : Text) : (ofCode code).commentLines =
    (withEarlier (Text.lines code)).countP fun p ↦ InBlock p.1 ∨ startsComment p.2 := by
  refine (countCommentLines_isInBlock [] (Text.lines code)).trans (List.countP_congr fun p _ ↦ ?_)
  simp [isInBlock_iff]

theorem codeLines_ofCode (code : Text) : (ofCode code).codeLines =
    (withEarlier (Text.lines code)).countP fun p ↦ isCodeLine p.2 := by
  change (Text.lines code).countP isCodeLine = _
  conv_lhs => rw [← map_snd_withEarlier (Text.lines code), List.countP_map]
  rfl

theorem totalLines_ofCode (code : Text) :
    (ofCode code).totalLines = (withEarlier (Text.lines code)).length := by
  change (Text.lines code).length = _
  conv_lhs => rw [← map_snd_withEarlier (Text.lines code), List.length_map]

/-- A line counts as code if it is not blank and does not begin with a comment mark, wherever it
stands; the rest says how many lines count as code, as a comment, as both and as neither. -/
theorem codeLines_add_commentLines (code : Text) :
    let counted := ofCode code
    let placed := withEarlier (Text.lines code)
    let hidden := placed.countP fun p ↦
      InBlock p.1 ∧ ¬ (Text.strip p.2).isEmpty ∧ ¬ startsComment p.2
    let blank := placed.countP fun p ↦ ¬ InBlock p.1 ∧ (Text.strip p.2).isEmpty
    counted.codeLines = placed.countP (fun p ↦ ¬ (Text.strip p.2).isEmpty ∧ ¬ startsComment p.2) ∧
      counted.commentLines = placed.countP (fun p ↦ InBlock p.1 ∨ startsComment p.2) ∧
      counted.codeLines + counted.commentLines + blank = counted.totalLines + hidden ∧
      (counted.codeLines + counted.commentLines ≤ counted.totalLines ↔ hidden ≤ blank) := by
  intro counted placed hidden blank
  have hone : placed.countP (fun p ↦ isCodeLine p.2 || decide (InBlock p.1 ∨ startsComment p.2)) +
      blank = placed.length := by
    rw [List.length_eq_countP_add_countP
      (fun p : List Text × Text ↦ isCodeLine p.2 || decide (InBlock p.1 ∨ startsComment p.2))]
    congr 1
    refine List.countP_congr fun p _ ↦ ?_
    rw [decide_eq_true_iff, decide_eq_true_iff, (counts_iff p).1, not_not]
  have htwo : placed.countP (fun p ↦ isCodeLine p.2 && decide (InBlock p.1 ∨ startsComment p.2)) =
      hidden := by
    refine List.countP_congr fun p _ ↦ ?_
    rw [decide_eq_true_iff, (counts_iff p).2, isCodeLine_iff]
  have hsum := countP_add_countP (fun p : List Text × Text ↦ isCodeLine p.2)
    (fun p ↦ decide (InBlock p.1 ∨ startsComment p.2)) placed
  have hcomment : counted.commentLines = _ := commentLines_ofCode code
  have hcode : counted.codeLines = _ := codeLines_ofCode code
  have htotal : counted.totalLines = placed.length := totalLines_ofCode code
  rw [← hcode, ← hcomment, htwo] at hsum
  refine ⟨hcode.trans (List.countP_congr fun p _ ↦ ?_), hcomment, ?_, ?_⟩
  · rw [decide_eq_true_iff, isCodeLine_iff]
  · omega
  · omega

/-- A line inside a block comment counts as code and as a comment, so that there are more counted
lines than lines. -/
theorem exists_totalLines_lt_counted :
    ∃ code, (ofCode code).totalLines < (ofCode code).codeLines + (ofCode code).commentLines :=
  ⟨"/*\na\n*/", by decide +kernel⟩

end SasMigration.Complexity
