/-
Integer expressions in the two engines.

An expression line computes integers of 64 bits exactly or fails, a postfix line computes binary64
numbers. As long as no value on the way has more than 53 binary digits, both compute the same.

* `Formula.words`: an expression as the words of a postfix line, operands before their operator.
* `Readable`: literals without sign, and names that postfix lines have no other use for.
* `Pushes`: words that push a value on any stack, and `pushes_formula`: those of an expression push
  its exact value.
* `engines_agree`: both engines compute the exact value.
-/
import LineRepl.Proofs.Calc.Formula
import LineRepl.Proofs.Rpn.Basic

namespace LineRepl

open Binary64 Calc
open Text (IsWord Word wordTexts)

/-- The word for an operator. -/
def Calc.RingOp.word : RingOp → String
  | .add => "+"
  | .sub => "-"
  | .mul => "*"

/-- The words of a postfix line for the expression. There is no word for a minus sign, so a negated
value is subtracted from zero. -/
def Calc.Formula.words : Formula → List String
  | .literal n => [integerText n.toInt]
  | .name x => [x]
  | .neg f => "0" :: (f.words ++ ["-"])
  | .binary op left right => left.words ++ (right.words ++ [op.word])

namespace Rpn

/-- Postfix lines read the literals and the names of the expression as what they are. -/
structure Readable (f : Formula) : Prop where
  literals : ∀ n, .literal n ∈ f.parts → 0 ≤ n.toInt
  names : ∀ x, .name x ∈ f.parts → Identifier x ∧ ¬ Reserved x

/-- The parts of a readable formula are readable. -/
lemma Readable.part {f g : Formula} (h : Readable f) (hg : g ∈ f.parts) : Readable g where
  literals n hn := h.literals n (Formula.parts_subset hg hn)
  names x hx := h.names x (Formula.parts_subset hg hx)

/-- The magnitude is at most `2 ^ 53`. Binary64 has all of these integers. -/
def Small (n : ℤ) : Prop := n.natAbs ≤ 2 ^ 53

/-! ### Words -/

lemma isWord_naturalText (n : ℕ) : IsWord (naturalText n) :=
  Text.isWord_iff.mpr ⟨toList_naturalText_ne_nil n, fun _ hc =>
    Text.isBlank_eq_false_of_isDigit (isDigit_of_mem_naturalText hc)⟩

lemma isWord_ringOp (op : RingOp) : IsWord op.word := by
  cases op <;> decide

/-- A readable formula is written in words without blanks. -/
lemma isWord_of_mem_words {f : Formula} (h : Readable f) : ∀ text ∈ f.words, IsWord text := by
  induction f with
  | literal n =>
      rw [Formula.words, List.forall_mem_singleton, integerText_of_nonneg
        (h.literals n (Formula.self_mem_parts _))]
      exact isWord_naturalText _
  | name x =>
      rw [Formula.words, List.forall_mem_singleton]
      exact (h.names x (Formula.self_mem_parts _)).1.isWord
  | neg f ih =>
      have hinner := ih (h.part (Formula.mem_parts_neg f))
      rw [Formula.words, List.forall_mem_cons, List.forall_mem_append, List.forall_mem_singleton]
      exact ⟨isWord_naturalText 0, hinner, isWord_ringOp .sub⟩
  | binary op left right ihl ihr =>
      have hleft := ihl (h.part (Formula.left_mem_parts op left right))
      have hright := ihr (h.part (Formula.right_mem_parts op left right))
      rw [Formula.words, List.forall_mem_append, List.forall_mem_append,
        List.forall_mem_singleton]
      exact ⟨hleft, hright, isWord_ringOp op⟩

/-! ### Steps -/

/-- The words push a number of the given value on any stack and change no binding. -/
def Pushes (b : Bindings) (ws : List Word) (n : ℤ) : Prop :=
  ∀ stack, ∃ x : Binary64, x.value? = some (n : ℚ) ∧ runWords ws stack b = (.ok (x :: stack), b)

/-- A word for an operator replaces two exact operands by the exact result. -/
lemma exists_runWord_ringOp {op : RingOp} {word : Word} (hword : word.text = op.word)
    {x y : Binary64} {m n : ℤ} (hx : x.value? = some (m : ℚ)) (hy : y.value? = some (n : ℚ))
    (h : Small (op.apply m n)) (stack : List Binary64) (b : Bindings) :
    ∃ z : Binary64, z.value? = some (op.apply m n : ℚ) ∧
      runWord word (y :: x :: stack) b = .ok (z :: stack, b) := by
  rw [runWord.eq_def, hword]
  cases op with
  | add => exact ⟨x + y, value?_add hx hy h, rfl⟩
  | sub => exact ⟨x - y, value?_sub hx hy h, rfl⟩
  | mul => exact ⟨x * y, value?_mul hx hy h, rfl⟩

variable {b : Bindings}

/-- A word that pushes an exact number pushes its value. -/
lemma pushes_of_runWord {word : Word} {x : Binary64} {n : ℤ} (hx : x.value? = some (n : ℚ))
    (h : ∀ stack, runWord word stack b = .ok (x :: stack, b)) : Pushes b [word] n :=
  fun stack => ⟨x, hx, by rw [runWords.eq_def]; simp only [h, runWords]⟩

/-- An operator behind the words of two operands pushes its result, if this is small. -/
lemma Pushes.ringOp {ws ws' : List Word} {word : Word} {m n : ℤ} (op : RingOp)
    (hleft : Pushes b ws m) (hright : Pushes b ws' n) (hword : word.text = op.word)
    (h : Small (op.apply m n)) : Pushes b (ws ++ (ws' ++ [word])) (op.apply m n) := by
  intro stack
  obtain ⟨x, hx, hrunx⟩ := hleft stack
  obtain ⟨y, hy, hruny⟩ := hright (x :: stack)
  obtain ⟨z, hz, hrunz⟩ := exists_runWord_ringOp hword hx hy h stack b
  refine ⟨z, hz, ?_⟩
  simp only [runWords_append, hrunx, hruny, runWords, hrunz]

/-- Small integers are numbers of the format. -/
lemma value?_ofInt_of_small {n : ℤ} (h : Small n) : (ofInt n).value? = some (n : ℚ) := by
  rw [Small] at h
  rw [value?_ofInt (by omega), nearestInt_eq_self h]

/-- A small number in decimal pushes itself. -/
lemma pushes_naturalText {word : Word} {n : ℕ} (hword : word.text = naturalText n)
    (h : Small n) : Pushes b [word] n := by
  have hlength : decimalLength n ≤ 309 := by
    have hsmall : n < 10 ^ 16 := by
      rw [Small, Int.natAbs_natCast] at h
      omega
    exact (decimalLength_le hsmall).trans (by decide)
  exact pushes_of_runWord (value?_ofInt_of_small h) fun stack =>
    runWord_naturalText hword hlength stack b

/-- The words of an expression push its value. -/
lemma pushes_formula {f : Formula} {ρ : String → Int64} (hreadable : Readable f)
    (h : f.Within Small b ρ) {ws : List Word} (hws : ws.map (·.text) = f.words) :
    Pushes b ws (f.value ρ) := by
  induction f generalizing ws with
  | literal n =>
      obtain ⟨word, rfl, hword⟩ := List.map_eq_singleton_iff.mp hws
      have hnonneg := hreadable.literals n (Formula.self_mem_parts _)
      have hnatAbs : (n.toInt.natAbs : ℤ) = n.toInt := Int.natAbs_of_nonneg hnonneg
      rw [integerText_of_nonneg hnonneg] at hword
      have hpushes := pushes_naturalText (b := b) hword (hnatAbs ▸ h.value)
      rwa [hnatAbs] at hpushes
  | name x =>
      obtain ⟨word, rfl, rfl⟩ := List.map_eq_singleton_iff.mp hws
      obtain ⟨hx, hreserved⟩ := hreadable.names _ (Formula.self_mem_parts _)
      exact pushes_of_runWord (value?_ofInt_of_small h.value)
        (runWord_of_identifier hx hreserved (h.names _ (Formula.self_mem_parts _)) rfl)
  | neg f ih =>
      obtain ⟨zero, rest, rfl, hzero, hrest⟩ := List.map_eq_cons_iff.mp hws
      obtain ⟨inner, last, rfl, hinner, hlast⟩ := List.map_eq_append_iff.mp hrest
      obtain ⟨word, rfl, hword⟩ := List.map_eq_singleton_iff.mp hlast
      have hmem := Formula.mem_parts_neg f
      have hvalue : RingOp.sub.apply 0 (f.value ρ) = f.neg.value ρ := Int.zero_sub _
      have hpushesZero : Pushes b [zero] 0 := pushes_naturalText (n := 0) hzero (Nat.zero_le _)
      have hpushes := hpushesZero.ringOp .sub (ih (hreadable.part hmem) (h.part hmem) hinner) hword
        (hvalue ▸ h.value)
      rwa [hvalue] at hpushes
  | binary op left right ihl ihr =>
      obtain ⟨wsl, rest, rfl, hwsl, hrest⟩ := List.map_eq_append_iff.mp hws
      obtain ⟨wsr, last, rfl, hwsr, hlast⟩ := List.map_eq_append_iff.mp hrest
      obtain ⟨word, rfl, hword⟩ := List.map_eq_singleton_iff.mp hlast
      have hleft := Formula.left_mem_parts op left right
      have hright := Formula.right_mem_parts op left right
      exact Pushes.ringOp op (ihl (hreadable.part hleft) (h.part hleft) hwsl)
        (ihr (hreadable.part hright) (h.part hright) hwsr) hword h.value

/-- **The engines agree on integers.** Where no part of an expression has a value beyond `2 ^ 53`,
both engines compute the exact value: one from the tree, the other from every line that has the
words of the expression. -/
theorem engines_agree {f : Formula} {ρ : String → Int64} {w : Workspace} (hreadable : Readable f)
    (h : f.Within Small w.bindings ρ) :
    ∃ n : Int64, n.toInt = f.value ρ ∧
      f.toExpr.eval w.bindings w.store = .ok (.int n, w.store) ∧
      wordTexts (" ".intercalate f.words) = f.words ∧
      ∀ line, wordTexts line = f.words → evalLine line w = (.value (.int n), w) := by
  have hrange : f.Within Formula.InRange w.bindings ρ := h.mono fun n hn => by
    rw [Small] at hn
    rw [Formula.InRange, Int64.toInt_minValue, Int64.toInt_maxValue]
    omega
  refine ⟨Int64.ofInt (f.value ρ), Formula.toInt_ofInt hrange.value,
    Formula.eval_toExpr w.store hrange, Text.wordTexts_intercalate (isWord_of_mem_words hreadable),
    fun line hline => ?_⟩
  obtain ⟨x, hx, hrun⟩ := pushes_formula hreadable h hline []
  have hvalue : toValue x = .int (Int64.ofInt (f.value ρ)) := by
    have hsmall := h.value
    rw [Small] at hsmall
    rw [toValue_of_value? hx, if_pos (by omega)]
  simp only [evalLine, hrun, hvalue]

/-- The expression `-(x * 3) + x`. -/
def sample : Formula :=
  .binary .add (.neg (.binary .mul (.name "x") (.literal 3))) (.name "x")

/-- `x` is bound to the greatest integer of which three times has no more than 53 digits. -/
def sampleWorkspace : Workspace := ⟨⟨[("x", .int 3002399751580330)]⟩, .empty⟩

/-- The formula at a number of sixteen digits, and the words for it. -/
theorem engines_agree_sample :
    Readable sample ∧ sample.Within Small sampleWorkspace.bindings (fun _ => 3002399751580330) ∧
      sample.toExpr.eval sampleWorkspace.bindings .empty =
        .ok (.int (-6004799503160660), .empty) ∧
      evalLine "0 x 3 * - x +" sampleWorkspace =
        (.value (.int (-6004799503160660)), sampleWorkspace) := by
  have hreadable : Readable sample := by
    constructor
    · intro n hn
      obtain rfl : n = 3 := by simpa [sample, Formula.parts] using hn
      decide
    · intro x hx
      obtain rfl : x = "x" := by simpa [sample, Formula.parts] using hx
      decide +kernel
  have hwithin : sample.Within Small sampleWorkspace.bindings (fun _ => 3002399751580330) := by
    constructor
    · intro x hx
      obtain rfl : x = "x" := by simpa [sample, Formula.parts] using hx
      rfl
    · simp only [Small]
      decide
  obtain ⟨n, hn, heval, hwords, hline⟩ := engines_agree hreadable hwithin
  obtain rfl : n = -6004799503160660 := Int64.toInt_inj.mp hn
  have htext : " ".intercalate sample.words = "0 x 3 * - x +" := by decide +kernel
  exact ⟨hreadable, hwithin, heval, hline _ (htext ▸ hwords)⟩

end Rpn

end LineRepl
