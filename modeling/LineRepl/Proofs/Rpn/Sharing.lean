/-
Integers that are bound by expression lines and used by postfix lines, and the way back.

A postfix line reads a bound integer as a binary64 number, and answers with or binds an integer
where that number is one. So integers of up to 53 binary digits are passed on unchanged, and longer
ones are rounded.

* `Passed`: a name's value goes through postfix lines to another name, and is read there.
* `passedOn`: the value that an integer arrives as.
* `passed_of_int`: every name that postfix lines have no other use for is passed on so, and the
  integers that arrive unchanged are the ones that rounding keeps.
* `evalLine_longAndInf`: an integer that is rounded, and a name that is a number.
-/
import LineRepl.Proofs.Rpn.Basic

namespace LineRepl.Rpn

open Binary64 Calc
open Text (IsWord wordTexts)

/-- What is bound to `x` goes through postfix lines to `y` as the value `v`. -/
structure Passed (x y : String) (v : Value) (w : Workspace) : Prop where
  /-- The name is a line of this one word. -/
  named : wordTexts x = [x]
  /-- A postfix line of this one word has the value. -/
  value : ∀ line, wordTexts line = [x] → evalLine line w = (.value v, w)
  /-- There is a line that stores the one name under the other. -/
  storing : wordTexts (x ++ " =" ++ y) = [x, "=" ++ y]
  /-- Such a line binds the other name to the value and does nothing else. -/
  stored : ∀ line, wordTexts line = [x, "=" ++ y] → evalLine line w = (.nothing, w.bind y v)
  bound : (w.bind y v).bindings.get? y = some v
  /-- The other name is then an expression line that has the value too. -/
  read : Calc.evalLine y (w.bind y v) = (.value v, w.bind y v)

/-- The value of an integer that has gone through binary64. -/
def passedOn (n : Int64) : Value := toValue (.ofInt n.toInt)

/-! ### Values -/

/-- What is passed on is the nearest integer that has at most 53 binary digits, or a float beyond
the range. -/
lemma passedOn_eq (n : Int64) :
    passedOn n =
      if (nearestInt n.toInt).natAbs < 2 ^ 63 then .int (Int64.ofInt (nearestInt n.toInt))
      else .float (.ofInt n.toInt) :=
  toValue_of_value? (value?_ofInt_toInt n)

/-- An integer arrives as the nearest one that binary64 has. The least integer does not arrive. -/
lemma passedOn_eq_int_iff {n m : Int64} :
    passedOn n = .int m ↔ nearestInt n.toInt = m.toInt ∧ m ≠ Int64.minValue := by
  rw [passedOn_eq, ne_eq, ← Int64.toInt_inj, Int64.toInt_minValue]
  have hle := m.le_toInt
  have hlt := m.toInt_lt
  split_ifs with hsmall
  · rw [Value.int.injEq, ← Int64.toInt_inj, Int64.toInt_ofInt_of_le (by omega) (by omega)]
    omega
  · simp only [false_iff]
    omega

/-! ### Lines -/

/-- An equals sign in front of a word makes a word. -/
lemma isWord_store {y : String} (hy : IsWord y) : IsWord ("=" ++ y) := by
  refine ⟨by simp, ?_⟩
  have hequals : "=".toList.all (!Text.isBlank ·) = true := by decide
  rw [String.toList_append, List.all_append, hequals, hy.2, Bool.and_self]

/-- The line that binds the name of a value to another name has two words. -/
lemma wordTexts_store {x y : String} (hx : IsWord x) (hy : IsWord y) :
    wordTexts (x ++ " =" ++ y) = [x, "=" ++ y] := by
  have hwords : ∀ text ∈ [x, "=" ++ y], IsWord text := by simp [hx, isWord_store hy]
  have h := Text.wordTexts_intercalate hwords
  have hsign : x ++ " " ++ "=" = x ++ " =" := String.append_assoc
  rwa [String.intercalate_cons_cons, String.intercalate_singleton, ← String.append_assoc,
    hsign] at h

/-- A line that is the name of a number answers with the number as a value. -/
lemma evalLine_named {x line : String} {w : Workspace} {v : Value} {z : Binary64}
    (hx : Identifier x) (hreserved : ¬ Reserved x) (hv : w.bindings.get? x = some v)
    (hz : v.toBinary64? = some z) (hline : wordTexts line = [x]) :
    evalLine line w = (.value (toValue z), w) := by
  obtain ⟨word, hwords, rfl⟩ := List.map_eq_singleton_iff.mp hline
  simp only [evalLine, hwords, runWords, runWord_of_identifier hx hreserved hv hz]

/-- A line that stores the number of one name under another one binds it there. -/
lemma evalLine_stored {x y line : String} {w : Workspace} {v : Value} {z : Binary64}
    (hx : Identifier x) (hreserved : ¬ Reserved x) (hv : w.bindings.get? x = some v)
    (hz : v.toBinary64? = some z) (hy : y.toList ≠ []) (hline : wordTexts line = [x, "=" ++ y]) :
    evalLine line w = (.nothing, w.bind y (toValue z)) := by
  obtain ⟨word, rest, hwords, rfl, hrest⟩ := List.map_eq_cons_iff.mp hline
  obtain ⟨store, rfl, hstore⟩ := List.map_eq_singleton_iff.mp hrest
  simp only [evalLine, hwords, runWords, runWord_of_identifier hx hreserved hv hz,
    runWord_store hstore hy, Workspace.bind]

/-- **What becomes of an integer** `n` that is bound to `x`, if `x` is a name that postfix lines
have no other use for: it goes through them as the nearest integer that binary64 has, if that is
above `-2 ^ 63` and below `2 ^ 63`, and as the nearest binary64 number if not. It is unchanged
exactly if binary64 has it and it is not the least integer, so in any case up to `2 ^ 53`. -/
theorem passed_of_int {x y : String} {n : Int64} {w : Workspace} (hx : Identifier x)
    (hreserved : ¬ Reserved x) (hy : Identifier y) (hn : w.bindings.get? x = some (.int n)) :
    Passed x y (passedOn n) w ∧
      (passedOn n =
        if (nearestInt n.toInt).natAbs < 2 ^ 63 then .int (Int64.ofInt (nearestInt n.toInt))
        else .float (.ofInt n.toInt)) ∧
      (passedOn n = .int n ↔ nearestInt n.toInt = n.toInt ∧ n ≠ Int64.minValue) ∧
      (n.toInt.natAbs ≤ 2 ^ 53 → passedOn n = .int n) := by
  have hbound : (w.bind y (passedOn n)).bindings.get? y = some (passedOn n) :=
    Bindings.get?_set_self _ _ _
  refine ⟨⟨Text.wordTexts_of_isWord hx.isWord, fun line => evalLine_named hx hreserved hn rfl,
    wordTexts_store hx.isWord hy.isWord,
    fun line => evalLine_stored hx hreserved hn rfl hy.isWord.1, hbound,
    evalLine_of_identifier hy hbound⟩, passedOn_eq n, passedOn_eq_int_iff, fun hsmall => ?_⟩
  refine passedOn_eq_int_iff.mpr ⟨nearestInt_eq_self hsmall, ?_⟩
  rintro rfl
  exact absurd hsmall (by decide)

/-- An integer that binary64 rounds, under a name of its own and under the name of a number. -/
def longAndInf : Workspace :=
  ⟨⟨[("x", .int 9007199254740993), ("inf", .int 9007199254740993)]⟩, .empty⟩

/-- An odd number of 54 binary digits loses one. -/
lemma passedOn_long : passedOn 9007199254740993 = .int 9007199254740992 :=
  passedOn_eq_int_iff.mpr (by decide +kernel)

/-- A number that no float is equal to is passed on as its neighbour. -/
theorem passed_x :
    Identifier "x" ∧ ¬ Reserved "x" ∧ Identifier "y" ∧
      longAndInf.bindings.get? "x" = some (.int 9007199254740993) ∧
      Passed "x" "y" (.int 9007199254740992) longAndInf := by
  have hx : Identifier "x" := by decide +kernel
  have hreserved : ¬ Reserved "x" := by decide +kernel
  have hy : Identifier "y" := by decide +kernel
  have hpassed := (passed_of_int (w := longAndInf) hx hreserved hy rfl).1
  rw [passedOn_long] at hpassed
  exact ⟨hx, hreserved, hy, rfl, hpassed⟩

/-- An integer that postfix lines round, and one that they do not find behind its name. -/
theorem evalLine_longAndInf :
    Identifier "x" ∧ longAndInf.bindings.get? "x" = some (.int 9007199254740993) ∧
      evalLine "x" longAndInf = (.value (.int 9007199254740992), longAndInf) ∧
      Identifier "inf" ∧ longAndInf.bindings.get? "inf" = some (.int 9007199254740993) ∧
      evalLine "inf" longAndInf = (.value (.float (.infinite false)), longAndInf) := by
  have hx : Identifier "x" := by decide +kernel
  have hinf : Identifier "inf" := by decide +kernel
  have hline := evalLine_named (w := longAndInf) hx (by decide +kernel) rfl rfl
    (Text.wordTexts_of_isWord hx.isWord)
  refine ⟨hx, rfl, hline.trans (by rw [← passedOn_long]; rfl), hinf, rfl, ?_⟩
  obtain ⟨word, hwords, htext⟩ := List.map_eq_singleton_iff.mp
    (Text.wordTexts_of_isWord hinf.isWord)
  have hrun : runWord word [] longAndInf.bindings =
      .ok ([.infinite false], longAndInf.bindings) := by
    rw [runWord.eq_def, htext]
    rfl
  simp only [evalLine, hwords, runWords, hrun]
  rfl

end LineRepl.Rpn
