/-
How high the trees of accepted lines are.

The parser counts the nesting at the place where it reads. The operators of a chain and the argument
lists of a call push what was read before them further down, where it is not counted again, so
trees get far higher than the limit of the count. How far depends on the room, the levels that the
count has left: a primary with room `r` is a list around an expression with room `r - 1`, to which
`r` argument lists, `r` operators of a product, `r` operators of a sum and a comparison can be
added.

* `Expr.height`: the height of a tree.
* `primaryHeight`: the greatest height of a primary with the given room.
* `Expression.height_lt`: no derivation gives a higher tree.
* `exists_primary`: there are derivations of trees that high.
* `exists_height_eq_iff`: the bounds on the height of all accepted lines.
-/
import LineRepl.Proofs.Calc.Completeness

namespace LineRepl.Calc

mutual

/-- The number of trees below one another, from the whole tree to a leaf. A list without items is a
leaf. -/
def Expr.height : Expr → ℕ
  | .int _ | .float _ | .str _ | .var _ => 1
  | .list items => highest items + 1
  | .neg e => e.height + 1
  | .binary _ left right => max left.height right.height + 1
  | .call callee args => max callee.height (highest args) + 1

/-- The greatest height of some trees. -/
def highest : List Expr → ℕ
  | [] => 0
  | e :: es => max e.height (highest es)

end

/-- The expression of a statement. -/
def Statement.body : Statement → Expr
  | .assign _ e => e
  | .expr e => e

namespace Grammar

/-- The greatest height of a primary, where the count can still be raised by `room`. -/
def primaryHeight : ℕ → ℕ
  | 0 => 1
  | room + 1 => primaryHeight room + 3 * room + 2

/-- The bound in closed form. -/
lemma two_mul_primaryHeight (room : ℕ) :
    2 * primaryHeight room = 3 * (room * room) + room + 2 := by
  induction room with
  | zero => rfl
  | succ room ih =>
      rw [primaryHeight, Nat.mul_add, Nat.mul_add, ih]
      simp only [Nat.mul_add, Nat.add_mul]
      omega

/-- More room allows higher operands. -/
lemma primaryHeight_mono {room room' : ℕ} (h : room ≤ room') :
    primaryHeight room ≤ primaryHeight room' := by
  induction h with
  | refl => exact Nat.le_refl _
  | step _ ih => rw [primaryHeight]; omega

/-- There is room for a name everywhere. -/
lemma primaryHeight_pos (room : ℕ) : 0 < primaryHeight room := by
  cases room <;> rw [primaryHeight] <;> omega

/-- The greatest height of an operand of a level: a primary with argument lists, in a sum also with
the operators of a product. -/
def operandHeight : Level → ℕ → ℕ
  | .product, room => primaryHeight room + room
  | .sum, room => primaryHeight room + 2 * room

/-- More room allows higher operands of a level. -/
lemma operandHeight_mono (level : Level) {room room' : ℕ} (h : room ≤ room') :
    operandHeight level room ≤ operandHeight level room' := by
  have hp := primaryHeight_mono h
  cases level <;> simp only [operandHeight] <;> omega

/-! ### No tree is higher -/

variable {limit : ℕ}

mutual

/-- An expression is lower than a primary at the same count. -/
theorem Expression.height_lt {d : ℕ} {ts : List Token} {e : Expr} :
    Expression limit d ts e → e.height < primaryHeight (limit - d)
  | .single hd h => by
      have hle := h.height_le
      rw [show limit - d = limit - (d + 1) + 1 from by omega, primaryHeight]
      simp only [operandHeight] at hle
      omega
  | .compare hd _ h h' => by
      have hle := h.height_le
      have hle' := h'.height_le
      rw [show limit - d = limit - (d + 1) + 1 from by omega, primaryHeight, Expr.height]
      simp only [operandHeight] at hle hle'
      omega

/-- The operators of a chain add to its height what is left of the room. -/
theorem Chain.height_le {level : Level} {d : ℕ} {ts : List Token} {e : Expr} :
    Chain limit level d ts e → e.height ≤ operandHeight level (limit - d) + (limit - d)
  | .mk h h' => h'.height_le _ _ (Nat.le_refl _) h.height_le

/-- A product is an operand of sums, and a signed operand one of products. -/
theorem Operand.height_le {level : Level} {d : ℕ} {ts : List Token} {e : Expr} :
    Operand limit level d ts e → e.height ≤ operandHeight level (limit - d)
  | .product h => by
      have hle := h.height_le
      simp only [operandHeight] at hle ⊢
      omega
  | .signed h => h.height_le

/-- Operators add one level each to what is before them, if that is as high as their right operands
may be. -/
theorem Operations.height_le {level : Level} {d : ℕ} {ts : List Token}
    {steps : List (BinaryOp × Expr)} : Operations limit level d ts steps →
    ∀ left h, operandHeight level (limit - d) ≤ h → left.height ≤ h →
      (leanLeft left steps).height ≤ h + (limit - d)
  | .nil, left, h, _, hleft => by
      rw [leanLeft_nil]
      omega
  | @Operations.cons _ _ _ _ _ op e _ hd _ hop hops, left, h, hroom, hleft => by
      have hright := hop.height_le
      have hmono := operandHeight_mono level (show limit - (d + 1) ≤ limit - d by omega)
      have hnode : (Expr.binary op left e).height ≤ h + 1 := by
        rw [Expr.height]
        omega
      have hle := hops.height_le (.binary op left e) (h + 1) (by omega) hnode
      rw [leanLeft_cons]
      omega

/-- Minus signs add to the height of an operand what is left of the room. -/
theorem Signed.height_le {d : ℕ} {ts : List Token} {e : Expr} :
    Signed limit d ts e → e.height ≤ primaryHeight (limit - d) + (limit - d)
  | .minus hd h => by
      have hle := h.height_le
      have hmono := primaryHeight_mono (show limit - (d + 1) ≤ limit - d by omega)
      rw [Expr.height]
      omega
  | .applied h => h.height_le

/-- So do calls. -/
theorem Applied.height_le {d : ℕ} {ts : List Token} {e : Expr} :
    Applied limit d ts e → e.height ≤ primaryHeight (limit - d) + (limit - d)
  | .mk h h' => h'.height_le _ _ (Nat.le_refl _) h.height_le

/-- Argument lists add one level each to the callee, if that is as high as a primary may be. -/
theorem Applications.height_le {d : ℕ} {ts : List Token} {arguments : List (List Expr)} :
    Applications limit d ts arguments →
    ∀ callee h, primaryHeight (limit - d) ≤ h → callee.height ≤ h →
      (applyAll callee arguments).height ≤ h + (limit - d)
  | .nil, callee, h, _, hcallee => by
      rw [applyAll_nil]
      omega
  | @Applications.cons _ _ _ _ es _ hd hargs happs, callee, h, hroom, hcallee => by
      have hes := hargs.highest_lt
      have hmono := primaryHeight_mono (show limit - (d + 1) ≤ limit - d by omega)
      have hnode : (Expr.call callee es).height ≤ h + 1 := by
        rw [Expr.height]
        omega
      have hle := happs.height_le (.call callee es) (h + 1) (by omega) hnode
      rw [applyAll_cons]
      omega

/-- The arguments of a call are lower than the bound that counts the call itself. -/
theorem Arguments.highest_lt {d : ℕ} {ts : List Token} {es : List Expr} :
    Arguments limit d ts es → highest es < primaryHeight (limit - d)
  | .none => primaryHeight_pos _
  | .some h => h.highest_lt

/-- So are the items of a list. -/
theorem Items.highest_lt {d : ℕ} {ts : List Token} {es : List Expr} :
    Items limit d ts es → highest es < primaryHeight (limit - d)
  | .last h => by
      have hlt := h.height_lt
      rw [highest, highest]
      omega
  | .cons h h' => by
      have hlt := h.height_lt
      have hlt' := h'.highest_lt
      rw [highest]
      omega

/-- The height of an operand without signs and calls, by the room that is left for it. -/
theorem Primary.height_le {d : ℕ} {ts : List Token} {e : Expr} :
    Primary limit d ts e → e.height ≤ primaryHeight (limit - d)
  | .int _ | .float _ | .str _ | .var _ => primaryHeight_pos _
  | .parens h => h.height_lt.le
  | .list h => h.highest_lt

end

/-! ### Some trees are that high -/

/-- A chain may have as many operators as levels are left. -/
lemma exists_operations {level : Level} {op : BinaryOp} (hop : op ∈ level.operators) (n d : ℕ)
    (h : d + n ≤ limit) :
    ∃ ts, Operations limit level d ts (List.replicate n (op, .int 0)) := by
  induction n generalizing d with
  | zero => exact ⟨[], .nil⟩
  | succ n ih =>
      obtain ⟨ts, hts⟩ := ih (d + 1) (by omega)
      exact ⟨_, .cons (by omega) hop ((Primary.int 0).operand level) hts⟩

/-- There may be as many calls. -/
lemma exists_applications (n d : ℕ) (h : d + n ≤ limit) :
    ∃ ts, Applications limit d ts (List.replicate n []) := by
  induction n generalizing d with
  | zero => exact ⟨[], .nil⟩
  | succ n ih =>
      obtain ⟨ts, hts⟩ := ih (d + 1) (by omega)
      exact ⟨_, .cons (by omega) .none hts⟩

lemma height_pos (e : Expr) : 0 < e.height := by
  cases e <;> rw [Expr.height] <;> omega

/-- Each operator of a chain adds one to its height. -/
lemma height_leanLeft_replicate (op : BinaryOp) (n : ℕ) (left : Expr) :
    (leanLeft left (List.replicate n (op, .int 0))).height = left.height + n := by
  induction n generalizing left with
  | zero => rfl
  | succ n ih =>
      have hpos := height_pos left
      have hnode : (Expr.binary op left (.int 0)).height = left.height + 1 := by
        rw [Expr.height, Expr.height]
        omega
      rw [List.replicate_succ, leanLeft_cons, ih, hnode]
      omega

/-- Each call adds one to the height of what is called. -/
lemma height_applyAll_replicate (n : ℕ) (callee : Expr) :
    (applyAll callee (List.replicate n [])).height = callee.height + n := by
  induction n generalizing callee with
  | zero => rfl
  | succ n ih =>
      have hnode : (Expr.call callee []).height = callee.height + 1 := by
        rw [Expr.height, highest]
        omega
      rw [List.replicate_succ, applyAll_cons, ih, hnode]
      omega

/-- Argument lists, operators of a product, operators of a sum and a comparison take a primary up by
any number of levels that they have room for. -/
lemma Primary.exists_expression {d room : ℕ} (hroom : d + 1 + room = limit) {ts : List Token}
    {e : Expr} (h : Primary limit (d + 1) ts e) {levels : ℕ} (hlevels : levels ≤ 3 * room + 1) :
    ∃ us e', Expression limit d us e' ∧ e'.height = e.height + levels := by
  obtain ⟨a, b, c, last, hsplit, ha, hb, hc, hlast⟩ :
      ∃ a b c last, levels = a + b + c + last ∧ a ≤ room ∧ b ≤ room ∧ c ≤ room ∧ last ≤ 1 :=
    ⟨min levels room, min (levels - room) room, min (levels - 2 * room) room,
      levels - 3 * room, by omega, by omega, by omega, by omega, by omega⟩
  have hmul : BinaryOp.mul ∈ Level.product.operators := by decide
  have hadd : BinaryOp.add ∈ Level.sum.operators := by decide
  have heq : BinaryOp.eq ∈ comparisons := by decide
  obtain ⟨calls, hcalls⟩ := exists_applications a (d + 1) (show d + 1 + a ≤ limit by omega)
  obtain ⟨products, hproducts⟩ :=
    exists_operations hmul b (d + 1) (show d + 1 + b ≤ limit by omega)
  obtain ⟨sums, hsums⟩ := exists_operations hadd c (d + 1) (show d + 1 + c ≤ limit by omega)
  have happlied := Applied.mk h hcalls
  have hproduct := Chain.mk (.signed (.applied happlied)) hproducts
  have hsum := Chain.mk (.product hproduct) hsums
  have hpos := height_pos e
  rcases Nat.lt_or_eq_of_le hlast with hlast | rfl
  · refine ⟨_, _, .single (by omega) hsum, ?_⟩
    rw [height_leanLeft_replicate, height_leanLeft_replicate, height_applyAll_replicate]
    omega
  · refine ⟨_, _, .compare (by omega) heq hsum ((Primary.int 0).operand .sum).chain, ?_⟩
    rw [Expr.height, Expr.height, height_leanLeft_replicate, height_leanLeft_replicate,
      height_applyAll_replicate]
    omega

/-- There are primaries of every height up to the greatest. -/
lemma exists_primary {room d n : ℕ} (h : d + room = limit) (hpos : 0 < n)
    (hn : n ≤ primaryHeight room) : ∃ ts e, Primary limit d ts e ∧ e.height = n := by
  induction room generalizing d n with
  | zero => exact ⟨_, _, .int 0, by rw [primaryHeight] at hn; rw [Expr.height]; omega⟩
  | succ room ih =>
      rcases Nat.lt_or_ge 1 n with hone | hone
      · -- what a primary with less room does not reach, operators have to add
        have hle : min (n - 1) (primaryHeight room) ≤ primaryHeight room := by omega
        have hpos' := primaryHeight_pos room
        rw [primaryHeight] at hn
        have hroom : d + 1 + room = limit := by omega
        obtain ⟨ts, e, he, hheight⟩ := ih hroom (by omega) hle
        obtain ⟨us, e', he', hheight'⟩ := he.exists_expression hroom
          (show n - 1 - primaryHeight room ≤ 3 * room + 1 by omega)
        refine ⟨_, _, .list (.some (.last he')), ?_⟩
        rw [Expr.height, highest, highest, hheight', hheight]
        omega
      · exact ⟨_, _, .int 0, by rw [Expr.height]; omega⟩

/-! ### Lines -/

/-- Tokens at the columns one, two, and so on. -/
def placed (ts : List Token) : List PlacedToken := ts.mapIdx fun i t => ⟨t, i + 1⟩

lemma words_placed (ts : List Token) : words (placed ts) = ts := by
  refine List.ext_getElem? fun i => ?_
  simp [words, placed, Function.comp_def]

/-- The greatest height of a line. -/
lemma Line.height_le {ts : List Token} {s : Statement} (h : Line maxDepth ts s) :
    s.body.height ≤ 98432 := by
  have hmax : primaryHeight maxDepth = 98433 := by
    have htwo := two_mul_primaryHeight maxDepth
    simp only [maxDepth] at htwo ⊢
    omega
  cases h with
  | expr h | assign _ h =>
      have hlt := h.height_lt
      rw [Nat.sub_zero, hmax] at hlt
      exact Nat.le_of_lt_succ hlt

/-- Every height up to the greatest one is that of a line. -/
lemma exists_line {n : ℕ} (hpos : 0 < n) (hn : n ≤ 98432) :
    ∃ ts e, Line maxDepth ts (.expr e) ∧ e.height = n := by
  have hroom : 0 + 1 + 255 = maxDepth := rfl
  have htwo := two_mul_primaryHeight 255
  have hpos' := primaryHeight_pos 255
  obtain ⟨ts, e, he, hheight⟩ := exists_primary (n := min n (primaryHeight 255)) hroom (by omega)
    (by omega)
  obtain ⟨us, e', he', hheight'⟩ := he.exists_expression hroom
    (show n - primaryHeight 255 ≤ 3 * 255 + 1 by omega)
  exact ⟨us, e', .expr he', by omega⟩

/-- **The heights of accepted lines** are all numbers from 1 to 98432. The limit of 256 is one of
the count, which stays below the height of a tree where operators follow an operand or argument
lists follow a callee. -/
theorem exists_height_eq_iff (n : ℕ) :
    (∃ tokens s, parse tokens = .ok s ∧ s.body.height = n) ↔ 1 ≤ n ∧ n ≤ 98432 := by
  constructor
  · rintro ⟨tokens, s, hs, rfl⟩
    exact ⟨height_pos _, (parse_eq_ok_iff.mp hs).height_le⟩
  · rintro ⟨hpos, hn⟩
    obtain ⟨ts, e, hline, hheight⟩ := exists_line hpos hn
    refine ⟨placed ts, .expr e, parse_eq_ok_iff.mpr ?_, hheight⟩
    rwa [words_placed]

/-- An expression behind minus signs. -/
def negated (n : ℕ) (e : Expr) : Expr := Expr.neg^[n] e

/-- A number behind as many minus signs as levels are left. -/
lemma signed_replicate {n d : ℕ} (h : d + n ≤ limit) :
    Signed limit d (List.replicate n .minus ++ [.int 1]) (negated n (.int 1)) := by
  induction n generalizing d with
  | zero => exact .applied (.mk (.int 1) .nil)
  | succ n ih =>
      rw [List.replicate_succ, List.cons_append, negated, Function.iterate_succ_apply']
      exact .minus (by omega) (ih (by omega))

/-- Each sign adds one to the height. -/
lemma height_negated (n : ℕ) (e : Expr) : (negated n e).height = e.height + n := by
  induction n with
  | zero => rfl
  | succ n ih =>
      rw [negated, Function.iterate_succ_apply', Expr.height, ← negated, ih]
      omega

/-- As many minus signs as the count has room for are forgotten at the operator behind them: a sum
of a signed number and another is accepted at a height of 257. -/
theorem parse_sum_of_negated :
    parse (placed (List.replicate 255 .minus ++ [.int 1, .plus, .int 1])) =
        .ok (.expr (.binary .add (negated 255 (.int 1)) (.int 1))) ∧
      (Expr.binary .add (negated 255 (.int 1)) (.int 1)).height = 257 := by
  constructor
  · have hadd : BinaryOp.add ∈ Level.sum.operators := by decide
    have hsigned := signed_replicate (show 1 + 255 ≤ maxDepth from le_rfl)
    have hfirst := Operand.product (Operand.signed hsigned).chain
    have hsum := Chain.mk hfirst (.cons (by decide) hadd ((Primary.int 1).operand .sum) .nil)
    rw [List.append_assoc] at hsum
    rw [parse_eq_ok_iff, words_placed]
    exact .expr (.single (by decide) hsum)
  · rw [Expr.height, height_negated, Expr.height]
    rfl

end Grammar

end LineRepl.Calc
