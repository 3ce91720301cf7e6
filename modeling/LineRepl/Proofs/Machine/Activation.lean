/-
Calls of the parser, one step after another.

A call of a rule is an activation. It runs until it calls another rule, and goes on when that one
has returned; the activations that wait are kept in a stack, each with the place where it was
entered and what it still has to do. So the parser does not recurse here, and every moment between
two calls can be looked at.

* `Rule`, `Pending`: the rules, and what an activation is waiting for.
* `begin`, `resume`: what an activation does from its entry, or from a return, to its next call.
* `next`: one step of the parser, with the stack of activations.
* `Balanced`: each activation waits at the nesting of its entry and its own levels.
* `balanced_of_reaches`: all moments of all runs are balanced.
* `Moment`: what is said of a moment.
-/
import LineRepl.Proofs.Machine.Parser
import Mathlib.Logic.Relation

namespace LineRepl.Calc.Calls

open Machine (Place peek)

/-! ### Rules -/

/-- The rules that call one another. -/
inductive Rule where
  | expr
  | chain (level : Level)
  | unary
  | applied
  | args (b : Bracket)
  | primary
  deriving DecidableEq

/-- The rule for an operand of a level. -/
def operandRule : Level → Rule
  | .sum => .chain .product
  | .product => .unary

/-- What an activation is waiting for, with what it has so far. -/
inductive Pending where
  /-- The sum that an expression begins with. -/
  | left
  /-- The sum behind a comparison. -/
  | right (op : BinaryOp) (left : Expr)
  /-- The operand that a chain begins with. -/
  | first (level : Level)
  /-- The operand behind an operator of a chain. -/
  | next (level : Level) (left : Expr) (op : BinaryOp) (levels : ℕ)
  /-- The operand behind a minus sign. -/
  | signed
  /-- An operand without a sign. -/
  | unsigned
  /-- The primary that a call begins with. -/
  | callee
  /-- The arguments of a call. -/
  | arguments (callee : Expr) (levels : ℕ)
  /-- An item behind others. -/
  | item (b : Bracket) (done : List Expr)
  /-- The expression in parentheses. -/
  | inside
  /-- The items of a list. -/
  | members

namespace Pending

/-- The rule that has been called. -/
def called : Pending → Rule
  | .left | .right .. => .chain .sum
  | .first level | .next level .. => operandRule level
  | .signed => .unary
  | .unsigned => .applied
  | .callee => .primary
  | .arguments .. => .args .paren
  | .item .. | .inside => .expr
  | .members => .args .square

/-- The levels of nesting that the activation has added so far. -/
def levels : Pending → ℕ
  | .left | .right .. | .signed => 1
  | .next _ _ _ levels | .arguments _ levels => levels
  | .first _ | .unsigned | .callee | .item .. | .inside | .members => 0

/-- The activation is one of an expression, or it waits for the operand of a minus sign. Others do
not count. -/
def nested : Pending → ℕ
  | .left | .right .. | .signed => 1
  | .next .. | .arguments .. | .first _ | .unsigned | .callee | .item .. | .inside | .members => 0

/-- Of the calls that wait, those that nest take a level each. -/
lemma nested_le_levels (p : Pending) : p.nested ≤ p.levels := by
  cases p <;> first | exact Nat.le_refl _ | exact Nat.zero_le _

end Pending

/-! ### Activations -/

/-- What a rule returns: a tree, or several. -/
inductive Answer where
  | one (e : Expr)
  | many (es : List Expr)

/-- How an activation leaves off: it calls a rule, answers, or refuses the tokens; or it takes more
levels off the nesting than there are. -/
inductive Move where
  | call (pending : Pending)
  | answer (a : Answer)
  | refuse (e : SyntaxError)
  | crash

section

variable (tokens : List PlacedToken)

/-- The place behind the next token. -/
def forward (s : Place) : Place := { s with pos := s.pos + 1 }

/-- Adds a level of nesting and goes on, if there may be one more. -/
def descend (s : Place) (go : Place → Move × Place) : Move × Place :=
  let deeper : Place := { s with depth := s.depth + 1 }
  if maxDepth < deeper.depth then
    (.refuse ⟨.nestedTooDeeply, ((peek tokens s).map (·.column)).getD (endColumn tokens)⟩, deeper)
  else go deeper

/-- Answers a tree with the levels of nesting taken off. -/
def ascend (levels : ℕ) (e : Expr) (s : Place) : Move × Place :=
  if levels ≤ s.depth then (.answer (.one e), { s with depth := s.depth - levels })
  else (.crash, s)

/-- Answers if the next token closes the bracket. -/
def expect (b : Bracket) (a : Answer) (s : Place) : Move × Place :=
  match peek tokens s with
  | none => (.refuse ⟨.expectedClose b, endColumn tokens⟩, s)
  | some t =>
    if t.token = b.close then (.answer a, forward s)
    else (.refuse ⟨.expectedClose b, t.column⟩, forward s)

/-- An expression, where its comparison is due. -/
def compareOn (left : Expr) (s : Place) : Move × Place :=
  match (peek tokens s).bind (comparison? ·.token) with
  | none => ascend 1 left s
  | some op => (.call (.right op left), forward s)

/-- The loop over operators and operands, where an operator is due. -/
def chainOn (level : Level) (left : Expr) (levels : ℕ) (s : Place) : Move × Place :=
  match (peek tokens s).bind (level.operator? ·.token) with
  | none => ascend levels left s
  | some op => descend tokens s fun s => (.call (.next level left op (levels + 1)), forward s)

/-- The loop over argument lists, where one is due. -/
def appliedOn (callee : Expr) (levels : ℕ) (s : Place) : Move × Place :=
  if (peek tokens s).map (·.token) = some .openParen then
    descend tokens s fun s => (.call (.arguments callee (levels + 1)), forward s)
  else ascend levels callee s

/-- The loop over items, where a comma is due. -/
def itemsOn (b : Bracket) (done : List Expr) (s : Place) : Move × Place :=
  if (peek tokens s).map (·.token) = some .comma then (.call (.item b done), forward s)
  else expect tokens b (.many done) s

/-- An activation of a rule, from its entry on. -/
def begin (s : Place) : Rule → Move × Place
  | .expr => descend tokens s fun s => (.call .left, s)
  | .chain level => (.call (.first level), s)
  | .unary =>
    if (peek tokens s).map (·.token) = some .minus then
      descend tokens (forward s) fun s => (.call .signed, s)
    else (.call .unsigned, s)
  | .applied => (.call .callee, s)
  | .args b =>
    if (peek tokens s).map (·.token) = some b.close then (.answer (.many []), forward s)
    else (.call (.item b []), s)
  | .primary =>
    match peek tokens s with
    | none => (.refuse ⟨.unexpectedEnd, endColumn tokens⟩, s)
    | some t =>
      match leaf? t.token with
      | some e => (.answer (.one e), forward s)
      | none =>
        if t.token = .openParen then (.call .inside, forward s)
        else if t.token = .openBracket then (.call .members, forward s)
        else (.refuse ⟨.unexpectedToken t.token, t.column⟩, forward s)

/-- An activation that goes on with what it has been waiting for. -/
def resume (s : Place) : Pending → Answer → Option (Move × Place)
  | .left, .one left => some (compareOn tokens left s)
  | .right op left, .one right => some (ascend 1 (.binary op left right) s)
  | .first level, .one left => some (chainOn tokens level left 0 s)
  | .next level left op levels, .one right =>
    some (chainOn tokens level (.binary op left right) levels s)
  | .signed, .one inner => some (ascend 1 (.neg inner) s)
  | .unsigned, .one e => some (.answer (.one e), s)
  | .callee, .one callee => some (appliedOn tokens callee 0 s)
  | .arguments callee levels, .many arguments =>
    some (appliedOn tokens (.call callee arguments) levels s)
  | .item b done, .one e => some (itemsOn tokens b (done ++ [e]) s)
  | .inside, .one inner => some (expect tokens .paren (.one inner) s)
  | .members, .many members => some (.answer (.one (.list members)), s)
  | _, _ => none

end

/-! ### Configurations -/

/-- An activation that is waiting: where it was entered, and what for. -/
structure Activation where
  entry : Place
  pending : Pending

/-- What is going on: a rule has been called, a call entered at some place has returned, or the run
has ended without an answer. -/
inductive Control where
  | called (rule : Rule)
  | returned (entry : Place) (a : Answer)
  | refused (e : SyntaxError)
  | crashed

/-- A moment of a run: what is going on and where, and the activations that are waiting, the last
one first. -/
structure Config where
  control : Control
  place : Place
  stack : List Activation

/-- The moment after an activation has left off. -/
def enact (entry : Place) (stack : List Activation) : Move × Place → Config
  | (.call p, s) => ⟨.called p.called, s, ⟨entry, p⟩ :: stack⟩
  | (.answer a, s) => ⟨.returned entry a, s, stack⟩
  | (.refuse e, s) => ⟨.refused e, s, stack⟩
  | (.crash, s) => ⟨.crashed, s, stack⟩

/-- One step of the parser. -/
def next (tokens : List PlacedToken) (c : Config) : Option Config :=
  match c.control, c.stack with
  | .called rule, stack => some (enact c.place stack (begin tokens c.place rule))
  | .returned _ a, top :: stack =>
    (resume tokens c.place top.pending a).map (enact top.entry stack)
  | _, _ => none

/-- The parser comes from one moment to another. -/
def Reaches (tokens : List PlacedToken) : Config → Config → Prop :=
  Relation.ReflTransGen fun c c' => next tokens c = some c'

/-- The name that a line assigns to, if it begins with one. -/
def assigned? (tokens : List PlacedToken) : Option String :=
  match tokens with
  | ⟨.ident name, _⟩ :: ⟨.assign, _⟩ :: _ => some name
  | _ => none

/-- The first moment: an expression has been called, behind the name that is assigned to. -/
def start (tokens : List PlacedToken) : Config :=
  ⟨.called .expr, ⟨if (assigned? tokens).isSome then 2 else 0, 0⟩, []⟩

/-- The statement that an expression is part of. -/
def wrap (tokens : List PlacedToken) (e : Expr) : Statement :=
  match assigned? tokens with
  | some name => .assign name e
  | none => .expr e

/-- The outcome of a run that has ended at the moment. Behind the expression no token may be
left. -/
def conclusion? (tokens : List PlacedToken) (c : Config) :
    Option (Except SyntaxError Statement) :=
  match c.control, c.stack with
  | .refused e, _ => some (.error e)
  | .returned _ (.one e), [] =>
    match peek tokens c.place with
    | some t => some (.error ⟨.unexpectedToken t.token, t.column⟩)
    | none => some (.ok (wrap tokens e))
  | _, _ => none

/-! ### One activation -/

/-- The fault is one of tokens, and none of the characters that they are made of. -/
def Syntactic : SyntaxFault → Prop
  | .unexpectedToken _ | .unexpectedEnd | .expectedClose _ | .nestedTooDeeply => True
  | .unexpectedCharacter _ | .integerTooLarge _ | .unterminatedString => False

/-- What an activation entered at `entry` may do. It calls at the nesting of its entry and the
levels it has added, and not before its entry; it answers at the nesting of its entry, further on;
it refuses the tokens for what is wrong with them; and it never takes off too many levels. -/
inductive Moves (tokens : List PlacedToken) (entry : Place) : Move × Place → Prop
  | call {p : Pending} {s : Place} (hdepth : s.depth = entry.depth + p.levels)
      (hmax : s.depth ≤ maxDepth) (hpos : entry.pos ≤ s.pos) (hlength : s.pos ≤ tokens.length) :
      Moves tokens entry (.call p, s)
  | answer {a : Answer} {s : Place} (hdepth : s.depth = entry.depth) (hpos : entry.pos < s.pos)
      (hlength : s.pos ≤ tokens.length) : Moves tokens entry (.answer a, s)
  | refuse {e : SyntaxError} {s : Place} (hmax : s.depth ≤ maxDepth + 1)
      (hfault : Syntactic e.fault) : Moves tokens entry (.refuse e, s)

section

variable {tokens : List PlacedToken} {entry s : Place} {levels : ℕ}

/-- Where a token is seen, there is one left. -/
lemma lt_length_of_peek {t : PlacedToken} (h : peek tokens s = some t) :
    s.pos < tokens.length :=
  (List.getElem?_eq_some_iff.mp h).1

lemma lt_length_of_map_peek {t : Token} (h : (peek tokens s).map (·.token) = some t) :
    s.pos < tokens.length := by
  obtain ⟨u, hu, -⟩ := Option.map_eq_some_iff.mp h
  exact lt_length_of_peek hu

lemma lt_length_of_bind_peek {f : PlacedToken → Option BinaryOp} {op : BinaryOp}
    (h : (peek tokens s).bind f = some op) : s.pos < tokens.length := by
  obtain ⟨u, hu, -⟩ := Option.bind_eq_some_iff.mp h
  exact lt_length_of_peek hu

/-- A level is entered if one is left. -/
lemma moves_descend {go : Place → Move × Place} (hmax : s.depth ≤ maxDepth)
    (hgo : s.depth + 1 ≤ maxDepth → Moves tokens entry (go { s with depth := s.depth + 1 })) :
    Moves tokens entry (descend tokens s go) := by
  rw [descend]
  split
  next => exact .refuse (Nat.succ_le_succ hmax) trivial
  next hle => exact hgo (Nat.le_of_not_lt hle)

/-- Levels are given back before the answer. -/
lemma moves_ascend (e : Expr) (hdepth : s.depth = entry.depth + levels) (hpos : entry.pos < s.pos)
    (hlength : s.pos ≤ tokens.length) : Moves tokens entry (ascend levels e s) := by
  rw [ascend, if_pos (hdepth ▸ Nat.le_add_left ..)]
  exact .answer (by simp only [hdepth, Nat.add_sub_cancel]) hpos hlength

/-- A bracket that is expected is read or missed. -/
lemma moves_expect (b : Bracket) (a : Answer) (hdepth : s.depth = entry.depth)
    (hmax : s.depth ≤ maxDepth) (hpos : entry.pos < s.pos) :
    Moves tokens entry (expect tokens b a s) := by
  rw [expect]
  split
  next => exact .refuse (Nat.le_succ_of_le hmax) trivial
  next t ht =>
    split
    · exact .answer hdepth (Nat.lt_succ_of_lt hpos) (lt_length_of_peek ht)
    · exact .refuse (Nat.le_succ_of_le hmax) trivial

/-- Behind a sum an expression compares or ends. -/
lemma moves_compareOn (left : Expr) (hdepth : s.depth = entry.depth + 1)
    (hmax : s.depth ≤ maxDepth) (hpos : entry.pos < s.pos) (hlength : s.pos ≤ tokens.length) :
    Moves tokens entry (compareOn tokens left s) := by
  rw [compareOn]
  split
  next => exact moves_ascend left hdepth hpos hlength
  next op hop =>
    exact .call hdepth hmax (Nat.le_of_lt (Nat.lt_succ_of_lt hpos)) (lt_length_of_bind_peek hop)

/-- Items go on at a comma. -/
lemma moves_itemsOn (b : Bracket) (done : List Expr) (hdepth : s.depth = entry.depth)
    (hmax : s.depth ≤ maxDepth) (hpos : entry.pos < s.pos) :
    Moves tokens entry (itemsOn tokens b done s) := by
  rw [itemsOn]
  split
  next hcomma =>
    exact .call hdepth hmax (Nat.le_of_lt (Nat.lt_succ_of_lt hpos)) (lt_length_of_map_peek hcomma)
  next => exact moves_expect b _ hdepth hmax hpos

/-- A loop that has added some levels takes them off at its end, or adds one more. -/
lemma moves_chainOn (level : Level) (left : Expr) (hdepth : s.depth = entry.depth + levels)
    (hmax : s.depth ≤ maxDepth) (hpos : entry.pos < s.pos) (hlength : s.pos ≤ tokens.length) :
    Moves tokens entry (chainOn tokens level left levels s) := by
  rw [chainOn]
  split
  next => exact moves_ascend left hdepth hpos hlength
  next op hop =>
    refine moves_descend hmax fun hle => .call ?_ hle (Nat.le_of_lt (Nat.lt_succ_of_lt hpos))
      (lt_length_of_bind_peek hop)
    simp only [forward, Pending.levels, hdepth, Nat.add_assoc]

/-- An operand is called as long as parentheses open. -/
lemma moves_appliedOn (callee : Expr) (hdepth : s.depth = entry.depth + levels)
    (hmax : s.depth ≤ maxDepth) (hpos : entry.pos < s.pos) (hlength : s.pos ≤ tokens.length) :
    Moves tokens entry (appliedOn tokens callee levels s) := by
  rw [appliedOn]
  split
  next hopen =>
    refine moves_descend hmax fun hle => .call ?_ hle (Nat.le_of_lt (Nat.lt_succ_of_lt hpos))
      (lt_length_of_map_peek hopen)
    simp only [forward, Pending.levels, hdepth, Nat.add_assoc]
  next => exact moves_ascend callee hdepth hpos hlength

/-- From its entry an activation does what it may. -/
lemma moves_begin (rule : Rule) (hmax : s.depth ≤ maxDepth) (hlength : s.pos ≤ tokens.length) :
    Moves tokens s (begin tokens s rule) := by
  have hle : s.pos ≤ s.pos := Nat.le_refl _
  cases rule with
  | expr => exact moves_descend hmax fun hmax' => .call rfl hmax' hle hlength
  | chain level => exact .call rfl hmax hle hlength
  | unary =>
      rw [begin]
      split
      next hminus =>
        exact moves_descend hmax fun hmax' =>
          .call rfl hmax' (Nat.le_succ _) (lt_length_of_map_peek hminus)
      next => exact .call rfl hmax hle hlength
  | applied => exact .call rfl hmax hle hlength
  | args b =>
      rw [begin]
      split
      next hclose => exact .answer rfl (Nat.lt_succ_self _) (lt_length_of_map_peek hclose)
      next => exact .call rfl hmax hle hlength
  | primary =>
      rw [begin]
      split
      next => exact .refuse (Nat.le_succ_of_le hmax) trivial
      next t ht =>
        have hbehind := lt_length_of_peek ht
        split
        next => exact .answer rfl (Nat.lt_succ_self _) hbehind
        next =>
          split_ifs
          · exact .call rfl hmax (Nat.le_succ _) hbehind
          · exact .call rfl hmax (Nat.le_succ _) hbehind
          · exact .refuse (Nat.le_succ_of_le hmax) trivial

/-- From a return an activation does what it may, if the return left the nesting as it was and was
further on. -/
lemma moves_resume {p : Pending} {a : Answer} {r : Move × Place}
    (hdepth : s.depth = entry.depth + p.levels) (hmax : s.depth ≤ maxDepth)
    (hpos : entry.pos < s.pos) (hlength : s.pos ≤ tokens.length)
    (h : resume tokens s p a = some r) : Moves tokens entry r := by
  cases p <;> cases a <;> cases h
  case left.one left => exact moves_compareOn left hdepth hmax hpos hlength
  case right.one op left right => exact moves_ascend _ hdepth hpos hlength
  case first.one level left => exact moves_chainOn level left hdepth hmax hpos hlength
  case next.one level left op levels right => exact moves_chainOn level _ hdepth hmax hpos hlength
  case signed.one inner => exact moves_ascend _ hdepth hpos hlength
  case unsigned.one e => exact .answer hdepth hpos hlength
  case callee.one callee => exact moves_appliedOn callee hdepth hmax hpos hlength
  case arguments.many callee levels arguments =>
    exact moves_appliedOn _ hdepth hmax hpos hlength
  case item.one b done e => exact moves_itemsOn b _ hdepth hmax hpos
  case inside.one inner => exact moves_expect _ _ hdepth hmax hpos
  case members.many members => exact .answer hdepth hpos hlength

end

/-! ### All activations -/

/-- A call can have been entered at the place while the activations wait. Each of them waits at the
nesting of its entry and the levels it has added, and not before its entry; there is no nesting
around the first one. -/
inductive Stacked : List Activation → Place → Prop
  | bottom {s : Place} (hdepth : s.depth = 0) : Stacked [] s
  | push {entry s : Place} {p : Pending} {stack : List Activation} (below : Stacked stack entry)
      (hdepth : s.depth = entry.depth + p.levels) (hpos : entry.pos ≤ s.pos) :
      Stacked (⟨entry, p⟩ :: stack) s

/-- How many activations of expressions and operands of minus signs there are among those that
wait. -/
def nesting : List Activation → ℕ
  | [] => 0
  | activation :: rest => activation.pending.nested + nesting rest

/-- Each of them has added a level of nesting. -/
lemma Stacked.nesting_le {stack : List Activation} {s : Place} (h : Stacked stack s) :
    nesting stack ≤ s.depth := by
  induction h with
  | bottom => exact Nat.zero_le _
  | @push entry s p stack below hdepth hpos ih =>
      have hp := p.nested_le_levels
      have hcons : nesting (⟨entry, p⟩ :: stack) = p.nested + nesting stack := rfl
      omega

/-- What is going on fits the activations that are waiting. -/
inductive Balanced (tokens : List PlacedToken) : Config → Prop
  | called {rule : Rule} {s : Place} {stack : List Activation} (hstack : Stacked stack s)
      (hmax : s.depth ≤ maxDepth) (hlength : s.pos ≤ tokens.length) :
      Balanced tokens ⟨.called rule, s, stack⟩
  | returned {entry s : Place} {a : Answer} {stack : List Activation} (hstack : Stacked stack entry)
      (hmax : entry.depth ≤ maxDepth) (hdepth : s.depth = entry.depth) (hpos : entry.pos < s.pos)
      (hlength : s.pos ≤ tokens.length) : Balanced tokens ⟨.returned entry a, s, stack⟩
  | refused {e : SyntaxError} {entry s : Place} {stack : List Activation}
      (hstack : Stacked stack entry) (hentry : entry.depth ≤ maxDepth)
      (hmax : s.depth ≤ maxDepth + 1) (hfault : Syntactic e.fault) :
      Balanced tokens ⟨.refused e, s, stack⟩

section

variable {tokens : List PlacedToken} {c c' : Config}

/-- A good move leaves the stack balanced. -/
lemma balanced_enact {entry : Place} {stack : List Activation} {r : Move × Place}
    (hstack : Stacked stack entry) (hmax : entry.depth ≤ maxDepth) (h : Moves tokens entry r) :
    Balanced tokens (enact entry stack r) := by
  cases h with
  | call hdepth hmax' hpos hlength => exact .called (hstack.push hdepth hpos) hmax' hlength
  | answer hdepth hpos hlength => exact .returned hstack hmax hdepth hpos hlength
  | refuse hmax' hfault => exact .refused hstack hmax hmax' hfault

/-- A step leaves the moment balanced. -/
lemma Balanced.next (hc : Balanced tokens c) (h : next tokens c = some c') :
    Balanced tokens c' := by
  cases hc with
  | called hstack hmax hlength =>
      cases h
      exact balanced_enact hstack hmax (moves_begin _ hmax hlength)
  | returned hstack hmax hdepth hpos hlength =>
      cases hstack with
      | bottom => exact nomatch h
      | @push around entry p stack below hwait hafter =>
          obtain ⟨r, hr, rfl⟩ := Option.map_eq_some_iff.mp h
          have hmoves := moves_resume (hdepth.trans hwait) (hdepth ▸ hmax)
            (Nat.lt_of_le_of_lt hafter hpos) hlength hr
          have haround : around.depth ≤ maxDepth :=
            Nat.le_trans (hwait ▸ Nat.le_add_right ..) hmax
          exact balanced_enact below haround hmoves
  | refused => exact nomatch h

lemma two_le_length_of_assigned? {name : String} (h : assigned? tokens = some name) :
    2 ≤ tokens.length := by
  rw [assigned?.eq_def] at h
  split at h
  · exact Nat.le_add_left ..
  · exact nomatch h

/-- The parser begins balanced. -/
lemma balanced_start (tokens : List PlacedToken) : Balanced tokens (start tokens) := by
  refine .called (.bottom rfl) (Nat.zero_le _) ?_
  rcases hname : assigned? tokens with _ | name
  · exact Nat.zero_le _
  · exact two_le_length_of_assigned? hname

/-- All moments of a run are balanced. -/
theorem balanced_of_reaches (h : Reaches tokens (start tokens) c) : Balanced tokens c := by
  induction h with
  | refl => exact balanced_start tokens
  | tail _ hstep ih => exact ih.next hstep

/-! ### What is said of a moment -/

/-- How many activations there are of expressions and operands of minus signs, with the one that has
just been called. -/
def Config.nested (c : Config) : ℕ :=
  nesting c.stack + match c.control with
    | .called .expr => 1
    | _ => 0

/-- The nesting is at most one above the limit, and so is the number of activations that are nested;
no levels are taken off that are not there; and a call that returns leaves the nesting as it was at
its entry, and is further on. -/
structure Moment (tokens : List PlacedToken) (c : Config) : Prop where
  depth_le : c.place.depth ≤ maxDepth + 1
  not_crashed : c.control ≠ .crashed
  returned : ∀ entry a, c.control = .returned entry a →
    c.place.depth = entry.depth ∧ entry.pos < c.place.pos ∧ c.place.pos ≤ tokens.length
  nested_le : c.nested ≤ maxDepth + 1

/-- One activation more than those that wait is at work. -/
lemma Config.nested_le_of_nesting_le (h : nesting c.stack ≤ maxDepth) :
    c.nested ≤ maxDepth + 1 := by
  rw [Config.nested]
  split
  · exact Nat.succ_le_succ h
  · exact Nat.le_succ_of_le h

/-- What is balanced is within the bounds. -/
lemma Balanced.moment (h : Balanced tokens c) : Moment tokens c := by
  cases h with
  | called hstack hmax hlength =>
      exact ⟨Nat.le_succ_of_le hmax, nofun, nofun,
        Config.nested_le_of_nesting_le (Nat.le_trans hstack.nesting_le hmax)⟩
  | returned hstack hmax hdepth hpos hlength =>
      refine ⟨Nat.le_succ_of_le (hdepth ▸ hmax), nofun, ?_,
        Config.nested_le_of_nesting_le (Nat.le_trans hstack.nesting_le hmax)⟩
      rintro entry a ⟨⟩
      exact ⟨hdepth, hpos, hlength⟩
  | refused hstack hentry hmax hfault =>
      exact ⟨hmax, nofun, nofun,
        Config.nested_le_of_nesting_le (Nat.le_trans hstack.nesting_le hentry)⟩

end

end LineRepl.Calc.Calls
