/-
The wording of errors is one line.

Messages show characters of the line, names, the tokens that were read and the kinds of values.
Tokens are quoted there, and names and words are cut at blanks, so that a line feed that a text
stands for is shown nowhere.

* `Calc.oneLine_of_tokenize`, `Calc.oneLine_of_parse`, `Calc.oneLine_of_eval`: errors of expression
  lines, from reading the line to evaluating it.
* `Rpn.oneLine_of_runWords`: errors of postfix lines.
* `EngineTable.oneLine_of_eval`: what the engines that are always there answer.
* `Builtin.Refused.oneLine`: what the built-in commands refuse.
-/
import LineRepl.Proofs.Calc.Mention
import LineRepl.Proofs.Calc.Tokenization
import LineRepl.Proofs.Command
import LineRepl.Proofs.Homemade
import LineRepl.Proofs.Machine.Correspondence
import LineRepl.Proofs.Machine.Engines
import LineRepl.Proofs.OneLine
import LineRepl.Proofs.Rpn.Basic

namespace LineRepl

/-! ### Kinds -/

lemma Kind.oneLine_name {kind : Kind} (h : ∀ typeName, kind ≠ .object typeName) :
    OneLine kind.name := by
  cases kind with
  | object typeName => exact absurd rfl (h typeName)
  | bool | int | float | str | list | stream | function => decide

/-- The kind of a homemade value is named in one line. -/
lemma Value.Homemade.oneLine_kind {store : Store} {v : Value} (h : v.Homemade store) :
    OneLine v.kind.name :=
  Kind.oneLine_name fun typeName hkind => by cases h <;> cases hkind

lemma NativeFunction.oneLine_name (f : NativeFunction) : OneLine f.name := by
  cases f <;> decide

/-! ### Calls -/

/-- What fails in two steps fails in one of them. -/
lemma error_or_exists_of_bind_eq_error {ε α β : Type} {x : Except ε α} {f : α → Except ε β} {e : ε}
    (h : x >>= f = .error e) : x = .error e ∨ ∃ a, x = .ok a ∧ f a = .error e := by
  cases x with
  | error e' =>
      cases h
      exact .inl rfl
  | ok a => exact .inr ⟨a, rfl, h⟩

namespace NativeFunction

variable {args : List Value} {store : Store} {fault : CallFault}

/-- An argument that is no integer is named by its kind. -/
lemma oneLine_of_intArgument {index : ℕ} (hargs : ∀ v ∈ args, v.Homemade store)
    (h : intArgument args index = .error (.fault fault)) : OneLine fault.message := by
  rw [intArgument] at h
  split at h
  next => cases h
  next v _ hv =>
    cases h
    exact .append (by decide) (hargs v (List.mem_of_getElem? hv)).oneLine_kind
  next =>
    cases h
    exact .append (by decide) (oneLine_naturalText index)

/-- So is a value that has no length. -/
lemma oneLine_of_length {v : Value} (hv : v.Homemade store)
    (h : length v = .error (.fault fault)) : OneLine fault.message := by
  cases v with
  | str | list => cases h
  | bool | int | float | stream | function | object =>
      cases h
      exact .append (by decide) hv.oneLine_kind

/-- What is said of a call that fails. -/
lemma oneLine_of_call {f : NativeFunction} (hargs : ∀ v ∈ args, v.Homemade store)
    (h : f.call args store = .error (.fault fault)) : OneLine fault.message := by
  cases f with
  | range =>
      obtain hfirst | ⟨first, -, h⟩ := error_or_exists_of_bind_eq_error h
      · exact oneLine_of_intArgument hargs hfirst
      obtain hbound | ⟨bound, -, h⟩ := error_or_exists_of_bind_eq_error h
      · exact oneLine_of_intArgument hargs hbound
      · cases h
  | naturals => cases h
  | len =>
      obtain hsole | ⟨v, hv, h⟩ := error_or_exists_of_bind_eq_error h
      · cases args <;> cases hsole
      obtain hlength | ⟨n, -, h⟩ := error_or_exists_of_bind_eq_error h
      · refine oneLine_of_length (hargs v ?_) hlength
        cases args <;> cases hv
        exact List.mem_cons_self
      · cases h
  | str => cases args <;> cases h

end NativeFunction

namespace Calc

/-! ### Tokens -/

/-- A token is shown in one line, also if it is a string of several. -/
lemma Token.oneLine_debugText (t : Token) : OneLine t.debugText := by
  cases t with
  | int n => exact .append (.append (by decide) (oneLine_integerText _)) (by decide)
  | float x => exact .append (.append (by decide) (oneLine_toDebugText _)) (by decide)
  | str s | ident s => exact .append (.append (by decide) (oneLine_quoted _)) (by decide)
  | _ => decide

/-- Names are made of characters that the line feed is none of. -/
lemma Spells.oneLine_ident {cs : List Char} {name : String} (h : Spells cs (.ident name)) :
    OneLine name := by
  have hcontinue : Text.isNameContinue '\n' = false := by
    by_contra hc
    exact absurd (Text.isBlank_eq_false_of_isNameContinue (Bool.not_eq_false _ ▸ hc)) (by decide)
  cases h with
  | @ident c cs hstart hcs =>
      have hall : ∀ d ∈ c :: cs, Text.isNameContinue d = true :=
        List.forall_mem_cons.mpr ⟨Text.isNameContinue_of_isNameStart hstart, hcs⟩
      refine oneLine_of_forall hcontinue fun d hd => hall d ?_
      rwa [String.toList_ofList] at hd
  | symbol hmem => simp [symbols] at hmem
  | equality hmem => simp [equalitySymbols] at hmem

/-- A name of a line is one line. -/
lemma Splits.oneLine_ident {column : ℕ} {cs : List Char} {tokens : List PlacedToken}
    (h : Splits column cs tokens) {name : String} (hname : .ident name ∈ Grammar.words tokens) :
    OneLine name := by
  induction h with
  | gap => exact nomatch hname
  | lexeme _ ht _ _ ih =>
      rcases List.mem_cons.mp hname with rfl | hname
      · exact ht.oneLine_ident
      · exact ih hname

/-- The lexer tells its faults in one line. -/
lemma oneLine_of_scan {c : Char} {cs : List Char} {fault : SyntaxFault}
    (hc : Text.isBlank c = false) (h : scan c cs = .error fault) : OneLine fault.message := by
  have hinteger {digits : List Char} (hdigits : ∀ d ∈ digits, d.isDigit = true)
      (h : scanNumber.integer digits = .error fault) : OneLine fault.message := by
    rw [scanNumber.integer] at h
    split_ifs at h
    cases h
    refine .append (.append (by decide) ?_) (by decide)
    refine oneLine_of_forall (P := Char.isDigit) rfl fun d hd => hdigits d ?_
    rwa [String.toList_ofList] at hd
  rw [scan] at h
  split_ifs at h with hdigit hstart hquote
  · have hwhole : ∀ d ∈ c :: cs.takeWhile Char.isDigit, d.isDigit = true :=
      List.forall_mem_cons.mpr ⟨hdigit, fun _ => List.mem_takeWhile_imp⟩
    rw [scanNumber] at h
    simp only at h
    split at h
    · split_ifs at h
      exact hinteger hwhole h
    · exact hinteger hwhole h
  · cases hstring : scanString cs <;> rw [hstring] at h <;> cases h
    decide
  · cases hoperator : scanOperator c cs.head? <;> rw [hoperator] at h <;> cases h
    exact .append (.append (by decide) (oneLine_toString (ne_newline_of_isBlank hc))) (by decide)

/-- What is said of a line that has no tokens. -/
lemma oneLine_of_tokenize {line : String} {e : SyntaxError} (h : tokenize line = .error e) :
    OneLine e.fault.message := by
  have hfrom (column : ℕ) (cs : List Char) (h : tokenizeFrom column cs = .error e) :
      OneLine e.fault.message := by
    induction column, cs using tokens_induction with
    | nil column => cases (tokenizeFrom_nil column).symm.trans h
    | blank column c cs hc ih => exact ih (tokenizeFrom_blank hc ▸ h)
    | lexeme column cs rest t ht hstops ih =>
        rw [tokenizeFrom_lexeme ht hstops] at h
        cases hrest : tokenizeFrom (column + cs.length) rest <;> rw [hrest] at h <;> cases h
        exact ih hrest
    | fault column c cs fault hc hscan =>
        cases (tokenizeFrom_fault hc hscan).symm.trans h
        exact oneLine_of_scan hc hscan
  exact hfrom 1 line.toList h

/-- What is said of tokens that are no statement. -/
lemma oneLine_of_parse {tokens : List PlacedToken} {e : SyntaxError}
    (h : parse tokens = .error e) : OneLine e.fault.message := by
  have hfault := Calls.syntactic_of_parse_eq_error h
  cases hcase : e.fault with
  | unexpectedToken t => exact .append (by decide) t.oneLine_debugText
  | expectedClose b => cases b <;> decide
  | unexpectedEnd | nestedTooDeeply => decide
  | unexpectedCharacter | integerTooLarge | unterminatedString => exact (hcase ▸ hfault).elim

/-! ### Operators and names -/

section

variable {store store' : Store} {u v : Value} {fault : RuntimeFault}

lemma oneLine_of_exactInt {n : ℤ} (h : exactInt n = .error fault) : OneLine fault.message := by
  rw [exactInt] at h
  split at h <;> cases h
  decide

/-- Operators of integers tell their faults in one line. -/
lemma oneLine_of_intBinary {op : BinaryOp} {m n : Int64} (h : intBinary op m n = .error fault) :
    OneLine fault.message := by
  cases op with
  | add | sub | mul => exact oneLine_of_exactInt h
  | div =>
      rw [intBinary] at h
      split_ifs at h
      · cases h
        decide
      · exact oneLine_of_exactInt h
  | rem =>
      rw [intBinary] at h
      split_ifs at h
      · cases h
        decide
      · split at h
        · exact oneLine_of_exactInt h
        · cases h
          decide
  | eq | ne | lt | le | gt | ge => cases h

lemma oneLine_of_floatBinary {op : BinaryOp} {x y : Binary64}
    (h : floatBinary op x y = .error fault) : OneLine fault.message := by
  cases op with
  | div | rem =>
      rw [floatBinary] at h
      split_ifs at h
      cases h
      decide
  | add | sub | mul | eq | ne | lt | le | gt | ge => cases h

lemma BinaryOp.oneLine_name (op : BinaryOp) : OneLine op.name := by
  cases op <;> decide

/-- Operators name the kinds of their operands. -/
lemma oneLine_of_binary {op : BinaryOp} (hu : u.Homemade store) (hv : v.Homemade store)
    (h : binary op u v = .error fault) : OneLine fault.message := by
  rw [binary.eq_def] at h
  split at h
  · cases h
  · cases h
  · cases h
  · cases h
  · cases h
  · exact oneLine_of_intBinary h
  · rw [mixedBinary] at h
    split at h
    · exact oneLine_of_floatBinary h
    · cases h
      have hop : OneLine ("unsupported operand types for " ++ op.name ++ ": ") :=
        .append (.append (by decide) op.oneLine_name) (by decide)
      exact .append (.append (hop.append hu.oneLine_kind) (by decide)) hv.oneLine_kind

lemma oneLine_of_negate (hu : u.Homemade store) (h : negate u = .error fault) :
    OneLine fault.message := by
  cases u with
  | int n => exact oneLine_of_exactInt h
  | float x => cases h
  | bool | str | list | stream | function | object =>
      cases h
      exact .append (by decide) hu.oneLine_kind

/-- A name that is not bound is told in one line. -/
lemma oneLine_of_lookup {b : Bindings} {name : String} (hname : OneLine name)
    (h : lookup b name = .error fault) : OneLine fault.message := by
  rw [lookup] at h
  split at h
  next => cases h
  next =>
    split_ifs at h
    split at h <;> cases h
    exact .append (.append (by decide) hname) (by decide)

/-- What cannot be called is named by its kind. -/
lemma oneLine_of_callee {count : ℕ} (hu : u.Homemade store) (h : callee u count = .error fault) :
    OneLine fault.message := by
  cases u with
  | function f =>
      rw [callee] at h
      split_ifs at h
      cases h
      have htakes : OneLine (f.name ++ "() takes " ++ naturalText f.arity) :=
        .append (f.oneLine_name.append (by decide)) (oneLine_naturalText _)
      exact (htakes.append (by decide)).append (oneLine_naturalText _)
  | bool | int | float | str | list | stream | object =>
      cases h
      exact .append hu.oneLine_kind (by decide)

lemma oneLine_of_callFunction {f : NativeFunction} {args : List Value}
    (hargs : ∀ v ∈ args, v.Homemade store) (h : callFunction f args store = .error (.fault fault)) :
    OneLine fault.message := by
  rw [callFunction] at h
  rcases hcall : f.call args store with (_ | _) | _ <;> rw [hcall] at h <;> cases h
  exact .append (f.oneLine_name.append (by decide)) (NativeFunction.oneLine_of_call hargs hcall)

end

/-! ### Expressions -/

variable {b : Bindings}

lemma withStore_eq_error {store : Store} {r : Except RuntimeFault Value} {fault : RuntimeFault}
    (h : withStore store r = .error (.fault fault)) : r = .error fault := by
  cases r <;> cases h
  rfl

mutual

/-- What is said of an expression that has no value. -/
lemma oneLine_of_eval {e : Expr} {store : Store} {fault : RuntimeFault}
    (hb : Workspace.Homemade ⟨b, store⟩) (hnames : ∀ name ∈ e.names, OneLine name)
    (h : e.eval b store = .error (.fault fault)) : OneLine fault.message := by
  cases e with
  | int | float | str =>
      rw [Expr.eval] at h
      cases h
  | var name =>
      rw [Expr.eval] at h
      exact oneLine_of_lookup (hnames name List.mem_cons_self) (withStore_eq_error h)
  | list items =>
      rw [Expr.eval] at h
      rcases hitems : evalItems b items store with _ | ⟨values, store₁⟩ <;> rw [hitems] at h <;>
        cases h
      exact oneLine_of_evalItems hb hnames hitems
  | neg e =>
      have heNames : ∀ name ∈ e.names, OneLine name := hnames
      rw [Expr.eval] at h
      rcases he : e.eval b store with _ | ⟨u, store₁⟩ <;> rw [he] at h
      · exact oneLine_of_eval hb heNames (he.trans h)
      · exact oneLine_of_negate (homemade_eval hb he) (withStore_eq_error h)
  | binary op left right =>
      obtain ⟨hleftNames, hrightNames⟩ := List.forall_mem_append.mp hnames
      rw [Expr.eval] at h
      rcases hleft : left.eval b store with _ | ⟨u, store₁⟩ <;> rw [hleft] at h
      · exact oneLine_of_eval hb hleftNames (hleft.trans h)
      have hb₁ := hb.mono (pullsNone_eval hleft)
      simp only at h
      rcases hright : right.eval b store₁ with _ | ⟨v, store₂⟩ <;> rw [hright] at h
      · exact oneLine_of_eval hb₁ hrightNames (hright.trans h)
      · exact oneLine_of_binary ((homemade_eval hb hleft).mono (pullsNone_eval hright))
          (homemade_eval hb₁ hright) (withStore_eq_error h)
  | call function args =>
      obtain ⟨hfunctionNames, hargsNames⟩ := List.forall_mem_append.mp hnames
      rw [Expr.eval] at h
      rcases hfunction : function.eval b store with _ | ⟨u, store₁⟩ <;> rw [hfunction] at h
      · exact oneLine_of_eval hb hfunctionNames (hfunction.trans h)
      have hb₁ := hb.mono (pullsNone_eval hfunction)
      simp only at h
      rcases hcallee : callee u args.length with _ | f <;> rw [hcallee] at h
      · cases h
        exact oneLine_of_callee (homemade_eval hb hfunction) hcallee
      simp only at h
      rcases hvalues : evalItems b args store₁ with _ | ⟨values, store₂⟩ <;> rw [hvalues] at h
      · cases h
        exact oneLine_of_evalItems hb₁ hargsNames hvalues
      exact oneLine_of_callFunction (homemade_evalItems hb₁ hvalues) h

/-- So do items. -/
lemma oneLine_of_evalItems {es : List Expr} {store : Store} {fault : RuntimeFault}
    (hb : Workspace.Homemade ⟨b, store⟩) (hnames : ∀ name ∈ namesOfItems es, OneLine name)
    (h : evalItems b es store = .error (.fault fault)) : OneLine fault.message := by
  cases es with
  | nil =>
      rw [evalItems] at h
      cases h
  | cons e rest =>
      obtain ⟨heNames, hrestNames⟩ := List.forall_mem_append.mp hnames
      rw [evalItems] at h
      rcases he : e.eval b store with _ | ⟨u, store₁⟩ <;> rw [he] at h
      · cases h
        exact oneLine_of_eval hb heNames he
      simp only at h
      rcases hrest : evalItems b rest store₁ with _ | ⟨values, store₂⟩ <;> rw [hrest] at h <;>
        cases h
      exact oneLine_of_evalItems (hb.mono (pullsNone_eval he)) hrestNames hrest

end

/-! ### Lines -/

lemma oneLine_malformed {message : String} (h : OneLine message) (column : ℕ) :
    OneLine (EvalError.malformed message column).message :=
  .append (.append (h.append (by decide)) (oneLine_naturalText column)) (by decide)

/-- A statement tells its errors in one line. -/
lemma oneLine_of_run {statement : Statement} {w w' : Workspace} {e : EvalError}
    (hw : w.Homemade) (hnames : ∀ name ∈ statement.body.names, OneLine name)
    (h : statement.run w = (.error e, w')) : OneLine e.message := by
  cases statement with
  | expr x | assign name x =>
      rw [Statement.run] at h
      rcases heval : x.eval w.bindings w.store with (_ | _) | ⟨v, store⟩ <;> rw [heval] at h <;>
        cases h
      exact oneLine_of_eval hw hnames heval

/-- What is said of an expression line that fails. -/
lemma oneLine_of_evalLine {line : String} {w w' : Workspace} {e : EvalError} (hw : w.Homemade)
    (h : evalLine line w = (.error e, w')) : OneLine e.message := by
  rw [evalLine] at h
  split at h
  next htokens =>
    cases h
    exact oneLine_malformed (oneLine_of_tokenize htokens) _
  next => cases h
  next tokens _ htokens =>
    rcases hparse : parse tokens with _ | statement <;> rw [hparse] at h
    · cases h
      exact oneLine_malformed (oneLine_of_parse hparse) _
    · have hsplits : Splits 1 line.toList tokens := tokenizeFrom_eq_ok_iff.mp htokens
      exact oneLine_of_run hw (fun name hname => hsplits.oneLine_ident
        ((Grammar.parse_eq_ok_iff.mp hparse).ident_mem hname)) h

end Calc

/-! ### Postfix lines -/

namespace Rpn

/-- A word that runs out of operands is told in one line. -/
lemma oneLine_underflow {word : Text.Word} (h : OneLine word.text) :
    OneLine (underflow word).message :=
  Calc.oneLine_malformed (.append (.append (by decide) h) (by decide)) _

/-- So is a word that pushes nothing. -/
lemma oneLine_of_pushed {text : String} {w : Workspace} {e : EvalError} (hw : w.Homemade)
    (htext : OneLine text) (h : pushed text w.bindings = .error e) : OneLine e.message := by
  rw [pushed] at h
  split at h
  · cases h
  split at h
  next =>
    cases h
    exact .append (.append (by decide) htext) (by decide)
  next v hv =>
    split at h <;> cases h
    have hname : OneLine ("'" ++ text ++ "' is a ") :=
      .append (.append (by decide) htext) (by decide)
    exact .append (hname.append (hw text v hv).oneLine_kind) (by decide)

/-- A word tells its errors in one line. -/
lemma oneLine_of_runWord {word : Text.Word} {stack : List Binary64} {w : Workspace} {e : EvalError}
    (hw : w.Homemade) (hword : OneLine word.text) (h : runWord word stack w.bindings = .error e) :
    OneLine e.message := by
  have hunderflow := oneLine_underflow hword
  revert h
  rw [runWord.eq_def]
  cases hinstruction : Instruction.ofText word.text with
  | push text =>
      obtain rfl := eq_text_of_ofText hinstruction
      cases hpushed : pushed word.text w.bindings <;> simp only [hpushed] <;> rintro ⟨⟩
      exact oneLine_of_pushed hw hword hpushed
  | div =>
      rcases stack with _ | ⟨y, _ | ⟨x, rest⟩⟩
      · rintro ⟨⟩
        exact hunderflow
      · rintro ⟨⟩
        exact hunderflow
      · simp only
        split_ifs <;> rintro ⟨⟩
        decide
  | add | sub | mul | dup | swap | store =>
      rcases stack with _ | ⟨y, _ | ⟨x, rest⟩⟩ <;> rintro ⟨⟩ <;> exact hunderflow

/-- So do words, one after another. -/
lemma oneLine_of_runWords {ws : List Text.Word} {stack : List Binary64} {w : Workspace}
    {e : EvalError} (hw : w.Homemade) (hws : ∀ word ∈ ws, OneLine word.text)
    (h : (runWords ws stack w.bindings).1 = .error e) : OneLine e.message := by
  induction ws generalizing stack w with
  | nil => cases h
  | cons word rest ih =>
      obtain ⟨hword, hrest⟩ := List.forall_mem_cons.mp hws
      rw [runWords] at h
      rcases hrun : runWord word stack w.bindings with _ | ⟨stack', b'⟩ <;> rw [hrun] at h
      · cases h
        exact oneLine_of_runWord hw hword hrun
      · exact ih (w := ⟨b', w.store⟩) (homemade_runWord hw hrun) hrest h

/-- What is said of a postfix line that fails. -/
lemma oneLine_of_evalLine {line : String} {w w' : Workspace} {e : EvalError} (hw : w.Homemade)
    (h : evalLine line w = (.error e, w')) : OneLine e.message := by
  rw [evalLine] at h
  rcases hwords : runWords (Text.words line) [] w.bindings with
    ⟨_ | _ | ⟨x, rest⟩, bindings⟩ <;> rw [hwords] at h <;> cases h
  exact oneLine_of_runWords hw (fun _ => oneLine_of_mem_words) (congrArg Prod.fst hwords)

end Rpn

/-! ### Engines and commands -/

/-- Engines that are always there do not panic. -/
lemma EngineTable.eval_ne_panicked {e : Engine} (he : e ∈ builtin.engines) (line : String)
    (w : Workspace) (p : Panic) : (e.eval line w).1 ≠ .panicked p := by
  obtain rfl | rfl := eq_of_mem_builtin he
  · exact Machine.expression_ne_panicked line w p
  · exact Machine.postfix_ne_panicked line w p

/-- What is said of a line that fails. -/
lemma EngineTable.oneLine_of_eval {e : Engine} (he : e ∈ builtin.engines) {line : String}
    {w w' : Workspace} {error : EvalError} (hw : w.Homemade)
    (h : e.eval line w = (.error error, w')) : OneLine error.message := by
  obtain rfl | rfl := eq_of_mem_builtin he
  · exact Calc.oneLine_of_evalLine hw h
  · exact Rpn.oneLine_of_evalLine hw h

/-- What is wrong with a template is told in one line. -/
lemma Piece.oneLine_of_ofChars {position : ℕ} {cs : List Char} {e : TemplateError}
    (hcs : '\n' ∉ cs) (h : Piece.ofChars position cs = .error e) : OneLine e.fault.message := by
  induction position, cs using Piece.ofChars.induct with
  | case1 => cases h
  | case2 =>
      cases h
      exact (by decide : OneLine TemplateFault.danglingEscape.message)
  | case3 position d rest piece hpiece ih =>
      simp only [Piece.ofChars, if_true, hpiece] at h
      cases hrest : Piece.ofChars (position + 2) rest <;> rw [hrest] at h <;> cases h
      exact ih (fun hmem => hcs (List.mem_cons_of_mem _ (List.mem_cons_of_mem _ hmem))) hrest
  | case4 position d rest hpiece =>
      simp only [Piece.ofChars, if_true, hpiece] at h
      cases h
      have hd : d ≠ '\n' := by
        rintro rfl
        exact hcs (List.mem_cons_of_mem _ List.mem_cons_self)
      exact .append (.append (by decide) (oneLine_toString hd)) (by decide)
  | case5 position c rest hc ih =>
      have hofChars : Piece.ofChars position (c :: rest) =
          (Piece.ofChars (position + 1) rest).map (.char c :: ·) := by
        cases rest <;> exact if_neg hc
      rw [hofChars] at h
      cases hrest : Piece.ofChars (position + 1) rest <;> rw [hrest] at h <;> cases h
      exact ih (fun hmem => hcs (List.mem_cons_of_mem _ hmem)) hrest

/-- What is said of a template shows a character of it. -/
lemma Prompt.oneLine_of_compile {text : String} {e : TemplateError} (htext : OneLine text)
    (h : compile text = .error e) : OneLine e.fault.message := by
  rw [compile] at h
  cases hchars : Piece.ofChars 0 text.toList <;> rw [hchars] at h <;> cases h
  exact Piece.oneLine_of_ofChars htext hchars

/-- What is said of a command that is refused. -/
lemma Builtin.Refused.oneLine {engines : EngineTable} {named : CommandLine} {f : Failure}
    (h : Refused engines named f) (hnamed : ∀ argument ∈ named.argument, OneLine argument) :
    OneLine f.report := by
  cases h with
  | @template text e htext =>
      have hfault := Prompt.oneLine_of_compile (hnamed text rfl) htext
      exact .append (.append (.append (by decide) hfault) (by decide)) (oneLine_naturalText _)
  | noEngine | noName | zeroLimit => decide
  | unknownEngine => exact .append (by decide) (hnamed _ rfl).trim
  | @malformedLimit text =>
      exact .append (by decide) (.append (.append (by decide) (hnamed text rfl)) (by decide))

end LineRepl
