/-
Values that the engines that are always there make.

They make no objects, and their streams are those of integers, in which no item is broken.

* `Value.Homemade`: the value, its items and its streams are made by these engines.
* `Value.Homemade.mono`: it is so as long as streams are only added to the store.
* `Calc.homemade_eval`: expressions have homemade values where names have.
* `EngineTable.homemade_eval`: so have all lines, and they leave homemade values in the workspace.
-/
import LineRepl.Proofs.Bindings
import LineRepl.Proofs.Pulling

namespace LineRepl

open Store (PullsNone)

/-! ### Streams and values -/

/-- The stream is one that a call makes. It may have been pulled from. -/
def Stream.Homemade (s : Stream) : Prop :=
  s.item = naturals.item ∨ ∃ first bound, s.item = (range first bound).item

/-- No item of such a stream is broken. -/
lemma Stream.Homemade.ne_broken {s : Stream} (h : s.Homemade) (i : ℕ) (p : Panic) :
    s.item i ≠ some (.broken p) := by
  obtain h | ⟨first, bound, h⟩ := h
  · rw [h]
    rintro ⟨⟩
  · rw [h, range, start]
    simp only
    split <;> rintro ⟨⟩

/-- The value is one that the engines make. Its streams are in the store. -/
inductive Value.Homemade (store : Store) : Value → Prop
  | bool (b : Bool) : Homemade store (.bool b)
  | int (n : Int64) : Homemade store (.int n)
  | float (x : Binary64) : Homemade store (.float x)
  | str (s : String) : Homemade store (.str s)
  | list {items : List Value} (hitems : ∀ v ∈ items, v.Homemade store) :
      Homemade store (.list items)
  | stream {handle : ℕ} (hhandle : handle < store.streams.size)
      (hstream : (store.stream handle).Homemade) : Homemade store (.stream handle)
  | function (f : NativeFunction) : Homemade store (.function f)

/-- Values of names are homemade. -/
def Workspace.Homemade (w : Workspace) : Prop :=
  ∀ name v, w.bindings.get? name = some v → v.Homemade w.store

section

variable {store store' : Store} {v : Value}

/-- A homemade value stays one, whatever streams are added. -/
lemma Value.Homemade.mono (h : v.Homemade store) (hstore : PullsNone store store') :
    v.Homemade store' := by
  induction h with
  | bool b => exact .bool b
  | int n => exact .int n
  | float x => exact .float x
  | str s => exact .str s
  | list hitems ih => exact .list ih
  | @stream handle hhandle hstream =>
      refine .stream (Nat.lt_of_lt_of_le hhandle hstore.size_le) ?_
      rwa [Stream.Homemade, hstore.item_eq handle hhandle]
  | function f => exact .function f

/-- A workspace stays homemade over a store that only grew. -/
lemma Workspace.Homemade.mono {w : Workspace} (h : w.Homemade) (hstore : PullsNone w.store store') :
    Workspace.Homemade { w with store := store' } :=
  fun name v hname => (h name v hname).mono hstore

/-- It stays so when a homemade value is bound. -/
lemma Workspace.Homemade.bind {w : Workspace} (h : w.Homemade) (name : String)
    (hv : v.Homemade w.store) : (w.bind name v).Homemade := by
  intro other u hother
  rw [Workspace.bind, Bindings.get?_set] at hother
  split at hother
  · obtain rfl := Option.some.inj hother
    exact hv
  · exact h other u hother

/-- A stream that is added has a homemade handle if it is homemade. -/
lemma homemade_insert (store : Store) {s : Stream} (h : s.Homemade) :
    (Value.stream (store.insert s).1).Homemade (store.insert s).2 := by
  have hstream : (store.insert s).2.stream (store.insert s).1 = s :=
    (Store.stream_insert ..).trans (if_pos rfl)
  refine .stream ?_ ?_
  · simp [Store.insert]
  · rwa [hstream]

/-- Functions make homemade values. -/
lemma NativeFunction.homemade_call {f : NativeFunction} {args : List Value}
    (h : f.call args store = .ok (v, store')) : v.Homemade store' := by
  cases f with
  | range =>
      obtain ⟨first, -, hfirst⟩ := exists_of_bind_eq_ok h
      obtain ⟨bound, -, hbound⟩ := exists_of_bind_eq_ok hfirst
      cases hbound
      exact homemade_insert store (.inr ⟨first, bound, rfl⟩)
  | naturals =>
      cases h
      exact homemade_insert store (.inl rfl)
  | len =>
      obtain ⟨u, -, hu⟩ := exists_of_bind_eq_ok h
      obtain ⟨n, hlength, hn⟩ := exists_of_bind_eq_ok hu
      cases hn
      cases u <;> cases hlength <;> exact .int _
  | str =>
      obtain ⟨u, -, hu⟩ := exists_of_bind_eq_ok h
      cases hu
      exact .str _

end

/-! ### Expressions -/

namespace Calc

variable {b : Bindings} {store store' : Store} {v u u' : Value} {op : BinaryOp}

lemma homemade_exactInt {n : ℤ} (h : exactInt n = .ok v) : v.Homemade store := by
  rw [exactInt] at h
  split at h <;> cases h
  exact .int _

lemma homemade_intBinary {m n : Int64} (h : intBinary op m n = .ok v) : v.Homemade store := by
  cases op with
  | add | sub | mul => exact homemade_exactInt h
  | div =>
      rw [intBinary] at h
      split_ifs at h
      · exact homemade_exactInt h
      · cases h
        exact .float _
  | rem =>
      rw [intBinary] at h
      split_ifs at h
      split at h
      · exact homemade_exactInt h
      · cases h
  | eq | ne | lt | le | gt | ge =>
      cases h
      exact .bool _

lemma homemade_floatBinary {x y : Binary64} (h : floatBinary op x y = .ok v) :
    v.Homemade store := by
  cases op with
  | div | rem =>
      rw [floatBinary] at h
      split_ifs at h
      cases h
      exact .float _
  | add | sub | mul =>
      cases h
      exact .float _
  | eq | ne | lt | le | gt | ge =>
      cases h
      exact .bool _

/-- Operators keep to homemade values. -/
lemma homemade_binary (hu : u.Homemade store) (hu' : u'.Homemade store)
    (h : binary op u u' = .ok v) : v.Homemade store := by
  rw [binary.eq_def] at h
  split at h
  · cases h
    exact .str _
  · cases h
    exact .str _
  · cases h
    cases hu with
    | list hxs =>
        cases hu' with
        | list hys => exact .list fun w hw => (List.mem_append.mp hw).elim (hxs w) (hys w)
  · cases h
    exact .bool _
  · cases h
    exact .bool _
  · exact homemade_intBinary h
  · rw [mixedBinary] at h
    split at h
    · exact homemade_floatBinary h
    · cases h

lemma homemade_negate (h : negate u = .ok v) : v.Homemade store := by
  cases u with
  | int n => exact homemade_exactInt h
  | float x =>
      cases h
      exact .float _
  | bool | str | list | stream | function | object => cases h

/-- What a name stands for is homemade, also if it is a function. -/
lemma homemade_lookup {name : String} (hb : Workspace.Homemade ⟨b, store⟩)
    (h : lookup b name = .ok v) : v.Homemade store := by
  rw [lookup] at h
  split at h
  next w hname => exact Except.ok.inj h ▸ hb name w hname
  next =>
    split_ifs at h
    · cases h
      exact .bool _
    · cases h
      exact .bool _
    · split at h <;> cases h
      exact .function _

mutual

/-- An expression has a homemade value where names have. -/
lemma homemade_eval {e : Expr} {store store' : Store} {v : Value}
    (hb : Workspace.Homemade ⟨b, store⟩) (h : e.eval b store = .ok (v, store')) :
    v.Homemade store' := by
  cases e with
  | int n =>
      rw [Expr.eval] at h
      cases h
      exact .int n
  | float x =>
      rw [Expr.eval] at h
      cases h
      exact .float x
  | str s =>
      rw [Expr.eval] at h
      cases h
      exact .str s
  | var name =>
      rw [Expr.eval] at h
      obtain ⟨hlookup, rfl⟩ := withStore_eq_ok h
      exact homemade_lookup hb hlookup
  | list items =>
      obtain ⟨values, hitems, rfl⟩ := exists_of_eval_list h
      exact .list (homemade_evalItems hb hitems)
  | neg e =>
      obtain ⟨u, -, hnegate⟩ := exists_of_eval_neg h
      exact homemade_negate hnegate
  | binary op left right =>
      obtain ⟨u, u', store₁, hleft, hright, hbinary⟩ := exists_of_eval_binary h
      have hb₁ := hb.mono (pullsNone_eval hleft)
      exact homemade_binary ((homemade_eval hb hleft).mono (pullsNone_eval hright))
        (homemade_eval hb₁ hright) hbinary
  | call function args =>
      obtain ⟨u, store₁, f, values, store₂, -, -, -, hcall⟩ := exists_of_eval_call h
      exact NativeFunction.homemade_call hcall

/-- So are the values of items. -/
lemma homemade_evalItems {es : List Expr} {store store' : Store} {values : List Value}
    (hb : Workspace.Homemade ⟨b, store⟩) (h : evalItems b es store = .ok (values, store')) :
    ∀ v ∈ values, v.Homemade store' := by
  cases es with
  | nil =>
      rw [evalItems] at h
      cases h
      exact fun v hv => nomatch hv
  | cons e rest =>
      obtain ⟨u, us, store₁, he, hrest, rfl⟩ := exists_of_evalItems_cons h
      refine List.forall_mem_cons.mpr ⟨(homemade_eval hb he).mono (pullsNone_evalItems hrest), ?_⟩
      exact homemade_evalItems (hb.mono (pullsNone_eval he)) hrest

end

/-- A line has a homemade value, and it binds no other. -/
lemma homemade_evalLine {line : String} {w : Workspace} (hw : w.Homemade) :
    (∀ v w', evalLine line w = (.value v, w') → v.Homemade w'.store) ∧
      (evalLine line w).2.Homemade := by
  rw [evalLine]
  split
  · exact ⟨by rintro _ _ ⟨⟩, hw⟩
  · exact ⟨by rintro _ _ ⟨⟩, hw⟩
  split
  · exact ⟨by rintro _ _ ⟨⟩, hw⟩
  next statement _ =>
    cases statement with
    | expr e =>
        rw [Statement.run]
        rcases heval : e.eval w.bindings w.store with (_ | _) | ⟨v, store⟩
        · exact ⟨by rintro _ _ ⟨⟩, hw⟩
        · exact ⟨by rintro _ _ ⟨⟩, hw⟩
        · refine ⟨?_, hw.mono (pullsNone_eval heval)⟩
          rintro _ _ ⟨⟩
          exact homemade_eval hw heval
    | assign name e =>
        rw [Statement.run]
        rcases heval : e.eval w.bindings w.store with (_ | _) | ⟨v, store⟩
        · exact ⟨by rintro _ _ ⟨⟩, hw⟩
        · exact ⟨by rintro _ _ ⟨⟩, hw⟩
        · exact ⟨by rintro _ _ ⟨⟩,
            (hw.mono (pullsNone_eval heval)).bind name (homemade_eval hw heval)⟩

end Calc

/-! ### Postfix lines -/

namespace Rpn

/-- A number as a value is homemade. -/
lemma homemade_toValue (store : Store) (x : Binary64) : (toValue x).Homemade store := by
  rw [toValue]
  split
  · split_ifs
    · exact .int _
    · exact .float _
  · exact .float _

/-- A word binds homemade values only. -/
lemma homemade_runWord {word : Text.Word} {stack stack' : List Binary64} {b b' : Bindings}
    {store : Store} (hb : Workspace.Homemade ⟨b, store⟩)
    (h : runWord word stack b = .ok (stack', b')) : Workspace.Homemade ⟨b', store⟩ := by
  revert h
  rw [runWord.eq_def]
  cases Instruction.ofText word.text with
  | push text =>
      simp only
      cases pushed text b <;> rintro ⟨⟩
      exact hb
  | store name =>
      rcases stack with _ | ⟨x, rest⟩ <;> rintro ⟨⟩
      exact hb.bind name (homemade_toValue store x)
  | div =>
      rcases stack with _ | ⟨y, _ | ⟨x, rest⟩⟩
      · exact nofun
      · exact nofun
      · simp only
        split_ifs <;> rintro ⟨⟩
        exact hb
  | add | sub | mul | dup | swap =>
      rcases stack with _ | ⟨y, _ | ⟨x, rest⟩⟩ <;> rintro ⟨⟩ <;> exact hb

/-- So do words, one after another. -/
lemma homemade_runWords {ws : List Text.Word} {stack : List Binary64} {b : Bindings}
    {store : Store} (hb : Workspace.Homemade ⟨b, store⟩) :
    Workspace.Homemade ⟨(runWords ws stack b).2, store⟩ := by
  induction ws generalizing stack b with
  | nil => exact hb
  | cons word rest ih =>
      rw [runWords]
      rcases hword : runWord word stack b with e | ⟨stack', b'⟩
      · exact hb
      · exact ih (homemade_runWord hb hword)

/-- A postfix line answers with a homemade value and keeps the workspace homemade. -/
lemma homemade_evalLine {line : String} {w : Workspace} (hw : w.Homemade) :
    (∀ v w', evalLine line w = (.value v, w') → v.Homemade w'.store) ∧
      (evalLine line w).2.Homemade := by
  refine ⟨fun v w' h => ?_, homemade_runWords hw⟩
  rw [evalLine] at h
  rcases hwords : runWords (Text.words line) [] w.bindings with
    ⟨_ | _ | ⟨x, rest⟩, bindings⟩ <;> rw [hwords] at h <;> cases h
  exact homemade_toValue w.store x

end Rpn

/-! ### Engines -/

/-- The engines that are always there are the two. -/
lemma EngineTable.eq_of_mem_builtin {e : Engine} (h : e ∈ builtin.engines) :
    e = Calc.engine ∨ e = Rpn.engine := by
  simpa only [builtin, register, empty, List.nil_append, List.cons_append, List.mem_cons,
    List.not_mem_nil, or_false] using h

/-- **Engines that are always there make homemade values of homemade ones**: the value of a line is
one, and so are the values of all names behind the line. -/
theorem EngineTable.homemade_eval {e : Engine} (he : e ∈ builtin.engines) (line : String)
    {w : Workspace} (hw : w.Homemade) :
    (∀ v w', e.eval line w = (.value v, w') → v.Homemade w'.store) ∧
      (e.eval line w).2.Homemade := by
  obtain rfl | rfl := eq_of_mem_builtin he
  · exact Calc.homemade_evalLine hw
  · exact Rpn.homemade_evalLine hw

end LineRepl
