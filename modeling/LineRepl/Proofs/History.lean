/-
Bindings as what was done to them.

Whatever calls were made from empty bindings on, a name has the value that it was bound to last,
unless it was unbound since, and names are listed in the order in which they came to be bound.

* `Bindings.Call`: the calls that change bindings, and what they tell.
* `Bindings.Holds`: the value that calls left a name with.
* `Bindings.Since`: the call that a name has been bound from on.
* `Bindings.Recorded`: bindings whose values and order are those of the calls.
* `Bindings.chronicle_play`: all bindings that calls made are such bindings.
-/
import LineRepl.Proofs.Bindings
import Mathlib.Data.List.Nodup
import Mathlib.Data.Set.Card

namespace LineRepl.Bindings

/-! ### Names -/

/-- The names in the order of the entries. -/
def names (b : Bindings) : List String := b.entries.map Prod.fst

section

variable {b : Bindings} {name other : String} {v : Value}

lemma get?_eq_none_iff : b.get? name = none ↔ name ∉ b.names := by
  rw [get?, List.lookup_eq_none_iff, names, List.mem_map]
  constructor
  · rintro h ⟨entry, hentry, rfl⟩
    exact absurd (h entry hentry) (by simp)
  · intro h entry hentry
    rw [bne_iff_ne]
    rintro rfl
    exact h ⟨entry, hentry, rfl⟩

lemma mem_names_iff : name ∈ b.names ↔ ∃ v, b.get? name = some v := by
  rw [← Option.isSome_iff_exists, Option.isSome_iff_ne_none, Ne, get?_eq_none_iff, not_not]

/-- An entry of a name that has only one is its value. -/
lemma mem_entries_iff (h : b.names.Nodup) : (name, v) ∈ b.entries ↔ b.get? name = some v := by
  obtain ⟨entries⟩ := b
  rw [get?]
  induction entries with
  | nil => simp
  | cons entry rest ih =>
      obtain ⟨n, w⟩ := entry
      obtain ⟨hn, hrest⟩ := List.nodup_cons.mp h
      rw [List.mem_cons, List.lookup_cons]
      cases hname : name == n with
      | true =>
          obtain rfl := beq_iff_eq.mp hname
          have hnot : (name, v) ∉ rest := fun hmem => hn (List.mem_map.mpr ⟨_, hmem, rfl⟩)
          simp [hnot, eq_comm]
      | false =>
          have hne : name ≠ n := beq_eq_false_iff_ne.mp hname
          simp [hne, ih hrest]

/-! ### Calls that tell a value -/

/-- Binding a name tells the value it had. -/
lemma exchange_eq (b : Bindings) (name : String) (v : Value) :
    b.exchange name v = (b.get? name, b.set name v) := by
  refine Prod.ext ?_ rfl
  obtain ⟨entries⟩ := b
  have hentries : (exchangeEntry name v entries).1 = entries.lookup name := by
    induction entries with
    | nil => rfl
    | cons entry rest ih =>
        obtain ⟨n, w⟩ := entry
        rw [exchangeEntry, List.lookup_cons, ← ih, Bool.beq_comm (a := name)]
        cases n == name <;> rfl
  exact hentries

/-- Unbinding a name that has only one entry tells its value, and leaves the other entries. -/
lemma take_eq (h : b.names.Nodup) (name : String) :
    b.take name = (b.get? name, ⟨b.entries.filter fun entry => entry.1 != name⟩) := by
  obtain ⟨entries⟩ := b
  have hentries : takeEntry name entries =
      (entries.lookup name, entries.filter fun entry => entry.1 != name) := by
    induction entries with
    | nil => rfl
    | cons entry rest ih =>
        obtain ⟨n, w⟩ := entry
        obtain ⟨hn, hrest⟩ := List.nodup_cons.mp h
        rw [takeEntry, List.lookup_cons, List.filter_cons, ih hrest, Bool.beq_comm (a := name)]
        cases hname : n == name with
        | false => simp [bne, hname]
        | true =>
            obtain rfl := beq_iff_eq.mp hname
            have hothers : ∀ entry ∈ rest, (entry.1 != n) = true := by
              intro entry hentry
              rw [bne_iff_ne]
              rintro rfl
              exact hn (List.mem_map.mpr ⟨_, hentry, rfl⟩)
            simp [List.filter_eq_self.mpr hothers]
  rw [take, hentries]
  rfl

/-- Leaving out the entries of a name unbinds this name alone. -/
lemma lookup_filter_ne (name other : String) (entries : List (String × Value)) :
    (entries.filter fun entry => entry.1 != name).lookup other =
      if other = name then none else entries.lookup other := by
  induction entries with
  | nil => simp
  | cons entry rest ih =>
      obtain ⟨n, w⟩ := entry
      rw [List.filter_cons, List.lookup_cons]
      by_cases hn : n = name
      · subst hn
        simp only [bne_self_eq_false, Bool.false_eq_true, if_false, ih]
        split
        · rfl
        next hother => rw [beq_eq_false_iff_ne.mpr hother]
      · simp only [bne_iff_ne.mpr hn, if_true, List.lookup_cons, ih]
        cases hother : other == n with
        | false => rfl
        | true => exact (if_neg fun h => hn ((beq_iff_eq.mp hother).symm.trans h)).symm

/-- Unbinding a name leaves the values of all others. -/
lemma get?_remove (h : b.names.Nodup) (name other : String) :
    (b.remove name).get? other = if other = name then none else b.get? other := by
  rw [remove, take_eq h]
  exact lookup_filter_ne name other b.entries

/-- Unbinding a name leaves all others in their order. -/
lemma names_remove (h : b.names.Nodup) (name : String) :
    (b.remove name).names = b.names.filter (· != name) := by
  rw [remove, take_eq h, names, names, List.filter_map]
  rfl

/-- A bound name keeps its place, and any other comes after all that are bound. -/
lemma names_set (b : Bindings) (name : String) (v : Value) :
    (b.set name v).names = if name ∈ b.names then b.names else b.names ++ [name] := by
  have hset := rebound_set name v b
  generalize b.set name v = b' at hset
  cases hset with
  | replaced before after old => simp [names]
  | added hentries => simp [names, hentries]

end

/-! ### Calls -/

/-- The calls that change bindings. -/
inductive Call where
  | set (name : String) (v : Value)
  | setLastResult (v : Value)
  | remove (name : String)
  | clear

namespace Call

/-- What the call tells, and the bindings after it. -/
def run (call : Call) (b : Bindings) : Option Value × Bindings :=
  match call with
  | .set name v => b.exchange name v
  | .setLastResult v => (none, (b.exchange lastResult v).2)
  | .remove name => b.take name
  | .clear => (none, empty)

/-- The name that the call binds, with the value. -/
def binding? : Call → Option (String × Value)
  | .set name v => some (name, v)
  | .setLastResult v => some (lastResult, v)
  | .remove _ | .clear => none

/-- The call binds the name to the value. -/
def Binds (call : Call) (name : String) (v : Value) : Prop := call.binding? = some (name, v)

/-- The call unbinds the name, alone or with all others. -/
def Unbinds (call : Call) (name : String) : Prop :=
  match call with
  | .remove other => other = name
  | .clear => True
  | .set _ _ | .setLastResult _ => False

end Call

/-- The bindings that calls make of empty ones. -/
def play (calls : List Call) : Bindings := calls.foldl (fun b call => (call.run b).2) empty

/-- The last of the calls that bind the name binds it to the value, and none after it unbinds it. -/
def Holds (calls : List Call) (name : String) (v : Value) : Prop :=
  ∃ before call after, calls = before ++ call :: after ∧ call.Binds name v ∧
    ∀ later ∈ after, ¬later.Unbinds name ∧ ∀ w, ¬later.Binds name w

/-- Each of the calls that bind the name is followed by one that unbinds it. -/
def Undone (calls : List Call) (name : String) : Prop :=
  ∀ before call after v, calls = before ++ call :: after → call.Binds name v →
    ∃ later ∈ after, later.Unbinds name

/-- The call at the place is the first to bind the name since the last one that unbinds it. -/
def Since (calls : List Call) (name : String) (place : ℕ) : Prop :=
  ∃ before call after v, calls = before ++ call :: after ∧ before.length = place ∧
    call.Binds name v ∧ Undone before name ∧ ∀ later ∈ after, ¬later.Unbinds name

/-! ### One more call -/

section

variable {calls : List Call} {call : Call} {name other : String} {v : Value} {place : ℕ}

/-- A call that binds unbinds nothing. -/
lemma Call.Binds.not_unbinds (h : call.Binds name v) (other : String) : ¬call.Unbinds other := by
  cases call with
  | set | setLastResult => exact id
  | remove | clear => cases h

/-- A call binds no more than one name. -/
lemma Call.Binds.iff (h : call.Binds name v) {w : Value} :
    call.Binds other w ↔ other = name ∧ w = v := by
  rw [Binds, h, Option.some.injEq, Prod.mk.injEq, eq_comm, eq_comm (a := v)]

/-- The last element of a list comes behind any other that is picked out, or is the one. -/
lemma concat_eq_append_cons_iff {α : Type} {front before after : List α} {last x : α} :
    front ++ [last] = before ++ x :: after ↔
      (after = [] ∧ before = front ∧ x = last) ∨
        ∃ between, after = between ++ [last] ∧ front = before ++ x :: between := by
  constructor
  · intro h
    rcases List.eq_nil_or_concat after with rfl | ⟨between, y, rfl⟩
    · obtain ⟨rfl, hlast⟩ := List.append_inj' h rfl
      exact .inl ⟨rfl, rfl, (List.cons.inj hlast).1.symm⟩
    · rw [List.concat_eq_append, ← List.cons_append, ← List.append_assoc] at h
      obtain ⟨rfl, hlast⟩ := List.append_inj' h rfl
      rw [List.concat_eq_append, (List.cons.inj hlast).1]
      exact .inr ⟨between, rfl, rfl⟩
  · rintro (⟨rfl, rfl, rfl⟩ | ⟨between, rfl, rfl⟩) <;> simp

/-- A name holds what the last call binds it to, or what it held before if that call leaves it
alone. -/
lemma holds_concat : Holds (calls ++ [call]) name v ↔
    call.Binds name v ∨
      Holds calls name v ∧ ¬call.Unbinds name ∧ ∀ w, ¬call.Binds name w := by
  constructor
  · rintro ⟨before, last, after, hcalls, hlast, hafter⟩
    rcases concat_eq_append_cons_iff.mp hcalls with ⟨rfl, rfl, rfl⟩ | ⟨between, rfl, rfl⟩
    · exact .inl hlast
    · obtain ⟨hbetween, hcall⟩ := List.forall_mem_append.mp hafter
      exact .inr ⟨⟨before, last, between, rfl, hlast, hbetween⟩, hcall call (by simp)⟩
  · rintro (h | ⟨⟨before, last, after, rfl, hlast, hafter⟩, hcall⟩)
    · exact ⟨calls, call, [], rfl, h, by simp⟩
    · refine ⟨before, last, after ++ [call], by simp, hlast, ?_⟩
      exact List.forall_mem_append.mpr ⟨hafter, by simpa using hcall⟩

/-- A name is undone by the last call, or was so before and is not bound by it. -/
lemma undone_concat : Undone (calls ++ [call]) name ↔
    call.Unbinds name ∨ Undone calls name ∧ ∀ v, ¬call.Binds name v := by
  constructor
  · intro h
    by_cases hcall : call.Unbinds name
    · exact .inl hcall
    · refine .inr ⟨?_, fun v hv => ?_⟩
      · rintro before earlier after v rfl hearlier
        obtain ⟨later, hlater, hunbinds⟩ := h before earlier (after ++ [call]) v (by simp) hearlier
        rcases List.mem_append.mp hlater with hlater | hlater
        · exact ⟨later, hlater, hunbinds⟩
        · obtain rfl := List.mem_singleton.mp hlater
          exact absurd hunbinds hcall
      · obtain ⟨later, hlater, -⟩ := h calls call [] v rfl hv
        cases hlater
  · intro h before earlier after v hcalls hearlier
    rcases concat_eq_append_cons_iff.mp hcalls with ⟨rfl, rfl, rfl⟩ | ⟨between, rfl, rfl⟩
    · rcases h with hcall | ⟨-, hcall⟩
      · exact absurd hcall (hearlier.not_unbinds name)
      · exact absurd hearlier (hcall v)
    · rcases h with hcall | ⟨hundone, -⟩
      · exact ⟨call, by simp, hcall⟩
      · obtain ⟨later, hlater, hunbinds⟩ := hundone before earlier between v rfl hearlier
        exact ⟨later, List.mem_append_left _ hlater, hunbinds⟩

/-- A name keeps its place until it is unbound, and gets the next one when it is bound again. -/
lemma since_concat : Since (calls ++ [call]) name place ↔
    Since calls name place ∧ ¬call.Unbinds name ∨
      place = calls.length ∧ Undone calls name ∧ ∃ v, call.Binds name v := by
  constructor
  · rintro ⟨before, first, after, v, hcalls, rfl, hfirst, hundone, hafter⟩
    rcases concat_eq_append_cons_iff.mp hcalls with ⟨rfl, rfl, rfl⟩ | ⟨between, rfl, rfl⟩
    · exact .inr ⟨rfl, hundone, v, hfirst⟩
    · obtain ⟨hbetween, hcall⟩ := List.forall_mem_append.mp hafter
      exact .inl ⟨⟨before, first, between, v, rfl, rfl, hfirst, hundone, hbetween⟩,
        hcall call (by simp)⟩
  · rintro (⟨⟨before, first, after, v, rfl, rfl, hfirst, hundone, hafter⟩, hcall⟩ |
      ⟨rfl, hundone, v, hv⟩)
    · refine ⟨before, first, after ++ [call], v, by simp, rfl, hfirst, hundone, ?_⟩
      exact List.forall_mem_append.mpr ⟨hafter, by simpa using hcall⟩
    · exact ⟨calls, call, [], v, rfl, rfl, hv, hundone, by simp⟩

/-- A place is that of a call. -/
lemma Since.lt_length (h : Since calls name place) : place < calls.length := by
  obtain ⟨before, first, after, v, rfl, rfl, -⟩ := h
  simp

/-- A name that is bound from some call on is bound now. -/
lemma Since.not_undone (h : Since calls name place) : ¬Undone calls name := by
  obtain ⟨before, first, after, v, rfl, -, hfirst, -, hafter⟩ := h
  intro hundone
  obtain ⟨later, hlater, hunbinds⟩ := hundone before first after v rfl hfirst
  exact hafter later hlater hunbinds

/-- There is no more than one call that a name has been bound from on. -/
lemma Since.unique {place' : ℕ} (h : Since calls name place) (h' : Since calls name place') :
    place = place' := by
  induction calls using List.reverseRecOn with
  | nil => exact absurd h.lt_length (Nat.not_lt_zero _)
  | append_singleton calls call ih =>
      rcases since_concat.mp h with ⟨h, -⟩ | ⟨rfl, hundone, -⟩ <;>
        rcases since_concat.mp h' with ⟨h', -⟩ | ⟨rfl, hundone', -⟩
      · exact ih h h'
      · exact absurd hundone' h.not_undone
      · exact absurd hundone h'.not_undone
      · rfl

/-- Every name is undone or has its place. -/
lemma undone_or_since (calls : List Call) (name : String) :
    Undone calls name ∨ ∃ place, Since calls name place := by
  induction calls using List.reverseRecOn with
  | nil =>
      left
      intro before call after v hcalls
      simp at hcalls
  | append_singleton calls call ih =>
      simp only [undone_concat, since_concat]
      by_cases hunbinds : call.Unbinds name
      · exact .inl (.inl hunbinds)
      · rcases ih with hundone | ⟨place, hplace⟩
        · by_cases hcall : ∃ v, call.Binds name v
          · exact .inr ⟨_, .inr ⟨rfl, hundone, hcall⟩⟩
          · exact .inl (.inr ⟨hundone, not_exists.mp hcall⟩)
        · exact .inr ⟨place, .inl ⟨hplace, hunbinds⟩⟩

end

/-! ### Bindings that calls made -/

/-- The bindings are what the calls made of empty ones: every name has one entry, with the value
that the calls left it with, and the names are in the order in which they have been bound from one
of the calls on. -/
structure Recorded (calls : List Call) (b : Bindings) : Prop where
  nodup : b.names.Nodup
  value : ∀ name v, b.get? name = some v ↔ Holds calls name v
  bound : ∀ name, name ∈ b.names ↔ ∃ place, Since calls name place
  order : b.names.Pairwise fun first second =>
    ∀ i j, Since calls first i → Since calls second j → i < j

namespace Recorded

variable {calls : List Call} {call : Call} {b : Bindings} {name : String} {v : Value}

/-- No calls are recorded without bindings. -/
lemma empty : Recorded [] Bindings.empty where
  nodup := List.nodup_nil
  value name v := by simp [get?, Bindings.empty, Holds]
  bound name := by simp [names, Bindings.empty, Since]
  order := List.Pairwise.nil

/-- The names that are undone are those that are missing. -/
lemma undone_iff (h : Recorded calls b) : Undone calls name ↔ name ∉ b.names := by
  rw [h.bound]
  constructor
  · rintro hundone ⟨place, hplace⟩
    exact hplace.not_undone hundone
  · exact (undone_or_since calls name).resolve_right

/-- A name that was bound before a call which does not unbind it is bound from the same call on. -/
lemma since_of_mem (h : Recorded calls b) {place : ℕ} (hname : name ∈ b.names)
    (hplace : Since (calls ++ [call]) name place) : Since calls name place := by
  rcases since_concat.mp hplace with ⟨hplace, -⟩ | ⟨-, hundone, -⟩
  · exact hplace
  · exact absurd hname (h.undone_iff.mp hundone)

/-- After a call that binds a name, it and the names from before have been bound from some call
on. -/
lemma exists_since_concat_iff (h : Recorded calls b) (hcall : call.Binds name v) {other : String} :
    (∃ place, Since (calls ++ [call]) other place) ↔ other ∈ b.names ∨ other = name := by
  simp only [since_concat, hcall.iff, h.undone_iff, hcall.not_unbinds]
  constructor
  · rintro ⟨place, ⟨hplace, -⟩ | ⟨-, -, w, hother, -⟩⟩
    · exact .inl ((h.bound other).mpr ⟨place, hplace⟩)
    · exact .inr hother
  · intro hother
    by_cases hold : other ∈ b.names
    · obtain ⟨place, hplace⟩ := (h.bound other).mp hold
      exact ⟨place, .inl ⟨hplace, not_false⟩⟩
    · exact ⟨_, .inr ⟨rfl, hold, v, hother.resolve_left hold, rfl⟩⟩

/-- A call that binds is recorded. -/
lemma bind (h : Recorded calls b) (hcall : call.Binds name v) :
    Recorded (calls ++ [call]) (b.set name v) where
  nodup := by
    rw [names_set]
    split
    · exact h.nodup
    next hname =>
      refine List.nodup_append.mpr ⟨h.nodup, List.nodup_singleton name, fun a ha b hb => ?_⟩
      rw [List.mem_singleton.mp hb]
      exact ne_of_mem_of_not_mem ha hname
  value other w := by
    rw [get?_set, holds_concat, hcall.iff]
    split
    next hother => simp [hother, hcall.iff, eq_comm]
    next hother => simp [hother, hcall.iff, hcall.not_unbinds, h.value]
  bound other := by
    rw [names_set, h.exists_since_concat_iff hcall]
    split
    next hname =>
      refine ⟨.inl, ?_⟩
      rintro (hother | rfl)
      · exact hother
      · exact hname
    next => rw [List.mem_append, List.mem_singleton]
  order := by
    have hold : b.names.Pairwise fun first second => ∀ i j, Since (calls ++ [call]) first i →
        Since (calls ++ [call]) second j → i < j :=
      h.order.imp_of_mem fun hfirst hsecond hlt i j hi hj =>
        hlt i j (h.since_of_mem hfirst hi) (h.since_of_mem hsecond hj)
    rw [names_set]
    split
    · exact hold
    next hname =>
      refine List.pairwise_append.mpr ⟨hold, List.pairwise_singleton _ _, ?_⟩
      intro first hfirst second hsecond i j hi hj
      obtain rfl := List.mem_singleton.mp hsecond
      -- the name was not bound before, so it is bound from this call on
      rcases since_concat.mp hj with ⟨hj, -⟩ | ⟨rfl, -⟩
      · exact absurd ((h.bound second).mpr ⟨j, hj⟩) hname
      · exact (h.since_of_mem hfirst hi).lt_length

/-- So is one that removes a name. -/
lemma unbind (h : Recorded calls b) (name : String) :
    Recorded (calls ++ [.remove name]) (b.remove name) where
  nodup := by
    rw [names_remove h.nodup]
    exact h.nodup.filter _
  value other w := by
    rw [get?_remove h.nodup, holds_concat]
    split
    next hother => simp [hother, Call.Unbinds, Call.Binds, Call.binding?]
    next hother => simp [Ne.symm hother, Call.Unbinds, Call.Binds, Call.binding?, h.value]
  bound other := by
    simp only [names_remove h.nodup, List.mem_filter, h.bound, since_concat, bne_iff_ne]
    simp [Call.Unbinds, Call.Binds, Call.binding?, eq_comm]
  order := by
    rw [names_remove h.nodup]
    refine (h.order.filter _).imp_of_mem fun hfirst hsecond hlt i j hi hj => ?_
    exact hlt i j (h.since_of_mem (List.mem_filter.mp hfirst).1 hi)
      (h.since_of_mem (List.mem_filter.mp hsecond).1 hj)

/-- So is one that removes all. -/
lemma clear (calls : List Call) : Recorded (calls ++ [.clear]) Bindings.empty where
  nodup := List.nodup_nil
  value name v := by
    simp [get?, Bindings.empty, holds_concat, Call.Unbinds, Call.Binds, Call.binding?]
  bound name := by
    simp [names, Bindings.empty, since_concat, Call.Unbinds, Call.Binds, Call.binding?]
  order := List.Pairwise.nil

/-- One more call is recorded, too. -/
lemma run (h : Recorded calls b) (call : Call) : Recorded (calls ++ [call]) (call.run b).2 := by
  cases call with
  | set name v =>
      rw [Call.run, exchange_eq]
      exact h.bind rfl
  | setLastResult v =>
      rw [Call.run, exchange_eq]
      exact h.bind rfl
  | remove name => exact h.unbind name
  | clear => exact clear calls

end Recorded

/-- All calls are recorded, one after another. -/
lemma recorded_play (calls : List Call) : Recorded calls (play calls) := by
  induction calls using List.reverseRecOn with
  | nil => exact .empty
  | append_singleton calls call ih =>
      rw [play, List.foldl_append]
      exact ih.run call

/-- What can be told of bindings that the calls made: besides their values and their order, what the
next call tells, how many names there are, and how they are listed with their kinds. -/
structure Chronicle (calls : List Call) (b : Bindings) : Prop extends Recorded calls b where
  since_unique : ∀ name i j, Since calls name i → Since calls name j → i = j
  set_tells : ∀ name v, ((Call.set name v).run b).1 = b.get? name
  remove_tells : ∀ name, ((Call.remove name).run b).1 = b.get? name
  entries : ∀ name v, (name, v) ∈ b.entries ↔ Holds calls name v
  size : b.size = {name | ∃ v, Holds calls name v}.ncard
  kinds : ∀ name kind, (name, kind) ∈ b.kinds ↔ ∃ v, Holds calls name v ∧ v.kind = kind
  kinds_order : b.kinds.map Prod.fst = b.names

/-- **Bindings are an insertion-ordered map.** After any calls on empty bindings, the value of a
name is that of the last call that bound it, unless a later one unbound it; names are listed in the
order of the calls that they have been bound from on, each of them once; and the next call that
binds or unbinds a name tells the value that it had. -/
theorem chronicle_play (calls : List Call) : Chronicle calls (play calls) := by
  have h := recorded_play calls
  have hentries : ∀ name v, (name, v) ∈ (play calls).entries ↔ Holds calls name v := fun name v =>
    (mem_entries_iff h.nodup).trans (h.value name v)
  exact
    { h with
      since_unique := fun _ _ _ => Since.unique
      set_tells := fun name v => by rw [Call.run, exchange_eq]
      remove_tells := fun name => by rw [Call.run, take_eq h.nodup]
      entries := hentries
      size := by
        have hnames :
            {name | ∃ v, Holds calls name v} = ((play calls).names.toFinset : Set String) := by
          ext name
          simp [mem_names_iff, h.value]
        rw [hnames, Set.ncard_coe_finset, List.toFinset_card_of_nodup h.nodup, names,
          List.length_map]
        rfl
      kinds := fun name kind => by
        simp only [Bindings.kinds, List.mem_map, Prod.exists, Prod.mk.injEq, hentries]
        constructor
        · rintro ⟨_, v, hv, rfl, rfl⟩
          exact ⟨v, hv, rfl⟩
        · rintro ⟨v, hv, rfl⟩
          exact ⟨name, v, hv, rfl, rfl⟩
      kinds_order := by
        rw [Bindings.kinds, List.map_map]
        rfl }

/-- A name that is bound again keeps its place, and one that was unbound comes last. -/
example :
    (play [.set "x" (.int 1), .set "y" (.int 2), .set "x" (.int 3)]).names = ["x", "y"] ∧
      (play [.set "x" (.int 1), .set "y" (.int 2), .remove "x", .set "x" (.int 3)]).names =
        ["y", "x"] := by
  decide

end LineRepl.Bindings
