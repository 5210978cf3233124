import Mathlib.Data.Finset.Card
import SchemaDecl.Proofs.List
import SchemaDecl.Record.Registry

/-!
# Sequences of registrations

A registry is asked to register one record after the other, and some of these calls fail.  A call
that fails leaves the registry as it was, and so does one that finds its name declared.  So the
registry holds the first call of each name, whatever was called in between, and the answer to a
call can be told from the calls before it.

## Main definitions

* `Registry.answer`, `Registry.after` — the answer to a call, and the registry after it.
* `Registry.answers`, `Registry.afterAll` — the same for a sequence of calls.
* `Registry.firstUse?` — the first call that has used a name.
* `Registry.ofCalls` — the registry that holds the first call of each name.
* `Registry.Answers` — what a call is to be answered after those before it.

## Main results

* `Registry.register_ofCalls` — **one call** on the first calls of each name.
* `Registry.afterAll_empty` — a sequence of calls leaves the first of each name.
* `Registry.forall_isOk_answers_iff` — a sequence succeeds exactly if names determine records.
* `Registry.answers_of_calls` — **how the calls of a sequence are answered**.
-/

namespace SchemaDecl

theorem Record.eq_iff {r s : Record} : r = s ↔ r.name = s.name ∧ r.fields = s.fields := by
  cases r
  cases s
  rw [Record.mk.injEq]

namespace Registry

/-! ### Calls -/

/-- The answer to the call that registers a record at a path. -/
def answer (reg : Registry) (call : Declared) : Except CompileError Registration :=
  (reg.register call.record call.path).map Prod.fst

/-- The registry after a call.  One that fails leaves it as it was. -/
def after (reg : Registry) (call : Declared) : Registry :=
  match reg.register call.record call.path with
  | .ok (_, reg) => reg
  | .error _ => reg

/-- The answers to a sequence of calls, each on the registry that those before it have left. -/
def answers (reg : Registry) : List Declared → List (Except CompileError Registration)
  | [] => []
  | call :: rest => reg.answer call :: (reg.after call).answers rest

/-- The registry after a sequence of calls. -/
def afterAll (reg : Registry) (calls : List Declared) : Registry := calls.foldl after reg

@[simp] theorem answers_nil (reg : Registry) : reg.answers [] = [] := rfl

@[simp] theorem answers_cons (reg : Registry) (call : Declared) (rest : List Declared) :
    reg.answers (call :: rest) = reg.answer call :: (reg.after call).answers rest := rfl

@[simp] theorem afterAll_nil (reg : Registry) : reg.afterAll [] = reg := rfl

@[simp] theorem afterAll_cons (reg : Registry) (call : Declared) (rest : List Declared) :
    reg.afterAll (call :: rest) = (reg.after call).afterAll rest := rfl

@[simp] theorem afterAll_concat (reg : Registry) (calls : List Declared) (call : Declared) :
    reg.afterAll (calls ++ [call]) = (reg.afterAll calls).after call := by
  simp [afterAll]

@[simp] theorem length_answers (reg : Registry) (calls : List Declared) :
    (reg.answers calls).length = calls.length := by
  induction calls generalizing reg with
  | nil => rfl
  | cons call rest ih => simp [ih]

/-- Later calls are answered on the registry that the earlier ones have left. -/
theorem answers_append (reg : Registry) (calls rest : List Declared) :
    reg.answers (calls ++ rest) = reg.answers calls ++ (reg.afterAll calls).answers rest := by
  induction calls generalizing reg with
  | nil => rfl
  | cons call calls ih => simp [ih]

/-! ### The first call of each name -/

/-- The first of the calls that has used a name. -/
def firstUse? (calls : List Declared) (name : String) : Option Declared :=
  calls.find? fun c => c.record.name = name

theorem firstUse?_eq_none_iff (calls : List Declared) (name : String) :
    firstUse? calls name = none ↔ ∀ c ∈ calls, c.record.name ≠ name := by
  simp [firstUse?]

theorem mem_of_firstUse? {calls : List Declared} {name : String} {first : Declared}
    (h : firstUse? calls name = some first) : first ∈ calls := List.mem_of_find?_eq_some h

theorem name_of_firstUse? {calls : List Declared} {name : String} {first : Declared}
    (h : firstUse? calls name = some first) : first.record.name = name := by
  have := List.find?_some h
  exact of_decide_eq_true this

/-- The registry that holds the first call of each name. -/
def ofCalls (calls : List Declared) : Registry := ⟨calls.keepFirst (·.record.name)⟩

@[simp] theorem ofCalls_nil : ofCalls [] = empty := rfl

/-- The registry finds the first call of a name. -/
theorem find?_ofCalls (calls : List Declared) (name : String) :
    (ofCalls calls).find? name = firstUse? calls name := by
  rw [find?, ofCalls, firstUse?, ← List.find?_keepFirst]
  rfl

/-- A call of a new name is held after the others. -/
theorem ofCalls_concat_of_new {calls : List Declared} {call : Declared}
    (h : firstUse? calls call.record.name = none) :
    ofCalls (calls ++ [call]) = (ofCalls calls).push call.record call.path := by
  have hnew : ¬ ∃ c ∈ calls, c.record.name = call.record.name := by
    rintro ⟨c, hc, hname⟩
    exact (firstUse?_eq_none_iff _ _).mp h c hc hname
  rw [ofCalls, List.keepFirst_concat, if_neg hnew]
  rfl

/-- A call of a name that has been used is not held. -/
theorem ofCalls_concat_of_used {calls : List Declared} {call first : Declared}
    (h : firstUse? calls call.record.name = some first) :
    ofCalls (calls ++ [call]) = ofCalls calls := by
  rw [ofCalls, List.keepFirst_concat, if_pos ⟨first, mem_of_firstUse? h, name_of_firstUse? h⟩,
    ofCalls]

/-- **One call.**  Its name is new, or its fields are compared with those of the first call of its
name. -/
theorem register_ofCalls (calls : List Declared) (call : Declared) :
    (ofCalls calls).register call.record call.path
      = match firstUse? calls call.record.name with
        | none => .ok (.new, ofCalls (calls ++ [call]))
        | some first =>
          if first.record.fields = call.record.fields then
            .ok (.alreadyDeclared, ofCalls (calls ++ [call]))
          else .error (.nameCollision call.record.name call.path first.path) := by
  rw [register, find?_ofCalls]
  cases h : firstUse? calls call.record.name with
  | none => rw [ofCalls_concat_of_new h]
  | some first => rw [ofCalls_concat_of_used h]

/-- The answer to a call can be told from the calls before it. -/
theorem answer_ofCalls (calls : List Declared) (call : Declared) :
    (ofCalls calls).answer call
      = match firstUse? calls call.record.name with
        | none => .ok .new
        | some first =>
          if first.record.fields = call.record.fields then .ok .alreadyDeclared
          else .error (.nameCollision call.record.name call.path first.path) := by
  rw [answer, register_ofCalls]
  cases firstUse? calls call.record.name with
  | none => rfl
  | some first =>
    by_cases hfields : first.record.fields = call.record.fields <;> simp [hfields, Except.map]

/-- Whether a call fails or not, the registry holds the first call of each name after it. -/
theorem after_ofCalls (calls : List Declared) (call : Declared) :
    (ofCalls calls).after call = ofCalls (calls ++ [call]) := by
  rw [after, register_ofCalls]
  cases h : firstUse? calls call.record.name with
  | none => rfl
  | some first =>
    by_cases hfields : first.record.fields = call.record.fields
    · simp [hfields]
    · simp [hfields, ofCalls_concat_of_used h]

/-- **A sequence of calls** leaves the first call of each name. -/
theorem afterAll_empty (calls : List Declared) : empty.afterAll calls = ofCalls calls := by
  induction calls using List.reverseRecOn with
  | nil => rfl
  | append_singleton calls call ih => rw [afterAll_concat, ih, after_ofCalls]

/-- The answers to a sequence of calls, around one of them. -/
theorem answers_empty_append_cons (before rest : List Declared) (call : Declared) :
    empty.answers (before ++ call :: rest)
      = empty.answers before ++
        (ofCalls before).answer call :: (ofCalls (before ++ [call])).answers rest := by
  rw [answers_append, answers_cons, afterAll_empty, after_ofCalls]

/-! ### What is asked of an answer -/

/-- What a call is to be answered after the calls before it. -/
structure Answers (before : List Declared) (call : Declared)
    (a : Except CompileError Registration) : Prop where
  /-- The call is new exactly if no call before it has used its name. -/
  new_iff : a = .ok .new ↔ ∀ c ∈ before, c.record.name ≠ call.record.name
  /-- Otherwise it is known exactly if it has the fields of the first call of its name, in the same
  order. -/
  alreadyDeclared_iff : ∀ first, firstUse? before call.record.name = some first →
    (a = .ok .alreadyDeclared ↔ call.record.fields = first.record.fields)
  /-- If it has other fields, the answer gives the paths of both calls. -/
  nameCollision : ∀ first, firstUse? before call.record.name = some first →
    call.record.fields ≠ first.record.fields →
    a = .error (.nameCollision call.record.name call.path first.path)

/-- The registry answers a call as is asked. -/
theorem answers_answer (before : List Declared) (call : Declared) :
    Answers before call ((ofCalls before).answer call) := by
  have hanswer := answer_ofCalls before call
  cases hfirst : firstUse? before call.record.name with
  | none =>
    rw [hfirst] at hanswer
    have hnew := (firstUse?_eq_none_iff _ _).mp hfirst
    constructor
    · exact iff_of_true hanswer hnew
    · simp [hfirst]
    · simp [hfirst]
  | some first =>
    rw [hfirst] at hanswer
    have hused : ¬ ∀ c ∈ before, c.record.name ≠ call.record.name := by
      intro hnew
      exact hnew first (mem_of_firstUse? hfirst) (name_of_firstUse? hfirst)
    by_cases hfields : first.record.fields = call.record.fields
    · constructor <;> simp_all
    · constructor <;> simp_all [Ne.symm hfields]

/-- A call that is not new leaves no trace. -/
theorem ofCalls_concat_of_answer_ne_new {before : List Declared} {call : Declared}
    (h : (ofCalls before).answer call ≠ .ok .new) :
    ofCalls (before ++ [call]) = ofCalls before := by
  cases hfirst : firstUse? before call.record.name with
  | none =>
    rw [answer_ofCalls, hfirst] at h
    exact absurd rfl h
  | some first => exact ofCalls_concat_of_used hfirst

/-! ### What is held, and what succeeds -/

/-- As many calls are held as names have been used. -/
theorem size_ofCalls (calls : List Declared) :
    (ofCalls calls).size = (calls.map (·.record.name)).toFinset.card := by
  have hnames : (calls.map (·.record.name)).toFinset
      = ((calls.keepFirst (·.record.name)).map (·.record.name)).toFinset := by
    ext name
    simp only [List.mem_toFinset, List.mem_map]
    constructor
    · rintro ⟨c, hc, rfl⟩
      exact List.exists_mem_keepFirst _ hc
    · rintro ⟨c, hc, rfl⟩
      exact ⟨c, List.mem_of_mem_keepFirst hc, rfl⟩
  rw [hnames, List.toFinset_card_of_nodup (List.nodup_map_keepFirst _ calls), List.length_map]
  rfl

/-- A name is declared exactly if a call has used it. -/
theorem contains_ofCalls (calls : List Declared) (name : String) :
    (ofCalls calls).contains name = true ↔ ∃ c ∈ calls, c.record.name = name := by
  rw [contains, find?_ofCalls, firstUse?, List.find?_isSome]
  simp

/-- A call succeeds exactly if its name is new or stands for its fields. -/
theorem isOk_answer_iff (before : List Declared) (call : Declared) :
    ((ofCalls before).answer call).isOk = true ↔
      ∀ first, firstUse? before call.record.name = some first →
        first.record.fields = call.record.fields := by
  rw [answer_ofCalls]
  cases firstUse? before call.record.name with
  | none => simp [Except.isOk, Except.toBool]
  | some first =>
    by_cases hfields : first.record.fields = call.record.fields <;>
      simp [hfields, Except.isOk, Except.toBool]

/-- All calls of a sequence succeed exactly if no two of them have one name and differ in their
fields. -/
theorem forall_isOk_answers_iff (calls : List Declared) :
    (∀ a ∈ empty.answers calls, a.isOk = true) ↔ (calls.map (·.record)).InjOn Record.name := by
  induction calls using List.reverseRecOn with
  | nil => exact iff_of_true (fun a ha => absurd ha List.not_mem_nil) (List.injOn_nil _)
  | append_singleton calls call ih =>
    have hanswers := answers_empty_append_cons calls [] call
    rw [hanswers, List.forall_mem_append, ih, answers_nil, List.forall_mem_singleton,
      isOk_answer_iff, List.map_append, List.map_singleton, List.injOn_concat_iff]
    refine and_congr_right fun hinj => ?_
    constructor
    · intro h r hr hname
      cases hfirst : firstUse? calls call.record.name with
      | none =>
        obtain ⟨c, hc, rfl⟩ := List.mem_map.mp hr
        exact absurd hname ((firstUse?_eq_none_iff _ _).mp hfirst c hc)
      | some first =>
        -- the first call of the name stands for all that have used it before
        have hmem : first.record ∈ calls.map (·.record) :=
          List.mem_map_of_mem (mem_of_firstUse? hfirst)
        have hsame := name_of_firstUse? hfirst
        rw [hinj r hr _ hmem (hname.trans hsame.symm)]
        exact Record.eq_iff.mpr ⟨hsame, h first hfirst⟩
    · intro h first hfirst
      have hmem : first.record ∈ calls.map (·.record) :=
        List.mem_map_of_mem (mem_of_firstUse? hfirst)
      rw [h _ hmem (name_of_firstUse? hfirst)]

/-- **How the calls of a sequence are answered.**  Each call has its answer, which can be told from
the calls before it.  A call that fails or finds its name declared leaves the registry as it was,
and without it the other calls are answered in the same way.  The registry has as many names as
have been used, and just those.  Whether all calls succeed does not depend on their order. -/
theorem answers_of_calls (calls : List Declared) :
    (empty.answers calls).length = calls.length ∧
    (∀ before call rest, calls = before ++ call :: rest →
      ∃ a later, empty.answers calls = empty.answers before ++ a :: later ∧
        Answers before call a ∧
        (a ≠ .ok .new →
          empty.afterAll (before ++ [call]) = empty.afterAll before ∧
          empty.answers (before ++ rest) = empty.answers before ++ later)) ∧
    (empty.afterAll calls).size = (calls.map (·.record.name)).toFinset.card ∧
    (∀ name, (empty.afterAll calls).contains name = true ↔
      ∃ call ∈ calls, call.record.name = name) ∧
    ∀ calls', calls.Perm calls' →
      ((∀ a ∈ empty.answers calls, a.isOk = true) ↔ ∀ a ∈ empty.answers calls', a.isOk = true) := by
  refine ⟨length_answers _ _, ?_, ?_, ?_, ?_⟩
  · rintro before call rest rfl
    refine ⟨_, _, answers_empty_append_cons before rest call, answers_answer before call, ?_⟩
    intro hnew
    have hsame := ofCalls_concat_of_answer_ne_new hnew
    rw [afterAll_empty, afterAll_empty, hsame, answers_append, afterAll_empty]
    exact ⟨rfl, rfl⟩
  · rw [afterAll_empty, size_ofCalls]
  · intro name
    rw [afterAll_empty, contains_ofCalls]
  · intro calls' hperm
    -- that names determine records can be told without an order
    simp only [forall_isOk_answers_iff, List.InjOn, (hperm.map _).mem_iff]

/-- The second declaration of this name fails, and the third is that of the first again. -/
theorem answers_of_calls_of_collision :
    Answers [⟨⟨"Order", [⟨"id", .primitive .integer⟩]⟩, "$.first"⟩]
      ⟨⟨"Order", [⟨"id", .primitive .string⟩]⟩, "$.second"⟩
      (.error (.nameCollision "Order" "$.second" "$.first")) ∧
    empty.answers [⟨⟨"Order", [⟨"id", .primitive .integer⟩]⟩, "$.first"⟩,
      ⟨⟨"Order", [⟨"id", .primitive .integer⟩]⟩, "$.third"⟩] = [.ok .new, .ok .alreadyDeclared] ∧
    ¬ ∀ a ∈ empty.answers [⟨⟨"Order", [⟨"id", .primitive .string⟩]⟩, "$.second"⟩,
      ⟨⟨"Order", [⟨"id", .primitive .integer⟩]⟩, "$.first"⟩,
      ⟨⟨"Order", [⟨"id", .primitive .integer⟩]⟩, "$.third"⟩], a.isOk = true := by
  obtain ⟨-, hcalls, -, -, hperm⟩ := answers_of_calls
    [⟨⟨"Order", [⟨"id", .primitive .integer⟩]⟩, "$.first"⟩,
      ⟨⟨"Order", [⟨"id", .primitive .string⟩]⟩, "$.second"⟩,
      ⟨⟨"Order", [⟨"id", .primitive .integer⟩]⟩, "$.third"⟩]
  obtain ⟨a, later, hanswers, ha, hdrop⟩ := hcalls [_] _ [_] rfl
  have hsplit : [.ok .new, .error (.nameCollision "Order" "$.second" "$.first"),
      .ok .alreadyDeclared] = [.ok .new] ++ a :: later := hanswers
  obtain ⟨rfl, rfl⟩ := List.cons.inj (List.cons.inj hsplit).2
  refine ⟨ha, (hdrop (by decide)).2, fun h => ?_⟩
  have hall := (hperm _ (List.Perm.swap _ _ _)).mpr h
  rw [hanswers] at hall
  exact absurd (hall _ (List.mem_append_right _ List.mem_cons_self)) (by decide)

end Registry

end SchemaDecl
