import SchemaDecl.Proofs.Compile.Clash
import SchemaDecl.Proofs.Record.Event
import SchemaDecl.Proofs.Target.Mapping

/-!
# What can go wrong in compiling a schema

Compiling takes the identifiers of the types, takes the identifiers of the fields and spells
their types, and ends at the first fault.  What is wrong can be listed without doing so: a name
clashes with those before it, and a shape cannot be spelled whatever has been spelled
before.  The outcome of every step is then the first fault of its own list, and the lists of
successive steps are appended.  If there is none, each field is declared by itself, and only
the constants of the capacities are carried along.

## Main definitions

* `Target.fieldFaults`, `Target.faults` — all that is wrong with a record and with all of them.
* `Target.declaredField`, `Target.declaration`, `Target.sourceFile` — what is declared if nothing
  is wrong.
* `Target.Fault` — what such a fault can be.

## Main results

* `Target.faults_eq_nil_iff` — when nothing is wrong.
* `Target.declareFields_reports` — the fields of a record end with their first fault.
* `Target.assemble_reports` — and so does a schema whose records can be collected.
* `Target.assemble_eq_ok_iff` — what the output file of a schema holds.
* `Target.compile_first_fault` — **compiling fails with the first fault, if there is one**.
-/

namespace SchemaDecl

namespace Target

/-! ### Fields -/

/-- All that is wrong with the fields of the record `owner` after others: for each, first its
spelling and then its shape. -/
def fieldFaults (target : Target) (isPublic : Bool) (owner : String) (before : List String) :
    List RecordField → List CompileError
  | [] => []
  | field :: rest =>
    (target.clash? (.fieldsOf owner) (target.fieldIdent isPublic) before field.name).toList ++
      ((target.unsupported? owner field).toList ++
        target.fieldFaults isPublic owner (before ++ [field.name]) rest)

/-- All that is wrong with some records: first the spelling of their names, and then their
fields. -/
def faults (target : Target) (isPublic : Bool) (records : List Record) : List CompileError :=
  target.clashes .typeNames (target.typeIdent isPublic) [] (records.map (·.name)) ++
    records.flatMap fun record => target.fieldFaults isPublic record.name [] record.fields

theorem fieldFaults_eq_nil_iff (target : Target) (isPublic : Bool) (owner : String)
    (fields : List RecordField) (before : List String) :
    target.fieldFaults isPublic owner before fields = [] ↔
      target.clashes (.fieldsOf owner) (target.fieldIdent isPublic) before
          (fields.map (·.name)) = [] ∧
        ∀ f ∈ fields, target.unsupported? owner f = none := by
  induction fields generalizing before with
  | nil => simp [fieldFaults, clashes]
  | cons field rest ih =>
    simp only [fieldFaults, clashes, List.map_cons, List.append_eq_nil_iff,
      Option.toList_eq_nil_iff, ih, List.forall_mem_cons]
    tauto

/-- Nothing is wrong exactly if no two types are spelled alike, nor two fields of one type, and
if C has no array of arrays to spell. -/
theorem faults_eq_nil_iff (target : Target) (isPublic : Bool) (records : List Record) :
    target.faults isPublic records = [] ↔
      (records.map (·.name)).InjOn (target.typeIdent isPublic) ∧
      (∀ r ∈ records, (r.fields.map (·.name)).InjOn (target.fieldIdent isPublic)) ∧
      (target.name = "c" → ∀ r ∈ records, ∀ f ∈ r.fields, ∀ element,
        f.shape ≠ .array (.array element)) := by
  have hclashes : ∀ scope spell names,
      target.clashes scope spell [] names = [] ↔ names.InjOn spell := fun scope spell names =>
    target.clashes_eq_nil_iff scope (List.injOn_nil spell) names
  simp only [faults, List.append_eq_nil_iff, List.flatMap_eq_nil_iff, fieldFaults_eq_nil_iff,
    hclashes, unsupported?_eq_none_iff]
  constructor
  · rintro ⟨htypes, hfields⟩
    exact ⟨htypes, fun r hr => (hfields r hr).1, fun hc r hr f hf => (hfields r hr).2 f hf hc⟩
  · rintro ⟨htypes, hfields, hshapes⟩
    exact ⟨htypes, fun r hr => ⟨hfields r hr, fun f hf hc => hshapes hc r hr f hf⟩⟩

end Target

/-! ### Declarations -/

/-- The context after the declaration of fields: their capacities have constants. -/
def MapContext.takeAll (ctx : MapContext) (fields : List DeclaredField) : MapContext :=
  fields.foldl (fun ctx field => ctx.take field.token) ctx

@[simp] theorem MapContext.takeAll_nil (ctx : MapContext) : ctx.takeAll [] = ctx := rfl

@[simp] theorem MapContext.takeAll_cons (ctx : MapContext) (field : DeclaredField)
    (rest : List DeclaredField) :
    ctx.takeAll (field :: rest) = (ctx.take field.token).takeAll rest := rfl

theorem MapContext.takeAll_append (ctx : MapContext) (fields rest : List DeclaredField) :
    ctx.takeAll (fields ++ rest) = (ctx.takeAll fields).takeAll rest := List.foldl_append

@[simp] theorem MapContext.isPublic_takeAll (ctx : MapContext) (fields : List DeclaredField) :
    (ctx.takeAll fields).isPublic = ctx.isPublic := by
  induction fields generalizing ctx with
  | nil => rfl
  | cons field rest ih => rw [takeAll_cons, ih, isPublic_take]

namespace Target

/-- A field of the record `owner` as it is declared. -/
def declaredField (target : Target) (isPublic : Bool) (owner : String) (field : RecordField) :
    DeclaredField where
  name := field.name
  ident := target.fieldIdent isPublic field.name
  shape := field.shape
  token := target.token isPublic owner field

/-- A record as it is declared. -/
def declaration (target : Target) (isPublic : Bool) (record : Record) : Declaration where
  name := target.typeIdent isPublic record.name
  fields := record.fields.map (target.declaredField isPublic record.name)

/-- The contents of the output file of a schema with the given records. -/
def sourceFile (target : Target) (options : Options) (root : Node) (records : List Record) :
    SourceFile :=
  let isPublic := target.showsPublic options
  let declarations := records.map (target.declaration isPublic)
  { declarations
    features := root.features
    constants := ((MapContext.start isPublic).takeAll (declarations.flatMap (·.fields))).constants
    isPublic
    package := options.package }

/-! ### Steps of compiling -/

section Steps

variable {target : Target} (htarget : target ∈ Catalogue.builtin) {isPublic : Bool}

include htarget

/-- Spelling a field ends with what is wrong with its shape, or in its token. -/
theorem mapField_reports (owner : String) (field : RecordField) {ctx : MapContext}
    (hctx : ctx.isPublic = isPublic) :
    Reports (target.unsupported? owner field).toList
      (fun r => r = (target.token isPublic owner field,
        ctx.take (target.token isPublic owner field)))
      (target.mapField owner field ctx).toExcept := by
  cases hfault : target.unsupported? owner field with
  | none =>
    rw [mapField_of_supported htarget hfault ctx, hctx]
    exact ⟨rfl, rfl⟩
  | some e =>
    rw [Mapped.toExcept, mapField_of_unsupported htarget hfault ctx]
    exact rfl

/-- **Declaring the fields of a record** ends with the first fault of them, or declares each. -/
theorem declareFields_reports (owner : String) (fields : List RecordField)
    {before : List String} {claims : Claims} {ctx : MapContext}
    (hclaims : Claims.Of (target.fieldIdent isPublic) before claims)
    (hctx : ctx.isPublic = isPublic) :
    Reports (target.fieldFaults isPublic owner before fields)
      (fun r => r = (fields.map (target.declaredField isPublic owner),
        ctx.takeAll (fields.map (target.declaredField isPublic owner))))
      (target.declareFields owner fields claims ctx) := by
  induction fields generalizing before claims ctx with
  | nil => exact ⟨rfl, rfl⟩
  | cons field rest ih =>
    -- the identifier is taken before the type is spelled, so its fault comes first
    rw [declareFields, fieldFaults, hctx]
    refine (target.claim_reports (.fieldsOf owner) hclaims field.name).bind fun claims hclaims => ?_
    refine (mapField_reports htarget owner field hctx).bind ?_
    rintro _ rfl
    refine (ih hclaims ((ctx.isPublic_take _).trans hctx)).map ?_
    rintro _ rfl
    rfl

/-- Declaring a record ends with the first fault of its fields, or in its declaration. -/
theorem declare_reports (record : Record) {ctx : MapContext} (hctx : ctx.isPublic = isPublic) :
    Reports (target.fieldFaults isPublic record.name [] record.fields)
      (fun r => r = (target.declaration isPublic record,
        ctx.takeAll (target.declaration isPublic record).fields))
      (target.declare record ctx) := by
  rw [declare, hctx]
  refine (declareFields_reports htarget record.name record.fields (claims_nil _) hctx).map ?_
  rintro _ rfl
  rfl

/-- Declaring all records ends with the first fault of their fields, or in their declarations. -/
theorem declareAll_reports (records : List Record) {ctx : MapContext}
    (hctx : ctx.isPublic = isPublic) :
    Reports (records.flatMap fun r => target.fieldFaults isPublic r.name [] r.fields)
      (fun r => r = (records.map (target.declaration isPublic),
        ctx.takeAll ((records.map (target.declaration isPublic)).flatMap (·.fields))))
      (target.declareAll records ctx) := by
  induction records generalizing ctx with
  | nil => exact ⟨rfl, rfl⟩
  | cons record rest ih =>
    rw [declareAll, List.flatMap_cons]
    refine (declare_reports htarget record hctx).bind ?_
    rintro _ rfl
    refine (ih ((ctx.isPublic_takeAll _).trans hctx)).map ?_
    rintro _ rfl
    rw [List.map_cons, List.flatMap_cons, MapContext.takeAll_append]

/-- The output file of a schema whose records can be collected ends with the first fault of
them, or holds their declarations. -/
theorem assemble_reports (options : Options) {root : Node} {records : List Record}
    (h : collectRecords root = .ok records) :
    Reports (target.faults (target.showsPublic options) records)
      (fun file => file = target.sourceFile options root records)
      (target.assemble options root) := by
  rw [assemble, h, faults]
  refine (target.claimTypes_reports _ records (claims_nil _)).bind fun _ _ => ?_
  refine (declareAll_reports htarget records rfl).map ?_
  rintro _ rfl
  rfl

/-- Compiling a schema whose records can be collected ends with the first fault of them. -/
theorem compile_reports (options : Options) {root : Node} {records : List Record}
    (h : collectRecords root = .ok records) :
    Reports (target.faults (target.showsPublic options) records) (fun _ => True)
      (target.compile options root) := by
  have hcompile : target.compile options root
      = target.assemble options root >>= fun file => .ok (target.render file) := by
    rw [compile]
    cases target.assemble options root <;> rfl
  rw [hcompile]
  exact (assemble_reports htarget options h).map fun _ _ => trivial

/-- **What the output file of a schema holds**: the declarations of its records, if these can be
collected and nothing is wrong with them. -/
theorem assemble_eq_ok_iff (options : Options) (root : Node) (file : SourceFile) :
    target.assemble options root = .ok file ↔
      ∃ records, collectRecords root = .ok records ∧
        target.faults (target.showsPublic options) records = [] ∧
        file = target.sourceFile options root records := by
  cases hcollect : collectRecords root with
  | error e =>
    have herror : target.assemble options root = .error e := by
      rw [assemble, hcollect]
      rfl
    simp [herror]
  | ok records =>
    simpa using (assemble_reports htarget options hcollect).eq_ok_iff file

end Steps

/-- A schema that compiles has an output file, of which the text is made. -/
theorem compile_eq_ok_iff (target : Target) (options : Options) (root : Node) (text : String) :
    target.compile options root = .ok text ↔
      ∃ file, target.assemble options root = .ok file ∧ text = target.render file := by
  rw [compile]
  cases target.assemble options root with
  | error e => simp [Except.map]
  | ok file => simp [Except.map, eq_comm]

theorem compile_of_collectRecords_error (target : Target) (options : Options) {root : Node}
    {e : CompileError} (h : collectRecords root = .error e) :
    target.compile options root = .error e := by
  rw [compile, assemble, h]
  rfl

/-! ### Which targets report which faults -/

/-- Names are spelled as they are, unless in Rust or in public Go. -/
theorem ident_eq_self {target : Target} (htarget : target ∈ Catalogue.builtin) {isPublic : Bool}
    (h : ¬ (target.name = "rust" ∨ target.name = "go" ∧ isPublic = true)) (name : String) :
    target.typeIdent isPublic name = name ∧ target.fieldIdent isPublic name = name := by
  simp only [Catalogue.builtin, List.mem_cons, List.not_mem_nil, or_false] at htarget
  rcases htarget with rfl | rfl | rfl | rfl | rfl | rfl | rfl
  case inr.inr.inr.inl =>
    have hprivate : isPublic = false := by
      rw [← Bool.not_eq_true]
      exact fun hpublic => h (Or.inr ⟨rfl, hpublic⟩)
    rw [hprivate]
    exact ⟨rfl, rfl⟩
  case inr.inr.inr.inr.inl => exact absurd (Or.inl rfl) h
  all_goals exact ⟨rfl, rfl⟩

/-- What can be wrong with records: two names of one scope that are spelled alike, or in C an
array of arrays. -/
inductive Fault (target : Target) (isPublic : Bool) : CompileError → Prop
  | typeNames {first second : String} (hne : first ≠ second)
      (hspell : target.typeIdent isPublic first = target.typeIdent isPublic second) :
      Fault target isPublic (.identifierClash target.name (target.typeIdent isPublic second)
        first second .typeNames)
  | fieldsOf {owner first second : String} (hne : first ≠ second)
      (hspell : target.fieldIdent isPublic first = target.fieldIdent isPublic second) :
      Fault target isPublic (.identifierClash target.name (target.fieldIdent isPublic second)
        first second (.fieldsOf owner))
  | nested {shape : Shape} {field owner : String} (hname : target.name = "c") :
      Fault target isPublic (.unsupportedKind target.name shape field owner)

theorem fault_of_mem_clashes {target : Target} {isPublic : Bool} {names before : List String}
    {e : CompileError}
    (h : e ∈ target.clashes .typeNames (target.typeIdent isPublic) before names) :
    Fault target isPublic e := by
  induction names generalizing before with
  | nil => cases h
  | cons name rest ih =>
    rw [clashes, List.mem_append, Option.mem_toList] at h
    rcases h with h | h
    · obtain ⟨first, hne, hspell, rfl⟩ := clash?_eq_some target _ h
      exact .typeNames hne hspell
    · exact ih h

theorem fault_of_mem_fieldFaults {target : Target} {isPublic : Bool} {owner : String}
    {fields : List RecordField} {before : List String} {e : CompileError}
    (h : e ∈ target.fieldFaults isPublic owner before fields) : Fault target isPublic e := by
  induction fields generalizing before with
  | nil => cases h
  | cons field rest ih =>
    rw [fieldFaults, List.mem_append, List.mem_append, Option.mem_toList, Option.mem_toList] at h
    rcases h with h | h | h
    · obtain ⟨first, hne, hspell, rfl⟩ := clash?_eq_some target _ h
      exact .fieldsOf hne hspell
    · rw [unsupported?] at h
      split at h
      · next hname =>
        obtain ⟨shape, -, rfl⟩ := Option.map_eq_some_iff.mp h
        exact .nested hname
      · cases h
    · exact ih h

theorem fault_of_mem_faults {target : Target} {isPublic : Bool} {records : List Record}
    {e : CompileError} (h : e ∈ target.faults isPublic records) : Fault target isPublic e := by
  rw [faults, List.mem_append, List.mem_flatMap] at h
  rcases h with h | ⟨r, -, h⟩
  · exact fault_of_mem_clashes h
  · exact fault_of_mem_fieldFaults h

/-! ### The outcome of compiling -/

section Outcome

variable {target : Target} (htarget : target ∈ Catalogue.builtin) (options : Options) (root : Node)

include htarget

/-- A schema compiles exactly if its records can be collected and nothing is wrong with them. -/
theorem exists_compile_eq_ok_iff :
    (∃ text, target.compile options root = .ok text) ↔
      ∃ records, collectRecords root = .ok records ∧
        target.faults (target.showsPublic options) records = [] := by
  cases hcollect : collectRecords root with
  | error e => simp [target.compile_of_collectRecords_error options hcollect]
  | ok records =>
    simpa using (compile_reports htarget options hcollect).ok_iff

/-- Otherwise it fails as collecting does, or with the first fault of its records. -/
theorem compile_eq_error_iff (e : CompileError) :
    target.compile options root = .error e ↔
      collectRecords root = .error e ∨ ∃ records, collectRecords root = .ok records ∧
        (target.faults (target.showsPublic options) records).head? = some e := by
  cases hcollect : collectRecords root with
  | error e' => simp [target.compile_of_collectRecords_error options hcollect]
  | ok records =>
    simpa using (compile_reports htarget options hcollect).error_iff e

/-- What is not the failure of collecting records is a fault of the records. -/
theorem fault_of_compile {e : CompileError} (h : target.compile options root = .error e)
    (hcollect : collectRecords root ≠ .error e) :
    Fault target (target.showsPublic options) e := by
  rcases (compile_eq_error_iff htarget options root e).mp h with h | ⟨records, -, hhead⟩
  · exact absurd h hcollect
  · exact fault_of_mem_faults (List.mem_of_mem_head? hhead)

/-- Only Rust and public Go spell different names alike. -/
theorem compile_identifierClash {name ident first second : String} {scope : IdentScope}
    (h : target.compile options root = .error (.identifierClash name ident first second scope)) :
    name = target.name ∧ first ≠ second ∧
      (target.name = "rust" ∨ target.name = "go" ∧ options.isPublic = true) := by
  have hfault := fault_of_compile htarget options root h fun hcollect => by
    rcases collectRecords_eq_error hcollect with ⟨_, _, _, heq⟩ | ⟨_, _, _, _, _, _, heq⟩ <;>
      cases heq
  -- in the other languages a spelling is the name itself, and tells names apart
  have hself : ¬ (target.name = "rust" ∨ target.name = "go" ∧ options.isPublic = true) →
      ∀ n, target.typeIdent (target.showsPublic options) n = n ∧
        target.fieldIdent (target.showsPublic options) n = n := by
    refine fun hnot => ident_eq_self htarget fun hor => hnot ?_
    refine hor.imp_right fun ⟨hgo, hshows⟩ => ⟨hgo, ?_⟩
    rw [showsPublic, Bool.and_eq_true] at hshows
    exact hshows.1
  cases hfault with
  | typeNames hne hspell =>
    refine ⟨rfl, hne, by_contra fun hnot => hne ?_⟩
    rwa [(hself hnot first).1, (hself hnot second).1] at hspell
  | fieldsOf hne hspell =>
    refine ⟨rfl, hne, by_contra fun hnot => hne ?_⟩
    rwa [(hself hnot first).2, (hself hnot second).2] at hspell

/-- Only C refuses a shape. -/
theorem compile_unsupportedKind {name field owner : String} {shape : Shape}
    (h : target.compile options root = .error (.unsupportedKind name shape field owner)) :
    name = target.name ∧ target.name = "c" := by
  have hfault := fault_of_compile htarget options root h fun hcollect => by
    rcases collectRecords_eq_error hcollect with ⟨_, _, _, heq⟩ | ⟨_, _, _, _, _, _, heq⟩ <;>
      cases heq
  cases hfault with
  | nested hname => exact ⟨rfl, hname⟩

/-- **Compiling fails with the first fault, if there is one.**  A schema compiles exactly if its
records can be collected, no two of their names are spelled alike, nor two field names of one
record, and C has no array of arrays to spell.  Otherwise it fails as collecting does, or with
the first entry of `faults`.  Only Rust and public Go spell names alike, and only C
refuses a shape. -/
theorem compile_first_fault :
    ((∃ text, target.compile options root = .ok text) ↔
      ∃ records, collectRecords root = .ok records ∧
        (∀ r ∈ records, ∀ s ∈ records,
          target.typeIdent (target.showsPublic options) r.name
            = target.typeIdent (target.showsPublic options) s.name → r.name = s.name) ∧
        (∀ r ∈ records, ∀ f ∈ r.fields, ∀ g ∈ r.fields,
          target.fieldIdent (target.showsPublic options) f.name
            = target.fieldIdent (target.showsPublic options) g.name → f.name = g.name) ∧
        (target.name = "c" → ∀ r ∈ records, ∀ f ∈ r.fields, ∀ element,
          f.shape ≠ .array (.array element))) ∧
    (∀ e, target.compile options root = .error e ↔
      collectRecords root = .error e ∨ ∃ records, collectRecords root = .ok records ∧
        (target.faults (target.showsPublic options) records).head? = some e) ∧
    (∀ name ident first second scope,
      target.compile options root = .error (.identifierClash name ident first second scope) →
      name = target.name ∧ first ≠ second ∧
        (target.name = "rust" ∨ target.name = "go" ∧ options.isPublic = true)) ∧
    (∀ name shape field owner,
      target.compile options root = .error (.unsupportedKind name shape field owner) →
      name = target.name ∧ target.name = "c") := by
  refine ⟨?_, compile_eq_error_iff htarget options root, fun _ _ _ _ _ => ?_, fun _ _ _ _ h => ?_⟩
  · rw [exists_compile_eq_ok_iff htarget]
    simp only [faults_eq_nil_iff, List.InjOn, List.forall_mem_map]
  · exact compile_identifierClash htarget options root
  · exact compile_unsupportedKind htarget options root h

end Outcome

/-- Public Go capitalizes names, so that the two fields of this schema meet. -/
theorem compile_first_fault_of_capitals :
    Target.go ∈ Catalogue.builtin ∧
    Target.go.compile ⟨true, "main"⟩
        (.object (some "Order") [("a", .primitive .string), ("A", .primitive .integer)])
      = .error (.identifierClash "go" "A" "A" "a" (.fieldsOf "Order")) := by
  have hgo : Target.go ∈ Catalogue.builtin := by simp [Catalogue.builtin]
  exact ⟨hgo, ((compile_first_fault hgo _ _).2.1 _).mpr (Or.inr
    ⟨[⟨"Order", [⟨"A", .primitive .integer⟩, ⟨"a", .primitive .string⟩]⟩], rfl, rfl⟩)⟩

end Target

end SchemaDecl
